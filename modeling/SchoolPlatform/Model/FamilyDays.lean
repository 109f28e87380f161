import SchoolPlatform.Model.DailySummary
import SchoolPlatform.Model.Ingest

/-!
# The days of a child, as its family sees them

`childDay` puts the day of a child together from the sessions of its section, its marks and its
coverages; `childHistory` shows stored summaries, and puts together the days that have none. Both
only read.
-/

namespace SchoolPlatform

/-! ## Records -/

/-- What the pages of a family read. A session, given by its id, remembers the period that it was
started in. -/
structure FamilyRecords where
  school : School
  arrivals : List SchoolArrival
  bellPeriodSnapshot : ℕ → PeriodSnapshot

/-- The date and the minutes since midnight that the clocks of a time zone show now. -/
abbrev ZoneClock := String → Date × ℕ

def schoolToday (clock : ZoneClock) (s : School) : Date :=
  (clock (if s.registry.settings.timezone = "" then "Asia/Riyadh"
    else s.registry.settings.timezone)).1

/-- `build_day_schedule_snapshot`, read from one store. -/
def School.scheduleSnapshotOn (s : School) (d : Date) : DayScheduleSnapshot :=
  match s.weekDayOf d with
  | some (w, some schedule) =>
    if w.isSchoolDay then
      { bellScheduleId := some schedule.id
        scheduleName := some schedule.name
        isSchoolDay := true
        periods := (s.periodsOf schedule.id).map BellPeriod.snapshot }
    else emptyDaySchedule
  | _ => emptyDaySchedule

/-- `order_by("-enrolled_at", "-id")`. -/
def latestEnrollments (l : List StudentEnrollment) : List StudentEnrollment :=
  l.insertionSort fun a b =>
    b.enrolledAt < a.enrolledAt ∨ (a.enrolledAt = b.enrolledAt ∧ b.id ≤ a.id)

def School.schoolYears (s : School) : List AcademicYear :=
  s.registry.academicYears.insertionSort fun a b =>
    b.startDate < a.startDate ∨ (a.startDate = b.startDate ∧ b.id ≤ a.id)

def yearOn (day today : Date) (years : List AcademicYear)
    (summary : Option DailyAttendanceSummary) (context : Option AttendanceDayContext)
    (recordedYears : List ℕ) : Option ℕ :=
  match summary with
  | some r => some r.academicYear
  | none =>
    match context.bind fun c => c.academicYear with
    | some year => some year
    | none =>
      match (if day = today then years.find? fun y => y.status = .active else none) with
      | some active => some active.id
      | none =>
        if day < today ∧ recordedYears.dedup.length = 1 then recordedYears.head?
        else (years.find? fun y => y.startDate ≤ day ∧ day ≤ y.endDate).map fun y => y.id

/-! ## Figures of a day -/

/-- `morning_payload`; without a row nothing is recorded. -/
structure MorningPayload where
  status : Option ArrivalStatus
  statusLabel : String
  arrivalTime : Option Instant
  countedLateMinutes : ℕ
  deriving DecidableEq

def ArrivalStatus.label : ArrivalStatus → String
  | .onTime => "في الوقت"
  | .late => "متأخر"

def morningPayload : Option SchoolArrival → MorningPayload
  | none => ⟨none, "لا يوجد سجل وصول", none, 0⟩
  | some a => ⟨some a.lateness.status, a.lateness.status.label, some a.firstArrivalAt,
      a.lateness.countedLateMinutes⟩

def DailyAbsenceStatus.label : DailyAbsenceStatus → String
  | .undetermined => "اليوم غير مكتمل"
  | .none => "حاضر"
  | .partial_ => "حاضر مع غياب جزئي"
  | .full => "غائب"

structure DayFigures where
  date : Date
  absenceStatus : DailyAbsenceStatus
  absenceStatusLabel : String
  completenessStatus : DailyCompleteness
  expectedPeriods : ℕ
  submittedPeriods : ℕ
  presentPeriods : ℕ
  absentPeriods : ℕ
  excusedAbsentPeriods : ℕ
  unexcusedAbsentPeriods : ℤ
  updatedAt : Option Instant
  deriving DecidableEq

/-- The counts that a day without a summary is put together from. -/
structure DayCounts where
  expected : ℕ
  expectedKnown : Bool
  submitted : ℕ
  absent : ℕ
  excused : ℕ
  updatedAt : Option Instant

/-- `summary_payload` of a stored summary. -/
def storedFigures (r : DailyAttendanceSummary) (day : Date) : DayFigures where
  date := day
  absenceStatus := r.absenceStatus
  absenceStatusLabel := r.absenceStatus.label
  completenessStatus := r.completenessStatus
  expectedPeriods := r.expectedPeriods
  submittedPeriods := r.submittedPeriods
  presentPeriods := r.presentPeriods
  absentPeriods := r.absentPeriods
  excusedAbsentPeriods := r.excusedAbsentPeriods
  unexcusedAbsentPeriods := (r.absentPeriods : ℤ) - r.excusedAbsentPeriods
  updatedAt := some r.calculatedAt

/-- `summary_payload` without a summary. Both callers pass what is submitted and not absent as
present. -/
def countedFigures (c : DayCounts) (day : Date) : DayFigures :=
  let classified := classifyDailyAttendance c.expected c.submitted c.absent
  { date := day
    absenceStatus := classified.2
    absenceStatusLabel := classified.2.label
    completenessStatus := if c.expectedKnown then classified.1 else .incomplete
    expectedPeriods := c.expected
    submittedPeriods := c.submitted
    presentPeriods := c.submitted - c.absent
    absentPeriods := c.absent
    excusedAbsentPeriods := c.excused
    unexcusedAbsentPeriods := (c.absent : ℤ) - c.excused
    updatedAt := c.updatedAt }

/-- `max(…, default=None)` of the times of some sessions. -/
def lastUpdate (sessions : List AttendanceSession) : Option Instant :=
  sessions.foldl (fun latest x =>
    some (latest.elim x.updatedAt fun t => if t < x.updatedAt then x.updatedAt else t)) none

def School.hasMark (s : School) (session student : ℕ) : Bool :=
  s.marks.any fun m => m.session = session ∧ m.student = student

/-! ## One day -/

inductive PeriodStatus
  | present | absent | inProgress | notStarted | notRecorded
  deriving DecidableEq

def PeriodStatus.label : PeriodStatus → String
  | .notStarted => "لم تبدأ"
  | .notRecorded => "لم يكتمل التسجيل"
  | .inProgress => "بانتظار اعتماد التحضير"
  | .present => "حاضر"
  | .absent => "غائب"

structure PeriodRow where
  sequence : ℕ
  name : String
  startTime : ℕ
  endTime : ℕ
  status : PeriodStatus
  statusLabel : String
  attendanceDate : Date
  sessionId : Option ℕ
  updatedAt : Option Instant
  excused : Bool
  deriving DecidableEq

structure ChildHeader where
  studentId : ℕ
  fullName : String
  gradeName : String
  sectionName : String
  department : String
  deriving DecidableEq

structure ChildDay where
  child : ChildHeader
  today : DayFigures
  periods : List PeriodRow
  morning : MorningPayload
  deriving DecidableEq

def childHeader (s : School) (student : ℕ) (today : Date) : ChildHeader :=
  let enrollment := (latestEnrollments ((s.enrollmentsOnDate today).filter fun e =>
    e.student = student ∧ e.status = .active ∧
      s.registry.academicYears.any fun y => y.id = e.academicYear ∧ y.status = .active)).head?
  let section_ := enrollment.bind fun e => s.registry.sections.find? fun x => x.id = e.sectionId
  let grade := enrollment.bind fun e => s.registry.grades.find? fun x => x.id = e.grade
  { studentId := student
    fullName := ((s.registry.students.find? fun x => x.id = student).map fun x =>
      x.fullName).getD ""
    gradeName := (grade.map fun x => x.name).getD ""
    sectionName := (section_.map fun x => x.name).getD ""
    department := (section_.map fun x => x.department).getD "" }

/-- The years and sections that the student belongs to on a day. -/
def ownPairs (enrollments : List StudentEnrollment) (summary : Option DailyAttendanceSummary) :
    List (ℕ × ℕ) :=
  (enrollments.map fun e => (e.academicYear, e.sectionId)) ++
    summary.toList.map fun r => (r.academicYear, r.sectionId)

/-- `setdefault` of the period of each session. -/
def withSessionPeriods (bellPeriodSnapshot : ℕ → PeriodSnapshot) (periods : Dict ℕ PeriodSnapshot)
    (sessions : List AttendanceSession) : Dict ℕ PeriodSnapshot :=
  sessions.foldl (fun d x =>
    if (d.get? x.periodSequence).isSome then d
    else d.insert x.periodSequence (bellPeriodSnapshot x.id)) periods

def periodRow (s : FamilyRecords) (student : ℕ) (day today : Date) (minutes : ℕ)
    (excusedIds : List ℕ) (session : Option AttendanceSession) (sequence : ℕ)
    (period : PeriodSnapshot) : PeriodRow :=
  let source := (session.map fun x => s.bellPeriodSnapshot x.id).getD period
  let status : PeriodStatus :=
    match session with
    | some x =>
      if x.status = .submitted then
        if s.school.hasMark x.id student then .absent else .present
      else .inProgress
    | none =>
      if today < day ∨ (day = today ∧ minutes < source.startTime) then .notStarted
      else .notRecorded
  { sequence := sequence
    name := source.name
    startTime := source.startTime
    endTime := source.endTime
    status := status
    statusLabel := status.label
    attendanceDate := day
    sessionId := session.map fun x => x.id
    updatedAt := session.map fun x => x.updatedAt
    excused := decide (status = .absent) && session.any fun x => excusedIds.contains x.id }

def School.excusedSessionIds (s : School) (student : ℕ) (day : Date) : List ℕ :=
  (s.coverages.filter fun c => c.student = student ∧ c.attendanceDate = day ∧
    c.status = .active).map fun c => c.attendanceSession

def School.summaryOf (s : School) (student : ℕ) (day : Date) : Option DailyAttendanceSummary :=
  s.summaries.find? fun r => r.student = student ∧ r.attendanceDate = day

def School.shownSchedule (s : School) (day today : Date) : DayScheduleSnapshot :=
  match s.dayContextOn day with
  | some context => context.scheduleSnapshot
  | none => if day = today then s.scheduleSnapshotOn day else emptyDaySchedule

def School.candidateSessions (s : School) (day : Date) (pairs : List (ℕ × ℕ)) :
    List AttendanceSession :=
  (s.sessions.filter fun x =>
    (pairs.map Prod.snd).contains x.sectionId ∧ x.attendanceDate = day).filter fun x =>
      pairs.contains (x.academicYear, x.sectionId)

def sessionsOf (candidates : List AttendanceSession) (year sectionId : Option ℕ) :
    List AttendanceSession :=
  candidates.filter fun x => some x.academicYear = year ∧ some x.sectionId = sectionId

def childDay (clock : ZoneClock) (s : FamilyRecords) (student : ℕ) (day : Option Date) :
    ChildDay :=
  let today := schoolToday clock s.school
  let day := day.getD today
  let summary := s.school.summaryOf student day
  let context := s.school.dayContextOn day
  let attendance := (s.school.shownSchedule day today).periods.filter fun p =>
    p.isAttendancePeriod
  let enrollments := latestEnrollments ((s.school.enrollmentsOnDate day).filter fun e =>
    e.student = student)
  let candidates := s.school.candidateSessions day (ownPairs enrollments summary)
  let year := yearOn day today s.school.schoolYears summary context
    (candidates.map fun x => x.academicYear)
  let enrollment := enrollments.find? fun e => some e.academicYear = year
  let sectionId := match summary with
    | some r => some r.sectionId
    | none => enrollment.map fun e => e.sectionId
  let sessions := sessionsOf candidates year sectionId
  let sessionsByPeriod := Dict.ofList (sessions.map fun x => (x.periodSequence, x))
  let periods := withSessionPeriods s.bellPeriodSnapshot
    (Dict.ofList (attendance.map fun p => (p.sequence, p))) sessions
  let zone := match context with
    | some c => c.timezoneSnapshot
    | none => if s.school.registry.settings.timezone = "" then "Asia/Riyadh"
      else s.school.registry.settings.timezone
  let excusedIds := s.school.excusedSessionIds student day
  let rows := (periods.insertionSort fun a b => a.1 ≤ b.1).map fun p =>
    periodRow s student day today (clock zone).2 excusedIds (sessionsByPeriod.get? p.1) p.1 p.2
  let expected := (summary.map fun r => r.expectedPeriods).getD 0
  { child := childHeader s.school student today
    today := countedFigures
      { expected := max (max attendance.length expected) periods.length
        expectedKnown := decide (attendance.length ≠ 0 ∨ expected ≠ 0)
        submitted := (rows.filter fun r => r.status = .present ∨ r.status = .absent).length
        absent := (rows.filter fun r => r.status = .absent).length
        excused := (rows.filter fun r => r.excused).length
        updatedAt := lastUpdate sessions } day
    periods := rows
    morning := morningPayload
      (s.arrivals.find? fun a => a.student = student ∧ a.attendanceDate = day) }

/-! ## The days of a range -/

structure HistoryRow where
  day : DayFigures
  morning : MorningPayload
  deriving DecidableEq

structure HistoryTotals where
  presentDays : ℕ
  fullAbsenceDays : ℕ
  partialAbsenceDays : ℕ
  undeterminedDays : ℕ
  incompleteDays : ℕ
  presentPeriods : ℕ
  absentPeriods : ℕ
  excusedAbsentPeriods : ℕ
  unexcusedAbsentPeriods : ℤ
  morningLateDays : ℕ
  countedLateMinutes : ℕ
  deriving DecidableEq

structure ChildHistory where
  results : List HistoryRow
  fromDate : Date
  toDate : Date
  summary : HistoryTotals
  deriving DecidableEq

/-- `validate_profile_range`: the code of the error, if there is one. -/
def validateProfileRange (fromDate toDate : Date) : Option String :=
  if toDate < fromDate then some "INVALID_ATTENDANCE_DATE_RANGE"
  else if 366 < toDate - fromDate + 1 then some "ATTENDANCE_PROFILE_RANGE_TOO_LARGE"
  else none

/-- What `child_history` reads once for all days of the range. -/
structure HistorySources where
  today : Date
  student : ℕ
  summaries : List DailyAttendanceSummary
  arrivals : List SchoolArrival
  years : List AcademicYear
  enrollments : List StudentEnrollment
  allContexts : List AttendanceDayContext
  candidates : List AttendanceSession
  coveredIds : List ℕ

def inRange (fromDate toDate day : Date) : Bool := decide (fromDate ≤ day ∧ day ≤ toDate)

def historySources (clock : ZoneClock) (s : FamilyRecords) (student : ℕ)
    (fromDate toDate : Date) : HistorySources :=
  let within := inRange fromDate toDate
  let summaries := s.school.summaries.filter fun r =>
    r.student = student ∧ within r.attendanceDate = true
  let enrollments := latestEnrollments (s.school.registry.enrollments.filter fun e =>
    e.student = student ∧ e.enrolledAt ≤ toDate)
  let sections := (enrollments.map fun e => e.sectionId) ++ summaries.map fun r => r.sectionId
  { today := schoolToday clock s.school
    student := student
    summaries := summaries
    arrivals := s.arrivals.filter fun a => a.student = student ∧ within a.attendanceDate = true
    years := s.school.schoolYears
    enrollments := enrollments
    allContexts := s.school.dayContexts.filter fun c => within c.attendanceDate = true
    candidates := s.school.sessions.filter fun x =>
      sections.contains x.sectionId ∧ within x.attendanceDate = true
    coveredIds := (s.school.coverages.filter fun c => c.student = student ∧
      within c.attendanceDate = true ∧ c.status = .active).map fun c => c.attendanceSession }

def HistorySources.summaryOn (h : HistorySources) (day : Date) : Option DailyAttendanceSummary :=
  h.summaries.find? fun r => r.attendanceDate = day

def HistorySources.arrivalOn (h : HistorySources) (day : Date) : Option SchoolArrival :=
  h.arrivals.find? fun a => a.attendanceDate = day

def HistorySources.contextOn (h : HistorySources) (day : Date) : Option AttendanceDayContext :=
  h.allContexts.find? fun c => c.attendanceDate = day

def HistorySources.recordedYears (h : HistorySources) (day : Date) : List ℕ :=
  (h.candidates.filter fun x => x.attendanceDate = day ∧
    ((h.summaryOn day).any (fun r => r.academicYear = x.academicYear ∧ r.sectionId = x.sectionId) ∨
      h.enrollments.any fun e => e.academicYear = x.academicYear ∧ e.sectionId = x.sectionId ∧
        e.validOn day = true)).map fun x => x.academicYear

def HistorySources.yearOn (h : HistorySources) (day : Date) : Option ℕ :=
  SchoolPlatform.yearOn day h.today h.years (h.summaryOn day) (h.contextOn day)
    (h.recordedYears day)

def HistorySources.sectionOn (h : HistorySources) (day : Date) : Option ℕ :=
  match h.summaryOn day with
  | some r => some r.sectionId
  | none => (h.enrollments.find? fun e => some e.academicYear = h.yearOn day ∧
      e.validOn day = true).map fun e => e.sectionId

def HistorySources.sessionsOn (h : HistorySources) (day : Date) : List AttendanceSession :=
  sessionsOf (h.candidates.filter fun x => x.attendanceDate = day) (h.yearOn day) (h.sectionOn day)

def HistorySources.context (h : HistorySources) (day : Date) : Option AttendanceDayContext :=
  if (h.sectionOn day).isSome then h.contextOn day else none

/-- The days of which there is something to tell, the last one first. -/
def HistorySources.dates (h : HistorySources) : List Date :=
  ((h.summaries.map fun r => r.attendanceDate) ++ (h.arrivals.map fun a => a.attendanceDate) ++
    ((h.allContexts.map fun c => c.attendanceDate).filter fun day => (h.context day).isSome) ++
    ((h.candidates.map fun x => x.attendanceDate).filter fun day =>
      h.sessionsOn day ≠ [])).dedup.insertionSort fun a b => b ≤ a

def HistorySources.countedDay (h : HistorySources) (s : School) (day : Date) : DayFigures :=
  let sessions := h.sessionsOn day
  let submitted := sessions.filter fun x => x.status = .submitted
  let absent := submitted.filter fun x => s.hasMark x.id h.student
  let expected := ((h.context day).map fun c => c.attendancePeriods.length).getD 0
  countedFigures
    { expected := max expected sessions.length
      expectedKnown := decide (expected ≠ 0)
      submitted := submitted.length
      absent := absent.length
      excused := (absent.filter fun x => h.coveredIds.contains x.id).length
      updatedAt := lastUpdate sessions } day

def HistorySources.row (h : HistorySources) (s : School) (day : Date) : HistoryRow where
  day := match h.summaryOn day with
    | some r => storedFigures r day
    | none => h.countedDay s day
  morning := morningPayload (h.arrivalOn day)

def historyTotals (rows : List HistoryRow) (arrivals : List SchoolArrival) : HistoryTotals :=
  let days (p : DayFigures → Bool) : ℕ := rows.countP fun r => p r.day
  let total (f : DayFigures → ℕ) : ℕ := rows.foldl (fun n r => n + f r.day) 0
  { presentDays := days fun d => d.absenceStatus = .none ∨ d.absenceStatus = .partial_
    fullAbsenceDays := days fun d => d.absenceStatus = .full
    partialAbsenceDays := days fun d => d.absenceStatus = .partial_
    undeterminedDays := days fun d => d.absenceStatus = .undetermined
    incompleteDays := days fun d => d.completenessStatus ≠ .complete
    presentPeriods := total fun d => d.presentPeriods
    absentPeriods := total fun d => d.absentPeriods
    excusedAbsentPeriods := total fun d => d.excusedAbsentPeriods
    unexcusedAbsentPeriods := rows.foldl (fun n r => n + r.day.unexcusedAbsentPeriods) 0
    morningLateDays := arrivals.countP fun a => 0 < a.lateness.countedLateMinutes
    countedLateMinutes := arrivals.foldl (fun n a => n + a.lateness.countedLateMinutes) 0 }

def childHistory (clock : ZoneClock) (s : FamilyRecords) (student : ℕ)
    (fromDate toDate : Option Date) : Except ApiError ChildHistory :=
  let toDate := toDate.getD (schoolToday clock s.school)
  let fromDate := fromDate.getD (toDate - 29)
  match validateProfileRange fromDate toDate with
  | some code => .error
      { code := code, message := "الفترة غير صالحة؛ الحد الأقصى 366 يوماً." }
  | none =>
    let h := historySources clock s student fromDate toDate
    let rows := h.dates.map (h.row s.school)
    .ok
      { results := rows
        fromDate := fromDate
        toDate := toDate
        summary := historyTotals rows h.arrivals }

end SchoolPlatform
