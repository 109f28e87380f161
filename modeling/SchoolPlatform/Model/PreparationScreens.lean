import SchoolPlatform.Model.PeriodReport

/-!
# The two screens of preparation

The monitoring board shows how far the sections are with the current period, which it takes from
the live timetable. The preparation screen shows all periods of today by the schedule that the day
is prepared by: the saved one once a session exists. Both judge a session by what it remembered
when it was started, and a section without a session by the settings of now.
-/

namespace SchoolPlatform

/-- An aware `datetime`: microseconds since the beginning of 1970 on the clock of its zone. -/
structure AwareDateTime where
  zone : String
  wall : ℤ
  fold : Bool := false
  deriving DecidableEq

/-- `utcoffset`, which the time zone data decides. -/
abbrev UtcOffset := AwareDateTime → ℤ

def dayMicroseconds : ℤ := 86400 * 1000000

def firstDay1970 : Date := 719163

def AwareDateTime.date (t : AwareDateTime) : Date :=
  (t.wall / dayMicroseconds + firstDay1970).toNat

def AwareDateTime.time (t : AwareDateTime) : TimeOfDay :=
  (t.wall % dayMicroseconds / 1000000).toNat

def utcDateTime (t : Instant) : AwareDateTime := ⟨"UTC", t, false⟩

def combineDateTime (d : Date) (time : TimeOfDay) (zone : String) : AwareDateTime :=
  ⟨zone, ((d : ℤ) - firstDay1970) * dayMicroseconds + time * 1000000, false⟩

/-- The difference of two instants: of one zone by its clock, of two zones in UTC. -/
def AwareDateTime.since (offset : UtcOffset) (a b : AwareDateTime) : ℤ :=
  if a.zone = b.zone then a.wall - b.wall
  else (a.wall - offset a) - (b.wall - offset b)

def alertAtFor (day : Date) (startTime : TimeOfDay) (alertMinutes : ℕ) (zone : String) :
    AwareDateTime :=
  let start := combineDateTime day startTime zone
  { start with wall := start.wall + alertMinutes * 60000000 }

/-- `None` in time, else the whole minutes since the deadline. -/
def overdueMinutes (offset : UtcOffset) (alertAt at_ : AwareDateTime) : Option ℤ :=
  if at_.since offset alertAt < 0 then none else some (at_.since offset alertAt / 60000000)

/-- What a session remembers: the start of its period in minutes and its time zone, the minutes
allowed, and who started it when. -/
structure SessionDetail where
  snapshotStart : ℕ
  snapshotZone : String
  alertMinutesSnapshot : ℕ
  startedByMembership : ℕ
  startedAt : Instant
  deriving DecidableEq

/-- What the screens read; the details of a session are given by its id. -/
structure PreparationRecords where
  school : School
  unpreparedPeriodAlertMinutes : ℕ
  detail : ℕ → SessionDetail

def sessionAlertAt (r : PreparationRecords) (x : AttendanceSession) : AwareDateTime :=
  let detail := r.detail x.id
  alertAtFor x.attendanceDate (detail.snapshotStart * 60) detail.alertMinutesSnapshot
    detail.snapshotZone

/-- `_membership_name`: the name of the staff profile, else of the user. -/
def membershipName (s : School) (membership : Option ℕ) : Option String :=
  (membership.bind fun id => s.registry.memberships.find? fun m => m.id = id).map fun m =>
    m.staffDisplayName.getD m.userDisplayName

inductive PreparationStatus
  | notStarted | inProgress | submitted
  deriving DecidableEq

inductive Timeliness
  | onTime | overdue
  deriving DecidableEq

structure PreparationRow where
  sectionId : ℕ
  sectionName : String
  gradeId : ℕ
  gradeName : String
  department : String
  studentsCount : ℕ
  attendanceStatus : PreparationStatus
  timelinessStatus : Timeliness
  minutesOverdue : Option ℤ
  teacherName : Option String
  startedAt : Option String
  submittedAt : Option String
  sessionId : Option ℕ
  deriving DecidableEq

def PreparationStatus.ofSession : Option AttendanceSession → PreparationStatus
  | none => .notStarted
  | some x => match x.status with
    | .submitted => .submitted
    | .inProgress => .inProgress

def Timeliness.ofMinutes : Option ℤ → Timeliness
  | none => .onTime
  | some _ => .overdue

structure ExpectedSection where
  section_ : Section
  grade : Grade
  activeStudents : ℕ
  deriving DecidableEq

/-- The annotation `active_students`. -/
def School.activeStudents (s : School) (year : AcademicYear) (x : Section) : ℕ :=
  (s.registry.enrollments.filter fun e => e.sectionId = x.id ∧ e.status = .active ∧
    e.academicYear = year.id ∧ (s.student? e.student).any fun y => y.status = .active).length

def expectedSectionList (collation : Collation) (s : School) (year : AcademicYear) :
    List ExpectedSection :=
  ((s.expectedSections year).filterMap fun x => (s.grade? x.grade).map fun g =>
    (⟨x, g, s.activeStudents year x⟩ : ExpectedSection)).insertionSort fun a b =>
      ordered [(decide (a.grade.sequence ≤ b.grade.sequence),
          decide (b.grade.sequence ≤ a.grade.sequence)),
        (collation a.section_.code b.section_.code,
          collation b.section_.code a.section_.code)] = true

def sessionOfSection (sessions : List AttendanceSession) (sectionId : ℕ) :
    Option AttendanceSession :=
  (sessions.filter fun x => x.sectionId = sectionId).getLast?

/-- `get_current_attendance_period`, read from one store. -/
def School.currentAttendancePeriod (s : School) (d : Date) (time : TimeOfDay) :
    Option BellPeriod :=
  match s.weekDayOf d with
  | some (w, some schedule) => if w.isSchoolDay then s.currentPeriod schedule.id time else none
  | _ => none

structure MonitoringSummary where
  total : ℕ
  submitted : ℕ
  inProgress : ℕ
  notStarted : ℕ
  overdueTotal : ℕ
  overdueSubmitted : ℕ
  overdueInProgress : ℕ
  overdueNotStarted : ℕ
  deriving DecidableEq

/-- The row of a section on the board: a section without a session is judged by the deadline of the
current period. -/
def monitoringRow (offset : UtcOffset) (format : ZoneFormat) (r : PreparationRecords)
    (now currentAlertAt : AwareDateTime) (sessions : List AttendanceSession)
    (x : ExpectedSection) : PreparationRow :=
  let session := sessionOfSection sessions x.section_.id
  let localTime := format currentAlertAt.zone
  let minutes := match session with
    | none => overdueMinutes offset currentAlertAt now
    | some y => match y.status with
      | .submitted =>
        overdueMinutes offset (sessionAlertAt r y) (utcDateTime (y.submittedAt.getD 0))
      | .inProgress => overdueMinutes offset (sessionAlertAt r y) now
  { sectionId := x.section_.id
    sectionName := x.section_.name
    gradeId := x.section_.grade
    gradeName := x.grade.name
    department := x.section_.department
    studentsCount := x.activeStudents
    attendanceStatus := PreparationStatus.ofSession session
    timelinessStatus := Timeliness.ofMinutes minutes
    minutesOverdue := minutes
    teacherName := session.bind fun y => match y.status with
      | .submitted => membershipName r.school y.submittedByMembership
      | .inProgress => membershipName r.school (some (r.detail y.id).startedByMembership)
    startedAt := session.map fun y => localTime (r.detail y.id).startedAt
    submittedAt := session.bind fun y => match y.status with
      | .submitted => y.submittedAt.map localTime
      | .inProgress => none
    sessionId := session.map fun y => y.id }

def sortRank : PreparationStatus → Timeliness → ℕ
  | .notStarted, .overdue => 0
  | .inProgress, .overdue => 1
  | .submitted, .overdue => 2
  | .inProgress, .onTime => 3
  | .notStarted, .onTime => 4
  | .submitted, .onTime => 5

def monitoringRowLe (a b : PreparationRow) : Bool :=
  let rank := fun r : PreparationRow => sortRank r.attendanceStatus r.timelinessStatus
  ordered [(decide (rank a ≤ rank b), decide (rank b ≤ rank a)),
    (textLe a.gradeName b.gradeName, textLe b.gradeName a.gradeName),
    (textLe a.sectionName b.sectionName, textLe b.sectionName a.sectionName)]

def countRows (rows : List PreparationRow) (p : PreparationRow → Bool) : ℕ :=
  (rows.filter p).length

def PreparationRow.isOverdue (r : PreparationRow) : Bool :=
  decide (r.timelinessStatus = .overdue)

def PreparationRow.hasStatus (status : PreparationStatus) (r : PreparationRow) : Bool :=
  decide (r.attendanceStatus = status)

def monitoringSummary (rows : List PreparationRow) : MonitoringSummary where
  total := rows.length
  submitted := countRows rows fun r => r.hasStatus .submitted
  inProgress := countRows rows fun r => r.hasStatus .inProgress
  notStarted := countRows rows fun r => r.hasStatus .notStarted
  overdueTotal := countRows rows fun r => r.isOverdue
  overdueSubmitted := countRows rows fun r => r.hasStatus .submitted && r.isOverdue
  overdueInProgress := countRows rows fun r => r.hasStatus .inProgress && r.isOverdue
  overdueNotStarted := countRows rows fun r => r.hasStatus .notStarted && r.isOverdue

structure BoardPeriod where
  sequence : ℕ
  name : String
  startTime : ℕ
  endTime : ℕ
  timezone : String
  alertMinutes : ℕ
  alertAt : ℕ
  deriving DecidableEq

/-- The board; outside an attendance period it is empty. -/
structure MonitoringBoard where
  date : Date
  period : Option BoardPeriod
  summary : Option MonitoringSummary
  sections : List PreparationRow
  deriving DecidableEq

def getCurrentSectionAttendanceStatuses (offset : UtcOffset) (format : ZoneFormat)
    (collation : Collation) (r : PreparationRecords) (now : AwareDateTime) :
    Except ApiError MonitoringBoard := do
  let year ← match r.school.activeYear with
    | some year => .ok year
    | none => .error activeYearRequiredError
  let localDate := now.date
  match r.school.currentAttendancePeriod localDate now.time with
  | none => .ok ⟨localDate, none, none, []⟩
  | some period =>
    let zone := r.school.registry.settings.timezone
    let minutes := r.unpreparedPeriodAlertMinutes
    let currentAlertAt := alertAtFor localDate period.startTime minutes zone
    let sessions := r.school.sessions.filter fun x =>
      x.attendanceDate = localDate ∧ x.periodSequence = period.sequence
    let rows := (expectedSectionList collation r.school year).map
      (monitoringRow offset format r now currentAlertAt sessions)
    .ok
      { date := localDate
        period := some
          { sequence := period.sequence
            name := period.name
            startTime := strftimeHM period.startTime
            endTime := strftimeHM period.endTime
            timezone := zone
            alertMinutes := minutes
            alertAt := strftimeHM currentAlertAt.time }
        summary := some (monitoringSummary rows)
        sections := rows.insertionSort fun a b => monitoringRowLe a b = true }

/-- `today_schedule`, read from one store: the saved schedule and time zone once a session of the
day exists, the live ones before. -/
def School.todayScheduleOn (s : School) (d : Date) : DayScheduleSnapshot × String :=
  match (s.dayContextOn d).filter fun _ => s.sessions.any fun x => x.attendanceDate = d with
  | some context => (context.scheduleSnapshot, context.timezoneSnapshot)
  | none => (s.scheduleSnapshotOn d, s.registry.settings.timezone)

inductive PeriodState
  | current | ended | upcoming
  deriving DecidableEq

def PeriodSnapshot.hasStarted (p : PeriodSnapshot) (time : TimeOfDay) : Bool :=
  decide (p.startTime * 60 ≤ time)

def PeriodSnapshot.isCurrent (p : PeriodSnapshot) (time : TimeOfDay) : Bool :=
  p.hasStarted time && decide (time < p.endTime * 60)

def PeriodSnapshot.state (p : PeriodSnapshot) (time : TimeOfDay) : PeriodState :=
  if p.isCurrent time then .current else if p.hasStarted time then .ended else .upcoming

/-- The row of a section in a period: a section without a session is judged by the deadline of the
period in the schedule of today. -/
def preparationRow (offset : UtcOffset) (format : ZoneFormat) (r : PreparationRecords)
    (now : AwareDateTime) (timezone : String) (period : PeriodSnapshot)
    (sessions : List AttendanceSession) (x : ExpectedSection) : PreparationRow :=
  let session := sessionOfSection (sessions.filter fun y => y.periodSequence = period.sequence)
    x.section_.id
  let status := PreparationStatus.ofSession session
  let deadline := match session with
    | some y => sessionAlertAt r y
    | none => alertAtFor now.date (period.startTime * 60) r.unpreparedPeriodAlertMinutes timezone
  let reference := match session with
    | some y => match y.status with
      | .submitted => utcDateTime (y.submittedAt.getD 0)
      | .inProgress => now
    | none => now
  let delay := overdueMinutes offset deadline reference
  { sectionId := x.section_.id
    sectionName := x.section_.name
    gradeId := x.section_.grade
    gradeName := x.grade.name
    department := x.section_.department
    studentsCount := x.activeStudents
    attendanceStatus := status
    timelinessStatus := Timeliness.ofMinutes delay
    minutesOverdue := delay
    teacherName := session.bind fun y => match y.status with
      | .submitted => membershipName r.school y.submittedByMembership
      | .inProgress => membershipName r.school (some (r.detail y.id).startedByMembership)
    startedAt := session.map fun y => format timezone (r.detail y.id).startedAt
    submittedAt := session.bind fun y => y.submittedAt.map (format timezone)
    sessionId := session.map fun y => y.id }

def preparationRowLe (a b : PreparationRow) : Bool :=
  let submitted := fun r : PreparationRow => (r.hasStatus .submitted).toNat
  let inTime := fun r : PreparationRow => (!r.isOverdue).toNat
  ordered [(decide (submitted a ≤ submitted b), decide (submitted b ≤ submitted a)),
    (decide (inTime a ≤ inTime b), decide (inTime b ≤ inTime a)),
    (textLe a.gradeName b.gradeName, textLe b.gradeName a.gradeName),
    (textLe a.sectionName b.sectionName, textLe b.sectionName a.sectionName),
    (textLe a.department b.department, textLe b.department a.department)]

structure PreparationSummary where
  total : ℕ
  submitted : ℕ
  inProgress : ℕ
  notStarted : ℕ
  incomplete : ℕ
  overdue : ℕ
  deriving DecidableEq

def preparationSummary (total : ℕ) (rows : List PreparationRow) : PreparationSummary where
  total := total
  submitted := countRows rows fun r => r.hasStatus .submitted
  inProgress := countRows rows fun r => r.hasStatus .inProgress
  notStarted := countRows rows fun r => r.hasStatus .notStarted
  incomplete := rows.length - countRows rows fun r => r.hasStatus .submitted
  overdue := countRows rows fun r => !r.hasStatus .submitted && r.isOverdue

structure PreparedPeriod where
  period : PeriodSnapshot
  timezone : String
  state : PeriodState
  summary : Option PreparationSummary
  sections : List PreparationRow
  deriving DecidableEq

structure TodayPreparation where
  date : Date
  isSchoolDay : Bool
  periods : List PreparedPeriod
  deriving DecidableEq

/-- A period on the screen; one that has not started has no rows. -/
def preparedPeriod (offset : UtcOffset) (format : ZoneFormat) (r : PreparationRecords)
    (now : AwareDateTime) (timezone : String) (sections : List ExpectedSection)
    (sessions : List AttendanceSession) (period : PeriodSnapshot) : PreparedPeriod :=
  let rows := (if period.hasStarted now.time then sections else []).map
    (preparationRow offset format r now timezone period sessions)
  { period := period
    timezone := timezone
    state := period.state now.time
    summary := if period.hasStarted now.time then
      some (preparationSummary sections.length rows) else none
    sections := rows.insertionSort fun a b => preparationRowLe a b = true }

def getTodayPreparation (offset : UtcOffset) (format : ZoneFormat) (collation : Collation)
    (r : PreparationRecords) (now : AwareDateTime) : Except ApiError TodayPreparation := do
  let year ← match r.school.activeYear with
    | some year => .ok year
    | none => .error activeYearRequiredError
  let (schedule, timezone) := r.school.todayScheduleOn now.date
  let sections := expectedSectionList collation r.school year
  let sessions := r.school.sessions.filter fun x => x.attendanceDate = now.date
  .ok
    { date := now.date
      isSchoolDay := schedule.isSchoolDay
      periods := (schedule.periods.filter fun p => p.isAttendancePeriod).map
        (preparedPeriod offset format r now timezone sections sessions) }

end SchoolPlatform
