import SchoolPlatform.Model.Dashboard
import SchoolPlatform.Model.FamilyDays
import SchoolPlatform.Model.Timetable

/-!
# The report of absences in selected periods

`getMultiPeriodReport` lists the students absent in all or in any of some periods of a day. A
section is complete when it has submitted each of them, and only its marks count; a period in
which a listed student has no mark is shown as present.
-/

namespace SchoolPlatform

def maxSelectedPeriods : ℕ := 20

def pageSizes : List ℕ := [25, 50, 100]

inductive PeriodMatch
  | allAbsent | anyAbsent
  deriving DecidableEq

/-- A refused selection; the details name the periods that the day does not have. -/
structure SelectionError extends ApiError where
  unknownSequences : List ℕ := []
  deriving DecidableEq

def invalidSelection (message : String) (unknown : List ℕ) : SelectionError where
  code := "INVALID_PERIOD_SELECTION"
  message := message
  unknownSequences := unknown

/-- The context of a day: the saved one, else the one that is saved when it is asked for. -/
def School.dayContextFor (s : School) (d : Date) : AttendanceDayContext :=
  (s.dayContextOn d).getD
    { attendanceDate := d
      academicYear := (s.academicYearOn d).map fun y => y.id
      scheduleSnapshot := if useCurrentSchedule (s.academicYearOn d) s.activeYear then
        s.scheduleSnapshotOn d else emptyDaySchedule
      timezoneSnapshot := s.registry.settings.timezone }

/-- `_validate_sequences`: the selection sorted and without repetitions. -/
def validateSequences (sequences : List ℕ) (context : AttendanceDayContext) :
    Except SelectionError (List ℕ) :=
  let normalized := sortedNat sequences.dedup
  let valid := context.attendancePeriods.map fun p => p.sequence
  let unknown := normalized.filter fun x => x ∉ valid
  if sequences = [] then .error (invalidSelection "اختر حصة واحدة على الأقل." [])
  else if maxSelectedPeriods < normalized.length then
    .error (invalidSelection "عدد الحصص المحددة أكبر من المسموح." [])
  else if unknown ≠ [] then
    .error (invalidSelection "بعض الحصص المحددة غير موجودة في جدول ذلك اليوم." unknown)
  else .ok normalized

/-- A section and its grade, as a report shows and orders them. -/
abbrev NamedSection := Section × Grade

def filtersNothingOr (id : Option ℤ) (p : ℤ → Bool) : Bool :=
  match id with
  | none => true
  | some i => decide (i = 0) || p i

/-- The filters of a report, given by the ids of a grade and of a section. -/
structure SectionFilter where
  gradeId : Option ℤ := none
  sectionId : Option ℤ := none
  deriving DecidableEq

def SectionFilter.admits (f : SectionFilter) (x : Section) : Bool :=
  filtersNothingOr f.gradeId (fun i => decide ((x.grade : ℤ) = i)) &&
    filtersNothingOr f.sectionId (fun i => decide ((x.id : ℤ) = i))

/-- `expected_sections_queryset`: active, with an active student enrolled for the year. -/
def School.expectedSections (s : School) (year : AcademicYear) : List Section :=
  s.registry.sections.filter fun x => x.isActive ∧
    s.registry.enrollments.any fun e => e.sectionId = x.id ∧ e.status = .active ∧
      e.academicYear = year.id ∧ (s.student? e.student).any fun y => y.status = .active

def School.historicalSections (s : School) (daySessions : List AttendanceSession) :
    List Section :=
  s.registry.sections.filter fun x => x.id ∈ daySessions.map fun y => y.sectionId

/-- Python's order of texts, by code points. -/
def textLe (a b : String) : Bool :=
  lexLe (a.toList.map Char.toNat) (b.toList.map Char.toNat)

/-- The order of the key `(grade.sequence, code, id)`. -/
def namedSectionLe (a b : NamedSection) : Bool :=
  ordered [(decide (a.2.sequence ≤ b.2.sequence), decide (b.2.sequence ≤ a.2.sequence)),
    (textLe a.1.code b.1.code, textLe b.1.code a.1.code),
    (decide (a.1.id ≤ b.1.id), decide (b.1.id ≤ a.1.id))]

def reportSections (s : School) (year : AcademicYear) (f : SectionFilter)
    (daySessions : List AttendanceSession) : List NamedSection :=
  let current := (s.expectedSections year).filter f.admits
  let historical := (s.historicalSections daySessions).filter f.admits
  let sections := current ++ historical.filter fun x => x.id ∉ current.map fun y => y.id
  (sections.filterMap fun x => (s.grade? x.grade).map fun g => (x, g)).insertionSort
    fun a b => namedSectionLe a b = true

def periodsBySection (sessions : List AttendanceSession) : Dict ℕ (List ℕ) :=
  (Dict.groupBy (fun x => x.sectionId) sessions).map fun g =>
    (g.1, g.2.map fun x => x.periodSequence)

def completeIds (wanted : List ℕ) (sessions : List AttendanceSession) : List ℕ :=
  ((periodsBySection (sessions.filter fun x => x.status = .submitted)).filter fun g =>
    wanted.all fun p => p ∈ g.2).map Prod.fst

structure IncompleteSection where
  sectionId : ℕ
  sectionName : String
  gradeName : String
  department : String
  missingSequences : List ℕ
  reason : String
  deriving DecidableEq

def missingReason (context : AttendanceDayContext) (inProgress : List ℕ) (p : ℕ) : String :=
  let names := Dict.ofList (context.attendancePeriods.map fun x => (x.sequence, x.name))
  (names.get? p).getD "" ++
    if p ∈ inProgress then ": بدأ التحضير ولم يعتمد" else ": لم يتم التحضير"

def incompleteSections (context : AttendanceDayContext) (wanted : List ℕ)
    (sessions : List AttendanceSession) (sections : List NamedSection) :
    List IncompleteSection :=
  let submitted := periodsBySection (sessions.filter fun x => x.status = .submitted)
  let inProgress := periodsBySection (sessions.filter fun x => x.status ≠ .submitted)
  (sections.filter fun x => x.1.id ∉ completeIds wanted sessions ∧ x.1.isActive).map fun x =>
    let missing := wanted.filter fun p => p ∉ (submitted.get? x.1.id).getD []
    { sectionId := x.1.id
      sectionName := x.1.name
      gradeName := x.2.name
      department := x.1.department
      missingSequences := missing
      reason := "، ".intercalate
        (missing.map (missingReason context ((inProgress.get? x.1.id).getD []))) }

def School.marksOfSessions (s : School) (sessionIds : List ℕ) :
    List (AttendanceMark × AttendanceSession) :=
  (s.marks.filter fun m => m.session ∈ sessionIds).filterMap fun m =>
    (s.session? m.session).map fun x => (m, x)

def matchedIds (wanted : List ℕ) (periodMatch : PeriodMatch)
    (absences : List (AttendanceMark × AttendanceSession)) : List ℕ :=
  let counts := (Dict.groupBy (fun p => p.1.student) absences).map fun g =>
    (g.1, (g.2.map fun p => p.2.periodSequence).dedup.length)
  match periodMatch with
  | .allAbsent => (counts.filter fun c => c.2 = wanted.length).map Prod.fst
  | .anyAbsent => counts.map Prod.fst

inductive ReportStatus
  | absent | present
  deriving DecidableEq

def periodStatusOf (marks : List (AttendanceMark × AttendanceSession)) (student p : ℕ) :
    ReportStatus :=
  match (marks.filter fun x => x.1.student = student ∧ x.2.periodSequence = p).getLast? with
  | some x => match x.1.status with
    | .absent => .absent
  | none => .present

structure ReportStudent where
  studentId : ℕ
  fullName : String
  gradeName : String
  sectionName : String
  department : String
  periodStatuses : List (ℕ × ReportStatus)
  morningArrival : Option String
  deriving DecidableEq

/-- The key `(grade.sequence, section.code, full_name)` by which students are listed. -/
abbrev StudentKey := ℕ × String × String

def studentKeyLe (a b : StudentKey) : Bool :=
  ordered [(decide (a.1 ≤ b.1), decide (b.1 ≤ a.1)), (textLe a.2.1 b.2.1, textLe b.2.1 a.2.1),
    (textLe a.2.2 b.2.2, textLe b.2.2 a.2.2)]

/-- `strftime("%H:%M")` of an instant in a time zone. -/
abbrev ZoneFormat := String → Instant → String

/-- `_morning_arrivals`: the time of the arrival of a student that day. -/
def morningArrival (format : ZoneFormat) (r : AttendanceRecords) (d : Date) (student : ℕ) :
    Option String :=
  (r.arrivals.find? fun a => a.student = student ∧ a.attendanceDate = d).map fun a =>
    format r.school.registry.settings.timezone a.firstArrivalAt

/-- The row of a student, shown under the section of the first of its marks. -/
def matchedStudent (format : ZoneFormat) (r : AttendanceRecords) (d : Date) (wanted : List ℕ)
    (marks : List (AttendanceMark × AttendanceSession)) (student : ℕ) :
    Option (StudentKey × ReportStudent) :=
  ((marks.find? fun p => p.1.student = student).bind fun p =>
    r.school.sectionNames p.2.sectionId).map fun names =>
      let fullName := ((r.school.student? student).map fun x => x.fullName).getD ""
      ((names.2.sequence, names.1.code, fullName),
        { studentId := student
          fullName := fullName
          gradeName := names.2.name
          sectionName := names.1.name
          department := names.1.department
          periodStatuses := wanted.map fun p => (p, periodStatusOf marks student p)
          morningArrival := morningArrival format r d student })

structure MultiPeriodReport where
  date : Date
  periods : List (ℕ × String)
  periodMatch : PeriodMatch
  matchingStudents : ℕ
  completeSections : ℕ
  incompleteCount : ℕ
  students : List ReportStudent
  incompleteSections : List IncompleteSection
  dayPeriods : List (ℕ × String)
  page : ℕ
  pageSize : ℕ
  deriving DecidableEq

/-- What a report rests on: the selection and the sections in scope with their sessions. -/
structure ReportScope where
  wanted : List ℕ
  sections : List NamedSection
  sessions : List AttendanceSession

def reportScope (s : School) (year : AcademicYear) (d : Date) (f : SectionFilter)
    (wanted : List ℕ) : ReportScope :=
  let daySessions := s.sessions.filter fun x => x.attendanceDate = d
  let sections := reportSections s year f daySessions
  { wanted := wanted
    sections := sections
    sessions := daySessions.filter fun x =>
      x.sectionId ∈ sections.map (fun y => y.1.id) ∧ x.periodSequence ∈ wanted }

def ReportScope.completeSessionIds (c : ReportScope) : List ℕ :=
  (c.sessions.filter fun x =>
    x.sectionId ∈ completeIds c.wanted c.sessions ∧ x.status = .submitted).map fun x => x.id

def reportStudents (format : ZoneFormat) (r : AttendanceRecords) (d : Date)
    (periodMatch : PeriodMatch) (c : ReportScope) : List ReportStudent :=
  let complete := r.school.marksOfSessions c.completeSessionIds
  let matched := matchedIds c.wanted periodMatch
    (complete.filter fun p => p.1.status = .absent)
  let marks := complete.filter fun p => p.1.student ∈ matched
  ((matched.filterMap (matchedStudent format r d c.wanted marks)).insertionSort
    fun a b => studentKeyLe a.1 b.1 = true).map Prod.snd

/-- `_paginate`, for a page that counts from one. -/
def pageOf {α : Type} (items : List α) (page pageSize : ℕ) : List α :=
  (items.drop ((page - 1) * pageSize)).take pageSize

def getMultiPeriodReport (format : ZoneFormat) (r : AttendanceRecords) (d : Date)
    (sequences : List ℕ) (periodMatch : PeriodMatch) (f : SectionFilter) (page : ℤ)
    (pageSize : ℕ) : Except SelectionError MultiPeriodReport := do
  let year ← match r.school.activeYear with
    | some year => .ok year
    | none => .error { toApiError := activeYearRequiredError }
  let context := r.school.dayContextFor d
  let wanted ← validateSequences sequences context
  let scope := reportScope r.school year d f wanted
  let incomplete := incompleteSections context wanted scope.sessions scope.sections
  let students := reportStudents format r d periodMatch scope
  let page := (max page 1).toNat
  let pageSize := if pageSize ∈ pageSizes then pageSize else 25
  let dayPeriods := context.attendancePeriods.map fun p => (p.sequence, p.name)
  .ok
    { date := d
      periods := dayPeriods.filter fun p => p.1 ∈ wanted
      periodMatch := periodMatch
      matchingStudents := students.length
      completeSections := (completeIds wanted scope.sessions).length
      incompleteCount := incomplete.length
      students := pageOf students page pageSize
      incompleteSections := incomplete
      dayPeriods := dayPeriods
      page := page
      pageSize := pageSize }

end SchoolPlatform
