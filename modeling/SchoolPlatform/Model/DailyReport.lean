import SchoolPlatform.Model.PeriodReport

/-!
# The daily report

`getDailyReport` counts the students of a day by the status of their summaries, and lists those of
one status. Whoever is enrolled on the day and has no summary with a status is unrecorded; today
only the summaries of students are counted who are expected to be prepared.
-/

namespace SchoolPlatform

structure CurrentDayScope where
  rosterStudents : ℕ
  totalStudents : ℕ
  presentStudents : ℕ
  absentStudents : ℕ
  partialAbsenceStudents : ℕ
  unrecordedStudents : ℕ
  awaitingPreparationStudents : ℕ
  missingSummaryStudents : ℕ
  excludedStudents : ℕ
  inactiveAssignmentStudents : ℕ
  eligibleIds : List ℕ
  excludedIds : List ℕ
  inactiveAssignmentIds : List ℕ
  awaitingPreparationIds : List ℕ
  missingSummaryIds : List ℕ
  deriving DecidableEq

/-- The expected sections whose grade is active. -/
def School.preparedSectionIds (s : School) (year : AcademicYear) : List ℕ :=
  ((s.expectedSections year).filter fun x => (s.grade? x.grade).any fun g => g.isActive).map
    fun x => x.id

def School.eligibleEnrollments (s : School) (year : AcademicYear) (d : Date) :
    List StudentEnrollment :=
  (s.enrollmentsOnDate d).filter fun e => e.academicYear = year.id ∧
    e.sectionId ∈ s.preparedSectionIds year ∧ e.status = .active ∧
    (s.student? e.student).any fun x => x.status = .active

def currentDayScope (s : School) (year : AcademicYear) (d : Date) : CurrentDayScope :=
  let sectionByStudent := Dict.ofList
    ((s.eligibleEnrollments year d).map fun e => (e.student, e.sectionId))
  let eligible := sectionByStudent.keys
  let roster := (s.registry.students.filter fun x => x.status = .active).map fun x => x.id
  let excluded := roster.filter fun x => x ∉ eligible
  let inactive := ((s.registry.enrollments.filter fun e => e.academicYear = year.id ∧
    e.status = .active ∧ e.student ∈ excluded ∧
      ((s.section? e.sectionId).any (fun x => !x.isActive) ∨
        (s.grade? e.grade).any fun g => !g.isActive)).map fun e => e.student).dedup
  let rows := s.summaries.filter fun r => r.attendanceDate = d ∧ r.student ∈ eligible ∧
    0 < r.submittedPeriods
  let present := ((rows.filter fun r => r.absenceStatus = .none ∨ r.absenceStatus = .partial_).map
    fun r => r.student).dedup
  let absent := ((rows.filter fun r => r.absenceStatus = .full).map fun r => r.student).dedup
  let partly := ((rows.filter fun r => r.absenceStatus = .partial_).map fun r => r.student).dedup
  let unrecorded := eligible.filter fun x => x ∉ present ∧ x ∉ absent
  let submittedSections := (s.sessions.filter fun x => x.attendanceDate = d ∧
    x.sectionId ∈ s.preparedSectionIds year ∧ x.status = .submitted).map fun x => x.sectionId
  let awaiting := unrecorded.filter fun x =>
    (sectionByStudent.get? x).all fun y => y ∉ submittedSections
  let missing := unrecorded.filter fun x => x ∉ awaiting
  { rosterStudents := roster.length
    totalStudents := eligible.length
    presentStudents := present.length
    absentStudents := absent.length
    partialAbsenceStudents := partly.length
    unrecordedStudents := unrecorded.length
    awaitingPreparationStudents := awaiting.length
    missingSummaryStudents := missing.length
    excludedStudents := excluded.length
    inactiveAssignmentStudents := inactive.length
    eligibleIds := eligible
    excludedIds := excluded
    inactiveAssignmentIds := inactive
    awaitingPreparationIds := awaiting
    missingSummaryIds := missing }

def School.sectionInGrade (s : School) (gradeId : Option ℤ) (sectionId : ℕ) : Bool :=
  filtersNothingOr gradeId fun g => (s.section? sectionId).any fun x => (x.grade : ℤ) = g

def dailyRows (s : School) (scope : Option CurrentDayScope) (d : Date) (gradeId : Option ℤ) :
    List DailyAttendanceSummary :=
  s.summaries.filter fun r => r.attendanceDate = d ∧
    (scope.all fun c => r.student ∈ c.eligibleIds) ∧ s.sectionInGrade gradeId r.sectionId

def dailyEnrollments (s : School) (d : Date) (gradeId : Option ℤ) : List StudentEnrollment :=
  (s.enrollmentsOnDate d).filter fun e => s.sectionInGrade gradeId e.sectionId

structure DailyFigures where
  totalStudents : ℕ
  completeStudents : ℕ
  incompleteStudents : ℕ
  presentStudents : ℕ
  absentStudents : ℕ
  fullAbsent : ℕ
  partialAbsent : ℕ
  noAbsence : ℕ
  undetermined : ℕ
  excusedAbsentPeriods : ℕ
  unexcusedAbsentPeriods : ℕ
  deriving DecidableEq

def countAbsenceStatus (rows : List DailyAttendanceSummary) (status : DailyAbsenceStatus) : ℕ :=
  (rows.filter fun r => r.hasStatus status).length

/-- The summary of the report; the students without a record are never fewer than none. -/
def dailyFigures (rows : List DailyAttendanceSummary) (enrollments : List StudentEnrollment) :
    DailyFigures :=
  let total := (enrollments.map fun e => e.student).dedup.length
  let recorded := countAbsenceStatus rows .full +
    countAbsenceStatus rows .partial_ + countAbsenceStatus rows .none
  { totalStudents := total
    completeStudents := recorded
    incompleteStudents := total - recorded
    presentStudents := countAbsenceStatus rows .none + countAbsenceStatus rows .partial_
    absentStudents := countAbsenceStatus rows .full
    fullAbsent := countAbsenceStatus rows .full
    partialAbsent := countAbsenceStatus rows .partial_
    noAbsence := countAbsenceStatus rows .none
    undetermined := countAbsenceStatus rows .undetermined
    excusedAbsentPeriods := Tallies.sumOver (fun r => r.excusedAbsentPeriods) rows
    unexcusedAbsentPeriods := Tallies.sumOver (fun r => r.unexcusedAbsentPeriods) rows }

/-- What a student is shown by, and its place in the list. -/
structure ReportNames where
  fullName : String := ""
  gradeSequence : ℕ := 0
  gradeName : String := ""
  sectionCode : String := ""
  sectionName : String := ""
  department : String := ""
  deriving DecidableEq

def School.reportNames (s : School) (student sectionId : ℕ) : ReportNames :=
  let fullName := ((s.student? student).map fun x => x.fullName).getD ""
  match s.sectionNames sectionId with
  | none => { fullName := fullName }
  | some names =>
    { fullName := fullName
      gradeSequence := names.2.sequence
      gradeName := names.2.name
      sectionCode := names.1.code
      sectionName := names.1.name
      department := names.1.department }

def reportNamesLe (collation : Collation) (a b : ReportNames) : Bool :=
  ordered [(decide (a.gradeSequence ≤ b.gradeSequence), decide (b.gradeSequence ≤ a.gradeSequence)),
    (collation a.sectionCode b.sectionCode, collation b.sectionCode a.sectionCode),
    (collation a.fullName b.fullName, collation b.fullName a.fullName)]

def inReportOrder {α : Type} (collation : Collation) (names : α → ReportNames) (rows : List α) :
    List α :=
  rows.insertionSort fun a b => reportNamesLe collation (names a) (names b) = true

inductive UnrecordedReason
  | inactiveAssignment | outsideScope | missingSummary | noSubmission
  deriving DecidableEq

structure DailyStudent where
  studentId : ℕ
  fullName : String
  gradeName : String
  sectionName : String
  department : String
  absentPeriods : ℕ
  excusedAbsentPeriods : ℕ
  unexcusedAbsentPeriods : ℕ
  submittedPeriods : ℕ
  expectedPeriods : ℕ
  unrecordedReason : Option UnrecordedReason := none
  deriving DecidableEq

def firstUnclassified (classified : List ℕ) :
    List ℕ → List StudentEnrollment → List StudentEnrollment
  | _, [] => []
  | seen, e :: rest =>
    if e.student ∈ seen ∨ e.student ∈ classified then firstUnclassified classified seen rest
    else e :: firstUnclassified classified (e.student :: seen) rest

def unrecordedReason (scope : Option CurrentDayScope) (submittedSections : List ℕ)
    (e : StudentEnrollment) : UnrecordedReason :=
  if scope.any fun c => e.student ∈ c.inactiveAssignmentIds then .inactiveAssignment
  else if scope.any fun c => e.student ∈ c.excludedIds then .outsideScope
  else if scope.any fun c => e.student ∈ c.missingSummaryIds then .missingSummary
  else if e.sectionId ∈ submittedSections then .missingSummary
  else .noSubmission

def DailyAttendanceSummary.isClassified (r : DailyAttendanceSummary) : Bool :=
  r.hasStatus .full || r.hasStatus .partial_ || r.hasStatus .none

def unrecordedStudents (collation : Collation) (s : School) (scope : Option CurrentDayScope)
    (d : Date) (rows : List DailyAttendanceSummary) (enrollments : List StudentEnrollment) :
    List DailyStudent :=
  let submittedSections := (s.sessions.filter fun x => x.attendanceDate = d ∧
    x.status = .submitted).map fun x => x.sectionId
  let classified := (rows.filter DailyAttendanceSummary.isClassified).map fun r => r.student
  let existing := Dict.ofList ((rows.filter fun r => r.hasStatus .undetermined).map
    fun r => (r.student, r))
  let names := fun e : StudentEnrollment => s.reportNames e.student e.sectionId
  (firstUnclassified classified [] (inReportOrder collation names enrollments)).map fun e =>
    let row := existing.get? e.student
    { studentId := e.student
      fullName := (names e).fullName
      gradeName := (names e).gradeName
      sectionName := (names e).sectionName
      department := (names e).department
      absentPeriods := (row.map fun r => r.absentPeriods).getD 0
      excusedAbsentPeriods := (row.map fun r => r.excusedAbsentPeriods).getD 0
      unexcusedAbsentPeriods := (row.map fun r => r.unexcusedAbsentPeriods).getD 0
      submittedPeriods := (row.map fun r => r.submittedPeriods).getD 0
      expectedPeriods :=
        (row.map fun r => r.expectedPeriods).getD (s.dayContextFor d).attendancePeriods.length
      unrecordedReason := some (unrecordedReason scope submittedSections e) }

def recordedStudents (collation : Collation) (s : School) (rows : List DailyAttendanceSummary)
    (status : DailyAbsenceStatus) : List DailyStudent :=
  let names := fun r : DailyAttendanceSummary => s.reportNames r.student r.sectionId
  (inReportOrder collation names (rows.filter fun r => r.hasStatus status)).map fun r =>
    { studentId := r.student
      fullName := (names r).fullName
      gradeName := (names r).gradeName
      sectionName := (names r).sectionName
      department := (names r).department
      absentPeriods := r.absentPeriods
      excusedAbsentPeriods := r.excusedAbsentPeriods
      unexcusedAbsentPeriods := r.unexcusedAbsentPeriods
      submittedPeriods := r.submittedPeriods
      expectedPeriods := r.expectedPeriods }

structure DailyReport where
  date : Date
  isSchoolDay : Bool
  expectedPeriods : ℕ
  dayPeriods : List (ℕ × String)
  summary : DailyFigures
  currentScope : Option CurrentDayScope
  students : List DailyStudent
  page : ℕ
  pageSize : ℕ
  totalStudentsFiltered : ℕ
  deriving DecidableEq

def scopeOn (s : School) (year : AcademicYear) (today d : Date) : Option CurrentDayScope :=
  if d = today then some (currentDayScope s year d) else none

def listedStudents (collation : Collation) (s : School) (scope : Option CurrentDayScope) (d : Date)
    (gradeId : Option ℤ) (status : DailyAbsenceStatus) : List DailyStudent :=
  let rows := dailyRows s scope d gradeId
  if status = .undetermined then
    unrecordedStudents collation s scope d rows (dailyEnrollments s d gradeId)
  else recordedStudents collation s rows status

/-- `get_daily_report`, on the day that it is at the school. -/
def getDailyReport (collation : Collation) (s : School) (today d : Date)
    (statusFilter : Option DailyAbsenceStatus) (gradeId : Option ℤ) (page : ℤ) (pageSize : ℕ) :
    Except ApiError DailyReport :=
  match s.activeYear with
  | none => .error activeYearRequiredError
  | some year =>
    let scope := scopeOn s year today d
    let context := s.dayContextFor d
    let listed := (statusFilter.map (listedStudents collation s scope d gradeId)).getD []
    -- Without a filter nothing is listed and the size of the page is kept as it was asked for.
    let size := if statusFilter.isNone ∨ pageSize ∈ pageSizes then pageSize else 25
    .ok
      { date := d
        isSchoolDay := context.scheduleSnapshot.isSchoolDay
        expectedPeriods := context.attendancePeriods.length
        dayPeriods := context.attendancePeriods.map fun p => (p.sequence, p.name)
        summary := dailyFigures (dailyRows s scope d gradeId) (dailyEnrollments s d gradeId)
        currentScope := scope
        students := pageOf listed (max page 1).toNat size
        page := (max page 1).toNat
        pageSize := size
        totalStudentsFiltered := listed.length }

end SchoolPlatform
