import SchoolPlatform.Model.Issuance
import SchoolPlatform.Model.PeriodReport

/-!
# Who is due a warning

`eligibilityDashboard` lists the students whose metric has reached a level of a type. It counts the
metric of the whole school at once, and looks up only the students for whom it is not zero.
-/

namespace SchoolPlatform

inductive LevelState
  | issued | due | notDue
  deriving DecidableEq

def levelOrder : List WarningLevel := [.level1, .level2, .level3]

structure LevelsState where
  levels : List (WarningLevel × ℕ × LevelState) := []
  highestReachedLevel : Option WarningLevel := none
  highestDueLevel : Option WarningLevel := none
  deriving DecidableEq

def LevelsState.add (value : ℕ) (threshold : WarningLevel → ℕ) (issued : List WarningLevel)
    (state : LevelsState) (level : WarningLevel) : LevelsState :=
  let reached := threshold level ≤ value
  let levelState : LevelState :=
    if level ∈ issued then .issued else if reached then .due else .notDue
  { levels := state.levels ++ [(level, threshold level, levelState)]
    highestReachedLevel := if reached then some level else state.highestReachedLevel
    highestDueLevel := if levelState = .due then some level else state.highestDueLevel }

/-- `_levels_state`; the rules of a school have a threshold for every level. -/
def levelsState (value : ℕ) (threshold : WarningLevel → ℕ) (issued : List WarningLevel) :
    LevelsState :=
  levelOrder.foldl (LevelsState.add value threshold issued) {}

/-- `metric_for_students`: the students whose metric is not zero. -/
def WarningOffice.metricForStudents (s : WarningOffice) (year : AcademicYear) :
    WarningRuleType → Dict ℕ ℕ
  | .unexcusedFullDayAbsence =>
    let rows := s.school.summaries.filter fun r => r.academicYear = year.id
    ((Dict.groupBy (fun r => r.student) rows).map fun g =>
      (g.1, (g.2.filter fun r => r.isUnexcusedFullDay).length)).filter fun g => g.2 ≠ 0
  | .morningLateOccurrences =>
    let rows := s.arrivals.filter fun a => a.lateness.status = .late ∧
      year.startDate ≤ a.attendanceDate ∧ a.attendanceDate ≤ year.endDate
    ((Dict.groupBy (fun a => a.student) rows).map fun g => (g.1, g.2.length)).filter fun g =>
      g.2 ≠ 0

structure IssuedRow where
  id : ℕ
  level : WarningLevel
  document : Option (ℕ × DocumentStatus)
  deriving DecidableEq

/-- `issued_warnings_map`, of one student and type: the newest document that is not voided. -/
def WarningOffice.issuedRows (s : WarningOffice) (year student : ℕ)
    (warningType : WarningRuleType) : List IssuedRow :=
  (List.range s.warnings.length).filterMap fun i => (s.warnings[i]?).bind fun w =>
    if w.academicYear = year ∧ w.status = .issued ∧ w.student = student ∧
        w.warningType = warningType then
      some
        { id := i
          level := w.level
          document := (s.openDocuments i).getLast?.bind fun d =>
            (s.documents[d]?).map fun doc => (d, doc.status) }
    else none

inductive DueFilter
  | due | issued | all
  deriving DecidableEq

structure EligibilityQuery where
  ruleType : Option WarningRuleType := none
  gradeId : Option ℤ := none
  sectionId : Option ℤ := none
  statusFilter : DueFilter := .due
  deriving DecidableEq

def EligibilityQuery.types (q : EligibilityQuery) : List WarningRuleType :=
  match q.ruleType with
  | some warningType => [warningType]
  | none => [.morningLateOccurrences, .unexcusedFullDayAbsence]

/-- The active enrollment of the year is one of the grade and section asked for. -/
def EligibilityQuery.places (q : EligibilityQuery) (year : AcademicYear)
    (e : StudentEnrollment) : Bool :=
  e.academicYear = year.id && e.status = .active &&
    filtersNothingOr q.gradeId (fun g => (e.grade : ℤ) = g) &&
    filtersNothingOr q.sectionId fun x => (e.sectionId : ℤ) = x

structure EligibilityRow where
  studentId : ℕ
  fullName : String
  gradeId : ℕ
  gradeName : String
  sectionName : String
  warningType : WarningRuleType
  isEnabled : Bool
  currentValue : ℕ
  highestReachedLevel : Option WarningLevel
  highestDueLevel : Option WarningLevel
  issuedLevels : List WarningLevel
  issuedWarnings : List IssuedRow
  levels : List (WarningLevel × ℕ × LevelState)
  deriving DecidableEq

def WarningOffice.placedStudents (s : WarningOffice) (year : AcademicYear)
    (q : EligibilityQuery) (candidates : List ℕ) : List (Student × StudentEnrollment) :=
  let placement := Dict.ofList ((s.school.registry.enrollments.filter fun e =>
    q.places year e ∧ e.student ∈ candidates).map fun e => (e.student, e))
  (s.school.registry.students.filter fun x => x.status = .active).filterMap fun x =>
    (placement.get? x.id).map fun e => (x, e)

/-- The pair of a student and a type, with what the list shows and counts of it. -/
structure EligibilityPair where
  student : Student
  enrollment : StudentEnrollment
  warningType : WarningRuleType
  value : ℕ
  issued : List IssuedRow
  state : LevelsState

def WarningOffice.reachedPairs (s : WarningOffice) (year : AcademicYear)
    (placed : List (Student × StudentEnrollment)) (warningType : WarningRuleType) :
    List EligibilityPair :=
  let values := s.metricForStudents year warningType
  (placed.filterMap fun p =>
    let value := (values.get? p.1.id).getD 0
    if value = 0 then none
    else
      let issued := s.issuedRows year.id p.1.id warningType
      let state := levelsState value (s.threshold warningType) (issued.map fun w => w.level)
      some ⟨p.1, p.2, warningType, value, issued, state⟩).filter fun pair =>
        pair.state.highestReachedLevel.isSome

def DueFilter.admits (f : DueFilter) (pair : EligibilityPair) : Bool :=
  match f with
  | .due => pair.state.highestDueLevel.isSome
  | .issued => pair.issued ≠ []
  | .all => true

def WarningOffice.eligibilityRow (s : WarningOffice) (pair : EligibilityPair) :
    (ℕ × String × String) × EligibilityRow :=
  let grade := s.school.registry.grades.find? fun g => g.id = pair.enrollment.grade
  let section_ := s.school.registry.sections.find? fun x => x.id = pair.enrollment.sectionId
  (((grade.map fun g => g.sequence).getD 0, (section_.map fun x => x.code).getD "",
      pair.student.fullName),
    { studentId := pair.student.id
      fullName := pair.student.fullName
      gradeId := pair.enrollment.grade
      gradeName := (grade.map fun g => g.name).getD ""
      sectionName := (section_.map fun x => x.name).getD ""
      warningType := pair.warningType
      isEnabled := s.typeEnabled pair.warningType
      currentValue := pair.value
      highestReachedLevel := pair.state.highestReachedLevel
      highestDueLevel := pair.state.highestDueLevel
      issuedLevels := levelOrder.filter fun level => level ∈ pair.issued.map fun w => w.level
      issuedWarnings := pair.issued
      levels := pair.state.levels })

structure EligibilityCounts where
  dueStudents : ℕ := 0
  issuedStudents : ℕ := 0
  deriving DecidableEq

def eligibilityCounts (pairs : List EligibilityPair) : EligibilityCounts :=
  { dueStudents := (pairs.filter fun pair => pair.state.highestDueLevel.isSome).length
    issuedStudents := (pairs.filter fun pair => pair.issued ≠ []).length }

structure EligibilityReport where
  academicYear : ℕ
  summary : List (WarningRuleType × EligibilityCounts)
  results : List EligibilityRow
  count : ℕ
  page : ℕ
  pageSize : ℕ
  deriving DecidableEq

/-- The rows of all pages: by type, and then by grade, section and name. -/
def WarningOffice.eligibilityRows (s : WarningOffice) (q : EligibilityQuery)
    (pairs : WarningRuleType → List EligibilityPair) : List EligibilityRow :=
  q.types.flatMap fun warningType =>
    ((((pairs warningType).filter q.statusFilter.admits).map s.eligibilityRow).insertionSort
      fun a b => studentKeyLe a.1 b.1 = true).map Prod.snd

def eligibilityDashboard (s : WarningOffice) (q : EligibilityQuery) (page : ℤ) (pageSize : ℕ) :
    Except ApiError EligibilityReport :=
  match s.school.activeYear with
  | none => .error activeYearRequiredError
  | some year =>
    let candidates := (q.types.flatMap fun warningType =>
      (s.metricForStudents year warningType).keys).dedup
    let size := if pageSize ∈ pageSizes then pageSize else 25
    if candidates = [] then
      .ok ⟨year.id, q.types.map fun warningType => (warningType, {}), [], 0, (max page 1).toNat,
        size⟩
    else
      let pairs := s.reachedPairs year (s.placedStudents year q candidates)
      let rows := s.eligibilityRows q pairs
      .ok
        { academicYear := year.id
          summary := q.types.map fun warningType => (warningType, eligibilityCounts
            (pairs warningType))
          results := pageOf rows (max page 1).toNat size
          count := rows.length
          page := (max page 1).toNat
          pageSize := size }

end SchoolPlatform
