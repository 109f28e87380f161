import SchoolPlatform.Library.Tallies
import SchoolPlatform.Model.DailySummary
import SchoolPlatform.Model.Ingest

/-!
# The attendance screens of the dashboard

Four selectors read the daily summaries and the morning arrivals of a range and a scope: indicators,
a trend by days or weeks, a comparison of sections, and a report of absences.
-/

namespace SchoolPlatform

open Tallies

/-! ## Range and scope -/

structure AttendanceRecords where
  school : School := {}
  arrivals : List SchoolArrival := []
  deriving DecidableEq

structure DateRange where
  fromDate : Date
  toDate : Date
  deriving DecidableEq

/-- A section, or else a grade; an id of zero is none. -/
structure DashboardScope where
  sectionId : Option ℕ := none
  gradeId : Option ℕ := none
  deriving DecidableEq

def DashboardScope.section_ (scope : DashboardScope) : Option ℕ := scope.sectionId.filter (· ≠ 0)

def DashboardScope.grade (scope : DashboardScope) : Option ℕ := scope.gradeId.filter (· ≠ 0)

def DateRange.contains (range : DateRange) (d : Date) : Bool :=
  decide (range.fromDate ≤ d ∧ d ≤ range.toDate)

def School.section? (s : School) (id : ℕ) : Option Section :=
  s.registry.sections.find? fun x => x.id = id

def School.grade? (s : School) (id : ℕ) : Option Grade :=
  s.registry.grades.find? fun x => x.id = id

def School.inScope (s : School) (scope : DashboardScope) (r : DailyAttendanceSummary) : Bool :=
  match scope.section_, scope.grade with
  | some sectionId, _ => r.sectionId = sectionId
  | none, some grade => (s.section? r.sectionId).any fun x => x.grade = grade
  | none, none => true

def summariesQueryset (s : AttendanceRecords) (range : DateRange) (scope : DashboardScope) :
    List DailyAttendanceSummary :=
  (s.school.summaries.filter fun r => range.contains r.attendanceDate).filter
    (s.school.inScope scope)

/-- `arrivals_queryset`: a scope asks for a summary of the same student and date in it. -/
def arrivalsQueryset (s : AttendanceRecords) (range : DateRange) (scope : DashboardScope) :
    List SchoolArrival :=
  let arrivals := s.arrivals.filter fun a => range.contains a.attendanceDate
  if scope.section_.isSome || scope.grade.isSome then
    arrivals.filter fun a => s.school.summaries.any fun r =>
      decide (r.student = a.student ∧ r.attendanceDate = a.attendanceDate) &&
        s.school.inScope scope r
  else arrivals

def lateArrivals (s : AttendanceRecords) (range : DateRange) (scope : DashboardScope) :
    List SchoolArrival :=
  (arrivalsQueryset s range scope).filter fun a => a.lateness.status = .late

/-! ## Filters -/

def DailyAttendanceSummary.hasStatus (status : DailyAbsenceStatus) (r : DailyAttendanceSummary) :
    Bool := r.absenceStatus = status

def unexcusedFullDay (r : DailyAttendanceSummary) : Bool :=
  r.absenceStatus = .full ∧ r.excusedAbsentPeriods = 0 ∧ 0 < r.unexcusedAbsentPeriods

def excusedFullDay (r : DailyAttendanceSummary) : Bool :=
  r.absenceStatus = .full ∧ r.unexcusedAbsentPeriods = 0 ∧ 0 < r.excusedAbsentPeriods

def mixedFullDay (r : DailyAttendanceSummary) : Bool :=
  r.absenceStatus = .full ∧ 0 < r.unexcusedAbsentPeriods ∧ 0 < r.excusedAbsentPeriods

def count {α : Type} (p : α → Bool) (rows : List α) : ℕ := (rows.filter p).length

def countDistinct {α : Type} (column : α → ℕ) (rows : List α) : ℕ := (rows.map column).dedup.length

structure AttendanceKpis where
  studentDays : ℕ
  distinctStudents : ℕ
  fullAbsenceDays : ℕ
  partialAbsenceDays : ℕ
  noAbsenceDays : ℕ
  undeterminedDays : ℕ
  unexcusedFullAbsenceDays : ℕ
  excusedFullAbsenceDays : ℕ
  mixedFullAbsenceDays : ℕ
  absentPeriods : ℕ
  unexcusedAbsentPeriods : ℕ
  excusedAbsentPeriods : ℕ
  morningLateOccurrences : ℕ
  morningLateMinutes : ℕ
  morningArrivals : ℕ
  completeStudentDays : ℕ
  incompleteStudentDays : ℕ
  deriving DecidableEq

def attendanceKpis (s : AttendanceRecords) (range : DateRange) (scope : DashboardScope) :
    AttendanceKpis :=
  let rows := summariesQueryset s range scope
  let complete := count (fun r => !r.hasStatus .undetermined) rows
  { studentDays := rows.length
    distinctStudents := countDistinct (fun r => r.student) rows
    fullAbsenceDays := count (DailyAttendanceSummary.hasStatus .full) rows
    partialAbsenceDays := count (DailyAttendanceSummary.hasStatus .partial_) rows
    noAbsenceDays := count (DailyAttendanceSummary.hasStatus .none) rows
    undeterminedDays := count (DailyAttendanceSummary.hasStatus .undetermined) rows
    unexcusedFullAbsenceDays := count unexcusedFullDay rows
    excusedFullAbsenceDays := count excusedFullDay rows
    mixedFullAbsenceDays := count mixedFullDay rows
    absentPeriods := sumOver (fun r => r.absentPeriods) rows
    unexcusedAbsentPeriods := sumOver (fun r => r.unexcusedAbsentPeriods) rows
    excusedAbsentPeriods := sumOver (fun r => r.excusedAbsentPeriods) rows
    morningLateOccurrences := (lateArrivals s range scope).length
    morningLateMinutes :=
      sumOver (fun a => a.lateness.countedLateMinutes) (lateArrivals s range scope)
    morningArrivals := (arrivalsQueryset s range scope).length
    completeStudentDays := complete
    incompleteStudentDays := rows.length - complete }

/-! ## Trend -/

structure TrendPoint where
  date : Date
  fullAbsence : ℕ
  partialAbsence : ℕ
  unexcusedFullAbsence : ℕ
  undetermined : ℕ
  morningLate : ℕ
  deriving DecidableEq

inductive Granularity
  | day | week
  deriving DecidableEq

structure AttendanceTrend where
  granularity : Granularity
  points : List TrendPoint
  deriving DecidableEq

def maxTrendPoints : ℕ := 62

def TrendPoint.add (p q : TrendPoint) : TrendPoint :=
  { p with
    fullAbsence := p.fullAbsence + q.fullAbsence
    partialAbsence := p.partialAbsence + q.partialAbsence
    unexcusedFullAbsence := p.unexcusedFullAbsence + q.unexcusedFullAbsence
    undetermined := p.undetermined + q.undetermined
    morningLate := p.morningLate + q.morningLate }

def weekStart (d : Date) : Date := d - schoolWeekday d

def weekly (points : List TrendPoint) : List TrendPoint :=
  let buckets : Dict Date TrendPoint := points.foldl (fun buckets p =>
    let bucket := (Dict.get? buckets (weekStart p.date)).getD ⟨weekStart p.date, 0, 0, 0, 0, 0⟩
    Dict.insert buckets (weekStart p.date) (bucket.add p)) []
  (buckets.insertionSort fun a b => a.1 ≤ b.1).map Prod.snd

def trendPoint (late : List SchoolArrival) (day : Date) (rows : List DailyAttendanceSummary) :
    TrendPoint where
  date := day
  fullAbsence := count (DailyAttendanceSummary.hasStatus .full) rows
  partialAbsence := count (DailyAttendanceSummary.hasStatus .partial_) rows
  unexcusedFullAbsence := count unexcusedFullDay rows
  undetermined := count (DailyAttendanceSummary.hasStatus .undetermined) rows
  morningLate := (late.filter fun a => a.attendanceDate = day).length

/-- The points of the days that have a summary, in order. -/
def dailyPoints (s : AttendanceRecords) (range : DateRange) (scope : DashboardScope) :
    List TrendPoint :=
  ((Dict.groupBy (fun r => r.attendanceDate) (summariesQueryset s range scope)).insertionSort
    fun a b => a.1 ≤ b.1).map fun g => trendPoint (lateArrivals s range scope) g.1 g.2

def attendanceTrend (s : AttendanceRecords) (range : DateRange) (scope : DashboardScope) :
    AttendanceTrend :=
  let points := dailyPoints s range scope
  if maxTrendPoints < points.length then { granularity := .week, points := weekly points }
  else { granularity := .day, points := points }

structure SectionRow where
  sectionId : ℕ
  sectionName : String
  gradeName : String
  department : String
  students : ℕ
  studentDays : ℕ
  fullAbsenceDays : ℕ
  partialAbsenceDays : ℕ
  unexcusedFullAbsenceDays : ℕ
  morningLateOccurrences : ℕ
  deriving DecidableEq

/-- `_morning_late_by_section`: late arrivals counted by the summaries of their students and
dates. -/
def morningLateBySection (s : AttendanceRecords) (range : DateRange) (scope : DashboardScope)
    (sectionId : ℕ) : ℕ :=
  let latePairs := (lateArrivals s range scope).map fun a => (a.student, a.attendanceDate)
  (((summariesQueryset s range scope).filter fun r =>
    latePairs.contains (r.student, r.attendanceDate)).filter fun r =>
      r.sectionId = sectionId).length

abbrev Collation := String → String → Bool

/-- The first of some keys in which two rows differ decides; a text key is given both ways. -/
def ordered : List (Bool × Bool) → Bool
  | [] => true
  | (before, after) :: keys => before && (!after || ordered keys)

def School.sectionNames (s : School) (sectionId : ℕ) : Option (Section × Grade) :=
  (s.section? sectionId).bind fun x => (s.grade? x.grade).map fun g => (x, g)

def sectionBreakdown (collation : Collation) (s : AttendanceRecords) (range : DateRange)
    (scope : DashboardScope) : List SectionRow :=
  let rows := (summariesQueryset s range scope).filter fun r =>
    (s.school.sectionNames r.sectionId).isSome
  let sections := (Dict.groupBy (fun r => r.sectionId) rows).filterMap fun g =>
    (s.school.sectionNames g.1).map fun names =>
      ({ sectionId := g.1
         sectionName := names.1.name
         gradeName := names.2.name
         department := names.1.department
         students := countDistinct (fun r => r.student) g.2
         studentDays := g.2.length
         fullAbsenceDays := count (DailyAttendanceSummary.hasStatus .full) g.2
         partialAbsenceDays := count (DailyAttendanceSummary.hasStatus .partial_) g.2
         unexcusedFullAbsenceDays := count unexcusedFullDay g.2
         morningLateOccurrences := morningLateBySection s range scope g.1 } : SectionRow)
  sections.insertionSort fun a b => ordered
    [(decide (b.unexcusedFullAbsenceDays ≤ a.unexcusedFullAbsenceDays),
        decide (a.unexcusedFullAbsenceDays ≤ b.unexcusedFullAbsenceDays)),
      (collation a.gradeName b.gradeName, collation b.gradeName a.gradeName),
      (collation a.sectionName b.sectionName, collation b.sectionName a.sectionName)]

/-! ## Report of absences -/

/-- What Python makes of a text: its upper case, and the number that it is read as. -/
structure PythonText where
  upper : String → String
  int : String → Option ℤ

/-- The parameters of a request; one that is missing is none. -/
structure ReportParams where
  absenceType : Option String := none
  excuseType : Option String := none
  student : Option String := none
  page : Option String := none
  pageSize : Option String := none
  exportAll : Option String := none
  deriving DecidableEq

def reportInvalidFilter (message field : String) : ApiError where
  code := "REPORT_INVALID_FILTER"
  message := message
  details := [("field", .text field)]

def positiveInt (python : PythonText) (value : Option String) (field : String)
    (default : ℕ := 0) : Except ApiError ℕ :=
  match value.filter (· ≠ "") with
  | none => .ok default
  | some text =>
    match python.int text with
    | none => .error (reportInvalidFilter "قيمة فلتر التقرير غير صحيحة." field)
    | some n =>
      if n < 0 then
        .error (reportInvalidFilter "قيمة فلتر التقرير لا يمكن أن تكون سالبة." field)
      else .ok n.toNat

def choice (python : PythonText) (value : Option String) (allowed : List String)
    (field default : String) : Except ApiError String :=
  let normalized := python.upper ((value.filter (· ≠ "")).getD default)
  if allowed.contains normalized then .ok normalized
  else .error (reportInvalidFilter "قيمة فلتر التقرير غير صحيحة." field)

def absenceTypes : List String := ["ALL", "FULL", "PARTIAL"]

def excuseTypes : List String := ["ALL", "EXCUSED", "UNEXCUSED", "MIXED"]

def absenceTypeOf (python : PythonText) (params : ReportParams) : Except ApiError String :=
  choice python params.absenceType absenceTypes "absence_type" "ALL"

def excuseTypeOf (python : PythonText) (params : ReportParams) : Except ApiError String :=
  choice python params.excuseType excuseTypes "excuse_type" "ALL"

def reportStudent (python : PythonText) (s : School) (value : Option String) :
    Except ApiError (Option ℕ) :=
  match value.filter (· ≠ "") with
  | none => .ok none
  | some _ => (positiveInt python value "student").bind fun student =>
    if s.registry.students.any (fun x => x.id = student) then .ok (some student)
    else .error
      { code := "REPORT_STUDENT_NOT_FOUND", message := "الطالب غير موجود.", statusCode := 404 }

def absenceTypeMatches (absenceType : String) (r : DailyAttendanceSummary) : Bool :=
  match absenceType with
  | "FULL" => r.hasStatus .full
  | "PARTIAL" => r.hasStatus .partial_
  | _ => true

def excuseTypeMatches (excuseType : String) (r : DailyAttendanceSummary) : Bool :=
  match excuseType with
  | "EXCUSED" => decide (0 < r.excusedAbsentPeriods ∧ r.unexcusedAbsentPeriods = 0)
  | "UNEXCUSED" => decide (0 < r.unexcusedAbsentPeriods)
  | "MIXED" => decide (0 < r.excusedAbsentPeriods ∧ 0 < r.unexcusedAbsentPeriods)
  | _ => true

structure AbsenceTotals where
  students : ℕ
  studentDays : ℕ
  fullAbsenceDays : ℕ
  partialAbsenceDays : ℕ
  excusedAbsentPeriods : ℕ
  unexcusedAbsentPeriods : ℕ
  incompleteDays : ℕ
  deriving DecidableEq

structure AbsenceItem where
  studentId : ℕ
  sectionId : ℕ
  fullName : String
  guardianMobile : String
  gradeName : String
  sectionName : String
  fullAbsenceDays : ℕ
  partialAbsenceDays : ℕ
  absentPeriods : ℕ
  excusedAbsentPeriods : ℕ
  unexcusedAbsentPeriods : ℕ
  incompleteDays : ℕ
  deriving DecidableEq

structure AbsenceReport where
  summary : AbsenceTotals
  results : List AbsenceItem
  count : ℕ
  page : ℕ
  pageSize : ℕ
  deriving DecidableEq

def absenceRows (s : AttendanceRecords) (range : DateRange) (scope : DashboardScope)
    (student : Option ℕ) (absenceType excuseType : String) : List DailyAttendanceSummary :=
  (((summariesQueryset s range scope).filter fun r =>
    r.hasStatus .full || r.hasStatus .partial_).filter fun r =>
      (student.filter (· ≠ 0)).all fun id => r.student = id).filter fun r =>
        absenceTypeMatches absenceType r && excuseTypeMatches excuseType r

def absenceTotals (rows : List DailyAttendanceSummary) : AbsenceTotals where
  students := countDistinct (fun r => r.student) rows
  studentDays := rows.length
  fullAbsenceDays := count (DailyAttendanceSummary.hasStatus .full) rows
  partialAbsenceDays := count (DailyAttendanceSummary.hasStatus .partial_) rows
  excusedAbsentPeriods := sumOver (fun r => r.excusedAbsentPeriods) rows
  unexcusedAbsentPeriods := sumOver (fun r => r.unexcusedAbsentPeriods) rows
  incompleteDays := count (DailyAttendanceSummary.hasStatus .undetermined) rows

/-- The rows of the report, by student and section. -/
def absenceItems (collation : Collation) (s : School) (rows : List DailyAttendanceSummary) :
    List AbsenceItem :=
  let items := (Dict.groupBy (fun r => (r.student, r.sectionId)) rows).filterMap fun g =>
    (s.registry.students.find? fun x => x.id = g.1.1).bind fun student =>
      (s.sectionNames g.1.2).map fun names =>
        ({ studentId := g.1.1
           sectionId := g.1.2
           fullName := student.fullName
           guardianMobile := student.guardianMobile
           gradeName := names.2.name
           sectionName := names.1.name
           fullAbsenceDays := count (DailyAttendanceSummary.hasStatus .full) g.2
           partialAbsenceDays := count (DailyAttendanceSummary.hasStatus .partial_) g.2
           absentPeriods := sumOver (fun r => r.absentPeriods) g.2
           excusedAbsentPeriods := sumOver (fun r => r.excusedAbsentPeriods) g.2
           unexcusedAbsentPeriods := sumOver (fun r => r.unexcusedAbsentPeriods) g.2
           incompleteDays := count (DailyAttendanceSummary.hasStatus .undetermined) g.2 } :
          AbsenceItem)
  items.insertionSort fun a b => ordered
    [(decide (b.fullAbsenceDays ≤ a.fullAbsenceDays),
        decide (a.fullAbsenceDays ≤ b.fullAbsenceDays)),
      (decide (b.unexcusedAbsentPeriods ≤ a.unexcusedAbsentPeriods),
        decide (a.unexcusedAbsentPeriods ≤ b.unexcusedAbsentPeriods)),
      (collation a.fullName b.fullName, collation b.fullName a.fullName),
      (decide (a.studentId ≤ b.studentId), decide (b.studentId ≤ a.studentId)),
      (decide (a.sectionId ≤ b.sectionId), decide (b.sectionId ≤ a.sectionId))]

def paginate {α : Type} (python : PythonText) (params : ReportParams) (rows : List α) :
    Except ApiError (List α × ℕ × ℕ × ℕ) :=
  if params.exportAll = some "1" then .ok (rows, rows.length, 1, rows.length)
  else do
    let page ← positiveInt python params.page "page" 1
    let pageSize ← positiveInt python params.pageSize "page_size" 25
    let page := max page 1
    let pageSize := min (max pageSize 1) 100
    .ok ((rows.drop ((page - 1) * pageSize)).take pageSize, rows.length, page, pageSize)

def absenceReport (python : PythonText) (collation : Collation) (s : AttendanceRecords)
    (range : DateRange) (scope : DashboardScope) (params : ReportParams) :
    Except ApiError AbsenceReport := do
  let absenceType ← absenceTypeOf python params
  let excuseType ← excuseTypeOf python params
  let student ← reportStudent python s.school params.student
  let rows := absenceRows s range scope student absenceType excuseType
  let (items, total, page, pageSize) ←
    paginate python params (absenceItems collation s.school rows)
  .ok
    { summary := absenceTotals rows
      results := items
      count := total
      page := page
      pageSize := pageSize }

end SchoolPlatform
