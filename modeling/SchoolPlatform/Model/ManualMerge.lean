import SchoolPlatform.Library.Text
import SchoolPlatform.Library.KeySort
import SchoolPlatform.Model.ImportCommit

/-!
# Manual merges

Records of one person are merged into one of them. A plan says which summaries, marks and
enrollments move, which copies go, and what stands in the way; it is applied when nothing does and
the records are those of the confirmed preview. Rows come in the order of their table.
-/

namespace SchoolPlatform

inductive MergeBlocker
  | notActive
  | namesDiffer
  | guardiansDiffer
  | importRunning
  | relatedRows
  | notOneActiveEnrollment
  | daysDiffer (days : List Date)
  | marksDiffer
  | yearsDiffer
  | severalSections
  | sectionOrder
  | recentAttendance
  | attendanceOutside
  | attendanceBeforeStart
  | sourceHistory
  | targetHistory
  | intervalsOverlap
  deriving DecidableEq

/-- `_normal_name`: the words of a name with one blank between them. -/
def normalName (value : String) : Text :=
  [' '].intercalate ((value.toList.splitOnP Text.isSpace).filter fun word => word ≠ [])

structure AttendanceFacts where
  sectionId : ℕ
  academicYear : ℕ
  expectedPeriods : ℕ
  absenceStatus : DailyAbsenceStatus
  absentPeriods : ℕ
  excusedAbsentPeriods : ℕ
  unexcusedAbsentPeriods : ℕ
  deriving DecidableEq

def DailyAttendanceSummary.attendanceFacts (row : DailyAttendanceSummary) : AttendanceFacts where
  sectionId := row.sectionId
  academicYear := row.academicYear
  expectedPeriods := row.expectedPeriods
  absenceStatus := row.absenceStatus
  absentPeriods := row.absentPeriods
  excusedAbsentPeriods := row.excusedAbsentPeriods
  unexcusedAbsentPeriods := row.unexcusedAbsentPeriods

def preferred (target : ℕ) (row earlier : DailyAttendanceSummary) : Bool :=
  if row.submittedPeriods ≠ earlier.submittedPeriods then
    decide (earlier.submittedPeriods < row.submittedPeriods)
  else if (row.student = target) ≠ (earlier.student = target) then decide (row.student = target)
  else decide (earlier.calculatedAt ≤ row.calculatedAt)

def chosenSummary (target : ℕ) : List DailyAttendanceSummary → Option DailyAttendanceSummary
  | [] => none
  | row :: rows =>
    some (rows.foldl (fun best row => if preferred target row best then row else best) row)

def dayConflicts (rows : List DailyAttendanceSummary) : Bool :=
  decide (1 < rows.length) &&
    (decide ((rows.map DailyAttendanceSummary.attendanceFacts).dedup.length ≠ 1) ||
      rows.any fun row => row.presentPeriods + row.absentPeriods ≠ row.submittedPeriods)

def chosenMark (target : ℕ) (rows : List AttendanceMark) : Option AttendanceMark :=
  (rows.find? fun row => row.student = target).or rows.head?

def School.evidenceDates (s : School) (student sectionId : ℕ) : List Date :=
  ((s.summaries.filter fun row => row.student = student ∧ row.sectionId = sectionId).map
      fun row => row.attendanceDate) ++
    (s.marks.filter fun row => row.student = student).filterMap fun row =>
      (s.sessions.find? fun x => x.id = row.session).bind fun x =>
        if x.sectionId = sectionId then some x.attendanceDate else none

def Registry.activeOf (r : Registry) (student : ℕ) : List StudentEnrollment :=
  r.enrollments.filter fun e => e.student = student ∧ e.status = .active

def Registry.soleActive? (r : Registry) (student : ℕ) : Option StudentEnrollment :=
  match r.activeOf student with
  | [e] => some e
  | _ => none

/-- What happens to the active enrollments of the sources, and where the target's one begins. -/
structure SectionPlan where
  start : Date
  converted : Option StudentEnrollment := none
  discard : List StudentEnrollment := []
  blockers : List MergeBlocker := []

def planDiffering (s : School) (today : Date) (active : StudentEnrollment) :
    List StudentEnrollment → SectionPlan
  | [] => { start := active.enrolledAt }
  | [row] =>
    let dates := s.evidenceDates row.student row.sectionId
    if active.enrolledAt < row.enrolledAt ∨ dates.any fun day => day < row.enrolledAt then
      { start := active.enrolledAt, blockers := [.sectionOrder] }
    else if dates.max?.any fun day => today ≤ day then
      { start := active.enrolledAt, blockers := [.recentAttendance] }
    else
      let boundary := max active.enrolledAt (dates.max?.elim active.enrolledAt fun day => day + 1)
      if row.enrolledAt < boundary then { start := boundary, converted := some row }
      else if dates ≠ [] then { start := active.enrolledAt, blockers := [.attendanceOutside] }
      else { start := active.enrolledAt, discard := [row] }
  | _ => { start := active.enrolledAt, blockers := [.severalSections] }

def StudentEnrollment.samePlace (e f : StudentEnrollment) : Bool :=
  e.grade = f.grade ∧ e.sectionId = f.sectionId

def planActive (s : School) (today : Date) (active : StudentEnrollment) (sources : List ℕ) :
    SectionPlan :=
  let rows := sources.filterMap s.registry.soleActive?
  let ofYear := rows.filter fun row => row.academicYear = active.academicYear
  let plan := planDiffering s today active (ofYear.filter fun row => ¬ row.samePlace active)
  { plan with
    discard := (ofYear.filter fun row => row.samePlace active) ++ plan.discard
    blockers := (if rows.length ≠ ofYear.length then [.yearsDiffer] else []) ++ plan.blockers }

inductive PastRow
  | move | discard | block
  deriving DecidableEq

def pastRow (start : Date) (row : StudentEnrollment) : PastRow :=
  match row.endedAt with
  | none => .block
  | some ended =>
    if row.enrolledAt < ended ∧ ended ≤ start then .move
    else if ended = row.enrolledAt then .discard
    else .block

def Registry.pastOf (r : Registry) (ids : List ℕ) : List StudentEnrollment :=
  r.enrollments.filter fun e => e.student ∈ ids ∧ e.status ≠ .active

/-- The first and the last day of an enrollment, where it has any. -/
def StudentEnrollment.interval? (row : StudentEnrollment) : Option (Date × Date) :=
  row.endedAt.bind fun ended =>
    if row.enrolledAt < ended then some (row.enrolledAt, ended) else none

def historyIntervals (r : Registry) (target : ℕ) (plan : SectionPlan)
    (moved : List StudentEnrollment) : List (Date × Date) :=
  KeySort.sortBy Prod.fst
    ((r.pastOf [target]).filterMap StudentEnrollment.interval? ++
      moved.filterMap StudentEnrollment.interval? ++
      plan.converted.toList.map fun row => (row.enrolledAt, plan.start))

/-- An interval ends after the next one begins. -/
def intervalsOverlap : List (Date × Date) → Bool
  | x :: y :: rest => decide (y.1 < x.2) || intervalsOverlap (y :: rest)
  | _ => false

/-- The dates of the attendance in the target's section, of all records that are active there. -/
def currentDates (s : School) (active : StudentEnrollment) (ids : List ℕ) : List Date :=
  (ids.filter fun id => (s.registry.soleActive? id).any fun e => e.samePlace active).flatMap
    fun id => s.evidenceDates id active.sectionId

/-- What the revision of a plan is made from. -/
structure MergeSnapshot where
  students : List Student
  enrollments : List StudentEnrollment
  summaries : List DailyAttendanceSummary
  marks : List AttendanceMark
  relatedRows : List (String × ℕ)
  today : Date
  deriving DecidableEq

structure MergePlan where
  keptSummaries : List DailyAttendanceSummary
  keptMarks : List AttendanceMark
  moveEnrollments : List StudentEnrollment := []
  discardEnrollments : List StudentEnrollment := []
  convertedEnrollment : Option StudentEnrollment := none
  targetActive : Option StudentEnrollment := none
  proposedStart : Date := 0
  blockers : List MergeBlocker
  revision : Digest MergeSnapshot

/-- The rows of other tables that point at some students: merged records, excuses, coverages and
what other parts of the program keep. -/
def Office.related (o : Office) (ids : List ℕ) : List (String × ℕ) :=
  (o.registry.students.filterMap fun x =>
      x.mergedInto.bind fun id => if id ∈ ids then some ("students.Student", id) else none) ++
    (o.school.excuses.filterMap fun x =>
      if x.student ∈ ids then some ("excuses.AbsenceExcuse", x.student) else none) ++
    (o.school.coverages.filterMap fun x =>
      if x.student ∈ ids then some ("excuses.AbsenceExcuseCoverage", x.student) else none) ++
    o.relatedRows.filter fun x => x.2 ∈ ids

/-- Reviews stay with the archived record. -/
def retainedSourceRelations : List String := ["parents.GuardianContactReview"]

def recordBlockers (o : Office) (ids sources : List ℕ) (students : List Student) :
    List MergeBlocker :=
  (if students.any fun x => x.status ≠ .active ∨ x.mergedInto ≠ none then [.notActive] else []) ++
  (if (students.map fun x => normalName x.fullName).dedup.length ≠ 1 then [.namesDiffer]
    else []) ++
  (if 1 < ((students.filter fun x => Text.strip x.guardianName.toList ≠ []).map
      fun x => normalName x.guardianName).dedup.length then [.guardiansDiffer] else []) ++
  (if o.importJobs.any fun j => j.Running then [.importRunning] else []) ++
  (if (o.related sources).any fun x => x.1 ∉ retainedSourceRelations then [.relatedRows]
    else []) ++
  (if ids.any fun id => (o.registry.activeOf id).length ≠ 1 then [.notOneActiveEnrollment]
    else [])

def attendanceBlockers (days : Dict Date (List DailyAttendanceSummary))
    (sessions : Dict ℕ (List AttendanceMark)) : List MergeBlocker :=
  let conflicts := (days.filter fun entry => dayConflicts entry.2).map Prod.fst
  (if conflicts ≠ [] then [.daysDiffer (conflicts.insertionSort (· ≤ ·))] else []) ++
  (if sessions.any fun entry => 1 < (entry.2.map fun row => row.status).dedup.length then
    [.marksDiffer] else [])

def historyBlockers (s : School) (target : ℕ) (sources : List ℕ) (active : StudentEnrollment)
    (plan : SectionPlan) (moved : List StudentEnrollment) : List MergeBlocker :=
  (if (currentDates s active (target :: sources)).any fun day => day < plan.start then
    [.attendanceBeforeStart] else []) ++
  (if (s.registry.pastOf sources).any fun row => pastRow plan.start row = .block then
    [.sourceHistory] else []) ++
  (if (s.registry.pastOf [target]).any fun row => row.endedAt.all fun ended => plan.start < ended
    then [.targetHistory] else []) ++
  (if intervalsOverlap (historyIntervals s.registry target plan moved) then [.intervalsOverlap]
    else [])

/-- `build_manual_merge_plan`, for a target and its sources. -/
def mergePlan (today : Date) (target : ℕ) (sources : List ℕ) (o : Office) : MergePlan :=
  let ids := target :: sources
  let s := o.school
  let students := s.registry.students.filter fun x => x.id ∈ ids
  let summaries := s.summaries.filter fun row => row.student ∈ ids
  let marks := s.marks.filter fun row => row.student ∈ ids
  let days := Dict.groupBy (fun row => row.attendanceDate) summaries
  let sessions := Dict.groupBy (fun row => row.session) marks
  let base : MergePlan :=
    { keptSummaries := days.filterMap fun entry => chosenSummary target entry.2
      keptMarks := sessions.filterMap fun entry => chosenMark target entry.2
      blockers := recordBlockers o ids sources students ++ attendanceBlockers days sessions
      revision := ⟨{ students := students
                     enrollments := s.registry.enrollments.filter fun e => e.student ∈ ids
                     summaries := summaries
                     marks := marks
                     relatedRows := o.related ids
                     today := today }⟩ }
  match s.registry.soleActive? target with
  | none => base
  | some active =>
    let plan := planActive s today active sources
    let past := s.registry.pastOf sources
    let moved := past.filter fun row => pastRow plan.start row = .move
    { base with
      moveEnrollments := moved
      discardEnrollments :=
        plan.discard ++ past.filter fun row => pastRow plan.start row = .discard
      convertedEnrollment := plan.converted
      targetActive := some active
      proposedStart := plan.start
      blockers := base.blockers ++ plan.blockers ++
        historyBlockers s target sources active plan moved }

/-- What the manager confirms: the records and the revision of their plan. -/
structure MergeToken where
  ids : List ℕ
  revision : Digest MergeSnapshot
  deriving DecidableEq

/-- `build_manual_merge_plan`: the records are checked first. -/
def buildManualMergePlan (today : Date) (ids : List ℕ) (o : Office) : Except ApiError MergePlan :=
  match ids with
  | [] => .error
      { code := "INVALID_MERGE_SELECTION"
        message := "حدد سجلًا معتمدًا ومن سجل إلى تسعة سجلات أخرى." }
  | target :: sources =>
    if ¬ (2 ≤ ids.length ∧ ids.length ≤ 10) ∨ ¬ ids.Nodup then .error
      { code := "INVALID_MERGE_SELECTION"
        message := "حدد سجلًا معتمدًا ومن سجل إلى تسعة سجلات أخرى." }
    else if ids.any fun id => (o.registry.student? id).isNone then .error
      { code := "STUDENT_NOT_FOUND"
        message := "أحد السجلات لا يتبع هذه المدرسة."
        statusCode := 404 }
    else .ok (mergePlan today target sources o)

/-- A summary or a mark of a source that is kept goes to the target, a copy goes away. -/
def takeOver {α : Type} [DecidableEq α] (ids sources : List ℕ) (student : α → ℕ)
    (give : α → α) (kept rows : List α) : List α :=
  (rows.filter fun row => student row ∉ ids ∨ row ∈ kept).map fun row =>
    if student row ∈ sources then give row else row

def MergePlan.enrollment (plan : MergePlan) (target : ℕ) (e : StudentEnrollment) :
    StudentEnrollment :=
  if plan.convertedEnrollment = some e then
    { e with student := target, status := .transferred, endedAt := some plan.proposedStart }
  else if e ∈ plan.moveEnrollments then { e with student := target }
  else if plan.targetActive = some e then { e with enrolledAt := plan.proposedStart }
  else e

def archivedSource (now : Instant) (today : Date) (target : ℕ) (x : Student) : Student :=
  { x with
    status := .archived
    mergedInto := some target
    statusChangedAt := some now
    exitDate := some today
    exitReason := s!"دُمج هذا السجل بسجل الطالب رقم {target}" }

def MergePlan.apply (plan : MergePlan) (now : Instant) (today : Date) (target : ℕ)
    (sources : List ℕ) (s : School) : School :=
  let ids := target :: sources
  { s with
    summaries := takeOver ids sources (fun row => row.student)
      (fun row => { row with student := target }) plan.keptSummaries s.summaries
    marks := takeOver ids sources (fun row => row.student)
      (fun row => { row with student := target }) plan.keptMarks s.marks
    registry := { s.registry with
      enrollments := (s.registry.enrollments.filter fun e => e ∉ plan.discardEnrollments).map
        (plan.enrollment target)
      students := s.registry.students.map fun x =>
        if x.id ∈ sources then archivedSource now today target x else x } }

def mergePreviewExpired (message : String) : ApiError where
  code := "MERGE_PREVIEW_EXPIRED"
  message := message
  statusCode := 409

/-- `apply_manual_merge`, for a token that this session has been given. -/
def applyManualMerge (now : Instant) (today : Date) (token : MergeToken) (o : Office) :
    Except Failure Office :=
  match token.ids with
  | [] => .error (.api (mergePreviewExpired "المعاينة غير صالحة؛ أعد المحاولة."))
  | target :: sources =>
    match buildManualMergePlan today token.ids o with
    | .error e => .error (.api e)
    | .ok plan =>
      if plan.blockers ≠ [] ∨ plan.revision ≠ token.revision then
        .error (.api (mergePreviewExpired "تغيرت بيانات السجلات؛ أعد معاينة الدمج."))
      else .ok { o with school := plan.apply now today target sources o.school }

end SchoolPlatform
