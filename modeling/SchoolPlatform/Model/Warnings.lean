import SchoolPlatform.Model.Calendar
import SchoolPlatform.Model.Ingest
import Mathlib.Data.List.Dedup

/-!
# Warnings

A student is warned by a decision of the staff, once the metric of a type has reached the threshold
of a level. A warning keeps the numbers of its day; when a correction brings the metric below the
threshold it was issued at, the warning is voided, and with it its documents.

The rows of warnings and documents are known by their position: rows are never deleted.
-/

namespace SchoolPlatform

open ReadCommitted

inductive WarningRuleType
  | unexcusedFullDayAbsence | morningLateOccurrences
  deriving DecidableEq

inductive WarningLevel
  | level1 | level2 | level3
  deriving DecidableEq

structure WarningRule where
  ruleType : WarningRuleType
  level : WarningLevel
  threshold : ℕ
  isEnabled : Bool := true
  deriving DecidableEq

inductive WarningStatus
  | issued | voided
  deriving DecidableEq

/-- A day that a warning lists: an absence, or an arrival with its time and minutes. -/
structure DetailRow where
  date : Date
  arrival : Option (Instant × ℕ) := none
  deriving DecidableEq

structure StudentWarning where
  student : ℕ
  academicYear : ℕ
  semester : Option ℕ := none
  warningType : WarningRuleType
  level : WarningLevel
  status : WarningStatus := .issued
  thresholdAtIssue : ℕ
  metricValueAtIssue : ℕ
  studentNameSnapshot : String := ""
  gradeNameSnapshot : String := ""
  sectionNameSnapshot : String := ""
  nationalIdMaskedSnapshot : String := ""
  fullAbsenceDaysAtIssue : ℕ := 0
  unexcusedFullAbsenceDaysAtIssue : ℕ := 0
  excusedFullAbsenceDaysAtIssue : ℕ := 0
  absentPeriodsAtIssue : ℕ := 0
  unexcusedAbsentPeriodsAtIssue : ℕ := 0
  morningLateOccurrencesAtIssue : ℕ := 0
  morningLateMinutesAtIssue : ℕ := 0
  detailRowsSnapshot : List DetailRow := []
  issuedByMembership : ℕ
  issuedAt : Instant
  notes : String := ""
  voidedByMembership : Option ℕ := none
  voidedAt : Option Instant := none
  voidReason : String := ""
  deriving DecidableEq

inductive DocumentType
  | warningLevel1 | warningLevel2 | warningLevel3
  | attendanceCommitment | absenceDetailReport | morningLateDetailReport | studentAttendanceReport
  deriving DecidableEq

inductive DocumentStatus
  | pending | ready | failed | voided
  deriving DecidableEq

abbrev Bytes := List UInt8

/-- `file` is the place of the stored file; `maker` the call that has inserted the row, which no
code reads. -/
structure GeneratedDocument where
  student : ℕ
  warning : Option ℕ := none
  documentType : DocumentType
  status : DocumentStatus := .pending
  snapshotData : String
  file : Option ℕ := none
  mimeType : String := ""
  sizeBytes : ℕ := 0
  checksum : Option (Digest Bytes) := none
  revision : ℕ := 1
  errorCode : String := ""
  generatedByMembership : ℕ
  generatedAt : Option Instant := none
  voidedByMembership : Option ℕ := none
  voidedAt : Option Instant := none
  voidReason : String := ""
  maker : Option ℕ := none
  deriving DecidableEq

/-- The warnings of a school with what they rest on, and its documents with their files.
`otherStorageBytes` is the size of the attachments, `maxStorageBytes` the limit of the plan. -/
structure WarningOffice where
  school : School := {}
  arrivals : List SchoolArrival := []
  rules : List WarningRule := []
  activeSemester : Option ℕ := none
  warnings : List StudentWarning := []
  documents : List GeneratedDocument := []
  storage : List Bytes := []
  otherStorageBytes : ℕ := 0
  maxStorageBytes : Option ℕ := none

/-- The row of the school, of a warning or of a document; the entries of the two partial unique
indexes; the rows that attendance and arrivals lock. -/
inductive WarningRow
  | school
  | warning (id : ℕ)
  | warningKey (student academicYear : ℕ) (warningType : WarningRuleType) (level : WarningLevel)
  | document (id : ℕ)
  | documentKey (warning : ℕ) (documentType : DocumentType) (revision : ℕ)
  | attendance (row : Row)
  | arrival (student : ℕ) (attendanceDate : Date)
  deriving DecidableEq

inductive DocumentWrite
  | creation | requestEvent | fileLocks | fileSave | documentSave | generatedEvent
  | failureSave | failureEvent
  deriving DecidableEq

/-- What ends an operation of the office: an error of the code, or the exception of a write that
has failed. -/
inductive OfficeFailure
  | failure (f : Failure)
  | exception (w : DocumentWrite)
  deriving DecidableEq

abbrev WarningTransaction (α : Type) := Tx WarningOffice WarningRow OfficeFailure α

abbrev WarningProgram (α : Type) := Program WarningOffice WarningRow OfficeFailure α

def officeError (code message : String) (statusCode : ℕ)
    (details : List (String × Detail) := []) : OfficeFailure :=
  .failure (.api
    { code := code, message := message, statusCode := statusCode, details := details })

/-- `UNEXCUSED_FULL_DAY_FILTER`. -/
def DailyAttendanceSummary.isUnexcusedFullDay (r : DailyAttendanceSummary) : Bool :=
  r.absenceStatus = .full ∧ r.excusedAbsentPeriods = 0 ∧ 0 < r.unexcusedAbsentPeriods

def WarningOffice.summariesOf (s : WarningOffice) (student academicYear : ℕ) :
    List DailyAttendanceSummary :=
  s.school.summaries.filter fun r => r.student = student ∧ r.academicYear = academicYear

def WarningOffice.lateArrivalsOf (s : WarningOffice) (student : ℕ) (year : AcademicYear) :
    List SchoolArrival :=
  s.arrivals.filter fun a => a.student = student ∧ a.lateness.status = .late ∧
    year.startDate ≤ a.attendanceDate ∧ a.attendanceDate ≤ year.endDate

/-- `metric_for_students`, for one student. -/
def WarningOffice.metric (s : WarningOffice) (year : AcademicYear) :
    WarningRuleType → ℕ → ℕ
  | .unexcusedFullDayAbsence, student =>
    ((s.summariesOf student year.id).filter fun r => r.isUnexcusedFullDay).length
  | .morningLateOccurrences, student => (s.lateArrivalsOf student year).length

def WarningOffice.year? (s : WarningOffice) (id : ℕ) : Option AcademicYear :=
  s.school.registry.academicYears.find? fun y => y.id = id

def WarningOffice.markVoided (s : WarningOffice) (id : ℕ) (membership : Option ℕ) (now : Instant)
    (reason : String) : WarningOffice :=
  { s with warnings := s.warnings.modify id fun w =>
      { w with
        status := .voided
        voidedByMembership := membership
        voidedAt := some now
        voidReason := String.ofList (reason.toList.take 300) } }

def WarningOffice.voidDocument (s : WarningOffice) (id : ℕ) (membership : Option ℕ)
    (now : Instant) (reason : String) : WarningOffice :=
  { s with documents := s.documents.modify id fun d =>
      { d with
        status := .voided
        voidedByMembership := membership
        voidedAt := some now
        voidReason := String.ofList (reason.toList.take 300) } }

def WarningOffice.openDocuments (s : WarningOffice) (warning : ℕ) : List ℕ :=
  (List.range s.documents.length).filter fun d => (s.documents[d]?).any fun doc =>
    doc.warning = some warning ∧ doc.status ≠ .voided

def voidLockedWarning (warning : ℕ) (membership : Option ℕ) (now : Instant) (reason : String) :
    WarningTransaction Unit := do
  Tx.update fun s => s.markVoided warning membership now reason
  let documents ← Tx.selectForUpdate
    (fun s => (s.openDocuments warning).map WarningRow.document)
    fun rows s => (s.openDocuments warning).filter fun d => WarningRow.document d ∈ rows
  Tx.forEach (fun d => Tx.update fun s => s.voidDocument d membership now reason) documents

/-- `void_student_warning` of a warning that the view has found. -/
def voidStudentWarning (membership : ℕ) (warning : ℕ) (now : Instant) (reason : String) :
    WarningProgram Unit := do
  let found ← Program.read fun s => s.warnings[warning]?
  match found with
  | none => .raise (officeError "WARNING_NOT_FOUND" "الإنذار غير موجود." 404)
  | some _ => Program.transaction do
    let locked ← Tx.selectForUpdate (fun _ => [WarningRow.warning warning]) fun _ s =>
      s.warnings[warning]?
    match locked with
    | none => .raise (.failure (.doesNotExist "StudentWarning"))
    | some w =>
      if w.status = .voided then
        .raise (officeError "WARNING_ALREADY_VOIDED" "تم إلغاء هذا الإنذار مسبقاً." 409)
      else voidLockedWarning warning (some membership) now reason

def WarningOffice.issuedWarnings (s : WarningOffice) (studentIds : List ℕ)
    (warningType : WarningRuleType) : List ℕ :=
  (List.range s.warnings.length).filter fun i => (s.warnings[i]?).any fun w =>
    w.student ∈ studentIds ∧ w.warningType = warningType ∧ w.status = .issued

def metricsByYear (warningType : WarningRuleType) :
    List ℕ → Dict ℕ (ℕ → ℕ) → WarningTransaction (Dict ℕ (ℕ → ℕ))
  | [], acc => pure acc
  | yearId :: years, acc => do
    let year ← Tx.select fun s => s.year? yearId
    match year with
    | none => .raise (.failure (.doesNotExist "AcademicYear"))
    | some year => do
      let values ← Tx.select fun s => s.metric year warningType
      metricsByYear warningType years (acc ++ [(yearId, values)])

def reconcileReason (warningType : WarningRuleType) (current threshold : ℕ) : String :=
  let label := match warningType with
    | .unexcusedFullDayAbsence => "الغياب بدون عذر"
    | .morningLateOccurrences => "التأخر الصباحي"
  "إلغاء تلقائي بعد تحديث " ++ label ++ ": القيمة الحالية " ++ toString current ++
    " أقل من حد الإنذار وقت الإصدار " ++ toString threshold ++ "."

/-- Void those of some locked warnings that the metric does not support any more. -/
def voidUnsupported (warningType : WarningRuleType) (membership : Option ℕ) (now : Instant)
    (values : Dict ℕ (ℕ → ℕ)) : List (ℕ × StudentWarning) → WarningTransaction Unit
  | [] => pure ()
  | (id, w) :: ws => do
    let current := ((values.get? w.academicYear).getD fun _ => 0) w.student
    if w.thresholdAtIssue ≤ current then voidUnsupported warningType membership now values ws
    else do
      voidLockedWarning id membership now
        (reconcileReason warningType current w.thresholdAtIssue)
      voidUnsupported warningType membership now values ws

/-- `reconcile_issued_warnings`, within the transaction of a change. -/
def reconcileIssuedWarnings (studentIds : List ℕ) (warningType : WarningRuleType)
    (membership : Option ℕ) (now : Instant) : WarningTransaction Unit := do
  if studentIds = [] then pure ()
  else do
    let warnings ← Tx.selectForUpdate
      (fun s => (s.issuedWarnings studentIds warningType).map WarningRow.warning)
      fun rows s => (s.issuedWarnings studentIds warningType).filterMap fun i =>
        if WarningRow.warning i ∈ rows then (s.warnings[i]?).map fun w => (i, w) else none
    let values ← metricsByYear warningType (warnings.map fun p => p.2.academicYear).dedup []
    voidUnsupported warningType membership now values warnings

end SchoolPlatform
