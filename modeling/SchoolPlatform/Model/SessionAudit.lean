import SchoolPlatform.Model.Sessions

/-!
# The log of session edits

Edits and corrections of a submitted session with the log that they keep: an entry for each student
whose status changes, written with the marks and in the same transaction.
-/

namespace SchoolPlatform.Audited

open ReadCommitted

structure AttendanceChange where
  session : ℕ
  student : ℕ
  actorMembership : ℕ
  previousStatus : String
  newStatus : String
  reason : Text
  deriving DecidableEq

/-- The tables of a school with the log, in the order in which its entries were written. -/
structure AuditedSchool where
  school : School := {}
  changes : List AttendanceChange := []
  deriving DecidableEq

abbrev AuditedTransaction (α : Type) := Tx AuditedSchool Row Failure α

abbrev AuditedOperation (α : Type) := Program AuditedSchool Row Failure α

def tables : Part School AuditedSchool Row Row Failure Failure where
  get := fun s => s.school
  set := fun school s => { s with school := school }
  row := fun r => r
  error := fun e => e

def onTables {α : Type} (t : Transaction α) : AuditedTransaction α := t.zoom tables

def AuditedSchool.addChanges (s : AuditedSchool) (new : List AttendanceChange) : AuditedSchool :=
  { s with changes := s.changes ++ new }

/-- The status of a student with or without a mark, as the log has it. -/
def statusText (marked : Bool) : String :=
  if marked then AttendanceMarkStatus.absent.text else presentText

def editChange (session membership : ℕ) (reason : Text) (old new : List ℕ) (student : ℕ) :
    AttendanceChange where
  session := session
  student := student
  actorMembership := membership
  previousStatus := statusText (student ∈ old)
  newStatus := statusText (student ∈ new)
  reason := (Text.strip reason).take 300

/-- The transaction of an edit, with its log; `setOrder` is the order in which the set of the
students is gone through. -/
def editLocked (setOrder : List ℕ → List ℕ) (clock : Clock) (sessionId membership : ℕ)
    (roles : List SchoolRole) (expectedUpdatedAt : Instant) (marks : List MarkInput)
    (reason : Text) : AuditedTransaction (AttendanceSession × List ℕ) := do
  let session ← onTables (getSessionForUpdate sessionId)
  if session.status ≠ .submitted then
    onTables (raiseApi (validationError "لا يمكن تعديل جلسة غير معتمدة."))
  else do
    let settings ← onTables (ask fun s => s.registry.settings)
    onTables (orRaise (canEdit settings clock.now session membership roles))
    if isAdminCorrection roles ∧ Text.strip reason = [] then
      onTables (raiseApi (validationError "سبب التصحيح الإداري مطلوب."))
    else do
      onTables (orRaise (requireCurrentSession session expectedUpdatedAt))
      let roster ← onTables (ask fun s => s.getRoster session.sectionId session.academicYear)
      let validated ← onTables (orRaise (validateMarks (roster.map fun r => r.studentId) [] marks))
      let oldMarks ← onTables (ask fun s => (s.marksOf session.id).map fun x => x.student)
      let changes := setOrder (changedStudents oldMarks validated)
      if changes = [] then pure (session, []) else do
        Tx.update fun s => s.addChanges
          (changes.map (editChange session.id membership reason oldMarks validated))
        onTables (Tx.update fun s => s.replaceMarks session.id validated)
        let edited := session.touch clock.savedAt
        onTables (saveSession edited)
        onTables (checkReferences ((changes ++ validated).map Row.student))
        pure (edited, changes)

/-- What comes after the marks have changed, beside the log. -/
def afterMarks (clock : Clock) (session : AttendanceSession) (studentIds : List ℕ) :
    AuditedOperation Unit :=
  (SchoolPlatform.afterMarks clock session (some studentIds)).zoom tables

def editSession (setOrder : List ℕ → List ℕ) (clock : Clock) (sessionId membership : ℕ)
    (roles : List SchoolRole) (expectedUpdatedAt : Instant) (marks : List MarkInput)
    (reason : Text) : AuditedOperation AttendanceSession := do
  let (session, changes) ← Program.transaction
    (editLocked setOrder clock sessionId membership roles expectedUpdatedAt marks reason)
  if changes = [] then pure session else do
    afterMarks clock session changes
    pure session

def correctLocked (clock : Clock) (sessionId studentId membership : ℕ) (status : String)
    (reason : Text) (expectedUpdatedAt : Instant) : AuditedTransaction AttendanceSession := do
  let session ← onTables (getSessionForUpdate sessionId)
  if session.status ≠ .submitted then
    onTables (raiseApi (validationError "لا يمكن تصحيح تحضير غير معتمد."))
  else do
    let mark ← onTables (ask fun s => s.markOf session.id studentId)
    let enrolled ← onTables (ask fun s =>
      (s.enrollmentsOnDateIn session.attendanceDate session.sectionId).any fun e =>
        e.student = studentId ∧ e.academicYear = session.academicYear)
    let previousStatus := statusText mark.isSome
    if !enrolled ∧ ¬ (mark.isSome ∧ status = presentText) then
      onTables (raiseApi
        { code := "INVALID_ATTENDANCE_STUDENT"
          message := "الطالب لم يكن في هذا الفصل بتاريخ التحضير." })
    else if previousStatus = status then
      onTables (raiseApi
        { code := "ATTENDANCE_STATUS_UNCHANGED"
          message := "حالة الطالب مسجلة بالفعل بهذه القيمة."
          statusCode := 409 })
    else do
      onTables (orRaise (requireCurrentSession session expectedUpdatedAt))
      onTables (Tx.update fun s => s.setMark session.id studentId status)
      Tx.update fun s => s.addChanges
        [ { session := session.id
            student := studentId
            actorMembership := membership
            previousStatus := previousStatus
            newStatus := status
            reason := (Text.strip reason).take 300 } ]
      let corrected := session.touch clock.savedAt
      onTables (saveSession corrected)
      onTables (checkReferences [.student studentId])
      pure corrected

def correctStudentAttendance (clock : Clock) (sessionId studentId membership : ℕ)
    (roles : List SchoolRole) (status : String) (reason : Text) (expectedUpdatedAt : Instant) :
    AuditedOperation AttendanceSession :=
  if !isAdminCorrection roles then
    .raise (.api (permissionDenied "ليست لديك صلاحية تصحيح الحضور."))
  else if Text.strip reason = [] then .raise (.api (validationError "سبب التصحيح مطلوب."))
  else if status ≠ presentText ∧ status ≠ AttendanceMarkStatus.absent.text then
    .raise (.api (validationError "حالة الحضور غير صحيحة."))
  else do
    let session ← Program.transaction
      (correctLocked clock sessionId studentId membership status reason expectedUpdatedAt)
    afterMarks clock session [studentId]
    pure session

inductive EditingCall
  | editSession (clock : Clock) (sessionId membership : ℕ) (roles : List SchoolRole)
      (expectedUpdatedAt : Instant) (marks : List MarkInput) (reason : Text)
  | correctStudentAttendance (clock : Clock) (sessionId studentId membership : ℕ)
      (roles : List SchoolRole) (status : String) (reason : Text) (expectedUpdatedAt : Instant)

def EditingCall.program (setOrder : List ℕ → List ℕ) : EditingCall → AuditedOperation Unit
  | .editSession clock sessionId membership roles expectedUpdatedAt marks reason =>
    (Audited.editSession setOrder clock sessionId membership roles expectedUpdatedAt marks
      reason).bind fun _ => .ret ()
  | .correctStudentAttendance clock sessionId studentId membership roles status reason
      expectedUpdatedAt =>
    (Audited.correctStudentAttendance clock sessionId studentId membership roles status reason
      expectedUpdatedAt).bind fun _ => .ret ()

end SchoolPlatform.Audited
