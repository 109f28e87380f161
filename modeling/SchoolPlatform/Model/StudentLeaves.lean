import SchoolPlatform.Model.Ingest
import SchoolPlatform.Library.Checks
import SchoolPlatform.Library.UniqueIndex
import Mathlib.Data.List.MinMax

/-!
# Leaves of students and the gate

The office records that a student may leave, and may take it back; the guard at the gate confirms
that the student has left. Leaves are kept when they have been cancelled. The calls find their day
by the clock of the server, whatever the zone of the school.
-/

namespace SchoolPlatform.Leaves

open ReadCommitted

inductive StudentLeaveStatus
  | active | cancelled
  deriving DecidableEq

structure LeaveForm where
  leaveDate : Date
  leaveTime : TimeOfDay
  reason : Text
  recipientName : Text := []
  recipientRelationship : Text := []
  recipientIdLast4 : Text := []
  deriving DecidableEq

structure StudentLeavePermission where
  school : ℕ
  student : ℕ
  form : LeaveForm
  gradeName : String := ""
  sectionName : String := ""
  status : StudentLeaveStatus := .active
  recordedByMembership : ℕ
  cancelledByMembership : Option ℕ := none
  cancelledAt : Option Instant := none
  cancellationReason : Text := []
  deriving DecidableEq

structure StudentGateRelease where
  school : ℕ
  leavePermission : ℕ
  releasedByMembership : ℕ
  releasedAt : Instant
  deriving DecidableEq

structure LeaveStudent where
  school : ℕ
  status : StudentStatus := .active
  deriving DecidableEq

structure LeaveEnrollment where
  school : ℕ
  student : ℕ
  status : EnrollmentStatus := .active
  yearStart : Date
  gradeName : String
  sectionName : String
  deriving DecidableEq

structure LeaveBook where
  students : Dict ℕ LeaveStudent := []
  enrollments : List LeaveEnrollment := []
  leaves : Dict ℕ StudentLeavePermission := []
  releases : Dict ℕ StudentGateRelease := []
  deriving DecidableEq

/-- What is locked: rows, and entries of the unique indexes. -/
inductive LeaveRow
  | leave (id : ℕ)
  | release (id : ℕ)
  | activeDay (entry : ℕ × ℕ × Date)
  | releaseOf (leave : ℕ)
  deriving DecidableEq

abbrev LeaveTransaction (α : Type) := Tx LeaveBook LeaveRow Failure α

abbrev LeaveProgram (α : Type) := Program LeaveBook LeaveRow Failure α

def epochDay : ℤ := 719163

/-- `TIME_ZONE` of the server: three hours ahead of UTC. -/
def riyadh : Zone where
  wall := fun t => t + epochDay * microsPerDay + 3 * 3600 * 1000000

/-- The clock at the points of a call at which it is read: for the day, and when a row is saved. -/
structure LeaveClock where
  checkedAt : Instant
  savedAt : Instant
  deriving DecidableEq

def LeaveClock.localdate (clock : LeaveClock) : Date := riyadh.date clock.checkedAt

def apiError (code message : String) (statusCode : ℕ) : Failure :=
  .api { code := code, message := message, statusCode := statusCode }

def LeaveBook.leaveOf (s : LeaveBook) (school id : ℕ) : Option StudentLeavePermission :=
  (s.leaves.get? id).filter fun x => x.school = school

/-- The entry of a leave in `uniq_active_student_leave_day`. -/
def StudentLeavePermission.activeDay (x : StudentLeavePermission) : Option (ℕ × ℕ × Date) :=
  if x.status = .active then some (x.school, x.student, x.form.leaveDate) else none

/-- The entry of a release in the unique index of its leave. -/
def StudentGateRelease.releaseOf (x : StudentGateRelease) : Option ℕ := some x.leavePermission

def LeaveBook.isReleased (s : LeaveBook) (leave : ℕ) : Bool :=
  s.releases.taken StudentGateRelease.releaseOf leave

def LeaveBook.addLeave (s : LeaveBook) (id : ℕ) (x : StudentLeavePermission) : LeaveBook :=
  { s with leaves := s.leaves ++ [(id, x)] }

def LeaveBook.changeLeave (s : LeaveBook) (id : ℕ)
    (f : StudentLeavePermission → StudentLeavePermission) : LeaveBook :=
  { s with leaves := s.leaves.adjust id f }

def LeaveBook.addRelease (s : LeaveBook) (id : ℕ) (x : StudentGateRelease) : LeaveBook :=
  { s with releases := s.releases ++ [(id, x)] }

def StudentLeavePermission.fits (x : StudentLeavePermission) : Bool :=
  x.form.reason.length ≤ 500 && x.form.recipientName.length ≤ 150 &&
    x.form.recipientRelationship.length ≤ 60 && x.form.recipientIdLast4.length ≤ 4 &&
    x.cancellationReason.length ≤ 300

/-- `SELECT … FOR UPDATE` of a leave of the school. -/
def lockLeave (school id : ℕ) : LeaveTransaction (Option StudentLeavePermission) :=
  Tx.selectForUpdate (fun _ => [LeaveRow.leave id]) fun _ s => s.leaveOf school id

/-- `INSERT` of a leave in a savepoint; a conflict is answered. -/
def insertLeave (id : ℕ) (x : StudentLeavePermission) : LeaveTransaction Unit := do
  Tx.require x.fits (.dataError "student_leaves_studentleavepermission")
  Tx.lockRows .update
    [LeaveRow.leave id, LeaveRow.activeDay (x.school, x.student, x.form.leaveDate)]
  let taken ← Tx.select fun s =>
    (s.leaves.get? id).isSome ||
      s.leaves.taken StudentLeavePermission.activeDay (x.school, x.student, x.form.leaveDate)
  Tx.require (!taken) (apiError "ACTIVE_STUDENT_LEAVE_ALREADY_EXISTS"
    "يوجد استئذان ساري لهذا الطالب في التاريخ المحدد." 409)
  Tx.update fun s => s.addLeave id x

/-- `INSERT` of a release; a conflict is answered. -/
def insertRelease (id : ℕ) (x : StudentGateRelease) : LeaveTransaction Unit := do
  Tx.lockRows .update [LeaveRow.release id, LeaveRow.releaseOf x.leavePermission]
  let taken ← Tx.select fun s => (s.releases.get? id).isSome || s.isReleased x.leavePermission
  Tx.require (!taken) (apiError "STUDENT_ALREADY_RELEASED" "تم تسجيل خروج الطالب مسبقًا." 409)
  Tx.update fun s => s.addRelease id x

def LeaveBook.currentEnrollment (s : LeaveBook) (school student : ℕ) : Option LeaveEnrollment :=
  (s.enrollments.filter fun e =>
    e.school = school ∧ e.student = student ∧ e.status = .active).argmax fun e => e.yearStart

def LeaveForm.strip (form : LeaveForm) : LeaveForm :=
  { form with
    reason := Text.strip form.reason
    recipientName := Text.strip form.recipientName
    recipientRelationship := Text.strip form.recipientRelationship
    recipientIdLast4 := Text.strip form.recipientIdLast4 }

/-- `record_student_leave`, of a student that has been read before. -/
def recordStudentLeave (clock : LeaveClock) (school membership studentId : ℕ)
    (student : LeaveStudent) (form : LeaveForm) (newId : ℕ) :
    LeaveTransaction StudentLeavePermission := do
  Tx.require (student.school = school) (apiError "NOT_FOUND" "المورد المطلوب غير موجود." 404)
  Tx.require (student.status = .active) (apiError "ACTIVE_STUDENT_REQUIRED"
    "لا يمكن تسجيل استئذان لطالب غير نشط." 409)
  Tx.require (form.leaveDate ≤ clock.localdate) (apiError "FUTURE_STUDENT_LEAVE_NOT_ALLOWED"
    "لا يمكن تسجيل استئذان بتاريخ مستقبلي." 400)
  let enrollment ← Tx.select fun s => s.currentEnrollment school studentId
  let leave : StudentLeavePermission :=
    { school := school
      student := studentId
      form := form.strip
      gradeName := enrollment.elim "" fun e => e.gradeName
      sectionName := enrollment.elim "" fun e => e.sectionName
      recordedByMembership := membership }
  insertLeave newId leave
  pure leave

def StudentLeavePermission.cancel (clock : LeaveClock) (membership : ℕ) (reason : Text)
    (x : StudentLeavePermission) : StudentLeavePermission :=
  { x with
    status := .cancelled
    cancelledByMembership := some membership
    cancelledAt := some clock.savedAt
    cancellationReason := Text.strip reason }

def cancelStudentLeave (clock : LeaveClock) (school membership leaveId : ℕ) (reason : Text) :
    LeaveTransaction StudentLeavePermission := do
  let found ← lockLeave school leaveId
  let locked ← Tx.need found (apiError "STUDENT_LEAVE_NOT_FOUND" "الاستئذان غير موجود." 404)
  Tx.require (locked.status ≠ .cancelled) (apiError "STUDENT_LEAVE_ALREADY_CANCELLED"
    "تم إلغاء هذا الاستئذان مسبقًا." 409)
  let released ← Tx.select fun s => s.isReleased leaveId
  Tx.require (!released) (apiError "STUDENT_LEAVE_ALREADY_RELEASED"
    "تم تسجيل خروج الطالب فعليًا، ولا يمكن إلغاء الاستئذان بعد الخروج." 409)
  let cancelled := locked.cancel clock membership reason
  Tx.require cancelled.fits (.dataError "student_leaves_studentleavepermission")
  Tx.lockRows .update
    [LeaveRow.activeDay (locked.school, locked.student, locked.form.leaveDate)]
  Tx.update fun s =>
    s.changeLeave leaveId (StudentLeavePermission.cancel clock membership reason)
  pure cancelled

def confirmGateRelease (clock : LeaveClock) (school membership leaveId newId : ℕ) :
    LeaveTransaction StudentGateRelease := do
  let found ← lockLeave school leaveId
  let locked ← Tx.need found (apiError "STUDENT_LEAVE_NOT_FOUND" "الاستئذان غير موجود." 404)
  Tx.require (locked.form.leaveDate = clock.localdate) (apiError "GATE_RELEASE_TODAY_ONLY"
    "لا يمكن تسجيل الخروج إلا لاستئذان اليوم." 409)
  Tx.require (locked.status = .active) (apiError "STUDENT_LEAVE_NOT_ACTIVE"
    "هذا الاستئذان لم يعد ساريًا." 409)
  let released ← Tx.select fun s => s.isReleased leaveId
  Tx.require (!released) (apiError "STUDENT_ALREADY_RELEASED" "تم تسجيل خروج الطالب مسبقًا." 409)
  let release : StudentGateRelease :=
    { school := school
      leavePermission := leaveId
      releasedByMembership := membership
      releasedAt := clock.savedAt }
  insertRelease newId release
  pure release

inductive LeaveCall
  | record (clock : LeaveClock) (school membership studentId : ℕ) (form : LeaveForm) (newId : ℕ)
  | cancel (clock : LeaveClock) (school membership leaveId : ℕ) (reason : Text)
  | confirm (clock : LeaveClock) (school membership leaveId newId : ℕ)
  deriving DecidableEq

/-- A view finds the row it is about before it calls the service. -/
def LeaveCall.program : LeaveCall → LeaveProgram Unit
  | .record clock school membership studentId form newId => do
    let found ← Program.read fun s : LeaveBook =>
      (s.students.get? studentId).filter fun x => x.school = school
    let student ← Program.need found (.doesNotExist "Student")
    let _ ← Program.transaction
      (recordStudentLeave clock school membership studentId student form newId)
    pure ()
  | .cancel clock school membership leaveId reason => do
    let found ← Program.read fun s : LeaveBook => s.leaveOf school leaveId
    let _ ← Program.need found (.doesNotExist "StudentLeavePermission")
    let _ ← Program.transaction (cancelStudentLeave clock school membership leaveId reason)
    pure ()
  | .confirm clock school membership leaveId newId => do
    let found ← Program.read fun s : LeaveBook => s.leaveOf school leaveId
    let _ ← Program.need found (.doesNotExist "StudentLeavePermission")
    let _ ← Program.transaction (confirmGateRelease clock school membership leaveId newId)
    pure ()

end SchoolPlatform.Leaves
