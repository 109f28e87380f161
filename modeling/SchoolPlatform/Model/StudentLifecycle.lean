import SchoolPlatform.Model.Records

/-!
# Section transfers and the status of a student

An enrollment is never deleted: a transfer ends it and begins another. The day it is ended on
already belongs to the new section.
-/

namespace SchoolPlatform

open ReadCommitted

def School.student? (s : School) (id : ℕ) : Option Student :=
  s.registry.students.find? fun x => x.id = id

def School.setRegistry (s : School) (f : Registry → Registry) : School :=
  { s with registry := f s.registry }

def Registry.putStudent (r : Registry) (student : Student) : Registry :=
  { r with students := Table.put (fun x => x.id) student r.students }

def Registry.putEnrollment (r : Registry) (e : StudentEnrollment) : Registry :=
  { r with enrollments := Table.put (fun x => x.id) e r.enrollments }

def Registry.addEnrollment (r : Registry) (e : StudentEnrollment) : Registry :=
  { r with enrollments := r.enrollments ++ [e] }

/-- The personal data of a manual correction; a field that is not given stays as it is. -/
structure StudentData where
  nationalId : Option (String × String) := none
  studentNumber : Option (Option String) := none
  fullName : Option String := none
  guardianName : Option String := none
  guardianMobile : Option String := none
  deriving DecidableEq

def studentAlreadyExists : ApiError where
  code := "STUDENT_ALREADY_EXISTS"
  message := "يوجد طالب مسجل برقم الطالب هذا."
  statusCode := 409

def studentNumberAlreadyExists : ApiError where
  code := "STUDENT_NUMBER_ALREADY_EXISTS"
  message := "رقم الطالب مستخدم مسبقًا."
  statusCode := 409

/-- The national id, as its lookup hash and its masked form, unless another student has it. -/
def setNationalId (s : School) (student : Student) (id : Option (String × String)) :
    Except ApiError Student :=
  match id with
  | none => .ok student
  | some (hash, masked) =>
    if hash = student.nationalIdLookupHash then .ok student
    else if s.registry.students.any fun x =>
        x.nationalIdLookupHash = hash ∧ x.id ≠ student.id then .error studentAlreadyExists
    else .ok { student with nationalIdLookupHash := hash, nationalIdMasked := masked }

def setStudentNumber (s : School) (student : Student) (number : Option (Option String)) :
    Except ApiError Student :=
  match number with
  | none => .ok student
  | some given =>
    let number := given.filter fun x => x ≠ ""
    if number = student.studentNumber then .ok student
    else if number ≠ none ∧ s.registry.students.any fun x =>
        x.studentNumber = number ∧ x.id ≠ student.id then .error studentNumberAlreadyExists
    else .ok { student with studentNumber := number }

def newEnrollment (id : ℕ) (today : Date) (student academicYear : ℕ) (target : Section) :
    StudentEnrollment where
  id := id
  student := student
  academicYear := academicYear
  grade := target.grade
  sectionId := target.id
  status := .active
  enrolledAt := today
  endedAt := none

/-- Move the active enrollment of the year to another section. -/
def transferSection (newId : ℕ) (today : Date) (student academicYear : ℕ) (target : Section) :
    Transaction Unit := do
  let active : School → Option StudentEnrollment := fun s => s.registry.enrollments.find? fun e =>
    e.student = student ∧ e.academicYear = academicYear ∧ e.status = .active
  let current ← Tx.selectForUpdate
    (fun s => (active s).elim [] fun e => [Row.enrollment e.id]) fun _ s => active s
  let fresh := newEnrollment newId today student academicYear target
  match current with
  | none => Tx.update fun s => s.setRegistry fun r => r.addEnrollment fresh
  | some e =>
    if e.sectionId = target.id then pure () else do
      let ended := { e with status := .transferred, endedAt := some today }
      Tx.updateWhere (fun _ => [Row.enrollment e.id]) fun _ s =>
        s.setRegistry fun r => r.putEnrollment ended
      Tx.update fun s => s.setRegistry fun r => r.addEnrollment fresh

def updateStudent (newEnrollmentId : ℕ) (today : Date) (studentId academicYear : ℕ)
    (target : Option Section) (data : StudentData) : Operation Student :=
  Program.transaction do
    let found ← Tx.selectForUpdate
      (fun s => (s.student? studentId).elim [] fun x => [Row.student x.id])
      fun _ s => s.student? studentId
    match found with
    | none => .raise (.doesNotExist "Student")
    | some student => do
      let checked ← ask fun s => setNationalId s student data.nationalId
      let student ← orRaise checked
      let checked ← ask fun s => setStudentNumber s student data.studentNumber
      let student ← orRaise checked
      let student :=
        { student with
          fullName := data.fullName.getD student.fullName
          guardianName := data.guardianName.getD student.guardianName
          guardianMobile := data.guardianMobile.getD student.guardianMobile }
      Tx.updateWhere (fun _ => [Row.student student.id]) fun _ s =>
        s.setRegistry fun r => r.putStudent student
      match target with
      | none => pure student
      | some target => do
        transferSection newEnrollmentId today student.id academicYear target
        pure student

def enrollmentCloseStatus : StudentStatus → EnrollmentStatus
  | .graduated => .completed
  | .transferred => .transferred
  | .withdrawn => .withdrawn
  | .inactive => .archived
  | .archived => .archived
  | .active => .active

def allowedTargetStatuses : List StudentStatus :=
  [.active, .graduated, .transferred, .withdrawn, .inactive]

def Registry.closeEnrollments (r : Registry) (student : ℕ) (status : EnrollmentStatus)
    (ended : Date) : Registry :=
  { r with enrollments := r.enrollments.map fun e =>
      if e.student = student ∧ e.status = .active then
        { e with status := status, endedAt := some ended }
      else e }

def leaveSchool (student : ℕ) (newStatus : StudentStatus) (ended : Date) : Transaction Unit :=
  if newStatus = .active then pure () else
    Tx.updateWhere
      (fun s => (s.registry.enrollments.filter fun e =>
        e.student = student ∧ e.status = .active).map fun e => Row.enrollment e.id)
      fun _ s => s.setRegistry fun r =>
        r.closeEnrollments student (enrollmentCloseStatus newStatus) ended

/-- The status of the student the request was loaded with is changed, and the enrollments of a
student who leaves are ended on the exit date. -/
def setStudentStatus (now : Instant) (today : Date) (student : Student)
    (newStatus : StudentStatus) (exitDate : Option Date) (exitReason : String) :
    Operation Student :=
  Program.transaction do
    if newStatus ∉ allowedTargetStatuses then
      raiseApi
        { code := "VALIDATION_ERROR"
          message := "حالة الطالب المطلوبة غير معروفة." }
    else if student.mergedInto ≠ none then
      raiseApi
        { code := "STUDENT_MERGED"
          message := "هذا سجل قديم مدمج؛ استخدم سجل الطالب المعتمد بدل إعادة تنشيطه." }
    else if student.status = newStatus then pure student
    else do
      let ended := exitDate.getD today
      let student :=
        { student with
          status := newStatus
          statusChangedAt := some now
          exitDate := if newStatus = .active then none else some ended
          exitReason :=
            if newStatus = .active then "" else String.ofList (exitReason.toList.take 300) }
      Tx.updateWhere (fun _ => [Row.student student.id]) fun _ s =>
        s.setRegistry fun r => r.putStudent student
      leaveSchool student.id newStatus ended
      pure student

end SchoolPlatform
