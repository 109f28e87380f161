import SchoolPlatform.Model.ImportPreview

/-!
# The student office

The tables that students are enrolled, imported and merged with. Insertions and updates keep the
unique constraints and the lengths of the columns, or fail as the database does. Ids are given out
in order, to whatever table. The calls here work on one student or on the academic years; those
of an import and of a merge have their own modules.
-/

namespace SchoolPlatform

open ReadCommitted

inductive SemesterStatus
  | upcoming | active | closed
  deriving DecidableEq

structure Semester where
  id : ℕ
  academicYear : ℕ
  status : SemesterStatus
  deriving DecidableEq

inductive ImportJobStatus
  | uploaded | processing | readyForReview | importing | completed | failed | cancelled
  deriving DecidableEq

structure StudentImportRow where
  rowNumber : ℕ
  nationalIdHash : String
  data : RowData
  status : ImportRowStatus
  errorCodes : List RowError
  deriving DecidableEq

structure CommitCounts where
  created : ℕ := 0
  updated : ℕ := 0
  enrollmentChanges : ℕ := 0
  deriving DecidableEq

structure StudentImportJob where
  id : ℕ
  academicYear : ℕ
  status : ImportJobStatus := .uploaded
  rows : List StudentImportRow := []
  totalRows : ℕ := 0
  validRows : ℕ := 0
  invalidRows : ℕ := 0
  duplicateRows : ℕ := 0
  summary : ImportSummary := {}
  counts : CommitCounts := {}
  errorCode : String := ""
  deriving DecidableEq

/-- The school with its calendar policy, its plan, its import jobs and the rows of other tables
that point at students, each as the label of its table and the student. -/
structure Office where
  school : School := {}
  semesters : List Semester := []
  nationalCalendar : Bool := false
  maxStudents : Option ℕ := none
  importJobs : List StudentImportJob := []
  relatedRows : List (String × ℕ) := []
  nextId : ℕ := 1
  deriving DecidableEq

def Office.registry (o : Office) : Registry := o.school.registry

def Office.setRegistry (o : Office) (r : Registry) : Office :=
  { o with school := { o.school with registry := r } }

def Student.Fits (x : Student) : Prop :=
  x.nationalIdLookupHash.length ≤ 64 ∧ x.nationalIdMasked.length ≤ 12 ∧
    (x.studentNumber.getD "").length ≤ 30 ∧ x.fullName.length ≤ 200 ∧
    x.guardianName.length ≤ 150 ∧ x.guardianMobile.length ≤ 16 ∧ x.exitReason.length ≤ 300

instance (x : Student) : Decidable x.Fits := by
  unfold Student.Fits
  infer_instance

def Grade.Fits (g : Grade) : Prop :=
  g.name.length ≤ 100 ∧ g.code.length ≤ 50 ∧ g.sequence ≤ 32767

instance (g : Grade) : Decidable g.Fits := by
  unfold Grade.Fits
  infer_instance

def Section.Fits (x : Section) : Prop :=
  x.name.length ≤ 50 ∧ x.code.length ≤ 50 ∧ x.department.length ≤ 100

instance (x : Section) : Decidable x.Fits := by
  unfold Section.Fits
  infer_instance

def Registry.numberTaken (r : Registry) (x : Student) : Bool :=
  x.studentNumber ≠ none ∧ r.students.any fun y => y.studentNumber = x.studentNumber ∧ y.id ≠ x.id

def Registry.insertStudent (r : Registry) (x : Student) : Except Failure Registry :=
  if ¬ x.Fits then .error (.dataError "students_student")
  else if r.students.any fun y => y.nationalIdLookupHash = x.nationalIdLookupHash then
    .error (.integrityError "uniq_student_nid_per_school")
  else if r.numberTaken x then .error (.integrityError "uniq_student_number_per_school")
  else .ok { r with students := r.students ++ [x] }

def Registry.saveStudent (r : Registry) (x : Student) : Except Failure Registry :=
  if ¬ x.Fits then .error (.dataError "students_student")
  else if r.numberTaken x then .error (.integrityError "uniq_student_number_per_school")
  else .ok (r.putStudent x)

def Registry.insertEnrollment (r : Registry) (e : StudentEnrollment) : Except Failure Registry :=
  if e.status = .active ∧ (r.currentEnrollment e.student e.academicYear).isSome then
    .error (.integrityError "uniq_active_enrollment_per_year")
  else .ok (r.addEnrollment e)

def Office.activeYear (o : Office) : Option AcademicYear :=
  o.registry.academicYears.find? fun y => y.status = .active

def Office.year? (o : Office) (id : ℕ) : Option AcademicYear :=
  o.registry.academicYears.find? fun y => y.id = id

def Office.openSection? (o : Office) (id : ℕ) : Option Section :=
  (o.registry.section? id).filter fun x =>
    x.isActive ∧ ((o.registry.grade? x.grade).any fun g => g.isActive)

def Office.countActiveStudents (o : Office) : ℕ :=
  o.registry.students.countP fun x => x.status = .active

def Office.requireCapacity (o : Office) (adding : ℕ) : Except ApiError Unit :=
  match o.maxStudents with
  | none => .ok ()
  | some limit =>
    let current := o.countActiveStudents
    if current + adding ≤ limit then .ok ()
    else .error
      { code := "STUDENT_LIMIT_EXCEEDED"
        message := s!"تجاوز عدد الطلاب حد الباقة ({current + adding} من {limit}). يرجى ترقية الباقة."
        statusCode := 409
        details := [("limit", .number limit), ("current", .number current),
          ("requested", .number adding)] }

def activeAcademicYearRequired (message : String) : ApiError where
  code := "ACTIVE_ACADEMIC_YEAR_REQUIRED"
  message := message
  statusCode := 409

structure NewStudentData where
  nationalIdLookupHash : String
  nationalIdMasked : String
  studentNumber : Option String := none
  fullName : String
  guardianName : String := ""
  guardianMobile : String := ""
  deriving DecidableEq

/-- An active student who has never left. -/
def NewStudentData.student (data : NewStudentData) (id : ℕ) : Student where
  id := id
  nationalIdLookupHash := data.nationalIdLookupHash
  nationalIdMasked := data.nationalIdMasked
  studentNumber := data.studentNumber.filter fun number => number ≠ ""
  fullName := data.fullName
  mergedInto := none
  status := .active
  statusChangedAt := none
  exitDate := none
  exitReason := ""
  guardianName := data.guardianName
  guardianMobile := data.guardianMobile

/-- `Student.objects.create` and `StudentEnrollment.objects.create`. -/
def Office.enrollNew (o : Office) (data : NewStudentData) (academicYear : ℕ) (target : Section)
    (day : Date) : Except Failure Office := do
  let student := data.student o.nextId
  let r ← o.registry.insertStudent student
  let r ← r.insertEnrollment (newEnrollment (o.nextId + 1) day student.id academicYear target)
  pure { o.setRegistry r with nextId := o.nextId + 2 }

/-- `StudentListView.post` and `create_student`. -/
def createStudent (today : Date) (sectionId : ℕ) (data : NewStudentData) (o : Office) :
    Except Failure Office :=
  match o.activeYear with
  | none => .error (.api (activeAcademicYearRequired "يجب تفعيل عام دراسي قبل إضافة طالب."))
  | some year =>
    match o.openSection? sectionId with
    | none => .error (.doesNotExist "Section")
    | some target =>
      match o.requireCapacity 1 with
      | .error e => .error (.api e)
      | .ok () =>
        if o.registry.students.any fun x =>
            x.nationalIdLookupHash = data.nationalIdLookupHash then
          .error (.api studentAlreadyExists)
        else if data.studentNumber.getD "" ≠ "" ∧ o.registry.students.any fun x =>
            x.studentNumber = data.studentNumber then
          .error (.api studentNumberAlreadyExists)
        else o.enrollNew data year.id target today

def Office.run {α : Type} (o : Office) (p : Operation α) : Except Failure Office :=
  match p.run o.school with
  | (.ok _, school) => .ok { o with school := school }
  | (.error e, _) => .error e

def patchStudent (today : Date) (studentId : ℕ) (sectionId : Option ℕ) (data : StudentData)
    (o : Office) : Except Failure Office := do
  let next := { o with nextId := o.nextId + 1 }
  match sectionId with
  | none => next.run (updateStudent o.nextId today studentId 0 none data)
  | some id =>
    match o.activeYear with
    | none =>
      .error (.api (activeAcademicYearRequired "يجب تفعيل عام دراسي قبل تعديل فصل الطالب."))
    | some year =>
      match o.openSection? id with
      | none => .error (.doesNotExist "Section")
      | some target => next.run (updateStudent o.nextId today studentId year.id (some target) data)

def Office.setYearStatus (o : Office) (id : ℕ) (status : AcademicYearStatus) : Office :=
  o.setRegistry { o.registry with
    academicYears := o.registry.academicYears.map fun y =>
      if y.id = id then { y with status := status } else y }

def activateYear (yearId : ℕ) (o : Office) : Except Failure Office :=
  match o.year? yearId with
  | none => .error (.doesNotExist "AcademicYear")
  | some year =>
    let current := o.activeYear
    if current.any fun y => y.id = year.id then
      .error (.api
        { code := "ACADEMIC_YEAR_ALREADY_ACTIVE"
          message := "هذا العام الدراسي مفعل بالفعل."
          statusCode := 409 })
    else if year.status = .closed ∨ year.status = .archived then
      .error (.api
        { code := "ACADEMIC_YEAR_NOT_ACTIVATABLE"
          message := "لا يمكن إعادة تفعيل عام دراسي مغلق أو مؤرشف."
          statusCode := 409 })
    else
      let close (x : Semester) : Semester :=
        if x.status = .active then { x with status := .closed } else x
      let o := { o with semesters := o.semesters.map close }
      let o := current.elim o fun y => o.setYearStatus y.id .closed
      .ok (o.setYearStatus year.id .active)

end SchoolPlatform
