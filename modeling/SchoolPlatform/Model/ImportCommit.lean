import SchoolPlatform.Model.StudentOffice

/-!
# Import jobs

A job is uploaded for a year, processed into a preview, and committed. The commit compares the
staged rows with the school once more: rows that come out differently replace the preview, and
only a preview that still holds is applied.
-/

namespace SchoolPlatform

def Office.job? (o : Office) (id : ℕ) : Option StudentImportJob :=
  o.importJobs.find? fun j => j.id = id

/-- A processing or importing job takes the entry of `uniq_running_import_per_school`. -/
def StudentImportJob.Running (job : StudentImportJob) : Prop :=
  job.status = .processing ∨ job.status = .importing

instance (job : StudentImportJob) : Decidable job.Running := by
  unfold StudentImportJob.Running
  infer_instance

def Office.putJob (o : Office) (job : StudentImportJob) : Office :=
  { o with importJobs := Table.put (fun j => j.id) job o.importJobs }

def Office.saveJob (o : Office) (job : StudentImportJob) : Except Failure Office :=
  if job.Running ∧ o.importJobs.any fun j => j.Running ∧ j.id ≠ job.id then
    .error (.integrityError "uniq_running_import_per_school")
  else .ok (o.putJob job)

def Office.canPrepareMinistryYear (o : Office) (year : AcademicYear) : Bool :=
  year.status = .upcoming ∧ year.ministrySnapshot ≠ none ∧ o.nationalCalendar

/-- The year an upload asks for: a chosen one, or the active one. -/
def Office.requestedYear (o : Office) : Option ℕ → Except Failure AcademicYear
  | some id =>
    match o.year? id with
    | none => .error (.doesNotExist "AcademicYear")
    | some year => .ok year
  | none =>
    match o.activeYear with
    | none =>
      .error (.api (activeAcademicYearRequired "لم يتم العثور على عام دراسي نشط لهذه المدرسة."))
    | some year => .ok year

/-- `ImportUploadView.post`. -/
def uploadImport (yearId : Option ℕ) (o : Office) : Except Failure Office := do
  let year ← o.requestedYear yearId
  if year.status ≠ .active ∧ ¬ o.canPrepareMinistryYear year then
    .error (.api
      { code := "IMPORT_ACADEMIC_YEAR_NOT_AVAILABLE"
        message := "اختر العام النشط أو العام الرسمي القادم المجهز للمدرسة."
        statusCode := 409 })
  else
    pure { o with
      importJobs := o.importJobs ++ [{ id := o.nextId, academicYear := year.id }]
      nextId := o.nextId + 1 }

def importAlreadyRunning : ApiError where
  code := "IMPORT_ALREADY_RUNNING"
  message := "الاستيراد قيد التنفيذ حالياً."
  statusCode := 409

/-- `ImportProcessView.post`: a job starts to be processed. -/
def startProcessing (jobId : ℕ) (o : Office) : Except Failure Office :=
  match o.job? jobId with
  | none => .error (.doesNotExist "StudentImportJob")
  | some job =>
    if job.status ∉ [ImportJobStatus.uploaded, .readyForReview, .failed] then
      .error (.api importAlreadyRunning)
    else
      match o.saveJob { job with status := .processing, errorCode := "" } with
      | .ok o => .ok o
      | .error e =>
        if o.importJobs.any fun j => j.status = .processing ∧ j.id ≠ job.id then
          .error (.api { importAlreadyRunning with
            message := "يوجد استيراد آخر قيد التنفيذ لهذه المدرسة." })
        else .error e

def NormalizedRow.staged (row : NormalizedRow) : StudentImportRow where
  rowNumber := row.rowNumber
  nationalIdHash := row.nationalIdHash
  data := row.toRowData
  status := row.status.getD .error
  errorCodes := row.errors

/-- The body of `process_import_job`, for the parsed rows of the file. -/
def processImportJob (rules : TextRules) (jobId : ℕ) (rows : List NormalizedRow) (o : Office) :
    Office :=
  match o.job? jobId with
  | none => o
  | some job =>
    if job.status ≠ .processing then o
    else
      let (rows, summary) :=
        categorizeRows rules o.registry job.academicYear (markDuplicatesInFile rows)
      o.putJob { job with
        rows := rows.map NormalizedRow.staged
        totalRows := rows.length
        validRows := rows.length - summary.errors - summary.duplicates -
          summary.autoResolvedDuplicates
        invalidRows := summary.errors
        duplicateRows := summary.duplicates
        summary := summary
        status := .readyForReview }

def StudentImportRow.normalized (row : StudentImportRow) : NormalizedRow where
  toRowData := row.data
  rowNumber := row.rowNumber
  nationalIdHash := row.nationalIdHash
  errors := row.errorCodes

def applyStatuses : List ImportRowStatus := [.new, .existingUpdated, .sectionChanged, .gradeChanged]

def rowsToApply (rows : List NormalizedRow) : List NormalizedRow :=
  rows.filter fun row => row.status.any fun status => status ∈ applyStatuses

/-- What the preview has announced and the commit compares. -/
structure Announcement where
  status : Option ImportRowStatus
  matchedStudentId : Option ℕ
  changes : Option RowChanges
  previousSection : Option String
  deriving DecidableEq

def NormalizedRow.announcement (row : NormalizedRow) : Announcement where
  status := row.status
  matchedStudentId := row.matchedStudentId
  changes := row.changes
  previousSection := row.previousSection

def StudentImportRow.announcement (row : StudentImportRow) : Announcement where
  status := some row.status
  matchedStudentId := row.data.matchedStudentId
  changes := row.data.changes
  previousSection := row.data.previousSection

def freshByNumber (rows : List NormalizedRow) : Dict ℕ NormalizedRow :=
  Dict.ofList (rows.map fun row => (row.rowNumber, row))

def storedByNumber (rows : List StudentImportRow) : Dict ℕ StudentImportRow :=
  Dict.ofList (rows.map fun row => (row.rowNumber, row))

/-- A row comes out differently from what has been announced. -/
def isStale (staged : List StudentImportRow) (rows : List NormalizedRow) : Bool :=
  (storedByNumber staged).any fun entry =>
    decide ((Dict.get? (freshByNumber rows) entry.1).map NormalizedRow.announcement ≠
      some entry.2.announcement)

def StudentImportRow.refreshed (rows : List NormalizedRow) (row : StudentImportRow) :
    StudentImportRow :=
  match Dict.get? (freshByNumber rows) row.rowNumber with
  | none => row
  | some fresh => { row with status := fresh.status.getD row.status, data := fresh.toRowData }

def Registry.gradeByCode (r : Registry) (code : String) : Option Grade :=
  r.grades.find? fun g => g.code = code

def Registry.sectionByKey (r : Registry) (grade : ℕ) (code department : String) : Option Section :=
  r.sections.find? fun x => x.grade = grade ∧ x.code = code ∧ x.department = department

def getOrCreateGrade (row : NormalizedRow) (o : Office) : Except Failure (Grade × Office) :=
  match o.registry.gradeByCode row.gradeCode with
  | some grade => .ok (grade, o)
  | none =>
    let grade : Grade := ⟨o.nextId, row.gradeName, row.gradeCode, row.gradeSequence, true⟩
    if ¬ grade.Fits then .error (.dataError "students_grade")
    else .ok (grade, { o.setRegistry { o.registry with grades := o.registry.grades ++ [grade] } with
      nextId := o.nextId + 1 })

def getOrCreateSection (row : NormalizedRow) (grade : ℕ) (o : Office) :
    Except Failure (Section × Office) :=
  match o.registry.sectionByKey grade row.sectionCode row.department with
  | some section_ => .ok (section_, o)
  | none =>
    let section_ : Section :=
      ⟨o.nextId, grade, row.sectionName, row.sectionCode, row.department, true⟩
    if ¬ section_.Fits then .error (.dataError "students_section")
    else .ok (section_,
      { o.setRegistry { o.registry with sections := o.registry.sections ++ [section_] } with
        nextId := o.nextId + 1 })

/-- The grade and the section of one row. Those of an earlier row are looked up again here, which
finds the same ones. -/
def ensurePlacement (row : NormalizedRow) (o : Office) : Except Failure Office :=
  if row.status = some .existingUpdated then .ok o
  else do
    let (grade, o) ← getOrCreateGrade row o
    if ¬ grade.isActive then
      .error (.api
        { code := "IMPORT_INACTIVE_GRADE"
          message := "يشير ملف الاستيراد إلى صف غير فعال. " ++
            "صحح رمز الصف أو فعّله بعد مراجعة قيود الطلاب."
          statusCode := 409 })
    else do
      let (section_, o) ← getOrCreateSection row grade.id o
      if ¬ section_.isActive then
        .error (.api
          { code := "IMPORT_INACTIVE_SECTION"
            message := "يشير ملف الاستيراد إلى فصل غير فعال. " ++
              "صحح رمز الفصل أو فعّله بعد مراجعة قيود الطلاب."
            statusCode := 409 })
      else .ok o

/-- `sections[(…)]`: the section of a row once all of them are there. -/
def Registry.placement? (r : Registry) (row : NormalizedRow) : Option Section :=
  (r.gradeByCode row.gradeCode).bind fun grade =>
    r.sectionByKey grade.id row.sectionCode row.department

def NormalizedRow.applied (row : NormalizedRow) (changes : RowChanges) (student : Student) :
    Student :=
  { student with
    fullName := if changes.fullName.isSome then row.fullName else student.fullName
    guardianName := if changes.guardianName.isSome then row.guardianName else student.guardianName
    guardianMobile := if changes.guardianMobile then row.guardianMobile else student.guardianMobile
    studentNumber := if changes.studentNumber then row.studentNumber else student.studentNumber }

def NormalizedRow.newStudent (row : NormalizedRow) : NewStudentData where
  nationalIdLookupHash := row.nationalIdHash
  nationalIdMasked := row.nationalIdMasked
  studentNumber := row.studentNumber
  fullName := row.fullName
  guardianName := row.guardianName
  guardianMobile := row.guardianMobile

def applyChanges (row : NormalizedRow) (student : Student) (o : Office) : Except Failure Office :=
  let changes := row.changes.getD {}
  if changes = {} then .ok o
  else do
    let r ← o.registry.saveStudent (row.applied changes student)
    pure (o.setRegistry r)

/-- The enrollment that the student had when the commit began is ended, and one in the section of
the row begins. -/
def applyPlacement (academicYear : ℕ) (day : Date) (existing : Option StudentEnrollment)
    (student : ℕ) (target : Section) (o : Office) : Except Failure Office := do
  let r := existing.elim o.registry fun old =>
    o.registry.putEnrollment { old with status := .transferred, endedAt := some day }
  let r ← r.insertEnrollment (newEnrollment o.nextId day student academicYear target)
  pure { o.setRegistry r with nextId := o.nextId + 1 }

/-- One row of the commit. `existing` are the active enrollments of the year when it began. -/
def applyRow (academicYear : ℕ) (day : Date) (existing : ℕ → Option StudentEnrollment)
    (row : NormalizedRow) (o : Office) : Except Failure Office :=
  if row.status = some .new then
    match o.registry.placement? row with
    | none => .error (.doesNotExist "Section")
    | some target => o.enrollNew row.newStudent academicYear target day
  else
    match row.matchedStudentId.bind o.registry.student? with
    | none => .error (.doesNotExist "Student")
    | some student => do
      let o ← applyChanges row student o
      if row.status = some .sectionChanged ∨ row.status = some .gradeChanged then
        match o.registry.placement? row with
        | none => .error (.doesNotExist "Section")
        | some target =>
          applyPlacement academicYear day (existing student.id) student.id target o
      else pure o

def Office.importDay (o : Office) (today : Date) (year : AcademicYear) : Date :=
  if o.canPrepareMinistryYear year then max today year.startDate else today

def applyRows (today : Date) (year : AcademicYear) (rows : List NormalizedRow) (o : Office) :
    Except Failure Office := do
  let day := o.importDay today year
  let o ← rows.foldlM (fun o row => ensurePlacement row o) o
  let existing := fun id => o.registry.currentEnrollment id year.id
  rows.foldlM (fun o row => applyRow year.id day existing row o) o

def importPreviewStale : ApiError where
  code := "IMPORT_PREVIEW_STALE"
  message := "تغيرت بيانات الطلاب منذ إنشاء المعاينة. راجع المعاينة المحدثة ثم أعد الاعتماد."
  statusCode := 409

def importRowsRequireReview : ApiError where
  code := "IMPORT_ROWS_REQUIRE_REVIEW"
  message := "عالج جميع الصفوف ذات الأخطاء أو التكرارات قبل اعتماد الاستيراد."
  statusCode := 409

def commitCounts (rows : List NormalizedRow) : CommitCounts where
  created := countStatus rows .new
  updated := (rows.filter fun row => row.status ≠ some .new ∧ row.changes.getD {} ≠ {}).length
  enrollmentChanges := countStatus rows .sectionChanged + countStatus rows .gradeChanged

def commitGate (job : StudentImportJob) (allowImporting : Bool) : Except ApiError Unit :=
  if job.status = .completed then
    .error
      { code := "IMPORT_ALREADY_COMMITTED"
        message := "تم اعتماد هذا الاستيراد مسبقاً."
        statusCode := 409 }
  else if job.status = .processing ∨ job.status = .importing ∧ ¬ allowImporting then
    .error importAlreadyRunning
  else if job.status ≠ .readyForReview ∧ ¬ (job.status = .importing ∧ allowImporting) then
    .error
      { code := "IMPORT_NOT_READY"
        message := "الاستيراد غير جاهز للاعتماد."
        statusCode := 409 }
  else .ok ()

/-- `ImportCommitView.post`: the manager approves a preview, and a worker is to commit it. -/
def approveImport (jobId : ℕ) (o : Office) : Except Failure Office :=
  match o.job? jobId with
  | none => .error (.doesNotExist "StudentImportJob")
  | some job =>
    if job.status = .importing then .ok o
    else
      match commitGate job false with
      | .error e => .error (.api e)
      | .ok () =>
        if job.invalidRows ≠ 0 ∨ job.duplicateRows ≠ 0 then .error (.api importRowsRequireReview)
        else o.saveJob { job with status := .importing, errorCode := "" }

/-- `ImportCancelView.post`. -/
def cancelImport (jobId : ℕ) (o : Office) : Except Failure Office :=
  match o.job? jobId with
  | none => .error (.doesNotExist "StudentImportJob")
  | some job =>
    if job.status = .completed ∨ job.status = .importing then
      .error (.api
        { code := "IMPORT_ALREADY_COMMITTED"
          message := "لا يمكن إلغاء استيراد معتمد."
          statusCode := 409 })
    else .ok (o.putJob { job with status := .cancelled, rows := [] })

/-- `_fail` and `_fail_student_commit`: a worker gives a job up. -/
def failImport (jobId : ℕ) (errorCode : String) (o : Office) : Office :=
  match o.job? jobId with
  | none => o
  | some job =>
    if job.status = .completed then o
    else o.putJob { job with status := .failed, errorCode := errorCode }

def Office.checkCapacity (o : Office) (rows : List NormalizedRow) : Except ApiError Unit :=
  let new := countStatus rows .new
  if new = 0 then .ok () else o.requireCapacity new

def completeJob (today : Date) (year : AcademicYear) (job : StudentImportJob)
    (result : List NormalizedRow × ImportSummary) (o : Office) : Except Failure Office := do
  let rows := rowsToApply result.1
  let o ← applyRows today year rows o
  pure (o.putJob { job with
    status := .completed
    errorCode := ""
    rows := []
    summary := result.2
    counts := commitCounts rows })

/-- The commit of a preview that has been compared: an error that comes back beside an office is
raised after the transaction has committed. -/
def commitCompared (today : Date) (year : AcademicYear) (job : StudentImportJob)
    (result : List NormalizedRow × ImportSummary) (o : Office) :
    Except Failure (Office × Option ApiError) :=
  if isStale job.rows result.1 then do
    let o ← o.saveJob { job with
      rows := job.rows.map (StudentImportRow.refreshed result.1)
      status := .readyForReview
      errorCode := importPreviewStale.code
      summary := result.2 }
    pure (o, some importPreviewStale)
  else if result.2.errors ≠ 0 ∨ result.2.duplicates ≠ 0 then do
    let o ← o.saveJob
      { job with status := .readyForReview, errorCode := importRowsRequireReview.code }
    pure (o, some importRowsRequireReview)
  else do
    let o ← o.saveJob { job with status := .importing, errorCode := "" }
    match o.checkCapacity (rowsToApply result.1) with
    | .error e => do
      let o ← o.saveJob { job with status := .readyForReview, errorCode := e.code }
      pure (o, some e)
    | .ok () => do
      let o ← completeJob today year job result o
      pure (o, none)

def commitLocked (rules : TextRules) (today : Date) (jobId : ℕ) (allowImporting : Bool)
    (o : Office) : Except Failure (Office × Option ApiError) :=
  match o.job? jobId with
  | none => .error (.doesNotExist "StudentImportJob")
  | some job =>
    match commitGate job allowImporting with
    | .error e => .error (.api e)
    | .ok () =>
      match o.year? job.academicYear with
      | none => .error (.doesNotExist "AcademicYear")
      | some year =>
        if year.status ≠ .active ∧ ¬ o.canPrepareMinistryYear year then do
          let e := activeAcademicYearRequired
            "تغير العام الدراسي النشط منذ رفع الملف. أعد الاستيراد من جديد."
          let o ← o.saveJob { job with status := .failed, errorCode := e.code }
          pure (o, some e)
        else
          commitCompared today year job
            (categorizeRows rules o.registry year.id (job.rows.map StudentImportRow.normalized)) o

/-- `commit_import`: what it raises, if anything, and the office it leaves. -/
def commitImport (rules : TextRules) (today : Date) (jobId : ℕ) (allowImporting : Bool)
    (o : Office) : Option Failure × Office :=
  match commitLocked rules today jobId allowImporting o with
  | .error e => (some e, o)
  | .ok (o', some e) => (some (.api e), o')
  | .ok (o', none) => (none, o')

end SchoolPlatform
