import SchoolPlatform.Model.ImportCommit

/-!
# The workers of an import

One worker reads the uploaded file, makes a normalized row of every row of it and stages the
preview; another one commits an approved job. Both end in a job that says what has happened, as
far as the database lets them.
-/

namespace SchoolPlatform

inductive ImportField
  | fullName | grade | sectionField | department | nationalId | studentNumber
  | guardianName | guardianMobile
  deriving DecidableEq

/-- How the texts of cells are brought into their normal forms. A student identifier that is not
valid has none, and the lookup hash of a valid one is a hexadecimal digest. -/
structure FieldRules where
  normalizeText : String → String
  normalizeDigits : String → String
  normalizeGradeLabel : String → String × String × ℕ
  normalizeSectionLabel : String → String × String
  normalizeGuardianMobile : String → String
  normalizeStudentIdentifier : String → Option String
  nationalIdLookupHash : String → String
  nationalIdLookupHash_length : ∀ identifier, (nationalIdLookupHash identifier).length = 64

def maskNationalId (normalized : String) : String :=
  if normalized.length < 4 then "****"
  else "******" ++ String.ofList (normalized.toList.drop (normalized.length - 4))

/-- A row of the file: the texts of its cells, those that are there. -/
abbrev RawRow := List (Option String)

abbrev ColumnMapping := ImportField → Option ℕ

def RawRow.cell (values : RawRow) (mapping : ColumnMapping) (field : ImportField) :
    Option String :=
  (mapping field).bind fun index => (values[index]?).join

def FieldRules.text (rules : FieldRules) (cell : Option String) : String :=
  cell.elim "" rules.normalizeText

def FieldRules.normalizeStudentNumber (rules : FieldRules) (cell : Option String) :
    Option String :=
  let value := cell.elim "" rules.normalizeDigits
  if value = "" then none else some value

/-- What a row says about the identity of its student: the hash and the masked form of the
identifier, and the errors. -/
def FieldRules.identity (rules : FieldRules) (nationalId studentNumber : Option String) :
    (String × String) × List RowError :=
  if nationalId.elim "" rules.normalizeDigits ≠ "" then
    match nationalId.bind rules.normalizeStudentIdentifier with
    | some identifier =>
      ((rules.nationalIdLookupHash identifier, maskNationalId identifier), [])
    | none => (("", ""), [.invalidNationalId])
  else (("", ""), if studentNumber = none then [.missingIdentity] else [])

def buildNormalizedRow (rules : FieldRules) (mapping : ColumnMapping) (rowNumber : ℕ)
    (values : RawRow) : NormalizedRow :=
  let cell := values.cell mapping
  let fullName := rules.text (cell .fullName)
  let gradeRaw := cell .grade
  let gradeMissing := rules.text gradeRaw = ""
  let grade := if gradeMissing then ("", "", 0) else gradeRaw.elim ("", "", 0) rules.normalizeGradeLabel
  let sectionRaw := cell .sectionField
  let sectionMissing := rules.text sectionRaw = ""
  let sectionLabel :=
    if sectionMissing then ("", "") else sectionRaw.elim ("", "") rules.normalizeSectionLabel
  let department := rules.text (cell .department)
  let studentNumber := rules.normalizeStudentNumber (cell .studentNumber)
  let identity := rules.identity (cell .nationalId) studentNumber
  { rowNumber := rowNumber
    fullName := fullName
    gradeCode := grade.1
    gradeName := grade.2.1
    gradeSequence := grade.2.2
    sectionCode := sectionLabel.1
    sectionName := sectionLabel.2
    department := department
    studentNumber := studentNumber
    guardianName := rules.text (cell .guardianName)
    guardianMobile := (cell .guardianMobile).elim "" rules.normalizeGuardianMobile
    nationalIdMasked := identity.1.2
    nationalIdHash := identity.1.1
    errors :=
      (if fullName = "" then [RowError.missingName] else []) ++
      (if gradeMissing then [.missingGrade] else []) ++
      (if sectionMissing then [.missingSection] else []) ++
      (if 100 < department.length then [.invalidDepartment] else []) ++ identity.2 }

def RowError.message : RowError → String
  | .missingNationalId => "رقم الطالب مفقود."
  | .invalidNationalId => "رقم الطالب غير صالح؛ تحقق من رقم الهوية أو الإقامة أو الجواز."
  | .missingName => "اسم الطالب مفقود."
  | .missingGrade => "الصف مفقود."
  | .missingSection => "الفصل مفقود."
  | .invalidDepartment => "اسم القسم يتجاوز 100 حرف."
  | .duplicateInFile => "رقم الطالب أو الرقم الأكاديمي مكرر في الملف ببيانات متعارضة."
  | .identityConflict =>
    "المعرّف والرقم الأكاديمي يشيران إلى طالبين مختلفين؛ صحّح الصف قبل الاعتماد."
  | .possibleDuplicate =>
    "يوجد سجل نشط بالاسم والصف نفسيهما لكن برقم طالب مختلف؛ " ++
      "راجع السجلات وأرقامها قبل إنشاء طالب جديد."
  | .mergedIdentifier =>
    "رقم الطالب يعود إلى سجل قديم دُمج بسجل آخر؛ استخدم الرقم المعتمد الحالي في الملف."
  | .missingIdentity => "رقم الطالب مفقود — لا يمكن المطابقة."

def errorMessageFor : List RowError → String
  | [] => ""
  | [code] => code.message
  | code :: codes => code.message ++ " " ++ errorMessageFor codes

def StudentImportRow.Fits (row : StudentImportRow) : Prop :=
  row.nationalIdHash.length ≤ 64 ∧ (errorMessageFor row.errorCodes).length ≤ 300

instance instDecidableStudentImportRowFits (row : StudentImportRow) : Decidable row.Fits := by
  unfold StudentImportRow.Fits
  infer_instance

/-- The code under which a worker that reads a file gives up. -/
def Failure.importCode : Failure → String
  | .api e => e.code
  | _ => "INVALID_IMPORT_FILE"

def previewRows (rules : TextRules) (o : Office) (job : StudentImportJob)
    (rows : List NormalizedRow) : List StudentImportRow :=
  (categorizeRows rules o.registry job.academicYear (markDuplicatesInFile rows)).1.map
    NormalizedRow.staged

/-- `process_import_job`, for what reading the file gives. A failure of the file is saved in the
job; once the database has refused a statement, the transaction cannot save it any more and is
rolled back. -/
def processImportJobTask (fields : FieldRules) (rules : TextRules) (jobId : ℕ)
    (mapping : ColumnMapping) (file : Except Failure (List (ℕ × RawRow))) (o : Office) : Office :=
  match o.job? jobId with
  | none => o
  | some job =>
    if job.status ≠ .processing then o
    else
      match file with
      | .error e => failImport jobId e.importCode o
      | .ok raw =>
        let rows := raw.map fun entry => buildNormalizedRow fields mapping entry.1 entry.2
        if ∀ row ∈ previewRows rules o job rows, row.Fits then processImportJob rules jobId rows o
        else o

def commitStudentImportJob (rules : TextRules) (today : Date) (jobId : ℕ) (o : Office) : Office :=
  match o.job? jobId with
  | none => o
  | some job =>
    if job.status = .completed then o
    else
      match commitImport rules today jobId true o with
      | (none, o') => o'
      -- a business error has been saved by the commit, if it is to be
      | (some (.api _), o') => o'
      | (some _, o') => failImport jobId "IMPORT_COMMIT_FAILED" o'

end SchoolPlatform
