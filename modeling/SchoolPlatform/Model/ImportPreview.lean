import Mathlib.Data.String.Basic
import SchoolPlatform.Library.UnionFind
import SchoolPlatform.Model.StudentLifecycle

/-!
# The preview of a student import

A parsed file is a list of normalized rows. Rows of the file that share an identifier are marked
(`markDuplicatesInFile`), then every row is compared with the students and enrollments of the
school (`categorizeRows`). The encrypted identifier of a row is left out: nothing is ever decided
by it.
-/

namespace SchoolPlatform

inductive ImportRowStatus
  | new | existingUnchanged | existingUpdated | sectionChanged | gradeChanged
  | error | duplicateInFile | autoResolvedDuplicate
  deriving DecidableEq

inductive RowError
  | missingNationalId | invalidNationalId | missingName | missingGrade | missingSection
  | invalidDepartment | missingIdentity
  | duplicateInFile | identityConflict | possibleDuplicate | mergedIdentifier
  deriving DecidableEq

/-- The fields of a student that a row changes; the values of a contact are not recorded. -/
structure RowChanges where
  fullName : Option (String × String) := none
  guardianName : Option (String × String) := none
  guardianMobile : Bool := false
  studentNumber : Bool := false
  deriving DecidableEq

/-- The JSON data of a row: what the file says, and what has been derived from it so far. -/
structure RowData where
  fullName : String
  gradeCode : String
  gradeName : String
  gradeSequence : ℕ
  sectionCode : String
  sectionName : String
  department : String
  studentNumber : Option String
  guardianName : String
  guardianMobile : String
  nationalIdMasked : String
  autoResolvedDuplicate : Bool := false
  status : Option ImportRowStatus := none
  matchedStudentId : Option ℕ := none
  changes : Option RowChanges := none
  needsEnrollment : Bool := false
  previousSection : Option String := none
  possibleDuplicateMasks : Option (List String) := none
  deriving DecidableEq

structure NormalizedRow extends RowData where
  rowNumber : ℕ
  nationalIdHash : String
  errors : List RowError
  deriving DecidableEq

inductive RowKey
  | identity (hash : String)
  | number (number : String)
  deriving DecidableEq

def NormalizedRow.keys (row : NormalizedRow) : List RowKey :=
  (if row.nationalIdHash = "" then [] else [RowKey.identity row.nationalIdHash]) ++
    match row.studentNumber with
    | none => []
    | some number => if number = "" then [] else [RowKey.number number]

structure RowSignature where
  nationalIdHash : String
  fullName : String
  gradeCode : String
  sectionCode : String
  department : String
  studentNumber : String
  guardianName : String
  guardianMobile : String
  deriving DecidableEq

def NormalizedRow.signature (row : NormalizedRow) : RowSignature where
  nationalIdHash := row.nationalIdHash
  fullName := row.fullName
  gradeCode := row.gradeCode
  sectionCode := row.sectionCode
  department := row.department
  studentNumber := row.studentNumber.getD ""
  guardianName := row.guardianName
  guardianMobile := row.guardianMobile

def NormalizedRow.unmarked (row : NormalizedRow) : NormalizedRow :=
  { row with
    autoResolvedDuplicate := false
    errors := row.errors.filter fun code => code ≠ .duplicateInFile }

/-- The mark of the row at an index of a group of rows: of copies the first one stays, and rows
that do not agree are all flagged. -/
def markRow (group : List (ℕ × NormalizedRow)) (index : ℕ) (row : NormalizedRow) :
    NormalizedRow :=
  if group.length ≤ 1 then row
  else if (group.map fun x => x.2.signature).dedup.length = 1 then
    if group.head?.map Prod.fst = some index then row
    else { row with autoResolvedDuplicate := true }
  else { row with errors := row.errors ++ [.duplicateInFile] }

def markDuplicatesInFile (rows : List NormalizedRow) : List NormalizedRow :=
  let rows := rows.map NormalizedRow.unmarked
  let parents := UnionFind.connect (rows.map NormalizedRow.keys)
  let roots := UnionFind.roots parents (List.range rows.length)
  let entries := roots.zip ((List.range rows.length).zip rows)
  let groups := Dict.groupBy Prod.fst entries
  entries.map fun entry =>
    markRow (((Dict.get? groups entry.1).getD []).map Prod.snd) entry.2.1 entry.2.2

def Registry.student? (r : Registry) (id : ℕ) : Option Student := r.students.find? fun x => x.id = id

def Registry.grade? (r : Registry) (id : ℕ) : Option Grade := r.grades.find? fun g => g.id = id

def Registry.section? (r : Registry) (id : ℕ) : Option Section :=
  r.sections.find? fun x => x.id = id

/-- `students_by_hash.get(…)`; an empty hash is not looked up. -/
def Registry.studentByHash (r : Registry) (hash : String) : Option Student :=
  if hash = "" then none else r.students.find? fun x => x.nationalIdLookupHash = hash

/-- `students_by_number.get(…)`. -/
def Registry.studentByNumber (r : Registry) (number : Option String) : Option Student :=
  if number.getD "" = "" then none else r.students.find? fun x => x.studentNumber = number

def Registry.currentEnrollment (r : Registry) (student academicYear : ℕ) :
    Option StudentEnrollment :=
  r.enrollments.find? fun e =>
    e.student = student ∧ e.academicYear = academicYear ∧ e.status = .active

def Registry.activeEnrollments (r : Registry) (academicYear : ℕ) : List StudentEnrollment :=
  r.enrollments.filter fun e => e.academicYear = academicYear ∧ e.status = .active

/-- `str(section)`. -/
def Registry.sectionLabel (r : Registry) (sectionId : ℕ) : Option String :=
  (r.section? sectionId).map fun x =>
    let base := ((r.grade? x.grade).elim "" fun g => g.name) ++ " / " ++ x.name
    if x.department = "" then base else base ++ " / " ++ x.department

def Registry.gradeCode (r : Registry) (e : StudentEnrollment) : Option String :=
  (r.grade? e.grade).map fun g => g.code

/-- How texts are compared: the key of a name and the normal form of a mobile number. -/
structure TextRules where
  nameKey : String → String
  normalizedContact : String → String

/-- `_possible_duplicate`: the enrollment looks like that of the student of the row. -/
def possibleDuplicate (rules : TextRules) (r : Registry) (e : StudentEnrollment)
    (student : Student) (row : NormalizedRow) : Bool :=
  if r.gradeCode e ≠ some row.gradeCode then false
  else
    let rowGuardian := rules.nameKey row.guardianName
    let existingGuardian := rules.nameKey student.guardianName
    if rowGuardian ≠ "" ∧ existingGuardian ≠ "" then decide (rowGuardian = existingGuardian)
    else decide ((r.section? e.sectionId).map (fun x => x.code) = some row.sectionCode)

def possibleMatches (rules : TextRules) (r : Registry) (academicYear : ℕ) (row : NormalizedRow) :
    List Student :=
  (r.activeEnrollments academicYear).filterMap fun e =>
    (r.student? e.student).filter fun student =>
      student.status = .active ∧ rules.nameKey student.fullName = rules.nameKey row.fullName ∧
        possibleDuplicate rules r e student row

def rowChanges (rules : TextRules) (student : Student) (row : NormalizedRow) : RowChanges where
  fullName :=
    if student.fullName ≠ row.fullName then some (student.fullName, row.fullName) else none
  guardianName :=
    if row.guardianName ≠ "" ∧ student.guardianName ≠ row.guardianName then
      some (student.guardianName, row.guardianName)
    else none
  guardianMobile := decide (row.guardianMobile ≠ "" ∧
    rules.normalizedContact student.guardianMobile ≠ row.guardianMobile)
  studentNumber := decide (row.studentNumber.getD "" ≠ "" ∧
    student.studentNumber ≠ row.studentNumber)

def identityConflict (byIdentity byNumber : Option Student) (row : NormalizedRow) : Bool :=
  match byNumber with
  | none => false
  | some numbered =>
    (match byIdentity with
      | none => false
      | some identified => decide (identified.id ≠ numbered.id)) ||
    decide (row.nationalIdHash ≠ "" ∧ numbered.nationalIdLookupHash ≠ row.nationalIdHash)

def NormalizedRow.refused (row : NormalizedRow) (code : RowError) : NormalizedRow :=
  { row with status := some .error, errors := row.errors ++ [code] }

def placementStatus (r : Registry) (current : Option StudentEnrollment) (changes : RowChanges)
    (row : NormalizedRow) : ImportRowStatus :=
  match current with
  | none => .sectionChanged
  | some e =>
    if r.gradeCode e ≠ some row.gradeCode then .gradeChanged
    else if (r.section? e.sectionId).map (fun x => x.code) ≠ some row.sectionCode ∨
        row.department ≠ "" ∧
          (r.section? e.sectionId).map (fun x => x.department) ≠ some row.department then
      .sectionChanged
    else if changes ≠ {} then .existingUpdated
    else .existingUnchanged

def classifyMatched (rules : TextRules) (r : Registry) (academicYear : ℕ) (student : Student)
    (row : NormalizedRow) : NormalizedRow :=
  let changes := rowChanges rules student row
  let current := r.currentEnrollment student.id academicYear
  let status := placementStatus r current changes row
  let row := { row with
    matchedStudentId := some student.id, changes := some changes, status := some status }
  match current with
  | none => { row with needsEnrollment := true, previousSection := none }
  | some e =>
    if status = .gradeChanged ∨ status = .sectionChanged then
      { row with previousSection := r.sectionLabel e.sectionId }
    else row

/-- The row of a student the school does not know. -/
def classifyUnknown (rules : TextRules) (r : Registry) (academicYear : ℕ) (row : NormalizedRow) :
    NormalizedRow :=
  if row.nationalIdHash = "" then
    { row with
      status := some .error
      errors := if .missingNationalId ∈ row.errors then row.errors
        else row.errors ++ [.missingNationalId] }
  else
    let candidates := possibleMatches rules r academicYear row
    if candidates ≠ [] then
      let masks := (candidates.map fun (x : Student) => x.nationalIdMasked).dedup
      NormalizedRow.refused
        { row with possibleDuplicateMasks := some (masks.insertionSort (· ≤ ·)) } .possibleDuplicate
    else { row with status := some .new, matchedStudentId := none }

def recomputedErrors : List RowError := [.identityConflict, .possibleDuplicate, .mergedIdentifier]

def categorizeRow (rules : TextRules) (r : Registry) (academicYear : ℕ) (row : NormalizedRow) :
    NormalizedRow :=
  let row := { row with
    errors := row.errors.filter fun code => code ∉ recomputedErrors
    possibleDuplicateMasks := none }
  if row.autoResolvedDuplicate then
    { row with status := some .autoResolvedDuplicate, errors := [] }
  else if .duplicateInFile ∈ row.errors then { row with status := some .duplicateInFile }
  else if row.errors ≠ [] then { row with status := some .error }
  else
    let byIdentity := r.studentByHash row.nationalIdHash
    let byNumber := r.studentByNumber row.studentNumber
    if identityConflict byIdentity byNumber row then row.refused .identityConflict
    else
      match byIdentity.or byNumber with
      | none => classifyUnknown rules r academicYear row
      | some student =>
        if student.mergedInto ≠ none then row.refused .mergedIdentifier
        else classifyMatched rules r academicYear student row

structure ImportSummary where
  new : ℕ := 0
  unchanged : ℕ := 0
  updated : ℕ := 0
  sectionChanged : ℕ := 0
  gradeChanged : ℕ := 0
  errors : ℕ := 0
  duplicates : ℕ := 0
  autoResolvedDuplicates : ℕ := 0
  missingIds : List ℕ := []
  deriving DecidableEq

def countStatus (rows : List NormalizedRow) (status : ImportRowStatus) : ℕ :=
  rows.countP fun row => row.status = some status

def matchedStatuses : List ImportRowStatus :=
  [.existingUnchanged, .existingUpdated, .sectionChanged, .gradeChanged]

def matchedStudents (rows : List NormalizedRow) : List ℕ :=
  (rows.filter fun row => row.status.any fun status => status ∈ matchedStatuses).filterMap
    fun row => row.matchedStudentId

/-- The students of the year who are not in the file. They are shown and nothing else. -/
def missingStudents (r : Registry) (academicYear : ℕ) (rows : List NormalizedRow) : List ℕ :=
  ((r.activeEnrollments academicYear).map fun e => e.student).filter fun id =>
    id ∉ matchedStudents rows

def categorizeRows (rules : TextRules) (r : Registry) (academicYear : ℕ)
    (rows : List NormalizedRow) : List NormalizedRow × ImportSummary :=
  let rows := rows.map (categorizeRow rules r academicYear)
  (rows,
    { new := countStatus rows .new
      unchanged := countStatus rows .existingUnchanged
      updated := countStatus rows .existingUpdated
      sectionChanged := countStatus rows .sectionChanged
      gradeChanged := countStatus rows .gradeChanged
      errors := countStatus rows .error
      duplicates := countStatus rows .duplicateInFile
      autoResolvedDuplicates := countStatus rows .autoResolvedDuplicate
      missingIds := missingStudents r academicYear rows })

end SchoolPlatform
