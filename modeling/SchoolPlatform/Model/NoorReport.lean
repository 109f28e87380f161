import SchoolPlatform.Library.Text
import SchoolPlatform.Model.ImportTasks

/-!
# The report of Noor

A report of Noor has a sheet for every page of a class, with the grade above the table. A sheet is
known by its header row and its heading; the rows of all such sheets become the rows of one table
under the headers of the first.
-/

namespace SchoolPlatform.Noor

/-- A value of a cell: nothing, a text, or something else, known by its `str` and by whether it is
true. -/
inductive Cell
  | empty
  | text (t : Text)
  | other (shown : Text) (truthy : Bool)
  deriving DecidableEq

/-- `str(value)`. -/
def Cell.str : Cell → Text
  | .empty => "None".toList
  | .text t => t
  | .other shown _ => shown

/-- `str(value or "")`. -/
def Cell.strOrEmpty : Cell → Text
  | .empty => []
  | .text t => t
  | .other shown truthy => if truthy then shown else []

/-- `value is None or not str(value).strip()`. -/
def Cell.isBlank (c : Cell) : Bool := c = .empty || Text.strip c.str = []

/-- `not str(value or "").strip()`. -/
def Cell.readsBlank (c : Cell) : Bool := Text.strip c.strOrEmpty = []

abbrev SheetRow := List Cell

/-- A sheet by its rows, as `iter_rows` gives them: the first row has number one. -/
structure Sheet where
  title : Text := []
  rows : List SheetRow := []
  deriving DecidableEq

/-- `activeRows` are the rows of the active sheet, up to the width that it declares. -/
structure Workbook where
  sheets : List Sheet := []
  activeRows : List SheetRow := []
  deriving DecidableEq

def maxHeaderScanRows : ℕ := 50

def importMaxRows : ℕ := 10000

/-- `str.split`, with the word that has been begun in reverse. -/
def splitWords : Text → Text → List Text
  | word, [] => if word = [] then [] else [word.reverse]
  | word, c :: t =>
    if Text.isSpace c then
      if word = [] then splitWords [] t else word.reverse :: splitWords [] t
    else splitWords (c :: word) t

/-- `" ".join(text.split())`. -/
def compactSpaces (t : Text) : Text := List.intercalate [' '] (splitWords [] t)

def unifyLetter (c : Char) : Char :=
  if ['أ', 'إ', 'آ'].contains c then 'ا' else if c = 'ة' then 'ه' else c

/-- The letters as labels are compared by, without the stroke that stretches a word. -/
def unifyLetters (t : Text) : Text := (t.map unifyLetter).filter fun c => c ≠ 'ـ'

def clean (header : Text) : Text := compactSpaces (unifyLetters (Text.strip header))

def isColon (c : Char) : Bool := c = ':' || c = '：'

/-- `_clean_label`, of the text of a cell. -/
def cleanLabel (t : Text) : Text :=
  compactSpaces (unifyLetters (Text.strip
    (((Text.strip t).dropWhile isColon).rdropWhile isColon)))

/-- The fields in the order of `TARGET_FIELDS`. -/
def fields : List ImportField :=
  [.nationalId, .fullName, .grade, .sectionField, .department, .studentNumber, .guardianName,
    .guardianMobile]

def aliases : ImportField → List String
  | .nationalId =>
    ["رقم الهوية", "السجل المدني", "هوية الطالب", "رقم الهويه", "رقم السجل المدني", "الهوية",
      "رقم الاقامة", "رقم الإقامة", "رقم رخصة الاقامة", "رقم رخصة الإقامة", "رقم جواز السفر",
      "رقم الجواز", "جواز السفر", "رقم الطالب"]
  | .fullName => ["اسم الطالب", "الاسم", "اسم الطالب الرباعي", "الطالب"]
  | .grade => ["الصف", "المرحلة والصف", "الصف الدراسي"]
  | .sectionField => ["الفصل", "الشعبة", "فصل الطالب"]
  | .department => ["القسم", "القسم الدراسي", "المسار", "المسار الدراسي"]
  | .studentNumber => ["رقم الطالب", "الرقم الأكاديمي", "رقم الملف"]
  | .guardianName => ["اسم ولي الأمر", "ولي الأمر", "اسم ولي الامر"]
  | .guardianMobile =>
    ["جوال ولي الأمر", "رقم جوال ولي الأمر", "جوال ولي الامر", "رقم الجوال"]

def aliasColumn (cleaned : List Text) (mapping : ColumnMapping) (name : String) : Option ℕ :=
  (List.range cleaned.length).find? fun i =>
    cleaned[i]? = some (clean name.toList) && !fields.any fun f => mapping f = some i

def mapField (cleaned : List Text) (mapping : ColumnMapping) (field : ImportField) :
    ColumnMapping :=
  match (aliases field).findSome? (aliasColumn cleaned mapping) with
  | some i => fun f => if f = field then some i else mapping f
  | none => mapping

def suggestMapping (headers : List Text) : ColumnMapping :=
  fields.foldl (mapField (headers.map clean)) fun _ => none

/-- The headers of a row, without the empty ones at its end. -/
def rowHeaders (values : SheetRow) : List Text :=
  (values.map fun c => if c = .empty then [] else Text.strip c.str).rdropWhile fun h => h = []

def headerCandidates (rows : List SheetRow) : List (ℕ × List Text) :=
  ((rows.take maxHeaderScanRows).zipIdx 1).filterMap fun p =>
    let headers := rowHeaders p.1
    if headers.any fun h => h ≠ [] then some (p.2, headers) else none

def requiredFields : List ImportField := [.fullName, .grade, .sectionField]

def identityFields : List ImportField := [.nationalId, .studentNumber]

/-- The scores that a candidate is ranked by, the first most important. -/
structure HeaderRank where
  complete : ℤ
  essential : ℤ
  required : ℤ
  allMatches : ℤ
  nonempty : ℤ
  negativeRow : ℤ
  deriving DecidableEq

def headerRank (candidate : ℕ × List Text) : HeaderRank :=
  let suggested := suggestMapping candidate.2
  let required := (requiredFields.filter fun f => (suggested f).isSome).length
  let identity := if identityFields.any fun f => (suggested f).isSome then 1 else 0
  { complete := if required = requiredFields.length ∧ identity = 1 then 1 else 0
    essential := required + identity
    required := required
    allMatches := (fields.filter fun f => (suggested f).isSome).length
    nonempty := (candidate.2.filter fun h => h ≠ []).length
    negativeRow := -candidate.1 }

/-- The order of tuples. -/
def lexBelow : List ℤ → List ℤ → Bool
  | a :: as, b :: bs => a < b || (a = b && lexBelow as bs)
  | _, _ => false

def HeaderRank.scores (r : HeaderRank) : List ℤ :=
  [r.complete, r.essential, r.required, r.allMatches, r.nonempty, r.negativeRow]

/-- `max` of a list that is not empty, by a key: the first of the greatest. -/
def maxBy {α : Type} (key : α → List ℤ) : α → List α → α
  | best, [] => best
  | best, x :: xs => maxBy key (if lexBelow (key best) (key x) then x else best) xs

def selectHeaderRow : List (ℕ × List Text) → ℕ × List Text
  | [] => (1, [])
  | candidate :: rest =>
    let best := maxBy (fun c => (headerRank c).scores) candidate rest
    let rank := headerRank best
    if rank.complete = 0 ∧ rank.essential = 0 ∧ rank.allMatches = 0 then
      maxBy (fun c => [(headerRank c).nonempty, (headerRank c).negativeRow]) candidate rest
    else best

/-- The first value beside a label, the nearest to its left first, then those to its right. -/
def valueBeside (expected : Text) (row : SheetRow) (labelIndex : ℕ) : Option Text :=
  ((List.range labelIndex).reverse ++
      (List.range row.length).drop (labelIndex + 1)).findSome? fun i =>
    let value := Text.strip ((row[i]?.map Cell.strOrEmpty).getD [])
    if value ≠ [] ∧ value ≠ [':'] ∧ cleanLabel value ≠ expected then some value else none

def metadataValue (rows : List SheetRow) (label : String) (beforeRow : ℕ) : Text :=
  if beforeRow ≤ 1 then []
  else
    let expected := cleanLabel label.toList
    ((rows.take (beforeRow - 1)).findSome? fun row =>
      ((List.range row.length).filter fun i =>
        (row[i]?.map fun c => cleanLabel c.strOrEmpty) = some expected).findSome?
          (valueBeside expected row)).getD []

def isStudentRow (values : SheetRow) (suggested : ColumnMapping) : Bool :=
  [ImportField.fullName, .nationalId, .studentNumber].any fun field =>
    match (suggested field).bind fun i => values[i]? with
    | some value => !value.isBlank
    | none => false

structure SheetLayout where
  sheet : Sheet
  headerRow : ℕ
  headers : List Text
  grade : Text
  section_ : Text
  department : Text
  detectedRows : ℕ
  deriving DecidableEq

def Sheet.below (sheet : Sheet) (row : ℕ) : List SheetRow := sheet.rows.drop row

def detectSheetLayout (sheet : Sheet) : Option SheetLayout :=
  let selected := selectHeaderRow (headerCandidates sheet.rows)
  let suggested := suggestMapping selected.2
  let grade := metadataValue sheet.rows "الصف" selected.1
  let section_ := metadataValue sheet.rows "الفصل" selected.1
  let department := metadataValue sheet.rows "القسم" selected.1
  if (suggested .fullName).isSome ∧ (suggested .nationalId).isSome ∧
      (suggested .sectionField).isSome ∧ grade ≠ [] then
    some
      { sheet := sheet
        headerRow := selected.1
        headers := selected.2
        grade := grade
        section_ := section_
        department := department
        detectedRows := ((sheet.below selected.1).filter fun values =>
          isStudentRow values suggested).length }
  else none

def Workbook.officialLayouts (w : Workbook) : List SheetLayout :=
  w.sheets.filterMap detectSheetLayout

inductive ImportFormat
  | tabular | noorOfficial
  deriving DecidableEq

structure ImportAnalysis where
  headerRow : ℕ
  headers : List Text
  importFormat : ImportFormat
  sourceSheetCount : ℕ
  detectedRows : ℕ
  deriving DecidableEq

def syntheticGradeHeader : Text := "الصف الدراسي".toList

def syntheticDepartmentHeader : Text := "القسم الدراسي".toList

def syntheticHeaders (suggested : ColumnMapping) : List Text :=
  (if (suggested .grade).isNone then [syntheticGradeHeader] else []) ++
    if (suggested .department).isNone then [syntheticDepartmentHeader] else []

def analyzeImport (w : Workbook) : ImportAnalysis :=
  match w.officialLayouts with
  | first :: rest =>
    { headerRow := first.headerRow
      headers := first.headers ++ syntheticHeaders (suggestMapping first.headers)
      importFormat := .noorOfficial
      sourceSheetCount := (first :: rest).length
      detectedRows := ((first :: rest).map fun layout => layout.detectedRows).foldl (· + ·) 0 }
  | [] =>
    let selected := selectHeaderRow (headerCandidates w.activeRows)
    { headerRow := selected.1
      headers := selected.2
      importFormat := .tabular
      sourceSheetCount := 1
      detectedRows := 0 }

def invalidImportFile (message : String) : ApiError :=
  { code := "INVALID_IMPORT_FILE", message := message }

def invalidFileMessage : String := "تعذر قراءة الملف. تأكد أنه ملف Excel سليم."

def importFileTooLarge : ApiError :=
  { code := "IMPORT_FILE_TOO_LARGE"
    message := "عدد الصفوف يتجاوز الحد المسموح (" ++ toString importMaxRows ++ ")." }

def headersSignature (headers : List Text) : List Text := headers.map cleanLabel

/-- `_trim_values`, and the cells that are missing then. -/
def trimmedTo (width : ℕ) (values : SheetRow) : SheetRow :=
  let trimmed := (values.take width).rdropWhile Cell.isBlank
  trimmed ++ List.replicate (width - trimmed.length) .empty

def fillColumn (column : Option ℕ) (test : Cell → Bool) (value : Text) (values : SheetRow) :
    SheetRow :=
  match column with
  | none => values
  | some i => values.modify i fun c => if test c then .text value else c

def SheetLayout.fullRow (layout : SheetLayout) (values : SheetRow) : SheetRow :=
  let suggested := suggestMapping layout.headers
  let base := trimmedTo layout.headers.length values
  let base := fillColumn (suggested .sectionField) (fun c => c.isBlank && layout.section_ ≠ [])
    layout.section_ base
  let base := fillColumn (suggested .grade) Cell.readsBlank layout.grade base
  let base := fillColumn (suggested .department) Cell.readsBlank layout.department base
  base ++ (if (suggested .grade).isNone then [.text layout.grade] else []) ++
    if (suggested .department).isNone then [.text layout.department] else []

structure ReadState where
  rows : List (ℕ × SheetRow) := []
  displayRow : ℕ
  deriving DecidableEq

def readRow (layout : SheetLayout) (state : ReadState) (values : SheetRow) :
    Except ApiError ReadState :=
  if isStudentRow values (suggestMapping layout.headers) then
    let state :=
      { rows := state.rows ++ [(state.displayRow, layout.fullRow values)]
        displayRow := state.displayRow + 1 : ReadState }
    if importMaxRows < state.rows.length then .error importFileTooLarge else .ok state
  else .ok state

def readLayout (expected : List Text) (state : ReadState) (layout : SheetLayout) :
    Except ApiError ReadState :=
  if headersSignature layout.headers ≠ expected then
    .error (invalidImportFile "اختلف ترتيب أعمدة تقرير نور بين أوراق الملف.")
  else (layout.sheet.below layout.headerRow).foldlM (readRow layout) state

def readOfficialNoorRows (w : Workbook) : Except ApiError (List (ℕ × SheetRow)) :=
  match w.officialLayouts with
  | [] => .error (invalidImportFile invalidFileMessage)
  | first :: rest =>
    ((first :: rest).foldlM (readLayout (headersSignature first.headers))
      { displayRow := first.headerRow + 1 }).map ReadState.rows

/-- `read_rows` of a table in one sheet. -/
def readTabularRows (w : Workbook) (startRow : ℕ) : Except ApiError (List (ℕ × SheetRow)) :=
  let start := max 2 startRow
  let rows := ((w.activeRows.drop (start - 1)).zipIdx start).filter fun p =>
    !p.1.all Cell.isBlank
  if importMaxRows < rows.length then .error importFileTooLarge
  else .ok (rows.map fun p => (p.2, p.1))

def readRows (w : Workbook) (startRow : ℕ) : ImportFormat → Except ApiError (List (ℕ × SheetRow))
  | .noorOfficial => readOfficialNoorRows w
  | .tabular => readTabularRows w startRow

end SchoolPlatform.Noor
