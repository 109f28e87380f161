import SchoolPlatform.Model.ImportTasks
import SchoolPlatform.Model.StaffFile

/-!
# Student identifiers

A student is known by the number of an identity card, a residence permit or a passport. What is
typed in and what the cell of a spreadsheet shows are brought into one form: the cell is cleaned of
what only serves to display it, and the rest is normalized like any other input.
-/

namespace SchoolPlatform

def isZeroWidth (c : Char) : Bool := (0x200b ≤ c.toNat && c.toNat ≤ 0x200f) || c.toNat = 0xfeff

/-- The dashes that are left out of the cell of an identifier. -/
def isDash (c : Char) : Bool := c = '-' || (0x2010 ≤ c.toNat && c.toNat ≤ 0x2015)

def isStripChar (c : Char) : Bool :=
  Text.isSpace c || ['-', '.', ',', '/'].contains c || isZeroWidth c

/-- What may stand in the text of a cell beside the identifier: spaces, dashes, zero-width
characters, and Arabic-Indic digits in place of Latin ones. -/
def isDisplaySign (c : Char) : Bool := Text.isSpace c || isDash c || isZeroWidth c

def isDecoration (c : Char) : Bool :=
  isDisplaySign c || (0x660 ≤ c.toNat && c.toNat ≤ 0x669)

/-- NFKC of a decoration: spaces of a fixed width become a space, and the dash that does not break a
hyphen. -/
def decorationForm (c : Char) : Char :=
  let n := c.toNat
  if n = 0xa0 ∨ (0x2000 ≤ n ∧ n ≤ 0x200a) ∨ n = 0x202f ∨ n = 0x205f ∨ n = 0x3000 then ' '
  else if n = 0x2011 then Char.ofNat 0x2010
  else c

/-- What Python's tables of Unicode do: `unicodedata.normalize("NFKC", …)` and `str.upper`, with
what is documented of them. A normal form of a concatenation only depends on the normal forms of its
parts; no decoration composes with what stands beside it. -/
structure UnicodeRules where
  nfkc : Text → Text
  upper : Text → Text
  nfkc_append : ∀ a b, nfkc (a ++ b) = nfkc (nfkc a ++ nfkc b)
  nfkc_ascii : ∀ t : Text, (∀ c ∈ t, c.toNat < 128) → nfkc t = t
  nfkc_decoration : ∀ (a : Text) (d : Char) (b : Text), isDecoration d = true →
    nfkc (a ++ d :: b) = nfkc a ++ decorationForm d :: nfkc b
  upper_ascii : ∀ t : Text, (∀ c ∈ t, c.toNat < 128) → upper t = t.map Char.toUpper

/-- `re.sub(r"\s+", " ", …)`; the flag says that the character before was a space. -/
def collapseSpaces : Bool → Text → Text
  | _, [] => []
  | after, c :: t =>
    if Text.isSpace c then
      if after then collapseSpaces true t else ' ' :: collapseSpaces true t
    else c :: collapseSpaces false t

namespace UnicodeRules

variable (u : UnicodeRules)

def normalizeText (value : Text) : Text :=
  Text.strip (collapseSpaces false ((u.nfkc value).filter fun c => !isZeroWidth c))

def normalizeDigits (value : Text) : Text := (u.normalizeText value).map latinDigit

def normalizeImportNationalId (value : Text) : Text :=
  (u.normalizeDigits value).filter fun c => !(Text.isSpace c || isDash c)

end UnicodeRules

def isStudentIdentifier (value : Text) : Bool :=
  6 ≤ value.length && value.length ≤ 20 && value.all fun c =>
    ('A' ≤ c && c ≤ 'Z') || ('0' ≤ c && c ≤ '9')

def invalidStudentIdentifier : ValidationError where
  message := "رقم الطالب غير صالح. أدخل رقم هوية أو إقامة أو جواز سفر من 6 إلى 20 حرفًا أو رقمًا."
  code := "invalid_student_identifier"

def UnicodeRules.normalizeStudentIdentifier (u : UnicodeRules) (raw : Text) :
    Except ValidationError Text :=
  let value := (Text.strip (u.nfkc raw)).filter fun c => !isStripChar c
  let value := u.upper (value.map latinDigit)
  if isStudentIdentifier value then .ok value else .error invalidStudentIdentifier

/-- A finite float by its shortest decimal digits: the value is `0.d₁d₂… × 10 ^ decpt`. -/
structure FloatCell where
  negative : Bool := false
  digits : Text
  decpt : ℤ
  digits_ne : digits ≠ []
  digits_latin : ∀ c ∈ digits, c.isDigit = true

def exponentDigits (n : ℕ) : Text :=
  let digits := (toString n).toList
  if digits.length < 2 then '0' :: digits else digits

/-- The number without its sign: in positional notation between `10 ^ (-4)` and `10 ^ 16`, with an
exponent elsewhere. -/
def FloatCell.magnitude (f : FloatCell) : Text :=
  if -4 < f.decpt ∧ f.decpt ≤ 16 then
    if f.decpt ≤ 0 then ['0', '.'] ++ List.replicate (-f.decpt).toNat '0' ++ f.digits
    else if f.digits.length ≤ f.decpt.toNat then
      f.digits ++ List.replicate (f.decpt.toNat - f.digits.length) '0' ++ ['.', '0']
    else f.digits.take f.decpt.toNat ++ '.' :: f.digits.drop f.decpt.toNat
  else
    let point := if f.digits.length = 1 then [] else '.' :: f.digits.drop 1
    let exponent := f.decpt - 1
    f.digits.take 1 ++ point ++ ['e', if exponent < 0 then '-' else '+'] ++
      exponentDigits exponent.natAbs

/-- `repr` of a float. -/
def FloatCell.repr (f : FloatCell) : Text :=
  if f.negative then '-' :: f.magnitude else f.magnitude

/-- The value of a cell as `openpyxl` gives it: a text, a number, or something else, of which only
`str` is known here. -/
inductive CellValue
  | text (t : Text)
  | int (n : ℤ)
  | float (f : FloatCell)
  | other (str : Text)

def CellValue.str : CellValue → Text
  | .text t => t
  | .int n => (toString n).toList
  | .float f => f.repr
  | .other str => str

/-- The rules of the cells of a student file: texts, digits and identifiers are normalized as above,
the other fields and the hash as given. -/
def UnicodeRules.fieldRules (u : UnicodeRules) (other : FieldRules) : FieldRules :=
  { other with
    normalizeText := fun value => String.ofList (u.normalizeText value.toList)
    normalizeDigits := fun value => String.ofList (u.normalizeDigits value.toList)
    normalizeStudentIdentifier := fun value =>
      ((u.normalizeStudentIdentifier (u.normalizeImportNationalId value.toList)).map
        String.ofList).toOption }

/-- `build_normalized_row` on the values of the cells of a row. -/
def UnicodeRules.buildRow (u : UnicodeRules) (other : FieldRules) (mapping : ColumnMapping)
    (rowNumber : ℕ) (values : List (Option CellValue)) : NormalizedRow :=
  buildNormalizedRow (u.fieldRules other) mapping rowNumber
    (values.map fun value => value.map fun cell => String.ofList cell.str)

end SchoolPlatform
