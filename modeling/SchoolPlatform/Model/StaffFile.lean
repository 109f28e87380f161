import SchoolPlatform.Model.StaffImport
import SchoolPlatform.Library.Text

/-!
# Rows of a staff file

The cells of a row are brought into their normal forms: a mobile number into the form that all
accounts have, or the row is an error.
-/

namespace SchoolPlatform

/-- What the texts of cells are normalized with: NFKC without invisible characters and with single
spaces, and the test of `str.isdigit`. -/
structure StaffTextRules where
  normalizeText : String → String
  isDigit : Char → Bool

/-- `_ARABIC_DIGITS`. -/
def latinDigit (c : Char) : Char :=
  if 0x660 ≤ c.toNat ∧ c.toNat ≤ 0x669 then Char.ofNat (c.toNat - 0x660 + 48) else c

def StaffTextRules.normalizeDigits (rules : StaffTextRules) (value : String) : String :=
  String.ofList ((rules.normalizeText value).toList.map latinDigit)

def isMobileSeparator (c : Char) : Bool := Text.isSpace c || ['-', '(', ')', '.'].contains c

/-- What comes after `prefix`, when a text starts with it. -/
def afterStart (start : List Char) (t : Text) : Option Text :=
  if start.isPrefixOf t then some (t.drop start.length) else none

/-- The digits of a number after the code of the country, for the ways to write it. -/
def nationalPart (digits : Text) : Option Text :=
  match afterStart ['9', '6', '6'] digits with
  | some rest => some rest
  | none =>
    if (afterStart ['0', '5'] digits).isSome then some (digits.drop 1)
    else if (afterStart ['5'] digits).isSome then some digits
    else none

/-- The part of `NORMALIZED_MOBILE_RE` after the code of the country. -/
def isMobilePart (rest : Text) : Bool :=
  rest.head? = some '5' && rest.length = 9 && (rest.drop 1).all Text.isDecimal

/-- `normalize_mobile`, without the text of its error. -/
def StaffTextRules.normalizeMobile (rules : StaffTextRules) (raw : String) : Option String :=
  let value := ((Text.strip raw.toList).filter fun c => !isMobileSeparator c).map latinDigit
  let digits := ((afterStart ['+'] value).or (afterStart ['0', '0'] value)).getD value
  if digits = [] ∨ ¬ digits.all rules.isDigit then none
  else
    match nationalPart digits with
    | none => none
    | some rest =>
      if isMobilePart rest then some (String.ofList (['+', '9', '6', '6'] ++ rest)) else none

def maskMobile (value : String) : String :=
  if value.length < 6 then "****"
  else String.ofList (value.toList.take 5) ++ "****" ++
    String.ofList (value.toList.drop (value.length - 4))

inductive StaffField
  | fullName | mobile | employeeNumber | jobTitle
  deriving DecidableEq

abbrev StaffCells := List (Option String)

def StaffCells.cell (values : StaffCells) (mapping : StaffField → Option ℕ) (field : StaffField) :
    Option String :=
  (mapping field).bind fun index => (values[index]?).join

def StaffTextRules.mobileOf (rules : StaffTextRules) (cell : Option String) :
    String × List StaffRowError :=
  let digits := cell.elim "" rules.normalizeDigits
  if digits = "" then ("", [.missingMobile])
  else
    match rules.normalizeMobile digits with
    | none => ("", [.invalidMobile])
    | some mobile => (mobile, [])

/-- `build_normalized_row` of a staff file. -/
def buildStaffRow (rules : StaffTextRules) (mapping : StaffField → Option ℕ) (rowNumber : ℕ)
    (values : StaffCells) : StaffRow :=
  let cell := values.cell mapping
  let fullName := (cell .fullName).elim "" rules.normalizeText
  let mobile := rules.mobileOf (cell .mobile)
  let employeeNumber := (cell .employeeNumber).elim "" rules.normalizeDigits
  { rowNumber := rowNumber
    fullName := fullName
    mobile := mobile.1
    mobileMasked := if mobile.1 = "" then "" else maskMobile mobile.1
    employeeNumber := if employeeNumber = "" then none else some employeeNumber
    jobTitle := (cell .jobTitle).elim "" rules.normalizeText
    errors := (if fullName = "" then [.missingName] else []) ++ mobile.2 }

/-- The rows of a file, the numbers that occur twice marked. -/
def readStaffFile (rules : StaffTextRules) (mapping : StaffField → Option ℕ)
    (file : List (ℕ × StaffCells)) : List StaffRow :=
  markDuplicateMobiles (file.map fun line => buildStaffRow rules mapping line.1 line.2)

/-!
## Mobile numbers

Accounts, guardians and messages compare mobile numbers as texts, so every number is brought into
one form before it is stored or looked up. The digits of the Arabic-Indic script are translated;
what a digit is, is up to `str.isdigit` and the class `\d`, which know the digits of all scripts.
-/

/-- A `ValidationError`: the message and its code. -/
structure ValidationError where
  message : String
  code : String
  deriving DecidableEq

def invalidMobile : ValidationError where
  message := "رقم الجوال غير صحيح. أدخل رقم جوال سعودي مثل 05XXXXXXXX."
  code := "invalid_mobile"

/-- The characters of `str.isdigit` that are not decimal digits: superscripts, digits in circles and
the like, from one code to another. -/
def digitForms : List (ℕ × ℕ) :=
  [(0xb2, 0xb3), (0xb9, 0xb9), (0x1369, 0x1371), (0x19da, 0x19da), (0x2070, 0x2070),
    (0x2074, 0x2079), (0x2080, 0x2089), (0x2460, 0x2468), (0x2474, 0x247c), (0x2488, 0x2490),
    (0x24ea, 0x24ea), (0x24f5, 0x24fd), (0x24ff, 0x24ff), (0x2776, 0x277e), (0x2780, 0x2788),
    (0x278a, 0x2792), (0x10a40, 0x10a43), (0x10e60, 0x10e68), (0x11052, 0x1105a),
    (0x1f100, 0x1f10a)]

def isDigit (c : Char) : Bool :=
  Text.isDecimal c || digitForms.any fun r => r.1 ≤ c.toNat && c.toNat ≤ r.2

theorem char_of_range {P : Char → Prop} (low count : ℕ)
    (h : ∀ n ∈ List.range count, P (Char.ofNat (low + n))) {c : Char} (hlow : low ≤ c.toNat)
    (hhigh : c.toNat < low + count) : P c := by
  have hc : c = Char.ofNat (low + (c.toNat - low)) := by
    rw [Nat.add_sub_cancel' hlow, Char.ofNat_toNat]
  rw [hc]
  apply h
  rw [List.mem_range]
  omega

def withoutSeparators (raw : String) : Text :=
  (Text.strip raw.toList).filter fun c => !isMobileSeparator c

def normalizeMobile (raw : String) : Except ValidationError String :=
  let value := (withoutSeparators raw).map latinDigit
  let digits := ((afterStart ['+'] value).or (afterStart ['0', '0'] value)).getD value
  if digits = [] ∨ ¬ digits.all isDigit then .error invalidMobile
  else
    match nationalPart digits with
    | none => .error invalidMobile
    | some rest =>
      if isMobilePart rest then .ok (String.ofList (['+', '9', '6', '6'] ++ rest))
      else .error invalidMobile

/-- The text is a number in one of the forms a number is written in: its eight digits after the 5,
with the code of the country or a zero, and the sign or the zeros of an international call. -/
def Written (t digits : Text) : Prop :=
  ∃ start ∈ [[], ['+'], ['0', '0']], ∃ country ∈ [[], ['0'], ['9', '6', '6']],
    t = start ++ country ++ '5' :: digits ∧ digits.length = 8

def digitOf (c : Char) : Char :=
  match Text.decimalZeros.find? fun z => z ≤ c.toNat && c.toNat ≤ z + 9 with
  | some z => Char.ofNat (c.toNat - z + 48)
  | none => c

def Spells (raw : String) (number : Text) : Prop :=
  Written ((withoutSeparators raw).map digitOf) number

/-- The form all numbers are to have: `+9665` and eight Latin digits. -/
def IsCanonicalMobile (m : String) : Prop :=
  ∃ digits : Text, digits.length = 8 ∧ digits.all Char.isDigit ∧
    m = String.ofList (['+', '9', '6', '6', '5'] ++ digits)

end SchoolPlatform
