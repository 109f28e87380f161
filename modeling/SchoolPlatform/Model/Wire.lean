import SchoolPlatform.Model.Records
import SchoolPlatform.Library.Text

/-!
# Events on the wire

A device event travels as a JSON object: from the adapter into the queue of the bridge, and from
there to the server, whose serializer admits it or rejects the request. Reading an integer and
reading a date and time out of a field belong to the framework and are a parameter
(`FieldParsers`), with what the program relies on.
-/

namespace SchoolPlatform

/-- A JSON value as the value of a field. A number that is not an integer, a list and an object
are given by the text `str` makes of them. -/
inductive JsonValue
  | null
  | bool (b : Bool)
  | int (n : ℤ)
  | float (str : Text)
  | text (t : Text)
  | composite (str : Text)
  deriving DecidableEq

/-- The decimal text of an integer. -/
def intText : ℤ → Text
  | .ofNat n => Nat.toDigits 10 n
  | .negSucc n => '-' :: Nat.toDigits 10 (n + 1)

theorem colon_not_mem_intText (n : ℤ) : ':' ∉ intText n := by
  intro h
  cases n with
  | ofNat n =>
    have hdigit := Nat.isDigit_of_mem_toDigits (by decide) (by decide) h
    exact absurd hdigit (by decide)
  | negSucc n =>
    rcases List.mem_cons.mp h with hminus | hmem
    · exact absurd hminus (by decide)
    · have hdigit := Nat.isDigit_of_mem_toDigits (by decide) (by decide) hmem
      exact absurd hdigit (by decide)

theorem intText_injective : Function.Injective intText := by
  have hdigits : ∀ a b : ℕ, Nat.toDigits 10 a = Nat.toDigits 10 b → a = b := by
    intro a b h
    have ha := @Nat.ofDigitChars_ten_toDigits a
    rw [h, Nat.ofDigitChars_ten_toDigits] at ha
    exact ha.symm
  have hminus : ∀ a : ℕ, '-' ∉ Nat.toDigits 10 a := by
    intro a h
    exact absurd (Nat.isDigit_of_mem_toDigits (by decide) (by decide) h) (by decide)
  intro m n h
  cases m with
  | ofNat a =>
    cases n with
    | ofNat b => exact congrArg Int.ofNat (hdigits a b h)
    | negSucc b =>
      have hsign : Nat.toDigits 10 a = '-' :: Nat.toDigits 10 (b + 1) := h
      exact absurd (hsign ▸ List.mem_cons_self) (hminus a)
  | negSucc a =>
    cases n with
    | ofNat b =>
      have hsign : '-' :: Nat.toDigits 10 (a + 1) = Nat.toDigits 10 b := h
      exact absurd (hsign ▸ List.mem_cons_self) (hminus b)
    | negSucc b =>
      have hab := hdigits _ _ (List.cons.inj h).2
      congr 1
      omega

def JsonValue.str : JsonValue → Text
  | .null => "None".toList
  | .bool true => "True".toList
  | .bool false => "False".toList
  | .int n => intText n
  | .float s => s
  | .text t => t
  | .composite s => s

/-- The value counts as true in a condition. -/
def JsonValue.truthy : JsonValue → Bool
  | .null => false
  | .bool b => b
  | .int n => n ≠ 0
  | .float s => s ≠ "0.0".toList ∧ s ≠ "-0.0".toList
  | .text t => t ≠ []
  | .composite s => s ≠ "[]".toList ∧ s ≠ "\x7b\x7d".toList

/-- A device event as a JSON object; a field that is missing is `none`. -/
structure WireEvent where
  deviceId : Option JsonValue := none
  externalEventId : Option JsonValue := none
  externalUserId : Option JsonValue := none
  occurredAt : Option JsonValue := none
  verificationMethod : Option JsonValue := none
  eventType : Option JsonValue := none
  deriving DecidableEq

/-- `serializers.CharField`: the text without white space at its ends. -/
def charField (maxLength : ℕ) (allowBlank : Bool) (v : JsonValue) : Option Text :=
  if Text.strip v.str = [] then (if allowBlank then some [] else none)
  else
    match v with
    | .null | .bool _ | .composite _ => none
    | _ =>
      let t := Text.strip v.str
      if t.length ≤ maxLength ∧ Char.ofNat 0 ∉ t then some t else none

def requiredField {α : Type} (read : JsonValue → Option α) (v : Option JsonValue) : Option α :=
  v.bind read

def defaultField {α : Type} (default : α) (read : JsonValue → Option α) :
    Option JsonValue → Option α
  | none => some default
  | some v => read v

inductive VerificationMethod
  | fingerprint | face | card | pin | other | unknown
  deriving DecidableEq

def VerificationMethod.value : VerificationMethod → String
  | .fingerprint => "FINGERPRINT"
  | .face => "FACE"
  | .card => "CARD"
  | .pin => "PIN"
  | .other => "OTHER"
  | .unknown => "UNKNOWN"

def VerificationMethod.values : List VerificationMethod :=
  [.fingerprint, .face, .card, .pin, .other, .unknown]

/-- `serializers.ChoiceField` over the verification methods. -/
def verificationMethodField (v : JsonValue) : Option VerificationMethod :=
  if v = .null then none
  else VerificationMethod.values.find? fun m => m.value.toList = v.str

/-- How the framework reads an integer and a date and time from a field. An integer it accepts
depends on the text of the value alone, and that text has no colon. -/
structure FieldParsers where
  integer : JsonValue → Option ℤ
  dateTime : Text → Option Instant
  integer_int : ∀ n : ℤ, integer (.int n) = some n
  integer_str : ∀ (v w : JsonValue) (m n : ℤ),
    integer v = some m → integer w = some n → v.str = w.str → m = n
  integer_colon : ∀ (v : JsonValue) (n : ℤ), integer v = some n → ':' ∉ v.str

/-- `serializers.DateTimeField`: only a text can be one. -/
def FieldParsers.dateTimeField (parsers : FieldParsers) : JsonValue → Option Instant
  | .text t => parsers.dateTime t
  | _ => none

structure EventData where
  deviceId : ℤ
  externalEventId : Text
  externalUserId : Text
  occurredAt : Instant
  verificationMethod : VerificationMethod
  eventType : Text
  deriving DecidableEq

def checkIn : Text := "CHECK_IN".toList

/-- `BridgeEventSerializer`; `none` when a field does not validate. -/
def bridgeEventSerializer (parsers : FieldParsers) (event : WireEvent) : Option EventData := do
  let deviceId ← requiredField parsers.integer event.deviceId
  let externalEventId ← defaultField [] (charField 100 true) event.externalEventId
  let externalUserId ← requiredField (charField 64 false) event.externalUserId
  let occurredAt ← requiredField parsers.dateTimeField event.occurredAt
  let method ← defaultField .unknown verificationMethodField event.verificationMethod
  let eventType ← defaultField checkIn (charField 20 false) event.eventType
  pure
    { deviceId := deviceId
      externalEventId := externalEventId
      externalUserId := externalUserId
      occurredAt := occurredAt
      verificationMethod := method
      eventType := eventType }

/-- `BridgeBatchSerializer`: at most 1000 events, each of them valid. -/
def bridgeBatchSerializer (parsers : FieldParsers) (events : List WireEvent) :
    Option (List EventData) :=
  if events.length ≤ 1000 then events.mapM (bridgeEventSerializer parsers) else none

end SchoolPlatform
