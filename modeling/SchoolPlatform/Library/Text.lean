import Mathlib.Data.List.Basic
import Mathlib.Data.List.DropRight
import Mathlib.Tactic.Common

/-!
# Texts as lists of characters

The operations on texts that programs use to normalise what they are given: stripping white
space at both ends, cutting to a length, and the test for decimal digits.
-/

abbrev Text := List Char

namespace Text

/-- The characters Unicode counts as white space, with the four information separators. -/
def isSpace (c : Char) : Bool :=
  let n := c.toNat
  (9 ≤ n && n ≤ 13) || (28 ≤ n && n ≤ 32) || n = 0x85 || n = 0xA0 || n = 0x1680 ||
    (0x2000 ≤ n && n ≤ 0x200A) || n = 0x2028 || n = 0x2029 || n = 0x202F || n = 0x205F ||
    n = 0x3000

/-- The text without white space at its ends. -/
def strip (t : Text) : Text := (t.dropWhile isSpace).rdropWhile isSpace

/-- The text has no white space at its ends. -/
def Stripped (t : Text) : Prop := strip t = t

instance (t : Text) : Decidable (Stripped t) := inferInstanceAs (Decidable (strip t = t))

@[simp] theorem strip_nil : strip [] = [] := rfl

theorem dropWhile_strip (t : Text) : (strip t).dropWhile isSpace = strip t := by
  rw [List.dropWhile_eq_self_iff]
  intro hpos
  have hinit : strip t <+: t.dropWhile isSpace := List.rdropWhile_prefix _ _
  have hpos' : 0 < (t.dropWhile isSpace).length := lt_of_lt_of_le hpos hinit.length_le
  rw [hinit.getElem hpos]
  exact List.dropWhile_get_zero_not _ t hpos'

@[simp] theorem strip_strip (t : Text) : strip (strip t) = strip t := by
  have hdrop : strip (strip t) = ((strip t).dropWhile isSpace).rdropWhile isSpace := rfl
  rw [hdrop, dropWhile_strip]
  exact List.rdropWhile_idempotent _ _

theorem strip_eq_self {t : Text} (h : ∀ c ∈ t, isSpace c = false) : strip t = t := by
  have hleft : t.dropWhile isSpace = t := by
    rw [List.dropWhile_eq_self_iff]
    intro hpos
    rw [h _ (List.getElem_mem hpos)]
    exact Bool.false_ne_true
  unfold strip
  rw [hleft, List.rdropWhile_eq_self_iff]
  intro hne
  rw [h _ (List.getLast_mem hne)]
  exact Bool.false_ne_true

/-- The zeros of the scripts that have decimal digits (Unicode category `Nd`); the other nine
digits of a script follow its zero. -/
def decimalZeros : List ℕ :=
  [0x30, 0x660, 0x6f0, 0x7c0, 0x966, 0x9e6, 0xa66, 0xae6, 0xb66, 0xbe6, 0xc66, 0xce6, 0xd66,
    0xde6, 0xe50, 0xed0, 0xf20, 0x1040, 0x1090, 0x17e0, 0x1810, 0x1946, 0x19d0, 0x1a80, 0x1a90,
    0x1b50, 0x1bb0, 0x1c40, 0x1c50, 0xa620, 0xa8d0, 0xa900, 0xa9d0, 0xa9f0, 0xaa50, 0xabf0,
    0xff10, 0x104a0, 0x10d30, 0x11066, 0x110f0, 0x11136, 0x111d0, 0x112f0, 0x11450, 0x114d0,
    0x11650, 0x116c0, 0x11730, 0x118e0, 0x11950, 0x11c50, 0x11d50, 0x11da0, 0x11f50, 0x16a60,
    0x16ac0, 0x16b50, 0x1d7ce, 0x1d7d8, 0x1d7e2, 0x1d7ec, 0x1d7f6, 0x1e140, 0x1e2f0, 0x1e4f0,
    0x1e950, 0x1fbf0]

/-- `str.isdecimal` of one character, and the class `\d` of a regular expression. -/
def isDecimal (c : Char) : Bool := decimalZeros.any fun z => z ≤ c.toNat && c.toNat ≤ z + 9

end Text
