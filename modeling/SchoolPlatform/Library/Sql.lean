import Mathlib.Order.Defs.LinearOrder
import Mathlib.Tactic.Common

/-!
# Three-valued conditions

A comparison with a missing value is neither true nor false. A condition selects a row, or a branch
of a `CASE`, when it is true; conjunction and disjunction are those of Kleene, under which being true
is read as usual.
-/

namespace Sql

variable {α : Type}

/-- A condition; `none` is unknown. -/
abbrev Condition := Option Bool

def holds (c : Condition) : Bool := c == some true

def and : Condition → Condition → Condition
  | some false, _ => some false
  | _, some false => some false
  | some true, some true => some true
  | _, _ => none

def or : Condition → Condition → Condition
  | some true, _ => some true
  | _, some true => some true
  | some false, some false => some false
  | _, _ => none

def isNull (a : Option α) : Condition := some a.isNone

def eq [DecidableEq α] (a : Option α) (b : α) : Condition := a.map fun a => decide (a = b)

/-- `IN`. -/
def isIn [DecidableEq α] (a : Option α) (l : List α) : Condition :=
  a.map fun a => decide (a ∈ l)

def gt [LT α] [DecidableLT α] (a b : Option α) : Condition :=
  a.bind fun a => b.map fun b => decide (b < a)

def ge [LE α] [DecidableLE α] (a b : Option α) : Condition :=
  a.bind fun a => b.map fun b => decide (b ≤ a)

def le [LE α] [DecidableLE α] (a b : Option α) : Condition := ge b a

/-- `CASE WHEN … THEN … ELSE … END`. -/
def caseWhen : List (Condition × Option α) → Option α → Option α
  | [], e => e
  | (c, a) :: rest, e => if holds c then a else caseWhen rest e

def coalesce (a : Option α) (d : α) : α := a.getD d

@[simp] theorem holds_some (b : Bool) : holds (some b) = b := by
  cases b <;> rfl

@[simp] theorem holds_and (c d : Condition) : holds (and c d) = (holds c && holds d) := by
  rcases c with _ | c <;> rcases d with _ | d <;> (try cases c) <;> (try cases d) <;> rfl

@[simp] theorem holds_or (c d : Condition) : holds (or c d) = (holds c || holds d) := by
  rcases c with _ | c <;> rcases d with _ | d <;> (try cases c) <;> (try cases d) <;> rfl

@[simp] theorem holds_isNull (a : Option α) : holds (isNull a) = a.isNone := by
  cases a <;> rfl

@[simp] theorem holds_eq_some [DecidableEq α] (a b : α) :
    holds (eq (some a) b) = decide (a = b) := by
  simp [eq, holds]

@[simp] theorem holds_eq_none [DecidableEq α] (b : α) : holds (eq none b) = false := rfl

@[simp] theorem holds_isIn_some [DecidableEq α] (a : α) (l : List α) :
    holds (isIn (some a) l) = decide (a ∈ l) := by
  simp [isIn, holds]

@[simp] theorem holds_isIn_none [DecidableEq α] (l : List α) : holds (isIn none l) = false := rfl

section Order

variable [LT α] [DecidableLT α]

@[simp] theorem holds_gt_some (a b : α) : holds (gt (some a) (some b)) = decide (b < a) := by
  simp [gt, holds]

@[simp] theorem holds_gt_none_left (b : Option α) : holds (gt none b) = false := rfl

@[simp] theorem holds_gt_none_right (a : Option α) : holds (gt a none) = false := by
  cases a <;> rfl

end Order

section WeakOrder

variable [LE α] [DecidableLE α]

@[simp] theorem holds_ge_some (a b : α) : holds (ge (some a) (some b)) = decide (b ≤ a) := by
  simp [ge, holds]

@[simp] theorem holds_ge_none_left (b : Option α) : holds (ge none b) = false := rfl

@[simp] theorem holds_le (a b : Option α) : holds (le a b) = holds (ge b a) := rfl

@[simp] theorem holds_ge_none_right (a : Option α) : holds (ge a none) = false := by
  cases a <;> rfl

end WeakOrder

@[simp] theorem caseWhen_nil (e : Option α) : caseWhen [] e = e := rfl

@[simp] theorem caseWhen_cons (c : Condition) (a e : Option α)
    (rest : List (Condition × Option α)) :
    caseWhen ((c, a) :: rest) e = if holds c then a else caseWhen rest e := rfl

end Sql
