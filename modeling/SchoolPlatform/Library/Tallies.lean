import SchoolPlatform.Library.Dict
import Mathlib.Data.List.Perm.Basic

/-!
# Tallies

The sum of a column over some rows, and what becomes of it when the rows are grouped: the sums of
the groups add up to the sum of all rows (`sumOver_groupBy`), and the rows counted for each of some
keys are the rows that have one of them (`sumOver_counts`).
-/

namespace Tallies

variable {α β κ ν : Type}

variable {f : α → ℕ} {l : List α}

def sumOver (f : α → ℕ) : List α → ℕ
  | [] => 0
  | a :: l => f a + sumOver f l

@[simp] theorem sumOver_nil (f : α → ℕ) : sumOver f [] = 0 := rfl

@[simp] theorem sumOver_cons (f : α → ℕ) (a : α) (l : List α) :
    sumOver f (a :: l) = f a + sumOver f l := rfl

@[simp] theorem sumOver_append (f : α → ℕ) (l l' : List α) :
    sumOver f (l ++ l') = sumOver f l + sumOver f l' := by
  induction l with
  | nil => simp
  | cons a l ih => simp [ih, Nat.add_assoc]

@[simp] theorem sumOver_map (f : β → ℕ) (g : α → β) (l : List α) :
    sumOver f (l.map g) = sumOver (fun a => f (g a)) l := by
  induction l with
  | nil => rfl
  | cons a l ih => simp [ih]

theorem sumOver_filterMap {column : β → ℕ} {g : α → Option β}
    (h : ∀ a ∈ l, ∃ b, g a = some b ∧ column b = f a) :
    sumOver column (l.filterMap g) = sumOver f l := by
  induction l with
  | nil => rfl
  | cons a l ih =>
    obtain ⟨b, hb, hcolumn⟩ := h a List.mem_cons_self
    rw [List.filterMap_cons_some hb, sumOver_cons, sumOver_cons, hcolumn]
    rw [ih fun c hc => h c (List.mem_cons_of_mem _ hc)]

theorem sumOver_perm (f : α → ℕ) {l' : List α} (h : l.Perm l') : sumOver f l = sumOver f l' := by
  induction h with
  | nil => rfl
  | cons a _ ih => simp [ih]
  | swap a b l => simp only [sumOver_cons]; omega
  | trans _ _ ih ih' => exact ih.trans ih'

theorem length_filter_eq (p : α → Bool) (l : List α) :
    (l.filter p).length = sumOver (fun a => if p a then 1 else 0) l := by
  induction l with
  | nil => rfl
  | cons a l ih =>
    cases hp : p a with
    | true => simp [hp, ih]; omega
    | false => simp [hp, ih]

theorem length_filter_or {p q r : α → Bool} (hr : ∀ a, r a = (p a || q a))
    (hapart : ∀ a, p a = true → q a = false) :
    (l.filter r).length = (l.filter p).length + (l.filter q).length := by
  induction l with
  | nil => rfl
  | cons a l ih =>
    cases hp : p a with
    | true =>
      simp [hr a, hp, hapart a hp, ih]
      omega
    | false =>
      cases hq : q a <;> simp [hr a, hp, hq, ih]
      omega

theorem sumOver_filter_add (f : α → ℕ) (p : α → Bool) (l : List α) :
    sumOver f (l.filter p) + sumOver f (l.filter fun a => !p a) = sumOver f l := by
  induction l with
  | nil => rfl
  | cons a l ih =>
    cases hp : p a <;> simp [hp] <;> omega

theorem sumOver_eq_zero : sumOver f l = 0 ↔ ∀ a ∈ l, f a = 0 := by
  induction l with
  | nil => simp
  | cons a l ih => simp [ih]

theorem sumOver_filter_eq_iff {p : α → Bool} :
    sumOver f (l.filter p) = sumOver f l ↔ ∀ a ∈ l, p a = false → f a = 0 := by
  have hparts := sumOver_filter_add f p l
  have hrest : sumOver f (l.filter fun a => !p a) = 0 ↔ ∀ a ∈ l, p a = false → f a = 0 := by
    rw [sumOver_eq_zero]
    simp only [List.mem_filter, Bool.not_eq_true', and_imp]
  rw [← hrest]
  omega

variable [DecidableEq κ]

theorem sumOver_insert (f : κ × ν → ℕ) (d : Dict κ ν) (k : κ) (v : ν) :
    sumOver f (d.insert k v) + ((d.get? k).elim 0 fun old => f (k, old)) =
      sumOver f d + f (k, v) := by
  induction d with
  | nil => simp [Dict.insert]
  | cons p d ih =>
    obtain ⟨k', v'⟩ := p
    by_cases hk : k' = k
    · subst hk
      simp [Dict.insert, Dict.get?]
      omega
    · simp only [Dict.insert, Dict.get?, if_neg hk, sumOver_cons]
      omega

/-- **The sums of the groups add up to the sum of all.** -/
theorem sumOver_groupBy (f : α → ℕ) (key : α → κ) (l : List α) :
    sumOver (fun g => sumOver f g.2) (Dict.groupBy key l) = sumOver f l := by
  suffices hgen : ∀ d : Dict κ (List α), sumOver (fun g : κ × List α => sumOver f g.2)
      (l.foldl (fun d a => Dict.insert d (key a) ((Dict.get? d (key a)).getD [] ++ [a])) d) =
        sumOver (fun g : κ × List α => sumOver f g.2) d + sumOver f l by
    have hall := hgen []
    rw [sumOver_nil, Nat.zero_add] at hall
    exact hall
  induction l with
  | nil => exact fun d => rfl
  | cons a l ih =>
    intro d
    rw [List.foldl_cons, ih, sumOver_cons]
    have hinsert := sumOver_insert (fun g : κ × List α => sumOver f g.2) d (key a)
      ((d.get? (key a)).getD [] ++ [a])
    cases hget : Dict.get? d (key a) with
    | none =>
      simp only [hget, Option.getD_none, Option.elim_none, List.nil_append, sumOver_cons,
        sumOver_nil, Nat.add_zero] at hinsert ⊢
      omega
    | some old =>
      simp only [hget, Option.getD_some, Option.elim_some, sumOver_append, sumOver_cons,
        sumOver_nil, Nat.add_zero] at hinsert ⊢
      omega

theorem length_groupBy (p : α → Bool) (key : α → κ) (l : List α) :
    sumOver (fun g => (g.2.filter p).length) (Dict.groupBy key l) = (l.filter p).length := by
  simp only [length_filter_eq]
  exact sumOver_groupBy _ key l

/-- **The rows of each of some keys are the rows that have one of the keys.** -/
theorem sumOver_counts (key : α → κ) (l : List α) {ks : List κ} (hks : ks.Nodup) :
    sumOver (fun k => (l.filter fun a => key a = k).length) ks =
      (l.filter fun a => key a ∈ ks).length := by
  induction ks with
  | nil => simp
  | cons k ks ih =>
    obtain ⟨hnot, hrest⟩ := List.nodup_cons.mp hks
    rw [sumOver_cons, ih hrest]
    symm
    apply length_filter_or
    · intro a
      simp
    · intro a hk
      rw [decide_eq_true_eq] at hk
      rw [hk]
      exact decide_eq_false hnot

end Tallies
