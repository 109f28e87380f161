import Mathlib.Data.List.Sort
import Mathlib.Data.List.Lex
import Mathlib.Data.List.Pairwise
import Mathlib.Data.List.Dedup

/-!
# Stable sorting by a key

`KeySort.sortBy` orders a list by a key and leaves elements of one key in the order in which they
came. The result depends on the order of the list only where two different elements share a key.
-/

namespace KeySort

variable {α κ : Type} [LinearOrder κ] (key : α → κ)

/-- The list in the order of the key, elements of the same key in their own order. -/
def sortBy (l : List α) : List α := l.insertionSort fun a b => key a ≤ key b

theorem perm_sortBy (l : List α) : (sortBy key l).Perm l := List.perm_insertionSort _ l

theorem pairwise_sortBy (l : List α) : (sortBy key l).Pairwise fun a b => key a ≤ key b := by
  have htotal : Std.Total fun a b : α => key a ≤ key b := ⟨fun a b => le_total (key a) (key b)⟩
  have htrans : IsTrans α fun a b => key a ≤ key b := ⟨fun a b c => le_trans⟩
  exact List.pairwise_insertionSort _ l

theorem sortBy_eq_of_perm {l l' : List α} (hperm : l'.Perm l)
    (h : ∀ a ∈ l, ∀ b ∈ l, key a = key b → a = b) : sortBy key l' = sortBy key l := by
  have hsorted : (sortBy key l').Perm (sortBy key l) :=
    (perm_sortBy key l').trans (hperm.trans (perm_sortBy key l).symm)
  refine hsorted.eq_of_pairwise (fun a b ha hb hab hba => ?_) (pairwise_sortBy key l')
    (pairwise_sortBy key l)
  have ha' : a ∈ l := hperm.subset ((perm_sortBy key l').subset ha)
  have hb' : b ∈ l := (perm_sortBy key l).subset hb
  exact h a ha' b hb' (le_antisymm hab hba)

/-- The different elements of a list in their order. -/
def sortedSet (l : List κ) : List κ := sortBy (fun k => k) l.dedup

theorem mem_sortedSet {l : List κ} {k : κ} : k ∈ sortedSet l ↔ k ∈ l :=
  (perm_sortBy _ _).mem_iff.trans List.mem_dedup

theorem sortedSet_eq_nil {l : List κ} : sortedSet l = [] ↔ l = [] := by
  rw [List.eq_nil_iff_forall_not_mem, List.eq_nil_iff_forall_not_mem]
  simp only [mem_sortedSet]

theorem pairwise_sortedSet (l : List κ) : (sortedSet l).Pairwise (· < ·) := by
  have hnodup : (sortedSet l).Nodup := (perm_sortBy _ _).nodup_iff.mpr (List.nodup_dedup l)
  have hle : (sortedSet l).Pairwise (· ≤ ·) := pairwise_sortBy _ _
  exact (hle.and hnodup).imp fun h => lt_of_le_of_ne h.1 h.2

end KeySort
