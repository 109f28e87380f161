import Mathlib.Data.Finset.Max
import Mathlib.Data.Fintype.EquivFin
import Mathlib.Data.List.Nodup
import Mathlib.Logic.Relation
import Mathlib.Order.WellFounded

/-!
# Finite relations without cycles

A finite set of things that refer to each other without a cycle has one that no other refers to
(`exists_unreferred`), so a set in which everything is referred to contains a cycle. Conversely a
list in which nothing refers to anything before it has no cycle (`acyclic_of_pairwise`). An order of
the things can be found by taking away what nothing refers to, again and again.
-/

namespace Stripping

variable {α : Type} {R : α → α → Prop}

/-- Nothing refers to itself, through others or directly. -/
def Acyclic (R : α → α → Prop) : Prop := ∀ a, ¬ Relation.TransGen R a a

theorem exists_unreferred (hac : Acyclic R) {s : Finset α} (hne : s.Nonempty) :
    ∃ a ∈ s, ∀ b ∈ s, ¬ R b a := by
  let below : s → s → Prop := fun a b => Relation.TransGen R a b
  have htrans : IsTrans s below := ⟨fun a b c hab hbc => Relation.TransGen.trans hab hbc⟩
  have hirrefl : Std.Irrefl below := ⟨fun a => hac a⟩
  have hwf : WellFounded below := Finite.wellFounded_of_trans_of_irrefl below
  obtain ⟨a, ha⟩ := hne
  obtain ⟨m, -, hmin⟩ := hwf.has_min Set.univ ⟨⟨a, ha⟩, Set.mem_univ _⟩
  refine ⟨m, m.2, fun b hb hbm => ?_⟩
  exact hmin ⟨b, hb⟩ (Set.mem_univ _) (Relation.TransGen.single hbm)

theorem exists_cycle {s : Finset α} (hne : s.Nonempty) (hstuck : ∀ a ∈ s, ∃ b ∈ s, R b a) :
    ∃ a, Relation.TransGen R a a := by
  by_contra hno
  have hac : Acyclic R := fun a ha => hno ⟨a, ha⟩
  obtain ⟨a, ha, hfree⟩ := exists_unreferred hac hne
  obtain ⟨b, hb, hba⟩ := hstuck a ha
  exact hfree b hb hba

theorem idxOf_lt [DecidableEq α] {l : List α} (hl : l.Pairwise fun a b => ¬ R b a)
    (hirrefl : ∀ a, ¬ R a a) {a b : α} (ha : a ∈ l) (hb : b ∈ l) (hab : R a b) :
    l.idxOf a < l.idxOf b := by
  have hia := List.idxOf_lt_length_of_mem ha
  have hib := List.idxOf_lt_length_of_mem hb
  by_contra hnot
  rcases Nat.lt_or_eq_of_le (Nat.le_of_not_lt hnot) with hlt | heq
  · have hno := List.pairwise_iff_getElem.mp hl _ _ hib hia hlt
    rw [List.getElem_idxOf, List.getElem_idxOf] at hno
    exact hno hab
  · have hsame : b = a := (List.idxOf_inj hb).mp heq
    rw [hsame] at hab
    exact hirrefl a hab

theorem acyclic_of_pairwise [DecidableEq α] {l : List α} (hl : l.Pairwise fun a b => ¬ R b a)
    (hirrefl : ∀ a, ¬ R a a) (hall : ∀ a b, R a b → a ∈ l ∧ b ∈ l) : Acyclic R := by
  have hpath : ∀ a b, Relation.TransGen R a b → l.idxOf a < l.idxOf b := by
    intro a b h
    induction h with
    | single hab =>
      obtain ⟨ha, hb⟩ := hall _ _ hab
      exact idxOf_lt hl hirrefl ha hb hab
    | tail _ hbc ih =>
      obtain ⟨hb, hc⟩ := hall _ _ hbc
      exact ih.trans (idxOf_lt hl hirrefl hb hc hbc)
  intro a ha
  exact Nat.lt_irrefl _ (hpath a a ha)

end Stripping
