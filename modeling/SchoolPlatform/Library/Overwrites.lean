import Mathlib.Data.Set.Image
import Mathlib.Order.CompletePartialOrder
import Mathlib.Data.Set.Lattice
import Mathlib.Data.List.Induction

/-!
# Writers that overwrite rows by their keys

A table is a set of rows with keys. A writer takes away the rows that have the keys of its own rows
and puts those in their place. Some writers applied one after another give a table that depends on
which of them took part, not on their order or on how often, just when no two of them write one key
(`Writers.writeAll_congr_iff`).
-/

/-- The rows that each of some writers puts into a table, and the keys of rows. -/
structure Writers (ι ρ κ : Type) where
  key : ρ → κ
  rows : ι → Set ρ

namespace Writers

variable {ι ρ κ : Type} (W : Writers ι ρ κ) {a b : ι} {r : ρ} {T : Set ρ} {l l' : List ι}

/-- The keys that a writer writes. -/
def keys (a : ι) : Set κ := W.key '' W.rows a

def write (T : Set ρ) (a : ι) : Set ρ := { r ∈ T | W.key r ∉ W.keys a } ∪ W.rows a

/-- The table after some writers, one after another. -/
def writeAll (T : Set ρ) (l : List ι) : Set ρ := l.foldl W.write T

/-- No two writers write one key. -/
def Apart : Prop := ∀ a b, a ≠ b → Disjoint (W.keys a) (W.keys b)

theorem mem_write : r ∈ W.write T a ↔ (r ∈ T ∧ W.key r ∉ W.keys a) ∨ r ∈ W.rows a := Iff.rfl

theorem writeAll_concat (l : List ι) (a : ι) :
    W.writeAll T (l ++ [a]) = W.write (W.writeAll T l) a := by
  unfold writeAll
  rw [List.foldl_append]
  rfl

variable {W}

theorem Apart.eq_of_mem (h : W.Apart) {k : κ} (ha : k ∈ W.keys a) (hb : k ∈ W.keys b) : a = b := by
  by_contra hne
  exact Set.disjoint_left.mp (h a b hne) ha hb

theorem Apart.mem_writeAll (h : W.Apart) (l : List ι) :
    r ∈ W.writeAll T l ↔
      (r ∈ T ∧ ∀ a ∈ l, W.key r ∉ W.keys a) ∨ ∃ a ∈ l, r ∈ W.rows a := by
  induction l using List.reverseRecOn with
  | nil => simp [writeAll]
  | append_singleton l a ih =>
    rw [writeAll_concat, mem_write, ih]
    simp only [List.mem_append, List.mem_singleton]
    constructor
    · rintro (⟨⟨hT, hold⟩ | ⟨b, hb, hr⟩, hnew⟩ | hr)
      · refine .inl ⟨hT, ?_⟩
        rintro b (hb | rfl)
        · exact hold b hb
        · exact hnew
      · exact .inr ⟨b, .inl hb, hr⟩
      · exact .inr ⟨a, .inr rfl, hr⟩
    · rintro (⟨hT, hnone⟩ | ⟨b, hb | rfl, hr⟩)
      · exact .inl ⟨.inl ⟨hT, fun b hb => hnone b (.inl hb)⟩, hnone a (.inr rfl)⟩
      · -- The last writer has written the row over only when it is the writer of the row.
        by_cases hkey : W.key r ∈ W.keys a
        · have hab : b = a := h.eq_of_mem (Set.mem_image_of_mem W.key hr) hkey
          rw [← hab]
          exact .inr hr
        · exact .inl ⟨.inr ⟨b, hb, hr⟩, hkey⟩
      · exact .inr hr

theorem Apart.writeAll_congr (h : W.Apart) (hsame : ∀ a, a ∈ l ↔ a ∈ l') :
    W.writeAll T l = W.writeAll T l' := by
  ext r
  rw [h.mem_writeAll, h.mem_writeAll]
  simp only [hsame]

theorem writeAll_pair_ne {k : κ} (ha : k ∈ W.keys a) (hb : k ∈ W.keys b)
    (hrows : Disjoint (W.rows a) (W.rows b)) :
    W.writeAll T [a, b] ≠ W.writeAll T [b, a] := by
  intro heq
  obtain ⟨r, hr, rfl⟩ := ha
  have hlast : r ∈ W.writeAll T [b, a] := .inr hr
  rw [← heq] at hlast
  rcases hlast with ⟨-, hnot⟩ | hmem
  · exact hnot hb
  · exact Set.disjoint_left.mp hrows hr hmem

/-- **The order of writers.** -/
theorem writeAll_congr_iff (hrows : ∀ a b, a ≠ b → Disjoint (W.rows a) (W.rows b)) :
    (∀ l l', (∀ a, a ∈ l ↔ a ∈ l') → W.writeAll T l = W.writeAll T l') ↔ W.Apart := by
  constructor
  · intro h a b hne
    rw [Set.disjoint_left]
    intro k ha hb
    apply writeAll_pair_ne ha hb (hrows a b hne)
    apply h
    intro c
    have hswap : c ∈ [a, b] ↔ c ∈ [b, a] := (List.Perm.swap b a []).mem_iff
    exact hswap
  · exact fun h l l' hsame => h.writeAll_congr hsame

end Writers
