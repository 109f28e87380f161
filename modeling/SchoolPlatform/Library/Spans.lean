import Mathlib.Order.CompletePartialOrder
import Mathlib.Order.Interval.Set.Disjoint
import Mathlib.Data.List.Pairwise

/-!
# Half-open spans of a linear order

A span begins at a point and may end before another one; its points are an interval of Mathlib.
Spans are disjoint when one ends by the time the other begins, a point belongs to at most one of
disjoint spans, and bounded spans that are disjoint from their neighbours in a list are pairwise
disjoint.
-/

structure Span (α : Type) where
  start : α
  stop : Option α
  deriving DecidableEq

namespace Span

variable {α : Type} [LinearOrder α] {s t : Span α} {a b : α}

/-- The points of a span: those from its start, up to and without its stop. -/
def points (s : Span α) : Set α :=
  match s.stop with
  | none => Set.Ici s.start
  | some stop => Set.Ico s.start stop

theorem mem_points : a ∈ s.points ↔ s.start ≤ a ∧ ∀ b, s.stop = some b → a < b := by
  unfold points
  cases s.stop with
  | none => simp
  | some b => simp

theorem disjoint_of_le (hstop : s.stop = some b) (hle : b ≤ t.start) :
    Disjoint s.points t.points := by
  rw [Set.disjoint_left]
  intro a hs ht
  rw [mem_points] at hs ht
  exact absurd (hs.2 b hstop) (not_lt.mpr (hle.trans ht.1))

theorem points_eq_empty (hstop : s.stop = some b) (hle : b ≤ s.start) : s.points = ∅ := by
  unfold points
  rw [hstop]
  exact Set.Ico_eq_empty (not_lt.mpr hle)

theorem points_subset (hstart : t.start ≤ s.start)
    (hstop : ∀ b, t.stop = some b → ∃ c, s.stop = some c ∧ c ≤ b) : s.points ⊆ t.points := by
  intro a ha
  rw [mem_points] at ha ⊢
  refine ⟨hstart.trans ha.1, ?_⟩
  intro b hb
  obtain ⟨c, hc, hle⟩ := hstop b hb
  exact (ha.2 c hc).trans_le hle

theorem not_disjoint_of_open (hs : s.stop = none) (ht : t.stop = none) :
    ¬ Disjoint s.points t.points := by
  rw [Set.not_disjoint_iff]
  refine ⟨max s.start t.start, mem_points.mpr ⟨le_max_left _ _, ?_⟩,
    mem_points.mpr ⟨le_max_right _ _, ?_⟩⟩
  · intro b hb
    rw [hs] at hb
    exact nomatch hb
  · intro b hb
    rw [ht] at hb
    exact nomatch hb

theorem pairwise_of_isChain {l : List (α × α)} (hlt : ∀ x ∈ l, x.1 < x.2)
    (h : l.IsChain fun x y => x.2 ≤ y.1) : l.Pairwise fun x y => x.2 ≤ y.1 := by
  induction l with
  | nil => exact List.Pairwise.nil
  | cons x l ih =>
    have hrest := ih (fun y hy => hlt y (List.mem_cons_of_mem _ hy)) h.of_cons
    refine List.pairwise_cons.mpr ⟨?_, hrest⟩
    cases l with
    | nil => exact fun y hy => (List.not_mem_nil hy).elim
    | cons y l =>
      have hxy : x.2 ≤ y.1 := (List.isChain_cons_cons.mp h).1
      intro z hz
      rcases List.mem_cons.mp hz with rfl | hz
      · exact hxy
      · have hy : y.1 < y.2 := hlt y (List.mem_cons_of_mem _ List.mem_cons_self)
        exact hxy.trans (hy.le.trans ((List.pairwise_cons.mp hrest).1 z hz))

end Span
