import Mathlib.Tactic.Common

/-!
# Runs whose steps meet a condition

A run takes a state through a list of actions. `Guarded` says that every action meets a condition
on the state it is taken in; what such actions preserve holds in every state of the run
(`Guarded.invariant`).
-/

namespace Runs

variable {σ α : Type} {step : σ → α → σ} {admits : σ → α → Prop} {s : σ} {l actions : List α}

/-- Every action meets the condition in the state it is taken in. -/
def Guarded (step : σ → α → σ) (admits : σ → α → Prop) : σ → List α → Prop
  | _, [] => True
  | s, a :: actions => admits s a ∧ Guarded step admits (step s a) actions

instance decidableGuarded [∀ s a, Decidable (admits s a)] :
    ∀ (s : σ) (actions : List α), Decidable (Guarded step admits s actions)
  | _, [] => inferInstanceAs (Decidable True)
  | s, a :: actions =>
    have := decidableGuarded (step s a) actions
    inferInstanceAs (Decidable (admits s a ∧ Guarded step admits (step s a) actions))

theorem Guarded.of_prefix (hfront : l <+: actions) (h : Guarded step admits s actions) :
    Guarded step admits s l := by
  induction l generalizing s actions with
  | nil => trivial
  | cons a l ih =>
    cases actions with
    | nil => exact (List.cons_ne_nil _ _ (List.prefix_nil.mp hfront)).elim
    | cons b actions =>
      obtain ⟨rfl, hrest⟩ := List.cons_prefix_cons.mp hfront
      exact ⟨h.1, ih hrest h.2⟩

theorem Guarded.foldl {I : σ → Prop} (hstep : ∀ s a, I s → admits s a → I (step s a))
    (hs : I s) (h : Guarded step admits s actions) : I (actions.foldl step s) := by
  induction actions generalizing s with
  | nil => exact hs
  | cons a actions ih => exact ih (hstep s a hs h.1) h.2

theorem Guarded.invariant {I : σ → Prop} (hstep : ∀ s a, I s → admits s a → I (step s a))
    (hs : I s) (h : Guarded step admits s actions) :
    ∀ l, l <+: actions → I (l.foldl step s) :=
  fun _ hl => Guarded.foldl hstep hs (h.of_prefix hl)

end Runs
