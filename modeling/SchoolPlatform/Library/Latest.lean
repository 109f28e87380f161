import Mathlib.Data.List.MinMax
import Mathlib.Data.List.Forall2

/-!
# The last row in an order

`List.argmax` finds the row that is greatest by its key. It is found alike when the rows are changed
but keep their keys, and a new row is found when its key is above all others.
-/

namespace Latest

variable {α β κ : Type} [LinearOrder κ]

theorem argmax_map (f : β → κ) (g : α → β) (l : List α) :
    (l.map g).argmax f = (l.argmax fun a => f (g a)).map g := by
  induction l using List.reverseRecOn with
  | nil => rfl
  | append_singleton l a ih =>
    rw [List.map_append, List.map_singleton, List.argmax_concat, List.argmax_concat, ih]
    cases l.argmax fun a => f (g a) with
    | none => rfl
    | some b =>
      simp only [Option.map_some]
      by_cases hlt : f (g b) < f (g a)
      · simp only [if_pos hlt, Option.map_some]
      · simp only [if_neg hlt, Option.map_some]

theorem argmax_forall₂ {R : α → β → Prop} {f : α → κ} {g : β → κ}
    (hkey : ∀ a b, R a b → f a = g b) {l : List α} {l' : List β} (h : List.Forall₂ R l l') :
    Option.Rel R (l.argmax f) (l'.argmax g) := by
  unfold List.argmax
  suffices hfold : ∀ (o : Option α) (o' : Option β), Option.Rel R o o' →
      Option.Rel R (l.foldl (List.argAux fun b c => f c < f b) o)
        (l'.foldl (List.argAux fun b c => g c < g b) o') from hfold none none .none
  induction h with
  | nil => exact fun _ _ ho => ho
  | @cons a b l l' hab hrest ih =>
    intro o o' ho
    refine ih _ _ ?_
    cases ho with
    | none => exact .some hab
    | @some c d hcd =>
      show Option.Rel R (if f c < f a then some a else some c) (if g d < g b then some b else some d)
      rw [hkey a b hab, hkey c d hcd]
      split
      · exact .some hab
      · exact .some hcd

theorem argmax_concat_of_le (f : α → κ) {l : List α} {a b : α} (hl : l.argmax f = some b)
    (h : f a ≤ f b) : (l ++ [a]).argmax f = some b := by
  rw [List.argmax_concat, hl]
  exact if_neg (not_lt.mpr h)

end Latest
