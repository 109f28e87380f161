import Mathlib.Data.List.Basic

/-!
# Changes confined to some rows of a table

A change of a table is confined to the rows that a test picks when it leaves the other rows as they
are, and what becomes of the rows picked depends on these alone. Two changes confined to rows that
the tests keep apart do not see each other, so a number counted after one of them is still a lower
bound once the other has only added to the count (`Confined.countP_le`).
-/

variable {α : Type}

/-- The change leaves the rows outside as they are, and makes the rows inside from those inside. -/
structure Confined (inside : α → Bool) (f : List α → List α) : Prop where
  outside : ∀ l, (f l).filter (fun a => !inside a) = l.filter fun a => !inside a
  within : ∃ g : List α → List α, ∀ l, (f l).filter inside = g (l.filter inside)

namespace Confined

variable {inside : α → Bool} {f g : List α → List α}

theorem unchanged (inside : α → Bool) : Confined inside fun l => l :=
  ⟨fun _ => rfl, fun l => l, fun _ => rfl⟩

theorem comp (hg : Confined inside g) (hf : Confined inside f) :
    Confined inside fun l => g (f l) := by
  obtain ⟨u, hu⟩ := hf.within
  obtain ⟨v, hv⟩ := hg.within
  refine ⟨fun l => (hg.outside _).trans (hf.outside l), fun l => v (u l), fun l => ?_⟩
  rw [hv, hu]

theorem map {h : α → α} (hin : ∀ a, inside (h a) = inside a)
    (hout : ∀ a, inside a = false → h a = a) : Confined inside fun l => l.map h := by
  constructor
  · intro l
    induction l with
    | nil => rfl
    | cons a l ih =>
      cases ha : inside a with
      | true => simpa [hin, ha] using ih
      | false => simpa [hin, ha, hout a ha] using ih
  · refine ⟨List.map h, fun l => ?_⟩
    rw [List.filter_map]
    exact congrArg (List.map h) (List.filter_congr fun a _ => hin a)

theorem append {rows : List α} (hin : ∀ a ∈ rows, inside a = true) :
    Confined inside fun l => l ++ rows := by
  have hnone : (rows.filter fun a => !inside a) = [] := by
    rw [List.filter_eq_nil_iff]
    intro a ha
    simp [hin a ha]
  have hall : rows.filter inside = rows := List.filter_eq_self.mpr hin
  constructor
  · intro l
    rw [List.filter_append, hnone, List.append_nil]
  · exact ⟨fun l => l ++ rows, fun l => by rw [List.filter_append, hall]⟩

theorem filter_eq {l l' : List α} {p : α → Bool}
    (hsame : (l'.filter fun a => !inside a) = l.filter fun a => !inside a)
    (hp : ∀ a, p a = true → inside a = false) : l'.filter p = l.filter p := by
  have hsplit : ∀ m : List α, m.filter p = (m.filter fun a => !inside a).filter p := by
    intro m
    rw [List.filter_filter]
    refine List.filter_congr fun a _ => ?_
    cases hpa : p a with
    | false => rfl
    | true => simp [hp a hpa]
  rw [hsplit l', hsplit l, hsame]

theorem countP_eq {l l' : List α} {p : α → Bool}
    (hsame : (l'.filter fun a => !inside a) = l.filter fun a => !inside a)
    (hp : ∀ a, p a = true → inside a = false) : l'.countP p = l.countP p := by
  rw [List.countP_eq_length_filter, List.countP_eq_length_filter, filter_eq hsame hp]

/-- **Counts on both sides of a confined change go together**, as long as the rows it is confined to
stay. -/
theorem countP_le (h : Confined inside f) {l l' : List α} (p : α → Bool)
    (hin : l'.filter inside = l.filter inside) (hle : l.countP p ≤ l'.countP p) :
    (f l).countP p ≤ (f l').countP p := by
  obtain ⟨g, hg⟩ := h.within
  have hl := List.countP_eq_countP_filter_add l p inside
  have hl' := List.countP_eq_countP_filter_add l' p inside
  have hfl := List.countP_eq_countP_filter_add (f l) p inside
  have hfl' := List.countP_eq_countP_filter_add (f l') p inside
  rw [hg, h.outside] at hfl hfl'
  rw [hin] at hl' hfl'
  omega

end Confined
