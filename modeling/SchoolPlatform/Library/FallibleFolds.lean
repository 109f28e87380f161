import Mathlib.Data.List.Basic
import Mathlib.Tactic.Common

/-!
# Steps that can fail

Computations in `Except`: taking a successful one apart, saying when one succeeds and with what
(`Succeeds`), and folds of them over a list. A fold that succeeds has succeeded at every element
(`foldlM_invariant`), and one whose steps succeed wherever an invariant holds succeeds
(`foldlM_succeeds`). The invariants are about the elements done and those to come, so that they can
say what has happened so far.
-/

namespace Fallible

variable {ε α β σ : Type}

theorem bind_eq_ok {x : Except ε α} {f : α → Except ε β} {b : β} :
    (x >>= f) = .ok b ↔ ∃ a, x = .ok a ∧ f a = .ok b := by
  cases x with
  | error e => exact ⟨fun h => (nomatch h), fun ⟨_, h, _⟩ => (nomatch h)⟩
  | ok a => exact ⟨fun h => ⟨a, rfl, h⟩, fun ⟨_, rfl, h⟩ => h⟩

theorem bind_eq_error {x : Except ε α} {f : α → Except ε β} {e : ε} :
    (x >>= f) = .error e ↔ x = .error e ∨ ∃ a, x = .ok a ∧ f a = .error e := by
  cases x with
  | error e' =>
    have hbind : (Except.error e' >>= f) = (.error e' : Except ε β) := rfl
    rw [hbind, Except.error.injEq, Except.error.injEq]
    exact ⟨.inl, fun h => h.elim id fun ⟨_, h, _⟩ => nomatch h⟩
  | ok a =>
    have hbind : (Except.ok a >>= f) = f a := rfl
    rw [hbind]
    exact ⟨fun h => .inr ⟨a, rfl, h⟩, fun h => h.elim (fun h => nomatch h) fun ⟨_, ha, h⟩ =>
      Except.ok.inj ha ▸ h⟩

theorem pure_eq_ok {a b : α} : (pure a : Except ε α) = .ok b ↔ a = b :=
  ⟨Except.ok.inj, congrArg Except.ok⟩

theorem ite_error_eq_ok {c : Prop} [Decidable c] {e : ε} {x : Except ε α} {a : α} :
    (if c then .error e else x) = .ok a ↔ ¬ c ∧ x = .ok a := by
  by_cases hc : c
  · rw [if_pos hc]
    exact ⟨fun h => (nomatch h), fun h => absurd hc h.1⟩
  · rw [if_neg hc]
    exact ⟨fun h => ⟨hc, h⟩, fun h => h.2⟩

theorem ite_error_eq_error {c : Prop} [Decidable c] {e e' : ε} {x : Except ε α} :
    (if c then .error e else x) = .error e' ↔ c ∧ e = e' ∨ ¬ c ∧ x = .error e' := by
  by_cases hc : c
  · rw [if_pos hc]
    simp [hc]
  · rw [if_neg hc]
    simp [hc]

/-- A computation succeeds just when `P` holds, and `Q` holds of its result. -/
structure Succeeds (x : Except ε α) (P : Prop) (Q : α → Prop) : Prop where
  possible : P → ∃ a, x = .ok a
  result : ∀ a, x = .ok a → P ∧ Q a

namespace Succeeds

variable {x : Except ε α} {P P' : Prop} {Q : α → Prop} {Q' : β → Prop}

theorem iff (h : Succeeds x P Q) : (∃ a, x = .ok a) ↔ P :=
  ⟨fun ⟨a, ha⟩ => (h.result a ha).1, h.possible⟩

theorem congr (h : Succeeds x P Q) (hP : P ↔ P') : Succeeds x P' Q :=
  propext hP ▸ h

theorem ok {a : α} (hP : P) (hQ : Q a) : Succeeds (.ok a : Except ε α) P Q where
  possible := fun _ => ⟨a, rfl⟩
  result := by
    intro b hb
    cases hb
    exact ⟨hP, hQ⟩

theorem bind {f : α → Except ε β} (h : Succeeds x P Q)
    (hf : ∀ a, P → Q a → Succeeds (f a) P' Q') : Succeeds (x >>= f) (P ∧ P') Q' where
  possible := by
    rintro ⟨hP, hP'⟩
    obtain ⟨a, ha⟩ := h.possible hP
    obtain ⟨b, hb⟩ := (hf a hP (h.result a ha).2).possible hP'
    exact ⟨b, bind_eq_ok.mpr ⟨a, ha, hb⟩⟩
  result := by
    intro b hb
    obtain ⟨a, ha, hfa⟩ := bind_eq_ok.mp hb
    obtain ⟨hP, hQ⟩ := h.result a ha
    obtain ⟨hP', hQ'⟩ := (hf a hP hQ).result b hfa
    exact ⟨⟨hP, hP'⟩, hQ'⟩

theorem map (h : Succeeds x P Q) (g : α → β) (hQ : ∀ a, Q a → Q' (g a)) :
    Succeeds (x >>= fun a => pure (g a)) P Q' :=
  (h.bind fun a _ hq => ok trivial (hQ a hq)).congr (and_iff_left trivial)

end Succeeds

variable {step : σ → α → Except ε σ}

theorem foldlM_error {P : ε → Prop} (hstep : ∀ s a e, step s a = .error e → P e) {l : List α}
    {s : σ} {e : ε} (h : l.foldlM step s = .error e) : P e := by
  induction l generalizing s with
  | nil => cases h
  | cons a l ih =>
    rw [List.foldlM_cons, bind_eq_error] at h
    rcases h with h | ⟨s', -, h⟩
    · exact hstep s a e h
    · exact ih h

theorem foldlM_invariant (I : List α → List α → σ → Prop)
    (hstep : ∀ pre a rest s s', I pre (a :: rest) s → step s a = .ok s' →
      I (pre ++ [a]) rest s') {l : List α} {s s' : σ} (hs : I [] l s)
    (hfold : l.foldlM step s = .ok s') : I l [] s' := by
  suffices hgen : ∀ (pre rest : List α) (s : σ), I pre rest s → rest.foldlM step s = .ok s' →
      I (pre ++ rest) [] s' from hgen [] l s hs hfold
  intro pre rest
  induction rest generalizing pre with
  | nil =>
    intro s hs h
    rw [List.foldlM_nil, pure_eq_ok] at h
    rw [List.append_nil, ← h]
    exact hs
  | cons a rest ih =>
    intro s hs h
    rw [List.foldlM_cons, bind_eq_ok] at h
    obtain ⟨s₁, hfirst, hrest⟩ := h
    have hnext := ih (pre ++ [a]) s₁ (hstep pre a rest s s₁ hs hfirst) hrest
    rwa [List.append_assoc, List.singleton_append] at hnext

theorem foldlM_succeeds (I : List α → List α → σ → Prop)
    (hstep : ∀ pre a rest s, I pre (a :: rest) s → ∃ s', step s a = .ok s' ∧
      I (pre ++ [a]) rest s') {l : List α} {s : σ} (hs : I [] l s) :
    ∃ s', l.foldlM step s = .ok s' ∧ I l [] s' := by
  suffices hgen : ∀ (pre rest : List α) (s : σ), I pre rest s →
      ∃ s', rest.foldlM step s = .ok s' ∧ I (pre ++ rest) [] s' from hgen [] l s hs
  intro pre rest
  induction rest generalizing pre with
  | nil =>
    intro s hs
    exact ⟨s, rfl, by rwa [List.append_nil]⟩
  | cons a rest ih =>
    intro s hs
    obtain ⟨s₁, hfirst, hnext⟩ := hstep pre a rest s hs
    obtain ⟨s', hrest, hend⟩ := ih (pre ++ [a]) s₁ hnext
    refine ⟨s', ?_, ?_⟩
    · rw [List.foldlM_cons, bind_eq_ok]
      exact ⟨s₁, hfirst, hrest⟩
    · rwa [List.append_assoc, List.singleton_append] at hend

end Fallible
