import SchoolPlatform.Library.Interleaving

/-!
# Derived data repaired after the fact

A store keeps data derived from other data (a coverage from absences and excuses, a counter from
the rows it counts). A client that changes the base commits that change first and repairs the
derived data in a later unit of its program; in between, the derived data is wrong at some keys
and the client *owes* their repair.

`DeferredRepair` collects what each single unit has to satisfy. It gives the two results a
development wants: run alone, a program ends with all keys right (`DeferredRepair.run`), and so
does every validated run of any number of programs beside each other
(`DeferredRepair.validated`).
-/

namespace ReadCommitted

/-- Derived data over the keys `κ` with the programs `Good` that maintain it: on a store that
satisfies `Cond`, a unit may leave a key wrong only if the rest of its program owes that key; an
owed key is repaired or still owed; a program that has ended, or whose next transaction can fail,
owes nothing. -/
structure DeferredRepair (σ ρ ε α κ : Type) : Type 1 where
  Inv : σ → Prop
  Cond : σ → Prop
  Good : Program σ ρ ε α → Prop
  Right : σ → κ → Prop
  Owes : Program σ ρ ε α → κ → Prop
  good_raise : ∀ e, Good (.raise e)
  owes_ended : ∀ p k, Good p → p.Ended → ¬ Owes p k
  owes_mayFail : ∀ p k, Good p → p.MayFail → ¬ Owes p k
  advance : ∀ p s, Good p → Inv s → Cond s →
    Inv (p.advance s).2 ∧ Good (p.advance s).1 ∧
      ∀ k, Right s k ∨ Owes p k → Right (p.advance s).2 k ∨ Owes (p.advance s).1 k

variable {σ ρ ε α κ : Type}

namespace DeferredRepair

variable (d : DeferredRepair σ ρ ε α κ)

theorem run (J : σ → Prop) (hcond : ∀ s, J s → d.Cond s)
    (hJ : ∀ p s, d.Good p → d.Inv s → J s → J (p.advance s).2)
    (p : Program σ ρ ε α) (s : σ) (hgood : d.Good p) (hinv : d.Inv s) (hjs : J s)
    (hkeys : ∀ k, d.Right s k ∨ d.Owes p k) :
    d.Inv (p.run s).2 ∧ J (p.run s).2 ∧ ∀ k, d.Right (p.run s).2 k := by
  obtain ⟨q, hended, hinv', hj', hgood', hkeys'⟩ := Program.run_invariant
    (fun p s => d.Inv s ∧ J s ∧ d.Good p ∧ ∀ k, d.Right s k ∨ d.Owes p k) (by
      rintro p s ⟨hinv, hj, hgood, hkeys⟩
      obtain ⟨hinv', hgood', hadv⟩ := d.advance p s hgood hinv (hcond s hj)
      exact ⟨hinv', hJ p s hgood hinv hj, hgood', fun k => hadv k (hkeys k)⟩)
    p s ⟨hinv, hjs, hgood, hkeys⟩
  refine ⟨hinv', hj', fun k => (hkeys' k).resolve_right ?_⟩
  exact d.owes_ended q k hgood' hended

/-- In the middle of a run each key is right or some client owes it. -/
def Between (s : σ) (ps : List (Program σ ρ ε α)) : Prop :=
  d.Inv s ∧ (∀ p ∈ ps, d.Good p) ∧ ∀ k, d.Right s k ∨ ∃ p ∈ ps, d.Owes p k

theorem mem_set_self {ps : List (Program σ ρ ε α)} {i : ℕ} {p q : Program σ ρ ε α}
    (hp : ps[i]? = some p) : q ∈ ps.set i q :=
  List.mem_set (List.getElem?_eq_some_iff.mp hp).1 q

theorem mem_set_of_ne {ps : List (Program σ ρ ε α)} {i : ℕ} {p q r : Program σ ρ ε α}
    (hp : ps[i]? = some p) (hr : r ∈ ps) (hne : r ≠ p) : r ∈ ps.set i q := by
  obtain ⟨j, hj, rfl⟩ := List.getElem_of_mem hr
  have hij : i ≠ j := by
    rintro rfl
    rw [List.getElem?_eq_getElem hj, Option.some.injEq] at hp
    exact hne hp
  have hlen : j < (ps.set i q).length := by simpa using hj
  have hget : (ps.set i q)[j] = ps[j] := List.getElem_set_ne hij hlen
  exact hget ▸ List.getElem_mem hlen

theorem Between.advance {s : σ} {ps : List (Program σ ρ ε α)} {i : ℕ} {p : Program σ ρ ε α}
    (hp : ps[i]? = some p) (hcond : d.Cond s) (h : d.Between s ps) :
    d.Between (p.advance s).2 (ps.set i (p.advance s).1) := by
  obtain ⟨hinv, hgood, hkeys⟩ := h
  have hgp : d.Good p := hgood p (List.mem_of_getElem? hp)
  obtain ⟨hinv', hgood', hadv⟩ := d.advance p s hgp hinv hcond
  -- A client other than the one that moved still owes what it owed.
  have hother : ∀ q ∈ ps, ∀ j, d.Owes q j → ¬ d.Owes p j →
      ∃ r ∈ ps.set i (p.advance s).1, d.Owes r j := by
    intro q hq j ho hno
    have hne : q ≠ p := by
      rintro rfl
      exact hno ho
    exact ⟨q, mem_set_of_ne hp hq hne, ho⟩
  refine ⟨hinv', ?_, ?_⟩
  · intro q hq
    rcases List.mem_or_eq_of_mem_set hq with hq | rfl
    · exact hgood q hq
    · exact hgood'
  · intro k
    by_cases hk : d.Right s k ∨ d.Owes p k
    · rcases hadv k hk with hr | ho
      · exact .inl hr
      · exact .inr ⟨_, mem_set_self hp, ho⟩
    · push Not at hk
      obtain ⟨q, hq, ho⟩ := (hkeys k).resolve_left hk.1
      exact .inr (hother q hq k ho hk.2)

theorem Between.fail {s : σ} {ps : List (Program σ ρ ε α)} {i : ℕ} {p : Program σ ρ ε α} {e : ε}
    (hp : ps[i]? = some p) (hmf : p.MayFail) (h : d.Between s ps) :
    d.Between s (ps.set i (.raise e)) := by
  obtain ⟨hinv, hgood, hkeys⟩ := h
  refine ⟨hinv, ?_, ?_⟩
  · intro q hq
    rcases List.mem_or_eq_of_mem_set hq with hq | rfl
    · exact hgood q hq
    · exact d.good_raise e
  · intro k
    refine (hkeys k).imp_right ?_
    rintro ⟨q, hq, ho⟩
    have hne : q ≠ p := by
      rintro rfl
      exact d.owes_mayFail q k (hgood q hq) hmf ho
    exact ⟨q, mem_set_of_ne hp hq hne, ho⟩

theorem validated [DecidableEq ρ] (ps : List (Program σ ρ ε α)) (s : σ)
    (hgood : ∀ p ∈ ps, d.Good p) (hinv : d.Inv s) (hright : ∀ k, d.Right s k) (sched : List ℕ)
    {c : Config σ ρ ε α} (hexec : (Config.start s ps).exec sched = some c)
    (hval : (Config.start s ps).ValidatedRun d.Cond sched) (hfin : c.finished = true) :
    d.Inv c.store ∧ ∀ k, d.Right c.store k := by
  obtain ⟨ps', ⟨hinv', hgood', hkeys⟩, htr⟩ := Config.validated_invariant d.Cond d.Between
    (fun _ _ _ _ hp hc h => Between.advance d hp hc h)
    (fun _ _ _ _ _ hp hmf h => Between.fail d hp hmf h)
    sched hexec hval ⟨hinv, hgood, fun k => .inl (hright k)⟩ (Config.tracksAll_start s ps)
  refine ⟨hinv', fun k => (hkeys k).resolve_right ?_⟩
  rintro ⟨p, hp, ho⟩
  exact d.owes_ended p k (hgood' p hp) (Config.ended_of_finished hfin htr hp) ho

end DeferredRepair

end ReadCommitted
