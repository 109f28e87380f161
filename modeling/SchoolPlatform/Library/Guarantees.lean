import SchoolPlatform.Library.CalmRuns

/-!
# Clients with guarantees of their own

Each client of a store promises what its commits do (`Gs i`), and relies on what the others promise,
on an invariant of all of them, and on the calm that the run keeps for it (`others`). Every commit
of a calm run is then one that its client has promised (`Config.step_of_guarantees`).
-/

namespace ReadCommitted

variable {σ ρ ε α : Type}

/-- A lock under which the row may be changed. -/
def WriteLocked (L : List (ρ × LockMode)) (r : ρ) : Prop := ∃ m, m ≠ .keyShare ∧ (r, m) ∈ L

theorem WriteLocked.mono {L L' : List (ρ × LockMode)} {r : ρ} (h : WriteLocked L r)
    (hsub : L ⊆ L') : WriteLocked L' r := by
  obtain ⟨m, hm, hmem⟩ := h
  exact ⟨m, hm, hsub hmem⟩

theorem WriteLocked.of_update {L : List (ρ × LockMode)} {r : ρ} (h : (r, .update) ∈ L) :
    WriteLocked L r := ⟨.update, by decide, h⟩

theorem Compatible.not_writeLocked {L L' : List (ρ × LockMode)} (h : Compatible L L') {r : ρ}
    (hr : WriteLocked L r) : ¬ WriteLocked L' r := by
  rintro ⟨m', hm', hmem'⟩
  obtain ⟨m, hm, hmem⟩ := hr
  have hconflict : m.conflict m' = false := h _ hmem _ hmem' rfl
  clear hmem hmem' h
  revert hm hm' hconflict
  cases m <;> cases m' <;> decide

theorem Tx.bind_ret (t : Tx σ ρ ε α) : t.bind .ret = t := by
  induction t with
  | ret a => rfl
  | raise e => rfl
  | query q k ih => exact congrArg (Tx.query q) (funext ih)
  | lock rows k ih => exact congrArg (Tx.lock rows) ih
  | write f k ih => exact congrArg (Tx.write f) ih

theorem Tx.ret_bind {β : Type} (a : α) (g : α → Tx σ ρ ε β) : (Tx.ret a).bind g = g a := rfl

section Statements

variable {β : Type} {R G : Change σ ρ} {Q : α → σ → Prop} {J : σ → Prop}
  {held : List (ρ × LockMode)} {view : σ → σ}

theorem Tx.Asserts.select {q : σ → β} {k : β → Tx σ ρ ε α} (A : β → σ → Prop)
    (hread : ∀ s, J s → A (q (view s)) s) (hkept : ∀ b, R.Keeps held (A b))
    (hrest : ∀ b, (k b).Asserts R G Q (A b) held view) :
    ((Tx.select q).bind k).Asserts R G Q J held view := ⟨A, hread, hkept, hrest⟩

theorem Tx.Asserts.select_fact {q : σ → β} {k : β → Tx σ ρ ε α} (P : β → Prop)
    (hP : ∀ s, J s → P (q (view s))) (hJ : R.Keeps held J)
    (hrest : ∀ b, P b → (k b).Asserts R G Q J held view) :
    ((Tx.select q).bind k).Asserts R G Q J held view :=
  ⟨fun b s => J s ∧ P b, fun s hs => ⟨hs, hP s hs⟩, fun b => hJ.and (R.keeps_const held (P b)),
    fun b => Tx.Asserts.of_and (hrest b)⟩

theorem Tx.Asserts.select_any {q : σ → β} {k : β → Tx σ ρ ε α} (hJ : R.Keeps held J)
    (hrest : ∀ b, (k b).Asserts R G Q J held view) :
    ((Tx.select q).bind k).Asserts R G Q J held view :=
  Tx.Asserts.select_fact (fun _ => True) (fun _ _ => trivial) hJ fun b _ => hrest b

theorem Tx.Asserts.selectForUpdate {row : ρ} {q : List ρ → σ → β} {k : β → Tx σ ρ ε α}
    (A : β → σ → Prop) (hJ : R.Keeps held J) (hread : ∀ s, J s → A (q [row] (view s)) s)
    (hkept : ∀ b, R.Keeps ((row, .update) :: held) (A b))
    (hrest : ∀ b, (k b).Asserts R G Q (A b) ((row, .update) :: held) view) :
    ((Tx.selectForUpdate (fun _ => [row]) q).bind k).Asserts R G Q J held view := by
  refine ⟨fun rows s => J s ∧ rows = [row], fun s hs => ⟨hs, rfl⟩,
    fun rows => hJ.and (R.keeps_const held _), fun rows => Tx.Asserts.of_and ?_⟩
  rintro rfl
  exact ⟨A, hread, hkept, hrest⟩

theorem Tx.Asserts.update {g : σ → σ} {k : Unit → Tx σ ρ ε α}
    (hrest : (k ()).Asserts R G Q J held fun s => g (view s)) :
    ((Tx.update g).bind k).Asserts R G Q J held view := hrest

theorem Tx.Asserts.updates {g : β → σ → σ} {k : Unit → Tx σ ρ ε α} (bs : List β)
    (hrest : (k ()).Asserts R G Q J held fun s => bs.foldl (fun t b => g b t) (view s)) :
    ((Tx.forEach (fun b => Tx.update (g b)) bs : Tx σ ρ ε Unit).bind k).Asserts R G Q J held
      view := by
  induction bs generalizing view with
  | nil => exact hrest
  | cons b bs ih => exact ih hrest

theorem Tx.Asserts.lockRows {m : LockMode} {rows : List ρ} {k : Unit → Tx σ ρ ε α}
    (hrest : (k ()).Asserts R G Q J (rows.map (fun r => (r, m)) ++ held) view) :
    ((Tx.lockRows m rows).bind k).Asserts R G Q J held view := hrest

theorem Tx.Asserts.lockFound {find : σ → List ρ} {q : List ρ → σ → β} {k : β → Tx σ ρ ε α}
    (A : List ρ → σ → Prop) (hfind : ∀ s, J s → A (find (view s)) s)
    (hkept : ∀ rows, R.Keeps held (A rows))
    (hrest : ∀ rows, ((Tx.select (q rows)).bind k).Asserts R G Q (A rows)
      (rows.map (fun r => (r, .update)) ++ held) view) :
    ((Tx.selectForUpdate find q).bind k).Asserts R G Q J held view := ⟨A, hfind, hkept, hrest⟩

end Statements

theorem Program.Keeps.asserts {κ : Type} {part : σ → κ} {R G : Change σ ρ} {J : σ → Prop}
    (hcommit : ∀ held s s', J s → part s' = part s → G held s s')
    (hafter : ∀ s s', J s → part s' = part s → J s') (hJ : R.Keeps [] J) {p : Program σ ρ ε α}
    (h : p.Keeps part) : p.Asserts R G (fun _ _ => True) J := by
  induction p with
  | ret a => exact fun _ _ => trivial
  | raise e => trivial
  | peek q k ih => exact Program.Asserts.peek_any hJ fun b => ih b (h b)
  | atomic body k ih =>
    refine ⟨fun _ => J, ?_, fun _ => hJ, fun b => ih b (h.2 b)⟩
    exact Tx.Writes.asserts (W := fun s s' => part s' = part s) (fun _ => rfl)
      (fun _ _ _ h₁ h₂ => h₂.trans h₁) hcommit (fun _ => hafter) hJ
      (h.1.writes fun _ _ heq => heq)

/-- A commit of another client, on a store that satisfies the invariant, that leaves the client
calm. -/
def others (Gs : ℕ → Change σ ρ) (I : σ → Prop) (calm : ℕ → σ → σ → Prop) (i : ℕ) : Change σ ρ :=
  fun L s s' => I s ∧ calm i s s' ∧ ∃ j, j ≠ i ∧ Gs j L s s'

variable {Gs : ℕ → Change σ ρ} {I : σ → Prop} {calm : ℕ → σ → σ → Prop}

theorem others_keeps (hG : ∀ i L s s', Gs i L s s' → I s → I s') (i : ℕ)
    (held : List (ρ × LockMode)) : (others Gs I calm i).Keeps held I := by
  intro L s s' _ h hs
  obtain ⟨-, -, j, -, hcommit⟩ := h
  exact hG j L s s' hcommit hs

theorem others_keeps_of {A : σ → Prop} {held : List (ρ × LockMode)} {i : ℕ}
    (hG : ∀ i L s s', Gs i L s s' → I s → I s')
    (h : ∀ j L s s', j ≠ i → Compatible held L → Gs j L s s' → calm i s s' → I s → A s → A s') :
    (others Gs I calm i).Keeps held fun s => I s ∧ A s := by
  intro L s s' hcompat hothers hs
  obtain ⟨-, hcalm, j, hj, hcommit⟩ := hothers
  exact ⟨hG j L s s' hcommit hs.1, h j L s s' hj hcompat hcommit hcalm hs.1 hs.2⟩

theorem others_of_commit (i j : ℕ) (L : List (ρ × LockMode)) (s s' : σ) (hij : i ≠ j)
    (hcommit : Gs i L s s') (_ : True) (hs : I s) (hcalm : calm j s s') :
    others Gs I calm j L s s' :=
  ⟨hs, hcalm, i, hij, hcommit⟩

variable [DecidableEq ρ]

theorem Config.calmRun_of_forall {entry : ℕ → σ → Prop} (hentry : ∀ i s, entry i s)
    (hcalm : ∀ i s s', calm i s s') (sched begun : List ℕ) (c : Config σ ρ ε α) :
    c.CalmRun entry calm begun sched := by
  induction sched generalizing begun c with
  | nil => trivial
  | cons i is ih =>
    exact ⟨fun _ => hentry i _, fun c' _ => ⟨fun j _ _ => hcalm j _ _, ih _ c'⟩⟩

section

variable (hG : ∀ i L s s', Gs i L s s' → I s → I s') {ps : List (Program σ ρ ε α)}
  (hps : ∀ (i : ℕ) (p : Program σ ρ ε α), ps[i]? = some p →
    p.Asserts (others Gs I calm i) (Gs i) (fun _ _ => True) I)
include hG hps

omit [DecidableEq ρ] in
theorem annotated_of_guarantees (i : ℕ) (p : Program σ ρ ε α) (s : σ) (hp : ps[i]? = some p)
    (hs : I s) (_ : True) : ∃ K : σ → Prop, K s ∧ (others Gs I calm i).Keeps [] K ∧
      p.Asserts (others Gs I calm i) (Gs i) (fun _ _ => True) K :=
  ⟨I, hs, others_keeps hG i [], hps i p hp⟩

/-- **Every commit of a calm run is one that its client has promised**, and the invariant holds
before and after it. -/
theorem Config.step_of_guarantees {s : σ} (hs : I s) {sched : List ℕ} {i : ℕ}
    {c₁ c₂ : Config σ ρ ε α} (h₁ : (Config.start s ps).exec sched = some c₁)
    (h₂ : c₁.step i = some c₂)
    (hcalm : (Config.start s ps).CalmRun (fun _ _ => True) calm [] (sched ++ [i])) :
    I c₁.store ∧ I c₂.store ∧ (c₂.store = c₁.store ∨ ∃ L, Gs i L c₁.store c₂.store) := by
  have hstart : (Config.start s ps).Annotated (others Gs I calm) Gs (fun _ _ _ => True) ps [] :=
    Config.annotated_start s
  have hany : (Config.start s ps).EachStep (fun _ _ => True) (sched ++ [i]) :=
    Config.eachStep_of_forall (fun _ _ => trivial) _ _
  exact hstart.last_step (fun i L s s' hcommit _ hs => hG i L s s' hcommit hs) others_of_commit
    (annotated_of_guarantees hG hps) sched h₁ h₂ hcalm hany hs

theorem Config.invariant_of_guarantees {s : σ} (hs : I s) {sched : List ℕ} {c : Config σ ρ ε α}
    (h : (Config.start s ps).exec sched = some c)
    (hcalm : (Config.start s ps).CalmRun (fun _ _ => True) calm [] sched) : I c.store := by
  have hstart : (Config.start s ps).Annotated (others Gs I calm) Gs (fun _ _ _ => True) ps [] :=
    Config.annotated_start s
  have hany : (Config.start s ps).EachStep (fun _ _ => True) sched :=
    Config.eachStep_of_forall (fun _ _ => trivial) _ _
  have hcommits : ∀ (i : ℕ) (L : List (ρ × LockMode)) (s s' : σ), Gs i L s s' → True → I s →
      I s' ∧ True := fun i L s s' hcommit _ hs => ⟨hG i L s s' hcommit hs, trivial⟩
  exact (Config.Annotated.exec (fun _ => trivial) (fun _ _ _ _ _ => trivial) hcommits others_of_commit
    (annotated_of_guarantees hG hps) sched h hcalm hany hstart hs).2.1

end

end ReadCommitted
