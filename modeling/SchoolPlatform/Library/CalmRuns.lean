import SchoolPlatform.Library.RelyGuarantee

/-!
# Assertions on the committed store, along calm runs

`Tx.Asserts` and `Program.Asserts` annotate a client with assertions on the committed store. A
query leaves what it has shown, as far as the commits of others keep it; a commit has to be one
that the guarantee `G` allows. What a client relies on is a relation of its own: it may ask more
of the commits of others than their guarantee, as long as the run promises it.

That promise is `Config.CalmRun`: each client begins on a store that meets its entry condition,
and no commit disturbs another client that is under way; and `Config.EachStep`, what every statement
of the run does to the store. `Config.Annotated.exec` is the soundness of assertions along such
runs.
-/

namespace ReadCommitted

variable {σ ρ ε α β : Type}

variable {held : List (ρ × LockMode)} {Q : α → σ → Prop} {J : σ → Prop} {view : σ → σ}
  {t : Tx σ ρ ε α} {K : σ → Prop} {p : Program σ ρ ε α} {W : σ → σ → Prop} {s s' : σ}
  {c : Config σ ρ ε α} {l l' : List ℕ} {c' : Config σ ρ ε α}

/-- What a commit made under some locks may do to the committed store. -/
abbrev Change (σ ρ : Type) := List (ρ × LockMode) → σ → σ → Prop

/-- Commits of those who hold no conflicting lock keep the assertion. -/
def Change.Keeps (R : Change σ ρ) (held : List (ρ × LockMode)) (A : σ → Prop) : Prop :=
  ∀ (L : List (ρ × LockMode)) (s s' : σ), Compatible held L → R L s s' → A s → A s'

theorem Change.Keeps.mono {R : Change σ ρ} {held' : List (ρ × LockMode)} {A : σ → Prop}
    (h : R.Keeps held A) (hsub : held ⊆ held') : R.Keeps held' A :=
  fun L s s' hcompat hR hA => h L s s' (hcompat.mono hsub) hR hA

theorem Change.Keeps.and {R : Change σ ρ} {A B : σ → Prop} (hA : R.Keeps held A)
    (hB : R.Keeps held B) : R.Keeps held fun s => A s ∧ B s :=
  fun L s s' hcompat hR h => ⟨hA L s s' hcompat hR h.1, hB L s s' hcompat hR h.2⟩

theorem Change.keeps_const (R : Change σ ρ) (held : List (ρ × LockMode)) (p : Prop) :
    R.Keeps held fun _ => p := fun _ _ _ _ _ h => h

/-- A transaction body entered with the assertion `J`, some locks and the changes made so far,
which establishes `Q` by a commit that `G` allows. -/
def Tx.Asserts (R G : Change σ ρ) (Q : α → σ → Prop) :
    (σ → Prop) → List (ρ × LockMode) → (σ → σ) → Tx σ ρ ε α → Prop
  | J, held, view, .ret a => ∀ s, J s → G held s (view s) ∧ Q a (view s)
  | _, _, _, .raise _ => True
  | J, held, view, .query q k =>
    ∃ J' : _ → σ → Prop, (∀ s, J s → J' (q (view s)) s) ∧ (∀ b, R.Keeps held (J' b)) ∧
      ∀ b, (k b).Asserts R G Q (J' b) held view
  | J, held, view, .lock rows k => k.Asserts R G Q J (rows ++ held) view
  | J, held, view, .write f k => k.Asserts R G Q J held fun s => f (view s)

/-- A program entered with the assertion `K`, which returns with `Post`. -/
def Program.Asserts (R G : Change σ ρ) (Post : α → σ → Prop) :
    (σ → Prop) → Program σ ρ ε α → Prop
  | K, .ret a => ∀ s, K s → Post a s
  | _, .raise _ => True
  | K, .peek q k =>
    ∃ K' : _ → σ → Prop, (∀ s, K s → K' (q s) s) ∧ (∀ b, R.Keeps [] (K' b)) ∧
      ∀ b, (k b).Asserts R G Post (K' b)
  | K, .atomic body k =>
    ∃ Q : _ → σ → Prop, body.Asserts R G Q K [] (fun s => s) ∧ (∀ b, R.Keeps [] (Q b)) ∧
      ∀ b, (k b).Asserts R G Post (Q b)

variable {R G : Change σ ρ}

/-! ## Rules -/

theorem Tx.Asserts.mono {J' : σ → Prop} (hJ : ∀ s, J' s → J s) (h : t.Asserts R G Q J held view) :
    t.Asserts R G Q J' held view := by
  induction t generalizing J J' held view with
  | ret a => exact fun s hs => h s (hJ s hs)
  | raise e => trivial
  | query q k ih =>
    obtain ⟨J₁, hread, hkept, hrest⟩ := h
    exact ⟨J₁, fun s hs => hread s (hJ s hs), hkept, hrest⟩
  | lock rows k ih => exact ih hJ h
  | write f k ih => exact ih hJ h

theorem Program.Asserts.mono {Post : α → σ → Prop} {K' : σ → Prop} (hK : ∀ s, K' s → K s)
    (h : p.Asserts R G Post K) : p.Asserts R G Post K' := by
  cases p with
  | ret a => exact fun s hs => h s (hK s hs)
  | raise e => trivial
  | peek q k =>
    obtain ⟨K₁, hread, hkept, hrest⟩ := h
    exact ⟨K₁, fun s hs => hread s (hK s hs), hkept, hrest⟩
  | atomic body k =>
    obtain ⟨Q, hbody, hkept, hrest⟩ := h
    exact ⟨Q, hbody.mono hK, hkept, hrest⟩

theorem Tx.Asserts.post {Q' : α → σ → Prop} (h : t.Asserts R G Q J held view)
    (hQ : ∀ a s, Q a s → Q' a s) : t.Asserts R G Q' J held view := by
  induction t generalizing J held view with
  | ret a => exact fun s hs => ⟨(h s hs).1, hQ a _ (h s hs).2⟩
  | raise e => trivial
  | query q k ih =>
    obtain ⟨J', hread, hkept, hrest⟩ := h
    exact ⟨J', hread, hkept, fun b => ih b (hrest b)⟩
  | lock rows k ih => exact ih h
  | write f k ih => exact ih h

theorem Tx.Asserts.exists {ι : Type} {Q : ι → α → σ → Prop} {J : ι → σ → Prop}
    (h : ∀ i, t.Asserts R G (Q i) (J i) held view) :
    t.Asserts R G (fun a s => ∃ i, Q i a s) (fun s => ∃ i, J i s) held view := by
  induction t generalizing J held view with
  | ret a =>
    rintro s ⟨i, hs⟩
    exact ⟨(h i s hs).1, i, (h i s hs).2⟩
  | raise e => trivial
  | query q k ih =>
    choose J' hread hkept hrest using h
    refine ⟨fun b s => ∃ i, J' i b s, ?_, ?_, fun b => ih b fun i => hrest i b⟩
    · rintro s ⟨i, hs⟩
      exact ⟨i, hread i s hs⟩
    · rintro b L s s' hcompat hR ⟨i, hs⟩
      exact ⟨i, hkept i b L s s' hcompat hR hs⟩
  | lock rows k ih => exact ih h
  | write f k ih => exact ih h

theorem Program.Asserts.exists {ι : Type} {Post : α → σ → Prop} {K : ι → σ → Prop}
    (h : ∀ i, p.Asserts R G Post (K i)) : p.Asserts R G Post fun s => ∃ i, K i s := by
  induction p generalizing K with
  | ret a =>
    rintro s ⟨i, hs⟩
    exact h i s hs
  | raise e => trivial
  | peek q k ih =>
    choose K' hread hkept hrest using h
    refine ⟨fun b s => ∃ i, K' i b s, ?_, ?_, fun b => ih b fun i => hrest i b⟩
    · rintro s ⟨i, hs⟩
      exact ⟨i, hread i s hs⟩
    · rintro b L s s' hcompat hR ⟨i, hs⟩
      exact ⟨i, hkept i b L s s' hcompat hR hs⟩
  | atomic body k ih =>
    choose Q hbody hkept hrest using h
    refine ⟨fun b s => ∃ i, Q i b s, Tx.Asserts.exists hbody, ?_, fun b => ih b fun i => hrest i b⟩
    rintro b L s s' hcompat hR ⟨i, hs⟩
    exact ⟨i, hkept i b L s s' hcompat hR hs⟩

theorem Program.Asserts.of_and {Post : α → σ → Prop} {c : Prop} (h : c → p.Asserts R G Post K) :
    p.Asserts R G Post fun s => K s ∧ c := by
  have hcases : p.Asserts R G Post fun s => ∃ _ : PLift c, K s := by
    induction p generalizing K with
    | ret a =>
      rintro s ⟨⟨hc⟩, hs⟩
      exact h hc s hs
    | raise e => trivial
    | peek q k ih => exact Program.Asserts.exists fun i : PLift c => h i.down
    | atomic body k ih => exact Program.Asserts.exists fun i : PLift c => h i.down
  exact hcases.mono fun s hs => ⟨⟨hs.2⟩, hs.1⟩

theorem Tx.Asserts.of_and {c : Prop} (h : c → t.Asserts R G Q J held view) :
    t.Asserts R G Q (fun s => J s ∧ c) held view := by
  have hcases : t.Asserts R G (fun a s => ∃ _ : PLift c, Q a s) (fun s => ∃ _ : PLift c, J s)
      held view := Tx.Asserts.exists fun i => h i.down
  refine (hcases.mono fun s hs => ⟨⟨hs.2⟩, hs.1⟩).post fun a s hQ => ?_
  exact hQ.choose_spec

theorem Tx.Asserts.of_false (h : ∀ s, J s → False) : t.Asserts R G Q J held view := by
  induction t generalizing J held view with
  | ret a => exact fun s hs => (h s hs).elim
  | raise e => trivial
  | query q k ih =>
    refine ⟨fun _ _ => False, fun s hs => h s hs, fun _ _ _ _ _ _ hfalse => hfalse, fun b => ?_⟩
    exact ih b fun _ hfalse => hfalse
  | lock rows k ih => exact ih h
  | write f k ih => exact ih h

theorem Program.Asserts.peek {Post : α → σ → Prop} {q : σ → β} {k : β → Program σ ρ ε α}
    (P : β → Prop) (hP : ∀ s, K s → P (q s)) (hK : R.Keeps [] K)
    (hrest : ∀ b, P b → (k b).Asserts R G Post K) : (Program.peek q k).Asserts R G Post K :=
  ⟨fun b s => K s ∧ P b, fun s hs => ⟨hs, hP s hs⟩, fun b => hK.and (R.keeps_const [] (P b)),
    fun b => Program.Asserts.of_and (hrest b)⟩

theorem Program.Asserts.peek_any {Post : α → σ → Prop} {q : σ → β} {k : β → Program σ ρ ε α}
    (hK : R.Keeps [] K) (hrest : ∀ b, (k b).Asserts R G Post K) :
    (Program.peek q k).Asserts R G Post K :=
  Program.Asserts.peek (fun _ => True) (fun _ _ => trivial) hK fun b _ => hrest b

theorem Program.Asserts.bind {Mid : α → σ → Prop} {Post : β → σ → Prop} {g : α → Program σ ρ ε β}
    (hp : p.Asserts R G Mid K) (hg : ∀ a, (g a).Asserts R G Post (Mid a)) :
    (p.bind g).Asserts R G Post K := by
  induction p generalizing K with
  | ret a => exact (hg a).mono hp
  | raise e => trivial
  | peek q k ih =>
    obtain ⟨K', hread, hkept, hrest⟩ := hp
    exact ⟨K', hread, hkept, fun b => ih b (hrest b)⟩
  | atomic body k ih =>
    obtain ⟨Q, hbody, hkept, hrest⟩ := hp
    exact ⟨Q, hbody, hkept, fun b => ih b (hrest b)⟩

theorem Program.Asserts.post {Mid Post : α → σ → Prop} (hp : p.Asserts R G Mid K)
    (h : ∀ a s, Mid a s → Post a s) : p.Asserts R G Post K := by
  induction p generalizing K with
  | ret a => exact fun s hs => h a s (hp s hs)
  | raise e => trivial
  | peek q k ih =>
    obtain ⟨K', hread, hkept, hrest⟩ := hp
    exact ⟨K', hread, hkept, fun b => ih b (hrest b)⟩
  | atomic body k ih =>
    obtain ⟨Q, hbody, hkept, hrest⟩ := hp
    exact ⟨Q, hbody, hkept, fun b => ih b (hrest b)⟩

/-! ## Bodies of which only the changes matter -/

/-- Every change of the body takes a store to one that `W` relates to it. -/
def Tx.Writes (W : σ → σ → Prop) : Tx σ ρ ε α → Prop
  | .ret _ => True
  | .raise _ => True
  | .query _ k => ∀ b, (k b).Writes W
  | .lock _ k => k.Writes W
  | .write f k => (∀ s, W s (f s)) ∧ k.Writes W

theorem Tx.Writes.bind {g : α → Tx σ ρ ε β} (ht : t.Writes W) (hg : ∀ a, (g a).Writes W) :
    (t.bind g).Writes W := by
  induction t with
  | ret a => exact hg a
  | raise e => trivial
  | query q k ih => exact fun b => ih b (ht b)
  | lock rows k ih => exact ih ht
  | write f k ih => exact ⟨ht.1, ih ht.2⟩

theorem Tx.Writes.select (q : σ → α) :
    (Tx.select q : Tx σ ρ ε α).Writes W := fun _ => trivial

theorem Tx.Writes.lockRows (m : LockMode) (rows : List ρ) :
    (Tx.lockRows m rows : Tx σ ρ ε Unit).Writes W := trivial

theorem Tx.Writes.update {f : σ → σ} (h : ∀ s, W s (f s)) :
    (Tx.update f : Tx σ ρ ε Unit).Writes W := ⟨h, trivial⟩

theorem Tx.Writes.updateWhere {find : σ → List ρ} {f : List ρ → σ → σ}
    (h : ∀ rows s, W s (f rows s)) : (Tx.updateWhere find f : Tx σ ρ ε Unit).Writes W :=
  fun rows => ⟨h rows, trivial⟩

theorem Tx.Writes.forEach {body : β → Tx σ ρ ε Unit} (h : ∀ b, (body b).Writes W) (bs : List β) :
    (Tx.forEach body bs).Writes W := by
  induction bs with
  | nil => trivial
  | cons b bs ih => exact (h b).bind fun _ => ih

theorem Tx.Keeps.writes {κ : Type} {part : σ → κ} (hW : ∀ s s', part s' = part s → W s s')
    (h : t.Keeps part) : t.Writes W := by
  induction t with
  | ret a => trivial
  | raise e => trivial
  | query q k ih => exact fun b => ih b (h b)
  | lock rows k ih => exact ih h
  | write f k ih => exact ⟨fun s => hW s (f s) (h.1 s), ih h.2⟩

theorem Tx.Writes.eval (hrefl : ∀ s, W s s) (htrans : ∀ s t u, W s t → W t u → W s u)
    (h : t.Writes W) {a : α} (heval : t.eval s = .ok (a, s')) : W s s' := by
  induction t generalizing s with
  | ret b =>
    simp only [Tx.eval_ret, Except.ok.injEq, Prod.mk.injEq] at heval
    rw [← heval.2]
    exact hrefl s
  | raise e => simp at heval
  | query q k ih => exact ih (q s) (h (q s)) heval
  | lock rows k ih => exact ih h heval
  | write f k ih => exact htrans _ _ _ (h.1 s) (ih h.2 heval)

theorem Tx.Writes.asserts (hrefl : ∀ s, W s s) (htrans : ∀ s t u, W s t → W t u → W s u)
    (hcommit : ∀ held s s', J s → W s s' → G held s s') (hpost : ∀ a s s', J s → W s s' → Q a s')
    (hJ : R.Keeps held J) (h : t.Writes W) : t.Asserts R G Q J held fun s => s := by
  suffices hview : ∀ (held' : List (ρ × LockMode)) (view : σ → σ), held ⊆ held' →
      (∀ s, W s (view s)) → t.Asserts R G Q J held' view from
    hview held _ (List.Subset.refl _) hrefl
  induction t with
  | ret a =>
    intro held' view _ hview s hs
    exact ⟨hcommit held' s _ hs (hview s), hpost a s _ hs (hview s)⟩
  | raise e => exact fun _ _ _ _ => trivial
  | query q k ih =>
    intro held' view hsub hview
    exact ⟨fun _ => J, fun s hs => hs, fun _ => hJ.mono hsub,
      fun b => ih b (h b) held' view hsub hview⟩
  | lock rows k ih =>
    intro held' view hsub hview
    exact ih h (rows ++ held') view (List.Subset.trans hsub (List.subset_append_right _ _)) hview
  | write f k ih =>
    intro held' view hsub hview
    exact ih h.2 held' _ hsub fun s => htrans _ _ _ (hview s) (h.1 _)

/-- A thread in the middle of an annotated program, on the committed store `s`. -/
inductive ThreadAsserts (R G : Change σ ρ) (Post : α → σ → Prop) (s : σ)
    (th : Thread σ ρ ε α) : Prop
  | idle (p : Program σ ρ ε α) (K : σ → Prop) (phase : th.phase = .idle p)
      (pending : th.pending = []) (held : th.held = []) (holds : K s) (kept : R.Keeps [] K)
      (asserts : p.Asserts R G Post K)
  | busy (γ : Type) (rest : Tx σ ρ ε γ) (k : γ → Program σ ρ ε α) (J : σ → Prop)
      (Q : γ → σ → Prop) (phase : th.phase = .busy rest k) (holds : J s)
      (kept : R.Keeps th.held J) (asserts : rest.Asserts R G Q J th.held th.view)
      (later : ∀ b, R.Keeps [] (Q b)) (follows : ∀ b, (k b).Asserts R G Post (Q b))

theorem ThreadAsserts.interfere {Post : α → σ → Prop} {th : Thread σ ρ ε α}
    {L : List (ρ × LockMode)} (h : ThreadAsserts R G Post s th) (hcompat : Compatible th.held L)
    (hR : R L s s') : ThreadAsserts R G Post s' th := by
  cases h with
  | idle p K phase pending held holds kept asserts =>
    have hK := kept L s s' (by simp [Compatible]) hR holds
    exact .idle p K phase pending held hK kept asserts
  | busy γ rest k J Q phase holds kept asserts later follows =>
    exact .busy γ rest k J Q phase (kept L s s' hcompat hR holds) kept asserts later follows

theorem ThreadAsserts.move {Post : α → σ → Prop} {th th' : Thread σ ρ ε α}
    {free : List (ρ × LockMode) → Bool} (h : ThreadAsserts R G Post s th)
    (hmove : th.move free s = some (th', s')) :
    ThreadAsserts R G Post s' th' ∧ (s' = s ∨ G th.held s s') := by
  cases h with
  | idle p K phase pending held holds kept asserts =>
    unfold Thread.move at hmove
    rw [phase] at hmove
    cases p with
    | ret a => cases hmove
    | raise e => cases hmove
    | peek q k =>
      cases hmove
      obtain ⟨K', hread, hkept, hrest⟩ := asserts
      exact ⟨.idle _ (K' (q s)) rfl pending held (hread s holds) (hkept _) (hrest _), .inl rfl⟩
    | atomic body k =>
      cases hmove
      obtain ⟨Q, hbody, hkept, hrest⟩ := asserts
      refine ⟨.busy _ body k K Q rfl holds (kept.mono (List.nil_subset _)) ?_ hkept hrest, .inl rfl⟩
      show body.Asserts R G Q K th.held th.view
      rw [held, Thread.view_of_none pending]
      exact hbody
  | busy γ rest k J Q phase holds kept asserts later follows =>
    unfold Thread.move at hmove
    rw [phase] at hmove
    cases rest with
    | ret b =>
      cases hmove
      obtain ⟨hcommit, hQ⟩ := asserts s holds
      exact ⟨.idle (k b) (Q b) rfl rfl rfl hQ (later b) (follows b), .inr hcommit⟩
    | raise e =>
      cases hmove
      exact ⟨.idle (.raise e) (fun _ => True) rfl rfl rfl trivial (R.keeps_const [] True) trivial,
        .inl rfl⟩
    | query q k' =>
      cases hmove
      obtain ⟨J', hread, hkept, hrest⟩ := asserts
      exact ⟨.busy γ _ k (J' (q (th.view s))) Q rfl (hread s holds) (hkept _) (hrest _) later
        follows, .inl rfl⟩
    | lock rows k' =>
      simp only at hmove
      split at hmove
      · cases hmove
        exact ⟨.busy γ k' k J Q rfl holds (kept.mono (List.subset_append_right _ _)) asserts later
          follows, .inl rfl⟩
      · cases hmove
    | write f k' =>
      cases hmove
      refine ⟨.busy γ k' k J Q rfl holds kept ?_ later follows, .inl rfl⟩
      rw [Thread.view_write]
      exact asserts

/-! ## Runs -/

section Runs

variable [DecidableEq ρ]

/-- A client that has begun and has not ended. -/
def Config.UnderWay (c : Config σ ρ ε α) (begun : List ℕ) (j : ℕ) : Prop :=
  j ∈ begun ∧ ∀ th, c.threads[j]? = some th → th.ended = false

/-- Each client begins on a store that meets its entry condition, and no step disturbs another
client that is under way. -/
def Config.CalmRun (entry : ℕ → σ → Prop) (calm : ℕ → σ → σ → Prop) :
    List ℕ → Config σ ρ ε α → List ℕ → Prop
  | _, _, [] => True
  | begun, c, i :: is =>
    (i ∉ begun → entry i c.store) ∧ ∀ c', c.step i = some c' →
      (∀ j, j ≠ i → c.UnderWay begun j → calm j c.store c'.store) ∧
        c'.CalmRun entry calm (i :: begun) is

theorem Config.CalmRun.of_append {entry : ℕ → σ → Prop} {calm : ℕ → σ → σ → Prop} {begun : List ℕ}
    (h : c.CalmRun entry calm begun (l ++ l')) : c.CalmRun entry calm begun l := by
  induction l generalizing begun c with
  | nil => trivial
  | cons i is ih =>
    exact ⟨h.1, fun c' hstep => ⟨(h.2 c' hstep).1, ih (h.2 c' hstep).2⟩⟩

/-- What `CalmRun` says, as it is evaluated. -/
def Config.checkCalm (entry : ℕ → σ → Prop) (calm : ℕ → σ → σ → Prop)
    [∀ i s, Decidable (entry i s)] [∀ i s s', Decidable (calm i s s')] :
    List ℕ → Config σ ρ ε α → List ℕ → Bool
  | _, _, [] => true
  | begun, c, i :: is =>
    (decide (i ∈ begun) || decide (entry i c.store)) &&
    match c.step i with
    | none => true
    | some c' =>
      (begun.all fun j => decide (j = i) || (c.threads[j]?).any Thread.ended ||
        decide (calm j c.store c'.store)) && c'.checkCalm entry calm (i :: begun) is

theorem Config.calmRun_of_check {entry : ℕ → σ → Prop} {calm : ℕ → σ → σ → Prop}
    [∀ i s, Decidable (entry i s)] [∀ i s s', Decidable (calm i s s')] (sched : List ℕ)
    {begun : List ℕ} (h : c.checkCalm entry calm begun sched = true) :
    c.CalmRun entry calm begun sched := by
  induction sched generalizing begun c with
  | nil => trivial
  | cons i is ih =>
    unfold Config.checkCalm at h
    rw [Bool.and_eq_true, Bool.or_eq_true, decide_eq_true_eq, decide_eq_true_eq] at h
    refine ⟨fun hi => h.1.resolve_left hi, fun c' hstep => ?_⟩
    have hrest := h.2
    rw [hstep] at hrest
    simp only [Bool.and_eq_true, List.all_eq_true, Bool.or_eq_true, decide_eq_true_eq] at hrest
    refine ⟨fun j hji hway => ?_, ih hrest.2⟩
    rcases hrest.1 j hway.1 with (heq | hended) | hcalm
    · exact absurd heq hji
    · cases hth : c.threads[j]? with
      | none =>
        rw [hth] at hended
        cases hended
      | some th =>
        rw [hth] at hended
        have hnot := hway.2 th hth
        have hyes : th.ended = true := hended
        rw [hnot] at hyes
        cases hyes
    · exact hcalm

/-- Every statement of the run takes the store to one that `ok` relates to it. -/
def Config.EachStep (ok : σ → σ → Prop) : Config σ ρ ε α → List ℕ → Prop
  | _, [] => True
  | c, i :: is => ∀ c', c.step i = some c' → ok c.store c'.store ∧ c'.EachStep ok is

theorem Config.eachStep_of_forall {ok : σ → σ → Prop} (h : ∀ s s', ok s s') (sched : List ℕ)
    (c : Config σ ρ ε α) : c.EachStep ok sched := by
  induction sched generalizing c with
  | nil => trivial
  | cons i is ih => exact fun c' _ => ⟨h _ _, ih c'⟩

theorem Config.EachStep.of_append {ok : σ → σ → Prop} (h : c.EachStep ok (l ++ l')) :
    c.EachStep ok l := by
  induction l generalizing c with
  | nil => trivial
  | cons i is ih => exact fun c' hstep => ⟨(h c' hstep).1, ih (h c' hstep).2⟩

theorem Config.EachStep.of_exec {ok : σ → σ → Prop} (h : c.EachStep ok (l ++ l'))
    (hexec : c.exec l = some c') : c'.EachStep ok l' := by
  induction l generalizing c with
  | nil =>
    cases hexec
    exact h
  | cons i is ih =>
    simp only [Config.exec, Option.bind_eq_some_iff] at hexec
    obtain ⟨c₁, hstep, hrest⟩ := hexec
    exact ih (h c₁ hstep).2 hrest

/-- What `EachStep` says, as it is evaluated. -/
def Config.checkEachStep (ok : σ → σ → Prop) [∀ s s', Decidable (ok s s')] :
    Config σ ρ ε α → List ℕ → Bool
  | _, [] => true
  | c, i :: is =>
    match c.step i with
    | none => true
    | some c' => decide (ok c.store c'.store) && c'.checkEachStep ok is

theorem Config.eachStep_of_check {ok : σ → σ → Prop} [∀ s s', Decidable (ok s s')]
    (sched : List ℕ) (h : c.checkEachStep ok sched = true) : c.EachStep ok sched := by
  induction sched generalizing c with
  | nil => trivial
  | cons i is ih =>
    intro c' hstep
    unfold Config.checkEachStep at h
    rw [hstep, Bool.and_eq_true, decide_eq_true_eq] at h
    exact ⟨h.1, ih h.2⟩

/-- Clients that have not begun are at the start of their programs, and those under way are in
the middle of their annotated ones. Each client has a guarantee of its own. -/
structure Config.Annotated (R G : ℕ → Change σ ρ) (Post : ℕ → α → σ → Prop)
    (ps : List (Program σ ρ ε α)) (begun : List ℕ) (c : Config σ ρ ε α) : Prop where
  locks : c.LocksOk
  fresh : ∀ (i : ℕ) (th : Thread σ ρ ε α), c.threads[i]? = some th → i ∉ begun →
    ∃ p, ps[i]? = some p ∧ th = .start p
  going : ∀ (i : ℕ) (th : Thread σ ρ ε α), c.threads[i]? = some th → i ∈ begun →
    th.ended = false → ThreadAsserts (R i) (G i) (Post i) c.store th

variable {Rs Gs : ℕ → Change σ ρ} {Post : ℕ → α → σ → Prop} {ps : List (Program σ ρ ε α)}
  {begun : List ℕ} {entry : ℕ → σ → Prop} {calm : ℕ → σ → σ → Prop} {ok : σ → σ → Prop}
  {I : σ → Prop}

omit [DecidableEq ρ] in
theorem Config.annotated_start (s : σ) : (Config.start s ps).Annotated Rs Gs Post ps [] where
  locks := Config.locksOk_start s ps
  fresh := by
    intro i th hth _
    simp only [Config.start, List.getElem?_map, Option.map_eq_some_iff] at hth
    obtain ⟨p, hp, hstart⟩ := hth
    exact ⟨p, hp, hstart.symm⟩
  going := by
    intro i th _ hi
    exact absurd hi List.not_mem_nil

theorem Config.Annotated.step {i : ℕ}
    (hR : ∀ i j L s s', i ≠ j → Gs i L s s' → ok s s' → I s → calm j s s' → Rs j L s s')
    (hps : ∀ i p s, ps[i]? = some p → I s → entry i s → ∃ K : σ → Prop, K s ∧ (Rs i).Keeps [] K ∧
      p.Asserts (Rs i) (Gs i) (Post i) K) (h : c.Annotated Rs Gs Post ps begun) (hI : I c.store)
    (hstep : c.step i = some c') (hentry : i ∉ begun → entry i c.store)
    (hok : ok c.store c'.store)
    (hcalm : ∀ j, j ≠ i → c.UnderWay begun j → calm j c.store c'.store) :
    c'.Annotated Rs Gs Post ps (i :: begun) ∧
      (c'.store = c.store ∨ ∃ L, Gs i L c.store c'.store) := by
  have hlocks := h.locks.step hstep
  obtain ⟨th, th', s', hth, hmove, rfl⟩ := Config.step_eq_some hstep
  have hending : th.ended = false := Thread.not_ended_of_move hmove
  have hasserts : ThreadAsserts (Rs i) (Gs i) (Post i) c.store th := by
    by_cases hi : i ∈ begun
    · exact h.going i th hth hi hending
    · obtain ⟨p, hp, rfl⟩ := h.fresh i th hth hi
      obtain ⟨K, hK, hkept, hp⟩ := hps i p c.store hp hI (hentry hi)
      exact .idle p K rfl rfl rfl hK hkept hp
  obtain ⟨hmoved, hstore⟩ := hasserts.move hmove
  have hother : ∀ (j : ℕ) (u : Thread σ ρ ε α), i ≠ j →
      (c.threads.set i th')[j]? = some u → c.threads[j]? = some u := by
    intro j u hij hu
    rwa [List.getElem?_set_ne hij] at hu
  refine ⟨⟨hlocks, ?_, ?_⟩, ?_⟩
  · intro j u hu hj
    have hij : i ≠ j := fun hij => hj (hij ▸ List.mem_cons_self)
    exact h.fresh j u (hother j u hij hu) fun hmem => hj (List.mem_cons_of_mem _ hmem)
  · intro j u hu hj hnot
    by_cases hij : i = j
    · subst hij
      rw [getElem?_set_of_some hth hu]
      exact hmoved
    · have hu' := hother j u hij hu
      have hj' : j ∈ begun := (List.mem_cons.mp hj).resolve_left (Ne.symm hij)
      have hbefore := h.going j u hu' hj' hnot
      rcases hstore with hsame | hcommit
      · show ThreadAsserts (Rs j) (Gs j) (Post j) s' u
        rw [hsame]
        exact hbefore
      · have hway : c.UnderWay begun j := by
          refine ⟨hj', fun v hv => ?_⟩
          rw [hu', Option.some.injEq] at hv
          exact hv ▸ hnot
        exact hbefore.interfere (h.locks j i u th (Ne.symm hij) hu' hth)
          (hR i j _ _ _ hij hcommit hok hI (hcalm j (Ne.symm hij) hway))
  · rcases hstore with hsame | hcommit
    · exact .inl hsame
    · exact .inr ⟨_, hcommit⟩

/-- **Soundness of assertions along calm runs.** The clients stay in the middle of their programs,
the invariant of the commits holds, and the store has only gone where the commits lead. -/
theorem Config.Annotated.exec {P : σ → σ → Prop} (hrefl : ∀ s, P s s)
    (htrans : ∀ s t u, P s t → P t u → P s u)
    (hG : ∀ i L s s', Gs i L s s' → ok s s' → I s → I s' ∧ P s s')
    (hR : ∀ i j L s s', i ≠ j → Gs i L s s' → ok s s' → I s → calm j s s' → Rs j L s s')
    (hps : ∀ i p s, ps[i]? = some p → I s → entry i s → ∃ K : σ → Prop, K s ∧ (Rs i).Keeps [] K ∧
      p.Asserts (Rs i) (Gs i) (Post i) K) (sched : List ℕ) (hexec : c.exec sched = some c')
    (hcalm : c.CalmRun entry calm begun sched) (hok : c.EachStep ok sched)
    (h : c.Annotated Rs Gs Post ps begun) (hI : I c.store) :
    (∃ begun', c'.Annotated Rs Gs Post ps begun' ∧
      ∀ rest, c.CalmRun entry calm begun (sched ++ rest) → c'.CalmRun entry calm begun' rest) ∧
        I c'.store ∧ P c.store c'.store := by
  induction sched generalizing c begun with
  | nil =>
    cases hexec
    exact ⟨⟨begun, h, fun rest hrest => hrest⟩, hI, hrefl _⟩
  | cons i is ih =>
    simp only [Config.exec, Option.bind_eq_some_iff] at hexec
    obtain ⟨c₁, hstep, hrest⟩ := hexec
    obtain ⟨hentry, hcalm⟩ := hcalm
    obtain ⟨hquiet, hcalm⟩ := hcalm c₁ hstep
    obtain ⟨hstepOk, hok⟩ := hok c₁ hstep
    obtain ⟨hannotated, hstore⟩ := h.step hR hps hI hstep hentry hstepOk hquiet
    have hnext : I c₁.store ∧ P c.store c₁.store := by
      rcases hstore with hsame | ⟨L, hcommit⟩
      · rw [hsame]
        exact ⟨hI, hrefl _⟩
      · exact hG i L _ _ hcommit hstepOk hI
    obtain ⟨⟨begun', hafter, hsuffix⟩, hI', hP⟩ := ih hrest hcalm hok hannotated hnext.1
    refine ⟨⟨begun', hafter, fun rest hall => hsuffix rest ?_⟩, hI', htrans _ _ _ hnext.2 hP⟩
    exact (hall.2 c₁ hstep).2

theorem Config.Annotated.last_step (hG : ∀ i L s s', Gs i L s s' → ok s s' → I s → I s')
    (hR : ∀ i j L s s', i ≠ j → Gs i L s s' → ok s s' → I s → calm j s s' → Rs j L s s')
    (hps : ∀ i p s, ps[i]? = some p → I s → entry i s → ∃ K : σ → Prop, K s ∧ (Rs i).Keeps [] K ∧
      p.Asserts (Rs i) (Gs i) (Post i) K) (sched : List ℕ) {i : ℕ} {c₁ c₂ : Config σ ρ ε α}
    (hexec : c.exec sched = some c₁) (hstep : c₁.step i = some c₂)
    (hcalm : c.CalmRun entry calm begun (sched ++ [i])) (hok : c.EachStep ok (sched ++ [i]))
    (h : c.Annotated Rs Gs Post ps begun) (hI : I c.store) :
    I c₁.store ∧ I c₂.store ∧ (c₂.store = c₁.store ∨ ∃ L, Gs i L c₁.store c₂.store) := by
  obtain ⟨⟨begun', hmiddle, hrest⟩, hI₁, -⟩ := Config.Annotated.exec
    (P := fun _ _ => True) (fun _ => trivial) (fun _ _ _ _ _ => trivial)
    (fun i L s s' hcommit hs hI => ⟨hG i L s s' hcommit hs hI, trivial⟩) hR hps sched hexec
    (Config.CalmRun.of_append hcalm) hok.of_append h hI
  obtain ⟨hentry, hquiet⟩ := hrest [i] hcalm
  have hlast := (hok.of_exec hexec c₂ hstep).1
  obtain ⟨-, hstore⟩ := hmiddle.step hR hps hI₁ hstep hentry hlast (hquiet c₂ hstep).1
  refine ⟨hI₁, ?_, hstore⟩
  rcases hstore with hsame | ⟨L, hcommit⟩
  · rw [hsame]
    exact hI₁
  · exact hG i L _ _ hcommit hlast hI₁

end Runs

end ReadCommitted
