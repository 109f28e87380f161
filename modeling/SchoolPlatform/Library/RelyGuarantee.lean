import SchoolPlatform.Library.Interleaving

/-!
# Rely and guarantee under READ COMMITTED

A `Discipline` says what a commit of a client that holds certain locks may do to the committed
store. Against a company that keeps to it, a client is reasoned about on its own: an assertion
that no other commit breaks while the client holds its locks is `Stable`, and an `Outline` carries
stable assertions through a program.

A transaction begins with queries whose answers may be out of date by the time it commits; they
only leave what they have shown (`Tx.Outline`). From some point on each answer stands until the
commit, because the locks protect what it depends on (`Tx.Steady`), and from there the
transaction acts as one step at its commit (`Tx.AtCommit`).

A commit may leave something to be done by a later transaction of the same client. A discipline
names such debts (`Discipline.owed`), and an outline says which of them its client has. A client
returns without debts, so when all have returned nothing is owed.

`Config.rely_guarantee` is the soundness of outlines.
-/

namespace ReadCommitted

variable {σ ρ τ ε α β : Type}

variable {L L' held : List (ρ × LockMode)} {t : Tx σ ρ ε α} {s s' : σ} {J J' : σ → Prop}
  {O O₁ : τ → Prop} {Post : α → σ → Prop} {th th' : Thread σ ρ ε α}
  {free : List (ρ × LockMode) → Bool} {c : Config σ ρ ε α} {i : ℕ} {c' : Config σ ρ ε α}

def Compatible (L L' : List (ρ × LockMode)) : Prop :=
  ∀ x ∈ L, ∀ y ∈ L', x.1 = y.1 → x.2.conflict y.2 = false

theorem Compatible.symm (h : Compatible L L') : Compatible L' L := by
  intro x hx y hy hxy
  have hconflict := h y hy x hx hxy.symm
  revert hconflict
  cases x.2 <;> cases y.2 <;> decide

theorem Compatible.mono {M : List (ρ × LockMode)} (h : Compatible L L') (hM : M ⊆ L) :
    Compatible M L' := fun x hx => h x (hM hx)

theorem Compatible.not_mem (h : Compatible L L') {r : ρ} (hr : (r, .update) ∈ L) (m : LockMode) :
    (r, m) ∉ L' := by
  intro hmem
  have hconflict := h _ hr _ hmem rfl
  cases m <;> cases hconflict

/-- The rules by which the clients of a store work beside each other: what a commit of a client
that holds certain locks may do, what is asked of the store when the holder of a lock commits,
and what a store may leave to be done. -/
structure Discipline (σ ρ τ : Type) where
  may : List (ρ × LockMode) → σ → σ → Prop
  asks : ρ × LockMode → σ → Prop
  owed : τ → σ → Prop
  may_mono : ∀ (L L' : List (ρ × LockMode)) (s s' : σ), L ⊆ L' → may L s s' → may L' s s'

/-- No commit of others breaks the assertion while these locks are held. -/
def Discipline.Stable (D : Discipline σ ρ τ) (held : List (ρ × LockMode)) (A : σ → Prop) : Prop :=
  ∀ (L : List (ρ × LockMode)) (s s' : σ), Compatible held L → D.may L s s' → A s → A s'

theorem Discipline.Stable.mono {D : Discipline σ ρ τ} {held' : List (ρ × LockMode)} {A : σ → Prop}
    (h : D.Stable held A) (hsub : held ⊆ held') : D.Stable held' A :=
  fun L s s' hcompat hmay hA => h L s s' (hcompat.mono hsub) hmay hA

/-! ## Outlines -/

/-- The locks that the body takes on its way through a store. -/
def Tx.locksOn : Tx σ ρ ε α → σ → List (ρ × LockMode)
  | .ret _, _ => []
  | .raise _, _ => []
  | .query q k, s => (k (q s)).locksOn s
  | .lock rows k, s => rows ++ k.locksOn s
  | .write f k, s => k.locksOn (f s)

/-- Every answer of the body stands until its commit: while the locks taken so far are held, no
commit of others changes it, as long as `J` holds. The changes made so far are `view`. -/
def Tx.Steady (D : Discipline σ ρ τ) (J : σ → Prop) :
    List (ρ × LockMode) → (σ → σ) → Tx σ ρ ε α → Prop
  | held, view, .query q k =>
    (∀ (L : List (ρ × LockMode)) (s s' : σ), Compatible held L → D.may L s s' → J s →
      q (view s') = q (view s)) ∧ ∀ b, (k b).Steady D J held view
  | held, view, .lock rows k => k.Steady D J (rows ++ held) view
  | held, view, .write f k => k.Steady D J held fun s => f (view s)
  | _, _, .ret _ => True
  | _, _, .raise _ => True

/-- The body asks the store nothing. -/
def Tx.Quiet : Tx σ ρ ε α → Prop
  | .ret _ => True
  | .raise _ => True
  | .query _ _ => False
  | .lock _ k => k.Quiet
  | .write _ k => k.Quiet

theorem Tx.Quiet.steady (h : t.Quiet) (D : Discipline σ ρ τ) (J : σ → Prop)
    (held : List (ρ × LockMode)) (view : σ → σ) : t.Steady D J held view := by
  induction t generalizing held view with
  | ret a => trivial
  | raise e => trivial
  | query q k ih => exact h.elim
  | lock rows k ih => exact ih h _ _
  | write f k ih => exact ih h _ _

theorem Tx.Quiet.bind {g : α → Tx σ ρ ε β} (h : t.Quiet) (hg : ∀ a, (g a).Quiet) :
    (t.bind g).Quiet := by
  induction t with
  | ret a => exact hg a
  | raise e => trivial
  | query q k ih => exact h.elim
  | lock rows k ih => exact ih h
  | write f k ih => exact ih h

theorem Tx.Quiet.forEach {body : β → Tx σ ρ ε Unit} (h : ∀ b, (body b).Quiet) (bs : List β) :
    (Tx.forEach body bs).Quiet := by
  induction bs with
  | nil => trivial
  | cons b bs ih => exact (h b).bind fun _ => ih

theorem Tx.locksOn_bind {g : α → Tx σ ρ ε β} {a : α} (h : t.eval s = .ok (a, s')) :
    (t.bind g).locksOn s = t.locksOn s ++ (g a).locksOn s' := by
  induction t generalizing s with
  | ret b =>
    simp only [Tx.eval_ret, Except.ok.injEq, Prod.mk.injEq] at h
    rw [← h.1, ← h.2]
    rfl
  | raise e => simp at h
  | query q k ih => exact ih (q s) h
  | lock rows k ih =>
    show rows ++ (k.bind g).locksOn s = rows ++ k.locksOn s ++ _
    rw [ih h, List.append_assoc]
  | write f k ih => exact ih h

/-- The debts `O` of a client become the debts `O'` when its commit takes `s` to `s'`: what it
leaves newly undone becomes its debt, and what it no longer owes is done. -/
structure Discipline.Pays (D : Discipline σ ρ τ) (O O' : τ → Prop) (s s' : σ) : Prop where
  incurs : ∀ t, D.owed t s' → D.owed t s ∨ O' t
  clears : ∀ t, D.owed t s' → O t → O' t

/-- What a commit that takes `s` to `s'` with some locks has to meet. -/
structure Discipline.Commits (D : Discipline σ ρ τ) (locks : List (ρ × LockMode))
    (O O' : τ → Prop) (Q : σ → Prop) (s s' : σ) : Prop where
  may : D.may locks s s'
  pays : D.Pays O O' s s'
  post : Q s'

/-- From here on the body is one step at its commit: its answers stand, and from any store with
`J` it does what the discipline allows, changes the debts from `O` to `O'` and establishes `Q`. -/
def Tx.AtCommit (D : Discipline σ ρ τ) (O : τ → Prop) (O' : α → τ → Prop) (Q : α → σ → Prop)
    (J : σ → Prop) (held : List (ρ × LockMode)) (t : Tx σ ρ ε α) : Prop :=
  t.Steady D J held (fun s => s) ∧
    ∀ (s : σ) (a : α) (s' : σ), J s → t.eval s = .ok (a, s') →
      (∀ x ∈ held ++ t.locksOn s, D.asks x s) →
        D.Commits (held ++ t.locksOn s) O (O' a) (Q a) s s'

/-- A transaction body with the postcondition `Q`, entered with the assertion `J` and the locks
`held`: queries that leave a stable assertion, locks, and then one step at the commit. -/
def Tx.Outline (D : Discipline σ ρ τ) (O : τ → Prop) (O' : α → τ → Prop) (Q : α → σ → Prop) :
    (σ → Prop) → List (ρ × LockMode) → Tx σ ρ ε α → Prop
  | J, held, .query q k =>
    Tx.AtCommit D O O' Q J held (.query q k) ∨
      ∃ J' : _ → σ → Prop, (∀ s, J s → J' (q s) s) ∧ (∀ b, D.Stable held (J' b)) ∧
        ∀ b, (k b).Outline D O O' Q (J' b) held
  | J, held, .lock rows k =>
    Tx.AtCommit D O O' Q J held (.lock rows k) ∨ k.Outline D O O' Q J (rows ++ held)
  | J, held, t => Tx.AtCommit D O O' Q J held t

/-- A program that leaves the debts `End` and the postcondition `Post`, entered with the debts `O`
and the assertion `K`. Nothing is said of a program that raises. -/
def Program.Outline (D : Discipline σ ρ τ) (End : α → τ → Prop) (Post : α → σ → Prop) :
    (τ → Prop) → (σ → Prop) → Program σ ρ ε α → Prop
  | O, K, .ret a => (∀ t, O t → End a t) ∧ ∀ s, K s → Post a s
  | _, _, .raise _ => True
  | O, K, .peek q k =>
    ∃ K' : _ → σ → Prop, (∀ s, K s → K' (q s) s) ∧ (∀ b, D.Stable [] (K' b)) ∧
      ∀ b, (k b).Outline D End Post O (K' b)
  | O, K, .atomic body k =>
    ∃ (O' : _ → τ → Prop) (K' : _ → σ → Prop), body.Outline D O O' K' K [] ∧
      (∀ b, D.Stable [] (K' b)) ∧ ∀ b, (k b).Outline D End Post (O' b) (K' b)

variable {D : Discipline σ ρ τ}

/-! ## Weaker entries -/

theorem Tx.Steady.mono (hJ : ∀ s, J' s → J s) {view : σ → σ} (h : t.Steady D J held view) :
    t.Steady D J' held view := by
  induction t generalizing held view with
  | ret a => trivial
  | raise e => trivial
  | query q k ih => exact ⟨fun L s s' hc hm hs => h.1 L s s' hc hm (hJ s hs), fun b => ih b (h.2 b)⟩
  | lock rows k ih => exact ih h
  | write f k ih => exact ih h

theorem Tx.AtCommit.mono {O' : α → τ → Prop} {Q : α → σ → Prop} (hO : ∀ t, O₁ t → O t)
    (hJ : ∀ s, J' s → J s) (h : t.AtCommit D O O' Q J held) : t.AtCommit D O₁ O' Q J' held := by
  refine ⟨h.1.mono hJ, fun s a s' hs heval hasks => ?_⟩
  have hcommits := h.2 s a s' (hJ s hs) heval hasks
  exact ⟨hcommits.may, ⟨hcommits.pays.incurs, fun t ht hdebt =>
    hcommits.pays.clears t ht (hO t hdebt)⟩, hcommits.post⟩

theorem Tx.Outline.mono {O' : α → τ → Prop} {Q : α → σ → Prop} (hO : ∀ t, O₁ t → O t)
    (hJ : ∀ s, J' s → J s) (h : t.Outline D O O' Q J held) : t.Outline D O₁ O' Q J' held := by
  induction t generalizing held J J' with
  | ret a => exact Tx.AtCommit.mono hO hJ h
  | raise e => exact Tx.AtCommit.mono hO hJ h
  | query q k ih =>
    rcases h with hat | ⟨J₁, hread, hstable, hrest⟩
    · exact .inl (hat.mono hO hJ)
    · exact .inr ⟨J₁, fun s hs => hread s (hJ s hs), hstable,
        fun b => ih b (fun s hs => hs) (hrest b)⟩
  | lock rows k ih =>
    rcases h with hat | hrest
    · exact .inl (hat.mono hO hJ)
    · exact .inr (ih hJ hrest)
  | write f k ih => exact Tx.AtCommit.mono hO hJ h

theorem Program.Outline.mono {End : α → τ → Prop} {p : Program σ ρ ε α} {K K₁ : σ → Prop}
    (hO : ∀ t, O₁ t → O t) (hK : ∀ s, K₁ s → K s) (h : p.Outline D End Post O K) :
    p.Outline D End Post O₁ K₁ := by
  induction p generalizing O O₁ K K₁ with
  | ret a => exact ⟨fun t ht => h.1 t (hO t ht), fun s hs => h.2 s (hK s hs)⟩
  | raise e => trivial
  | peek q k ih =>
    obtain ⟨K', hread, hstable, hrest⟩ := h
    exact ⟨K', fun s hs => hread s (hK s hs), hstable,
      fun b => ih b hO (fun s hs => hs) (hrest b)⟩
  | atomic body k ih =>
    obtain ⟨O', K', hbody, hstable, hrest⟩ := h
    exact ⟨O', K', hbody.mono hO hK, hstable, hrest⟩

theorem Tx.Steady.of_false (t : Tx σ ρ ε α) (held : List (ρ × LockMode)) (view : σ → σ) :
    t.Steady D (fun _ => False) held view := by
  induction t generalizing held view with
  | ret a => trivial
  | raise e => trivial
  | query q k ih => exact ⟨fun _ _ _ _ _ hs => hs.elim, fun b => ih b held view⟩
  | lock rows k ih => exact ih _ _
  | write f k ih => exact ih _ _

theorem Program.Outline.of_false {End : α → τ → Prop} (p : Program σ ρ ε α) :
    p.Outline D End Post (fun _ => False) fun _ => False := by
  induction p with
  | ret a => exact ⟨fun _ ht => ht.elim, fun _ hs => hs.elim⟩
  | raise e => trivial
  | peek q k ih => exact ⟨fun _ _ => False, fun _ hs => hs, fun _ _ _ _ _ _ hs => hs, ih⟩
  | atomic body k ih =>
    refine ⟨fun _ _ => False, fun _ _ => False, ?_, fun _ _ _ _ _ _ hs => hs, ih⟩
    have hat : body.AtCommit D (fun _ => False) (fun _ _ => False) (fun _ _ => False)
        (fun _ => False) [] := ⟨Tx.Steady.of_false body _ _, fun _ _ _ hs => hs.elim⟩
    cases body with
    | ret a => exact hat
    | raise e => exact hat
    | query q k => exact .inl hat
    | lock rows k => exact .inl hat
    | write f k => exact hat

theorem Program.Outline.bind {Mid : α → τ → Prop} {End : β → τ → Prop} {MidPost : α → σ → Prop}
    {Post : β → σ → Prop} {p : Program σ ρ ε α} {g : α → Program σ ρ ε β} {K : σ → Prop}
    (hp : p.Outline D Mid MidPost O K) (hK : D.Stable [] K)
    (hg : ∀ (a : α) (O' : τ → Prop) (K' : σ → Prop), D.Stable [] K' → (∀ t, O' t → Mid a t) → (∀
      s, K' s → MidPost a s) → (g a).Outline D End Post O' K') :
    (p.bind g).Outline D End Post O K := by
  induction p generalizing O K with
  | ret a => exact hg a O K hK hp.1 hp.2
  | raise e => trivial
  | peek q k ih =>
    obtain ⟨K', hread, hstable, hrest⟩ := hp
    exact ⟨K', hread, hstable, fun b => ih b (hrest b) (hstable b)⟩
  | atomic body k ih =>
    obtain ⟨O', K', hbody, hstable, hrest⟩ := hp
    exact ⟨O', K', hbody, hstable, fun b => ih b (hrest b) (hstable b)⟩

/-! ## Threads -/

/-- A thread in the middle of an outlined program, with the debts `O`, on the committed store
`s`. -/
inductive ThreadOk (D : Discipline σ ρ τ) (Post : α → σ → Prop) (O : τ → Prop) (s : σ)
    (th : Thread σ ρ ε α) : Prop
  | idle (p : Program σ ρ ε α) (K : σ → Prop) (phase : th.phase = .idle p)
      (pending : th.pending = []) (held : th.held = []) (holds : K s) (stable : D.Stable [] K)
      (outline : p.Outline D (fun _ _ => False) Post O K)
  | opening (γ : Type) (rest : Tx σ ρ ε γ) (k : γ → Program σ ρ ε α) (J : σ → Prop)
      (O' : γ → τ → Prop) (K' : γ → σ → Prop) (phase : th.phase = .busy rest k) (pending : th.pending = [])
      (holds : J s) (stable : D.Stable th.held J) (outline : rest.Outline D O O' K' J th.held)
      (later : ∀ b, D.Stable [] (K' b))
      (follows : ∀ b, (k b).Outline D (fun _ _ => False) Post (O' b) (K' b))
  /-- In the part that is one step at the commit; `body` is that part, and `reads` what its
  answers say of the store. -/
  | inside (γ : Type) (body rest : Tx σ ρ ε γ) (k : γ → Program σ ρ ε α) (J : σ → Prop)
      (O' : γ → τ → Prop) (K' : γ → σ → Prop) (base : List (ρ × LockMode))
      (reads : List (σ → Prop)) (phase : th.phase = .busy rest k) (holds : J s)
      (stable : D.Stable th.held J)
      (steady : rest.Steady D J th.held th.view) (sub : base ⊆ th.held)
      (stand : ∀ r ∈ reads, r s)
      (stands : ∀ r ∈ reads, ∀ (L : List (ρ × LockMode)) (t t' : σ), Compatible th.held L →
        D.may L t t' → J t → r t → r t')
      (result : ∀ t, (∀ r ∈ reads, r t) → body.eval t = rest.eval (th.view t))
      (locks : ∀ t, (∀ r ∈ reads, r t) → ∀ x ∈ body.locksOn t,
        x ∈ th.held ∨ x ∈ rest.locksOn (th.view t))
      (commit : ∀ (t : σ) (b : γ) (t' : σ), J t → body.eval t = .ok (b, t') →
        (∀ x ∈ base ++ body.locksOn t, D.asks x t) →
          D.Commits (base ++ body.locksOn t) O (O' b) (K' b) t t')
      (later : ∀ b, D.Stable [] (K' b))
      (follows : ∀ b, (k b).Outline D (fun _ _ => False) Post (O' b) (K' b))

theorem ThreadOk.interfere (h : ThreadOk D Post O s th) (hcompat : Compatible th.held L)
    (hmay : D.may L s s') : ThreadOk D Post O s' th := by
  cases h with
  | idle p K phase pending held holds stable outline =>
    have hK := stable L s s' (by simp [Compatible]) hmay holds
    exact .idle p K phase pending held hK stable outline
  | opening γ rest k J O' K' phase pending holds stable outline later follows =>
    exact .opening γ rest k J O' K' phase pending (stable L s s' hcompat hmay holds) stable outline
      later follows
  | inside γ body rest k J O' K' base reads phase holds stable steady sub stand stands result locks
      commit later follows =>
    exact .inside γ body rest k J O' K' base reads phase (stable L s s' hcompat hmay holds) stable
      steady sub (fun r hr => stands r hr L s s' hcompat hmay holds (stand r hr)) stands result
      locks commit later follows

def Thread.Committing (th : Thread σ ρ ε α) : Prop :=
  match th.phase with
  | .busy (.ret _) _ => True
  | _ => False

/-- What one statement of a thread does to the store, its debts and its outline. -/
structure MoveOk (D : Discipline σ ρ τ) (Post : α → σ → Prop) (O : τ → Prop) (s s' : σ)
    (th th' : Thread σ ρ ε α) : Prop where
  ok : ∃ O' : τ → Prop, ThreadOk D Post O' s' th' ∧ D.Pays O O' s s'
  store : s' = s ∨ D.may th.held s s'

theorem Discipline.Pays.refl (D : Discipline σ ρ τ) (O : τ → Prop) (s : σ) : D.Pays O O s s :=
  ⟨fun _ h => .inl h, fun _ _ h => h⟩

theorem ThreadOk.move_inside (hmove : th.move free s = some (th', s'))
    (hasks : th.Committing → ∀ x ∈ th.held, D.asks x s) {γ : Type} {body rest : Tx σ ρ ε γ}
    {k : γ → Program σ ρ ε α} {O' : γ → τ → Prop} {K' : γ → σ → Prop} (base : List (ρ × LockMode))
    (reads : List (σ → Prop)) (phase : th.phase = .busy rest k) (holds : J s)
    (stable : D.Stable th.held J) (steady : rest.Steady D J th.held th.view)
    (sub : base ⊆ th.held) (stand : ∀ r ∈ reads, r s)
    (stands : ∀ r ∈ reads, ∀ (L : List (ρ × LockMode)) (t t' : σ), Compatible th.held L → D.may L
      t t' → J t → r t → r t')
    (result : ∀ t, (∀ r ∈ reads, r t) → body.eval t = rest.eval (th.view t))
    (locks : ∀ t, (∀ r ∈ reads, r t) → ∀ x ∈ body.locksOn t, x ∈ th.held ∨ x ∈ rest.locksOn
      (th.view t))
    (commit : ∀ (t : σ) (b : γ) (t' : σ), J t → body.eval t = .ok (b, t') → (∀ x ∈ base ++
      body.locksOn t, D.asks x t) → D.Commits (base ++ body.locksOn t) O (O' b) (K' b) t t')
    (later : ∀ b, D.Stable [] (K' b))
    (follows : ∀ b, (k b).Outline D (fun _ _ => False) Post (O' b) (K' b)) :
    MoveOk D Post O s s' th th' := by
  unfold Thread.move at hmove
  rw [phase] at hmove
  cases rest with
  | ret b =>
    cases hmove
    have hlocks : base ++ body.locksOn s ⊆ th.held := by
      intro x hx
      rcases List.mem_append.mp hx with hb | hl
      · exact sub hb
      · exact (locks s stand x hl).resolve_right (by simp [Tx.locksOn])
    have hcommitting : th.Committing := by
      unfold Thread.Committing
      rw [phase]
      trivial
    obtain ⟨hmay, hpays, hK⟩ := commit s b (th.view s) holds (result s stand)
      fun x hx => hasks hcommitting x (hlocks hx)
    exact
      { ok := ⟨O' b, .idle (k b) (K' b) rfl rfl rfl hK (later b) (follows b), hpays⟩
        store := .inr (D.may_mono _ _ _ _ hlocks hmay) }
  | raise e =>
    cases hmove
    have htrivial : D.Stable [] fun _ => True := fun _ _ _ _ _ _ => trivial
    exact
      { ok := ⟨O, .idle (.raise e) (fun _ => True) rfl rfl rfl trivial htrivial trivial,
          Discipline.Pays.refl D O s⟩
        store := .inl rfl }
  | query q k' =>
    cases hmove
    obtain ⟨hq, hk⟩ := steady
    -- The answer joins what stands.
    refine ⟨⟨O, .inside γ body (k' (q (th.view s))) k J O' K' base
      ((fun t => q (th.view t) = q (th.view s)) :: reads) rfl holds stable (hk _) sub ?_ ?_ ?_ ?_
      commit later follows, Discipline.Pays.refl D O s⟩, .inl rfl⟩
    · rw [List.forall_mem_cons]
      exact ⟨rfl, stand⟩
    · rw [List.forall_mem_cons]
      exact ⟨fun L t t' hc hm hJ hr => (hq L t t' hc hm hJ).trans hr, stands⟩
    · intro t ht
      rw [List.forall_mem_cons] at ht
      rw [result t ht.2]
      show (k' (q (th.view t))).eval (th.view t) = (k' (q (th.view s))).eval (th.view t)
      rw [ht.1]
    · intro t ht x hx
      rw [List.forall_mem_cons] at ht
      have hor := locks t ht.2 x hx
      simp only [Tx.locksOn, ht.1] at hor
      exact hor
  | lock rows k' =>
    simp only at hmove
    split at hmove
    · rename_i hfree
      cases hmove
      have hsub : th.held ⊆ rows ++ th.held := List.subset_append_right _ _
      refine ⟨⟨O, .inside γ body k' k J O' K' base reads rfl holds (stable.mono hsub) steady
        (fun x hx => hsub (sub hx)) stand ?_ result ?_ commit later follows,
        Discipline.Pays.refl D O s⟩, .inl rfl⟩
      · exact fun r hr L t t' hc hm hJ h => stands r hr L t t' (hc.mono hsub) hm hJ h
      · intro t ht x hx
        rcases locks t ht x hx with hheld | hrest
        · exact .inl (hsub hheld)
        · rcases List.mem_append.mp hrest with hrow | hlater
          · exact .inl (List.mem_append_left _ hrow)
          · exact .inr hlater
    · cases hmove
  | write f k' =>
    cases hmove
    have hview := Thread.view_write th f (.busy k' k)
    refine ⟨⟨O, .inside γ body k' k J O' K' base reads rfl holds stable ?_ sub stand stands ?_ ?_
      commit later follows, Discipline.Pays.refl D O s⟩, .inl rfl⟩
    · rw [hview]
      exact steady
    · intro t ht
      rw [result t ht, hview]
      rfl
    · intro t ht x hx
      rw [hview]
      exact locks t ht x hx

theorem ThreadOk.move_atCommit (hmove : th.move free s = some (th', s'))
    (hasks : th.Committing → ∀ x ∈ th.held, D.asks x s) {γ : Type} {rest : Tx σ ρ ε γ}
    {k : γ → Program σ ρ ε α} {O' : γ → τ → Prop} {K' : γ → σ → Prop}
    (phase : th.phase = .busy rest k) (pending : th.pending = []) (holds : J s)
    (stable : D.Stable th.held J) (hat : rest.AtCommit D O O' K' J th.held)
    (later : ∀ b, D.Stable [] (K' b))
    (follows : ∀ b, (k b).Outline D (fun _ _ => False) Post (O' b) (K' b)) :
    MoveOk D Post O s s' th th' := by
  have hview := Thread.view_of_none pending
  have hsteady : rest.Steady D J th.held th.view := by
    rw [hview]
    exact hat.1
  refine ThreadOk.move_inside hmove hasks th.held [] phase holds
    stable hsteady (List.Subset.refl _) (by simp) (by simp) ?_ ?_ hat.2 later follows
  · intro t _
    rw [hview]
  · intro t _ x hx
    rw [hview]
    exact .inr hx

/-- **What one statement does.** The thread stays in the middle of its outline, and the store
changes only as the discipline allows. -/
theorem ThreadOk.move (h : ThreadOk D Post O s th) (hmove : th.move free s = some (th', s'))
    (hasks : th.Committing → ∀ x ∈ th.held, D.asks x s) : MoveOk D Post O s s' th th' := by
  cases h with
  | idle p K phase pending held holds stable outline =>
    unfold Thread.move at hmove
    rw [phase] at hmove
    cases p with
    | ret a => cases hmove
    | raise e => cases hmove
    | peek q k =>
      cases hmove
      obtain ⟨K', hread, hstable, hrest⟩ := outline
      exact ⟨⟨O, .idle _ (K' (q s)) rfl pending held (hread s holds) (hstable _) (hrest _),
        Discipline.Pays.refl D O s⟩, .inl rfl⟩
    | atomic body k =>
      cases hmove
      obtain ⟨O', K', hbody, hstable, hrest⟩ := outline
      refine ⟨⟨O, .opening _ body k K O' K' rfl pending holds ?_ ?_ hstable hrest,
        Discipline.Pays.refl D O s⟩, .inl rfl⟩
      · exact stable.mono (List.nil_subset _)
      · show body.Outline D O O' K' K th.held
        rw [held]
        exact hbody
  | opening γ rest k J O' K' phase pending holds stable outline later follows =>
    cases rest with
    | ret b =>
      exact ThreadOk.move_atCommit hmove hasks phase pending holds stable outline later follows
    | raise e =>
      exact ThreadOk.move_atCommit hmove hasks phase pending holds stable outline later follows
    | write f k' =>
      exact ThreadOk.move_atCommit hmove hasks phase pending holds stable outline later follows
    | query q k' =>
      rcases outline with hat | ⟨J', hread, hstable, hrest⟩
      · exact ThreadOk.move_atCommit hmove hasks phase pending holds stable hat later follows
      · have hview := Thread.view_of_none pending
        unfold Thread.move at hmove
        rw [phase] at hmove
        cases hmove
        refine ⟨⟨O, .opening γ (k' (q (th.view s))) k (J' (q (th.view s))) O' K' rfl pending ?_
          (hstable _) (hrest _) later follows, Discipline.Pays.refl D O s⟩, .inl rfl⟩
        rw [hview]
        exact hread s holds
    | lock rows k' =>
      rcases outline with hat | hrest
      · exact ThreadOk.move_atCommit hmove hasks phase pending holds stable hat later follows
      · unfold Thread.move at hmove
        rw [phase] at hmove
        simp only at hmove
        split at hmove
        · rename_i hfree
          cases hmove
          exact ⟨⟨O, .opening γ k' k J O' K' rfl pending holds
            (stable.mono (List.subset_append_right _ _)) hrest later follows,
            Discipline.Pays.refl D O s⟩, .inl rfl⟩
        · cases hmove
  | inside γ body rest k J O' K' base reads phase holds stable steady sub stand stands result locks
      commit later follows =>
    exact ThreadOk.move_inside hmove hasks base reads phase holds stable steady sub stand stands
      result locks commit later follows

/-! ## Runs -/

section Runs

variable [DecidableEq ρ]

/-- Each commit of the run finds what is asked of it for every lock its thread holds. -/
def Config.CommitsAsked (D : Discipline σ ρ τ) (c : Config σ ρ ε α) : List ℕ → Prop
  | [] => True
  | i :: is =>
    (∀ th, c.threads[i]? = some th → th.Committing → ∀ x ∈ th.held, D.asks x c.store) ∧
      ∀ c', c.step i = some c' → c'.CommitsAsked D is

instance (th : Thread σ ρ ε α) : Decidable th.Committing :=
  match h : th.phase with
  | .busy (.ret _) _ => .isTrue (by unfold Thread.Committing; rw [h]; trivial)
  | .busy (.raise _) _ => .isFalse (by unfold Thread.Committing; rw [h]; exact id)
  | .busy (.query _ _) _ => .isFalse (by unfold Thread.Committing; rw [h]; exact id)
  | .busy (.lock _ _) _ => .isFalse (by unfold Thread.Committing; rw [h]; exact id)
  | .busy (.write _ _) _ => .isFalse (by unfold Thread.Committing; rw [h]; exact id)
  | .idle _ => .isFalse (by unfold Thread.Committing; rw [h]; exact id)

/-- What `CommitsAsked` says, as it is evaluated. -/
def Config.checkAsked (D : Discipline σ ρ τ) [∀ x s, Decidable (D.asks x s)]
    (c : Config σ ρ ε α) : List ℕ → Bool
  | [] => true
  | i :: is =>
    (match c.threads[i]? with
      | none => true
      | some th => !decide th.Committing || th.held.all fun x => decide (D.asks x c.store)) &&
    match c.step i with
    | none => true
    | some c' => c'.checkAsked D is

theorem Config.commitsAsked_of_check {D : Discipline σ ρ τ} [∀ x s, Decidable (D.asks x s)]
    (sched : List ℕ) (h : c.checkAsked D sched = true) : c.CommitsAsked D sched := by
  induction sched generalizing c with
  | nil => trivial
  | cons i is ih =>
    unfold Config.checkAsked at h
    rw [Bool.and_eq_true] at h
    refine ⟨fun th hth hcommitting x hx => ?_, fun c' hstep => ih ?_⟩
    · have hfirst := h.1
      rw [hth] at hfirst
      simp only [hcommitting, decide_true, Bool.not_true, Bool.false_or, List.all_eq_true,
        decide_eq_true_eq] at hfirst
      exact hfirst x hx
    · have hrest := h.2
      rw [hstep] at hrest
      exact hrest

/-- No two threads hold conflicting locks. -/
def Config.LocksOk (c : Config σ ρ ε α) : Prop :=
  ∀ (i j : ℕ) (th th' : Thread σ ρ ε α), i ≠ j → c.threads[i]? = some th →
    c.threads[j]? = some th' → Compatible th.held th'.held

omit [DecidableEq ρ] in
theorem Config.locksOk_start (s : σ) (ps : List (Program σ ρ ε α)) :
    (Config.start s ps).LocksOk := by
  intro i j th th' _ hth _ x hx
  simp only [Config.start, List.getElem?_map, Option.map_eq_some_iff] at hth
  obtain ⟨p, -, rfl⟩ := hth
  exact absurd hx List.not_mem_nil

theorem Config.compatible_of_free {j : ℕ} {rows : List (ρ × LockMode)}
    (hfree : c.free i rows = true) (hij : i ≠ j) (hth : c.threads[j]? = some th) :
    Compatible rows th.held := by
  unfold Config.free at hfree
  rw [List.all_eq_true] at hfree
  have hmem : th ∈ c.threads.eraseIdx i := by
    rw [List.mem_eraseIdx_iff_getElem?]
    exact ⟨j, hij.symm, hth⟩
  intro x hx y hy hxy
  have hno := List.all_eq_true.mp (List.all_eq_true.mp (hfree th hmem) x hx) y hy
  simpa [hxy] using hno

theorem Config.LocksOk.step (h : c.LocksOk) (hstep : c.step i = some c') : c'.LocksOk := by
  obtain ⟨th, th', s', hth, hmove, rfl⟩ := Config.step_eq_some hstep
  have hheld : ∀ (j : ℕ) (u : Thread σ ρ ε α), i ≠ j → c.threads[j]? = some u →
      Compatible th'.held u.held := by
    intro j u hij hu
    have hold := h i j th u hij hth hu
    rcases Thread.held_of_move hmove with hsub | ⟨rows, hfree, heq⟩
    · exact hold.mono hsub
    · rw [heq]
      intro x hx
      rcases List.mem_append.mp hx with hrow | hbefore
      · exact Config.compatible_of_free hfree hij hu x hrow
      · exact hold x hbefore
  intro j k u v hjk hu hv
  by_cases hij : i = j
  · subst hij
    rw [getElem?_set_of_some hth hu]
    exact hheld k v hjk (by rwa [List.getElem?_set_ne hjk] at hv)
  · rw [List.getElem?_set_ne hij] at hu
    by_cases hik : i = k
    · subst hik
      rw [getElem?_set_of_some hth hv]
      exact (hheld j u hij hu).symm
    · rw [List.getElem?_set_ne hik] at hv
      exact h j k u v hjk hu hv

/-- What holds of a run so far: the locks are compatible, every thread is in the middle of its
outline, and whatever is owed is the debt of a thread. -/
structure Config.Outlined (D : Discipline σ ρ τ) (Post : ℕ → α → σ → Prop) (c : Config σ ρ ε α)
    (debts : ℕ → τ → Prop) : Prop where
  locks : c.LocksOk
  threads : ∀ (i : ℕ) (th : Thread σ ρ ε α), c.threads[i]? = some th →
    ThreadOk D (Post i) (debts i) c.store th
  owed : ∀ t, D.owed t c.store → ∃ i < c.threads.length, debts i t

omit [DecidableEq ρ] in
theorem Config.outlined_start {Post : ℕ → α → σ → Prop} {s : σ} {ps : List (Program σ ρ ε α)}
    (howed : ∀ t, ¬ D.owed t s)
    (h : ∀ (i : ℕ) (p : Program σ ρ ε α), ps[i]? = some p →
      ∃ K : σ → Prop, K s ∧ D.Stable [] K ∧
        p.Outline D (fun _ _ => False) (Post i) (fun _ => False) K) :
    (Config.start s ps).Outlined D Post fun _ _ => False := by
  have hstart : ∀ (i : ℕ) (th : Thread σ ρ ε α), (Config.start s ps).threads[i]? = some th →
      ∃ p, ps[i]? = some p ∧ th = .start p := by
    intro i th hth
    simp only [Config.start, List.getElem?_map, Option.map_eq_some_iff] at hth
    obtain ⟨p, hp, hstart⟩ := hth
    exact ⟨p, hp, hstart.symm⟩
  refine ⟨Config.locksOk_start s ps, fun i th hth => ?_, fun t ht => absurd ht (howed t)⟩
  obtain ⟨p, hp, rfl⟩ := hstart i th hth
  obtain ⟨K, hK, hstable, houtline⟩ := h i p hp
  exact .idle p K rfl rfl rfl hK hstable houtline

theorem Config.Outlined.step {Post : ℕ → α → σ → Prop} {debts : ℕ → τ → Prop}
    (h : c.Outlined D Post debts) (hstep : c.step i = some c')
    (hasks : ∀ th, c.threads[i]? = some th → th.Committing → ∀ x ∈ th.held, D.asks x c.store) :
    (∃ debts', c'.Outlined D Post debts') ∧
      (c'.store = c.store ∨ ∃ L, D.may L c.store c'.store) := by
  have hlocks := h.locks.step hstep
  obtain ⟨th, th', s', hth, hmove, rfl⟩ := Config.step_eq_some hstep
  obtain ⟨⟨O', hok, hpays⟩, hstore⟩ := (h.threads i th hth).move hmove (hasks th hth)
  refine ⟨⟨fun j => if j = i then O' else debts j, hlocks, ?_, ?_⟩, ?_⟩
  · intro j u hu
    by_cases hij : i = j
    · subst hij
      rw [getElem?_set_of_some hth hu, if_pos rfl]
      exact hok
    · rw [List.getElem?_set_ne hij] at hu
      have hothers := h.threads j u hu
      rw [if_neg (Ne.symm hij)]
      rcases hstore with hs | hmay
      · show ThreadOk D (Post j) (debts j) s' u
        rw [hs]
        exact hothers
      · exact hothers.interfere (h.locks j i u th (Ne.symm hij) hu hth) hmay
  · -- What is owed now was owed by another thread, or by this one, or is its new debt.
    intro t ht
    have hi : i < (c.threads.set i th').length := by
      rw [List.length_set]
      exact (List.getElem?_eq_some_iff.mp hth).1
    rcases hpays.incurs t ht with hold | hnew
    · obtain ⟨j, hj, hdebt⟩ := h.owed t hold
      by_cases hji : j = i
      · subst hji
        exact ⟨j, hi, by rw [if_pos rfl]; exact hpays.clears t ht hdebt⟩
      · refine ⟨j, ?_, by rw [if_neg hji]; exact hdebt⟩
        rw [List.length_set]
        exact hj
    · exact ⟨i, hi, by rw [if_pos rfl]; exact hnew⟩
  · exact hstore.imp_right fun hmay => ⟨_, hmay⟩

/-- **Soundness of outlines.** Along every run whose commits find what is asked of them, the
threads stay in the middle of their outlines, whatever is owed is the debt of one of them, and
whatever the discipline keeps is kept. -/
theorem Config.rely_guarantee {Post : ℕ → α → σ → Prop} {Inv : σ → Prop}
    (hInv : ∀ (L : List (ρ × LockMode)) (s s' : σ), D.may L s s' → Inv s → Inv s')
    (sched : List ℕ) (hexec : c.exec sched = some c') (hasks : c.CommitsAsked D sched)
    {debts : ℕ → τ → Prop} (h : c.Outlined D Post debts) (hs : Inv c.store) :
    (∃ debts', c'.Outlined D Post debts') ∧ Inv c'.store := by
  induction sched generalizing c debts with
  | nil =>
    cases hexec
    exact ⟨⟨debts, h⟩, hs⟩
  | cons i is ih =>
    simp only [Config.exec, Option.bind_eq_some_iff] at hexec
    obtain ⟨c₁, hstep, hrest⟩ := hexec
    obtain ⟨⟨debts', hok⟩, hstore⟩ := h.step hstep hasks.1
    apply ih hrest (hasks.2 c₁ hstep) hok
    rcases hstore with heq | ⟨L, hmay⟩
    · rw [heq]
      exact hs
    · exact hInv L _ _ hmay hs

omit [DecidableEq ρ] in
theorem Config.Outlined.post {Post : ℕ → α → σ → Prop} {c : Config σ ρ ε α} {debts : ℕ → τ → Prop}
    (h : c.Outlined D Post debts) {i : ℕ} {th : Thread σ ρ ε α} (hth : c.threads[i]? = some th)
    {a : α} (hret : th.phase = .idle (.ret a)) : Post i a c.store ∧ ∀ t, ¬ debts i t := by
  cases h.threads i th hth with
  | idle p K phase pending held holds stable outline =>
    rw [hret] at phase
    cases phase
    exact ⟨outline.2 _ holds, outline.1⟩
  | opening γ rest k J O' K' phase => rw [hret] at phase; cases phase
  | inside γ body rest k J O' K' base reads phase => rw [hret] at phase; cases phase

omit [DecidableEq ρ] in
theorem Config.Outlined.not_owed {Post : ℕ → α → σ → Prop} {c : Config σ ρ ε α}
    {debts : ℕ → τ → Prop} (h : c.Outlined D Post debts)
    (hret : ∀ th ∈ c.threads, ∃ a, th.phase = .idle (.ret a)) (t : τ) : ¬ D.owed t c.store := by
  intro howed
  obtain ⟨i, hi, hdebt⟩ := h.owed t howed
  obtain ⟨a, ha⟩ := hret _ (List.getElem_mem hi)
  exact (h.post (List.getElem?_eq_getElem hi) ha).2 t hdebt

end Runs

end ReadCommitted
