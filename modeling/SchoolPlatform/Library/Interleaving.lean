import SchoolPlatform.Library.Transaction

/-!
# Programs beside each other, statement by statement

Every client is a `Thread`: the program that remains, or the transaction it has open with the
changes it has not committed yet and the row locks it holds. A step runs one statement of one
thread under READ COMMITTED: a query sees what is committed at that moment together with the
thread's own changes, a lock is granted only when no other thread holds one of its rows, a
commit publishes all changes of the transaction at once, an error drops them.

A thread also records what its queries since its last commit have answered. A run in which
each commit happens while all these answers still stand (`Config.ValidatedRun`) is one in which
each thread acts in units that are atomic at their commit (`Program.advance`):
`Config.validated_invariant` carries an invariant of the units to every such run.
-/

namespace ReadCommitted

/-- What a thread is doing. -/
inductive Phase (σ ρ ε α : Type) : Type 1
  | idle (p : Program σ ρ ε α)
  | busy {β : Type} (rest : Tx σ ρ ε β) (k : β → Program σ ρ ε α)

/-- A client at work. -/
structure Thread (σ ρ ε α : Type) : Type 1 where
  phase : Phase σ ρ ε α
  pending : List (σ → σ) := []
  held : List (ρ × LockMode) := []
  reads : List (σ → Prop) := []

/-- The committed store and all clients. -/
structure Config (σ ρ ε α : Type) : Type 1 where
  store : σ
  threads : List (Thread σ ρ ε α)

variable {σ ρ ε α β : Type}

/-- What a thread sees: the committed store with its own changes. -/
def Thread.view (th : Thread σ ρ ε α) (s : σ) : σ := th.pending.foldl (fun s f => f s) s

theorem Thread.view_of_none {th : Thread σ ρ ε α} (h : th.pending = []) :
    th.view = fun s => s := by
  funext s
  simp [Thread.view, h]

theorem Thread.view_write (th : Thread σ ρ ε α) (f : σ → σ) (phase : Phase σ ρ ε α) :
    ({ th with phase := phase, pending := th.pending ++ [f] } : Thread σ ρ ε α).view =
      fun s => f (th.view s) := by
  funext s
  simp [Thread.view]

/-- A client that has not started yet. -/
def Thread.start (p : Program σ ρ ε α) : Thread σ ρ ε α := { phase := .idle p }

/-- One statement of a thread; `none` when it has ended or has to wait for a lock. -/
def Thread.move (free : List (ρ × LockMode) → Bool) (s : σ) (th : Thread σ ρ ε α) :
    Option (Thread σ ρ ε α × σ) :=
  match th.phase with
  | .idle (.ret _) => none
  | .idle (.raise _) => none
  | .idle (.peek q k) =>
    some ({ th with phase := .idle (k (q s)), reads := (fun s' => q s' = q s) :: th.reads }, s)
  | .idle (.atomic body k) => some ({ th with phase := .busy body k }, s)
  | .busy (.query q k') k =>
    some ({ th with
      phase := .busy (k' (q (th.view s))) k
      reads := (fun s' => q (th.view s') = q (th.view s)) :: th.reads }, s)
  | .busy (.lock rows k') k =>
    if free rows then some ({ th with phase := .busy k' k, held := rows ++ th.held }, s) else none
  | .busy (.write f k') k =>
    some ({ th with phase := .busy k' k, pending := th.pending ++ [f] }, s)
  | .busy (.ret b) k => some (.start (k b), th.view s)
  | .busy (.raise e) _ => some (.start (.raise e), s)

theorem getElem?_set_of_some {l : List (Thread σ ρ ε α)} {i : ℕ} {a b u : Thread σ ρ ε α}
    (ha : l[i]? = some a) (hu : (l.set i b)[i]? = some u) : u = b := by
  rw [List.getElem?_set_self', ha] at hu
  exact (Option.some.inj hu).symm

section Steps

variable [DecidableEq ρ]

/-- No thread but the `i`-th holds a conflicting lock on one of the rows. -/
def Config.free (c : Config σ ρ ε α) (i : ℕ) (rows : List (ρ × LockMode)) : Bool :=
  (c.threads.eraseIdx i).all fun th => rows.all fun r => th.held.all fun h =>
    !(decide (r.1 = h.1) && r.2.conflict h.2)

/-- One statement of the `i`-th thread. -/
def Config.step (c : Config σ ρ ε α) (i : ℕ) : Option (Config σ ρ ε α) :=
  match c.threads[i]? with
  | none => none
  | some th =>
    match th.move (c.free i) c.store with
    | none => none
    | some (th', s') => some ⟨s', c.threads.set i th'⟩

/-- A run: the list says whose statement comes next. -/
def Config.exec (c : Config σ ρ ε α) : List ℕ → Option (Config σ ρ ε α)
  | [] => some c
  | i :: is => (c.step i).bind fun c' => c'.exec is

theorem Config.exec_append (c : Config σ ρ ε α) (l l' : List ℕ) :
    c.exec (l ++ l') = (c.exec l).bind fun c' => c'.exec l' := by
  induction l generalizing c with
  | nil => rfl
  | cons i is ih =>
    rw [List.cons_append, Config.exec, Config.exec, Option.bind_assoc]
    simp only [ih]

theorem Config.step_eq_some {c c' : Config σ ρ ε α} {i : ℕ} (h : c.step i = some c') :
    ∃ th th' s', c.threads[i]? = some th ∧ th.move (c.free i) c.store = some (th', s') ∧
      c' = ⟨s', c.threads.set i th'⟩ := by
  unfold Config.step at h
  split at h
  · cases h
  · rename_i th hth
    split at h
    · cases h
    · rename_i th' s' hmove
      cases h
      exact ⟨th, th', s', hth, hmove, rfl⟩

theorem Config.getElem?_step {i j : ℕ} (hij : i ≠ j) {c c' : Config σ ρ ε α}
    (h : c.step i = some c') : c'.threads[j]? = c.threads[j]? := by
  obtain ⟨th, th', s', -, -, rfl⟩ := Config.step_eq_some h
  exact List.getElem?_set_ne hij

theorem Config.getElem?_exec {j : ℕ} {l : List ℕ} (hj : j ∉ l) {c c' : Config σ ρ ε α}
    (h : c.exec l = some c') : c'.threads[j]? = c.threads[j]? := by
  induction l generalizing c with
  | nil =>
    cases h
    rfl
  | cons i is ih =>
    rw [Config.exec, Option.bind_eq_some_iff] at h
    obtain ⟨c₁, hstep, hrest⟩ := h
    rw [List.mem_cons, not_or] at hj
    rw [ih hj.2 hrest, Config.getElem?_step (Ne.symm hj.1) hstep]

/-- A thread about to commit, or to end on what it reads next, has only read what still stands,
and does so on a store that satisfies `C`. -/
def Thread.Validated (C : σ → Prop) (th : Thread σ ρ ε α) (s : σ) : Prop :=
  match th.phase with
  | .busy (.ret _) _ => (∀ r ∈ th.reads, r s) ∧ C s
  | .idle (.peek q k) => (k (q s)).Ended → (∀ r ∈ th.reads, r s) ∧ C s
  | _ => True

/-- Each commit of the run, and each end of a client, happens while everything the client has
read since its previous commit still stands, and on a store that satisfies `C`. -/
def Config.ValidatedRun (C : σ → Prop) (c : Config σ ρ ε α) : List ℕ → Prop
  | [] => True
  | i :: is =>
    (∀ th, c.threads[i]? = some th → th.Validated C c.store) ∧
      ∀ c', c.step i = some c' → c'.ValidatedRun C is

end Steps

def Thread.ended (th : Thread σ ρ ε α) : Bool :=
  match th.phase with
  | .idle (.ret _) => true
  | .idle (.raise _) => true
  | _ => false

theorem Thread.not_ended_of_move {th th' : Thread σ ρ ε α} {s s' : σ}
    {free : List (ρ × LockMode) → Bool} (h : th.move free s = some (th', s')) :
    th.ended = false := by
  unfold Thread.move at h
  unfold Thread.ended
  split at h <;> first | cases h; done | simp_all

theorem Thread.held_of_move {th th' : Thread σ ρ ε α} {s s' : σ}
    {free : List (ρ × LockMode) → Bool} (h : th.move free s = some (th', s')) :
    th'.held ⊆ th.held ∨ ∃ rows, free rows = true ∧ th'.held = rows ++ th.held := by
  obtain ⟨phase, pending, held, reads⟩ := th
  cases phase with
  | idle p =>
    cases p with
    | ret a => cases h
    | raise e => cases h
    | peek q k =>
      cases h
      exact .inl (List.Subset.refl _)
    | atomic body k =>
      cases h
      exact .inl (List.Subset.refl _)
  | busy rest k =>
    cases rest with
    | ret b =>
      cases h
      exact .inl (List.nil_subset _)
    | raise e =>
      cases h
      exact .inl (List.nil_subset _)
    | query q k' =>
      cases h
      exact .inl (List.Subset.refl _)
    | write f k' =>
      cases h
      exact .inl (List.Subset.refl _)
    | lock rows k' =>
      simp only [Thread.move] at h
      split at h
      · rename_i hfree
        cases h
        exact .inr ⟨rows, hfree, rfl⟩
      · cases h

/-- All clients have ended. -/
def Config.finished (c : Config σ ρ ε α) : Bool := c.threads.all Thread.ended

def Thread.returned (th : Thread σ ρ ε α) : Bool :=
  match th.phase with
  | .idle (.ret _) => true
  | _ => false

theorem Thread.returned_eq {th : Thread σ ρ ε α} (h : th.returned = true) :
    ∃ a, th.phase = .idle (.ret a) := by
  unfold Thread.returned at h
  split at h
  · exact ⟨_, by assumption⟩
  · cases h

def Config.returned (c : Config σ ρ ε α) : Bool := c.threads.all Thread.returned

theorem Config.returned_eq {c : Config σ ρ ε α} (h : c.returned = true) :
    ∀ th ∈ c.threads, ∃ a, th.phase = .idle (.ret a) :=
  fun th hth => Thread.returned_eq (List.all_eq_true.mp h th hth)

def Config.start (s : σ) (ps : List (Program σ ρ ε α)) : Config σ ρ ε α :=
  ⟨s, ps.map Thread.start⟩

/-- The unit a thread is in the middle of: what it would do on a store on which all its
answers stand. -/
def Thread.outcome (th : Thread σ ρ ε α) (s : σ) : Program σ ρ ε α × σ :=
  match th.phase with
  | .idle p => p.advance s
  | .busy rest k =>
    match rest.eval (th.view s) with
    | .ok (b, s') => (k b, s')
    | .error e => (.raise e, s)

/-- `th` is somewhere inside the first unit of the program `p`. -/
structure Tracks (p : Program σ ρ ε α) (th : Thread σ ρ ε α) : Prop where
  outcome : ∀ s, (∀ r ∈ th.reads, r s) → p.advance s = th.outcome s
  pending : ∀ q, th.phase = .idle q → th.pending = []
  ended : ∀ q, th.phase = .idle q → q.Ended → p.Ended
  mayFail : ∀ q, th.phase = .idle q → q.MayFail → p.MayFail
  mayRaise : ∀ (β : Type) (rest : Tx σ ρ ε β) (k : β → Program σ ρ ε α),
    th.phase = .busy rest k → rest.MayRaise → p.MayFail

theorem Tracks.idle {th : Thread σ ρ ε α} {p : Program σ ρ ε α} (hp : th.phase = .idle p)
    (hpend : th.pending = []) : Tracks p th := by
  have hsame : ∀ q, th.phase = .idle q → q = p := by
    intro q hq
    rw [hp] at hq
    cases hq
    rfl
  refine ⟨fun s _ => ?_, fun _ _ => hpend, fun q hq hs => hsame q hq ▸ hs,
    fun q hq hs => hsame q hq ▸ hs, fun β rest k hb => ?_⟩
  · unfold Thread.outcome
    rw [hp]
  · rw [hp] at hb
    cases hb

theorem Tracks.start (p : Program σ ρ ε α) : Tracks p (.start p) := Tracks.idle rfl rfl

theorem Tracks.move {C : σ → Prop} {p : Program σ ρ ε α} {th th' : Thread σ ρ ε α} {s s' : σ}
    {free : List (ρ × LockMode) → Bool} (h : Tracks p th) (hv : th.Validated C s)
    (hm : th.move free s = some (th', s')) :
    (s' = s ∧ Tracks p th') ∨
    (s' = (p.advance s).2 ∧ C s ∧ Tracks (p.advance s).1 th') ∨
    (s' = s ∧ p.MayFail ∧ ∃ e, Tracks (.raise e) th') := by
  obtain ⟨phase, pending, held, reads⟩ := th
  obtain ⟨hout, hpend, hended, hfail, hraise⟩ := h
  cases phase with
  | idle q =>
    obtain rfl : pending = [] := hpend q rfl
    cases q with
    | ret a => simp [Thread.move] at hm
    | raise e => simp [Thread.move] at hm
    | peek f k =>
      cases hm
      by_cases hend : (k (f s)).Ended
      · -- The program ends on this answer: the unit was reading alone.
        obtain ⟨hreads, hC⟩ := hv hend
        have hadv : p.advance s = (k (f s), s) := (hout s hreads).trans (hend.advance s)
        refine .inr (.inl ⟨by rw [hadv], hC, ?_⟩)
        rw [hadv]
        exact Tracks.idle rfl rfl
      · refine .inl ⟨rfl, ⟨?_, fun _ _ => rfl, ?_, ?_, ?_⟩⟩
        · intro t ht
          have hf : f t = f s := ht _ List.mem_cons_self
          rw [hout t fun r hr => ht r (List.mem_cons_of_mem _ hr)]
          show (k (f t)).advance t = (k (f s)).advance t
          rw [hf]
        · intro q hq hs
          cases hq
          exact (hend hs).elim
        · intro q hq hs
          cases hq
          exact hfail _ rfl ⟨_, hs⟩
        · intro β rest k' hb
          cases hb
    | atomic body k =>
      cases hm
      refine .inl ⟨rfl, ⟨fun t ht => hout t ht, fun _ hq => (nomatch hq),
        fun _ hq => (nomatch hq), fun _ hq => (nomatch hq), ?_⟩⟩
      intro β rest k' hb hr
      cases hb
      exact hfail _ rfl hr
  | busy rest k =>
    cases rest with
    | ret b =>
      cases hm
      have hs := hout s hv.1
      simp only [Thread.outcome, Tx.eval_ret] at hs
      refine .inr (.inl ⟨by rw [hs], hv.2, ?_⟩)
      rw [hs]
      exact Tracks.start _
    | raise e =>
      cases hm
      exact .inr (.inr ⟨rfl, hraise _ _ _ rfl trivial, e, Tracks.start _⟩)
    | query f k' =>
      cases hm
      refine .inl ⟨rfl, ⟨?_, fun _ hq => (nomatch hq), fun _ hq => (nomatch hq),
        fun _ hq => (nomatch hq), ?_⟩⟩
      · intro t ht
        have hf := ht _ List.mem_cons_self
        rw [hout t fun r hr => ht r (List.mem_cons_of_mem _ hr)]
        simp only [Thread.outcome, Tx.eval, Thread.view] at hf ⊢
        rw [hf]
      · intro β rest k'' hb hr
        cases hb
        exact hraise _ _ _ rfl ⟨_, hr⟩
    | lock rows k' =>
      simp only [Thread.move] at hm
      split at hm
      · cases hm
        refine .inl ⟨rfl, ⟨fun t ht => hout t ht, fun _ hq => (nomatch hq),
          fun _ hq => (nomatch hq), fun _ hq => (nomatch hq), ?_⟩⟩
        intro β rest k'' hb hr
        cases hb
        exact hraise _ _ _ rfl hr
      · cases hm
    | write f k' =>
      cases hm
      refine .inl ⟨rfl, ⟨?_, fun _ hq => (nomatch hq), fun _ hq => (nomatch hq),
        fun _ hq => (nomatch hq), ?_⟩⟩
      · intro t ht
        rw [hout t ht]
        simp [Thread.outcome, Tx.eval, Thread.view]
      · intro β rest k'' hb hr
        cases hb
        exact hraise _ _ _ rfl hr

/-- Every thread is inside the first unit of its program. -/
def Config.TracksAll (c : Config σ ρ ε α) (ps : List (Program σ ρ ε α)) : Prop :=
  ps.length = c.threads.length ∧
    ∀ (i : ℕ) (p : Program σ ρ ε α) (th : Thread σ ρ ε α),
      ps[i]? = some p → c.threads[i]? = some th → Tracks p th

theorem Config.tracksAll_start (s : σ) (ps : List (Program σ ρ ε α)) :
    (Config.start s ps).TracksAll ps := by
  refine ⟨by simp [Config.start], ?_⟩
  intro i p th hp hth
  simp only [Config.start, List.getElem?_map, hp] at hth
  cases hth
  exact Tracks.start p

theorem Config.TracksAll.set {c : Config σ ρ ε α} {ps : List (Program σ ρ ε α)}
    (h : c.TracksAll ps) (i : ℕ) {p' : Program σ ρ ε α} {th' : Thread σ ρ ε α} (s' : σ)
    (ht : Tracks p' th') :
    (⟨s', c.threads.set i th'⟩ : Config σ ρ ε α).TracksAll (ps.set i p') := by
  refine ⟨by simpa using h.1, ?_⟩
  intro j p th hp hth
  by_cases hij : i = j
  · subst hij
    rw [List.getElem?_set_self'] at hp hth
    cases hpi : ps[i]? with
    | none => simp [hpi] at hp
    | some p₀ =>
      cases hti : c.threads[i]? with
      | none => simp [hti] at hth
      | some th₀ =>
        simp only [hpi, hti, Option.map_eq_map, Option.map_some, Function.const_apply,
          Option.some.injEq] at hp hth
        subst hp hth
        exact ht
  · rw [List.getElem?_set_ne hij] at hp hth
    exact h.2 j p th hp hth

section Validated

variable [DecidableEq ρ]

/-- **Invariant rule for validated runs.** An invariant of the committed store and the remaining
programs that each unit of each program keeps, and that survives a transaction failing, holds
along every validated run. -/
theorem Config.validated_invariant (C : σ → Prop) (I : σ → List (Program σ ρ ε α) → Prop)
    (hadvance : ∀ s ps i p, ps[i]? = some p → C s → I s ps →
      I (p.advance s).2 (ps.set i (p.advance s).1))
    (hfail : ∀ s ps i p e, ps[i]? = some p → p.MayFail → I s ps → I s (ps.set i (.raise e)))
    (sched : List ℕ) {c c' : Config σ ρ ε α} (hexec : c.exec sched = some c')
    (hval : c.ValidatedRun C sched) {ps : List (Program σ ρ ε α)} (hI : I c.store ps)
    (htr : c.TracksAll ps) : ∃ ps', I c'.store ps' ∧ c'.TracksAll ps' := by
  induction sched generalizing c ps with
  | nil =>
    cases hexec
    exact ⟨ps, hI, htr⟩
  | cons i is ih =>
    simp only [Config.exec, Option.bind_eq_some_iff] at hexec
    obtain ⟨c₁, hstep, hrest⟩ := hexec
    have hval₁ := hval.2 c₁ hstep
    obtain ⟨th, th', s', hth, hmove, rfl⟩ := Config.step_eq_some hstep
    obtain ⟨p, hp⟩ : ∃ p, ps[i]? = some p := by
      have hlt : i < ps.length := by
        rw [htr.1]
        exact (List.getElem?_eq_some_iff.mp hth).1
      exact ⟨ps[i], List.getElem?_eq_getElem hlt⟩
    rcases (htr.2 i p th hp hth).move (hval.1 th hth) hmove with
      ⟨rfl, ht⟩ | ⟨rfl, hC, ht⟩ | ⟨rfl, hms, e, ht⟩
    · have hset : ps.set i p = ps := by
        obtain ⟨hlt, rfl⟩ := List.getElem?_eq_some_iff.mp hp
        exact List.set_getElem_self hlt
      have htr₁ := htr.set i c.store ht
      rw [hset] at htr₁
      exact ih hrest hval₁ hI htr₁
    · exact ih hrest hval₁ (hadvance c.store ps i p hp hC hI) (htr.set i _ ht)
    · exact ih hrest hval₁ (hfail c.store ps i p e hp hms hI) (htr.set i _ ht)

end Validated

/-! ## Serial runs -/

/-- What the thread has read since its last commit still stands. -/
def Thread.Current (th : Thread σ ρ ε α) (s : σ) : Prop := ∀ r ∈ th.reads, r s

theorem Thread.Current.move {th th' : Thread σ ρ ε α} {s s' : σ}
    {free : List (ρ × LockMode) → Bool} (h : th.Current s)
    (hm : th.move free s = some (th', s')) : th'.Current s' := by
  obtain ⟨phase, pending, held, reads⟩ := th
  have hread : ∀ r : σ → Prop, r s → ∀ r' ∈ r :: reads, r' s := by
    intro r hr r' hr'
    rcases List.mem_cons.mp hr' with rfl | hr'
    · exact hr
    · exact h r' hr'
  cases phase with
  | idle q =>
    cases q with
    | ret a => simp [Thread.move] at hm
    | raise e => simp [Thread.move] at hm
    | peek f k =>
      cases hm
      exact hread _ rfl
    | atomic body k =>
      cases hm
      exact h
  | busy rest k =>
    cases rest with
    | ret b =>
      cases hm
      exact fun r hr => (List.not_mem_nil hr).elim
    | raise e =>
      cases hm
      exact fun r hr => (List.not_mem_nil hr).elim
    | query f k' =>
      cases hm
      exact hread _ rfl
    | lock rows k' =>
      simp only [Thread.move] at hm
      split at hm
      · cases hm
        exact h
      · cases hm
    | write f k' =>
      cases hm
      exact h

section Serial

variable [DecidableEq ρ]

theorem Config.validatedRun_append {C : σ → Prop} {c c' : Config σ ρ ε α} {l l' : List ℕ}
    (hexec : c.exec l = some c') (h : c.ValidatedRun C l) (h' : c'.ValidatedRun C l') :
    c.ValidatedRun C (l ++ l') := by
  induction l generalizing c with
  | nil =>
    cases hexec
    exact h'
  | cons i l ih =>
    simp only [Config.exec, Option.bind_eq_some_iff] at hexec
    obtain ⟨c₁, hstep, hrest⟩ := hexec
    refine ⟨h.1, fun c₂ h₂ => ?_⟩
    rw [hstep] at h₂
    cases h₂
    exact ih hrest (h.2 c₁ hstep)

/-- The condition holds of every store the run passes through. -/
def Config.Along (C : σ → Prop) (c : Config σ ρ ε α) : List ℕ → Prop
  | [] => C c.store
  | i :: is => C c.store ∧
    match c.step i with
    | none => True
    | some c' => c'.Along C is

instance Config.decidableAlong (C : σ → Prop) [DecidablePred C] :
    ∀ (sched : List ℕ) (c : Config σ ρ ε α), Decidable (c.Along C sched)
  | [], c => inferInstanceAs (Decidable (C c.store))
  | i :: is, c =>
    @instDecidableAnd (C c.store) _ inferInstance
      (match c.step i with
      | none => .isTrue trivial
      | some c' => Config.decidableAlong C is c')

theorem Config.along_of_forall {C : σ → Prop} (h : ∀ s, C s) (sched : List ℕ)
    (c : Config σ ρ ε α) : c.Along C sched := by
  induction sched generalizing c with
  | nil => exact h c.store
  | cons i is ih =>
    refine ⟨h c.store, ?_⟩
    split
    · trivial
    · exact ih _

theorem Config.Along.step {C : σ → Prop} {c c' : Config σ ρ ε α} {i : ℕ} {is : List ℕ}
    (h : c.Along C (i :: is)) (hstep : c.step i = some c') : c'.Along C is := by
  have hrest := h.2
  rw [hstep] at hrest
  exact hrest

theorem Config.Along.append {C : σ → Prop} {c c' : Config σ ρ ε α} {l l' : List ℕ}
    (hexec : c.exec l = some c') (h : c.Along C (l ++ l')) : c.Along C l ∧ c'.Along C l' := by
  induction l generalizing c with
  | nil =>
    cases hexec
    cases l' with
    | nil => exact ⟨h, h⟩
    | cons i is => exact ⟨h.1, h⟩
  | cons i l ih =>
    simp only [Config.exec, Option.bind_eq_some_iff] at hexec
    obtain ⟨c₁, hstep, hrest⟩ := hexec
    obtain ⟨hl, hl'⟩ := ih hrest (h.step hstep)
    refine ⟨⟨h.1, ?_⟩, hl'⟩
    rw [hstep]
    exact hl

theorem Config.validatedRun_replicate {C : σ → Prop} (i n : ℕ) {c : Config σ ρ ε α}
    (hcur : ∀ th, c.threads[i]? = some th → th.Current c.store)
    (hC : c.Along C (List.replicate n i)) : c.ValidatedRun C (List.replicate n i) := by
  induction n generalizing c with
  | zero => trivial
  | succ n ih =>
    refine ⟨fun th hth => ?_, fun c' hstep => ih ?_ (hC.step hstep)⟩
    · have hcommit : C c.store := hC.1
      unfold Thread.Validated
      split
      · exact ⟨hcur th hth, hcommit⟩
      · exact fun _ => ⟨hcur th hth, hcommit⟩
      · trivial
    · obtain ⟨th, th', s', hth, hmove, rfl⟩ := Config.step_eq_some hstep
      intro u hu
      rw [getElem?_set_of_some hth hu]
      exact (hcur th hth).move hmove

theorem Config.validatedRun_serial {C : σ → Prop} {s : σ} {p q : Program σ ρ ε α} (n m : ℕ)
    {c' : Config σ ρ ε α} (hexec : (Config.start s [p, q]).exec (List.replicate n 0) = some c')
    (hC : (Config.start s [p, q]).Along C (List.replicate n 0 ++ List.replicate m 1)) :
    (Config.start s [p, q]).ValidatedRun C (List.replicate n 0 ++ List.replicate m 1) := by
  obtain ⟨hfirst, hsecond⟩ := Config.Along.append hexec hC
  refine Config.validatedRun_append hexec (Config.validatedRun_replicate 0 n ?_ hfirst)
    (Config.validatedRun_replicate 1 m ?_ hsecond)
  · intro th hth
    cases hth
    exact fun r hr => (List.not_mem_nil hr).elim
  · intro th hth
    rw [Config.getElem?_exec (fun h => by cases List.eq_of_mem_replicate h) hexec] at hth
    cases hth
    exact fun r hr => (List.not_mem_nil hr).elim

end Serial

theorem Thread.exists_of_ended {th : Thread σ ρ ε α} (h : th.ended = true) :
    ∃ p, th.phase = .idle p ∧ p.Ended := by
  obtain ⟨phase, pending, held, reads⟩ := th
  cases phase with
  | idle p =>
    refine ⟨p, rfl, ?_⟩
    cases p with
    | ret a => trivial
    | raise e => trivial
    | peek q k => cases h
    | atomic body k => cases h
  | busy rest k => cases h

theorem Config.ended_of_finished {c : Config σ ρ ε α} {ps : List (Program σ ρ ε α)}
    (hf : c.finished = true) (htr : c.TracksAll ps) {p : Program σ ρ ε α} (hp : p ∈ ps) :
    p.Ended := by
  obtain ⟨i, hi, rfl⟩ := List.getElem_of_mem hp
  have hlt : i < c.threads.length := htr.1 ▸ hi
  have ht := htr.2 i ps[i] c.threads[i] (List.getElem?_eq_getElem hi)
    (List.getElem?_eq_getElem hlt)
  have hend : c.threads[i].ended = true := List.all_eq_true.mp hf _ (List.getElem_mem hlt)
  obtain ⟨q, hq, hended⟩ := Thread.exists_of_ended hend
  exact ht.ended q hq hended

end ReadCommitted
