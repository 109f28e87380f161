import SchoolPlatform.Analysis.TheoremExpirySync
import SchoolPlatform.Library.LastReads
import SchoolPlatform.Analysis.OperationMoments

/-!
# Runs of the periodic task beside an operation

The operation acts at one moment of the run: on the contracts as the task has them then. Before it the
task has written some of the rows that it has found, afterwards it writes the others.
-/

/-! ## The turns of the periodic task -/

namespace SchoolPlatform.Subscriptions

open ReadCommitted

variable {s s' : Contracts}

def Contracts.write (s : Contracts) (savedAt : ℕ → Instant) (p : ℕ × SubscriptionStatus) :
    Contracts :=
  s.changeSubscription p.1 (written savedAt p)

def Contracts.writeAll (s : Contracts) (savedAt : ℕ → Instant)
    (ps : List (ℕ × SubscriptionStatus)) : Contracts :=
  ps.foldl (fun s p => s.write savedAt p) s

def taskLoop (savedAt : ℕ → Instant) (counts : ℕ × ℕ) (rest : List (ℕ × SubscriptionStatus)) :
    ContractProgram Unit :=
  ((Program.forEach (fun p => Program.transaction (saveStatus p.1 p.2 (savedAt p.1)))
    rest).bind fun _ => .ret counts).bind fun _ => .ret ()

variable {savedAt : ℕ → Instant} {counts : ℕ × ℕ} {p : ℕ × SubscriptionStatus}
  {rest : List (ℕ × SubscriptionStatus)}

theorem taskLoop_cons : taskLoop savedAt counts (p :: rest) =
    .atomic (saveStatus p.1 p.2 (savedAt p.1)) fun _ => taskLoop savedAt counts rest := rfl

theorem program_syncExpirations (now : Instant) :
    (ContractCall.syncExpirations now savedAt).program =
      .peek (fun s => s.outdated now) fun ps => taskLoop savedAt
        (ps.countP fun p => p.2 = .expired, ps.countP fun p => p.2 = .gracePeriod) ps := rfl

/-- The locks under which a row is written: those of the row, and of the index of live contracts where
the row is live before or after. -/
def WritesUnder (s : Contracts) (p : ℕ × SubscriptionStatus)
    (held : List (ContractRow × LockMode)) : Prop :=
  WriteLocked held (.subscription p.1) ∧ ∀ x, s.subscriptions.get? p.1 = some x →
    (x.status.isLive || p.2.isLive) = true → WriteLocked held (.liveOf x.school)

theorem check_endsHolding {α : Type} {H : List (ContractRow × LockMode) → Prop} {c : Bool}
    {e : Failure} {held : List (ContractRow × LockMode)} {g : Unit → ContractTransaction α}
    (h : (g ()).EndsHolding H held s) : ((check c e).bind g).EndsHolding H held s := by
  cases c with
  | true => exact h
  | false => trivial

theorem lockRows_endsHolding {α : Type} {H : List (ContractRow × LockMode) → Prop} {m : LockMode}
    {rows : List ContractRow} {held : List (ContractRow × LockMode)}
    {g : Unit → ContractTransaction α}
    (h : (g ()).EndsHolding H (rows.map (fun r => (r, m)) ++ held) s) :
    ((Tx.lockRows m rows).bind g).EndsHolding H held s := h

theorem select_endsHolding {α β : Type} {H : List (ContractRow × LockMode) → Prop}
    {q : Contracts → β} {held : List (ContractRow × LockMode)} {g : β → ContractTransaction α}
    (h : (g (q s)).EndsHolding H held s) : ((Tx.select q).bind g).EndsHolding H held s := h

theorem saveStatus_endsHolding (s : Contracts) (p : ℕ × SubscriptionStatus) :
    (saveStatus p.1 p.2 (savedAt p.1)).EndsHolding (WritesUnder s p) [] s := by
  unfold saveStatus saveSubscription
  simp only [Tx.bind_eq]
  refine lockRows_endsHolding (select_endsHolding ?_)
  cases hget : s.subscriptions.get? p.1 with
  | none => trivial
  | some x =>
    simp only [checkSubscription, Tx.bind_eq, Tx.bind_assoc]
    refine check_endsHolding (check_endsHolding ?_)
    refine ⟨⟨.noKeyUpdate, by decide, List.mem_append_right _ List.mem_cons_self⟩, ?_⟩
    intro y hy hlive
    rw [hget] at hy
    cases hy
    refine ⟨.update, by decide, List.mem_append_left _ ?_⟩
    rw [if_pos hlive]
    exact List.mem_cons_self

theorem saveStatus_acts (p : ℕ × SubscriptionStatus) (last : Contracts → Prop) :
    (saveStatus p.1 p.2 (savedAt p.1)).Acts (fun _ => True)
      (fun _ f _ => f = fun s => s.write savedAt p) last fun s => s := by
  have hcheck : ∀ {c : Bool} {e : Failure} {g : Unit → ContractTransaction Unit}
      {last : Contracts → Prop},
      (∀ last, (g ()).Acts (fun _ => True) (fun _ f _ => f = fun s => s.write savedAt p) last
        fun s => s) →
      ((check c e).bind g).Acts (fun _ => True) (fun _ f _ => f = fun s => s.write savedAt p) last
        fun s => s := by
    intro c e g last hg
    cases c with
    | true => exact hg last
    | false => trivial
  intro found _
  cases found with
  | none => trivial
  | some x =>
    simp only [checkSubscription, Tx.bind_eq, Tx.bind_assoc]
    refine hcheck fun _ => ?_
    intro taken _
    exact hcheck fun _ => rfl

/-- The thread of the task with these rows left, on the store `s`; the locks at its next commit are
known while nobody else commits. -/
inductive TaskAt (savedAt : ℕ → Instant) (counts : ℕ × ℕ) (s : Contracts) (known : Prop) :
    List (ℕ × SubscriptionStatus) → Thread Contracts ContractRow Failure Unit → Prop
  | idle (rest : List (ℕ × SubscriptionStatus)) (th : Thread Contracts ContractRow Failure Unit)
      (phase : th.phase = .idle (taskLoop savedAt counts rest)) (pending : th.pending = [])
      (held : th.held = []) : TaskAt savedAt counts s known rest th
  | busy (p : ℕ × SubscriptionStatus) (rest : List (ℕ × SubscriptionStatus))
      (th : Thread Contracts ContractRow Failure Unit) (body : ContractTransaction Unit)
      (last : Contracts → Prop)
      (phase : th.phase = .busy body fun _ => taskLoop savedAt counts rest)
      (commits : body.Acts (fun _ => True) (fun _ f _ => f = fun s => s.write savedAt p) last
        th.view)
      (holding : known → body.EndsHolding (WritesUnder s p) th.held (th.view s)) :
      TaskAt savedAt counts s known (p :: rest) th

variable {known : Prop} {th th' : Thread Contracts ContractRow Failure Unit}

theorem TaskAt.forget (h : TaskAt savedAt counts s known rest th) (t : Contracts) :
    TaskAt savedAt counts t False rest th := by
  cases h with
  | idle rest th phase pending held => exact .idle rest th phase pending held
  | busy p rest th body last phase commits holding =>
    exact .busy p rest th body last phase commits fun h => h.elim

theorem TaskAt.start (s : Contracts) (known : Prop) (rest : List (ℕ × SubscriptionStatus)) :
    TaskAt savedAt counts s known rest (.start (taskLoop savedAt counts rest)) :=
  .idle rest _ rfl rfl rfl

theorem TaskAt.returned (h : TaskAt savedAt counts s known rest th) (hth : th.returned = true) :
    rest = [] := by
  obtain ⟨a, ha⟩ := Thread.returned_eq hth
  cases h with
  | idle rest th phase pending held =>
    rw [ha, Phase.idle.injEq] at phase
    cases rest with
    | nil => rfl
    | cons p rest =>
      rw [taskLoop_cons] at phase
      cases phase
  | busy p rest th body last phase commits holding =>
    rw [ha] at phase
    cases phase

theorem TaskAt.move {free : List (ContractRow × LockMode) → Bool}
    (h : TaskAt savedAt counts s known rest th) (hmove : th.move free s = some (th', s')) :
    (s' = s ∧ TaskAt savedAt counts s known rest th') ∨
      (∃ p rest', rest = p :: rest' ∧ s' = s.write savedAt p ∧
        (known → WritesUnder s p th.held) ∧ th' = .start (taskLoop savedAt counts rest')) ∨
      (s' = s ∧ ∃ e, th' = .start (.raise e)) := by
  cases h with
  | idle rest th phase pending held =>
    unfold Thread.move at hmove
    rw [phase] at hmove
    cases rest with
    | nil => cases hmove
    | cons p rest =>
      rw [taskLoop_cons] at hmove
      cases hmove
      have hnone : ∀ phase : Phase Contracts ContractRow Failure Unit,
          ({ th with phase := phase } : Thread Contracts ContractRow Failure Unit).view =
            fun t => t := fun _ => Thread.view_of_none pending
      refine .inl ⟨rfl, .busy p rest _ _ (fun _ => True) rfl ?_ fun _ => ?_⟩
      · rw [hnone]
        exact saveStatus_acts p _
      · rw [hnone, held]
        exact saveStatus_endsHolding s p
  | busy p rest th body last phase commits holding =>
    unfold Thread.move at hmove
    rw [phase] at hmove
    cases body with
    | ret b =>
      cases hmove
      have hcommit : th.view = fun s => s.write savedAt p := commits
      refine .inr (.inl ⟨p, rest, rfl, ?_, holding, rfl⟩)
      rw [hcommit]
    | raise e =>
      cases hmove
      exact .inr (.inr ⟨rfl, e, rfl⟩)
    | query q k =>
      cases hmove
      exact .inl ⟨rfl, .busy p rest _ _ _ rfl (commits _ ⟨s, trivial, rfl⟩) holding⟩
    | lock rows k =>
      dsimp only at hmove
      split at hmove
      · cases hmove
        exact .inl ⟨rfl, .busy p rest _ k last rfl commits holding⟩
      · cases hmove
    | write f k =>
      cases hmove
      refine .inl ⟨rfl, .busy p rest _ k last rfl ?_ fun hknown => ?_⟩
      · rw [Thread.view_write]
        exact commits
      · rw [Thread.view_write]
        exact holding hknown

abbrev ContractRun := Config Contracts ContractRow Failure Unit

abbrev ContractThread := Thread Contracts ContractRow Failure Unit

def syncBeside (school : ℕ) (op : SchoolOperation) (now : Instant) (savedAt : ℕ → Instant)
    (s : Contracts) : ContractRun :=
  Config.start s [(ContractCall.syncExpirations now savedAt).program, (op.call school).program]

/-- Rows whose status changes get the status by which they are outdated. -/
def WrittenInTime (now : Instant) (s s' : Contracts) : Prop :=
  ∀ p ∈ s.subscriptions, ∀ y ∈ s'.subscriptions.get? p.1,
    y.status ≠ p.2.status → (p.1, y.status) ∈ s.outdated now

/-- Whenever the task changes the status of a row, the row is still outdated as it has been found. -/
def WritesInTime (now : Instant) : ContractRun → List ℕ → Prop
  | _, [] => True
  | c, i :: is => ∀ c', c.step i = some c' →
    (i = 0 → WrittenInTime now c.store c'.store) ∧ WritesInTime now c' is

def SchoolOperation.on (op : SchoolOperation) (school : ℕ) (s : Contracts) : Contracts :=
  ((op.body school).outcome (Program.ret : Unit → ContractProgram Unit) s).2

theorem SchoolOperation.handle_eq (op : SchoolOperation) (school : ℕ) (s : Contracts) :
    s.handle (op.call school) = op.on school s := by
  unfold Contracts.handle SchoolOperation.on Tx.outcome
  rw [op.program_eq]
  simp only [Program.run]
  cases (op.body school).eval s <;> rfl

variable {school : ℕ} {op : SchoolOperation} {now : Instant} {savedAt : ℕ → Instant}
  {s₀ s s' : Contracts} {c c' : ContractRun} {i : ℕ}

theorem agrees_write {p : ℕ × SubscriptionStatus} {held held' : List (ContractRow × LockMode)}
    (hids : (Dict.keys s.subscriptions).Nodup) (hcompat : Compatible held held')
    (hunder : WritesUnder s p held') : ContractsAgree school held s (s.write savedAt p) where
  plans := rfl
  planEntitlements := rfl
  entitlements := rfl
  rows := by
    unfold Contracts.write Contracts.changeSubscription Dict.adjust Dict.mapValues
    rw [List.forall₂_map_right_iff, List.forall₂_same]
    intro r hr
    by_cases hid : r.1 = p.1
    · have hget : s.subscriptions.get? p.1 = some r.2 := by
        rw [← hid]
        exact (Dict.mem_iff_get? hids r.1 r.2).mp hr
      simp only [hid, if_true]
      refine ⟨hid.symm, rfl, rfl, rfl, fun _ hlocked => ?_, fun howner hlocked => ?_⟩
      · rw [hid] at hlocked
        exact absurd hunder.1 (hcompat.not_writeLocked hlocked)
      · cases hlive : r.2.status.isLive || p.2.isLive with
        | true =>
          have hheld := hunder.2 r.2 hget hlive
          rw [howner] at hheld
          exact absurd hheld (hcompat.not_writeLocked hlocked)
        | false =>
          rw [Bool.or_eq_false_iff] at hlive
          show p.2.isLive = r.2.status.isLive
          rw [hlive.1, hlive.2]
    · simp only [if_neg hid]
      exact RowAgrees.refl r

def writtenInTime (now : Instant) (savedAt : ℕ → Instant) :
    Contracts → List (ℕ × SubscriptionStatus) → Prop
  | _, [] => True
  | s, p :: ps => WrittenInTime now s (s.write savedAt p) ∧
    writtenInTime now savedAt (s.write savedAt p) ps

theorem writtenInTime_concat {ps : List (ℕ × SubscriptionStatus)} {p : ℕ × SubscriptionStatus}
    (h : writtenInTime now savedAt s ps)
    (hlast : WrittenInTime now (s.writeAll savedAt ps) ((s.writeAll savedAt ps).write savedAt p)) :
    writtenInTime now savedAt s (ps ++ [p]) := by
  induction ps generalizing s with
  | nil => exact ⟨hlast, trivial⟩
  | cons q ps ih => exact ⟨h.1, ih h.2 hlast⟩

theorem writeAll_concat (ps : List (ℕ × SubscriptionStatus)) (p : ℕ × SubscriptionStatus) :
    s.writeAll savedAt (ps ++ [p]) = (s.writeAll savedAt ps).write savedAt p := by
  unfold Contracts.writeAll
  rw [List.foldl_append]
  rfl

theorem keys_write (p : ℕ × SubscriptionStatus) :
    Dict.keys (s.write savedAt p).subscriptions = Dict.keys s.subscriptions :=
  keys_changeSubscription p.1 _

/-! ## Before the operation, and after it -/

structure Before (school : ℕ) (op : SchoolOperation) (now : Instant) (savedAt : ℕ → Instant)
    (s₀ : Contracts) (c : ContractRun) (task operation : ContractThread) : Prop where
  threads : c.threads = [task, operation]
  locks : c.LocksOk
  ids : (Dict.keys c.store.subscriptions).Nodup
  written : task = .start (ContractCall.syncExpirations now savedAt).program ∧ c.store = s₀ ∨
    (∃ done rest counts, s₀.outdated now = done ++ rest ∧
      c.store = s₀.writeAll savedAt done ∧ TaskAt savedAt counts c.store True rest task) ∨
    ∃ e, task = .start (.raise e)
  inside : operation = .start (op.call school).program ∨
    ∃ rest, Inside (agreement school) (op.body school) .ret operation rest c.store

def LeftBy (school : ℕ) (op : SchoolOperation) (now : Instant) (savedAt : ℕ → Instant)
    (s₀ s₁ : Contracts) (ps : List (ℕ × SubscriptionStatus)) : Prop :=
  (∃ done, s₀.outdated now = done ++ ps ∧ s₁ = op.on school (s₀.writeAll savedAt done)) ∨
    s₁ = op.on school s₀ ∧ ps = s₁.outdated now

structure After (school : ℕ) (op : SchoolOperation) (now : Instant) (savedAt : ℕ → Instant)
    (s₀ : Contracts) (c : ContractRun) (task operation : ContractThread) : Prop where
  threads : c.threads = [task, operation]
  ended : operation.ended = true
  written : task = .start (ContractCall.syncExpirations now savedAt).program ∧
      c.store = op.on school s₀ ∨
    (∃ s₁ ps done rest counts, LeftBy school op now savedAt s₀ s₁ ps ∧ ps = done ++ rest ∧
      c.store = s₁.writeAll savedAt done ∧ writtenInTime now savedAt s₁ done ∧
      TaskAt savedAt counts c.store False rest task) ∨
    ∃ e, task = .start (.raise e)

theorem step_of_two {c c' : ContractRun} {th₀ th₁ : ContractThread} {i : ℕ}
    (hthreads : c.threads = [th₀, th₁]) (hstep : c.step i = some c') :
    (i = 0 ∧ ∃ th', th₀.move (c.free 0) c.store = some (th', c'.store) ∧
      c'.threads = [th', th₁]) ∨
    (i = 1 ∧ ∃ th', th₁.move (c.free 1) c.store = some (th', c'.store) ∧
      c'.threads = [th₀, th']) := by
  obtain ⟨th, th', s', hth, hmove, rfl⟩ := Config.step_eq_some hstep
  rw [hthreads] at hth
  cases i with
  | zero =>
    cases hth
    refine .inl ⟨rfl, th', hmove, ?_⟩
    rw [hthreads]
    rfl
  | succ i =>
    cases i with
    | zero =>
      cases hth
      refine .inr ⟨rfl, th', hmove, ?_⟩
      rw [hthreads]
      rfl
    | succ i => cases hth

theorem Before.start (hids : (Dict.keys s₀.subscriptions).Nodup) :
    Before school op now savedAt s₀ (syncBeside school op now savedAt s₀)
      (.start (ContractCall.syncExpirations now savedAt).program)
      (.start (op.call school).program) where
  threads := rfl
  locks := Config.locksOk_start s₀ _
  ids := hids
  written := .inl ⟨rfl, rfl⟩
  inside := .inl rfl

theorem move_start {free : List (ContractRow × LockMode) → Bool} {th' : ContractThread}
    (hmove : (Thread.start (ContractCall.syncExpirations now savedAt).program).move free s =
      some (th', s')) (known : Prop) : s' = s ∧ ∃ counts,
        TaskAt savedAt counts s' known (s.outdated now) th' := by
  rw [program_syncExpirations] at hmove
  simp only [Thread.move, Thread.start] at hmove
  cases hmove
  exact ⟨rfl, _, .idle _ _ rfl rfl rfl⟩

theorem not_move_raise {free : List (ContractRow × LockMode) → Bool} {th' : ContractThread}
    {e : Failure} (hmove : (Thread.start (.raise e) : ContractThread).move free s =
      some (th', s')) : False := by
  cases hmove

theorem Before.moveTask {task operation task' : ContractThread}
    (h : Before school op now savedAt s₀ c task operation) (hstep : c.step 0 = some c')
    (hmove : task.move (c.free 0) c.store = some (task', c'.store))
    (hthreads : c'.threads = [task', operation]) :
    Before school op now savedAt s₀ c' task' operation := by
  have hlocks : c'.LocksOk := h.locks.step hstep
  have hcompat : Compatible operation.held task.held := by
    refine h.locks 1 0 operation task (by decide) ?_ ?_ <;> rw [h.threads] <;> rfl
  -- What a silent statement leaves.
  have hsilent : c'.store = c.store → ∀ written, Before school op now savedAt s₀ c' task' operation :=
    fun hsame written => ⟨hthreads, hlocks, hsame ▸ h.ids, written, hsame ▸ h.inside⟩
  rcases h.written with ⟨htask, hstore⟩ | ⟨done, rest, counts, hfound, hstore, hat⟩ | ⟨e, htask⟩
  · rw [htask] at hmove
    obtain ⟨hsame, counts, hat⟩ := move_start hmove True
    refine hsilent hsame (.inr (.inl ⟨[], s₀.outdated now, counts, rfl, ?_, ?_⟩))
    · rw [hsame, hstore]
      rfl
    · rw [hstore] at hat
      exact hat
  · rcases hat.move hmove with ⟨hsame, hat'⟩ | ⟨p, rest', hrest, hwrite, hunder, htask'⟩ |
      ⟨hsame, e, htask'⟩
    · refine hsilent hsame (.inr (.inl ⟨done, rest, counts, hfound, ?_, ?_⟩))
      · rw [hsame, hstore]
      · rw [hsame]
        exact hat'
    · have hagrees : ContractsAgree school operation.held c.store c'.store := by
        rw [hwrite]
        exact agrees_write h.ids hcompat (hunder trivial)
      refine ⟨hthreads, hlocks, ?_, .inr (.inl ⟨done ++ [p], rest', counts, ?_, ?_, ?_⟩), ?_⟩
      · rw [hwrite, keys_write]
        exact h.ids
      · rw [hfound, hrest, List.append_assoc]
        rfl
      · rw [hwrite, hstore, writeAll_concat]
      · rw [htask']
        exact TaskAt.start _ _ _
      · rcases h.inside with hstart | ⟨rest₁, hinside⟩
        · exact .inl hstart
        · exact .inr ⟨rest₁, hinside.interfere hagrees⟩
    · exact hsilent hsame (.inr (.inr ⟨e, htask'⟩))
  · rw [htask] at hmove
    exact (not_move_raise hmove).elim

theorem Before.moveOperation {task operation operation' : ContractThread}
    (h : Before school op now savedAt s₀ c task operation) (hstep : c.step 1 = some c')
    (hmove : operation.move (c.free 1) c.store = some (operation', c'.store))
    (hthreads : c'.threads = [task, operation']) :
    Before school op now savedAt s₀ c' task operation' ∨
      After school op now savedAt s₀ c' task operation' := by
  have hlocks : c'.LocksOk := h.locks.step hstep
  rcases h.inside with hstart | ⟨rest, hinside⟩
  · -- The transaction is entered.
    rw [hstart, op.program_eq] at hmove
    simp only [Thread.move, Thread.start, Option.some.injEq, Prod.mk.injEq] at hmove
    obtain ⟨hthread, hsame⟩ := hmove
    have hentered : Inside (agreement school) (op.body school) .ret operation' (op.body school)
        c'.store := by
      refine Inside.start (op.followed (hsame ▸ h.ids)) ?_ ?_ ?_ <;> rw [← hthread]
    exact .inl ⟨hthreads, hlocks, hsame ▸ h.ids, hsame ▸ h.written, .inr ⟨_, hentered⟩⟩
  · rcases hinside.move hmove with ⟨hsame, rest', hinside'⟩ | ⟨hacted, hthread⟩
    · rw [← hsame] at hinside'
      exact .inl ⟨hthreads, hlocks, hsame ▸ h.ids, hsame ▸ h.written, .inr ⟨rest', hinside'⟩⟩
    · -- The operation acts on the contracts as the task has them now.
      have hstore : c'.store = op.on school c.store := hacted
      refine .inr ⟨hthreads, ?_, ?_⟩
      · rw [hthread]
        unfold Tx.outcome
        cases (op.body school).eval c.store <;> rfl
      · rcases h.written with ⟨htask, hs₀⟩ | ⟨done, ps, counts, hfound, hs₀, hat⟩ | hraised
        · rw [hs₀] at hstore
          exact .inl ⟨htask, hstore⟩
        · rw [hs₀] at hstore
          exact .inr (.inl ⟨c'.store, ps, [], ps, counts, .inl ⟨done, hfound, hstore⟩, rfl, rfl,
            trivial, hat.forget c'.store⟩)
        · exact .inr (.inr hraised)

theorem After.step {task operation : ContractThread}
    (h : After school op now savedAt s₀ c task operation) (hstep : c.step i = some c')
    (htime : i = 0 → WrittenInTime now c.store c'.store) :
    ∃ task', After school op now savedAt s₀ c' task' operation := by
  rcases step_of_two h.threads hstep with ⟨rfl, task', hmove, hthreads⟩ |
    ⟨rfl, operation', hmove, hthreads⟩
  · refine ⟨task', hthreads, h.ended, ?_⟩
    rcases h.written with ⟨htask, hstore⟩ |
      ⟨s₁, ps, done, rest, counts, hleft, hps, hstore, hdone, hat⟩ | ⟨e, htask⟩
    · rw [htask] at hmove
      obtain ⟨hsame, counts, hat⟩ := move_start hmove False
      refine .inr (.inl ⟨c.store, c.store.outdated now, [], _, counts, .inr ⟨hstore, rfl⟩, rfl, ?_,
        trivial, hat⟩)
      rw [hsame]
      rfl
    · rcases hat.move hmove with ⟨hsame, hat'⟩ | ⟨p, rest', hrest, hwrite, -, htask'⟩ |
        ⟨-, e, htask'⟩
      · rw [← hsame] at hstore hat'
        exact .inr (.inl ⟨s₁, ps, done, rest, counts, hleft, hps, hstore, hdone, hat'⟩)
      · have htime' := htime rfl
        rw [hwrite, hstore] at htime'
        refine .inr (.inl ⟨s₁, ps, done ++ [p], rest', counts, hleft, ?_, ?_,
          writtenInTime_concat hdone htime', ?_⟩)
        · rw [hps, hrest, List.append_assoc]
          rfl
        · rw [hwrite, hstore, writeAll_concat]
        · rw [htask']
          exact TaskAt.start _ _ _
      · exact .inr (.inr ⟨e, htask'⟩)
    · rw [htask] at hmove
      exact (not_move_raise hmove).elim
  · -- The operation has no statement left.
    have hnot := Thread.not_ended_of_move hmove
    rw [h.ended] at hnot
    cases hnot

theorem After.run {sched : List ℕ} {task operation : ContractThread}
    (h : After school op now savedAt s₀ c task operation) (hexec : c.exec sched = some c')
    (htime : WritesInTime now c sched) :
    ∃ task', After school op now savedAt s₀ c' task' operation := by
  induction sched generalizing c task with
  | nil =>
    cases hexec
    exact ⟨task, h⟩
  | cons i is ih =>
    rw [Config.exec, Option.bind_eq_some_iff] at hexec
    obtain ⟨c₁, hstep, hrest⟩ := hexec
    obtain ⟨hnow, hlater⟩ := htime c₁ hstep
    obtain ⟨task', h'⟩ := h.step hstep hnow
    exact ih h' hrest hlater

theorem Before.run {sched : List ℕ} {task operation : ContractThread}
    (h : Before school op now savedAt s₀ c task operation) (hexec : c.exec sched = some c')
    (htime : WritesInTime now c sched) :
    ∃ task' operation', Before school op now savedAt s₀ c' task' operation' ∨
      After school op now savedAt s₀ c' task' operation' := by
  induction sched generalizing c task operation with
  | nil =>
    cases hexec
    exact ⟨task, operation, .inl h⟩
  | cons i is ih =>
    rw [Config.exec, Option.bind_eq_some_iff] at hexec
    obtain ⟨c₁, hstep, hrest⟩ := hexec
    obtain ⟨-, hlater⟩ := htime c₁ hstep
    rcases step_of_two h.threads hstep with ⟨rfl, task', hmove, hthreads⟩ |
      ⟨rfl, operation', hmove, hthreads⟩
    · exact ih (h.moveTask hstep hmove hthreads) hrest hlater
    · rcases h.moveOperation hstep hmove hthreads with hbefore | hafter
      · exact ih hbefore hrest hlater
      · obtain ⟨task', h'⟩ := hafter.run hrest hlater
        exact ⟨task', operation', .inr h'⟩

/-- The task has returned, and the operation has ended. -/
def Over (c : ContractRun) : Prop :=
  (c.threads[0]?).all Thread.returned = true ∧ (c.threads[1]?).all Thread.ended = true

/-- **What a run leaves**: the rows that the task wrote after the operation were written on the
contracts that the operation has left. -/
theorem left_of_exec {sched : List ℕ} (hids : (Dict.keys s₀.subscriptions).Nodup)
    (hexec : (syncBeside school op now savedAt s₀).exec sched = some c)
    (htime : WritesInTime now (syncBeside school op now savedAt s₀) sched) (hover : Over c) :
    ∃ s₁ ps, LeftBy school op now savedAt s₀ s₁ ps ∧ c.store = s₁.writeAll savedAt ps ∧
      writtenInTime now savedAt s₁ ps := by
  obtain ⟨task, operation, hbefore | hafter⟩ := (Before.start hids).run hexec htime
  · -- The operation has ended, and has acted before.
    have hended : operation.ended = true := by
      have hlast := hover.2
      rw [hbefore.threads] at hlast
      exact hlast
    rcases hbefore.inside with hstart | ⟨rest, hinside⟩
    · rw [hstart, op.program_eq] at hended
      cases hended
    · unfold Thread.ended at hended
      rw [hinside.phase] at hended
      cases hended
  · have hreturned : task.returned = true := by
      have hfirst := hover.1
      rw [hafter.threads] at hfirst
      exact hfirst
    rcases hafter.written with ⟨htask, -⟩ |
      ⟨s₁, ps, done, rest, counts, hleft, hps, hstore, hdone, hat⟩ | ⟨e, htask⟩
    · rw [htask, program_syncExpirations] at hreturned
      cases hreturned
    · rw [hat.returned hreturned, List.append_nil] at hps
      subst hps
      exact ⟨s₁, ps, hleft, hstore, hdone⟩
    · rw [htask] at hreturned
      cases hreturned

end SchoolPlatform.Subscriptions
