import SchoolPlatform.Library.Checks
import SchoolPlatform.Analysis.DashboardSteps

/-!
# The programs of the dashboard

Each call keeps its promise, on whatever the others leave it. A read returns a value that was seen
under the key which it has built itself; an operation that has changed something has counted the
version up.
-/

namespace SchoolPlatform.DashboardCache

open ReadCommitted

variable {calls : List DashboardCall} {i : ℕ} {key : DashboardKey}

variable {held : List (DashboardRow × LockMode)} {s s' : DashboardStore} {o : Operation}

/-! ## Readers -/

def Reading (calls : List DashboardCall) (i : ℕ) (key : DashboardKey) (s : DashboardStore) : Prop :=
  Sound calls s ∧ (s.locals i).key = some key

def Filled (calls : List DashboardCall) (i : ℕ) (key : DashboardKey)
    (a : Except DashboardFailure Payload) (s : DashboardStore) : Prop :=
  Sound calls s ∧ (s.locals i).key = some key ∧ ∀ value, a = .ok value → FromRead s key value

def Found (calls : List DashboardCall) (i : ℕ) (key : DashboardKey) (a : Option Payload)
    (s : DashboardStore) : Prop :=
  Sound calls s ∧ (s.locals i).key = some key ∧ ∀ value ∈ a, FromRead s key value

theorem reading_keeps : (rely calls i).Keeps held (Reading calls i key) := by
  apply keeps_of
  intro s s' _ hlocals hkey
  rw [hlocals]
  exact hkey

theorem filled_keeps (a : Except DashboardFailure Payload) :
    (rely calls i).Keeps held (Filled calls i key a) := by
  apply keeps_of
  rintro s s' hadvance hlocals ⟨hkey, hvalue⟩
  rw [hlocals]
  exact ⟨hkey, fun value h => (hvalue value h).advance hadvance⟩

theorem found_keeps (a : Option Payload) : (rely calls i).Keeps held (Found calls i key a) := by
  apply keeps_of
  rintro s s' hadvance hlocals ⟨hkey, hvalue⟩
  rw [hlocals]
  exact ⟨hkey, fun value h => (hvalue value h).advance hadvance⟩

section Commands

variable {α : Type} {Post : α → DashboardStore → Prop} {K : DashboardStore → Prop}
  {f : DashboardStore → DashboardStore} {k : Unit → DashboardProgram α}

theorem command_asserts (Q : DashboardStore → Prop)
    (h : ∀ s, K s → promise calls i [] s (f s) ∧ Q (f s)) (hkept : (rely calls i).Keeps [] Q)
    (hrest : (k ()).Asserts (rely calls i) (promise calls i) Post Q) :
    ((command f).bind k).Asserts (rely calls i) (promise calls i) Post K :=
  ⟨fun _ => Q, h, fun _ => hkept, fun _ => hrest⟩

theorem command_last (Q : DashboardStore → Prop)
    (h : ∀ s, K s → promise calls i [] s (f s) ∧ Q (f s)) (hkept : (rely calls i).Keeps [] Q) :
    (command f).Asserts (rely calls i) (promise calls i) (fun _ => Q) K :=
  ⟨fun _ => Q, h, fun _ => hkept, fun _ _ hs => hs⟩

end Commands

theorem Reading.command (h : Reading calls i key s) (hpromise : promise calls i [] s s') :
    promise calls i [] s s' ∧ Reading calls i key s' :=
  ⟨hpromise, hpromise.2.2 h.1, hpromise.1.key_kept i key h.2⟩

theorem Filled.command {a : Except DashboardFailure Payload} (h : Filled calls i key a s)
    (hpromise : promise calls i [] s s') : promise calls i [] s s' ∧ Filled calls i key a s' :=
  ⟨hpromise, hpromise.2.2 h.1, hpromise.1.key_kept i key h.2.1,
    fun value hvalue => (h.2.2 value hvalue).advance hpromise.1⟩

theorem Found.command {a : Option Payload} (h : Found calls i key a s)
    (hpromise : promise calls i [] s s') : promise calls i [] s s' ∧ Found calls i key a s' :=
  ⟨hpromise, hpromise.2.2 h.1, hpromise.1.key_kept i key h.2.1,
    fun value hvalue => (h.2.2 value hvalue).advance hpromise.1⟩

theorem cacheGet_asserts {α : Type} {Post : α → DashboardStore → Prop} {reached : Bool}
    {e : EntryKey} (he : e.key = key) {k : Option Payload → DashboardProgram α}
    (hrest : ∀ a, (k a).Asserts (rely calls i) (promise calls i) Post (Found calls i key a)) :
    ((cacheGet reached e).bind k).Asserts (rely calls i) (promise calls i) Post
      (Reading calls i key) := by
  refine Program.Asserts.read (Found calls i key) ?_ (fun a => found_keeps a) hrest
  rintro s ⟨hs, hkey⟩
  refine ⟨hs, hkey, fun value hvalue => ?_⟩
  split at hvalue
  · rw [← he]
    exact hs.entries e value hvalue
  · cases hvalue

theorem queries_asserts (ns : List ℕ) :
    (Program.forEach (fun _ => query i) ns : DashboardProgram Unit).Asserts (rely calls i)
      (promise calls i) (fun _ => Reading calls i key) (Reading calls i key) := by
  induction ns with
  | nil => exact fun s hs => hs
  | cons n ns ih =>
    exact command_asserts (Reading calls i key) (fun s hs => hs.command promise_query)
      reading_keeps ih

theorem builder_asserts (queries : ℕ) (fails : Bool) :
    (builder i queries fails).Asserts (rely calls i) (promise calls i) (Filled calls i key)
      (Reading calls i key) := by
  unfold builder
  refine Program.Asserts.bind (queries_asserts _) fun _ => ?_
  refine Program.Asserts.read (fun seen => Filled calls i key (.ok ⟨seen⟩)) ?_
    (fun _ => filled_keeps _) fun seen => ?_
  · rintro s ⟨hs, hkey⟩
    refine ⟨hs, hkey, fun value hvalue => ?_⟩
    cases hvalue
    exact ⟨i, hkey, List.Subset.refl _⟩
  · rintro s ⟨hs, hkey, hvalue⟩
    refine ⟨hs, hkey, fun value h => ?_⟩
    split at h
    · cases h
    · exact hvalue value h

theorem storeBuilt_asserts (r : DashboardRead) (built : Except DashboardFailure Payload) :
    (storeBuilt r key built).Asserts (rely calls i) (promise calls i)
      (fun _ => Filled calls i key built) (Filled calls i key built) := by
  unfold storeBuilt
  cases built with
  | error e => exact fun s hs => hs
  | ok value =>
    have hset : ∀ (reached : Bool) (e : EntryKey), e.key = key →
        ∀ s, Filled calls i key (.ok value) s →
          promise calls i [] s (if reached then
            { s with entries := Function.update s.entries e (some value) } else s) ∧
          Filled calls i key (.ok value) (if reached then
            { s with entries := Function.update s.entries e (some value) } else s) := by
      intro reached e he s hs
      have hvalue : FromRead s e.key value := by
        rw [he]
        exact hs.2.2 value rfl
      exact hs.command (promise_cacheSet reached hvalue)
    refine command_asserts (Filled calls i key (.ok value)) (hset r.setValue (.value key) rfl)
      (filled_keeps _) ?_
    exact command_last (Filled calls i key (.ok value)) (hset r.setStale (.stale key) rfl)
      (filled_keeps _)

theorem fillNow_asserts (r : DashboardRead) (acquired : Bool) :
    (fillNow i r key acquired).Asserts (rely calls i) (promise calls i) (Filled calls i key)
      (Reading calls i key) := by
  unfold fillNow
  refine Program.Asserts.bind (builder_asserts r.queries r.fails) fun built => ?_
  refine Program.Asserts.bind (storeBuilt_asserts r built) fun _ => ?_
  have hrelease : (if acquired then command (releaseLock r.release i key) else pure () :
      DashboardProgram Unit).Asserts (rely calls i) (promise calls i)
      (fun _ => Filled calls i key built) (Filled calls i key built) := by
    cases acquired with
    | true =>
      exact command_last (Filled calls i key built)
        (fun s hs => hs.command (promise_releaseLock r.release key)) (filled_keeps built)
    | false => exact fun s hs => hs
  exact hrelease.bind fun _ s hs => hs

theorem found_filled {value : Payload} (h : Found calls i key (some value) s) :
    Filled calls i key (.ok value) s := by
  refine ⟨h.1, h.2.1, fun value' hvalue => ?_⟩
  cases hvalue
  exact h.2.2 value rfl

theorem filled_error {e : DashboardFailure} (hs : Sound calls s)
    (hkey : (s.locals i).key = some key) : Filled calls i key (.error e) s :=
  ⟨hs, hkey, fun _ h => by cases h⟩

theorem fillLoop_asserts (r : DashboardRead) (stale : Option Payload) (polls : List Poll) :
    (fillLoop i r key stale polls).Asserts (rely calls i) (promise calls i) (Filled calls i key)
      (Found calls i key stale) := by
  induction polls with
  | nil => exact fun s hs => filled_error hs.1 hs.2.1
  | cons p polls ih =>
    refine command_asserts (Found calls i key stale)
      (fun s hs => hs.command (promise_addLock p.add key)) (found_keeps stale) ?_
    refine Program.Asserts.read (fun _ => Found calls i key stale) (fun s hs => hs)
      (fun _ => found_keeps stale) fun acquired => ?_
    split
    · exact (fillNow_asserts r acquired).mono fun s hs => ⟨hs.1, hs.2.1⟩
    · cases stale with
      | some value => exact fun s hs => found_filled hs
      | none =>
        dsimp only
        split
        · exact fun s hs => filled_error hs.1 hs.2.1
        · refine Program.Asserts.mono (K := Reading calls i key) (fun s hs => ⟨hs.1, hs.2.1⟩) ?_
          refine cacheGet_asserts (by rfl) fun hit => ?_
          cases hit with
          | some value => exact fun s hs => found_filled hs
          | none => exact ih

theorem fill_asserts (r : DashboardRead) :
    (fill i r key).Asserts (rely calls i) (promise calls i) (Filled calls i key)
      (Reading calls i key) := by
  unfold fill
  refine cacheGet_asserts (by rfl) fun hit => ?_
  cases hit with
  | some value => exact fun s hs => found_filled hs
  | none =>
    refine Program.Asserts.mono (K := Reading calls i key) (fun s hs => ⟨hs.1, hs.2.1⟩) ?_
    exact cacheGet_asserts (by rfl) fun stale => fillLoop_asserts r stale r.polls

theorem ofExcept_asserts (a : Except DashboardFailure Payload) :
    (ofExcept a).Asserts (rely calls i) (promise calls i)
      (fun value => Found calls i key (some value)) (Filled calls i key a) := by
  cases a with
  | error e => trivial
  | ok value =>
    rintro s ⟨hs, hkey, hvalue⟩
    refine ⟨hs, hkey, fun value' h => ?_⟩
    cases h
    exact hvalue value rfl

def Joined (calls : List DashboardCall) (i : ℕ) (key : DashboardKey) (answer : FlightAnswer)
    (s : DashboardStore) : Prop :=
  Sound calls s ∧ (s.locals i).key = some key ∧
    ∀ owner, answer = .joined owner → (s.locals owner).key = some key

theorem joined_keeps (answer : FlightAnswer) :
    (rely calls i).Keeps held (Joined calls i key answer) := by
  apply keeps_of
  rintro s s' hadvance hlocals ⟨hkey, howner⟩
  rw [hlocals]
  exact ⟨hkey, fun owner h => hadvance.key_kept owner key (howner owner h)⟩

theorem takeFlight_answer (hs : Reading calls i key s) (process : ℕ) :
    Joined calls i key ((takeFlight i process key s).locals i).flight s := by
  refine ⟨hs.1, hs.2, fun owner howner => ?_⟩
  unfold takeFlight at howner
  split at howner
  · rename_i hfound
    rw [setLocals_self] at howner
    cases howner
    exact hs.1.flights process key owner hfound
  · split at howner
    · rw [setLocals_self] at howner
      cases howner
    · rw [setLocals_self] at howner
      cases howner

theorem joinFlight_asserts (r : DashboardRead) (owner : ℕ) :
    (joinFlight r key owner).Asserts (rely calls i) (promise calls i)
      (fun value => Found calls i key (some value)) (Joined calls i key (.joined owner)) := by
  unfold joinFlight
  refine Program.Asserts.read (fun stale s => Found calls i key stale s ∧
    Joined calls i key (.joined owner) s) ?_ (fun stale => (found_keeps stale).and
      (joined_keeps _)) fun stale => ?_
  · intro s hs
    refine ⟨⟨hs.1, hs.2.1, fun value hvalue => ?_⟩, hs⟩
    split at hvalue
    · exact hs.1.entries (.stale key) value hvalue
    · cases hvalue
  cases stale with
  | some value => exact fun s hs => hs.1
  | none =>
    let settled : Option Flight → DashboardStore → Prop := fun flight s => Sound calls s ∧
      (s.locals i).key = some key ∧ ∀ value, flight = some (.result value) → FromRead s key value
    refine Program.Asserts.read settled ?_ ?_ fun flight => ?_
    · rintro s ⟨-, hs, hkey, howner⟩
      refine ⟨hs, hkey, fun value hvalue => ?_⟩
      obtain ⟨key', hkey', hfrom⟩ := hs.futures owner value hvalue
      rw [howner owner rfl] at hkey'
      cases hkey'
      exact hfrom
    · intro flight
      apply keeps_of
      rintro s s' hadvance hlocals ⟨hkey, hvalue⟩
      rw [hlocals]
      exact ⟨hkey, fun value h => (hvalue value h).advance hadvance⟩
    · cases flight with
      | none => trivial
      | some flight =>
        cases flight with
        | pending => trivial
        | exception e => trivial
        | result value =>
          rintro s ⟨hs, hkey, hvalue⟩
          refine ⟨hs, hkey, fun value' h => ?_⟩
          cases h
          exact hvalue value rfl

theorem cached_asserts (r : DashboardRead) :
    (cached i r key).Asserts (rely calls i) (promise calls i)
      (fun value => Found calls i key (some value)) (Reading calls i key) := by
  unfold cached
  split
  · exact (builder_asserts r.queries r.fails).bind fun a => ofExcept_asserts a
  · refine cacheGet_asserts (by rfl) fun hit => ?_
    cases hit with
    | some value => exact fun s hs => hs
    | none =>
      refine command_asserts (fun s => Joined calls i key (s.locals i).flight s) ?_ ?_ ?_
      · rintro s ⟨hs, hkey, -⟩
        have hpromise : promise calls i [] s (takeFlight i r.process key s) :=
          promise_takeFlight hkey
        obtain ⟨-, -, howner⟩ := takeFlight_answer ⟨hs, hkey⟩ r.process
        refine ⟨hpromise, hpromise.2.2 hs, hpromise.1.key_kept i key hkey, ?_⟩
        intro owner h
        exact hpromise.1.key_kept owner key (howner owner h)
      · intro L s s' hcompat hrely hs
        have hlocals := hrely.2.2.2
        rw [hlocals]
        exact joined_keeps _ L s s' hcompat hrely hs
      refine Program.Asserts.read (fun answer => Joined calls i key answer) (fun s hs => hs)
        (fun answer => joined_keeps answer) fun answer => ?_
      cases answer with
      | full => trivial
      | joined owner => exact joinFlight_asserts r owner
      | owner =>
        refine Program.Asserts.mono (K := Reading calls i key) (fun s hs => ⟨hs.1, hs.2.1⟩) ?_
        refine (fill_asserts r).bind fun filled => ?_
        refine command_asserts (Filled calls i key filled)
          (fun s hs => hs.command (promise_settleFlight hs.2.1 hs.2.2)) (filled_keeps filled) ?_
        exact command_asserts (Filled calls i key filled)
          (fun s hs => hs.command (promise_popFlight r.process key)) (filled_keeps filled)
          (ofExcept_asserts filled)

/-- What a read returns: a value seen under a key of its school, which it has built. -/
def Answered (calls : List DashboardCall) (i : ℕ) (r : DashboardRead) (a : Option Payload)
    (s : DashboardStore) : Prop :=
  Sound calls s ∧ ∀ value ∈ a, ∃ key, (s.locals i).key = some key ∧ key.school = r.school ∧
    FromRead s key value

def Idle (calls : List DashboardCall) (i : ℕ) (s : DashboardStore) : Prop :=
  Sound calls s ∧ (s.locals i).key = none ∧ (s.locals i).seen = [] ∧ (s.locals i).bump = none

theorem idle_keeps : (rely calls i).Keeps held (Idle calls i) := by
  apply keeps_of
  rintro s s' _ hlocals hs
  rw [hlocals]
  exact hs

theorem readDashboard_asserts (r : DashboardRead) :
    (readDashboard i r).Asserts (rely calls i) (promise calls i) (Answered calls i r)
      (Idle calls i) := by
  unfold readDashboard
  let built : Option DashboardKey → DashboardStore → Prop := fun a s => Sound calls s ∧
    (s.locals i).key = a ∧ ∀ key ∈ a, key.school = r.school
  have hbuilt : ∀ a, (rely calls i).Keeps [] (built a) := by
    intro a
    apply keeps_of
    rintro s s' _ hlocals hs
    rw [hlocals]
    exact hs
  have hkey : (buildKey i r).Asserts (rely calls i) (promise calls i) built (Idle calls i) := by
    refine command_asserts (fun s => built (s.locals i).key s) ?_ ?_ ?_
    · rintro s ⟨hs, hnone, hseen, -⟩
      have hpromise : promise calls i [] s
          (s.setLocals i fun l => { l with key := some (r.keyOn s) }) :=
        promise_buildKey r hnone hseen
      refine ⟨hpromise, hpromise.2.2 hs, rfl, ?_⟩
      intro key hkey
      rw [setLocals_self] at hkey
      cases hkey
      rfl
    · intro L s s' hcompat hrely hs
      have hlocals := hrely.2.2.2
      rw [hlocals]
      exact hbuilt _ L s s' hcompat hrely hs
    · exact Program.Asserts.read built (fun s hs => hs) hbuilt fun a s hs => hs
  refine hkey.bind fun a => ?_
  cases a with
  | none =>
    rintro s ⟨hs, -⟩
    exact ⟨hs, fun _ h => by cases h⟩
  | some key =>
    refine Program.Asserts.mono (K := fun s => Reading calls i key s ∧ key.school = r.school)
      (fun s hs => ⟨⟨hs.1, hs.2.1⟩, hs.2.2 key rfl⟩) (Program.Asserts.of_and fun hschool => ?_)
    refine (cached_asserts r).bind fun value => ?_
    rintro s ⟨hs, hkey, hvalue⟩
    refine ⟨hs, fun value' h => ?_⟩
    cases h
    exact ⟨key, hkey, hschool, hvalue value rfl⟩

/-! ## Operations -/

/-- An operation that has counted the version up. -/
def Bumped (calls : List DashboardCall) (i : ℕ) (s : DashboardStore) : Prop :=
  Sound calls s ∧ ∃ b, (s.locals i).bump = some b

theorem bumped_keeps : (rely calls i).Keeps held (Bumped calls i) := by
  apply keeps_of
  rintro s s' _ hlocals hs
  rw [hlocals]
  exact hs

/-- An operation before `invalidate_school`: one that is not early has committed. -/
def Committed (calls : List DashboardCall) (i : ℕ) (o : Operation) (s : DashboardStore) : Prop :=
  Sound calls s ∧ (s.locals i).bump = none ∧ (o.isEarly = false → o.changes i ⊆ s.database)

theorem committed_keeps (o : Operation) : (rely calls i).Keeps held (Committed calls i o) := by
  apply keeps_of
  rintro s s' hadvance hlocals ⟨hbump, hchanges⟩
  rw [hlocals]
  exact ⟨hbump, fun hlate => List.Subset.trans (hchanges hlate) hadvance.database⟩

theorem invalidateSchool_asserts (ho : operationOf calls i = some o) :
    (invalidateSchool i o.school).Asserts (rely calls i) (promise calls i)
      (fun _ => Bumped calls i) (Committed calls i o) := by
  unfold invalidateSchool
  let added : Bool → DashboardStore → Prop := fun a s =>
    if a then Bumped calls i s else Committed calls i o s
  have hadded : ∀ a, (rely calls i).Keeps [] (added a) := by
    intro a
    cases a with
    | true => exact bumped_keeps
    | false => exact committed_keeps o
  have hbump : ∀ (s : DashboardStore) (version : ℕ) (b : Bool), Committed calls i o s →
      s.versions o.school < version → promise calls i [] s (s.bump i o.school version b) ∧
        Bumped calls i (s.bump i o.school version b) := by
    rintro s version b ⟨hs, hnone, hchanges⟩ hversion
    have hpromise := promise_bump (L := []) b ho hnone hversion hchanges
    refine ⟨hpromise, hpromise.2.2 hs, version, ?_⟩
    rw [bump_self]
  refine command_asserts (fun s => added (s.locals i).added s) ?_ ?_ ?_
  · intro s hs
    unfold addVersion
    split
    · rename_i hzero
      obtain ⟨hpromise, hbumped⟩ := hbump s 1 true hs (by omega)
      rw [bump_self]
      exact ⟨hpromise, hbumped⟩
    · have hpromise : promise calls i [] s (s.setLocals i fun l => { l with added := false }) :=
        promise_setLocals rfl rfl rfl
      rw [setLocals_self]
      obtain ⟨hsound, hnone, hchanges⟩ := hs
      refine ⟨hpromise, hpromise.2.2 hsound, ?_, hchanges⟩
      rw [setLocals_self]
      exact hnone
  · intro L s s' hcompat hrely hs
    have hlocals := hrely.2.2.2
    rw [hlocals]
    exact hadded _ L s s' hcompat hrely hs
  · refine Program.Asserts.read added (fun s hs => hs) hadded fun a => ?_
    cases a with
    | true => exact fun s hs => hs
    | false =>
      exact command_last (Bumped calls i)
        (fun s hs => hbump s (s.versions o.school + 1) false hs (Nat.lt_succ_self _))
        bumped_keeps

theorem invalidate_early (ho : operationOf calls i = some o) (hearly : o.isEarly = true) :
    (invalidateSchool i o.school).Asserts (rely calls i) (promise calls i)
      (fun _ => Bumped calls i) fun s => Sound calls s ∧ (s.locals i).bump = none := by
  apply (invalidateSchool_asserts ho).mono
  rintro s ⟨hs, hbump⟩
  refine ⟨hs, hbump, fun hlate => ?_⟩
  rw [hearly] at hlate
  cases hlate

theorem insertSession_asserts {slot : SessionSlot} {A : DashboardStore → Prop}
    (hA : ∀ held, (rely calls i).Keeps held fun s => Sound calls s ∧ A s)
    (hchange : ∀ s, A s → A (addChange (.session slot) s)) :
    (insertSession slot).Asserts (rely calls i) (promise calls i)
      (fun inserted s => (Sound calls s ∧ A s) ∧
        (inserted = true → DatabaseChange.session slot ∈ s.database))
      (fun s => Sound calls s ∧ A s) held fun s => s := by
  unfold insertSession
  refine Tx.Asserts.lockRows ?_
  refine Tx.Asserts.select_any (hA _) fun taken => ?_
  split
  · exact fun s hs => ⟨promise_refl s, hs, fun h => by cases h⟩
  · intro s hs
    have hpromise : promise calls i ([(DashboardRow.session slot, LockMode.update)] ++ held) s
        (addChange (.session slot) s) := promise_addChange _
    exact ⟨hpromise, ⟨hpromise.2.2 hs.1, hchange s hs.2⟩, fun _ =>
      List.mem_append_right _ List.mem_cons_self⟩

/-- What an operation returns: one that has changed something has counted the version up. -/
def Changed (calls : List DashboardCall) (i : ℕ) (changed : Bool) (s : DashboardStore) : Prop :=
  Sound calls s ∧ (changed = true → ∃ b, (s.locals i).bump = some b)

theorem working_keeps :
    (rely calls i).Keeps held fun s => Sound calls s ∧ (s.locals i).bump = none := by
  apply keeps_of
  rintro s s' _ hlocals hs
  rw [hlocals]
  exact hs

theorem startSession_asserts {national : Bool} {slot : SessionSlot}
    (ho : operationOf calls i = some (.startSession national slot)) :
    (startSession i national slot).Asserts (rely calls i) (promise calls i) (Changed calls i)
      fun s => Sound calls s ∧ (s.locals i).bump = none := by
  unfold startSession
  refine Program.Asserts.read (fun _ s => Sound calls s ∧ (s.locals i).bump = none)
    (fun s hs => hs) (fun _ => working_keeps) fun existing => ?_
  split
  · exact fun s hs => ⟨hs.1, fun h => by cases h⟩
  · split
    · rename_i hnational
      have hearly : (Operation.startSession national slot).isEarly = true := hnational
      refine Program.Asserts.bind (invalidate_early ho hearly) fun _ =>
        ⟨fun _ s => Bumped calls i s, ?_, fun _ => bumped_keeps, fun b s hs =>
          ⟨hs.1, fun _ => hs.2⟩⟩
      exact Tx.Asserts.lockRows (Tx.Asserts.post (insertSession_asserts
        (A := fun s => ∃ b, (s.locals i).bump = some b) (fun _ => bumped_keeps)
        fun _ h => h) fun _ _ h => h.1)
    · rename_i hnational
      have hlate : (Operation.startSession national slot).changes i = [.session slot] := rfl
      let inserted : Bool → DashboardStore → Prop := fun b s =>
        (Sound calls s ∧ (s.locals i).bump = none) ∧
          (b = true → DatabaseChange.session slot ∈ s.database)
      have hkept : ∀ b, (rely calls i).Keeps [] (inserted b) := by
        intro b L s s' hcompat hrely hs
        refine ⟨working_keeps L s s' hcompat hrely hs.1, fun hb => ?_⟩
        exact hrely.2.2.1.database (hs.2 hb)
      refine ⟨inserted, insertSession_asserts (A := fun s => (s.locals i).bump = none)
        (fun _ => working_keeps) fun _ h => h, hkept, fun b => ?_⟩
      cases b with
      | false => exact fun s hs => ⟨hs.1.1, fun h => by cases h⟩
      | true =>
        have hcommitted : ∀ s, inserted true s →
            Committed calls i (.startSession national slot) s := by
          rintro s ⟨⟨hs, hbump⟩, hslot⟩
          refine ⟨hs, hbump, fun _ x hx => ?_⟩
          rw [hlate, List.mem_singleton] at hx
          rw [hx]
          exact hslot rfl
        have hrest : ((invalidateSchool i slot.school).bind fun _ => .ret true).Asserts
            (rely calls i) (promise calls i) (Changed calls i) (inserted true) :=
          Program.Asserts.bind (Program.Asserts.mono hcommitted (invalidateSchool_asserts ho))
            fun _ s hs => ⟨hs.1, fun _ => hs.2⟩
        exact hrest

theorem edits_asserts (xs : List DatabaseChange) (parts : List ℕ) :
    (Program.forEach (fun part => command (addChange (.edit i part))) parts :
      DashboardProgram Unit).Asserts (rely calls i) (promise calls i)
      (fun _ s => Sound calls s ∧ (s.locals i).bump = none ∧
        xs ++ (parts.map fun part => .edit i part) ⊆ s.database)
      fun s => Sound calls s ∧ (s.locals i).bump = none ∧ xs ⊆ s.database := by
  have hkept : ∀ xs : List DatabaseChange, (rely calls i).Keeps [] fun s =>
      Sound calls s ∧ (s.locals i).bump = none ∧ xs ⊆ s.database := by
    intro xs
    apply keeps_of
    rintro s s' hadvance hlocals ⟨hbump, hxs⟩
    rw [hlocals]
    exact ⟨hbump, List.Subset.trans hxs hadvance.database⟩
  induction parts generalizing xs with
  | nil =>
    rintro s hs
    rw [List.map_nil, List.append_nil]
    exact hs
  | cons part parts ih =>
    have hassoc : xs ++ (part :: parts).map (fun part => DatabaseChange.edit i part) =
        (xs ++ [.edit i part]) ++ parts.map fun part => .edit i part := by
      rw [List.map_cons, List.append_assoc, List.singleton_append]
    rw [hassoc]
    refine command_asserts (fun s => Sound calls s ∧ (s.locals i).bump = none ∧
      xs ++ [.edit i part] ⊆ s.database) ?_ (hkept _) (ih _)
    rintro s ⟨hs, hbump, hxs⟩
    have hpromise : promise calls i [] s (addChange (.edit i part) s) := promise_addChange _
    refine ⟨hpromise, hpromise.2.2 hs, hbump, ?_⟩
    exact List.append_subset.mpr ⟨List.Subset.trans hxs (List.subset_append_left _ _),
      List.subset_append_right _ _⟩

theorem operation_asserts (ho : operationOf calls i = some o) :
    (o.program i).Asserts (rely calls i) (promise calls i) (Changed calls i)
      fun s => Sound calls s ∧ (s.locals i).bump = none := by
  cases o with
  | startSession national slot => exact startSession_asserts ho
  | edit school commits =>
    have hstart : ∀ s, (Sound calls s ∧ (s.locals i).bump = none) →
        Sound calls s ∧ (s.locals i).bump = none ∧ ([] : List DatabaseChange) ⊆ s.database :=
      fun s hs => ⟨hs.1, hs.2, List.nil_subset _⟩
    have hcommitted : ∀ s, (Sound calls s ∧ (s.locals i).bump = none ∧
        [] ++ ((List.range commits).map fun part => DatabaseChange.edit i part) ⊆ s.database) →
        Committed calls i (.edit school commits) s :=
      fun s hs => ⟨hs.1, hs.2.1, fun _ => hs.2.2⟩
    refine Program.Asserts.bind (Program.Asserts.mono hstart
      (edits_asserts [] (List.range commits))) fun _ => ?_
    exact Program.Asserts.bind (Program.Asserts.mono hcommitted (invalidateSchool_asserts ho))
      fun _ s hs => ⟨hs.1, fun _ => hs.2⟩
  | editWithin school =>
    refine Program.Asserts.bind (invalidate_early ho rfl) fun _ =>
      ⟨fun _ s => Bumped calls i s, ?_, fun _ => bumped_keeps, fun _ s hs =>
        ⟨hs.1, fun _ => hs.2⟩⟩
    refine Tx.Asserts.lockRows (Tx.Asserts.update ?_)
    rintro s ⟨hs, hbump⟩
    have hpromise : promise calls i ([DashboardRow.school school].map
        (fun r => (r, LockMode.update)) ++ []) s (addChange (.edit i 0) s) :=
      promise_addChange _
    exact ⟨hpromise, hpromise.2.2 hs, hbump⟩

/-- What is known of a call that has returned. -/
def Ended (calls : List DashboardCall) (i : ℕ) (a : DashboardAnswer) (s : DashboardStore) : Prop :=
  (∀ r value, calls[i]? = some (.read r) → a = .payload (some value) →
    ∃ key, (s.locals i).key = some key ∧ key.school = r.school ∧ FromRead s key value) ∧
  ∀ o, operationOf calls i = some o → a = .changed true → ∃ b, (s.locals i).bump = some b

theorem call_asserts {call : DashboardCall} (hcall : calls[i]? = some call) :
    (call.program i).Asserts (rely calls i) (promise calls i) (Ended calls i) (Idle calls i) := by
  cases call with
  | read r =>
    refine (readDashboard_asserts r).bind fun a => ?_
    rintro s ⟨-, hvalue⟩
    constructor
    · intro r' value hr hanswer
      rw [hcall] at hr
      cases hr
      cases hanswer
      exact hvalue value rfl
    · intro o ho
      unfold operationOf at ho
      rw [hcall] at ho
      cases ho
  | operation o =>
    have ho : operationOf calls i = some o := by
      unfold operationOf
      rw [hcall]
    refine Program.Asserts.bind (Program.Asserts.mono (fun s hs => ⟨hs.1, hs.2.2.2⟩)
      (operation_asserts ho)) fun changed => ?_
    rintro s ⟨-, hchanged⟩
    constructor
    · intro r value hr
      rw [hcall] at hr
      cases hr
    · intro _ _ hanswer
      cases hanswer
      exact hchanged rfl
  | expire entries locks =>
    refine command_asserts (fun _ => True) (fun s hs => ⟨promise_expire entries locks, trivial⟩)
      (Change.keeps_const _ _ True) ?_
    intro s _
    constructor
    · intro _ _ _ hanswer
      cases hanswer
    · intro _ _ hanswer
      cases hanswer

end SchoolPlatform.DashboardCache
