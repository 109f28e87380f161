import SchoolPlatform.Model.EntitlementCache
import SchoolPlatform.Library.LastReads
import SchoolPlatform.Analysis.ContractSteps

/-!
# Reads after a change

Once a change has cleared the cache for the last time, what a school is entitled to is read as the
tables have it, in every run in which nothing older comes into the cache: a reader that stores after
the clear has rows which are still those of the contract, and no value of another version is under
the key of the present one. A reader whose rows are older brings the old value back.
-/

/-! ## What readers and changes do to the cache -/

namespace SchoolPlatform.Entitlements

open ReadCommitted Subscriptions

variable {school : ℕ} {s s' : CachedContracts}

theorem get?_deleteMany (keys : List CacheKey) (key : CacheKey) :
    (s.deleteMany keys).cache.get? key = if key ∈ keys then none else s.cache.get? key := by
  unfold CachedContracts.deleteMany
  have hfilter := Dict.get?_filter_key (fun k => k ∉ keys) s.cache key
  by_cases hkey : key ∈ keys
  · rw [if_pos hkey]
    rwa [if_neg (not_not.mpr hkey)] at hfilter
  · rw [if_neg hkey]
    rwa [if_pos hkey] at hfilter

def storedEntries (school id : ℕ) (version : Instant) (value : SchoolEntitlements) :
    List (CacheKey × CacheValue) :=
  [(.value school id version, .entitlements value),
    (.pointer school, .key (.value school id version))]

theorem get?_setMany (id : ℕ) (version : Instant) (value : SchoolEntitlements) (key : CacheKey) :
    (s.setMany (storedEntries school id version value)).cache.get? key =
      if .pointer school = key then some (.key (.value school id version))
      else if .value school id version = key then some (.entitlements value)
      else s.cache.get? key := by
  unfold CachedContracts.setMany storedEntries
  simp only [List.foldl_cons, List.foldl_nil, Dict.get?_insert]

def Forgets (s s' : CachedContracts) : Prop :=
  ∀ p ∈ s'.cache, s'.cache.get? p.1 = s.cache.get? p.1

instance decidableForgets (s s' : CachedContracts) : Decidable (Forgets s s') :=
  inferInstanceAs (Decidable (∀ p ∈ s'.cache, _))

theorem Forgets.get? (h : Forgets s s') (key : CacheKey) :
    s'.cache.get? key = none ∨ s'.cache.get? key = s.cache.get? key := by
  by_cases hkey : key ∈ Dict.keys s'.cache
  · obtain ⟨p, hp, rfl⟩ := List.mem_map.mp hkey
    exact .inr (h p hp)
  · refine .inl ?_
    rw [Dict.mem_keys_iff, not_exists] at hkey
    cases hget : s'.cache.get? key with
    | none => rfl
    | some v => exact absurd hget (hkey v)

def liveIds (s : Contracts) (school : ℕ) : Option ℕ :=
  (s.liveSubscription school).map fun p => p.1

abbrev CachedContracts.current (s : CachedContracts) (school : ℕ) : SchoolEntitlements :=
  schoolEntitlements s.contracts school

theorem current_of_liveIds {id : ℕ} (h : liveIds s.contracts school = some id) :
    s.current school = entitlementValues s.contracts id := by
  unfold liveIds at h
  rw [Option.map_eq_some_iff] at h
  obtain ⟨p, hp, rfl⟩ := h
  unfold CachedContracts.current schoolEntitlements
  rw [hp, Option.elim_some]

structure Timely (school : ℕ) (s s' : CachedContracts) : Prop where
  contracts : s'.contracts = s.contracts
  values : ∀ id version, s'.cache.get? (.value school id version) = none ∨
    s'.cache.get? (.value school id version) = s.cache.get? (.value school id version) ∨
    s'.cache.get? (.value school id version) = some (.entitlements (s.current school))
  pointer : s'.cache.get? (.pointer school) = none ∨
    s'.cache.get? (.pointer school) = s.cache.get? (.pointer school) ∨
    ∃ id version, s'.cache.get? (.pointer school) = some (.key (.value school id version)) ∧
      s'.cache.get? (.value school id version) = some (.entitlements (s.current school))

theorem Timely.of_forgets (hcontracts : s'.contracts = s.contracts) (h : Forgets s s') :
    Timely school s s' where
  contracts := hcontracts
  values := fun _ _ => (h.get? _).imp_right .inl
  pointer := (h.get? _).imp_right .inl

theorem Timely.of_cache (hcontracts : s'.contracts = s.contracts)
    (h : ∀ key, s'.cache.get? key = none ∨ s'.cache.get? key = s.cache.get? key) :
    Timely school s s' where
  contracts := hcontracts
  values := fun _ _ => (h _).imp_right .inl
  pointer := (h _).imp_right .inl

theorem timely_refl (school : ℕ) (s : CachedContracts) : Timely school s s :=
  Timely.of_cache rfl fun _ => .inr rfl

theorem timely_deleteMany (school : ℕ) (s : CachedContracts) (reached : Bool)
    (keys : List CacheKey) : Timely school s (if reached then s.deleteMany keys else s) := by
  cases reached with
  | false => exact timely_refl school s
  | true =>
    refine Timely.of_cache rfl fun key => ?_
    rw [if_pos rfl, get?_deleteMany]
    by_cases hkey : key ∈ keys
    · exact .inl (if_pos hkey)
    · exact .inr (if_neg hkey)

theorem timely_setMany_other {other : ℕ} (hother : other ≠ school) (id : ℕ) (version : Instant)
    (value : SchoolEntitlements) :
    Timely school s (s.setMany (storedEntries other id version value)) where
  contracts := rfl
  values := by
    intro id' version'
    rw [get?_setMany]
    simp [hother]
  pointer := by
    rw [get?_setMany]
    simp [hother]

theorem timely_setMany {id : ℕ} {version : Instant} {value : SchoolEntitlements}
    (hvalue : value = s.current school) :
    Timely school s (s.setMany (storedEntries school id version value)) where
  contracts := rfl
  values := by
    intro id' version'
    rw [get?_setMany]
    by_cases hkey : CacheKey.value school id version = .value school id' version'
    · simp [hkey, hvalue]
    · simp [hkey]
  pointer := by
    refine .inr (.inr ⟨id, version, ?_, ?_⟩)
    · rw [get?_setMany, if_pos rfl]
    · rw [get?_setMany, if_neg (by simp), if_pos rfl, hvalue]

/-- What a reader does: it leaves the contracts alone, and as long as its last answer stands, it
stores what the school is entitled to. -/
def Reads (school : ℕ) (live : Option ℕ) (last : CachedContracts → Prop)
    (f : CachedContracts → CachedContracts) : Prop :=
  ∀ s, liveIds s.contracts school = live →
    (f s).contracts = s.contracts ∧ (last s → Timely school s (f s))

section Readers

variable {live : Option ℕ} {α : Type}

def HasLive (school : ℕ) (live : Option ℕ) (s : CachedContracts) : Prop :=
  liveIds s.contracts school = live

abbrev ReaderActs (school : ℕ) (live : Option ℕ) (last : CachedContracts → Prop)
    (p : CacheProgram α) : Prop :=
  p.Acts (HasLive school live) (fun last f _ => Reads school live last f) last

theorem reads_refl (last : CachedContracts → Prop) : Reads school live last fun s => s :=
  fun s _ => ⟨rfl, fun _ => timely_refl school s⟩

theorem acts_cacheGet {reached : Bool} {key : CacheKey} {last : CachedContracts → Prop}
    {k : Option CacheValue → CacheProgram α} (h : ∀ b last, ReaderActs school live last (k b)) :
    ReaderActs school live last ((cacheGet reached key).bind k) :=
  fun b _ => ⟨reads_refl _, h b _⟩

theorem acts_cacheDeleteMany {reached : Bool} {keys : List CacheKey}
    {last : CachedContracts → Prop} {k : Unit → CacheProgram α}
    (h : ∀ last, ReaderActs school live last (k ())) :
    ReaderActs school live last ((cacheDeleteMany reached keys).bind k) := by
  refine ⟨fun s _ => ⟨?_, fun _ => timely_deleteMany school s reached keys⟩, fun _ => h _⟩
  cases reached <;> rfl

theorem acts_readTables (reach : ReaderReach) (of : ℕ) (last : CachedContracts → Prop) :
    ReaderActs school live last (readTables reach of) := by
  rintro found ⟨s, hlive, hfound⟩
  refine ⟨reads_refl _, ?_⟩
  cases found with
  | none => trivial
  | some p =>
    obtain ⟨id, x⟩ := p
    refine acts_cacheGet fun cached _ => ?_
    cases cached with
    | some v => trivial
    | none =>
      refine fun value _ => ⟨reads_refl _, fun t ht => ⟨?_, fun hvalue => ?_⟩, fun _ => trivial⟩
      · cases reach.store <;> rfl
      · dsimp only
        cases reach.store with
        | false => exact timely_refl school t
        | true =>
          by_cases hof : of = school
          · -- The rows are those of the contract that is current all along.
            subst hof
            refine timely_setMany ?_
            have hid : liveIds s.contracts of = some id := congrArg (Option.map Prod.fst) hfound
            have hsame : liveIds t.contracts of = some id := ht.trans (hlive.symm.trans hid)
            rw [current_of_liveIds hsame]
            exact hvalue.symm
          · exact timely_setMany_other hof id _ value

theorem acts_getSchoolEntitlements (reach : ReaderReach) (of : ℕ) (last : CachedContracts → Prop) :
    ReaderActs school live last (getSchoolEntitlements reach of) := by
  refine acts_cacheGet fun valueKey _ => ?_
  cases valueKey with
  | none => exact acts_readTables reach of _
  | some v =>
    cases v with
    | entitlements value => exact acts_cacheDeleteMany fun _ => acts_readTables reach of _
    | key key =>
      show ReaderActs school live _ (if key.hasPrefix of then _ else _)
      split
      · refine acts_cacheGet fun cached _ => ?_
        cases cached with
        | some v => trivial
        | none => exact acts_readTables reach of _
      · exact acts_cacheDeleteMany fun _ => acts_readTables reach of _

theorem CacheClient.acts (client : CacheClient) (last : CachedContracts → Prop) :
    ReaderActs school live last client.program := by
  cases client with
  | read reach of =>
    exact (acts_getSchoolEntitlements reach of last).bind (fun _ _ _ h => h) fun _ _ => trivial
  | expire keys => exact acts_cacheDeleteMany fun _ => trivial

end Readers

theorem check_keeps (c : Bool) (e : Failure) : (check c e).Keeps liveIds := by
  cases c <;> trivial

theorem saveSubscription_keeps (id : ℕ) {f : SchoolSubscription → SchoolSubscription}
    (hschool : ∀ x, (f x).school = x.school) (hstarts : ∀ x, (f x).startsAt = x.startsAt) :
    (saveSubscription id f).Keeps liveIds := by
  unfold saveSubscription
  simp only [Tx.bind_eq]
  refine Tx.Keeps.bind trivial fun _ => Tx.Keeps.bind (fun _ => trivial) fun found => ?_
  cases found with
  | none => trivial
  | some x =>
    have hcheck : (checkSubscription id x.status.isLive (f x)).Keeps liveIds := by
      unfold checkSubscription
      simp only [Tx.bind_eq]
      exact (check_keeps _ _).bind fun _ => Tx.Keeps.bind trivial fun _ =>
        Tx.Keeps.bind (fun _ => trivial) fun _ => check_keeps _ _
    refine hcheck.bind fun _ => ⟨fun s => funext fun school => ?_, trivial⟩
    unfold liveIds
    rw [liveSubscription_changeSubscription hschool hstarts, Option.map_map]
    rfl

theorem lockedLive_keeps (school : ℕ) : (lockedLive school).Keeps liveIds := by
  unfold lockedLive lockLatest
  simp only [Tx.bind_eq]
  refine Tx.Keeps.bind (fun _ _ => trivial) fun found => ?_
  cases found <;> trivial

theorem copyEntitlements_keeps (id plan : ℕ) : (copyEntitlements id plan).Keeps liveIds :=
  ⟨fun _ => rfl, fun _ => ⟨fun _ => rfl, trivial⟩⟩

theorem recordEvents_keeps (school : ℕ) : (recordEvents school).Keeps liveIds := trivial

theorem resolvePlan_keeps (plan : ℕ) : (resolvePlan plan).Keeps liveIds := by
  refine fun found => ?_
  cases found with
  | none => trivial
  | some p => exact (check_keeps _ _).bind fun _ => trivial

theorem requireFreePlanAvailable_keeps (school : ℕ) (plan : SaaSPlan) :
    (requireFreePlanAvailable school plan).Keeps liveIds := by
  unfold requireFreePlanAvailable
  split
  · trivial
  · exact fun _ => check_keeps _ _

theorem EntitlementChange.keeps (school : ℕ) (change : EntitlementChange) :
    (change.body school).Keeps liveIds := by
  cases change with
  | setEntitlementOverride clock key numericValue isEnabled =>
    refine (lockedLive_keeps school).bind fun p => ⟨fun _ => rfl, ?_⟩
    show ((saveSubscription p.1 _).bind fun _ => recordEvents school).Keeps liveIds
    refine Tx.Keeps.bind (saveSubscription_keeps p.1 ?_ ?_) fun _ => recordEvents_keeps school
    · exact fun _ => rfl
    · exact fun _ => rfl
  | changePlan clock planId =>
    refine Tx.Keeps.bind ?_ fun _ => trivial
    refine (resolvePlan_keeps planId).bind fun plan => (lockedLive_keeps school).bind fun p => ?_
    refine (check_keeps _ _).bind fun _ => (check_keeps _ _).bind fun _ => ?_
    refine (requireFreePlanAvailable_keeps school plan).bind fun _ => ?_
    refine Tx.Keeps.bind (saveSubscription_keeps p.1 ?_ ?_) fun _ => ?_
    · exact fun _ => rfl
    · exact fun _ => rfl
    · exact (copyEntitlements_keeps p.1 planId).bind fun _ =>
        (recordEvents_keeps school).bind fun _ => trivial

/-- What the client of a change does: it leaves the current contracts what they are, and returns
with the pointer cleared. -/
def Changes (school : ℕ) (f : CachedContracts → CachedContracts)
    (rest : CacheProgram (Option CacheValue)) : Prop :=
  (∀ s, liveIds (f s).contracts = liveIds s.contracts) ∧
    ((∃ a, rest = .ret a) → ∀ s, (f s).cache.get? (.pointer school) = none)

theorem contracts_deleteMany (reached : Bool) (keys : List CacheKey) (s : CachedContracts) :
    (if reached then s.deleteMany keys else s).contracts = s.contracts := by
  cases reached <;> rfl

theorem Changes.going {f : CachedContracts → CachedContracts}
    {rest : CacheProgram (Option CacheValue)}
    (h : ∀ s, liveIds (f s).contracts = liveIds s.contracts) (hrest : ∀ a, rest ≠ .ret a) :
    Changes school f rest := by
  refine ⟨h, fun hret => ?_⟩
  obtain ⟨a, ha⟩ := hret
  exact absurd ha (hrest a)

theorem EntitlementChange.acts {live : Option ℕ} {atOnce onCommit : ClearReach}
    (hreached : onCommit.deletion = true) (change : EntitlementChange)
    (last : CachedContracts → Prop) :
    ((change.program school atOnce onCommit).bind fun _ => .ret none).Acts (HasLive school live)
      (fun _ f rest => Changes school f rest) last := by
  have hkeeps : ((change.body school).zoom tables).Keeps fun s => liveIds s.contracts :=
    (change.keeps school).zoom fun _ _ h => h
  intro named _
  refine ⟨Changes.going (fun _ => rfl) (fun _ h => (nomatch h)), ?_, fun _ => ⟨?_, fun _ => ?_⟩⟩
  · refine Changes.going (fun s => ?_) fun _ h => nomatch h
    rw [contracts_deleteMany]
  · refine hkeeps.acts fun _ f _ hf => Changes.going hf fun a h => ?_
    cases h
  · -- The commands of the clear on commit.
    intro named' _
    refine ⟨Changes.going (fun _ => rfl) (fun _ h => (nomatch h)), ⟨fun s => ?_, fun _ s => ?_⟩,
      fun _ => trivial⟩
    · rw [contracts_deleteMany]
    · rw [hreached]
      show (s.deleteMany _).cache.get? (.pointer school) = none
      rw [get?_deleteMany, if_pos List.mem_cons_self]

abbrev CacheRun := Config CachedContracts ContractRow Failure (Option CacheValue)

/-- The client of the change has returned from its final clear. -/
def Cleared (c : CacheRun) : Prop := (c.threads[0]?).any Thread.returned = true

instance decidableCleared (c : CacheRun) : Decidable (Cleared c) :=
  inferInstanceAs (Decidable (_ = true))

def LastReadStands (c : CacheRun) (i : ℕ) : Prop :=
  ∀ th, c.threads[i]? = some th → th.LastReadStands c.store

def OwnVersion (school : ℕ) (s : CachedContracts) : Prop :=
  ∀ p ∈ s.contracts.liveSubscription school,
    ∀ v ∈ s.cache.get? (.value school p.1 p.2.updatedAt), v = .entitlements (s.current school)

/-- A reader that stores after the final clear has read rows that have not changed since, and the
clear has left nothing of another version under the key of the present one. -/
def TimelyRun (school : ℕ) : CacheRun → List ℕ → Prop
  | _, [] => True
  | c, i :: is => ∀ c', c.step i = some c' →
    (Cleared c → ¬ Forgets c.store c'.store → LastReadStands c i) ∧
      (¬ Cleared c → Cleared c' → OwnVersion school c'.store) ∧ TimelyRun school c' is

def answerOf (c : CacheRun) (i : ℕ) : Option CacheValue :=
  (c.threads[i]?).bind fun th =>
    match th.phase with
    | .idle (.ret v) => v
    | _ => none

def startOf (school : ℕ) (atOnce onCommit : ClearReach) (change : EntitlementChange)
    (clients : List CacheClient) (s : CachedContracts) : CacheRun :=
  Config.start s (programs school atOnce onCommit change clients)

/-- Every read of the school that starts after the final clear returns what the tables have. -/
def FreshReads (school : ℕ) (clients : List CacheClient) (start : CacheRun) (sched : List ℕ) :
    Prop :=
  ∀ l m c c' j reach v, sched = l ++ m → start.exec l = some c → Cleared c → c.exec m = some c' →
    clients[j]? = some (.read reach school) → j + 1 ∉ l → answerOf c' (j + 1) = some v →
    v = .entitlements (c'.store.current school)

variable {school : ℕ} {db : Contracts} {s s' : CachedContracts}

def Holds (school : ℕ) (db : Contracts) (found : Option CacheValue) : Prop :=
  ∀ v ∈ found, v = .entitlements (schoolEntitlements db school)

structure Coherent (school : ℕ) (db : Contracts) (s : CachedContracts) : Prop where
  contracts : s.contracts = db
  version : ∀ p ∈ db.liveSubscription school,
    Holds school db (s.cache.get? (.value school p.1 p.2.updatedAt))
  pointer : ∀ id version,
    s.cache.get? (.pointer school) = some (.key (.value school id version)) →
      Holds school db (s.cache.get? (.value school id version))

theorem Timely.value (h : Timely school s s') (hdb : s.contracts = db) {id : ℕ} {version : Instant}
    (hs : Holds school db (s.cache.get? (.value school id version))) :
    Holds school db (s'.cache.get? (.value school id version)) := by
  intro v hv
  rcases h.values id version with hnone | hsame | hcurrent
  · rw [hnone] at hv
    cases hv
  · rw [hsame] at hv
    exact hs v hv
  · rw [hcurrent, Option.mem_some_iff] at hv
    rw [← hv, ← hdb]

theorem Coherent.step (hs : Coherent school db s) (h : Timely school s s') :
    Coherent school db s' where
  contracts := h.contracts.trans hs.contracts
  version := fun p hp => h.value hs.contracts (hs.version p hp)
  pointer := by
    intro id version hpointer
    rcases h.pointer with hnone | hsame | ⟨id', version', hnew, hvalue⟩
    · rw [hnone] at hpointer
      cases hpointer
    · rw [hsame] at hpointer
      exact h.value hs.contracts (hs.pointer id version hpointer)
    · intro v hv
      rw [hpointer, Option.some.injEq, CacheValue.key.injEq] at hnew
      rw [← hnew, hv, Option.some.injEq] at hvalue
      rw [hvalue, ← hs.contracts]

theorem coherent_of_cleared (hpointer : s.cache.get? (.pointer school) = none)
    (hversion : OwnVersion school s) : Coherent school s.contracts s where
  contracts := rfl
  version := hversion
  pointer := by
    intro id version hsome
    rw [hpointer] at hsome
    cases hsome

/-! ## A reader of a coherent cache -/

def timelySteps (school : ℕ) : Change CachedContracts ContractRow := fun _ s s' =>
  Timely school s s'

def anySteps : Change CachedContracts ContractRow := fun _ _ _ => True

theorem coherent_keeps (held : List (ContractRow × LockMode)) :
    (timelySteps school).Keeps held (Coherent school db) :=
  fun _ _ _ _ hstep hs => hs.step hstep

abbrev Fresh (school : ℕ) (db : Contracts) (v : CacheValue) (_ : CachedContracts) : Prop :=
  v = .entitlements (schoolEntitlements db school)

theorem readTables_asserts (reach : ReaderReach) :
    (readTables reach school).Asserts (timelySteps school) anySteps (Fresh school db)
      (Coherent school db) := by
  refine Program.Asserts.peek (fun found => found = db.liveSubscription school) ?_
    (coherent_keeps _) fun found hfound => ?_
  · intro s hs
    rw [hs.contracts]
  cases found with
  | none =>
    intro s hs
    show CacheValue.entitlements [] = .entitlements (schoolEntitlements db school)
    unfold schoolEntitlements
    rw [← hfound, Option.elim_none]
  | some p =>
    obtain ⟨id, x⟩ := p
    have hcurrent : schoolEntitlements db school = entitlementValues db id := by
      unfold schoolEntitlements
      rw [← hfound, Option.elim_some]
    refine Program.Asserts.peek
      (fun cached => Holds school db cached) ?_
      (coherent_keeps _) fun cached hcached => ?_
    · intro s hs v hv
      cases hreach : reach.version with
      | false => simp [hreach] at hv
      | true =>
        simp only [hreach, if_true] at hv
        exact hs.version (id, x) hfound.symm v hv
    cases cached with
    | some v => exact fun _ _ => hcached v rfl
    | none =>
      refine Program.Asserts.peek (fun value => value = schoolEntitlements db school) ?_
        (coherent_keeps _) fun value hvalue => ?_
      · intro s hs
        rw [hs.contracts, hcurrent]
      · refine ⟨fun _ _ => True, fun _ _ => ⟨trivial, trivial⟩, fun _ _ _ _ _ _ h => h, ?_⟩
        intro _ s _
        show CacheValue.entitlements value = .entitlements (schoolEntitlements db school)
        rw [hvalue]

theorem deletion_asserts {α : Type} {reached : Bool} {keys : List CacheKey}
    {k : Unit → CacheProgram α} {Post : α → CachedContracts → Prop}
    (h : (k ()).Asserts (timelySteps school) anySteps Post (Coherent school db)) :
    ((cacheDeleteMany reached keys).bind k).Asserts (timelySteps school) anySteps Post
      (Coherent school db) :=
  ⟨fun _ => Coherent school db,
    fun s hs => ⟨trivial, hs.step (timely_deleteMany school s reached keys)⟩,
    fun _ => coherent_keeps _, fun _ => h⟩

theorem getSchoolEntitlements_asserts (reach : ReaderReach) :
    (getSchoolEntitlements reach school).Asserts (timelySteps school) anySteps (Fresh school db)
      (Coherent school db) := by
  -- The value that the pointer names stays what the school is entitled to.
  refine ⟨fun named s => Coherent school db s ∧ ∀ id version,
    named = some (.key (.value school id version)) →
      Holds school db (s.cache.get? (.value school id version)), ?_, ?_, fun named => ?_⟩
  · intro s hs
    refine ⟨hs, fun id version hnamed => hs.pointer id version ?_⟩
    cases hreach : reach.pointer with
    | false => simp [hreach] at hnamed
    | true => simpa [hreach] using hnamed
  · intro named L s s' _ hstep hs
    exact ⟨hs.1.step hstep, fun id version hnamed =>
      hstep.value hs.1.contracts (hs.2 id version hnamed)⟩
  have htables : (readTables reach school).Asserts (timelySteps school) anySteps
      (Fresh school db) fun s => Coherent school db s ∧ ∀ id version,
        named = some (.key (.value school id version)) →
          Holds school db (s.cache.get? (.value school id version)) :=
    (readTables_asserts reach).mono fun s hs => hs.1
  cases named with
  | none => exact htables
  | some named =>
    cases named with
    | entitlements value =>
      exact (deletion_asserts (readTables_asserts reach)).mono fun s hs => hs.1
    | key key =>
      show Program.Asserts _ _ _ _ (if key.hasPrefix school then _ else _)
      split
      · rename_i hprefix
        cases key with
        | pointer of => cases hprefix
        | value of id version =>
          have hof : of = school := of_decide_eq_true hprefix
          subst hof
          refine ⟨fun cached s => Coherent of db s ∧
            Holds of db cached, ?_, ?_, fun cached => ?_⟩
          · intro s hs
            refine ⟨hs.1, fun v hv => ?_⟩
            cases hreach : reach.value with
            | false => simp [hreach] at hv
            | true =>
              simp only [hreach, if_true] at hv
              exact hs.2 id version rfl v hv
          · exact fun _ => (coherent_keeps _).and ((timelySteps of).keeps_const _ _)
          · cases cached with
            | some v => exact fun s hs => hs.2 v rfl
            | none => exact (readTables_asserts reach).mono fun s hs => hs.1
      · exact (deletion_asserts (readTables_asserts reach)).mono fun s hs => hs.1

theorem read_asserts (reach : ReaderReach) :
    (CacheClient.read reach school).program.Asserts (timelySteps school) anySteps
      (fun a _ => a = some (.entitlements (schoolEntitlements db school))) (Coherent school db) :=
  (getSchoolEntitlements_asserts reach).bind fun _ _ hv => congrArg some hv

/-! ## Steps of the run -/

/-- What is known of the clients; the first one is that of the change. -/
def clientActs (school : ℕ) (live : Option ℕ) : ℕ → (CachedContracts → Prop) →
    (CachedContracts → CachedContracts) → CacheProgram (Option CacheValue) → Prop
  | 0 => fun _ f rest => Changes school f rest
  | _ + 1 => fun last f _ => Reads school live last f

/-- A run of a change and its clients, at some point. -/
structure Running (school : ℕ) (live : Option ℕ) (c : CacheRun) : Prop where
  acting : c.Acting (HasLive school live) (clientActs school live)
  live : HasLive school live c.store

section Runs

variable {live : Option ℕ} {c c' : CacheRun} {i : ℕ}

theorem running_start {atOnce onCommit : ClearReach} (hreached : onCommit.deletion = true)
    (change : EntitlementChange) (clients : List CacheClient) (s : CachedContracts) :
    Running school (liveIds s.contracts school)
      (startOf school atOnce onCommit change clients s) where
  acting := by
    refine Config.acting_start (fun i p hp => ?_) s
    cases i with
    | zero =>
      cases hp
      exact change.acts hreached _
    | succ i =>
      rw [programs, List.getElem?_cons_succ, List.getElem?_map, Option.map_eq_some_iff] at hp
      obtain ⟨client, -, rfl⟩ := hp
      exact client.acts _
  live := rfl

theorem Running.step (h : Running school live c) (hstep : c.step i = some c') :
    Running school live c' ∧ ∃ th th', c.threads[i]? = some th ∧ c'.threads[i]? = some th' ∧
      (c'.store = c.store ∧ th'.returned = false ∨
        ∃ last f p, Acted (clientActs school live i) th th' c.store c'.store last f p) := by
  obtain ⟨hacting, th, th', hth, hth', hstore⟩ := h.acting.step h.live hstep
  refine ⟨⟨hacting, ?_⟩, th, th', hth, hth', hstore⟩
  rcases hstore with ⟨hsame, -⟩ | ⟨last, f, p, hacted⟩
  · rw [hsame]
    exact h.live
  · have hrelated := hacted.related
    unfold HasLive
    rw [hacted.store]
    cases i with
    | zero =>
      have hchanges : Changes school f p := hrelated
      rw [hchanges.1]
      exact h.live
    | succ i =>
      have hreads : Reads school live last f := hrelated
      rw [(hreads c.store h.live).1]
      exact h.live

theorem ne_zero_of_cleared (hcleared : Cleared c) (hstep : c.step i = some c') : i ≠ 0 := by
  rintro rfl
  obtain ⟨th, th', s', hth, hmove, -⟩ := Config.step_eq_some hstep
  unfold Cleared at hcleared
  rw [hth, Option.any_some] at hcleared
  obtain ⟨a, ha⟩ := Thread.returned_eq hcleared
  unfold Thread.move at hmove
  rw [ha] at hmove
  cases hmove

theorem Cleared.step (hcleared : Cleared c) (hstep : c.step i = some c') : Cleared c' := by
  have hne := ne_zero_of_cleared hcleared hstep
  unfold Cleared
  rw [Config.getElem?_step hne hstep]
  exact hcleared

theorem Running.timely (h : Running school live c) (hcleared : Cleared c)
    (hstep : c.step i = some c')
    (hstands : ¬ Forgets c.store c'.store → LastReadStands c i) :
    Timely school c.store c'.store := by
  obtain ⟨-, th, th', hth, -, hstore⟩ := h.step hstep
  rcases hstore with ⟨hsame, -⟩ | ⟨last, f, p, hacted⟩
  · rw [hsame]
    exact timely_refl school c.store
  · cases i with
    | zero => exact absurd rfl (ne_zero_of_cleared hcleared hstep)
    | succ i =>
      have hreads : Reads school live last f := hacted.related
      obtain ⟨hcontracts, htimely⟩ := hreads c.store h.live
      rw [hacted.store]
      by_cases hforgets : Forgets c.store (f c.store)
      · exact Timely.of_forgets hcontracts hforgets
      · rw [← hacted.store] at hforgets
        exact htimely (hacted.stands (hstands hforgets th hth))

theorem Running.clears (h : Running school live c) (hbefore : ¬ Cleared c)
    (hstep : c.step i = some c') (hafter : Cleared c') :
    c'.store.cache.get? (.pointer school) = none := by
  have hi : i = 0 := by
    by_contra hne
    unfold Cleared at hbefore hafter
    rw [Config.getElem?_step hne hstep] at hafter
    exact hbefore hafter
  subst hi
  obtain ⟨-, th, th', -, hth', hstore⟩ := h.step hstep
  unfold Cleared at hafter
  rw [hth', Option.any_some] at hafter
  rcases hstore with ⟨-, hnot⟩ | ⟨last, f, p, hacted⟩
  · rw [hnot] at hafter
    cases hafter
  · obtain ⟨a, ha⟩ := Thread.returned_eq hafter
    have hchanges : Changes school f p := hacted.related
    rw [hacted.phase, Phase.idle.injEq] at ha
    rw [hacted.store]
    exact hchanges.2 ⟨a, ha⟩ c.store

theorem Running.coherent {l : List ℕ} (h : Running school live c) (hexec : c.exec l = some c')
    (htimely : TimelyRun school c l) (hc : Cleared c → Coherent school c.store.contracts c.store) :
    Running school live c' ∧ (Cleared c' → Coherent school c'.store.contracts c'.store) := by
  induction l generalizing c with
  | nil =>
    cases hexec
    exact ⟨h, hc⟩
  | cons i is ih =>
    rw [Config.exec, Option.bind_eq_some_iff] at hexec
    obtain ⟨c₁, hstep, hrest⟩ := hexec
    obtain ⟨hstands, hversion, htimely⟩ := htimely c₁ hstep
    refine ih (h.step hstep).1 hrest htimely fun hafter => ?_
    by_cases hbefore : Cleared c
    · have hstepTimely := h.timely hbefore hstep (hstands hbefore)
      rw [hstepTimely.contracts]
      exact (hc hbefore).step hstepTimely
    · exact coherent_of_cleared (h.clears hbefore hstep hafter) (hversion hbefore hafter)

theorem Running.reading {Post : Option CacheValue → CachedContracts → Prop} {m : List ℕ} {j : ℕ}
    (h : Running school live c) (hexec : c.exec m = some c') (htimely : TimelyRun school c m)
    (hcleared : Cleared c)
    (hj : ∃ th, c.threads[j]? = some th ∧
      ThreadAsserts (timelySteps school) anySteps Post c.store th) :
    c'.store.contracts = c.store.contracts ∧ ∃ th, c'.threads[j]? = some th ∧
      ThreadAsserts (timelySteps school) anySteps Post c'.store th := by
  induction m generalizing c with
  | nil =>
    cases hexec
    exact ⟨rfl, hj⟩
  | cons i is ih =>
    rw [Config.exec, Option.bind_eq_some_iff] at hexec
    obtain ⟨c₁, hstep, hrest⟩ := hexec
    obtain ⟨hstands, -, htimely⟩ := htimely c₁ hstep
    have hstepTimely := h.timely hcleared hstep (hstands hcleared)
    obtain ⟨th, hth, hasserts⟩ := hj
    have hnext : ∃ th, c₁.threads[j]? = some th ∧
        ThreadAsserts (timelySteps school) anySteps Post c₁.store th := by
      by_cases hij : i = j
      · subst hij
        obtain ⟨u, u', s', hu, hmove, rfl⟩ := Config.step_eq_some hstep
        rw [hth] at hu
        cases hu
        have hlt : i < c.threads.length := (List.getElem?_eq_some_iff.mp hth).1
        exact ⟨u', List.getElem?_set_self hlt, (hasserts.move hmove).1⟩
      · refine ⟨th, (Config.getElem?_step hij hstep).trans hth, ?_⟩
        exact hasserts.interfere (L := []) (fun _ _ _ hy => absurd hy List.not_mem_nil) hstepTimely
    obtain ⟨hcontracts, hlast⟩ := ih (h.step hstep).1 hrest htimely (hcleared.step hstep) hnext
    exact ⟨hcontracts.trans hstepTimely.contracts, hlast⟩

end Runs

theorem TimelyRun.append {l m : List ℕ} {c c' : CacheRun} (hexec : c.exec l = some c')
    (h : TimelyRun school c (l ++ m)) : TimelyRun school c l ∧ TimelyRun school c' m := by
  induction l generalizing c with
  | nil =>
    cases hexec
    exact ⟨trivial, h⟩
  | cons i is ih =>
    rw [Config.exec, Option.bind_eq_some_iff] at hexec
    obtain ⟨c₁, hstep, hrest⟩ := hexec
    obtain ⟨hstands, hversion, htimely⟩ := h c₁ hstep
    obtain ⟨hfirst, hsecond⟩ := ih hrest htimely
    refine ⟨fun c₂ h₂ => ?_, hsecond⟩
    rw [hstep] at h₂
    cases h₂
    exact ⟨hstands, hversion, hfirst⟩

theorem phase_of_answerOf {c : CacheRun} {i : ℕ} {v : CacheValue} (h : answerOf c i = some v) :
    ∃ th, c.threads[i]? = some th ∧ th.phase = .idle (.ret (some v)) := by
  unfold answerOf at h
  rw [Option.bind_eq_some_iff] at h
  obtain ⟨th, hth, hanswer⟩ := h
  refine ⟨th, hth, ?_⟩
  split at hanswer
  · rename_i a hphase
    rw [hphase, hanswer]
  · cases hanswer

theorem ThreadAsserts.returned_eq {σ ρ ε α : Type} {R G : Change σ ρ} {Post : α → σ → Prop} {t : σ}
    {th : Thread σ ρ ε α} (h : ThreadAsserts R G Post t th) {a : α}
    (hphase : th.phase = .idle (.ret a)) : Post a t := by
  cases h with
  | idle p K phase pending held holds kept asserts =>
    rw [hphase, Phase.idle.injEq] at phase
    subst phase
    exact asserts t holds
  | busy γ rest k J Q phase holds kept asserts later follows =>
    rw [hphase] at phase
    cases phase

/-- **A read after the final clear is fresh**, in every run in which readers store after the clear
only rows that still stand. -/
theorem fresh_after_clear {atOnce onCommit : ClearReach} (hreached : onCommit.deletion = true)
    (change : EntitlementChange) (clients : List CacheClient) (s : CachedContracts) {sched : List ℕ}
    (htimely : TimelyRun school (startOf school atOnce onCommit change clients s) sched) :
    FreshReads school clients (startOf school atOnce onCommit change clients s) sched := by
  rintro l m c c' j reach v rfl hl hcleared hm hj hfresh hanswer
  obtain ⟨th, hth, hphase⟩ := phase_of_answerOf hanswer
  obtain ⟨hbefore, hafter⟩ := htimely.append hl
  have hstart : ¬ Cleared (startOf school atOnce onCommit change clients s) := by
    intro h
    cases h
  obtain ⟨hrunning, hcoherent⟩ := (running_start hreached change clients s).coherent hl hbefore
    fun h => absurd h hstart
  have hreading : ThreadAsserts (timelySteps school) anySteps
      (fun a _ => a = some (.entitlements (schoolEntitlements c.store.contracts school))) c.store
      (.start (CacheClient.read reach school).program) :=
    .idle _ _ rfl rfl rfl (hcoherent hcleared) (coherent_keeps _) (read_asserts reach)
  have hprogram : (startOf school atOnce onCommit change clients s).threads[j + 1]? =
      some (.start (CacheClient.read reach school).program) := by
    simp [startOf, Config.start, programs, hj]
  obtain ⟨hcontracts, u, hu, hasserts⟩ := hrunning.reading hm hafter hcleared
    ⟨_, (Config.getElem?_exec hfresh hl).trans hprogram, hreading⟩
  rw [hth] at hu
  cases hu
  have hvalue := ThreadAsserts.returned_eq hasserts hphase
  rw [Option.some.injEq] at hvalue
  rw [hvalue, CachedContracts.current, hcontracts]

/-! ## Two readers of one school -/

instance decidableOwnVersion (school : ℕ) (s : CachedContracts) :
    Decidable (OwnVersion school s) :=
  inferInstanceAs (Decidable (∀ p ∈ s.contracts.liveSubscription school,
    ∀ v ∈ s.cache.get? (.value school p.1 p.2.updatedAt), v = .entitlements (s.current school)))

def checkTimely (school : ℕ) : CacheRun → List ℕ → Bool
  | _, [] => true
  | c, i :: is =>
    match c.step i with
    | none => true
    | some c' => decide (Cleared c → Forgets c.store c'.store) &&
        decide (Cleared c' → Cleared c ∨ OwnVersion school c'.store) && checkTimely school c' is

theorem timelyRun_of_check {sched : List ℕ} {c : CacheRun} (h : checkTimely school c sched = true) :
    TimelyRun school c sched := by
  induction sched generalizing c with
  | nil => trivial
  | cons i is ih =>
    intro c' hstep
    unfold checkTimely at h
    rw [hstep, Bool.and_eq_true, Bool.and_eq_true, decide_eq_true_eq, decide_eq_true_eq] at h
    obtain ⟨⟨hforgets, hversion⟩, hrest⟩ := h
    refine ⟨fun hcleared hnew => absurd (hforgets hcleared) hnew, fun hbefore hafter => ?_, ih hrest⟩
    exact (hversion hafter).resolve_left hbefore

def proContract : SchoolSubscription where
  school := 7
  plan := 1
  status := .active
  startsAt := 0
  endsAt := 1000
  updatedAt := 10

def hundredStudents : CachedContracts where
  contracts :=
    { plans := [(1, { code := "PRO" })]
      subscriptions := [(5, proContract)]
      entitlements := [((5, "MAX_STUDENTS"), { numericValue := some 100 })] }

def fiftyStudents : EntitlementChange :=
  .setEntitlementOverride ⟨20, 20, 20⟩ "MAX_STUDENTS" (some 50) true

def twoReaders : List CacheClient := [.read {} 7, .read {} 7]

def fiftyRun : CacheRun := startOf 7 {} {} fiftyStudents twoReaders hundredStudents

def readBefore : List ℕ := List.replicate 4 1 ++ List.replicate 20 0

def storedLate : List ℕ := List.replicate 3 1 ++ List.replicate 2 2

def staleAnswer (c : CacheRun) : Bool :=
  (answerOf c 2).any fun v => v ≠ .entitlements (c.store.current 7)

/-- **A late store brings the old value back**: the second reader starts after the final clear and
returns a hundred. -/
theorem stale_read_after_clear : ¬ FreshReads 7 twoReaders fiftyRun (readBefore ++ storedLate) := by
  intro h
  have hclear : (fiftyRun.exec readBefore).any (fun c => decide (Cleared c) &&
      (c.exec storedLate).any staleAnswer) = true := by decide +kernel
  rw [Option.any_eq_true] at hclear
  obtain ⟨c, hl, hafter⟩ := hclear
  rw [Bool.and_eq_true, decide_eq_true_eq, Option.any_eq_true] at hafter
  obtain ⟨hcleared, c', hm, hstale⟩ := hafter
  unfold staleAnswer at hstale
  rw [Option.any_eq_true] at hstale
  obtain ⟨v, hv, hdiffers⟩ := hstale
  have hunread : 1 + 1 ∉ readBefore := by decide
  have hfresh := h readBefore storedLate c c' 1 {} v rfl hl hcleared hm rfl hunread hv
  exact of_decide_eq_true hdiffers hfresh

def storedInTime : List ℕ :=
  List.replicate 17 0 ++ List.replicate 7 1 ++ List.replicate 3 0 ++ List.replicate 3 2

/-- The second reader finds what the first one has stored. -/
theorem fresh_after_clear_of_two :
    (fiftyRun.exec storedInTime).any (fun c => (answerOf c 2).isSome) = true ∧
      FreshReads 7 twoReaders fiftyRun storedInTime :=
  ⟨by decide +kernel, fresh_after_clear rfl fiftyStudents twoReaders hundredStudents
    (timelyRun_of_check (by decide +kernel))⟩

end SchoolPlatform.Entitlements
