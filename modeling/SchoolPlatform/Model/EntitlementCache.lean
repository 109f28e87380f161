import SchoolPlatform.Model.PlatformConsole

/-!
# The cache of entitlements

The entitlements of a school are cached under a key that carries the version of its contract, and a
pointer of the school names that key. Reading goes through the pointer, or through the tables and
then stores what it has found; a change of the contract clears the pointer and what it names, before
its commit and after it.
-/

namespace SchoolPlatform.Entitlements

open ReadCommitted Subscriptions

inductive CacheKey
  | pointer (school : ℕ)
  | value (school subscription : ℕ) (version : Instant)
  deriving DecidableEq

/-- `startswith(expected_prefix)`. -/
def CacheKey.hasPrefix (school : ℕ) : CacheKey → Bool
  | .pointer _ => false
  | .value of _ _ => of = school

structure EntitlementValue where
  numeric : Option ℤ
  enabled : Bool
  deriving DecidableEq

abbrev SchoolEntitlements := Dict String EntitlementValue

inductive CacheValue
  | key (key : CacheKey)
  | entitlements (value : SchoolEntitlements)
  deriving DecidableEq

structure CachedContracts where
  contracts : Contracts := {}
  cache : Dict CacheKey CacheValue := []
  deriving DecidableEq

abbrev CacheProgram (α : Type) := Program CachedContracts ContractRow Failure α

/-- `set_many`, which is one command. -/
def CachedContracts.setMany (s : CachedContracts) (entries : List (CacheKey × CacheValue)) :
    CachedContracts :=
  { s with cache := entries.foldl (fun d p => d.insert p.1 p.2) s.cache }

def CachedContracts.deleteMany (s : CachedContracts) (keys : List CacheKey) : CachedContracts :=
  { s with cache := s.cache.filter fun p => p.1 ∉ keys }

/-- A command of the cache; one that cannot reach it answers nothing and changes nothing. -/
def cacheGet (reached : Bool) (key : CacheKey) : CacheProgram (Option CacheValue) :=
  Program.read fun s => if reached then s.cache.get? key else none

def cacheSetMany (reached : Bool) (entries : List (CacheKey × CacheValue)) : CacheProgram Unit :=
  Program.transaction (Tx.update fun s => if reached then s.setMany entries else s)

def cacheDeleteMany (reached : Bool) (keys : List CacheKey) : CacheProgram Unit :=
  Program.transaction (Tx.update fun s => if reached then s.deleteMany keys else s)

def entitlementValues (s : Contracts) (id : ℕ) : SchoolEntitlements :=
  Dict.ofList ((s.entitlementRows id).map fun p => (p.1, ⟨p.2.numericValue, p.2.isEnabled⟩))

def schoolEntitlements (s : Contracts) (school : ℕ) : SchoolEntitlements :=
  (s.liveSubscription school).elim [] fun p => entitlementValues s p.1

structure ReaderReach where
  pointer : Bool := true
  value : Bool := true
  deletion : Bool := true
  version : Bool := true
  store : Bool := true
  deriving DecidableEq

/-- The part of `get_school_entitlements` after the pointer. -/
def readTables (reach : ReaderReach) (school : ℕ) : CacheProgram CacheValue := do
  let subscription ← Program.read fun s => s.contracts.liveSubscription school
  match subscription with
  | none => pure (.entitlements [])
  | some (id, x) => do
    let key := CacheKey.value school id x.updatedAt
    let cached ← cacheGet reach.version key
    match cached with
    | some v => pure v
    | none => do
      let value ← Program.read fun s => entitlementValues s.contracts id
      cacheSetMany reach.store [(key, .entitlements value), (.pointer school, .key key)]
      pure (.entitlements value)

def getSchoolEntitlements (reach : ReaderReach) (school : ℕ) : CacheProgram CacheValue := do
  let valueKey ← cacheGet reach.pointer (.pointer school)
  match valueKey with
  | none => readTables reach school
  | some (.entitlements _) => do
    cacheDeleteMany reach.deletion [.pointer school]
    readTables reach school
  | some (.key key) =>
    if key.hasPrefix school then do
      let cached ← cacheGet reach.value key
      match cached with
      | some v => pure v
      | none => readTables reach school
    else do
      cacheDeleteMany reach.deletion [.pointer school]
      readTables reach school

def namedKeys (school : ℕ) : Option CacheValue → List CacheKey
  | some (.key key) => if key.hasPrefix school then [key] else []
  | some (.entitlements _) => []
  | none => []

/-- The two commands of `clear`, and whether they reach the cache. -/
structure ClearReach where
  pointer : Bool := true
  deletion : Bool := true
  deriving DecidableEq

def clear (reach : ClearReach) (school : ℕ) : CacheProgram Unit := do
  let valueKey ← cacheGet reach.pointer (.pointer school)
  cacheDeleteMany reach.deletion (.pointer school :: namedKeys school valueKey)

def tables : Part Contracts CachedContracts ContractRow ContractRow Failure Failure where
  get := fun s => s.contracts
  set := fun contracts s => { s with contracts := contracts }
  row := fun r => r
  error := fun e => e

inductive EntitlementChange
  | setEntitlementOverride (clock : ContractClock) (key : String) (numericValue : Option ℤ)
      (isEnabled : Bool)
  | changePlan (clock : ContractClock) (planId : ℕ)

def EntitlementChange.body (school : ℕ) : EntitlementChange → ContractTransaction Unit
  | .setEntitlementOverride clock key numericValue isEnabled =>
    Subscriptions.setEntitlementOverride clock school key numericValue isEnabled
  | .changePlan clock planId => (Subscriptions.changePlan clock school planId).bind fun _ => .ret ()

/-- A change with `invalidate_school_entitlements`: the cache is cleared at the end of the
transaction, when nobody else sees its changes yet, and on its commit. A refused change does not get
to the first `clear`, which then stands for entries that run out. -/
def EntitlementChange.program (school : ℕ) (atOnce onCommit : ClearReach)
    (change : EntitlementChange) : CacheProgram Unit := do
  clear atOnce school
  Program.transaction ((change.body school).zoom tables)
  clear onCommit school

/-- What is at work beside a change: a reader, or entries that run out. -/
inductive CacheClient
  | read (reach : ReaderReach) (school : ℕ)
  | expire (keys : List CacheKey)

def CacheClient.program : CacheClient → CacheProgram (Option CacheValue)
  | .read reach school => (getSchoolEntitlements reach school).bind fun v => .ret (some v)
  | .expire keys => (cacheDeleteMany true keys).bind fun _ => .ret none

def programs (school : ℕ) (atOnce onCommit : ClearReach) (change : EntitlementChange)
    (clients : List CacheClient) : List (CacheProgram (Option CacheValue)) :=
  ((change.program school atOnce onCommit).bind fun _ => .ret none) ::
    clients.map CacheClient.program

end SchoolPlatform.Entitlements
