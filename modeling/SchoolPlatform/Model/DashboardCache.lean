import Mathlib.Logic.Function.Basic
import SchoolPlatform.Library.Interleaving
import SchoolPlatform.Model.Records

/-!
# The cache of the dashboard

Reading goes by a key that carries the version of a school; a change of the school's data counts the
version up. One reader of a process fills a key while the others wait for it, and a lock in the
cache keeps the processes apart. The version keys are kept and always reached; everything else may
run out at any time, and a command for it may fail to reach the cache.

Commands of the cache take effect at once, transactions of the database when they commit: an
operation that counts the version up inside its transaction does so before its commit.
-/

namespace SchoolPlatform.DashboardCache

open ReadCommitted

/-! ## The database and the cache -/

structure SessionSlot where
  school : ℕ
  sectionId : ℕ
  attendanceDate : Date
  periodSequence : ℕ
  deriving DecidableEq

/-- What a commit adds to the database: a session, or a part of what some call changes. -/
inductive DatabaseChange
  | session (slot : SessionSlot)
  | edit (call part : ℕ)
  deriving DecidableEq

/-- The database, as the changes that have been committed to it. -/
abbrev Database := List DatabaseChange

/-- `{_NAMESPACE}:{school_id}:{section}:v{version}:{digest}`, with the parts in place of their
digest. -/
structure DashboardKey where
  school : ℕ
  view : String
  version : ℕ
  parts : String
  deriving DecidableEq

inductive EntryKey
  | value (key : DashboardKey)
  | stale (key : DashboardKey)
  deriving DecidableEq

def EntryKey.key : EntryKey → DashboardKey
  | .value key => key
  | .stale key => key

/-- A payload, as the states of the database that the queries of its builder have seen. -/
structure Payload where
  seen : List Database
  deriving DecidableEq

/-- `DATA_REFRESH_BUSY` with status 503, or an error of a builder. -/
inductive DashboardFailure
  | busy
  | builder
  deriving DecidableEq

def DashboardFailure.api : DashboardFailure → Option ApiError
  | .busy => some
      { code := "DATA_REFRESH_BUSY"
        message := "جاري تحديث البيانات، حاول بعد قليل."
        statusCode := 503 }
  | .builder => none

inductive Flight
  | pending
  | result (value : Payload)
  | exception (e : DashboardFailure)

inductive FlightAnswer
  | owner
  | joined (call : ℕ)
  | full
  deriving DecidableEq

/-- Local variables of a call: the key that it has built, what the queries of its builder have seen,
the version that it has counted up to, and the last answers of the cache and of `_flights`. -/
structure CallLocals where
  key : Option DashboardKey := none
  seen : List Database := []
  bump : Option ℕ := none
  added : Bool := false
  flight : FlightAnswer := .full

/-- The database, the cache, the tables of flights of the processes, and the calls. A version that
is not there is 0, and so is none that is; a flight is known by the call that owns it. -/
structure DashboardStore where
  database : Database := []
  versions : ℕ → ℕ := fun _ => 0
  entries : EntryKey → Option Payload := fun _ => none
  refreshLocks : DashboardKey → Option ℕ := fun _ => none
  flights : Dict (ℕ × DashboardKey) ℕ := []
  futures : ℕ → Option Flight := fun _ => none
  locals : ℕ → CallLocals := fun _ => {}

/-- The row of a school, and the entry of a session in its unique index. -/
inductive DashboardRow
  | school (id : ℕ)
  | session (slot : SessionSlot)
  deriving DecidableEq

abbrev DashboardProgram (α : Type) := Program DashboardStore DashboardRow DashboardFailure α

def DashboardStore.setLocals (s : DashboardStore) (call : ℕ) (f : CallLocals → CallLocals) :
    DashboardStore :=
  { s with locals := Function.update s.locals call (f (s.locals call)) }

/-- A command, or a statement of the database that commits by itself. -/
def command (f : DashboardStore → DashboardStore) : DashboardProgram Unit :=
  Program.transaction (Tx.update f)

/-! ## Reading -/

/-- One round of the loop of `_fill`: whether `add` and `get` reach the cache, and what
`_cache_available` says. -/
structure Poll where
  add : Bool := true
  available : Bool := true
  get : Bool := true
  deriving DecidableEq

/-- A read of the dashboard: who asks for what, the queries of its builder and whether it raises,
the rounds that `_fill` has until its deadline, and which other commands reach the cache. -/
structure DashboardRead where
  process : ℕ := 0
  school : ℕ
  view : String
  parts : String
  ttl : ℤ
  queries : ℕ
  fails : Bool := false
  polls : List Poll
  hit : Bool := true
  flightStale : Bool := true
  fillHit : Bool := true
  fillStale : Bool := true
  setValue : Bool := true
  setStale : Bool := true
  release : Bool := true
  deriving DecidableEq

def cacheGet (reached : Bool) (key : EntryKey) : DashboardProgram (Option Payload) :=
  Program.read fun s => if reached then s.entries key else none

def cacheSet (reached : Bool) (key : EntryKey) (value : Payload) : DashboardProgram Unit :=
  command fun s =>
    if reached then { s with entries := Function.update s.entries key (some value) } else s

def DashboardRead.keyOn (r : DashboardRead) (s : DashboardStore) : DashboardKey where
  school := r.school
  view := r.view
  version := s.versions r.school
  parts := r.parts

def buildKey (call : ℕ) (r : DashboardRead) : DashboardProgram (Option DashboardKey) := do
  command fun s => s.setLocals call fun l => { l with key := some (r.keyOn s) }
  Program.read fun s => (s.locals call).key

def query (call : ℕ) : DashboardProgram Unit :=
  command fun s => s.setLocals call fun l => { l with seen := l.seen ++ [s.database] }

def builder (call queries : ℕ) (fails : Bool) :
    DashboardProgram (Except DashboardFailure Payload) := do
  Program.forEach (fun _ => query call) (List.range queries)
  let seen ← Program.read fun s => (s.locals call).seen
  pure (if fails then .error .builder else .ok ⟨seen⟩)

/-- `cache.add(lock_key, token)`, with the call as its token. -/
def addLock (reached : Bool) (call : ℕ) (key : DashboardKey) (s : DashboardStore) :
    DashboardStore :=
  if reached && (s.refreshLocks key).isNone then
    { s with refreshLocks := Function.update s.refreshLocks key (some call) }.setLocals call
      fun l => { l with added := true }
  else s.setLocals call fun l => { l with added := false }

def releaseLock (reached : Bool) (call : ℕ) (key : DashboardKey) (s : DashboardStore) :
    DashboardStore :=
  if reached && decide (s.refreshLocks key = some call) then
    { s with refreshLocks := Function.update s.refreshLocks key none }
  else s

def storeBuilt (r : DashboardRead) (key : DashboardKey) :
    Except DashboardFailure Payload → DashboardProgram Unit
  | .ok value => do
    cacheSet r.setValue (.value key) value
    cacheSet r.setStale (.stale key) value
  | .error _ => pure ()

def fillNow (call : ℕ) (r : DashboardRead) (key : DashboardKey) (acquired : Bool) :
    DashboardProgram (Except DashboardFailure Payload) := do
  let built ← builder call r.queries r.fails
  storeBuilt r key built
  (if acquired then command (releaseLock r.release call key) else pure ())
  pure built

def fillLoop (call : ℕ) (r : DashboardRead) (key : DashboardKey) (stale : Option Payload) :
    List Poll → DashboardProgram (Except DashboardFailure Payload)
  | [] => pure (.error .busy)
  | p :: polls => do
    command (addLock p.add call key)
    let acquired ← Program.read fun s => (s.locals call).added
    if acquired || !p.available then fillNow call r key acquired
    else match stale with
      | some value => pure (.ok value)
      | none =>
        if polls.isEmpty then pure (.error .busy)
        else do
          let hit ← cacheGet p.get (.value key)
          match hit with
          | some value => pure (.ok value)
          | none => fillLoop call r key stale polls

def fill (call : ℕ) (r : DashboardRead) (key : DashboardKey) :
    DashboardProgram (Except DashboardFailure Payload) := do
  let hit ← cacheGet r.fillHit (.value key)
  match hit with
  | some value => pure (.ok value)
  | none => do
    let stale ← cacheGet r.fillStale (.stale key)
    fillLoop call r key stale r.polls

def maxFlights : ℕ := 256

/-- Under `_flight_lock`, a reader finds the flight of its key or becomes its owner. -/
def takeFlight (call : ℕ) (process : ℕ) (key : DashboardKey) (s : DashboardStore) :
    DashboardStore :=
  match s.flights.get? (process, key) with
  | some owner => s.setLocals call fun l => { l with flight := .joined owner }
  | none =>
    if (s.flights.filter fun p => p.1.1 = process).length ≥ maxFlights then
      s.setLocals call fun l => { l with flight := .full }
    else
      { s with
        flights := Dict.insert s.flights (process, key) call
        futures := Function.update s.futures call (some .pending) }.setLocals call
          fun l => { l with flight := .owner }

def Flight.ended : Except DashboardFailure Payload → Flight
  | .ok value => .result value
  | .error e => .exception e

/-- `flight.set_result` and `flight.set_exception`. -/
def settleFlight (call : ℕ) (filled : Except DashboardFailure Payload) (s : DashboardStore) :
    DashboardStore :=
  { s with futures := Function.update s.futures call (some (.ended filled)) }

def popFlight (process : ℕ) (key : DashboardKey) (s : DashboardStore) : DashboardStore :=
  { s with flights := s.flights.filter fun p => p.1 ≠ (process, key) }

def ofExcept : Except DashboardFailure Payload → DashboardProgram Payload
  | .ok value => Program.ret value
  | .error e => Program.raise e

/-- A reader that waits for the flight of another one, until it has ended or the time is up. -/
def joinFlight (r : DashboardRead) (key : DashboardKey) (owner : ℕ) : DashboardProgram Payload := do
  let stale ← cacheGet r.flightStale (.stale key)
  match stale with
  | some value => pure value
  | none => do
    let flight ← Program.read fun s => s.futures owner
    match flight with
    | some (.result value) => pure value
    | some (.exception e) => Program.raise e
    | some .pending => Program.raise .busy
    | none => Program.raise .busy

def cached (call : ℕ) (r : DashboardRead) (key : DashboardKey) : DashboardProgram Payload := do
  if r.ttl ≤ 0 then do
    let built ← builder call r.queries r.fails
    ofExcept built
  else do
    let hit ← cacheGet r.hit (.value key)
    match hit with
    | some value => pure value
    | none => do
      command (takeFlight call r.process key)
      let answer ← Program.read fun s => (s.locals call).flight
      match answer with
      | .full => Program.raise .busy
      | .joined owner => joinFlight r key owner
      | .owner => do
        let filled ← fill call r key
        command (settleFlight call filled)
        command (popFlight r.process key)
        ofExcept filled

def readDashboard (call : ℕ) (r : DashboardRead) : DashboardProgram (Option Payload) := do
  let key ← buildKey call r
  match key with
  | none => pure none
  | some key => do
    let value ← cached call r key
    pure (some value)

/-! ## Operations -/

/-- What changes a school's data: a session is started, under the national calendar in a transaction
that the start itself is in; an operation commits some transactions and then counts the version up
(`submit_session`, `edit_session`, `correct_student_attendance`, `create_excuse`); or it does so
within the transaction of its caller (the last two, in `decide_request`). -/
inductive Operation
  | startSession (national : Bool) (slot : SessionSlot)
  | edit (school commits : ℕ)
  | editWithin (school : ℕ)
  deriving DecidableEq

def Operation.school : Operation → ℕ
  | .startSession _ slot => slot.school
  | .edit school _ => school
  | .editWithin school => school

def Operation.changes (call : ℕ) : Operation → List DatabaseChange
  | .startSession _ slot => [.session slot]
  | .edit _ commits => (List.range commits).map fun part => .edit call part
  | .editWithin _ => [.edit call 0]

/-- The version is counted up before the commit. -/
def Operation.isEarly : Operation → Bool
  | .startSession national _ => national
  | .edit _ _ => false
  | .editWithin _ => true

def addChange (x : DatabaseChange) (s : DashboardStore) : DashboardStore :=
  { s with database := s.database ++ [x] }

/-- The version of the school is `version`, by this call: by `add` or by `incr`. -/
def DashboardStore.bump (s : DashboardStore) (call school version : ℕ) (added : Bool) :
    DashboardStore :=
  { s with versions := Function.update s.versions school version }.setLocals call
    fun l => { l with bump := some version, added := added }

/-- `cache.add(key, 1)` of a version key. -/
def addVersion (call school : ℕ) (s : DashboardStore) : DashboardStore :=
  if s.versions school = 0 then s.bump call school 1 true
  else s.setLocals call fun l => { l with added := false }

/-- `cache.incr(key)`; a key that is not there is set to 1. -/
def incrVersion (call school : ℕ) (s : DashboardStore) : DashboardStore :=
  s.bump call school (s.versions school + 1) false

def invalidateSchool (call school : ℕ) : DashboardProgram Unit := do
  command (addVersion call school)
  let added ← Program.read fun s => (s.locals call).added
  if added then pure () else command (incrVersion call school)

/-- The session is inserted, if the unique constraint allows it: whether it is. -/
def insertSession (slot : SessionSlot) :
    Tx DashboardStore DashboardRow DashboardFailure Bool := do
  Tx.lockRows .update [DashboardRow.session slot]
  let taken ← Tx.select fun s => decide (DatabaseChange.session slot ∈ s.database)
  if taken then pure false
  else do
    Tx.update (addChange (.session slot))
    pure true

/-- `start_session`: whether this call has opened the session. Under the national calendar others
see the new version at once and the session on the commit of the surrounding transaction, so the
version stands before the transaction; the existing session is looked for before both. -/
def startSession (call : ℕ) (national : Bool) (slot : SessionSlot) : DashboardProgram Bool := do
  let existing ← Program.read fun s => decide (DatabaseChange.session slot ∈ s.database)
  if existing then pure false
  else if national then do
    invalidateSchool call slot.school
    Program.transaction do
      Tx.lockRows .update [DashboardRow.school slot.school]
      insertSession slot
  else do
    let inserted ← Program.transaction (insertSession slot)
    if inserted then do
      invalidateSchool call slot.school
      pure true
    else pure false

/-- Whether the operation has changed something. -/
def Operation.program (call : ℕ) : Operation → DashboardProgram Bool
  | .startSession national slot => DashboardCache.startSession call national slot
  | .edit school commits => do
    Program.forEach (fun part => command (addChange (.edit call part))) (List.range commits)
    invalidateSchool call school
    pure true
  | .editWithin school => do
    invalidateSchool call school
    Program.transaction do
      Tx.lockRows .update [DashboardRow.school school]
      Tx.update (addChange (.edit call 0))
    pure true

/-- What is at work: readers, operations, and entries and locks that run out. -/
inductive DashboardCall
  | read (r : DashboardRead)
  | operation (o : Operation)
  | expire (entries : List EntryKey) (locks : List DashboardKey)
  deriving DecidableEq

inductive DashboardAnswer
  | payload (value : Option Payload)
  | changed (b : Bool)
  | none
  deriving DecidableEq

def expire (entries : List EntryKey) (locks : List DashboardKey) (s : DashboardStore) :
    DashboardStore :=
  { s with
    entries := fun key => if key ∈ entries then none else s.entries key
    refreshLocks := fun key => if key ∈ locks then none else s.refreshLocks key }

def DashboardCall.program (call : ℕ) : DashboardCall → DashboardProgram DashboardAnswer
  | .read r => (readDashboard call r).bind fun value => .ret (.payload value)
  | .operation o => (o.program call).bind fun changed => .ret (.changed changed)
  | .expire entries locks => (command (DashboardCache.expire entries locks)).bind fun _ => .ret .none

def programs (calls : List DashboardCall) : List (DashboardProgram DashboardAnswer) :=
  calls.mapIdx fun call c => c.program call

end SchoolPlatform.DashboardCache
