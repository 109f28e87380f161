import SchoolPlatform.Model.Wire

/-!
# The queue of the bridge

Events wait in a durable queue until the server has answered for them. `DurableQueue` is the
table with its unique key, `BridgeEngine.flush` the loop that sends batches. A transport is what
one request meets: an answer, a refusal, or a failure that the client tries again.
-/

namespace SchoolPlatform

inductive QueueState
  | pending | failedRetryable | acknowledged
  deriving DecidableEq

def QueueState.retryable : QueueState → Bool
  | .pending => true
  | .failedRetryable => true
  | .acknowledged => false

structure QueueRow where
  id : ℕ
  dedupeKey : Text
  payload : WireEvent
  state : QueueState := .pending
  attempts : ℕ := 0
  deriving DecidableEq

/-- `str(event.get(key, ""))`. -/
def WireEvent.strField (v : Option JsonValue) : Text :=
  match v with
  | none => []
  | some v => v.str

/-- The fields of the event joined with bars. -/
def WireEvent.composedKey (event : WireEvent) : Text :=
  List.intercalate ['|']
    [WireEvent.strField event.deviceId, WireEvent.strField event.externalUserId,
      WireEvent.strField event.occurredAt, WireEvent.strField event.eventType]

/-- The identifier the device gave the event, when it counts as one. -/
def WireEvent.givenId (event : WireEvent) : Option JsonValue :=
  event.externalEventId.filter fun v => v.truthy

/-- What `enqueue` tells events apart by, behind the device. -/
def WireEvent.localKey (event : WireEvent) : Text :=
  match event.givenId with
  | some v => v.str
  | none => event.composedKey

def WireEvent.queueKey (event : WireEvent) : Text :=
  (event.deviceId.getD .null).str ++ "::".toList ++ event.localKey

/-- The rows in the order of their ids, with the unique column. -/
structure DurableQueue where
  rows : List QueueRow := []
  nextId : ℕ := 1
  ids_sorted : (rows.map fun row => row.id).Pairwise (· < ·) := by decide
  ids_lt : ∀ row ∈ rows, row.id < nextId := by decide
  keys_nodup : (rows.map fun row => row.dedupeKey).Nodup := by decide
  keys_eq : ∀ row ∈ rows, row.dedupeKey = row.payload.queueKey := by decide

def DurableQueue.empty : DurableQueue := {}

/-- `enqueue`: `true` when the event has been inserted, `false` when its key was there. -/
def DurableQueue.enqueue (queue : DurableQueue) (event : WireEvent) : Bool × DurableQueue :=
  if hkey : ∃ row ∈ queue.rows, row.dedupeKey = event.queueKey then (false, queue)
  else
    (true,
      { rows := queue.rows ++
          [{ id := queue.nextId, dedupeKey := event.queueKey, payload := event }]
        nextId := queue.nextId + 1
        ids_sorted := by
          rw [List.map_append, List.pairwise_append]
          refine ⟨queue.ids_sorted, by simp, ?_⟩
          intro a ha b hb
          rw [List.mem_map] at ha
          obtain ⟨row, hrow, rfl⟩ := ha
          have hlt := queue.ids_lt row hrow
          simp only [List.map_cons, List.map_nil, List.mem_singleton] at hb
          omega
        ids_lt := by
          intro row hrow
          rw [List.mem_append, List.mem_singleton] at hrow
          rcases hrow with hrow | rfl
          · have hlt := queue.ids_lt row hrow
            omega
          · exact Nat.lt_succ_self _
        keys_nodup := by
          rw [List.map_append, List.nodup_append]
          refine ⟨queue.keys_nodup, by simp, ?_⟩
          intro a ha b hb hab
          rw [List.mem_map] at ha
          obtain ⟨row, hrow, rfl⟩ := ha
          simp only [List.map_cons, List.map_nil, List.mem_singleton] at hb
          exact hkey ⟨row, hrow, hab.trans hb⟩
        keys_eq := by
          intro row hrow
          rw [List.mem_append, List.mem_singleton] at hrow
          rcases hrow with hrow | rfl
          · exact queue.keys_eq row hrow
          · rfl })

/-- The rows that wait, in the order of their ids. -/
def DurableQueue.waiting (queue : DurableQueue) : List QueueRow :=
  queue.rows.filter fun row => row.state.retryable

/-- `LIMIT size`; a negative limit is none. -/
def limit {α : Type} (size : ℤ) (rows : List α) : List α :=
  if size < 0 then rows else rows.take size.toNat

def DurableQueue.nextBatch (queue : DurableQueue) (size : ℤ) : List QueueRow :=
  limit size queue.waiting

/-- `UPDATE … SET state = …, attempts = attempts + 1` of one row. -/
def QueueRow.marked (ids : List ℕ) (state : QueueState) (row : QueueRow) : QueueRow :=
  if row.id ∈ ids then { row with state := state, attempts := row.attempts + 1 } else row

@[simp] theorem QueueRow.marked_id (ids : List ℕ) (state : QueueState) (row : QueueRow) :
    (row.marked ids state).id = row.id := by
  unfold QueueRow.marked
  split <;> rfl

@[simp] theorem QueueRow.marked_dedupeKey (ids : List ℕ) (state : QueueState) (row : QueueRow) :
    (row.marked ids state).dedupeKey = row.dedupeKey := by
  unfold QueueRow.marked
  split <;> rfl

@[simp] theorem QueueRow.marked_payload (ids : List ℕ) (state : QueueState) (row : QueueRow) :
    (row.marked ids state).payload = row.payload := by
  unfold QueueRow.marked
  split <;> rfl

def DurableQueue.mark (queue : DurableQueue) (ids : List ℕ) (state : QueueState) : DurableQueue where
  rows := queue.rows.map fun row => row.marked ids state
  nextId := queue.nextId
  ids_sorted := by
    rw [List.map_map]
    simpa [Function.comp_def] using queue.ids_sorted
  ids_lt := by
    intro row hrow
    rw [List.mem_map] at hrow
    obtain ⟨old, hold, rfl⟩ := hrow
    rw [QueueRow.marked_id]
    exact queue.ids_lt old hold
  keys_nodup := by
    rw [List.map_map]
    simpa [Function.comp_def] using queue.keys_nodup
  keys_eq := by
    intro row hrow
    rw [List.mem_map] at hrow
    obtain ⟨old, hold, rfl⟩ := hrow
    rw [QueueRow.marked_dedupeKey, QueueRow.marked_payload]
    exact queue.keys_eq old hold

/-- An element of the list of results: an object, by its field `result`, or something else. -/
inductive ResultEntry
  | object (result : Option JsonValue)
  | other
  deriving DecidableEq

/-- The field `results` of an answer. A text or an object in its place is gone through when it
is empty and fails otherwise. -/
inductive ResultsField
  | list (entries : List ResultEntry)
  | emptyIterable
  | other
  deriving DecidableEq

/-- A well-formed JSON answer: an object, by its field `results`, or something else. -/
inductive Answer
  | object (results : Option ResultsField)
  | other
  deriving DecidableEq

inductive TransportResult
  | answer (body : Answer)
  /-- A status of 400 to 499: `BridgeAuthError`. -/
  | refused
  /-- The network, a timeout or a status from 500: `RetryableError`. -/
  | failed
  deriving DecidableEq

def maxAttempts : ℕ := 5

/-- A transport: what a request with these events meets, and the server after it. -/
abbrev Transport (σ : Type) : Type := σ → List WireEvent → TransportResult × σ

/-- `SaaSClient._post`: up to `attempts` tries. -/
def post {σ : Type} (transport : Transport σ) : ℕ → σ → List WireEvent → TransportResult × σ
  | 0, server, _ => (.failed, server)
  | attempts + 1, server, events =>
    match transport server events with
    | (.failed, server') => post transport attempts server' events
    | outcome => outcome

structure Totals where
  sent : ℕ := 0
  duplicate : ℕ := 0
  invalid : ℕ := 0
  unmatched : ℕ := 0
  retry : ℕ := 0
  deriving DecidableEq

inductive Counter
  | sent | duplicate | invalid | unmatched | retry
  deriving DecidableEq

def Counter.name : Counter → Text
  | .sent => "sent".toList
  | .duplicate => "duplicate".toList
  | .invalid => "invalid".toList
  | .unmatched => "unmatched".toList
  | .retry => "retry".toList

def Counter.all : List Counter := [.sent, .duplicate, .invalid, .unmatched, .retry]

def Totals.add (totals : Totals) (n : ℕ) : Counter → Totals
  | .sent => { totals with sent := totals.sent + n }
  | .duplicate => { totals with duplicate := totals.duplicate + n }
  | .invalid => { totals with invalid := totals.invalid + n }
  | .unmatched => { totals with unmatched := totals.unmatched + n }
  | .retry => { totals with retry := totals.retry + n }

/-- `totals[key if key in totals else "invalid"]`. -/
def counterOf (key : JsonValue) : Counter :=
  (Counter.all.find? fun c => key = .text c.name).getD .invalid

def accepted : JsonValue := .text "accepted".toList

/-- Count one result; `none` when looking at it raises. -/
def countResult (totals : Totals) : ResultEntry → Option Totals
  | .other => none
  | .object result =>
    match result.getD (.text "invalid".toList) with
    | .composite _ => none
    | key =>
      let totals := totals.add 1 (counterOf key)
      some (if key = accepted then totals.add 1 .sent else totals)

def countResults (totals : Totals) : ResultsField → Option Totals
  | .emptyIterable => some totals
  | .other => none
  | .list entries => entries.foldlM countResult totals

/-- What is left when a flush has ended: the queue, the server, and the totals unless an
exception has passed through. -/
structure Flushed (σ : Type) where
  queue : DurableQueue
  server : σ
  totals : Option Totals

/-- One turn of the loop: the end of the flush, or the state the next turn begins with. -/
inductive FlushTurn (σ : Type)
  | stop (flushed : Flushed σ)
  | next (queue : DurableQueue) (server : σ) (totals : Totals)

/-- One turn of the loop of `flush` for a batch that is not empty: the batch is sent, and an
answer acknowledges all of it before its results are looked at. -/
def flushTurn {σ : Type} (batch : List QueueRow) (reply : TransportResult × σ)
    (queue : DurableQueue) (totals : Totals) : FlushTurn σ :=
  let ids := batch.map fun row => row.id
  match reply with
  | (.failed, server) =>
    .stop ⟨queue.mark ids .failedRetryable, server, some (totals.add ids.length .retry)⟩
  | (.refused, server) => .stop ⟨queue, server, some (totals.add ids.length .retry)⟩
  | (.answer .other, server) => .stop ⟨queue, server, none⟩
  | (.answer (.object results), server) =>
    let queue := queue.mark ids .acknowledged
    match countResults totals (results.getD (.list [])) with
    | none => .stop ⟨queue, server, none⟩
    | some totals => .next queue server totals

/-- The loop of `flush`. Each turn that goes on acknowledges rows, so as many turns as rows wait
are enough. -/
def flushLoop {σ : Type} (transport : Transport σ) (batchSize : ℤ) :
    ℕ → DurableQueue → σ → Totals → Flushed σ
  | 0, queue, server, totals => ⟨queue, server, some totals⟩
  | turns + 1, queue, server, totals =>
    match queue.nextBatch batchSize with
    | [] => ⟨queue, server, some totals⟩
    | row :: rows =>
      let reply := post transport maxAttempts server ((row :: rows).map fun r => r.payload)
      match flushTurn (row :: rows) reply queue totals with
      | .stop flushed => flushed
      | .next queue server totals => flushLoop transport batchSize turns queue server totals

def flush {σ : Type} (transport : Transport σ) (batchSize : ℤ) (queue : DurableQueue)
    (server : σ) : Flushed σ :=
  flushLoop transport batchSize (queue.waiting.length + 1) queue server {}

end SchoolPlatform
