import Mathlib.Algebra.GroupWithZero.Nat
import SchoolPlatform.Model.BridgeQueue

/-!
# What a flush delivers

The waiting events go out in batches of the configured size, in the order of their ids. A server
that refuses a batch stops the flush at it, and every later flush begins with the same batch: an
event is delivered exactly when its batch and all batches before it pass the serializer
(`flushes_deliver_iff`).
-/

namespace SchoolPlatform

namespace DurableQueue

theorem row_eq_of_id_eq (queue : DurableQueue) {r x : QueueRow} (hr : r ∈ queue.rows)
    (hx : x ∈ queue.rows) (hid : r.id = x.id) : r = x := by
  have hnodup : (queue.rows.map fun row => row.id).Nodup :=
    queue.ids_sorted.imp fun hlt => Nat.ne_of_lt hlt
  exact List.inj_on_of_nodup_map hnodup hr hx hid

theorem mem_waiting {queue : DurableQueue} {row : QueueRow} :
    row ∈ queue.waiting ↔ row ∈ queue.rows ∧ row.state.retryable = true := by
  simp [waiting]

theorem nodup_waiting (queue : DurableQueue) : queue.waiting.Nodup := by
  have hnodup : (queue.rows.map fun row => row.id).Nodup :=
    queue.ids_sorted.imp fun hlt => Nat.ne_of_lt hlt
  exact (List.Nodup.of_map _ hnodup).filter _

theorem waiting_mark_acknowledged (queue : DurableQueue) (ids : List ℕ) :
    (queue.mark ids .acknowledged).waiting = queue.waiting.filter fun row => row.id ∉ ids := by
  unfold waiting mark
  simp only
  rw [List.filter_filter]
  induction queue.rows with
  | nil => rfl
  | cons row rows ih =>
    rw [List.map_cons, List.filter_cons, List.filter_cons, ih]
    by_cases hid : row.id ∈ ids
    · simp [QueueRow.marked, hid, QueueState.retryable]
    · simp [QueueRow.marked, hid]

theorem waiting_mark_take (queue : DurableQueue) (n : ℕ) :
    (queue.mark ((queue.waiting.take n).map fun row => row.id) .acknowledged).waiting =
      queue.waiting.drop n := by
  rw [waiting_mark_acknowledged]
  have hids : (queue.waiting.map fun row => row.id).Nodup :=
    (queue.ids_sorted.imp fun hlt => Nat.ne_of_lt hlt).sublist
      (List.filter_sublist.map fun row : QueueRow => row.id)
  generalize queue.waiting = waiting at hids
  induction waiting generalizing n with
  | nil => simp
  | cons row waiting ih =>
    rw [List.map_cons, List.nodup_cons] at hids
    cases n with
    | zero => simp
    | succ n =>
      have hrest : (waiting.filter fun r => r.id ∉ ((row :: waiting).take (n + 1)).map fun r => r.id) =
          waiting.filter fun r => r.id ∉ (waiting.take n).map fun r => r.id := by
        apply List.filter_congr
        intro r hr
        have hne : r.id ≠ row.id := by
          intro heq
          exact hids.1 (heq ▸ List.mem_map_of_mem hr)
        simp [hne]
      rw [List.filter_cons, hrest, ih n hids.2]
      simp

end DurableQueue

def batchLength (size : ℤ) (waiting : List QueueRow) : ℕ :=
  if size < 0 then waiting.length else size.toNat

/-- The events of the `j`-th batch, when all batches before it are acknowledged. -/
def batchEvents (size : ℤ) (waiting : List QueueRow) (j : ℕ) : List WireEvent :=
  ((waiting.drop (j * batchLength size waiting)).take (batchLength size waiting)).map
    fun row => row.payload

theorem limit_drop (size : ℤ) (waiting : List QueueRow) (j : ℕ) :
    limit size (waiting.drop (j * batchLength size waiting)) =
      (waiting.drop (j * batchLength size waiting)).take (batchLength size waiting) := by
  unfold limit batchLength
  split
  · rw [List.take_of_length_le]
    rw [List.length_drop]
    omega
  · rfl

/-! ## A healthy server -/

/-- A server that validates each request as the serializer does, stores the events of a request
that it admits, and answers with one result for each of them. -/
structure HealthyServer (parsers : FieldParsers) (σ : Type) where
  receive : Transport σ
  stored : σ → List EventData
  outcome : List WireEvent → List Text
  admits : ∀ (s : σ) (events : List WireEvent) (data : List EventData),
    bridgeBatchSerializer parsers events = some data →
      (receive s events).1 = .answer (.object (some (.list
        ((outcome events).map fun word => .object (some (.text word)))))) ∧
      stored (receive s events).2 = stored s ++ data
  refuses : ∀ (s : σ) (events : List WireEvent),
    bridgeBatchSerializer parsers events = none →
      (receive s events).1 = .refused ∧ stored (receive s events).2 = stored s

theorem countResults_words (words : List Text) (totals : Totals) :
    ∃ totals', countResults totals
      (.list (words.map fun word => .object (some (.text word)))) = some totals' := by
  unfold countResults
  simp only
  induction words generalizing totals with
  | nil => exact ⟨totals, rfl⟩
  | cons word words ih =>
    rw [List.map_cons, List.foldlM_cons]
    exact ih _

section Healthy

variable {σ : Type} {parsers : FieldParsers} (server : HealthyServer parsers σ)

theorem HealthyServer.post_eq (s : σ) (events : List WireEvent) :
    post server.receive maxAttempts s events = server.receive s events := by
  have hne : (server.receive s events).1 ≠ .failed := by
    cases h : bridgeBatchSerializer parsers events with
    | none =>
      rw [(server.refuses s events h).1]
      simp
    | some data =>
      rw [(server.admits s events data h).1]
      simp
  unfold maxAttempts post
  split
  · rename_i s' heq
    rw [heq] at hne
    exact absurd rfl hne
  · rfl

def HealthyServer.flushes (size : ℤ) : ℕ → DurableQueue → σ → DurableQueue × σ
  | 0, queue, s => (queue, s)
  | k + 1, queue, s =>
    let flushed := flush server.receive size queue s
    HealthyServer.flushes size k flushed.queue flushed.server

/-- The row is acknowledged, and what its payload says is stored. -/
def HealthyServer.Delivered (row : QueueRow) (data : EventData) (queue : DurableQueue) (s : σ) :
    Prop :=
  (∃ r ∈ queue.rows, r.id = row.id ∧ r.state = .acknowledged) ∧ data ∈ server.stored s

/-- A flush that finds nothing to send, or whose first batch does not pass the serializer. -/
def Blocked (parsers : FieldParsers) (size : ℤ) (queue : DurableQueue) : Prop :=
  queue.nextBatch size = [] ∨
    bridgeBatchSerializer parsers ((queue.nextBatch size).map fun row => row.payload) = none

theorem HealthyServer.flushLoop_blocked {size : ℤ} {queue : DurableQueue}
    (hblocked : Blocked parsers size queue) (turns : ℕ) (s : σ) (totals : Totals) :
    (flushLoop server.receive size turns queue s totals).queue = queue ∧
      server.stored (flushLoop server.receive size turns queue s totals).server =
        server.stored s := by
  cases turns with
  | zero => exact ⟨rfl, rfl⟩
  | succ turns =>
    unfold flushLoop
    rcases hbatch : queue.nextBatch size with _ | ⟨row, rows⟩
    · exact ⟨rfl, rfl⟩
    · unfold Blocked at hblocked
      rw [hbatch] at hblocked
      have hnone := hblocked.resolve_left (by simp)
      obtain ⟨hrefused, hstored⟩ := server.refuses s _ hnone
      simp only [server.post_eq]
      generalize server.receive s ((row :: rows).map fun r => r.payload) = reply at hrefused hstored
      obtain ⟨result, s'⟩ := reply
      simp only at hrefused hstored
      subst hrefused
      exact ⟨rfl, hstored⟩

/-- What is known of a queue after the rows of some ids have been acknowledged, and of nothing
else having changed. -/
structure Acknowledged (before after : DurableQueue) : Prop where
  ids : after.rows.map (fun row => row.id) = before.rows.map fun row => row.id
  rows : ∀ r ∈ after.rows, r ∈ before.rows ∨ r.state = .acknowledged

theorem Acknowledged.refl (queue : DurableQueue) : Acknowledged queue queue :=
  ⟨rfl, fun _ hr => .inl hr⟩

theorem Acknowledged.mark {before after : DurableQueue} (h : Acknowledged before after)
    (ids : List ℕ) : Acknowledged before (after.mark ids .acknowledged) := by
  refine ⟨?_, ?_⟩
  · show List.map _ (after.rows.map _) = _
    rw [List.map_map, ← h.ids]
    simp [Function.comp_def]
  · intro r hr
    have hr' : r ∈ after.rows.map fun row => row.marked ids .acknowledged := hr
    rw [List.mem_map] at hr'
    obtain ⟨old, hold, rfl⟩ := hr'
    by_cases hid : old.id ∈ ids
    · exact .inr (by simp [QueueRow.marked, hid])
    · rcases h.rows old hold with hb | ha
      · exact .inl (by simpa [QueueRow.marked, hid] using hb)
      · exact .inr (by simpa [QueueRow.marked, hid] using ha)

theorem Acknowledged.acknowledged_iff {before after : DurableQueue} (h : Acknowledged before after)
    {row : QueueRow} (hrow : row ∈ before.waiting) :
    (∃ r ∈ after.rows, r.id = row.id ∧ r.state = .acknowledged) ↔ row ∉ after.waiting := by
  obtain ⟨hmem, hstate⟩ := DurableQueue.mem_waiting.mp hrow
  constructor
  · rintro ⟨r, hr, hid, hack⟩ hwait
    have hsame := after.row_eq_of_id_eq hr (DurableQueue.mem_waiting.mp hwait).1 hid
    rw [← hsame, hack] at hstate
    simp [QueueState.retryable] at hstate
  · intro hnot
    have hid : row.id ∈ after.rows.map fun r => r.id := by
      rw [h.ids]
      exact List.mem_map_of_mem hmem
    rw [List.mem_map] at hid
    obtain ⟨r, hr, hrid⟩ := hid
    refine ⟨r, hr, hrid, ?_⟩
    rcases h.rows r hr with hb | ha
    · have hsame := before.row_eq_of_id_eq hb hmem hrid
      rw [hsame] at hr
      exact absurd (DurableQueue.mem_waiting.mpr ⟨hr, hstate⟩) hnot
    · exact ha

/-- **The loop.** From the `m`-th batch on, the loop acknowledges and stores the batches that pass
the serializer, and ends at the first one that does not. -/
theorem HealthyServer.flushLoop_healthy (size : ℤ) (before : DurableQueue) (turns m : ℕ)
    (queue : DurableQueue) (s : σ) (totals : Totals) (hack : Acknowledged before queue)
    (hwait : queue.waiting = before.waiting.drop (m * batchLength size before.waiting))
    (hturns : queue.waiting.length < turns) :
    ∃ k, m ≤ k ∧
      Acknowledged before (flushLoop server.receive size turns queue s totals).queue ∧
      (flushLoop server.receive size turns queue s totals).queue.waiting =
        before.waiting.drop (k * batchLength size before.waiting) ∧
      Blocked parsers size (flushLoop server.receive size turns queue s totals).queue ∧
      (∀ j, m ≤ j → j < k → ∃ data,
        bridgeBatchSerializer parsers (batchEvents size before.waiting j) = some data ∧
        ∀ x ∈ data, x ∈ server.stored (flushLoop server.receive size turns queue s totals).server) ∧
      ∀ x ∈ server.stored s,
        x ∈ server.stored (flushLoop server.receive size turns queue s totals).server := by
  induction turns generalizing m queue s totals with
  | zero => omega
  | succ turns ih =>
    have hbatch : queue.nextBatch size = (queue.waiting).take (batchLength size before.waiting) := by
      unfold DurableQueue.nextBatch
      rw [hwait, limit_drop]
    have hevents : (queue.nextBatch size).map (fun row => row.payload) =
        batchEvents size before.waiting m := by
      rw [hbatch, hwait]
      rfl
    by_cases hblocked : Blocked parsers size queue
    · obtain ⟨hq, hs⟩ := server.flushLoop_blocked hblocked (turns + 1) s totals
      rw [hq, hs]
      exact ⟨m, le_refl m, hack, hwait, hblocked, fun j hj hlt => by omega, fun x hx => hx⟩
    · -- The batch is not empty and passes: it is acknowledged, stored, and the loop goes on.
      unfold Blocked at hblocked
      rw [not_or, hevents] at hblocked
      obtain ⟨hne, hsome⟩ := hblocked
      obtain ⟨data, hdata⟩ := Option.ne_none_iff_exists'.mp hsome
      obtain ⟨hanswer, hstored⟩ := server.admits s _ data hdata
      obtain ⟨totals', htotals⟩ :=
        countResults_words (server.outcome (batchEvents size before.waiting m)) totals
      have hpos : 0 < batchLength size before.waiting := by
        rcases Nat.eq_zero_or_pos (batchLength size before.waiting) with h0 | hpos
        · rw [h0, List.take_zero] at hbatch
          exact absurd hbatch hne
        · exact hpos
      have hnonempty : 0 < queue.waiting.length := by
        rcases Nat.eq_zero_or_pos queue.waiting.length with h0 | hpos'
        · rw [List.length_eq_zero_iff.mp h0, List.take_nil] at hbatch
          exact absurd hbatch hne
        · exact hpos'
      have hstep : flushLoop server.receive size (turns + 1) queue s totals =
          flushLoop server.receive size turns
            (queue.mark ((queue.nextBatch size).map fun row => row.id) .acknowledged)
            (server.receive s (batchEvents size before.waiting m)).2 totals' := by
        conv_lhs => unfold flushLoop
        rcases hrows : queue.nextBatch size with _ | ⟨row, rows⟩
        · exact absurd hrows hne
        · rw [hrows] at hevents
          simp only [server.post_eq, hevents]
          generalize server.receive s (batchEvents size before.waiting m) = reply at hanswer
          obtain ⟨result, s'⟩ := reply
          simp only at hanswer
          subst hanswer
          simp only [flushTurn, Option.getD_some, htotals]
      have hwait' : (queue.mark ((queue.nextBatch size).map fun row => row.id)
          .acknowledged).waiting =
            before.waiting.drop ((m + 1) * batchLength size before.waiting) := by
        rw [hbatch, DurableQueue.waiting_mark_take, hwait, List.drop_drop]
        congr 1
        exact (Nat.succ_mul m _).symm
      have hlength : (queue.mark ((queue.nextBatch size).map fun row => row.id)
          .acknowledged).waiting.length < turns := by
        rw [hbatch, DurableQueue.waiting_mark_take, List.length_drop]
        omega
      obtain ⟨k, hmk, hack', hw, hb, haccepted, hkept⟩ :=
        ih (m + 1) _ (server.receive s (batchEvents size before.waiting m)).2 totals'
          (hack.mark _) hwait' hlength
      rw [hstep]
      refine ⟨k, by omega, hack', hw, hb, ?_, ?_⟩
      · intro j hj hlt
        by_cases hjm : j = m
        · subst hjm
          refine ⟨data, hdata, fun x hx => hkept x ?_⟩
          rw [hstored]
          exact List.mem_append_right _ hx
        · exact haccepted j (by omega) hlt
      · intro x hx
        apply hkept
        rw [hstored]
        exact List.mem_append_left _ hx

theorem HealthyServer.flushes_blocked {size : ℤ} {queue : DurableQueue}
    (hblocked : Blocked parsers size queue) (k : ℕ) (s : σ) :
    (server.flushes size k queue s).1 = queue ∧
      server.stored (server.flushes size k queue s).2 = server.stored s := by
  induction k generalizing s with
  | zero => exact ⟨rfl, rfl⟩
  | succ k ih =>
    obtain ⟨hq, hs⟩ :=
      server.flushLoop_blocked hblocked (queue.waiting.length + 1) s {}
    unfold HealthyServer.flushes flush
    simp only
    rw [hq]
    obtain ⟨hq', hs'⟩ := ih (flushLoop server.receive size (queue.waiting.length + 1) queue s {}).server
    exact ⟨hq', hs'.trans hs⟩

theorem mem_of_bridgeBatchSerializer {events : List WireEvent} {data : List EventData}
    (h : bridgeBatchSerializer parsers events = some data) {event : WireEvent}
    (hevent : event ∈ events) : ∃ x ∈ data, bridgeEventSerializer parsers event = some x := by
  unfold bridgeBatchSerializer at h
  split at h
  · clear * - h hevent
    induction events generalizing data with
    | nil => simp at hevent
    | cons first events ih =>
      rw [List.mapM_cons, Option.bind_eq_bind, Option.bind_eq_some_iff] at h
      obtain ⟨x, hx, hrest⟩ := h
      rw [Option.bind_eq_bind, Option.bind_eq_some_iff] at hrest
      obtain ⟨rest, hmap, hdata⟩ := hrest
      simp only [Option.pure_def] at hdata
      cases hdata
      rcases List.mem_cons.mp hevent with rfl | hmem
      · exact ⟨x, List.mem_cons_self, hx⟩
      · obtain ⟨y, hy, hsome⟩ := ih hmem hmap
        exact ⟨y, List.mem_cons_of_mem _ hy, hsome⟩
  · cases h

theorem HealthyServer.delivered_iff (size : ℤ) (queue : DurableQueue) (s : σ) (i : ℕ)
    (row : QueueRow) (hrow : queue.waiting[i]? = some row) (data : EventData)
    (hdata : bridgeEventSerializer parsers row.payload = some data) :
    (∃ k, ∀ l, k ≤ l → server.Delivered row data (server.flushes size l queue s).1
      (server.flushes size l queue s).2) ↔
    batchLength size queue.waiting ≠ 0 ∧ ∀ j ≤ i / batchLength size queue.waiting,
      (bridgeBatchSerializer parsers (batchEvents size queue.waiting j)).isSome := by
  obtain ⟨hi, hget⟩ := List.getElem?_eq_some_iff.mp hrow
  have hmem : row ∈ queue.waiting := List.mem_of_getElem? hrow
  obtain ⟨k, -, hack, hwait, hblocked, haccepted, -⟩ :=
    server.flushLoop_healthy size queue (queue.waiting.length + 1) 0 queue s {}
      (Acknowledged.refl queue) (by simp) (Nat.lt_succ_self _)
  -- The row waits after the first flush exactly when it lies behind the acknowledged batches.
  have hleft : row ∉ queue.waiting.drop (k * batchLength size queue.waiting) ↔
      i < k * batchLength size queue.waiting := by
    rw [List.mem_drop_iff_getElem, not_exists]
    constructor
    · intro hnot
      by_contra hle
      apply hnot (i - k * batchLength size queue.waiting)
      refine ⟨by omega, ?_⟩
      rw [← hget]
      congr 1
      omega
    · intro hlt j hj
      obtain ⟨hj', hjget⟩ := hj
      have hsame := (queue.nodup_waiting.getElem_inj_iff).mp (hjget.trans hget.symm)
      omega
  have hfirst : ∀ l, (server.flushes size (l + 1) queue s).1 =
        (flush server.receive size queue s).queue ∧
      server.stored (server.flushes size (l + 1) queue s).2 =
        server.stored (flush server.receive size queue s).server := fun l =>
    server.flushes_blocked hblocked l (flush server.receive size queue s).server
  constructor
  · rintro ⟨l, hl⟩
    have hdelivered := (hl (l + 1) (Nat.le_succ l)).1
    rw [(hfirst l).1] at hdelivered
    have hlt := hleft.mp (hwait ▸ (hack.acknowledged_iff hmem).mp hdelivered)
    have hpos : 0 < batchLength size queue.waiting := by
      rcases Nat.eq_zero_or_pos (batchLength size queue.waiting) with h0 | hpos
      · rw [h0] at hlt
        omega
      · exact hpos
    refine ⟨by omega, ?_⟩
    intro j hj
    have hjk : i / batchLength size queue.waiting < k := (Nat.div_lt_iff_lt_mul hpos).mpr hlt
    obtain ⟨data', hsome, -⟩ := haccepted j (Nat.zero_le j) (by omega)
    rw [hsome]
    rfl
  · rintro ⟨hne, hpass⟩
    have hpos : 0 < batchLength size queue.waiting := Nat.pos_of_ne_zero hne
    -- Otherwise the batch at which the flush stopped would be one of those that pass.
    have hlt : i < k * batchLength size queue.waiting := by
      by_contra hle
      have hk : k ≤ i / batchLength size queue.waiting :=
        (Nat.le_div_iff_mul_le hpos).mpr (by omega)
      have hbatch : (flush server.receive size queue s).queue.nextBatch size =
          (queue.waiting.drop (k * batchLength size queue.waiting)).take
            (batchLength size queue.waiting) := by
        unfold DurableQueue.nextBatch flush
        rw [hwait, limit_drop]
      rcases hblocked with hempty | hrefused
      · have hlen := congrArg List.length (hbatch.symm.trans hempty)
        rw [List.length_take, List.length_drop, List.length_nil] at hlen
        omega
      · have hsome := hpass k hk
        have hnone : bridgeBatchSerializer parsers (batchEvents size queue.waiting k) = none := by
          unfold batchEvents
          rw [← hbatch]
          exact hrefused
        rw [hnone] at hsome
        cases hsome
    refine ⟨1, fun l hl => ?_⟩
    obtain ⟨l, rfl⟩ : ∃ m, l = m + 1 := ⟨l - 1, by omega⟩
    refine ⟨?_, ?_⟩
    · rw [(hfirst l).1]
      exact (hack.acknowledged_iff hmem).mpr (hwait ▸ hleft.mpr hlt)
    · rw [(hfirst l).2]
      have hj : i / batchLength size queue.waiting < k := (Nat.div_lt_iff_lt_mul hpos).mpr hlt
      obtain ⟨data', hsome, hkept⟩ := haccepted _ (Nat.zero_le _) hj
      have hin : row.payload ∈
          batchEvents size queue.waiting (i / batchLength size queue.waiting) := by
        unfold batchEvents
        apply List.mem_map_of_mem
        rw [List.mem_take_iff_getElem]
        refine ⟨i % batchLength size queue.waiting, ?_, ?_⟩
        · have hmod := Nat.mod_lt i hpos
          have hdm := Nat.div_add_mod' i (batchLength size queue.waiting)
          rw [List.length_drop]
          omega
        · rw [List.getElem_drop, ← hget]
          congr 1
          exact Nat.div_add_mod' i _
      obtain ⟨x, hx, hxdata⟩ := mem_of_bridgeBatchSerializer hsome hin
      rw [hdata, Option.some.injEq] at hxdata
      exact hkept data (hxdata ▸ hx)

/-- **Every waiting event that is valid on its own is delivered exactly when no batch up to the
one it falls in is refused.** -/
theorem flushes_deliver_iff (size : ℤ) (queue : DurableQueue) (s : σ) :
    (∀ row ∈ queue.waiting, ∀ data, bridgeEventSerializer parsers row.payload = some data →
      ∃ k, ∀ l, k ≤ l → server.Delivered row data (server.flushes size l queue s).1
        (server.flushes size l queue s).2) ↔
    ∀ (i : ℕ) (row : QueueRow), queue.waiting[i]? = some row →
      (bridgeEventSerializer parsers row.payload).isSome →
      batchLength size queue.waiting ≠ 0 ∧ ∀ j ≤ i / batchLength size queue.waiting,
        (bridgeBatchSerializer parsers (batchEvents size queue.waiting j)).isSome := by
  constructor
  · intro h i row hrow hvalid
    obtain ⟨data, hdata⟩ := Option.isSome_iff_exists.mp hvalid
    exact (server.delivered_iff size queue s i row hrow data hdata).mp
      (h row (List.mem_of_getElem? hrow) data hdata)
  · intro h row hrow data hdata
    obtain ⟨i, hi⟩ := List.getElem?_of_mem hrow
    exact (server.delivered_iff size queue s i row hi data hdata).mpr
      (h i row hi (by rw [hdata]; rfl))

end Healthy

/-- Parsers that know JSON integers and the texts of a table. -/
def tableParsers (table : List (Text × Instant)) : FieldParsers where
  integer
    | .int n => some n
    | _ => none
  dateTime t := (table.find? fun entry => entry.1 = t).map fun entry => entry.2
  integer_int _ := rfl
  integer_str := by
    intro v w m n hv hw hstr
    cases v <;> cases w <;> simp only [Option.some.injEq, reduceCtorEq] at hv hw
    subst hv hw
    exact intText_injective hstr
  integer_colon := by
    intro v n hv
    cases v <;> simp only [Option.some.injEq, reduceCtorEq] at hv
    subst hv
    exact colon_not_mem_intText _

def recordingServer (parsers : FieldParsers) : HealthyServer parsers (List EventData) where
  receive s events :=
    match bridgeBatchSerializer parsers events with
    | some data => (.answer (.object (some (.list
        ((events.map fun _ => "accepted".toList).map fun word => .object (some (.text word)))))),
        s ++ data)
    | none => (.refused, s)
  stored s := s
  outcome events := events.map fun _ => "accepted".toList
  admits s events data h := by simp [h]
  refuses s events h := by simp [h]

def scanTime : Text := "2026-08-19T07:01:00+03:00".toList

def scanOf (user : Text) : WireEvent where
  deviceId := some (.int 1)
  externalUserId := some (.text user)
  occurredAt := some (.text scanTime)

def queueBehindLongId : DurableQueue :=
  ((DurableQueue.empty.enqueue (scanOf (List.replicate 65 '7'))).2.enqueue (scanOf "1001".toList)).2

/-- One over-long event keeps the scan behind it from ever being delivered. -/
theorem queueBehindLongId_not_delivered :
    ¬ ∀ row ∈ queueBehindLongId.waiting, ∀ data,
      bridgeEventSerializer (tableParsers [(scanTime, 0)]) row.payload = some data →
      ∃ k, ∀ l, k ≤ l → (recordingServer (tableParsers [(scanTime, 0)])).Delivered row data
        ((recordingServer (tableParsers [(scanTime, 0)])).flushes 200 l queueBehindLongId []).1
        ((recordingServer (tableParsers [(scanTime, 0)])).flushes 200 l queueBehindLongId []).2 := by
  intro h
  have hrow : queueBehindLongId.waiting[1]? =
      some { id := 2, dedupeKey := (scanOf "1001".toList).queueKey, payload := scanOf "1001".toList } := by
    decide +kernel
  have hdata : bridgeEventSerializer (tableParsers [(scanTime, 0)]) (scanOf "1001".toList) =
      some ⟨1, [], "1001".toList, 0, .unknown, checkIn⟩ := by decide +kernel
  have hdelivered := h _ (List.mem_of_getElem? hrow) _ hdata
  have hpass := ((recordingServer (tableParsers [(scanTime, 0)])).delivered_iff 200
    queueBehindLongId [] 1 _ hrow _ hdata).mp hdelivered
  have hrefused : ¬ (bridgeBatchSerializer (tableParsers [(scanTime, 0)])
      (batchEvents 200 queueBehindLongId.waiting 0)).isSome := by decide +kernel
  exact hrefused (hpass.2 0 (Nat.zero_le _))

end SchoolPlatform
