import SchoolPlatform.Analysis.BridgeDelivery

/-!
# What an answer acknowledges

A flush acknowledges a whole batch as soon as the server has answered with an object, and then
counts the results it finds there. It does so rightly exactly when each answer has a terminal
result at the position of each event of its batch, and no result that the counters miss or count
twice: `accepted` is counted as `sent` and as `invalid` (`flush_confirmed_iff`).
-/

namespace SchoolPlatform

def terminalOutcomes : List Text :=
  ["accepted".toList, "duplicate".toList, "unmatched".toList, "invalid".toList]

def ResultEntry.Terminal (entry : ResultEntry) : Prop :=
  ∃ word ∈ terminalOutcomes, entry = .object (some (.text word))

def outcomeCounters : List Counter := [.sent, .duplicate, .invalid, .unmatched]

def ResultEntry.CountedOnce (entry : ResultEntry) : Prop :=
  ∃ c ∈ outcomeCounters, ∀ totals, countResult totals entry = some (totals.add 1 c)

def retryWord : JsonValue := .text Counter.retry.name

/-- An object whose outcome can be looked up and is neither `accepted` nor the name of the
counter of retries. -/
def ResultEntry.Plain : ResultEntry → Prop
  | .other => False
  | .object none => True
  | .object (some (.composite _)) => False
  | .object (some key) => key ≠ accepted ∧ key ≠ retryWord

def Totals.outcomes (totals : Totals) : ℕ :=
  totals.sent + totals.duplicate + totals.invalid + totals.unmatched

theorem Totals.outcomes_add (totals : Totals) (n : ℕ) {c : Counter} (hc : c ∈ outcomeCounters) :
    (totals.add n c).outcomes = totals.outcomes + n := by
  cases c <;> simp only [Totals.add, Totals.outcomes]
  case retry => simp [outcomeCounters] at hc
  all_goals omega

theorem Totals.outcomes_add_retry (totals : Totals) (n : ℕ) :
    (totals.add n .retry).outcomes = totals.outcomes := rfl

theorem counterOf_mem {key : JsonValue} (h : key ≠ retryWord) :
    counterOf key ∈ outcomeCounters := by
  unfold counterOf Counter.all
  simp only [List.find?_cons, List.find?_nil]
  repeat' split
  all_goals first | decide | skip
  rename_i hkey
  rw [decide_eq_true_eq] at hkey
  exact absurd hkey h

theorem ResultEntry.countedOnce_iff (entry : ResultEntry) : entry.CountedOnce ↔ entry.Plain := by
  have hkey : ∀ key : JsonValue, (∀ s, key ≠ .composite s) →
      ((∃ c ∈ outcomeCounters, ∀ totals : Totals,
        (if key = accepted then (totals.add 1 (counterOf key)).add 1 .sent
          else totals.add 1 (counterOf key)) = totals.add 1 c) ↔
        key ≠ accepted ∧ key ≠ retryWord) := by
    intro key _
    constructor
    · rintro ⟨c, hc, hadd⟩
      have hzero := hadd {}
      constructor
      · rintro rfl
        rw [if_pos rfl] at hzero
        cases c <;> exact absurd hzero (by decide)
      · rintro rfl
        rw [if_neg (by decide)] at hzero
        cases c
        case retry => exact absurd hc (by decide)
        all_goals exact absurd hzero (by decide)
    · rintro ⟨hacc, hretry⟩
      refine ⟨counterOf key, counterOf_mem hretry, fun totals => ?_⟩
      rw [if_neg hacc]
  cases entry with
  | other =>
    refine iff_of_false ?_ (fun h => h)
    rintro ⟨c, -, hc⟩
    cases hc {}
  | object result =>
    cases result with
    | none =>
      refine iff_of_true ⟨.invalid, by decide, fun totals => ?_⟩ trivial
      unfold countResult
      rfl
    | some key =>
      by_cases hcomp : ∃ s, key = .composite s
      · obtain ⟨s, rfl⟩ := hcomp
        refine iff_of_false ?_ (fun h => h)
        rintro ⟨c, -, hc⟩
        cases hc {}
      · have hplain : ResultEntry.Plain (.object (some key)) ↔
            key ≠ accepted ∧ key ≠ retryWord := by
          cases key <;> first | exact Iff.rfl | exact absurd ⟨_, rfl⟩ hcomp
        have hcount : ∀ totals, countResult totals (.object (some key)) =
            some (if key = accepted then (totals.add 1 (counterOf key)).add 1 .sent
              else totals.add 1 (counterOf key)) := by
          intro totals
          cases key <;> first | rfl | exact absurd ⟨_, rfl⟩ hcomp
        rw [hplain, ← hkey key fun s hs => hcomp ⟨s, hs⟩]
        unfold ResultEntry.CountedOnce
        simp only [hcount, Option.some.injEq]

theorem countEntries_plain (entries : List ResultEntry) (h : ∀ entry ∈ entries, entry.Plain)
    (totals : Totals) : ∃ totals', entries.foldlM countResult totals = some totals' ∧
      totals'.outcomes = totals.outcomes + entries.length := by
  induction entries generalizing totals with
  | nil => exact ⟨totals, rfl, rfl⟩
  | cons entry entries ih =>
    obtain ⟨c, hc, hcount⟩ :=
      (ResultEntry.countedOnce_iff entry).mpr (h entry List.mem_cons_self)
    obtain ⟨totals', hfold, hsum⟩ :=
      ih (fun e he => h e (List.mem_cons_of_mem _ he)) (totals.add 1 c)
    refine ⟨totals', ?_, ?_⟩
    · rw [List.foldlM_cons, hcount totals]
      exact hfold
    · rw [hsum, Totals.outcomes_add _ _ hc, List.length_cons]
      omega

/-- A batch and the well-formed answer it got. -/
structure Exchange where
  batch : List QueueRow
  answer : Answer

def Answer.entries : Answer → List ResultEntry
  | .object (some (.list entries)) => entries
  | _ => []

def exchangeOf (batch : List QueueRow) : TransportResult → List Exchange
  | .answer body => [⟨batch, body⟩]
  | _ => []

variable {σ : Type}

/-- The exchanges of the loop of `flush`, in order. -/
def exchangesLoop (transport : Transport σ) (batchSize : ℤ) :
    ℕ → DurableQueue → σ → Totals → List Exchange
  | 0, _, _, _ => []
  | turns + 1, queue, server, totals =>
    match queue.nextBatch batchSize with
    | [] => []
    | row :: rows =>
      let reply := post transport maxAttempts server ((row :: rows).map fun r => r.payload)
      match flushTurn (row :: rows) reply queue totals with
      | .stop _ => exchangeOf (row :: rows) reply.1
      | .next queue server totals => exchangeOf (row :: rows) reply.1 ++
          exchangesLoop transport batchSize turns queue server totals

def exchanges (transport : Transport σ) (batchSize : ℤ) (queue : DurableQueue) (server : σ) :
    List Exchange :=
  exchangesLoop transport batchSize (queue.waiting.length + 1) queue server {}

/-- A flush that began with the totals `start` has acknowledged only events with a terminal
result of their own, and has counted every result in one counter. -/
structure FlushConfirmed (start : Totals) (before : DurableQueue) (flushed : Flushed σ)
    (exchanges : List Exchange) : Prop where
  acknowledged : ∀ row ∈ before.waiting,
    (∃ r ∈ flushed.queue.rows, r.id = row.id ∧ r.state = .acknowledged) →
      ∃ e ∈ exchanges, ∃ (i : ℕ) (entry : ResultEntry), e.batch[i]? = some row ∧
        e.answer.entries[i]? = some entry ∧ entry.Terminal
  counted : ∀ e ∈ exchanges, ∀ entry ∈ e.answer.entries, entry.CountedOnce
  totals : ∀ totals, flushed.totals = some totals →
    totals.outcomes = start.outcomes + (exchanges.map fun e => e.answer.entries.length).sum

/-- The answer is no object, and the flush ends without acknowledging the batch; or it has a
terminal result for each event of the batch and plain results only. -/
def Exchange.Confirms (e : Exchange) : Prop :=
  e.answer = .other ∨
    ((∀ i < e.batch.length, ∃ entry, e.answer.entries[i]? = some entry ∧ entry.Terminal) ∧
      ∀ entry ∈ e.answer.entries, entry.Plain)

theorem limit_sublist {α : Type} (size : ℤ) (rows : List α) : (limit size rows).Sublist rows := by
  unfold limit
  split
  · exact List.Sublist.refl _
  · exact List.take_sublist _ _

theorem DurableQueue.nextBatch_sublist (queue : DurableQueue) (size : ℤ) :
    (queue.nextBatch size).Sublist queue.waiting := limit_sublist size queue.waiting

theorem DurableQueue.not_acknowledged_of_waiting {queue : DurableQueue} {row r : QueueRow}
    (hrow : row ∈ queue.waiting) (hr : r ∈ queue.rows) (hid : r.id = row.id) :
    r.state ≠ .acknowledged := by
  obtain ⟨hmem, hstate⟩ := DurableQueue.mem_waiting.mp hrow
  rw [queue.row_eq_of_id_eq hr hmem hid]
  intro hack
  rw [hack] at hstate
  cases hstate

theorem DurableQueue.state_mark_failedRetryable {queue : DurableQueue} {ids : List ℕ}
    {r : QueueRow} (hr : r ∈ (queue.mark ids .failedRetryable).rows)
    (hack : r.state = .acknowledged) : r ∈ queue.rows := by
  have hr' : r ∈ queue.rows.map fun row => row.marked ids .failedRetryable := hr
  rw [List.mem_map] at hr'
  obtain ⟨old, hold, rfl⟩ := hr'
  by_cases hid : old.id ∈ ids
  · simp [QueueRow.marked, hid] at hack
  · simpa [QueueRow.marked, hid] using hold

theorem flushLoop_frame (transport : Transport σ) (size : ℤ) (turns : ℕ) (queue : DurableQueue)
    (server : σ) (totals : Totals) :
    (∀ r ∈ queue.rows, r.state = .acknowledged →
      r ∈ (flushLoop transport size turns queue server totals).queue.rows) ∧
    ∀ e ∈ exchangesLoop transport size turns queue server totals, ∀ row ∈ e.batch,
      row ∈ queue.waiting := by
  induction turns generalizing queue server totals with
  | zero => exact ⟨fun r hr _ => hr, fun e he => by simp [exchangesLoop] at he⟩
  | succ turns ih =>
    unfold flushLoop exchangesLoop
    rcases hbatch : queue.nextBatch size with _ | ⟨row, rows⟩
    · exact ⟨fun r hr _ => hr, fun e he => by simp at he⟩
    · have hsub : ∀ x ∈ row :: rows, x ∈ queue.waiting := by
        rw [← hbatch]
        exact fun x hx => (queue.nextBatch_sublist size).subset hx
      -- Marking the batch leaves the acknowledged rows alone.
      have hmark : ∀ state, ∀ r ∈ queue.rows, r.state = .acknowledged →
          r ∈ (queue.mark ((row :: rows).map fun r => r.id) state).rows := by
        intro state r hr hack
        have hnot : r.id ∉ (row :: rows).map fun r => r.id := by
          intro hmem
          rw [List.mem_map] at hmem
          obtain ⟨x, hx, hid⟩ := hmem
          exact DurableQueue.not_acknowledged_of_waiting (hsub x hx) hr hid.symm hack
        show r ∈ queue.rows.map fun x => x.marked ((row :: rows).map fun r => r.id) state
        rw [List.mem_map]
        exact ⟨r, hr, by rw [QueueRow.marked, if_neg hnot]⟩
      have hhere : ∀ body, ∀ e ∈ exchangeOf (row :: rows) (.answer body), ∀ x ∈ e.batch,
          x ∈ queue.waiting := by
        intro body e he x hx
        rw [exchangeOf, List.mem_singleton] at he
        subst he
        exact hsub x hx
      simp only
      generalize post transport maxAttempts server ((row :: rows).map fun r => r.payload) = reply
      obtain ⟨result, server'⟩ := reply
      cases result with
      | failed => exact ⟨hmark _, fun e he => by simp [exchangeOf, flushTurn] at he⟩
      | refused => exact ⟨fun r hr _ => hr, fun e he => by simp [exchangeOf, flushTurn] at he⟩
      | answer body =>
        cases body with
        | other => exact ⟨fun r hr _ => hr, hhere _⟩
        | object results =>
          simp only [flushTurn]
          cases hcount : countResults totals (results.getD (.list [])) with
          | none => exact ⟨hmark _, hhere _⟩
          | some totals' =>
            obtain ⟨hkeep, hlater⟩ := ih (queue.mark ((row :: rows).map fun r => r.id)
              .acknowledged) server' totals'
            refine ⟨fun r hr hack => hkeep r (hmark _ r hr hack) hack, ?_⟩
            intro e he x hx
            rcases List.mem_append.mp he with he | he
            · exact hhere _ e he x hx
            · have hwait := hlater e he x hx
              rw [DurableQueue.waiting_mark_acknowledged] at hwait
              exact List.mem_of_mem_filter hwait

theorem FlushConfirmed.of_no_exchange {start : Totals} {before : DurableQueue}
    {flushed : Flushed σ}
    (hrows : ∀ r ∈ flushed.queue.rows, r.state = .acknowledged → r ∈ before.rows)
    (htotals : ∀ totals, flushed.totals = some totals → totals.outcomes = start.outcomes) :
    FlushConfirmed start before flushed [] := by
  refine ⟨?_, by simp, by simpa using htotals⟩
  rintro row hrow ⟨r, hr, hid, hack⟩
  exact absurd hack (DurableQueue.not_acknowledged_of_waiting hrow (hrows r hr hack) hid)

theorem outcomes_of_countResults {results : Option ResultsField} {totals totals' : Totals}
    (hcount : countResults totals (results.getD (.list [])) = some totals')
    (hplain : ∀ entry ∈ (Answer.object results).entries, entry.Plain) :
    totals'.outcomes = totals.outcomes + (Answer.object results).entries.length := by
  have hlist : ∀ entries : List ResultEntry, (∀ entry ∈ entries, entry.Plain) →
      countResults totals (.list entries) = some totals' →
        totals'.outcomes = totals.outcomes + entries.length := by
    intro entries hall hsome
    obtain ⟨t, ht, hsum⟩ := countEntries_plain entries hall totals
    have heq : t = totals' := Option.some.inj (ht.symm.trans hsome)
    rw [← heq, hsum]
  rcases results with _ | field
  · exact hlist [] (by simp) hcount
  · cases field with
    | list entries => exact hlist entries hplain hcount
    | emptyIterable =>
      have heq : totals = totals' := Option.some.inj hcount
      rw [heq]
      rfl
    | other => cases hcount

theorem not_confirms_of_raise {batch : List QueueRow} (hne : batch ≠ [])
    {results : Option ResultsField} {totals : Totals}
    (hcount : countResults totals (results.getD (.list [])) = none) :
    ¬ Exchange.Confirms ⟨batch, .object results⟩ := by
  rintro (hother | ⟨hterminal, hplain⟩)
  · cases hother
  · rcases results with _ | field
    · cases hcount
    · cases field with
      | list entries =>
        obtain ⟨t, ht, -⟩ := countEntries_plain entries hplain totals
        exact absurd (ht.symm.trans hcount) (by simp)
      | emptyIterable => cases hcount
      | other =>
        obtain ⟨entry, hentry, -⟩ := hterminal 0 (List.length_pos_of_ne_nil hne)
        simp [Answer.entries] at hentry

theorem FlushConfirmed.first_confirms {start : Totals} {queue : DurableQueue}
    {flushed : Flushed σ} {batch : List QueueRow} {results : Option ResultsField}
    {rest : List Exchange}
    (h : FlushConfirmed start queue flushed (⟨batch, .object results⟩ :: rest))
    (hsub : batch.Sublist queue.waiting)
    (hack : ∀ row ∈ batch, ∃ r ∈ flushed.queue.rows, r.id = row.id ∧ r.state = .acknowledged)
    (hrest : ∀ e ∈ rest, ∀ row ∈ e.batch, row ∉ batch) :
    Exchange.Confirms ⟨batch, .object results⟩ := by
  refine .inr ⟨fun i hi => ?_, fun entry hentry => ?_⟩
  · have hmem : batch[i] ∈ batch := List.getElem_mem hi
    obtain ⟨e, he, j, entry, hrow, hentry, hterminal⟩ :=
      h.acknowledged _ (hsub.subset hmem) (hack _ hmem)
    rcases List.mem_cons.mp he with rfl | he
    · have hij : j = i := by
        obtain ⟨hj, hget⟩ := List.getElem?_eq_some_iff.mp hrow
        exact ((queue.nodup_waiting.sublist hsub).getElem_inj_iff).mp hget
      exact ⟨entry, hij ▸ hentry, hterminal⟩
    · exact absurd hmem (hrest e he _ (List.mem_of_getElem? hrow))
  · exact (ResultEntry.countedOnce_iff entry).mp (h.counted _ List.mem_cons_self entry hentry)

theorem DurableQueue.mem_waiting_mark {queue : DurableQueue} {batch : List QueueRow}
    (hsub : batch.Sublist queue.waiting) (x : QueueRow) :
    x ∈ (queue.mark (batch.map fun r => r.id) .acknowledged).waiting ↔
      x ∈ queue.waiting ∧ x ∉ batch := by
  rw [DurableQueue.waiting_mark_acknowledged, List.mem_filter, decide_eq_true_eq]
  constructor
  · exact fun hx => ⟨hx.1, fun hmem => hx.2 (List.mem_map_of_mem hmem)⟩
  · rintro ⟨hx, hnot⟩
    refine ⟨hx, fun hid => ?_⟩
    rw [List.mem_map] at hid
    obtain ⟨y, hy, hyid⟩ := hid
    have hsame := queue.row_eq_of_id_eq (DurableQueue.mem_waiting.mp (hsub.subset hy)).1
      (DurableQueue.mem_waiting.mp hx).1 hyid
    exact hnot (hsame ▸ hy)

theorem FlushConfirmed.cons_iff {totals totals' : Totals} {queue : DurableQueue}
    {flushed : Flushed σ} {batch : List QueueRow} {results : Option ResultsField}
    {rest : List Exchange} (hsub : batch.Sublist queue.waiting)
    (hcount : countResults totals (results.getD (.list [])) = some totals')
    (hack : ∀ row ∈ batch, ∃ r ∈ flushed.queue.rows, r.id = row.id ∧ r.state = .acknowledged)
    (hrest : ∀ e ∈ rest, ∀ row ∈ e.batch, row ∉ batch) :
    FlushConfirmed totals queue flushed (⟨batch, .object results⟩ :: rest) ↔
      Exchange.Confirms ⟨batch, .object results⟩ ∧
        FlushConfirmed totals' (queue.mark (batch.map fun r => r.id) .acknowledged) flushed rest := by
  constructor
  · intro h
    have hfirst := h.first_confirms hsub hack hrest
    have hplain := (hfirst.resolve_left (by simp)).2
    have hout := outcomes_of_countResults hcount hplain
    refine ⟨hfirst, ?_, fun e he => h.counted e (List.mem_cons_of_mem _ he), ?_⟩
    · intro x hx hacked
      obtain ⟨hxw, hxb⟩ := (DurableQueue.mem_waiting_mark hsub x).mp hx
      obtain ⟨e, he, i, entry, hrow, hentry⟩ := h.acknowledged x hxw hacked
      rcases List.mem_cons.mp he with rfl | he
      · exact absurd (List.mem_of_getElem? hrow) hxb
      · exact ⟨e, he, i, entry, hrow, hentry⟩
    · intro t ht
      have hsum := h.totals t ht
      rw [List.map_cons, List.sum_cons] at hsum
      dsimp only at hsum
      omega
  · rintro ⟨hfirst, htail⟩
    obtain ⟨hterminal, hplain⟩ := hfirst.resolve_left (by simp)
    have hout := outcomes_of_countResults hcount hplain
    refine ⟨?_, ?_, ?_⟩
    · intro x hx hacked
      by_cases hxb : x ∈ batch
      · obtain ⟨i, hi, hget⟩ := List.getElem_of_mem hxb
        obtain ⟨entry, hentry, hterm⟩ := hterminal i hi
        exact ⟨_, List.mem_cons_self, i, entry,
          List.getElem?_eq_some_iff.mpr ⟨hi, hget⟩, hentry, hterm⟩
      · obtain ⟨e, he, hrow⟩ := htail.acknowledged x
          ((DurableQueue.mem_waiting_mark hsub x).mpr ⟨hx, hxb⟩) hacked
        exact ⟨e, List.mem_cons_of_mem _ he, hrow⟩
    · rw [List.forall_mem_cons]
      exact ⟨fun entry hentry => (ResultEntry.countedOnce_iff entry).mpr (hplain entry hentry),
        htail.counted⟩
    · intro t ht
      have hsum := htail.totals t ht
      rw [List.map_cons, List.sum_cons]
      dsimp only
      omega

theorem flushLoop_confirmed_iff (transport : Transport σ) (size : ℤ) (turns : ℕ)
    (queue : DurableQueue) (server : σ) (totals : Totals) :
    FlushConfirmed totals queue (flushLoop transport size turns queue server totals)
      (exchangesLoop transport size turns queue server totals) ↔
    ∀ e ∈ exchangesLoop transport size turns queue server totals, e.Confirms := by
  induction turns generalizing queue server totals with
  | zero =>
    refine iff_of_true (.of_no_exchange (fun r hr _ => hr) ?_) (by simp [exchangesLoop])
    rintro t ⟨⟩
    rfl
  | succ turns ih =>
    unfold flushLoop exchangesLoop
    rcases hbatch : queue.nextBatch size with _ | ⟨row, rows⟩
    · refine iff_of_true (.of_no_exchange (fun r hr _ => hr) ?_) (by simp)
      rintro t ⟨⟩
      rfl
    · have hsub : (row :: rows).Sublist queue.waiting := hbatch ▸ queue.nextBatch_sublist size
      have hne : row :: rows ≠ [] := by simp
      simp only
      generalize row :: rows = batch at hsub hne ⊢
      generalize post transport maxAttempts server (batch.map fun r => r.payload) = reply
      obtain ⟨result, server'⟩ := reply
      cases result with
      | failed =>
        refine iff_of_true (.of_no_exchange ?_ ?_) (by simp [exchangeOf, flushTurn])
        · exact fun r hr hack => DurableQueue.state_mark_failedRetryable hr hack
        · rintro t ⟨⟩
          exact Totals.outcomes_add_retry _ _
      | refused =>
        refine iff_of_true (.of_no_exchange (fun r hr _ => hr) ?_) (by simp [exchangeOf, flushTurn])
        rintro t ⟨⟩
        exact Totals.outcomes_add_retry _ _
      | answer body =>
        cases body with
        | other =>
          -- The flush ends with an exception, before anything is acknowledged.
          refine iff_of_true ⟨?_, ?_, by rintro t ⟨⟩⟩ ?_
          · rintro x hx ⟨r, hr, hid, hack⟩
            exact absurd hack (DurableQueue.not_acknowledged_of_waiting hx hr hid)
          · simp [exchangeOf, flushTurn, Answer.entries]
          · simp [exchangeOf, flushTurn, Exchange.Confirms]
        | object results =>
          have hmarked : ∀ x ∈ batch, ∃ r ∈ (queue.mark (batch.map fun r => r.id)
              .acknowledged).rows, r.id = x.id ∧ r.state = .acknowledged := by
            intro x hx
            have hmem := (DurableQueue.mem_waiting.mp (hsub.subset hx)).1
            have hid : x.id ∈ batch.map fun r => r.id := List.mem_map_of_mem hx
            exact ⟨_, List.mem_map_of_mem hmem, QueueRow.marked_id _ _ _,
              by rw [QueueRow.marked, if_pos hid]⟩
          simp only [flushTurn, exchangeOf]
          cases hcount : countResults totals (results.getD (.list [])) with
          | none =>
            have hno := not_confirms_of_raise hne hcount
            refine iff_of_false ?_ (by simpa using hno)
            exact fun h => hno (h.first_confirms hsub hmarked (by simp))
          | some totals' =>
            simp only [List.singleton_append]
            obtain ⟨hkeep, hlater⟩ := flushLoop_frame transport size turns
              (queue.mark (batch.map fun r => r.id) .acknowledged) server' totals'
            rw [FlushConfirmed.cons_iff hsub hcount, ih, List.forall_mem_cons]
            · intro x hx
              obtain ⟨r, hr, hid, hack⟩ := hmarked x hx
              exact ⟨r, hkeep r hr hack, hid, hack⟩
            · intro e he x hx hmem
              exact ((DurableQueue.mem_waiting_mark hsub x).mp (hlater e he x hx)).2 hmem

/-- **A flush acknowledges only what was answered for and counts every result once, exactly when
each answer has a terminal result for every event of its batch and plain results only.** -/
theorem flush_confirmed_iff (transport : Transport σ) (size : ℤ) (queue : DurableQueue)
    (server : σ) :
    FlushConfirmed {} queue (flush transport size queue server)
      (exchanges transport size queue server) ↔
    ∀ e ∈ exchanges transport size queue server, e.Confirms :=
  flushLoop_confirmed_iff transport size _ queue server {}

def accepting : Transport Unit :=
  fun server _ => (.answer (.object (some (.list [.object (some accepted)]))), server)

def queueOfOne : DurableQueue := (DurableQueue.empty.enqueue (scanOf "1001".toList)).2

/-- One accepted event makes two counts: one in `sent` and one in `invalid`. -/
theorem accepting_not_confirmed :
    ¬ FlushConfirmed {} queueOfOne (flush accepting 200 queueOfOne ())
      (exchanges accepting 200 queueOfOne ()) := by
  intro h
  have htotals : (flush accepting 200 queueOfOne ()).totals = some ⟨1, 0, 1, 0, 0⟩ := by
    decide +kernel
  have hentries : (exchanges accepting 200 queueOfOne ()).map (fun e => e.answer.entries.length) =
      [1] := by decide +kernel
  have hsum := h.totals _ htotals
  rw [hentries] at hsum
  exact absurd hsum (by decide)

end SchoolPlatform
