import SchoolPlatform.Analysis.BridgeDelivery
import SchoolPlatform.Analysis.ReprocessSteps

/-!
# Scans and crashes

A call of `ingest_batch` or `reprocess_unmatched` commits in steps, and may stop between two of
them; its caller repeats it until it answers (`ArrivalCall.retried`). The status of an event is
committed before its arrival, and a repeated call does not look at such an event again. So a scan
is lost when a stop falls between the two commits and nothing else stands for the scan
(`ArrivalCall.Harmless`), and only then.
-/

/-! ## The two keys of an event -/

namespace SchoolPlatform

theorem append_separator_inj {a b x y : Text} {c : Char} (ha : c ∉ a) (hb : c ∉ b)
    (h : a ++ c :: x = b ++ c :: y) : a = b ∧ x = y := by
  induction a generalizing b with
  | nil =>
    cases b with
    | nil => exact ⟨rfl, (List.cons.inj h).2⟩
    | cons d b => exact absurd ((List.cons.inj h).1 ▸ List.mem_cons_self) hb
  | cons d a ih =>
    cases b with
    | nil => exact absurd ((List.cons.inj h).1 ▸ List.mem_cons_self) ha
    | cons e b =>
      obtain ⟨hde, htail⟩ := List.cons.inj h
      obtain ⟨hab, hxy⟩ := ih (List.not_mem_of_not_mem_cons ha) (List.not_mem_of_not_mem_cons hb)
        htail
      exact ⟨by rw [hde, hab], hxy⟩

theorem length_le_of_fields {t x t' x' : Text} {s s' : Text} {c : Char} (ht : c ∉ t)
    (hlong : s'.length ≤ t.length) (h : s ++ c :: (t ++ x) = s' ++ c :: (t' ++ x')) :
    s'.length ≤ s.length := by
  by_contra hlt
  -- Otherwise the separator behind `s'` falls into `t`.
  have hat := congrArg (fun l : Text => l[s'.length]?) h
  simp only [List.getElem?_append_right (le_refl _), Nat.sub_self, List.getElem?_cons_zero] at hat
  obtain ⟨j, hj⟩ : ∃ j, s'.length = s.length + 1 + j := ⟨s'.length - s.length - 1, by omega⟩
  have hjt : j < t.length := by omega
  rw [List.getElem?_append_right (by omega), hj, Nat.add_assoc, Nat.add_sub_cancel_left,
    Nat.add_comm 1 j, List.getElem?_cons_succ, List.getElem?_append_left hjt] at hat
  exact ht (List.mem_of_getElem? hat)

theorem fields_inj {u u' t t' y y' : Text} {c : Char} (ht : c ∉ t) (ht' : c ∉ t')
    (hy : y.length ≤ t'.length) (hy' : y'.length ≤ t.length)
    (h : List.intercalate [c] [u, t, y] = List.intercalate [c] [u', t', y']) :
    u = u' ∧ t = t' ∧ y = y' := by
  -- Read from the right, the fields come in the other order.
  have hrev : ∀ u t y : Text, (List.intercalate [c] [u, t, y]).reverse =
      y.reverse ++ c :: (t.reverse ++ c :: u.reverse) := by
    intro u t y
    simp [List.intercalate, List.intersperse]
  have hr := congrArg List.reverse h
  rw [hrev, hrev] at hr
  have hle : y'.reverse.length ≤ y.reverse.length :=
    length_le_of_fields (by simpa using ht) (by simpa using hy') hr
  have hge : y.reverse.length ≤ y'.reverse.length :=
    length_le_of_fields (by simpa using ht') (by simpa using hy) hr.symm
  obtain ⟨hlast, hrest⟩ := List.append_inj hr (le_antisymm hge hle)
  obtain ⟨hmiddle, hfirst⟩ := append_separator_inj (by simpa using ht) (by simpa using ht')
    (List.cons.inj hrest).2
  exact ⟨List.reverse_inj.mp hfirst, List.reverse_inj.mp hmiddle, List.reverse_inj.mp hlast⟩

theorem fingerprintPayload_inj (clock : DateTimeStr) {e f : EventData}
    (he : e.eventType.length ≤ 20) (hf : f.eventType.length ≤ 20)
    (h : fingerprintPayload clock e = fingerprintPayload clock f) :
    e.externalUserId = f.externalUserId ∧ e.occurredAt = f.occurredAt ∧
      e.eventType = f.eventType := by
  have hlong := clock.length_le
  have hbar := clock.bar_not_mem
  obtain ⟨huser, hinstant, htype⟩ := fields_inj (hbar e.occurredAt) (hbar f.occurredAt)
    (he.trans (le_trans (by decide) (hlong f.occurredAt)))
    (hf.trans (le_trans (by decide) (hlong e.occurredAt))) h
  exact ⟨huser, clock.injective hinstant, htype⟩

structure EventData.Admitted (e : EventData) : Prop where
  externalEventId : Text.Stripped e.externalEventId ∧ e.externalEventId.length ≤ 100
  externalUserId : Text.Stripped e.externalUserId ∧ e.externalUserId ≠ [] ∧
    e.externalUserId.length ≤ 64
  eventType : e.eventType.length ≤ 20

theorem charField_eq_some {maxLength : ℕ} {allowBlank : Bool} {v : JsonValue} {t : Text}
    (h : charField maxLength allowBlank v = some t) :
    t = Text.strip v.str ∧ t.length ≤ maxLength ∧ (t = [] → allowBlank = true) := by
  unfold charField at h
  split at h
  · rename_i hblank
    split at h
    · rename_i hallow
      cases h
      exact ⟨hblank.symm, Nat.zero_le _, fun _ => hallow⟩
    · cases h
  · rename_i hne
    have hfit : ∀ u : Text, (if u.length ≤ maxLength ∧ Char.ofNat 0 ∉ u then some u else none) =
        some t → t = u ∧ t.length ≤ maxLength := by
      intro u hu
      split at hu
      · rename_i hlen
        cases hu
        exact ⟨rfl, hlen.1⟩
      · cases hu
    cases v with
    | null => cases h
    | bool b => cases h
    | composite s => cases h
    | int n =>
      obtain ⟨rfl, hlen⟩ := hfit _ h
      exact ⟨rfl, hlen, fun h0 => absurd h0 hne⟩
    | float s =>
      obtain ⟨rfl, hlen⟩ := hfit _ h
      exact ⟨rfl, hlen, fun h0 => absurd h0 hne⟩
    | text s =>
      obtain ⟨rfl, hlen⟩ := hfit _ h
      exact ⟨rfl, hlen, fun h0 => absurd h0 hne⟩

theorem bridgeEventSerializer_eq_some {parsers : FieldParsers} {event : WireEvent}
    {data : EventData} (h : bridgeEventSerializer parsers event = some data) :
    (∃ v, event.deviceId = some v ∧ parsers.integer v = some data.deviceId) ∧
    defaultField [] (charField 100 true) event.externalEventId = some data.externalEventId ∧
    (∃ v, event.externalUserId = some v ∧ charField 64 false v = some data.externalUserId) ∧
    defaultField checkIn (charField 20 false) event.eventType = some data.eventType := by
  unfold bridgeEventSerializer at h
  simp only [Option.bind_eq_bind, Option.pure_def, Option.bind_eq_some_iff] at h
  obtain ⟨device, hdevice, extId, hext, user, huser, occurred, -, method, -, type, htype, hdata⟩ := h
  cases hdata
  exact ⟨Option.bind_eq_some_iff.mp hdevice, hext, Option.bind_eq_some_iff.mp huser, htype⟩

theorem bridgeEventSerializer_admitted {parsers : FieldParsers} {event : WireEvent}
    {data : EventData} (h : bridgeEventSerializer parsers event = some data) : data.Admitted := by
  obtain ⟨-, hext, ⟨user, -, huser⟩, htype⟩ := bridgeEventSerializer_eq_some h
  refine ⟨?_, ?_, ?_⟩
  · cases hid : event.externalEventId with
    | none =>
      rw [hid] at hext
      rw [← Option.some.inj hext]
      exact ⟨rfl, Nat.zero_le _⟩
    | some v =>
      rw [hid] at hext
      obtain ⟨heq, hlen, -⟩ := charField_eq_some hext
      exact ⟨by rw [heq]; exact Text.strip_strip _, hlen⟩
  · obtain ⟨heq, hlen, hblank⟩ := charField_eq_some huser
    exact ⟨by rw [heq]; exact Text.strip_strip _, fun h0 => absurd (hblank h0) (by simp), hlen⟩
  · cases hid : event.eventType with
    | none =>
      rw [hid] at htype
      rw [← Option.some.inj htype]
      decide
    | some v =>
      rw [hid] at htype
      exact (charField_eq_some htype).2.1

/-- The two events have the same identifier, or both have none and agree in user, instant and
type. -/
def EventData.SameScan (e f : EventData) : Prop :=
  e.externalEventId = f.externalEventId ∧
    (e.externalEventId ≠ [] ∨ (e.externalUserId = f.externalUserId ∧
      e.occurredAt = f.occurredAt ∧ e.eventType = f.eventType))

/-- **The key of the server is injective** on the events the serializer admits. -/
theorem dedupeKey_eq_iff (clock : DateTimeStr) {e f : EventData} (he : e.Admitted)
    (hf : f.Admitted) : dedupeKey clock e = dedupeKey clock f ↔ e.SameScan f := by
  have hstrip : ∀ d : EventData, d.Admitted → Text.strip d.externalEventId = d.externalEventId :=
    fun d hd => hd.externalEventId.1
  have htake : ∀ d : EventData, d.Admitted → d.externalEventId.take 124 = d.externalEventId := by
    intro d hd
    have hlen := hd.externalEventId.2
    exact List.take_of_length_le (by omega)
  unfold dedupeKey EventData.SameScan
  simp only [hstrip e he, hstrip f hf, htake e he, htake f hf]
  by_cases hee : e.externalEventId = []
  · by_cases hfe : f.externalEventId = []
    · simp only [hee, hfe, ne_eq, not_true_eq_false, if_false, DedupeKey.fp.injEq,
        Digest.mk.injEq, true_and, false_or]
      constructor
      · exact fun h => fingerprintPayload_inj clock he.eventType hf.eventType h
      · rintro ⟨huser, hocc, htype⟩
        unfold fingerprintPayload
        rw [huser, hocc, htype]
    · simp [hee, hfe, Ne.symm hfe]
  · by_cases hfe : f.externalEventId = []
    · simp [hee, hfe]
    · simp [hee, hfe]

def serverKey (parsers : FieldParsers) (clock : DateTimeStr) (event : WireEvent) :
    Option (ℤ × DedupeKey) :=
  (bridgeEventSerializer parsers event).map fun data => (data.deviceId, dedupeKey clock data)

/-- The event that waits in the queue stands for the other one: whatever key the other one gets
on its device, this one gets there too. -/
def StandsFor (parsers : FieldParsers) (clock : DateTimeStr) (queued event : WireEvent) : Prop :=
  ∀ key, serverKey parsers clock event = some key → serverKey parsers clock queued = some key

/-- Whatever `enqueue` discards is stood for by a row with its key. -/
def DiscardsRightly (parsers : FieldParsers) (clock : DateTimeStr) (queue : DurableQueue)
    (event : WireEvent) : Prop :=
  (queue.enqueue event).1 = false →
    ∃ row ∈ queue.rows, row.dedupeKey = event.queueKey ∧ StandsFor parsers clock row.payload event

def BothIdentified (e f : WireEvent) : Prop :=
  ∃ v w, e.givenId = some v ∧ f.givenId = some w ∧ Text.strip v.str ≠ []

/-- What the server can tell two events apart by. -/
def ToldAlike (parsers : FieldParsers) (queued event : WireEvent) : Prop :=
  ∀ e, bridgeEventSerializer parsers event = some e →
    ∃ q, bridgeEventSerializer parsers queued = some q ∧
      (BothIdentified queued event ∨ q.SameScan e)

theorem queueKey_eq {parsers : FieldParsers} {e f : WireEvent} {d g : EventData}
    (he : bridgeEventSerializer parsers e = some d) (hf : bridgeEventSerializer parsers f = some g)
    (h : e.queueKey = f.queueKey) : d.deviceId = g.deviceId ∧ e.localKey = f.localKey := by
  obtain ⟨⟨v, hv, hvint⟩, -⟩ := bridgeEventSerializer_eq_some he
  obtain ⟨⟨w, hw, hwint⟩, -⟩ := bridgeEventSerializer_eq_some hf
  unfold WireEvent.queueKey at h
  rw [hv, hw, Option.getD_some, Option.getD_some, List.append_assoc, List.append_assoc] at h
  obtain ⟨hstr, hrest⟩ := append_separator_inj (parsers.integer_colon v _ hvint)
    (parsers.integer_colon w _ hwint) h
  exact ⟨parsers.integer_str v w _ _ hvint hwint hstr, (List.cons.inj hrest).2⟩

theorem sameScan_of_bothIdentified {parsers : FieldParsers} {e f : WireEvent} {d g : EventData}
    (he : bridgeEventSerializer parsers e = some d) (hf : bridgeEventSerializer parsers f = some g)
    (hkey : e.localKey = f.localKey) (h : BothIdentified e f) : d.SameScan g := by
  obtain ⟨v, w, hv, hw, hne⟩ := h
  have hstr : v.str = w.str := by
    unfold WireEvent.localKey at hkey
    rw [hv, hw] at hkey
    exact hkey
  have hfield : ∀ (x : WireEvent) (u : JsonValue) (data : EventData),
      bridgeEventSerializer parsers x = some data → x.givenId = some u →
        data.externalEventId = Text.strip u.str := by
    intro x u data hx hu
    obtain ⟨-, hext, -⟩ := bridgeEventSerializer_eq_some hx
    obtain ⟨hsome, -⟩ := Option.filter_eq_some_iff.mp hu
    rw [hsome] at hext
    exact (charField_eq_some hext).1
  refine ⟨?_, .inl ?_⟩
  · rw [hfield e v d he hv, hfield f w g hf hw, hstr]
  · rw [hfield e v d he hv]
    exact hne

/-- **The queue discards an event rightly exactly when the row that has its key is told alike by
the server.** -/
theorem enqueue_discards_rightly_iff (parsers : FieldParsers) (clock : DateTimeStr)
    (queue : DurableQueue) (event : WireEvent) :
    DiscardsRightly parsers clock queue event ↔
      ∀ row ∈ queue.rows, row.payload.queueKey = event.queueKey →
        ToldAlike parsers row.payload event := by
  have hstands : ∀ queued : WireEvent, queued.queueKey = event.queueKey →
      (StandsFor parsers clock queued event ↔ ToldAlike parsers queued event) := by
    intro queued hkey
    unfold StandsFor ToldAlike serverKey
    cases he : bridgeEventSerializer parsers event with
    | none => simp
    | some e =>
      cases hq : bridgeEventSerializer parsers queued with
      | none => simp
      | some q =>
        obtain ⟨hdevice, hlocal⟩ := queueKey_eq hq he hkey
        have hsame := dedupeKey_eq_iff clock (bridgeEventSerializer_admitted hq)
          (bridgeEventSerializer_admitted he)
        have hid : BothIdentified queued event → q.SameScan e :=
          sameScan_of_bothIdentified hq he hlocal
        simp only [Option.map_some, Option.some.injEq, forall_eq', Prod.mk.injEq, hdevice,
          true_and, exists_eq_left', hsame]
        exact ⟨.inr, fun h => h.elim hid id⟩
  unfold DiscardsRightly
  constructor
  · intro h row hrow hkey
    have hpresent : ∃ row ∈ queue.rows, row.dedupeKey = event.queueKey :=
      ⟨row, hrow, (queue.keys_eq row hrow).trans hkey⟩
    obtain ⟨other, hother, hok, hst⟩ := h (by unfold DurableQueue.enqueue; rw [dif_pos hpresent])
    have hsame : other = row :=
      List.inj_on_of_nodup_map queue.keys_nodup hother hrow
        (hok.trans (hkey.symm.trans (queue.keys_eq row hrow).symm))
    exact (hstands row.payload hkey).mp (hsame ▸ hst)
  · intro h hdiscard
    have hpresent : ∃ row ∈ queue.rows, row.dedupeKey = event.queueKey := by
      by_contra hno
      unfold DurableQueue.enqueue at hdiscard
      rw [dif_neg hno] at hdiscard
      cases hdiscard
    obtain ⟨row, hrow, hkey⟩ := hpresent
    have hkey' := (queue.keys_eq row hrow).symm.trans hkey
    exact ⟨row, hrow, hkey, (hstands row.payload hkey').mpr (h row hrow hkey')⟩

/-- The text of one instant, and padded numbers for the others. -/
def oneInstantClock : DateTimeStr where
  str t := if t = 0 then "2026-08-19 07:01:00+03:00".toList else List.replicate 26 '0' ++ intText t
  injective := by
    intro a b h
    dsimp only at h
    by_cases ha : a = 0 <;> by_cases hb : b = 0
    · rw [ha, hb]
    · have hlen := congrArg List.length h
      rw [if_pos ha, if_neg hb, List.length_append, List.length_replicate] at hlen
      have hreal : "2026-08-19 07:01:00+03:00".toList.length = 25 := by decide
      omega
    · have hlen := congrArg List.length h
      rw [if_neg ha, if_pos hb, List.length_append, List.length_replicate] at hlen
      have hreal : "2026-08-19 07:01:00+03:00".toList.length = 25 := by decide
      omega
    · simp only [if_neg ha, if_neg hb] at h
      exact intText_injective (List.append_cancel_left h)
  bar_not_mem := by
    intro t
    split
    · decide
    · rw [List.mem_append]
      rintro (hzero | hmem)
      · exact absurd (List.eq_of_mem_replicate hzero) (by decide)
      · cases t with
        | ofNat n =>
          exact absurd (Nat.isDigit_of_mem_toDigits (by decide) (by decide) hmem) (by decide)
        | negSucc n =>
          rcases List.mem_cons.mp hmem with hminus | hdigit
          · exact absurd hminus (by decide)
          · exact absurd (Nat.isDigit_of_mem_toDigits (by decide) (by decide) hdigit) (by decide)
  length_le := by
    intro t
    split
    · decide
    · rw [List.length_append, List.length_replicate]
      omega

def blankIdScan (user : Text) : WireEvent :=
  { scanOf user with externalEventId := some (.text [' ']) }

/-- The scan of another user is discarded because both identifiers are a blank; the server would
have told the two apart. -/
theorem blankIdScan_not_discardedRightly :
    ¬ DiscardsRightly (tableParsers [(scanTime, 0)]) oneInstantClock
      (DurableQueue.enqueue {} (blankIdScan "1001".toList)).2 (blankIdScan "1002".toList) := by
  intro h
  have hdiscard : ((DurableQueue.enqueue {} (blankIdScan "1001".toList)).2.enqueue
      (blankIdScan "1002".toList)).1 = false := by decide +kernel
  obtain ⟨row, hrow, -, hstands⟩ := h hdiscard
  have hqueued : ∀ row ∈ (DurableQueue.enqueue {} (blankIdScan "1001".toList)).2.rows,
      row.payload = blankIdScan "1001".toList := by decide +kernel
  have hkey : serverKey (tableParsers [(scanTime, 0)]) oneInstantClock
      (blankIdScan "1002".toList) =
        some (1, .fp ⟨"1002|2026-08-19 07:01:00+03:00|CHECK_IN".toList⟩) := by decide +kernel
  have hother : serverKey (tableParsers [(scanTime, 0)]) oneInstantClock
      (blankIdScan "1001".toList) ≠
        some (1, .fp ⟨"1002|2026-08-19 07:01:00+03:00|CHECK_IN".toList⟩) := by decide +kernel
  have hsame := hstands _ hkey
  rw [hqueued row hrow] at hsame
  exact hother hsame

open ReadCommitted

/-! ## Calls that stop -/

inductive ArrivalCall
  | ingest (events : List EventData)
  | reprocess (identity : StudentDeviceIdentity) (student : Student)

def ArrivalCall.program (clock : DateTimeStr) (now : Instant) : ArrivalCall → DeviceOperation Unit
  | .ingest events => (ingestBatch clock now events).bind fun _ => .ret ()
  | .reprocess identity student => (reprocessUnmatched identity student).bind fun _ => .ret ()

/-- A call that stops: when it is made, and how many of its steps it commits. -/
structure Attempt where
  now : Instant
  steps : ℕ

def ArrivalCall.stopped (clock : DateTimeStr) (call : ArrivalCall) (attempt : Attempt)
    (s : DeviceStore) : DeviceStore :=
  (call.program clock attempt.now).stopAfter attempt.steps s

def ArrivalCall.retried (clock : DateTimeStr) (call : ArrivalCall) :
    List Attempt → DeviceStore → DeviceStore
  | [], s => s
  | attempt :: attempts, s => call.retried clock attempts (call.stopped clock attempt s)

/-- The waiting events a call of `reprocess_unmatched` goes through. -/
def DeviceStore.pending (s : DeviceStore) (identity : StudentDeviceIdentity) : List DeviceEvent :=
  if identity.status ≠ .matched ∨ identity.student = none then []
  else s.waitingEvents identity.device identity.externalUserId

/-- The stop does not fall between the commit of a status and the commit of its arrival, or
something not later stands for the scan: an arrival, or another event that waits. -/
def ArrivalCall.Harmless (clock : DateTimeStr) (call : ArrivalCall) (attempt : Attempt)
    (s : DeviceStore) : Prop :=
  match call with
  | .ingest events => attempt.steps = 1 →
      ∀ x ∈ (s.rowsOf clock attempt.now events).filterMap DeviceEvent.item?, s.Covers x
  | .reprocess identity student =>
      ∀ e ∈ student.openAfter (s.pending identity) attempt.steps, ∀ x, student.scan? e = some x →
        s.Covers x ∨ ∃ w ∈ s.pending identity, w ≠ e ∧ ∃ y, student.scan? w = some y ∧
          y.key s.settings = x.key s.settings ∧ y.occurredAt ≤ x.occurredAt

def ArrivalCall.AllHarmless (clock : DateTimeStr) (call : ArrivalCall) :
    List Attempt → DeviceStore → Prop
  | [], _ => True
  | attempt :: attempts, s =>
    call.Harmless clock attempt s ∧ call.AllHarmless clock attempts (call.stopped clock attempt s)

theorem retried_iff {clock : DateTimeStr} {call : ArrivalCall} (Good Lost P : DeviceStore → Prop)
    {now : Instant} (hkeep : ∀ attempt s, Good s → call.Harmless clock attempt s →
      Good (call.stopped clock attempt s))
    (hlose : ∀ attempt s, Good s → ¬ call.Harmless clock attempt s →
      Lost (call.stopped clock attempt s))
    (hlost : ∀ attempt s, Lost s → Lost (call.stopped clock attempt s))
    (hend : ∀ s, Good s → P ((call.program clock now).run s).2)
    (hnever : ∀ s, Lost s → ¬ P ((call.program clock now).run s).2)
    (attempts : List Attempt) (s : DeviceStore) (hs : Good s) :
    P ((call.program clock now).run (call.retried clock attempts s)).2 ↔
      call.AllHarmless clock attempts s := by
  have hlostAll : ∀ (rest : List Attempt) (t : DeviceStore), Lost t →
      Lost (call.retried clock rest t) := by
    intro rest
    induction rest with
    | nil => exact fun t ht => ht
    | cons a rest ih => exact fun t ht => ih _ (hlost a t ht)
  induction attempts generalizing s with
  | nil => exact iff_of_true (hend s hs) trivial
  | cons a rest ih =>
    by_cases hharmless : call.Harmless clock a s
    · have hrest := ih _ (hkeep a s hs hharmless)
      exact hrest.trans (and_iff_right hharmless).symm
    · apply iff_of_false
      · exact hnever _ (hlostAll rest _ (hlose a s hs hharmless))
      · exact fun h => hharmless h.1

/-! ## Batches -/

section Ingest

variable {clock : DateTimeStr} {events : List EventData}

theorem scan_origin {s : DeviceStore} {now : Instant} {x : ArrivalItem}
    (h : x ∈ (s.rowsOf clock now events).filterMap DeviceEvent.item?) :
    ∃ slots, s.slotsOf clock now events = some slots ∧
      ∃ data ∈ events.take maxBatchSize, s.Accepts now data ∧ x.occurredAt = data.occurredAt ∧
        s.event? data.deviceId (dedupeKey clock data) = none := by
  unfold DeviceStore.rowsOf at h
  cases hslots : s.slotsOf clock now events with
  | none =>
    rw [hslots] at h
    cases h
  | some slots =>
    rw [hslots] at h
    refine ⟨slots, rfl, ?_⟩
    obtain ⟨row, hrow, hitem⟩ := List.mem_filterMap.mp h
    have hnew := slotsOf_newRows hslots
    obtain ⟨data, hdata, haccepts, hof⟩ := hnew.origin row hrow
    have habsent := hnew.absent row hrow
    rw [hof.device, hof.key] at habsent
    refine ⟨data, hdata, haccepts, ?_, habsent⟩
    unfold DeviceEvent.item? at hitem
    split at hitem
    · obtain ⟨student, _, heq⟩ := Option.map_eq_some_iff.mp hitem
      rw [← heq]
      exact hof.occurredAt
    · cases hitem

/-- A scan that is stored without its arrival, while whatever the batch still brings is later. -/
structure LostByBatch (clock : DateTimeStr) (events : List EventData) (x : ArrivalItem)
    (s : DeviceStore) : Prop where
  stored : x ∈ s.items
  uncovered : ¬ s.Covers x
  later : ∀ data ∈ events.take maxBatchSize, data.deviceId ∈ s.activeDevices →
    Text.strip data.externalUserId ≠ [] →
      (s.event? data.deviceId (dedupeKey clock data)).isSome ∨ x.occurredAt < data.occurredAt

theorem LostByBatch.congr {x : ArrivalItem} {s t : DeviceStore}
    (h : t.withoutIdentities = s.withoutIdentities) (hs : LostByBatch clock events x s) :
    LostByBatch clock events x t := by
  have hlost : LostByBatch clock events x s.withoutIdentities :=
    ⟨hs.stored, hs.uncovered, hs.later⟩
  rw [← h] at hlost
  exact ⟨hlost.stored, hlost.uncovered, hlost.later⟩

theorem allCovered_congr {s t : DeviceStore} (h : t.withoutIdentities = s.withoutIdentities) :
    t.AllCovered ↔ s.AllCovered := by
  show t.withoutIdentities.AllCovered ↔ s.withoutIdentities.AllCovered
  rw [h]

theorem LostByBatch.applied {x : ArrivalItem} {s s₂ : DeviceStore} {now : Instant}
    (h : LostByBatch clock events x s)
    (happlied : Applied ((s.rowsOf clock now events).filterMap DeviceEvent.item?)
      (s.addEvents (s.rowsOf clock now events)) s₂) : LostByBatch clock events x s₂ := by
  have hbeside : s₂.beside = (s.addEvents (s.rowsOf clock now events)).beside := happlied.beside
  have hdevices : s₂.activeDevices = s.activeDevices := by
    show s₂.beside.activeDevices = _
    rw [hbeside]
    rfl
  refine ⟨?_, ?_, fun data hdata hdevice huser => ?_⟩
  · rw [happlied.items_eq, items_addEvents]
    exact List.mem_append_left _ h.stored
  · rw [happlied.covers_iff]
    intro hor
    rcases hor with hcover | ⟨y, hy, _, hle⟩
    · exact h.uncovered hcover
    · obtain ⟨slots, _, data, hdata, haccepts, htime, habsent⟩ := scan_origin hy
      rcases h.later data hdata haccepts.device haccepts.user with hsome | hlater
      · rw [habsent] at hsome
        cases hsome
      · rw [htime] at hle
        exact absurd hle (not_le.mpr hlater)
  · rw [hdevices] at hdevice
    have hevents : s₂.event? = (s.addEvents (s.rowsOf clock now events)).event? := by
      unfold DeviceStore.event?
      rw [happlied.events]
    rw [hevents]
    exact (h.later data hdata hdevice huser).imp_left fun hsome => event?_addEvents hsome _

theorem LostByBatch.addEvents {x : ArrivalItem} {s : DeviceStore}
    (h : LostByBatch clock events x s) (rows : List DeviceEvent) :
    LostByBatch clock events x (s.addEvents rows) := by
  refine ⟨?_, h.uncovered, fun data hdata hdevice huser => ?_⟩
  · rw [items_addEvents]
    exact List.mem_append_left _ h.stored
  · exact (h.later data hdata hdevice huser).imp_left fun hsome => event?_addEvents hsome _

theorem ingest_retried_iff (attempts : List Attempt) (now : Instant) (s : DeviceStore)
    (hs : s.AllCovered) :
    (((ArrivalCall.ingest events).program clock now).run
      ((ArrivalCall.ingest events).retried clock attempts s)).2.AllCovered ↔
        (ArrivalCall.ingest events).AllHarmless clock attempts s := by
  have hstop : ∀ (a : Attempt) (t : DeviceStore), (ArrivalCall.ingest events).stopped clock a t =
      (ingestBatch clock a.now events).stopAfter a.steps t :=
    fun a t => Program.stopAfter_bind_ret _ _ _ _
  have hrun : ∀ t : DeviceStore, (((ArrivalCall.ingest events).program clock now).run t).2 =
      ((ingestBatch clock now events).run t).2 :=
    fun t => Program.run_bind_ret _ _ _
  have happly : ∀ (n : Instant) (t t₂ : DeviceStore), t.AllCovered →
      Applied ((t.rowsOf clock n events).filterMap DeviceEvent.item?)
        (t.addEvents (t.rowsOf clock n events)) t₂ → t₂.AllCovered := by
    intro n t t₂ ht happlied x hx
    rw [happlied.items_eq, items_addEvents, List.mem_append] at hx
    rcases hx with hold | hnew
    · exact (happlied.covers_iff x).mpr (.inl (ht x hold))
    · exact happlied.covers hnew
  refine retried_iff DeviceStore.AllCovered (fun t => ∃ x, LostByBatch clock events x t) _ ?_ ?_ ?_
    ?_ ?_ attempts s hs
  · intro a t ht hharmless
    obtain ⟨t₂, happlied, hone, hmore, -⟩ := ingestBatch_stops clock a.now events t
    rw [hstop]
    match hsteps : a.steps with
    | 0 => exact ht
    | 1 =>
      rw [allCovered_congr hone]
      intro x hx
      rw [items_addEvents, List.mem_append] at hx
      rcases hx with hold | hnew
      · exact ht x hold
      · exact hharmless hsteps x hnew
    | n + 2 =>
      rw [allCovered_congr (hmore n)]
      exact happly _ _ _ ht happlied
  · intro a t ht hharmless
    obtain ⟨t₂, happlied, hone, -, -⟩ := ingestBatch_stops clock a.now events t
    unfold ArrivalCall.Harmless at hharmless
    push Not at hharmless
    obtain ⟨hsteps, x, hx, hnot⟩ := hharmless
    rw [hstop, hsteps]
    refine ⟨x, LostByBatch.congr hone ⟨?_, hnot, fun data hdata hdevice huser => ?_⟩⟩
    · rw [items_addEvents]
      exact List.mem_append_right _ hx
    · -- What the batch has not stored now it has turned away for its time.
      obtain ⟨slots, hslots, first, _, hfirst, htime, _⟩ := scan_origin hx
      by_cases haccepts : t.Accepts a.now data
      · have hrows : t.rowsOf clock a.now events = slots.filterMap Slot.row? := by
          unfold DeviceStore.rowsOf
          rw [hslots]
        rcases (slotsOf_newRows hslots).complete data hdata haccepts with hsome | ⟨row, hrow, hkey⟩
        · exact .inl (event?_addEvents hsome _)
        · rw [hrows]
          exact .inl (event?_addEvents_of_mem hrow hkey)
      · right
        have hlate : a.now + futureSkew < data.occurredAt := by
          by_contra hle
          exact haccepts ⟨hdevice, huser, not_lt.mp hle⟩
        rw [htime]
        exact hfirst.time.trans_lt hlate
  · intro a t ⟨x, hx⟩
    obtain ⟨t₂, happlied, hone, hmore, -⟩ := ingestBatch_stops clock a.now events t
    rw [hstop]
    refine ⟨x, ?_⟩
    match a.steps with
    | 0 => exact hx
    | 1 => exact LostByBatch.congr hone (hx.addEvents _)
    | n + 2 => exact LostByBatch.congr (hmore n) (hx.applied happlied)
  · intro t ht
    obtain ⟨t₂, happlied, -, -, hend⟩ := ingestBatch_stops clock now events t
    rw [hrun, allCovered_congr hend]
    exact happly _ _ _ ht happlied
  · intro t ⟨x, hx⟩ hcovered
    obtain ⟨t₂, happlied, -, -, hend⟩ := ingestBatch_stops clock now events t
    rw [hrun, allCovered_congr hend] at hcovered
    have hlost := hx.applied happlied
    exact hlost.uncovered (hcovered x hlost.stored)

end Ingest

/-! ## Late mapping -/

section Reprocess

variable (clock : DateTimeStr) (identity : StudentDeviceIdentity) (student : Student)

theorem reprocess_program_eq (now : Instant) :
    ((ArrivalCall.reprocess identity student).program clock now = .ret () ∧
        ∀ s : DeviceStore, s.pending identity = []) ∨
      ((ArrivalCall.reprocess identity student).program clock now =
        .peek (fun s => s.pending identity) (fun events =>
          (Program.forEach (reprocessEvent student) events).bind fun _ => .ret ())) := by
  unfold ArrivalCall.program reprocessUnmatched
  by_cases h : identity.status ≠ .matched ∨ identity.student = none
  · left
    refine ⟨?_, fun s => ?_⟩
    · simp only [if_pos h]
      rfl
    · unfold DeviceStore.pending
      rw [if_pos h]
  · right
    have hpending : (fun s : DeviceStore => s.pending identity) =
        fun s => s.waitingEvents identity.device identity.externalUserId := by
      funext s
      unfold DeviceStore.pending
      rw [if_neg h]
    rw [hpending]
    simp only [if_neg h]
    show Program.peek _ _ = _
    congr 1
    funext events
    show (((Program.forEach (reprocessEvent student) events).bind fun _ =>
      Program.ret events.length).bind fun _ => Program.ret ()) = _
    rw [Program.bind_assoc]
    rfl

variable {s : DeviceStore}

theorem pending_waiting (hkeys : (s.events.map DeviceEvent.key).Nodup) :
    Waiting s (s.pending identity) := by
  unfold DeviceStore.pending
  split
  · exact ⟨hkeys, by simp, List.nodup_nil⟩
  · exact waiting_waitingEvents hkeys _ _

theorem reprocess_stopped (hkeys : (s.events.map DeviceEvent.key).Nodup) (a : Attempt) :
    Reprocessed student (student.doneAfter (s.pending identity) a.steps)
      (student.openAfter (s.pending identity) a.steps) s
      ((ArrivalCall.reprocess identity student).stopped clock a s) := by
  unfold ArrivalCall.stopped
  rcases reprocess_program_eq clock identity student a.now with ⟨hret, hnil⟩ | hpeek
  · have hended : ((ArrivalCall.reprocess identity student).program clock a.now).Ended := by
      rw [hret]
      trivial
    rw [hended.stopAfter, hnil]
    exact Reprocessed.refl student s
  · have hloop := reprocess_stopAfter student (pending_waiting identity hkeys) a.steps
    have hstop : ((ArrivalCall.reprocess identity student).program clock a.now).stopAfter a.steps s =
        (Program.forEach (reprocessEvent student) (s.pending identity)).stopAfter a.steps s := by
      rw [hpeek, ← Program.stopAfter_bind_ret (Program.forEach (reprocessEvent student)
        (s.pending identity)) (fun _ => ()) s a.steps]
      cases a.steps <;> rfl
    rw [hstop]
    exact hloop

theorem reprocess_ran (hkeys : (s.events.map DeviceEvent.key).Nodup) (now : Instant) :
    Reprocessed student (s.pending identity) [] s
      (((ArrivalCall.reprocess identity student).program clock now).run s).2 := by
  rcases reprocess_program_eq clock identity student now with ⟨hret, hnil⟩ | hpeek
  · rw [hret, hnil]
    exact Reprocessed.refl student s
  · have hwaiting : Waiting s (s.pending identity) := pending_waiting identity hkeys
    obtain ⟨s', hrun, hre⟩ := reprocess_run student hwaiting
    rw [hpeek]
    show Reprocessed student _ [] s (((Program.forEach (reprocessEvent student)
      (s.pending identity)).bind fun _ => .ret ()).run s).2
    rw [Program.run_bind_ret _ (fun _ => ()), hrun]
    exact hre

variable {identity} {student} {done saved : List DeviceEvent} {s' : DeviceStore}

theorem Reprocessed.mem_pending_iff (h : Reprocessed student done saved s s') (w : DeviceEvent) :
    w ∈ s'.pending identity ↔ w ∈ s.pending identity ∧ w ∉ done ++ saved := by
  unfold DeviceStore.pending
  split
  · simp
  · rw [mem_waitingEvents_iff, mem_waitingEvents_iff, h.event]
    constructor
    · intro ⟨hor, hdevice, huser, hstatus⟩
      rcases hor with ⟨hw, hnot⟩ | ⟨e, _, rfl⟩
      · exact ⟨⟨hw, hdevice, huser, hstatus⟩, hnot⟩
      · exact absurd hstatus student.eventStatus_ne
    · intro ⟨⟨hw, hdevice, huser, hstatus⟩, hnot⟩
      exact ⟨.inl ⟨hw, hnot⟩, hdevice, huser, hstatus⟩

/-- An event that waits becomes a scan that stands for this one. -/
def DeviceStore.Promised (s : DeviceStore) (identity : StudentDeviceIdentity) (student : Student)
    (x : ArrivalItem) : Prop :=
  ∃ w ∈ s.pending identity, ∃ y, student.scan? w = some y ∧ y.key s.settings = x.key s.settings ∧
    y.occurredAt ≤ x.occurredAt

/-- Every stored scan has its arrival, or an event that waits stands for it. -/
structure MappingGood (identity : StudentDeviceIdentity) (student : Student) (s : DeviceStore) :
    Prop where
  keys : (s.events.map DeviceEvent.key).Nodup
  stands : ∀ x ∈ s.items, s.Covers x ∨ s.Promised identity student x

/-- A stored scan has no arrival, and nothing that waits stands for it. -/
structure LostByMapping (identity : StudentDeviceIdentity) (student : Student) (s : DeviceStore) :
    Prop where
  keys : (s.events.map DeviceEvent.key).Nodup
  lost : ∃ x ∈ s.items, ¬ s.Covers x ∧ ¬ s.Promised identity student x

theorem LostByMapping.step (h : LostByMapping identity student s)
    (hre : Reprocessed student done saved s s') (hsub : ∀ e ∈ done ++ saved, e ∈ s.pending identity) :
    LostByMapping identity student s' := by
  obtain ⟨x, hx, hnot, hno⟩ := h.lost
  have hwaiting : ∀ e ∈ done ++ saved, e.processingStatus = .unmatched :=
    fun e he => ((pending_waiting identity h.keys).mem e (hsub e he)).2
  refine ⟨by rw [hre.keys]; exact h.keys, x, ?_, ?_, ?_⟩
  · exact (hre.mem_items_iff hwaiting x).mpr (.inl hx)
  · rw [hre.covers]
    intro hor
    rcases hor with hcover | ⟨e, he, y, hy⟩
    · exact hnot hcover
    · exact hno ⟨e, hsub e (List.mem_append_left _ he), y, hy⟩
  · intro ⟨w, hw, y, hy⟩
    rw [hre.settings] at hy
    exact hno ⟨w, ((hre.mem_pending_iff w).mp hw).1, y, hy⟩

theorem reprocess_retried_iff (attempts : List Attempt) (now : Instant)
    (hkeys : (s.events.map DeviceEvent.key).Nodup) (hs : s.AllCovered) :
    (((ArrivalCall.reprocess identity student).program clock now).run
      ((ArrivalCall.reprocess identity student).retried clock attempts s)).2.AllCovered ↔
        (ArrivalCall.reprocess identity student).AllHarmless clock attempts s := by
  have hsub : ∀ (t : DeviceStore) (n : ℕ), ∀ e ∈ student.doneAfter (t.pending identity) n ++
      student.openAfter (t.pending identity) n, e ∈ t.pending identity :=
    fun t n e he => Student.mem_doneAfter_append he
  have hwaits : ∀ {t : DeviceStore}, (t.events.map DeviceEvent.key).Nodup →
      ∀ e ∈ t.pending identity, e.processingStatus = .unmatched :=
    fun ht e he => ((pending_waiting identity ht).mem e he).2
  refine retried_iff (MappingGood identity student) (LostByMapping identity student) _ ?_ ?_ ?_ ?_ ?_
    attempts s ⟨hkeys, fun x hx => .inl (hs x hx)⟩
  · intro a t ht hharmless
    have hre := reprocess_stopped clock identity student ht.keys a
    have hwaiting := fun e he => hwaits ht.keys e (hsub t a.steps e he)
    -- What stands for a scan that is saved and not applied is applied, or still waits.
    have hopen : ∀ e ∈ student.openAfter (t.pending identity) a.steps, ∀ y,
        student.scan? e = some y → ∀ x, y.key t.settings = x.key t.settings →
          y.occurredAt ≤ x.occurredAt →
            ((ArrivalCall.reprocess identity student).stopped clock a t).Covers x ∨
            ((ArrivalCall.reprocess identity student).stopped clock a t).Promised identity student
              x := by
      intro e he y hy x hkey hle
      rcases hharmless e he y hy with hcover | ⟨w, hw, hne, z, hz, hzkey, hzle⟩
      · exact .inl ((hre.covers x).mpr (.inl (hcover.mono hkey hle)))
      · by_cases hdone : w ∈ student.doneAfter (t.pending identity) a.steps
        · exact .inl ((hre.covers x).mpr
            (.inr ⟨w, hdone, z, hz, hzkey.trans hkey, hzle.trans hle⟩))
        · right
          refine ⟨w, (hre.mem_pending_iff w).mpr ⟨hw, fun hmem => ?_⟩, z, hz, ?_, hzle.trans hle⟩
          · rcases List.mem_append.mp hmem with hmem | hmem
            · exact hdone hmem
            · exact hne (student.openAfter_unique _ _ e he w hmem)
          · rw [hre.settings]
            exact hzkey.trans hkey
    refine ⟨by rw [hre.keys]; exact ht.keys, fun x hx => ?_⟩
    rcases (hre.mem_items_iff hwaiting x).mp hx with hold | ⟨e, he, hscan⟩
    · rcases ht.stands x hold with hcover | ⟨w, hw, y, hy, hkey, hle⟩
      · exact .inl ((hre.covers x).mpr (.inl hcover))
      · by_cases hdone : w ∈ student.doneAfter (t.pending identity) a.steps
        · exact .inl ((hre.covers x).mpr (.inr ⟨w, hdone, y, hy, hkey, hle⟩))
        · by_cases hsaved : w ∈ student.openAfter (t.pending identity) a.steps
          · exact hopen w hsaved y hy x hkey hle
          · right
            refine ⟨w, (hre.mem_pending_iff w).mpr ⟨hw, ?_⟩, y, hy, ?_, hle⟩
            · rw [List.mem_append]
              tauto
            · rw [hre.settings]
              exact hkey
    · rcases List.mem_append.mp he with hdone | hsaved
      · exact .inl ((hre.covers x).mpr (.inr ⟨e, hdone, x, hscan, rfl, le_refl _⟩))
      · exact hopen e hsaved x hscan x rfl (le_refl _)
  · intro a t ht hharmless
    have hre := reprocess_stopped clock identity student ht.keys a
    have hwaiting := fun e he => hwaits ht.keys e (hsub t a.steps e he)
    unfold ArrivalCall.Harmless at hharmless
    push Not at hharmless
    obtain ⟨e, he, x, hscan, hnot, hno⟩ := hharmless
    refine ⟨by rw [hre.keys]; exact ht.keys, x, ?_, ?_, ?_⟩
    · exact (hre.mem_items_iff hwaiting x).mpr (.inr ⟨e, List.mem_append_right _ he, hscan⟩)
    · rw [hre.covers]
      intro hor
      rcases hor with hcover | ⟨w, hw, y, hy, hkey, hle⟩
      · exact hnot hcover
      · have hnodup := (student.doneAfter_append_sublist (t.pending identity) a.steps).nodup
          (pending_waiting identity ht.keys).nodup
        have hne : w ≠ e := (List.nodup_append.mp hnodup).2.2 w hw e he
        exact absurd hle (not_le.mpr (hno w (hsub t _ w (List.mem_append_left _ hw)) hne y hy hkey))
    · intro ⟨w, hw, y, hy, hkey, hle⟩
      rw [hre.settings] at hkey
      obtain ⟨hpending, hnew⟩ := (hre.mem_pending_iff w).mp hw
      have hne : w ≠ e := by
        intro heq
        rw [heq] at hnew
        exact hnew (List.mem_append_right _ he)
      exact absurd hle (not_le.mpr (hno w hpending hne y hy hkey))
  · intro a t ht
    exact ht.step (reprocess_stopped clock identity student ht.keys a) (hsub t a.steps)
  · intro t ht x hx
    have hre := reprocess_ran clock identity student ht.keys now
    have hwaiting : ∀ e ∈ t.pending identity ++ [], e.processingStatus = .unmatched := by
      rw [List.append_nil]
      exact hwaits ht.keys
    apply (hre.covers x).mpr
    rcases (hre.mem_items_iff hwaiting x).mp hx with hold | ⟨e, he, hscan⟩
    · exact ht.stands x hold
    · rw [List.append_nil] at he
      exact .inr ⟨e, he, x, hscan, rfl, le_refl _⟩
  · intro t ht hcovered
    have hlost := ht.step (reprocess_ran clock identity student ht.keys now)
      (by simp)
    obtain ⟨x, hx, hnot, -⟩ := hlost.lost
    exact hnot (hcovered x hx)

end Reprocess

/-- **Stops between commits.** From a store whose scans all have their arrivals, a call that is
repeated until it answers leaves such a store just when each of its stops was harmless. -/
theorem retried_allCovered_iff (clock : DateTimeStr) (call : ArrivalCall) (attempts : List Attempt)
    (now : Instant) (s : DeviceStore) (hkeys : (s.events.map DeviceEvent.key).Nodup)
    (hs : s.AllCovered) :
    ((call.program clock now).run (call.retried clock attempts s)).2.AllCovered ↔
      call.AllHarmless clock attempts s := by
  cases call with
  | ingest events => exact ingest_retried_iff attempts now s hs
  | reprocess identity student => exact reprocess_retried_iff clock attempts now hkeys hs

/-- A pupil whose finger the device at the gate knows as user 7. -/
def gatePupil : Student where
  id := 1
  nationalIdLookupHash := ""
  nationalIdMasked := ""
  studentNumber := none
  fullName := ""
  mergedInto := none
  status := .active
  statusChangedAt := none
  exitDate := none
  exitReason := ""

def gateStore : DeviceStore where
  settings :=
    { zone := ⟨fun t => t⟩
      schoolDayStartTime := 25200
      morningLateGraceMinutes := 5 }
  students := [gatePupil]
  devices := [⟨1, true⟩]
  identities :=
    [{ device := 1, externalUserId := "7".toList, student := some 1, status := .matched }]

def gateScan : EventData where
  deviceId := 1
  externalEventId := "1".toList
  externalUserId := "7".toList
  occurredAt := 25000000000
  verificationMethod := .fingerprint
  eventType := checkIn

theorem retried_allCovered_iff_gate :
    (((ArrivalCall.ingest [gateScan]).program oneInstantClock 25000000000).run
      ((ArrivalCall.ingest [gateScan]).retried oneInstantClock [⟨25000000000, 0⟩]
        gateStore)).2.AllCovered ↔
      (ArrivalCall.ingest [gateScan]).AllHarmless oneInstantClock [⟨25000000000, 0⟩] gateStore :=
  retried_allCovered_iff oneInstantClock (.ingest [gateScan]) [⟨25000000000, 0⟩] 25000000000
    gateStore (by decide) (by decide)

/-- A batch that stops when its event is stored, and is sent again: the event is a duplicate then,
and the pupil has no arrival. -/
theorem stopAfterInsert_not_allCovered :
    (gateStore.events.map DeviceEvent.key).Nodup ∧ gateStore.AllCovered ∧
      ¬ (((ArrivalCall.ingest [gateScan]).program oneInstantClock 25000000000).run
        ((ArrivalCall.ingest [gateScan]).retried oneInstantClock [⟨25000000000, 1⟩]
          gateStore)).2.AllCovered := by
  decide +kernel

end SchoolPlatform
