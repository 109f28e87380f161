import SchoolPlatform.Analysis.BatchSteps

/-!
# What late mapping does

`reprocess_unmatched` goes through the waiting events of a user: it saves the status of an event
and then applies its scan, in two committed steps. `Reprocessed` says what has happened to the
store when some events are done with and another may be saved and not applied.
-/

namespace SchoolPlatform

open ReadCommitted

variable {e : DeviceEvent} {es : List DeviceEvent}

/-! ## Saving the status of an event -/

/-- The event as `reprocess_unmatched` saves it. -/
def DeviceEvent.saved (event : DeviceEvent) (status : EventProcessingStatus) (student : ℕ) :
    DeviceEvent :=
  { event with processingStatus := status, student := some student }

theorem mem_setEvent_iff {s : DeviceStore} (hkeys : (s.events.map DeviceEvent.key).Nodup)
    {event : DeviceEvent} (hmem : event ∈ s.events) (status : EventProcessingStatus) (student : ℕ)
    (w : DeviceEvent) :
    w ∈ (s.setEvent event.device event.dedupeKey status student).events ↔
      w = event.saved status student ∨ w ∈ s.events ∧ w ≠ event := by
  have hsame : ∀ x ∈ s.events,
      (x.device = event.device ∧ x.dedupeKey = event.dedupeKey ↔ x = event) := by
    intro x hx
    constructor
    · intro h
      exact Table.eq_of_key_eq hkeys hx hmem (Prod.ext h.1 h.2)
    · intro h
      rw [h]
      exact ⟨rfl, rfl⟩
  unfold DeviceStore.setEvent
  simp only [List.mem_map]
  constructor
  · intro ⟨x, hx, hw⟩
    by_cases hxe : x = event
    · rw [if_pos ((hsame x hx).mpr hxe), hxe] at hw
      exact .inl hw.symm
    · rw [if_neg fun h => hxe ((hsame x hx).mp h)] at hw
      rw [← hw]
      exact .inr ⟨hx, hxe⟩
  · intro hor
    rcases hor with hw | ⟨hw, hne⟩
    · exact ⟨event, hmem, by rw [if_pos ⟨rfl, rfl⟩, hw]; rfl⟩
    · exact ⟨w, hw, if_neg fun h => hne ((hsame w hw).mp h)⟩

theorem keys_setEvent (s : DeviceStore) (device : ℤ) (key : DedupeKey)
    (status : EventProcessingStatus) (student : ℕ) :
    (s.setEvent device key status student).events.map DeviceEvent.key =
      s.events.map DeviceEvent.key := by
  unfold DeviceStore.setEvent
  rw [List.map_map]
  apply List.map_congr_left
  intro w hw
  simp only [Function.comp]
  split <;> rfl

def Student.eventStatus (student : Student) : EventProcessingStatus :=
  if student.status ≠ .active then .ignored else .processed

def Student.scan? (student : Student) (event : DeviceEvent) : Option ArrivalItem :=
  if student.status = .active ∧ event.eventType = checkIn then
    some ⟨student.id, event.occurredAt, event.key⟩
  else none

theorem item?_saved (student : Student) (event : DeviceEvent) :
    (event.saved student.eventStatus student.id).item? = student.scan? event := by
  unfold DeviceEvent.item? Student.scan? Student.eventStatus DeviceEvent.saved
  by_cases hactive : student.status = .active
  · by_cases htype : event.eventType = checkIn <;> simp [hactive, htype, DeviceEvent.key]
  · simp [hactive]

theorem item?_unmatched {event : DeviceEvent} (h : event.processingStatus = .unmatched) :
    event.item? = none := by
  unfold DeviceEvent.item?
  simp [h]

/-! ## Events done with -/

/-- From `s` to `s'` the events `done` have been saved and their scans applied, and the events
`saved` have been saved. -/
structure Reprocessed (student : Student) (done saved : List DeviceEvent) (s s' : DeviceStore) :
    Prop where
  settings : s'.settings = s.settings
  identities : s'.identities = s.identities
  students : s'.students = s.students
  devices : s'.devices = s.devices
  keys : s'.events.map DeviceEvent.key = s.events.map DeviceEvent.key
  event : ∀ w, w ∈ s'.events ↔ (w ∈ s.events ∧ w ∉ done ++ saved) ∨
    ∃ e ∈ done ++ saved, w = e.saved student.eventStatus student.id
  covers : ∀ x, s'.Covers x ↔ s.Covers x ∨ ∃ e ∈ done, ∃ y, student.scan? e = some y ∧
    y.key s.settings = x.key s.settings ∧ y.occurredAt ≤ x.occurredAt
  grounded : s.Grounded → s'.Grounded

section Reprocessed

variable {student : Student} {done done' saved : List DeviceEvent} {s t u : DeviceStore}

theorem Reprocessed.refl (student : Student) (s : DeviceStore) : Reprocessed student [] [] s s :=
  ⟨rfl, rfl, rfl, rfl, rfl, by simp, by simp, fun h => h⟩

theorem covers_congr (h : t.arrivals = s.arrivals) (hs : t.settings = s.settings)
    (x : ArrivalItem) : t.Covers x ↔ s.Covers x := by
  unfold DeviceStore.Covers DeviceStore.arrival?
  rw [h, hs]

theorem mem_items_iff (s : DeviceStore) (x : ArrivalItem) :
    x ∈ s.items ↔ ∃ w ∈ s.events, w.item? = some x := by
  unfold DeviceStore.items
  rw [List.mem_filterMap]

theorem grounded_save (hkeys : (s.events.map DeviceEvent.key).Nodup) (he : e ∈ s.events)
    (hwaiting : e.processingStatus = .unmatched) (hgrounded : s.Grounded) :
    (s.setEvent e.device e.dedupeKey student.eventStatus student.id).Grounded := by
  intro k a ha
  obtain ⟨x, hx, hrest⟩ := hgrounded k a ha
  refine ⟨x, ?_, hrest⟩
  rw [mem_items_iff] at hx ⊢
  obtain ⟨w, hw, hitem⟩ := hx
  refine ⟨w, (mem_setEvent_iff hkeys he _ _ w).mpr (.inr ⟨hw, fun heq => ?_⟩), hitem⟩
  rw [heq, item?_unmatched hwaiting] at hitem
  cases hitem

theorem Reprocessed.save (hkeys : (s.events.map DeviceEvent.key).Nodup) (he : e ∈ s.events)
    (hwaiting : e.processingStatus = .unmatched) (hnone : student.scan? e = none) :
    Reprocessed student [e] [] s
      (s.setEvent e.device e.dedupeKey student.eventStatus student.id) := by
  refine ⟨rfl, rfl, rfl, rfl, keys_setEvent s _ _ _ _, fun w => ?_, fun x => ?_,
    grounded_save hkeys he hwaiting⟩
  · rw [mem_setEvent_iff hkeys he]
    simp only [List.append_nil, List.mem_singleton, exists_eq_left]
    tauto
  · rw [covers_congr (s := s) (t := s.setEvent _ _ _ _) rfl rfl]
    simp [hnone]

theorem Reprocessed.saveOnly (student : Student) (hkeys : (s.events.map DeviceEvent.key).Nodup)
    (he : e ∈ s.events) (hwaiting : e.processingStatus = .unmatched) :
    Reprocessed student [] [e] s
      (s.setEvent e.device e.dedupeKey student.eventStatus student.id) := by
  refine ⟨rfl, rfl, rfl, rfl, keys_setEvent s _ _ _ _, fun w => ?_, fun x => ?_,
    grounded_save hkeys he hwaiting⟩
  · rw [mem_setEvent_iff hkeys he]
    simp only [List.nil_append, List.mem_singleton, exists_eq_left]
    tauto
  · rw [covers_congr (s := s) (t := s.setEvent _ _ _ _) rfl rfl]
    simp

theorem Reprocessed.scan_mem (h : Reprocessed student done saved s t) (he : e ∈ done ++ saved)
    {y : ArrivalItem} (hy : student.scan? e = some y) : y ∈ t.items := by
  rw [mem_items_iff]
  refine ⟨_, (h.event _).mpr (.inr ⟨e, he, rfl⟩), ?_⟩
  rw [item?_saved, hy]

theorem Reprocessed.apply (h : Reprocessed student [] [e] s t) {y : ArrivalItem}
    (hy : student.scan? e = some y) (happlied : Applied [y] t u) :
    Reprocessed student [e] [] s u := by
  have hbeside : ∀ {κ : Type} (f : DeviceStore → κ), (∀ v : DeviceStore, f v.beside = f v) →
      f u = f t := by
    intro κ f hf
    rw [← hf u, happlied.beside, hf]
  refine ⟨happlied.settings.trans h.settings,
    (hbeside (fun v => v.identities) fun _ => rfl).trans h.identities,
    (hbeside (fun v => v.students) fun _ => rfl).trans h.students,
    (hbeside (fun v => v.devices) fun _ => rfl).trans h.devices, ?_, fun w => ?_, fun x => ?_, ?_⟩
  · rw [happlied.events]
    exact h.keys
  · rw [happlied.events]
    exact h.event w
  · rw [happlied.covers_iff, h.covers, h.settings]
    simp [hy]
  · intro hgrounded
    apply happlied.grounded (h.grounded hgrounded)
    intro z hz
    rw [List.mem_singleton.mp hz]
    exact h.scan_mem (by simp) hy

theorem Reprocessed.trans (h : Reprocessed student done [] s t)
    (h' : Reprocessed student done' saved t u)
    (hnew : ∀ e ∈ done, e.saved student.eventStatus student.id ∉ done' ++ saved) :
    Reprocessed student (done ++ done') saved s u := by
  refine ⟨h'.settings.trans h.settings, h'.identities.trans h.identities,
    h'.students.trans h.students, h'.devices.trans h.devices, h'.keys.trans h.keys, fun w => ?_,
    fun x => ?_, fun hg => h'.grounded (h.grounded hg)⟩
  · rw [h'.event, h.event]
    simp only [List.append_nil, List.append_assoc, List.mem_append]
    constructor
    · intro hor
      rcases hor with ⟨⟨hw, hdone⟩ | ⟨e, he, rfl⟩, hnot⟩ | ⟨e, he, rfl⟩
      · exact .inl ⟨hw, by tauto⟩
      · exact .inr ⟨e, .inl he, rfl⟩
      · exact .inr ⟨e, .inr he, rfl⟩
    · intro hor
      rcases hor with ⟨hw, hnot⟩ | ⟨e, he | he, rfl⟩
      · exact .inl ⟨.inl ⟨hw, by tauto⟩, by tauto⟩
      · refine .inl ⟨.inr ⟨e, he, rfl⟩, ?_⟩
        have hnot := hnew e he
        rw [List.mem_append] at hnot
        exact hnot
      · exact .inr ⟨e, he, rfl⟩
  · rw [h'.covers, h.covers, h.settings]
    simp only [List.mem_append, or_and_right, exists_or, or_assoc]

theorem Reprocessed.mem_items_iff (h : Reprocessed student done saved s t)
    (hwaiting : ∀ e ∈ done ++ saved, e.processingStatus = .unmatched) (x : ArrivalItem) :
    x ∈ t.items ↔ x ∈ s.items ∨ ∃ e ∈ done ++ saved, student.scan? e = some x := by
  simp only [SchoolPlatform.mem_items_iff, h.event]
  constructor
  · intro ⟨w, hor, hitem⟩
    rcases hor with ⟨hw, _⟩ | ⟨e, he, rfl⟩
    · exact .inl ⟨w, hw, hitem⟩
    · rw [item?_saved] at hitem
      exact .inr ⟨e, he, hitem⟩
  · intro hor
    rcases hor with ⟨w, hw, hitem⟩ | ⟨e, he, hscan⟩
    · refine ⟨w, .inl ⟨hw, fun hmem => ?_⟩, hitem⟩
      rw [item?_unmatched (hwaiting w hmem)] at hitem
      cases hitem
    · exact ⟨_, .inr ⟨e, he, rfl⟩, by rw [item?_saved, hscan]⟩

end Reprocessed

/-! ## The loop over the waiting events -/

def Student.doneAfter (student : Student) : List DeviceEvent → ℕ → List DeviceEvent
  | [], _ => []
  | _ :: _, 0 => []
  | e :: es, n + 1 =>
    if (student.scan? e).isSome then
      match n with
      | 0 => []
      | m + 1 => e :: student.doneAfter es m
    else e :: student.doneAfter es n

/-- The event that is saved and not applied after some steps of the loop. -/
def Student.openAfter (student : Student) : List DeviceEvent → ℕ → List DeviceEvent
  | [], _ => []
  | _ :: _, 0 => []
  | e :: es, n + 1 =>
    if (student.scan? e).isSome then
      match n with
      | 0 => [e]
      | m + 1 => student.openAfter es m
    else student.openAfter es n

def saveTransaction (event : DeviceEvent) (status : EventProcessingStatus) (student : ℕ) :
    DeviceTransaction Unit := do
  Tx.lockRows .noKeyUpdate [.eventRow event.device event.dedupeKey]
  Tx.update fun s => s.setEvent event.device event.dedupeKey status student

theorem saveTransaction_eval (e : DeviceEvent) (status : EventProcessingStatus) (student : ℕ)
    (s : DeviceStore) : (saveTransaction e status student).eval s =
      .ok ((), s.setEvent e.device e.dedupeKey status student) := rfl

theorem reprocessEvent_steps (student : Student) (e : DeviceEvent) :
    ∃ k : Unit → DeviceOperation Unit,
      reprocessEvent student e =
        .atomic (saveTransaction e student.eventStatus student.id) k ∧
      k () = match student.scan? e with
        | none => .ret ()
        | some y => applyArrivalEvent y := by
  unfold reprocessEvent Student.scan? Student.eventStatus
  by_cases hactive : student.status = .active
  · by_cases htype : e.eventType = checkIn
    · simp only [hactive, htype, ne_eq, not_true_eq_false, if_false, if_true, and_self]
      exact ⟨_, rfl, rfl⟩
    · simp only [hactive, htype, ne_eq, not_true_eq_false, if_false, and_false]
      exact ⟨_, rfl, rfl⟩
  · simp only [hactive, ne_eq, not_false_eq_true, if_true, false_and, if_false]
    exact ⟨_, rfl, rfl⟩

/-- What the loop finds: the events are stored, wait, and are different. -/
structure Waiting (s : DeviceStore) (es : List DeviceEvent) : Prop where
  keys : (s.events.map DeviceEvent.key).Nodup
  mem : ∀ e ∈ es, e ∈ s.events ∧ e.processingStatus = .unmatched
  nodup : es.Nodup

theorem Student.eventStatus_ne (student : Student) : student.eventStatus ≠ .unmatched := by
  unfold Student.eventStatus
  split <;> decide

theorem Waiting.tail {student : Student} {s t : DeviceStore} (h : Waiting s (e :: es))
    (hstep : Reprocessed student [e] [] s t) : Waiting t es := by
  obtain ⟨hnot, hnodup⟩ := List.nodup_cons.mp h.nodup
  refine ⟨?_, fun w hw => ?_, hnodup⟩
  · rw [hstep.keys]
    exact h.keys
  · have hw' := h.mem w (List.mem_cons_of_mem _ hw)
    refine ⟨(hstep.event w).mpr (.inl ⟨hw'.1, ?_⟩), hw'.2⟩
    simp only [List.append_nil, List.mem_singleton]
    intro heq
    rw [heq] at hw
    exact hnot hw

theorem Waiting.saved_not_mem {s : DeviceStore} (h : Waiting s es) (student : Student)
    (e : DeviceEvent) : e.saved student.eventStatus student.id ∉ es :=
  fun hmem => student.eventStatus_ne (h.mem _ hmem).2

theorem Student.doneAfter_append_sublist (student : Student) (es : List DeviceEvent) (n : ℕ) :
    (student.doneAfter es n ++ student.openAfter es n).Sublist es := by
  induction es generalizing n with
  | nil => exact List.Sublist.refl _
  | cons w es ih =>
    cases n with
    | zero => exact List.nil_sublist _
    | succ n =>
      unfold Student.doneAfter Student.openAfter
      by_cases hscan : (student.scan? w).isSome
      · simp only [if_pos hscan]
        cases n with
        | zero => exact (List.nil_sublist es).cons_cons w
        | succ m => exact (ih m).cons_cons w
      · simp only [if_neg hscan]
        exact (ih n).cons_cons w

theorem Student.mem_doneAfter_append {student : Student} {n : ℕ}
    (h : e ∈ student.doneAfter es n ++ student.openAfter es n) : e ∈ es :=
  (student.doneAfter_append_sublist es n).subset h

theorem Student.openAfter_unique (student : Student) (es : List DeviceEvent) (n : ℕ) :
    ∀ e ∈ student.openAfter es n, ∀ w ∈ student.openAfter es n, w = e := by
  induction es generalizing n with
  | nil => simp [Student.openAfter]
  | cons v es ih =>
    cases n with
    | zero => simp [Student.openAfter]
    | succ n =>
      unfold Student.openAfter
      by_cases hscan : (student.scan? v).isSome
      · simp only [if_pos hscan]
        cases n with
        | zero => simp
        | succ m => exact ih m
      · simp only [if_neg hscan]
        exact ih n

theorem reprocess_stopAfter (student : Student) {s : DeviceStore} (h : Waiting s es) (n : ℕ) :
    Reprocessed student (student.doneAfter es n) (student.openAfter es n) s
      ((Program.forEach (reprocessEvent student) es).stopAfter n s) := by
  induction es generalizing s n with
  | nil =>
    have hended : (Program.forEach (reprocessEvent student) []).Ended := trivial
    rw [hended.stopAfter]
    exact Reprocessed.refl student s
  | cons e es ih =>
    obtain ⟨he, hwaiting⟩ := h.mem e List.mem_cons_self
    obtain ⟨k, heq, hk⟩ := reprocessEvent_steps student e
    have hadvance : (Program.forEach (reprocessEvent student) (e :: es)).advance s =
        ((k ()).bind fun _ => Program.forEach (reprocessEvent student) es,
          s.setEvent e.device e.dedupeKey student.eventStatus student.id) := by
      show ((reprocessEvent student e).bind fun _ =>
        Program.forEach (reprocessEvent student) es).advance s = _
      rw [heq]
      simp only [Program.bind, Program.advance, Tx.outcome, saveTransaction_eval]
    have hrest : ∀ {t : DeviceStore} (m : ℕ), Reprocessed student [e] [] s t →
        Reprocessed student (e :: student.doneAfter es m) (student.openAfter es m) s
          ((Program.forEach (reprocessEvent student) es).stopAfter m t) := by
      intro t m hstep
      refine hstep.trans (ih (h.tail hstep) m) fun w _ hmem => ?_
      exact (h.tail hstep).saved_not_mem student w (Student.mem_doneAfter_append hmem)
    cases n with
    | zero => exact Reprocessed.refl student s
    | succ n =>
      rw [Program.stopAfter, hadvance, hk]
      unfold Student.doneAfter Student.openAfter
      cases hscan : student.scan? e with
      | none =>
        simp only [Option.isSome_none, Bool.false_eq_true, if_false]
        exact hrest n (Reprocessed.save h.keys he hwaiting hscan)
      | some y =>
        simp only [Option.isSome_some, if_true]
        have hsaved := Reprocessed.saveOnly student h.keys he hwaiting
        cases n with
        | zero => exact hsaved
        | succ m =>
          obtain ⟨u, heval', happlied⟩ := itemTransaction_eval y
            (s.setEvent e.device e.dedupeKey student.eventStatus student.id)
          have hadvance' : ((applyArrivalEvent y).bind fun _ =>
              Program.forEach (reprocessEvent student) es).advance
                (s.setEvent e.device e.dedupeKey student.eventStatus student.id) =
              (Program.forEach (reprocessEvent student) es, u) := by
            rw [applyArrivalEvent_eq]
            simp only [Program.bind, Program.advance, Tx.outcome, heval']
          rw [Program.stopAfter, hadvance']
          exact hrest m (hsaved.apply hscan happlied)

theorem reprocess_run (student : Student) {s : DeviceStore} (h : Waiting s es) :
    ∃ s', (Program.forEach (reprocessEvent student) es).run s = (.ok (), s') ∧
      Reprocessed student es [] s s' := by
  induction es generalizing s with
  | nil => exact ⟨s, rfl, Reprocessed.refl student s⟩
  | cons e es ih =>
    obtain ⟨he, hwaiting⟩ := h.mem e List.mem_cons_self
    obtain ⟨k, heq, hk⟩ := reprocessEvent_steps student e
    have hrun : (Program.forEach (reprocessEvent student) (e :: es)).run s =
        ((k ()).bind fun _ => Program.forEach (reprocessEvent student) es).run
          (s.setEvent e.device e.dedupeKey student.eventStatus student.id) := by
      show ((reprocessEvent student e).bind fun _ =>
        Program.forEach (reprocessEvent student) es).run s = _
      rw [heq]
      simp only [Program.bind, Program.run, saveTransaction_eval]
    have hrest : ∀ {t : DeviceStore}, Reprocessed student [e] [] s t →
        ∃ s', (Program.forEach (reprocessEvent student) es).run t = (.ok (), s') ∧
          Reprocessed student (e :: es) [] s s' := by
      intro t hstep
      obtain ⟨s', hs', hre⟩ := ih (h.tail hstep)
      refine ⟨s', hs', hstep.trans hre fun w _ hmem => ?_⟩
      rw [List.append_nil] at hmem
      exact (h.tail hstep).saved_not_mem student w hmem
    rw [hrun, hk]
    cases hscan : student.scan? e with
    | none => exact hrest (Reprocessed.save h.keys he hwaiting hscan)
    | some y =>
      have hsaved := Reprocessed.saveOnly student h.keys he hwaiting
      obtain ⟨u, heval', happlied⟩ := itemTransaction_eval y
        (s.setEvent e.device e.dedupeKey student.eventStatus student.id)
      have hrun' : ((applyArrivalEvent y).bind fun _ =>
          Program.forEach (reprocessEvent student) es).run
            (s.setEvent e.device e.dedupeKey student.eventStatus student.id) =
          (Program.forEach (reprocessEvent student) es).run u := by
        rw [applyArrivalEvent_eq]
        simp only [Program.bind, Program.run, heval']
      simp only
      rw [hrun']
      exact hrest (hsaved.apply hscan happlied)

theorem mem_waitingEvents_iff (s : DeviceStore) (device : ℤ) (user : Text) (e : DeviceEvent) :
    e ∈ s.waitingEvents device user ↔ e ∈ s.events ∧ e.device = device ∧
      e.externalUserId = user ∧ e.processingStatus = .unmatched := by
  unfold DeviceStore.waitingEvents
  rw [List.mem_insertionSort, List.mem_filter, decide_eq_true_eq]

theorem waiting_waitingEvents {s : DeviceStore} (hkeys : (s.events.map DeviceEvent.key).Nodup)
    (device : ℤ) (user : Text) : Waiting s (s.waitingEvents device user) := by
  refine ⟨hkeys, fun e he => ?_, ?_⟩
  · have hmem := (mem_waitingEvents_iff s device user e).mp he
    exact ⟨hmem.1, hmem.2.2.2⟩
  · unfold DeviceStore.waitingEvents
    rw [(List.perm_insertionSort _ _).nodup_iff]
    exact hkeys.of_map.filter _

theorem identity?_setIdentity (s : DeviceStore) (m : StudentDeviceIdentity) (device : ℤ)
    (user : Text) : (s.setIdentity m).identity? device user =
      if device = m.device ∧ user = m.externalUserId then (s.identity? device user).map fun _ => m
      else s.identity? device user := by
  unfold DeviceStore.setIdentity DeviceStore.identity?
  induction s.identities with
  | nil => simp
  | cons i rows ih =>
    by_cases hi : i.device = m.device ∧ i.externalUserId = m.externalUserId
    · by_cases hk : device = m.device ∧ user = m.externalUserId
      · simp [hi, hk]
      · have hne : ¬(m.device = device ∧ m.externalUserId = user) :=
          fun h => hk ⟨h.1.symm, h.2.symm⟩
        have hne' : ¬(i.device = device ∧ i.externalUserId = user) := by
          rw [hi.1, hi.2]
          exact hne
        simp only [List.map_cons, if_pos hi, List.find?_cons, hne, hne', decide_false]
        exact ih
    · by_cases hk : i.device = device ∧ i.externalUserId = user
      · have hne : ¬(device = m.device ∧ user = m.externalUserId) := by
          rw [← hk.1, ← hk.2]
          exact hi
        simp [hk, hne]
      · simp only [List.map_cons, if_neg hi, List.find?_cons, hk, decide_false]
        exact ih

theorem identity?_key {s : DeviceStore} {device : ℤ} {user : Text} {i : StudentDeviceIdentity}
    (h : s.identity? device user = some i) : i.device = device ∧ i.externalUserId = user := by
  have hkey := List.find?_some h
  simpa using hkey

/-- **Mapping a user as a run**: it fails without a change, or matches the identity and goes through
the waiting events of the user. -/
theorem mapIdentity_run {s : DeviceStore} (hkeys : (s.events.map DeviceEvent.key).Nodup)
    (device : ℤ) (user : Text) (studentId : ℕ) :
    ((mapIdentity device user studentId).run s).2 = s ∨
      ∃ identity student, s.identity? device user = some identity ∧
        s.student? studentId = some student ∧
        Reprocessed student (s.waitingEvents device user) []
          (s.setIdentity { identity with student := some student.id, status := .matched })
          ((mapIdentity device user studentId).run s).2 := by
  unfold mapIdentity
  simp only [Program.bind_eq, Program.run_bind, Program.read, Program.run]
  cases hidentity : s.identity? device user with
  | none => exact .inl rfl
  | some identity =>
    simp only [Program.run_bind, Program.run]
    cases hstudent : s.student? studentId with
    | none => exact .inl rfl
    | some student =>
      right
      refine ⟨identity, student, rfl, rfl, ?_⟩
      have hkey := identity?_key hidentity
      have hmapped : ∀ m : StudentDeviceIdentity, m.device = device → m.externalUserId = user →
          m.status = .matched → m.student ≠ none →
            Reprocessed student (s.waitingEvents device user) [] (s.setIdentity m)
              ((reprocessUnmatched m student).run (s.setIdentity m)).2 := by
        intro m hdevice huser hstatus howner
        have hwaiting : Waiting (s.setIdentity m) (s.waitingEvents device user) := by
          have hwaiting := waiting_waitingEvents hkeys device user
          exact ⟨hwaiting.keys, hwaiting.mem, hwaiting.nodup⟩
        obtain ⟨s', hrun, hre⟩ := reprocess_run student hwaiting
        unfold reprocessUnmatched
        simp only [hstatus, ne_eq, not_true_eq_false, howner, or_self, if_false, hdevice, huser]
        show Reprocessed student _ [] _ (((Program.forEach (reprocessEvent student)
          (s.waitingEvents device user)).bind
            fun _ => Program.ret (s.waitingEvents device user).length).run (s.setIdentity m)).2
        rw [Program.run_bind, hrun]
        exact hre
      exact hmapped _ hkey.1 hkey.2 rfl (by simp)

end SchoolPlatform
