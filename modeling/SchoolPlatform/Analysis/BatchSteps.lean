import SchoolPlatform.Analysis.ArrivalFacts

/-!
# What a batch does

The rows a batch inserts (`FreshRows`): one for each key it brings that is not stored, with the
status its user's identity gives. With nobody else at work the batch is three committed steps:
the rows are inserted, their scans are applied, and unknown users get an identity.
-/

namespace SchoolPlatform

open ReadCommitted

/-! ## The rows of a batch -/

def DeviceEvent.key (event : DeviceEvent) : ℤ × DedupeKey := (event.device, event.dedupeKey)

abbrev IdentityTable := List (StudentDeviceIdentity × Option StudentStatus)

def identityOf (identities : IdentityTable) (device : ℤ) (user : Text) :
    Option (StudentDeviceIdentity × Option StudentStatus) :=
  identities.find? fun i => i.1.device = device ∧ i.1.externalUserId = user

inductive RowStatus (found : Option (StudentDeviceIdentity × Option StudentStatus))
    (row : DeviceEvent) : Prop
  | waiting (student : row.student = none) (status : row.processingStatus = .unmatched)
      (unmatched : ∀ i, found = some i → i.1.status ≠ .matched)
  | matched (identity : StudentDeviceIdentity) (student : ℕ) (standing : StudentStatus)
      (known : found = some (identity, some standing)) (status : identity.status = .matched)
      (owner : identity.student = some student) (rowStudent : row.student = some student)
      (rowStatus : row.processingStatus = if standing ≠ .active then .ignored else .processed)

structure RowOf (found : Option (StudentDeviceIdentity × Option StudentStatus)) (data : EventData)
    (key : DedupeKey) (row : DeviceEvent) : Prop where
  device : row.device = data.deviceId
  key : row.dedupeKey = key
  user : row.externalUserId = data.user
  occurredAt : row.occurredAt = data.occurredAt
  eventType : row.eventType = data.eventType.take 20
  status : RowStatus found row

theorem classifyRow_eq_some {identities : IdentityTable} {data : EventData} {key : DedupeKey}
    {slot : Slot} (h : classifyRow identities data key = some slot) :
    ∃ row, slot.row? = some row ∧
      RowOf (identityOf identities data.deviceId data.user) data key row := by
  unfold classifyRow at h
  cases hfind : identityOf identities data.deviceId data.user with
  | none =>
    unfold identityOf at hfind
    simp only [hfind] at h
    cases h
    exact ⟨_, rfl, rfl, rfl, rfl, rfl, rfl, .waiting rfl rfl (by simp)⟩
  | some i =>
    obtain ⟨identity, standing⟩ := i
    unfold identityOf at hfind
    simp only [hfind] at h
    by_cases hmatched : identity.status = .matched
    · simp only [hmatched, ne_eq, not_true_eq_false, if_false] at h
      cases hstudent : identity.student with
      | none => simp [hstudent] at h
      | some student =>
        cases standing with
        | none => simp [hstudent] at h
        | some standing =>
          simp only [hstudent] at h
          cases h
          exact ⟨_, rfl, rfl, rfl, rfl, rfl, rfl,
            .matched identity student standing rfl hmatched hstudent rfl rfl⟩
    · simp only [ne_eq, hmatched, not_false_eq_true, if_true] at h
      cases h
      refine ⟨_, rfl, rfl, rfl, rfl, rfl, rfl, .waiting rfl rfl ?_⟩
      intro i hi
      rw [← Option.some.inj hi]
      exact hmatched

/-- Some rows are what a batch adds: one for each of its keys that is not known. -/
structure FreshRows (existing : List (ℤ × DedupeKey)) (identities : IdentityTable)
    (seen : List (ℤ × DedupeKey)) (prepared : List Prepared) (rows : List DeviceEvent) : Prop where
  nodup : (rows.map DeviceEvent.key).Nodup
  fresh : ∀ row ∈ rows, row.key ∉ existing ∧ row.key ∉ seen
  origin : ∀ row ∈ rows, ∃ data key, Prepared.event data key ∈ prepared ∧
    RowOf (identityOf identities data.deviceId data.user) data key row
  complete : ∀ data key, Prepared.event data key ∈ prepared →
    (data.deviceId, key) ∈ existing ∨ (data.deviceId, key) ∈ seen ∨
      ∃ row ∈ rows, row.key = (data.deviceId, key)

theorem classify_rows {existing : List (ℤ × DedupeKey)} {identities : IdentityTable}
    {seen : List (ℤ × DedupeKey)} {prepared : List Prepared} {slots : List Slot}
    (h : classify existing identities seen prepared = some slots) :
    FreshRows existing identities seen prepared (slots.filterMap Slot.row?) := by
  induction prepared generalizing seen slots with
  | nil =>
    simp only [classify] at h
    cases h
    exact ⟨List.nodup_nil, by simp, by simp, by simp⟩
  | cons p rest ih =>
    cases p with
    | rejected reason =>
      simp only [classify, Option.bind_eq_bind, Option.bind_eq_some_iff, Option.pure_def,
        Option.some.injEq] at h
      obtain ⟨slots', hrest, rfl⟩ := h
      have hrows := ih hrest
      refine ⟨hrows.nodup, hrows.fresh, fun row hrow => ?_, fun data key hmem => ?_⟩
      · obtain ⟨data, key, hmem, hof⟩ := hrows.origin row hrow
        exact ⟨data, key, List.mem_cons_of_mem _ hmem, hof⟩
      · apply hrows.complete data key
        simpa using hmem
    | event data key =>
      unfold classify at h
      by_cases hknown : (data.deviceId, key) ∈ existing ∨ (data.deviceId, key) ∈ seen
      · simp only [if_pos hknown, Option.bind_eq_bind, Option.bind_eq_some_iff, Option.pure_def,
          Option.some.injEq] at h
        obtain ⟨slots', hrest, rfl⟩ := h
        have hrows := ih hrest
        refine ⟨hrows.nodup, hrows.fresh, fun row hrow => ?_, fun data' key' hmem => ?_⟩
        · obtain ⟨data', key', hmem, hof⟩ := hrows.origin row hrow
          exact ⟨data', key', List.mem_cons_of_mem _ hmem, hof⟩
        · rcases List.mem_cons.mp hmem with heq | hold
          · simp only [Prepared.event.injEq] at heq
            rw [heq.1, heq.2]
            rcases hknown with hexisting | hseen
            · exact .inl hexisting
            · exact .inr (.inl hseen)
          · exact hrows.complete data' key' hold
      · simp only [if_neg hknown, Option.bind_eq_bind, Option.bind_eq_some_iff, Option.pure_def,
          Option.some.injEq] at h
        obtain ⟨slot, hslot, slots', hrest, rfl⟩ := h
        obtain ⟨row, hrow, hof⟩ := classifyRow_eq_some hslot
        have hrows := ih hrest
        have hkey : row.key = (data.deviceId, key) := Prod.ext hof.device hof.key
        rw [List.filterMap_cons_some hrow]
        push Not at hknown
        refine ⟨?_, ?_, ?_, ?_⟩
        · rw [List.map_cons, List.nodup_cons]
          refine ⟨fun hmem => ?_, hrows.nodup⟩
          obtain ⟨other, hother, heq⟩ := List.mem_map.mp hmem
          have hnot := (hrows.fresh other hother).2
          rw [heq, hkey] at hnot
          exact hnot List.mem_cons_self
        · intro r hr
          rcases List.mem_cons.mp hr with rfl | hr
          · rw [hkey]
            exact hknown
          · have hnot := hrows.fresh r hr
            exact ⟨hnot.1, fun hm => hnot.2 (List.mem_cons_of_mem _ hm)⟩
        · intro r hr
          rcases List.mem_cons.mp hr with rfl | hr
          · exact ⟨data, key, List.mem_cons_self, hof⟩
          · obtain ⟨data', key', hmem, hof'⟩ := hrows.origin r hr
            exact ⟨data', key', List.mem_cons_of_mem _ hmem, hof'⟩
        · intro data' key' hmem
          rcases List.mem_cons.mp hmem with heq | hold
          · simp only [Prepared.event.injEq] at heq
            rw [heq.1, heq.2]
            exact .inr (.inr ⟨row, List.mem_cons_self, hkey⟩)
          · rcases hrows.complete data' key' hold with hexisting | hseen | ⟨r, hr, hrkey⟩
            · exact .inl hexisting
            · rcases List.mem_cons.mp hseen with heq | hseen
              · exact .inr (.inr ⟨row, List.mem_cons_self, by rw [hkey, heq]⟩)
              · exact .inr (.inl hseen)
            · exact .inr (.inr ⟨r, List.mem_cons_of_mem _ hr, hrkey⟩)

theorem discovered_nil {slots : List Slot} (h : slots.filterMap Slot.row? = []) :
    slots.filterMap Slot.discovered? = [] := by
  rw [List.filterMap_eq_nil_iff] at h ⊢
  intro slot hslot
  have hrow := h slot hslot
  cases slot with
  | done result => rfl
  | row event result discovered => cases hrow

/-! ## The queries of a batch -/

def DeviceStore.knownKeys (s : DeviceStore) (groups : List (ℤ × List (ℤ × DedupeKey))) :
    List (ℤ × DedupeKey) :=
  groups.flatMap fun g => g.2.filter fun k => (s.event? g.1 k.2).isSome

theorem existingKeys_answers (groups : List (ℤ × List (ℤ × DedupeKey))) (s : DeviceStore) :
    (existingKeys groups).Answers s (s.knownKeys groups) := by
  induction groups with
  | nil => exact rfl
  | cons g groups ih =>
    obtain ⟨device, keys⟩ := g
    show ((existingKeys groups).bind fun others => Program.ret
      ((keys.filter fun k => (s.event? device k.2).isSome) ++ others)).Answers s _
    exact ih.bind rfl

theorem mem_knownKeys_iff (s : DeviceStore) (keys : List (ℤ × DedupeKey)) (k : ℤ × DedupeKey) :
    k ∈ s.knownKeys (Dict.groupBy Prod.fst keys) ↔ k ∈ keys ∧ (s.event? k.1 k.2).isSome := by
  unfold DeviceStore.knownKeys
  simp only [List.mem_flatMap, List.mem_filter]
  have hnodup := Dict.nodup_keys_groupBy Prod.fst keys
  have hgroup : ∀ g ∈ Dict.groupBy Prod.fst keys, g.2 = keys.filter fun k => k.1 = g.1 := by
    intro g hg
    have hget := (Dict.mem_iff_get? hnodup g.1 g.2).mp hg
    rw [Dict.get?_groupBy] at hget
    split at hget
    · cases hget
    · exact (Option.some.inj hget).symm
  constructor
  · intro ⟨g, hg, hk, hsome⟩
    rw [hgroup g hg] at hk
    simp only [List.mem_filter, decide_eq_true_eq] at hk
    rw [hk.2]
    exact ⟨hk.1, hsome⟩
  · intro ⟨hk, hsome⟩
    have hkey := (Dict.mem_keys_groupBy Prod.fst keys k.1).mpr ⟨k, hk, rfl⟩
    obtain ⟨v, hv⟩ := (Dict.mem_keys_iff k.1).mp hkey
    have hmem := (Dict.mem_iff_get? hnodup k.1 v).mpr hv
    have hv' : v = keys.filter fun j => j.1 = k.1 := hgroup _ hmem
    refine ⟨(k.1, v), hmem, ?_, hsome⟩
    rw [hv']
    simp [hk]

def DeviceStore.activeDevices (s : DeviceStore) : List ℤ :=
  (s.devices.filter fun d => d.isActive).map fun d => d.id

def DeviceStore.preparedOf (s : DeviceStore) (clock : DateTimeStr) (now : Instant)
    (events : List EventData) : List Prepared :=
  (events.take maxBatchSize).map (prepare clock s.activeDevices now)

def DeviceStore.slotsOf (s : DeviceStore) (clock : DateTimeStr) (now : Instant)
    (events : List EventData) : Option (List Slot) :=
  let prepared := s.preparedOf clock now events
  classify (s.knownKeys (Dict.groupBy Prod.fst (prepared.filterMap Prepared.key?)))
    (s.identitiesOf (prepared.filterMap Prepared.user?)) [] prepared

def afterQueries : Option (List Slot) → DeviceOperation (List IngestResult)
  | none => .raise (.doesNotExist "Student")
  | some slots => processSlots slots

section Queries

variable (clock : DateTimeStr) (now : Instant) (events : List EventData) (s : DeviceStore)

theorem ingestBatch_advance : (ingestBatch clock now events).advance s =
    (afterQueries (s.slotsOf clock now events)).advance s := by
  have hkeys := existingKeys_answers (Dict.groupBy Prod.fst
    ((s.preparedOf clock now events).filterMap Prepared.key?)) s
  refine (hkeys.advance_bind _).trans ?_
  show (match s.slotsOf clock now events with
    | none => Program.raise (Failure.doesNotExist "Student")
    | some slots => processSlots slots).advance s = _
  cases s.slotsOf clock now events <;> rfl

theorem ingestBatch_run : (ingestBatch clock now events).run s =
    (afterQueries (s.slotsOf clock now events)).run s := by
  have hkeys := existingKeys_answers (Dict.groupBy Prod.fst
    ((s.preparedOf clock now events).filterMap Prepared.key?)) s
  refine (hkeys.run_bind _).trans ?_
  show (match s.slotsOf clock now events with
    | none => Program.raise (Failure.doesNotExist "Student")
    | some slots => processSlots slots).run s = _
  cases s.slotsOf clock now events <;> rfl

theorem identityOf_identitiesOf (users : List (ℤ × Text)) {device : ℤ} {user : Text}
    (h : (device, user) ∈ users) :
    identityOf (s.identitiesOf users) device user = (s.identity? device user).map fun i =>
      (i, i.student.bind fun id => (s.student? id).map fun x => x.status) := by
  have hdevice : device ∈ users.map Prod.fst := List.mem_map_of_mem (f := Prod.fst) h
  have huser : user ∈ users.map Prod.snd := List.mem_map_of_mem (f := Prod.snd) h
  unfold identityOf DeviceStore.identitiesOf DeviceStore.identity?
  rw [List.find?_map, List.find?_filter]
  congr 2
  funext i
  simp only [Function.comp]
  by_cases hi : i.device = device ∧ i.externalUserId = user
  · simp [hi, hdevice, huser]
  · simp [hi]

end Queries

structure DeviceStore.Accepts (s : DeviceStore) (now : Instant) (data : EventData) : Prop where
  device : data.deviceId ∈ s.activeDevices
  user : Text.strip data.externalUserId ≠ []
  time : data.occurredAt ≤ now + futureSkew

theorem mem_preparedOf_iff (s : DeviceStore) (clock : DateTimeStr) (now : Instant)
    (events : List EventData) (data : EventData) (key : DedupeKey) :
    Prepared.event data key ∈ s.preparedOf clock now events ↔
      data ∈ events.take maxBatchSize ∧ s.Accepts now data ∧ key = dedupeKey clock data := by
  have hprepare : ∀ x, prepare clock s.activeDevices now x = .event data key ↔
      x = data ∧ s.Accepts now data ∧ key = dedupeKey clock data := by
    intro x
    unfold prepare
    split
    · rename_i hdevice
      simp only [reduceCtorEq, false_iff]
      intro ⟨hx, haccepts, _⟩
      rw [hx] at hdevice
      exact hdevice haccepts.device
    · split
      · rename_i huser
        simp only [reduceCtorEq, false_iff]
        intro ⟨hx, haccepts, _⟩
        rw [hx] at huser
        exact haccepts.user huser
      · split
        · rename_i htime
          simp only [reduceCtorEq, false_iff]
          intro ⟨hx, haccepts, _⟩
          rw [hx] at htime
          exact absurd haccepts.time (not_le.mpr htime)
        · rename_i hdevice huser htime
          simp only [Prepared.event.injEq]
          constructor
          · intro ⟨hx, hkey⟩
            subst hx
            exact ⟨rfl, ⟨not_not.mp hdevice, huser, not_lt.mp htime⟩, hkey.symm⟩
          · intro ⟨hx, _, hkey⟩
            subst hx
            exact ⟨rfl, hkey.symm⟩
  unfold DeviceStore.preparedOf
  rw [List.mem_map]
  constructor
  · intro ⟨x, hx, heq⟩
    have hx' := (hprepare x).mp heq
    rw [hx'.1] at hx
    exact ⟨hx, hx'.2⟩
  · intro ⟨hmem, haccepts, hkey⟩
    exact ⟨data, hmem, (hprepare data).mpr ⟨rfl, haccepts, hkey⟩⟩

def DeviceStore.standingOf (s : DeviceStore) (device : ℤ) (user : Text) :
    Option (StudentDeviceIdentity × Option StudentStatus) :=
  (s.identity? device user).map fun i =>
    (i, i.student.bind fun id => (s.student? id).map fun x => x.status)

structure NewRows (s : DeviceStore) (clock : DateTimeStr) (now : Instant) (events : List EventData)
    (rows : List DeviceEvent) : Prop where
  nodup : (rows.map DeviceEvent.key).Nodup
  absent : ∀ row ∈ rows, s.event? row.device row.dedupeKey = none
  origin : ∀ row ∈ rows, ∃ data ∈ events.take maxBatchSize, s.Accepts now data ∧
    RowOf (s.standingOf data.deviceId data.user) data (dedupeKey clock data) row
  complete : ∀ data ∈ events.take maxBatchSize, s.Accepts now data →
    (s.event? data.deviceId (dedupeKey clock data)).isSome ∨
      ∃ row ∈ rows, row.key = (data.deviceId, dedupeKey clock data)

theorem slotsOf_newRows {s : DeviceStore} {clock : DateTimeStr} {now : Instant}
    {events : List EventData} {slots : List Slot} (h : s.slotsOf clock now events = some slots) :
    NewRows s clock now events (slots.filterMap Slot.row?) := by
  have hrows := classify_rows h
  have hmem := mem_preparedOf_iff s clock now events
  have hknown : ∀ data key, Prepared.event data key ∈ s.preparedOf clock now events →
      ((data.deviceId, key) ∈ s.knownKeys (Dict.groupBy Prod.fst
        ((s.preparedOf clock now events).filterMap Prepared.key?)) ↔
          (s.event? data.deviceId key).isSome) := by
    intro data key hprepared
    rw [mem_knownKeys_iff]
    exact and_iff_right (List.mem_filterMap.mpr ⟨_, hprepared, rfl⟩)
  refine ⟨hrows.nodup, fun row hrow => ?_, fun row hrow => ?_, fun data hdata haccepts => ?_⟩
  · obtain ⟨data, key, hprepared, hof⟩ := hrows.origin row hrow
    have hkey : row.key = (data.deviceId, key) := Prod.ext hof.device hof.key
    have hnot := (hrows.fresh row hrow).1
    rw [hkey, hknown data key hprepared] at hnot
    rw [hof.device, hof.key]
    simpa using hnot
  · obtain ⟨data, key, hprepared, hof⟩ := hrows.origin row hrow
    obtain ⟨hdata, haccepts, hkey⟩ := (hmem data key).mp hprepared
    refine ⟨data, hdata, haccepts, ?_⟩
    rw [← hkey]
    have huser : (data.deviceId, data.user) ∈
        (s.preparedOf clock now events).filterMap Prepared.user? :=
      List.mem_filterMap.mpr ⟨_, hprepared, rfl⟩
    rw [identityOf_identitiesOf s _ huser] at hof
    exact hof
  · have hprepared := (hmem data _).mpr ⟨hdata, haccepts, rfl⟩
    rcases hrows.complete data _ hprepared with hexisting | hseen | hnew
    · exact .inl ((hknown data _ hprepared).mp hexisting)
    · cases hseen
    · exact .inr hnew

theorem items_addEvents (s : DeviceStore) (rows : List DeviceEvent) :
    (s.addEvents rows).items = s.items ++ rows.filterMap DeviceEvent.item? :=
  List.filterMap_append

theorem event?_addEvents {s : DeviceStore} {device : ℤ} {key : DedupeKey}
    (h : (s.event? device key).isSome) (rows : List DeviceEvent) :
    ((s.addEvents rows).event? device key).isSome := by
  unfold DeviceStore.event? DeviceStore.addEvents at *
  rw [List.find?_append, Option.isSome_or, h]
  rfl

theorem event?_addEvents_of_mem {s : DeviceStore} {device : ℤ} {key : DedupeKey}
    {rows : List DeviceEvent} {row : DeviceEvent} (h : row ∈ rows) (hkey : row.key = (device, key)) :
    ((s.addEvents rows).event? device key).isSome := by
  unfold DeviceStore.event? DeviceStore.addEvents
  rw [List.find?_isSome]
  exact ⟨row, List.mem_append_right _ h, by simpa [DeviceEvent.key] using hkey⟩

theorem grounded_addEvents {s : DeviceStore} (h : s.Grounded) (rows : List DeviceEvent) :
    (s.addEvents rows).Grounded := by
  intro k a ha
  obtain ⟨item, hitem, hrest⟩ := h k a ha
  refine ⟨item, ?_, hrest⟩
  rw [items_addEvents]
  exact List.mem_append_left _ hitem

theorem EarliestWins.addRows {s s₂ : DeviceStore} (h : EarliestWins s) {rows : List DeviceEvent}
    (happlied : Applied (rows.filterMap DeviceEvent.item?) (s.addEvents rows) s₂) :
    EarliestWins s₂ := by
  constructor
  · apply happlied.grounded (grounded_addEvents h.grounded rows)
    rw [items_addEvents]
    exact List.subset_append_right _ _
  · intro x hx
    rw [happlied.items_eq, items_addEvents, List.mem_append] at hx
    rcases hx with hold | hnew
    · exact (happlied.covers_iff x).mpr (.inl (h.covered x hold))
    · exact happlied.covers hnew

/-! ## The steps of a batch -/

theorem reserveEvents_eval {rows : List DeviceEvent} {s : DeviceStore}
    (h : ∀ row ∈ rows, s.event? row.device row.dedupeKey = none) :
    (reserveEvents rows).eval s = .ok (true, s) := by
  induction rows with
  | nil => rfl
  | cons row rows ih =>
    have hrow := h row List.mem_cons_self
    have hrest := ih fun r hr => h r (List.mem_cons_of_mem _ hr)
    unfold reserveEvents
    simp only [Tx.bind_eq, Tx.eval_bind, Tx.eval_lockRows, Tx.eval_select, hrow]
    exact hrest

theorem insertEvents_eval {rows : List DeviceEvent} {s : DeviceStore}
    (h : ∀ row ∈ rows, s.event? row.device row.dedupeKey = none) :
    (insertEvents rows).eval s = .ok (true, s.addEvents rows) := by
  unfold insertEvents
  simp only [Tx.bind_eq, Tx.eval_bind, reserveEvents_eval h]
  rfl

def DeviceStore.withoutIdentities (s : DeviceStore) : DeviceStore := { s with identities := [] }

theorem DeviceStore.withoutIdentities_addIdentity (s : DeviceStore)
    (identity : StudentDeviceIdentity) :
    (s.addIdentity identity).withoutIdentities = s.withoutIdentities := by
  unfold addIdentity
  split <;> rfl

theorem discoverIdentities_keeps (users : List (ℤ × Text)) :
    (discoverIdentities users).Keeps DeviceStore.withoutIdentities := by
  unfold discoverIdentities
  split
  · trivial
  · refine ⟨?_, fun _ => trivial⟩
    apply Tx.Keeps.forEach
    intro u
    exact ⟨fun s => DeviceStore.withoutIdentities_addIdentity s _, trivial⟩

def afterInsertion (slots : List Slot) : DeviceOperation (List IngestResult) :=
  (applyArrivalEventsBulk ((slots.filterMap Slot.row?).filterMap DeviceEvent.item?)).bind fun _ =>
    (discoverIdentities (slots.filterMap Slot.discovered?).dedup).bind fun _ =>
      .ret (slots.map Slot.result)

theorem processSlots_nil {slots : List Slot} (h : slots.filterMap Slot.row? = []) :
    processSlots slots = .ret (slots.map Slot.result) := by
  unfold processSlots storeEvents
  rw [if_pos h, discovered_nil h]
  rfl

theorem processSlots_eq {slots : List Slot} (h : slots.filterMap Slot.row? ≠ []) :
    ∃ k : Bool → DeviceOperation (List IngestResult),
      processSlots slots = .atomic (insertEvents (slots.filterMap Slot.row?)) k ∧
        k true = afterInsertion slots := by
  unfold processSlots storeEvents
  rw [if_neg h]
  exact ⟨_, rfl, rfl⟩

def afterApplication (slots : List Slot) : DeviceOperation (List IngestResult) :=
  (discoverIdentities (slots.filterMap Slot.discovered?).dedup).bind fun _ =>
    .ret (slots.map Slot.result)

theorem afterApplication_keeps (slots : List Slot) :
    (afterApplication slots).Keeps DeviceStore.withoutIdentities :=
  (discoverIdentities_keeps _).bind fun _ => trivial

def scansOf (slots : List Slot) : List ArrivalItem :=
  (slots.filterMap Slot.row?).filterMap DeviceEvent.item?

theorem afterInsertion_nil {slots : List Slot} (h : scansOf slots = []) :
    afterInsertion slots = afterApplication slots := by
  unfold scansOf at h
  unfold afterInsertion
  rw [h]
  rfl

theorem afterInsertion_eq {slots : List Slot} (h : scansOf slots ≠ []) :
    ∃ k : Unit → DeviceOperation (List IngestResult),
      afterInsertion slots =
        .peek (fun s => s.settings) (fun settings =>
          .atomic (bulkTransaction settings (scansOf slots)) k) ∧
      k () = afterApplication slots := by
  unfold scansOf at h
  unfold afterInsertion
  rw [applyArrivalEventsBulk_eq h]
  exact ⟨_, rfl, rfl⟩

/-- The identities of some users have been made; whoever has one keeps it. -/
structure Discovered (s s' : DeviceStore) : Prop where
  rest : s'.withoutIdentities = s.withoutIdentities
  identity : ∀ (device : ℤ) (user : Text), s'.identity? device user = s.identity? device user ∨
    s.identity? device user = none ∧ ∃ i, s'.identity? device user = some i ∧
      i.status = .unmatched

theorem Discovered.refl (s : DeviceStore) : Discovered s s := ⟨rfl, fun _ _ => .inl rfl⟩

theorem Discovered.trans {s t u : DeviceStore} (h : Discovered s t) (h' : Discovered t u) :
    Discovered s u := by
  refine ⟨h'.rest.trans h.rest, fun device user => ?_⟩
  rcases h'.identity device user with heq | ⟨hnone, i, hi, hstatus⟩
  · rw [heq]
    exact h.identity device user
  · rcases h.identity device user with heq | ⟨_, j, hj, _⟩
    · rw [hnone] at heq
      exact .inr ⟨heq.symm, i, hi, hstatus⟩
    · rw [hnone] at hj
      cases hj

theorem discovered_addIdentity (s : DeviceStore) (u : ℤ × Text) :
    Discovered s (s.addIdentity { device := u.1, externalUserId := u.2 }) := by
  refine ⟨s.withoutIdentities_addIdentity _, fun device user => ?_⟩
  unfold DeviceStore.addIdentity
  split
  · exact .inl rfl
  · unfold DeviceStore.identity?
    rw [List.find?_append]
    cases hfind : s.identities.find? fun i => i.device = device ∧ i.externalUserId = user with
    | some i => exact .inl rfl
    | none =>
      by_cases hu : u.1 = device ∧ u.2 = user
      · exact .inr ⟨rfl, { device := u.1, externalUserId := u.2 }, by simp [hu], rfl⟩
      · exact .inl (by simp [hu])

theorem discoverIdentities_run (users : List (ℤ × Text)) (s : DeviceStore) :
    ∃ s', (discoverIdentities users).run s = (.ok (), s') ∧ Discovered s s' := by
  unfold discoverIdentities
  split
  · exact ⟨s, rfl, Discovered.refl s⟩
  · have heval : ∀ (us : List (ℤ × Text)) (t : DeviceStore), (Tx.forEach (fun u : ℤ × Text => (do
        Tx.lockRows .update [.identityKey u.1 u.2]
        Tx.update fun s => s.addIdentity { device := u.1, externalUserId := u.2 } :
          DeviceTransaction Unit)) us).eval t =
        .ok ((), us.foldl (fun s u => s.addIdentity { device := u.1, externalUserId := u.2 }) t) :=
      eval_forEach fun u t => rfl
    refine ⟨users.foldl (fun s u => s.addIdentity { device := u.1, externalUserId := u.2 }) s,
      ?_, ?_⟩
    · unfold Program.transaction Program.run
      rw [heval]
      rfl
    · clear heval
      rename_i hne
      clear hne
      induction users generalizing s with
      | nil => exact Discovered.refl s
      | cons u users ih => exact (discovered_addIdentity s u).trans (ih _)

def DeviceStore.rowsOf (s : DeviceStore) (clock : DateTimeStr) (now : Instant)
    (events : List EventData) : List DeviceEvent :=
  match s.slotsOf clock now events with
  | none => []
  | some slots => slots.filterMap Slot.row?

@[simp] theorem addEvents_nil (s : DeviceStore) : s.addEvents [] = s := by
  unfold DeviceStore.addEvents
  rw [List.append_nil]

section Steps

variable (clock : DateTimeStr) (now : Instant) (events : List EventData) (s : DeviceStore)

/-- **A batch as a run**: it fails without a change when a matched identity has no student, and else
inserts its rows, applies their scans and makes identities. -/
theorem ingestBatch_run_cases :
    s.slotsOf clock now events = none ∧
        (ingestBatch clock now events).run s = (.error (.doesNotExist "Student"), s) ∨
      ∃ rows s₂ s₃ results, NewRows s clock now events rows ∧
        Applied (rows.filterMap DeviceEvent.item?) (s.addEvents rows) s₂ ∧ Discovered s₂ s₃ ∧
        (ingestBatch clock now events).run s = (.ok results, s₃) := by
  rw [ingestBatch_run]
  cases hslots : s.slotsOf clock now events with
  | none => exact .inl ⟨rfl, rfl⟩
  | some slots =>
    right
    have hnew := slotsOf_newRows hslots
    show ∃ rows s₂ s₃ results, _ ∧ _ ∧ _ ∧ (processSlots slots).run s = _
    by_cases hrows : slots.filterMap Slot.row? = []
    · rw [hrows] at hnew
      refine ⟨[], s, s, slots.map Slot.result, hnew, ?_, Discovered.refl s, ?_⟩
      · rw [addEvents_nil]
        exact applied_nil s
      · rw [processSlots_nil hrows]
        rfl
    · obtain ⟨k, heq, hk⟩ := processSlots_eq hrows
      have hinsert := insertEvents_eval hnew.absent
      have hafter : (processSlots slots).run s =
          (afterInsertion slots).run (s.addEvents (slots.filterMap Slot.row?)) := by
        rw [heq, ← hk]
        simp only [Program.run, hinsert]
      have hdiscover : ∀ t : DeviceStore, ∃ t', (afterApplication slots).run t =
          (.ok (slots.map Slot.result), t') ∧ Discovered t t' := by
        intro t
        obtain ⟨t', hrun, ht⟩ := discoverIdentities_run (slots.filterMap Slot.discovered?).dedup t
        refine ⟨t', ?_, ht⟩
        unfold afterApplication
        rw [Program.run_bind, hrun]
        rfl
      by_cases hitems : scansOf slots = []
      · obtain ⟨s₃, hrun, hs₃⟩ := hdiscover (s.addEvents (slots.filterMap Slot.row?))
        refine ⟨_, _, s₃, slots.map Slot.result, hnew, ?_, hs₃, ?_⟩
        · unfold scansOf at hitems
          rw [hitems]
          exact applied_nil _
        · rw [hafter, afterInsertion_nil hitems, hrun]
      · obtain ⟨k', heq', hk'⟩ := afterInsertion_eq hitems
        obtain ⟨s₂, heval, happlied⟩ :=
          bulkTransaction_eval (scansOf slots) (s.addEvents (slots.filterMap Slot.row?))
        obtain ⟨s₃, hrun, hs₃⟩ := hdiscover s₂
        refine ⟨_, s₂, s₃, slots.map Slot.result, hnew, happlied, hs₃, ?_⟩
        rw [hafter, heq']
        simp only [Program.run, heval, hk', hrun]

/-- **The stops of a batch**: before its first step nothing has changed, after it the rows are
stored, and from then on their scans are applied. -/
theorem ingestBatch_stops : ∃ s₂,
    Applied ((s.rowsOf clock now events).filterMap DeviceEvent.item?)
      (s.addEvents (s.rowsOf clock now events)) s₂ ∧
    ((ingestBatch clock now events).stopAfter 1 s).withoutIdentities =
      (s.addEvents (s.rowsOf clock now events)).withoutIdentities ∧
    (∀ n, ((ingestBatch clock now events).stopAfter (n + 2) s).withoutIdentities =
      s₂.withoutIdentities) ∧
    ((ingestBatch clock now events).run s).2.withoutIdentities = s₂.withoutIdentities := by
  have hstop : ∀ n, (ingestBatch clock now events).stopAfter (n + 1) s =
      (afterQueries (s.slotsOf clock now events)).stopAfter (n + 1) s := by
    intro n
    simp only [Program.stopAfter, ingestBatch_advance]
  rw [ingestBatch_run]
  simp only [hstop]
  unfold DeviceStore.rowsOf
  cases hslots : s.slotsOf clock now events with
  | none =>
    simp only [List.filterMap_nil, addEvents_nil]
    have hended : (afterQueries none).Ended := trivial
    exact ⟨s, applied_nil s, rfl, fun n => by rw [hended.stopAfter], rfl⟩
  | some slots =>
    have hnew := slotsOf_newRows hslots
    simp only [afterQueries]
    by_cases hrows : slots.filterMap Slot.row? = []
    · rw [processSlots_nil hrows, hrows, addEvents_nil]
      have hended : (Program.ret (slots.map Slot.result) :
          DeviceOperation (List IngestResult)).Ended := trivial
      exact ⟨s, applied_nil s, rfl, fun n => by rw [hended.stopAfter], rfl⟩
    · obtain ⟨k, heq, hk⟩ := processSlots_eq hrows
      have hinsert := insertEvents_eval hnew.absent
      have hadvance : (processSlots slots).advance s =
          (afterInsertion slots, s.addEvents (slots.filterMap Slot.row?)) := by
        rw [heq, ← hk]
        simp only [Program.advance, Tx.outcome, hinsert]
      have hrun : (processSlots slots).run s =
          (afterInsertion slots).run (s.addEvents (slots.filterMap Slot.row?)) := by
        rw [heq, ← hk]
        simp only [Program.run, hinsert]
      simp only [Program.stopAfter, hadvance, hrun]
      by_cases hitems : scansOf slots = []
      · refine ⟨s.addEvents (slots.filterMap Slot.row?), ?_, trivial, fun n => ?_, ?_⟩
        · unfold scansOf at hitems
          rw [hitems]
          exact applied_nil _
        · rw [afterInsertion_nil hitems]
          exact (afterApplication_keeps slots).stopAfter (n + 1) _
        · rw [afterInsertion_nil hitems]
          exact (afterApplication_keeps slots).run _
      · obtain ⟨k', heq', hk'⟩ := afterInsertion_eq hitems
        obtain ⟨s₂, heval, happlied⟩ :=
          bulkTransaction_eval (scansOf slots) (s.addEvents (slots.filterMap Slot.row?))
        refine ⟨s₂, happlied, trivial, fun n => ?_, ?_⟩
        · have hadvance' : (afterInsertion slots).advance
              (s.addEvents (slots.filterMap Slot.row?)) = (afterApplication slots, s₂) := by
            rw [heq', ← hk']
            simp only [Program.advance, Tx.outcome, heval]
          rw [hadvance']
          exact (afterApplication_keeps slots).stopAfter n s₂
        · rw [heq']
          simp only [Program.run, heval, hk']
          exact (afterApplication_keeps slots).run s₂

end Steps

end SchoolPlatform
