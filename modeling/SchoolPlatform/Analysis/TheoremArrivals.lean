import Mathlib.Order.Bounds.Defs
import SchoolPlatform.Analysis.TheoremCrashes

/-!
# Arrivals do not depend on the order of the scans

The calls of a morning, batches of scans and mappings of users, run one after another. Whatever
their order, the arrivals are the earliest scans of each student and day, and each event is
stored once (`playMorning_arrivals`). An identifier of the device tells its events apart: of two
events with one identifier whichever comes second is a duplicate, so there the order decides.
-/

namespace SchoolPlatform

open ReadCommitted

/-! ## A morning -/

inductive MorningOp
  | ingest (now : Instant) (events : List EventData)
  | map (device : ℤ) (user : Text) (student : ℕ)

def MorningOp.play (clock : DateTimeStr) : MorningOp → DeviceStore → DeviceStore
  | .ingest now events, s => ((ingestBatch clock now events).run s).2
  | .map device user student, s => ((mapIdentity device user student).run s).2

def playMorning (clock : DateTimeStr) (ops : List MorningOp) (s : DeviceStore) : DeviceStore :=
  ops.foldl (fun s op => op.play clock s) s

def MorningOp.events : MorningOp → List EventData
  | .ingest _ events => events
  | .map _ _ _ => []

def arrivedEvents (ops : List MorningOp) : List EventData := ops.flatMap MorningOp.events

/-- A school before its first scan: all students are active, and who is matched already is matched
to the student that the user stands for. -/
structure FreshMorning (owner : ℤ → Text → ℕ) (s : DeviceStore) : Prop where
  active : ∀ x ∈ s.students, x.status = .active
  noEvents : s.events = []
  noArrivals : s.arrivals = []
  owned : ∀ (device : ℤ) (user : Text) (i : StudentDeviceIdentity),
    s.identity? device user = some i → i.status = .matched →
      i.student = some (owner device user) ∧ (s.student? (owner device user)).isSome

/-- A batch of no more events than the endpoint lets through, all of them admitted scans of active
devices and none in the future; a mapping of a user to the student it stands for. -/
def MorningOp.Regular (owner : ℤ → Text → ℕ) (s : DeviceStore) : MorningOp → Prop
  | .ingest now events => events.length ≤ maxBatchSize ∧
      ∀ e ∈ events, s.Accepts now e ∧ e.Admitted ∧ e.eventType = checkIn
  | .map device user student => student = owner device user

/-- Events of one device with one identifier are one scan. -/
def IdsTell (events : List EventData) : Prop :=
  ∀ e ∈ events, ∀ f ∈ events, e.deviceId = f.deviceId → e.externalEventId = f.externalEventId →
    e.externalEventId ≠ [] → e.user = f.user ∧ e.occurredAt = f.occurredAt

theorem IdsTell.of_key {events : List EventData} (h : IdsTell events) (clock : DateTimeStr)
    (hadmitted : ∀ e ∈ events, e.Admitted) {e f : EventData} (he : e ∈ events) (hf : f ∈ events)
    (hdevice : e.deviceId = f.deviceId) (hkey : dedupeKey clock e = dedupeKey clock f) :
    e.user = f.user ∧ e.occurredAt = f.occurredAt := by
  obtain ⟨hid, hor⟩ := (dedupeKey_eq_iff clock (hadmitted e he) (hadmitted f hf)).mp hkey
  rcases hor with hne | ⟨huser, htime, _⟩
  · exact h e he f hf hdevice hid hne
  · refine ⟨?_, htime⟩
    unfold EventData.user
    rw [huser]

/-! ## What holds after some calls -/

/-- A stored event is one of those that have come, and it waits only for a user who is not
matched. -/
structure StoredEvent (clock : DateTimeStr) (owner : ℤ → Text → ℕ) (arrived : List EventData)
    (s : DeviceStore) (row : DeviceEvent) : Prop where
  origin : ∃ e ∈ arrived, row.key = (e.deviceId, dedupeKey clock e) ∧
    row.externalUserId = e.user ∧ row.occurredAt = e.occurredAt
  checkIn : row.eventType = checkIn
  status : row.processingStatus = .processed ∧
      row.student = some (owner row.device row.externalUserId) ∨
    row.processingStatus = .unmatched ∧
      ∀ i, s.identity? row.device row.externalUserId = some i → i.status ≠ .matched

structure MorningInv (clock : DateTimeStr) (owner : ℤ → Text → ℕ) (s₀ : DeviceStore)
    (arrived : List EventData) (s : DeviceStore) : Prop where
  settings : s.settings = s₀.settings
  students : s.students = s₀.students
  devices : s.devices = s₀.devices
  keys : (s.events.map DeviceEvent.key).Nodup
  stored : ∀ e ∈ arrived, (e.deviceId, dedupeKey clock e) ∈ s.events.map DeviceEvent.key
  rows : ∀ row ∈ s.events, StoredEvent clock owner arrived s row
  owned : ∀ (device : ℤ) (user : Text) (i : StudentDeviceIdentity),
    s.identity? device user = some i → i.status = .matched →
      i.student = some (owner device user) ∧ (s.student? (owner device user)).isSome
  earliest : EarliestWins s

section Steps

variable {clock : DateTimeStr} {owner : ℤ → Text → ℕ} {s₀ s : DeviceStore}
  {arrived : List EventData}

theorem FreshMorning.inv (clock : DateTimeStr) (h : FreshMorning owner s) :
    MorningInv clock owner s [] s where
  settings := rfl
  students := rfl
  devices := rfl
  keys := by simp [h.noEvents]
  stored := by simp
  rows := by simp [h.noEvents]
  owned := h.owned
  earliest :=
    { grounded := by simp [DeviceStore.Grounded, DeviceStore.arrival?, h.noArrivals]
      covered := by simp [DeviceStore.AllCovered, DeviceStore.items, h.noEvents] }

theorem classify_isSome {existing : List (ℤ × DedupeKey)} {identities : IdentityTable}
    {prepared : List Prepared}
    (h : ∀ data key, Prepared.event data key ∈ prepared →
      (classifyRow identities data key).isSome) (seen : List (ℤ × DedupeKey)) :
    (classify existing identities seen prepared).isSome := by
  induction prepared generalizing seen with
  | nil => rfl
  | cons p rest ih =>
    have hrest := ih fun data key hmem => h data key (List.mem_cons_of_mem _ hmem)
    cases p with
    | rejected reason =>
      obtain ⟨slots, hslots⟩ := Option.isSome_iff_exists.mp (hrest seen)
      simp [classify, hslots]
    | event data key =>
      obtain ⟨slot, hslot⟩ := Option.isSome_iff_exists.mp (h data key List.mem_cons_self)
      obtain ⟨slots, hslots⟩ := Option.isSome_iff_exists.mp (hrest seen)
      obtain ⟨slots', hslots'⟩ :=
        Option.isSome_iff_exists.mp (hrest ((data.deviceId, key) :: seen))
      unfold classify
      split
      · simp [hslots]
      · simp [hslot, hslots']

theorem classifyRow_isSome {identities : IdentityTable} {data : EventData} (key : DedupeKey)
    (h : ∀ i, identityOf identities data.deviceId data.user = some i → i.1.status = .matched →
      i.1.student.isSome ∧ i.2.isSome) : (classifyRow identities data key).isSome := by
  unfold classifyRow
  unfold identityOf at h
  cases hfind : identities.find? fun i => i.1.device = data.deviceId ∧
      i.1.externalUserId = data.user with
  | none => rfl
  | some i =>
    obtain ⟨identity, standing⟩ := i
    simp only
    split
    · rfl
    · rename_i hstatus
      obtain ⟨hstudent, hstanding⟩ := h _ hfind (not_not.mp hstatus)
      obtain ⟨student, hstudent⟩ := Option.isSome_iff_exists.mp hstudent
      obtain ⟨status, hstanding⟩ := Option.isSome_iff_exists.mp hstanding
      simp only at hstudent hstanding
      rw [hstudent, hstanding]
      rfl

theorem student?_eq_some {s : DeviceStore} {id : ℕ} {x : Student} (h : s.student? id = some x) :
    x ∈ s.students ∧ x.id = id := by
  have hid := List.find?_some h
  exact ⟨List.mem_of_find?_eq_some h, by simpa using hid⟩

theorem MorningInv.standing (h : MorningInv clock owner s₀ arrived s)
    (hactive : ∀ x ∈ s₀.students, x.status = .active) {device : ℤ} {user : Text}
    {i : StudentDeviceIdentity × Option StudentStatus} (hi : s.standingOf device user = some i)
    (hmatched : i.1.status = .matched) :
    i.1.student = some (owner device user) ∧ i.2 = some .active := by
  unfold DeviceStore.standingOf at hi
  obtain ⟨identity, hidentity, heq⟩ := Option.map_eq_some_iff.mp hi
  rw [← heq] at hmatched ⊢
  obtain ⟨hstudent, hsome⟩ := h.owned device user identity hidentity hmatched
  obtain ⟨x, hx⟩ := Option.isSome_iff_exists.mp hsome
  refine ⟨hstudent, ?_⟩
  have hmem := (student?_eq_some hx).1
  rw [h.students] at hmem
  simp [hstudent, hx, hactive x hmem]

theorem MorningInv.slots_isSome (h : MorningInv clock owner s₀ arrived s)
    (hactive : ∀ x ∈ s₀.students, x.status = .active) (now : Instant) (events : List EventData) :
    (s.slotsOf clock now events).isSome := by
  apply classify_isSome
  intro data key hmem
  apply classifyRow_isSome
  intro i hi hmatched
  have huser : (data.deviceId, data.user) ∈
      (s.preparedOf clock now events).filterMap Prepared.user? :=
    List.mem_filterMap.mpr ⟨_, hmem, rfl⟩
  rw [identityOf_identitiesOf s _ huser] at hi
  obtain ⟨hstudent, hstanding⟩ := h.standing hactive hi hmatched
  rw [hstudent, hstanding]
  exact ⟨rfl, rfl⟩

theorem MorningInv.ingest (h : MorningInv clock owner s₀ arrived s)
    (hactive : ∀ x ∈ s₀.students, x.status = .active) {now : Instant} {events : List EventData}
    (hop : (MorningOp.ingest now events).Regular owner s₀) :
    MorningInv clock owner s₀ (arrived ++ events) ((MorningOp.ingest now events).play clock s) := by
  obtain ⟨hlength, hevents⟩ := hop
  have htake : events.take maxBatchSize = events := List.take_of_length_le hlength
  have haccepts : ∀ e ∈ events, s.Accepts now e := by
    intro e he
    have hacc := (hevents e he).1
    have hdevices : s.activeDevices = s₀.activeDevices := by
      unfold DeviceStore.activeDevices
      rw [h.devices]
    exact ⟨by rw [hdevices]; exact hacc.device, hacc.user, hacc.time⟩
  have hsome := h.slots_isSome hactive now events
  show MorningInv clock owner s₀ (arrived ++ events) ((ingestBatch clock now events).run s).2
  rcases ingestBatch_run_cases clock now events s with ⟨hnone, -⟩ |
    ⟨rows, s₂, s₃, results, hnew, happlied, hdiscovered, hrun⟩
  · rw [hnone] at hsome
    cases hsome
  · rw [hrun]
    have hrest := hdiscovered.rest
    have hevents₃ : s₃.events = s.events ++ rows :=
      (congrArg (fun t => DeviceStore.events t) hrest).trans happlied.events
    have hidentity : ∀ device user, s₂.identity? device user = s.identity? device user := by
      intro device user
      unfold DeviceStore.identity?
      rw [happlied.identities]
      rfl
    -- Whoever is matched afterwards was matched before.
    have hmatched : ∀ device user i, s₃.identity? device user = some i → i.status = .matched →
        s.identity? device user = some i := by
      intro device user i hi hstatus
      rcases hdiscovered.identity device user with heq | ⟨-, j, hj, hj'⟩
      · rw [← hidentity, ← heq]
        exact hi
      · rw [hi] at hj
        rw [Option.some.inj hj, hj'] at hstatus
        cases hstatus
    have hstudents₃ : s₃.students = s.students :=
      (congrArg (fun t => DeviceStore.students t) hrest).trans happlied.students
    refine
      { settings := (congrArg (fun t => DeviceStore.settings t) hrest).trans
          (happlied.settings.trans h.settings)
        students := hstudents₃.trans h.students
        devices := (congrArg (fun t => DeviceStore.devices t) hrest).trans
          (happlied.devices.trans h.devices)
        keys := ?_
        stored := ?_
        rows := ?_
        owned := ?_
        earliest := ?_ }
    · rw [hevents₃, List.map_append, List.nodup_append]
      refine ⟨h.keys, hnew.nodup, ?_⟩
      intro k hk k' hk' heq
      obtain ⟨row, hrow, hrowkey⟩ := List.mem_map.mp hk
      obtain ⟨row', hrow', hrowkey'⟩ := List.mem_map.mp hk'
      have habsent := hnew.absent row' hrow'
      have hsame : row.key = row'.key := by rw [hrowkey, heq, hrowkey']
      have hno := List.find?_eq_none.mp habsent row hrow
      simp only [DeviceEvent.key, Prod.mk.injEq] at hsame
      simp [hsame] at hno
    · intro e he
      rw [hevents₃, List.map_append, List.mem_append]
      rcases List.mem_append.mp he with hold | he
      · exact .inl (h.stored e hold)
      · rcases hnew.complete e (by rw [htake]; exact he) (haccepts e he) with hstored | hrow
        · left
          obtain ⟨row, hrow, hkey⟩ := List.find?_isSome.mp hstored
          simp only [decide_eq_true_eq] at hkey
          exact List.mem_map.mpr ⟨row, hrow, Prod.ext hkey.1 hkey.2⟩
        · right
          obtain ⟨row, hrow, hkey⟩ := hrow
          exact List.mem_map.mpr ⟨row, hrow, hkey⟩
    · intro row hrow
      rw [hevents₃] at hrow
      rcases List.mem_append.mp hrow with hold | hrow
      · have hrowInv := h.rows row hold
        obtain ⟨e, he, horigin⟩ := hrowInv.origin
        refine ⟨⟨e, List.mem_append_left _ he, horigin⟩, hrowInv.checkIn, ?_⟩
        refine hrowInv.status.imp_right fun hwaits => ⟨hwaits.1, fun i hi hstatus => ?_⟩
        exact hwaits.2 i (hmatched _ _ i hi hstatus) hstatus
      · obtain ⟨data, hdata, -, hof⟩ := hnew.origin row hrow
        rw [htake] at hdata
        have htype : data.eventType.take 20 = checkIn := by
          rw [(hevents data hdata).2.2]
          decide
        refine ⟨⟨data, List.mem_append_right _ hdata, Prod.ext hof.device hof.key, hof.user,
          hof.occurredAt⟩, hof.eventType.trans htype, ?_⟩
        rw [hof.device, hof.user]
        cases hof.status with
        | waiting _ hstatus hunmatched =>
          refine .inr ⟨hstatus, fun i hi hstatus' => ?_⟩
          have hold := hmatched _ _ i hi hstatus'
          exact hunmatched _ (by unfold DeviceStore.standingOf; rw [hold]; rfl) hstatus'
        | matched identity student standing hknown hstatus howner hstudent hrowStatus =>
          left
          obtain ⟨hown, hactiveStanding⟩ := h.standing hactive hknown hstatus
          simp only [Option.some.injEq] at hactiveStanding
          rw [hrowStatus, hstudent, ← howner, hown, hactiveStanding]
          simp
    · intro device user i hi hstatus
      have hold := h.owned device user i (hmatched device user i hi hstatus) hstatus
      refine ⟨hold.1, ?_⟩
      unfold DeviceStore.student?
      rw [hstudents₃]
      exact hold.2
    · have hearliest := h.earliest.addRows happlied
      show EarliestWins s₃
      have hcongr : EarliestWins s₃.withoutIdentities := by
        rw [hrest]
        exact ⟨hearliest.grounded, hearliest.covered⟩
      exact ⟨hcongr.grounded, hcongr.covered⟩

theorem MorningInv.map (h : MorningInv clock owner s₀ arrived s)
    (hactive : ∀ x ∈ s₀.students, x.status = .active) (device : ℤ) (user : Text) :
    MorningInv clock owner s₀ arrived
      ((MorningOp.map device user (owner device user)).play clock s) := by
  show MorningInv clock owner s₀ arrived ((mapIdentity device user (owner device user)).run s).2
  rcases mapIdentity_run h.keys device user (owner device user) with
    hsame | ⟨identity, student, hidentity, hstudent, hre⟩
  · rw [hsame]
    exact h
  · obtain ⟨hmem, hid⟩ := student?_eq_some hstudent
    rw [h.students] at hmem
    have hstatus : student.status = .active := hactive student hmem
    have heventStatus : student.eventStatus = .processed := by
      unfold Student.eventStatus
      simp [hstatus]
    have hkey := identity?_key hidentity
    generalize ((mapIdentity device user (owner device user)).run s).2 = s' at hre ⊢
    have hwaits : ∀ e ∈ s.waitingEvents device user ++ [], e.processingStatus = .unmatched := by
      intro e he
      rw [List.append_nil] at he
      exact ((mem_waitingEvents_iff s device user e).mp he).2.2.2
    have hidentity' : ∀ d u, s'.identity? d u =
        if d = device ∧ u = user then
          some { identity with student := some student.id, status := .matched }
        else s.identity? d u := by
      intro d u
      have hcond : (d = identity.device ∧ u = identity.externalUserId) ↔ (d = device ∧ u = user) := by
        rw [hkey.1, hkey.2]
      have hidentities : s'.identity? d u = (s.setIdentity
          { identity with student := some student.id, status := .matched }).identity? d u := by
        unfold DeviceStore.identity?
        rw [hre.identities]
      rw [hidentities, identity?_setIdentity]
      by_cases hdu : d = device ∧ u = user
      · rw [if_pos (hcond.mpr hdu), if_pos hdu, hdu.1, hdu.2, hidentity]
        rfl
      · rw [if_neg fun hc => hdu (hcond.mp hc), if_neg hdu]
    refine
      { settings := hre.settings.trans h.settings
        students := hre.students.trans h.students
        devices := hre.devices.trans h.devices
        keys := ?_
        stored := ?_
        rows := ?_
        owned := ?_
        earliest := ⟨hre.grounded h.earliest.grounded, fun x hx => ?_⟩ }
    · rw [hre.keys]
      exact h.keys
    · intro e he
      rw [hre.keys]
      exact h.stored e he
    · intro row hrow
      rcases (hre.event row).mp hrow with ⟨hold, hnot⟩ | ⟨e, he, rfl⟩
      · have hrowInv := h.rows row hold
        refine ⟨hrowInv.origin, hrowInv.checkIn, hrowInv.status.imp_right fun hw => ⟨hw.1, ?_⟩⟩
        have hother : ¬(row.device = device ∧ row.externalUserId = user) := by
          intro heq
          rw [List.append_nil] at hnot
          exact hnot ((mem_waitingEvents_iff s device user row).mpr ⟨hold, heq.1, heq.2, hw.1⟩)
        intro i hi
        rw [hidentity', if_neg hother] at hi
        exact hw.2 i hi
      · rw [List.append_nil] at he
        obtain ⟨hmem, hdevice, huser, -⟩ := (mem_waitingEvents_iff s device user e).mp he
        have hrowInv := h.rows e hmem
        refine ⟨hrowInv.origin, hrowInv.checkIn, .inl ⟨heventStatus, ?_⟩⟩
        show some student.id = some (owner e.device e.externalUserId)
        rw [hdevice, huser, hid]
    · intro d u i hi hmatched
      have hstudents : s'.student? = s.student? := by
        unfold DeviceStore.student?
        rw [hre.students]
        rfl
      rw [hidentity'] at hi
      rw [hstudents]
      split at hi
      · rename_i hdu
        rw [← Option.some.inj hi, hdu.1, hdu.2, hstudent]
        exact ⟨by rw [← hid], rfl⟩
      · exact h.owned d u i hi hmatched
    · rcases (hre.mem_items_iff hwaits x).mp hx with hold | ⟨e, he, hscan⟩
      · exact (hre.covers x).mpr (.inl (h.earliest.covered x hold))
      · rw [List.append_nil] at he
        exact (hre.covers x).mpr (.inr ⟨e, he, x, hscan, rfl, le_refl _⟩)

theorem MorningInv.play (h : MorningInv clock owner s₀ arrived s)
    (hactive : ∀ x ∈ s₀.students, x.status = .active) {op : MorningOp}
    (hop : op.Regular owner s₀) :
    MorningInv clock owner s₀ (arrived ++ op.events) (op.play clock s) := by
  cases op with
  | ingest now events => exact h.ingest hactive hop
  | map device user student =>
    have hstudent : student = owner device user := hop
    subst hstudent
    show MorningInv clock owner s₀ (arrived ++ []) _
    rw [List.append_nil]
    exact h.map hactive device user

theorem MorningInv.playMorning (h : MorningInv clock owner s₀ arrived s)
    (hactive : ∀ x ∈ s₀.students, x.status = .active) {ops : List MorningOp}
    (hops : ∀ op ∈ ops, op.Regular owner s₀) :
    MorningInv clock owner s₀ (arrived ++ arrivedEvents ops) (playMorning clock ops s) := by
  induction ops generalizing arrived s with
  | nil =>
    show MorningInv clock owner s₀ (arrived ++ []) s
    rw [List.append_nil]
    exact h
  | cons op ops ih =>
    have hop := h.play hactive (hops op List.mem_cons_self)
    have hrest := ih hop fun x hx => hops x (List.mem_cons_of_mem _ hx)
    rw [List.append_assoc] at hrest
    exact hrest

end Steps

/-! ## The arrivals of a morning -/

def scanTimes (settings : MorningSettings) (owner : ℤ → Text → ℕ) (events : List EventData)
    (student : ℕ) (date : Date) : Set Instant :=
  {t | ∃ e ∈ events, owner e.deviceId e.user = student ∧ settings.zone.date e.occurredAt = date ∧
    e.occurredAt = t}

def ArrivalsOf (owner : ℤ → Text → ℕ) (events : List EventData) (s : DeviceStore) : Prop :=
  ∀ (student : ℕ) (date : Date),
    match s.arrival? student date with
    | none => scanTimes s.settings owner events student date = ∅
    | some a => IsLeast (scanTimes s.settings owner events student date) a.firstArrivalAt ∧
      a.lateness = computeLateness s.settings a.firstArrivalAt date

def StoresOnce (clock : DateTimeStr) (events : List EventData) (s : DeviceStore) : Prop :=
  (∀ e ∈ events, ∃ row, s.events.filter (fun r => r.key = (e.deviceId, dedupeKey clock e)) = [row] ∧
    row.externalUserId = e.user ∧ row.occurredAt = e.occurredAt) ∧
  ∀ row ∈ s.events, ∃ e ∈ events, row.key = (e.deviceId, dedupeKey clock e)

/-- **Arrivals do not depend on the order.** When the users of all events are matched in the end,
the arrivals are the earliest scans and each event is stored once, however the events have been
put in batches, repeated and ordered, and whenever the users have been mapped. -/
theorem playMorning_arrivals (clock : DateTimeStr) (owner : ℤ → Text → ℕ) (s : DeviceStore)
    (ops : List MorningOp) (hfresh : FreshMorning owner s) (hops : ∀ op ∈ ops, op.Regular owner s)
    (hids : IdsTell (arrivedEvents ops))
    (hmapped : ∀ e ∈ arrivedEvents ops, ∃ i,
      (playMorning clock ops s).identity? e.deviceId e.user = some i ∧ i.status = .matched) :
    ArrivalsOf owner (arrivedEvents ops) (playMorning clock ops s) ∧
      StoresOnce clock (arrivedEvents ops) (playMorning clock ops s) := by
  have hinv := (hfresh.inv clock).playMorning hfresh.active hops
  rw [List.nil_append] at hinv
  have hadmitted : ∀ e ∈ arrivedEvents ops, e.Admitted := by
    intro e he
    obtain ⟨op, hop, hmem⟩ := List.mem_flatMap.mp he
    cases op with
    | ingest now events => exact ((hops _ hop).2 e hmem).2.1
    | map device user student => cases hmem
  generalize playMorning clock ops s = t at hinv hmapped ⊢
  generalize arrivedEvents ops = events at hinv hmapped hids hadmitted ⊢
  -- No stored event waits any more.
  have hrow : ∀ row ∈ t.events, ∃ e ∈ events, row.key = (e.deviceId, dedupeKey clock e) ∧
      row.externalUserId = e.user ∧ row.occurredAt = e.occurredAt ∧
      row.item? = some ⟨owner e.deviceId e.user, e.occurredAt, row.key⟩ := by
    intro row hmem
    have hstored := hinv.rows row hmem
    obtain ⟨e, he, hkey, huser, htime⟩ := hstored.origin
    have hdevice : row.device = e.deviceId := congrArg Prod.fst hkey
    refine ⟨e, he, hkey, huser, htime, ?_⟩
    rcases hstored.status with ⟨hstatus, hstudent⟩ | ⟨-, hwaits⟩
    · have hitem : row.item? =
          some ⟨owner row.device row.externalUserId, row.occurredAt, row.key⟩ := by
        unfold DeviceEvent.item?
        rw [if_pos ⟨hstatus, hstored.checkIn⟩, hstudent]
        rfl
      rw [hitem, hdevice, huser, htime]
    · obtain ⟨i, hi, hmatched⟩ := hmapped e he
      rw [hdevice, huser] at hwaits
      exact absurd hmatched (hwaits i hi)
  -- An event and its row tell the same.
  have hevent : ∀ e ∈ events, ∃ row ∈ t.events, row.key = (e.deviceId, dedupeKey clock e) ∧
      row.externalUserId = e.user ∧ row.occurredAt = e.occurredAt ∧
      row.item? = some ⟨owner e.deviceId e.user, e.occurredAt, row.key⟩ := by
    intro e he
    obtain ⟨row, hmem, hkey⟩ := List.mem_map.mp (hinv.stored e he)
    obtain ⟨f, hf, hfkey, huser, htime, hitem⟩ := hrow row hmem
    rw [hkey, Prod.mk.injEq] at hfkey
    obtain ⟨huser', htime'⟩ := hids.of_key clock hadmitted he hf hfkey.1 hfkey.2
    rw [← hfkey.1, ← huser', ← htime'] at hitem
    exact ⟨row, hmem, hkey, huser.trans huser'.symm, htime.trans htime'.symm, hitem⟩
  constructor
  · intro student date
    obtain ⟨hsome, hfirst⟩ := hinv.earliest.isLeast (student, date)
    have hscan : ∀ time, time ∈ scanTimes t.settings owner events student date ↔
        ∃ x ∈ t.items, x.key t.settings = (student, date) ∧ x.occurredAt = time := by
      intro time
      constructor
      · intro ⟨e, he, howner, hdate, htime⟩
        obtain ⟨row, hmem, _, _, _, hitem⟩ := hevent e he
        exact ⟨_, (mem_items_iff t _).mpr ⟨row, hmem, hitem⟩, Prod.ext howner hdate, htime⟩
      · intro ⟨x, hx, hkey, htime⟩
        obtain ⟨row, hmem, hitem⟩ := (mem_items_iff t x).mp hx
        obtain ⟨e, he, _, _, _, hitem'⟩ := hrow row hmem
        rw [hitem', Option.some.injEq] at hitem
        rw [← hitem] at hkey htime
        exact ⟨e, he, congrArg Prod.fst hkey, congrArg Prod.snd hkey, htime⟩
    cases ha : t.arrival? student date with
    | none =>
      apply Set.eq_empty_of_forall_notMem
      intro time htime
      obtain ⟨x, hx, hkey, _⟩ := (hscan time).mp htime
      have hyes := hsome.mpr ⟨x, hx, hkey⟩
      rw [ha] at hyes
      cases hyes
    | some a =>
      obtain ⟨⟨x, hx, hkey, hshown, hlateness⟩, hle⟩ := hfirst a ha
      refine ⟨⟨(hscan _).mpr ⟨x, hx, hkey, hshown.symm⟩, ?_⟩, ?_⟩
      · intro time htime
        obtain ⟨y, hy, hykey, hytime⟩ := (hscan time).mp htime
        rw [← hytime]
        exact hle y hy hykey
      · have hdate : x.date t.settings = date := congrArg Prod.snd hkey
        rw [hlateness, hshown, hdate]
  · refine ⟨fun e he => ?_, fun row hmem => ?_⟩
    · obtain ⟨row, hmem, hkey, huser, htime, _⟩ := hevent e he
      have hone := Table.filter_key_eq hinv.keys hmem
      rw [hkey] at hone
      exact ⟨row, hone, huser, htime⟩
    · obtain ⟨e, he, hkey, _⟩ := hrow row hmem
      exact ⟨e, he, hkey⟩

def gateRescan : EventData := { gateScan with occurredAt := 26000000000 }

theorem gateScan_admitted : gateScan.Admitted ∧ gateRescan.Admitted :=
  ⟨⟨by decide, by decide, by decide⟩, ⟨by decide, by decide, by decide⟩⟩

theorem gateScan_accepted :
    gateStore.Accepts 26000000000 gateScan ∧ gateStore.Accepts 26000000000 gateRescan :=
  ⟨⟨by decide, by decide, by decide⟩, ⟨by decide, by decide, by decide⟩⟩

theorem gateStore_fresh : FreshMorning (fun _ _ => 1) gateStore where
  active := by decide
  noEvents := rfl
  noArrivals := rfl
  owned := by
    intro device user i hi hmatched
    have hmem := List.mem_of_find?_eq_some hi
    rw [List.mem_singleton.mp hmem]
    exact ⟨rfl, rfl⟩

theorem playMorning_arrivals_gate :
    ArrivalsOf (fun _ _ => 1) [gateScan]
        (playMorning oneInstantClock [.ingest 26000000000 [gateScan]] gateStore) ∧
      StoresOnce oneInstantClock [gateScan]
        (playMorning oneInstantClock [.ingest 26000000000 [gateScan]] gateStore) := by
  apply playMorning_arrivals oneInstantClock (fun _ _ => 1) gateStore [.ingest 26000000000 [gateScan]]
    gateStore_fresh
  · intro op hop
    rw [List.mem_singleton.mp hop]
    refine ⟨by decide, fun e he => ?_⟩
    rw [List.mem_singleton.mp he]
    exact ⟨gateScan_accepted.1, gateScan_admitted.1, rfl⟩
  · intro e he f hf _ _ _
    rw [List.mem_singleton.mp he, List.mem_singleton.mp hf]
    exact ⟨rfl, rfl⟩
  · intro e he
    rw [List.mem_singleton.mp he]
    exact ⟨{ device := 1, externalUserId := "7".toList, student := some 1, status := .matched },
      by decide +kernel, rfl⟩

/-- Two scans with one identifier, the later one first: the earlier one is a duplicate. -/
theorem repeatedId_not_arrivals :
    FreshMorning (fun _ _ => 1) gateStore ∧
    (∀ op ∈ [MorningOp.ingest 26000000000 [gateRescan], .ingest 26000000000 [gateScan]],
      op.Regular (fun _ _ => 1) gateStore) ∧
    ¬ ArrivalsOf (fun _ _ => 1) [gateRescan, gateScan]
      (playMorning oneInstantClock
        [.ingest 26000000000 [gateRescan], .ingest 26000000000 [gateScan]] gateStore) := by
  refine ⟨gateStore_fresh, ?_, fun h => ?_⟩
  · simp only [List.forall_mem_cons, MorningOp.Regular, List.not_mem_nil, false_implies,
      implies_true, and_true]
    exact ⟨⟨by decide, gateScan_accepted.2, gateScan_admitted.2, rfl⟩,
      ⟨by decide, gateScan_accepted.1, gateScan_admitted.1, rfl⟩⟩
  · have harrival : ((playMorning oneInstantClock
        [.ingest 26000000000 [gateRescan], .ingest 26000000000 [gateScan]] gateStore).arrival? 1
          0).map (fun a => a.firstArrivalAt) = some 26000000000 := by decide +kernel
    obtain ⟨a, ha, hfirst⟩ := Option.map_eq_some_iff.mp harrival
    have hleast := h 1 0
    rw [ha] at hleast
    have hle := hleast.1.2 ⟨gateScan, by simp, rfl, by decide +kernel, rfl⟩
    rw [hfirst] at hle
    revert hle
    decide

end SchoolPlatform
