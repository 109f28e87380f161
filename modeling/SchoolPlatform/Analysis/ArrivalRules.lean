import SchoolPlatform.Analysis.ReprocessSteps
import SchoolPlatform.Library.RelyGuarantee

/-!
# The rules between concurrent calls

What a commit of one call may do while others are at work (`Allowed`): events come under a lock on
their key and only change from waiting to what their user's student makes of them, arrivals change
under a lock on their row, become earlier, and come under a lock on their key. A stored scan
without its arrival is owed by the call that has stored it.

The rules ask one thing of the store: when a lock on the key of an arrival is held at a commit,
there is no such arrival yet. The program does not see to that. Its bulk insertion ignores a row
that has come in the meantime.
-/

namespace SchoolPlatform

open ReadCommitted

variable {e : DeviceEvent} {student : ℕ} {date : Date} {Q : DeviceStore → Prop}

abbrev DeviceLocks := List (DeviceRow × LockMode)

def DeviceEvent.settled (owner : ℤ → Text → Student) (event : DeviceEvent) : DeviceEvent :=
  event.saved (owner event.device event.externalUserId).eventStatus
    (owner event.device event.externalUserId).id

structure Allowed (owner : ℤ → Text → Student) (locks : DeviceLocks) (s s' : DeviceStore) :
    Prop where
  settings : s'.settings = s.settings
  event : ∀ e ∈ s.events, ∃ w ∈ s'.events, w.key = e.key ∧
    (w = e ∨ e.processingStatus = .unmatched ∧ w = e.settled owner)
  newEvent : ∀ w ∈ s'.events, (∃ e ∈ s.events, e.key = w.key) ∨
    (.eventKey w.device w.dedupeKey, .update) ∈ locks
  keys : (s.events.map DeviceEvent.key).Nodup → (s'.events.map DeviceEvent.key).Nodup
  arrival : ∀ (student : ℕ) (date : Date) (a : SchoolArrival), s.arrival? student date = some a →
    ∃ b, s'.arrival? student date = some b ∧ b.firstArrivalAt ≤ a.firstArrivalAt ∧
      (b = a ∨ (.arrivalRow student date, .update) ∈ locks)
  newArrival : ∀ (student : ℕ) (date : Date), s.arrival? student date = none →
    (s'.arrival? student date).isSome → (.arrivalKey student date, .update) ∈ locks
  grounded : s.Grounded → s'.Grounded

def askedOf (lock : DeviceRow × LockMode) (s : DeviceStore) : Prop :=
  match lock.1 with
  | .arrivalKey student date => s.arrival? student date = none
  | _ => True

instance (lock : DeviceRow × LockMode) (s : DeviceStore) : Decidable (askedOf lock s) := by
  unfold askedOf
  split <;> infer_instance

def OwedArrival (key : ℤ × DedupeKey) (s : DeviceStore) : Prop :=
  ∃ e ∈ s.events, e.key = key ∧ ∃ x, e.item? = some x ∧ ¬ s.Covers x

theorem Allowed.mono {owner : ℤ → Text → Student} {L L' : DeviceLocks} {s s' : DeviceStore}
    (hsub : L ⊆ L') (h : Allowed owner L s s') : Allowed owner L' s s' where
  settings := h.settings
  event := h.event
  newEvent := fun w hw => (h.newEvent w hw).imp_right fun hmem => hsub hmem
  keys := h.keys
  arrival := fun student date a ha => by
    obtain ⟨b, hb, hle, hor⟩ := h.arrival student date a ha
    exact ⟨b, hb, hle, hor.imp_right fun hmem => hsub hmem⟩
  newArrival := fun student date hnone hsome => hsub (h.newArrival student date hnone hsome)
  grounded := h.grounded

def arrivalRules (owner : ℤ → Text → Student) : Discipline DeviceStore DeviceRow (ℤ × DedupeKey) where
  may := Allowed owner
  asks := askedOf
  owed := OwedArrival
  may_mono := fun _ _ _ _ hsub h => h.mono hsub

instance (owner : ℤ → Text → Student) (lock : DeviceRow × LockMode) (s : DeviceStore) :
    Decidable ((arrivalRules owner).asks lock s) := inferInstanceAs (Decidable (askedOf lock s))

theorem Allowed.refl (owner : ℤ → Text → Student) (L : DeviceLocks) (s : DeviceStore) :
    Allowed owner L s s where
  settings := rfl
  event := fun e he => ⟨e, he, rfl, .inl rfl⟩
  newEvent := fun w hw => .inl ⟨w, hw, rfl⟩
  keys := fun h => h
  arrival := fun student date a ha => ⟨a, ha, le_refl _, .inl rfl⟩
  newArrival := fun student date hnone hsome => by
    rw [hnone] at hsome
    cases hsome
  grounded := fun h => h

/-- The settings are these, the keys of the events are unique and the arrivals grounded. -/
structure Base (settings : MorningSettings) (s : DeviceStore) : Prop where
  settings : s.settings = settings
  keys : (s.events.map DeviceEvent.key).Nodup
  grounded : s.Grounded

def StoredScan (x : ArrivalItem) (s : DeviceStore) : Prop := ∃ e ∈ s.events, e.item? = some x

def Ready (owner : ℤ → Text → Student) (e : DeviceEvent) (s : DeviceStore) : Prop :=
  e.processingStatus = .unmatched ∧ (e ∈ s.events ∨ e.settled owner ∈ s.events)

section Stand

variable {owner : ℤ → Text → Student} {L : DeviceLocks} {s s' : DeviceStore}

theorem Allowed.base (h : Allowed owner L s s') {settings : MorningSettings} (hs : Base settings s) :
    Base settings s' :=
  ⟨h.settings.trans hs.settings, h.keys hs.keys, h.grounded hs.grounded⟩

theorem item?_event {x : ArrivalItem} (h : e.item? = some x) : x.event = e.key := by
  unfold DeviceEvent.item? at h
  split at h
  · obtain ⟨student, _, heq⟩ := Option.map_eq_some_iff.mp h
    rw [← heq]
    rfl
  · cases h

theorem Allowed.storedScan (h : Allowed owner L s s') {x : ArrivalItem} (hx : StoredScan x s) :
    StoredScan x s' := by
  obtain ⟨e, he, hitem⟩ := hx
  obtain ⟨w, hw, _, heq | ⟨hwaits, _⟩⟩ := h.event e he
  · rw [heq] at hw
    exact ⟨e, hw, hitem⟩
  · rw [item?_unmatched hwaits] at hitem
    cases hitem

theorem settled_status (owner : ℤ → Text → Student) (e : DeviceEvent) :
    (e.settled owner).processingStatus ≠ .unmatched := Student.eventStatus_ne _

theorem Allowed.ready (h : Allowed owner L s s') (he : Ready owner e s) : Ready owner e s' := by
  refine ⟨he.1, ?_⟩
  rcases he.2 with hmem | hmem
  · obtain ⟨w, hw, _, heq | ⟨_, heq⟩⟩ := h.event e hmem
    · rw [heq] at hw
      exact .inl hw
    · rw [heq] at hw
      exact .inr hw
  · obtain ⟨w, hw, _, heq | ⟨hwaits, _⟩⟩ := h.event _ hmem
    · rw [heq] at hw
      exact .inr hw
    · exact absurd hwaits (settled_status owner e)

theorem Allowed.arrival_isSome (h : Allowed owner L s s') (hs : (s.arrival? student date).isSome) :
    (s'.arrival? student date).isSome := by
  obtain ⟨a, ha⟩ := Option.isSome_iff_exists.mp hs
  obtain ⟨b, hb, _⟩ := h.arrival student date a ha
  rw [hb]
  rfl

theorem Allowed.arrival_eq (h : Allowed owner L s s')
    (hlock : (.arrivalRow student date, .update) ∉ L) (hs : (s.arrival? student date).isSome) :
    s'.arrival? student date = s.arrival? student date := by
  obtain ⟨a, ha⟩ := Option.isSome_iff_exists.mp hs
  obtain ⟨b, hb, _, heq | hmem⟩ := h.arrival student date a ha
  · rw [ha, hb, heq]
  · exact absurd hmem hlock

theorem Allowed.arrival_isSome_eq (h : Allowed owner L s s')
    (hlock : (.arrivalKey student date, .update) ∉ L) :
    (s'.arrival? student date).isSome = (s.arrival? student date).isSome := by
  cases hs : (s.arrival? student date).isSome with
  | true => exact h.arrival_isSome hs
  | false =>
    have hnone := Option.not_isSome_iff_eq_none.mp (Bool.eq_false_iff.mp hs)
    by_contra hne
    exact hlock (h.newArrival student date hnone (Bool.not_eq_false _ ▸ hne))

theorem event?_isSome_iff (s : DeviceStore) (device : ℤ) (key : DedupeKey) :
    (s.event? device key).isSome ↔ ∃ e ∈ s.events, e.key = (device, key) := by
  unfold DeviceStore.event? DeviceEvent.key
  rw [List.find?_isSome]
  simp

theorem Allowed.event_isSome_eq (h : Allowed owner L s s') {device : ℤ} {key : DedupeKey}
    (hlock : (.eventKey device key, .update) ∉ L) :
    (s'.event? device key).isSome = (s.event? device key).isSome := by
  rw [Bool.eq_iff_iff, event?_isSome_iff, event?_isSome_iff]
  constructor
  · intro ⟨w, hw, hkey⟩
    rcases h.newEvent w hw with ⟨e, he, heq⟩ | hmem
    · exact ⟨e, he, heq.trans hkey⟩
    · have hdevice : w.device = device := congrArg Prod.fst hkey
      have hkey' : w.dedupeKey = key := congrArg Prod.snd hkey
      rw [hdevice, hkey'] at hmem
      exact absurd hmem hlock
  · intro ⟨e, he, hkey⟩
    obtain ⟨w, hw, heq, _⟩ := h.event e he
    exact ⟨w, hw, heq.trans hkey⟩

theorem stable_of_allowed {A : DeviceStore → Prop}
    (h : ∀ (L : DeviceLocks) (s s' : DeviceStore), Allowed owner L s s' → A s → A s')
    (held : DeviceLocks) : (arrivalRules owner).Stable held A :=
  fun L s s' _ hmay hA => h L s s' hmay hA

end Stand

section Commits

variable {owner : ℤ → Text → Student} {settings : MorningSettings} {locks : DeviceLocks}
  {s s' : DeviceStore}

def scansOwed (items : List ArrivalItem) (key : ℤ × DedupeKey) : Prop := ∃ x ∈ items, x.event = key

/-- **Applying scans** under the right locks is allowed, and pays for them. -/
theorem Applied.commits {items : List ArrivalItem} (h : Applied items s s')
    (hbase : Base settings s) (hstored : ∀ x ∈ items, StoredScan x s)
    (hrow : ∀ x ∈ items, (s.arrival? x.student (x.date settings)).isSome → (.arrivalRow x.student
      (x.date settings), .update) ∈ locks)
    (hkey : ∀ x ∈ items, s.arrival? x.student (x.date settings) = none → (.arrivalKey x.student
      (x.date settings), .update) ∈ locks) (hQ : Allowed owner locks s s' → Q s') :
    (arrivalRules owner).Commits locks (scansOwed items) (fun _ => False) Q s s' := by
  have hsettings := hbase.settings
  have hget : ∀ k x, Dict.get? (earliestItems s.settings items) k = some x →
      x ∈ items ∧ x.student = k.1 ∧ x.date settings = k.2 := by
    intro k x hx
    obtain ⟨hmem, hk⟩ := (isEarliest_earliestItems s.settings items).mem k x hx
    rw [← hsettings]
    exact ⟨hmem, congrArg Prod.fst hk, congrArg Prod.snd hk⟩
  have hallowed : Allowed owner locks s s' := by
    refine
      { settings := h.settings
        event := fun e he => ⟨e, by rw [h.events]; exact he, rfl, .inl rfl⟩
        newEvent := fun w hw => .inl ⟨w, by rw [← h.events]; exact hw, rfl⟩
        keys := by rw [h.events]; exact id
        arrival := fun student date a ha => ?_
        newArrival := fun student date hnone hsome => ?_
        grounded := fun hg => h.grounded hg fun x hx => (mem_items_iff s x).mpr (hstored x hx) }
    · have harrival := h.arrival (student, date)
      cases hx : Dict.get? (earliestItems s.settings items) (student, date) with
      | none =>
        rw [hx] at harrival
        exact ⟨a, harrival.trans ha, le_refl _, .inl rfl⟩
      | some x =>
        rw [hx] at harrival
        simp only [ha] at harrival
        obtain ⟨hmem, hstudent, hdate⟩ := hget _ x hx
        have hlock := hrow x hmem
        rw [hstudent, hdate] at hlock
        exact ⟨_, harrival, improve_le_some _ _ _, .inr (hlock (by simp [ha]))⟩
    · have harrival := h.arrival (student, date)
      cases hx : Dict.get? (earliestItems s.settings items) (student, date) with
      | none =>
        rw [hx] at harrival
        simp only at harrival
        rw [harrival, hnone] at hsome
        cases hsome
      | some x =>
        obtain ⟨hmem, hstudent, hdate⟩ := hget _ x hx
        have hlock := hkey x hmem
        rw [hstudent, hdate] at hlock
        exact hlock hnone
  refine ⟨hallowed, ⟨fun t ht => ?_, fun t ht hdebt => ?_⟩, hQ hallowed⟩
  · obtain ⟨e, he, hek, x, hx, hnot⟩ := ht
    rw [h.events] at he
    exact .inl ⟨e, he, hek, x, hx, fun hc => hnot ((h.covers_iff x).mpr (.inl hc))⟩
  · -- The scan of the key is the one that has been applied.
    obtain ⟨e, he, hek, x, hx, hnot⟩ := ht
    obtain ⟨y, hy, hyevent⟩ := hdebt
    obtain ⟨w, hw, hwitem⟩ := hstored y hy
    rw [h.events] at he
    have hsame : w = e := by
      apply Table.eq_of_key_eq hbase.keys hw he
      rw [hek, ← hyevent, item?_event hwitem]
    rw [hsame, hx, Option.some.injEq] at hwitem
    rw [hwitem] at hnot
    exact hnot (h.covers hy)

theorem event?_eq_none_iff (s : DeviceStore) (row : DeviceEvent) :
    s.event? row.device row.dedupeKey = none ↔ ∀ e ∈ s.events, e.key ≠ row.key := by
  rw [← Option.not_isSome_iff_eq_none, event?_isSome_iff]
  push Not
  rfl

/-- **Storing events** under locks on their keys is allowed; their scans are owed from then on. -/
theorem addEvents_commits {rows : List DeviceEvent} (hnodup : (rows.map DeviceEvent.key).Nodup)
    (habsent : ∀ row ∈ rows, s.event? row.device row.dedupeKey = none)
    (hlocks : ∀ row ∈ rows, (.eventKey row.device row.dedupeKey, .update) ∈ locks)
    {xs : List ArrivalItem}
    (hQ : Allowed owner locks s (s.addEvents rows) → (∀ x ∈ rows.filterMap DeviceEvent.item?,
      StoredScan x (s.addEvents rows)) → Q (s.addEvents rows)) :
    (arrivalRules owner).Commits locks (scansOwed xs)
      (scansOwed (xs ++ rows.filterMap DeviceEvent.item?)) Q s (s.addEvents rows) := by
  have hallowed : Allowed owner locks s (s.addEvents rows) := by
    refine
      { settings := rfl
        event := fun e he => ⟨e, List.mem_append_left _ he, rfl, .inl rfl⟩
        newEvent := fun w hw => ?_
        keys := fun hk => ?_
        arrival := fun student date a ha => ⟨a, ha, le_refl _, .inl rfl⟩
        newArrival := fun student date hnone hsome => ?_
        grounded := fun hg => grounded_addEvents hg rows }
    · rcases List.mem_append.mp hw with hold | hnew
      · exact .inl ⟨w, hold, rfl⟩
      · exact .inr (hlocks w hnew)
    · show ((s.events ++ rows).map DeviceEvent.key).Nodup
      rw [List.map_append, List.nodup_append]
      refine ⟨hk, hnodup, fun k hk₁ k' hk₂ heq => ?_⟩
      obtain ⟨e, he, hek⟩ := List.mem_map.mp hk₁
      obtain ⟨row, hrow, hrowk⟩ := List.mem_map.mp hk₂
      exact (event?_eq_none_iff s row).mp (habsent row hrow) e he (by rw [hek, heq, hrowk])
    · have hnone' : (s.addEvents rows).arrival? student date = none := hnone
      rw [hnone'] at hsome
      cases hsome
  refine ⟨hallowed, ⟨fun t ht => ?_, fun t _ hdebt => ?_⟩, hQ hallowed fun x hx => ?_⟩
  · obtain ⟨e, he, hek, x, hx, hnot⟩ := ht
    rcases List.mem_append.mp he with hold | hnew
    · exact .inl ⟨e, hold, hek, x, hx, hnot⟩
    · right
      refine ⟨x, List.mem_append_right _ (List.mem_filterMap.mpr ⟨e, hnew, hx⟩), ?_⟩
      rw [item?_event hx, hek]
  · obtain ⟨x, hx, hxt⟩ := hdebt
    exact ⟨x, List.mem_append_left _ hx, hxt⟩
  · obtain ⟨e, he, hitem⟩ := List.mem_filterMap.mp hx
    exact ⟨e, List.mem_append_right _ he, hitem⟩

theorem commits_of_same (hsame : s'.withoutIdentities = s.withoutIdentities)
    {O O' : ℤ × DedupeKey → Prop} (hO : ∀ t, O t → O' t) (hQ : Allowed owner locks s s' → Q s') :
    (arrivalRules owner).Commits locks O O' Q s s' := by
  have hallowed : Allowed owner locks s s' := by
    have h := Allowed.refl owner locks s.withoutIdentities
    rw [← hsame] at h
    have h' : Allowed owner locks s.withoutIdentities s'.withoutIdentities := by
      rw [hsame]
      exact Allowed.refl owner locks _
    exact ⟨h'.settings, h'.event, h'.newEvent, h'.keys, h'.arrival, h'.newArrival, h'.grounded⟩
  refine ⟨hallowed, ⟨fun t ht => .inl ?_, fun t _ hdebt => hO t hdebt⟩, hQ hallowed⟩
  have ht' : OwedArrival t s'.withoutIdentities := ht
  rw [hsame] at ht'
  exact ht'

/-- **Settling an event** that waits: its scan, where it becomes one, is owed from then on. -/
theorem settle_commits (hbase : Base settings s) (hready : Ready owner e s)
    {xs : List ArrivalItem} (hQ : Allowed owner locks s s' → e.settled owner ∈ s'.events → Q s')
    (hs' : s' = s.setEvent e.device e.dedupeKey (owner e.device e.externalUserId).eventStatus
      (owner e.device e.externalUserId).id) :
    (arrivalRules owner).Commits locks (scansOwed xs)
      (scansOwed (xs ++ ((owner e.device e.externalUserId).scan? e).toList)) Q s s' := by
  -- The row that is overwritten is the event, waiting or settled already.
  obtain ⟨w, hw, hkey, hsettled, hwaits⟩ : ∃ w ∈ s.events, w.key = e.key ∧
      w.settled owner = e.settled owner ∧ (w = e ∨ w = e.settled owner) := by
    rcases hready.2 with hmem | hmem
    · exact ⟨e, hmem, rfl, rfl, .inl rfl⟩
    · exact ⟨_, hmem, rfl, rfl, .inr rfl⟩
  have hdevice : w.device = e.device := congrArg Prod.fst hkey
  have hdedupe : w.dedupeKey = e.dedupeKey := congrArg Prod.snd hkey
  have huser : w.externalUserId = e.externalUserId := by
    rcases hwaits with heq | heq
    · rw [heq]
    · rw [heq]
      rfl
  have hsaved : w.saved (owner e.device e.externalUserId).eventStatus
      (owner e.device e.externalUserId).id = e.settled owner := by
    rw [← hsettled]
    unfold DeviceEvent.settled
    rw [hdevice, huser]
  have hmem : ∀ v, v ∈ s'.events ↔ v = e.settled owner ∨ v ∈ s.events ∧ v ≠ w := by
    intro v
    rw [hs', ← hdevice, ← hdedupe, mem_setEvent_iff hbase.keys hw, hdevice, hsaved]
  have hitem : ∀ x, w.item? = some x → w = e.settled owner := by
    intro x hx
    rcases hwaits with heq | heq
    · rw [heq, item?_unmatched hready.1] at hx
      cases hx
    · exact heq
  have harrival : s'.arrival? = s.arrival? := by rw [hs']; rfl
  have hsettings : s'.settings = s.settings := by rw [hs']; rfl
  have hcovers : ∀ x, s'.Covers x ↔ s.Covers x := by
    intro x
    unfold DeviceStore.Covers
    rw [harrival, hsettings]
  have hstored : ∀ x, StoredScan x s → StoredScan x s' := by
    intro x ⟨v, hv, hvitem⟩
    by_cases hvw : v = w
    · rw [hvw] at hvitem
      rw [hitem x hvitem] at hvitem
      exact ⟨_, (hmem _).mpr (.inl rfl), hvitem⟩
    · exact ⟨v, (hmem v).mpr (.inr ⟨hv, hvw⟩), hvitem⟩
  have hallowed : Allowed owner locks s s' := by
    refine
      { settings := hsettings
        event := fun v hv => ?_
        newEvent := fun v hv => .inl ?_
        keys := ?_
        arrival := fun student date a ha => ⟨a, by rw [harrival]; exact ha, le_refl _, .inl rfl⟩
        newArrival := fun student date hnone hsome => ?_
        grounded := fun hg k a ha => ?_ }
    · by_cases hvw : v = w
      · refine ⟨e.settled owner, (hmem _).mpr (.inl rfl), ?_, ?_⟩
        · rw [hvw, hkey]
          rfl
        · rw [hvw]
          rcases hwaits with heq | heq
          · rw [heq]
            exact .inr ⟨hready.1, rfl⟩
          · exact .inl heq.symm
      · exact ⟨v, (hmem v).mpr (.inr ⟨hv, hvw⟩), rfl, .inl rfl⟩
    · rcases (hmem v).mp hv with heq | ⟨hold, _⟩
      · exact ⟨w, hw, by rw [heq, hkey]; rfl⟩
      · exact ⟨v, hold, rfl⟩
    · rw [hs', keys_setEvent]
      exact id
    · rw [harrival, hnone] at hsome
      cases hsome
    · rw [harrival] at ha
      obtain ⟨x, hx, hrest⟩ := hg k a ha
      rw [hsettings]
      exact ⟨x, (mem_items_iff s' x).mpr (hstored x ((mem_items_iff s x).mp hx)), hrest⟩
  refine ⟨hallowed, ⟨fun t ht => ?_, fun t _ hdebt => ?_⟩, hQ hallowed ((hmem _).mpr (.inl rfl))⟩
  · obtain ⟨v, hv, hvk, x, hx, hnot⟩ := ht
    rcases (hmem v).mp hv with heq | ⟨hold, _⟩
    · right
      have hscan : (owner e.device e.externalUserId).scan? e = some x := by
        rw [← item?_saved, ← hx, heq]
        rfl
      refine ⟨x, List.mem_append_right _ (by rw [hscan]; exact List.mem_singleton_self x), ?_⟩
      rw [item?_event hx, hvk]
    · exact .inl ⟨v, hold, hvk, x, hx, fun hc => hnot ((hcovers x).mpr hc)⟩
  · obtain ⟨x, hx, hxt⟩ := hdebt
    exact ⟨x, List.mem_append_left _ hx, hxt⟩

end Commits

end SchoolPlatform
