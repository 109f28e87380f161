import SchoolPlatform.Model.DeviceRoster

/-!
# What a plan for the users of a device comes to

`Planned` says why an item is in a plan. What the names are under one identifier, on the device
and in the roster, decides whether it is; carrying out a plan brings the two together.
-/

namespace SchoolPlatform.DeviceRoster

open KeySort DeviceRosterSyncAction

variable {b : RosterBook} {users : List DeviceUser} {item : PlanItem} {k : Text}
  {l l' : List (Text × Text)}

/-! ## Names under an identifier -/

def namesAt (k : Text) (l : List (Text × Text)) : List (Text × Text) := l.filter fun p => p.1 = k

theorem namesAt_eq_nil : namesAt k l = [] ↔ k ∉ l.map Prod.fst := by
  simp only [namesAt, List.filter_eq_nil_iff, List.mem_map, decide_eq_true_eq, not_exists, not_and]

theorem namesAt_eq_singleton (h : (l.map Prod.fst).Nodup) {p : Text × Text} (hp : p ∈ l) :
    namesAt p.1 l = [p] := Table.filter_key_eq h hp

theorem perm_of_namesAt (h : ∀ k, namesAt k l = namesAt k l') : l.Perm l' := by
  rw [List.perm_iff_count]
  intro p
  have hcount := congrArg (fun m => m.count p) (h p.1)
  simpa [namesAt, List.count_filter] using hcount

/-- What the server is told of the device. -/
def deviceNames (users : List DeviceUser) : List (Text × Text) :=
  (normalizeDeviceUsers users).map DeviceUser.named

/-- Who should be on the device. -/
def rosterNames (b : RosterBook) : List (Text × Text) :=
  b.activeStudentRoster.map ManagedSnapshot.named

/-- The students that should be on the device have different generated identifiers. -/
def DistinctIds (b : RosterBook) : Prop := ((rosterNames b).map Prod.fst).Nodup

theorem mem_rosterIds : k ∈ (rosterNames b).map Prod.fst ↔
    ∃ row ∈ b.activeStudentRoster, row.externalUserId = k := by
  rw [rosterNames, List.map_map]
  exact List.mem_map

/-! ## The items of a plan -/

theorem keys_desiredById : b.desiredById.keys =
    (Dict.ofList (b.activeStudentRoster.map fun row => (row.externalUserId, row))).keys := by
  simp [RosterBook.desiredById, Dict.keys, Dict.mapValues]

theorem mem_keys_desiredById : k ∈ b.desiredById.keys ↔ k ∈ (rosterNames b).map Prod.fst := by
  rw [keys_desiredById, Dict.mem_keys_ofList, mem_rosterIds]
  simp

theorem of_get?_desiredById {row' : ManagedSnapshot} (h : b.desiredById.get? k = some row') :
    ∃ row ∈ b.activeStudentRoster, row.externalUserId = k ∧ b.renamed row = row' := by
  unfold RosterBook.desiredById at h
  rw [Dict.get?_mapValues, Option.map_eq_some_iff] at h
  obtain ⟨row, hrow, rfl⟩ := h
  obtain ⟨row, hmem, heq⟩ := List.mem_map.mp (Dict.mem_of_get?_ofList hrow)
  cases heq
  exact ⟨row, hmem, rfl, rfl⟩

theorem of_get?_identityById {i : StudentDeviceIdentity} (h : b.identityById.get? k = some i) :
    i ∈ b.identities ∧ i.externalUserId = k := by
  obtain ⟨j, hj, heq⟩ := List.mem_map.mp (Dict.mem_of_get?_ofList h)
  cases heq
  exact ⟨hj, rfl⟩

/-- Why an item is planned. -/
inductive Planned (b : RosterBook) (users : List DeviceUser) (item : PlanItem) : Prop
  | conflict (haction : item.action = conflict)
      (hlisted : item.externalUserId ∈ (deviceNames users).map Prod.fst)
      (h : ∀ name,
        namesAt item.externalUserId (deviceNames users) = [(item.externalUserId, name)] →
        openIdentity (b.identityById.get? item.externalUserId) = false →
        item.externalUserId ∉ (rosterNames b).map Prod.fst)
  | kept (name : Text) (row : ManagedSnapshot)
      (haction : item.action = if name = row.displayName then matched else update)
      (hlisted : namesAt item.externalUserId (deviceNames users) = [(item.externalUserId, name)])
      (hopen : openIdentity (b.identityById.get? item.externalUserId) = false)
      (hrow : row ∈ b.activeStudentRoster) (hid : row.externalUserId = item.externalUserId)
      (hstudent : item.student = some row.studentId) (hname : item.displayName = row.displayName)
  | gone (name : Text) (i : StudentDeviceIdentity) (s : Student) (haction : item.action = delete)
      (hlisted : namesAt item.externalUserId (deviceNames users) = [(item.externalUserId, name)])
      (hroster : item.externalUserId ∉ (rosterNames b).map Prod.fst) (hi : i ∈ b.identities)
      (hid : i.externalUserId = item.externalUserId)
      (hclosed : i.status ≠ .conflict ∧ i.status ≠ .unmatched) (hstudent : item.student = some s.id)
      (his : i.student = some s.id) (hs : s ∈ b.registry.students)
      (hgone : s.status ∈ ineligibleStatuses)
  | missing (row : ManagedSnapshot) (haction : item.action = create)
      (hlisted : namesAt item.externalUserId (deviceNames users) = [])
      (hrow : row ∈ b.activeStudentRoster) (hid : row.externalUserId = item.externalUserId)
      (hstudent : item.student = some row.studentId) (hname : item.displayName = row.displayName)

theorem externalUserId_deviceItem (k : Text) (us : List DeviceUser) :
    (b.deviceItem k us).externalUserId = k := by
  unfold RosterBook.deviceItem
  dsimp only
  repeat' split
  all_goals rfl

theorem planned_deviceItem (hk : k ∈ (deviceNames users).map Prod.fst) : Planned b users
    (b.deviceItem k ((normalizeDeviceUsers users).filter fun u => u.externalUserId = k)) := by
  have hnames : namesAt k (deviceNames users) = ((normalizeDeviceUsers users).filter fun u =>
      u.externalUserId = k).map DeviceUser.named := List.filter_map
  unfold RosterBook.deviceItem
  dsimp only
  split
  · rename_i user hone
    have hmem := List.mem_singleton_self user
    rw [← hone] at hmem
    have hid : user.externalUserId = k := of_decide_eq_true (List.mem_filter.mp hmem).2
    rw [hone] at hnames
    subst hid
    split
    · rename_i hopen
      exact .conflict rfl hk fun _ _ hclosed => absurd hopen (Bool.not_eq_true _ ▸ hclosed)
    rename_i hopen
    split
    · rename_i row' hget
      obtain ⟨row, hrow, hid, rfl⟩ := of_get?_desiredById hget
      exact .kept user.displayName row rfl hnames (Bool.not_eq_true _ ▸ hopen) hrow hid rfl rfl
    rename_i hget
    have hroster : user.externalUserId ∉ (rosterNames b).map Prod.fst := by
      intro hk
      obtain ⟨row, hrow⟩ := (Dict.mem_keys_iff _).mp (mem_keys_desiredById.mpr hk)
      rw [hget] at hrow
      cases hrow
    split
    · rename_i hgone
      obtain ⟨id, hid⟩ := Option.isSome_iff_exists.mp hgone
      obtain ⟨hbind, hany⟩ := Option.filter_eq_some_iff.mp hid
      obtain ⟨i, hi, his⟩ := Option.bind_eq_some_iff.mp hbind
      obtain ⟨s, hs, hsid⟩ := List.any_eq_true.mp hany
      obtain ⟨rfl, hstatus⟩ := of_decide_eq_true hsid
      rw [hi] at hopen
      simp only [openIdentity, Option.any_some, decide_eq_true_eq, not_or] at hopen
      exact .gone user.displayName i s rfl hnames hroster (of_get?_identityById hi).1
        (of_get?_identityById hi).2 hopen hid his hs hstatus
    · exact .conflict rfl hk fun _ _ _ => hroster
  · rename_i hmany
    refine .conflict rfl hk fun name hname => ?_
    rw [hnames] at hname
    obtain ⟨u, hu⟩ := List.length_eq_one_iff.mp (by simpa using congrArg List.length hname)
    exact absurd hu (hmany u)

theorem externalUserId_createItem (k : Text) (row : ManagedSnapshot) :
    (b.createItem k row).externalUserId = k := by
  unfold RosterBook.createItem
  cases hget : b.identityById.get? k with
  | none => rfl
  | some i => exact (of_get?_identityById hget).2

theorem ids_compareDeviceRoster :
    (b.compareDeviceRoster users).map PlanItem.externalUserId =
      (Dict.groupBy DeviceUser.externalUserId (normalizeDeviceUsers users)).keys ++
        b.desiredById.keys.filter fun k =>
          !(Dict.groupBy DeviceUser.externalUserId (normalizeDeviceUsers users)).keys.contains k := by
  unfold RosterBook.compareDeviceRoster
  simp [Dict.keys, externalUserId_deviceItem, externalUserId_createItem, List.filter_map,
    Function.comp_def]

theorem mem_listedIds : k ∈ (Dict.groupBy DeviceUser.externalUserId
    (normalizeDeviceUsers users)).keys ↔ k ∈ (deviceNames users).map Prod.fst := by
  rw [Dict.mem_keys_groupBy, deviceNames, List.map_map]
  exact List.mem_map.symm

theorem unlisted_iff {ids : List Text} : (!ids.contains k) = true ↔ k ∉ ids := by simp

theorem nodup_planIds : ((b.compareDeviceRoster users).map PlanItem.externalUserId).Nodup := by
  rw [ids_compareDeviceRoster, List.nodup_append]
  refine ⟨Dict.nodup_keys_groupBy _ _, ?_, ?_⟩
  · rw [keys_desiredById]
    exact (Dict.nodup_keys_ofList _).filter _
  · rintro k hk _ hk' rfl
    exact unlisted_iff.mp (List.mem_filter.mp hk').2 hk

theorem mem_planIds : k ∈ (b.compareDeviceRoster users).map PlanItem.externalUserId ↔
    k ∈ (deviceNames users).map Prod.fst ∨ k ∈ (rosterNames b).map Prod.fst := by
  rw [ids_compareDeviceRoster, List.mem_append, List.mem_filter, unlisted_iff, mem_listedIds,
    mem_keys_desiredById]
  by_cases hk : k ∈ (deviceNames users).map Prod.fst <;> simp only [hk, true_or, false_or,
    not_false_eq_true, and_true]

theorem planned_of_mem (h : item ∈ b.compareDeviceRoster users) : Planned b users item := by
  rcases List.mem_append.mp h with h | h
  · obtain ⟨⟨k, us⟩, he, rfl⟩ := List.mem_map.mp h
    obtain ⟨-, rfl⟩ := (Dict.mem_groupBy _ _ _ _).mp he
    exact planned_deviceItem (mem_listedIds.mp (List.mem_map_of_mem he))
  · obtain ⟨⟨k, row'⟩, he, rfl⟩ := List.mem_map.mp h
    obtain ⟨hmem, hk⟩ := List.mem_filter.mp he
    have hkeys : b.desiredById.keys.Nodup := by
      rw [keys_desiredById]
      exact Dict.nodup_keys_ofList _
    obtain ⟨row, hrow, hid, rfl⟩ := of_get?_desiredById ((Dict.mem_iff_get? hkeys _ _).mp hmem)
    rw [unlisted_iff, mem_listedIds, ← namesAt_eq_nil] at hk
    have hsame := externalUserId_createItem (b := b) k (b.renamed row)
    exact .missing row rfl (hsame.symm ▸ hk) hrow (hid.trans hsame.symm) rfl rfl

/-- What a plan promises. -/
structure PlanSound (b : RosterBook) (users : List DeviceUser) : Prop where
  once : ((b.compareDeviceRoster users).map PlanItem.externalUserId).Nodup
  whole : ∀ k, k ∈ (b.compareDeviceRoster users).map PlanItem.externalUserId ↔
    k ∈ (deviceNames users).map Prod.fst ∨ k ∈ (rosterNames b).map Prod.fst
  planned : ∀ item ∈ b.compareDeviceRoster users, Planned b users item

/-- **A plan** has one item for each user of the device and each student, and takes nobody away but
students who have left. -/
theorem plan_sound (b : RosterBook) (users : List DeviceUser) : PlanSound b users where
  once := nodup_planIds
  whole := fun _ => mem_planIds
  planned := fun _ => planned_of_mem

/-! ## When nothing is left to be done -/

/-- The users of the device are the students that should be on it. -/
structure Synchronised (b : RosterBook) (users : List DeviceUser) : Prop where
  names : (deviceNames users).Perm (rosterNames b)
  identities : ∀ k ∈ (rosterNames b).map Prod.fst, openIdentity (b.identityById.get? k) = false

theorem namesAt_rosterNames (hids : DistinctIds b) {row : ManagedSnapshot}
    (hrow : row ∈ b.activeStudentRoster) :
    namesAt row.externalUserId (rosterNames b) = [row.named] :=
  namesAt_eq_singleton hids (List.mem_map_of_mem hrow)

/-- What an item that is matched says. -/
theorem matched_spec (hids : DistinctIds b) (hitem : item ∈ b.compareDeviceRoster users)
    (h : item.action = matched) :
    namesAt item.externalUserId (deviceNames users) =
        namesAt item.externalUserId (rosterNames b) ∧
      openIdentity (b.identityById.get? item.externalUserId) = false := by
  cases planned_of_mem hitem with
  | conflict haction => simp [haction] at h
  | kept name row haction hlisted hopen hrow hid =>
    have hname : name = row.displayName := by
      by_contra hne
      simp [haction, hne] at h
    rw [hlisted, ← hid, namesAt_rosterNames hids hrow, hname]
    exact ⟨rfl, hid ▸ hopen⟩
  | gone name i s haction => simp [haction] at h
  | missing row haction => simp [haction] at h

theorem synchronised_iff (hids : DistinctIds b) :
    Synchronised b users ↔ ∀ item ∈ b.compareDeviceRoster users, item.action = matched := by
  constructor
  · rintro ⟨hnames, hopen⟩ item hitem
    have hdevice : ((deviceNames users).map Prod.fst).Nodup := (hnames.map _).nodup_iff.mpr hids
    have hmem : ∀ name, namesAt item.externalUserId (deviceNames users) =
        [(item.externalUserId, name)] → (item.externalUserId, name) ∈ rosterNames b := by
      intro name hlisted
      have hin := List.mem_singleton_self (item.externalUserId, name)
      rw [← hlisted] at hin
      exact hnames.subset (List.mem_of_mem_filter hin)
    cases planned_of_mem hitem with
    | conflict haction hlisted h =>
      have hroster := (hnames.map _).subset hlisted
      obtain ⟨p, hp, hid⟩ := List.mem_map.mp hlisted
      refine absurd hroster (h p.2 ?_ (hopen _ hroster))
      rw [← hid]
      exact namesAt_eq_singleton hdevice hp
    | kept name row haction hlisted _ hrow hid =>
      have hin : row.named ∈ rosterNames b := List.mem_map_of_mem hrow
      have heq := List.inj_on_of_nodup_map hids (hmem name hlisted) hin hid.symm
      rw [haction]
      exact if_pos (Prod.mk.inj heq).2
    | gone name i s _ hlisted hroster =>
      exact absurd (List.mem_map_of_mem (hmem name hlisted)) hroster
    | missing row _ hlisted hrow hid =>
      rw [namesAt_eq_nil] at hlisted
      refine absurd ((hnames.map _).symm.subset ?_) hlisted
      exact mem_rosterIds.mpr ⟨row, hrow, hid⟩
  · intro h
    constructor
    · apply perm_of_namesAt
      intro k
      by_cases hk : k ∈ (b.compareDeviceRoster users).map PlanItem.externalUserId
      · obtain ⟨item, hitem, rfl⟩ := List.mem_map.mp hk
        exact (matched_spec hids hitem (h item hitem)).1
      · rw [mem_planIds, not_or] at hk
        rw [namesAt_eq_nil.mpr hk.1, namesAt_eq_nil.mpr hk.2]
    · intro k hk
      obtain ⟨item, hitem, rfl⟩ := List.mem_map.mp (mem_planIds.mpr (.inr hk))
      exact (matched_spec hids hitem (h item hitem)).2

theorem nothing_counted_iff {plan : List PlanItem} :
    ([create, update, delete, conflict].all fun action => actionCount plan action = 0) = true ↔
      ∀ item ∈ plan, item.action = matched := by
  simp only [List.all_eq_true, decide_eq_true_eq, actionCount, List.countP_eq_zero]
  constructor
  · intro h item hitem
    cases haction : item.action with
    | matched => rfl
    | _ => exact absurd haction (h _ (by simp) item hitem)
  · intro h action haction item hitem heq
    rw [← heq, h item hitem] at haction
    simp at haction

/-- **A running job is completed** by a reading exactly when the device has the active students
and nobody else, under their generated identifiers. -/
theorem read_completes_iff (hids : DistinctIds b) (job : DeviceRosterSyncJob)
    (hrunning : job.status = .running) (users : List DeviceUser)
    (version : Option (Digest (List (Text × Text)))) :
    (bridgeRosterRead b job users version).1.status = .completed ↔ Synchronised b users := by
  rw [synchronised_iff hids, ← nothing_counted_iff]
  unfold bridgeRosterRead
  rw [hrunning]
  dsimp only
  split_ifs with h
  · exact iff_of_true rfl h
  · exact iff_of_false (by simp [hrunning]) h

/-- A school with one student. -/
def oneStudent : RosterBook where
  registry :=
    { academicYears := [{ id := 1, startDate := 1, endDate := 9, status := .active }]
      students := [{ id := 1, nationalIdLookupHash := "", nationalIdMasked := "",
                     studentNumber := none, fullName := "Sara", mergedInto := none,
                     status := .active, statusChangedAt := none, exitDate := none,
                     exitReason := "" }]
      enrollments := [{ id := 1, student := 1, academicYear := 1, grade := 1, sectionId := 1,
                        status := .active, enrolledAt := 1, endedAt := none }] }
  identities := []
  uuid5 := fun n => List.replicate (n + 35) 'f'

theorem distinctIds_oneStudent : DistinctIds oneStudent := by
  unfold DistinctIds
  decide +kernel

theorem read_completes_iff_oneStudent :
    (bridgeRosterRead oneStudent { status := .running } [] none).1.status = .completed ↔
      Synchronised oneStudent [] :=
  read_completes_iff distinctIds_oneStudent _ rfl _ _

/-! ## Versions -/

/-- A name that the server leaves as it is. -/
def Normal (p : Text × Text) : Prop :=
  Text.Stripped p.1 ∧ p.1 ≠ [] ∧ p.1.length ≤ 64 ∧ Text.Stripped p.2 ∧ p.2.length ≤ 150

theorem deviceNames_of_normal (h : ∀ u ∈ users, Normal u.named) :
    deviceNames users = users.map DeviceUser.named := by
  have hnormal : ∀ u ∈ users, Normal (u.externalUserId, u.displayName) := h
  unfold deviceNames normalizeDeviceUsers
  rw [List.filter_eq_self.mpr, List.map_map]
  · apply List.map_congr_left
    intro u hu
    obtain ⟨hid, -, hidLength, hname, hnameLength⟩ := hnormal u hu
    simp only [Text.Stripped] at hid hname
    simp [DeviceUser.named, hid, hname, List.take_of_length_le hidLength,
      List.take_of_length_le hnameLength]
  · intro u hu
    obtain ⟨hid, hne, -⟩ := hnormal u hu
    simp only [Text.Stripped] at hid
    simpa [hid] using hne

/-! ## A device of ZKTeco -/

/-- A generated identifier begins with a letter. -/
theorem validateExternalUserId_stable (s : Student) :
    validateExternalUserId (b.stableExternalUserId s) = none := by
  have hfront : Text.strip (b.stableExternalUserId s) <+: 's' :: ("tu-".toList ++ b.uuid5 s.id) :=
    List.rdropWhile_prefix _ _
  unfold validateExternalUserId
  cases h : Text.strip (b.stableExternalUserId s) with
  | nil => rfl
  | cons c rest =>
    rw [h] at hfront
    obtain ⟨rfl, -⟩ := List.cons_prefix_cons.mp hfront
    have hletter : Text.isDecimal 's' = false := by decide
    simp [hletter]

theorem stable_of_mem {row : ManagedSnapshot} (h : row ∈ b.activeStudentRoster) :
    ∃ s, row.externalUserId = b.stableExternalUserId s := by
  unfold RosterBook.activeStudentRoster at h
  split at h
  · cases h
  · obtain ⟨s, -, rfl⟩ := List.mem_map.mp h
    exact ⟨s, rfl⟩

/-- **A ZKTeco device takes no user of the platform**: of the commands of a plan those that create
or rename a user are refused there, to be tried again, and leave the device as it is. -/
theorem zkteco_refuses {σ : Type} (connected : σ → Text → PlanItem → σ × CommandResult)
    (device : σ) (hitem : item ∈ b.compareDeviceRoster users)
    (haction : item.action = create ∨ item.action = update) :
    zkCommand connected device item =
      (device, ⟨.failedRetryable, "DEVICE_COMMAND_EXECUTION_FAILED"⟩) := by
  have hrow : ∃ row ∈ b.activeStudentRoster, row.externalUserId = item.externalUserId := by
    cases planned_of_mem hitem with
    | conflict h => simp [h] at haction
    | kept name row _ _ _ hrow hid => exact ⟨row, hrow, hid⟩
    | gone name i s h => simp [h] at haction
    | missing row _ _ hrow hid => exact ⟨row, hrow, hid⟩
  obtain ⟨row, hrow, hid⟩ := hrow
  obtain ⟨s, hstable⟩ := stable_of_mem hrow
  rw [zkCommand, ← hid, hstable, validateExternalUserId_stable]

theorem zkteco_refuses_oneStudent : ∃ item ∈ oneStudent.compareDeviceRoster [],
    zkCommand (fun device _ _ => (device, ⟨.succeeded, ""⟩)) () item =
      ((), ⟨.failedRetryable, "DEVICE_COMMAND_EXECUTION_FAILED"⟩) := by
  have hcreate : ∃ item ∈ oneStudent.compareDeviceRoster [], item.action = create := by
    decide +kernel
  obtain ⟨item, hitem, haction⟩ := hcreate
  exact ⟨item, hitem, zkteco_refuses _ _ hitem (.inl haction)⟩

/-! ## Carrying out a plan -/

theorem namesAt_createUser (k id name : Text) (us : List DeviceUser)
    (h : namesAt id (us.map DeviceUser.named) = [] ∨
      namesAt id (us.map DeviceUser.named) = [(id, name)]) :
    namesAt k ((createUser id name us).map DeviceUser.named) =
      if k = id then [(id, name)] else namesAt k (us.map DeviceUser.named) := by
  have hany : (us.any fun u => u.externalUserId = id) = true ↔
      namesAt id (us.map DeviceUser.named) ≠ [] := by
    simp [namesAt, DeviceUser.named]
  unfold createUser
  split_ifs with hknown hk hk
  · rw [hk]
    exact h.resolve_left (hany.mp hknown)
  · rfl
  · subst hk
    rw [List.map_append, namesAt, List.filter_append]
    exact (congrArg (· ++ _) (not_not.mp fun hne => hknown (hany.mpr hne))).trans
      (by simp [DeviceUser.named])
  · simp [namesAt, DeviceUser.named, Ne.symm hk]

theorem namesAt_updateUser (k id name : Text) (us : List DeviceUser) {p : Text × Text}
    (h : namesAt id (us.map DeviceUser.named) = [p]) :
    namesAt k ((updateUser id name us).map DeviceUser.named) =
      if k = id then [(id, name)] else namesAt k (us.map DeviceUser.named) := by
  induction us with
  | nil => cases h
  | cons u us ih =>
    by_cases hu : u.externalUserId = id
    · have hrest : namesAt id (us.map DeviceUser.named) = [] := by
        simpa [namesAt, DeviceUser.named, hu] using congrArg List.tail h
      simp only [namesAt] at hrest
      by_cases hk : k = id
      · subst hk
        simp [updateUser, namesAt, DeviceUser.named, hu, hrest]
      · simp [updateUser, namesAt, DeviceUser.named, hu, hk, Ne.symm hk]
    · have hrest := ih (by simpa [namesAt, DeviceUser.named, hu] using h)
      simp only [updateUser, if_neg hu, namesAt, List.map_cons, List.filter_cons] at hrest ⊢
      rw [hrest]
      by_cases hk : k = id
      · subst hk
        simp [DeviceUser.named, hu]
      · simp [hk]

theorem namesAt_deleteUser (k id : Text) (us : List DeviceUser) :
    namesAt k ((deleteUser id us).map DeviceUser.named) =
      if k = id then [] else namesAt k (us.map DeviceUser.named) := by
  unfold deleteUser
  split_ifs with hk
  · rw [namesAt_eq_nil, hk]
    simp [DeviceUser.named]
  · rw [namesAt, List.filter_map, List.filter_filter, namesAt, List.filter_map]
    congr 1
    apply List.filter_congr
    intro u _
    by_cases hu : u.externalUserId = k <;> simp [DeviceUser.named, hu, hk]

section Execution

variable {commands : List PlanItem} (hids : DistinctIds b) (husers : ∀ u ∈ users, Normal u.named)
  (hconflict : ∀ item ∈ b.compareDeviceRoster users, item.action ≠ conflict)

include hids husers hconflict

theorem namesAt_runCommand (hitem : item ∈ b.compareDeviceRoster users)
    (hmatched : item.action ≠ matched) (us : List DeviceUser)
    (h : namesAt item.externalUserId (us.map DeviceUser.named) =
        namesAt item.externalUserId (users.map DeviceUser.named) ∨
      namesAt item.externalUserId (us.map DeviceUser.named) =
        namesAt item.externalUserId (rosterNames b)) (k : Text) :
    namesAt k ((runCommand us item).map DeviceUser.named) =
      if k = item.externalUserId then namesAt item.externalUserId (rosterNames b)
      else namesAt k (us.map DeviceUser.named) := by
  have hroster : ∀ row ∈ b.activeStudentRoster, row.externalUserId = item.externalUserId →
      item.displayName = row.displayName →
        namesAt item.externalUserId (rosterNames b) =
          [(item.externalUserId, item.displayName)] := by
    rintro row hrow hid hname
    rw [← hid, namesAt_rosterNames hids hrow, hname]
    rfl
  rw [← deviceNames_of_normal husers] at h
  unfold runCommand
  cases planned_of_mem hitem with
  | conflict haction => exact absurd haction (hconflict item hitem)
  | kept name row haction hlisted _ hrow hid _ hname =>
    have hupdate : item.action = update := by
      split at haction
      · exact absurd haction hmatched
      · exact haction
    rw [hlisted, hroster row hrow hid hname] at h
    rw [hupdate, hroster row hrow hid hname]
    rcases h with h | h
    · exact namesAt_updateUser _ _ _ _ h
    · exact namesAt_updateUser _ _ _ _ h
  | gone name i s haction _ hnot =>
    rw [haction, namesAt_eq_nil.mpr hnot]
    exact namesAt_deleteUser _ _ _
  | missing row haction hlisted hrow hid _ hname =>
    rw [hlisted, hroster row hrow hid hname] at h
    rw [haction, hroster row hrow hid hname]
    exact namesAt_createUser _ _ _ _ h

theorem namesAt_foldl
    (hcommands : ∀ c ∈ commands, c ∈ b.compareDeviceRoster users ∧ c.action ≠ matched)
    (k : Text) :
    namesAt k ((commands.foldl runCommand users).map DeviceUser.named) =
      if k ∈ commands.map PlanItem.externalUserId then namesAt k (rosterNames b)
      else namesAt k (users.map DeviceUser.named) := by
  induction commands using List.reverseRecOn generalizing k with
  | nil => simp
  | append_singleton l c ih =>
    have ih := ih fun c hc => hcommands c (List.mem_append_left _ hc)
    obtain ⟨hitem, hmatched⟩ := hcommands c (by simp)
    rw [List.foldl_append, List.foldl_cons, List.foldl_nil,
      namesAt_runCommand hids husers hconflict hitem hmatched _ ?_]
    · by_cases hk : k = c.externalUserId
      · subst hk
        simp
      · rw [if_neg hk, ih]
        simp [hk]
    · rw [ih]
      split_ifs <;> simp

end Execution

/-- **Carrying out a plan synchronises the device**: when nothing is in conflict, the commands of
the plan in any order, each of them at least once, leave a device of which nothing more is planned,
unless the roster has changed or an identity of it is open. -/
theorem commands_synchronise (b now : RosterBook) (users : List DeviceUser)
    (hids : DistinctIds b) (hroster : ∀ p ∈ rosterNames b, Normal p)
    (husers : ∀ u ∈ users, Normal u.named)
    (hconflict : ∀ item ∈ b.compareDeviceRoster users, item.action ≠ conflict)
    (commands : List PlanItem)
    (hcommands : ∀ c, c ∈ commands ↔ c ∈ b.compareDeviceRoster users ∧ c.action ≠ matched)
    (hsame : rosterNames now = rosterNames b)
    (hclosed : ∀ k ∈ (rosterNames now).map Prod.fst,
      openIdentity (now.identityById.get? k) = false) :
    ∀ item ∈ now.compareDeviceRoster (commands.foldl runCommand users),
      item.action = matched := by
  have hnames : ((commands.foldl runCommand users).map DeviceUser.named).Perm
      (rosterNames b) := by
    apply perm_of_namesAt
    intro k
    rw [namesAt_foldl hids husers hconflict fun c hc => (hcommands c).mp hc]
    split_ifs with hk
    · rfl
    rw [← deviceNames_of_normal husers]
    by_cases hplan : k ∈ (b.compareDeviceRoster users).map PlanItem.externalUserId
    · obtain ⟨item, hitem, rfl⟩ := List.mem_map.mp hplan
      refine (matched_spec hids hitem ?_).1
      by_contra hne
      exact hk (List.mem_map_of_mem ((hcommands item).mpr ⟨hitem, hne⟩))
    · rw [mem_planIds, not_or] at hplan
      rw [namesAt_eq_nil.mpr hplan.1, namesAt_eq_nil.mpr hplan.2]
  rw [← synchronised_iff (by rwa [DistinctIds, hsame])]
  refine ⟨?_, hclosed⟩
  rw [hsame, deviceNames_of_normal]
  · exact hnames
  · exact fun u hu => hroster _ (hnames.subset (List.mem_map_of_mem hu))

theorem commands_synchronise_oneStudent : ∃ plan,
    plan = oneStudent.compareDeviceRoster
      ((oneStudent.compareDeviceRoster []).foldl runCommand []) ∧
    ∀ item ∈ plan, item.action = matched :=
  ⟨_, rfl, commands_synchronise oneStudent oneStudent [] distinctIds_oneStudent
    (by unfold Normal; decide +kernel) (by simp) (by decide +kernel) _
    (fun c => (and_iff_left_of_imp (by revert c; decide +kernel)).symm) rfl (by decide +kernel)⟩

/-! ## Commands in the hands of a bridge -/

/-- The command of an item can be handed out without a retry. -/
def dueAt (job : DeviceRosterSyncJob) (n : ℕ) : ℕ :=
  if (job.items[n]?).any fun i => i.status = .pending then 1 else 0

/-- The item has its result, or nothing is reported of a command that was handed out. -/
def SpentAt (job : DeviceRosterSyncJob) (n : ℕ) (reported : Bool) : Prop :=
  ∃ i, job.items[n]? = some i ∧ (i.status = .succeeded ∨ i.status = .failedFinal ∨
    i.status = .running ∧ reported = false)

variable {job job' : DeviceRosterSyncJob} {handed : List ℕ} {n retries : ℕ} {reported : Bool}

/-- What requests may do about an item. -/
structure Handled (job job' : DeviceRosterSyncJob) (handed : List ℕ) (retries n : ℕ)
    (reported : Bool) : Prop where
  analysed : job'.status ≠ .analyzing
  due : handed.count n + dueAt job' n ≤ dueAt job n + retries
  spent : SpentAt job n reported → SpentAt job' n reported ∧ n ∉ handed

theorem Handled.same (hjob : job'.status ≠ .analyzing) (hn : n ∉ handed)
    (h : (job'.items[n]?).map DeviceRosterSyncItem.status =
      (job.items[n]?).map DeviceRosterSyncItem.status) :
    Handled job job' handed retries n reported := by
  have hcount := List.count_eq_zero_of_not_mem hn
  cases hi : job.items[n]? with
  | none =>
    have hi' : job'.items[n]? = none := by simpa [hi] using h
    constructor <;> simp [hi, hi', dueAt, SpentAt, hjob, hn, hcount]
  | some i =>
    obtain ⟨i', hi', hstatus⟩ : ∃ i', job'.items[n]? = some i' ∧ i'.status = i.status := by
      simpa [hi] using h
    constructor <;> simp [hi, hi', hstatus, dueAt, SpentAt, hjob, hn, hcount]

theorem Handled.changed {i : DeviceRosterSyncItem} (hjob : job'.status ≠ .analyzing)
    (hi : job.items[n]? = some i)
    (hopen : ¬(i.status = .succeeded ∨ i.status = .failedFinal ∨
      i.status = .running ∧ reported = false))
    (hdue : handed.count n + dueAt job' n ≤ dueAt job n + retries) :
    Handled job job' handed retries n reported where
  analysed := hjob
  due := hdue
  spent := by
    rintro ⟨j, hj, hspent⟩
    rw [hi, Option.some.injEq] at hj
    exact absurd (hj ▸ hspent) hopen

theorem Handled.trans {job₂ : DeviceRosterSyncJob} {handed₂ : List ℕ} {retries₂ : ℕ}
    (h : Handled job job' handed retries n reported)
    (h₂ : Handled job' job₂ handed₂ retries₂ n reported) :
    Handled job job₂ (handed ++ handed₂) (retries + retries₂) n reported where
  analysed := h₂.analysed
  due := by
    have hfirst := h.due
    have hsecond := h₂.due
    rw [List.count_append]
    omega
  spent := by
    intro hspent
    obtain ⟨hbetween, hfirst⟩ := h.spent hspent
    obtain ⟨hend, hsecond⟩ := h₂.spent hbetween
    exact ⟨hend, by simp [hfirst, hsecond]⟩

theorem mem_pendingCommands (h : n ∈ job.pendingCommands) :
    ∃ i, job.items[n]? = some i ∧ i.status = .pending := by
  have hany := (List.mem_filter.mp (List.mem_of_mem_take h)).2
  obtain ⟨i, hi, hpending⟩ := (Option.any_eq_true _ _).mp hany
  exact ⟨i, hi, (of_decide_eq_true hpending).2⟩

theorem handled_bridgeDeviceConfigs (hjob : job.status ≠ .analyzing) :
    Handled job (bridgeDeviceConfigs job).1 (bridgeDeviceConfigs job).2 retries n reported := by
  unfold bridgeDeviceConfigs
  split_ifs
  · exact .same hjob List.not_mem_nil rfl
  by_cases hn : n ∈ job.pendingCommands
  · obtain ⟨i, hi, hpending⟩ := mem_pendingCommands hn
    have honce : job.pendingCommands.Nodup :=
      (List.nodup_range.filter _).sublist (List.take_sublist _ _)
    refine .changed hjob hi (by simp [hpending]) ?_
    simp [dueAt, hi, hn, hpending, List.count_eq_one_of_mem honce hn]
  · exact .same hjob hn (by simp [hn])

theorem statusWith_ne (items : List DeviceRosterSyncItem) : statusWith items ≠ .analyzing := by
  unfold statusWith
  split_ifs <;> simp

theorem handled_bridgeRosterCommandResult (hjob : job.status ≠ .analyzing) (m : ℕ)
    (commandId : Text) (result : { r // r ∈ resultChoices })
    (hreported : m = n → reported = true) :
    Handled job (bridgeRosterCommandResult job m commandId result).1 [] retries n reported := by
  unfold bridgeRosterCommandResult
  split_ifs
  · exact .same hjob List.not_mem_nil rfl
  split
  · exact .same hjob List.not_mem_nil rfl
  rename_i item hitem
  split_ifs with hsettled
  · exact .same hjob List.not_mem_nil rfl
  by_cases hm : m = n
  · subst hm
    have hi := (Option.filter_eq_some_iff.mp hitem).1
    have hchoice : result.1 ≠ .pending := by
      intro hpending
      simpa [hpending, resultChoices] using result.2
    have hi' : (job.items.set m { item with status := result.1 })[m]? =
        some { item with status := result.1 } :=
      List.getElem?_set_self (List.getElem?_eq_some_iff.mp hi).1
    refine .changed (statusWith_ne _) hi (by simpa [hreported rfl] using hsettled) ?_
    simp [dueAt, hi', hchoice]
  · exact .same (statusWith_ne _) List.not_mem_nil (by simp [hm])

theorem handled_answer (hjob : job.status ≠ .analyzing) (r : JobRequest)
    (hreported : r.reports n = true → reported = true) :
    Handled job (answer job r).1 (answer job r).2 r.isRetry.toNat n reported := by
  cases r with
  | approve b hasFeature uuid4 =>
    simp only [answer, approveJob]
    split_ifs
    all_goals exact .same (by simp [hjob]) List.not_mem_nil (by simp [Function.comp_def, apply_ite])
  | read b users version =>
    simp only [answer, bridgeRosterRead]
    split
    · split_ifs <;> exact .same (by simp) List.not_mem_nil rfl
    · split_ifs <;> exact .same (by simp [hjob]) List.not_mem_nil rfl
    · exact absurd ‹_› hjob
    · exact .same hjob List.not_mem_nil rfl
  | heartbeat => exact handled_bridgeDeviceConfigs hjob
  | result m commandId result =>
    exact handled_bridgeRosterCommandResult hjob m commandId result fun hm =>
      hreported (decide_eq_true hm)
  | retry =>
    simp only [answer, deviceRosterRetry]
    split_ifs
    · exact .same hjob List.not_mem_nil rfl
    cases hi : job.items[n]? with
    | none => exact .same (by simp) List.not_mem_nil (by simp [hi])
    | some i =>
      by_cases hfailed : i.status = .failedRetryable
      · refine .changed (by simp) hi (by simp [hfailed]) ?_
        simp [dueAt, hi, hfailed, JobRequest.isRetry]
      · exact .same (by simp) List.not_mem_nil (by simp [hi, hfailed])

theorem handled_handle (requests : List JobRequest) (hjob : job.status ≠ .analyzing)
    (hreported : ∀ r ∈ requests, r.reports n = true → reported = true) :
    Handled job (handle job requests).1 (handle job requests).2
      (requests.countP JobRequest.isRetry) n reported := by
  induction requests generalizing job with
  | nil => exact .same hjob List.not_mem_nil rfl
  | cons r requests ih =>
    have hfirst := handled_answer hjob r (hreported r (by simp))
    have hrest := ih hfirst.analysed fun r hr => hreported r (by simp [hr])
    have hcount : (r :: requests).countP JobRequest.isRetry =
        r.isRetry.toNat + requests.countP JobRequest.isRetry := by
      cases hretry : r.isRetry <;> simp [hretry, Nat.add_comm]
    exact hcount ▸ hfirst.trans hrest

/-- **What is handed out to a bridge.** Whatever becomes of an analysis, one request at a time, a
command is handed out at most once more than the job is tried again, and never after its result
was final; nor when it was handed out and nothing is ever reported of it. -/
theorem commands_handed_out (b : RosterBook) (users : List DeviceUser)
    (requests later : List JobRequest) (n : ℕ) :
    (handle (saveAnalysis b users) requests).2.count n ≤
      1 + requests.countP JobRequest.isRetry ∧
    (SpentAt (handle (saveAnalysis b users) requests).1 n (later.any fun r => r.reports n) →
      n ∉ (handle (handle (saveAnalysis b users) requests).1 later).2) := by
  have hanalysed : (saveAnalysis b users).status ≠ .analyzing := by simp [saveAnalysis]
  have hrun := handled_handle (n := n) requests hanalysed fun _ _ _ => rfl
  constructor
  · have hdue := hrun.due
    have hone : dueAt (saveAnalysis b users) n ≤ 1 := by
      unfold dueAt
      split_ifs <;> omega
    omega
  · intro hspent
    refine ((handled_handle later hrun.analysed fun r hr hreports => ?_).spent hspent).2
    exact List.any_eq_true.mpr ⟨r, hr, hreports⟩

end SchoolPlatform.DeviceRoster
