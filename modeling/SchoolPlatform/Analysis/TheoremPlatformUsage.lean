import SchoolPlatform.Model.PlatformConsole
import SchoolPlatform.Analysis.TheoremSuspension

/-!
# The console and the limits count the same rows

The figures of the console and those that the limits are enforced by are computed apart. They count
the same students, members and devices, and read the same limits; the files that parents have added
are counted by the limits alone.
-/

/-! ## The console and the school see the same status -/

namespace SchoolPlatform.Subscriptions

variable {s : Contracts} {school : ℕ}

def SchoolSubscription.columns (id : ℕ) (x : SchoolSubscription) : PlatformSchool where
  subscriptionId := some id
  storedStatus := some x.status
  endsAt := some x.endsAt
  trialEndsAt := x.trialEndsAt
  graceEndsAt := x.graceEndsAt

theorem platformSchool_of_none (h : s.liveSubscription school = none) :
    s.platformSchool school = ⟨none, none, none, none, none⟩ := by
  unfold Contracts.platformSchool
  rw [h]
  rfl

theorem platformSchool_of_some {p : ℕ × SchoolSubscription}
    (h : s.liveSubscription school = some p) : s.platformSchool school = p.2.columns p.1 := by
  unfold Contracts.platformSchool
  rw [h]
  rfl

theorem caseWhen_afterEnd (x : SchoolSubscription) (now : Instant) :
    (if Sql.holds (Sql.gt x.graceEndsAt (some now)) = true then some SubscriptionStatus.gracePeriod
      else some .expired) = some (x.afterEnd now) := by
  unfold SchoolSubscription.afterEnd
  cases x.graceEndsAt with
  | none => rfl
  | some g =>
    by_cases hgrace : now < g
    · simp [hgrace]
    · simp [hgrace]

theorem holds_trialRunning (x : SchoolSubscription) (now : Instant) :
    Sql.holds (Sql.or (Sql.gt x.trialEndsAt (some now))
      (Sql.and (Sql.isNull x.trialEndsAt) (Sql.gt (some x.endsAt) (some now)))) =
        decide (now < x.trialEnd) := by
  unfold SchoolSubscription.trialEnd
  cases x.trialEndsAt <;> simp

theorem columns_effectiveStatus (id : ℕ) (x : SchoolSubscription) (now : Instant) :
    (x.columns id).effectiveStatus now = some (x.effectiveStatus now) := by
  have hafter := caseWhen_afterEnd x now
  unfold PlatformSchool.effectiveStatus SchoolSubscription.columns
  simp only [Sql.caseWhen_cons, Sql.caseWhen_nil, Sql.holds_and, holds_trialRunning,
    Sql.holds_eq_some, Sql.holds_isIn_some, Sql.holds_gt_some, Sql.holds_some, Option.isSome_some,
    if_true, hafter]
  unfold SchoolSubscription.effectiveStatus
  cases hstatus : x.status with
  | suspended => rfl
  | cancelled => rfl
  | expired => rfl
  | trial =>
    by_cases htrial : now < x.trialEnd
    · simp [htrial]
    · simp [htrial]
  | active =>
    by_cases hends : now < x.endsAt
    · simp [hends]
    · simp [hends]
  | gracePeriod =>
    by_cases hends : now < x.endsAt
    · simp [hends]
    · simp [hends]

theorem platformSchool_effectiveStatus (s : Contracts) (school : ℕ) (now : Instant) :
    (s.platformSchool school).effectiveStatus now =
      (s.liveSubscription school).map fun p => p.2.effectiveStatus now := by
  cases h : s.liveSubscription school with
  | none =>
    rw [platformSchool_of_none h]
    rfl
  | some p =>
    rw [platformSchool_of_some h, columns_effectiveStatus]
    rfl

def SchoolSubscription.accessEnd (x : SchoolSubscription) (now : Instant) : Option Instant :=
  match x.effectiveStatus now with
  | .trial => some x.trialEnd
  | .active => some x.endsAt
  | .gracePeriod => x.graceEndsAt
  | .expired => none
  | .suspended => none
  | .cancelled => none

def ConsoleClock.InWindow (clock : ConsoleClock) (t : Instant) : Prop :=
  clock.now ≤ t ∧ t ≤ clock.soon

def Contracts.EndsSoon (s : Contracts) (school : ℕ) (clock : ConsoleClock) : Prop :=
  ∃ p, s.liveSubscription school = some p ∧
    ∃ t, p.2.accessEnd clock.annotatedAt = some t ∧ clock.InWindow t

/-- The end of the trial and the end of the contract are both in the window, or neither is. -/
def SchoolSubscription.EndsAlike (x : SchoolSubscription) (clock : ConsoleClock) : Prop :=
  clock.InWindow x.trialEnd ↔ clock.InWindow x.endsAt

theorem columns_accessEndsAt (id : ℕ) (x : SchoolSubscription) (now : Instant) :
    (x.columns id).accessEndsAt now =
      if x.effectiveStatus now = .gracePeriod then x.graceEndsAt else some x.endsAt := by
  unfold PlatformSchool.accessEndsAt
  rw [columns_effectiveStatus]
  simp [SchoolSubscription.columns]

theorem columns_expiresSoon (id : ℕ) (x : SchoolSubscription) (clock : ConsoleClock) :
    (x.columns id).expiresSoon clock = true ↔ match x.effectiveStatus clock.annotatedAt with
      | .trial => clock.InWindow x.endsAt
      | .active => clock.InWindow x.endsAt
      | .gracePeriod => ∃ t, x.graceEndsAt = some t ∧ clock.InWindow t
      | .expired => False
      | .suspended => False
      | .cancelled => False := by
  unfold PlatformSchool.expiresSoon
  rw [columns_effectiveStatus, columns_accessEndsAt]
  cases x.effectiveStatus clock.annotatedAt with
  | trial => simp [ConsoleClock.InWindow]
  | active => simp [ConsoleClock.InWindow]
  | gracePeriod => cases x.graceEndsAt <;> simp [ConsoleClock.InWindow]
  | expired => simp
  | suspended => simp
  | cancelled => simp

theorem effectiveStatus_eq_trial {x : SchoolSubscription} {now : Instant} :
    x.effectiveStatus now = .trial ↔ x.status = .trial ∧ now < x.trialEnd := by
  have hafter : x.afterEnd now ≠ .trial := fun h => afterEnd_ne x now (.inl h)
  unfold SchoolSubscription.effectiveStatus
  cases hstatus : x.status with
  | trial =>
    by_cases htrial : now < x.trialEnd
    · simp [htrial]
    · simp [htrial, hafter]
  | active =>
    by_cases hends : now < x.endsAt
    · simp [hends]
    · simp [hends, hafter]
  | gracePeriod =>
    by_cases hends : now < x.endsAt
    · simp [hends]
    · simp [hends, hafter]
  | expired => simp
  | suspended => simp
  | cancelled => simp

/-- **The console agrees with the school** exactly where the end of a running trial and the end of
its contract are on the same side of the window. -/
theorem console_agrees_iff (s : Contracts) (school : ℕ) (clock : ConsoleClock) :
    ((s.platformSchool school).effectiveStatus clock.annotatedAt =
        (s.liveSubscription school).map (fun p => p.2.effectiveStatus clock.annotatedAt) ∧
      ((s.platformSchool school).expiresSoon clock = true ↔ s.EndsSoon school clock)) ↔
      ∀ p, s.liveSubscription school = some p → p.2.status = .trial →
        clock.annotatedAt < p.2.trialEnd → p.2.EndsAlike clock := by
  rw [and_iff_right (platformSchool_effectiveStatus s school clock.annotatedAt)]
  unfold Contracts.EndsSoon
  cases h : s.liveSubscription school with
  | none =>
    rw [platformSchool_of_none h]
    simp [PlatformSchool.expiresSoon, PlatformSchool.effectiveStatus]
  | some p =>
    rw [platformSchool_of_some h, columns_expiresSoon]
    have hcurrent : ∀ P : ℕ × SchoolSubscription → Prop,
        (∃ q, some p = some q ∧ P q) ↔ P p := by simp
    have hall : ∀ P : ℕ × SchoolSubscription → Prop,
        (∀ q, some p = some q → P q) ↔ P p := by simp
    rw [hcurrent, hall, ← and_imp, ← effectiveStatus_eq_trial]
    unfold SchoolSubscription.accessEnd SchoolSubscription.EndsAlike
    cases hstatus : p.2.effectiveStatus clock.annotatedAt with
    | trial =>
      simp only [Option.some.injEq, exists_eq_left', true_implies]
      exact iff_comm
    | active => simp
    | gracePeriod => simp
    | expired => simp
    | suspended => simp
    | cancelled => simp

/-- A trial that ends soon, in a contract that does not. -/
theorem console_of_trialInContract :
    ((holding { tenDayTrial with endsAt := timedelta 60 }).platformSchool 7).expiresSoon
        ⟨0, 0, 0⟩ = false ∧
      (holding { tenDayTrial with endsAt := timedelta 60 }).EndsSoon 7 ⟨0, 0, 0⟩ := by
  refine ⟨by decide, (1, { tenDayTrial with endsAt := timedelta 60 }), rfl, timedelta 10, rfl, ?_⟩
  constructor <;> decide

variable {d : PlatformTables} {s : Contracts} {school : ℕ}

theorem countForSchool_eq {ν : Type} [DecidableEq ν] (rows : List (Tenant ν)) (school : ℕ)
    (state : ν) : countForSchool rows school state = countRows rows school state := by
  unfold countForSchool countRows
  rw [List.countP_eq_length_filter]
  cases rows.filter fun r => r.school = school && r.state = state with
  | nil => rfl
  | cons r rest => rfl

def parentBytes (d : PlatformTables) (school : ℕ) : ℕ := sumForSchool d.parentAttachments school

theorem storageUsedBytes_eq (d : PlatformTables) (school : ℕ) :
    storageUsedBytes d school =
      (platformUsage d school).attachmentBytes + (platformUsage d school).documentBytes +
        parentBytes d school := rfl

theorem mem_entitlementRows {id : ℕ} {key : String} {e : Entitlement} :
    (key, e) ∈ s.entitlementRows id ↔ ((id, key), e) ∈ s.entitlements := by
  unfold Contracts.entitlementRows
  simp only [List.mem_map, List.mem_filter, decide_eq_true_eq, Prod.mk.injEq]
  constructor
  · rintro ⟨⟨⟨id', key'⟩, e'⟩, ⟨hmem, rfl⟩, rfl, rfl⟩
    exact hmem
  · exact fun hmem => ⟨((id, key), e), ⟨hmem, rfl⟩, rfl, rfl⟩

section

variable (hkeys : (Dict.keys s.entitlements).Nodup)
include hkeys

theorem nodup_entitlementRows (id : ℕ) : ((s.entitlementRows id).map Prod.fst).Nodup := by
  have hfilter : ((s.entitlements.filter fun p => p.1.1 = id).map Prod.fst).Nodup :=
    (List.filter_sublist.map Prod.fst).nodup hkeys
  have hfirst : ∀ k ∈ (s.entitlements.filter fun p => p.1.1 = id).map Prod.fst, k.1 = id := by
    intro k hk
    obtain ⟨p, hp, rfl⟩ := List.mem_map.mp hk
    exact of_decide_eq_true (List.mem_filter.mp hp).2
  have hsecond := hfilter.map_on (f := Prod.snd) fun k hk k' hk' heq =>
    Prod.ext ((hfirst k hk).trans (hfirst k' hk').symm) heq
  unfold Contracts.entitlementRows
  rw [List.map_map]
  rw [List.map_map] at hsecond
  exact hsecond

theorem get?_entitlementRows (id : ℕ) (key : String) :
    (Dict.ofList (s.entitlementRows id)).get? key = s.entitlements.get? (id, key) := by
  apply Option.ext
  intro e
  rw [Dict.get?_ofList (nodup_entitlementRows hkeys id), mem_entitlementRows,
    Dict.mem_iff_get? hkeys]

theorem get?_numericValues (id : ℕ) (key : String) :
    (Dict.ofList ((s.entitlementRows id).map fun e => (e.1, e.2.numericValue))).get? key =
      (s.entitlements.get? (id, key)).map fun e => e.numericValue := by
  have hnodup : (((s.entitlementRows id).map fun e => (e.1, e.2.numericValue)).map
      Prod.fst).Nodup := by
    rw [List.map_map]
    exact nodup_entitlementRows hkeys id
  apply Option.ext
  intro v
  rw [Dict.get?_ofList hnodup, Option.map_eq_some_iff]
  simp only [List.mem_map, Prod.mk.injEq]
  constructor
  · rintro ⟨⟨key', e⟩, hmem, rfl, rfl⟩
    exact ⟨e, (Dict.mem_iff_get? hkeys _ _).mp (mem_entitlementRows.mp hmem), rfl⟩
  · rintro ⟨e, hget, rfl⟩
    exact ⟨(key, e), mem_entitlementRows.mpr ((Dict.mem_iff_get? hkeys _ _).mpr hget), rfl, rfl⟩

theorem head?_entitlements (id : ℕ) (key : String) :
    (s.entitlements.filter fun p => p.1.1 = id && p.1.2 = key).head? =
      (s.entitlements.get? (id, key)).map fun e => ((id, key), e) := by
  rw [List.head?_filter]
  have hfind : (s.entitlements.find? fun p => p.1.1 = id && p.1.2 = key) =
      s.entitlements.find? fun p => p.1 = (id, key) := by
    congr 1
    funext p
    simp [Prod.ext_iff]
  rw [hfind]
  apply Option.ext
  intro p
  rw [Table.find?_eq_some_iff hkeys, Option.map_eq_some_iff]
  constructor
  · rintro ⟨hmem, hkey⟩
    obtain ⟨k, e⟩ := p
    subst hkey
    exact ⟨e, (Dict.mem_iff_get? hkeys _ _).mp hmem, rfl⟩
  · rintro ⟨e, hget, rfl⟩
    exact ⟨(Dict.mem_iff_get? hkeys _ _).mpr hget, rfl⟩

theorem entitlementLimit_eq (school : ℕ) (key : LimitKey) :
    s.entitlementLimit school key = s.getLimit school key := by
  unfold Contracts.entitlementLimit Contracts.getLimit Contracts.getSchoolEntitlements
    Contracts.platformSchool
  cases s.liveSubscription school with
  | none => rfl
  | some p =>
    simp only [Option.map_some, Option.bind_some, Option.elim_some]
    rw [head?_entitlements hkeys, get?_entitlementRows hkeys]
    cases s.entitlements.get? (p.1, key.key) <;> rfl

theorem rowLimit_eq (school : ℕ) (key : LimitKey) :
    s.rowLimit school key = s.getLimit school key := by
  unfold Contracts.rowLimit Contracts.getLimit Contracts.getSchoolEntitlements
  cases s.liveSubscription school with
  | none => rfl
  | some p =>
    simp only [Option.elim_some]
    rw [get?_numericValues hkeys, get?_entitlementRows hkeys]
    cases s.entitlements.get? (p.1, key.key) <;> rfl

end

theorem schoolRowUsage_eq (hkeys : (Dict.keys d.contracts.entitlements).Nodup) :
    schoolRowUsage d school = { getSchoolUsage d school with
      storage := entry
        ((platformUsage d school).attachmentBytes + (platformUsage d school).documentBytes)
        ((d.contracts.getLimit school .maxStorageGb).map fun gb => gb * bytesPerGb) } := by
  have hstudents : (platformUsage d school).activeStudents = countActiveStudents d school :=
    countForSchool_eq _ _ _
  have hstaff : (platformUsage d school).activeStaff = countActiveStaff d school :=
    countForSchool_eq _ _ _
  have hdevices : (platformUsage d school).activeDevices = countActiveDevices d school :=
    countForSchool_eq _ _ _
  unfold schoolRowUsage
  simp only [rowLimit_eq hkeys, hstudents, hstaff, hdevices]
  rfl

def Usage.over (u : Usage) : LimitKey → Bool
  | .maxStudents => u.students.overLimit
  | .maxStaff => u.staff.overLimit
  | .maxDevices => u.devices.overLimit
  | .maxStorageGb => u.storage.overLimit

/-- The check of a limit fails on what there is. -/
def Exceeds (d : PlatformTables) (school : ℕ) : LimitKey → Prop
  | .maxStudents =>
    ∃ e, requireCapacity d school .maxStudents (countActiveStudents d school) 0 = .error e
  | .maxStaff => ∃ e, requireCapacity d school .maxStaff (countActiveStaff d school) 0 = .error e
  | .maxDevices =>
    ∃ e, requireCapacity d school .maxDevices (countActiveDevices d school) 0 = .error e
  | .maxStorageGb => ∃ e, requireStorageCapacity d school 0 = .error e

theorem requireCapacity_iff (key : LimitKey) (current : ℕ) :
    (∃ e, requireCapacity d school key current 0 = .error e) ↔
      (entry current (d.contracts.getLimit school key)).overLimit = true := by
  unfold requireCapacity entry
  cases d.contracts.getLimit school key with
  | none => simp
  | some limit =>
    by_cases hle : (current : ℤ) ≤ limit
    · simp [hle]
    · simp [hle, not_le.mp hle]

theorem requireStorageCapacity_iff : (∃ e, requireStorageCapacity d school 0 = .error e) ↔
    (getSchoolUsage d school).storage.overLimit = true := by
  show _ ↔ (entry (storageUsedBytes d school)
    ((d.contracts.getLimit school .maxStorageGb).map fun gb => gb * bytesPerGb)).overLimit = true
  unfold requireStorageCapacity entry
  cases d.contracts.getLimit school .maxStorageGb with
  | none => simp
  | some gb =>
    by_cases hle : (storageUsedBytes d school : ℤ) ≤ gb * bytesPerGb
    · simp [hle]
    · simp [hle, not_le.mp hle]

theorem over_iff_exceeds (key : LimitKey) :
    (getSchoolUsage d school).over key = true ↔ Exceeds d school key := by
  cases key with
  | maxStudents => exact (requireCapacity_iff .maxStudents _).symm
  | maxStaff => exact (requireCapacity_iff .maxStaff _).symm
  | maxDevices => exact (requireCapacity_iff .maxDevices _).symm
  | maxStorageGb => exact requireStorageCapacity_iff.symm

theorem holds_gt_limit (used : ℕ) (limit : Option ℤ) :
    Sql.holds (Sql.gt (some (used : ℤ)) limit) = (usageEntry used limit).overLimit := by
  unfold usageEntry
  cases limit with
  | none => rfl
  | some l => simp

theorem isOverLimit_iff (hkeys : (Dict.keys d.contracts.entitlements).Nodup) :
    (platformUsage d school).isOverLimit = true ↔
      ∃ key, (schoolRowUsage d school).over key = true := by
  have hlimit : ∀ key, d.contracts.rowLimit school key = d.contracts.entitlementLimit school key :=
    fun key => (rowLimit_eq hkeys school key).trans (entitlementLimit_eq hkeys school key).symm
  have hstorage : Sql.holds (Sql.and (some (platformUsage d school).maxStorageGb.isSome)
      (Sql.gt (some (((platformUsage d school).attachmentBytes : ℤ) +
        (platformUsage d school).documentBytes))
        ((platformUsage d school).maxStorageGb.map fun gb => gb * bytesPerGb))) =
      (schoolRowUsage d school).storage.overLimit := by
    have hlimitGb : (platformUsage d school).maxStorageGb =
      d.contracts.rowLimit school .maxStorageGb := (hlimit .maxStorageGb).symm
    rw [hlimitGb]
    unfold schoolRowUsage
    simp only [← holds_gt_limit, Sql.holds_and, Sql.holds_some, Int.natCast_add]
    cases d.contracts.rowLimit school .maxStorageGb <;> simp
  have hover : ∀ used key, (usageEntry used (d.contracts.rowLimit school key)).overLimit =
      (usageEntry used (d.contracts.entitlementLimit school key)).overLimit := by
    intro used key
    rw [hlimit]
  have hstudents : (schoolRowUsage d school).over .maxStudents = (usageEntry
      (platformUsage d school).activeStudents (platformUsage d school).maxStudents).overLimit :=
    hover _ .maxStudents
  have hstaff : (schoolRowUsage d school).over .maxStaff = (usageEntry
      (platformUsage d school).activeStaff (platformUsage d school).maxStaff).overLimit :=
    hover _ .maxStaff
  have hdevices : (schoolRowUsage d school).over .maxDevices = (usageEntry
      (platformUsage d school).activeDevices (platformUsage d school).maxDevices).overLimit :=
    hover _ .maxDevices
  unfold PlatformUsage.isOverLimit
  simp only [Sql.holds_or, hstorage, holds_gt_limit, Bool.or_eq_true, ← hstudents, ← hstaff,
    ← hdevices]
  constructor
  · rintro (h | h | h | h)
    · exact ⟨.maxStudents, h⟩
    · exact ⟨.maxStaff, h⟩
    · exact ⟨.maxDevices, h⟩
    · exact ⟨.maxStorageGb, h⟩
  · rintro ⟨key, h⟩
    cases key with
    | maxStudents => exact .inl h
    | maxStaff => exact .inr (.inl h)
    | maxDevices => exact .inr (.inr (.inl h))
    | maxStorageGb => exact .inr (.inr (.inr h))

/-- **The figures agree** exactly where parents have added no bytes. -/
theorem usage_agrees_iff (hkeys : (Dict.keys d.contracts.entitlements).Nodup) :
    (schoolRowUsage d school = getSchoolUsage d school ∧
      (∀ key, (schoolRowUsage d school).over key = true ↔ Exceeds d school key) ∧
      ((platformUsage d school).isOverLimit = true ↔ ∃ key, Exceeds d school key)) ↔
      parentBytes d school = 0 := by
  constructor
  · rintro ⟨hsame, -⟩
    have hused : (schoolRowUsage d school).storage.used = storageUsedBytes d school :=
      (congrArg (fun u : Usage => u.storage.used) hsame :)
    have hrow : (schoolRowUsage d school).storage.used =
      (platformUsage d school).attachmentBytes + (platformUsage d school).documentBytes := rfl
    rw [storageUsedBytes_eq, hrow] at hused
    omega
  · intro hzero
    have hsame : schoolRowUsage d school = getSchoolUsage d school := by
      rw [schoolRowUsage_eq hkeys]
      have hused := storageUsedBytes_eq d school
      rw [hzero, Nat.add_zero] at hused
      rw [← hused]
      rfl
    refine ⟨hsame, fun key => ?_, ?_⟩
    · rw [hsame]
      exact over_iff_exceeds key
    · rw [isOverLimit_iff hkeys, hsame]
      exact exists_congr over_iff_exceeds

def gigabyteSchool : PlatformTables where
  contracts := { holding tenDayContract with
    entitlements := [((1, "MAX_STORAGE_GB"), { numericValue := some 1 })] }
  documents := [{ school := 7, sizeBytes := 500 }]

/-- The figures of a school without files of parents. -/
theorem usage_of_gigabyteSchool :
    schoolRowUsage gigabyteSchool 7 = getSchoolUsage gigabyteSchool 7 ∧
      (∀ key, (schoolRowUsage gigabyteSchool 7).over key = true ↔ Exceeds gigabyteSchool 7 key) ∧
      ((platformUsage gigabyteSchool 7).isOverLimit = true ↔
        ∃ key, Exceeds gigabyteSchool 7 key) :=
  (usage_agrees_iff (by decide)).mpr rfl

def parentFileSchool : PlatformTables :=
  { gigabyteSchool with parentAttachments := [{ school := 7, sizeBytes := 1100000000 }] }

/-- No more can be stored, and the console shows a school within its limits. -/
theorem usage_of_parentFileSchool :
    (schoolRowUsage parentFileSchool 7).storage.used = 500 ∧
      (schoolRowUsage parentFileSchool 7).storage.overLimit = false ∧
      (platformUsage parentFileSchool 7).isOverLimit = false ∧
      (getSchoolUsage parentFileSchool 7).storage.used = 1100000500 ∧
      (getSchoolUsage parentFileSchool 7).storage.overLimit = true ∧
      Exceeds parentFileSchool 7 .maxStorageGb := by
  refine ⟨by decide +kernel, by decide +kernel, by decide +kernel, by decide +kernel,
    by decide +kernel, ?_⟩
  exact requireStorageCapacity_iff.mpr (by decide +kernel)

end SchoolPlatform.Subscriptions
