import SchoolPlatform.Model.StaffAccounts
import SchoolPlatform.Library.AssertedRuns

/-!
# The last manager of a school

Suspension and deletion read, without a lock, whether another manager is active; the removal of a
role does not ask. As long as no removal of the role of manager begins on the last active manager,
and no other commit makes an account the last active manager while a call is about to take it away,
a school that has an active manager keeps one.
-/

namespace SchoolPlatform.Roles

open ReadCommitted

/-! ## Managers -/

def managing (m : SchoolMembership) : Bool := m.status = .active && m.roles.contains .schoolManager

def Managed (s : Staff) : Prop := ∃ m ∈ s.memberships, managing m = true

/-- The membership is the only active manager of the school. -/
def LastManager (s : Staff) (id : ℕ) : Prop :=
  (∃ m ∈ s.memberships, m.id = id ∧ managing m = true) ∧ hasOtherManager s id = false

instance decidableManaged (s : Staff) : Decidable (Managed s) :=
  inferInstanceAs (Decidable (∃ m ∈ s.memberships, managing m = true))

instance decidableLastManager (s : Staff) (id : ℕ) : Decidable (LastManager s id) :=
  inferInstanceAs (Decidable ((∃ m ∈ s.memberships, m.id = id ∧ managing m = true) ∧
    hasOtherManager s id = false))

variable {s s' : Staff} {id : ℕ} {m : SchoolMembership}

theorem hasOtherManager_eq_true :
    hasOtherManager s id = true ↔ ∃ m ∈ s.memberships, m.id ≠ id ∧ managing m = true := by
  simp only [hasOtherManager, managing, List.any_eq_true, Bool.and_eq_true, decide_eq_true_eq]
  constructor
  · rintro ⟨m, hm, hmanages, hid⟩
    exact ⟨m, hm, hid, hmanages⟩
  · rintro ⟨m, hm, hid, hmanages⟩
    exact ⟨m, hm, hmanages, hid⟩

theorem Managed.other (hs : Managed s) (h : ¬ LastManager s id) :
    ∃ m ∈ s.memberships, m.id ≠ id ∧ managing m = true := by
  rw [← hasOtherManager_eq_true]
  by_contra hnone
  rw [Bool.not_eq_true] at hnone
  obtain ⟨m, hm, hmanages⟩ := hs
  by_cases hid : m.id = id
  · exact h ⟨⟨m, hm, hid, hmanages⟩, hnone⟩
  · have hother := hasOtherManager_eq_true.mpr ⟨m, hm, hid, hmanages⟩
    rw [hnone] at hother
    cases hother

theorem not_lastManager_of_other (h : hasOtherManager s id = true) : ¬ LastManager s id := by
  rintro ⟨-, hnone⟩
  rw [h] at hnone
  cases hnone

/-- No membership with the id has the role of manager. -/
def NoManager (s : Staff) (id : ℕ) : Prop :=
  ∀ m ∈ s.memberships, m.id = id → .schoolManager ∉ m.roles

theorem NoManager.not_last (h : NoManager s id) : ¬ LastManager s id := by
  rintro ⟨⟨m, hm, hid, hmanages⟩, -⟩
  simp only [managing, Bool.and_eq_true, List.contains_iff_mem] at hmanages
  exact h m hm hid hmanages.2

/-! ## What the statements do to managers -/

/-- A membership stays one with its id, and a manager where this is asked; none becomes a
manager. -/
def Edits (spared : ℕ → Prop) (s s' : Staff) : Prop :=
  ∃ f : SchoolMembership → SchoolMembership, (∀ m, (f m).id = m.id) ∧
    (∀ m, spared m.id → managing m = true → managing (f m) = true) ∧
      (∀ m, .schoolManager ∈ (f m).roles → .schoolManager ∈ m.roles) ∧
        s'.memberships = s.memberships.map f

variable {spared : ℕ → Prop}

theorem Edits.of_eq (h : s'.memberships = s.memberships) : Edits spared s s' :=
  ⟨fun m => m, fun _ => rfl, fun _ _ h => h, fun _ h => h, by simp [h]⟩

theorem Edits.refl (s : Staff) : Edits spared s s := Edits.of_eq rfl

theorem Edits.trans (s t u : Staff) (h : Edits spared s t) (h' : Edits spared t u) :
    Edits spared s u := by
  obtain ⟨f, hf, hkeeps, hnone, heq⟩ := h
  obtain ⟨g, hg, hkeeps', hnone', heq'⟩ := h'
  refine ⟨fun m => g (f m), fun m => (hg (f m)).trans (hf m), fun m hm hmanages => ?_,
    fun m hrole => hnone m (hnone' (f m) hrole), ?_⟩
  · apply hkeeps' (f m) ?_ (hkeeps m hm hmanages)
    rw [hf m]
    exact hm
  · rw [heq', heq, List.map_map]
    rfl

theorem Edits.noManager (h : Edits spared s s') (hs : NoManager s id) : NoManager s' id := by
  obtain ⟨f, hf, -, hnone, heq⟩ := h
  intro m hm hid hrole
  rw [heq, List.mem_map] at hm
  obtain ⟨m₀, hm₀, rfl⟩ := hm
  exact hs m₀ hm₀ ((hf m₀).symm.trans hid) (hnone m₀ hrole)

/-- Ids are given once, and the school has an active manager. -/
structure Staffed (s : Staff) : Prop where
  ids : (s.memberships.map fun m => m.id).Nodup
  managed : Managed s

theorem Edits.staffed (h : Edits spared s s') (hs : Staffed s)
    (hspared : ∃ m ∈ s.memberships, spared m.id ∧ managing m = true) : Staffed s' := by
  obtain ⟨f, hf, hkeeps, -, heq⟩ := h
  obtain ⟨m, hm, hid, hmanages⟩ := hspared
  constructor
  · have hids : (s.memberships.map f).map (fun m => m.id) = s.memberships.map fun m => m.id := by
      rw [List.map_map]
      exact List.map_congr_left fun m _ => hf m
    rw [heq, hids]
    exact hs.ids
  · refine ⟨f m, ?_, hkeeps m hid hmanages⟩
    rw [heq]
    exact List.mem_map_of_mem hm

theorem Edits.of_member {f : SchoolMembership → SchoolMembership}
    (hid : ∀ m, (f m).id = m.id)
    (hf : ∀ m, m.id = id → spared m.id → managing m = true → managing (f m) = true)
    (hnone : ∀ m, .schoolManager ∈ (f m).roles → .schoolManager ∈ m.roles)
    (heq : s'.memberships = s.memberships.map fun m => if m.id = id then f m else m) :
    Edits spared s s' := by
  refine ⟨fun m => if m.id = id then f m else m, fun m => ?_, fun m hm hmanages => ?_,
    fun m hrole => ?_, heq⟩
  · by_cases h : m.id = id
    · simp only [if_pos h, hid m]
    · simp only [if_neg h]
  · by_cases h : m.id = id
    · simp only [if_pos h]
      exact hf m h hm hmanages
    · simp only [if_neg h]
      exact hmanages
  · by_cases h : m.id = id
    · simp only [if_pos h] at hrole
      exact hnone m hrole
    · simp only [if_neg h] at hrole
      exact hrole

theorem edits_withStatus {status : MembershipStatus}
    (h : ∀ j, spared j → j = id → status = .active) : Edits spared s (withStatus s id status) := by
  apply @Edits.of_member _ _ id _ fun m => { m with status := status }
  · exact fun m => rfl
  · intro m hm hspared hmanages
    simp only [managing, Bool.and_eq_true, decide_eq_true_eq] at hmanages ⊢
    exact ⟨h m.id hspared hm, hmanages.2⟩
  · exact fun m hrole => hrole
  · rfl

theorem edits_withRoles {f : List SchoolRole → List SchoolRole}
    (h : ∀ j, spared j → j = id → ∀ roles, .schoolManager ∈ roles → .schoolManager ∈ f roles)
    (hnone : ∀ roles, .schoolManager ∈ f roles → .schoolManager ∈ roles) :
    Edits spared s (withRoles s id f) := by
  apply @Edits.of_member _ _ id _ fun m => { m with roles := f m.roles }
  · exact fun m => rfl
  · intro m hm hspared hmanages
    simp only [managing, Bool.and_eq_true, decide_eq_true_eq, List.contains_iff_mem] at hmanages ⊢
    exact ⟨hmanages.1, h m.id hspared hm m.roles hmanages.2⟩
  · exact fun m hrole => hnone m.roles hrole
  · rfl

/-! ## What the operations write -/

theorem writes_requirePlatform (m : SchoolMembership) (actor : Actor) (action : String) :
    (requirePlatformForManager m actor action).Writes (Edits spared) := by
  unfold requirePlatformForManager
  split <;> trivial

theorem writes_require {c : Bool} {e : Failure} :
    (Tx.require c e : StaffTransaction Unit).Writes (Edits spared) := by
  cases c <;> trivial

theorem writes_saveStatus {status : MembershipStatus}
    (h : ∀ j, spared j → j = id → status = .active) :
    (saveStatus id status).Writes (Edits spared) :=
  (Tx.Writes.lockRows _ _).bind fun _ => Tx.Writes.update fun _ => edits_withStatus h

theorem writes_clearCounselorSections : (clearCounselorSections id).Writes (Edits spared) :=
  Tx.Writes.updateWhere fun _ _ => Edits.of_eq rfl

theorem writes_clearVicePrincipalScopes : (clearVicePrincipalScopes id).Writes (Edits spared) :=
  Tx.Writes.updateWhere fun _ _ => Edits.of_eq rfl

theorem writes_getOrCreateRole {role : SchoolRole} (hrole : role ≠ .schoolManager) :
    (getOrCreateRole id role).Writes (Edits spared) := by
  unfold getOrCreateRole
  simp only [Tx.bind_eq]
  refine (Tx.Writes.select _).bind fun assigned => ?_
  cases assigned with
  | true => trivial
  | false =>
    refine (Tx.Writes.lockRows _ _).bind fun _ => (Tx.Writes.lockRows _ _).bind fun _ => ?_
    refine (Tx.Writes.select _).bind fun taken => ?_
    cases taken with
    | true => trivial
    | false =>
      refine (Tx.Writes.update fun s => edits_withRoles ?_ ?_).bind fun _ => trivial
      · exact fun _ _ _ roles hroles => List.mem_append_left _ hroles
      · intro roles hroles
        simp only [List.mem_append, List.mem_singleton] at hroles
        exact hroles.resolve_right fun h => hrole h.symm

theorem writes_addRole (role : Option SchoolRole) (actor : Actor) :
    (addRole m role actor).Writes (Edits spared) := by
  unfold addRole
  simp only [Tx.bind_eq]
  cases role with
  | none => trivial
  | some role =>
    by_cases hrole : role = .schoolManager
    · subst hrole
      trivial
    · refine writes_require.bind fun _ => (writes_requirePlatform _ _ _).bind fun _ => ?_
      exact (writes_getOrCreateRole hrole).bind fun _ => writes_require

theorem writes_reactivate (actor : Actor) : (reactivate m actor).Writes (Edits spared) := by
  unfold reactivate
  simp only [Tx.bind_eq]
  refine writes_require.bind fun _ => (writes_requirePlatform _ _ _).bind fun _ => ?_
  exact writes_saveStatus fun _ _ _ => rfl

theorem writes_removeRole {role : Option SchoolRole} (actor : Actor)
    (h : role = some .schoolManager → ∀ j, spared j → j ≠ m.id) :
    (removeRole m role actor).Writes (Edits spared) := by
  unfold removeRole
  simp only [Tx.bind_eq]
  cases role with
  | none => trivial
  | some role =>
    refine (Tx.Writes.select _).bind fun assigned => writes_require.bind fun _ => ?_
    refine (writes_requirePlatform _ _ _).bind fun _ => writes_require.bind fun _ => ?_
    refine (Tx.Writes.lockRows _ _).bind fun _ => (Tx.Writes.update fun s => ?_).bind fun _ => ?_
    · apply edits_withRoles
      · intro j hspared hj roles hroles
        by_cases hrole : role = .schoolManager
        · exact absurd hj (h (congrArg some hrole) j hspared)
        · simp only [List.mem_filter, decide_eq_true_eq]
          exact ⟨hroles, fun heq => hrole heq.symm⟩
      · exact fun roles hroles => (List.mem_filter.mp hroles).1
    · refine Tx.Writes.bind ?_ fun _ => ?_
      · by_cases hcounselor : role = .counselor
        · rw [if_pos hcounselor]
          exact writes_clearCounselorSections
        · rw [if_neg hcounselor]
          trivial
      · by_cases hvice : role = .vicePrincipal
        · rw [if_pos hvice]
          exact writes_clearVicePrincipalScopes
        · rw [if_neg hvice]
          trivial

theorem writes_isLastActiveManager : (isLastActiveManager m).Writes (Edits spared) := by
  unfold isLastActiveManager
  split
  · trivial
  · exact (Tx.Writes.select _).bind fun _ => trivial

theorem writes_suspension (h : ∀ j, spared j → j ≠ m.id) :
    ((saveStatus m.id .suspended).bind fun _ => (clearCounselorSections m.id).bind fun _ =>
      clearVicePrincipalScopes m.id).Writes (Edits spared) := by
  refine (writes_saveStatus fun j hj heq => absurd heq (h j hj)).bind fun _ => ?_
  exact writes_clearCounselorSections.bind fun _ => writes_clearVicePrincipalScopes

theorem writes_deletion (h : ∀ j, spared j → j ≠ m.id) :
    ((clearCounselorSections m.id).bind fun _ => (clearVicePrincipalScopes m.id).bind fun _ =>
      (Tx.lockRows .update [StaffLock.profile m.id]).bind fun _ =>
      (Tx.update fun s => { s with
        profiles := s.profiles.filter fun p => p.membership ≠ m.id }).bind fun _ =>
      (Tx.updateWhere (fun s => (rolesOf s m.id).map fun role => StaffLock.role m.id role)
        fun _ s => withRoles s m.id fun _ => []).bind fun _ =>
      saveStatus m.id .left).Writes (Edits spared) := by
  refine writes_clearCounselorSections.bind fun _ => ?_
  refine writes_clearVicePrincipalScopes.bind fun _ => ?_
  refine (Tx.Writes.lockRows _ _).bind fun _ => ?_
  refine (Tx.Writes.update (W := Edits spared) fun s => Edits.of_eq rfl).bind fun _ => ?_
  refine (Tx.Writes.updateWhere (W := Edits spared) fun _ s => edits_withRoles ?_ ?_).bind
    fun _ => ?_
  · exact fun j hj heq => absurd heq (h j hj)
  · exact fun roles hroles => absurd hroles List.not_mem_nil
  · exact writes_saveStatus fun j hj heq => absurd heq (h j hj)

/-! ## What is asked of a run -/

def promise : Change Staff StaffLock := fun _ s s' =>
  (Staffed s → Staffed s') ∧ ∀ id, NoManager s id → NoManager s' id

/-- The member is the last active manager, and has another role. -/
def Exposed (s : Staff) (id : ℕ) : Prop := LastManager s id ∧ (rolesOf s id).length ≠ 1

instance decidableExposed (s : Staff) (id : ℕ) : Decidable (Exposed s id) :=
  inferInstanceAs (Decidable (LastManager s id ∧ (rolesOf s id).length ≠ 1))

def StaffCall.unseats : StaffCall → Bool
  | .removeRole _ role => role = some .schoolManager
  | _ => false

def StaffCall.dismisses : StaffCall → Bool
  | .suspend _ | .suspendManager _ _ | .delete _ => true
  | call => call.unseats

/-- The platform does not take the role of manager from the last active manager. -/
def mayBegin (call : Actor × StaffCall) (s : Staff) : Prop :=
  call.1.isPlatformAdmin = true → call.2.unseats = true → ¬ Exposed s call.2.target

/-- Nobody becomes the last active manager while the platform is about to dismiss him. -/
def undisturbed (call : Actor × StaffCall) (s s' : Staff) : Prop :=
  call.1.isPlatformAdmin = true →
    (call.2.dismisses = true → ¬ LastManager s call.2.target → ¬ LastManager s' call.2.target) ∧
      (call.2.unseats = true → ¬ Exposed s call.2.target → ¬ Exposed s' call.2.target)

def request (call : Actor × StaffCall) : StaffProgram Unit := call.2.program call.1

/-! ## What a call knows -/

/-- The school does not need the member: the platform may not dismiss the last active manager, and
others no manager at all. -/
def Spares (call : Actor × StaffCall) (s : Staff) : Prop :=
  if call.1.isPlatformAdmin then ¬ LastManager s call.2.target else NoManager s call.2.target

def Shows (call : Actor × StaffCall) (m : SchoolMembership) : Prop :=
  .schoolManager ∉ m.roles ∨ call.1.isPlatformAdmin = true ∧
    (m.status ≠ .active ∨ call.2.unseats = true ∧ m.roles.length ≠ 1)

def Loaded (call : Actor × StaffCall) (m : SchoolMembership) (s : Staff) : Prop :=
  (Staffed s ∧ (Shows call m → Spares call s)) ∧ m.id = call.2.target

variable {call : Actor × StaffCall} {held : List (StaffLock × LockMode)}

abbrev relies (call : Actor × StaffCall) : Change Staff StaffLock :=
  alongside Staffed promise (undisturbed call)

theorem Spares.not_last (h : Spares call s) : ¬ LastManager s call.2.target := by
  unfold Spares at h
  split at h
  · exact h
  · exact h.not_last

theorem spares_of_noManager (h : NoManager s call.2.target) : Spares call s := by
  unfold Spares
  split
  · exact h.not_last
  · exact h

theorem relies_keeps_staffed : (relies call).Keeps held Staffed :=
  alongside_keeps_invariant fun _ _ _ h => h.1

theorem relies_keeps_noManager (id : ℕ) :
    (relies call).Keeps held fun s => Staffed s ∧ NoManager s id :=
  alongside_keeps (fun _ _ _ h => h.1) fun _ _ _ _ hcommit _ _ hnone => hcommit.2 id hnone

theorem relies_keeps_spares (hkind : call.2.dismisses = true) :
    (relies call).Keeps held fun s => Staffed s ∧ Spares call s := by
  unfold Spares
  by_cases hadmin : call.1.isPlatformAdmin = true
  · simp only [hadmin, if_true]
    exact alongside_keeps (fun _ _ _ h => h.1) fun _ _ _ _ _ hcalm _ hlast =>
      (hcalm hadmin).1 hkind hlast
  · simp only [hadmin]
    exact relies_keeps_noManager _

/-- What is known of a member when its membership has been loaded, and not yet its roles. -/
def Found (call : Actor × StaffCall) (m : SchoolMembership) (s : Staff) : Prop :=
  Staffed s ∧ mayBegin call s ∧
    (call.1.isPlatformAdmin = true ∧ m.status ≠ .active → Spares call s)

theorem relies_keeps_mayBegin : (relies call).Keeps held fun s => Staffed s ∧ mayBegin call s :=
  alongside_keeps (fun _ _ _ h => h.1) fun _ _ _ _ _ hcalm _ hready hadmin hunseats =>
    (hcalm hadmin).2 hunseats (hready hadmin hunseats)

theorem relies_keeps_found (hkind : call.2.dismisses = true) (m : SchoolMembership) :
    (relies call).Keeps held (Found call m) := by
  intro L s s' hcompat hR h
  obtain ⟨hs, hready, hspares⟩ := h
  have hbegin := relies_keeps_mayBegin L s s' hcompat hR ⟨hs, hready⟩
  have hkept := relies_keeps_staffed.imp (relies_keeps_spares hkind) L s s' hcompat hR
    ⟨hs, hspares⟩
  exact ⟨hbegin.1, hbegin.2, hkept.2⟩

theorem membership?_eq_some (hids : (s.memberships.map fun m => m.id).Nodup) :
    s.membership? id = some m ↔ m ∈ s.memberships ∧ m.id = id :=
  Table.find?_eq_some_iff hids id m

theorem found_of_membership (hs : Staffed s) (hready : mayBegin call s)
    (hm : s.membership? call.2.target = some m) : Found call m s := by
  refine ⟨hs, hready, fun hcase => ?_⟩
  obtain ⟨hmem, hid⟩ := (membership?_eq_some hs.ids).mp hm
  unfold Spares
  rw [if_pos hcase.1]
  rintro ⟨⟨m', hm', hid', hmanages⟩, -⟩
  have heq : m' = m := Table.eq_of_key_eq hs.ids hm' hmem (hid'.trans hid.symm)
  rw [heq] at hmanages
  simp only [managing, Bool.and_eq_true, decide_eq_true_eq] at hmanages
  exact hcase.2 hmanages.1

theorem loaded_of_roles (h : Found call m s) (hid : m.id = call.2.target) :
    Loaded call { m with roles := rolesOf s m.id } s := by
  obtain ⟨hs, hready, hspares⟩ := h
  refine ⟨⟨hs, ?_⟩, hid⟩
  rintro (hrole | ⟨hadmin, hstatus | ⟨hunseats, hlength⟩⟩)
  · apply spares_of_noManager
    intro m' hm' hid' hmanager
    have hfound := (membership?_eq_some hs.ids).mpr ⟨hm', hid'.trans hid.symm⟩
    simp only [rolesOf, hfound, Option.map_some, Option.getD_some] at hrole
    exact hrole hmanager
  · exact hspares ⟨hadmin, hstatus⟩
  · unfold Spares
    rw [if_pos hadmin]
    intro hlast
    rw [hid] at hlength
    exact hready hadmin hunseats ⟨hlast, hlength⟩

/-! ## Clients -/

section Transactions

variable {R : Change Staff StaffLock} {e : Failure} {Q : Unit → Staff → Prop}
  {J A : Staff → Prop} {g : Unit → StaffTransaction Unit}

theorem asserts_of_writes {t : StaffTransaction Unit} (hA : ∀ s, A s → ¬ LastManager s id)
    (hkept : R.Keeps [] fun s => Staffed s ∧ A s) (h : t.Writes (Edits fun j => j ≠ id)) :
    t.Asserts R promise (fun _ _ => True) (fun s => Staffed s ∧ A s) [] fun s => s := by
  refine h.asserts Edits.refl Edits.trans (fun _ s s' hs hedits => ?_) (fun _ _ _ _ _ => trivial)
    hkept
  refine ⟨fun _ => hedits.staffed hs.1 ?_, fun _ => hedits.noManager⟩
  exact hs.1.managed.other (hA s hs.2)

theorem asserts_of_spares {t : StaffTransaction Unit} (hkept : R.Keeps [] Staffed)
    (h : t.Writes (Edits fun _ => True)) :
    t.Asserts R promise (fun _ _ => True) Staffed [] fun s => s := by
  refine h.asserts Edits.refl Edits.trans (fun _ s s' hs hedits => ?_) (fun _ _ _ _ _ => trivial)
    hkept
  refine ⟨fun _ => hedits.staffed hs ?_, fun _ => hedits.noManager⟩
  obtain ⟨m, hm, hmanages⟩ := hs.managed
  exact ⟨m, hm, trivial, hmanages⟩

theorem asserts_require {c : Bool}
    (h : c = true → (g ()).Asserts R promise Q J [] fun s => s) :
    ((Tx.require c e).bind g).Asserts R promise Q J [] fun s => s := by
  cases c with
  | true => exact h rfl
  | false => trivial

theorem asserts_requirePlatform {actor : Actor} {action : String}
    (h : (actor.isPlatformAdmin = true ∨ .schoolManager ∉ m.roles) →
      (g ()).Asserts R promise Q J [] fun s => s) :
    ((requirePlatformForManager m actor action).bind g).Asserts R promise Q J [] fun s => s := by
  unfold requirePlatformForManager managerAccountRequiresPlatform
  by_cases hmanager : .schoolManager ∈ m.roles ∧ ¬ actor.isPlatformAdmin
  · rw [if_pos hmanager]
    trivial
  · rw [if_neg hmanager]
    apply h
    by_cases hadmin : actor.isPlatformAdmin = true
    · exact .inl hadmin
    · exact .inr fun hrole => hmanager ⟨hrole, hadmin⟩

theorem asserts_isLastActiveManager (hother : ∀ s, hasOtherManager s m.id = true → A s)
    (hstaffed : R.Keeps [] Staffed) (hkept : R.Keeps [] fun s => Staffed s ∧ A s)
    (hg : (g ()).Asserts R promise Q (fun s => Staffed s ∧ A s) [] fun s => s) :
    ((isLastActiveManager m).bind fun last => (Tx.require (!last) e).bind g).Asserts R promise Q
      (fun s => Staffed s ∧ (.schoolManager ∉ m.roles ∨ m.status ≠ .active → A s)) []
        fun s => s := by
  unfold isLastActiveManager
  by_cases hcase : .schoolManager ∉ m.roles ∨ m.status ≠ .active
  · rw [if_pos hcase]
    exact hg.mono fun s hs => ⟨hs.1, hs.2 hcase⟩
  · rw [if_neg hcase]
    refine ⟨fun others s => Staffed s ∧ (others = true → A s), fun s hs => ⟨hs.1, hother s⟩,
      fun others => hstaffed.imp hkept, fun others => ?_⟩
    cases others with
    | true => exact hg.mono fun s hs => ⟨hs.1, hs.2 rfl⟩
    | false => trivial

end Transactions

theorem shows_of_require (h : call.1.isPlatformAdmin = true ∨ .schoolManager ∉ m.roles)
    (hcase : .schoolManager ∉ m.roles ∨ m.status ≠ .active) : Shows call m := by
  rcases h with hadmin | hrole
  · exact hcase.imp_right fun hstatus => ⟨hadmin, .inl hstatus⟩
  · exact .inl hrole

theorem asserts_dismissal {e : Failure} {g : Unit → StaffTransaction Unit}
    (hkind : call.2.dismisses = true) (hid : m.id = call.2.target)
    (h : call.1.isPlatformAdmin = true ∨ .schoolManager ∉ m.roles)
    (hg : (g ()).Writes (Edits fun j => j ≠ m.id)) :
    ((isLastActiveManager m).bind fun last => (Tx.require (!last) e).bind g).Asserts (relies call)
      promise (fun _ _ => True) (fun s => Staffed s ∧ (Shows call m → Spares call s)) []
        fun s => s := by
  have hlast : ∀ s, Spares call s → ¬ LastManager s m.id := by
    intro s hs
    rw [hid]
    exact hs.not_last
  by_cases hadmin : call.1.isPlatformAdmin = true
  · refine Tx.Asserts.mono (fun s hs => ⟨hs.1, fun hcase => hs.2 (shows_of_require h hcase)⟩)
      (asserts_isLastActiveManager (fun s hother => ?_) relies_keeps_staffed
        (relies_keeps_spares hkind) (asserts_of_writes hlast (relies_keeps_spares hkind) hg))
    unfold Spares
    rw [if_pos hadmin, ← hid]
    exact not_lastManager_of_other hother
  · have hrole := h.resolve_left hadmin
    refine Tx.Asserts.mono (fun s hs => ⟨hs.1, hs.2 (.inl hrole)⟩)
      (asserts_of_writes hlast (relies_keeps_spares hkind) ?_)
    exact writes_isLastActiveManager.bind fun _ => writes_require.bind fun _ => hg

theorem suspend_asserts (hkind : call.2.dismisses = true) (hid : m.id = call.2.target) :
    (suspend m call.1).Asserts (relies call) promise (fun _ _ => True)
      (fun s => Staffed s ∧ (Shows call m → Spares call s)) [] fun s => s := by
  unfold suspend
  simp only [Tx.bind_eq]
  refine asserts_require fun _ => asserts_requirePlatform fun h => ?_
  exact asserts_dismissal hkind hid h (writes_suspension fun _ hj => hj)

theorem deleteStaff_asserts (hkind : call.2.dismisses = true) (hid : m.id = call.2.target) :
    (deleteStaff m call.1).Asserts (relies call) promise (fun _ _ => True)
      (fun s => Staffed s ∧ (Shows call m → Spares call s)) [] fun s => s := by
  unfold deleteStaff
  simp only [Tx.bind_eq]
  refine asserts_require fun _ => asserts_requirePlatform fun h => ?_
  exact asserts_dismissal hkind hid h (writes_deletion fun _ hj => hj)

theorem removeRole_asserts {role : Option SchoolRole} (hkind : call.2.unseats = true)
    (hdismisses : call.2.dismisses = true) (hid : m.id = call.2.target) :
    (removeRole m role call.1).Asserts (relies call) promise (fun _ _ => True)
      (fun s => Staffed s ∧ (Shows call m → Spares call s)) [] fun s => s := by
  have hlast : ∀ s, Spares call s → ¬ LastManager s m.id := by
    intro s hs
    rw [hid]
    exact hs.not_last
  by_cases hshows : Shows call m
  · refine Tx.Asserts.mono (fun s hs => ⟨hs.1, hs.2 hshows⟩)
      (asserts_of_writes hlast (relies_keeps_spares hdismisses) (writes_removeRole _ ?_))
    exact fun _ _ hj => hj
  · -- The removal is refused: by the platform as the last role, by others as the platform's.
    unfold removeRole
    simp only [Tx.bind_eq]
    cases role with
    | none => trivial
    | some role =>
      refine ⟨fun _ => Staffed, fun s hs => hs.1, fun _ => relies_keeps_staffed, fun assigned => ?_⟩
      refine asserts_require fun _ => asserts_requirePlatform fun h => ?_
      refine asserts_require fun hlen => absurd ?_ hshows
      rw [decide_eq_true_eq] at hlen
      rcases h with hadmin | hrole
      · exact .inr ⟨hadmin, .inr ⟨hkind, hlen⟩⟩
      · exact .inl hrole

theorem prefetch_asserts (hkind : call.2.dismisses = true) (hid : m.id = call.2.target) :
    (prefetchRoles m).Asserts (relies call) promise (Loaded call) (Found call m) := by
  refine ⟨fun roles s => Loaded call { m with roles := roles } s, fun s h => ?_, fun roles => ?_,
    fun roles s h => h⟩
  · exact loaded_of_roles h hid
  · exact (relies_keeps_staffed.imp (relies_keeps_spares hkind)).and (Change.keeps_const _ _ _)

theorem asserts_find {q : Staff → Option SchoolMembership} {e : Failure}
    (hkind : call.2.dismisses = true)
    (hq : ∀ s m, q s = some m → s.membership? call.2.target = some m) :
    ((Program.read q).bind fun found => (Program.need found e).bind prefetchRoles).Asserts
      (relies call) promise (Loaded call) fun s => Staffed s ∧ mayBegin call s := by
  refine ⟨fun found s => ∀ m ∈ found, Found call m s ∧ m.id = call.2.target, ?_, ?_, ?_⟩
  · intro s hs m hm
    have hfound := hq s m hm
    exact ⟨found_of_membership hs.1 hs.2 hfound, ((membership?_eq_some hs.1.ids).mp hfound).2⟩
  · intro found L s s' hcompat hR h m hm
    exact ⟨relies_keeps_found hkind m L s s' hcompat hR (h m hm).1, (h m hm).2⟩
  · intro found
    cases found with
    | none => trivial
    | some m =>
      have hloaded : m.id = call.2.target →
          (prefetchRoles m).Asserts (relies call) promise (Loaded call) (Found call m) :=
        prefetch_asserts hkind
      exact (Program.Asserts.of_and hloaded).mono fun s h => h m rfl

theorem membership_of_profile {id' : ℕ}
    (h : memberOf s id' = some m) : s.membership? id' = some m := by
  obtain ⟨p, hp, hm⟩ := Option.bind_eq_some_iff.mp h
  unfold Staff.profileOf at hp
  have hid := List.find?_some hp
  rw [decide_eq_true_eq] at hid
  rwa [← hid]

theorem load_asserts (hkind : call.2.dismisses = true) :
    call.2.load.Asserts (relies call) promise (Loaded call)
      fun s => Staffed s ∧ mayBegin call s := by
  obtain ⟨actor, call⟩ := call
  cases call with
  | suspendManager id label =>
    exact asserts_find hkind fun s m h => (Option.filter_eq_some_iff.mp h).1
  | reactivateManager id label =>
    exact asserts_find hkind fun s m h => (Option.filter_eq_some_iff.mp h).1
  | addRole id role => exact asserts_find hkind fun s m h => membership_of_profile h
  | removeRole id role => exact asserts_find hkind fun s m h => membership_of_profile h
  | suspend id => exact asserts_find hkind fun s m h => membership_of_profile h
  | reactivate id => exact asserts_find hkind fun s m h => membership_of_profile h
  | delete id => exact asserts_find hkind fun s m h => membership_of_profile h

theorem asserts_find_any {q : Staff → Option SchoolMembership} {e : Failure} :
    ((Program.read q).bind fun found => (Program.need found e).bind prefetchRoles).Asserts
      (relies call) promise (fun _ s => Staffed s) Staffed := by
  refine Program.Asserts.peek_any relies_keeps_staffed fun found => ?_
  cases found with
  | none => trivial
  | some m => exact Program.Asserts.peek_any relies_keeps_staffed fun _ _ hs => hs

theorem load_asserts_any :
    call.2.load.Asserts (relies call) promise (fun _ s => Staffed s) Staffed := by
  obtain ⟨actor, call⟩ := call
  cases call <;> exact asserts_find_any

theorem writes_body (hkind : call.2.dismisses = false) :
    (call.2.body m call.1).Writes (Edits fun _ => True) := by
  obtain ⟨actor, call⟩ := call
  cases call with
  | addRole id role => exact writes_addRole role actor
  | removeRole id role =>
    exact writes_removeRole actor fun h => absurd h (of_decide_eq_false hkind)
  | reactivate id => exact writes_reactivate actor
  | reactivateManager id label => exact writes_reactivate actor
  | suspend id => cases hkind
  | suspendManager id label => cases hkind
  | delete id => cases hkind

theorem body_asserts (hkind : call.2.dismisses = true) (hid : m.id = call.2.target) :
    (call.2.body m call.1).Asserts (relies call) promise (fun _ _ => True)
      (fun s => Staffed s ∧ (Shows call m → Spares call s)) [] fun s => s := by
  obtain ⟨actor, call⟩ := call
  cases call with
  | removeRole id role =>
    exact @removeRole_asserts _ (actor, .removeRole id role) _ hkind hkind hid
  | suspend id => exact @suspend_asserts _ (actor, .suspend id) hkind hid
  | suspendManager id label =>
    exact @suspend_asserts _ (actor, .suspendManager id label) hkind hid
  | delete id => exact @deleteStaff_asserts _ (actor, .delete id) hkind hid
  | addRole id role => cases hkind
  | reactivate id => cases hkind
  | reactivateManager id label => cases hkind

theorem request_asserts (call : Actor × StaffCall) :
    (request call).Asserts (relies call) promise (fun _ _ => True)
      fun s => Staffed s ∧ mayBegin call s := by
  have hdone : ∀ {t : StaffTransaction Unit} {K : Staff → Prop},
      t.Asserts (relies call) promise (fun _ _ => True) K [] (fun s => s) →
        (Program.transaction t).Asserts (relies call) promise (fun _ _ => True) K :=
    fun h => ⟨fun _ _ => True, h, fun _ => Change.keeps_const _ _ True, fun _ _ _ => trivial⟩
  by_cases hkind : call.2.dismisses = true
  · refine (load_asserts hkind).bind fun m => ?_
    exact Program.Asserts.of_and fun hid => hdone (body_asserts hkind hid)
  · rw [Bool.not_eq_true] at hkind
    refine (load_asserts_any.bind fun m => ?_).mono fun s hs => hs.1
    exact hdone (asserts_of_spares relies_keeps_staffed (writes_body hkind))

/-- **A school keeps an active manager** in every run in which the platform takes the role of
manager from no last active manager, and no other commit makes a member the last active manager
whom the platform is about to dismiss. -/
theorem staffed_throughout (calls : List (Actor × StaffCall)) (s : Staff)
    (hids : (s.memberships.map fun m => m.id).Nodup) (hs : Managed s) (sched : List ℕ)
    (c : Config Staff StaffLock Failure Unit)
    (h : (Config.start s (calls.map request)).exec sched = some c)
    (hcalm : UndisturbedRun request mayBegin undisturbed calls s sched) : Managed c.store := by
  have hstaffed : Staffed c.store := by
    refine UndisturbedRun.invariant (G := promise) (fun _ _ _ h => h.1) ?_ ⟨hids, hs⟩ h hcalm
    exact fun call _ => ⟨relies_keeps_mayBegin, request_asserts call⟩
  exact hstaffed.managed

/-! ## Schools that lose their manager -/

instance decidableMayBegin (call : Actor × StaffCall) (s : Staff) : Decidable (mayBegin call s) :=
  inferInstanceAs (Decidable (call.1.isPlatformAdmin = true → call.2.unseats = true →
    ¬ Exposed s call.2.target))

instance decidableUndisturbed (call : Actor × StaffCall) (s s' : Staff) :
    Decidable (undisturbed call s s') :=
  inferInstanceAs (Decidable (call.1.isPlatformAdmin = true →
    (call.2.dismisses = true → ¬ LastManager s call.2.target → ¬ LastManager s' call.2.target) ∧
      (call.2.unseats = true → ¬ Exposed s call.2.target → ¬ Exposed s' call.2.target)))

def platform : Actor := ⟨90, true⟩

def twoManagers : Staff where
  memberships := [⟨1, 11, .active, [.schoolManager]⟩, ⟨2, 12, .active, [.schoolManager, .teacher]⟩]
  profiles := [⟨1, "A", none, "", .manual⟩, ⟨2, "B", none, "", .manual⟩]

def handover : List (Actor × StaffCall) :=
  [(platform, .suspendManager 1 "مدير المدرسة"), (platform, .reactivateManager 1 "مدير المدرسة"),
    (platform, .removeRole 2 (some .schoolManager)), (platform, .addRole 2 (some .counselor))]

def handoverTurns : List ℕ :=
  List.replicate 13 0 ++ List.replicate 6 1 ++ List.replicate 2 2 ++ List.replicate 9 3 ++
    List.replicate 5 2

theorem staffed_throughout_handover : ∃ c : Config Staff StaffLock Failure Unit,
    (Config.start twoManagers (handover.map request)).exec handoverTurns = some c ∧
      Managed c.store := by
  have hruns : ((Config.start twoManagers (handover.map request)).exec handoverTurns).isSome =
      true := by decide +kernel
  obtain ⟨c, hc⟩ := Option.isSome_iff_exists.mp hruns
  have hcalm : UndisturbedRun request mayBegin undisturbed handover twoManagers handoverTurns :=
    Config.calmRun_of_check _ (by decide +kernel)
  exact ⟨c, hc, staffed_throughout handover twoManagers (by decide) (by decide) _ c hc hcalm⟩

def oneManager : Staff where
  memberships := [⟨1, 11, .active, [.schoolManager]⟩]
  profiles := [⟨1, "A", none, "", .manual⟩]

def demotion : List (Actor × StaffCall) :=
  [(platform, .addRole 1 (some .teacher)), (platform, .removeRole 1 (some .schoolManager))]

/-- **The last manager loses the role**, without another call beside. -/
theorem last_manager_lost : ¬ ∀ (calls : List (Actor × StaffCall)) (s : Staff),
    (s.memberships.map fun m => m.id).Nodup → Managed s → ∀ (sched : List ℕ)
      (c : Config Staff StaffLock Failure Unit),
        (Config.start s (calls.map request)).exec sched = some c → Managed c.store := by
  intro h
  have hruns : ((Config.start oneManager (demotion.map request)).exec
      (List.replicate 9 0 ++ List.replicate 7 1)).map (fun c => decide (Managed c.store)) =
        some false := by decide +kernel
  obtain ⟨c, hc, hlost⟩ := Option.map_eq_some_iff.mp hruns
  have hmanaged := h demotion oneManager (by decide) (by decide) _ c hc
  exact of_decide_eq_false hlost hmanaged

end SchoolPlatform.Roles
