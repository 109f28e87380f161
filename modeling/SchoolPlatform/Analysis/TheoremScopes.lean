import SchoolPlatform.Model.StaffAccounts
import SchoolPlatform.Library.GuardedRuns
import Mathlib.Data.List.Dedup

/-!
# Who is responsible for sections and grades

Sections are given to counselors, and grades or sections to vice principals. Whoever is suspended,
deleted or loses the role gives them back; but sections and grades can be given to a member who is
not active. As long as this is not done, every assignment is held by an active member with the
role, in every state of every sequence of calls.
-/

namespace SchoolPlatform.Roles

open ReadCommitted

def Holds (s : Staff) (role : SchoolRole) (id : ℕ) : Prop :=
  ∃ m ∈ s.memberships, m.id = id ∧ m.status = .active ∧ role ∈ m.roles

/-- Every assignment is held by an active member with its role, and none is made twice. -/
structure Owned (s : Staff) : Prop where
  counselors : ∀ a ∈ s.counselorSections, Holds s .counselor a.counselorMembership
  vicePrincipals : ∀ a ∈ s.vicePrincipalScopes, Holds s .vicePrincipal a.vicePrincipalMembership
  sections : (s.counselorSections.map fun a => a.sectionId).Nodup
  targets : (s.vicePrincipalScopes.map fun a => a.target).Nodup

/-- The sections that a request asks for: no choice is a choice of all that are active. -/
def RequestedSection (r : Registry) (sectionIds : List ℕ) (id : ℕ) : Prop :=
  if sectionIds = [] then ∃ x ∈ r.sections, x.isActive = true ∧ x.id = id else id ∈ sectionIds

def RequestedTarget (r : Registry) (gradeIds sectionIds : List ℕ) : ScopeTarget → Prop
  | .grade id => id ∈ gradeIds
  | .ofSection id => id ∈ sectionIds ∧ ∀ x ∈ r.sections, x.id = id → x.grade ∉ gradeIds

/-- The sections of a counselor become those that are asked for, and others lose only these. -/
structure CounselorSectionsSet (r : Registry) (m : SchoolMembership) (sectionIds : List ℕ)
    (s s' : Staff) : Prop where
  own : ∀ id, ⟨id, m.id⟩ ∈ s'.counselorSections ↔ RequestedSection r sectionIds id
  others : ∀ a : CounselorSectionAssignment, a.counselorMembership ≠ m.id →
    (a ∈ s'.counselorSections ↔
      a ∈ s.counselorSections ∧ ¬ RequestedSection r sectionIds a.sectionId)

structure VicePrincipalScopesSet (r : Registry) (m : SchoolMembership)
    (gradeIds sectionIds : List ℕ) (s s' : Staff) : Prop where
  own : ∀ target, ⟨target, m.id⟩ ∈ s'.vicePrincipalScopes ↔
    RequestedTarget r gradeIds sectionIds target
  others : ∀ a : VicePrincipalScopeAssignment, a.vicePrincipalMembership ≠ m.id →
    (a ∈ s'.vicePrincipalScopes ↔
      a ∈ s.vicePrincipalScopes ∧ ¬ RequestedTarget r gradeIds sectionIds a.target)

/-! ## Choices -/

section Choices

variable {α : Type} {key : α → ℕ} {p : α → Bool} {rows : List α} {ids : List ℕ}

theorem mem_found_iff (hkeys : (rows.map key).Nodup) (hp : ∀ x, p x = true → key x ∈ ids.dedup)
    (hlength : ((rows.filter p).map key).length = ids.dedup.length) (id : ℕ) :
    id ∈ (rows.filter p).map key ↔ id ∈ ids := by
  have hnodup : ((rows.filter p).map key).Nodup :=
    hkeys.sublist (List.filter_sublist.map key)
  have hsub : (rows.filter p).map key ⊆ ids.dedup := by
    intro j hj
    obtain ⟨x, hx, rfl⟩ := List.mem_map.mp hj
    exact hp x (List.mem_filter.mp hx).2
  have hperm := (List.subperm_of_subset hnodup hsub).perm_of_length_le hlength.ge
  rw [hperm.mem_iff, List.mem_dedup]

end Choices

/-- Sections and grades have distinct ids, and so do memberships. -/
structure Identified (r : Registry) : Prop where
  sections : (r.sections.map fun x => x.id).Nodup
  grades : (r.grades.map fun g => g.id).Nodup

variable {r : Registry} {m : SchoolMembership} {s s' : Staff} {sectionIds gradeIds : List ℕ}
  {confirm : Bool}

theorem setCounselorSections_ok (hr : Identified r)
    (h : setCounselorSections r m sectionIds confirm s = .ok s') :
    .counselor ∈ m.roles ∧ ∃ targets : List ℕ, targets.Nodup ∧
      (∀ id, id ∈ targets ↔ RequestedSection r sectionIds id) ∧
        s' = { s with counselorSections := (s.counselorSections.filter fun a =>
          a.counselorMembership ≠ m.id ∧ a.sectionId ∉ targets) ++
            targets.map fun id => ⟨id, m.id⟩ } := by
  unfold setCounselorSections at h
  by_cases hrole : SchoolRole.counselor ∉ m.roles
  · rw [if_pos hrole] at h
    cases h
  rw [if_neg hrole] at h
  dsimp only at h
  split at h
  · cases h
  rename_i hlength
  split at h
  · cases h
  simp only [Except.ok.injEq] at h
  refine ⟨not_not.mp hrole, _, ?_, fun id => ?_, h.symm⟩
  · exact hr.sections.sublist (List.filter_sublist.map _)
  · unfold RequestedSection
    by_cases hnone : sectionIds = []
    · simp [hnone, List.mem_map, List.mem_filter, and_assoc]
    · rw [if_neg hnone]
      have hdedup : sectionIds.dedup ≠ [] := by
        intro hempty
        exact hnone ((List.dedup_eq_nil sectionIds).mp hempty)
      simp only [hdedup, ne_eq, not_false_eq_true, true_and, not_not, false_or] at hlength ⊢
      refine mem_found_iff hr.sections (fun x hx => ?_) hlength id
      simp only [decide_eq_true_eq] at hx
      exact hx.2

section Targets

variable {grades : List ℕ} {sections : List Section}

theorem nodup_targets (hgrades : grades.Nodup) (hsections : (sections.map fun x => x.id).Nodup) :
    (grades.map ScopeTarget.grade ++ (sections.filter fun x => x.grade ∉ grades).map fun x =>
      ScopeTarget.ofSection x.id).Nodup := by
  rw [List.nodup_append']
  refine ⟨hgrades.map fun i j hij => ScopeTarget.grade.inj hij, ?_, ?_⟩
  · have hids := hsections.sublist ((List.filter_sublist (p := fun x => x.grade ∉ grades)).map _)
    have htargets := hids.map (f := ScopeTarget.ofSection) fun i j hij =>
      ScopeTarget.ofSection.inj hij
    rwa [List.map_map] at htargets
  · intro target hleft hright
    obtain ⟨i, -, rfl⟩ := List.mem_map.mp hleft
    obtain ⟨x, -, hx⟩ := List.mem_map.mp hright
    cases hx

theorem mem_targets (hr : Identified r) (hsub : sections ⊆ r.sections)
    (hgrade : ∀ id, id ∈ grades ↔ id ∈ gradeIds)
    (hsection : ∀ id, id ∈ sections.map (fun x => x.id) ↔ id ∈ sectionIds) (target : ScopeTarget) :
    target ∈ (grades.map ScopeTarget.grade ++ (sections.filter fun x => x.grade ∉ grades).map
      fun x => ScopeTarget.ofSection x.id) ↔ RequestedTarget r gradeIds sectionIds target := by
  cases target with
  | grade id => simp [RequestedTarget, ← hgrade]
  | ofSection id =>
    have hshape : ScopeTarget.ofSection id ∈ grades.map ScopeTarget.grade ++
        ((sections.filter fun x => x.grade ∉ grades).map fun x => ScopeTarget.ofSection x.id) ↔
          ∃ x ∈ sections, x.grade ∉ gradeIds ∧ x.id = id := by
      simp [hgrade, and_assoc]
    rw [hshape]
    simp only [RequestedTarget, ← hsection, List.mem_map]
    constructor
    · rintro ⟨x, hx, hgrade, rfl⟩
      refine ⟨⟨x, hx, rfl⟩, fun y hy hid => ?_⟩
      rw [Table.eq_of_key_eq hr.sections hy (hsub hx) hid]
      exact hgrade
    · rintro ⟨⟨x, hx, rfl⟩, hother⟩
      exact ⟨x, hx, hother x (hsub hx) rfl, rfl⟩

end Targets

theorem setVicePrincipalScopes_ok (hr : Identified r)
    (h : setVicePrincipalScopes r m gradeIds sectionIds confirm s = .ok s') :
    .vicePrincipal ∈ m.roles ∧ ∃ targets : List ScopeTarget, targets.Nodup ∧
      (∀ target, target ∈ targets ↔ RequestedTarget r gradeIds sectionIds target) ∧
        s' = { s with vicePrincipalScopes := (s.vicePrincipalScopes.filter fun a =>
          a.vicePrincipalMembership ≠ m.id ∧ a.target ∉ targets) ++
            targets.map fun target => ⟨target, m.id⟩ } := by
  unfold setVicePrincipalScopes at h
  by_cases hrole : SchoolRole.vicePrincipal ∉ m.roles
  · rw [if_pos hrole] at h
    cases h
  rw [if_neg hrole] at h
  dsimp only at h
  split at h
  · cases h
  rename_i hgrades
  split at h
  · cases h
  rename_i hsections
  split at h
  · cases h
  simp only [Except.ok.injEq] at h
  rw [not_not] at hgrades hsections
  rw [← List.length_map fun x : Section => x.id] at hsections
  have hgrade := mem_found_iff hr.grades (fun g hg => (of_decide_eq_true hg).2) hgrades
  have hsection := mem_found_iff hr.sections (fun x hx => (of_decide_eq_true hx).2.2) hsections
  refine ⟨not_not.mp hrole, _, ?_, fun target => ?_, h.symm⟩
  · exact nodup_targets (hr.grades.sublist (List.filter_sublist.map _))
      (hr.sections.sublist (List.filter_sublist.map _))
  · exact mem_targets hr (List.filter_subset_self _) hgrade hsection target

/-- **The sections of a counselor are those asked for**, and nobody loses others. -/
theorem counselorSectionsSet_of_ok (hr : Identified r)
    (h : setCounselorSections r m sectionIds confirm s = .ok s') :
    CounselorSectionsSet r m sectionIds s s' := by
  obtain ⟨-, targets, -, htargets, rfl⟩ := setCounselorSections_ok hr h
  constructor
  · intro id
    simp [htargets]
  · intro a ha
    obtain ⟨id, owner⟩ := a
    have hother : m.id ≠ owner := fun h => ha h.symm
    simp [htargets, hother, ha]

/-- **The scope of a vice principal is that asked for**, and nobody loses more. -/
theorem vicePrincipalScopesSet_of_ok (hr : Identified r)
    (h : setVicePrincipalScopes r m gradeIds sectionIds confirm s = .ok s') :
    VicePrincipalScopesSet r m gradeIds sectionIds s s' := by
  obtain ⟨-, targets, -, htargets, rfl⟩ := setVicePrincipalScopes_ok hr h
  constructor
  · intro target
    simp [htargets]
  · intro a ha
    obtain ⟨target, owner⟩ := a
    have hother : m.id ≠ owner := fun h => ha h.symm
    simp [htargets, hother, ha]

/-! ## What the other calls do -/

def released (s : Staff) (id : ℕ) : Staff :=
  withoutVicePrincipalScopes (withoutCounselorSections s id) id

section Bodies

variable {actor : Actor} {id : ℕ} {g : Unit → StaffTransaction Unit} {e : Failure}

theorem eval_requirePlatform {action : String}
    (h : ((requirePlatformForManager m actor action).bind g).eval s = .ok ((), s')) :
    (g ()).eval s = .ok ((), s') := by
  unfold requirePlatformForManager at h
  split at h
  · exact h
  · cases h

theorem eval_isLastActiveManager
    (h : ((isLastActiveManager m).bind fun last => (Tx.require (!last) e).bind g).eval s =
      .ok ((), s')) : (g ()).eval s = .ok ((), s') := by
  unfold isLastActiveManager at h
  split at h
  · exact h
  · exact (Tx.eval_require_bind.mp h).2

theorem suspend_ok (h : (suspend m actor).eval s = .ok ((), s')) :
    s' = released (withStatus s m.id .suspended) m.id := by
  unfold suspend at h
  simp only [Tx.bind_eq] at h
  have hchecked := eval_isLastActiveManager (eval_requirePlatform (Tx.eval_require_bind.mp h).2)
  simp only [saveStatus, clearCounselorSections, clearVicePrincipalScopes, Tx.bind_eq,
    Tx.eval_bind, Tx.eval_lockRows, Tx.eval_update, Tx.eval_updateWhere, Except.ok.injEq,
    Prod.mk.injEq, true_and] at hchecked
  exact hchecked.symm

theorem reactivate_ok (h : (reactivate m actor).eval s = .ok ((), s')) :
    s' = withStatus s m.id .active := by
  unfold reactivate at h
  simp only [Tx.bind_eq] at h
  have hchecked := eval_requirePlatform (Tx.eval_require_bind.mp h).2
  simp only [saveStatus, Tx.bind_eq, Tx.eval_bind, Tx.eval_lockRows, Tx.eval_update,
    Except.ok.injEq, Prod.mk.injEq, true_and] at hchecked
  exact hchecked.symm

theorem deleteStaff_ok (h : (deleteStaff m actor).eval s = .ok ((), s')) :
    s' = withStatus (withRoles { released s m.id with
      profiles := s.profiles.filter fun p => p.membership ≠ m.id } m.id fun _ => []) m.id
        .left := by
  unfold deleteStaff at h
  simp only [Tx.bind_eq] at h
  have hchecked := eval_isLastActiveManager (eval_requirePlatform (Tx.eval_require_bind.mp h).2)
  simp only [saveStatus, clearCounselorSections, clearVicePrincipalScopes, Tx.bind_eq,
    Tx.eval_bind, Tx.eval_lockRows, Tx.eval_update, Tx.eval_updateWhere, Except.ok.injEq,
    Prod.mk.injEq, true_and] at hchecked
  exact hchecked.symm

theorem addRole_ok {role : Option SchoolRole}
    (h : (addRole m role actor).eval s = .ok ((), s')) :
    s' = s ∨ ∃ role, s' = withRoles s m.id fun roles => roles ++ [role] := by
  unfold addRole at h
  simp only [Tx.bind_eq] at h
  obtain ⟨role, rfl, h⟩ := Tx.eval_need_bind.mp h
  have hcreate := eval_requirePlatform (Tx.eval_require_bind.mp h).2
  obtain ⟨created, t, hnew, hlast⟩ := Tx.eval_bind_ok.mp hcreate
  have ht : s' = t := by
    unfold Tx.require at hlast
    split at hlast
    · cases hlast
      rfl
    · cases hlast
  subst ht
  unfold getOrCreateRole at hnew
  simp only [Tx.bind_eq, Tx.pure_eq] at hnew
  obtain ⟨assigned, t, hread, hnew⟩ := Tx.eval_bind_ok.mp hnew
  cases hread
  by_cases hassigned : (rolesOf s m.id).contains role = true
  · rw [if_pos hassigned] at hnew
    cases hnew
    exact .inl rfl
  · rw [if_neg hassigned] at hnew
    have hwrite : (if (rolesOf s m.id).contains role = true then
        (Tx.ret false : StaffTransaction Bool) else
          (Tx.update fun s => withRoles s m.id fun roles => roles ++ [role]).bind fun _ =>
            .ret true).eval s = .ok (created, s') := hnew
    rw [if_neg hassigned] at hwrite
    cases hwrite
    exact .inr ⟨role, rfl⟩

theorem removeRole_ok {role : Option SchoolRole}
    (h : (removeRole m role actor).eval s = .ok ((), s')) :
    ∃ role, s' =
      let t := withRoles s m.id fun roles => roles.filter fun r => r ≠ role
      let t := if role = .counselor then withoutCounselorSections t m.id else t
      if role = .vicePrincipal then withoutVicePrincipalScopes t m.id else t := by
  unfold removeRole at h
  simp only [Tx.bind_eq] at h
  obtain ⟨role, rfl, h⟩ := Tx.eval_need_bind.mp h
  obtain ⟨assigned, t, hread, h⟩ := Tx.eval_bind_ok.mp h
  cases hread
  have hchecked := (Tx.eval_require_bind.mp (eval_requirePlatform
    (Tx.eval_require_bind.mp h).2)).2
  refine ⟨role, ?_⟩
  cases role <;> cases hchecked <;> rfl

end Bodies

/-! ## What the calls keep -/

section Kept

variable {role : SchoolRole} {id j : ℕ}

theorem Owned.of_change (hs : Owned s) (hc : s'.counselorSections.Sublist s.counselorSections)
    (hv : s'.vicePrincipalScopes.Sublist s.vicePrincipalScopes)
    (hcounselors : ∀ a ∈ s'.counselorSections, Holds s .counselor a.counselorMembership →
      Holds s' .counselor a.counselorMembership)
    (hvice : ∀ a ∈ s'.vicePrincipalScopes, Holds s .vicePrincipal a.vicePrincipalMembership →
      Holds s' .vicePrincipal a.vicePrincipalMembership) : Owned s' where
  counselors := fun a ha => hcounselors a ha (hs.counselors a (hc.subset ha))
  vicePrincipals := fun a ha => hvice a ha (hs.vicePrincipals a (hv.subset ha))
  sections := hs.sections.sublist (hc.map _)
  targets := hs.targets.sublist (hv.map _)

theorem Holds.of_member {f : SchoolMembership → SchoolMembership} (h : Holds s role j)
    (hf : ∀ m, m.id = id → (f m).id = m.id)
    (hkeeps : ∀ m, m.id = id → m.id = j → m.status = .active → role ∈ m.roles →
      (f m).status = .active ∧ role ∈ (f m).roles)
    (heq : s'.memberships = s.memberships.map fun m => if m.id = id then f m else m) :
    Holds s' role j := by
  obtain ⟨m, hm, hid, hactive, hrole⟩ := h
  refine ⟨if m.id = id then f m else m, ?_, ?_⟩
  · rw [heq]
    exact List.mem_map_of_mem hm
  · by_cases hsame : m.id = id
    · rw [if_pos hsame, hf m hsame]
      exact ⟨hid, hkeeps m hsame hid hactive hrole⟩
    · rw [if_neg hsame]
      exact ⟨hid, hactive, hrole⟩

theorem Holds.withStatus {status : MembershipStatus} (h : Holds s role j)
    (hstatus : j = id → status = .active) : Holds (withStatus s id status) role j := by
  refine h.of_member (f := fun m => { m with status := status }) (fun _ _ => rfl) ?_ rfl
  intro m hm hj _ hrole
  exact ⟨hstatus (hj.symm.trans hm), hrole⟩

theorem Holds.withRoles {f : List SchoolRole → List SchoolRole} (h : Holds s role j)
    (hf : j = id → ∀ roles, role ∈ roles → role ∈ f roles) :
    Holds (withRoles s id f) role j := by
  refine h.of_member (f := fun m => { m with roles := f m.roles }) (fun _ _ => rfl) ?_ rfl
  intro m hm hj hactive hrole
  exact ⟨hactive, hf (hj.symm.trans hm) m.roles hrole⟩

theorem owned_of_suspend (hs : Owned s) : Owned (released (withStatus s id .suspended) id) := by
  refine hs.of_change List.filter_sublist List.filter_sublist ?_ ?_
  · intro a ha hholds
    have hother : a.counselorMembership ≠ id := of_decide_eq_true (List.mem_filter.mp ha).2
    exact hholds.withStatus fun hid => absurd hid hother
  · intro a ha hholds
    have hother : a.vicePrincipalMembership ≠ id := of_decide_eq_true (List.mem_filter.mp ha).2
    exact hholds.withStatus fun hid => absurd hid hother

theorem owned_of_reactivate (hs : Owned s) : Owned (withStatus s id .active) :=
  hs.of_change (List.Sublist.refl _) (List.Sublist.refl _)
    (fun _ _ hholds => hholds.withStatus fun _ => rfl)
    fun _ _ hholds => hholds.withStatus fun _ => rfl

theorem owned_of_addRole (hs : Owned s) :
    Owned (withRoles s id fun roles => roles ++ [role]) :=
  hs.of_change (List.Sublist.refl _) (List.Sublist.refl _)
    (fun _ _ hholds => hholds.withRoles fun _ _ h => List.mem_append_left _ h)
    fun _ _ hholds => hholds.withRoles fun _ _ h => List.mem_append_left _ h

theorem owned_of_delete (hs : Owned s) (profiles : List StaffProfile) :
    Owned (withStatus (withRoles { released s id with profiles := profiles } id fun _ => []) id
      .left) := by
  refine hs.of_change List.filter_sublist List.filter_sublist ?_ ?_
  · intro a ha hholds
    have hother : a.counselorMembership ≠ id := of_decide_eq_true (List.mem_filter.mp ha).2
    have hroles : Holds (withRoles { released s id with profiles := profiles } id fun _ => [])
        .counselor a.counselorMembership :=
      Holds.withRoles (s := { released s id with profiles := profiles }) hholds
        fun hid => absurd hid hother
    exact hroles.withStatus fun hid => absurd hid hother
  · intro a ha hholds
    have hother : a.vicePrincipalMembership ≠ id := of_decide_eq_true (List.mem_filter.mp ha).2
    have hroles : Holds (withRoles { released s id with profiles := profiles } id fun _ => [])
        .vicePrincipal a.vicePrincipalMembership :=
      Holds.withRoles (s := { released s id with profiles := profiles }) hholds
        fun hid => absurd hid hother
    exact hroles.withStatus fun hid => absurd hid hother

theorem owned_of_removeRole (hs : Owned s) (role : SchoolRole) :
    Owned (let t := withRoles s id fun roles => roles.filter fun r => r ≠ role
      let t := if role = .counselor then withoutCounselorSections t id else t
      if role = .vicePrincipal then withoutVicePrincipalScopes t id else t) := by
  have hkept : ∀ {kept : SchoolRole} {j : ℕ}, (j = id → kept ≠ role) → Holds s kept j →
      Holds (withRoles s id fun roles => roles.filter fun r => r ≠ role) kept j := by
    intro kept j hne hholds
    refine hholds.withRoles fun hid roles hrole => ?_
    rw [List.mem_filter]
    exact ⟨hrole, decide_eq_true (hne hid)⟩
  by_cases hcounselor : role = .counselor
  · subst hcounselor
    refine hs.of_change List.filter_sublist (List.Sublist.refl _) ?_ ?_
    · intro a ha hholds
      have hother : a.counselorMembership ≠ id := of_decide_eq_true (List.mem_filter.mp ha).2
      exact hkept (fun hid => absurd hid hother) hholds
    · exact fun a _ hholds => hkept (fun _ => by decide) hholds
  · by_cases hvice : role = .vicePrincipal
    · subst hvice
      refine hs.of_change (List.Sublist.refl _) List.filter_sublist ?_ ?_
      · exact fun a _ hholds => hkept (fun _ => by decide) hholds
      · intro a ha hholds
        have hother : a.vicePrincipalMembership ≠ id := of_decide_eq_true (List.mem_filter.mp ha).2
        exact hkept (fun hid => absurd hid hother) hholds
    · simp only [hcounselor, hvice, if_false]
      exact hs.of_change (List.Sublist.refl _) (List.Sublist.refl _)
        (fun a _ hholds => hkept (fun _ h => hcounselor h.symm) hholds)
        fun a _ hholds => hkept (fun _ h => hvice h.symm) hholds

theorem owned_of_body {actor : Actor} {call : StaffCall} (hs : Owned s)
    (h : (call.body m actor).eval s = .ok ((), s')) : Owned s' := by
  cases call with
  | addRole id role =>
    rcases addRole_ok h with rfl | ⟨role, rfl⟩
    · exact hs
    · exact owned_of_addRole hs
  | removeRole id role =>
    obtain ⟨role, rfl⟩ := removeRole_ok h
    exact owned_of_removeRole hs role
  | suspend id =>
    rw [suspend_ok h]
    exact owned_of_suspend hs
  | suspendManager id label =>
    rw [suspend_ok h]
    exact owned_of_suspend hs
  | reactivate id =>
    rw [reactivate_ok h]
    exact owned_of_reactivate hs
  | reactivateManager id label =>
    rw [reactivate_ok h]
    exact owned_of_reactivate hs
  | delete id =>
    rw [deleteStaff_ok h]
    exact owned_of_delete hs _

theorem preserves_find {q : Staff → Option SchoolMembership} {e : Failure} :
    ((Program.read q).bind fun found => (Program.need found e).bind prefetchRoles).Preserves
      Owned := by
  intro found
  cases found with
  | none => trivial
  | some m => exact fun _ => trivial

theorem preserves_program (actor : Actor) (call : StaffCall) :
    (call.program actor).Preserves Owned := by
  have hload : call.load.Preserves Owned := by
    cases call <;> exact preserves_find
  exact hload.bind fun m => ⟨fun s _ s' hs h => owned_of_body hs h, fun _ => trivial⟩

end Kept

/-! ## Sequences of calls -/

/-- Sections and grades are given to an active member, or to one without the role, who is
refused. -/
def Admits (s : Staff) : ScopeCall → Prop
  | .counselorSections id _ _ => ∀ m ∈ memberOf s id, .counselor ∈ m.roles → m.status = .active
  | .vicePrincipalScopes id _ _ _ =>
    ∀ m ∈ memberOf s id, .vicePrincipal ∈ m.roles → m.status = .active
  | .staff _ _ => True

instance decidableAdmits (s : Staff) : ∀ call, Decidable (Admits s call)
  | .counselorSections id _ _ => inferInstanceAs
    (Decidable (∀ m ∈ memberOf s id, .counselor ∈ m.roles → m.status = .active))
  | .vicePrincipalScopes id _ _ _ => inferInstanceAs
    (Decidable (∀ m ∈ memberOf s id, .vicePrincipal ∈ m.roles → m.status = .active))
  | .staff _ _ => inferInstanceAs (Decidable True)

theorem mem_of_memberOf {id : ℕ} (h : memberOf s id = some m) : m ∈ s.memberships := by
  obtain ⟨p, -, hm⟩ := Option.bind_eq_some_iff.mp h
  exact List.mem_of_find?_eq_some hm

theorem owned_of_counselorSections (hr : Identified r) (hs : Owned s) (hm : m ∈ s.memberships)
    (hactive : .counselor ∈ m.roles → m.status = .active)
    (h : setCounselorSections r m sectionIds confirm s = .ok s') : Owned s' := by
  obtain ⟨hrole, targets, hnodup, -, rfl⟩ := setCounselorSections_ok hr h
  refine ⟨fun a ha => ?_, hs.vicePrincipals, ?_, hs.targets⟩
  · rcases List.mem_append.mp ha with hold | hnew
    · exact hs.counselors a (List.mem_of_mem_filter hold)
    · obtain ⟨id, -, rfl⟩ := List.mem_map.mp hnew
      exact ⟨m, hm, rfl, hactive hrole, hrole⟩
  · rw [List.map_append, List.map_map, List.nodup_append']
    have hids : targets.map ((fun a => a.sectionId) ∘ fun id =>
        (⟨id, m.id⟩ : CounselorSectionAssignment)) = targets := List.map_id' targets
    rw [hids]
    refine ⟨hs.sections.sublist (List.filter_sublist.map _), hnodup, fun id hold hnew => ?_⟩
    obtain ⟨a, ha, rfl⟩ := List.mem_map.mp hold
    exact (of_decide_eq_true (List.mem_filter.mp ha).2).2 hnew

theorem owned_of_vicePrincipalScopes (hr : Identified r) (hs : Owned s) (hm : m ∈ s.memberships)
    (hactive : .vicePrincipal ∈ m.roles → m.status = .active)
    (h : setVicePrincipalScopes r m gradeIds sectionIds confirm s = .ok s') : Owned s' := by
  obtain ⟨hrole, targets, hnodup, -, rfl⟩ := setVicePrincipalScopes_ok hr h
  refine ⟨hs.counselors, fun a ha => ?_, hs.sections, ?_⟩
  · rcases List.mem_append.mp ha with hold | hnew
    · exact hs.vicePrincipals a (List.mem_of_mem_filter hold)
    · obtain ⟨target, -, rfl⟩ := List.mem_map.mp hnew
      exact ⟨m, hm, rfl, hactive hrole, hrole⟩
  · rw [List.map_append, List.map_map, List.nodup_append']
    have htargets : targets.map ((fun a => a.target) ∘ fun target =>
        (⟨target, m.id⟩ : VicePrincipalScopeAssignment)) = targets := List.map_id' targets
    rw [htargets]
    refine ⟨hs.targets.sublist (List.filter_sublist.map _), hnodup, fun target hold hnew => ?_⟩
    obtain ⟨a, ha, rfl⟩ := List.mem_map.mp hold
    exact (of_decide_eq_true (List.mem_filter.mp ha).2).2 hnew

theorem owned_step (hr : Identified r) (s : Staff) (call : ScopeCall) (hs : Owned s)
    (h : Admits s call) : Owned (call.step r s) := by
  have hdone : ∀ {id : ℕ} {set : SchoolMembership → Except ApiError Staff},
      (∀ m s', memberOf s id = some m → set m = .ok s' → Owned s') →
        Owned (((memberOf s id).bind fun m => (set m).toOption).getD s) := by
    intro id set hset
    cases hm : memberOf s id with
    | none => exact hs
    | some m =>
      rw [Option.bind_some]
      cases hresult : set m with
      | error e => exact hs
      | ok s' => exact hset m s' hm hresult
  cases call with
  | counselorSections id sectionIds confirm =>
    exact hdone fun m s' hm hset =>
      owned_of_counselorSections hr hs (mem_of_memberOf hm) (h m hm) hset
  | vicePrincipalScopes id gradeIds sectionIds confirm =>
    exact hdone fun m s' hm hset =>
      owned_of_vicePrincipalScopes hr hs (mem_of_memberOf hm) (h m hm) hset
  | staff actor call => exact (preserves_program actor call).run hs

/-- **Scopes belong to someone who can act**, in every state of every sequence of calls that gives
them to active members; and whoever is given a scope has exactly it, and others what is left. -/
theorem scopes_owned (r : Registry) (hr : Identified r) (s : Staff) (hs : Owned s)
    (calls : List ScopeCall)
    (hcalls : Runs.Guarded (fun s call => ScopeCall.step r s call) Admits s calls)
    (l : List ScopeCall) (hl : l <+: calls) :
    let t := l.foldl (fun s call => ScopeCall.step r s call) s
    Owned t ∧
      (∀ m sectionIds confirm t', setCounselorSections r m sectionIds confirm t = .ok t' →
        CounselorSectionsSet r m sectionIds t t') ∧
      ∀ m gradeIds sectionIds confirm t',
        setVicePrincipalScopes r m gradeIds sectionIds confirm t = .ok t' →
          VicePrincipalScopesSet r m gradeIds sectionIds t t' :=
  ⟨hcalls.invariant (owned_step hr) hs l hl,
    fun _ _ _ _ h => counselorSectionsSet_of_ok hr h,
    fun _ _ _ _ _ h => vicePrincipalScopesSet_of_ok hr h⟩

/-! ## A counselor who has been suspended -/

def twoSections : Registry where
  grades := [⟨1, "1", "1", 1, true⟩]
  sections := [{ id := 5, grade := 1, name := "A", code := "A" },
    { id := 6, grade := 1, name := "B", code := "B" }]

theorem identified_twoSections : Identified twoSections := ⟨by decide, by decide⟩

def smallStaff : Staff where
  memberships := [⟨1, 11, .active, [.schoolManager]⟩, ⟨2, 12, .active, [.counselor]⟩,
    ⟨3, 13, .active, [.counselor, .vicePrincipal]⟩]
  profiles := [⟨1, "A", none, "", .manual⟩, ⟨2, "B", none, "", .manual⟩,
    ⟨3, "C", none, "", .manual⟩]

theorem owned_smallStaff : Owned smallStaff :=
  ⟨fun _ h => absurd h List.not_mem_nil, fun _ h => absurd h List.not_mem_nil, List.nodup_nil,
    List.nodup_nil⟩

def manager : Actor := ⟨11, false⟩

def reassignment : List ScopeCall :=
  [.counselorSections 2 [] false, .counselorSections 3 [5] true,
    .vicePrincipalScopes 3 [1] [6] false, .staff manager (.suspend 3),
    .counselorSections 2 [5, 6] false]

theorem scopes_owned_reassignment :
    Owned (reassignment.foldl (fun s call => ScopeCall.step twoSections s call) smallStaff) :=
  (scopes_owned twoSections identified_twoSections smallStaff owned_smallStaff reassignment
    (by decide +kernel) reassignment (List.prefix_refl _)).1

/-- **A suspended counselor is given sections.** -/
theorem suspended_counselor_set : ¬ ∀ (r : Registry) (s : Staff) (calls : List ScopeCall),
    Identified r → Owned s →
      Owned (calls.foldl (fun s call => ScopeCall.step r s call) s) := by
  intro h
  have howned := h twoSections smallStaff
    [.staff manager (.suspend 2), .counselorSections 2 [5] false] identified_twoSections
    owned_smallStaff
  have hheld : (⟨5, 2⟩ : CounselorSectionAssignment) ∈ ([.staff manager (.suspend 2),
      .counselorSections 2 [5] false].foldl (fun s call => ScopeCall.step twoSections s call)
        smallStaff).counselorSections := by decide +kernel
  obtain ⟨m, hm, hid, hactive, -⟩ := howned.counselors _ hheld
  have hnone : ∀ m ∈ ([.staff manager (.suspend 2), .counselorSections 2 [5] false].foldl
      (fun s call => ScopeCall.step twoSections s call) smallStaff).memberships,
        m.id = 2 → m.status ≠ .active := by decide +kernel
  exact hnone m hm hid hactive

end SchoolPlatform.Roles
