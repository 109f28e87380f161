import SchoolPlatform.Library.FallibleFolds
import SchoolPlatform.Model.StaffFile

/-!
# What a school knows of a mobile number

The user, the membership and the profile that belong to a mobile number, and what each write of
an import does to them: it changes them for one number and leaves those of all others as they are.
-/

namespace SchoolPlatform

/-- The constraints of the tables: what is unique, what refers to what, and what fits its column. -/
structure Staff.Sound (s : Staff) : Prop where
  mobiles : (s.users.map fun u => u.mobile).Nodup
  userIds : (s.users.map fun u => u.id).Nodup
  userIds_lt : ∀ u ∈ s.users, u.id < s.nextId
  memberIds : (s.memberships.map fun m => m.id).Nodup
  memberIds_lt : ∀ m ∈ s.memberships, m.id < s.nextId
  memberUsers : (s.memberships.map fun m => m.user).Nodup
  users : ∀ m ∈ s.memberships, ∃ u ∈ s.users, u.id = m.user
  profileMembers : (s.profiles.map fun p => p.membership).Nodup
  members : ∀ p ∈ s.profiles, ∃ m ∈ s.memberships, m.id = p.membership
  numbers : ∀ p ∈ s.profiles, ∀ q ∈ s.profiles, p.employeeNumber ≠ none →
    p.employeeNumber = q.employeeNumber → p.membership = q.membership
  fits : ∀ p ∈ s.profiles, p.Fits

def Staff.memberAt (s : Staff) (mobile : String) : Option SchoolMembership :=
  (s.userByMobile mobile).bind fun u => s.membershipOf u.id

def Staff.profileAt (s : Staff) (mobile : String) : Option StaffProfile :=
  (s.memberAt mobile).bind fun m => s.profileOf m.id

def Staff.numberAt (s : Staff) (mobile : String) : Option String :=
  (s.profileAt mobile).bind fun p => p.employeeNumber

/-- Two states of the staff know the same of a mobile number. -/
structure Staff.SameAt (s s' : Staff) (mobile : String) : Prop where
  user : s'.userByMobile mobile = s.userByMobile mobile
  member : s'.memberAt mobile = s.memberAt mobile
  profile : s'.profileAt mobile = s.profileAt mobile

structure Staff.Stands (s : Staff) (mobile : String) (u : User) (m : SchoolMembership) : Prop where
  user : s.userByMobile mobile = some u
  member : s.membershipOf u.id = some m

/-- A change keeps the constraints and says nothing about other mobile numbers. -/
structure Staff.OnlyAt (mobile : String) (s s' : Staff) : Prop where
  sound : s'.Sound
  same : ∀ other, other ≠ mobile → s.SameAt s' other

variable {s s' s'' : Staff} {mobile other : String} {u : User} {m : SchoolMembership}
  {p : StaffProfile}

theorem Staff.SameAt.refl : s.SameAt s mobile := ⟨rfl, rfl, rfl⟩

theorem Staff.SameAt.trans (h : s.SameAt s' mobile) (h' : s'.SameAt s'' mobile) :
    s.SameAt s'' mobile :=
  ⟨h'.user.trans h.user, h'.member.trans h.member, h'.profile.trans h.profile⟩

theorem Staff.SameAt.number (h : s.SameAt s' mobile) : s'.numberAt mobile = s.numberAt mobile := by
  unfold Staff.numberAt
  rw [h.profile]

theorem Staff.OnlyAt.refl (h : s.Sound) : Staff.OnlyAt mobile s s :=
  ⟨h, fun _ _ => Staff.SameAt.refl⟩

theorem Staff.OnlyAt.trans (h : Staff.OnlyAt mobile s s') (h' : Staff.OnlyAt mobile s' s'') :
    Staff.OnlyAt mobile s s'' :=
  ⟨h'.sound, fun other hother => (h.same other hother).trans (h'.same other hother)⟩

theorem Staff.SameAt.of_profileOf (huser : s'.userByMobile mobile = s.userByMobile mobile)
    (hmember : s'.memberAt mobile = s.memberAt mobile)
    (hprofile : ∀ m, s.memberAt mobile = some m → s'.profileOf m.id = s.profileOf m.id) :
    s.SameAt s' mobile := by
  refine ⟨huser, hmember, ?_⟩
  unfold Staff.profileAt
  rw [hmember]
  cases hm : s.memberAt mobile with
  | none => rfl
  | some m => exact hprofile m hm

theorem Staff.Stands.memberAt (h : s.Stands mobile u m) : s.memberAt mobile = some m := by
  unfold Staff.memberAt
  rw [h.user]
  exact h.member

theorem Staff.Stands.profileAt (h : s.Stands mobile u m) :
    s.profileAt mobile = s.profileOf m.id := by
  unfold Staff.profileAt
  rw [h.memberAt]
  rfl

namespace Staff.Sound

variable (h : s.Sound)
include h

theorem userByMobile_iff : s.userByMobile mobile = some u ↔ u ∈ s.users ∧ u.mobile = mobile :=
  Table.find?_eq_some_iff h.mobiles mobile u

theorem membershipOf_iff {id : ℕ} : s.membershipOf id = some m ↔ m ∈ s.memberships ∧ m.user = id :=
  Table.find?_eq_some_iff h.memberUsers id m

theorem membership?_iff {id : ℕ} : s.membership? id = some m ↔ m ∈ s.memberships ∧ m.id = id :=
  Table.find?_eq_some_iff h.memberIds id m

theorem profileOf_iff {id : ℕ} : s.profileOf id = some p ↔ p ∈ s.profiles ∧ p.membership = id :=
  Table.find?_eq_some_iff h.profileMembers id p

theorem user_ne {u' : User} (hother : other ≠ mobile) (hu : s.userByMobile mobile = some u)
    (hu' : s.userByMobile other = some u') : u'.id ≠ u.id := by
  intro hid
  rw [h.userByMobile_iff] at hu hu'
  have heq := Table.eq_of_key_eq h.userIds hu'.1 hu.1 hid
  exact hother (hu'.2.symm.trans ((congrArg (fun x : User => x.mobile) heq).trans hu.2))

theorem memberAt_iff :
    s.memberAt mobile = some m ↔
      m ∈ s.memberships ∧ ∃ u ∈ s.users, u.id = m.user ∧ u.mobile = mobile := by
  unfold Staff.memberAt
  rw [Option.bind_eq_some_iff]
  constructor
  · intro hm
    obtain ⟨u, hu, hm⟩ := hm
    rw [h.userByMobile_iff] at hu
    rw [h.membershipOf_iff] at hm
    exact ⟨hm.1, u, hu.1, hm.2.symm, hu.2⟩
  · intro hm
    obtain ⟨hm, u, hu, hid, hmobile⟩ := hm
    exact ⟨u, h.userByMobile_iff.mpr ⟨hu, hmobile⟩, h.membershipOf_iff.mpr ⟨hm, hid.symm⟩⟩

theorem memberAt_ne {m' : SchoolMembership} (hother : other ≠ mobile)
    (hm : s.memberAt mobile = some m) (hm' : s.memberAt other = some m') : m'.id ≠ m.id := by
  intro hid
  obtain ⟨hmem, u, hu, huser, hmobile⟩ := h.memberAt_iff.mp hm
  obtain ⟨hmem', u', hu', huser', hmobile'⟩ := h.memberAt_iff.mp hm'
  have hsame := Table.eq_of_key_eq h.memberIds hmem' hmem hid
  have huserids : u'.id = u.id := by rw [huser', hsame, huser]
  have huu := Table.eq_of_key_eq h.userIds hu' hu huserids
  apply hother
  rw [← hmobile', huu, hmobile]

theorem exists_profileAt (hp : p ∈ s.profiles) : ∃ mobile, s.profileAt mobile = some p := by
  obtain ⟨m, hm, hid⟩ := h.members p hp
  obtain ⟨u, hu, huser⟩ := h.users m hm
  refine ⟨u.mobile, ?_⟩
  have hat : s.memberAt u.mobile = some m := h.memberAt_iff.mpr ⟨hm, u, hu, huser, rfl⟩
  unfold Staff.profileAt
  rw [hat]
  exact h.profileOf_iff.mpr ⟨hp, hid.symm⟩

theorem profileAt_mem (hp : s.profileAt mobile = some p) :
    p ∈ s.profiles ∧ ∃ m, s.memberAt mobile = some m ∧ p.membership = m.id := by
  unfold Staff.profileAt at hp
  obtain ⟨m, hm, hp⟩ := Option.bind_eq_some_iff.mp hp
  rw [h.profileOf_iff] at hp
  exact ⟨hp.1, m, hm, hp.2⟩

theorem profileAt_inj (hp : s.profileAt mobile = some p) (hp' : s.profileAt other = some p) :
    other = mobile := by
  obtain ⟨-, m, hm, hid⟩ := h.profileAt_mem hp
  obtain ⟨-, m', hm', hid'⟩ := h.profileAt_mem hp'
  by_contra hother
  exact h.memberAt_ne hother hm hm' (hid'.symm.trans hid)

theorem numberAt_inj {number : String} (hp : s.numberAt mobile = some number)
    (hq : s.numberAt other = some number) : other = mobile := by
  unfold Staff.numberAt at hp hq
  obtain ⟨p, hp, hnumber⟩ := Option.bind_eq_some_iff.mp hp
  obtain ⟨q, hq, hnumber'⟩ := Option.bind_eq_some_iff.mp hq
  have hpmem := (h.profileAt_mem hp).1
  have hqmem := (h.profileAt_mem hq).1
  have hsome : p.employeeNumber ≠ none := by
    rw [hnumber]
    exact Option.some_ne_none number
  have hkey := h.numbers p hpmem q hqmem hsome (hnumber.trans hnumber'.symm)
  have heq := Table.eq_of_key_eq h.profileMembers hpmem hqmem hkey
  rw [← heq] at hq
  exact h.profileAt_inj hp hq

end Staff.Sound

theorem nodup_map_concat {α : Type} {f : α → ℕ} {l : List α} {a : α} (hl : (l.map f).Nodup)
    (ha : ∀ x ∈ l, f x < f a) : ((l ++ [a]).map f).Nodup := by
  rw [List.map_append, List.map_singleton, ← List.concat_eq_append, List.nodup_concat]
  refine ⟨fun hmem => ?_, hl⟩
  obtain ⟨x, hx, hkey⟩ := List.mem_map.mp hmem
  have hlt := ha x hx
  omega

theorem find?_concat_of_false {α : Type} {q : α → Bool} {l : List α} {a : α} (ha : q a = false) :
    (l ++ [a]).find? q = l.find? q := by
  rw [List.find?_append]
  simp [ha]

theorem Staff.Sound.createUser (h : s.Sound) (hnone : s.userByMobile mobile = none) {name : String}
    (hok : s.createUser mobile name = .ok (u, s')) :
    Staff.OnlyAt mobile s s' ∧ s'.userByMobile mobile = some u ∧ s'.membershipOf u.id = none := by
  unfold Staff.createUser at hok
  rw [Fallible.ite_error_eq_ok] at hok
  cases hok.2
  have hfresh : ∀ x ∈ s.users, x.mobile ≠ mobile := by
    intro x hx hmobile
    have hno := List.find?_eq_none.mp hnone x hx
    simp [hmobile] at hno
  refine ⟨⟨?_, fun other hother => ?_⟩, ?_, ?_⟩
  · refine { h with
      mobiles := ?_, userIds := nodup_map_concat h.userIds h.userIds_lt, userIds_lt := ?_,
      memberIds_lt := fun m hm => Nat.lt_succ_of_lt (h.memberIds_lt m hm), users := ?_ }
    · rw [List.map_append, List.map_singleton, ← List.concat_eq_append, List.nodup_concat]
      refine ⟨fun hmem => ?_, h.mobiles⟩
      obtain ⟨x, hx, hmobile⟩ := List.mem_map.mp hmem
      exact hfresh x hx hmobile
    · intro x hx
      rcases List.mem_append.mp hx with hx | hx
      · exact Nat.lt_succ_of_lt (h.userIds_lt x hx)
      · rw [List.mem_singleton.mp hx]
        exact Nat.lt_succ_self _
    · intro m hm
      obtain ⟨x, hx, huser⟩ := h.users m hm
      exact ⟨x, List.mem_append_left _ hx, huser⟩
  · have huser : Staff.userByMobile { s with
        users := s.users ++ [⟨s.nextId, mobile, name⟩], nextId := s.nextId + 1 } other =
        s.userByMobile other := find?_concat_of_false (by simp [hother.symm])
    apply Staff.SameAt.of_profileOf huser
    · unfold Staff.memberAt
      rw [huser]
      rfl
    · exact fun m _ => rfl
  · change (s.users ++ [_]).find? _ = _
    rw [List.find?_append, show s.users.find? (fun u => u.mobile = mobile) = none from hnone]
    simp
  · apply List.find?_eq_none.mpr
    intro m hm hmatch
    obtain ⟨x, hx, huser⟩ := h.users m hm
    have hlt := h.userIds_lt x hx
    simp only [decide_eq_true_eq] at hmatch
    omega

theorem Staff.Sound.createMembership (h : s.Sound) (hu : s.userByMobile mobile = some u)
    (hnone : s.membershipOf u.id = none) (status : MembershipStatus) :
    Staff.OnlyAt mobile s (s.createMembership u.id status).2 ∧
      (s.createMembership u.id status).2.Stands mobile u (s.createMembership u.id status).1 ∧
      s.profileOf (s.createMembership u.id status).1.id = none := by
  have huser := (h.userByMobile_iff.mp hu).1
  have hfresh : ∀ x ∈ s.memberships, x.user ≠ u.id := by
    intro x hx hid
    have hno := List.find?_eq_none.mp hnone x hx
    simp [hid] at hno
  refine ⟨⟨?_, fun other hother => ?_⟩, ⟨hu, ?_⟩, ?_⟩
  · refine { h with
      userIds_lt := fun x hx => Nat.lt_succ_of_lt (h.userIds_lt x hx),
      memberIds := nodup_map_concat h.memberIds h.memberIds_lt, memberIds_lt := ?_,
      memberUsers := ?_, users := ?_, members := ?_ }
    · intro x hx
      rcases List.mem_append.mp hx with hx | hx
      · exact Nat.lt_succ_of_lt (h.memberIds_lt x hx)
      · rw [List.mem_singleton.mp hx]
        exact Nat.lt_succ_self _
    · change ((s.memberships ++ [_]).map _).Nodup
      rw [List.map_append, List.map_singleton, ← List.concat_eq_append, List.nodup_concat]
      refine ⟨fun hmem => ?_, h.memberUsers⟩
      obtain ⟨x, hx, hid⟩ := List.mem_map.mp hmem
      exact hfresh x hx hid
    · intro x hx
      rcases List.mem_append.mp hx with hx | hx
      · exact h.users x hx
      · rw [List.mem_singleton.mp hx]
        exact ⟨u, huser, rfl⟩
    · intro p hp
      obtain ⟨x, hx, hid⟩ := h.members p hp
      exact ⟨x, List.mem_append_left _ hx, hid⟩
  · refine Staff.SameAt.of_profileOf ?_ ?_ fun m _ => ?_
    · rfl
    · unfold Staff.memberAt
      cases hu' : s.userByMobile other with
      | none =>
        have hsame : (s.createMembership u.id status).2.userByMobile other = none := hu'
        rw [hsame]
        rfl
      | some u' =>
        have hsame : (s.createMembership u.id status).2.userByMobile other = some u' := hu'
        rw [hsame]
        have hne := h.user_ne hother hu hu'
        exact find?_concat_of_false (by simp [hne.symm])
    · rfl
  · change (s.memberships ++ [_]).find? _ = _
    rw [List.find?_append,
      show s.memberships.find? (fun m => m.user = u.id) = none from hnone]
    simp [Staff.createMembership]
  · apply List.find?_eq_none.mpr
    intro p hp hmatch
    obtain ⟨x, hx, hid⟩ := h.members p hp
    have hlt := h.memberIds_lt x hx
    have hnext : p.membership = s.nextId := of_decide_eq_true hmatch
    omega

theorem Staff.Sound.giveRole (h : s.Sound) (hm : s.Stands mobile u m) (role : SchoolRole) :
    Staff.OnlyAt mobile s (s.giveRole m role).2 ∧
      (s.giveRole m role).2.Stands mobile u (s.giveRole m role).1 ∧
      (s.giveRole m role).1.id = m.id ∧ (s.giveRole m role).1.status = m.status ∧
      role ∈ (s.giveRole m role).1.roles ∧ (s.giveRole m role).2.profiles = s.profiles := by
  unfold Staff.giveRole
  by_cases hrole : role ∈ m.roles
  · rw [if_pos hrole]
    exact ⟨.refl h, hm, rfl, rfl, hrole, rfl⟩
  · rw [if_neg hrole]
    let m' : SchoolMembership := { m with roles := m.roles ++ [role] }
    have hfound := h.membershipOf_iff.mp hm.member
    have hmem : ∀ x, x ∈ (s.putMembership m').memberships ↔
        x = m' ∨ (x ∈ s.memberships ∧ x.id ≠ m'.id) := fun x =>
      Table.mem_put_iff (fun x : SchoolMembership => x.id) m' x ⟨m, hfound.1, rfl⟩
    have hids : ((s.putMembership m').memberships.map fun x => x.id) =
        s.memberships.map fun x => x.id := Table.map_put (fun x : SchoolMembership => x.id) _ _
    have husers : ((s.putMembership m').memberships.map fun x => x.user) =
        s.memberships.map fun x => x.user := by
      change (s.memberships.map _).map _ = _
      rw [List.map_map]
      apply List.map_congr_left
      intro x hx
      by_cases hid : x.id = m'.id
      · have heq := Table.eq_of_key_eq h.memberIds hx hfound.1 hid
        simp [heq, m']
      · simp [hid]
    have hsound : (s.putMembership m').Sound := by
      refine { h with
        memberIds := hids ▸ h.memberIds, memberIds_lt := ?_, memberUsers := husers ▸ h.memberUsers,
        users := ?_, members := ?_ }
      · intro x hx
        rcases (hmem x).mp hx with rfl | hx
        · exact h.memberIds_lt m hfound.1
        · exact h.memberIds_lt x hx.1
      · intro x hx
        rcases (hmem x).mp hx with rfl | hx
        · exact h.users m hfound.1
        · exact h.users x hx.1
      · intro p hp
        obtain ⟨x, hx, hid⟩ := h.members p hp
        by_cases hxid : x.id = m'.id
        · exact ⟨m', (hmem m').mpr (.inl rfl), hxid.symm.trans hid⟩
        · exact ⟨x, (hmem x).mpr (.inr ⟨hx, hxid⟩), hid⟩
    have hat : (s.putMembership m').Stands mobile u m' :=
      ⟨hm.user, hsound.membershipOf_iff.mpr ⟨(hmem m').mpr (.inl rfl), hfound.2⟩⟩
    refine ⟨⟨hsound, fun other hother => ?_⟩, hat, rfl, rfl, ?_, rfl⟩
    · refine Staff.SameAt.of_profileOf ?_ ?_ fun m _ => ?_
      · rfl
      · apply Option.ext
        intro x
        rw [hsound.memberAt_iff, h.memberAt_iff]
        constructor
        · rintro ⟨hx, hxu⟩
          rcases (hmem x).mp hx with rfl | hx
          · obtain ⟨u', hu', huser, hmobile⟩ := hxu
            have hu := h.userByMobile_iff.mp hm.user
            have hid : u'.id = u.id := huser.trans hfound.2
            have heq := Table.eq_of_key_eq h.userIds hu' hu.1 hid
            exact absurd (hmobile.symm.trans ((congrArg (fun x : User => x.mobile) heq).trans hu.2))
              hother
          · exact ⟨hx.1, hxu⟩
        · rintro ⟨hx, hxu⟩
          have hxat : s.memberAt other = some x := h.memberAt_iff.mpr ⟨hx, hxu⟩
          have hne : x.id ≠ m.id := h.memberAt_ne hother hm.memberAt hxat
          exact ⟨(hmem x).mpr (.inr ⟨hx, hne⟩), hxu⟩
      · rfl
    · exact List.mem_append_right _ List.mem_cons_self

def Staff.NumberFree (s : Staff) (mobile : String) (number : Option String) : Prop :=
  number ≠ none → ∀ other, other ≠ mobile → s.numberAt other ≠ number

theorem Staff.Sound.employeeNumberTaken_iff (h : s.Sound) (hm : s.memberAt mobile = some m)
    (hp : p.membership = m.id) :
    s.employeeNumberTaken p = false ↔ s.NumberFree mobile p.employeeNumber := by
  unfold Staff.employeeNumberTaken Staff.NumberFree
  simp only [decide_eq_false_iff_not, not_and, List.any_eq_true, not_exists, decide_eq_true_eq]
  constructor
  · intro hfree hsome other hother hnumber
    unfold Staff.numberAt at hnumber
    cases hq : s.profileAt other with
    | none =>
      rw [hq] at hnumber
      exact hsome hnumber.symm
    | some q =>
      rw [hq] at hnumber
      obtain ⟨hmem, m', hm', hid⟩ := h.profileAt_mem hq
      refine hfree hsome q hmem hnumber fun heq => ?_
      apply h.memberAt_ne hother hm hm'
      rw [← hid, heq, hp]
  · intro hfree hsome q hmem hnumber hne
    obtain ⟨other, hq⟩ := h.exists_profileAt hmem
    have hat : s.numberAt other = p.employeeNumber := by
      unfold Staff.numberAt
      rw [hq]
      exact hnumber
    refine hfree hsome other (fun heq => hne ?_) hat
    obtain ⟨-, m', hm', hid⟩ := h.profileAt_mem hq
    rw [heq, hm] at hm'
    rw [hid, hp, Option.some.inj hm']

theorem Staff.Sound.saveProfile_iff (h : s.Sound) (hm : s.memberAt mobile = some m)
    (hp : p.membership = m.id) :
    (∃ s', s.saveProfile p = .ok s') ↔ p.Fits ∧ s.NumberFree mobile p.employeeNumber := by
  rw [← h.employeeNumberTaken_iff hm hp]
  unfold Staff.saveProfile
  by_cases hfits : p.Fits
  · rw [if_neg (not_not.mpr hfits)]
    cases htaken : s.employeeNumberTaken p with
    | false => simp [hfits]
    | true => simp
  · simp [hfits]

theorem Staff.Sound.saveProfile (h : s.Sound) (hm : s.Stands mobile u m)
    (hp : p.membership = m.id) (hok : s.saveProfile p = .ok s') :
    Staff.OnlyAt mobile s s' ∧ s'.Stands mobile u m ∧ s'.profileOf m.id = some p := by
  obtain ⟨hfits, hfree⟩ := (h.saveProfile_iff hm.memberAt hp).mp ⟨s', hok⟩
  have htaken := (h.employeeNumberTaken_iff hm.memberAt hp).mpr hfree
  unfold Staff.saveProfile at hok
  rw [Fallible.ite_error_eq_ok, Fallible.ite_error_eq_ok] at hok
  cases hok.2.2
  have hmem : ∀ q, q ∈ s.profiles.filter (fun q => q.membership ≠ p.membership) ++ [p] ↔
      q = p ∨ (q ∈ s.profiles ∧ q.membership ≠ m.id) := by
    intro q
    rw [List.mem_append, List.mem_filter, List.mem_singleton, decide_eq_true_eq, hp]
    exact or_comm
  have hother : ∀ q ∈ s.profiles, q.membership ≠ m.id → p.employeeNumber ≠ none →
      q.employeeNumber ≠ p.employeeNumber := by
    intro q hq hne hsome hnumber
    have hno := htaken
    unfold Staff.employeeNumberTaken at hno
    simp only [decide_eq_false_iff_not, not_and, List.any_eq_true, not_exists,
      decide_eq_true_eq] at hno
    exact hno hsome q hq hnumber (by rwa [hp])
  have hsound : Staff.Sound { s with
      profiles := s.profiles.filter (fun q => q.membership ≠ p.membership) ++ [p] } := by
    refine { h with profileMembers := ?_, members := ?_, numbers := ?_, fits := ?_ }
    · rw [List.map_append, List.map_singleton, ← List.concat_eq_append, List.nodup_concat]
      refine ⟨fun hkey => ?_, h.profileMembers.sublist (List.filter_sublist.map _)⟩
      obtain ⟨q, hq, hkey⟩ := List.mem_map.mp hkey
      exact of_decide_eq_true (List.mem_filter.mp hq).2 hkey
    · intro q hq
      rcases (hmem q).mp hq with rfl | ⟨hq, -⟩
      · exact ⟨m, (h.membershipOf_iff.mp hm.member).1, hp.symm⟩
      · exact h.members q hq
    · intro q hq r hr hsome hnumber
      rcases (hmem q).mp hq with hqp | ⟨hold, hqne⟩ <;>
        rcases (hmem r).mp hr with hrp | ⟨hold', hrne⟩
      · rw [hqp, hrp]
      · rw [hqp] at hsome hnumber
        exact absurd hnumber.symm (hother r hold' hrne hsome)
      · rw [hrp] at hnumber
        exact absurd hnumber (hother q hold hqne (hnumber ▸ hsome))
      · exact h.numbers q hold r hold' hsome hnumber
    · intro q hq
      rcases (hmem q).mp hq with rfl | ⟨hq, -⟩
      · exact hfits
      · exact h.fits q hq
  refine ⟨⟨hsound, fun other hne => ?_⟩, ⟨hm.user, hm.member⟩, ?_⟩
  · refine Staff.SameAt.of_profileOf ?_ ?_ fun m' hm' => ?_
    · rfl
    · rfl
    · have hids := h.memberAt_ne hne hm.memberAt hm'
      apply Option.ext
      intro q
      rw [hsound.profileOf_iff, h.profileOf_iff, hmem]
      constructor
      · rintro ⟨rfl | hq, hkey⟩
        · exact absurd (hkey.symm.trans hp) hids
        · exact ⟨hq.1, hkey⟩
      · rintro ⟨hq, hkey⟩
        exact ⟨.inr ⟨hq, hkey ▸ hids⟩, hkey⟩
  · exact hsound.profileOf_iff.mpr ⟨(hmem p).mpr (.inl rfl), hp⟩

end SchoolPlatform
