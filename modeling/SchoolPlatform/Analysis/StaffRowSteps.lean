import SchoolPlatform.Analysis.StaffStandings

/-!
# One row of a staff import

A row that is applied gives the person of its mobile number an account, a membership, the role of a
teacher and a profile. Two things can stop it: a text that does not fit its column, and an employee
number that another member has.
-/

namespace SchoolPlatform

def StaffRow.Applies (row : StaffRow) : Prop :=
  row.status = some .new ∨ row.status = some .existingUserInvite ∨
    row.status = some .addTeacherRole ∨ row.status = some .profileUpdate

instance instDecidableStaffRowApplies (row : StaffRow) : Decidable row.Applies :=
  inferInstanceAs (Decidable (_ ∨ _ ∨ _ ∨ _))

def StaffRow.ProfileFits (row : StaffRow) : Prop :=
  row.fullName.length ≤ 200 ∧ (row.employeeNumber.getD "").length ≤ 30 ∧ row.jobTitle.length ≤ 100

instance instDecidableStaffRowProfileFits (row : StaffRow) : Decidable row.ProfileFits :=
  inferInstanceAs (Decidable (_ ∧ _ ∧ _))

/-- The texts of a row fit; a name that becomes that of a user has less room. -/
def StaffRow.Fits (row : StaffRow) : Prop :=
  row.ProfileFits ∧ (row.status = some .new → row.fullName.length ≤ 150)

instance instDecidableStaffRowFits (row : StaffRow) : Decidable row.Fits :=
  inferInstanceAs (Decidable (_ ∧ _))

def StaffRow.grants (row : StaffRow) : MembershipStatus :=
  if row.status = some .existingUserInvite then .invited else .active

def Staff.Carries (s : Staff) (row : StaffRow) : Prop :=
  ∃ u m p, s.Stands row.mobile u m ∧ s.profileOf m.id = some p ∧ m.status = row.grants ∧
    .teacher ∈ m.roles ∧ profileChanged p row = false

variable {s s' : Staff} {mobile : String} {u : User} {m : SchoolMembership} {p : StaffProfile}
  {row : StaffRow} {counts : StaffCounts} {r : StaffCounts × Staff}

theorem Staff.Stands.of_sameAt (hm : s.Stands mobile u m) (hsame : s.SameAt s' mobile) :
    s'.Stands mobile u m := by
  have huser : s'.userByMobile mobile = some u := hsame.user.trans hm.user
  have hmember := hsame.member.trans hm.memberAt
  unfold Staff.memberAt at hmember
  rw [huser] at hmember
  exact ⟨huser, hmember⟩

theorem Staff.Carries.of_sameAt (h : s.Carries row) (hsame : s.SameAt s' row.mobile) :
    s'.Carries row := by
  obtain ⟨u, m, p, hm, hp, hrest⟩ := h
  have hm' := hm.of_sameAt hsame
  refine ⟨u, m, p, hm', ?_, hrest⟩
  rw [← hm'.profileAt, hsame.profile, hm.profileAt]
  exact hp

theorem Staff.OnlyAt.numberFree_iff (h : Staff.OnlyAt mobile s s') (number : Option String) :
    s'.NumberFree mobile number ↔ s.NumberFree mobile number := by
  unfold Staff.NumberFree
  constructor <;> intro hfree hsome other hother
  · rw [← (h.same other hother).number]
    exact hfree hsome other hother
  · rw [(h.same other hother).number]
    exact hfree hsome other hother

theorem Staff.Stands.numberAt (hm : s.Stands mobile u m) :
    s.numberAt mobile = (s.profileOf m.id).bind fun p => p.employeeNumber := by
  unfold Staff.numberAt
  rw [hm.profileAt]

theorem Staff.Sound.numberFree_self (h : s.Sound) : s.NumberFree mobile (s.numberAt mobile) := by
  intro hsome other hother hnumber
  cases hat : s.numberAt mobile with
  | none => exact hsome hat
  | some number =>
    rw [hat] at hnumber
    exact hother (h.numberAt_inj hat hnumber)

theorem StaffProfile.updated_number (hrow : row.employeeNumber ≠ some "") :
    (p.updated row).employeeNumber = row.employeeNumber.or p.employeeNumber := by
  unfold StaffProfile.updated
  cases hnumber : row.employeeNumber with
  | none => simp
  | some number =>
    have hne : number ≠ "" := by
      intro hempty
      exact hrow (by rw [hnumber, hempty])
    simp [hne]

theorem StaffProfile.updated_fits (h : p.Fits) (hrow : row.employeeNumber ≠ some "") :
    (p.updated row).Fits ↔ row.ProfileFits := by
  obtain ⟨-, hnumber, hjob⟩ := h
  have hnew := StaffProfile.updated_number (p := p) hrow
  unfold StaffProfile.Fits StaffRow.ProfileFits
  rw [hnew]
  have hname : (p.updated row).displayName = row.fullName := rfl
  have htitle : (p.updated row).jobTitle = if row.jobTitle ≠ "" then row.jobTitle else p.jobTitle :=
    rfl
  rw [hname, htitle]
  cases hn : row.employeeNumber with
  | none => by_cases hj : row.jobTitle = "" <;> simp [hj, hnumber, hjob]
  | some number => by_cases hj : row.jobTitle = "" <;> simp [hj, hjob]

theorem profileChanged_updated : profileChanged (p.updated row) row = false := by
  unfold profileChanged StaffProfile.updated
  by_cases hn : row.employeeNumber.getD "" = "" <;> by_cases hj : row.jobTitle = "" <;>
    simp [hn, hj]

theorem profileChanged_eq_false :
    profileChanged p row = false ↔ p.displayName = row.fullName ∧
      (row.employeeNumber.getD "" ≠ "" → p.employeeNumber = row.employeeNumber) ∧
      (row.jobTitle ≠ "" → p.jobTitle = row.jobTitle) := by
  unfold profileChanged
  simp only [decide_eq_false_iff_not]
  tauto

theorem getD_ne_empty (hrow : row.employeeNumber ≠ some "") :
    row.employeeNumber.getD "" ≠ "" ↔ row.employeeNumber ≠ none := by
  cases hn : row.employeeNumber with
  | none => simp
  | some number =>
    rw [hn] at hrow
    simpa using hrow

theorem Staff.Sound.saveProfile_succeeds (h : s.Sound) (hm : s.Stands mobile u m)
    (hp : p.membership = m.id) :
    Fallible.Succeeds (s.saveProfile p) (p.Fits ∧ s.NumberFree mobile p.employeeNumber) fun t =>
      Staff.OnlyAt mobile s t ∧ t.Stands mobile u m ∧ t.profileOf m.id = some p where
  possible := (h.saveProfile_iff hm.memberAt hp).mpr
  result := fun t ht => ⟨(h.saveProfile_iff hm.memberAt hp).mp ⟨t, ht⟩, h.saveProfile hm hp ht⟩

theorem StaffProfile.Fits.of_unchanged (h : p.Fits) (hrow : row.employeeNumber ≠ some "")
    (hkept : profileChanged p row = false) : row.ProfileFits := by
  obtain ⟨hname, hnumber, hjob⟩ := profileChanged_eq_false.mp hkept
  rw [getD_ne_empty hrow] at hnumber
  obtain ⟨hfitName, hfitNumber, hfitJob⟩ := h
  refine ⟨hname ▸ hfitName, ?_, ?_⟩
  · cases hn : row.employeeNumber with
    | none => simp
    | some number =>
      rw [hnumber (by simp [hn]), hn] at hfitNumber
      exact hfitNumber
  · by_cases hj : row.jobTitle = ""
    · simp [hj]
    · exact hjob hj ▸ hfitJob

/-- **When a member can get the profile of a row, and what it does.** -/
theorem ensureProfile_succeeds (h : s.Sound) (hm : s.Stands mobile u m)
    (hrow : row.employeeNumber ≠ some "") (counts : StaffCounts) :
    Fallible.Succeeds (ensureProfile m.id row counts s)
      (row.ProfileFits ∧ s.NumberFree mobile row.employeeNumber) fun r =>
        Staff.OnlyAt mobile s r.2 ∧ r.2.Stands mobile u m ∧
          ∃ p, r.2.profileOf m.id = some p ∧ profileChanged p row = false ∧
            p.employeeNumber = row.employeeNumber.or (s.numberAt mobile) := by
  unfold ensureProfile
  have hself : s.NumberFree mobile (s.numberAt mobile) := h.numberFree_self
  rw [hm.numberAt] at hself ⊢
  cases hfound : s.profileOf m.id with
  | none =>
    refine (h.saveProfile_succeeds hm rfl).map _ fun t ht => ?_
    exact ⟨ht.1, ht.2.1, _, ht.2.2, by simp [profileChanged], by simp⟩
  | some p =>
    obtain ⟨hp, hid⟩ := h.profileOf_iff.mp hfound
    rw [hfound, Option.bind_some] at hself
    dsimp only
    by_cases hchanged : profileChanged p row = true
    · rw [if_pos hchanged]
      have hnumber : s.NumberFree mobile (p.updated row).employeeNumber ↔
          s.NumberFree mobile row.employeeNumber := by
        rw [StaffProfile.updated_number hrow]
        cases hn : row.employeeNumber with
        | none => exact ⟨fun _ hsome => absurd rfl hsome, fun _ => hself⟩
        | some number => exact Iff.rfl
      have hsave := (h.saveProfile_succeeds hm (p := p.updated row) hid).congr
        (and_congr (StaffProfile.updated_fits (h.fits p hp) hrow) hnumber)
      refine hsave.map _ fun t ht => ?_
      exact ⟨ht.1, ht.2.1, p.updated row, ht.2.2, profileChanged_updated,
        StaffProfile.updated_number hrow⟩
    · rw [if_neg hchanged]
      rw [Bool.not_eq_true] at hchanged
      obtain ⟨-, hnumber, -⟩ := profileChanged_eq_false.mp hchanged
      rw [getD_ne_empty hrow] at hnumber
      refine .ok ⟨(h.fits p hp).of_unchanged hrow hchanged, fun hsome => ?_⟩
        ⟨.refl h, hm, p, hfound, hchanged, ?_⟩
      · rw [hnumber hsome] at hself
        exact hself hsome
      · cases hn : row.employeeNumber with
        | none => simp
        | some number => simp [hnumber, hn]

def Staff.Applied (s : Staff) (row : StaffRow) (t : Staff) : Prop :=
  Staff.OnlyAt row.mobile s t ∧ t.Carries row ∧
    t.numberAt row.mobile = row.employeeNumber.or (s.numberAt row.mobile)

theorem teach_succeeds (h : s.Sound) (hm : s.Stands row.mobile u m)
    (hrow : row.employeeNumber ≠ some "") (hstatus : m.status = row.grants)
    (counts : StaffCounts) :
    Fallible.Succeeds
      (ensureProfile (s.giveRole m .teacher).1.id row counts (s.giveRole m .teacher).2)
      (row.ProfileFits ∧ s.NumberFree row.mobile row.employeeNumber) fun r =>
        s.Applied row r.2 := by
  obtain ⟨honly, hm', hid, hsame, hteacher, hprofiles⟩ := h.giveRole hm .teacher
  obtain ⟨hpossible, hresult⟩ := ensureProfile_succeeds honly.sound hm' hrow counts
  rw [honly.numberFree_iff] at hpossible hresult
  refine ⟨hpossible, fun r hr => ?_⟩
  obtain ⟨hfits, honly', hm'', p, hp, hkept, hnumber⟩ := hresult r hr
  refine ⟨hfits, honly.trans honly', ⟨u, _, p, hm'', hp, hsame.trans hstatus, hteacher, hkept⟩, ?_⟩
  rw [hm''.numberAt, hp]
  change p.employeeNumber = _
  rw [hnumber, hm'.numberAt, hm.numberAt, hid]
  unfold Staff.profileOf
  rw [hprofiles]

theorem join_succeeds (h : s.Sound) (hu : s.userByMobile row.mobile = some u)
    (hnone : s.membershipOf u.id = none) (hrow : row.employeeNumber ≠ some "")
    {status : MembershipStatus} (hstatus : status = row.grants) (counts : StaffCounts) :
    Fallible.Succeeds
      (ensureProfile ((s.createMembership u.id status).2.giveRole
          (s.createMembership u.id status).1 .teacher).1.id row counts
        ((s.createMembership u.id status).2.giveRole
          (s.createMembership u.id status).1 .teacher).2)
      (row.ProfileFits ∧ s.NumberFree row.mobile row.employeeNumber) fun r =>
        s.Applied row r.2 := by
  obtain ⟨honly, hstands, hprofile⟩ := h.createMembership hu hnone status
  obtain ⟨hpossible, hresult⟩ := teach_succeeds honly.sound hstands hrow hstatus counts
  rw [honly.numberFree_iff] at hpossible hresult
  refine ⟨hpossible, fun r hr => ?_⟩
  obtain ⟨hfits, honly', hcarries, hnumber⟩ := hresult r hr
  refine ⟨hfits, honly.trans honly', hcarries, ?_⟩
  have hbefore : s.numberAt row.mobile = none := by
    simp [Staff.numberAt, Staff.profileAt, Staff.memberAt, hu, hnone]
  have hafter : Staff.numberAt (s.createMembership u.id status).2 row.mobile = none := by
    rw [hstands.numberAt]
    have hsame : (s.createMembership u.id status).2.profileOf
        (s.createMembership u.id status).1.id = none := hprofile
    rw [hsame]
    rfl
  rw [hnumber, hafter, hbefore]

theorem categorizeStaffRow_eq (s : Staff) (row : StaffRow) :
    ∃ status membershipId, categorizeStaffRow s row =
      { row with status := status, membershipId := membershipId } := by
  unfold categorizeStaffRow
  dsimp only
  repeat' split
  all_goals exact ⟨_, _, rfl⟩

@[simp] theorem categorizeStaffRow_mobile (s : Staff) (row : StaffRow) :
    (categorizeStaffRow s row).mobile = row.mobile := by
  obtain ⟨status, membershipId, heq⟩ := categorizeStaffRow_eq s row
  rw [heq]

@[simp] theorem categorizeStaffRow_employeeNumber (s : Staff) (row : StaffRow) :
    (categorizeStaffRow s row).employeeNumber = row.employeeNumber := by
  obtain ⟨status, membershipId, heq⟩ := categorizeStaffRow_eq s row
  rw [heq]

theorem categorizeStaffRow_congr (h : s.SameAt s' row.mobile) :
    categorizeStaffRow s' row = categorizeStaffRow s row := by
  unfold categorizeStaffRow
  rw [h.user]
  cases hu : s.userByMobile row.mobile with
  | none => rfl
  | some user =>
    have hmember : s'.membershipOf user.id = s.membershipOf user.id := by
      have hat := h.member
      unfold Staff.memberAt at hat
      rw [h.user, hu] at hat
      exact hat
    dsimp only
    rw [hmember]
    cases hm : s.membershipOf user.id with
    | none => rfl
    | some m =>
      have hprofile : s'.profileOf m.id = s.profileOf m.id := by
        have hstands : s.Stands row.mobile user m := ⟨hu, hm⟩
        rw [← (hstands.of_sameAt h).profileAt, h.profile, hstands.profileAt]
      dsimp only
      rw [hprofile]

theorem categorizeStaffRow_idem (s : Staff) (row : StaffRow) :
    categorizeStaffRow s (categorizeStaffRow s row) = categorizeStaffRow s row := by
  by_cases hdup : StaffRowError.duplicateMobileInFile ∈ row.errors
  · simp [categorizeStaffRow, hdup]
  · by_cases herr : row.errors = []
    · cases hu : s.userByMobile row.mobile with
      | none => simp [categorizeStaffRow, herr, hu]
      | some user =>
        cases hm : s.membershipOf user.id with
        | none => simp [categorizeStaffRow, herr, hu, hm]
        | some m =>
          by_cases hinvited : m.status = .invited
          · simp [categorizeStaffRow, herr, hu, hm, hinvited]
          · by_cases hactive : m.status = .active
            · by_cases hteacher : SchoolRole.teacher ∈ m.roles
              · cases hall : (s.profileOf m.id).all (fun p => profileChanged p row)
                all_goals
                  simp only [profileChanged] at hall
                  simp [categorizeStaffRow, herr, hu, hm, hactive, hteacher, profileChanged]
                    at hall ⊢
                  simp [hu, hm, hactive, hteacher, hall]
              · simp [categorizeStaffRow, herr, hu, hm, hactive, hteacher]
            · simp [categorizeStaffRow, herr, hu, hm, hinvited, hactive]
    · simp [categorizeStaffRow, hdup, herr]

theorem row_cases (hrow : categorizeStaffRow s row = row) :
    (row.status = some .new ∧ s.userByMobile row.mobile = none) ∨
    (row.status = some .existingUserInvite ∧
      ∃ u, s.userByMobile row.mobile = some u ∧ s.membershipOf u.id = none) ∨
    ((row.status = some .addTeacherRole ∨ row.status = some .profileUpdate) ∧
      ∃ u m, s.Stands row.mobile u m ∧ m.status = .active ∧ row.membershipId = some m.id) ∨
    ¬ row.Applies := by
  have hstatus := congrArg (fun x : StaffRow => x.status) hrow
  have hmember := congrArg (fun x : StaffRow => x.membershipId) hrow
  unfold categorizeStaffRow at hstatus hmember
  by_cases hdup : StaffRowError.duplicateMobileInFile ∈ row.errors
  · simp only [if_pos hdup] at hstatus
    simp [StaffRow.Applies, ← hstatus]
  · by_cases herr : row.errors = []
    · simp only [herr, List.not_mem_nil, if_false, ne_eq, not_true_eq_false] at hstatus hmember
      cases hu : s.userByMobile row.mobile with
      | none =>
        simp only [hu] at hstatus
        exact .inl ⟨hstatus.symm, rfl⟩
      | some user =>
        cases hm : s.membershipOf user.id with
        | none =>
          simp only [hu, hm] at hstatus
          exact .inr (.inl ⟨hstatus.symm, user, rfl, hm⟩)
        | some m =>
          simp only [hu, hm] at hstatus hmember
          by_cases hinvited : m.status = .invited
          · simp only [if_pos hinvited] at hstatus
            simp [StaffRow.Applies, ← hstatus]
          · by_cases hactive : m.status = .active
            · simp only [if_neg hinvited, not_not.mpr hactive, if_false] at hstatus hmember
              by_cases hteacher : SchoolRole.teacher ∈ m.roles
              · simp only [not_not.mpr hteacher, if_false] at hstatus hmember
                have hid : row.membershipId = some m.id := by
                  rw [← hmember]
                  split <;> rfl
                split at hstatus
                · exact .inr (.inr (.inl ⟨.inr hstatus.symm, user, m, ⟨hu, hm⟩, hactive, hid⟩))
                · simp [StaffRow.Applies, ← hstatus]
              · simp only [if_pos hteacher] at hstatus hmember
                exact .inr (.inr (.inl ⟨.inl hstatus.symm, user, m, ⟨hu, hm⟩, hactive,
                  hmember.symm⟩))
            · simp only [if_neg hinvited, if_pos hactive] at hstatus
              simp [StaffRow.Applies, ← hstatus]
    · simp only [if_neg hdup, if_pos herr] at hstatus
      simp [StaffRow.Applies, ← hstatus]

theorem Staff.Sound.createUser_succeeds (h : s.Sound) (hnone : s.userByMobile mobile = none)
    {name : String} :
    Fallible.Succeeds (s.createUser mobile name) (name.length ≤ 150) fun x =>
      Staff.OnlyAt mobile s x.2 ∧ x.2.userByMobile mobile = some x.1 ∧
        x.2.membershipOf x.1.id = none where
  possible := by
    intro hle
    unfold Staff.createUser
    rw [if_neg (by omega)]
    exact ⟨_, rfl⟩
  result := by
    rintro ⟨x, t⟩ hx
    refine ⟨?_, h.createUser hnone hx⟩
    unfold Staff.createUser at hx
    rw [Fallible.ite_error_eq_ok] at hx
    omega

theorem applyNew_succeeds (h : s.Sound) (hnone : s.userByMobile row.mobile = none)
    (hrow : row.employeeNumber ≠ some "") (hstatus : row.status = some .new)
    (counts : StaffCounts) :
    Fallible.Succeeds (applyNew row counts s)
      (row.fullName.length ≤ 150 ∧ row.ProfileFits ∧
        s.NumberFree row.mobile row.employeeNumber) fun r => s.Applied row r.2 := by
  have hfree : ¬ ((s.userByMobile row.mobile).isSome = true) := by simp [hnone]
  have hgrants : MembershipStatus.active = row.grants := by
    unfold StaffRow.grants
    rw [hstatus, if_neg (by decide)]
  unfold applyNew
  rw [if_neg hfree]
  refine (h.createUser_succeeds hnone).bind fun x _ hx => ?_
  obtain ⟨honly, huser, hmember⟩ := hx
  have hjoin := join_succeeds honly.sound huser hmember hrow hgrants counts
  rw [honly.numberFree_iff] at hjoin
  refine hjoin.map _ fun y hy => ?_
  obtain ⟨honly', hcarries, hnumber⟩ := hy
  refine ⟨honly.trans honly', hcarries, hnumber.trans ?_⟩
  simp [Staff.numberAt, Staff.profileAt, Staff.memberAt, hnone, huser, hmember]

theorem applyInvite_succeeds (h : s.Sound) (hu : s.userByMobile row.mobile = some u)
    (hnone : s.membershipOf u.id = none) (hrow : row.employeeNumber ≠ some "")
    (hstatus : row.status = some .existingUserInvite) :
    Fallible.Succeeds (applyInvite row counts s)
      (row.ProfileFits ∧ s.NumberFree row.mobile row.employeeNumber) fun r =>
        s.Applied row r.2 := by
  have hgrants : MembershipStatus.invited = row.grants := by
    unfold StaffRow.grants
    rw [if_pos hstatus]
  unfold applyInvite
  simp only [hu, hnone]
  exact join_succeeds h hu hnone hrow hgrants _

/-- **When a row can be applied**: its texts fit, and nobody else has its employee number; and what
it does: it is carried out for its own mobile number, and nothing else changes. -/
theorem applyStaffRow_succeeds (h : s.Sound) (hrow : categorizeStaffRow s row = row)
    (hnumber : row.employeeNumber ≠ some "") :
    Fallible.Succeeds (applyStaffRow row counts s)
      (row.Applies → row.Fits ∧ s.NumberFree row.mobile row.employeeNumber) fun r =>
        (row.Applies ∧ s.Applied row r.2) ∨ (¬ row.Applies ∧ r.2 = s) := by
  unfold applyStaffRow StaffRow.Fits
  rcases row_cases hrow with ⟨hstatus, hu⟩ | ⟨hstatus, u, hu, hm⟩ |
    ⟨hstatus, u, m, hm, hactive, hid⟩ | hno
  · have happlies : row.Applies := .inl hstatus
    rw [if_pos hstatus]
    have hnew := applyNew_succeeds h hu hnumber hstatus counts
    simp only [happlies, hstatus, true_imp_iff, true_and, not_true, false_and, or_false]
    exact hnew.congr (by tauto)
  · have happlies : row.Applies := .inr (.inl hstatus)
    have hnew : ¬ row.status = some .new := by simp [hstatus]
    rw [if_neg hnew, if_pos hstatus]
    simp only [happlies, hnew, true_imp_iff, false_imp_iff, and_true, true_and, not_true,
      false_and, or_false]
    exact applyInvite_succeeds h hu hm hnumber hstatus
  · have happlies : row.Applies := .inr (.inr hstatus)
    have hnew : ¬ row.status = some .new := by
      rcases hstatus with hstatus | hstatus <;> simp [hstatus]
    have hinvite : ¬ row.status = some .existingUserInvite := by
      rcases hstatus with hstatus | hstatus <;> simp [hstatus]
    have hmem := (h.membershipOf_iff.mp hm.member).1
    have hfound : row.membershipId.bind s.membership? = some m := by
      rw [hid]
      exact h.membership?_iff.mpr ⟨hmem, rfl⟩
    have hgrants : m.status = row.grants := by
      unfold StaffRow.grants
      rw [if_neg hinvite, hactive]
    rw [if_neg hnew, if_neg hinvite, if_pos hstatus]
    unfold applyExistingMember
    simp only [hfound, happlies, hnew, true_imp_iff, false_imp_iff, and_true, true_and, not_true,
      false_and, or_false]
    exact teach_succeeds h hm hnumber hgrants _
  · have hnew : ¬ row.status = some .new := fun hs => hno (.inl hs)
    have hinvite : ¬ row.status = some .existingUserInvite := fun hs => hno (.inr (.inl hs))
    have hmember : ¬ (row.status = some .addTeacherRole ∨ row.status = some .profileUpdate) :=
      fun hs => hno (.inr (.inr hs))
    rw [if_neg hnew, if_neg hinvite, if_neg hmember]
    exact .ok (fun happlies => absurd happlies hno) (.inr ⟨hno, rfl⟩)

end SchoolPlatform
