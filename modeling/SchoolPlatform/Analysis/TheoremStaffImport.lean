import SchoolPlatform.Analysis.StaffRowSteps

/-!
# A clean preview of a staff import

The preview matches the rows of a file with the staff by mobile numbers alone. Where it shows no row
with an error, and the data is still the same and the plan has room, the commit applies the whole
file exactly when the texts fit their columns and no row brings an employee number that somebody
else has by then: the preview does not look at either.
-/

namespace SchoolPlatform

/-! ## Employee numbers -/

def numberGiver (earlier : List StaffRow) (mobile : String) : Option StaffRow :=
  earlier.find? fun x => x.Applies ∧ x.mobile = mobile ∧ x.employeeNumber ≠ none

def Staff.numberAfter (s : Staff) (earlier : List StaffRow) (mobile : String) : Option String :=
  ((numberGiver earlier mobile).bind fun x => x.employeeNumber).or (s.numberAt mobile)

/-- The employee number of a row is not given by an earlier row either, and whoever has it is the
person of the row or has been given another one by an earlier row. -/
def Staff.Unclaimed (s : Staff) (earlier : List StaffRow) (row : StaffRow) : Prop :=
  row.employeeNumber ≠ none →
    (∀ x ∈ earlier, x.Applies → x.employeeNumber ≠ row.employeeNumber) ∧
    ∀ p ∈ s.profiles, p.employeeNumber = row.employeeNumber →
      s.profileAt row.mobile = some p ∨
        ∃ x ∈ earlier, x.Applies ∧ x.employeeNumber ≠ none ∧ s.profileAt x.mobile = some p

instance instDecidableStaffUnclaimed (s : Staff) (earlier : List StaffRow) (row : StaffRow) :
    Decidable (s.Unclaimed earlier row) := by
  unfold Staff.Unclaimed
  infer_instance

/-- The texts of the rows that are applied fit, and their employee numbers are unclaimed. -/
def Staff.Committable (s : Staff) (earlier : List StaffRow) : List StaffRow → Prop
  | [] => True
  | row :: rows => (row.Applies → row.Fits ∧ s.Unclaimed earlier row) ∧
      s.Committable (earlier ++ [row]) rows

variable {s s' t : Staff} {row x : StaffRow} {others earlier : List StaffRow} {mobile : String}

theorem numberGiver_eq_some (h : numberGiver earlier mobile = some x) :
    x ∈ earlier ∧ x.Applies ∧ x.mobile = mobile ∧ x.employeeNumber ≠ none := by
  unfold numberGiver at h
  have hgives := List.find?_some h
  exact ⟨List.mem_of_find?_eq_some h, of_decide_eq_true hgives⟩

theorem numberGiver_eq_none : numberGiver earlier mobile = none ↔
    ∀ x ∈ earlier, x.Applies → x.mobile = mobile → x.employeeNumber = none := by
  unfold numberGiver
  rw [List.find?_eq_none]
  simp

theorem numberGiver_eq_self (hmobiles : (earlier.map fun x => x.mobile).Nodup) (hx : x ∈ earlier)
    (happlies : x.Applies) (hsome : x.employeeNumber ≠ none) :
    numberGiver earlier x.mobile = some x := by
  cases hgiver : numberGiver earlier x.mobile with
  | none => exact absurd (numberGiver_eq_none.mp hgiver x hx happlies rfl) hsome
  | some y =>
    obtain ⟨hy, -, hmobile, -⟩ := numberGiver_eq_some hgiver
    rw [Table.eq_of_key_eq hmobiles hy hx hmobile]

theorem Staff.numberAfter_of_giver (h : numberGiver earlier mobile = some x) :
    s.numberAfter earlier mobile = x.employeeNumber := by
  obtain ⟨-, -, -, hsome⟩ := numberGiver_eq_some h
  obtain ⟨number, hnumber⟩ := Option.ne_none_iff_exists'.mp hsome
  unfold Staff.numberAfter
  rw [h, Option.bind_some, hnumber, Option.some_or]

theorem Staff.numberAfter_of_none (h : numberGiver earlier mobile = none) :
    s.numberAfter earlier mobile = s.numberAt mobile := by
  unfold Staff.numberAfter
  rw [h, Option.bind_none, Option.none_or]

theorem Staff.numberAfter_concat (hfresh : ∀ x ∈ earlier, x.mobile ≠ row.mobile) :
    s.numberAfter (earlier ++ [row]) mobile =
      if row.Applies ∧ row.mobile = mobile then row.employeeNumber.or (s.numberAt mobile)
      else s.numberAfter earlier mobile := by
  unfold Staff.numberAfter numberGiver
  rw [List.find?_append]
  by_cases hrow : row.Applies ∧ row.mobile = mobile
  · have hnone : numberGiver earlier mobile = none := numberGiver_eq_none.mpr fun x hx _ hmobile =>
      absurd (hmobile.trans hrow.2.symm) (hfresh x hx)
    unfold numberGiver at hnone
    rw [if_pos hrow, hnone]
    cases hn : row.employeeNumber <;> simp [hrow.1, hrow.2, hn]
  · have hnone : numberGiver [row] mobile = none := by
      apply numberGiver_eq_none.mpr
      intro x hx happlies hmobile
      rw [List.mem_singleton.mp hx] at happlies hmobile
      exact absurd ⟨happlies, hmobile⟩ hrow
    unfold numberGiver at hnone
    rw [if_neg hrow, hnone, Option.or_none]

theorem Staff.Sound.unclaimed_iff (h : s.Sound) (hmobiles : (earlier.map fun x => x.mobile).Nodup)
    (hfresh : ∀ x ∈ earlier, x.mobile ≠ row.mobile) :
    s.Unclaimed earlier row ↔ (row.employeeNumber ≠ none →
      ∀ other, other ≠ row.mobile → s.numberAfter earlier other ≠ row.employeeNumber) := by
  constructor
  · intro hfree hsome other hother hnumber
    obtain ⟨hgiven, hheld⟩ := hfree hsome
    cases hgiver : numberGiver earlier other with
    | some x =>
      obtain ⟨hx, happlies, -, -⟩ := numberGiver_eq_some hgiver
      rw [Staff.numberAfter_of_giver hgiver] at hnumber
      exact hgiven x hx happlies hnumber
    | none =>
      rw [Staff.numberAfter_of_none hgiver] at hnumber
      unfold Staff.numberAt at hnumber
      obtain ⟨number, hrownumber⟩ := Option.ne_none_iff_exists'.mp hsome
      rw [hrownumber] at hnumber
      obtain ⟨p, hp, hpnumber⟩ := Option.bind_eq_some_iff.mp hnumber
      have hpmem := (h.profileAt_mem hp).1
      have hsame := hpnumber.trans hrownumber.symm
      rcases hheld p hpmem hsame with hown | ⟨x, hx, happlies, hxsome, hxp⟩
      · exact hother (h.profileAt_inj hown hp)
      · have hmobile := h.profileAt_inj hp hxp
        exact hxsome (numberGiver_eq_none.mp hgiver x hx happlies hmobile)
  · intro hfree hsome
    refine ⟨fun x hx happlies hnumber => ?_, fun p hp hnumber => ?_⟩
    · refine hfree hsome x.mobile (hfresh x hx) ?_
      have hxsome : x.employeeNumber ≠ none := hnumber ▸ hsome
      rw [Staff.numberAfter_of_giver (numberGiver_eq_self hmobiles hx happlies hxsome), hnumber]
    · obtain ⟨other, hother⟩ := h.exists_profileAt hp
      by_cases hown : other = row.mobile
      · exact .inl (hown ▸ hother)
      · right
        have hat : s.numberAt other = row.employeeNumber := by
          unfold Staff.numberAt
          rw [hother]
          exact hnumber
        cases hgiver : numberGiver earlier other with
        | none =>
          have hafter := Staff.numberAfter_of_none (s := s) hgiver
          exact absurd (hafter.trans hat) (hfree hsome other hown)
        | some x =>
          obtain ⟨hx, happlies, hmobile, hxsome⟩ := numberGiver_eq_some hgiver
          exact ⟨x, hx, happlies, hxsome, hmobile ▸ hother⟩

/-! ## The rows -/

/-- What the commit does about a row: it is carried out, or its person stays as before. -/
def Staff.Outcome (s s' : Staff) (row : StaffRow) : Prop :=
  if row.Applies then s'.Carries row else s.SameAt s' row.mobile

theorem Staff.Outcome.of_sameAt (h : s.Outcome t row) (hsame : t.SameAt s' row.mobile) :
    s.Outcome s' row := by
  unfold Staff.Outcome at h ⊢
  by_cases happlies : row.Applies
  · rw [if_pos happlies] at h ⊢
    exact h.of_sameAt hsame
  · rw [if_neg happlies] at h ⊢
    exact h.trans hsame

structure Staff.Imported (s : Staff) (earlier : List StaffRow) (t : Staff) : Prop where
  sound : t.Sound
  same : ∀ mobile, (∀ x ∈ earlier, x.mobile ≠ mobile) → s.SameAt t mobile
  outcome : ∀ x ∈ earlier, s.Outcome t x
  number : ∀ mobile, t.numberAt mobile = s.numberAfter earlier mobile

theorem mobile_fresh (hmobiles : ((earlier ++ [row]).map fun x => x.mobile).Nodup) :
    ∀ x ∈ earlier, x.mobile ≠ row.mobile := by
  rw [List.map_append, List.map_singleton, ← List.concat_eq_append, List.nodup_concat] at hmobiles
  intro x hx heq
  exact hmobiles.1 (heq ▸ List.mem_map_of_mem hx)

theorem Staff.Imported.categorized (ht : s.Imported earlier t)
    (hmobiles : ((earlier ++ [row]).map fun x => x.mobile).Nodup)
    (hrow : categorizeStaffRow s row = row) : categorizeStaffRow t row = row := by
  rw [categorizeStaffRow_congr (ht.same row.mobile (mobile_fresh hmobiles)), hrow]

section Row

variable (h : s.Sound) (ht : s.Imported earlier t)
  (hmobiles : ((earlier ++ [row]).map fun x => x.mobile).Nodup)
  (hrow : categorizeStaffRow s row = row) (hnumber : row.employeeNumber ≠ some "")
include ht hmobiles hrow hnumber

include h in
theorem Staff.Imported.row_iff {counts : StaffCounts} :
    (∃ r, applyStaffRow row counts t = .ok r) ↔
      (row.Applies → row.Fits ∧ s.Unclaimed earlier row) := by
  have hfresh := mobile_fresh hmobiles
  have hcat := ht.categorized hmobiles hrow
  rw [List.map_append, List.nodup_append] at hmobiles
  rw [(applyStaffRow_succeeds ht.sound hcat hnumber).iff, h.unclaimed_iff hmobiles.1 hfresh]
  unfold Staff.NumberFree
  simp only [ht.number]

theorem Staff.Imported.row_effect {counts : StaffCounts} {r : StaffCounts × Staff}
    (hok : applyStaffRow row counts t = .ok r) : s.Imported (earlier ++ [row]) r.2 := by
  have hfresh := mobile_fresh hmobiles
  have hcat := ht.categorized hmobiles hrow
  rcases ((applyStaffRow_succeeds ht.sound hcat hnumber).result r hok).2 with
    ⟨happlies, honly, hcarries, hgot⟩ | ⟨hno, heq⟩
  · refine ⟨honly.sound, fun mobile hother => ?_, fun x hx => ?_, fun mobile => ?_⟩
    · have hne : row.mobile ≠ mobile := hother row (List.mem_append_right _ List.mem_cons_self)
      have hbefore := ht.same mobile fun x hx => hother x (List.mem_append_left _ hx)
      exact hbefore.trans (honly.same mobile hne.symm)
    · rcases List.mem_append.mp hx with hx | hx
      · exact (ht.outcome x hx).of_sameAt (honly.same x.mobile (hfresh x hx))
      · rw [List.mem_singleton.mp hx]
        unfold Staff.Outcome
        rw [if_pos happlies]
        exact hcarries
    · rw [Staff.numberAfter_concat hfresh]
      by_cases hmobile : row.mobile = mobile
      · rw [if_pos ⟨happlies, hmobile⟩, ← hmobile, hgot, (ht.same row.mobile hfresh).number]
      · rw [if_neg fun hboth => hmobile hboth.2]
        rw [(honly.same mobile fun heq => hmobile heq.symm).number, ht.number]
  · rw [heq]
    refine ⟨ht.sound, fun mobile hother => ?_, fun x hx => ?_, fun mobile => ?_⟩
    · exact ht.same mobile fun x hx => hother x (List.mem_append_left _ hx)
    · rcases List.mem_append.mp hx with hx | hx
      · exact ht.outcome x hx
      · rw [List.mem_singleton.mp hx]
        unfold Staff.Outcome
        rw [if_neg hno]
        exact ht.same row.mobile hfresh
    · rw [Staff.numberAfter_concat hfresh, if_neg fun hboth => hno hboth.1, ht.number]

end Row

/-- **The rows of a commit**: when all of them can be applied, and what is there then. -/
theorem Staff.Imported.rows (h : s.Sound) (hrows : ∀ x ∈ others, categorizeStaffRow s x = x)
    (hnumbers : ∀ x ∈ others, x.employeeNumber ≠ some "")
    (hmobiles : ((earlier ++ others).map fun x => x.mobile).Nodup) (ht : s.Imported earlier t)
    (counts : StaffCounts) :
    ((∃ r, others.foldlM (fun state row => applyStaffRow row state.1 state.2) (counts, t) = .ok r) ↔
      s.Committable earlier others) ∧
    ∀ r, others.foldlM (fun state row => applyStaffRow row state.1 state.2) (counts, t) = .ok r →
      s.Imported (earlier ++ others) r.2 := by
  induction others generalizing earlier t counts with
  | nil =>
    refine ⟨⟨fun _ => trivial, fun _ => ⟨_, rfl⟩⟩, fun r hr => ?_⟩
    rw [List.foldlM_nil, Fallible.pure_eq_ok] at hr
    rw [List.append_nil, ← hr]
    exact ht
  | cons row others ih =>
    have hrow := hrows row List.mem_cons_self
    have hnumber := hnumbers row List.mem_cons_self
    have hsplit : earlier ++ row :: others = (earlier ++ [row]) ++ others := by simp
    rw [hsplit] at hmobiles
    have hfirst : ((earlier ++ [row]).map fun x => x.mobile).Nodup := by
      rw [List.map_append] at hmobiles
      exact (List.nodup_append.mp hmobiles).1
    have hone : (∃ r, applyStaffRow row counts t = .ok r) ↔
        (row.Applies → row.Fits ∧ s.Unclaimed earlier row) :=
      ht.row_iff h hfirst hrow hnumber
    have hrest := fun (r : StaffCounts × Staff) (hr : s.Imported (earlier ++ [row]) r.2) =>
      ih (fun x hx => hrows x (List.mem_cons_of_mem _ hx))
        (fun x hx => hnumbers x (List.mem_cons_of_mem _ hx)) hmobiles hr r.1
    rw [List.foldlM_cons]
    constructor
    · unfold Staff.Committable
      constructor
      · rintro ⟨r, hr⟩
        obtain ⟨x, hx, hr⟩ := Fallible.bind_eq_ok.mp hr
        exact ⟨hone.mp ⟨x, hx⟩,
          (hrest x (ht.row_effect hfirst hrow hnumber hx)).1.mp ⟨r, hr⟩⟩
      · rintro ⟨hcan, hlater⟩
        obtain ⟨x, hx⟩ := hone.mpr hcan
        obtain ⟨r, hr⟩ := (hrest x (ht.row_effect hfirst hrow hnumber hx)).1.mpr hlater
        exact ⟨r, Fallible.bind_eq_ok.mpr ⟨x, hx, hr⟩⟩
    · intro r hr
      obtain ⟨x, hx, hr⟩ := Fallible.bind_eq_ok.mp hr
      rw [hsplit]
      exact (hrest x (ht.row_effect hfirst hrow hnumber hx)).2 r hr

/-! ## The preview of a file -/

def CleanPreview (rows : List StaffRow) : Prop :=
  ∀ row ∈ rows, row.status ≠ some .error ∧ row.status ≠ some .duplicateInFile

instance instDecidableCleanPreview (rows : List StaffRow) : Decidable (CleanPreview rows) := by
  unfold CleanPreview
  infer_instance

/-- Users, memberships and profiles are the same. -/
structure Staff.SameData (s s' : Staff) : Prop where
  users : s'.users = s.users
  memberships : s'.memberships = s.memberships
  profiles : s'.profiles = s.profiles

theorem Staff.SameData.sameAt (h : s.SameData s') (mobile : String) : s.SameAt s' mobile := by
  obtain ⟨husers, hmemberships, hprofiles⟩ := h
  have huser : s'.userByMobile mobile = s.userByMobile mobile := by
    unfold Staff.userByMobile
    rw [husers]
  refine .of_profileOf huser ?_ fun m _ => ?_
  · unfold Staff.memberAt Staff.membershipOf
    rw [huser, hmemberships]
  · unfold Staff.profileOf
    rw [hprofiles]

theorem StaffTextRules.normalizeMobile_ne_empty {rules : StaffTextRules} {raw value : String}
    (h : rules.normalizeMobile raw = some value) : value ≠ "" := by
  unfold StaffTextRules.normalizeMobile at h
  dsimp only at h
  split at h
  · cases h
  · split at h
    · cases h
    · split at h
      · cases h
        intro hempty
        have hlength := congrArg String.length hempty
        simp at hlength
      · cases h

variable {rules : StaffTextRules} {mapping : StaffField → Option ℕ}
  {file : List (ℕ × StaffCells)}

theorem buildStaffRow_mobile {number : ℕ} {values : StaffCells}
    (h : (buildStaffRow rules mapping number values).errors = []) :
    (buildStaffRow rules mapping number values).mobile ≠ "" := by
  obtain ⟨-, herrors⟩ := List.append_eq_nil_iff.mp h
  change (rules.mobileOf _).1 ≠ ""
  unfold StaffTextRules.mobileOf at herrors ⊢
  dsimp only at herrors ⊢
  split at herrors
  · cases herrors
  next hsome =>
    rw [if_neg hsome]
    split at herrors
    · cases herrors
    next mobile hmobile =>
      exact StaffTextRules.normalizeMobile_ne_empty hmobile

theorem buildStaffRow_employeeNumber (number : ℕ) (values : StaffCells) :
    (buildStaffRow rules mapping number values).employeeNumber ≠ some "" := by
  unfold buildStaffRow
  dsimp only
  split
  · exact fun h => nomatch h
  next hne => exact fun h => hne (Option.some.inj h)

theorem readStaffFile_mobiles (h : ∀ row ∈ readStaffFile rules mapping file, row.errors = []) :
    ((readStaffFile rules mapping file).map fun row => row.mobile).Nodup := by
  let rows := file.map fun line => buildStaffRow rules mapping line.1 line.2
  have hmarked : ∀ row ∈ rows, ¬ (row.mobile ≠ "" ∧
      1 < (rows.countP fun x => x.mobile = row.mobile) ∧
      .duplicateMobileInFile ∉ row.errors) := by
    intro row hrow hdup
    have hmem := List.mem_map_of_mem hrow (f := fun row : StaffRow =>
      if row.mobile ≠ "" ∧ 1 < (rows.countP fun x => x.mobile = row.mobile) ∧
          .duplicateMobileInFile ∉ row.errors then
        { row with errors := row.errors ++ [.duplicateMobileInFile] }
      else row)
    have hclean := h _ hmem
    rw [if_pos hdup] at hclean
    exact (List.append_ne_nil_of_right_ne_nil _ (List.cons_ne_nil _ _)) hclean
  have hsame : readStaffFile rules mapping file = rows := by
    change rows.map _ = rows
    conv_rhs => rw [← List.map_id rows]
    exact List.map_congr_left fun row hrow => if_neg (hmarked row hrow)
  rw [hsame] at h ⊢
  have hcount : ∀ row ∈ rows, (rows.map fun x => x.mobile).count row.mobile ≤ 1 := by
    intro row hrow
    obtain ⟨line, -, heq⟩ := List.mem_map.mp hrow
    have herrors := h row hrow
    have hmobile : row.mobile ≠ "" := by
      rw [← heq] at herrors ⊢
      exact buildStaffRow_mobile herrors
    have hno := hmarked row hrow
    have hfew : (rows.map fun x => x.mobile).count row.mobile =
        rows.countP fun x => x.mobile = row.mobile := by
      rw [List.count, List.countP_map]
      apply List.countP_congr
      simp
    rw [hfew]
    by_contra hmany
    exact hno ⟨hmobile, by omega, by simp [herrors]⟩
  rw [List.nodup_iff_count_le_one]
  intro mobile
  by_cases hmem : mobile ∈ rows.map fun x => x.mobile
  · obtain ⟨row, hrow, rfl⟩ := List.mem_map.mp hmem
    exact hcount row hrow
  · rw [List.count_eq_zero_of_not_mem hmem]
    omega

theorem readStaffFile_employeeNumber {row : StaffRow}
    (h : row ∈ readStaffFile rules mapping file) : row.employeeNumber ≠ some "" := by
  obtain ⟨x, hx, rfl⟩ := List.mem_map.mp h
  obtain ⟨line, -, rfl⟩ := List.mem_map.mp hx
  split <;> exact buildStaffRow_employeeNumber line.1 line.2

theorem errors_eq_nil_of_clean {row : StaffRow}
    (h : (categorizeStaffRow s row).status ≠ some .error ∧
      (categorizeStaffRow s row).status ≠ some .duplicateInFile) : row.errors = [] := by
  obtain ⟨herror, hdup⟩ := h
  by_contra herr
  by_cases hmem : StaffRowError.duplicateMobileInFile ∈ row.errors
  · exact hdup (by simp [categorizeStaffRow, hmem])
  · exact herror (by simp [categorizeStaffRow, hmem, herr])

theorem isStaffPreviewStale_self (rows : List StaffRow) :
    isStaffPreviewStale rows rows = false := by
  unfold isStaffPreviewStale
  dsimp only
  rw [List.any_eq_false]
  intro entry hentry
  have hkeys := Dict.nodup_keys_ofList (rows.map fun row => (row.rowNumber, row))
  have hget := (Dict.mem_iff_get? hkeys entry.1 entry.2).mp hentry
  rw [hget]
  simp

/-- No other import of the school is being processed or committed. -/
def Staff.NoOtherImport (s : Staff) (jobId : ℕ) : Prop :=
  ∀ job ∈ s.importJobs, job.id ≠ jobId → ¬ job.Running

instance instDecidableStaffNoOtherImport (s : Staff) (jobId : ℕ) :
    Decidable (s.NoOtherImport jobId) := by
  unfold Staff.NoOtherImport
  infer_instance

instance instDecidableStaffCommittable (s : Staff) :
    (earlier rows : List StaffRow) → Decidable (s.Committable earlier rows)
  | _, [] => isTrue trivial
  | earlier, row :: rows =>
    have := instDecidableStaffCommittable s (earlier ++ [row]) rows
    inferInstanceAs (Decidable (_ ∧ _))

section Commit

variable {job : StaffImportJob} (hjob : s.job? job.id = some job)
  (hready : job.status = .readyForReview)
  (hrows : ∀ row ∈ job.rows, categorizeStaffRow s row = row)
  (hlimit : s.checkStaffCapacity job.rows = .ok ())
include hjob hready hrows hlimit

theorem commitStaffLocked_eq :
    commitStaffLocked job.id s =
      if s.NoOtherImport job.id then do
        let (counts, s') ← job.rows.foldlM (fun state row => applyStaffRow row state.1 state.2)
          (({} : StaffCounts), s.putJob { job with status := .importing })
        pure (s'.putJob { job with
          status := .completed, rows := [], summary := (categorizeStaffRows s job.rows).2,
          counts := counts }, none)
      else .error (.integrityError "uniq_running_staff_import_per_school") := by
  have hfresh : (categorizeStaffRows s job.rows).1 = job.rows := by
    change job.rows.map (categorizeStaffRow s) = job.rows
    conv_rhs => rw [← List.map_id job.rows]
    exact List.map_congr_left hrows
  have hgate : staffCommitGate job = .ok () := by simp [staffCommitGate, hready]
  have hroom : (s.putJob { job with status := .importing }).checkStaffCapacity job.rows = .ok () :=
    hlimit
  unfold commitStaffLocked
  simp only [hjob, hgate, hfresh, isStaffPreviewStale_self, Bool.false_eq_true, if_false]
  have hrunning : ({ job with status := .importing } : StaffImportJob).Running := .inr rfl
  unfold Staff.saveJob
  by_cases hother : s.NoOtherImport job.id
  · have hnone : ¬ (({ job with status := .importing } : StaffImportJob).Running ∧
        s.importJobs.any (fun j => j.Running ∧ j.id ≠ job.id) = true) := by
      rintro ⟨-, hany⟩
      obtain ⟨j, hj, hboth⟩ := List.any_eq_true.mp hany
      obtain ⟨hrun, hne⟩ := of_decide_eq_true hboth
      exact hother j hj hne hrun
    rw [if_neg hnone, if_pos hother]
    dsimp only [bind, Except.bind]
    rw [hroom]
  · have hsome : ({ job with status := .importing } : StaffImportJob).Running ∧
        s.importJobs.any (fun j => j.Running ∧ j.id ≠ job.id) = true := by
      refine ⟨hrunning, ?_⟩
      unfold Staff.NoOtherImport at hother
      push Not at hother
      obtain ⟨j, hj, hne, hrun⟩ := hother
      exact List.any_eq_true.mpr ⟨j, hj, decide_eq_true ⟨hrun, hne⟩⟩
    rw [if_pos hsome, if_neg hother]
    rfl

end Commit

/-- **A clean preview of a staff file is committed as a whole exactly when** no other import of the
school is running, the texts of its rows fit, and no row brings an employee number that somebody
else has by then. -/
theorem clean_staff_import_committed (rules : StaffTextRules) (mapping : StaffField → Option ℕ)
    (file : List (ℕ × StaffCells)) {s₀ s : Staff} (hsound : s.Sound) (hdata : s₀.SameData s)
    {job : StaffImportJob} (hjob : s.job? job.id = some job) (hready : job.status = .readyForReview)
    (hpreview : job.rows = (categorizeStaffRows s₀ (readStaffFile rules mapping file)).1)
    (hclean : CleanPreview job.rows) (hlimit : s.checkStaffCapacity job.rows = .ok ()) :
    (∃ s', commitStaffLocked job.id s = .ok (s', none) ∧ s'.Sound ∧
      ∀ row ∈ job.rows, s.Outcome s' row) ↔
    s.NoOtherImport job.id ∧ s.Committable [] job.rows := by
  have hmap : job.rows = (readStaffFile rules mapping file).map (categorizeStaffRow s) := by
    rw [hpreview]
    apply List.map_congr_left
    intro row _
    exact (categorizeStaffRow_congr (hdata.sameAt row.mobile)).symm
  have hrows : ∀ row ∈ job.rows, categorizeStaffRow s row = row := by
    intro row hrow
    rw [hmap] at hrow
    obtain ⟨x, -, rfl⟩ := List.mem_map.mp hrow
    exact categorizeStaffRow_idem s x
  have hnumbers : ∀ row ∈ job.rows, row.employeeNumber ≠ some "" := by
    intro row hrow
    rw [hmap] at hrow
    obtain ⟨x, hx, rfl⟩ := List.mem_map.mp hrow
    rw [categorizeStaffRow_employeeNumber]
    exact readStaffFile_employeeNumber hx
  have herrors : ∀ x ∈ readStaffFile rules mapping file, x.errors = [] := by
    intro x hx
    have hmem : categorizeStaffRow s x ∈ job.rows := hmap ▸ List.mem_map_of_mem hx
    exact errors_eq_nil_of_clean (hclean _ hmem)
  have hmobiles : (([] ++ job.rows : List StaffRow).map fun row => row.mobile).Nodup := by
    have hfile := readStaffFile_mobiles herrors
    rw [List.nil_append, hmap, List.map_map]
    simpa [Function.comp_def] using hfile
  let s₁ := s.putJob { job with status := .importing }
  have hsound₁ : s₁.Sound := { hsound with }
  have hstart : s.Imported [] s₁ :=
    { sound := hsound₁
      same := fun _ _ => ⟨rfl, rfl, rfl⟩
      outcome := fun _ hx => nomatch hx
      number := fun _ => (Staff.numberAfter_of_none rfl).symm }
  obtain ⟨hiff, heffect⟩ := hstart.rows hsound hrows hnumbers hmobiles {}
  rw [← hiff, commitStaffLocked_eq hjob hready hrows hlimit]
  constructor
  · rintro ⟨s', hcommit, -, -⟩
    by_cases hother : s.NoOtherImport job.id
    · rw [if_pos hother] at hcommit
      obtain ⟨r, hr, -⟩ := Fallible.bind_eq_ok.mp hcommit
      exact ⟨hother, r, hr⟩
    · rw [if_neg hother] at hcommit
      cases hcommit
  · rintro ⟨hother, r, hr⟩
    have hdone := heffect r hr
    rw [if_pos hother]
    refine ⟨_, Fallible.bind_eq_ok.mpr ⟨r, hr, rfl⟩, { hdone.sound with }, fun row hrow => ?_⟩
    exact (hdone.outcome row hrow).of_sameAt ⟨rfl, rfl, rfl⟩

/-! ## A file -/

def sampleStaff : Staff where
  users := [⟨1, "+966500000001", "سالم"⟩, ⟨2, "+966500000002", "نورة"⟩]
  memberships := [⟨3, 1, .active, [.teacher]⟩]
  profiles := [⟨3, "سالم", some "17", "معلم", .manual⟩]
  nextId := 10

theorem sampleStaff_sound : sampleStaff.Sound := by
  constructor <;> decide +kernel

def sampleRules : StaffTextRules := ⟨fun t => t, Text.isDecimal⟩

def sampleMapping : StaffField → Option ℕ
  | .fullName => some 0
  | .mobile => some 1
  | .employeeNumber => some 2
  | .jobTitle => none

def previewedJob (file : List (ℕ × StaffCells)) : StaffImportJob where
  id := 9
  status := .readyForReview
  rows := (categorizeStaffRows sampleStaff (readStaffFile sampleRules sampleMapping file)).1

def withPreview (file : List (ℕ × StaffCells)) : Staff :=
  { sampleStaff with importJobs := [previewedJob file] }

def handedOverFile : List (ℕ × StaffCells) :=
  [(2, [some "سالم", some "0500000001", some "18"]),
    (3, [some "هند", some "0500000003", some "17"]),
    (4, [some "نورة", some "0500000002", none])]

theorem clean_staff_import_committed_handed_over :
    ∃ s', commitStaffLocked 9 (withPreview handedOverFile) = .ok (s', none) ∧ s'.Sound ∧
      ∀ row ∈ (previewedJob handedOverFile).rows,
        (withPreview handedOverFile).Outcome s' row :=
  (@clean_staff_import_committed sampleRules sampleMapping handedOverFile sampleStaff
    (withPreview handedOverFile) { sampleStaff_sound with } ⟨rfl, rfl, rfl⟩
    (previewedJob handedOverFile) rfl rfl rfl (by decide +kernel) (by decide +kernel)).mpr
    ⟨by decide +kernel, by decide +kernel⟩

def takenFile : List (ℕ × StaffCells) :=
  [(2, [some "هند", some "0500000003", some "17"]),
    (3, [some "سالم", some "0500000001", some "18"])]

/-- The number of a member that the preview has not looked at stops the whole commit. -/
theorem clean_staff_import_refused :
    (withPreview takenFile).Sound ∧ CleanPreview (previewedJob takenFile).rows ∧
      (withPreview takenFile).checkStaffCapacity (previewedJob takenFile).rows = .ok () ∧
      (withPreview takenFile).NoOtherImport 9 ∧
      commitStaffLocked 9 (withPreview takenFile) =
        .error (.integrityError "uniq_employee_number_per_school") :=
  ⟨{ sampleStaff_sound with }, by decide +kernel, by decide +kernel, by decide +kernel,
    by decide +kernel⟩

end SchoolPlatform
