import SchoolPlatform.Library.AssertedRuns
import SchoolPlatform.Model.Counseling

/-!
# One live case of a student

A case is opened, or opened again, when its student has no other live case. The check finds what
has been committed, and there is nothing to lock when it finds nothing; so two calls that check
before either of them commits leave a student with two live cases. In every run in which this does
not happen, a student has at most one.
-/

namespace SchoolPlatform.Counseling

open ReadCommitted

variable {id : ℕ} {x : CounselorCase}

inductive LiveCaseCall
  | openCounselorCase (actor : Actor) (school referralId : ℕ) (priority : CasePriority)
      (now : Instant) (newId : ℕ)
  | reopenCase (actor : Actor) (school caseId : ℕ) (reason : Text) (now : Instant)
  deriving DecidableEq

def LiveCaseCall.program : LiveCaseCall → CaseProgram Unit
  | .openCounselorCase actor school referralId priority now newId =>
    Counseling.openCounselorCase actor school referralId priority now newId
  | .reopenCase actor school caseId reason now =>
    Counseling.reopenCase actor school caseId reason now

def NoLiveCase (s : CaseBook) (student : ℕ) (besides : Option ℕ) : Prop :=
  ∀ p ∈ s.cases, p.2.student = student → besides ≠ some p.1 → p.2.status = .closed

instance decidableNoLiveCase (s : CaseBook) (student : ℕ) (besides : Option ℕ) :
    Decidable (NoLiveCase s student besides) := by
  unfold NoLiveCase
  infer_instance

def undisturbed : LiveCaseCall → CaseBook → CaseBook → Prop
  | .openCounselorCase _ _ referralId _ _ _, s, s' =>
    ∀ r ∈ s.referrals.get? referralId, NoLiveCase s r.student none → NoLiveCase s' r.student none
  | .reopenCase _ _ caseId _ _, s, s' =>
    ∀ x ∈ s.cases.get? caseId, NoLiveCase s x.student (some caseId) →
      NoLiveCase s' x.student (some caseId)

/-! ## What the calls keep -/

def AtMostOneLive (s : CaseBook) : Prop :=
  ∀ p ∈ s.cases, ∀ q ∈ s.cases, p.2.status ≠ .closed → q.2.status ≠ .closed →
    p.2.student = q.2.student → p.1 = q.1

instance decidableAtMostOneLive (s : CaseBook) : Decidable (AtMostOneLive s) :=
  inferInstanceAs (Decidable (∀ p ∈ s.cases, ∀ q ∈ s.cases, p.2.status ≠ .closed →
    q.2.status ≠ .closed → p.2.student = q.2.student → p.1 = q.1))

/-- Referrals and cases belong to the schools of their students, and a student has at most one live
case. -/
structure OneLiveCase (home : ℕ → ℕ) (s : CaseBook) : Prop where
  ids : (Dict.keys s.cases).Nodup
  referralSchools : ∀ id r, s.referrals.get? id = some r → r.school = home r.student
  schools : ∀ p ∈ s.cases, p.2.school = home p.2.student
  one : AtMostOneLive s

/-- What becomes of a case: it stays that of its student, and live when it is. -/
structure CounselorCase.Goes (x x' : CounselorCase) : Prop where
  school : x'.school = x.school
  student : x'.student = x.student
  referral : x'.primaryReferral = x.primaryReferral
  live : x.status ≠ .closed → x'.status ≠ .closed

/-- What every commit does, for those who hold other locks. -/
structure LiveCasePromise (home : ℕ → ℕ) (L : List (CaseRow × LockMode)) (s s' : CaseBook) :
    Prop where
  one : OneLiveCase home s'
  referrals : s'.referrals = s.referrals
  cases : ∀ id x, s.cases.get? id = some x → ∃ x', s'.cases.get? id = some x' ∧ x.Goes x'
  ids : ∀ id, s.cases.get? id = none → s'.cases.get? id = none ∨ (.caseRow id, .update) ∈ L

variable {home : ℕ → ℕ} {s s' : CaseBook} {student : ℕ} {L : List (CaseRow × LockMode)}

theorem CounselorCase.Goes.refl (x : CounselorCase) : x.Goes x := ⟨rfl, rfl, rfl, fun h => h⟩

theorem OneLiveCase.addCase (h : OneLiveCase home s) (hid : s.cases.get? id = none)
    (hschool : x.school = home x.student) (hnone : NoLiveCase s x.student none) :
    OneLiveCase home (s.addCase id x) where
  ids := Dict.nodup_keys_append h.ids x hid
  referralSchools := h.referralSchools
  schools := by
    intro p hp
    rcases Dict.mem_append_singleton.mp hp with hp | rfl
    · exact h.schools p hp
    · exact hschool
  one := by
    intro p hp q hq hplive hqlive hstudent
    rcases Dict.mem_append_singleton.mp hp with hp | rfl <;>
      rcases Dict.mem_append_singleton.mp hq with hq | rfl
    · exact h.one p hp q hq hplive hqlive hstudent
    · exact absurd (hnone p hp hstudent (by simp)) hplive
    · exact absurd (hnone q hq hstudent.symm (by simp)) hqlive
    · rfl

theorem OneLiveCase.changeCase (h : OneLiveCase home s) {f : CounselorCase → CounselorCase}
    (hx : s.cases.get? id = some x) (hgoes : x.Goes (f x))
    (hnone : NoLiveCase s x.student (some id)) :
    OneLiveCase home (s.changeCase id f) where
  ids := by
    have hkeys : Dict.keys (s.changeCase id f).cases = Dict.keys s.cases := Dict.keys_adjust _ _ _
    rw [hkeys]
    exact h.ids
  referralSchools := h.referralSchools
  schools := by
    intro p hp
    rcases (Dict.mem_adjust h.ids hx).mp hp with rfl | ⟨hp, -⟩
    · have hmem := (Dict.mem_iff_get? h.ids id x).mpr hx
      rw [hgoes.school, hgoes.student]
      exact h.schools _ hmem
    · exact h.schools p hp
  one := by
    intro p hp q hq hplive hqlive hstudent
    rcases (Dict.mem_adjust h.ids hx).mp hp with rfl | ⟨hp, hpne⟩ <;>
      rcases (Dict.mem_adjust h.ids hx).mp hq with rfl | ⟨hq, hqne⟩
    · rfl
    · refine absurd (hnone q hq ?_ fun heq => hqne (Option.some.inj heq).symm) hqlive
      exact hstudent.symm.trans hgoes.student
    · refine absurd (hnone p hp ?_ fun heq => hpne (Option.some.inj heq).symm) hplive
      exact hstudent.trans hgoes.student
    · exact h.one p hp q hq hplive hqlive hstudent

theorem OneLiveCase.log (h : OneLiveCase home s) (event : CounselorCaseEvent) :
    OneLiveCase home (s.log event) := ⟨h.ids, h.referralSchools, h.schools, h.one⟩

theorem LiveCasePromise.addCase (h : OneLiveCase home (s.addCase id x))
    (hlock : (CaseRow.caseRow id, .update) ∈ L) :
    LiveCasePromise home L s (s.addCase id x) where
  one := h
  referrals := rfl
  cases := by
    intro j y hy
    refine ⟨y, ?_, .refl y⟩
    simp [CaseBook.addCase, Dict.get?_append_singleton, hy]
  ids := by
    intro j hj
    by_cases heq : j = id
    · exact .inr (heq ▸ hlock)
    · left
      simp [CaseBook.addCase, Dict.get?_append_singleton, hj, Ne.symm heq]

theorem LiveCasePromise.changeCase {f : CounselorCase → CounselorCase}
    (h : OneLiveCase home (s.changeCase id f)) (hf : ∀ x : CounselorCase, x.Goes (f x)) :
    LiveCasePromise home L s (s.changeCase id f) where
  one := h
  referrals := rfl
  cases := by
    intro j y hy
    by_cases heq : j = id
    · exact ⟨f y, by simp [CaseBook.changeCase, heq ▸ hy, heq], hf y⟩
    · exact ⟨y, by simp [CaseBook.changeCase, hy, heq], .refl y⟩
  ids := by
    intro j hj
    left
    by_cases heq : j = id
    · simp [CaseBook.changeCase, heq ▸ hj, heq]
    · simp [CaseBook.changeCase, hj, heq]

theorem LiveCasePromise.log (h : LiveCasePromise home L s s') (event : CounselorCaseEvent) :
    LiveCasePromise home L s (s'.log event) :=
  ⟨h.one.log event, h.referrals, h.cases, h.ids⟩

/-! ## What a call knows -/

abbrev relies (home : ℕ → ℕ) (call : LiveCaseCall) : Change CaseBook CaseRow :=
  alongside (OneLiveCase home) (LiveCasePromise home) (undisturbed call)

variable {call : LiveCaseCall} {held : List (CaseRow × LockMode)} {referralId caseId : ℕ}
  {r : StudentReferral}

theorem relies_keeps_one : (relies home call).Keeps held (OneLiveCase home) :=
  alongside_keeps_invariant fun _ _ _ h _ => h.one

def HasCase (s : CaseBook) (referralId : ℕ) : Prop :=
  ∃ id x, s.cases.get? id = some x ∧ x.primaryReferral = referralId

theorem LiveCasePromise.hasCase (h : LiveCasePromise home L s s') (hs : HasCase s referralId) :
    HasCase s' referralId := by
  obtain ⟨id, x, hx, hreferral⟩ := hs
  obtain ⟨x', hx', hgoes⟩ := h.cases id x hx
  exact ⟨id, x', hx', hgoes.referral.trans hreferral⟩

/-- The referral that has been read, and what the check for a live case has shown: none but one for
the referral itself, which its unique index finds. -/
structure Checked (home : ℕ → ℕ) (referralId : ℕ) (r : StudentReferral) (free : Prop)
    (s : CaseBook) : Prop where
  one : OneLiveCase home s
  referral : s.referrals.get? referralId = some r
  none : free → HasCase s referralId ∨ NoLiveCase s r.student none

theorem relies_keeps_checked {actor : Actor} {school newId : ℕ} {priority : CasePriority}
    {now : Instant} {free : Prop} :
    (relies home (.openCounselorCase actor school referralId priority now newId)).Keeps held
      (Checked home referralId r free) := by
  intro L s s' _ hothers h
  obtain ⟨-, hcalm, hcommit⟩ := hothers
  refine ⟨hcommit.one, ?_, fun hfree => ?_⟩
  · rw [hcommit.referrals]
    exact h.referral
  · exact (h.none hfree).imp hcommit.hasCase (hcalm r h.referral)

def besides (s : CaseBook) (referralId : ℕ) (r : StudentReferral) : List ℕ :=
  s.liveCases r.school r.student fun _ x => x.primaryReferral ≠ referralId

theorem mem_liveCases {school : ℕ} {chosen : ℕ → CounselorCase → Bool} :
    id ∈ s.liveCases school student chosen ↔ ∃ x, (id, x) ∈ s.cases ∧ x.school = school ∧
      x.student = student ∧ x.status ≠ .closed ∧ chosen id x = true := by
  have hlive : ∀ status : CaseStatus, liveCaseStatuses.contains status = true ↔
      status ≠ .closed := by
    intro status
    cases status <;> decide
  simp only [CaseBook.liveCases, List.mem_map, List.mem_filter, Bool.and_eq_true,
    decide_eq_true_eq, hlive, and_assoc]
  constructor
  · rintro ⟨p, hp, hschool, hstudent, hstatus, hchosen, rfl⟩
    exact ⟨p.2, hp, hschool, hstudent, hstatus, hchosen⟩
  · rintro ⟨x, hx, hschool, hstudent, hstatus, hchosen⟩
    exact ⟨(id, x), hx, hschool, hstudent, hstatus, hchosen, rfl⟩

theorem none_of_besides (h : OneLiveCase home s) (hr : s.referrals.get? referralId = some r)
    (hnone : besides s referralId r = []) :
    HasCase s referralId ∨ NoLiveCase s r.student none := by
  by_cases hcase : HasCase s referralId
  · exact .inl hcase
  · right
    intro p hp hstudent _
    by_contra hlive
    have hmem : p.1 ∈ besides s referralId r := by
      apply mem_liveCases.mpr
      refine ⟨p.2, hp, ?_, hstudent, hlive, ?_⟩
      · rw [h.schools p hp, h.referralSchools referralId r hr, hstudent]
      · rw [decide_eq_true_eq]
        intro hsame
        exact hcase ⟨p.1, p.2, (Dict.mem_iff_get? h.ids p.1 p.2).mp hp, hsame⟩
    rw [hnone] at hmem
    exact absurd hmem List.not_mem_nil

theorem LiveCasePromise.besides (h : LiveCasePromise home L s s') (hs : OneLiveCase home s)
    (hid : id ∈ besides s referralId r) : id ∈ besides s' referralId r := by
  obtain ⟨x, hx, hschool, hstudent, hlive, hchosen⟩ := mem_liveCases.mp hid
  obtain ⟨x', hx', hgoes⟩ := h.cases id x ((Dict.mem_iff_get? hs.ids id x).mp hx)
  rw [decide_eq_true_eq] at hchosen
  apply mem_liveCases.mpr
  refine ⟨x', (Dict.mem_iff_get? h.one.ids id x').mpr hx', hgoes.school.trans hschool,
    hgoes.student.trans hstudent, hgoes.live hlive, ?_⟩
  rw [decide_eq_true_eq, hgoes.referral]
  exact hchosen

section Opening

variable {actor : Actor} {school newId : ℕ} {priority : CasePriority} {now : Instant}

theorem asserts_insertCase (hschool : x.school = r.school) (hstudent : x.student = r.student)
    (hreferral : x.primaryReferral = referralId) {J : CaseBook → Prop}
    (hJ : ∀ s, J s → Checked home referralId r True s) :
    ((insertCase newId x).bind fun _ => logCaseEvent actor newId (.caseOpened referralId)).Asserts
      (relies home (.openCounselorCase actor school referralId priority now newId))
      (LiveCasePromise home) (fun _ _ => True) J held fun s => s := by
  unfold insertCase logCaseEvent
  simp only [Tx.bind_eq, Tx.bind_assoc]
  refine Tx.Asserts.lockRows (Tx.Asserts.lockRows ?_)
  refine Tx.Asserts.select (fun taken s => Checked home referralId r True s ∧
    (taken = false → s.cases.get? newId = none ∧ NoLiveCase s r.student none)) ?_ ?_ ?_
  · intro s hs
    have hchecked := hJ s hs
    refine ⟨hchecked, fun htaken => ?_⟩
    rw [Bool.or_eq_false_iff, Option.isSome_eq_false_iff, Option.isNone_iff_eq_none,
      Dict.taken_eq_false] at htaken
    refine ⟨htaken.1, (hchecked.none trivial).resolve_left ?_⟩
    rintro ⟨id, y, hy, hsame⟩
    have hmem := (Dict.mem_iff_get? hchecked.one.ids id y).mpr hy
    apply htaken.2 _ hmem
    rw [hreferral]
    exact congrArg some hsame
  · intro taken L s s' hcompat hothers h
    refine ⟨relies_keeps_checked L s s' hcompat hothers h.1, fun htaken => ?_⟩
    obtain ⟨-, hcalm, hcommit⟩ := hothers
    obtain ⟨hid, hnone⟩ := h.2 htaken
    refine ⟨(hcommit.ids newId hid).resolve_right fun hlock => ?_, hcalm r h.1.referral hnone⟩
    exact absurd (WriteLocked.of_update hlock) (hcompat.not_writeLocked
      (WriteLocked.of_update (by simp)))
  · intro taken
    refine Tx.Asserts.require fun htaken => Tx.Asserts.update (Tx.Asserts.lockRows ?_)
    intro s hs
    obtain ⟨hchecked, hfree⟩ := hs
    obtain ⟨hid, hnone⟩ := hfree (by simpa using htaken)
    refine ⟨LiveCasePromise.log (.addCase ?_ ?_) _, trivial⟩
    · apply hchecked.one.addCase hid
      · rw [hschool, hstudent]
        exact hchecked.one.referralSchools referralId r hchecked.referral
      · rw [hstudent]
        exact hnone
    · simp

theorem asserts_openCase : (openCase actor referralId r priority now newId).Asserts
    (relies home (.openCounselorCase actor school referralId priority now newId))
    (LiveCasePromise home) (fun _ _ => True) (Checked home referralId r False) [] fun s => s := by
  unfold openCase
  simp only [Tx.bind_eq]
  refine Tx.Asserts.lockFound (fun rows s => Checked home referralId r (rows = []) s ∧
    ∀ row ∈ rows, ∃ id ∈ besides s referralId r, row = .caseRow id) ?_ ?_ ?_
  · intro s hs
    refine ⟨⟨hs.one, hs.referral, fun hnone => ?_⟩, fun row hrow => ?_⟩
    · apply none_of_besides hs.one hs.referral
      rw [List.map_eq_nil_iff, List.take_eq_nil_iff] at hnone
      exact hnone.resolve_left (by decide)
    · obtain ⟨id, hid, hsame⟩ := List.mem_map.mp hrow
      exact ⟨id, List.mem_of_mem_take hid, hsame.symm⟩
  · intro rows L s s' hcompat hothers h
    refine ⟨relies_keeps_checked L s s' hcompat hothers h.1, fun row hrow => ?_⟩
    obtain ⟨id, hid, hsame⟩ := h.2 row hrow
    exact ⟨id, hothers.2.2.besides hothers.1 hid, hsame⟩
  · intro rows
    refine Tx.Asserts.select (fun existing s => Checked home referralId r (existing = none) s) ?_
      (fun existing => relies_keeps_checked) ?_
    · intro s hs
      refine ⟨hs.1.one, hs.1.referral, fun hnone => hs.1.none ?_⟩
      rw [List.eq_nil_iff_forall_not_mem]
      intro row hrow
      obtain ⟨id, hid, rfl⟩ := hs.2 row hrow
      have hnot := List.find?_eq_none.mp hnone id hid
      simp [hrow] at hnot
    · intro existing
      cases existing with
      | some id => trivial
      | none =>
        refine asserts_insertCase rfl rfl rfl fun s hs => ?_
        exact ⟨hs.one, hs.referral, fun _ => hs.none rfl⟩

theorem asserts_openCounselorCase :
    (openCounselorCase actor school referralId priority now newId).Asserts
      (relies home (.openCounselorCase actor school referralId priority now newId))
      (LiveCasePromise home) (fun _ _ => True) (OneLiveCase home) := by
  unfold openCounselorCase
  simp only [Program.bind_eq]
  refine Program.Asserts.read (fun found s => OneLiveCase home s ∧
    ∀ r ∈ found, s.referrals.get? referralId = some r) ?_ ?_ ?_
  · intro s hs
    refine ⟨hs, fun r hr => ?_⟩
    exact (Option.filter_eq_some_iff.mp hr).1
  · intro found
    refine alongside_keeps (fun _ _ _ h _ => h.one) fun L s s' _ hcommit _ _ hfound r hr => ?_
    rw [hcommit.referrals]
    exact hfound r hr
  · intro found
    refine Program.Asserts.need fun r hr => Program.Asserts.require fun _ => ?_
    refine Program.Asserts.require fun _ => Program.Asserts.transaction ?_
    refine asserts_openCase.mono fun s hs => ⟨hs.1, hs.2 r hr, False.elim⟩

end Opening

/-! ## Opening again -/

section Reopening

variable {actor : Actor} {school : ℕ} {reason : Text} {now : Instant}

/-- The case that has been locked, and what the check for another live one has shown. -/
structure Reopenable (home : ℕ → ℕ) (caseId : ℕ) (x : CounselorCase) (free : Prop)
    (s : CaseBook) : Prop where
  one : OneLiveCase home s
  caseRow : ∃ y, s.cases.get? caseId = some y ∧ y.student = x.student
  none : free → NoLiveCase s x.student (some caseId)

theorem relies_keeps_reopenable {free : Prop} :
    (relies home (.reopenCase actor school caseId reason now)).Keeps held
      (Reopenable home caseId x free) := by
  intro L s s' _ hothers h
  obtain ⟨-, hcalm, hcommit⟩ := hothers
  obtain ⟨y, hy, hstudent⟩ := h.caseRow
  obtain ⟨y', hy', hgoes⟩ := hcommit.cases caseId y hy
  refine ⟨hcommit.one, ⟨y', hy', hgoes.student.trans hstudent⟩, fun hfree => ?_⟩
  have hquiet := hcalm y hy
  rw [hstudent] at hquiet
  exact hquiet (h.none hfree)

theorem noLiveCase_of_others (h : OneLiveCase home s) (hschool : x.school = home x.student)
    (hnone : s.liveCases x.school x.student (fun id _ => id ≠ caseId) = []) :
    NoLiveCase s x.student (some caseId) := by
  intro p hp hstudent hother
  by_contra hlive
  have hmem : p.1 ∈ s.liveCases x.school x.student (fun id _ => id ≠ caseId) := by
    apply mem_liveCases.mpr
    refine ⟨p.2, hp, ?_, hstudent, hlive, ?_⟩
    · rw [h.schools p hp, hschool, hstudent]
    · rw [decide_eq_true_eq]
      intro hsame
      exact hother (congrArg some hsame.symm)
  rw [hnone] at hmem
  exact absurd hmem List.not_mem_nil

theorem asserts_reopenLocked : (reopenLocked actor caseId reason now).Asserts
    (relies home (.reopenCase actor school caseId reason now)) (LiveCasePromise home)
    (fun _ _ => True) (OneLiveCase home) [] fun s => s := by
  unfold reopenLocked lockCase logCaseEvent
  simp only [Tx.bind_eq, Tx.bind_assoc]
  refine Tx.Asserts.selectForUpdate (fun found s => OneLiveCase home s ∧
    ∀ x ∈ found, x.school = home x.student ∧ Reopenable home caseId x False s)
    relies_keeps_one ?_ ?_ ?_
  · intro s hs
    refine ⟨hs, fun x hx => ⟨?_, hs, ⟨x, hx, rfl⟩, False.elim⟩⟩
    exact hs.schools _ ((Dict.mem_iff_get? hs.ids caseId x).mpr hx)
  · intro found L s s' hcompat hothers h
    refine ⟨hothers.2.2.one, fun x hx => ⟨(h.2 x hx).1, ?_⟩⟩
    exact relies_keeps_reopenable L s s' hcompat hothers (h.2 x hx).2
  · intro found
    refine Tx.Asserts.need fun x hx => Tx.Asserts.require fun _ => ?_
    refine Tx.Asserts.select (fun others s => Reopenable home caseId x (others = []) s) ?_
      (fun others => relies_keeps_reopenable) ?_
    · intro s hs
      obtain ⟨hschool, hlocked⟩ := hs.2 x hx
      exact ⟨hs.1, hlocked.caseRow, noLiveCase_of_others hs.1 hschool⟩
    · intro others
      refine Tx.Asserts.require fun hfree => Tx.Asserts.update (Tx.Asserts.lockRows ?_)
      intro s hs
      obtain ⟨y, hy, hstudent⟩ := hs.caseRow
      refine ⟨LiveCasePromise.log (.changeCase (hs.one.changeCase hy ?_ ?_) ?_) _, trivial⟩
      · exact ⟨rfl, rfl, rfl, by simp⟩
      · rw [hstudent]
        exact hs.none (List.isEmpty_iff.mp hfree)
      · intro z
        exact ⟨rfl, rfl, rfl, by simp⟩

theorem asserts_reopenCase : (reopenCase actor school caseId reason now).Asserts
    (relies home (.reopenCase actor school caseId reason now)) (LiveCasePromise home)
    (fun _ _ => True) (OneLiveCase home) := by
  unfold reopenCase getCase requireCaseManagement
  simp only [Program.bind_eq, Program.bind_assoc]
  refine Program.Asserts.read (fun _ => OneLiveCase home) (fun _ hs => hs)
    (fun _ => relies_keeps_one) fun found => ?_
  refine Program.Asserts.need fun x _ => Program.Asserts.require fun _ => ?_
  exact Program.Asserts.require fun _ => Program.Asserts.transaction asserts_reopenLocked

end Reopening

theorem asserts_program (call : LiveCaseCall) : call.program.Asserts (relies home call)
    (LiveCasePromise home) (fun _ _ => True) (OneLiveCase home) := by
  cases call with
  | openCounselorCase actor school referralId priority now newId =>
    exact asserts_openCounselorCase
  | reopenCase actor school caseId reason now => exact asserts_reopenCase

/-- **A student has at most one live case**, as long as no call gives a student a live case while
another call, which has found none, is about to. -/
theorem undisturbed_one_live_case (home : ℕ → ℕ) (s : CaseBook) (calls : List LiveCaseCall)
    (sched : List ℕ) (c : Config CaseBook CaseRow Failure Unit) (hs : OneLiveCase home s)
    (hexec : (Config.start s (calls.map LiveCaseCall.program)).exec sched = some c)
    (hrun : UndisturbedRun LiveCaseCall.program (fun _ _ => True) undisturbed calls s sched) :
    AtMostOneLive c.store := by
  have hkept : OneLiveCase home c.store := by
    refine UndisturbedRun.invariant (G := LiveCasePromise home) (fun _ _ _ h _ => h.one) ?_ hs
      hexec hrun
    intro call _
    refine ⟨?_, (asserts_program call).mono fun s hs => hs.1⟩
    exact relies_keeps_one.and (Change.keeps_const _ _ True)
  exact hkept.one

/-! ## Students with two live cases -/

instance decidableUndisturbed (call : LiveCaseCall) (s s' : CaseBook) :
    Decidable (undisturbed call s s') :=
  match call with
  | .openCounselorCase _ _ referralId _ _ _ =>
    inferInstanceAs (Decidable (∀ r ∈ s.referrals.get? referralId,
      NoLiveCase s r.student none → NoLiveCase s' r.student none))
  | .reopenCase _ _ caseId _ _ =>
    inferInstanceAs (Decidable (∀ x ∈ s.cases.get? caseId,
      NoLiveCase s x.student (some caseId) → NoLiveCase s' x.student (some caseId)))

def counselor : Actor := ⟨3, [.counselor]⟩

def referredTwice : CaseBook where
  referrals := [(1, ⟨9, 7, .acknowledged, some 3⟩), (2, ⟨9, 7, .acknowledged, some 3⟩)]
  cases := [(5, ⟨9, 7, 0, some 3, .closed, .normal, 3, 100, some 3, some 200, some .goalsMet, [],
    some .improved, 200⟩)]

def threeCalls : List LiveCaseCall :=
  [.openCounselorCase counselor 9 1 .normal 300 11, .openCounselorCase counselor 9 2 .high 300 12,
    .reopenCase counselor 9 5 "عودة".toList 300]

theorem oneLiveCase_referredTwice : OneLiveCase (fun _ => 9) referredTwice where
  ids := by decide
  referralSchools := by
    intro id r hr
    have hmem := (Dict.mem_iff_get? (by decide) id r).mpr hr
    have hall : ∀ p ∈ referredTwice.referrals, p.2.school = 9 := by decide
    exact hall _ hmem
  schools := by decide
  one := by decide

def oneAfterAnother : List ℕ :=
  List.replicate 12 0 ++ List.replicate 2 1 ++ List.replicate 7 2 ++ List.replicate 4 1

theorem undisturbed_one_live_case_referred_twice : ∃ c : Config CaseBook CaseRow Failure Unit,
    (Config.start referredTwice (threeCalls.map LiveCaseCall.program)).exec oneAfterAnother =
      some c ∧ c.threads.all Thread.ended = true ∧ AtMostOneLive c.store := by
  have hruns : ((Config.start referredTwice (threeCalls.map LiveCaseCall.program)).exec
      oneAfterAnother).map (fun c => c.threads.all Thread.ended) = some true := by decide +kernel
  obtain ⟨c, hc, hended⟩ := Option.map_eq_some_iff.mp hruns
  have hcalm : UndisturbedRun LiveCaseCall.program (fun _ _ => True) undisturbed threeCalls
      referredTwice oneAfterAnother := Config.calmRun_of_check _ (by decide +kernel)
  exact ⟨c, hc, hended, undisturbed_one_live_case (fun _ => 9) referredTwice threeCalls
    oneAfterAnother c oneLiveCase_referredTwice hc hcalm⟩

def checkedBoth : List ℕ := List.replicate 4 1 ++ List.replicate 12 0 ++ List.replicate 8 1

/-- **Two cases are opened at once**, and the student has two live ones. -/
theorem two_live_cases : ¬ ∀ (home : ℕ → ℕ) (s : CaseBook) (calls : List LiveCaseCall)
    (sched : List ℕ) (c : Config CaseBook CaseRow Failure Unit), OneLiveCase home s →
      (Config.start s (calls.map LiveCaseCall.program)).exec sched = some c →
        AtMostOneLive c.store := by
  intro h
  have hruns : ((Config.start referredTwice (threeCalls.map LiveCaseCall.program)).exec
      checkedBoth).map (fun c => decide (AtMostOneLive c.store)) = some false := by decide +kernel
  obtain ⟨c, hc, htwo⟩ := Option.map_eq_some_iff.mp hruns
  exact of_decide_eq_false htwo (h _ _ _ _ c oneLiveCase_referredTwice hc)

end SchoolPlatform.Counseling
