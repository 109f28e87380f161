import SchoolPlatform.Analysis.Frames

/-!
# What a reconciliation does

Alone, a reconciliation voids the stale coverages of the date and creates the missing ones. On a
sound school the result is exact: in the sessions of the date the students it is for are covered
exactly where that is justified, and nobody else's coverage changes
(`School.Sound.covered_reconciled`).
-/

namespace SchoolPlatform

open ReadCommitted

def ReconcilesStudent : Option (List ℕ) → ℕ → Prop
  | none, _ => True
  | some ids, student => student ∈ ids

instance (studentIds : Option (List ℕ)) (student : ℕ) :
    Decidable (ReconcilesStudent studentIds student) :=
  match studentIds with
  | none => inferInstanceAs (Decidable True)
  | some ids => inferInstanceAs (Decidable (student ∈ ids))

def School.reconcileStudents (s : School) (d : Date) (studentIds : Option (List ℕ)) : List ℕ :=
  studentsToReconcile studentIds (s.approvedTargetsOn d) (s.activeCoveragesOn d)

def School.staleOn (s : School) (d : Date) (studentIds : Option (List ℕ)) :
    List AbsenceExcuseCoverage :=
  staleCoverages (s.reconcileStudents d studentIds)
    (s.absencesOn d (s.reconcileStudents d studentIds)) (s.activeCoveragesOn d)

def School.missingOn (s : School) (d : Date) (studentIds : Option (List ℕ)) : List NewCoverage :=
  missingCoverages d (s.approvedTargetsOn d)
    ((s.activeCoveragesOn d).filter fun c => c ∉ s.staleOn d studentIds)
    (s.absencesOn d (s.reconcileStudents d studentIds))

def School.withoutStale (s : School) (now : Instant) (d : Date) (studentIds : Option (List ℕ)) :
    School :=
  s.voidCoverages ((s.staleOn d studentIds).map fun c => c.id) now voidReasonAttendanceChanged

def School.reconciled (s : School) (now : Instant) (d : Date) (studentIds : Option (List ℕ)) :
    School :=
  (s.withoutStale now d studentIds).addCoverages
    ((s.missingOn d studentIds).filter fun c =>
      !(s.withoutStale now d studentIds).coverageTaken c.key)

@[simp] theorem School.voidCoverages_nil (s : School) (now : Instant) (reason : String) :
    s.voidCoverages [] now reason = s := by
  simp [School.voidCoverages]

@[simp] theorem School.addCoverages_nil (s : School) : s.addCoverages [] = s := by
  simp [School.addCoverages]

theorem eval_voidWhere (filter : AbsenceExcuseCoverage → Bool) (now : Instant) (reason : String)
    (s : School) : (voidWhere filter now reason).eval s =
      .ok ((), s.voidCoverages ((s.coverages.filter filter).map fun c => c.id) now reason) := by
  unfold voidWhere
  simp only [Tx.bind_eq, Tx.eval_bind, Tx.eval_selectForUpdate, Tx.eval_update]
  -- The rows found are locked, so they are the rows that still match.
  have hsame : (s.coverages.filter fun c => decide (filter c = true ∧
      Row.coverage c.id ∈ (s.coverages.filter filter).map fun c => Row.coverage c.id)) =
      s.coverages.filter filter := by
    apply List.filter_congr
    intro c hc
    cases hf : filter c with
    | false => simp
    | true =>
      have hrow : Row.coverage c.id ∈ (s.coverages.filter filter).map
          fun c => Row.coverage c.id := List.mem_map_of_mem (List.mem_filter.mpr ⟨hc, hf⟩)
      simp [hrow]
  rw [hsame]

theorem eval_voidWhere_ids (ids : List ℕ) (now : Instant) (reason : String) (s : School) :
    (voidWhere (fun c => c.id ∈ ids) now reason).eval s =
      .ok ((), s.voidCoverages ids now reason) := by
  rw [eval_voidWhere]
  congr 2
  unfold School.voidCoverages
  congr 1
  apply List.map_congr_left
  intro c hc
  have hiff : c.id ∈ ((s.coverages.filter fun c => decide (c.id ∈ ids)).map fun c => c.id) ↔
      c.id ∈ ids := by
    simp only [List.mem_map, List.mem_filter, decide_eq_true_eq]
    constructor
    · rintro ⟨c', ⟨-, hmem⟩, hid⟩
      exact hid ▸ hmem
    · exact fun hmem => ⟨c, ⟨hc, hmem⟩, rfl⟩
  simp only [hiff]

theorem eval_voidStale (now : Instant) (toVoid : List AbsenceExcuseCoverage) (s : School) :
    (voidStale now toVoid).eval s =
      .ok ((), s.voidCoverages (toVoid.map fun c => c.id) now voidReasonAttendanceChanged) := by
  unfold voidStale
  by_cases h : toVoid = []
  · simp [h]
  · rw [if_neg h]
    exact eval_voidWhere_ids _ _ _ _

theorem eval_createMissing (toCreate : List NewCoverage) (s : School) :
    (createMissing toCreate).eval s =
      .ok (toCreate.filter (fun c => !s.coverageTaken c.key),
        s.addCoverages (toCreate.filter fun c => !s.coverageTaken c.key)) := by
  unfold createMissing
  by_cases h : toCreate = []
  · simp [h]
  · rw [if_neg h]
    rfl

theorem School.Keyed.eval_lockCandidates {s : School} (hs : s.Keyed) (d : Date) :
    (lockCandidates (s.approvedTargetsOn d)).eval s = .ok (s.approvedTargetsOn d, s) := by
  unfold lockCandidates
  simp only [Tx.bind_eq, Tx.eval_bind, Tx.eval_selectForUpdate, Tx.pure_eq, Tx.eval_ret]
  congr 2
  apply List.filter_eq_self.mpr
  rintro ⟨t, e⟩ hp
  obtain ⟨-, -, he, -, happ⟩ := (hs.mem_approvedTargetsOn d t e).mp hp
  have hid : e.id ∈ (s.approvedTargetsOn d).map fun p => p.2.id :=
    List.mem_map_of_mem (f := fun p : AbsenceExcuseTarget × AbsenceExcuse => p.2.id) hp
  have hrow : Row.excuse e.id ∈ (s.excuses.filter fun x =>
      decide (x.id ∈ ((s.approvedTargetsOn d).map fun p => p.2.id) ∧ x.status = .approved)).map
        fun x => Row.excuse x.id :=
    List.mem_map_of_mem (List.mem_filter.mpr ⟨he, by simpa using ⟨by simpa using hid, happ⟩⟩)
  rw [decide_eq_true_eq]
  exact List.mem_map_of_mem (List.mem_filter.mpr ⟨he, by simpa using ⟨by simpa using hrow, happ⟩⟩)

theorem School.Keyed.eval_reconcile {s : School} (hs : s.Keyed) (now : Instant) (d : Date)
    (studentIds : Option (List ℕ)) : ∃ r : Reconciliation,
      (reconcileExcuseCoverageForDate now d studentIds).eval s =
        .ok (r, s.reconciled now d studentIds) := by
  unfold reconcileExcuseCoverageForDate
  by_cases hnone : s.reconcileStudents d studentIds = []
  · -- With nobody to look at nothing is stale and nothing is missing.
    have habs : s.absencesOn d [] = [] := by simp [School.absencesOn]
    have hstale : s.staleOn d studentIds = [] := by
      simp [School.staleOn, hnone, staleCoverages]
    have hmiss : s.missingOn d studentIds = [] := by
      simp [School.missingOn, hnone, habs, missingCoverages]
    have hsame : s.reconciled now d studentIds = s := by
      simp [School.reconciled, School.withoutStale, hstale, hmiss]
    refine ⟨{}, ?_⟩
    rw [hsame]
    unfold School.reconcileStudents at hnone
    simp only [Tx.bind_eq, Tx.eval_bind, eval_ask, hnone, if_true, Tx.pure_eq, Tx.eval_ret]
  · unfold School.reconcileStudents at hnone
    simp only [Tx.bind_eq, Tx.eval_bind, eval_ask, hnone, if_false, hs.eval_lockCandidates,
      eval_voidStale, eval_createMissing, Tx.pure_eq, Tx.eval_ret]
    exact ⟨_, rfl⟩

theorem mem_approvedTargetsByStudent (targets : List (AbsenceExcuseTarget × AbsenceExcuse))
    (student : ℕ) (p : AbsenceExcuseTarget × AbsenceExcuse) :
    p ∈ ((approvedTargetsByStudent targets).get? student).getD [] ↔
      p ∈ targets ∧ p.2.student = student := by
  unfold approvedTargetsByStudent
  rw [Dict.get?_groupBy]
  split
  · rename_i hnil
    simp only [Option.getD_none, List.not_mem_nil, false_iff]
    rintro ⟨hp, hst⟩
    have hmem : p ∈ targets.filter fun a => a.2.student = student := by simp [hp, hst]
    rw [hnil] at hmem
    cases hmem
  · simp

theorem exists_of_pickExcuse {l : List (AbsenceExcuseTarget × AbsenceExcuse)} {period : ℕ}
    {e : AbsenceExcuse} (h : pickExcuse l period = some e) :
    ∃ t, (t, e) ∈ l ∧ t.matchesPeriod period = true := by
  unfold pickExcuse at h
  have hmem := List.mem_of_head? h
  rw [List.mem_insertionSort, List.mem_map] at hmem
  obtain ⟨⟨t, e'⟩, hp, rfl⟩ := hmem
  rw [List.mem_filter] at hp
  exact ⟨t, hp.1, hp.2⟩

theorem pickExcuse_isSome {l : List (AbsenceExcuseTarget × AbsenceExcuse)} {period : ℕ}
    {t : AbsenceExcuseTarget} {e : AbsenceExcuse} (h : (t, e) ∈ l)
    (hm : t.matchesPeriod period = true) : ∃ e', pickExcuse l period = some e' := by
  unfold pickExcuse
  apply Option.isSome_iff_exists.mp
  rw [List.isSome_head?]
  intro hnil
  have hmem : e ∈ (l.filter fun p => p.1.matchesPeriod period).map Prod.snd :=
    List.mem_map_of_mem (f := Prod.snd) (List.mem_filter.mpr ⟨h, hm⟩)
  rw [← List.mem_insertionSort (fun a b : AbsenceExcuse => a.approvedAt.getD 0 <
    b.approvedAt.getD 0 ∨ (a.approvedAt.getD 0 = b.approvedAt.getD 0 ∧ a.id ≤ b.id)),
    hnil] at hmem
  cases hmem

theorem mem_missingCoverages (d : Date) (targets : List (AbsenceExcuseTarget × AbsenceExcuse))
    (stillCovered : List AbsenceExcuseCoverage)
    (absences : List (AttendanceMark × AttendanceSession)) (n : NewCoverage) :
    n ∈ missingCoverages d targets stillCovered absences ↔
      ∃ p ∈ absences,
        (∀ c ∈ stillCovered, ¬ (c.student = p.1.student ∧ c.attendanceSession = p.1.session)) ∧
        ∃ e, pickExcuse (((approvedTargetsByStudent targets).get? p.1.student).getD [])
            p.2.periodSequence = some e ∧
          n = ⟨e.id, p.1.student, p.1.session, d, p.2.periodSequence⟩ := by
  unfold missingCoverages
  rw [List.mem_filterMap]
  constructor
  · rintro ⟨p, hp, h⟩
    by_cases hcov : (p.1.student, p.1.session) ∈
        stillCovered.map fun c => (c.student, c.attendanceSession)
    · rw [if_pos hcov] at h
      cases h
    · rw [if_neg hcov, Option.map_eq_some_iff] at h
      obtain ⟨e, he, rfl⟩ := h
      refine ⟨p, hp, ?_, e, he, rfl⟩
      rintro c hc ⟨hst, hses⟩
      exact hcov (List.mem_map.mpr ⟨c, hc, by rw [hst, hses]⟩)
  · rintro ⟨p, hp, hno, e, he, rfl⟩
    refine ⟨p, hp, ?_⟩
    have hcov : (p.1.student, p.1.session) ∉
        stillCovered.map fun c => (c.student, c.attendanceSession) := by
      intro hmem
      obtain ⟨c, hc, heq⟩ := List.mem_map.mp hmem
      rw [Prod.mk.injEq] at heq
      exact hno c hc heq
    rw [if_neg hcov, he]
    rfl

section Reconciled

variable {s : School} (now : Instant) (d : Date) (studentIds : Option (List ℕ))

theorem School.mem_reconcileStudents (student : ℕ) :
    student ∈ s.reconcileStudents d studentIds ↔
      ReconcilesStudent studentIds student ∧
        ((∃ p ∈ s.approvedTargetsOn d, p.2.student = student) ∨
          ∃ c ∈ s.activeCoveragesOn d, c.student = student) := by
  unfold School.reconcileStudents studentsToReconcile ReconcilesStudent
  have hmentioned : student ∈ ((s.approvedTargetsOn d).map fun p => p.2.student) ++
      ((s.activeCoveragesOn d).map fun c => c.student) ↔
      (∃ p ∈ s.approvedTargetsOn d, p.2.student = student) ∨
        ∃ c ∈ s.activeCoveragesOn d, c.student = student := by
    rw [List.mem_append, List.mem_map, List.mem_map]
  cases studentIds with
  | none =>
    rw [← hmentioned]
    simp only [true_and]
  | some ids =>
    rw [← hmentioned]
    simp only [List.mem_filter, decide_eq_true_eq]
    exact and_comm

theorem School.mem_activeCoveragesOn (c : AbsenceExcuseCoverage) :
    c ∈ s.activeCoveragesOn d ↔ s.Active c ∧ c.attendanceDate = d := by
  unfold School.activeCoveragesOn School.Active
  rw [List.mem_filter, decide_eq_true_eq]
  tauto

theorem School.Keyed.mem_staleOn (hs : s.Keyed) (c : AbsenceExcuseCoverage) :
    c ∈ s.staleOn d studentIds ↔
      s.Active c ∧ c.attendanceDate = d ∧ ReconcilesStudent studentIds c.student ∧
        ¬ ∃ x ∈ s.sessions, x.id = c.attendanceSession ∧ x.attendanceDate = d ∧
            x.status = .submitted ∧ s.Absent x.id c.student := by
  unfold School.staleOn staleCoverages
  rw [List.mem_filter, decide_eq_true_eq, School.mem_activeCoveragesOn]
  constructor
  · rintro ⟨⟨hact, hd⟩, hstu, hno⟩
    refine ⟨hact, hd, ((School.mem_reconcileStudents d studentIds _).mp hstu).1, ?_⟩
    rintro ⟨x, hx, hid, hxd, hsub, m, hm, hms, hmst, -⟩
    apply hno
    rw [List.mem_map]
    refine ⟨(m, x), (hs.mem_absencesOn _ _ _).mpr ⟨hm, hx, hms.symm, hsub, hxd, ?_⟩, ?_⟩
    · rwa [hmst]
    · rw [hmst, hms, hid]
  · rintro ⟨hact, hd, hrec, hno⟩
    refine ⟨⟨hact, hd⟩, ?_, ?_⟩
    · exact (School.mem_reconcileStudents d studentIds _).mpr
        ⟨hrec, .inr ⟨c, (School.mem_activeCoveragesOn d c).mpr ⟨hact, hd⟩, rfl⟩⟩
    · intro hmem
      obtain ⟨⟨m, x⟩, hp, heq⟩ := List.mem_map.mp hmem
      obtain ⟨hm, hx, hid, hsub, hxd, -⟩ := (hs.mem_absencesOn _ _ _).mp hp
      simp only [Prod.mk.injEq] at heq hm hid
      exact hno ⟨x, hx, hid.trans heq.2, hxd, hsub, m, hm, hid.symm, heq.1, m.status.eq_absent⟩

theorem School.Keyed.active_withoutStale (hs : s.Keyed) (c : AbsenceExcuseCoverage) :
    (s.withoutStale now d studentIds).Active c ↔ s.Active c ∧ c ∉ s.staleOn d studentIds := by
  unfold School.withoutStale
  rw [School.active_voidCoverages]
  constructor
  · rintro ⟨hact, hno⟩
    exact ⟨hact, fun hmem => hno (List.mem_map_of_mem hmem)⟩
  · rintro ⟨hact, hno⟩
    refine ⟨hact, ?_⟩
    intro hmem
    obtain ⟨c', hc', hid⟩ := List.mem_map.mp hmem
    have hact' := ((hs.mem_staleOn d studentIds c').mp hc').1
    have hsame : c' = c := Table.eq_of_key_eq hs.coverage_ids hact'.1 hact.1 hid
    exact hno (hsame ▸ hc')

theorem School.Keyed.missing_spec (hs : s.Keyed) {n : NewCoverage}
    (hn : n ∈ s.missingOn d studentIds) :
    ReconcilesStudent studentIds n.student ∧ n.attendanceDate = d ∧
      ∃ x ∈ s.sessions, x.id = n.attendanceSession ∧ x.attendanceDate = d ∧
        x.periodSequence = n.periodSequenceSnapshot ∧ x.status = .submitted ∧
        s.Absent x.id n.student ∧
        ∃ e ∈ s.excuses, e.id = n.excuse ∧ e.student = n.student ∧ e.status = .approved ∧
          ∃ t ∈ s.targets, t.excuse = e.id ∧ t.attendanceDate = d ∧
            t.matchesPeriod n.periodSequenceSnapshot = true := by
  unfold School.missingOn at hn
  rw [mem_missingCoverages] at hn
  obtain ⟨⟨m, x⟩, hp, -, e, he, rfl⟩ := hn
  obtain ⟨hm, hx, hid, hsub, hxd, hst⟩ := (hs.mem_absencesOn _ _ _).mp hp
  obtain ⟨t, ht, hmatch⟩ := exists_of_pickExcuse he
  rw [mem_approvedTargetsByStudent, hs.mem_approvedTargetsOn] at ht
  obtain ⟨⟨htm, htd, hem, heid, happ⟩, hest⟩ := ht
  refine ⟨((School.mem_reconcileStudents d studentIds _).mp hst).1, rfl, x, hx, hid, hxd, rfl,
    hsub, ⟨m, hm, hid.symm, rfl, m.status.eq_absent⟩, e, hem, rfl, hest, happ, t, htm,
    heid.symm, htd, hmatch⟩

theorem School.Keyed.nodup_missingOn (hs : s.Keyed) :
    ((s.missingOn d studentIds).map fun n => n.key).Nodup := by
  have habs : ((s.absencesOn d (s.reconcileStudents d studentIds)).map
      fun p => (p.1.session, p.1.student)).Nodup :=
    hs.nodup_submittedMarks.sublist (List.Sublist.map _ List.filter_sublist)
  apply Table.nodup_filterMap habs
  intro p n hn
  split at hn
  · cases hn
  · obtain ⟨e, -, rfl⟩ := Option.map_eq_some_iff.mp hn
    rfl

/-- **Reconciliation is exact.** In the sessions of its date, the students it is asked for are
covered afterwards exactly where that is justified; everybody else is covered as before. -/
theorem School.Sound.covered_reconciled (hs : s.Sound) {x : AttendanceSession}
    (hx : x ∈ s.sessions) (student : ℕ) :
    (s.reconciled now d studentIds).Covered x.id student ↔
      if x.attendanceDate = d ∧ ReconcilesStudent studentIds student then s.Justified x student
      else s.Covered x.id student := by
  have hk := hs.toKeyed
  unfold School.reconciled
  rw [School.covered_addCoverages]
  -- What the insertion skips is covered already.
  have hfresh : ((s.withoutStale now d studentIds).Covered x.id student ∨
      ∃ n ∈ (s.missingOn d studentIds).filter
          (fun c => !(s.withoutStale now d studentIds).coverageTaken c.key),
        n.attendanceSession = x.id ∧ n.student = student) ↔
      ((s.withoutStale now d studentIds).Covered x.id student ∨
        ∃ n ∈ s.missingOn d studentIds, n.attendanceSession = x.id ∧ n.student = student) := by
    constructor
    · rintro (h | ⟨n, hn, h⟩)
      · exact .inl h
      · exact .inr ⟨n, (List.mem_filter.mp hn).1, h⟩
    · rintro (h | ⟨n, hn, hses, hstu⟩)
      · exact .inl h
      · by_cases htaken : (s.withoutStale now d studentIds).coverageTaken n.key = true
        · have hcov := (School.coverageTaken_iff _ n).mp htaken
          rw [hses, hstu] at hcov
          exact .inl hcov
        · refine .inr ⟨n, List.mem_filter.mpr ⟨hn, ?_⟩, hses, hstu⟩
          simpa using htaken
  rw [hfresh]
  by_cases hin : x.attendanceDate = d ∧ ReconcilesStudent studentIds student
  · rw [if_pos hin]
    constructor
    · rintro (⟨c, hc, hses, hstu⟩ | ⟨n, hn, hses, hstu⟩)
      · -- A coverage that was kept: its student is absent, and it shows the excuse.
        rw [hk.active_withoutStale] at hc
        obtain ⟨hact, hno⟩ := hc
        obtain ⟨hcd, -, hexc⟩ := hs.active_backed hx hact hses
        rw [hstu] at hexc
        have hpresent : ∃ y ∈ s.sessions, y.id = c.attendanceSession ∧ y.attendanceDate = d ∧
            y.status = .submitted ∧ s.Absent y.id c.student := by
          by_contra hnone
          apply hno
          rw [hk.mem_staleOn]
          exact ⟨hact, hcd.trans hin.1, hstu ▸ hin.2, hnone⟩
        obtain ⟨y, hy, hyid, -, hsub, habs⟩ := hpresent
        have hyx : y = x := hk.session_unique hy hx (hyid.trans hses)
        subst hyx
        exact ⟨hsub, hstu ▸ habs, hexc⟩
      · obtain ⟨-, -, y, hy, hyid, hyd, hyp, hsub, habs, e, he, -, hest, happ, t, ht, hte, htd,
          hmatch⟩ := hk.missing_spec d studentIds hn
        have hyx : y = x := hk.session_unique hy hx (hyid.trans hses)
        subst hyx
        rw [hstu] at habs hest
        exact ⟨hsub, habs, e, he, hest, happ, t, ht, hte, htd.trans hyd.symm, hyp ▸ hmatch⟩
    · rintro ⟨hsub, ⟨m, hm, hms, hmst, -⟩, ⟨e, he, hest, happ, t, ht, hte, htd, hmatch⟩⟩
      have htarget : (t, e) ∈ s.approvedTargetsOn d :=
        (hk.mem_approvedTargetsOn d t e).mpr ⟨ht, htd.trans hin.1, he, hte.symm, happ⟩
      have hstudents : m.student ∈ s.reconcileStudents d studentIds :=
        (School.mem_reconcileStudents d studentIds _).mpr
          ⟨hmst ▸ hin.2, .inl ⟨(t, e), htarget, hest.trans hmst.symm⟩⟩
      have habsence : (m, x) ∈ s.absencesOn d (s.reconcileStudents d studentIds) :=
        (hk.mem_absencesOn _ _ _).mpr ⟨hm, hx, hms.symm, hsub, hin.1, hstudents⟩
      by_cases hstill : ∃ c ∈ (s.activeCoveragesOn d).filter fun c =>
          c ∉ s.staleOn d studentIds, c.student = m.student ∧ c.attendanceSession = m.session
      · obtain ⟨c, hc, hcst, hcses⟩ := hstill
        rw [List.mem_filter, School.mem_activeCoveragesOn, decide_eq_true_eq] at hc
        refine .inl ⟨c, (hk.active_withoutStale now d studentIds c).mpr ⟨hc.1.1, hc.2⟩, ?_, ?_⟩
        · exact hcses.trans hms
        · exact hcst.trans hmst
      · push Not at hstill
        have hcand : (t, e) ∈
            ((approvedTargetsByStudent (s.approvedTargetsOn d)).get? m.student).getD [] :=
          (mem_approvedTargetsByStudent _ _ _).mpr ⟨htarget, hest.trans hmst.symm⟩
        obtain ⟨e', he'⟩ := pickExcuse_isSome hcand hmatch
        refine .inr ⟨⟨e'.id, m.student, m.session, d, x.periodSequence⟩, ?_, hms, hmst⟩
        unfold School.missingOn
        rw [mem_missingCoverages]
        exact ⟨(m, x), habsence, fun c hc ⟨hcst, hcses⟩ => hstill c hc hcst hcses, e', he', rfl⟩
  · rw [if_neg hin]
    constructor
    · rintro (⟨c, hc, hses, hstu⟩ | ⟨n, hn, hses, hstu⟩)
      · exact ⟨c, ((hk.active_withoutStale now d studentIds c).mp hc).1, hses, hstu⟩
      · obtain ⟨hrec, -, y, hy, hyid, hyd, -⟩ := hk.missing_spec d studentIds hn
        have hyx : y = x := hk.session_unique hy hx (hyid.trans hses)
        exact (hin ⟨hyx ▸ hyd, hstu ▸ hrec⟩).elim
    · rintro ⟨c, hc, hses, hstu⟩
      refine .inl ⟨c, (hk.active_withoutStale now d studentIds c).mpr ⟨hc, ?_⟩, hses, hstu⟩
      intro hmem
      obtain ⟨-, hcd, hrec, -⟩ := (hk.mem_staleOn d studentIds c).mp hmem
      exact hin ⟨(hs.active_backed hx hc hses).1.symm.trans hcd, hstu ▸ hrec⟩

theorem School.Sound.exact_reconciled (hs : s.Sound) {k : Date × ℕ}
    (hk : (k.1 = d ∧ ReconcilesStudent studentIds k.2) ∨ s.CoverageExact k) :
    (s.reconciled now d studentIds).CoverageExact k := by
  intro x hx hd
  have hsame : (s.reconciled now d studentIds).Justified x k.2 ↔ s.Justified x k.2 := Iff.rfl
  rw [hs.covered_reconciled now d studentIds hx, hsame]
  by_cases hin : x.attendanceDate = d ∧ ReconcilesStudent studentIds k.2
  · rw [if_pos hin]
  · rw [if_neg hin]
    rcases hk with hk | hk
    · exact (hin ⟨hd.trans hk.1, hk.2⟩).elim
    · exact hk x hx hd

theorem School.Sound.reconciled (hs : s.Sound) : (s.reconciled now d studentIds).Sound := by
  have hk := hs.toKeyed
  have hkeyed : (s.reconciled now d studentIds).Keyed := by
    unfold School.reconciled
    apply (hk.voidCoverages _ _ _).addCoverages
    · exact (hk.nodup_missingOn d studentIds).sublist
        (List.Sublist.map _ List.filter_sublist)
    · intro n hn
      have hfree := (List.mem_filter.mp hn).2
      rwa [Bool.not_eq_true'] at hfree
  refine ⟨hkeyed, ?_⟩
  intro c hc
  unfold School.reconciled at hc
  rw [School.active_addCoverages] at hc
  rcases hc with hc | ⟨n, i, hi, rfl⟩
  · obtain ⟨hx, he⟩ := hs.coverage_backed c ((hk.active_withoutStale now d studentIds c).mp hc).1
    exact ⟨hx, he⟩
  · obtain ⟨-, hnd, x, hx, hxid, hxd, hxp, -, -, e, he, heid, hest, happ, t, ht, hte, htd,
      hmatch⟩ := hk.missing_spec d studentIds (List.mem_filter.mp (List.mem_of_getElem? hi)).1
    exact ⟨⟨x, hx, hxid, hxd.trans hnd.symm, hxp⟩,
      e, he, heid, hest, happ, t, ht, hte, htd.trans hnd.symm, hmatch⟩

end Reconciled

end SchoolPlatform
