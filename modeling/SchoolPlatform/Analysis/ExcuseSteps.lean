import SchoolPlatform.Analysis.CoverageSteps

/-!
# What each transaction on an excuse leaves to be repaired

Rejection, change, creation and approval leave nothing: a creation approved at once reconciles
before it commits, and an approval creates the coverages of its whole scope
(`School.Sound.leaves_approval`). A cancellation leaves the dates of the coverages it voids, since
another approved excuse may be for the same absences (`School.Sound.leaves_cancellation`).
-/

namespace SchoolPlatform

open ReadCommitted

variable {s s' : School}

variable {e e' : AbsenceExcuse} {now : Instant} {excuseId : ℕ}

@[simp] theorem eval_raiseNotPending {α : Type} (excuse : AbsenceExcuse) (s : School) :
    (raiseNotPending excuse : Transaction α).eval s =
      .error (.api
        { code := (statusError excuse.status).1
          message := (statusError excuse.status).2
          statusCode := 409 }) := rfl

theorem School.Sound.leaves_putExcuse (hs : s.Sound) (he : e ∈ s.excuses) (hid : e'.id = e.id)
    (hnot : e.status ≠ .approved) (hnot' : e'.status ≠ .approved) : s.Leaves (s.putExcuse e') [] :=
  ⟨hs.putExcuse he hid hnot, fun _ hk => .inl (hk.putExcuse hs.toKeyed he hid hnot hnot')⟩

theorem rejectLocked_leaves (hs : s.Sound) (h : (rejectLocked now excuseId).eval s = .ok (e, s')) :
    s.Leaves s' [] := by
  unfold rejectLocked at h
  simp only [Tx.bind_eq, Tx.eval_bind_ok, eval_getExcuseForUpdate_ok] at h
  obtain ⟨y, s₁, ⟨hy, rfl⟩, h⟩ := h
  obtain ⟨hmem, -⟩ := (hs.excuse?_eq_some _ _).mp hy
  split_ifs at h with hpending
  · simp at h
  · simp only [Tx.eval_bind, Tx.eval_updateWhere, Tx.pure_eq, Tx.eval_ret, Except.ok.injEq,
      Prod.mk.injEq] at h
    obtain ⟨-, rfl⟩ := h
    have hnot : y.status ≠ .approved := by
      rw [not_not.mp hpending]
      decide
    exact hs.leaves_putExcuse hmem rfl hnot (by simp)

theorem updateLocked_leaves (hs : s.Sound) {today : Date} {targets : Option (List TargetInput)}
    (h : (updateLocked today excuseId targets).eval s = .ok (e, s')) : s.Leaves s' [] := by
  unfold updateLocked at h
  simp only [Tx.bind_eq, Tx.eval_bind_ok, eval_getExcuseForUpdate_ok] at h
  obtain ⟨y, s₁, ⟨hy, rfl⟩, h⟩ := h
  obtain ⟨hmem, -⟩ := (hs.excuse?_eq_some _ _).mp hy
  split_ifs at h with hpending
  · simp at h
  · have hnot : y.status ≠ .approved := by
      rw [not_not.mp hpending]
      decide
    split at h
    · simp only [Tx.pure_eq, Tx.eval_ret, Except.ok.injEq, Prod.mk.injEq] at h
      exact h.2 ▸ hs.leaves_refl
    · rw [Tx.eval_bind_ok] at h
      obtain ⟨validated, s₂, hvalid, h⟩ := h
      have hsame := (validateTargets_readOnly _ _ _ _).eval_eq hvalid
      subst hsame
      simp only [Tx.eval_bind, Tx.eval_update, Tx.pure_eq, Tx.eval_ret, Except.ok.injEq,
        Prod.mk.injEq] at h
      obtain ⟨-, rfl⟩ := h
      exact ⟨hs.replaceTargets hmem hnot validated,
        fun k hk => .inl (hk.replaceTargets hs.toKeyed hmem hnot validated)⟩

theorem collect_reconcile (now : Date → Instant) (student : ℕ) (days : List Date)
    (hs : s.Sound) : ∃ rs s', (Transaction.collect
        (fun d => reconcileExcuseCoverageForDate (now d) d (some [student])) days).eval s =
          .ok (rs, s') ∧
      s'.Sound ∧ (∀ k : Date × ℕ, (k.1 ∈ days ∧ k.2 = student) ∨ s.CoverageExact k →
        s'.CoverageExact k) := by
  induction days generalizing s with
  | nil =>
    refine ⟨[], s, rfl, hs, ?_⟩
    rintro k (⟨hmem, -⟩ | hk)
    · cases hmem
    · exact hk
  | cons d days ih =>
    obtain ⟨r, hr⟩ := hs.toKeyed.eval_reconcile (now d) d (some [student])
    obtain ⟨rs, s', hrs, hsound, hexact⟩ := ih (hs.reconciled (now d) d (some [student]))
    refine ⟨r :: rs, s', ?_, hsound, ?_⟩
    · simp only [Transaction.collect, Tx.bind_eq, Tx.eval_bind, hr, hrs, Tx.pure_eq, Tx.eval_ret]
    · intro k hk
      apply hexact
      rcases hk with ⟨hmem, hst⟩ | hk
      · rcases List.mem_cons.mp hmem with hd | hmem
        · exact .inr (hs.exact_reconciled _ _ _ (.inl ⟨hd, List.mem_singleton.mpr hst⟩))
        · exact .inl ⟨hmem, hst⟩
      · exact .inr (hs.exact_reconciled _ _ _ (.inr hk))

theorem eval_insertExcuse_ok {targets : List TargetInput} {u : Unit} :
    (insertExcuse e targets).eval s = .ok (u, s') ↔
      (∀ y ∈ s.excuses, y.id ≠ e.id) ∧ s' = s.addExcuse e targets := by
  unfold insertExcuse
  simp only [Tx.bind_eq, Tx.eval_bind, Tx.eval_lockRows, eval_ask]
  have hfree : s.excuse? e.id = none ↔ ∀ y ∈ s.excuses, y.id ≠ e.id := by
    unfold School.excuse?
    simp [List.find?_eq_none]
  rw [← hfree]
  by_cases h : s.excuse? e.id = none
  · simp [h, eq_comm]
  · simp [h]

theorem School.Keyed.mem_recordedDays (hs : s.Keyed) (student : ℕ) (dates : List Date) (d : Date) :
    d ∈ ((s.recordedAbsences student dates).map Prod.fst).dedup ↔
      d ∈ dates ∧ ∃ x ∈ s.sessions, x.attendanceDate = d ∧ x.status = .submitted ∧
        s.Absent x.id student := by
  unfold School.recordedAbsences School.marksOfStudentOn School.Absent
  simp only [List.mem_dedup, List.mem_map, List.mem_filter, hs.mem_submittedMarks,
    decide_eq_true_eq]
  constructor
  · rintro ⟨p, ⟨⟨m, x⟩, ⟨⟨⟨hm, hx, hid, hsub⟩, hst, hd⟩, hab⟩, rfl⟩, rfl⟩
    exact ⟨hd, x, hx, rfl, hsub, m, hm, hid.symm, hst, hab⟩
  · rintro ⟨hd, x, hx, rfl, hsub, m, hm, hms, hst, hab⟩
    exact ⟨_, ⟨(m, x), ⟨⟨⟨hm, hx, hms.symm, hsub⟩, hst, hd⟩, hab⟩, rfl⟩, rfl⟩

theorem createLocked_leaves (hs : s.Sound) {reconciledAt : Date → Instant} {today : Date}
    {newId student : ℕ} {targets : List TargetInput} {approveImmediately : Bool}
    (h : (createLocked now reconciledAt today newId student targets approveImmediately).eval s =
      .ok (e, s')) : s.Leaves s' [] := by
  unfold createLocked at h
  split_ifs at h with himm
  · simp only [Tx.bind_eq, Tx.eval_bind_ok] at h
    obtain ⟨stu, s₁, hstu, validated, s₂, hvalid, u, s₃, hover, u', s₄, hins, h⟩ := h
    obtain ⟨created, s₅, hcover, u'', s₆, href, h⟩ := h
    have h₁ := (lockStudent_readOnly _).eval_eq hstu
    have h₂ := (validateTargets_readOnly _ _ _ _).eval_eq hvalid
    have h₃ := (refuseOverlap_readOnly _ _).eval_eq hover
    subst h₁ h₂ h₃
    obtain ⟨hfree, rfl⟩ := eval_insertExcuse_ok.mp hins
    simp only [eval_checkReferences] at href
    cases href
    cases h
    have hsound := hs.addExcuse hfree validated
    unfold coverNewExcuse at hcover
    simp only [Tx.bind_eq, Tx.eval_bind_ok, eval_ask_ok] at hcover
    obtain ⟨days, s₇, ⟨rfl, rfl⟩, rs, s₈, hcollect, hcover⟩ := hcover
    cases hcover
    obtain ⟨rs', s', heval, hsound', hexact⟩ := collect_reconcile reconciledAt student
      (((s₃.addExcuse (newExcuse now newId student approveImmediately) validated).recordedAbsences
        student (validated.map fun t => t.attendanceDate)).map Prod.fst).dedup hsound
    rw [hcollect] at heval
    cases heval
    refine ⟨hsound', fun k hk => .inl (hexact k ?_)⟩
    by_cases hday : k.1 ∈ (((s₃.addExcuse (newExcuse now newId student approveImmediately)
        validated).recordedAbsences student (validated.map fun t => t.attendanceDate)).map
          Prod.fst).dedup ∧ k.2 = student
    · exact .inl hday
    · refine .inr (hk.addExcuse hs.toKeyed hfree ?_)
      intro _ hst ⟨t, ht, htd⟩ x hx hd hsub habs
      apply hday
      rw [hsound.mem_recordedDays]
      have hst' : student = k.2 := hst
      refine ⟨⟨List.mem_map.mpr ⟨t, ht, htd⟩, x, hx, hd, hsub, ?_⟩, hst'.symm⟩
      rw [hst']
      exact habs
  · simp only [Tx.bind_eq, Tx.eval_bind_ok] at h
    obtain ⟨validated, s₁, hvalid, u, s₂, hins, u', s₃, href, h⟩ := h
    have h₁ := (validateTargets_readOnly _ _ _ _).eval_eq hvalid
    subst h₁
    obtain ⟨hfree, rfl⟩ := eval_insertExcuse_ok.mp hins
    simp only [eval_checkReferences] at href
    cases href
    cases h
    refine ⟨hs.addExcuse hfree validated, fun k hk => .inl (hk.addExcuse hs.toKeyed hfree ?_)⟩
    intro happ
    unfold newExcuse at happ
    rw [if_neg himm] at happ
    cases happ


/-! ## Approval -/

theorem inScope_widenScope (scope : Dict Date (Option (List ℕ))) (t : AbsenceExcuseTarget)
    (d : Date) (period : ℕ) :
    inScope (widenScope scope t) d period = true ↔
      inScope scope d period = true ∨ (t.attendanceDate = d ∧ t.matchesPeriod period = true) := by
  unfold inScope widenScope AbsenceExcuseTarget.matchesPeriod
  by_cases hd : t.attendanceDate = d
  · subst hd
    cases hp : t.periodSequence with
    | none => simp
    | some p =>
      rcases hg : scope.get? t.attendanceDate with _ | _ | periods
      · simp [eq_comm]
      · simp
      · by_cases hmem : p ∈ periods
        · simp only [hmem, Option.getD_some, if_true, Dict.get?_insert, decide_eq_true_eq]
          constructor
          · exact .inl
          · rintro (h | ⟨-, h | h⟩)
            · exact h
            · cases h
            · exact Option.some.inj h ▸ hmem
        · simp [hmem, eq_comm (a := period)]
  · cases hp : t.periodSequence with
    | none => simp [hd]
    | some p => rcases hg : scope.get? t.attendanceDate with _ | _ | periods <;> simp [hd]

theorem inScope_targetScopeByDate (targets : List AbsenceExcuseTarget) (d : Date) (period : ℕ) :
    inScope (targetScopeByDate targets) d period = true ↔
      ∃ t ∈ targets, t.attendanceDate = d ∧ t.matchesPeriod period = true := by
  suffices hgen : ∀ scope, inScope (targets.foldl widenScope scope) d period = true ↔
      inScope scope d period = true ∨
        ∃ t ∈ targets, t.attendanceDate = d ∧ t.matchesPeriod period = true by
    have h := hgen []
    rw [show inScope [] d period = false from rfl] at h
    rw [Bool.false_eq_true, false_or] at h
    exact h
  induction targets with
  | nil => simp
  | cons t ts ih =>
    intro scope
    rw [List.foldl_cons, ih, inScope_widenScope]
    simp only [List.mem_cons, exists_eq_or_imp, or_assoc]

def School.InScope (s : School) (e : AbsenceExcuse) (p : AttendanceMark × AttendanceSession) :
    Prop :=
  p.1 ∈ s.marks ∧ p.2 ∈ s.sessions ∧ p.2.id = p.1.session ∧ p.2.status = .submitted ∧
    p.1.student = e.student ∧ ∃ t ∈ s.targets, t.excuse = e.id ∧
      t.attendanceDate = p.2.attendanceDate ∧ t.matchesPeriod p.2.periodSequence = true

def School.absentInScope (s : School) (e : AbsenceExcuse) :
    List (AttendanceMark × AttendanceSession) :=
  absencesInScope (targetScopeByDate (s.targetsOf e.id))
    (s.marksOfStudentOn e.student (sortedNat (targetScopeByDate (s.targetsOf e.id)).keys))

theorem mem_keys_of_inScope {scope : Dict Date (Option (List ℕ))} {d : Date} {period : ℕ}
    (h : inScope scope d period = true) : d ∈ sortedNat scope.keys := by
  unfold sortedNat
  rw [List.mem_insertionSort, Dict.mem_keys_iff]
  unfold inScope at h
  cases hg : scope.get? d with
  | none => simp [hg] at h
  | some v => exact ⟨v, rfl⟩

theorem School.Keyed.mem_absentInScope (hs : s.Keyed) (e : AbsenceExcuse)
    (p : AttendanceMark × AttendanceSession) : p ∈ s.absentInScope e ↔ s.InScope e p := by
  have htargets : (∃ t ∈ s.targetsOf e.id, t.attendanceDate = p.2.attendanceDate ∧
      t.matchesPeriod p.2.periodSequence = true) ↔ ∃ t ∈ s.targets, t.excuse = e.id ∧
        t.attendanceDate = p.2.attendanceDate ∧ t.matchesPeriod p.2.periodSequence = true := by
    unfold School.targetsOf
    simp only [List.mem_filter, decide_eq_true_eq, and_assoc]
  unfold School.absentInScope absencesInScope School.marksOfStudentOn School.InScope
  simp only [List.mem_filter, hs.mem_submittedMarks, decide_eq_true_eq, and_true]
  rw [inScope_targetScopeByDate, htargets]
  constructor
  · rintro ⟨⟨⟨hm, hx, hid, hsub⟩, hst, -⟩, ht⟩
    exact ⟨hm, hx, hid, hsub, hst, ht⟩
  · rintro ⟨hm, hx, hid, hsub, hst, ht⟩
    refine ⟨⟨⟨hm, hx, hid, hsub⟩, hst, ?_⟩, ht⟩
    exact mem_keys_of_inScope ((inScope_targetScopeByDate _ _ _).mpr (htargets.mpr ht))

def School.declaredDates (s : School) (e : AbsenceExcuse) : List Date :=
  sortedNat (targetScopeByDate (s.targetsOf e.id)).keys

def School.otherCoverage (s : School) (e : AbsenceExcuse) : List ℕ :=
  s.coveredByOther e (s.declaredDates e)

def School.planOf (s : School) (e : AbsenceExcuse) (days : List DayPreview) : CoveragePlan :=
  coveragePlanOf e (s.targetsOf e.id) (s.marksOfStudentOn e.student (s.declaredDates e))
    (s.otherCoverage e) days

theorem resolveCoveragePlan_plan {plan : CoveragePlan}
    (h : (resolveCoveragePlan e).eval s = .ok (plan, s')) :
    s'.core = s.core ∧ ∃ days, plan = s.planOf e days := by
  have hkeeps : (resolveCoveragePlan e).Keeps School.core :=
    resolveCoveragePlan_keeps (fun s c => rfl) e
  have hcore := hkeeps.eval h
  unfold resolveCoveragePlan at h
  simp only [Tx.bind_eq, Tx.eval_bind_ok, eval_ask_ok] at h
  obtain ⟨targets, s₁, ⟨rfl, rfl⟩, marks, s₂, ⟨rfl, rfl⟩, other, s₃, ⟨rfl, rfl⟩, h⟩ := h
  obtain ⟨days, s₄, hdays, h⟩ := h
  cases h
  exact ⟨hcore, days, rfl⟩

theorem resolveCoveragePlan_spec (hs : s.Keyed) {plan : CoveragePlan}
    (h : (resolveCoveragePlan e).eval s = .ok (plan, s')) :
    s'.core = s.core ∧ (plan.covered.map fun p => (p.1.session, p.1.student)).Nodup ∧
      (∀ p ∈ plan.covered, s.InScope e p) ∧
      ∀ p, s.InScope e p → p ∈ plan.covered ∨ p ∈ plan.alreadyExcused := by
  obtain ⟨hcore, days, rfl⟩ := resolveCoveragePlan_plan h
  refine ⟨hcore, ?_, ?_, ?_⟩
  · exact hs.nodup_submittedMarks.sublist (List.Sublist.map _
      (List.filter_sublist.trans (List.filter_sublist.trans List.filter_sublist)))
  · intro p hp
    exact (hs.mem_absentInScope e p).mp (List.mem_filter.mp hp).1
  · intro p hp
    have hmem := (hs.mem_absentInScope e p).mpr hp
    by_cases hother : p.1.session ∈ s.otherCoverage e
    · exact .inr (List.mem_filter.mpr ⟨hmem, by simpa using hother⟩)
    · exact .inl (List.mem_filter.mpr ⟨hmem, by simpa using hother⟩)

theorem School.Sound.leaves_approval (hs : s.Sound) (he : e ∈ s.excuses) (hid : e'.id = e.id)
    (hstu : e'.student = e.student) (hpending : e.status ≠ .approved)
    (happ : e'.status = .approved) {covered : List (AttendanceMark × AttendanceSession)}
    (hnodup : (covered.map fun p => (p.1.session, p.1.student)).Nodup)
    (hscope : ∀ p, p ∈ covered ↔ s.InScope e p)
    (hfree : ∀ n ∈ covered.map (NewCoverage.ofPlan e), s.coverageTaken n.key = false) :
    s.Leaves ((s.addCoverages (covered.map (NewCoverage.ofPlan e))).putExcuse e') [] := by
  have hkeys : ((covered.map (NewCoverage.ofPlan e)).map fun n => n.key).Nodup := by
    rw [List.map_map]
    have hsame : covered.map ((fun n : NewCoverage => n.key) ∘ NewCoverage.ofPlan e) =
        covered.map fun p => (p.1.session, p.1.student) := by
      apply List.map_congr_left
      intro p hp
      obtain ⟨-, -, -, -, hst, -⟩ := (hscope p).mp hp
      show (p.1.session, e.student) = (p.1.session, p.1.student)
      rw [hst]
    rw [hsame]
    exact hnodup
  have hadd := hs.toKeyed.addCoverages hkeys hfree
  have he' : e' ∈ ((s.addCoverages (covered.map (NewCoverage.ofPlan e))).putExcuse e').excuses :=
    (School.mem_putExcuse he hid).mpr (.inl rfl)
  refine ⟨⟨School.putExcuse_keyed hadd he hid, ?_⟩, ?_⟩
  · intro c hc
    rcases (School.active_addCoverages _ _ _).mp hc with hc | ⟨n, i, hi, rfl⟩
    · have hback : (s.putExcuse e').Backed c :=
        (hs.coverage_backed c hc).putExcuse he hid (hs.excuse_ne he hpending hc)
      exact ⟨hback.session, hback.excuse⟩
    · obtain ⟨p, hp, rfl⟩ := List.mem_map.mp (List.mem_of_getElem? hi)
      obtain ⟨-, hx, hxid, -, -, t, ht, hte, htd, htm⟩ := (hscope p).mp hp
      exact ⟨⟨p.2, hx, hxid, rfl, rfl⟩, e', he', hid, hstu, happ, t, ht, hte.trans hid.symm, htd,
        htm⟩
  · intro k hk
    refine .inl fun x hx hd => ?_
    have hcov : ((s.addCoverages (covered.map (NewCoverage.ofPlan e))).putExcuse e').Covered
        x.id k.2 ↔ s.Covered x.id k.2 ∨ ∃ n ∈ covered.map (NewCoverage.ofPlan e),
          n.attendanceSession = x.id ∧ n.student = k.2 := School.covered_addCoverages _ _ _ _
    rw [hcov, hk x hx hd]
    constructor
    · rintro (⟨hsub, habs, y, hy, hst, hyapp, ht⟩ | ⟨n, hn, hses, hst⟩)
      · refine ⟨hsub, habs, y, (School.mem_putExcuse he hid).mpr (.inr ⟨hy, ?_⟩), hst, hyapp, ht⟩
        intro hye
        exact hpending (hs.excuse_unique hy he hye ▸ hyapp)
      · obtain ⟨p, hp, rfl⟩ := List.mem_map.mp hn
        obtain ⟨hm, hpx, hpid, hsub, hpst, t, ht, hte, htd, htm⟩ := (hscope p).mp hp
        have hpx' : p.2 = x := hs.session_unique hpx hx (hpid.trans hses)
        rw [hpx'] at hsub htd htm
        exact ⟨hsub, ⟨p.1, hm, hses, hpst.trans hst, p.1.status.eq_absent⟩, e', he',
          hstu.trans hst, happ, t, ht, hte.trans hid.symm, htd, htm⟩
    · rintro ⟨hsub, ⟨m, hm, hms, hmst, hab⟩, y, hy, hst, hyapp, t, ht, hte, htd, htm⟩
      rcases (School.mem_putExcuse (s := s) he hid).mp hy with rfl | ⟨hy, -⟩
      · refine .inr ⟨_, List.mem_map_of_mem ((hscope (m, x)).mpr
          ⟨hm, hx, hms.symm, hsub, hmst.trans (hst.symm.trans hstu), t, ht, hte.trans hid, htd,
            htm⟩), hms, hstu.symm.trans hst⟩
      · exact .inl ⟨hsub, ⟨m, hm, hms, hmst, hab⟩, y, hy, hst, hyapp, t, ht, hte, htd, htm⟩

theorem School.InScope.of_core (hcore : s'.core = s.core) (e : AbsenceExcuse)
    (p : AttendanceMark × AttendanceSession) : s'.InScope e p ↔ s.InScope e p := by
  obtain ⟨h₁, h₂, -, h₄, -, -⟩ := School.core_fields hcore
  unfold School.InScope
  rw [h₁, h₂, h₄]

theorem eval_insertCoverages (new : List NewCoverage) :
    (insertCoverages new).eval s =
      if new.any fun n => s.coverageTaken n.key then .ok (false, s)
      else .ok (true, s.addCoverages new) := by
  unfold insertCoverages
  simp only [Tx.bind_eq, Tx.eval_bind, Tx.eval_lockRows, eval_ask]
  split_ifs <;> rfl

theorem eval_approveLocked_ok {previewHash : Digest PlanFingerprint} {plan : CoveragePlan}
    (h : (approveLocked now excuseId previewHash).eval s = .ok ((e', plan), s')) :
    ∃ e s₁, s.excuse? excuseId = some e ∧ e.status = .pending ∧
      (resolveCoveragePlan e).eval s = .ok (plan, s₁) ∧ previewHash = plan.previewHash ∧
      plan.alreadyExcused = [] ∧
      (∀ n ∈ plan.covered.map (NewCoverage.ofPlan e), s₁.coverageTaken n.key = false) ∧
      e' = { e with status := .approved, approvedAt := some now } ∧
      s' = (s₁.addCoverages (plan.covered.map (NewCoverage.ofPlan e))).putExcuse e' := by
  unfold approveLocked at h
  simp only [Tx.bind_eq, Tx.eval_bind_ok, eval_getExcuseForUpdate_ok] at h
  obtain ⟨e, s₁, ⟨he, rfl⟩, h⟩ := h
  split_ifs at h with hpending
  · simp at h
  simp only [Tx.eval_bind_ok, eval_orRaise_ok] at h
  obtain ⟨plan', s₂, hplan, u, s₃, ⟨hcheck, rfl⟩, inserted, s₄, hins, h⟩ := h
  unfold checkPlan at hcheck
  split_ifs at hcheck with hhash hnone
  rw [eval_insertCoverages] at hins
  split_ifs at hins with htaken
  · cases hins
    simp at h
  cases hins
  simp only [Bool.not_true, Bool.false_eq_true, if_false, Tx.eval_bind, Tx.eval_updateWhere,
    eval_checkReferences, Tx.pure_eq, Tx.eval_ret, Except.ok.injEq, Prod.mk.injEq] at h
  obtain ⟨⟨rfl, rfl⟩, rfl⟩ := h
  refine ⟨e, s₃, he, not_not.mp hpending, hplan, not_not.mp hhash, not_not.mp hnone, ?_, rfl, rfl⟩
  intro n hn
  simpa using fun hbad => htaken (List.any_eq_true.mpr ⟨n, hn, hbad⟩)

theorem approveLocked_leaves (hs : s.Sound) {previewHash : Digest PlanFingerprint}
    {plan : CoveragePlan}
    (h : (approveLocked now excuseId previewHash).eval s = .ok ((e, plan), s')) :
    s.Leaves s' [] := by
  obtain ⟨y, s₁, hy, hpending, hplan, -, hnone, hfree, rfl, rfl⟩ := eval_approveLocked_ok h
  obtain ⟨hcore, hnodup, hcovered, hall⟩ := resolveCoveragePlan_spec hs.toKeyed hplan
  have hleaves := hs.leaves_of_core hcore
  obtain ⟨hmem, -⟩ := (hs.excuse?_eq_some _ _).mp hy
  have hmem' : y ∈ s₁.excuses := (School.core_fields hcore).2.2.1 ▸ hmem
  have hnot : y.status ≠ .approved := by
    rw [hpending]
    decide
  refine hleaves.trans ?_
  refine hleaves.sound.leaves_approval hmem' (by rfl) (by rfl) hnot (by rfl) hnodup ?_ hfree
  intro p
  rw [School.InScope.of_core hcore]
  refine ⟨hcovered p, fun hp => (hall p hp).resolve_right ?_⟩
  simp [hnone]

theorem School.Sound.mem_activeCoveragesOf (hs : s.Sound) (excuse : ℕ)
    (c : AbsenceExcuseCoverage) :
    (∃ x, (c, x) ∈ s.activeCoveragesOf excuse) ↔ s.Active c ∧ c.excuse = excuse := by
  unfold School.activeCoveragesOf School.Active
  simp only [List.mem_filterMap, List.mem_filter, decide_eq_true_eq, Option.map_eq_some_iff,
    Prod.mk.injEq]
  constructor
  · rintro ⟨x, c', ⟨hc, hex, hact⟩, y, -, rfl, -⟩
    exact ⟨⟨hc, hact⟩, hex⟩
  · rintro ⟨⟨hc, hact⟩, hex⟩
    obtain ⟨⟨x, hx, hxid, -⟩, -⟩ := hs.coverage_backed c ⟨hc, hact⟩
    exact ⟨x, c, ⟨hc, hex, hact⟩, x, (hs.session?_eq_some _ _).mpr ⟨hx, hxid⟩, rfl, rfl⟩

theorem School.Sound.leaves_cancellation (hs : s.Sound) (he : e ∈ s.excuses) (hid : e'.id = e.id)
    (hnot : e'.status ≠ .approved) {ids : List ℕ}
    (hids : ∀ c, s.Active c → (c.id ∈ ids ↔ c.excuse = e.id)) {dates : List Date}
    (hdates : ∀ c, s.Active c → c.excuse = e.id → c.attendanceDate ∈ dates) (now : Instant)
    (reason : String) :
    s.Leaves ((s.voidCoverages ids now reason).putExcuse e')
      (dates.map fun d => (d, some [e.student])) := by
  have hactive : ∀ c, ((s.voidCoverages ids now reason).putExcuse e').Active c ↔
      s.Active c ∧ c.excuse ≠ e.id := by
    intro c
    have hvoid : ((s.voidCoverages ids now reason).putExcuse e').Active c ↔
        s.Active c ∧ c.id ∉ ids := s.active_voidCoverages ids now reason c
    rw [hvoid]
    constructor
    · rintro ⟨hact, hno⟩
      exact ⟨hact, fun hex => hno ((hids c hact).mpr hex)⟩
    · rintro ⟨hact, hne⟩
      exact ⟨hact, fun hmem => hne ((hids c hact).mp hmem)⟩
  refine ⟨⟨School.putExcuse_keyed (hs.toKeyed.voidCoverages ids now reason) he hid, ?_⟩, ?_⟩
  · intro c hc
    obtain ⟨hact, hne⟩ := (hactive c).mp hc
    have hback : (s.putExcuse e').Backed c := (hs.coverage_backed c hact).putExcuse he hid hne
    exact ⟨hback.session, hback.excuse⟩
  · intro k hk
    by_cases howed : k.1 ∈ dates ∧ k.2 = e.student
    · exact .inr ⟨_, List.mem_map_of_mem howed.1, rfl, List.mem_singleton.mpr howed.2⟩
    -- Elsewhere no coverage of the excuse stands.
    have hkept : ∀ x ∈ s.sessions, x.attendanceDate = k.1 → ∀ c, s.Active c →
        c.attendanceSession = x.id → c.student = k.2 → c.excuse ≠ e.id := by
      intro x hx hd c hact hses hst hex
      obtain ⟨-, ⟨y, hy, hyid, hyst, -⟩⟩ := hs.coverage_backed c hact
      have hye : y = e := hs.excuse_unique hy he (hyid.trans hex)
      subst hye
      have hcd := (hs.active_backed hx hact hses).1
      exact howed ⟨hd ▸ hcd ▸ hdates c hact hex, hst.symm.trans hyst.symm⟩
    refine .inl fun x hx hd => ?_
    have hcov : ((s.voidCoverages ids now reason).putExcuse e').Covered x.id k.2 ↔
        s.Covered x.id k.2 := by
      constructor
      · rintro ⟨c, hc, hses, hst⟩
        exact ⟨c, ((hactive c).mp hc).1, hses, hst⟩
      · rintro ⟨c, hc, hses, hst⟩
        exact ⟨c, (hactive c).mpr ⟨hc, hkept x hx hd c hc hses hst⟩, hses, hst⟩
    rw [hcov]
    constructor
    · intro hc
      obtain ⟨hsub, habs, -⟩ := (hk x hx hd).mp hc
      obtain ⟨c, hact, hses, hst⟩ := hc
      have hne := hkept x hx hd c hact hses hst
      obtain ⟨hcd, hcp, -⟩ := hs.active_backed hx hact hses
      obtain ⟨-, ⟨y, hy, hyid, hyst, happ, t, ht, hte, htd, htm⟩⟩ := hs.coverage_backed c hact
      refine ⟨hsub, habs, (School.excused_putExcuse he hid hnot _ _ _).mpr
        ⟨y, hy, ?_, hyst.trans hst, happ, t, ht, hte, htd.trans hcd, hcp ▸ htm⟩⟩
      exact fun hye => hne (hyid.symm.trans hye)
    · rintro ⟨hsub, habs, hexc⟩
      obtain ⟨y, hy, -, h⟩ := (School.excused_putExcuse (s := s.voidCoverages ids now reason)
        he hid hnot _ _ _).mp hexc
      exact (hk x hx hd).mpr ⟨hsub, habs, y, hy, h⟩

theorem cancelLocked_leaves (hs : s.Sound)
    {active : List (AbsenceExcuseCoverage × AttendanceSession)}
    (h : (cancelLocked now excuseId).eval s = .ok ((e, active), s')) :
    s.Leaves s' ((active.map fun p => p.1.attendanceDate).dedup.map
      fun d => (d, some [e.student])) := by
  unfold cancelLocked at h
  simp only [Tx.bind_eq, Tx.eval_bind_ok, eval_getExcuseForUpdate_ok] at h
  obtain ⟨y, s₁, ⟨hy, rfl⟩, h⟩ := h
  obtain ⟨hmem, -⟩ := (hs.excuse?_eq_some _ _).mp hy
  split_ifs at h with happ hcan
  · simp at h
  · simp at h
  · simp only [Tx.eval_bind, eval_ask, eval_voidWhere, Tx.eval_updateWhere, Tx.pure_eq,
      Tx.eval_ret, Except.ok.injEq, Prod.mk.injEq] at h
    obtain ⟨⟨rfl, rfl⟩, rfl⟩ := h
    refine hs.leaves_cancellation hmem (by rfl) (by simp) ?_ ?_ now _
    · intro c hact
      rw [List.mem_map]
      constructor
      · rintro ⟨c', hc', hid⟩
        rw [List.mem_filter, decide_eq_true_eq] at hc'
        have hsame : c' = c := Table.eq_of_key_eq hs.coverage_ids hc'.1 hact.1 hid
        exact hsame ▸ hc'.2.1
      · intro hex
        exact ⟨c, List.mem_filter.mpr ⟨hact.1, by simpa using ⟨hex, hact.2⟩⟩, rfl⟩
    · intro c hact hex
      obtain ⟨x, hx⟩ := (hs.mem_activeCoveragesOf y.id c).mpr ⟨hact, hex⟩
      rw [List.mem_dedup]
      exact List.mem_map_of_mem (f := fun p : AbsenceExcuseCoverage × AttendanceSession =>
        p.1.attendanceDate) hx

end SchoolPlatform
