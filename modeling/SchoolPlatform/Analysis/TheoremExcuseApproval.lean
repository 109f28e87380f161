import SchoolPlatform.Analysis.SectionRecounts

/-!
# An approval applies what was previewed

The preview and the approval resolve the same plan from the tables as each finds them
(`showPlan_spec`, `resolveCoveragePlan_plan`), and equal hashes are equal sorted lists: of the
declared targets, and of the absences in their scope with a note of those covered elsewhere. So
an approval that succeeds covers the previewed absences and no others, and one that raises has
rolled back (`approved_as_previewed`); the recalculation after the commit never raises
(`recalculateForSessions_answers`).
-/

namespace SchoolPlatform

open ReadCommitted

variable {s s' : School}

variable {e : AbsenceExcuse} {plan : CoveragePlan}

def School.dueAbsences (s : School) (e : AbsenceExcuse) :
    List (AttendanceMark × AttendanceSession) :=
  (s.absentInScope e).filter fun p => p.1.session ∉ s.otherCoverage e

def School.excusedElsewhere (s : School) (e : AbsenceExcuse) :
    List (AttendanceMark × AttendanceSession) :=
  (s.absentInScope e).filter fun p => p.1.session ∈ s.otherCoverage e

theorem showPlan_spec (h : (showPlan e).run s = (.ok plan, s')) :
    ∃ days, plan = s.planOf e days := by
  have hrun : (showPlan e).run s = ((showDays e (targetScopeByDate (s.targetsOf e.id))
      (s.marksOfStudentOn e.student (s.declaredDates e)) (s.declaredDates e)).bind
        fun days => .ret (s.planOf e days)).run s := rfl
  rw [hrun, Program.run_bind] at h
  split at h
  · rename_i days s₁ hdays
    cases h
    exact ⟨days, rfl⟩
  · cases h

theorem previewExcuse_spec {previewedId : ℕ} {preview : ExcusePreview}
    (h : (previewExcuse previewedId).run s = (.ok preview, s')) :
    ∃ e days, s.excuse? previewedId = some e ∧ e.status = .pending ∧
      preview = ExcusePreview.ofPlan e (s.planOf e days) := by
  have hfound : (ask fun s => s.excuse? previewedId : Operation _).Answers s
      (s.excuse? previewedId) := rfl
  unfold previewExcuse at h
  rw [Program.bind_eq, hfound.run_bind] at h
  cases he : s.excuse? previewedId with
  | none =>
    rw [he] at h
    cases h
  | some e =>
    simp only [he] at h
    split_ifs at h with hpending
    · cases h
    · rw [Program.bind_eq, Program.run_bind] at h
      split at h
      · rename_i plan s₁ hplan
        obtain ⟨days, rfl⟩ := showPlan_spec hplan
        cases h
        exact ⟨e, days, rfl, not_not.mp hpending, rfl⟩
      · cases h

def absenceKey (p : AttendanceMark × AttendanceSession) : Date × ℕ × ℕ × ℕ :=
  (p.2.attendanceDate, p.2.periodSequence, p.1.session, p.1.student)

def AbsenceExcuseTarget.declared (t : AbsenceExcuseTarget) : Date × Option ℕ :=
  (t.attendanceDate, t.periodSequence)

theorem School.student_of_absentInScope {p : AttendanceMark × AttendanceSession}
    (h : p ∈ s.absentInScope e) : p.1.student = e.student := by
  have hmark := (List.mem_filter.mp (List.mem_filter.mp h).1).2
  rw [decide_eq_true_eq] at hmark
  exact hmark.1

theorem map_absenceKey (e : AbsenceExcuse) (flag : Bool) :
    ((s.absentInScope e).filter fun p => decide (p.1.session ∈ s.otherCoverage e) = flag).map
        absenceKey =
      (((s.absentInScope e).map fun p => (p.2.attendanceDate, p.2.periodSequence, p.1.session,
        decide (p.1.session ∈ s.otherCoverage e))).filter fun x => x.2.2.2 = flag).map
          fun x => (x.1, x.2.1, x.2.2.1, e.student) := by
  rw [List.filter_map, List.map_map]
  apply List.map_congr_left
  intro p hp
  have hstudent := School.student_of_absentInScope (List.mem_filter.mp hp).1
  unfold absenceKey
  simp [hstudent]

theorem School.dueAbsences_eq (s : School) (e : AbsenceExcuse) : s.dueAbsences e =
    (s.absentInScope e).filter fun p => decide (p.1.session ∈ s.otherCoverage e) = false := by
  unfold School.dueAbsences
  simp

theorem School.excusedElsewhere_eq (s : School) (e : AbsenceExcuse) : s.excusedElsewhere e =
    (s.absentInScope e).filter fun p => decide (p.1.session ∈ s.otherCoverage e) = true := by
  unfold School.excusedElsewhere
  simp

/-- What two plans have in common: the excuse, its declared targets, the absences that are due,
and those that another excuse covers. -/
structure School.SamePlan (s₀ s₁ : School) (e₀ e₁ : AbsenceExcuse) : Prop where
  excuse : e₁.id = e₀.id
  targets : ((s₁.targetsOf e₁.id).map fun t => t.declared).Perm
    ((s₀.targetsOf e₀.id).map fun t => t.declared)
  due : ((s₁.dueAbsences e₁).map absenceKey).Perm ((s₀.dueAbsences e₀).map absenceKey)
  elsewhere :
    ((s₁.excusedElsewhere e₁).map absenceKey).Perm ((s₀.excusedElsewhere e₀).map absenceKey)

theorem perm_of_insertionSort_eq {α : Type} {r : α → α → Prop} [DecidableRel r] {l l' : List α}
    (h : l.insertionSort r = l'.insertionSort r) : l'.Perm l := by
  have hleft := List.perm_insertionSort r l
  rw [h] at hleft
  exact (List.perm_insertionSort r l').symm.trans hleft

theorem samePlan_of_hash {s₀ s₁ : School} {e₀ e₁ : AbsenceExcuse} {days₀ days₁ : List DayPreview}
    (hstudent : e₁.id = e₀.id → e₁.student = e₀.student)
    (h : (s₀.planOf e₀ days₀).previewHash = (s₁.planOf e₁ days₁).previewHash) :
    s₀.SamePlan s₁ e₀ e₁ := by
  have hprint := congrArg Digest.payload h
  have hid : e₀.id = e₁.id := (congrArg PlanFingerprint.excuse hprint :)
  have htargets := perm_of_insertionSort_eq (congrArg PlanFingerprint.targets hprint :)
  have habsences := perm_of_insertionSort_eq (congrArg PlanFingerprint.absences hprint :)
  have hside : ∀ flag : Bool,
      (((s₁.absentInScope e₁).filter fun p =>
        decide (p.1.session ∈ s₁.otherCoverage e₁) = flag).map absenceKey).Perm
      (((s₀.absentInScope e₀).filter fun p =>
        decide (p.1.session ∈ s₀.otherCoverage e₀) = flag).map absenceKey) := by
    intro flag
    rw [map_absenceKey, map_absenceKey, hstudent hid.symm]
    exact (habsences.filter _).map _
  refine ⟨hid.symm, htargets, ?_, ?_⟩
  · rw [School.dueAbsences_eq, School.dueAbsences_eq]
    exact hside false
  · rw [School.excusedElsewhere_eq, School.excusedElsewhere_eq]
    exact hside true

def AbsenceExcuseCoverage.absence (c : AbsenceExcuseCoverage) : Date × ℕ × ℕ × ℕ :=
  (c.attendanceDate, c.periodSequenceSnapshot, c.attendanceSession, c.student)

/-- What an approval leaves: the excuse approved, and the coverages that were there followed by
one active coverage of the excuse for each absence that was due. -/
structure School.Approved (s s' : School) (e : AbsenceExcuse) (now : Instant) : Prop where
  excuses : s'.excuses =
    (s.putExcuse { e with status := .approved, approvedAt := some now }).excuses
  coverages : ∃ added, s'.coverages = s.coverages ++ added ∧
    (∀ c ∈ added, c.status = .active ∧ c.excuse = e.id) ∧
    added.map AbsenceExcuseCoverage.absence = (s.dueAbsences e).map absenceKey

theorem School.Approved.of_core {t t' : School} {now : Instant} (h : s.Approved t e now)
    (hcore : t'.core = t.core) : s.Approved t' e now := by
  obtain ⟨-, -, hexcuses, -, hcoverages, -⟩ := School.core_fields hcore
  exact ⟨hexcuses.trans h.excuses, hcoverages.symm ▸ h.coverages⟩

theorem School.addCoverages_due (s₀ s : School) (e : AbsenceExcuse) : ∃ added,
    (s.addCoverages ((s₀.dueAbsences e).map (NewCoverage.ofPlan e))).coverages =
      s.coverages ++ added ∧
    (∀ c ∈ added, c.status = .active ∧ c.excuse = e.id) ∧
    added.map AbsenceExcuseCoverage.absence = (s₀.dueAbsences e).map absenceKey := by
  refine ⟨_, rfl, ?_, ?_⟩
  · intro c hc
    obtain ⟨⟨n, i⟩, hn, rfl⟩ := List.mem_map.mp hc
    obtain ⟨p, -, rfl⟩ := List.mem_map.mp (List.fst_mem_of_mem_zipIdx hn)
    exact ⟨rfl, rfl⟩
  · rw [List.map_map]
    have hfst : ∀ l : List NewCoverage, l.zipIdx.map (AbsenceExcuseCoverage.absence ∘
          fun p => p.1.insert (s.nextCoverageId + p.2)) =
        l.map fun n =>
          (n.attendanceDate, n.periodSequenceSnapshot, n.attendanceSession, n.student) := by
      intro l
      have hcomp : l.zipIdx.map ((fun n : NewCoverage =>
          (n.attendanceDate, n.periodSequenceSnapshot, n.attendanceSession, n.student)) ∘
            Prod.fst) = _ := (List.map_map).symm
      rw [List.zipIdx_map_fst] at hcomp
      exact hcomp
    rw [hfst, List.map_map]
    apply List.map_congr_left
    intro p hp
    have hstudent := School.student_of_absentInScope (List.mem_filter.mp hp).1
    show (p.2.attendanceDate, p.2.periodSequence, p.1.session, e.student) = absenceKey p
    rw [← hstudent]
    rfl

theorem approveLocked_spec {now : Instant} {excuseId : ℕ} {previewHash : Digest PlanFingerprint}
    {e' : AbsenceExcuse}
    (h : (approveLocked now excuseId previewHash).eval s = .ok ((e', plan), s')) :
    ∃ e days, s.excuse? excuseId = some e ∧ e.status = .pending ∧
      previewHash = (s.planOf e days).previewHash ∧ s.excusedElsewhere e = [] ∧
      s.Approved s' e now := by
  obtain ⟨e, s₁, he, hpending, hplan, hhash, hnone, -, rfl, rfl⟩ := eval_approveLocked_ok h
  obtain ⟨hcore, days, rfl⟩ := resolveCoveragePlan_plan hplan
  obtain ⟨-, -, hexcuses, -, hcoverages, -⟩ := School.core_fields hcore
  refine ⟨e, days, he, hpending, hhash, hnone, ?_, ?_⟩
  · show Table.put _ _ s₁.excuses = Table.put _ _ s.excuses
    rw [hexcuses]
  · obtain ⟨added, hadded, hrows⟩ := School.addCoverages_due s s₁ e
    exact ⟨added, hcoverages ▸ hadded, hrows⟩

theorem recalculate_answers (now : Instant) (sectionId : ℕ) (d : Date) (s : School) :
    ∃ n s', (recalculateDailyAttendanceForSection now sectionId d).run s = (.ok n, s') := by
  obtain ⟨context, s₁, hcontext, -⟩ := run_getOrCreateAttendanceDayContext s d
  unfold recalculateDailyAttendanceForSection readSectionCounters
  simp only [Program.bind_eq, Program.bind_assoc]
  rw [Program.run_bind, hcontext]
  dsimp only
  rw [(readCounters_run s₁ context sectionId d).run_bind]
  cases s₁.counters context sectionId d with
  | none => exact ⟨0, s₁, rfl⟩
  | some c =>
    obtain ⟨s', heval, -⟩ := writeSummaries_spec s₁ now c
    refine ⟨c.students.length, s', ?_⟩
    simp only [writeCounters, Program.transaction, Program.run, heval]

theorem recalculateForSessions_answers (now : ℕ → Date → Instant)
    (sessions : List AttendanceSession) (s : School) :
    ∃ s', (recalculateForSessions now sessions).run s = (.ok (), s') := by
  unfold recalculateForSessions
  induction (sessions.map fun x => (x.sectionId, x.attendanceDate)).dedup generalizing s with
  | nil => exact ⟨s, rfl⟩
  | cons p ps ih =>
    obtain ⟨n, s₁, hone⟩ := recalculate_answers (now p.1 p.2) p.1 p.2 s
    obtain ⟨s', hrest⟩ := ih s₁
    refine ⟨s', ?_⟩
    unfold Program.forEach
    simp only [Program.bind_eq, Program.bind_assoc]
    rw [Program.run_bind, hone]
    exact hrest

theorem School.Keyed.nodup_dueAbsences (hs : s.Keyed) (e : AbsenceExcuse) :
    ((s.dueAbsences e).map absenceKey).Nodup := by
  have hnodup : ((s.dueAbsences e).map fun p => (p.1.session, p.1.student)).Nodup :=
    hs.nodup_submittedMarks.sublist (List.Sublist.map _
      (List.filter_sublist.trans (List.filter_sublist.trans List.filter_sublist)))
  have hkey : (s.dueAbsences e).map (fun p => (p.1.session, p.1.student)) =
      ((s.dueAbsences e).map absenceKey).map fun x => (x.2.2.1, x.2.2.2) := by
    rw [List.map_map]
    rfl
  rw [hkey] at hnodup
  exact hnodup.of_map _

/-- **An approval applies exactly what was previewed.** Between the preview of an excuse and an
approval with its hash anything may have happened to sessions, marks, targets, excuses and
coverages, short of another student for the excuse. The approval succeeds only when the declared
targets, the absences that are due and those covered elsewhere are those of the preview; it then
adds one active coverage for each previewed absence that was due. When it raises, nothing has
changed. -/
theorem approved_as_previewed {s₀ s₀' s₁ : School} {previewedId : ℕ} {e₀ : AbsenceExcuse}
    {preview : ExcusePreview} (now : Instant) (recalculatedAt : ℕ → Date → Instant)
    (excuseId : ℕ) (hexcuse : s₀.excuse? previewedId = some e₀)
    (hpreview : (previewExcuse previewedId).run s₀ = (.ok preview, s₀'))
    (hkeyed : s₁.Keyed)
    (hstudent : ∀ e₁, s₁.excuse? e₀.id = some e₁ → e₁.student = e₀.student) :
    (∀ e s', (approveExcuse now recalculatedAt excuseId preview.previewHash).run s₁ =
        (.ok e, s') →
      ∃ e₁, s₁.excuse? excuseId = some e₁ ∧ e₁.status = .pending ∧ s₀.SamePlan s₁ e₀ e₁ ∧
        s₁.excusedElsewhere e₁ = [] ∧
        s'.excuses =
          (s₁.putExcuse { e₁ with status := .approved, approvedAt := some now }).excuses ∧
        ∃ added, s'.coverages = s₁.coverages ++ added ∧
          (∀ c ∈ added, c.status = .active ∧ c.excuse = e₀.id) ∧
          (added.map AbsenceExcuseCoverage.absence).Nodup ∧
          (added.map AbsenceExcuseCoverage.absence).Perm
            ((s₀.dueAbsences e₀).map absenceKey)) ∧
    ∀ f s', (approveExcuse now recalculatedAt excuseId preview.previewHash).run s₁ =
      (.error f, s') → s' = s₁ := by
  obtain ⟨e, days, he, -, rfl⟩ := previewExcuse_spec hpreview
  rw [hexcuse] at he
  cases he
  unfold approveExcuse
  rw [Program.bind_eq]
  cases hlocked : (approveLocked now excuseId (ExcusePreview.ofPlan e₀
      (s₀.planOf e₀ days)).previewHash).eval s₁ with
  | error f =>
    -- A transaction that raises has changed nothing.
    have hrun : ∀ k : AbsenceExcuse × CoveragePlan → Operation AbsenceExcuse,
        ((Program.transaction (approveLocked now excuseId (ExcusePreview.ofPlan e₀
          (s₀.planOf e₀ days)).previewHash)).bind k).run s₁ = (.error f, s₁) := by
      intro k
      simp only [Program.transaction, Program.bind, Program.run, hlocked]
    rw [hrun]
    constructor
    · intro e s' h
      cases h
    · intro g s' h
      cases h
      rfl
  | ok r =>
    obtain ⟨⟨e', plan⟩, t⟩ := r
    obtain ⟨e₁, days₁, he₁, hpending, hhash, hnone, happroved⟩ := approveLocked_spec hlocked
    obtain ⟨s'', hrecalc⟩ := recalculateForSessions_answers recalculatedAt
      (plan.covered.map Prod.snd) t
    have hcore : s''.core = t.core :=
      (congrArg (fun r => School.core r.2) hrecalc).symm.trans
        ((recalculateForSessions_keeps recalculatedAt _).run t)
    have hrun : ((Program.transaction (approveLocked now excuseId (ExcusePreview.ofPlan e₀
        (s₀.planOf e₀ days)).previewHash)).bind fun r => (recalculateForSessions recalculatedAt
          (r.2.covered.map Prod.snd)).bind fun _ => .ret r.1).run s₁ = (.ok e', s'') := by
      simp only [Program.transaction, Program.bind, Program.run, hlocked]
      rw [Program.run_bind, hrecalc]
      rfl
    have hsame : s₀.SamePlan s₁ e₀ e₁ := by
      have hequal : (s₀.planOf e₀ days).previewHash = (s₁.planOf e₁ days₁).previewHash := hhash
      refine samePlan_of_hash (fun hid => hstudent e₁ ?_) hequal
      rw [← hid, ((hkeyed.excuse?_eq_some _ _).mp he₁).2]
      exact he₁
    constructor
    · intro e s' h
      have hs' : s'' = s' := congrArg Prod.snd (hrun.symm.trans h)
      subst hs'
      obtain ⟨hexcuses, added, hadded, hrows, hkeys⟩ := happroved.of_core hcore
      refine ⟨e₁, he₁, hpending, hsame, hnone, hexcuses, added, hadded, ?_, ?_, ?_⟩
      · exact fun c hc => ⟨(hrows c hc).1, (hrows c hc).2.trans hsame.excuse⟩
      · rw [hkeys]
        exact hkeyed.nodup_dueAbsences e₁
      · rw [hkeys]
        exact hsame.due
    · intro g s' h
      have hbad : (Except.ok e' : Except Failure AbsenceExcuse) = .error g :=
        congrArg Prod.fst (hrun.symm.trans h)
      cases hbad

/-- Two sessions of a section on one day; the first student, whose excuse for the day is pending,
is absent in both. -/
def awayDay (marks : List AttendanceMark) (coverages : List AbsenceExcuseCoverage) : School where
  sessions := [⟨1, 1, 3, 14, 1, .submitted, ⟨[7, 8]⟩, some 1, some 0, 0⟩,
    ⟨2, 1, 3, 14, 2, .submitted, ⟨[7, 8]⟩, some 1, some 0, 0⟩]
  marks := ⟨1, 7, .absent⟩ :: ⟨2, 7, .absent⟩ :: marks
  excuses := [⟨1, 7, .pending, 5, none, none, none⟩, ⟨2, 8, .approved, 5, some 6, none, none⟩]
  targets := [⟨1, 14, none⟩, ⟨2, 14, some 1⟩]
  coverages := coverages
  nextCoverageId := 2

def awayDayLater : School := awayDay [⟨1, 8, .absent⟩] [⟨1, 2, 8, 1, 14, 1, .active, none, ""⟩]

theorem awayDayLater_keyed : awayDayLater.Keyed := .of_checked (by decide)

def awayDayPreview : ExcusePreview where
  excuseId := 1
  days := [⟨14, none, 0, 0, 0, 0, 0, 0, false⟩]
  coveredAbsentPeriods := 2
  alreadyExcusedPeriods := 0
  alreadyExcusedDates := []
  previewHash := ⟨⟨1, [(14, none)], [(14, 1, 1, false), (14, 2, 2, false)]⟩⟩

def awayDayShown : School :=
  (awayDay [] []).addDayContext ⟨14, none, emptyDaySchedule, "Asia/Riyadh"⟩

/-- The two previewed absences are covered, beside what was covered meanwhile. -/
theorem approved_as_previewed_awayDay : ∃ e s' e₁ added,
    (approveExcuse 9 (fun _ _ => 10) 1 awayDayPreview.previewHash).run awayDayLater =
      (.ok e, s') ∧
    (awayDay [] []).SamePlan awayDayLater ⟨1, 7, .pending, 5, none, none, none⟩ e₁ ∧
    s'.coverages = awayDayLater.coverages ++ added ∧ added.length = 2 := by
  have hpreview : (previewExcuse 1).run (awayDay [] []) = (.ok awayDayPreview, awayDayShown) := by
    decide +kernel
  have hstudent : ∀ e₁, awayDayLater.excuse? 1 = some e₁ → e₁.student = 7 := by
    intro e₁ he₁
    cases he₁
    rfl
  have happroved := (approved_as_previewed 9 (fun _ _ => 10) 1 rfl hpreview awayDayLater_keyed
    hstudent).1
  have hok : ∃ e s', (approveExcuse 9 (fun _ _ => 10) 1 awayDayPreview.previewHash).run
      awayDayLater = (.ok e, s') := ⟨_, _, rfl⟩
  obtain ⟨e, s', hrun⟩ := hok
  obtain ⟨e₁, -, -, hsame, -, -, added, hadded, -, -, hperm⟩ := happroved e s' hrun
  refine ⟨e, s', e₁, added, hrun, hsame, hadded, ?_⟩
  have hlength := hperm.length_eq
  rw [List.length_map] at hlength
  exact hlength

end SchoolPlatform
