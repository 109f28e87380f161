import SchoolPlatform.Analysis.SectionRecounts

/-!
# Daily counters add up

On tables with the keys of the database, the counts that a recalculation reads fit together before
`min` and `max` are taken (`School.Keyed.unclamped_countersIn`): a student has one mark a session, a
section one session a period, and an absence one active coverage. So the rows that it writes add up
(`daily_counters_add_up`).
-/

namespace SchoolPlatform

open ReadCommitted

/-- The counts of a row and its status are those of the submitted sessions of a section and date. -/
structure School.AddsUp (s : School) (sectionId : ℕ) (d : Date) (r : DailyAttendanceSummary) :
    Prop where
  place : r.sectionId = sectionId ∧ r.attendanceDate = d
  submitted : r.absentPeriods + r.presentPeriods = r.submittedPeriods
  absent : r.excusedAbsentPeriods + r.unexcusedAbsentPeriods = r.absentPeriods
  excused : r.excusedAbsentPeriods = (s.marks.filter fun m => m.student = r.student ∧
    m.status = .absent ∧ m.session ∈ (s.submittedSessions sectionId d).map (fun x => x.id) ∧
      s.coverageTaken (m.session, m.student)).length
  undetermined : r.absenceStatus = .undetermined ↔ s.submittedSessions sectionId d = []
  full : r.absenceStatus = .full ↔ s.submittedSessions sectionId d ≠ [] ∧
    ∀ x ∈ s.submittedSessions sectionId d, s.Absent x.id r.student
  none : r.absenceStatus = .none ↔ s.submittedSessions sectionId d ≠ [] ∧
    ∀ x ∈ s.submittedSessions sectionId d, ¬ s.Absent x.id r.student
  partly : r.absenceStatus = .partial_ ↔
    (∃ x ∈ s.submittedSessions sectionId d, s.Absent x.id r.student) ∧
      ∃ x ∈ s.submittedSessions sectionId d, ¬ s.Absent x.id r.student

/-- Neither `min` nor `max` changes a count of the student. -/
structure SectionCounters.Unclamped (c : SectionCounters) (student : ℕ) : Prop where
  excused : ((c.excusedByStudent.get? student).getD []).length ≤
    (c.absentByStudent.get? student).getD 0
  absent : (c.absentByStudent.get? student).getD 0 ≤ c.submitted

theorem classifyDailyAttendance_status (expected : ℕ) {submitted absent : ℕ}
    (h : absent ≤ submitted) :
    ((classifyDailyAttendance expected submitted absent).2 = .undetermined ↔ submitted = 0) ∧
      ((classifyDailyAttendance expected submitted absent).2 = .full ↔
        submitted ≠ 0 ∧ absent = submitted) ∧
      ((classifyDailyAttendance expected submitted absent).2 = .none ↔
        submitted ≠ 0 ∧ absent = 0) ∧
      ((classifyDailyAttendance expected submitted absent).2 = .partial_ ↔
        absent ≠ 0 ∧ absent ≠ submitted) := by
  unfold classifyDailyAttendance
  by_cases hnone : submitted = 0
  · have habsent : absent = 0 := by omega
    simp [hnone, habsent]
  by_cases hfull : submitted ≤ absent
  · have habsent : absent = submitted := by omega
    simp [hnone, habsent]
  by_cases hzero : absent = 0
  · have hne : ¬ (0 = submitted) := fun heq => hnone heq.symm
    simp [hnone, hzero, hne]
  · have hne : absent ≠ submitted := by omega
    simp [hnone, hfull, hzero, hne]

section Student

variable {s : School} (hs : s.Keyed) (sectionId : ℕ) (d : Date) (student : ℕ)
include hs

theorem School.Keyed.length_periods :
    ((s.submittedSessions sectionId d).map fun x => x.periodSequence).dedup.length =
      (s.submittedIds sectionId d).length := by
  rw [(hs.nodup_periods sectionId d).dedup, List.length_map]
  unfold School.submittedIds
  rw [List.length_map]

theorem School.Keyed.length_absencesOf_le :
    (s.absencesOf sectionId d student).length ≤ (s.submittedIds sectionId d).length := by
  rw [hs.length_absencesOf]
  exact List.length_filter_le _ _

theorem School.Keyed.absences_eq_submitted_iff :
    (s.absencesOf sectionId d student).length = (s.submittedIds sectionId d).length ↔
      ∀ x ∈ s.submittedSessions sectionId d, s.Absent x.id student := by
  rw [hs.length_absencesOf, List.length_filter_eq_length_iff]
  unfold School.submittedIds
  simp only [List.forall_mem_map, School.isAbsent_iff]

theorem School.Keyed.absences_eq_zero_iff :
    (s.absencesOf sectionId d student).length = 0 ↔
      ∀ x ∈ s.submittedSessions sectionId d, ¬ s.Absent x.id student := by
  rw [hs.length_absencesOf, List.length_eq_zero_iff, List.filter_eq_nil_iff]
  unfold School.submittedIds
  simp only [List.forall_mem_map, School.isAbsent_iff]

theorem School.Keyed.unclamped_countersIn (expected year : ℕ) :
    (s.countersIn expected sectionId d year).Unclamped student := by
  obtain ⟨habsent, hexcused⟩ := hs.counted sectionId d student expected year
  have hsubmitted : (s.countersIn expected sectionId d year).submitted =
      (s.submittedIds sectionId d).length := hs.length_periods sectionId d
  constructor
  · rw [habsent, hexcused]
    exact List.length_filter_le _ _
  · rw [habsent, hsubmitted]
    exact hs.length_absencesOf_le sectionId d student

theorem School.Keyed.addsUp_countersIn (expected year : ℕ) (now : Instant) :
    s.AddsUp sectionId d ((s.countersIn expected sectionId d year).row now student) := by
  have hright := hs.rowRight_countersIn sectionId d student expected year now
  have hperiods : (s.countersIn expected sectionId d year).submitted =
      (s.submittedIds sectionId d).length := hs.length_periods sectionId d
  have hplace : (s.countersIn expected sectionId d year).sectionId = sectionId ∧
      (s.countersIn expected sectionId d year).attendanceDate = d := ⟨rfl, rfl⟩
  generalize s.countersIn expected sectionId d year = c at hright hperiods hplace ⊢
  obtain ⟨hsection, hday⟩ := hplace
  have habsent : (c.row now student).absentPeriods = (s.absencesOf sectionId d student).length := by
    rw [hright.absent, ← hsection, ← hday]
    rfl
  have hsubmitted : (c.row now student).submittedPeriods = (s.submittedIds sectionId d).length :=
    hperiods
  have hle := hs.length_absencesOf_le sectionId d student
  have hcounts : (c.row now student).absentPeriods ≤ (c.row now student).submittedPeriods := by
    rw [habsent, hsubmitted]
    exact hle
  have hstatus := classifyDailyAttendance_status c.expected hcounts
  have hempty : (c.row now student).submittedPeriods = 0 ↔
      s.submittedSessions sectionId d = [] := by
    rw [hsubmitted, List.length_eq_zero_iff]
    unfold School.submittedIds
    exact List.map_eq_nil_iff
  have hall : (c.row now student).absentPeriods = (c.row now student).submittedPeriods ↔
      ∀ x ∈ s.submittedSessions sectionId d, s.Absent x.id student := by
    rw [habsent, hsubmitted]
    exact hs.absences_eq_submitted_iff sectionId d student
  have hzero : (c.row now student).absentPeriods = 0 ↔
      ∀ x ∈ s.submittedSessions sectionId d, ¬ s.Absent x.id student := by
    rw [habsent]
    exact hs.absences_eq_zero_iff sectionId d student
  have hpresent : (c.row now student).presentPeriods =
      (c.row now student).submittedPeriods - (c.row now student).absentPeriods := rfl
  have hunexcused : (c.row now student).unexcusedAbsentPeriods =
      (c.row now student).absentPeriods - (c.row now student).excusedAbsentPeriods := rfl
  have hexcused : (c.row now student).excusedAbsentPeriods ≤ (c.row now student).absentPeriods :=
    Nat.min_le_right _ _
  refine ⟨⟨hsection, hday⟩, ?_, ?_, ?_, ?_, ?_, ?_, ?_⟩
  · omega
  · omega
  · rw [hright.excused, ← hsection, ← hday]
    unfold School.absencesOf School.absentMarksIn School.marksIn
    simp only [List.filter_filter]
    congr 1
    apply List.filter_congr
    intro m _
    rw [Bool.eq_iff_iff]
    simp only [Bool.and_eq_true, decide_eq_true_eq]
    constructor
    · rintro ⟨hcovered, hstudent, habsent, hsession⟩
      exact ⟨hstudent, habsent, hsession, hcovered⟩
    · rintro ⟨hstudent, habsent, hsession, hcovered⟩
      exact ⟨hcovered, hstudent, habsent, hsession⟩
  · exact hstatus.1.trans hempty
  · exact hstatus.2.1.trans (and_congr (not_congr hempty) hall)
  · exact hstatus.2.2.1.trans (and_congr (not_congr hempty) hzero)
  · refine hstatus.2.2.2.trans (and_congr ((not_congr hzero).trans ?_) ((not_congr hall).trans ?_))
    · push Not
      rfl
    · push Not
      rfl

end Student

/-- **Daily counters add up.** On every school with the keys of the database a recalculation ends.
No count that it has read is changed by `min` or `max`, and each row of the section and date that it
writes adds up; every other row is one from before. -/
theorem daily_counters_add_up {s : School} (hs : s.Keyed) (now : Instant) (sectionId : ℕ)
    (d : Date) :
    ∃ counters s₁ n s', (readSectionCounters sectionId d).run s = (.ok counters, s₁) ∧
      (recalculateDailyAttendanceForSection now sectionId d).run s = (.ok n, s') ∧
      (∀ c ∈ counters, ∀ student, c.Unclamped student) ∧
      ∀ r ∈ s'.summaries, s.AddsUp sectionId d r ∨
        (r ∈ s.summaries ∧ ∀ c ∈ counters, ¬ (r.attendanceDate = d ∧ r.student ∈ c.students)) := by
  obtain ⟨context, s₁, hcontext, -, -, hbase, hrows⟩ := run_getOrCreateAttendanceDayContext s d
  have hread : (readSectionCounters sectionId d).run s =
      (.ok (s.counters context sectionId d), s₁) := by
    unfold readSectionCounters
    rw [Program.bind_eq, Program.run_bind, hcontext, ← School.counters_of_base hbase]
    exact (readCounters_run s₁ context sectionId d).run_eq
  have hrun : (recalculateDailyAttendanceForSection now sectionId d).run s =
      (writeCounters now (s.counters context sectionId d)).run s₁ := by
    unfold recalculateDailyAttendanceForSection
    rw [Program.bind_eq, Program.run_bind, hread]
  have hcounters : ∀ c ∈ s.counters context sectionId d,
      ∃ year, c = s.countersIn context.attendancePeriods.length sectionId d year := by
    intro c hc
    obtain ⟨year, -, rfl⟩ := Option.map_eq_some_iff.mp hc
    exact ⟨year, rfl⟩
  have hunclamped : ∀ c ∈ s.counters context sectionId d, ∀ student, c.Unclamped student := by
    intro c hc student
    obtain ⟨year, rfl⟩ := hcounters c hc
    exact hs.unclamped_countersIn sectionId d student _ year
  cases hc : s.counters context sectionId d with
  | none =>
    rw [hc] at hread hrun
    refine ⟨none, s₁, 0, s₁, hread, hrun, ?_, fun r hr => .inr ⟨?_, ?_⟩⟩
    · intro c h
      cases h
    · rw [← hrows]
      exact hr
    · intro c h
      cases h
  | some c =>
    obtain ⟨s', heval, hrewritten⟩ := writeSummaries_spec s₁ now c
    rw [hc] at hread hrun hunclamped
    refine ⟨some c, s₁, c.students.length, s', hread, ?_, hunclamped, fun r hr => ?_⟩
    · rw [hrun]
      simp only [writeCounters, Program.transaction, Program.run, heval]
    · obtain ⟨year, rfl⟩ := hcounters c hc
      rcases hrewritten.of_mem r hr with ⟨hold, hother⟩ | ⟨x, -, rfl⟩
      · rw [hrows] at hold
        refine .inr ⟨hold, fun c' h => ?_⟩
        cases h
        exact hother
      · exact .inl (hs.addsUp_countersIn sectionId d x _ year now)

/-- The first student is absent twice and excused once; the second, who is not enrolled, is absent
once. -/
def halfExcusedDay : School where
  registry := { enrollments := [⟨1, 7, 1, 1, 3, .active, 0, none⟩] }
  sessions := [⟨1, 1, 3, 14, 1, .submitted, ⟨[7]⟩, some 1, some 0, 0⟩,
    ⟨2, 1, 3, 14, 2, .submitted, ⟨[7]⟩, some 1, some 0, 0⟩]
  marks := [⟨1, 7, .absent⟩, ⟨2, 7, .absent⟩, ⟨2, 8, .absent⟩]
  excuses := [⟨1, 7, .approved, 5, some 6, none, none⟩]
  targets := [⟨1, 14, some 1⟩]
  coverages := [⟨1, 1, 7, 1, 14, 1, .active, none, ""⟩]
  nextCoverageId := 2

theorem halfExcusedDay_keyed : halfExcusedDay.Keyed := .of_checked (by decide)

/-- Two rows are written, and both add up. -/
theorem halfExcusedDay_adds_up : ∃ s',
    (recalculateDailyAttendanceForSection 20 3 14).run halfExcusedDay = (.ok 2, s') ∧
      s'.summaries.map (fun r => (r.student, r.absenceStatus)) = [(7, .full), (8, .partial_)] ∧
      ∀ r ∈ s'.summaries, halfExcusedDay.AddsUp 3 14 r := by
  obtain ⟨counters, s₁, n, s', -, hrun, -, hrows⟩ :=
    daily_counters_add_up halfExcusedDay_keyed 20 3 14
  have hend : (recalculateDailyAttendanceForSection 20 3 14).run halfExcusedDay =
      (.ok 2, ((recalculateDailyAttendanceForSection 20 3 14).run halfExcusedDay).2) := by
    decide +kernel
  have hstore : s' = ((recalculateDailyAttendanceForSection 20 3 14).run halfExcusedDay).2 :=
    (congrArg Prod.snd hrun).symm
  rw [← hstore] at hend
  refine ⟨s', hend, ?_, fun r hr => ?_⟩
  · rw [hstore]
    decide +kernel
  · rcases hrows r hr with hadds | ⟨hold, -⟩
    · exact hadds
    · exact absurd hold List.not_mem_nil

end SchoolPlatform
