import SchoolPlatform.Model.PeriodReport
import SchoolPlatform.Analysis.SectionRecounts
import SchoolPlatform.Library.FallibleFolds

/-!
# What the report of selected periods says

The report lists each student absent in all, or in any, of the selected periods of the complete
sections once, and every section in scope is complete, reported as incomplete, or inactive. What
it infers is presence: a listed student is shown present in each period without a mark. Under
`allAbsent` there is none, and under `anyAbsent` it is right exactly when every such student was on
the roster of a submitted session in each selected period (`period_report_iff`).
-/

namespace SchoolPlatform

open ReadCommitted

variable {s : School} {year : AcademicYear} {d : Date} {f : SectionFilter} {wanted : List ℕ}

/-- Keys and references of the tables that a report joins. -/
structure School.Catalogued (s : School) : Prop extends s.Keyed where
  section_ids : (s.registry.sections.map fun x => x.id).Nodup
  section_grade : ∀ x ∈ s.registry.sections, (s.grade? x.grade).isSome = true
  session_section : ∀ y ∈ s.sessions, ∃ x ∈ s.registry.sections, x.id = y.sectionId

/-- The section is in the scope of a report: admitted by its filter, and expected to be prepared or
with a session on the day. -/
def School.InReport (s : School) (year : AcademicYear) (d : Date) (f : SectionFilter)
    (x : Section) : Prop :=
  x ∈ s.registry.sections ∧ f.admits x = true ∧
    (x ∈ s.expectedSections year ∨ ∃ y ∈ s.sessions, y.attendanceDate = d ∧ y.sectionId = x.id)

def School.SubmittedAt (s : School) (d : Date) (x : Section) (p : ℕ) (y : AttendanceSession) :
    Prop :=
  y ∈ s.sessions ∧ y.attendanceDate = d ∧ y.sectionId = x.id ∧ y.periodSequence = p ∧
    y.status = .submitted

/-- The section is in scope and has submitted all selected periods. -/
def School.CompleteIn (s : School) (year : AcademicYear) (d : Date) (f : SectionFilter)
    (wanted : List ℕ) (x : Section) : Prop :=
  s.InReport year d f x ∧ ∀ p ∈ wanted, ∃ y, s.SubmittedAt d x p y

def School.AbsentIn (s : School) (year : AcademicYear) (d : Date) (f : SectionFilter)
    (wanted : List ℕ) (student p : ℕ) : Prop :=
  ∃ x y, s.CompleteIn year d f wanted x ∧ s.SubmittedAt d x p y ∧ s.Absent y.id student

/-- A submitted session of the period covered the student: it was on the roster that was
submitted, or has a mark. -/
def School.CoveredAt (s : School) (d : Date) (student p : ℕ) : Prop :=
  ∃ y ∈ s.sessions, y.attendanceDate = d ∧ y.periodSequence = p ∧ y.status = .submitted ∧
    (student ∈ y.rosterFingerprint.payload ∨
      ∃ m ∈ s.marks, m.session = y.id ∧ m.student = student)

theorem mem_expectedSections {x : Section} (h : x ∈ s.expectedSections year) :
    x ∈ s.registry.sections := (List.mem_filter.mp h).1

theorem mem_historicalSections {x : Section} {daySessions : List AttendanceSession} :
    x ∈ s.historicalSections daySessions ↔
      x ∈ s.registry.sections ∧ ∃ y ∈ daySessions, y.sectionId = x.id := by
  unfold School.historicalSections
  rw [List.mem_filter, decide_eq_true_eq, List.mem_map]

theorem School.Catalogued.mem_reportSections (hs : s.Catalogued) (x : Section) (g : Grade) :
    (x, g) ∈ reportSections s year f (s.sessions.filter fun y => y.attendanceDate = d) ↔
      s.InReport year d f x ∧ s.grade? x.grade = some g := by
  have hhistorical : ∀ x,
      x ∈ s.historicalSections (s.sessions.filter fun y => y.attendanceDate = d) ↔
      x ∈ s.registry.sections ∧ ∃ y ∈ s.sessions, y.attendanceDate = d ∧ y.sectionId = x.id := by
    intro x
    rw [mem_historicalSections]
    simp only [List.mem_filter, decide_eq_true_eq, and_assoc]
  unfold reportSections School.InReport
  dsimp only
  rw [List.mem_insertionSort, List.mem_filterMap]
  simp only [List.mem_append, List.mem_filter, hhistorical, decide_eq_true_eq]
  constructor
  · rintro ⟨x', hx, hg⟩
    obtain ⟨g', hg', heq⟩ := Option.map_eq_some_iff.mp hg
    cases heq
    refine ⟨?_, hg'⟩
    rcases hx with ⟨hx, hf⟩ | ⟨⟨⟨hx, hy⟩, hf⟩, -⟩
    · exact ⟨mem_expectedSections hx, hf, .inl hx⟩
    · exact ⟨hx, hf, .inr hy⟩
  · rintro ⟨⟨hx, hf, hwhy⟩, hg⟩
    refine ⟨x, ?_, by rw [hg]; rfl⟩
    by_cases hcurrent : x ∈ s.expectedSections year
    · exact .inl ⟨hcurrent, hf⟩
    refine .inr ⟨⟨⟨hx, hwhy.resolve_left hcurrent⟩, hf⟩, fun hid => ?_⟩
    -- The id of a section is its own.
    obtain ⟨z, hz, hzx⟩ := List.mem_map.mp hid
    have hz' := (List.mem_filter.mp hz).1
    have hsame : z = x := Table.eq_of_key_eq hs.section_ids (mem_expectedSections hz') hx hzx
    exact hcurrent (hsame ▸ hz')

theorem School.Catalogued.mem_reportSections_ids (hs : s.Catalogued) (i : ℕ) :
    i ∈ (reportSections s year f (s.sessions.filter fun y => y.attendanceDate = d)).map
        (fun y => y.1.id) ↔ ∃ x, s.InReport year d f x ∧ x.id = i := by
  rw [List.mem_map]
  constructor
  · rintro ⟨⟨x, g⟩, hx, rfl⟩
    exact ⟨x, ((hs.mem_reportSections x g).mp hx).1, rfl⟩
  · rintro ⟨x, hx, rfl⟩
    obtain ⟨g, hg⟩ := Option.isSome_iff_exists.mp (hs.section_grade x hx.1)
    exact ⟨(x, g), (hs.mem_reportSections x g).mpr ⟨hx, hg⟩, rfl⟩

theorem School.Catalogued.mem_scopeSessions (hs : s.Catalogued) (y : AttendanceSession) :
    y ∈ (reportScope s year d f wanted).sessions ↔ y ∈ s.sessions ∧ y.attendanceDate = d ∧
      (∃ x, s.InReport year d f x ∧ x.id = y.sectionId) ∧ y.periodSequence ∈ wanted := by
  unfold reportScope
  dsimp only
  simp only [List.mem_filter, decide_eq_true_eq, hs.mem_reportSections_ids, and_assoc]

theorem mem_completeIds (hne : wanted ≠ []) {sessions : List AttendanceSession} {i : ℕ} :
    i ∈ completeIds wanted sessions ↔ ∀ p ∈ wanted, ∃ y ∈ sessions, y.status = .submitted ∧
      y.sectionId = i ∧ y.periodSequence = p := by
  unfold completeIds periodsBySection
  simp only [List.mem_map, List.mem_filter, List.all_eq_true, decide_eq_true_eq]
  constructor
  · rintro ⟨-, ⟨⟨⟨j, group⟩, hgroup, rfl⟩, hall⟩, rfl⟩ p hp
    obtain ⟨y, hy, hyp⟩ := List.mem_map.mp (hall p hp)
    rw [((Dict.mem_groupBy _ _ _ _).mp hgroup).2, List.mem_filter, List.mem_filter] at hy
    exact ⟨y, hy.1.1, of_decide_eq_true hy.1.2, of_decide_eq_true hy.2, hyp⟩
  · intro h
    have hsub : ∀ y ∈ sessions, y.status = .submitted → y.sectionId = i →
        y ∈ (sessions.filter fun x => x.status = .submitted).filter fun x => x.sectionId = i := by
      intro y hy hstatus hi
      simp [hy, hstatus, hi]
    obtain ⟨p₀, hp₀⟩ := List.exists_mem_of_ne_nil _ hne
    obtain ⟨y₀, hy₀, hstatus₀, hi₀, -⟩ := h p₀ hp₀
    refine ⟨(i, _), ⟨⟨(i, _), (Dict.mem_groupBy _ _ _ _).mpr
      ⟨List.ne_nil_of_mem (hsub y₀ hy₀ hstatus₀ hi₀), rfl⟩, rfl⟩, ?_⟩, rfl⟩
    intro p hp
    obtain ⟨y, hy, hstatus, hi, hyp⟩ := h p hp
    exact List.mem_map.mpr ⟨y, hsub y hy hstatus hi, hyp⟩

theorem nodup_completeIds (wanted : List ℕ) (sessions : List AttendanceSession) :
    (completeIds wanted sessions).Nodup := by
  have hkeys := Dict.nodup_keys_groupBy (fun x : AttendanceSession => x.sectionId)
    (sessions.filter fun x => x.status = .submitted)
  unfold completeIds periodsBySection
  refine List.Nodup.sublist (List.Sublist.map _ List.filter_sublist) ?_
  rw [List.map_map]
  exact hkeys

theorem School.Catalogued.mem_completeIds (hs : s.Catalogued) (hne : wanted ≠ []) (i : ℕ) :
    i ∈ completeIds wanted (reportScope s year d f wanted).sessions ↔
      ∃ x, s.CompleteIn year d f wanted x ∧ x.id = i := by
  rw [SchoolPlatform.mem_completeIds hne]
  simp only [hs.mem_scopeSessions]
  constructor
  · intro h
    obtain ⟨p₀, hp₀⟩ := List.exists_mem_of_ne_nil _ hne
    obtain ⟨y₀, ⟨-, -, ⟨x, hx, hxy⟩, -⟩, -, hi₀, -⟩ := h p₀ hp₀
    refine ⟨x, ⟨hx, fun p hp => ?_⟩, hxy.trans hi₀⟩
    obtain ⟨y, ⟨hy, hd, -, -⟩, hstatus, hi, hyp⟩ := h p hp
    exact ⟨y, hy, hd, hi.trans (hxy.trans hi₀).symm, hyp, hstatus⟩
  · rintro ⟨x, ⟨hx, hall⟩, rfl⟩ p hp
    obtain ⟨y, hy, hd, hi, hyp, hstatus⟩ := hall p hp
    exact ⟨y, ⟨hy, hd, ⟨x, hx, hi.symm⟩, hyp.symm ▸ hp⟩, hstatus, hi, hyp⟩

theorem School.Catalogued.mem_completeSessionIds (hs : s.Catalogued) (hne : wanted ≠ [])
    {y : AttendanceSession} (hy : y ∈ s.sessions) :
    y.id ∈ (reportScope s year d f wanted).completeSessionIds ↔ y.periodSequence ∈ wanted ∧
      ∃ x, s.CompleteIn year d f wanted x ∧ s.SubmittedAt d x y.periodSequence y := by
  unfold ReportScope.completeSessionIds
  simp only [List.mem_map, List.mem_filter, decide_eq_true_eq, hs.mem_scopeSessions]
  have hwanted : (reportScope s year d f wanted).wanted = wanted := rfl
  rw [hwanted]
  constructor
  · rintro ⟨z, ⟨⟨hz, hd, -, hp⟩, hcomplete, hstatus⟩, hid⟩
    have hsame : z = y := hs.session_unique hz hy hid
    subst hsame
    obtain ⟨x, hx, hxid⟩ := (hs.mem_completeIds hne _).mp hcomplete
    exact ⟨hp, x, hx, hz, hd, hxid.symm, rfl, hstatus⟩
  · rintro ⟨hp, x, hx, -, hd, hi, -, hstatus⟩
    exact ⟨y, ⟨⟨hy, hd, ⟨x, hx.1, hi.symm⟩, hp⟩, (hs.mem_completeIds hne _).mpr ⟨x, hx, hi.symm⟩,
      hstatus⟩, rfl⟩

theorem School.Catalogued.mem_completeMarks (hs : s.Catalogued) (hne : wanted ≠ [])
    (m : AttendanceMark) (y : AttendanceSession) :
    (m, y) ∈ s.marksOfSessions (reportScope s year d f wanted).completeSessionIds ↔
      m ∈ s.marks ∧ y.id = m.session ∧ y.periodSequence ∈ wanted ∧
        ∃ x, s.CompleteIn year d f wanted x ∧ s.SubmittedAt d x y.periodSequence y := by
  unfold School.marksOfSessions
  simp only [List.mem_filterMap, List.mem_filter, decide_eq_true_eq, Option.map_eq_some_iff,
    Prod.mk.injEq]
  constructor
  · rintro ⟨m', ⟨hm, hids⟩, y', hy', rfl, rfl⟩
    obtain ⟨hy, hid⟩ := (hs.session?_eq_some _ _).mp hy'
    rw [← hid] at hids
    exact ⟨hm, hid, (hs.mem_completeSessionIds hne hy).mp hids⟩
  · rintro ⟨hm, hid, hp, x, hx, hsub⟩
    have hids := (hs.mem_completeSessionIds hne hsub.1).mpr ⟨hp, x, hx, hsub⟩
    exact ⟨m, ⟨hm, hid ▸ hids⟩, y, (hs.session?_eq_some _ _).mpr ⟨hsub.1, hid⟩, rfl, rfl⟩

theorem School.Catalogued.absentIn_iff (hs : s.Catalogued) (hne : wanted ≠ []) {student p : ℕ}
    (hp : p ∈ wanted) : s.AbsentIn year d f wanted student p ↔
      ∃ a ∈ s.marksOfSessions (reportScope s year d f wanted).completeSessionIds,
        a.1.student = student ∧ a.2.periodSequence = p := by
  constructor
  · rintro ⟨x, y, hx, hsub, m, hm, hid, hstudent, -⟩
    have hperiod := hsub.2.2.2.1
    exact ⟨(m, y), (hs.mem_completeMarks hne m y).mpr
      ⟨hm, hid.symm, hperiod.symm ▸ hp, x, hx, hperiod.symm ▸ hsub⟩, hstudent, hperiod⟩
  · rintro ⟨⟨m, y⟩, ha, hstudent, rfl⟩
    obtain ⟨hm, hid, -, x, hx, hsub⟩ := (hs.mem_completeMarks hne m y).mp ha
    exact ⟨x, y, hx, hsub, m, hm, hid.symm, hstudent, m.status.eq_absent⟩

/-! ## Students of a report -/

section Matched

variable {absences : List (AttendanceMark × AttendanceSession)} {student : ℕ}

theorem forall_mem_of_length_dedup (hnodup : wanted.Nodup) {periods : List ℕ}
    (hsub : ∀ p ∈ periods, p ∈ wanted) :
    periods.dedup.length = wanted.length ↔ ∀ p ∈ wanted, p ∈ periods := by
  have hsubset : periods.dedup ⊆ wanted := fun p hp => hsub p (List.mem_dedup.mp hp)
  constructor
  · intro hlength p hp
    have hperm := (List.subperm_of_subset (List.nodup_dedup _) hsubset).perm_of_length_le
      (Nat.le_of_eq hlength.symm)
    exact List.mem_dedup.mp (hperm.mem_iff.mpr hp)
  · intro h
    have hperm := (List.perm_ext_iff_of_nodup (List.nodup_dedup periods) hnodup).mpr fun p =>
      ⟨fun hp => hsubset hp, fun hp => List.mem_dedup.mpr (h p hp)⟩
    exact hperm.length_eq

theorem mem_matchedIds_all (hne : wanted ≠ []) (hnodup : wanted.Nodup)
    (hsub : ∀ a ∈ absences, a.2.periodSequence ∈ wanted) :
    student ∈ matchedIds wanted .allAbsent absences ↔
      ∀ p ∈ wanted, ∃ a ∈ absences, a.1.student = student ∧ a.2.periodSequence = p := by
  unfold matchedIds
  simp only [List.mem_map, List.mem_filter, decide_eq_true_eq]
  have hgroup : ∀ group : List (AttendanceMark × AttendanceSession),
      group = absences.filter (fun a => a.1.student = student) →
      ((group.map fun a => a.2.periodSequence).dedup.length = wanted.length ↔
        ∀ p ∈ wanted, ∃ a ∈ absences, a.1.student = student ∧ a.2.periodSequence = p) := by
    rintro group rfl
    rw [forall_mem_of_length_dedup hnodup]
    · simp only [List.mem_map, List.mem_filter, decide_eq_true_eq, and_assoc]
    · intro p hp
      obtain ⟨a, ha, rfl⟩ := List.mem_map.mp hp
      exact hsub a (List.mem_filter.mp ha).1
  constructor
  · rintro ⟨-, ⟨⟨⟨i, group⟩, hmem, rfl⟩, hlength⟩, rfl⟩
    exact (hgroup group ((Dict.mem_groupBy _ _ _ _).mp hmem).2).mp hlength
  · intro h
    obtain ⟨p₀, hp₀⟩ := List.exists_mem_of_ne_nil _ hne
    obtain ⟨a, ha, hstudent, -⟩ := h p₀ hp₀
    have hmem : a ∈ absences.filter fun a => a.1.student = student := by simp [ha, hstudent]
    exact ⟨(student, _), ⟨⟨(student, _), (Dict.mem_groupBy _ _ _ _).mpr
      ⟨List.ne_nil_of_mem hmem, rfl⟩, rfl⟩, (hgroup _ rfl).mpr h⟩, rfl⟩

theorem mem_matchedIds_any : student ∈ matchedIds wanted .anyAbsent absences ↔
    ∃ a ∈ absences, a.1.student = student := by
  unfold matchedIds
  dsimp only
  rw [List.map_map]
  exact Dict.mem_keys_groupBy _ _ _

theorem nodup_matchedIds (periodMatch : PeriodMatch) :
    (matchedIds wanted periodMatch absences).Nodup := by
  have hkeys := Dict.nodup_keys_groupBy
    (fun a : AttendanceMark × AttendanceSession => a.1.student) absences
  have hmap : ∀ l : List (ℕ × List (AttendanceMark × AttendanceSession)),
      (l.map fun g => (g.1, (g.2.map fun a => a.2.periodSequence).dedup.length)).map Prod.fst =
        l.map Prod.fst := fun l => List.map_map
  unfold matchedIds
  cases periodMatch with
  | allAbsent =>
    refine List.Nodup.sublist (List.Sublist.map _ List.filter_sublist) ?_
    rw [hmap]
    exact hkeys
  | anyAbsent =>
    dsimp only
    rw [hmap]
    exact hkeys

end Matched

theorem periodStatusOf_present {marks : List (AttendanceMark × AttendanceSession)} {student p : ℕ} :
    periodStatusOf marks student p = .present ↔
      ∀ a ∈ marks, a.1.student = student → a.2.periodSequence ≠ p := by
  have hnil : (marks.filter fun a => a.1.student = student ∧ a.2.periodSequence = p) = [] ↔
      ∀ a ∈ marks, a.1.student = student → a.2.periodSequence ≠ p := by
    simp [List.filter_eq_nil_iff]
  rw [← hnil]
  unfold periodStatusOf
  constructor
  · intro h
    split at h
    · rename_i a _
      cases hstatus : a.1.status
      rw [hstatus] at h
      cases h
    · rename_i hlast
      exact List.getLast?_eq_none_iff.mp hlast
  · intro h
    rw [h]
    rfl

section Rows

variable {format : ZoneFormat} {r : AttendanceRecords} {periodMatch : PeriodMatch}

def ReportScope.completeMarks (c : ReportScope) (s : School) :
    List (AttendanceMark × AttendanceSession) := s.marksOfSessions c.completeSessionIds

def ReportScope.matched (c : ReportScope) (s : School) (periodMatch : PeriodMatch) : List ℕ :=
  matchedIds c.wanted periodMatch ((c.completeMarks s).filter fun p => p.1.status = .absent)

theorem filter_absent (l : List (AttendanceMark × AttendanceSession)) :
    (l.filter fun p => p.1.status = .absent) = l := by
  rw [List.filter_eq_self]
  intro p hp
  simp [p.1.status.eq_absent]

theorem mem_reportStudents {c : ReportScope} {row : ReportStudent}
    (h : row ∈ reportStudents format r d periodMatch c) :
    row.studentId ∈ c.matched r.school periodMatch ∧
      row.periodStatuses = c.wanted.map fun p =>
        (p, periodStatusOf (c.completeMarks r.school) row.studentId p) := by
  unfold reportStudents at h
  obtain ⟨⟨key, row'⟩, hrow, rfl⟩ := List.mem_map.mp h
  rw [List.mem_insertionSort, List.mem_filterMap] at hrow
  obtain ⟨student, hmatched, hrow⟩ := hrow
  unfold matchedStudent at hrow
  obtain ⟨names, -, heq⟩ := Option.map_eq_some_iff.mp hrow
  cases heq
  refine ⟨hmatched, List.map_congr_left fun p _ => ?_⟩
  -- The marks of other students do not count.
  have hfilter : ∀ l : List (AttendanceMark × AttendanceSession),
      ((l.filter fun a => a.1.student ∈ c.matched r.school periodMatch).filter fun a =>
        a.1.student = student ∧ a.2.periodSequence = p) =
      l.filter fun a => a.1.student = student ∧ a.2.periodSequence = p := by
    intro l
    rw [List.filter_filter]
    apply List.filter_congr
    intro a _
    by_cases ha : a.1.student = student
    · simp only [ha, true_and]
      have hmem : student ∈ c.matched r.school periodMatch := hmatched
      simp [hmem]
    · simp [ha]
  have hshown : periodStatusOf ((r.school.marksOfSessions c.completeSessionIds).filter fun a =>
      a.1.student ∈ c.matched r.school periodMatch) student p =
        periodStatusOf (c.completeMarks r.school) student p := by
    unfold periodStatusOf
    rw [hfilter]
    rfl
  exact Prod.ext rfl hshown

theorem School.Catalogued.reportStudents_ids (hs : r.school.Catalogued) (hne : wanted ≠ []) :
    ((reportStudents format r d periodMatch (reportScope r.school year d f wanted)).map
        fun row => row.studentId).Perm
      ((reportScope r.school year d f wanted).matched r.school periodMatch) := by
  let c := reportScope r.school year d f wanted
  let marks := (r.school.marksOfSessions c.completeSessionIds).filter fun a =>
    a.1.student ∈ c.matched r.school periodMatch
  have hrow : ∀ student ∈ c.matched r.school periodMatch, ∃ row,
      matchedStudent format r d c.wanted marks student = some row ∧ row.2.studentId = student := by
    intro student hstudent
    have hmark : ∃ a ∈ c.completeMarks r.school, a.1.student = student := by
      have hmatched := hstudent
      unfold ReportScope.matched at hmatched
      rw [filter_absent] at hmatched
      cases periodMatch with
      | anyAbsent => exact mem_matchedIds_any.mp hmatched
      | allAbsent =>
        unfold matchedIds at hmatched
        obtain ⟨g, hg, rfl⟩ := List.mem_map.mp hmatched
        obtain ⟨g', hg', rfl⟩ := List.mem_map.mp (List.mem_filter.mp hg).1
        exact (Dict.mem_keys_groupBy _ _ _).mp (List.mem_map_of_mem (f := Prod.fst) hg')
    obtain ⟨a, ha, hastudent⟩ := hmark
    have hfind : ∃ a, marks.find? (fun p => p.1.student = student) = some a := by
      rw [← Option.isSome_iff_exists, List.find?_isSome]
      refine ⟨a, List.mem_filter.mpr ⟨ha, ?_⟩, by simpa using hastudent⟩
      rw [hastudent, decide_eq_true_eq]
      exact hstudent
    obtain ⟨⟨m, y⟩, hfound⟩ := hfind
    have hmem := (List.mem_filter.mp (List.mem_of_find?_eq_some hfound)).1
    obtain ⟨-, -, -, x, -, hsub⟩ := (hs.mem_completeMarks hne m y).mp hmem
    obtain ⟨z, hz, hzy⟩ := hs.session_section y hsub.1
    have hsection : r.school.section? y.sectionId = some z :=
      (Table.find?_eq_some_iff hs.section_ids _ _).mpr ⟨hz, hzy⟩
    obtain ⟨g, hg⟩ := Option.isSome_iff_exists.mp (hs.section_grade z hz)
    unfold matchedStudent
    rw [hfound]
    unfold School.sectionNames
    simp only [Option.bind_some, hsection, hg, Option.map_some]
    exact ⟨_, rfl, rfl⟩
  have hmap : ∀ l : List ℕ, (∀ student ∈ l, student ∈ c.matched r.school periodMatch) →
      (l.filterMap (matchedStudent format r d c.wanted marks)).map (fun row => row.2.studentId) =
        l := by
    intro l hl
    induction l with
    | nil => rfl
    | cons student l ih =>
      obtain ⟨row, hsome, hid⟩ := hrow student (hl student List.mem_cons_self)
      rw [List.filterMap_cons_some hsome, List.map_cons, hid,
        ih fun x hx => hl x (List.mem_cons_of_mem _ hx)]
  have hsorted := (List.perm_insertionSort (fun a b => studentKeyLe a.1 b.1 = true)
    ((c.matched r.school periodMatch).filterMap
      (matchedStudent format r d c.wanted marks))).map fun row => row.2.studentId
  rw [hmap _ fun _ h => h] at hsorted
  unfold reportStudents
  rw [List.map_map]
  exact hsorted

end Rows

section Pages

variable {α : Type} {items : List α} {size : ℕ}

theorem mem_pageOf {x : α} {page : ℕ} (hpage : 0 < page) :
    x ∈ pageOf items page size ↔
      ∃ i, (page - 1) * size ≤ i ∧ i < page * size ∧ items[i]? = some x := by
  have hnext : page * size = (page - 1) * size + size := by
    rw [← Nat.succ_mul]
    congr 1
    omega
  unfold pageOf
  rw [List.mem_iff_getElem?, hnext]
  constructor
  · rintro ⟨i, hi⟩
    rw [List.getElem?_take] at hi
    split_ifs at hi with hlt
    rw [List.getElem?_drop] at hi
    exact ⟨_, by omega, by omega, hi⟩
  · rintro ⟨i, hle, hlt, hi⟩
    refine ⟨i - (page - 1) * size, ?_⟩
    rw [List.getElem?_take, if_pos (by omega), List.getElem?_drop]
    rw [Nat.add_sub_cancel' hle]
    exact hi

theorem exists_mem_pageOf (hsize : 0 < size) {x : α} (hx : x ∈ items) :
    ∃ page, 0 < page ∧ x ∈ pageOf items page size := by
  obtain ⟨i, hi⟩ := List.mem_iff_getElem?.mp hx
  have hdiv := Nat.div_add_mod i size
  have hmod := Nat.mod_lt i hsize
  have hcomm : size * (i / size) = (i / size) * size := Nat.mul_comm _ _
  refine ⟨i / size + 1, Nat.succ_pos _, (mem_pageOf (Nat.succ_pos _)).mpr ⟨i, ?_, ?_, hi⟩⟩
  · rw [Nat.succ_sub_one]
    omega
  · rw [Nat.succ_mul]
    omega

theorem page_unique {key : α → ℕ} (hnodup : (items.map key).Nodup) {x y : α} {page page' : ℕ}
    (hpage : 0 < page) (hpage' : 0 < page') (hx : x ∈ pageOf items page size)
    (hy : y ∈ pageOf items page' size) (hkey : key x = key y) : page = page' := by
  obtain ⟨i, hle, hlt, hi⟩ := (mem_pageOf hpage).mp hx
  obtain ⟨j, hle', hlt', hj⟩ := (mem_pageOf hpage').mp hy
  have hi' : (items.map key)[i]? = some (key x) := by rw [List.getElem?_map, hi]; rfl
  have hj' : (items.map key)[j]? = some (key x) := by rw [List.getElem?_map, hj, hkey]; rfl
  have hij : i = j := by
    have hlen : i < (items.map key).length := (List.getElem?_eq_some_iff.mp hi').1
    exact (List.getElem?_inj hlen hnodup).mp (hi'.trans hj'.symm)
  subst hij
  have hbefore : page - 1 < page' := by
    by_contra hge
    have := Nat.mul_le_mul_right size (Nat.not_lt.mp hge)
    omega
  have hbefore' : page' - 1 < page := by
    by_contra hge
    have := Nat.mul_le_mul_right size (Nat.not_lt.mp hge)
    omega
  omega

end Pages

/-! ## The report -/

/-- What a report counts: each student that is absent as the match asks once, each complete section
once, and each section in scope as complete, as incomplete, or as inactive. -/
structure School.CountsOnce (s : School) (year : AcademicYear) (d : Date) (f : SectionFilter)
    (wanted : List ℕ) (periodMatch : PeriodMatch) (reportAt : ℤ → MultiPeriodReport) : Prop where
  listed : ∀ student, (∃ page, ∃ row ∈ (reportAt page).students, row.studentId = student) ↔
    match periodMatch with
    | .allAbsent => ∀ p ∈ wanted, s.AbsentIn year d f wanted student p
    | .anyAbsent => ∃ p ∈ wanted, s.AbsentIn year d f wanted student p
  once : ∀ page, ((reportAt page).students.map fun row => row.studentId).Nodup
  one_page : ∀ page page', ∀ row ∈ (reportAt page).students, ∀ row' ∈ (reportAt page').students,
    row.studentId = row'.studentId → max page 1 = max page' 1
  complete : ∃ ids : List ℕ, ids.Nodup ∧ (∀ page, (reportAt page).completeSections = ids.length) ∧
    ∀ i, i ∈ ids ↔ ∃ x, s.CompleteIn year d f wanted x ∧ x.id = i
  sections : ∀ page x, s.InReport year d f x →
    (s.CompleteIn year d f wanted x ∧
      x.id ∉ (reportAt page).incompleteSections.map fun e => e.sectionId) ∨
    (¬ s.CompleteIn year d f wanted x ∧ x.isActive = true ∧
      x.id ∈ (reportAt page).incompleteSections.map fun e => e.sectionId) ∨
    (¬ s.CompleteIn year d f wanted x ∧ x.isActive = false ∧
      x.id ∉ (reportAt page).incompleteSections.map fun e => e.sectionId)

/-- A listed student is shown present only where a submitted session covered it. -/
def School.InfersNothing (s : School) (d : Date) (reportAt : ℤ → MultiPeriodReport) : Prop :=
  ∀ page, ∀ row ∈ (reportAt page).students, ∀ p,
    (p, ReportStatus.present) ∈ row.periodStatuses → s.CoveredAt d row.studentId p

/-- Each student with an absence that counts was covered in every selected period. -/
def School.CoveredThroughout (s : School) (year : AcademicYear) (d : Date) (f : SectionFilter)
    (wanted : List ℕ) : Prop :=
  ∀ student, ∀ p₀ ∈ wanted, s.AbsentIn year d f wanted student p₀ →
    ∀ p ∈ wanted, s.CoveredAt d student p

theorem validateSequences_ok {sequences : List ℕ} {context : AttendanceDayContext}
    (h : validateSequences sequences context = .ok wanted) : wanted ≠ [] ∧ wanted.Nodup := by
  unfold validateSequences at h
  dsimp only at h
  split_ifs at h with hne hmany hunknown
  cases h
  have hperm : (sortedNat sequences.dedup).Perm sequences.dedup := List.perm_insertionSort _ _
  constructor
  · intro hnil
    rw [hnil] at hperm
    exact hne ((List.dedup_eq_nil sequences).mp hperm.symm.eq_nil)
  · exact hperm.nodup_iff.mpr (List.nodup_dedup _)

section Report

variable {format : ZoneFormat} {r : AttendanceRecords} {periodMatch : PeriodMatch}
  {sequences : List ℕ} {pageSize : ℕ}

def reportOf (format : ZoneFormat) (r : AttendanceRecords) (year : AcademicYear) (d : Date)
    (wanted : List ℕ) (periodMatch : PeriodMatch) (f : SectionFilter) (pageSize : ℕ) (page : ℤ) :
    MultiPeriodReport :=
  let context := r.school.dayContextFor d
  let scope := reportScope r.school year d f wanted
  let incomplete := incompleteSections context wanted scope.sessions scope.sections
  let students := reportStudents format r d periodMatch scope
  let dayPeriods := context.attendancePeriods.map fun p => (p.sequence, p.name)
  { date := d
    periods := dayPeriods.filter fun p => p.1 ∈ wanted
    periodMatch := periodMatch
    matchingStudents := students.length
    completeSections := (completeIds wanted scope.sessions).length
    incompleteCount := incomplete.length
    students := pageOf students (max page 1).toNat (if pageSize ∈ pageSizes then pageSize else 25)
    incompleteSections := incomplete
    dayPeriods := dayPeriods
    page := (max page 1).toNat
    pageSize := if pageSize ∈ pageSizes then pageSize else 25 }

theorem getMultiPeriodReport_ok (hyear : r.school.activeYear = some year)
    (hwanted : validateSequences sequences (r.school.dayContextFor d) = .ok wanted) (page : ℤ) :
    getMultiPeriodReport format r d sequences periodMatch f page pageSize =
      .ok (reportOf format r year d wanted periodMatch f pageSize page) := by
  unfold getMultiPeriodReport
  simp only [hyear, hwanted, bind, Except.bind]
  rfl

theorem pageSize_pos (pageSize : ℕ) : 0 < if pageSize ∈ pageSizes then pageSize else 25 := by
  unfold pageSizes
  split_ifs with h
  · simp only [List.mem_cons, List.not_mem_nil, or_false] at h
    omega
  · decide

theorem page_pos (page : ℤ) : 0 < (max page 1).toNat := by omega

theorem mem_reportOf_students {row : ReportStudent} {page : ℤ}
    (h : row ∈ (reportOf format r year d wanted periodMatch f pageSize page).students) :
    row ∈ reportStudents format r d periodMatch (reportScope r.school year d f wanted) :=
  List.mem_of_mem_drop (List.mem_of_mem_take h)

theorem School.Catalogued.mem_matched (hs : s.Catalogued) (hne : wanted ≠ [])
    (hnodup : wanted.Nodup) (student : ℕ) :
    student ∈ (reportScope s year d f wanted).matched s periodMatch ↔
      match periodMatch with
      | .allAbsent => ∀ p ∈ wanted, s.AbsentIn year d f wanted student p
      | .anyAbsent => ∃ p ∈ wanted, s.AbsentIn year d f wanted student p := by
  have hsub : ∀ a ∈ (reportScope s year d f wanted).completeMarks s,
      a.2.periodSequence ∈ wanted := fun a ha => ((hs.mem_completeMarks hne a.1 a.2).mp ha).2.2.1
  unfold ReportScope.matched
  rw [filter_absent]
  cases periodMatch with
  | allAbsent =>
    dsimp only
    refine (mem_matchedIds_all hne hnodup hsub).trans ?_
    exact forall₂_congr fun p hp => (hs.absentIn_iff hne hp).symm
  | anyAbsent =>
    dsimp only
    rw [mem_matchedIds_any]
    constructor
    · rintro ⟨a, ha, hstudent⟩
      exact ⟨_, hsub a ha, (hs.absentIn_iff hne (hsub a ha)).mpr ⟨a, ha, hstudent, rfl⟩⟩
    · rintro ⟨p, hp, habsent⟩
      obtain ⟨a, ha, hstudent, -⟩ := (hs.absentIn_iff hne hp).mp habsent
      exact ⟨a, ha, hstudent⟩

theorem School.Catalogued.mem_incompleteSections (hs : s.Catalogued) (hne : wanted ≠ [])
    (context : AttendanceDayContext) {x : Section} (hx : s.InReport year d f x) :
    x.id ∈ (incompleteSections context wanted (reportScope s year d f wanted).sessions
        (reportScope s year d f wanted).sections).map (fun e => e.sectionId) ↔
      ¬ s.CompleteIn year d f wanted x ∧ x.isActive = true := by
  have hcomplete : x.id ∈ completeIds wanted (reportScope s year d f wanted).sessions ↔
      s.CompleteIn year d f wanted x := by
    rw [hs.mem_completeIds hne]
    constructor
    · rintro ⟨z, hz, hid⟩
      have hsame : z = x := Table.eq_of_key_eq hs.section_ids hz.1.1 hx.1 hid
      exact hsame ▸ hz
    · exact fun h => ⟨x, h, rfl⟩
  unfold incompleteSections
  dsimp only
  rw [List.map_map]
  simp only [List.mem_map, List.mem_filter, decide_eq_true_eq]
  constructor
  · rintro ⟨⟨z, g⟩, ⟨hz, hnot, hactive⟩, hid⟩
    have hzreport := ((hs.mem_reportSections z g).mp hz).1
    have hsame : z = x := Table.eq_of_key_eq hs.section_ids hzreport.1 hx.1 hid
    subst hsame
    exact ⟨fun h => hnot (hcomplete.mpr h), hactive⟩
  · rintro ⟨hnot, hactive⟩
    obtain ⟨g, hg⟩ := Option.isSome_iff_exists.mp (hs.section_grade x hx.1)
    exact ⟨(x, g), ⟨(hs.mem_reportSections x g).mpr ⟨hx, hg⟩, fun h => hnot (hcomplete.mp h),
      hactive⟩, rfl⟩

theorem School.Catalogued.countsOnce (hs : r.school.Catalogued) (hne : wanted ≠ [])
    (hnodup : wanted.Nodup) : r.school.CountsOnce year d f wanted periodMatch
      (reportOf format r year d wanted periodMatch f pageSize) := by
  have hids : ((reportStudents format r d periodMatch (reportScope r.school year d f wanted)).map
      fun row => row.studentId).Perm
        ((reportScope r.school year d f wanted).matched r.school periodMatch) :=
    hs.reportStudents_ids hne
  have hkeys := hids.nodup_iff.mpr (nodup_matchedIds periodMatch)
  refine ⟨fun student => ?_, fun page => ?_, ?_, ?_, ?_⟩
  · rw [← hs.mem_matched hne hnodup, ← hids.mem_iff, List.mem_map]
    constructor
    · rintro ⟨page, row, hrow, rfl⟩
      exact ⟨row, mem_reportOf_students hrow, rfl⟩
    · rintro ⟨row, hrow, rfl⟩
      obtain ⟨page, hpage, hmem⟩ := exists_mem_pageOf (pageSize_pos pageSize) hrow
      have hmax : (max (page : ℤ) 1).toNat = page := by omega
      refine ⟨page, row, ?_, rfl⟩
      unfold reportOf
      dsimp only
      rw [hmax]
      exact hmem
  · exact hkeys.sublist (((List.take_sublist _ _).trans (List.drop_sublist _ _)).map _)
  · intro page page' row hrow row' hrow' hid
    have hpages := page_unique hkeys (page_pos page) (page_pos page') hrow hrow' hid
    omega
  · exact ⟨_, nodup_completeIds wanted _, fun _ => rfl, hs.mem_completeIds hne⟩
  · intro page x hx
    have hincomplete := hs.mem_incompleteSections hne (r.school.dayContextFor d) hx
    by_cases hcomplete : r.school.CompleteIn year d f wanted x
    · exact .inl ⟨hcomplete, fun h => (hincomplete.mp h).1 hcomplete⟩
    · cases hactive : x.isActive with
      | true => exact .inr (.inl ⟨hcomplete, rfl, hincomplete.mpr ⟨hcomplete, hactive⟩⟩)
      | false =>
        refine .inr (.inr ⟨hcomplete, rfl, fun h => ?_⟩)
        have htrue := (hincomplete.mp h).2
        rw [hactive] at htrue
        cases htrue

theorem School.Catalogued.coveredAt_of_mark (hs : s.Catalogued) (hne : wanted ≠ [])
    {a : AttendanceMark × AttendanceSession}
    (ha : a ∈ (reportScope s year d f wanted).completeMarks s) :
    s.CoveredAt d a.1.student a.2.periodSequence := by
  obtain ⟨hm, hid, -, x, -, hy, hd, -, hp, hstatus⟩ := (hs.mem_completeMarks hne a.1 a.2).mp ha
  exact ⟨a.2, hy, hd, rfl, hstatus, .inr ⟨a.1, hm, hid.symm, rfl⟩⟩

theorem School.Catalogued.infersNothing_iff (hs : r.school.Catalogued) (hne : wanted ≠ [])
    (hnodup : wanted.Nodup) :
    r.school.InfersNothing d (reportOf format r year d wanted periodMatch f pageSize) ↔
      (periodMatch = .anyAbsent → r.school.CoveredThroughout year d f wanted) := by
  have hcounts : r.school.CountsOnce year d f wanted periodMatch
      (reportOf format r year d wanted periodMatch f pageSize) := hs.countsOnce hne hnodup
  -- What a row says of a period.
  have hrow : ∀ page,
      ∀ row ∈ (reportOf format r year d wanted periodMatch f pageSize page).students,
      ∀ p status, (p, status) ∈ row.periodStatuses ↔ p ∈ wanted ∧
        periodStatusOf ((reportScope r.school year d f wanted).completeMarks r.school)
          row.studentId p = status := by
    intro page row hmem p status
    rw [(mem_reportStudents (mem_reportOf_students hmem)).2, List.mem_map]
    constructor
    · rintro ⟨q, hq, heq⟩
      obtain ⟨rfl, rfl⟩ := Prod.mk.inj heq
      exact ⟨hq, rfl⟩
    · rintro ⟨hp, rfl⟩
      exact ⟨p, hp, rfl⟩
  constructor
  · intro hinfers hany student p₀ hp₀ habsent p hp
    subst hany
    obtain ⟨page, row, hmem, rfl⟩ := (hcounts.listed student).mpr ⟨p₀, hp₀, habsent⟩
    by_cases hshown : periodStatusOf ((reportScope r.school year d f wanted).completeMarks r.school)
        row.studentId p = .present
    · exact hinfers page row hmem p ((hrow page row hmem p _).mpr ⟨hp, hshown⟩)
    · rw [periodStatusOf_present] at hshown
      push Not at hshown
      obtain ⟨a, ha, hstudent, hperiod⟩ := hshown
      rw [← hstudent, ← hperiod]
      exact hs.coveredAt_of_mark hne ha
  · intro hcovered page row hmem p hp
    obtain ⟨hwanted, hshown⟩ := (hrow page row hmem p _).mp hp
    have hlisted := (hcounts.listed row.studentId).mp ⟨page, row, hmem, rfl⟩
    cases periodMatch with
    | allAbsent =>
      -- An absence in every period leaves none to be shown present.
      obtain ⟨a, ha, hstudent, hperiod⟩ := (hs.absentIn_iff hne hwanted).mp (hlisted p hwanted)
      exact absurd hperiod (periodStatusOf_present.mp hshown a ha hstudent)
    | anyAbsent =>
      obtain ⟨p₀, hp₀, habsent⟩ := hlisted
      exact hcovered rfl row.studentId p₀ hp₀ habsent p hwanted

/-- **What the report of selected periods says.** It counts each absence once, whatever the state
of the school; it shows no student present without a session that covered it exactly when all
absences are asked for, or each student with an absence that counts was covered by a submitted
session in every selected period. -/
theorem period_report_iff (hs : r.school.Catalogued) (hyear : r.school.activeYear = some year)
    (hwanted : validateSequences sequences (r.school.dayContextFor d) = .ok wanted) :
    ∃ reportAt : ℤ → MultiPeriodReport,
      (∀ page, getMultiPeriodReport format r d sequences periodMatch f page pageSize =
        .ok (reportAt page)) ∧
      r.school.CountsOnce year d f wanted periodMatch reportAt ∧
      (r.school.InfersNothing d reportAt ↔
        (periodMatch = .anyAbsent → r.school.CoveredThroughout year d f wanted)) := by
  obtain ⟨hne, hnodup⟩ := validateSequences_ok hwanted
  exact ⟨_, getMultiPeriodReport_ok hyear hwanted, hs.countsOnce hne hnodup,
    hs.infersNothing_iff hne hnodup⟩

end Report

/-- The first section submits both periods, without the pupil in the second, since it was moved
after the first; the section it was moved to has not submitted the second. -/
def movedPupil : AttendanceRecords where
  school :=
    { registry :=
        { academicYears := [⟨1, 1, 300, .active, none⟩]
          grades := [⟨1, "الأول", "1", 1, true⟩]
          sections := [⟨3, 1, "أ", "A", "", true⟩, ⟨4, 1, "ب", "B", "", true⟩]
          students := [⟨7, "", "", none, "", none, .active, none, none, "", "", ""⟩,
            ⟨8, "", "", none, "", none, .active, none, none, "", "", ""⟩]
          enrollments := [⟨1, 7, 1, 1, 3, .transferred, 1, some 14⟩,
            ⟨2, 8, 1, 1, 3, .active, 1, none⟩, ⟨3, 7, 1, 1, 4, .active, 14, none⟩] }
      dayContexts := [⟨14, some 1, ⟨some 1, none, true,
        [⟨1, "الأولى", 480, 525, true⟩, ⟨2, "الثانية", 530, 575, true⟩]⟩, "Asia/Riyadh"⟩]
      sessions := [⟨1, 1, 3, 14, 1, .submitted, ⟨[7, 8]⟩, some 1, some 0, 0⟩,
        ⟨2, 1, 3, 14, 2, .submitted, ⟨[8]⟩, some 1, some 0, 0⟩]
      marks := [⟨1, 7, .absent⟩] }

theorem movedPupil_catalogued : movedPupil.school.Catalogued where
  toKeyed := .of_checked (by decide)
  section_ids := by decide
  section_grade := by decide
  session_section := by decide

def movedPupilReport (page : ℤ) : Except SelectionError MultiPeriodReport :=
  getMultiPeriodReport (fun _ _ => "") movedPupil 14 [1, 2] .anyAbsent {} page 25

/-- The pupil is shown present in the second period, which no submitted session took for it. -/
theorem movedPupil_shown_present : ∃ report row,
    movedPupilReport 1 = .ok report ∧ row ∈ report.students ∧ row.studentId = 7 ∧
      (2, ReportStatus.present) ∈ row.periodStatuses ∧ ¬ movedPupil.school.CoveredAt 14 7 2 := by
  refine ⟨_, ⟨7, "", "الأول", "أ", "", [(1, .absent), (2, .present)], none⟩, rfl, ?_, rfl, ?_, ?_⟩
  · decide +kernel
  · decide
  · unfold School.CoveredAt
    decide

/-- The absences in both periods are reported without a guess. -/
theorem period_report_movedPupil : ∃ reportAt : ℤ → MultiPeriodReport,
    (∀ page, getMultiPeriodReport (fun _ _ => "") movedPupil 14 [1, 2] .allAbsent {} page 25 =
      .ok (reportAt page)) ∧
    movedPupil.school.InfersNothing 14 reportAt := by
  have hyear : movedPupil.school.activeYear = some ⟨1, 1, 300, .active, none⟩ := by decide
  have hwanted : validateSequences [1, 2] (movedPupil.school.dayContextFor 14) = .ok [1, 2] := by
    decide +kernel
  have hall : ∃ reportAt : ℤ → MultiPeriodReport,
      (∀ page, getMultiPeriodReport (fun _ _ => "") movedPupil 14 [1, 2] .allAbsent {} page 25 =
        .ok (reportAt page)) ∧
      movedPupil.school.CountsOnce ⟨1, 1, 300, .active, none⟩ 14 {} [1, 2] .allAbsent reportAt ∧
      (movedPupil.school.InfersNothing 14 reportAt ↔ (PeriodMatch.allAbsent = .anyAbsent →
        movedPupil.school.CoveredThroughout ⟨1, 1, 300, .active, none⟩ 14 {} [1, 2])) :=
    period_report_iff movedPupil_catalogued hyear hwanted
  obtain ⟨reportAt, hreport, -, hiff⟩ := hall
  exact ⟨reportAt, hreport, hiff.mpr fun h => by cases h⟩

end SchoolPlatform
