import SchoolPlatform.Analysis.Frames
import Mathlib.Data.List.Perm.Basic
import Mathlib.Data.List.Perm.Subperm

/-!
# What a daily summary stands for

A row of `DailyAttendanceSummary` is right (`School.RowRight`) when its three counters are those
of the submitted sessions of its section and date. A recalculation that reads the store it writes
to makes the rows of the students it looks at (`School.Recounted`) right, and leaves the others
as they are (`writeSummaries_spec`).
-/

namespace SchoolPlatform

open ReadCommitted

/-! ## Right rows -/

def School.absencesOf (s : School) (sectionId : ℕ) (d : Date) (student : ℕ) :
    List AttendanceMark :=
  (s.absentMarksIn ((s.submittedSessions sectionId d).map fun x => x.id)).filter
    fun m => m.student = student

/-- The counters of the row are those of the submitted sessions of its section and date. -/
structure School.RowRight (s : School) (r : DailyAttendanceSummary) : Prop where
  submitted : r.submittedPeriods = (s.submittedSessions r.sectionId r.attendanceDate).length
  absent : r.absentPeriods = (s.absencesOf r.sectionId r.attendanceDate r.student).length
  excused : r.excusedAbsentPeriods = ((s.absencesOf r.sectionId r.attendanceDate
    r.student).filter fun m => s.coverageTaken (m.session, m.student)).length

def School.BelongsTo (s : School) (d : Date) (sectionId student : ℕ) : Prop :=
  ∃ e ∈ s.registry.enrollments, e.student = student ∧ e.validOn d = true ∧ e.sectionId = sectionId

instance (s : School) (d : Date) (sectionId student : ℕ) :
    Decidable (s.BelongsTo d sectionId student) :=
  inferInstanceAs (Decidable (∃ e ∈ s.registry.enrollments, _ ∧ _ ∧ _))

def School.Marked (s : School) (sectionId : ℕ) (d : Date) (student : ℕ) : Prop :=
  ∃ m ∈ s.marks, m.student = student ∧
    ∃ x ∈ s.submittedSessions sectionId d, x.id = m.session

def School.Recounted (s : School) (sectionId : ℕ) (d : Date) (student : ℕ) : Prop :=
  s.BelongsTo d sectionId student ∨
    (s.Marked sectionId d student ∧
      ∀ other, s.BelongsTo d other student → other = sectionId)

def School.RowsRight (s : School) (sectionId : ℕ) (d : Date) : Prop :=
  ∀ r ∈ s.summaries, r.sectionId = sectionId → r.attendanceDate = d → s.RowRight r

instance (s : School) (r : DailyAttendanceSummary) : Decidable (s.RowRight r) :=
  decidable_of_iff (_ ∧ _ ∧ _) ⟨fun h => ⟨h.1, h.2.1, h.2.2⟩, fun h => ⟨h.1, h.2, h.3⟩⟩

instance (s : School) (sectionId : ℕ) (d : Date) : Decidable (s.RowsRight sectionId d) :=
  inferInstanceAs (Decidable (∀ r ∈ s.summaries, _ → _ → _))

/-! ## Counting sessions instead of marks -/

theorem length_eq_of_mem_iff {α : Type} {l l' : List α} (h : l.Nodup) (h' : l'.Nodup)
    (hmem : ∀ a, a ∈ l ↔ a ∈ l') : l.length = l'.length :=
  ((List.perm_ext_iff_of_nodup h h').mpr hmem).length_eq

def School.submittedIds (s : School) (sectionId : ℕ) (d : Date) : List ℕ :=
  (s.submittedSessions sectionId d).map fun x => x.id

def School.isAbsent (s : School) (session student : ℕ) : Bool :=
  s.marks.any fun m => m.session = session ∧ m.student = student ∧ m.status = .absent

theorem School.isAbsent_iff (s : School) (session student : ℕ) :
    s.isAbsent session student = true ↔ s.Absent session student := by
  unfold School.isAbsent School.Absent
  simp only [List.any_eq_true, decide_eq_true_eq]

theorem School.coverageTaken_pair_iff (s : School) (session student : ℕ) :
    s.coverageTaken (session, student) = true ↔ s.Covered session student := by
  unfold School.coverageTaken School.Covered School.Active
  simp only [List.any_eq_true, decide_eq_true_eq, Prod.mk.injEq]
  constructor
  · rintro ⟨c, hc, ⟨hses, hst⟩, hact⟩
    exact ⟨c, ⟨hc, hact⟩, hses, hst⟩
  · rintro ⟨c, ⟨hc, hact⟩, hses, hst⟩
    exact ⟨c, hc, ⟨hses, hst⟩, hact⟩

section Counting

variable {s : School} (hs : s.Keyed) (sectionId : ℕ) (d : Date) (student : ℕ)

theorem School.mem_absencesOf (m : AttendanceMark) :
    m ∈ s.absencesOf sectionId d student ↔
      m ∈ s.marks ∧ m.session ∈ s.submittedIds sectionId d ∧ m.student = student := by
  unfold School.absencesOf School.absentMarksIn School.marksIn School.submittedIds
  simp only [List.mem_filter, decide_eq_true_eq]
  tauto

include hs

theorem School.Keyed.nodup_submittedIds : (s.submittedIds sectionId d).Nodup :=
  hs.session_ids.sublist (List.Sublist.map _ List.filter_sublist)

theorem School.Keyed.nodup_absencesOf :
    ((s.absencesOf sectionId d student).map fun m => m.session).Nodup := by
  have hkeys : ((s.absencesOf sectionId d student).map fun m => (m.session, m.student)).Nodup :=
    hs.mark_keys.sublist (List.Sublist.map _
      (List.filter_sublist.trans (List.filter_sublist.trans List.filter_sublist)))
  have hpairs : ((s.absencesOf sectionId d student).map fun m => (m.session, m.student)) =
      ((s.absencesOf sectionId d student).map fun m => m.session).map fun x => (x, student) := by
    rw [List.map_map]
    apply List.map_congr_left
    intro m hm
    rw [((School.mem_absencesOf sectionId d student m).mp hm).2.2]
    rfl
  rw [hpairs] at hkeys
  exact hkeys.of_map _

theorem School.Keyed.length_absencesOf :
    (s.absencesOf sectionId d student).length =
      ((s.submittedIds sectionId d).filter fun x => s.isAbsent x student).length := by
  rw [← List.length_map (f := fun m : AttendanceMark => m.session)]
  refine length_eq_of_mem_iff (hs.nodup_absencesOf sectionId d student)
    ((hs.nodup_submittedIds sectionId d).filter _) fun x => ?_
  rw [List.mem_map, List.mem_filter, School.isAbsent_iff]
  constructor
  · rintro ⟨m, hm, rfl⟩
    obtain ⟨hmem, hses, hst⟩ := (School.mem_absencesOf sectionId d student m).mp hm
    exact ⟨hses, m, hmem, rfl, hst, m.status.eq_absent⟩
  · rintro ⟨hses, m, hm, rfl, hst, -⟩
    exact ⟨m, (School.mem_absencesOf sectionId d student m).mpr ⟨hm, hses, hst⟩, rfl⟩

theorem School.Keyed.length_excusedOf :
    ((s.absencesOf sectionId d student).filter
        fun m => s.coverageTaken (m.session, m.student)).length =
      ((s.submittedIds sectionId d).filter fun x =>
        s.isAbsent x student && s.coverageTaken (x, student)).length := by
  rw [← List.length_map (f := fun m : AttendanceMark => m.session)]
  refine length_eq_of_mem_iff
    ((hs.nodup_absencesOf sectionId d student).sublist (List.Sublist.map _ List.filter_sublist))
    ((hs.nodup_submittedIds sectionId d).filter _) fun x => ?_
  rw [List.mem_map, List.mem_filter, Bool.and_eq_true, School.isAbsent_iff]
  constructor
  · rintro ⟨m, hm, rfl⟩
    obtain ⟨hm, htaken⟩ := List.mem_filter.mp hm
    obtain ⟨hmem, hses, hst⟩ := (School.mem_absencesOf sectionId d student m).mp hm
    exact ⟨hses, ⟨m, hmem, rfl, hst, m.status.eq_absent⟩, hst ▸ htaken⟩
  · rintro ⟨hses, ⟨m, hm, rfl, hst, -⟩, htaken⟩
    exact ⟨m, List.mem_filter.mpr
      ⟨(School.mem_absencesOf sectionId d student m).mpr ⟨hm, hses, hst⟩, hst ▸ htaken⟩, rfl⟩

end Counting

theorem School.Keyed.rowRight_iff {s : School} (hs : s.Keyed) (r : DailyAttendanceSummary) :
    s.RowRight r ↔
      r.submittedPeriods = (s.submittedIds r.sectionId r.attendanceDate).length ∧
      r.absentPeriods = ((s.submittedIds r.sectionId r.attendanceDate).filter
        fun x => s.isAbsent x r.student).length ∧
      r.excusedAbsentPeriods = ((s.submittedIds r.sectionId r.attendanceDate).filter
        fun x => s.isAbsent x r.student && s.coverageTaken (x, r.student)).length := by
  have hids : (s.submittedIds r.sectionId r.attendanceDate).length =
      (s.submittedSessions r.sectionId r.attendanceDate).length := List.length_map _
  rw [hids, ← hs.length_absencesOf, ← hs.length_excusedOf]
  exact ⟨fun ⟨h₁, h₂, h₃⟩ => ⟨h₁, h₂, h₃⟩, fun ⟨h₁, h₂, h₃⟩ => ⟨h₁, h₂, h₃⟩⟩

theorem School.RowRight.congr {s s' : School} (hs : s.Keyed) (hs' : s'.Keyed)
    {r : DailyAttendanceSummary}
    (hids : s'.submittedIds r.sectionId r.attendanceDate =
      s.submittedIds r.sectionId r.attendanceDate)
    (habs : ∀ x ∈ s.submittedIds r.sectionId r.attendanceDate,
      (s'.Absent x r.student ↔ s.Absent x r.student))
    (hcov : ∀ x ∈ s.submittedIds r.sectionId r.attendanceDate,
      (s'.Covered x r.student ↔ s.Covered x r.student)) :
    s'.RowRight r ↔ s.RowRight r := by
  have habs' : ∀ x ∈ s.submittedIds r.sectionId r.attendanceDate,
      s'.isAbsent x r.student = s.isAbsent x r.student := by
    intro x hx
    rw [Bool.eq_iff_iff, School.isAbsent_iff, School.isAbsent_iff]
    exact habs x hx
  have hcov' : ∀ x ∈ s.submittedIds r.sectionId r.attendanceDate,
      s'.coverageTaken (x, r.student) = s.coverageTaken (x, r.student) := by
    intro x hx
    rw [Bool.eq_iff_iff, School.coverageTaken_pair_iff, School.coverageTaken_pair_iff]
    exact hcov x hx
  have hfilter : (s.submittedIds r.sectionId r.attendanceDate).filter
      (fun x => s'.isAbsent x r.student) = (s.submittedIds r.sectionId r.attendanceDate).filter
        fun x => s.isAbsent x r.student := List.filter_congr habs'
  have hfilter' : (s.submittedIds r.sectionId r.attendanceDate).filter
      (fun x => s'.isAbsent x r.student && s'.coverageTaken (x, r.student)) =
      (s.submittedIds r.sectionId r.attendanceDate).filter
        fun x => s.isAbsent x r.student && s.coverageTaken (x, r.student) := by
    refine List.filter_congr fun x hx => ?_
    rw [habs' x hx, hcov' x hx]
  rw [hs.rowRight_iff, hs'.rowRight_iff, hids, hfilter, hfilter']

theorem School.RowRight.of_tables {s s' : School} {r : DailyAttendanceSummary}
    (hsub : s'.submittedSessions r.sectionId r.attendanceDate =
      s.submittedSessions r.sectionId r.attendanceDate)
    (hmarks : s'.marks = s.marks) (hcoverages : s'.coverages = s.coverages) :
    s'.RowRight r ↔ s.RowRight r := by
  have habs : s'.absencesOf r.sectionId r.attendanceDate r.student =
      s.absencesOf r.sectionId r.attendanceDate r.student := by
    unfold School.absencesOf School.absentMarksIn School.marksIn
    rw [hsub, hmarks]
  have htaken : ∀ key, s'.coverageTaken key = s.coverageTaken key := by
    intro key
    unfold School.coverageTaken
    rw [hcoverages]
  constructor
  · rintro ⟨h₁, h₂, h₃⟩
    exact ⟨hsub ▸ h₁, habs ▸ h₂, by simpa only [habs, htaken] using h₃⟩
  · rintro ⟨h₁, h₂, h₃⟩
    exact ⟨hsub ▸ h₁, habs ▸ h₂, by simpa only [habs, htaken] using h₃⟩

theorem School.submittedSessions_of_core {s s' : School} (h : s'.core = s.core) (sectionId : ℕ)
    (d : Date) : s'.submittedSessions sectionId d = s.submittedSessions sectionId d := by
  unfold School.submittedSessions
  rw [(School.core_fields h).1]

theorem School.RowRight.of_core {s s' : School} (h : s'.core = s.core)
    (r : DailyAttendanceSummary) : s'.RowRight r ↔ s.RowRight r := by
  obtain ⟨-, hmarks, -, -, hcoverages, -⟩ := School.core_fields h
  exact School.RowRight.of_tables (School.submittedSessions_of_core h _ _) hmarks hcoverages

/-! ## The counters -/

def School.recountedStudents (s : School) (sectionId : ℕ) (d : Date) : List ℕ :=
  let sessionIds := s.submittedIds sectionId d
  let enrolledIds := s.enrolledIds d sectionId
  let markedOnly := (s.absentByStudent sessionIds).keys.filter fun x => x ∉ enrolledIds
  let elsewhere := if markedOnly = [] then [] else s.elsewhere d sectionId markedOnly
  (enrolledIds ++ markedOnly.filter fun x => x ∉ elsewhere).dedup

def School.countersIn (s : School) (expected sectionId : ℕ) (d : Date) (year : ℕ) :
    SectionCounters where
  academicYear := year
  sectionId := sectionId
  attendanceDate := d
  expected := expected
  submitted := ((s.submittedSessions sectionId d).map fun x => x.periodSequence).dedup.length
  absentByStudent := s.absentByStudent (s.submittedIds sectionId d)
  excusedByStudent := Dict.groupBy Prod.fst
    ((s.activeCoveragePairs (s.submittedIds sectionId d)).filter
      fun x => x ∈ s.absentPairs (s.submittedIds sectionId d))
  students := s.recountedStudents sectionId d

def School.yearIn (s : School) (context : AttendanceDayContext) (sectionId : ℕ) (d : Date) :
    Option ℕ :=
  match (s.submittedSessions sectionId d).head? with
  | some x => some x.academicYear
  | none => context.academicYear

def School.counters (s : School) (context : AttendanceDayContext) (sectionId : ℕ) (d : Date) :
    Option SectionCounters :=
  (s.yearIn context sectionId d).map (s.countersIn context.attendancePeriods.length sectionId d)

theorem readCounters_run (s : School) (context : AttendanceDayContext) (sectionId : ℕ) (d : Date) :
    (readCounters context sectionId d).Answers s (s.counters context sectionId d) := by
  have helse : ∀ markedOnly, (askElsewhere sectionId d markedOnly).Answers s
      (if markedOnly = [] then [] else s.elsewhere d sectionId markedOnly) := by
    intro markedOnly
    unfold askElsewhere
    split_ifs <;> rfl
  have hsessions : (ask fun s => s.submittedSessions sectionId d : Operation _).Answers s
      (s.submittedSessions sectionId d) := rfl
  unfold readCounters School.counters School.yearIn
  simp only [Program.bind_eq]
  refine hsessions.bind ?_
  cases (s.submittedSessions sectionId d).head? with
  | some x =>
    exact Program.Answers.bind rfl (Program.Answers.bind rfl
      (Program.Answers.bind rfl (Program.Answers.bind rfl ((helse _).bind rfl))))
  | none =>
    cases context.academicYear with
    | none => rfl
    | some year =>
      exact Program.Answers.bind rfl (Program.Answers.bind rfl
        (Program.Answers.bind rfl (Program.Answers.bind rfl ((helse _).bind rfl))))

theorem School.counters_cases (s : School) (context : AttendanceDayContext) (sectionId : ℕ)
    (d : Date) :
    (s.counters context sectionId d = none ∧ s.submittedSessions sectionId d = []) ∨
      ∃ expected year,
        s.counters context sectionId d = some (s.countersIn expected sectionId d year) := by
  unfold School.counters School.yearIn
  cases s.submittedSessions sectionId d with
  | nil =>
    cases context.academicYear with
    | none => exact .inl ⟨rfl, rfl⟩
    | some year => exact .inr ⟨_, year, rfl⟩
  | cons x xs => exact .inr ⟨_, x.academicYear, rfl⟩

theorem School.mem_recountedStudents (s : School) (sectionId : ℕ) (d : Date) (student : ℕ) :
    student ∈ s.recountedStudents sectionId d ↔ s.Recounted sectionId d student := by
  have henrolled : student ∈ s.enrolledIds d sectionId ↔ s.BelongsTo d sectionId student := by
    unfold School.enrolledIds School.enrollmentsOnDateIn School.enrollmentsOnDate
      School.BelongsTo
    simp only [List.mem_map, List.mem_filter, decide_eq_true_eq]
    constructor
    · rintro ⟨e, ⟨⟨he, hv⟩, hsec⟩, hst⟩
      exact ⟨e, he, hst, hv, hsec⟩
    · rintro ⟨e, he, hst, hv, hsec⟩
      exact ⟨e, ⟨⟨he, hv⟩, hsec⟩, hst⟩
  have hmarked : student ∈ (s.absentByStudent (s.submittedIds sectionId d)).keys ↔
      s.Marked sectionId d student := by
    unfold School.absentByStudent School.marksIn School.Marked School.submittedIds Dict.keys
    simp only [List.map_map, List.mem_map, Function.comp_apply, List.mem_dedup, List.mem_filter,
      decide_eq_true_eq, exists_eq_right]
    constructor
    · rintro ⟨m, ⟨hm, x, hx, hid⟩, hst⟩
      exact ⟨m, hm, hst, x, hx, hid⟩
    · rintro ⟨m, hm, hst, x, hx, hid⟩
      exact ⟨m, ⟨hm, x, hx, hid⟩, hst⟩
  have helse : ∀ l : List ℕ, student ∈ l →
      (student ∈ (if l = [] then [] else s.elsewhere d sectionId l) ↔
        ∃ other, s.BelongsTo d other student ∧ other ≠ sectionId) := by
    intro l hl
    rw [if_neg (List.ne_nil_of_mem hl)]
    unfold School.elsewhere School.enrollmentsOnDate School.BelongsTo
    simp only [List.mem_map, List.mem_filter, decide_eq_true_eq]
    constructor
    · rintro ⟨e, ⟨⟨he, hv⟩, -, hsec⟩, hst⟩
      exact ⟨e.sectionId, ⟨e, he, hst, hv, rfl⟩, hsec⟩
    · rintro ⟨other, ⟨e, he, hst, hv, rfl⟩, hsec⟩
      exact ⟨e, ⟨⟨he, hv⟩, hst ▸ hl, hsec⟩, hst⟩
  unfold School.recountedStudents School.Recounted
  simp only [List.mem_dedup, List.mem_append, List.mem_filter, decide_eq_true_eq]
  rw [henrolled, hmarked]
  by_cases hin : s.BelongsTo d sectionId student
  · simp [hin]
  by_cases hm : s.Marked sectionId d student
  · have hmem : student ∈ (s.absentByStudent (s.submittedIds sectionId d)).keys.filter
        fun x => x ∉ s.enrolledIds d sectionId :=
      List.mem_filter.mpr ⟨hmarked.mpr hm, by simpa using fun h => hin (henrolled.mp h)⟩
    rw [helse _ hmem]
    simp only [hin, hm, not_false_eq_true, true_and, false_or]
    push Not
    rfl
  · simp [hin, hm]

section Counters

variable {s : School} (sectionId : ℕ) (d : Date) (student : ℕ)

theorem School.getD_absentByStudent :
    ((s.absentByStudent (s.submittedIds sectionId d)).get? student).getD 0 =
      (s.absencesOf sectionId d student).length := by
  unfold School.absentByStudent
  rw [Dict.get?_map]
  split_ifs with hmem
  · rfl
  · rw [List.mem_dedup, List.mem_map] at hmem
    symm
    rw [Option.getD_none, List.length_eq_zero_iff, List.eq_nil_iff_forall_not_mem]
    intro m hm
    obtain ⟨hmark, hses, hst⟩ := (School.mem_absencesOf sectionId d student m).mp hm
    exact hmem ⟨m, List.mem_filter.mpr ⟨hmark, by simpa using hses⟩, hst⟩

theorem School.mem_absentPairs (x : ℕ) :
    (student, x) ∈ s.absentPairs (s.submittedIds sectionId d) ↔
      x ∈ s.submittedIds sectionId d ∧ s.Absent x student := by
  unfold School.absentPairs School.absentMarksIn School.marksIn School.Absent
  simp only [List.mem_map, List.mem_filter, decide_eq_true_eq, Prod.mk.injEq]
  constructor
  · rintro ⟨m, ⟨⟨hm, hses⟩, hab⟩, hst, rfl⟩
    exact ⟨hses, m, hm, rfl, hst, hab⟩
  · rintro ⟨hses, m, hm, rfl, hst, hab⟩
    exact ⟨m, ⟨⟨hm, hses⟩, hab⟩, hst, rfl⟩

theorem School.mem_activeCoveragePairs (x : ℕ) :
    (student, x) ∈ s.activeCoveragePairs (s.submittedIds sectionId d) ↔
      x ∈ s.submittedIds sectionId d ∧ s.Covered x student := by
  unfold School.activeCoveragePairs School.Covered School.Active
  simp only [List.mem_map, List.mem_filter, decide_eq_true_eq, Prod.mk.injEq]
  constructor
  · rintro ⟨c, ⟨hc, hses, hact⟩, hst, rfl⟩
    exact ⟨hses, c, ⟨hc, hact⟩, rfl, hst⟩
  · rintro ⟨hses, c, ⟨hc, hact⟩, rfl, hst⟩
    exact ⟨c, ⟨hc, hses, hact⟩, hst, rfl⟩

variable (hs : s.Keyed)
include hs

theorem School.Keyed.nodup_activeCoveragePairs (ids : List ℕ) :
    (s.activeCoveragePairs ids).Nodup := by
  unfold School.activeCoveragePairs
  refine List.Nodup.map_on ?_ ((hs.coverage_ids.of_map _).filter _)
  intro c hc c' hc' heq
  rw [List.mem_filter, decide_eq_true_eq] at hc hc'
  have hpair : c.student = c'.student ∧ c.attendanceSession = c'.attendanceSession :=
    Prod.mk.inj heq
  exact hs.coverage_key c c' ⟨hc.1, hc.2.2⟩ ⟨hc'.1, hc'.2.2⟩ hpair.2 hpair.1

theorem School.Keyed.length_excusedByStudent :
    (((s.activeCoveragePairs (s.submittedIds sectionId d)).filter
        fun x => x ∈ s.absentPairs (s.submittedIds sectionId d)).filter
          fun p => p.1 = student).length =
      ((s.absencesOf sectionId d student).filter
        fun m => s.coverageTaken (m.session, m.student)).length := by
  rw [hs.length_excusedOf, ← List.length_map (f := fun p : ℕ × ℕ => p.2)]
  refine length_eq_of_mem_iff ?_ ((hs.nodup_submittedIds sectionId d).filter _) fun x => ?_
  · refine List.Nodup.map_on ?_ (((hs.nodup_activeCoveragePairs _).filter _).filter _)
    rintro ⟨stu, x⟩ hp ⟨stu', x'⟩ hp' heq
    have hst := (List.mem_filter.mp hp).2
    have hst' := (List.mem_filter.mp hp').2
    simp only [decide_eq_true_eq] at hst hst' heq
    rw [hst, hst', heq]
  · rw [List.mem_map, List.mem_filter, Bool.and_eq_true, School.isAbsent_iff,
      School.coverageTaken_pair_iff]
    constructor
    · rintro ⟨⟨stu, x'⟩, hp, rfl⟩
      rw [List.mem_filter, List.mem_filter, decide_eq_true_eq, decide_eq_true_eq] at hp
      obtain ⟨⟨hp, hab⟩, rfl⟩ := hp
      have habs := (School.mem_absentPairs sectionId d stu x').mp hab
      exact ⟨habs.1, habs.2, ((School.mem_activeCoveragePairs sectionId d stu x').mp hp).2⟩
    · rintro ⟨hses, hab, hc⟩
      refine ⟨(student, x), ?_, rfl⟩
      rw [List.mem_filter, List.mem_filter, decide_eq_true_eq, decide_eq_true_eq]
      exact ⟨⟨(School.mem_activeCoveragePairs sectionId d student x).mpr ⟨hses, hc⟩,
        (School.mem_absentPairs sectionId d student x).mpr ⟨hses, hab⟩⟩, rfl⟩

theorem School.Keyed.nodup_periods :
    ((s.submittedSessions sectionId d).map fun x => x.periodSequence).Nodup := by
  have hall : ((s.submittedSessions sectionId d).map
      fun x => (x.sectionId, x.attendanceDate, x.periodSequence)).Nodup :=
    hs.session_slots.sublist (List.Sublist.map _ List.filter_sublist)
  have hsame : ((s.submittedSessions sectionId d).map
      fun x => (x.sectionId, x.attendanceDate, x.periodSequence)) =
      ((s.submittedSessions sectionId d).map fun x => x.periodSequence).map
        fun n => (sectionId, d, n) := by
    rw [List.map_map]
    apply List.map_congr_left
    intro x hx
    have hslot := (List.mem_filter.mp hx).2
    rw [decide_eq_true_eq] at hslot
    rw [hslot.1, hslot.2.1]
    rfl
  rw [hsame] at hall
  exact hall.of_map _

theorem School.Keyed.counted (expected year : ℕ) :
    ((s.countersIn expected sectionId d year).absentByStudent.get? student).getD 0 =
        (s.absencesOf sectionId d student).length ∧
      (((s.countersIn expected sectionId d year).excusedByStudent.get? student).getD []).length =
        ((s.absencesOf sectionId d student).filter
          fun m => s.coverageTaken (m.session, m.student)).length := by
  refine ⟨School.getD_absentByStudent sectionId d student, ?_⟩
  show ((Dict.get? (Dict.groupBy Prod.fst _) student).getD []).length = _
  rw [Dict.getD_get?_groupBy]
  exact hs.length_excusedByStudent sectionId d student

theorem School.Keyed.rowRight_countersIn (expected year : ℕ) (now : Instant) :
    s.RowRight ((s.countersIn expected sectionId d year).row now student) := by
  obtain ⟨habsent, hexcused⟩ := hs.counted sectionId d student expected year
  refine ⟨?_, habsent, ?_⟩
  · show ((s.submittedSessions sectionId d).map fun x => x.periodSequence).dedup.length = _
    rw [(hs.nodup_periods sectionId d).dedup, List.length_map]
    rfl
  · show min _ _ = _
    rw [habsent, hexcused]
    exact min_eq_left (List.length_filter_le _ _)

end Counters

/-- The table after a recalculation of some students: their rows are those of the counters, the
others are as they were. -/
structure School.Rewritten (s s' : School) (d : Date) (students : List ℕ)
    (row : ℕ → DailyAttendanceSummary) : Prop where
  rest : { s' with summaries := s.summaries } = s
  of_mem : ∀ r ∈ s'.summaries, (r ∈ s.summaries ∧ ¬ (r.attendanceDate = d ∧ r.student ∈ students)) ∨
    ∃ x ∈ students, r = row x
  kept : ∀ r ∈ s.summaries, ¬ (r.attendanceDate = d ∧ r.student ∈ students) → r ∈ s'.summaries

theorem School.mem_putSummaries (s : School) (d : Date) (students : List ℕ)
    (row : ℕ → DailyAttendanceSummary) (r : DailyAttendanceSummary) :
    r ∈ (s.putSummaries d students row).summaries ↔
      (r ∈ s.summaries ∧ ¬ (r.attendanceDate = d ∧ r.student ∈ students)) ∨
        ∃ old ∈ s.summaries, old.attendanceDate = d ∧ old.student ∈ students ∧
          r = row old.student := by
  unfold School.putSummaries
  rw [List.mem_map]
  constructor
  · rintro ⟨old, hold, rfl⟩
    by_cases h : old.attendanceDate = d ∧ old.student ∈ students
    · rw [if_pos h]
      exact .inr ⟨old, hold, h.1, h.2, rfl⟩
    · rw [if_neg h]
      exact .inl ⟨hold, h⟩
  · rintro (⟨hr, h⟩ | ⟨old, hold, hd, hmem, rfl⟩)
    · exact ⟨r, hr, if_neg h⟩
    · exact ⟨old, hold, if_pos ⟨hd, hmem⟩⟩

theorem eval_lockSummaries (d : Date) (find : School → List DailyAttendanceSummary)
    (s : School) : (lockSummaries d find).eval s = .ok (find s, s) := by
  unfold lockSummaries
  rw [Tx.eval_selectForUpdate]
  congr 2
  refine List.filter_eq_self.mpr fun r hr => ?_
  rw [decide_eq_true_eq]
  exact List.mem_map_of_mem (f := fun r : DailyAttendanceSummary => Row.summaryKey r.student d) hr

theorem createSummaries_spec (s : School) (now : Instant) (c : SectionCounters)
    (toCreate : List ℕ) : ∃ s', (createSummaries now c toCreate).eval s = .ok ((), s') ∧
      { s' with summaries := s.summaries } = s ∧
      (∀ r ∈ s'.summaries, r ∈ s.summaries ∨ ∃ x ∈ toCreate, r = c.row now x) ∧
      ∀ r ∈ s.summaries, ¬ (r.attendanceDate = c.attendanceDate ∧ r.student ∈ toCreate) →
        r ∈ s'.summaries := by
  unfold createSummaries
  split_ifs with hnone
  · exact ⟨s, rfl, rfl, fun r hr => .inl hr, fun r hr _ => hr⟩
  · let fresh := toCreate.filter fun x =>
      x ∉ (s.summariesOn c.attendanceDate toCreate).map fun r => r.student
    let inserted := s.addSummaries (fresh.map (c.row now))
    let raced := ((inserted.summariesOn c.attendanceDate toCreate).filter
      fun r => r.calculatedAt < now).map fun r => r.student
    have hraced : ∀ x ∈ raced, x ∈ toCreate := by
      intro x hx
      obtain ⟨r, hr, rfl⟩ := List.mem_map.mp hx
      have hmem := (List.mem_filter.mp (List.mem_filter.mp hr).1).2
      rw [decide_eq_true_eq] at hmem
      exact hmem.2
    refine ⟨inserted.putSummaries c.attendanceDate raced (c.row now), ?_, rfl, ?_, ?_⟩
    · unfold insertSummaries
      simp only [Tx.bind_eq, Tx.eval_bind, Tx.eval_lockRows, eval_ask, Tx.eval_update,
        eval_lockSummaries]
      rfl
    · intro r hr
      rw [School.mem_putSummaries] at hr
      rcases hr with ⟨hr, -⟩ | ⟨old, -, -, hmem, rfl⟩
      · rcases List.mem_append.mp hr with hr | hr
        · exact .inl hr
        · obtain ⟨x, hx, rfl⟩ := List.mem_map.mp hr
          exact .inr ⟨x, (List.mem_filter.mp hx).1, rfl⟩
      · exact .inr ⟨_, hraced _ hmem, rfl⟩
    · intro r hr hnot
      rw [School.mem_putSummaries]
      exact .inl ⟨List.mem_append_left _ hr, fun h => hnot ⟨h.1, hraced _ h.2⟩⟩

theorem writeSummaries_spec (s : School) (now : Instant) (c : SectionCounters) :
    ∃ s', (writeSummaries now c).eval s = .ok (c.students.length, s') ∧
      s.Rewritten s' c.attendanceDate c.students (c.row now) := by
  let existing := s.summariesOn c.attendanceDate c.students
  let toUpdate := c.students.filter fun x => x ∈ existing.map fun r => r.student
  let toCreate := c.students.filter fun x => x ∉ existing.map fun r => r.student
  obtain ⟨s', heval, hrest, hof, hkept⟩ :=
    createSummaries_spec (s.putSummaries c.attendanceDate toUpdate (c.row now)) now c toCreate
  -- An old row of one of the students is among those that are overwritten.
  have hold : ∀ r ∈ s.summaries, r.attendanceDate = c.attendanceDate ∧ r.student ∈ c.students →
      r.student ∈ toUpdate := by
    intro r hr h
    refine List.mem_filter.mpr ⟨h.2, ?_⟩
    rw [decide_eq_true_eq]
    exact List.mem_map_of_mem (f := fun r : DailyAttendanceSummary => r.student)
      (List.mem_filter.mpr ⟨hr, by simpa using h⟩)
  refine ⟨s', ?_, ?_, ?_, ?_⟩
  · unfold writeSummaries
    simp only [Tx.bind_eq, Tx.eval_bind, eval_lockSummaries, Tx.eval_update,
      eval_checkReferences, Tx.pure_eq, Tx.eval_ret]
    rw [heval]
  · calc { s' with summaries := s.summaries }
        = { ({ s' with summaries := (s.putSummaries c.attendanceDate toUpdate
            (c.row now)).summaries } : School) with summaries := s.summaries } := rfl
      _ = { (s.putSummaries c.attendanceDate toUpdate (c.row now)) with
            summaries := s.summaries } := by rw [hrest]
      _ = s := rfl
  · intro r hr
    rcases hof r hr with hr | ⟨x, hx, rfl⟩
    · rw [School.mem_putSummaries] at hr
      rcases hr with ⟨hr, hnot⟩ | ⟨old, -, -, hmem, rfl⟩
      · exact .inl ⟨hr, fun h => hnot ⟨h.1, hold r hr h⟩⟩
      · exact .inr ⟨_, (List.mem_filter.mp hmem).1, rfl⟩
    · exact .inr ⟨x, (List.mem_filter.mp hx).1, rfl⟩
  · intro r hr hnot
    refine hkept r ?_ fun h => hnot ⟨h.1, (List.mem_filter.mp h.2).1⟩
    rw [School.mem_putSummaries]
    exact .inl ⟨hr, fun h => hnot ⟨h.1, (List.mem_filter.mp h.2).1⟩⟩

end SchoolPlatform
