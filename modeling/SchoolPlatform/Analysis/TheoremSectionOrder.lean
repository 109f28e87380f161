import SchoolPlatform.Analysis.SectionRecounts
import SchoolPlatform.Analysis.TheoremTimeline

/-!
# The order of recalculations

Recalculations of the sections of a day, in any order and with repetitions, end with the same rows
and take no counts from a row of another section, just when every student is written by one section
and no row with counts is written by another section without a submitted session
(`recalculations_agree_iff`). A student whose enrollment of the old year is still open is written by
two sections, and the last one decides (`openYear_recalculations_differ`).
-/

namespace SchoolPlatform

open ReadCommitted

variable {s t : School} {d : Date} {now : Instant} {sectionId student : ℕ}
variable {context : AttendanceDayContext}

def School.recalculate (s : School) (d : Date) (now : Instant) (sectionId : ℕ) : School :=
  ((recalculateDailyAttendanceForSection now sectionId d).run s).2

def School.recalculateAll (s : School) (d : Date) (runs : List (Instant × ℕ)) : School :=
  runs.foldl (fun s run => s.recalculate d run.1 run.2) s

/-- But for the times, the rows depend on which sections are recalculated alone. -/
def School.RecalculationsCommute (s : School) (d : Date) : Prop :=
  ∀ runs runs' : List (Instant × ℕ),
    (∀ sectionId, sectionId ∈ runs.map Prod.snd ↔ sectionId ∈ runs'.map Prod.snd) →
      (s.recalculateAll d runs).untimedRows = (s.recalculateAll d runs').untimedRows

/-- No row with counts becomes one without, when another section is recalculated. -/
def School.KeepsCounts (s : School) (d : Date) : Prop :=
  ∀ r ∈ s.summaries, r.attendanceDate = d → 0 < r.submittedPeriods →
    ∀ now sectionId, sectionId ≠ r.sectionId → ∀ r' ∈ (s.recalculate d now sectionId).summaries,
      r'.student = r.student → r'.attendanceDate = d → 0 < r'.submittedPeriods

/-- The section writes a row of the student on the day: it looks at the student, and it has a
submitted session or the day has a year. -/
def School.WritesRow (s : School) (d : Date) (sectionId student : ℕ) : Prop :=
  s.Recounted sectionId d student ∧
    (s.submittedSessions sectionId d ≠ [] ∨ s.dayYear d ≠ none)

def School.OneWriter (s : School) (d : Date) : Prop :=
  ∀ student sectionId sectionId', s.WritesRow d sectionId student →
    s.WritesRow d sectionId' student → sectionId = sectionId'

/-- No row with counts is written by another section that has no submitted session. -/
def School.CountsOwned (s : School) (d : Date) : Prop :=
  ∀ r ∈ s.summaries, r.attendanceDate = d → 0 < r.submittedPeriods →
    ∀ sectionId, sectionId ≠ r.sectionId → s.WritesRow d sectionId r.student →
      s.submittedSessions sectionId d ≠ []

theorem School.yearIn_eq_none_iff (hyear : context.academicYear = s.dayYear d) :
    s.yearIn context sectionId d = none ↔
      s.submittedSessions sectionId d = [] ∧ s.dayYear d = none := by
  unfold School.yearIn
  cases hsessions : s.submittedSessions sectionId d with
  | nil => simp [hyear]
  | cons x xs => simp

theorem School.mem_writerKeys (hyear : context.academicYear = s.dayYear d) {k : ℕ × Date} :
    k ∈ (s.sectionWriters context d).keys sectionId ↔
      k.2 = d ∧ s.WritesRow d sectionId k.1 := by
  unfold School.WritesRow
  rw [← School.mem_recountedStudents]
  cases hc : s.yearIn context sectionId d with
  | none =>
    obtain ⟨hnone, hnoyear⟩ := (School.yearIn_eq_none_iff hyear).mp hc
    simp [Writers.keys, School.sectionWriters, School.counters, hc, hnone, hnoyear]
  | some year =>
    have hsome : s.submittedSessions sectionId d ≠ [] ∨ s.dayYear d ≠ none := by
      by_contra hno
      rw [not_or, not_not, not_not] at hno
      rw [(School.yearIn_eq_none_iff hyear).mpr hno] at hc
      cases hc
    have hcounters : s.counters context sectionId d =
        some (s.countersIn context.attendancePeriods.length sectionId d year) := by
      unfold School.counters
      rw [hc]
      rfl
    constructor
    · rintro ⟨r, ⟨c, hc', x, hx, rfl⟩, rfl⟩
      rw [hcounters] at hc'
      cases hc'
      exact ⟨rfl, hx, hsome⟩
    · rintro ⟨hday, hx, -⟩
      refine ⟨_, ⟨_, hcounters, k.1, hx, rfl⟩, ?_⟩
      exact Prod.ext rfl hday.symm

theorem School.writers_apart_iff (hyear : context.academicYear = s.dayYear d) :
    (s.sectionWriters context d).Apart ↔ s.OneWriter d := by
  constructor
  · intro h student a b ha hb
    exact h.eq_of_mem (k := (student, d)) ((School.mem_writerKeys hyear).mpr ⟨rfl, ha⟩)
      ((School.mem_writerKeys hyear).mpr ⟨rfl, hb⟩)
  · intro h a b hne
    rw [Set.disjoint_left]
    intro k ha hb
    exact hne (h k.1 a b ((School.mem_writerKeys hyear).mp ha).2
      ((School.mem_writerKeys hyear).mp hb).2)

theorem School.writerRows_disjoint (s : School) (context : AttendanceDayContext) (d : Date)
    (a b : ℕ) (hne : a ≠ b) :
    Disjoint ((s.sectionWriters context d).rows a) ((s.sectionWriters context d).rows b) := by
  have hsection : ∀ sectionId, ∀ r ∈ (s.sectionWriters context d).rows sectionId,
      r.sectionId = sectionId := by
    rintro sectionId r ⟨c, hc, x, -, rfl⟩
    unfold School.counters at hc
    obtain ⟨year, -, rfl⟩ := Option.map_eq_some_iff.mp hc
    rfl
  rw [Set.disjoint_left]
  intro r ha hb
  exact hne ((hsection a r ha).symm.trans (hsection b r hb))

theorem School.sectionWriters_of_base (h : t.base = s.base) :
    t.sectionWriters context d = s.sectionWriters context d := by
  unfold School.sectionWriters
  simp only [School.counters_of_base h]

theorem recalculate_writes (now : Instant) (sectionId : ℕ) (h : t.dayContextOn d = some context) :
    (t.recalculate d now sectionId).base = t.base ∧
      (t.recalculate d now sectionId).dayContextOn d = some context ∧
      (t.recalculate d now sectionId).untimedRows =
        (t.sectionWriters context d).write t.untimedRows sectionId :=
  run_recalculation h

theorem untimedRows_recalculateAll_of_some (runs : List (Instant × ℕ))
    (h : t.dayContextOn d = some context) :
    (t.recalculateAll d runs).untimedRows =
      (t.sectionWriters context d).writeAll t.untimedRows (runs.map Prod.snd) := by
  induction runs generalizing t with
  | nil => rfl
  | cons run runs ih =>
    obtain ⟨hbase, hcontext, hrows⟩ := recalculate_writes run.1 run.2 h
    rw [School.recalculateAll, List.foldl_cons]
    refine (ih hcontext).trans ?_
    rw [School.sectionWriters_of_base hbase, hrows]
    rfl

theorem recalculate_of_run {s₁ : School}
    (hrun : (getOrCreateAttendanceDayContext d).run s = (.ok context, s₁))
    (hsome : s₁.dayContextOn d = some context) (now : Instant) (sectionId : ℕ) :
    s.recalculate d now sectionId = s₁.recalculate d now sectionId := by
  unfold School.recalculate recalculateDailyAttendanceForSection readSectionCounters
  simp only [Program.bind_eq, Program.bind_assoc]
  rw [Program.run_bind, Program.run_bind, hrun, run_getOrCreate_of_some hsome]

theorem exists_untimedRows_recalculateAll (s : School) (d : Date) :
    ∃ context, context.academicYear = s.dayYear d ∧ ∀ runs,
      (s.recalculateAll d runs).untimedRows =
        (s.sectionWriters context d).writeAll s.untimedRows (runs.map Prod.snd) := by
  obtain ⟨context, s₁, hrun, hyear, hsome, hbase, hrows⟩ :=
    run_getOrCreateAttendanceDayContext s d
  refine ⟨context, hyear, fun runs => ?_⟩
  cases runs with
  | nil => rfl
  | cons run runs =>
    have hfirst : s.recalculateAll d (run :: runs) = s₁.recalculateAll d (run :: runs) := by
      unfold School.recalculateAll
      rw [List.foldl_cons, List.foldl_cons, recalculate_of_run hrun hsome]
    have huntimed : s₁.untimedRows = s.untimedRows := by
      unfold School.untimedRows
      rw [hrows]
    rw [hfirst, untimedRows_recalculateAll_of_some _ hsome, School.sectionWriters_of_base hbase,
      huntimed]

theorem recalculationsCommute_iff (s : School) (d : Date) :
    s.RecalculationsCommute d ↔ s.OneWriter d := by
  obtain ⟨context, hyear, hall⟩ := exists_untimedRows_recalculateAll s d
  rw [← School.writers_apart_iff hyear, ← Writers.writeAll_congr_iff (T := s.untimedRows)
    (School.writerRows_disjoint s context d)]
  constructor
  · intro h l l' hsame
    have hmap : ∀ l : List ℕ, (l.map fun sectionId => ((0 : Instant), sectionId)).map Prod.snd =
        l := by
      intro l
      rw [List.map_map]
      exact List.map_id l
    have hrows := h (l.map fun sectionId => (0, sectionId))
      (l'.map fun sectionId => (0, sectionId)) (by rw [hmap, hmap]; exact hsame)
    rw [hall, hall, hmap, hmap] at hrows
    exact hrows
  · intro h runs runs' hsame
    rw [hall, hall]
    exact h _ _ hsame

theorem School.submitted_of_writerRow {r : DailyAttendanceSummary}
    (h : r ∈ (s.sectionWriters context d).rows sectionId) :
    r.submittedPeriods =
      ((s.submittedSessions sectionId d).map fun x => x.periodSequence).dedup.length := by
  obtain ⟨c, hc, x, -, rfl⟩ := h
  unfold School.counters at hc
  obtain ⟨year, -, rfl⟩ := Option.map_eq_some_iff.mp hc
  rfl

theorem dedup_length_pos_iff {l : List AttendanceSession} :
    0 < (l.map fun x => x.periodSequence).dedup.length ↔ l ≠ [] := by
  rw [List.length_pos_iff, ne_eq, List.dedup_eq_nil, List.map_eq_nil_iff]

theorem keepsCounts_iff (hkeys : (s.summaries.map fun r => (r.attendanceDate, r.student)).Nodup) :
    s.KeepsCounts d ↔ s.CountsOwned d := by
  obtain ⟨context, hyear, hall⟩ := exists_untimedRows_recalculateAll s d
  have hone : ∀ now sectionId, (s.recalculate d now sectionId).untimedRows =
      (s.sectionWriters context d).write s.untimedRows sectionId :=
    fun now sectionId => hall [(now, sectionId)]
  constructor
  · intro hkeeps r hr hday hcounts sectionId hother hwrites
    obtain ⟨row, hrow, hkey⟩ :=
      (School.mem_writerKeys hyear (k := (r.student, d))).mpr ⟨rfl, hwrites⟩
    have hmem : row ∈ (s.recalculate d 0 sectionId).untimedRows := by
      rw [hone]
      exact .inr hrow
    obtain ⟨r', hr', rfl⟩ := hmem
    have hstudent : r'.student = r.student := congrArg Prod.fst hkey
    have hday' : r'.attendanceDate = d := congrArg Prod.snd hkey
    have hpos := hkeeps r hr hday hcounts 0 sectionId hother r' hr' hstudent hday'
    have hsubmitted := School.submitted_of_writerRow hrow
    have hsame : r'.untimed.submittedPeriods = r'.submittedPeriods := rfl
    rw [← hsame, hsubmitted] at hpos
    exact dedup_length_pos_iff.mp hpos
  · intro howned r hr hday hcounts now sectionId hother r' hr' hstudent hday'
    have hmem : r'.untimed ∈ (s.recalculate d now sectionId).untimedRows := ⟨r', hr', rfl⟩
    rw [hone] at hmem
    rcases hmem with ⟨⟨old, hold, heq⟩, -⟩ | hrow
    · -- A row that is left is the row from before.
      have hsame : old = r := by
        apply Table.eq_of_key_eq hkeys hold hr
        have hstudent' : old.student = r'.student :=
          (congrArg DailyAttendanceSummary.student heq :)
        have hdate : old.attendanceDate = r'.attendanceDate :=
          (congrArg DailyAttendanceSummary.attendanceDate heq :)
        rw [hstudent', hstudent, hdate, hday', hday]
      have hsubmitted : old.submittedPeriods = r'.submittedPeriods :=
        (congrArg DailyAttendanceSummary.submittedPeriods heq :)
      rw [← hsubmitted, hsame]
      exact hcounts
    · have hkey : (r.student, d) ∈ (s.sectionWriters context d).keys sectionId :=
        ⟨_, hrow, Prod.ext hstudent hday'⟩
      have hwrites := ((School.mem_writerKeys hyear).mp hkey).2
      have hsubmitted := School.submitted_of_writerRow hrow
      have hsame : r'.untimed.submittedPeriods = r'.submittedPeriods := rfl
      rw [← hsame, hsubmitted]
      exact dedup_length_pos_iff.mpr (howned r hr hday hcounts sectionId hother hwrites)

/-- **The order of recalculations.** -/
theorem recalculations_agree_iff
    (hkeys : (s.summaries.map fun r => (r.attendanceDate, r.student)).Nodup) (d : Date) :
    s.RecalculationsCommute d ∧ s.KeepsCounts d ↔ s.OneWriter d ∧ s.CountsOwned d := by
  rw [recalculationsCommute_iff, keepsCounts_iff hkeys]

def timetabledOffice : Office where
  school :=
    { registry :=
        { memberships := [⟨1, "teacher", none, [.teacher]⟩]
          academicYears := [⟨1, 1, 300, .active, none⟩, ⟨2, 301, 600, .upcoming, none⟩]
          weekDays := [⟨0, true, some 1⟩]
          bellSchedules := [{ id := 1, name := "week" }]
          bellPeriods := [⟨1, 1, "first", 25200, 27900, true⟩]
          grades := [⟨1, "first", "1", 1, true⟩]
          sections := [⟨2, 1, "a", "1", "", true⟩, ⟨3, 1, "b", "2", "", true⟩] } }
  nextId := 10

def absentInNewSection : List Event :=
  [ .request (.startSession 1 1 2 3 315 1),
    .request (.submitSession (fixedClock 2) 1 1 [⟨10, "ABSENT"⟩]) ]

def openYearSchool : School :=
  (timetabledOffice.play plainTexts
    [ .createStudent 10 2 firstStudent,
      .activateYear 2,
      .updateStudent 310 10 (some 3) {} ]).school.play absentInNewSection

def oneYearSchool : School :=
  (timetabledOffice.play plainTexts
    [.activateYear 2, .createStudent 310 3 firstStudent]).school.play absentInNewSection

theorem School.WritesRow.eq_of_only {k : ℕ} (h : s.WritesRow d sectionId student)
    (henrollments : ∀ e ∈ s.registry.enrollments, e.sectionId = k)
    (hsessions : ∀ x ∈ s.sessions, x.sectionId = k) : sectionId = k := by
  rcases h.1 with ⟨e, he, -, -, rfl⟩ | ⟨⟨m, -, -, x, hx, -⟩, -⟩
  · exact henrollments e he
  · obtain ⟨hmem, hslot⟩ := List.mem_filter.mp hx
    rw [decide_eq_true_eq] at hslot
    rw [← hslot.1]
    exact hsessions x hmem

theorem oneYear_recalculations_agree :
    oneYearSchool.RecalculationsCommute 315 ∧ oneYearSchool.KeepsCounts 315 := by
  have henrollments : ∀ e ∈ oneYearSchool.registry.enrollments, e.sectionId = 3 := by
    decide +kernel
  have hsessions : ∀ x ∈ oneYearSchool.sessions, x.sectionId = 3 := by decide +kernel
  have hrows : ∀ r ∈ oneYearSchool.summaries, r.sectionId = 3 := by decide +kernel
  refine (recalculations_agree_iff (by decide +kernel) 315).mpr ⟨?_, ?_⟩
  · intro student a b ha hb
    rw [ha.eq_of_only henrollments hsessions, hb.eq_of_only henrollments hsessions]
  · intro r hr _ _ sectionId hother hwrites
    rw [hrows r hr] at hother
    exact absurd (hwrites.eq_of_only henrollments hsessions) hother

/-- The recalculation of the old section takes the absence away. -/
theorem openYear_recalculations_differ :
    ¬ openYearSchool.RecalculationsCommute 315 ∧ ¬ openYearSchool.KeepsCounts 315 := by
  have hyear : openYearSchool.dayYear 315 ≠ none := by decide +kernel
  have hold : openYearSchool.WritesRow 315 2 10 := ⟨.inl (by decide +kernel), .inr hyear⟩
  have hnew : openYearSchool.WritesRow 315 3 10 := ⟨.inl (by decide +kernel), .inr hyear⟩
  rw [recalculationsCommute_iff, keepsCounts_iff (by decide +kernel)]
  constructor
  · intro hone
    exact absurd (hone 10 2 3 hold hnew) (by decide)
  · intro howned
    have hrow : ⟨10, 315, 2, 3, 1, 1, 1, 0, 0, 1, .complete, .full, 2⟩ ∈
        openYearSchool.summaries := by decide +kernel
    exact howned _ hrow rfl (by decide) 2 (by decide) hold (by decide +kernel)

end SchoolPlatform
