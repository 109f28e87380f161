import SchoolPlatform.Library.Overwrites
import SchoolPlatform.Analysis.SummaryRepair

/-!
# One recalculation as a writer

But for the time of the calculation, what a recalculation leaves behind is the table before with
the rows of the students it looks at written over (`run_recalculation`). The rows it writes do not
depend on the rows that are there.
-/

namespace SchoolPlatform

open ReadCommitted

variable {s s' t : School} {d : Date} {now : Instant} {sectionId student : ℕ}
variable {context : AttendanceDayContext}

def School.base (s : School) : School := { s with dayContexts := [], summaries := [] }

def School.dayYear (s : School) (d : Date) : Option ℕ :=
  match s.dayContextOn d with
  | some context => context.academicYear
  | none => (s.academicYearOn d).map fun y => y.id

def DailyAttendanceSummary.untimed (r : DailyAttendanceSummary) : DailyAttendanceSummary :=
  { r with calculatedAt := 0 }

def School.untimedRows (s : School) : Set DailyAttendanceSummary :=
  { r | ∃ row ∈ s.summaries, row.untimed = r }

def School.sectionWriters (s : School) (context : AttendanceDayContext) (d : Date) :
    Writers ℕ DailyAttendanceSummary (ℕ × Date) where
  key r := (r.student, r.attendanceDate)
  rows sectionId :=
    { r | ∃ c, s.counters context sectionId d = some c ∧ ∃ x ∈ c.students, c.row 0 x = r }

theorem School.counters_of_base (h : t.base = s.base) :
    t.counters context sectionId d = s.counters context sectionId d := by
  have ht : t = { s with dayContexts := t.dayContexts, summaries := t.summaries } := by
    simp only [School.base, School.mk.injEq] at h
    obtain ⟨h₁, -, h₃, h₄, h₅, h₆, h₇, h₈, -⟩ := h
    cases s
    cases t
    simp_all
  rw [ht]
  rfl

theorem run_getOrCreate_of_none {context : AttendanceDayContext}
    (hnone : s.dayContextOn d = none)
    (hfresh : (freshAttendanceDayContext d : Operation AttendanceDayContext).Answers s context)
    (hdate : context.attendanceDate = d) :
    (getOrCreateAttendanceDayContext d).run s = (.ok context, s.addDayContext context) := by
  have hexisting : (ask fun s => s.dayContextOn d : Operation _).Answers s none := hnone
  have heval : (insertDayContext context).eval s = .ok (true, s.addDayContext context) := by
    unfold insertDayContext
    simp only [Tx.bind_eq, Tx.eval_bind, Tx.eval_lockRows, eval_ask, hdate, hnone, Tx.eval_update,
      Tx.pure_eq, Tx.eval_ret]
  unfold getOrCreateAttendanceDayContext
  rw [Program.bind_eq, hexisting.run_bind]
  simp only [Program.bind_eq, hfresh.run_bind]
  unfold Program.transaction
  simp only [Program.bind, Program.run, heval, if_true, Program.pure_eq]

theorem run_getOrCreateAttendanceDayContext (s : School) (d : Date) : ∃ context s₁,
    (getOrCreateAttendanceDayContext d).run s = (.ok context, s₁) ∧
      context.academicYear = s.dayYear d ∧ s₁.dayContextOn d = some context ∧
      s₁.base = s.base ∧ s₁.summaries = s.summaries := by
  unfold School.dayYear
  cases hc : s.dayContextOn d with
  | some context =>
    have hexisting : (ask fun s => s.dayContextOn d : Operation _).Answers s (some context) := hc
    unfold getOrCreateAttendanceDayContext
    rw [Program.bind_eq, hexisting.run_bind]
    exact ⟨context, s, rfl, rfl, hc, rfl, rfl⟩
  | none =>
    obtain ⟨context, hfresh, hdate, hyear⟩ := freshAttendanceDayContext_year s d
    refine ⟨context, s.addDayContext context, run_getOrCreate_of_none hc hfresh hdate, hyear, ?_,
      rfl, rfl⟩
    unfold School.dayContextOn School.addDayContext at *
    rw [List.find?_append, hc]
    simp [hdate]

theorem run_getOrCreate_of_some (h : s.dayContextOn d = some context) :
    (getOrCreateAttendanceDayContext d).run s = (.ok context, s) := by
  unfold getOrCreateAttendanceDayContext
  have hexisting : (ask fun s => s.dayContextOn d : Operation _).Answers s (some context) := h
  rw [Program.bind_eq, hexisting.run_bind]
  rfl

theorem createSummaries_writes {c : SectionCounters} {toCreate : List ℕ}
    (heval : (createSummaries now c toCreate).eval s = .ok ((), s'))
    (hnew : ∀ x ∈ toCreate, ∀ r ∈ s.summaries, r.attendanceDate = c.attendanceDate →
      r.student ≠ x) : ∀ x ∈ toCreate, c.row now x ∈ s'.summaries := by
  intro x hx
  unfold createSummaries at heval
  rw [if_neg (List.ne_nil_of_mem hx)] at heval
  unfold insertSummaries at heval
  simp only [Tx.bind_eq, Tx.eval_bind, Tx.eval_lockRows, eval_ask, Tx.eval_update,
    eval_lockSummaries, Except.ok.injEq, Prod.mk.injEq, true_and] at heval
  rw [← heval, School.mem_putSummaries]
  have hfree : x ∉ (s.summariesOn c.attendanceDate toCreate).map fun r => r.student := by
    intro hmem
    obtain ⟨r, hr, hrx⟩ := List.mem_map.mp hmem
    obtain ⟨hr, hkey⟩ := List.mem_filter.mp hr
    rw [decide_eq_true_eq] at hkey
    exact hnew x hx r hr hkey.1 hrx
  have hinserted : c.row now x ∈ (s.addSummaries ((toCreate.filter fun y =>
      y ∉ (s.summariesOn c.attendanceDate toCreate).map fun r => r.student).map
        (c.row now))).summaries := by
    apply List.mem_append_right
    apply List.mem_map_of_mem
    exact List.mem_filter.mpr ⟨hx, by simpa using hfree⟩
  by_cases hraced : x ∈ (((s.addSummaries ((toCreate.filter fun y =>
      y ∉ (s.summariesOn c.attendanceDate toCreate).map fun r => r.student).map
        (c.row now))).summariesOn c.attendanceDate toCreate).filter
          fun r => r.calculatedAt < now).map fun r => r.student
  · exact .inr ⟨_, hinserted, rfl, hraced, rfl⟩
  · exact .inl ⟨hinserted, fun h => hraced h.2⟩

theorem writeSummaries_writes {c : SectionCounters} {n : ℕ}
    (heval : (writeSummaries now c).eval s = .ok (n, s')) :
    ∀ x ∈ c.students, c.row now x ∈ s'.summaries := by
  intro x hx
  unfold writeSummaries at heval
  simp only [Tx.bind_eq, Tx.eval_bind, eval_lockSummaries, Tx.eval_update] at heval
  let d := c.attendanceDate
  let existing := s.summariesOn d c.students
  let toUpdate := c.students.filter fun x => x ∈ existing.map fun r => r.student
  let toCreate := c.students.filter fun x => x ∉ existing.map fun r => r.student
  obtain ⟨s₁, hcreate, -, -, hkept⟩ :=
    createSummaries_spec (s.putSummaries d toUpdate (c.row now)) now c toCreate
  have hcreate' := hcreate
  simp only [d, existing, toUpdate, toCreate] at hcreate'
  rw [hcreate'] at heval
  simp only [eval_checkReferences, Tx.pure_eq, Tx.eval_ret, Except.ok.injEq,
    Prod.mk.injEq] at heval
  rw [← heval.2]
  by_cases hold : x ∈ existing.map fun r => r.student
  · have hput : c.row now x ∈ (s.putSummaries d toUpdate (c.row now)).summaries := by
      obtain ⟨r, hr, hrx⟩ := List.mem_map.mp hold
      obtain ⟨hmem, hkey⟩ := List.mem_filter.mp hr
      rw [decide_eq_true_eq] at hkey
      rw [School.mem_putSummaries]
      refine .inr ⟨r, hmem, hkey.1, ?_, by rw [hrx]⟩
      rw [hrx]
      exact List.mem_filter.mpr ⟨hx, by simpa using hold⟩
    refine hkept _ hput ?_
    rintro ⟨-, hmem⟩
    have hnot := (List.mem_filter.mp hmem).2
    rw [decide_eq_true_eq] at hnot
    exact hnot hold
  · refine createSummaries_writes hcreate ?_ x (List.mem_filter.mpr ⟨hx, by simpa using hold⟩)
    intro y hy r hr hday hry
    obtain ⟨hyc, hynot⟩ := List.mem_filter.mp hy
    rw [decide_eq_true_eq] at hynot
    rw [School.mem_putSummaries] at hr
    rcases hr with ⟨hr, -⟩ | ⟨old, hold', hday', hmem, rfl⟩
    · apply hynot
      rw [← hry]
      refine List.mem_map_of_mem (f := fun r : DailyAttendanceSummary => r.student) ?_
      exact List.mem_filter.mpr ⟨hr, by rw [decide_eq_true_eq]; exact ⟨hday, hry ▸ hyc⟩⟩
    · have hstudent : old.student = y := hry
      rw [← hstudent] at hynot
      have hupdated := (List.mem_filter.mp hmem).2
      rw [decide_eq_true_eq] at hupdated
      exact hynot hupdated

theorem run_recalculation (h : t.dayContextOn d = some context) :
    ((recalculateDailyAttendanceForSection now sectionId d).run t).2.base = t.base ∧
      ((recalculateDailyAttendanceForSection now sectionId d).run t).2.dayContextOn d =
        some context ∧
      ((recalculateDailyAttendanceForSection now sectionId d).run t).2.untimedRows =
        (t.sectionWriters context d).write t.untimedRows sectionId := by
  have hrun : (recalculateDailyAttendanceForSection now sectionId d).run t =
      (writeCounters now (t.counters context sectionId d)).run t := by
    unfold recalculateDailyAttendanceForSection readSectionCounters
    simp only [Program.bind_eq, Program.bind_assoc]
    rw [Program.run_bind, run_getOrCreate_of_some h]
    exact (readCounters_run t context sectionId d).run_bind _
  rw [hrun]
  cases hc : t.counters context sectionId d with
  | none =>
    refine ⟨rfl, h, ?_⟩
    ext r
    have hnone : (t.sectionWriters context d).rows sectionId = ∅ := by
      ext r
      simp [School.sectionWriters, hc]
    rw [Writers.mem_write, Writers.keys, hnone]
    simp [writeCounters, Program.run]
  | some c =>
    obtain ⟨t', heval, hrewritten⟩ := writeSummaries_spec t now c
    have hwrites := writeSummaries_writes heval
    have hend : ((writeCounters now (some c)).run t).2 = t' := by
      simp only [writeCounters, Program.transaction, Program.run, heval]
    rw [hend]
    have hrest := hrewritten.rest
    have hcontexts : t'.dayContexts = t.dayContexts := (congrArg School.dayContexts hrest :)
    have hbase : t'.base = t.base := (congrArg School.base hrest :)
    have hday : c.attendanceDate = d := by
      unfold School.counters at hc
      obtain ⟨year, -, rfl⟩ := Option.map_eq_some_iff.mp hc
      rfl
    refine ⟨hbase, ?_, ?_⟩
    · unfold School.dayContextOn at h ⊢
      rw [hcontexts]
      exact h
    · have hkeys : ∀ r : DailyAttendanceSummary, (t.sectionWriters context d).key r ∈
          (t.sectionWriters context d).keys sectionId ↔
            r.attendanceDate = d ∧ r.student ∈ c.students := by
        intro r
        constructor
        · rintro ⟨row, ⟨c', hc', x, hx, rfl⟩, hkey⟩
          rw [hc] at hc'
          cases hc'
          simp only [School.sectionWriters, Prod.mk.injEq] at hkey
          have hstudent : x = r.student := hkey.1
          have hdate : c.attendanceDate = r.attendanceDate := hkey.2
          exact ⟨by rw [← hdate, hday], hstudent ▸ hx⟩
        · rintro ⟨hdate, hx⟩
          refine ⟨c.row 0 r.student, ⟨c, hc, r.student, hx, rfl⟩, ?_⟩
          simp only [School.sectionWriters, Prod.mk.injEq]
          exact ⟨rfl, by rw [hdate, ← hday]; rfl⟩
      ext r
      rw [Writers.mem_write, hkeys]
      constructor
      · rintro ⟨row, hrow, rfl⟩
        rcases hrewritten.of_mem row hrow with ⟨hold, hnot⟩ | ⟨x, hx, rfl⟩
        · rw [hday] at hnot
          exact .inl ⟨⟨row, hold, rfl⟩, hnot⟩
        · exact .inr ⟨c, hc, x, hx, rfl⟩
      · rintro (⟨⟨row, hrow, rfl⟩, hnot⟩ | ⟨c', hc', x, hx, rfl⟩)
        · have hnot' : ¬ (row.attendanceDate = c.attendanceDate ∧ row.student ∈ c.students) := by
            rw [hday]
            exact hnot
          exact ⟨row, hrewritten.kept row hrow hnot', rfl⟩
        · rw [hc] at hc'
          cases hc'
          exact ⟨_, hwrites x hx, rfl⟩

end SchoolPlatform
