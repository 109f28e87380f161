import SchoolPlatform.Analysis.SummaryFacts
import SchoolPlatform.Analysis.TheoremCoverage

/-!
# Daily summaries as derived data

The requests that change the marks of one section and date commit the change first, reconcile
coverage after it and recalculate the rows of the section and date last (`Upkeep`).
`summaryRepair` is that discipline as an instance of `DeferredRepair` with a single key: the rows
of the section and date are right, or somebody still recalculates them.
-/

/-! ## What the single steps do to daily summaries -/

namespace SchoolPlatform

open ReadCommitted

variable {s s' : School}

def AttendanceSession.CountsFor (x : AttendanceSession) (r : DailyAttendanceSummary) : Prop :=
  x.sectionId = r.sectionId ∧ x.attendanceDate = r.attendanceDate

theorem School.mem_submittedIds (sectionId : ℕ) (d : Date) (id : ℕ) :
    id ∈ s.submittedIds sectionId d ↔ ∃ x ∈ s.sessions, x.sectionId = sectionId ∧
      x.attendanceDate = d ∧ x.status = .submitted ∧ x.id = id := by
  unfold School.submittedIds School.submittedSessions
  simp only [List.mem_map, List.mem_filter, decide_eq_true_eq, and_assoc]

theorem School.Keyed.submittedIds_putSession (hs : s.Keyed) {x x' : AttendanceSession}
    (hx : x ∈ s.sessions) (h : x.SameSlot x') (sectionId : ℕ) (d : Date)
    (hsame : x.sectionId = sectionId ∧ x.attendanceDate = d → x'.status = x.status) :
    (s.putSession x').submittedIds sectionId d = s.submittedIds sectionId d := by
  unfold School.submittedIds School.submittedSessions School.putSession Table.put
  simp only [List.filter_map, List.map_map]
  have hput : ∀ y ∈ s.sessions, y.id = x'.id → y = x := fun y hy hid =>
    hs.session_unique hy hx (hid.trans h.id)
  have hfilter : s.sessions.filter ((fun x : AttendanceSession => decide (x.sectionId = sectionId ∧
      x.attendanceDate = d ∧ x.status = .submitted)) ∘ fun y => if y.id = x'.id then x' else y) =
      s.sessions.filter fun x => decide (x.sectionId = sectionId ∧ x.attendanceDate = d ∧
        x.status = .submitted) := by
    refine List.filter_congr fun y hy => ?_
    by_cases hid : y.id = x'.id
    · obtain rfl := hput y hy hid
      simp only [Function.comp_apply, hid, if_true, h.section_, h.date, decide_eq_decide]
      constructor
      · rintro ⟨h₁, h₂, h₃⟩
        exact ⟨h₁, h₂, hsame ⟨h₁, h₂⟩ ▸ h₃⟩
      · rintro ⟨h₁, h₂, h₃⟩
        exact ⟨h₁, h₂, (hsame ⟨h₁, h₂⟩).trans h₃⟩
    · simp [hid]
  rw [hfilter]
  refine List.map_congr_left fun y hy => ?_
  by_cases hid : y.id = x'.id
  · simp [hid]
  · simp [hid]

theorem School.Sound.rowRight_putSession (hs : s.Sound) {x x' : AttendanceSession}
    (hx : x ∈ s.sessions) (h : x.SameSlot x') {r : DailyAttendanceSummary}
    (hsame : x.CountsFor r → x'.status = x.status) :
    (s.putSession x').RowRight r ↔ s.RowRight r :=
  School.RowRight.congr hs.toKeyed (hs.putSession hx h).toKeyed
    (hs.toKeyed.submittedIds_putSession hx h _ _ hsame) (fun _ _ => .rfl) (fun _ _ => .rfl)

theorem School.Keyed.ne_of_mem_submittedIds (hs : s.Keyed) {x : AttendanceSession}
    (hx : x ∈ s.sessions) {r : DailyAttendanceSummary} (hno : ¬ x.CountsFor r) {id : ℕ}
    (hid : id ∈ s.submittedIds r.sectionId r.attendanceDate) : id ≠ x.id := by
  rintro rfl
  obtain ⟨y, hy, hsec, hd, -, hyx⟩ := (School.mem_submittedIds _ _ _).mp hid
  have hsame : y = x := hs.session_unique hy hx hyx
  subst hsame
  exact hno ⟨hsec, hd⟩

theorem School.mem_markedStudents (session student : ℕ) :
    student ∈ s.markedStudents session ↔ s.Absent session student := by
  unfold School.markedStudents School.marksOf School.Absent
  rw [List.mem_map]
  constructor
  · rintro ⟨m, hm, hst⟩
    rw [List.mem_filter, decide_eq_true_eq] at hm
    exact ⟨m, hm.1, hm.2, hst, m.status.eq_absent⟩
  · rintro ⟨m, hm, hses, hst, -⟩
    exact ⟨m, List.mem_filter.mpr ⟨hm, by simpa using hses⟩, hst⟩

theorem School.Sound.rowRight_reconciled (hs : s.Sound) (now : Instant) (d : Date)
    (studentIds : Option (List ℕ)) {r : DailyAttendanceSummary}
    (hexact : ∀ x ∈ s.sessions, x.CountsFor r → x.status = .submitted →
      (s.Covered x.id r.student ↔ s.Justified x r.student)) :
    (s.reconciled now d studentIds).RowRight r ↔ s.RowRight r := by
  refine School.RowRight.congr hs.toKeyed (hs.reconciled now d studentIds).toKeyed rfl
    (fun _ _ => .rfl) ?_
  intro id hid
  obtain ⟨x, hx, hsec, hd, hsub, rfl⟩ := (School.mem_submittedIds _ _ _).mp hid
  rw [hs.covered_reconciled now d studentIds hx]
  split_ifs
  · exact (hexact x hx ⟨hsec, hd⟩ hsub).symm
  · rfl

/-- A recalculation that is still to come, or has read the context of the day. -/
inductive Recounting (sectionId : ℕ) (d : Date) : Operation Unit → Prop
  | start (now : Instant) (g : ℕ → Operation Unit) (hg : ∀ n, (g n).Ended) :
      Recounting sectionId d ((recalculateDailyAttendanceForSection now sectionId d).bind g)
  | read (context : AttendanceDayContext) (now : Instant) (g : ℕ → Operation Unit)
      (hg : ∀ n, (g n).Ended) :
      Recounting sectionId d
        (((readCounters context sectionId d).bind (writeCounters now)).bind g)

theorem buildDayScheduleSnapshot_answers (s : School) (d : Date) : ∃ snapshot,
    (buildDayScheduleSnapshot d : Operation DayScheduleSnapshot).Answers s snapshot := by
  unfold buildDayScheduleSnapshot
  have hday : (ask fun s => s.weekDayOf d : Operation _).Answers s (s.weekDayOf d) := rfl
  rcases hw : s.weekDayOf d with _ | ⟨w, _ | schedule⟩
  · rw [hw] at hday
    exact ⟨_, hday.bind rfl⟩
  · rw [hw] at hday
    exact ⟨_, hday.bind rfl⟩
  · rw [hw] at hday
    by_cases hschool : w.isSchoolDay = true
    · refine ⟨{ bellScheduleId := some schedule.id
                scheduleName := some schedule.name
                isSchoolDay := true
                periods := (s.periodsOf schedule.id).map BellPeriod.snapshot }, hday.bind ?_⟩
      dsimp only
      rw [if_pos hschool]
      exact Program.Answers.bind (a := s.periodsOf schedule.id) rfl rfl
    · refine ⟨emptyDaySchedule, hday.bind ?_⟩
      dsimp only
      rw [if_neg hschool]
      rfl

theorem freshAttendanceDayContext_year (s : School) (d : Date) : ∃ context,
    (freshAttendanceDayContext d : Operation AttendanceDayContext).Answers s context ∧
      context.attendanceDate = d ∧
      context.academicYear = (s.academicYearOn d).map fun y => y.id := by
  have hsnapshot : ∀ useCurrent, ∃ snapshot,
      (daySchedule useCurrent d : Operation DayScheduleSnapshot).Answers s snapshot := by
    intro useCurrent
    unfold daySchedule
    split_ifs
    · exact buildDayScheduleSnapshot_answers s d
    · exact ⟨_, rfl⟩
  obtain ⟨snapshot, h⟩ := hsnapshot (useCurrentSchedule (s.academicYearOn d) s.activeYear)
  unfold freshAttendanceDayContext
  exact ⟨_, Program.Answers.bind rfl (Program.Answers.bind rfl (Program.Answers.bind rfl
    (h.bind rfl))), rfl, rfl⟩

theorem advance_getOrCreateAttendanceDayContext {α : Type} (s : School) (d : Date)
    (h : AttendanceDayContext → Operation α) : ∃ context,
      ((getOrCreateAttendanceDayContext d).bind h).advance s = (h context).advance s ∨
      ((getOrCreateAttendanceDayContext d).bind h).advance s =
        (h context, s.addDayContext context) := by
  unfold getOrCreateAttendanceDayContext
  have hexisting : (ask fun s => s.dayContextOn d : Operation _).Answers s (s.dayContextOn d) :=
    rfl
  rw [Program.bind_eq, Program.bind_assoc]
  cases hc : s.dayContextOn d with
  | some context =>
    rw [hc] at hexisting
    exact ⟨context, .inl (hexisting.advance_bind _)⟩
  | none =>
    rw [hc] at hexisting
    obtain ⟨context, hfresh, hdate, -⟩ := freshAttendanceDayContext_year s d
    refine ⟨context, .inr ?_⟩
    rw [hexisting.advance_bind, Program.bind_eq, Program.bind_assoc, hfresh.advance_bind]
    have heval : (insertDayContext context).eval s = .ok (true, s.addDayContext context) := by
      unfold insertDayContext
      simp only [Tx.bind_eq, Tx.eval_bind, Tx.eval_lockRows, eval_ask, hdate, hc, Tx.eval_update,
        Tx.pure_eq, Tx.eval_ret]
    show (insertDayContext context).outcome _ s = _
    unfold Tx.outcome
    rw [heval]
    rfl

theorem Recounting.advance (hs : s.Keyed) {sectionId : ℕ} {d : Date} {p : Operation Unit}
    (hp : Recounting sectionId d p) :
    (Recounting sectionId d (p.advance s).1 ∧
        ∃ context, (p.advance s).2 = s.addDayContext context) ∨
      ((p.advance s).1.Ended ∧ (p.advance s).2 = s ∧ s.submittedSessions sectionId d = []) ∨
      ((p.advance s).1.Ended ∧ ∃ row : ℕ → DailyAttendanceSummary,
        s.Rewritten (p.advance s).2 d (s.recountedStudents sectionId d) row ∧
        ∀ x, s.RowRight (row x) ∧ (row x).sectionId = sectionId ∧ (row x).attendanceDate = d) := by
  have hread : ∀ (context : AttendanceDayContext) (now : Instant) (g : ℕ → Operation Unit),
      (∀ n, (g n).Ended) → ∀ q s',
      (((readCounters context sectionId d).bind (writeCounters now)).bind g).advance s = (q, s') →
      (q.Ended ∧ s' = s ∧ s.submittedSessions sectionId d = []) ∨
      (q.Ended ∧ ∃ row : ℕ → DailyAttendanceSummary,
        s.Rewritten s' d (s.recountedStudents sectionId d) row ∧
        ∀ x, s.RowRight (row x) ∧ (row x).sectionId = sectionId ∧ (row x).attendanceDate = d) := by
    intro context now g hg q s' hadv
    rw [Program.bind_assoc, (readCounters_run s context sectionId d).advance_bind] at hadv
    rcases s.counters_cases context sectionId d with ⟨hc, hnone⟩ | ⟨expected, year, hc⟩ <;>
      rw [hc] at hadv
    · have hend : ((writeCounters now none).bind g).advance s = (g 0, s) := (hg 0).advance s
      rw [hend] at hadv
      cases hadv
      exact .inl ⟨hg 0, rfl, hnone⟩
    · obtain ⟨s'', heval, hrewritten⟩ :=
        writeSummaries_spec s now (s.countersIn expected sectionId d year)
      have houtcome : ((writeCounters now (some (s.countersIn expected sectionId d year))).bind
          g).advance s = (g (s.countersIn expected sectionId d year).students.length, s'') := by
        show (writeSummaries now _).outcome _ s = _
        unfold Tx.outcome
        rw [heval]
        rfl
      rw [houtcome] at hadv
      cases hadv
      refine .inr ⟨hg _, _, hrewritten, fun x => ⟨?_, rfl, rfl⟩⟩
      exact hs.rowRight_countersIn sectionId d x expected year now
  cases hp with
  | read context now g hg => exact .inr (hread context now g hg _ _ rfl)
  | start now g hg =>
    have hunfold : (recalculateDailyAttendanceForSection now sectionId d).bind g =
        (getOrCreateAttendanceDayContext d).bind fun context =>
          ((readCounters context sectionId d).bind (writeCounters now)).bind g := by
      unfold recalculateDailyAttendanceForSection readSectionCounters
      simp only [Program.bind_eq, Program.bind_assoc]
    obtain ⟨context, hadv | hadv⟩ := advance_getOrCreateAttendanceDayContext s d fun context =>
      ((readCounters context sectionId d).bind (writeCounters now)).bind g
    · rw [hunfold, hadv]
      exact .inr (hread context now g hg _ _ rfl)
    · rw [hunfold, hadv]
      exact .inl ⟨.read context now g hg, context, rfl⟩

theorem Program.Ended.not_mayFail {α : Type} {p : Operation α} (h : p.Ended) : ¬ p.MayFail := by
  cases p with
  | ret a => exact id
  | raise e => exact id
  | peek q k => exact h.elim
  | atomic body k => exact h.elim

theorem buildDayScheduleSnapshot_not_mayFail (d : Date) :
    ¬ (buildDayScheduleSnapshot d : Operation DayScheduleSnapshot).MayFail := by
  rintro ⟨weekDay, h⟩
  rcases weekDay with _ | ⟨w, _ | schedule⟩
  · exact h
  · exact h
  · dsimp only [Program.bind] at h
    split_ifs at h
    · obtain ⟨periods, h⟩ := h
      exact h
    · exact h

theorem freshAttendanceDayContext_not_mayFail (d : Date) :
    ¬ (freshAttendanceDayContext d : Operation AttendanceDayContext).MayFail := by
  rintro ⟨settings, year, active, h⟩
  dsimp only [Program.bind] at h
  rcases Program.MayFail.of_bind h with h | ⟨snapshot, h⟩
  · unfold daySchedule at h
    split_ifs at h
    · exact buildDayScheduleSnapshot_not_mayFail d h
    · exact h
  · exact h

theorem insertDayContext_not_mayRaise (context : AttendanceDayContext) :
    ¬ (insertDayContext context).MayRaise := by
  rintro ⟨existing, h⟩
  cases existing <;> exact h

theorem getOrCreateAttendanceDayContext_not_mayFail (d : Date) :
    ¬ (getOrCreateAttendanceDayContext d).MayFail := by
  rintro ⟨existing, h⟩
  cases existing with
  | some context => exact h
  | none =>
    rcases Program.MayFail.of_bind (p := freshAttendanceDayContext d) h with h | ⟨context, h⟩
    · exact freshAttendanceDayContext_not_mayFail d h
    · exact insertDayContext_not_mayRaise context h

theorem readCounters_not_mayFail (context : AttendanceDayContext) (sectionId : ℕ) (d : Date) :
    ¬ (readCounters context sectionId d).MayFail := by
  rintro ⟨sessions, h⟩
  dsimp only [Program.bind] at h
  split at h
  · exact h
  · obtain ⟨absent, pairs, covered, enrolled, h⟩ := h
    rcases Program.MayFail.of_bind (p := askElsewhere sectionId d _) h with h | ⟨elsewhere, h⟩
    · unfold askElsewhere at h
      split_ifs at h
      · exact h
      · obtain ⟨elsewhere, h⟩ := h
        exact h
    · exact h

theorem writeSummaries_not_mayRaise (now : Instant) (c : SectionCounters) :
    ¬ (writeSummaries now c).MayRaise := by
  rintro ⟨rows, existing, h⟩
  change Tx.MayRaise (Tx.bind (createSummaries now c _) _) at h
  rcases h.of_bind with h | ⟨u, h⟩
  · unfold createSummaries at h
    split_ifs at h
    · exact h
    · obtain ⟨taken, rows', raced, h⟩ := h
      exact h
  · exact h

theorem Recounting.not_ended {sectionId : ℕ} {d : Date} {p : Operation Unit}
    (hp : Recounting sectionId d p) : ¬ p.Ended := by
  cases hp <;> exact id

theorem Recounting.not_mayFail {sectionId : ℕ} {d : Date} {p : Operation Unit}
    (hp : Recounting sectionId d p) : ¬ p.MayFail := by
  have hwrite : ∀ now (counters : Option SectionCounters), ¬ (writeCounters now counters).MayFail := by
    intro now counters h
    cases counters with
    | none => exact h
    | some c => exact writeSummaries_not_mayRaise now c h
  intro h
  cases hp with
  | start now g hg =>
    rcases h.of_bind with h | ⟨n, h⟩
    · rcases Program.MayFail.of_bind h with h | ⟨counters, h⟩
      · rcases Program.MayFail.of_bind h with h | ⟨context, h⟩
        · exact getOrCreateAttendanceDayContext_not_mayFail d h
        · exact readCounters_not_mayFail context sectionId d h
      · exact hwrite now counters h
    · exact Program.Ended.not_mayFail (hg n) h
  | read context now g hg =>
    rcases h.of_bind with h | ⟨n, h⟩
    · rcases h.of_bind with h | ⟨counters, h⟩
      · exact readCounters_not_mayFail context sectionId d h
      · exact hwrite now counters h
    · exact Program.Ended.not_mayFail (hg n) h

variable {s s' : School} {α β : Type}

/-! ## What holds between the requests -/

/-- The sessions with these ids are sessions of the section and date, and as long as none of
that section and date is submitted its rows are right. -/
structure School.Upheld (s : School) (sectionId : ℕ) (d : Date) (ids : List ℕ) : Prop where
  sound : s.Sound
  slots : ∀ x ∈ s.sessions, x.id ∈ ids → x.sectionId = sectionId ∧ x.attendanceDate = d
  untouched : s.submittedSessions sectionId d = [] → s.RowsRight sectionId d

/-- A recalculation looks at every student who has a row of the section and date. -/
def School.RowsRecounted (s : School) (sectionId : ℕ) (d : Date) : Prop :=
  ∀ r ∈ s.summaries, r.sectionId = sectionId → r.attendanceDate = d →
    s.Recounted sectionId d r.student

instance (s : School) (sectionId : ℕ) (d : Date) (student : ℕ) :
    Decidable (s.Recounted sectionId d student) :=
  decidable_of_iff _ (s.mem_recountedStudents sectionId d student)

instance (s : School) (sectionId : ℕ) (d : Date) : Decidable (s.RowsRecounted sectionId d) :=
  inferInstanceAs (Decidable (∀ r ∈ s.summaries, _ → _ → _))

theorem School.RowsRight.of_core {sectionId : ℕ} {d : Date} (h : s.RowsRight sectionId d)
    (hcore : s'.core = s.core) (hsummaries : s'.summaries = s.summaries) :
    s'.RowsRight sectionId d := by
  intro r hr hsec hd
  rw [hsummaries] at hr
  exact (School.RowRight.of_core hcore r).mpr (h r hr hsec hd)

theorem School.Rewritten.core {d : Date} {students : List ℕ} {row : ℕ → DailyAttendanceSummary}
    (h : s.Rewritten s' d students row) : s'.core = s.core :=
  calc s'.core = School.core { s' with summaries := s.summaries } := rfl
    _ = s.core := congrArg School.core h.rest

theorem School.Rewritten.rowsRight {sectionId : ℕ} {d : Date} {row : ℕ → DailyAttendanceSummary}
    (h : s.Rewritten s' d (s.recountedStudents sectionId d) row)
    (hrow : ∀ x, s.RowRight (row x)) (hcond : s.RowsRecounted sectionId d) :
    s'.RowsRight sectionId d := by
  intro r hr hsec hd
  rw [School.RowRight.of_core h.core]
  rcases h.of_mem r hr with ⟨hold, hnot⟩ | ⟨x, -, rfl⟩
  · exact (hnot ⟨hd, (s.mem_recountedStudents _ _ _).mpr (hcond r hold hsec hd)⟩).elim
  · exact hrow x

inductive Reconciling (sectionId : ℕ) (d : Date) : Operation Unit → Prop
  | intro (now : Instant) (studentIds : Option (List ℕ)) (k : List ℕ → Operation Unit)
      (hk : ∀ affected, Recounting sectionId d (k affected)) :
      Reconciling sectionId d (.atomic (reconcileLocked now d studentIds) k)

/-- A transaction on one of the sessions: what it changes is followed by a reconciliation and a
recalculation, or it leaves the rows right. -/
def Opening (sectionId : ℕ) (d : Date) (ids : List ℕ) (body : Transaction β)
    (k : β → Operation Unit) : Prop :=
  ∀ s b s', s.Upheld sectionId d ids → body.eval s = .ok (b, s') → s'.Upheld sectionId d ids ∧
    (Reconciling sectionId d (k b) ∨
      ((k b).Ended ∧ (s.RowsRight sectionId d → s'.RowsRight sectionId d)))

/-- A program that changes marks of the section and date and keeps its rows right. -/
inductive Upkeep (sectionId : ℕ) (d : Date) (ids : List ℕ) : Operation Unit → Prop
  | ended (p : Operation Unit) (h : p.Ended) : Upkeep sectionId d ids p
  | opening {β : Type} (body : Transaction β) (k : β → Operation Unit)
      (h : Opening sectionId d ids body k) : Upkeep sectionId d ids (.atomic body k)
  | reconciling (p : Operation Unit) (h : Reconciling sectionId d p) : Upkeep sectionId d ids p
  | recounting (p : Operation Unit) (h : Recounting sectionId d p) : Upkeep sectionId d ids p

section Instance

variable (sectionId : ℕ) (d : Date) (ids : List ℕ)

theorem Reconciling.advance {p : Operation Unit} (hp : Reconciling sectionId d p)
    (hs : s.Upheld sectionId d ids) :
    (p.advance s).2.Upheld sectionId d ids ∧ Recounting sectionId d (p.advance s).1 := by
  cases hp with
  | intro now studentIds k hk =>
    obtain ⟨affected, heval⟩ := eval_reconcileLocked hs.sound.toKeyed now d studentIds
    have hadv : (Program.atomic (reconcileLocked now d studentIds) k).advance s =
        (k affected, s.reconciled now d studentIds) := by
      show (reconcileLocked now d studentIds).outcome k s = _
      unfold Tx.outcome
      rw [heval]
    rw [hadv]
    refine ⟨⟨hs.sound.reconciled now d studentIds, hs.slots, ?_⟩, hk affected⟩
    intro hnone r hr hsec hd
    refine (hs.sound.rowRight_reconciled now d studentIds ?_).mpr (hs.untouched hnone r hr hsec hd)
    -- No session is counted by the row.
    intro x hx hcounts hsub
    have hmem : x ∈ s.submittedSessions sectionId d :=
      List.mem_filter.mpr ⟨hx, by simp [hcounts.1, hcounts.2, hsec, hd, hsub]⟩
    rw [show s.submittedSessions sectionId d = [] from hnone] at hmem
    cases hmem

theorem Recounting.advance_upheld {p : Operation Unit} (hp : Recounting sectionId d p)
    (hs : s.Upheld sectionId d ids) (hcond : s.RowsRecounted sectionId d) :
    (p.advance s).2.Upheld sectionId d ids ∧
      (Recounting sectionId d (p.advance s).1 ∨
        ((p.advance s).1.Ended ∧ (p.advance s).2.RowsRight sectionId d)) := by
  have hcore : ∀ s' : School, s'.core = s.core → (s'.submittedSessions sectionId d = [] →
      s'.RowsRight sectionId d) → s'.Upheld sectionId d ids := by
    intro s' hcore hrows
    refine ⟨hs.sound.of_core hcore, ?_, hrows⟩
    rw [(School.core_fields hcore).1]
    exact hs.slots
  rcases hp.advance hs.sound.toKeyed with ⟨hrest, context, heq⟩ | ⟨hend, heq, hnone⟩ |
    ⟨hend, row, hrewritten, hrow⟩
  · rw [heq]
    refine ⟨hcore (s.addDayContext context) rfl fun hnone => ?_, .inl hrest⟩
    exact (hs.untouched hnone).of_core rfl rfl
  · rw [heq]
    exact ⟨hs, .inr ⟨hend, hs.untouched hnone⟩⟩
  · have hright := hrewritten.rowsRight (fun x => (hrow x).1) hcond
    exact ⟨hcore _ hrewritten.core fun _ => hright, .inr ⟨hend, hright⟩⟩

/-- The rows of a section and date, derived from its submitted sessions. -/
def summaryRepair : DeferredRepair School Row Failure Unit Unit where
  Inv s := s.Upheld sectionId d ids
  Cond s := s.RowsRecounted sectionId d
  Good := Upkeep sectionId d ids
  Right s _ := s.RowsRight sectionId d
  Owes p _ := Reconciling sectionId d p ∨ Recounting sectionId d p
  good_raise e := .ended (.raise e) trivial
  owes_ended := by
    rintro p - - hend (h | h)
    · cases h
      exact hend
    · exact h.not_ended hend
  owes_mayFail := by
    rintro p - - hfail (h | h)
    · cases h with
      | intro now studentIds k hk => exact reconcileLocked_not_mayRaise now d studentIds hfail
    · exact h.not_mayFail hfail
  advance := by
    intro p s hgood hs hcond
    -- A program that owes the rows is one unit closer to repairing them, whatever they are now.
    by_cases hreconciling : Reconciling sectionId d p
    · obtain ⟨hs', hrest⟩ := hreconciling.advance sectionId d ids hs
      exact ⟨hs', .recounting _ hrest, fun _ _ => .inr (.inr hrest)⟩
    by_cases hrecounting : Recounting sectionId d p
    · obtain ⟨hs', hrest | ⟨hend, hright⟩⟩ := hrecounting.advance_upheld sectionId d ids hs hcond
      · exact ⟨hs', .recounting _ hrest, fun _ _ => .inr (.inr hrest)⟩
      · exact ⟨hs', .ended _ hend, fun _ _ => .inl hright⟩
    have hnone : ∀ {P : Prop}, P ∨ Reconciling sectionId d p ∨ Recounting sectionId d p → P := by
      rintro P (h | h | h)
      · exact h
      · exact (hreconciling h).elim
      · exact (hrecounting h).elim
    cases hgood with
    | ended p h =>
      rw [h.advance s]
      exact ⟨hs, .ended p h, fun _ hk => .inl (hnone hk)⟩
    | reconciling p h => exact (hreconciling h).elim
    | recounting p h => exact (hrecounting h).elim
    | opening body k h =>
      show (body.outcome k s).2.Upheld sectionId d ids ∧ Upkeep sectionId d ids
        (body.outcome k s).1 ∧ ∀ j : Unit, _ → (body.outcome k s).2.RowsRight sectionId d ∨
          (Reconciling sectionId d (body.outcome k s).1 ∨
            Recounting sectionId d (body.outcome k s).1)
      unfold Tx.outcome
      cases heval : body.eval s with
      | error e => exact ⟨hs, .ended _ trivial, fun _ hk => .inl (hnone hk)⟩
      | ok r =>
        obtain ⟨hs', hrest | ⟨hend, hrows⟩⟩ := h s r.1 r.2 hs heval
        · exact ⟨hs', .reconciling _ hrest, fun _ _ => .inr (.inl hrest)⟩
        · exact ⟨hs', .ended _ hend, fun _ hk => .inl (hrows (hnone hk))⟩

/-! ## The requests -/

def Request.sessionId? : Request → Option ℕ
  | .submitSession _ sessionId _ _ => some sessionId
  | .editSession _ sessionId _ _ _ _ _ => some sessionId
  | .correctStudentAttendance _ sessionId _ _ _ _ _ => some sessionId
  | _ => none

variable {sectionId d ids}

theorem reconciling_afterMarks (clock : Clock) {x : AttendanceSession}
    (hx : x.sectionId = sectionId ∧ x.attendanceDate = d) (studentIds : Option (List ℕ)) :
    Reconciling sectionId d
      (Operation.discard ((afterMarks clock x studentIds).bind fun _ => .ret x)) := by
  obtain ⟨rfl, rfl⟩ := hx
  refine .intro _ _ _ fun affected => ?_
  have hrest : ∀ p : Operation ℕ, Operation.discard (Program.bind (p.bind fun _ => .ret ())
      fun _ => .ret x) = p.bind fun _ => .ret () := by
    intro p
    unfold Operation.discard
    rw [Program.bind_assoc, Program.bind_assoc]
    rfl
  have hstart := @Recounting.start x.sectionId x.attendanceDate
    (clock.recalculatedAt x.sectionId x.attendanceDate) (fun _ => .ret ()) fun _ => trivial
  rw [← hrest] at hstart
  exact hstart

theorem School.Upheld.putSession (hs : s.Upheld sectionId d ids) {x x' : AttendanceSession}
    (hx : x ∈ s.sessions) (h : x.SameSlot x') (hstatus : x'.status = x.status) :
    (s.putSession x').Upheld sectionId d ids ∧
      (s.RowsRight sectionId d → (s.putSession x').RowsRight sectionId d) := by
  have hrows : s.RowsRight sectionId d → (s.putSession x').RowsRight sectionId d :=
    fun hright r hr hsec hd =>
      (hs.sound.rowRight_putSession hx h fun _ => hstatus).mpr (hright r hr hsec hd)
  refine ⟨⟨hs.sound.putSession hx h, ?_, fun hnone => hrows (hs.untouched ?_)⟩, hrows⟩
  · intro y hy hid
    rcases (School.mem_putSession hx h).mp hy with rfl | ⟨hy, -⟩
    · rw [h.section_, h.date]
      exact hs.slots x hx (h.id ▸ hid)
    · exact hs.slots y hy hid
  · have hids := hs.sound.toKeyed.submittedIds_putSession hx h sectionId d fun _ => hstatus
    unfold School.submittedIds at hids
    rw [hnone, List.map_nil, eq_comm, List.map_eq_nil_iff] at hids
    exact hids

theorem School.Upheld.submitted (hs : s.Upheld sectionId d ids) (hs' : s'.Sound)
    {x x' : AttendanceSession} (hx : x ∈ s.sessions) (hid : x.id ∈ ids) (h : x.SameSlot x')
    (hsub : x'.status = .submitted) (hsessions : s'.sessions = (s.putSession x').sessions) :
    s'.Upheld sectionId d ids := by
  have hslot : x'.sectionId = sectionId ∧ x'.attendanceDate = d := by
    rw [h.section_, h.date]
    exact hs.slots x hx hid
  refine ⟨hs', ?_, fun hnone => ?_⟩
  · intro y hy hyid
    rw [hsessions] at hy
    rcases (School.mem_putSession hx h).mp hy with rfl | ⟨hy, -⟩
    · exact hslot
    · exact hs.slots y hy hyid
  · have hmem : x' ∈ s'.submittedSessions sectionId d := by
      refine List.mem_filter.mpr ⟨?_, by simp [hslot, hsub]⟩
      rw [hsessions]
      exact (School.mem_putSession hx h).mpr (.inl rfl)
    rw [hnone] at hmem
    cases hmem

theorem upkeep_submitSession (clock : Clock) {sessionId : ℕ} (hid : sessionId ∈ ids)
    (membership : ℕ) (marks : List MarkInput) :
    Upkeep sectionId d ids (submitSession clock sessionId membership marks).discard := by
  refine .opening _ _ ?_
  rintro s ⟨x, roster, error⟩ s' hs h
  cases error with
  | some e =>
    obtain ⟨y, hy, hslot, hstatus, rfl⟩ := eval_submitLocked_refused h
    obtain ⟨hmem, -⟩ := (hs.sound.session?_eq_some _ _).mp hy
    obtain ⟨hs', hrows⟩ := hs.putSession hmem hslot hstatus
    exact ⟨hs', .inr ⟨trivial, hrows⟩⟩
  | none =>
    have hsound : s'.Sound := (submitLocked_leaves hs.sound h).sound
    obtain ⟨y, validated, hsubmits, -, rfl, rfl⟩ := eval_submitLocked_iff.mp h
    obtain ⟨hmem, hyid⟩ := (hs.sound.session?_eq_some _ _).mp hsubmits.found
    have hslot : y.SameSlot (y.submit clock membership) := ⟨rfl, rfl, rfl, rfl⟩
    refine ⟨hs.submitted hsound hmem (hyid ▸ hid) hslot rfl rfl, .inl ?_⟩
    have hplace := hs.slots y hmem (hyid ▸ hid)
    exact reconciling_afterMarks clock (x := y.submit clock membership) hplace none

theorem upkeep_editSession (clock : Clock) {sessionId : ℕ} (hid : sessionId ∈ ids)
    (membership : ℕ) (roles : List SchoolRole) (expectedUpdatedAt : Instant)
    (marks : List MarkInput) (reason : Text) :
    Upkeep sectionId d ids (editSession clock sessionId membership roles expectedUpdatedAt marks
      reason).discard := by
  refine .opening _ _ ?_
  rintro s ⟨x, changes⟩ s' hs h
  have hsound : s'.Sound := (editLocked_leaves hs.sound h).sound
  obtain ⟨y, validated, hedits, -, ⟨hnone, rfl, rfl⟩ | ⟨hnone, rfl, rfl⟩⟩ :=
    eval_editLocked_iff.mp h
  · refine ⟨hs, .inr ⟨?_, id⟩⟩
    show ((if changes = [] then pure x else _ : Operation AttendanceSession).bind _).Ended
    rw [if_pos hnone]
    trivial
  · obtain ⟨hmem, hyid⟩ := (hs.sound.session?_eq_some _ _).mp hedits.found
    have hslot : y.SameSlot (y.touch clock.savedAt) := ⟨rfl, rfl, rfl, rfl⟩
    refine ⟨hs.submitted hsound hmem (hyid ▸ hid) hslot hedits.status rfl, .inl ?_⟩
    have hplace := hs.slots y hmem (hyid ▸ hid)
    show Reconciling sectionId d
      ((if changes = [] then pure (y.touch clock.savedAt) else _ : Operation _).bind _)
    rw [if_neg hnone]
    exact reconciling_afterMarks clock (x := y.touch clock.savedAt) hplace (some changes)

theorem upkeep_correctStudentAttendance (clock : Clock) {sessionId : ℕ} (hid : sessionId ∈ ids)
    (studentId : ℕ) (roles : List SchoolRole) (status : String) (reason : Text)
    (expectedUpdatedAt : Instant) :
    Upkeep sectionId d ids (correctStudentAttendance clock sessionId studentId roles status
      reason expectedUpdatedAt).discard := by
  unfold correctStudentAttendance
  split_ifs
  · exact .ended _ trivial
  · exact .ended _ trivial
  · exact .ended _ trivial
  · refine .opening _ _ ?_
    intro s x s' hs h
    have hsound : s'.Sound := (correctLocked_leaves hs.sound h).sound
    obtain ⟨y, hcorrects, rfl, rfl⟩ := eval_correctLocked_iff.mp h
    obtain ⟨hmem, hyid⟩ := (hs.sound.session?_eq_some _ _).mp hcorrects.found
    have hslot : y.SameSlot (y.touch clock.savedAt) := ⟨rfl, rfl, rfl, rfl⟩
    have hsessions : ((s.setMark y.id studentId status).putSession
        (y.touch clock.savedAt)).sessions = (s.putSession (y.touch clock.savedAt)).sessions :=
      congrArg (Table.put (fun x : AttendanceSession => x.id) (y.touch clock.savedAt))
        (s.setMark_sessions y.id studentId status)
    refine ⟨hs.submitted hsound hmem (hyid ▸ hid) hslot hcorrects.submitted hsessions, .inl ?_⟩
    have hplace := hs.slots y hmem (hyid ▸ hid)
    exact reconciling_afterMarks clock (x := y.touch clock.savedAt) hplace (some [studentId])

theorem upkeep_request (r : Request) {sessionId : ℕ} (hr : r.sessionId? = some sessionId)
    (hid : sessionId ∈ ids) : Upkeep sectionId d ids r.operation := by
  cases r with
  | submitSession clock id membership marks =>
    cases hr
    exact upkeep_submitSession clock hid membership marks
  | editSession clock id membership roles expectedUpdatedAt marks reason =>
    cases hr
    exact upkeep_editSession clock hid membership roles expectedUpdatedAt marks reason
  | correctStudentAttendance clock id studentId roles status reason expectedUpdatedAt =>
    cases hr
    exact upkeep_correctStudentAttendance clock hid studentId roles status reason
      expectedUpdatedAt
  | startSession => cases hr
  | createExcuse => cases hr
  | updateExcuse => cases hr
  | approveExcuse => cases hr
  | rejectExcuse => cases hr
  | cancelExcuse => cases hr
  | updateStudent => cases hr
  | setStudentStatus => cases hr

end Instance

end SchoolPlatform
