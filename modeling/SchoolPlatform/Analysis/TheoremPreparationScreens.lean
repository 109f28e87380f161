import SchoolPlatform.Model.PreparationScreens
import SchoolPlatform.Analysis.TheoremPeriodReport

/-!
# Whether the two screens of preparation agree

For a section with a session both screens say the same: its status and its delay are what the
session remembers. They can differ in the period itself, which the board reads from the live
timetable and the screen from the schedule the day is prepared by, and in the deadline of a section
without a session. These two are the whole difference (`screens_agree_iff`).
-/

namespace SchoolPlatform

open ReadCommitted

variable {s : School} {r : PreparationRecords} {offset : UtcOffset} {format : ZoneFormat}
  {collation : Collation} {now : AwareDateTime}

variable {q : PeriodSnapshot} {sections : List ExpectedSection}

theorem getCurrentAttendancePeriod_answers (s : School) (localNow : LocalTime) :
    (getCurrentAttendancePeriod localNow).Answers s
      (s.currentAttendancePeriod localNow.date localNow.time) := by
  unfold getCurrentAttendancePeriod School.currentAttendancePeriod
  have hweekDay : (ask fun s => s.weekDayOf localNow.date : Operation _).Answers s
      (s.weekDayOf localNow.date) := rfl
  rw [Program.bind_eq]
  refine hweekDay.bind ?_
  cases s.weekDayOf localNow.date with
  | none => rfl
  | some w =>
    obtain ⟨day, schedule⟩ := w
    cases schedule with
    | none => rfl
    | some schedule =>
      dsimp only
      split_ifs
      · rfl
      · rfl

theorem currentAttendancePeriod_isAttendance {d : Date} {time : TimeOfDay} {p : BellPeriod}
    (h : s.currentAttendancePeriod d time = some p) : p.isAttendancePeriod = true := by
  unfold School.currentAttendancePeriod at h
  split at h
  · split_ifs at h
    unfold School.currentPeriod at h
    have hp := List.find?_some h
    simp only [decide_eq_true_eq] at hp
    exact hp.1
  · cases h

def School.preparedNow (s : School) (now : AwareDateTime) : List PeriodSnapshot :=
  ((s.todayScheduleOn now.date).1.periods.filter fun p => p.isAttendancePeriod).filter fun p =>
    p.isCurrent now.time

/-! ## What is said of a section -/

def School.sessionsOfPeriod (s : School) (d : Date) (sequence : ℕ) : List AttendanceSession :=
  s.sessions.filter fun x => x.attendanceDate = d ∧ x.periodSequence = sequence

theorem filter_periodSequence (s : School) (d : Date) (sequence : ℕ) :
    (s.sessions.filter fun x => x.attendanceDate = d).filter (fun x =>
      x.periodSequence = sequence) = s.sessionsOfPeriod d sequence := by
  unfold School.sessionsOfPeriod
  rw [List.filter_filter]
  refine List.filter_congr fun x _ => ?_
  simp [Bool.and_comm]

def PreparationRow.standing (row : PreparationRow) :
    PreparationStatus × Timeliness × Option ℤ :=
  (row.attendanceStatus, row.timelinessStatus, row.minutesOverdue)

/-- What both screens say of a section with some session, or with none and a deadline. -/
def standingOf (offset : UtcOffset) (r : PreparationRecords) (now deadline : AwareDateTime)
    (session : Option AttendanceSession) : PreparationStatus × Timeliness × Option ℤ :=
  let minutes := match session with
    | none => overdueMinutes offset deadline now
    | some y => match y.status with
      | .submitted =>
        overdueMinutes offset (sessionAlertAt r y) (utcDateTime (y.submittedAt.getD 0))
      | .inProgress => overdueMinutes offset (sessionAlertAt r y) now
  (PreparationStatus.ofSession session, Timeliness.ofMinutes minutes, minutes)

theorem monitoringRow_standing (deadline : AwareDateTime) (sessions : List AttendanceSession)
    (x : ExpectedSection) :
    (monitoringRow offset format r now deadline sessions x).standing =
      standingOf offset r now deadline (sessionOfSection sessions x.section_.id) := rfl

theorem preparationRow_standing (timezone : String) (p : PeriodSnapshot) (x : ExpectedSection) :
    (preparationRow offset format r now timezone p
        (r.school.sessions.filter fun y => y.attendanceDate = now.date) x).standing =
      standingOf offset r now
        (alertAtFor now.date (p.startTime * 60) r.unpreparedPeriodAlertMinutes timezone)
        (sessionOfSection (r.school.sessionsOfPeriod now.date p.sequence) x.section_.id) := by
  rw [← filter_periodSequence]
  unfold preparationRow PreparationRow.standing standingOf
  dsimp only
  cases sessionOfSection _ x.section_.id with
  | none => rfl
  | some y => cases hy : y.status <;> simp only [hy]

theorem standingOf_eq_iff (deadline deadline' : AwareDateTime)
    (session : Option AttendanceSession) :
    standingOf offset r now deadline session = standingOf offset r now deadline' session ↔
      (session = none →
        overdueMinutes offset deadline now = overdueMinutes offset deadline' now) := by
  cases session with
  | none =>
    constructor
    · intro h _
      exact congrArg (fun t => t.2.2) h
    · intro h
      unfold standingOf
      dsimp only
      rw [h rfl]
  | some y =>
    have hsome : (some y : Option AttendanceSession) ≠ none := Option.some_ne_none y
    exact ⟨fun _ h => absurd h hsome, fun _ => rfl⟩

theorem countRows_map {α : Type} (f : α → PreparationRow) (l : List α)
    (p : PreparationRow → Bool) : countRows (l.map f) p = (l.filter fun x => p (f x)).length := by
  unfold countRows
  rw [List.filter_map, List.length_map]
  rfl

theorem countRows_congr {α : Type} {f g : α → PreparationRow} {l : List α}
    (p : PreparationRow → Bool)
    (hp : ∀ a b : PreparationRow, a.standing = b.standing → p a = p b)
    (h : ∀ x ∈ l, (f x).standing = (g x).standing) :
    countRows (l.map f) p = countRows (l.map g) p := by
  rw [countRows_map, countRows_map]
  congr 1
  apply List.filter_congr
  intro x hx
  exact hp _ _ (h x hx)

theorem hasStatus_congr {a b : PreparationRow} (status : PreparationStatus)
    (h : a.standing = b.standing) : a.hasStatus status = b.hasStatus status := by
  have hstatus : a.attendanceStatus = b.attendanceStatus := congrArg Prod.fst h
  unfold PreparationRow.hasStatus
  rw [hstatus]

theorem isOverdue_congr {a b : PreparationRow} (h : a.standing = b.standing) :
    a.isOverdue = b.isOverdue := by
  have htimeliness : a.timelinessStatus = b.timelinessStatus := congrArg (fun t => t.2.1) h
  unfold PreparationRow.isOverdue
  rw [htimeliness]

theorem countRows_unsubmitted (rows : List PreparationRow) :
    countRows rows (fun row => !row.hasStatus .submitted && row.isOverdue) =
      countRows rows (fun row => row.hasStatus .inProgress && row.isOverdue) +
        countRows rows (fun row => row.hasStatus .notStarted && row.isOverdue) := by
  unfold countRows
  induction rows with
  | nil => rfl
  | cons row rows ih =>
    simp only [List.filter_cons, PreparationRow.hasStatus]
    simp only [PreparationRow.hasStatus] at ih
    cases hstatus : row.attendanceStatus <;> cases hoverdue : row.isOverdue <;>
      simp <;> omega

/-! ## The screens -/

def TodayPreparation.currentPeriods (screen : TodayPreparation) : List PreparedPeriod :=
  screen.periods.filter fun q => q.state = .current

/-- The screens have the same current period, say the same of every expected section, and give the
same totals. -/
structure ScreensAgree (sections : List ExpectedSection) (board : MonitoringBoard)
    (period : BoardPeriod) (summary : MonitoringSummary) (q : PreparedPeriod)
    (total : PreparationSummary) : Prop where
  same_period : (q.period.sequence, q.period.name, q.period.startTime, q.period.endTime) =
    (period.sequence, period.name, period.startTime, period.endTime)
  listed : ∀ x ∈ sections, (∃ row ∈ board.sections, row.sectionId = x.section_.id) ∧
    ∃ row ∈ q.sections, row.sectionId = x.section_.id
  same_standing : ∀ row ∈ board.sections, ∀ row' ∈ q.sections, row.sectionId = row'.sectionId →
    row.standing = row'.standing
  same_totals : (total.total, total.submitted, total.inProgress, total.notStarted, total.overdue) =
    (summary.total, summary.submitted, summary.inProgress, summary.notStarted,
      summary.overdueInProgress + summary.overdueNotStarted)

def boardDelay (offset : UtcOffset) (r : PreparationRecords) (now : AwareDateTime)
    (p : BellPeriod) : Option ℤ :=
  overdueMinutes offset (alertAtFor now.date p.startTime r.unpreparedPeriodAlertMinutes
    r.school.registry.settings.timezone) now

def preparedDelay (offset : UtcOffset) (r : PreparationRecords) (now : AwareDateTime)
    (p : PeriodSnapshot) : Option ℤ :=
  overdueMinutes offset (alertAtFor now.date (p.startTime * 60) r.unpreparedPeriodAlertMinutes
    (r.school.todayScheduleOn now.date).2) now

/-- The day is prepared by the live period of now, and the deadlines of the sections that have not
started lie the same minutes back. -/
structure PreparedAsLive (offset : UtcOffset) (r : PreparationRecords) (now : AwareDateTime)
    (sections : List ExpectedSection) (p : BellPeriod) : Prop where
  live : r.school.currentAttendancePeriod now.date now.time = some p
  prepared : r.school.preparedNow now = [p.snapshot]
  same_delay : (∃ x ∈ sections, sessionOfSection
      (r.school.sessionsOfPeriod now.date p.sequence) x.section_.id = none) →
    boardDelay offset r now p = preparedDelay offset r now p.snapshot

theorem PeriodSnapshot.state_eq_current (p : PeriodSnapshot) (time : TimeOfDay) :
    (p.state time = .current) = (p.isCurrent time = true) := by
  unfold PeriodSnapshot.state
  cases p.isCurrent time with
  | true => simp
  | false => cases p.hasStarted time <;> simp

theorem PeriodSnapshot.hasStarted_of_isCurrent {p : PeriodSnapshot} {time : TimeOfDay}
    (h : p.isCurrent time = true) : p.hasStarted time = true := by
  unfold PeriodSnapshot.isCurrent at h
  exact (Bool.and_eq_true_iff.mp h).1

theorem snapshot_of_fields {p : BellPeriod} (hq : q.isAttendancePeriod = true)
    (hp : p.isAttendancePeriod = true)
    (h : q.sequence = p.sequence ∧ q.name = p.name ∧ q.startTime = strftimeHM p.startTime ∧
      q.endTime = strftimeHM p.endTime) : q = p.snapshot := by
  obtain ⟨hsequence, hname, hstart, hend⟩ := h
  cases q
  unfold BellPeriod.snapshot
  simp_all

theorem mem_preparedNow {p : PeriodSnapshot} (h : p ∈ s.preparedNow now) :
    p.isAttendancePeriod = true ∧ p.isCurrent now.time = true := by
  unfold School.preparedNow at h
  obtain ⟨hp, hcurrent⟩ := List.mem_filter.mp h
  exact ⟨(List.mem_filter.mp hp).2, hcurrent⟩

theorem mem_sortedRows {α : Type} (le : PreparationRow → PreparationRow → Prop)
    [DecidableRel le] (f : α → PreparationRow) (l : List α) (row : PreparationRow) :
    row ∈ (l.map f).insertionSort le ↔ ∃ x ∈ l, f x = row := by
  rw [List.mem_insertionSort, List.mem_map]

section Rows

variable {year : AcademicYear} {p : BellPeriod}

def boardRows (offset : UtcOffset) (format : ZoneFormat) (r : PreparationRecords)
    (now : AwareDateTime) (p : BellPeriod) (sections : List ExpectedSection) :
    List PreparationRow :=
  sections.map (monitoringRow offset format r now
    (alertAtFor now.date p.startTime r.unpreparedPeriodAlertMinutes
      r.school.registry.settings.timezone)
    (r.school.sessionsOfPeriod now.date p.sequence))

def periodRows (offset : UtcOffset) (format : ZoneFormat) (r : PreparationRecords)
    (now : AwareDateTime) (p : PeriodSnapshot) (sections : List ExpectedSection) :
    List PreparationRow :=
  sections.map (preparationRow offset format r now (r.school.todayScheduleOn now.date).2 p
    (r.school.sessions.filter fun x => x.attendanceDate = now.date))

theorem getCurrentSectionAttendanceStatuses_of_period (hyear : r.school.activeYear = some year)
    (hp : r.school.currentAttendancePeriod now.date now.time = some p) :
    ∃ board period, getCurrentSectionAttendanceStatuses offset format collation r now = .ok board ∧
      board.period = some period ∧ period.sequence = p.sequence ∧ period.name = p.name ∧
      period.startTime = strftimeHM p.startTime ∧ period.endTime = strftimeHM p.endTime ∧
      board.summary = some (monitoringSummary (boardRows offset format r now p
        (expectedSectionList collation r.school year))) ∧
      board.sections = (boardRows offset format r now p
        (expectedSectionList collation r.school year)).insertionSort
          fun a b => monitoringRowLe a b = true := by
  unfold getCurrentSectionAttendanceStatuses
  rw [hyear]
  simp only [hp]
  exact ⟨_, _, rfl, rfl, rfl, rfl, rfl, rfl, rfl, rfl⟩

theorem getCurrentSectionAttendanceStatuses_of_none (hyear : r.school.activeYear = some year)
    (hp : r.school.currentAttendancePeriod now.date now.time = none) :
    getCurrentSectionAttendanceStatuses offset format collation r now =
      .ok ⟨now.date, none, none, []⟩ := by
  unfold getCurrentSectionAttendanceStatuses
  rw [hyear]
  simp only [hp]
  rfl

theorem getTodayPreparation_current (hyear : r.school.activeYear = some year) :
    ∃ screen, getTodayPreparation offset format collation r now = .ok screen ∧
      screen.currentPeriods = (r.school.preparedNow now).map
        (preparedPeriod offset format r now (r.school.todayScheduleOn now.date).2
          (expectedSectionList collation r.school year)
          (r.school.sessions.filter fun x => x.attendanceDate = now.date)) := by
  unfold getTodayPreparation
  rw [hyear]
  refine ⟨_, rfl, ?_⟩
  unfold TodayPreparation.currentPeriods School.preparedNow
  dsimp only
  rw [List.filter_map]
  congr 1
  apply List.filter_congr
  intro q _
  show decide (q.state now.time = .current) = q.isCurrent now.time
  simp only [PeriodSnapshot.state_eq_current, Bool.decide_eq_true]

theorem preparedPeriod_current (hq : q.isCurrent now.time = true)
    (sections : List ExpectedSection) :
    preparedPeriod offset format r now (r.school.todayScheduleOn now.date).2 sections
        (r.school.sessions.filter fun x => x.attendanceDate = now.date) q =
      { period := q
        timezone := (r.school.todayScheduleOn now.date).2
        state := .current
        summary := some (preparationSummary sections.length
          (periodRows offset format r now q sections))
        sections := (periodRows offset format r now q sections).insertionSort
          fun a b => preparationRowLe a b = true } := by
  have hstate : q.state now.time = .current := by rwa [PeriodSnapshot.state_eq_current]
  unfold preparedPeriod periodRows
  simp only [PeriodSnapshot.hasStarted_of_isCurrent hq, hstate, if_true]

theorem rows_standing_iff (hq : q.sequence = p.sequence)
    (hstart : q.startTime = strftimeHM p.startTime) (x : ExpectedSection) :
    (monitoringRow offset format r now
        (alertAtFor now.date p.startTime r.unpreparedPeriodAlertMinutes
          r.school.registry.settings.timezone)
        (r.school.sessionsOfPeriod now.date p.sequence) x).standing =
      (preparationRow offset format r now (r.school.todayScheduleOn now.date).2 q
        (r.school.sessions.filter fun y => y.attendanceDate = now.date) x).standing ↔
      (sessionOfSection (r.school.sessionsOfPeriod now.date p.sequence) x.section_.id = none →
        boardDelay offset r now p = preparedDelay offset r now p.snapshot) := by
  rw [monitoringRow_standing, preparationRow_standing, hq, standingOf_eq_iff, hstart]
  rfl

theorem totals_of_standing {f g : ExpectedSection → PreparationRow}
    (h : ∀ x ∈ sections, (f x).standing = (g x).standing) :
    let total := preparationSummary sections.length (sections.map g)
    let summary := monitoringSummary (sections.map f)
    (total.total, total.submitted, total.inProgress, total.notStarted, total.overdue) =
      (summary.total, summary.submitted, summary.inProgress, summary.notStarted,
        summary.overdueInProgress + summary.overdueNotStarted) := by
  have hstatus (status : PreparationStatus) :
      countRows (sections.map g) (fun row => row.hasStatus status) =
        countRows (sections.map f) fun row => row.hasStatus status :=
    countRows_congr _ (fun _ _ => hasStatus_congr status) fun x hx => (h x hx).symm
  have hoverdue :
      countRows (sections.map g) (fun row => !row.hasStatus .submitted && row.isOverdue) =
        countRows (sections.map f) fun row => !row.hasStatus .submitted && row.isOverdue :=
    countRows_congr _ (fun a b hab => by rw [hasStatus_congr _ hab, isOverdue_congr hab])
      fun x hx => (h x hx).symm
  simp only [preparationSummary, monitoringSummary, hstatus, hoverdue, countRows_unsubmitted,
    List.length_map]

theorem ScreensAgree.same_delay {board : MonitoringBoard} {period : BoardPeriod}
    {summary : MonitoringSummary} {q : PreparedPeriod} {total : PreparationSummary}
    (h : ScreensAgree sections board period summary q total)
    (hrows : board.sections = (boardRows offset format r now p sections).insertionSort fun a b =>
      monitoringRowLe a b = true)
    (hprepared : q.sections = (periodRows offset format r now p.snapshot sections).insertionSort
      fun a b => preparationRowLe a b = true) :
    (∃ x ∈ sections, sessionOfSection (r.school.sessionsOfPeriod now.date p.sequence)
        x.section_.id = none) →
      boardDelay offset r now p = preparedDelay offset r now p.snapshot := by
  rintro ⟨x, hx, hnone⟩
  have hrow := h.same_standing
    (monitoringRow offset format r now
      (alertAtFor now.date p.startTime r.unpreparedPeriodAlertMinutes
        r.school.registry.settings.timezone)
      (r.school.sessionsOfPeriod now.date p.sequence) x)
    (by
      rw [hrows, boardRows, mem_sortedRows]
      exact ⟨x, hx, rfl⟩)
    (preparationRow offset format r now (r.school.todayScheduleOn now.date).2 p.snapshot
      (r.school.sessions.filter fun y => y.attendanceDate = now.date) x)
    (by
      rw [hprepared, periodRows, mem_sortedRows]
      exact ⟨x, hx, rfl⟩) rfl
  exact (rows_standing_iff (q := p.snapshot) rfl rfl x).mp hrow hnone

theorem screensAgree_of_delay {board : MonitoringBoard} {period : BoardPeriod}
    {q : PreparedPeriod}
    (hperiod : (q.period.sequence, q.period.name, q.period.startTime, q.period.endTime) =
      (period.sequence, period.name, period.startTime, period.endTime))
    (hrows : board.sections = (boardRows offset format r now p sections).insertionSort fun a b =>
      monitoringRowLe a b = true)
    (hprepared : q.sections = (periodRows offset format r now p.snapshot sections).insertionSort
      fun a b => preparationRowLe a b = true)
    (hdelay : (∃ x ∈ sections, sessionOfSection (r.school.sessionsOfPeriod now.date p.sequence)
      x.section_.id = none) → boardDelay offset r now p = preparedDelay offset r now p.snapshot) :
    ScreensAgree sections board period
      (monitoringSummary (boardRows offset format r now p sections)) q
      (preparationSummary sections.length (periodRows offset format r now p.snapshot sections))
      where
  same_period := hperiod
  listed := by
    intro x hx
    rw [hrows, hprepared]
    exact ⟨⟨_, (mem_sortedRows _ _ _ _).mpr ⟨x, hx, rfl⟩, rfl⟩,
      ⟨_, (mem_sortedRows _ _ _ _).mpr ⟨x, hx, rfl⟩, rfl⟩⟩
  same_standing := by
    intro row hrow row' hrow' hid
    rw [hrows, boardRows, mem_sortedRows] at hrow
    rw [hprepared, periodRows, mem_sortedRows] at hrow'
    obtain ⟨x, hx, rfl⟩ := hrow
    obtain ⟨y, hy, rfl⟩ := hrow'
    -- What is said of a section depends on its id alone.
    have hxy : y.section_.id = x.section_.id := hid.symm
    rw [monitoringRow_standing, preparationRow_standing, hxy]
    exact (standingOf_eq_iff _ _ _).mpr fun hnone => hdelay ⟨x, hx, hnone⟩
  same_totals := by
    apply totals_of_standing
    intro x hx
    exact (rows_standing_iff rfl rfl x).mpr fun hnone => hdelay ⟨x, hx, hnone⟩

end Rows

/-- The two screens of one instant agree exactly when the only period that today is prepared by is
the live one of now and, if an expected section has no session in it, its deadline lies the same
minutes back by the live timetable as by the schedule of the day. -/
theorem screens_agree_iff (offset : UtcOffset) (format : ZoneFormat) (collation : Collation)
    (r : PreparationRecords) (now : AwareDateTime) (year : AcademicYear)
    (hyear : r.school.activeYear = some year) :
    ∃ board screen,
      getCurrentSectionAttendanceStatuses offset format collation r now = .ok board ∧
      getTodayPreparation offset format collation r now = .ok screen ∧
      ((∃ period summary q total, board.period = some period ∧ board.summary = some summary ∧
          screen.currentPeriods = [q] ∧ q.summary = some total ∧
          ScreensAgree (expectedSectionList collation r.school year) board period summary q
            total) ↔
        ∃ p, PreparedAsLive offset r now (expectedSectionList collation r.school year) p) := by
  obtain ⟨screen, hscreen, hcurrent⟩ :=
    @getTodayPreparation_current r offset format collation now year hyear
  cases hp : r.school.currentAttendancePeriod now.date now.time with
  | none =>
    refine ⟨_, screen, getCurrentSectionAttendanceStatuses_of_none hyear hp, hscreen, ?_, ?_⟩
    · rintro ⟨period, -, -, -, hperiod, -⟩
      cases hperiod
    · rintro ⟨p, h⟩
      rw [h.live] at hp
      cases hp
  | some p =>
    obtain ⟨board, period, hboard, hperiod, hsequence, hname, hstart, hend, hsummary, hrows⟩ :=
      @getCurrentSectionAttendanceStatuses_of_period r offset format collation now year p hyear hp
    refine ⟨board, screen, hboard, hscreen, ?_, ?_⟩
    · rintro ⟨period', summary, q, total, hperiod', -, hq, -, h⟩
      rw [hperiod] at hperiod'
      cases hperiod'
      rw [hcurrent] at hq
      obtain ⟨q₀, hq₀, hprepared⟩ := List.map_eq_singleton_iff.mp hq
      have hmem : q₀ ∈ r.school.preparedNow now := by
        rw [hq₀]
        exact List.mem_singleton_self q₀
      obtain ⟨hattendance, hnow⟩ := mem_preparedNow hmem
      rw [preparedPeriod_current hnow] at hprepared
      subst hprepared
      have hsnapshot : q₀ = p.snapshot := by
        have hfields := h.same_period
        simp only [hsequence, hname, hstart, hend, Prod.mk.injEq] at hfields
        exact snapshot_of_fields hattendance (currentAttendancePeriod_isAttendance hp) hfields
      subst hsnapshot
      exact ⟨p, hp, hq₀, h.same_delay hrows rfl⟩
    · rintro ⟨p', h⟩
      have hp' : p' = p := by
        have hlive := h.live
        rw [hp, Option.some.injEq] at hlive
        exact hlive.symm
      subst hp'
      have hnow : p'.snapshot.isCurrent now.time = true := (mem_preparedNow (by
        rw [h.prepared]
        exact List.mem_singleton_self _)).2
      rw [h.prepared, List.map_singleton, preparedPeriod_current hnow] at hcurrent
      refine ⟨period, _, _, _, hperiod, hsummary, hcurrent, rfl, ?_⟩
      refine screensAgree_of_delay ?_ hrows rfl h.same_delay
      rw [hsequence, hname, hstart, hend]
      rfl

/-- The timetable was edited after the first session of the day: the saved schedule has the first
period at eight o'clock, the live one the second. -/
def editedTimetable : PreparationRecords where
  school :=
    { registry :=
        { academicYears := [⟨1, 1, 800000, .active, none⟩]
          grades := [⟨1, "الأول", "1", 1, true⟩]
          sections := [⟨3, 1, "أ", "A", "", true⟩]
          students := [⟨7, "", "", none, "", none, .active, none, none, "", "", ""⟩]
          enrollments := [⟨1, 7, 1, 1, 3, .active, 1, none⟩]
          weekDays := [⟨4, true, some 1⟩]
          bellSchedules := [⟨1, "", .active⟩]
          bellPeriods := [⟨1, 2, "الثانية", 28800, 31500, true⟩] }
      dayContexts := [⟨719163, some 1, ⟨some 1, none, true,
        [⟨1, "الأولى", 480, 525, true⟩]⟩, "Asia/Riyadh"⟩]
      sessions := [⟨1, 1, 3, 719163, 1, .inProgress, ⟨[7]⟩, none, none, 0⟩] }
  unpreparedPeriodAlertMinutes := 10
  detail := fun _ => ⟨480, "Asia/Riyadh", 10, 1, 0⟩

def twentyPastEight : AwareDateTime := ⟨"Asia/Riyadh", 30000 * 1000000, false⟩

/-- The board shows the second period and nobody preparing it, the screen the first. -/
theorem editedTimetable_disagree : ∃ board period screen q,
    editedTimetable.school.currentAttendancePeriod twentyPastEight.date twentyPastEight.time =
      some ⟨1, 2, "الثانية", 28800, 31500, true⟩ ∧
    getCurrentSectionAttendanceStatuses (fun _ => 0) (fun _ _ => "") (fun _ _ => true)
      editedTimetable twentyPastEight = .ok board ∧
    getTodayPreparation (fun _ => 0) (fun _ _ => "") (fun _ _ => true) editedTimetable
      twentyPastEight = .ok screen ∧
    board.period = some period ∧ screen.currentPeriods = [q] ∧
    period.sequence = 2 ∧ q.period.sequence = 1 ∧
    (board.sections.map fun row => row.standing) = [(.notStarted, .overdue, some 10)] ∧
    (q.sections.map fun row => row.standing) = [(.inProgress, .overdue, some 10)] := by
  refine ⟨_, _, _, _, ?_, rfl, rfl, rfl, rfl, ?_, ?_, ?_, ?_⟩ <;> decide +kernel

def unpreparedDay : PreparationRecords :=
  { editedTimetable with school := { editedTimetable.school with sessions := [] } }

theorem unpreparedDay_agree : ∃ board screen period summary q total,
    getCurrentSectionAttendanceStatuses (fun _ => 0) (fun _ _ => "") (fun _ _ => true)
      unpreparedDay twentyPastEight = .ok board ∧
    getTodayPreparation (fun _ => 0) (fun _ _ => "") (fun _ _ => true) unpreparedDay
      twentyPastEight = .ok screen ∧
    board.period = some period ∧ board.summary = some summary ∧ screen.currentPeriods = [q] ∧
    q.summary = some total ∧
    ScreensAgree (expectedSectionList (fun _ _ => true) unpreparedDay.school
      ⟨1, 1, 800000, .active, none⟩) board period summary q total := by
  have hyear : unpreparedDay.school.activeYear = some ⟨1, 1, 800000, .active, none⟩ := by
    decide +kernel
  obtain ⟨board, screen, hboard, hscreen, hiff⟩ := screens_agree_iff (fun _ => 0) (fun _ _ => "")
    (fun _ _ => true) unpreparedDay twentyPastEight ⟨1, 1, 800000, .active, none⟩ hyear
  have hlive : ∃ p, PreparedAsLive (fun _ => 0) unpreparedDay twentyPastEight
      (expectedSectionList (fun _ _ => true) unpreparedDay.school
        ⟨1, 1, 800000, .active, none⟩) p :=
    ⟨⟨1, 2, "الثانية", 28800, 31500, true⟩, by decide +kernel, by decide +kernel,
      fun _ => by decide +kernel⟩
  obtain ⟨period, summary, q, total, hperiod, hsummary, hq, htotal, h⟩ := hiff.mpr hlive
  exact ⟨board, screen, period, summary, q, total, hboard, hscreen, hperiod, hsummary, hq, htotal,
    h⟩

end SchoolPlatform
