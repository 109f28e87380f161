import SchoolPlatform.Library.CalmRuns
import SchoolPlatform.Model.Timetable

/-!
# What the live timetable says of a day, and what commits do to its context

`School.calendarOn` is all that the context of a day is made from. `DayChange` lists the commits
of the calls: a context is created where there is none, a context whose day has not begun is
brought in line with the calendar, a session is inserted whose period the saved schedule has, and
everything else leaves contexts and periods of sessions alone.
-/

namespace SchoolPlatform

open ReadCommitted

structure DayCalendar where
  weekDay : Option (SchoolWeekDay × Option BellSchedule)
  periods : List BellPeriod
  year : Option AcademicYear
  activeYear : Option AcademicYear
  academicYears : List AcademicYear
  deriving DecidableEq

def School.calendarOn (s : School) (d : Date) : DayCalendar where
  weekDay := s.weekDayOf d
  periods := (s.weekDayOf d).elim [] fun w => w.2.elim [] fun schedule => s.periodsOf schedule.id
  year := s.academicYearOn d
  activeYear := s.activeYear
  academicYears := s.registry.academicYears

def DayCalendar.schedule (k : DayCalendar) : DayScheduleSnapshot :=
  match k.weekDay with
  | some (w, some schedule) =>
    if w.isSchoolDay then
      { bellScheduleId := some schedule.id
        scheduleName := some schedule.name
        isSchoolDay := true
        periods := k.periods.map BellPeriod.snapshot }
    else emptyDaySchedule
  | _ => emptyDaySchedule

def DayScheduleSnapshot.attendanceSequences (x : DayScheduleSnapshot) : List ℕ :=
  (x.periods.filter fun p => p.isAttendancePeriod).map fun p => p.sequence

def DayCalendar.yearIsActive (k : DayCalendar) (year : Option ℕ) : Bool :=
  year.all fun id => k.academicYears.any fun y => y.id = id ∧ y.status = .active

theorem DayCalendar.yearIsActive_of_useCurrent {s : School} {d : Date} {k : DayCalendar}
    (hk : s.calendarOn d = k) (huse : useCurrentSchedule k.year k.activeYear = true) :
    k.yearIsActive (k.year.map fun y => y.id) = true := by
  subst hk
  have hfind : ∀ y, s.activeYear = some y → y ∈ s.registry.academicYears ∧ y.status = .active := by
    intro y hy
    have hstatus := List.find?_some hy
    exact ⟨List.mem_of_find?_eq_some hy, of_decide_eq_true hstatus⟩
  revert huse
  show useCurrentSchedule (s.academicYearOn d) s.activeYear = true → _
  unfold DayCalendar.yearIsActive
  show _ → (s.academicYearOn d |>.map fun y => y.id).all (fun id =>
    s.registry.academicYears.any fun y => y.id = id ∧ y.status = .active) = true
  intro huse
  cases hyear : s.academicYearOn d with
  | none => rfl
  | some year =>
    cases hactive : s.activeYear with
    | none =>
      rw [hyear, hactive] at huse
      cases huse
    | some active =>
      rw [hyear, hactive] at huse
      obtain ⟨hmem, hstatus⟩ := hfind active hactive
      simp only [Option.map_some, Option.all_some, List.any_eq_true, decide_eq_true_eq]
      exact ⟨active, hmem, (of_decide_eq_true huse).symm, hstatus⟩

def School.Started (s : School) (d : Date) : Prop := ∃ x ∈ s.sessions, x.attendanceDate = d

instance School.decidableStarted (s : School) (d : Date) : Decidable (s.Started d) :=
  inferInstanceAs (Decidable (∃ x ∈ s.sessions, x.attendanceDate = d))

/-- The saved context of the day shows the live timetable. -/
def School.ShowsLive (s : School) (d : Date) : Prop :=
  ∃ c, s.dayContextOn d = some c ∧ c.scheduleSnapshot = (s.calendarOn d).schedule

/-- Every session is of a period in which the saved context of its day takes attendance. -/
def School.SessionsBelong (s : School) : Prop :=
  ∀ x ∈ s.sessions, ∃ c, s.dayContextOn x.attendanceDate = some c ∧
    x.periodSequence ∈ c.scheduleSnapshot.attendanceSequences

def School.SummariesWithinExpected (s : School) : Prop :=
  ∀ r ∈ s.summaries, r.submittedPeriods ≤ r.expectedPeriods

/-- What holds of the stored attendance throughout. -/
structure School.FrozenDays (s : School) : Prop where
  ids : (s.sessions.map fun x => x.id).Nodup
  sessions : s.SessionsBelong
  summaries : s.SummariesWithinExpected

def AttendanceSession.place (x : AttendanceSession) : ℕ × Date × ℕ :=
  (x.id, x.attendanceDate, x.periodSequence)

/-- Contexts and the places of sessions are as they were, and summaries no worse. -/
structure SameDays (s s' : School) : Prop where
  contexts : s'.dayContexts = s.dayContexts
  sessions : s'.sessions.map AttendanceSession.place = s.sessions.map AttendanceSession.place
  summaries : s.SummariesWithinExpected → s'.SummariesWithinExpected

theorem SameDays.refl (s : School) : SameDays s s := ⟨rfl, rfl, id⟩

theorem SameDays.trans (s t u : School) (h : SameDays s t) (h' : SameDays t u) : SameDays s u :=
  ⟨h'.contexts.trans h.contexts, h'.sessions.trans h.sessions, h'.summaries ∘ h.summaries⟩

inductive DayChange (L : List (Row × LockMode)) (s : School) : School → Prop
  | others (s' : School) (same : SameDays s s') : DayChange L s s'
  | context (c : AttendanceDayContext) (lock : (.dayContextKey c.attendanceDate, .update) ∈ L)
      (free : s.dayContextOn c.attendanceDate = none)
      (year : c.academicYear = (s.calendarOn c.attendanceDate).year.map fun y => y.id) :
      DayChange L s (s.addDayContext c)
  | refresh (d : Date) (pristine : s.Started d → s.ShowsLive d) :
      DayChange L s (s.setDaySchedule d (s.calendarOn d).schedule)
  | session (x : AttendanceSession) (lock : (.session x.id, .update) ∈ L)
      (free : s.session? x.id = none) (shows : s.ShowsLive x.attendanceDate)
      (period : x.periodSequence ∈
        (s.calendarOn x.attendanceDate).schedule.attendanceSequences) :
      DayChange L s (s.addSession x)

variable {L : List (Row × LockMode)} {s s' : School} {d : Date}

theorem dayContextOn_addDayContext (s : School) (c : AttendanceDayContext) (d : Date) :
    (s.addDayContext c).dayContextOn d =
      (s.dayContextOn d).or (if c.attendanceDate = d then some c else none) := by
  show (s.dayContexts ++ [c]).find? _ = _
  rw [List.find?_append]
  by_cases h : c.attendanceDate = d
  · simp [h, School.dayContextOn]
  · simp [h, School.dayContextOn]

theorem dayContextOn_setDaySchedule (s : School) (d d' : Date) (x : DayScheduleSnapshot) :
    (s.setDaySchedule d x).dayContextOn d' =
      if d' = d then (s.dayContextOn d').map fun c => { c with scheduleSnapshot := x }
      else s.dayContextOn d' := by
  show (s.dayContexts.map _).find? _ = _
  unfold School.dayContextOn
  induction s.dayContexts with
  | nil => simp
  | cons c cs ih =>
    by_cases hd' : d' = d
    · subst hd'
      by_cases hc : c.attendanceDate = d'
      · simp [hc]
      · simp [hc, ih]
    · rw [if_neg hd'] at ih ⊢
      by_cases hc : c.attendanceDate = d
      · have hne : c.attendanceDate ≠ d' := fun h => hd' (h.symm.trans hc)
        simp [hc, Ne.symm hd', ih]
      · by_cases hc' : c.attendanceDate = d'
        · simp [hc', hd']
        · simp [hc, hc', ih]

theorem SameDays.session (h : SameDays s s') {x : AttendanceSession} (hx : x ∈ s'.sessions) :
    ∃ y ∈ s.sessions, y.place = x.place := by
  have hmem : x.place ∈ s.sessions.map AttendanceSession.place := by
    rw [← h.sessions]
    exact List.mem_map_of_mem hx
  exact List.mem_map.mp hmem

theorem SameDays.session' (h : SameDays s s') {x : AttendanceSession} (hx : x ∈ s.sessions) :
    ∃ y ∈ s'.sessions, y.place = x.place := by
  have hmem : x.place ∈ s'.sessions.map AttendanceSession.place := by
    rw [h.sessions]
    exact List.mem_map_of_mem hx
  exact List.mem_map.mp hmem

theorem SameDays.ids (h : SameDays s s') :
    (s'.sessions.map fun x => x.id) = s.sessions.map fun x => x.id := by
  have hids := congrArg (List.map Prod.fst) h.sessions
  rw [List.map_map, List.map_map] at hids
  exact hids

theorem date_of_place {x y : AttendanceSession} (h : y.place = x.place) :
    y.attendanceDate = x.attendanceDate := congrArg (fun p => p.2.1) h

theorem period_of_place {x y : AttendanceSession} (h : y.place = x.place) :
    y.periodSequence = x.periodSequence := congrArg (fun p => p.2.2) h

theorem DayChange.dayContextOn (h : DayChange L s s') (d : Date) :
    s'.dayContextOn d = s.dayContextOn d ∨
      (s.dayContextOn d = none ∧ (.dayContextKey d, .update) ∈ L ∧ ∃ c,
        s'.dayContextOn d = some c ∧
          c.academicYear = (s.calendarOn d).year.map fun y => y.id) ∨
      (∃ c, s.dayContextOn d = some c ∧ (s.Started d → s.ShowsLive d) ∧ s'.dayContextOn d =
        some { c with scheduleSnapshot := (s.calendarOn d).schedule }) := by
  cases h with
  | others s' same =>
    left
    unfold School.dayContextOn
    rw [same.contexts]
  | context c lock free year =>
    rw [dayContextOn_addDayContext]
    by_cases hd : c.attendanceDate = d
    · subst hd
      right
      left
      refine ⟨free, lock, c, ?_, year⟩
      rw [free, if_pos rfl]
      rfl
    · left
      rw [if_neg hd, Option.or_none]
  | refresh d' pristine =>
    rw [dayContextOn_setDaySchedule]
    by_cases hd : d = d'
    · subst hd
      rw [if_pos rfl]
      cases hc : s.dayContextOn d with
      | none => exact .inl rfl
      | some c => exact .inr (.inr ⟨c, rfl, pristine, rfl⟩)
    · rw [if_neg hd]
      exact .inl rfl
  | session x lock free shows period => exact .inl rfl

theorem DayChange.started (h : DayChange L s s') (hd : s.Started d) : s'.Started d := by
  obtain ⟨x, hx, hdate⟩ := hd
  cases h with
  | others s' same =>
    obtain ⟨y, hy, heq⟩ := same.session' hx
    exact ⟨y, hy, (date_of_place heq).trans hdate⟩
  | context c lock free year => exact ⟨x, hx, hdate⟩
  | refresh d' pristine => exact ⟨x, hx, hdate⟩
  | session y lock free shows period => exact ⟨x, List.mem_append_left _ hx, hdate⟩

theorem DayChange.started_inv (h : DayChange L s s') (hd : s'.Started d) :
    s.Started d ∨ s.ShowsLive d ∧ s'.dayContextOn d = s.dayContextOn d := by
  obtain ⟨x, hx, hdate⟩ := hd
  cases h with
  | others s' same =>
    obtain ⟨y, hy, heq⟩ := same.session hx
    exact .inl ⟨y, hy, (date_of_place heq).trans hdate⟩
  | context c lock free year => exact .inl ⟨x, hx, hdate⟩
  | refresh d' pristine => exact .inl ⟨x, hx, hdate⟩
  | session y lock free shows period =>
    rcases List.mem_append.mp hx with hold | hnew
    · exact .inl ⟨x, hold, hdate⟩
    · rw [List.mem_singleton.mp hnew] at hdate
      rw [hdate] at shows
      exact .inr ⟨shows, rfl⟩

/-- **Frozen.** No commit changes the context of a day that has begun. -/
theorem DayChange.frozen (h : DayChange L s s') (hs : s.FrozenDays) (hd : s.Started d) :
    s'.dayContextOn d = s.dayContextOn d := by
  obtain ⟨x, hx, hdate⟩ := hd
  obtain ⟨c, hc, -⟩ := hs.sessions x hx
  rw [hdate] at hc
  rcases h.dayContextOn d with hsame | ⟨hnone, -⟩ | ⟨c', hc', hpristine, hnew⟩
  · exact hsame
  · rw [hc] at hnone
    cases hnone
  · obtain ⟨c'', hc'', hlive⟩ := hpristine ⟨x, hx, hdate⟩
    rw [hc'] at hc''
    cases hc''
    rw [hnew, hc', ← hlive]

theorem DayChange.frozenDays (h : DayChange L s s') (hs : s.FrozenDays) : s'.FrozenDays := by
  have hbelong : ∀ x ∈ s.sessions, ∃ c, s'.dayContextOn x.attendanceDate = some c ∧
      x.periodSequence ∈ c.scheduleSnapshot.attendanceSequences := by
    intro x hx
    obtain ⟨c, hc, hperiod⟩ := hs.sessions x hx
    exact ⟨c, (h.frozen hs ⟨x, hx, rfl⟩).trans hc, hperiod⟩
  cases h with
  | others s' same =>
    refine ⟨by rw [same.ids]; exact hs.ids, fun x hx => ?_, same.summaries hs.summaries⟩
    obtain ⟨y, hy, hplace⟩ := same.session hx
    rw [← date_of_place hplace, ← period_of_place hplace]
    exact hbelong y hy
  | context c lock free year => exact ⟨hs.ids, hbelong, hs.summaries⟩
  | refresh d' pristine => exact ⟨hs.ids, hbelong, hs.summaries⟩
  | session x lock free shows period =>
    refine ⟨?_, fun y hy => ?_, hs.summaries⟩
    · show ((s.sessions ++ [x]).map fun y => y.id).Nodup
      rw [List.map_append, List.nodup_append]
      refine ⟨hs.ids, List.nodup_singleton _, ?_⟩
      intro id hid id' hid' heq
      obtain ⟨y, hy, rfl⟩ := List.mem_map.mp hid
      rw [List.map_singleton, List.mem_singleton] at hid'
      have hnot := List.find?_eq_none.mp free y hy
      exact hnot (by simp [heq, hid'])
    rcases List.mem_append.mp hy with hold | hnew
    · exact hbelong y hold
    · rw [List.mem_singleton.mp hnew]
      obtain ⟨c, hc, hlive⟩ := shows
      exact ⟨c, hc, hlive ▸ period⟩

end SchoolPlatform
