import SchoolPlatform.Analysis.DayCalendars
import SchoolPlatform.Analysis.Frames

/-!
# Starts of sessions, edits of the timetable and recalculations

A start takes its period from the timetable that the saved context shows when the session is
inserted, an edit touches no context but the one it brings in line, and a recalculation counts
sessions that belong to the context it has read.
-/

/-! ## The calls of a day, each on its own -/

namespace SchoolPlatform

open ReadCommitted

def watching (d : Date) : Change School Row := fun L s s' =>
  DayChange L s s' ∧ s.FrozenDays ∧ s'.calendarOn d = s.calendarOn d

/-- The stored attendance is in order, and the calendar of the day is `k`. -/
structure School.Steady (s : School) (d : Date) (k : DayCalendar) : Prop where
  frozen : s.FrozenDays
  calendar : s.calendarOn d = k

/-- Attendance of the day has not begun, or its saved context shows the live timetable. -/
def School.InLine (s : School) (d : Date) : Prop := s.Started d → s.ShowsLive d

/-- A session of the day can be started: its year is the active one, which its context names, if
there is one, and a day that has begun shows the live timetable. -/
structure School.ReadyToStart (s : School) (d : Date) : Prop where
  useCurrent : useCurrentSchedule (s.calendarOn d).year (s.calendarOn d).activeYear = true
  contextYear : ∀ c, s.dayContextOn d = some c →
    (s.calendarOn d).yearIsActive c.academicYear = true
  inLine : s.InLine d

/-- The saved schedule of the day is the one of `c`, or shows the timetable `k`. -/
def School.KeepsOrShows (s : School) (d : Date) (k : DayCalendar) (c : AttendanceDayContext) :
    Prop :=
  ∃ c', s.dayContextOn d = some c' ∧
    (c'.scheduleSnapshot = c.scheduleSnapshot ∨ c'.scheduleSnapshot = k.schedule)

variable {d : Date} {k : DayCalendar} {L held : List (Row × LockMode)} {s s' : School}
variable {R : Change School Row}

section Watching

variable (h : watching d L s s')
include h

theorem steady_of_watching (hs : s.Steady d k) : s'.Steady d k :=
  ⟨h.1.frozenDays h.2.1, h.2.2.trans hs.calendar⟩

theorem showsLive_of_watching (hs : s.ShowsLive d) : s'.ShowsLive d := by
  obtain ⟨c, hc, hlive⟩ := hs
  unfold School.ShowsLive
  rw [h.2.2]
  rcases h.1.dayContextOn d with hsame | ⟨hnone, -⟩ | ⟨c', -, -, hnew⟩
  · exact ⟨c, hsame.trans hc, hlive⟩
  · rw [hc] at hnone
    cases hnone
  · exact ⟨_, hnew, rfl⟩

theorem inLine_of_watching (hs : s.InLine d) : s'.InLine d := by
  intro hstarted
  rcases h.1.started_inv hstarted with hold | ⟨hshows, -⟩
  · exact showsLive_of_watching h (hs hold)
  · exact showsLive_of_watching h hshows

theorem readyToStart_of_watching (hs : s.ReadyToStart d) : s'.ReadyToStart d := by
  refine ⟨by rw [h.2.2]; exact hs.useCurrent, fun c hc => ?_, inLine_of_watching h hs.inLine⟩
  rw [h.2.2]
  rcases h.1.dayContextOn d with hsame | ⟨-, -, c', hnew, hyear⟩ | ⟨c', hold, -, hnew⟩
  · exact hs.contextYear c (hsame.symm.trans hc)
  · rw [hnew, Option.some.injEq] at hc
    rw [← hc, hyear]
    exact DayCalendar.yearIsActive_of_useCurrent rfl hs.useCurrent
  · rw [hnew, Option.some.injEq] at hc
    rw [← hc]
    exact hs.contextYear c' hold

theorem keepsOrShows_of_watching {c : AttendanceDayContext} (hk : s.calendarOn d = k)
    (hs : s.KeepsOrShows d k c) : s'.KeepsOrShows d k c := by
  obtain ⟨c', hc', hor⟩ := hs
  rcases h.1.dayContextOn d with hsame | ⟨hnone, -⟩ | ⟨c'', -, -, hnew⟩
  · exact ⟨c', hsame.trans hc', hor⟩
  · rw [hc'] at hnone
    cases hnone
  · exact ⟨_, hnew, .inr (by rw [← hk])⟩

theorem noContext_of_watching (hlock : (.dayContextKey d, .update) ∈ held)
    (hcompat : Compatible held L) (hs : s.dayContextOn d = none) : s'.dayContextOn d = none := by
  rcases h.1.dayContextOn d with hsame | ⟨-, hlock', -⟩ | ⟨c, hc, -⟩
  · exact hsame.trans hs
  · exact absurd hlock' (hcompat.not_mem hlock .update)
  · rw [hs] at hc
    cases hc

theorem noSession_of_watching {id : ℕ} (hlock : (.session id, .update) ∈ held)
    (hcompat : Compatible held L) (hs : s.session? id = none) : s'.session? id = none := by
  have hold : ∀ x ∈ s.sessions, x.id ≠ id := by
    intro x hx
    simpa using List.find?_eq_none.mp hs x hx
  apply List.find?_eq_none.mpr
  intro x hx
  simp only [decide_eq_true_eq]
  cases h.1 with
  | others s' same =>
    obtain ⟨y, hy, hplace⟩ := same.session hx
    have hid : y.id = x.id := congrArg Prod.fst hplace
    exact hid ▸ hold y hy
  | context c lock free year => exact hold x hx
  | refresh d' pristine => exact hold x hx
  | session y lock free shows period =>
    rcases List.mem_append.mp hx with hx | hx
    · exact hold x hx
    · rw [List.mem_singleton.mp hx]
      intro hid
      rw [hid] at lock
      exact hcompat.not_mem hlock .update lock

end Watching

/-- A call relies on commits that leave the calendar of its day as it is, and its base assertion
`K` fixes that calendar. -/
structure Knows (R : Change School Row) (d : Date) (k : DayCalendar) (K : School → Prop) :
    Prop where
  rely : ∀ L s s', R L s s' → watching d L s s'
  kept : ∀ L s s', watching d L s s' → K s → K s'
  steady : ∀ s, K s → s.Steady d k

variable {K : School → Prop}

theorem Knows.keeps_of {A : School → Prop} (h : Knows R d k K)
    (hA : ∀ L s s', watching d L s s' → A s → A s') : R.Keeps held A :=
  fun L s s' _ hs => hA L s s' (h.rely L s s' hs)

theorem Knows.keeps (h : Knows R d k K) : R.Keeps held K := h.keeps_of h.kept

theorem Knows.own (h : Knows R d k K) (hs : K s) (hchange : DayChange L s s')
    (hcalendar : s'.calendarOn d = s.calendarOn d) : K s' :=
  h.kept L s s' ⟨hchange, (h.steady s hs).frozen, hcalendar⟩ hs

theorem buildDayScheduleSnapshot_asserts (h : Knows R d k K) :
    (buildDayScheduleSnapshot d : Operation DayScheduleSnapshot).Asserts R DayChange
      (fun a s => K s ∧ a = k.schedule) K := by
  have hk : ∀ s, K s → s.calendarOn d = k := fun s hs => (h.steady s hs).calendar
  unfold buildDayScheduleSnapshot
  refine Program.Asserts.peek (fun w => w = k.weekDay) (fun s hs => ?_) h.keeps fun w hw => ?_
  · rw [← hk s hs]
    rfl
  · unfold DayCalendar.schedule
    rw [← hw]
    rcases w with _ | ⟨x, _ | schedule⟩
    · exact fun s hs => ⟨hs, rfl⟩
    · exact fun s hs => ⟨hs, rfl⟩
    · cases hday : x.isSchoolDay with
      | false =>
        simp only [Program.bind, hday, Bool.false_eq_true, if_false]
        exact fun s hs => ⟨hs, rfl⟩
      | true =>
        simp only [Program.bind, hday, if_true]
        refine Program.Asserts.peek (fun periods => periods = k.periods) (fun s hs => ?_) h.keeps
          fun periods hperiods s hs => ⟨hs, by rw [hperiods]⟩
        have hperiods : k.periods = (s.calendarOn d).periods := by rw [hk s hs]
        have hweek : s.weekDayOf d = some (x, some schedule) := by
          rw [hw, ← hk s hs]
          rfl
        rw [hperiods]
        show s.periodsOf schedule.id = (s.weekDayOf d).elim [] _
        rw [hweek]
        rfl

theorem freshAttendanceDayContext_asserts (h : Knows R d k K) :
    (freshAttendanceDayContext d : Operation AttendanceDayContext).Asserts R DayChange
      (fun c s => K s ∧ c.attendanceDate = d ∧ c.academicYear = k.year.map fun y => y.id) K := by
  unfold freshAttendanceDayContext
  refine Program.Asserts.peek_any h.keeps fun settings => ?_
  refine Program.Asserts.peek (fun year => year = k.year) (fun s hs => ?_) h.keeps
    fun year hyear => ?_
  · rw [← (h.steady s hs).calendar]
    rfl
  · refine Program.Asserts.peek_any h.keeps fun active => ?_
    have hsnapshot : (daySchedule (useCurrentSchedule year active) d :
        Operation DayScheduleSnapshot).Asserts R DayChange (fun _ => K) K := by
      unfold daySchedule
      split
      · exact (buildDayScheduleSnapshot_asserts h).post fun a s hs => hs.1
      · exact fun s hs => hs
    exact hsnapshot.bind fun snapshot s hs => ⟨hs, rfl, by rw [hyear]⟩

theorem insertDayContext_asserts (h : Knows R d k K) {c : AttendanceDayContext}
    (hdate : c.attendanceDate = d) (hyear : c.academicYear = k.year.map fun y => y.id) :
    (insertDayContext c).Asserts R DayChange
      (fun b s => K s ∧ (b = true → s.dayContextOn d = some c)) K [] fun s => s := by
  subst hdate
  refine ⟨fun existing s => K s ∧ (existing = none → s.dayContextOn c.attendanceDate = none),
    fun s hs => ⟨hs, id⟩, fun existing L s s' hcompat hR hs =>
      ⟨h.kept _ _ _ (h.rely _ _ _ hR) hs.1, fun hnone =>
        noContext_of_watching (h.rely _ _ _ hR) List.mem_cons_self hcompat (hs.2 hnone)⟩,
    fun existing => ?_⟩
  cases existing with
  | some c' => exact fun s hs => ⟨.others s (SameDays.refl s), hs.1, by simp⟩
  | none =>
    intro s hs
    have hfree := hs.2 rfl
    have hchange : DayChange [(.dayContextKey c.attendanceDate, .update)] s
        (s.addDayContext c) := by
      refine .context c List.mem_cons_self hfree ?_
      rw [(h.steady s hs.1).calendar]
      exact hyear
    refine ⟨hchange, h.own hs.1 hchange rfl, fun _ => ?_⟩
    show (s.addDayContext c).dayContextOn c.attendanceDate = some c
    rw [dayContextOn_addDayContext, hfree, if_pos rfl]
    rfl

/-- **The context of a day** is found or created: what holds of the saved context then holds of
the one that is returned, as long as others keep it. -/
theorem getOrCreate_asserts (h : Knows R d k K) {Held : AttendanceDayContext → School → Prop}
    (hheld : ∀ c, R.Keeps [] fun s => K s ∧ Held c s)
    (hfound : ∀ c s, K s → s.dayContextOn d = some c → Held c s) :
    (getOrCreateAttendanceDayContext d).Asserts R DayChange (fun c s => K s ∧ Held c s) K := by
  have hread : ∀ (q : Option AttendanceDayContext) s, K s → s.dayContextOn d = q →
      K s ∧ ∀ c, q = some c → Held c s :=
    fun q s hs hq => ⟨hs, fun c hc => hfound c s hs (hq.trans hc)⟩
  have hkept : ∀ q : Option AttendanceDayContext,
      R.Keeps [] fun s => K s ∧ ∀ c, q = some c → Held c s := by
    intro q L s s' hcompat hR hs
    refine ⟨h.keeps L s s' hcompat hR hs.1, fun c hc => ?_⟩
    exact (hheld c L s s' hcompat hR ⟨hs.1, hs.2 c hc⟩).2
  unfold getOrCreateAttendanceDayContext
  refine ⟨fun q s => K s ∧ ∀ c, q = some c → Held c s, fun s hs => hread _ s hs rfl, hkept,
    fun q => ?_⟩
  cases q with
  | some c => exact fun s hs => ⟨hs.1, hs.2 c rfl⟩
  | none =>
    refine Program.Asserts.mono (K := K) (fun s hs => hs.1) ?_
    refine (freshAttendanceDayContext_asserts h).bind fun c => ?_
    refine Program.Asserts.of_and fun ⟨hdate, hyear⟩ => ?_
    refine ⟨fun b s => K s ∧ (b = true → Held c s), ?_, fun b => ?_, fun b => ?_⟩
    · refine (insertDayContext_asserts h hdate hyear).post fun b s hs => ⟨hs.1, fun hb => ?_⟩
      exact hfound c s hs.1 (hs.2 hb)
    · intro L s s' hcompat hR hs
      refine ⟨h.keeps L s s' hcompat hR hs.1, fun hb => ?_⟩
      exact (hheld c L s s' hcompat hR ⟨hs.1, hs.2 hb⟩).2
    · cases b with
      | true => exact fun s hs => ⟨hs.1, hs.2 rfl⟩
      | false =>
        refine ⟨fun q s => K s ∧ ∀ c, q = some c → Held c s, fun s hs => hread _ s hs.1 rfl, hkept,
          fun q => ?_⟩
        cases q with
        | some c => exact fun s hs => ⟨hs.1, hs.2 c rfl⟩
        | none => trivial

/-- **The context of a day is brought in line** while attendance of the day has not begun. A start
of a session knows afterwards that the saved context shows the live timetable. -/
theorem getOrRefresh_asserts (h : Knows R d k K) (ready : Prop)
    (hready : ready → ∀ s, K s → s.ReadyToStart d) :
    (getOrRefreshPristineDayContext d).Asserts R DayChange
      (fun _ s => K s ∧ (ready → s.ShowsLive d)) K := by
  have hk : ∀ s, K s → s.calendarOn d = k := fun s hs => (h.steady s hs).calendar
  -- What is known of the context that has been read: its year, and what has become of it since.
  have hcreate : (getOrCreateAttendanceDayContext d).Asserts R DayChange (fun c s => K s ∧
      s.KeepsOrShows d k c ∧ (ready → k.yearIsActive c.academicYear = true)) K :=
    getOrCreate_asserts h (fun c L s s' hcompat hR hs => ⟨h.keeps L s s' hcompat hR hs.1,
      keepsOrShows_of_watching (h.rely _ _ _ hR) (hk s hs.1) hs.2.1, hs.2.2⟩)
    (fun c s hs hc => ⟨⟨c, hc, .inl rfl⟩, fun hr => by
      rw [← hk s hs]
      exact (hready hr s hs).contextYear c hc⟩)
  refine hcreate.bind fun c => ?_
  have hkept : R.Keeps [] fun s => K s ∧ s.KeepsOrShows d k c := fun L s s' hcompat hR hs =>
    ⟨h.keeps L s s' hcompat hR hs.1,
      keepsOrShows_of_watching (h.rely _ _ _ hR) (hk s hs.1) hs.2⟩
  have hshows : ∀ b : Bool, R.Keeps [] fun s => (K s ∧ s.KeepsOrShows d k c) ∧
      (b = true → ready → s.ShowsLive d) ∧ (b = false → s.InLine d) := fun b =>
    hkept.and fun L s s' _ hR hs => ⟨fun hb hr => showsLive_of_watching (h.rely _ _ _ hR)
      (hs.1 hb hr), fun hb => inLine_of_watching (h.rely _ _ _ hR) (hs.2 hb)⟩
  refine Program.Asserts.mono (K := fun s => (K s ∧ s.KeepsOrShows d k c) ∧
    (ready → k.yearIsActive c.academicYear = true)) (fun s hs => ⟨⟨hs.1, hs.2.1⟩, hs.2.2⟩) ?_
  refine Program.Asserts.of_and fun hyear => ?_
  refine Program.Asserts.peek (fun b => ready → b = true) (fun s hs hr => ?_) hkept
    fun active hactive => ?_
  · have hholds := hyear hr
    rw [← hk s hs.1] at hholds
    exact hholds
  cases active with
  | false => exact fun s hs => ⟨hs.1, fun hr => absurd (hactive hr) Bool.false_ne_true⟩
  | true =>
    refine ⟨fun b s => (K s ∧ s.KeepsOrShows d k c) ∧ (b = true → ready → s.ShowsLive d) ∧
      (b = false → s.InLine d), fun s hs => ⟨hs, fun hb hr => ?_, fun hb hstarted => ?_⟩, hshows,
      fun started => ?_⟩
    · obtain ⟨x, hx, hdate⟩ := List.any_eq_true.mp hb
      exact (hready hr s hs.1).inLine ⟨x, hx, of_decide_eq_true hdate⟩
    · obtain ⟨x, hx, hdate⟩ := hstarted
      have hno := List.any_eq_false.mp hb x hx
      simp [hdate] at hno
    cases started with
    | true => exact fun s hs => ⟨hs.1.1, hs.2.1 rfl⟩
    | false =>
      have hknows : Knows R d k fun s => (K s ∧ s.KeepsOrShows d k c) ∧ s.InLine d :=
        { rely := h.rely
          kept := fun L s s' hw hs => ⟨⟨h.kept L s s' hw hs.1.1,
            keepsOrShows_of_watching hw (hk s hs.1.1) hs.1.2⟩, inLine_of_watching hw hs.2⟩
          steady := fun s hs => h.steady s hs.1.1 }
      refine Program.Asserts.mono (K := fun s => (K s ∧ s.KeepsOrShows d k c) ∧ s.InLine d)
        (fun s hs => ⟨hs.1, hs.2.2 rfl⟩) ?_
      refine (buildDayScheduleSnapshot_asserts hknows).bind fun current => ?_
      refine Program.Asserts.of_and fun hcurrent => ?_
      subst hcurrent
      by_cases hsame : c.scheduleSnapshot = k.schedule
      · simp only [hsame, if_true]
        rintro s ⟨⟨hs, c', hc', hor⟩, -⟩
        refine ⟨hs, fun _ => ⟨c', hc', ?_⟩⟩
        rw [hk s hs]
        exact hor.elim (fun heq => heq.trans hsame) id
      · simp only [hsame, if_false]
        refine ⟨fun _ s => K s ∧ s.ShowsLive d, ?_, fun _ L s s' hcompat hR hs =>
          ⟨h.keeps L s s' hcompat hR hs.1, showsLive_of_watching (h.rely _ _ _ hR) hs.2⟩,
          fun _ s hs => ⟨hs.1, fun _ => hs.2⟩⟩
        refine ⟨fun _ s => (K s ∧ s.KeepsOrShows d k c) ∧ s.InLine d, fun s hs => hs,
          fun _ => hknows.keeps, fun rows s hs => ?_⟩
        have hchange : ∀ L, DayChange L s (s.setDaySchedule d k.schedule) := by
          intro L
          rw [← hk s hs.1.1]
          exact .refresh d hs.2
        refine ⟨hchange _, h.own hs.1.1 (hchange []) rfl, ?_⟩
        obtain ⟨c', hc', -⟩ := hs.1.2
        refine ⟨{ c' with scheduleSnapshot := k.schedule }, ?_, ?_⟩
        · show (s.setDaySchedule d k.schedule).dayContextOn d = _
          rw [dayContextOn_setDaySchedule, if_pos rfl, hc']
          rfl
        · show k.schedule = (s.calendarOn d).schedule
          rw [hk s hs.1.1]

variable {d : Date} {k : DayCalendar} {R : Change School Row} {K : School → Prop}

/-! ## The period of a start -/

theorem DayCalendar.mem_attendanceSequences {x : SchoolWeekDay} {schedule : BellSchedule}
    {p : BellPeriod} (hk : k.weekDay = some (x, some schedule)) (hday : x.isSchoolDay = true)
    (hp : p ∈ k.periods) (hattendance : p.isAttendancePeriod = true) :
    p.sequence ∈ k.schedule.attendanceSequences := by
  have hschedule : k.schedule.periods = k.periods.map BellPeriod.snapshot := by
    unfold DayCalendar.schedule
    rw [hk]
    simp only [hday, if_true]
  unfold DayScheduleSnapshot.attendanceSequences
  rw [hschedule]
  refine List.mem_map.mpr ⟨p.snapshot, List.mem_filter.mpr ⟨List.mem_map_of_mem hp, ?_⟩, rfl⟩
  exact hattendance

theorem getCurrentAttendancePeriod_asserts (h : Knows R d k K) {localNow : LocalTime}
    (hdate : localNow.date = d) :
    (getCurrentAttendancePeriod localNow).Asserts R DayChange (fun p s => K s ∧
      ∀ x, p = some x → x.sequence ∈ k.schedule.attendanceSequences) K := by
  subst hdate
  have hk : ∀ s, K s → s.calendarOn localNow.date = k := fun s hs => (h.steady s hs).calendar
  unfold getCurrentAttendancePeriod
  refine Program.Asserts.peek (fun w => w = k.weekDay) (fun s hs => ?_) h.keeps fun w hw => ?_
  · rw [← hk s hs]
    rfl
  · rcases w with _ | ⟨x, _ | schedule⟩
    · exact fun s hs => ⟨hs, by simp⟩
    · exact fun s hs => ⟨hs, by simp⟩
    · cases hday : x.isSchoolDay with
      | false =>
        simp only [Program.bind, hday, Bool.false_eq_true, if_false]
        exact fun s hs => ⟨hs, by simp⟩
      | true =>
        simp only [Program.bind, hday, if_true]
        refine Program.Asserts.peek (fun p => ∀ y, p = some y →
          y ∈ k.periods ∧ y.isAttendancePeriod = true) (fun s hs y hy => ?_) h.keeps
          fun p hp s hs => ⟨hs, fun y hy => ?_⟩
        · have hperiods : k.periods = s.periodsOf schedule.id := by
            have hweek : s.weekDayOf localNow.date = some (x, some schedule) := by
              rw [hw, ← hk s hs]
              rfl
            have hcalendar : k.periods = (s.calendarOn localNow.date).periods := by rw [hk s hs]
            rw [hcalendar]
            show (s.weekDayOf localNow.date).elim [] _ = _
            rw [hweek]
            rfl
          have hcond := List.find?_some hy
          simp only [decide_eq_true_eq] at hcond
          exact ⟨hperiods ▸ List.mem_of_find?_eq_some hy, hcond.1⟩
        · obtain ⟨hmem, hattendance⟩ := hp y hy
          exact DayCalendar.mem_attendanceSequences hw.symm hday hmem hattendance

theorem getCurrentAttendancePeriod_reads (h : Knows R d k K) (localNow : LocalTime) :
    (getCurrentAttendancePeriod localNow).Asserts R DayChange (fun _ => K) K := by
  unfold getCurrentAttendancePeriod
  refine Program.Asserts.peek_any h.keeps fun w => ?_
  rcases w with _ | ⟨x, _ | schedule⟩
  · exact fun s hs => hs
  · exact fun s hs => hs
  · cases hday : x.isSchoolDay with
    | false =>
      simp only [Program.bind, hday, Bool.false_eq_true, if_false]
      exact fun s hs => hs
    | true =>
      simp only [Program.bind, hday, if_true]
      exact Program.Asserts.peek_any h.keeps fun p s hs => hs

theorem todaySchedule_asserts (h : Knows R d k K) (hready : ∀ s, K s → s.ReadyToStart d)
    (hholds : ∀ c, R.Keeps [] fun s => K s ∧ s.dayContextOn d = some c) :
    (todaySchedule d).Asserts R DayChange (fun x s => K s ∧ x = k.schedule) K := by
  unfold todaySchedule
  refine ⟨fun q s => K s ∧ ∀ c, q = some c → s.dayContextOn d = some c,
    fun s hs => ⟨hs, fun c hc => hc⟩, fun q L s s' hcompat hR hs =>
      ⟨h.keeps L s s' hcompat hR hs.1, fun c hc =>
        (hholds c L s s' hcompat hR ⟨hs.1, hs.2 c hc⟩).2⟩, fun q => ?_⟩
  cases q with
  | none => exact (buildDayScheduleSnapshot_asserts h).mono fun s hs => hs.1
  | some c =>
    refine Program.Asserts.mono (K := fun s => K s ∧ s.dayContextOn d = some c)
      (fun s hs => ⟨hs.1, hs.2 c rfl⟩) ?_
    refine Program.Asserts.peek (fun b => b = true → c.scheduleSnapshot = k.schedule)
      (fun s hs hb => ?_) (hholds c) fun started hstarted => ?_
    · obtain ⟨x, hx, hdate⟩ := List.any_eq_true.mp hb
      obtain ⟨c', hc', hlive⟩ := (hready s hs.1).inLine ⟨x, hx, of_decide_eq_true hdate⟩
      rw [hs.2, Option.some.injEq] at hc'
      rw [hc', hlive, (h.steady s hs.1).calendar]
    · cases started with
      | true => exact fun s hs => ⟨hs.1, hstarted rfl⟩
      | false => exact (buildDayScheduleSnapshot_asserts h).mono fun s hs => hs.1

theorem choosePeriod_ok {now : LocalTime} {schedule : DayScheduleSnapshot}
    {attendanceDate : Option Date} {periodSequence : Option ℕ} {p : PeriodSnapshot}
    (h : choosePeriod now schedule attendanceDate periodSequence = .ok p) :
    p.sequence ∈ schedule.attendanceSequences := by
  unfold choosePeriod at h
  split at h
  · cases h
  · split at h
    · cases h
    · rename_i period hperiod
      split at h
      · cases h
      · split at h
        · cases h
        · cases h
          have hcond := List.find?_some hperiod
          simp only [decide_eq_true_eq] at hcond
          exact List.mem_map_of_mem (List.mem_filter.mpr
            ⟨List.mem_of_find?_eq_some hperiod, hcond.2⟩)

def StartRequest.day (r : StartRequest) (localNow adminNow : LocalTime) : Date :=
  if r.isAdministrative then adminNow.date else localNow.date

/-- **The period of a start** is one in which the timetable of its day takes attendance. -/
theorem sessionPeriod_asserts (h : Knows R d k K) (hready : ∀ s, K s → s.ReadyToStart d)
    {r : StartRequest} {localNow adminNow : LocalTime} (hday : r.day localNow adminNow = d)
    (hholds : r.isAdministrative = true →
      ∀ c, R.Keeps [] fun s => K s ∧ s.dayContextOn d = some c) :
    (sessionPeriod localNow adminNow r).Asserts R DayChange (fun p s => K s ∧
      p.1 = d ∧ p.2 ∈ k.schedule.attendanceSequences) K := by
  unfold sessionPeriod
  unfold StartRequest.day at hday
  cases hadmin : r.isAdministrative with
  | true =>
    rw [hadmin, if_pos rfl] at hday
    subst hday
    refine (getCurrentAttendancePeriod_reads h localNow).bind fun p => ?_
    split
    · trivial
    · simp only [if_true]
      have hchosen : (resolveTodayPeriod adminNow r.attendanceDate r.periodSequence).Asserts R
          DayChange (fun x s => K s ∧ x.sequence ∈ k.schedule.attendanceSequences) K := by
        unfold resolveTodayPeriod
        refine (todaySchedule_asserts h hready (hholds hadmin)).bind fun schedule => ?_
        refine Program.Asserts.of_and fun hschedule => ?_
        subst hschedule
        cases hchoose : choosePeriod adminNow k.schedule r.attendanceDate r.periodSequence with
        | error e => trivial
        | ok p => exact fun s hs => ⟨hs, choosePeriod_ok hchoose⟩
      exact hchosen.bind fun x s hs => ⟨hs.1, rfl, hs.2⟩
  | false =>
    rw [hadmin, if_neg Bool.false_ne_true] at hday
    refine (getCurrentAttendancePeriod_asserts h hday).bind fun p => ?_
    refine Program.Asserts.of_and fun hp => ?_
    split
    · trivial
    · simp only [Bool.false_eq_true, if_false]
      cases p with
      | none => trivial
      | some p => exact fun s hs => ⟨hs, hday, hp p rfl⟩

theorem insertSession_asserts (h : Knows R d k K) {x : AttendanceSession}
    (hdate : x.attendanceDate = d) (hperiod : x.periodSequence ∈ k.schedule.attendanceSequences) :
    (insertSession x).Asserts R DayChange (fun _ => K) (fun s => K s ∧ s.ShowsLive d) []
      fun s => s := by
  subst hdate
  have hlock : ∀ rows : List (Row × LockMode), (.session x.id, .update) ∈
      [(.sessionKey x.sectionId x.attendanceDate x.periodSequence, .update),
        (Row.session x.id, LockMode.update)] ++ rows := fun rows => by simp
  refine ⟨fun taken s => (K s ∧ s.ShowsLive x.attendanceDate) ∧
      (taken = none → s.session? x.id = none), fun s hs => ⟨hs, fun hnone => ?_⟩,
    fun taken L s s' hcompat hR hs => ?_, fun taken => ?_⟩
  · exact (Option.or_eq_none_iff.mp hnone).2
  · have hw := h.rely _ _ _ hR
    exact ⟨⟨h.kept _ _ _ hw hs.1.1, showsLive_of_watching hw hs.1.2⟩,
      fun hnone => noSession_of_watching hw (hlock []) hcompat (hs.2 hnone)⟩
  · cases taken with
    | none =>
      simp only [Tx.bind, ne_eq, not_true, if_false]
      intro s hs
      have hcalendar := (h.steady s hs.1.1).calendar
      have hchange : ∀ rows, DayChange (rows ++ ([(.sessionKey x.sectionId x.attendanceDate
          x.periodSequence, .update), (Row.session x.id, LockMode.update)] ++ [])) s
            (s.addSession x) := by
        intro rows
        refine .session x (List.mem_append_right _ (hlock [])) (hs.2 trivial) hs.1.2 ?_
        rw [hcalendar]
        exact hperiod
      exact ⟨hchange _, h.own hs.1.1 (hchange []) rfl⟩
    | some other =>
      simp only [Tx.bind, ne_eq, reduceCtorEq, not_false_eq_true, if_true]
      exact fun s hs => ⟨.others s (SameDays.refl s), hs.1.1⟩

theorem startSession_asserts (h : Knows R d k K) (hready : ∀ s, K s → s.ReadyToStart d)
    {now : Instant} {newId academicYear sectionId sequence : ℕ}
    (hperiod : sequence ∈ k.schedule.attendanceSequences) :
    (startSession now newId academicYear sectionId d sequence).Asserts R DayChange (fun _ => K)
      K := by
  unfold startSession
  refine Program.Asserts.peek_any h.keeps fun existing => ?_
  cases existing with
  | some session => exact Program.Asserts.peek_any h.keeps fun roster s hs => hs
  | none =>
    refine (getOrRefresh_asserts h True fun _ => hready).bind fun c => ?_
    have hshows : R.Keeps [] fun s => K s ∧ s.ShowsLive d := h.keeps_of fun L s s' hw hs =>
      ⟨h.kept L s s' hw hs.1, showsLive_of_watching hw hs.2⟩
    refine Program.Asserts.mono (K := fun s => K s ∧ s.ShowsLive d)
      (fun s hs => ⟨hs.1, hs.2 trivial⟩) ?_
    refine Program.Asserts.peek_any hshows fun roster => ?_
    refine ⟨fun _ => K, insertSession_asserts h rfl hperiod, fun _ => h.keeps, fun inserted => ?_⟩
    cases inserted with
    | true => exact fun s hs => hs
    | false =>
      refine Program.Asserts.peek_any h.keeps fun winner => ?_
      cases winner with
      | some session => exact fun s hs => hs
      | none => trivial

theorem startCurrentSession_asserts (h : Knows R d k K) (hready : ∀ s, K s → s.ReadyToStart d)
    (now : Instant) (newId : ℕ) {r : StartRequest} {localNow adminNow : LocalTime}
    (hday : r.day localNow adminNow = d)
    (hholds : r.isAdministrative = true →
      ∀ c, R.Keeps [] fun s => K s ∧ s.dayContextOn d = some c) :
    (startCurrentSession now newId localNow adminNow r).Asserts R DayChange (fun _ => K) K := by
  unfold startCurrentSession
  refine Program.Asserts.peek_any h.keeps fun found => ?_
  simp only [Program.bind]
  split
  · trivial
  · refine Program.Asserts.peek_any h.keeps fun active => ?_
    cases active with
    | none => trivial
    | some year =>
      refine (sessionPeriod_asserts h hready hday hholds).bind fun p => ?_
      apply Program.Asserts.of_and
      intro hp
      obtain ⟨date, sequence⟩ := p
      obtain ⟨hdate, hperiod⟩ := hp
      simp only at hdate hperiod
      subst hdate
      exact startSession_asserts h hready hperiod

/-! ## Edits of the timetable -/

theorem sameDays_of_keeps {α : Type} {t : Transaction α}
    (h : t.Keeps fun s => (s.dayContexts, s.sessions, s.summaries)) : t.Writes SameDays := by
  refine h.writes fun s s' hpart => ?_
  simp only [Prod.mk.injEq] at hpart
  obtain ⟨hcontexts, hsessions, hsummaries⟩ := hpart
  refine ⟨hcontexts, by rw [hsessions], fun hs => ?_⟩
  unfold School.SummariesWithinExpected
  rw [hsummaries]
  exact hs

theorem replacePeriods_writes (schedule : ℕ) (periods : List PeriodInput) :
    (replacePeriods schedule periods).Writes SameDays := by
  apply sameDays_of_keeps
  unfold replacePeriods
  refine (orRaise_keeps _).bind fun _ => (ask_keeps _).bind fun existing => ?_
  refine (lockRows_keeps _ _).bind fun _ => ⟨fun s => rfl, ?_⟩
  refine (lockRows_keeps _ _).bind fun _ => (ask_keeps _).bind fun taken => ?_
  exact Tx.keeps_ite trivial ⟨fun s => rfl, lockRows_keeps _ _⟩

theorem updateWeekDaysLocked_writes (items : List WeekDayInput) :
    (updateWeekDaysLocked items).Writes SameDays := by
  apply sameDays_of_keeps
  unfold updateWeekDaysLocked
  refine ⟨fun s => rfl, (ask_keeps _).bind fun valid => ?_⟩
  refine Tx.keeps_ite (raiseApi_keeps _) ?_
  refine (lockRows_keeps _ _).bind fun _ => (ask_keeps _).bind fun rows => ?_
  exact Tx.keeps_ite trivial ⟨fun s => rfl, trivial⟩

section Edits

variable (hR : ∀ L s s', R L s s' → watching d L s s')
include hR

theorem knows_steady (k : DayCalendar) : Knows R d k fun s => s.Steady d k where
  rely := hR
  kept := fun _ _ _ hw hs => steady_of_watching hw hs
  steady := fun _ hs => hs

theorem knows_ready (k : DayCalendar) :
    Knows R d k fun s => s.Steady d k ∧ s.ReadyToStart d where
  rely := hR
  kept := fun _ _ _ hw hs => ⟨steady_of_watching hw hs.1, readyToStart_of_watching hw hs.2⟩
  steady := fun _ hs => hs.1

theorem frozenDays_kept (held : List (Row × LockMode)) :
    R.Keeps held fun s => s.FrozenDays := fun L s s' _ h hs => (hR L s s' h).1.frozenDays hs

variable (d) in
omit hR in
theorem asserts_of_calendar {α : Type} {p : Operation α}
    (h : ∀ k, p.Asserts R DayChange (fun _ s => s.FrozenDays) fun s => s.Steady d k) :
    p.Asserts R DayChange (fun _ s => s.FrozenDays) fun s => s.FrozenDays :=
  (Program.Asserts.exists h).mono fun _ hs => ⟨_, hs, rfl⟩

theorem publishLiveScheduleChange_asserts :
    (publishLiveScheduleChange d).Asserts R DayChange (fun _ s => s.FrozenDays)
      fun s => s.FrozenDays := by
  refine asserts_of_calendar d fun k => ?_
  have hknows := knows_steady hR k
  unfold publishLiveScheduleChange
  refine Program.Asserts.peek_any hknows.keeps fun saved => ?_
  cases saved with
  | false => exact fun s hs => hs.frozen
  | true =>
    exact (getOrRefresh_asserts hknows False fun hfalse => hfalse.elim).bind
      fun c s hs => hs.1.frozen

theorem edit_asserts {α β : Type} {t : Transaction α} (ht : t.Writes SameDays)
    {g : α → Operation β} (hg : ∀ a, (g a).Asserts R DayChange (fun _ s => s.FrozenDays)
      fun s => s.FrozenDays) :
    ((Program.transaction t).bind g).Asserts R DayChange (fun _ s => s.FrozenDays)
      fun s => s.FrozenDays := by
  refine ⟨fun _ s => s.FrozenDays, ?_, fun _ => frozenDays_kept hR [], hg⟩
  have hcommit : ∀ (held : List (Row × LockMode)) (s s' : School), SameDays s s' →
      DayChange held s s' := fun held s s' hsame => .others s' hsame
  exact ht.asserts SameDays.refl SameDays.trans (fun held s s' _ hsame => hcommit held s s' hsame)
    (fun _ s s' hs hsame => (hcommit [] s s' hsame).frozenDays hs) (frozenDays_kept hR [])

theorem updateSchedule_asserts (id : ℕ) (name : Option String)
    (status : Option BellScheduleStatus) :
    (updateSchedule d id name status).Asserts R DayChange (fun _ s => s.FrozenDays)
      fun s => s.FrozenDays := by
  unfold updateSchedule
  refine Program.Asserts.peek_any (frozenDays_kept hR []) fun found => ?_
  cases found with
  | none => trivial
  | some schedule =>
    simp only [Program.bind]
    split
    · exact fun s hs => hs
    · refine edit_asserts hR ?_ fun _ => publishLiveScheduleChange_asserts hR
      exact sameDays_of_keeps (updateWhere_keeps fun rows s => rfl)

theorem archiveSchedule_asserts (id : ℕ) :
    (archiveSchedule d id).Asserts R DayChange (fun _ s => s.FrozenDays) fun s => s.FrozenDays := by
  unfold archiveSchedule
  refine edit_asserts hR ?_ fun _ => publishLiveScheduleChange_asserts hR
  exact sameDays_of_keeps (updateWhere_keeps fun rows s => rfl)

theorem replaceSchedulePeriods_asserts (schedule : ℕ) (periods : List PeriodInput) :
    (replaceSchedulePeriods d schedule periods).Asserts R DayChange (fun _ s => s.FrozenDays)
      fun s => s.FrozenDays :=
  edit_asserts hR (replacePeriods_writes schedule periods)
    fun _ => publishLiveScheduleChange_asserts hR

theorem updateWeekDays_asserts (items : List WeekDayInput) :
    (updateWeekDays d items).Asserts R DayChange (fun _ s => s.FrozenDays)
      fun s => s.FrozenDays := by
  unfold updateWeekDays
  refine edit_asserts hR (updateWeekDaysLocked_writes items) fun changed => ?_
  cases changed with
  | true => exact publishLiveScheduleChange_asserts hR
  | false => exact fun s hs => hs

end Edits

/-! ## Submission -/

/-- A session of the store has the id, the date and the period of `x`. -/
def School.Holds (s : School) (x : AttendanceSession) : Prop :=
  ∃ y ∈ s.sessions, y.place = x.place

theorem holds_of_dayChange {L : List (Row × LockMode)} {s s' : School} {x : AttendanceSession}
    (h : DayChange L s s') (hx : s.Holds x) : s'.Holds x := by
  obtain ⟨y, hy, hplace⟩ := hx
  cases h with
  | others s' same =>
    obtain ⟨z, hz, heq⟩ := same.session' hy
    exact ⟨z, hz, heq.trans hplace⟩
  | context c lock free year => exact ⟨y, hy, hplace⟩
  | refresh d' pristine => exact ⟨y, hy, hplace⟩
  | session z lock free shows period => exact ⟨y, List.mem_append_left _ hy, hplace⟩

theorem putSession_sameDays {s : School} {x updated : AttendanceSession}
    (hids : (s.sessions.map fun y => y.id).Nodup) (hx : s.Holds x)
    (hplace : updated.place = x.place) : SameDays s (s.putSession updated) := by
  obtain ⟨y, hy, heq⟩ := hx
  refine ⟨rfl, ?_, id⟩
  show (Table.put (fun x => x.id) updated s.sessions).map _ = _
  unfold Table.put
  rw [List.map_map]
  apply List.map_congr_left
  intro z hz
  by_cases hid : z.id = updated.id
  · have hyid : y.id = updated.id := congrArg Prod.fst (heq.trans hplace.symm)
    have hzy : z = y := Table.eq_of_key_eq hids hz hy (hid.trans hyid.symm)
    simp only [Function.comp_apply, hid, if_true]
    rw [hplace, hzy, heq]
  · simp only [Function.comp_apply, hid, if_false]

/-- As long as the ids are distinct and `x` is there, contexts and places stay. -/
def SameDaysWith (x : AttendanceSession) (s s' : School) : Prop :=
  (s.sessions.map fun y => y.id).Nodup → s.Holds x → SameDays s s'

theorem SameDaysWith.trans (x : AttendanceSession) (s t u : School) (h : SameDaysWith x s t)
    (h' : SameDaysWith x t u) : SameDaysWith x s u := by
  intro hids hx
  have hfirst := h hids hx
  obtain ⟨y, hy, hplace⟩ := hx
  obtain ⟨z, hz, heq⟩ := hfirst.session' hy
  exact hfirst.trans _ _ _ (h' (by rw [hfirst.ids]; exact hids) ⟨z, hz, heq.trans hplace⟩)

theorem saveSession_writes {x updated : AttendanceSession} (hplace : updated.place = x.place) :
    (saveSession updated).Writes (SameDaysWith x) :=
  fun _ => ⟨fun _ hids hx => putSession_sameDays hids hx hplace, trivial⟩

theorem submitLocked_asserts (hR : ∀ L s s', R L s s' → DayChange L s s') (clock : Clock)
    (sessionId membership : ℕ) (marks : List MarkInput) :
    (submitLocked clock sessionId membership marks).Asserts R DayChange (fun _ s => s.FrozenDays)
      (fun s => s.FrozenDays) [] fun s => s := by
  have hkept : ∀ held, R.Keeps held fun s => s.FrozenDays :=
    fun held L s s' _ h hs => (hR L s s' h).frozenDays hs
  refine ⟨fun _ s => s.FrozenDays, fun s hs => hs, fun _ => hkept [], fun rows => ?_⟩
  refine ⟨fun found s => s.FrozenDays ∧ ∀ x, found = some x → s.Holds x, fun s hs =>
    ⟨hs, fun x hx => ⟨x, List.mem_of_find?_eq_some hx, rfl⟩⟩, fun found L s s' _ h hs =>
      ⟨(hR L s s' h).frozenDays hs.1, fun x hx => holds_of_dayChange (hR L s s' h) (hs.2 x hx)⟩,
    fun found => ?_⟩
  cases found with
  | none => trivial
  | some x =>
    have hbody : ∀ (held : List (Row × LockMode))
        (t : Transaction (AttendanceSession × List RosterStudent × Option ApiError)),
        t.Writes (SameDaysWith x) → t.Asserts R DayChange (fun _ s => s.FrozenDays)
          (fun s => s.FrozenDays ∧ s.Holds x) held fun s => s := by
      intro held t ht
      have hcommit : ∀ (held : List (Row × LockMode)) (s s' : School),
          (s.FrozenDays ∧ s.Holds x) → SameDaysWith x s s' → DayChange held s s' :=
        fun held s s' hs hsame => .others s' (hsame hs.1.ids hs.2)
      exact ht.asserts (fun s _ _ => SameDays.refl s) (SameDaysWith.trans x) hcommit
        (fun _ s s' hs hsame => (hcommit [] s s' hs hsame).frozenDays hs.1)
        fun L s s' _ h hs => ⟨(hR L s s' h).frozenDays hs.1, holds_of_dayChange (hR L s s' h) hs.2⟩
    refine Tx.Asserts.mono (J := fun s => s.FrozenDays ∧ s.Holds x)
      (fun s hs => ⟨hs.1, hs.2 x rfl⟩) (hbody _ _ ?_)
    simp only [Tx.pure_eq, Tx.bind]
    split
    · exact fun submitter => trivial
    · refine fun roster => ?_
      simp only [Tx.bind]
      split
      · refine Tx.Writes.bind (saveSession_writes ?_) fun _ => trivial
        rfl
      · refine Tx.Writes.bind ?_ fun validated => ?_
        · cases validateMarks (roster.map fun r => r.studentId) [] marks <;> trivial
        · refine ⟨fun s _ _ => ⟨rfl, rfl, fun hs => hs⟩, ?_⟩
          refine Tx.Writes.bind (t := .ret ()) trivial fun _ => ?_
          refine Tx.Writes.bind (saveSession_writes ?_) fun _ => trivial
          rfl

theorem submitted_le_expected {s : School} {c : AttendanceDayContext} (hs : s.FrozenDays)
    (hc : s.dayContextOn d = some c) (sectionId : ℕ) :
    ((s.submittedSessions sectionId d).map fun x => x.periodSequence).dedup.length ≤
      c.attendancePeriods.length := by
  have hsub : ((s.submittedSessions sectionId d).map fun x => x.periodSequence).dedup ⊆
      c.scheduleSnapshot.attendanceSequences := by
    intro sequence hmem
    rw [List.mem_dedup, List.mem_map] at hmem
    obtain ⟨x, hx, rfl⟩ := hmem
    obtain ⟨hx, hcond⟩ := List.mem_filter.mp hx
    simp only [decide_eq_true_eq] at hcond
    obtain ⟨c', hc', hperiod⟩ := hs.sessions x hx
    rw [hcond.2.1, hc, Option.some.injEq] at hc'
    rw [hc']
    exact hperiod
  have hle := (List.subperm_of_subset (List.nodup_dedup _) hsub).length_le
  unfold DayScheduleSnapshot.attendanceSequences at hle
  rw [List.length_map] at hle
  exact hle

theorem writeSummaries_writes_sameDays (now : Instant) {c : SectionCounters}
    (hc : c.submitted ≤ c.expected) : (writeSummaries now c).Writes SameDays := by
  have hput : ∀ (s : School) (students : List ℕ),
      SameDays s (s.putSummaries c.attendanceDate students (c.row now)) := by
    intro s students
    refine ⟨rfl, rfl, fun hs r hr => ?_⟩
    obtain ⟨r', hr', rfl⟩ := List.mem_map.mp hr
    split
    · exact hc
    · exact hs r' hr'
  have hadd : ∀ (s : School) (students : List ℕ),
      SameDays s (s.addSummaries (students.map (c.row now))) := by
    intro s students
    refine ⟨rfl, rfl, fun hs r hr => ?_⟩
    rcases List.mem_append.mp hr with hr | hr
    · exact hs r hr
    · obtain ⟨student, -, rfl⟩ := List.mem_map.mp hr
      exact hc
  unfold writeSummaries
  intro rows existing
  refine ⟨fun s => hput s _, Tx.Writes.bind (t := .ret ()) trivial fun _ => ?_⟩
  refine Tx.Writes.bind ?_ fun _ => trivial
  unfold createSummaries
  split
  · trivial
  · refine Tx.Writes.bind (fun taken => ⟨fun s => hadd s _, trivial⟩) fun _ => ?_
    exact fun rows raced => ⟨fun s => hput s _, trivial⟩

/-- **A recalculation** writes rows of which none has more submitted than expected periods. -/
theorem recalculation_asserts (hR : ∀ L s s', R L s s' → watching d L s s')
    (hholds : ∀ L s s', R L s s' → ∀ c, s.dayContextOn d = some c → s'.dayContextOn d = some c)
    (now : Instant) (sectionId : ℕ) :
    (recalculateDailyAttendanceForSection now sectionId d).Asserts R DayChange
      (fun _ s => s.FrozenDays) fun s => s.FrozenDays := by
  refine asserts_of_calendar d fun k => ?_
  have hknows := knows_steady hR k
  have hcontext : (getOrCreateAttendanceDayContext d).Asserts R DayChange
      (fun c s => s.Steady d k ∧ s.dayContextOn d = some c) fun s => s.Steady d k :=
    getOrCreate_asserts hknows (fun c L s s' hcompat h hs =>
      ⟨hknows.keeps L s s' hcompat h hs.1, hholds L s s' h c hs.2⟩) fun c s _ hc => hc
  have hcounters : (readSectionCounters sectionId d).Asserts R DayChange
      (fun q s => s.Steady d k ∧ ∀ c, q = some c → c.submitted ≤ c.expected)
      fun s => s.Steady d k := by
    refine hcontext.bind fun c => ?_
    have hkept : R.Keeps [] fun s => s.Steady d k ∧ s.dayContextOn d = some c :=
      fun L s s' hcompat h hs => ⟨hknows.keeps L s s' hcompat h hs.1, hholds L s s' h c hs.2⟩
    unfold readCounters
    refine Program.Asserts.peek (fun sessions =>
      (sessions.map fun x => x.periodSequence).dedup.length ≤ c.attendancePeriods.length)
      (fun s hs => submitted_le_expected hs.1.frozen hs.2 sectionId) hkept fun sessions hle => ?_
    refine Program.Asserts.mono (K := fun s => s.Steady d k) (fun s hs => hs.1) ?_
    simp only [Program.bind]
    split
    · exact fun s hs => ⟨hs, by simp⟩
    · refine Program.Asserts.peek_any hknows.keeps fun absent => ?_
      refine Program.Asserts.peek_any hknows.keeps fun pairs => ?_
      refine Program.Asserts.peek_any hknows.keeps fun covered => ?_
      refine Program.Asserts.peek_any hknows.keeps fun enrolled => ?_
      have helsewhere : ∀ marked, (askElsewhere sectionId d marked).Asserts R DayChange
          (fun _ s => s.Steady d k) fun s => s.Steady d k := by
        intro marked
        unfold askElsewhere
        split
        · exact fun s hs => hs
        · exact Program.Asserts.peek_any hknows.keeps fun _ s hs => hs
      refine (helsewhere _).bind fun elsewhere s hs => ⟨hs, fun counters hcounters => ?_⟩
      rw [Option.some.injEq] at hcounters
      rw [← hcounters]
      exact hle
  refine hcounters.bind fun q => ?_
  refine Program.Asserts.of_and fun hle => ?_
  cases q with
  | none => exact fun s hs => hs.frozen
  | some c =>
    refine Program.Asserts.mono (K := fun s => s.FrozenDays) (fun s hs => hs.frozen) ?_
    have hwrite := edit_asserts hR (writeSummaries_writes_sameDays now (hle c rfl))
      (g := fun n => .ret n) fun n s hs => hs
    exact hwrite

end SchoolPlatform
