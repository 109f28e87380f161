import SchoolPlatform.Analysis.SessionStarts

/-!
# Sessions and the frozen schedule of their day

A run of calls of a timetable is calm when each start begins on a day that shows the live
timetable of the active year, and nothing that a call has read of its day is changed by another
one. In every calm run the context of a day that has begun stays as it is, every session is of one
of its attendance periods, and no daily summary has more submitted than expected periods
(`calm_frozenDays`). A timetable edited between two starts of a day is enough to break it.
-/

namespace SchoolPlatform

open ReadCommitted

def TimetableCall.day? : TimetableCall → Option Date
  | .startSession _ _ localNow adminNow r => some (r.day localNow adminNow)
  | .openPage d => some d
  | .replacePeriods today _ _ => some today
  | .updateSchedule today _ _ _ => some today
  | .archiveSchedule today _ => some today
  | .updateWeekDays today _ => some today
  | .changeRegistry _ => none
  | .submitMarks _ _ _ _ => none
  | .recalculate _ _ d => some d

/-- The call goes on with the context it has read: a recalculation, and a start for a period that
an administrator has chosen. -/
def TimetableCall.usesContext : TimetableCall → Bool
  | .startSession _ _ _ _ r => r.isAdministrative
  | .recalculate _ _ _ => true
  | _ => false

def TimetableCall.MayBegin (call : TimetableCall) (s : School) : Prop :=
  match call with
  | .startSession _ _ localNow adminNow r => s.ReadyToStart (r.day localNow adminNow)
  | _ => True

/-- A commit leaves the calendar of the day of a call as it is, and the context that the call goes
on with. -/
structure TimetableCall.Undisturbed (call : TimetableCall) (s s' : School) : Prop where
  calendar : ∀ d ∈ call.day?, s'.calendarOn d = s.calendarOn d
  context : call.usesContext = true → ∀ d ∈ call.day?, ∀ c ∈ s.dayContextOn d,
    s'.dayContextOn d = some c

def timetableStart (s : School) (calls : List TimetableCall) : Config School Row Failure Unit :=
  Config.start s (calls.map TimetableCall.program)

/-- Each call begins on a store it may begin on, and is not disturbed while it is under way. -/
def CalmCalls (s : School) (calls : List TimetableCall) (sched : List ℕ) : Prop :=
  (timetableStart s calls).CalmRun (fun i s => ∀ call ∈ calls[i]?, call.MayBegin s)
    (fun i s s' => ∀ call ∈ calls[i]?, call.Undisturbed s s') [] sched

def TimetableCall.rely (call : TimetableCall) : Change School Row := fun L s s' =>
  DayChange L s s' ∧ s.FrozenDays ∧ call.Undisturbed s s'

theorem TimetableCall.rely_watching {call : TimetableCall} {d : Date} (hd : call.day? = some d)
    (L : List (Row × LockMode)) (s s' : School) (h : call.rely L s s') : watching d L s s' :=
  ⟨h.1, h.2.1, h.2.2.calendar d hd⟩

theorem TimetableCall.rely_context {call : TimetableCall} {d : Date} (hd : call.day? = some d)
    (huses : call.usesContext = true) (L : List (Row × LockMode)) (s s' : School)
    (h : call.rely L s s') (c : AttendanceDayContext) (hc : s.dayContextOn d = some c) :
    s'.dayContextOn d = some c :=
  h.2.2.context huses d hd c hc

theorem TimetableCall.asserts (call : TimetableCall) {s : School} (hs : s.FrozenDays)
    (hbegin : call.MayBegin s) :
    ∃ K : School → Prop, K s ∧ Change.Keeps call.rely [] K ∧
      call.program.Asserts call.rely DayChange (fun _ _ => True) K := by
  have hkept : Change.Keeps call.rely [] fun s => s.FrozenDays :=
    fun L s s' _ h hs => h.1.frozenDays hs
  have hfrozen : ∀ p : Operation Unit, p.Asserts call.rely DayChange (fun _ s => s.FrozenDays)
      (fun s => s.FrozenDays) → ∃ K : School → Prop, K s ∧ Change.Keeps call.rely [] K ∧
        p.Asserts call.rely DayChange (fun _ _ => True) K :=
    fun p hp => ⟨_, hs, hkept, hp.post fun _ _ _ => trivial⟩
  have hdiscard : ∀ {α : Type} {p : Operation α} {K : School → Prop} {A : α → School → Prop},
      p.Asserts call.rely DayChange A K →
        p.discard.Asserts call.rely DayChange (fun _ _ => True) K :=
    fun hp => hp.bind fun _ _ _ => trivial
  cases call with
  | startSession now newId localNow adminNow r =>
    have hknows := knows_ready (@TimetableCall.rely_watching
      (.startSession now newId localNow adminNow r) _ rfl)
      (s.calendarOn (r.day localNow adminNow))
    have hcontext := @TimetableCall.rely_context (.startSession now newId localNow adminNow r) _
      rfl
    have hstart := startCurrentSession_asserts hknows (fun _ h => h.2) now newId rfl
      fun hadmin c L s s' hcompat h hc => ⟨hknows.keeps L s s' hcompat h hc.1,
        hcontext hadmin L s s' h c hc.2⟩
    exact ⟨_, ⟨⟨hs, rfl⟩, hbegin⟩, hknows.keeps, hdiscard hstart⟩
  | openPage d =>
    have hknows := knows_steady (@TimetableCall.rely_watching (.openPage d) _ rfl)
      (s.calendarOn d)
    have hcreate : (getOrCreateAttendanceDayContext d).Asserts
        (TimetableCall.openPage d).rely DayChange (fun _ t => t.Steady d (s.calendarOn d) ∧ True)
          fun t => t.Steady d (s.calendarOn d) :=
      getOrCreate_asserts hknows (fun c => hknows.keeps.and (Change.keeps_const _ _ _))
        fun _ _ _ _ => trivial
    exact ⟨_, ⟨hs, rfl⟩, hknows.keeps, hdiscard hcreate⟩
  | replacePeriods today schedule periods =>
    exact hfrozen _ (replaceSchedulePeriods_asserts (TimetableCall.rely_watching rfl) schedule
      periods)
  | updateSchedule today id name status =>
    exact hfrozen _ (updateSchedule_asserts (TimetableCall.rely_watching rfl) id name status)
  | archiveSchedule today id =>
    exact hfrozen _ (archiveSchedule_asserts (TimetableCall.rely_watching rfl) id)
  | updateWeekDays today items =>
    exact hfrozen _ (updateWeekDays_asserts (TimetableCall.rely_watching rfl) items)
  | changeRegistry f =>
    refine ⟨_, hs, hkept, fun _ s => s.FrozenDays, ?_, fun _ => hkept, fun _ s _ => trivial⟩
    intro s hs
    have hchange : DayChange [] s { s with registry := f s.registry } :=
      .others _ ⟨rfl, rfl, fun h => h⟩
    exact ⟨hchange, hchange.frozenDays hs⟩
  | submitMarks clock sessionId membership marks =>
    refine ⟨_, hs, hkept, fun _ s => s.FrozenDays, ?_, fun _ => hkept, fun _ s _ => trivial⟩
    exact submitLocked_asserts (fun L s s' h => h.1) clock sessionId membership marks
  | recalculate now sectionId d =>
    have hrecalculate := recalculation_asserts (@TimetableCall.rely_watching
      (.recalculate now sectionId d) _ rfl)
      (fun L s s' h c hc => TimetableCall.rely_context rfl rfl L s s' h c hc) now sectionId
    exact ⟨_, hs, hkept, hdiscard hrecalculate⟩

/-- Days that have begun stay so, with the contexts they had. -/
def School.KeepsStarted (s s' : School) : Prop :=
  ∀ d, s.Started d → s'.Started d ∧ s'.dayContextOn d = s.dayContextOn d

theorem School.KeepsStarted.refl (s : School) : s.KeepsStarted s := fun _ hd => ⟨hd, rfl⟩

theorem School.KeepsStarted.trans (s t u : School) (h : s.KeepsStarted t)
    (h' : t.KeepsStarted u) : s.KeepsStarted u := by
  intro d hd
  obtain ⟨hstarted, hcontext⟩ := h d hd
  obtain ⟨hstarted', hcontext'⟩ := h' d hstarted
  exact ⟨hstarted', hcontext'.trans hcontext⟩

/-- **Sessions belong to the frozen schedule of their day.** Along a calm run of calls beside each
other, the context of a day does not change once the day has a session, every session is of an
attendance period of the context of its day, and no daily summary has more submitted than expected
periods. -/
theorem calm_frozenDays (calls : List TimetableCall) (s : School) (hs : s.FrozenDays)
    (before after : List ℕ) (c₁ c₂ : Config School Row Failure Unit)
    (h₁ : (timetableStart s calls).exec before = some c₁) (h₂ : c₁.exec after = some c₂)
    (hcalm : CalmCalls s calls (before ++ after)) :
    (∀ d, c₁.store.Started d →
      c₂.store.Started d ∧ c₂.store.dayContextOn d = c₁.store.dayContextOn d) ∧
      c₂.store.SessionsBelong ∧ c₂.store.SummariesWithinExpected := by
  have hcommit : ∀ (i : ℕ) (L : List (Row × LockMode)) (s s' : School), DayChange L s s' →
      True → s.FrozenDays → s'.FrozenDays ∧ s.KeepsStarted s' :=
    fun i L s s' h _ hs => ⟨h.frozenDays hs, fun d hd => ⟨h.started hd, h.frozen hs hd⟩⟩
  have hrely : ∀ (i j : ℕ) (L : List (Row × LockMode)) (s s' : School), i ≠ j →
      DayChange L s s' → True → s.FrozenDays → (∀ call ∈ calls[j]?, call.Undisturbed s s') →
        ∀ call ∈ calls[j]?, call.rely L s s' :=
    fun i j L s s' _ h _ hs hcalm call hcall => ⟨h, hs, hcalm call hcall⟩
  have hcalls : ∀ (i : ℕ) (p : Operation Unit) (s : School),
      (calls.map TimetableCall.program)[i]? = some p → s.FrozenDays →
        (∀ call ∈ calls[i]?, call.MayBegin s) → ∃ K : School → Prop, K s ∧
          Change.Keeps (fun L s s' => ∀ call ∈ calls[i]?, call.rely L s s') [] K ∧
            p.Asserts (fun L s s' => ∀ call ∈ calls[i]?, call.rely L s s') DayChange
              (fun _ _ => True) K := by
    intro i p s hp hs hbegin
    rw [List.getElem?_map, Option.map_eq_some_iff] at hp
    obtain ⟨call, hcall, rfl⟩ := hp
    have hsame : (fun (L : List (Row × LockMode)) (s s' : School) =>
        ∀ call ∈ calls[i]?, call.rely L s s') = call.rely := by
      funext L s s'
      simp [hcall]
    rw [hsame]
    exact call.asserts hs (hbegin call hcall)
  have hstart : (timetableStart s calls).Annotated (fun i L s s' => ∀ call ∈ calls[i]?,
      call.rely L s s') (fun _ => DayChange) (fun _ _ _ => True)
        (calls.map TimetableCall.program) [] :=
    Config.annotated_start s
  have hany : ∀ (sched : List ℕ) (c : Config School Row Failure Unit),
      c.EachStep (fun _ _ => True) sched := Config.eachStep_of_forall fun _ _ => trivial
  obtain ⟨⟨begun, hmiddle, hrest⟩, hs₁, -⟩ := hstart.exec School.KeepsStarted.refl
    School.KeepsStarted.trans
    hcommit hrely hcalls before h₁ (Config.CalmRun.of_append hcalm) (hany _ _) hs
  obtain ⟨-, hs₂, hlater⟩ := hmiddle.exec School.KeepsStarted.refl
    School.KeepsStarted.trans hcommit hrely hcalls
    after h₂ (hrest after hcalm) (hany _ _) hs₁
  exact ⟨hlater, hs₂.sessions, hs₂.summaries⟩

instance School.decidableShowsLive (s : School) (d : Date) : Decidable (s.ShowsLive d) :=
  decidable_of_iff (∃ c ∈ s.dayContextOn d, c.scheduleSnapshot = (s.calendarOn d).schedule)
    Iff.rfl

instance School.decidableSessionsBelong (s : School) : Decidable s.SessionsBelong :=
  inferInstanceAs (Decidable (∀ x ∈ s.sessions, ∃ c ∈ s.dayContextOn x.attendanceDate,
    x.periodSequence ∈ c.scheduleSnapshot.attendanceSequences))

instance School.decidableSummariesWithinExpected (s : School) :
    Decidable s.SummariesWithinExpected :=
  inferInstanceAs (Decidable (∀ r ∈ s.summaries, r.submittedPeriods ≤ r.expectedPeriods))

instance School.decidableReadyToStart (s : School) (d : Date) : Decidable (s.ReadyToStart d) :=
  decidable_of_iff (useCurrentSchedule (s.calendarOn d).year (s.calendarOn d).activeYear = true ∧
      (∀ c ∈ s.dayContextOn d, (s.calendarOn d).yearIsActive c.academicYear = true) ∧
        (s.Started d → s.ShowsLive d))
    ⟨fun h => ⟨h.1, h.2.1, h.2.2⟩, fun h => ⟨h.useCurrent, h.contextYear, h.inLine⟩⟩

instance TimetableCall.decidableMayBegin (call : TimetableCall) (s : School) :
    Decidable (call.MayBegin s) :=
  match call with
  | .startSession _ _ localNow adminNow r =>
    inferInstanceAs (Decidable (s.ReadyToStart (r.day localNow adminNow)))
  | .openPage _ => .isTrue trivial
  | .replacePeriods _ _ _ => .isTrue trivial
  | .updateSchedule _ _ _ _ => .isTrue trivial
  | .archiveSchedule _ _ => .isTrue trivial
  | .updateWeekDays _ _ => .isTrue trivial
  | .changeRegistry _ => .isTrue trivial
  | .submitMarks _ _ _ _ => .isTrue trivial
  | .recalculate _ _ _ => .isTrue trivial

instance TimetableCall.decidableUndisturbed (call : TimetableCall) (s s' : School) :
    Decidable (call.Undisturbed s s') :=
  decidable_of_iff ((∀ d ∈ call.day?, s'.calendarOn d = s.calendarOn d) ∧
      (call.usesContext = true → ∀ d ∈ call.day?, ∀ c ∈ s.dayContextOn d,
        s'.dayContextOn d = some c))
    ⟨fun h => ⟨h.1, h.2⟩, fun h => ⟨h.calendar, h.context⟩⟩

def sundayRegistry : Registry where
  academicYears := [⟨1, 600, 900, .active, none⟩]
  weekDays := [⟨0, true, some 1⟩]
  bellSchedules := [{ id := 1, name := "week" }]
  bellPeriods := [⟨1, 1, "first", 25200, 27900, true⟩]
  sections := [{ id := 1, grade := 1 }, { id := 2, grade := 1 }]
  students := [⟨1, "", "", none, "student", none, .active, none, none, "", "", ""⟩]
  enrollments := [⟨1, 1, 1, 1, 1, .active, 600, none⟩]

def openedSunday : School where
  registry := sundayRegistry
  dayContexts := [⟨700, some 1, emptyDaySchedule, "Asia/Riyadh"⟩]

def teacherStart (newId sectionId : ℕ) (t : TimeOfDay) : TimetableCall :=
  .startSession 0 newId ⟨700, t⟩ ⟨700, t⟩ { sectionId := sectionId }

/-- Two teachers start the first sessions of the day: the first has read the timetable and that no
session exists when the second begins, brings the context in line and inserts its session. -/
def twoFirstStarts : List ℕ :=
  List.replicate 10 0 ++ List.replicate 22 1 ++ List.replicate 12 0

theorem calm_frozenDays_twoFirstStarts : ∃ c,
    (timetableStart openedSunday [teacherStart 1 1 26000, teacherStart 2 2 26000]).exec
        twoFirstStarts = some c ∧ c.store.SessionsBelong ∧ c.store.SummariesWithinExpected := by
  have hsome : ((timetableStart openedSunday [teacherStart 1 1 26000, teacherStart 2 2 26000]).exec
      twoFirstStarts).isSome = true := by decide +kernel
  obtain ⟨c, hc⟩ := Option.isSome_iff_exists.mp hsome
  have hopened : openedSunday.FrozenDays :=
    ⟨List.nodup_nil, fun x hx => (List.not_mem_nil hx).elim, fun r hr => (List.not_mem_nil hr).elim⟩
  have hcalm : CalmCalls openedSunday [teacherStart 1 1 26000, teacherStart 2 2 26000]
      ([] ++ twoFirstStarts) := Config.calmRun_of_check _ (by decide +kernel)
  exact ⟨c, hc, (calm_frozenDays _ openedSunday hopened [] twoFirstStarts _ c rfl hc hcalm).2⟩

/-- A first period is attended and submitted. The timetable is edited: the day has the second
period instead, which is attended and submitted as well. -/
def editedSunday : List TimetableCall :=
  [ teacherStart 1 1 26000,
    .replacePeriods 700 1 [⟨2, "second", 28800, 31500, true⟩],
    teacherStart 2 1 29000,
    .submitMarks ⟨0, 0, fun _ => 0, fun _ _ => 0⟩ 1 1 [],
    .submitMarks ⟨0, 0, fun _ => 0, fun _ _ => 0⟩ 2 1 [],
    .recalculate 1 1 700 ]

def editedSundayTurns : List ℕ :=
  List.replicate 27 0 ++ List.replicate 13 1 ++ List.replicate 15 2 ++ List.replicate 11 3 ++
    List.replicate 11 4 ++ List.replicate 20 5

/-- Two edits of the schedule's name and a start. The first edit is about to bring the context in
line when the second is made from its first statement to its last, and the session started. -/
def renamedSunday : List TimetableCall :=
  [ .updateSchedule 700 1 (some "winter") none,
    .updateSchedule 700 1 (some "spring") none,
    teacherStart 1 1 26000 ]

def renamedSundayTurns : List ℕ :=
  List.replicate 12 0 ++ List.replicate 17 1 ++ List.replicate 17 2

/-- The second session is of no period of the frozen schedule, and the summary shows two submitted
periods of one expected; and a context changes although the day has a session. -/
theorem editedSunday_not_frozen :
    (∃ c, (timetableStart { registry := sundayRegistry } editedSunday).exec editedSundayTurns =
        some c ∧ c.returned = true ∧ ¬ c.store.SessionsBelong ∧
          ¬ c.store.SummariesWithinExpected) ∧
      ∃ c₁ c₂, (timetableStart openedSunday renamedSunday).exec renamedSundayTurns = some c₁ ∧
        c₁.exec (List.replicate 5 0) = some c₂ ∧ c₁.store.Started 700 ∧
          c₂.store.dayContextOn 700 ≠ c₁.store.dayContextOn 700 := by
  constructor
  · have hfacts : ((timetableStart { registry := sundayRegistry } editedSunday).exec
        editedSundayTurns).map (fun c => (c.returned, decide c.store.SessionsBelong,
          decide c.store.SummariesWithinExpected)) = some (true, false, false) := by
      decide +kernel
    obtain ⟨c, hc, hfacts⟩ := Option.map_eq_some_iff.mp hfacts
    simp only [Prod.mk.injEq, decide_eq_false_iff_not] at hfacts
    exact ⟨c, hc, hfacts⟩
  · have hfacts : ((timetableStart openedSunday renamedSunday).exec renamedSundayTurns).bind
        (fun c₁ => (c₁.exec (List.replicate 5 0)).map fun c₂ =>
          (decide (c₁.store.Started 700),
            decide (c₂.store.dayContextOn 700 = c₁.store.dayContextOn 700))) =
        some (true, false) := by decide +kernel
    obtain ⟨c₁, hc₁, hfacts⟩ := Option.bind_eq_some_iff.mp hfacts
    obtain ⟨c₂, hc₂, hfacts⟩ := Option.map_eq_some_iff.mp hfacts
    simp only [Prod.mk.injEq, decide_eq_true_eq, decide_eq_false_iff_not] at hfacts
    exact ⟨c₁, c₂, hc₁, hc₂, hfacts⟩

end SchoolPlatform
