import Mathlib.Data.List.Chain
import SchoolPlatform.Analysis.TheoremPreparationScreens
import SchoolPlatform.Library.Spans

/-!
# No two periods at one time

`validatePeriods` compares neighbours in the order of their beginnings, which is enough for all
periods to be apart (`apart_of_validated`). Every edit of the timetable keeps the periods of each
bell schedule apart, so the period of now is the only one (`current_period_unique`).
-/

namespace SchoolPlatform

open ReadCommitted

variable {s s' : School}

/-- One of the periods has ended when the other one begins. -/
def BellPeriod.Apart (p q : BellPeriod) : Prop := p.endTime ≤ q.startTime ∨ q.endTime ≤ p.startTime

def BellPeriod.Contains (p : BellPeriod) (t : TimeOfDay) : Prop := p.startTime ≤ t ∧ t < p.endTime

instance instDecidableContains (p : BellPeriod) (t : TimeOfDay) : Decidable (p.Contains t) :=
  inferInstanceAs (Decidable (_ ∧ _))

def School.PeriodsApart (s : School) : Prop :=
  s.registry.bellPeriods.Pairwise fun p q => p.bellSchedule = q.bellSchedule → p.Apart q

theorem BellPeriod.Apart.symm {p q : BellPeriod} (h : p.Apart q) : q.Apart p := Or.symm h

theorem eq_of_length_le_one {α : Type} {l : List α} (h : l.length ≤ 1) {a b : α} (ha : a ∈ l)
    (hb : b ∈ l) : a = b := by
  cases l with
  | nil => exact absurd ha List.not_mem_nil
  | cons c l =>
    have hnil : l = [] := by
      rw [List.length_cons] at h
      exact List.length_eq_zero_iff.mp (by omega)
    rw [hnil, List.mem_singleton] at ha hb
    rw [ha, hb]

theorem length_contains_le {l : List BellPeriod} (h : l.Pairwise BellPeriod.Apart)
    (t : TimeOfDay) : (l.filter fun p => p.Contains t).length ≤ 1 := by
  have hpairs : (l.filter fun p => p.Contains t).Pairwise fun _ _ => False := by
    apply (h.filter _).imp_of_mem
    intro p q hp hq hapart
    have hp' := (List.mem_filter.mp hp).2
    have hq' := (List.mem_filter.mp hq).2
    rw [decide_eq_true_eq] at hp' hq'
    obtain ⟨hpstart, hpend⟩ := hp'
    obtain ⟨hqstart, hqend⟩ := hq'
    unfold BellPeriod.Apart at hapart
    unfold TimeOfDay at *
    omega
  generalize l.filter (fun p => p.Contains t) = found at hpairs
  cases found with
  | nil => exact Nat.zero_le 1
  | cons p found =>
    cases found with
    | nil => exact Nat.le_refl 1
    | cons q found => exact ((List.pairwise_cons.mp hpairs).1 q List.mem_cons_self).elim

theorem isChain_of_zip_tail {α : Type} {R : α → α → Prop} {l : List α}
    (h : ∀ p ∈ l.zip l.tail, R p.1 p.2) : l.IsChain R := by
  induction l with
  | nil => exact List.IsChain.nil
  | cons a l ih =>
    cases l with
    | nil => exact List.IsChain.singleton a
    | cons b l =>
      have hab : R a b := h (a, b) List.mem_cons_self
      have hrest : (b :: l).IsChain R := by
        apply ih
        intro p hp
        exact h p (List.mem_cons_of_mem _ hp)
      exact List.isChain_cons_cons.mpr ⟨hab, hrest⟩

theorem apart_of_validated {periods : List PeriodInput} (h : validatePeriods periods = .ok ())
    (schedule : ℕ) :
    (periods.map fun p => p.period schedule).Pairwise BellPeriod.Apart := by
  unfold validatePeriods at h
  split at h
  · cases h
  split at h
  · cases h
  rename_i htimes
  split at h
  · cases h
  rename_i hneighbours
  have hlt : ∀ p ∈ periods, p.startTime < p.endTime := by
    intro p hp
    have hnot := List.find?_eq_none.mp htimes p hp
    rw [decide_eq_true_eq] at hnot
    exact Nat.lt_of_not_le hnot
  have hperm := List.perm_insertionSort (fun a b : PeriodInput => a.startTime ≤ b.startTime) periods
  unfold firstOverlap at hneighbours
  generalize periods.insertionSort (fun a b => a.startTime ≤ b.startTime) = ordered
    at hperm hneighbours
  have hchain : (ordered.map fun p => (p.startTime, p.endTime)).IsChain
      fun x y => x.2 ≤ y.1 := by
    rw [List.isChain_map]
    apply isChain_of_zip_tail
    intro p hp
    have hnot := List.find?_eq_none.mp hneighbours p hp
    rw [decide_eq_true_eq] at hnot
    exact Nat.le_of_not_lt hnot
  have hbounds : ∀ x ∈ ordered.map (fun p => (p.startTime, p.endTime)), x.1 < x.2 := by
    intro x hx
    obtain ⟨p, hp, rfl⟩ := List.mem_map.mp hx
    exact hlt p (hperm.mem_iff.mp hp)
  have hpairs := List.pairwise_map.mp (Span.pairwise_of_isChain hbounds hchain)
  have hordered : (ordered.map fun p => p.period schedule).Pairwise BellPeriod.Apart :=
    List.pairwise_map.mpr (hpairs.imp fun hle => .inl hle)
  exact ((hperm.map fun p => p.period schedule).pairwise_iff fun h => h.symm).mp hordered

theorem School.PeriodsApart.periodsOf (h : s.PeriodsApart) (schedule : ℕ) :
    (s.periodsOf schedule).Pairwise BellPeriod.Apart := by
  have hfilter : (s.registry.bellPeriods.filter fun p => p.bellSchedule = schedule).Pairwise
      BellPeriod.Apart := by
    apply (h.filter _).imp_of_mem
    intro p q hp hq hapart
    have hp' := (List.mem_filter.mp hp).2
    have hq' := (List.mem_filter.mp hq).2
    rw [decide_eq_true_eq] at hp' hq'
    exact hapart (hp'.trans hq'.symm)
  exact ((List.perm_insertionSort _ _).pairwise_iff fun h => h.symm).mpr hfilter

theorem replacePeriods_apart {schedule : ℕ} {periods : List PeriodInput} {b : Unit}
    (hs : s.PeriodsApart) (h : (replacePeriods schedule periods).eval s = .ok (b, s')) :
    s'.PeriodsApart := by
  unfold replacePeriods at h
  cases hvalid : validatePeriods periods with
  | error e =>
    rw [hvalid] at h
    cases h
  | ok u =>
    rw [hvalid] at h
    simp only [orRaise, Tx.bind_eq, Tx.eval_bind, Tx.eval_ret, eval_ask, Tx.eval_lockRows,
      Tx.eval_update] at h
    split at h
    · cases h
    · simp only [Tx.eval_bind, Tx.eval_update, eval_checkReferences, Except.ok.injEq,
        Prod.mk.injEq] at h
      rw [← h.2]
      show List.Pairwise _ ((s.registry.bellPeriods.filter fun p => p ∉ s.periodsOf schedule) ++
        (periods.insertionSort fun a b => a.sequence ≤ b.sequence).map fun p => p.period schedule)
      rw [List.pairwise_append]
      refine ⟨hs.filter _, ?_, ?_⟩
      · have hperm := (List.perm_insertionSort (fun a b : PeriodInput => a.sequence ≤ b.sequence)
          periods).map fun p => p.period schedule
        have hapart := (hperm.pairwise_iff fun h => h.symm).mpr (apart_of_validated hvalid schedule)
        apply hapart.imp
        intro p q hpq _
        exact hpq
      · -- What is left is of other schedules.
        intro p hp q hq hsame
        obtain ⟨input, -, rfl⟩ := List.mem_map.mp hq
        obtain ⟨hmem, hleft⟩ := List.mem_filter.mp hp
        rw [decide_eq_true_eq] at hleft
        refine absurd ?_ hleft
        unfold School.periodsOf
        rw [List.mem_insertionSort, List.mem_filter]
        exact ⟨hmem, by rw [decide_eq_true_eq]; exact hsame⟩

theorem preserves_apart_of_keeps {α : Type} {p : Operation α}
    (h : p.Keeps fun s => s.registry.bellPeriods) : p.Preserves School.PeriodsApart := by
  apply Program.Preserves.of_keeps _ h
  intro s s' hsame hs
  unfold School.PeriodsApart
  rw [hsame]
  exact hs

theorem publishLiveScheduleChange_keeps (today : Date) :
    (publishLiveScheduleChange today).Keeps fun s => s.registry.bellPeriods := by
  unfold publishLiveScheduleChange
  refine (askProgram_keeps _).bind fun saved => ?_
  cases saved with
  | false => trivial
  | true =>
    exact (getOrRefreshPristineDayContext_keeps (fun _ _ => rfl) (fun _ _ _ => rfl) today).bind
      fun _ => trivial

def TimetableCall.IsEdit : TimetableCall → Prop
  | .replacePeriods _ _ _ => True
  | .updateSchedule _ _ _ _ => True
  | .archiveSchedule _ _ => True
  | .updateWeekDays _ _ => True
  | _ => False

theorem edit_preserves_apart {call : TimetableCall} (h : call.IsEdit) :
    call.program.Preserves School.PeriodsApart := by
  have hpublish : ∀ today, (publishLiveScheduleChange today).Preserves School.PeriodsApart :=
    fun today => preserves_apart_of_keeps (publishLiveScheduleChange_keeps today)
  cases call with
  | replacePeriods today schedule periods =>
    exact ⟨fun s b s' hs heval => replacePeriods_apart hs heval, fun _ => hpublish today⟩
  | updateSchedule today id name status =>
    apply preserves_apart_of_keeps
    unfold TimetableCall.program SchoolPlatform.updateSchedule
    refine (askProgram_keeps _).bind fun found => ?_
    cases found with
    | none => trivial
    | some schedule =>
      dsimp only
      split
      · trivial
      · refine Program.Keeps.bind (transaction_keeps (updateWhere_keeps ?_))
          fun _ => publishLiveScheduleChange_keeps today
        exact fun rows s => rfl
  | archiveSchedule today id =>
    apply preserves_apart_of_keeps
    refine Program.Keeps.bind (transaction_keeps (updateWhere_keeps ?_))
      fun _ => publishLiveScheduleChange_keeps today
    exact fun rows s => rfl
  | updateWeekDays today items =>
    apply preserves_apart_of_keeps
    unfold TimetableCall.program SchoolPlatform.updateWeekDays
    refine Program.Keeps.bind (transaction_keeps ?_) fun changed => ?_
    · unfold updateWeekDaysLocked
      refine ⟨fun s => rfl, (ask_keeps _).bind fun valid => ?_⟩
      refine Tx.keeps_ite (raiseApi_keeps _) ?_
      refine (lockRows_keeps _ _).bind fun _ => (ask_keeps _).bind fun rows => ?_
      exact Tx.keeps_ite trivial ⟨fun s => rfl, trivial⟩
    · cases changed with
      | true => exact publishLiveScheduleChange_keeps today
      | false => trivial
  | startSession now newId localNow adminNow r => exact h.elim
  | openPage d => exact h.elim
  | changeRegistry f => exact h.elim
  | submitMarks clock sessionId membership marks => exact h.elim
  | recalculate now sectionId d => exact h.elim

def School.afterCalls (s : School) (calls : List TimetableCall) : School :=
  calls.foldl (fun s call => (call.program.run s).2) s

theorem periodsApart_afterCalls (hs : s.PeriodsApart) {calls : List TimetableCall}
    (hcalls : ∀ call ∈ calls, call.IsEdit) : (s.afterCalls calls).PeriodsApart := by
  induction calls generalizing s with
  | nil => exact hs
  | cons call calls ih =>
    have hfirst := (edit_preserves_apart (hcalls call List.mem_cons_self)).run hs
    exact ih hfirst fun c hc => hcalls c (List.mem_cons_of_mem _ hc)

/-- The period is one of the day in which attendance is taken, and contains the time. -/
def School.Running (s : School) (localNow : LocalTime) (p : BellPeriod) : Prop :=
  ∃ w schedule, s.weekDayOf localNow.date = some (w, some schedule) ∧ w.isSchoolDay = true ∧
    p ∈ s.periodsOf schedule.id ∧ p.isAttendancePeriod = true ∧ p.Contains localNow.time

theorem currentPeriod_eq_some_iff (hs : s.PeriodsApart) (schedule : ℕ) (t : TimeOfDay)
    (p : BellPeriod) : s.currentPeriod schedule t = some p ↔
      p ∈ s.periodsOf schedule ∧ p.isAttendancePeriod = true ∧ p.Contains t := by
  have hone := length_contains_le (hs.periodsOf schedule) t
  unfold School.currentPeriod
  constructor
  · intro h
    have hfound := List.find?_some h
    rw [decide_eq_true_eq] at hfound
    exact ⟨List.mem_of_find?_eq_some h, hfound.1, hfound.2⟩
  · rintro ⟨hmem, hattendance, hcontains⟩
    have hsome : ((s.periodsOf schedule).find? fun p =>
        p.isAttendancePeriod ∧ p.startTime ≤ t ∧ t < p.endTime).isSome = true := by
      rw [List.find?_isSome]
      exact ⟨p, hmem, by rw [decide_eq_true_eq]; exact ⟨hattendance, hcontains⟩⟩
    obtain ⟨q, hq⟩ := Option.isSome_iff_exists.mp hsome
    have hfound := List.find?_some hq
    rw [decide_eq_true_eq] at hfound
    have hpfilter : p ∈ (s.periodsOf schedule).filter fun p => p.Contains t :=
      List.mem_filter.mpr ⟨hmem, by rw [decide_eq_true_eq]; exact hcontains⟩
    have hqfilter : q ∈ (s.periodsOf schedule).filter fun p => p.Contains t :=
      List.mem_filter.mpr ⟨List.mem_of_find?_eq_some hq, by rw [decide_eq_true_eq]; exact hfound.2⟩
    rw [hq, eq_of_length_le_one hone hqfilter hpfilter]

theorem currentAttendancePeriod_eq_some_iff (hs : s.PeriodsApart) (localNow : LocalTime)
    (p : BellPeriod) : s.currentAttendancePeriod localNow.date localNow.time = some p ↔
      s.Running localNow p := by
  unfold School.currentAttendancePeriod School.Running
  cases hday : s.weekDayOf localNow.date with
  | none =>
    constructor
    · intro h
      cases h
    · rintro ⟨w, schedule, h, -⟩
      cases h
  | some found =>
    obtain ⟨w, schedule⟩ := found
    cases schedule with
    | none =>
      constructor
      · intro h
        cases h
      · rintro ⟨w', schedule, h, -⟩
        cases h
    | some schedule =>
      dsimp only
      by_cases hschool : w.isSchoolDay = true
      · rw [if_pos hschool, currentPeriod_eq_some_iff hs]
        constructor
        · intro h
          exact ⟨w, schedule, rfl, hschool, h⟩
        · rintro ⟨w', schedule', h, -, hperiod⟩
          cases h
          exact hperiod
      · rw [if_neg hschool]
        constructor
        · intro h
          cases h
        · rintro ⟨w', schedule', h, hyes, -⟩
          cases h
          exact absurd hyes hschool

/-- **No period ambiguity.** Of accepted periods at most one contains a time. On a school whose
periods are apart, after any edits of the timetable, at most one period of a bell schedule contains a
time, and the current attendance period is the one of the day that does. -/
theorem current_period_unique {s : School} (hs : s.PeriodsApart) {calls : List TimetableCall}
    (hcalls : ∀ call ∈ calls, call.IsEdit) :
    (∀ periods schedule t, validatePeriods periods = .ok () →
      ((periods.map fun p => p.period schedule).filter fun p => p.Contains t).length ≤ 1) ∧
    (∀ schedule t,
      (((s.afterCalls calls).periodsOf schedule).filter fun p => p.Contains t).length ≤ 1) ∧
    ∀ localNow, ∃ found,
      (getCurrentAttendancePeriod localNow).run (s.afterCalls calls) =
        (.ok found, s.afterCalls calls) ∧
      ∀ p, found = some p ↔ (s.afterCalls calls).Running localNow p := by
  have hafter := periodsApart_afterCalls hs hcalls
  refine ⟨fun periods schedule t h => length_contains_le (apart_of_validated h schedule) t,
    fun schedule t => length_contains_le (hafter.periodsOf schedule) t, fun localNow => ?_⟩
  exact ⟨_, (getCurrentAttendancePeriod_answers _ localNow).run_eq,
    fun p => currentAttendancePeriod_eq_some_iff hafter localNow p⟩

def newTimetable : School where
  registry :=
    { bellSchedules := [⟨1, "صباحي", .active⟩]
      weekDays := (List.range 7).map fun day => ⟨day, true, some 1⟩ }

def touchingPeriods : List TimetableCall :=
  [.replacePeriods 14 1 [⟨2, "الثانية", 31500, 34200, true⟩, ⟨1, "الأولى", 28800, 31500, true⟩],
    .replacePeriods 14 1 [⟨1, "الأولى", 28800, 31500, true⟩, ⟨2, "الثانية", 31499, 34200, true⟩]]

/-- At the second that both bounds name, it is the second period. -/
theorem touchingPeriods_unique : ∃ found,
    (getCurrentAttendancePeriod ⟨14, 31500⟩).run (newTimetable.afterCalls touchingPeriods) =
      (.ok found, newTimetable.afterCalls touchingPeriods) ∧
    found.map (fun p => p.sequence) = some 2 ∧
    ∀ p, found = some p ↔ (newTimetable.afterCalls touchingPeriods).Running ⟨14, 31500⟩ p := by
  have happart : newTimetable.PeriodsApart := List.Pairwise.nil
  have hedits : ∀ call ∈ touchingPeriods, call.IsEdit := by
    intro call hcall
    unfold touchingPeriods at hcall
    rcases List.mem_cons.mp hcall with rfl | hlast
    · trivial
    · rw [List.mem_singleton] at hlast
      rw [hlast]
      trivial
  obtain ⟨-, -, hnow⟩ := current_period_unique happart hedits
  obtain ⟨found, hrun, hiff⟩ := hnow ⟨14, 31500⟩
  have hsequence : ((getCurrentAttendancePeriod ⟨14, 31500⟩).run
      (newTimetable.afterCalls touchingPeriods)).1.toOption.map
        (fun found => found.map fun p => p.sequence) = some (some 2) := by
    decide +kernel
  rw [hrun] at hsequence
  exact ⟨found, hrun, Option.some.inj hsequence, hiff⟩

end SchoolPlatform
