import SchoolPlatform.Analysis.DayCalendars
import SchoolPlatform.Analysis.SectionRecounts
import SchoolPlatform.Model.FamilyDays

/-!
# The day of a child and its history

The history of a child shows the stored summary of a day; the page of the day counts again. The two
agree on a day whose summary is up to date exactly when the sessions of the day keep to the
timetable that was saved for it, are all of the year of the summary, and the coverages bear the date
of their sessions (`same_story_iff`).
-/

namespace SchoolPlatform

open ReadCommitted

variable {s : School} {r : DailyAttendanceSummary} {sectionId student : ℕ} {d : Date}

/-- A recalculation of the section of the summary would write the summary again. -/
def School.UpToDate (s : School) (r : DailyAttendanceSummary) : Prop :=
  ∃ c t, (readSectionCounters r.sectionId r.attendanceDate).run s = (.ok (some c), t) ∧
    r.student ∈ c.students ∧ c.row r.calculatedAt r.student = r

def School.checkUpToDate (s : School) (r : DailyAttendanceSummary) : Bool :=
  match (readSectionCounters r.sectionId r.attendanceDate).run s with
  | (.ok (some c), _) => decide (r.student ∈ c.students ∧ c.row r.calculatedAt r.student = r)
  | _ => false

theorem School.upToDate_of_check (h : s.checkUpToDate r = true) : s.UpToDate r := by
  unfold School.checkUpToDate at h
  split at h
  · rename_i c t hrun
    rw [decide_eq_true_eq] at h
    exact ⟨c, t, hrun, h.1, h.2⟩
  · cases h

theorem readSectionCounters_run {c : SectionCounters} {t : School}
    (h : (readSectionCounters sectionId d).run s = (.ok (some c), t)) :
    ∃ expected year, c = s.countersIn expected sectionId d year := by
  obtain ⟨context, s₁, hrun, -, -, hbase, -⟩ := run_getOrCreateAttendanceDayContext s d
  unfold readSectionCounters at h
  rw [Program.bind_eq, Program.run_bind, hrun] at h
  have hread := (readCounters_run s₁ context sectionId d).run_eq
  rw [School.counters_of_base hbase] at hread
  have hsame : s.counters context sectionId d = some c := by
    dsimp only at h
    rw [hread, Prod.mk.injEq, Except.ok.injEq] at h
    exact h.1
  obtain ⟨year, -, hc⟩ := Option.map_eq_some_iff.mp hsame
  exact ⟨context.attendancePeriods.length, year, hc.symm⟩

/-- What is known of a summary that is up to date. -/
structure School.AsRecalculated (s : School) (r : DailyAttendanceSummary) : Prop where
  right : s.RowRight r
  present : r.presentPeriods = r.submittedPeriods - r.absentPeriods
  classified : (r.completenessStatus, r.absenceStatus) =
    classifyDailyAttendance r.expectedPeriods r.submittedPeriods r.absentPeriods

theorem School.UpToDate.asRecalculated (h : s.UpToDate r) (hs : s.Keyed) : s.AsRecalculated r := by
  obtain ⟨c, t, hrun, -, hrow⟩ := h
  obtain ⟨expected, year, rfl⟩ := readSectionCounters_run hrun
  constructor
  · rw [← hrow]
    exact hs.rowRight_countersIn _ _ _ expected year _
  · rw [← hrow]
    rfl
  · rw [← hrow]
    rfl

def School.daySessions (s : School) (r : DailyAttendanceSummary) : List AttendanceSession :=
  s.sessions.filter fun x => x.sectionId = r.sectionId ∧ x.attendanceDate = r.attendanceDate ∧
    x.academicYear = r.academicYear

theorem sessionsOf_candidates (enrollments : List StudentEnrollment) :
    sessionsOf (s.candidateSessions r.attendanceDate (ownPairs enrollments (some r)))
      (some r.academicYear) (some r.sectionId) = s.daySessions r := by
  have hpair : (r.academicYear, r.sectionId) ∈ ownPairs enrollments (some r) := by
    simp [ownPairs]
  unfold sessionsOf School.candidateSessions School.daySessions
  rw [List.filter_filter, List.filter_filter]
  apply List.filter_congr
  intro x _
  rw [Bool.eq_iff_iff]
  simp only [Bool.and_eq_true, decide_eq_true_eq, List.contains_iff_mem, Option.some.injEq]
  constructor
  · rintro ⟨⟨⟨hyear, hsection⟩, -⟩, -, hdate⟩
    exact ⟨hsection, hdate, hyear⟩
  · rintro ⟨hsection, hdate, hyear⟩
    rw [hyear, hsection]
    exact ⟨⟨⟨rfl, rfl⟩, hpair⟩, List.mem_map_of_mem hpair, hdate⟩

theorem School.Keyed.nodup_sequences (hs : s.Keyed) {l : List AttendanceSession}
    (hl : l.Sublist s.sessions)
    (hplace : ∀ x ∈ l, x.sectionId = sectionId ∧ x.attendanceDate = d) :
    (l.map fun x => x.periodSequence).Nodup := by
  refine List.Nodup.map_on ?_ ((hs.session_ids.of_map _).sublist hl)
  intro x hx y hy hsame
  obtain ⟨hsection, hdate⟩ := hplace x hx
  obtain ⟨hsection', hdate'⟩ := hplace y hy
  apply Table.eq_of_key_eq hs.session_slots (hl.subset hx) (hl.subset hy)
  rw [hsection, hsection', hdate, hdate', hsame]

theorem School.Keyed.nodup_daySessions (hs : s.Keyed) :
    ((s.daySessions r).map fun x => x.periodSequence).Nodup := by
  apply @School.Keyed.nodup_sequences s r.sectionId r.attendanceDate hs _ List.filter_sublist
  intro x hx
  have hx' := (List.mem_filter.mp hx).2
  rw [decide_eq_true_eq] at hx'
  exact ⟨hx'.1, hx'.2.1⟩

theorem filter_daySessions (p : AttendanceSession → Bool) :
    (s.daySessions r).filter (fun x => decide (x.status = .submitted) && p x) =
      (s.submittedSessions r.sectionId r.attendanceDate).filter fun x =>
        decide (x.academicYear = r.academicYear) && p x := by
  unfold School.daySessions School.submittedSessions
  rw [List.filter_filter, List.filter_filter]
  apply List.filter_congr
  intro x _
  rw [Bool.eq_iff_iff]
  simp only [Bool.and_eq_true, decide_eq_true_eq]
  tauto

section Periods

variable {bellPeriodSnapshot : ℕ → PeriodSnapshot} {periods : Dict ℕ PeriodSnapshot}
  {sessions : List AttendanceSession}

theorem mem_keys_withSessionPeriods {k : ℕ} :
    k ∈ (withSessionPeriods bellPeriodSnapshot periods sessions).keys ↔
      k ∈ periods.keys ∨ ∃ x ∈ sessions, x.periodSequence = k := by
  unfold withSessionPeriods
  induction sessions generalizing periods with
  | nil => simp
  | cons x xs ih =>
    rw [List.foldl_cons, ih]
    by_cases hx : (periods.get? x.periodSequence).isSome
    · rw [if_pos hx]
      obtain ⟨p, hp⟩ := Option.isSome_iff_exists.mp hx
      have hmem := (Dict.mem_keys_iff x.periodSequence).mpr ⟨p, hp⟩
      simp only [List.mem_cons, exists_eq_or_imp]
      constructor
      · rintro (hk | hk)
        · exact .inl hk
        · exact .inr (.inr hk)
      · rintro (hk | rfl | hk)
        · exact .inl hk
        · exact .inl hmem
        · exact .inr hk
    · rw [if_neg hx, Dict.mem_keys_insert]
      simp only [List.mem_cons, exists_eq_or_imp, or_assoc, eq_comm (a := k), or_left_comm]

theorem nodup_keys_withSessionPeriods (h : periods.keys.Nodup) :
    (withSessionPeriods bellPeriodSnapshot periods sessions).keys.Nodup := by
  unfold withSessionPeriods
  induction sessions generalizing periods with
  | nil => exact h
  | cons x xs ih =>
    rw [List.foldl_cons]
    apply ih
    by_cases hx : (periods.get? x.periodSequence).isSome
    · rw [if_pos hx]
      exact h
    · rw [if_neg hx]
      exact Dict.nodup_keys_insert h _ _

theorem length_filter_keys (hnodup : (sessions.map fun x => x.periodSequence).Nodup)
    {keys : List ℕ} (hkeys : keys.Nodup) (hmem : ∀ x ∈ sessions, x.periodSequence ∈ keys)
    (p : AttendanceSession → Bool) :
    (keys.filter fun k => ((Dict.ofList (sessions.map fun x => (x.periodSequence, x))).get? k).any
      p).length = (sessions.filter p).length := by
  have hget : ∀ k x, (Dict.ofList (sessions.map fun x => (x.periodSequence, x))).get? k = some x ↔
      x ∈ sessions ∧ x.periodSequence = k := by
    intro k x
    rw [Dict.get?_ofList]
    · simp only [List.mem_map, Prod.mk.injEq]
      constructor
      · rintro ⟨y, hy, hk, rfl⟩
        exact ⟨hy, hk⟩
      · rintro ⟨hx, hk⟩
        exact ⟨x, hx, hk, rfl⟩
    · rw [List.map_map]
      exact hnodup
  rw [← List.length_map (fun x : AttendanceSession => x.periodSequence)]
  refine length_eq_of_mem_iff (hkeys.filter _)
    (hnodup.sublist (List.Sublist.map _ List.filter_sublist)) fun k => ?_
  simp only [List.mem_filter, List.mem_map, Option.any_eq_true]
  constructor
  · rintro ⟨-, x, hx, hp⟩
    obtain ⟨hmemx, rfl⟩ := (hget k x).mp hx
    exact ⟨x, ⟨hmemx, hp⟩, rfl⟩
  · rintro ⟨x, ⟨hx, hp⟩, rfl⟩
    exact ⟨hmem x hx, x, (hget _ x).mpr ⟨hx, rfl⟩, hp⟩

variable {records : FamilyRecords} {today : Date} {minutes : ℕ} {excusedIds : List ℕ}

theorem periodRow_submitted (session : Option AttendanceSession) (k : ℕ) (p : PeriodSnapshot) :
    decide ((periodRow records student d today minutes excusedIds session k p).status = .present ∨
      (periodRow records student d today minutes excusedIds session k p).status = .absent) =
        session.any fun x => x.status = .submitted := by
  unfold periodRow
  rcases session with - | x
  · dsimp only
    split <;> simp
  · by_cases hx : x.status = .submitted
    · by_cases hmark : records.school.hasMark x.id student <;> simp [hx, hmark]
    · simp [hx]

theorem periodRow_absent (session : Option AttendanceSession) (k : ℕ) (p : PeriodSnapshot) :
    decide ((periodRow records student d today minutes excusedIds session k p).status = .absent) =
      session.any fun x => decide (x.status = .submitted) &&
        records.school.hasMark x.id student := by
  unfold periodRow
  rcases session with - | x
  · dsimp only
    split <;> simp
  · by_cases hx : x.status = .submitted
    · by_cases hmark : records.school.hasMark x.id student <;> simp [hx, hmark]
    · simp [hx]

theorem periodRow_excused (session : Option AttendanceSession) (k : ℕ) (p : PeriodSnapshot) :
    (periodRow records student d today minutes excusedIds session k p).excused =
      session.any fun x => decide (x.status = .submitted) &&
        (records.school.hasMark x.id student && excusedIds.contains x.id) := by
  unfold periodRow
  rcases session with - | x
  · simp
  · by_cases hx : x.status = .submitted
    · by_cases hmark : records.school.hasMark x.id student <;> simp [hx, hmark]
    · simp [hx]

theorem length_filter_rows (hnodup : (sessions.map fun x => x.periodSequence).Nodup)
    (hkeys : periods.keys.Nodup) (hmem : ∀ x ∈ sessions, x.periodSequence ∈ periods.keys)
    {row : Option AttendanceSession → ℕ → PeriodSnapshot → PeriodRow} {q : PeriodRow → Bool}
    {p : AttendanceSession → Bool} (hq : ∀ session k x, q (row session k x) = session.any p) :
    (((periods.insertionSort fun a b => a.1 ≤ b.1).map fun x =>
      row ((Dict.ofList (sessions.map fun x => (x.periodSequence, x))).get? x.1) x.1 x.2).filter
        q).length = (sessions.filter p).length := by
  have hperm := List.perm_insertionSort (fun a b : ℕ × PeriodSnapshot => a.1 ≤ b.1) periods
  rw [List.filter_map, List.length_map, (hperm.filter _).length_eq,
    ← length_filter_keys hnodup hkeys hmem p]
  unfold Dict.keys
  rw [List.filter_map, List.length_map]
  congr 1
  apply List.filter_congr
  intro x _
  exact hq _ _ _

end Periods

/-! ## The page of the day -/

def FamilyRecords.shownPeriods (s : FamilyRecords) (today : Date) (r : DailyAttendanceSummary) :
    List ℕ :=
  ((s.school.shownSchedule r.attendanceDate today).attendanceSequences ++
    (s.school.daySessions r).map fun x => x.periodSequence).dedup

def FamilyRecords.dayCounts (s : FamilyRecords) (today : Date) (r : DailyAttendanceSummary) :
    DayCounts :=
  let scheduled := (s.school.shownSchedule r.attendanceDate today).attendanceSequences.length
  let sessions := s.school.daySessions r
  let excusedIds := s.school.excusedSessionIds r.student r.attendanceDate
  { expected := max (max scheduled r.expectedPeriods) (s.shownPeriods today r).length
    expectedKnown := decide (scheduled ≠ 0 ∨ r.expectedPeriods ≠ 0)
    submitted := (sessions.filter fun x => x.status = .submitted).length
    absent := (sessions.filter fun x => decide (x.status = .submitted) &&
      s.school.hasMark x.id r.student).length
    excused := (sessions.filter fun x => decide (x.status = .submitted) &&
      (s.school.hasMark x.id r.student && excusedIds.contains x.id)).length
    updatedAt := lastUpdate sessions }

def FamilyRecords.pagePeriods (s : FamilyRecords) (today : Date) (r : DailyAttendanceSummary) :
    Dict ℕ PeriodSnapshot :=
  withSessionPeriods s.bellPeriodSnapshot
    (Dict.ofList (((s.school.shownSchedule r.attendanceDate today).periods.filter fun p =>
      p.isAttendancePeriod).map fun p => (p.sequence, p))) (s.school.daySessions r)

section Page

variable {records : FamilyRecords} {today : Date}

theorem nodup_pagePeriods : (records.pagePeriods today r).keys.Nodup :=
  nodup_keys_withSessionPeriods (Dict.nodup_keys_ofList _)

theorem mem_pagePeriods {k : ℕ} : k ∈ (records.pagePeriods today r).keys ↔
    k ∈ (records.school.shownSchedule r.attendanceDate today).attendanceSequences ∨
      ∃ x ∈ records.school.daySessions r, x.periodSequence = k := by
  unfold FamilyRecords.pagePeriods DayScheduleSnapshot.attendanceSequences
  rw [mem_keys_withSessionPeriods, Dict.mem_keys_iff, List.mem_map]
  apply or_congr_left
  constructor
  · rintro ⟨p, hp⟩
    obtain ⟨q, hq, hsame⟩ := List.mem_map.mp (Dict.mem_of_get?_ofList hp)
    rw [Prod.mk.injEq] at hsame
    exact ⟨q, hq, hsame.1⟩
  · rintro ⟨p, hp, rfl⟩
    exact Dict.get?_ofList_isSome (List.mem_map.mpr ⟨p, hp, rfl⟩)

theorem length_pagePeriods :
    (records.pagePeriods today r).length = (records.shownPeriods today r).length := by
  have hkeys : (records.pagePeriods today r).keys.length = (records.pagePeriods today r).length :=
    List.length_map _
  rw [← hkeys]
  refine length_eq_of_mem_iff nodup_pagePeriods (List.nodup_dedup _) fun k => ?_
  rw [mem_pagePeriods, FamilyRecords.shownPeriods, List.mem_dedup, List.mem_append, List.mem_map]

theorem childDay_today {clock : ZoneClock} {s : FamilyRecords} (hs : s.school.Keyed)
    (hsummary : s.school.summaryOf r.student r.attendanceDate = some r) :
    (childDay clock s r.student (some r.attendanceDate)).today =
      countedFigures (s.dayCounts (schoolToday clock s.school) r) r.attendanceDate := by
  have hnodup := hs.nodup_daySessions (r := r)
  have hmem : ∀ x ∈ s.school.daySessions r, x.periodSequence ∈
      (s.pagePeriods (schoolToday clock s.school) r).keys :=
    fun x hx => mem_pagePeriods.mpr (.inr ⟨x, hx, rfl⟩)
  have hscheduled : ∀ x : DayScheduleSnapshot, x.attendanceSequences.length =
      (x.periods.filter fun p => p.isAttendancePeriod).length := fun x => List.length_map _
  unfold childDay FamilyRecords.dayCounts
  simp only [Option.getD_some, hsummary, yearOn, sessionsOf_candidates, Option.map_some, hscheduled]
  rw [← length_pagePeriods]
  congr 2
  · exact length_filter_rows hnodup nodup_pagePeriods hmem fun _ _ _ => periodRow_submitted _ _ _
  · exact length_filter_rows hnodup nodup_pagePeriods hmem fun _ _ _ => periodRow_absent _ _ _
  · exact length_filter_rows hnodup nodup_pagePeriods hmem fun _ _ _ => periodRow_excused _ _ _

end Page

/-! ## When both say the same -/

/-- The counts and the status of the day are the same. -/
structure SameStory (a b : DayFigures) : Prop where
  expected : a.expectedPeriods = b.expectedPeriods
  submitted : a.submittedPeriods = b.submittedPeriods
  absent : a.absentPeriods = b.absentPeriods
  excused : a.excusedAbsentPeriods = b.excusedAbsentPeriods
  status : a.absenceStatus = b.absenceStatus
  completeness : a.completenessStatus = b.completenessStatus

/-- The timetable of the day has no more periods than the summary expects, nor have the sessions
besides; the submitted sessions of the section are of the year of the summary; the active coverages
of the student's absences in them bear the date. -/
structure FamilyRecords.OneStory (s : FamilyRecords) (today : Date) (r : DailyAttendanceSummary) :
    Prop where
  timetable : (s.school.shownSchedule r.attendanceDate today).attendanceSequences.length ≤
    r.expectedPeriods
  periods : (s.shownPeriods today r).length ≤ r.expectedPeriods
  years : ∀ x ∈ s.school.submittedSessions r.sectionId r.attendanceDate,
    x.academicYear = r.academicYear
  dates : ∀ x ∈ s.school.submittedSessions r.sectionId r.attendanceDate,
    s.school.hasMark x.id r.student = true → ∀ c ∈ s.school.coverages, c.student = r.student →
      c.attendanceSession = x.id → c.status = .active → c.attendanceDate = r.attendanceDate

theorem School.hasMark_eq (s : School) (session student : ℕ) :
    s.hasMark session student = s.isAbsent session student := by
  unfold School.hasMark School.isAbsent
  congr 1
  funext m
  simp [m.status.eq_absent]

theorem School.RowRight.counts (h : s.RowRight r) (hs : s.Keyed) :
    r.submittedPeriods = (s.submittedSessions r.sectionId r.attendanceDate).length ∧
      r.absentPeriods = ((s.submittedSessions r.sectionId r.attendanceDate).filter fun x =>
        s.hasMark x.id r.student).length ∧
      r.excusedAbsentPeriods = ((s.submittedSessions r.sectionId r.attendanceDate).filter fun x =>
        s.hasMark x.id r.student && s.coverageTaken (x.id, r.student)).length := by
  obtain ⟨hsubmitted, habsent, hexcused⟩ := (hs.rowRight_iff r).mp h
  unfold School.submittedIds at hsubmitted habsent hexcused
  rw [List.length_map] at hsubmitted
  rw [List.filter_map, List.length_map] at habsent hexcused
  simp only [School.hasMark_eq]
  exact ⟨hsubmitted, habsent, hexcused⟩

theorem length_filter_eq_iff {α : Type} {l : List α} {p q : α → Bool}
    (hpq : ∀ x ∈ l, p x = true → q x = true) :
    (l.filter p).length = (l.filter q).length ↔ ∀ x ∈ l, q x = true → p x = true := by
  have hsame : l.filter p = (l.filter q).filter p := by
    rw [List.filter_filter]
    apply List.filter_congr
    intro x hx
    cases hp : p x with
    | false => rfl
    | true => simp [hpq x hx hp]
  rw [hsame, List.length_filter_eq_length_iff]
  simp only [List.mem_filter, and_imp]

theorem classifyDailyAttendance_zero (submitted absent : ℕ) :
    (classifyDailyAttendance 0 submitted absent).1 = .incomplete := by
  unfold classifyDailyAttendance
  simp only [Nat.lt_irrefl, false_and, if_false]
  split_ifs <;> rfl

section Agreement

variable {records : FamilyRecords} {today : Date}

theorem submitted_dayCounts : (records.dayCounts today r).submitted =
    ((records.school.submittedSessions r.sectionId r.attendanceDate).filter fun x =>
      x.academicYear = r.academicYear).length := by
  have hfilter := @filter_daySessions records.school r fun _ => true
  simp only [Bool.and_true] at hfilter
  exact congrArg List.length hfilter

theorem absent_dayCounts (hyears : ∀ x ∈ records.school.submittedSessions r.sectionId
      r.attendanceDate, x.academicYear = r.academicYear) :
    (records.dayCounts today r).absent =
      ((records.school.submittedSessions r.sectionId r.attendanceDate).filter fun x =>
        records.school.hasMark x.id r.student).length := by
  unfold FamilyRecords.dayCounts
  dsimp only
  rw [filter_daySessions]
  congr 1
  apply List.filter_congr
  intro x hx
  simp [hyears x hx]

theorem excused_dayCounts (hyears : ∀ x ∈ records.school.submittedSessions r.sectionId
      r.attendanceDate, x.academicYear = r.academicYear) :
    (records.dayCounts today r).excused =
      ((records.school.submittedSessions r.sectionId r.attendanceDate).filter fun x =>
        records.school.hasMark x.id r.student &&
          (records.school.excusedSessionIds r.student r.attendanceDate).contains x.id).length := by
  unfold FamilyRecords.dayCounts
  dsimp only
  rw [filter_daySessions]
  congr 1
  apply List.filter_congr
  intro x hx
  simp [hyears x hx]

theorem contains_excusedSessionIds_iff {session : ℕ} (hs : s.Keyed) :
    (s.excusedSessionIds student d).contains session = true ↔
      s.coverageTaken (session, student) = true ∧ ∀ c ∈ s.coverages, c.student = student →
        c.attendanceSession = session → c.status = .active → c.attendanceDate = d := by
  rw [School.coverageTaken_pair_iff]
  simp only [School.excusedSessionIds, List.contains_iff_mem, List.mem_map, List.mem_filter,
    decide_eq_true_eq]
  constructor
  · rintro ⟨c, ⟨hc, hstudent, hdate, hactive⟩, hsession⟩
    refine ⟨⟨c, ⟨hc, hactive⟩, hsession, hstudent⟩, fun c' hc' hstudent' hsession' hactive' => ?_⟩
    have hsame := hs.coverage_key c' c ⟨hc', hactive'⟩ ⟨hc, hactive⟩
      (hsession'.trans hsession.symm) (hstudent'.trans hstudent.symm)
    rw [hsame]
    exact hdate
  · rintro ⟨⟨c, ⟨hc, hactive⟩, hsession, hstudent⟩, hdated⟩
    exact ⟨c, ⟨hc, hstudent, hdated c hc hstudent hsession hactive, hactive⟩, hsession⟩

theorem excused_eq_iff (hs : records.school.Keyed) :
    (((records.school.submittedSessions r.sectionId r.attendanceDate).filter fun x =>
      records.school.hasMark x.id r.student &&
        (records.school.excusedSessionIds r.student r.attendanceDate).contains x.id).length =
      ((records.school.submittedSessions r.sectionId r.attendanceDate).filter fun x =>
        records.school.hasMark x.id r.student &&
          records.school.coverageTaken (x.id, r.student)).length) ↔
    ∀ x ∈ records.school.submittedSessions r.sectionId r.attendanceDate,
      records.school.hasMark x.id r.student = true → ∀ c ∈ records.school.coverages,
        c.student = r.student → c.attendanceSession = x.id → c.status = .active →
          c.attendanceDate = r.attendanceDate := by
  rw [length_filter_eq_iff]
  · apply forall₂_congr
    intro x _
    rw [Bool.and_eq_true, Bool.and_eq_true, contains_excusedSessionIds_iff hs]
    constructor
    · intro h hmark c hc hstudent hsession hactive
      have htaken : records.school.coverageTaken (x.id, r.student) = true :=
        (records.school.coverageTaken_pair_iff x.id r.student).mpr
          ⟨c, ⟨hc, hactive⟩, hsession, hstudent⟩
      exact (h ⟨hmark, htaken⟩).2.2 c hc hstudent hsession hactive
    · rintro h ⟨hmark, htaken⟩
      exact ⟨hmark, htaken, h hmark⟩
  · intro x _ hx
    rw [Bool.and_eq_true, contains_excusedSessionIds_iff hs] at hx
    rw [Bool.and_eq_true]
    exact ⟨hx.1, hx.2.1⟩

theorem sameStory_dayCounts_iff (hs : records.school.Keyed)
    (hr : records.school.AsRecalculated r) :
    SameStory (storedFigures r r.attendanceDate)
      (countedFigures (records.dayCounts today r) r.attendanceDate) ↔ records.OneStory today r := by
  obtain ⟨hsubmitted, habsent, hexcused⟩ := hr.right.counts hs
  have hclassified := hr.classified
  constructor
  · intro h
    have hyears : ∀ x ∈ records.school.submittedSessions r.sectionId r.attendanceDate,
        x.academicYear = r.academicYear := by
      have hlength := h.submitted.symm.trans hsubmitted
      rw [show (countedFigures (records.dayCounts today r) r.attendanceDate).submittedPeriods =
        (records.dayCounts today r).submitted from rfl, submitted_dayCounts,
        List.length_filter_eq_length_iff] at hlength
      exact fun x hx => of_decide_eq_true (hlength x hx)
    have hexpected : r.expectedPeriods = max
        (max (records.school.shownSchedule r.attendanceDate today).attendanceSequences.length
          r.expectedPeriods) (records.shownPeriods today r).length := h.expected
    refine ⟨by omega, by omega, hyears, (excused_eq_iff hs).mp ?_⟩
    rw [← hexcused, ← @excused_dayCounts r records today hyears]
    exact h.excused.symm
  · intro h
    have hexpected : (records.dayCounts today r).expected = r.expectedPeriods := by
      have htimetable := h.timetable
      have hperiods := h.periods
      show max (max _ _) _ = _
      omega
    have hsub : (records.dayCounts today r).submitted = r.submittedPeriods := by
      rw [submitted_dayCounts, hsubmitted, List.length_filter_eq_length_iff]
      exact fun x hx => decide_eq_true (h.years x hx)
    have habs : (records.dayCounts today r).absent = r.absentPeriods := by
      rw [absent_dayCounts h.years, habsent]
    have hexc : (records.dayCounts today r).excused = r.excusedAbsentPeriods := by
      rw [excused_dayCounts h.years, hexcused]
      exact (excused_eq_iff hs).mpr h.dates
    have hstatus : (countedFigures (records.dayCounts today r) r.attendanceDate).absenceStatus =
        (classifyDailyAttendance r.expectedPeriods r.submittedPeriods r.absentPeriods).2 := by
      show (classifyDailyAttendance _ _ _).2 = _
      rw [hexpected, hsub, habs]
    refine ⟨hexpected.symm, hsub.symm, habs.symm, hexc.symm, ?_, ?_⟩
    · rw [hstatus, ← hclassified]
      rfl
    · show r.completenessStatus = if (records.dayCounts today r).expectedKnown = true then
        (classifyDailyAttendance _ _ _).1 else .incomplete
      rw [hexpected, hsub, habs, ← hclassified]
      by_cases hknown : (records.dayCounts today r).expectedKnown = true
      · rw [if_pos hknown]
      · rw [if_neg hknown]
        have hzero : r.expectedPeriods = 0 := by
          by_contra hne
          exact hknown (decide_eq_true (.inr hne))
        have hfirst := congrArg Prod.fst hclassified
        rw [hzero, classifyDailyAttendance_zero] at hfirst
        exact hfirst

end Agreement

section History

variable {clock : ZoneClock} {records : FamilyRecords} {fromDate toDate : Date}

theorem summaryOn_sources (hday : inRange fromDate toDate d = true) :
    (historySources clock records student fromDate toDate).summaryOn d =
      records.school.summaryOf student d := by
  unfold HistorySources.summaryOn historySources School.summaryOf
  dsimp only
  rw [List.find?_filter]
  congr 1
  funext r
  rw [Bool.eq_iff_iff]
  simp only [decide_eq_true_eq]
  constructor
  · rintro ⟨⟨hstudent, -⟩, hdate⟩
    exact ⟨hstudent, hdate⟩
  · rintro ⟨hstudent, hdate⟩
    rw [hdate]
    exact ⟨⟨hstudent, hday⟩, rfl⟩

theorem row_date (h : HistorySources) (s : School) (day : Date) : (h.row s day).day.date = day := by
  unfold HistorySources.row HistorySources.countedDay
  dsimp only
  split <;> rfl

theorem childHistory_ok {history : ChildHistory} {first last : Option Date}
    (hok : childHistory clock records student first last = .ok history) :
    history.results = (historySources clock records student history.fromDate
      history.toDate).dates.map ((historySources clock records student history.fromDate
        history.toDate).row records.school) := by
  unfold childHistory at hok
  dsimp only at hok
  split at hok
  · cases hok
  · cases hok
    rfl

theorem childHistory_day {history : ChildHistory} {first last : Option Date}
    (hok : childHistory clock records r.student first last = .ok history)
    (hsummary : records.school.summaryOf r.student r.attendanceDate = some r)
    (hfrom : history.fromDate ≤ r.attendanceDate) (hto : r.attendanceDate ≤ history.toDate) :
    ∃ morning, (history.results.filter fun x => x.day.date = r.attendanceDate) =
      [⟨storedFigures r r.attendanceDate, morning⟩] := by
  have hday : inRange history.fromDate history.toDate r.attendanceDate = true :=
    decide_eq_true ⟨hfrom, hto⟩
  have hon := (@summaryOn_sources r.student r.attendanceDate clock records history.fromDate
    history.toDate hday).trans hsummary
  rw [childHistory_ok hok]
  generalize historySources clock records r.student history.fromDate history.toDate = h at hon ⊢
  have hrow : h.row records.school r.attendanceDate =
      ⟨storedFigures r r.attendanceDate, morningPayload (h.arrivalOn r.attendanceDate)⟩ := by
    unfold HistorySources.row
    rw [hon]
  have hdates : ((h.dates.map (h.row records.school)).map fun x => x.day.date) = h.dates := by
    rw [List.map_map]
    refine (List.map_congr_left fun day _ => row_date h records.school day).trans ?_
    exact List.map_id _
  have hmem : r.attendanceDate ∈ h.dates := by
    unfold HistorySources.dates
    rw [List.mem_insertionSort, List.mem_dedup]
    simp only [List.mem_append, List.mem_map]
    left; left; left
    exact ⟨r, List.mem_of_find?_eq_some hon, rfl⟩
  refine ⟨morningPayload (h.arrivalOn r.attendanceDate), ?_⟩
  have hnodup : ((h.dates.map (h.row records.school)).map fun x => x.day.date).Nodup := by
    rw [hdates]
    exact (List.perm_insertionSort _ _).nodup_iff.mpr (List.nodup_dedup _)
  have hone := Table.filter_key_eq hnodup (List.mem_map_of_mem hmem)
  rw [row_date, hrow] at hone
  exact hone

end History

/-- **The history and the page of a day**: for a day whose summary is up to date the history of any
range with the day has one row of it, which says what the page of the day says exactly when the
sessions keep to the timetable, are of the year of the summary, and coverages bear the date. -/
theorem same_story_iff (clock : ZoneClock) (s : FamilyRecords) (hs : s.school.Keyed)
    (hkeys : (s.school.summaries.map fun r => (r.student, r.attendanceDate)).Nodup)
    (r : DailyAttendanceSummary) (hr : r ∈ s.school.summaries) (hcurrent : s.school.UpToDate r)
    (first last : Option Date) (history : ChildHistory)
    (hok : childHistory clock s r.student first last = .ok history)
    (hfrom : history.fromDate ≤ r.attendanceDate) (hto : r.attendanceDate ≤ history.toDate) :
    (∃ row, (history.results.filter fun x => x.day.date = r.attendanceDate) = [row] ∧
      SameStory row.day (childDay clock s r.student (some r.attendanceDate)).today) ↔
        s.OneStory (schoolToday clock s.school) r := by
  have hsummary : s.school.summaryOf r.student r.attendanceDate = some r := by
    have hfound := (Table.find?_eq_some_iff hkeys (r.student, r.attendanceDate) r).mpr ⟨hr, rfl⟩
    simpa only [School.summaryOf, Prod.mk.injEq] using hfound
  obtain ⟨morning, hone⟩ := childHistory_day hok hsummary hfrom hto
  rw [childDay_today hs hsummary, hone,
    ← sameStory_dayCounts_iff hs (hcurrent.asRecalculated hs)]
  constructor
  · rintro ⟨row, hrow, hsame⟩
    rw [List.cons.injEq] at hrow
    rw [← hrow.1] at hsame
    exact hsame
  · intro hsame
    exact ⟨_, rfl, hsame⟩

/-! ## Two days -/

def periodAt (sequence : ℕ) : PeriodSnapshot :=
  ⟨sequence, "", 420 + 60 * sequence, 465 + 60 * sequence, true⟩

def sessionAt (id sectionId sequence : ℕ) (status : AttendanceSessionStatus) : AttendanceSession :=
  ⟨id, 1, sectionId, 14, sequence, status, ⟨[]⟩, none, none, 100⟩

def noonAfter : ZoneClock := fun _ => (15, 720)

/-- Student 7 has come from section 4 to section 5 on the day. Two of three periods are submitted;
the student was absent in one of them, with an excuse. -/
def transferDay : FamilyRecords where
  school :=
    { registry := { enrollments := [⟨1, 7, 1, 1, 4, .transferred, 1, some 14⟩,
        ⟨2, 7, 1, 1, 5, .active, 14, none⟩] }
      dayContexts := [⟨14, some 1, ⟨some 1, none, true, [periodAt 1, periodAt 2, periodAt 3]⟩,
        "Asia/Riyadh"⟩]
      sessions := [sessionAt 1 5 1 .submitted, sessionAt 2 5 2 .submitted,
        sessionAt 3 5 3 .inProgress, sessionAt 4 4 1 .submitted]
      marks := [⟨2, 7, .absent⟩, ⟨4, 7, .absent⟩]
      excuses := [⟨1, 7, .approved, 90, some 95, none, none⟩]
      coverages := [⟨1, 1, 7, 2, 14, 2, .active, none, ""⟩]
      nextCoverageId := 2
      summaries := [⟨7, 14, 1, 5, 3, 2, 1, 1, 1, 0, .incomplete, .partial_, 110⟩] }
  arrivals := []
  bellPeriodSnapshot := periodAt

/-- The timetable was changed when the first session of the day had been started, and a session of
a period that the saved timetable does not have was started after it. -/
def changedDay : FamilyRecords where
  school :=
    { registry := { enrollments := [⟨2, 7, 1, 1, 5, .active, 1, none⟩] }
      dayContexts := [⟨14, some 1, ⟨some 1, none, true, [periodAt 1]⟩, "Asia/Riyadh"⟩]
      sessions := [sessionAt 1 5 1 .submitted, sessionAt 2 5 2 .submitted]
      summaries := [⟨7, 14, 1, 5, 1, 2, 0, 2, 0, 0, .complete, .none, 110⟩] }
  arrivals := []
  bellPeriodSnapshot := periodAt

theorem keyed_transferDay : transferDay.school.Keyed := .of_checked (by decide)

theorem keyed_changedDay : changedDay.school.Keyed := .of_checked (by decide)

theorem same_story_transferDay : ∃ history row,
    childHistory noonAfter transferDay 7 none none = .ok history ∧
      (history.results.filter fun x => x.day.date = 14) = [row] ∧
        SameStory row.day (childDay noonAfter transferDay 7 (some 14)).today := by
  let r : DailyAttendanceSummary := ⟨7, 14, 1, 5, 3, 2, 1, 1, 1, 0, .incomplete, .partial_, 110⟩
  have hcurrent : transferDay.school.UpToDate r := School.upToDate_of_check (by decide +kernel)
  obtain ⟨history, hok, hrange⟩ : ∃ history, childHistory noonAfter transferDay 7 none none =
      .ok history ∧ history.fromDate ≤ 14 ∧ 14 ≤ history.toDate := ⟨_, rfl, by decide, by decide⟩
  have hstory : transferDay.OneStory (schoolToday noonAfter transferDay.school) r :=
    ⟨by decide +kernel, by decide +kernel, by decide +kernel, by decide +kernel⟩
  obtain ⟨row, hrow, hsame⟩ := (same_story_iff noonAfter transferDay keyed_transferDay (by decide) r
    (by decide) hcurrent none none history hok hrange.1 hrange.2).mpr hstory
  exact ⟨history, row, hok, hrow, hsame⟩

/-- **The page of the day expects two periods, its history one.** -/
theorem two_stories : ¬ ∀ (clock : ZoneClock) (s : FamilyRecords), s.school.Keyed →
    (s.school.summaries.map fun r => (r.student, r.attendanceDate)).Nodup →
      ∀ r ∈ s.school.summaries, s.school.UpToDate r → ∀ (first last : Option Date)
        (history : ChildHistory), childHistory clock s r.student first last = .ok history →
          history.fromDate ≤ r.attendanceDate → r.attendanceDate ≤ history.toDate →
            ∃ row, (history.results.filter fun x => x.day.date = r.attendanceDate) = [row] ∧
              SameStory row.day (childDay clock s r.student (some r.attendanceDate)).today := by
  intro h
  let r : DailyAttendanceSummary := ⟨7, 14, 1, 5, 1, 2, 0, 2, 0, 0, .complete, .none, 110⟩
  have hcurrent : changedDay.school.UpToDate r := School.upToDate_of_check (by decide +kernel)
  obtain ⟨history, hok, hrange⟩ : ∃ history, childHistory noonAfter changedDay 7 none none =
      .ok history ∧ history.fromDate ≤ 14 ∧ 14 ≤ history.toDate := ⟨_, rfl, by decide, by decide⟩
  obtain ⟨row, hrow, hsame⟩ := h noonAfter changedDay keyed_changedDay (by decide) r (by decide)
    hcurrent none none history hok hrange.1 hrange.2
  obtain ⟨morning, hone⟩ := @childHistory_day r noonAfter changedDay history none none hok
    (by decide +kernel) hrange.1 hrange.2
  have hexpected := hsame.expected
  rw [hone, List.cons.injEq] at hrow
  rw [← hrow.1] at hexpected
  have hshown : (childDay noonAfter changedDay 7 (some 14)).today.expectedPeriods = 2 := by
    decide +kernel
  have hone : 1 = 2 := hexpected.trans hshown
  omega

end SchoolPlatform
