import SchoolPlatform.Model.DashboardRanges

/-!
# Well-formed dashboard ranges

A range of the dashboard is well formed when it goes forwards, is not too long, and has a range of
the same length before it. A range that ends today may miss that: the active semester or year may
begin later, or have begun long ago, and close to the first day of the calendar there is no room
for the range before (`resolveRange_wellFormed_iff`).
-/

namespace SchoolPlatform

open Gregorian Academics

/-- The range before this one has as many days, and ends on the day before it. -/
def PresetRange.Precedes (previous range : PresetRange) : Prop :=
  previous.days = range.days ∧ previous.toDate + 1 = range.fromDate

def PresetRange.WellFormed (range : PresetRange) : Prop :=
  range.fromDate ≤ range.toDate ∧ range.days ≤ maxRangeDays ∧
    ∃ previous, range.previous = .ok previous ∧ previous.Precedes range

/-- A result is an error of the platform or a well-formed range. -/
def WellResolved : Except RangeFailure PresetRange → Prop
  | .error (.api _) => True
  | .error .overflow => False
  | .ok range => range.WellFormed

/-- The range goes forwards, is not too long, and begins no earlier in the calendar than the range
before it needs. -/
def Fits (fromDate toDate : ℕ) : Prop :=
  fromDate ≤ toDate ∧ toDate < fromDate + maxRangeDays ∧ toDate + 2 ≤ 2 * fromDate

theorem fits_self (d : ℕ) : Fits d d ↔ 2 ≤ d := by
  unfold Fits maxRangeDays
  omega

theorem daysBefore_eq_ok {d : Date} {days : ℤ} {d' : Date} (h : (d' : ℤ) = d - days)
    (hd' : InCalendar d') : daysBefore d days = .ok d' := by
  obtain ⟨hpos, hle⟩ := hd'
  unfold daysBefore
  rw [← h, if_pos ⟨by exact_mod_cast hpos, by exact_mod_cast hle⟩, Int.toNat_natCast]

theorem daysBefore_eq_overflow {d : Date} {days : ℤ} (h : (d : ℤ) - days < 1) :
    daysBefore d days = .error .overflow := by
  unfold daysBefore
  rw [if_neg]
  intro hin
  omega

section Days

variable {a b : ℕ} (preset : RangePreset)

theorem previous_eq_overflow (hroom : 2 * a < b + 2) (hmax : a ≤ maxOrdinal) :
    ({ fromDate := a, toDate := b, preset := preset } : PresetRange).previous =
      .error .overflow := by
  unfold PresetRange.previous DateRange.days
  by_cases hfirst : a < 2
  · have hday : daysBefore a 1 = .error .overflow := daysBefore_eq_overflow (by omega)
    dsimp only
    rw [hday]
    rfl
  · have hday : daysBefore a 1 = .ok (a - 1) :=
      daysBefore_eq_ok (by omega) ⟨by omega, by omega⟩
    have hstart : daysBefore (a - 1) ((b : ℤ) - a + 1 - 1) = .error .overflow :=
      daysBefore_eq_overflow (by omega)
    dsimp only
    rw [hday]
    dsimp only [bind, Except.bind]
    rw [hstart]

theorem previous_eq_ok (hle : a ≤ b) (hroom : b + 2 ≤ 2 * a) (hmax : a ≤ maxOrdinal) :
    ({ fromDate := a, toDate := b, preset := preset } : PresetRange).previous =
      .ok { fromDate := 2 * a - b - 1, toDate := a - 1, preset := preset } := by
  have hday : daysBefore a 1 = .ok (a - 1) := daysBefore_eq_ok (by omega) ⟨by omega, by omega⟩
  have hstart : daysBefore (a - 1) ((b : ℤ) - a + 1 - 1) = .ok (2 * a - b - 1) :=
    daysBefore_eq_ok (by omega) ⟨by omega, by omega⟩
  unfold PresetRange.previous DateRange.days
  dsimp only
  rw [hday]
  dsimp only [bind, Except.bind]
  rw [hstart]
  rfl

theorem wellFormed_iff (ha : InCalendar a) :
    ({ fromDate := a, toDate := b, preset := preset } : PresetRange).WellFormed ↔ Fits a b := by
  obtain ⟨hpos, hmax⟩ := ha
  have hmost : (maxRangeDays : ℤ) = 760 := rfl
  have hmost' : maxRangeDays = 760 := rfl
  unfold Fits
  constructor
  · rintro ⟨(hle : a ≤ b), (hlong : (b : ℤ) - a + 1 ≤ maxRangeDays), previous, hprevious, -⟩
    refine ⟨hle, by omega, ?_⟩
    by_contra hroom
    rw [previous_eq_overflow preset (by omega) hmax] at hprevious
    cases hprevious
  · rintro ⟨hle, hlong, hroom⟩
    have hdays : (b : ℤ) - a + 1 ≤ maxRangeDays := by omega
    have hsame : ((a - 1 : ℕ) : ℤ) - (2 * a - b - 1 : ℕ) + 1 = (b : ℤ) - a + 1 := by omega
    have hnext : a - 1 + 1 = a := by omega
    exact ⟨hle, hdays, _, previous_eq_ok preset hle hroom hmax, hsame, hnext⟩

end Days

theorem wellResolved_back {today : ℕ} (htoday : InCalendar today) (days : ℕ)
    (preset : RangePreset) (hdays : days < maxRangeDays) :
    WellResolved (do
      let start ← daysBefore today days
      pure { fromDate := start, toDate := today, preset := preset }) ↔ 2 * days + 2 ≤ today := by
  obtain ⟨hpos, hmax⟩ := htoday
  by_cases hstart : days < today
  · have hin : InCalendar (today - days) := ⟨by omega, by omega⟩
    have hback : daysBefore today days = .ok (today - days) :=
      daysBefore_eq_ok (by omega) hin
    rw [hback]
    apply (wellFormed_iff preset hin).trans
    unfold Fits
    omega
  · rw [daysBefore_eq_overflow (by omega)]
    constructor
    · intro h
      cases h
    · intro h
      omega

/-- A semester or a year that is shown up to today: it has begun, no more than the most days of it
have passed, and as many days lie before it. -/
def TermFits (start end_ today : ℕ) : Prop :=
  start ≤ end_ ∧ start ≤ today ∧
    (end_ < start + maxRangeDays ∨ today < start + maxRangeDays) ∧
    (end_ + 2 ≤ 2 * start ∨ today + 2 ≤ 2 * start)

theorem wellFormed_term {start end_ today : ℕ} (hstart : InCalendar start)
    (preset : RangePreset) :
    ({ fromDate := start, toDate := min end_ today, preset := preset } : PresetRange).WellFormed ↔
      TermFits start end_ today := by
  apply (wellFormed_iff preset hstart).trans
  unfold Fits TermFits
  omega

def SemesterFits (s : Calendars) (school : ℕ) (today : Date) : Prop :=
  match activeSemester s school, activeYear s school with
  | some semester, _ => TermFits semester.startDate semester.endDate today
  | none, some year => TermFits year.startDate year.endDate today
  | none, none => 60 ≤ today

/-- The dates of the school's calendar are dates. -/
structure CalendarDated (s : Calendars) : Prop where
  semester : ∀ x ∈ s.semesters, InCalendar x.2.startDate
  year : ∀ y ∈ s.years, InCalendar y.2.startDate

theorem CalendarDated.activeSemester {s : Calendars} (h : CalendarDated s) {school : ℕ}
    {x : Academics.Semester} (hx : activeSemester s school = some x) : InCalendar x.startDate := by
  obtain ⟨p, hp, rfl⟩ := List.mem_map.mp (List.mem_of_find?_eq_some hx)
  exact h.semester p hp

theorem CalendarDated.activeYear {s : Calendars} (h : CalendarDated s) {school : ℕ}
    {y : Academics.AcademicYear} (hy : activeYear s school = some y) : InCalendar y.startDate := by
  obtain ⟨p, hp, rfl⟩ := List.mem_map.mp (List.mem_of_find?_eq_some hy)
  exact h.year p hp

theorem wellResolved_semesterRange {s : Calendars} (hs : CalendarDated s) (school : ℕ)
    {today : Date} (htoday : InCalendar today) :
    WellResolved (semesterRange s school today) ↔ SemesterFits s school today := by
  unfold semesterRange SemesterFits
  cases hsemester : activeSemester s school with
  | some x => exact wellFormed_term (hs.activeSemester hsemester) _
  | none =>
    cases hyear : activeYear s school with
    | some y => exact wellFormed_term (hs.activeYear hyear) _
    | none => exact wellResolved_back htoday 29 _ (by decide)

theorem wellResolved_boundedRange {fromDate : ℕ} (hfrom : InCalendar fromDate) (toDate : ℕ) :
    WellResolved (boundedRange fromDate toDate) ↔
      (fromDate ≤ toDate → toDate < fromDate + maxRangeDays → toDate + 2 ≤ 2 * fromDate) := by
  have hmost : maxRangeDays = 760 := rfl
  unfold boundedRange
  by_cases hback : toDate < fromDate
  · rw [if_pos hback]
    exact ⟨fun _ h => absurd h (by omega), fun _ => trivial⟩
  · rw [if_neg hback]
    by_cases hlong : maxRangeDays < toDate - fromDate + 1
    · rw [if_pos hlong]
      exact ⟨fun _ _ h => absurd h (by omega), fun _ => trivial⟩
    · rw [if_neg hlong]
      apply (wellFormed_iff _ hfrom).trans
      unfold Fits
      omega

/-- The condition on two dates: when both can be read and are in order and close enough, as many
days of the calendar lie before the first. -/
def CustomFits (params : RangeParams) : Prop :=
  ∀ fromDate toDate, params.fromDate.bind fromisoformat = some fromDate →
    params.toDate.bind fromisoformat = some toDate →
    fromDate ≤ toDate → toDate < fromDate + maxRangeDays → toDate + 2 ≤ 2 * fromDate

theorem wellResolved_customRange (params : RangeParams) :
    WellResolved (customRange params) ↔ CustomFits params := by
  unfold customRange parseDate CustomFits
  cases hfrom : params.fromDate.bind fromisoformat with
  | none =>
    constructor
    · intro _ fromDate toDate h
      cases h
    · intro _
      trivial
  | some fromDate =>
    cases hto : params.toDate.bind fromisoformat with
    | none =>
      constructor
      · intro _ fromDate toDate _ h
        cases h
      · intro _
        trivial
    | some toDate =>
      obtain ⟨t, -, ht⟩ := Option.bind_eq_some_iff.mp hfrom
      refine (wellResolved_boundedRange (inCalendar_fromisoformat ht) toDate).trans ?_
      constructor
      · intro h _ _ heq heq'
        rw [Option.some.injEq] at heq heq'
        rw [← heq, ← heq']
        exact h
      · intro h
        exact h fromDate toDate rfl rfl

def RangeFits (s : Calendars) (school today : ℕ) (params : RangeParams) :
    Option RangePreset → Prop
  | none => True
  | some .today => 2 ≤ today
  | some .last7Days => 14 ≤ today
  | some .last30Days => 60 ≤ today
  | some .thisWeek => 2 * (today % 7) + 2 ≤ today
  | some .thisMonth => today + 2 ≤ 2 * monthStart today
  | some .currentSemester => SemesterFits s school today
  | some .custom => CustomFits params

/-- A request for a range gets an error of the platform or a well-formed range exactly under the
condition of its preset. -/
theorem resolveRange_wellFormed_iff (upper : Text → Text) (s : Calendars) (hs : CalendarDated s)
    (school : ℕ) (today : Date) (htoday : InCalendar today) (params : RangeParams) :
    WellResolved (resolveRange upper s school today params) ↔
      RangeFits s school today params (params.presetOf upper) := by
  unfold resolveRange
  cases params.presetOf upper with
  | none => exact Iff.rfl
  | some preset =>
    cases preset with
    | today =>
      apply (wellFormed_iff .today htoday).trans
      exact fits_self today
    | last7Days => exact wellResolved_back htoday 6 _ (by decide)
    | last30Days => exact wellResolved_back htoday 29 _ (by decide)
    | thisWeek =>
      have hweek : today % 7 < 7 := Nat.mod_lt _ (by decide)
      exact wellResolved_back htoday (today % 7) _ (Nat.lt_trans hweek (by decide))
    | thisMonth =>
      obtain ⟨hpos, hle, hmonth⟩ := monthStart_spec htoday.1
      apply (wellFormed_iff .thisMonth ⟨hpos, Nat.le_trans hle htoday.2⟩).trans
      have hlong : today < monthStart today + maxRangeDays :=
        Nat.lt_trans hmonth (Nat.add_lt_add_left (by decide) _)
      exact ⟨fun h => h.2.2, fun h => ⟨hle, hlong, h⟩⟩
    | currentSemester => exact wellResolved_semesterRange hs school htoday
    | custom => exact wellResolved_customRange params

/-- A school whose active semester is from day 739900 to day 740000. -/
def comingSemester : Calendars where
  semesters := [
    (1, { school := 1
          academicYear := 1
          name := []
          sequence := 1
          startDate := 739900
          endDate := 740000
          status := .active })]

/-- On the day before, the range of the semester ends before it begins. -/
theorem comingSemester_inverted :
    ¬ WellResolved (resolveRange id comingSemester 1 739899
      { preset := some "CURRENT_SEMESTER".toList }) := by
  intro h
  have hle : (739900 : ℕ) ≤ 739899 := h.1
  omega

/-- Fifty days into the semester its range is well formed. -/
theorem comingSemester_begun :
    WellResolved (resolveRange id comingSemester 1 739950
      { preset := some "CURRENT_SEMESTER".toList }) := by
  have hdated : CalendarDated comingSemester := by
    constructor
    · intro x hx
      rw [List.mem_singleton.mp hx]
      exact ⟨by decide, by decide⟩
    · intro y hy
      cases hy
  apply (resolveRange_wellFormed_iff id comingSemester hdated 1 739950
    ⟨by decide, by decide⟩ _).mpr
  have hfits : TermFits 739900 740000 739950 := by
    unfold TermFits maxRangeDays
    omega
  exact hfits

end SchoolPlatform
