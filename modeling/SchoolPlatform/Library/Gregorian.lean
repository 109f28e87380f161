import Mathlib.Data.Nat.Basic
import Mathlib.Tactic.Common

/-!
# The proleptic Gregorian calendar

Days are counted from the first of January of year 1, which is day 1. `toYmd` takes a day apart as
the standard library of Python does, by cycles of 400, 100, 4 and 1 years, and `toOrdinal` puts it
together again (`toOrdinal_toYmd`).
-/

namespace Gregorian

def isLeap (year : ℕ) : Bool := year % 4 = 0 ∧ (year % 100 ≠ 0 ∨ year % 400 = 0)

/-- The days before the first of January. -/
def daysBeforeYear (year : ℕ) : ℕ :=
  (year - 1) * 365 + (year - 1) / 4 - (year - 1) / 100 + (year - 1) / 400

def daysInYear (year : ℕ) : ℕ := if isLeap year then 366 else 365

def daysInMonth (year month : ℕ) : ℕ :=
  if month = 2 then if isLeap year then 29 else 28
  else if month = 4 ∨ month = 6 ∨ month = 9 ∨ month = 11 then 30
  else 31

def daysBeforeMonth (year : ℕ) : ℕ → ℕ
  | 0 => 0
  | 1 => 0
  | month + 2 => daysBeforeMonth year (month + 1) + daysInMonth year (month + 1)

def maxYear : ℕ := 9999

/-- The last day of the last year. -/
def maxOrdinal : ℕ := 3652059

structure Valid (year month day : ℕ) : Prop where
  year_pos : 1 ≤ year
  year_le : year ≤ maxYear
  month_pos : 1 ≤ month
  month_le : month ≤ 12
  day_pos : 1 ≤ day
  day_le : day ≤ daysInMonth year month

instance instDecidableValid (year month day : ℕ) : Decidable (Valid year month day) :=
  decidable_of_iff (1 ≤ year ∧ year ≤ maxYear ∧ 1 ≤ month ∧ month ≤ 12 ∧ 1 ≤ day ∧
      day ≤ daysInMonth year month)
    ⟨fun ⟨h₁, h₂, h₃, h₄, h₅, h₆⟩ => ⟨h₁, h₂, h₃, h₄, h₅, h₆⟩,
      fun h => ⟨h.year_pos, h.year_le, h.month_pos, h.month_le, h.day_pos, h.day_le⟩⟩

def toOrdinal (year month day : ℕ) : ℕ := daysBeforeYear year + daysBeforeMonth year month + day

/-- The day of a date that has been given by numbers. -/
def ofYmd? (year month day : ℕ) : Option ℕ :=
  if Valid year month day then some (toOrdinal year month day) else none

theorem isLeap_iff (year : ℕ) :
    isLeap year = true ↔ year % 4 = 0 ∧ (year % 100 ≠ 0 ∨ year % 400 = 0) := by
  unfold isLeap
  rw [decide_eq_true_eq]

theorem daysBeforeYear_succ {year : ℕ} (h : 1 ≤ year) :
    daysBeforeYear (year + 1) = daysBeforeYear year + daysInYear year := by
  obtain ⟨y, rfl⟩ : ∃ y, year = y + 1 := ⟨year - 1, by omega⟩
  have h4 : (y + 1) / 4 = y / 4 + if (y + 1) % 4 = 0 then 1 else 0 := by split <;> omega
  have h100 : (y + 1) / 100 = y / 100 + if (y + 1) % 100 = 0 then 1 else 0 := by split <;> omega
  have h400 : (y + 1) / 400 = y / 400 + if (y + 1) % 400 = 0 then 1 else 0 := by split <;> omega
  have hle : y / 100 ≤ y / 4 := by omega
  have hbefore : daysBeforeYear (y + 1) = y * 365 + y / 4 - y / 100 + y / 400 := rfl
  have hafter : daysBeforeYear (y + 1 + 1) =
      (y + 1) * 365 + (y + 1) / 4 - (y + 1) / 100 + (y + 1) / 400 := rfl
  have hchain : (y + 1) % 400 = 0 → (y + 1) % 100 = 0 := by omega
  have hchain' : (y + 1) % 100 = 0 → (y + 1) % 4 = 0 := by omega
  rw [hafter, hbefore, h4, h100, h400]
  unfold daysInYear
  by_cases hleap : isLeap (y + 1) = true
  · rw [if_pos hleap]
    obtain ⟨hfour, hrest⟩ := (isLeap_iff _).mp hleap
    rw [if_pos hfour]
    rcases hrest with hhundred | hfourhundred
    · rw [if_neg hhundred, if_neg fun h => hhundred (hchain h)]
      omega
    · rw [if_pos (hchain hfourhundred), if_pos hfourhundred]
      omega
  · rw [if_neg hleap]
    rw [isLeap_iff, not_and_or, not_or, not_not] at hleap
    rcases hleap with hfour | ⟨hhundred, hfourhundred⟩
    · rw [if_neg hfour, if_neg fun h => hfour (hchain' h),
        if_neg fun h => hfour (hchain' (hchain h))]
      omega
    · rw [if_pos (hchain' hhundred), if_pos hhundred, if_neg hfourhundred]
      omega

theorem daysBeforeYear_cycles {a b c d : ℕ} (hb : b ≤ 3) (hc : c ≤ 24) (hd : d ≤ 3) :
    daysBeforeYear (a * 400 + b * 100 + c * 4 + d + 1) =
      a * 146097 + b * 36524 + c * 1461 + d * 365 := by
  have h4 : (a * 400 + b * 100 + c * 4 + d) / 4 = a * 100 + b * 25 + c := by omega
  have h100 : (a * 400 + b * 100 + c * 4 + d) / 100 = a * 4 + b := by omega
  have h400 : (a * 400 + b * 100 + c * 4 + d) / 400 = a := by omega
  unfold daysBeforeYear
  rw [Nat.add_sub_cancel, h4, h100, h400]
  omega

theorem daysBeforeMonth_thirteen (year : ℕ) : daysBeforeMonth year 13 = daysInYear year := by
  cases h : isLeap year <;> simp [daysBeforeMonth, daysInMonth, daysInYear, h]

theorem daysBeforeMonth_succ (year : ℕ) {month : ℕ} (h : 1 ≤ month) :
    daysBeforeMonth year (month + 1) = daysBeforeMonth year month + daysInMonth year month := by
  obtain ⟨m, rfl⟩ : ∃ m, month = m + 1 := ⟨month - 1, by omega⟩
  rfl

def yearAndDays (ordinal : ℕ) : ℕ × ℕ :=
  let n := ordinal - 1
  let n400 := n / 146097
  let n := n % 146097
  let n100 := n / 36524
  let n := n % 36524
  let n4 := n / 1461
  let n := n % 1461
  let n1 := n / 365
  let n := n % 365
  if n1 = 4 ∨ n100 = 4 then (n400 * 400 + n100 * 100 + n4 * 4 + n1, 365)
  else (n400 * 400 + n100 * 100 + n4 * 4 + n1 + 1, n)

/-- The month, counted down from `month`, that has begun after these days of the year. -/
def monthFrom (year days : ℕ) : ℕ → ℕ
  | 0 => 1
  | month + 1 =>
    if daysBeforeMonth year (month + 1) ≤ days then month + 1 else monthFrom year days month

/-- `_ord2ymd`. -/
def toYmd (ordinal : ℕ) : ℕ × ℕ × ℕ :=
  let (year, days) := yearAndDays ordinal
  let month := monthFrom year days 12
  (year, month, days - daysBeforeMonth year month + 1)

def YearOfDay (n : ℕ) (p : ℕ × ℕ) : Prop :=
  1 ≤ p.1 ∧ daysBeforeYear p.1 + p.2 = n ∧ p.2 < daysInYear p.1

theorem yearOfDay_last {n year : ℕ} (hyear : 1 ≤ year) (hleap : isLeap year = true)
    (h : daysBeforeYear year + 365 = n) : YearOfDay n (year, 365) := by
  refine ⟨hyear, h, ?_⟩
  unfold daysInYear
  rw [if_pos hleap]
  exact Nat.lt_succ_self 365

theorem yearOfDay_cycles {n a b c d r : ℕ}
    (hn : n = a * 146097 + b * 36524 + c * 1461 + d * 365 + r) (hyear : r < 365)
    (hfour : d * 365 + r < 1461) (hhundred : c * 1461 + d * 365 + r < 36524)
    (hcycle : b * 36524 + c * 1461 + d * 365 + r < 146097) :
    YearOfDay n (if d = 4 ∨ b = 4 then (a * 400 + b * 100 + c * 4 + d, 365)
      else (a * 400 + b * 100 + c * 4 + d + 1, r)) := by
  by_cases hb : b = 4
  · have hc : c = 0 := by omega
    have hd : d = 0 := by omega
    have hr : r = 0 := by omega
    rw [if_pos (Or.inr hb)]
    have hsum : a * 400 + b * 100 + c * 4 + d = a * 400 + 3 * 100 + 24 * 4 + 3 + 1 := by omega
    rw [hsum]
    apply yearOfDay_last (by omega)
    · rw [isLeap_iff]
      omega
    · have hbefore := @daysBeforeYear_cycles a 3 24 3 (by omega) (by omega) (by omega)
      omega
  · by_cases hd : d = 4
    · have hr : r = 0 := by omega
      have hc : c ≤ 23 := by omega
      rw [if_pos (Or.inl hd)]
      have hsum : a * 400 + b * 100 + c * 4 + d = a * 400 + b * 100 + c * 4 + 3 + 1 := by omega
      rw [hsum]
      apply yearOfDay_last (by omega)
      · rw [isLeap_iff]
        omega
      · have hbefore := @daysBeforeYear_cycles a b c 3 (by omega) (by omega) (by omega)
        omega
    · have hnot : ¬ (d = 4 ∨ b = 4) := by omega
      rw [if_neg hnot]
      refine ⟨by omega, ?_, ?_⟩
      · dsimp only
        rw [daysBeforeYear_cycles (by omega) (by omega) (by omega)]
        omega
      · unfold daysInYear
        dsimp only
        split <;> omega

theorem yearAndDays_spec (ordinal : ℕ) : YearOfDay (ordinal - 1) (yearAndDays ordinal) := by
  unfold yearAndDays
  apply yearOfDay_cycles <;> omega

theorem monthFrom_spec (year days month : ℕ) :
    1 ≤ monthFrom year days month ∧ monthFrom year days month ≤ month + 1 := by
  induction month with
  | zero => exact ⟨Nat.le_refl 1, Nat.le_refl 1⟩
  | succ month ih =>
    unfold monthFrom
    split
    · omega
    · omega

theorem monthFrom_begun (year days : ℕ) {month : ℕ} (hmonth : 1 ≤ month)
    (h : days < daysBeforeMonth year (month + 1)) :
    monthFrom year days month ≤ month ∧
      daysBeforeMonth year (monthFrom year days month) ≤ days ∧
      days < daysBeforeMonth year (monthFrom year days month + 1) := by
  induction month with
  | zero => omega
  | succ month ih =>
    unfold monthFrom
    by_cases hbegun : daysBeforeMonth year (month + 1) ≤ days
    · rw [if_pos hbegun]
      exact ⟨Nat.le_refl _, hbegun, h⟩
    · rw [if_neg hbegun]
      have hpos : 1 ≤ month := by
        by_contra hzero
        have hmonth0 : month = 0 := by omega
        rw [hmonth0] at hbegun
        exact hbegun (Nat.zero_le days)
      obtain ⟨hle, hrest⟩ := ih hpos (by omega)
      exact ⟨by omega, hrest⟩

theorem toOrdinal_toYmd {ordinal : ℕ} (h : 1 ≤ ordinal) :
    toOrdinal (toYmd ordinal).1 (toYmd ordinal).2.1 (toYmd ordinal).2.2 = ordinal ∧
      1 ≤ (toYmd ordinal).1 ∧ 1 ≤ (toYmd ordinal).2.1 ∧ (toYmd ordinal).2.1 ≤ 12 ∧
      (toYmd ordinal).2.2 ≤ daysInMonth (toYmd ordinal).1 (toYmd ordinal).2.1 := by
  obtain ⟨hyear, hsum, hlt⟩ := yearAndDays_spec ordinal
  rw [← daysBeforeMonth_thirteen] at hlt
  obtain ⟨hle, hbegun, hnot⟩ := monthFrom_begun _ _ (by decide : 1 ≤ 12) hlt
  have hpos := (monthFrom_spec (yearAndDays ordinal).1 (yearAndDays ordinal).2 12).1
  rw [daysBeforeMonth_succ _ hpos] at hnot
  unfold toOrdinal toYmd
  dsimp only
  omega

/-- The first of the month of a day. -/
def monthStart (ordinal : ℕ) : ℕ := toOrdinal (toYmd ordinal).1 (toYmd ordinal).2.1 1

theorem daysInMonth_le (year month : ℕ) : daysInMonth year month ≤ 31 := by
  unfold daysInMonth
  split_ifs <;> omega

theorem monthStart_spec {ordinal : ℕ} (h : 1 ≤ ordinal) :
    1 ≤ monthStart ordinal ∧ monthStart ordinal ≤ ordinal ∧ ordinal < monthStart ordinal + 31 := by
  obtain ⟨hday, -, -, -, hmonth⟩ := toOrdinal_toYmd h
  have hpos : 1 ≤ (toYmd ordinal).2.2 := Nat.le_add_left 1 _
  have hmost := daysInMonth_le (toYmd ordinal).1 (toYmd ordinal).2.1
  unfold toOrdinal at hday
  unfold monthStart toOrdinal
  omega

example : toYmd 719163 = (1970, 1, 1) ∧ toYmd maxOrdinal = (9999, 12, 31) := by decide

def number? (digits : List Char) : Option ℕ :=
  digits.foldlM (fun n c => if c.isDigit then some (n * 10 + (c.toNat - '0'.toNat)) else none) 0

/-- `_isoweek1monday`: the Monday of the week that has the fourth of January. -/
def isoWeek1Monday (year : ℕ) : ℕ :=
  let firstDay := toOrdinal year 1 1
  let firstWeekday := (firstDay + 6) % 7
  if 3 < firstWeekday then firstDay - firstWeekday + 7 else firstDay - firstWeekday

/-- `_isoweek_to_gregorian`: a year has a week 53 when it begins on a Thursday, or on a Wednesday
and is a leap year. -/
def ofIsoWeek? (year week day : ℕ) : Option ℕ :=
  let firstWeekday := (toOrdinal year 1 1 + 6) % 7
  let weeks := if firstWeekday = 3 ∨ (firstWeekday = 2 ∧ isLeap year = true) then 53 else 52
  let ordinal := isoWeek1Monday year + (week - 1) * 7 + (day - 1)
  if (1 ≤ year ∧ year ≤ maxYear) ∧ (1 ≤ week ∧ week ≤ weeks) ∧ (1 ≤ day ∧ day ≤ 7) ∧
      ordinal ≤ maxOrdinal then some ordinal
  else none

def ymdText? (year month day : List Char) : Option ℕ := do
  let y ← number? year
  let m ← number? month
  let d ← number? day
  ofYmd? y m d

def isoWeekText? (year week day : List Char) : Option ℕ := do
  let y ← number? year
  let w ← number? week
  let d ← number? day
  ofIsoWeek? y w d

/-- `date.fromisoformat`: a date by month and day or by week and weekday, with or without
separators; the weekday may be left out. -/
def fromisoformat (t : List Char) : Option ℕ :=
  match t with
  | [y₁, y₂, y₃, y₄, '-', 'W', w₁, w₂, '-', d] => isoWeekText? [y₁, y₂, y₃, y₄] [w₁, w₂] [d]
  | [y₁, y₂, y₃, y₄, '-', m₁, m₂, '-', d₁, d₂] => ymdText? [y₁, y₂, y₃, y₄] [m₁, m₂] [d₁, d₂]
  | [y₁, y₂, y₃, y₄, '-', 'W', w₁, w₂] => isoWeekText? [y₁, y₂, y₃, y₄] [w₁, w₂] ['1']
  | [y₁, y₂, y₃, y₄, 'W', w₁, w₂, d] => isoWeekText? [y₁, y₂, y₃, y₄] [w₁, w₂] [d]
  | [y₁, y₂, y₃, y₄, m₁, m₂, d₁, d₂] => ymdText? [y₁, y₂, y₃, y₄] [m₁, m₂] [d₁, d₂]
  | [y₁, y₂, y₃, y₄, 'W', w₁, w₂] => isoWeekText? [y₁, y₂, y₃, y₄] [w₁, w₂] ['1']
  | _ => none

theorem daysBeforeYear_le {year : ℕ} (h : 1 ≤ year) (k : ℕ) :
    daysBeforeYear year ≤ daysBeforeYear (year + k) := by
  induction k with
  | zero => exact Nat.le_refl _
  | succ k ih =>
    have hsucc := @daysBeforeYear_succ (year + k) (by omega)
    rw [← Nat.add_assoc, hsucc]
    omega

theorem daysBeforeMonth_le (year : ℕ) {month : ℕ} (h : 1 ≤ month) (k : ℕ) :
    daysBeforeMonth year month ≤ daysBeforeMonth year (month + k) := by
  induction k with
  | zero => exact Nat.le_refl _
  | succ k ih =>
    have hsucc := @daysBeforeMonth_succ year (month + k) (by omega)
    rw [← Nat.add_assoc, hsucc]
    omega

/-- The days that dates can have. -/
def InCalendar (n : ℕ) : Prop := 1 ≤ n ∧ n ≤ maxOrdinal

theorem inCalendar_ofYmd? {year month day n : ℕ} (h : ofYmd? year month day = some n) :
    InCalendar n := by
  obtain ⟨hvalid, hn⟩ := Option.ite_none_right_eq_some.mp h
  have hday := hvalid.day_pos
  have hdays := hvalid.day_le
  have hmonth := @daysBeforeMonth_le year (month + 1) (by omega) (12 - month)
  have hlast : month + 1 + (12 - month) = 13 := by
    have := hvalid.month_le
    omega
  rw [hlast, daysBeforeMonth_thirteen, daysBeforeMonth_succ year hvalid.month_pos] at hmonth
  have hyear := @daysBeforeYear_le (year + 1) (by omega) (maxYear - year)
  have hend : year + 1 + (maxYear - year) = 10000 := by
    have := hvalid.year_le
    unfold maxYear at this ⊢
    omega
  rw [hend, daysBeforeYear_succ hvalid.year_pos] at hyear
  have hmax : daysBeforeYear 10000 = maxOrdinal := rfl
  rw [Option.some.injEq] at hn
  unfold toOrdinal at hn
  unfold InCalendar
  omega

theorem isoWeek1Monday_pos {year : ℕ} (h : 1 ≤ year) : 1 ≤ isoWeek1Monday year := by
  unfold isoWeek1Monday
  rcases Nat.lt_or_ge year 2 with hone | htwo
  · have hyear : year = 1 := by omega
    subst hyear
    decide
  · have hdays : 365 ≤ daysBeforeYear year := by
      have hcentury : (year - 1) / 100 ≤ (year - 1) / 4 := by omega
      unfold daysBeforeYear
      omega
    have hfirst : 366 ≤ toOrdinal year 1 1 := by
      unfold toOrdinal
      omega
    dsimp only
    split <;> omega

theorem inCalendar_ofIsoWeek? {year week day n : ℕ} (h : ofIsoWeek? year week day = some n) :
    InCalendar n := by
  obtain ⟨hcond, hn⟩ := Option.ite_none_right_eq_some.mp h
  obtain ⟨hyear, -, -, hle⟩ := hcond
  have hmonday := isoWeek1Monday_pos hyear.1
  rw [Option.some.injEq] at hn
  rw [hn] at hle
  exact ⟨by omega, hle⟩

theorem inCalendar_ymdText? {year month day : List Char} {n : ℕ}
    (h : ymdText? year month day = some n) : InCalendar n := by
  unfold ymdText? at h
  simp only [Option.bind_eq_bind, Option.bind_eq_some_iff] at h
  obtain ⟨_, -, _, -, _, -, h⟩ := h
  exact inCalendar_ofYmd? h

theorem inCalendar_isoWeekText? {year week day : List Char} {n : ℕ}
    (h : isoWeekText? year week day = some n) : InCalendar n := by
  unfold isoWeekText? at h
  simp only [Option.bind_eq_bind, Option.bind_eq_some_iff] at h
  obtain ⟨_, -, _, -, _, -, h⟩ := h
  exact inCalendar_ofIsoWeek? h

theorem inCalendar_fromisoformat {t : List Char} {n : ℕ} (h : fromisoformat t = some n) :
    InCalendar n := by
  unfold fromisoformat at h
  split at h
  · exact inCalendar_isoWeekText? h
  · exact inCalendar_ymdText? h
  · exact inCalendar_isoWeekText? h
  · exact inCalendar_isoWeekText? h
  · exact inCalendar_ymdText? h
  · exact inCalendar_isoWeekText? h
  · cases h

example : fromisoformat "2026-W33-7".toList = fromisoformat "20260816".toList := by decide

end Gregorian
