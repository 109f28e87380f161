import SchoolPlatform.Library.Gregorian
import SchoolPlatform.Model.Subscriptions

/-!
# The ends of contracts

The end of a contract is counted in days, or in months with the day cut to the length of the month.
The days of a month lie before those of a later month, so a longer duration ends
later although different days of the start may be cut to one. A duration that is not positive is
refused, and there is no end after the year 9999.
-/

namespace SchoolPlatform.Subscriptions

open Gregorian (toOrdinal toYmd daysInMonth Valid toOrdinal_toYmd)

variable {start ends ends' value value' : ℤ} {unit : PlanDurationUnit}
  {year month day i j n : ℕ}

theorem monthLength_eq (year month : ℕ) : monthLength year month = daysInMonth year month := by
  unfold monthLength daysInMonth
  by_cases hleap : Gregorian.isLeap year = true
  · rw [if_pos ((Gregorian.isLeap_iff year).mp hleap), if_pos hleap]
  · rw [if_neg fun h => hleap ((Gregorian.isLeap_iff year).mpr h), if_neg hleap]

theorem daysBeforeYear_eq (year : ℕ) : daysBeforeYear year = Gregorian.daysBeforeYear year := rfl

theorem daysBeforeMonth_eq (year month : ℕ) :
    daysBeforeMonth year (month + 1) = Gregorian.daysBeforeMonth year (month + 1) := by
  induction month with
  | zero => rfl
  | succ month ih =>
    unfold daysBeforeMonth at ih ⊢
    rw [Nat.add_sub_cancel] at ih ⊢
    rw [List.range_succ, List.map_append, List.foldl_append, ih, List.map_singleton,
      List.foldl_cons, List.foldl_nil, monthLength_eq]
    rfl

theorem length_filter_range' {p : ℕ → Prop} [DecidablePred p] {c k : ℕ} (hc : c ≤ k)
    (hbefore : ∀ y, 1 ≤ y → y ≤ c → p y) (hafter : ∀ y, c < y → ¬ p y) :
    ((List.range' 1 k).filter fun y => p y).length = c := by
  obtain ⟨d, rfl⟩ := Nat.exists_eq_add_of_le hc
  rw [← List.range'_append_1, List.filter_append, List.filter_eq_self.mpr,
    List.filter_eq_nil_iff.mpr, List.append_nil, List.length_range']
  · intro y hy
    rw [List.mem_range'_1] at hy
    exact fun h => hafter y (by omega) (of_decide_eq_true h)
  · intro y hy
    rw [List.mem_range'_1] at hy
    exact decide_eq_true (hbefore y hy.1 (by omega))

theorem daysBeforeYear_mono {y z : ℕ} (hy : 1 ≤ y) (h : y ≤ z) :
    Gregorian.daysBeforeYear y ≤ Gregorian.daysBeforeYear z := by
  have hle := Gregorian.daysBeforeYear_le hy (z - y)
  rwa [Nat.add_sub_cancel' h] at hle

theorem daysBeforeMonth_mono (year : ℕ) {m k : ℕ} (hm : 1 ≤ m) (h : m ≤ k) :
    Gregorian.daysBeforeMonth year m ≤ Gregorian.daysBeforeMonth year k := by
  have hle := Gregorian.daysBeforeMonth_le year hm (k - m)
  rwa [Nat.add_sub_cancel' h] at hle

theorem civil_eq (hvalid : Valid year month day) :
    civil (toOrdinal year month day) = (year, month, day) := by
  obtain ⟨hyear, -, hmonth, hmonth', hday, hday'⟩ := hvalid
  have hsucc := Gregorian.daysBeforeMonth_succ year hmonth
  have hend := daysBeforeMonth_mono year (by omega : 1 ≤ month + 1)
    (by omega : month + 1 ≤ 13)
  rw [Gregorian.daysBeforeMonth_thirteen] at hend
  have hnext := Gregorian.daysBeforeYear_succ hyear
  have hordinal : toOrdinal year month day =
      Gregorian.daysBeforeYear year + Gregorian.daysBeforeMonth year month + day := rfl
  have hyears : ((List.range' 1 (toOrdinal year month day / 365 + 1)).filter fun y =>
      daysBeforeYear y < toOrdinal year month day).length = year := by
    have hdays : (year - 1) * 365 ≤ Gregorian.daysBeforeYear year := by
      unfold Gregorian.daysBeforeYear
      omega
    apply length_filter_range'
    · omega
    · intro y hy hle
      have hmono := daysBeforeYear_mono hy hle
      rw [daysBeforeYear_eq]
      omega
    · intro y hlt
      have hmono := daysBeforeYear_mono (by omega) (show year + 1 ≤ y from hlt)
      rw [daysBeforeYear_eq]
      omega
  have hbefore : ∀ m, 1 ≤ m → daysBeforeMonth year m = Gregorian.daysBeforeMonth year m := by
    intro m hm
    obtain ⟨k, rfl⟩ := Nat.exists_eq_add_of_le' hm
    exact daysBeforeMonth_eq year k
  have hinYear : toOrdinal year month day - Gregorian.daysBeforeYear year =
      Gregorian.daysBeforeMonth year month + day := by omega
  have hmonths : ((List.range' 1 12).filter fun m => daysBeforeMonth year m <
      Gregorian.daysBeforeMonth year month + day).length = month := by
    apply length_filter_range' hmonth'
    · intro m hm hle
      have hmono := daysBeforeMonth_mono year hm hle
      rw [hbefore m hm]
      omega
    · intro m hlt
      have hmono := daysBeforeMonth_mono year (by omega)
        (show month + 1 ≤ m from hlt)
      rw [hbefore m (by omega)]
      omega
  unfold civil
  rw [hyears]
  dsimp only
  rw [daysBeforeYear_eq, hinYear, hmonths, hbefore month hmonth, Nat.add_sub_cancel_left]

def ordinalIn (i day : ℕ) : ℕ := toOrdinal (i / 12) (i % 12 + 1) day

theorem ordinalIn_succ (h : 12 ≤ i) (day : ℕ) :
    ordinalIn (i + 1) day = ordinalIn i day + daysInMonth (i / 12) (i % 12 + 1) := by
  unfold ordinalIn toOrdinal
  by_cases hlast : i % 12 = 11
  · have hnext : (i + 1) / 12 = i / 12 + 1 ∧ (i + 1) % 12 = 0 := by omega
    have hyear := Gregorian.daysBeforeYear_succ (by omega : 1 ≤ i / 12)
    have hmonth := Gregorian.daysBeforeMonth_succ (i / 12) (by decide : 1 ≤ 11 + 1)
    rw [show 11 + 1 + 1 = 13 from rfl, Gregorian.daysBeforeMonth_thirteen] at hmonth
    have hfirst : Gregorian.daysBeforeMonth (i / 12 + 1) 1 = 0 := rfl
    rw [hnext.1, hnext.2, hlast, hyear, hmonth, Nat.zero_add, hfirst]
    omega
  · have hnext : (i + 1) / 12 = i / 12 ∧ (i + 1) % 12 = i % 12 + 1 := by omega
    rw [hnext.1, hnext.2, Gregorian.daysBeforeMonth_succ _ (by omega)]
    omega

theorem ordinalIn_lt {d d' : ℕ} (hi : 12 ≤ i) (hij : i < j)
    (hd : d ≤ daysInMonth (i / 12) (i % 12 + 1)) (hd' : 1 ≤ d') :
    ordinalIn i d < ordinalIn j d' := by
  have hday : ∀ k e, ordinalIn k e = ordinalIn k 0 + e := fun k e => rfl
  have hmono : ∀ k, ordinalIn (i + 1) 0 ≤ ordinalIn (i + 1 + k) 0 := by
    intro k
    induction k with
    | zero => exact Nat.le_refl _
    | succ k ih =>
      rw [← Nat.add_assoc, ordinalIn_succ (i := i + 1 + k) (by omega)]
      omega
  have hle := hmono (j - (i + 1))
  rw [Nat.add_sub_cancel' hij, ordinalIn_succ hi] at hle
  rw [hday i d, hday j d']
  omega

theorem one_le_min (hday : 1 ≤ day) (year month : ℕ) : 1 ≤ min day (monthLength year month) := by
  have hlen : 28 ≤ monthLength year month := by
    unfold monthLength
    split_ifs <;> omega
  omega

theorem min_le_days (day year month : ℕ) :
    min day (monthLength year month) ≤ daysInMonth year month := by
  rw [← monthLength_eq]
  exact Nat.min_le_right _ _

def clampedOrdinal (i day : ℕ) : ℕ := ordinalIn i (min day (monthLength (i / 12) (i % 12 + 1)))

theorem clampedOrdinal_lt (hi : 12 ≤ i) (hij : i < j) (hday : 1 ≤ day) :
    clampedOrdinal i day < clampedOrdinal j day :=
  ordinalIn_lt hi hij (min_le_days day _ _) (one_le_min hday _ _)

theorem clampedOrdinal_of_valid (h : Valid year month day) :
    clampedOrdinal (year * 12 + (month - 1)) day = toOrdinal year month day := by
  obtain ⟨-, -, hmonth, hmonth', -, hlen⟩ := h
  have hindex : (year * 12 + (month - 1)) / 12 = year ∧
      (year * 12 + (month - 1)) % 12 + 1 = month := by omega
  unfold clampedOrdinal ordinalIn
  rw [hindex.1, hindex.2, monthLength_eq, Nat.min_eq_left hlen]

def civilOf (t : ℤ) : ℕ × ℕ × ℕ := civil (t / (86400 * 1000000) + epoch).toNat

/-- The instant lies in the years that dates have. -/
def InYears (t : ℤ) : Prop :=
  1 ≤ t / (86400 * 1000000) + epoch ∧ t / (86400 * 1000000) + epoch ≤ lastDay

instance instDecidableInYears (t : ℤ) : Decidable (InYears t) :=
  inferInstanceAs (Decidable (_ ∧ _))

def addedMonths (value : ℤ) (unit : PlanDurationUnit) : ℕ :=
  (if unit = .months then value else value * 12).toNat

/-- The end lies in the years that dates have. -/
def EndsInYears (start : ℤ) (value : ℤ) : PlanDurationUnit → Prop
  | .days => (start + timedelta value) / (86400 * 1000000) + epoch ≤ lastDay
  | unit => (civilOf start).1 * 12 + ((civilOf start).2.1 - 1) + addedMonths value unit < 120000

theorem valid_of_day (h : 1 ≤ n) (hlast : n ≤ lastDay) :
    Valid (toYmd n).1 (toYmd n).2.1 (toYmd n).2.2 := by
  obtain ⟨hday, hyear, hmonth, hmonth', hlen⟩ := toOrdinal_toYmd h
  refine ⟨hyear, ?_, hmonth, hmonth', Nat.le_add_left 1 _, hlen⟩
  by_contra hlate
  have hbefore := daysBeforeYear_mono (y := 10000) (by decide) (not_le.mp hlate)
  have hmax : Gregorian.daysBeforeYear 10000 = lastDay := rfl
  have hpos : 1 ≤ (toYmd n).2.2 := Nat.le_add_left 1 _
  unfold toOrdinal at hday
  omega

theorem exists_civilOf (h : InYears start) :
    ∃ year month day, Valid year month day ∧ civilOf start = (year, month, day) ∧
      (toOrdinal year month day : ℤ) = start / (86400 * 1000000) + epoch := by
  obtain ⟨hlo, hhi⟩ := h
  have hn : 1 ≤ (start / (86400 * 1000000) + epoch).toNat := by omega
  have hvalid := valid_of_day hn (by omega)
  have hday := (toOrdinal_toYmd hn).1
  refine ⟨_, _, _, hvalid, ?_, by omega⟩
  unfold civilOf
  rw [← hday, civil_eq hvalid, hday]

theorem replaceDate_day (start : ℤ) (year day : ℕ) (hmonth : 1 ≤ month) :
    replaceDate start year month day / (86400 * 1000000) + epoch = toOrdinal year month day ∧
      replaceDate start year month day % (86400 * 1000000) = start % (86400 * 1000000) := by
  obtain ⟨m, rfl⟩ := Nat.exists_eq_add_of_le' hmonth
  unfold replaceDate toOrdinal
  rw [daysBeforeYear_eq, daysBeforeMonth_eq]
  unfold Instant
  omega

theorem addDuration_nonpos (h : value ≤ 0) (unit : PlanDurationUnit) :
    addDuration start value unit = .error (apiError "INVALID_SUBSCRIPTION_DATE_RANGE"
      "مدة الباقة يجب أن تكون أكبر من صفر.") := by
  unfold addDuration
  rw [if_pos h]

theorem pos_of_addDuration (h : addDuration start value unit = .ok ends) : 0 < value := by
  by_contra hnot
  rw [addDuration_nonpos (not_lt.mp hnot)] at h
  cases h

theorem addDuration_days (hpos : 0 < value) :
    addDuration start value .days =
      if lastDay < (start + timedelta value) / (86400 * 1000000) + epoch then
        .error (.dataError "day")
      else .ok (start + timedelta value) := by
  unfold addDuration
  rw [if_neg (not_le.mpr hpos)]

theorem addDuration_months (hpos : 0 < value) (hunit : unit ≠ .days)
    (hcivil : civilOf start = (year, month, day))
    (hi : i = year * 12 + (month - 1) + addedMonths value unit) :
    addDuration start value unit =
      if 9999 < i / 12 then .error (.dataError "year")
      else .ok (replaceDate start (i / 12) (i % 12 + 1)
        (min day (monthLength (i / 12) (i % 12 + 1)))) := by
  unfold civilOf at hcivil
  unfold addedMonths at hi
  unfold addDuration
  rw [if_neg (not_le.mpr hpos)]
  cases unit with
  | days => exact absurd rfl hunit
  | months =>
    dsimp only
    rw [hcivil, hi]
  | years =>
    dsimp only
    rw [hcivil, hi]

theorem addDuration_months_spec (hunit : unit ≠ .days) (hvalid : Valid year month day)
    (hcivil : civilOf start = (year, month, day))
    (hi : i = year * 12 + (month - 1) + addedMonths value unit)
    (h : addDuration start value unit = .ok ends) :
    civilOf ends = (i / 12, i % 12 + 1, min day (monthLength (i / 12) (i % 12 + 1))) ∧
      ends / (86400 * 1000000) + epoch = (clampedOrdinal i day : ℤ) ∧
      ends % (86400 * 1000000) = start % (86400 * 1000000) := by
  rw [addDuration_months (pos_of_addDuration h) hunit hcivil hi] at h
  split at h
  · cases h
  · rename_i hyear
    cases h
    obtain ⟨hday, htime⟩ := replaceDate_day start (i / 12)
      (min day (monthLength (i / 12) (i % 12 + 1))) (by omega : 1 ≤ i % 12 + 1)
    have htarget : Valid (i / 12) (i % 12 + 1) (min day (monthLength (i / 12) (i % 12 + 1))) := by
      have hpos := hvalid.year_pos
      exact ⟨by omega, not_lt.mp hyear, by omega, by omega, one_le_min hvalid.day_pos _ _,
        min_le_days _ _ _⟩
    refine ⟨?_, hday, htime⟩
    unfold civilOf
    rw [hday, Int.toNat_natCast, civil_eq htarget]

theorem addedMonths_lt (hpos : 0 < value) (h : value < value') (unit : PlanDurationUnit) :
    addedMonths value unit < addedMonths value' unit := by
  unfold addedMonths
  split <;> omega

theorem lt_addDuration (hstart : InYears start) (h : addDuration start value unit = .ok ends) :
    start < ends := by
  have hpos := pos_of_addDuration h
  by_cases hunit : unit = .days
  · rw [hunit, addDuration_days hpos] at h
    split at h
    · cases h
    · cases h
      unfold timedelta
      omega
  · obtain ⟨year, month, day, hvalid, hcivil, hday⟩ := exists_civilOf hstart
    obtain ⟨-, hends, -⟩ := addDuration_months_spec hunit hvalid hcivil rfl h
    have hadded : 0 < addedMonths value unit := by
      unfold addedMonths
      split <;> omega
    have hyear := hvalid.year_pos
    have hlt := clampedOrdinal_lt (by omega) (Nat.lt_add_of_pos_right hadded) hvalid.day_pos
      (i := year * 12 + (month - 1))
    rw [clampedOrdinal_of_valid hvalid] at hlt
    omega

theorem addDuration_lt (hstart : InYears start) (hlt : value < value')
    (h : addDuration start value unit = .ok ends) (h' : addDuration start value' unit = .ok ends') :
    ends < ends' := by
  have hpos := pos_of_addDuration h
  by_cases hunit : unit = .days
  · rw [hunit, addDuration_days hpos] at h
    rw [hunit, addDuration_days (hpos.trans hlt)] at h'
    split at h
    · cases h
    · split at h'
      · cases h'
      · cases h
        cases h'
        unfold timedelta
        omega
  · obtain ⟨year, month, day, hvalid, hcivil, -⟩ := exists_civilOf hstart
    obtain ⟨-, hends, -⟩ := addDuration_months_spec hunit hvalid hcivil rfl h
    obtain ⟨-, hends', -⟩ := addDuration_months_spec hunit hvalid hcivil rfl h'
    have hyear := hvalid.year_pos
    have hadded := addedMonths_lt hpos hlt unit
    have hord := clampedOrdinal_lt (by omega) (by omega) hvalid.day_pos
      (i := year * 12 + (month - 1) + addedMonths value unit)
      (j := year * 12 + (month - 1) + addedMonths value' unit)
    omega

/-- The serializer of a plan wants a positive value of any unit, that of an activation any number of
months. -/
def AdmittedDuration (value : ℤ) (unit : PlanDurationUnit) : Prop := 1 ≤ value ∨ unit = .months

/-- An activation for no month at all is refused. -/
theorem addDuration_not_total :
    ¬ ∀ start, InYears start → ∀ value unit, AdmittedDuration value unit →
      ∃ ends, addDuration start value unit = .ok ends := by
  intro h
  obtain ⟨ends, hends⟩ := h 0 (by decide) 0 .months (.inr rfl)
  exact absurd (pos_of_addDuration hends) (by decide)

/-- **The arithmetic of durations.** A value that is not positive is refused; any other leads to an
end that lies in the calendar when it can. The end is after the start, a greater value of the same
unit leads to a later end, twelve months are a year, and months keep the day, or take the last day
of a month that is too short for it. -/
theorem addDuration_calendar (start : Instant) (hstart : InYears start) :
    (∀ value unit, value ≤ 0 → addDuration start value unit =
      .error (apiError "INVALID_SUBSCRIPTION_DATE_RANGE" "مدة الباقة يجب أن تكون أكبر من صفر.")) ∧
    (∀ value unit, 0 < value → EndsInYears start value unit →
      ∃ ends, addDuration start value unit = .ok ends) ∧
    (∀ value unit ends, addDuration start value unit = .ok ends → start < ends) ∧
    (∀ value value' unit ends ends', value < value' → addDuration start value unit = .ok ends →
      addDuration start value' unit = .ok ends' → ends < ends') ∧
    (∀ k, addDuration start (12 * k) .months = addDuration start k .years) ∧
    ∀ value unit ends, unit ≠ .days → addDuration start value unit = .ok ends →
      (civilOf ends).1 * 12 + (civilOf ends).2.1 =
          (civilOf start).1 * 12 + (civilOf start).2.1 + addedMonths value unit ∧
        (civilOf ends).2.2 =
          min (civilOf start).2.2 (monthLength (civilOf ends).1 (civilOf ends).2.1) := by
  refine ⟨fun value unit h => addDuration_nonpos h unit, fun value unit hpos hends => ?_,
    fun value unit ends h => lt_addDuration hstart h,
    fun value value' unit ends ends' hlt h h' => addDuration_lt hstart hlt h h', fun k => ?_,
    fun value unit ends hunit h => ?_⟩
  · by_cases hunit : unit = .days
    · subst hunit
      rw [addDuration_days hpos, if_neg (not_lt.mpr hends)]
      exact ⟨_, rfl⟩
    · obtain ⟨year, month, day, -, hcivil, -⟩ := exists_civilOf hstart
      have hyears : year * 12 + (month - 1) + addedMonths value unit < 120000 := by
        cases unit with
        | days => exact absurd rfl hunit
        | months => simpa [EndsInYears, hcivil] using hends
        | years => simpa [EndsInYears, hcivil] using hends
      rw [addDuration_months hpos hunit hcivil rfl, if_neg (by omega)]
      exact ⟨_, rfl⟩
  · by_cases hpos : 0 < k
    · obtain ⟨year, month, day, -, hcivil, -⟩ := exists_civilOf hstart
      have hmonths : addedMonths k .years = addedMonths (12 * k) .months := by
        unfold addedMonths
        rw [if_pos rfl, if_neg (by decide), Int.mul_comm]
      rw [addDuration_months (by omega) (by decide) hcivil rfl,
        addDuration_months hpos (by decide) hcivil rfl, hmonths]
    · rw [addDuration_nonpos (by omega), addDuration_nonpos (by omega)]
  · obtain ⟨year, month, day, hvalid, hcivil, -⟩ := exists_civilOf hstart
    obtain ⟨hends, -⟩ := addDuration_months_spec hunit hvalid hcivil rfl h
    have hmonth := hvalid.month_pos
    rw [hends, hcivil]
    dsimp only
    exact ⟨by omega, rfl⟩

/-- A month from the last of January 2028, and the twelve months of a year. -/
theorem addDuration_calendar_january :
    civilOf 1832889600000000 = (2028, 1, 31) ∧
      addDuration 1832889600000000 (12 * 1) .months = addDuration 1832889600000000 1 .years :=
  ⟨by decide +kernel, (addDuration_calendar 1832889600000000 (by decide)).2.2.2.2.1 1⟩

end SchoolPlatform.Subscriptions
