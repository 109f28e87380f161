import SchoolPlatform.Library.Gregorian
import SchoolPlatform.Model.AcademicCalendar
import SchoolPlatform.Model.Dashboard

/-!
# The range of a dashboard

A dashboard shows a range of days, and compares it with the range before it. The range is a preset,
measured from today or taken from the active semester or year, or two dates of the client. Dates
that cannot be represented make the shifting of a date fail.
-/

namespace SchoolPlatform

open Gregorian Academics

/-- An error of the platform, or a date before the first day of the calendar or after its last. -/
inductive RangeFailure
  | api (e : ApiError)
  | overflow
  deriving DecidableEq

def maxRangeDays : ℕ := 760

inductive RangePreset
  | today | last7Days | last30Days | thisWeek | thisMonth | currentSemester | custom
  deriving DecidableEq

structure PresetRange extends DateRange where
  preset : RangePreset
  deriving DecidableEq

/-- `d - timedelta(days=days)`. -/
def daysBefore (d : Date) (days : ℤ) : Except RangeFailure Date :=
  if 1 ≤ (d : ℤ) - days ∧ (d : ℤ) - days ≤ maxOrdinal then .ok ((d : ℤ) - days).toNat
  else .error .overflow

def DateRange.days (range : DateRange) : ℤ := (range.toDate : ℤ) - range.fromDate + 1

def PresetRange.previous (range : PresetRange) : Except RangeFailure PresetRange := do
  let length := range.days
  let end_ ← daysBefore range.fromDate 1
  let start ← daysBefore end_ (length - 1)
  pure { fromDate := start, toDate := end_, preset := range.preset }

structure RangeParams where
  preset : Option Text := none
  fromDate : Option Text := none
  toDate : Option Text := none
  deriving DecidableEq

def presetNames : Dict Text RangePreset :=
  [("TODAY".toList, .today), ("LAST_7_DAYS".toList, .last7Days),
    ("LAST_30_DAYS".toList, .last30Days), ("THIS_WEEK".toList, .thisWeek),
    ("THIS_MONTH".toList, .thisMonth), ("CURRENT_SEMESTER".toList, .currentSemester),
    ("CUSTOM".toList, .custom)]

def invalidRange (message : String) (field : String) : RangeFailure :=
  .api
    { code := "DASHBOARD_INVALID_DATE_RANGE"
      message := message
      details := [("field", .text field)] }

def rangeTooLarge : RangeFailure :=
  .api
    { code := "DASHBOARD_RANGE_TOO_LARGE"
      message := "النطاق يتجاوز الحد المسموح (760 يومًا)."
      details := [("max_days", .number maxRangeDays)] }

def given (value : Option Text) : Bool := value.any fun t => t ≠ []

/-- The preset that the parameters name: dates without a preset are a range of their own, and
nothing at all is today. `upper` is `str.upper`. -/
def RangeParams.presetOf (upper : Text → Text) (params : RangeParams) : Option RangePreset :=
  let preset := upper (params.preset.getD [])
  if preset = [] then
    if given params.fromDate || given params.toDate then some .custom else some .today
  else Dict.get? presetNames preset

def parseDate (value : Option Text) (field : String) : Except RangeFailure Date :=
  match value.bind fromisoformat with
  | none => .error (invalidRange "صيغة التاريخ غير صحيحة (YYYY-MM-DD)." field)
  | some d => .ok d

/-- `_week_start`: the Sunday on or before the day. -/
def weekStartOf (d : Date) : Except RangeFailure Date := daysBefore d (d % 7 : ℕ)

def activeSemester (s : Calendars) (school : ℕ) : Option Academics.Semester :=
  (s.semesters.map Prod.snd).find? fun x => x.school = school ∧ x.status = .active

def activeYear (s : Calendars) (school : ℕ) : Option Academics.AcademicYear :=
  (s.years.map Prod.snd).find? fun y => y.school = school ∧ y.status = .active

def semesterRange (s : Calendars) (school : ℕ) (today : Date) : Except RangeFailure PresetRange :=
  match activeSemester s school with
  | some semester => .ok
      { fromDate := semester.startDate
        toDate := min semester.endDate today
        preset := .currentSemester }
  | none =>
    match activeYear s school with
    | some year => .ok
        { fromDate := year.startDate
          toDate := min year.endDate today
          preset := .currentSemester }
    | none => do
      let start ← daysBefore today 29
      pure { fromDate := start, toDate := today, preset := .currentSemester }

def boundedRange (fromDate toDate : Date) : Except RangeFailure PresetRange :=
  if toDate < fromDate then
    .error (invalidRange "تاريخ البداية بعد تاريخ النهاية." "from_date")
  else if maxRangeDays < toDate - fromDate + 1 then .error rangeTooLarge
  else .ok { fromDate := fromDate, toDate := toDate, preset := .custom }

def customRange (params : RangeParams) : Except RangeFailure PresetRange := do
  let fromDate ← parseDate params.fromDate "from_date"
  let toDate ← parseDate params.toDate "to_date"
  boundedRange fromDate toDate

/-- `resolve_range`, on the local date of the school. -/
def resolveRange (upper : Text → Text) (s : Calendars) (school : ℕ) (today : Date)
    (params : RangeParams) : Except RangeFailure PresetRange :=
  match params.presetOf upper with
  | none => .error (invalidRange "الفترة المحددة غير معروفة." "preset")
  | some .today => .ok { fromDate := today, toDate := today, preset := .today }
  | some .last7Days => do
    let start ← daysBefore today 6
    pure { fromDate := start, toDate := today, preset := .last7Days }
  | some .last30Days => do
    let start ← daysBefore today 29
    pure { fromDate := start, toDate := today, preset := .last30Days }
  | some .thisWeek => do
    let start ← weekStartOf today
    pure { fromDate := start, toDate := today, preset := .thisWeek }
  | some .thisMonth =>
    .ok { fromDate := monthStart today, toDate := today, preset := .thisMonth }
  | some .currentSemester => semesterRange s school today
  | some .custom => customRange params

end SchoolPlatform
