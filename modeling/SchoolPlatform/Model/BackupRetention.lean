import Mathlib.Data.Finset.Card
import SchoolPlatform.Library.Gregorian
import SchoolPlatform.Library.KeySort
import SchoolPlatform.Model.Records

/-!
# The retention of backups

Of the backups that there are the newest of each of the last days, weeks and months are kept. A loop
goes through them from the newest on and keeps the first of each slot, until there are as many slots
as the limit.
-/

namespace SchoolPlatform.BackupRetention

open Gregorian

/-- What the selection reads of a run. -/
structure BackupRun where
  id : ℕ
  startedAt : Instant
  deriving DecidableEq

/-- `value.date()`, as an ordinal; instants are counted from the first of January 1970. -/
def utcDate (value : Instant) : Date := (value / (86400 * 1000000) + 719163).toNat

/-- `isocalendar()[:2]`: the year and the number of the week. -/
def isoYearWeek (today : Date) : ℕ × ℤ :=
  let year := (toYmd today).1
  let week := ((today : ℤ) - isoWeek1Monday year) / 7
  if week < 0 then (year - 1, ((today : ℤ) - isoWeek1Monday (year - 1)) / 7 + 1)
  else if 52 ≤ week ∧ isoWeek1Monday (year + 1) ≤ today then (year + 1, 1)
  else (year, week + 1)

example : isoYearWeek (toOrdinal 2021 1 3) = (2020, 53) ∧
    isoYearWeek (toOrdinal 2024 12 30) = (2025, 1) := by decide

def weekOf (value : Instant) : ℕ × ℤ := isoYearWeek (utcDate value)

/-- `(value.year, value.month)`. -/
def monthOf (value : Instant) : ℕ × ℕ := ((toYmd (utcDate value)).1, (toYmd (utcDate value)).2.1)

/-- `sorted(runs, key=…, reverse=True)`: runs of one instant stay in their own order. -/
def newestFirst (runs : List BackupRun) : List BackupRun :=
  runs.insertionSort fun a b => b.startedAt ≤ a.startedAt

/-- `retain_distinct`, from some run on, with the slots that have been seen. -/
def retainDistinct {κ : Type} [DecidableEq κ] (key : Instant → κ) (limit : ℤ) :
    List BackupRun → Finset κ → Finset ℕ → Finset ℕ
  | [], _, keep => keep
  | run :: ordered, buckets, keep =>
    if key run.startedAt ∈ buckets then retainDistinct key limit ordered buckets keep
    else if limit ≤ buckets.card then keep
    else
      retainDistinct key limit ordered (insert (key run.startedAt) buckets) (insert run.id keep)

def retainedBackupIds (daily weekly monthly : ℤ) (runs : List BackupRun) : Finset ℕ :=
  let ordered := newestFirst runs
  let keep := retainDistinct utcDate daily ordered ∅ ∅
  let keep := retainDistinct weekOf weekly ordered ∅ keep
  let keep := retainDistinct monthOf monthly ordered ∅ keep
  match ordered with
  | [] => keep
  | newest :: _ => insert newest.id keep

def prune (daily weekly monthly : ℤ) (runs : List BackupRun) : List BackupRun :=
  runs.filter fun run => run.id ∈ retainedBackupIds daily weekly monthly runs

def pruneEach (daily weekly monthly : ℤ) (history : List BackupRun) : List BackupRun :=
  history.foldl (fun kept run => prune daily weekly monthly (kept ++ [run])) []

end SchoolPlatform.BackupRetention
