import SchoolPlatform.Library.Gregorian
import SchoolPlatform.Model.Ingest

/-!
# The keys of scans as texts

The key of an event in full: the texts that `_dedupe_key` puts together, with the time written as
`str` writes a date and time, and the cut to the width of the column. The digest is a parameter.
-/

namespace SchoolPlatform

open Gregorian

/-- `%0wd`: the last `w` decimal digits. -/
def fixedDigits : ℕ → ℕ → Text
  | 0, _ => []
  | w + 1, n => fixedDigits w (n / 10) ++ [Nat.digitChar (n % 10)]

/-- The zone of the server; the standard library keeps the offset from UTC under a day. -/
structure ServerZone where
  utcoffset : Instant → ℤ
  lt_day : ∀ t, -microsPerDay < utcoffset t ∧ utcoffset t < microsPerDay

/-- The wall clock of the zone, in microseconds since the first of January 1970. -/
def ServerZone.wall (zone : ServerZone) (t : Instant) : ℤ := t + zone.utcoffset t

def ServerZone.day (zone : ServerZone) (t : Instant) : ℤ := zone.wall t / microsPerDay + 719163

def ServerZone.time (zone : ServerZone) (t : Instant) : ℕ := (zone.wall t % microsPerDay).toNat

def ServerZone.Represents (zone : ServerZone) (t : Instant) : Prop :=
  1 ≤ zone.day t ∧ zone.day t ≤ maxOrdinal

def fractionStr (micros : ℕ) : Text := if micros = 0 then [] else '.' :: fixedDigits 6 micros

def offsetStr (offset : ℤ) : Text :=
  let size := offset.natAbs
  (if offset < 0 then '-' else '+') :: (fixedDigits 2 (size / 3600000000) ++
    ':' :: (fixedDigits 2 (size / 60000000 % 60) ++
      if size % 60000000 = 0 then []
      else ':' :: (fixedDigits 2 (size / 1000000 % 60) ++ fractionStr (size % 1000000))))

/-- `str` of a date and time in the zone. -/
def ServerZone.str (zone : ServerZone) (t : Instant) : Text :=
  let (year, month, day) := toYmd (zone.day t).toNat
  let time := zone.time t
  fixedDigits 4 year ++ '-' :: (fixedDigits 2 month ++ '-' :: (fixedDigits 2 day ++
    ' ' :: (fixedDigits 2 (time / 3600000000) ++ ':' :: (fixedDigits 2 (time / 60000000 % 60) ++
      ':' :: (fixedDigits 2 (time / 1000000 % 60) ++
        (fractionStr (time % 1000000) ++ offsetStr (zone.utcoffset t)))))))

def fingerprintText (zone : ServerZone) (event : EventData) : Text :=
  List.intercalate ['|'] [event.externalUserId, zone.str event.occurredAt, event.eventType]

def dedupeKeyText (sha256 : Text → Text) (zone : ServerZone) (event : EventData) : Text :=
  let externalId := Text.strip event.externalEventId
  if externalId ≠ [] then "ext:".toList ++ externalId
  else "fp:".toList ++ sha256 (fingerprintText zone event)

/-- `_dedupe_key(event)[:128]`, the key of the row. -/
def storedKey (sha256 : Text → Text) (zone : ServerZone) (event : EventData) : Text :=
  (dedupeKeyText sha256 zone event).take 128

end SchoolPlatform
