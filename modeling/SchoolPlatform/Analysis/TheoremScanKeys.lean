import SchoolPlatform.Analysis.TheoremCrashes
import SchoolPlatform.Model.ScanKeys

/-!
# Keys of scans are injective

The text of a date and time tells its instant, has no bar and is longer than an event type can be
(`ServerZone.str_inj`), so the hashed text tells its fields. An identifier is too short for the cut
to reach it, and a key with an identifier begins otherwise than one with a digest. So two admitted
events have one key only when they are the same scan.
-/

namespace SchoolPlatform

open Gregorian

/-- The number has at most `w` decimal digits. -/
def FitsDigits : ℕ → ℕ → Prop
  | 0, n => n = 0
  | w + 1, n => FitsDigits w (n / 10)

@[simp] theorem length_fixedDigits (w n : ℕ) : (fixedDigits w n).length = w := by
  induction w generalizing n with
  | zero => rfl
  | succ w ih =>
    unfold fixedDigits
    rw [List.length_append, ih, List.length_singleton]

theorem digitChar_inj {a b : ℕ} (ha : a < 10) (hb : b < 10)
    (h : Nat.digitChar a = Nat.digitChar b) : a = b := by
  have hall : ∀ a < 10, ∀ b < 10, Nat.digitChar a = Nat.digitChar b → a = b := by decide
  exact hall a ha b hb h

theorem fixedDigits_inj {w m n : ℕ} (hm : FitsDigits w m) (hn : FitsDigits w n)
    (h : fixedDigits w m = fixedDigits w n) : m = n := by
  induction w generalizing m n with
  | zero => exact Eq.trans hm (Eq.symm hn)
  | succ w ih =>
    obtain ⟨hfront, hlast⟩ := List.append_inj h (by rw [length_fixedDigits, length_fixedDigits])
    have hdiv := ih hm hn hfront
    have hmod := digitChar_inj (Nat.mod_lt _ (by decide)) (Nat.mod_lt _ (by decide))
      (List.singleton_inj.mp hlast)
    omega

theorem isDigit_of_mem_fixedDigits {w n : ℕ} {c : Char} (h : c ∈ fixedDigits w n) :
    c.isDigit = true := by
  have hdigit : ∀ d < 10, (Nat.digitChar d).isDigit = true := by decide
  induction w generalizing n with
  | zero => exact absurd h List.not_mem_nil
  | succ w ih =>
    rcases List.mem_append.mp h with hfront | hlast
    · exact ih hfront
    · rw [List.mem_singleton.mp hlast]
      exact hdigit _ (Nat.mod_lt _ (by decide))

theorem fixedDigits_append_inj {w m n : ℕ} {x y : Text} (hm : FitsDigits w m)
    (hn : FitsDigits w n) (h : fixedDigits w m ++ x = fixedDigits w n ++ y) : m = n ∧ x = y := by
  obtain ⟨hdigits, hrest⟩ :=
    List.append_inj h (by rw [length_fixedDigits, length_fixedDigits])
  exact ⟨fixedDigits_inj hm hn hdigits, hrest⟩

theorem fractionStr_append_inj {m n : ℕ} {x y : Text} (hm : m < 1000000) (hn : n < 1000000)
    (hx : x.head? ≠ some '.') (hy : y.head? ≠ some '.')
    (h : fractionStr m ++ x = fractionStr n ++ y) : m = n ∧ x = y := by
  unfold fractionStr at h
  by_cases hm0 : m = 0
  · by_cases hn0 : n = 0
    · rw [if_pos hm0, if_pos hn0] at h
      exact ⟨hm0.trans hn0.symm, h⟩
    · rw [if_pos hm0, if_neg hn0] at h
      rw [List.nil_append] at h
      rw [h] at hx
      exact absurd rfl hx
  · by_cases hn0 : n = 0
    · rw [if_neg hm0, if_pos hn0] at h
      rw [List.nil_append] at h
      rw [← h] at hy
      exact absurd rfl hy
    · rw [if_neg hm0, if_neg hn0] at h
      refine fixedDigits_append_inj ?_ ?_ (List.cons.inj h).2
      · simp only [FitsDigits]
        omega
      · simp only [FitsDigits]
        omega

theorem offsetStr_inj {a b : ℤ} (ha : -microsPerDay < a ∧ a < microsPerDay)
    (hb : -microsPerDay < b ∧ b < microsPerDay) (h : offsetStr a = offsetStr b) : a = b := by
  unfold microsPerDay at ha hb
  unfold offsetStr at h
  obtain ⟨hsign, hrest⟩ := List.cons.inj h
  have hneg : a < 0 ↔ b < 0 := by
    by_cases ha0 : a < 0 <;> by_cases hb0 : b < 0 <;> simp [ha0, hb0] at hsign ⊢
  have hsize : ∀ n : ℕ, n < 86400000000 → FitsDigits 2 (n / 3600000000) ∧
      FitsDigits 2 (n / 60000000 % 60) ∧ FitsDigits 2 (n / 1000000 % 60) := by
    intro n hn
    simp only [FitsDigits]
    omega
  have hsa := hsize a.natAbs (by omega)
  have hsb := hsize b.natAbs (by omega)
  obtain ⟨hhour, hrest⟩ := fixedDigits_append_inj hsa.1 hsb.1 hrest
  obtain ⟨hminute, hrest⟩ := fixedDigits_append_inj hsa.2.1 hsb.2.1 (List.cons.inj hrest).2
  have hseconds : a.natAbs % 60000000 = b.natAbs % 60000000 := by
    by_cases ha0 : a.natAbs % 60000000 = 0
    · by_cases hb0 : b.natAbs % 60000000 = 0
      · rw [ha0, hb0]
      · rw [if_pos ha0, if_neg hb0] at hrest
        cases hrest
    · by_cases hb0 : b.natAbs % 60000000 = 0
      · rw [if_neg ha0, if_pos hb0] at hrest
        cases hrest
      · rw [if_neg ha0, if_neg hb0] at hrest
        obtain ⟨hsecond, hrest⟩ := fixedDigits_append_inj hsa.2.2 hsb.2.2 (List.cons.inj hrest).2
        have hmicro := (fractionStr_append_inj (x := []) (y := []) (Nat.mod_lt _ (by decide))
          (Nat.mod_lt _ (by decide)) (by simp) (by simp) (by simpa using hrest)).1
        omega
  have habs : a.natAbs = b.natAbs := by omega
  omega

section Zone

variable {zone : ServerZone} {t u : Instant}

theorem ServerZone.time_lt (zone : ServerZone) (t : Instant) : zone.time t < 86400000000 := by
  unfold ServerZone.time microsPerDay
  omega

theorem year_le_of_day {n : ℕ} (hpos : 1 ≤ n) (hle : n ≤ maxOrdinal) :
    (toYmd n).1 ≤ maxYear ∧ (toYmd n).2.1 ≤ 12 ∧ (toYmd n).2.2 ≤ 31 := by
  obtain ⟨hday, hyear, hmonth, hmonth', hlast⟩ := toOrdinal_toYmd hpos
  refine ⟨?_, hmonth', hlast.trans (daysInMonth_le _ _)⟩
  by_contra hlate
  rw [not_le] at hlate
  have hbefore := daysBeforeYear_le (by decide : 1 ≤ maxYear + 1) ((toYmd n).1 - (maxYear + 1))
  rw [Nat.add_sub_cancel' hlate] at hbefore
  have hmax : daysBeforeYear (maxYear + 1) = maxOrdinal := rfl
  have hpos' : 1 ≤ (toYmd n).2.2 := Nat.le_add_left 1 _
  unfold toOrdinal at hday
  omega

theorem eq_of_clock {a b : ℕ} (hhour : a / 3600000000 = b / 3600000000)
    (hminute : a / 60000000 % 60 = b / 60000000 % 60)
    (hsecond : a / 1000000 % 60 = b / 1000000 % 60) (hmicro : a % 1000000 = b % 1000000) :
    a = b := by
  have hminutes : ∀ n : ℕ, n / 60000000 = n / 1000000 / 60 := fun n => by
    rw [Nat.div_div_eq_div_mul]
  have hhours : ∀ n : ℕ, n / 3600000000 = n / 1000000 / 60 / 60 := fun n => by
    rw [Nat.div_div_eq_div_mul, Nat.div_div_eq_div_mul]
  rw [hhours, hhours] at hhour
  rw [hminutes, hminutes] at hminute
  have hseconds : a / 1000000 = b / 1000000 := by omega
  rw [← Nat.div_add_mod a 1000000, ← Nat.div_add_mod b 1000000, hseconds, hmicro]

theorem ServerZone.str_inj (ht : zone.Represents t) (hu : zone.Represents u)
    (h : zone.str t = zone.str u) : t = u := by
  have hdays : ∀ t, zone.Represents t → 1 ≤ (zone.day t).toNat ∧
      (zone.day t).toNat ≤ maxOrdinal ∧ ((zone.day t).toNat : ℤ) = zone.day t := by
    intro t ht
    obtain ⟨hlo, hhi⟩ := ht
    omega
  have hfits : ∀ t, zone.Represents t → FitsDigits 4 (toYmd (zone.day t).toNat).1 ∧
      FitsDigits 2 (toYmd (zone.day t).toNat).2.1 ∧
      FitsDigits 2 (toYmd (zone.day t).toNat).2.2 := by
    intro t ht
    obtain ⟨hyear, hmonth, hday⟩ := year_le_of_day (hdays t ht).1 (hdays t ht).2.1
    unfold maxYear at hyear
    simp only [FitsDigits]
    omega
  have htimes : ∀ t, FitsDigits 2 (zone.time t / 3600000000) ∧
      FitsDigits 2 (zone.time t / 60000000 % 60) ∧ FitsDigits 2 (zone.time t / 1000000 % 60) := by
    intro t
    have hlt := zone.time_lt t
    simp only [FitsDigits]
    omega
  unfold ServerZone.str at h
  obtain ⟨hyear, h⟩ := fixedDigits_append_inj (hfits t ht).1 (hfits u hu).1 h
  obtain ⟨hmonth, h⟩ := fixedDigits_append_inj (hfits t ht).2.1 (hfits u hu).2.1 (List.cons.inj h).2
  obtain ⟨hday, h⟩ := fixedDigits_append_inj (hfits t ht).2.2 (hfits u hu).2.2 (List.cons.inj h).2
  obtain ⟨hhour, h⟩ := fixedDigits_append_inj (htimes t).1 (htimes u).1 (List.cons.inj h).2
  obtain ⟨hminute, h⟩ := fixedDigits_append_inj (htimes t).2.1 (htimes u).2.1 (List.cons.inj h).2
  obtain ⟨hsecond, h⟩ := fixedDigits_append_inj (htimes t).2.2 (htimes u).2.2 (List.cons.inj h).2
  have hsign : ∀ a : ℤ, (offsetStr a).head? ≠ some '.' := by
    intro a
    unfold offsetStr
    by_cases ha : a < 0 <;> simp [ha]
  obtain ⟨hmicro, h⟩ := fractionStr_append_inj (Nat.mod_lt _ (by decide)) (Nat.mod_lt _ (by decide))
    (hsign _) (hsign _) h
  have hoffset := offsetStr_inj (zone.lt_day t) (zone.lt_day u) h
  have hordinal : (zone.day t).toNat = (zone.day u).toNat := by
    rw [← (toOrdinal_toYmd (hdays t ht).1).1, ← (toOrdinal_toYmd (hdays u hu).1).1, hyear, hmonth,
      hday]
  have hdayeq : zone.day t = zone.day u := by
    rw [← (hdays t ht).2.2, ← (hdays u hu).2.2, hordinal]
  have htime : zone.time t = zone.time u := eq_of_clock hhour hminute hsecond hmicro
  have hwall : zone.wall t = zone.wall u := by
    unfold ServerZone.day microsPerDay at hdayeq
    unfold ServerZone.time microsPerDay at htime
    omega
  unfold ServerZone.wall at hwall
  rw [hoffset] at hwall
  simpa using hwall

theorem ServerZone.bar_not_mem (zone : ServerZone) (t : Instant) : '|' ∉ zone.str t := by
  have hdigits : ∀ w n, '|' ∉ fixedDigits w n := fun w n h =>
    absurd (isDigit_of_mem_fixedDigits h) (by decide)
  have hfraction : ∀ n, '|' ∉ fractionStr n := by
    intro n
    unfold fractionStr
    split <;> simp [hdigits]
  have hoffset : ∀ a, '|' ∉ offsetStr a := by
    intro a
    unfold offsetStr
    dsimp only
    split <;> split <;> simp [hdigits, hfraction]
  unfold ServerZone.str
  simp [hdigits, hfraction, hoffset]

theorem ServerZone.length_str (zone : ServerZone) (t : Instant) : 25 ≤ (zone.str t).length := by
  unfold ServerZone.str offsetStr
  simp only [List.length_append, List.length_cons, length_fixedDigits]
  omega

end Zone

section Keys

variable {sha256 : Text → Text} {zone : ServerZone} {e f : EventData}

/-- No two events without an identifier have different texts of one digest. -/
def KeyCollisionFree (sha256 : Text → Text) (zone : ServerZone) (e f : EventData) : Prop :=
  sha256 (fingerprintText zone e) = sha256 (fingerprintText zone f) →
    fingerprintText zone e = fingerprintText zone f

/-- The zone can show every date and time that is read. -/
def ServerZone.Shows (zone : ServerZone) (parsers : FieldParsers) : Prop :=
  ∀ t instant, parsers.dateTime t = some instant → zone.Represents instant

theorem ServerZone.Shows.represents {parsers : FieldParsers} (h : zone.Shows parsers)
    {event : WireEvent} (he : bridgeEventSerializer parsers event = some e) :
    zone.Represents e.occurredAt := by
  unfold bridgeEventSerializer at he
  simp only [Option.bind_eq_bind, Option.pure_def, Option.bind_eq_some_iff] at he
  obtain ⟨device, -, extId, -, user, -, occurred, hoccurred, method, -, type, -, hdata⟩ := he
  cases hdata
  obtain ⟨v, -, hv⟩ := Option.bind_eq_some_iff.mp hoccurred
  cases v <;> simp only [FieldParsers.dateTimeField, reduceCtorEq] at hv
  exact h _ _ hv

theorem storedKey_eq (hsha : ∀ t, (sha256 t).length = 64) (he : e.Admitted) :
    storedKey sha256 zone e = dedupeKeyText sha256 zone e := by
  refine List.take_of_length_le ?_
  unfold dedupeKeyText
  rw [he.externalEventId.1]
  have hlen := he.externalEventId.2
  dsimp only
  split
  · rw [List.length_append]
    have hprefix : "ext:".toList.length = 4 := by decide
    omega
  · rw [List.length_append, hsha]
    decide

theorem dedupeKeyText_ext (h : Text.strip e.externalEventId ≠ []) :
    dedupeKeyText sha256 zone e = "ext:".toList ++ Text.strip e.externalEventId := if_pos h

theorem dedupeKeyText_fp (h : Text.strip e.externalEventId = []) :
    dedupeKeyText sha256 zone e = "fp:".toList ++ sha256 (fingerprintText zone e) :=
  if_neg (not_not.mpr h)

theorem ext_ne_fp (s t : Text) : "ext:".toList ++ s ≠ "fp:".toList ++ t := by
  intro h
  exact absurd (List.cons.inj h).1 (by decide)

theorem fingerprintText_inj (he : e.Admitted) (hf : f.Admitted)
    (hte : zone.Represents e.occurredAt) (htf : zone.Represents f.occurredAt)
    (h : fingerprintText zone e = fingerprintText zone f) :
    e.externalUserId = f.externalUserId ∧ e.occurredAt = f.occurredAt ∧
      e.eventType = f.eventType := by
  obtain ⟨huser, hinstant, htype⟩ := fields_inj (zone.bar_not_mem _) (zone.bar_not_mem _)
    (he.eventType.trans (le_trans (by decide) (zone.length_str _)))
    (hf.eventType.trans (le_trans (by decide) (zone.length_str _))) h
  exact ⟨huser, ServerZone.str_inj hte htf hinstant, htype⟩

theorem dedupeKeyText_eq (he : e.Admitted) (hf : f.Admitted) (hte : zone.Represents e.occurredAt)
    (htf : zone.Represents f.occurredAt) (hfree : KeyCollisionFree sha256 zone e f)
    (h : dedupeKeyText sha256 zone e = dedupeKeyText sha256 zone f) : e.SameScan f := by
  have hse : Text.strip e.externalEventId = e.externalEventId := he.externalEventId.1
  have hsf : Text.strip f.externalEventId = f.externalEventId := hf.externalEventId.1
  have hne : ∀ {t : Text}, Text.strip t = t → t ≠ [] → Text.strip t ≠ [] := by
    intro t ht h
    rwa [ht]
  by_cases hee : e.externalEventId = []
  · by_cases hfe : f.externalEventId = []
    · rw [dedupeKeyText_fp (hse.trans hee), dedupeKeyText_fp (hsf.trans hfe)] at h
      have hdigest := List.append_cancel_left h
      exact ⟨hee.trans hfe.symm, .inr (fingerprintText_inj he hf hte htf (hfree hdigest))⟩
    · rw [dedupeKeyText_fp (hse.trans hee), dedupeKeyText_ext (hne hsf hfe)] at h
      exact absurd h.symm (ext_ne_fp _ _)
  · by_cases hfe : f.externalEventId = []
    · rw [dedupeKeyText_ext (hne hse hee), dedupeKeyText_fp (hsf.trans hfe)] at h
      exact absurd h (ext_ne_fp _ _)
    · rw [dedupeKeyText_ext (hne hse hee), dedupeKeyText_ext (hne hsf hfe), hse, hsf] at h
      exact ⟨List.append_cancel_left h, .inl hee⟩

theorem storedKey_eq_iff (hsha : ∀ t, (sha256 t).length = 64) (clock : DateTimeStr)
    (he : e.Admitted) (hf : f.Admitted) (hte : zone.Represents e.occurredAt)
    (htf : zone.Represents f.occurredAt) (hfree : KeyCollisionFree sha256 zone e f) :
    storedKey sha256 zone e = storedKey sha256 zone f ↔
      dedupeKey clock e = dedupeKey clock f := by
  rw [storedKey_eq hsha he, storedKey_eq hsha hf, dedupeKey_eq_iff clock he hf]
  refine ⟨dedupeKeyText_eq he hf hte htf hfree, ?_⟩
  rintro ⟨hid, hrest⟩
  unfold dedupeKeyText
  rw [hid]
  rcases hrest with hne | ⟨huser, hinstant, htype⟩
  · rw [hid, ← hf.externalEventId.1] at hne
    dsimp only
    rw [if_pos hne, if_pos hne]
  · unfold fingerprintText
    rw [huser, hinstant, htype]

/-- **The key of a scan is injective.** Two events that the serializer admits, of which the digests
do not collide, have one key only when they have one identifier, or both have none and agree in
user, instant and type. The cut to the width of the column merges nothing, and no key with an
identifier is a key with a digest. -/
theorem dedupe_key_injective (sha256 : Text → Text) (hsha : ∀ t, (sha256 t).length = 64)
    (zone : ServerZone) (parsers : FieldParsers) (hshows : zone.Shows parsers)
    {v w : WireEvent} {e f : EventData} (he : bridgeEventSerializer parsers v = some e)
    (hf : bridgeEventSerializer parsers w = some f) (hfree : KeyCollisionFree sha256 zone e f) :
    (storedKey sha256 zone e = storedKey sha256 zone f →
      (Text.strip e.externalEventId ≠ [] ∧
        Text.strip e.externalEventId = Text.strip f.externalEventId) ∨
      (Text.strip e.externalEventId = [] ∧ Text.strip f.externalEventId = [] ∧
        e.externalUserId = f.externalUserId ∧ e.occurredAt = f.occurredAt ∧
        e.eventType = f.eventType)) ∧
    (storedKey sha256 zone e = storedKey sha256 zone f →
      dedupeKeyText sha256 zone e = dedupeKeyText sha256 zone f) ∧
    (Text.strip e.externalEventId ≠ [] → Text.strip f.externalEventId = [] →
      storedKey sha256 zone e ≠ storedKey sha256 zone f) := by
  have hea := bridgeEventSerializer_admitted he
  have hfa := bridgeEventSerializer_admitted hf
  rw [storedKey_eq hsha hea, storedKey_eq hsha hfa]
  refine ⟨fun h => ?_, fun h => h, fun hne hnone => ?_⟩
  · obtain ⟨hid, hrest⟩ :=
      dedupeKeyText_eq hea hfa (hshows.represents he) (hshows.represents hf) hfree h
    rw [← hid, hea.externalEventId.1]
    by_cases hee : e.externalEventId = []
    · exact .inr ⟨hee, hee, hrest.resolve_left (not_not.mpr hee)⟩
    · exact .inl ⟨hee, rfl⟩
  · rw [dedupeKeyText_ext hne, dedupeKeyText_fp hnone]
    exact ext_ne_fp _ _

end Keys

def riyadh : ServerZone where
  utcoffset := fun _ => 10800000000
  lt_day := fun _ => by decide

def scanDigest (t : Text) : Text :=
  if t = "7|2026-08-19 07:01:00+03:00|CHECK_IN".toList then
    "6a73cc1ea2dd0d277b056cd27d0f15929dfc88ef7cfa43dcf88d46a235e4d5e9".toList
  else if t = "8|2026-08-19 07:01:00+03:00|CHECK_IN".toList then
    "b8b1e097d80dad458f3876264ab9c8cbf84965fb1dcde66589c0ac7220844997".toList
  else List.replicate 64 '0'

def morningParsers : FieldParsers :=
  tableParsers [("2026-08-19T07:01:00+03:00".toList, 1787112060000000)]

def namedScan : WireEvent :=
  { deviceId := some (.int 1), externalEventId := some (.text " 15 ".toList)
    externalUserId := some (.int 7)
    occurredAt := some (.text "2026-08-19T07:01:00+03:00".toList) }

def namelessScan : WireEvent :=
  { namedScan with externalEventId := none, externalUserId := some (.int 8) }

example : riyadh.str 1787112060000000 = "2026-08-19 07:01:00+03:00".toList := by decide

/-- The two have different keys. -/
theorem dedupe_key_injective_scans :
    ∃ e f, bridgeEventSerializer morningParsers namedScan = some e ∧
      bridgeEventSerializer morningParsers namelessScan = some f ∧
      storedKey scanDigest riyadh e ≠ storedKey scanDigest riyadh f := by
  refine ⟨⟨1, "15".toList, "7".toList, 1787112060000000, .unknown, checkIn⟩,
    ⟨1, [], "8".toList, 1787112060000000, .unknown, checkIn⟩, by decide, by decide, ?_⟩
  refine (dedupe_key_injective scanDigest (fun t => ?_) riyadh morningParsers ?_
    (v := namedScan) (w := namelessScan) (by decide) (by decide) ?_).2.2 (by decide) (by decide)
  · unfold scanDigest
    split
    · decide
    · split
      · decide
      · exact List.length_replicate
  · intro t instant h
    obtain ⟨entry, hentry, rfl⟩ := Option.map_eq_some_iff.mp h
    have hmem := List.mem_of_find?_eq_some hentry
    rw [List.mem_singleton.mp hmem]
    unfold ServerZone.Represents
    decide
  · unfold KeyCollisionFree
    decide

end SchoolPlatform
