import SchoolPlatform.Model.StaffFile

/-!
# One form of each mobile number

What `normalizeMobile` accepts are the written forms whose eight digits are decimal digits of any
script (`normalizeMobile_eq_ok`), and it keeps the script. Its results are the one form of their
numbers exactly where no digit of another script than the Latin and the Arabic-Indic occurs.
-/

namespace SchoolPlatform

variable {t rest digits : Text} {c : Char} {raw m : String}

theorem afterStart_eq_some {start : Text} : afterStart start t = some rest ↔ t = start ++ rest := by
  unfold afterStart
  constructor
  · intro h
    split at h
    · rename_i hpre
      simp only [Option.some.injEq] at h
      obtain ⟨tail, rfl⟩ := List.isPrefixOf_iff_prefix.mp hpre
      rw [← h, List.drop_left]
    · cases h
  · rintro rfl
    rw [if_pos (List.isPrefixOf_iff_prefix.mpr (List.prefix_append _ _)), List.drop_left]

theorem isMobilePart_iff :
    isMobilePart rest = true ↔
      ∃ digits, rest = '5' :: digits ∧ digits.length = 8 ∧ digits.all Text.isDecimal := by
  cases rest with
  | nil => simp [isMobilePart]
  | cons c digits =>
    simp only [isMobilePart, List.head?_cons, List.length_cons, List.drop_succ_cons,
      List.drop_zero, Bool.and_eq_true, decide_eq_true_eq, Option.some.injEq, List.cons.injEq]
    constructor
    · rintro ⟨⟨rfl, hlen⟩, hall⟩
      exact ⟨digits, ⟨rfl, rfl⟩, by omega, hall⟩
    · rintro ⟨digits', ⟨rfl, rfl⟩, hlen, hall⟩
      exact ⟨⟨rfl, by omega⟩, hall⟩

theorem nationalPart_eq_some (h : nationalPart digits = some rest) :
    digits = ['9', '6', '6'] ++ rest ∨ digits = '0' :: rest ∨ digits = rest := by
  unfold nationalPart at h
  split at h
  · rename_i tail htail
    cases h
    exact .inl (afterStart_eq_some.mp htail)
  · split at h
    · rename_i hzero
      cases h
      obtain ⟨tail, htail⟩ := Option.isSome_iff_exists.mp hzero
      rw [afterStart_eq_some.mp htail]
      exact .inr (.inl rfl)
    · split at h
      · cases h
        exact .inr (.inr rfl)
      · cases h

theorem isDigit_of_isDecimal (h : Text.isDecimal c = true) : isDigit c = true := by
  unfold isDigit
  rw [h, Bool.true_or]

def mobileText (digits : Text) : String := String.ofList (['+', '9', '6', '6', '5'] ++ digits)

theorem written_of_parts {value tail : Text}
    (hstart : digits = ((afterStart ['+'] value).or (afterStart ['0', '0'] value)).getD value)
    (hrest : nationalPart digits = some rest) (htail : rest = '5' :: tail)
    (hlen : tail.length = 8) : Written value tail := by
  have hcountry : ∃ country ∈ [[], ['0'], ['9', '6', '6']], digits = country ++ '5' :: tail := by
    rcases nationalPart_eq_some hrest with h | h | h
    · exact ⟨['9', '6', '6'], by simp, by rw [h, htail]⟩
    · exact ⟨['0'], by simp, by rw [h, htail]; rfl⟩
    · exact ⟨[], by simp, by rw [h, htail]; rfl⟩
  obtain ⟨country, hmem, hdigits⟩ := hcountry
  have hpre : ∃ start ∈ [[], ['+'], ['0', '0']], value = start ++ digits := by
    cases hplus : afterStart ['+'] value with
    | some after =>
      rw [hplus] at hstart
      exact ⟨['+'], by simp, by rw [afterStart_eq_some.mp hplus, hstart]; rfl⟩
    | none =>
      rw [hplus] at hstart
      cases hzeros : afterStart ['0', '0'] value with
      | some after =>
        rw [hzeros] at hstart
        exact ⟨['0', '0'], by simp, by rw [afterStart_eq_some.mp hzeros, hstart]; rfl⟩
      | none =>
        rw [hzeros] at hstart
        exact ⟨[], by simp, by rw [hstart]; rfl⟩
  obtain ⟨start, hstart', hvalue⟩ := hpre
  exact ⟨start, hstart', country, hmem, by rw [hvalue, hdigits, List.append_assoc], hlen⟩

theorem after_written_start {start country : Text} (tail : Text) (hstart : start ∈ [[], ['+'], ['0', '0']])
    (hcountry : country ∈ [[], ['0'], ['9', '6', '6']]) :
    ((afterStart ['+'] (start ++ country ++ '5' :: tail)).or
      (afterStart ['0', '0'] (start ++ country ++ '5' :: tail))).getD
        (start ++ country ++ '5' :: tail) = country ++ '5' :: tail := by
  simp only [List.mem_cons, List.not_mem_nil, or_false] at hstart hcountry
  rcases hstart with rfl | rfl | rfl <;> rcases hcountry with rfl | rfl | rfl <;> rfl

theorem nationalPart_written {country tail : Text}
    (hcountry : country ∈ [[], ['0'], ['9', '6', '6']]) :
    nationalPart (country ++ '5' :: tail) = some ('5' :: tail) := by
  simp only [List.mem_cons, List.not_mem_nil, or_false] at hcountry
  rcases hcountry with rfl | rfl | rfl <;> rfl

/-- **What is accepted**: the written forms whose digits are decimal digits of any script, and the
digits are kept as they are. -/
theorem normalizeMobile_eq_ok :
    normalizeMobile raw = .ok m ↔ ∃ digits,
      Written ((withoutSeparators raw).map latinDigit) digits ∧ digits.all Text.isDecimal ∧
        m = mobileText digits := by
  unfold normalizeMobile
  generalize (withoutSeparators raw).map latinDigit = value
  dsimp only
  constructor
  · intro h
    split at h
    · cases h
    · split at h
      · cases h
      · rename_i rest hrest
        split at h
        · rename_i hpart
          cases h
          obtain ⟨tail, htail, hlen, hall⟩ := isMobilePart_iff.mp hpart
          refine ⟨tail, written_of_parts rfl hrest htail hlen, hall, ?_⟩
          rw [htail]
          rfl
        · cases h
  · rintro ⟨tail, ⟨start, hstart, country, hcountry, rfl, hlen⟩, hall, rfl⟩
    have hdigit : ∀ c ∈ tail, isDigit c = true :=
      fun c hc => isDigit_of_isDecimal (List.all_eq_true.mp hall c hc)
    have hpart : isMobilePart ('5' :: tail) = true := isMobilePart_iff.mpr ⟨tail, rfl, hlen, hall⟩
    have hdigits := after_written_start tail hstart hcountry
    have hall' : (country ++ '5' :: tail).all isDigit = true := by
      rw [List.all_append, List.all_cons, Bool.and_eq_true, Bool.and_eq_true]
      have hcodes : ∀ code ∈ [[], ['0'], ['9', '6', '6']], code.all isDigit = true := by decide
      exact ⟨hcodes country hcountry, by decide, List.all_eq_true.mpr hdigit⟩
    have hne : country ++ '5' :: tail ≠ [] := by simp
    rw [hdigits, if_neg (by simp [hne, hall']), nationalPart_written hcountry]
    dsimp only
    rw [if_pos hpart]
    rfl

theorem latinDigit_eq_self (h : ¬(0x660 ≤ c.toNat ∧ c.toNat ≤ 0x669)) : latinDigit c = c := by
  unfold latinDigit
  rw [if_neg h]

theorem digitOf_of_isDigit (h : c.isDigit = true) : digitOf c = c := by
  have hrange : 48 ≤ c.toNat ∧ c.toNat ≤ 57 := by
    simp only [Char.isDigit, Bool.and_eq_true, decide_eq_true_eq] at h
    exact ⟨h.1, h.2⟩
  have hfind : (Text.decimalZeros.find? fun z => z ≤ c.toNat && c.toNat ≤ z + 9) = some 0x30 := by
    rw [Text.decimalZeros, List.find?_cons_of_pos]
    simp only [Bool.and_eq_true, decide_eq_true_eq]
    omega
  unfold digitOf
  rw [hfind]
  dsimp only
  rw [Nat.sub_add_cancel hrange.1, Char.ofNat_toNat]

theorem digitOf_latinDigit (c : Char) : digitOf (latinDigit c) = digitOf c := by
  by_cases h : 0x660 ≤ c.toNat ∧ c.toNat ≤ 0x669
  · refine char_of_range (P := fun c => digitOf (latinDigit c) = digitOf c) 0x660 10 ?_
      h.1 (by omega)
    decide +kernel
  · rw [latinDigit_eq_self h]

theorem latinDigit_latinDigit (c : Char) : latinDigit (latinDigit c) = latinDigit c := by
  by_cases h : 0x660 ≤ c.toNat ∧ c.toNat ≤ 0x669
  · refine char_of_range (P := fun c => latinDigit (latinDigit c) = latinDigit c)
      0x660 10 ?_ h.1 (by omega)
    decide +kernel
  · rw [latinDigit_eq_self h, latinDigit_eq_self h]

theorem not_isMobileSeparator_of_isDecimal (h : Text.isDecimal c = true) :
    isMobileSeparator c = false := by
  have hscripts : ∀ z ∈ Text.decimalZeros, ∀ n ∈ List.range 10,
      isMobileSeparator (Char.ofNat (z + n)) = false := by
    decide +kernel
  obtain ⟨z, hz, hrange⟩ := List.any_eq_true.mp h
  simp only [Bool.and_eq_true, decide_eq_true_eq] at hrange
  exact char_of_range (P := fun c => isMobileSeparator c = false) z 10 (hscripts z hz) hrange.1
    (by omega)

theorem withoutSeparators_ofList (h : ∀ c ∈ t, isMobileSeparator c = false) :
    withoutSeparators (String.ofList t) = t := by
  have hspace : ∀ c ∈ t, Text.isSpace c = false := by
    intro c hc
    have hsep := h c hc
    unfold isMobileSeparator at hsep
    exact (Bool.or_eq_false_iff.mp hsep).1
  unfold withoutSeparators
  rw [String.toList_ofList, Text.strip_eq_self hspace, List.filter_eq_self]
  intro c hc
  rw [h c hc]
  rfl

theorem Written.unique {digits' : Text} (h : Written t digits) (h' : Written t digits') :
    digits = digits' := by
  obtain ⟨start, -, country, -, heq, hlen⟩ := h
  obtain ⟨start', -, country', -, heq', hlen'⟩ := h'
  have hdrop : ∀ u v : Text, v.length = 8 → (u ++ v).drop ((u ++ v).length - 8) = v := by
    intro u v hv
    rw [List.length_append, hv, Nat.add_sub_cancel, List.drop_left]
  have hlast := hdrop (start ++ country ++ ['5']) digits hlen
  have hlast' := hdrop (start' ++ country' ++ ['5']) digits' hlen'
  rw [List.append_assoc _ ['5'], List.singleton_append, ← heq] at hlast
  rw [List.append_assoc _ ['5'], List.singleton_append, ← heq'] at hlast'
  rw [← hlast, ← hlast']

theorem normalizeMobile_mobileText (hlen : digits.length = 8)
    (hall : digits.all Text.isDecimal = true) (hlatin : ∀ c ∈ digits, latinDigit c = c) :
    normalizeMobile (mobileText digits) = .ok (mobileText digits) := by
  refine normalizeMobile_eq_ok.mpr ⟨digits, ?_, hall, rfl⟩
  have hsep : ∀ c ∈ ['+', '9', '6', '6', '5'] ++ digits, isMobileSeparator c = false := by
    intro c hc
    rcases List.mem_append.mp hc with hcode | hdigit
    · have hcodes : ['+', '9', '6', '6', '5'].all (fun c => !isMobileSeparator c) = true := by
        decide
      simpa using List.all_eq_true.mp hcodes c hcode
    · exact not_isMobileSeparator_of_isDecimal (List.all_eq_true.mp hall c hdigit)
  have hsame : digits.map latinDigit = digits := by
    calc digits.map latinDigit = digits.map id := List.map_congr_left hlatin
      _ = digits := List.map_id digits
  unfold mobileText
  rw [withoutSeparators_ofList hsep, List.map_append, hsame]
  exact ⟨['+'], by simp, ['9', '6', '6'], by simp, rfl, hlen⟩

theorem normalizeMobile_idempotent (h : normalizeMobile raw = .ok m) :
    normalizeMobile m = .ok m := by
  obtain ⟨digits, hwritten, hall, rfl⟩ := normalizeMobile_eq_ok.mp h
  obtain ⟨start, -, country, -, heq, hlen⟩ := hwritten
  refine normalizeMobile_mobileText hlen hall fun c hc => ?_
  have hmem : c ∈ (withoutSeparators raw).map latinDigit := by
    rw [heq]
    exact List.mem_append_right _ (List.mem_cons_of_mem _ hc)
  obtain ⟨c₀, -, rfl⟩ := List.mem_map.mp hmem
  exact latinDigit_latinDigit c₀

theorem spells_of_written (h : Written ((withoutSeparators raw).map latinDigit) digits) :
    Spells raw (digits.map digitOf) := by
  obtain ⟨start, hstart, country, hcountry, heq, hlen⟩ := h
  refine ⟨start, hstart, country, hcountry, ?_, by rw [List.length_map, hlen]⟩
  have hstarts : ∀ u ∈ [[], ['+'], ['0', '0']], u.map digitOf = u := by decide +kernel
  have hcodes : ∀ u ∈ [[], ['0'], ['9', '6', '6']], u.map digitOf = u := by decide +kernel
  have hfive : digitOf '5' = '5' := by decide +kernel
  calc (withoutSeparators raw).map digitOf
      = ((withoutSeparators raw).map latinDigit).map digitOf := by
        rw [List.map_map]
        exact List.map_congr_left fun c _ => (digitOf_latinDigit c).symm
    _ = start ++ country ++ '5' :: digits.map digitOf := by
        rw [heq, List.map_append, List.map_append, List.map_cons, hstarts start hstart,
          hcodes country hcountry, hfive]

/-- The text is accepted with a digit of another script than the Latin and the Arabic-Indic one:
once separators are gone and Arabic-Indic digits translated, it is a written form with decimal
digits that are not all Latin. -/
def ForeignDigits (raw : String) : Prop :=
  ∃ digits, Written ((withoutSeparators raw).map latinDigit) digits ∧
    digits.all Text.isDecimal ∧ ¬ digits.all Char.isDigit

/-- Two texts that spell the same number, whatever separators, prefixes and scripts they use. -/
def SameMobile (raw raw' : String) : Prop := ∃ number, Spells raw number ∧ Spells raw' number

/-- What is asked of two texts: each is refused or brought into the one form, where it stays, and
when both are accepted and spell the same number, the results are the same. -/
structure OneMobileForm (raw raw' : String) : Prop where
  canonical : ∀ t ∈ [raw, raw'], ∀ m, normalizeMobile t = .ok m → IsCanonicalMobile m
  idempotent : ∀ t ∈ [raw, raw'], ∀ m, normalizeMobile t = .ok m → normalizeMobile m = .ok m
  agree : ∀ m m', normalizeMobile raw = .ok m → normalizeMobile raw' = .ok m' →
    SameMobile raw raw' → m = m'

theorem isCanonicalMobile_mobileText (hlen : digits.length = 8) :
    IsCanonicalMobile (mobileText digits) ↔ digits.all Char.isDigit = true := by
  constructor
  · rintro ⟨digits', -, hdigits, heq⟩
    have hlist := String.ofList_injective heq
    rw [List.append_cancel_left hlist]
    exact hdigits
  · exact fun hdigits => ⟨digits, hlen, hdigits, rfl⟩

theorem canonical_iff (raw : String) :
    (∀ m, normalizeMobile raw = .ok m → IsCanonicalMobile m) ↔ ¬ ForeignDigits raw := by
  constructor
  · rintro h ⟨digits, hwritten, hall, hforeign⟩
    have hm := h _ (normalizeMobile_eq_ok.mpr ⟨digits, hwritten, hall, rfl⟩)
    obtain ⟨-, -, -, -, -, hlen⟩ := hwritten
    exact hforeign ((isCanonicalMobile_mobileText hlen).mp hm)
  · intro h m hm
    obtain ⟨digits, hwritten, hall, rfl⟩ := normalizeMobile_eq_ok.mp hm
    have hlatin : digits.all Char.isDigit = true := by
      by_contra hforeign
      exact h ⟨digits, hwritten, hall, hforeign⟩
    obtain ⟨-, -, -, -, -, hlen⟩ := hwritten
    exact (isCanonicalMobile_mobileText hlen).mpr hlatin

theorem normalizeMobile_agree {raw' m' : String} (h : normalizeMobile raw = .ok m)
    (h' : normalizeMobile raw' = .ok m') (hlatin : ¬ ForeignDigits raw)
    (hlatin' : ¬ ForeignDigits raw') (hsame : SameMobile raw raw') : m = m' := by
  have hdigits : ∀ {raw m : String}, normalizeMobile raw = .ok m → ¬ ForeignDigits raw →
      ∀ number, Spells raw number → m = mobileText number := by
    intro raw m h hlatin number hspells
    obtain ⟨digits, hwritten, hall, rfl⟩ := normalizeMobile_eq_ok.mp h
    have hdigit : digits.all Char.isDigit = true := by
      by_contra hforeign
      exact hlatin ⟨digits, hwritten, hall, hforeign⟩
    have hvalues : digits.map digitOf = digits := by
      calc digits.map digitOf = digits.map id := List.map_congr_left fun c hc =>
            digitOf_of_isDigit (List.all_eq_true.mp hdigit c hc)
        _ = digits := List.map_id digits
    have hnumber := (spells_of_written hwritten).unique hspells
    rw [← hnumber, hvalues]
  obtain ⟨number, hspells, hspells'⟩ := hsame
  rw [hdigits h hlatin number hspells, hdigits h' hlatin' number hspells']

/-- **One form of each number.** Of any two texts: each is refused or brought into the one form, and
spellings of one number have one result, exactly when neither is accepted with a digit of another
script than the Latin and the Arabic-Indic one. -/
theorem oneMobileForm_iff (raw raw' : String) :
    OneMobileForm raw raw' ↔ ¬ ForeignDigits raw ∧ ¬ ForeignDigits raw' := by
  constructor
  · intro h
    exact ⟨(canonical_iff raw).mp (h.canonical raw (by simp)),
      (canonical_iff raw').mp (h.canonical raw' (by simp))⟩
  · rintro ⟨hlatin, hlatin'⟩
    refine ⟨fun t ht => ?_, fun t _ m hm => normalizeMobile_idempotent hm, ?_⟩
    · simp only [List.mem_cons, List.not_mem_nil, or_false] at ht
      rcases ht with rfl | rfl
      · exact (canonical_iff t).mpr hlatin
      · exact (canonical_iff t).mpr hlatin'
    · exact fun m m' hm hm' hsame => normalizeMobile_agree hm hm' hlatin hlatin' hsame

/-- A number in Persian digits after its prefix is accepted as it is: it is not in the one form, and
the same number in Latin digits has another result. -/
theorem normalizeMobile_persian :
    normalizeMobile "+9665۱۲۳۴۵۶۷۸" = .ok "+9665۱۲۳۴۵۶۷۸" ∧
      normalizeMobile "0512345678" = .ok "+966512345678" ∧
      SameMobile "+9665۱۲۳۴۵۶۷۸" "0512345678" ∧
      ¬ OneMobileForm "+9665۱۲۳۴۵۶۷۸" "0512345678" := by
  have hpersian : normalizeMobile "+9665۱۲۳۴۵۶۷۸" = .ok "+9665۱۲۳۴۵۶۷۸" := by decide +kernel
  have hlatin : normalizeMobile "0512345678" = .ok "+966512345678" := by decide +kernel
  have hsame : SameMobile "+9665۱۲۳۴۵۶۷۸" "0512345678" :=
    ⟨"12345678".toList, ⟨['+'], by simp, ['9', '6', '6'], by simp, by decide +kernel, rfl⟩,
      ⟨[], by simp, ['0'], by simp, by decide +kernel, rfl⟩⟩
  refine ⟨hpersian, hlatin, hsame, fun h => ?_⟩
  exact absurd (h.agree _ _ hpersian hlatin hsame) (by decide)

end SchoolPlatform
