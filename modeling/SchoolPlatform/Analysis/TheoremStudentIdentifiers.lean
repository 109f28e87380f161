import SchoolPlatform.Model.StudentIdentifiers

/-!
# One reading of each student identifier

Cleaning the text of a cell leaves of its normal form what the cell displays
(`UnicodeRules.normalizeImportNationalId_eq`), and the normal form of that is the one of the plain
identifier (`UnicodeRules.nfkc_displayed`): texts and whole numbers are read as the identifier they
show. A float is read with the zero behind its decimal point.
-/

namespace SchoolPlatform

def displayed (t : Text) : Text := (t.filter fun c => !isDisplaySign c).map latinDigit

theorem displayed_append (s t : Text) : displayed (s ++ t) = displayed s ++ displayed t := by
  unfold displayed
  rw [List.filter_append, List.map_append]

theorem displayed_cons (c : Char) (t : Text) : displayed (c :: t) = displayed [c] ++ displayed t :=
  displayed_append [c] t

theorem displayed_eq_self {t : Text} (h : ∀ c ∈ t, isDecoration c = false) : displayed t = t := by
  have hsign : ∀ c ∈ t, isDisplaySign c = false ∧ latinDigit c = c := by
    intro c hc
    have hdec := h c hc
    simp only [isDecoration, Bool.or_eq_false_iff, Bool.and_eq_false_iff, decide_eq_false_iff_not]
      at hdec
    refine ⟨hdec.1, ?_⟩
    unfold latinDigit
    rw [if_neg (by omega)]
  unfold displayed
  rw [List.filter_eq_self.mpr fun c hc => by rw [(hsign c hc).1]; rfl]
  calc t.map latinDigit = t.map id := List.map_congr_left fun c hc => (hsign c hc).2
    _ = t := List.map_id t

section Cleaning

variable {p : Char → Bool}

theorem filter_collapseSpaces (hp : ∀ c, Text.isSpace c = true → p c = false) (t : Text) :
    ∀ after, (collapseSpaces after t).filter p = t.filter p := by
  have hspace : p ' ' = false := hp ' ' (by decide)
  induction t with
  | nil => exact fun _ => rfl
  | cons c t ih =>
    intro after
    unfold collapseSpaces
    by_cases hc : Text.isSpace c = true
    · rw [if_pos hc, List.filter_cons_of_neg (by simp [hp c hc])]
      split
      · exact ih true
      · rw [List.filter_cons_of_neg (by simp [hspace])]
        exact ih true
    · rw [if_neg hc, List.filter_cons, List.filter_cons, ih false]

theorem filter_dropWhile (hp : ∀ c, Text.isSpace c = true → p c = false) (t : Text) :
    (t.dropWhile Text.isSpace).filter p = t.filter p := by
  induction t with
  | nil => rfl
  | cons c t ih =>
    by_cases hc : Text.isSpace c = true
    · rw [List.dropWhile_cons_of_pos hc, ih, List.filter_cons_of_neg (by simp [hp c hc])]
    · rw [List.dropWhile_cons_of_neg hc]

theorem filter_strip (hp : ∀ c, Text.isSpace c = true → p c = false) (t : Text) :
    (Text.strip t).filter p = t.filter p := by
  unfold Text.strip List.rdropWhile
  rw [List.filter_reverse, filter_dropWhile hp, List.filter_reverse, List.reverse_reverse,
    filter_dropWhile hp]

end Cleaning

theorem space_or_dash_latinDigit (c : Char) :
    (Text.isSpace (latinDigit c) || isDash (latinDigit c)) = (Text.isSpace c || isDash c) := by
  by_cases h : 0x660 ≤ c.toNat ∧ c.toNat ≤ 0x669
  · refine char_of_range (P := fun c =>
      (Text.isSpace (latinDigit c) || isDash (latinDigit c)) = (Text.isSpace c || isDash c))
      0x660 10 ?_ h.1 (by omega)
    decide +kernel
  · unfold latinDigit
    rw [if_neg h]

namespace UnicodeRules

variable (u : UnicodeRules)

/-- **Cleaning a cell** leaves what the normal form of its text displays. -/
theorem normalizeImportNationalId_eq (value : Text) :
    u.normalizeImportNationalId value = displayed (u.nfkc value) := by
  have hspace : ∀ c, Text.isSpace c = true → (!(Text.isSpace c || isDash c)) = false := by
    intro c hc
    rw [hc]
    rfl
  have hcomp : ((fun c => !(Text.isSpace c || isDash c)) ∘ latinDigit) =
      fun c => !(Text.isSpace c || isDash c) := by
    funext c
    exact congrArg (!·) (space_or_dash_latinDigit c)
  have hsigns : ∀ c, ((!(Text.isSpace c || isDash c)) && !isZeroWidth c) = !isDisplaySign c := by
    intro c
    unfold isDisplaySign
    rw [Bool.not_or (Text.isSpace c || isDash c)]
  unfold normalizeImportNationalId normalizeDigits normalizeText displayed
  rw [List.filter_map, hcomp, filter_strip hspace, filter_collapseSpaces hspace,
    List.filter_filter]
  simp only [hsigns]

/-! ## Normal forms -/

theorem nfkc_nil : u.nfkc [] = [] := u.nfkc_ascii [] fun c hc => by simp at hc

theorem nfkc_nfkc (t : Text) : u.nfkc (u.nfkc t) = u.nfkc t := by
  have happ := u.nfkc_append t []
  rw [List.append_nil, u.nfkc_nil, List.append_nil] at happ
  exact happ.symm

theorem nfkc_congr {a a' b b' : Text} (ha : u.nfkc a = u.nfkc a') (hb : u.nfkc b = u.nfkc b') :
    u.nfkc (a ++ b) = u.nfkc (a' ++ b') := by
  rw [u.nfkc_append a b, ha, hb, ← u.nfkc_append a' b']

/-- No part of the text has a decoration in its normal form. -/
def Plain (t : Text) : Prop := ∀ a, a <:+: t → ∀ c ∈ u.nfkc a, isDecoration c = false

end UnicodeRules

theorem displayed_sign {c : Char} (h : isDisplaySign c = true) : displayed [c] = [] := by
  unfold displayed
  rw [List.filter_cons_of_neg (by simp [h])]
  rfl

theorem displayed_decorationForm (d : Char) : displayed [decorationForm d] = displayed [d] := by
  unfold decorationForm
  dsimp only
  split
  next hspace =>
    have hd : Text.isSpace d = true := by
      simp only [Text.isSpace, Bool.or_eq_true, Bool.and_eq_true, decide_eq_true_eq]
      omega
    have hsign : isDisplaySign d = true := by
      unfold isDisplaySign
      rw [hd]
      rfl
    rw [displayed_sign hsign, displayed_sign (by decide)]
  next =>
    split
    next hdash =>
      have hsign : isDisplaySign d = true := by
        simp [isDisplaySign, isDash, hdash]
      rw [displayed_sign hsign, displayed_sign (by decide)]
    next => rfl

namespace UnicodeRules

variable (u : UnicodeRules)

theorem nfkc_displayed_append (t : Text) : ∀ a : Text, (∀ c ∈ a, isDecoration c = false) →
    u.Plain (displayed (a ++ t)) →
    u.nfkc (displayed (u.nfkc (a ++ t))) = u.nfkc (displayed (a ++ t)) := by
  induction t with
  | nil =>
    intro a ha hplain
    rw [List.append_nil] at hplain ⊢
    rw [displayed_eq_self ha] at hplain ⊢
    rw [displayed_eq_self (hplain a (List.infix_refl a)), u.nfkc_nfkc]
  | cons d t ih =>
    intro a ha hplain
    by_cases hd : isDecoration d = true
    · have hsplit : displayed (a ++ d :: t) = a ++ (displayed [d] ++ displayed t) := by
        rw [displayed_append, displayed_cons, displayed_eq_self ha]
      rw [hsplit] at hplain
      have hpart : u.Plain a :=
        fun b hb => hplain b (hb.trans (List.prefix_append _ _).isInfix)
      have hrest : u.Plain (displayed ([] ++ t)) := fun b hb => hplain b (hb.trans
        ((List.suffix_append _ _).isInfix.trans (List.suffix_append _ _).isInfix))
      have hform : displayed (u.nfkc (a ++ d :: t)) =
          u.nfkc a ++ (displayed [d] ++ displayed (u.nfkc t)) := by
        rw [u.nfkc_decoration a d t hd, displayed_append, displayed_cons,
          displayed_decorationForm, displayed_eq_self (hpart a (List.infix_refl a))]
      rw [hform, hsplit]
      exact u.nfkc_congr (u.nfkc_nfkc a)
        (u.nfkc_congr rfl (ih [] (fun c hc => by simp at hc) hrest))
    · have hmove : a ++ d :: t = (a ++ [d]) ++ t := by simp
      rw [hmove] at hplain ⊢
      refine ih (a ++ [d]) (fun c hc => ?_) hplain
      rcases List.mem_append.mp hc with hc | hc
      · exact ha c hc
      · rw [List.mem_singleton.mp hc]
        exact Bool.eq_false_iff.mpr hd

theorem nfkc_displayed {t : Text} (hplain : u.Plain (displayed t)) :
    u.nfkc (displayed (u.nfkc t)) = u.nfkc (displayed t) :=
  u.nfkc_displayed_append t [] (fun c hc => by simp at hc) hplain

end UnicodeRules

/-! ## Identifiers -/

def isIdentifierChar (c : Char) : Bool := ('A' ≤ c && c ≤ 'Z') || ('0' ≤ c && c ≤ '9')

theorem isStudentIdentifier_iff {t : Text} :
    isStudentIdentifier t = true ↔ 6 ≤ t.length ∧ t.length ≤ 20 ∧ ∀ c ∈ t, isIdentifierChar c := by
  unfold isStudentIdentifier isIdentifierChar
  simp only [Bool.and_eq_true, decide_eq_true_eq, List.all_eq_true, and_assoc]

/-- What the normal form does with a character of an identifier: nothing. -/
def KeptChar (c : Char) : Prop :=
  c.toNat < 128 ∧ isStripChar c = false ∧ isDecoration c = false ∧ latinDigit c = c ∧ c.toUpper = c

instance instDecidableKeptChar (c : Char) : Decidable (KeptChar c) :=
  inferInstanceAs (Decidable (_ ∧ _ ∧ _ ∧ _ ∧ _))

theorem keptChar_of_isIdentifierChar {c : Char} (h : isIdentifierChar c = true) : KeptChar c := by
  simp only [isIdentifierChar, Bool.or_eq_true, Bool.and_eq_true, decide_eq_true_eq] at h
  rcases h with ⟨hlow, hhigh⟩ | ⟨hlow, hhigh⟩
  · have hlow' : 65 ≤ c.toNat := hlow
    have hhigh' : c.toNat ≤ 90 := hhigh
    refine char_of_range (P := KeptChar) 65 26 ?_ hlow' (by omega)
    decide +kernel
  · have hlow' : 48 ≤ c.toNat := hlow
    have hhigh' : c.toNat ≤ 57 := hhigh
    refine char_of_range (P := KeptChar) 48 10 ?_ hlow' (by omega)
    decide +kernel

theorem isIdentifierChar_of_isDigit {c : Char} (h : c.isDigit = true) :
    isIdentifierChar c = true := by
  simp only [Char.isDigit, Bool.and_eq_true, decide_eq_true_eq] at h
  have hlow : '0' ≤ c := h.1
  have hhigh : c ≤ '9' := h.2
  simp [isIdentifierChar, hlow, hhigh]

namespace UnicodeRules

variable (u : UnicodeRules)

def identifierValue (t : Text) : Text :=
  u.upper (((Text.strip t).filter fun c => !isStripChar c).map latinDigit)

theorem normalizeStudentIdentifier_eq (raw : Text) : u.normalizeStudentIdentifier raw =
    if isStudentIdentifier (u.identifierValue (u.nfkc raw)) then
      .ok (u.identifierValue (u.nfkc raw))
    else .error invalidStudentIdentifier := rfl

theorem normalizeStudentIdentifier_eq_ok {raw identifier : Text} :
    u.normalizeStudentIdentifier raw = .ok identifier ↔
      u.identifierValue (u.nfkc raw) = identifier ∧ isStudentIdentifier identifier = true := by
  rw [normalizeStudentIdentifier_eq]
  constructor
  · intro h
    split at h
    · cases h
      exact ⟨rfl, by assumption⟩
    · cases h
  · rintro ⟨rfl, h⟩
    rw [if_pos h]

theorem identifierValue_eq {t : Text} (hascii : ∀ c ∈ t, c.toNat < 128) :
    u.identifierValue t = (t.filter fun c => !isStripChar c).map Char.toUpper := by
  have hspace : ∀ c, Text.isSpace c = true → (!isStripChar c) = false := by
    intro c hc
    unfold isStripChar
    rw [hc]
    rfl
  have hkept : ∀ c ∈ t.filter fun c => !isStripChar c, c.toNat < 128 :=
    fun c hc => hascii c (List.mem_of_mem_filter hc)
  have hlatin : (t.filter fun c => !isStripChar c).map latinDigit =
      t.filter fun c => !isStripChar c := by
    calc (t.filter fun c => !isStripChar c).map latinDigit
        = (t.filter fun c => !isStripChar c).map id := List.map_congr_left fun c hc => by
          have hc' := hkept c hc
          unfold latinDigit
          rw [if_neg (by omega)]
          rfl
      _ = t.filter fun c => !isStripChar c := List.map_id _
  unfold identifierValue
  rw [filter_strip hspace, hlatin, u.upper_ascii _ hkept]

theorem normalizeStudentIdentifier_self {t : Text} (h : isStudentIdentifier t = true) :
    u.normalizeStudentIdentifier t = .ok t := by
  obtain ⟨-, -, hchars⟩ := isStudentIdentifier_iff.mp h
  have hkept : ∀ c ∈ t, KeptChar c := fun c hc => keptChar_of_isIdentifierChar (hchars c hc)
  have hascii : ∀ c ∈ t, c.toNat < 128 := fun c hc => (hkept c hc).1
  refine u.normalizeStudentIdentifier_eq_ok.mpr ⟨?_, h⟩
  rw [u.nfkc_ascii t hascii, u.identifierValue_eq hascii,
    List.filter_eq_self.mpr fun c hc => by rw [(hkept c hc).2.1]; rfl]
  calc t.map Char.toUpper = t.map id :=
        List.map_congr_left fun c hc => (hkept c hc).2.2.2.2
    _ = t := List.map_id t

/-! ## What a row reads -/

def readIdentifier (str : Text) : Except ValidationError Text :=
  u.normalizeStudentIdentifier (u.normalizeImportNationalId str)

theorem readIdentifier_empty {str : Text} (h : u.normalizeDigits str = []) :
    u.readIdentifier str = .error invalidStudentIdentifier := by
  have hclean : u.normalizeImportNationalId str = [] := by
    unfold normalizeImportNationalId
    rw [h]
    rfl
  have hvalue : u.identifierValue (u.nfkc []) = [] := by
    rw [u.nfkc_nil, u.identifierValue_eq fun c hc => by simp at hc]
    rfl
  unfold readIdentifier
  rw [hclean, normalizeStudentIdentifier_eq, hvalue]
  rfl

variable (other : FieldRules) {mapping : ColumnMapping} {i rowNumber : ℕ}
  {values : List (Option CellValue)} {cell : CellValue}

theorem cell_nationalId (hmapping : mapping .nationalId = some i)
    (hcell : values[i]? = some (some cell)) :
    RawRow.cell (values.map fun value => value.map fun cell => String.ofList cell.str) mapping
      .nationalId = some (String.ofList cell.str) := by
  unfold RawRow.cell
  rw [hmapping, Option.bind_some, List.getElem?_map, hcell]
  rfl

theorem fieldRules_identifier (str : Text) :
    (u.fieldRules other).normalizeStudentIdentifier (String.ofList str) =
      ((u.readIdentifier str).map String.ofList).toOption := by
  unfold fieldRules readIdentifier
  dsimp only
  rw [String.toList_ofList]

theorem fieldRules_digits {str : Text} (h : u.normalizeDigits str ≠ []) :
    (some (String.ofList str)).elim "" (u.fieldRules other).normalizeDigits ≠ "" := by
  unfold fieldRules
  dsimp only [Option.elim]
  rw [String.toList_ofList]
  intro hempty
  exact h (String.ofList_injective hempty)

theorem identity_ok {str identifier : Text} (h : u.readIdentifier str = .ok identifier)
    (number : Option String) :
    ((u.fieldRules other).identity (some (String.ofList str)) number).1.1 =
      other.nationalIdLookupHash (String.ofList identifier) := by
  have hdigits : u.normalizeDigits str ≠ [] := by
    intro hempty
    rw [u.readIdentifier_empty hempty] at h
    cases h
  unfold FieldRules.identity
  rw [if_pos (u.fieldRules_digits other hdigits), Option.bind_some, u.fieldRules_identifier, h]
  rfl

theorem identity_error {str : Text} {e : ValidationError} (h : u.readIdentifier str = .error e)
    (hdigits : u.normalizeDigits str ≠ []) (number : Option String) :
    (u.fieldRules other).identity (some (String.ofList str)) number =
      (("", ""), [.invalidNationalId]) := by
  unfold FieldRules.identity
  rw [if_pos (u.fieldRules_digits other hdigits), Option.bind_some, u.fieldRules_identifier, h]
  rfl

theorem buildRow_hash (hmapping : mapping .nationalId = some i)
    (hcell : values[i]? = some (some cell)) {identifier : Text}
    (h : u.readIdentifier cell.str = .ok identifier) :
    (u.buildRow other mapping rowNumber values).nationalIdHash =
      other.nationalIdLookupHash (String.ofList identifier) := by
  have hraw := cell_nationalId hmapping hcell
  unfold buildRow buildNormalizedRow
  dsimp only
  rw [hraw]
  exact u.identity_ok other h _

theorem buildRow_refused (hmapping : mapping .nationalId = some i)
    (hcell : values[i]? = some (some cell)) {e : ValidationError}
    (h : u.readIdentifier cell.str = .error e) (hdigits : u.normalizeDigits cell.str ≠ []) :
    (u.buildRow other mapping rowNumber values).nationalIdHash = "" ∧
      .invalidNationalId ∈ (u.buildRow other mapping rowNumber values).errors := by
  have hraw := cell_nationalId hmapping hcell
  unfold buildRow buildNormalizedRow
  dsimp only
  rw [hraw, u.identity_error other h hdigits]
  exact ⟨rfl, List.mem_append_right _ List.mem_cons_self⟩

end UnicodeRules

/-! ## What a cell displays -/

def CellValue.Displays : CellValue → Text → Prop
  | .text t, plain => displayed t = plain
  | .int n, plain => 0 ≤ n ∧ (toString n).toList = plain
  | .float f, plain => f.negative = false ∧ f.digits.length ≤ f.decpt.toNat ∧
    f.digits ++ List.replicate (f.decpt.toNat - f.digits.length) '0' = plain
  | .other _, _ => False

/-- The cell has a float below `10 ^ 16`, which `repr` writes with a decimal point and no
exponent. -/
def CellValue.IsFixedFloat : CellValue → Prop
  | .float f => f.decpt ≤ 16
  | _ => False

def isNumberChar (c : Char) : Bool := c.isDigit || c = '.' || c = 'e' || c = '+'

theorem isNumberChar_of_isDigit {c : Char} (h : c.isDigit = true) : isNumberChar c = true := by
  simp [isNumberChar, h]

theorem isNumberChar_plain {c : Char} (h : isNumberChar c = true) :
    c.toNat < 128 ∧ isDecoration c = false := by
  simp only [isNumberChar, Bool.or_eq_true, decide_eq_true_eq] at h
  rcases h with ((h | rfl) | rfl) | rfl
  · have hkept := keptChar_of_isIdentifierChar (isIdentifierChar_of_isDigit h)
    exact ⟨hkept.1, hkept.2.2.1⟩
  · decide
  · decide
  · decide

theorem isDigit_toString {n : ℤ} (hn : 0 ≤ n) : ∀ c ∈ (toString n).toList, c.isDigit = true := by
  obtain ⟨m, rfl⟩ := Int.eq_ofNat_of_zero_le hn
  intro c hc
  have hdigits : (toString (m : ℤ)).toList = Nat.toDigits 10 m := by
    show (Nat.repr m).toList = _
    rw [Nat.repr, String.toList_ofList]
  rw [hdigits] at hc
  exact Nat.isDigit_of_mem_toDigits (by decide) (by decide) hc

namespace UnicodeRules

variable (u : UnicodeRules)

theorem readIdentifier_eq (str : Text) :
    u.readIdentifier str = u.normalizeStudentIdentifier (displayed (u.nfkc str)) := by
  unfold readIdentifier
  rw [u.normalizeImportNationalId_eq]

theorem normalizeStudentIdentifier_congr {a b : Text} (h : u.nfkc a = u.nfkc b) :
    u.normalizeStudentIdentifier a = u.normalizeStudentIdentifier b := by
  rw [normalizeStudentIdentifier_eq, normalizeStudentIdentifier_eq, h]

theorem readIdentifier_text {t : Text} (hplain : u.Plain (displayed t)) :
    u.readIdentifier t = u.normalizeStudentIdentifier (displayed t) := by
  rw [readIdentifier_eq]
  exact u.normalizeStudentIdentifier_congr (u.nfkc_displayed hplain)

theorem readIdentifier_number {t : Text} (h : ∀ c ∈ t, isNumberChar c = true) :
    u.readIdentifier t = u.normalizeStudentIdentifier t := by
  rw [readIdentifier_eq, u.nfkc_ascii t fun c hc => (isNumberChar_plain (h c hc)).1,
    displayed_eq_self fun c hc => (isNumberChar_plain (h c hc)).2]

theorem identifierValue_number {t : Text} (h : ∀ c ∈ t, isNumberChar c = true) :
    u.identifierValue (u.nfkc t) = (t.filter fun c => !isStripChar c).map Char.toUpper := by
  have hascii : ∀ c ∈ t, c.toNat < 128 := fun c hc => (isNumberChar_plain (h c hc)).1
  rw [u.nfkc_ascii t hascii, u.identifierValue_eq hascii]

theorem digits_value {t : Text} (h : ∀ c ∈ t, c.isDigit = true) :
    (t.filter fun c => !isStripChar c).map Char.toUpper = t := by
  have hkept : ∀ c ∈ t, KeptChar c :=
    fun c hc => keptChar_of_isIdentifierChar (isIdentifierChar_of_isDigit (h c hc))
  rw [List.filter_eq_self.mpr fun c hc => by rw [(hkept c hc).2.1]; rfl]
  calc t.map Char.toUpper = t.map id := List.map_congr_left fun c hc => (hkept c hc).2.2.2.2
    _ = t := List.map_id t

theorem identifier_of_digits {plain identifier : Text} (h : ∀ c ∈ plain, c.isDigit = true)
    (haccepted : u.normalizeStudentIdentifier plain = .ok identifier) : identifier = plain := by
  obtain ⟨hvalue, -⟩ := u.normalizeStudentIdentifier_eq_ok.mp haccepted
  rw [← hvalue, u.identifierValue_number fun c hc => isNumberChar_of_isDigit (h c hc),
    digits_value h]

end UnicodeRules

/-! ## Floats -/

section Floats

variable (u : UnicodeRules) {f : FloatCell} {plain identifier : Text}

theorem digits_of_displays (h : (CellValue.float f).Displays plain) :
    ∀ c ∈ plain, c.isDigit = true := by
  obtain ⟨-, -, rfl⟩ := h
  intro c hc
  rcases List.mem_append.mp hc with hc | hc
  · exact f.digits_latin c hc
  · rw [List.eq_of_mem_replicate hc]
    decide

theorem length_of_displays (h : (CellValue.float f).Displays plain) :
    plain.length = f.decpt.toNat := by
  obtain ⟨-, hle, rfl⟩ := h
  rw [List.length_append, List.length_replicate]
  omega

theorem decpt_pos (h : (CellValue.float f).Displays plain) : 0 < f.decpt := by
  have hne : 0 < f.digits.length := List.length_pos_of_ne_nil f.digits_ne
  have hle := h.2.1
  omega

theorem repr_fixed (h : (CellValue.float f).Displays plain) (hfixed : f.decpt ≤ 16) :
    f.repr = plain ++ ['.', '0'] := by
  have hpos := decpt_pos h
  obtain ⟨hneg, hle, rfl⟩ := h
  unfold FloatCell.repr FloatCell.magnitude
  rw [if_neg (by simp [hneg]), if_pos ⟨by omega, hfixed⟩, if_neg (by omega), if_pos hle]

theorem readIdentifier_fixed (h : (CellValue.float f).Displays plain) (hfixed : f.decpt ≤ 16)
    (haccepted : u.normalizeStudentIdentifier plain = .ok identifier) :
    u.readIdentifier f.repr = .ok (plain ++ ['0']) ∧ isStudentIdentifier (plain ++ ['0']) := by
  have hdigits := digits_of_displays h
  have hlength := length_of_displays h
  obtain rfl := u.identifier_of_digits hdigits haccepted
  obtain ⟨hlow, -, hchars⟩ :=
    isStudentIdentifier_iff.mp (u.normalizeStudentIdentifier_eq_ok.mp haccepted).2
  have hnumber : ∀ c ∈ identifier ++ ['.', '0'], isNumberChar c = true := by
    intro c hc
    rcases List.mem_append.mp hc with hc | hc
    · exact isNumberChar_of_isDigit (hdigits c hc)
    · have hpoint : ['.', '0'].all isNumberChar = true := by decide
      exact List.all_eq_true.mp hpoint c hc
  have hidentifier : isStudentIdentifier (identifier ++ ['0']) = true := by
    refine isStudentIdentifier_iff.mpr ⟨?_, ?_, fun c hc => ?_⟩
    · rw [List.length_append]
      omega
    · rw [List.length_append, hlength, List.length_singleton]
      omega
    · rcases List.mem_append.mp hc with hc | hc
      · exact hchars c hc
      · rw [List.mem_singleton.mp hc]
        decide
  refine ⟨?_, hidentifier⟩
  rw [repr_fixed h hfixed, u.readIdentifier_number hnumber]
  refine u.normalizeStudentIdentifier_eq_ok.mpr ⟨?_, hidentifier⟩
  rw [u.identifierValue_number hnumber, List.filter_append, List.map_append,
    UnicodeRules.digits_value hdigits]
  rfl

theorem repr_exponent (h : (CellValue.float f).Displays plain) (hfixed : ¬ f.decpt ≤ 16) :
    '+' ∈ f.repr ∧ ∀ c ∈ f.repr, isNumberChar c = true := by
  have hdigit : ∀ c ∈ f.digits, isNumberChar c = true :=
    fun c hc => isNumberChar_of_isDigit (f.digits_latin c hc)
  have hexponent : ∀ c ∈ exponentDigits (f.decpt - 1).natAbs, isNumberChar c = true := by
    have hnat : ∀ c ∈ (toString (f.decpt - 1).natAbs).toList, isNumberChar c = true := by
      intro c hc
      have htext := isDigit_toString (Int.natCast_nonneg (f.decpt - 1).natAbs) c hc
      exact isNumberChar_of_isDigit htext
    unfold exponentDigits
    intro c hc
    dsimp only at hc
    split at hc
    · rcases List.mem_cons.mp hc with rfl | hc
      · decide
      · exact hnat c hc
    · exact hnat c hc
  obtain ⟨hneg, -, -⟩ := h
  have hpositive : ¬ f.decpt - 1 < 0 := by omega
  unfold FloatCell.repr FloatCell.magnitude
  rw [if_neg (by simp [hneg]), if_neg (by omega)]
  dsimp only
  rw [if_neg hpositive]
  constructor
  · simp
  · intro c hc
    simp only [List.mem_append] at hc
    rcases hc with ((hc | hc) | hc) | hc
    · exact hdigit c (List.mem_of_mem_take hc)
    · split at hc
      · simp at hc
      · rcases List.mem_cons.mp hc with rfl | hc
        · decide
        · exact hdigit c (List.mem_of_mem_drop hc)
    · have hsign : ['e', '+'].all isNumberChar = true := by decide
      exact List.all_eq_true.mp hsign c hc
    · exact hexponent c hc

theorem readIdentifier_exponent (h : (CellValue.float f).Displays plain)
    (hfixed : ¬ f.decpt ≤ 16) :
    u.readIdentifier f.repr = .error invalidStudentIdentifier ∧
      u.normalizeDigits f.repr ≠ [] := by
  obtain ⟨hplus, hnumber⟩ := repr_exponent h hfixed
  constructor
  · rw [u.readIdentifier_number hnumber, u.normalizeStudentIdentifier_eq,
      u.identifierValue_number hnumber, if_neg]
    intro hidentifier
    obtain ⟨-, -, hchars⟩ := isStudentIdentifier_iff.mp hidentifier
    have hmem : '+' ∈ (f.repr.filter fun c => !isStripChar c).map Char.toUpper :=
      List.mem_map.mpr ⟨'+', List.mem_filter.mpr ⟨hplus, by decide⟩, by decide⟩
    exact absurd (hchars '+' hmem) (by decide)
  · intro hnil
    have hclean : u.normalizeImportNationalId f.repr = [] := by
      unfold UnicodeRules.normalizeImportNationalId
      rw [hnil]
      rfl
    rw [u.normalizeImportNationalId_eq,
      u.nfkc_ascii _ fun c hc => (isNumberChar_plain (hnumber c hc)).1,
      displayed_eq_self fun c hc => (isNumberChar_plain (hnumber c hc)).2] at hclean
    rw [hclean] at hplus
    simp at hplus

end Floats

/-! ## Rows -/

/-- The row reads the cell of its identifier as the identifier, or reports an error, and never has
the hash of another identifier. -/
structure ReadsSame (hash : String → String) (row : NormalizedRow) (identifier : Text) : Prop where
  same : row.nationalIdHash = hash (String.ofList identifier) ∨ row.errors ≠ []
  noOther : ∀ other, isStudentIdentifier other = true → other ≠ identifier →
    row.nationalIdHash ≠ hash (String.ofList other)

/-- Normalizing is idempotent, and its results are the texts of the pattern. -/
structure IdentifierForms (u : UnicodeRules) : Prop where
  idempotent : ∀ raw identifier, u.normalizeStudentIdentifier raw = .ok identifier →
    u.normalizeStudentIdentifier identifier = .ok identifier
  results : ∀ identifier, (∃ raw, u.normalizeStudentIdentifier raw = .ok identifier) ↔
    isStudentIdentifier identifier = true

theorem identifierForms (u : UnicodeRules) : IdentifierForms u := by
  constructor
  · intro raw identifier h
    exact u.normalizeStudentIdentifier_self (u.normalizeStudentIdentifier_eq_ok.mp h).2
  · intro identifier
    constructor
    · rintro ⟨raw, h⟩
      exact (u.normalizeStudentIdentifier_eq_ok.mp h).2
    · exact fun h => ⟨identifier, u.normalizeStudentIdentifier_self h⟩

/-- Different identifiers have different hashes. -/
def CollisionFree (hash : String → String) : Prop :=
  ∀ a b : Text, isStudentIdentifier a = true → isStudentIdentifier b = true →
    hash (String.ofList a) = hash (String.ofList b) → a = b

section Rows

variable (u : UnicodeRules) (other : FieldRules) {mapping : ColumnMapping} {i rowNumber : ℕ}
  {values : List (Option CellValue)} {cell : CellValue} {plain identifier : Text}

theorem readsSame_of_read (hfree : CollisionFree other.nationalIdLookupHash)
    (hmapping : mapping .nationalId = some i) (hcell : values[i]? = some (some cell))
    (h : u.readIdentifier cell.str = .ok identifier) :
    ReadsSame other.nationalIdLookupHash (u.buildRow other mapping rowNumber values)
      identifier := by
  have hhash : (u.buildRow other mapping rowNumber values).nationalIdHash =
      other.nationalIdLookupHash (String.ofList identifier) :=
    u.buildRow_hash other hmapping hcell h
  refine ⟨.inl hhash, fun another hanother hne heq => ?_⟩
  have hidentifier : isStudentIdentifier identifier = true := by
    unfold UnicodeRules.readIdentifier at h
    exact (u.normalizeStudentIdentifier_eq_ok.mp h).2
  rw [hhash] at heq
  exact hne (hfree identifier another hidentifier hanother heq).symm

theorem readsSame_of_refused (hmapping : mapping .nationalId = some i)
    (hcell : values[i]? = some (some cell)) {e : ValidationError}
    (h : u.readIdentifier cell.str = .error e) (hdigits : u.normalizeDigits cell.str ≠ []) :
    ReadsSame other.nationalIdLookupHash (u.buildRow other mapping rowNumber values)
      identifier := by
  have hrefused : (u.buildRow other mapping rowNumber values).nationalIdHash = "" ∧
      .invalidNationalId ∈ (u.buildRow other mapping rowNumber values).errors :=
    u.buildRow_refused other hmapping hcell h hdigits
  obtain ⟨hhash, herror⟩ := hrefused
  refine ⟨.inr (List.ne_nil_of_mem herror), fun another _ _ heq => ?_⟩
  have hlength := other.nationalIdLookupHash_length (String.ofList another)
  rw [← heq, hhash] at hlength
  exact absurd hlength (by decide)

/-- **One reading of each identifier.** A cell that displays a plain identifier is read as the
identifier, or its row reports an error, exactly when the cell is not a float below `10 ^ 16`. -/
theorem readsSame_iff (hfree : CollisionFree other.nationalIdLookupHash)
    (haccepted : u.normalizeStudentIdentifier plain = .ok identifier) (hplain : u.Plain plain)
    (hmapping : mapping .nationalId = some i) (hcell : values[i]? = some (some cell))
    (hdisplays : cell.Displays plain) :
    ReadsSame other.nationalIdLookupHash (u.buildRow other mapping rowNumber values) identifier ∧
      IdentifierForms u ↔ ¬ cell.IsFixedFloat := by
  cases cell with
  | text t =>
    have hread : u.readIdentifier t = .ok identifier := by
      rw [← hdisplays] at hplain haccepted
      rw [u.readIdentifier_text hplain, haccepted]
    exact iff_of_true
      ⟨readsSame_of_read u other hfree hmapping hcell hread, identifierForms u⟩ id
  | int n =>
    obtain ⟨hn, rfl⟩ := hdisplays
    have hread : u.readIdentifier (toString n).toList = .ok identifier := by
      rw [u.readIdentifier_number fun c hc => isNumberChar_of_isDigit (isDigit_toString hn c hc),
        haccepted]
    exact iff_of_true
      ⟨readsSame_of_read u other hfree hmapping hcell hread, identifierForms u⟩ id
  | float f =>
    by_cases hfixed : f.decpt ≤ 16
    · refine iff_of_false (fun h => ?_) (not_not_intro hfixed)
      obtain ⟨hread, hother⟩ := readIdentifier_fixed u hdisplays hfixed haccepted
      obtain rfl := u.identifier_of_digits (digits_of_displays hdisplays) haccepted
      refine h.1.noOther _ hother (by simp) ?_
      exact u.buildRow_hash other hmapping hcell hread
    · obtain ⟨hread, hdigits⟩ := readIdentifier_exponent u hdisplays hfixed
      exact iff_of_true
        ⟨readsSame_of_refused u other hmapping hcell hread hdigits, identifierForms u⟩ hfixed
  | other str => exact hdisplays.elim

theorem plain_of_ascii (h : plain.all (fun c => decide (c.toNat < 128) && !isDecoration c) = true) :
    u.Plain plain := by
  have hchar : ∀ c ∈ plain, c.toNat < 128 ∧ isDecoration c = false := by
    simpa using h
  intro a ha c hc
  rw [u.nfkc_ascii a fun c hc => (hchar c (ha.subset hc)).1] at hc
  exact (hchar c (ha.subset hc)).2

end Rows

theorem decorationForm_idem {c : Char} (hc : isDecoration c = true) :
    isDecoration (decorationForm c) = true ∧
      decorationForm (decorationForm c) = decorationForm c := by
  have hform : decorationForm c = ' ' ∨ decorationForm c = Char.ofNat 0x2010 ∨
      decorationForm c = c := by
    unfold decorationForm
    dsimp only
    split
    · exact .inl rfl
    · split
      · exact .inr (.inl rfl)
      · exact .inr (.inr rfl)
  rcases hform with h | h | h
  · rw [h]
    decide
  · rw [h]
    decide
  · rw [h]
    exact ⟨hc, h⟩

def simpleForm (c : Char) : Char := if isDecoration c then decorationForm c else c

theorem simpleForm_idem (c : Char) : simpleForm (simpleForm c) = simpleForm c := by
  unfold simpleForm
  by_cases hc : isDecoration c = true
  · obtain ⟨hdec, hform⟩ := decorationForm_idem hc
    rw [if_pos hc, if_pos hdec, hform]
  · rw [if_neg hc, if_neg hc]

theorem simpleForm_ascii {c : Char} (h : c.toNat < 128) : simpleForm c = c := by
  unfold simpleForm decorationForm
  dsimp only
  split
  · rw [if_neg (by omega), if_neg (by omega)]
  · rfl

/-- The tables as far as texts of ASCII characters and decorations need them. -/
def simpleTables : UnicodeRules where
  nfkc := fun t => t.map simpleForm
  upper := fun t => t.map Char.toUpper
  nfkc_append := by
    intro a b
    rw [List.map_append, List.map_append, List.map_map, List.map_map]
    have hidem : simpleForm ∘ simpleForm = simpleForm := funext simpleForm_idem
    rw [hidem]
  nfkc_ascii := by
    intro t h
    calc t.map simpleForm = t.map id := List.map_congr_left fun c hc => simpleForm_ascii (h c hc)
      _ = t := List.map_id t
  nfkc_decoration := by
    intro a d b hd
    rw [List.map_append, List.map_cons]
    unfold simpleForm
    rw [if_pos hd]
  upper_ascii := fun _ _ => rfl

def paddedHash (identifier : String) : String :=
  String.ofList ((identifier.toList ++ List.replicate 64 '-').take 64)

theorem paddedHash_length (identifier : String) : (paddedHash identifier).length = 64 := by
  unfold paddedHash
  rw [String.length_ofList, List.length_take, List.length_append, List.length_replicate]
  omega

def cellFields : FieldRules where
  normalizeText := id
  normalizeDigits := id
  normalizeGradeLabel := fun value => (value, value, 1)
  normalizeSectionLabel := fun value => (value, value)
  normalizeGuardianMobile := id
  normalizeStudentIdentifier := some
  nationalIdLookupHash := paddedHash
  nationalIdLookupHash_length := paddedHash_length

theorem collisionFree_paddedHash : CollisionFree paddedHash := by
  intro a b ha hb heq
  obtain ⟨-, hlenA, hcharsA⟩ := isStudentIdentifier_iff.mp ha
  obtain ⟨-, hlenB, hcharsB⟩ := isStudentIdentifier_iff.mp hb
  have hread : ∀ t : Text, (∀ c ∈ t, isIdentifierChar c = true) → t.length ≤ 20 →
      (paddedHash (String.ofList t)).toList.takeWhile isIdentifierChar = t := by
    intro t hchars hlen
    unfold paddedHash
    rw [String.toList_ofList, String.toList_ofList, List.take_append,
      List.take_of_length_le (by omega), List.take_replicate, List.takeWhile_append_of_pos hchars,
      List.takeWhile_replicate, if_neg (by decide), List.append_nil]
  rw [← hread a hcharsA hlenA, ← hread b hcharsB hlenB, heq]

def sampleColumns : ColumnMapping
  | .fullName => some 0
  | .grade => some 1
  | .sectionField => some 2
  | .nationalId => some 3
  | _ => none

def sampleCells (identifier : CellValue) : List (Option CellValue) :=
  [some (.text "سعد".toList), some (.text "ELEM_1".toList), some (.text "1".toList),
    some identifier]

/-- A text with a space, a zero-width character, a dash and Arabic-Indic digits. -/
theorem readsSame_of_text :
    ReadsSame paddedHash
      (simpleTables.buildRow cellFields sampleColumns 1
        (sampleCells (.text " ١٢٣-456\u200c ٧٨٩-0".toList))) "1234567890".toList ∧
      IdentifierForms simpleTables := by
  have haccepted : simpleTables.normalizeStudentIdentifier "1234567890".toList =
      .ok "1234567890".toList := by
    decide +kernel
  have hplain : simpleTables.Plain "1234567890".toList :=
    plain_of_ascii simpleTables (by decide +kernel)
  have hcolumn : sampleColumns .nationalId = some 3 := rfl
  have hdisplays : (CellValue.text " ١٢٣-456\u200c ٧٨٩-0".toList).Displays "1234567890".toList := by
    unfold CellValue.Displays
    decide +kernel
  exact (readsSame_iff simpleTables cellFields collisionFree_paddedHash haccepted hplain hcolumn
    rfl hdisplays).mpr id

def sampleFloat : FloatCell where
  digits := "123456789".toList
  decpt := 10
  digits_ne := by decide
  digits_latin := List.all_eq_true.mp (by decide)

/-- A float cell that shows 1234567890 is read as the identifier 12345678900, without an error. -/
theorem readsOther_of_float :
    (CellValue.float sampleFloat).Displays "1234567890".toList ∧
      simpleTables.normalizeStudentIdentifier "1234567890".toList = .ok "1234567890".toList ∧
      (simpleTables.buildRow cellFields sampleColumns 1
        (sampleCells (.float sampleFloat))).errors = [] ∧
      (simpleTables.buildRow cellFields sampleColumns 1
        (sampleCells (.float sampleFloat))).nationalIdHash = paddedHash "12345678900" ∧
      ¬ ReadsSame paddedHash (simpleTables.buildRow cellFields sampleColumns 1
        (sampleCells (.float sampleFloat))) "1234567890".toList := by
  have hhash : (simpleTables.buildRow cellFields sampleColumns 1
      (sampleCells (.float sampleFloat))).nationalIdHash = paddedHash "12345678900" := by
    decide +kernel
  refine ⟨⟨rfl, by decide, by decide +kernel⟩, by decide +kernel, by decide +kernel, hhash,
    fun h => ?_⟩
  exact h.noOther "12345678900".toList (by decide) (by decide) hhash

end SchoolPlatform
