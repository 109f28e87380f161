import SchoolPlatform.Analysis.TheoremDuplicateRows
import SchoolPlatform.Model.ImportTasks

/-!
# Every preview can be staged

The message of a staged row is the messages of its errors in one line, and the column of it is
short. A row of a file collects at most six errors, whose messages fit, and a classification gives
a row with errors no further ones (`previewRows_fit`).
-/

/-! ## What a row is classified as -/

namespace SchoolPlatform

variable {rules : TextRules} {r : Registry} {academicYear : ℕ} {row : NormalizedRow} {x : Student}

def NormalizedRow.lastingErrors (row : NormalizedRow) : List RowError :=
  row.errors.filter fun code => code ∉ recomputedErrors

def NormalizedRow.cleared (row : NormalizedRow) : NormalizedRow :=
  { row with errors := row.lastingErrors, possibleDuplicateMasks := none }

def Registry.named (r : Registry) (row : NormalizedRow) : Option Student :=
  (r.studentByHash row.nationalIdHash).or (r.studentByNumber row.studentNumber)

def Registry.conflicting (r : Registry) (row : NormalizedRow) : Bool :=
  identityConflict (r.studentByHash row.nationalIdHash) (r.studentByNumber row.studentNumber) row

theorem categorizeRow_eq (rules : TextRules) (r : Registry) (academicYear : ℕ)
    (row : NormalizedRow) : categorizeRow rules r academicYear row =
      if row.autoResolvedDuplicate = true then
        { row.cleared with status := some .autoResolvedDuplicate, errors := [] }
      else if .duplicateInFile ∈ row.lastingErrors then
        { row.cleared with status := some .duplicateInFile }
      else if row.lastingErrors ≠ [] then { row.cleared with status := some .error }
      else if r.conflicting row = true then row.cleared.refused .identityConflict
      else match r.named row with
        | none => classifyUnknown rules r academicYear row.cleared
        | some student =>
          if student.mergedInto ≠ none then row.cleared.refused .mergedIdentifier
          else classifyMatched rules r academicYear student row.cleared := rfl

def errorsWeight : List RowError → ℕ
  | [] => 0
  | code :: codes => code.message.length + 1 + errorsWeight codes

theorem errorsWeight_append (codes codes' : List RowError) :
    errorsWeight (codes ++ codes') = errorsWeight codes + errorsWeight codes' := by
  induction codes with
  | nil => exact (Nat.zero_add _).symm
  | cons code codes ih =>
    rw [List.cons_append, errorsWeight, errorsWeight, ih]
    omega

theorem errorMessageFor_length_le (codes : List RowError) :
    (errorMessageFor codes).length ≤ errorsWeight codes := by
  induction codes with
  | nil => exact Nat.zero_le _
  | cons code codes ih =>
    cases codes with
    | nil =>
      have hone : errorsWeight [code] = code.message.length + 1 := rfl
      rw [hone]
      exact Nat.le_succ _
    | cons code' codes =>
      have hmore : errorsWeight (code :: code' :: codes) =
          code.message.length + 1 + errorsWeight (code' :: codes) := rfl
      have hspace : " ".length = 1 := by decide +kernel
      have hjoin : errorMessageFor (code :: code' :: codes) =
          code.message ++ " " ++ errorMessageFor (code' :: codes) := rfl
      rw [hmore, hjoin, String.length_append, String.length_append, hspace]
      omega

theorem errorsWeight_filter_le (p : RowError → Bool) (codes : List RowError) :
    errorsWeight (codes.filter p) ≤ errorsWeight codes := by
  induction codes with
  | nil => exact le_rfl
  | cons code codes ih =>
    have hcons : ∀ l : List RowError, errorsWeight (code :: l) =
        code.message.length + 1 + errorsWeight l := fun _ => rfl
    rw [List.filter_cons, hcons]
    split
    · rw [hcons]
      omega
    · omega

theorem errorsWeight_singleton_le (code : RowError) : errorsWeight [code] ≤ 100 := by
  cases code <;> decide +kernel

theorem FieldRules.identity_errors (rules : FieldRules) (nationalId studentNumber : Option String) :
    errorsWeight (rules.identity nationalId studentNumber).2 ≤ 62 := by
  unfold FieldRules.identity
  split
  · split
    · exact Nat.zero_le _
    · decide +kernel
  · split
    · decide +kernel
    · exact Nat.zero_le _

theorem FieldRules.identity_hash (rules : FieldRules) (nationalId studentNumber : Option String) :
    (rules.identity nationalId studentNumber).1.1.length ≤ 64 := by
  unfold FieldRules.identity
  split
  · split
    next identifier _ => exact (rules.nationalIdLookupHash_length identifier).le
    next => exact Nat.zero_le _
  · exact Nat.zero_le _

theorem errorsWeight_ite_le (c : Prop) [Decidable c] (code : RowError) :
    errorsWeight (if c then [code] else []) ≤ errorsWeight [code] := by
  split
  · exact le_rfl
  · exact Nat.zero_le _

theorem buildNormalizedRow_errors (rules : FieldRules) (mapping : ColumnMapping) (rowNumber : ℕ)
    (values : RawRow) :
    errorsWeight (buildNormalizedRow rules mapping rowNumber values).errors ≤ 131 := by
  have hname : errorsWeight [.missingName] = 18 := by decide +kernel
  have hgrade : errorsWeight [.missingGrade] = 12 := by decide +kernel
  have hsection : errorsWeight [.missingSection] = 13 := by decide +kernel
  have hdepartment : errorsWeight [.invalidDepartment] = 26 := by decide +kernel
  unfold buildNormalizedRow
  simp only [errorsWeight_append]
  have h₁ := errorsWeight_ite_le (rules.text (values.cell mapping .fullName) = "") .missingName
  have h₂ := errorsWeight_ite_le (rules.text (values.cell mapping .grade) = "") .missingGrade
  have h₃ := errorsWeight_ite_le (rules.text (values.cell mapping .sectionField) = "")
    .missingSection
  have h₄ := errorsWeight_ite_le (100 < (rules.text (values.cell mapping .department)).length)
    .invalidDepartment
  have h₅ := rules.identity_errors (values.cell mapping .nationalId)
    (rules.normalizeStudentNumber (values.cell mapping .studentNumber))
  omega

/-- A row with the errors that the file gives it. -/
def NormalizedRow.Short (row : NormalizedRow) (weight : ℕ) : Prop :=
  row.nationalIdHash.length ≤ 64 ∧ errorsWeight row.errors ≤ weight

theorem buildNormalizedRow_short (rules : FieldRules) (mapping : ColumnMapping) (rowNumber : ℕ)
    (values : RawRow) : (buildNormalizedRow rules mapping rowNumber values).Short 131 :=
  ⟨rules.identity_hash _ _, buildNormalizedRow_errors rules mapping rowNumber values⟩

theorem NormalizedRow.Short.unmarked {row : NormalizedRow} {weight : ℕ} (h : row.Short weight) :
    row.unmarked.Short weight :=
  ⟨h.1, (errorsWeight_filter_le _ _).trans h.2⟩

theorem NormalizedRow.Short.markRow {row : NormalizedRow} {weight : ℕ} (h : row.Short weight)
    (group : List (ℕ × NormalizedRow)) (index : ℕ) :
    (markRow group index row).Short (weight + 62) := by
  have hmore : row.Short (weight + 62) := ⟨h.1, h.2.trans (Nat.le_add_right _ _)⟩
  have hflag : errorsWeight [.duplicateInFile] = 61 := by decide +kernel
  unfold SchoolPlatform.markRow
  split
  · exact hmore
  · split
    · split
      · exact hmore
      · exact hmore
    · refine ⟨h.1, ?_⟩
      have hweight := h.2
      simp only [errorsWeight_append]
      omega

theorem markDuplicatesInFile_short {rows : List NormalizedRow} {weight : ℕ}
    (h : ∀ row ∈ rows, row.Short weight) :
    ∀ row ∈ markDuplicatesInFile rows, row.Short (weight + 62) := by
  rw [markDuplicatesInFile_eq]
  intro row hrow
  obtain ⟨⟨i, u⟩, hu, rfl⟩ := List.mem_map.mp hrow
  obtain ⟨source, hsource, rfl⟩ := mem_indexedRows.mp hu
  exact (h source (List.mem_of_getElem? hsource)).unmarked.markRow _ _

theorem classifyMatched_errors (rules : TextRules) (r : Registry) (academicYear : ℕ) (x : Student)
    (row : NormalizedRow) : (classifyMatched rules r academicYear x row).errors = row.errors := by
  unfold classifyMatched
  cases r.currentEnrollment x.id academicYear with
  | none => rfl
  | some e =>
    simp only
    split <;> rfl

theorem classifyUnknown_errors (rules : TextRules) (r : Registry) (academicYear : ℕ)
    (row : NormalizedRow) : (classifyUnknown rules r academicYear row).errors = row.errors ∨
      ∃ code, (classifyUnknown rules r academicYear row).errors = row.errors ++ [code] := by
  unfold classifyUnknown
  split
  · simp only
    split
    · exact .inl rfl
    · exact .inr ⟨_, rfl⟩
  · simp only
    split
    · exact .inr ⟨_, rfl⟩
    · exact .inl rfl

theorem categorizeRow_errors (rules : TextRules) (r : Registry) (academicYear : ℕ)
    (row : NormalizedRow) :
    errorsWeight (categorizeRow rules r academicYear row).errors ≤
      max (errorsWeight row.errors) 100 := by
  have hlasting : errorsWeight row.lastingErrors ≤ max (errorsWeight row.errors) 100 :=
    (errorsWeight_filter_le _ _).trans (le_max_left _ _)
  have hone : ∀ code, errorsWeight [code] ≤ max (errorsWeight row.errors) 100 :=
    fun code => (errorsWeight_singleton_le code).trans (le_max_right _ _)
  rw [categorizeRow_eq]
  split
  · exact Nat.zero_le _
  · split
    · exact hlasting
    · split
      · exact hlasting
      next hclean =>
        have hempty : row.cleared.errors = [] := not_not.mp hclean
        split
        · simp only [NormalizedRow.refused, hempty, List.nil_append]
          exact hone _
        · split
          · rcases classifyUnknown_errors rules r academicYear row.cleared with h | ⟨code, h⟩
            · rw [h, hempty]
              exact Nat.zero_le _
            · rw [h, hempty, List.nil_append]
              exact hone code
          · split
            · simp only [NormalizedRow.refused, hempty, List.nil_append]
              exact hone _
            · rw [classifyMatched_errors, hempty]
              exact Nat.zero_le _

theorem categorizeRow_hash (rules : TextRules) (r : Registry) (academicYear : ℕ)
    (row : NormalizedRow) :
    (categorizeRow rules r academicYear row).nationalIdHash = row.nationalIdHash := by
  rw [categorizeRow_eq]
  split
  · rfl
  · split
    · rfl
    · split
      · rfl
      · split
        · rfl
        · split
          · unfold classifyUnknown
            split
            · rfl
            · simp only
              split <;> rfl
          next x _ =>
            split
            · rfl
            · unfold classifyMatched
              cases r.currentEnrollment x.id academicYear with
              | none => rfl
              | some e =>
                simp only
                split <;> rfl

theorem previewRows_fit (fields : FieldRules) (rules : TextRules) (mapping : ColumnMapping)
    (o : Office) (job : StudentImportJob) (raw : List (ℕ × RawRow)) :
    ∀ row ∈ previewRows rules o job
      (raw.map fun entry => buildNormalizedRow fields mapping entry.1 entry.2), row.Fits := by
  have hraw : ∀ row ∈ raw.map fun entry => buildNormalizedRow fields mapping entry.1 entry.2,
      row.Short 131 := by
    intro row hrow
    obtain ⟨entry, -, rfl⟩ := List.mem_map.mp hrow
    exact buildNormalizedRow_short fields mapping entry.1 entry.2
  intro row hrow
  obtain ⟨fresh, hfresh, rfl⟩ := List.mem_map.mp hrow
  obtain ⟨marked, hmarked, rfl⟩ := List.mem_map.mp hfresh
  obtain ⟨hhash, hweight⟩ := markDuplicatesInFile_short hraw marked hmarked
  constructor
  · have hsame : (categorizeRow rules o.registry job.academicYear marked).staged.nationalIdHash =
        marked.nationalIdHash := categorizeRow_hash rules o.registry job.academicYear marked
    rw [hsame]
    exact hhash
  · have hmessage := errorMessageFor_length_le
      (categorizeRow rules o.registry job.academicYear marked).errors
    have herrors := categorizeRow_errors rules o.registry job.academicYear marked
    have hbound : max (errorsWeight marked.errors) 100 ≤ 300 := by omega
    exact hmessage.trans (herrors.trans hbound)

end SchoolPlatform
