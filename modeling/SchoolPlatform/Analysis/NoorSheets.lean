import Mathlib.Data.List.Forall2
import SchoolPlatform.Model.NoorReport

/-!
# Sheets of a report

What the choice of columns and of the header row gives, whatever the sheet: no column belongs to
two fields, the header row is one of the rows scanned, and the rows below it are those of larger
index. A row of a page keeps its cells column by column.
-/

namespace SchoolPlatform.Noor

theorem mem_fields (f : ImportField) : f ∈ fields := by
  cases f <;> decide

/-- Columns of some headers, no two fields in one. -/
structure Mapped (width : ℕ) (mapping : ColumnMapping) : Prop where
  inRange : ∀ f i, mapping f = some i → i < width
  injective : ∀ f g i, mapping f = some i → mapping g = some i → f = g

theorem Mapped.mapField {cleaned : List Text} {mapping : ColumnMapping}
    (h : Mapped cleaned.length mapping) (field : ImportField) :
    Mapped cleaned.length (mapField cleaned mapping field) := by
  unfold Noor.mapField
  cases hfound : (aliases field).findSome? (aliasColumn cleaned mapping) with
  | none => exact h
  | some i =>
    obtain ⟨name, -, hname⟩ := List.exists_of_findSome?_eq_some hfound
    have hrange : i < cleaned.length := List.mem_range.mp (List.mem_of_find?_eq_some hname)
    have hfree : ∀ f, mapping f ≠ some i := by
      intro f hf
      have htest := List.find?_some hname
      simp only [Bool.and_eq_true, Bool.not_eq_true', List.any_eq_false, decide_eq_true_eq] at htest
      exact htest.2 f (mem_fields f) hf
    constructor
    · intro f j hj
      dsimp only at hj
      split_ifs at hj with hf
      · rw [← Option.some.inj hj]
        exact hrange
      · exact h.inRange f j hj
    · intro f g j hf hg
      dsimp only at hf hg
      split_ifs at hf hg with hff hgf hgf
      · rw [hff, hgf]
      · rw [Option.some.inj hf] at hfree
        exact absurd hg (hfree g)
      · rw [Option.some.inj hg] at hfree
        exact absurd hf (hfree f)
      · exact h.injective f g j hf hg

theorem suggestMapping_mapped (headers : List Text) :
    Mapped headers.length (suggestMapping headers) := by
  have hfold : ∀ (fs : List ImportField) (mapping : ColumnMapping),
      Mapped (headers.map clean).length mapping →
        Mapped (headers.map clean).length (fs.foldl (mapField (headers.map clean)) mapping) := by
    intro fs
    induction fs with
    | nil => exact fun _ h => h
    | cons f fs ih => exact fun mapping h => ih _ (h.mapField f)
  have hnone : Mapped (headers.map clean).length fun _ => none := by
    constructor
    · intro f i h
      cases h
    · intro f g i h
      cases h
  have hmapped := hfold fields _ hnone
  rwa [List.length_map] at hmapped

theorem maxBy_mem {α : Type} (key : α → List ℤ) (best : α) (rest : List α) :
    maxBy key best rest ∈ best :: rest := by
  induction rest generalizing best with
  | nil => exact List.mem_singleton.mpr rfl
  | cons x xs ih =>
    unfold maxBy
    have hmem := ih (if lexBelow (key best) (key x) then x else best)
    split_ifs at hmem ⊢ with hbelow
    · exact List.mem_cons_of_mem _ hmem
    · rcases List.mem_cons.mp hmem with hbest | hxs
      · rw [hbest]
        exact List.mem_cons_self
      · exact List.mem_cons_of_mem _ (List.mem_cons_of_mem _ hxs)

theorem selectHeaderRow_mem {candidates : List (ℕ × List Text)} (h : candidates ≠ []) :
    selectHeaderRow candidates ∈ candidates := by
  cases candidates with
  | nil => exact absurd rfl h
  | cons candidate rest =>
    unfold selectHeaderRow
    dsimp only
    split_ifs
    · exact maxBy_mem _ _ _
    · exact maxBy_mem _ _ _

def Sheet.row (sheet : Sheet) (i : ℕ) : SheetRow := sheet.rows[i]?.getD []

def Sheet.header (sheet : Sheet) : ℕ × List Text := selectHeaderRow (headerCandidates sheet.rows)

theorem Sheet.exists_header {sheet : Sheet} (h : sheet.header.2 ≠ []) :
    ∃ i, i < sheet.rows.length ∧ sheet.header.1 = i + 1 ∧
      sheet.header.2 = rowHeaders (sheet.row i) := by
  have hne : headerCandidates sheet.rows ≠ [] := by
    intro hnone
    unfold Sheet.header at h
    rw [hnone] at h
    exact h rfl
  have hmem := selectHeaderRow_mem hne
  obtain ⟨⟨values, number⟩, hrow, hsome⟩ := List.mem_filterMap.mp hmem
  rw [Option.ite_none_right_eq_some] at hsome
  have hheader : (number, rowHeaders values) = sheet.header := Option.some.inj hsome.2
  obtain ⟨hone, hget⟩ := List.mem_zipIdx_iff_le_and_getElem?_sub.mp hrow
  rw [List.getElem?_take] at hget
  split_ifs at hget with hscanned
  dsimp only at hone hget
  refine ⟨number - 1, (List.getElem?_eq_some_iff.mp hget).1, ?_, ?_⟩
  · rw [← hheader]
    exact (Nat.sub_add_cancel hone).symm
  · rw [← hheader, Sheet.row, hget]
    rfl

theorem Sheet.rows_eq (sheet : Sheet) :
    sheet.rows = (List.range sheet.rows.length).map sheet.row := by
  refine List.ext_getElem (by simp) fun i hi hi' => ?_
  rw [List.getElem_map, List.getElem_range, Sheet.row, List.getElem?_eq_getElem hi]
  rfl

theorem drop_range (m n : ℕ) :
    (List.range m).drop n = (List.range m).filter fun i => n ≤ i := by
  induction m with
  | zero => simp
  | succ m ih =>
    rw [List.range_succ, List.drop_append, List.filter_append, ih, List.length_range]
    congr 1
    by_cases hn : n ≤ m
    · have hsub : n - m = 0 := by omega
      simp [hn, hsub]
    · have hsub : n - m = (n - m - 1) + 1 := by omega
      rw [hsub]
      simp [hn]

theorem Sheet.below_eq (sheet : Sheet) (n : ℕ) :
    sheet.below n = ((List.range sheet.rows.length).filter fun i => n ≤ i).map sheet.row := by
  unfold Sheet.below
  rw [← drop_range, List.map_drop, ← sheet.rows_eq]

def cellAt (values : SheetRow) (j : ℕ) : Cell := values[j]?.getD .empty

theorem length_trimmedTo (width : ℕ) (values : SheetRow) :
    (trimmedTo width values).length = width := by
  have hle : ((values.take width).rdropWhile Cell.isBlank).length ≤ width := by
    have hprefix := (List.rdropWhile_prefix Cell.isBlank (values.take width)).length_le
    have htake := List.length_take_le width values
    omega
  unfold trimmedTo
  dsimp only
  rw [List.length_append, List.length_replicate]
  omega

theorem cellAt_trimmedTo {width : ℕ} (values : SheetRow) {j : ℕ} (hj : j < width) :
    cellAt (trimmedTo width values) j = cellAt values j ∨
      (cellAt values j).isBlank = true ∧ cellAt (trimmedTo width values) j = .empty := by
  have hsplit : (values.take width).rdropWhile Cell.isBlank ++
      (values.take width).rtakeWhile Cell.isBlank = values.take width :=
    List.rdropWhile_append_rtakeWhile
  have htaken : (values.take width)[j]? = values[j]? := by
    rw [List.getElem?_take, if_pos hj]
  unfold cellAt trimmedTo
  dsimp only
  rw [← htaken]
  by_cases hlt : j < ((values.take width).rdropWhile Cell.isBlank).length
  · left
    rw [List.getElem?_append_left hlt]
    conv_rhs => rw [← hsplit]
    rw [List.getElem?_append_left hlt]
  · right
    have hge := Nat.le_of_not_lt hlt
    rw [List.getElem?_append_right hge]
    constructor
    · conv_lhs => rw [← hsplit]
      rw [List.getElem?_append_right hge]
      cases hcell : ((values.take width).rtakeWhile Cell.isBlank)[j -
          ((values.take width).rdropWhile Cell.isBlank).length]? with
      | none => rfl
      | some c => exact List.mem_rtakeWhile_imp (List.mem_of_getElem? hcell)
    · rw [List.getElem?_replicate]
      split_ifs
      · rfl
      · rfl

@[simp] theorem length_fillColumn (column : Option ℕ) (test : Cell → Bool) (value : Text)
    (values : SheetRow) : (fillColumn column test value values).length = values.length := by
  cases column with
  | none => rfl
  | some i => exact List.length_modify _ _ _

theorem cellAt_fillColumn (column : Option ℕ) (test : Cell → Bool) (value : Text)
    {values : SheetRow} {j : ℕ} (hj : j < values.length) :
    cellAt (fillColumn column test value values) j =
      if column = some j ∧ test (cellAt values j) = true then .text value else cellAt values j := by
  unfold cellAt
  cases column with
  | none => simp [fillColumn]
  | some i =>
    unfold fillColumn
    dsimp only
    rw [List.getElem?_modify, List.getElem?_eq_getElem hj]
    by_cases hij : i = j
    · simp [hij]
    · simp [hij]

end SchoolPlatform.Noor
