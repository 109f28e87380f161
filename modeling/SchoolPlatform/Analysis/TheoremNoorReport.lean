import SchoolPlatform.Analysis.NoorSheets
import SchoolPlatform.Library.FallibleFolds

/-!
# No page of a report is skipped

Every row below a header row that holds a name or an identity should be a row of the table, with
its cells under the headers they had. A file whose sheets disagree on the headers is rejected; but
a sheet without the marks of a report is passed over, and a sheet whose optional headers are
recognised differently is read into other columns. `noor_pages_kept_iff` says exactly when a
report is read whole.
-/

namespace SchoolPlatform.Noor

/-! ## Pages -/

def isTableHeader (headers : List Text) : Bool :=
  (suggestMapping headers .fullName).isSome &&
    identityFields.any fun f => (suggestMapping headers f).isSome

def Sheet.isPageRow (sheet : Sheet) (i : ℕ) : Bool :=
  (List.range i).any fun h => isTableHeader (rowHeaders (sheet.row h)) &&
    isStudentRow (sheet.row i) (suggestMapping (rowHeaders (sheet.row h)))

def Sheet.pageRows (sheet : Sheet) : List ℕ :=
  (List.range sheet.rows.length).filter sheet.isPageRow

def Workbook.pageRows (w : Workbook) : List (Sheet × ℕ) :=
  w.sheets.flatMap fun sheet => sheet.pageRows.map fun i => (sheet, i)

def Sheet.heading (sheet : Sheet) : ImportField → Text
  | .grade => metadataValue sheet.rows "الصف" sheet.header.1
  | .sectionField => metadataValue sheet.rows "الفصل" sheet.header.1
  | .department => metadataValue sheet.rows "القسم" sheet.header.1
  | _ => []

def Sheet.mapping (sheet : Sheet) : ColumnMapping := suggestMapping sheet.header.2

def Sheet.headers (sheet : Sheet) : List Text :=
  sheet.header.2 ++ syntheticHeaders sheet.mapping

def filledFields : List ImportField := [.sectionField, .grade, .department]

def Sheet.headingAt (sheet : Sheet) (j : ℕ) : Text :=
  match filledFields.find? fun f => sheet.mapping f = some j with
  | some f => sheet.heading f
  | none => []

/-- The cells of a row, each with what it is filled from; the columns that the sheet is given are
empty. -/
def Sheet.cells (sheet : Sheet) (values : SheetRow) : List (Text × Cell) :=
  ((List.range sheet.header.2.length).map fun j => (sheet.headingAt j, cellAt values j)) ++
    ((if (sheet.mapping .grade).isNone then [(sheet.heading .grade, .empty)] else []) ++
      if (sheet.mapping .department).isNone then [(sheet.heading .department, .empty)] else [])

structure CellKept (heading : Text) (cell out : Cell) : Prop where
  kept : cell.isBlank = false → out = cell
  filled : cell.isBlank = true → heading ≠ [] → out = .text heading
  blank : cell.isBlank = true → heading = [] → out.isBlank = true

/-- A row of the table keeps a row of a page: under the headers that are announced, which are those
of its sheet, stand its cells. -/
structure RowKept (announced : List Text) (sheet : Sheet) (values out : SheetRow) : Prop where
  headers : headersSignature announced = headersSignature sheet.headers
  cells : List.Forall₂ (fun p c => CellKept p.1 p.2 c) (sheet.cells values) out

structure PagesKept (w : Workbook) (rows : List (ℕ × SheetRow)) : Prop where
  kept : List.Forall₂ (fun p out => RowKept (analyzeImport w).headers p.1 (p.1.row p.2) out)
    w.pageRows (rows.map Prod.snd)
  count : rows.length = (analyzeImport w).detectedRows

def Workbook.isRejected (w : Workbook) : Bool :=
  (w.officialLayouts.any fun layout => w.officialLayouts.head?.any fun first =>
    headersSignature layout.headers ≠ headersSignature first.headers) ||
      importMaxRows < (analyzeImport w).detectedRows

/-- The sheet has the marks of a report, its header row is above the row, which holds a name or an
identity in the columns of this header row. -/
def Sheet.finds (sheet : Sheet) (i : ℕ) : Bool :=
  (detectSheetLayout sheet).isSome && sheet.header.1 ≤ i &&
    isStudentRow (sheet.row i) sheet.mapping

def sameColumns (mapping mapping' : ColumnMapping) : Bool :=
  (mapping .grade).isNone = (mapping' .grade).isNone &&
    (mapping .department).isNone = (mapping' .department).isNone

/-- No value that is false, such as the number zero, stands in the columns of the grade and the
department. -/
def Sheet.noFalse (sheet : Sheet) (i : ℕ) : Bool :=
  [ImportField.grade, .department].all fun f =>
    match sheet.mapping f with
    | some j => !(cellAt (sheet.row i) j).readsBlank || (cellAt (sheet.row i) j).isBlank
    | none => true

def Workbook.firstMapping (w : Workbook) : ColumnMapping :=
  match w.officialLayouts with
  | first :: _ => suggestMapping first.headers
  | [] => fun _ => none

/-- Every row of every page is found, in a sheet that has columns for the same fields as the first,
and without a false value. -/
def Workbook.isLegible (w : Workbook) : Bool :=
  w.pageRows.all fun p => p.1.finds p.2 && sameColumns w.firstMapping p.1.mapping &&
    p.1.noFalse p.2

section Detect

variable {sheet : Sheet} {layout : SheetLayout}

/-- What is known of a sheet with the marks of a report. -/
structure DetectedAs (sheet : Sheet) (layout : SheetLayout) : Prop where
  source : layout.sheet = sheet
  headerRow : layout.headerRow = sheet.header.1
  headers : layout.headers = sheet.header.2
  grade : layout.grade = sheet.heading .grade
  section_ : layout.section_ = sheet.heading .sectionField
  department : layout.department = sheet.heading .department
  detectedRows : layout.detectedRows =
    ((sheet.below sheet.header.1).filter fun values => isStudentRow values sheet.mapping).length
  named : (sheet.mapping .fullName).isSome = true
  identified : (sheet.mapping .nationalId).isSome = true
  graded : sheet.heading .grade ≠ []

theorem detectedAs (h : detectSheetLayout sheet = some layout) : DetectedAs sheet layout := by
  unfold detectSheetLayout at h
  dsimp only at h
  rw [Option.ite_none_right_eq_some] at h
  obtain ⟨⟨hname, hidentity, -, hgrade⟩, hlayout⟩ := h
  rw [← Option.some.inj hlayout]
  exact ⟨rfl, rfl, rfl, rfl, rfl, rfl, rfl, hname, hidentity, hgrade⟩

theorem Sheet.isPageRow_of_finds {i : ℕ} (h : sheet.finds i = true) : sheet.isPageRow i = true := by
  unfold Sheet.finds at h
  simp only [Bool.and_eq_true, decide_eq_true_eq] at h
  obtain ⟨⟨hsome, hbelow⟩, hstudent⟩ := h
  obtain ⟨layout, hlayout⟩ := Option.isSome_iff_exists.mp hsome
  have hdetected := detectedAs hlayout
  have hne : sheet.header.2 ≠ [] := by
    intro hnone
    obtain ⟨j, hj⟩ := Option.isSome_iff_exists.mp hdetected.named
    have hlt := (suggestMapping_mapped sheet.header.2).inRange _ _ hj
    rw [hnone] at hlt
    exact Nat.not_lt_zero _ hlt
  obtain ⟨k, -, hnumber, hheaders⟩ := Sheet.exists_header hne
  unfold Sheet.isPageRow
  rw [List.any_eq_true]
  refine ⟨k, List.mem_range.mpr (by omega), ?_⟩
  rw [← hheaders, Bool.and_eq_true]
  refine ⟨?_, hstudent⟩
  unfold isTableHeader identityFields
  rw [Bool.and_eq_true, List.any_eq_true]
  exact ⟨hdetected.named, .nationalId, List.mem_cons_self, hdetected.identified⟩

def Sheet.readRows (sheet : Sheet) : List ℕ :=
  (List.range sheet.rows.length).filter sheet.finds

theorem Sheet.readRows_eq : sheet.readRows = sheet.pageRows.filter sheet.finds := by
  unfold Sheet.readRows Sheet.pageRows
  rw [List.filter_filter]
  refine List.filter_congr fun i _ => ?_
  cases hfinds : sheet.finds i with
  | false => rfl
  | true => rw [Sheet.isPageRow_of_finds hfinds]; rfl

theorem DetectedAs.students (h : DetectedAs sheet layout)
    (hlayout : detectSheetLayout sheet = some layout) :
    (layout.sheet.below layout.headerRow).filter
        (fun values => isStudentRow values (suggestMapping layout.headers)) =
      sheet.readRows.map sheet.row := by
  rw [h.source, h.headerRow, h.headers, Sheet.below_eq, List.filter_map, List.filter_filter]
  unfold Sheet.readRows
  congr 1
  refine List.filter_congr fun i _ => ?_
  unfold Sheet.finds
  rw [hlayout]
  simp [Sheet.mapping, Bool.and_comm]

end Detect

/-! ## Reading -/

def SheetLayout.tableRows (layout : SheetLayout) : List SheetRow :=
  ((layout.sheet.below layout.headerRow).filter fun values =>
    isStudentRow values (suggestMapping layout.headers)).map layout.fullRow

theorem foldlM_readRow (layout : SheetLayout) (source : List SheetRow) (state : ReadState)
    (hstate : state.rows.length ≤ importMaxRows) :
    (∃ e, source.foldlM (readRow layout) state = .error e ∧
      importMaxRows < state.rows.length + (source.filter fun values =>
        isStudentRow values (suggestMapping layout.headers)).length) ∨
    ∃ state', source.foldlM (readRow layout) state = .ok state' ∧
      state'.rows.length ≤ importMaxRows ∧
      state'.rows.map Prod.snd = state.rows.map Prod.snd ++ (source.filter fun values =>
        isStudentRow values (suggestMapping layout.headers)).map layout.fullRow := by
  induction source generalizing state with
  | nil => exact .inr ⟨state, rfl, hstate, by simp⟩
  | cons values source ih =>
    rw [List.foldlM_cons, List.filter_cons]
    by_cases hstudent : isStudentRow values (suggestMapping layout.headers) = true
    · rw [if_pos hstudent]
      unfold readRow
      rw [if_pos hstudent]
      dsimp only
      rw [List.length_append, List.length_singleton]
      split_ifs with hmany
      · refine .inl ⟨_, rfl, ?_⟩
        rw [List.length_cons]
        omega
      · rcases ih { rows := state.rows ++ [(state.displayRow, layout.fullRow values)]
                    displayRow := state.displayRow + 1 } (by simpa using hmany) with herror | hok
        · obtain ⟨e, he, hlt⟩ := herror
          refine .inl ⟨e, he, ?_⟩
          rw [List.length_append, List.length_singleton] at hlt
          rw [List.length_cons]
          omega
        · obtain ⟨state', hrun, hlen, hrows⟩ := hok
          refine .inr ⟨state', hrun, hlen, ?_⟩
          rw [hrows]
          simp
    · rw [if_neg hstudent]
      unfold readRow
      rw [if_neg hstudent]
      exact ih state hstate

theorem foldlM_readLayout (expected : List Text) (layouts : List SheetLayout) (state : ReadState)
    (hstate : state.rows.length ≤ importMaxRows) :
    (∃ e, layouts.foldlM (readLayout expected) state = .error e ∧
      ((∃ layout ∈ layouts, headersSignature layout.headers ≠ expected) ∨
        importMaxRows < state.rows.length + (layouts.flatMap SheetLayout.tableRows).length)) ∨
    ∃ state', layouts.foldlM (readLayout expected) state = .ok state' ∧
      state'.rows.length ≤ importMaxRows ∧
      (∀ layout ∈ layouts, headersSignature layout.headers = expected) ∧
      state'.rows.map Prod.snd =
        state.rows.map Prod.snd ++ layouts.flatMap SheetLayout.tableRows := by
  induction layouts generalizing state with
  | nil => exact .inr ⟨state, rfl, hstate, by simp, by simp⟩
  | cons layout layouts ih =>
    rw [List.foldlM_cons, List.flatMap_cons]
    unfold readLayout
    split_ifs with hother
    · exact .inl ⟨_, rfl, .inl ⟨layout, List.mem_cons_self, hother⟩⟩
    · rcases foldlM_readRow layout (layout.sheet.below layout.headerRow) state hstate with
        herror | hok
      · obtain ⟨e, he, hlt⟩ := herror
        refine .inl ⟨e, ?_, .inr ?_⟩
        · rw [he]
          rfl
        · unfold SheetLayout.tableRows
          rw [List.length_append, List.length_map]
          omega
      · obtain ⟨state', hrun, hlen, hrows⟩ := hok
        rw [hrun]
        have hlength := congrArg List.length hrows
        rw [List.length_append, List.length_map, List.length_map] at hlength
        rcases ih state' hlen with herror | hok
        · obtain ⟨e, he, hwhy⟩ := herror
          refine .inl ⟨e, he, ?_⟩
          rcases hwhy with ⟨other, hmem, hne⟩ | hlt
          · exact .inl ⟨other, List.mem_cons_of_mem _ hmem, hne⟩
          · right
            rw [List.length_append]
            unfold SheetLayout.tableRows at hlt ⊢
            omega
        · obtain ⟨final, hfinal, hfinalLen, hsame, hfinalRows⟩ := hok
          refine .inr ⟨final, hfinal, hfinalLen, ?_, ?_⟩
          · intro other hmem
            rcases List.mem_cons.mp hmem with rfl | hmem
            · exact not_not.mp hother
            · exact hsame other hmem
          · rw [hfinalRows, hrows, List.append_assoc]
            rfl

def Sheet.tableRow (sheet : Sheet) (i : ℕ) : SheetRow :=
  match detectSheetLayout sheet with
  | some layout => layout.fullRow (sheet.row i)
  | none => []

section Workbooks

variable {w : Workbook}

theorem Workbook.flatMap_tableRows (w : Workbook) :
    w.officialLayouts.flatMap SheetLayout.tableRows =
      (w.pageRows.filter fun p => p.1.finds p.2).map fun p => p.1.tableRow p.2 := by
  unfold Workbook.officialLayouts Workbook.pageRows
  induction w.sheets with
  | nil => rfl
  | cons sheet sheets ih =>
    rw [List.flatMap_cons, List.filter_append, List.map_append, ← ih, List.filterMap_cons,
      List.filter_map, List.map_map]
    have hread : sheet.pageRows.filter ((fun p : Sheet × ℕ => p.1.finds p.2) ∘
        fun i => (sheet, i)) = sheet.readRows := Sheet.readRows_eq.symm
    rw [hread]
    cases hlayout : detectSheetLayout sheet with
    | none =>
      have hnone : sheet.readRows = [] := by
        unfold Sheet.readRows
        refine List.filter_eq_nil_iff.mpr fun i _ => ?_
        unfold Sheet.finds
        rw [hlayout]
        simp
      rw [hnone]
      rfl
    | some layout =>
      rw [List.flatMap_cons]
      unfold SheetLayout.tableRows
      rw [(detectedAs hlayout).students hlayout, List.map_map]
      congr 1
      refine List.map_congr_left fun i _ => ?_
      simp only [Function.comp_apply, Sheet.tableRow, hlayout]

theorem foldl_detectedRows {layouts : List SheetLayout}
    (h : ∀ layout ∈ layouts, layout.detectedRows = layout.tableRows.length) (n : ℕ) :
    (layouts.map fun layout => layout.detectedRows).foldl (· + ·) n =
      n + (layouts.flatMap SheetLayout.tableRows).length := by
  induction layouts generalizing n with
  | nil => rfl
  | cons layout layouts ih =>
    have hlayouts := ih fun other hmem => h other (List.mem_cons_of_mem _ hmem)
    rw [List.map_cons, List.foldl_cons, hlayouts, List.flatMap_cons, List.length_append,
      h layout List.mem_cons_self]
    omega

theorem Workbook.detectedRows_eq (h : (analyzeImport w).importFormat = .noorOfficial) :
    (analyzeImport w).detectedRows =
      (w.officialLayouts.flatMap SheetLayout.tableRows).length := by
  unfold analyzeImport at h ⊢
  cases hlayouts : w.officialLayouts with
  | nil =>
    rw [hlayouts] at h
    cases h
  | cons first rest =>
    dsimp only
    rw [foldl_detectedRows, Nat.zero_add]
    intro layout hmem
    rw [← hlayouts] at hmem
    obtain ⟨sheet, -, hlayout⟩ := List.mem_filterMap.mp hmem
    have hdetected := detectedAs hlayout
    unfold SheetLayout.tableRows
    rw [List.length_map, hdetected.detectedRows, hdetected.source, hdetected.headerRow,
      hdetected.headers]
    rfl

theorem Workbook.readRows_noorOfficial (h : (analyzeImport w).importFormat = .noorOfficial)
    (startRow : ℕ) :
    (w.isRejected = true ∧ ∃ e, readRows w startRow .noorOfficial = .error e) ∨
    w.isRejected = false ∧ ∃ rows, readRows w startRow .noorOfficial = .ok rows ∧
      rows.map Prod.snd =
        (w.pageRows.filter fun p => p.1.finds p.2).map fun p => p.1.tableRow p.2 := by
  have hcount := Workbook.detectedRows_eq h
  have hrejected : w.isRejected = true ↔ (∃ layout ∈ w.officialLayouts,
      w.officialLayouts.head?.any (fun first =>
        headersSignature layout.headers ≠ headersSignature first.headers) = true) ∨
      importMaxRows < (analyzeImport w).detectedRows := by
    unfold Workbook.isRejected
    rw [Bool.or_eq_true, List.any_eq_true, decide_eq_true_eq]
  rw [hcount] at hrejected
  rw [← w.flatMap_tableRows]
  unfold readRows readOfficialNoorRows
  cases hlayouts : w.officialLayouts with
  | nil =>
    unfold analyzeImport at h
    rw [hlayouts] at h
    cases h
  | cons first rest =>
    rw [hlayouts] at hrejected
    simp only [List.head?_cons, Option.any_some, decide_eq_true_eq] at hrejected
    dsimp only
    rcases foldlM_readLayout (headersSignature first.headers) (first :: rest)
      { displayRow := first.headerRow + 1 } (Nat.zero_le _) with ⟨e, he, hwhy⟩ | hok
    · refine .inl ⟨hrejected.mpr ?_, e, ?_⟩
      · rwa [List.length_nil, Nat.zero_add] at hwhy
      · rw [he]
        rfl
    · obtain ⟨state, hrun, hlen, hsame, hrows⟩ := hok
      refine .inr ⟨?_, state.rows, ?_, ?_⟩
      · rw [← Bool.not_eq_true, hrejected]
        rintro (⟨layout, hmem, hne⟩ | hlt)
        · exact hne (hsame layout hmem)
        · have hlength := congrArg List.length hrows
          rw [List.length_append, List.length_map, List.length_map, List.length_nil] at hlength
          omega
      · rw [hrun]
        rfl
      · rw [hrows]
        rfl

end Workbooks

/-! ## Rows -/

section Cells

variable {heading : Text} {c c' : Cell}

theorem Cell.isBlank_iff : c.isBlank = true ↔ c = .empty ∨ Text.strip c.str = [] := by
  unfold Cell.isBlank
  rw [Bool.or_eq_true, decide_eq_true_eq, decide_eq_true_eq]

theorem Cell.readsBlank_iff : c.readsBlank = true ↔ Text.strip c.strOrEmpty = [] := by
  unfold Cell.readsBlank
  rw [decide_eq_true_eq]

theorem Cell.readsBlank_of_isBlank (h : c.isBlank = true) : c.readsBlank = true := by
  rw [Cell.isBlank_iff] at h
  rw [Cell.readsBlank_iff]
  cases c with
  | empty => rfl
  | text t =>
    rcases h with h | h
    · cases h
    · exact h
  | other shown truthy =>
    rcases h with h | h
    · cases h
    · cases truthy with
      | false => rfl
      | true => exact h

theorem cellKept_plain (h : c' = c ∨ c.isBlank = true ∧ c' = .empty) : CellKept [] c c' := by
  constructor
  · intro hblank
    rcases h with h | h
    · exact h
    · rw [hblank] at h
      exact absurd h.1 Bool.false_ne_true
  · intro _ hne
    exact absurd rfl hne
  · intro hblank _
    rcases h with h | h
    · rw [h, hblank]
    · rw [h.2]
      rfl

theorem cellKept_section (h : c' = c ∨ c.isBlank = true ∧ c' = .empty) :
    CellKept heading c
      (if (c'.isBlank && decide (heading ≠ [])) = true then .text heading else c') := by
  have hblank' : c'.isBlank = c.isBlank := by
    rcases h with h | h
    · rw [h]
    · rw [h.1, h.2]
      rfl
  rw [hblank']
  constructor
  · intro hblank
    rw [hblank, Bool.false_and, if_neg Bool.false_ne_true]
    rcases h with h | h
    · exact h
    · rw [hblank] at h
      exact absurd h.1 Bool.false_ne_true
  · intro hblank hne
    rw [if_pos (by simp [hblank, hne])]
  · intro hblank hnil
    rw [if_neg (by simp [hnil]), hblank', hblank]

theorem cellKept_readsBlank (h : c' = c ∨ c.isBlank = true ∧ c' = .empty) :
    CellKept heading c (if c'.readsBlank = true then .text heading else c') ↔
      (c.readsBlank = true → c.isBlank = true) := by
  constructor
  · intro hkept hreads
    by_contra hblank
    rw [Bool.not_eq_true] at hblank
    have hsame : c' = c := by
      rcases h with h | h
      · exact h
      · rw [hblank] at h
        exact absurd h.1 Bool.false_ne_true
    have hout := hkept.kept hblank
    rw [hsame, if_pos hreads] at hout
    rw [← hout] at hreads hblank
    rw [Cell.readsBlank_iff] at hreads
    rw [← Bool.not_eq_true, Cell.isBlank_iff] at hblank
    exact hblank (.inr hreads)
  · intro hfalse
    constructor
    · intro hblank
      have hreads : c.readsBlank = false := by
        rw [← Bool.not_eq_true]
        intro hreads
        rw [hfalse hreads] at hblank
        exact absurd hblank.symm Bool.false_ne_true
      rcases h with h | h
      · rw [h, hreads, if_neg Bool.false_ne_true]
      · rw [hblank] at h
        exact absurd h.1 Bool.false_ne_true
    all_goals
      intro hblank hheading
      have hreads : c'.readsBlank = true := by
        rcases h with h | h
        · rw [h]
          exact Cell.readsBlank_of_isBlank hblank
        · rw [h.2]
          rfl
      rw [if_pos hreads]
    rw [hheading]
    rfl

end Cells

theorem forall₂_append_iff {α β : Type} {R : α → β → Prop} {as as' : List α} {bs bs' : List β}
    (h : as.length = bs.length) :
    List.Forall₂ R (as ++ as') (bs ++ bs') ↔ List.Forall₂ R as bs ∧ List.Forall₂ R as' bs' := by
  constructor
  · intro hall
    have htake := List.forall₂_take_append _ _ _ hall
    have hdrop := List.forall₂_drop_append _ _ _ hall
    rw [← h, List.take_left] at htake
    rw [← h, List.drop_left] at hdrop
    exact ⟨htake, hdrop⟩
  · intro hparts
    exact List.rel_append hparts.1 hparts.2

section Detected

variable {sheet : Sheet} {layout : SheetLayout}

def SheetLayout.filledRow (layout : SheetLayout) (values : SheetRow) : SheetRow :=
  fillColumn (suggestMapping layout.headers .department) Cell.readsBlank layout.department
    (fillColumn (suggestMapping layout.headers .grade) Cell.readsBlank layout.grade
      (fillColumn (suggestMapping layout.headers .sectionField)
        (fun c => c.isBlank && decide (layout.section_ ≠ [])) layout.section_
          (trimmedTo layout.headers.length values)))

theorem SheetLayout.length_filledRow (layout : SheetLayout) (values : SheetRow) :
    (layout.filledRow values).length = layout.headers.length := by
  unfold SheetLayout.filledRow
  rw [length_fillColumn, length_fillColumn, length_fillColumn, length_trimmedTo]

theorem eq_map_cellAt (values : SheetRow) :
    values = (List.range values.length).map (cellAt values) := by
  refine List.ext_getElem (by simp) fun i hi hi' => ?_
  rw [List.getElem_map, List.getElem_range, cellAt, List.getElem?_eq_getElem hi]
  rfl

theorem DetectedAs.cellKept_iff (h : DetectedAs sheet layout) (values : SheetRow) {j : ℕ}
    (hj : j < sheet.header.2.length) :
    CellKept (sheet.headingAt j) (cellAt values j) (cellAt (layout.filledRow values) j) ↔
      ∀ f ∈ [ImportField.grade, .department], sheet.mapping f = some j →
        (cellAt values j).readsBlank = true → (cellAt values j).isBlank = true := by
  have hcell := @cellAt_trimmedTo layout.headers.length values j (by rwa [h.headers])
  have hinj := (suggestMapping_mapped sheet.header.2).injective
  have hlen : j < (trimmedTo layout.headers.length values).length := by
    rw [length_trimmedTo, h.headers]
    exact hj
  unfold SheetLayout.filledRow
  rw [cellAt_fillColumn _ _ _ (by simpa using hlen), cellAt_fillColumn _ _ _ (by simpa using hlen),
    cellAt_fillColumn _ _ _ hlen, h.headers, h.section_, h.grade, h.department]
  rw [h.headers] at hcell
  have hmapping : suggestMapping sheet.header.2 = sheet.mapping := rfl
  rw [hmapping] at hinj ⊢
  unfold Sheet.headingAt
  have hone : ∀ f, sheet.mapping f = some j → ∀ g, g ≠ f → sheet.mapping g ≠ some j :=
    fun f hf g hne hg => hne (hinj _ _ _ hg hf)
  by_cases hsection : sheet.mapping .sectionField = some j
  · have hgrade := hone _ hsection .grade (by decide)
    have hdepartment := hone _ hsection .department (by decide)
    have hfind : filledFields.find? (fun f => decide (sheet.mapping f = some j)) =
        some .sectionField := by simp [filledFields, hsection]
    rw [hfind, if_neg (fun h => hdepartment h.1), if_neg (fun h => hgrade h.1)]
    simp only [hsection, true_and]
    refine iff_of_true (cellKept_section hcell) ?_
    simp [hgrade, hdepartment]
  · simp only [hsection, false_and, if_false]
    by_cases hgrade : sheet.mapping .grade = some j
    · have hdepartment := hone _ hgrade .department (by decide)
      have hfind : filledFields.find? (fun f => decide (sheet.mapping f = some j)) =
          some .grade := by simp [filledFields, hsection, hgrade]
      rw [hfind, if_neg (fun h => hdepartment h.1)]
      simp only [hgrade, true_and]
      rw [cellKept_readsBlank hcell]
      simp [hgrade, hdepartment]
    · simp only [hgrade, false_and, if_false]
      by_cases hdepartment : sheet.mapping .department = some j
      · have hfind : filledFields.find? (fun f => decide (sheet.mapping f = some j)) =
            some .department := by simp [filledFields, hsection, hgrade, hdepartment]
        rw [hfind]
        simp only [hdepartment, true_and]
        rw [cellKept_readsBlank hcell]
        simp [hgrade, hdepartment]
      · have hfind : filledFields.find? (fun f => decide (sheet.mapping f = some j)) = none := by
          simp [filledFields, hsection, hgrade, hdepartment]
        rw [hfind]
        simp only [hdepartment, false_and, if_false]
        refine iff_of_true (cellKept_plain hcell) ?_
        simp [hgrade, hdepartment]

theorem cellKept_given (heading : Text) : CellKept heading .empty (.text heading) := by
  constructor
  · intro hblank
    cases hblank
  · exact fun _ _ => rfl
  · intro _ hnil
    rw [hnil]
    rfl

theorem Sheet.noFalse_iff (i : ℕ) :
    sheet.noFalse i = true ↔ ∀ f ∈ [ImportField.grade, .department], ∀ j,
      sheet.mapping f = some j → (cellAt (sheet.row i) j).readsBlank = true →
        (cellAt (sheet.row i) j).isBlank = true := by
  unfold Sheet.noFalse
  rw [List.all_eq_true]
  refine forall₂_congr fun f _ => ?_
  cases hcolumn : sheet.mapping f with
  | none => simp
  | some j =>
    cases hreads : (cellAt (sheet.row i) j).readsBlank with
    | false => simp [hreads]
    | true => simp [hreads]

theorem DetectedAs.cells_iff (h : DetectedAs sheet layout) (i : ℕ) :
    List.Forall₂ (fun p c => CellKept p.1 p.2 c) (sheet.cells (sheet.row i))
      (layout.fullRow (sheet.row i)) ↔ sheet.noFalse i = true := by
  have hfull : layout.fullRow (sheet.row i) = layout.filledRow (sheet.row i) ++
      ((if (sheet.mapping .grade).isNone then [.text (sheet.heading .grade)] else []) ++
        if (sheet.mapping .department).isNone then [.text (sheet.heading .department)]
        else []) := by
    rw [← List.append_assoc, ← h.grade, ← h.department]
    unfold Sheet.mapping
    rw [← h.headers]
    rfl
  have hgiven : List.Forall₂ (fun (p : Text × Cell) c => CellKept p.1 p.2 c)
      ((if (sheet.mapping .grade).isNone then [(sheet.heading .grade, Cell.empty)] else []) ++
        if (sheet.mapping .department).isNone then [(sheet.heading .department, .empty)] else [])
      ((if (sheet.mapping .grade).isNone then [.text (sheet.heading .grade)] else []) ++
        if (sheet.mapping .department).isNone then [.text (sheet.heading .department)]
        else []) := by
    refine List.rel_append ?_ ?_
    · split_ifs
      · exact .cons (cellKept_given _) .nil
      · exact .nil
    · split_ifs
      · exact .cons (cellKept_given _) .nil
      · exact .nil
  have hlength : (layout.filledRow (sheet.row i)).length = sheet.header.2.length := by
    rw [layout.length_filledRow, h.headers]
  rw [hfull, Sheet.cells, forall₂_append_iff (by rw [List.length_map, List.length_range, hlength]),
    eq_map_cellAt (layout.filledRow _), hlength, List.forall₂_map_left_iff,
    List.forall₂_map_right_iff, List.forall₂_same, Sheet.noFalse_iff]
  constructor
  · rintro ⟨hkept, -⟩ f hf j hj
    have hlt := (suggestMapping_mapped sheet.header.2).inRange f j hj
    exact (h.cellKept_iff _ hlt).mp (hkept j (List.mem_range.mpr hlt)) f hf hj
  · intro hfalse
    refine ⟨fun j hj => ?_, hgiven⟩
    exact (h.cellKept_iff _ (List.mem_range.mp hj)).mpr fun f hf hcolumn => hfalse f hf j hcolumn

end Detected

theorem signature_syntheticHeaders (mapping mapping' : ColumnMapping) :
    headersSignature (syntheticHeaders mapping) = headersSignature (syntheticHeaders mapping') ↔
      sameColumns mapping mapping' = true := by
  have hne : cleanLabel syntheticGradeHeader ≠ cleanLabel syntheticDepartmentHeader := by
    decide +kernel
  have hne' := hne.symm
  unfold syntheticHeaders headersSignature sameColumns
  cases (mapping .grade).isNone <;> cases (mapping' .grade).isNone <;>
    cases (mapping .department).isNone <;> cases (mapping' .department).isNone <;>
      simp [hne, hne']

section Report

variable {w : Workbook} {first : SheetLayout} {rest : List SheetLayout}

theorem rowKept_iff (hlayouts : w.officialLayouts = first :: rest) {sheet : Sheet}
    {layout : SheetLayout} (hlayout : detectSheetLayout sheet = some layout)
    (hsame : headersSignature layout.headers = headersSignature first.headers) (i : ℕ) :
    RowKept (analyzeImport w).headers sheet (sheet.row i) (sheet.tableRow i) ↔
      sameColumns w.firstMapping sheet.mapping = true ∧ sheet.noFalse i = true := by
  have hdetected := detectedAs hlayout
  have hheaders : headersSignature (analyzeImport w).headers = headersSignature sheet.headers ↔
      sameColumns w.firstMapping sheet.mapping = true := by
    have hannounced : (analyzeImport w).headers =
        first.headers ++ syntheticHeaders w.firstMapping := by
      unfold analyzeImport Workbook.firstMapping
      rw [hlayouts]
    rw [hdetected.headers] at hsame
    rw [hannounced, ← signature_syntheticHeaders]
    unfold Sheet.headers headersSignature at *
    rw [List.map_append, List.map_append, hsame]
    exact Iff.of_eq (List.append_cancel_left_eq _ _ _)
  have hrow : sheet.tableRow i = layout.fullRow (sheet.row i) := by
    unfold Sheet.tableRow
    rw [hlayout]
  rw [hrow, ← hheaders, ← hdetected.cells_iff i]
  constructor
  · exact fun h => ⟨h.headers, h.cells⟩
  · exact fun h => ⟨h.1, h.2⟩

/-- **No page is skipped** exactly when the file is rejected, or every row of every page is found,
in a sheet with columns for the same fields as the first and without a false value. -/
theorem noor_pages_kept_iff (w : Workbook)
    (hofficial : (analyzeImport w).importFormat = .noorOfficial) (startRow : ℕ) :
    ((∃ e, readRows w startRow .noorOfficial = .error e) ∨
      ∃ rows, readRows w startRow .noorOfficial = .ok rows ∧ PagesKept w rows) ↔
    w.isRejected = true ∨ w.isLegible = true := by
  rcases Workbook.readRows_noorOfficial hofficial startRow with ⟨hrejected, herror⟩ | hread
  · exact iff_of_true (.inl herror) (.inl hrejected)
  · obtain ⟨hrejected, rows, hrows, htable⟩ := hread
    have hcount : rows.length = (analyzeImport w).detectedRows := by
      have hlength := congrArg List.length htable
      rw [List.length_map, ← w.flatMap_tableRows, ← Workbook.detectedRows_eq hofficial] at hlength
      exact hlength
    have hsignature : ∀ layout ∈ w.officialLayouts, ∀ first ∈ w.officialLayouts.head?,
        headersSignature layout.headers = headersSignature first.headers := by
      intro layout hmem first hfirst
      unfold Workbook.isRejected at hrejected
      rw [Bool.or_eq_false_iff, List.any_eq_false] at hrejected
      have hlayout := hrejected.1 layout hmem
      rw [Option.mem_def.mp hfirst, Option.any_some, decide_eq_true_eq] at hlayout
      exact not_not.mp hlayout
    obtain ⟨first, rest, hlayouts⟩ : ∃ first rest, w.officialLayouts = first :: rest := by
      cases hlayouts : w.officialLayouts with
      | nil =>
        unfold analyzeImport at hofficial
        rw [hlayouts] at hofficial
        cases hofficial
      | cons first rest => exact ⟨first, rest, rfl⟩
    have hrow : ∀ p ∈ w.pageRows, p.1.finds p.2 = true →
        (RowKept (analyzeImport w).headers p.1 (p.1.row p.2) (p.1.tableRow p.2) ↔
          sameColumns w.firstMapping p.1.mapping = true ∧ p.1.noFalse p.2 = true) := by
      intro p hp hfinds
      have hsheet : p.1 ∈ w.sheets := by
        obtain ⟨sheet, hsheet, hpage⟩ := List.mem_flatMap.mp hp
        obtain ⟨i, -, rfl⟩ := List.mem_map.mp hpage
        exact hsheet
      have hsome : (detectSheetLayout p.1).isSome = true := by
        unfold Sheet.finds at hfinds
        rw [Bool.and_eq_true, Bool.and_eq_true] at hfinds
        exact hfinds.1.1
      obtain ⟨layout, hlayout⟩ := Option.isSome_iff_exists.mp hsome
      refine rowKept_iff hlayouts hlayout (hsignature layout ?_ first ?_) p.2
      · exact List.mem_filterMap.mpr ⟨p.1, hsheet, hlayout⟩
      · rw [hlayouts]
        exact rfl
    constructor
    · rintro (⟨e, herror⟩ | ⟨rows', hrows', hkept⟩)
      · rw [hrows] at herror
        cases herror
      · rw [hrows] at hrows'
        have hsame := Except.ok.inj hrows'
        rw [← hsame] at hkept
        have hall := hkept.kept
        rw [htable] at hall
        have hlength := hall.length_eq
        rw [List.length_map] at hlength
        have hfinds := List.length_filter_eq_length_iff.mp hlength.symm
        rw [List.filter_eq_self.mpr hfinds, List.forall₂_map_right_iff, List.forall₂_same] at hall
        right
        unfold Workbook.isLegible
        rw [List.all_eq_true]
        intro p hp
        rw [Bool.and_eq_true, Bool.and_eq_true]
        have hkeptRow := (hrow p hp (hfinds p hp)).mp (hall p hp)
        exact ⟨⟨hfinds p hp, hkeptRow.1⟩, hkeptRow.2⟩
    · rintro (htrue | hlegible)
      · rw [hrejected] at htrue
        exact absurd htrue Bool.false_ne_true
      · unfold Workbook.isLegible at hlegible
        rw [List.all_eq_true] at hlegible
        have hparts : ∀ p ∈ w.pageRows, p.1.finds p.2 = true ∧
            sameColumns w.firstMapping p.1.mapping = true ∧ p.1.noFalse p.2 = true := by
          intro p hp
          have h := hlegible p hp
          rw [Bool.and_eq_true, Bool.and_eq_true] at h
          exact ⟨h.1.1, h.1.2, h.2⟩
        refine .inr ⟨rows, hrows, ?_, hcount⟩
        rw [htable, List.filter_eq_self.mpr fun p hp => (hparts p hp).1,
          List.forall₂_map_right_iff, List.forall₂_same]
        exact fun p hp => (hrow p hp (hparts p hp).1).mpr (hparts p hp).2

end Report

def samplePage (grade : String) : Sheet :=
  { rows := [
      [.text "الصف".toList, .text [':'], .text grade.toList],
      [.text "الاسم".toList, .text "رقم الهوية".toList, .text "الفصل".toList],
      [.text "أحمد".toList, .text "1012345678".toList, .empty]] }

def wholeReport : Workbook := { sheets := [samplePage "الأول", samplePage "الثاني"] }

def gradelessReport : Workbook := { sheets := [samplePage "الأول", samplePage ""] }

theorem wholeReport_kept :
    ((∃ e, readRows wholeReport 2 .noorOfficial = .error e) ∨
      ∃ rows, readRows wholeReport 2 .noorOfficial = .ok rows ∧ PagesKept wholeReport rows) ∧
    wholeReport.pageRows.length = 2 :=
  ⟨(noor_pages_kept_iff wholeReport (by decide +kernel) 2).mpr (by decide +kernel),
    by decide +kernel⟩

/-- The page without a grade is passed over: the table has the student of the first page only. -/
theorem gradelessReport_skipped :
    (analyzeImport gradelessReport).importFormat = .noorOfficial ∧
    ¬ ((∃ e, readRows gradelessReport 2 .noorOfficial = .error e) ∨
      ∃ rows, readRows gradelessReport 2 .noorOfficial = .ok rows ∧
        PagesKept gradelessReport rows) := by
  refine ⟨by decide +kernel, ?_⟩
  have hread : (readRows gradelessReport 2 .noorOfficial).map (fun rows => rows.length) =
      .ok 1 := by decide +kernel
  have hpages : gradelessReport.pageRows.length = 2 := by decide +kernel
  rintro (⟨e, he⟩ | ⟨rows, hrows, hkept⟩)
  · rw [he] at hread
    cases hread
  · rw [hrows] at hread
    have hlength := hkept.kept.length_eq
    rw [hpages, List.length_map] at hlength
    have hone : rows.length = 1 := Except.ok.inj hread
    omega

end SchoolPlatform.Noor
