import Mathlib.Data.List.Dedup
import SchoolPlatform.Model.ImportPreview
import Mathlib.Logic.Equiv.Defs

/-!
# Duplicates of a file are the connected components

The loops of `markDuplicatesInFile` end, its groups are the rows that chains of shared identifiers
connect, and a group is marked by whether its rows agree. None of it depends on the order of the
rows but for which of the copies is kept.
-/

/-! ## Rows of a file that share an identifier -/

namespace SchoolPlatform

open UnionFind

def indexedRows (rows : List NormalizedRow) : List (ℕ × NormalizedRow) :=
  (List.range rows.length).zip (rows.map NormalizedRow.unmarked)

def fileRoot (rows : List NormalizedRow) (i : ℕ) : ℕ :=
  rootOf (connect ((rows.map NormalizedRow.unmarked).map NormalizedRow.keys)) i

def fileGroup (rows : List NormalizedRow) (i : ℕ) : List (ℕ × NormalizedRow) :=
  (indexedRows rows).filter fun e => fileRoot rows e.1 = fileRoot rows i

variable {rows : List NormalizedRow} {i j : ℕ} {u v : NormalizedRow}

theorem zip_map_zip {α β γ : Type} (f : α → γ) (l : List α) (m : List β) :
    (l.map f).zip (l.zip m) = (l.zip m).map fun e => (f e.1, e) := by
  induction l generalizing m with
  | nil => rfl
  | cons a l ih =>
    cases m with
    | nil => rfl
    | cons b m => simp [ih]

theorem markDuplicatesInFile_eq (rows : List NormalizedRow) :
    markDuplicatesInFile rows =
      (indexedRows rows).map fun e => markRow (fileGroup rows e.1) e.1 e.2 := by
  have hforest := (connect_spec ((rows.map NormalizedRow.unmarked).map NormalizedRow.keys)).1
  have hentries : (roots (connect ((rows.map NormalizedRow.unmarked).map NormalizedRow.keys))
      (List.range (rows.map NormalizedRow.unmarked).length)).zip
        ((List.range (rows.map NormalizedRow.unmarked).length).zip
          (rows.map NormalizedRow.unmarked)) =
      (indexedRows rows).map fun e => (fileRoot rows e.1, e) := by
    rw [roots_eq hforest, zip_map_zip, List.length_map]
    rfl
  unfold markDuplicatesInFile
  simp only [hentries]
  rw [List.map_map]
  apply List.map_congr_left
  intro e _
  simp only [Function.comp_apply, Dict.getD_get?_groupBy]
  congr 1
  rw [List.filter_map, List.map_map]
  unfold fileGroup
  induction indexedRows rows with
  | nil => rfl
  | cons a l ih =>
    by_cases ha : fileRoot rows a.1 = fileRoot rows e.1
    · simpa [ha, List.filter_cons] using ih
    · simpa [ha, List.filter_cons] using ih

theorem mem_indexedRows : (i, u) ∈ indexedRows rows ↔
    ∃ row, rows[i]? = some row ∧ u = row.unmarked := by
  unfold indexedRows
  rw [List.mem_iff_getElem?]
  constructor
  · rintro ⟨k, hk⟩
    rw [List.getElem?_zip_eq_some] at hk
    obtain ⟨hrange, hrow⟩ := hk
    have hki : k = i := by
      have hlt := List.getElem?_eq_some_iff.mp hrange
      obtain ⟨hlt, heq⟩ := hlt
      simpa using heq
    rw [hki, List.getElem?_map] at hrow
    obtain ⟨row, hrow, hu⟩ := Option.map_eq_some_iff.mp hrow
    exact ⟨row, hrow, hu.symm⟩
  · rintro ⟨row, hrow, rfl⟩
    refine ⟨i, ?_⟩
    rw [List.getElem?_zip_eq_some, List.getElem?_map, hrow]
    obtain ⟨hlt, -⟩ := List.getElem?_eq_some_iff.mp hrow
    exact ⟨List.getElem?_range hlt, rfl⟩

theorem mem_fileGroup {e : ℕ × NormalizedRow} : e ∈ fileGroup rows i ↔
    e ∈ indexedRows rows ∧ fileRoot rows e.1 = fileRoot rows i := by
  rw [fileGroup, List.mem_filter, decide_eq_true_eq]

theorem fileGroup_congr (h : fileRoot rows i = fileRoot rows j) :
    fileGroup rows i = fileGroup rows j := by
  unfold fileGroup
  rw [h]

theorem one_lt_length_of_mem {α : Type} {l : List α} {a b : α} (ha : a ∈ l) (hb : b ∈ l)
    (hne : a ≠ b) : 1 < l.length := by
  match l with
  | [] => exact absurd ha List.not_mem_nil
  | [c] =>
    rw [List.mem_singleton] at ha hb
    exact absurd (ha.trans hb.symm) hne
  | _ :: _ :: _ => exact Nat.one_lt_succ_succ _

theorem map_rowNumber_marked (rows : List NormalizedRow) :
    (markDuplicatesInFile rows).map (fun m => m.rowNumber) = rows.map fun row => row.rowNumber := by
  have hmark : ∀ (group : List (ℕ × NormalizedRow)) (e : ℕ × NormalizedRow),
      (markRow group e.1 e.2).rowNumber = e.2.rowNumber := by
    intro group e
    unfold markRow
    split
    · rfl
    · split
      · split <;> rfl
      · rfl
  rw [markDuplicatesInFile_eq, List.map_map]
  have hsnd : ((indexedRows rows).map fun e => e.2) = rows.map NormalizedRow.unmarked := by
    unfold indexedRows
    exact List.map_snd_zip (by simp)
  calc (indexedRows rows).map ((fun m : NormalizedRow => m.rowNumber) ∘ fun e =>
        markRow (fileGroup rows e.1) e.1 e.2)
      = ((indexedRows rows).map fun e => e.2).map fun u : NormalizedRow => u.rowNumber := by
        rw [List.map_map]
        exact List.map_congr_left fun e _ => hmark _ e
    _ = rows.map fun row => row.rowNumber := by
        rw [hsnd, List.map_map]
        rfl

variable {rows rows' : List NormalizedRow} {i j : ℕ} {u v : NormalizedRow}

/-- `markDuplicatesInFile`, given up when a loop of `find` goes on for too long. -/
def markDuplicatesWithin (rounds : ℕ) (rows : List NormalizedRow) :
    Option (List NormalizedRow) := do
  let rows := rows.map NormalizedRow.unmarked
  let parents ← connectWithin rounds (rows.map NormalizedRow.keys)
  let roots ← rootsWithin rounds parents (List.range rows.length)
  let entries := roots.zip ((List.range rows.length).zip rows)
  let groups := Dict.groupBy Prod.fst entries
  pure (entries.map fun entry =>
    markRow (((Dict.get? groups entry.1).getD []).map Prod.snd) entry.2.1 entry.2.2)

theorem markDuplicatesWithin_eq {rounds : ℕ} (h : rows.length < rounds) :
    markDuplicatesWithin rounds rows = some (markDuplicatesInFile rows) := by
  have hkeys : ((rows.map NormalizedRow.unmarked).map NormalizedRow.keys).length < rounds := by
    rw [List.length_map, List.length_map]
    exact h
  obtain ⟨hforest, hlength, -⟩ :=
    connect_spec ((rows.map NormalizedRow.unmarked).map NormalizedRow.keys)
  have hroots := @Forest.rootsWithin _ rounds hforest (by rw [hlength]; exact hkeys)
    (List.range (rows.map NormalizedRow.unmarked).length)
  unfold markDuplicatesWithin
  simp only [connectWithin_eq _ hkeys, hroots, Option.bind_eq_bind, Option.bind_some]
  rfl

def ShareIdentifier (rows : List NormalizedRow) (i j : ℕ) : Prop :=
  ∃ row row', rows[i]? = some row ∧ rows[j]? = some row' ∧ ∃ k ∈ row.keys, k ∈ row'.keys

/-- A chain of shared identifiers connects the rows at the two indices. -/
def Linked (rows : List NormalizedRow) : ℕ → ℕ → Prop := Relation.EqvGen (ShareIdentifier rows)

def Agree (rows : List NormalizedRow) (i : ℕ) : Prop :=
  ∀ j row row', Linked rows i j → rows[i]? = some row → rows[j]? = some row' →
    row'.signature = row.signature

theorem share_unmarked_iff :
    Share ((rows.map NormalizedRow.unmarked).map NormalizedRow.keys) i j ↔
      ShareIdentifier rows i j := by
  unfold Share ShareIdentifier
  simp only [List.getElem?_map, Option.map_eq_some_iff]
  constructor
  · rintro ⟨k, ⟨_, ⟨_, ⟨row, hrow, rfl⟩, rfl⟩, hk⟩, _, ⟨_, ⟨row', hrow', rfl⟩, rfl⟩, hk'⟩
    exact ⟨row, row', hrow, hrow', k, hk, hk'⟩
  · rintro ⟨row, row', hrow, hrow', k, hk, hk'⟩
    exact ⟨k, ⟨_, ⟨_, ⟨row, hrow, rfl⟩, rfl⟩, hk⟩, _, ⟨_, ⟨row', hrow', rfl⟩, rfl⟩, hk'⟩

theorem fileRoot_eq_iff : fileRoot rows i = fileRoot rows j ↔ Linked rows i j := by
  have hjoins :=
    (connect_spec ((rows.map NormalizedRow.unmarked).map NormalizedRow.keys)).2.2 i j
  have hshare : Share ((rows.map NormalizedRow.unmarked).map NormalizedRow.keys) =
      ShareIdentifier rows := by
    funext a b
    exact propext share_unmarked_iff
  rw [hshare] at hjoins
  exact hjoins

theorem mem_fileGroup_iff : (j, v) ∈ fileGroup rows i ↔
    ∃ row, rows[j]? = some row ∧ v = row.unmarked ∧ Linked rows j i := by
  rw [mem_fileGroup, mem_indexedRows]
  constructor
  · rintro ⟨⟨row, hrow, hv⟩, hroot⟩
    exact ⟨row, hrow, hv, fileRoot_eq_iff.mp hroot⟩
  · rintro ⟨row, hrow, hv, hlinked⟩
    exact ⟨⟨row, hrow, hv⟩, fileRoot_eq_iff.mpr hlinked⟩

theorem getElem?_marked {row : NormalizedRow} (hrow : rows[i]? = some row) :
    (markDuplicatesInFile rows)[i]? = some (markRow (fileGroup rows i) i row.unmarked) := by
  obtain ⟨hlt, -⟩ := List.getElem?_eq_some_iff.mp hrow
  rw [markDuplicatesInFile_eq, List.getElem?_map]
  have hentry : (indexedRows rows)[i]? = some (i, row.unmarked) := by
    unfold indexedRows
    rw [List.getElem?_zip_eq_some, List.getElem?_map, hrow]
    exact ⟨List.getElem?_range hlt, rfl⟩
  rw [hentry]
  rfl

/-- Marks that follow the connected components: a row alone is left as it is; of rows that agree the
first is left, and the others are copies of it; rows that do not agree are all flagged. -/
structure MarksComponents (rows marked : List NormalizedRow) : Prop where
  length : marked.length = rows.length
  alone : ∀ i row, rows[i]? = some row →
    (∀ j row', rows[j]? = some row' → Linked rows i j → j = i) → marked[i]? = some row.unmarked
  copies : ∀ i row, rows[i]? = some row → Agree rows i →
    ∃ first, Linked rows i first ∧ ∀ j row', rows[j]? = some row' → Linked rows i j →
      first ≤ j ∧ marked[j]? = some (if j = first then row'.unmarked
        else { row'.unmarked with autoResolvedDuplicate := true })
  conflict : ∀ i row, rows[i]? = some row → ¬ Agree rows i →
    marked[i]? = some { row.unmarked with errors := row.unmarked.errors ++ [.duplicateInFile] }

theorem length_dedup_eq_one_iff {α : Type} [DecidableEq α] {l : List α} {a : α} (ha : a ∈ l) :
    l.dedup.length = 1 ↔ ∀ b ∈ l, b = a := by
  rw [List.length_eq_one_iff]
  constructor
  · rintro ⟨c, hc⟩ b hb
    have hb' := List.mem_dedup.mpr hb
    have ha' := List.mem_dedup.mpr ha
    rw [hc, List.mem_singleton] at hb' ha'
    rw [hb', ha']
  · intro h
    refine ⟨a, ?_⟩
    have hnodup := List.nodup_dedup l
    have hall : ∀ b ∈ l.dedup, b = a := fun b hb => h b (List.mem_dedup.mp hb)
    have hmem : a ∈ l.dedup := List.mem_dedup.mpr ha
    generalize l.dedup = m at hnodup hall hmem
    cases m with
    | nil => exact absurd hmem List.not_mem_nil
    | cons b bs =>
      have hb : b = a := hall b List.mem_cons_self
      cases bs with
      | nil => rw [hb]
      | cons c cs =>
        have hc : c = a := hall c (List.mem_cons_of_mem _ List.mem_cons_self)
        rw [hb, hc] at hnodup
        exact absurd List.mem_cons_self (List.nodup_cons.mp hnodup).1

theorem pairwise_fileGroup (rows : List NormalizedRow) (i : ℕ) :
    (fileGroup rows i).Pairwise fun e f => e.1 < f.1 := by
  have hmap : (indexedRows rows).map Prod.fst = List.range rows.length := by
    unfold indexedRows
    exact List.map_fst_zip (by simp)
  have hsorted : ((indexedRows rows).map Prod.fst).Pairwise (· < ·) := by
    rw [hmap]
    exact List.pairwise_lt_range
  exact (List.pairwise_map.mp hsorted).sublist List.filter_sublist

theorem agree_iff {row : NormalizedRow} (hrow : rows[i]? = some row) :
    ((fileGroup rows i).map fun x => x.2.signature).dedup.length = 1 ↔ Agree rows i := by
  have hself : (i, row.unmarked) ∈ fileGroup rows i :=
    mem_fileGroup_iff.mpr ⟨row, hrow, rfl, .refl i⟩
  have hsignature : row.unmarked.signature ∈ (fileGroup rows i).map fun x => x.2.signature :=
    List.mem_map_of_mem (f := fun x : ℕ × NormalizedRow => x.2.signature) hself
  rw [length_dedup_eq_one_iff hsignature]
  constructor
  · intro h j row₁ row' hlinked hrow₁ hrow'
    rw [hrow] at hrow₁
    cases hrow₁
    apply h row'.signature
    rw [List.mem_map]
    exact ⟨(j, row'.unmarked), mem_fileGroup_iff.mpr ⟨row', hrow', rfl, hlinked.symm⟩, rfl⟩
  · intro h b hb
    obtain ⟨⟨j, v⟩, hmem, rfl⟩ := List.mem_map.mp hb
    obtain ⟨row', hrow', rfl, hlinked⟩ := mem_fileGroup_iff.mp hmem
    exact h j row row' hlinked.symm hrow hrow'

theorem length_fileGroup_le (h : ∀ j row', rows[j]? = some row' → Linked rows i j → j = i) :
    (fileGroup rows i).length ≤ 1 := by
  have hindex : ∀ e ∈ fileGroup rows i, e.1 = i := by
    rintro ⟨j, v⟩ he
    obtain ⟨row', hrow', -, hlinked⟩ := mem_fileGroup_iff.mp he
    exact h j row' hrow' hlinked.symm
  have hpairwise := pairwise_fileGroup rows i
  generalize fileGroup rows i = group at hindex hpairwise
  match group with
  | [] => exact Nat.zero_le 1
  | [e] => exact Nat.le_refl 1
  | e :: f :: rest =>
    have he := hindex e List.mem_cons_self
    have hf := hindex f (List.mem_cons_of_mem _ List.mem_cons_self)
    have hlt := (List.pairwise_cons.mp hpairwise).1 f List.mem_cons_self
    omega

theorem exists_first {row : NormalizedRow} (hrow : rows[i]? = some row) :
    ∃ first, Linked rows i first ∧ (fileGroup rows i).head?.map Prod.fst = some first ∧
      ∀ j row', rows[j]? = some row' → Linked rows i j → first ≤ j := by
  have hpairwise := pairwise_fileGroup rows i
  have hself : (i, row.unmarked) ∈ fileGroup rows i :=
    mem_fileGroup_iff.mpr ⟨row, hrow, rfl, .refl i⟩
  cases hgroup : fileGroup rows i with
  | nil =>
    rw [hgroup] at hself
    exact absurd hself List.not_mem_nil
  | cons e rest =>
    have he : e ∈ fileGroup rows i := by
      rw [hgroup]
      exact List.mem_cons_self
    obtain ⟨j, v⟩ := e
    obtain ⟨-, -, -, hlinked⟩ := mem_fileGroup_iff.mp he
    refine ⟨j, hlinked.symm, rfl, fun k row' hrow' hk => ?_⟩
    have hmem : (k, row'.unmarked) ∈ fileGroup rows i :=
      mem_fileGroup_iff.mpr ⟨row', hrow', rfl, hk.symm⟩
    rw [hgroup] at hmem hpairwise
    rcases List.mem_cons.mp hmem with heq | hlater
    · cases heq
      exact Nat.le_refl _
    · exact Nat.le_of_lt ((List.pairwise_cons.mp hpairwise).1 _ hlater)

theorem fst_eq_of_head {α β : Type} {l : List (α × β)} {a first : α} {b : β} (hone : l.length ≤ 1)
    (hmem : (a, b) ∈ l) (hhead : l.head?.map Prod.fst = some first) : a = first := by
  cases l with
  | nil => exact absurd hmem List.not_mem_nil
  | cons e es =>
    have hnil : es = [] := by
      rw [List.length_cons] at hone
      exact List.length_eq_zero_iff.mp (by omega)
    rw [hnil, List.mem_singleton] at hmem
    rw [← hmem] at hhead
    exact Option.some.inj hhead

theorem marksComponents (rows : List NormalizedRow) :
    MarksComponents rows (markDuplicatesInFile rows) where
  length := by
    have hnumbers := congrArg List.length (map_rowNumber_marked rows)
    rwa [List.length_map, List.length_map] at hnumbers
  alone := by
    intro i row hrow halone
    rw [getElem?_marked hrow]
    unfold markRow
    rw [if_pos (length_fileGroup_le halone)]
  copies := by
    intro i row hrow hagree
    obtain ⟨first, hlinked, hhead, hfirst⟩ := exists_first hrow
    refine ⟨first, hlinked, fun j row' hrow' hj => ⟨hfirst j row' hrow' hj, ?_⟩⟩
    have hgroup : fileGroup rows j = fileGroup rows i :=
      fileGroup_congr (fileRoot_eq_iff.mpr hj.symm)
    have hmem : (j, row'.unmarked) ∈ fileGroup rows i :=
      mem_fileGroup_iff.mpr ⟨row', hrow', rfl, hj.symm⟩
    rw [getElem?_marked hrow', hgroup]
    unfold markRow
    by_cases hone : (fileGroup rows i).length ≤ 1
    · have hsame : j = first := fst_eq_of_head hone hmem hhead
      rw [if_pos hone, if_pos hsame]
    · rw [if_neg hone, if_pos ((agree_iff hrow).mpr hagree), hhead]
      by_cases hsame : j = first
      · rw [if_pos (congrArg some hsame.symm), if_pos hsame]
      · rw [if_neg fun heq => hsame (Option.some.inj heq).symm, if_neg hsame]
  conflict := by
    intro i row hrow hconflict
    have hmany : ¬ (fileGroup rows i).length ≤ 1 := by
      intro hone
      apply hconflict
      intro j row₁ row' hlinked hrow₁ hrow'
      rw [hrow] at hrow₁
      cases hrow₁
      have hself : (i, row.unmarked) ∈ fileGroup rows i :=
        mem_fileGroup_iff.mpr ⟨row, hrow, rfl, .refl i⟩
      have hmem : (j, row'.unmarked) ∈ fileGroup rows i :=
        mem_fileGroup_iff.mpr ⟨row', hrow', rfl, hlinked.symm⟩
      by_contra hne
      have hdiffer : (i, row.unmarked) ≠ (j, row'.unmarked) := by
        intro heq
        have hij : i = j := congrArg Prod.fst heq
        rw [← hij, hrow] at hrow'
        cases hrow'
        exact hne rfl
      exact absurd (one_lt_length_of_mem hself hmem hdiffer) (Nat.not_lt.mpr hone)
    rw [getElem?_marked hrow]
    unfold markRow
    rw [if_neg hmany, if_neg fun hcopies => hconflict ((agree_iff hrow).mp hcopies)]

/-- The rows in another order: the row at an index is found again at the index that `σ` gives. -/
def Reordered (σ : Equiv.Perm ℕ) (rows rows' : List NormalizedRow) : Prop :=
  ∀ i, rows'[σ i]? = rows[i]?

theorem Reordered.symm {σ : Equiv.Perm ℕ} (h : Reordered σ rows rows') :
    Reordered σ.symm rows' rows := by
  intro i
  rw [← h, Equiv.apply_symm_apply]

theorem Reordered.linked {σ : Equiv.Perm ℕ} (h : Reordered σ rows rows')
    (hlinked : Linked rows i j) : Linked rows' (σ i) (σ j) := by
  induction hlinked with
  | rel x y hshare =>
    obtain ⟨row, row', hrow, hrow', hk⟩ := hshare
    exact .rel _ _ ⟨row, row', (h x).trans hrow, (h y).trans hrow', hk⟩
  | refl x => exact .refl _
  | symm x y _ ih => exact ih.symm
  | trans x y z _ _ ih₁ ih₂ => exact ih₁.trans _ _ _ ih₂

theorem Reordered.linked_iff {σ : Equiv.Perm ℕ} (h : Reordered σ rows rows') :
    Linked rows' (σ i) (σ j) ↔ Linked rows i j := by
  constructor
  · intro hlinked
    have hback := h.symm.linked hlinked
    rwa [Equiv.symm_apply_apply, Equiv.symm_apply_apply] at hback
  · exact h.linked

theorem Reordered.agree {σ : Equiv.Perm ℕ} (h : Reordered σ rows rows') (hagree : Agree rows i) :
    Agree rows' (σ i) := by
  intro j row row' hlinked hrow hrow'
  have hj : σ (σ.symm j) = j := Equiv.apply_symm_apply σ j
  rw [← hj] at hlinked hrow'
  rw [h] at hrow hrow'
  exact hagree (σ.symm j) row row' (h.linked_iff.mp hlinked) hrow hrow'

def NormalizedRow.Flagged (row : NormalizedRow) : Prop := .duplicateInFile ∈ row.errors

theorem unmarked_not_flagged (row : NormalizedRow) : ¬ row.unmarked.Flagged := by
  unfold NormalizedRow.Flagged NormalizedRow.unmarked
  intro h
  have hne := (List.mem_filter.mp h).2
  simp at hne

theorem conflict_of_flagged {row m : NormalizedRow} (hrow : rows[i]? = some row)
    (hm : (markDuplicatesInFile rows)[i]? = some m) (hflagged : m.Flagged) : ¬ Agree rows i := by
  intro hagree
  obtain ⟨first, -, hcopies⟩ := (marksComponents rows).copies i row hrow hagree
  have hmarked := (hcopies i row hrow (.refl i)).2
  rw [hm] at hmarked
  cases hmarked
  split at hflagged
  · exact unmarked_not_flagged row hflagged
  · exact unmarked_not_flagged row hflagged

theorem Reordered.flagged {σ : Equiv.Perm ℕ} (h : Reordered σ rows rows') {m : NormalizedRow}
    (hm : (markDuplicatesInFile rows)[i]? = some m) (hflagged : m.Flagged) :
    (markDuplicatesInFile rows')[σ i]? = some m := by
  obtain ⟨hlt, -⟩ := List.getElem?_eq_some_iff.mp hm
  rw [(marksComponents rows).length] at hlt
  have hrow : rows[i]? = some rows[i] := List.getElem?_eq_getElem hlt
  have hconflict := conflict_of_flagged hrow hm hflagged
  have hconflict' : ¬ Agree rows' (σ i) := by
    intro hagree
    have hback := h.symm.agree hagree
    rw [Equiv.symm_apply_apply] at hback
    exact hconflict hback
  rw [← hm, (marksComponents rows).conflict i _ hrow hconflict]
  exact (marksComponents rows').conflict (σ i) _ ((h i).trans hrow) hconflict'

/-- **Duplicate detection finds the connected components.** The loops end; two rows are in one
group exactly when a chain of shared hashes or numbers connects them, and the marks follow these
components. In any other order of the rows the groups are the same, and the same rows are flagged
with the same content. -/
theorem duplicates_are_components (rows : List NormalizedRow) :
    (∀ rounds, rows.length < rounds →
      markDuplicatesWithin rounds rows = some (markDuplicatesInFile rows)) ∧
    (∀ i j, fileRoot rows i = fileRoot rows j ↔ Linked rows i j) ∧
    MarksComponents rows (markDuplicatesInFile rows) ∧
    ∀ (σ : Equiv.Perm ℕ) (rows' : List NormalizedRow), Reordered σ rows rows' →
      (∀ i j, fileRoot rows' (σ i) = fileRoot rows' (σ j) ↔ fileRoot rows i = fileRoot rows j) ∧
      ∀ i m, m.Flagged → ((markDuplicatesInFile rows')[σ i]? = some m ↔
        (markDuplicatesInFile rows)[i]? = some m) := by
  refine ⟨fun rounds h => markDuplicatesWithin_eq h, fun i j => fileRoot_eq_iff,
    marksComponents rows, fun σ rows' h => ⟨fun i j => ?_, fun i m hflagged => ⟨?_, ?_⟩⟩⟩
  · rw [fileRoot_eq_iff, fileRoot_eq_iff]
    exact h.linked_iff
  · intro hm
    have hback := h.symm.flagged hm hflagged
    rwa [Equiv.symm_apply_apply] at hback
  · intro hm
    exact h.flagged hm hflagged

end SchoolPlatform
