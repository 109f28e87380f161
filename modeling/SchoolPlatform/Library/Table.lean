import Mathlib.Data.List.Nodup
import Mathlib.Tactic.Common

/-!
# Tables with a key

A table is a list of rows. With distinct keys, looking a key up finds the one row that has it,
and overwriting a row (`Table.put`) keeps the keys and replaces that row alone.
-/

namespace Table

variable {α κ : Type} [DecidableEq κ] {key : α → κ} {rows : List α}

/-- Overwrite the row that has the key of `row`. -/
def put (key : α → κ) (row : α) (rows : List α) : List α :=
  rows.map fun x => if key x = key row then row else x

omit [DecidableEq κ] in
theorem eq_of_key_eq (h : (rows.map key).Nodup) {x y : α} (hx : x ∈ rows) (hy : y ∈ rows)
    (hk : key x = key y) : x = y :=
  List.inj_on_of_nodup_map h hx hy hk

theorem find?_eq_some_iff (h : (rows.map key).Nodup) (k : κ) (x : α) :
    (rows.find? fun y => key y = k) = some x ↔ x ∈ rows ∧ key x = k := by
  constructor
  · intro hf
    have hk := List.find?_some hf
    exact ⟨List.mem_of_find?_eq_some hf, by simpa using hk⟩
  · rintro ⟨hx, hk⟩
    cases hf : rows.find? fun y => key y = k with
    | none =>
      have hno := List.find?_eq_none.mp hf x hx
      simp [hk] at hno
    | some y =>
      have hyk : key y = k := by simpa using List.find?_some hf
      have hyx := eq_of_key_eq h (List.mem_of_find?_eq_some hf) hx (hyk.trans hk.symm)
      rw [hyx]

theorem filter_key_eq (h : (rows.map key).Nodup) {x : α} (hx : x ∈ rows) :
    rows.filter (fun y => key y = key x) = [x] := by
  induction rows with
  | nil => cases hx
  | cons y rows ih =>
    obtain ⟨hnot, hnodup⟩ := List.nodup_cons.mp h
    rcases List.mem_cons.mp hx with rfl | hx
    · have hrest : rows.filter (fun y => key y = key x) = [] := by
        rw [List.filter_eq_nil_iff]
        intro z hz hk
        simp only [decide_eq_true_eq] at hk
        exact hnot (List.mem_map.mpr ⟨z, hz, hk⟩)
      simp [hrest]
    · have hne : key y ≠ key x := by
        intro hk
        rw [hk] at hnot
        exact hnot (List.mem_map_of_mem hx)
      simp [hne, ih hnodup hx]

@[simp] theorem map_put (key : α → κ) (row : α) (rows : List α) :
    (put key row rows).map key = rows.map key := by
  unfold put
  rw [List.map_map]
  apply List.map_congr_left
  intro x hx
  by_cases hk : key x = key row <;> simp [hk]

theorem countP_put (h : (rows.map key).Nodup) {x row : α} (hx : x ∈ rows) (hk : key x = key row)
    (p : α → Bool) :
    (put key row rows).countP p + (if p x then 1 else 0) =
      rows.countP p + (if p row then 1 else 0) := by
  induction rows with
  | nil => cases hx
  | cons y rows ih =>
    obtain ⟨hnot, hnodup⟩ := List.nodup_cons.mp h
    have hput : put key row (y :: rows) =
        (if key y = key row then row else y) :: put key row rows := rfl
    rw [hput, List.countP_cons, List.countP_cons]
    by_cases hy : key y = key row
    · have hxy : x = y := by
        rcases List.mem_cons.mp hx with hx | hx
        · exact hx
        · exact absurd (List.mem_map.mpr ⟨x, hx, hk.trans hy.symm⟩) hnot
      have hrest : put key row rows = rows := by
        have hsame : ∀ z ∈ rows, (if key z = key row then row else z) = z := fun z hz =>
          if_neg fun hzk => hnot (List.mem_map.mpr ⟨z, hz, hzk.trans hy.symm⟩)
        exact (List.map_congr_left hsame).trans (List.map_id' rows)
      rw [if_pos hy, hrest, hxy]
      omega
    · have hxrows : x ∈ rows := by
        rcases List.mem_cons.mp hx with rfl | hx
        · exact absurd hk hy
        · exact hx
      have hrest := ih hnodup hxrows
      rw [if_neg hy]
      omega

theorem mem_put_iff (key : α → κ) (row x : α) (hrow : ∃ y ∈ rows, key y = key row) :
    x ∈ put key row rows ↔ x = row ∨ (x ∈ rows ∧ key x ≠ key row) := by
  unfold put
  rw [List.mem_map]
  constructor
  · rintro ⟨y, hy, rfl⟩
    by_cases hk : key y = key row
    · simp [hk]
    · simp [hk, hy]
  · rintro (rfl | ⟨hx, hk⟩)
    · obtain ⟨y, hy, hyk⟩ := hrow
      exact ⟨y, hy, by simp [hyk]⟩
    · exact ⟨x, hx, by simp [hk]⟩

theorem find?_put_self (key : α → κ) (row : α) {x : α}
    (h : (rows.find? fun y => key y = key row) = some x) :
    ((put key row rows).find? fun y => key y = key row) = some row := by
  induction rows with
  | nil => cases h
  | cons y rows ih =>
    have hput : put key row (y :: rows) =
        (if key y = key row then row else y) :: put key row rows := rfl
    rw [hput]
    by_cases hk : key y = key row
    · simp [hk]
    · have hrest : (rows.find? fun z => key z = key row) = some x := by simpa [hk] using h
      simp [hk, ih hrest]

theorem find?_put_of_ne (key : α → κ) (row : α) {k : κ} (hk : key row ≠ k) :
    ((put key row rows).find? fun y => key y = k) = rows.find? fun y => key y = k := by
  induction rows with
  | nil => rfl
  | cons y rows ih =>
    have hput : put key row (y :: rows) =
        (if key y = key row then row else y) :: put key row rows := rfl
    rw [hput]
    by_cases hy : key y = key row
    · simp [hy, hk, ih]
    · simp only [hy, if_false, List.find?_cons, ih]

omit [DecidableEq κ] in
theorem map_filterMap_sublist {β : Type} {f : α → Option β} {key' : β → κ}
    (hkey : ∀ x y, f x = some y → key' y = key x) :
    ((rows.filterMap f).map key').Sublist (rows.map key) := by
  induction rows with
  | nil => simp
  | cons x rows ih =>
    cases hx : f x with
    | none =>
      rw [List.filterMap_cons_none hx, List.map_cons]
      exact ih.cons _
    | some y =>
      rw [List.filterMap_cons_some hx, List.map_cons, List.map_cons, hkey x y hx]
      exact ih.cons_cons _

omit [DecidableEq κ] in
theorem nodup_filterMap {β : Type} {f : α → Option β} {key' : β → κ}
    (h : (rows.map key).Nodup) (hkey : ∀ x y, f x = some y → key' y = key x) :
    ((rows.filterMap f).map key').Nodup :=
  h.sublist (map_filterMap_sublist hkey)

end Table
