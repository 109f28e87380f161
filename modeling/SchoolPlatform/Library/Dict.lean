import Mathlib.Data.List.Basic
import Mathlib.Data.List.Nodup
import Mathlib.Tactic.Common

/-!
# Insertion-ordered dictionaries

A dictionary keeps its keys in the order in which they were first inserted; writing a key that
is present replaces its value in place. Iteration goes through the entries in that order.
`Dict.ofList` is a dictionary comprehension (the last value of a key wins), `Dict.groupBy` the
idiom of appending each element to the list stored under its key.
-/

/-- An insertion-ordered dictionary, as its list of entries. -/
abbrev Dict (κ ν : Type) := List (κ × ν)

namespace Dict

variable {κ ν α : Type} [DecidableEq κ]

variable {d : Dict κ ν}

/-- The value stored under a key. -/
def get? : Dict κ ν → κ → Option ν
  | [], _ => none
  | (k', v) :: d, k => if k' = k then some v else get? d k

/-- Store a value under a key. -/
def insert : Dict κ ν → κ → ν → Dict κ ν
  | [], k, v => [(k, v)]
  | (k', v') :: d, k, v => if k' = k then (k', v) :: d else (k', v') :: insert d k v

def keys (d : Dict κ ν) : List κ := d.map Prod.fst

/-- A dictionary from its entries; a later entry of a key replaces an earlier one. -/
def ofList (l : List (κ × ν)) : Dict κ ν := l.foldl (fun d p => insert d p.1 p.2) []

/-- Every value replaced by what a function makes of it and its key. -/
def mapValues (f : κ → ν → ν) (d : Dict κ ν) : Dict κ ν := d.map fun p => (p.1, f p.1 p.2)

/-- The value of one key is changed, if there is one. -/
def adjust (d : Dict κ ν) (k : κ) (f : ν → ν) : Dict κ ν :=
  d.mapValues fun j v => if j = k then f v else v

def groupBy (key : α → κ) (l : List α) : Dict κ (List α) :=
  l.foldl (fun d a => insert d (key a) ((get? d (key a)).getD [] ++ [a])) []

@[simp] theorem get?_nil (k : κ) : get? ([] : Dict κ ν) k = none := rfl

theorem get?_map (f : κ → ν) (l : List κ) (k : κ) :
    get? (l.map fun x => (x, f x)) k = if k ∈ l then some (f k) else none := by
  induction l with
  | nil => rfl
  | cons x l ih =>
    rw [List.map_cons, get?, ih]
    by_cases hx : x = k
    · simp [hx]
    · simp [hx, Ne.symm hx]

@[simp] theorem get?_insert (d : Dict κ ν) (k j : κ) (v : ν) :
    get? (insert d k v) j = if k = j then some v else get? d j := by
  induction d with
  | nil => simp [insert, get?]
  | cons p d ih =>
    obtain ⟨k', v'⟩ := p
    simp only [insert]
    by_cases hk : k' = k
    · subst hk
      by_cases hj : k' = j <;> simp [get?, hj]
    · rw [if_neg hk]
      simp only [get?, ih]
      by_cases hj : k' = j
      · have hkj : k ≠ j := fun h => hk (hj.trans h.symm)
        simp [hj, hkj]
      · simp [hj]

@[simp] theorem get?_mapValues (f : κ → ν → ν) (d : Dict κ ν) (k : κ) :
    get? (mapValues f d) k = (get? d k).map (f k) := by
  induction d with
  | nil => rfl
  | cons p d ih =>
    obtain ⟨k', v⟩ := p
    by_cases hk : k' = k
    · simp [mapValues, get?, hk]
    · have hrest : get? (mapValues f d) k = (get? d k).map (f k) := ih
      simpa [mapValues, get?, hk] using hrest

@[simp] theorem get?_adjust (d : Dict κ ν) (k j : κ) (f : ν → ν) :
    get? (adjust d k f) j = if j = k then (get? d j).map f else get? d j := by
  unfold adjust
  rw [get?_mapValues]
  by_cases hj : j = k
  · simp [hj]
  · simp [hj]

theorem get?_filter_key (keep : κ → Prop) [DecidablePred keep] (d : Dict κ ν) (k : κ) :
    get? (d.filter fun e => keep e.1) k = if keep k then get? d k else none := by
  induction d with
  | nil => simp
  | cons e d ih =>
    obtain ⟨j, v⟩ := e
    by_cases hjk : j = k
    · subst hjk
      by_cases hkeep : keep j <;> simp [hkeep, get?, ih]
    · by_cases hkeep : keep j <;> simp [hkeep, get?, hjk, ih]

omit [DecidableEq κ] in
theorem mapValues_congr {f g : κ → ν → ν} {d : Dict κ ν} (h : ∀ p ∈ d, f p.1 p.2 = g p.1 p.2) :
    mapValues f d = mapValues g d := by
  apply List.map_congr_left
  intro p hp
  rw [h p hp]

omit [DecidableEq κ] in
theorem mapValues_mapValues (f g : κ → ν → ν) (d : Dict κ ν) :
    mapValues g (mapValues f d) = mapValues (fun k v => g k (f k v)) d := by
  unfold mapValues
  rw [List.map_map]
  rfl

theorem foldl_adjust (f : κ × α → ν → ν) (l : List (κ × α)) (hl : (l.map Prod.fst).Nodup)
    (d : Dict κ ν) : l.foldl (fun d p => d.adjust p.1 (f p)) d =
      mapValues (fun k v => (l.find? fun p => p.1 = k).elim v fun p => f p v) d := by
  induction l generalizing d with
  | nil => simp [mapValues]
  | cons p l ih =>
    rw [List.map_cons, List.nodup_cons] at hl
    rw [List.foldl_cons, ih hl.2]
    unfold adjust
    rw [mapValues_mapValues]
    congr 1
    funext k v
    by_cases hk : k = p.1
    · subst hk
      -- The key does not come again.
      have hlast : (l.find? fun q => q.1 = p.1) = none := by
        rw [List.find?_eq_none]
        intro q hq hkey
        rw [← of_decide_eq_true hkey] at hl
        exact hl.1 (List.mem_map_of_mem hq)
      simp [hlast]
    · have hfirst : ¬ p.1 = k := fun h => hk h.symm
      simp [hk, hfirst]

theorem get?_append_singleton (d : Dict κ ν) (k j : κ) (v : ν) :
    get? (d ++ [(k, v)]) j = (get? d j).or (if k = j then some v else none) := by
  induction d with
  | nil => simp [get?]
  | cons p d ih =>
    simp only [List.cons_append, get?, ih]
    by_cases hj : p.1 = j
    · simp [hj]
    · simp [hj]

theorem mem_keys_insert (d : Dict κ ν) (k j : κ) (v : ν) :
    j ∈ keys (insert d k v) ↔ j = k ∨ j ∈ keys d := by
  induction d with
  | nil => simp [insert, keys]
  | cons p d ih =>
    obtain ⟨k', v'⟩ := p
    simp only [insert]
    by_cases hk : k' = k
    · subst hk
      simp [keys]
    · rw [if_neg hk]
      simp only [keys, List.map_cons, List.mem_cons] at ih ⊢
      rw [ih]
      tauto

theorem nodup_keys_insert (h : (keys d).Nodup) (k : κ) (v : ν) : (keys (insert d k v)).Nodup := by
  induction d with
  | nil => simp [insert, keys]
  | cons p d ih =>
    obtain ⟨k', v'⟩ := p
    simp only [keys, List.map_cons, List.nodup_cons] at h
    simp only [insert]
    by_cases hk : k' = k
    · subst hk
      simpa [keys] using h
    · rw [if_neg hk]
      have hnot : k' ∉ keys (insert d k v) := by
        rw [mem_keys_insert]
        rintro (rfl | hmem)
        · exact hk rfl
        · exact h.1 hmem
      simpa [keys] using ⟨by simpa [keys] using hnot, ih h.2⟩

theorem mem_iff_get? (h : (keys d).Nodup) (k : κ) (v : ν) : (k, v) ∈ d ↔ get? d k = some v := by
  induction d with
  | nil => simp
  | cons p d ih =>
    obtain ⟨k', v'⟩ := p
    simp only [keys, List.map_cons, List.nodup_cons] at h
    simp only [get?, List.mem_cons, Prod.mk.injEq]
    by_cases hk : k' = k
    · subst hk
      have hnot : (k', v) ∉ d := fun hm => h.1 (List.mem_map_of_mem hm)
      simp [hnot, eq_comm]
    · have hk' : k ≠ k' := fun h => hk h.symm
      simp [hk, hk', ih h.2]

theorem countP_le_one (hkeys : (keys d).Nodup) (k : κ) {P : κ × ν → Bool}
    (h : ∀ p ∈ d, P p = true → p.1 = k) : d.countP P ≤ 1 := by
  have hcount : d.countP P ≤ d.countP fun p => p.1 == k := by
    apply List.countP_mono_left
    intro p hp hP
    exact beq_iff_eq.mpr (h p hp hP)
  have hkey : (d.countP fun p => p.1 == k) = (keys d).count k := by
    unfold keys List.count
    rw [List.countP_map]
    rfl
  rw [hkey] at hcount
  exact Nat.le_trans hcount (List.nodup_iff_count_le_one.mp hkeys k)

theorem mem_keys_iff (k : κ) : k ∈ keys d ↔ ∃ v, get? d k = some v := by
  induction d with
  | nil => simp [keys]
  | cons p d ih =>
    obtain ⟨k', v'⟩ := p
    simp only [keys, List.map_cons, List.mem_cons, get?] at ih ⊢
    by_cases hk : k' = k
    · simp [hk]
    · have hk' : k ≠ k' := fun h => hk h.symm
      rw [if_neg hk, ← ih]
      simp [hk']

theorem nodup_keys_foldl_insert (f : Dict κ ν → α → κ × ν) (l : List α) (h : (keys d).Nodup) :
    (keys (l.foldl (fun d a => insert d (f d a).1 (f d a).2) d)).Nodup := by
  induction l generalizing d with
  | nil => exact h
  | cons a l ih => exact ih (nodup_keys_insert h _ _)

theorem nodup_keys_ofList (l : List (κ × ν)) : (keys (ofList l)).Nodup :=
  nodup_keys_foldl_insert (fun _ p => p) l List.nodup_nil

theorem nodup_keys_groupBy (key : α → κ) (l : List α) : (keys (groupBy key l)).Nodup :=
  nodup_keys_foldl_insert (fun d a => (key a, (get? d (key a)).getD [] ++ [a])) l List.nodup_nil

theorem get?_ofList {l : List (κ × ν)} (h : (l.map Prod.fst).Nodup) (k : κ) (v : ν) :
    get? (ofList l) k = some v ↔ (k, v) ∈ l := by
  suffices hgen : ∀ d : Dict κ ν, (∀ p ∈ l, get? d p.1 = none) →
      (get? (l.foldl (fun d p => insert d p.1 p.2) d) k = some v ↔
        (k, v) ∈ l ∨ get? d k = some v) by
    simpa [ofList] using hgen [] (by simp)
  induction l with
  | nil => simp
  | cons p l ih =>
    obtain ⟨k', v'⟩ := p
    simp only [List.map_cons, List.nodup_cons] at h
    intro d hd
    have hd' : ∀ q ∈ l, get? (insert d k' v') q.1 = none := by
      intro q hq
      have hne : k' ≠ q.1 := by
        rintro rfl
        exact h.1 (List.mem_map_of_mem hq)
      rw [get?_insert, if_neg hne]
      exact hd q (List.mem_cons_of_mem _ hq)
    rw [List.foldl_cons, ih h.2 _ hd', get?_insert]
    have hk'd : get? d k' = none := hd (k', v') List.mem_cons_self
    by_cases hk : k' = k
    · subst hk
      have hnot : (k', v) ∉ l := fun hm => h.1 (List.mem_map_of_mem hm)
      simp [hnot, hk'd, eq_comm]
    · have hk' : k ≠ k' := fun h => hk h.symm
      simp [hk, hk']

theorem mem_of_get?_ofList {l : List (κ × ν)} {k : κ} {v : ν} (h : get? (ofList l) k = some v) :
    (k, v) ∈ l := by
  suffices hgen : ∀ d : Dict κ ν, get? (l.foldl (fun d p => insert d p.1 p.2) d) k = some v →
      (k, v) ∈ l ∨ get? d k = some v by
    simpa using hgen [] h
  clear h
  induction l with
  | nil => exact fun d h => .inr h
  | cons p l ih =>
    intro d h
    rcases ih _ h with hm | hd
    · exact .inl (List.mem_cons_of_mem _ hm)
    · rw [get?_insert] at hd
      split at hd
      · rename_i hk
        simp only [Option.some.injEq] at hd
        exact .inl (List.mem_cons.mpr (.inl (by rw [← hk, ← hd])))
      · exact .inr hd

theorem get?_ofList_isSome {l : List (κ × ν)} {k : κ} {v : ν} (h : (k, v) ∈ l) :
    ∃ w, get? (ofList l) k = some w := by
  suffices hgen : ∀ d : Dict κ ν, ((k, v) ∈ l ∨ ∃ w, get? d k = some w) →
      ∃ w, get? (l.foldl (fun d p => insert d p.1 p.2) d) k = some w from hgen [] (.inl h)
  clear h
  induction l with
  | nil => simp
  | cons p l ih =>
    intro d hd
    apply ih
    rw [get?_insert]
    rcases hd with hm | ⟨w, hw⟩
    · rcases List.mem_cons.mp hm with rfl | hm
      · exact .inr ⟨v, by simp⟩
      · exact .inl hm
    · by_cases hk : p.1 = k
      · exact .inr ⟨p.2, by simp [hk]⟩
      · exact .inr ⟨w, by simp [hk, hw]⟩

theorem mem_keys_ofList (l : List (κ × ν)) (k : κ) :
    k ∈ keys (ofList l) ↔ k ∈ l.map Prod.fst := by
  rw [mem_keys_iff]
  constructor
  · rintro ⟨v, hv⟩
    exact List.mem_map.mpr ⟨(k, v), mem_of_get?_ofList hv, rfl⟩
  · intro h
    obtain ⟨⟨k', v⟩, hmem, rfl⟩ := List.mem_map.mp h
    exact get?_ofList_isSome hmem

theorem get?_groupBy (key : α → κ) (l : List α) (k : κ) :
    get? (groupBy key l) k =
      if l.filter (fun a => key a = k) = [] then none else some (l.filter fun a => key a = k) := by
  suffices hgen : ∀ d : Dict κ (List α),
      get? (l.foldl (fun d a => insert d (key a) ((get? d (key a)).getD [] ++ [a])) d) k =
        if l.filter (fun a => key a = k) = [] then get? d k
        else some ((get? d k).getD [] ++ l.filter fun a => key a = k) by
    simpa [groupBy] using hgen []
  induction l with
  | nil => simp
  | cons a l ih =>
    intro d
    rw [List.foldl_cons, ih, get?_insert]
    by_cases hk : key a = k
    · subst hk
      by_cases hl : l.filter (fun b => key b = key a) = []
      · simp [hl]
      · simp [hl]
    · simp [hk]

theorem mem_keys_groupBy (key : α → κ) (l : List α) (k : κ) :
    k ∈ keys (groupBy key l) ↔ ∃ a ∈ l, key a = k := by
  rw [mem_keys_iff, get?_groupBy]
  constructor
  · rintro ⟨v, hv⟩
    split at hv
    · cases hv
    · rename_i hne
      obtain ⟨a, ha⟩ := List.exists_mem_of_ne_nil _ hne
      rw [List.mem_filter] at ha
      exact ⟨a, ha.1, by simpa using ha.2⟩
  · rintro ⟨a, ha, hk⟩
    have hmem : a ∈ l.filter fun b => key b = k := by simp [ha, hk]
    rw [if_neg (List.ne_nil_of_mem hmem)]
    exact ⟨_, rfl⟩

theorem getD_get?_groupBy (key : α → κ) (l : List α) (k : κ) :
    (get? (groupBy key l) k).getD [] = l.filter fun a => key a = k := by
  rw [get?_groupBy]
  split_ifs with h
  · rw [h]
    rfl
  · rfl

theorem mem_groupBy (key : α → κ) (l : List α) (k : κ) (v : List α) :
    (k, v) ∈ groupBy key l ↔ v ≠ [] ∧ v = l.filter fun a => key a = k := by
  rw [mem_iff_get? (nodup_keys_groupBy key l), get?_groupBy]
  split_ifs with h
  · constructor
    · intro hnone
      cases hnone
    · rintro ⟨hne, rfl⟩
      exact absurd h hne
  · constructor
    · intro hsome
      cases hsome
      exact ⟨h, rfl⟩
    · rintro ⟨-, rfl⟩
      rfl

section Chosen

variable {choose : List α → Option α} {key : α → κ} {l : List α} {x y : α}

theorem mem_chosen (hnil : choose [] = none) :
    x ∈ (groupBy key l).filterMap (fun entry => choose entry.2) ↔
      ∃ k, choose (l.filter fun a => key a = k) = some x := by
  rw [List.mem_filterMap]
  constructor
  · rintro ⟨⟨k, v⟩, hentry, hx⟩
    obtain ⟨-, rfl⟩ := (mem_groupBy key l k v).mp hentry
    exact ⟨k, hx⟩
  · rintro ⟨k, hx⟩
    refine ⟨(k, l.filter fun a => key a = k), (mem_groupBy key l k _).mpr ⟨?_, rfl⟩, hx⟩
    intro hempty
    rw [hempty, hnil] at hx
    cases hx

theorem eq_of_mem_chosen (hpick : ∀ g a, choose g = some a → a ∈ g)
    (hnil : choose [] = none)
    (hx : x ∈ (groupBy key l).filterMap fun entry => choose entry.2)
    (hy : y ∈ (groupBy key l).filterMap fun entry => choose entry.2) (hkey : key x = key y) :
    x = y := by
  obtain ⟨k, hx⟩ := (mem_chosen hnil).mp hx
  obtain ⟨k', hy⟩ := (mem_chosen hnil).mp hy
  have hk : key x = k := by simpa using (List.mem_filter.mp (hpick _ _ hx)).2
  have hk' : key y = k' := by simpa using (List.mem_filter.mp (hpick _ _ hy)).2
  rw [← hk, hkey, hk', hy] at hx
  exact (Option.some.inj hx).symm

end Chosen

end Dict
