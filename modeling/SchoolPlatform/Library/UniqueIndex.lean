import SchoolPlatform.Library.Dict

/-!
# Unique indexes

Rows are kept by their ids in a dictionary. A unique index has at most one row under each of its
entries; a partial index leaves some rows out. A row that is inserted or changed keeps an index
unique when its entry is free, or was its own.
-/

namespace Dict

variable {κ ν ι : Type} [DecidableEq κ]

variable {k : κ} {v : ν} {f : ν → ν}

omit [DecidableEq κ] in
theorem keys_mapValues (d : Dict κ ν) (f : κ → ν → ν) : keys (d.mapValues f) = keys d := by
  unfold keys mapValues
  rw [List.map_map]
  rfl

theorem keys_adjust (d : Dict κ ν) (k : κ) (f : ν → ν) : keys (d.adjust k f) = keys d :=
  keys_mapValues d _

theorem mem_adjust {d : Dict κ ν} (hkeys : (keys d).Nodup) (hget : get? d k = some v) {p : κ × ν} :
    p ∈ d.adjust k f ↔ p = (k, f v) ∨ p ∈ d ∧ p.1 ≠ k := by
  have hkeys' : (keys (d.adjust k f)).Nodup := by
    rw [keys_adjust]
    exact hkeys
  obtain ⟨j, w⟩ := p
  rw [mem_iff_get? hkeys' j w, get?_adjust, mem_iff_get? hkeys j w]
  by_cases hj : j = k
  · subst hj
    simp [hget, eq_comm]
  · simp [hj]

omit [DecidableEq κ] in
theorem mem_append_singleton {d : Dict κ ν} {k : κ} {v : ν} {p : κ × ν} :
    p ∈ d ++ [(k, v)] ↔ p ∈ d ∨ p = (k, v) := by
  rw [List.mem_append, List.mem_singleton]

theorem get?_eq_none {d : Dict κ ν} (h : ∀ p ∈ d, p.1 ≠ k) : get? d k = none := by
  induction d with
  | nil => rfl
  | cons p d ih =>
    have hp : p.1 ≠ k := h p List.mem_cons_self
    simp only [get?, hp, if_false]
    exact ih fun q hq => h q (List.mem_cons_of_mem p hq)

theorem nodup_keys_append {d : Dict κ ν} (h : (keys d).Nodup) (v : ν) (hnew : get? d k = none) :
    (keys (d ++ [(k, v)])).Nodup := by
  have hkeys : keys (d ++ [(k, v)]) = keys d ++ [k] := by simp [keys]
  rw [hkeys, List.nodup_append']
  refine ⟨h, List.nodup_singleton k, fun j hj hlast => ?_⟩
  obtain ⟨w, hw⟩ := (mem_keys_iff j).mp hj
  rw [List.mem_singleton.mp hlast, hnew] at hw
  cases hw

variable [DecidableEq ι] {index : ν → Option ι} {d : Dict κ ν} {i : ι}

/-- Some row has the entry. -/
def taken (index : ν → Option ι) (d : Dict κ ν) (i : ι) : Bool :=
  d.any fun p => index p.2 = some i

/-- Some row other than the one with the id has the entry. -/
def takenBesides (index : ν → Option ι) (k : κ) (d : Dict κ ν) (i : ι) : Bool :=
  d.any fun p => p.1 ≠ k && index p.2 = some i

/-- No two rows have one entry. -/
def Unique (index : ν → Option ι) (d : Dict κ ν) : Prop :=
  ∀ p ∈ d, ∀ q ∈ d, ∀ i, index p.2 = some i → index q.2 = some i → q.1 = p.1

omit [DecidableEq κ] in
theorem taken_eq_false : taken index d i = false ↔ ∀ p ∈ d, index p.2 ≠ some i := by
  simp [taken]

omit [DecidableEq κ] in
@[simp] theorem taken_append (k : κ) (v : ν) :
    taken index (d ++ [(k, v)]) i = (taken index d i || decide (index v = some i)) := by
  simp [taken]

theorem taken_adjust (hkeys : (keys d).Nodup) (hget : get? d k = some v)
    (hsame : index (f v) = some i ↔ index v = some i) :
    taken index (d.adjust k f) i = taken index d i := by
  have hmem : (k, v) ∈ d := (mem_iff_get? hkeys k v).mpr hget
  rw [Bool.eq_iff_iff]
  simp only [taken, List.any_eq_true, decide_eq_true_eq]
  constructor
  · rintro ⟨p, hp, hi⟩
    rcases (mem_adjust hkeys hget).mp hp with rfl | ⟨hp, -⟩
    · exact ⟨(k, v), hmem, hsame.mp hi⟩
    · exact ⟨p, hp, hi⟩
  · rintro ⟨p, hp, hi⟩
    by_cases hpk : p.1 = k
    · obtain ⟨j, w⟩ := p
      obtain rfl : j = k := hpk
      have hw : w = v := by
        have hgetw := (mem_iff_get? hkeys j w).mp hp
        rw [hget, Option.some.injEq] at hgetw
        exact hgetw.symm
      subst hw
      exact ⟨(j, f w), (mem_adjust hkeys hget).mpr (.inl rfl), hsame.mpr hi⟩
    · exact ⟨p, (mem_adjust hkeys hget).mpr (.inr ⟨hp, hpk⟩), hi⟩

omit [DecidableEq κ] [DecidableEq ι] in
theorem unique_nil : Unique index ([] : Dict κ ν) := fun _ hp => absurd hp List.not_mem_nil

omit [DecidableEq κ] in
theorem Unique.append (h : Unique index d) (k : κ) {v : ν}
    (hfree : ∀ i, index v = some i → taken index d i = false) :
    Unique index (d ++ [(k, v)]) := by
  intro p hp q hq i hpi hqi
  rcases mem_append_singleton.mp hp with hp | rfl <;>
    rcases mem_append_singleton.mp hq with hq | rfl
  · exact h p hp q hq i hpi hqi
  · exact absurd hpi (taken_eq_false.mp (hfree i hqi) p hp)
  · exact absurd hqi (taken_eq_false.mp (hfree i hpi) q hq)
  · rfl

omit [DecidableEq κ] [DecidableEq ι] in
theorem Unique.mapValues (h : Unique index d) {f : κ → ν → ν}
    (hsub : ∀ k v i, index (f k v) = some i → index v = some i) :
    Unique index (d.mapValues f) := by
  intro p hp q hq i hpi hqi
  obtain ⟨p', hp', rfl⟩ := List.mem_map.mp hp
  obtain ⟨q', hq', rfl⟩ := List.mem_map.mp hq
  exact h p' hp' q' hq' i (hsub _ _ i hpi) (hsub _ _ i hqi)

theorem takenBesides_eq_false :
    takenBesides index k d i = false ↔ ∀ p ∈ d, p.1 ≠ k → index p.2 ≠ some i := by
  simp [takenBesides]

theorem Unique.adjust_besides (h : Unique index d) (hkeys : (keys d).Nodup)
    (hget : get? d k = some v)
    (hfree : ∀ i, index (f v) = some i → takenBesides index k d i = false) :
    Unique index (d.adjust k f) := by
  intro p hp q hq i hpi hqi
  rcases (mem_adjust hkeys hget).mp hp with rfl | ⟨hp, hpk⟩ <;>
    rcases (mem_adjust hkeys hget).mp hq with rfl | ⟨hq, hqk⟩
  · rfl
  · exact absurd hqi (takenBesides_eq_false.mp (hfree i hpi) q hq hqk)
  · exact absurd hpi (takenBesides_eq_false.mp (hfree i hqi) p hp hpk)
  · exact h p hp q hq i hpi hqi

theorem Unique.adjust (h : Unique index d) (hkeys : (keys d).Nodup) (hget : get? d k = some v)
    (hfree : ∀ i, index (f v) = some i → index v = some i ∨ taken index d i = false) :
    Unique index (d.adjust k f) := by
  have hmem : (k, v) ∈ d := (mem_iff_get? hkeys k v).mpr hget
  refine h.adjust_besides hkeys hget fun i hi => takenBesides_eq_false.mpr fun p hp hpk hpi => ?_
  rcases hfree i hi with hown | hnone
  · exact hpk (h (k, v) hmem p hp i hown hpi)
  · exact taken_eq_false.mp hnone p hp hpi

omit [DecidableEq ι] in
theorem Unique.countP_le_one (h : Unique index d) (hkeys : (keys d).Nodup) {P : κ × ν → Bool}
    (hP : ∀ p ∈ d, P p = true → index p.2 = some i) : d.countP P ≤ 1 := by
  by_cases hnone : d.countP P = 0
  · omega
  · obtain ⟨p, hp, hpP⟩ := List.countP_pos_iff.mp (Nat.pos_of_ne_zero hnone)
    exact Dict.countP_le_one hkeys p.1 fun q hq hqP => h p hp q hq i (hP p hp hpP) (hP q hq hqP)

end Dict
