import Mathlib.Data.List.Perm.Subperm
import Mathlib.Logic.Relation
import SchoolPlatform.Library.Dict

/-!
# Union-find over indices

Each index points at a parent; an index that points at itself is a root. `find` walks to the root
and halves the path on the way, `link` makes the root of one index point at the root of another.
`connect` links indices that share a key. In a forest, two indices have one root exactly when
they are connected by the links that have been made (`Joins`).
-/

namespace UnionFind

open Relation

abbrev Parents := List ℕ

def parent (p : Parents) (i : ℕ) : ℕ := p.getD i i

/-- Walk to the root. On the way the index points at its grandparent from then on. -/
def find : ℕ → Parents → ℕ → Parents × ℕ
  | 0, p, i => (p, i)
  | fuel + 1, p, i =>
    if parent p i = i then (p, i)
    else
      let grand := parent p (parent p i)
      find fuel (p.set i grand) grand

/-- The root of `i` points at the root of `j`. -/
def link (p : Parents) (i j : ℕ) : Parents :=
  let (p, r) := find p.length p j
  let (p, q) := find p.length p i
  p.set q r

section Keys

variable {κ : Type} [DecidableEq κ]

/-- Link an index to the first index of each of its keys. -/
def addKeys (i : ℕ) : List κ → Parents × Dict κ ℕ → Parents × Dict κ ℕ
  | [], state => state
  | k :: ks, (p, seen) =>
    match Dict.get? seen k with
    | some j => addKeys i ks (link p i j, seen)
    | none => addKeys i ks (p, Dict.insert seen k i)

/-- Link the indices that share a key, where index `i` has the keys `keys[i]`. -/
def connect (keys : List (List κ)) : Parents :=
  (keys.zipIdx.foldl (fun state k => addKeys k.2 k.1 state)
    (List.range keys.length, ([] : Dict κ ℕ))).1

end Keys

/-- The roots of some indices, found one after another. -/
def roots : Parents → List ℕ → List ℕ
  | _, [] => []
  | p, i :: is =>
    let (p, r) := find p.length p i
    r :: roots p is

/-! ## Roots -/

variable {p p' : Parents} {i j k n r s : ℕ}

/-- The walk from `i` ends at the root `r` after `n` steps. -/
inductive Walk (p : Parents) : ℕ → ℕ → ℕ → Prop
  | root {i : ℕ} (h : parent p i = i) : Walk p 0 i i
  | step {n i r : ℕ} (h : parent p i ≠ i) (rest : Walk p n (parent p i) r) : Walk p (n + 1) i r

theorem Walk.unique (h : Walk p n i r) {m : ℕ} (h' : Walk p m i s) : n = m ∧ r = s := by
  induction h generalizing m with
  | root hroot =>
    cases h' with
    | root => exact ⟨rfl, rfl⟩
    | step hne => exact absurd hroot hne
  | step hne _ ih =>
    cases h' with
    | root hroot => exact absurd hroot hne
    | step _ hrest =>
      obtain ⟨hn, hr⟩ := ih hrest
      exact ⟨by omega, hr⟩

theorem Walk.isRoot (h : Walk p n i r) : parent p r = r := by
  induction h with
  | root hroot => exact hroot
  | step _ _ ih => exact ih

theorem parent_of_length_le (h : p.length ≤ i) : parent p i = i := by
  unfold parent
  rw [List.getD_eq_getElem?_getD, List.getElem?_eq_none h]
  rfl

theorem parent_set (hi : i < p.length) (r : ℕ) :
    parent (p.set i r) j = if j = i then r else parent p j := by
  unfold parent
  by_cases h : j = i
  · subst h
    rw [if_pos rfl, List.getD_eq_getElem?_getD, List.getElem?_set_self hi]
    rfl
  · rw [if_neg h, List.getD_eq_getElem?_getD, List.getElem?_set_ne (Ne.symm h),
      ← List.getD_eq_getElem?_getD]

theorem lt_length_of_parent_ne (h : parent p i ≠ i) : i < p.length := by
  by_contra hge
  exact h (parent_of_length_le (Nat.le_of_not_lt hge))

theorem Walk.le_length (h : Walk p n i r) : n ≤ p.length := by
  have hpath : ∃ l : List ℕ, l.Nodup ∧ l.length = n ∧
      ∀ x ∈ l, x < p.length ∧ ∃ m, 0 < m ∧ m ≤ n ∧ Walk p m x r := by
    induction h with
    | root => exact ⟨[], List.nodup_nil, rfl, by simp⟩
    | @step n i r hne hrest ih =>
      obtain ⟨l, hnodup, hlength, hl⟩ := ih
      have hwalk : Walk p (n + 1) i r := .step hne hrest
      refine ⟨i :: l, List.nodup_cons.mpr ⟨fun hmem => ?_, hnodup⟩, by simp [hlength], ?_⟩
      · obtain ⟨_, m, _, hm, hwalk'⟩ := hl i hmem
        have hsame := (hwalk.unique hwalk').1
        omega
      · intro x hx
        rcases List.mem_cons.mp hx with hxi | hx
        · rw [hxi]
          exact ⟨lt_length_of_parent_ne hne, n + 1, by omega, by omega, hwalk⟩
        · obtain ⟨hlt, m, hpos, hm, hwalk'⟩ := hl x hx
          exact ⟨hlt, m, hpos, by omega, hwalk'⟩
  obtain ⟨l, hnodup, hlength, hl⟩ := hpath
  have hsub : l ⊆ List.range p.length := fun x hx => List.mem_range.mpr (hl x hx).1
  have hle := (List.subperm_of_subset hnodup hsub).length_le
  rw [List.length_range] at hle
  omega

/-- Parents are indices of the list, and every walk ends. -/
structure Forest (p : Parents) : Prop where
  range : ∀ i < p.length, parent p i < p.length
  walks : ∀ i, ∃ n r, Walk p n i r

/-- The two lists lead to the same roots. -/
structure SameRoots (p p' : Parents) : Prop where
  length : p'.length = p.length
  forest : Forest p'
  walks : ∀ {n i r : ℕ}, Walk p n i r → ∃ m ≤ n, Walk p' m i r

theorem SameRoots.refl (h : Forest p) : SameRoots p p :=
  ⟨rfl, h, fun {n _ _} hw => ⟨n, Nat.le_refl n, hw⟩⟩

theorem SameRoots.trans {q : Parents} (h : SameRoots p p') (h' : SameRoots p' q) :
    SameRoots p q where
  length := h'.length.trans h.length
  forest := h'.forest
  walks := fun hw => by
    obtain ⟨m, hm, hw'⟩ := h.walks hw
    obtain ⟨l, hl, hw''⟩ := h'.walks hw'
    exact ⟨l, Nat.le_trans hl hm, hw''⟩

theorem Forest.halve (h : Forest p) (hne : parent p i ≠ i) :
    SameRoots p (p.set i (parent p (parent p i))) := by
  have hi := lt_length_of_parent_ne hne
  have hwalks : ∀ {n j r : ℕ}, Walk p n j r →
      ∃ m ≤ n, Walk (p.set i (parent p (parent p i))) m j r := by
    intro n j r hw
    induction hw with
    | @root j hroot =>
      refine ⟨0, Nat.le_refl 0, .root ?_⟩
      rw [parent_set hi]
      by_cases hji : j = i
      · rw [hji] at hroot
        exact absurd hroot hne
      · rw [if_neg hji]
        exact hroot
    | @step n j r hj hrest ih =>
      obtain ⟨m, hm, hw⟩ := ih
      by_cases hji : j = i
      · subst hji
        -- The walk goes on from the grandparent, with one step less where the parent is no root.
        have hgrand : parent (p.set j (parent p (parent p j))) j = parent p (parent p j) := by
          rw [parent_set hi, if_pos rfl]
        have hparent : parent (p.set j (parent p (parent p j))) (parent p j) =
            parent p (parent p j) := by
          rw [parent_set hi, if_neg hj]
        generalize p.set j (parent p (parent p j)) = q at hw hgrand hparent ⊢
        have hfrom : ∃ l ≤ n, Walk q l (parent p (parent p j)) r := by
          cases hw with
          | root hroot =>
            refine ⟨0, Nat.zero_le n, ?_⟩
            rw [hparent] at hroot
            rw [hroot]
            exact .root (hparent.trans hroot)
          | @step l _ _ _ hrest' =>
            rw [hparent] at hrest'
            exact ⟨l, by omega, hrest'⟩
        obtain ⟨l, hl, hw'⟩ := hfrom
        by_cases hloop : parent p (parent p j) = j
        · rw [hloop] at hw'
          exact ⟨l, by omega, hw'⟩
        · refine ⟨l + 1, by omega, .step ?_ ?_⟩
          · rw [hgrand]
            exact hloop
          · rw [hgrand]
            exact hw'
      · have hparent : parent (p.set i (parent p (parent p i))) j = parent p j := by
          rw [parent_set hi, if_neg hji]
        refine ⟨m + 1, by omega, .step ?_ ?_⟩
        · rw [hparent]
          exact hj
        · rw [hparent]
          exact hw
  refine ⟨List.length_set, ⟨fun x hx => ?_, fun x => ?_⟩, hwalks⟩
  · rw [List.length_set] at hx ⊢
    rw [parent_set hi]
    by_cases hxi : x = i
    · rw [if_pos hxi]
      exact h.range _ (h.range i hi)
    · rw [if_neg hxi]
      exact h.range x hx
  · obtain ⟨n, r, hw⟩ := h.walks x
    obtain ⟨m, _, hw'⟩ := hwalks hw
    exact ⟨m, r, hw'⟩

theorem Forest.walk_halve (h : Forest p) (hne : parent p i ≠ i)
    (hrest : Walk p n (parent p i) r) :
    ∃ m ≤ n, Walk (p.set i (parent p (parent p i))) m (parent p (parent p i)) r := by
  have hfrom : ∃ m ≤ n, Walk p m (parent p (parent p i)) r := by
    cases hrest with
    | root hroot => exact ⟨0, Nat.zero_le _, by rw [hroot]; exact .root hroot⟩
    | @step m _ _ _ hrest' => exact ⟨m, by omega, hrest'⟩
  obtain ⟨m, hm, hw⟩ := hfrom
  obtain ⟨l, hl, hw'⟩ := (h.halve hne).walks hw
  exact ⟨l, Nat.le_trans hl hm, hw'⟩

/-- **`find`** ends at the root and keeps all roots. -/
theorem Forest.find {fuel : ℕ} (h : Forest p) (hw : Walk p n i r) (hn : n ≤ fuel) :
    (find fuel p i).2 = r ∧ SameRoots p (find fuel p i).1 := by
  induction fuel generalizing p n i with
  | zero =>
    cases hw with
    | root => exact ⟨rfl, SameRoots.refl h⟩
    | step => omega
  | succ fuel ih =>
    unfold UnionFind.find
    cases hw with
    | root hroot =>
      rw [if_pos hroot]
      exact ⟨rfl, SameRoots.refl h⟩
    | @step n _ _ hne hrest =>
      rw [if_neg hne]
      have hhalve := h.halve hne
      obtain ⟨m, hm, hw'⟩ := h.walk_halve hne hrest
      obtain ⟨hroot, hsame⟩ := ih hhalve.forest hw' (by omega)
      exact ⟨hroot, hhalve.trans hsame⟩

def rootOf (p : Parents) (i : ℕ) : ℕ := (find p.length p i).2

theorem Forest.walk_rootOf (h : Forest p) (i : ℕ) : ∃ n, Walk p n i (rootOf p i) := by
  obtain ⟨n, r, hw⟩ := h.walks i
  unfold rootOf
  rw [(h.find hw hw.le_length).1]
  exact ⟨n, hw⟩

theorem Forest.rootOf_eq (h : Forest p) (hw : Walk p n i r) : rootOf p i = r :=
  (h.find hw hw.le_length).1

theorem Forest.sameRoots_find (h : Forest p) (i : ℕ) : SameRoots p (UnionFind.find p.length p i).1 := by
  obtain ⟨n, r, hw⟩ := h.walks i
  exact (h.find hw hw.le_length).2

theorem SameRoots.rootOf_eq (h : SameRoots p p') (hp : Forest p) (i : ℕ) :
    rootOf p' i = rootOf p i := by
  obtain ⟨n, hw⟩ := hp.walk_rootOf i
  obtain ⟨m, _, hw'⟩ := h.walks hw
  exact h.forest.rootOf_eq hw'

theorem Forest.rootOf_lt (h : Forest p) (hi : i < p.length) : rootOf p i < p.length := by
  obtain ⟨n, hw⟩ := h.walk_rootOf i
  generalize rootOf p i = r at hw
  induction hw with
  | root => exact hi
  | step _ _ ih => exact ih (h.range _ hi)

theorem roots_eq (h : Forest p) (is : List ℕ) : roots p is = is.map (rootOf p) := by
  induction is generalizing p with
  | nil => rfl
  | cons i is ih =>
    have hsame := h.sameRoots_find i
    have hrest := ih hsame.forest
    show rootOf p i :: roots (UnionFind.find p.length p i).1 is = _
    rw [hrest, List.map_cons]
    congr 1
    exact List.map_congr_left fun x _ => hsame.rootOf_eq h x

theorem forest_range (n : ℕ) : Forest (List.range n) := by
  have hroot : ∀ i, parent (List.range n) i = i := by
    intro i
    unfold parent
    by_cases hi : i < n
    · simp [List.getD_eq_getElem?_getD, hi]
    · exact parent_of_length_le (by simpa using hi)
  refine ⟨fun i hi => ?_, fun i => ⟨0, i, .root (hroot i)⟩⟩
  rw [hroot]
  exact hi

/-- **`link`** joins the tree of `i` to the tree of `j`. -/
theorem Forest.link (h : Forest p) (hi : i < p.length) (hj : j < p.length) :
    Forest (link p i j) ∧ (link p i j).length = p.length ∧
      ∀ x, rootOf (UnionFind.link p i j) x =
        if rootOf p x = rootOf p i then rootOf p j else rootOf p x := by
  have hj' := h.sameRoots_find j
  have hi' := hj'.forest.sameRoots_find i
  have hsame := hj'.trans hi'
  have hr : (UnionFind.find p.length p j).2 = rootOf p j := rfl
  have hq : (UnionFind.find (UnionFind.find p.length p j).1.length
      (UnionFind.find p.length p j).1 i).2 = rootOf p i := hj'.rootOf_eq h i
  unfold UnionFind.link
  simp only [hr, hq]
  generalize (UnionFind.find (UnionFind.find p.length p j).1.length
    (UnionFind.find p.length p j).1 i).1 = p₂ at hsame
  have hroots : ∀ x, rootOf p₂ x = rootOf p x := hsame.rootOf_eq h
  rw [← hsame.length] at hi hj
  rw [← hsame.length]
  simp only [← hroots]
  have hp₂ := hsame.forest
  have hqlt := hp₂.rootOf_lt hi
  have hrlt := hp₂.rootOf_lt hj
  obtain ⟨_, hwi⟩ := hp₂.walk_rootOf i
  obtain ⟨_, hwj⟩ := hp₂.walk_rootOf j
  have hqroot := hwi.isRoot
  have hrroot := hwj.isRoot
  generalize rootOf p₂ i = q at hqlt hqroot
  generalize rootOf p₂ j = r at hrlt hrroot
  have hwalks : ∀ {n x s : ℕ}, Walk p₂ n x s →
      ∃ m, Walk (p₂.set q r) m x (if s = q then r else s) := by
    intro n x s hw
    induction hw with
    | @root x hroot =>
      by_cases hxq : x = q
      · rw [if_pos hxq, hxq]
        by_cases hqr : r = q
        · refine ⟨0, ?_⟩
          rw [hqr]
          exact .root (by rw [parent_set hqlt, if_pos rfl])
        · refine ⟨1, .step ?_ ?_⟩
          · rw [parent_set hqlt, if_pos rfl]
            exact hqr
          · rw [parent_set hqlt, if_pos rfl]
            exact .root (by rw [parent_set hqlt, if_neg hqr]; exact hrroot)
      · rw [if_neg hxq]
        exact ⟨0, .root (by rw [parent_set hqlt, if_neg hxq]; exact hroot)⟩
    | @step n x s hne _ ih =>
      obtain ⟨m, hw'⟩ := ih
      by_cases hxq : x = q
      · rw [hxq] at hne
        exact absurd hqroot hne
      · have hparent : parent (p₂.set q r) x = parent p₂ x := by
          rw [parent_set hqlt, if_neg hxq]
        exact ⟨m + 1, .step (by rw [hparent]; exact hne) (by rw [hparent]; exact hw')⟩
  have hforest : Forest (p₂.set q r) := by
    refine ⟨fun x hx => ?_, fun x => ?_⟩
    · rw [List.length_set] at hx ⊢
      rw [parent_set hqlt]
      by_cases hxq : x = q
      · rw [if_pos hxq]
        exact hrlt
      · rw [if_neg hxq]
        exact hp₂.range x hx
    · obtain ⟨n, s, hw⟩ := hp₂.walks x
      obtain ⟨m, hw'⟩ := hwalks hw
      exact ⟨m, _, hw'⟩
  refine ⟨hforest, List.length_set, fun x => ?_⟩
  obtain ⟨n, hw⟩ := hp₂.walk_rootOf x
  obtain ⟨m, hw'⟩ := hwalks hw
  exact hforest.rootOf_eq hw'

/-- What the links of some pairs of indices connect. -/
def Joins (p : Parents) (R : ℕ → ℕ → Prop) : Prop :=
  ∀ x y, rootOf p x = rootOf p y ↔ EqvGen R x y

theorem Forest.joins_link (h : Forest p) (hi : i < p.length) (hj : j < p.length)
    {R R' : ℕ → ℕ → Prop} (hR : Joins p R) (hsub : ∀ x y, R x y → R' x y) (hij : EqvGen R' i j)
    (hnew : ∀ x y, R' x y → EqvGen (fun a b => R a b ∨ a = i ∧ b = j) x y) :
    Joins (UnionFind.link p i j) R' := by
  obtain ⟨_, _, hroots⟩ := h.link hi hj
  have hmono : ∀ x y, EqvGen R x y → EqvGen R' x y := fun x y hxy => EqvGen.mono hsub x y hxy
  -- Each index is connected to the new root's tree or stays where it was.
  have hto : ∀ x, rootOf p x = rootOf p i → EqvGen R' x j := fun x hx =>
    (hmono x i ((hR x i).mp hx)).trans _ _ _ hij
  intro x y
  rw [hroots x, hroots y]
  constructor
  · intro hxy
    by_cases hx : rootOf p x = rootOf p i
    · by_cases hy : rootOf p y = rootOf p i
      · exact (hto x hx).trans _ _ _ ((hto y hy).symm)
      · rw [if_pos hx, if_neg hy] at hxy
        exact (hto x hx).trans _ _ _ (hmono j y ((hR j y).mp hxy))
    · by_cases hy : rootOf p y = rootOf p i
      · rw [if_neg hx, if_pos hy] at hxy
        exact (hmono x j ((hR x j).mp hxy)).trans _ _ _ ((hto y hy).symm)
      · rw [if_neg hx, if_neg hy] at hxy
        exact hmono x y ((hR x y).mp hxy)
  · intro hxy
    have hgen : EqvGen (fun a b => R a b ∨ a = i ∧ b = j) x y := by
      induction hxy with
      | rel x y hrel => exact hnew x y hrel
      | refl x => exact .refl x
      | symm x y _ ih => exact ih.symm
      | trans x y z _ _ ih₁ ih₂ => exact ih₁.trans _ _ _ ih₂
    clear hxy
    induction hgen with
    | rel x y hrel =>
      rcases hrel with hold | ⟨hx, hy⟩
      · rw [(hR x y).mpr (.rel x y hold)]
      · rw [hx, hy, if_pos rfl]
        by_cases hjr : rootOf p j = rootOf p i
        · rw [if_pos hjr]
        · rw [if_neg hjr]
    | refl x => rfl
    | symm x y _ ih => exact ih.symm
    | trans x y z _ _ ih₁ ih₂ => exact ih₁.trans ih₂

/-! ## Shared keys -/

section Keys

variable {κ : Type} [DecidableEq κ]

/-- The two indices have a key in common among some pairs of an index and a key. -/
def Sharing (done : List (ℕ × κ)) (x y : ℕ) : Prop := ∃ k, (x, k) ∈ done ∧ (y, k) ∈ done

/-- The state when some pairs of an index and a key have been added. -/
structure Added (size : ℕ) (done : List (ℕ × κ)) (state : Parents × Dict κ ℕ) : Prop where
  forest : Forest state.1
  length : state.1.length = size
  joins : Joins state.1 (Sharing done)
  range : ∀ d ∈ done, d.1 < size
  seen : ∀ k j, Dict.get? state.2 k = some j → (j, k) ∈ done
  unseen : ∀ k, Dict.get? state.2 k = none → ∀ x, (x, k) ∉ done

theorem added_nil (size : ℕ) :
    Added size ([] : List (ℕ × κ)) (List.range size, ([] : Dict κ ℕ)) := by
  have hforest := forest_range size
  have hroot : ∀ x, rootOf (List.range size) x = x := by
    intro x
    apply hforest.rootOf_eq (.root _)
    unfold parent
    by_cases hx : x < size
    · simp [List.getD_eq_getElem?_getD, hx]
    · exact parent_of_length_le (by simpa using hx)
  refine ⟨hforest, List.length_range, fun x y => ?_, by simp, by simp, by simp⟩
  rw [hroot, hroot]
  constructor
  · intro hxy
    rw [hxy]
    exact .refl y
  · intro hxy
    induction hxy with
    | rel x y hrel =>
      obtain ⟨k, hk, _⟩ := hrel
      exact absurd hk List.not_mem_nil
    | refl x => rfl
    | symm x y _ ih => exact ih.symm
    | trans x y z _ _ ih₁ ih₂ => exact ih₁.trans ih₂

omit [DecidableEq κ] in
theorem Sharing.cons_iff (done : List (ℕ × κ)) (i : ℕ) (k : κ) (x y : ℕ) :
    Sharing ((i, k) :: done) x y ↔ Sharing done x y ∨ x = i ∧ y = i ∨
      x = i ∧ (y, k) ∈ done ∨ y = i ∧ (x, k) ∈ done := by
  unfold Sharing
  constructor
  · intro ⟨l, hx, hy⟩
    simp only [List.mem_cons, Prod.mk.injEq] at hx hy
    rcases hx with ⟨hxi, hlk⟩ | hx
    · rcases hy with ⟨hyi, _⟩ | hy
      · exact .inr (.inl ⟨hxi, hyi⟩)
      · rw [hlk] at hy
        exact .inr (.inr (.inl ⟨hxi, hy⟩))
    · rcases hy with ⟨hyi, hlk⟩ | hy
      · rw [hlk] at hx
        exact .inr (.inr (.inr ⟨hyi, hx⟩))
      · exact .inl ⟨l, hx, hy⟩
  · intro h
    rcases h with ⟨l, hx, hy⟩ | ⟨hx, hy⟩ | ⟨hx, hy⟩ | ⟨hy, hx⟩
    · exact ⟨l, List.mem_cons_of_mem _ hx, List.mem_cons_of_mem _ hy⟩
    · exact ⟨k, by rw [hx]; exact List.mem_cons_self, by rw [hy]; exact List.mem_cons_self⟩
    · exact ⟨k, by rw [hx]; exact List.mem_cons_self, List.mem_cons_of_mem _ hy⟩
    · exact ⟨k, List.mem_cons_of_mem _ hx, by rw [hy]; exact List.mem_cons_self⟩

/-- **Adding the keys** of an index. -/
theorem Added.addKeys {size i : ℕ} (hi : i < size) (ks : List κ) {done : List (ℕ × κ)}
    {state : Parents × Dict κ ℕ} (h : Added size done state) :
    Added size ((ks.map fun k => (i, k)).reverse ++ done) (addKeys i ks state) := by
  induction ks generalizing done state with
  | nil => exact h
  | cons k ks ih =>
    obtain ⟨p, seen⟩ := state
    rw [List.map_cons, List.reverse_cons, List.append_assoc, List.singleton_append]
    unfold UnionFind.addKeys
    have hrange : ∀ d ∈ (i, k) :: done, d.1 < size := by
      rw [List.forall_mem_cons]
      exact ⟨hi, h.range⟩
    cases hk : Dict.get? seen k with
    | some j =>
      apply ih
      have hj : (j, k) ∈ done := h.seen k j hk
      have hip : i < p.length := by rw [h.length]; exact hi
      have hjp : j < p.length := by rw [h.length]; exact h.range _ hj
      obtain ⟨hforest, hlength, _⟩ := h.forest.link hip hjp
      refine
        { forest := hforest
          length := hlength.trans h.length
          joins := ?_
          range := hrange
          seen := fun l x hx => List.mem_cons_of_mem _ (h.seen l x hx)
          unseen := fun l hl x hx => ?_ }
      · refine h.forest.joins_link hip hjp h.joins ?_ ?_ ?_
        · exact fun x y hxy => (Sharing.cons_iff done i k x y).mpr (.inl hxy)
        · exact .rel i j ((Sharing.cons_iff done i k i j).mpr (.inr (.inr (.inl ⟨rfl, hj⟩))))
        · intro x y hxy
          have hlink : EqvGen (fun a b => Sharing done a b ∨ a = i ∧ b = j) i j :=
            .rel i j (.inr ⟨rfl, rfl⟩)
          have hshare : ∀ z, (z, k) ∈ done →
              EqvGen (fun a b => Sharing done a b ∨ a = i ∧ b = j) j z :=
            fun z hz => .rel j z (.inl ⟨k, hj, hz⟩)
          rcases (Sharing.cons_iff done i k x y).mp hxy with hold | ⟨hx, hy⟩ | ⟨hx, hy⟩ | ⟨hy, hx⟩
          · exact .rel x y (.inl hold)
          · rw [hx, hy]
            exact .refl i
          · rw [hx]
            exact hlink.trans _ _ _ (hshare y hy)
          · rw [hy]
            exact (hlink.trans _ _ _ (hshare x hx)).symm
      · rcases List.mem_cons.mp hx with heq | hx
        · rw [Prod.mk.injEq] at heq
          rw [heq.2] at hl
          rw [hk] at hl
          cases hl
        · exact h.unseen l hl x hx
    | none =>
      apply ih
      have hfresh := h.unseen k hk
      refine
        { forest := h.forest
          length := h.length
          joins := fun x y => (h.joins x y).trans ?_
          range := hrange
          seen := fun l x hx => ?_
          unseen := fun l hl x hx => ?_ }
      · constructor
        · exact EqvGen.mono (fun a b hab => (Sharing.cons_iff done i k a b).mpr (.inl hab)) x y
        · intro hxy
          induction hxy with
          | rel x y hrel =>
            rcases (Sharing.cons_iff done i k x y).mp hrel with hold | ⟨hx, hy⟩ | ⟨_, hy⟩ | ⟨_, hx⟩
            · exact .rel x y hold
            · rw [hx, hy]
              exact .refl i
            · exact absurd hy (hfresh y)
            · exact absurd hx (hfresh x)
          | refl x => exact .refl x
          | symm x y _ ih => exact ih.symm
          | trans x y z _ _ ih₁ ih₂ => exact ih₁.trans _ _ _ ih₂
      · rw [Dict.get?_insert] at hx
        by_cases hl : k = l
        · rw [if_pos hl, Option.some.injEq] at hx
          rw [← hl, ← hx]
          exact List.mem_cons_self
        · rw [if_neg hl] at hx
          exact List.mem_cons_of_mem _ (h.seen l x hx)
      · rw [Dict.get?_insert] at hl
        by_cases hkl : k = l
        · rw [if_pos hkl] at hl
          cases hl
        · rw [if_neg hkl] at hl
          rcases List.mem_cons.mp hx with heq | hx
          · rw [Prod.mk.injEq] at heq
            exact hkl heq.2.symm
          · exact h.unseen l hl x hx

/-- The two indices have a key in common. -/
def Share (keys : List (List κ)) (x y : ℕ) : Prop :=
  ∃ k, (∃ ks, keys[x]? = some ks ∧ k ∈ ks) ∧ ∃ ks, keys[y]? = some ks ∧ k ∈ ks

/-- **`connect`** gives two indices one root exactly when a chain of shared keys connects them. -/
theorem connect_spec (keys : List (List κ)) :
    Forest (connect keys) ∧ (connect keys).length = keys.length ∧
      Joins (connect keys) (Share keys) := by
  have hfold : ∀ (rest : List (List κ)) (m : ℕ) (done : List (ℕ × κ))
      (state : Parents × Dict κ ℕ), m + rest.length ≤ keys.length → Added keys.length done state →
      ∃ done', (∀ d, d ∈ done' ↔ d ∈ done ∨ ∃ a ks, rest[a]? = some ks ∧ d.1 = m + a ∧ d.2 ∈ ks) ∧
        Added keys.length done'
          ((rest.zipIdx m).foldl (fun state k => UnionFind.addKeys k.2 k.1 state) state) := by
    intro rest
    induction rest with
    | nil => exact fun m done state _ h => ⟨done, by simp, h⟩
    | cons ks rest ih =>
      intro m done state hm h
      rw [List.length_cons] at hm
      obtain ⟨done', hdone', hadded⟩ := ih (m + 1) _ _ (by omega)
        (h.addKeys (i := m) (by omega) ks)
      refine ⟨done', fun d => ?_, hadded⟩
      rw [hdone', List.mem_append, List.mem_reverse, List.mem_map]
      constructor
      · intro hd
        rcases hd with (⟨k, hk, heq⟩ | hold) | ⟨a, ls, ha, hd, hk⟩
        · rw [← heq]
          exact .inr ⟨0, ks, rfl, rfl, hk⟩
        · exact .inl hold
        · exact .inr ⟨a + 1, ls, by simpa using ha, by omega, hk⟩
      · intro hd
        rcases hd with hold | ⟨a, ls, ha, hd, hk⟩
        · exact .inl (.inr hold)
        · cases a with
          | zero =>
            simp only [List.getElem?_cons_zero, Option.some.injEq] at ha
            rw [← ha] at hk
            exact .inl (.inl ⟨d.2, hk, Prod.ext hd.symm rfl⟩)
          | succ a =>
            exact .inr ⟨a, ls, by simpa using ha, by omega, hk⟩
  obtain ⟨done, hdone, hadded⟩ := hfold keys 0 [] _ (by omega) (added_nil keys.length)
  have hmem : ∀ x k, (x, k) ∈ done ↔ ∃ ks, keys[x]? = some ks ∧ k ∈ ks := by
    intro x k
    rw [hdone]
    constructor
    · intro h
      rcases h with h | ⟨a, ks, ha, hx, hk⟩
      · exact absurd h List.not_mem_nil
      · have hxa : x = a := by simpa using hx
        rw [hxa]
        exact ⟨ks, ha, hk⟩
    · intro ⟨ks, hks, hk⟩
      exact .inr ⟨x, ks, hks, by simp, hk⟩
  refine ⟨hadded.forest, hadded.length, fun x y => (hadded.joins x y).trans ?_⟩
  have hsame : (Sharing done : ℕ → ℕ → Prop) = Share keys := by
    funext a b
    unfold Sharing Share
    simp only [hmem]
  rw [hsame]

/-! ## Loops that end -/

/-- The loop of `find`, given up after some rounds. -/
def findWithin : ℕ → Parents → ℕ → Option (Parents × ℕ)
  | 0, _, _ => none
  | rounds + 1, p, i =>
    if parent p i = i then some (p, i)
    else
      let grand := parent p (parent p i)
      findWithin rounds (p.set i grand) grand

def linkWithin (rounds : ℕ) (p : Parents) (i j : ℕ) : Option Parents := do
  let (p, r) ← findWithin rounds p j
  let (p, q) ← findWithin rounds p i
  pure (p.set q r)

def addKeysWithin (rounds i : ℕ) : List κ → Parents × Dict κ ℕ → Option (Parents × Dict κ ℕ)
  | [], state => some state
  | k :: ks, (p, seen) =>
    match Dict.get? seen k with
    | some j => (linkWithin rounds p i j).bind fun p => addKeysWithin rounds i ks (p, seen)
    | none => addKeysWithin rounds i ks (p, Dict.insert seen k i)

def connectWithin (rounds : ℕ) (keys : List (List κ)) : Option Parents :=
  (keys.zipIdx.foldlM (fun state k => addKeysWithin rounds k.2 k.1 state)
    (List.range keys.length, ([] : Dict κ ℕ))).map Prod.fst

def rootsWithin (rounds : ℕ) : Parents → List ℕ → Option (List ℕ)
  | _, [] => some []
  | p, i :: is =>
    (findWithin rounds p i).bind fun found => (rootsWithin rounds found.1 is).map (found.2 :: ·)

omit [DecidableEq κ] in
theorem Forest.findWithin_walk {rounds fuel : ℕ} (h : Forest p) (hw : Walk p n i r)
    (hrounds : n < rounds) (hfuel : n ≤ fuel) :
    findWithin rounds p i = some (UnionFind.find fuel p i) := by
  induction rounds generalizing p n i fuel with
  | zero => omega
  | succ rounds ih =>
    unfold findWithin
    cases hw with
    | root hroot =>
      rw [if_pos hroot]
      cases fuel with
      | zero => rfl
      | succ fuel =>
        unfold UnionFind.find
        rw [if_pos hroot]
    | @step n _ _ hne hrest =>
      rw [if_neg hne]
      cases fuel with
      | zero => omega
      | succ fuel =>
        unfold UnionFind.find
        rw [if_neg hne]
        obtain ⟨m, hm, hw'⟩ := h.walk_halve hne hrest
        exact ih (h.halve hne).forest hw' (by omega) (by omega)

theorem Forest.findWithin {rounds : ℕ} (h : Forest p) (hrounds : p.length < rounds) (i : ℕ) :
    findWithin rounds p i = some (UnionFind.find p.length p i) := by
  obtain ⟨n, r, hw⟩ := h.walks i
  have hn := hw.le_length
  exact h.findWithin_walk hw (by omega) hn

theorem Forest.linkWithin {rounds : ℕ} (h : Forest p) (hrounds : p.length < rounds) (i j : ℕ) :
    linkWithin rounds p i j = some (UnionFind.link p i j) := by
  have hj := h.sameRoots_find j
  unfold UnionFind.linkWithin UnionFind.link
  rw [h.findWithin hrounds j]
  have hi := @Forest.findWithin _ rounds hj.forest (by rw [hj.length]; exact hrounds) i
  simp only [Option.bind_eq_bind, Option.bind_some, hi]
  rfl

theorem Added.addKeysWithin {size i rounds : ℕ} (hi : i < size) (hrounds : size < rounds)
    (ks : List κ) {done : List (ℕ × κ)} {state : Parents × Dict κ ℕ} (h : Added size done state) :
    addKeysWithin rounds i ks state = some (UnionFind.addKeys i ks state) := by
  induction ks generalizing done state with
  | nil => rfl
  | cons k ks ih =>
    have hnext := h.addKeys hi [k]
    obtain ⟨p, seen⟩ := state
    unfold UnionFind.addKeysWithin UnionFind.addKeys
    unfold UnionFind.addKeys UnionFind.addKeys at hnext
    cases hk : Dict.get? seen k with
    | some j =>
      rw [hk] at hnext
      have hlink : linkWithin rounds p i j = some (UnionFind.link p i j) :=
        h.forest.linkWithin (by rw [h.length]; exact hrounds) i j
      dsimp only
      rw [hlink]
      exact ih hnext
    | none =>
      rw [hk] at hnext
      exact ih hnext

theorem connectWithin_eq {rounds : ℕ} (keys : List (List κ)) (hrounds : keys.length < rounds) :
    connectWithin rounds keys = some (connect keys) := by
  have hfold : ∀ (rest : List (List κ)) (m : ℕ) (done : List (ℕ × κ))
      (state : Parents × Dict κ ℕ), m + rest.length ≤ keys.length → Added keys.length done state →
      (rest.zipIdx m).foldlM (fun state k => addKeysWithin rounds k.2 k.1 state) state =
        some ((rest.zipIdx m).foldl (fun state k => UnionFind.addKeys k.2 k.1 state) state) := by
    intro rest
    induction rest with
    | nil => exact fun m done state _ _ => rfl
    | cons ks rest ih =>
      intro m done state hm h
      rw [List.length_cons] at hm
      rw [List.zipIdx_cons, List.foldlM_cons, List.foldl_cons,
        h.addKeysWithin (i := m) (by omega) hrounds ks]
      exact ih (m + 1) _ _ (by omega) (h.addKeys (by omega) ks)
  unfold connectWithin connect
  rw [hfold keys 0 [] _ (by omega) (added_nil keys.length)]
  rfl

omit [DecidableEq κ] in
theorem Forest.rootsWithin {rounds : ℕ} (h : Forest p) (hrounds : p.length < rounds)
    (is : List ℕ) : rootsWithin rounds p is = some (roots p is) := by
  induction is generalizing p with
  | nil => rfl
  | cons i is ih =>
    have hsame := h.sameRoots_find i
    unfold UnionFind.rootsWithin
    rw [h.findWithin hrounds i, Option.bind_some,
      ih hsame.forest (by rw [hsame.length]; exact hrounds)]
    rfl

end Keys

end UnionFind
