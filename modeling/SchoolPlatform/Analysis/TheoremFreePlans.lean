import SchoolPlatform.Analysis.ContractConstraints
import SchoolPlatform.Library.Filing

/-!
# One free contract for a school

Trials, activations and changes of plan of one school are at work at the same time. Whatever the
order of their statements, the school takes a free plan at most once, and at most one of its contracts
is kept as live.
-/

/-! ## The contracts of a school as files -/

namespace SchoolPlatform.Subscriptions

open ReadCommitted

def Contracts.IsLiveOf (s : Contracts) (school id : ℕ) : Prop :=
  ∃ x, s.subscriptions.get? id = some x ∧ x.school = school ∧ x.status.isLive = true

def Contracts.freeCount (s : Contracts) (school : ℕ) : ℕ :=
  s.subscriptions.countP fun p => p.2.school = school && p.2.wasFreePlan

/-- What becomes of a contract that is not opened again: its use of a free plan stays on record. -/
structure SchoolSubscription.Becomes (x y : SchoolSubscription) : Prop where
  school : y.school = x.school
  free : x.wasFreePlan = true → y.wasFreePlan = true
  live : y.status.isLive = true → x.status.isLive = true

theorem SchoolSubscription.Becomes.refl (x : SchoolSubscription) : x.Becomes x := ⟨rfl, id, id⟩

theorem SchoolSubscription.Becomes.trans {x y z : SchoolSubscription} (h : x.Becomes y)
    (h' : y.Becomes z) : x.Becomes z :=
  ⟨h'.school.trans h.school, fun hx => h'.free (h.free hx), fun hz => h.live (h'.live hz)⟩

/-- A free plan has come into use: the live contract of the school has been closed, or it is the one
that uses it. -/
def TakesFree (school : ℕ) (s s' : Contracts) : Prop :=
  s'.freeCount school ≤ 1 ∧ ∀ id x y, s.subscriptions.get? id = some x →
    s'.subscriptions.get? id = some y → x.school = school → x.status.isLive = true →
      y.status.isLive = true → x.wasFreePlan = false ∧ y.wasFreePlan = true

structure Progress (school : ℕ) (L : List (ContractRow × LockMode)) (s s' : Contracts) : Prop where
  rows : ∀ id x, s.subscriptions.get? id = some x →
    ∃ y, s'.subscriptions.get? id = some y ∧ x.Becomes y
  free : s'.freeCount school ≤ s.freeCount school ∨
    (∃ m, (ContractRow.school school, m) ∈ L) ∧ TakesFree school s s'

variable {school : ℕ} {L : List (ContractRow × LockMode)} {s s' t u : Contracts}

theorem Progress.refl (L : List (ContractRow × LockMode)) (s : Contracts) :
    Progress school L s s :=
  ⟨fun _ x hx => ⟨x, hx, .refl x⟩, .inl (le_refl _)⟩

theorem Progress.trans (h : Progress school L s t) (h' : Progress school L t u) :
    Progress school L s u := by
  have hmiddle : ∀ id x z, s.subscriptions.get? id = some x → u.subscriptions.get? id = some z →
      ∃ y, t.subscriptions.get? id = some y ∧ x.Becomes y ∧ y.Becomes z := by
    intro id x z hx hz
    obtain ⟨y, hy, hxy⟩ := h.rows id x hx
    obtain ⟨z', hz', hyz⟩ := h'.rows id y hy
    rw [hz, Option.some.injEq] at hz'
    exact ⟨y, hy, hxy, hz' ▸ hyz⟩
  refine ⟨fun id x hx => ?_, ?_⟩
  · obtain ⟨y, hy, hxy⟩ := h.rows id x hx
    obtain ⟨z, hz, hyz⟩ := h'.rows id y hy
    exact ⟨z, hz, hxy.trans hyz⟩
  · rcases h.free with hle | ⟨hlock, hone, htakes⟩
    · rcases h'.free with hle' | ⟨hlock, hone, htakes⟩
      · exact .inl (le_trans hle' hle)
      · refine .inr ⟨hlock, hone, fun id x z hx hz hschool hxlive hzlive => ?_⟩
        obtain ⟨y, hy, hxy, hyz⟩ := hmiddle id x z hx hz
        obtain ⟨hyfree, hzfree⟩ :=
          htakes id y z hy hz (hxy.school.trans hschool) (hyz.live hzlive) hzlive
        refine ⟨?_, hzfree⟩
        cases hxfree : x.wasFreePlan with
        | false => rfl
        | true => exact absurd (hxy.free hxfree) (by simp [hyfree])
    · have hone' : u.freeCount school ≤ 1 := by
        rcases h'.free with hle' | ⟨-, hone', -⟩
        · exact le_trans hle' hone
        · exact hone'
      refine .inr ⟨hlock, hone', fun id x z hx hz hschool hxlive hzlive => ?_⟩
      obtain ⟨y, hy, hxy, hyz⟩ := hmiddle id x z hx hz
      obtain ⟨hxfree, hyfree⟩ := htakes id x y hx hy hschool hxlive (hyz.live hzlive)
      exact ⟨hxfree, hyz.free hyfree⟩

inductive ContractFile
  | row (id : ℕ)
  | live

abbrev ContractFile.Content : ContractFile → Type
  | .row _ => Option SchoolSubscription
  | .live => ℕ → Prop

/-- The store meets the constraints and has kept what an earlier store had on record; the school has
taken a free plan at most once, unless it had before. -/
structure Contracts.Sound (s₀ : Contracts) (school : ℕ) (s : Contracts) : Prop where
  constrained : s.Constrained
  free : s.freeCount school ≤ max (s₀.freeCount school) 1
  rows : ∀ id x, s₀.subscriptions.get? id = some x →
    ∃ y, s.subscriptions.get? id = some y ∧ x.Becomes y

def contractFiling (school : ℕ) (s₀ : Contracts) :
    Filing Contracts ContractRow ContractFile ContractFile.Content where
  file
    | .row id => fun s => s.subscriptions.get? id
    | .live => fun s => s.IsLiveOf school
  row
    | .row id => .subscription id
    | .live => .liveOf school
  sound := s₀.Sound school
  grows := Progress school
  grows_refl := Progress.refl
  grows_trans := fun _ _ _ _ h h' => h.trans h'
  grows_mono := by
    intro L L' s t hsub h
    refine ⟨h.rows, h.free.imp_right ?_⟩
    rintro ⟨⟨m, hm⟩, htakes⟩
    exact ⟨⟨m, hsub hm⟩, htakes⟩

theorem hasUsedFree_eq_false : s.hasUsedFree school = false ↔ s.freeCount school = 0 := by
  unfold Contracts.hasUsedFree Contracts.freeCount
  rw [List.any_eq_false, List.countP_eq_zero]

theorem wasFreePlan_eq_false (h : s.freeCount school = 0) {p : ℕ × SchoolSubscription}
    (hp : p ∈ s.subscriptions) (hschool : p.2.school = school) : p.2.wasFreePlan = false := by
  have hnone := List.countP_eq_zero.mp h p hp
  simpa [hschool] using hnone

theorem freeCount_le_one (hids : (Dict.keys s.subscriptions).Nodup) (id : ℕ)
    (h : ∀ p ∈ s.subscriptions, p.2.school = school → p.2.wasFreePlan = true → p.1 = id) :
    s.freeCount school ≤ 1 := by
  refine Dict.countP_le_one hids id fun p hp hfree => ?_
  rw [Bool.and_eq_true, decide_eq_true_eq] at hfree
  exact h p hp hfree.1 hfree.2

theorem freeCount_changeSubscription {id : ℕ} {f : SchoolSubscription → SchoolSubscription}
    (h : ∀ p ∈ s.subscriptions, p.1 = id →
      (f p.2).school = p.2.school ∧ (f p.2).wasFreePlan = p.2.wasFreePlan) :
    (s.changeSubscription id f).freeCount school = s.freeCount school := by
  unfold Contracts.freeCount Contracts.changeSubscription Dict.adjust Dict.mapValues
  rw [List.countP_map]
  apply List.countP_congr
  intro p hp
  by_cases hid : p.1 = id
  · obtain ⟨hschool, hfree⟩ := h p hp hid
    simp [hid, hschool, hfree]
  · simp [hid]

theorem Contracts.Sound.progress {s₀ : Contracts} (hs : s₀.Sound school s)
    (hprogress : Progress school L s s') (hs' : s'.Constrained) : s₀.Sound school s' := by
  refine ⟨hs', ?_, fun id x hx => ?_⟩
  · rcases hprogress.free with hle | ⟨-, hone, -⟩
    · exact le_trans hle hs.free
    · exact le_trans hone (le_max_right _ 1)
  · obtain ⟨y, hy, hxy⟩ := hs.rows id x hx
    obtain ⟨z, hz, hyz⟩ := hprogress.rows id y hy
    exact ⟨z, hz, hxy.trans hyz⟩

theorem commits_change {s₀ : Contracts} {id : ℕ} {x : SchoolSubscription}
    {f : SchoolSubscription → SchoolSubscription} (hrow : t.subscriptions.get? id = some x)
    (hvalid : (f x).isValid = true) (hbecomes : x.Becomes (f x))
    (hlock : WriteLocked L (.subscription id))
    (hlive : x.school = school → x.status.isLive = true →
      (f x).status.isLive = true ∨ WriteLocked L (.liveOf school))
    (hfree : (t.changeSubscription id f).freeCount school ≤ t.freeCount school ∨
      (∃ m, (ContractRow.school school, m) ∈ L) ∧
        TakesFree school t (t.changeSubscription id f)) :
    (contractFiling school s₀).Commits L t (t.changeSubscription id f) := by
  have hprogress : Progress school L t (t.changeSubscription id f) := by
    refine ⟨fun j y hy => ?_, hfree⟩
    rw [get?_changeSubscription]
    by_cases hj : j = id
    · subst hj
      rw [hrow] at hy
      cases hy
      rw [if_pos rfl, hrow]
      exact ⟨f x, rfl, hbecomes⟩
    · rw [if_neg hj]
      exact ⟨y, hy, .refl y⟩
  refine ⟨fun file => ?_, hprogress, fun hs => hs.progress hprogress ?_⟩
  · cases file with
    | row j =>
      by_cases hj : j = id
      · subst hj
        exact .inl hlock
      · refine .inr ?_
        show (t.changeSubscription id f).subscriptions.get? j = t.subscriptions.get? j
        rw [get?_changeSubscription, if_neg hj]
    | live =>
      by_cases hclosed : x.school = school ∧ x.status.isLive = true ∧
          (f x).status.isLive = false
      · obtain ⟨hschool, hx, hfx⟩ := hclosed
        exact .inl ((hlive hschool hx).resolve_left (by simp [hfx]))
      · -- The contract is as live as it has been.
        refine .inr (funext fun j => propext ?_)
        show (t.changeSubscription id f).IsLiveOf school j ↔ t.IsLiveOf school j
        unfold Contracts.IsLiveOf
        rw [get?_changeSubscription]
        by_cases hj : j = id
        · subst hj
          rw [if_pos rfl, hrow]
          simp only [Option.map_some, Option.some.injEq, exists_eq_left']
          rw [hbecomes.school]
          refine and_congr_right fun hschool => ⟨hbecomes.live, fun hx => ?_⟩
          by_contra hnot
          exact hclosed ⟨hschool, hx, Bool.eq_false_iff.mpr hnot⟩
        · rw [if_neg hj]
  · refine hs.constrained.change hrow hvalid fun hfx => ?_
    rw [hbecomes.school]
    exact hs.constrained.live (id, x) ((Dict.mem_iff_get? hs.constrained.ids id x).mpr hrow)
      (hbecomes.live hfx)

theorem commits_close {s₀ : Contracts} {id : ℕ} {x : SchoolSubscription}
    {f : SchoolSubscription → SchoolSubscription} (hrow : t.subscriptions.get? id = some x)
    (hvalid : (f x).isValid = true) (hschool : ∀ x, (f x).school = x.school)
    (hfree : ∀ x, (f x).wasFreePlan = x.wasFreePlan) (hclosed : (f x).status.isLive = false)
    (hlock : WriteLocked L (.subscription id))
    (hlive : x.status.isLive = true → WriteLocked L (.liveOf x.school)) :
    (contractFiling school s₀).Commits L t (t.changeSubscription id f) := by
  refine commits_change hrow hvalid ⟨hschool x, fun h => (hfree x).trans h, fun h => ?_⟩ hlock
    (fun hx h => .inr (hx ▸ hlive h)) 
    (.inl (freeCount_changeSubscription fun p _ _ => ⟨hschool p.2, hfree p.2⟩).le)
  rw [hclosed] at h
  cases h

theorem commits_switch {s₀ : Contracts} {id : ℕ} {x : SchoolSubscription}
    {f : SchoolSubscription → SchoolSubscription} (hs : t.Constrained)
    (hrow : t.subscriptions.get? id = some x) (hvalid : (f x).isValid = true)
    (hbecomes : x.Becomes (f x)) (hschool : x.school = school) (hlive : x.status.isLive = true)
    (hstatus : (f x).status = x.status)
    (hfree : (f x).wasFreePlan = true → x.wasFreePlan = true ∨ t.freeCount school = 0)
    (hlock : WriteLocked L (.subscription id))
    (hrefers : ∃ m, (ContractRow.school school, m) ∈ L) :
    (contractFiling school s₀).Commits L t (t.changeSubscription id f) := by
  have hmem : (id, x) ∈ t.subscriptions := (Dict.mem_iff_get? hs.ids id x).mpr hrow
  refine commits_change hrow hvalid hbecomes hlock (fun _ hx => .inl (hstatus ▸ hx)) ?_
  by_cases hsame : (f x).wasFreePlan = x.wasFreePlan
  · refine .inl (freeCount_changeSubscription fun p hp hid => ?_).le
    rw [row_of_get? hs.ids hrow hp hid]
    exact ⟨hbecomes.school, hsame⟩
  · -- The contract takes the free plan, which no other has used.
    have hxfree : x.wasFreePlan = false := by
      by_contra hx
      rw [Bool.not_eq_false] at hx
      exact hsame ((hbecomes.free hx).trans hx.symm)
    have hfx : (f x).wasFreePlan = true := by
      by_contra hnot
      rw [Bool.not_eq_true] at hnot
      exact hsame (hnot.trans hxfree.symm)
    have hnone : t.freeCount school = 0 := (hfree hfx).resolve_left (by simp [hxfree])
    refine .inr ⟨hrefers, ?_, ?_⟩
    · refine freeCount_le_one (by rw [keys_changeSubscription]; exact hs.ids) id ?_
      intro q hq hqschool hqfree
      obtain ⟨p, hp, rfl⟩ := mem_changeSubscription.mp hq
      by_contra hid
      have hid' : ¬ p.1 = id := hid
      rw [if_neg hid'] at hqschool hqfree
      exact absurd hqfree (by simp [wasFreePlan_eq_false hnone hp hqschool])
    · intro j y z hy hz hyschool hylive _
      have hj : j = id := by
        have hother := hasOtherLive_eq_false.mp (hs.live (id, x) hmem hlive) (j, y)
          ((Dict.mem_iff_get? hs.ids j y).mpr hy) (hyschool.trans hschool.symm) hylive
        exact hother
      subst hj
      rw [get?_changeSubscription, if_pos rfl, hrow, Option.map_some, Option.some.injEq] at hz
      rw [hrow, Option.some.injEq] at hy
      rw [← hy, ← hz]
      exact ⟨hxfree, hfx⟩

theorem commits_open {s₀ : Contracts} {id : ℕ} {x : SchoolSubscription} (hs : t.Constrained)
    (hnew : t.subscriptions.get? id = none) (hvalid : x.isValid = true)
    (hschool : x.school = school) (hother : t.hasOtherLive school id = false)
    (hfree : x.wasFreePlan = true → t.freeCount school = 0)
    (hlock : WriteLocked L (.subscription id)) (hindex : WriteLocked L (.liveOf school))
    (hrefers : ∃ m, (ContractRow.school school, m) ∈ L) :
    (contractFiling school s₀).Commits L t (t.addSubscription id x) := by
  have hcount : (t.addSubscription id x).freeCount school =
      t.freeCount school + if x.wasFreePlan = true then 1 else 0 := by
    unfold Contracts.freeCount Contracts.addSubscription
    rw [List.countP_append, List.countP_singleton]
    simp [hschool]
  have hold : ∀ j y, t.subscriptions.get? j = some y →
      (t.addSubscription id x).subscriptions.get? j = some y := by
    intro j y hy
    rw [get?_addSubscription, hy, Option.some_or]
  have hprogress : Progress school L t (t.addSubscription id x) := by
    refine ⟨fun j y hy => ⟨y, hold j y hy, .refl y⟩, ?_⟩
    by_cases hx : x.wasFreePlan = true
    · refine .inr ⟨hrefers, ?_, fun j y z hy _ hyschool hylive _ => ?_⟩
      · rw [hcount, hfree hx, if_pos hx]
      · -- No contract of the school is live but the new one.
        have hj := hasOtherLive_eq_false.mp hother (j, y)
          ((Dict.mem_iff_get? hs.ids j y).mpr hy) hyschool hylive
        replace hj : j = id := hj
        rw [hj, hnew] at hy
        cases hy
    · rw [if_neg hx, Nat.add_zero] at hcount
      exact .inl hcount.le
  refine ⟨fun file => ?_, hprogress, fun hs' => hs'.progress hprogress ?_⟩
  · cases file with
    | row j =>
      by_cases hj : j = id
      · subst hj
        exact .inl hlock
      · refine .inr ?_
        show (t.addSubscription id x).subscriptions.get? j = t.subscriptions.get? j
        rw [get?_addSubscription, if_neg (Ne.symm hj), Option.or_none]
    | live => exact .inl hindex
  · exact hs'.constrained.add hnew hvalid fun _ => hschool ▸ hother

theorem commits_entitlements {s₀ : Contracts} (h : s'.subscriptions = s.subscriptions) :
    (contractFiling school s₀).Commits L s s' := by
  have hget : ∀ id, s'.subscriptions.get? id = s.subscriptions.get? id := fun id => by rw [h]
  have hprogress : Progress school L s s' := by
    refine ⟨fun id x hx => ⟨x, (hget id).trans hx, .refl x⟩, .inl ?_⟩
    unfold Contracts.freeCount
    rw [h]
  refine ⟨fun file => .inr ?_, hprogress, fun hs => hs.progress hprogress ?_⟩
  · cases file with
    | row id => exact hget id
    | live =>
      show s'.IsLiveOf school = s.IsLiveOf school
      unfold Contracts.IsLiveOf
      simp only [hget]
  · exact hs.constrained.of_eq h

variable {α β : Type} {school : ℕ} {s₀ : Contracts} {L : List (ContractRow × LockMode)}
  {B : Contracts → Contracts → Prop} {B' : β → Contracts → Contracts → Prop}

theorem spec_check {c : Bool} {e : Failure} {g : Unit → ContractTransaction β}
    (hg : c = true → (contractFiling school s₀).Spec L B (g ()) B') :
    (contractFiling school s₀).Spec L B ((check c e).bind g) B' := by
  unfold check
  cases c with
  | true => exact hg rfl
  | false => exact Filing.Spec.raise

theorem spec_orRaise {r : Except Failure α} {g : α → ContractTransaction β}
    (hg : ∀ a, (contractFiling school s₀).Spec L B (g a) B') :
    (contractFiling school s₀).Spec L B ((orRaise r).bind g) B' := by
  cases r with
  | ok a => exact hg a
  | error e => exact Filing.Spec.raise

theorem spec_resolvePlan {plan : ℕ} {g : SaaSPlan → ContractTransaction β}
    (hg : ∀ p, (contractFiling school s₀).Spec L B (g p) B') :
    (contractFiling school s₀).Spec L B ((resolvePlan plan).bind g) B' := by
  unfold resolvePlan
  simp only [Tx.bind_eq, Tx.bind_assoc]
  refine Filing.Spec.select_any fun found => ?_
  cases found with
  | none => exact Filing.Spec.raise
  | some p =>
    simp only [Tx.bind_assoc]
    exact spec_check fun _ => hg p

theorem asserts_orConflict {γ : Type} {R G : Change Contracts ContractRow}
    {Q : γ → Contracts → Prop} {J : Contracts → Prop} {held : List (ContractRow × LockMode)}
    {view : Contracts → Contracts} {t : ContractTransaction α} {k : α → ContractTransaction γ}
    (h : (t.bind k).Asserts R G Q J held view) :
    ((orConflict t).bind k).Asserts R G Q J held view := by
  induction t generalizing J held view with
  | ret a => exact h
  | raise e => cases e <;> trivial
  | query q k' ih =>
    obtain ⟨J', hread, hkept, hrest⟩ := h
    exact ⟨J', hread, hkept, fun b => ih b (hrest b)⟩
  | lock rows k' ih => exact ih h
  | write f k' ih => exact ih h

theorem spec_orConflict {t : ContractTransaction α} {g : α → ContractTransaction β}
    (h : (contractFiling school s₀).Spec L B (t.bind g) B') :
    (contractFiling school s₀).Spec L B ((orConflict t).bind g) B' := by
  intro i γ k held A view hL hmid hk
  have hplain := h i γ k held A view hL hmid hk
  rw [Tx.bind_assoc] at hplain ⊢
  exact asserts_orConflict hplain

theorem spec_saveSubscription {id : ℕ} {f : SchoolSubscription → SchoolSubscription}
    {g : Unit → ContractTransaction β} (hB : ∀ s t, B s t → t = s)
    (hg : ∀ x, (f x).isValid = true → (contractFiling school s₀).Spec
      ((if x.status.isLive || (f x).status.isLive then
          [(ContractRow.liveOf (f x).school, LockMode.update)] else []) ++
        (.subscription id, .noKeyUpdate) :: L)
      (fun s t => B s t ∧ s.subscriptions.get? id = some x)
      ((Tx.update fun s => s.changeSubscription id f).bind g) B') :
    (contractFiling school s₀).Spec L B ((saveSubscription id f).bind g) B' := by
  unfold saveSubscription
  simp only [Tx.bind_eq, Tx.bind_assoc]
  refine Filing.Spec.lockRows (Filing.Spec.readFiles [ContractFile.row id] ?_
    (fun F b => F (.row id) = b) ?_ fun F found hfound => ?_)
  · intro file hfile
    rw [List.mem_singleton.mp hfile]
    exact ⟨.noKeyUpdate, by decide, List.mem_cons_self⟩
  · intro s t _ _ h
    rw [hB s t h]
    rfl
  · cases found with
    | none => exact Filing.Spec.raise
    | some x =>
      unfold checkSubscription
      simp only [Tx.bind_eq, Tx.bind_assoc]
      refine spec_check fun hvalid => Filing.Spec.lockRows (Filing.Spec.select_any fun taken => ?_)
      refine spec_check fun _ => ?_
      have hrow : ∀ s t : Contracts, (B s t ∧ ∀ file ∈ [ContractFile.row id],
          (contractFiling school s₀).file file s = F file) →
          B s t ∧ s.subscriptions.get? id = some x := by
        intro s t h
        exact ⟨h.1, (h.2 (.row id) List.mem_cons_self).trans hfound⟩
      refine ((hg x hvalid).widen ?_).mono (fun s t _ h => hrow s t h) fun _ _ _ h => h
      split <;> exact List.Subset.refl _

def Contracts.closing (s : Contracts) (clock : ContractClock) : Option ℕ → Contracts
  | none => s
  | some id => s.changeSubscription id fun row =>
    { row with status := .expired, updatedAt := clock.savedAt }

variable {clock : ContractClock} {P : Contracts → Prop} {s : Contracts}

theorem freeCount_closing (closed : Option ℕ) :
    (s.closing clock closed).freeCount school = s.freeCount school := by
  cases closed with
  | none => rfl
  | some id => exact freeCount_changeSubscription fun _ _ _ => ⟨rfl, rfl⟩

theorem isSome_get?_closing (closed : Option ℕ) (id : ℕ) :
    ((s.closing clock closed).subscriptions.get? id).isSome =
      (s.subscriptions.get? id).isSome := by
  cases closed with
  | none => rfl
  | some j =>
    unfold Contracts.closing
    simp only [get?_changeSubscription]
    by_cases hid : id = j
    · simp [hid]
    · simp [hid]

theorem isLiveOf_closing (closed : Option ℕ) (id : ℕ) :
    (s.closing clock closed).IsLiveOf school id ↔ s.IsLiveOf school id ∧ closed ≠ some id := by
  cases closed with
  | none => simp [Contracts.closing]
  | some j =>
    unfold Contracts.closing Contracts.IsLiveOf
    simp only [get?_changeSubscription]
    by_cases hid : id = j
    · subst hid
      simp [SubscriptionStatus.isLive]
    · have hne : j ≠ id := fun h => hid h.symm
      simp [hid, hne]

theorem hasOtherLive_iff (hids : (Dict.keys s.subscriptions).Nodup) {id : ℕ} :
    s.hasOtherLive school id = true ↔ ∃ j, j ≠ id ∧ s.IsLiveOf school j := by
  unfold Contracts.hasOtherLive Contracts.IsLiveOf
  simp only [List.any_eq_true, Bool.and_eq_true, decide_eq_true_eq]
  constructor
  · rintro ⟨p, hp, ⟨hne, hschool⟩, hlive⟩
    exact ⟨p.1, hne, p.2, (Dict.mem_iff_get? hids p.1 p.2).mp hp, hschool, hlive⟩
  · rintro ⟨j, hne, x, hx, hschool, hlive⟩
    exact ⟨(j, x), (Dict.mem_iff_get? hids j x).mpr hx, ⟨hne, hschool⟩, hlive⟩

theorem spec_closeSubscription {id : ℕ} {g : Unit → ContractTransaction β}
    (hg : (contractFiling school s₀).Spec L
      (fun s t => t = s.closing clock (some id) ∧ P s) (g ()) B') :
    (contractFiling school s₀).Spec L (fun s t => t = s ∧ P s)
      ((closeSubscription clock id).bind g) B' := by
  refine spec_saveSubscription (fun s t h => h.1) fun x hvalid => ?_
  refine Filing.Spec.bind (M := fun _ s t => t = s.closing clock (some id) ∧ P s)
    (Filing.Spec.update fun s t _ h => ?_) fun _ => hg.widen ?_
  · obtain ⟨⟨rfl, hP⟩, hrow⟩ := h
    refine ⟨commits_close hrow hvalid (fun _ => rfl) (fun _ => rfl) rfl ?_ fun hlive => ?_, rfl, hP⟩
    · exact ⟨.noKeyUpdate, by decide, List.mem_append_right _ List.mem_cons_self⟩
    · refine WriteLocked.of_update (List.mem_append_left _ ?_)
      simp [hlive]
  · exact List.Subset.trans (List.subset_cons_self _ _) (List.subset_append_right _ _)

theorem spec_requireNoLiveSubscription {g : Unit → ContractTransaction β}
    (hg : ∀ closed, (contractFiling school s₀).Spec L
      (fun s t => t = s.closing clock closed ∧ P s) (g ()) B') :
    (contractFiling school s₀).Spec L (fun s t => t = s ∧ P s)
      ((requireNoLiveSubscription clock school).bind g) B' := by
  unfold requireNoLiveSubscription
  simp only [Tx.bind_eq, Tx.bind_assoc, Tx.pure_eq]
  refine Filing.Spec.select_any fun existing => ?_
  cases existing with
  | none => exact hg none
  | some p =>
    simp only [Tx.bind_assoc]
    refine spec_check fun _ => ?_
    by_cases hlive : p.2.status.isLive = true
    · rw [if_pos hlive]
      exact spec_closeSubscription (hg (some p.1))
    · rw [if_neg hlive]
      exact hg none

theorem spec_replaceCurrent {current : Option (ℕ × SchoolSubscription)}
    {g : Unit → ContractTransaction β}
    (hg : ∀ closed, (contractFiling school s₀).Spec L
      (fun s t => t = s.closing clock closed ∧ P s) (g ()) B') :
    (contractFiling school s₀).Spec L (fun s t => t = s ∧ P s)
      ((replaceCurrent clock current).bind g) B' := by
  cases current with
  | none => exact hg none
  | some p =>
    obtain ⟨id, x⟩ := p
    unfold replaceCurrent
    dsimp only
    by_cases hlive : (!x.status.isLive) = true
    · rw [if_pos hlive]
      exact hg none
    · rw [if_neg hlive]
      simp only [Tx.bind_eq, Tx.bind_assoc]
      exact spec_check fun _ => spec_closeSubscription (hg (some id))

theorem spec_requireFreePlanAvailable (clock : ContractClock) (closed : Option ℕ) {plan : SaaSPlan}
    {g : Unit → ContractTransaction β}
    (hstable : (contractFiling school s₀).Stable L fun s => P s ∧ s.freeCount school = 0)
    (hg : (contractFiling school s₀).Spec L (fun s t => t = s.closing clock closed ∧ P s ∧
      (plan.priceAmount = 0 → s.freeCount school = 0)) (g ()) B') :
    (contractFiling school s₀).Spec L (fun s t => t = s.closing clock closed ∧ P s)
      ((requireFreePlanAvailable school plan).bind g) B' := by
  unfold requireFreePlanAvailable
  by_cases hprice : plan.priceAmount ≠ 0
  · rw [if_pos hprice]
    exact hg.mono (fun s t _ h => ⟨h.1, h.2, fun h0 => absurd h0 hprice⟩) fun _ _ _ h => h
  · rw [if_neg hprice]
    simp only [Tx.bind_eq, Tx.bind_assoc]
    refine Filing.Spec.select_stable
      (fun (_ : Unit) b s => b = false → P s ∧ s.freeCount school = 0) ?_ ?_ fun _ used => ?_
    · rintro s t _ _ ⟨rfl, hP⟩
      refine ⟨(), fun hunused => ⟨hP, ?_⟩⟩
      have hcount : (s.closing clock closed).freeCount school = s.freeCount school :=
        freeCount_closing closed
      rw [← hcount]
      exact hasUsedFree_eq_false.mp hunused
    · intro _ used
      cases used with
      | true => exact fun _ _ _ _ _ _ _ h => nomatch h
      | false =>
        intro L' s s' hcompat hcommit hs h _
        exact hstable L' s s' hcompat hcommit hs (h rfl)
    · refine spec_check fun hunused => hg.mono (fun s t _ h => ?_) fun _ _ _ h => h
      exact ⟨h.1.1, h.1.2, fun _ => (h.2 (by simpa using hunused)).2⟩

theorem stable_freeCount (hschool : (ContractRow.school school, LockMode.update) ∈ L) :
    (contractFiling school s₀).Stable L fun s => s.freeCount school = 0 := by
  intro L' s s' hcompat hcommit _ hnone
  rcases hcommit.grows.free with hle | ⟨⟨m, hm⟩, -⟩
  · omega
  · have hconflict := hcompat _ hschool _ hm rfl
    cases hconflict

theorem stable_freeCount_of_live {id : ℕ} {x : SchoolSubscription}
    (hlock : WriteLocked L (.subscription id)) (hschool : x.school = school)
    (hlive : x.status.isLive = true) : (contractFiling school s₀).Stable L fun s =>
      s.subscriptions.get? id = some x ∧ s.freeCount school = 0 := by
  intro L' s s' hcompat hcommit hs h
  have hrow : s'.subscriptions.get? id = some x :=
    Filing.stable_file (D := contractFiling school s₀) (x := .row id) hlock (fun v => v = some x)
      L' s s' hcompat hcommit hs h.1
  refine ⟨hrow, ?_⟩
  rcases hcommit.grows.free with hle | ⟨-, -, htakes⟩
  · omega
  · obtain ⟨hunused, hused⟩ := htakes id x x h.1 hrow hschool hlive hlive
    rw [hunused] at hused
    cases hused

theorem spec_createSubscription {closed : Option ℕ} {id : ℕ} {x : SchoolSubscription}
    {g : Unit → ContractTransaction β} (hx : x.school = school) (hlive : x.status.isLive = true)
    (hschool : (ContractRow.school school, LockMode.update) ∈ L)
    (hfree : ∀ s, P s → x.wasFreePlan = true → s.freeCount school = 0)
    (hg : ∀ L', L ⊆ L' → (contractFiling school s₀).Spec L' (fun _ _ => True) (g ()) B') :
    (contractFiling school s₀).Spec L (fun s t => t = s.closing clock closed ∧ P s)
      ((createSubscription id x).bind g) B' := by
  unfold createSubscription
  simp only [Tx.bind_eq, Tx.bind_assoc]
  -- The row of the new contract, which is not there.
  refine Filing.Spec.lockRows (Filing.Spec.readFiles [ContractFile.row id] ?_
    (fun F b => (F (.row id)).isSome = b) ?_ fun F taken htaken => ?_)
  · intro file hfile
    rw [List.mem_singleton.mp hfile]
    exact WriteLocked.of_update List.mem_cons_self
  · rintro s t _ _ ⟨rfl, -⟩
    exact (isSome_get?_closing closed id).symm
  refine spec_check fun hfresh => ?_
  rw [Bool.not_eq_true'] at hfresh
  subst hfresh
  unfold checkSubscription
  simp only [Tx.bind_eq, Tx.bind_assoc]
  refine spec_check fun hvalid => ?_
  have hlocked : (if (false || x.status.isLive) = true then [ContractRow.liveOf x.school] else []) =
      [.liveOf school] := by
    simp [hlive, hx]
  rw [hlocked]
  -- The live contracts of the school.
  refine Filing.Spec.lockRows (Filing.Spec.readFiles [ContractFile.live] ?_
    (fun F b => b = true ↔ ∃ j, j ≠ id ∧ F .live j ∧ closed ≠ some j) ?_ fun F' taken hother => ?_)
  · intro file hfile
    rw [List.mem_singleton.mp hfile]
    exact WriteLocked.of_update List.mem_cons_self
  · rintro s t _ ht ⟨⟨rfl, -⟩, -⟩
    rw [hlive, Bool.true_and, hx, hasOtherLive_iff ht.constrained.ids]
    refine exists_congr fun j => and_congr_right fun _ => ?_
    exact isLiveOf_closing closed j
  refine spec_check fun hnone => ?_
  rw [Bool.not_eq_true'] at hnone
  refine Filing.Spec.bind (M := fun _ _ _ => True) (Filing.Spec.update fun s t ht h => ?_)
    fun _ => hg _ ?_
  · obtain ⟨⟨⟨rfl, hP⟩, hrow⟩, hindex⟩ := h
    have hnew : (s.closing clock closed).subscriptions.get? id = none := by
      have hnot : (s.subscriptions.get? id).isSome = false := by
        have hfile := hrow (.row id) List.mem_cons_self
        exact (congrArg Option.isSome hfile).trans htaken
      rw [← Option.isNone_iff_eq_none, ← Option.not_isSome, isSome_get?_closing, hnot]
      rfl
    have hothers : (s.closing clock closed).hasOtherLive school id = false := by
      by_contra hlive'
      rw [Bool.not_eq_false, hasOtherLive_iff ht.constrained.ids] at hlive'
      obtain ⟨j, hj, hjlive⟩ := hlive'
      rw [isLiveOf_closing] at hjlive
      have hfile : s.IsLiveOf school = F' .live := hindex .live List.mem_cons_self
      have htrue := hother.mpr ⟨j, hj, hfile ▸ hjlive.1, hjlive.2⟩
      rw [hnone] at htrue
      cases htrue
    refine ⟨commits_open ht.constrained hnew hvalid hx hothers (fun hxfree => ?_) ?_ ?_
      ⟨.update, ?_⟩, trivial⟩
    · rw [freeCount_closing]
      exact hfree s hP hxfree
    · exact WriteLocked.of_update (List.mem_cons_of_mem _ List.mem_cons_self)
    · exact WriteLocked.of_update List.mem_cons_self
    · exact List.mem_cons_of_mem _ (List.mem_cons_of_mem _ hschool)
  · exact List.Subset.trans (List.subset_cons_self _ _) (List.subset_cons_self _ _)

theorem spec_copyEntitlements {id plan : ℕ} {rows : List ContractRow} (a : α) :
    (contractFiling school s₀).Spec L (fun _ _ => True)
      ((copyEntitlements id plan).bind fun _ => (Tx.lockRows .keyShare rows).bind fun _ =>
        (.ret a : ContractTransaction α)) fun _ _ _ => True := by
  unfold copyEntitlements
  simp only [Tx.bind_eq, Tx.bind_assoc]
  refine Filing.Spec.bind (M := fun _ _ _ => True)
    (Filing.Spec.update fun s t _ _ => ⟨commits_entitlements rfl, trivial⟩) fun _ => ?_
  refine Filing.Spec.select_any fun snapshot => ?_
  refine Filing.Spec.bind (M := fun _ _ _ => True)
    (Filing.Spec.update fun s t _ _ => ⟨commits_entitlements rfl, trivial⟩) fun _ => ?_
  exact Filing.Spec.lockRows (Filing.Spec.ret fun _ _ _ _ => trivial)

theorem startTrial_spec (clock : ContractClock) (school planId : ℕ) (trialDays : Option ℤ)
    (newId : ℕ) : (contractFiling school s₀).Spec [] (fun s t => True ∧ t = s)
      (startTrial clock school planId trialDays newId) fun _ _ _ => True := by
  unfold startTrial
  simp only [Tx.bind_eq, Tx.pure_eq]
  refine spec_resolvePlan fun plan => Filing.Spec.lockRows ?_
  have hschool : (ContractRow.school school, LockMode.update) ∈
      [ContractRow.school school].map (fun r => (r, LockMode.update)) ++ [] := List.mem_cons_self
  refine Filing.Spec.mono (B := fun s t => t = s ∧ True) ?_ (fun s t _ h => ⟨h.2, h.1⟩)
    fun _ _ _ h => h
  refine spec_requireNoLiveSubscription fun closed => ?_
  refine spec_requireFreePlanAvailable _ _ (Filing.stable_true.and (stable_freeCount hschool)) ?_
  refine spec_check fun _ => spec_orConflict ?_
  refine spec_createSubscription rfl rfl hschool (fun s hP hfree => hP.2 ?_)
    fun L' _ => spec_copyEntitlements _
  exact of_decide_eq_true hfree

theorem activate_spec (clock : ContractClock) (school planId : ℕ) (duration : ContractDuration)
    (newId : ℕ) : (contractFiling school s₀).Spec [] (fun s t => True ∧ t = s)
      (activate clock school planId duration newId) fun _ _ _ => True := by
  unfold activate
  simp only [Tx.bind_eq, Tx.pure_eq]
  refine spec_resolvePlan fun plan => Filing.Spec.lockRows ?_
  have hschool : (ContractRow.school school, LockMode.update) ∈
      [ContractRow.school school].map (fun r => (r, LockMode.update)) ++ [] := List.mem_cons_self
  refine Filing.Spec.mono (B := fun s t => t = s.closing clock none ∧ True) ?_
    (fun s t _ h => ⟨h.2, h.1⟩) fun _ _ _ h => h
  refine spec_requireFreePlanAvailable _ _ (Filing.stable_true.and (stable_freeCount hschool)) ?_
  unfold lockLatest
  refine Filing.Spec.selectForUpdate_any (fun _ => True) (fun _ _ _ _ _ _ => trivial)
    fun current _ => spec_orRaise fun ends => ?_
  refine spec_replaceCurrent fun closed => ?_
  refine spec_createSubscription rfl rfl hschool (fun s hP hfree => hP.2 ?_)
    fun L' _ => spec_copyEntitlements _
  exact of_decide_eq_true hfree

def currentRow (v : Option ℕ) : List ContractRow := v.toList.map ContractRow.subscription

theorem spec_lockedLive {g : ℕ × SchoolSubscription → ContractTransaction β}
    (hg : ∀ id x, x.school = school →
      (contractFiling school s₀).Spec ((.subscription id, .update) :: L)
        (fun s t => t = s ∧ s.subscriptions.get? id = some x) (g (id, x)) B') :
    (contractFiling school s₀).Spec L (fun s t => t = s) ((lockedLive school).bind g) B' := by
  unfold lockedLive lockLatest
  simp only [Tx.bind_eq, Tx.bind_assoc]
  refine Filing.Spec.selectForUpdate_stable currentRow (fun v s => ∀ id ∈ v, ∃ x,
    s.subscriptions.get? id = some x ∧ x.school = school) ?_ ?_ fun v => ?_
  · rintro s t hs _ rfl
    refine ⟨(t.liveSubscription school).map Prod.fst, ?_, ?_⟩
    · cases t.liveSubscription school <;> rfl
    · intro id hid
      obtain ⟨⟨id', x⟩, hlive, rfl⟩ := Option.map_eq_some_iff.mp hid
      exact ⟨x, get?_of_liveSubscription hs.constrained.ids hlive, (mem_of_liveSubscription hlive).2⟩
  · -- Contracts are neither deleted nor given to another school.
    intro v L' s s' _ hcommit _ hfound id hid
    obtain ⟨x, hx, hschool⟩ := hfound id hid
    obtain ⟨y, hy, hbecomes⟩ := hcommit.grows.rows id x hx
    exact ⟨y, hy, hbecomes.school.trans hschool⟩
  · cases v with
    | none =>
      refine Filing.Spec.select (fun b => b = none) (fun s t _ _ _ => ?_) fun b hb => ?_
      · simp [currentRow]
      · subst hb
        exact Filing.Spec.raise
    | some id =>
      refine Filing.Spec.readFiles [ContractFile.row id] ?_ (fun F b => ∃ x, b = some (id, x) ∧
        F (.row id) = some x ∧ x.school = school) ?_ ?_
      · intro file hfile
        rw [List.mem_singleton.mp hfile]
        exact WriteLocked.of_update List.mem_cons_self
      · rintro s t hs _ ⟨rfl, hfound⟩
        obtain ⟨x, hx, hschool⟩ := hfound id rfl
        refine ⟨x, ?_, hx, hschool⟩
        exact find?_row hs.constrained.ids ((Dict.mem_iff_get? hs.constrained.ids id x).mpr hx)
      · rintro F b ⟨x, rfl, hx, hschool⟩
        refine (hg id x hschool).mono (fun s t _ h => ⟨h.1.1, ?_⟩) fun _ _ _ h => h
        exact (h.2 (.row id) List.mem_cons_self).trans hx

theorem changePlan_spec (clock : ContractClock) (school planId : ℕ) :
    (contractFiling school s₀).Spec [] (fun s t => True ∧ t = s) (changePlan clock school planId)
      fun _ _ _ => True := by
  unfold changePlan
  simp only [Tx.bind_eq, Tx.pure_eq]
  refine spec_resolvePlan fun plan => ?_
  refine Filing.Spec.mono (B := fun s t => t = s) ?_ (fun s t _ h => h.2) fun _ _ _ h => h
  refine spec_lockedLive fun id x hschool => ?_
  refine spec_check fun hlive => spec_check fun _ => ?_
  have hlock : WriteLocked [(ContractRow.subscription id, LockMode.update)] (.subscription id) :=
    WriteLocked.of_update List.mem_cons_self
  refine spec_requireFreePlanAvailable clock none
    (P := fun s => s.subscriptions.get? id = some x)
    (stable_freeCount_of_live hlock hschool hlive) ?_
  refine spec_saveSubscription (fun s t h => h.1) fun x' hvalid => ?_
  -- The share of the school's row comes after the changes, with the commit.
  unfold copyEntitlements recordEvents
  simp only [Tx.bind_eq, Tx.bind_assoc]
  refine Filing.Spec.update_update (Filing.Spec.updates_before_lock fun rows => ?_)
  refine Filing.Spec.bind (M := fun _ _ _ => True) (Filing.Spec.update fun s t ht h => ?_)
    fun _ => Filing.Spec.ret fun _ _ _ _ => trivial
  obtain ⟨⟨rfl, hrow, hfree⟩, hrow'⟩ := h
  rw [hrow] at hrow'
  cases hrow'
  have hchange : (contractFiling school s₀).Commits
      ((ContractRow.school school, LockMode.keyShare) ::
        ((if x.status.isLive || (x.changePlan clock planId plan x).status.isLive then
            [(ContractRow.liveOf (x.changePlan clock planId plan x).school, LockMode.update)]
          else []) ++ [(.subscription id, .noKeyUpdate), (.subscription id, .update)]))
      t (t.changeSubscription id (x.changePlan clock planId plan)) := by
    refine commits_switch ht.constrained hrow hvalid ⟨rfl, fun hx => ?_, fun hx => hx⟩ hschool hlive rfl
      (fun hfx => ?_) ?_ ⟨.keyShare, List.mem_cons_self⟩
    · simp [SchoolSubscription.changePlan, hx]
    · rcases Bool.or_eq_true_iff.mp hfx with hx | hprice
      · exact .inl hx
      · exact .inr (hfree (of_decide_eq_true hprice))
    · exact hlock.mono fun y hy => List.mem_cons_of_mem _ (List.mem_append_right _
        (List.mem_cons_of_mem _ hy))
  exact ⟨hchange.trans (commits_entitlements rfl), trivial⟩

def ContractCall.PutsOnPlan (school : ℕ) : ContractCall → Prop
  | .startTrial _ school' _ _ _ => school' = school
  | .activate _ school' _ _ _ => school' = school
  | .changePlan _ school' _ => school' = school
  | _ => False

def Contracts.liveCount (s : Contracts) (school : ℕ) : ℕ :=
  s.subscriptions.countP fun p => p.2.school = school && p.2.status.isLive

theorem liveCount_le_one {s : Contracts} (hs : s.Constrained) (school : ℕ) :
    s.liveCount school ≤ 1 := by
  by_cases hnone : s.liveCount school = 0
  · omega
  · obtain ⟨p, hp, hlive⟩ := List.countP_pos_iff.mp (Nat.pos_of_ne_zero hnone)
    rw [Bool.and_eq_true, decide_eq_true_eq] at hlive
    refine Dict.countP_le_one hs.ids p.1 fun q hq hqlive => ?_
    rw [Bool.and_eq_true, decide_eq_true_eq] at hqlive
    have hother := hasOtherLive_eq_false.mp (hs.live p hp hlive.2) q hq
    exact hother (hqlive.1.trans hlive.1.symm) hqlive.2

theorem client_commit {α : Type} {school : ℕ} {s₀ : Contracts} {t : ContractTransaction α}
    (h : (contractFiling school s₀).Spec [] (fun s t => True ∧ t = s) t fun _ _ _ => True) :
    (contractFiling school s₀).Client (fun _ => True) (commit t) := by
  have hbody : (contractFiling school s₀).Spec [] (fun s t => True ∧ t = s)
      (t.bind fun _ => .ret ()) fun _ _ _ => True :=
    h.bind fun _ => Filing.Spec.ret fun _ _ _ _ => trivial
  exact Filing.Client.transaction_last Filing.stable_true hbody

theorem client_of_putsOnPlan {school : ℕ} (s₀ : Contracts) {call : ContractCall}
    (hcall : call.PutsOnPlan school) :
    (contractFiling school s₀).Client (fun _ => True) call.program := by
  cases call with
  | startTrial clock school' planId trialDays newId =>
    obtain rfl : school' = school := hcall
    exact client_commit (startTrial_spec clock school' planId trialDays newId)
  | activate clock school' planId duration newId =>
    obtain rfl : school' = school := hcall
    exact client_commit (activate_spec clock school' planId duration newId)
  | changePlan clock school' planId =>
    obtain rfl : school' = school := hcall
    exact client_commit (changePlan_spec clock school' planId)
  | extendTrial => exact hcall.elim
  | extend => exact hcall.elim
  | suspend => exact hcall.elim
  | reactivate => exact hcall.elim
  | cancel => exact hcall.elim
  | setEntitlementOverride => exact hcall.elim
  | syncExpirations => exact hcall.elim

/-- **One free contract.** At every point of every run of calls that put a school on a plan, at most
one of its contracts has come to be free, unless more had before, and at most one is live; what was
on record as free still is. -/
theorem one_free_contract (school : ℕ) {calls : List ContractCall}
    (hcalls : ∀ call ∈ calls, call.PutsOnPlan school) {s : Contracts} (hs : s.Constrained)
    {sched : List ℕ} {c : Config Contracts ContractRow Failure Unit}
    (h : (Config.start s (calls.map ContractCall.program)).exec sched = some c) :
    c.store.freeCount school ≤ max (s.freeCount school) 1 ∧ c.store.liveCount school ≤ 1 ∧
      ∀ id x, s.subscriptions.get? id = some x → ∃ y, c.store.subscriptions.get? id = some y ∧
        y.school = x.school ∧ (x.wasFreePlan = true → y.wasFreePlan = true) := by
  have hstart : s.Sound school s :=
    ⟨hs, le_max_left _ 1, fun id x hx => ⟨x, hx, SchoolSubscription.Becomes.refl x⟩⟩
  have hclients : ∀ p ∈ calls.map ContractCall.program,
      (contractFiling school s).Client (fun _ => True) p := by
    intro p hp
    obtain ⟨call, hcall, rfl⟩ := List.mem_map.mp hp
    exact client_of_putsOnPlan s (hcalls call hcall)
  have hsound : s.Sound school c.store :=
    Filing.sound_of_exec (D := contractFiling school s) hclients hstart h
  refine ⟨hsound.free, liveCount_le_one hsound.constrained school, fun id x hx => ?_⟩
  obtain ⟨y, hy, hbecomes⟩ := hsound.rows id x hx
  exact ⟨y, hy, hbecomes.school, hbecomes.free⟩

def paidContract : SchoolSubscription where
  school := 7
  plan := 1
  status := .active
  startsAt := 0
  endsAt := timedelta 10
  updatedAt := 0

def paidSchool : Contracts where
  plans := [(1, { code := "basic", priceAmount := 10000 }), (2, { code := "free" })]
  subscriptions := [(1, paidContract)]

theorem paidSchool_constrained : paidSchool.Constrained :=
  ⟨List.nodup_singleton 1, by decide, by decide⟩

def freePlanCalls : List ContractCall :=
  [.changePlan ⟨timedelta 5, timedelta 5, timedelta 5⟩ 7 2,
    .activate ⟨timedelta 11, timedelta 11, timedelta 11⟩ 7 2 {} 2]

/-- The activation has read the plan when the change of plan is made from its first statement to its
last. -/
def freePlanSchedule : List ℕ := [1] ++ List.replicate 16 0 ++ List.replicate 3 1

/-- Only the change of plan takes the free plan. -/
theorem one_free_contract_of_two : ∃ c,
    (Config.start paidSchool (freePlanCalls.map ContractCall.program)).exec freePlanSchedule =
      some c ∧ c.store.freeCount 7 ≤ 1 ∧ c.store.liveCount 7 ≤ 1 := by
  have hruns : ((Config.start paidSchool (freePlanCalls.map ContractCall.program)).exec
      freePlanSchedule).isSome = true := by decide +kernel
  obtain ⟨c, hc⟩ := Option.isSome_iff_exists.mp hruns
  have hcalls : ∀ call ∈ freePlanCalls, call.PutsOnPlan 7 := by
    intro call hcall
    simp only [freePlanCalls, List.mem_cons, List.not_mem_nil, or_false] at hcall
    rcases hcall with rfl | rfl
    · rfl
    · rfl
  obtain ⟨hfree, hlive, -⟩ := one_free_contract 7 hcalls paidSchool_constrained hc
  exact ⟨c, hc, hfree.trans (by decide), hlive⟩

end SchoolPlatform.Subscriptions
