import SchoolPlatform.Analysis.ContractSteps
import SchoolPlatform.Library.Agreements

/-!
# Operations act at one moment

Each statement of an operation is followed on tables that agree: what it asks has one answer, and what
it changes is locked. So an operation does at its commit what it does with nobody else at work.
-/

/-! ## What an operation on a school sees of the contracts -/

namespace SchoolPlatform.Subscriptions

open ReadCommitted

variable {school : ℕ} {L held : List (ContractRow × LockMode)} {s t : Contracts}

/-- Two versions of a row that an operation on the school cannot tell apart. -/
structure RowAgrees (school : ℕ) (L : List (ContractRow × LockMode))
    (p q : ℕ × SchoolSubscription) : Prop where
  key : q.1 = p.1
  owner : q.2.school = p.2.school
  starts : q.2.startsAt = p.2.startsAt
  free : q.2.wasFreePlan = p.2.wasFreePlan
  row : p.2.school = school → WriteLocked L (.subscription p.1) → q.2 = p.2
  live : p.2.school = school → WriteLocked L (.liveOf school) →
    q.2.status.isLive = p.2.status.isLive

theorem RowAgrees.refl (p : ℕ × SchoolSubscription) : RowAgrees school L p p :=
  ⟨rfl, rfl, rfl, rfl, fun _ _ => rfl, fun _ _ => rfl⟩

theorem RowAgrees.symm {p q : ℕ × SchoolSubscription} (h : RowAgrees school L p q) :
    RowAgrees school L q p where
  key := h.key.symm
  owner := h.owner.symm
  starts := h.starts.symm
  free := h.free.symm
  row := fun howner hlocked => (h.row (h.owner.symm.trans howner) (h.key ▸ hlocked)).symm
  live := fun howner hlocked => (h.live (h.owner.symm.trans howner) hlocked).symm

theorem RowAgrees.trans {p q r : ℕ × SchoolSubscription} (h : RowAgrees school L p q)
    (h' : RowAgrees school L q r) : RowAgrees school L p r where
  key := h'.key.trans h.key
  owner := h'.owner.trans h.owner
  starts := h'.starts.trans h.starts
  free := h'.free.trans h.free
  row := fun howner hlocked =>
    (h'.row (h.owner.trans howner) (h.key.symm ▸ hlocked)).trans (h.row howner hlocked)
  live := fun howner hlocked =>
    (h'.live (h.owner.trans howner) hlocked).trans (h.live howner hlocked)

theorem RowAgrees.mono {L' : List (ContractRow × LockMode)} {p q : ℕ × SchoolSubscription}
    (hsub : L ⊆ L') (h : RowAgrees school L' p q) : RowAgrees school L p q where
  key := h.key
  owner := h.owner
  starts := h.starts
  free := h.free
  row := fun howner hlocked => h.row howner (hlocked.mono hsub)
  live := fun howner hlocked => h.live howner (hlocked.mono hsub)

/-- Tables that an operation on the school cannot tell apart. -/
structure ContractsAgree (school : ℕ) (L : List (ContractRow × LockMode)) (s t : Contracts) :
    Prop where
  plans : t.plans = s.plans
  planEntitlements : t.planEntitlements = s.planEntitlements
  entitlements : t.entitlements = s.entitlements
  rows : List.Forall₂ (RowAgrees school L) s.subscriptions t.subscriptions

theorem forall₂_trans {α : Type} {R : α → α → Prop} {l m n : List α} (hlm : List.Forall₂ R l m)
    (hmn : List.Forall₂ R m n) (h : ∀ a b c, R a b → R b c → R a c) : List.Forall₂ R l n := by
  induction hlm generalizing n with
  | nil =>
    cases hmn
    exact .nil
  | cons hab _ ih =>
    cases hmn with
    | cons hbc hrest => exact .cons (h _ _ _ hab hbc) (ih hrest)

def agreement (school : ℕ) : Agreement Contracts ContractRow where
  agrees := ContractsAgree school
  refl := fun _ _ => ⟨rfl, rfl, rfl, List.forall₂_same.mpr fun p _ => RowAgrees.refl p⟩
  symm := fun _ _ _ h => ⟨h.plans.symm, h.planEntitlements.symm, h.entitlements.symm,
    (h.rows.imp fun _ _ hrow => hrow.symm).flip⟩
  trans := fun _ _ _ _ h h' => ⟨h'.plans.trans h.plans,
    h'.planEntitlements.trans h.planEntitlements, h'.entitlements.trans h.entitlements,
    forall₂_trans h.rows h'.rows fun _ _ _ hab hbc => hab.trans hbc⟩
  mono := fun _ _ _ _ hsub h => ⟨h.plans, h.planEntitlements, h.entitlements,
    h.rows.imp fun _ _ => RowAgrees.mono hsub⟩

theorem any_of_forall₂ {α β : Type} {R : α → β → Prop} {P : α → Bool} {Q : β → Bool}
    (hPQ : ∀ a b, R a b → Q b = P a) {l : List α} {m : List β} (h : List.Forall₂ R l m) :
    m.any Q = l.any P := by
  induction h with
  | nil => rfl
  | cons hab _ ih => rw [List.any_cons, List.any_cons, hPQ _ _ hab, ih]

namespace ContractsAgree

variable (h : ContractsAgree school L s t)
include h

theorem keys : Dict.keys t.subscriptions = Dict.keys s.subscriptions := by
  have hrows := h.rows
  unfold Dict.keys
  generalize s.subscriptions = l at hrows
  generalize t.subscriptions = m at hrows
  clear h
  induction hrows with
  | nil => rfl
  | cons hrow _ ih => rw [List.map_cons, List.map_cons, hrow.key, ih]

theorem nodup (hids : (Dict.keys s.subscriptions).Nodup) : (Dict.keys t.subscriptions).Nodup := by
  rw [h.keys]
  exact hids

theorem get? {id : ℕ} {x : SchoolSubscription} (hx : s.subscriptions.get? id = some x) :
    ∃ y, t.subscriptions.get? id = some y ∧ RowAgrees school L (id, x) (id, y) := by
  have hrows := h.rows
  generalize s.subscriptions = l at hrows hx
  generalize t.subscriptions = m at hrows
  clear h
  induction hrows with
  | nil => cases hx
  | @cons p q l m hrow _ ih =>
    obtain ⟨i, y⟩ := p
    obtain ⟨j, z⟩ := q
    obtain rfl : j = i := hrow.key
    unfold Dict.get? at hx ⊢
    by_cases hj : j = id
    · rw [if_pos hj, Option.some.injEq] at hx
      subst hx hj
      exact ⟨z, if_pos rfl, hrow⟩
    · rw [if_neg hj] at hx ⊢
      exact ih hx

theorem get?_locked {id : ℕ} {x : SchoolSubscription} (hx : s.subscriptions.get? id = some x)
    (howner : x.school = school) (hlocked : WriteLocked L (.subscription id)) :
    t.subscriptions.get? id = some x := by
  obtain ⟨y, hy, hrow⟩ := h.get? hx
  have hsame : y = x := hrow.row howner hlocked
  rw [hy, hsame]

theorem isSome_get? (id : ℕ) :
    (t.subscriptions.get? id).isSome = (s.subscriptions.get? id).isSome := by
  have hmem : ∀ u : Contracts, (u.subscriptions.get? id).isSome = true ↔
      id ∈ Dict.keys u.subscriptions := by
    intro u
    rw [Option.isSome_iff_exists, Dict.mem_keys_iff]
  rw [Bool.eq_iff_iff, hmem, hmem, h.keys]

theorem hasUsedFree : t.hasUsedFree school = s.hasUsedFree school := by
  refine any_of_forall₂ (fun p q hrow => ?_) h.rows
  rw [hrow.owner, hrow.free]

theorem hasOtherLive (hlocked : WriteLocked L (.liveOf school)) (id : ℕ) :
    t.hasOtherLive school id = s.hasOtherLive school id := by
  refine any_of_forall₂ (fun p q hrow => ?_) h.rows
  rw [hrow.key, hrow.owner]
  by_cases howner : p.2.school = school
  · rw [hrow.live howner hlocked]
  · simp [howner]

theorem liveSubscription : Option.Rel (RowAgrees school L) (s.liveSubscription school)
    (t.liveSubscription school) := by
  refine Latest.argmax_forall₂ (fun p q hrow => ?_)
    (List.rel_filter (R := RowAgrees school L) ?_ h.rows)
  · rw [hrow.key, hrow.starts]
  · intro p q hrow
    simp only [hrow.owner]

theorem liveSubscription_none (hs : s.liveSubscription school = none) :
    t.liveSubscription school = none := by
  have hrel := h.liveSubscription
  rw [hs] at hrel
  cases ht : t.liveSubscription school with
  | none => rfl
  | some q =>
    rw [ht] at hrel
    cases hrel

theorem liveSubscription_some {p : ℕ × SchoolSubscription}
    (hs : s.liveSubscription school = some p) :
    ∃ q, t.liveSubscription school = some q ∧ RowAgrees school L p q := by
  have hrel := h.liveSubscription
  rw [hs] at hrel
  cases ht : t.liveSubscription school with
  | none =>
    rw [ht] at hrel
    cases hrel
  | some q =>
    rw [ht] at hrel
    cases hrel with
    | some hrow => exact ⟨q, rfl, hrow⟩

end ContractsAgree

theorem ContractsAgree.change (h : ContractsAgree school L s t) {id : ℕ}
    {f : SchoolSubscription → SchoolSubscription} (hlocked : WriteLocked L (.subscription id))
    (hschool : ∀ x, (f x).school = x.school) (hstarts : ∀ x, (f x).startsAt = x.startsAt)
    (hfree : ∀ x y, y.wasFreePlan = x.wasFreePlan → (f y).wasFreePlan = (f x).wasFreePlan) :
    ContractsAgree school L (s.changeSubscription id f) (t.changeSubscription id f) where
  plans := h.plans
  planEntitlements := h.planEntitlements
  entitlements := h.entitlements
  rows := by
    unfold Contracts.changeSubscription Dict.adjust Dict.mapValues
    rw [List.forall₂_map_left_iff, List.forall₂_map_right_iff]
    refine h.rows.imp fun p q hrow => ?_
    have hkey := hrow.key
    by_cases hid : p.1 = id
    · simp only [hkey, hid, if_true]
      refine ⟨rfl, ?_, ?_, hfree _ _ hrow.free, fun howner _ => ?_, fun howner _ => ?_⟩
      · simp only [hschool, hrow.owner]
      · simp only [hstarts, hrow.starts]
      · rw [hschool] at howner
        simp only [hrow.row howner (hid ▸ hlocked)]
      · rw [hschool] at howner
        simp only [hrow.row howner (hid ▸ hlocked)]
    · simp only [hkey, if_neg hid]
      exact ⟨rfl, hrow.owner, hrow.starts, hrow.free, hrow.row, hrow.live⟩

theorem ContractsAgree.add (h : ContractsAgree school L s t) (id : ℕ) (x : SchoolSubscription) :
    ContractsAgree school L (s.addSubscription id x) (t.addSubscription id x) where
  plans := h.plans
  planEntitlements := h.planEntitlements
  entitlements := h.entitlements
  rows := List.rel_append h.rows (.cons (RowAgrees.refl _) .nil)

variable {school : ℕ} {held : List (ContractRow × LockMode)} {s : Contracts} {α : Type}

/-! ## Statements -/

abbrev Followed (school : ℕ) (held : List (ContractRow × LockMode)) (s : Contracts)
    (body : ContractTransaction α) : Prop := body.Respects (agreement school) held s

theorem followed_check {c : Bool} {e : Failure} {g : Unit → ContractTransaction α}
    (h : Followed school held s (g ())) : Followed school held s ((check c e).bind g) := by
  cases c with
  | true => exact h
  | false => trivial

theorem followed_select {β : Type} {q : Contracts → β} {g : β → ContractTransaction α}
    (hq : ∀ t, ContractsAgree school held s t → q t = q s) (h : Followed school held s (g (q s))) :
    Followed school held s ((Tx.select q).bind g) := ⟨hq, h⟩

theorem followed_lockRows {m : LockMode} {rows : List ContractRow}
    {g : Unit → ContractTransaction α} (h : ∀ t, ContractsAgree school held s t →
      Followed school (rows.map (fun r => (r, m)) ++ held) t (g ())) :
    Followed school held s ((Tx.lockRows m rows).bind g) := h

theorem followed_selectForUpdate {β : Type} {find : Contracts → List ContractRow}
    {q : List ContractRow → Contracts → β} {g : β → ContractTransaction α}
    (rows : List ContractRow) (hfind : ∀ t, ContractsAgree school held s t → find t = rows)
    (hread : ∀ t u, ContractsAgree school held s t →
      ContractsAgree school (rows.map (fun r => (r, .update)) ++ held) t u → q rows u = q rows t)
    (h : ∀ t, ContractsAgree school held s t →
      Followed school (rows.map (fun r => (r, .update)) ++ held) t (g (q rows t))) :
    Followed school held s ((Tx.selectForUpdate find q).bind g) := by
  have hself : find s = rows := hfind s ((agreement school).refl held s)
  refine ⟨fun t ht => (hfind t ht).trans hself.symm, ?_⟩
  rw [hself]
  exact fun t ht => ⟨fun u hu => hread t u ht hu, h t ht⟩

theorem followed_lockLatest {g : Option (ℕ × SchoolSubscription) → ContractTransaction α}
    (hids : (Dict.keys s.subscriptions).Nodup)
    (h : ∀ t rows, ContractsAgree school held s t →
      (∀ p, t.liveSubscription school = some p → (ContractRow.subscription p.1, .update) ∈ rows) →
      Followed school (rows ++ held) t (g (t.liveSubscription school))) :
    Followed school held s ((lockLatest school).bind g) := by
  cases hs : s.liveSubscription school with
  | none =>
    have hnothing : ∀ t : Contracts, (t.subscriptions.find? fun r =>
        ContractRow.subscription r.1 ∈ ([] : List ContractRow)) = none := by
      intro t
      rw [List.find?_eq_none]
      simp
    refine followed_selectForUpdate [] (fun t ht => ?_) (fun t u _ _ => ?_) fun t ht => ?_
    · rw [ht.liveSubscription_none hs]
      rfl
    · rw [hnothing u, hnothing t]
    · have hnone := ht.liveSubscription_none hs
      have hafter := h t [] ht fun p hp => by
        rw [hnone] at hp
        cases hp
      rw [hnone] at hafter
      rw [hnothing t]
      exact hafter
  | some p =>
    -- The row that is read is the one that has been locked.
    have hrow : ∀ t, ContractsAgree school held s t → ∃ x,
        t.liveSubscription school = some (p.1, x) ∧
          ∀ u, ContractsAgree school ([(ContractRow.subscription p.1, .update)] ++ held) t u →
            (u.subscriptions.find? fun r => ContractRow.subscription r.1 ∈
              [ContractRow.subscription p.1]) = some (p.1, x) := by
      intro t ht
      obtain ⟨⟨id, x⟩, hq, hagrees⟩ := ht.liveSubscription_some hs
      obtain rfl : id = p.1 := hagrees.key
      refine ⟨x, hq, fun u hu => ?_⟩
      have hidsT := ht.nodup hids
      have hget := get?_of_liveSubscription hidsT hq
      have hsame := hu.get?_locked hget (mem_of_liveSubscription hq).2
        (WriteLocked.of_update List.mem_cons_self)
      exact find?_row (hu.nodup hidsT)
        ((Dict.mem_iff_get? (hu.nodup hidsT) p.1 x).mpr hsame)
    refine followed_selectForUpdate [ContractRow.subscription p.1] (fun t ht => ?_)
      (fun t u ht hu => ?_) fun t ht => ?_
    · obtain ⟨x, hq, -⟩ := hrow t ht
      rw [hq]
      rfl
    · obtain ⟨x, -, hread⟩ := hrow t ht
      rw [hread u hu, hread t ((agreement school).refl _ t)]
    · obtain ⟨x, hq, hread⟩ := hrow t ht
      rw [hread t ((agreement school).refl _ t), ← hq]
      refine h t [(ContractRow.subscription p.1, .update)] ht fun r hr => ?_
      rw [hq, Option.some.injEq] at hr
      rw [← hr]
      exact List.mem_singleton_self _

theorem followed_lockedLive {g : ℕ × SchoolSubscription → ContractTransaction α}
    (hids : (Dict.keys s.subscriptions).Nodup)
    (h : ∀ t p rows, ContractsAgree school held s t → t.liveSubscription school = some p →
      (ContractRow.subscription p.1, .update) ∈ rows → Followed school (rows ++ held) t (g p)) :
    Followed school held s ((lockedLive school).bind g) := by
  unfold lockedLive
  rw [Tx.bind_eq, Tx.bind_assoc]
  refine followed_lockLatest hids fun t rows ht hrows => ?_
  cases hp : t.liveSubscription school with
  | none => trivial
  | some p => exact h t p rows ht hp (hrows p hp)

theorem followed_checkSubscription {id : ℕ} {wasLive : Bool} {x : SchoolSubscription}
    (howner : x.school = school) {g : Unit → ContractTransaction α}
    (h : ∀ t rows, ContractsAgree school held s t → Followed school (rows ++ held) t (g ())) :
    Followed school held s ((checkSubscription id wasLive x).bind g) := by
  unfold checkSubscription
  simp only [Tx.bind_eq, Tx.bind_assoc]
  refine followed_check (followed_lockRows fun t ht => followed_select (fun u hu => ?_)
    (followed_check (h t _ ht)))
  cases hlive : x.status.isLive with
  | false => rfl
  | true =>
    -- The entry of the school in the index of live contracts is locked.
    have hlocked : WriteLocked ((if wasLive || x.status.isLive then
        [ContractRow.liveOf x.school] else []).map (fun r => (r, LockMode.update)) ++ held)
        (ContractRow.liveOf school) := by
      rw [hlive, Bool.or_true, if_pos rfl, howner]
      exact WriteLocked.of_update List.mem_cons_self
    rw [howner, hu.hasOtherLive hlocked]

theorem followed_saveSubscription {id : ℕ} {x : SchoolSubscription}
    {f : SchoolSubscription → SchoolSubscription} {g : Unit → ContractTransaction α}
    (hget : s.subscriptions.get? id = some x) (howner : x.school = school)
    (hlocked : WriteLocked held (.subscription id)) (hschool : ∀ x, (f x).school = x.school)
    (hstarts : ∀ x, (f x).startsAt = x.startsAt)
    (hfree : ∀ x y, y.wasFreePlan = x.wasFreePlan → (f y).wasFreePlan = (f x).wasFreePlan)
    (h : ∀ t rows, ContractsAgree school held s t →
      Followed school (rows ++ held) (t.changeSubscription id f) (g ())) :
    Followed school held s ((saveSubscription id f).bind g) := by
  unfold saveSubscription
  simp only [Tx.bind_eq, Tx.bind_assoc]
  refine followed_lockRows fun t ht => ?_
  have hgetT : t.subscriptions.get? id = some x := ht.get?_locked hget howner hlocked
  have hlockedT : WriteLocked ([ContractRow.subscription id].map (fun r =>
      (r, LockMode.noKeyUpdate)) ++ held) (ContractRow.subscription id) :=
    hlocked.mono (List.subset_append_right _ _)
  refine followed_select (fun u hu => ?_) ?_
  · rw [hgetT, hu.get?_locked hgetT howner hlockedT]
  · rw [hgetT]
    simp only [Tx.bind_assoc]
    refine followed_checkSubscription ((hschool x).trans howner) fun u rows hu => ⟨?_, ?_⟩
    · intro H v w hsub hvw
      have hmem : WriteLocked H (ContractRow.subscription id) :=
        hlockedT.mono (List.Subset.trans (List.subset_append_right _ _) hsub)
      exact hvw.change hmem hschool hstarts hfree
    · have hsu : ContractsAgree school held s u :=
        (agreement school).trans held s t u ht
          ((agreement school).mono _ _ t u (List.subset_append_right _ _) hu)
      have hafter := h u (rows ++ [ContractRow.subscription id].map (fun r =>
        (r, LockMode.noKeyUpdate))) hsu
      rw [List.append_assoc] at hafter
      exact hafter

theorem followed_createSubscription {id : ℕ} {x : SchoolSubscription}
    {g : Unit → ContractTransaction α} (howner : x.school = school)
    (h : ∀ t rows, ContractsAgree school held s t →
      Followed school (rows ++ held) (t.addSubscription id x) (g ())) :
    Followed school held s ((createSubscription id x).bind g) := by
  unfold createSubscription
  simp only [Tx.bind_eq, Tx.bind_assoc]
  refine followed_lockRows fun t ht => followed_select (fun u hu => hu.isSome_get? id)
    (followed_check ?_)
  refine followed_checkSubscription howner fun u rows hu => ⟨?_, ?_⟩
  · exact fun H v w _ hvw => hvw.add id x
  · have hsu : ContractsAgree school held s u :=
      (agreement school).trans held s t u ht
        ((agreement school).mono _ _ t u (List.subset_append_right _ _) hu)
    have hafter := h u (rows ++ [ContractRow.subscription id].map (fun r =>
      (r, LockMode.update))) hsu
    rw [List.append_assoc] at hafter
    exact hafter

theorem followed_copyEntitlements {id plan : ℕ} {g : Unit → ContractTransaction α}
    (h : ∀ t, Followed school held t (g ())) :
    Followed school held s ((copyEntitlements id plan).bind g) := by
  refine ⟨fun H t u _ htu => ⟨htu.plans, htu.planEntitlements, ?_, htu.rows⟩,
    fun t ht => ?_, fun H t u _ htu => ⟨htu.plans, htu.planEntitlements, ?_, htu.rows⟩, h _⟩
  · dsimp only
    rw [htu.entitlements]
  · dsimp only [Contracts.planSnapshot]
    rw [ht.planEntitlements, ht.entitlements]
  · dsimp only
    rw [htu.entitlements]

/-! ## Operations -/

inductive SchoolOperation
  | extend (clock : ContractClock) (extraDays : ℤ)
  | extendTrial (clock : ContractClock) (extraDays : ℤ)
  | activate (clock : ContractClock) (planId : ℕ) (duration : ContractDuration) (newId : ℕ)
  | suspend (clock : ContractClock) (reason : Text)
  | reactivate (clock : ContractClock)
  | cancel (clock : ContractClock) (reason : Text)

def SchoolOperation.call (school : ℕ) : SchoolOperation → ContractCall
  | .extend clock extraDays => .extend clock school extraDays
  | .extendTrial clock extraDays => .extendTrial clock school extraDays
  | .activate clock planId duration newId => .activate clock school planId duration newId
  | .suspend clock reason => .suspend clock school reason
  | .reactivate clock => .reactivate clock school
  | .cancel clock reason => .cancel clock school reason

def SchoolOperation.body (school : ℕ) : SchoolOperation → ContractTransaction Unit
  | .extend clock extraDays =>
    (Subscriptions.extend clock school extraDays).bind fun _ => .ret ()
  | .extendTrial clock extraDays =>
    (Subscriptions.extendTrial clock school extraDays).bind fun _ => .ret ()
  | .activate clock planId duration newId =>
    (Subscriptions.activate clock school planId duration newId).bind fun _ => .ret ()
  | .suspend clock reason => (Subscriptions.suspend clock school reason).bind fun _ => .ret ()
  | .reactivate clock => (Subscriptions.reactivate clock school).bind fun _ => .ret ()
  | .cancel clock reason => (Subscriptions.cancel clock school reason).bind fun _ => .ret ()

theorem SchoolOperation.program_eq (op : SchoolOperation) (school : ℕ) :
    (op.call school).program = .atomic (op.body school) .ret := by
  cases op <;> rfl

theorem followed_save {p : ℕ × SchoolSubscription} {rows : List (ContractRow × LockMode)}
    {f : SchoolSubscription → SchoolSubscription} {g : Unit → ContractTransaction α}
    (hids : (Dict.keys s.subscriptions).Nodup) (hp : s.liveSubscription school = some p)
    (hlocked : (ContractRow.subscription p.1, .update) ∈ rows)
    (hschool : ∀ x, (f x).school = x.school) (hstarts : ∀ x, (f x).startsAt = x.startsAt)
    (hfree : ∀ x, (f x).wasFreePlan = x.wasFreePlan)
    (h : ∀ L t, Followed school L t (g ())) :
    Followed school (rows ++ held) s ((saveSubscription p.1 f).bind g) := by
  refine followed_saveSubscription (get?_of_liveSubscription hids hp)
    (mem_of_liveSubscription hp).2 ?_ hschool hstarts (fun x y hxy => ?_) fun t L _ => h _ _
  · exact WriteLocked.of_update (List.mem_append_left _ hlocked)
  · rw [hfree, hfree, hxy]

theorem followed_recordEvents {g : Unit → ContractTransaction α}
    (h : ∀ L t, Followed school L t (g ())) :
    Followed school held s ((recordEvents school).bind g) :=
  followed_lockRows fun t _ => h _ t

theorem followed_resolvePlan {plan : ℕ} {g : SaaSPlan → ContractTransaction α}
    (h : ∀ p, Followed school held s (g p)) :
    Followed school held s ((resolvePlan plan).bind g) := by
  unfold resolvePlan
  simp only [Tx.bind_eq, Tx.bind_assoc]
  refine followed_select (fun t ht => ?_) ?_
  · rw [ht.plans]
  · cases s.plans.get? plan with
    | none => trivial
    | some p =>
      simp only [Tx.bind_assoc]
      exact followed_check (h p)

theorem followed_requireFreePlanAvailable {plan : SaaSPlan} {g : Unit → ContractTransaction α}
    (h : Followed school held s (g ())) :
    Followed school held s ((requireFreePlanAvailable school plan).bind g) := by
  unfold requireFreePlanAvailable
  split
  · exact h
  · simp only [Tx.bind_eq, Tx.bind_assoc]
    exact followed_select (fun t ht => ht.hasUsedFree) (followed_check h)

theorem followed_replaceCurrent {clock : ContractClock} {g : Unit → ContractTransaction α}
    {rows : List (ContractRow × LockMode)} (hids : (Dict.keys s.subscriptions).Nodup)
    (hrows : ∀ p, s.liveSubscription school = some p →
      (ContractRow.subscription p.1, .update) ∈ rows)
    (h : ∀ L t, Followed school L t (g ())) :
    Followed school (rows ++ held) s
      ((replaceCurrent clock (s.liveSubscription school)).bind g) := by
  cases hp : s.liveSubscription school with
  | none => exact h _ _
  | some p =>
    obtain ⟨id, x⟩ := p
    show Followed school _ s (Tx.bind (if !x.status.isLive then pure () else _) g)
    split
    · exact h _ _
    · simp only [Tx.bind_eq, Tx.bind_assoc]
      refine followed_check ?_
      exact followed_save hids hp (hrows _ hp) (fun _ => rfl) (fun _ => rfl) (fun _ => rfl) h

theorem SchoolOperation.followed (op : SchoolOperation)
    (hids : (Dict.keys s.subscriptions).Nodup) : Followed school held s (op.body school) := by
  cases op with
  | extend clock extraDays =>
    show Followed school held s ((Subscriptions.extend clock school extraDays).bind _)
    unfold Subscriptions.extend
    simp only [Tx.bind_eq, Tx.bind_assoc]
    refine followed_lockedLive hids fun t p rows ht hp hlocked => ?_
    refine followed_check (followed_check (followed_select (fun u hu => ?_) (followed_check ?_)))
    · rw [hu.plans]
    · exact followed_save (ht.nodup hids) hp hlocked (fun _ => rfl) (fun _ => rfl) (fun _ => rfl)
        fun _ _ => followed_recordEvents fun _ _ => trivial
  | extendTrial clock extraDays =>
    show Followed school held s ((Subscriptions.extendTrial clock school extraDays).bind _)
    unfold Subscriptions.extendTrial
    simp only [Tx.bind_eq, Tx.bind_assoc]
    refine followed_lockedLive hids fun t p rows ht hp hlocked => followed_check (followed_check ?_)
    exact followed_save (ht.nodup hids) hp hlocked (fun _ => rfl) (fun _ => rfl) (fun _ => rfl)
      fun _ _ => followed_recordEvents fun _ _ => trivial
  | activate clock planId duration newId =>
    show Followed school held s ((Subscriptions.activate clock school planId duration newId).bind _)
    unfold Subscriptions.activate lockSchool
    simp only [Tx.bind_eq, Tx.bind_assoc]
    refine followed_resolvePlan fun plan => followed_lockRows fun t ht => ?_
    refine followed_requireFreePlanAvailable ?_
    refine followed_lockLatest (ht.nodup hids) fun u rows hu hrows => ?_
    cases hends : addDuration clock.now _ _ with
    | error e => trivial
    | ok ends =>
      refine followed_replaceCurrent (hu.nodup (ht.nodup hids)) hrows fun _ _ => ?_
      exact followed_createSubscription rfl fun _ _ _ => followed_copyEntitlements fun _ =>
        followed_recordEvents fun _ _ => trivial
  | suspend clock reason =>
    show Followed school held s ((Subscriptions.suspend clock school reason).bind _)
    unfold Subscriptions.suspend
    simp only [Tx.bind_eq, Tx.bind_assoc]
    refine followed_check (followed_lockedLive hids fun t p rows ht hp hlocked =>
      followed_check ?_)
    exact followed_save (ht.nodup hids) hp hlocked (fun _ => rfl) (fun _ => rfl) (fun _ => rfl)
      fun _ _ => followed_recordEvents fun _ _ => trivial
  | reactivate clock =>
    show Followed school held s ((Subscriptions.reactivate clock school).bind _)
    unfold Subscriptions.reactivate
    simp only [Tx.bind_eq, Tx.bind_assoc]
    refine followed_lockedLive hids fun t p rows ht hp hlocked => followed_check ?_
    exact followed_save (ht.nodup hids) hp hlocked (fun _ => rfl) (fun _ => rfl) (fun _ => rfl)
      fun _ _ => followed_recordEvents fun _ _ => trivial
  | cancel clock reason =>
    show Followed school held s ((Subscriptions.cancel clock school reason).bind _)
    unfold Subscriptions.cancel
    simp only [Tx.bind_eq, Tx.bind_assoc]
    refine followed_check (followed_lockedLive hids fun t p rows ht hp hlocked =>
      followed_check ?_)
    exact followed_save (ht.nodup hids) hp hlocked (fun _ => rfl) (fun _ => rfl) (fun _ => rfl)
      fun _ _ => followed_recordEvents fun _ _ => trivial

end SchoolPlatform.Subscriptions
