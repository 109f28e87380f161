import SchoolPlatform.Model.Subscriptions
import SchoolPlatform.Library.Latest
import SchoolPlatform.Library.Guarantees

/-!
# What an operation does to the contracts

An operation finds the current contract of the school, checks it, and saves some of its fields; or it
closes it and opens another. Each operation is inverted once: from its success follow the guards that
it has passed and the contracts that it leaves.
-/

namespace SchoolPlatform.Subscriptions

open ReadCommitted

variable {α : Type} {s s' : Contracts} {r : α × Contracts}

variable {school : ℕ} {p : ℕ × SchoolSubscription} {id : ℕ} {x : SchoolSubscription}
  {f : SchoolSubscription → SchoolSubscription} {g : Unit → ContractTransaction α}
  {clock : ContractClock}

structure Contracts.Constrained (s : Contracts) : Prop where
  ids : (Dict.keys s.subscriptions).Nodup
  live : ∀ p ∈ s.subscriptions, p.2.status.isLive = true → s.hasOtherLive p.2.school p.1 = false
  valid : ∀ p ∈ s.subscriptions, p.2.isValid = true

theorem mem_of_liveSubscription (h : s.liveSubscription school = some p) :
    p ∈ s.subscriptions ∧ p.2.school = school := by
  have hmem : p ∈ s.ofSchool school := List.argmax_mem h
  obtain ⟨hrow, hschool⟩ := List.mem_filter.mp hmem
  exact ⟨hrow, of_decide_eq_true hschool⟩

theorem get?_of_liveSubscription (hids : (Dict.keys s.subscriptions).Nodup)
    (h : s.liveSubscription school = some (id, x)) : s.subscriptions.get? id = some x :=
  (Dict.mem_iff_get? hids id x).mp (mem_of_liveSubscription h).1

theorem afterEnd_ne (x : SchoolSubscription) (now : Instant) :
    ¬ (x.afterEnd now = .trial ∨ x.afterEnd now = .active) := by
  unfold SchoolSubscription.afterEnd
  split <;> simp

theorem find?_row (hids : (Dict.keys s.subscriptions).Nodup) (hp : p ∈ s.subscriptions) :
    (s.subscriptions.find? fun q => ContractRow.subscription q.1 ∈
      [ContractRow.subscription p.1]) = some p := by
  have hmatch : ∀ q : ℕ × SchoolSubscription, decide (ContractRow.subscription q.1 ∈
      [ContractRow.subscription p.1]) = decide (q.1 = p.1) := by
    intro q
    simp
  simp only [hmatch]
  exact (Table.find?_eq_some_iff hids p.1 p).mpr ⟨hp, rfl⟩

theorem row_of_get? (hids : (Dict.keys s.subscriptions).Nodup)
    (hrow : s.subscriptions.get? id = some x) (hp : p ∈ s.subscriptions) (hid : p.1 = id) :
    p.2 = x := by
  have hget := (Dict.mem_iff_get? hids p.1 p.2).mp hp
  rw [hid, hrow, Option.some.injEq] at hget
  exact hget.symm

theorem get?_changeSubscription (id j : ℕ) (f : SchoolSubscription → SchoolSubscription) :
    (s.changeSubscription id f).subscriptions.get? j =
      if j = id then (s.subscriptions.get? j).map f else s.subscriptions.get? j :=
  Dict.get?_adjust s.subscriptions id j f

theorem get?_addSubscription (id j : ℕ) (x : SchoolSubscription) :
    (s.addSubscription id x).subscriptions.get? j =
      (s.subscriptions.get? j).or (if id = j then some x else none) :=
  Dict.get?_append_singleton s.subscriptions id j x

theorem liveSubscription_mapValues {g : ℕ → SchoolSubscription → SchoolSubscription}
    (hrows : s'.subscriptions = s.subscriptions.mapValues g)
    (hschool : ∀ id x, (g id x).school = x.school)
    (hstarts : ∀ id x, (g id x).startsAt = x.startsAt) (school : ℕ) :
    s'.liveSubscription school = (s.liveSubscription school).map fun p => (p.1, g p.1 p.2) := by
  have hof : s'.ofSchool school = (s.ofSchool school).map fun p => (p.1, g p.1 p.2) := by
    unfold Contracts.ofSchool
    rw [hrows, Dict.mapValues, List.filter_map]
    congr 1
    apply List.filter_congr
    intro p _
    simp only [Function.comp_apply, hschool]
  unfold Contracts.liveSubscription
  rw [hof, Latest.argmax_map]
  simp only [hstarts]

theorem liveSubscription_changeSubscription (hschool : ∀ x, (f x).school = x.school)
    (hstarts : ∀ x, (f x).startsAt = x.startsAt) (school : ℕ) :
    (s.changeSubscription id f).liveSubscription school = (s.liveSubscription school).map fun p =>
      (p.1, if p.1 = id then f p.2 else p.2) := by
  refine liveSubscription_mapValues (g := fun i x => if i = id then f x else x) rfl
    (fun i x => ?_) (fun i x => ?_) school
  · by_cases hi : i = id
    · rw [if_pos hi]
      exact hschool x
    · rw [if_neg hi]
  · by_cases hi : i = id
    · rw [if_pos hi]
      exact hstarts x
    · rw [if_neg hi]

theorem liveSubscription_change_self (hschool : ∀ x, (f x).school = x.school)
    (hstarts : ∀ x, (f x).startsAt = x.startsAt) (h : s.liveSubscription school = some (id, x)) :
    (s.changeSubscription id f).liveSubscription school = some (id, f x) := by
  rw [liveSubscription_changeSubscription hschool hstarts, h, Option.map_some, if_pos rfl]

theorem keys_changeSubscription (id : ℕ) (f : SchoolSubscription → SchoolSubscription) :
    Dict.keys (s.changeSubscription id f).subscriptions = Dict.keys s.subscriptions := by
  simp [Dict.keys, Contracts.changeSubscription, Dict.adjust, Dict.mapValues, Function.comp_def]

theorem eval_select_bind {β : Type} {q : Contracts → β} {g : β → ContractTransaction α} :
    ((Tx.select q).bind g).eval s = (g (q s)).eval s := rfl

theorem eval_update_bind {f : Contracts → Contracts} :
    ((Tx.update f).bind g).eval s = (g ()).eval (f s) := rfl

theorem eval_lockRows_bind {m : LockMode} {rows : List ContractRow} :
    ((Tx.lockRows m rows).bind g).eval s = (g ()).eval s := rfl

theorem eval_check_bind {c : Bool} {e : Failure} :
    ((check c e).bind g).eval s = .ok r ↔ c = true ∧ (g ()).eval s = .ok r := by
  cases c <;> simp [check]

theorem eval_orRaise_bind {β : Type} {x : Except Failure β} {g : β → ContractTransaction α} :
    ((orRaise x).bind g).eval s = .ok r ↔ ∃ b, x = .ok b ∧ (g b).eval s = .ok r := by
  cases x <;> simp [orRaise]

theorem eval_recordEvents_bind : ((recordEvents school).bind g).eval s = (g ()).eval s := by
  simp [recordEvents]

theorem eval_lockLatest (hids : (Dict.keys s.subscriptions).Nodup) (school : ℕ) :
    (lockLatest school).eval s = .ok (s.liveSubscription school, s) := by
  unfold lockLatest
  rw [Tx.eval_selectForUpdate]
  cases h : s.liveSubscription school with
  | none => simp
  | some p =>
    have hfind := find?_row hids (mem_of_liveSubscription h).1
    simp only [Option.toList_some, List.map_cons, List.map_nil, hfind]

theorem eval_lockedLive_bind (hids : (Dict.keys s.subscriptions).Nodup)
    {g : ℕ × SchoolSubscription → ContractTransaction α} :
    ((lockedLive school).bind g).eval s = .ok r ↔
      ∃ p, s.liveSubscription school = some p ∧ (g p).eval s = .ok r := by
  unfold lockedLive
  rw [Tx.bind_eq, Tx.bind_assoc, Tx.eval_bind, eval_lockLatest hids]
  cases s.liveSubscription school with
  | none => simp
  | some p => simp

theorem eval_checkSubscription_bind {wasLive : Bool} :
    ((checkSubscription id wasLive x).bind g).eval s = .ok r ↔
      x.isValid = true ∧ (x.status.isLive = true → s.hasOtherLive x.school id = false) ∧
        (g ()).eval s = .ok r := by
  unfold checkSubscription
  simp only [Tx.bind_eq, Tx.bind_assoc]
  rw [eval_check_bind, eval_lockRows_bind, eval_select_bind, eval_check_bind]
  cases x.status.isLive <;> simp

theorem eval_saveSubscription_bind :
    ((saveSubscription id f).bind g).eval s = .ok r ↔
      ∃ x, s.subscriptions.get? id = some x ∧ (f x).isValid = true ∧
        ((f x).status.isLive = true → s.hasOtherLive (f x).school id = false) ∧
        (g ()).eval (s.changeSubscription id f) = .ok r := by
  unfold saveSubscription
  simp only [Tx.bind_eq, Tx.bind_assoc]
  rw [eval_lockRows_bind, eval_select_bind]
  cases s.subscriptions.get? id with
  | none => simp
  | some x =>
    simp only [Tx.bind_assoc, Option.some.injEq, exists_eq_left']
    rw [eval_checkSubscription_bind, eval_update_bind]

structure Saves (s s' : Contracts) (school id : ℕ) (x y : SchoolSubscription) : Prop where
  before : s.liveSubscription school = some (id, x)
  after : s'.liveSubscription school = some (id, y)
  valid : y.isValid = true

theorem eval_save_ok (hids : (Dict.keys s.subscriptions).Nodup)
    (hcurrent : s.liveSubscription school = some (id, x)) (hschool : ∀ x, (f x).school = x.school)
    (hstarts : ∀ x, (f x).startsAt = x.startsAt)
    (h : ((saveSubscription id f).bind fun _ => (recordEvents school).bind fun _ => .ret (id, f
      x)).eval s = .ok (p, s')) :
    p = (id, f x) ∧ s' = s.changeSubscription id f ∧ Saves s s' school id x (f x) := by
  rw [eval_saveSubscription_bind] at h
  obtain ⟨x', hget, hvalid, -, h⟩ := h
  rw [get?_of_liveSubscription hids hcurrent] at hget
  cases hget
  rw [eval_recordEvents_bind] at h
  cases h
  exact ⟨rfl, rfl, hcurrent, liveSubscription_change_self hschool hstarts hcurrent, hvalid⟩

theorem extendTrial_ok (hids : (Dict.keys s.subscriptions).Nodup) {extraDays : ℤ}
    (h : (extendTrial clock school extraDays).eval s = .ok (p, s')) :
    ∃ id x, x.status = .trial ∧ 0 < extraDays ∧ p = (id, x.extendTrial clock extraDays x) ∧
      s' = s.changeSubscription id (x.extendTrial clock extraDays) ∧
      Saves s s' school id x (x.extendTrial clock extraDays x) := by
  unfold extendTrial at h
  simp only [Tx.bind_eq, Tx.pure_eq] at h
  rw [eval_lockedLive_bind hids] at h
  obtain ⟨⟨id, x⟩, hcurrent, h⟩ := h
  rw [eval_check_bind, eval_check_bind] at h
  obtain ⟨hstatus, hdays, h⟩ := h
  obtain ⟨hp, hs', hsaves⟩ := eval_save_ok (f := x.extendTrial clock extraDays) hids hcurrent
    (fun _ => rfl) (fun _ => rfl) h
  exact ⟨id, x, of_decide_eq_true hstatus, of_decide_eq_true hdays, hp, hs', hsaves⟩

theorem extend_ok (hids : (Dict.keys s.subscriptions).Nodup) {extraDays : ℤ}
    (h : (extend clock school extraDays).eval s = .ok (p, s')) :
    ∃ id x, x.status ≠ .cancelled ∧ x.status ≠ .suspended ∧ 0 < extraDays ∧
      p = (id, x.extend clock extraDays x) ∧
      s' = s.changeSubscription id (x.extend clock extraDays) ∧
      Saves s s' school id x (x.extend clock extraDays x) := by
  unfold extend at h
  simp only [Tx.bind_eq, Tx.pure_eq] at h
  rw [eval_lockedLive_bind hids] at h
  obtain ⟨⟨id, x⟩, hcurrent, h⟩ := h
  rw [eval_check_bind, eval_check_bind, Bool.and_eq_true] at h
  obtain ⟨⟨hcancelled, hsuspended⟩, hdays, h⟩ := h
  rw [eval_select_bind, eval_check_bind] at h
  obtain ⟨hp, hs', hsaves⟩ := eval_save_ok (f := x.extend clock extraDays) hids hcurrent
    (fun _ => rfl) (fun _ => rfl) h.2
  exact ⟨id, x, of_decide_eq_true hcancelled, of_decide_eq_true hsuspended,
    of_decide_eq_true hdays, hp, hs', hsaves⟩

theorem suspend_ok (hids : (Dict.keys s.subscriptions).Nodup) {reason : Text}
    (h : (suspend clock school reason).eval s = .ok (p, s')) :
    ∃ id x, x.status ≠ .suspended ∧ p = (id, SchoolSubscription.suspend clock reason x) ∧
      s' = s.changeSubscription id (SchoolSubscription.suspend clock reason) ∧
      Saves s s' school id x (SchoolSubscription.suspend clock reason x) := by
  unfold suspend at h
  simp only [Tx.bind_eq, Tx.pure_eq] at h
  rw [eval_check_bind, eval_lockedLive_bind hids] at h
  obtain ⟨-, ⟨id, x⟩, hcurrent, h⟩ := h
  rw [eval_check_bind] at h
  obtain ⟨hp, hs', hsaves⟩ := eval_save_ok (f := SchoolSubscription.suspend clock reason) hids
    hcurrent (fun _ => rfl) (fun _ => rfl) h.2
  exact ⟨id, x, of_decide_eq_true h.1, hp, hs', hsaves⟩

theorem reactivate_ok (hids : (Dict.keys s.subscriptions).Nodup)
    (h : (reactivate clock school).eval s = .ok (p, s')) :
    ∃ id x, x.status = .suspended ∧ p = (id, x.reactivate clock x) ∧
      s' = s.changeSubscription id (x.reactivate clock) ∧
      Saves s s' school id x (x.reactivate clock x) := by
  unfold reactivate at h
  simp only [Tx.bind_eq, Tx.pure_eq] at h
  rw [eval_lockedLive_bind hids] at h
  obtain ⟨⟨id, x⟩, hcurrent, h⟩ := h
  rw [eval_check_bind] at h
  obtain ⟨hp, hs', hsaves⟩ := eval_save_ok (f := x.reactivate clock) hids hcurrent
    (fun _ => rfl) (fun _ => rfl) h.2
  exact ⟨id, x, of_decide_eq_true h.1, hp, hs', hsaves⟩

theorem cancel_ok (hids : (Dict.keys s.subscriptions).Nodup) {reason : Text}
    (h : (cancel clock school reason).eval s = .ok (p, s')) :
    ∃ id x, x.status ≠ .cancelled ∧ p = (id, SchoolSubscription.cancel clock reason x) ∧
      s' = s.changeSubscription id (SchoolSubscription.cancel clock reason) ∧
      Saves s s' school id x (SchoolSubscription.cancel clock reason x) := by
  unfold cancel at h
  simp only [Tx.bind_eq, Tx.pure_eq] at h
  rw [eval_check_bind, eval_lockedLive_bind hids] at h
  obtain ⟨-, ⟨id, x⟩, hcurrent, h⟩ := h
  rw [eval_check_bind] at h
  obtain ⟨hp, hs', hsaves⟩ := eval_save_ok (f := SchoolSubscription.cancel clock reason) hids
    hcurrent (fun _ => rfl) (fun _ => rfl) h.2
  exact ⟨id, x, of_decide_eq_true h.1, hp, hs', hsaves⟩

theorem eval_resolvePlan_bind {plan : ℕ} {g : SaaSPlan → ContractTransaction α} :
    ((resolvePlan plan).bind g).eval s = .ok r ↔
      ∃ p, s.plans.get? plan = some p ∧ p.isActive = true ∧ (g p).eval s = .ok r := by
  unfold resolvePlan
  simp only [Tx.bind_eq, Tx.bind_assoc, Tx.pure_eq]
  rw [eval_select_bind]
  cases s.plans.get? plan with
  | none => simp
  | some p =>
    simp only [Tx.bind_assoc, Option.some.injEq, exists_eq_left']
    exact eval_check_bind

theorem eval_requireFreePlanAvailable_bind {plan : SaaSPlan} :
    ((requireFreePlanAvailable school plan).bind g).eval s = .ok r ↔
      (plan.priceAmount = 0 → s.hasUsedFree school = false) ∧ (g ()).eval s = .ok r := by
  unfold requireFreePlanAvailable
  by_cases hprice : plan.priceAmount = 0
  · rw [if_neg (not_not.mpr hprice)]
    simp only [Tx.bind_eq, Tx.bind_assoc, hprice, true_implies]
    rw [eval_select_bind, eval_check_bind, Bool.not_eq_true']
  · rw [if_pos hprice]
    simp [hprice]

theorem eval_createSubscription_bind :
    ((createSubscription id x).bind g).eval s = .ok r ↔
      s.subscriptions.get? id = none ∧ x.isValid = true ∧
        (x.status.isLive = true → s.hasOtherLive x.school id = false) ∧
        (g ()).eval (s.addSubscription id x) = .ok r := by
  unfold createSubscription
  simp only [Tx.bind_eq, Tx.bind_assoc]
  rw [eval_lockRows_bind, eval_select_bind, eval_check_bind, eval_checkSubscription_bind,
    eval_update_bind]
  simp

theorem eval_orConflict_ok {t : ContractTransaction α} :
    (orConflict t).eval s = .ok r ↔ t.eval s = .ok r := by
  induction t generalizing s with
  | ret a => exact Iff.rfl
  | raise e => cases e <;> simp [orConflict]
  | query q k ih => exact ih (q s)
  | lock rows k ih => exact ih
  | write f k ih => exact ih

theorem eval_orConflict_bind {t : ContractTransaction Unit} :
    ((orConflict t).bind g).eval s = .ok r ↔ (t.bind g).eval s = .ok r := by
  obtain ⟨a, s''⟩ := r
  simp only [Tx.eval_bind_ok, eval_orConflict_ok]

def Contracts.copied (s : Contracts) (id plan : ℕ) : Contracts :=
  let kept : Contracts := { s with
    entitlements := s.entitlements.filter fun p => p.1.1 ≠ id || p.2.isOverride }
  { kept with entitlements := kept.entitlements ++ kept.planSnapshot id plan }

theorem eval_copyEntitlements_bind {plan : ℕ} :
    ((copyEntitlements id plan).bind g).eval s = (g ()).eval (s.copied id plan) := rfl

theorem replaceCurrent_of_notLive (h : p.2.status.isLive = false) :
    replaceCurrent clock (some p) = .ret () := by
  obtain ⟨id, x⟩ := p
  have hlive : (!x.status.isLive) = true := by
    rw [Bool.not_eq_true']
    exact h
  exact if_pos hlive

theorem replaceCurrent_ok {current : Option (ℕ × SchoolSubscription)} {u : Unit}
    (h : (replaceCurrent clock current).eval s = .ok (u, s')) :
    s' = s ∨ ∃ id, s' = s.changeSubscription id fun row =>
      { row with status := .expired, updatedAt := clock.savedAt } := by
  cases current with
  | none =>
    cases h
    exact .inl rfl
  | some p =>
    cases hlive : p.2.status.isLive with
    | false =>
      rw [replaceCurrent_of_notLive hlive] at h
      cases h
      exact .inl rfl
    | true =>
      obtain ⟨id, x⟩ := p
      have hopen : ¬ (!x.status.isLive) = true := by
        rw [Bool.not_eq_true', Bool.not_eq_false]
        exact hlive
      unfold replaceCurrent at h
      dsimp only at h
      rw [if_neg hopen, Tx.bind_eq, eval_check_bind] at h
      obtain ⟨-, h⟩ := h
      unfold closeSubscription at h
      rw [← Tx.bind_ret (saveSubscription id _), eval_saveSubscription_bind] at h
      obtain ⟨_, _, _, _, h⟩ := h
      cases h
      exact .inr ⟨id, rfl⟩

theorem activate_ok (hids : (Dict.keys s.subscriptions).Nodup) {planId newId : ℕ}
    {duration : ContractDuration}
    (h : (activate clock school planId duration newId).eval s = .ok (p, s')) :
    ∃ plan value unit ends closed, s.plans.get? planId = some plan ∧ plan.isActive = true ∧
      (plan.priceAmount = 0 → s.hasUsedFree school = false) ∧
      value = duration.months.getD (duration.value.getD plan.durationValue) ∧
      unit = (if duration.months.isSome then .months
        else duration.unit.getD plan.durationUnit) ∧
      addDuration clock.now value unit = .ok ends ∧
      (replaceCurrent clock (s.liveSubscription school)).eval s = .ok ((), closed) ∧
      closed.subscriptions.get? newId = none ∧
      (plan.contract clock school planId value unit ends).isValid = true ∧
      closed.hasOtherLive school newId = false ∧
      s'.subscriptions = closed.subscriptions ++
        [(newId, plan.contract clock school planId value unit ends)] := by
  unfold activate at h
  simp only [Tx.bind_eq, Tx.pure_eq] at h
  rw [eval_resolvePlan_bind] at h
  obtain ⟨plan, hplan, hactive, h⟩ := h
  unfold lockSchool at h
  rw [eval_lockRows_bind, eval_requireFreePlanAvailable_bind, Tx.eval_bind,
    eval_lockLatest hids] at h
  obtain ⟨hfree, h⟩ := h
  rw [eval_orRaise_bind] at h
  obtain ⟨ends, hends, h⟩ := h
  obtain ⟨⟨⟩, closed, hclosed, h⟩ := Tx.eval_bind_ok.mp h
  rw [eval_createSubscription_bind] at h
  obtain ⟨hnew, hvalid, hlive, h⟩ := h
  rw [eval_copyEntitlements_bind, eval_recordEvents_bind, Tx.eval_ret, Except.ok.injEq,
    Prod.mk.injEq] at h
  exact ⟨plan, _, _, ends, closed, hplan, hactive, hfree, rfl, rfl, hends, hclosed, hnew, hvalid,
    hlive rfl, (congrArg Contracts.subscriptions h.2).symm⟩

end SchoolPlatform.Subscriptions
