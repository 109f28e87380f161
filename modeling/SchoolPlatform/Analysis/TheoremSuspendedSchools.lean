import SchoolPlatform.Analysis.TheoremExpirySync
import SchoolPlatform.Library.GuardedRuns

/-!
# Suspended schools

While the current contract is suspended, operations on it are refused but for its reactivation. A
trial or an activation opens another contract, though, and this one is then current: the school is let
in again unless the guards of the new contract stop it.
-/

namespace SchoolPlatform.Subscriptions

open ReadCommitted

variable {α : Type} {s s' : Contracts} {school : ℕ}

variable {clock : ContractClock} {planId : ℕ}

/-- The plan can be taken by the school, and a contract with the id comes after all others of the
school, none of which is live. -/
def Contracts.Admits (s : Contracts) (school : ℕ) (plan : SaaSPlan) (starts : Instant) (id : ℕ) :
    Prop :=
  plan.isActive = true ∧ (plan.priceAmount = 0 → s.hasUsedFree school = false) ∧
    s.subscriptions.get? id = none ∧ s.hasOtherLive school id = false ∧
    ∀ p ∈ s.ofSchool school, StartKey.mk p.2.startsAt p.1 < StartKey.mk starts id

def Contracts.Opens (s : Contracts) : ContractCall → Prop
  | .startTrial clock school planId trialDays newId =>
    ∃ plan, s.plans.get? planId = some plan ∧ s.Admits school plan clock.now newId ∧
      0 < trialDays.getD plan.trialDaysDefault
  | .activate clock school planId duration newId =>
    ∃ plan, s.plans.get? planId = some plan ∧ s.Admits school plan clock.now newId ∧
      ∃ ends, addDuration clock.now (duration.months.getD (duration.value.getD plan.durationValue))
        (if duration.months.isSome then .months else duration.unit.getD plan.durationUnit) =
          .ok ends ∧ clock.now < ends
  | .extendTrial .. => False
  | .changePlan .. => False
  | .extend .. => False
  | .suspend .. => False
  | .reactivate .. => False
  | .cancel .. => False
  | .setEntitlementOverride .. => False
  | .syncExpirations .. => False

/-- The operations on the contracts of one school that keep a suspension, and the periodic task; a
reactivation is one of them when it fails. -/
def Contracts.KeepsSuspension (s : Contracts) (school : ℕ) : ContractCall → Prop
  | .startTrial _ school' _ _ _ => school' = school
  | .extendTrial _ school' _ => school' = school
  | .activate _ school' _ _ _ => school' = school
  | .changePlan _ school' _ => school' = school
  | .extend _ school' _ => school' = school
  | .suspend _ school' _ => school' = school
  | .reactivate clock school' =>
    school' = school ∧ ∀ r, (Subscriptions.reactivate clock school).eval s ≠ .ok r
  | .cancel .. => False
  | .setEntitlementOverride .. => False
  | .syncExpirations .. => True

def Contracts.Suspended (s : Contracts) (school : ℕ) : Prop :=
  ∃ p, s.liveSubscription school = some p ∧ p.2.status = .suspended

theorem handle_commit {P : Contracts → Prop} {t : ContractTransaction α} (hs : P s)
    (h : ∀ a s', t.eval s = .ok (a, s') → P s') : P ((commit t).run s).2 := by
  refine Program.run_atomic hs fun _ s' heval => ?_
  obtain ⟨a, s₁, ht, hret⟩ := Tx.eval_bind_ok.mp heval
  rw [Tx.eval_ret, Except.ok.injEq, Prod.mk.injEq] at hret
  have hrest : P s₁ := h a s₁ ht
  rw [hret.2] at hrest
  exact hrest

theorem suspended_commit {t : ContractTransaction α} (hsuspended : s.Suspended school)
    (h : ∀ a s', t.eval s = .ok (a, s') → s'.Suspended school) :
    ((commit t).run s).2.Suspended school :=
  handle_commit (P := fun s => s.Suspended school) hsuspended h

theorem eval_requireNoLive_of_suspended {p : ℕ × SchoolSubscription}
    {g : Unit → ContractTransaction α} (hcurrent : s.liveSubscription school = some p)
    (hstatus : p.2.status = .suspended) :
    ((requireNoLiveSubscription clock school).bind g).eval s = (g ()).eval s := by
  obtain ⟨id, x⟩ := p
  replace hstatus : x.status = .suspended := hstatus
  have heffective : x.effectiveStatus clock.checkedAt = .suspended := by
    simp only [SchoolSubscription.effectiveStatus, hstatus]
  unfold requireNoLiveSubscription
  simp only [Tx.bind_eq, Tx.bind_assoc]
  rw [eval_select_bind, hcurrent]
  simp [heffective, hstatus, SubscriptionStatus.isLive, check]

theorem suspended_addSubscription {p : ℕ × SchoolSubscription} {id : ℕ} {x : SchoolSubscription}
    (hcurrent : s.liveSubscription school = some p) (hstatus : p.2.status = .suspended)
    (hschool : x.school = school) (hrows : s'.subscriptions = s.subscriptions ++ [(id, x)]) :
    (∀ q ∈ s.ofSchool school, StartKey.mk q.2.startsAt q.1 < StartKey.mk x.startsAt id) ∨
      s'.Suspended school := by
  have hof : s'.ofSchool school = s.ofSchool school ++ [(id, x)] := by
    unfold Contracts.ofSchool
    rw [hrows, List.filter_append]
    simp [hschool]
  by_cases hlate : StartKey.mk p.2.startsAt p.1 < StartKey.mk x.startsAt id
  · refine .inl fun q hq => lt_of_le_of_lt ?_ hlate
    exact List.le_of_mem_argmax (f := fun q : ℕ × SchoolSubscription =>
      StartKey.mk q.2.startsAt q.1) hq hcurrent
  · refine .inr ⟨p, ?_, hstatus⟩
    unfold Contracts.liveSubscription
    rw [hof]
    exact Latest.argmax_concat_of_le _ hcurrent (not_lt.mp hlate)

theorem startTrial_of_suspended (hsuspended : s.Suspended school) {newId : ℕ}
    {trialDays : Option ℤ} {r : ℕ × SchoolSubscription}
    (h : (startTrial clock school planId trialDays newId).eval s = .ok (r, s')) :
    s.Opens (.startTrial clock school planId trialDays newId) ∨ s'.Suspended school := by
  obtain ⟨p, hcurrent, hstatus⟩ := hsuspended
  unfold startTrial at h
  simp only [Tx.bind_eq, Tx.pure_eq] at h
  rw [eval_resolvePlan_bind] at h
  obtain ⟨plan, hplan, hactive, h⟩ := h
  unfold lockSchool at h
  rw [eval_lockRows_bind, eval_requireNoLive_of_suspended hcurrent hstatus,
    eval_requireFreePlanAvailable_bind, eval_check_bind, eval_orConflict_bind,
    eval_createSubscription_bind] at h
  obtain ⟨hfree, hdays, hnew, -, hlive, h⟩ := h
  rw [eval_copyEntitlements_bind, eval_recordEvents_bind, Tx.eval_ret, Except.ok.injEq,
    Prod.mk.injEq] at h
  rcases suspended_addSubscription hcurrent hstatus rfl (congrArg Contracts.subscriptions h.2).symm
    with hlate | hkept
  · exact .inl ⟨plan, hplan, ⟨hactive, hfree, hnew, hlive rfl, hlate⟩, of_decide_eq_true hdays⟩
  · exact .inr hkept

theorem activate_of_suspended (hids : (Dict.keys s.subscriptions).Nodup)
    (hsuspended : s.Suspended school) {newId : ℕ} {duration : ContractDuration}
    {r : ℕ × SchoolSubscription}
    (h : (activate clock school planId duration newId).eval s = .ok (r, s')) :
    s.Opens (.activate clock school planId duration newId) ∨ s'.Suspended school := by
  obtain ⟨p, hcurrent, hstatus⟩ := hsuspended
  obtain ⟨plan, value, unit, ends, closed, hplan, hactive, hfree, rfl, rfl, hends, hclosed, hnew,
    hvalid, hlive, hrows⟩ := activate_ok hids h
  -- A suspended contract is not closed.
  have hnotLive : p.2.status.isLive = false := by
    rw [hstatus]
    rfl
  rw [hcurrent, replaceCurrent_of_notLive hnotLive] at hclosed
  cases hclosed
  rcases suspended_addSubscription hcurrent hstatus rfl hrows with hlate | hkept
  · have hlast : clock.now < ends := by
      unfold SchoolSubscription.isValid at hvalid
      rw [Bool.and_eq_true] at hvalid
      exact of_decide_eq_true hvalid.1
    exact .inl ⟨plan, hplan, ⟨hactive, hfree, hnew, hlive, hlate⟩, ends, hends, hlast⟩
  · exact .inr hkept

theorem changePlan_of_suspended (hids : (Dict.keys s.subscriptions).Nodup)
    (hsuspended : s.Suspended school) {r : (ℕ × SchoolSubscription) × Contracts} :
    (changePlan clock school planId).eval s ≠ .ok r := by
  obtain ⟨⟨id, x⟩, hcurrent, hstatus⟩ := hsuspended
  intro h
  unfold changePlan at h
  simp only [Tx.bind_eq, Tx.pure_eq] at h
  rw [eval_resolvePlan_bind] at h
  obtain ⟨plan, -, -, h⟩ := h
  rw [eval_lockedLive_bind hids] at h
  obtain ⟨p', hp', h⟩ := h
  rw [hcurrent] at hp'
  cases hp'
  rw [eval_check_bind, hstatus] at h
  cases h.1

/-- **One step.** A school stays suspended unless the call opens a contract. -/
theorem suspended_step (hs : s.Constrained) (hsuspended : s.Suspended school) {call : ContractCall}
    (hcall : s.KeepsSuspension school call) (hopens : ¬ s.Opens call) :
    (s.handle call).Suspended school := by
  have hcurrent : ∀ id x s' y, Saves s s' school id x y → x.status = .suspended := by
    intro id x s' y hsaves
    obtain ⟨p, hp, hstatus⟩ := hsuspended
    rw [hsaves.before, Option.some.injEq] at hp
    rw [← hp] at hstatus
    exact hstatus
  cases call with
  | startTrial clock school' planId trialDays newId =>
    obtain rfl : school' = school := hcall
    refine suspended_commit hsuspended fun r s' h => ?_
    exact (startTrial_of_suspended hsuspended h).resolve_left hopens
  | extendTrial clock school' extraDays =>
    obtain rfl : school' = school := hcall
    refine suspended_commit hsuspended fun r s' h => ?_
    obtain ⟨id, x, htrial, -, -, -, hsaves⟩ := extendTrial_ok hs.ids h
    rw [hcurrent id x s' _ hsaves] at htrial
    cases htrial
  | activate clock school' planId duration newId =>
    obtain rfl : school' = school := hcall
    refine suspended_commit hsuspended fun r s' h => ?_
    exact (activate_of_suspended hs.ids hsuspended h).resolve_left hopens
  | changePlan clock school' planId =>
    obtain rfl : school' = school := hcall
    refine suspended_commit hsuspended fun r s' h => ?_
    exact absurd h (changePlan_of_suspended hs.ids hsuspended)
  | extend clock school' extraDays =>
    obtain rfl : school' = school := hcall
    refine suspended_commit hsuspended fun r s' h => ?_
    obtain ⟨id, x, -, hne, -, -, -, hsaves⟩ := extend_ok hs.ids h
    exact absurd (hcurrent id x s' _ hsaves) hne
  | suspend clock school' reason =>
    obtain rfl : school' = school := hcall
    refine suspended_commit hsuspended fun r s' h => ?_
    obtain ⟨id, x, hne, -, -, hsaves⟩ := suspend_ok hs.ids h
    exact absurd (hcurrent id x s' _ hsaves) hne
  | reactivate clock school' =>
    obtain ⟨rfl, hfails⟩ := hcall
    exact suspended_commit hsuspended fun r s' h => absurd h (hfails _)
  | cancel clock school' reason => exact hcall.elim
  | setEntitlementOverride clock school' key numericValue isEnabled => exact hcall.elim
  | syncExpirations now savedAt =>
    obtain ⟨p, hp, hstatus⟩ := hsuspended
    rw [handle_syncExpirations hs]
    refine ⟨p, ?_, hstatus⟩
    rw [liveSubscription_synced, hp, Option.map_some, synced_of_suspended hstatus]

theorem getSchoolAccessMode_of_suspended (h : s.Suspended school) (t : Instant) :
    s.getSchoolAccessMode school t = .blocked := by
  obtain ⟨p, hp, hstatus⟩ := h
  unfold Contracts.getSchoolAccessMode
  rw [hp]
  simp [SchoolSubscription.effectiveStatus, hstatus, SubscriptionStatus.accessMode]

/-- **A suspended school stays out** until it is reactivated, in every run in which no call opens a
contract. -/
theorem suspended_stays_blocked (hs : s.Constrained) (hsuspended : s.Suspended school)
    {calls : List ContractCall} (hrun : Runs.Guarded Contracts.handle
      (fun s call => s.KeepsSuspension school call ∧ ¬ s.Opens call) s calls) :
    ∀ l, l <+: calls → ∀ t, (l.foldl Contracts.handle s).getSchoolAccessMode school t = .blocked := by
  intro l hl t
  have hinv := Runs.Guarded.invariant (I := fun s => s.Constrained ∧ s.Suspended school)
    (fun s call hI hadmits => ⟨hI.1.handle call, suspended_step hI.1 hI.2 hadmits.1 hadmits.2⟩)
    ⟨hs, hsuspended⟩ hrun l hl
  exact getSchoolAccessMode_of_suspended hinv.2 t

def suspendedSchool : Contracts := holding tenDayContract.onFirstDay

def refusedCalls : List ContractCall :=
  [.startTrial (clockAt (timedelta 2)) 7 5 none 2, .extend (clockAt (timedelta 3)) 7 30,
    .syncExpirations (timedelta 40) fun _ => timedelta 40]

/-- The school stays out. -/
theorem suspended_stays_blocked_of_run :
    (refusedCalls.foldl Contracts.handle suspendedSchool).getSchoolAccessMode 7 (timedelta 40) =
      .blocked := by
  have hs : suspendedSchool.Constrained := holding_constrained (by decide)
  have hsuspended : suspendedSchool.Suspended 7 := ⟨(1, tenDayContract.onFirstDay), rfl, rfl⟩
  have hnoplan : ¬ suspendedSchool.Opens (.startTrial (clockAt (timedelta 2)) 7 5 none 2) := by
    rintro ⟨plan, hplan, -⟩
    cases hplan
  have hrun : Runs.Guarded Contracts.handle
      (fun s call => s.KeepsSuspension 7 call ∧ ¬ s.Opens call) suspendedSchool refusedCalls :=
    ⟨⟨rfl, hnoplan⟩, ⟨rfl, not_false⟩, ⟨trivial, not_false⟩, trivial⟩
  exact suspended_stays_blocked hs hsuspended hrun _ (List.prefix_refl _) _

/-- A trial lets the school in again, and so does an activation. -/
theorem suspended_school_readmitted :
    suspendedSchool.getSchoolAccessMode 7 (timedelta 2) = .blocked ∧
      (suspendedSchool.handle (.startTrial (clockAt (timedelta 2)) 7 1 none 2)).getSchoolAccessMode
        7 (timedelta 2) = .full ∧
      (suspendedSchool.handle (.activate (clockAt (timedelta 2)) 7 1
        { value := some 30, unit := some .days } 2)).getSchoolAccessMode 7 (timedelta 2) =
          .full :=
  ⟨by decide, by decide, by decide⟩

end SchoolPlatform.Subscriptions
