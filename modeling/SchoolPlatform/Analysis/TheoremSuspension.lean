import SchoolPlatform.Analysis.ContractSteps

/-!
# What a reactivation brings back

A suspension overwrites the status that the contract has had, and a reactivation puts one in its place
that follows from the end of the contract alone. This brings back what the contract would have been
only where its status said no more than that.
-/

/-! ## What a renewal buys -/

namespace SchoolPlatform.Subscriptions

open ReadCommitted

variable {s : Contracts}

/-- The contract is on trial or in force for some days from now. -/
def SchoolSubscription.RunsFor (x : SchoolSubscription) (now : Instant) (days : ℤ) : Prop :=
  ∀ t, now ≤ t → t < now + timedelta days →
    x.effectiveStatus t = .trial ∨ x.effectiveStatus t = .active

theorem timedelta_pos {days : ℤ} (h : 0 < days) : 0 < timedelta days := by
  unfold timedelta
  omega

theorem effectiveStatus_of_trial {x : SchoolSubscription} (hstatus : x.status = .trial)
    (t : Instant) : (x.effectiveStatus t = .trial ∨ x.effectiveStatus t = .active) ↔
      t < x.trialEnd := by
  unfold SchoolSubscription.effectiveStatus
  rw [hstatus]
  by_cases h : t < x.trialEnd
  · simp [h]
  · simp only [if_neg h]
    exact iff_of_false (afterEnd_ne x t) h

theorem effectiveStatus_of_active {x : SchoolSubscription}
    (hstatus : x.status = .active ∨ x.status = .gracePeriod) (t : Instant) :
    (x.effectiveStatus t = .trial ∨ x.effectiveStatus t = .active) ↔ t < x.endsAt := by
  unfold SchoolSubscription.effectiveStatus
  rcases hstatus with hstatus | hstatus <;> rw [hstatus]
  all_goals
    by_cases h : t < x.endsAt
    · simp [h]
    · simp only [if_neg h]
      exact iff_of_false (afterEnd_ne x t) h

theorem runsFor_iff {x : SchoolSubscription} {now ends : Instant} {days : ℤ} (hdays : 0 < days)
    (h : ∀ t, (x.effectiveStatus t = .trial ∨ x.effectiveStatus t = .active) ↔ t < ends) :
    x.RunsFor now days ↔ now + timedelta days ≤ ends := by
  have hpos := timedelta_pos hdays
  constructor
  · intro hruns
    by_contra hlate
    -- The contract has ended at the later of now and its end.
    have hlast : max now ends < now + timedelta days := by
      apply max_lt
      · exact Int.lt_add_of_pos_right now hpos
      · exact not_le.mp hlate
    have hstatus := (h _).mp (hruns (max now ends) (le_max_left _ _) hlast)
    exact absurd hstatus (not_lt.mpr (le_max_right _ _))
  · intro hends t _ ht
    exact (h t).mpr (lt_of_lt_of_le ht hends)

theorem runsFor_extendTrial {x : SchoolSubscription} {clock : ContractClock} {extraDays : ℤ}
    (hstatus : x.status = .trial) (hdays : 0 < extraDays) :
    (x.extendTrial clock extraDays x).RunsFor clock.now extraDays ↔ clock.now ≤ x.trialEnd := by
  have hends : (x.extendTrial clock extraDays x).trialEnd = x.trialEnd + timedelta extraDays := rfl
  have hsame : (x.extendTrial clock extraDays x).status = .trial := hstatus
  rw [runsFor_iff hdays (effectiveStatus_of_trial hsame), hends]
  exact Int.add_le_add_iff_right (timedelta extraDays)

theorem runsFor_extend {x : SchoolSubscription} {clock : ContractClock} {extraDays : ℤ}
    (hcancelled : x.status ≠ .cancelled) (hsuspended : x.status ≠ .suspended)
    (hdays : 0 < extraDays) :
    (x.extend clock extraDays x).RunsFor clock.now extraDays ↔
      ∀ e, x.status = .trial → x.trialEndsAt = some e → clock.now + timedelta extraDays ≤ e := by
  have hnow : clock.now + timedelta extraDays ≤ (x.extend clock extraDays x).endsAt := by
    have hmax : clock.now ≤ max x.endsAt clock.now := le_max_right _ _
    exact Int.add_le_add_right hmax (timedelta extraDays)
  by_cases htrial : x.status = .trial
  · have hsame : (x.extend clock extraDays x).status = .trial := by
      show (if x.status = .expired then SubscriptionStatus.active else x.status) = .trial
      rw [htrial]
      rfl
    rw [runsFor_iff hdays (effectiveStatus_of_trial hsame)]
    have hkept : (x.extend clock extraDays x).trialEndsAt = x.trialEndsAt := rfl
    unfold SchoolSubscription.trialEnd
    rw [hkept]
    cases hends : x.trialEndsAt with
    | none => simpa using hnow
    | some e => simp [htrial]
  · have hactive : (x.extend clock extraDays x).status = .active ∨
        (x.extend clock extraDays x).status = .gracePeriod := by
      show (if x.status = .expired then SubscriptionStatus.active else x.status) = .active ∨
        (if x.status = .expired then SubscriptionStatus.active else x.status) = .gracePeriod
      cases hstatus : x.status <;> simp_all
    rw [runsFor_iff hdays (effectiveStatus_of_active hactive)]
    exact iff_of_true hnow fun e h => absurd h htrial

/-- **A renewal buys its days** exactly when it is no extension of a trial that has ended, and no
extension of the contract of a trial that ends before them. -/
theorem renewal_runsFor_iff (hs : s.Constrained) (clock : ContractClock) (school : ℕ)
    (extraDays : ℤ) :
    (∀ p s', (extendTrial clock school extraDays).eval s = .ok (p, s') →
      ∃ x, s.liveSubscription school = some (p.1, x) ∧ s'.liveSubscription school = some p ∧
        (p.2.RunsFor clock.now extraDays ↔ clock.now ≤ x.trialEnd)) ∧
    (∀ p s', (extend clock school extraDays).eval s = .ok (p, s') →
      ∃ x, s.liveSubscription school = some (p.1, x) ∧ s'.liveSubscription school = some p ∧
        (p.2.RunsFor clock.now extraDays ↔ ∀ e, x.status = .trial → x.trialEndsAt = some e →
          clock.now + timedelta extraDays ≤ e)) := by
  constructor
  · intro p s' h
    obtain ⟨id, x, hstatus, hdays, rfl, -, hsaves⟩ := extendTrial_ok hs.ids h
    exact ⟨x, hsaves.before, hsaves.after, runsFor_extendTrial hstatus hdays⟩
  · intro p s' h
    obtain ⟨id, x, hcancelled, hsuspended, hdays, rfl, -, hsaves⟩ := extend_ok hs.ids h
    exact ⟨x, hsaves.before, hsaves.after, runsFor_extend hcancelled hsuspended hdays⟩

def tenDayTrial : SchoolSubscription where
  school := 7
  plan := 1
  startsAt := 0
  endsAt := timedelta 10
  trialStartedAt := some 0
  trialEndsAt := some (timedelta 10)
  updatedAt := 0

def endedTrial : Contracts where
  plans := [(1, { code := "basic", priceAmount := 10000 })]
  subscriptions := [(1, tenDayTrial)]

theorem endedTrial_constrained : endedTrial.Constrained where
  ids := by decide
  live := by decide
  valid := by decide

def clockAt (now : Instant) : ContractClock where
  checkedAt := now
  now := now
  savedAt := now

/-- After five days the trial is extended by five days, and so is the contract. -/
theorem renewal_of_runningTrial :
    (tenDayTrial.extendTrial (clockAt (timedelta 5)) 5 tenDayTrial).RunsFor (timedelta 5) 5 ∧
      (tenDayTrial.extend (clockAt (timedelta 5)) 5 tenDayTrial).RunsFor (timedelta 5) 5 := by
  obtain ⟨htrial, hcontract⟩ := renewal_runsFor_iff endedTrial_constrained (clockAt (timedelta 5))
    7 5
  constructor
  · obtain ⟨x, hx, -, hiff⟩ := htrial
      (1, tenDayTrial.extendTrial (clockAt (timedelta 5)) 5 tenDayTrial) _ rfl
    have hrow : x = tenDayTrial := (congrArg Prod.snd (Option.some.inj hx)).symm
    subst hrow
    exact hiff.mpr (by decide)
  · obtain ⟨x, hx, -, hiff⟩ := hcontract
      (1, tenDayTrial.extend (clockAt (timedelta 5)) 5 tenDayTrial) _ rfl
    have hrow : x = tenDayTrial := (congrArg Prod.snd (Option.some.inj hx)).symm
    subst hrow
    refine hiff.mpr fun e _ he => ?_
    have hends : timedelta 10 = e := Option.some.inj he
    rw [← hends]
    decide

/-- Ten days after its end the trial is extended by five days, and so is the contract: both times the
school has nothing of it. -/
theorem renewal_of_endedTrial :
    (∃ p s', (extendTrial (clockAt (timedelta 20)) 7 5).eval endedTrial = .ok (p, s') ∧
      ¬ p.2.RunsFor (timedelta 20) 5) ∧
    ∃ p s', (extend (clockAt (timedelta 20)) 7 5).eval endedTrial = .ok (p, s') ∧
      ¬ p.2.RunsFor (timedelta 20) 5 := by
  refine ⟨⟨(1, tenDayTrial.extendTrial (clockAt (timedelta 20)) 5 tenDayTrial), _, rfl, fun h => ?_⟩,
    ⟨(1, tenDayTrial.extend (clockAt (timedelta 20)) 5 tenDayTrial), _, rfl, fun h => ?_⟩⟩
  · have hnow := h (timedelta 20) (le_refl _) (by decide)
    revert hnow
    decide
  · have hnow := h (timedelta 20) (le_refl _) (by decide)
    revert hnow
    decide

variable {s : Contracts}

/-- Suspended before and reactivated at an instant, the contract is what it would have been. -/
def SchoolSubscription.ComesBackAt (x : SchoolSubscription) (now : Instant) : Prop :=
  match x.status with
  | .suspended => False
  | .cancelled => False
  | .expired => x.endsAt ≤ now
  | .trial => x.trialEnd ≤ now ∧ x.endsAt ≤ now ∧ x.afterEnd now = .expired
  | .active => now < x.endsAt ∨ x.afterEnd now = .expired
  | .gracePeriod => now < x.endsAt ∨ x.afterEnd now = .expired

theorem afterEnd_expired_mono {x : SchoolSubscription} {now t : Instant}
    (h : x.afterEnd now = .expired) (hle : now ≤ t) : x.afterEnd t = .expired := by
  unfold SchoolSubscription.afterEnd at h ⊢
  cases hgrace : x.graceEndsAt with
  | none => rfl
  | some g =>
    rw [hgrace] at h
    by_cases hnow : now < g
    · simp [hnow] at h
    · have hlate : ¬ t < g := fun ht => hnow (lt_of_le_of_lt hle ht)
      simp [hlate]

theorem effectiveStatus_expired {x : SchoolSubscription} (h : x.status = .expired) (t : Instant) :
    x.effectiveStatus t = .expired := by
  unfold SchoolSubscription.effectiveStatus
  rw [h]

theorem effectiveStatus_eq_of_active {x : SchoolSubscription}
    (h : x.status = .active ∨ x.status = .gracePeriod) (t : Instant) :
    x.effectiveStatus t = if t < x.endsAt then .active else x.afterEnd t := by
  unfold SchoolSubscription.effectiveStatus
  rcases h with h | h <;> rw [h]

theorem effectiveStatus_reactivated {x y : SchoolSubscription} {now : Instant}
    (hstatus : y.status = if now < x.endsAt then .active else .expired)
    (hends : y.endsAt = x.endsAt) (hgrace : y.graceEndsAt = x.graceEndsAt) (t : Instant) :
    y.effectiveStatus t =
      if now < x.endsAt then (if t < x.endsAt then .active else x.afterEnd t) else .expired := by
  by_cases h : now < x.endsAt
  · rw [if_pos h] at hstatus ⊢
    rw [effectiveStatus_eq_of_active (.inl hstatus), hends]
    unfold SchoolSubscription.afterEnd
    rw [hgrace]
  · rw [if_neg h] at hstatus ⊢
    exact effectiveStatus_expired hstatus t

theorem expired_iff_of_ended {x : SchoolSubscription} {now : Instant}
    (hstatus : ∀ t, now ≤ t → x.effectiveStatus t = x.afterEnd t) :
    (∀ t, now ≤ t → .expired = x.effectiveStatus t) ↔ x.afterEnd now = .expired := by
  constructor
  · intro h
    rw [← hstatus now (le_refl now)]
    exact (h now (le_refl now)).symm
  · intro h t ht
    rw [hstatus t ht]
    exact (afterEnd_expired_mono h ht).symm

theorem comesBack_iff {x y : SchoolSubscription} {now : Instant}
    (hsuspended : x.status ≠ .suspended)
    (hy : ∀ t, y.effectiveStatus t =
      if now < x.endsAt then (if t < x.endsAt then .active else x.afterEnd t) else .expired) :
    (∀ t, now ≤ t → y.effectiveStatus t = x.effectiveStatus t) ↔ x.ComesBackAt now := by
  simp only [hy]
  unfold SchoolSubscription.ComesBackAt
  by_cases hends : now < x.endsAt
  · -- The contract is in force again.
    have hforce : (if now < x.endsAt then (if now < x.endsAt then SubscriptionStatus.active
        else x.afterEnd now) else .expired) = .active := by rw [if_pos hends, if_pos hends]
    cases hstatus : x.status with
    | suspended => exact absurd hstatus hsuspended
    | cancelled =>
      simp only [iff_false]
      intro h
      have hnow := h now (le_refl now)
      rw [hforce] at hnow
      simp [SchoolSubscription.effectiveStatus, hstatus] at hnow
    | expired =>
      refine iff_of_false (fun h => ?_) (not_le.mpr hends)
      have hnow := h now (le_refl now)
      rw [hforce, effectiveStatus_expired hstatus] at hnow
      cases hnow
    | trial =>
      refine iff_of_false (fun h => ?_) fun h => absurd hends (not_lt.mpr h.2.1)
      have hnow := h now (le_refl now)
      rw [hforce] at hnow
      have hsame := (effectiveStatus_of_trial hstatus now).mp (.inr hnow.symm)
      simp [SchoolSubscription.effectiveStatus, hstatus, hsame] at hnow
    | active =>
      refine iff_of_true (fun t _ => ?_) (.inl hends)
      rw [if_pos hends, effectiveStatus_eq_of_active (.inl hstatus)]
    | gracePeriod =>
      refine iff_of_true (fun t _ => ?_) (.inl hends)
      rw [if_pos hends, effectiveStatus_eq_of_active (.inr hstatus)]
  · simp only [if_neg hends]
    have hended : x.endsAt ≤ now := not_lt.mp hends
    have hlate : ∀ t, now ≤ t → ¬ t < x.endsAt :=
      fun t ht => not_lt.mpr (le_trans hended ht)
    cases hstatus : x.status with
    | suspended => exact absurd hstatus hsuspended
    | cancelled =>
      simp only [iff_false]
      intro h
      have hnow := h now (le_refl now)
      simp [SchoolSubscription.effectiveStatus, hstatus] at hnow
    | expired =>
      refine iff_of_true (fun t _ => ?_) hended
      rw [effectiveStatus_expired hstatus]
    | trial =>
      by_cases htrial : now < x.trialEnd
      · refine iff_of_false (fun h => ?_) fun h => absurd htrial (not_lt.mpr h.1)
        have hnow := h now (le_refl now)
        simp [SchoolSubscription.effectiveStatus, hstatus, htrial] at hnow
      · have hover : x.trialEnd ≤ now := not_lt.mp htrial
        rw [expired_iff_of_ended (x := x)]
        · simp only [hover, hended, true_and]
        · intro t ht
          have hpast : ¬ t < x.trialEnd := not_lt.mpr (le_trans hover ht)
          simp [SchoolSubscription.effectiveStatus, hstatus, hpast]
    | active =>
      rw [expired_iff_of_ended (x := x)]
      · simp only [hends, false_or]
      · intro t ht
        rw [effectiveStatus_eq_of_active (.inl hstatus), if_neg (hlate t ht)]
    | gracePeriod =>
      rw [expired_iff_of_ended (x := x)]
      · simp only [hends, false_or]
      · intro t ht
        rw [effectiveStatus_eq_of_active (.inr hstatus), if_neg (hlate t ht)]

/-- **A suspension is undone by the reactivation** exactly where the contract comes back. -/
theorem suspension_undone_iff (hs : s.Constrained) {suspended reactivated : ContractClock}
    {school : ℕ} {reason : Text} {p p' : ℕ × SchoolSubscription} {s₁ s₂ : Contracts}
    (hsuspend : (suspend suspended school reason).eval s = .ok (p, s₁))
    (hreactivate : (reactivate reactivated school).eval s₁ = .ok (p', s₂)) :
    ∃ x, s.liveSubscription school = some (p'.1, x) ∧ s₂.liveSubscription school = some p' ∧
      ((∀ t, reactivated.now ≤ t → p'.2.effectiveStatus t = x.effectiveStatus t) ↔
        x.ComesBackAt reactivated.now) := by
  obtain ⟨id, x, hstatus, -, rfl, hsaves⟩ := suspend_ok hs.ids hsuspend
  have hids : (Dict.keys (s.changeSubscription id
      (SchoolSubscription.suspend suspended reason)).subscriptions).Nodup := by
    rw [keys_changeSubscription]
    exact hs.ids
  obtain ⟨id', y, -, rfl, -, hsaves'⟩ := reactivate_ok hids hreactivate
  have hsame : (id', y) = (id, SchoolSubscription.suspend suspended reason x) :=
    Option.some.inj (hsaves'.before.symm.trans hsaves.after)
  obtain ⟨rfl, rfl⟩ := Prod.mk.inj hsame
  refine ⟨x, hsaves.before, hsaves'.after, comesBack_iff hstatus fun t => ?_⟩
  exact effectiveStatus_reactivated rfl rfl rfl t

def holding (x : SchoolSubscription) : Contracts where
  plans := [(1, { code := "basic", priceAmount := 10000 })]
  subscriptions := [(1, x)]

theorem holding_constrained {x : SchoolSubscription} (h : x.isValid = true) :
    (holding x).Constrained where
  ids := List.nodup_singleton 1
  live := by
    intro p hp _
    rw [List.mem_singleton.mp hp]
    simp [Contracts.hasOtherLive, holding]
  valid := by
    intro p hp
    rw [List.mem_singleton.mp hp]
    exact h

def tenDayContract : SchoolSubscription where
  school := 7
  plan := 1
  status := .active
  startsAt := 0
  endsAt := timedelta 10
  updatedAt := 0

def SchoolSubscription.onFirstDay (x : SchoolSubscription) : SchoolSubscription :=
  SchoolSubscription.suspend (clockAt (timedelta 1)) "unpaid".toList x

def SchoolSubscription.onSecondDay (x : SchoolSubscription) : SchoolSubscription :=
  x.onFirstDay.reactivate (clockAt (timedelta 2)) x.onFirstDay

/-- A contract that is in force comes back. -/
theorem suspension_of_contract :
    tenDayContract.onSecondDay.effectiveStatus (timedelta 5) =
      tenDayContract.effectiveStatus (timedelta 5) := by
  have hsuspend : (suspend (clockAt (timedelta 1)) 7 "unpaid".toList).eval
      (holding tenDayContract) = .ok ((1, tenDayContract.onFirstDay),
        holding tenDayContract.onFirstDay) := rfl
  have hreactivate : (reactivate (clockAt (timedelta 2)) 7).eval
      (holding tenDayContract.onFirstDay) = .ok ((1, tenDayContract.onSecondDay),
        holding tenDayContract.onSecondDay) := rfl
  obtain ⟨x, hx, -, hiff⟩ :=
    suspension_undone_iff (holding_constrained (by decide)) hsuspend hreactivate
  have hrow : x = tenDayContract := (congrArg Prod.snd (Option.some.inj hx)).symm
  subst hrow
  have hback : tenDayContract.ComesBackAt (timedelta 2) := Or.inl (by decide)
  exact hiff.mpr hback _ (by decide)

/-- A trial comes back as a contract in force, and so does a contract that was cancelled. -/
theorem suspension_of_trial_and_cancelled :
    (∃ p p' s₁ s₂, (suspend (clockAt (timedelta 1)) 7 "unpaid".toList).eval
        (holding tenDayTrial) = .ok (p, s₁) ∧
      (reactivate (clockAt (timedelta 2)) 7).eval s₁ = .ok (p', s₂) ∧
      p'.2.effectiveStatus (timedelta 2) = .active ∧
      tenDayTrial.effectiveStatus (timedelta 2) = .trial) ∧
    ∃ p p' s₁ s₂, (suspend (clockAt (timedelta 1)) 7 "unpaid".toList).eval
        (holding { tenDayContract with status := .cancelled }) = .ok (p, s₁) ∧
      (reactivate (clockAt (timedelta 2)) 7).eval s₁ = .ok (p', s₂) ∧
      p'.2.effectiveStatus (timedelta 2) = .active ∧
      ({ tenDayContract with status := .cancelled } :
        SchoolSubscription).effectiveStatus (timedelta 2) = .cancelled := by
  constructor
  · refine ⟨_, (1, tenDayTrial.onSecondDay), _, _, rfl, rfl, ?_, ?_⟩ <;> decide
  · refine ⟨_, (1, SchoolSubscription.onSecondDay { tenDayContract with status := .cancelled }),
      _, _, rfl, rfl, ?_, ?_⟩ <;> decide

end SchoolPlatform.Subscriptions
