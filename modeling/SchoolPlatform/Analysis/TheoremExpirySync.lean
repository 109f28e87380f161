import SchoolPlatform.Analysis.ContractConstraints
import SchoolPlatform.Analysis.TheoremSuspension

/-!
# What the periodic task means

The task writes down what the dates have made of a status, and the status that it writes is read
with the dates again. Both readings agree at all later times but for a trial that is over before the
contract ends: written down as one in its grace period, it is read as a contract in force.
-/

/-! ## What the periodic task leaves -/

namespace SchoolPlatform.Subscriptions

open ReadCommitted

variable {s : Contracts}

def SchoolSubscription.synced (x : SchoolSubscription) (now savedAt : Instant) :
    SchoolSubscription :=
  if x.status.isLive && x.effectiveStatus now ≠ x.status then
    { x with status := x.effectiveStatus now, updatedAt := savedAt }
  else x

def Contracts.synced (s : Contracts) (now : Instant) (savedAt : ℕ → Instant) : Contracts :=
  { s with subscriptions := s.subscriptions.mapValues fun id x => x.synced now (savedAt id) }

def written (savedAt : ℕ → Instant) (p : ℕ × SubscriptionStatus) (row : SchoolSubscription) :
    SchoolSubscription :=
  { row with status := p.2, updatedAt := savedAt p.1 }

theorem afterEnd_eq (x : SchoolSubscription) (now : Instant) :
    x.afterEnd now = .gracePeriod ∨ x.afterEnd now = .expired := by
  unfold SchoolSubscription.afterEnd
  by_cases h : (x.graceEndsAt.any fun t => decide (now < t)) = true
  · exact .inl (if_pos h)
  · exact .inr (if_neg h)

theorem effectiveStatus_of_live {x : SchoolSubscription} (h : x.status.isLive = true)
    (now : Instant) : x.effectiveStatus now = x.afterEnd now ∨ x.effectiveStatus now = .active ∨
      x.effectiveStatus now = .trial := by
  unfold SchoolSubscription.effectiveStatus
  cases hstatus : x.status with
  | trial =>
    by_cases hend : now < x.trialEnd
    · exact .inr (.inr (if_pos hend))
    · exact .inl (if_neg hend)
  | active =>
    by_cases hend : now < x.endsAt
    · exact .inr (.inl (if_pos hend))
    · exact .inl (if_neg hend)
  | gracePeriod =>
    by_cases hend : now < x.endsAt
    · exact .inr (.inl (if_pos hend))
    · exact .inl (if_neg hend)
  | expired => simp [hstatus, SubscriptionStatus.isLive] at h
  | suspended => simp [hstatus, SubscriptionStatus.isLive] at h
  | cancelled => simp [hstatus, SubscriptionStatus.isLive] at h

theorem effectiveStatus_ne_suspended {x : SchoolSubscription} (h : x.status.isLive = true)
    (now : Instant) : x.effectiveStatus now ≠ .suspended := by
  intro hsuspended
  rcases effectiveStatus_of_live h now with heq | heq | heq
  · rcases afterEnd_eq x now with hafter | hafter <;> simp [heq, hafter] at hsuspended
  · simp [heq] at hsuspended
  · simp [heq] at hsuspended

theorem synced_of_suspended {x : SchoolSubscription} (h : x.status = .suspended)
    (now savedAt : Instant) : x.synced now savedAt = x := by
  unfold SchoolSubscription.synced
  rw [h]
  rfl

theorem synced_school (x : SchoolSubscription) (now savedAt : Instant) :
    (x.synced now savedAt).school = x.school := by
  unfold SchoolSubscription.synced
  split <;> rfl

theorem synced_startsAt (x : SchoolSubscription) (now savedAt : Instant) :
    (x.synced now savedAt).startsAt = x.startsAt := by
  unfold SchoolSubscription.synced
  split <;> rfl

theorem synced_wasFreePlan (x : SchoolSubscription) (now savedAt : Instant) :
    (x.synced now savedAt).wasFreePlan = x.wasFreePlan := by
  unfold SchoolSubscription.synced
  split <;> rfl

theorem liveSubscription_synced (now : Instant) (savedAt : ℕ → Instant) (school : ℕ) :
    (s.synced now savedAt).liveSubscription school = (s.liveSubscription school).map fun p =>
      (p.1, p.2.synced now (savedAt p.1)) :=
  liveSubscription_mapValues (g := fun id x => x.synced now (savedAt id)) rfl
    (fun id x => synced_school x now (savedAt id)) (fun id x => synced_startsAt x now (savedAt id))
    school

theorem eval_saveStatus (hs : s.Constrained) {id : ℕ} {x : SchoolSubscription}
    {status : SubscriptionStatus} (hget : s.subscriptions.get? id = some x)
    (hlive : x.status.isLive = true) (hstatus : status ≠ .suspended) (savedAt : Instant) :
    (saveStatus id status savedAt).eval s = .ok ((), s.changeSubscription id fun row =>
      { row with status := status, updatedAt := savedAt }) := by
  have hrow : (id, x) ∈ s.subscriptions := (Dict.mem_iff_get? hs.ids id x).mpr hget
  rw [← Tx.bind_ret (saveStatus id status savedAt)]
  unfold saveStatus
  rw [eval_saveSubscription_bind]
  refine ⟨x, hget, ?_, fun _ => hs.live _ hrow hlive, rfl⟩
  have hvalid : x.isValid = true := hs.valid _ hrow
  unfold SchoolSubscription.isValid at hvalid ⊢
  rw [Bool.and_eq_true] at hvalid ⊢
  exact ⟨hvalid.1, by simp [hstatus]⟩

theorem run_saveStatuses (savedAt : ℕ → Instant) (changes : List (ℕ × SubscriptionStatus))
    (hids : (changes.map Prod.fst).Nodup) (hs : s.Constrained)
    (hfound : ∀ p ∈ changes, p.2 ≠ .suspended ∧
      ∃ x, s.subscriptions.get? p.1 = some x ∧ x.status.isLive = true) :
    (Program.forEach (fun p => Program.transaction (saveStatus p.1 p.2 (savedAt p.1))) changes :
      ContractProgram Unit).run s = (.ok (), { s with
        subscriptions := changes.foldl (fun d p => d.adjust p.1 (written savedAt p))
          s.subscriptions }) := by
  induction changes generalizing s with
  | nil => rfl
  | cons p changes ih =>
    obtain ⟨hstatus, x, hget, hlive⟩ := hfound p List.mem_cons_self
    rw [List.map_cons, List.nodup_cons] at hids
    have hwrite := eval_saveStatus hs hget hlive hstatus (savedAt p.1)
    have hkept := keepsConstraints_saveSubscription _ _ s () _ hs hwrite
    show ((Program.atomic _ _ : ContractProgram Unit)).run s = _
    simp only [Program.run, hwrite]
    refine (ih hids.2 hkept fun q hq => ?_).trans rfl
    obtain ⟨hq', y, hy, hylive⟩ := hfound q (List.mem_cons_of_mem p hq)
    have hne : q.1 ≠ p.1 := fun h => hids.1 (h ▸ List.mem_map_of_mem hq)
    refine ⟨hq', y, ?_, hylive⟩
    simp [Contracts.changeSubscription, hne, hy]

theorem mem_outdated {now : Instant} {q : ℕ × SubscriptionStatus} :
    q ∈ s.outdated now ↔ ∃ p ∈ s.subscriptions, p.2.status.isLive = true ∧
      p.2.effectiveStatus now ≠ p.2.status ∧ q = (p.1, p.2.effectiveStatus now) := by
  unfold Contracts.outdated
  simp only [List.mem_map, List.mem_filter, Bool.and_eq_true, decide_eq_true_eq, and_assoc]
  refine exists_congr fun p => and_congr_right fun _ => and_congr_right fun _ => ?_
  exact and_congr_right fun _ => eq_comm

theorem nodup_outdated (hs : s.Constrained) (now : Instant) :
    ((s.outdated now).map Prod.fst).Nodup := by
  unfold Contracts.outdated
  rw [List.map_map]
  exact (List.filter_sublist.map Prod.fst).nodup hs.ids

theorem found_outdated (hs : s.Constrained) (now : Instant) : ∀ p ∈ s.outdated now,
    p.2 ≠ .suspended ∧ ∃ x, s.subscriptions.get? p.1 = some x ∧ x.status.isLive = true := by
  intro q hq
  obtain ⟨p, hp, hlive, -, rfl⟩ := mem_outdated.mp hq
  exact ⟨effectiveStatus_ne_suspended hlive now, p.2,
    (Dict.mem_iff_get? hs.ids p.1 p.2).mp hp, hlive⟩

theorem find?_outdated (hs : s.Constrained) (now : Instant) {p : ℕ × SchoolSubscription}
    (hp : p ∈ s.subscriptions) : ((s.outdated now).find? fun q => q.1 = p.1) =
      if p.2.status.isLive && p.2.effectiveStatus now ≠ p.2.status then
        some (p.1, p.2.effectiveStatus now) else none := by
  by_cases hout : (p.2.status.isLive && p.2.effectiveStatus now ≠ p.2.status) = true
  · rw [if_pos hout, Table.find?_eq_some_iff (nodup_outdated hs now)]
    rw [Bool.and_eq_true, decide_eq_true_eq] at hout
    exact ⟨mem_outdated.mpr ⟨p, hp, hout.1, hout.2, rfl⟩, rfl⟩
  · rw [if_neg hout, List.find?_eq_none]
    intro q hq hid
    obtain ⟨p', hp', hlive, hne, rfl⟩ := mem_outdated.mp hq
    have hsame : p' = p := Table.eq_of_key_eq hs.ids hp' hp (of_decide_eq_true hid)
    subst hsame
    rw [Bool.and_eq_true, decide_eq_true_eq] at hout
    exact hout ⟨hlive, hne⟩

theorem written_found (hs : s.Constrained) (now : Instant) (savedAt : ℕ → Instant)
    {p : ℕ × SchoolSubscription} (hp : p ∈ s.subscriptions) :
    (((s.outdated now).find? fun q => q.1 = p.1).elim p.2 fun q => written savedAt q p.2) =
      p.2.synced now (savedAt p.1) := by
  rw [find?_outdated hs now hp]
  unfold SchoolSubscription.synced
  split <;> rfl

theorem run_syncExpirations (hs : s.Constrained) (now : Instant) (savedAt : ℕ → Instant) :
    (syncExpirations now savedAt).run s = (.ok ((s.outdated now).countP fun p => p.2 = .expired,
      (s.outdated now).countP fun p => p.2 = .gracePeriod), s.synced now savedAt) := by
  have hwrites := run_saveStatuses savedAt (s.outdated now) (nodup_outdated hs now) hs
    (found_outdated hs now)
  have hrows : (s.outdated now).foldl (fun d p => d.adjust p.1 (written savedAt p))
      s.subscriptions = (s.synced now savedAt).subscriptions := by
    rw [Dict.foldl_adjust (written savedAt) _ (nodup_outdated hs now)]
    show _ = Dict.mapValues (fun id x => x.synced now (savedAt id)) s.subscriptions
    exact Dict.mapValues_congr fun p hp => written_found hs now savedAt hp
  rw [hrows] at hwrites
  show ((Program.forEach _ (s.outdated now)).bind _ : ContractProgram (ℕ × ℕ)).run s = _
  rw [Program.run_bind, hwrites]
  rfl

theorem handle_syncExpirations (hs : s.Constrained) (now : Instant) (savedAt : ℕ → Instant) :
    s.handle (.syncExpirations now savedAt) = s.synced now savedAt := by
  show (((syncExpirations now savedAt).bind _).run s).2 = _
  rw [Program.run_bind, run_syncExpirations hs]
  rfl

variable {s : Contracts}

def Contracts.statusesAt (s : Contracts) (t : Instant) : Dict ℕ SubscriptionStatus :=
  s.subscriptions.map fun p => (p.1, p.2.effectiveStatus t)

/-- A trial is over and in its grace period, and the contract has not ended. -/
def SchoolSubscription.IsOverEarly (x : SchoolSubscription) (now : Instant) : Prop :=
  x.status = .trial ∧ x.trialEnd ≤ now ∧ now < x.endsAt ∧ x.afterEnd now = .gracePeriod

instance SchoolSubscription.decidableIsOverEarly (x : SchoolSubscription) (now : Instant) :
    Decidable (x.IsOverEarly now) :=
  inferInstanceAs (Decidable (_ ∧ _ ∧ _ ∧ _))

theorem effectiveStatus_of_trialOver {x : SchoolSubscription} {now t : Instant}
    (hstatus : x.status = .trial) (hover : x.trialEnd ≤ now) (hle : now ≤ t) :
    x.effectiveStatus t = x.afterEnd t := by
  have hlate : ¬ t < x.trialEnd := not_lt.mpr (le_trans hover hle)
  simp [SchoolSubscription.effectiveStatus, hstatus, hlate]

theorem effectiveStatus_written {x : SchoolSubscription} {status : SubscriptionStatus}
    (h : status = .active ∨ status = .gracePeriod) (savedAt t : Instant) :
    ({ x with status := status, updatedAt := savedAt } : SchoolSubscription).effectiveStatus t =
      if t < x.endsAt then .active else x.afterEnd t :=
  effectiveStatus_eq_of_active (x := { x with status := status, updatedAt := savedAt }) h t

theorem written_trial_iff {x : SchoolSubscription} {now : Instant} (savedAt : Instant)
    (hstatus : x.status = .trial) (hover : x.trialEnd ≤ now) :
    (∀ t, now ≤ t → ({ x with status := x.effectiveStatus now, updatedAt := savedAt } :
      SchoolSubscription).effectiveStatus t = x.effectiveStatus t) ↔ ¬ x.IsOverEarly now := by
  have hnow := effectiveStatus_of_trialOver hstatus hover (le_refl now)
  rcases afterEnd_eq x now with hafter | hafter
  · rw [hnow, hafter]
    constructor
    · rintro h ⟨-, -, hends, -⟩
      have hread := h now (le_refl now)
      rw [effectiveStatus_written (.inr rfl), if_pos hends, hnow, hafter] at hread
      cases hread
    · intro hnot t ht
      have hended : ¬ now < x.endsAt := fun hends => hnot ⟨hstatus, hover, hends, hafter⟩
      have hlate : ¬ t < x.endsAt := fun h => hended (lt_of_le_of_lt ht h)
      rw [effectiveStatus_written (.inr rfl), if_neg hlate,
        effectiveStatus_of_trialOver hstatus hover ht]
  · rw [hnow, hafter]
    refine iff_of_true (fun t ht => ?_) fun h => ?_
    · rw [effectiveStatus_expired rfl, effectiveStatus_of_trialOver hstatus hover ht,
        afterEnd_expired_mono hafter ht]
    · rw [h.2.2.2] at hafter
      cases hafter

theorem written_contract {x : SchoolSubscription} {now t : Instant} (savedAt : Instant)
    (hstatus : x.status = .active ∨ x.status = .gracePeriod) (ht : now ≤ t) :
    ({ x with status := x.effectiveStatus now, updatedAt := savedAt } :
      SchoolSubscription).effectiveStatus t = x.effectiveStatus t := by
  have hread := effectiveStatus_eq_of_active hstatus
  rw [hread t, hread now]
  by_cases hends : now < x.endsAt
  · rw [if_pos hends, effectiveStatus_written (.inl rfl)]
  · rw [if_neg hends]
    have hlate : ¬ t < x.endsAt := fun h => hends (lt_of_le_of_lt ht h)
    rcases afterEnd_eq x now with hafter | hafter
    · rw [hafter, effectiveStatus_written (.inr rfl)]
    · rw [hafter, effectiveStatus_expired rfl, if_neg hlate, afterEnd_expired_mono hafter ht]

theorem synced_faithful_iff (x : SchoolSubscription) (now savedAt : Instant) :
    (∀ t, now ≤ t → (x.synced now savedAt).effectiveStatus t = x.effectiveStatus t) ↔
      ¬ x.IsOverEarly now := by
  by_cases hout : (x.status.isLive && x.effectiveStatus now ≠ x.status) = true
  · have hwritten : x.synced now savedAt =
        { x with status := x.effectiveStatus now, updatedAt := savedAt } := if_pos hout
    rw [hwritten]
    rw [Bool.and_eq_true, decide_eq_true_eq] at hout
    cases hstatus : x.status with
    | trial =>
      have hover : ¬ now < x.trialEnd := by
        intro h
        apply hout.2
        simp [SchoolSubscription.effectiveStatus, hstatus, h]
      exact written_trial_iff savedAt hstatus (not_lt.mp hover)
    | active =>
      refine iff_of_true (fun t ht => written_contract savedAt (.inl hstatus) ht) fun h => ?_
      have htrial := h.1
      simp [hstatus] at htrial
    | gracePeriod =>
      refine iff_of_true (fun t ht => written_contract savedAt (.inr hstatus) ht) fun h => ?_
      have htrial := h.1
      simp [hstatus] at htrial
    | expired => simp [hstatus, SubscriptionStatus.isLive] at hout
    | suspended => simp [hstatus, SubscriptionStatus.isLive] at hout
    | cancelled => simp [hstatus, SubscriptionStatus.isLive] at hout
  · have hsame : x.synced now savedAt = x := if_neg hout
    rw [hsame]
    refine iff_of_true (fun _ _ => rfl) ?_
    rintro ⟨hstatus, hover, -, hgrace⟩
    have hnow := effectiveStatus_of_trialOver hstatus hover (le_refl now)
    apply hout
    rw [hnow, hgrace, hstatus]
    rfl

theorem synced_synced {x : SchoolSubscription} {now : Instant} (h : ¬ x.IsOverEarly now)
    (savedAt savedAt' : Instant) :
    (x.synced now savedAt).synced now savedAt' = x.synced now savedAt := by
  have hnow := (synced_faithful_iff x now savedAt).mpr h now (le_refl now)
  by_cases hout : (x.status.isLive && x.effectiveStatus now ≠ x.status) = true
  · have hwritten : x.synced now savedAt =
        { x with status := x.effectiveStatus now, updatedAt := savedAt } := if_pos hout
    have hstatus : (x.synced now savedAt).status = x.effectiveStatus now := by rw [hwritten]
    apply if_neg
    simp [hnow, hstatus]
  · have hsame : x.synced now savedAt = x := if_neg hout
    rw [hsame]
    exact if_neg hout

/-- **The task changes no meaning, and its repetition changes nothing**, exactly where no trial is
over early. -/
theorem sync_faithful_iff (hs : s.Constrained) (now : Instant) (savedAt savedAt' : ℕ → Instant) :
    ((∀ t, now ≤ t → (s.handle (.syncExpirations now savedAt)).statusesAt t = s.statusesAt t) ∧
      (s.handle (.syncExpirations now savedAt)).handle (.syncExpirations now savedAt') =
        s.handle (.syncExpirations now savedAt)) ↔
      ∀ p ∈ s.subscriptions, ¬ p.2.IsOverEarly now := by
  have hs' := hs.handle (.syncExpirations now savedAt)
  rw [handle_syncExpirations hs' now savedAt', handle_syncExpirations hs now savedAt]
  have hrows : ∀ t, (s.synced now savedAt).statusesAt t = s.statusesAt t ↔
      ∀ p ∈ s.subscriptions,
        (p.2.synced now (savedAt p.1)).effectiveStatus t = p.2.effectiveStatus t := by
    intro t
    unfold Contracts.statusesAt Contracts.synced Dict.mapValues
    rw [List.map_map, List.map_inj_left]
    refine forall₂_congr fun p _ => ?_
    simp
  simp only [hrows]
  constructor
  · rintro ⟨hmeaning, -⟩ p hp
    exact (synced_faithful_iff p.2 now (savedAt p.1)).mp fun t ht => hmeaning t ht p hp
  · intro h
    refine ⟨fun t ht p hp => (synced_faithful_iff p.2 now (savedAt p.1)).mpr (h p hp) t ht, ?_⟩
    unfold Contracts.synced
    simp only [Dict.mapValues_mapValues]
    congr 1
    exact Dict.mapValues_congr fun p hp => synced_synced (h p hp) _ _

/-- The task on a contract that has ended. -/
theorem sync_of_contract :
    ((∀ t, timedelta 20 ≤ t → ((holding tenDayContract).handle
        (.syncExpirations (timedelta 20) fun _ => 0)).statusesAt t =
          (holding tenDayContract).statusesAt t) ∧
      ((holding tenDayContract).handle (.syncExpirations (timedelta 20) fun _ => 0)).handle
        (.syncExpirations (timedelta 20) fun _ => 1) =
          (holding tenDayContract).handle (.syncExpirations (timedelta 20) fun _ => 0)) := by
  refine (sync_faithful_iff (holding_constrained (by decide)) _ _ _).mpr fun p hp => ?_
  rw [List.mem_singleton.mp hp]
  decide

def tenDayTrialInContract : SchoolSubscription where
  school := 7
  plan := 1
  startsAt := 0
  endsAt := timedelta 20
  trialEndsAt := some (timedelta 10)
  graceEndsAt := some (timedelta 30)
  updatedAt := 0

/-- The task gives the trial back as a contract in force, at its repetition also by its kept
status. -/
theorem sync_of_trialInContract :
    (holding tenDayTrialInContract).statusesAt (timedelta 15) = [(1, .gracePeriod)] ∧
      ((holding tenDayTrialInContract).handle
        (.syncExpirations (timedelta 15) fun _ => 0)).statusesAt (timedelta 15) =
          [(1, .active)] ∧
      ((holding tenDayTrialInContract).handle
        (.syncExpirations (timedelta 15) fun _ => 0)).handle
          (.syncExpirations (timedelta 15) fun _ => 0) ≠
        (holding tenDayTrialInContract).handle (.syncExpirations (timedelta 15) fun _ => 0) := by
  exact ⟨by decide, by decide, by decide⟩

end SchoolPlatform.Subscriptions
