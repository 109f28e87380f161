import SchoolPlatform.Analysis.QueuedReminders

/-!
# Whether renewal reminders follow the contract in force

A contract is selected for a reminder by its stored status and its end. That is when access by it
ends, except for a trial with an end of its own and for a contract stored as in grace that has been
renewed: there the selection and the contract in force can differ. What has been queued is handed to
the provider once, and only while it holds what it announces (`reminders_follow_contract_iff`).
-/

namespace SchoolPlatform.Subscriptions

open ReadCommitted

variable {calls : List MailCall} {i : ℕ} {key : DeliveryKey}

variable {x : SchoolSubscription} {clock : SendClock}

/-! ## The end of access -/

/-- The instant at which the access that is in force at `now` ends. -/
def SchoolSubscription.renewalEnd (x : SchoolSubscription) (now : Instant) : Instant :=
  if x.effectiveStatus now = .trial then x.trialEnd else x.endsAt

/-- A reminder is due by the contract in force. -/
def SchoolSubscription.DueByAccess (x : SchoolSubscription) (now : Instant) : Prop :=
  (x.effectiveStatus now = .trial ∨ x.effectiveStatus now = .active) ∧
    WithinWeek (x.renewalEnd now) now

/-- The stored status and the end of the contract tell whether access ends within a week: a
contract stored as in grace does not end then, and a trial does just when its contract does. -/
structure SchoolSubscription.EndsAsStored (x : SchoolSubscription) (now : Instant) : Prop where
  grace : x.status = .gracePeriod → ¬ WithinWeek x.endsAt now
  trial : x.status = .trial → (WithinWeek x.trialEnd now ↔ WithinWeek x.endsAt now)

theorem dueByAccess_until {now t : Instant} {status : SubscriptionStatus}
    (hstatus : status = .trial ∨ status = .active)
    (heffective : x.effectiveStatus now = if now < t then status else x.afterEnd now)
    (hend : x.effectiveStatus now = status → x.renewalEnd now = t) :
    x.DueByAccess now ↔ WithinWeek t now := by
  unfold SchoolSubscription.DueByAccess
  by_cases hnow : now < t
  · rw [if_pos hnow] at heffective
    rw [hend heffective, heffective]
    exact and_iff_right hstatus
  · rw [if_neg hnow] at heffective
    rw [heffective]
    constructor
    · rintro ⟨h, -⟩
      exact absurd h (afterEnd_ne x now)
    · intro h
      exact absurd h.1 hnow

theorem stored_iff_of_ended {now : Instant} (htrial : x.status ≠ .trial)
    (hactive : x.status ≠ .active) (hgrace : x.status ≠ .gracePeriod) :
    (((x.status = .trial ∨ x.status = .active) ∧ WithinWeek x.endsAt now) ↔ x.DueByAccess now) ↔
      x.EndsAsStored now := by
  have heffective : x.effectiveStatus now = x.status := by
    unfold SchoolSubscription.effectiveStatus
    cases hstatus : x.status with
    | trial => exact absurd hstatus htrial
    | active => exact absurd hstatus hactive
    | gracePeriod => exact absurd hstatus hgrace
    | expired => rfl
    | suspended => rfl
    | cancelled => rfl
  have hnot : ¬ (x.status = .trial ∨ x.status = .active) := not_or.mpr ⟨htrial, hactive⟩
  unfold SchoolSubscription.DueByAccess
  rw [heffective]
  exact ⟨fun _ => ⟨fun h => absurd h hgrace, fun h => absurd h htrial⟩,
    fun _ => ⟨fun h => absurd h.1 hnot, fun h => absurd h.1 hnot⟩⟩

theorem dueByAccess_trial (hstatus : x.status = .trial) (now : Instant) :
    x.DueByAccess now ↔ WithinWeek x.trialEnd now := by
  refine dueByAccess_until (.inl rfl) ?_ fun h => ?_
  · unfold SchoolSubscription.effectiveStatus
    rw [hstatus]
  · unfold SchoolSubscription.renewalEnd
    rw [if_pos h]

theorem dueByAccess_contract (hstatus : x.status = .active ∨ x.status = .gracePeriod)
    (now : Instant) : x.DueByAccess now ↔ WithinWeek x.endsAt now := by
  refine dueByAccess_until (.inr rfl) ?_ fun h => ?_
  · unfold SchoolSubscription.effectiveStatus
    rcases hstatus with h | h <;> rw [h]
  · unfold SchoolSubscription.renewalEnd
    rw [h, if_neg (by decide)]

theorem stored_iff_dueByAccess (x : SchoolSubscription) (now : Instant) :
    (((x.status = .trial ∨ x.status = .active) ∧ WithinWeek x.endsAt now) ↔ x.DueByAccess now) ↔
      x.EndsAsStored now := by
  by_cases htrial : x.status = .trial
  · rw [dueByAccess_trial htrial]
    constructor
    · intro h
      refine ⟨fun hgrace => ?_, fun _ => ⟨fun hweek => (h.mpr hweek).2, fun hweek =>
        h.mp ⟨.inl htrial, hweek⟩⟩⟩
      rw [htrial] at hgrace
      cases hgrace
    · intro h
      exact ⟨fun hweek => (h.trial htrial).mpr hweek.2,
        fun hweek => ⟨.inl htrial, (h.trial htrial).mp hweek⟩⟩
  by_cases hactive : x.status = .active
  · rw [dueByAccess_contract (.inl hactive)]
    constructor
    · intro _
      refine ⟨fun hgrace => ?_, fun h => absurd h htrial⟩
      rw [hactive] at hgrace
      cases hgrace
    · intro _
      exact ⟨fun h => h.2, fun h => ⟨.inr hactive, h⟩⟩
  by_cases hgrace : x.status = .gracePeriod
  · rw [dueByAccess_contract (.inr hgrace)]
    constructor
    · intro h
      refine ⟨fun _ hweek => ?_, fun h => absurd h htrial⟩
      rcases (h.mpr hweek).1 with h | h
      · exact htrial h
      · exact hactive h
    · intro h
      exact ⟨fun hweek => hweek.2, fun hweek => absurd hweek (h.grace hgrace)⟩
  · exact stored_iff_of_ended htrial hactive hgrace

/-! ## Claiming a delivery -/

theorem remaining_iff (t now span : ℤ) :
    (0 < t - now ↔ now < t) ∧ (t - now ≤ span ↔ t ≤ now + span) ∧
      (span < t - now ↔ now + span < t) := by
  refine ⟨?_, ?_, ?_⟩ <;> constructor <;> intro h <;> omega

theorem announces_of_isValid {row : EmailDelivery} {member : Option ManagerMembership}
    {current : Option (ℕ × SchoolSubscription)} {address : Option String} {c : Contracts}
    (hvalid : row.isValid clock member x current address = true)
    (hx : c.subscriptions.get? row.subscription = some x)
    (hcurrent : c.liveSubscription x.school = current) : c.Announces clock row.announcement := by
  unfold EmailDelivery.isValid at hvalid
  simp only [Bool.and_eq_true, decide_eq_true_eq] at hvalid
  obtain ⟨⟨⟨⟨-, hlive⟩, -⟩, hversion⟩, hdue⟩ := hvalid
  refine ⟨x, hx, ?_, hversion, fun hreminder => ?_⟩
  · obtain ⟨⟨id, y⟩, hy, hid⟩ := (Option.any_eq_true _ _).mp hlive
    have hid : id = row.subscription := of_decide_eq_true hid
    subst hid
    exact ⟨y, hcurrent.trans hy⟩
  · have hkind : row.kind.isReminder = true := hreminder
    unfold EmailDelivery.isDue at hdue
    simp only [hkind, Bool.not_true, Bool.false_or, Bool.and_eq_true, Bool.or_eq_true,
      decide_eq_true_eq] at hdue
    obtain ⟨⟨hstatus, hpos, hweek⟩, hday⟩ := hdue
    obtain ⟨hbefore, hwithin, -⟩ := remaining_iff x.endsAt clock.remainingAt (timedelta 7)
    obtain ⟨-, hsmall, hlarge⟩ := remaining_iff x.endsAt clock.remainingAt (timedelta 1)
    refine ⟨hstatus, hbefore.mp hpos, hwithin.mp hweek, ?_⟩
    show row.kind = .reminder7 ↔ _
    by_cases hseven : row.kind = .reminder7
    · rw [if_pos hseven, decide_eq_true_eq] at hday
      exact ⟨fun _ => hlarge.mp hday, fun _ => hseven⟩
    · rw [if_neg hseven, decide_eq_true_eq] at hday
      exact ⟨fun h => absurd h hseven, fun h => absurd h (not_lt.mpr (hsmall.mp hday))⟩

theorem MailChange.refl (calls : List MailCall) (i : ℕ) (L : List (MailRow × LockMode))
    (s : MailOffice) : MailChange calls i L s s := .deliveries rfl rfl fun _ => .inl rfl

theorem MailChange.put {L : List (MailRow × LockMode)} {s : MailOffice} {d : EmailDelivery}
    (hlock : WriteLocked L (.delivery key))
    (hstep : DeliveryStep i (s.deliveries.get? key) (some d)) :
    MailChange calls i L s (s.putDelivery key d) := by
  refine .deliveries rfl rfl fun k => ?_
  rw [get?_putDelivery]
  by_cases hk : k = key
  · rw [if_pos hk, hk]
    exact .inr ⟨hlock, hstep⟩
  · rw [if_neg hk]
    exact .inl rfl

/-- What a run of the sending task knows when its claim has been committed. -/
def AfterClaim (i : ℕ) (key : DeliveryKey) (clock : SendClock) : Claim → MailOffice → Prop
  | .ignored, s => s.Sound
  | .cancelled, s => s.Sound
  | .claimed _ row, s => s.Sound ∧ s.About i key clock row.announcement

theorem afterClaim_kept (held : List (MailRow × LockMode)) (clock : SendClock) (b : Claim) :
    (mailOthers calls i).Keeps held (AfterClaim i key clock b) := by
  cases b with
  | ignored => exact sound_kept calls i held
  | cancelled => exact sound_kept calls i held
  | claimed address row => exact about_kept held clock row.announcement

theorem claimDelivery_asserts (calls : List MailCall) (i : ℕ) (clock : SendClock)
    (key : DeliveryKey) :
    (claimDelivery i clock key).Asserts (mailOthers calls i) (MailChange calls i)
      (AfterClaim i key clock) MailOffice.Sound [] fun s => s := by
  have hlock : WriteLocked [(MailRow.delivery key, LockMode.update)] (.delivery key) :=
    .of_update List.mem_cons_self
  unfold claimDelivery
  refine Tx.Asserts.selectForUpdate
    (fun b s => s.Sound ∧ s.deliveries.get? key = b ∧ True) (sound_kept calls i _)
    (fun s hs => ⟨hs, rfl, trivial⟩) (fun b => delivery_kept hlock b fun _ => True) fun found => ?_
  cases found with
  | none => exact fun s hs => ⟨MailChange.refl calls i _ s, hs.1⟩
  | some row =>
    by_cases hpending : row.status = .pending
    · simp only [hpending, ne_eq, not_true_eq_false, if_false]
      refine Tx.Asserts.select_any (delivery_kept hlock _ fun _ => True) fun member => ?_
      refine Tx.Asserts.select
        (fun b s => s.Sound ∧ s.deliveries.get? key = some row ∧
          s.contracts.subscriptions.get? row.subscription = b)
        (fun s hs => ⟨hs.1, hs.2.1, rfl⟩)
        (fun b => delivery_kept hlock _ fun c => c.subscriptions.get? row.subscription = b)
        fun subscription => ?_
      cases subscription with
      | none => trivial
      | some x =>
        refine Tx.Asserts.select
          (fun b s => s.Sound ∧ s.deliveries.get? key = some row ∧
            s.contracts.subscriptions.get? row.subscription = some x ∧
            s.contracts.liveSubscription x.school = b)
          (fun s hs => ⟨hs.1, hs.2.1, hs.2.2, rfl⟩)
          (fun b => delivery_kept hlock _ fun c =>
            c.subscriptions.get? row.subscription = some x ∧ c.liveSubscription x.school = b)
          fun current => ?_
        refine Tx.Asserts.select_any (delivery_kept hlock _ fun c =>
          c.subscriptions.get? row.subscription = some x ∧
            c.liveSubscription x.school = current) fun address => ?_
        by_cases hvalid : row.isValid clock member x current address = true
        · simp only [hvalid, if_true]
          rintro s ⟨hs, hrow, hx, hcurrent⟩
          have hcommit : MailChange calls i [(MailRow.delivery key, .update)] s
              (s.putDelivery key { row with
                status := .sending, updatedAt := clock.savedAt, sender := some i }) := by
            apply MailChange.put hlock
            rw [hrow]
            exact .claimed hpending rfl rfl rfl
          -- The delivery is pending, so that it has not been handed over.
          have hunsent : s.Unsent key := by
            apply hs key
            intro d hd
            rw [hrow, Option.some.injEq] at hd
            rw [← hd]
            exact hpending
          refine ⟨hcommit, hcommit.sound hs, hunsent, announces_of_isValid hvalid hx hcurrent,
            { row with status := .sending, updatedAt := clock.savedAt, sender := some i },
            ⟨?_, ?_, rfl⟩, rfl⟩
          · rw [get?_putDelivery, if_pos rfl]
          · exact DeliveryStatus.noConfusion
        · simp only [hvalid, if_false, Bool.false_eq_true]
          rintro s ⟨hs, hrow, -⟩
          have hcommit : MailChange calls i [(MailRow.delivery key, .update)] s
              (s.putDelivery key { row with
                status := .cancelled, updatedAt := clock.savedAt }) := by
            apply MailChange.put hlock
            rw [hrow]
            exact .cancelled hpending rfl rfl
          exact ⟨hcommit, hcommit.sound hs⟩
    · simp only [hpending, ne_eq, not_false_eq_true, if_true]
      exact fun s hs => ⟨MailChange.refl calls i _ s, hs.1⟩

theorem get?_updateDeliveries (s : MailOffice) (keys : List DeliveryKey)
    (p : EmailDelivery → Bool) (f : EmailDelivery → EmailDelivery) (k : DeliveryKey) :
    (s.updateDeliveries keys p f).deliveries.get? k =
      (s.deliveries.get? k).map fun d => if k ∈ keys ∧ p d = true then f d else d :=
  Dict.get?_mapValues (fun key d => if key ∈ keys ∧ p d = true then f d else d) s.deliveries k

theorem updateDeliveries_asserts (calls : List MailCall) (i : ℕ) (find : MailOffice → List MailRow)
    {p : EmailDelivery → Bool} {f : EmailDelivery → EmailDelivery}
    (hp : ∀ d, p d = true → d.status = .sending) (hstatus : ∀ d, (f d).status ≠ .pending)
    (hsame : ∀ d, (f d).sender = d.sender ∧ (f d).announcement = d.announcement) :
    (Tx.updateWhere find fun rows s => s.updateDeliveries (rows.map MailRow.key) p f :
      MailTransaction Unit).Asserts (mailOthers calls i) (MailChange calls i)
      (fun _ s => s.Sound) MailOffice.Sound [] fun s => s := by
  refine ⟨fun _ s => s.Sound, fun s hs => hs, fun _ => sound_kept calls i _, fun rows s hs => ?_⟩
  have hcommit : MailChange calls i (rows.map (fun r => (r, LockMode.noKeyUpdate)) ++ []) s
      (s.updateDeliveries (rows.map MailRow.key) p f) := by
    refine .deliveries rfl rfl fun k => ?_
    rw [get?_updateDeliveries]
    cases hd : s.deliveries.get? k with
    | none => exact .inl rfl
    | some d =>
      rw [Option.map_some]
      by_cases h : k ∈ rows.map MailRow.key ∧ p d = true
      · rw [if_pos h]
        obtain ⟨⟨key⟩, hrow, hkey⟩ := List.mem_map.mp h.1
        have hkey : key = k := hkey
        subst hkey
        refine .inr ⟨⟨.noKeyUpdate, by decide, ?_⟩,
          .settled (hp d h.2) (hstatus d) (hsame d).1 (hsame d).2⟩
        rw [List.append_nil]
        exact List.mem_map.mpr ⟨_, hrow, rfl⟩
      · rw [if_neg h]
        exact .inl rfl
  exact ⟨hcommit, hcommit.sound hs⟩

theorem recordResult_asserts (calls : List MailCall) (i : ℕ) (now : Instant) (key : DeliveryKey)
    (result : DeliveryResult) :
    (recordResult now key result).Asserts (mailOthers calls i) (MailChange calls i)
      (fun _ s => s.Sound) MailOffice.Sound [] fun s => s := by
  refine updateDeliveries_asserts calls i _ (fun d hd => of_decide_eq_true hd) (fun d => ?_)
    fun d => ⟨rfl, rfl⟩
  cases result.status <;> exact DeliveryStatus.noConfusion

theorem giveUpStale_asserts (calls : List MailCall) (i : ℕ) (now : Instant) :
    (giveUpStale now).Asserts (mailOthers calls i) (MailChange calls i)
      (fun _ s => s.Sound) MailOffice.Sound [] fun s => s := by
  refine updateDeliveries_asserts calls i _ (fun d hd => ?_) (fun d => DeliveryStatus.noConfusion)
    fun d => ⟨rfl, rfl⟩
  simp only [Bool.and_eq_true, decide_eq_true_eq] at hd
  exact hd.1

theorem handOver_asserts {address : String} {row : EmailDelivery} {enabled : Bool}
    {result : DeliveryResult} (hcall : calls[i]? = some (.send enabled clock key result)) :
    (Tx.update fun s => s.handOver ⟨key, address, row.kind, row.snapshot⟩ :
      MailTransaction Unit).Asserts (mailOthers calls i) (MailChange calls i)
      (fun _ s => s.Sound) (fun s => s.Sound ∧ s.About i key clock row.announcement) []
      fun s => s := by
  rintro s ⟨hs, hunsent, hannounced, d, hmine, hsame⟩
  have hkind : row.kind = d.kind := (congrArg (fun a => a.2.1) hsame :).symm
  have hsnapshot : row.snapshot = d.snapshot := (congrArg (fun a => a.2.2) hsame :).symm
  rw [← hsame] at hannounced
  have hcommit : MailChange calls i [] s (s.handOver ⟨key, address, row.kind, row.snapshot⟩) :=
    .handedOver hmine hunsent hcall hkind hsnapshot hannounced
  exact ⟨hcommit, hcommit.sound hs⟩

theorem sendDelivery_asserts {enabled : Bool} {result : DeliveryResult}
    (hcall : calls[i]? = some (.send enabled clock key result)) :
    (sendDelivery i enabled clock key result).Asserts (mailOthers calls i) (MailChange calls i)
      (fun _ _ => True) MailOffice.Sound := by
  cases enabled with
  | false => exact fun _ _ => trivial
  | true =>
    refine ⟨AfterClaim i key clock, claimDelivery_asserts calls i clock key,
      afterClaim_kept [] clock, fun claim => ?_⟩
    cases claim with
    | ignored => exact fun _ _ => trivial
    | cancelled => exact fun _ _ => trivial
    | claimed address row =>
      exact ⟨fun _ s => s.Sound, handOver_asserts hcall, fun _ => sound_kept calls i [], fun _ =>
        ⟨fun _ s => s.Sound, recordResult_asserts calls i clock.recordedAt key result,
          fun _ => sound_kept calls i [], fun _ _ _ => trivial⟩⟩

theorem getOrCreateDelivery_asserts (calls : List MailCall) (i : ℕ) (key : DeliveryKey)
    {fresh : EmailDelivery} (hfresh : fresh.status = .pending) :
    (getOrCreateDelivery key fresh).Asserts (mailOthers calls i) (MailChange calls i)
      (fun _ s => s.Sound) MailOffice.Sound [] fun s => s := by
  have hlock : WriteLocked ([(MailRow.delivery key, LockMode.update)] ++ []) (.delivery key) :=
    .of_update List.mem_cons_self
  unfold getOrCreateDelivery
  refine Tx.Asserts.select_any (sound_kept calls i _) fun found => ?_
  cases found with
  | some d => exact fun s hs => ⟨MailChange.refl calls i _ s, hs⟩
  | none =>
    apply Tx.Asserts.lockRows
    refine Tx.Asserts.select (fun b s => s.Sound ∧ s.deliveries.get? key = b ∧ True)
      (fun s hs => ⟨hs, rfl, trivial⟩) (fun b => delivery_kept hlock b fun _ => True)
      fun taken => ?_
    cases taken with
    | some d => exact fun s hs => ⟨MailChange.refl calls i _ s, hs.1⟩
    | none =>
      rintro s ⟨hs, hnone, -⟩
      have hcommit : MailChange calls i ([(MailRow.delivery key, .update)] ++ []) s
          (s.putDelivery key fresh) := by
        apply MailChange.put hlock
        rw [hnone]
        exact .created hfresh
      exact ⟨hcommit, hcommit.sound hs⟩

theorem queueForManagers_asserts (calls : List MailCall) (i id : ℕ) (x : SchoolSubscription)
    (plan : Option SaaSPlan) (kind : MessageKind) (message : MessageKey) (savedAt : Instant)
    (managers : List ManagerMembership) (rows : List DeliveryKey) :
    (queueForManagers id x plan kind message savedAt managers rows).Asserts (mailOthers calls i)
      (MailChange calls i) (fun _ s => s.Sound) MailOffice.Sound := by
  induction managers generalizing rows with
  | nil => exact fun _ hs => hs
  | cons m managers ih =>
    refine Program.Asserts.peek_any (sound_kept calls i []) fun address => ?_
    simp only [Program.bind]
    cases address.filter fun a => a ≠ "" with
    | none => exact ih rows
    | some a =>
      exact ⟨fun _ s => s.Sound, getOrCreateDelivery_asserts calls i _ rfl,
        fun _ => sound_kept calls i [], fun _ => ih _⟩

theorem queueEnding_asserts (calls : List MailCall) (i : ℕ) (now savedAt : Instant)
    (ending : List (ℕ × SchoolSubscription × Option SaaSPlan))
    (queued : List (ℕ × List DeliveryKey)) :
    (queueEnding now savedAt ending queued).Asserts (mailOthers calls i) (MailChange calls i)
      (fun _ _ => True) MailOffice.Sound := by
  induction ending generalizing queued with
  | nil => exact fun _ _ => trivial
  | cons p ending ih =>
    obtain ⟨id, x, plan⟩ := p
    refine Program.Asserts.peek_any (sound_kept calls i []) fun current => ?_
    show Program.Asserts _ _ _ _ (if (current.map Prod.fst) ≠ some id then _ else _)
    split_ifs with hcurrent
    · exact ih queued
    · exact Program.Asserts.bind (Program.Asserts.peek_any (sound_kept calls i []) fun managers =>
        queueForManagers_asserts calls i id x plan _ _ savedAt managers []) fun rows => ih _

theorem MailCall.asserts {call : MailCall} (hcall : calls[i]? = some call) :
    (call.program i).Asserts (mailOthers calls i) (MailChange calls i) (fun _ _ => True)
      MailOffice.Sound := by
  cases call with
  | send enabled clock key result =>
    exact Program.Asserts.bind (sendDelivery_asserts hcall) fun _ _ _ => trivial
  | giveUpStale now =>
    exact ⟨fun _ s => s.Sound, giveUpStale_asserts calls i now, fun _ => sound_kept calls i [],
      fun _ _ _ => trivial⟩
  | queueReminders now savedAt =>
    exact Program.Asserts.bind (Program.Asserts.peek_any (sound_kept calls i []) fun ending =>
      queueEnding_asserts calls i now savedAt ending []) fun _ _ _ => trivial

theorem MailChange.handedOver_append {L : List (MailRow × LockMode)} {s s' : MailOffice}
    (h : MailChange calls i L s s') {handOver : HandOver}
    (happend : s'.handedOver = s.handedOver ++ [handOver]) :
    s.Unsent handOver.key ∧ ∃ enabled clock result d,
      calls[i]? = some (.send enabled clock handOver.key result) ∧
      s.deliveries.get? handOver.key = some d ∧
      s.contracts.Announces clock (d.subscription, handOver.kind, handOver.snapshot) := by
  have hlength := congrArg List.length happend
  rw [List.length_append, List.length_singleton] at hlength
  cases h with
  | deliveries contracts handedOver steps =>
    rw [handedOver] at hlength
    omega
  | @handedOver _ _ h d enabled clock result mine unsent call kind snapshot announced =>
    have hsame : h = handOver := by
      unfold MailOffice.handOver at happend
      exact List.singleton_inj.mp (List.append_cancel_left happend)
    subst hsame
    rw [kind, snapshot]
    exact ⟨unsent, enabled, clock, result, d, call, mine.1, announced⟩

/-- **Reminders and the contract in force.** The reminders that are queued for the current contract
of a school that can be reached are those due by the contract in force exactly when access ends as
stored. However runs of the sending task interleave, with each other and with queueing, a delivery
is handed over once, and only while the contract is the announced one and its end is as near. -/
theorem reminders_follow_contract_iff (s : MailOffice) :
    (∀ (now savedAt : Instant) (school id : ℕ) (x : SchoolSubscription) (m : ManagerMembership),
      s.contracts.Constrained →
      s.contracts.liveSubscription school = some (id, x) → m ∈ s.managers school →
      s.reaches m = true → ∃ queued s', (queueReminders now savedAt).run s = (.ok queued, s') ∧
        ((Reminded queued s' id x now ↔ x.DueByAccess now) ↔ x.EndsAsStored now)) ∧
    (∀ (calls : List MailCall) (sched : List ℕ) (i : ℕ)
      (c₁ c₂ : Config MailOffice MailRow Failure Unit) (handOver : HandOver),
      s.handedOver = [] →
      (Config.start s (calls.mapIdx fun j call => call.program j)).exec sched = some c₁ →
      c₁.step i = some c₂ → c₂.store.handedOver = c₁.store.handedOver ++ [handOver] →
      c₁.store.Unsent handOver.key ∧ ∃ enabled clock result d,
        calls[i]? = some (.send enabled clock handOver.key result) ∧
        c₁.store.deliveries.get? handOver.key = some d ∧
        c₁.store.contracts.Announces clock (d.subscription, handOver.kind, handOver.snapshot)) := by
  constructor
  · intro now savedAt school id x m hs hlive hm hreach
    obtain ⟨s', hrun, -, hqueued⟩ := run_queueReminders now savedAt s
    refine ⟨_, s', hrun, ?_⟩
    rw [reminded_iff hs hlive hm hreach hqueued]
    exact stored_iff_dueByAccess x now
  · intro calls sched i c₁ c₂ handOver hempty h₁ h₂ happend
    have hsound : s.Sound := by
      intro key _ h hh
      rw [hempty] at hh
      cases hh
    have hclients : ∀ (j : ℕ) (p : MailProgram Unit),
        (calls.mapIdx fun j call => call.program j)[j]? = some p →
        p.Asserts (mailOthers calls j) (MailChange calls j) (fun _ _ => True)
          MailOffice.Sound := by
      intro j p hp
      rw [List.getElem?_mapIdx, Option.map_eq_some_iff] at hp
      obtain ⟨call, hcall, rfl⟩ := hp
      exact MailCall.asserts hcall
    obtain ⟨-, -, hsame | ⟨L, hcommit⟩⟩ :=
      Config.step_of_guarantees (mailChange_sound calls) hclients hsound h₁ h₂
        (Config.calmRun_of_forall (fun _ _ => trivial) (fun _ _ _ => trivial) _ _ _)
    · have hlength := congrArg List.length happend
      rw [hsame, List.length_append, List.length_singleton] at hlength
      omega
    · exact hcommit.handedOver_append happend

/-! ## A trial that was extended as a contract -/

def officeOf (x : SchoolSubscription) : MailOffice where
  contracts := { plans := [(1, { code := "basic" })], subscriptions := [(5, x)] }
  memberships := [⟨3, 7, true, true, true⟩]
  verifiedAddress := fun _ => some "manager@example.invalid"

/-- A trial of thirty days whose contract has been extended by thirty more. -/
def extendedTrial : SchoolSubscription where
  school := 3
  plan := 1
  status := .trial
  startsAt := 0
  endsAt := timedelta 60
  trialStartedAt := some 0
  trialEndsAt := some (timedelta 30)
  updatedAt := 0

/-- Two days before the trial ends no reminder of it is queued. -/
theorem extendedTrial_not_reminded : ∃ queued s',
    (officeOf extendedTrial).contracts.Constrained ∧
    (officeOf extendedTrial).contracts.liveSubscription 3 = some (5, extendedTrial) ∧
    (queueReminders (timedelta 28) (timedelta 28)).run (officeOf extendedTrial) =
      (.ok queued, s') ∧
    ¬ (Reminded queued s' 5 extendedTrial (timedelta 28) ↔
      extendedTrial.DueByAccess (timedelta 28)) := by
  refine ⟨[], officeOf extendedTrial, ⟨by decide, by decide, by decide⟩, by decide, rfl, ?_⟩
  have hdue : extendedTrial.DueByAccess (timedelta 28) := by
    unfold SchoolSubscription.DueByAccess WithinWeek
    decide
  intro h
  obtain ⟨p, hp, -⟩ := h.mpr hdue
  cases hp

def yearContract : SchoolSubscription where
  school := 3
  plan := 1
  status := .active
  startsAt := 0
  endsAt := timedelta 365
  updatedAt := 0

def yearReminder : DeliveryKey := ⟨.reminder 5 (timedelta 365) .reminder7, 7⟩

def yearCalls : List MailCall :=
  let now := timedelta 360
  let send := MailCall.send true ⟨now, now, now, now⟩ yearReminder ⟨.submittedToProvider, "1", ""⟩
  [.queueReminders now now, send, send]

theorem yearContract_reminded :
    (∃ queued s', (queueReminders (timedelta 360) (timedelta 360)).run (officeOf yearContract) =
      (.ok queued, s') ∧ Reminded queued s' 5 yearContract (timedelta 360)) ∧
    ∃ c₁ c₂ : Config MailOffice MailRow Failure Unit, ∃ handOver,
      c₂.store.handedOver = c₁.store.handedOver ++ [handOver] ∧
      c₁.store.Unsent handOver.key ∧ ∃ enabled clock result d,
        yearCalls[1]? = some (.send enabled clock handOver.key result) ∧
        c₁.store.deliveries.get? handOver.key = some d ∧
        c₁.store.contracts.Announces clock (d.subscription, handOver.kind, handOver.snapshot) := by
  constructor
  · have hs : (officeOf yearContract).contracts.Constrained :=
      ⟨by decide, by decide, by decide⟩
    obtain ⟨queued, s', hrun, hiff⟩ := (reminders_follow_contract_iff (officeOf yearContract)).1
      (timedelta 360) (timedelta 360) 3 5 yearContract ⟨3, 7, true, true, true⟩ hs (by decide)
      (by decide) (by decide)
    have hstored : yearContract.EndsAsStored (timedelta 360) :=
      ⟨(fun h => by cases h), (fun h => by cases h)⟩
    have hdue : yearContract.DueByAccess (timedelta 360) := by
      unfold SchoolSubscription.DueByAccess WithinWeek
      decide
    exact ⟨queued, s', hrun, (hiff.mpr hstored).mpr hdue⟩
  · have hfacts : ((Config.start (officeOf yearContract) (yearCalls.mapIdx fun j call =>
        call.program j)).exec (List.replicate 10 0 ++ List.replicate 12 1)).bind (fun c₁ =>
          (c₁.step 1).map fun c₂ => (c₁.store.handedOver, c₂.store.handedOver)) =
        some ([], [⟨yearReminder, "manager@example.invalid", .reminder7,
          snapshotFor yearContract (some { code := "basic" })⟩]) := by
      decide +kernel
    obtain ⟨c₁, h₁, hfacts⟩ := Option.bind_eq_some_iff.mp hfacts
    obtain ⟨c₂, h₂, hfacts⟩ := Option.map_eq_some_iff.mp hfacts
    rw [Prod.mk.injEq] at hfacts
    have happend : c₂.store.handedOver = c₁.store.handedOver ++ [⟨yearReminder,
        "manager@example.invalid", .reminder7,
        snapshotFor yearContract (some { code := "basic" })⟩] := by
      rw [hfacts.1, hfacts.2]
      rfl
    exact ⟨c₁, c₂, _, happend, (reminders_follow_contract_iff (officeOf yearContract)).2 yearCalls
      (List.replicate 10 0 ++ List.replicate 12 1) 1 c₁ c₂ _ rfl h₁ h₂ happend⟩

end SchoolPlatform.Subscriptions
