import SchoolPlatform.Model.RenewalMails
import SchoolPlatform.Analysis.ContractSteps

/-!
# Which reminders are queued

With nobody else at work the task queues, for each current contract that is stored as a trial or as
active and ends within seven days, a delivery to each manager who can be reached, and leaves the
deliveries that are there as they are.
-/

/-! ## What each call does to deliveries and to what was handed to the provider -/

namespace SchoolPlatform.Subscriptions

open ReadCommitted

variable {calls : List MailCall} {i : ℕ} {key : DeliveryKey} {s s' : MailOffice}

def EmailDelivery.announcement (d : EmailDelivery) : ℕ × MessageKind × MessageSnapshot :=
  (d.subscription, d.kind, d.snapshot)

inductive DeliveryStep (i : ℕ) : Option EmailDelivery → Option EmailDelivery → Prop
  | created {d : EmailDelivery} (after : d.status = .pending) : DeliveryStep i none (some d)
  | claimed {d d' : EmailDelivery} (before : d.status = .pending) (after : d'.status = .sending)
    (sender : d'.sender = some i) (same : d'.announcement = d.announcement) :
    DeliveryStep i (some d) (some d')
  | cancelled {d d' : EmailDelivery} (before : d.status = .pending)
    (after : d'.status = .cancelled) (same : d'.announcement = d.announcement) :
    DeliveryStep i (some d) (some d')
  | settled {d d' : EmailDelivery} (before : d.status = .sending) (after : d'.status ≠ .pending)
    (sender : d'.sender = d.sender) (same : d'.announcement = d.announcement) :
    DeliveryStep i (some d) (some d')

/-- The contract is the current one of its school and still as announced; a reminder of it is
within the window of its kind, and the contract is in force. -/
def Contracts.Announces (c : Contracts) (clock : SendClock)
    (announcement : ℕ × MessageKind × MessageSnapshot) : Prop :=
  ∃ x, c.subscriptions.get? announcement.1 = some x ∧
    (∃ y, c.liveSubscription x.school = some (announcement.1, y)) ∧
    contractVersion x = announcement.2.2.contractVersion ∧
    (announcement.2.1.isReminder = true →
      (x.effectiveStatus clock.statusAt = .trial ∨ x.effectiveStatus clock.statusAt = .active) ∧
      clock.remainingAt < x.endsAt ∧ x.endsAt ≤ clock.remainingAt + timedelta 7 ∧
      (announcement.2.1 = .reminder7 ↔ clock.remainingAt + timedelta 1 < x.endsAt))

def MailOffice.Unsent (s : MailOffice) (key : DeliveryKey) : Prop :=
  ∀ h ∈ s.handedOver, h.key ≠ key

/-- A delivery that is missing or pending has not been handed over. -/
def MailOffice.Sound (s : MailOffice) : Prop :=
  ∀ key, (∀ d, s.deliveries.get? key = some d → d.status = .pending) → s.Unsent key

/-- The delivery has been claimed by the run `i` of the task. -/
def MailOffice.ClaimedBy (s : MailOffice) (i : ℕ) (key : DeliveryKey) (d : EmailDelivery) : Prop :=
  s.deliveries.get? key = some d ∧ d.status ≠ .pending ∧ d.sender = some i

inductive MailChange (calls : List MailCall) (i : ℕ) : Change MailOffice MailRow
  | deliveries {L : List (MailRow × LockMode)} {s s' : MailOffice}
    (contracts : s'.contracts = s.contracts) (handedOver : s'.handedOver = s.handedOver)
    (steps : ∀ key, s'.deliveries.get? key = s.deliveries.get? key ∨
      WriteLocked L (.delivery key) ∧
        DeliveryStep i (s.deliveries.get? key) (s'.deliveries.get? key)) :
    MailChange calls i L s s'
  | handedOver {L : List (MailRow × LockMode)} {s : MailOffice} {h : HandOver} {d : EmailDelivery}
    {enabled : Bool} {clock : SendClock} {result : DeliveryResult}
    (mine : s.ClaimedBy i h.key d) (unsent : s.Unsent h.key)
    (call : calls[i]? = some (.send enabled clock h.key result))
    (kind : h.kind = d.kind) (snapshot : h.snapshot = d.snapshot)
    (announced : s.contracts.Announces clock d.announcement) : MailChange calls i L s (s.handOver h)

theorem MailChange.contracts_eq {L : List (MailRow × LockMode)} (h : MailChange calls i L s s') :
    s'.contracts = s.contracts := by
  cases h with
  | deliveries contracts handedOver steps => exact contracts
  | handedOver mine unsent call kind snapshot announced => rfl

theorem DeliveryStep.pending_before {o o' : Option EmailDelivery} (h : DeliveryStep i o o')
    (hafter : ∀ d, o' = some d → d.status = .pending) : ∀ d, o = some d → d.status = .pending := by
  intro d hd
  cases h with
  | created after => cases hd
  | claimed before after sender same =>
    cases hd
    exact before
  | cancelled before after same =>
    cases hd
    exact before
  | settled before after sender same => exact absurd (hafter _ rfl) after

theorem MailChange.sound {L : List (MailRow × LockMode)} (h : MailChange calls i L s s')
    (hs : s.Sound) : s'.Sound := by
  intro k hpending
  cases h with
  | deliveries contracts handedOver steps =>
    have hbefore : ∀ d, s.deliveries.get? k = some d → d.status = .pending := by
      rcases steps k with hsame | ⟨-, hstep⟩
      · rw [← hsame]
        exact hpending
      · exact hstep.pending_before hpending
    unfold MailOffice.Unsent
    rw [handedOver]
    exact hs k hbefore
  | @handedOver _ _ h d enabled clock result mine unsent call kind snapshot announced =>
    have hne : h.key ≠ k := by
      rintro rfl
      exact mine.2.1 (hpending d mine.1)
    intro e he
    rcases List.mem_append.mp he with he | he
    · exact hs k hpending e he
    · rw [List.mem_singleton.mp he]
      exact hne

abbrev mailOthers (calls : List MailCall) (i : ℕ) : Change MailOffice MailRow :=
  others (MailChange calls) MailOffice.Sound (fun _ _ _ => True) i

theorem mailChange_sound (calls : List MailCall) (i : ℕ) (L : List (MailRow × LockMode))
    (s s' : MailOffice) (h : MailChange calls i L s s') (hs : s.Sound) : s'.Sound := h.sound hs

theorem sound_kept (calls : List MailCall) (i : ℕ) (held : List (MailRow × LockMode)) :
    (mailOthers calls i).Keeps held MailOffice.Sound := others_keeps (mailChange_sound calls) i held

theorem delivery_kept {held : List (MailRow × LockMode)}
    (hlock : WriteLocked held (.delivery key)) (b : Option EmailDelivery) (P : Contracts → Prop) :
    (mailOthers calls i).Keeps held fun s =>
      s.Sound ∧ s.deliveries.get? key = b ∧ P s.contracts := by
  apply others_keeps_of (mailChange_sound calls)
  rintro j L s s' - hcompat h - - ⟨hb, hP⟩
  rw [h.contracts_eq]
  refine ⟨?_, hP⟩
  cases h with
  | deliveries contracts handedOver steps =>
    rcases steps key with hsame | ⟨hlocked, -⟩
    · exact hsame.trans hb
    · exact absurd hlocked (hcompat.not_writeLocked hlock)
  | handedOver mine unsent call kind snapshot announced => exact hb

/-- The delivery is claimed, not yet handed over, and announces what holds. -/
def MailOffice.About (s : MailOffice) (i : ℕ) (key : DeliveryKey) (clock : SendClock)
    (announcement : ℕ × MessageKind × MessageSnapshot) : Prop :=
  s.Unsent key ∧ s.contracts.Announces clock announcement ∧
    ∃ d, s.ClaimedBy i key d ∧ d.announcement = announcement

theorem about_kept (held : List (MailRow × LockMode)) (clock : SendClock)
    (announcement : ℕ × MessageKind × MessageSnapshot) :
    (mailOthers calls i).Keeps held fun s => s.Sound ∧ s.About i key clock announcement := by
  apply others_keeps_of (mailChange_sound calls)
  rintro j L s s' hj - h - - ⟨hunsent, hannounced, d, ⟨hd, hstatus, hsender⟩, hsame⟩
  unfold MailOffice.About
  rw [h.contracts_eq]
  refine and_left_comm.mp ⟨hannounced, ?_⟩
  cases h with
  | deliveries contracts handedOver steps =>
    refine ⟨by unfold MailOffice.Unsent; rw [handedOver]; exact hunsent, ?_⟩
    rcases steps key with hkept | ⟨-, hstep⟩
    · exact ⟨d, ⟨hkept.trans hd, hstatus, hsender⟩, hsame⟩
    · rw [hd] at hstep
      generalize hd' : s'.deliveries.get? key = o at hstep
      cases hstep with
      | claimed before after sender same => exact absurd before hstatus
      | cancelled before after same => exact absurd before hstatus
      | @settled _ d' before after sender same =>
        exact ⟨d', ⟨hd', after, sender.trans hsender⟩, same.trans hsame⟩
  | @handedOver _ _ h e enabled clock' result mine unsent call kind snapshot announced =>
    have hne : h.key ≠ key := by
      intro hkey
      obtain ⟨he, -, hj'⟩ := mine
      rw [hkey, hd, Option.some.injEq] at he
      rw [← he, hsender, Option.some.injEq] at hj'
      exact hj hj'.symm
    refine ⟨fun e' he' => ?_, d, ⟨hd, hstatus, hsender⟩, hsame⟩
    rcases List.mem_append.mp he' with he' | he'
    · exact hunsent e' he'
    · rw [List.mem_singleton.mp he']
      exact hne

variable {s s' : MailOffice}

/-- Pending deliveries may have been added; nothing else has changed. -/
structure Grown (s s' : MailOffice) : Prop where
  contracts : s'.contracts = s.contracts
  memberships : s'.memberships = s.memberships
  verifiedAddress : s'.verifiedAddress = s.verifiedAddress
  kept : ∀ key d, s.deliveries.get? key = some d → s'.deliveries.get? key = some d
  added : ∀ key d, s'.deliveries.get? key = some d →
    s.deliveries.get? key = some d ∨ s.deliveries.get? key = none ∧ d.status = .pending

theorem Grown.refl (s : MailOffice) : Grown s s :=
  ⟨rfl, rfl, rfl, fun _ _ h => h, fun _ _ h => .inl h⟩

theorem Grown.trans {s'' : MailOffice} (h : Grown s s') (h' : Grown s' s'') : Grown s s'' where
  contracts := h'.contracts.trans h.contracts
  memberships := h'.memberships.trans h.memberships
  verifiedAddress := h'.verifiedAddress.trans h.verifiedAddress
  kept := fun key d hd => h'.kept key d (h.kept key d hd)
  added := by
    intro key d hd
    rcases h'.added key d hd with hmid | ⟨hnone, hpending⟩
    · exact h.added key d hmid
    · cases hbefore : s.deliveries.get? key with
      | none => exact .inr ⟨rfl, hpending⟩
      | some e =>
        rw [h.kept key e hbefore] at hnone
        cases hnone

theorem Grown.isSome (h : Grown s s') {key : DeliveryKey}
    (hkey : (s.deliveries.get? key).isSome = true) : (s'.deliveries.get? key).isSome = true := by
  obtain ⟨d, hd⟩ := Option.isSome_iff_exists.mp hkey
  rw [h.kept key d hd]
  rfl

theorem get?_putDelivery (s : MailOffice) (key key' : DeliveryKey) (d : EmailDelivery) :
    (s.putDelivery key d).deliveries.get? key' =
      if key' = key then some d else s.deliveries.get? key' := by
  unfold MailOffice.putDelivery
  dsimp only
  rw [Dict.get?_insert]
  by_cases h : key' = key
  · rw [if_pos h, if_pos h.symm]
  · rw [if_neg h, if_neg fun hsymm => h hsymm.symm]

theorem grown_putDelivery {key : DeliveryKey} {d : EmailDelivery}
    (hnone : s.deliveries.get? key = none) (hd : d.status = .pending) :
    Grown s (s.putDelivery key d) where
  contracts := rfl
  memberships := rfl
  verifiedAddress := rfl
  kept := by
    intro key' e he
    have hne : key' ≠ key := by
      rintro rfl
      rw [hnone] at he
      cases he
    rw [get?_putDelivery, if_neg hne]
    exact he
  added := by
    intro key' e he
    rw [get?_putDelivery] at he
    split_ifs at he with hkey
    · subst hkey
      cases he
      exact .inr ⟨hnone, hd⟩
    · exact .inl he

theorem eval_getOrCreateDelivery (s : MailOffice) (key : DeliveryKey) {fresh : EmailDelivery}
    (hfresh : fresh.status = .pending) : ∃ s',
    (getOrCreateDelivery key fresh).eval s = .ok ((), s') ∧ Grown s s' ∧
      (s'.deliveries.get? key).isSome = true := by
  cases hkey : s.deliveries.get? key with
  | some d =>
    refine ⟨s, ?_, Grown.refl s, by rw [hkey]; rfl⟩
    unfold getOrCreateDelivery
    simp only [Tx.bind_eq, Tx.eval_bind, Tx.select, Tx.eval, hkey]
    rfl
  | none =>
    refine ⟨s.putDelivery key fresh, ?_, grown_putDelivery hkey hfresh, ?_⟩
    · unfold getOrCreateDelivery
      simp only [Tx.bind_eq, Tx.eval_bind, Tx.select, Tx.eval, hkey]
      simp only [Tx.lockRows, Tx.eval, Tx.update, hkey]
    · rw [get?_putDelivery, if_pos rfl]
      rfl

def MailOffice.reaches (s : MailOffice) (m : ManagerMembership) : Bool :=
  ((s.verifiedAddress m.user).filter fun a => a ≠ "").isSome

def MailOffice.recipientKeys (s : MailOffice) (key : MessageKey)
    (managers : List ManagerMembership) : List DeliveryKey :=
  (managers.filter fun m => s.reaches m).map fun m => ⟨key, m.user⟩

/-- **The loop over the managers** queues one delivery for each that can be reached. -/
theorem run_queueForManagers (id : ℕ) (x : SchoolSubscription) (plan : Option SaaSPlan)
    (kind : MessageKind) (key : MessageKey) (savedAt : Instant)
    (managers : List ManagerMembership) (rows : List DeliveryKey) (s : MailOffice) : ∃ s',
    (queueForManagers id x plan kind key savedAt managers rows).run s =
      (.ok (rows ++ s.recipientKeys key managers), s') ∧ Grown s s' ∧
      ∀ row ∈ s.recipientKeys key managers, (s'.deliveries.get? row).isSome = true := by
  induction managers generalizing rows s with
  | nil =>
    refine ⟨s, ?_, Grown.refl s, fun row hrow => by cases hrow⟩
    show (Except.ok rows, s) = _
    simp [MailOffice.recipientKeys]
  | cons m managers ih =>
    rw [queueForManagers, Program.bind_eq, Program.run_read]
    cases ha : (s.verifiedAddress m.user).filter fun a => a ≠ "" with
    | none =>
      have hskip : s.recipientKeys key (m :: managers) = s.recipientKeys key managers := by
        unfold MailOffice.recipientKeys
        rw [List.filter_cons_of_neg]
        unfold MailOffice.reaches
        rw [ha]
        decide
      rw [hskip]
      exact ih rows s
    | some a =>
      have hfirst : s.recipientKeys key (m :: managers) =
          ⟨key, m.user⟩ :: s.recipientKeys key managers := by
        unfold MailOffice.recipientKeys
        rw [List.filter_cons_of_pos, List.map_cons]
        unfold MailOffice.reaches
        rw [ha]
        rfl
      obtain ⟨s₁, hrun₁, hgrown₁, hkey₁⟩ := eval_getOrCreateDelivery s ⟨key, m.user⟩
        (show (freshDelivery id x plan kind m.user a savedAt).status = .pending from rfl)
      obtain ⟨s₂, hrun₂, hgrown₂, hkeys₂⟩ := ih (rows ++ [⟨key, m.user⟩]) s₁
      have hsame : s₁.recipientKeys key managers = s.recipientKeys key managers := by
        unfold MailOffice.recipientKeys MailOffice.reaches
        rw [hgrown₁.verifiedAddress]
      rw [hsame] at hrun₂ hkeys₂
      refine ⟨s₂, ?_, hgrown₁.trans hgrown₂, ?_⟩
      · dsimp only
        rw [Program.bind_eq, Program.run_transaction_ok hrun₁, hrun₂, hfirst, List.append_assoc]
        rfl
      · intro row hrow
        rw [hfirst] at hrow
        rcases List.mem_cons.mp hrow with rfl | hrow
        · exact hgrown₂.isSome hkey₁
        · exact hkeys₂ row hrow

def Contracts.isCurrent (s : Contracts) (id : ℕ) (x : SchoolSubscription) : Bool :=
  (s.liveSubscription x.school).map Prod.fst = some id

def MailOffice.reminderKeys (s : MailOffice) (now : Instant) (id : ℕ) (x : SchoolSubscription) :
    List DeliveryKey :=
  s.recipientKeys (.reminder id x.endsAt (reminderKind x now)) (s.managers x.school)

def MailOffice.remindersOf (s : MailOffice) (now : Instant)
    (ending : List (ℕ × SchoolSubscription × Option SaaSPlan)) : List (ℕ × List DeliveryKey) :=
  (ending.filter fun p => s.contracts.isCurrent p.1 p.2.1).map fun p =>
    (p.1, s.reminderKeys now p.1 p.2.1)

theorem Grown.remindersOf (h : Grown s s') (now : Instant)
    (ending : List (ℕ × SchoolSubscription × Option SaaSPlan)) :
    s'.remindersOf now ending = s.remindersOf now ending := by
  unfold MailOffice.remindersOf MailOffice.reminderKeys MailOffice.recipientKeys
    MailOffice.managers MailOffice.reaches
  rw [h.contracts, h.memberships, h.verifiedAddress]

/-- **The loop over the contracts** queues the reminders of those that are current. -/
theorem run_queueEnding (now savedAt : Instant)
    (ending : List (ℕ × SchoolSubscription × Option SaaSPlan))
    (queued : List (ℕ × List DeliveryKey)) (s : MailOffice) : ∃ s',
    (queueEnding now savedAt ending queued).run s =
      (.ok (queued ++ s.remindersOf now ending), s') ∧ Grown s s' ∧
      ∀ p ∈ s.remindersOf now ending, ∀ row ∈ p.2, (s'.deliveries.get? row).isSome = true := by
  induction ending generalizing queued s with
  | nil =>
    refine ⟨s, ?_, Grown.refl s, fun p hp => by cases hp⟩
    show (Except.ok queued, s) = _
    simp [MailOffice.remindersOf]
  | cons p ending ih =>
    obtain ⟨id, x, plan⟩ := p
    have hread : (queueEnding now savedAt ((id, x, plan) :: ending) queued).run s =
        Program.run (if ((s.contracts.liveSubscription x.school).map Prod.fst) ≠ some id then
            queueEnding now savedAt ending queued
          else (queueForManagers id x plan (reminderKind x now)
              (.reminder id x.endsAt (reminderKind x now)) savedAt (s.managers x.school) []).bind
            fun rows => queueEnding now savedAt ending (queued ++ [(id, rows)])) s := by
      show Program.run (if ((s.contracts.liveSubscription x.school).map Prod.fst) ≠ some id then _
        else _) s = _
      split_ifs
      · rfl
      · rfl
    by_cases hcurrent : s.contracts.isCurrent id x = true
    · have hfirst : s.remindersOf now ((id, x, plan) :: ending) =
          (id, s.reminderKeys now id x) :: s.remindersOf now ending := by
        unfold MailOffice.remindersOf
        rw [List.filter_cons, if_pos hcurrent, List.map_cons]
      obtain ⟨s₁, hrun₁, hgrown₁, hkeys₁⟩ := run_queueForManagers id x plan (reminderKind x now)
        (.reminder id x.endsAt (reminderKind x now)) savedAt (s.managers x.school) [] s
      obtain ⟨s₂, hrun₂, hgrown₂, hkeys₂⟩ := ih (queued ++ [(id, s.reminderKeys now id x)]) s₁
      rw [hgrown₁.remindersOf] at hrun₂ hkeys₂
      refine ⟨s₂, ?_, hgrown₁.trans hgrown₂, ?_⟩
      · rw [hread, if_neg (not_not_intro (of_decide_eq_true hcurrent)), Program.run_bind, hrun₁]
        dsimp only
        rw [List.nil_append]
        refine hrun₂.trans ?_
        rw [hfirst, List.append_assoc]
        rfl
      · intro p hp row hrow
        rw [hfirst] at hp
        rcases List.mem_cons.mp hp with rfl | hp
        · exact hgrown₂.isSome (hkeys₁ row hrow)
        · exact hkeys₂ p hp row hrow
    · have hskip : s.remindersOf now ((id, x, plan) :: ending) = s.remindersOf now ending := by
        unfold MailOffice.remindersOf
        rw [List.filter_cons, if_neg hcurrent]
      rw [hread, if_pos fun h => hcurrent (decide_eq_true h), hskip]
      exact ih queued s

theorem run_queueReminders (now savedAt : Instant) (s : MailOffice) : ∃ s',
    (queueReminders now savedAt).run s =
      (.ok (s.remindersOf now (s.contracts.endingSoon now)), s') ∧ Grown s s' ∧
      ∀ p ∈ s.remindersOf now (s.contracts.endingSoon now), ∀ row ∈ p.2,
        (s'.deliveries.get? row).isSome = true :=
  run_queueEnding now savedAt (s.contracts.endingSoon now) [] s

/-- The instant lies within the seven days to come. -/
def WithinWeek (t now : Instant) : Prop := now < t ∧ t ≤ now + timedelta 7

theorem mem_endingSoon {c : Contracts} {now : Instant} {id : ℕ} {x : SchoolSubscription}
    {plan : Option SaaSPlan} : (id, x, plan) ∈ c.endingSoon now ↔
      (id, x) ∈ c.subscriptions ∧ (x.status = .trial ∨ x.status = .active) ∧
        WithinWeek x.endsAt now ∧ plan = c.plans.get? x.plan := by
  unfold Contracts.endingSoon
  simp only [List.mem_map, List.mem_insertionSort, List.mem_filter, decide_eq_true_eq,
    Prod.mk.injEq]
  constructor
  · rintro ⟨⟨id', x'⟩, ⟨hmem, hstatus, hwindow⟩, rfl, rfl, rfl⟩
    exact ⟨hmem, hstatus, hwindow, rfl⟩
  · rintro ⟨hmem, hstatus, hwindow, rfl⟩
    exact ⟨(id, x), ⟨hmem, hstatus, hwindow⟩, rfl, rfl, rfl⟩

def Reminded (queued : List (ℕ × List DeliveryKey)) (s' : MailOffice) (id : ℕ)
    (x : SchoolSubscription) (now : Instant) : Prop :=
  ∃ p ∈ queued, p.1 = id ∧ ∃ user,
    ⟨.reminder id x.endsAt (reminderKind x now), user⟩ ∈ p.2 ∧
    (s'.deliveries.get? ⟨.reminder id x.endsAt (reminderKind x now), user⟩).isSome = true

theorem reminded_iff (hs : s.contracts.Constrained) {school id : ℕ} {x : SchoolSubscription}
    (hlive : s.contracts.liveSubscription school = some (id, x)) {m : ManagerMembership}
    (hm : m ∈ s.managers school) (hreach : s.reaches m = true) {now : Instant}
    (hqueued : ∀ p ∈ s.remindersOf now (s.contracts.endingSoon now), ∀ row ∈ p.2,
      (s'.deliveries.get? row).isSome = true) :
    Reminded (s.remindersOf now (s.contracts.endingSoon now)) s' id x now ↔
      (x.status = .trial ∨ x.status = .active) ∧ WithinWeek x.endsAt now := by
  obtain ⟨hmem, hschool⟩ := mem_of_liveSubscription hlive
  have hschool : x.school = school := hschool
  constructor
  · rintro ⟨p, hp, hid, -⟩
    obtain ⟨⟨id', x', plan⟩, hq, rfl⟩ := List.mem_map.mp hp
    obtain ⟨hending, -⟩ := List.mem_filter.mp hq
    obtain ⟨hmem', hstatus, hwindow, -⟩ := mem_endingSoon.mp hending
    have hid : id' = id := hid
    subst hid
    have hx : x' = x := by
      have hget := (Dict.mem_iff_get? hs.ids id' x').mp hmem'
      rw [(Dict.mem_iff_get? hs.ids id' x).mp hmem, Option.some.injEq] at hget
      exact hget.symm
    subst hx
    exact ⟨hstatus, hwindow⟩
  · rintro ⟨hstatus, hwindow⟩
    have hcurrent : s.contracts.isCurrent id x = true := by
      unfold Contracts.isCurrent
      rw [hschool, hlive]
      exact decide_eq_true rfl
    have hp : (id, s.reminderKeys now id x) ∈
        s.remindersOf now (s.contracts.endingSoon now) :=
      List.mem_map.mpr ⟨(id, x, s.contracts.plans.get? x.plan),
        List.mem_filter.mpr ⟨mem_endingSoon.mpr ⟨hmem, hstatus, hwindow, rfl⟩, hcurrent⟩, rfl⟩
    have hrow : ⟨.reminder id x.endsAt (reminderKind x now), m.user⟩ ∈
        s.reminderKeys now id x := by
      unfold MailOffice.reminderKeys MailOffice.recipientKeys
      rw [hschool]
      exact List.mem_map.mpr ⟨m, List.mem_filter.mpr ⟨hm, hreach⟩, rfl⟩
    exact ⟨_, hp, rfl, m.user, hrow, hqueued _ hp _ hrow⟩

end SchoolPlatform.Subscriptions
