import SchoolPlatform.Model.Subscriptions

/-!
# Mails to the managers about the contract of their school

Reminders of a contract that is about to end are queued as deliveries, one for each manager with a
verified address; what they announce is kept with them. A run of the sending task claims a pending
delivery under its lock, when what it announces still holds, and hands it to the provider after the
claim has been committed.
-/

namespace SchoolPlatform.Subscriptions

open ReadCommitted

inductive MessageKind
  | details | graceStarted | expired | suspended | cancelled | reminder1 | reminder7
  deriving DecidableEq

def MessageKind.isReminder (kind : MessageKind) : Bool :=
  decide (kind = .reminder1) || decide (kind = .reminder7)

/-- `contract_version`: what the text of that name is made of. -/
structure ContractVersion where
  plan : ℕ
  status : SubscriptionStatus
  endsAt : Instant
  graceEndsAt : Option Instant
  deriving DecidableEq

structure MessageSnapshot where
  contractVersion : ContractVersion
  startsAt : Instant
  durationValue : ℤ
  durationUnit : PlanDurationUnit
  price : Option ℤ
  deriving DecidableEq

inductive MessageKey
  | event (id : ℕ)
  | initialContact (subscription : ℕ) (version : ContractVersion) (address : Digest String)
  | reminder (subscription : ℕ) (endsAt : Instant) (kind : MessageKind)
  deriving DecidableEq

/-- What a delivery is known by: the table holds its digest, which is unique. -/
structure DeliveryKey where
  message : MessageKey
  user : ℕ
  deriving DecidableEq

inductive DeliveryStatus
  | pending | sending | submittedToProvider | failed | unknown | cancelled
  deriving DecidableEq

/-- `sender` is the run of the sending task that has claimed the delivery; no code reads it. -/
structure EmailDelivery where
  school : ℕ
  subscription : ℕ
  recipient : Option ℕ
  recipientHash : Digest String
  kind : MessageKind
  snapshot : MessageSnapshot
  status : DeliveryStatus := .pending
  providerReference : String := ""
  errorCode : String := ""
  updatedAt : Instant
  sender : Option ℕ := none
  deriving DecidableEq

structure ManagerMembership where
  school : ℕ
  user : ℕ
  isActive : Bool
  isManager : Bool
  userIsActive : Bool
  deriving DecidableEq

structure HandOver where
  key : DeliveryKey
  recipient : String
  kind : MessageKind
  snapshot : MessageSnapshot
  deriving DecidableEq

/-- What the mails are made from, and the mails. The address of a user is empty when none is
verified, and missing when it cannot be read. -/
structure MailOffice where
  contracts : Contracts := {}
  memberships : List ManagerMembership := []
  verifiedAddress : ℕ → Option String := fun _ => some ""
  deliveries : Dict DeliveryKey EmailDelivery := []
  handedOver : List HandOver := []

inductive MailRow
  | delivery (key : DeliveryKey)
  deriving DecidableEq

def MailRow.key : MailRow → DeliveryKey
  | .delivery key => key

abbrev MailTransaction (α : Type) := Tx MailOffice MailRow Failure α

abbrev MailProgram (α : Type) := Program MailOffice MailRow Failure α

def MailOffice.putDelivery (s : MailOffice) (key : DeliveryKey) (d : EmailDelivery) : MailOffice :=
  { s with deliveries := Dict.insert s.deliveries key d }

/-- `UPDATE … WHERE` of locked rows that still meet the condition. -/
def MailOffice.updateDeliveries (s : MailOffice) (keys : List DeliveryKey)
    (p : EmailDelivery → Bool) (f : EmailDelivery → EmailDelivery) : MailOffice :=
  { s with deliveries := s.deliveries.mapValues fun key d =>
      if key ∈ keys ∧ p d = true then f d else d }

def MailOffice.handOver (s : MailOffice) (h : HandOver) : MailOffice :=
  { s with handedOver := s.handedOver ++ [h] }

def contactHash (email : String) : Digest String := ⟨email⟩

def contractVersion (x : SchoolSubscription) : ContractVersion where
  plan := x.plan
  status := x.status
  endsAt := x.endsAt
  graceEndsAt := x.graceEndsAt

def snapshotFor (x : SchoolSubscription) (plan : Option SaaSPlan) : MessageSnapshot where
  contractVersion := contractVersion x
  startsAt := x.startsAt
  durationValue := x.durationValue
  durationUnit := x.durationUnit
  price := plan.map fun p => p.priceAmount

def ManagerMembership.receives (m : ManagerMembership) (school : ℕ) : Bool :=
  m.school = school && m.isActive && m.isManager && m.userIsActive

def MailOffice.managers (s : MailOffice) (school : ℕ) : List ManagerMembership :=
  s.memberships.filter fun m => m.receives school

/-- `get_or_create` by the digest of the key. -/
def getOrCreateDelivery (key : DeliveryKey) (fresh : EmailDelivery) : MailTransaction Unit := do
  let found ← Tx.select fun s => s.deliveries.get? key
  match found with
  | some _ => pure ()
  | none => do
    Tx.lockRows .update [MailRow.delivery key]
    let taken ← Tx.select fun s => s.deliveries.get? key
    match taken with
    | some _ => pure ()
    | none => Tx.update fun s => s.putDelivery key fresh

def freshDelivery (id : ℕ) (x : SchoolSubscription) (plan : Option SaaSPlan) (kind : MessageKind)
    (user : ℕ) (address : String) (savedAt : Instant) : EmailDelivery where
  school := x.school
  subscription := id
  recipient := some user
  recipientHash := contactHash address
  kind := kind
  snapshot := snapshotFor x plan
  updatedAt := savedAt

/-- The loop of `queue_message`: a manager without a verified address is passed over. -/
def queueForManagers (id : ℕ) (x : SchoolSubscription) (plan : Option SaaSPlan)
    (kind : MessageKind) (key : MessageKey) (savedAt : Instant) :
    List ManagerMembership → List DeliveryKey → MailProgram (List DeliveryKey)
  | [], rows => pure rows
  | m :: managers, rows => do
    let address ← Program.read fun s => s.verifiedAddress m.user
    match address.filter fun a => a ≠ "" with
    | none => queueForManagers id x plan kind key savedAt managers rows
    | some a => do
      Program.transaction (getOrCreateDelivery ⟨key, m.user⟩
        (freshDelivery id x plan kind m.user a savedAt))
      queueForManagers id x plan kind key savedAt managers (rows ++ [⟨key, m.user⟩])

def queueMessage (id : ℕ) (x : SchoolSubscription) (plan : Option SaaSPlan) (kind : MessageKind)
    (key : MessageKey) (savedAt : Instant) : MailProgram (List DeliveryKey) := do
  let managers ← Program.read fun s => s.managers x.school
  queueForManagers id x plan kind key savedAt managers []

/-- The contracts that a reminder is considered for, with their plans: stored as a trial or as
active, and at an end within seven days. -/
def Contracts.endingSoon (s : Contracts) (now : Instant) :
    List (ℕ × SchoolSubscription × Option SaaSPlan) :=
  ((s.subscriptions.filter fun p =>
      (p.2.status = .trial ∨ p.2.status = .active) ∧
        now < p.2.endsAt ∧ p.2.endsAt ≤ now + timedelta 7).insertionSort fun a b =>
    StartKey.mk b.2.startsAt b.1 ≤ StartKey.mk a.2.startsAt a.1).map fun p =>
      (p.1, p.2, s.plans.get? p.2.plan)

def reminderKind (x : SchoolSubscription) (now : Instant) : MessageKind :=
  if x.endsAt - now ≤ timedelta 1 then .reminder1 else .reminder7

/-- The loop of `queue_reminders`: only the current contract of a school is reminded of. -/
def queueEnding (now savedAt : Instant) : List (ℕ × SchoolSubscription × Option SaaSPlan) →
    List (ℕ × List DeliveryKey) → MailProgram (List (ℕ × List DeliveryKey))
  | [], queued => pure queued
  | (id, x, plan) :: rest, queued => do
    let current ← Program.read fun s => s.contracts.liveSubscription x.school
    if (current.map Prod.fst) ≠ some id then queueEnding now savedAt rest queued
    else do
      let kind := reminderKind x now
      let rows ← queueMessage id x plan kind (.reminder id x.endsAt kind) savedAt
      queueEnding now savedAt rest (queued ++ [(id, rows)])

/-- `queue_reminders`: the deliveries of each contract, which the code counts. -/
def queueReminders (now savedAt : Instant) : MailProgram (List (ℕ × List DeliveryKey)) := do
  let ending ← Program.read fun s => s.contracts.endingSoon now
  queueEnding now savedAt ending []

/-- The clock at the points of a run of the sending task at which it is read. -/
structure SendClock where
  remainingAt : Instant
  statusAt : Instant
  savedAt : Instant
  recordedAt : Instant
  deriving DecidableEq

inductive ResultStatus
  | submittedToProvider | failed | unknown
  deriving DecidableEq

def ResultStatus.status : ResultStatus → DeliveryStatus
  | .submittedToProvider => .submittedToProvider
  | .failed => .failed
  | .unknown => .unknown

structure DeliveryResult where
  status : ResultStatus
  providerReference : String := ""
  errorCode : String := ""
  deriving DecidableEq

/-- A reminder is due while the contract is in force and its end is as near as announced; any other
message always is. -/
def EmailDelivery.isDue (row : EmailDelivery) (clock : SendClock) (x : SchoolSubscription) :
    Bool :=
  !row.kind.isReminder ||
    let remaining := x.endsAt - clock.remainingAt
    let status := x.effectiveStatus clock.statusAt
    (decide (status = .trial) || decide (status = .active)) &&
      (decide (0 < remaining) && decide (remaining ≤ timedelta 7)) &&
      (if row.kind = .reminder7 then decide (timedelta 1 < remaining)
        else decide (remaining ≤ timedelta 1))

/-- The recipient is still a manager with the address the message was queued for, and the contract
is still the current one and as announced. -/
def EmailDelivery.isValid (row : EmailDelivery) (clock : SendClock)
    (member : Option ManagerMembership) (x : SchoolSubscription)
    (current : Option (ℕ × SchoolSubscription)) (address : Option String) : Bool :=
  member.isSome && (current.any fun p => p.1 = row.subscription) &&
    (address.any fun a => a ≠ "" && contactHash a = row.recipientHash) &&
    decide (contractVersion x = row.snapshot.contractVersion) && row.isDue clock x

inductive Claim
  | ignored
  | cancelled
  | claimed (address : String) (row : EmailDelivery)
  deriving DecidableEq

/-- The transaction of `send_delivery`. -/
def claimDelivery (me : ℕ) (clock : SendClock) (key : DeliveryKey) : MailTransaction Claim := do
  let found ← Tx.selectForUpdate (fun _ => [MailRow.delivery key]) fun _ s => s.deliveries.get? key
  match found with
  | none => pure .ignored
  | some row =>
    if row.status ≠ .pending then pure .ignored
    else do
      let member ← Tx.select fun s => (s.managers row.school).find? fun m =>
        some m.user = row.recipient
      let subscription ← Tx.select fun s => s.contracts.subscriptions.get? row.subscription
      match subscription with
      | none => .raise (.doesNotExist "SchoolSubscription")
      | some x => do
        let current ← Tx.select fun s => s.contracts.liveSubscription x.school
        let address ← Tx.select fun s => member.elim (some "") fun m => s.verifiedAddress m.user
        if row.isValid clock member x current address then do
          Tx.update fun s => s.putDelivery key
            { row with status := .sending, updatedAt := clock.savedAt, sender := some me }
          pure (.claimed (address.getD "") row)
        else do
          Tx.update fun s => s.putDelivery key
            { row with status := .cancelled, updatedAt := clock.savedAt }
          pure .cancelled

def recordResult (now : Instant) (key : DeliveryKey) (result : DeliveryResult) :
    MailTransaction Unit :=
  Tx.updateWhere
    (fun s => if (s.deliveries.get? key).any fun d => d.status = .sending then
      [MailRow.delivery key] else [])
    fun rows s => s.updateDeliveries (rows.map MailRow.key) (fun d => d.status = .sending)
      fun d =>
        { d with
          status := result.status.status
          providerReference := result.providerReference
          errorCode := result.errorCode
          updatedAt := now }

inductive SendReply
  | disabled | ignored | cancelled
  | result (status : ResultStatus)
  deriving DecidableEq

/-- `send_delivery`, as the run `me` of the task: the provider answers with `result`. -/
def sendDelivery (me : ℕ) (enabled : Bool) (clock : SendClock) (key : DeliveryKey)
    (result : DeliveryResult) : MailProgram SendReply :=
  if !enabled then pure .disabled
  else do
    let claim ← Program.transaction (claimDelivery me clock key)
    match claim with
    | .ignored => pure .ignored
    | .cancelled => pure .cancelled
    | .claimed address row => do
      Program.transaction (Tx.update fun s =>
        s.handOver ⟨key, address, row.kind, row.snapshot⟩)
      Program.transaction (recordResult clock.recordedAt key result)
      pure (.result result.status)

/-- The periodic task gives up deliveries whose run has not come back. -/
def giveUpStale (now : Instant) : MailTransaction Unit :=
  let stale := fun d : EmailDelivery =>
    decide (d.status = .sending) && decide (d.updatedAt < now - 600 * 1000000)
  Tx.updateWhere
    (fun s => (s.deliveries.filter fun p => stale p.2).map fun p => MailRow.delivery p.1)
    fun rows s => s.updateDeliveries (rows.map MailRow.key) stale fun d =>
      { d with status := .unknown, errorCode := "STALE_SENDING", updatedAt := now }

/-- The runs of the sending task, and what the periodic task does beside them. -/
inductive MailCall
  | send (enabled : Bool) (clock : SendClock) (key : DeliveryKey) (result : DeliveryResult)
  | giveUpStale (now : Instant)
  | queueReminders (now savedAt : Instant)

def MailCall.program (me : ℕ) : MailCall → MailProgram Unit
  | .send enabled clock key result =>
    (sendDelivery me enabled clock key result).bind fun _ => .ret ()
  | .giveUpStale now => Program.transaction (Subscriptions.giveUpStale now)
  | .queueReminders now savedAt =>
    (Subscriptions.queueReminders now savedAt).bind fun _ => .ret ()

end SchoolPlatform.Subscriptions
