import SchoolPlatform.Model.Records
import SchoolPlatform.Library.Text
import Mathlib.Data.List.MinMax
import Mathlib.Data.Prod.Lex

/-!
# Subscriptions

A school has contracts with the platform; the most recent one is current. Its status is kept, and
what counts is the status that follows from it and from the dates. The platform opens, extends,
suspends and ends contracts; a periodic task brings the kept status in line with the dates.
-/

namespace SchoolPlatform.Subscriptions

open ReadCommitted

/-! ## Rows -/

inductive PlanDurationUnit
  | days | months | years
  deriving DecidableEq

structure SaaSPlan where
  code : String
  isActive : Bool := true
  /-- In hundredths. -/
  priceAmount : ℤ := 0
  durationValue : ℤ := 1
  durationUnit : PlanDurationUnit := .years
  trialDaysDefault : ℤ := 30
  deriving DecidableEq

/-- A limit or a feature; a limit without a value is none. -/
structure Entitlement where
  numericValue : Option ℤ := none
  isEnabled : Bool := true
  isOverride : Bool := false
  deriving DecidableEq

inductive SubscriptionStatus
  | trial | active | gracePeriod | expired | suspended | cancelled
  deriving DecidableEq

def SubscriptionStatus.isLive : SubscriptionStatus → Bool
  | .trial => true
  | .active => true
  | .gracePeriod => true
  | .expired => false
  | .suspended => false
  | .cancelled => false

structure SchoolSubscription where
  school : ℕ
  plan : ℕ
  status : SubscriptionStatus := .trial
  startsAt : Instant
  endsAt : Instant
  trialStartedAt : Option Instant := none
  trialEndsAt : Option Instant := none
  graceEndsAt : Option Instant := none
  durationValue : ℤ := 1
  durationUnit : PlanDurationUnit := .years
  wasFreePlan : Bool := false
  cancelledAt : Option Instant := none
  cancelReason : Text := []
  suspendedAt : Option Instant := none
  suspensionReason : Text := []
  updatedAt : Instant
  deriving DecidableEq

/-- The tables of the contracts, by id; entitlements are kept by their plan or contract and key. -/
structure Contracts where
  plans : Dict ℕ SaaSPlan := []
  planEntitlements : Dict (ℕ × String) Entitlement := []
  subscriptions : Dict ℕ SchoolSubscription := []
  entitlements : Dict (ℕ × String) Entitlement := []
  deriving DecidableEq

/-- What is locked: rows, and the entry of a school in the unique index of live contracts. -/
inductive ContractRow
  | school (id : ℕ)
  | subscription (id : ℕ)
  | liveOf (school : ℕ)
  deriving DecidableEq

abbrev ContractTransaction (α : Type) := Tx Contracts ContractRow Failure α

abbrev ContractProgram (α : Type) := Program Contracts ContractRow Failure α

/-- The clock at the points of a call at which it is read: for the contract that a new one comes
after, for the operation, and when a row is saved. -/
structure ContractClock where
  checkedAt : Instant
  now : Instant
  savedAt : Instant
  deriving DecidableEq

/-- `timedelta(days=…)`. -/
def timedelta (days : ℤ) : ℤ := days * (86400 * 1000000)

/-! ## Status and access -/

inductive AccessMode
  | full | readOnly | blocked
  deriving DecidableEq

def SubscriptionStatus.accessMode : SubscriptionStatus → AccessMode
  | .trial => .full
  | .active => .full
  | .gracePeriod => .full
  | .expired => .readOnly
  | .cancelled => .readOnly
  | .suspended => .blocked

def SchoolSubscription.afterEnd (x : SchoolSubscription) (now : Instant) : SubscriptionStatus :=
  if x.graceEndsAt.any fun t => now < t then .gracePeriod else .expired

def SchoolSubscription.trialEnd (x : SchoolSubscription) : Instant := x.trialEndsAt.getD x.endsAt

def SchoolSubscription.effectiveStatus (x : SchoolSubscription) (now : Instant) :
    SubscriptionStatus :=
  match x.status with
  | .suspended => .suspended
  | .cancelled => .cancelled
  | .expired => .expired
  | .trial => if now < x.trialEnd then .trial else x.afterEnd now
  | .active => if now < x.endsAt then .active else x.afterEnd now
  | .gracePeriod => if now < x.endsAt then .active else x.afterEnd now

def Contracts.ofSchool (s : Contracts) (school : ℕ) : List (ℕ × SchoolSubscription) :=
  s.subscriptions.filter fun p => p.2.school = school

/-- What contracts are ordered by: `starts_at`, `id`. -/
structure StartKey where
  startsAt : Instant
  id : ℕ
  deriving DecidableEq

def StartKey.toProd (k : StartKey) : ℤ ×ₗ ℕ := toLex (k.startsAt, k.id)

theorem StartKey.toProd_injective : Function.Injective StartKey.toProd := by
  rintro ⟨starts, id⟩ ⟨starts', id'⟩ h
  have hpair : (starts, id) = (starts', id') := toLex.injective h
  rw [Prod.mk.injEq] at hpair
  rw [hpair.1, hpair.2]

instance StartKey.linearOrder : LinearOrder StartKey :=
  @LinearOrder.lift' StartKey (ℤ ×ₗ ℕ)
    (@Prod.Lex.instLinearOrder ℤ ℕ Int.instLinearOrder Nat.instLinearOrder)
    StartKey.toProd StartKey.toProd_injective

/-- `live_subscription`: the contract that started last (`-starts_at`, `-id`). -/
def Contracts.liveSubscription (s : Contracts) (school : ℕ) : Option (ℕ × SchoolSubscription) :=
  (s.ofSchool school).argmax fun p => StartKey.mk p.2.startsAt p.1

def Contracts.getSchoolAccessMode (s : Contracts) (school : ℕ) (now : Instant) : AccessMode :=
  (s.liveSubscription school).elim .full fun p => (p.2.effectiveStatus now).accessMode

/-! ## Durations -/

def monthLength (year month : ℕ) : ℕ :=
  if month = 2 then
    if year % 4 = 0 ∧ (year % 100 ≠ 0 ∨ year % 400 = 0) then 29 else 28
  else if month = 4 ∨ month = 6 ∨ month = 9 ∨ month = 11 then 30
  else 31

def daysBeforeYear (year : ℕ) : ℕ :=
  (year - 1) * 365 + (year - 1) / 4 - (year - 1) / 100 + (year - 1) / 400

def daysBeforeMonth (year month : ℕ) : ℕ :=
  ((List.range (month - 1)).map fun m => monthLength year (m + 1)).foldl (fun a b => a + b) 0

def civil (ordinal : Date) : ℕ × ℕ × ℕ :=
  let year := ((List.range' 1 (ordinal / 365 + 1)).filter fun y =>
    daysBeforeYear y < ordinal).length
  let inYear := ordinal - daysBeforeYear year
  let month := ((List.range' 1 12).filter fun m => daysBeforeMonth year m < inYear).length
  (year, month, inYear - daysBeforeMonth year month)

/-- The ordinal of the first of January 1970, where instants are counted from. -/
def epoch : Date := 719163

/-- `start.replace(year=…, month=…, day=…)`. -/
def replaceDate (start : Instant) (year month day : ℕ) : Instant :=
  (daysBeforeYear year + daysBeforeMonth year month + day - epoch : ℤ) * (86400 * 1000000) +
    start % (86400 * 1000000)

def apiError (code message : String) (statusCode : ℕ := 400)
    (details : List (String × Detail) := []) : Failure :=
  .api { code := code, message := message, statusCode := statusCode, details := details }

def lastDay : Date := 3652059

/-- `add_duration`, in UTC; there are no years after 9999. -/
def addDuration (start : Instant) (value : ℤ) (unit : PlanDurationUnit) :
    Except Failure Instant :=
  if value ≤ 0 then
    .error (apiError "INVALID_SUBSCRIPTION_DATE_RANGE" "مدة الباقة يجب أن تكون أكبر من صفر.")
  else match unit with
    | .days =>
      if lastDay < (start + timedelta value) / (86400 * 1000000) + epoch then
        .error (.dataError "day")
      else .ok (start + timedelta value)
    | unit =>
      let months := (if unit = .months then value else value * 12).toNat
      let (y, m, d) := civil (start / (86400 * 1000000) + epoch).toNat
      let monthIndex := y * 12 + (m - 1) + months
      let year := monthIndex / 12
      let month := monthIndex % 12 + 1
      if 9999 < year then .error (.dataError "year")
      else .ok (replaceDate start year month (min d (monthLength year month)))

/-! ## Statements -/

def check (c : Bool) (e : Failure) : ContractTransaction Unit := if c then pure () else .raise e

def orRaise {α : Type} : Except Failure α → ContractTransaction α
  | .ok a => pure a
  | .error e => .raise e

def Contracts.changeSubscription (s : Contracts) (id : ℕ)
    (f : SchoolSubscription → SchoolSubscription) : Contracts :=
  { s with subscriptions := s.subscriptions.adjust id f }

def Contracts.addSubscription (s : Contracts) (id : ℕ) (x : SchoolSubscription) : Contracts :=
  { s with subscriptions := s.subscriptions ++ [(id, x)] }

def Contracts.hasOtherLive (s : Contracts) (school id : ℕ) : Bool :=
  s.subscriptions.any fun p => p.1 ≠ id && p.2.school = school && p.2.status.isLive

def SchoolSubscription.isValid (x : SchoolSubscription) : Bool :=
  x.startsAt < x.endsAt &&
    (x.status ≠ .suspended || x.suspendedAt.isSome && x.suspensionReason ≠ [])

/-- A new version of a contract is checked against the constraints of the table; `wasLive` says
whether the version before it was live. -/
def checkSubscription (id : ℕ) (wasLive : Bool) (x : SchoolSubscription) :
    ContractTransaction Unit := do
  check x.isValid (.integrityError "subscriptions_schoolsubscription")
  Tx.lockRows .update (if wasLive || x.status.isLive then [ContractRow.liveOf x.school] else [])
  let taken ← Tx.select fun s => x.status.isLive && s.hasOtherLive x.school id
  check (!taken) (.integrityError "uniq_live_subscription_per_school")

def saveSubscription (id : ℕ) (f : SchoolSubscription → SchoolSubscription) :
    ContractTransaction Unit := do
  Tx.lockRows .noKeyUpdate [ContractRow.subscription id]
  let found ← Tx.select fun s => s.subscriptions.get? id
  match found with
  | none => .raise (.doesNotExist "SchoolSubscription")
  | some x => do
    checkSubscription id x.status.isLive (f x)
    Tx.update fun s => s.changeSubscription id f

def createSubscription (id : ℕ) (x : SchoolSubscription) : ContractTransaction Unit := do
  Tx.lockRows .update [ContractRow.subscription id]
  let taken ← Tx.select fun s => (s.subscriptions.get? id).isSome
  check (!taken) (.integrityError "subscriptions_schoolsubscription_pkey")
  checkSubscription id false x
  Tx.update fun s => s.addSubscription id x

/-- The events that the operation has recorded refer to the school; the references are checked
before the commit, under a share of the school's row. -/
def recordEvents (school : ℕ) : ContractTransaction Unit :=
  Tx.lockRows .keyShare [ContractRow.school school]

def lockSchool (school : ℕ) : ContractTransaction Unit :=
  Tx.lockRows .update [ContractRow.school school]

/-- The current contract of a school, locked; it is read again once the lock is held. -/
def lockLatest (school : ℕ) : ContractTransaction (Option (ℕ × SchoolSubscription)) :=
  Tx.selectForUpdate
    (fun s => (s.liveSubscription school).toList.map fun p => ContractRow.subscription p.1)
    fun rows s => s.subscriptions.find? fun p => ContractRow.subscription p.1 ∈ rows

def lockedLive (school : ℕ) : ContractTransaction (ℕ × SchoolSubscription) := do
  let found ← lockLatest school
  match found with
  | none => .raise (apiError "SUBSCRIPTION_NOT_FOUND" "لا يوجد اشتراك لهذه المدرسة." 404)
  | some p => pure p

def Contracts.planSnapshot (s : Contracts) (id plan : ℕ) : Dict (ℕ × String) Entitlement :=
  (s.planEntitlements.filter fun p => p.1.1 = plan &&
    !(s.entitlements.any fun e => e.1 = (id, p.1.2) && e.2.isOverride)).map fun p =>
      ((id, p.1.2), { p.2 with isOverride := false })

def copyEntitlements (id plan : ℕ) : ContractTransaction Unit := do
  Tx.update fun s =>
    { s with entitlements := s.entitlements.filter fun p => p.1.1 ≠ id || p.2.isOverride }
  let rows ← Tx.select fun s => s.planSnapshot id plan
  Tx.update fun s => { s with entitlements := s.entitlements ++ rows }

def resolvePlan (plan : ℕ) : ContractTransaction SaaSPlan := do
  let found ← Tx.select fun s => s.plans.get? plan
  match found with
  | none => .raise (apiError "PLAN_NOT_FOUND" "الباقة غير موجودة." 404)
  | some p => do
    check p.isActive (apiError "PLAN_INACTIVE" "الباقة غير متاحة للاشتراك." 409)
    pure p

def Contracts.hasUsedFree (s : Contracts) (school : ℕ) : Bool :=
  s.subscriptions.any fun p => p.2.school = school && p.2.wasFreePlan

def requireFreePlanAvailable (school : ℕ) (plan : SaaSPlan) : ContractTransaction Unit :=
  if plan.priceAmount ≠ 0 then pure ()
  else do
    let used ← Tx.select fun s => s.hasUsedFree school
    check (!used) (apiError "FREE_PLAN_ALREADY_USED"
      "الباقة المجانية متاحة لمرة واحدة فقط لكل مدرسة، وقد استخدمتها هذه المدرسة سابقًا." 409)

def closeSubscription (clock : ContractClock) (id : ℕ) : ContractTransaction Unit :=
  saveSubscription id fun row => { row with status := .expired, updatedAt := clock.savedAt }

/-- `_require_no_live_subscription`: a contract that has run out by its dates is closed. -/
def requireNoLiveSubscription (clock : ContractClock) (school : ℕ) : ContractTransaction Unit := do
  let existing ← Tx.select fun s => s.liveSubscription school
  match existing with
  | none => pure ()
  | some (id, x) => do
    check (!(x.effectiveStatus clock.checkedAt).isLive)
      (apiError "SUBSCRIPTION_ALREADY_ACTIVE" "للمدرسة اشتراك فعّال بالفعل." 409
        [("subscription_id", .number id)])
    if x.status.isLive then closeSubscription clock id else pure ()

/-! ## Operations -/

def SaaSPlan.trial (plan : SaaSPlan) (clock : ContractClock) (school planId : ℕ) (days : ℤ) :
    SchoolSubscription where
  school := school
  plan := planId
  status := .trial
  startsAt := clock.now
  endsAt := clock.now + timedelta days
  trialStartedAt := some clock.now
  trialEndsAt := some (clock.now + timedelta days)
  durationValue := plan.durationValue
  durationUnit := plan.durationUnit
  wasFreePlan := plan.priceAmount = 0
  updatedAt := clock.savedAt

def subscriptionConflict : Failure :=
  apiError "SUBSCRIPTION_CONFLICT" "تعذر إنشاء الاشتراك — حاول مجددًا." 409

/-- Integrity errors are answered by another error. -/
def orConflict {α : Type} : ContractTransaction α → ContractTransaction α
  | .ret a => .ret a
  | .raise (.integrityError _) => .raise subscriptionConflict
  | .raise e => .raise e
  | .query q k => .query q fun b => orConflict (k b)
  | .lock rows k => .lock rows (orConflict k)
  | .write f k => .write f (orConflict k)

def startTrial (clock : ContractClock) (school planId : ℕ) (trialDays : Option ℤ) (newId : ℕ) :
    ContractTransaction (ℕ × SchoolSubscription) := do
  let plan ← resolvePlan planId
  lockSchool school
  requireNoLiveSubscription clock school
  requireFreePlanAvailable school plan
  let days := trialDays.getD plan.trialDaysDefault
  check (0 < days) (apiError "VALIDATION_ERROR" "مدة التجربة يجب أن تكون أكبر من صفر.")
  let created := plan.trial clock school planId days
  orConflict (createSubscription newId created)
  copyEntitlements newId planId
  recordEvents school
  pure (newId, created)

def SchoolSubscription.extendTrial (x : SchoolSubscription) (clock : ContractClock) (extraDays : ℤ)
    (row : SchoolSubscription) : SchoolSubscription :=
  { row with
    trialEndsAt := some (x.trialEnd + timedelta extraDays)
    endsAt := x.trialEnd + timedelta extraDays
    updatedAt := clock.savedAt }

def extendTrial (clock : ContractClock) (school : ℕ) (extraDays : ℤ) :
    ContractTransaction (ℕ × SchoolSubscription) := do
  let (id, x) ← lockedLive school
  check (x.status = .trial) (apiError "TRIAL_EXPIRED" "لا توجد فترة تجريبية جارية للتمديد." 409)
  check (0 < extraDays) (apiError "VALIDATION_ERROR" "مدة التمديد يجب أن تكون أكبر من صفر.")
  saveSubscription id (x.extendTrial clock extraDays)
  recordEvents school
  pure (id, x.extendTrial clock extraDays x)

def SaaSPlan.contract (plan : SaaSPlan) (clock : ContractClock) (school planId : ℕ)
    (durationValue : ℤ) (durationUnit : PlanDurationUnit) (ends : Instant) :
    SchoolSubscription where
  school := school
  plan := planId
  status := .active
  startsAt := clock.now
  endsAt := ends
  durationValue := durationValue
  durationUnit := durationUnit
  wasFreePlan := plan.priceAmount = 0
  updatedAt := clock.savedAt

structure ContractDuration where
  months : Option ℤ := none
  value : Option ℤ := none
  unit : Option PlanDurationUnit := none
  deriving DecidableEq

/-- The contract that an activation replaces is closed, unless it is in force. -/
def replaceCurrent (clock : ContractClock) :
    Option (ℕ × SchoolSubscription) → ContractTransaction Unit
  | none => pure ()
  | some (id, x) =>
    if !x.status.isLive then pure ()
    else do
      check (x.effectiveStatus clock.now ≠ .active)
        (apiError "SUBSCRIPTION_ALREADY_ACTIVE" "الاشتراك مفعّل بالفعل." 409)
      closeSubscription clock id

def activate (clock : ContractClock) (school planId : ℕ) (duration : ContractDuration)
    (newId : ℕ) : ContractTransaction (ℕ × SchoolSubscription) := do
  let plan ← resolvePlan planId
  lockSchool school
  requireFreePlanAvailable school plan
  let current ← lockLatest school
  let value := duration.months.getD (duration.value.getD plan.durationValue)
  let unit := if duration.months.isSome then .months else duration.unit.getD plan.durationUnit
  let ends ← orRaise (addDuration clock.now value unit)
  replaceCurrent clock current
  let created := plan.contract clock school planId value unit ends
  createSubscription newId created
  copyEntitlements newId planId
  recordEvents school
  pure (newId, created)

def invalidPlanChange (message : String) : Failure := apiError "INVALID_PLAN_CHANGE" message 409

def SchoolSubscription.changePlan (x : SchoolSubscription) (clock : ContractClock) (planId : ℕ)
    (plan : SaaSPlan) (row : SchoolSubscription) : SchoolSubscription :=
  { row with
    plan := planId
    wasFreePlan := x.wasFreePlan || plan.priceAmount = 0
    updatedAt := clock.savedAt }

def changePlan (clock : ContractClock) (school planId : ℕ) :
    ContractTransaction (ℕ × SchoolSubscription) := do
  let plan ← resolvePlan planId
  let (id, x) ← lockedLive school
  check x.status.isLive (invalidPlanChange "لا يمكن تغيير باقة اشتراك غير فعّال.")
  check (x.plan ≠ planId) (invalidPlanChange "الباقة الحالية هي نفسها.")
  requireFreePlanAvailable school plan
  saveSubscription id (x.changePlan clock planId plan)
  copyEntitlements id planId
  recordEvents school
  pure (id, x.changePlan clock planId plan x)

def SchoolSubscription.extend (x : SchoolSubscription) (clock : ContractClock) (extraDays : ℤ)
    (row : SchoolSubscription) : SchoolSubscription :=
  { row with
    endsAt := max x.endsAt clock.now + timedelta extraDays
    status := if x.status = .expired then .active else x.status
    updatedAt := clock.savedAt }

def extend (clock : ContractClock) (school : ℕ) (extraDays : ℤ) :
    ContractTransaction (ℕ × SchoolSubscription) := do
  let (id, x) ← lockedLive school
  check (x.status ≠ .cancelled && x.status ≠ .suspended)
    (invalidPlanChange "لا يمكن تمديد اشتراك ملغى أو موقوف.")
  check (0 < extraDays)
    (apiError "INVALID_SUBSCRIPTION_DATE_RANGE" "مدة التمديد يجب أن تكون موجبة.")
  let price ← Tx.select fun s => (s.plans.get? x.plan).map fun p => p.priceAmount
  check (price ≠ some 0) (apiError "FREE_PLAN_ALREADY_USED"
    "لا يمكن تمديد الباقة المجانية؛ فهي متاحة لمرة واحدة فقط لكل مدرسة." 409)
  saveSubscription id (x.extend clock extraDays)
  recordEvents school
  pure (id, x.extend clock extraDays x)

def SchoolSubscription.suspend (clock : ContractClock) (reason : Text)
    (row : SchoolSubscription) : SchoolSubscription :=
  { row with
    status := .suspended
    suspendedAt := some clock.now
    suspensionReason := (Text.strip reason).take 300
    updatedAt := clock.savedAt }

def suspend (clock : ContractClock) (school : ℕ) (reason : Text) :
    ContractTransaction (ℕ × SchoolSubscription) := do
  check (Text.strip reason ≠ []) (apiError "VALIDATION_ERROR" "سبب الإيقاف مطلوب.")
  let (id, x) ← lockedLive school
  check (x.status ≠ .suspended) (apiError "SUBSCRIPTION_CONFLICT" "الاشتراك موقوف بالفعل." 409)
  saveSubscription id (SchoolSubscription.suspend clock reason)
  recordEvents school
  pure (id, SchoolSubscription.suspend clock reason x)

def SchoolSubscription.reactivate (x : SchoolSubscription) (clock : ContractClock)
    (row : SchoolSubscription) : SchoolSubscription :=
  { row with
    status := if clock.now < x.endsAt then .active else .expired
    suspendedAt := none
    suspensionReason := []
    updatedAt := clock.savedAt }

def reactivate (clock : ContractClock) (school : ℕ) :
    ContractTransaction (ℕ × SchoolSubscription) := do
  let (id, x) ← lockedLive school
  check (x.status = .suspended) (apiError "SUBSCRIPTION_CONFLICT" "الاشتراك ليس موقوفًا." 409)
  saveSubscription id (x.reactivate clock)
  recordEvents school
  pure (id, x.reactivate clock x)

def SchoolSubscription.cancel (clock : ContractClock) (reason : Text)
    (row : SchoolSubscription) : SchoolSubscription :=
  { row with
    status := .cancelled
    cancelledAt := some clock.now
    cancelReason := (Text.strip reason).take 300
    updatedAt := clock.savedAt }

def cancel (clock : ContractClock) (school : ℕ) (reason : Text) :
    ContractTransaction (ℕ × SchoolSubscription) := do
  check (Text.strip reason ≠ []) (apiError "VALIDATION_ERROR" "سبب الإلغاء مطلوب.")
  let (id, x) ← lockedLive school
  check (x.status ≠ .cancelled) (apiError "SUBSCRIPTION_CANCELLED" "الاشتراك ملغى بالفعل." 409)
  saveSubscription id (SchoolSubscription.cancel clock reason)
  recordEvents school
  pure (id, SchoolSubscription.cancel clock reason x)

def setEntitlementOverride (clock : ContractClock) (school : ℕ) (key : String)
    (numericValue : Option ℤ) (isEnabled : Bool) : ContractTransaction Unit := do
  let (id, _) ← lockedLive school
  let row : Entitlement :=
    { numericValue := numericValue, isEnabled := isEnabled, isOverride := true }
  Tx.update fun s => { s with entitlements := s.entitlements.insert (id, key) row }
  saveSubscription id fun row => { row with updatedAt := clock.savedAt }
  recordEvents school

/-- `UPDATE` of one row by the task, in a transaction of its own. -/
def saveStatus (id : ℕ) (status : SubscriptionStatus) (savedAt : Instant) :
    ContractTransaction Unit :=
  saveSubscription id fun row => { row with status := status, updatedAt := savedAt }

def Contracts.outdated (s : Contracts) (now : Instant) : List (ℕ × SubscriptionStatus) :=
  (s.subscriptions.filter fun p => p.2.status.isLive && p.2.effectiveStatus now ≠ p.2.status).map
    fun p => (p.1, p.2.effectiveStatus now)

/-- `sync_expirations`: the live rows are read at once, and those whose status has changed by the
dates are written one after another. It returns how many have expired and how many have entered
their grace period. -/
def syncExpirations (now : Instant) (savedAt : ℕ → Instant) : ContractProgram (ℕ × ℕ) := do
  let changes ← Program.read fun s => s.outdated now
  Program.forEach (fun p => Program.transaction (saveStatus p.1 p.2 (savedAt p.1))) changes
  pure (changes.countP fun p => p.2 = .expired, changes.countP fun p => p.2 = .gracePeriod)

/-- The operations of the platform on the contracts of a school, and the periodic task. -/
inductive ContractCall
  | startTrial (clock : ContractClock) (school planId : ℕ) (trialDays : Option ℤ) (newId : ℕ)
  | extendTrial (clock : ContractClock) (school : ℕ) (extraDays : ℤ)
  | activate (clock : ContractClock) (school planId : ℕ) (duration : ContractDuration)
      (newId : ℕ)
  | changePlan (clock : ContractClock) (school planId : ℕ)
  | extend (clock : ContractClock) (school : ℕ) (extraDays : ℤ)
  | suspend (clock : ContractClock) (school : ℕ) (reason : Text)
  | reactivate (clock : ContractClock) (school : ℕ)
  | cancel (clock : ContractClock) (school : ℕ) (reason : Text)
  | setEntitlementOverride (clock : ContractClock) (school : ℕ) (key : String)
      (numericValue : Option ℤ) (isEnabled : Bool)
  | syncExpirations (now : Instant) (savedAt : ℕ → Instant)

def commit {α : Type} (t : ContractTransaction α) : ContractProgram Unit :=
  Program.transaction (t.bind fun _ => .ret ())

def ContractCall.program : ContractCall → ContractProgram Unit
  | .startTrial clock school planId trialDays newId =>
    commit (Subscriptions.startTrial clock school planId trialDays newId)
  | .extendTrial clock school extraDays => commit (Subscriptions.extendTrial clock school extraDays)
  | .activate clock school planId duration newId =>
    commit (Subscriptions.activate clock school planId duration newId)
  | .changePlan clock school planId => commit (Subscriptions.changePlan clock school planId)
  | .extend clock school extraDays => commit (Subscriptions.extend clock school extraDays)
  | .suspend clock school reason => commit (Subscriptions.suspend clock school reason)
  | .reactivate clock school => commit (Subscriptions.reactivate clock school)
  | .cancel clock school reason => commit (Subscriptions.cancel clock school reason)
  | .setEntitlementOverride clock school key numericValue isEnabled =>
    commit (Subscriptions.setEntitlementOverride clock school key numericValue isEnabled)
  | .syncExpirations now savedAt =>
    (Subscriptions.syncExpirations now savedAt).bind fun _ => .ret ()

def Contracts.handle (s : Contracts) (call : ContractCall) : Contracts := (call.program.run s).2

end SchoolPlatform.Subscriptions
