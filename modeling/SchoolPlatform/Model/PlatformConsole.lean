import SchoolPlatform.Model.StaffOffice
import SchoolPlatform.Model.Subscriptions
import SchoolPlatform.Library.Sql

/-!
# The console of the platform

The platform lists its schools with the status of the current contract, computed by the query, and
with what they use of their limits. The limits are enforced from the same tables by functions of
their own.
-/

namespace SchoolPlatform.Subscriptions

/-- The columns of the current contract that a school is annotated with. -/
structure PlatformSchool where
  subscriptionId : Option ℕ
  storedStatus : Option SubscriptionStatus
  endsAt : Option Instant
  trialEndsAt : Option Instant
  graceEndsAt : Option Instant
  deriving DecidableEq

/-- `_latest_subscription_annotations`: each column is that of the contract which started last. -/
def Contracts.platformSchool (s : Contracts) (school : ℕ) : PlatformSchool :=
  let latest := s.liveSubscription school
  { subscriptionId := latest.map fun p => p.1
    storedStatus := latest.map fun p => p.2.status
    endsAt := latest.map fun p => p.2.endsAt
    trialEndsAt := latest.bind fun p => p.2.trialEndsAt
    graceEndsAt := latest.bind fun p => p.2.graceEndsAt }

def PlatformSchool.effectiveStatus (c : PlatformSchool) (now : Instant) :
    Option SubscriptionStatus :=
  Sql.caseWhen
    [(Sql.eq c.storedStatus .suspended, some .suspended),
      (Sql.eq c.storedStatus .cancelled, some .cancelled),
      (Sql.eq c.storedStatus .expired, some .expired),
      (Sql.and (Sql.eq c.storedStatus .trial)
        (Sql.or (Sql.gt c.trialEndsAt (some now))
          (Sql.and (Sql.isNull c.trialEndsAt) (Sql.gt c.endsAt (some now)))), some .trial),
      (Sql.and (Sql.isIn c.storedStatus [.active, .gracePeriod]) (Sql.gt c.endsAt (some now)),
        some .active),
      (Sql.gt c.graceEndsAt (some now), some .gracePeriod),
      (some c.storedStatus.isSome, some .expired)]
    none

def PlatformSchool.accessEndsAt (c : PlatformSchool) (now : Instant) : Option Instant :=
  Sql.caseWhen [(Sql.eq (c.effectiveStatus now) .gracePeriod, c.graceEndsAt)] c.endsAt

def expiringSoonDays : ℤ := 30

/-- The clock when the list is annotated, and twice when it is filtered. -/
structure ConsoleClock where
  annotatedAt : Instant
  now : Instant
  soonFrom : Instant
  deriving DecidableEq

def ConsoleClock.soon (clock : ConsoleClock) : Instant := clock.soonFrom + timedelta expiringSoonDays

def PlatformSchool.expiresSoon (c : PlatformSchool) (clock : ConsoleClock) : Bool :=
  Sql.holds (Sql.and
    (Sql.isIn (c.effectiveStatus clock.annotatedAt) [.trial, .active, .gracePeriod])
    (Sql.and (Sql.ge (c.accessEndsAt clock.annotatedAt) (some clock.now))
      (Sql.le (c.accessEndsAt clock.annotatedAt) (some clock.soon))))

/-- A student, a membership or a device of a school, with what decides whether it counts. -/
structure Tenant (ν : Type) where
  school : ℕ
  state : ν
  deriving DecidableEq

structure StoredFile where
  school : ℕ
  sizeBytes : ℕ
  deriving DecidableEq

structure PlatformTables where
  contracts : Contracts := {}
  students : List (Tenant StudentStatus) := []
  memberships : List (Tenant MembershipStatus) := []
  /-- Devices, with `is_active`. -/
  devices : List (Tenant Bool) := []
  excuseAttachments : List StoredFile := []
  documents : List StoredFile := []
  parentAttachments : List StoredFile := []
  deriving DecidableEq

inductive LimitKey
  | maxStudents | maxStaff | maxDevices | maxStorageGb
  deriving DecidableEq

def LimitKey.key : LimitKey → String
  | .maxStudents => "MAX_STUDENTS"
  | .maxStaff => "MAX_STAFF"
  | .maxDevices => "MAX_DEVICES"
  | .maxStorageGb => "MAX_STORAGE_GB"

structure UsageEntry where
  used : ℕ
  limit : Option ℤ
  overLimit : Bool
  remaining : Option ℤ
  deriving DecidableEq

/-- What is used of all limits; the limit of the storage is also given in gigabytes. -/
structure Usage where
  students : UsageEntry
  staff : UsageEntry
  devices : UsageEntry
  storage : UsageEntry
  storageLimitGb : Option ℤ
  deriving DecidableEq

def countRows {ν : Type} [DecidableEq ν] (rows : List (Tenant ν)) (school : ℕ) (state : ν) : ℕ :=
  rows.countP fun r => r.school = school && r.state = state

def countActiveStudents (d : PlatformTables) (school : ℕ) : ℕ := countRows d.students school .active

def countActiveStaff (d : PlatformTables) (school : ℕ) : ℕ :=
  countRows d.memberships school .active

def countActiveDevices (d : PlatformTables) (school : ℕ) : ℕ := countRows d.devices school true

/-- `SUM(size_bytes)` over the files of a school, which is null where there are none. -/
def sumSizes (files : List StoredFile) (school : ℕ) : Option ℕ :=
  let sizes := (files.filter fun f => f.school = school).map fun f => f.sizeBytes
  if sizes.isEmpty then none else some (sizes.foldl (fun a b => a + b) 0)

def storageUsedBytes (d : PlatformTables) (school : ℕ) : ℕ :=
  let attachments := (sumSizes d.excuseAttachments school).getD 0
  let documents := (sumSizes d.documents school).getD 0
  let parentAttachments := (sumSizes d.parentAttachments school).getD 0
  attachments + documents + parentAttachments

def Contracts.entitlementRows (s : Contracts) (id : ℕ) : List (String × Entitlement) :=
  (s.entitlements.filter fun p => p.1.1 = id).map fun p => (p.1.2, p.2)

/-- `get_school_entitlements`, as the tables have it. -/
def Contracts.getSchoolEntitlements (s : Contracts) (school : ℕ) : Dict String Entitlement :=
  (s.liveSubscription school).elim [] fun p => Dict.ofList (s.entitlementRows p.1)

def Contracts.getLimit (s : Contracts) (school : ℕ) (key : LimitKey) : Option ℤ :=
  ((s.getSchoolEntitlements school).get? key.key).bind fun e => e.numericValue

/-- `1024**3`. -/
def bytesPerGb : ℤ := 1024 * 1024 * 1024

def entry (used : ℕ) (limit : Option ℤ) : UsageEntry where
  used := used
  limit := limit
  overLimit := limit.any fun l => l < (used : ℤ)
  remaining := limit.map fun l => max (l - used) 0

def getSchoolUsage (d : PlatformTables) (school : ℕ) : Usage :=
  let limit := d.contracts.getLimit school
  { students := entry (countActiveStudents d school) (limit .maxStudents)
    staff := entry (countActiveStaff d school) (limit .maxStaff)
    devices := entry (countActiveDevices d school) (limit .maxDevices)
    storage := entry (storageUsedBytes d school)
      ((limit .maxStorageGb).map fun gb => gb * bytesPerGb)
    storageLimitGb := limit .maxStorageGb }

/-- The refusal of an addition that goes beyond a limit, with status 409. -/
structure LimitExceeded where
  code : String
  message : String
  limit : ℤ
  current : ℤ
  requested : ℤ
  deriving DecidableEq

def LimitKey.error : LimitKey → String × String
  | .maxStudents => ("STUDENT_LIMIT_EXCEEDED", "عدد الطلاب")
  | .maxStaff => ("STAFF_LIMIT_EXCEEDED", "عدد الموظفين")
  | .maxDevices => ("DEVICE_LIMIT_EXCEEDED", "عدد الأجهزة")
  | .maxStorageGb => ("STORAGE_LIMIT_EXCEEDED", "سعة التخزين")

def requireCapacity (d : PlatformTables) (school : ℕ) (key : LimitKey) (current adding : ℤ) :
    Except LimitExceeded Unit :=
  match d.contracts.getLimit school key with
  | none => .ok ()
  | some limit =>
    if current + adding ≤ limit then .ok ()
    else .error
      { code := key.error.1
        message := "تجاوز " ++ key.error.2 ++ " حد الباقة (" ++ toString (current + adding) ++
          " من " ++ toString limit ++ "). يرجى ترقية الباقة."
        limit := limit
        current := current
        requested := adding }

def requireStorageCapacity (d : PlatformTables) (school : ℕ) (addingBytes : ℤ) :
    Except LimitExceeded Unit :=
  match d.contracts.getLimit school .maxStorageGb with
  | none => .ok ()
  | some limitGb =>
    let current : ℤ := storageUsedBytes d school
    if current + addingBytes ≤ limitGb * bytesPerGb then .ok ()
    else .error
      { code := "STORAGE_LIMIT_EXCEEDED"
        message := "تجاوزت ملفات المدرسة حد التخزين في الباقة. يرجى ترقية الباقة."
        limit := limitGb * bytesPerGb
        current := current
        requested := addingBytes }

/-- `_count_for_school`: a count by school, where no row is no group. -/
def countForSchool {ν : Type} [DecidableEq ν] (rows : List (Tenant ν)) (school : ℕ) (state : ν) :
    ℕ :=
  let group := rows.filter fun r => r.school = school && r.state = state
  Sql.coalesce (if group.isEmpty then none else some group.length) 0

def sumForSchool (files : List StoredFile) (school : ℕ) : ℕ :=
  Sql.coalesce (sumSizes files school) 0

/-- `_entitlement_limit`, of the contract that the school is annotated with. -/
def Contracts.entitlementLimit (s : Contracts) (school : ℕ) (key : LimitKey) : Option ℤ :=
  (s.platformSchool school).subscriptionId.bind fun id =>
    ((s.entitlements.filter fun p => p.1.1 = id && p.1.2 = key.key).head?).bind fun p =>
      p.2.numericValue

/-- The figures that a school is annotated with. -/
structure PlatformUsage where
  activeStudents : ℕ
  activeStaff : ℕ
  activeDevices : ℕ
  attachmentBytes : ℕ
  documentBytes : ℕ
  maxStudents : Option ℤ
  maxStaff : Option ℤ
  maxDevices : Option ℤ
  maxStorageGb : Option ℤ
  deriving DecidableEq

def platformUsage (d : PlatformTables) (school : ℕ) : PlatformUsage where
  activeStudents := countForSchool d.students school .active
  activeStaff := countForSchool d.memberships school .active
  activeDevices := countForSchool d.devices school true
  attachmentBytes := sumForSchool d.excuseAttachments school
  documentBytes := sumForSchool d.documents school
  maxStudents := d.contracts.entitlementLimit school .maxStudents
  maxStaff := d.contracts.entitlementLimit school .maxStaff
  maxDevices := d.contracts.entitlementLimit school .maxDevices
  maxStorageGb := d.contracts.entitlementLimit school .maxStorageGb

def usageEntry (used : ℕ) (limit : Option ℤ) : UsageEntry where
  used := used
  limit := limit
  overLimit := limit.any fun l => l < (used : ℤ)
  remaining := limit.map fun l => max (l - used) 0

/-- A limit in `_school_row`, from the entitlements of the current contract. -/
def Contracts.rowLimit (s : Contracts) (school : ℕ) (key : LimitKey) : Option ℤ :=
  let entitlements : Dict String (Option ℤ) := (s.liveSubscription school).elim [] fun p =>
    Dict.ofList ((s.entitlementRows p.1).map fun e => (e.1, e.2.numericValue))
  (entitlements.get? key.key).bind fun v => v

def schoolRowUsage (d : PlatformTables) (school : ℕ) : Usage :=
  let u := platformUsage d school
  let limit := d.contracts.rowLimit school
  { students := usageEntry u.activeStudents (limit .maxStudents)
    staff := usageEntry u.activeStaff (limit .maxStaff)
    devices := usageEntry u.activeDevices (limit .maxDevices)
    storage := usageEntry (u.attachmentBytes + u.documentBytes)
      ((limit .maxStorageGb).map fun gb => gb * bytesPerGb)
    storageLimitGb := limit .maxStorageGb }

def PlatformUsage.isOverLimit (u : PlatformUsage) : Bool :=
  let storageBytes : ℤ := u.attachmentBytes + u.documentBytes
  Sql.holds (Sql.or (Sql.gt (some (u.activeStudents : ℤ)) u.maxStudents)
    (Sql.or (Sql.gt (some (u.activeStaff : ℤ)) u.maxStaff)
      (Sql.or (Sql.gt (some (u.activeDevices : ℤ)) u.maxDevices)
        (Sql.and (some u.maxStorageGb.isSome)
          (Sql.gt (some storageBytes) (u.maxStorageGb.map fun gb => gb * bytesPerGb))))))

end SchoolPlatform.Subscriptions
