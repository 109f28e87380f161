import SchoolPlatform.Model.Ingest
import SchoolPlatform.Library.KeySort
import Mathlib.Data.Char

/-!
# The users of a device

The bridge lists the users of a device, the server compares them with the active students and
plans commands, a manager approves the plan, and the bridge carries the commands out and reports
on each. Every user that the platform creates has an identifier made from its student.
-/

namespace SchoolPlatform.DeviceRoster

open KeySort

structure DeviceUser where
  externalUserId : Text
  displayName : Text
  status : Text := "ACTIVE".toList
  deriving DecidableEq

/-- `_managed_snapshot`; the names of the grade and the section reach no row. -/
structure ManagedSnapshot where
  externalUserId : Text
  displayName : Text
  studentId : ℕ
  deriving DecidableEq

def DeviceUser.named (u : DeviceUser) : Text × Text := (u.externalUserId, u.displayName)

def ManagedSnapshot.named (row : ManagedSnapshot) : Text × Text :=
  (row.externalUserId, row.displayName)

def ineligibleStatuses : List StudentStatus := [.graduated, .transferred, .withdrawn, .inactive]

/-- What a comparison reads: the school, the identities on the device, and what `uuid5` makes of
the name that a student of the school has for it. -/
structure RosterBook where
  registry : Registry
  identities : List StudentDeviceIdentity
  uuid5 : ℕ → Text

section Comparison

variable (b : RosterBook)

def RosterBook.stableExternalUserId (s : Student) : Text := "stu-".toList ++ b.uuid5 s.id

def RosterBook.activeStudentRoster : List ManagedSnapshot :=
  match b.registry.academicYears.find? fun y => y.status = .active with
  | none => []
  | some year =>
    (sortBy Student.id (b.registry.students.filter fun s =>
      s.status = .active ∧ ∃ e ∈ b.registry.enrollments,
        e.student = s.id ∧ e.academicYear = year.id ∧ e.status = .active)).map fun s =>
      { externalUserId := b.stableExternalUserId s
        displayName := s.fullName.toList
        studentId := s.id }

/-- `roster_hash`, of the server and of the bridge alike. -/
def rosterHash (users : List (Text × Text)) : Digest (List (Text × Text)) :=
  ⟨sortBy Prod.fst users⟩

def RosterBook.currentRosterVersion : Digest (List (Text × Text)) :=
  rosterHash (b.activeStudentRoster.map ManagedSnapshot.named)

def normalizeDeviceUsers (deviceUsers : List DeviceUser) : List DeviceUser :=
  (deviceUsers.filter fun u => Text.strip u.externalUserId ≠ []).map fun u =>
    { externalUserId := (Text.strip u.externalUserId).take 64
      displayName := (Text.strip u.displayName).take 150
      status := u.status.take 20 }

def RosterBook.identityById : Dict Text StudentDeviceIdentity :=
  Dict.ofList (b.identities.map fun i => (i.externalUserId, i))

def RosterBook.identityIdByStudent : Dict ℕ Text :=
  Dict.ofList (b.identityById.filterMap fun e =>
    if e.2.status = .matched then e.2.student.map fun s => (s, e.2.externalUserId) else none)

/-- A row of the roster with the identifier of the identity that its student is matched to. -/
def RosterBook.renamed (row : ManagedSnapshot) : ManagedSnapshot :=
  { row with
    externalUserId := ((b.identityIdByStudent.get? row.studentId).filter fun i => i ≠ []).getD
      row.externalUserId }

/-- The rows were filed under the generated identifiers before they were renamed. -/
def RosterBook.desiredById : Dict Text ManagedSnapshot :=
  (Dict.ofList (b.activeStudentRoster.map fun row => (row.externalUserId, row))).mapValues
    fun _ row => b.renamed row

inductive DeviceRosterSyncAction
  | matched | create | update | delete | conflict
  deriving DecidableEq

/-- An item of a plan; an empty snapshot is `none`. -/
structure PlanItem where
  student : Option ℕ
  externalUserId : Text
  action : DeviceRosterSyncAction
  reason : String
  before : Option DeviceUser := none
  after : Option ManagedSnapshot := none
  deriving DecidableEq

/-- The identity is in conflict or not matched. -/
def openIdentity (identity : Option StudentDeviceIdentity) : Bool :=
  identity.any fun i => i.status = .conflict ∨ i.status = .unmatched

/-- The item for the users that the device has under one identifier. -/
def RosterBook.deviceItem (externalId : Text) (users : List DeviceUser) : PlanItem :=
  let identity := b.identityById.get? externalId
  match users with
  | [user] =>
    if openIdentity identity then
      { student := none, externalUserId := externalId, action := .conflict, before := some user
        reason := "duplicate_or_unresolved_device_identity" }
    else
      match b.desiredById.get? externalId with
      | some row =>
        { student := some row.studentId, externalUserId := externalId
          action := if user.displayName = row.displayName then .matched else .update
          reason :=
            if user.displayName = row.displayName then "" else "managed_display_name_differs"
          before := some user, after := some row }
      | none =>
        let gone := (identity.bind fun i => i.student).filter fun id =>
          b.registry.students.any fun s => s.id = id ∧ s.status ∈ ineligibleStatuses
        if gone.isSome then
          { student := gone, externalUserId := externalId, action := .delete
            reason := "student_lifecycle_not_eligible", before := some user }
        else
          { student := none, externalUserId := externalId, action := .conflict
            reason := "unknown_device_user_never_platform_managed", before := some user }
  | _ =>
    { student := none, externalUserId := externalId, action := .conflict, before := users.head?
      reason := "duplicate_or_unresolved_device_identity" }

/-- The item for a student that the device does not have. -/
def RosterBook.createItem (desiredId : Text) (row : ManagedSnapshot) : PlanItem :=
  let externalId := (b.identityById.get? desiredId).elim desiredId fun i => i.externalUserId
  { student := some row.studentId, externalUserId := externalId, action := .create
    reason := "active_student_missing_from_device"
    after := some { row with externalUserId := externalId } }

def RosterBook.compareDeviceRoster (deviceUsers : List DeviceUser) : List PlanItem :=
  let byExternalId := Dict.groupBy DeviceUser.externalUserId (normalizeDeviceUsers deviceUsers)
  (byExternalId.map fun e => b.deviceItem e.1 e.2) ++
    (b.desiredById.filter fun e => !byExternalId.keys.contains e.1).map fun e =>
      b.createItem e.1 e.2

def actionCount (items : List PlanItem) (action : DeviceRosterSyncAction) : ℕ :=
  items.countP fun item => item.action = action

end Comparison

inductive DeviceRosterSyncItemStatus
  | pending | running | succeeded | failedRetryable | failedFinal | skipped
  deriving DecidableEq

inductive DeviceRosterSyncStatus
  | analyzing | readyForReview | approved | running | completed | partiallyFailed | failed
  | cancelled | stale
  deriving DecidableEq

structure DeviceRosterSyncItem where
  plan : PlanItem
  status : DeviceRosterSyncItemStatus
  commandId : Text := []
  deriving DecidableEq

structure DeviceRosterSyncJob where
  status : DeviceRosterSyncStatus := .analyzing
  rosterVersion : Option (Digest (List (Text × Text))) := none
  deviceRosterVersion : Option (Digest (List (Text × Text))) := none
  items : List DeviceRosterSyncItem := []
  deriving DecidableEq

section Jobs

variable (b : RosterBook) (job : DeviceRosterSyncJob)

def saveAnalysis (deviceUsers : List DeviceUser) : DeviceRosterSyncJob where
  status := .readyForReview
  rosterVersion := some (rosterHash
    (b.activeStudentRoster.map fun row => (b.renamed row).named))
  deviceRosterVersion := some (rosterHash ((normalizeDeviceUsers deviceUsers).map DeviceUser.named))
  items := (b.compareDeviceRoster deviceUsers).map fun item =>
    ⟨item, if item.action = .matched ∨ item.action = .conflict then .skipped else .pending, []⟩

/-- `approve_job` and what its view makes of its errors; `uuid4` gives the item at each place a
new identifier. -/
def approveJob (hasFeature : Bool) (uuid4 : ℕ → Text) : DeviceRosterSyncJob × Option ApiError :=
  if !hasFeature then (job, some (featureNotIncluded "BIOMETRIC_DEVICES" "أجهزة البصمة"))
  else if job.status ≠ .readyForReview then
    (job, some
      { code := "DEVICE_ROSTER_SYNC_NOT_READY", message := "المزامنة ليست جاهزة للاعتماد."
        statusCode := 409 })
  else if some b.currentRosterVersion ≠ job.rosterVersion then
    ({ job with status := .stale }, some
      { code := "DEVICE_ROSTER_PREVIEW_STALE"
        message := "تغيرت بيانات الطلاب منذ إنشاء المعاينة. أعد الفحص.", statusCode := 409 })
  else
    ({ job with
        status := if job.items.any fun i => i.status = .pending then .approved else .running
        items := job.items.mapIdx fun n i =>
          if i.plan.action ∉ [.matched, .conflict] ∧ i.status = .pending ∧ i.commandId = [] then
            { i with commandId := uuid4 n }
          else i }, none)

/-- `BridgeRosterReadView`, on the users and the version of a valid request. -/
def bridgeRosterRead (users : List DeviceUser) (version : Option (Digest (List (Text × Text)))) :
    DeviceRosterSyncJob × Option Failure :=
  match job.status with
  | .approved =>
    if version ≠ job.deviceRosterVersion then
      ({ job with status := .stale }, some (.api
        { code := "DEVICE_ROSTER_PREVIEW_STALE"
          message := "تغيرت قائمة مستخدمي الجهاز منذ إنشاء المعاينة. أعد الفحص."
          statusCode := 409 }))
    else ({ job with status := .running }, none)
  | .running =>
    let plan := b.compareDeviceRoster users
    if [DeviceRosterSyncAction.create, .update, .delete, .conflict].all fun action =>
        actionCount plan action = 0 then
      ({ job with status := .completed }, none)
    else (job, none)
  | .analyzing => (saveAnalysis b users, none)
  | _ => (job, some (.doesNotExist "DeviceRosterSyncJob"))

/-- The commands of a heartbeat, of a hundred items at most. -/
def DeviceRosterSyncJob.pendingCommands : List ℕ :=
  ((List.range job.items.length).filter fun n => (job.items[n]?).any fun i =>
    i.plan.action ∉ [.matched, .conflict] ∧ i.status = .pending).take 100

/-- `_bridge_device_configs`, of one job of the device: who is handed out is marked. -/
def bridgeDeviceConfigs : DeviceRosterSyncJob × List ℕ :=
  if job.status ≠ .running then (job, [])
  else
    ({ job with
        items := job.items.mapIdx fun n i =>
          if job.pendingCommands.contains n then { i with status := .running } else i },
      job.pendingCommands)

/-- The results that a bridge may report. -/
def resultChoices : List DeviceRosterSyncItemStatus := [.succeeded, .failedRetryable, .failedFinal]

/-- The status of a job after a result. -/
def statusWith (items : List DeviceRosterSyncItem) : DeviceRosterSyncStatus :=
  if items.any fun i => i.status = .pending ∨ i.status = .running then .running
  else if items.any fun i => i.status = .failedFinal ∨ i.status = .failedRetryable then
    .partiallyFailed
  else .running

/-- `BridgeRosterCommandResultView`; the identity that a success matches is left out. -/
def bridgeRosterCommandResult (n : ℕ) (commandId : Text) (result : DeviceRosterSyncItemStatus) :
    DeviceRosterSyncJob × Option Failure :=
  if job.status ≠ .approved ∧ job.status ≠ .running then
    (job, some (.doesNotExist "DeviceRosterSyncJob"))
  else
    match (job.items[n]?).filter fun i => i.commandId = commandId with
    | none => (job, some (.doesNotExist "DeviceRosterSyncItem"))
    | some item =>
      if item.status = .succeeded ∨ item.status = .failedFinal then (job, none)
      else
        let items := job.items.set n { item with status := result }
        ({ job with items := items, status := statusWith items }, none)

/-- `DeviceRosterRetryView`. -/
def deviceRosterRetry : DeviceRosterSyncJob × Option ApiError :=
  if job.status ≠ .partiallyFailed then
    (job, some
      { code := "DEVICE_ROSTER_SYNC_NOT_RETRYABLE"
        message := "لا توجد عناصر فاشلة قابلة للإعادة.", statusCode := 409 })
  else
    ({ job with
        status := .approved
        items := job.items.map fun i =>
          if i.status = .failedRetryable then { i with status := .pending } else i }, none)

inductive JobRequest
  | approve (b : RosterBook) (hasFeature : Bool) (uuid4 : ℕ → Text)
  | read (b : RosterBook) (users : List DeviceUser)
      (version : Option (Digest (List (Text × Text))))
  | heartbeat
  | result (n : ℕ) (commandId : Text) (result : { r // r ∈ resultChoices })
  | retry

/-- The job after a request, and the commands that were handed out. -/
def answer : JobRequest → DeviceRosterSyncJob × List ℕ
  | .approve b hasFeature uuid4 => ((approveJob b job hasFeature uuid4).1, [])
  | .read b users version => ((bridgeRosterRead b job users version).1, [])
  | .heartbeat => bridgeDeviceConfigs job
  | .result n commandId r => ((bridgeRosterCommandResult job n commandId r).1, [])
  | .retry => ((deviceRosterRetry job).1, [])

def JobRequest.isRetry : JobRequest → Bool
  | .retry => true
  | _ => false

def JobRequest.reports (n : ℕ) : JobRequest → Bool
  | .result m _ _ => m = n
  | _ => false

end Jobs

def handle (job : DeviceRosterSyncJob) : List JobRequest → DeviceRosterSyncJob × List ℕ
  | [] => (job, [])
  | r :: rs =>
    let rest := handle (answer job r).1 rs
    (rest.1, (answer job r).2 ++ rest.2)

/-! ## Commands -/

section Simulator

variable (id name : Text)

def createUser (users : List DeviceUser) : List DeviceUser :=
  if users.any fun u => u.externalUserId = id then users
  else users ++ [{ externalUserId := id, displayName := name }]

/-- The first user of the identifier is renamed, or a user is created. -/
def updateUser : List DeviceUser → List DeviceUser
  | [] => createUser id name []
  | u :: users =>
    if u.externalUserId = id then { u with displayName := name } :: users
    else u :: updateUser users

def deleteUser (users : List DeviceUser) : List DeviceUser :=
  users.filter fun u => u.externalUserId ≠ id

end Simulator

def PlanItem.displayName (item : PlanItem) : Text := item.after.elim [] fun row => row.displayName

def runCommand (users : List DeviceUser) (item : PlanItem) : List DeviceUser :=
  match item.action with
  | .create => createUser item.externalUserId item.displayName users
  | .update => updateUser item.externalUserId item.displayName users
  | .delete => deleteUser item.externalUserId users
  | .matched | .conflict => users

/-- `ZKTecoLanConnector._validate_external_user_id`. -/
def validateExternalUserId (externalUserId : Text) : Option Text :=
  let value := Text.strip externalUserId
  if value = [] ∨ 9 < value.length ∨ !value.all Text.isDecimal then none else some value

structure CommandResult where
  result : DeviceRosterSyncItemStatus
  errorCode : String := ""
  deriving DecidableEq

/-- A command on a ZKTeco device: `connected` is what happens once the device is connected. A
connector that raises is a failure to be tried again. -/
def zkCommand {σ : Type} (connected : σ → Text → PlanItem → σ × CommandResult) (device : σ)
    (item : PlanItem) : σ × CommandResult :=
  match validateExternalUserId item.externalUserId with
  | none =>
    (device, { result := .failedRetryable, errorCode := "DEVICE_COMMAND_EXECUTION_FAILED" })
  | some userId => connected device userId item

end SchoolPlatform.DeviceRoster
