import SchoolPlatform.Model.Wire

/-!
# Scans and morning arrivals

A batch of device events is deduplicated, stored, and turned into arrivals: one row for each
student and local day, with the earliest scan of the day. A scan of a user who is not matched to a
student yet waits in the table of events until the user is mapped.

The statements run outside of a transaction except where the program opens one, so a batch is a
sequence of separately committed steps.
-/

namespace SchoolPlatform

open ReadCommitted

/-- `str` of a date and time in the zone of the server: at least the 25 characters of
`2026-08-19 07:01:00+03:00`, none of them a bar, and different for different instants. -/
structure DateTimeStr where
  str : Instant → Text
  injective : Function.Injective str
  bar_not_mem : ∀ t, '|' ∉ str t
  length_le : ∀ t, 25 ≤ (str t).length

/-- The key of an event: `ext:` and its identifier, or `fp:` and the hash of its fields. -/
inductive DedupeKey
  | ext (id : Text)
  | fp (digest : Digest Text)
  deriving DecidableEq

def fingerprintPayload (clock : DateTimeStr) (event : EventData) : Text :=
  List.intercalate ['|'] [event.externalUserId, clock.str event.occurredAt, event.eventType]

/-- `_dedupe_key(event)[:128]`: only the form with an identifier can be that long. -/
def dedupeKey (clock : DateTimeStr) (event : EventData) : DedupeKey :=
  let externalId := Text.strip event.externalEventId
  if externalId ≠ [] then .ext (externalId.take 124)
  else .fp ⟨fingerprintPayload clock event⟩

/-! ## Tables -/

/-- The wall clock of the zone of the school, in microseconds since the day of ordinal 0. -/
structure Zone where
  wall : Instant → ℤ

def microsPerDay : ℤ := 86400 * 1000000

def Zone.date (zone : Zone) (t : Instant) : Date := (zone.wall t / microsPerDay).toNat

structure MorningSettings where
  zone : Zone
  schoolDayStartTime : TimeOfDay
  morningLateGraceMinutes : ℕ

structure AttendanceDevice where
  id : ℤ
  isActive : Bool
  deriving DecidableEq

inductive IdentityStatus
  | matched | unmatched | conflict | ignored
  deriving DecidableEq

structure StudentDeviceIdentity where
  device : ℤ
  externalUserId : Text
  displayName : Text := []
  student : Option ℕ := none
  status : IdentityStatus := .unmatched
  deriving DecidableEq

inductive EventProcessingStatus
  | processed | unmatched | ignored
  deriving DecidableEq

structure DeviceEvent where
  device : ℤ
  externalEventId : Text
  dedupeKey : DedupeKey
  externalUserId : Text
  occurredAt : Instant
  verificationMethod : VerificationMethod
  eventType : Text
  student : Option ℕ
  processingStatus : EventProcessingStatus
  deriving DecidableEq

inductive ArrivalStatus
  | onTime | late
  deriving DecidableEq

inductive ArrivalSource
  | biometric | manual
  deriving DecidableEq

structure Lateness where
  rawLateMinutes : ℕ
  countedLateMinutes : ℕ
  status : ArrivalStatus
  deriving DecidableEq

structure SchoolArrival where
  student : ℕ
  attendanceDate : Date
  firstArrivalAt : Instant
  lateness : Lateness
  source : ArrivalSource
  deviceEvent : Option (ℤ × DedupeKey)
  deriving DecidableEq

structure DeviceStore where
  settings : MorningSettings
  students : List Student := []
  devices : List AttendanceDevice := []
  identities : List StudentDeviceIdentity := []
  events : List DeviceEvent := []
  arrivals : List SchoolArrival := []

/-- What a lock can be held on: the entry of a unique index that an `INSERT` takes, or a row. -/
inductive DeviceRow
  | eventKey (device : ℤ) (key : DedupeKey)
  | eventRow (device : ℤ) (key : DedupeKey)
  | identityKey (device : ℤ) (user : Text)
  | identityRow (device : ℤ) (user : Text)
  | arrivalKey (student : ℕ) (date : Date)
  | arrivalRow (student : ℕ) (date : Date)
  deriving DecidableEq

abbrev DeviceTransaction (α : Type) := Tx DeviceStore DeviceRow Failure α

abbrev DeviceOperation (α : Type) := Program DeviceStore DeviceRow Failure α

namespace DeviceStore

def event? (s : DeviceStore) (device : ℤ) (key : DedupeKey) : Option DeviceEvent :=
  s.events.find? fun e => e.device = device ∧ e.dedupeKey = key

def identity? (s : DeviceStore) (device : ℤ) (user : Text) : Option StudentDeviceIdentity :=
  s.identities.find? fun i => i.device = device ∧ i.externalUserId = user

def arrival? (s : DeviceStore) (student : ℕ) (date : Date) : Option SchoolArrival :=
  s.arrivals.find? fun a => a.student = student ∧ a.attendanceDate = date

def student? (s : DeviceStore) (id : ℕ) : Option Student := s.students.find? fun x => x.id = id

def addEvents (s : DeviceStore) (rows : List DeviceEvent) : DeviceStore :=
  { s with events := s.events ++ rows }

/-- `UPDATE` of the processing status and the student of an event. -/
def setEvent (s : DeviceStore) (device : ℤ) (key : DedupeKey) (status : EventProcessingStatus)
    (student : ℕ) : DeviceStore :=
  { s with events := s.events.map fun e =>
      if e.device = device ∧ e.dedupeKey = key then
        { e with processingStatus := status, student := some student } else e }

def addIdentity (s : DeviceStore) (identity : StudentDeviceIdentity) : DeviceStore :=
  if (s.identity? identity.device identity.externalUserId).isSome then s
  else { s with identities := s.identities ++ [identity] }

/-- `UPDATE` of the student and the status of an identity. -/
def setIdentity (s : DeviceStore) (identity : StudentDeviceIdentity) : DeviceStore :=
  { s with identities := s.identities.map fun i =>
      if i.device = identity.device ∧ i.externalUserId = identity.externalUserId then identity
      else i }

def addArrival (s : DeviceStore) (arrival : SchoolArrival) : DeviceStore :=
  if (s.arrival? arrival.student arrival.attendanceDate).isSome then s
  else { s with arrivals := s.arrivals ++ [arrival] }

def setArrival (s : DeviceStore) (arrival : SchoolArrival) : DeviceStore :=
  { s with arrivals := s.arrivals.map fun a =>
      if a.student = arrival.student ∧ a.attendanceDate = arrival.attendanceDate then arrival
      else a }

end DeviceStore

/-! ## Arrivals -/

/-- `compute_lateness`. Both times carry the zone of the school, so they are compared and
subtracted on its wall clock. -/
def computeLateness (settings : MorningSettings) (arrivalAt : Instant) (attendanceDate : Date) :
    Lateness :=
  let start : ℤ := attendanceDate * microsPerDay + settings.schoolDayStartTime * 1000000
  let arrival := settings.zone.wall arrivalAt
  let grace := settings.morningLateGraceMinutes
  let raw := (max ((arrival - start) / 60000000) 0).toNat
  let onTime := arrival ≤ start + grace * 60000000
  { rawLateMinutes := raw
    countedLateMinutes := if onTime then 0 else raw - grace
    status := if onTime then .onTime else .late }

/-- A scan of a student, with the event that is its source. -/
structure ArrivalItem where
  student : ℕ
  occurredAt : Instant
  event : ℤ × DedupeKey
  deriving DecidableEq

def ArrivalItem.date (item : ArrivalItem) (settings : MorningSettings) : Date :=
  settings.zone.date item.occurredAt

def ArrivalItem.arrival (item : ArrivalItem) (settings : MorningSettings) : SchoolArrival where
  student := item.student
  attendanceDate := item.date settings
  firstArrivalAt := item.occurredAt
  lateness := computeLateness settings item.occurredAt (item.date settings)
  source := .biometric
  deviceEvent := some item.event

/-- The earliest scan of each student and day; of simultaneous ones the first. -/
def earliestItems (settings : MorningSettings) (items : List ArrivalItem) :
    Dict (ℕ × Date) ArrivalItem :=
  items.foldl (fun earliest item =>
    let key := (item.student, item.date settings)
    match Dict.get? earliest key with
    | none => Dict.insert earliest key item
    | some current =>
      if item.occurredAt < current.occurredAt then Dict.insert earliest key item else earliest) []

/-- The arrivals among those of some students and dates, as `SELECT … FOR UPDATE` finds them. -/
def DeviceStore.arrivalKeys (s : DeviceStore) (students : List ℕ) (dates : List Date) :
    List (ℕ × Date) :=
  (s.arrivals.filter fun a => a.attendanceDate ∈ dates ∧ a.student ∈ students).map
    fun a => (a.student, a.attendanceDate)

def DeviceStore.lockedArrivals (keys : List (ℕ × Date)) (s : DeviceStore) : List SchoolArrival :=
  keys.filterMap fun k => s.arrival? k.1 k.2

/-- One entry of the loop over the earliest scans: an earlier scan corrects the arrival that is
there, and a scan without an arrival is left for the insertion. -/
def correctArrival (settings : MorningSettings) (existing : List SchoolArrival)
    (entry : (ℕ × Date) × ArrivalItem) : DeviceTransaction Unit :=
  match existing.find? fun a => (a.student, a.attendanceDate) = entry.1 with
  | none => .ret ()
  | some arrival =>
    if entry.2.occurredAt < arrival.firstArrivalAt then
      Tx.update fun s => s.setArrival (entry.2.arrival settings)
    else .ret ()

/-- One row of the insertion that ignores conflicts: the entry of the unique index is taken,
which waits for whoever is inserting it, and a row that is there stays. -/
def insertArrivalIgnoring (arrival : SchoolArrival) : DeviceTransaction Unit := do
  Tx.lockRows .update [.arrivalKey arrival.student arrival.attendanceDate]
  Tx.update fun s => s.addArrival arrival

/-- The transaction of `apply_arrival_events_bulk`, once the existing arrivals are found. -/
def applyEarliest (settings : MorningSettings) (earliest : Dict (ℕ × Date) ArrivalItem)
    (found : List (ℕ × Date)) : DeviceTransaction Unit := do
  Tx.lockRows .update (found.map fun k => DeviceRow.arrivalRow k.1 k.2)
  let existing ← Tx.select (DeviceStore.lockedArrivals found)
  Tx.forEach (correctArrival settings existing) earliest
  Tx.forEach (fun entry => insertArrivalIgnoring (entry.2.arrival settings))
    (earliest.filter fun entry => entry.1 ∉ existing.map fun a => (a.student, a.attendanceDate))

def applyArrivalEventsBulk (items : List ArrivalItem) : DeviceOperation Unit :=
  if items = [] then .ret ()
  else do
    let settings ← Program.read fun s => s.settings
    let earliest := earliestItems settings items
    Program.transaction do
      let found ← Tx.select fun s => s.arrivalKeys (earliest.map fun e => e.1.1)
        (earliest.map fun e => e.1.2)
      applyEarliest settings earliest found

/-- The transaction of `apply_arrival_event`, once the arrival of the day has been looked for. A
creation that meets a row aborts the transaction, and the statement after it fails. -/
def applyItem (settings : MorningSettings) (item : ArrivalItem) (found : List (ℕ × Date)) :
    DeviceTransaction Unit := do
  Tx.lockRows .update (found.map fun k => DeviceRow.arrivalRow k.1 k.2)
  let existing ← Tx.select (DeviceStore.lockedArrivals found)
  match existing with
  | arrival :: _ =>
    if item.occurredAt < arrival.firstArrivalAt then
      Tx.update fun s => s.setArrival (item.arrival settings)
    else .ret ()
  | [] => do
    Tx.lockRows .update [.arrivalKey item.student (item.date settings)]
    let taken ← Tx.select fun s => (s.arrival? item.student (item.date settings)).isSome
    if taken then .raise .transactionAborted
    else Tx.update fun s => s.addArrival (item.arrival settings)

def applyArrivalEvent (item : ArrivalItem) : DeviceOperation Unit := do
  let settings ← Program.read fun s => s.settings
  Program.transaction do
    let found ← Tx.select fun s => s.arrivalKeys [item.student] [item.date settings]
    applyItem settings item found

/-! ## A batch -/

def maxBatchSize : ℕ := 1000

/-- The tolerance for the clock of a device: ten minutes. -/
def futureSkew : Instant := 600000000

inductive InvalidReason
  | unknownDevice | missingFields | futureTimestamp
  deriving DecidableEq

inductive IngestResult
  | accepted
  | duplicate
  | unmatched
  | invalid (reason : InvalidReason)
  deriving DecidableEq

inductive Prepared
  | rejected (reason : InvalidReason)
  | event (data : EventData) (key : DedupeKey)
  deriving DecidableEq

def prepare (clock : DateTimeStr) (devices : List ℤ) (now : Instant) (event : EventData) :
    Prepared :=
  if event.deviceId ∉ devices then .rejected .unknownDevice
  else if Text.strip event.externalUserId = [] then .rejected .missingFields
  else if now + futureSkew < event.occurredAt then .rejected .futureTimestamp
  else .event event (dedupeKey clock event)

/-- The device and the key of an event that passed the first checks. -/
def Prepared.key? : Prepared → Option (ℤ × DedupeKey)
  | .rejected _ => none
  | .event data key => some (data.deviceId, key)

def EventData.user (data : EventData) : Text := (Text.strip data.externalUserId).take 64

def Prepared.user? : Prepared → Option (ℤ × Text)
  | .rejected _ => none
  | .event data _ => some (data.deviceId, data.user)

def existingKeys : List (ℤ × List (ℤ × DedupeKey)) → DeviceOperation (List (ℤ × DedupeKey))
  | [] => .ret []
  | (device, keys) :: rest => do
    let known ← Program.read fun s => keys.filter fun k => (s.event? device k.2).isSome
    let others ← existingKeys rest
    pure (known ++ others)

def DeviceStore.identitiesOf (s : DeviceStore) (users : List (ℤ × Text)) :
    List (StudentDeviceIdentity × Option StudentStatus) :=
  (s.identities.filter fun i =>
    i.device ∈ users.map Prod.fst ∧ i.externalUserId ∈ users.map Prod.snd).map fun i =>
      (i, i.student.bind fun id => (s.student? id).map fun x => x.status)

/-- What is to be done about one event of the batch: nothing more, or the insertion of a row. -/
inductive Slot
  | done (result : IngestResult)
  | row (event : DeviceEvent) (result : IngestResult) (discovered : Bool)
  deriving DecidableEq

/-- The row of an event and its result, by the identity of its user; `none` when the identity is
matched to no student. -/
def classifyRow (identities : List (StudentDeviceIdentity × Option StudentStatus))
    (data : EventData) (key : DedupeKey) : Option Slot :=
  let row : DeviceEvent :=
    { device := data.deviceId
      externalEventId := data.externalEventId.take 100
      dedupeKey := key
      externalUserId := data.user
      occurredAt := data.occurredAt
      verificationMethod := data.verificationMethod
      eventType := data.eventType.take 20
      student := none
      processingStatus := .unmatched }
  match identities.find? fun i => i.1.device = data.deviceId ∧ i.1.externalUserId = data.user with
  | none => some (.row row .unmatched true)
  | some (identity, studentStatus) =>
    if identity.status ≠ .matched then some (.row row .unmatched false)
    else
      match identity.student, studentStatus with
      | some student, some status =>
        some (.row
          { row with
            student := some student
            processingStatus := if status ≠ .active then .ignored else .processed }
          .accepted false)
      | _, _ => none

/-- The loop over the batch: what is known, or has been seen before in the batch, is a
duplicate. -/
def classify (existing : List (ℤ × DedupeKey))
    (identities : List (StudentDeviceIdentity × Option StudentStatus)) :
    List (ℤ × DedupeKey) → List Prepared → Option (List Slot)
  | _, [] => some []
  | seen, .rejected reason :: rest => do
    let slots ← classify existing identities seen rest
    pure (.done (.invalid reason) :: slots)
  | seen, .event data key :: rest =>
    if (data.deviceId, key) ∈ existing ∨ (data.deviceId, key) ∈ seen then do
      let slots ← classify existing identities seen rest
      pure (.done .duplicate :: slots)
    else do
      let slot ← classifyRow identities data key
      let slots ← classify existing identities ((data.deviceId, key) :: seen) rest
      pure (slot :: slots)

def Slot.row? : Slot → Option DeviceEvent
  | .done _ => none
  | .row event _ _ => some event

def Slot.result : Slot → IngestResult
  | .done result => result
  | .row _ result _ => result

def Slot.discovered? : Slot → Option (ℤ × Text)
  | .row event _ true => some (event.device, event.externalUserId)
  | _ => none

/-- Take the entries of the unique index for some rows, in order; `false` at the first one that is
taken. -/
def reserveEvents : List DeviceEvent → DeviceTransaction Bool
  | [] => .ret true
  | row :: rows => do
    Tx.lockRows .update [.eventKey row.device row.dedupeKey]
    let taken ← Tx.select fun s => (s.event? row.device row.dedupeKey).isSome
    if taken then pure false else reserveEvents rows

/-- `INSERT` of some events; `false` when the unique index has one of them. -/
def insertEvents (rows : List DeviceEvent) : DeviceTransaction Bool := do
  let free ← reserveEvents rows
  if free then do
    Tx.update fun s => s.addEvents rows
    pure true
  else pure false

/-- The rows one by one, after the insertion of all of them has failed. -/
def insertOneByOne : List Slot → DeviceOperation (List DeviceEvent × List IngestResult)
  | [] => .ret ([], [])
  | .done result :: slots => do
    let (inserted, results) ← insertOneByOne slots
    pure (inserted, result :: results)
  | .row event result _ :: slots => do
    let fresh ← Program.transaction (insertEvents [event])
    let (inserted, results) ← insertOneByOne slots
    if fresh then pure (event :: inserted, result :: results)
    else pure (inserted, .duplicate :: results)

/-- Step (5): all new rows at once, or one by one when that meets a row of somebody else. -/
def storeEvents (slots : List Slot) : DeviceOperation (List DeviceEvent × List IngestResult) :=
  let rows := slots.filterMap Slot.row?
  if rows = [] then .ret ([], slots.map Slot.result)
  else do
    let fresh ← Program.transaction (insertEvents rows)
    if fresh then pure (rows, slots.map Slot.result) else insertOneByOne slots

def DeviceEvent.item? (event : DeviceEvent) : Option ArrivalItem :=
  if event.processingStatus = .processed ∧ event.eventType = checkIn then
    event.student.map fun student =>
      ⟨student, event.occurredAt, (event.device, event.dedupeKey)⟩
  else none

/-- Step (7): identities for the users that nobody knew, in one statement. -/
def discoverIdentities (users : List (ℤ × Text)) : DeviceOperation Unit :=
  if users = [] then .ret ()
  else Program.transaction (Tx.forEach (fun u => do
    Tx.lockRows .update [.identityKey u.1 u.2]
    Tx.update fun s => s.addIdentity { device := u.1, externalUserId := u.2 }) users)

def processSlots (slots : List Slot) : DeviceOperation (List IngestResult) := do
  let (inserted, results) ← storeEvents slots
  applyArrivalEventsBulk (inserted.filterMap DeviceEvent.item?)
  discoverIdentities (slots.filterMap Slot.discovered?).dedup
  pure results

def ingestBatch (clock : DateTimeStr) (now : Instant) (events : List EventData) :
    DeviceOperation (List IngestResult) := do
  let devices ← Program.read fun s => (s.devices.filter fun d => d.isActive).map fun d => d.id
  let prepared := (events.take maxBatchSize).map (prepare clock devices now)
  let existing ← existingKeys (Dict.groupBy Prod.fst (prepared.filterMap Prepared.key?))
  let identities ← Program.read fun s => s.identitiesOf (prepared.filterMap Prepared.user?)
  match classify existing identities [] prepared with
  | none => .raise (.doesNotExist "Student")
  | some slots => processSlots slots

/-- The events of a user that wait for a student, the oldest first. -/
def DeviceStore.waitingEvents (s : DeviceStore) (device : ℤ) (user : Text) : List DeviceEvent :=
  (s.events.filter fun e =>
    e.device = device ∧ e.externalUserId = user ∧ e.processingStatus = .unmatched).insertionSort
      fun a b => a.occurredAt ≤ b.occurredAt

def saveEvent (event : DeviceEvent) (status : EventProcessingStatus) (student : ℕ) :
    DeviceOperation Unit :=
  Program.transaction do
    Tx.lockRows .noKeyUpdate [.eventRow event.device event.dedupeKey]
    Tx.update fun s => s.setEvent event.device event.dedupeKey status student

def reprocessEvent (student : Student) (event : DeviceEvent) : DeviceOperation Unit :=
  if student.status ≠ .active then saveEvent event .ignored student.id
  else do
    saveEvent event .processed student.id
    if event.eventType = checkIn then
      applyArrivalEvent ⟨student.id, event.occurredAt, (event.device, event.dedupeKey)⟩
    else pure ()

/-- `reprocess_unmatched`, for an identity whose student has been loaded. -/
def reprocessUnmatched (identity : StudentDeviceIdentity) (student : Student) :
    DeviceOperation ℕ :=
  if identity.status ≠ .matched ∨ identity.student = none then .ret 0
  else do
    let events ← Program.read fun s => s.waitingEvents identity.device identity.externalUserId
    Program.forEach (reprocessEvent student) events
    pure events.length

/-- `IdentityMapView.post`: the user of a device is matched to a student, and its waiting events
are processed. -/
def mapIdentity (device : ℤ) (user : Text) (studentId : ℕ) : DeviceOperation ℕ := do
  let found ← Program.read fun s => s.identity? device user
  match found with
  | none => .raise (.doesNotExist "StudentDeviceIdentity")
  | some identity => do
    let student ← Program.read fun s => s.student? studentId
    match student with
    | none => .raise (.doesNotExist "Student")
    | some student => do
      let mapped := { identity with student := some student.id, status := .matched }
      Program.transaction do
        Tx.lockRows .noKeyUpdate [.identityRow device user]
        Tx.update fun s => s.setIdentity mapped
      reprocessUnmatched mapped student

end SchoolPlatform
