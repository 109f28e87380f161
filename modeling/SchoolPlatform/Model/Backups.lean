import SchoolPlatform.Library.Procedures
import SchoolPlatform.Model.Records

/-!
# Database backups

A dump is written to a staging directory, recorded with its checksum, uploaded to the repository
and verified there, and only then is the run marked as succeeded. A run that failed at the upload is
retried from its staged files. Files, repository and database have no transaction in common: each
step that touches one of them may fail, and a call is given with the outcomes of its steps.
-/

namespace SchoolPlatform.Operations

/-! ## Files and runs -/

/-- The contents of a file: any bytes, or the text of a manifest, as what it says. The checksum in a
manifest stands for the content that it is the checksum of. -/
inductive FileContent
  | data (bytes : List UInt8)
  | manifest (createdAt : Instant) (environment databaseId filename : String)
      (sha256 : FileContent) (sizeBytes : ℕ)
  deriving DecidableEq

def sha256File (content : FileContent) : Digest FileContent := ⟨content⟩

def FileContent.size : FileContent → ℕ
  | .data bytes => bytes.length
  | .manifest _ _ _ _ _ sizeBytes => sizeBytes

inductive BackupStatus
  | running | succeeded | failed
  deriving DecidableEq

/-- `storage_reference`: empty, `local:` and a file name, or a key of the repository. -/
inductive StorageReference
  | empty
  | staged (name : String)
  | remote (key : String)
  deriving DecidableEq

/-- A row; the checksum is empty until a dump is recorded, and of the metadata the name of the
manifest is kept. -/
structure BackupRun where
  status : BackupStatus := .running
  startedAt : Instant
  finishedAt : Option Instant := none
  sizeBytes : ℕ := 0
  checksum : Option (Digest FileContent) := none
  storageReference : StorageReference := .empty
  errorCode : String := ""
  durationMs : ℕ := 0
  manifestName : Option String := none
  deriving DecidableEq

/-- The staging directory, the repository and the row of the run, with two variables of a call that
its handlers read: the object of the run, and the key that the dump was stored under. -/
structure BackupWorld where
  files : Dict String FileContent := []
  remote : Dict String FileContent := []
  row : Option BackupRun := none
  object : BackupRun := { startedAt := 0 }
  storedDumpKey : String := ""
  deriving DecidableEq

/-- An error of the module with its code, or another exception. -/
inductive BackupFailure
  | backup (code message : String)
  | other
  deriving DecidableEq

abbrev BackupProcedure (α : Type) := Procedure BackupWorld BackupFailure α

/-- `getattr(exc, "code", "PG_DUMP_FAILED")`. -/
def BackupFailure.code : BackupFailure → String
  | .backup code _ => code
  | .other => "PG_DUMP_FAILED"

def backupUploadError (message : String) : BackupFailure := .backup "UPLOAD_FAILED" message

/-- A step on files or on the database that raises no error of the module. -/
def tryStep (o : Outcome) (f : BackupWorld → BackupWorld) : BackupProcedure Unit :=
  Procedure.step o .other f

def BackupWorld.putFile (w : BackupWorld) (name : String) (c : FileContent) : BackupWorld :=
  { w with files := Dict.insert w.files name c }

def BackupWorld.removeFile (w : BackupWorld) (name : String) : BackupWorld :=
  { w with files := w.files.filter fun p => p.1 ≠ name }

def BackupWorld.putRemote (w : BackupWorld) (key : String) (c : FileContent) : BackupWorld :=
  { w with remote := Dict.insert w.remote key c }

def BackupWorld.removeRemote (w : BackupWorld) (key : String) : BackupWorld :=
  { w with remote := w.remote.filter fun p => p.1 ≠ key }

def readFile (o : Outcome) (name : String) : BackupProcedure FileContent := do
  tryStep o fun w => w
  let found ← Procedure.read fun w => w.files.get? name
  Procedure.need found .other

def openRemote (o : Outcome) (key : String) : BackupProcedure FileContent := do
  tryStep o fun w => w
  let found ← Procedure.read fun w => w.remote.get? key
  Procedure.need found .other

/-! ## The upload -/

/-- How `storage.save` ends: with the key it has stored something under, or with an error and
whatever it has left in the repository. -/
inductive SaveOutcome
  | stored (key : String) (content : FileContent)
  | failed (remote : Dict String FileContent)

def saveRemote : SaveOutcome → BackupProcedure String
  | .stored key content => do
    Procedure.modify fun w => w.putRemote key content
    pure key
  | .failed remote => do
    Procedure.modify fun w => { w with remote := remote }
    Procedure.raise .other

structure MatchOutcomes where
  openDump : Outcome := .done
  readDump : Outcome := .done
  openManifest : Outcome := .done
  readManifest : Outcome := .done

structure UploadOutcomes where
  existsDump : Outcome := .done
  existsManifest : Outcome := .done
  before : MatchOutcomes := {}
  deleteDump : Outcome := .done
  deleteManifest : Outcome := .done
  openDump : Outcome := .done
  saveDump : SaveOutcome
  openManifest : Outcome := .done
  saveManifest : SaveOutcome
  after : MatchOutcomes := {}
  cleanDump : Outcome := .done
  cleanStored : Outcome := .done
  cleanManifest : Outcome := .done

def uploadedBackupMatches (o : MatchOutcomes) (dumpKey manifestKey dumpName manifestName : String) :
    BackupProcedure Bool := do
  let uploaded ← openRemote o.openDump dumpKey
  let dump ← readFile o.readDump dumpName
  if sha256File uploaded ≠ sha256File dump then pure false
  else do
    let uploadedManifest ← openRemote o.openManifest manifestKey
    let manifest ← readFile o.readManifest manifestName
    pure (decide (uploadedManifest = manifest))

structure BackupNames where
  dump : String
  manifest : String
  dumpKey : String
  manifestKey : String
  deriving DecidableEq

def uploadFiles (o : UploadOutcomes) (n : BackupNames) : BackupProcedure String := do
  tryStep o.existsDump fun w => w
  let dumpExists ← Procedure.read fun w => (w.remote.get? n.dumpKey).isSome
  tryStep o.existsManifest fun w => w
  let manifestExists ← Procedure.read fun w => (w.remote.get? n.manifestKey).isSome
  let adopted ← (if dumpExists && manifestExists then
    uploadedBackupMatches o.before n.dumpKey n.manifestKey n.dump n.manifest else pure false)
  if adopted then pure n.dumpKey
  else do
    tryStep (if dumpExists || manifestExists then o.deleteDump else .done) fun w =>
      if dumpExists || manifestExists then w.removeRemote n.dumpKey else w
    tryStep (if dumpExists || manifestExists then o.deleteManifest else .done) fun w =>
      if dumpExists || manifestExists then w.removeRemote n.manifestKey else w
    tryStep o.openDump fun w => w
    let stored ← saveRemote o.saveDump
    Procedure.modify fun w => { w with storedDumpKey := stored }
    tryStep o.openManifest fun w => w
    let _ ← saveRemote o.saveManifest
    let verified ← uploadedBackupMatches o.after stored n.manifestKey n.dump n.manifest
    if verified then pure stored
    else Procedure.raise (backupUploadError "uploaded backup failed read-back verification")

/-- What is left of an upload that failed is deleted, if that does not fail as well. -/
def cleanUpload (o : UploadOutcomes) (n : BackupNames) : BackupProcedure Unit := do
  tryStep o.cleanDump fun w => w.removeRemote n.dumpKey
  let stored ← Procedure.read fun w => w.storedDumpKey
  tryStep (if stored ≠ n.dumpKey then o.cleanStored else .done) fun w =>
    if stored ≠ n.dumpKey then w.removeRemote stored else w
  tryStep o.cleanManifest fun w => w.removeRemote n.manifestKey

/-- `_upload_backup`: the key that the dump is stored under. -/
def uploadBackup (o : UploadOutcomes) (n : BackupNames) : BackupProcedure String := do
  Procedure.modify fun w => { w with storedDumpKey := n.dumpKey }
  (uploadFiles o n).attempt fun _ => do
    (cleanUpload o n).attempt fun _ => pure ()
    Procedure.raise (backupUploadError "backup repository upload failed")

/-- `_discard_staging`: a file that cannot be removed stays. -/
def discardFile (o : Outcome) (name : String) : BackupProcedure Unit :=
  (tryStep o fun w => w.removeFile name).attempt fun _ => pure ()

def discardStaging (dump manifest : Outcome) (n : BackupNames) : BackupProcedure Unit := do
  discardFile dump n.dump
  discardFile manifest n.manifest

/-! ## Creating a backup -/

/-- The settings, and the texts that are made of a start time: `%Y%m%dT%H%M%S%fZ` and `%Y/%m`. -/
structure BackupSite where
  environment : String
  databaseId : String
  remoteEnabled : Bool
  requireRemote : Bool
  timestamp : Instant → String
  month : Instant → String

def BackupSite.stem (site : BackupSite) (startedAt : Instant) : String :=
  site.timestamp startedAt ++ "_" ++ site.environment ++ "_" ++ site.databaseId

def BackupSite.partialName (site : BackupSite) (startedAt : Instant) : String :=
  site.stem startedAt ++ ".dump.partial"

def BackupSite.keys (site : BackupSite) (startedAt : Instant) (dump manifest : String) :
    BackupNames where
  dump := dump
  manifest := manifest
  dumpKey := "database/" ++ site.month startedAt ++ "/" ++ dump
  manifestKey := "database/" ++ site.month startedAt ++ "/" ++ manifest

def BackupSite.names (site : BackupSite) (startedAt : Instant) : BackupNames :=
  site.keys startedAt (site.stem startedAt ++ ".dump") (site.stem startedAt ++ ".json")

/-- The advisory lock is taken, held by another backup, or cannot be asked for. -/
inductive LockOutcome
  | taken | busy | failed
  deriving DecidableEq

/-- `pg_dump` writes a dump, or fails and leaves something or nothing. -/
inductive DumpOutcome
  | written (bytes : List UInt8)
  | failed (leftover : Option FileContent)

inductive WriteOutcome
  | written
  | failed (leftover : Option FileContent)

structure CreateOutcomes where
  createRow : Outcome := .done
  makeRoot : Outcome := .done
  lock : LockOutcome := .taken
  dump : DumpOutcome
  rename : Outcome := .done
  checksum : Outcome := .done
  size : Outcome := .done
  writeManifest : WriteOutcome := .written
  saveRecord : Outcome := .done
  upload : UploadOutcomes
  saveStatus : Outcome := .done
  discardDump : Outcome := .done
  discardManifest : Outcome := .done
  unlock : Outcome := .done
  removePartial : Outcome := .done
  saveFailure : Outcome := .done

structure BackupClock where
  startedAt : Instant
  finishedAt : Instant
  failedAt : Instant
  dumpedMs : ℕ
  finishedMs : ℕ
  failedMs : ℕ
  deriving DecidableEq

def acquireLock : LockOutcome → BackupProcedure Unit
  | .taken => pure ()
  | .busy => Procedure.raise
      (.backup "BACKUP_ALREADY_RUNNING" "another full database backup is already running")
  | .failed => Procedure.raise .other

def runPgDump (partialName : String) : DumpOutcome → BackupProcedure Unit
  | .written bytes => Procedure.modify fun w => w.putFile partialName (.data bytes)
  | .failed leftover => do
    Procedure.modify fun w => leftover.elim w fun c => w.putFile partialName c
    Procedure.raise (.backup "PG_DUMP_FAILED" "PostgreSQL dump command failed")

def writeFile (name : String) (c : FileContent) : WriteOutcome → BackupProcedure Unit
  | .written => Procedure.modify fun w => w.putFile name c
  | .failed leftover => do
    Procedure.modify fun w => leftover.elim w fun c => w.putFile name c
    Procedure.raise .other

def BackupWorld.setObject (w : BackupWorld) (f : BackupRun → BackupRun) : BackupWorld :=
  { w with object := f w.object }

def BackupWorld.saveObject (w : BackupWorld) : BackupWorld := { w with row := some w.object }

/-- `run.save` of what was recorded of a dump. -/
def BackupWorld.saveRecord (w : BackupWorld) : BackupWorld :=
  { w with row := w.row.map fun r =>
      { r with
        sizeBytes := w.object.sizeBytes
        checksum := w.object.checksum
        durationMs := w.object.durationMs
        manifestName := w.object.manifestName } }

def recordDump (site : BackupSite) (clock : BackupClock) (o : CreateOutcomes) :
    BackupProcedure Unit := do
  let partialName := site.partialName clock.startedAt
  let n := site.names clock.startedAt
  runPgDump partialName o.dump
  let dumped ← Procedure.read fun w => w.files.get? partialName
  let content ← Procedure.need dumped .other
  tryStep o.rename fun w => (w.removeFile partialName).putFile n.dump content
  let read ← readFile o.checksum n.dump
  tryStep o.size fun w => w
  writeFile n.manifest (.manifest clock.startedAt site.environment site.databaseId n.dump read
    read.size) o.writeManifest
  Procedure.modify fun w => w.setObject fun r =>
    { r with
      sizeBytes := read.size
      checksum := some (sha256File read)
      durationMs := clock.dumpedMs
      manifestName := some n.manifest }
  tryStep o.saveRecord BackupWorld.saveRecord

def placeDump (site : BackupSite) (localOnly : Bool) (o : UploadOutcomes) (n : BackupNames) :
    BackupProcedure StorageReference :=
  if site.requireRemote && localOnly then
    Procedure.raise (backupUploadError "local-only backups are forbidden by this environment")
  else if site.remoteEnabled && !localOnly then do
    let key ← uploadBackup o n
    pure (.remote key)
  else if site.requireRemote then
    Procedure.raise (backupUploadError "remote backup repository is required")
  else pure (.staged n.dump)

/-- The part of `create_database_backup` under the lock. -/
def dumpAndUpload (site : BackupSite) (localOnly : Bool) (clock : BackupClock)
    (o : CreateOutcomes) : BackupProcedure BackupRun := do
  let n := site.names clock.startedAt
  recordDump site clock o
  let reference ← placeDump site localOnly o.upload n
  Procedure.modify fun w => w.setObject fun r =>
    { r with
      status := .succeeded
      finishedAt := some clock.finishedAt
      storageReference := reference
      durationMs := clock.finishedMs }
  tryStep o.saveStatus BackupWorld.saveObject
  (if site.remoteEnabled && !localOnly then discardStaging o.discardDump o.discardManifest n
    else pure ())
  Procedure.read fun w => w.object

/-- The handler: the run is marked as failed, and the error goes on. -/
def recordFailure (site : BackupSite) (clock : BackupClock) (o : CreateOutcomes)
    (e : BackupFailure) : BackupProcedure BackupRun := do
  tryStep o.removePartial fun w => w.removeFile (site.partialName clock.startedAt)
  Procedure.modify fun w => w.setObject fun r =>
    { r with
      status := .failed
      finishedAt := some clock.failedAt
      durationMs := clock.failedMs
      errorCode := e.code }
  tryStep o.saveFailure BackupWorld.saveObject
  Procedure.raise e

def createDatabaseBackup (site : BackupSite) (localOnly : Bool) (clock : BackupClock)
    (o : CreateOutcomes) : BackupProcedure BackupRun := do
  tryStep o.createRow fun w =>
    { w with
      row := some { startedAt := clock.startedAt }
      object := { startedAt := clock.startedAt } }
  tryStep o.makeRoot fun w => w
  Procedure.attempt
    (do
      acquireLock o.lock
      (dumpAndUpload site localOnly clock o).andFinally (tryStep o.unlock fun w => w))
    (recordFailure site clock o)

/-! ## Retrying the upload -/

structure RetryOutcomes where
  begin_ : Outcome := .done
  lock : Outcome := .done
  readRow : Outcome := .done
  findManifest : Outcome := .done
  readManifest : Outcome := .done
  findDump : Outcome := .done
  checksum : Outcome := .done
  upload : UploadOutcomes
  saveStatus : Outcome := .done
  discardDump : Outcome := .done
  discardManifest : Outcome := .done
  commit : Outcome := .done

/-- `json.loads` of a manifest, and the file name in it. -/
def FileContent.filename : FileContent → Option String
  | .data _ => none
  | .manifest _ _ _ filename _ _ => some filename

def verifyChecksum (o : Outcome) (name : String) (expected : Option (Digest FileContent)) :
    BackupProcedure Unit := do
  let dump ← readFile o name
  if expected = some (sha256File dump) then pure ()
  else Procedure.raise (.backup "CHECKSUM_MISMATCH" "backup checksum mismatch")

/-- The body of the transaction of `retry_backup_upload`. -/
def retryUpload (site : BackupSite) (finishedAt : Instant) (o : RetryOutcomes) :
    BackupProcedure BackupRun := do
  tryStep o.begin_ fun w => w
  tryStep o.lock fun w => w
  tryStep o.readRow fun w => w
  let row ← Procedure.read fun w => w.row
  let run ← Procedure.need row .other
  if run.status = .succeeded then pure run
  else if run.status ≠ .failed || run.errorCode ≠ "UPLOAD_FAILED" then
    Procedure.raise (backupUploadError "only failed repository uploads can be retried")
  else do
    tryStep o.findManifest fun w => w
    let found ← Procedure.read fun w => run.manifestName.bind fun name =>
      (w.files.get? name).map fun _ => name
    let manifestName ← Procedure.need found
      (backupUploadError "backup manifest is unavailable for retry")
    let manifest ← readFile o.readManifest manifestName
    let dumpName ← Procedure.need manifest.filename .other
    tryStep o.findDump fun w => w
    let dump ← Procedure.read fun w => (w.files.get? dumpName).isSome
    if !dump then Procedure.raise (backupUploadError "backup dump is unavailable for retry")
    else do
      verifyChecksum o.checksum dumpName run.checksum
      let key ← uploadBackup o.upload (site.keys run.startedAt dumpName manifestName)
      let finished := { run with
        status := .succeeded
        finishedAt := some finishedAt
        storageReference := .remote key
        errorCode := "" }
      tryStep o.saveStatus fun w => { w with row := some finished }
      discardStaging o.discardDump o.discardManifest
        (site.keys run.startedAt dumpName manifestName)
      pure finished

/-- `retry_backup_upload`: the row is the only thing that its transaction takes back. -/
def retryBackupUpload (site : BackupSite) (finishedAt : Instant) (o : RetryOutcomes) :
    BackupProcedure BackupRun :=
  Procedure.transaction (fun before after => { after with row := before.row }) o.commit .other
    (retryUpload site finishedAt o)

structure RetryCall where
  finishedAt : Instant
  outcomes : RetryOutcomes

def afterRetries (site : BackupSite) (w : BackupWorld) (retries : List RetryCall) : BackupWorld :=
  retries.foldl (fun w call => (retryBackupUpload site call.finishedAt call.outcomes w).2) w

end SchoolPlatform.Operations
