import SchoolPlatform.Model.Warnings

/-!
# Generated documents

A document's row is inserted first; then the snapshot is rendered and the file stored, outside of
that transaction; then the row becomes ready, or failed. A failed document is rendered again from
its snapshot. The storage takes no part in transactions: a file that has been saved stays when the
transaction is rolled back.
-/

namespace SchoolPlatform

open ReadCommitted

/-- What becomes of a snapshot when it is rendered. -/
inductive Rendering
  | pdf (bytes : Bytes)
  | engineUnavailable
  | exception
  deriving DecidableEq

/-- What a call meets outside of the database: whether a render slot is free, what the engine makes
of a snapshot, the time, and which writes fail. -/
structure RenderWorld where
  slotFree : Bool := true
  render : String → Rendering
  now : Instant
  fails : DocumentWrite → Bool := fun _ => false

/-- A request for a document; the snapshot is what `build_snapshot` has read. -/
structure DocumentRequest where
  membership : ℕ
  student : ℕ
  documentType : DocumentType
  warning : Option ℕ := none
  snapshot : Except ApiError String

def WarningLevel.documentType : WarningLevel → DocumentType
  | .level1 => .warningLevel1
  | .level2 => .warningLevel2
  | .level3 => .warningLevel3

def DocumentType.isWarning (t : DocumentType) : Bool :=
  t ∈ [.warningLevel1, .warningLevel2, .warningLevel3]

def MIME_PDF : String := "application/pdf"

def pdfGenerationBusy : OfficeFailure :=
  officeError "PDF_GENERATION_BUSY"
    "خدمة إنشاء المستندات مشغولة حالياً، حاول مرة أخرى بعد قليل." 429

def documentNotFound : OfficeFailure :=
  officeError "DOCUMENT_NOT_FOUND" "المستند غير موجود." 404

def warningVoidedError : OfficeFailure :=
  officeError "VALIDATION_ERROR" "لا يمكن إصدار مستند لإنذار ملغى." 409

/-- A document that holds the place of its warning, type and revision. -/
def GeneratedDocument.isLive (d : GeneratedDocument) : Bool :=
  d.status = .pending ∨ d.status = .ready

/-- Another live document has the place of this one (`uniq_live_warning_document`). -/
def WarningOffice.placeTaken (s : WarningOffice) (id : Option ℕ) (d : GeneratedDocument) : Bool :=
  d.warning.isSome && (List.range s.documents.length).any fun i =>
    some i ≠ id ∧ (s.documents[i]?).any fun x => x.isLive ∧ x.warning = d.warning ∧
      x.documentType = d.documentType ∧ x.revision = d.revision

def WarningOffice.storageUsedBytes (s : WarningOffice) : ℕ :=
  s.documents.foldl (fun total d => total + d.sizeBytes) s.otherStorageBytes

def WarningOffice.storageLimitExceeded (s : WarningOffice) (addingBytes : ℕ) :
    Option OfficeFailure :=
  s.maxStorageBytes.bind fun limit =>
    if s.storageUsedBytes + addingBytes ≤ limit then none
    else some (officeError "STORAGE_LIMIT_EXCEEDED"
      "تجاوزت ملفات المدرسة حد التخزين في الباقة. يرجى ترقية الباقة." 409
      [("limit_bytes", .number limit), ("current_bytes", .number s.storageUsedBytes),
        ("requested_bytes", .number addingBytes)])

def WarningOffice.addDocument (s : WarningOffice) (d : GeneratedDocument) : WarningOffice :=
  { s with documents := s.documents ++ [d] }

def WarningOffice.storeFile (s : WarningOffice) (bytes : Bytes) : WarningOffice :=
  { s with storage := s.storage ++ [bytes] }

/-- The document is ready, with the file that is about to be stored. -/
def WarningOffice.finishDocument (s : WarningOffice) (id : ℕ) (bytes : Bytes) (now : Instant) :
    WarningOffice :=
  { s with documents := s.documents.modify id fun d =>
      { d with
        file := some s.storage.length
        mimeType := MIME_PDF
        sizeBytes := bytes.length
        checksum := some ⟨bytes⟩
        status := .ready
        errorCode := ""
        generatedAt := some now } }

def WarningOffice.failDocument (s : WarningOffice) (id : ℕ) (errorCode : String) :
    WarningOffice :=
  { s with documents := s.documents.modify id fun d =>
      { d with status := .failed, errorCode := errorCode } }

def attempt (world : RenderWorld) (w : DocumentWrite) : WarningTransaction Unit :=
  if world.fails w then .raise (.exception w) else pure ()

/-- An audit record, in a statement of its own. -/
def recordEvent (world : RenderWorld) (w : DocumentWrite) : WarningProgram Unit :=
  if world.fails w then .raise (.exception w) else pure ()

def lockWarning : Option ℕ → WarningTransaction Bool
  | none => pure true
  | some warning => do
    let locked ← Tx.selectForUpdate (fun _ => [WarningRow.warning warning]) fun _ s =>
      s.warnings[warning]?
    match locked with
    | none => .raise (.failure (.doesNotExist "StudentWarning"))
    | some w => pure (decide (w.status = .issued))

/-- The entry of the unique index that a live document takes. -/
def lockPlace (d : GeneratedDocument) : WarningTransaction Unit :=
  match d.warning with
  | none => pure ()
  | some warning =>
    Tx.lockRows .update [WarningRow.documentKey warning d.documentType d.revision]

/-- The transaction of `_mark_failed`: whether the document has been marked. -/
def failTransaction (world : RenderWorld) (id : ℕ) (warning : Option ℕ) (errorCode : String) :
    WarningTransaction Bool := do
  attempt world .failureSave
  let issued ← lockWarning warning
  if !issued then pure false
  else do
    let locked ← Tx.selectForUpdate (fun _ => [WarningRow.document id]) fun _ s =>
      s.documents[id]?
    match locked with
    | none => .raise (.failure (.doesNotExist "GeneratedDocument"))
    | some d =>
      if d.status = .voided then pure false
      else do
        Tx.update fun s => s.failDocument id errorCode
        pure true

def markFailed (world : RenderWorld) (id : ℕ) (warning : Option ℕ) (errorCode : String) :
    WarningProgram Unit := do
  let marked ← Program.transaction (failTransaction world id warning errorCode)
  if marked then recordEvent world .failureEvent else pure ()

/-- How the transaction that stores the file ends: the document is left as it is, becomes ready, or
the transaction is rolled back by an error, which may leave the file behind. -/
inductive FileOutcome
  | unchanged
  | ready
  | limitExceeded (e : OfficeFailure)
  | failed (e : OfficeFailure)
  deriving DecidableEq

/-- The transaction of `_produce_file`. -/
def saveFile (world : RenderWorld) (id : ℕ) (warning : Option ℕ) (bytes : Bytes) :
    WarningTransaction FileOutcome := do
  attempt world .fileLocks
  Tx.lockRows .update [WarningRow.school]
  let issued ← lockWarning warning
  if !issued then pure .unchanged
  else do
    let locked ← Tx.selectForUpdate (fun _ => [WarningRow.document id]) fun _ s =>
      s.documents[id]?
    match locked with
    | none => .raise (.failure (.doesNotExist "GeneratedDocument"))
    | some d =>
      if d.status = .voided then pure .unchanged
      else do
        let exceeded ← Tx.select fun s => s.storageLimitExceeded bytes.length
        match exceeded with
        | some e => pure (.limitExceeded e)
        | none => do
          attempt world .fileSave
          lockPlace d
          let taken ← Tx.select fun s => s.placeTaken (some id) d
          if taken then do
            Tx.update fun s => s.storeFile bytes
            pure (.failed (.failure (.integrityError "uniq_live_warning_document")))
          else if world.fails .documentSave then do
            Tx.update fun s => s.storeFile bytes
            pure (.failed (.exception .documentSave))
          else do
            Tx.update fun s => (s.finishDocument id bytes world.now).storeFile bytes
            pure .ready

def produceFile (world : RenderWorld) (id : ℕ) (warning : Option ℕ) (snapshot : String) :
    WarningProgram Unit :=
  match world.render snapshot with
  | .engineUnavailable => markFailed world id warning "PDF_ENGINE_UNAVAILABLE"
  | .exception => markFailed world id warning "DOCUMENT_RENDER_FAILED"
  | .pdf bytes => do
    let outcome ← Program.transaction (saveFile world id warning bytes)
    match outcome with
    | .unchanged => pure ()
    | .ready => recordEvent world .generatedEvent
    | .limitExceeded e => do
      markFailed world id warning "STORAGE_LIMIT_EXCEEDED"
      .raise e
    | .failed e => .raise e

def WarningOffice.namedWarning (s : WarningOffice) (r : DocumentRequest) :
    Option (ℕ × StudentWarning) :=
  (r.warning.bind fun id => (s.warnings[id]?).map fun w => (id, w)).filter fun p =>
    p.2.student = r.student

/-- The checks of the warning that has been found. -/
def acceptWarning (r : DocumentRequest) : Option (ℕ × StudentWarning) → WarningProgram (Option ℕ)
  | none => .raise (officeError "VALIDATION_ERROR" "الإنذار غير موجود أو لا يخص هذا الطالب." 400)
  | some (id, w) =>
    if w.status ≠ .issued then .raise warningVoidedError
    else if w.level.documentType ≠ r.documentType then
      .raise (officeError "VALIDATION_ERROR" "درجة الإنذار لا تطابق نوع المستند المطلوب." 400)
    else pure (some id)

/-- `resolve_warning` and the check of its level. -/
def resolveWarning (r : DocumentRequest) : WarningProgram (Option ℕ) :=
  if !r.documentType.isWarning then pure none
  else do
    let found ← Program.read fun s => s.namedWarning r
    acceptWarning r found

def newDocument (me : ℕ) (r : DocumentRequest) (warning : Option ℕ) (snapshot : String) :
    GeneratedDocument where
  student := r.student
  warning := warning
  documentType := r.documentType
  snapshotData := snapshot
  generatedByMembership := r.membership
  maker := some me

def createDocument (world : RenderWorld) (d : GeneratedDocument) : WarningTransaction ℕ := do
  Tx.lockRows .update [WarningRow.school]
  let issued ← lockWarning d.warning
  if !issued then .raise warningVoidedError
  else do
    attempt world .creation
    lockPlace d
    let taken ← Tx.select fun s => s.placeTaken none d
    if taken then
      .raise (officeError "DOCUMENT_ALREADY_EXISTS" "تم إنشاء هذا المستند مسبقاً." 409)
    else do
      let id ← Tx.select fun s => s.documents.length
      Tx.update fun s => s.addDocument d
      pure id

/-- `generate_document`, as the call `me`. -/
def generateDocument (me : ℕ) (world : RenderWorld) (r : DocumentRequest) :
    WarningProgram Unit := do
  if !world.slotFree then .raise pdfGenerationBusy
  else do
    let warning ← resolveWarning r
    match r.snapshot with
    | .error e => .raise (.failure (.api e))
    | .ok snapshot => do
      let id ← Program.transaction (createDocument world (newDocument me r warning snapshot))
      recordEvent world .requestEvent
      produceFile world id warning snapshot

/-- `retry_document` of a document that the view has found. -/
def retryDocument (world : RenderWorld) (id : ℕ) : WarningProgram Unit := do
  let found ← Program.read fun s => s.documents[id]?
  match found with
  | none => .raise documentNotFound
  | some d =>
    if !world.slotFree then .raise pdfGenerationBusy
    else if d.status ≠ .failed then
      .raise (officeError "DOCUMENT_NOT_READY"
        "إعادة المحاولة متاحة للمستندات التي فشل إنشاؤها فقط." 409)
    else do
      let issued ← Program.read fun s => d.warning.all fun id =>
        (s.warnings[id]?).any fun w => w.status = .issued
      if !issued then
        .raise (officeError "VALIDATION_ERROR" "لا يمكن إعادة إصدار مستند لإنذار ملغى." 409)
      else produceFile world id d.warning d.snapshotData

/-- `void_document` of a document that the view has found. -/
def voidDocument (membership : ℕ) (id : ℕ) (now : Instant) (reason : String) :
    WarningProgram Unit := do
  let found ← Program.read fun s => s.documents[id]?
  match found with
  | none => .raise documentNotFound
  | some _ => Program.transaction do
    let locked ← Tx.selectForUpdate (fun _ => [WarningRow.document id]) fun _ s =>
      s.documents[id]?
    match locked with
    | none => .raise (.failure (.doesNotExist "GeneratedDocument"))
    | some d =>
      if d.status = .voided then
        .raise (officeError "DOCUMENT_NOT_FOUND" "المستند ملغى مسبقاً." 409)
      else Tx.update fun s => s.voidDocument id (some membership) now reason

/-- What users do to documents and to the warnings under them; `reconcile` stands for the
reconciliation that follows a change of attendance or arrivals. -/
inductive DocumentCall
  | generate (world : RenderWorld) (r : DocumentRequest)
  | retry (world : RenderWorld) (id : ℕ)
  | voidDocument (membership id : ℕ) (now : Instant) (reason : String)
  | voidWarning (membership warning : ℕ) (now : Instant) (reason : String)
  | reconcile (studentIds : List ℕ) (warningType : WarningRuleType) (now : Instant)

def DocumentCall.program (me : ℕ) : DocumentCall → WarningProgram Unit
  | .generate world r => generateDocument me world r
  | .retry world id => retryDocument world id
  | .voidDocument membership id now reason => SchoolPlatform.voidDocument membership id now reason
  | .voidWarning membership warning now reason => voidStudentWarning membership warning now reason
  | .reconcile studentIds warningType now =>
    Program.transaction (reconcileIssuedWarnings studentIds warningType none now)

end SchoolPlatform
