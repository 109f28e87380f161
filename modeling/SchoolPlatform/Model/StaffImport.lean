import SchoolPlatform.Model.StaffOffice
import SchoolPlatform.Model.ImportCommit

/-!
# Staff import

A file of teachers is staged as a preview and committed: a mobile number that nobody has becomes an
account with an active membership, a known account is invited, a member gets the role of a teacher.
Rows that need attention are left out.
-/

namespace SchoolPlatform

/-- `mark_duplicates_in_file` of a staff file. -/
def markDuplicateMobiles (rows : List StaffRow) : List StaffRow :=
  rows.map fun row =>
    if row.mobile ≠ "" ∧ 1 < (rows.countP fun x => x.mobile = row.mobile) ∧
        .duplicateMobileInFile ∉ row.errors then
      { row with errors := row.errors ++ [.duplicateMobileInFile] }
    else row

/-- The profile of a member says something else than the row. -/
def profileChanged (p : StaffProfile) (row : StaffRow) : Bool :=
  p.displayName ≠ row.fullName ∨
    (row.employeeNumber.getD "" ≠ "" ∧ p.employeeNumber ≠ row.employeeNumber) ∨
    (row.jobTitle ≠ "" ∧ p.jobTitle ≠ row.jobTitle)

def categorizeStaffRow (s : Staff) (row : StaffRow) : StaffRow :=
  if .duplicateMobileInFile ∈ row.errors then { row with status := some .duplicateInFile }
  else if row.errors ≠ [] then { row with status := some .error }
  else
    match s.userByMobile row.mobile with
    | none => { row with status := some .new }
    | some user =>
      match s.membershipOf user.id with
      | none => { row with status := some .existingUserInvite }
      | some m =>
        if m.status = .invited then { row with status := some .invitationPending }
        else if m.status ≠ .active then { row with status := some .needsManualAction }
        else
          let row := { row with membershipId := some m.id }
          if .teacher ∉ m.roles then { row with status := some .addTeacherRole }
          else if (s.profileOf m.id).all fun p => profileChanged p row then
            { row with status := some .profileUpdate }
          else { row with status := some .existingUnchanged }

def countStaffStatus (rows : List StaffRow) (status : StaffRowStatus) : ℕ :=
  rows.countP fun row => row.status = some status

/-- `categorize_rows` of a staff file. -/
def categorizeStaffRows (s : Staff) (rows : List StaffRow) : List StaffRow × StaffSummary :=
  let rows := rows.map (categorizeStaffRow s)
  (rows,
    { new := countStaffStatus rows .new
      invite := countStaffStatus rows .existingUserInvite
      addRole := countStaffStatus rows .addTeacherRole
      profileUpdate := countStaffStatus rows .profileUpdate
      unchanged := countStaffStatus rows .existingUnchanged
      invitationPending := countStaffStatus rows .invitationPending
      manual := countStaffStatus rows .needsManualAction
      errors := countStaffStatus rows .error
      duplicates := countStaffStatus rows .duplicateInFile })

def Staff.job? (s : Staff) (id : ℕ) : Option StaffImportJob := s.importJobs.find? fun j => j.id = id

/-- A processing or importing job takes the entry of `uniq_running_staff_import_per_school`. -/
def StaffImportJob.Running (job : StaffImportJob) : Prop :=
  job.status = .processing ∨ job.status = .importing

instance instDecidableStaffImportJobRunning (job : StaffImportJob) : Decidable job.Running := by
  unfold StaffImportJob.Running
  infer_instance

def Staff.putJob (s : Staff) (job : StaffImportJob) : Staff :=
  { s with importJobs := Table.put (fun j => j.id) job s.importJobs }

def Staff.saveJob (s : Staff) (job : StaffImportJob) : Except Failure Staff :=
  if job.Running ∧ s.importJobs.any fun j => j.Running ∧ j.id ≠ job.id then
    .error (.integrityError "uniq_running_staff_import_per_school")
  else .ok (s.putJob job)

/-- `StaffImportUploadView.post`. -/
def uploadStaffImport (s : Staff) : Staff :=
  { s with importJobs := s.importJobs ++ [{ id := s.nextId }], nextId := s.nextId + 1 }

/-- `StaffImportProcessView.post`. -/
def startStaffProcessing (jobId : ℕ) (s : Staff) : Except Failure Staff :=
  match s.job? jobId with
  | none => .error (.doesNotExist "StaffImportJob")
  | some job =>
    if job.status ∉ [ImportJobStatus.uploaded, .readyForReview, .failed] then
      .error (.api importAlreadyRunning)
    else
      match s.saveJob { job with status := .processing, errorCode := "" } with
      | .ok s => .ok s
      | .error e =>
        if s.importJobs.any fun j => j.status = .processing ∧ j.id ≠ job.id then
          .error (.api { importAlreadyRunning with
            message := "يوجد استيراد موظفين آخر قيد التنفيذ لهذه المدرسة." })
        else .error e

/-- The body of `process_staff_import_job`, for the normalized rows of the file. -/
def processStaffImportJob (jobId : ℕ) (rows : List StaffRow) (s : Staff) : Staff :=
  match s.job? jobId with
  | none => s
  | some job =>
    if job.status ≠ .processing then s
    else
      let (rows, summary) := categorizeStaffRows s (markDuplicateMobiles rows)
      s.putJob { job with rows := rows, summary := summary, status := .readyForReview }

/-- `StaffImportCancelView.post`. -/
def cancelStaffImport (jobId : ℕ) (s : Staff) : Except Failure Staff :=
  match s.job? jobId with
  | none => .error (.doesNotExist "StaffImportJob")
  | some job =>
    if job.status = .completed ∨ job.status = .importing then
      .error (.api
        { code := "STAFF_IMPORT_ALREADY_COMMITTED"
          message := "لا يمكن إلغاء استيراد معتمد."
          statusCode := 409 })
    else .ok (s.putJob { job with status := .cancelled, rows := [] })

/-- The profile of a member with what a row says about it; an empty cell says nothing. -/
def StaffProfile.updated (p : StaffProfile) (row : StaffRow) : StaffProfile :=
  { p with
    displayName := row.fullName
    employeeNumber :=
      if row.employeeNumber.getD "" ≠ "" then row.employeeNumber else p.employeeNumber
    jobTitle := if row.jobTitle ≠ "" then row.jobTitle else p.jobTitle }

def ensureProfile (membership : ℕ) (row : StaffRow) (counts : StaffCounts) (s : Staff) :
    Except Failure (StaffCounts × Staff) :=
  match s.profileOf membership with
  | none => do
    let s ← s.saveProfile
      ⟨membership, row.fullName, row.employeeNumber, row.jobTitle, .fromImport⟩
    pure (counts, s)
  | some p =>
    if profileChanged p row then do
      let s ← s.saveProfile (p.updated row)
      pure ({ counts with profilesUpdated := counts.profilesUpdated + 1 }, s)
    else .ok (counts, s)

def applyInvite (row : StaffRow) (counts : StaffCounts) (s : Staff) :
    Except Failure (StaffCounts × Staff) :=
  match s.userByMobile row.mobile with
  | none => .error (.doesNotExist "User")
  | some user =>
    let (m, counts, s) :=
      match s.membershipOf user.id with
      | some m => (m, counts, s)
      | none =>
        let (m, s) := s.createMembership user.id .invited
        (m, { counts with invited := counts.invited + 1 }, s)
    let (m, s) := s.giveRole m .teacher
    ensureProfile m.id row counts s

/-- `_apply_new`: a number that has got a user in the meantime is invited. -/
def applyNew (row : StaffRow) (counts : StaffCounts) (s : Staff) :
    Except Failure (StaffCounts × Staff) :=
  if (s.userByMobile row.mobile).isSome then applyInvite row counts s
  else do
    let (user, s) ← s.createUser row.mobile row.fullName
    let (m, s) := s.createMembership user.id .active
    let (m, s) := s.giveRole m .teacher
    let (counts, s) ← ensureProfile m.id row counts s
    pure ({ counts with created := counts.created + 1 }, s)

def applyExistingMember (row : StaffRow) (counts : StaffCounts) (s : Staff) :
    Except Failure (StaffCounts × Staff) :=
  match row.membershipId.bind s.membership? with
  | none => .error (.doesNotExist "SchoolMembership")
  | some m =>
    let counts :=
      if .teacher ∈ m.roles then counts else { counts with rolesAdded := counts.rolesAdded + 1 }
    let (m, s) := s.giveRole m .teacher
    ensureProfile m.id row counts s

def applyStaffRow (row : StaffRow) (counts : StaffCounts) (s : Staff) :
    Except Failure (StaffCounts × Staff) :=
  if row.status = some .new then applyNew row counts s
  else if row.status = some .existingUserInvite then applyInvite row counts s
  else if row.status = some .addTeacherRole ∨ row.status = some .profileUpdate then
    applyExistingMember row counts s
  else .ok (counts, s)

/-- The stored rows by their numbers have the statuses of the fresh ones. -/
def isStaffPreviewStale (stored fresh : List StaffRow) : Bool :=
  let byNumber := Dict.ofList (fresh.map fun row => (row.rowNumber, row))
  (Dict.ofList (stored.map fun row => (row.rowNumber, row))).any fun entry =>
    (Dict.get? byNumber entry.1).map (fun row => row.status) ≠ some entry.2.status

def StaffRow.refreshed (fresh : List StaffRow) (row : StaffRow) : StaffRow :=
  (Dict.get? (Dict.ofList (fresh.map fun x => (x.rowNumber, x))) row.rowNumber).elim row fun x =>
    { x with mobile := row.mobile, errors := row.errors, rowNumber := row.rowNumber }

def staffPreviewStale : ApiError where
  code := "STAFF_IMPORT_PREVIEW_STALE"
  message := "تغيرت بيانات الموظفين منذ إنشاء المعاينة. راجع المعاينة المحدثة ثم أعد الاعتماد."
  statusCode := 409

def staffCommitGate (job : StaffImportJob) : Except ApiError Unit :=
  if job.status = .completed then
    .error
      { code := "STAFF_IMPORT_ALREADY_COMMITTED"
        message := "تم اعتماد هذا الاستيراد مسبقاً."
        statusCode := 409 }
  else if job.status = .processing ∨ job.status = .importing then .error importAlreadyRunning
  else if job.status ≠ .readyForReview then
    .error
      { code := "IMPORT_NOT_READY"
        message := "الاستيراد غير جاهز للاعتماد."
        statusCode := 409 }
  else .ok ()

def addedMemberships (rows : List StaffRow) : ℕ :=
  rows.countP fun row => row.status = some .new ∨ row.status = some .existingUserInvite

def Staff.checkStaffCapacity (s : Staff) (rows : List StaffRow) : Except ApiError Unit :=
  if addedMemberships rows = 0 then .ok () else s.requireCapacity (addedMemberships rows)

/-- `_commit_locked` of a staff import: an error that comes back beside the staff is raised after
the transaction has committed. -/
def commitStaffLocked (jobId : ℕ) (s : Staff) : Except Failure (Staff × Option ApiError) :=
  match s.job? jobId with
  | none => .error (.doesNotExist "StaffImportJob")
  | some job =>
    match staffCommitGate job with
    | .error e => .error (.api e)
    | .ok () =>
      let (rows, summary) := categorizeStaffRows s job.rows
      if isStaffPreviewStale job.rows rows then
        .ok (s.putJob { job with
          rows := job.rows.map (StaffRow.refreshed rows), summary := summary },
          some staffPreviewStale)
      else do
        let s ← s.saveJob { job with status := .importing }
        match s.checkStaffCapacity rows with
        | .error e =>
          pure (s.putJob { job with status := .readyForReview, errorCode := e.code }, some e)
        | .ok () => do
          let (counts, s) ← rows.foldlM (fun state row => applyStaffRow row state.1 state.2)
            ({}, s)
          pure (s.putJob { job with
            status := .completed, rows := [], summary := summary, counts := counts }, none)

/-- `commit_import` of a staff import: the staff it leaves. -/
def commitStaffImport (jobId : ℕ) (s : Staff) : Staff :=
  match commitStaffLocked jobId s with
  | .error _ => s
  | .ok (s', _) => s'

end SchoolPlatform
