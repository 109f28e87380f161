import SchoolPlatform.Model.Coverage
import SchoolPlatform.Library.Text

/-!
# Attendance sessions

Submission, editing and correction of a session write its marks in a first transaction, under a
lock of the session and of its section, and bring coverages and summaries up to date after it.
-/

namespace SchoolPlatform

open ReadCommitted

/-- The clock at the points of an operation at which it is read. -/
structure Clock where
  now : Instant
  savedAt : Instant
  reconciledAt : Date → Instant
  recalculatedAt : ℕ → Date → Instant

structure MarkInput where
  studentId : ℕ
  status : String
  deriving DecidableEq

def presentText : String := "PRESENT"

def AttendanceMarkStatus.text : AttendanceMarkStatus → String
  | .absent => "ABSENT"

/-- `select_for_update().select_related("section").get(id=…)`: the joined section row is locked
with the session. -/
def getSessionForUpdate (id : ℕ) : Transaction AttendanceSession := do
  let found ← Tx.selectForUpdate
    (fun s => (s.session? id).elim [] fun x => [Row.session x.id, Row.section_ x.sectionId])
    fun _ s => s.session? id
  match found with
  | some session => pure session
  | none => .raise (.doesNotExist "AttendanceSession")

def School.marksOf (s : School) (session : ℕ) : List AttendanceMark :=
  s.marks.filter fun x => x.session = session

def School.markOf (s : School) (session student : ℕ) : Option AttendanceMark :=
  s.marks.find? fun x => x.session = session ∧ x.student = student

def School.putSession (s : School) (session : AttendanceSession) : School :=
  { s with sessions := Table.put (fun x => x.id) session s.sessions }

def School.replaceMarks (s : School) (session : ℕ) (students : List ℕ) : School :=
  { s with marks := (s.marks.filter fun x => x.session ≠ session) ++
      students.map fun student => ⟨session, student, .absent⟩ }

def School.addMark (s : School) (session student : ℕ) : School :=
  { s with marks := s.marks ++ [⟨session, student, .absent⟩] }

def School.removeMark (s : School) (session student : ℕ) : School :=
  { s with marks := s.marks.filter fun x => ¬ (x.session = session ∧ x.student = student) }

def saveSession (session : AttendanceSession) : Transaction Unit :=
  Tx.updateWhere (fun _ => [Row.session session.id]) fun _ s => s.putSession session

def School.membership? (s : School) (id : ℕ) : Option Membership :=
  s.registry.memberships.find? fun x => x.id = id

def alreadySubmittedError (session : AttendanceSession) (submitter : Option Membership) :
    ApiError where
  code := "ATTENDANCE_SESSION_ALREADY_SUBMITTED"
  message := "تم اعتماد حضور هذا الفصل مسبقاً."
  statusCode := 409
  details :=
    [ ("submitted_by", .text (submitter.elim "" fun x => x.staffDisplayName.getD x.userDisplayName)),
      ("submitted_at", .instant session.submittedAt) ]

def rosterChangedError : ApiError where
  code := "ATTENDANCE_ROSTER_CHANGED"
  message := "تغيرت قائمة طلاب الفصل، يرجى تحديث الصفحة قبل الاعتماد."
  statusCode := 409

def validationError (message : String) : ApiError where
  code := "VALIDATION_ERROR"
  message := message

/-- The marks of a request, checked against the roster one by one; all of them are absences. -/
def validateMarks (rosterIds : List ℕ) : List ℕ → List MarkInput → Except ApiError (List ℕ)
  | _, [] => .ok []
  | seen, mark :: marks =>
    if mark.studentId ∈ seen then .error (validationError "طالب مكرر في قائمة العلامات.")
    else if mark.studentId ∉ rosterIds then
      .error
        { code := "INVALID_ATTENDANCE_STUDENT"
          message := "أحد الطلاب لا ينتمي لهذا الفصل — حدّث الصفحة." }
    else if mark.status ≠ AttendanceMarkStatus.absent.text then
      .error
        { code := "ATTENDANCE_STATUS_NOT_ALLOWED"
          message := "خيارات التحضير هي حاضر أو غائب فقط؛ لا يسجل تأخر داخل الحصة." }
    else match validateMarks rosterIds (mark.studentId :: seen) marks with
      | .ok rest => .ok (mark.studentId :: rest)
      | .error e => .error e

def adminCorrectionRoles : List SchoolRole := [.vicePrincipal, .schoolManager]

def isAdminCorrection (roles : List SchoolRole) : Bool :=
  adminCorrectionRoles.any fun r => decide (r ∈ roles)

def permissionDenied (message : String) : ApiError where
  code := "ATTENDANCE_PERMISSION_DENIED"
  message := message
  statusCode := 403

/-- Who may edit a submitted session: vice principal and manager at any time, the teacher who
submitted it within the window of the school. -/
def canEdit (settings : SchoolSettings) (now : Instant) (session : AttendanceSession)
    (membership : ℕ) (roles : List SchoolRole) : Except ApiError Unit :=
  if isAdminCorrection roles then .ok ()
  else if .teacher ∉ roles then
    .error (permissionDenied "ليست لديك صلاحية تعديل هذا التحضير.")
  else if session.submittedByMembership ≠ some membership then
    .error (permissionDenied "لا يمكنك تعديل تحضير اعتمده معلم آخر.")
  else if (settings.attendanceEditWindowMinutes : ℤ) * 60000000 <
      now - session.submittedAt.getD 0 then
    .error
      { code := "ATTENDANCE_EDIT_WINDOW_EXPIRED"
        message := "انتهت المدة المسموحة لك لتعديل التحضير."
        statusCode := 403 }
  else .ok ()

def requireCurrentSession (session : AttendanceSession) (expectedUpdatedAt : Instant) :
    Except ApiError Unit :=
  if session.updatedAt ≠ expectedUpdatedAt then
    .error
      { code := "ATTENDANCE_SESSION_CHANGED"
        message :=
          "تغير هذا التحضير منذ فتحه. لم يُحفظ تصحيحك؛ راجع أحدث البيانات ثم أعد التعديل."
        statusCode := 409 }
  else .ok ()

def AttendanceSession.touch (session : AttendanceSession) (savedAt : Instant) :
    AttendanceSession :=
  { session with updatedAt := savedAt }

def AttendanceSession.submit (session : AttendanceSession) (clock : Clock) (membership : ℕ) :
    AttendanceSession :=
  { session with
    status := .submitted
    submittedByMembership := some membership
    submittedAt := some clock.now
    updatedAt := clock.savedAt }

/-- The transaction of a submission. A roster that has changed since the start is recorded and
commits, and the error is raised after it. -/
def submitLocked (clock : Clock) (sessionId membership : ℕ) (marks : List MarkInput) :
    Transaction (AttendanceSession × List RosterStudent × Option ApiError) := do
  let session ← getSessionForUpdate sessionId
  if session.status = .submitted then do
    let submitter ← ask fun s => session.submittedByMembership.bind s.membership?
    raiseApi (alreadySubmittedError session submitter)
  else do
    let roster ← ask fun s => s.getRoster session.sectionId session.academicYear
    if rosterFingerprint roster ≠ session.rosterFingerprint then do
      let changed :=
        { session with rosterFingerprint := rosterFingerprint roster, updatedAt := clock.savedAt }
      saveSession changed
      pure (changed, roster, some rosterChangedError)
    else do
      let validated ← orRaise (validateMarks (roster.map fun r => r.studentId) [] marks)
      Tx.update fun s => s.replaceMarks session.id validated
      let submitted := session.submit clock membership
      saveSession submitted
      checkReferences (validated.map Row.student)
      pure (submitted, roster, none)

/-- The steps after the marks of a session have changed: coverages first, then summaries. -/
def afterMarks (clock : Clock) (session : AttendanceSession) (studentIds : Option (List ℕ)) :
    Operation Unit := do
  let d := session.attendanceDate
  let _ ← reconciliation (clock.reconciledAt d) d studentIds
  let _ ← recalculateDailyAttendanceForSection (clock.recalculatedAt session.sectionId d)
    session.sectionId d
  pure ()

def submitSession (clock : Clock) (sessionId membership : ℕ) (marks : List MarkInput) :
    Operation AttendanceSession := do
  let (session, _, deferredError) ← Program.transaction
    (submitLocked clock sessionId membership marks)
  match deferredError with
  | some e => .raise (.api e)
  | none => do
    afterMarks clock session none
    pure session

def changedStudents (old new : List ℕ) : List ℕ :=
  (old.filter fun x => x ∉ new) ++ new.filter fun x => x ∉ old

/-- The transaction of an edit; it returns the students whose status changed. -/
def editLocked (clock : Clock) (sessionId membership : ℕ) (roles : List SchoolRole)
    (expectedUpdatedAt : Instant) (marks : List MarkInput) (reason : Text) :
    Transaction (AttendanceSession × List ℕ) := do
  let session ← getSessionForUpdate sessionId
  if session.status ≠ .submitted then
    raiseApi (validationError "لا يمكن تعديل جلسة غير معتمدة.")
  else do
    let settings ← ask fun s => s.registry.settings
    orRaise (canEdit settings clock.now session membership roles)
    if isAdminCorrection roles ∧ Text.strip reason = [] then
      raiseApi (validationError "سبب التصحيح الإداري مطلوب.")
    else do
      orRaise (requireCurrentSession session expectedUpdatedAt)
      let roster ← ask fun s => s.getRoster session.sectionId session.academicYear
      let validated ← orRaise (validateMarks (roster.map fun r => r.studentId) [] marks)
      let oldMarks ← ask fun s => (s.marksOf session.id).map fun x => x.student
      let changes := changedStudents oldMarks validated
      if changes = [] then pure (session, []) else do
        Tx.update fun s => s.replaceMarks session.id validated
        let edited := session.touch clock.savedAt
        saveSession edited
        checkReferences ((changes ++ validated).map Row.student)
        pure (edited, changes)

def editSession (clock : Clock) (sessionId membership : ℕ) (roles : List SchoolRole)
    (expectedUpdatedAt : Instant) (marks : List MarkInput) (reason : Text) :
    Operation AttendanceSession := do
  let (session, changes) ← Program.transaction
    (editLocked clock sessionId membership roles expectedUpdatedAt marks reason)
  if changes = [] then pure session else do
    afterMarks clock session (some changes)
    pure session

def School.setMark (s : School) (session student : ℕ) (status : String) : School :=
  if status = AttendanceMarkStatus.absent.text then s.addMark session student
  else s.removeMark session student

/-- The transaction of the correction of one student. A mark may be removed from a student who
no longer belongs to the section; to add one the student has to have belonged to it that day. -/
def correctLocked (clock : Clock) (sessionId studentId : ℕ) (status : String)
    (expectedUpdatedAt : Instant) : Transaction AttendanceSession := do
  let session ← getSessionForUpdate sessionId
  if session.status ≠ .submitted then
    raiseApi (validationError "لا يمكن تصحيح تحضير غير معتمد.")
  else do
    let mark ← ask fun s => s.markOf session.id studentId
    let enrolled ← ask fun s =>
      (s.enrollmentsOnDateIn session.attendanceDate session.sectionId).any fun e =>
        e.student = studentId ∧ e.academicYear = session.academicYear
    let previousStatus := if mark.isSome then AttendanceMarkStatus.absent.text else presentText
    if !enrolled ∧ ¬ (mark.isSome ∧ status = presentText) then
      raiseApi
        { code := "INVALID_ATTENDANCE_STUDENT"
          message := "الطالب لم يكن في هذا الفصل بتاريخ التحضير." }
    else if previousStatus = status then
      raiseApi
        { code := "ATTENDANCE_STATUS_UNCHANGED"
          message := "حالة الطالب مسجلة بالفعل بهذه القيمة."
          statusCode := 409 }
    else do
      orRaise (requireCurrentSession session expectedUpdatedAt)
      Tx.update fun s => s.setMark session.id studentId status
      let corrected := session.touch clock.savedAt
      saveSession corrected
      checkReferences [.student studentId]
      pure corrected

def correctStudentAttendance (clock : Clock) (sessionId studentId : ℕ)
    (roles : List SchoolRole) (status : String) (reason : Text) (expectedUpdatedAt : Instant) :
    Operation AttendanceSession :=
  if !isAdminCorrection roles then
    .raise (.api (permissionDenied "ليست لديك صلاحية تصحيح الحضور."))
  else if Text.strip reason = [] then .raise (.api (validationError "سبب التصحيح مطلوب."))
  else if status ≠ presentText ∧ status ≠ AttendanceMarkStatus.absent.text then
    .raise (.api (validationError "حالة الحضور غير صحيحة."))
  else do
    let session ← Program.transaction
      (correctLocked clock sessionId studentId status expectedUpdatedAt)
    afterMarks clock session (some [studentId])
    pure session

end SchoolPlatform
