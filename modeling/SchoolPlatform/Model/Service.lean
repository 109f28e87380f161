import SchoolPlatform.Model.Excuses
import SchoolPlatform.Model.Sessions
import SchoolPlatform.Model.StudentLifecycle

/-!
# Requests to the service

The calls that write attendance, excuses and enrollments, each as one request. A request run
with nobody else at work takes a school to a school; `School.play` runs a list of events.
-/

namespace SchoolPlatform

open ReadCommitted

def School.sessionAt (s : School) (sectionId : ℕ) (d : Date) (period : ℕ) :
    Option AttendanceSession :=
  s.sessions.find? fun x =>
    x.sectionId = sectionId ∧ x.attendanceDate = d ∧ x.periodSequence = period

def School.addSession (s : School) (session : AttendanceSession) : School :=
  { s with sessions := s.sessions ++ [session] }

/-- `INSERT` of a session; `false` when the section already has one for the date and period. -/
def insertSession (session : AttendanceSession) : Transaction Bool := do
  Tx.lockRows .update [.sessionKey session.sectionId session.attendanceDate
    session.periodSequence, .session session.id]
  let taken ← ask fun s => (s.sessionAt session.sectionId session.attendanceDate
    session.periodSequence).or (s.session? session.id)
  if taken ≠ none then pure false
  else do
    Tx.update fun s => s.addSession session
    checkReferences [.section_ session.sectionId]
    pure true

/-- The end of `_start_session`, once the calendar has given the date and the period: the session
of the section, date and period is resumed, or a new one is inserted with the roster of now. The
result says whether it was resumed. -/
def startSession (now : Instant) (newId academicYear sectionId : ℕ) (d : Date) (period : ℕ) :
    Operation (AttendanceSession × List RosterStudent × Bool) := do
  let existing ← ask fun s => s.sessionAt sectionId d period
  match existing with
  | some session => do
    let roster ← ask fun s => s.getRoster sectionId academicYear
    pure (session, roster, true)
  | none => do
    let _ ← getOrRefreshPristineDayContext d
    let roster ← ask fun s => s.getRoster sectionId academicYear
    let session : AttendanceSession :=
      { id := newId
        academicYear := academicYear
        sectionId := sectionId
        attendanceDate := d
        periodSequence := period
        status := .inProgress
        rosterFingerprint := rosterFingerprint roster
        submittedByMembership := none
        submittedAt := none
        updatedAt := now }
    let inserted ← Program.transaction (insertSession session)
    if inserted then pure (session, roster, false)
    else do
      let winner ← ask fun s => s.sessionAt sectionId d period
      match winner with
      | some session => pure (session, roster, true)
      | none => .raise (.doesNotExist "AttendanceSession")

inductive Request
  | startSession (now : Instant) (newId academicYear sectionId : ℕ) (d : Date) (period : ℕ)
  | submitSession (clock : Clock) (sessionId membership : ℕ) (marks : List MarkInput)
  | editSession (clock : Clock) (sessionId membership : ℕ) (roles : List SchoolRole)
      (expectedUpdatedAt : Instant) (marks : List MarkInput) (reason : Text)
  | correctStudentAttendance (clock : Clock) (sessionId studentId : ℕ)
      (roles : List SchoolRole) (status : String) (reason : Text) (expectedUpdatedAt : Instant)
  | createExcuse (now : Instant) (reconciledAt : Date → Instant)
      (recalculatedAt : ℕ → Date → Instant) (today : Date) (newId student : ℕ)
      (targets : List TargetInput) (approveImmediately : Bool)
  | updateExcuse (today : Date) (excuseId : ℕ) (targets : Option (List TargetInput))
  | approveExcuse (now : Instant) (recalculatedAt : ℕ → Date → Instant) (excuseId : ℕ)
      (previewHash : Digest PlanFingerprint)
  | rejectExcuse (now : Instant) (excuseId : ℕ)
  | cancelExcuse (now : Instant) (reconciledAt : Date → Instant)
      (recalculatedAt : ℕ → Date → Instant) (excuseId : ℕ)
  | updateStudent (newEnrollmentId : ℕ) (today : Date) (studentId academicYear : ℕ)
      (target : Option Section) (data : StudentData)
  | setStudentStatus (now : Instant) (today : Date) (studentId : ℕ) (newStatus : StudentStatus)
      (exitDate : Option Date) (exitReason : String)

/-- Drop the result of an operation. -/
def Operation.discard {α : Type} (p : Operation α) : Operation Unit := p.bind fun _ => .ret ()

def statusView (now : Instant) (today : Date) (studentId : ℕ) (newStatus : StudentStatus)
    (exitDate : Option Date) (exitReason : String) : Operation Student := do
  let found ← ask fun s => s.student? studentId
  match found with
  | none => .raise (.doesNotExist "Student")
  | some student => setStudentStatus now today student newStatus exitDate exitReason

def Request.operation : Request → Operation Unit
  | .startSession now newId academicYear sectionId d period =>
    (SchoolPlatform.startSession now newId academicYear sectionId d period).discard
  | .submitSession clock sessionId membership marks =>
    (SchoolPlatform.submitSession clock sessionId membership marks).discard
  | .editSession clock sessionId membership roles expectedUpdatedAt marks reason =>
    (SchoolPlatform.editSession clock sessionId membership roles expectedUpdatedAt marks
      reason).discard
  | .correctStudentAttendance clock sessionId studentId roles status reason expectedUpdatedAt =>
    (SchoolPlatform.correctStudentAttendance clock sessionId studentId roles status reason
      expectedUpdatedAt).discard
  | .createExcuse now reconciledAt recalculatedAt today newId student targets
      approveImmediately =>
    (SchoolPlatform.createExcuse now reconciledAt recalculatedAt today newId student targets
      approveImmediately).discard
  | .updateExcuse today excuseId targets =>
    (SchoolPlatform.updateExcuse today excuseId targets).discard
  | .approveExcuse now recalculatedAt excuseId previewHash =>
    (SchoolPlatform.approveExcuse now recalculatedAt excuseId previewHash).discard
  | .rejectExcuse now excuseId => (SchoolPlatform.rejectExcuse now excuseId).discard
  | .cancelExcuse now reconciledAt recalculatedAt excuseId =>
    (SchoolPlatform.cancelExcuse now reconciledAt recalculatedAt excuseId).discard
  | .updateStudent newEnrollmentId today studentId academicYear target data =>
    (SchoolPlatform.updateStudent newEnrollmentId today studentId academicYear target
      data).discard
  | .setStudentStatus now today studentId newStatus exitDate exitReason =>
    (statusView now today studentId newStatus exitDate exitReason).discard

def School.handle (s : School) (r : Request) : School := (r.operation.run s).2

/-- What happens to a school: a request, or a change of what attendance only reads (calendar,
timetable, students, enrollments). -/
inductive Event
  | request (r : Request)
  | registry (r : Registry)

def School.occur (s : School) : Event → School
  | .request r => s.handle r
  | .registry r => { s with registry := r }

def School.play (s : School) (events : List Event) : School := events.foldl School.occur s

end SchoolPlatform
