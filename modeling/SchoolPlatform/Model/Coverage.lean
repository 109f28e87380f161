import SchoolPlatform.Model.DailySummary

/-!
# Coverage of absences by excuses

An absence stays an absence; a coverage is the administrative layer above it. Approval creates
the coverages of its plan in one transaction. `reconcileExcuseCoverageForDate` brings the
coverages of a date in line with the absences and the approved excuses after the fact.
-/

namespace SchoolPlatform

open ReadCommitted

def voidReasonAttendanceChanged : String := "ATTENDANCE_CHANGED"

def voidReasonExcuseCancelled : String := "EXCUSE_CANCELLED"

def statusError : AbsenceExcuseStatus → String × String
  | .approved => ("EXCUSE_ALREADY_APPROVED", "هذا العذر معتمد مسبقًا.")
  | .rejected => ("EXCUSE_ALREADY_REJECTED", "هذا العذر مرفوض مسبقًا.")
  | .cancelled => ("EXCUSE_ALREADY_CANCELLED", "هذا العذر ملغى مسبقًا.")
  | .pending => ("VALIDATION_ERROR", "حالة العذر لا تسمح بهذه العملية.")

def raiseNotPending {α : Type} (excuse : AbsenceExcuse) : Transaction α :=
  raiseApi
    { code := (statusError excuse.status).1
      message := (statusError excuse.status).2
      statusCode := 409 }

def AbsenceExcuseTarget.matchesPeriod (t : AbsenceExcuseTarget) (period : ℕ) : Bool :=
  t.periodSequence = none ∨ t.periodSequence = some period

def School.session? (s : School) (id : ℕ) : Option AttendanceSession :=
  s.sessions.find? fun x => x.id = id

def School.excuse? (s : School) (id : ℕ) : Option AbsenceExcuse :=
  s.excuses.find? fun x => x.id = id

def School.targetsOf (s : School) (excuse : ℕ) : List AbsenceExcuseTarget :=
  s.targets.filter fun t => t.excuse = excuse

/-- The marks in submitted sessions, each with its session (`select_related("session")`). -/
def School.submittedMarks (s : School) : List (AttendanceMark × AttendanceSession) :=
  s.marks.filterMap fun x => match s.session? x.session with
    | some session => if session.status = .submitted then some (x, session) else none
    | none => none

def School.approvedTargetsOn (s : School) (d : Date) :
    List (AbsenceExcuseTarget × AbsenceExcuse) :=
  (s.targets.filter fun t => t.attendanceDate = d).filterMap fun t =>
    match s.excuse? t.excuse with
    | some excuse => if excuse.status = .approved then some (t, excuse) else none
    | none => none

def School.activeCoveragesOn (s : School) (d : Date) : List AbsenceExcuseCoverage :=
  s.coverages.filter fun c => c.attendanceDate = d ∧ c.status = .active

def School.absencesOn (s : School) (d : Date) (students : List ℕ) :
    List (AttendanceMark × AttendanceSession) :=
  s.submittedMarks.filter fun p =>
    p.1.student ∈ students ∧ p.1.status = .absent ∧ p.2.attendanceDate = d

structure NewCoverage where
  excuse : ℕ
  student : ℕ
  attendanceSession : ℕ
  attendanceDate : Date
  periodSequenceSnapshot : ℕ
  deriving DecidableEq

def NewCoverage.key (c : NewCoverage) : ℕ × ℕ := (c.attendanceSession, c.student)

def NewCoverage.references (c : NewCoverage) : List Row :=
  [.excuse c.excuse, .student c.student, .session c.attendanceSession]

def NewCoverage.insert (c : NewCoverage) (id : ℕ) : AbsenceExcuseCoverage where
  id := id
  excuse := c.excuse
  student := c.student
  attendanceSession := c.attendanceSession
  attendanceDate := c.attendanceDate
  periodSequenceSnapshot := c.periodSequenceSnapshot
  status := .active
  voidedAt := none
  voidReason := ""

def School.addCoverages (s : School) (new : List NewCoverage) : School :=
  { s with
    coverages := s.coverages ++ new.zipIdx.map fun p => p.1.insert (s.nextCoverageId + p.2)
    nextCoverageId := s.nextCoverageId + new.length }

def AbsenceExcuseCoverage.void (c : AbsenceExcuseCoverage) (now : Instant) (reason : String) :
    AbsenceExcuseCoverage :=
  { c with status := .voided, voidedAt := some now, voidReason := reason }

def School.voidCoverages (s : School) (ids : List ℕ) (now : Instant) (reason : String) : School :=
  { s with coverages := s.coverages.map fun c => if c.id ∈ ids then c.void now reason else c }

def School.putExcuse (s : School) (excuse : AbsenceExcuse) : School :=
  { s with excuses := Table.put (fun x => x.id) excuse s.excuses }

def School.coverageTaken (s : School) (key : ℕ × ℕ) : Bool :=
  s.coverages.any fun c => (c.attendanceSession, c.student) = key ∧ c.status = .active

/-- `bulk_create`: a taken key is an error of the unique index. The result says whether the rows
were inserted. -/
def insertCoverages (new : List NewCoverage) : Transaction Bool := do
  Tx.lockRows .update (new.map fun c => Row.coverageKey c.key.1 c.key.2)
  let conflict ← ask fun s => new.any fun c => s.coverageTaken c.key
  if conflict then pure false else do
    Tx.update fun s => s.addCoverages new
    pure true

/-- `bulk_create(ignore_conflicts=True)`: taken keys are skipped. -/
def insertCoveragesIgnoringConflicts (new : List NewCoverage) : Transaction (List NewCoverage) := do
  Tx.lockRows .update (new.map fun c => Row.coverageKey c.key.1 c.key.2)
  let fresh ← ask fun s => new.filter fun c => !s.coverageTaken c.key
  Tx.update fun s => s.addCoverages fresh
  pure fresh

/-- `UPDATE` of the coverages found by a filter to voided; rows that no longer match once they
are locked are left alone. -/
def voidWhere (filter : AbsenceExcuseCoverage → Bool) (now : Instant) (reason : String) :
    Transaction Unit := do
  let ids ← Tx.selectForUpdate (fun s => (s.coverages.filter filter).map fun c => Row.coverage c.id)
    fun rows s => (s.coverages.filter fun c => filter c ∧ Row.coverage c.id ∈ rows).map fun c => c.id
  Tx.update fun s => s.voidCoverages ids now reason

def pickExcuse (studentTargets : List (AbsenceExcuseTarget × AbsenceExcuse)) (period : ℕ) :
    Option AbsenceExcuse :=
  let matching := (studentTargets.filter fun p => p.1.matchesPeriod period).map Prod.snd
  (matching.insertionSort fun a b =>
    a.approvedAt.getD 0 < b.approvedAt.getD 0 ∨
      (a.approvedAt.getD 0 = b.approvedAt.getD 0 ∧ a.id ≤ b.id)).head?

def approvedTargetsByStudent (targets : List (AbsenceExcuseTarget × AbsenceExcuse)) :
    Dict ℕ (List (AbsenceExcuseTarget × AbsenceExcuse)) :=
  Dict.groupBy (fun p => p.2.student) targets

/-- The students a reconciliation looks at: those with an approved target or an active coverage
on the date, of the given ones. -/
def studentsToReconcile (studentIds : Option (List ℕ))
    (targets : List (AbsenceExcuseTarget × AbsenceExcuse))
    (activeCoverages : List AbsenceExcuseCoverage) : List ℕ :=
  let mentioned := (targets.map fun p => p.2.student) ++ activeCoverages.map fun c => c.student
  match studentIds with
  | none => mentioned
  | some ids => mentioned.filter fun x => x ∈ ids

/-- Lock the candidate excuses and keep the targets of those that are still approved: a
cancellation under way is waited for, a later one waits for the reconciliation to end. -/
def lockCandidates (targets : List (AbsenceExcuseTarget × AbsenceExcuse)) :
    Transaction (List (AbsenceExcuseTarget × AbsenceExcuse)) := do
  let candidateIds := targets.map fun p => p.2.id
  let lockedApproved ← Tx.selectForUpdate
    (fun s => (s.excuses.filter fun x => x.id ∈ candidateIds ∧ x.status = .approved).map
      fun x => Row.excuse x.id)
    fun rows s => (s.excuses.filter fun x =>
      Row.excuse x.id ∈ rows ∧ x.status = .approved).map fun x => x.id
  pure (targets.filter fun p => p.2.id ∈ lockedApproved)

/-- Active coverages of the students whose absence is no longer there (`to_void`). -/
def staleCoverages (students : List ℕ) (absences : List (AttendanceMark × AttendanceSession))
    (activeCoverages : List AbsenceExcuseCoverage) : List AbsenceExcuseCoverage :=
  activeCoverages.filter fun c => c.student ∈ students ∧
    (c.student, c.attendanceSession) ∉ absences.map fun p => (p.1.student, p.1.session)

/-- Absences that no remaining coverage stands for and that an approved target applies to
(`to_create`). -/
def missingCoverages (d : Date) (targets : List (AbsenceExcuseTarget × AbsenceExcuse))
    (stillCovered : List AbsenceExcuseCoverage)
    (absences : List (AttendanceMark × AttendanceSession)) : List NewCoverage :=
  let candidates := approvedTargetsByStudent targets
  absences.filterMap fun p =>
    if (p.1.student, p.1.session) ∈ stillCovered.map fun c => (c.student, c.attendanceSession)
    then none
    else (pickExcuse ((candidates.get? p.1.student).getD []) p.2.periodSequence).map
      fun excuse =>
        { excuse := excuse.id
          student := p.1.student
          attendanceSession := p.1.session
          attendanceDate := d
          periodSequenceSnapshot := p.2.periodSequence }

def voidStale (now : Instant) (toVoid : List AbsenceExcuseCoverage) : Transaction Unit :=
  if toVoid = [] then pure ()
  else voidWhere (fun c => c.id ∈ toVoid.map fun x => x.id) now voidReasonAttendanceChanged

def createMissing (toCreate : List NewCoverage) : Transaction (List NewCoverage) :=
  if toCreate = [] then pure [] else insertCoveragesIgnoringConflicts toCreate

structure Reconciliation where
  affected : List ℕ := []
  created : List NewCoverage := []
  deriving DecidableEq

/-- Bring the active coverages of a date in line with the absences and the approved excuses: of
the given students, or of all when none are given. -/
def reconcileExcuseCoverageForDate (now : Instant) (d : Date) (studentIds : Option (List ℕ)) :
    Transaction Reconciliation := do
  let targets ← ask fun s => s.approvedTargetsOn d
  let activeCoverages ← ask fun s => s.activeCoveragesOn d
  let students := studentsToReconcile studentIds targets activeCoverages
  if students = [] then pure {} else do
    let targets ← lockCandidates targets
    let absences ← ask fun s => s.absencesOn d students
    let toVoid := staleCoverages students absences activeCoverages
    voidStale now toVoid
    let stillCovered := activeCoverages.filter fun c => c ∉ toVoid
    let toCreate := missingCoverages d targets stillCovered absences
    let created ← createMissing toCreate
    pure
      { affected := ((toVoid.map fun c => c.student) ++ toCreate.map fun c => c.student).dedup
        created := created }

def reconcileLocked (now : Instant) (d : Date) (studentIds : Option (List ℕ)) :
    Transaction (List ℕ) := do
  let result ← reconcileExcuseCoverageForDate now d studentIds
  checkReferences (result.created.flatMap NewCoverage.references)
  pure result.affected

def reconciliation (now : Instant) (d : Date) (studentIds : Option (List ℕ)) :
    Operation (List ℕ) :=
  Program.transaction (reconcileLocked now d studentIds)

/-- Recalculate the summaries of the sections and dates of some sessions. -/
def recalculateForSessions (now : ℕ → Date → Instant) (sessions : List AttendanceSession) :
    Operation Unit :=
  Program.forEach
    (fun p => do
      let _ ← recalculateDailyAttendanceForSection (now p.1 p.2) p.1 p.2
      pure ())
    (sessions.map fun x => (x.sectionId, x.attendanceDate)).dedup

end SchoolPlatform
