import SchoolPlatform.Model.Coverage

/-!
# Life of an excuse

An excuse is created pending or approved at once, a pending one can be changed, approved or
rejected, an approved one cancelled. Approval is bound to the preview the user saw: the plan of
coverages is resolved again under the lock of the excuse and has to have the same fingerprint.
-/

namespace SchoolPlatform

open ReadCommitted

def maxTargetsPerExcuse : ℕ := 60

/-! ## Coverage plan -/

def widenScope (scope : Dict Date (Option (List ℕ))) (t : AbsenceExcuseTarget) :
    Dict Date (Option (List ℕ)) :=
  match t.periodSequence, (scope.get? t.attendanceDate).getD (some []) with
  | some p, some periods =>
    scope.insert t.attendanceDate (some (if p ∈ periods then periods else periods ++ [p]))
  | _, _ => scope.insert t.attendanceDate none

/-- The declared scope of a day: `none` for the whole day, which absorbs single periods. -/
def targetScopeByDate (targets : List AbsenceExcuseTarget) : Dict Date (Option (List ℕ)) :=
  targets.foldl widenScope []

def inScope (scope : Dict Date (Option (List ℕ))) (d : Date) (period : ℕ) : Bool :=
  match scope.get? d with
  | some none => true
  | some (some periods) => decide (period ∈ periods)
  | none => false

structure DayPreview where
  attendanceDate : Date
  scope : Option (List ℕ)
  expectedPeriods : ℕ
  scopePeriods : ℕ
  submittedPeriods : ℕ
  missingPeriods : ℕ
  absentPeriods : ℕ
  presentPeriods : ℕ
  complete : Bool
  deriving DecidableEq

/-- What the preview hash binds an approval to. -/
structure PlanFingerprint where
  excuse : ℕ
  targets : List (Date × Option ℕ)
  absences : List (Date × ℕ × ℕ × Bool)
  deriving DecidableEq

structure CoveragePlan where
  covered : List (AttendanceMark × AttendanceSession)
  alreadyExcused : List (AttendanceMark × AttendanceSession)
  days : List DayPreview
  previewHash : Digest PlanFingerprint
  deriving DecidableEq

/-- Lexicographic order of lists, for the sorted lists of a fingerprint. -/
def lexLe : List ℕ → List ℕ → Bool
  | [], _ => true
  | _ :: _, [] => false
  | a :: as, b :: bs => decide (a < b) || (decide (a = b) && lexLe as bs)

def sortedNat (l : List ℕ) : List ℕ := l.insertionSort fun a b => a ≤ b

def School.enrollmentOn (s : School) (d : Date) (student : ℕ) : Option StudentEnrollment :=
  (((s.enrollmentsOnDate d).filter fun e => e.student = student).insertionSort fun a b =>
    b.enrolledAt < a.enrolledAt ∨ (a.enrolledAt = b.enrolledAt ∧ b.id ≤ a.id)).head?

def askSubmittedSequences (enrollment : Option StudentEnrollment) (d : Date) :
    Transaction (List ℕ) :=
  match enrollment with
  | some e => ask fun s => ((s.submittedSessions e.sectionId d).map fun x => x.periodSequence).dedup
  | none => pure []

def dayPreview (excuse : AbsenceExcuse) (d : Date) (dayScope : Option (List ℕ))
    (marks : List (AttendanceMark × AttendanceSession)) : Transaction DayPreview := do
  let context ← dayContextInTransaction d
  let expected := (context.attendancePeriods.map fun p => p.sequence).dedup
  let enrollment ← ask fun s => s.enrollmentOn d excuse.student
  let submitted ← askSubmittedSequences enrollment d
  let scopeSequences := dayScope.getD expected
  let dayMarks := marks.filter fun p =>
    p.2.attendanceDate = d ∧ p.2.periodSequence ∈ scopeSequences
  let submittedInScope := scopeSequences.filter fun x => x ∈ submitted
  let missingInScope := scopeSequences.filter fun x => x ∉ submitted
  pure
    { attendanceDate := d
      scope := dayScope.map sortedNat
      expectedPeriods := expected.length
      scopePeriods := scopeSequences.length
      submittedPeriods := submittedInScope.length
      missingPeriods := missingInScope.length
      absentPeriods := (dayMarks.filter fun p => p.1.status = .absent).length
      presentPeriods := submittedInScope.length - dayMarks.length
      complete := missingInScope = [] ∧ scopeSequences ≠ [] }

def School.marksOfStudentOn (s : School) (student : ℕ) (dates : List Date) :
    List (AttendanceMark × AttendanceSession) :=
  s.submittedMarks.filter fun p => p.1.student = student ∧ p.2.attendanceDate ∈ dates

def absencesInScope (scope : Dict Date (Option (List ℕ)))
    (marks : List (AttendanceMark × AttendanceSession)) :
    List (AttendanceMark × AttendanceSession) :=
  marks.filter fun p =>
    inScope scope p.2.attendanceDate p.2.periodSequence ∧ p.1.status = .absent

/-- The sessions in which an active coverage of another excuse stands. -/
def School.coveredByOther (s : School) (excuse : AbsenceExcuse) (dates : List Date) : List ℕ :=
  (s.coverages.filter fun c => c.student = excuse.student ∧ c.attendanceDate ∈ dates ∧
    c.status = .active ∧ c.excuse ≠ excuse.id).map fun c => c.attendanceSession

def planFingerprint (excuse : AbsenceExcuse) (targets : List AbsenceExcuseTarget)
    (absences : List (AttendanceMark × AttendanceSession)) (coveredByOther : List ℕ) :
    PlanFingerprint where
  excuse := excuse.id
  targets := (targets.map fun t => (t.attendanceDate, t.periodSequence)).insertionSort
    fun a b => lexLe [a.1, a.2.elim 0 (· + 1)] [b.1, b.2.elim 0 (· + 1)]
  absences := (absences.map fun p => (p.2.attendanceDate, p.2.periodSequence, p.1.session,
      decide (p.1.session ∈ coveredByOther))).insertionSort
    fun a b => lexLe [a.1, a.2.1, a.2.2.1, a.2.2.2.toNat] [b.1, b.2.1, b.2.2.1, b.2.2.2.toNat]

def Transaction.collect {α β : Type} (body : α → Transaction β) : List α → Transaction (List β)
  | [] => pure []
  | a :: as => do
    let b ← body a
    let bs ← Transaction.collect body as
    pure (b :: bs)

/-- The targets of an excuse resolved against what attendance has on record now. -/
def resolveCoveragePlan (excuse : AbsenceExcuse) : Transaction CoveragePlan := do
  let targets ← ask fun s => s.targetsOf excuse.id
  let scope := targetScopeByDate targets
  let dates := sortedNat scope.keys
  let marks ← ask fun s => s.marksOfStudentOn excuse.student dates
  let absentInScope := absencesInScope scope marks
  let coveredByOther ← ask fun s => s.coveredByOther excuse dates
  let days ← Transaction.collect
    (fun d => dayPreview excuse d ((scope.get? d).getD none) marks) dates
  pure
    { covered := absentInScope.filter fun p => p.1.session ∉ coveredByOther
      alreadyExcused := absentInScope.filter fun p => p.1.session ∈ coveredByOther
      days := days
      previewHash := ⟨planFingerprint excuse targets absentInScope coveredByOther⟩ }

/-! ## Approval -/

def absenceAlreadyExcused (dates : List Date) : ApiError where
  code := "ABSENCE_ALREADY_EXCUSED"
  message := "بعض حالات الغياب المستهدفة مغطاة مسبقًا بعذر معتمد آخر."
  statusCode := 409
  details := if dates = [] then [] else [("dates", .dates dates)]

def excusePreviewStale : ApiError where
  code := "EXCUSE_PREVIEW_STALE"
  message := "تغير سجل الحضور منذ معاينة العذر. يرجى إعادة المعاينة."
  statusCode := 409

def excuseNoAbsenceFound : ApiError where
  code := "EXCUSE_NO_ABSENCE_FOUND"
  message := "لا توجد حالة غياب مسجلة ضمن نطاق هذا العذر."
  statusCode := 409

/-- `select_for_update().get(id=…)` on an excuse; `related` are the rows joined to it, which the
statement locks as well. -/
def getExcuseForUpdate (id : ℕ) (related : AbsenceExcuse → List Row) :
    Transaction AbsenceExcuse := do
  let found ← Tx.selectForUpdate
    (fun s => (s.excuse? id).elim [] fun x => Row.excuse x.id :: related x)
    fun _ s => s.excuse? id
  match found with
  | some excuse => pure excuse
  | none => .raise (.doesNotExist "AbsenceExcuse")

def NewCoverage.ofPlan (excuse : AbsenceExcuse) (p : AttendanceMark × AttendanceSession) :
    NewCoverage where
  excuse := excuse.id
  student := excuse.student
  attendanceSession := p.1.session
  attendanceDate := p.2.attendanceDate
  periodSequenceSnapshot := p.2.periodSequence

def checkPlan (plan : CoveragePlan) (previewHash : Digest PlanFingerprint) :
    Except ApiError Unit :=
  if previewHash ≠ plan.previewHash then .error excusePreviewStale
  else if plan.alreadyExcused ≠ [] then
    .error (absenceAlreadyExcused
      (sortedNat (plan.alreadyExcused.map fun p => p.2.attendanceDate).dedup))
  else if plan.covered = [] ∧ plan.days.all (fun day => day.missingPeriods = 0) then
    .error excuseNoAbsenceFound
  else .ok ()

def approveLocked (now : Instant) (excuseId : ℕ) (previewHash : Digest PlanFingerprint) :
    Transaction (AbsenceExcuse × CoveragePlan) := do
  let excuse ← getExcuseForUpdate excuseId fun x => [.student x.student]
  if excuse.status ≠ .pending then raiseNotPending excuse else do
    let plan ← resolveCoveragePlan excuse
    orRaise (checkPlan plan previewHash)
    let new := plan.covered.map (NewCoverage.ofPlan excuse)
    let inserted ← insertCoverages new
    if !inserted then raiseApi (absenceAlreadyExcused []) else do
      let approved := { excuse with status := .approved, approvedAt := some now }
      Tx.updateWhere (fun _ => [Row.excuse excuse.id]) fun _ s => s.putExcuse approved
      checkReferences (new.flatMap NewCoverage.references)
      pure (approved, plan)

def approveExcuse (now : Instant) (recalculatedAt : ℕ → Date → Instant) (excuseId : ℕ)
    (previewHash : Digest PlanFingerprint) : Operation AbsenceExcuse := do
  let (excuse, plan) ← Program.transaction (approveLocked now excuseId previewHash)
  recalculateForSessions recalculatedAt (plan.covered.map Prod.snd)
  pure excuse

def excuseNotApproved : ApiError where
  code := "VALIDATION_ERROR"
  message := "لا يمكن إلغاء عذر غير معتمد."
  statusCode := 409

def School.activeCoveragesOf (s : School) (excuse : ℕ) :
    List (AbsenceExcuseCoverage × AttendanceSession) :=
  (s.coverages.filter fun c => c.excuse = excuse ∧ c.status = .active).filterMap fun c =>
    (s.session? c.attendanceSession).map fun x => (c, x)

def cancelLocked (now : Instant) (excuseId : ℕ) :
    Transaction (AbsenceExcuse × List (AbsenceExcuseCoverage × AttendanceSession)) := do
  let excuse ← getExcuseForUpdate excuseId fun _ => []
  if excuse.status ≠ .approved then
    if excuse.status = .cancelled then raiseNotPending excuse else raiseApi excuseNotApproved
  else do
    let active ← ask fun s => s.activeCoveragesOf excuse.id
    voidWhere (fun c => c.excuse = excuse.id ∧ c.status = .active) now voidReasonExcuseCancelled
    let cancelled := { excuse with status := .cancelled, cancelledAt := some now }
    Tx.updateWhere (fun _ => [Row.excuse excuse.id]) fun _ s => s.putExcuse cancelled
    pure (cancelled, active)

def cancelExcuse (now : Instant) (reconciledAt : Date → Instant)
    (recalculatedAt : ℕ → Date → Instant) (excuseId : ℕ) : Operation AbsenceExcuse := do
  let (excuse, active) ← Program.transaction (cancelLocked now excuseId)
  -- Another approved excuse may be for the same absence.
  Program.forEach
    (fun d => do
      let _ ← reconciliation (reconciledAt d) d (some [excuse.student])
      pure ())
    (active.map fun p => p.1.attendanceDate).dedup
  recalculateForSessions recalculatedAt (active.map Prod.snd)
  pure excuse

def rejectLocked (now : Instant) (excuseId : ℕ) : Transaction AbsenceExcuse := do
  let excuse ← getExcuseForUpdate excuseId fun _ => []
  if excuse.status ≠ .pending then raiseNotPending excuse else do
    let rejected := { excuse with status := .rejected, rejectedAt := some now }
    Tx.updateWhere (fun _ => [Row.excuse excuse.id]) fun _ s => s.putExcuse rejected
    pure rejected

def rejectExcuse (now : Instant) (excuseId : ℕ) : Operation AbsenceExcuse :=
  Program.transaction (rejectLocked now excuseId)

/-! ## Validation of targets -/

structure TargetInput where
  attendanceDate : Date
  periodSequence : Option ℕ
  deriving DecidableEq

def invalidTarget (message : String) (details : List (String × Detail)) : ApiError where
  code := "EXCUSE_INVALID_TARGET"
  message := message
  details := details

/-- What the validation of targets reads before it looks at them one by one. -/
structure TargetEvidence where
  today : Date
  years : List AcademicYear
  enrollments : List StudentEnrollment
  recordedAbsences : List (Date × ℕ)
  contexts : List AttendanceDayContext

def School.recordedAbsences (s : School) (student : ℕ) (dates : List Date) : List (Date × ℕ) :=
  ((s.marksOfStudentOn student dates).filter fun p => p.1.status = .absent).map
    fun p => (p.2.attendanceDate, p.2.academicYear)

/-- The years that make the student eligible on a date: by enrollment, and up to today by a
recorded absence. -/
def TargetEvidence.eligibleYears (e : TargetEvidence) (d : Date) : List ℕ :=
  let matching := (e.years.filter fun y => y.startDate ≤ d ∧ d ≤ y.endDate).map fun y => y.id
  let enrolled := (e.enrollments.filter fun x => x.academicYear ∈ matching ∧ x.validOn d).map
    fun x => x.academicYear
  let recorded := if d ≤ e.today then
      (e.recordedAbsences.filter fun r => r.1 = d ∧ r.2 ∈ matching).map Prod.snd
    else []
  enrolled ++ recorded

/-- The periods a target of the day may name: those of the frozen timetable, of the sessions on
record for a past day without one, else of the current timetable. -/
def validSequences (e : TargetEvidence) (d : Date) : Transaction (List ℕ) := do
  let eligible := e.eligibleYears d
  let context := e.contexts.find? fun c => c.attendanceDate = d
  match context.filter fun c => c.academicYear.any (· ∈ eligible) with
  | some c => pure (c.attendancePeriods.map fun p => p.sequence)
  | none =>
    if d < e.today then
      ask fun s => (s.sessions.filter fun x => x.attendanceDate = d ∧
        x.academicYear ∈ eligible ∧ x.status = .submitted).map fun x => x.periodSequence
    else do
      let snapshot ← buildDayScheduleSnapshot d
      pure ((snapshot.periods.filter fun p => p.isAttendancePeriod).map fun p => p.sequence)

def validateTarget (e : TargetEvidence) (allowFuture : Bool) (seen : List TargetInput)
    (t : TargetInput) : Transaction Unit := do
  let d := t.attendanceDate
  if e.today < d ∧ !allowFuture then
    raiseApi
      { code := "EXCUSE_FUTURE_DATE_NOT_ALLOWED"
        message := "لا يمكن تسجيل عذر لتاريخ مستقبلي." }
  else if e.years.all fun y => !(decide (y.startDate ≤ d) && decide (d ≤ y.endDate)) then
    raiseApi
      { code := "EXCUSE_DATE_OUTSIDE_ACADEMIC_YEAR"
        message := "تاريخ العذر خارج الأعوام الدراسية المسجلة للمدرسة."
        details := [("attendance_date", .date d)] }
  else if e.eligibleYears d = [] then
    raiseApi
      { code := "EXCUSE_STUDENT_NOT_ENROLLED_ON_DATE"
        message := "الطالب غير مقيد في المدرسة بتاريخ العذر."
        details := [("attendance_date", .date d)] }
  else if t ∈ seen then raiseApi (invalidTarget "توجد أهداف مكررة في العذر." [])
  else match t.periodSequence with
    | none => pure ()
    | some sequence => do
      let valid ← validSequences e d
      if sequence ∈ valid then pure ()
      else raiseApi (invalidTarget
        "الحصة المحددة غير موجودة في جدول ذلك اليوم أو في سجله التاريخي."
        [("attendance_date", .date d), ("period_sequence", .number sequence)])

def validateEach (e : TargetEvidence) (allowFuture : Bool) (seen : List TargetInput) :
    List TargetInput → Transaction Unit
  | [] => pure ()
  | t :: ts => do
    validateTarget e allowFuture seen t
    validateEach e allowFuture (t :: seen) ts

def validateTargets (today : Date) (student : ℕ) (targets : List TargetInput)
    (allowFuture : Bool) : Transaction (List TargetInput) := do
  if targets = [] then raiseApi (invalidTarget "يجب تحديد يوم أو حصة واحدة على الأقل." [])
  else if maxTargetsPerExcuse < targets.length then
    raiseApi (invalidTarget "عدد الأهداف يتجاوز الحد المسموح (60)." [])
  else do
    let dates := targets.map fun t => t.attendanceDate
    let years ← ask fun s => s.registry.academicYears.filter fun y =>
      y.startDate ≤ dates.foldr max 0 ∧ dates.any (· ≤ y.endDate)
    let yearIds := years.map fun y => y.id
    let enrollments ← ask fun s => s.registry.enrollments.filter fun x =>
      x.student = student ∧ x.academicYear ∈ yearIds
    let recordedAbsences ← ask fun s => s.recordedAbsences student dates
    let contexts ← ask fun s => s.dayContexts.filter fun c => c.attendanceDate ∈ dates
    validateEach
      { today := today
        years := years
        enrollments := enrollments
        recordedAbsences := recordedAbsences
        contexts := contexts } allowFuture [] targets
    let fullDays := (targets.filter fun t => t.periodSequence = none).map fun t => t.attendanceDate
    let conflicting := (targets.filter fun t =>
      t.periodSequence ≠ none ∧ t.attendanceDate ∈ fullDays).map fun t => t.attendanceDate
    if conflicting = [] then pure targets
    else raiseApi (invalidTarget "لا يمكن الجمع بين هدف يوم كامل وأهداف حصص لنفس التاريخ."
      [("dates", .dates (sortedNat conflicting.dedup))])

/-! ## Creation and change -/

/-- A target that was there already applies where the new one does. -/
def TargetInput.overlaps (t : TargetInput) (existing : AbsenceExcuseTarget) : Bool :=
  t.attendanceDate = existing.attendanceDate ∧
    (existing.periodSequence = none ∨ t.periodSequence = none ∨
      existing.periodSequence = t.periodSequence)

def School.approvedTargetsOf (s : School) (student : ℕ) (dates : List Date) :
    List AbsenceExcuseTarget :=
  s.targets.filter fun t => t.attendanceDate ∈ dates ∧
    (s.excuse? t.excuse).any fun x => x.student = student ∧ x.status = .approved

def School.addExcuse (s : School) (excuse : AbsenceExcuse) (targets : List TargetInput) :
    School :=
  { s with
    excuses := s.excuses ++ [excuse]
    targets := s.targets ++ targets.map fun t =>
      ⟨excuse.id, t.attendanceDate, t.periodSequence⟩ }

def School.replaceTargets (s : School) (excuse : ℕ) (targets : List TargetInput) : School :=
  { s with targets := (s.targets.filter fun t => t.excuse ≠ excuse) ++ targets.map fun t =>
      ⟨excuse, t.attendanceDate, t.periodSequence⟩ }

def lockStudent (id : ℕ) : Transaction Student := do
  let found ← Tx.selectForUpdate
    (fun s => (s.registry.students.find? fun x => x.id = id).elim [] fun x => [Row.student x.id])
    fun _ s => s.registry.students.find? fun x => x.id = id
  match found with
  | some student => pure student
  | none => .raise (.doesNotExist "Student")

def refuseOverlap (student : ℕ) (targets : List TargetInput) : Transaction Unit := do
  let existing ← ask fun s => s.approvedTargetsOf student (targets.map fun t => t.attendanceDate)
  match existing.find? fun x => targets.any fun t => t.overlaps x with
  | some x =>
    raiseApi
      { code := "EXCUSE_TARGET_ALREADY_COVERED"
        message := "يوجد عذر معتمد للطالب في هذا اليوم أو الحصة."
        statusCode := 409
        details := [("attendance_date", .date x.attendanceDate)] }
  | none => pure ()

/-- `INSERT` of an excuse and its targets; the sequence of the table hands out `id`. -/
def insertExcuse (excuse : AbsenceExcuse) (targets : List TargetInput) : Transaction Unit := do
  Tx.lockRows .update [.excuse excuse.id]
  let taken ← ask fun s => s.excuse? excuse.id
  if taken ≠ none then .raise (.integrityError "excuses_absenceexcuse_pkey")
  else Tx.update fun s => s.addExcuse excuse targets

/-- Bring the coverages of the days with an absence in line with a new approved excuse. -/
def coverNewExcuse (reconciledAt : Date → Instant) (student : ℕ) (targets : List TargetInput) :
    Transaction (List NewCoverage) := do
  let days ← ask fun s => ((s.recordedAbsences student
    (targets.map fun t => t.attendanceDate)).map Prod.fst).dedup
  let results ← Transaction.collect
    (fun d => reconcileExcuseCoverageForDate (reconciledAt d) d (some [student])) days
  pure (results.flatMap fun r => r.created)

def newExcuse (now : Instant) (id student : ℕ) (approveImmediately : Bool) : AbsenceExcuse where
  id := id
  student := student
  status := if approveImmediately then .approved else .pending
  recordedAt := now
  approvedAt := if approveImmediately then some now else none
  rejectedAt := none
  cancelledAt := none

/-- The transaction of a creation. For an excuse approved at once the student is locked first,
targets that an approved excuse already has are refused, and coverages are brought in line before
it commits. -/
def createLocked (now : Instant) (reconciledAt : Date → Instant) (today : Date) (newId : ℕ)
    (student : ℕ) (targets : List TargetInput) (approveImmediately : Bool) :
    Transaction AbsenceExcuse := do
  let excuse := newExcuse now newId student approveImmediately
  if approveImmediately then do
    let _ ← lockStudent student
    let validated ← validateTargets today student targets true
    refuseOverlap student validated
    insertExcuse excuse validated
    let created ← coverNewExcuse reconciledAt student validated
    checkReferences (.student student :: created.flatMap NewCoverage.references)
    pure excuse
  else do
    let validated ← validateTargets today student targets false
    insertExcuse excuse validated
    checkReferences [.student student]
    pure excuse

def createExcuse (now : Instant) (reconciledAt : Date → Instant)
    (recalculatedAt : ℕ → Date → Instant) (today : Date) (newId : ℕ) (student : ℕ)
    (targets : List TargetInput) (approveImmediately : Bool) : Operation AbsenceExcuse := do
  let excuse ← Program.transaction
    (createLocked now reconciledAt today newId student targets approveImmediately)
  if !approveImmediately then pure excuse else do
    let covered ← ask fun s => s.activeCoveragesOf excuse.id
    recalculateForSessions recalculatedAt (covered.map Prod.snd)
    pure excuse

/-- The transaction of a change; an approved excuse is cancelled and recorded again instead. -/
def updateLocked (today : Date) (excuseId : ℕ) (targets : Option (List TargetInput)) :
    Transaction AbsenceExcuse := do
  let excuse ← getExcuseForUpdate excuseId fun _ => []
  if excuse.status ≠ .pending then raiseNotPending excuse else
    match targets with
    | none => pure excuse
    | some ts => do
      let validated ← validateTargets today excuse.student ts true
      Tx.update fun s => s.replaceTargets excuse.id validated
      pure excuse

def updateExcuse (today : Date) (excuseId : ℕ) (targets : Option (List TargetInput)) :
    Operation AbsenceExcuse :=
  Program.transaction (updateLocked today excuseId targets)

/-!
## The preview of an excuse

Before an excuse is approved its plan of coverages is resolved and shown, with the hash that
the approval is bound to. The preview runs outside a transaction: what it reads is read statement
by statement, and a context of the day that is missing is created on the way.
-/

def dayPreviewOf (d : Date) (dayScope : Option (List ℕ))
    (marks : List (AttendanceMark × AttendanceSession)) (context : AttendanceDayContext)
    (submitted : List ℕ) : DayPreview :=
  let expected := (context.attendancePeriods.map fun p => p.sequence).dedup
  let scopeSequences := dayScope.getD expected
  let dayMarks := marks.filter fun p =>
    p.2.attendanceDate = d ∧ p.2.periodSequence ∈ scopeSequences
  let submittedInScope := scopeSequences.filter fun x => x ∈ submitted
  let missingInScope := scopeSequences.filter fun x => x ∉ submitted
  { attendanceDate := d
    scope := dayScope.map sortedNat
    expectedPeriods := expected.length
    scopePeriods := scopeSequences.length
    submittedPeriods := submittedInScope.length
    missingPeriods := missingInScope.length
    absentPeriods := (dayMarks.filter fun p => p.1.status = .absent).length
    presentPeriods := submittedInScope.length - dayMarks.length
    complete := missingInScope = [] ∧ scopeSequences ≠ [] }

def coveragePlanOf (excuse : AbsenceExcuse) (targets : List AbsenceExcuseTarget)
    (marks : List (AttendanceMark × AttendanceSession)) (coveredByOther : List ℕ)
    (days : List DayPreview) : CoveragePlan :=
  let absentInScope := absencesInScope (targetScopeByDate targets) marks
  { covered := absentInScope.filter fun p => p.1.session ∉ coveredByOther
    alreadyExcused := absentInScope.filter fun p => p.1.session ∈ coveredByOther
    days := days
    previewHash := ⟨planFingerprint excuse targets absentInScope coveredByOther⟩ }

/-- `_day_preview` outside a transaction. -/
def showDay (excuse : AbsenceExcuse) (dayScope : Option (List ℕ))
    (marks : List (AttendanceMark × AttendanceSession)) (d : Date) : Operation DayPreview := do
  let context ← getOrCreateAttendanceDayContext d
  let enrollment ← ask fun s => s.enrollmentOn d excuse.student
  let submitted ← match enrollment with
    | some e => ask fun s =>
      ((s.submittedSessions e.sectionId d).map fun x => x.periodSequence).dedup
    | none => pure []
  pure (dayPreviewOf d dayScope marks context submitted)

def showDays (excuse : AbsenceExcuse) (scope : Dict Date (Option (List ℕ)))
    (marks : List (AttendanceMark × AttendanceSession)) : List Date → Operation (List DayPreview)
  | [] => pure []
  | d :: ds => do
    let day ← showDay excuse ((scope.get? d).getD none) marks d
    let days ← showDays excuse scope marks ds
    pure (day :: days)

/-- `resolve_coverage_plan` outside a transaction. -/
def showPlan (excuse : AbsenceExcuse) : Operation CoveragePlan := do
  let targets ← ask fun s => s.targetsOf excuse.id
  let scope := targetScopeByDate targets
  let dates := sortedNat scope.keys
  let marks ← ask fun s => s.marksOfStudentOn excuse.student dates
  let coveredByOther ← ask fun s => s.coveredByOther excuse dates
  let days ← showDays excuse scope marks dates
  pure (coveragePlanOf excuse targets marks coveredByOther days)

structure ExcusePreview where
  excuseId : ℕ
  days : List DayPreview
  coveredAbsentPeriods : ℕ
  alreadyExcusedPeriods : ℕ
  alreadyExcusedDates : List Date
  previewHash : Digest PlanFingerprint
  deriving DecidableEq

def excuseNotFound : ApiError where
  code := "EXCUSE_NOT_FOUND"
  message := "العذر غير موجود."
  statusCode := 404

def previewNotPending : ApiError where
  code := "VALIDATION_ERROR"
  message := "المعاينة متاحة للأعذار بانتظار الاعتماد فقط."
  statusCode := 409

def ExcusePreview.ofPlan (excuse : AbsenceExcuse) (plan : CoveragePlan) : ExcusePreview where
  excuseId := excuse.id
  days := plan.days
  coveredAbsentPeriods := plan.covered.length
  alreadyExcusedPeriods := plan.alreadyExcused.length
  alreadyExcusedDates := sortedNat (plan.alreadyExcused.map fun p => p.2.attendanceDate).dedup
  previewHash := plan.previewHash

/-- `POST` on the preview of an excuse. -/
def previewExcuse (excuseId : ℕ) : Operation ExcusePreview := do
  let found ← ask fun s => s.excuse? excuseId
  match found with
  | none => .raise (.api excuseNotFound)
  | some excuse =>
    if excuse.status ≠ .pending then .raise (.api previewNotPending) else do
      let plan ← showPlan excuse
      pure (ExcusePreview.ofPlan excuse plan)

end SchoolPlatform
