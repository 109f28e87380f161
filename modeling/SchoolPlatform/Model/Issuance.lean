import SchoolPlatform.Model.Timetable
import SchoolPlatform.Model.Warnings

/-!
# Issuing warnings, and the changes that warnings rest on

A warning is issued on a metric that has been read before its transaction begins; the numbers and
days that it keeps are read in the transaction, one query after another. A change of attendance or
arrivals reconciles the warnings of its students before it commits.
-/

namespace SchoolPlatform

open ReadCommitted

/-- `DEFAULT_THRESHOLDS`, the same for both types. -/
def WarningLevel.defaultThreshold : WarningLevel → ℕ
  | .level1 => 3
  | .level2 => 5
  | .level3 => 10

def WarningOffice.threshold (s : WarningOffice) (warningType : WarningRuleType)
    (level : WarningLevel) : ℕ :=
  match s.rules.find? fun r => r.ruleType = warningType ∧ r.level = level with
  | some r => r.threshold
  | none => level.defaultThreshold

def WarningOffice.typeEnabled (s : WarningOffice) (warningType : WarningRuleType) : Bool :=
  s.rules.all fun r => r.ruleType = warningType → r.isEnabled

/-- A request to issue a warning; a type or level that is none of the known ones is `none`. -/
structure IssueRequest where
  membership : ℕ
  student : ℕ
  warningType : Option WarningRuleType
  level : Option WarningLevel
  notes : String := ""
  deriving DecidableEq

def unknownType : OfficeFailure :=
  officeError "WARNING_RULE_NOT_FOUND" "نوع الإنذار غير معروف." 404

def unknownLevel : OfficeFailure :=
  officeError "WARNING_RULE_NOT_FOUND" "مستوى الإنذار غير معروف." 404

def warningAlreadyIssued : OfficeFailure :=
  officeError "WARNING_ALREADY_ISSUED" "تم إصدار هذا المستوى من الإنذار للطالب مسبقاً." 409

def levelNotReached (current threshold : ℕ) : OfficeFailure :=
  officeError "WARNING_LEVEL_NOT_REACHED" "لم يصل الطالب بعد إلى الحد المحدد لهذا الإنذار." 409
    [("current_value", .number current), ("threshold", .number threshold)]

def WarningOffice.levelIssued (s : WarningOffice) (student year : ℕ)
    (warningType : WarningRuleType) (level : WarningLevel) : Bool :=
  s.warnings.any fun w => w.student = student ∧ w.academicYear = year ∧
    w.warningType = warningType ∧ w.level = level ∧ w.status = .issued

/-- The names of the grade and section of the student's last enrollment in the year. -/
def WarningOffice.placement (s : WarningOffice) (student year : ℕ) : String × String :=
  let enrollments := (s.school.registry.enrollments.filter fun e =>
    e.student = student ∧ e.academicYear = year).insertionSort fun a b => b.enrolledAt ≤ a.enrolledAt
  match enrollments.head? with
  | none => ("", "")
  | some e =>
    (((s.school.registry.grades.find? fun g => g.id = e.grade).map fun g => g.name).getD "",
      ((s.school.registry.sections.find? fun x => x.id = e.sectionId).map fun x => x.name).getD "")

/-- The rows that a warning lists (`_detail_rows_snapshot`), by date. -/
def WarningOffice.detailRows (s : WarningOffice) (year : AcademicYear) (student : ℕ) :
    WarningRuleType → List DetailRow
  | .unexcusedFullDayAbsence =>
    (((s.summariesOf student year.id).filter fun r => r.isUnexcusedFullDay).insertionSort
      fun a b => a.attendanceDate ≤ b.attendanceDate).map fun r => { date := r.attendanceDate }
  | .morningLateOccurrences =>
    ((s.lateArrivalsOf student year).insertionSort
      fun a b => a.attendanceDate ≤ b.attendanceDate).map fun a =>
        { date := a.attendanceDate
          arrival := some (a.firstArrivalAt, a.lateness.countedLateMinutes) }

def total {α : Type} (column : α → ℕ) (rows : List α) : ℕ :=
  rows.foldl (fun n r => n + column r) 0

/-- What the columns of a warning take: its names are shorter than those of a student may be. -/
def StudentWarning.fits (w : StudentWarning) : Bool :=
  w.studentNameSnapshot.length ≤ 150 && w.gradeNameSnapshot.length ≤ 100 &&
    w.sectionNameSnapshot.length ≤ 50 && w.nationalIdMaskedSnapshot.length ≤ 20 &&
    [w.thresholdAtIssue, w.metricValueAtIssue, w.fullAbsenceDaysAtIssue,
      w.unexcusedFullAbsenceDaysAtIssue, w.excusedFullAbsenceDaysAtIssue, w.absentPeriodsAtIssue,
      w.unexcusedAbsentPeriodsAtIssue, w.morningLateOccurrencesAtIssue].all (· ≤ 32767) &&
    w.morningLateMinutesAtIssue ≤ 2147483647

/-- The transaction of `issue_student_warning`. -/
def issueWarning (r : IssueRequest) (now : Instant) (student : Student) (year : AcademicYear)
    (semester : Option ℕ) (warningType : WarningRuleType) (level : WarningLevel)
    (threshold value : ℕ) : WarningTransaction Unit := do
  let placement ← Tx.select fun s => s.placement student.id year.id
  let summary ← Tx.select fun s =>
    let rows := s.summariesOf student.id year.id
    ((rows.filter fun r => r.absenceStatus = .full).length, total (fun r => r.absentPeriods) rows)
  let arrivals ← Tx.select fun s =>
    let rows := s.lateArrivalsOf student.id year
    (rows.length, total (fun a => a.lateness.countedLateMinutes) rows)
  let unexcusedFull ← Tx.select fun s =>
    ((s.summariesOf student.id year.id).filter fun r => r.isUnexcusedFullDay).length
  let excusedFull ← Tx.select fun s => ((s.summariesOf student.id year.id).filter fun r =>
    r.absenceStatus = .full ∧ r.unexcusedAbsentPeriods = 0 ∧ 0 < r.excusedAbsentPeriods).length
  let unexcusedPeriods ← Tx.select fun s =>
    total (fun r => r.unexcusedAbsentPeriods) (s.summariesOf student.id year.id)
  let rows ← Tx.select fun s => s.detailRows year student.id warningType
  let w : StudentWarning :=
    { student := student.id
      academicYear := year.id
      semester := semester
      warningType := warningType
      level := level
      thresholdAtIssue := threshold
      metricValueAtIssue := value
      studentNameSnapshot := student.fullName
      gradeNameSnapshot := placement.1
      sectionNameSnapshot := placement.2
      nationalIdMaskedSnapshot := student.nationalIdMasked
      fullAbsenceDaysAtIssue := summary.1
      unexcusedFullAbsenceDaysAtIssue := unexcusedFull
      excusedFullAbsenceDaysAtIssue := excusedFull
      absentPeriodsAtIssue := summary.2
      unexcusedAbsentPeriodsAtIssue := unexcusedPeriods
      morningLateOccurrencesAtIssue := arrivals.1
      morningLateMinutesAtIssue := arrivals.2
      detailRowsSnapshot := rows
      issuedByMembership := r.membership
      issuedAt := now
      notes := String.ofList (r.notes.toList.take 300) }
  if !w.fits then .raise (.failure (.dataError "student_warnings_studentwarning"))
  else do
    Tx.lockRows .update [WarningRow.warningKey student.id year.id warningType level]
    let taken ← Tx.select fun s => s.levelIssued student.id year.id warningType level
    if taken then .raise warningAlreadyIssued
    else Tx.update fun s => { s with warnings := s.warnings ++ [w] }

/-- `issue_student_warning` of a type and a level that are known, to a student that the view has
found. -/
def issueLevel (r : IssueRequest) (now : Instant) (student : Student)
    (warningType : WarningRuleType) (level : WarningLevel) : WarningProgram Unit := do
  let year ← Program.read fun s => s.school.activeYear
  match year with
  | none => .raise (.failure (.api activeYearRequiredError))
  | some year => do
    let enabled ← Program.read fun s => s.typeEnabled warningType
    if !enabled then
      .raise (officeError "WARNING_TYPE_DISABLED"
        "هذا النوع من الإنذارات غير مفعّل في إعدادات المدرسة." 409)
    else do
      -- The evaluation reads the metric of both types.
      let threshold ← Program.read fun s => s.threshold warningType level
      let issued ← Program.read fun s => s.levelIssued student.id year.id warningType level
      let late ← Program.read fun s => s.metric year .morningLateOccurrences student.id
      let absences ← Program.read fun s => s.metric year .unexcusedFullDayAbsence student.id
      let value := match warningType with
        | .unexcusedFullDayAbsence => absences
        | .morningLateOccurrences => late
      if issued then .raise warningAlreadyIssued
      else if value < threshold then .raise (levelNotReached value threshold)
      else do
        let semester ← Program.read fun s => s.activeSemester
        Program.transaction
          (issueWarning r now student year semester warningType level threshold value)

def issueStudentWarning (r : IssueRequest) (now : Instant) : WarningProgram Unit := do
  let found ← Program.read fun s => s.school.student? r.student
  match found with
  | none => .raise (.failure (.api notFoundError))
  | some student =>
    match r.warningType, r.level with
    | none, _ => .raise unknownType
    | _, none => .raise unknownLevel
    | some warningType, some level => issueLevel r now student warningType level

def attendancePart : Part School WarningOffice Row WarningRow Failure OfficeFailure where
  get := fun s => s.school
  set := fun school s => { s with school := school }
  row := WarningRow.attendance
  error := OfficeFailure.failure

def recalculate (now : Instant) (c : SectionCounters) (membership : Option ℕ) :
    WarningTransaction Unit := do
  let _ ← (writeSummaries now c).zoom attendancePart
  reconcileIssuedWarnings c.students .unexcusedFullDayAbsence membership now

def SchoolArrival.sameDay (a b : SchoolArrival) : Bool :=
  a.student = b.student ∧ a.attendanceDate = b.attendanceDate

def WarningOffice.putArrival (s : WarningOffice) (a : SchoolArrival) : WarningOffice :=
  { s with arrivals := s.arrivals.map fun x => if x.sameDay a then a else x }

def WarningOffice.addArrivals (s : WarningOffice) (rows : List SchoolArrival) : WarningOffice :=
  { s with arrivals := s.arrivals ++ rows }

/-- The row of an arrival, and its entry in the unique index: an insertion waits for whoever changes
the row of its key. -/
def SchoolArrival.row (a : SchoolArrival) : WarningRow := .arrival a.student a.attendanceDate

namespace Morning

def arrivalExists (message : String) : OfficeFailure :=
  officeError "ARRIVAL_ALREADY_EXISTS" message 409

/-- Insert those of some rows whose key is free (`bulk_create(ignore_conflicts=True)`). -/
def insertArrivals (rows : List SchoolArrival) : WarningTransaction Unit := do
  Tx.lockRows .update (rows.map SchoolArrival.row)
  let free ← Tx.select fun s => rows.filter fun a => !s.arrivals.any fun x => x.sameDay a
  Tx.update fun s => s.addArrivals free

/-- `apply_arrival_events_bulk`, of the arrivals that the earliest events of each student and date
make. A row that is there is corrected by an earlier event. -/
def applyArrivalEventsBulk (rows : List SchoolArrival) (now : Instant) :
    WarningTransaction Unit := do
  let existing ← Tx.selectForUpdate
    (fun s => (s.arrivals.filter fun x => x.attendanceDate ∈ rows.map (fun a => a.attendanceDate) ∧
      x.student ∈ rows.map fun a => a.student).map SchoolArrival.row)
    fun keys s => s.arrivals.filter fun x => x.row ∈ keys
  let corrected := rows.filter fun a => existing.any fun x =>
    x.sameDay a && decide (a.firstArrivalAt < x.firstArrivalAt)
  let created := rows.filter fun a => !existing.any fun x => x.sameDay a
  Tx.forEach (fun a => Tx.update fun s => s.putArrival a) corrected
  insertArrivals created
  reconcileIssuedWarnings (corrected.map fun a => a.student) .morningLateOccurrences none now

/-- `apply_arrival_event`: a creation that meets a row aborts the transaction. -/
def applyArrivalEvent (a : SchoolArrival) (now : Instant) : WarningTransaction Unit := do
  let existing ← Tx.selectForUpdate
    (fun s => (s.arrivals.filter fun x => x.sameDay a).map SchoolArrival.row)
    fun keys s => s.arrivals.filter fun x => x.row ∈ keys
  match existing.head? with
  | none => do
    Tx.lockRows .update [a.row]
    let taken ← Tx.select fun s => s.arrivals.any fun x => x.sameDay a
    if taken then .raise (.failure .transactionAborted)
    else Tx.update fun s => s.addArrivals [a]
  | some x =>
    if a.firstArrivalAt < x.firstArrivalAt then do
      Tx.lockRows .noKeyUpdate [a.row]
      Tx.update fun s => s.putArrival a
      reconcileIssuedWarnings [a.student] .morningLateOccurrences none now
    else pure ()

/-- `correct_arrival` of a row that the view has found. -/
def correctArrival (membership : ℕ) (a : SchoolArrival) (now : Instant) : WarningProgram Unit := do
  let found ← Program.read fun s => s.arrivals.any fun x => x.sameDay a
  if !found then .raise (.failure (.api notFoundError))
  else Program.transaction do
    Tx.lockRows .noKeyUpdate [a.row]
    Tx.update fun s => s.putArrival a
    reconcileIssuedWarnings [a.student] .morningLateOccurrences (some membership) now

def createManualArrival (a : SchoolArrival) : WarningProgram Unit := do
  let found ← Program.read fun s => s.arrivals.any fun x => x.sameDay a
  if found then .raise (arrivalExists
    "يوجد سجل وصول لهذا الطالب في هذا اليوم — استخدم «تصحيح وقت الوصول».")
  else Program.transaction do
    Tx.lockRows .update [a.row]
    let taken ← Tx.select fun s => s.arrivals.any fun x => x.sameDay a
    if taken then .raise (arrivalExists
      "سجّل مكلّف آخر وصول هذا الطالب بالفعل — حدّث القائمة قبل التصحيح.")
    else Tx.update fun s => s.addArrivals [a]

end Morning

/-- Warnings are issued and voided while the facts under them change. The rows of a change have been
worked out before its transaction, from what may be old by then: they are arbitrary. -/
inductive WarningCall
  | issue (r : IssueRequest) (now : Instant)
  | voidWarning (membership warning : ℕ) (now : Instant) (reason : String)
  | recalculate (now : Instant) (c : SectionCounters) (membership : Option ℕ)
  | applyArrivalEventsBulk (rows : List SchoolArrival) (now : Instant)
  | applyArrivalEvent (a : SchoolArrival) (now : Instant)
  | correctArrival (membership : ℕ) (a : SchoolArrival) (now : Instant)
  | createManualArrival (a : SchoolArrival)

def WarningCall.program : WarningCall → WarningProgram Unit
  | .issue r now => issueStudentWarning r now
  | .voidWarning membership warning now reason => voidStudentWarning membership warning now reason
  | .recalculate now c membership =>
    Program.transaction (SchoolPlatform.recalculate now c membership)
  | .applyArrivalEventsBulk rows now =>
    Program.transaction (Morning.applyArrivalEventsBulk rows now)
  | .applyArrivalEvent a now => Program.transaction (Morning.applyArrivalEvent a now)
  | .correctArrival membership a now => Morning.correctArrival membership a now
  | .createManualArrival a => Morning.createManualArrival a

end SchoolPlatform
