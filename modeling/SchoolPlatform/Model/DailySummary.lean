import SchoolPlatform.Model.Calendar
import Mathlib.Data.List.Dedup

/-!
# Daily summaries

`recalculateDailyAttendanceForSection` reads the counters of a section and date statement by
statement and then writes the rows in one transaction. The rows are those of the students of
the section on that date, and of students marked in it who belong to no other section then.
-/

namespace SchoolPlatform

open ReadCommitted

def classifyDailyAttendance (expected submitted absent : ℕ) :
    DailyCompleteness × DailyAbsenceStatus :=
  let completeness : DailyCompleteness :=
    if 0 < expected ∧ expected ≤ submitted then .complete else .incomplete
  if submitted = 0 then (.incomplete, .undetermined)
  else if submitted ≤ absent then (completeness, .full)
  else if absent = 0 then (completeness, .none)
  else (completeness, .partial_)

def School.submittedSessions (s : School) (sectionId : ℕ) (d : Date) : List AttendanceSession :=
  s.sessions.filter fun x =>
    x.sectionId = sectionId ∧ x.attendanceDate = d ∧ x.status = .submitted

def School.marksIn (s : School) (sessionIds : List ℕ) : List AttendanceMark :=
  s.marks.filter fun x => x.session ∈ sessionIds

def School.absentMarksIn (s : School) (sessionIds : List ℕ) : List AttendanceMark :=
  (s.marksIn sessionIds).filter fun x => x.status = .absent

def School.absentByStudent (s : School) (sessionIds : List ℕ) : Dict ℕ ℕ :=
  ((s.marksIn sessionIds).map fun x => x.student).dedup.map fun student =>
    (student, ((s.absentMarksIn sessionIds).filter fun x => x.student = student).length)

def School.absentPairs (s : School) (sessionIds : List ℕ) : List (ℕ × ℕ) :=
  (s.absentMarksIn sessionIds).map fun x => (x.student, x.session)

def School.activeCoveragePairs (s : School) (sessionIds : List ℕ) : List (ℕ × ℕ) :=
  (s.coverages.filter fun c => c.attendanceSession ∈ sessionIds ∧ c.status = .active).map
    fun c => (c.student, c.attendanceSession)

def School.enrolledIds (s : School) (d : Date) (sectionId : ℕ) : List ℕ :=
  (s.enrollmentsOnDateIn d sectionId).map fun e => e.student

def School.elsewhere (s : School) (d : Date) (sectionId : ℕ) (students : List ℕ) : List ℕ :=
  ((s.enrollmentsOnDate d).filter fun e =>
    e.student ∈ students ∧ e.sectionId ≠ sectionId).map fun e => e.student

structure SectionCounters where
  academicYear : ℕ
  sectionId : ℕ
  attendanceDate : Date
  expected : ℕ
  submitted : ℕ
  absentByStudent : Dict ℕ ℕ
  excusedByStudent : Dict ℕ (List (ℕ × ℕ))
  students : List ℕ
  deriving DecidableEq

/-- The row of a student (`build_fields`). -/
def SectionCounters.row (c : SectionCounters) (now : Instant) (student : ℕ) :
    DailyAttendanceSummary :=
  let absent := (c.absentByStudent.get? student).getD 0
  let classified := classifyDailyAttendance c.expected c.submitted absent
  let excused := min ((c.excusedByStudent.get? student).getD []).length absent
  { student := student
    attendanceDate := c.attendanceDate
    academicYear := c.academicYear
    sectionId := c.sectionId
    expectedPeriods := c.expected
    submittedPeriods := c.submitted
    absentPeriods := absent
    presentPeriods := c.submitted - absent
    excusedAbsentPeriods := excused
    unexcusedAbsentPeriods := absent - excused
    completenessStatus := classified.1
    absenceStatus := classified.2
    calculatedAt := now }

/-- The students marked but not enrolled who belong to another section: asked only when there
are any. -/
def askElsewhere (sectionId : ℕ) (d : Date) (markedOnly : List ℕ) : Operation (List ℕ) :=
  if markedOnly = [] then pure [] else ask fun s => s.elsewhere d sectionId markedOnly

/-- The counters, each read by a statement of its own; `none` when no academic year is known. -/
def readCounters (context : AttendanceDayContext) (sectionId : ℕ) (d : Date) :
    Operation (Option SectionCounters) := do
  let sessions ← ask fun s => s.submittedSessions sectionId d
  let sessionIds := sessions.map fun x => x.id
  let academicYear := match sessions.head? with
    | some x => some x.academicYear
    | none => context.academicYear
  match academicYear with
  | none => pure none
  | some year => do
    let absentByStudent ← ask fun s => s.absentByStudent sessionIds
    let absentPairs ← ask fun s => s.absentPairs sessionIds
    let covered ← ask fun s => s.activeCoveragePairs sessionIds
    let enrolledIds ← ask fun s => s.enrolledIds d sectionId
    let markedOnly := absentByStudent.keys.filter fun x => x ∉ enrolledIds
    let elsewhere ← askElsewhere sectionId d markedOnly
    pure (some
      { academicYear := year
        sectionId := sectionId
        attendanceDate := d
        expected := context.attendancePeriods.length
        submitted := (sessions.map fun x => x.periodSequence).dedup.length
        absentByStudent := absentByStudent
        excusedByStudent :=
          Dict.groupBy Prod.fst (covered.filter fun x => x ∈ absentPairs)
        students := (enrolledIds ++ markedOnly.filter fun x => x ∉ elsewhere).dedup })

def readSectionCounters (sectionId : ℕ) (d : Date) : Operation (Option SectionCounters) := do
  let context ← getOrCreateAttendanceDayContext d
  readCounters context sectionId d

def School.summariesOn (s : School) (d : Date) (students : List ℕ) :
    List DailyAttendanceSummary :=
  s.summaries.filter fun r => r.attendanceDate = d ∧ r.student ∈ students

def School.putSummaries (s : School) (d : Date) (students : List ℕ)
    (row : ℕ → DailyAttendanceSummary) : School :=
  { s with summaries := s.summaries.map fun r =>
      if r.attendanceDate = d ∧ r.student ∈ students then row r.student else r }

def School.addSummaries (s : School) (rows : List DailyAttendanceSummary) : School :=
  { s with summaries := s.summaries ++ rows }

def lockSummaries (d : Date) (find : School → List DailyAttendanceSummary) :
    Transaction (List DailyAttendanceSummary) :=
  Tx.selectForUpdate (fun s => (find s).map fun r => Row.summaryKey r.student d)
    fun rows s => (find s).filter fun r => Row.summaryKey r.student d ∈ rows

/-- `bulk_create(ignore_conflicts=True)`: rows whose key is taken are left as they are. -/
def insertSummaries (d : Date) (students : List ℕ) (row : ℕ → DailyAttendanceSummary) :
    Transaction Unit := do
  Tx.lockRows .update (students.map fun x => Row.summaryKey x d)
  let taken ← ask fun s => (s.summariesOn d students).map fun r => r.student
  Tx.update fun s => s.addSummaries ((students.filter fun x => x ∉ taken).map row)

/-- The rows that were not there are inserted; a row inserted meanwhile by a recalculation that
began earlier is overwritten. -/
def createSummaries (now : Instant) (c : SectionCounters) (toCreate : List ℕ) :
    Transaction Unit :=
  if toCreate = [] then pure () else do
    let d := c.attendanceDate
    insertSummaries d toCreate (c.row now)
    let raced ← lockSummaries d fun s =>
      (s.summariesOn d toCreate).filter fun r => r.calculatedAt < now
    Tx.update fun s => s.putSummaries d (raced.map fun r => r.student) (c.row now)

/-- The transaction of a recalculation: rows that exist are overwritten, the others created. -/
def writeSummaries (now : Instant) (c : SectionCounters) : Transaction ℕ := do
  let d := c.attendanceDate
  let existing ← lockSummaries d fun s => s.summariesOn d c.students
  let toUpdate := c.students.filter fun x => x ∈ existing.map fun r => r.student
  let toCreate := c.students.filter fun x => x ∉ existing.map fun r => r.student
  Tx.update fun s => s.putSummaries d toUpdate (c.row now)
  createSummaries now c toCreate
  checkReferences ((toCreate.map Row.student) ++
    if toCreate = [] ∧ existing.all (fun r => r.sectionId = c.sectionId) then []
    else [.section_ c.sectionId])
  pure c.students.length

def writeCounters (now : Instant) : Option SectionCounters → Operation ℕ
  | none => pure 0
  | some c => Program.transaction (writeSummaries now c)

def recalculateDailyAttendanceForSection (now : Instant) (sectionId : ℕ) (d : Date) :
    Operation ℕ := do
  let counters ← readSectionCounters sectionId d
  writeCounters now counters

end SchoolPlatform
