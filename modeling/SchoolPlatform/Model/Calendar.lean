import SchoolPlatform.Model.Records

/-!
# The day of attendance and who belongs to a section

`AttendanceDayContext` freezes the timetable of a day. It is created by the first activity of
the day, inside or outside a transaction: the two versions differ in what a creation that loses
a race does. Membership of a section on a date follows the dates of the enrollments, the roster
of a session the active ones.
-/

namespace SchoolPlatform

open ReadCommitted

variable {m : Type → Type 1} [Statements m]

def emptyDaySchedule : DayScheduleSnapshot :=
  { bellScheduleId := none, scheduleName := none, isSchoolDay := false, periods := [] }

def BellPeriod.snapshot (p : BellPeriod) : PeriodSnapshot where
  sequence := p.sequence
  name := p.name
  startTime := strftimeHM p.startTime
  endTime := strftimeHM p.endTime
  isAttendancePeriod := p.isAttendancePeriod

def School.weekDayOf (s : School) (d : Date) : Option (SchoolWeekDay × Option BellSchedule) :=
  (s.registry.weekDays.find? fun w => w.weekday = schoolWeekday d).map fun w =>
    (w, w.bellSchedule.bind fun b => s.registry.bellSchedules.find? fun x => x.id = b)

def School.periodsOf (s : School) (schedule : ℕ) : List BellPeriod :=
  (s.registry.bellPeriods.filter fun p => p.bellSchedule = schedule).insertionSort
    fun a b => a.sequence ≤ b.sequence

def buildDayScheduleSnapshot (d : Date) : m DayScheduleSnapshot := do
  let weekDay ← ask fun s => s.weekDayOf d
  match weekDay with
  | some (w, some schedule) =>
    if w.isSchoolDay then do
      let periods ← ask fun s => s.periodsOf schedule.id
      pure
        { bellScheduleId := some schedule.id
          scheduleName := some schedule.name
          isSchoolDay := true
          periods := periods.map BellPeriod.snapshot }
    else pure emptyDaySchedule
  | _ => pure emptyDaySchedule

/-- The year a date falls in; of several the one that started last. -/
def School.academicYearOn (s : School) (d : Date) : Option AcademicYear :=
  ((s.registry.academicYears.filter fun y => y.startDate ≤ d ∧ d ≤ y.endDate).insertionSort
    fun a b => b.startDate < a.startDate ∨ (a.startDate = b.startDate ∧ b.id ≤ a.id)).head?

def School.activeYear (s : School) : Option AcademicYear :=
  s.registry.academicYears.find? fun y => y.status = .active

def School.dayContextOn (s : School) (d : Date) : Option AttendanceDayContext :=
  s.dayContexts.find? fun c => c.attendanceDate = d

/-- A day without a saved snapshot does not take the timetable of the current year into a year
that has passed. -/
def useCurrentSchedule : Option AcademicYear → Option AcademicYear → Bool
  | none, none => true
  | some year, some active => year.id = active.id
  | _, _ => false

def daySchedule (useCurrent : Bool) (d : Date) : m DayScheduleSnapshot :=
  if useCurrent then buildDayScheduleSnapshot d else pure emptyDaySchedule

def freshAttendanceDayContext (d : Date) : m AttendanceDayContext := do
  let settings ← ask fun s => s.registry.settings
  let year ← ask fun s => s.academicYearOn d
  let active ← ask fun s => s.activeYear
  let snapshot ← daySchedule (useCurrentSchedule year active) d
  pure
    { attendanceDate := d
      academicYear := year.map fun y => y.id
      scheduleSnapshot := snapshot
      timezoneSnapshot := settings.timezone }

def School.addDayContext (s : School) (c : AttendanceDayContext) : School :=
  { s with dayContexts := s.dayContexts ++ [c] }

/-- `INSERT` of a day context; `false` when the unique index already has the date. -/
def insertDayContext (c : AttendanceDayContext) : Transaction Bool := do
  Tx.lockRows .update [.dayContextKey c.attendanceDate]
  let existing ← ask fun s => s.dayContextOn c.attendanceDate
  match existing with
  | some _ => pure false
  | none => do
    Tx.update fun s => s.addDayContext c
    pure true

/-- `get_or_create_attendance_day_context` outside a transaction: the insertion that loses a
race fails alone, and the row that won is read. -/
def getOrCreateAttendanceDayContext (d : Date) : Operation AttendanceDayContext := do
  let existing ← ask fun s => s.dayContextOn d
  match existing with
  | some context => pure context
  | none => do
    let context ← freshAttendanceDayContext d
    let inserted ← Program.transaction (insertDayContext context)
    if inserted then pure context
    else do
      let winner ← ask fun s => s.dayContextOn d
      match winner with
      | some context => pure context
      | none => .raise (.doesNotExist "AttendanceDayContext")

def School.setDaySchedule (s : School) (d : Date) (snapshot : DayScheduleSnapshot) : School :=
  { s with dayContexts := s.dayContexts.map fun c =>
      if c.attendanceDate = d then { c with scheduleSnapshot := snapshot } else c }

/-- Bring a context that only a reading page has created in line with the live timetable, as
long as attendance of the day has not begun. -/
def getOrRefreshPristineDayContext (d : Date) : Operation AttendanceDayContext := do
  let context ← getOrCreateAttendanceDayContext d
  let yearIsActive ← ask fun s => context.academicYear.all fun id =>
    s.registry.academicYears.any fun y => y.id = id ∧ y.status = .active
  if !yearIsActive then pure context else do
    let started ← ask fun s => s.sessions.any fun x => x.attendanceDate = d
    if started then pure context else do
      let current ← buildDayScheduleSnapshot d
      if context.scheduleSnapshot = current then pure context else do
        Program.transaction (Tx.updateWhere (fun _ => [Row.dayContextKey d])
          fun _ s => s.setDaySchedule d current)
        pure { context with scheduleSnapshot := current }

/-- `get_or_create_attendance_day_context` inside a transaction: an insertion that fails aborts
the transaction, so the statement after it fails too. -/
def dayContextInTransaction (d : Date) : Transaction AttendanceDayContext := do
  let existing ← ask fun s => s.dayContextOn d
  match existing with
  | some context => pure context
  | none => do
    let context ← freshAttendanceDayContext d
    let inserted ← insertDayContext context
    if inserted then pure context else .raise .transactionAborted

/-- The enrollment holds on the date: it ends before the day it is ended on. -/
def StudentEnrollment.validOn (e : StudentEnrollment) (d : Date) : Bool :=
  decide (e.enrolledAt ≤ d) && (match e.endedAt with
    | none => true
    | some ended => decide (d < ended))

def School.enrollmentsOnDate (s : School) (d : Date) : List StudentEnrollment :=
  s.registry.enrollments.filter fun e => e.validOn d

def School.enrollmentsOnDateIn (s : School) (d : Date) (sectionId : ℕ) : List StudentEnrollment :=
  (s.enrollmentsOnDate d).filter fun e => e.sectionId = sectionId

structure RosterStudent where
  studentId : ℕ
  fullName : String
  nationalIdMasked : String
  deriving DecidableEq

def School.studentsForSection (s : School) (sectionId academicYear : ℕ) :
    List (StudentEnrollment × Student) :=
  s.registry.enrollments.filterMap fun e =>
    if e.sectionId = sectionId ∧ e.academicYear = academicYear ∧ e.status = .active then
      (s.registry.students.find? fun x => x.id = e.student).map fun x => (e, x)
    else none

def School.getRoster (s : School) (sectionId academicYear : ℕ) : List RosterStudent :=
  ((s.studentsForSection sectionId academicYear).filter fun p => p.2.status = .active).map
    fun p => ⟨p.1.student, p.2.fullName, p.2.nationalIdMasked⟩

def rosterFingerprint (roster : List RosterStudent) : Digest (List ℕ) :=
  ⟨(roster.map fun r => r.studentId).insertionSort fun a b => a ≤ b⟩

end SchoolPlatform
