import SchoolPlatform.Model.Service

/-!
# The live timetable

Each day of the week is assigned a bell schedule, a list of periods. A session is started for the
period of now: a teacher's call reads it from the live timetable, an administrative one from the
saved schedule of the day once attendance of the day has begun. An edit of the timetable brings
the context of today in line after it has committed.
-/

namespace SchoolPlatform

open ReadCommitted

/-- The time at the school (`school_now`). -/
structure LocalTime where
  date : Date
  time : TimeOfDay
  deriving DecidableEq

def School.currentPeriod (s : School) (schedule : ℕ) (t : TimeOfDay) : Option BellPeriod :=
  (s.periodsOf schedule).find? fun p => p.isAttendancePeriod ∧ p.startTime ≤ t ∧ t < p.endTime

def getCurrentAttendancePeriod (localNow : LocalTime) : Operation (Option BellPeriod) := do
  let weekDay ← ask fun s => s.weekDayOf localNow.date
  match weekDay with
  | some (w, some schedule) =>
    if w.isSchoolDay then ask fun s => s.currentPeriod schedule.id localNow.time
    else pure none
  | _ => pure none

/-- The schedule of today that an administrator prepares by: the saved one once a session of
today exists, the live one before. -/
def todaySchedule (today : Date) : Operation DayScheduleSnapshot := do
  let context ← ask fun s => s.dayContextOn today
  match context with
  | none => buildDayScheduleSnapshot today
  | some context => do
    let started ← ask fun s => s.sessions.any fun x => x.attendanceDate = today
    if started then pure context.scheduleSnapshot else buildDayScheduleSnapshot today

def adminTodayOnlyError : ApiError where
  code := "ADMIN_ATTENDANCE_TODAY_ONLY"
  message := "التحضير الإداري متاح لحصص اليوم فقط."
  statusCode := 409

def invalidPeriodSelectionError : ApiError where
  code := "INVALID_PERIOD_SELECTION"
  message := "هذه الحصة غير متاحة لتحضير اليوم."

def periodNotStartedError : ApiError where
  code := "ATTENDANCE_PERIOD_NOT_STARTED"
  message := "لم يبدأ وقت هذه الحصة بعد."
  statusCode := 409

def DayScheduleSnapshot.periodAt (schedule : DayScheduleSnapshot) (sequence : Option ℕ) :
    Option PeriodSnapshot :=
  schedule.periods.find? fun p => some p.sequence = sequence ∧ p.isAttendancePeriod

/-- The period an administrator has chosen, checked against a schedule of today. -/
def choosePeriod (now : LocalTime) (schedule : DayScheduleSnapshot) (attendanceDate : Option Date)
    (periodSequence : Option ℕ) : Except ApiError PeriodSnapshot :=
  if attendanceDate ≠ some now.date then .error adminTodayOnlyError
  else match schedule.periodAt periodSequence with
    | none => .error invalidPeriodSelectionError
    | some period =>
      if !schedule.isSchoolDay then .error invalidPeriodSelectionError
      else if now.time < period.startTime * 60 then .error periodNotStartedError
      else .ok period

def Operation.orRaise {α : Type} : Except ApiError α → Operation α
  | .ok a => .ret a
  | .error e => .raise (.api e)

def resolveTodayPeriod (now : LocalTime) (attendanceDate : Option Date)
    (periodSequence : Option ℕ) : Operation PeriodSnapshot := do
  let schedule ← todaySchedule now.date
  Operation.orRaise (choosePeriod now schedule attendanceDate periodSequence)

/-- What a start is asked for: a section; from an administrator a date and a period of it; from a
teacher the date and period that a preview has shown. -/
structure StartRequest where
  sectionId : ℕ
  attendanceDate : Option Date := none
  periodSequence : Option ℕ := none
  expectedDate : Option Date := none
  expectedPeriodSequence : Option ℕ := none
  deriving DecidableEq

def StartRequest.isAdministrative (r : StartRequest) : Bool :=
  r.attendanceDate.isSome || r.periodSequence.isSome

def notFoundError : ApiError where
  code := "NOT_FOUND"
  message := "المورد المطلوب غير موجود."
  statusCode := 404

def activeYearRequiredError : ApiError where
  code := "ACTIVE_ACADEMIC_YEAR_REQUIRED"
  message := "لم يتم العثور على عام دراسي نشط لهذه المدرسة."
  statusCode := 409

def periodChangedError : ApiError where
  code := "ATTENDANCE_PERIOD_CHANGED"
  message := "تغيرت الحصة منذ المعاينة. راجع الحصة الحالية ثم أكد بدء التحضير مجددًا."
  statusCode := 409

def noCurrentPeriodError : ApiError where
  code := "NO_CURRENT_ATTENDANCE_PERIOD"
  message := "لا توجد حصة دراسية نشطة في الوقت الحالي."
  statusCode := 409

/-- The period of now is not the one that the preview has shown. -/
def StartRequest.isOutdated (r : StartRequest) (localDate : Date) (period : Option BellPeriod) :
    Bool :=
  r.expectedDate.any fun expected => decide (localDate ≠ expected) || period.isNone ||
    decide ((period.map fun p => p.sequence) ≠ r.expectedPeriodSequence)

/-- The date and the sequence number of the period that a session is started for. The clock is
read once for the current period and again for the administrator's choice. -/
def sessionPeriod (localNow adminNow : LocalTime) (r : StartRequest) : Operation (Date × ℕ) := do
  let period ← getCurrentAttendancePeriod localNow
  if r.isOutdated localNow.date period then .raise (.api periodChangedError)
  else if r.isAdministrative then do
    let snapshot ← resolveTodayPeriod adminNow r.attendanceDate r.periodSequence
    pure (adminNow.date, snapshot.sequence)
  else match period with
    | none => .raise (.api noCurrentPeriodError)
    | some p => pure (localNow.date, p.sequence)

/-- `_start_session`, for a school that does not follow the national calendar (for one that does, the
whole call is one transaction under a lock of the school). -/
def startCurrentSession (now : Instant) (newId : ℕ) (localNow adminNow : LocalTime)
    (r : StartRequest) : Operation (AttendanceSession × List RosterStudent × Bool) := do
  let found ← ask fun s => s.registry.sections.find? fun x => x.id = r.sectionId
  if found.all fun x => !x.isActive then .raise (.api notFoundError)
  else do
    let active ← ask fun s => s.activeYear
    match active with
    | none => .raise (.api activeYearRequiredError)
    | some year => do
      let (d, sequence) ← sessionPeriod localNow adminNow r
      startSession now newId year.id r.sectionId d sequence

/-- Bring the context of today in line with an edit, after it has committed. -/
def publishLiveScheduleChange (today : Date) : Operation Unit := do
  let saved ← ask fun s => (s.dayContextOn today).isSome
  if saved then do
    let _ ← getOrRefreshPristineDayContext today
    pure ()
  else pure ()

structure PeriodInput where
  sequence : ℕ
  name : String
  startTime : TimeOfDay
  endTime : TimeOfDay
  isAttendancePeriod : Bool := true
  deriving DecidableEq

def PeriodInput.period (p : PeriodInput) (schedule : ℕ) : BellPeriod where
  bellSchedule := schedule
  sequence := p.sequence
  name := p.name
  startTime := p.startTime
  endTime := p.endTime
  isAttendancePeriod := p.isAttendancePeriod

def PeriodInput.timeError (p : PeriodInput) : ApiError where
  code := "INVALID_BELL_PERIOD_TIME"
  message := "وقت نهاية «" ++ p.name ++ "» يجب أن يكون بعد وقت بدايتها."

def overlapError (previous current : PeriodInput) : ApiError where
  code := "BELL_PERIOD_OVERLAP"
  message := "تداخل في الأوقات بين «" ++ previous.name ++ "» و«" ++ current.name ++ "»."

/-- The first two periods, in the order of their beginnings, of which the second begins before
the first has ended. -/
def firstOverlap (periods : List PeriodInput) : Option (PeriodInput × PeriodInput) :=
  let ordered := periods.insertionSort fun a b => a.startTime ≤ b.startTime
  (ordered.zip ordered.tail).find? fun p => p.2.startTime < p.1.endTime

def validatePeriods (periods : List PeriodInput) : Except ApiError Unit :=
  if ¬ (periods.map fun p => p.sequence).Nodup then
    .error
      { code := "DUPLICATE_PERIOD_SEQUENCE"
        message := "يوجد تكرار في ترتيب الحصص." }
  else match periods.find? fun p => p.endTime ≤ p.startTime with
    | some p => .error p.timeError
    | none =>
      match firstOverlap periods with
      | some (previous, current) => .error (overlapError previous current)
      | none => .ok ()

def School.removePeriods (s : School) (periods : List BellPeriod) : School :=
  { s with registry := { s.registry with
      bellPeriods := s.registry.bellPeriods.filter fun p => p ∉ periods } }

def School.addPeriods (s : School) (periods : List BellPeriod) : School :=
  { s with registry := { s.registry with bellPeriods := s.registry.bellPeriods ++ periods } }

/-- All periods of a schedule are deleted, and those of the request inserted. -/
def replacePeriods (schedule : ℕ) (periods : List PeriodInput) : Transaction Unit := do
  orRaise (validatePeriods periods)
  let existing ← ask fun s => s.periodsOf schedule
  Tx.lockRows .update (existing.map fun p => Row.bellPeriodKey schedule p.sequence)
  Tx.update fun s => s.removePeriods existing
  let rows := (periods.insertionSort fun a b => a.sequence ≤ b.sequence).map fun p =>
    p.period schedule
  Tx.lockRows .update (rows.map fun p => Row.bellPeriodKey schedule p.sequence)
  let taken ← ask fun s => s.registry.bellPeriods.any fun p =>
    p.bellSchedule = schedule ∧ p.sequence ∈ rows.map fun x => x.sequence
  if taken then .raise (.integrityError "uniq_period_sequence_per_schedule")
  else do
    Tx.update fun s => s.addPeriods rows
    checkReferences [.bellSchedule schedule]

def replaceSchedulePeriods (today : Date) (schedule : ℕ) (periods : List PeriodInput) :
    Operation Unit := do
  Program.transaction (replacePeriods schedule periods)
  publishLiveScheduleChange today

def School.bellSchedule? (s : School) (id : ℕ) : Option BellSchedule :=
  s.registry.bellSchedules.find? fun x => x.id = id

def School.putBellSchedule (s : School) (schedule : BellSchedule) : School :=
  { s with registry := { s.registry with
      bellSchedules := Table.put (fun x => x.id) schedule s.registry.bellSchedules } }

/-- `update_schedule`: nothing is saved when nothing is to be changed. -/
def updateSchedule (today : Date) (id : ℕ) (name : Option String)
    (status : Option BellScheduleStatus) : Operation Unit := do
  let found ← ask fun s => s.bellSchedule? id
  match found with
  | none => .raise (.doesNotExist "BellSchedule")
  | some schedule => do
    let updated := { schedule with
      name := name.getD schedule.name
      status := status.getD schedule.status }
    if updated = schedule then pure () else do
      Program.transaction (Tx.updateWhere (fun _ => [Row.bellSchedule id])
        fun _ s => s.putBellSchedule updated)
      publishLiveScheduleChange today

/-- A schedule that is archived is taken off the days it was assigned to. -/
def School.archiveSchedule (s : School) (id : ℕ) : School :=
  { s with registry := { s.registry with
      bellSchedules := s.registry.bellSchedules.map fun x =>
        if x.id = id then { x with status := .archived } else x
      weekDays := s.registry.weekDays.map fun w =>
        if w.bellSchedule = some id then { w with bellSchedule := none } else w } }

def archiveSchedule (today : Date) (id : ℕ) : Operation Unit := do
  Program.transaction (Tx.updateWhere (fun s => Row.bellSchedule id ::
      (s.registry.weekDays.filter fun w => w.bellSchedule = some id).map fun w =>
        Row.weekDay w.weekday)
    fun _ s => s.archiveSchedule id)
  publishLiveScheduleChange today

structure WeekDayInput where
  weekday : ℕ
  isSchoolDay : Option Bool := none
  bellScheduleId : Option ℕ := none
  deriving DecidableEq

/-- Sunday to Thursday are school days until the school says otherwise. -/
def defaultSchoolDays : List ℕ := [0, 1, 2, 3, 4]

/-- The seven rows of a school, those that are missing with the default. -/
def School.bootstrapWeekDays (s : School) : School :=
  { s with registry := { s.registry with
      weekDays := s.registry.weekDays ++
        ((List.range 7).filter fun day => day ∉ s.registry.weekDays.map fun w => w.weekday).map
          fun day => ⟨day, decide (day ∈ defaultSchoolDays), none⟩ } }

/-- The row as an entry of the request wants it. -/
def WeekDayInput.apply (item : WeekDayInput) (w : SchoolWeekDay) : SchoolWeekDay :=
  let isSchoolDay := item.isSchoolDay.getD w.isSchoolDay
  { w with
    isSchoolDay := isSchoolDay
    bellSchedule := if isSchoolDay then item.bellScheduleId else none }

/-- The rows after the entries, one after another, and whether one of them changed a row. -/
def applyWeekDays : List WeekDayInput → List SchoolWeekDay → List SchoolWeekDay × Bool
  | [], rows => (rows, false)
  | item :: items, rows =>
    let rows' := rows.map fun w => if w.weekday = item.weekday then item.apply w else w
    let rest := applyWeekDays items rows'
    (rest.1, decide (rows' ≠ rows) || rest.2)

def School.putWeekDays (s : School) (rows : List SchoolWeekDay) : School :=
  { s with registry := { s.registry with
      weekDays := s.registry.weekDays.map fun w =>
        (rows.find? fun x => x.weekday = w.weekday).getD w } }

def School.assignableSchedules (s : School) : List ℕ :=
  (s.registry.bellSchedules.filter fun x => x.status ≠ .archived).map fun x => x.id

def invalidScheduleError : ApiError where
  code := "VALIDATION_ERROR"
  message := "جدول الحصص المحدد غير صالح."

/-- The transaction of `update_week_days`; it says whether anything has been changed. -/
def updateWeekDaysLocked (items : List WeekDayInput) : Transaction Bool := do
  Tx.update School.bootstrapWeekDays
  let valid ← ask fun s => s.assignableSchedules
  if items.any fun item => item.bellScheduleId.any fun id => id ≠ 0 ∧ id ∉ valid then
    raiseApi invalidScheduleError
  else do
    Tx.lockRows .update ((List.range 7).map Row.weekDay)
    let rows ← ask fun s => s.registry.weekDays
    let (updated, changed) := applyWeekDays items rows
    -- An id of zero passes the check and fails at the foreign key.
    if updated.any fun w => w.bellSchedule = some 0 then .raise (.integrityError "bell_schedule_id")
    else do
      Tx.update fun s => s.putWeekDays updated
      pure changed

def updateWeekDays (today : Date) (items : List WeekDayInput) : Operation Unit := do
  let changed ← Program.transaction (updateWeekDaysLocked items)
  if changed then publishLiveScheduleChange today else pure ()

/-- The calls that meet at the context of a day: those that start sessions, pages that create the
context, edits of the timetable and other changes of what attendance only reads, submissions, and
recalculations of the daily summaries. -/
inductive TimetableCall
  | startSession (now : Instant) (newId : ℕ) (localNow adminNow : LocalTime) (r : StartRequest)
  | openPage (d : Date)
  | replacePeriods (today : Date) (schedule : ℕ) (periods : List PeriodInput)
  | updateSchedule (today : Date) (id : ℕ) (name : Option String)
      (status : Option BellScheduleStatus)
  | archiveSchedule (today : Date) (id : ℕ)
  | updateWeekDays (today : Date) (items : List WeekDayInput)
  | changeRegistry (f : Registry → Registry)
  | submitMarks (clock : Clock) (sessionId membership : ℕ) (marks : List MarkInput)
  | recalculate (now : Instant) (sectionId : ℕ) (d : Date)

def TimetableCall.program : TimetableCall → Operation Unit
  | .startSession now newId localNow adminNow r =>
    (startCurrentSession now newId localNow adminNow r).discard
  | .openPage d => (getOrCreateAttendanceDayContext d).discard
  | .replacePeriods today schedule periods => replaceSchedulePeriods today schedule periods
  | .updateSchedule today id name status => SchoolPlatform.updateSchedule today id name status
  | .archiveSchedule today id => SchoolPlatform.archiveSchedule today id
  | .updateWeekDays today items => SchoolPlatform.updateWeekDays today items
  | .changeRegistry f =>
    Program.transaction (Tx.update fun s => { s with registry := f s.registry })
  | .submitMarks clock sessionId membership marks =>
    Operation.discard (Program.transaction (submitLocked clock sessionId membership marks))
  | .recalculate now sectionId d =>
    (recalculateDailyAttendanceForSection now sectionId d).discard

end SchoolPlatform
