import SchoolPlatform.Model.Records
import SchoolPlatform.Library.FallibleFolds
import SchoolPlatform.Library.UniqueIndex
import SchoolPlatform.Library.Text
import Mathlib.Data.List.MinMax

/-!
# Academic years and semesters

A school has years, one of which is active, with semesters inside them. They are entered by hand, or
follow the calendar of the ministry: the platform reads it, checks its dates and applies it to the
schools that have adopted it. A call that raises leaves the tables as they were.
-/

namespace SchoolPlatform.Academics

structure AcademicYear where
  school : ℕ
  name : Text
  startDate : Date
  endDate : Date
  status : AcademicYearStatus := .upcoming
  ministrySnapshot : Option ℕ := none
  deriving DecidableEq

inductive SemesterStatus
  | upcoming | active | closed
  deriving DecidableEq

structure Semester where
  school : ℕ
  academicYear : ℕ
  name : Text
  sequence : ℕ
  startDate : Date
  endDate : Date
  status : SemesterStatus := .upcoming
  deriving DecidableEq

inductive CalendarProfile
  | unconfirmed | national | exception
  deriving DecidableEq

structure SchoolCalendarPolicy where
  profile : CalendarProfile := .unconfirmed
  scopeNote : Text := []
  outcome : String := ""
  deriving DecidableEq

/-- The tables, by id; policies are kept by their school. -/
structure Calendars where
  years : Dict ℕ AcademicYear := []
  semesters : Dict ℕ Semester := []
  policies : Dict ℕ SchoolCalendarPolicy := []
  nextId : ℕ := 1
  deriving DecidableEq

/-! ## The calendar of the ministry -/

structure CalendarDates where
  yearStart : Date
  yearEnd : Option Date
  semester1Start : Option Date
  semester1End : Option Date
  semester2Start : Option Date
  semester2End : Option Date
  deriving DecidableEq

/-- The dates of a calendar that can be applied. -/
structure ReadyDates where
  yearStart : Date
  yearEnd : Date
  semester1Start : Date
  semester1End : Date
  semester2Start : Date
  semester2End : Date
  year_lt : yearStart < yearEnd
  ordered : yearStart ≤ semester1Start ∧ semester1Start ≤ semester1End ∧
    semester1End < semester2Start ∧ semester2Start ≤ semester2End ∧ semester2End ≤ yearEnd
  deriving DecidableEq

inductive MinistryCalendar
  | ready (name : Text) (dates : ReadyDates)
  | incomplete (name : Text) (yearStart : Date)
  | invalid (name : Text) (yearStart : Date)
  deriving DecidableEq

def MinistryCalendar.yearStart : MinistryCalendar → Date
  | .ready _ dates => dates.yearStart
  | .incomplete _ yearStart => yearStart
  | .invalid _ yearStart => yearStart

structure MinistryCalendarSnapshot where
  id : ℕ
  calendars : List MinistryCalendar
  deriving DecidableEq

/-- `_current_calendar`: the calendar that has begun last. -/
def MinistryCalendarSnapshot.currentCalendar (snapshot : MinistryCalendarSnapshot)
    (today : Date) : Option MinistryCalendar :=
  (snapshot.calendars.filter fun c => c.yearStart ≤ today).argmax fun c => c.yearStart

def ReadyDates.semester (dates : ReadyDates) (sequence : ℕ) : Date × Date :=
  if sequence = 1 then (dates.semester1Start, dates.semester1End)
  else (dates.semester2Start, dates.semester2End)

/-! ## Saving rows -/

def apiError (code message : String) (statusCode : ℕ := 400) : Failure :=
  .api { code := code, message := message, statusCode := statusCode }

/-- The entry of a year in `uniq_active_year_per_school`. -/
def AcademicYear.activeOf (y : AcademicYear) : Option ℕ :=
  if y.status = .active then some y.school else none

/-- The entry of a semester in `uniq_active_semester_per_school`. -/
def Semester.activeOf (x : Semester) : Option ℕ :=
  if x.status = .active then some x.school else none

/-- The entry of a semester in `uniq_semester_sequence_per_year`. -/
def Semester.place (x : Semester) : Option (ℕ × ℕ) := some (x.academicYear, x.sequence)

def Calendars.checkYear (s : Calendars) (id : ℕ) (y : AcademicYear) : Except Failure Unit :=
  if 50 < y.name.length then .error (.dataError "academics_academicyear")
  else if ¬ y.startDate < y.endDate then .error (.integrityError "year_start_before_end")
  else if y.activeOf.any (s.years.takenBesides AcademicYear.activeOf id) then
    .error (.integrityError "uniq_active_year_per_school")
  else .ok ()

def Calendars.checkSemester (s : Calendars) (id : ℕ) (x : Semester) : Except Failure Unit :=
  if 50 < x.name.length then .error (.dataError "academics_semester")
  else if 32767 < x.sequence then .error (.dataError "academics_semester")
  else if ¬ x.startDate ≤ x.endDate then .error (.integrityError "semester_start_before_end")
  else if x.activeOf.any (s.semesters.takenBesides Semester.activeOf id) then
    .error (.integrityError "uniq_active_semester_per_school")
  else if x.place.any (s.semesters.takenBesides Semester.place id) then
    .error (.integrityError "uniq_semester_sequence_per_year")
  else .ok ()

def Calendars.saveYear (s : Calendars) (id : ℕ) (y : AcademicYear) : Except Failure Calendars := do
  s.checkYear id y
  pure { s with years := s.years.adjust id fun _ => y }

def Calendars.saveSemester (s : Calendars) (id : ℕ) (x : Semester) : Except Failure Calendars := do
  s.checkSemester id x
  pure { s with semesters := s.semesters.adjust id fun _ => x }

def Calendars.insertYear (s : Calendars) (y : AcademicYear) : Except Failure (ℕ × Calendars) := do
  s.checkYear s.nextId y
  pure (s.nextId, { s with years := s.years ++ [(s.nextId, y)], nextId := s.nextId + 1 })

def Calendars.insertSemester (s : Calendars) (x : Semester) :
    Except Failure (ℕ × Calendars) := do
  s.checkSemester s.nextId x
  pure (s.nextId, { s with semesters := s.semesters ++ [(s.nextId, x)], nextId := s.nextId + 1 })

def Calendars.year (s : Calendars) (id : ℕ) : Except Failure AcademicYear :=
  (s.years.get? id).elim (.error (.doesNotExist "AcademicYear")) .ok

def Calendars.semester (s : Calendars) (id : ℕ) : Except Failure Semester :=
  (s.semesters.get? id).elim (.error (.doesNotExist "Semester")) .ok

def Semester.close (x : Semester) : Semester :=
  if x.status = .active then { x with status := .closed } else x

def Semester.closeIf (p : Semester → Bool) (x : Semester) : Semester := if p x then x.close else x

def Calendars.closeSemesters (s : Calendars) (p : Semester → Bool) : Calendars :=
  { s with semesters := s.semesters.mapValues fun _ => Semester.closeIf p }

/-! ## Years -/

def validateRange (startDate endDate : Date) : Except Failure Unit :=
  if endDate ≤ startDate then
    .error (apiError "INVALID_ACADEMIC_YEAR_RANGE" "تاريخ بداية العام يجب أن يسبق تاريخ نهايته.")
  else .ok ()

/-- `activate_year`: the years of the school are read again, under their locks. -/
def activateYear (id : ℕ) (s : Calendars) : Except Failure Calendars := do
  let year ← s.year id
  let current := (s.years.filter fun p => p.2.school = year.school).find? fun p =>
    p.2.status = .active
  if current.any fun p => p.1 = id then
    .error (apiError "ACADEMIC_YEAR_ALREADY_ACTIVE" "هذا العام الدراسي مفعل بالفعل." 409)
  else if year.status = .closed ∨ year.status = .archived then
    .error (apiError "ACADEMIC_YEAR_NOT_ACTIVATABLE"
      "لا يمكن إعادة تفعيل عام دراسي مغلق أو مؤرشف." 409)
  else do
    let s := s.closeSemesters fun x => x.school = year.school
    let s ← current.elim (pure s) fun p => s.saveYear p.1 { p.2 with status := .closed }
    s.saveYear id { year with status := .active }

def createYear (school : ℕ) (name : Text) (startDate endDate : Date) (activate : Bool)
    (s : Calendars) : Except Failure (ℕ × Calendars) := do
  validateRange startDate endDate
  let (id, s) ← s.insertYear
    { school := school, name := name, startDate := startDate, endDate := endDate }
  let s ← (if activate then activateYear id s else pure s)
  pure (id, s)

structure YearData where
  name : Option Text := none
  startDate : Option Date := none
  endDate : Option Date := none
  deriving DecidableEq

def updateYear (id : ℕ) (data : YearData) (s : Calendars) : Except Failure Calendars := do
  let year ← s.year id
  let newStart := data.startDate.getD year.startDate
  let newEnd := data.endDate.getD year.endDate
  validateRange newStart newEnd
  if s.semesters.any fun p => p.2.academicYear = id ∧
      (p.2.startDate < newStart ∨ newEnd < p.2.endDate) then
    .error (apiError "ACADEMIC_YEAR_EXCLUDES_SEMESTERS"
      "لا يمكن تعديل حدود العام لأنها ستستبعد فصلًا دراسيًا قائمًا.")
  else
    let changed :=
      { year with name := data.name.getD year.name, startDate := newStart, endDate := newEnd }
    if changed = year then pure s else s.saveYear id changed

def closeYear (id : ℕ) (s : Calendars) : Except Failure Calendars := do
  let year ← s.year id
  if year.status ≠ .active then
    .error (apiError "VALIDATION_ERROR" "لا يمكن إغلاق عام غير نشط.")
  else
    (s.closeSemesters fun x => x.academicYear = id).saveYear id { year with status := .closed }

def archiveYear (id : ℕ) (s : Calendars) : Except Failure Calendars := do
  let year ← s.year id
  if year.status = .active then
    .error (apiError "VALIDATION_ERROR" "لا يمكن أرشفة العام النشط — أغلقه أولاً.")
  else s.saveYear id { year with status := .archived }

/-! ## Semesters -/

def validateSemesterDates (year : AcademicYear) (startDate endDate : Date) :
    Except Failure Unit :=
  if endDate < startDate then
    .error (apiError "INVALID_SEMESTER_RANGE" "تاريخ بداية الفصل يجب ألا يتجاوز نهايته.")
  else if startDate < year.startDate ∨ year.endDate < endDate then
    .error (apiError "INVALID_SEMESTER_RANGE"
      "تواريخ الفصل الدراسي يجب أن تكون ضمن حدود العام الدراسي.")
  else .ok ()

def Calendars.validateNoOverlap (s : Calendars) (yearId : ℕ) (startDate endDate : Date)
    (excludeSemesterId : Option ℕ) : Except Failure Unit :=
  if s.semesters.any fun p => p.2.academicYear = yearId ∧ p.2.startDate ≤ endDate ∧
      startDate ≤ p.2.endDate ∧ some p.1 ≠ excludeSemesterId then
    .error (apiError "SEMESTER_DATE_OVERLAP"
      "تتداخل تواريخ هذا الفصل مع فصل دراسي آخر في العام نفسه.")
  else .ok ()

/-- A constraint that a semester breaks is answered. -/
def sequenceConflict {α : Type} : Except Failure α → Except Failure α
  | .error (.integrityError _) =>
    .error (apiError "VALIDATION_ERROR" "يوجد فصل دراسي بنفس الترتيب في هذا العام.")
  | r => r

def activateSemester (id : ℕ) (s : Calendars) : Except Failure Calendars := do
  let semester ← s.semester id
  let year ← s.year semester.academicYear
  if year.status ≠ .active then
    .error (apiError "SEMESTER_YEAR_NOT_ACTIVE"
      "لا يمكن تفعيل الفصل لأن العام الدراسي التابع له غير نشط." 409)
  else
    let current := (s.semesters.filter fun p => p.2.school = semester.school).find? fun p =>
      p.2.status = .active
    if current.any fun p => p.1 = id then
      .error (apiError "SEMESTER_ALREADY_ACTIVE" "هذا الفصل الدراسي مفعل بالفعل." 409)
    else if semester.status = .closed then
      .error (apiError "SEMESTER_NOT_ACTIVATABLE" "لا يمكن إعادة تفعيل فصل دراسي مغلق." 409)
    else do
      let s ← current.elim (pure s) fun p => s.saveSemester p.1 { p.2 with status := .closed }
      s.saveSemester id { semester with status := .active }

def createSemester (yearId : ℕ) (name : Text) (sequence : ℕ) (startDate endDate : Date)
    (activate : Bool) (s : Calendars) : Except Failure Calendars := do
  let year ← s.year yearId
  validateSemesterDates year startDate endDate
  s.validateNoOverlap yearId startDate endDate none
  let (id, s) ← sequenceConflict (s.insertSemester
    { school := year.school
      academicYear := yearId
      name := name
      sequence := sequence
      startDate := startDate
      endDate := endDate })
  if activate then activateSemester id s else pure s

structure SemesterData where
  name : Option Text := none
  sequence : Option ℕ := none
  startDate : Option Date := none
  endDate : Option Date := none
  deriving DecidableEq

def updateSemester (id : ℕ) (data : SemesterData) (s : Calendars) :
    Except Failure Calendars := do
  let semester ← s.semester id
  let year ← s.year semester.academicYear
  let changed :=
    { semester with
      name := data.name.getD semester.name
      sequence := data.sequence.getD semester.sequence
      startDate := data.startDate.getD semester.startDate
      endDate := data.endDate.getD semester.endDate }
  validateSemesterDates year changed.startDate changed.endDate
  s.validateNoOverlap semester.academicYear changed.startDate changed.endDate (some id)
  if changed = semester then pure s else sequenceConflict (s.saveSemester id changed)

/-! ## Applying the calendar of the ministry -/

/-- What the application of a calendar reads of a school beside its calendar. -/
structure CalendarEnrollment where
  student : ℕ
  academicYear : ℕ
  status : EnrollmentStatus := .active
  enrolledAt : Date
  endedAt : Option Date := none
  gradeIsActive : Bool := true
  sectionIsActive : Bool := true
  deriving DecidableEq

structure SchoolActivity where
  isActive : Bool := true
  activeStudents : List ℕ := []
  enrollments : List CalendarEnrollment := []
  sessionYearsToday : List ℕ := []
  deriving DecidableEq

def SchoolActivity.enrollmentsReady (a : SchoolActivity) (year : ℕ) (today : Date) : Bool :=
  a.activeStudents.all fun student => a.enrollments.any fun e =>
    e.student = student ∧ e.academicYear = year ∧ e.status = .active ∧ e.enrolledAt ≤ today ∧
      e.endedAt = none ∧ e.gradeIsActive ∧ e.sectionIsActive

def Calendars.semestersOf (s : Calendars) (year : ℕ) : Dict ℕ Semester :=
  s.semesters.filter fun p => p.2.academicYear = year

def Calendars.hasTwoTerms (s : Calendars) (year : ℕ) : Bool :=
  (s.semestersOf year).length ≤ 2 &&
    (s.semestersOf year).all fun p => p.2.sequence = 1 ∨ p.2.sequence = 2

def Calendars.matches (s : Calendars) (id : ℕ) (year : AcademicYear) (dates : ReadyDates) : Bool :=
  (year.startDate, year.endDate) = (dates.yearStart, dates.yearEnd) && s.hasTwoTerms id &&
    (s.semestersOf id).all fun p => (p.2.startDate, p.2.endDate) = dates.semester p.2.sequence

def isFixed (today : Date) (closed : Bool) (previous value : Date) : Bool :=
  value ≠ previous && (value ≤ today || previous ≤ today || closed)

def AcademicYear.moved (dates : ReadyDates) (y : AcademicYear) : AcademicYear :=
  { y with startDate := dates.yearStart, endDate := dates.yearEnd }

def Semester.moved (id : ℕ) (dates : ReadyDates) (x : Semester) : Semester :=
  if x.academicYear = id then
    { x with
      startDate := (dates.semester x.sequence).1
      endDate := (dates.semester x.sequence).2 }
  else x

/-- `_align_future_boundaries`, once it has found that nothing it changes has passed. -/
def Calendars.setDates (s : Calendars) (id : ℕ) (dates : ReadyDates) : Calendars :=
  { s with
    years := s.years.adjust id (AcademicYear.moved dates)
    semesters := s.semesters.mapValues fun _ => Semester.moved id dates }

/-- `_align_future_boundaries`; the dates of the calendar meet the constraints on rows. -/
def Calendars.alignFutureBoundaries (s : Calendars) (id : ℕ) (year : AcademicYear)
    (dates : ReadyDates) (today : Date) : Option Calendars :=
  if !s.hasTwoTerms id then none
  else if isFixed today (year.status = .closed) year.startDate dates.yearStart ||
      isFixed today (year.status = .closed) year.endDate dates.yearEnd ||
      (s.semestersOf id).any fun p =>
        isFixed today (p.2.status = .closed) p.2.startDate (dates.semester p.2.sequence).1 ||
          isFixed today (p.2.status = .closed) p.2.endDate (dates.semester p.2.sequence).2 then
    none
  else some (s.setDates id dates)

/-- The year of a calendar is found by its first day, or created. -/
def adoptYear (school : ℕ) (name : Text) (dates : ReadyDates) (today : Date) (s : Calendars) :
    Except Failure (ℕ × Calendars) :=
  match s.years.filter fun p => p.2.school = school ∧ p.2.startDate = dates.yearStart with
  | [] =>
    if s.years.any fun p => p.2.school = school ∧ p.2.startDate ≤ dates.yearEnd ∧
        dates.yearStart ≤ p.2.endDate ∧ (p.2.status = .upcoming ∨ p.2.status = .active) then
      .error (apiError "CALENDAR_EXISTING_DATES_CONFLICT" "يوجد عام قائم بحدود مختلفة." 409)
    else createYear school name dates.yearStart dates.yearEnd false s
  | [(id, year)] =>
    let conflict : Failure := apiError "CALENDAR_EXISTING_DATES_CONFLICT"
      "التقويم القائم يحتاج مراجعة إدارة المنصة قبل مطابقته بالمصدر." 409
    if year.status = .closed ∨ year.status = .archived then .error conflict
    else if s.matches id year dates then .ok (id, s)
    else (s.alignFutureBoundaries id year dates today).elim (.error conflict) fun s => .ok (id, s)
  | _ => .error (apiError "CALENDAR_YEAR_CONFLICT"
      "يوجد أكثر من عام دراسي بتاريخ البداية نفسه." 409)

def ensureSemester (yearId sequence : ℕ) (name : Text) (dates : ReadyDates) (s : Calendars) :
    Except Failure Calendars :=
  if (s.semestersOf yearId).any fun p => p.2.sequence = sequence then .ok s
  else createSemester yearId name sequence (dates.semester sequence).1 (dates.semester sequence).2
    false s

def ensureYear (school snapshotId : ℕ) (name : Text) (dates : ReadyDates) (today : Date)
    (s : Calendars) : Except Failure (ℕ × Calendars) := do
  let (id, s) ← adoptYear school name dates today s
  let year ← s.year id
  let s ← (if year.ministrySnapshot ≠ some snapshotId then
      s.saveYear id { year with ministrySnapshot := some snapshotId }
    else pure s)
  let s ← ensureSemester id 1 "الفصل الدراسي الأول".toList dates s
  let s ← ensureSemester id 2 "الفصل الدراسي الثاني".toList dates s
  pure (id, s)

/-- The part of `apply_school_calendar` that is about the year of today. -/
def applyCurrent (school : ℕ) (snapshotId : ℕ) (name : Text) (dates : ReadyDates) (today : Date)
    (a : SchoolActivity) (s : Calendars) : Except Failure (Calendars × String) := do
  let (id, s) ← ensureYear school snapshotId name dates today s
  let year ← s.year id
  if year.status ≠ .active ∧ a.sessionYearsToday.any fun y => y ≠ id then
    pure (s, "DAY_ALREADY_IN_USE")
  else if year.status ≠ .active ∧ !a.enrollmentsReady id today then
    pure (s, "ENROLLMENTS_NOT_READY")
  else do
    let s := s.closeSemesters fun x => x.school = school ∧ x.endDate < today
    let s ← (if year.status ≠ .active then activateYear id s else pure s)
    let target := ((s.semestersOf id).filter fun p =>
      p.2.startDate ≤ today ∧ today ≤ p.2.endDate).argmin fun p => p.2.sequence
    match target with
    | none => pure (s, "BETWEEN_SEMESTERS")
    | some (targetId, x) => do
      let s ← (if x.status ≠ .active then activateSemester targetId s else pure s)
      pure (s, "APPLIED")

/-- The years of all calendars that can be applied and have not ended. -/
def ensureCalendars (school : ℕ) (snapshot : MinistryCalendarSnapshot) (today : Date)
    (s : Calendars) : Except Failure Calendars :=
  snapshot.calendars.foldlM (fun s calendar =>
    match calendar with
    | .ready name dates =>
      if dates.yearEnd < today then pure s
      else do
        let (_, s) ← ensureYear school snapshot.id name dates today s
        pure s
    | _ => pure s) s

/-- The savepoint of `apply_school_calendar`. -/
def applyCalendars (school : ℕ) (snapshot : MinistryCalendarSnapshot) (today : Date)
    (a : SchoolActivity) (s : Calendars) : Except Failure (Calendars × String) := do
  let s ← ensureCalendars school snapshot today s
  match snapshot.currentCalendar today with
  | none => pure (s, "NO_CURRENT_CALENDAR")
  | some (.incomplete _ _) => pure (s, "SOURCE_INCOMPLETE")
  | some (.invalid _ _) => pure (s, "SOURCE_INVALID")
  | some (.ready name dates) =>
    if dates.yearEnd < today then
      pure (s.closeSemesters fun x => x.school = school ∧ x.endDate < today,
        "BETWEEN_ACADEMIC_YEARS")
    else applyCurrent school snapshot.id name dates today a s

def Calendars.setOutcome (s : Calendars) (school : ℕ) (outcome : String) : Calendars :=
  { s with policies := s.policies.adjust school fun p => { p with outcome := outcome } }

/-- `apply_school_calendar`: an error of the service rolls back to the savepoint and is kept as the
outcome, any other one ends the call. -/
def applySchoolCalendar (school : ℕ) (snapshot : MinistryCalendarSnapshot) (today : Date)
    (a : SchoolActivity) (s : Calendars) : Except Failure (Calendars × String) :=
  if (s.policies.get? school).all fun p => p.profile ≠ .national ∨ !a.isActive then
    .ok (s, "SCOPE_NOT_APPLICABLE")
  else match applyCalendars school snapshot today a s with
    | .ok (s', outcome) => .ok (s'.setOutcome school outcome, outcome)
    | .error (.api e) => .ok (s.setOutcome school e.code, e.code)
    | .error e => .error e

def configureCalendarScope (school : ℕ) (profile : CalendarProfile) (scopeNote : Text)
    (s : Calendars) : Except Failure Calendars :=
  if profile ≠ .unconfirmed ∧ (Text.strip scopeNote).length < 10 then
    .error (apiError "CALENDAR_SCOPE_REQUIRED"
      "وثّق سبب مطابقة نطاق المدرسة لهذا التقويم قبل اعتماده.")
  else if 500 < (Text.strip scopeNote).length then
    .error (.dataError "academics_schoolcalendarpolicy")
  else
    let policy : SchoolCalendarPolicy :=
      { profile := profile, scopeNote := Text.strip scopeNote, outcome := "" }
    .ok { s with policies := s.policies.insert school policy }

/-! ## Calls -/

inductive CalendarCall
  | createYear (school : ℕ) (name : Text) (startDate endDate : Date) (activate : Bool)
  | updateYear (id : ℕ) (data : YearData)
  | activateYear (id : ℕ)
  | closeYear (id : ℕ)
  | archiveYear (id : ℕ)
  | createSemester (yearId : ℕ) (name : Text) (sequence : ℕ) (startDate endDate : Date)
      (activate : Bool)
  | updateSemester (id : ℕ) (data : SemesterData)
  | activateSemester (id : ℕ)
  | applySchoolCalendar (school : ℕ) (snapshot : MinistryCalendarSnapshot) (today : Date)
      (activity : SchoolActivity)
  | configureCalendarScope (school : ℕ) (profile : CalendarProfile) (scopeNote : Text)
  deriving DecidableEq

def CalendarCall.outcome (s : Calendars) : CalendarCall → Except Failure Calendars
  | .createYear school name startDate endDate activate =>
    (Academics.createYear school name startDate endDate activate s).map Prod.snd
  | .updateYear id data => Academics.updateYear id data s
  | .activateYear id => Academics.activateYear id s
  | .closeYear id => Academics.closeYear id s
  | .archiveYear id => Academics.archiveYear id s
  | .createSemester yearId name sequence startDate endDate activate =>
    Academics.createSemester yearId name sequence startDate endDate activate s
  | .updateSemester id data => Academics.updateSemester id data s
  | .activateSemester id => Academics.activateSemester id s
  | .applySchoolCalendar school snapshot today activity =>
    (Academics.applySchoolCalendar school snapshot today activity s).map Prod.fst
  | .configureCalendarScope school profile scopeNote =>
    Academics.configureCalendarScope school profile scopeNote s

/-- The tables after a call; one that raises leaves them as they were. -/
def Calendars.handle (s : Calendars) (call : CalendarCall) : Calendars :=
  match call.outcome s with
  | .ok s' => s'
  | .error _ => s

def Calendars.play (s : Calendars) (calls : List CalendarCall) : Calendars :=
  calls.foldl Calendars.handle s

/-!
## What the application of a calendar reports

The application of the ministry's calendar tells those who watch the schedule of a school when it has
closed a semester or activated a year or a semester. These are its functions with that flag.
-/

/-- `bool(ended)` of `_close_ended_semesters`: a semester is active that has ended. -/
def Calendars.hasEnded (s : Calendars) (school : ℕ) (today : Date) : Bool :=
  s.semesters.any fun p => p.2.school = school ∧ p.2.status = .active ∧ p.2.endDate < today

def Calendars.closeEnded (s : Calendars) (school : ℕ) (today : Date) : Calendars :=
  s.closeSemesters fun x => x.school = school ∧ x.endDate < today

def Calendars.termOfToday (s : Calendars) (yearId : ℕ) (today : Date) : Option (ℕ × Semester) :=
  ((s.semestersOf yearId).filter fun p => p.2.startDate ≤ today ∧ today ≤ p.2.endDate).argmin
    fun p => p.2.sequence

def switchYear (id : ℕ) (year : AcademicYear) (changed : Bool) (s : Calendars) :
    Except Failure (Calendars × Bool) :=
  if year.status ≠ .active then (activateYear id s).map fun s => (s, true) else .ok (s, changed)

/-- The semester of today is activated, unless it is active already. -/
def switchTerm (target : Option (ℕ × Semester)) (changed : Bool) (s : Calendars) :
    Except Failure (Calendars × String × Bool) :=
  match target with
  | none => .ok (s, "BETWEEN_SEMESTERS", changed)
  | some (id, x) =>
    if x.status ≠ .active then (activateSemester id s).map fun s => (s, "APPLIED", true)
    else .ok (s, "APPLIED", changed)

/-- The part of `apply_school_calendar` that is about the year of today. -/
def applyCurrentReport (school snapshotId : ℕ) (name : Text) (dates : ReadyDates) (today : Date)
    (a : SchoolActivity) (s : Calendars) : Except Failure (Calendars × String × Bool) := do
  let (id, s) ← ensureYear school snapshotId name dates today s
  let year ← s.year id
  if year.status ≠ .active ∧ a.sessionYearsToday.any fun y => y ≠ id then
    pure (s, "DAY_ALREADY_IN_USE", false)
  else if year.status ≠ .active ∧ !a.enrollmentsReady id today then
    pure (s, "ENROLLMENTS_NOT_READY", false)
  else do
    let (s, changed) ← switchYear id year (s.hasEnded school today) (s.closeEnded school today)
    switchTerm (s.termOfToday id today) changed s

/-- The part of `apply_school_calendar` that is about the calendar of today. -/
def applyCalendarReport (school snapshotId : ℕ) (today : Date) (a : SchoolActivity)
    (current : Option MinistryCalendar) (s : Calendars) :
    Except Failure (Calendars × String × Bool) :=
  match current with
  | none => pure (s, "NO_CURRENT_CALENDAR", false)
  | some (.incomplete _ _) => pure (s, "SOURCE_INCOMPLETE", false)
  | some (.invalid _ _) => pure (s, "SOURCE_INVALID", false)
  | some (.ready name dates) =>
    if dates.yearEnd < today then
      pure (s.closeEnded school today, "BETWEEN_ACADEMIC_YEARS", s.hasEnded school today)
    else applyCurrentReport school snapshotId name dates today a s

/-- The savepoint of `apply_school_calendar`. -/
def applyCalendarsReport (school : ℕ) (snapshot : MinistryCalendarSnapshot) (today : Date)
    (a : SchoolActivity) (s : Calendars) : Except Failure (Calendars × String × Bool) := do
  let s ← ensureCalendars school snapshot today s
  applyCalendarReport school snapshot.id today a (snapshot.currentCalendar today) s

/-- `apply_school_calendar`, with what it publishes. -/
def applySchoolCalendarReport (school : ℕ) (snapshot : MinistryCalendarSnapshot) (today : Date)
    (a : SchoolActivity) (s : Calendars) : Except Failure (Calendars × String × Bool) :=
  if (s.policies.get? school).all fun p => p.profile ≠ .national ∨ !a.isActive then
    .ok (s, "SCOPE_NOT_APPLICABLE", false)
  else match applyCalendarsReport school snapshot today a s with
    | .ok (s', outcome, changed) => .ok (s'.setOutcome school outcome, outcome, changed)
    | .error (.api e) => .ok (s.setOutcome school e.code, e.code, false)
    | .error e => .error e

end SchoolPlatform.Academics
