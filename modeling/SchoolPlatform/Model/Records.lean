import SchoolPlatform.Library.Transaction
import SchoolPlatform.Library.Dict
import SchoolPlatform.Library.Table
import Mathlib.Data.List.Sort

/-!
# The rows of one school

Every table is a list of rows; the school itself is left implicit, since every query of the
program is scoped to one school. A date is its proleptic Gregorian ordinal, an instant a number
of microseconds, a time of day a number of seconds. A SHA-256 digest is represented by what was
hashed, so digests are equal exactly when the hashed texts are.
-/

namespace SchoolPlatform

open ReadCommitted

abbrev Date := ℕ

abbrev Instant := ℤ

abbrev TimeOfDay := ℕ

/-- Pairs of ids are compared by their components. -/
instance lawfulBEqIds : LawfulBEq (ℕ × ℕ) := inferInstance

/-- A collision-free digest. -/
structure Digest (α : Type) where
  payload : α
  deriving DecidableEq

/-- `time.strftime("%H:%M")`: the minutes since midnight. -/
def strftimeHM (t : TimeOfDay) : ℕ := t / 60

/-- The day of the week as the school counts it: Sunday is 0 (`_PY_TO_SCHOOL_WEEKDAY`). The
ordinal of a Sunday is a multiple of seven. -/
def schoolWeekday (d : Date) : ℕ := d % 7

inductive Detail
  | text (t : String)
  | number (n : ℕ)
  | date (d : Date)
  | dates (ds : List Date)
  | instant (t : Option Instant)
  | flag (b : Bool)
  deriving DecidableEq

/-- A business error with a stable code and a message for the user. -/
structure ApiError where
  code : String
  message : String
  statusCode : ℕ := 400
  details : List (String × Detail) := []
  deriving DecidableEq

/-- `require_feature` of a feature that the platform switches on for a school. -/
def featureNotIncluded (key label : String) : ApiError where
  code := "FEATURE_NOT_INCLUDED_IN_PLAN"
  message := "يلزم اشتراك وتفعيل من إدارة المنصة لاستخدام " ++ label ++ "."
  statusCode := 403
  details := [("feature", .text key), ("subscription_required", .flag true)]

/-- What can end an operation: a business error, a row that is not there, a constraint of the
database, a value that its column cannot hold, or a statement in a transaction that the database
has already aborted. -/
inductive Failure
  | api (e : ApiError)
  | doesNotExist (model : String)
  | integrityError (constraint : String)
  | dataError (column : String)
  | transactionAborted
  deriving DecidableEq

inductive AcademicYearStatus
  | upcoming | active | closed | archived
  deriving DecidableEq

structure AcademicYear where
  id : ℕ
  startDate : Date
  endDate : Date
  status : AcademicYearStatus
  ministrySnapshot : Option ℕ := none
  deriving DecidableEq

structure SchoolWeekDay where
  weekday : ℕ
  isSchoolDay : Bool
  bellSchedule : Option ℕ
  deriving DecidableEq

inductive BellScheduleStatus
  | active | inactive | archived
  deriving DecidableEq

structure BellSchedule where
  id : ℕ
  name : String
  status : BellScheduleStatus := .active
  deriving DecidableEq

structure BellPeriod where
  bellSchedule : ℕ
  sequence : ℕ
  name : String
  startTime : TimeOfDay
  endTime : TimeOfDay
  isAttendancePeriod : Bool
  deriving DecidableEq

structure SchoolSettings where
  timezone : String := "Asia/Riyadh"
  attendanceEditWindowMinutes : ℕ := 15
  deriving DecidableEq

inductive SchoolRole
  | schoolManager | vicePrincipal | counselor | teacher | gateGuard
  deriving DecidableEq

/-- A staff member of the school; the staff profile, when there is one, gives the name shown. -/
structure Membership where
  id : ℕ
  userDisplayName : String
  staffDisplayName : Option String
  roles : List SchoolRole
  deriving DecidableEq

inductive StudentStatus
  | active | graduated | transferred | withdrawn | inactive | archived
  deriving DecidableEq

structure Student where
  id : ℕ
  nationalIdLookupHash : String
  nationalIdMasked : String
  studentNumber : Option String
  fullName : String
  mergedInto : Option ℕ
  status : StudentStatus
  statusChangedAt : Option Instant
  exitDate : Option Date
  exitReason : String
  guardianName : String := ""
  guardianMobile : String := ""
  deriving DecidableEq

structure Grade where
  id : ℕ
  name : String
  code : String
  sequence : ℕ
  isActive : Bool
  deriving DecidableEq

structure Section where
  id : ℕ
  grade : ℕ
  name : String := ""
  code : String := ""
  department : String := ""
  isActive : Bool := true
  deriving DecidableEq

inductive EnrollmentStatus
  | active | transferred | completed | withdrawn | archived
  deriving DecidableEq

structure StudentEnrollment where
  id : ℕ
  student : ℕ
  academicYear : ℕ
  grade : ℕ
  sectionId : ℕ
  status : EnrollmentStatus
  enrolledAt : Date
  endedAt : Option Date
  deriving DecidableEq

/-- What attendance and excuses read of the school and never write. -/
structure Registry where
  settings : SchoolSettings := {}
  memberships : List Membership := []
  academicYears : List AcademicYear := []
  weekDays : List SchoolWeekDay := []
  bellSchedules : List BellSchedule := []
  bellPeriods : List BellPeriod := []
  grades : List Grade := []
  sections : List Section := []
  students : List Student := []
  enrollments : List StudentEnrollment := []
  deriving DecidableEq

structure PeriodSnapshot where
  sequence : ℕ
  name : String
  startTime : ℕ
  endTime : ℕ
  isAttendancePeriod : Bool
  deriving DecidableEq

/-- The timetable of a day as attendance froze it. -/
structure DayScheduleSnapshot where
  bellScheduleId : Option ℕ
  scheduleName : Option String
  isSchoolDay : Bool
  periods : List PeriodSnapshot
  deriving DecidableEq

structure AttendanceDayContext where
  attendanceDate : Date
  academicYear : Option ℕ
  scheduleSnapshot : DayScheduleSnapshot
  timezoneSnapshot : String
  deriving DecidableEq

def AttendanceDayContext.attendancePeriods (c : AttendanceDayContext) : List PeriodSnapshot :=
  c.scheduleSnapshot.periods.filter fun p => p.isAttendancePeriod

inductive AttendanceSessionStatus
  | inProgress | submitted
  deriving DecidableEq

structure AttendanceSession where
  id : ℕ
  academicYear : ℕ
  sectionId : ℕ
  attendanceDate : Date
  periodSequence : ℕ
  status : AttendanceSessionStatus
  rosterFingerprint : Digest (List ℕ)
  submittedByMembership : Option ℕ
  submittedAt : Option Instant
  updatedAt : Instant
  deriving DecidableEq

/-- Only absences are stored: a student without a mark in a submitted session was present. -/
inductive AttendanceMarkStatus
  | absent
  deriving DecidableEq

structure AttendanceMark where
  session : ℕ
  student : ℕ
  status : AttendanceMarkStatus
  deriving DecidableEq

inductive DailyCompleteness
  | complete | incomplete
  deriving DecidableEq

inductive DailyAbsenceStatus
  | undetermined | none | partial_ | full
  deriving DecidableEq

structure DailyAttendanceSummary where
  student : ℕ
  attendanceDate : Date
  academicYear : ℕ
  sectionId : ℕ
  expectedPeriods : ℕ
  submittedPeriods : ℕ
  absentPeriods : ℕ
  presentPeriods : ℕ
  excusedAbsentPeriods : ℕ
  unexcusedAbsentPeriods : ℕ
  completenessStatus : DailyCompleteness
  absenceStatus : DailyAbsenceStatus
  calculatedAt : Instant
  deriving DecidableEq

inductive AbsenceExcuseStatus
  | pending | approved | rejected | cancelled
  deriving DecidableEq

structure AbsenceExcuse where
  id : ℕ
  student : ℕ
  status : AbsenceExcuseStatus
  recordedAt : Instant
  approvedAt : Option Instant
  rejectedAt : Option Instant
  cancelledAt : Option Instant
  deriving DecidableEq

/-- What an excuse is for: a whole day, or one period of it. -/
structure AbsenceExcuseTarget where
  excuse : ℕ
  attendanceDate : Date
  periodSequence : Option ℕ
  deriving DecidableEq

inductive ExcuseCoverageStatus
  | active | voided
  deriving DecidableEq

structure AbsenceExcuseCoverage where
  id : ℕ
  excuse : ℕ
  student : ℕ
  attendanceSession : ℕ
  attendanceDate : Date
  periodSequenceSnapshot : ℕ
  status : ExcuseCoverageStatus
  voidedAt : Option Instant
  voidReason : String
  deriving DecidableEq

/-- The tables. A coverage gets its id when it is inserted. -/
structure School where
  registry : Registry := {}
  dayContexts : List AttendanceDayContext := []
  sessions : List AttendanceSession := []
  marks : List AttendanceMark := []
  excuses : List AbsenceExcuse := []
  targets : List AbsenceExcuseTarget := []
  coverages : List AbsenceExcuseCoverage := []
  nextCoverageId : ℕ := 1
  summaries : List DailyAttendanceSummary := []
  deriving DecidableEq

/-- What a row lock can be held on. A key stands for the entry of a unique index, which an
`INSERT` holds until its transaction ends, whether or not a row is there yet. -/
inductive Row
  | student (id : ℕ)
  | section_ (id : ℕ)
  | enrollment (id : ℕ)
  | session (id : ℕ)
  | excuse (id : ℕ)
  | coverage (id : ℕ)
  | coverageKey (session student : ℕ)
  | sessionKey (sectionId : ℕ) (date : Date) (period : ℕ)
  | dayContextKey (date : Date)
  | weekDay (weekday : ℕ)
  | bellSchedule (id : ℕ)
  | bellPeriodKey (bellSchedule sequence : ℕ)
  | summaryKey (student : ℕ) (date : Date)
  deriving DecidableEq

abbrev Transaction (α : Type) := Tx School Row Failure α

/-- A service call: its transactions, and its statements outside of any. -/
abbrev Operation (α : Type) := Program School Row Failure α

/-- Where a reading statement can stand: in a transaction or outside of one. -/
class Statements (m : Type → Type 1) extends Monad m where
  ask {α : Type} (q : School → α) : m α

export Statements (ask)

instance : Statements (Tx School Row Failure) where
  ask := Tx.select

instance : Statements (Program School Row Failure) where
  ask := Program.read

/-- Foreign keys are checked when the transaction commits: the rows that inserted rows point at
are share-locked then. -/
def checkReferences (rows : List Row) : Transaction Unit := Tx.lockRows .keyShare rows

def raiseApi {α : Type} (e : ApiError) : Transaction α := .raise (.api e)

def orRaise {α : Type} : Except ApiError α → Transaction α
  | .ok a => .ret a
  | .error e => raiseApi e

end SchoolPlatform
