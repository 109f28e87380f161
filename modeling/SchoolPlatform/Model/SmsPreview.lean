import SchoolPlatform.Model.AbsenceSms
import SchoolPlatform.Model.Dashboard
import SchoolPlatform.Model.StaffFile

/-!
# The preview of absence messages

Before messages are queued a user sees who could get one. The preview classifies all candidates of a
date at once, from rows it has fetched beforehand; queueing looks at the chosen students again, one
by one and under locks.
-/

namespace SchoolPlatform

open ReadCommitted

/-- A candidate with the section and grade of its summary. -/
structure CandidateRow where
  summary : DailyAttendanceSummary
  student : Student
  names : Option (Section × Grade)
  deriving DecidableEq

def CandidateRow.gradeName (row : CandidateRow) : String := row.names.elim "" fun p => p.2.name

def CandidateRow.sectionName (row : CandidateRow) : String := row.names.elim "" fun p => p.1.name

def School.candidateRow (s : School) (p : DailyAttendanceSummary × Student) : CandidateRow :=
  ⟨p.1, p.2, s.sectionNames p.1.sectionId⟩

/-- By grade, section, name and id. -/
def inPreviewOrder (collation : Collation) (rows : List CandidateRow) : List CandidateRow :=
  let sequence := fun row : CandidateRow => row.names.elim 0 fun p => p.2.sequence
  let code := fun row : CandidateRow => row.names.elim "" fun p => p.1.code
  rows.insertionSort fun a b => ordered
    [(decide (sequence a ≤ sequence b), decide (sequence b ≤ sequence a)),
      (collation (code a) (code b), collation (code b) (code a)),
      (collation a.student.fullName b.student.fullName,
        collation b.student.fullName a.student.fullName),
      (decide (a.summary.student ≤ b.summary.student),
        decide (b.summary.student ≤ a.summary.student))]

def SmsFacts.blockedStudentIds (s : SmsFacts) (students : List Student) : List ℕ :=
  (s.contactBlocks.filter fun b => b.resolved = false ∧
    (students.find? fun x => x.id = b.student).any fun x =>
      recipientHash x.guardianMobile = b.mobileHash).map fun b => b.student

def defaultAbsenceSmsMessageTemplate : String :=
  "ولي الأمر، تم تسجيل غياب الطالب «اسم الطالب» يوم «التاريخ». " ++
    "يرجى تقديم العذر للمدرسة إن وجد."

/-- `absence_message_template`, from the settings row of the school if there is one. -/
def absenceMessageTemplate (settings : Option String) : String :=
  match settings with
  | some template => if template = "" then defaultAbsenceSmsMessageTemplate else template
  | none => defaultAbsenceSmsMessageTemplate

/-- The status of a notice, of which nobody knows any more after five minutes of sending. -/
def shownStatus (staleBefore updatedAt : Instant) (n : AbsenceSmsNotice) : AbsenceSmsStatus :=
  if n.status = .sending ∧ updatedAt < staleBefore then .unknown else n.status

structure CandidatePayload where
  studentId : ℕ
  fullName : String
  gradeName : String
  sectionName : String
  absenceStatus : DailyAbsenceStatus
  submittedPeriods : ℕ
  expectedPeriods : ℕ
  requiredPeriods : ℕ := 1
  eligibilityReason : Option String
  recipientMasked : String
  sendStatus : Option AbsenceSmsStatus
  sendError : String
  deriving DecidableEq

structure ContactIssue where
  studentId : ℕ
  fullName : String
  gradeName : String
  sectionName : String
  reason : Option String
  deriving DecidableEq

structure SmsPreview where
  date : Date
  page : ℕ
  pageSize : ℕ := MAX_SEND_BATCH
  total : ℕ
  readyTotal : ℕ
  candidateStudentIds : List ℕ
  selectableStudentIds : List ℕ
  contactIssues : List ContactIssue
  minApprovedPeriods : ℕ := 1
  messageTemplate : String
  defaultMessageTemplate : String := defaultAbsenceSmsMessageTemplate
  provider : Option SmsProvider
  isActive : Bool
  students : List CandidatePayload
  deriving DecidableEq

/-- Why a candidate gets no message. -/
def eligibilityReason (blocked : List ℕ) (row : CandidateRow) : Option String :=
  if row.summary.submittedPeriods = 0 then some "NO_APPROVED_ATTENDANCE"
  else if row.summary.unexcusedAbsentPeriods = 0 then some "EXCUSED_ABSENCE"
  else if (recipientIssue row.student.guardianMobile).isSome then
    recipientIssue row.student.guardianMobile
  else if row.summary.student ∈ blocked then some "RECIPIENT_SECURITY_REVIEW"
  else none

/-- `candidate_payload`; `states` has the shown status and the failure code of the notices of the
date. -/
def candidatePayload (blocked : List ℕ) (states : ℕ → Option (AbsenceSmsStatus × String))
    (row : CandidateRow) : CandidatePayload where
  studentId := row.summary.student
  fullName := row.student.fullName
  gradeName := row.gradeName
  sectionName := row.sectionName
  absenceStatus := row.summary.absenceStatus
  submittedPeriods := row.summary.submittedPeriods
  expectedPeriods := row.summary.expectedPeriods
  eligibilityReason := eligibilityReason blocked row
  recipientMasked :=
    if row.student.guardianMobile = "" then "" else maskMobile row.student.guardianMobile
  sendStatus := (states row.summary.student).map Prod.fst
  sendError := ((states row.summary.student).map Prod.snd).getD ""

def contactIssue (row : CandidateRow) : ContactIssue where
  studentId := row.summary.student
  fullName := row.student.fullName
  gradeName := row.gradeName
  sectionName := row.sectionName
  reason := recipientIssue row.student.guardianMobile

/-- The students that can be chosen: nothing has been queued for them yet, or it has failed. -/
def selectableIds (blocked : List ℕ) (states : ℕ → Option (AbsenceSmsStatus × String))
    (eligible : List CandidateRow) : List ℕ :=
  ((eligible.filter fun row => recipientIssue row.student.guardianMobile = none ∧
    row.summary.student ∉ blocked).map fun row => row.summary.student).filter fun student =>
      (states student).map Prod.fst = none ∨ (states student).map Prod.fst = some .failed

/-- `absence_preview`: `updatedAt` is the column of that name of the notices, and `settings` the
template in the settings row. -/
def absencePreview (now : Instant) (updatedAt : NoticeKey → Instant) (collation : Collation)
    (settings : Option String) (d : Date) (page : ℤ) : SmsProgram SmsPreview := do
  let hasFeature ← Program.read fun s => s.facts.hasAbsenceSms
  if !hasFeature then
    .raise (.api (featureNotIncluded "ABSENCE_SMS" "رسائل الغياب"))
  else do
    let integration ← Program.read fun s => s.facts.integration
    let rows ← Program.read fun s => inPreviewOrder collation
      ((s.facts.school.candidateAbsences d).map s.facts.school.candidateRow)
    let blocked ← Program.read fun s =>
      s.facts.blockedStudentIds (rows.map fun row => row.student)
    let eligible ← Program.read fun s => inPreviewOrder collation
      ((s.facts.school.eligibleAbsences d).map s.facts.school.candidateRow)
    -- Five minutes.
    let staleBefore := now - 5 * 60 * 1000000
    let states ← Program.read fun s => fun student =>
      (s.notices ⟨student, d⟩).map fun n =>
        (shownStatus staleBefore (updatedAt ⟨student, d⟩) n, n.failureCode)
    let selectable := selectableIds blocked states eligible
    let page := max page.toNat 1
    pure
      { date := d
        page := page
        total := rows.length
        readyTotal := selectable.length
        candidateStudentIds := rows.map fun row => row.summary.student
        selectableStudentIds := selectable
        contactIssues := (rows.filter fun row =>
          (recipientIssue row.student.guardianMobile).isSome).map contactIssue
        messageTemplate := absenceMessageTemplate settings
        provider := integration.map fun x => x.provider
        isActive := integration.any fun x => x.isActive
        students := ((rows.drop ((page - 1) * MAX_SEND_BATCH)).take MAX_SEND_BATCH).map
          (candidatePayload blocked states) }

/-- `queue_absence_sms` with what it has done to each student, of which it returns the numbers. -/
def queueAbsenceSmsResult (actor : ℕ) (d : Date) (studentIds : List ℕ) (brokerDown : ℕ → Bool) :
    SmsProgram QueueResult := do
  let hasFeature ← Program.read fun s => s.facts.hasAbsenceSms
  if !hasFeature then
    .raise (.api (featureNotIncluded "ABSENCE_SMS" "رسائل الغياب"))
  else if studentIds = [] ∨ MAX_SEND_BATCH < studentIds.length ∨ ¬ studentIds.Nodup then
    .raise (smsError "SMS_SELECTION_INVALID" "حدد من 1 إلى 50 طالبًا دون تكرار." 400)
  else do
    let result ← Program.transaction (queueAbsences actor d studentIds)
    Program.forEach (fun key : NoticeKey =>
      if brokerDown key.student then Program.transaction (queueUnavailable key) else .ret ())
      result.queued
    pure result

end SchoolPlatform
