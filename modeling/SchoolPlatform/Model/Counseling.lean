import SchoolPlatform.Model.Records
import SchoolPlatform.Library.Checks
import SchoolPlatform.Library.UniqueIndex
import SchoolPlatform.Library.Text

/-!
# Counselling cases

A counselor opens the case of a student from an acknowledged referral, moves it through its
statuses, closes it with a reason and opens it again. The manager of the school may do all of it
too. A view loads the case that a call is about before it calls the service.
-/

namespace SchoolPlatform.Counseling

open ReadCommitted

inductive CaseStatus
  | opened | underAssessment | followUpActive | resolved | closed
  deriving DecidableEq

def liveCaseStatuses : List CaseStatus :=
  [.opened, .underAssessment, .followUpActive, .resolved]

inductive CasePriority
  | normal | high
  deriving DecidableEq

inductive ImprovementStatus
  | improved | partiallyImproved | unchanged | worsened | notAssessed
  deriving DecidableEq

inductive CaseClosureReason
  | goalsMet | improved | noLongerRequiresFollowUp | transferred | graduated
  | referredExternally | other
  deriving DecidableEq

inductive ReferralStatus
  | pendingVice | underViceReview | referred | acknowledged | closed | cancelled
  deriving DecidableEq

structure StudentReferral where
  school : ℕ
  student : ℕ
  status : ReferralStatus
  assignedCounselor : Option ℕ
  deriving DecidableEq

structure CounselorCase where
  school : ℕ
  student : ℕ
  primaryReferral : ℕ
  assignedCounselor : Option ℕ
  status : CaseStatus := .opened
  priority : CasePriority := .normal
  openedBy : ℕ
  openedAt : Instant
  closedBy : Option ℕ := none
  closedAt : Option Instant := none
  closureReason : Option CaseClosureReason := none
  outcomeSummary : Text := []
  improvementStatus : Option ImprovementStatus := none
  lastActivityAt : Instant
  deriving DecidableEq

inductive PlanStatus
  | draft | active | completed | cancelled
  deriving DecidableEq

structure CounselorFollowUpPlan where
  caseId : ℕ
  title : Text
  status : PlanStatus := .draft
  startDate : Date
  targetEndDate : Option Date := none
  createdBy : ℕ
  activatedAt : Option Instant := none
  completedAt : Option Instant := none
  notes : Text := []
  deriving DecidableEq

inductive ActivityType
  | studentCheckIn | parentContact | teacherObservation | attendanceReview | behaviorObservation
  | followUpMeeting | other
  deriving DecidableEq

inductive ActivityStatus
  | pending | completed | cancelled
  deriving DecidableEq

structure FollowUpActivity where
  plan : ℕ
  activityType : ActivityType
  title : Text
  description : Text := []
  dueDate : Option Date := none
  status : ActivityStatus := .pending
  deriving DecidableEq

inductive FollowUpRequestType
  | academicObservation | classroomBehavior | participation | homework | attendanceObservation
  | custom
  deriving DecidableEq

inductive FollowUpRequestStatus
  | pending | answered | cancelled
  deriving DecidableEq

structure TeacherFollowUpRequest where
  caseId : ℕ
  requestedFrom : ℕ
  requestedBy : ℕ
  requestType : FollowUpRequestType
  question : Text
  dueDate : Option Date := none
  status : FollowUpRequestStatus := .pending
  respondedAt : Option Instant := none
  deriving DecidableEq

inductive TeacherImprovementStatus
  | improved | unchanged | worse | notEnoughInformation
  deriving DecidableEq

structure TeacherFollowUpResponse where
  request : ℕ
  respondedBy : ℕ
  observation : Text
  improvementStatus : TeacherImprovementStatus
  notes : Text := []
  deriving DecidableEq

inductive CaseEventType
  | caseOpened (referral : ℕ)
  | statusChanged (before after : CaseStatus)
  | caseClosed (reason : CaseClosureReason) (improvement : ImprovementStatus) (plans : ℕ)
  | caseReopened (reason : Text)
  | planCreated (plan : ℕ) (activated : Bool)
  | planActivated (plan : ℕ) (onCreate : Bool)
  | planCompleted (plan : ℕ) (byClosure : Bool)
  | planCancelled (plan : ℕ)
  | activityAdded (activity : ℕ) (activityType : ActivityType)
  | teacherFollowUpRequested (request teacher : ℕ)
  | teacherResponseReceived (request : ℕ) (improvement : TeacherImprovementStatus)
  deriving DecidableEq

structure CounselorCaseEvent where
  caseId : ℕ
  eventType : CaseEventType
  actor : ℕ
  deriving DecidableEq

/-- What `validate_teacher` reads of a membership. -/
structure StaffMember where
  school : ℕ
  isActive : Bool
  roles : List SchoolRole
  deriving DecidableEq

/-- The tables, by id. Events are in the order in which they are logged. -/
structure CaseBook where
  members : Dict ℕ StaffMember := []
  referrals : Dict ℕ StudentReferral := []
  cases : Dict ℕ CounselorCase := []
  plans : Dict ℕ CounselorFollowUpPlan := []
  activities : Dict ℕ FollowUpActivity := []
  requests : Dict ℕ TeacherFollowUpRequest := []
  responses : Dict ℕ TeacherFollowUpResponse := []
  events : List CounselorCaseEvent := []
  deriving DecidableEq

/-- What is locked: rows, and entries of the unique indexes. -/
inductive CaseRow
  | caseRow (id : ℕ)
  | planRow (id : ℕ)
  | activityRow (id : ℕ)
  | requestRow (id : ℕ)
  | referralRow (id : ℕ)
  | caseOfReferral (referral : ℕ)
  | activePlanOfCase (id : ℕ)
  | responseOf (request : ℕ)
  deriving DecidableEq

abbrev CaseTransaction (α : Type) := Tx CaseBook CaseRow Failure α

abbrev CaseProgram (α : Type) := Program CaseBook CaseRow Failure α

structure Actor where
  membership : ℕ
  roles : List SchoolRole
  deriving DecidableEq

def Actor.isCounselor (actor : Actor) : Bool := .counselor ∈ actor.roles

def Actor.isManager (actor : Actor) : Bool := .schoolManager ∈ actor.roles

def canManageCase (actor : Actor) (x : CounselorCase) : Bool :=
  actor.isManager || (actor.isCounselor && x.assignedCounselor = some actor.membership)

def canViewCase (actor : Actor) (x : CounselorCase) : Bool :=
  actor.isManager || .vicePrincipal ∈ actor.roles ||
    (actor.isCounselor && x.assignedCounselor = some actor.membership)

def apiError (code message : String) (statusCode : ℕ := 400) : Failure :=
  .api { code := code, message := message, statusCode := statusCode }

def caseNotFound : Failure := apiError "CASE_NOT_FOUND" "ملف المتابعة غير موجود." 404

def requireCaseManagement (actor : Actor) (x : CounselorCase) : CaseProgram Unit :=
  Program.require (canManageCase actor x)
    (apiError "CASE_PERMISSION_DENIED" "هذا الملف من مسؤولية مرشد آخر." 403)

def getCase (actor : Actor) (school caseId : ℕ) : CaseProgram CounselorCase := do
  let found ← Program.read fun s : CaseBook => (s.cases.get? caseId).filter fun x =>
    x.school = school && canViewCase actor x
  Program.need found caseNotFound

def CaseBook.changeCase (s : CaseBook) (id : ℕ) (f : CounselorCase → CounselorCase) : CaseBook :=
  { s with cases := s.cases.adjust id f }

def CaseBook.addCase (s : CaseBook) (id : ℕ) (x : CounselorCase) : CaseBook :=
  { s with cases := s.cases ++ [(id, x)] }

def CaseBook.log (s : CaseBook) (event : CounselorCaseEvent) : CaseBook :=
  { s with events := s.events ++ [event] }

def logCaseEvent (actor : Actor) (caseId : ℕ) (eventType : CaseEventType) :
    CaseTransaction Unit := do
  Tx.lockRows .keyShare [CaseRow.caseRow caseId]
  Tx.update fun s => s.log ⟨caseId, eventType, actor.membership⟩

/-- `select_for_update().get(id=…)` of a case. -/
def lockCase (caseId : ℕ) : CaseTransaction CounselorCase := do
  let found ← Tx.selectForUpdate (fun _ : CaseBook => [CaseRow.caseRow caseId]) fun _ s =>
    s.cases.get? caseId
  Tx.need found (.doesNotExist "CounselorCase")

def CaseBook.liveCases (s : CaseBook) (school student : ℕ) (chosen : ℕ → CounselorCase → Bool) :
    List ℕ :=
  (s.cases.filter fun p => p.2.school = school && p.2.student = student &&
    liveCaseStatuses.contains p.2.status && chosen p.1 p.2).map Prod.fst

/-- The entry of a case in `uniq_case_per_referral`. -/
def CounselorCase.caseOfReferral (x : CounselorCase) : Option ℕ := some x.primaryReferral

/-- `INSERT` of a case; a conflict is answered. -/
def insertCase (id : ℕ) (x : CounselorCase) : CaseTransaction Unit := do
  Tx.lockRows .keyShare [CaseRow.referralRow x.primaryReferral]
  Tx.lockRows .update [CaseRow.caseRow id, CaseRow.caseOfReferral x.primaryReferral]
  let taken ← Tx.select fun s : CaseBook =>
    (s.cases.get? id).isSome || s.cases.taken CounselorCase.caseOfReferral x.primaryReferral
  Tx.require (!taken)
    (apiError "CASE_ALREADY_OPEN" "تم فتح ملف متابعة لهذه الإحالة مسبقاً." 409)
  Tx.update fun s => s.addCase id x

/-- The transaction of `open_counselor_case`. Only a live case that there is can be locked. -/
def openCase (actor : Actor) (referralId : ℕ) (referral : StudentReferral)
    (priority : CasePriority) (now : Instant) (newId : ℕ) : CaseTransaction Unit := do
  let besides : CaseBook → List ℕ := fun s =>
    s.liveCases referral.school referral.student fun _ x => x.primaryReferral ≠ referralId
  let existingLive ← Tx.selectForUpdate (fun s => ((besides s).take 1).map CaseRow.caseRow)
    fun rows s => (besides s).find? fun id => rows.contains (CaseRow.caseRow id)
  match existingLive with
  | some existing =>
    Tx.raise (.api
      { code := "OPEN_CASE_EXISTS"
        message := "للطالب ملف متابعة مفتوح — أضف إليه بدل فتح ملف ثانٍ."
        statusCode := 409
        details := [("existing_case_id", .number existing)] })
  | none =>
    insertCase newId
      { school := referral.school
        student := referral.student
        primaryReferral := referralId
        assignedCounselor := referral.assignedCounselor.or
          (if actor.isCounselor then some actor.membership else none)
        priority := priority
        openedBy := actor.membership
        openedAt := now
        lastActivityAt := now }
    logCaseEvent actor newId (.caseOpened referralId)

def openCounselorCase (actor : Actor) (school referralId : ℕ) (priority : CasePriority)
    (now : Instant) (newId : ℕ) : CaseProgram Unit := do
  let found ← Program.read fun s : CaseBook =>
    (s.referrals.get? referralId).filter fun r => r.school = school
  let referral ← Program.need found
    (apiError "REFERRAL_NOT_FOUND" "الإحالة غير موجودة." 404)
  Program.require (referral.status = .acknowledged)
    (apiError "REFERRAL_NOT_ACKNOWLEDGED" "يفتح الملف بعد استلام الإحالة." 409)
  Program.require (actor.isManager ||
      (actor.isCounselor && referral.assignedCounselor = some actor.membership))
    (apiError "CASE_PERMISSION_DENIED" "فتح الملف من صلاحية المرشد المستلم للإحالة." 403)
  Program.transaction (openCase actor referralId referral priority now newId)

/-- The transaction of `reopen_case`. -/
def reopenLocked (actor : Actor) (caseId : ℕ) (reason : Text) (now : Instant) :
    CaseTransaction Unit := do
  let locked ← lockCase caseId
  Tx.require (locked.status = .closed) (apiError "CASE_NOT_CLOSED" "الملف غير مغلق." 409)
  let others ← Tx.select fun s : CaseBook =>
    s.liveCases locked.school locked.student fun id _ => id ≠ caseId
  Tx.require others.isEmpty
    (apiError "OPEN_CASE_EXISTS" "للطالب ملف متابعة مفتوح — لا يعاد فتح ملف ثانٍ." 409)
  Tx.update fun s => s.changeCase caseId fun x =>
    { x with
      status := .opened
      closedAt := none
      closedBy := none
      closureReason := none
      lastActivityAt := now }
  logCaseEvent actor caseId (.caseReopened ((Text.strip reason).take 300))

def reopenCase (actor : Actor) (school caseId : ℕ) (reason : Text) (now : Instant) :
    CaseProgram Unit := do
  let x ← getCase actor school caseId
  requireCaseManagement actor x
  Program.require (Text.strip reason ≠ [])
    (apiError "CASE_REOPEN_REASON_REQUIRED" "سبب إعادة الفتح مطلوب.")
  Program.transaction (reopenLocked actor caseId reason now)

end SchoolPlatform.Counseling
