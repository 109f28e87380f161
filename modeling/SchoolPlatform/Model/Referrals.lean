import SchoolPlatform.Model.Counseling

/-!
# Referrals to the counselor

A referral is routed to the vice principal who is responsible for the student, forwarded to a
counselor, acknowledged by the counselor, and closed or cancelled. A referral by the manager or a
vice principal goes to the counselor of the section at once, when there is one. Every transition is
an event of the referral, and forwarding it leaves an action in the record of the student.
-/

namespace SchoolPlatform.Referrals

open ReadCommitted
open SchoolPlatform.Counseling (ReferralStatus Actor StaffMember apiError)

/-! ## Choices -/

inductive ReferralSourceType
  | teacher | vicePrincipal | schoolManager
  deriving DecidableEq

inductive ReferralCategory
  | attendance | academic | classroomBehavior | social | other
  deriving DecidableEq

def ReferralCategory.value : ReferralCategory → String
  | .attendance => "ATTENDANCE"
  | .academic => "ACADEMIC"
  | .classroomBehavior => "CLASSROOM_BEHAVIOR"
  | .social => "SOCIAL"
  | .other => "OTHER"

def ReferralCategory.label : ReferralCategory → String
  | .attendance => "المواظبة"
  | .academic => "الأداء الدراسي"
  | .classroomBehavior => "سلوك صفي"
  | .social => "اجتماعي"
  | .other => "أخرى"

inductive ReferralReason
  | repeatedAbsence | repeatedMorningLate | warningEscalation | noImprovement | otherAttendance
  | academicWeakness | academicDecline | homeworkNoncompliance | lowParticipation | otherAcademic
  | sleepingInClass | repeatedDistraction | classroomDisruption | learningBehaviorConcern
  | otherClassroom
  | peerInteractionConcern | isolationConcern | otherSocial
  | counselorMeetingRequest | otherGeneral
  deriving DecidableEq

def ReferralReason.value : ReferralReason → String
  | .repeatedAbsence => "REPEATED_ABSENCE"
  | .repeatedMorningLate => "REPEATED_MORNING_LATE"
  | .warningEscalation => "WARNING_ESCALATION"
  | .noImprovement => "NO_IMPROVEMENT"
  | .otherAttendance => "OTHER_ATTENDANCE"
  | .academicWeakness => "ACADEMIC_WEAKNESS"
  | .academicDecline => "ACADEMIC_DECLINE"
  | .homeworkNoncompliance => "HOMEWORK_NONCOMPLIANCE"
  | .lowParticipation => "LOW_PARTICIPATION"
  | .otherAcademic => "OTHER_ACADEMIC"
  | .sleepingInClass => "SLEEPING_IN_CLASS"
  | .repeatedDistraction => "REPEATED_DISTRACTION"
  | .classroomDisruption => "CLASSROOM_DISRUPTION"
  | .learningBehaviorConcern => "LEARNING_BEHAVIOR_CONCERN"
  | .otherClassroom => "OTHER_CLASSROOM"
  | .peerInteractionConcern => "PEER_INTERACTION_CONCERN"
  | .isolationConcern => "ISOLATION_CONCERN"
  | .otherSocial => "OTHER_SOCIAL"
  | .counselorMeetingRequest => "COUNSELOR_MEETING_REQUEST"
  | .otherGeneral => "OTHER_GENERAL"

def reasonsByCategory : ReferralCategory → List ReferralReason
  | .attendance =>
    [.repeatedAbsence, .repeatedMorningLate, .warningEscalation, .noImprovement, .otherAttendance]
  | .academic =>
    [.academicWeakness, .academicDecline, .homeworkNoncompliance, .lowParticipation,
      .otherAcademic]
  | .classroomBehavior =>
    [.sleepingInClass, .repeatedDistraction, .classroomDisruption, .learningBehaviorConcern,
      .otherClassroom]
  | .social => [.peerInteractionConcern, .isolationConcern, .otherSocial]
  | .other => [.counselorMeetingRequest, .otherGeneral]

def reasonsRequiringDescription : List ReferralReason :=
  [.otherAttendance, .otherAcademic, .otherClassroom, .otherSocial, .otherGeneral]

def categoriesBySource : ReferralSourceType → List ReferralCategory
  | .teacher => [.academic, .classroomBehavior, .social, .other]
  | .vicePrincipal => [.attendance, .academic, .classroomBehavior, .social, .other]
  | .schoolManager => [.attendance, .academic, .classroomBehavior, .social, .other]

def openStatuses : List ReferralStatus :=
  [.pendingVice, .underViceReview, .referred, .acknowledged]

inductive ReferralPriority
  | normal | high
  deriving DecidableEq

inductive ReferralObservationType
  | classroomObservation | academicObservation | attendanceObservation | counselorIntakeNote
  | otherObservation
  deriving DecidableEq

inductive StudentActionType
  | parentContact | studentMeeting | parentMeeting | commitmentTaken | warningDelivered
  | referredToCounselor | administrativeNote | other
  deriving DecidableEq

inductive StudentActionStatus
  | completed | cancelled
  deriving DecidableEq

/-! ## Tables -/

structure ReferralEnrollment where
  id : ℕ
  school : ℕ
  student : ℕ
  grade : ℕ
  sectionId : ℕ
  status : EnrollmentStatus
  yearStatus : AcademicYearStatus
  enrolledAt : Date
  deriving DecidableEq

structure CounselorSectionAssignment where
  school : ℕ
  sectionId : ℕ
  counselorMembership : ℕ
  deriving DecidableEq

/-- `VicePrincipalScopeAssignment`: a whole grade or one section. -/
structure VicePrincipalScopeAssignment where
  school : ℕ
  grade : Option ℕ
  sectionId : Option ℕ
  vicePrincipalMembership : ℕ
  deriving DecidableEq

structure SourceWarning where
  school : ℕ
  student : ℕ
  isIssued : Bool
  deriving DecidableEq

structure StudentReferral where
  school : ℕ
  student : ℕ
  sourceType : ReferralSourceType
  category : ReferralCategory
  reasonCode : ReferralReason
  description : Text
  createdBy : ℕ
  createdAt : Instant
  assignedVice : Option ℕ
  assignedCounselor : Option ℕ
  sourceWarning : Option ℕ
  status : ReferralStatus
  priority : ReferralPriority
  acceptedAt : Option Instant := none
  viceReviewedAt : Option Instant
  closedAt : Option Instant := none
  closedBy : Option ℕ := none
  closureReason : Text := []
  deriving DecidableEq

structure StudentReferralContribution where
  referral : ℕ
  createdBy : ℕ
  observationType : ReferralObservationType
  notes : Text
  deriving DecidableEq

/-- The grade and the section that a referral has been routed by, and which of them decided. -/
structure RoutePath where
  grade : ℕ
  sectionId : ℕ
  scopeKind : Option String
  deriving DecidableEq

/-- The type of an event with what its metadata says. `ASSIGNED` is never logged. -/
inductive ReferralEventType
  | created (category : ReferralCategory) (reasonCode : ReferralReason)
  | routed (path : Option RoutePath) (vice : Option ℕ)
  | routedManually (vice : ℕ) (previous : Option ℕ)
  | viceReviewStarted
  | forwardedOnCreation (counselor : ℕ) (automatic : Bool)
  | forwarded (counselor : ℕ)
  | reassigned (counselor : ℕ) (previous : Option ℕ)
  | acknowledged
  | contributionAdded (observationType : ReferralObservationType)
  | closed
  | cancelled
  deriving DecidableEq

structure StudentReferralEvent where
  referral : ℕ
  eventType : ReferralEventType
  actor : ℕ
  deriving DecidableEq

structure StudentAction where
  school : ℕ
  student : ℕ
  warning : Option ℕ
  actionType : StudentActionType
  status : StudentActionStatus := .completed
  performedBy : ℕ
  performedAt : Instant
  notes : Text
  deriving DecidableEq

/-- The tables, most by id; of a student only the school is read. Events are in the order in which
they are logged. -/
structure ReferralBook where
  students : Dict ℕ ℕ := []
  members : Dict ℕ StaffMember := []
  enrollments : List ReferralEnrollment := []
  counselorSections : List CounselorSectionAssignment := []
  viceScopes : List VicePrincipalScopeAssignment := []
  warnings : Dict ℕ SourceWarning := []
  referrals : Dict ℕ StudentReferral := []
  contributions : Dict ℕ StudentReferralContribution := []
  events : List StudentReferralEvent := []
  actions : Dict ℕ StudentAction := []
  deriving DecidableEq

inductive ReferralRow
  | studentRow (id : ℕ)
  | gradeRow (id : ℕ)
  | sectionRow (id : ℕ)
  | warningRow (id : ℕ)
  | referralRow (id : ℕ)
  | contributionRow (id : ℕ)
  | actionRow (id : ℕ)
  deriving DecidableEq

abbrev ReferralTransaction (α : Type) := Tx ReferralBook ReferralRow Failure α

abbrev ReferralProgram (α : Type) := Program ReferralBook ReferralRow Failure α

/-! ## Who is responsible for a student -/

/-- The active enrollment of a student in the active year; of several the one enrolled last. -/
def ReferralBook.currentEnrollment (s : ReferralBook) (school student : ℕ) :
    Option ReferralEnrollment :=
  ((s.enrollments.filter fun e => e.student = student && e.school = school && e.status = .active &&
    e.yearStatus = .active).insertionSort fun a b =>
      b.enrolledAt < a.enrolledAt ∨ (a.enrolledAt = b.enrolledAt ∧ b.id ≤ a.id)).head?

def ReferralBook.isActiveMember (s : ReferralBook) (role : SchoolRole) (id : ℕ) : Bool :=
  (s.members.get? id).any fun m => m.isActive && m.roles.contains role

/-- `active_counselors` and `active_vice_principals` of a school, of which one is chosen. -/
def ReferralBook.activeMemberOf (s : ReferralBook) (role : SchoolRole) (school id : ℕ) :
    Option ℕ :=
  ((s.members.get? id).filter fun m =>
    m.isActive && m.school = school && m.roles.contains role).map fun _ => id

def validateCounselor (school counselorId : ℕ) : ReferralProgram ℕ := do
  let found ← Program.read fun s : ReferralBook => s.activeMemberOf .counselor school counselorId
  Program.need found (apiError "INVALID_COUNSELOR_ASSIGNMENT"
    "المرشد المحدد غير نشط في المدرسة الحالية.")

def validateVicePrincipal (school vicePrincipalId : ℕ) : ReferralProgram ℕ := do
  let found ← Program.read fun s : ReferralBook =>
    s.activeMemberOf .vicePrincipal school vicePrincipalId
  Program.need found (apiError "INVALID_VICE_PRINCIPAL_ASSIGNMENT"
    "الوكيل المحدد غير نشط في المدرسة الحالية.")

def assignedCounselorForStudent (school student : ℕ) : ReferralProgram (Option ℕ) := do
  let enrollment ← Program.read fun s : ReferralBook => s.currentEnrollment school student
  match enrollment with
  | none => pure none
  | some e =>
    Program.read fun s => (s.counselorSections.find? fun a =>
      a.school = school && a.sectionId = e.sectionId &&
        s.isActiveMember .counselor a.counselorMembership).map fun a => a.counselorMembership

/-- `responsible_vice_for_student`: the section comes before the grade. -/
def responsibleViceForStudent (school student : ℕ) :
    ReferralTransaction (Option ℕ × Option RoutePath) := do
  let enrollment ← Tx.select fun s : ReferralBook => s.currentEnrollment school student
  match enrollment with
  | none => pure (none, none)
  | some e =>
    Tx.lockRows .update [ReferralRow.gradeRow e.grade]
    Tx.lockRows .update [ReferralRow.sectionRow e.sectionId]
    let ofSection ← Tx.select fun s : ReferralBook => s.viceScopes.find? fun a =>
      a.school = school && a.sectionId = some e.sectionId &&
        s.isActiveMember .vicePrincipal a.vicePrincipalMembership
    match ofSection with
    | some a => pure (some a.vicePrincipalMembership, some ⟨e.grade, e.sectionId, some "SECTION"⟩)
    | none =>
      let ofGrade ← Tx.select fun s : ReferralBook => s.viceScopes.find? fun a =>
        a.school = school && a.grade = some e.grade &&
          s.isActiveMember .vicePrincipal a.vicePrincipalMembership
      match ofGrade with
      | some a => pure (some a.vicePrincipalMembership, some ⟨e.grade, e.sectionId, some "GRADE"⟩)
      | none => pure (none, some ⟨e.grade, e.sectionId, none⟩)

/-! ## Statements -/

def ReferralBook.addReferral (s : ReferralBook) (id : ℕ) (r : StudentReferral) : ReferralBook :=
  { s with referrals := s.referrals ++ [(id, r)] }

def ReferralBook.changeReferral (s : ReferralBook) (id : ℕ)
    (f : StudentReferral → StudentReferral) : ReferralBook :=
  { s with referrals := s.referrals.adjust id f }

def ReferralBook.log (s : ReferralBook) (event : StudentReferralEvent) : ReferralBook :=
  { s with events := s.events ++ [event] }

def ReferralBook.addAction (s : ReferralBook) (id : ℕ) (x : StudentAction) : ReferralBook :=
  { s with actions := s.actions ++ [(id, x)] }

def ReferralBook.addContribution (s : ReferralBook) (id : ℕ) (x : StudentReferralContribution) :
    ReferralBook :=
  { s with contributions := s.contributions ++ [(id, x)] }

def logEvent (actor : Actor) (referralId : ℕ) (eventType : ReferralEventType) :
    ReferralTransaction Unit :=
  Tx.update fun s => s.log ⟨referralId, eventType, actor.membership⟩

def saveReferral (referralId : ℕ) (f : StudentReferral → StudentReferral) :
    ReferralTransaction Unit :=
  Tx.update fun s => s.changeReferral referralId f

/-- `select_for_update().get(id=…, school=…)` of a referral. -/
def lockReferral (school referralId : ℕ) : ReferralTransaction StudentReferral := do
  let found ← Tx.selectForUpdate (fun _ : ReferralBook => [ReferralRow.referralRow referralId])
    fun _ s => (s.referrals.get? referralId).filter fun r => r.school = school
  Tx.need found (.doesNotExist "StudentReferral")

/-- The ids that a column of type `bigint` holds are smaller. -/
def maxId : ℕ := 9223372036854775808

def insertReferral (id : ℕ) (r : StudentReferral) : ReferralTransaction Unit := do
  Tx.lockRows .update [ReferralRow.referralRow id]
  let taken ← Tx.select fun s : ReferralBook => (s.referrals.get? id).isSome
  Tx.require (!taken) (.integrityError "referrals_studentreferral_pkey")
  Tx.require (id < maxId) (.dataError "id")
  Tx.update fun s => s.addReferral id r

def maxNotes : ℕ := 500

/-- `_resolve_warning` for an action: the warning is locked. -/
def resolveWarning (school student : ℕ) : Option ℕ → ReferralTransaction (Option ℕ)
  | none => pure none
  | some warningId => do
    let found ← Tx.selectForUpdate
      (fun s : ReferralBook => ((s.warnings.get? warningId).filter fun w =>
        w.school = school).toList.map fun _ => ReferralRow.warningRow warningId)
      fun _ s => (s.warnings.get? warningId).filter fun w => w.school = school
    let warning ← Tx.need (found.filter fun w => w.student = student)
      (apiError "INVALID_ACTION_WARNING_LINK"
        "الإنذار المرتبط غير موجود أو لا يخص هذا الطالب.")
    Tx.require warning.isIssued
      (apiError "INVALID_ACTION_WARNING_LINK" "لا يمكن ربط إجراء جديد بإنذار ملغى." 409)
    pure (some warningId)

/-- `create_student_action`; a missing time is now. -/
def createStudentAction (actor : Actor) (school student : ℕ) (actionType : StudentActionType)
    (warningId : Option ℕ) (performedAt : Option Instant) (notes : Text) (now : Instant)
    (newId : ℕ) : ReferralTransaction Unit := do
  let home ← Tx.select fun s : ReferralBook => s.students.get? student
  Tx.require (home = some school) (apiError "NOT_FOUND" "المورد المطلوب غير موجود." 404)
  let performed := performedAt.getD now
  Tx.require (performed ≤ now)
    (apiError "VALIDATION_ERROR" "لا يمكن تسجيل إجراء بتاريخ مستقبلي.")
  let warning ← resolveWarning school student warningId
  Tx.lockRows .update [ReferralRow.actionRow newId]
  let taken ← Tx.select fun s : ReferralBook => (s.actions.get? newId).isSome
  Tx.require (!taken) (.integrityError "student_actions_studentaction_pkey")
  Tx.update fun s => s.addAction newId
    { school := school
      student := student
      warning := warning
      actionType := actionType
      performedBy := actor.membership
      performedAt := performed
      notes := notes.take maxNotes }

def forwardingNotes (referralId : ℕ) (category : ReferralCategory) : Text :=
  ("إحالة رقم ".toList ++ (Nat.toDigits 10 referralId ++
    (" — ".toList ++ category.label.toList))).take 500

def recordForwarding (actor : Actor) (school referralId : ℕ) (r : StudentReferral) (now : Instant)
    (newId : ℕ) : ReferralTransaction Unit :=
  createStudentAction actor school r.student .referredToCounselor r.sourceWarning none
    (forwardingNotes referralId r.category) now newId

/-! ## Creating -/

/-- `resolve_source_type`: the highest role of the referring member. -/
def resolveSourceType (roles : List SchoolRole) : Option ReferralSourceType :=
  if .schoolManager ∈ roles then some .schoolManager
  else if .vicePrincipal ∈ roles then some .vicePrincipal
  else if .teacher ∈ roles then some .teacher
  else none

def canAssign (actor : Actor) : Bool :=
  .schoolManager ∈ actor.roles || .vicePrincipal ∈ actor.roles

structure ReferralEntry where
  category : ReferralCategory
  reasonCode : ReferralReason
  description : Text := []
  priority : ReferralPriority := .normal
  sourceWarning : Option ℕ := none
  assignedCounselor : Option ℕ := none
  allowDuplicate : Bool := false
  deriving DecidableEq

def validateReason (source : ReferralSourceType) (entry : ReferralEntry) :
    ReferralProgram Unit := do
  Program.require ((categoriesBySource source).contains entry.category)
    (.api
      { code := "INVALID_REFERRAL_CATEGORY"
        message := "لا يمكنك الإحالة ضمن هذه الفئة."
        details := [("category", .text entry.category.value)] })
  Program.require ((reasonsByCategory entry.category).contains entry.reasonCode)
    (.api
      { code := "INVALID_REFERRAL_REASON"
        message := "السبب المحدد لا ينتمي إلى فئة الإحالة."
        details := [("category", .text entry.category.value),
          ("reason_code", .text entry.reasonCode.value)] })
  Program.require (!(reasonsRequiringDescription.contains entry.reasonCode &&
      (Text.strip entry.description).isEmpty))
    (.api
      { code := "INVALID_REFERRAL_REASON"
        message := "اكتب وصفًا موجزًا للملاحظة عند اختيار «أخرى»."
        details := [("field", .text "description")] })

def ReferralBook.openDuplicates (s : ReferralBook) (school student : ℕ)
    (category : ReferralCategory) : List (ℕ × StudentReferral) :=
  s.referrals.filter fun p => p.2.school = school && p.2.student = student &&
    p.2.category = category && openStatuses.contains p.2.status

/-- `find_open_duplicate`: of several the one created last. -/
def ReferralBook.findOpenDuplicate (s : ReferralBook) (school student : ℕ)
    (category : ReferralCategory) : Option ℕ :=
  ((s.openDuplicates school student category).insertionSort fun p q =>
    q.2.createdAt ≤ p.2.createdAt).head?.map Prod.fst

/-- An open referral of the student in the category; those who can assign may create another. -/
def duplicateOpenReferral (actor : Actor) (existing : ℕ) : Failure :=
  .api
    { code := "DUPLICATE_OPEN_REFERRAL"
      message := "يوجد للطالب ملف متابعة مفتوح في نفس الفئة."
      statusCode := 409
      details := [("existing_referral_id", .number existing),
        ("recommended_action", .text "ADD_CONTRIBUTION")] ++
          if canAssign actor then [("can_force", .flag true)] else [] }

/-- The check for an open referral, unless a duplicate is allowed. -/
def refuseDuplicate (actor : Actor) (school student : ℕ) (entry : ReferralEntry) :
    ReferralTransaction Unit :=
  if entry.allowDuplicate && canAssign actor then pure ()
  else do
    let duplicate ← Tx.select fun s : ReferralBook =>
      s.findOpenDuplicate school student entry.category
    match duplicate with
    | some existing => Tx.raise (duplicateOpenReferral actor existing)
    | none => pure ()

def newReferral (actor : Actor) (school student : ℕ) (source : ReferralSourceType)
    (entry : ReferralEntry) (vice counselor : Option ℕ) (now : Instant) : StudentReferral where
  school := school
  student := student
  sourceType := source
  category := entry.category
  reasonCode := entry.reasonCode
  description := (Text.strip entry.description).take 1000
  createdBy := actor.membership
  createdAt := now
  assignedVice := vice
  assignedCounselor := counselor
  sourceWarning := entry.sourceWarning
  status :=
    if source = .teacher then .pendingVice
    else if counselor.isSome then .referred else .underViceReview
  priority := entry.priority
  viceReviewedAt := if source = .teacher then none else some now

/-- The transaction of `create_referral`. Teachers refer to the vice principal who is responsible,
others to the counselor when there is one. -/
def createLocked (actor : Actor) (school student : ℕ) (source : ReferralSourceType)
    (entry : ReferralEntry) (counselor : Option ℕ) (now : Instant) (newId newActionId : ℕ) :
    ReferralTransaction Unit := do
  let _ ← Tx.selectForUpdate (fun s : ReferralBook =>
    (s.students.get? student).toList.map fun _ => ReferralRow.studentRow student) fun _ s =>
      s.students.get? student
  if source = .teacher then
    let (vice, path) ← responsibleViceForStudent school student
    refuseDuplicate actor school student entry
    insertReferral newId (newReferral actor school student source entry vice none now)
    logEvent actor newId (.created entry.category entry.reasonCode)
    logEvent actor newId (.routed path vice)
  else
    let vice := if source = .vicePrincipal then some actor.membership else none
    refuseDuplicate actor school student entry
    let r := newReferral actor school student source entry vice counselor now
    insertReferral newId r
    logEvent actor newId (.created entry.category entry.reasonCode)
    match counselor with
    | none => pure ()
    | some counselorId =>
      logEvent actor newId (.forwardedOnCreation counselorId entry.assignedCounselor.isNone)
      recordForwarding actor school newId r now newActionId

def findWarning (school : ℕ) : Option ℕ → ReferralProgram (Option SourceWarning)
  | none => pure none
  | some warningId => do
    let found ← Program.read fun s : ReferralBook =>
      (s.warnings.get? warningId).filter fun w => w.school = school
    let warning ← Program.need found (apiError "NOT_FOUND" "الإنذار غير موجود." 404)
    pure (some warning)

def chooseCounselor (school student : ℕ) : Option ℕ → ReferralProgram (Option ℕ)
  | some counselorId => do
    let counselor ← validateCounselor school counselorId
    pure (some counselor)
  | none => assignedCounselorForStudent school student

/-- `create_referral`, of a student whom the view has found in the school. -/
def createReferral (actor : Actor) (school studentId : ℕ) (entry : ReferralEntry) (now : Instant)
    (newId newActionId : ℕ) : ReferralProgram Unit := do
  let found ← Program.read fun s : ReferralBook =>
    (s.students.get? studentId).filter fun home => home = school
  let _ ← Program.need found (apiError "NOT_FOUND" "الطالب غير موجود." 404)
  let warning ← findWarning school entry.sourceWarning
  let source ← Program.need (resolveSourceType actor.roles)
    (apiError "REFERRAL_PERMISSION_DENIED" "ليست لديك صلاحية إنشاء إحالة." 403)
  validateReason source entry
  Program.require (entry.assignedCounselor.isNone || canAssign actor)
    (apiError "REFERRAL_PERMISSION_DENIED" "تعيين المرشد من صلاحية المدير أو الوكيل." 403)
  let counselor ← (if source = .teacher then pure none
    else chooseCounselor school studentId entry.assignedCounselor)
  Program.require (warning.all fun w => w.school = school && w.student = studentId)
    (.api
      { code := "INVALID_REFERRAL_REASON"
        message := "الإنذار المرتبط لا يخص هذا الطالب."
        details := [("field", .text "source_warning")] })
  Program.transaction
    (createLocked actor school studentId source entry counselor now newId newActionId)

def otherVicePrincipal : Failure :=
  apiError "REFERRAL_PERMISSION_DENIED" "هذه الإحالة من مسؤولية وكيل آخر." 403

def invalidTransition (message : String) : Failure :=
  apiError "INVALID_REFERRAL_STATUS_TRANSITION" message 409

/-- A referral of a teacher that no vice principal is responsible for yet. -/
def StudentReferral.lacksVice (r : StudentReferral) : Bool :=
  r.sourceType = .teacher && r.assignedVice.isNone

/-- The transaction of `assign_vice_principal`; nothing happens when the vice principal stays. -/
def assignViceLocked (actor : Actor) (school referralId vice : ℕ) : ReferralTransaction Unit := do
  let r ← lockReferral school referralId
  Tx.require (r.status = .pendingVice || r.status = .underViceReview)
    (invalidTransition "لا يمكن تغيير الوكيل بعد تحويل الإحالة للمرشد.")
  if r.assignedVice = some vice then pure ()
  else
    saveReferral referralId fun x =>
      { x with assignedVice := some vice, status := .pendingVice, viceReviewedAt := none }
    logEvent actor referralId (.routedManually vice r.assignedVice)

def assignVicePrincipal (actor : Actor) (school referralId vicePrincipalId : ℕ) :
    ReferralProgram Unit := do
  let vice ← validateVicePrincipal school vicePrincipalId
  Program.transaction (assignViceLocked actor school referralId vice)

/-- `start_vice_review`; nothing happens when the review has started. -/
def startViceReview (actor : Actor) (school referralId : ℕ) (isManager : Bool) (now : Instant) :
    ReferralProgram Unit := Program.transaction do
  let r ← lockReferral school referralId
  if r.status = .underViceReview then
    Tx.require (isManager || r.assignedVice = some actor.membership) otherVicePrincipal
  else
    Tx.require (r.status = .pendingVice)
      (invalidTransition "الإحالة ليست بانتظار مراجعة الوكيل.")
    Tx.require (!r.lacksVice)
      (apiError "REFERRAL_VICE_PRINCIPAL_REQUIRED"
        "يجب إسناد الإحالة إلى وكيل مسؤول قبل بدء معالجتها." 409)
    Tx.require (isManager || r.assignedVice = some actor.membership) otherVicePrincipal
    saveReferral referralId fun x =>
      { x with status := .underViceReview, viceReviewedAt := some now }
    logEvent actor referralId .viceReviewStarted

def terminalError (status : ReferralStatus) : Failure :=
  if status = .cancelled then apiError "REFERRAL_ALREADY_CLOSED" "هذه الإحالة ملغاة." 409
  else apiError "REFERRAL_ALREADY_CLOSED" "هذه الإحالة مغلقة." 409

def isTerminal (status : ReferralStatus) : Bool := status = .closed || status = .cancelled

/-- The transaction of `assign_counselor`: the first counselor is recorded as an action. -/
def assignCounselorLocked (actor : Actor) (school referralId counselor : ℕ) (now : Instant)
    (newActionId : ℕ) : ReferralTransaction Unit := do
  let r ← lockReferral school referralId
  Tx.require (!r.lacksVice)
    (apiError "REFERRAL_VICE_PRINCIPAL_REQUIRED"
      "يجب إسناد الإحالة إلى وكيل مسؤول قبل تحويلها للمرشد." 409)
  Tx.require (actor.isManager || r.assignedVice = some actor.membership) otherVicePrincipal
  Tx.require (!isTerminal r.status) (terminalError r.status)
  Tx.require (r.status ≠ .acknowledged)
    (invalidTransition "لا يمكن تغيير المرشد بعد استلام الحالة.")
  if r.assignedCounselor = some counselor ∧ r.status = .referred then pure ()
  else
    saveReferral referralId fun x =>
      { x with
        assignedCounselor := some counselor
        status := .referred
        viceReviewedAt := x.viceReviewedAt.or (some now) }
    match r.assignedCounselor with
    | some previous => logEvent actor referralId (.reassigned counselor previous)
    | none =>
      logEvent actor referralId (.forwarded counselor)
      recordForwarding actor school referralId r now newActionId

def assignCounselor (actor : Actor) (school referralId counselorId : ℕ) (now : Instant)
    (newActionId : ℕ) : ReferralProgram Unit := do
  let counselor ← validateCounselor school counselorId
  Program.transaction (assignCounselorLocked actor school referralId counselor now newActionId)

def acknowledgeReferral (actor : Actor) (school referralId : ℕ) (now : Instant) :
    ReferralProgram Unit := Program.transaction do
  let r ← lockReferral school referralId
  Tx.require (r.status ≠ .acknowledged)
    (apiError "REFERRAL_ALREADY_ACKNOWLEDGED" "تم استلام هذه الإحالة مسبقًا." 409)
  Tx.require (!isTerminal r.status) (terminalError r.status)
  Tx.require (r.status = .referred)
    (apiError "REFERRAL_NOT_FORWARDED" "لم يحوّل الوكيل هذه الإحالة إلى المرشد بعد." 409)
  Tx.require (actor.isCounselor && r.assignedCounselor = some actor.membership)
    (apiError "REFERRAL_PERMISSION_DENIED" "هذه الإحالة معينة لمرشد آخر." 403)
  saveReferral referralId fun x => { x with status := .acknowledged, acceptedAt := some now }
  logEvent actor referralId .acknowledged

def mayClose (actor : Actor) (r : StudentReferral) (cancel : Bool) : Bool :=
  let isResponsibleVice := .vicePrincipal ∈ actor.roles &&
    r.assignedVice = some actor.membership &&
      (r.status = .pendingVice || r.status = .underViceReview)
  let isAssignedCounselor := actor.isCounselor &&
    r.assignedCounselor = some actor.membership && r.status = .acknowledged
  let isCreatorBeforeReview := r.createdBy = actor.membership && r.status = .pendingVice
  actor.isManager || isResponsibleVice ||
    if cancel then isCreatorBeforeReview else isAssignedCounselor

/-- `close_referral`: the referral is closed, or cancelled. -/
def closeReferral (actor : Actor) (school referralId : ℕ) (reason : Text) (cancel : Bool)
    (creatorOnly : Bool) (now : Instant) : ReferralProgram Unit := Program.transaction do
  let r ← lockReferral school referralId
  Tx.require (!isTerminal r.status) (terminalError r.status)
  Tx.require (!creatorOnly || (r.createdBy = actor.membership && r.status = .pendingVice))
    (apiError "REFERRAL_ALREADY_ACKNOWLEDGED" "بدأت معالجة الإحالة — الإلغاء بعدها للإدارة." 409)
  Tx.require (mayClose actor r cancel)
    (apiError "REFERRAL_PERMISSION_DENIED" "هذا الإجراء للمسؤول الحالي عن الإحالة فقط." 403)
  saveReferral referralId fun x =>
    { x with
      status := if cancel then .cancelled else .closed
      closedAt := some now
      closedBy := some actor.membership
      closureReason := (Text.strip reason).take 300 }
  logEvent actor referralId (if cancel then .cancelled else .closed)

def addContribution (actor : Actor) (school referralId : ℕ)
    (observationType : ReferralObservationType) (notes : Text) (newId : ℕ) :
    ReferralProgram Unit := Program.transaction do
  let r ← lockReferral school referralId
  Tx.require (openStatuses.contains r.status) (terminalError r.status)
  Tx.lockRows .update [ReferralRow.contributionRow newId]
  let taken ← Tx.select fun s : ReferralBook => (s.contributions.get? newId).isSome
  Tx.require (!taken) (.integrityError "referrals_studentreferralcontribution_pkey")
  Tx.update fun s => s.addContribution newId
    ⟨referralId, actor.membership, observationType, (Text.strip notes).take 1000⟩
  logEvent actor referralId (.contributionAdded observationType)

inductive ReferralCall
  | createReferral (actor : Actor) (school studentId : ℕ) (entry : ReferralEntry) (now : Instant)
      (newId newActionId : ℕ)
  | assignVicePrincipal (actor : Actor) (school referralId vicePrincipalId : ℕ)
  | startViceReview (actor : Actor) (school referralId : ℕ) (isManager : Bool) (now : Instant)
  | assignCounselor (actor : Actor) (school referralId counselorId : ℕ) (now : Instant)
      (newActionId : ℕ)
  | acknowledgeReferral (actor : Actor) (school referralId : ℕ) (now : Instant)
  | closeReferral (actor : Actor) (school referralId : ℕ) (reason : Text)
      (cancel creatorOnly : Bool) (now : Instant)
  | addContribution (actor : Actor) (school referralId : ℕ)
      (observationType : ReferralObservationType) (notes : Text) (newId : ℕ)
  deriving DecidableEq

def ReferralCall.program : ReferralCall → ReferralProgram Unit
  | .createReferral actor school studentId entry now newId newActionId =>
    Referrals.createReferral actor school studentId entry now newId newActionId
  | .assignVicePrincipal actor school referralId vicePrincipalId =>
    Referrals.assignVicePrincipal actor school referralId vicePrincipalId
  | .startViceReview actor school referralId isManager now =>
    Referrals.startViceReview actor school referralId isManager now
  | .assignCounselor actor school referralId counselorId now newActionId =>
    Referrals.assignCounselor actor school referralId counselorId now newActionId
  | .acknowledgeReferral actor school referralId now =>
    Referrals.acknowledgeReferral actor school referralId now
  | .closeReferral actor school referralId reason cancel creatorOnly now =>
    Referrals.closeReferral actor school referralId reason cancel creatorOnly now
  | .addContribution actor school referralId observationType notes newId =>
    Referrals.addContribution actor school referralId observationType notes newId

end SchoolPlatform.Referrals
