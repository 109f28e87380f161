import SchoolPlatform.Model.StudentOffice

/-!
# The staff of a school

A user is known to the whole platform by a mobile number; a membership ties a user to the school,
with roles, and a profile says how the school names a member. The calls here add one member,
suspend or reactivate one, and distribute sections and grades over counselors and vice principals.
Conflicts of such a distribution are refused without the list of them.
-/

namespace SchoolPlatform

inductive MembershipStatus
  | active | invited | declined | suspended | left
  deriving DecidableEq

structure User where
  id : ℕ
  mobile : String
  firstName : String
  deriving DecidableEq

structure SchoolMembership where
  id : ℕ
  user : ℕ
  status : MembershipStatus
  roles : List SchoolRole
  deriving DecidableEq

inductive StaffSource
  | fromImport | manual
  deriving DecidableEq

structure StaffProfile where
  membership : ℕ
  displayName : String
  employeeNumber : Option String
  jobTitle : String
  source : StaffSource
  deriving DecidableEq

structure CounselorSectionAssignment where
  sectionId : ℕ
  counselorMembership : ℕ
  deriving DecidableEq

/-- A whole grade or one section. -/
inductive ScopeTarget
  | grade (id : ℕ)
  | ofSection (id : ℕ)
  deriving DecidableEq

structure VicePrincipalScopeAssignment where
  target : ScopeTarget
  vicePrincipalMembership : ℕ
  deriving DecidableEq

inductive StaffRowStatus
  | new | existingUserInvite | addTeacherRole | profileUpdate | existingUnchanged
  | invitationPending | needsManualAction | error | duplicateInFile
  deriving DecidableEq

inductive StaffRowError
  | missingName | missingMobile | invalidMobile | duplicateMobileInFile
  deriving DecidableEq

structure StaffRow where
  rowNumber : ℕ
  fullName : String
  mobile : String
  mobileMasked : String
  employeeNumber : Option String
  jobTitle : String
  errors : List StaffRowError
  status : Option StaffRowStatus := none
  membershipId : Option ℕ := none
  deriving DecidableEq

structure StaffSummary where
  new : ℕ := 0
  invite : ℕ := 0
  addRole : ℕ := 0
  profileUpdate : ℕ := 0
  unchanged : ℕ := 0
  invitationPending : ℕ := 0
  manual : ℕ := 0
  errors : ℕ := 0
  duplicates : ℕ := 0
  deriving DecidableEq

structure StaffCounts where
  created : ℕ := 0
  invited : ℕ := 0
  rolesAdded : ℕ := 0
  profilesUpdated : ℕ := 0
  deriving DecidableEq

structure StaffImportJob where
  id : ℕ
  status : ImportJobStatus := .uploaded
  rows : List StaffRow := []
  summary : StaffSummary := {}
  counts : StaffCounts := {}
  errorCode : String := ""
  deriving DecidableEq

structure Staff where
  users : List User := []
  memberships : List SchoolMembership := []
  profiles : List StaffProfile := []
  counselorSections : List CounselorSectionAssignment := []
  vicePrincipalScopes : List VicePrincipalScopeAssignment := []
  importJobs : List StaffImportJob := []
  maxStaff : Option ℕ := none
  nextId : ℕ := 1
  deriving DecidableEq

def Staff.countActiveStaff (s : Staff) : ℕ := s.memberships.countP fun m => m.status = .active

def Staff.requireCapacity (s : Staff) (adding : ℕ) : Except ApiError Unit :=
  match s.maxStaff with
  | none => .ok ()
  | some limit =>
    let current := s.countActiveStaff
    if current + adding ≤ limit then .ok ()
    else .error
      { code := "STAFF_LIMIT_EXCEEDED"
        message := s!"تجاوز عدد الموظفين حد الباقة ({current + adding} من {limit}). يرجى ترقية الباقة."
        statusCode := 409
        details := [("limit", .number limit), ("current", .number current),
          ("requested", .number adding)] }

def Staff.userByMobile (s : Staff) (mobile : String) : Option User :=
  s.users.find? fun u => u.mobile = mobile

def Staff.membershipOf (s : Staff) (user : ℕ) : Option SchoolMembership :=
  s.memberships.find? fun m => m.user = user

def Staff.membership? (s : Staff) (id : ℕ) : Option SchoolMembership :=
  s.memberships.find? fun m => m.id = id

def Staff.profileOf (s : Staff) (membership : ℕ) : Option StaffProfile :=
  s.profiles.find? fun p => p.membership = membership

def Staff.putMembership (s : Staff) (m : SchoolMembership) : Staff :=
  { s with memberships := Table.put (fun x => x.id) m s.memberships }

/-- `User.objects.create_user`, of a mobile number that no user has; the name of a user is shorter
than that of a profile. -/
def Staff.createUser (s : Staff) (mobile name : String) : Except Failure (User × Staff) :=
  if 150 < name.length then .error (.dataError "accounts_user")
  else
    let user : User := ⟨s.nextId, mobile, name⟩
    .ok (user, { s with users := s.users ++ [user], nextId := s.nextId + 1 })

def Staff.createMembership (s : Staff) (user : ℕ) (status : MembershipStatus) :
    SchoolMembership × Staff :=
  let m : SchoolMembership := ⟨s.nextId, user, status, []⟩
  (m, { s with memberships := s.memberships ++ [m], nextId := s.nextId + 1 })

/-- `SchoolMembershipRole.objects.get_or_create`. -/
def Staff.giveRole (s : Staff) (m : SchoolMembership) (role : SchoolRole) :
    SchoolMembership × Staff :=
  if role ∈ m.roles then (m, s)
  else
    let m := { m with roles := m.roles ++ [role] }
    (m, s.putMembership m)

def StaffProfile.Fits (p : StaffProfile) : Prop :=
  p.displayName.length ≤ 200 ∧ (p.employeeNumber.getD "").length ≤ 30 ∧ p.jobTitle.length ≤ 100

instance instDecidableStaffProfileFits (p : StaffProfile) : Decidable p.Fits := by
  unfold StaffProfile.Fits
  infer_instance

def Staff.employeeNumberTaken (s : Staff) (p : StaffProfile) : Bool :=
  p.employeeNumber ≠ none ∧
    s.profiles.any fun q => q.employeeNumber = p.employeeNumber ∧ q.membership ≠ p.membership

def Staff.saveProfile (s : Staff) (p : StaffProfile) : Except Failure Staff :=
  if ¬ p.Fits then .error (.dataError "staff_staffprofile")
  else if s.employeeNumberTaken p then .error (.integrityError "uniq_employee_number_per_school")
  else .ok { s with profiles := s.profiles.filter (fun q => q.membership ≠ p.membership) ++ [p] }

/-- `set_counselor_sections`: an empty choice means every active section. -/
def setCounselorSections (r : Registry) (m : SchoolMembership) (sectionIds : List ℕ)
    (confirmReassignment : Bool) (s : Staff) : Except ApiError Staff :=
  if .counselor ∉ m.roles then
    .error
      { code := "INVALID_COUNSELOR_ASSIGNMENT"
        message := "الموظف المحدد ليس مرشدًا طلابيًا في المدرسة الحالية." }
  else
    let requested := sectionIds.dedup
    let targets := (r.sections.filter fun x =>
      x.isActive ∧ (requested = [] ∨ x.id ∈ requested)).map fun x => x.id
    if requested ≠ [] ∧ targets.length ≠ requested.length then
      .error
        { code := "INVALID_COUNSELOR_SECTIONS"
          message := "تتضمن الفصول المحددة فصلًا غير نشط أو لا يتبع المدرسة الحالية."
          details := [("field", .text "counselor_section_ids")] }
    else if (s.counselorSections.any fun a =>
        a.sectionId ∈ targets ∧ a.counselorMembership ≠ m.id) ∧ ¬ confirmReassignment then
      .error
        { code := "COUNSELOR_SECTION_REASSIGNMENT_REQUIRED"
          message := "بعض الفصول مرتبطة بمرشد آخر. أكّد نقل مسؤوليتها للمتابعة."
          statusCode := 409 }
    else .ok { s with
      counselorSections := (s.counselorSections.filter fun a =>
        a.counselorMembership ≠ m.id ∧ a.sectionId ∉ targets) ++ targets.map fun id => ⟨id, m.id⟩ }

def invalidVicePrincipalScopes (message field : String) : ApiError where
  code := "INVALID_VICE_PRINCIPAL_SCOPES"
  message := message
  details := [("field", .text field)]

/-- `set_vice_principal_scopes`: a grade that is chosen covers its sections. -/
def setVicePrincipalScopes (r : Registry) (m : SchoolMembership) (gradeIds sectionIds : List ℕ)
    (confirmReassignment : Bool) (s : Staff) : Except ApiError Staff :=
  if .vicePrincipal ∉ m.roles then
    .error
      { code := "INVALID_VICE_PRINCIPAL_ASSIGNMENT"
        message := "الموظف المحدد ليس وكيلًا في المدرسة الحالية." }
  else
    let requestedGrades := gradeIds.dedup
    let requestedSections := sectionIds.dedup
    let grades := (r.grades.filter fun g => g.isActive ∧ g.id ∈ requestedGrades).map fun g => g.id
    if grades.length ≠ requestedGrades.length then
      .error (invalidVicePrincipalScopes
        "تتضمن الصفوف المحددة صفًا غير نشط أو لا يتبع المدرسة الحالية."
        "vice_principal_grade_ids")
    else
      let sections := r.sections.filter fun x =>
        x.isActive ∧ (r.grades.any fun g => g.id = x.grade ∧ g.isActive) ∧ x.id ∈ requestedSections
      if sections.length ≠ requestedSections.length then
        .error (invalidVicePrincipalScopes
          "تتضمن الفصول المحددة فصلًا غير نشط أو لا يتبع المدرسة الحالية."
          "vice_principal_section_ids")
      else
        let targets := grades.map ScopeTarget.grade ++
          (sections.filter fun x => x.grade ∉ grades).map fun x => ScopeTarget.ofSection x.id
        if (s.vicePrincipalScopes.any fun a =>
            a.target ∈ targets ∧ a.vicePrincipalMembership ≠ m.id) ∧ ¬ confirmReassignment then
          .error
            { code := "VICE_PRINCIPAL_SCOPE_REASSIGNMENT_REQUIRED"
              message := "بعض الصفوف أو الفصول مرتبطة بوكيل آخر. أكّد نقل مسؤوليتها."
              statusCode := 409 }
        else .ok { s with
          vicePrincipalScopes := (s.vicePrincipalScopes.filter fun a =>
            a.vicePrincipalMembership ≠ m.id ∧ a.target ∉ targets) ++
              targets.map fun target => ⟨target, m.id⟩ }

structure NewStaffData where
  displayName : String
  mobile : String
  employeeNumber : String := ""
  jobTitle : String := ""
  role : SchoolRole
  counselorSectionIds : List ℕ := []
  confirmSectionReassignment : Bool := false
  vicePrincipalGradeIds : List ℕ := []
  vicePrincipalSectionIds : List ℕ := []
  confirmScopeReassignment : Bool := false
  deriving DecidableEq

def schoolManagerAssignmentPlatformOnly : ApiError where
  code := "SCHOOL_MANAGER_ASSIGNMENT_PLATFORM_ONLY"
  message := "لا يمكن إضافة مدير آخر من إدارة موظفي المدرسة. " ++
    "للمدرسة مدير واحد تتم إدارة حسابه من إدارة المنصة."
  statusCode := 403

def staffAlreadyExists (message : String) : ApiError where
  code := "STAFF_ALREADY_EXISTS"
  message := message
  statusCode := 409

def orFail {α : Type} : Except ApiError α → Except Failure α
  | .ok a => .ok a
  | .error e => .error (.api e)

def Staff.getOrCreateUser (s : Staff) (mobile name : String) :
    Except Failure (User × Bool × Staff) :=
  match s.userByMobile mobile with
  | some user => .ok (user, false, s)
  | none => do
    let (user, s) ← s.createUser mobile name
    pure (user, true, s)

/-- The membership of a user who is added by hand: a new user's is active at once, every other one
is an invitation, and a member who has left is invited again. -/
def Staff.enlist (s : Staff) (user : User) (isNew : Bool) : SchoolMembership × Staff :=
  match s.membershipOf user.id with
  | none => s.createMembership user.id (if isNew then .active else .invited)
  | some m =>
    if m.status = .left then
      let m := { m with status := .invited }
      (m, s.putMembership m)
    else (m, s)

def createStaff (r : Registry) (data : NewStaffData) (s : Staff) : Except Failure Staff := do
  if data.role = .schoolManager then .error (.api schoolManagerAssignmentPlatformOnly)
  else
    let known := (s.userByMobile data.mobile).bind fun u => s.membershipOf u.id
    if known.any fun m => (s.profileOf m.id).isSome then
      .error (.api (staffAlreadyExists "هذا الموظف مضاف إلى المدرسة مسبقًا."))
    else
      let _ ← orFail (if known.isNone then s.requireCapacity 1 else .ok ())
      let employeeNumber := if data.employeeNumber = "" then none else some data.employeeNumber
      if employeeNumber ≠ none ∧ s.profiles.any fun p => p.employeeNumber = employeeNumber then
        .error (.api
          { code := "EMPLOYEE_NUMBER_ALREADY_EXISTS"
            message := "الرقم الوظيفي مستخدم مسبقًا."
            statusCode := 409 })
      else
        let (user, isNew, s) ← s.getOrCreateUser data.mobile data.displayName
        let (m, s) := s.enlist user isNew
        let (m, s) := s.giveRole m data.role
        let s ← s.saveProfile ⟨m.id, data.displayName, employeeNumber, data.jobTitle, .manual⟩
        let s ← orFail (if data.role = .counselor then
          setCounselorSections r m data.counselorSectionIds data.confirmSectionReassignment s
          else .ok s)
        orFail (if data.role = .vicePrincipal then
          setVicePrincipalScopes r m data.vicePrincipalGradeIds data.vicePrincipalSectionIds
            data.confirmScopeReassignment s
          else .ok s)

def managerAccountRequiresPlatform (m : SchoolMembership) (isPlatformAdmin : Bool)
    (action : String) : Except ApiError Unit :=
  if .schoolManager ∈ m.roles ∧ ¬ isPlatformAdmin then
    .error
      { code := "SCHOOL_MANAGER_ACCOUNT_PLATFORM_ONLY"
        message := s!"لا يمكن {action} حساب مدير المدرسة من إدارة الموظفين. " ++
          "تتم إدارته من إدارة المنصة فقط."
        statusCode := 403 }
  else .ok ()

def Staff.isLastActiveManager (s : Staff) (m : SchoolMembership) : Bool :=
  .schoolManager ∈ m.roles ∧ m.status = .active ∧
    ¬ s.memberships.any fun other =>
      other.status = .active ∧ .schoolManager ∈ other.roles ∧ other.id ≠ m.id

/-- `StaffSuspendView.post` and `suspend`, for a member with a profile. -/
def suspend (membershipId : ℕ) (isPlatformAdmin : Bool) (s : Staff) : Except Failure Staff :=
  match (s.profileOf membershipId).bind fun p => s.membership? p.membership with
  | none => .error (.doesNotExist "StaffProfile")
  | some m =>
    if m.status ≠ .active then
      .error (.api { code := "VALIDATION_ERROR", message := "العضوية ليست فعالة." })
    else do
      let _ ← orFail (managerAccountRequiresPlatform m isPlatformAdmin "إيقاف")
      if s.isLastActiveManager m then
        .error (.api
          { code := "LAST_SCHOOL_MANAGER_REQUIRED"
            message := "لا يمكن إيقاف مدير المدرسة الوحيد. " ++
              "أعد تفعيل حسابه أو حدّث بياناته من إدارة المنصة."
            statusCode := 409 })
      else
        let s := s.putMembership { m with status := .suspended }
        pure { s with
          counselorSections := s.counselorSections.filter fun a => a.counselorMembership ≠ m.id
          vicePrincipalScopes := s.vicePrincipalScopes.filter fun a =>
            a.vicePrincipalMembership ≠ m.id }

/-- `StaffActivateView.post` and `reactivate`. -/
def reactivate (membershipId : ℕ) (isPlatformAdmin : Bool) (s : Staff) : Except Failure Staff :=
  match (s.profileOf membershipId).bind fun p => s.membership? p.membership with
  | none => .error (.doesNotExist "StaffProfile")
  | some m =>
    if m.status ≠ .suspended then
      .error (.api { code := "VALIDATION_ERROR", message := "العضوية ليست موقوفة." })
    else do
      let _ ← orFail (managerAccountRequiresPlatform m isPlatformAdmin "إعادة تفعيل")
      pure (s.putMembership { m with status := .active })

end SchoolPlatform
