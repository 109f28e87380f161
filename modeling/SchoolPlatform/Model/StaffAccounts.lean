import SchoolPlatform.Model.StaffOffice
import SchoolPlatform.Library.Checks

/-!
# Roles and accounts of the staff

The manager of a school, or the platform, gives a member roles and takes them away, suspends a
member, reactivates or deletes one. A call first loads the member with its roles and then works in a
transaction of its own on what it has loaded; statements of the transaction see what others have
done in between.
-/

namespace SchoolPlatform.Roles

open ReadCommitted

/-- What is locked: rows, and the entries of `uniq_membership_role`. -/
inductive StaffLock
  | membership (id : ℕ)
  | role (membership : ℕ) (role : SchoolRole)
  | profile (membership : ℕ)
  | counselorSection (id : ℕ)
  | vicePrincipalScope (target : ScopeTarget)
  deriving DecidableEq

abbrev StaffTransaction (α : Type) := Tx Staff StaffLock Failure α

abbrev StaffProgram (α : Type) := Program Staff StaffLock Failure α

structure Actor where
  id : ℕ
  isPlatformAdmin : Bool
  deriving DecidableEq

/-- `UPDATE` of the status of a membership, and of nothing else. -/
def withStatus (s : Staff) (id : ℕ) (status : MembershipStatus) : Staff :=
  { s with memberships := s.memberships.map fun m =>
      if m.id = id then { m with status := status } else m }

def withRoles (s : Staff) (id : ℕ) (f : List SchoolRole → List SchoolRole) : Staff :=
  { s with memberships := s.memberships.map fun m =>
      if m.id = id then { m with roles := f m.roles } else m }

def withoutCounselorSections (s : Staff) (id : ℕ) : Staff :=
  { s with counselorSections := s.counselorSections.filter fun a => a.counselorMembership ≠ id }

def withoutVicePrincipalScopes (s : Staff) (id : ℕ) : Staff :=
  { s with vicePrincipalScopes :=
      s.vicePrincipalScopes.filter fun a => a.vicePrincipalMembership ≠ id }

def memberOf (s : Staff) (id : ℕ) : Option SchoolMembership :=
  (s.profileOf id).bind fun p => s.membership? p.membership

def rolesOf (s : Staff) (id : ℕ) : List SchoolRole :=
  ((s.membership? id).map fun m => m.roles).getD []

def saveStatus (id : ℕ) (status : MembershipStatus) : StaffTransaction Unit := do
  Tx.lockRows .noKeyUpdate [.membership id]
  Tx.update fun s => withStatus s id status

def clearCounselorSections (id : ℕ) : StaffTransaction Unit :=
  Tx.updateWhere
    (fun s => (s.counselorSections.filter fun a => a.counselorMembership = id).map fun a =>
      StaffLock.counselorSection a.sectionId)
    fun _ s => withoutCounselorSections s id

def clearVicePrincipalScopes (id : ℕ) : StaffTransaction Unit :=
  Tx.updateWhere
    (fun s => (s.vicePrincipalScopes.filter fun a => a.vicePrincipalMembership = id).map fun a =>
      StaffLock.vicePrincipalScope a.target)
    fun _ s => withoutVicePrincipalScopes s id

/-- `_manager_account_requires_platform`, on the roles that were loaded. -/
def requirePlatformForManager (m : SchoolMembership) (actor : Actor) (action : String) :
    StaffTransaction Unit :=
  match managerAccountRequiresPlatform m actor.isPlatformAdmin action with
  | .ok () => .ret ()
  | .error e => .raise (.api e)

/-- Another active member is a manager of the school. -/
def hasOtherManager (s : Staff) (id : ℕ) : Bool :=
  s.memberships.any fun other =>
    other.status = .active && other.roles.contains .schoolManager && other.id ≠ id

/-- `_is_last_active_manager`: the role and the status are those that were loaded. -/
def isLastActiveManager (m : SchoolMembership) : StaffTransaction Bool :=
  if .schoolManager ∉ m.roles ∨ m.status ≠ .active then .ret false
  else do
    let others ← Tx.select fun s => hasOtherManager s m.id
    pure (!others)

def validationError (message : String) : Failure :=
  .api { code := "VALIDATION_ERROR", message := message }

def conflictError (code message : String) : Failure :=
  .api { code := code, message := message, statusCode := 409 }

/-- `SchoolMembershipRole.objects.get_or_create`: whether the role is new. -/
def getOrCreateRole (id : ℕ) (role : SchoolRole) : StaffTransaction Bool := do
  let assigned ← Tx.select fun s => (rolesOf s id).contains role
  if assigned then pure false
  else do
    Tx.lockRows .keyShare [.membership id]
    Tx.lockRows .update [.role id role]
    let taken ← Tx.select fun s => (rolesOf s id).contains role
    if taken then pure false
    else do
      Tx.update fun s => withRoles s id fun roles => roles ++ [role]
      pure true

/-- `add_role`; a text that names no role is `none`. -/
def addRole (m : SchoolMembership) (role : Option SchoolRole) (actor : Actor) :
    StaffTransaction Unit := do
  let role ← Tx.need role (validationError "الدور المحدد غير معروف.")
  Tx.require (role ≠ .schoolManager) (.api
    { code := "SCHOOL_MANAGER_ASSIGNMENT_PLATFORM_ONLY"
      message := "لا يمكن تعيين مدير آخر من إدارة موظفي المدرسة. " ++
        "للمدرسة مدير واحد تتم إدارة حسابه من إدارة المنصة."
      statusCode := 403 })
  requirePlatformForManager m actor "تعديل أدوار"
  let created ← getOrCreateRole m.id role
  Tx.require created (conflictError "ROLE_ALREADY_ASSIGNED" "هذا الدور مسند للموظف بالفعل.")

def roleNotAssigned : Failure :=
  conflictError "ROLE_NOT_ASSIGNED" "هذا الدور غير مسند للموظف."

/-- `remove_role`: the roles are counted as they were loaded. -/
def removeRole (m : SchoolMembership) (role : Option SchoolRole) (actor : Actor) :
    StaffTransaction Unit := do
  let role ← Tx.need role roleNotAssigned
  let assigned ← Tx.select fun s => (rolesOf s m.id).contains role
  Tx.require assigned roleNotAssigned
  requirePlatformForManager m actor "تعديل أدوار"
  Tx.require (m.roles.length ≠ 1) (conflictError "LAST_ROLE_SUSPEND_INSTEAD"
    "هذا هو الدور الوحيد للموظف — أوقف عضويته بدلًا من إزالة آخر دور.")
  Tx.lockRows .update [.role m.id role]
  Tx.update fun s => withRoles s m.id fun roles => roles.filter fun r => r ≠ role
  let () ← (if role = .counselor then clearCounselorSections m.id else pure ())
  (if role = .vicePrincipal then clearVicePrincipalScopes m.id else pure ())

def suspend (m : SchoolMembership) (actor : Actor) : StaffTransaction Unit := do
  Tx.require (m.status = .active) (validationError "العضوية ليست فعالة.")
  requirePlatformForManager m actor "إيقاف"
  let last ← isLastActiveManager m
  Tx.require (!last) (conflictError "LAST_SCHOOL_MANAGER_REQUIRED"
    ("لا يمكن إيقاف مدير المدرسة الوحيد. " ++
      "أعد تفعيل حسابه أو حدّث بياناته من إدارة المنصة."))
  saveStatus m.id .suspended
  clearCounselorSections m.id
  clearVicePrincipalScopes m.id

def reactivate (m : SchoolMembership) (actor : Actor) : StaffTransaction Unit := do
  Tx.require (m.status = .suspended) (validationError "العضوية ليست موقوفة.")
  requirePlatformForManager m actor "إعادة تفعيل"
  saveStatus m.id .active

def deleteStaff (m : SchoolMembership) (actor : Actor) : StaffTransaction Unit := do
  Tx.require (m.user ≠ actor.id) (conflictError "SELF_STAFF_DELETE_NOT_ALLOWED"
    "لا يمكنك حذف حسابك الحالي. اطلب من مدير آخر تنفيذ الإجراء.")
  requirePlatformForManager m actor "حذف"
  let last ← isLastActiveManager m
  Tx.require (!last) (conflictError "LAST_SCHOOL_MANAGER_REQUIRED"
    "لا يمكن حذف مدير المدرسة الوحيد. حدّث بيانات حسابه من إدارة المنصة.")
  clearCounselorSections m.id
  clearVicePrincipalScopes m.id
  Tx.lockRows .update [.profile m.id]
  Tx.update fun s => { s with profiles := s.profiles.filter fun p => p.membership ≠ m.id }
  Tx.updateWhere (fun s => (rolesOf s m.id).map fun role => StaffLock.role m.id role)
    fun _ s => withRoles s m.id fun _ => []
  saveStatus m.id .left

def prefetchRoles (m : SchoolMembership) : StaffProgram SchoolMembership := do
  let roles ← Program.read fun s => rolesOf s m.id
  pure { m with roles := roles }

/-- `StaffDetailView.get_object`: a member with a profile. -/
def loadStaff (id : ℕ) : StaffProgram SchoolMembership := do
  let found ← Program.read fun s => memberOf s id
  let m ← Program.need found (.doesNotExist "StaffProfile")
  prefetchRoles m

/-- `get_manager`; the label is what a manager is called in schools of the type. -/
def loadManager (id : ℕ) (label : String) : StaffProgram SchoolMembership := do
  let found ← Program.read fun s =>
    (s.membership? id).filter fun m => m.roles.contains .schoolManager
  let m ← Program.need found (.api
    { code := "NOT_FOUND", message := s!"حساب {label} غير موجود.", statusCode := 404 })
  prefetchRoles m

inductive StaffCall
  | addRole (id : ℕ) (role : Option SchoolRole)
  | removeRole (id : ℕ) (role : Option SchoolRole)
  | suspend (id : ℕ)
  | reactivate (id : ℕ)
  | delete (id : ℕ)
  | suspendManager (id : ℕ) (label : String)
  | reactivateManager (id : ℕ) (label : String)
  deriving DecidableEq

def StaffCall.target : StaffCall → ℕ
  | .addRole id _ | .removeRole id _ | .suspend id | .reactivate id | .delete id
  | .suspendManager id _ | .reactivateManager id _ => id

/-- The calls of the school come through the views of its staff, those of the platform through the
view of its managers. -/
def StaffCall.load : StaffCall → StaffProgram SchoolMembership
  | .suspendManager id label | .reactivateManager id label => loadManager id label
  | call => loadStaff call.target

def StaffCall.body (m : SchoolMembership) (actor : Actor) : StaffCall → StaffTransaction Unit
  | .addRole _ role => Roles.addRole m role actor
  | .removeRole _ role => Roles.removeRole m role actor
  | .suspend _ | .suspendManager _ _ => Roles.suspend m actor
  | .reactivate _ | .reactivateManager _ _ => Roles.reactivate m actor
  | .delete _ => deleteStaff m actor

def StaffCall.program (actor : Actor) (call : StaffCall) : StaffProgram Unit := do
  let m ← call.load
  Program.transaction (call.body m actor)

/-- A call that may change who is responsible for what. -/
inductive ScopeCall
  | counselorSections (id : ℕ) (sectionIds : List ℕ) (confirmReassignment : Bool)
  | vicePrincipalScopes (id : ℕ) (gradeIds sectionIds : List ℕ) (confirmReassignment : Bool)
  | staff (actor : Actor) (call : StaffCall)
  deriving DecidableEq

/-- `StaffCounselorSectionsView.patch`, `StaffVicePrincipalScopesView.patch` and the calls of
`StaffCall`: what is left of a call that fails is the store before it. -/
def ScopeCall.step (r : Registry) (s : Staff) : ScopeCall → Staff
  | .counselorSections id sectionIds confirm =>
    ((memberOf s id).bind fun m =>
      (setCounselorSections r m sectionIds confirm s).toOption).getD s
  | .vicePrincipalScopes id gradeIds sectionIds confirm =>
    ((memberOf s id).bind fun m =>
      (setVicePrincipalScopes r m gradeIds sectionIds confirm s).toOption).getD s
  | .staff actor call => ((call.program actor).run s).2

end SchoolPlatform.Roles
