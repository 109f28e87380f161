import SchoolPlatform.Model.StaffImport
import SchoolPlatform.Model.Service
import SchoolPlatform.Model.ManualMerge

/-!
# Requests to the student office

The calls that write students and enrollments, each run on its own. A call that raises leaves the
office as it was, apart from a commit, whose failure branches have been saved. `Office.play` runs a
list of them.
-/

namespace SchoolPlatform

inductive OfficeRequest
  | createStudent (today : Date) (sectionId : ℕ) (data : NewStudentData)
  | updateStudent (today : Date) (studentId : ℕ) (sectionId : Option ℕ) (data : StudentData)
  | setStudentStatus (now : Instant) (today : Date) (studentId : ℕ) (newStatus : StudentStatus)
      (exitDate : Option Date) (exitReason : String)
  | uploadImport (yearId : Option ℕ)
  | startProcessing (jobId : ℕ)
  | processImportJob (jobId : ℕ) (rows : List NormalizedRow)
  | approveImport (jobId : ℕ)
  | cancelImport (jobId : ℕ)
  | failImport (jobId : ℕ) (errorCode : String)
  | commitImport (today : Date) (jobId : ℕ) (allowImporting : Bool)
  | activateYear (yearId : ℕ)
  | applyManualMerge (now : Instant) (today : Date) (token : MergeToken)
  deriving DecidableEq

/-- The office after a call that leaves it alone when it raises. -/
def Office.after (o : Office) : Except Failure Office → Office
  | .ok o' => o'
  | .error _ => o

def Office.handle (rules : TextRules) (o : Office) : OfficeRequest → Office
  | .createStudent today sectionId data => o.after (createStudent today sectionId data o)
  | .updateStudent today studentId sectionId data =>
    o.after (patchStudent today studentId sectionId data o)
  | .setStudentStatus now today studentId newStatus exitDate exitReason =>
    o.after (o.run (statusView now today studentId newStatus exitDate exitReason))
  | .uploadImport yearId => o.after (uploadImport yearId o)
  | .startProcessing jobId => o.after (startProcessing jobId o)
  | .processImportJob jobId rows => processImportJob rules jobId rows o
  | .approveImport jobId => o.after (approveImport jobId o)
  | .cancelImport jobId => o.after (cancelImport jobId o)
  | .failImport jobId errorCode => failImport jobId errorCode o
  | .commitImport today jobId allowImporting =>
    (commitImport rules today jobId allowImporting o).2
  | .activateYear yearId => o.after (activateYear yearId o)
  | .applyManualMerge now today token => o.after (applyManualMerge now today token o)

def Office.play (rules : TextRules) (o : Office) (requests : List OfficeRequest) : Office :=
  requests.foldl (Office.handle rules) o

/-!
## Requests to a school

A campus is the student office and the staff of one school. Its requests are those of the office
and those that write memberships; a call that raises leaves the campus as it was.
-/

structure Campus where
  office : Office := {}
  staff : Staff := {}
  deriving DecidableEq

inductive CampusRequest
  | office (request : OfficeRequest)
  | createStaff (data : NewStaffData)
  | suspend (membershipId : ℕ) (isPlatformAdmin : Bool)
  | reactivate (membershipId : ℕ) (isPlatformAdmin : Bool)
  | uploadStaffImport
  | startStaffProcessing (jobId : ℕ)
  | processStaffImportJob (jobId : ℕ) (rows : List StaffRow)
  | cancelStaffImport (jobId : ℕ)
  | commitStaffImport (jobId : ℕ)
  deriving DecidableEq

/-- The staff after a call that leaves it alone when it raises. -/
def Staff.after (s : Staff) : Except Failure Staff → Staff
  | .ok s' => s'
  | .error _ => s

def Campus.handle (rules : TextRules) (c : Campus) : CampusRequest → Campus
  | .office request => { c with office := c.office.handle rules request }
  | .createStaff data =>
    { c with staff := c.staff.after (createStaff c.office.registry data c.staff) }
  | .suspend membershipId isPlatformAdmin =>
    { c with staff := c.staff.after (suspend membershipId isPlatformAdmin c.staff) }
  | .reactivate membershipId isPlatformAdmin =>
    { c with staff := c.staff.after (reactivate membershipId isPlatformAdmin c.staff) }
  | .uploadStaffImport => { c with staff := uploadStaffImport c.staff }
  | .startStaffProcessing jobId =>
    { c with staff := c.staff.after (startStaffProcessing jobId c.staff) }
  | .processStaffImportJob jobId rows =>
    { c with staff := processStaffImportJob jobId rows c.staff }
  | .cancelStaffImport jobId => { c with staff := c.staff.after (cancelStaffImport jobId c.staff) }
  | .commitStaffImport jobId => { c with staff := commitStaffImport jobId c.staff }

def Campus.play (rules : TextRules) (c : Campus) (requests : List CampusRequest) : Campus :=
  requests.foldl (Campus.handle rules) c

end SchoolPlatform
