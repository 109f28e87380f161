import SchoolPlatform.Library.GuardedRuns
import SchoolPlatform.Analysis.MergeSteps

/-!
# The history of a student is a timeline

Enrollments are opened and ended by creation, correction, change of status, import and merge, on
dates of their own. Runs in which an enrollment is ended no earlier than it begins, and opened when
every other enrollment of the student has ended, keep every history a timeline
(`Office.play_timeline`). An exit date may lie before the beginning, and a new academic year does not
end the enrollments of the old one (`exitBeforeEntry_not_timeline`).
-/

namespace SchoolPlatform

variable {rules : TextRules} {o o' : Office}

variable {today : Date}

/-- Ended enrollments end after they begin, those of a student hold on different days, and a day
selects at most one of them. -/
structure School.Timeline (s : School) : Prop where
  ordered : ∀ e ∈ s.registry.enrollments, ∀ d, e.endedAt = some d → e.enrolledAt ≤ d
  disjoint : s.registry.enrollments.Pairwise fun e f =>
    e.student = f.student → Disjoint e.span.points f.span.points
  selected : ∀ student d,
    ((s.enrollmentsOnDate d).filter fun e => e.student = student).length ≤ 1

/-- The office is coherent and its enrollments are timed. -/
structure Office.Orderly (o : Office) : Prop where
  coherent : o.registry.Coherent o.nextId
  timed : o.registry.Timed

theorem Office.Orderly.timeline (h : o.Orderly) : o.school.Timeline := by
  have hpairs : o.registry.enrollments.Pairwise fun e f =>
      e.student = f.student → Disjoint e.span.points f.span.points := by
    have hids : o.registry.enrollments.Pairwise fun e f => e.id ≠ f.id :=
      List.pairwise_map.mp h.coherent.enrollments_nodup
    apply hids.imp_of_mem
    intro e f he hf hne hstudent
    exact h.timed.apart e he f hf hstudent hne
  refine ⟨h.timed.ordered, hpairs, ?_⟩
  intro student d
  have hsub : ((o.school.enrollmentsOnDate d).filter fun e => e.student = student).Sublist
      o.registry.enrollments := List.filter_sublist.trans List.filter_sublist
  have hselected := hpairs.sublist hsub
  have hmem : ∀ g ∈ (o.school.enrollmentsOnDate d).filter fun e => e.student = student,
      g.student = student ∧ d ∈ g.span.points := by
    intro g hg
    rw [List.mem_filter, decide_eq_true_eq] at hg
    unfold School.enrollmentsOnDate at hg
    exact ⟨hg.2, (g.validOn_iff d).mp (List.mem_filter.mp hg.1).2⟩
  generalize ((o.school.enrollmentsOnDate d).filter fun e => e.student = student) = selected
    at hselected hmem
  by_contra hlength
  rcases selected with _ | ⟨e, _ | ⟨f, rest⟩⟩
  · exact hlength (Nat.zero_le 1)
  · exact hlength le_rfl
  · obtain ⟨hstudent, he⟩ := hmem e List.mem_cons_self
    obtain ⟨hstudent', hf⟩ := hmem f (List.mem_cons_of_mem _ List.mem_cons_self)
    have hdisjoint := (List.pairwise_cons.mp hselected).1 f List.mem_cons_self
      (hstudent.trans hstudent'.symm)
    exact Set.disjoint_left.mp hdisjoint he hf

def Office.MayMove (o : Office) (student academicYear sectionId : ℕ) (day : Date) : Prop :=
  (o.registry.currentEnrollment student academicYear).any (fun e => e.sectionId = sectionId) ∨
    o.registry.MayOpen student academicYear day

def Office.applied (rules : TextRules) (o : Office) (job : StudentImportJob) (year : AcademicYear) :
    List NormalizedRow :=
  rowsToApply (o.compared rules job year).1

/-- The dates of a request fit the enrollments that it ends and opens: an enrollment is ended no
earlier than it begins, and one is opened when every other enrollment of the student that is not
ended with it has ended. -/
def Office.Timely (rules : TextRules) (o : Office) : OfficeRequest → Prop
  | .updateStudent today studentId sectionId _ => ∀ id ∈ sectionId, ∀ year ∈ o.activeYear,
      ∀ target ∈ o.openSection? id, o.MayMove studentId year.id target.id today
  | .setStudentStatus _ today studentId newStatus exitDate _ => newStatus ≠ .active →
      ∀ x ∈ o.registry.student? studentId, x.status ≠ newStatus →
        ∀ e ∈ o.registry.history studentId, e.status = .active → e.enrolledAt ≤ exitDate.getD today
  | .commitImport today jobId _ => ∀ job ∈ o.job? jobId, ∀ year ∈ o.year? job.academicYear,
      ∀ row ∈ o.applied rules job year, row.Moves → ∀ student ∈ row.matchedStudentId,
        o.registry.MayOpen student year.id (o.importDay today year)
  | _ => True

instance decidableMayMove (student academicYear sectionId : ℕ) (day : Date) :
    Decidable (o.MayMove student academicYear sectionId day) := by
  unfold Office.MayMove
  infer_instance

instance decidableTimely (request : OfficeRequest) : Decidable (o.Timely rules request) := by
  unfold Office.Timely
  split <;> infer_instance

/-- What the parts of a request owe a property of registries, so that the request keeps it. -/
structure Office.Keeps (rules : TextRules) (P : Registry → Prop) (o : Office)
    (request : OfficeRequest) : Prop where
  people : ∀ r r' : Registry, r.SamePeople r' → P r → P r'
  enroll : ∀ (data : NewStudentData) (academicYear : ℕ) (target : Section) (day : Date),
    P (o.registry.enroll (data.student o.nextId)
      (newEnrollment (o.nextId + 1) day o.nextId academicYear target))
  amend : ∀ x, o.registry.Amends x → P (o.registry.putStudent x)
  seat : ∀ today studentId id data, request = .updateStudent today studentId (some id) data →
    ∀ found ∈ o.registry.student? studentId, ∀ year ∈ o.activeYear, ∀ target ∈ o.openSection? id,
      ∀ x : Student, x.id = found.id → x.status = found.status →
        (o.registry.putStudent x).Coherent o.nextId →
          P ((o.registry.putStudent x).seatIn o.nextId today x.id year.id target)
  status : ∀ now today studentId newStatus exitDate exitReason,
    request = .setStudentStatus now today studentId newStatus exitDate exitReason →
      ∀ found ∈ o.registry.student? studentId, found.status ≠ newStatus →
        ∀ x : Student, x.id = found.id → x.status = newStatus →
          (newStatus = .active → P (o.registry.putStudent x)) ∧
          (newStatus ≠ .active → enrollmentCloseStatus newStatus ≠ .active →
            (o.registry.putStudent x).Coherent o.nextId →
              P ((o.registry.putStudent x).closeEnrollments x.id
                (enrollmentCloseStatus newStatus) (exitDate.getD today)))
  commit : ∀ today jobId allowImporting, request = .commitImport today jobId allowImporting →
    ∀ job ∈ o.job? jobId, ∀ year ∈ o.year? job.academicYear, CommitInvariant P
      o.registry year.id (o.importDay today year) (o.applied rules job year)
  merge : ∀ now today target sources active, o.registry.soleActive? target = some active →
    MergeReady o today target sources active (planActive o.school today active sources) →
      target ∉ sources → P (mergedRegistry o now today target sources)

/-- The registry is coherent, and has the property. -/
def Office.Has (P : Registry → Prop) (o : Office) : Prop :=
  o.registry.Coherent o.nextId ∧ P o.registry

section Keeping

variable {P : Registry → Prop} {request : OfficeRequest}

theorem Registry.Coherent.seatIn {r : Registry} {next : ℕ} (h : r.Coherent next)
    {student academicYear : ℕ} {target : Section} (howner : ∃ x ∈ r.students, x.id = student) :
    (r.seatIn next today student academicYear target).Coherent (next + 1) := by
  unfold Registry.seatIn
  split
  · exact h.mono (Nat.le_succ _)
  · exact h.reseat (fun e he => (Registry.mem_of_currentEnrollment he).1) today le_rfl howner
      ⟨fun _ => rfl, fun _ => rfl⟩ (Nat.lt_succ_self _)

theorem Office.Has.after (h : o.Has P) {result : Except Failure Office}
    (hok : ∀ o', result = .ok o' → o'.Has P) : (o.after result).Has P := by
  cases result with
  | error e => exact h
  | ok o' => exact hok o' rfl

theorem patchStudent_has (h : o.Has P) {studentId : ℕ} {sectionId : Option ℕ}
    {data : StudentData} (hk : o.Keeps rules P (.updateStudent today studentId sectionId data))
    (hok : patchStudent today studentId sectionId data o = .ok o') : o'.Has P := by
  obtain ⟨found, x, hfound, hid, hstatus, hnext, hcases⟩ := patchStudent_eq_ok hok
  obtain ⟨hmem, hfoundId⟩ := h.1.student?_eq_some_iff.mp hfound
  have hcoherent := h.1.putStudent x ⟨found, hmem, hid.symm⟩
  rcases hcases with ⟨-, hregistry⟩ | ⟨id, year, target, rfl, hyear, htarget, hregistry⟩
  · constructor
    · rw [hregistry, hnext]
      exact hcoherent.mono (Nat.le_succ _)
    · rw [hregistry]
      exact hk.amend x ⟨found, hmem, hid.symm, hstatus.symm⟩
  · have howner : ∃ y ∈ (o.registry.putStudent x).students, y.id = x.id :=
      ⟨x, List.mem_map.mpr ⟨found, hmem, if_pos hid.symm⟩, rfl⟩
    constructor
    · rw [hregistry, hnext]
      exact hcoherent.seatIn howner
    · rw [hregistry]
      exact hk.seat today studentId id data rfl found hfound year hyear target htarget x hid
        hstatus hcoherent

theorem statusView_has (h : o.Has P) {now : Instant} {studentId : ℕ} {newStatus : StudentStatus}
    {exitDate : Option Date} {exitReason : String}
    (hk : o.Keeps rules P (.setStudentStatus now today studentId newStatus exitDate exitReason))
    (hok : o.run (statusView now today studentId newStatus exitDate exitReason) = .ok o') :
    o'.Has P := by
  obtain ⟨x, school, hrun, rfl⟩ := Office.run_eq_ok.mp hok
  obtain ⟨found, hfound, hcases⟩ := statusView_run_ok hrun
  obtain ⟨hmem, hfoundId⟩ := h.1.student?_eq_some_iff.mp hfound
  rcases hcases with hsame | ⟨-, hchanged, hid, hstatus, hregistry⟩
  · rw [hsame]
    exact h
  · have hcoherent := h.1.putStudent x ⟨found, hmem, hid.symm⟩
    have hregistry' : Office.registry { o with school := school } = _ := hregistry
    obtain ⟨hreturned, hleft⟩ := hk.status now today studentId newStatus exitDate exitReason rfl
      found hfound hchanged x hid hstatus
    by_cases hactive : newStatus = .active
    · rw [if_pos hactive] at hregistry'
      constructor
      · rw [hregistry']
        exact hcoherent
      · rw [hregistry']
        exact hreturned hactive
    · rw [if_neg hactive] at hregistry'
      have hclose : enrollmentCloseStatus newStatus ≠ .active := by
        cases newStatus <;> first | exact absurd rfl hactive | decide
      constructor
      · rw [hregistry']
        exact hcoherent.closeEnrollments x.id hclose _
      · rw [hregistry']
        exact hleft hactive hclose hcoherent

theorem commitImport_has (h : o.Has P) {jobId : ℕ} {allowImporting : Bool}
    (hk : o.Keeps rules P (.commitImport today jobId allowImporting)) :
    (commitImport rules today jobId allowImporting o).2.Has P := by
  unfold commitImport
  split
  · exact h
  next o₁ e hlocked =>
    have hspares := commitLocked_deferred_spares hlocked
    exact ⟨(h.1.of_samePeople hspares.people).mono hspares.nextId_le,
      hk.people _ _ hspares.people h.2⟩
  next o₁ hlocked =>
    obtain ⟨job, year, applied, hdone⟩ := commitLocked_completed.mp hlocked
    have hstart : (o.putJob job.underWay).registry.Coherent (o.putJob job.underWay).nextId := h.1
    have hrows := applyRows_induction hstart
      (hk.commit today jobId allowImporting rfl job hdone.found year hdone.yearFound) h.2 hdone.rows
    rw [hdone.result]
    exact ⟨hrows.1, hrows.2⟩

/-- **A request keeps the property** to whose parts it owes nothing. -/
theorem Office.Has.handle (h : o.Has P) (hk : o.Keeps rules P request) :
    (o.handle rules request).Has P := by
  have hspared : ∀ o', o.Spares o' → o'.Has P := fun o' hspares =>
    ⟨(h.1.of_samePeople hspares.people).mono hspares.nextId_le, hk.people _ _ hspares.people h.2⟩
  cases request with
  | createStudent today sectionId data =>
    apply h.after
    intro o' hok
    obtain ⟨year, target, -, -, hregistry, hnext⟩ := createStudent_eq_ok hok
    constructor
    · rw [hregistry, hnext]
      exact h.1.enroll le_rfl (Nat.lt_succ_self _) rfl ⟨fun _ => rfl, fun _ => rfl⟩
        (Nat.lt_succ_self _)
    · rw [hregistry]
      exact hk.enroll data year.id target today
  | updateStudent today studentId sectionId data =>
    exact h.after fun o' hok => patchStudent_has h hk hok
  | setStudentStatus now today studentId newStatus exitDate exitReason =>
    exact h.after fun o' hok => statusView_has h hk hok
  | uploadImport yearId => exact h.after fun o' hok => hspared o' (uploadImport_spares hok)
  | startProcessing jobId => exact h.after fun o' hok => hspared o' (startProcessing_spares hok)
  | processImportJob jobId rows => exact hspared _ (processImportJob_spares jobId rows)
  | approveImport jobId => exact h.after fun o' hok => hspared o' (approveImport_spares hok)
  | cancelImport jobId => exact h.after fun o' hok => hspared o' (cancelImport_spares hok)
  | failImport jobId errorCode => exact hspared _ (failImport_spares jobId errorCode)
  | commitImport today jobId allowImporting => exact commitImport_has h hk
  | activateYear yearId => exact h.after fun o' hok => hspared o' (activateYear_spares hok)
  | applyManualMerge now today token =>
    apply h.after
    intro o' hok
    obtain ⟨target, sources, active, -, htarget, hexists, hactive, hready, hregistry, hnext⟩ :=
      applyManualMerge_eq_ok hok
    constructor
    · rw [hregistry, hnext]
      exact mergedRegistry_coherent h.1 hactive hready hexists
    · rw [hregistry]
      exact hk.merge now today target sources active hactive hready htarget

end Keeping

theorem Registry.Timed.seatIn_of_mayMove (h : o.registry.Timed) {x : Student} {academicYear : ℕ}
    {target : Section} (hcoherent : (o.registry.putStudent x).Coherent o.nextId)
    (hmoves : o.MayMove x.id academicYear target.id today) :
    ((o.registry.putStudent x).seatIn o.nextId today x.id academicYear target).Timed := by
  have htimed : (o.registry.putStudent x).Timed := ⟨h.ordered, h.apart⟩
  apply htimed.seatIn hcoherent
  intro hother
  rcases hmoves with hstays | hopen
  · exfalso
    have hsame : (o.registry.putStudent x).currentEnrollment x.id academicYear =
        o.registry.currentEnrollment x.id academicYear := rfl
    rw [hsame] at hother
    cases hcurrent : o.registry.currentEnrollment x.id academicYear with
    | none => simp [hcurrent] at hstays
    | some e => simp_all
  · exact hopen

theorem commitInvariant_timed {start : Registry} {academicYear : ℕ} {day : Date}
    {rows : List NormalizedRow} (hopen : ∀ row ∈ rows, row.Moves →
      ∀ student ∈ row.matchedStudentId, start.MayOpen student academicYear day) :
    CommitInvariant Registry.Timed start academicYear day rows where
  people := fun r r' hsame h => h.of_samePeople hsame
  enroll := fun r next data target hkeys h => h.enroll hkeys data academicYear target day
  amend := fun r next x _ _ h => ⟨h.ordered, h.apart⟩
  reseat := by
    intro r next student target hkeys hrow heq _ h
    obtain ⟨row, hmem, hmoves, hmatched⟩ := hrow
    have hmay : r.MayOpen student academicYear day := by
      unfold Registry.MayOpen
      rw [heq]
      exact hopen row hmem hmoves student hmatched
    have hcurrent : start.currentEnrollment student academicYear =
        r.currentEnrollment student academicYear := by
      rw [Registry.currentEnrollment_eq_find_history, Registry.currentEnrollment_eq_find_history,
        heq]
    rw [hcurrent]
    exact h.reseat hkeys hmay next target

theorem Office.Orderly.keeps (h : o.Orderly) {request : OfficeRequest}
    (htimely : o.Timely rules request) : o.Keeps rules Registry.Timed request where
  people := fun r r' hsame ht => ht.of_samePeople hsame
  enroll := fun data year target day => h.timed.enroll h.coherent data year target day
  amend := fun x _ => ⟨h.timed.ordered, h.timed.apart⟩
  seat := by
    rintro today studentId id data rfl found hfound year hyear target htarget x hid - hcoherent
    obtain ⟨-, hfoundId⟩ := h.coherent.student?_eq_some_iff.mp hfound
    apply h.timed.seatIn_of_mayMove hcoherent
    rw [hid, hfoundId]
    exact htimely id rfl year hyear target htarget
  status := by
    rintro now today studentId newStatus exitDate exitReason rfl found hfound hchanged x hid -
    have htimed : (o.registry.putStudent x).Timed := ⟨h.timed.ordered, h.timed.apart⟩
    obtain ⟨-, hfoundId⟩ := h.coherent.student?_eq_some_iff.mp hfound
    refine ⟨fun _ => htimed, fun hleaves _ hcoherent => ?_⟩
    apply htimed.closeEnrollments hcoherent
    intro e he hstudent hlive
    rw [hid, hfoundId] at hstudent
    exact htimely hleaves found hfound hchanged e (Registry.mem_history.mpr ⟨he, hstudent⟩) hlive
  commit := by
    rintro today jobId allowImporting rfl job hjob year hyear
    exact commitInvariant_timed fun row hrow hmoves student hstudent =>
      htimely job hjob year hyear row hrow hmoves student hstudent
  merge := fun now today target sources active hactive hready _ =>
    mergedRegistry_timed h.coherent h.timed hactive hready

theorem Office.Orderly.handle (h : o.Orderly) {request : OfficeRequest}
    (htimely : o.Timely rules request) : (o.handle rules request).Orderly := by
  have hhas : o.Has Registry.Timed := ⟨h.coherent, h.timed⟩
  obtain ⟨hcoherent, htimed⟩ := hhas.handle (h.keeps htimely)
  exact ⟨hcoherent, htimed⟩

def Office.NoStudents (o : Office) : Prop :=
  o.registry.students = [] ∧ o.registry.enrollments = []

instance decidableNoStudents (o : Office) : Decidable o.NoStudents := by
  unfold Office.NoStudents
  infer_instance

theorem Office.NoStudents.orderly (h : o.NoStudents) : o.Orderly where
  coherent := .of_empty h.1 h.2
  timed := .of_empty h.2

/-- **The history of a student is a timeline** in every state of a run from a school without
students, as long as the dates of every request fit the enrollments that it ends and opens. -/
theorem Office.play_timeline (rules : TextRules) (o : Office) (ho : o.NoStudents)
    (requests : List OfficeRequest)
    (htimely : Runs.Guarded (Office.handle rules) (Office.Timely rules) o requests) :
    ∀ l, l <+: requests → (o.play rules l).school.Timeline := by
  intro l hl
  have hstep : ∀ s request, Office.Orderly s → Office.Timely rules s request →
      (s.handle rules request).Orderly := fun s request hs hrequest => hs.handle hrequest
  have hrun := Runs.Guarded.invariant hstep ho.orderly htimely l hl
  exact hrun.timeline

def plainTexts : TextRules where
  nameKey := fun t => t
  normalizedContact := fun t => t

def twoYearOffice : Office where
  school :=
    { registry :=
        { academicYears := [⟨1, 1, 300, .active, none⟩, ⟨2, 301, 600, .upcoming, none⟩]
          grades := [⟨1, "first", "1", 1, true⟩]
          sections := [⟨2, 1, "a", "1", "", true⟩, ⟨3, 1, "b", "2", "", true⟩] } }
  nextId := 10

def firstStudent : NewStudentData where
  nationalIdLookupHash := "hash"
  nationalIdMasked := "******0001"
  fullName := "first student"

/-- A row of a file that places the student in the second section. -/
def placingRow (number : ℕ) (hash : String) (sectionCode : String) : NormalizedRow where
  fullName := "first student"
  gradeCode := "1"
  gradeName := "first"
  gradeSequence := 1
  sectionCode := sectionCode
  sectionName := sectionCode
  department := ""
  studentNumber := none
  guardianName := ""
  guardianMobile := ""
  nationalIdMasked := "******0001"
  rowNumber := number
  nationalIdHash := hash
  errors := []

def enrolledMovedWithdrawn : List OfficeRequest :=
  [ .createStudent 10 2 firstStudent,
    .uploadImport none,
    .startProcessing 12,
    .processImportJob 12 [placingRow 2 "hash" "2"],
    .approveImport 12,
    .commitImport 20 12 true,
    .setStudentStatus 0 40 10 .withdrawn (some 30) "" ]

theorem Office.play_timeline_enrolledMovedWithdrawn :
    (twoYearOffice.play plainTexts enrolledMovedWithdrawn).school.Timeline :=
  Office.play_timeline plainTexts twoYearOffice (by decide) enrolledMovedWithdrawn
    (by decide +kernel) enrolledMovedWithdrawn (List.prefix_refl _)

def exitBeforeEntry : List OfficeRequest :=
  [ .createStudent 10 2 firstStudent,
    .setStudentStatus 0 10 10 .withdrawn (some 5) "" ]

def placedInTwoYears : List OfficeRequest :=
  [ .createStudent 10 2 firstStudent,
    .activateYear 2,
    .updateStudent 310 10 (some 2) {} ]

theorem exitBeforeEntry_not_timeline :
    ¬ (twoYearOffice.play plainTexts exitBeforeEntry).school.Timeline ∧
      ¬ (twoYearOffice.play plainTexts placedInTwoYears).school.Timeline := by
  constructor
  · intro h
    have hend : ⟨11, 10, 1, 1, 2, .withdrawn, 10, some 5⟩ ∈
        (twoYearOffice.play plainTexts exitBeforeEntry).school.registry.enrollments := by
      decide +kernel
    have hle := h.ordered _ hend 5 rfl
    exact absurd hle (by decide)
  · intro h
    have hone := h.selected 10 310
    exact absurd hone (by decide +kernel)

end SchoolPlatform
