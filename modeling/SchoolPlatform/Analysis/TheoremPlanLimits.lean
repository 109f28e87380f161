import SchoolPlatform.Analysis.ActiveStaff
import SchoolPlatform.Analysis.TheoremTimeline

/-!
# The limits of the plan

Whatever creates a student or a membership asks whether the plan has room. What sets a student
active again or reactivates a membership does not ask, and in a run the limits are kept as long as
there is room at these requests (`Campus.play_withinPlan`).
-/

/-! ## How many students are active -/

namespace SchoolPlatform

open ReadCommitted

variable {r r' : Registry} {next : ℕ} {o o' : Office} {rules : TextRules}

/-- Students have distinct ids below the next one. -/
structure Registry.Numbered (r : Registry) (next : ℕ) : Prop where
  nodup : (r.students.map fun x => x.id).Nodup
  lt : ∀ x ∈ r.students, x.id < next

theorem Registry.Numbered.of_students (h : r.Numbered next) (hsame : r'.students = r.students)
    {later : ℕ} (hle : next ≤ later) : r'.Numbered later where
  nodup := by rw [hsame]; exact h.nodup
  lt := by
    rw [hsame]
    exact fun x hx => (h.lt x hx).trans_le hle

theorem Registry.Numbered.append (h : r.Numbered next) {x : Student} (hx : x.id = next)
    {later : ℕ} (hlater : next < later) (hsame : r'.students = r.students ++ [x]) :
    r'.Numbered later where
  nodup := by
    rw [hsame]
    exact Registry.Coherent.nodup_append h.nodup fun y hy => (h.lt y hy).trans_eq hx.symm
  lt := by
    rw [hsame]
    intro y hy
    rcases List.mem_append.mp hy with hy | hy
    · exact (h.lt y hy).trans hlater
    · rw [List.mem_singleton.mp hy, hx]
      exact hlater

theorem Registry.Numbered.putStudent (h : r.Numbered next) {x y : Student} (hy : y ∈ r.students)
    (hid : y.id = x.id) : (r.putStudent x).Numbered next where
  nodup := by
    have hkeys := Table.map_put (fun z : Student => z.id) x r.students
    exact hkeys ▸ h.nodup
  lt := by
    intro z hz
    rcases (Table.mem_put_iff (fun w : Student => w.id) x z ⟨y, hy, hid⟩).mp hz with rfl | ⟨hz, -⟩
    · rw [← hid]
      exact h.lt y hy
    · exact h.lt z hz

theorem Registry.mem_of_student? {id : ℕ} {x : Student} (h : r.student? id = some x) :
    x ∈ r.students ∧ x.id = id := by
  have hid := List.find?_some h
  rw [decide_eq_true_eq] at hid
  exact ⟨List.mem_of_find?_eq_some h, hid⟩

def Registry.activeCount (r : Registry) : ℕ := r.students.countP fun x => x.status = .active

theorem Office.countActiveStudents_eq (o : Office) :
    o.countActiveStudents = o.registry.activeCount := rfl

theorem Registry.Numbered.activeCount_putStudent (h : r.Numbered next) {x y : Student}
    (hy : y ∈ r.students) (hid : y.id = x.id) :
    (r.putStudent x).activeCount + (if y.status = .active then 1 else 0) =
      r.activeCount + (if x.status = .active then 1 else 0) := by
  have hcount := Table.countP_put h.nodup hy hid fun z => decide (z.status = .active)
  simp only [decide_eq_true_eq] at hcount
  exact hcount

/-- The office has at most so many more active students, and the same plan. -/
structure Office.Gains (o o' : Office) (n : ℕ) : Prop where
  numbered : o'.registry.Numbered o'.nextId
  count : o'.registry.activeCount ≤ o.registry.activeCount + n
  plan : o'.maxStudents = o.maxStudents

theorem Office.Gains.trans {o₁ o₂ o₃ : Office} {m n : ℕ} (h : o₁.Gains o₂ m)
    (h' : o₂.Gains o₃ n) : o₁.Gains o₃ (m + n) where
  numbered := h'.numbered
  count := by
    have hfirst := h.count
    have hsecond := h'.count
    omega
  plan := h'.plan.trans h.plan

theorem Office.Gains.refl (h : o.registry.Numbered o.nextId) : o.Gains o 0 :=
  ⟨h, le_rfl, rfl⟩

theorem Office.Gains.of_students (h : o.registry.Numbered o.nextId)
    (hsame : o'.registry.students = o.registry.students) (hnext : o.nextId ≤ o'.nextId)
    (hplan : o'.maxStudents = o.maxStudents) : o.Gains o' 0 where
  numbered := h.of_students hsame hnext
  count := by
    unfold Registry.activeCount
    rw [hsame]
    exact le_rfl
  plan := hplan

theorem Office.Gains.of_spares (h : o.registry.Numbered o.nextId) (hspares : o.Spares o') :
    o.Gains o' 0 :=
  .of_students h hspares.people.students hspares.nextId_le hspares.plan

theorem Office.Gains.of_putStudent (h : o.registry.Numbered o.nextId) {x y : Student}
    (hy : y ∈ o.registry.students) (hid : y.id = x.id)
    (hstatus : x.status = .active → y.status = .active)
    (hsame : o'.registry.students = (o.registry.putStudent x).students)
    (hnext : o.nextId ≤ o'.nextId) (hplan : o'.maxStudents = o.maxStudents) : o.Gains o' 0 where
  numbered := (h.putStudent hy hid).of_students hsame hnext
  count := by
    have hcount := h.activeCount_putStudent hy hid
    have heq : o'.registry.activeCount = (o.registry.putStudent x).activeCount := by
      unfold Registry.activeCount
      rw [hsame]
    rw [heq]
    by_cases hactive : x.status = .active
    · rw [if_pos hactive, if_pos (hstatus hactive)] at hcount
      omega
    · rw [if_neg hactive] at hcount
      omega
  plan := hplan

theorem Office.Gains.enrollNew (h : o.registry.Numbered o.nextId) {data : NewStudentData}
    {academicYear : ℕ} {target : Section} {day : Date}
    (hok : o.enrollNew data academicYear target day = .ok o') : o.Gains o' 1 := by
  obtain ⟨-, -, -, -, rfl⟩ := Office.enrollNew_eq_ok.mp hok
  have hstudents : (o.registry.enroll (data.student o.nextId)
      (newEnrollment (o.nextId + 1) day o.nextId academicYear target)).students =
        o.registry.students ++ [data.student o.nextId] := rfl
  have hlater : o.nextId < o.nextId + 2 := by omega
  refine ⟨h.append rfl hlater hstudents, ?_, rfl⟩
  change List.countP _ (o.registry.students ++ [data.student o.nextId]) ≤ _
  rw [List.countP_append]
  exact Nat.add_le_add_left (List.countP_le_length) _

theorem createStudent_gains (h : o.registry.Numbered o.nextId) {today : Date} {sectionId : ℕ}
    {data : NewStudentData} (hok : createStudent today sectionId data o = .ok o') :
    o.requireCapacity 1 = .ok () ∧ o.Gains o' 1 := by
  unfold createStudent at hok
  split at hok
  · cases hok
  · split at hok
    · cases hok
    · split at hok
      · cases hok
      next hroom =>
        rw [Fallible.ite_error_eq_ok, Fallible.ite_error_eq_ok] at hok
        exact ⟨hroom, .enrollNew h hok.2.2⟩

theorem patchStudent_gains (h : o.registry.Numbered o.nextId) {today : Date} {studentId : ℕ}
    {sectionId : Option ℕ} {data : StudentData}
    (hok : patchStudent today studentId sectionId data o = .ok o') : o.Gains o' 0 := by
  have hplan : o'.maxStudents = o.maxStudents := by
    unfold patchStudent at hok
    split at hok
    · obtain ⟨x, school, -, rfl⟩ := Office.run_eq_ok.mp hok
      rfl
    · split at hok
      · cases hok
      · split at hok
        · cases hok
        · obtain ⟨x, school, -, rfl⟩ := Office.run_eq_ok.mp hok
          rfl
  obtain ⟨found, x, hfound, hid, hstatus, hnext, hcases⟩ := patchStudent_eq_ok hok
  obtain ⟨hmem, -⟩ := Registry.mem_of_student? hfound
  apply Office.Gains.of_putStudent h hmem hid.symm
  · exact fun hactive => hstatus ▸ hactive
  · rcases hcases with ⟨-, hregistry⟩ | ⟨id, year, target, -, -, -, hregistry⟩
    · rw [hregistry]
    · rw [hregistry]
      unfold Registry.seatIn
      split
      · rfl
      · exact Registry.reseat_students _ _ _ _
  · omega
  · exact hplan

theorem statusView_run_unmerged {now : Instant} {today : Date} {studentId : ℕ}
    {newStatus : StudentStatus} {exitDate : Option Date} {exitReason : String} {s s' : School}
    {x found : Student}
    (h : (statusView now today studentId newStatus exitDate exitReason).run s = (.ok x, s'))
    (hfound : s.student? studentId = some found) : found.mergedInto = none := by
  unfold statusView at h
  simp only [Program.bind_eq, ask, Statements.ask, Program.read, Program.bind, Program.run,
    hfound, setStudentStatus, Program.transaction] at h
  by_contra hmerged
  by_cases hallowed : newStatus ∉ allowedTargetStatuses
  · simp [hallowed, raiseApi] at h
  · simp [hallowed, hmerged, raiseApi] at h

def Office.Activates (o : Office) (studentId : ℕ) (newStatus : StudentStatus) : Prop :=
  newStatus = .active ∧
    ∃ x, o.registry.student? studentId = some x ∧ x.status ≠ .active ∧ x.mergedInto = none

theorem statusView_gains (h : o.registry.Numbered o.nextId) {now : Instant} {today : Date}
    {studentId : ℕ} {newStatus : StudentStatus} {exitDate : Option Date} {exitReason : String}
    (hok : o.run (statusView now today studentId newStatus exitDate exitReason) = .ok o') :
    o.Gains o' 0 ∨ o.Gains o' 1 ∧ o.Activates studentId newStatus := by
  obtain ⟨x, school, hrun, rfl⟩ := Office.run_eq_ok.mp hok
  obtain ⟨found, hfound, hcases⟩ := statusView_run_ok hrun
  have hunmerged := statusView_run_unmerged hrun hfound
  have hfound' : o.registry.student? studentId = some found := hfound
  obtain ⟨hmem, -⟩ := Registry.mem_of_student? hfound'
  rcases hcases with rfl | ⟨-, hother, hid, hstatus, hregistry⟩
  · exact .inl (.refl h)
  · have hstudents : school.registry.students = (o.registry.putStudent x).students := by
      rw [hregistry]
      split <;> rfl
    by_cases hactive : newStatus = .active
    · right
      rw [hactive] at hstatus hother
      have hcount := h.activeCount_putStudent hmem hid.symm
      rw [if_neg hother, if_pos hstatus] at hcount
      have hgrown : Registry.activeCount school.registry = o.registry.activeCount + 1 := by
        unfold Registry.activeCount at hcount ⊢
        rw [hstudents]
        exact hcount
      exact ⟨⟨(h.putStudent hmem hid.symm).of_students hstudents le_rfl, hgrown.le, rfl⟩,
        hactive, found, hfound', hother, hunmerged⟩
    · left
      apply Office.Gains.of_putStudent h hmem hid.symm
      · intro hx
        exact absurd (hstatus.symm.trans hx) hactive
      · exact hstudents
      · exact le_rfl
      · rfl

theorem applyManualMerge_gains (h : o.registry.Numbered o.nextId) {now : Instant} {today : Date}
    {token : MergeToken} (hok : applyManualMerge now today token o = .ok o') : o.Gains o' 0 := by
  have hplan : o'.maxStudents = o.maxStudents := by
    unfold applyManualMerge at hok
    split at hok
    · cases hok
    · split at hok
      · cases hok
      · rw [Fallible.ite_error_eq_ok] at hok
        rw [← Except.ok.inj hok.2]
  obtain ⟨target, sources, active, -, -, -, -, -, hregistry, hnext⟩ := applyManualMerge_eq_ok hok
  have hstudents : o'.registry.students = o.registry.students.map fun x =>
      if x.id ∈ sources then archivedSource now today target x else x := by
    rw [hregistry]
    rfl
  have hid : ∀ x : Student,
      (if x.id ∈ sources then archivedSource now today target x else x).id = x.id := by
    intro x
    split <;> rfl
  have hids : o'.registry.students.map (fun x => x.id) = o.registry.students.map fun x => x.id := by
    rw [hstudents, List.map_map]
    exact List.map_congr_left fun x _ => hid x
  refine ⟨⟨?_, ?_⟩, ?_, hplan⟩
  · rw [hids]
    exact h.nodup
  · intro x hx
    rw [hstudents] at hx
    obtain ⟨y, hy, rfl⟩ := List.mem_map.mp hx
    rw [hid, hnext]
    exact h.lt y hy
  · unfold Registry.activeCount
    rw [hstudents, List.countP_map]
    apply List.countP_mono_left
    intro x _ hx
    simp only [Function.comp_apply, decide_eq_true_eq] at hx ⊢
    split at hx
    · exact nomatch hx
    · exact hx

theorem Office.Rewrites.maxStudents (h : o.Rewrites o') : o'.maxStudents = o.maxStudents := by
  obtain ⟨r, n, rfl⟩ := h
  rfl

theorem applyRow_gains (h : o.registry.Numbered o.nextId) {academicYear : ℕ} {day : Date}
    {existing : ℕ → Option StudentEnrollment} {row : NormalizedRow}
    (hok : applyRow academicYear day existing row o = .ok o') :
    o.Gains o' (countStatus [row] .new) := by
  by_cases hnew : row.status = some .new
  · obtain ⟨target, -, henroll⟩ := (applyRow_new_eq_ok hnew).mp hok
    have hone : countStatus [row] .new = 1 := by
      simp [countStatus, hnew]
    rw [hone]
    exact .enrollNew h henroll
  · have hnone : countStatus [row] .new = 0 := by
      simp [countStatus, hnew]
    rw [hnone]
    have hplan := (applyRow_rewrites hok).maxStudents
    obtain ⟨x, hx, o₁, hchanges, hplace⟩ := (applyRow_matched_eq_ok hnew).mp hok
    obtain ⟨id, -, hfound⟩ := Option.bind_eq_some_iff.mp hx
    obtain ⟨hmem, -⟩ := Registry.mem_of_student? hfound
    obtain ⟨-, rfl⟩ := applyChanges_eq_ok.mp hchanges
    have hamended : o.Gains (o.setRegistry (o.registry.amended row x)) 0 := by
      unfold Registry.amended
      split
      · exact .refl h
      · have hid : x.id = (row.applied (row.changes.getD {}) x).id := rfl
        apply Office.Gains.of_putStudent h hmem hid
        · exact fun hactive => hactive
        · rfl
        · exact le_rfl
        · rfl
    split at hplace
    · obtain ⟨target, -, hseat⟩ := hplace
      obtain ⟨-, rfl⟩ := applyPlacement_eq_ok.mp hseat
      refine Office.Gains.trans (n := 0) hamended ?_
      apply Office.Gains.of_students hamended.numbered
      · exact Registry.reseat_students _ _ _ _
      · exact Nat.le_succ _
      · rfl
    · rw [hplace]
      exact hamended

theorem applyRows_gains (h : o.registry.Numbered o.nextId) {today : Date} {year : AcademicYear}
    {rows : List NormalizedRow} (hok : applyRows today year rows o = .ok o') :
    o.Gains o' (countStatus rows .new) := by
  unfold applyRows at hok
  obtain ⟨o₁, hplaces, hok⟩ := Fallible.bind_eq_ok.mp hok
  have hfirst : o.Gains o₁ 0 := .of_spares h (ensurePlacements_spares rows hplaces)
  have hrest := Fallible.foldlM_invariant
    (fun pre _ s => o.Gains s (countStatus pre .new)) ?_ hfirst hok
  · exact hrest
  · intro pre row rest s s' hs hstep
    have hcount : countStatus (pre ++ [row]) .new =
        countStatus pre .new + countStatus [row] .new := List.countP_append
    rw [hcount]
    exact hs.trans (applyRow_gains hs.numbered hstep)

theorem commitImport_gains (h : o.registry.Numbered o.nextId) {today : Date} {jobId : ℕ}
    {allowImporting : Bool} :
    ∃ n, o.Gains (commitImport rules today jobId allowImporting o).2 n ∧
      (n = 0 ∨ o.requireCapacity n = .ok ()) := by
  unfold commitImport
  split
  · exact ⟨0, .refl h, .inl rfl⟩
  next o₁ e hlocked =>
    exact ⟨0, .of_spares h (commitLocked_deferred_spares hlocked), .inl rfl⟩
  next o₁ hlocked =>
    obtain ⟨job, year, applied, hdone⟩ := commitLocked_completed.mp hlocked
    have hstart : (o.putJob job.underWay).registry.Numbered (o.putJob job.underWay).nextId := h
    have hrows := applyRows_gains hstart hdone.rows
    refine ⟨countStatus (rowsToApply (o.compared rules job year).1) .new, ?_, ?_⟩
    · rw [hdone.result]
      exact ⟨hrows.numbered, hrows.count, hrows.plan⟩
    · have hcapacity := hdone.capacity
      unfold Office.checkCapacity at hcapacity
      simp only at hcapacity
      split at hcapacity
      next hnone => exact .inl hnone
      next hsome => exact .inr hcapacity

theorem Office.handle_gains (h : o.registry.Numbered o.nextId) (request : OfficeRequest) :
    ∃ n, o.Gains (o.handle rules request) n ∧
      (n = 0 ∨ o.requireCapacity n = .ok () ∨
        n = 1 ∧ ∃ now today studentId newStatus exitDate exitReason,
          request = .setStudentStatus now today studentId newStatus exitDate exitReason ∧
            o.Activates studentId newStatus) := by
  have hafter : ∀ result : Except Failure Office, (∀ o', result = .ok o' → o.Gains o' 0) →
      o.Gains (o.after result) 0 := by
    intro result hresult
    cases result with
    | error e => exact .refl h
    | ok o' => exact hresult o' rfl
  cases request with
  | createStudent today sectionId data =>
    cases hok : createStudent today sectionId data o with
    | error e =>
      refine ⟨0, ?_, .inl rfl⟩
      simp only [Office.handle, hok]
      exact .refl h
    | ok o' =>
      obtain ⟨hroom, hgains⟩ := createStudent_gains h hok
      refine ⟨1, ?_, .inr (.inl hroom)⟩
      simp only [Office.handle, hok]
      exact hgains
  | updateStudent today studentId sectionId data =>
    exact ⟨0, hafter _ fun o' hok => patchStudent_gains h hok, .inl rfl⟩
  | setStudentStatus now today studentId newStatus exitDate exitReason =>
    cases hok : o.run (statusView now today studentId newStatus exitDate exitReason) with
    | error e =>
      refine ⟨0, ?_, .inl rfl⟩
      simp only [Office.handle, hok]
      exact .refl h
    | ok o' =>
      simp only [Office.handle, hok]
      rcases statusView_gains h hok with hgains | ⟨hgains, hactivates⟩
      · exact ⟨0, hgains, .inl rfl⟩
      · exact ⟨1, hgains, .inr (.inr ⟨rfl, now, today, studentId, newStatus, exitDate, exitReason,
          rfl, hactivates⟩)⟩
  | uploadImport yearId =>
    exact ⟨0, hafter _ fun o' hok => .of_spares h (uploadImport_spares hok), .inl rfl⟩
  | startProcessing jobId =>
    exact ⟨0, hafter _ fun o' hok => .of_spares h (startProcessing_spares hok), .inl rfl⟩
  | processImportJob jobId rows =>
    exact ⟨0, .of_spares h (processImportJob_spares jobId rows), .inl rfl⟩
  | approveImport jobId =>
    exact ⟨0, hafter _ fun o' hok => .of_spares h (approveImport_spares hok), .inl rfl⟩
  | cancelImport jobId =>
    exact ⟨0, hafter _ fun o' hok => .of_spares h (cancelImport_spares hok), .inl rfl⟩
  | failImport jobId errorCode =>
    exact ⟨0, .of_spares h (failImport_spares jobId errorCode), .inl rfl⟩
  | commitImport today jobId allowImporting =>
    obtain ⟨n, hgains, hn⟩ := @commitImport_gains o rules h today jobId allowImporting
    exact ⟨n, hgains, hn.imp_right .inl⟩
  | activateYear yearId =>
    exact ⟨0, hafter _ fun o' hok => .of_spares h (activateYear_spares hok), .inl rfl⟩
  | applyManualMerge now today token =>
    exact ⟨0, hafter _ fun o' hok => applyManualMerge_gains h hok, .inl rfl⟩

variable {c : Campus} {rules : TextRules}

/-! ## Limits -/

/-- No more students and members are active than the plan allows. -/
structure Campus.WithinPlan (c : Campus) : Prop where
  students : ∀ n ∈ c.office.maxStudents, c.office.countActiveStudents ≤ n
  staff : ∀ k ∈ c.staff.maxStaff, c.staff.countActiveStaff ≤ k

/-- Students have distinct ids, and so have memberships. -/
structure Campus.Numbered (c : Campus) : Prop where
  students : c.office.registry.Numbered c.office.nextId
  staff : c.staff.Numbered

/-- What sets a student or a membership active again, does so while the plan has room for one
more. -/
def Campus.RoomToReturn (c : Campus) : CampusRequest → Prop
  | .office (.setStudentStatus _ _ studentId newStatus _ _) =>
    c.office.Activates studentId newStatus →
      ∀ n ∈ c.office.maxStudents, c.office.countActiveStudents + 1 ≤ n
  | .reactivate membershipId isPlatformAdmin =>
    c.staff.Reactivates membershipId isPlatformAdmin →
      ∀ k ∈ c.staff.maxStaff, c.staff.countActiveStaff + 1 ≤ k
  | _ => True

theorem Office.activates_iff {o : Office} {studentId : ℕ} {newStatus : StudentStatus} :
    (newStatus = .active ∧ ((o.registry.student? studentId).any fun x =>
      x.status ≠ .active ∧ x.mergedInto = none) = true) ↔ o.Activates studentId newStatus := by
  simp only [Office.Activates, Option.any_eq_true, decide_eq_true_eq]

instance decidableActivates (o : Office) (studentId : ℕ) (newStatus : StudentStatus) :
    Decidable (o.Activates studentId newStatus) :=
  decidable_of_iff _ Office.activates_iff

theorem Staff.reactivates_iff {s : Staff} {membershipId : ℕ} {isPlatformAdmin : Bool} :
    (((s.profileOf membershipId).bind fun p => s.membership? p.membership).any fun m =>
      m.status = .suspended ∧ (SchoolRole.schoolManager ∈ m.roles → isPlatformAdmin = true)) =
        true ↔ s.Reactivates membershipId isPlatformAdmin := by
  simp only [Staff.Reactivates, Option.any_eq_true, decide_eq_true_eq]

instance decidableReactivates (s : Staff) (membershipId : ℕ) (isPlatformAdmin : Bool) :
    Decidable (s.Reactivates membershipId isPlatformAdmin) :=
  decidable_of_iff _ Staff.reactivates_iff

instance decidableRoomToReturn (c : Campus) :
    ∀ request : CampusRequest, Decidable (c.RoomToReturn request)
  | .office (.setStudentStatus _ _ studentId newStatus _ _) => inferInstanceAs (Decidable
      (c.office.Activates studentId newStatus →
        ∀ n ∈ c.office.maxStudents, c.office.countActiveStudents + 1 ≤ n))
  | .reactivate membershipId isPlatformAdmin => inferInstanceAs (Decidable
      (c.staff.Reactivates membershipId isPlatformAdmin →
        ∀ k ∈ c.staff.maxStaff, c.staff.countActiveStaff + 1 ≤ k))
  | .office (.createStudent ..) | .office (.updateStudent ..) | .office (.uploadImport ..) |
    .office (.startProcessing ..) | .office (.processImportJob ..) | .office (.approveImport ..) |
    .office (.cancelImport ..) | .office (.failImport ..) | .office (.commitImport ..) |
    .office (.activateYear ..) | .office (.applyManualMerge ..) | .createStaff .. | .suspend .. |
    .uploadStaffImport | .startStaffProcessing .. | .processStaffImportJob .. |
    .cancelStaffImport .. | .commitStaffImport .. => inferInstanceAs (Decidable True)

/-- The campus keeps its limits, and its students and members are numbered. -/
structure Campus.Licensed (c : Campus) : Prop where
  numbered : c.Numbered
  within : c.WithinPlan

theorem Office.requireCapacity_eq_ok {o : Office} {n : ℕ} : o.requireCapacity n = .ok () ↔
    ∀ limit ∈ o.maxStudents, o.countActiveStudents + n ≤ limit := by
  unfold Office.requireCapacity
  cases o.maxStudents with
  | none => simp
  | some limit =>
    by_cases hroom : o.countActiveStudents + n ≤ limit
    · simp [hroom]
    · simp [hroom]

/-! ## Steps -/

theorem Campus.Licensed.office (h : c.Licensed) {o' : Office} {n : ℕ} (hgains : c.office.Gains o' n)
    (hroom : n = 0 ∨ ∀ limit ∈ c.office.maxStudents, c.office.countActiveStudents + n ≤ limit) :
    Campus.Licensed { c with office := o' } where
  numbered := ⟨hgains.numbered, h.numbered.staff⟩
  within := by
    refine ⟨fun limit hlimit => ?_, h.within.staff⟩
    have hcount := hgains.count
    have hlimit' : limit ∈ c.office.maxStudents := hgains.plan ▸ hlimit
    have hbefore := h.within.students limit hlimit'
    rw [Office.countActiveStudents_eq] at hbefore ⊢
    rcases hroom with hnone | hroom
    · change o'.registry.activeCount ≤ limit
      omega
    · have hafter := hroom limit hlimit'
      rw [Office.countActiveStudents_eq] at hafter
      change o'.registry.activeCount ≤ limit
      omega

theorem Campus.Licensed.staff (h : c.Licensed) {s' : Staff} {n : ℕ} (hgains : c.staff.Gains s' n)
    (hroom : n = 0 ∨ ∀ limit ∈ c.staff.maxStaff, c.staff.countActiveStaff + n ≤ limit) :
    Campus.Licensed { c with staff := s' } where
  numbered := ⟨h.numbered.students, hgains.numbered⟩
  within := by
    refine ⟨h.within.students, fun limit hlimit => ?_⟩
    have hcount := hgains.count
    have hlimit' : limit ∈ c.staff.maxStaff := hgains.plan ▸ hlimit
    have hbefore := h.within.staff limit hlimit'
    change s'.countActiveStaff ≤ limit
    rcases hroom with hnone | hroom
    · omega
    · have hafter := hroom limit hlimit'
      omega

theorem Staff.Gains.after {s : Staff} (h : s.Numbered) {result : Except Failure Staff}
    (hok : ∀ s', result = .ok s' → s.Gains s' 0) : s.Gains (s.after result) 0 := by
  cases result with
  | error e => exact .refl h
  | ok s' => exact hok s' rfl

theorem startStaffProcessing_gains {s s' : Staff} (h : s.Numbered) {jobId : ℕ}
    (hok : startStaffProcessing jobId s = .ok s') : s.Gains s' 0 := by
  unfold startStaffProcessing at hok
  split at hok
  · cases hok
  · rw [Fallible.ite_error_eq_ok] at hok
    obtain ⟨-, hok⟩ := hok
    split at hok
    next hsave =>
      unfold Staff.saveJob at hsave
      rw [Fallible.ite_error_eq_ok] at hsave
      cases hok
      cases hsave.2
      exact .of_memberships h rfl le_rfl rfl
    next =>
      split at hok <;> cases hok

theorem processStaffImportJob_gains {s : Staff} (h : s.Numbered) (jobId : ℕ)
    (rows : List StaffRow) : s.Gains (processStaffImportJob jobId rows s) 0 := by
  unfold processStaffImportJob
  split
  · exact .refl h
  · split
    · exact .refl h
    · exact .of_memberships h rfl le_rfl rfl

theorem cancelStaffImport_gains {s s' : Staff} (h : s.Numbered) {jobId : ℕ}
    (hok : cancelStaffImport jobId s = .ok s') : s.Gains s' 0 := by
  unfold cancelStaffImport at hok
  split at hok
  · cases hok
  · rw [Fallible.ite_error_eq_ok] at hok
    cases hok.2
    exact .of_memberships h rfl le_rfl rfl

theorem Campus.Licensed.handle (h : c.Licensed) {request : CampusRequest}
    (hroom : c.RoomToReturn request) : (c.handle rules request).Licensed := by
  cases request with
  | office request =>
    obtain ⟨n, hgains, hn⟩ := Office.handle_gains h.numbered.students request
    apply h.office hgains
    rcases hn with hnone | hchecked | ⟨rfl, now, today, studentId, newStatus, exitDate, exitReason,
      rfl, hactivates⟩
    · exact .inl hnone
    · exact .inr (Office.requireCapacity_eq_ok.mp hchecked)
    · exact .inr (hroom hactivates)
  | createStaff data =>
    cases hok : createStaff c.office.registry data c.staff with
    | error e =>
      simp only [Campus.handle, hok]
      exact h
    | ok s' =>
      simp only [Campus.handle, hok]
      obtain ⟨n, hgains, hn⟩ := createStaff_gains h.numbered.staff hok
      apply h.staff hgains
      rcases hn with hnone | ⟨rfl, hchecked⟩
      · exact .inl hnone
      · exact .inr (Staff.requireCapacity_eq_ok.mp hchecked)
  | suspend membershipId isPlatformAdmin =>
    exact h.staff (.after h.numbered.staff fun s' hok => suspend_gains h.numbered.staff hok)
      (.inl rfl)
  | reactivate membershipId isPlatformAdmin =>
    cases hok : reactivate membershipId isPlatformAdmin c.staff with
    | error e =>
      simp only [Campus.handle, hok]
      exact h
    | ok s' =>
      simp only [Campus.handle, hok]
      obtain ⟨hgains, hreactivates⟩ := reactivate_gains h.numbered.staff hok
      exact h.staff hgains (.inr (hroom hreactivates))
  | uploadStaffImport =>
    exact h.staff (.of_memberships h.numbered.staff rfl (Nat.le_succ _) rfl) (.inl rfl)
  | startStaffProcessing jobId =>
    exact h.staff (.after h.numbered.staff fun s' hok =>
      startStaffProcessing_gains h.numbered.staff hok) (.inl rfl)
  | processStaffImportJob jobId rows =>
    exact h.staff (processStaffImportJob_gains h.numbered.staff jobId rows) (.inl rfl)
  | cancelStaffImport jobId =>
    exact h.staff (.after h.numbered.staff fun s' hok =>
      cancelStaffImport_gains h.numbered.staff hok) (.inl rfl)
  | commitStaffImport jobId =>
    obtain ⟨n, hgains, hn⟩ := commitStaffImport_gains h.numbered.staff jobId
    exact h.staff hgains (hn.imp_right Staff.requireCapacity_eq_ok.mp)

/-! ## Runs -/

/-- **The limits of the plan are kept** in every state of a run whose requests find room for whom
they set active again. -/
theorem Campus.play_withinPlan (rules : TextRules) (c : Campus) (hnumbered : c.Numbered)
    (hwithin : c.WithinPlan) (requests : List CampusRequest)
    (hroom : Runs.Guarded (Campus.handle rules) Campus.RoomToReturn c requests) :
    ∀ l, l <+: requests → (c.play rules l).WithinPlan := by
  intro l hl
  have hstep : ∀ c request, Campus.Licensed c → Campus.RoomToReturn c request →
      (c.handle rules request).Licensed := fun c request hc hrequest => hc.handle hrequest
  have hrun := Runs.Guarded.invariant hstep ⟨hnumbered, hwithin⟩ hroom l hl
  exact hrun.within

def smallCampus : Campus where
  office := { twoYearOffice with maxStudents := some 1 }
  staff := { maxStaff := some 1 }

def secondStudent : NewStudentData where
  nationalIdLookupHash := "other"
  nationalIdMasked := "masked"
  fullName := "other"

def guard (mobile : String) : NewStaffData where
  displayName := "guard"
  mobile := mobile
  role := .gateGuard

def leaveAndReturn : List CampusRequest :=
  [ .office (.createStudent 10 2 firstStudent),
    .office (.setStudentStatus 0 20 10 .withdrawn none ""),
    .office (.setStudentStatus 0 30 10 .active none ""),
    .createStaff (guard "1"),
    .suspend 2 false,
    .reactivate 2 false ]

theorem Campus.play_withinPlan_leaveAndReturn :
    (smallCampus.play plainTexts leaveAndReturn).WithinPlan :=
  Campus.play_withinPlan plainTexts smallCampus
    ⟨⟨by decide +kernel, by decide +kernel⟩, ⟨by decide +kernel, by decide +kernel⟩⟩
    ⟨by decide +kernel, by decide +kernel⟩ leaveAndReturn (by decide +kernel) leaveAndReturn
    (List.prefix_refl _)

def placeGivenAway : List CampusRequest :=
  [ .office (.createStudent 10 2 firstStudent),
    .office (.setStudentStatus 0 20 10 .withdrawn none ""),
    .office (.createStudent 20 2 secondStudent),
    .office (.setStudentStatus 0 30 10 .active none "") ]

def postGivenAway : List CampusRequest :=
  [ .createStaff (guard "1"), .suspend 2 false, .createStaff (guard "2"), .reactivate 2 false ]

theorem placeGivenAway_overLimit :
    ¬ (smallCampus.play plainTexts placeGivenAway).WithinPlan ∧
      ¬ (smallCampus.play plainTexts postGivenAway).WithinPlan := by
  constructor
  · intro h
    have hone := h.students 1 (by decide +kernel)
    exact absurd hone (by decide +kernel)
  · intro h
    have hone := h.staff 1 (by decide +kernel)
    exact absurd hone (by decide +kernel)

end SchoolPlatform
