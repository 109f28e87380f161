import SchoolPlatform.Analysis.OfficeSteps

/-!
# What a commit does

A commit that raises has saved its job at most (`commitLocked_deferred_jobs`). One that completes has
compared the preview, found the room and applied every row (`commitLocked_completed`); the rows are
applied one after another, and what the edits of the rows preserve, the commit preserves
(`applyRows_induction`).
-/

namespace SchoolPlatform

variable {o o' : Office} {r r' : Registry} {rules : TextRules}

variable {jobId : ℕ} {today : Date} {allowImporting : Bool} {row : NormalizedRow} {student : ℕ}
  {existing : ℕ → Option StudentEnrollment} {x : Student}

/-! ## Calls that leave the students alone -/

/-- The students, the enrollments and the plan are those of before. -/
structure Office.Spares (o o' : Office) : Prop where
  people : o.registry.SamePeople o'.registry
  nextId_le : o.nextId ≤ o'.nextId
  plan : o'.maxStudents = o.maxStudents

theorem Office.Spares.refl (o : Office) : o.Spares o := ⟨.refl _, le_rfl, rfl⟩

theorem Office.saveJob_eq_ok {job : StudentImportJob} (h : o.saveJob job = .ok o') :
    o' = o.putJob job := by
  unfold Office.saveJob at h
  rw [Fallible.ite_error_eq_ok] at h
  exact (Except.ok.inj h.2).symm

theorem uploadImport_spares {yearId : Option ℕ} (h : uploadImport yearId o = .ok o') :
    o.Spares o' := by
  unfold uploadImport at h
  obtain ⟨year, -, h⟩ := Fallible.bind_eq_ok.mp h
  rw [Fallible.ite_error_eq_ok] at h
  rw [← Fallible.pure_eq_ok.mp h.2]
  exact ⟨⟨rfl, rfl⟩, Nat.le_succ _, rfl⟩

theorem startProcessing_spares (h : startProcessing jobId o = .ok o') : o.Spares o' := by
  unfold startProcessing at h
  split at h
  · cases h
  · rw [Fallible.ite_error_eq_ok] at h
    obtain ⟨-, h⟩ := h
    split at h
    next hsave =>
      rw [← Except.ok.inj h, Office.saveJob_eq_ok hsave]
      exact ⟨⟨rfl, rfl⟩, le_rfl, rfl⟩
    next =>
      split at h <;> cases h

theorem processImportJob_spares (jobId : ℕ) (rows : List NormalizedRow) :
    o.Spares (processImportJob rules jobId rows o) := by
  unfold processImportJob
  split
  · exact .refl o
  · split
    · exact .refl o
    · exact ⟨⟨rfl, rfl⟩, le_rfl, rfl⟩

theorem approveImport_spares (h : approveImport jobId o = .ok o') : o.Spares o' := by
  unfold approveImport at h
  split at h
  · cases h
  · split at h
    · rw [← Except.ok.inj h]
      exact .refl o
    · split at h
      · cases h
      · rw [Fallible.ite_error_eq_ok] at h
        rw [Office.saveJob_eq_ok h.2]
        exact ⟨⟨rfl, rfl⟩, le_rfl, rfl⟩

theorem cancelImport_spares (h : cancelImport jobId o = .ok o') : o.Spares o' := by
  unfold cancelImport at h
  split at h
  · cases h
  · rw [Fallible.ite_error_eq_ok] at h
    rw [← Except.ok.inj h.2]
    exact ⟨⟨rfl, rfl⟩, le_rfl, rfl⟩

theorem failImport_spares (jobId : ℕ) (errorCode : String) :
    o.Spares (failImport jobId errorCode o) := by
  unfold failImport
  split
  · exact .refl o
  · split
    · exact .refl o
    · exact ⟨⟨rfl, rfl⟩, le_rfl, rfl⟩

theorem activateYear_spares {yearId : ℕ} (h : activateYear yearId o = .ok o') :
    o.Spares o' := by
  unfold activateYear at h
  split at h
  · cases h
  · simp only at h
    rw [Fallible.ite_error_eq_ok, Fallible.ite_error_eq_ok] at h
    rw [← Except.ok.inj h.2.2]
    cases o.activeYear <;> exact ⟨⟨rfl, rfl⟩, le_rfl, rfl⟩

/-! ## The phases of a commit -/

def Office.compared (rules : TextRules) (o : Office) (job : StudentImportJob) (year : AcademicYear) :
    List NormalizedRow × ImportSummary :=
  categorizeRows rules o.registry year.id (job.rows.map StudentImportRow.normalized)

def Office.OpenYear (o : Office) (year : AcademicYear) : Prop :=
  year.status = .active ∨ o.canPrepareMinistryYear year = true

instance (o : Office) (year : AcademicYear) : Decidable (o.OpenYear year) := by
  unfold Office.OpenYear
  infer_instance

def StudentImportJob.underWay (job : StudentImportJob) : StudentImportJob :=
  { job with status := .importing, errorCode := "" }

def StudentImportJob.done (job : StudentImportJob) (result : List NormalizedRow × ImportSummary) :
    StudentImportJob :=
  { job with
    status := .completed
    errorCode := ""
    rows := []
    summary := result.2
    counts := commitCounts (rowsToApply result.1) }

/-- A commit that completes: the preview holds, every row is in order, no other import is at work,
the plan has room, and the rows have been applied. -/
structure CommitCompleted (rules : TextRules) (today : Date) (jobId : ℕ) (allowImporting : Bool)
    (o o' : Office) (job : StudentImportJob) (year : AcademicYear) (applied : Office) : Prop where
  found : o.job? jobId = some job
  gate : commitGate job allowImporting = .ok ()
  yearFound : o.year? job.academicYear = some year
  openYear : o.OpenYear year
  fresh : isStale job.rows (o.compared rules job year).1 = false
  errors : (o.compared rules job year).2.errors = 0
  duplicates : (o.compared rules job year).2.duplicates = 0
  alone : o.saveJob job.underWay = .ok (o.putJob job.underWay)
  capacity : (o.putJob job.underWay).checkCapacity (rowsToApply (o.compared rules job year).1) =
    .ok ()
  rows : applyRows today year (rowsToApply (o.compared rules job year).1)
    (o.putJob job.underWay) = .ok applied
  result : o' = applied.putJob (job.done (o.compared rules job year))

theorem commitLocked_completed :
    commitLocked rules today jobId allowImporting o = .ok (o', none) ↔
      ∃ job year applied,
        CommitCompleted rules today jobId allowImporting o o' job year applied := by
  constructor
  · intro h
    unfold commitLocked at h
    split at h
    · cases h
    next job hjob =>
      split at h
      · cases h
      next hgate =>
        split at h
        · cases h
        next year hyear =>
          split at h
          next hclosed =>
            obtain ⟨o₁, -, h⟩ := Fallible.bind_eq_ok.mp h
            cases h
          next hopen =>
            unfold commitCompared at h
            split at h
            next hstale =>
              obtain ⟨o₁, -, h⟩ := Fallible.bind_eq_ok.mp h
              cases h
            next hstale =>
              split at h
              next hreview =>
                obtain ⟨o₁, -, h⟩ := Fallible.bind_eq_ok.mp h
                cases h
              next hreview =>
                obtain ⟨o₁, hsave, h⟩ := Fallible.bind_eq_ok.mp h
                have ho₁ := Office.saveJob_eq_ok hsave
                split at h
                · obtain ⟨o₂, -, h⟩ := Fallible.bind_eq_ok.mp h
                  cases h
                next hroom =>
                  obtain ⟨o₂, hcomplete, h⟩ := Fallible.bind_eq_ok.mp h
                  obtain ⟨applied, hrows, hdone⟩ := Fallible.bind_eq_ok.mp hcomplete
                  cases h
                  cases hdone
                  subst ho₁
                  rw [not_and_or, not_not, Bool.not_eq_true, Bool.not_eq_false] at hopen
                  rw [not_or, not_not, not_not] at hreview
                  exact ⟨job, year, applied, hjob, hgate, hyear, hopen, (Bool.not_eq_true _).mp hstale,
                    hreview.1, hreview.2, hsave, hroom, hrows, rfl⟩
  · rintro ⟨job, year, applied, h⟩
    have hopen : ¬ (year.status ≠ .active ∧ ¬ o.canPrepareMinistryYear year = true) := by
      rw [not_and_or, not_not, not_not]
      exact h.openYear
    have hreview : ¬ ((o.compared rules job year).2.errors ≠ 0 ∨
        (o.compared rules job year).2.duplicates ≠ 0) := by
      rw [not_or, not_not, not_not]
      exact ⟨h.errors, h.duplicates⟩
    have hstale : ¬ isStale job.rows (o.compared rules job year).1 = true := by
      rw [h.fresh]
      exact Bool.false_ne_true
    have hcompared : commitCompared today year job (o.compared rules job year) o =
        .ok (o', none) := by
      unfold commitCompared
      rw [if_neg hstale, if_neg hreview, Fallible.bind_eq_ok]
      refine ⟨_, h.alone, ?_⟩
      rw [h.capacity, Fallible.bind_eq_ok]
      refine ⟨o', ?_, rfl⟩
      unfold completeJob
      rw [Fallible.bind_eq_ok]
      exact ⟨applied, h.rows, by rw [h.result]; rfl⟩
    unfold commitLocked
    simp only [h.found, h.gate, h.yearFound]
    rw [if_neg hopen]
    exact hcompared

theorem commitLocked_deferred_jobs {e : ApiError}
    (h : commitLocked rules today jobId allowImporting o = .ok (o', some e)) :
    ∃ jobs, o' = { o with importJobs := jobs } := by
  unfold commitLocked at h
  split at h
  · cases h
  next job hjob =>
    split at h
    · cases h
    · split at h
      · cases h
      next year hyear =>
        split at h
        · obtain ⟨o₁, hsave, h⟩ := Fallible.bind_eq_ok.mp h
          cases h
          rw [Office.saveJob_eq_ok hsave]
          exact ⟨_, rfl⟩
        · unfold commitCompared at h
          split at h
          · obtain ⟨o₁, hsave, h⟩ := Fallible.bind_eq_ok.mp h
            cases h
            rw [Office.saveJob_eq_ok hsave]
            exact ⟨_, rfl⟩
          · split at h
            · obtain ⟨o₁, hsave, h⟩ := Fallible.bind_eq_ok.mp h
              cases h
              rw [Office.saveJob_eq_ok hsave]
              exact ⟨_, rfl⟩
            · obtain ⟨o₁, hsave, h⟩ := Fallible.bind_eq_ok.mp h
              split at h
              · obtain ⟨o₂, hagain, h⟩ := Fallible.bind_eq_ok.mp h
                cases h
                rw [Office.saveJob_eq_ok hagain, Office.saveJob_eq_ok hsave]
                exact ⟨_, rfl⟩
              · obtain ⟨o₂, -, h⟩ := Fallible.bind_eq_ok.mp h
                cases h

theorem commitLocked_deferred_spares {e : ApiError}
    (h : commitLocked rules today jobId allowImporting o = .ok (o', some e)) : o.Spares o' := by
  obtain ⟨jobs, rfl⟩ := commitLocked_deferred_jobs h
  exact ⟨⟨rfl, rfl⟩, le_rfl, rfl⟩

/-! ## The rows -/

theorem getOrCreateGrade_eq_ok {g : Grade} (h : getOrCreateGrade row o = .ok (g, o')) :
    o.Spares o' := by
  unfold getOrCreateGrade at h
  split at h
  · cases h
    exact .refl o
  · simp only at h
    rw [Fallible.ite_error_eq_ok] at h
    cases h.2
    exact ⟨⟨rfl, rfl⟩, Nat.le_succ _, rfl⟩

theorem getOrCreateSection_eq_ok {grade : ℕ} {x : Section}
    (h : getOrCreateSection row grade o = .ok (x, o')) : o.Spares o' := by
  unfold getOrCreateSection at h
  split at h
  · cases h
    exact .refl o
  · simp only at h
    rw [Fallible.ite_error_eq_ok] at h
    cases h.2
    exact ⟨⟨rfl, rfl⟩, Nat.le_succ _, rfl⟩

theorem Office.Spares.trans {o₁ o₂ o₃ : Office} (h : o₁.Spares o₂) (h' : o₂.Spares o₃) :
    o₁.Spares o₃ :=
  ⟨h.people.trans h'.people, h.nextId_le.trans h'.nextId_le, h'.plan.trans h.plan⟩

theorem ensurePlacement_spares (h : ensurePlacement row o = .ok o') : o.Spares o' := by
  unfold ensurePlacement at h
  split at h
  · cases h
    exact .refl o
  · obtain ⟨⟨g, o₁⟩, hgrade, h⟩ := Fallible.bind_eq_ok.mp h
    simp only at h
    rw [Fallible.ite_error_eq_ok] at h
    obtain ⟨⟨x, o₂⟩, hsection, h⟩ := Fallible.bind_eq_ok.mp h.2
    simp only at h
    rw [Fallible.ite_error_eq_ok] at h
    cases h.2
    exact (getOrCreateGrade_eq_ok hgrade).trans (getOrCreateSection_eq_ok hsection)

def NormalizedRow.Moves (row : NormalizedRow) : Prop :=
  row.status = some .sectionChanged ∨ row.status = some .gradeChanged

instance (row : NormalizedRow) : Decidable row.Moves := by
  unfold NormalizedRow.Moves
  infer_instance

def Registry.amended (r : Registry) (row : NormalizedRow) (student : Student) : Registry :=
  if row.changes.getD {} = {} then r
  else r.putStudent (row.applied (row.changes.getD {}) student)

theorem applyChanges_eq_ok {student : Student} :
    applyChanges row student o = .ok o' ↔
      (row.changes.getD {} ≠ {} → (row.applied (row.changes.getD {}) student).Fits ∧
        o.registry.numberTaken (row.applied (row.changes.getD {}) student) = false) ∧
      o' = o.setRegistry (o.registry.amended row student) := by
  unfold applyChanges Registry.amended
  by_cases hchanges : row.changes.getD {} = {}
  · simp only [hchanges, if_true, Except.ok.injEq, ne_eq, not_true_eq_false, false_implies,
      true_and, eq_comm (a := o')]
    rfl
  · simp only [hchanges, if_false, ne_eq, not_false_eq_true, true_implies]
    rw [Fallible.bind_eq_ok]
    constructor
    · rintro ⟨r, hsave, h⟩
      rw [Registry.saveStudent_eq_ok] at hsave
      obtain ⟨hfits, hnumber, rfl⟩ := hsave
      exact ⟨⟨hfits, hnumber⟩, (Fallible.pure_eq_ok.mp h).symm⟩
    · rintro ⟨⟨hfits, hnumber⟩, rfl⟩
      exact ⟨_, Registry.saveStudent_eq_ok.mpr ⟨hfits, hnumber, rfl⟩, rfl⟩

theorem applyPlacement_eq_ok {academicYear : ℕ} {day : Date} {existing : Option StudentEnrollment}
    {target : Section} :
    applyPlacement academicYear day existing student target o = .ok o' ↔
      (existing.elim o.registry fun e => o.registry.putEnrollment (e.transferredOn
        day)).currentEnrollment student academicYear = none ∧
      o' = { o.setRegistry (o.registry.reseat existing day
        (newEnrollment o.nextId day student academicYear target)) with
          nextId := o.nextId + 1 } := by
  unfold applyPlacement
  simp only
  rw [Fallible.bind_eq_ok]
  constructor
  · rintro ⟨r, hinsert, h⟩
    rw [Registry.insertEnrollment_eq_ok rfl] at hinsert
    obtain ⟨hnone, rfl⟩ := hinsert
    exact ⟨hnone, (Fallible.pure_eq_ok.mp h).symm⟩
  · rintro ⟨hnone, rfl⟩
    exact ⟨_, (Registry.insertEnrollment_eq_ok rfl).mpr ⟨hnone, rfl⟩, rfl⟩

theorem applyRow_new_eq_ok {academicYear : ℕ} {day : Date} (hrow : row.status = some .new) :
    applyRow academicYear day existing row o = .ok o' ↔
      ∃ target, o.registry.placement? row = some target ∧
        o.enrollNew row.newStudent academicYear target day = .ok o' := by
  unfold applyRow
  rw [if_pos hrow]
  cases o.registry.placement? row with
  | none => simp
  | some target => simp

theorem applyRow_matched_eq_ok {academicYear : ℕ} {day : Date} (hrow : row.status ≠ some .new) :
    applyRow academicYear day existing row o = .ok o' ↔
      ∃ student, row.matchedStudentId.bind o.registry.student? = some student ∧
      ∃ o₁, applyChanges row student o = .ok o₁ ∧
        if row.Moves then ∃ target, o₁.registry.placement? row = some target ∧
          applyPlacement academicYear day (existing student.id) student.id target o₁ = .ok o'
        else o' = o₁ := by
  unfold applyRow
  rw [if_neg hrow]
  cases row.matchedStudentId.bind o.registry.student? with
  | none => simp
  | some student =>
    simp only [Option.some.injEq, exists_eq_left']
    rw [Fallible.bind_eq_ok]
    apply exists_congr
    intro o₁
    apply and_congr_right
    intro _
    by_cases hmoves : row.Moves
    · have hmoves' : row.status = some .sectionChanged ∨ row.status = some .gradeChanged := hmoves
      rw [if_pos hmoves, if_pos hmoves']
      cases o₁.registry.placement? row with
      | none => simp
      | some target => simp
    · have hmoves' : ¬ (row.status = some .sectionChanged ∨ row.status = some .gradeChanged) :=
        hmoves
      rw [if_neg hmoves, if_neg hmoves', Fallible.pure_eq_ok, eq_comm]

theorem Registry.amended_enrollments (r : Registry) (row : NormalizedRow) (x : Student) :
    (r.amended row x).enrollments = r.enrollments := by
  unfold Registry.amended
  split <;> rfl

/-- What is left of the start while the rows of a commit are applied: a student has the
enrollments of then, or has been given an active one in the year. -/
structure RowsUnderWay (start : Registry) (firstId academicYear : ℕ) (o : Office) : Prop where
  coherent : o.registry.Coherent o.nextId
  firstId_le : firstId ≤ o.nextId
  records : ∀ x ∈ o.registry.students, x.status = .active ∨
    ∃ y ∈ start.students, y.id = x.id ∧ y.status = x.status
  histories : ∀ student, o.registry.history student = start.history student ∨
    ∃ e ∈ o.registry.enrollments, e.student = student ∧ e.academicYear = academicYear ∧
      e.status = .active ∧ firstId ≤ e.id

/-- A property of the students and enrollments that the edits of the rows preserve. -/
structure CommitInvariant (P : Registry → Prop) (start : Registry) (academicYear : ℕ) (day : Date)
    (rows : List NormalizedRow) : Prop where
  people : ∀ r r', r.SamePeople r' → P r → P r'
  enroll : ∀ (r : Registry) (next : ℕ) (data : NewStudentData) (target : Section),
    r.Coherent next → P r → P (r.enroll (data.student next)
      (newEnrollment (next + 1) day next academicYear target))
  amend : ∀ (r : Registry) (next : ℕ) (x : Student), r.Coherent next → r.Amends x → P r →
    P (r.putStudent x)
  reseat : ∀ (r : Registry) (next student : ℕ) (target : Section), r.Coherent next →
    (∃ row ∈ rows, row.Moves ∧ row.matchedStudentId = some student) →
    r.history student = start.history student →
    (∀ x ∈ r.students, x.id = student → x.status = .active ∨
      ∃ y ∈ start.students, y.id = student ∧ y.status = x.status) →
    P r → P (r.reseat (start.currentEnrollment student academicYear) day
      (newEnrollment next day student academicYear target))

theorem Registry.Coherent.amended {next : ℕ} (h : r.Coherent next) (row : NormalizedRow)
    (hx : x ∈ r.students) : (r.amended row x).Coherent next := by
  unfold Registry.amended
  split
  · exact h
  · exact h.putStudent _ ⟨x, hx, rfl⟩

theorem Registry.mem_students_amended {y : Student} (hx : x ∈ r.students)
    (hy : y ∈ (r.amended row x).students) :
    ∃ z ∈ r.students, z.id = y.id ∧ z.status = y.status := by
  unfold Registry.amended at hy
  split at hy
  · exact ⟨y, hy, rfl, rfl⟩
  · have hput := (Table.mem_put_iff (fun z : Student => z.id)
      (row.applied (row.changes.getD {}) x) y ⟨x, hx, rfl⟩).mp hy
    rcases hput with rfl | ⟨hy, _⟩
    · exact ⟨x, hx, rfl, rfl⟩
    · exact ⟨y, hy, rfl, rfl⟩

section Rows

variable {P : Registry → Prop} {start : Registry} {firstId academicYear : ℕ} {day : Date}
  {rows : List NormalizedRow}

theorem Registry.mem_elim_putEnrollment {old : Option StudentEnrollment} {e : StudentEnrollment}
    (he : e ∈ r.enrollments) (hne : ∀ f, old = some f → e.id ≠ f.id) (day : Date) :
    e ∈ (old.elim r fun f => r.putEnrollment (f.transferredOn day)).enrollments := by
  cases old with
  | none => exact he
  | some f =>
    exact List.mem_map.mpr ⟨e, he, if_neg (hne f rfl)⟩

theorem RowsUnderWay.history_eq (h : RowsUnderWay start firstId academicYear o)
    (hstart : start.Coherent firstId)
    (hnone : ((start.currentEnrollment student academicYear).elim o.registry fun e =>
      o.registry.putEnrollment (e.transferredOn day)).currentEnrollment student academicYear =
      none) : o.registry.history student = start.history student := by
  rcases h.histories student with heq | ⟨e, he, hstudent, hyear, hactive, hlate⟩
  · exact heq
  · -- The enrollment that has been opened since then would have to be gone.
    have hne : ∀ f, start.currentEnrollment student academicYear = some f → e.id ≠ f.id := by
      intro f hf
      have hlt := hstart.enrollments_lt f (Registry.mem_of_currentEnrollment hf).1
      omega
    have hstill := Registry.mem_elim_putEnrollment he hne day
    exact absurd hactive
      (Registry.currentEnrollment_eq_none_iff.mp hnone e hstill hstudent hyear)

theorem Registry.mem_of_history_eq {e : StudentEnrollment}
    (heq : r.history student = start.history student)
    (he : start.currentEnrollment student academicYear = some e) :
    e ∈ r.enrollments ∧ e.student = student := by
  obtain ⟨hmem, hstudent, -, -⟩ := Registry.mem_of_currentEnrollment he
  have hhistory : e ∈ start.history student := Registry.mem_history.mpr ⟨hmem, hstudent⟩
  rw [← heq] at hhistory
  exact Registry.mem_history.mp hhistory

theorem RowsUnderWay.enrollNew (h : RowsUnderWay start firstId academicYear o)
    {data : NewStudentData} {target : Section}
    (happly : o.enrollNew data academicYear target day = .ok o') :
    RowsUnderWay start firstId academicYear o' := by
  obtain ⟨-, -, -, -, rfl⟩ := Office.enrollNew_eq_ok.mp happly
  have hfirst := h.firstId_le
  refine ⟨?_, ?_, ?_, ?_⟩
  · exact h.coherent.enroll le_rfl (Nat.lt_succ_self _) rfl ⟨fun _ => rfl, fun _ => rfl⟩
      (Nat.lt_succ_self _)
  · exact hfirst.trans (Nat.le_add_right _ _)
  · intro x hx
    rcases List.mem_append.mp hx with hx | hx
    · exact h.records x hx
    · rw [List.mem_singleton.mp hx]
      exact .inl rfl
  · intro student
    by_cases hstudent : o.nextId = student
    · refine .inr ⟨newEnrollment (o.nextId + 1) day o.nextId academicYear target,
        List.mem_append_right _ List.mem_cons_self, hstudent, rfl, rfl, ?_⟩
      exact hfirst.trans (Nat.le_succ _)
    · rcases h.histories student with heq | ⟨e, he, hrest⟩
      · left
        rw [← heq]
        exact (Registry.history_enroll _ _ _).trans (if_neg hstudent)
      · exact .inr ⟨e, List.mem_append_left _ he, hrest⟩

theorem RowsUnderWay.amended (h : RowsUnderWay start firstId academicYear o) (row : NormalizedRow)
    (hx : x ∈ o.registry.students) :
    RowsUnderWay start firstId academicYear (o.setRegistry (o.registry.amended row x)) where
  coherent := h.coherent.amended row hx
  firstId_le := h.firstId_le
  records := by
    intro y hy
    obtain ⟨z, hz, hid, hstatus⟩ := Registry.mem_students_amended hx hy
    rw [← hid, ← hstatus]
    exact h.records z hz
  histories := by
    have henrollments := o.registry.amended_enrollments row x
    intro student
    unfold Registry.history at *
    simp only [Office.registry, Office.setRegistry] at henrollments ⊢
    rw [henrollments]
    exact h.histories student

theorem RowsUnderWay.reseat (h : RowsUnderWay start firstId academicYear o)
    (heq : o.registry.history student = start.history student)
    (howner : ∃ x ∈ o.registry.students, x.id = student) (target : Section) :
    RowsUnderWay start firstId academicYear
      { o.setRegistry (o.registry.reseat (start.currentEnrollment student academicYear) day
        (newEnrollment o.nextId day student academicYear target)) with nextId := o.nextId + 1 } := by
  have hold : ∀ e, start.currentEnrollment student academicYear = some e →
      e ∈ o.registry.enrollments := fun e he => (Registry.mem_of_history_eq heq he).1
  have hstudent : ∀ e, start.currentEnrollment student academicYear = some e →
      e.student = student := fun e he => (Registry.mem_of_history_eq heq he).2
  refine ⟨?_, h.firstId_le.trans (Nat.le_succ _), ?_, ?_⟩
  · exact h.coherent.reseat hold day le_rfl howner ⟨fun _ => rfl, fun _ => rfl⟩
      (Nat.lt_succ_self _)
  · intro x hx
    have hsame := o.registry.reseat_students (start.currentEnrollment student academicYear) day
      (newEnrollment o.nextId day student academicYear target)
    have hx' : x ∈ o.registry.students := hsame ▸ hx
    exact h.records x hx'
  · intro other
    by_cases hother : student = other
    · refine .inr ⟨newEnrollment o.nextId day student academicYear target, ?_, hother, rfl, rfl,
        h.firstId_le⟩
      exact (h.coherent.mem_reseat hold).mpr (.inl rfl)
    · rcases h.histories other with hsame | ⟨e, he, hstud, hrest⟩
      · left
        rw [← hsame]
        exact h.coherent.history_reseat_of_ne hold hstudent hother
      · refine .inr ⟨e, (h.coherent.mem_reseat hold).mpr (.inr (.inr ⟨he, ?_⟩)), hstud, hrest⟩
        intro f hf hef
        rw [hef] at hstud
        exact hother ((hstudent f hf).symm.trans hstud)

theorem RowsUnderWay.applyRow (h : RowsUnderWay start firstId academicYear o)
    (hstart : start.Coherent firstId) (hP : CommitInvariant P start academicYear day rows)
    (hrow : row ∈ rows) (ho : P o.registry)
    (happly : applyRow academicYear day (fun id => start.currentEnrollment id academicYear) row o
      = .ok o') : RowsUnderWay start firstId academicYear o' ∧ P o'.registry := by
  by_cases hnew : row.status = some .new
  · obtain ⟨target, -, henroll⟩ := (applyRow_new_eq_ok hnew).mp happly
    refine ⟨h.enrollNew henroll, ?_⟩
    obtain ⟨-, -, -, -, rfl⟩ := Office.enrollNew_eq_ok.mp henroll
    exact hP.enroll o.registry o.nextId row.newStudent target h.coherent ho
  · obtain ⟨x, hx, o₁, hchanges, hplace⟩ := (applyRow_matched_eq_ok hnew).mp happly
    obtain ⟨id, hmatched, hfound⟩ := Option.bind_eq_some_iff.mp hx
    obtain ⟨hmem, hid⟩ := h.coherent.student?_eq_some_iff.mp hfound
    obtain ⟨-, rfl⟩ := applyChanges_eq_ok.mp hchanges
    have hunder := h.amended row hmem
    have hamended : P (o.registry.amended row x) := by
      unfold Registry.amended
      split
      · exact ho
      · exact hP.amend o.registry o.nextId _ h.coherent ⟨x, hmem, rfl, rfl⟩ ho
    split at hplace
    next hmoves =>
      obtain ⟨target, -, hseat⟩ := hplace
      obtain ⟨hnone, rfl⟩ := applyPlacement_eq_ok.mp hseat
      have heq := hunder.history_eq hstart hnone
      have howner : ∃ y ∈ (o.registry.amended row x).students, y.id = x.id := by
        unfold Registry.amended
        split
        · exact ⟨x, hmem, rfl⟩
        · exact ⟨row.applied (row.changes.getD {}) x,
            List.mem_map.mpr ⟨x, hmem, if_pos rfl⟩, rfl⟩
      refine ⟨hunder.reseat heq howner target, ?_⟩
      refine hP.reseat (o.registry.amended row x) o.nextId x.id target hunder.coherent
        ⟨row, hrow, hmoves, ?_⟩ heq ?_ hamended
      · rw [hmatched, hid]
      · intro y hy hyx
        rcases hunder.records y hy with hactive | ⟨z, hz, hzy, hstatus⟩
        · exact .inl hactive
        · exact .inr ⟨z, hz, hzy.trans hyx, hstatus⟩
    next hmoves =>
      rw [hplace]
      exact ⟨hunder, hamended⟩

theorem RowsUnderWay.of_spares (hstart : o.registry.Coherent o.nextId) (hspares : o.Spares o') :
    RowsUnderWay o.registry o.nextId academicYear o' where
  coherent := (hstart.of_samePeople hspares.people).mono hspares.nextId_le
  firstId_le := hspares.nextId_le
  records := by
    rw [hspares.people.students]
    exact fun x hx => .inr ⟨x, hx, rfl, rfl⟩
  histories := fun student => .inl (hspares.people.history student)

theorem ensurePlacements_spares (rows : List NormalizedRow)
    (h : rows.foldlM (fun o row => ensurePlacement row o) o = .ok o') : o.Spares o' :=
  Fallible.foldlM_invariant (fun _ _ s => o.Spares s)
    (fun _ _ _ _ _ hs hstep => hs.trans (ensurePlacement_spares hstep)) (.refl o) h

/-- Nothing but the registry of the office and the next id is changed. -/
def Office.Rewrites (o o' : Office) : Prop :=
  ∃ r n, o' = { o.setRegistry r with nextId := n }

theorem Office.Rewrites.refl (o : Office) : o.Rewrites o := ⟨o.registry, o.nextId, rfl⟩

theorem Office.Rewrites.trans {o₁ o₂ o₃ : Office} (h : o₁.Rewrites o₂) (h' : o₂.Rewrites o₃) :
    o₁.Rewrites o₃ := by
  obtain ⟨r, n, rfl⟩ := h
  obtain ⟨r', n', rfl⟩ := h'
  exact ⟨r', n', rfl⟩

theorem ensurePlacement_rewrites (h : ensurePlacement row o = .ok o') : o.Rewrites o' := by
  unfold ensurePlacement at h
  split at h
  · cases h
    exact .refl o
  · obtain ⟨⟨g, o₁⟩, hgrade, h⟩ := Fallible.bind_eq_ok.mp h
    have hfirst : o.Rewrites o₁ := by
      unfold getOrCreateGrade at hgrade
      split at hgrade
      · cases hgrade
        exact .refl o
      · simp only at hgrade
        rw [Fallible.ite_error_eq_ok] at hgrade
        cases hgrade.2
        exact ⟨_, _, rfl⟩
    simp only at h
    rw [Fallible.ite_error_eq_ok] at h
    obtain ⟨⟨x, o₂⟩, hsection, h⟩ := Fallible.bind_eq_ok.mp h.2
    have hsecond : o₁.Rewrites o₂ := by
      unfold getOrCreateSection at hsection
      split at hsection
      · cases hsection
        exact .refl o₁
      · simp only at hsection
        rw [Fallible.ite_error_eq_ok] at hsection
        cases hsection.2
        exact ⟨_, _, rfl⟩
    simp only at h
    rw [Fallible.ite_error_eq_ok] at h
    cases h.2
    exact hfirst.trans hsecond

theorem applyRow_rewrites (h : applyRow academicYear day existing row o = .ok o') :
    o.Rewrites o' := by
  by_cases hnew : row.status = some .new
  · obtain ⟨target, -, henroll⟩ := (applyRow_new_eq_ok hnew).mp h
    obtain ⟨-, -, -, -, rfl⟩ := Office.enrollNew_eq_ok.mp henroll
    exact ⟨_, _, rfl⟩
  · obtain ⟨x, -, o₁, hchanges, hplace⟩ := (applyRow_matched_eq_ok hnew).mp h
    obtain ⟨-, rfl⟩ := applyChanges_eq_ok.mp hchanges
    split at hplace
    · obtain ⟨target, -, hseat⟩ := hplace
      obtain ⟨-, rfl⟩ := applyPlacement_eq_ok.mp hseat
      exact ⟨_, _, rfl⟩
    · rw [hplace]
      exact ⟨_, _, rfl⟩

theorem applyRows_rewrites {year : AcademicYear} (h : applyRows today year rows o = .ok o') :
    o.Rewrites o' := by
  unfold applyRows at h
  obtain ⟨o₁, hplaces, h⟩ := Fallible.bind_eq_ok.mp h
  have hfirst : o.Rewrites o₁ :=
    Fallible.foldlM_invariant (fun _ _ s => o.Rewrites s)
      (fun _ _ _ _ _ hs hstep => hs.trans (ensurePlacement_rewrites hstep)) (.refl o) hplaces
  exact Fallible.foldlM_invariant (fun _ _ s => o.Rewrites s)
    (fun _ _ _ _ _ hs hstep => hs.trans (applyRow_rewrites hstep)) hfirst h

theorem applyRows_induction {year : AcademicYear} (hstart : o.registry.Coherent o.nextId)
    (hP : CommitInvariant P o.registry year.id (o.importDay today year) rows) (ho : P o.registry)
    (h : applyRows today year rows o = .ok o') :
    o'.registry.Coherent o'.nextId ∧ P o'.registry := by
  unfold applyRows at h
  obtain ⟨o₁, hplaces, h⟩ := Fallible.bind_eq_ok.mp h
  have hspares := ensurePlacements_spares rows hplaces
  have hexisting : (fun id => o₁.registry.currentEnrollment id year.id) =
      fun id => o.registry.currentEnrollment id year.id := by
    funext id
    exact hspares.people.currentEnrollment id year.id
  simp only [hexisting] at h
  have hall := Fallible.foldlM_invariant
    (fun pre rest s => pre ++ rest = rows →
      RowsUnderWay o.registry o.nextId year.id s ∧ P s.registry) ?_ ?_ h
  · obtain ⟨hunder, hend⟩ := hall (List.append_nil rows)
    exact ⟨hunder.coherent, hend⟩
  · intro pre row rest s s' hs hstep hsplit
    have hsplit' : pre ++ row :: rest = rows := by
      rwa [List.append_assoc, List.singleton_append] at hsplit
    obtain ⟨hunder, hPs⟩ := hs hsplit'
    have hrow : row ∈ rows := by
      rw [← hsplit']
      exact List.mem_append_right _ List.mem_cons_self
    exact hunder.applyRow hstart hP hrow hPs hstep
  · intro _
    exact ⟨.of_spares hstart hspares, hP.people _ _ hspares.people ho⟩

end Rows

end SchoolPlatform
