import SchoolPlatform.Analysis.ImportPlaces
import SchoolPlatform.Analysis.StagedRows
import SchoolPlatform.Analysis.TheoremTimeline

/-!
# Jobs that their worker has left

A business error is raised by the commit either after its transaction, which has saved what became
of the job, or from inside it, and then the job stays as the manager's approval has left it. That
happens when the rows come to a grade or a section that has been deactivated, and such a job stays
in import.
-/

namespace SchoolPlatform

variable {e : Failure} {academicYear : ℕ} {day today : Date}

/-- A status that no worker is expected to change. -/
def ImportJobStatus.Settled (status : ImportJobStatus) : Prop :=
  status = .completed ∨ status = .failed ∨ status = .cancelled ∨ status = .readyForReview

instance instDecidableSettled (status : ImportJobStatus) : Decidable status.Settled := by
  unfold ImportJobStatus.Settled
  infer_instance

def Office.JobIs (o : Office) (jobId : ℕ) (P : ImportJobStatus → Prop) : Prop :=
  ∃ job, o.job? jobId = some job ∧ P job.status

variable {o o' : Office} {rules : TextRules} {job job' : StudentImportJob} {jobId : ℕ}

theorem Office.job?_id (h : o.job? jobId = some job) : job.id = jobId := by
  have hfound := List.find?_some h
  rwa [decide_eq_true_eq] at hfound

theorem Office.job?_putJob (h : o.job? jobId = some job) (hid : job'.id = job.id) :
    (o.putJob job').job? jobId = some job' := by
  have hjob : job'.id = jobId := hid.trans (Office.job?_id h)
  subst hjob
  exact Table.find?_put_self (fun j : StudentImportJob => j.id) job' h

theorem Office.saveJob_idle (h : ¬ job.Running) : o.saveJob job = .ok (o.putJob job) := by
  unfold Office.saveJob
  rw [if_neg fun hno => h hno.1]

def Office.OtherRunning (o : Office) (job : StudentImportJob) : Prop :=
  (o.importJobs.any fun j => j.Running ∧ j.id ≠ job.id) = true

theorem Office.saveJob_running (h : job.Running) :
    (o.saveJob job = .ok (o.putJob job) ∧ ¬ o.OtherRunning job) ∨
      (o.saveJob job = .error (.integrityError "uniq_running_import_per_school") ∧
        o.OtherRunning job) := by
  unfold Office.saveJob Office.OtherRunning
  by_cases hother : (o.importJobs.any fun j => j.Running ∧ j.id ≠ job.id) = true
  · exact .inr ⟨if_pos ⟨h, hother⟩, hother⟩
  · exact .inl ⟨if_neg fun hno => hother hno.2, hother⟩

def Failure.Business (e : Failure) : Prop := ∃ a, e = .api a

theorem insertStudent_not_business {r : Registry} {x : Student} (h : r.insertStudent x = .error e) :
    ¬ e.Business := by
  unfold Registry.insertStudent at h
  rintro ⟨a, rfl⟩
  rw [Fallible.ite_error_eq_error, Fallible.ite_error_eq_error, Fallible.ite_error_eq_error] at h
  simp at h

theorem insertEnrollment_not_business {r : Registry} {x : StudentEnrollment}
    (h : r.insertEnrollment x = .error e) : ¬ e.Business := by
  unfold Registry.insertEnrollment at h
  rintro ⟨a, rfl⟩
  rw [Fallible.ite_error_eq_error] at h
  simp at h

theorem applyChanges_not_business {row : NormalizedRow} {x : Student}
    (h : applyChanges row x o = .error e) : ¬ e.Business := by
  unfold applyChanges at h
  simp only at h
  split at h
  · cases h
  · rcases Fallible.bind_eq_error.mp h with h | ⟨r, -, h⟩
    · unfold Registry.saveStudent at h
      rintro ⟨a, rfl⟩
      rw [Fallible.ite_error_eq_error, Fallible.ite_error_eq_error] at h
      simp at h
    · cases h

theorem applyPlacement_not_business {student : ℕ} {existing : Option StudentEnrollment}
    {target : Section} (h : applyPlacement academicYear day existing student target o = .error e) :
    ¬ e.Business := by
  unfold applyPlacement at h
  rcases Fallible.bind_eq_error.mp h with h | ⟨r, -, h⟩
  · exact insertEnrollment_not_business h
  · cases h

theorem enrollNew_not_business {data : NewStudentData} {target : Section}
    (h : o.enrollNew data academicYear target day = .error e) : ¬ e.Business := by
  unfold Office.enrollNew at h
  rcases Fallible.bind_eq_error.mp h with h | ⟨r, -, h⟩
  · exact insertStudent_not_business h
  · rcases Fallible.bind_eq_error.mp h with h | ⟨r', -, h⟩
    · exact insertEnrollment_not_business h
    · cases h

theorem applyRow_not_business {existing : ℕ → Option StudentEnrollment} {row : NormalizedRow}
    (h : applyRow academicYear day existing row o = .error e) : ¬ e.Business := by
  have hmissing : ∀ model, ¬ (Failure.doesNotExist model).Business := fun _ ⟨_, hno⟩ => nomatch hno
  unfold applyRow at h
  split at h
  · split at h
    · cases h
      exact hmissing _
    · exact enrollNew_not_business h
  · split at h
    · cases h
      exact hmissing _
    next x _ =>
      rcases Fallible.bind_eq_error.mp h with h | ⟨o₁, -, h⟩
      · exact applyChanges_not_business h
      · split at h
        · split at h
          · cases h
            exact hmissing _
          · exact applyPlacement_not_business h
        · cases h

/-- **Applying the rows is refused by a business rule exactly when they come to a deactivated
place.** -/
theorem applyRows_refused_iff {year : AcademicYear} {rows : List NormalizedRow}
    (h : o.registry.PlacesCoherent o.nextId) :
    (∃ e, applyRows today year rows o = .error (.api e)) ↔
      o.registry.MeetsClosed (placedRows rows) := by
  rw [← ensurePlacements_refused_iff rows h]
  unfold applyRows
  apply exists_congr
  intro e
  simp only
  rw [Fallible.bind_eq_error]
  refine ⟨fun hrows => ?_, .inl⟩
  rcases hrows with hplaces | ⟨o₁, -, hrows⟩
  · exact hplaces
  · have hno : ¬ (Failure.api e).Business :=
      Fallible.foldlM_error (fun _ _ _ hstep => applyRow_not_business hstep) hrows
    exact absurd ⟨e, rfl⟩ hno

/-- The commit of a job goes on to its rows: the year takes it, the preview holds, every row is in
order, no other import is at work and the plan has room. -/
structure Office.Applies (rules : TextRules) (o : Office) (job : StudentImportJob)
    (year : AcademicYear) : Prop where
  yearFound : o.year? job.academicYear = some year
  openYear : o.OpenYear year
  fresh : isStale job.rows (o.compared rules job year).1 = false
  errors : (o.compared rules job year).2.errors = 0
  duplicates : (o.compared rules job year).2.duplicates = 0
  alone : ¬ o.OtherRunning job
  capacity : o.checkCapacity (rowsToApply (o.compared rules job year).1) = .ok ()

/-- The commit of a job goes on to its rows, and they come to a grade or a section that has been
deactivated. -/
def Office.ComesToClosedPlace (rules : TextRules) (o : Office) (job : StudentImportJob) : Prop :=
  ∃ year, o.Applies rules job year ∧
    o.registry.MeetsClosed (placedRows (rowsToApply (o.compared rules job year).1))

theorem Office.Rewrites.job? {o₁ : Office} (h : o.Rewrites o₁) (id : ℕ) :
    o₁.job? id = o.job? id := by
  obtain ⟨r, n, rfl⟩ := h
  rfl

inductive CommitOutcome (rules : TextRules) (o : Office) (job : StudentImportJob) :
    Except Failure (Office × Option ApiError) → Prop
  | closedPlace (e : ApiError) (h : o.ComesToClosedPlace rules job) :
      CommitOutcome rules o job (.error (.api e))
  | failed (e : Failure) (h : ¬ o.ComesToClosedPlace rules job) (he : ¬ e.Business) :
      CommitOutcome rules o job (.error e)
  | settled (o' : Office) (e : Option ApiError) (h : ¬ o.ComesToClosedPlace rules job)
      (hjob : o'.JobIs job.id ImportJobStatus.Settled) : CommitOutcome rules o job (.ok (o', e))

theorem Office.jobIs_putJob (h : o.job? jobId = some job) (hid : job'.id = job.id)
    {P : ImportJobStatus → Prop} (hP : P job'.status) : (o.putJob job').JobIs job.id P := by
  refine ⟨job', ?_, hP⟩
  rw [Office.job?_id h]
  exact Office.job?_putJob h hid

theorem CommitOutcome.of_saveJob (h : o.job? jobId = some job) (hid : job'.id = job.id)
    (hidle : ¬ job'.Running) (hsettled : job'.status.Settled) {e : ApiError}
    (hclosed : ¬ o.ComesToClosedPlace rules job) :
    CommitOutcome rules o job (o.saveJob job' >>= fun o => pure (o, some e)) := by
  rw [Office.saveJob_idle hidle]
  exact .settled _ _ hclosed (Office.jobIs_putJob h hid hsettled)

theorem commitRows_outcome {year : AcademicYear} (hjob : o.job? jobId = some job)
    (hplaces : o.registry.PlacesCoherent o.nextId) {result : List NormalizedRow × ImportSummary}
    (hmeets : o.ComesToClosedPlace rules job ↔ ¬ o.OtherRunning job ∧ o.checkCapacity (rowsToApply
      result.1) = .ok () ∧ o.registry.MeetsClosed (placedRows (rowsToApply result.1))) :
    CommitOutcome rules o job (do
      let o ← o.saveJob job.underWay
      match o.checkCapacity (rowsToApply result.1) with
      | .error e => do
        let o ← o.saveJob { job with status := .readyForReview, errorCode := e.code }
        pure (o, some e)
      | .ok () => do
        let o ← completeJob today year job result o
        pure (o, none)) := by
  have hrunning : job.underWay.Running := .inr rfl
  have hunder : (o.putJob job.underWay).job? jobId = some job.underWay :=
    Office.job?_putJob hjob rfl
  rcases Office.saveJob_running hrunning with ⟨hsave, halone⟩ | ⟨hsave, hother⟩
  · rw [hsave]
    have halone' : ¬ o.OtherRunning job := halone
    have hcapacity : (o.putJob job.underWay).checkCapacity (rowsToApply result.1) =
        o.checkCapacity (rowsToApply result.1) := rfl
    simp only [bind, Except.bind]
    rw [hcapacity]
    cases hroom : o.checkCapacity (rowsToApply result.1) with
    | error e =>
      have hno : ¬ o.ComesToClosedPlace rules job := by
        rw [hmeets, hroom]
        exact fun hno => nomatch hno.2.1
      have hidle : ¬ StudentImportJob.Running
          { job with status := .readyForReview, errorCode := e.code } := by
        intro hno
        rcases hno with hno | hno <;> exact nomatch hno
      simp only [Office.saveJob_idle hidle]
      refine .settled _ _ hno ?_
      apply Office.jobIs_putJob hunder
      · rfl
      · exact .inr (.inr (.inr rfl))
    | ok _ =>
      have happly : (∃ e, applyRows today year (rowsToApply result.1) (o.putJob job.underWay) =
          .error (.api e)) ↔ o.registry.MeetsClosed (placedRows (rowsToApply result.1)) :=
        applyRows_refused_iff hplaces
      simp only [completeJob]
      cases hrows : applyRows today year (rowsToApply result.1) (o.putJob job.underWay) with
      | error e =>
        simp only [bind, Except.bind]
        by_cases hbusiness : e.Business
        · obtain ⟨a, rfl⟩ := hbusiness
          have hclosed := happly.mp ⟨a, hrows⟩
          exact .closedPlace a (hmeets.mpr ⟨halone', hroom, hclosed⟩)
        · refine .failed e ?_ hbusiness
          intro hno
          obtain ⟨a, ha⟩ := happly.mpr (hmeets.mp hno).2.2
          rw [hrows] at ha
          exact hbusiness ⟨a, Except.error.inj ha⟩
      | ok applied =>
        have hno : ¬ o.ComesToClosedPlace rules job := by
          intro hno
          obtain ⟨a, ha⟩ := happly.mpr (hmeets.mp hno).2.2
          rw [hrows] at ha
          exact nomatch ha
        have hfound : applied.job? jobId = some job.underWay := by
          rw [(applyRows_rewrites hrows).job?, hunder]
        refine .settled _ _ hno ?_
        apply Office.jobIs_putJob hfound
        · rfl
        · exact .inl rfl
  · rw [hsave]
    refine .failed _ ?_ fun ⟨_, hno⟩ => (nomatch hno)
    rw [hmeets]
    exact fun hno => hno.1 hother

theorem commitLocked_outcome {allowImporting : Bool} (hjob : o.job? jobId = some job)
    (hgate : commitGate job allowImporting = .ok ())
    (hplaces : o.registry.PlacesCoherent o.nextId) :
    CommitOutcome rules o job (commitLocked rules today jobId allowImporting o) := by
  have hready : ImportJobStatus.readyForReview.Settled := .inr (.inr (.inr rfl))
  unfold commitLocked
  simp only [hjob, hgate]
  cases hyear : o.year? job.academicYear with
  | none =>
    refine .failed _ ?_ fun ⟨_, hno⟩ => (nomatch hno)
    rintro ⟨year, happlies, -⟩
    rw [happlies.yearFound] at hyear
    exact nomatch hyear
  | some year =>
    have hsame : ∀ year', o.Applies rules job year' → year' = year := by
      intro year' happlies
      exact Option.some.inj (happlies.yearFound.symm.trans hyear)
    simp only
    split
    next hclosed =>
      apply CommitOutcome.of_saveJob hjob
      · rfl
      · exact fun hno => by rcases hno with hno | hno <;> exact nomatch hno
      · exact .inr (.inl rfl)
      · rintro ⟨year', happlies, -⟩
        obtain rfl := hsame year' happlies
        rcases happlies.openYear with hactive | hprepared
        · exact hclosed.1 hactive
        · exact hclosed.2 hprepared
    next hopen =>
      unfold commitCompared
      split
      next hstale =>
        apply CommitOutcome.of_saveJob hjob
        · rfl
        · exact fun hno => by rcases hno with hno | hno <;> exact nomatch hno
        · exact hready
        · rintro ⟨year', happlies, -⟩
          obtain rfl := hsame year' happlies
          exact Bool.false_ne_true (happlies.fresh.symm.trans hstale)
      next hfresh =>
        split
        next hreview =>
          apply CommitOutcome.of_saveJob hjob
          · rfl
          · exact fun hno => by rcases hno with hno | hno <;> exact nomatch hno
          · exact hready
          · rintro ⟨year', happlies, -⟩
            obtain rfl := hsame year' happlies
            rcases hreview with herrors | hduplicates
            · exact herrors happlies.errors
            · exact hduplicates happlies.duplicates
        next hclean =>
          apply commitRows_outcome hjob hplaces
          rw [not_and_or, not_not, Bool.not_eq_true, Bool.not_eq_false] at hopen
          rw [not_or, not_not, not_not] at hclean
          constructor
          · rintro ⟨year', happlies, hmeets⟩
            obtain rfl := hsame year' happlies
            exact ⟨happlies.alone, happlies.capacity, hmeets⟩
          · rintro ⟨halone, hcapacity, hmeets⟩
            exact ⟨year, ⟨hyear, hopen, (Bool.not_eq_true _).mp hfresh, hclean.1, hclean.2, halone,
              hcapacity⟩, hmeets⟩

theorem commitGate_eq (job : StudentImportJob) :
    (job.status = .readyForReview ∨ job.status = .importing) ∧ commitGate job true = .ok () ∨
      ¬ (job.status = .readyForReview ∨ job.status = .importing) ∧
        ∃ e, commitGate job true = .error e := by
  unfold commitGate
  cases job.status <;> simp

theorem failImport_failed (h : o.job? jobId = some job) (hstatus : job.status ≠ .completed)
    (errorCode : String) :
    (failImport jobId errorCode o).JobIs jobId fun status => status = .failed := by
  unfold failImport
  simp only [h, if_neg hstatus]
  refine ⟨{ job with status := .failed, errorCode := errorCode }, ?_, rfl⟩
  exact Office.job?_putJob h rfl

theorem processImportJobTask_left (fields : FieldRules) (rules : TextRules)
    (mapping : ColumnMapping) (file : Except Failure (List (ℕ × RawRow)))
    (h : o.job? jobId = some job) :
    (processImportJobTask fields rules jobId mapping file o).JobIs jobId
      fun status => status ≠ .processing := by
  unfold processImportJobTask
  simp only [h]
  by_cases hstatus : job.status = .processing
  · rw [if_neg (not_not.mpr hstatus)]
    cases file with
    | error e =>
      have hrunning : job.status ≠ .completed := by
        rw [hstatus]
        decide
      obtain ⟨after, hafter, hfailed⟩ := failImport_failed h hrunning e.importCode
      refine ⟨after, hafter, ?_⟩
      rw [hfailed]
      decide
    | ok raw =>
      simp only
      rw [if_pos (previewRows_fit fields rules mapping o job raw)]
      unfold processImportJob
      simp only [h]
      rw [if_neg (not_not.mpr hstatus)]
      refine ⟨_, Office.job?_putJob h rfl, ?_⟩
      exact fun hno => nomatch hno
  · rw [if_pos hstatus]
    exact ⟨job, h, hstatus⟩

theorem commitStudentImportJob_settles_iff (rules : TextRules) (today : Date)
    (h : o.job? jobId = some job) (hplaces : o.registry.PlacesCoherent o.nextId) :
    (commitStudentImportJob rules today jobId o).JobIs jobId ImportJobStatus.Settled ↔
      job.status ≠ .uploaded ∧ job.status ≠ .processing ∧
        (job.status = .importing → ¬ o.ComesToClosedPlace rules job) := by
  have hid := Office.job?_id h
  have hstays : o.JobIs jobId ImportJobStatus.Settled ↔ job.status.Settled := by
    constructor
    · rintro ⟨found, hfound, hsettled⟩
      rw [h] at hfound
      exact Option.some.inj hfound ▸ hsettled
    · exact fun hsettled => ⟨job, h, hsettled⟩
  unfold commitStudentImportJob
  simp only [h]
  by_cases hcompleted : job.status = .completed
  · rw [if_pos hcompleted, hstays]
    simp [ImportJobStatus.Settled, hcompleted]
  · rw [if_neg hcompleted]
    rcases commitGate_eq job with ⟨hstatus, hgate⟩ | ⟨hstatus, e, hgate⟩
    · have houtcome :
          CommitOutcome rules o job (commitLocked rules today jobId true o) :=
        commitLocked_outcome h hgate hplaces
      have hallowed : job.status ≠ .uploaded ∧ job.status ≠ .processing := by
        rcases hstatus with hstatus | hstatus <;> rw [hstatus] <;> decide
      unfold commitImport
      generalize commitLocked rules today jobId true o = result at houtcome
      cases houtcome with
      | closedPlace e hmeets =>
        simp only
        rw [hstays]
        rcases hstatus with hstatus | hstatus
        · simp [ImportJobStatus.Settled, hstatus]
        · simp [ImportJobStatus.Settled, hstatus, hmeets]
      | failed e hno he =>
        obtain ⟨after, hafter, hfailed⟩ := failImport_failed h hcompleted "IMPORT_COMMIT_FAILED"
        have hsettled : (failImport jobId "IMPORT_COMMIT_FAILED" o).JobIs jobId
            ImportJobStatus.Settled := ⟨after, hafter, .inr (.inl hfailed)⟩
        refine ⟨fun _ => ⟨hallowed.1, hallowed.2, fun _ => hno⟩, fun _ => ?_⟩
        cases e with
        | api a => exact absurd ⟨a, rfl⟩ he
        | doesNotExist model => exact hsettled
        | integrityError constraint => exact hsettled
        | dataError column => exact hsettled
        | transactionAborted => exact hsettled
      | settled o' e hno hjob =>
        rw [hid] at hjob
        refine ⟨fun _ => ⟨hallowed.1, hallowed.2, fun _ => hno⟩, fun _ => ?_⟩
        cases e with
        | none => exact hjob
        | some e => exact hjob
    · have hraised : commitLocked rules today jobId true o = .error (.api e) := by
        unfold commitLocked
        simp only [h, hgate]
      unfold commitImport
      rw [hraised]
      simp only
      rw [hstays]
      cases hcase : job.status <;> simp_all [ImportJobStatus.Settled]

/-- **The workers of an import leave no job behind**, except that the commit leaves a job in import
when it comes to a grade or a section that has been deactivated; on a job that nobody has approved
it does nothing. -/
theorem workers_settle_iff (fields : FieldRules) (rules : TextRules) (today : Date)
    (mapping : ColumnMapping) (file : Except Failure (List (ℕ × RawRow))) (o : Office) (jobId : ℕ)
    (job : StudentImportJob) (h : o.job? jobId = some job)
    (hplaces : o.registry.PlacesCoherent o.nextId) :
    ((commitStudentImportJob rules today jobId o).JobIs jobId ImportJobStatus.Settled ∧
      (processImportJobTask fields rules jobId mapping file o).JobIs jobId
        fun status => status ≠ .processing) ↔
    job.status ≠ .uploaded ∧ job.status ≠ .processing ∧
      (job.status = .importing → ¬ o.ComesToClosedPlace rules job) := by
  have hleft := processImportJobTask_left fields rules mapping file h
  rw [and_iff_left hleft]
  exact commitStudentImportJob_settles_iff rules today h hplaces

/-- Texts of cells that are their own normal forms, with identifiers filled up to a digest. -/
def plainFields : FieldRules where
  normalizeText := fun t => t
  normalizeDigits := fun t => t
  normalizeGradeLabel := fun t => (t, t, 1)
  normalizeSectionLabel := fun t => (t, t)
  normalizeGuardianMobile := fun t => t
  normalizeStudentIdentifier := fun t => some t
  nationalIdLookupHash := fun t => String.ofList ((t.toList ++ List.replicate 64 '0').take 64)
  nationalIdLookupHash_length := by
    intro t
    rw [String.length_ofList, List.length_take, List.length_append, List.length_replicate]
    omega

def plainMapping : ColumnMapping
  | .fullName => some 0
  | .grade => some 1
  | .sectionField => some 2
  | .nationalId => some 3
  | _ => none

def approvedOffice : Office :=
  let uploaded := twoYearOffice.after (uploadImport none twoYearOffice)
  let processing := uploaded.after (startProcessing 10 uploaded)
  let ready := processImportJobTask plainFields plainTexts 10 plainMapping
    (.ok [(2, [some "name", some "1", some "1", some "1000000001"])]) processing
  ready.after (approveImport 10 ready)

def approvedJob : StudentImportJob :=
  (approvedOffice.job? 10).getD { id := 10, academicYear := 1 }

theorem workers_settle_iff_approved :
    ((commitStudentImportJob plainTexts 20 10 approvedOffice).JobIs 10 ImportJobStatus.Settled ∧
      (processImportJobTask plainFields plainTexts 10 plainMapping (.ok []) approvedOffice).JobIs 10
        fun status => status ≠ .processing) ↔
    approvedJob.status ≠ .uploaded ∧ approvedJob.status ≠ .processing ∧
      (approvedJob.status = .importing →
        ¬ approvedOffice.ComesToClosedPlace plainTexts approvedJob) :=
  workers_settle_iff plainFields plainTexts 20 plainMapping (.ok []) approvedOffice 10 approvedJob
    (by decide +kernel) ⟨by decide +kernel, by decide +kernel, by decide +kernel⟩

def deactivatedOffice : Office :=
  approvedOffice.setRegistry { approvedOffice.registry with
    sections := approvedOffice.registry.sections.map fun x => { x with isActive := x.id ≠ 2 } }

theorem deactivatedSection_stays_importing :
    ¬ (commitStudentImportJob plainTexts 20 10 deactivatedOffice).JobIs 10
      ImportJobStatus.Settled := by
  rintro ⟨job, hjob, hsettled⟩
  have hstatus : ((commitStudentImportJob plainTexts 20 10 deactivatedOffice).job? 10).map
      (fun j => j.status) = some .importing := by decide +kernel
  rw [hjob] at hstatus
  have himporting : job.status = .importing := Option.some.inj hstatus
  rw [himporting] at hsettled
  exact absurd hsettled (by decide)

end SchoolPlatform
