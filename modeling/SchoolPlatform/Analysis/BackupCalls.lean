import SchoolPlatform.Analysis.BackupSteps

/-!
# What is asked of a backup, and the call that creates it

Two things are followed through the calls on one run. What is stored as succeeded is where its
reference says, whatever fails (`Stored`). A dump that was recorded and is not stored as succeeded
stays in the staging directory and can be retried (`Settled`), as long as no step fails between the
record and the end of the call that would give the run another error code, and no retry loses its
commit after it has removed the staged files. `createDatabaseBackup` establishes both; each of its
parts has its own specification, and `Interrupted` says how a call is left that did not end well.
-/

namespace SchoolPlatform.Operations

open Procedure

variable {name : String} {w : BackupWorld} {t : Instant} {w' : BackupWorld} {e : BackupFailure}

/-- A run that is stored as succeeded has its dump where its reference says. -/
def Stored (w : BackupWorld) : Prop :=
  ∀ r, w.row = some r → r.status = .succeeded →
    ∃ c, w.dumpAt r.storageReference = some c ∧ r.checksum = some (sha256File c)

def KeepsStaging (w : BackupWorld) (r : BackupRun) : Prop :=
  ∃ manifest dump m c, r.manifestName = some manifest ∧ w.files.get? manifest = some m ∧
    m.filename = some dump ∧ dump ≠ manifest ∧ w.files.get? dump = some c ∧
    r.checksum = some (sha256File c)

def HasCopy (w : BackupWorld) (r : BackupRun) : Prop :=
  ∃ key c, w.remote.get? key = some c ∧ r.checksum = some (sha256File c)

def Accepted (site : BackupSite) (w : BackupWorld) : Prop :=
  ∃ call : RetryCall, ∃ run,
    (retryBackupUpload site call.finishedAt call.outcomes w).1 = .ok run ∧ run.status = .succeeded

/-- A recorded dump that is not stored as succeeded is there, and a retry is accepted. -/
def Kept (site : BackupSite) (w : BackupWorld) : Prop :=
  ∀ r, w.row = some r → r.checksum ≠ none → r.status ≠ .succeeded →
    (KeepsStaging w r ∨ HasCopy w r) ∧ Accepted site w

/-- The dump is written, and so is its manifest. -/
def CreateOutcomes.Completes (o : CreateOutcomes) : Prop :=
  (∃ bytes, o.dump = .written bytes) ∧ o.rename = .done ∧ o.checksum = .done ∧ o.size = .done ∧
    o.writeManifest = .written

/-- What follows the manifest is stored, a failed upload included. -/
structure CreateOutcomes.Saves (o : CreateOutcomes) : Prop where
  record : o.saveRecord = .done
  status : o.saveStatus = .done
  unlock : o.unlock = .done
  removePartial : o.removePartial = .done
  failure : o.saveFailure ≠ .failed

/-- A dump that is completed is recorded and what follows is stored, or nothing is recorded. -/
def CreateOutcomes.Harmless (o : CreateOutcomes) : Prop :=
  o.Completes →
    o.Saves ∨ (o.saveRecord = .failed ∧ (o.removePartial ≠ .done ∨ o.saveFailure = .failed))

/-- A retry that loses its commit has removed no staged file. -/
def RetryOutcomes.Harmless (o : RetryOutcomes) : Prop :=
  o.commit = .failed → o.discardDump = .failed ∧ o.discardManifest = .failed

/-- A recorded dump that is not stored as succeeded is staged, and its upload is what failed. -/
def Settled (w : BackupWorld) : Prop :=
  ∀ r, w.row = some r → r.checksum ≠ none → r.status ≠ .succeeded →
    r.status = .failed ∧ r.errorCode = "UPLOAD_FAILED" ∧ KeepsStaging w r

def Unrecorded (w : BackupWorld) : Prop :=
  ∃ r, w.row = some r ∧ r.status = .running ∧ r.checksum = none

/-- A call before its dump is recorded: its object has no checksum either. -/
structure Dumping (t : Instant) (w : BackupWorld) : Prop where
  row : w.row = some { startedAt := t }
  object : w.object = { startedAt := t }

structure Recorded (n : BackupNames) (c : FileContent) (w : BackupWorld) : Prop where
  dump : w.files.get? n.dump = some c
  manifest : ∃ m, w.files.get? n.manifest = some m ∧ m.filename = some n.dump
  checksum : w.object.checksum = some (sha256File c)
  manifestName : w.object.manifestName = some n.manifest
  running : w.object.status = .running
  row : w.row = some w.object

/-- A run that is stored as succeeded has its dump where its reference says, and that is not the
given file. -/
def StoredBesides (name : String) (w : BackupWorld) : Prop :=
  ∀ r, w.row = some r → r.status = .succeeded → r.storageReference ≠ .staged name ∧
    ∃ c, w.dumpAt r.storageReference = some c ∧ r.checksum = some (sha256File c)

/-- How a call is left that did not end well: without a dump, at the upload, or after a step that
had to save something. -/
inductive Interrupted (site : BackupSite) (t : Instant) (o : CreateOutcomes) :
    BackupFailure → BackupWorld → Prop
  | dumping (e : BackupFailure) (w : BackupWorld) (h : Dumping t w) : Interrupted site t o e w
  | uploading (c : FileContent) (e : BackupFailure) (w : BackupWorld) (hdone : o.Completes)
      (hrecord : o.saveRecord = .done) (hcode : e.code = "UPLOAD_FAILED")
      (h : Recorded (site.names t) c w) : Interrupted site t o e w
  | saving (e : BackupFailure) (w : BackupWorld) (hdone : o.Completes)
      (hfault : o.saveRecord = .done → o.saveStatus = .done → o.unlock ≠ .done)
      (hrecord : o.saveRecord = .failed → Unrecorded w)
      (h : StoredBesides (site.partialName t) w) : Interrupted site t o e w

variable {site : BackupSite} {localOnly : Bool} {clock : BackupClock} {o : CreateOutcomes}

theorem StoredBesides.stored (h : StoredBesides name w) : Stored w :=
  fun r hr hsucceeded => (h r hr hsucceeded).2

theorem storedBesides_of_running (h : ∀ r, w.row = some r → r.status = .running) :
    StoredBesides name w := by
  intro r hr hsucceeded
  rw [h r hr] at hsucceeded
  cases hsucceeded

theorem stored_of_running (h : ∀ r, w.row = some r → r.status = .running) : Stored w := by
  have hbesides : StoredBesides "" w := storedBesides_of_running h
  exact hbesides.stored

theorem StoredBesides.removeFile (h : StoredBesides name w) :
    StoredBesides name (w.removeFile name) := by
  intro r hr hsucceeded
  obtain ⟨hne, c, hat, hchecksum⟩ := h r hr hsucceeded
  refine ⟨hne, c, ?_, hchecksum⟩
  cases href : r.storageReference with
  | empty =>
    rw [href] at hat
    exact hat
  | staged other =>
    rw [href] at hat
    have hother : other ≠ name := by
      intro heq
      apply hne
      rw [href, heq]
    exact (get?_removeFile_ne w hother).trans hat
  | remote key =>
    rw [href] at hat
    exact hat

theorem Dumping.unrecorded (h : Dumping t w) : Unrecorded w :=
  ⟨_, h.row, rfl, rfl⟩

theorem Dumping.of_eq (h : Dumping t w) (hrow : w'.row = w.row) (hobject : w'.object = w.object) :
    Dumping t w' :=
  ⟨hrow.trans h.row, hobject.trans h.object⟩

theorem Dumping.putFile (h : Dumping t w) (name : String) (leftover : Option FileContent) :
    Dumping t (leftover.elim w fun c => w.putFile name c) := by
  cases leftover with
  | none => exact h
  | some c => exact h.of_eq rfl rfl

theorem interrupted_of_running (hdone : o.Completes)
    (hfault : o.saveRecord = .done → o.saveStatus = .done → o.unlock ≠ .done)
    (hrecord : o.saveRecord = .failed → Unrecorded w)
    (h : ∀ r, w.row = some r → r.status = .running) : Interrupted site clock.startedAt o e w :=
  .saving e w hdone hfault hrecord (storedBesides_of_running h)

theorem recordDump_spec :
    Ends (Dumping clock.startedAt) (recordDump site clock o)
      (fun _ w => o.Completes ∧ o.saveRecord = .done ∧
        ∃ c, Recorded (site.names clock.startedAt) c w)
      (Interrupted site clock.startedAt o) := by
  intro w hw
  have hearly : ∀ (e : BackupFailure) (w' : BackupWorld), w'.row = w.row → w'.object = w.object →
      Interrupted site clock.startedAt o e w' :=
    fun e w' hrow hobject => .dumping e w' (hw.of_eq hrow hobject)
  unfold recordDump
  cases hdump : o.dump with
  | failed leftover => exact .dumping _ _ (hw.putFile _ leftover)
  | written bytes =>
    refine meets_modify (meets_read (meets_need (fun content _ => ?_) fun _ => hearly _ _ rfl rfl))
    refine meets_step (fun hrename => ?_) (fun _ => hearly _ _ rfl rfl) fun _ => hearly _ _ rfl rfl
    refine meets_readFile (fun c hchecksum hfile => ?_) (hearly _ _ rfl rfl)
    refine meets_look (fun hsize => ?_) fun _ => hearly _ _ rfl rfl
    cases hwrite : o.writeManifest with
    | failed leftover =>
      refine .dumping _ _ ?_
      apply Dumping.putFile
      exact ⟨hw.row, hw.object⟩
    | written =>
      have hcompletes : o.Completes := ⟨⟨bytes, hdump⟩, hrename, hchecksum, hsize, hwrite⟩
      refine meets_modify (meets_modify ?_)
      cases hrecord : o.saveRecord with
      | done =>
        refine ⟨hcompletes, rfl, c, ?_, ⟨.manifest clock.startedAt site.environment site.databaseId
          _ c c.size, ?_, rfl⟩, rfl, rfl, ?_, ?_⟩
        · exact (get?_putFile_ne _ _ (dump_ne_manifest site clock.startedAt).symm).trans hfile
        · exact (get?_putFile _ _ _ _).trans (if_pos rfl)
        · show w.object.status = .running
          rw [hw.object]
        · simp only [BackupWorld.saveRecord, BackupWorld.setObject, BackupWorld.putFile,
            BackupWorld.removeFile, hw.row, hw.object, Option.map_some]
      | failed =>
        refine interrupted_of_running hcompletes (fun h => ?_) (fun _ => ⟨_, hw.row, rfl, rfl⟩) ?_
        · rw [hrecord] at h
          cases h
        · intro r hr
          cases hw.row.symm.trans hr
          rfl
      | failedDone =>
        refine interrupted_of_running hcompletes (fun h => ?_) (fun h => ?_) ?_
        · rw [hrecord] at h
          cases h
        · rw [hrecord] at h
          cases h
        · intro r hr
          obtain ⟨r₀, hr₀, rfl⟩ := Option.map_eq_some_iff.mp hr
          cases hw.row.symm.trans hr₀
          rfl

/-- The object of a call says that it has succeeded, and its dump is where it says, which is not the
given file. -/
def Finished (name : String) (w : BackupWorld) : Prop :=
  w.object.status = .succeeded ∧ w.object.storageReference ≠ .staged name ∧
    ∃ c, w.dumpAt w.object.storageReference = some c ∧ w.object.checksum = some (sha256File c)

theorem Finished.stored (h : Finished name w) (hrow : w.row = some w.object) :
    StoredBesides name w := by
  intro r hr _
  have hobject : w.object = r := Option.some.inj (hrow.symm.trans hr)
  rw [← hobject]
  exact h.2

theorem Finished.of_dumpAt (h : Finished name w) (hobject : w'.object = w.object)
    (hat : w'.dumpAt w.object.storageReference = w.dumpAt w.object.storageReference) :
    Finished name w' := by
  obtain ⟨hstatus, hne, c, hc, hchecksum⟩ := h
  unfold Finished
  rw [hobject, hat]
  exact ⟨hstatus, hne, c, hc, hchecksum⟩

theorem dumpAndUpload_spec :
    Ends (Dumping clock.startedAt) (dumpAndUpload site localOnly clock o)
      (fun run w => (o.Completes ∧ o.saveRecord = .done) ∧ w.row = some run ∧
        run.status = .succeeded ∧ StoredBesides (site.partialName clock.startedAt) w)
      (Interrupted site clock.startedAt o) := by
  unfold dumpAndUpload
  apply recordDump_spec.bind
  rintro _ w₀ ⟨hcompletes, hrecord, c, hw₀⟩
  have hnotFailed : o.saveRecord ≠ .failed := by
    rw [hrecord]
    decide
  have hkeeps : ∀ w, Besides w₀ w → Recorded (site.names clock.startedAt) c w := by
    rintro w ⟨hfiles, hrow, hobject⟩
    obtain ⟨hdump, hmanifest, hchecksum, hname, hrunning, hrow₀⟩ := hw₀
    rw [← hfiles] at hdump hmanifest
    rw [← hobject] at hchecksum hname hrunning hrow₀
    exact ⟨hdump, hmanifest, hchecksum, hname, hrunning, hrow.trans hrow₀⟩
  apply ((placeDump_spec site localOnly o.upload _ hw₀.dump w₀ Besides.rfl).mono (fun _ _ h => h)
    fun e w h => Interrupted.uploading c e w hcompletes hrecord h.2 (hkeeps w h.1)).bind
  rintro reference w ⟨hw, hat, hreference⟩
  have hrecorded := hkeeps w hw
  have hne : reference ≠ .staged (site.partialName clock.startedAt) := by
    rcases hreference with ⟨key, rfl⟩ | ⟨rfl, -⟩
    · intro h
      cases h
    · intro h
      exact partialName_ne_dump site clock.startedAt (StorageReference.staged.inj h).symm
  apply meets_modify
  have hfinished : Finished (site.partialName clock.startedAt) (w.setObject fun r => { r with
      status := .succeeded
      finishedAt := some clock.finishedAt
      storageReference := reference
      durationMs := clock.finishedMs }) := ⟨rfl, hne, c, hat, hrecorded.checksum⟩
  have hfault : ∀ w', o.saveStatus ≠ .done → StoredBesides (site.partialName clock.startedAt) w' →
      Interrupted site clock.startedAt o .other w' :=
    fun w' hstatus hw' => .saving _ w' hcompletes (fun _ h => absurd h hstatus)
      (fun h => absurd h hnotFailed) hw'
  refine meets_step (fun _ => ?_) (fun hstatus => ?_) fun hstatus => ?_
  · have hend : Meets (fun _ w' => Finished (site.partialName clock.startedAt) w' ∧
        w'.row = some w'.object) (Interrupted site clock.startedAt o)
        ((if site.remoteEnabled && !localOnly then
          discardStaging o.discardDump o.discardManifest (site.names clock.startedAt)
          else pure () : BackupProcedure Unit) (w.setObject fun r => { r with
            status := .succeeded
            finishedAt := some clock.finishedAt
            storageReference := reference
            durationMs := clock.finishedMs }).saveObject) := by
      split
      · rename_i hremote
        rcases hreference with ⟨key, rfl⟩ | ⟨-, hlocal⟩
        · refine (discardStaging_spec o.discardDump o.discardManifest _ _ rfl).mono ?_
            fun _ _ h => h.elim
          rintro _ w' ⟨hrow', hobject', hremote', -⟩
          refine ⟨hfinished.of_dumpAt hobject' ?_, hrow'.trans (congrArg some hobject'.symm)⟩
          show w'.remote.get? key = w.remote.get? key
          rw [hremote']
          rfl
        · exact absurd hremote hlocal
      · exact ⟨hfinished.of_dumpAt rfl rfl, rfl⟩
    apply hend.bind
    rintro _ w' ⟨hw', hrow'⟩
    exact ⟨⟨hcompletes, hrecord⟩, hrow', hw'.1, hw'.stored hrow'⟩
  · refine hfault _ (by rw [hstatus]; decide) (storedBesides_of_running fun r hr => ?_)
    cases hrecorded.row.symm.trans hr
    exact hrecorded.running
  · exact hfault _ (by rw [hstatus]; decide) (Finished.stored (hfinished.of_dumpAt rfl rfl) rfl)

/-- What holds of a run after the call that creates it. -/
def Sound (o : CreateOutcomes) (w : BackupWorld) : Prop :=
  Stored w ∧ (o.Harmless → Settled w)

theorem unlock_spec (e : BackupFailure) :
    Ends (Interrupted site clock.startedAt o e) (tryStep o.unlock fun w => w)
      (fun _ => Interrupted site clock.startedAt o e) (Interrupted site clock.startedAt o) := by
  intro w hw
  have hfault : o.unlock ≠ .done → Interrupted site clock.startedAt o .other w := by
    intro hunlock
    cases hw with
    | dumping _ _ h => exact .dumping _ w h
    | uploading c _ _ hdone hrecord hcode h =>
      refine interrupted_of_running hdone (fun _ _ => hunlock) (fun hfailed => ?_) fun r hr => ?_
      · rw [hrecord] at hfailed
        cases hfailed
      · cases h.row.symm.trans hr
        exact h.running
    | saving _ _ hdone hfault hrecord h => exact .saving _ w hdone hfault hrecord h
  exact meets_look_last (fun _ => hw) hfault

theorem Interrupted.removePartial (h : Interrupted site clock.startedAt o e w) :
    Interrupted site clock.startedAt o e (w.removeFile (site.partialName clock.startedAt)) := by
  cases h with
  | dumping _ _ h => exact .dumping e _ (h.of_eq rfl rfl)
  | uploading c _ _ hdone hrecord hcode h =>
    obtain ⟨hdump, ⟨m, hmanifest, hname⟩, hchecksum, hmanifestName, hrunning, hrow⟩ := h
    refine .uploading c e _ hdone hrecord hcode ⟨?_, ⟨m, ?_, hname⟩, hchecksum, hmanifestName,
      hrunning, hrow⟩
    · rw [get?_removeFile_ne w (partialName_ne_dump site clock.startedAt).symm]
      exact hdump
    · rw [get?_removeFile_ne w (partialName_ne_manifest site clock.startedAt).symm]
      exact hmanifest
  | saving _ _ hdone hfault hrecord h => exact .saving e _ hdone hfault hrecord h.removeFile

theorem Interrupted.sound_of_unmarked (h : Interrupted site clock.startedAt o e w)
    (hmark : o.removePartial ≠ .done ∨ o.saveFailure = .failed) : Sound o w := by
  have hsaves : ¬ o.Saves := by
    intro hsaves
    rcases hmark with hremoved | hfailure
    · exact hremoved hsaves.removePartial
    · exact hsaves.failure hfailure
  have hnone : Unrecorded w → Settled w := by
    rintro ⟨r, hrow, -, hnone⟩ r' hr' hchecksum -
    rw [hrow] at hr'
    cases hr'
    exact absurd hnone hchecksum
  cases h with
  | dumping _ _ h =>
    obtain ⟨r, hrow, hrunning, _⟩ := h.unrecorded
    refine ⟨stored_of_running ?_, fun _ => hnone h.unrecorded⟩
    intro r' hr'
    rw [hrow] at hr'
    cases hr'
    exact hrunning
  | uploading c _ _ hdone hrecord _ h =>
    refine ⟨stored_of_running ?_, ?_⟩
    · intro r hr
      rw [h.row] at hr
      cases hr
      exact h.running
    · intro hharmless
      rcases hharmless hdone with hok | ⟨hfailed, -⟩
      · exact absurd hok hsaves
      · rw [hrecord] at hfailed
        cases hfailed
  | saving _ _ hdone _ hrecord h =>
    refine ⟨h.stored, ?_⟩
    intro hharmless
    rcases hharmless hdone with hok | ⟨hfailed, -⟩
    · exact absurd hok hsaves
    · exact hnone (hrecord hfailed)

theorem Interrupted.sound_of_marked (h : Interrupted site clock.startedAt o e w)
    (hremoved : o.removePartial = .done) (hfailure : o.saveFailure ≠ .failed)
    {f : BackupRun → BackupRun} (hstatus : ∀ r, (f r).status = .failed)
    (hcode : ∀ r, (f r).errorCode = e.code) (hchecksum : ∀ r, (f r).checksum = r.checksum)
    (hmanifest : ∀ r, (f r).manifestName = r.manifestName) :
    Sound o (w.setObject f).saveObject := by
  have hrow : ∀ r, (w.setObject f).saveObject.row = some r → r = f w.object :=
    fun r hr => (Option.some.inj hr).symm
  constructor
  · intro r hr hsucceeded
    rw [hrow r hr, hstatus] at hsucceeded
    cases hsucceeded
  · intro hharmless r hr hrecorded _
    rw [hrow r hr] at hrecorded ⊢
    rw [hchecksum] at hrecorded
    refine ⟨hstatus _, ?_⟩
    cases h with
    | dumping _ _ h =>
      rw [h.object] at hrecorded
      exact absurd rfl hrecorded
    | uploading c _ _ _ _ hupload h =>
      obtain ⟨m, hfile, hname⟩ := h.manifest
      refine ⟨(hcode _).trans hupload, (site.names clock.startedAt).manifest,
        (site.names clock.startedAt).dump, m, c, ?_, hfile, hname,
        dump_ne_manifest site clock.startedAt, h.dump, ?_⟩
      · rw [hmanifest]
        exact h.manifestName
      · rw [hchecksum]
        exact h.checksum
    | saving _ _ hdone hfault _ _ =>
      rcases hharmless hdone with hok | ⟨-, hunmarked⟩
      · exact absurd hok.unlock (hfault hok.record hok.status)
      · rcases hunmarked with hnot | hfailed
        · exact absurd hremoved hnot
        · exact absurd hfailed hfailure

theorem Sound.of_eq (h : Sound o w) (hrow : w'.row = w.row) (hfiles : w'.files = w.files)
    (hremote : w'.remote = w.remote) : Sound o w' := by
  have hat : ∀ reference, w'.dumpAt reference = w.dumpAt reference := by
    intro reference
    unfold BackupWorld.dumpAt
    rw [hfiles, hremote]
  unfold Sound Stored Settled KeepsStaging at *
  simp only [hrow, hfiles, hat]
  exact h

theorem recordFailure_spec (e : BackupFailure) :
    Ends (Interrupted site clock.startedAt o e) (recordFailure site clock o e)
      (fun _ _ => False) fun _ => Sound o := by
  intro w hw
  unfold recordFailure
  refine meets_step (fun hremoved => meets_modify ?_)
    (fun h => hw.sound_of_unmarked (.inl (by rw [h]; decide)))
    fun h => hw.removePartial.sound_of_unmarked (.inl (by rw [h]; decide))
  have hmarked := hw.removePartial.sound_of_marked (f := fun r => { r with
    status := .failed
    finishedAt := some clock.failedAt
    durationMs := clock.failedMs
    errorCode := e.code }) hremoved
  refine meets_step (fun h => ?_) (fun h => ?_) fun h => ?_
  · exact hmarked (by rw [h]; decide) (fun _ => rfl) (fun _ => rfl) (fun _ => rfl) fun _ => rfl
  · exact (hw.removePartial.sound_of_unmarked (.inr h)).of_eq rfl rfl rfl
  · exact hmarked (by rw [h]; decide) (fun _ => rfl) (fun _ => rfl) (fun _ => rfl) fun _ => rfl

theorem createDatabaseBackup_spec :
    Ends (fun w => w.row = none) (createDatabaseBackup site localOnly clock o)
      (fun _ => Sound o) fun _ => Sound o := by
  intro w hw
  have hdumping : ∀ w, Dumping clock.startedAt w → Sound o w := by
    intro w hw
    refine ⟨stored_of_running fun r hr => ?_, fun _ r hr hchecksum => ?_⟩
    · cases hw.row.symm.trans hr
      rfl
    · cases hw.row.symm.trans hr
      exact absurd rfl hchecksum
  unfold createDatabaseBackup
  refine meets_step (fun _ => ?_) (fun _ => ?_) fun _ => hdumping _ ⟨rfl, rfl⟩
  · refine meets_look (fun _ => ?_) fun _ => hdumping _ ⟨rfl, rfl⟩
    refine Meets.attempt (M := Interrupted site clock.startedAt o) ?_ fun e w hw =>
      (recordFailure_spec e w hw).mono (fun _ _ h => h.elim) fun _ _ h => h
    have hlock : Ends (Dumping clock.startedAt) (acquireLock o.lock)
        (fun _ => Dumping clock.startedAt) (Interrupted site clock.startedAt o) := by
      intro w hw
      cases o.lock with
      | taken => exact hw
      | busy => exact .dumping _ w hw
      | failed => exact .dumping _ w hw
    refine (hlock _ ⟨rfl, rfl⟩).bind fun _ w hw =>
      (dumpAndUpload_spec w hw).andFinally (fun run => ?_) unlock_spec
    rintro w ⟨⟨hdone, hrecord⟩, hrow, hsucceeded, hstored⟩
    refine meets_look_last (fun _ => ⟨hstored.stored, fun _ r hr _ hnot => ?_⟩)
      fun hunlock => .saving _ w hdone (fun _ _ => hunlock) (fun hfailed => ?_) hstored
    · cases hrow.symm.trans hr
      exact absurd hsucceeded hnot
    · rw [hrecord] at hfailed
      cases hfailed
  · constructor
    · intro r hr
      cases hw.symm.trans hr
    · intro _ r hr
      cases hw.symm.trans hr

end SchoolPlatform.Operations
