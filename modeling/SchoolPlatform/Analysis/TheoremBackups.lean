import SchoolPlatform.Analysis.BackupCalls

/-!
# A finished dump is not lost

The invariants of the calls, taken through a whole run: one call that creates a backup and any
number of retries, with any outcome of each of their steps.
-/

/-! ## Retries of an upload -/

namespace SchoolPlatform.Operations

open Procedure

variable {w : BackupWorld} {c : FileContent} {n : BackupNames} {m : FileContent} {r : BackupRun}

theorem verifyChecksum_spec (o : Outcome) (name : String) (expected : Option (Digest FileContent)) :
    Meets (fun _ w' => (∃ c, w.files.get? name = some c ∧ expected = some (sha256File c)) ∧ w = w')
      (fun _ w' => w = w') (verifyChecksum o name expected w) := by
  unfold verifyChecksum
  refine meets_readFile (fun dump _ hfile => ?_) rfl
  split_ifs with hchecksum
  · exact ⟨⟨dump, hfile, hchecksum⟩, rfl⟩
  · exact rfl

/-- A world that a retry leaves: the row is as it was, or the run has succeeded and its dump is in
the repository. -/
def Retried (w₀ : BackupWorld) (o : RetryOutcomes) (run : BackupRun) (w : BackupWorld) : Prop :=
  w.row = some run ∧ run.status = .succeeded ∧
    (w = w₀ ∨
      (∃ r, w₀.row = some r ∧ r.status = .failed) ∧
      (∃ key c, run.storageReference = .remote key ∧ w.remote.get? key = some c ∧
        run.checksum = some (sha256File c)) ∧
      (o.discardDump = .failed → o.discardManifest = .failed → w.files = w₀.files))

/-- A retry that fails leaves the files, and what is stored of a run that has succeeded. -/
def Refused (w₀ w : BackupWorld) : Prop :=
  w.files = w₀.files ∧ (w.remote = w₀.remote ∨ ∃ r, w₀.row = some r ∧ r.status = .failed)

theorem retryUpload_spec (site : BackupSite) (finishedAt : Instant) (o : RetryOutcomes)
    (w₀ : BackupWorld) :
    Meets (Retried w₀ o) (fun _ => Refused w₀) (retryUpload site finishedAt o w₀) := by
  have hsame : Refused w₀ w₀ := ⟨rfl, .inl rfl⟩
  unfold retryUpload
  refine meets_look (fun _ => ?_) fun _ => hsame
  refine meets_look (fun _ => ?_) fun _ => hsame
  refine meets_look (fun _ => meets_read ?_) fun _ => hsame
  refine meets_need (fun run hrun => ?_) fun _ => hsame
  split_ifs with hsucceeded hrefused
  · exact ⟨hrun, hsucceeded, .inl rfl⟩
  · exact hsame
  have hfailed : ∃ r, w₀.row = some r ∧ r.status = .failed := by
    refine ⟨run, hrun, ?_⟩
    by_contra hnot
    apply hrefused
    simp [hnot]
  refine meets_look (fun _ => meets_read ?_) fun _ => hsame
  refine meets_need (fun manifestName _ => ?_) fun _ => hsame
  refine meets_readFile (fun manifest _ _ => ?_) hsame
  refine meets_need (fun dumpName _ => ?_) fun _ => hsame
  refine meets_look (fun _ => meets_read ?_) fun _ => hsame
  split
  · exact hsame
  have hverify := verifyChecksum_spec (w := w₀) o.checksum dumpName run.checksum
  refine (hverify.mono (fun _ _ h => h) fun e w (h : w₀ = w) => h ▸ hsame).bind ?_
  rintro _ _ ⟨⟨c, hdump, hchecksum⟩, rfl⟩
  have hrefused' : ∀ w : BackupWorld, w.files = w₀.files → Refused w₀ w :=
    fun w hfiles => ⟨hfiles, .inr hfailed⟩
  have hupload := uploadBackup_spec o.upload (site.keys run.startedAt dumpName manifestName) w₀
    Besides.rfl
  refine (hupload.mono (fun _ _ h => h) fun e w h => hrefused' w h.1.files).bind ?_
  rintro key w ⟨hw, c', hc', hkey⟩
  have hdump' : some c' = some c := by
    rw [← hc', hw.files]
    exact hdump
  cases hdump'
  refine meets_step (fun _ => ?_) (fun _ => hrefused' w hw.files) fun _ => hrefused' _ hw.files
  refine ((discardStaging_spec o.discardDump o.discardManifest
    (site.keys run.startedAt dumpName manifestName) _ rfl).mono (fun _ _ h => h)
    fun _ _ h => h.elim).bind ?_
  rintro _ w' ⟨hrow', -, hremote', hfiles'⟩
  refine ⟨hrow', rfl, .inr ⟨hfailed, ⟨key, c, rfl, ?_, hchecksum⟩, fun hd hm => ?_⟩⟩
  · rw [hremote']
    exact hkey
  · exact (hfiles' hd hm).trans hw.files

theorem Settled.of_eq {w' : BackupWorld} (h : Settled w) (hrow : w'.row = w.row)
    (hfiles : w'.files = w.files) : Settled w' := by
  unfold Settled KeepsStaging at *
  rw [hrow, hfiles]
  exact h

theorem settled_of_succeeded {run : BackupRun} (hrow : w.row = some run)
    (hsucceeded : run.status = .succeeded) : Settled w := by
  intro r hr _ hnot
  rw [hrow] at hr
  cases hr
  exact absurd hsucceeded hnot

theorem stored_of_failed (h : ∃ r, w.row = some r ∧ r.status = .failed) : Stored w := by
  obtain ⟨run, hrow, hfailed⟩ := h
  intro r hr hsucceeded
  rw [hrow] at hr
  cases hr
  rw [hfailed] at hsucceeded
  cases hsucceeded

theorem Retried.stored {w₀ : BackupWorld} {o : RetryOutcomes} {run : BackupRun}
    (h : Retried w₀ o run w) (h₀ : Stored w₀) : Stored w := by
  obtain ⟨hrow, -, rfl | ⟨-, ⟨key, c, hreference, hkey, hchecksum⟩, -⟩⟩ := h
  · exact h₀
  · intro r hr _
    rw [hrow] at hr
    cases hr
    rw [hreference]
    exact ⟨c, hkey, hchecksum⟩

theorem stored_retry (site : BackupSite) (finishedAt : Instant) (o : RetryOutcomes) :
    Ends Stored (retryBackupUpload site finishedAt o) (fun _ => Stored) fun _ => Stored := by
  intro w₀ h₀
  refine meets_transaction (retryUpload_spec site finishedAt o w₀) ?_ ?_ ?_ ?_
  · intro _ run w h
    exact h.stored h₀
  · rintro - run w ⟨-, -, rfl | ⟨hfailed, -⟩⟩
    · exact h₀
    · exact stored_of_failed hfailed
  · intro _ run w h
    exact h.stored h₀
  · rintro e w ⟨hfiles, hremote | hfailed⟩
    · intro r hr hsucceeded
      obtain ⟨c, hc, hchecksum⟩ := h₀ r hr hsucceeded
      refine ⟨c, ?_, hchecksum⟩
      unfold BackupWorld.dumpAt
      rw [hfiles, hremote]
      exact hc
    · exact stored_of_failed hfailed

theorem settled_retry (site : BackupSite) (finishedAt : Instant) {o : RetryOutcomes}
    (ho : o.Harmless) :
    Ends Settled (retryBackupUpload site finishedAt o) (fun _ => Settled) fun _ => Settled := by
  intro w₀ h₀
  refine meets_transaction (retryUpload_spec site finishedAt o w₀) ?_ ?_ ?_ ?_
  · rintro - run w ⟨hrow, hsucceeded, -⟩
    exact settled_of_succeeded hrow hsucceeded
  · rintro hcommit run w ⟨-, -, rfl | ⟨-, -, hfiles⟩⟩
    · exact h₀
    · obtain ⟨hdump, hmanifest⟩ := ho hcommit
      exact h₀.of_eq rfl (hfiles hdump hmanifest)
  · rintro - run w ⟨hrow, hsucceeded, -⟩
    exact settled_of_succeeded hrow hsucceeded
  · rintro e w ⟨hfiles, -⟩
    exact h₀.of_eq rfl hfiles

theorem afterRetries_keeps {I : BackupWorld → Prop} {site : BackupSite} {retries : List RetryCall}
    (hstep : ∀ call ∈ retries, Ends I (retryBackupUpload site call.finishedAt call.outcomes) (fun
      _ => I) fun _ => I) (hw : I w) : I (afterRetries site w retries) := by
  unfold afterRetries
  induction retries generalizing w with
  | nil => exact hw
  | cons call retries ih =>
    apply ih
    · intro call' hcall'
      exact hstep call' (List.mem_cons_of_mem _ hcall')
    · exact (hstep call List.mem_cons_self).after hw

/-- No step of the upload fails, and the repository stores what it is given under the key that was
asked for. -/
def faithfulUpload (n : BackupNames) (c m : FileContent) : UploadOutcomes where
  saveDump := .stored n.dumpKey c
  saveManifest := .stored n.manifestKey m

theorem readFile_ok {name : String} (h : w.files.get? name = some c) :
    readFile .done name w = (.ok c, w) := by
  show Procedure.need (w.files.get? name) _ w = _
  rw [h]
  rfl

theorem openRemote_ok {key : String} (h : w.remote.get? key = some c) :
    openRemote .done key w = (.ok c, w) := by
  show Procedure.need (w.remote.get? key) _ w = _
  rw [h]
  rfl

theorem uploadedBackupMatches_ok {k : String} {x y : FileContent}
    (hdump : w.files.get? n.dump = some c) (hmanifest : w.files.get? n.manifest = some m)
    (hx : w.remote.get? k = some x) (hy : w.remote.get? n.manifestKey = some y) :
    uploadedBackupMatches {} k n.manifestKey n.dump n.manifest w =
      (.ok (decide (x = c ∧ y = m)), w) := by
  unfold uploadedBackupMatches
  rw [Procedure.bind_eq, bind_ok (openRemote_ok hx), Procedure.bind_eq, bind_ok (readFile_ok hdump)]
  split_ifs with hne
  · have hxc : x ≠ c := fun h => hne (congrArg sha256File h)
    simp [hxc, ret]
  · rw [Procedure.bind_eq, bind_ok (openRemote_ok hy), Procedure.bind_eq,
      bind_ok (readFile_ok hmanifest)]
    have hxc : x = c := sha256File_inj (not_not.mp hne)
    simp [hxc, ret]

theorem get?_putRemote (w : BackupWorld) (key other : String) (c : FileContent) :
    (w.putRemote key c).remote.get? other = if key = other then some c else w.remote.get? other :=
  Dict.get?_insert w.remote key other c

theorem removeRemote_ok (c : Prop) [Decidable c] (key : String) (w : BackupWorld) :
    Meets (fun _ w' => w'.files = w.files) (fun _ _ => False)
      (tryStep (if c then .done else .done) (fun w => if c then w.removeRemote key else w) w) := by
  rw [ite_self]
  show (if c then w.removeRemote key else w).files = w.files
  split <;> rfl

theorem uploadFiles_ok (hne : n.dumpKey ≠ n.manifestKey) (hdump : w.files.get? n.dump = some c)
    (hmanifest : w.files.get? n.manifest = some m) :
    Meets (fun _ _ => True) (fun _ _ => False) (uploadFiles (faithfulUpload n c m) n w) := by
  unfold uploadFiles
  refine meets_of_ok rfl (meets_read (meets_of_ok rfl (meets_read ?_)))
  have hadopted : Meets (fun _ w' => w = w') (fun _ _ => False)
      ((if (w.remote.get? n.dumpKey).isSome && (w.remote.get? n.manifestKey).isSome then
          uploadedBackupMatches {} n.dumpKey n.manifestKey n.dump n.manifest
        else pure false : BackupProcedure Bool) w) := by
    split_ifs with hexist
    · rw [Bool.and_eq_true, Option.isSome_iff_exists, Option.isSome_iff_exists] at hexist
      obtain ⟨⟨x, hx⟩, ⟨y, hy⟩⟩ := hexist
      rw [uploadedBackupMatches_ok hdump hmanifest hx hy]
      rfl
    · rfl
  apply hadopted.bind
  rintro adopted _ rfl
  cases adopted with
  | true => trivial
  | false =>
    apply (removeRemote_ok _ n.dumpKey w).bind
    intro _ w₁ hw₁
    apply (removeRemote_ok _ n.manifestKey w₁).bind
    intro _ w₂ hw₂
    have hfiles : w₂.files = w.files := hw₂.trans hw₁
    refine meets_of_ok rfl (meets_of_ok rfl (meets_modify (meets_of_ok rfl (meets_of_ok rfl ?_))))
    have hverified := uploadedBackupMatches_ok (n := n) (k := n.dumpKey) (c := c) (m := m)
      (x := c) (y := m) (w := ({ w₂.putRemote n.dumpKey c with
        storedDumpKey := n.dumpKey } : BackupWorld).putRemote n.manifestKey m)
      (by rw [← hdump, ← hfiles]; rfl) (by rw [← hmanifest, ← hfiles]; rfl)
      (by simp [get?_putRemote, hne.symm]) (by simp [get?_putRemote])
    refine meets_of_ok hverified ?_
    rw [if_pos (by simp)]
    trivial

theorem uploadBackup_ok (hne : n.dumpKey ≠ n.manifestKey) (hdump : w.files.get? n.dump = some c)
    (hmanifest : w.files.get? n.manifest = some m) :
    Meets (fun _ _ => True) (fun _ _ => False) (uploadBackup (faithfulUpload n c m) n w) := by
  unfold uploadBackup
  have hfiles := uploadFiles_ok (w := { w with storedDumpKey := n.dumpKey }) hne hdump hmanifest
  exact meets_modify (hfiles.attempt fun _ _ h => h.elim)

theorem dumpKey_ne_manifestKey {site : BackupSite} (t : Instant) {dump manifest : String}
    (hne : dump ≠ manifest) :
    (site.keys t dump manifest).dumpKey ≠ (site.keys t dump manifest).manifestKey := by
  intro h
  exact hne ((String.append_right_inj _).mp h)

def faithfulRetry (n : BackupNames) (c m : FileContent) : RetryOutcomes where
  upload := faithfulUpload n c m

theorem retryUpload_ok (site : BackupSite) (finishedAt : Instant) {w₀ : BackupWorld}
    {dump manifest : String} (hrow : w₀.row = some r) (hfailed : r.status = .failed)
    (hcode : r.errorCode = "UPLOAD_FAILED") (hmanifestName : r.manifestName = some manifest)
    (hm : w₀.files.get? manifest = some m) (hdumpName : m.filename = some dump)
    (hne : dump ≠ manifest) (hc : w₀.files.get? dump = some c)
    (hchecksum : r.checksum = some (sha256File c)) :
    Meets (fun run _ => run.status = .succeeded) (fun _ _ => False)
      (retryUpload site finishedAt (faithfulRetry (site.keys r.startedAt dump manifest) c m) w₀) := by
  have hneed : ∀ {α β : Type} {a : Option α} {x : α} {e : BackupFailure} {w : BackupWorld}
      {g : α → BackupProcedure β} {R : β → BackupWorld → Prop} {E : BackupFailure → BackupWorld → Prop},
      a = some x → Meets R E (g x w) → Meets R E ((Procedure.need a e).bind g w) := by
    rintro α β _ x e w g R E rfl h
    exact h
  unfold retryUpload
  refine meets_of_ok rfl (meets_of_ok rfl (meets_of_ok rfl (meets_read (hneed hrow ?_))))
  rw [if_neg (by rw [hfailed]; decide), if_neg (by simp [hfailed, hcode])]
  refine meets_of_ok rfl (meets_read (hneed (x := manifest) ?_ ?_))
  · rw [hmanifestName, Option.bind_some, hm]
    rfl
  refine meets_of_ok (readFile_ok hm) (hneed hdumpName (meets_of_ok rfl (meets_read ?_)))
  rw [hc, if_neg (by simp)]
  have hverify : verifyChecksum .done dump r.checksum w₀ = (.ok (), w₀) := by
    unfold verifyChecksum
    rw [Procedure.bind_eq, bind_ok (readFile_ok hc), if_pos hchecksum]
    rfl
  refine meets_of_ok hverify ?_
  refine (uploadBackup_ok (dumpKey_ne_manifestKey r.startedAt hne) hc hm).bind fun key w _ => ?_
  refine meets_of_ok rfl ((discardStaging_spec .done .done _ _ rfl).bind fun _ _ _ => ?_)
  rfl

theorem accepted_of_settled (site : BackupSite) (h : Settled w) (hrow : w.row = some r)
    (hrecorded : r.checksum ≠ none) (hnot : r.status ≠ .succeeded) : Accepted site w := by
  obtain ⟨hfailed, hcode, manifest, dump, m, c, hmanifestName, hm, hdumpName, hne, hc,
    hchecksum⟩ := h r hrow hrecorded hnot
  have hretry := retryUpload_ok site 0 hrow hfailed hcode hmanifestName hm hdumpName hne hc
    hchecksum
  refine ⟨⟨0, faithfulRetry (site.keys r.startedAt dump manifest) c m⟩, ?_⟩
  have hcall : Meets (fun run _ => run.status = .succeeded) (fun _ _ => False)
      (retryBackupUpload site 0 (faithfulRetry (site.keys r.startedAt dump manifest) c m) w) := by
    refine meets_transaction hretry (fun _ _ _ h => h) ?_ ?_ fun _ _ h => h
    · intro hcommit
      cases hcommit
    · intro hcommit
      cases hcommit
  exact hcall.returns

theorem not_accepted (site : BackupSite) (hrow : w.row = some r) (hnot : r.status ≠ .succeeded)
    (hrefused : r.errorCode ≠ "UPLOAD_FAILED" ∨ ∀ name, r.manifestName = some name → w.files.get?
      name = none) : ¬ Accepted site w := by
  rintro ⟨call, run, hok, -⟩
  have hupload : Meets (fun _ _ => False) (fun _ _ => True)
      (retryUpload site call.finishedAt call.outcomes w) := by
    unfold retryUpload
    refine meets_look (fun _ => ?_) fun _ => trivial
    refine meets_look (fun _ => ?_) fun _ => trivial
    refine meets_look (fun _ => meets_read ?_) fun _ => trivial
    refine meets_need (fun r' hr' => ?_) fun _ => trivial
    cases hrow.symm.trans hr'
    rw [if_neg hnot]
    split_ifs with hadmitted
    · trivial
    · have hcode : r.errorCode = "UPLOAD_FAILED" := by
        by_contra hne
        exact hadmitted (by simp [hne])
      have hmissing := hrefused.resolve_left (not_not.mpr hcode)
      refine meets_look (fun _ => meets_read (meets_need (fun name hfound => ?_) fun _ => trivial))
        fun _ => trivial
      obtain ⟨name', hname, hfound⟩ := Option.bind_eq_some_iff.mp hfound
      rw [hmissing name' hname] at hfound
      cases hfound
  have hcall : Meets (fun _ _ => False) (fun _ _ => True)
      (retryBackupUpload site call.finishedAt call.outcomes w) :=
    meets_transaction hupload (fun _ _ _ h => h) (fun _ _ _ _ => trivial) (fun _ _ _ _ => trivial)
      fun _ _ _ => trivial
  cases h : retryBackupUpload site call.finishedAt call.outcomes w with
  | mk result w' =>
    rw [h] at hcall hok
    cases hok
    exact hcall

/-- Whatever fails, a run that is stored as succeeded has its dump where its reference says; and
after calls whose late steps did not fail, a dump that is recorded and not stored as succeeded is
staged and can be retried. -/
theorem finished_dump_kept (site : BackupSite) (w : BackupWorld) (localOnly : Bool)
    (clock : BackupClock) (o : CreateOutcomes) (retries : List RetryCall) :
    let created := (createDatabaseBackup site localOnly clock o { w with row := none }).2
    Stored (afterRetries site created retries) ∧
      (o.Harmless → (∀ call ∈ retries, call.outcomes.Harmless) →
        Kept site (afterRetries site created retries)) := by
  intro created
  have hspec : Procedure.Ends (fun w => w.row = none)
      (createDatabaseBackup site localOnly clock o) (fun _ => Sound o) fun _ => Sound o :=
    createDatabaseBackup_spec
  have hcreated : Sound o created := hspec.after rfl
  constructor
  · apply afterRetries_keeps _ hcreated.1
    intro call _
    exact stored_retry site call.finishedAt call.outcomes
  · intro ho hretries
    have hsettled : Settled (afterRetries site created retries) := by
      apply afterRetries_keeps _ (hcreated.2 ho)
      intro call hcall
      exact settled_retry site call.finishedAt (hretries call hcall)
    intro r hr hrecorded hnot
    obtain ⟨-, -, hstaging⟩ := hsettled r hr hrecorded hnot
    exact ⟨.inl hstaging, accepted_of_settled site hsettled hr hrecorded hnot⟩

def nightlySite : BackupSite where
  environment := "production"
  databaseId := "school"
  remoteEnabled := true
  requireRemote := true
  timestamp := fun _ => "20260927T030000000000Z"
  month := fun _ => "2026/09"

def nightlyClock : BackupClock where
  startedAt := 0
  finishedAt := 60
  failedAt := 60
  dumpedMs := 40000
  finishedMs := 60000
  failedMs := 60000

def nightlyDump : FileContent := .data [80, 71, 68, 77, 80]

def nightlyManifest : FileContent :=
  .manifest 0 "production" "school" (nightlySite.names 0).dump nightlyDump 5

def uploadRefused : CreateOutcomes where
  dump := .written [80, 71, 68, 77, 80]
  upload := { saveDump := .failed [], saveManifest := .failed [] }

def lostCommit (discardDump discardManifest : Outcome) : RetryCall where
  finishedAt := 120
  outcomes :=
    { faithfulRetry (nightlySite.names 0) nightlyDump nightlyManifest with
      discardDump := discardDump
      discardManifest := discardManifest
      commit := .failed }

/-- A retry loses its commit, but the staged files could not be removed. -/
theorem uploadRefused_kept :
    Kept nightlySite (afterRetries nightlySite
      (createDatabaseBackup nightlySite false nightlyClock uploadRefused { row := none }).2
      [lostCommit .failed .failed]) := by
  have hcreated : uploadRefused.Harmless := by
    intro _
    exact .inl ⟨rfl, rfl, rfl, rfl, by decide⟩
  have hretries : ∀ call ∈ [lostCommit .failed .failed], call.outcomes.Harmless := by
    intro call hcall _
    rw [List.mem_singleton] at hcall
    rw [hcall]
    exact ⟨rfl, rfl⟩
  exact (finished_dump_kept nightlySite {} false nightlyClock uploadRefused
    [lostCommit .failed .failed]).2 hcreated hretries

def nightlyRun (errorCode : String) (storageReference : StorageReference) : BackupRun where
  status := .failed
  startedAt := 0
  finishedAt := some 60
  sizeBytes := 5
  checksum := some (sha256File nightlyDump)
  storageReference := storageReference
  errorCode := errorCode
  durationMs := 60000
  manifestName := some (nightlySite.names 0).manifest

def unlockFails : CreateOutcomes where
  dump := .written [80, 71, 68, 77, 80]
  upload := faithfulUpload (nightlySite.names 0) nightlyDump nightlyManifest
  unlock := .failed

/-- A retry that loses its commit has removed the staged files, and no later retry is accepted; nor
is one after a call that could not give its lock back. -/
theorem lostCommit_not_kept :
    ¬ Kept nightlySite (afterRetries nightlySite
        (createDatabaseBackup nightlySite false nightlyClock uploadRefused { row := none }).2
        [lostCommit .done .done]) ∧
      ¬ Kept nightlySite (afterRetries nightlySite
        (createDatabaseBackup nightlySite false nightlyClock unlockFails { row := none }).2
        []) := by
  constructor
  · intro hkept
    have hrow : (afterRetries nightlySite
        (createDatabaseBackup nightlySite false nightlyClock uploadRefused { row := none }).2
        [lostCommit .done .done]).row = some (nightlyRun "UPLOAD_FAILED" .empty) := by
      decide +kernel
    have hfiles : (afterRetries nightlySite
        (createDatabaseBackup nightlySite false nightlyClock uploadRefused { row := none }).2
        [lostCommit .done .done]).files = [] := by
      decide +kernel
    obtain ⟨-, haccepted⟩ := hkept _ hrow (by decide) (by decide)
    refine not_accepted nightlySite hrow (by decide) (.inr ?_) haccepted
    intro name _
    rw [hfiles]
    rfl
  · intro hkept
    have hrow : (afterRetries nightlySite
        (createDatabaseBackup nightlySite false nightlyClock unlockFails { row := none }).2
        []).row = some (nightlyRun "PG_DUMP_FAILED"
          (.remote (nightlySite.names 0).dumpKey)) := by
      decide +kernel
    obtain ⟨-, haccepted⟩ := hkept _ hrow (by decide) (by decide)
    exact not_accepted nightlySite hrow (by decide) (.inl (by decide)) haccepted

end SchoolPlatform.Operations
