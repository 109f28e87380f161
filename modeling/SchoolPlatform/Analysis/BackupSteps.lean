import SchoolPlatform.Model.Backups

/-!
# What the steps of a backup do

One specification for each part of a call, from the reads of single files to the upload: an upload
changes nothing but the repository, and it returns a key only when the object under it has been read
back and is the dump.
-/

namespace SchoolPlatform.Operations

open Procedure

theorem get?_putFile (w : BackupWorld) (name other : String) (c : FileContent) :
    (w.putFile name c).files.get? other = if name = other then some c else w.files.get? other :=
  Dict.get?_insert w.files name other c

theorem get?_removeFile (w : BackupWorld) (name other : String) :
    (w.removeFile name).files.get? other = if other ≠ name then w.files.get? other else none :=
  Dict.get?_filter_key (fun k => k ≠ name) w.files other

theorem get?_putFile_ne (w : BackupWorld) {name other : String} (c : FileContent)
    (h : name ≠ other) : (w.putFile name c).files.get? other = w.files.get? other := by
  rw [get?_putFile, if_neg h]

theorem get?_removeFile_ne (w : BackupWorld) {name other : String} (h : other ≠ name) :
    (w.removeFile name).files.get? other = w.files.get? other := by
  rw [get?_removeFile, if_pos h]

theorem sha256File_inj {a b : FileContent} (h : sha256File a = sha256File b) : a = b :=
  congrArg Digest.payload h

section Reads

variable {α : Type} {R : α → BackupWorld → Prop} {E : BackupFailure → BackupWorld → Prop}
  {g : FileContent → BackupProcedure α} {w : BackupWorld} {o : Outcome}

theorem meets_readFile {name : String}
    (hnext : ∀ c, o = .done → w.files.get? name = some c → Meets R E (g c w))
    (herror : E .other w) : Meets R E ((readFile o name).bind g w) := by
  have hread : Meets (fun c w' => o = .done ∧ w.files.get? name = some c ∧ w' = w)
      (fun e w' => e = .other ∧ w' = w) (readFile o name w) := by
    refine meets_look (fun hdone => meets_read ?_) fun _ => ⟨rfl, rfl⟩
    cases hfound : w.files.get? name with
    | none => exact ⟨rfl, rfl⟩
    | some c => exact ⟨hdone, rfl, rfl⟩
  refine (hread.mono (fun _ _ h => h) ?_).bind ?_
  · rintro _ _ ⟨rfl, rfl⟩
    exact herror
  · rintro c _ ⟨hdone, hfile, rfl⟩
    exact hnext c hdone hfile

theorem meets_openRemote {key : String}
    (hnext : ∀ c, w.remote.get? key = some c → Meets R E (g c w)) (herror : E .other w) :
    Meets R E ((openRemote o key).bind g w) := by
  have hread : Meets (fun c w' => w.remote.get? key = some c ∧ w' = w)
      (fun e w' => e = .other ∧ w' = w) (openRemote o key w) := by
    refine meets_look (fun _ => meets_read ?_) fun _ => ⟨rfl, rfl⟩
    cases hfound : w.remote.get? key with
    | none => exact ⟨rfl, rfl⟩
    | some c => exact ⟨rfl, rfl⟩
  refine (hread.mono (fun _ _ h => h) ?_).bind ?_
  · rintro _ _ ⟨rfl, rfl⟩
    exact herror
  · rintro c _ ⟨hobject, rfl⟩
    exact hnext c hobject

end Reads

structure Besides (w₀ w : BackupWorld) : Prop where
  files : w.files = w₀.files
  row : w.row = w₀.row
  object : w.object = w₀.object

theorem Besides.rfl {w : BackupWorld} : Besides w w := ⟨Eq.refl _, Eq.refl _, Eq.refl _⟩

def Uploaded (n : BackupNames) (key : String) (w : BackupWorld) : Prop :=
  ∃ c, w.files.get? n.dump = some c ∧ w.remote.get? key = some c

variable {w₀ : BackupWorld}

theorem uploadedBackupMatches_spec (o : MatchOutcomes) (key : String) (n : BackupNames) :
    Ends (Besides w₀) (uploadedBackupMatches o key n.manifestKey n.dump n.manifest)
      (fun b w => Besides w₀ w ∧ (b = true → Uploaded n key w)) fun _ => Besides w₀ := by
  intro w hw
  unfold uploadedBackupMatches
  refine meets_openRemote (fun uploaded hremote => ?_) hw
  refine meets_readFile (fun dump _ hfile => ?_) hw
  split_ifs with hdump
  · exact ⟨hw, fun h => by cases h⟩
  · refine meets_openRemote (fun uploadedManifest _ => ?_) hw
    refine meets_readFile (fun manifest _ _ => ?_) hw
    rw [sha256File_inj (not_not.mp hdump)] at hremote
    exact ⟨hw, fun _ => ⟨dump, hfile, hremote⟩⟩

theorem saveRemote_spec (o : SaveOutcome) :
    Ends (Besides w₀) (saveRemote o) (fun _ => Besides w₀) fun _ => Besides w₀ := by
  rintro w ⟨hfiles, hrow, hobject⟩
  cases o with
  | stored key content => exact ⟨hfiles, hrow, hobject⟩
  | failed remote => exact ⟨hfiles, hrow, hobject⟩

theorem tryStep_besides (o : Outcome) {f : BackupWorld → BackupWorld}
    (hf : ∀ w, Besides w (f w)) :
    Ends (Besides w₀) (tryStep o f) (fun _ => Besides w₀) fun _ => Besides w₀ := by
  intro w hw
  have hchange : Besides w₀ (f w) :=
    ⟨(hf w).files.trans hw.files, (hf w).row.trans hw.row, (hf w).object.trans hw.object⟩
  cases o with
  | done => exact hchange
  | failed => exact hw
  | failedDone => exact hchange

theorem removeRemote_besides (w : BackupWorld) (key : String) : Besides w (w.removeRemote key) :=
  ⟨rfl, rfl, rfl⟩

theorem removeRemote_if (o : Outcome) (c : Prop) [Decidable c] (key : String) :
    Ends (Besides w₀) (tryStep o fun w => if c then w.removeRemote key else w)
      (fun _ => Besides w₀) fun _ => Besides w₀ := by
  apply tryStep_besides
  intro w
  split
  · exact removeRemote_besides w key
  · exact Besides.rfl

theorem uploadFiles_spec (o : UploadOutcomes) (n : BackupNames) :
    Ends (Besides w₀) (uploadFiles o n) (fun key w => Besides w₀ w ∧ Uploaded n key w)
      fun _ => Besides w₀ := by
  intro w hw
  unfold uploadFiles
  refine meets_look (fun _ => meets_read ?_) fun _ => hw
  refine meets_look (fun _ => meets_read ?_) fun _ => hw
  have hadopted : Meets (fun adopted w => Besides w₀ w ∧ (adopted = true → Uploaded n n.dumpKey w))
      (fun _ => Besides w₀) ((if (w.remote.get? n.dumpKey).isSome &&
        (w.remote.get? n.manifestKey).isSome then
          uploadedBackupMatches o.before n.dumpKey n.manifestKey n.dump n.manifest
        else pure false : BackupProcedure Bool) w) := by
    split
    · exact uploadedBackupMatches_spec o.before n.dumpKey n w hw
    · exact ⟨hw, fun h => by cases h⟩
  apply hadopted.bind
  rintro adopted w₁ ⟨hw₁, hup⟩
  cases adopted with
  | true => exact ⟨hw₁, hup rfl⟩
  | false =>
    apply (removeRemote_if _ _ n.dumpKey w₁ hw₁).bind
    intro _ w₂ hw₂
    apply (removeRemote_if _ _ n.manifestKey w₂ hw₂).bind
    intro _ w₃ hw₃
    refine meets_look (fun _ => ?_) fun _ => hw₃
    apply (saveRemote_spec o.saveDump w₃ hw₃).bind
    intro stored w₄ hw₄
    have hw₅ : Besides w₀ { w₄ with storedDumpKey := stored } := ⟨hw₄.files, hw₄.row, hw₄.object⟩
    refine meets_modify (meets_look (fun _ => ?_) fun _ => hw₅)
    apply (saveRemote_spec o.saveManifest _ hw₅).bind
    intro _ w₆ hw₆
    apply (uploadedBackupMatches_spec o.after stored n w₆ hw₆).bind
    rintro verified w₇ ⟨hw₇, hup₇⟩
    cases verified with
    | true => exact ⟨hw₇, hup₇ rfl⟩
    | false => exact hw₇

theorem cleanUpload_spec (o : UploadOutcomes) (n : BackupNames) :
    Ends (Besides w₀) (cleanUpload o n) (fun _ => Besides w₀) fun _ => Besides w₀ := by
  unfold cleanUpload
  apply (tryStep_besides o.cleanDump fun w => removeRemote_besides w n.dumpKey).bind
  intro _ w hw
  refine meets_read ((removeRemote_if _ _ w.storedDumpKey w hw).bind ?_)
  intro _
  exact tryStep_besides o.cleanManifest fun w => removeRemote_besides w n.manifestKey

theorem uploadBackup_spec (o : UploadOutcomes) (n : BackupNames) :
    Ends (Besides w₀) (uploadBackup o n) (fun key w => Besides w₀ w ∧ Uploaded n key w)
      fun e w => Besides w₀ w ∧ e.code = "UPLOAD_FAILED" := by
  intro w hw
  unfold uploadBackup
  have hkey : Besides w₀ { w with storedDumpKey := n.dumpKey } := ⟨hw.files, hw.row, hw.object⟩
  refine meets_modify ((uploadFiles_spec o n _ hkey).attempt fun _ w₁ hw₁ => ?_)
  -- an error of the clean-up is dropped
  have hclean : Meets (fun _ => Besides w₀) (fun _ _ => False)
      ((cleanUpload o n).attempt (fun _ => pure ()) w₁) :=
    (cleanUpload_spec o n w₁ hw₁).attempt fun _ _ hw₂ => hw₂
  exact (hclean.mono (fun _ _ h => h) fun _ _ h => h.elim).bind fun _ _ hw₂ => ⟨hw₂, rfl⟩

def BackupWorld.dumpAt (w : BackupWorld) : StorageReference → Option FileContent
  | .empty => none
  | .staged name => w.files.get? name
  | .remote key => w.remote.get? key

theorem placeDump_spec (site : BackupSite) (localOnly : Bool) (o : UploadOutcomes)
    (n : BackupNames) {c : FileContent} (hdump : w₀.files.get? n.dump = some c) :
    Ends (Besides w₀) (placeDump site localOnly o n)
      (fun reference w => Besides w₀ w ∧ w.dumpAt reference = some c ∧
        ((∃ key, reference = .remote key) ∨
          reference = .staged n.dump ∧ ¬ (site.remoteEnabled && !localOnly) = true))
      fun e w => Besides w₀ w ∧ e.code = "UPLOAD_FAILED" := by
  intro w hw
  have hfile : w.files.get? n.dump = some c := hw.files ▸ hdump
  unfold placeDump
  split_ifs with _ hremote
  · exact ⟨hw, rfl⟩
  · apply (uploadBackup_spec o n w hw).bind
    rintro key w' ⟨hw', c', hc', hkey⟩
    rw [hw'.files, hdump, Option.some.injEq] at hc'
    rw [← hc'] at hkey
    exact ⟨hw', hkey, .inl ⟨key, rfl⟩⟩
  · exact ⟨hw, rfl⟩
  · exact ⟨hw, hfile, .inr ⟨rfl, hremote⟩⟩

theorem discardStaging_spec (dump manifest : Outcome) (n : BackupNames) :
    Ends (fun w => w = w₀) (discardStaging dump manifest n)
      (fun _ w => w.row = w₀.row ∧ w.object = w₀.object ∧ w.remote = w₀.remote ∧
        (dump = .failed → manifest = .failed → w.files = w₀.files)) fun _ _ => False := by
  rintro w rfl
  cases dump <;> cases manifest <;>
    exact ⟨rfl, rfl, rfl, fun hdump hmanifest => by cases hdump <;> cases hmanifest <;> rfl⟩

theorem partialName_ne_dump (site : BackupSite) (t : Instant) :
    site.partialName t ≠ (site.names t).dump := by
  intro h
  have hend : ".dump.partial" = ".dump" := String.append_right_inj _ |>.mp h
  exact absurd hend (by decide)

theorem partialName_ne_manifest (site : BackupSite) (t : Instant) :
    site.partialName t ≠ (site.names t).manifest := by
  intro h
  have hend : ".dump.partial" = ".json" := String.append_right_inj _ |>.mp h
  exact absurd hend (by decide)

theorem dump_ne_manifest (site : BackupSite) (t : Instant) :
    (site.names t).dump ≠ (site.names t).manifest := by
  intro h
  have hend : ".dump" = ".json" := String.append_right_inj _ |>.mp h
  exact absurd hend (by decide)

end SchoolPlatform.Operations
