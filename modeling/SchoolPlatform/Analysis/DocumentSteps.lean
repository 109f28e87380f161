import SchoolPlatform.Library.Guarantees
import SchoolPlatform.Model.Documents

/-!
# What each call does to documents and warnings

A pending document belongs to the call that has inserted it, and a failed one to those who retry
it. A document that is not voided has an issued warning: its row is inserted under the lock of the
warning, and a warning is voided under that lock, together with its documents.
-/

namespace SchoolPlatform

open ReadCommitted

variable {i : ℕ} {s s' : WarningOffice} {L held : List (WarningRow × LockMode)}

/-- The document has been voided, and is otherwise what it was. -/
structure IsVoidOf (doc doc' : GeneratedDocument) : Prop where
  status : doc'.status = .voided
  file : doc'.file = doc.file
  checksum : doc'.checksum = doc.checksum
  warning : doc'.warning = doc.warning
  maker : doc'.maker = doc.maker

/-- What a client does to a document: it voids it, or records the result of rendering it. -/
inductive DocumentStep (i : ℕ) (doc doc' : GeneratedDocument) : Prop
  | voided (h : IsVoidOf doc doc')
  | produced (before : doc.status = .failed ∨ doc.status = .pending ∧ doc.maker = some i)
    (after : doc'.status = .ready ∨ doc'.status = .failed) (warning : doc'.warning = doc.warning)
    (maker : doc'.maker = doc.maker)

theorem DocumentStep.warning_eq {doc doc' : GeneratedDocument} (h : DocumentStep i doc doc') :
    doc'.warning = doc.warning := by
  cases h with
  | voided h => exact h.warning
  | produced before after warning maker => exact warning

/-- Every document that is not voided has an issued warning, if it is the document of one. -/
def WarningOffice.Sound (s : WarningOffice) : Prop :=
  ∀ (d : ℕ) (doc : GeneratedDocument) (w : ℕ), s.documents[d]? = some doc →
    doc.warning = some w → doc.status ≠ .voided →
      ∃ x : StudentWarning, s.warnings[w]? = some x ∧ x.status = .issued

structure OfficeChange (i : ℕ) (L : List (WarningRow × LockMode)) (s s' : WarningOffice) :
    Prop where
  documents : ∀ (d : ℕ) (doc : GeneratedDocument), s.documents[d]? = some doc →
    ∃ doc', s'.documents[d]? = some doc' ∧
      (doc' = doc ∨ WriteLocked L (.document d) ∧ DocumentStep i doc doc')
  created : ∀ (d : ℕ) (doc : GeneratedDocument), s'.documents[d]? = some doc →
    s.documents[d]? = none → doc.maker = some i ∧ WriteLocked L .school ∧
      ∀ w, doc.warning = some w → WriteLocked L (.warning w)
  warnings : ∀ (w : ℕ) (x : StudentWarning), s.warnings[w]? = some x →
    ∃ x', s'.warnings[w]? = some x' ∧ (x' = x ∨ WriteLocked L (.warning w))
  storage : s.storage <+: s'.storage
  sound : s.Sound → s'.Sound

theorem OfficeChange.refl (i : ℕ) (L : List (WarningRow × LockMode)) (s : WarningOffice) :
    OfficeChange i L s s where
  documents := fun _ doc hdoc => ⟨doc, hdoc, .inl rfl⟩
  created := fun _ _ hdoc hnone => by
    rw [hdoc] at hnone
    cases hnone
  warnings := fun _ x hx => ⟨x, hx, .inl rfl⟩
  storage := List.prefix_refl _
  sound := fun hs => hs

theorem OfficeChange.storeFile (i : ℕ) (L : List (WarningRow × LockMode)) (s : WarningOffice)
    (bytes : Bytes) : OfficeChange i L s (s.storeFile bytes) where
  documents := fun _ doc hdoc => ⟨doc, hdoc, .inl rfl⟩
  created := fun _ _ hdoc hnone => by
    rw [show s.documents[_]? = some _ from hdoc] at hnone
    cases hnone
  warnings := fun _ x hx => ⟨x, hx, .inl rfl⟩
  storage := List.prefix_append _ _
  sound := fun hs => hs

theorem OfficeChange.modify {d : ℕ} {doc : GeneratedDocument} (hdoc : s.documents[d]? = some doc)
    (hlock : WriteLocked L (.document d)) (upd : GeneratedDocument → GeneratedDocument)
    (hstep : DocumentStep i doc (upd doc)) (hopen : doc.status = .voided →
      (upd doc).status = .voided) (files : List Bytes) :
    OfficeChange i L s
      { s with documents := s.documents.modify d upd, storage := s.storage ++ files } where
  documents := by
    intro k x hx
    by_cases hk : d = k
    · subst hk
      rw [hdoc] at hx
      cases hx
      exact ⟨upd doc, by simp [hdoc], .inr ⟨hlock, hstep⟩⟩
    · exact ⟨x, by simp [hk, hx], .inl rfl⟩
  created := by
    intro k x hx hnone
    simp only [List.getElem?_modify, hnone] at hx
    cases hx
  warnings := fun _ x hx => ⟨x, hx, .inl rfl⟩
  storage := List.prefix_append _ _
  sound := by
    intro hs k x w hx hw hx'
    by_cases hk : d = k
    · subst hk
      have hx₁ : x = upd doc := by
        simpa [List.getElem?_modify, hdoc] using hx.symm
      subst hx₁
      rw [hstep.warning_eq] at hw
      exact hs d doc w hdoc hw fun hvoid => hx' (hopen hvoid)
    · have hx₁ : s.documents[k]? = some x := by
        simpa [List.getElem?_modify, hk] using hx
      exact hs k x w hx₁ hw hx'

def WarningOffice.MakesReady (s s' : WarningOffice) (d : ℕ) : Prop :=
  (∃ doc ∈ s'.documents[d]?, doc.status = .ready) ∧
    ¬ ∃ doc ∈ s.documents[d]?, doc.status = .ready

abbrev documentOthers (retried : ℕ → Option ℕ) (i : ℕ) : Change WarningOffice WarningRow :=
  others OfficeChange WarningOffice.Sound
    (fun j s s' => ∀ d ∈ retried j, ¬ s.MakesReady s' d) i

variable {retried : ℕ → Option ℕ}

theorem officeChange_sound (i : ℕ) (L : List (WarningRow × LockMode)) (s s' : WarningOffice)
    (h : OfficeChange i L s s') (hs : s.Sound) : s'.Sound := h.sound hs

theorem officeSound_kept (i : ℕ) (held : List (WarningRow × LockMode)) :
    (documentOthers retried i).Keeps held WarningOffice.Sound :=
  others_keeps officeChange_sound i held

/-- The document can be produced by the client: it is the pending one that the client has
inserted, or the failed one that it retries; or it has been voided. -/
def WarningOffice.OpenFor (s : WarningOffice) (retried : ℕ → Option ℕ) (i d : ℕ)
    (warning : Option ℕ) : Prop :=
  ∃ doc, s.documents[d]? = some doc ∧ doc.warning = warning ∧
    (doc.status = .voided ∨ doc.status = .pending ∧ doc.maker = some i ∨
      doc.status = .failed ∧ retried i = some d)

theorem openFor_kept (d : ℕ) (warning : Option ℕ) (held : List (WarningRow × LockMode)) :
    (documentOthers retried i).Keeps held fun s => s.Sound ∧ s.OpenFor retried i d warning := by
  apply others_keeps_of officeChange_sound
  rintro j L s s' hj - h hcalm hs ⟨doc, hdoc, hwarning, hopen⟩
  obtain ⟨doc', hdoc', rfl | ⟨-, hstep⟩⟩ := h.documents d doc hdoc
  · exact ⟨doc', hdoc', hwarning, hopen⟩
  · refine ⟨doc', hdoc', hstep.warning_eq.trans hwarning, ?_⟩
    cases hstep with
    | voided h => exact .inl h.status
    | produced before after warning' maker =>
      rcases hopen with hvoid | ⟨hpending, hmaker⟩ | ⟨hfailed, hmine⟩
      · rcases before with h | ⟨h, -⟩ <;> rw [hvoid] at h <;> cases h
      · rcases before with h | ⟨-, h⟩
        · rw [hpending] at h
          cases h
        · rw [hmaker, Option.some.injEq] at h
          exact absurd h.symm hj
      · rcases after with hready | hfailed'
        · refine absurd ⟨⟨doc', hdoc', hready⟩, ?_⟩ (hcalm d hmine)
          rintro ⟨x, hx, hready'⟩
          rw [Option.mem_def, hdoc, Option.some.injEq] at hx
          rw [← hx, hfailed] at hready'
          cases hready'
        · exact .inr (.inr ⟨hfailed', hmine⟩)

theorem OfficeChange.document_eq {j d : ℕ} {doc : GeneratedDocument}
    (h : OfficeChange j L s s') (hfree : ¬ WriteLocked L (.document d))
    (hdoc : s.documents[d]? = some doc) : s'.documents[d]? = some doc := by
  obtain ⟨doc', hdoc', rfl | ⟨hlocked, -⟩⟩ := h.documents d doc hdoc
  · exact hdoc'
  · exact absurd hlocked hfree

theorem OfficeChange.warning_eq {j w : ℕ} {x : StudentWarning}
    (h : OfficeChange j L s s') (hfree : ¬ WriteLocked L (.warning w))
    (hx : s.warnings[w]? = some x) : s'.warnings[w]? = some x := by
  obtain ⟨x', hx', rfl | hlocked⟩ := h.warnings w x hx
  · exact hx'
  · exact absurd hlocked hfree

theorem OfficeChange.length_eq {j : ℕ} (h : OfficeChange j L s s')
    (hfree : ¬ WriteLocked L .school) : s'.documents.length = s.documents.length := by
  apply Nat.le_antisymm
  · apply Nat.le_of_not_lt
    intro hlt
    have hnew := List.getElem?_eq_getElem hlt
    have hold := List.getElem?_eq_none (Nat.le_refl s.documents.length)
    exact hfree (h.created _ _ hnew hold).2.1
  · apply Nat.le_of_not_lt
    intro hlt
    have hold := List.getElem?_eq_getElem hlt
    obtain ⟨doc', hdoc', -⟩ := h.documents _ _ hold
    rw [List.getElem?_eq_none (Nat.le_refl _)] at hdoc'
    cases hdoc'

end SchoolPlatform
