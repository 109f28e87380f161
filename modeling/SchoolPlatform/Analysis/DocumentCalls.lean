import SchoolPlatform.Analysis.DocumentSteps

/-!
# The transactions of documents, with what each of them knows

A client that produces a file knows its document to be open for it (`WarningOffice.OpenFor`), from
one transaction to the next. A client that voids a warning holds its row, so that no document of it
is inserted until all that there are have been voided.
-/

namespace SchoolPlatform

open ReadCommitted

variable {i : ℕ} {retried : ℕ → Option ℕ} {held : List (WarningRow × LockMode)}

variable {warning : Option ℕ}

section Statements

variable {α : Type} {Q : α → WarningOffice → Prop} {J : WarningOffice → Prop}
  {view : WarningOffice → WarningOffice}

theorem attempt_asserts {R G : Change WarningOffice WarningRow} (world : RenderWorld)
    (w : DocumentWrite) {k : Unit → WarningTransaction α}
    (hk : (k ()).Asserts R G Q J held view) :
    ((attempt world w).bind k).Asserts R G Q J held view := by
  unfold attempt
  split_ifs
  · trivial
  · exact hk

theorem lockPlace_asserts {R G : Change WarningOffice WarningRow} (d : GeneratedDocument)
    {k : Unit → WarningTransaction α}
    (hk : ∀ held', held ⊆ held' → (k ()).Asserts R G Q J held' view) :
    ((lockPlace d).bind k).Asserts R G Q J held view := by
  unfold lockPlace
  cases d.warning with
  | none => exact hk held (List.Subset.refl held)
  | some w => exact hk _ (List.subset_append_right _ held)

theorem lockWarning_asserts (warning : Option ℕ) (hJ : (documentOthers retried i).Keeps held J)
    {k : Bool → WarningTransaction α}
    (hk : ∀ (b : Bool) (held' : List (WarningRow × LockMode)), held ⊆ held' →
      (∀ w, warning = some w → WriteLocked held' (.warning w)) →
        (k b).Asserts (documentOthers retried i) (OfficeChange i) Q
          (fun s => J s ∧ ∀ w, warning = some w → b = true →
            ∃ x, s.warnings[w]? = some x ∧ x.status = .issued) held' fun s => s) :
    ((lockWarning warning).bind k).Asserts (documentOthers retried i) (OfficeChange i) Q J held
      fun s => s := by
  unfold lockWarning
  cases warning with
  | none =>
    refine (hk true held (List.Subset.refl held) fun w hw => nomatch hw).mono fun s hs => ⟨hs, ?_⟩
    exact fun w hw => nomatch hw
  | some w =>
    have hlock : WriteLocked ((WarningRow.warning w, LockMode.update) :: held) (.warning w) :=
      .of_update List.mem_cons_self
    simp only [Tx.bind_eq, Tx.bind_assoc]
    refine Tx.Asserts.selectForUpdate
      (fun b s => J s ∧ ∀ x, b = some x → s.warnings[w]? = some x) hJ
      (fun s hs => ⟨hs, fun x hx => hx⟩) ?_ fun found => ?_
    · intro b L s s' hcompat hR hs
      refine ⟨hJ.mono (List.subset_cons_self _ _) L s s' hcompat hR hs.1, fun x hx => ?_⟩
      obtain ⟨-, -, j, -, hcommit⟩ := hR
      exact hcommit.warning_eq (hcompat.not_writeLocked hlock) (hs.2 x hx)
    · cases found with
      | none => trivial
      | some x =>
        refine (hk (decide (x.status = .issued)) _ (List.subset_cons_self _ held) ?_).mono
          fun s hs => ⟨hs.1, ?_⟩
        · intro w' hw'
          rw [← Option.some.inj hw']
          exact hlock
        · intro w' hw' hissued
          rw [← Option.some.inj hw']
          exact ⟨x, hs.2 x rfl, of_decide_eq_true hissued⟩

theorem lockDocument_asserts {d : ℕ} {k : Option GeneratedDocument → WarningTransaction α}
    (hk : ∀ (doc : GeneratedDocument) (held' : List (WarningRow × LockMode)), held ⊆ held' →
      WriteLocked held' (.document d) → (k (some doc)).Asserts (documentOthers retried i)
      (OfficeChange i) Q (fun s => (s.Sound ∧ s.OpenFor retried i d warning) ∧ s.documents[d]? =
      some doc) held' fun s => s)
    (hnone : k none = .raise (.failure (.doesNotExist "GeneratedDocument"))) :
    ((Tx.selectForUpdate (fun _ => [WarningRow.document d]) fun _ s => s.documents[d]?).bind
      k).Asserts (documentOthers retried i) (OfficeChange i) Q
        (fun s => s.Sound ∧ s.OpenFor retried i d warning) held fun s => s := by
  have hlock : WriteLocked ((WarningRow.document d, LockMode.update) :: held) (.document d) :=
    .of_update List.mem_cons_self
  refine Tx.Asserts.selectForUpdate
    (fun b s => (s.Sound ∧ s.OpenFor retried i d warning) ∧
      ∀ doc, b = some doc → s.documents[d]? = some doc) (openFor_kept d warning held)
    (fun s hs => ⟨hs, fun doc hdoc => hdoc⟩) ?_ fun found => ?_
  · intro b L s s' hcompat hR hs
    have hopen := openFor_kept d warning ((WarningRow.document d, .update) :: held) L s s' hcompat
      hR hs.1
    refine ⟨hopen, fun doc hdoc => ?_⟩
    obtain ⟨-, -, j, -, hcommit⟩ := hR
    exact hcommit.document_eq (hcompat.not_writeLocked hlock) (hs.2 doc hdoc)
  · cases found with
    | none =>
      rw [hnone]
      trivial
    | some doc =>
      exact (hk doc _ (List.subset_cons_self _ held) hlock).mono
        fun s hs => ⟨hs.1, hs.2 doc rfl⟩

end Statements

theorem OfficeChange.produce {s : WarningOffice} {d : ℕ} {doc : GeneratedDocument}
    (hopen : s.OpenFor retried i d warning) (hdoc : s.documents[d]? = some doc)
    (hnot : doc.status ≠ .voided) (hlock : WriteLocked held (.document d))
    (upd : GeneratedDocument → GeneratedDocument)
    (hafter : (upd doc).status = .ready ∨ (upd doc).status = .failed)
    (hwarning : (upd doc).warning = doc.warning) (hmaker : (upd doc).maker = doc.maker)
    (files : List Bytes) :
    OfficeChange i held s
      { s with documents := s.documents.modify d upd, storage := s.storage ++ files } := by
  obtain ⟨doc', hdoc', -, hstatus⟩ := hopen
  rw [hdoc] at hdoc'
  cases hdoc'
  have hbefore : doc.status = .failed ∨ doc.status = .pending ∧ doc.maker = some i := by
    rcases hstatus with h | h | h
    · exact absurd h hnot
    · exact .inr h
    · exact .inl h.1
  exact .modify hdoc hlock upd (.produced hbefore hafter hwarning hmaker) (fun h => absurd h hnot) files

theorem failTransaction_asserts (world : RenderWorld) (d : ℕ) (warning : Option ℕ)
    (errorCode : String) :
    (failTransaction world d warning errorCode).Asserts (documentOthers retried i)
      (OfficeChange i) (fun _ s => s.Sound) (fun s => s.Sound ∧ s.OpenFor retried i d warning) []
      fun s => s := by
  unfold failTransaction
  refine attempt_asserts world _ (lockWarning_asserts warning (openFor_kept d warning [])
    fun issued held' hsub hwarning => ?_)
  cases issued with
  | false => exact fun s hs => ⟨OfficeChange.refl i _ s, hs.1.1⟩
  | true =>
    refine Tx.Asserts.mono (fun s hs => hs.1) (lockDocument_asserts
      (fun doc held'' hsub' hlock => ?_) rfl)
    dsimp only
    by_cases hvoid : doc.status = .voided
    · rw [if_pos hvoid]
      exact fun s hs => ⟨OfficeChange.refl i _ s, hs.1.1⟩
    · rw [if_neg hvoid]
      rintro s ⟨⟨hs, hopen⟩, hdoc⟩
      have hcommit : OfficeChange i held'' s (s.failDocument d errorCode) := by
        have hproduced := OfficeChange.produce hopen hdoc hvoid hlock
          (fun x => { x with status := .failed, errorCode := errorCode })
          (.inr rfl) rfl rfl []
        rwa [List.append_nil] at hproduced
      exact ⟨hcommit, hcommit.sound hs⟩

theorem markFailed_asserts (world : RenderWorld) (d : ℕ) (warning : Option ℕ)
    (errorCode : String) :
    (markFailed world d warning errorCode).Asserts (documentOthers retried i) (OfficeChange i)
      (fun _ s => s.Sound) fun s => s.Sound ∧ s.OpenFor retried i d warning := by
  refine ⟨_, failTransaction_asserts world d warning errorCode, fun _ => officeSound_kept i [],
    fun marked => ?_⟩
  cases marked with
  | false => exact fun s hs => hs
  | true =>
    show Program.Asserts _ _ _ _ (if world.fails .failureEvent then _ else _)
    split_ifs
    · trivial
    · exact fun s hs => hs

/-- What is known when the transaction that stores the file has ended: an error of the plan's limit
leaves the document open. -/
def AfterFile (retried : ℕ → Option ℕ) (i d : ℕ) (warning : Option ℕ) :
    FileOutcome → WarningOffice → Prop
  | .limitExceeded _, s => s.Sound ∧ s.OpenFor retried i d warning
  | _, s => s.Sound

theorem saveFile_asserts (world : RenderWorld) (d : ℕ) (warning : Option ℕ) (bytes : Bytes) :
    (saveFile world d warning bytes).Asserts (documentOthers retried i) (OfficeChange i)
      (AfterFile retried i d warning) (fun s => s.Sound ∧ s.OpenFor retried i d warning) []
      fun s => s := by
  unfold saveFile
  refine attempt_asserts world _ ?_
  apply Tx.Asserts.lockRows
  refine lockWarning_asserts warning (openFor_kept d warning _) fun issued held' hsub hwarning => ?_
  cases issued with
  | false => exact fun s hs => ⟨OfficeChange.refl i _ s, hs.1.1⟩
  | true =>
    refine Tx.Asserts.mono (fun s hs => hs.1) (lockDocument_asserts
      (fun doc held'' hsub' hlock => ?_) rfl)
    dsimp only
    by_cases hvoid : doc.status = .voided
    · rw [if_pos hvoid]
      exact fun s hs => ⟨OfficeChange.refl i _ s, hs.1.1⟩
    rw [if_neg hvoid]
    have hkept : ∀ held''', held'' ⊆ held''' → (documentOthers retried i).Keeps held'''
        fun s => (s.Sound ∧ s.OpenFor retried i d warning) ∧ s.documents[d]? = some doc := by
      intro held''' hsub'' L s s' hcompat hR hs
      refine ⟨openFor_kept d warning held''' L s s' hcompat hR hs.1, ?_⟩
      obtain ⟨-, -, j, -, hcommit⟩ := hR
      exact hcommit.document_eq (hcompat.not_writeLocked (hlock.mono hsub'')) hs.2
    refine Tx.Asserts.select_any (hkept _ (List.Subset.refl _)) fun exceeded => ?_
    cases exceeded with
    | some e => exact fun s hs => ⟨OfficeChange.refl i _ s, hs.1⟩
    | none =>
      refine attempt_asserts world _ (lockPlace_asserts doc fun held''' hsub'' =>
        Tx.Asserts.select_any (hkept _ hsub'') fun taken => ?_)
      cases taken with
      | true =>
        exact fun s hs => ⟨OfficeChange.storeFile i _ s bytes, hs.1.1⟩
      | false =>
        cases hfails : world.fails .documentSave with
        | true =>
          simp only [Bool.false_eq_true, if_false, if_true]
          exact fun s hs => ⟨OfficeChange.storeFile i _ s bytes, hs.1.1⟩
        | false =>
          simp only [Bool.false_eq_true, if_false]
          rintro s ⟨⟨hs, hopen⟩, hdoc⟩
          have hcommit : OfficeChange i held''' s
              ((s.finishDocument d bytes world.now).storeFile bytes) :=
            OfficeChange.produce hopen hdoc hvoid (hlock.mono hsub'') _ (.inl rfl) rfl rfl [bytes]
          exact ⟨hcommit, hcommit.sound hs⟩

theorem produceFile_asserts (world : RenderWorld) (d : ℕ) (warning : Option ℕ)
    (snapshot : String) :
    (produceFile world d warning snapshot).Asserts (documentOthers retried i) (OfficeChange i)
      (fun _ _ => True) fun s => s.Sound ∧ s.OpenFor retried i d warning := by
  unfold produceFile
  cases world.render snapshot with
  | engineUnavailable =>
    exact (markFailed_asserts world d warning _).post fun _ _ _ => trivial
  | exception => exact (markFailed_asserts world d warning _).post fun _ _ _ => trivial
  | pdf bytes =>
    refine ⟨_, saveFile_asserts world d warning bytes, fun outcome => ?_, fun outcome => ?_⟩
    · cases outcome with
      | limitExceeded e => exact openFor_kept d warning []
      | unchanged => exact officeSound_kept i []
      | ready => exact officeSound_kept i []
      | failed e => exact officeSound_kept i []
    · cases outcome with
      | unchanged => exact fun _ _ => trivial
      | ready =>
        show Program.Asserts _ _ _ _ (if world.fails .generatedEvent then _ else _)
        split_ifs
        · trivial
        · exact fun _ _ => trivial
      | limitExceeded e =>
        exact (markFailed_asserts world d warning _).bind fun _ => trivial
      | failed e => trivial

def WarningOffice.WarningIssued (s : WarningOffice) (warning : Option ℕ) : Prop :=
  ∀ w, warning = some w → ∃ x : StudentWarning, s.warnings[w]? = some x ∧ x.status = .issued

theorem warningIssued_kept (hlock : ∀ w, warning = some w → WriteLocked held (.warning w)) :
    (documentOthers retried i).Keeps held fun s => s.Sound ∧ s.WarningIssued warning := by
  apply others_keeps_of officeChange_sound
  intro j L s s' _ hcompat hcommit _ _ hissued w hw
  obtain ⟨x, hx, hstatus⟩ := hissued w hw
  exact ⟨x, hcommit.warning_eq (hcompat.not_writeLocked (hlock w hw)) hx, hstatus⟩

theorem OfficeChange.addDocument {s : WarningOffice} {d : GeneratedDocument}
    (hmaker : d.maker = some i) (hschool : WriteLocked held .school)
    (hlock : ∀ w, d.warning = some w → WriteLocked held (.warning w))
    (hissued : s.WarningIssued d.warning) : OfficeChange i held s (s.addDocument d) where
  documents := by
    intro k doc hdoc
    obtain ⟨hlt, -⟩ := List.getElem?_eq_some_iff.mp hdoc
    exact ⟨doc, (List.getElem?_append_left hlt).trans hdoc, .inl rfl⟩
  created := by
    intro k doc hdoc hnone
    have hlength : s.documents.length ≤ k := List.getElem?_eq_none_iff.mp hnone
    have hnew : doc = d := by
      simp only [WarningOffice.addDocument, List.getElem?_append_right hlength] at hdoc
      have hmem := List.mem_of_getElem? hdoc
      simpa using hmem
    subst hnew
    exact ⟨hmaker, hschool, hlock⟩
  warnings := fun _ x hx => ⟨x, hx, .inl rfl⟩
  storage := List.prefix_refl _
  sound := by
    intro hs k doc w hdoc hw hopen
    rcases Nat.lt_or_ge k s.documents.length with hlt | hge
    · rw [WarningOffice.addDocument, List.getElem?_append_left hlt] at hdoc
      exact hs k doc w hdoc hw hopen
    · rw [WarningOffice.addDocument, List.getElem?_append_right hge] at hdoc
      have hnew : doc = d := by simpa using List.mem_of_getElem? hdoc
      subst hnew
      exact hissued w hw

theorem createDocument_asserts (world : RenderWorld) {d : GeneratedDocument}
    (hmaker : d.maker = some i) (hpending : d.status = .pending) :
    (createDocument world d).Asserts (documentOthers retried i) (OfficeChange i)
      (fun id s => s.Sound ∧ s.OpenFor retried i id d.warning) WarningOffice.Sound []
      fun s => s := by
  unfold createDocument
  have hheld : WriteLocked ([(WarningRow.school, LockMode.update)] ++ []) .school :=
    .of_update List.mem_cons_self
  apply Tx.Asserts.lockRows
  refine lockWarning_asserts d.warning (officeSound_kept i _) fun issued held' hsub hlock => ?_
  cases issued with
  | false => trivial
  | true =>
    suffices hinsert : Tx.Asserts (documentOthers retried i) (OfficeChange i) _
        (fun s => s.Sound ∧ s.WarningIssued d.warning) held' (fun s => s) _ from
      hinsert.mono fun s hs => ⟨hs.1, fun w hw => hs.2 w hw rfl⟩
    refine attempt_asserts world _ (lockPlace_asserts d fun held'' hsub' => ?_)
    have hkept : (documentOthers retried i).Keeps held''
        fun s => s.Sound ∧ s.WarningIssued d.warning :=
      warningIssued_kept fun w hw => (hlock w hw).mono hsub'
    have hschool : WriteLocked held'' .school := (hheld.mono hsub).mono hsub'
    refine Tx.Asserts.select_any hkept fun taken => ?_
    cases taken with
    | true => trivial
    | false =>
      refine Tx.Asserts.select
        (fun n s => (s.Sound ∧ s.WarningIssued d.warning) ∧ s.documents.length = n)
        (fun s hs => ⟨hs, rfl⟩) ?_ fun id => ?_
      · intro n L s s' hcompat hR hs
        refine ⟨hkept L s s' hcompat hR hs.1, ?_⟩
        obtain ⟨-, -, j, -, hcommit⟩ := hR
        exact (hcommit.length_eq (hcompat.not_writeLocked hschool)).trans hs.2
      · rintro s ⟨⟨hs, hissued⟩, hlength⟩
        have hcommit : OfficeChange i held'' s (s.addDocument d) :=
          .addDocument hmaker hschool (fun w hw => (hlock w hw).mono hsub') hissued
        refine ⟨hcommit, hcommit.sound hs, d, ?_, rfl, .inr (.inl ⟨hpending, hmaker⟩)⟩
        rw [← hlength]
        simp [WarningOffice.addDocument]

def commitmentRequest : DocumentRequest where
  membership := 1
  student := 1
  documentType := .attendanceCommitment
  snapshot := .ok "snapshot"

def renderedAs (r : Rendering) : RenderWorld := { render := fun _ => r, now := 0 }

end SchoolPlatform
