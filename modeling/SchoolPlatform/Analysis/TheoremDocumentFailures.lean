import SchoolPlatform.Analysis.DocumentCalls

/-!
# Which failures a document survives

A failure of rendering, or of the plan's limit, ends in FAILED. A failure of any other write after
the row has been inserted leaves the row pending, and once the file has been stored it leaves an
orphan file; so does a retry whose place has been taken (`generation_endsClean_iff`).
-/

/-! ## How the production of a file ends -/

namespace SchoolPlatform

open ReadCommitted

/-- What the production of a file leaves behind. -/
inductive Ending
  | untouched
  | marked (errorCode : String)
  | orphaned (bytes : Bytes)
  | ready (bytes : Bytes)
  deriving DecidableEq

def WarningOffice.endAs (s : WarningOffice) (id : ℕ) (now : Instant) : Ending → WarningOffice
  | .untouched => s
  | .marked errorCode => s.failDocument id errorCode
  | .orphaned bytes => s.storeFile bytes
  | .ready bytes => (s.finishDocument id bytes now).storeFile bytes

def RenderWorld.marks (world : RenderWorld) (errorCode : String) : Ending :=
  if world.fails .failureSave then .untouched else .marked errorCode

def WarningOffice.ending (s : WarningOffice) (world : RenderWorld) (id : ℕ)
    (doc : GeneratedDocument) : Rendering → Ending
  | .engineUnavailable => world.marks "PDF_ENGINE_UNAVAILABLE"
  | .exception => world.marks "DOCUMENT_RENDER_FAILED"
  | .pdf bytes =>
    if world.fails .fileLocks then .untouched
    else if (s.storageLimitExceeded bytes.length).isSome then world.marks "STORAGE_LIMIT_EXCEEDED"
    else if world.fails .fileSave then .untouched
    else if s.placeTaken (some id) doc ∨ world.fails .documentSave then .orphaned bytes
    else .ready bytes

def WarningOffice.Resolves (s : WarningOffice) (r : DocumentRequest) (warning : Option ℕ) : Prop :=
  r.documentType.isWarning = false ∧ warning = none ∨
    r.documentType.isWarning = true ∧ ∃ w x, r.warning = some w ∧ s.warnings[w]? = some x ∧
      x.student = r.student ∧ x.status = .issued ∧ x.level.documentType = r.documentType ∧
        warning = some w

structure WarningOffice.Admits (s : WarningOffice) (me : ℕ) (world : RenderWorld)
    (r : DocumentRequest) (warning : Option ℕ) (snapshot : String) : Prop where
  slotFree : world.slotFree = true
  resolves : s.Resolves r warning
  built : r.snapshot = .ok snapshot
  creation : world.fails .creation = false
  placeFree : s.placeTaken none (newDocument me r warning snapshot) = false

structure WarningOffice.Retries (s : WarningOffice) (world : RenderWorld) (id : ℕ)
    (doc : GeneratedDocument) : Prop where
  found : s.documents[id]? = some doc
  slotFree : world.slotFree = true
  failed : doc.status = .failed
  issued : s.WarningIssued doc.warning

def WarningOffice.requestEnding (s : WarningOffice) (world : RenderWorld) (d : GeneratedDocument) :
    Ending :=
  if world.fails .requestEvent then .untouched
  else (s.addDocument d).ending world s.documents.length d (world.render d.snapshotData)

section Run

variable {world : RenderWorld} {s : WarningOffice} {id : ℕ} {doc : GeneratedDocument}

theorem lockWarning_eval {warning : Option ℕ} (h : s.WarningIssued warning) :
    (lockWarning warning).eval s = .ok (true, s) := by
  unfold lockWarning
  cases warning with
  | none => rfl
  | some w =>
    obtain ⟨x, hx, hissued⟩ := h w rfl
    simp [hx, hissued]

theorem attempt_eval (w : DocumentWrite) : (attempt world w).eval s =
    if world.fails w then .error (.exception w) else .ok ((), s) := by
  unfold attempt
  split_ifs <;> rfl

theorem lockPlace_eval (d : GeneratedDocument) : (lockPlace d).eval s = .ok ((), s) := by
  unfold lockPlace
  cases d.warning <;> rfl

theorem recordEvent_run (w : DocumentWrite) : ((recordEvent world w).run s).2 = s := by
  unfold recordEvent
  split_ifs <;> rfl

theorem failTransaction_eval (hdoc : s.documents[id]? = some doc) (hopen : doc.status ≠ .voided)
    (hissued : s.WarningIssued doc.warning) (errorCode : String) :
    (failTransaction world id doc.warning errorCode).eval s =
      if world.fails .failureSave then .error (.exception .failureSave)
      else .ok (true, s.failDocument id errorCode) := by
  unfold failTransaction
  by_cases hfails : world.fails .failureSave = true
  · simp [attempt_eval, hfails]
  · simp [attempt_eval, hfails, lockWarning_eval hissued, hdoc, hopen]

theorem markFailed_run (hdoc : s.documents[id]? = some doc) (hopen : doc.status ≠ .voided)
    (hissued : s.WarningIssued doc.warning) (errorCode : String) :
    ((markFailed world id doc.warning errorCode).run s).2 =
      s.endAs id world.now (world.marks errorCode) := by
  unfold markFailed RenderWorld.marks
  simp only [Program.bind_eq, Program.transaction, Program.bind, Program.run,
    failTransaction_eval hdoc hopen hissued]
  by_cases hfails : world.fails .failureSave = true
  · simp [hfails, WarningOffice.endAs]
  · simp [hfails, recordEvent_run, WarningOffice.endAs]

theorem saveFile_eval (hdoc : s.documents[id]? = some doc) (hopen : doc.status ≠ .voided)
    (hissued : s.WarningIssued doc.warning) (bytes : Bytes) :
    (saveFile world id doc.warning bytes).eval s =
      if world.fails .fileLocks then .error (.exception .fileLocks)
      else match s.storageLimitExceeded bytes.length with
        | some e => .ok (.limitExceeded e, s)
        | none =>
          if world.fails .fileSave then .error (.exception .fileSave)
          else if s.placeTaken (some id) doc then
            .ok (.failed (.failure (.integrityError "uniq_live_warning_document")),
              s.storeFile bytes)
          else if world.fails .documentSave then
            .ok (.failed (.exception .documentSave), s.storeFile bytes)
          else .ok (.ready, (s.finishDocument id bytes world.now).storeFile bytes) := by
  unfold saveFile
  by_cases hlocks : world.fails .fileLocks = true
  · simp [attempt_eval, hlocks]
  simp only [Tx.bind_eq, Tx.eval_bind, attempt_eval, hlocks, if_false, Tx.eval_lockRows,
    lockWarning_eval hissued, Bool.not_true, Bool.false_eq_true, Tx.eval_selectForUpdate, hdoc,
    hopen, Tx.eval_select]
  cases s.storageLimitExceeded bytes.length with
  | some e => rfl
  | none =>
    by_cases hsave : world.fails .fileSave = true
    · simp [attempt_eval, hsave]
    simp only [Tx.eval_bind, attempt_eval, hsave, if_false, lockPlace_eval, Tx.eval_select,
      Bool.false_eq_true]
    by_cases htaken : s.placeTaken (some id) doc = true
    · simp [htaken]
    by_cases hrow : world.fails .documentSave = true
    · simp [htaken, hrow]
    · simp [htaken, hrow]

theorem produceFile_run (hdoc : s.documents[id]? = some doc) (hopen : doc.status ≠ .voided)
    (hissued : s.WarningIssued doc.warning) (snapshot : String) :
    ((produceFile world id doc.warning snapshot).run s).2 =
      s.endAs id world.now (s.ending world id doc (world.render snapshot)) := by
  unfold produceFile WarningOffice.ending
  cases world.render snapshot with
  | engineUnavailable => exact markFailed_run hdoc hopen hissued _
  | exception => exact markFailed_run hdoc hopen hissued _
  | pdf bytes =>
    simp only [Program.bind_eq, Program.transaction, Program.bind, Program.run,
      saveFile_eval hdoc hopen hissued]
    by_cases hlocks : world.fails .fileLocks = true
    · simp [hlocks, WarningOffice.endAs]
    simp only [hlocks, if_false, Bool.false_eq_true]
    cases s.storageLimitExceeded bytes.length with
    | some e =>
      simp only [Option.isSome_some, if_true, Program.run_bind]
      rw [← markFailed_run hdoc hopen hissued "STORAGE_LIMIT_EXCEEDED"]
      cases (markFailed world id doc.warning "STORAGE_LIMIT_EXCEEDED").run s with
      | mk result s' => cases result <;> rfl
    | none =>
      by_cases hsave : world.fails .fileSave = true
      · simp [hsave, WarningOffice.endAs]
      by_cases htaken : s.placeTaken (some id) doc = true
      · simp [hsave, htaken, WarningOffice.endAs, Program.run]
      by_cases hrow : world.fails .documentSave = true
      · simp [hsave, htaken, hrow, WarningOffice.endAs, Program.run]
      · simp [hsave, htaken, hrow, WarningOffice.endAs, recordEvent_run]

theorem WarningOffice.namedWarning_eq_some {r : DocumentRequest} {w : ℕ} {x : StudentWarning} :
    s.namedWarning r = some (w, x) ↔
      r.warning = some w ∧ s.warnings[w]? = some x ∧ x.student = r.student := by
  unfold WarningOffice.namedWarning
  rw [Option.filter_eq_some_iff, Option.bind_eq_some_iff]
  constructor
  · rintro ⟨⟨id, hid, hx⟩, hstudent⟩
    obtain ⟨y, hy, heq⟩ := Option.map_eq_some_iff.mp hx
    cases heq
    exact ⟨hid, hy, of_decide_eq_true hstudent⟩
  · rintro ⟨hid, hx, hstudent⟩
    exact ⟨⟨w, hid, by rw [hx]; rfl⟩, decide_eq_true hstudent⟩

theorem resolveWarning_run (s : WarningOffice) (r : DocumentRequest) :
    (∃ warning, s.Resolves r warning ∧ (resolveWarning r).run s = (.ok warning, s)) ∨
      (∀ warning, ¬ s.Resolves r warning) ∧ ∃ e, (resolveWarning r).run s = (.error e, s) := by
  unfold resolveWarning
  by_cases hwarning : r.documentType.isWarning = true
  · rw [hwarning]
    show (∃ warning, s.Resolves r warning ∧
      (acceptWarning r (s.namedWarning r)).run s = (.ok warning, s)) ∨ (∀ warning,
        ¬ s.Resolves r warning) ∧ ∃ e, (acceptWarning r (s.namedWarning r)).run s = (.error e, s)
    have hresolves : ∀ warning, s.Resolves r warning → ∃ w x, s.namedWarning r = some (w, x) ∧
        x.status = .issued ∧ x.level.documentType = r.documentType ∧ warning = some w := by
      rintro warning (⟨hnot, -⟩ | ⟨-, w, x, hw, hx, hstudent, hissued, hlevel, rfl⟩)
      · rw [hwarning] at hnot
        cases hnot
      · exact ⟨w, x, WarningOffice.namedWarning_eq_some.mpr ⟨hw, hx, hstudent⟩, hissued, hlevel,
          rfl⟩
    cases hnamed : s.namedWarning r with
    | none =>
      refine .inr ⟨fun warning h => ?_, _, rfl⟩
      obtain ⟨w, x, hw, -⟩ := hresolves warning h
      rw [hnamed] at hw
      cases hw
    | some p =>
      obtain ⟨w, x⟩ := p
      have hunique : ∀ warning, s.Resolves r warning → x.status = .issued ∧
          x.level.documentType = r.documentType := by
        intro warning h
        obtain ⟨v, y, hv, hissued, hlevel, -⟩ := hresolves warning h
        rw [hnamed, Option.some.injEq, Prod.mk.injEq] at hv
        rw [hv.2]
        exact ⟨hissued, hlevel⟩
      unfold acceptWarning
      by_cases hissued : x.status = .issued
      · by_cases hlevel : x.level.documentType = r.documentType
        · obtain ⟨hw, hx, hstudent⟩ := WarningOffice.namedWarning_eq_some.mp hnamed
          refine .inl ⟨some w, .inr ⟨hwarning, w, x, hw, hx, hstudent, hissued, hlevel, rfl⟩, ?_⟩
          simp [hissued, hlevel, Program.run]
        · refine .inr ⟨fun warning h => hlevel (hunique warning h).2,
            officeError "VALIDATION_ERROR" "درجة الإنذار لا تطابق نوع المستند المطلوب." 400, ?_⟩
          simp [hissued, hlevel, Program.run]
      · refine .inr ⟨fun warning h => hissued (hunique warning h).1, warningVoidedError, ?_⟩
        simp [hissued, Program.run]
  · rw [Bool.not_eq_true] at hwarning
    rw [hwarning]
    exact .inl ⟨none, .inl ⟨hwarning, rfl⟩, rfl⟩

theorem WarningOffice.Resolves.warningIssued {r : DocumentRequest} {warning : Option ℕ}
    (h : s.Resolves r warning) : s.WarningIssued warning := by
  intro w hw
  rcases h with ⟨-, rfl⟩ | ⟨-, v, x, -, hx, -, hissued, -, rfl⟩
  · cases hw
  · rw [← Option.some.inj hw]
    exact ⟨x, hx, hissued⟩

theorem WarningOffice.Resolves.unique {r : DocumentRequest} {warning warning' : Option ℕ}
    (h : s.Resolves r warning) (h' : s.Resolves r warning') : warning' = warning := by
  rcases h with ⟨hnot, rfl⟩ | ⟨hwarning, w, -, hw, -, -, -, -, rfl⟩
  · rcases h' with ⟨-, rfl⟩ | ⟨hwarning, -⟩
    · rfl
    · rw [hnot] at hwarning
      cases hwarning
  · rcases h' with ⟨hnot, -⟩ | ⟨-, v, -, hv, -, -, -, -, rfl⟩
    · rw [hnot] at hwarning
      cases hwarning
    · rw [← hw, hv]

theorem createDocument_eval {d : GeneratedDocument} (hissued : s.WarningIssued d.warning) :
    (createDocument world d).eval s =
      if world.fails .creation then .error (.exception .creation)
      else if s.placeTaken none d then
        .error (officeError "DOCUMENT_ALREADY_EXISTS" "تم إنشاء هذا المستند مسبقاً." 409)
      else .ok (s.documents.length, s.addDocument d) := by
  unfold createDocument
  by_cases hfails : world.fails .creation = true
  · simp [lockWarning_eval hissued, attempt_eval, hfails]
  by_cases htaken : s.placeTaken none d = true
  · simp [lockWarning_eval hissued, attempt_eval, hfails, lockPlace_eval, htaken]
  · simp [lockWarning_eval hissued, attempt_eval, hfails, lockPlace_eval, htaken]

/-- **A request**, with nobody else at work: nothing happens, or a row is inserted and produced. -/
theorem generateDocument_run (s : WarningOffice) (me : ℕ) (world : RenderWorld)
    (r : DocumentRequest) :
    (∀ warning snapshot, ¬ s.Admits me world r warning snapshot) ∧
        ((generateDocument me world r).run s).2 = s ∨
      ∃ warning snapshot, s.Admits me world r warning snapshot ∧
        ((generateDocument me world r).run s).2 =
          (s.addDocument (newDocument me r warning snapshot)).endAs s.documents.length world.now
            (s.requestEnding world (newDocument me r warning snapshot)) := by
  unfold generateDocument
  cases hslot : world.slotFree with
  | false =>
    refine .inl ⟨fun warning snapshot h => ?_, rfl⟩
    have hfree := h.slotFree
    rw [hslot] at hfree
    cases hfree
  | true =>
    simp only [Bool.not_true, Bool.false_eq_true, if_false, Program.bind_eq, Program.run_bind]
    rcases resolveWarning_run s r with ⟨warning, hresolves, hrun⟩ | ⟨hno, e, hrun⟩
    · rw [hrun]
      dsimp only
      cases hbuilt : r.snapshot with
      | error e =>
        refine .inl ⟨fun warning snapshot h => ?_, rfl⟩
        have hok := h.built
        rw [hbuilt] at hok
        cases hok
      | ok snapshot =>
        have hissued := hresolves.warningIssued
        simp only [Program.transaction, Program.bind, Program.run]
        rw [createDocument_eval hissued]
        have hunique : ∀ warning' snapshot', s.Admits me world r warning' snapshot' →
            warning' = warning ∧ snapshot' = snapshot := by
          intro warning' snapshot' h
          have hok := h.built
          rw [hbuilt] at hok
          exact ⟨hresolves.unique h.resolves, (Except.ok.inj hok).symm⟩
        by_cases hcreation : world.fails .creation = true
        · refine .inl ⟨fun warning' snapshot' h => ?_, by simp [hcreation]⟩
          have hno := h.creation
          rw [hcreation] at hno
          cases hno
        by_cases htaken : s.placeTaken none (newDocument me r warning snapshot) = true
        · refine .inl ⟨fun warning' snapshot' h => ?_, by simp [hcreation, htaken]⟩
          have hfree := h.placeFree
          obtain ⟨rfl, rfl⟩ := hunique warning' snapshot' h
          rw [htaken] at hfree
          cases hfree
        · rw [Bool.not_eq_true] at hcreation htaken
          refine .inr ⟨warning, snapshot, ⟨hslot, hresolves, hbuilt, hcreation, htaken⟩, ?_⟩
          simp only [hcreation, htaken, Bool.false_eq_true, if_false]
          have hdoc : (s.addDocument (newDocument me r warning snapshot)).documents[
              s.documents.length]? = some (newDocument me r warning snapshot) := by
            simp [WarningOffice.addDocument]
          have hopen : (newDocument me r warning snapshot).status ≠ .voided := by
            show DocumentStatus.pending ≠ .voided
            decide
          by_cases hevent : world.fails .requestEvent = true
          · simp [WarningOffice.requestEnding, recordEvent, hevent, Program.bind, Program.run,
              WarningOffice.endAs]
          · simp only [WarningOffice.requestEnding, recordEvent, hevent, if_false,
              Program.pure_eq, Program.bind, Bool.false_eq_true]
            exact produceFile_run hdoc hopen hissued snapshot
    · rw [hrun]
      exact .inl ⟨fun warning snapshot h => hno warning h.resolves, rfl⟩

theorem retryDocument_run (s : WarningOffice) (world : RenderWorld) (id : ℕ) :
    (∀ doc, ¬ s.Retries world id doc) ∧ ((retryDocument world id).run s).2 = s ∨
      ∃ doc, s.Retries world id doc ∧ ((retryDocument world id).run s).2 =
        s.endAs id world.now (s.ending world id doc (world.render doc.snapshotData)) := by
  unfold retryDocument
  simp only [Program.bind_eq, Program.read, Program.bind, Program.run]
  cases hdoc : s.documents[id]? with
  | none =>
    refine .inl ⟨fun doc h => ?_, rfl⟩
    have hfound := h.found
    rw [hdoc] at hfound
    cases hfound
  | some doc =>
    have hunique : ∀ doc', s.Retries world id doc' → doc' = doc := by
      intro doc' h
      have hfound := h.found
      rw [hdoc] at hfound
      exact (Option.some.inj hfound).symm
    dsimp only
    cases hslot : world.slotFree with
    | false =>
      refine .inl ⟨fun doc' h => ?_, rfl⟩
      have hfree := h.slotFree
      rw [hslot] at hfree
      cases hfree
    | true =>
      by_cases hfailed : doc.status = .failed
      · have hopen : doc.status ≠ .voided := by
          rw [hfailed]
          decide
        by_cases hissued : s.WarningIssued doc.warning
        · have hall : (doc.warning.all fun w => (s.warnings[w]?).any fun x =>
              decide (x.status = .issued)) = true := by
            cases hw : doc.warning with
            | none => rfl
            | some w =>
              obtain ⟨x, hx, hstatus⟩ := hissued w hw
              simp [hx, hstatus]
          refine .inr ⟨doc, ⟨hdoc, hslot, hfailed, hissued⟩, ?_⟩
          rw [← produceFile_run hdoc hopen hissued doc.snapshotData]
          simp [hfailed, hall, Program.run]
        · have hall : (doc.warning.all fun w => (s.warnings[w]?).any fun x =>
              decide (x.status = .issued)) = false := by
            apply Bool.eq_false_iff.mpr
            intro hall
            apply hissued
            intro w hw
            simpa [hw, Option.any_eq_true] using hall
          refine .inl ⟨fun doc' h => ?_, by simp [hfailed, hall, Program.run]⟩
          obtain rfl := hunique doc' h
          exact hissued h.issued
      · refine .inl ⟨fun doc' h => ?_, by simp [hfailed, Program.run]⟩
        obtain rfl := hunique doc' h
        exact hfailed h.failed

end Run

variable {world : RenderWorld} {s : WarningOffice} {id : ℕ} {doc : GeneratedDocument}

/-! ## Files and rows -/

/-- The storage holds the files that rows refer to, one for each row that has one. -/
structure WarningOffice.FilesMatch (s : WarningOffice) : Prop where
  stored : ∀ (d : ℕ) (doc : GeneratedDocument) (name : ℕ), s.documents[d]? = some doc →
    doc.file = some name → name < s.storage.length
  referred : ∀ name, name < s.storage.length → ∃ (d : ℕ) (doc : GeneratedDocument),
    s.documents[d]? = some doc ∧ doc.file = some name
  own : ∀ (d e : ℕ) (x y : GeneratedDocument) (name : ℕ), s.documents[d]? = some x →
    s.documents[e]? = some y → x.file = some name → y.file = some name → d = e

/-- Nothing is left pending that was not pending before, and the files match the rows. -/
def WarningOffice.EndsClean (s s' : WarningOffice) : Prop :=
  (∀ (d : ℕ) (doc : GeneratedDocument), s'.documents[d]? = some doc → doc.status = .pending →
    ∃ doc₀, s.documents[d]? = some doc₀ ∧ doc₀.status = .pending) ∧ s'.FilesMatch

theorem WarningOffice.FilesMatch.of_files {s' : WarningOffice} (h : s.FilesMatch)
    (hstorage : s'.storage = s.storage)
    (hforth : ∀ (d : ℕ) (x : GeneratedDocument), s.documents[d]? = some x →
      ∃ x', s'.documents[d]? = some x' ∧ x'.file = x.file)
    (hback : ∀ (d : ℕ) (x' : GeneratedDocument) (name : ℕ), s'.documents[d]? = some x' →
      x'.file = some name → ∃ x, s.documents[d]? = some x ∧ x.file = some name) :
    s'.FilesMatch where
  stored := by
    intro d x' name hx' hname
    obtain ⟨x, hx, hfile⟩ := hback d x' name hx' hname
    rw [hstorage]
    exact h.stored d x name hx hfile
  referred := by
    intro name hlt
    rw [hstorage] at hlt
    obtain ⟨d, x, hx, hfile⟩ := h.referred name hlt
    obtain ⟨x', hx', hsame⟩ := hforth d x hx
    exact ⟨d, x', hx', hsame.trans hfile⟩
  own := by
    intro d e x' y' name hx' hy' hxname hyname
    obtain ⟨x, hx, hxfile⟩ := hback d x' name hx' hxname
    obtain ⟨y, hy, hyfile⟩ := hback e y' name hy' hyname
    exact h.own d e x y name hx hy hxfile hyfile

theorem WarningOffice.FilesMatch.failDocument (h : s.FilesMatch) (errorCode : String) :
    (s.failDocument id errorCode).FilesMatch := by
  refine h.of_files rfl (fun d x hx => ?_) fun d x' name hx' hname => ?_
  · by_cases hd : id = d
    · subst hd
      exact ⟨{ x with status := .failed, errorCode := errorCode },
        by simp [WarningOffice.failDocument, hx], rfl⟩
    · exact ⟨x, by simp [WarningOffice.failDocument, hd, hx], rfl⟩
  · simp only [WarningOffice.failDocument, List.getElem?_modify] at hx'
    by_cases hd : id = d
    · obtain ⟨x, hx, rfl⟩ := Option.map_eq_some_iff.mp hx'
      refine ⟨x, hx, ?_⟩
      rw [if_pos hd] at hname
      exact hname
    · obtain ⟨x, hx, rfl⟩ := Option.map_eq_some_iff.mp hx'
      refine ⟨x, hx, ?_⟩
      rw [if_neg hd] at hname
      exact hname

theorem WarningOffice.FilesMatch.addDocument (h : s.FilesMatch) {d : GeneratedDocument}
    (hfile : d.file = none) : (s.addDocument d).FilesMatch := by
  refine h.of_files rfl (fun k x hx => ?_) fun k x' name hx' hname => ?_
  · obtain ⟨hlt, -⟩ := List.getElem?_eq_some_iff.mp hx
    exact ⟨x, (List.getElem?_append_left hlt).trans hx, rfl⟩
  · rcases Nat.lt_or_ge k s.documents.length with hlt | hge
    · rw [WarningOffice.addDocument, List.getElem?_append_left hlt] at hx'
      exact ⟨x', hx', hname⟩
    · rw [WarningOffice.addDocument, List.getElem?_append_right hge] at hx'
      have hnew : x' = d := by simpa using List.mem_of_getElem? hx'
      rw [hnew, hfile] at hname
      cases hname

theorem WarningOffice.FilesMatch.not_storeFile (h : s.FilesMatch) (bytes : Bytes) :
    ¬ (s.storeFile bytes).FilesMatch := by
  intro h'
  obtain ⟨d, x, hx, hfile⟩ := h'.referred s.storage.length (by simp [WarningOffice.storeFile])
  exact Nat.lt_irrefl _ (h.stored d x _ hx hfile)

theorem WarningOffice.FilesMatch.finish_iff (h : s.FilesMatch) (hdoc : s.documents[id]? = some doc)
    (bytes : Bytes) (now : Instant) :
    ((s.finishDocument id bytes now).storeFile bytes).FilesMatch ↔ doc.file = none := by
  obtain ⟨doc', hself, hfile⟩ : ∃ doc',
      ((s.finishDocument id bytes now).storeFile bytes).documents[id]? = some doc' ∧
        doc'.file = some s.storage.length := by
    exact ⟨_, by simp only [WarningOffice.storeFile, WarningOffice.finishDocument,
      List.getElem?_modify_eq, hdoc]; rfl, rfl⟩
  have hother : ∀ d, d ≠ id →
      ((s.finishDocument id bytes now).storeFile bytes).documents[d]? = s.documents[d]? := by
    intro d hd
    have hd' : id ≠ d := fun heq => hd heq.symm
    simp [WarningOffice.storeFile, WarningOffice.finishDocument, hd']
  have hlength : ((s.finishDocument id bytes now).storeFile bytes).storage.length =
      s.storage.length + 1 := by
    simp [WarningOffice.storeFile, WarningOffice.finishDocument]
  constructor
  · intro h'
    cases hname : doc.file with
    | none => rfl
    | some name =>
      have hlt := h.stored id doc name hdoc hname
      obtain ⟨d, x, hx, hxname⟩ := h'.referred name (by omega)
      by_cases hd : d = id
      · subst hd
        rw [hself, Option.some.injEq] at hx
        rw [← hx, hfile, Option.some.injEq] at hxname
        omega
      · rw [hother d hd] at hx
        exact absurd (h.own d id x doc name hx hdoc hxname hname) hd
  · intro hnone
    have hbefore : ∀ (d : ℕ) (x : GeneratedDocument) (name : ℕ), d ≠ id →
        ((s.finishDocument id bytes now).storeFile bytes).documents[d]? = some x →
          x.file = some name → s.documents[d]? = some x ∧ name < s.storage.length := by
      intro d x name hd hx hname
      rw [hother d hd] at hx
      exact ⟨hx, h.stored d x name hx hname⟩
    refine ⟨fun d x name hx hname => ?_, fun name hlt => ?_, fun d e x y name hx hy hxn hyn => ?_⟩
    · rw [hlength]
      by_cases hd : d = id
      · subst hd
        rw [hself, Option.some.injEq] at hx
        rw [← hx, hfile, Option.some.injEq] at hname
        omega
      · have hlt := (hbefore d x name hd hx hname).2
        omega
    · rw [hlength] at hlt
      by_cases hnew : name = s.storage.length
      · exact ⟨id, doc', hself, by rw [hfile, hnew]⟩
      · obtain ⟨d, x, hx, hxname⟩ := h.referred name (by omega)
        have hd : d ≠ id := by
          rintro rfl
          rw [hdoc, Option.some.injEq] at hx
          rw [← hx, hnone] at hxname
          cases hxname
        exact ⟨d, x, (hother d hd).trans hx, hxname⟩
    · by_cases hd : d = id <;> by_cases he : e = id
      · exact hd.trans he.symm
      · subst hd
        have hlt := (hbefore e y name he hy hyn).2
        rw [hself, Option.some.injEq] at hx
        rw [← hx, hfile, Option.some.injEq] at hxn
        omega
      · subst he
        have hlt := (hbefore d x name hd hx hxn).2
        rw [hself, Option.some.injEq] at hy
        rw [← hy, hfile, Option.some.injEq] at hyn
        omega
      · exact h.own d e x y name (hbefore d x name hd hx hxn).1 (hbefore e y name he hy hyn).1
          hxn hyn

/-! ## The failures that are handled -/

/-- The file of a document gets as far as being stored. -/
def RenderWorld.StoresFile (world : RenderWorld) (s : WarningOffice) (snapshot : String) : Prop :=
  ∃ bytes, world.render snapshot = .pdf bytes ∧ world.fails .fileLocks = false ∧
    s.storageLimitExceeded bytes.length = none ∧ world.fails .fileSave = false

/-- Rendering fails, or the file exceeds the limit of the plan. -/
def RenderWorld.FailsExpectedly (world : RenderWorld) (s : WarningOffice) (snapshot : String) :
    Prop :=
  world.render snapshot = .engineUnavailable ∨ world.render snapshot = .exception ∨
    ∃ bytes, world.render snapshot = .pdf bytes ∧ world.fails .fileLocks = false ∧
      (s.storageLimitExceeded bytes.length).isSome = true

theorem RenderWorld.marks_eq_marked {errorCode code : String} :
    world.marks errorCode = .marked code ↔ world.fails .failureSave = false ∧ errorCode = code := by
  unfold RenderWorld.marks
  cases world.fails .failureSave <;> simp

theorem RenderWorld.marks_ne {errorCode : String} {bytes : Bytes} :
    world.marks errorCode ≠ .orphaned bytes ∧ world.marks errorCode ≠ .ready bytes := by
  unfold RenderWorld.marks
  cases world.fails .failureSave <;> simp

variable (snapshot : String)

theorem ending_spec :
    ((∃ code, s.ending world id doc (world.render snapshot) = .marked code) ↔
        world.FailsExpectedly s snapshot ∧ world.fails .failureSave = false) ∧
      ((∃ bytes, s.ending world id doc (world.render snapshot) = .orphaned bytes) ↔
        world.StoresFile s snapshot ∧
          (s.placeTaken (some id) doc = true ∨ world.fails .documentSave = true)) ∧
      ((∃ bytes, s.ending world id doc (world.render snapshot) = .ready bytes) ↔
        world.StoresFile s snapshot ∧ s.placeTaken (some id) doc = false ∧
          world.fails .documentSave = false) := by
  unfold WarningOffice.ending RenderWorld.FailsExpectedly RenderWorld.StoresFile
  cases hrender : world.render snapshot with
  | engineUnavailable => simp [RenderWorld.marks_eq_marked, RenderWorld.marks_ne]
  | exception => simp [RenderWorld.marks_eq_marked, RenderWorld.marks_ne]
  | pdf bytes =>
    by_cases hlocks : world.fails .fileLocks = true
    · simp [hlocks]
    rw [Bool.not_eq_true] at hlocks
    cases hlimit : s.storageLimitExceeded bytes.length with
    | some e => simp [hlocks, hlimit, RenderWorld.marks_eq_marked, RenderWorld.marks_ne]
    | none =>
      by_cases hsave : world.fails .fileSave = true
      · simp [hlocks, hlimit, hsave]
      · by_cases htaken : s.placeTaken (some id) doc = true <;>
          by_cases hrow : world.fails .documentSave = true <;>
            simp [hlocks, hlimit, hsave, htaken, hrow]

section Request

variable {d : GeneratedDocument}

theorem storageLimitExceeded_addDocument (hsize : d.sizeBytes = 0) (n : ℕ) :
    (s.addDocument d).storageLimitExceeded n = s.storageLimitExceeded n := by
  have hused : (s.addDocument d).storageUsedBytes = s.storageUsedBytes := by
    simp [WarningOffice.storageUsedBytes, WarningOffice.addDocument, hsize]
  unfold WarningOffice.storageLimitExceeded
  rw [hused]
  rfl

theorem placeTaken_addDocument (hfree : s.placeTaken none d = false) :
    (s.addDocument d).placeTaken (some s.documents.length) d = false := by
  cases hwarning : d.warning with
  | none => simp [WarningOffice.placeTaken, hwarning]
  | some w =>
    unfold WarningOffice.placeTaken at hfree ⊢
    rw [hwarning, Option.isSome_some, Bool.true_and, List.any_eq_false] at hfree ⊢
    intro k hk
    simp only [WarningOffice.addDocument, List.length_append, List.length_singleton,
      List.mem_range] at hk
    by_cases hlast : k = s.documents.length
    · simp [hlast]
    · have hlt : k < s.documents.length := by omega
      have hbefore := hfree k (List.mem_range.mpr hlt)
      have hsame : (s.addDocument d).documents[k]? = s.documents[k]? :=
        List.getElem?_append_left hlt
      rw [hsame]
      simpa [hlast] using hbefore

end Request

/-! ## Calls -/

theorem endAs_pending {now : Instant} {e : Ending} {d : ℕ} {x : GeneratedDocument}
    (hx : (s.endAs id now e).documents[d]? = some x) (hpending : x.status = .pending) :
    s.documents[d]? = some x ∧
      ((∃ code, e = .marked code) ∨ (∃ bytes, e = .ready bytes) → d ≠ id) := by
  cases e with
  | untouched =>
    refine ⟨hx, fun h => ?_⟩
    rcases h with ⟨code, h⟩ | ⟨bytes, h⟩ <;> cases h
  | orphaned bytes =>
    refine ⟨hx, fun h => ?_⟩
    rcases h with ⟨code, h⟩ | ⟨bytes, h⟩ <;> cases h
  | marked code =>
    have hd : id ≠ d := by
      rintro rfl
      simp only [WarningOffice.endAs, WarningOffice.failDocument, List.getElem?_modify_eq,
        Option.map_eq_map, Option.map_eq_some_iff] at hx
      obtain ⟨y, -, rfl⟩ := hx
      cases hpending
    refine ⟨?_, fun _ heq => hd heq.symm⟩
    simpa [WarningOffice.endAs, WarningOffice.failDocument, hd] using hx
  | ready bytes =>
    have hd : id ≠ d := by
      rintro rfl
      simp only [WarningOffice.endAs, WarningOffice.storeFile, WarningOffice.finishDocument,
        List.getElem?_modify_eq, Option.map_eq_map, Option.map_eq_some_iff] at hx
      obtain ⟨y, -, rfl⟩ := hx
      cases hpending
    refine ⟨?_, fun _ heq => hd heq.symm⟩
    simpa [WarningOffice.endAs, WarningOffice.storeFile, WarningOffice.finishDocument, hd] using hx

theorem request_endsClean_iff (hs : s.FilesMatch) {d : GeneratedDocument} (hfile : d.file = none)
    (hpending : d.status = .pending) (now : Instant) (e : Ending) :
    s.EndsClean ((s.addDocument d).endAs s.documents.length now e) ↔
      (∃ code, e = .marked code) ∨ ∃ bytes, e = .ready bytes := by
  have hs₁ := hs.addDocument hfile
  have hdoc : (s.addDocument d).documents[s.documents.length]? = some d := by
    simp [WarningOffice.addDocument]
  -- Only the new row could be pending that was not.
  have hold : (∃ code, e = .marked code) ∨ (∃ bytes, e = .ready bytes) →
      ∀ (k : ℕ) (x : GeneratedDocument),
        ((s.addDocument d).endAs s.documents.length now e).documents[k]? = some x →
          x.status = .pending → ∃ x₀, s.documents[k]? = some x₀ ∧ x₀.status = .pending := by
    intro he k x hx hx'
    obtain ⟨hx₀, hne⟩ := endAs_pending hx hx'
    have hlt := (List.getElem?_eq_some_iff.mp hx₀).1
    have hk := hne he
    simp only [WarningOffice.addDocument, List.length_append, List.length_singleton] at hlt
    have hlt' : k < s.documents.length := by omega
    rw [WarningOffice.addDocument, List.getElem?_append_left hlt'] at hx₀
    exact ⟨x, hx₀, hx'⟩
  constructor
  · rintro ⟨hclean, hfiles⟩
    cases e with
    | untouched =>
      obtain ⟨x, hx, -⟩ := hclean s.documents.length d hdoc hpending
      rw [List.getElem?_eq_none (Nat.le_refl _)] at hx
      cases hx
    | marked code => exact .inl ⟨code, rfl⟩
    | orphaned bytes => exact absurd hfiles (hs₁.not_storeFile bytes)
    | ready bytes => exact .inr ⟨bytes, rfl⟩
  · intro he
    refine ⟨hold he, ?_⟩
    rcases he with ⟨code, rfl⟩ | ⟨bytes, rfl⟩
    · exact hs₁.failDocument code
    · exact (hs₁.finish_iff hdoc bytes now).mpr hfile

theorem retry_endsClean_iff (hs : s.FilesMatch) (hdoc : s.documents[id]? = some doc)
    (now : Instant) (e : Ending) : s.EndsClean (s.endAs id now e) ↔
      (¬ ∃ bytes, e = .orphaned bytes) ∧ ((∃ bytes, e = .ready bytes) → doc.file = none) := by
  have hold : ∀ (k : ℕ) (x : GeneratedDocument), (s.endAs id now e).documents[k]? = some x →
      x.status = .pending → ∃ x₀, s.documents[k]? = some x₀ ∧ x₀.status = .pending :=
    fun k x hx hx' => ⟨x, (endAs_pending hx hx').1, hx'⟩
  have hfiles : s.EndsClean (s.endAs id now e) ↔ (s.endAs id now e).FilesMatch :=
    ⟨fun h => h.2, fun h => ⟨hold, h⟩⟩
  rw [hfiles]
  cases e with
  | untouched => simp [WarningOffice.endAs, hs]
  | marked code => simp [WarningOffice.endAs, hs.failDocument code]
  | orphaned bytes => simp [WarningOffice.endAs, hs.not_storeFile bytes]
  | ready bytes => simp [WarningOffice.endAs, hs.finish_iff hdoc bytes now]

inductive GenerationCall
  | generate (me : ℕ) (world : RenderWorld) (r : DocumentRequest)
  | retry (world : RenderWorld) (id : ℕ)

def GenerationCall.program : GenerationCall → WarningProgram Unit
  | .generate me world r => generateDocument me world r
  | .retry world id => retryDocument world id

/-- The failures that a call meets are among those that it handles. A request that gets a row has
its event recorded, and either ends in a failure that is recorded, or stores its file and then has
its row written; a retry that stores its file has its row written too, its place is free, and the
document had no file. -/
def GenerationCall.Handled (s : WarningOffice) : GenerationCall → Prop
  | .generate me world r => ∀ warning snapshot, s.Admits me world r warning snapshot →
    world.fails .requestEvent = false ∧
      (world.FailsExpectedly s snapshot ∧ world.fails .failureSave = false ∨
        world.StoresFile s snapshot ∧ world.fails .documentSave = false)
  | .retry world id => ∀ doc, s.Retries world id doc → world.StoresFile s doc.snapshotData →
    world.fails .documentSave = false ∧ s.placeTaken (some id) doc = false ∧ doc.file = none

/-- **A call ends clean exactly when the failures it meets are among those that it handles.** -/
theorem generation_endsClean_iff (s : WarningOffice) (hs : s.FilesMatch) (call : GenerationCall) :
    s.EndsClean (call.program.run s).2 ↔ call.Handled s := by
  have hclean : s.EndsClean s := ⟨fun d x hx hpending => ⟨x, hx, hpending⟩, hs⟩
  cases call with
  | generate me world r =>
    show s.EndsClean ((generateDocument me world r).run s).2 ↔ _
    rcases generateDocument_run s me world r with ⟨hno, hrun⟩ | ⟨warning, snapshot, hadmits, hrun⟩
    · rw [hrun]
      exact iff_of_true hclean fun warning snapshot h => absurd h (hno warning snapshot)
    · have hunique : ∀ warning' snapshot', s.Admits me world r warning' snapshot' →
          snapshot' = snapshot := by
        intro warning' snapshot' h
        have hok := h.built
        rw [hadmits.built] at hok
        exact (Except.ok.inj hok).symm
      rw [hrun, request_endsClean_iff hs rfl rfl]
      have hhandled : (GenerationCall.generate me world r).Handled s ↔
          world.fails .requestEvent = false ∧
            (world.FailsExpectedly s snapshot ∧ world.fails .failureSave = false ∨
              world.StoresFile s snapshot ∧ world.fails .documentSave = false) := by
        constructor
        · exact fun h => h warning snapshot hadmits
        · intro h warning' snapshot' hadmits'
          obtain rfl := hunique warning' snapshot' hadmits'
          exact h
      rw [hhandled]
      unfold WarningOffice.requestEnding
      by_cases hevent : world.fails .requestEvent = true
      · simp [hevent]
      · rw [Bool.not_eq_true] at hevent
        have hlimit := fun n => storageLimitExceeded_addDocument (s := s)
          (d := newDocument me r warning snapshot) rfl n
        have hplace := placeTaken_addDocument hadmits.placeFree
        simp only [hevent, Bool.false_eq_true, if_false]
        rw [(ending_spec _).1, (ending_spec _).2.2, hplace]
        have hsame : (newDocument me r warning snapshot).snapshotData = snapshot := rfl
        simp only [hsame, RenderWorld.FailsExpectedly, RenderWorld.StoresFile, hlimit, true_and]
  | retry world id =>
    show s.EndsClean ((retryDocument world id).run s).2 ↔ _
    rcases retryDocument_run s world id with ⟨hno, hrun⟩ | ⟨doc, hretries, hrun⟩
    · rw [hrun]
      exact iff_of_true hclean fun doc h => absurd h (hno doc)
    · have hhandled : (GenerationCall.retry world id).Handled s ↔
          (world.StoresFile s doc.snapshotData → world.fails .documentSave = false ∧
            s.placeTaken (some id) doc = false ∧ doc.file = none) := by
        constructor
        · exact fun h => h doc hretries
        · intro h doc' hretries'
          have hfound := hretries'.found
          rw [hretries.found] at hfound
          obtain rfl := (Option.some.inj hfound)
          exact h
      rw [hrun, retry_endsClean_iff hs hretries.found, hhandled, (ending_spec _).2.1,
        (ending_spec _).2.2]
      cases hplace : s.placeTaken (some id) doc <;> cases hrow : world.fails .documentSave <;>
        simp

/-- The document of a warning could not be rendered, and another has been issued in its place. -/
def reissued : WarningOffice where
  warnings :=
    [{ student := 1, academicYear := 1, warningType := .unexcusedFullDayAbsence, level := .level1
       thresholdAtIssue := 3, metricValueAtIssue := 3, issuedByMembership := 1, issuedAt := 0 }]
  documents :=
    [ { student := 1, warning := some 0, documentType := .warningLevel1, status := .failed
        snapshotData := "snapshot", generatedByMembership := 1 },
      { student := 1, warning := some 0, documentType := .warningLevel1, status := .ready
        snapshotData := "snapshot", file := some 0, sizeBytes := 1, checksum := some ⟨[7]⟩
        generatedByMembership := 1 } ]
  storage := [[7]]

theorem reissued_filesMatch : reissued.FilesMatch := by
  -- The second document is the only one that has a file.
  have hfile : ∀ (d : ℕ) (x : GeneratedDocument) (name : ℕ), reissued.documents[d]? = some x →
      x.file = some name → d = 1 ∧ name = 0 := by
    intro d x name hx hname
    rcases d with _ | _ | d
    · simp only [reissued, List.getElem?_cons_zero, Option.some.injEq] at hx
      rw [← hx] at hname
      cases hname
    · simp only [reissued, Nat.zero_add, List.getElem?_cons_succ, List.getElem?_cons_zero,
        Option.some.injEq] at hx
      rw [← hx, Option.some.injEq] at hname
      exact ⟨rfl, hname.symm⟩
    · simp [reissued] at hx
  refine ⟨fun d x name hx hname => ?_, fun name hlt => ?_, fun d e x y name hx hy hxn hyn => ?_⟩
  · rw [(hfile d x name hx hname).2]
    decide
  · have hzero : name = 0 := by simpa [reissued] using hlt
    exact ⟨1, _, rfl, by rw [hzero]⟩
  · rw [(hfile d x name hx hxn).1, (hfile e y name hy hyn).1]

/-- The first document fails to render once more, and all is left clean. -/
theorem generation_endsClean_reissued :
    reissued.EndsClean ((GenerationCall.retry (renderedAs .exception) 0).program.run reissued).2 := by
  refine (generation_endsClean_iff reissued reissued_filesMatch _).mpr ?_
  rintro doc - ⟨bytes, hrender, -⟩
  cases hrender

/-- The storage fails under a request, whose row stays pending. A retry of the first document stores
its file, and has its place refused. -/
theorem unhandled_failures :
    (¬ WarningOffice.EndsClean {} ((generateDocument 0
      { renderedAs (.pdf [1]) with fails := fun w => w = .fileSave } commitmentRequest).run {}).2) ∧
      ¬ reissued.EndsClean ((retryDocument (renderedAs (.pdf [1])) 0).run reissued).2 := by
  constructor
  · rintro ⟨hclean, -⟩
    have hrow : (((generateDocument 0 { renderedAs (.pdf [1]) with fails := fun w => w = .fileSave }
        commitmentRequest).run {}).2.documents[0]?).map (fun d => d.status) = some .pending := by
      decide +kernel
    obtain ⟨x, hx, hpending⟩ := Option.map_eq_some_iff.mp hrow
    obtain ⟨y, hy, -⟩ := hclean 0 x hx hpending
    cases hy
  · rintro ⟨-, hfiles⟩
    have hstorage : ((retryDocument (renderedAs (.pdf [1])) 0).run reissued).2.storage.length =
        2 := by decide +kernel
    have hrows : ((retryDocument (renderedAs (.pdf [1])) 0).run reissued).2.documents.map
        (fun d => d.file) = [none, some 0] := by decide +kernel
    obtain ⟨d, x, hx, hname⟩ := hfiles.referred 1 (by omega)
    have hmem := List.mem_map_of_mem (f := fun d : GeneratedDocument => d.file)
      (List.mem_of_getElem? hx)
    rw [hrows, hname] at hmem
    simp at hmem

end SchoolPlatform
