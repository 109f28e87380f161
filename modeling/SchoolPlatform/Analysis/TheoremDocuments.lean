import SchoolPlatform.Analysis.DocumentCalls

/-!
# Documents that are ready do not change

While a failed document is retried, nothing stops a second retry of it. A run in which no document
becomes ready under a call that retries it keeps all that is promised of documents
(`calm_documents`); two overlapping retries need not (`overlapping_retries`).
-/

/-! ## Voiding warnings with their documents -/

namespace SchoolPlatform

open ReadCommitted

variable {i : ℕ} {retried : ℕ → Option ℕ} {held : List (WarningRow × LockMode)}
  {A : WarningOffice → Prop} {f : WarningOffice → WarningOffice}
  {g : ℕ → GeneratedDocument → GeneratedDocument} {h : ℕ → StudentWarning → StudentWarning}

theorem IsVoidOf.trans {x y z : GeneratedDocument} (hxy : IsVoidOf x y) (hyz : IsVoidOf y z) :
    IsVoidOf x z where
  status := hyz.status
  file := hyz.file.trans hxy.file
  checksum := hyz.checksum.trans hxy.checksum
  warning := hyz.warning.trans hxy.warning
  maker := hyz.maker.trans hxy.maker

/-- The changes of a transaction so far: it has voided rows that it holds. -/
structure Voids (held : List (WarningRow × LockMode)) (f : WarningOffice → WarningOffice)
    (g : ℕ → GeneratedDocument → GeneratedDocument) (h : ℕ → StudentWarning → StudentWarning) :
    Prop where
  documents : ∀ (s : WarningOffice) (d : ℕ), (f s).documents[d]? = (s.documents[d]?).map (g d)
  warnings : ∀ (s : WarningOffice) (w : ℕ), (f s).warnings[w]? = (s.warnings[w]?).map (h w)
  storage : ∀ s, (f s).storage = s.storage
  document : ∀ d, (∀ doc, g d doc = doc) ∨
    WriteLocked held (.document d) ∧ ∀ doc, IsVoidOf doc (g d doc)
  warning : ∀ w, (∀ x, h w x = x) ∨
    WriteLocked held (.warning w) ∧ ∀ x, (h w x).status = .voided

theorem Voids.start (held : List (WarningRow × LockMode)) :
    Voids held (fun s => s) (fun _ doc => doc) fun _ x => x where
  documents := fun s d => by simp
  warnings := fun s w => by simp
  storage := fun _ => rfl
  document := fun _ => .inl fun _ => rfl
  warning := fun _ => .inl fun _ => rfl

theorem Voids.mono (hf : Voids held f g h) {held' : List (WarningRow × LockMode)}
    (hsub : held ⊆ held') : Voids held' f g h where
  documents := hf.documents
  warnings := hf.warnings
  storage := hf.storage
  document := fun d => (hf.document d).imp_right fun hd => ⟨hd.1.mono hsub, hd.2⟩
  warning := fun w => (hf.warning w).imp_right fun hw => ⟨hw.1.mono hsub, hw.2⟩

def voidedToo (h : ℕ → StudentWarning → StudentWarning) (w : ℕ) (membership : Option ℕ)
    (now : Instant) (reason : String) (k : ℕ) (x : StudentWarning) : StudentWarning :=
  if k = w then
    { h k x with
      status := .voided
      voidedByMembership := membership
      voidedAt := some now
      voidReason := String.ofList (reason.toList.take 300) }
  else h k x

theorem Voids.markVoided (hf : Voids held f g h) {w : ℕ} (hlock : WriteLocked held (.warning w))
    (membership : Option ℕ) (now : Instant) (reason : String) :
    Voids held (fun s => (f s).markVoided w membership now reason) g
      (voidedToo h w membership now reason) where
  documents := hf.documents
  warnings := by
    intro s k
    simp only [WarningOffice.markVoided, List.getElem?_modify, hf.warnings s k]
    by_cases hk : w = k
    · subst hk
      cases s.warnings[w]? <;> simp [voidedToo]
    · have hk' : k ≠ w := fun heq => hk heq.symm
      cases s.warnings[k]? <;> simp [voidedToo, hk, hk']
  storage := hf.storage
  document := hf.document
  warning := by
    intro k
    by_cases hk : k = w
    · subst hk
      exact .inr ⟨hlock, fun x => by simp [voidedToo]⟩
    · refine (hf.warning k).imp (fun hsame x => ?_) fun hvoid => ⟨hvoid.1, fun x => ?_⟩
      · simp [voidedToo, hk, hsame x]
      · simp [voidedToo, hk, hvoid.2 x]

theorem Voids.voidDocument (hf : Voids held f g h) {d : ℕ} (hlock : WriteLocked held (.document d))
    (membership : Option ℕ) (now : Instant) (reason : String) :
    ∃ g', Voids held (fun s => (f s).voidDocument d membership now reason) g' h ∧
      (∀ doc, IsVoidOf doc (g' d doc)) ∧
        ∀ k, (∀ doc, IsVoidOf doc (g k doc)) → ∀ doc, IsVoidOf doc (g' k doc) := by
  let upd : GeneratedDocument → GeneratedDocument := fun doc =>
    { doc with
      status := .voided
      voidedByMembership := membership
      voidedAt := some now
      voidReason := String.ofList (reason.toList.take 300) }
  have hupd : ∀ doc, IsVoidOf doc (upd doc) := fun doc => ⟨rfl, rfl, rfl, rfl, rfl⟩
  have hself : ∀ doc, IsVoidOf doc (upd (g d doc)) := by
    intro doc
    rcases hf.document d with hsame | ⟨-, hvoid⟩
    · rw [hsame doc]
      exact hupd doc
    · exact (hvoid doc).trans (hupd _)
  refine ⟨fun k doc => if k = d then upd (g k doc) else g k doc, ?_, ?_, ?_⟩
  · refine ⟨fun s k => ?_, hf.warnings, hf.storage, fun k => ?_, hf.warning⟩
    · simp only [WarningOffice.voidDocument, List.getElem?_modify, hf.documents s k]
      by_cases hk : d = k
      · subst hk
        cases s.documents[d]? <;> simp [upd]
      · have hk' : k ≠ d := fun heq => hk heq.symm
        cases s.documents[k]? <;> simp [hk, hk']
    · by_cases hk : k = d
      · subst hk
        refine .inr ⟨hlock, fun doc => ?_⟩
        rw [if_pos rfl]
        exact hself doc
      · simp only [hk, if_false]
        exact hf.document k
  · intro doc
    dsimp only
    rw [if_pos rfl]
    exact hself doc
  · intro k hvoid doc
    dsimp only
    by_cases hk : k = d
    · subst hk
      rw [if_pos rfl]
      exact hself doc
    · rw [if_neg hk]
      exact hvoid doc

theorem voidDocuments_asserts {R G : Change WarningOffice WarningRow} {α : Type}
    {Q : α → WarningOffice → Prop} {J : WarningOffice → Prop} (membership : Option ℕ)
    (now : Instant) (reason : String) {k : Unit → WarningTransaction α} (ids : List ℕ)
    (hlock : ∀ d ∈ ids, WriteLocked held (.document d)) (hf : Voids held f g h)
    (hk : ∀ f' g', Voids held f' g' h →
      (∀ d, (∀ doc, IsVoidOf doc (g d doc)) ∨ d ∈ ids → ∀ doc, IsVoidOf doc (g' d doc)) →
        (k ()).Asserts R G Q J held f') :
    ((Tx.forEach (fun d => Tx.update fun s => s.voidDocument d membership now reason) ids :
      WarningTransaction Unit).bind k).Asserts R G Q J held f := by
  induction ids generalizing f g with
  | nil =>
    exact hk f g hf fun d hd => hd.resolve_right List.not_mem_nil
  | cons d ids ih =>
    obtain ⟨g₁, hf₁, hself, hmore⟩ :=
      hf.voidDocument (hlock d List.mem_cons_self) membership now reason
    refine ih (fun e he => hlock e (List.mem_cons_of_mem d he)) hf₁ fun f' g' hf' hvoided => ?_
    apply hk f' g' hf'
    intro e he
    apply hvoided e
    rcases he with he | he
    · exact .inl (hmore e he)
    · rcases List.mem_cons.mp he with rfl | he
      · exact .inl hself
      · exact .inr he

/-- The middle of a transaction between two warnings: the documents of those that it has voided are
voided, and it knows `A` of the committed store. -/
structure Voiding (retried : ℕ → Option ℕ) (i : ℕ) (held : List (WarningRow × LockMode))
    (A : WarningOffice → Prop) (f : WarningOffice → WarningOffice)
    (g : ℕ → GeneratedDocument → GeneratedDocument) (h : ℕ → StudentWarning → StudentWarning) :
    Prop extends Voids held f g h where
  kept : (documentOthers retried i).Keeps held A
  known : ∀ s, A s → s.Sound
  covered : ∀ s, A s → ∀ (d : ℕ) (doc : GeneratedDocument) (w : ℕ), s.documents[d]? = some doc →
    doc.warning = some w → doc.status ≠ .voided →
      (∀ x, h w x = x) ∨ ∀ doc, IsVoidOf doc (g d doc)

theorem Voiding.start (held : List (WarningRow × LockMode)) :
    Voiding retried i held WarningOffice.Sound (fun s => s) (fun _ doc => doc) fun _ x => x where
  toVoids := Voids.start held
  kept := officeSound_kept i held
  known := fun _ hs => hs
  covered := fun _ _ _ _ _ _ _ _ => .inl fun _ => rfl

theorem Voiding.change (hf : Voiding retried i held A f g h) {s : WarningOffice} (hs : A s) :
    OfficeChange i held s (f s) where
  documents := by
    intro d doc hdoc
    refine ⟨g d doc, by rw [hf.documents, hdoc]; rfl, ?_⟩
    exact (hf.document d).imp (fun hsame => hsame doc) fun hvoid => ⟨hvoid.1, .voided (hvoid.2 doc)⟩
  created := by
    intro d doc hdoc hnone
    rw [hf.documents, hnone] at hdoc
    cases hdoc
  warnings := by
    intro w x hx
    refine ⟨h w x, by rw [hf.warnings, hx]; rfl, ?_⟩
    exact (hf.warning w).imp (fun hsame => hsame x) fun hvoid => hvoid.1
  storage := by simp only [hf.storage, List.prefix_refl]
  sound := by
    intro hsound d doc w hdoc hw hopen
    rw [hf.documents, Option.map_eq_some_iff] at hdoc
    obtain ⟨doc₀, hdoc₀, rfl⟩ := hdoc
    rcases hf.document d with hsame | ⟨-, hvoid⟩
    · rw [hsame doc₀] at hw hopen
      obtain ⟨x, hx, hissued⟩ := hsound d doc₀ w hdoc₀ hw hopen
      rcases hf.covered s hs d doc₀ w hdoc₀ hw hopen with hleft | hvoid
      · exact ⟨x, by rw [hf.warnings, hx, Option.map_some, hleft x], hissued⟩
      · exact absurd ((hsame doc₀).symm ▸ (hvoid doc₀).status) hopen
    · exact absurd (hvoid doc₀).status hopen

theorem WarningOffice.mem_openDocuments {s : WarningOffice} {w d : ℕ} :
    d ∈ s.openDocuments w ↔
      ∃ doc, s.documents[d]? = some doc ∧ doc.warning = some w ∧ doc.status ≠ .voided := by
  simp only [WarningOffice.openDocuments, List.mem_filter, List.mem_range, Option.any_eq_true,
    decide_eq_true_eq]
  constructor
  · exact fun h => h.2
  · rintro ⟨doc, hdoc, hopen⟩
    exact ⟨(List.getElem?_eq_some_iff.mp hdoc).1, doc, hdoc, hopen⟩

/-- The documents of the warning that are not voided satisfy `P`, or are voided by the transaction
itself. -/
def WarningOffice.LeftOpen (s : WarningOffice) (w : ℕ)
    (g : ℕ → GeneratedDocument → GeneratedDocument) (P : ℕ → Prop) : Prop :=
  ∀ (d : ℕ) (doc : GeneratedDocument), s.documents[d]? = some doc → doc.warning = some w →
    doc.status ≠ .voided → P d ∨ ∀ doc, IsVoidOf doc (g d doc)

theorem leftOpen_kept (hA : (documentOthers retried i).Keeps held A) {w : ℕ}
    (hlock : WriteLocked held (.warning w)) (P : ℕ → Prop) :
    (documentOthers retried i).Keeps held fun s => A s ∧ s.LeftOpen w g P := by
  intro L s s' hcompat hR hs
  refine ⟨hA L s s' hcompat hR hs.1, ?_⟩
  obtain ⟨-, -, j, -, hcommit⟩ := hR
  intro d doc' hdoc' hw hopen
  cases hdoc : s.documents[d]? with
  | none =>
    exact absurd ((hcommit.created d doc' hdoc' hdoc).2.2 w hw) (hcompat.not_writeLocked hlock)
  | some doc =>
    obtain ⟨doc₁, hdoc₁, hstep⟩ := hcommit.documents d doc hdoc
    rw [hdoc'] at hdoc₁
    cases hdoc₁
    rcases hstep with rfl | ⟨-, hvoid | ⟨hbefore, -, hwarning, -⟩⟩
    · exact hs.2 d doc' hdoc hw hopen
    · exact absurd hvoid.status hopen
    · refine hs.2 d doc hdoc (hwarning.symm.trans hw) fun hvoid => ?_
      rcases hbefore with h | ⟨h, -⟩ <;> rw [hvoid] at h <;> cases h

theorem Voids.leftOpen (hf : Voids held f g h) (s : WarningOffice) (w : ℕ) :
    s.LeftOpen w g fun d => d ∈ (f s).openDocuments w := by
  intro d doc hdoc hw hopen
  refine (hf.document d).imp (fun hsame => ?_) fun hvoid => hvoid.2
  apply WarningOffice.mem_openDocuments.mpr
  exact ⟨doc, by rw [hf.documents, hdoc, Option.map_some, hsame doc], hw, hopen⟩

theorem Voiding.voidLockedWarning (hf : Voiding retried i held A f g h) {w : ℕ}
    (hlock : WriteLocked held (.warning w)) (membership : Option ℕ) (now : Instant)
    (reason : String) {α : Type} {Q : α → WarningOffice → Prop} {k : Unit → WarningTransaction α}
    (hk : ∀ held' A' f' g' h', held ⊆ held' → Voiding retried i held' A' f' g' h' →
      (k ()).Asserts (documentOthers retried i) (OfficeChange i) Q A' held' f') :
    ((SchoolPlatform.voidLockedWarning w membership now reason).bind k).Asserts
      (documentOthers retried i) (OfficeChange i) Q A held f := by
  have hmarked := hf.toVoids.markVoided hlock membership now reason
  unfold SchoolPlatform.voidLockedWarning
  simp only [Tx.bind_eq, Tx.bind_assoc]
  apply Tx.Asserts.update
  -- The documents are found; no other is inserted while the lock of the warning is held.
  refine Tx.Asserts.lockFound
    (fun rows s => A s ∧ s.LeftOpen w g fun d => WarningRow.document d ∈ rows)
    (fun s hs => ⟨hs, ?_⟩) (fun rows => leftOpen_kept hf.kept hlock _) fun rows => ?_
  · intro d doc hdoc hw hopen
    exact (hmarked.leftOpen s w d doc hdoc hw hopen).imp_left fun hmem => List.mem_map_of_mem hmem
  -- They are locked, and those that are still open are voided.
  · have hsub : held ⊆ rows.map (fun r => (r, LockMode.update)) ++ held :=
      List.subset_append_right _ _
    refine Tx.Asserts.select (fun ids s => (A s ∧ s.LeftOpen w g fun d => d ∈ ids) ∧
      ∀ d ∈ ids, WarningRow.document d ∈ rows) (fun s hs => ⟨⟨hs.1, ?_⟩, ?_⟩) (fun ids =>
        (leftOpen_kept (hf.kept.mono hsub) (hlock.mono hsub) _).and (Change.keeps_const _ _ _))
        fun ids => Tx.Asserts.of_and fun hids => ?_
    · intro d doc hdoc hw hopen
      rcases hmarked.leftOpen s w d doc hdoc hw hopen with hmem | hvoid
      · refine (hs.2 d doc hdoc hw hopen).imp_left fun hrow => List.mem_filter.mpr ⟨hmem, ?_⟩
        exact decide_eq_true hrow
      · exact .inr hvoid
    · intro d hd
      exact of_decide_eq_true (List.mem_filter.mp hd).2
    · have hrows : ∀ d ∈ ids, WriteLocked (rows.map (fun r => (r, LockMode.update)) ++ held)
          (.document d) := fun d hd =>
        .of_update (List.mem_append_left _ (List.mem_map_of_mem (hids d hd)))
      refine voidDocuments_asserts membership now reason ids hrows (hmarked.mono hsub)
        fun f' g' hf' hvoided => ?_
      refine hk _ _ f' g' _ hsub ⟨hf', (leftOpen_kept (hf.kept.mono hsub) (hlock.mono hsub) _),
        fun s hs => hf.known s hs.1, ?_⟩
      rintro s ⟨hs, hleft⟩ d doc v hdoc hv hopen
      by_cases hvw : v = w
      · subst hvw
        exact .inr (hvoided d ((hleft d doc hdoc hv hopen).symm))
      · refine (hf.covered s hs d doc v hdoc hv hopen).imp (fun hsame x => ?_)
          fun hvoid => hvoided d (.inl hvoid)
        simp [voidedToo, hvw, hsame x]

section Operations

variable {α : Type} {Q : α → WarningOffice → Prop}

theorem metricsByYear_asserts {R G : Change WarningOffice WarningRow} (hA : R.Keeps held A)
    (warningType : WarningRuleType) (years : List ℕ) (acc : Dict ℕ (ℕ → ℕ))
    {k : Dict ℕ (ℕ → ℕ) → WarningTransaction α} (hk : ∀ values, (k values).Asserts R G Q A held f) :
    ((metricsByYear warningType years acc).bind k).Asserts R G Q A held f := by
  induction years generalizing acc with
  | nil => exact hk acc
  | cons yearId years ih =>
    unfold metricsByYear
    simp only [Tx.bind_eq, Tx.bind_assoc]
    refine Tx.Asserts.select_any hA fun year => ?_
    cases year with
    | none => trivial
    | some year =>
      simp only [Tx.bind_assoc]
      exact Tx.Asserts.select_any hA fun values => ih _

theorem voidUnsupported_asserts (warningType : WarningRuleType) (membership : Option ℕ)
    (now : Instant) (values : Dict ℕ (ℕ → ℕ)) (warnings : List (ℕ × StudentWarning))
    (hlock : ∀ p ∈ warnings, WriteLocked held (.warning p.1))
    (hf : Voiding retried i held A f g h) :
    (voidUnsupported warningType membership now values warnings).Asserts
      (documentOthers retried i) (OfficeChange i) (fun _ s => s.Sound) A held f := by
  induction warnings generalizing held A f g h with
  | nil => exact fun s hs => ⟨hf.change hs, (hf.change hs).sound (hf.known s hs)⟩
  | cons p warnings ih =>
    obtain ⟨w, x⟩ := p
    have hrest : ∀ p ∈ warnings, WriteLocked held (.warning p.1) :=
      fun p hp => hlock p (List.mem_cons_of_mem _ hp)
    unfold voidUnsupported
    dsimp only
    split_ifs
    · exact ih hrest hf
    · exact hf.voidLockedWarning (hlock _ List.mem_cons_self) _ _ _
        fun held' A' f' g' h' hsub hf' => ih (fun p hp => (hrest p hp).mono hsub) hf'

theorem reconcileIssuedWarnings_asserts (studentIds : List ℕ) (warningType : WarningRuleType)
    (membership : Option ℕ) (now : Instant) :
    (reconcileIssuedWarnings studentIds warningType membership now).Asserts
      (documentOthers retried i) (OfficeChange i) (fun _ s => s.Sound) WarningOffice.Sound []
      fun s => s := by
  unfold reconcileIssuedWarnings
  split_ifs
  · exact fun s hs => ⟨OfficeChange.refl i _ s, hs⟩
  · refine Tx.Asserts.lockFound (fun _ s => s.Sound) (fun s hs => hs)
      (fun _ => officeSound_kept i _) fun rows => ?_
    refine Tx.Asserts.select_fact (fun ws : List (ℕ × StudentWarning) =>
      ∀ p ∈ ws, WarningRow.warning p.1 ∈ rows) ?_ (officeSound_kept i _) fun warnings hws => ?_
    · intro s _ p hp
      obtain ⟨w, -, hw⟩ := List.mem_filterMap.mp hp
      split_ifs at hw with hrow
      obtain ⟨x, -, rfl⟩ := Option.map_eq_some_iff.mp hw
      exact hrow
    · refine metricsByYear_asserts (officeSound_kept i _) _ _ _ fun values => ?_
      exact voidUnsupported_asserts _ _ _ values warnings (fun p hp =>
        .of_update (List.mem_append_left _ (List.mem_map_of_mem (hws p hp)))) (Voiding.start _)

theorem voidStudentWarning_asserts (membership w : ℕ) (now : Instant) (reason : String) :
    (voidStudentWarning membership w now reason).Asserts (documentOthers retried i)
      (OfficeChange i) (fun _ _ => True) WarningOffice.Sound := by
  refine Program.Asserts.peek_any (officeSound_kept i []) fun found => ?_
  cases found with
  | none => trivial
  | some x =>
    refine ⟨fun _ s => s.Sound, ?_, fun _ => officeSound_kept i [], fun _ _ _ => trivial⟩
    refine Tx.Asserts.selectForUpdate (fun _ s => s.Sound) (officeSound_kept i _)
      (fun s hs => hs) (fun _ => officeSound_kept i _) fun locked => ?_
    cases locked with
    | none => trivial
    | some y =>
      dsimp only
      split_ifs
      · trivial
      · have hlock : WriteLocked [(WarningRow.warning w, LockMode.update)] (.warning w) :=
          .of_update List.mem_cons_self
        rw [← Tx.bind_ret (SchoolPlatform.voidLockedWarning w (some membership) now reason)]
        exact (Voiding.start _).voidLockedWarning hlock (some membership) now reason
          fun held' A' f' g' h' _ hf' s hs =>
            ⟨hf'.change hs, (hf'.change hs).sound (hf'.known s hs)⟩

end Operations

variable {i : ℕ} {retried : ℕ → Option ℕ}

theorem resolveWarning_asserts {R G : Change WarningOffice WarningRow} {K : WarningOffice → Prop}
    (hK : R.Keeps [] K) (r : DocumentRequest) {α : Type} {Post : α → WarningOffice → Prop}
    {k : Option ℕ → WarningProgram α} (hk : ∀ warning, (k warning).Asserts R G Post K) :
    ((resolveWarning r).bind k).Asserts R G Post K := by
  unfold resolveWarning
  by_cases hwarning : r.documentType.isWarning = true
  · rw [hwarning]
    refine Program.Asserts.peek_any hK fun found => ?_
    cases found with
    | none => trivial
    | some p =>
      obtain ⟨id, w⟩ := p
      simp only [Program.bind, acceptWarning]
      split_ifs
      · trivial
      · trivial
      · exact hk (some id)
  · rw [Bool.not_eq_true] at hwarning
    rw [hwarning]
    exact hk none

theorem generateDocument_asserts (world : RenderWorld) (r : DocumentRequest) :
    (generateDocument i world r).Asserts (documentOthers retried i) (OfficeChange i)
      (fun _ _ => True) WarningOffice.Sound := by
  unfold generateDocument
  cases world.slotFree with
  | false => trivial
  | true =>
    refine resolveWarning_asserts (officeSound_kept i []) r fun warning => ?_
    cases r.snapshot with
    | error e => trivial
    | ok snapshot =>
      refine ⟨fun id s => s.Sound ∧ s.OpenFor retried i id warning,
        createDocument_asserts (d := newDocument i r warning snapshot) world rfl rfl,
        fun id => openFor_kept id warning [], fun id => ?_⟩
      show Program.Asserts _ _ _ _ ((if world.fails .requestEvent then _ else _ :
        WarningProgram Unit).bind _)
      split_ifs
      · trivial
      · exact produceFile_asserts world id warning snapshot

theorem retryDocument_asserts (world : RenderWorld) (d : ℕ) (hretried : retried i = some d) :
    (retryDocument world d).Asserts (documentOthers retried i) (OfficeChange i) (fun _ _ => True)
      WarningOffice.Sound := by
  -- What has been loaded: the document is open for the retry if it has failed.
  refine ⟨fun found s => s.Sound ∧ ∀ doc, found = some doc → doc.status = .failed →
    s.OpenFor retried i d doc.warning, fun s hs => ⟨hs, ?_⟩, fun found => ?_, fun found => ?_⟩
  · intro doc hdoc hfailed
    exact ⟨doc, hdoc, rfl, .inr (.inr ⟨hfailed, hretried⟩)⟩
  · intro L s s' hcompat hR hs
    refine ⟨officeSound_kept i [] L s s' hcompat hR hs.1, fun doc hdoc hfailed => ?_⟩
    exact (openFor_kept d doc.warning [] L s s' hcompat hR ⟨hs.1, hs.2 doc hdoc hfailed⟩).2
  · cases found with
    | none => trivial
    | some doc =>
      cases world.slotFree with
      | false => simp [Program.bind, Program.Asserts]
      | true =>
        by_cases hfailed : doc.status = .failed
        · suffices hopen : Program.Asserts (documentOthers retried i) (OfficeChange i)
              (fun _ _ => True) (fun s => s.Sound ∧ s.OpenFor retried i d doc.warning) _ from
            hopen.mono fun s hs => ⟨hs.1, hs.2 doc rfl hfailed⟩
          simp only [Program.bind, hfailed, Bool.not_true, Bool.false_eq_true, if_false,
            ne_eq, not_true_eq_false]
          refine Program.Asserts.peek_any (openFor_kept d doc.warning []) fun issued => ?_
          cases issued with
          | false => trivial
          | true => exact produceFile_asserts world d doc.warning doc.snapshotData
        · simp [hfailed, Program.bind, Program.Asserts]

theorem voidDocument_asserts (membership d : ℕ) (now : Instant) (reason : String) :
    (voidDocument membership d now reason).Asserts (documentOthers retried i) (OfficeChange i)
      (fun _ _ => True) WarningOffice.Sound := by
  have hlock : WriteLocked [(WarningRow.document d, LockMode.update)] (.document d) :=
    .of_update List.mem_cons_self
  refine Program.Asserts.peek_any (officeSound_kept i []) fun found => ?_
  cases found with
  | none => trivial
  | some doc =>
    refine ⟨fun _ s => s.Sound, ?_, fun _ => officeSound_kept i [], fun _ _ _ => trivial⟩
    refine Tx.Asserts.selectForUpdate
      (fun b s => s.Sound ∧ ∀ x, b = some x → s.documents[d]? = some x) (officeSound_kept i _)
      (fun s hs => ⟨hs, fun x hx => hx⟩) (fun b L s s' hcompat hR hs => ?_) fun locked => ?_
    · refine ⟨officeSound_kept i _ L s s' hcompat hR hs.1, fun x hx => ?_⟩
      obtain ⟨-, -, j, -, hcommit⟩ := hR
      exact hcommit.document_eq (hcompat.not_writeLocked hlock) (hs.2 x hx)
    · cases locked with
      | none => trivial
      | some x =>
        dsimp only
        split_ifs
        · trivial
        · rintro s ⟨hs, hx⟩
          have hcommit : OfficeChange i [(WarningRow.document d, .update)] s
              (s.voidDocument d (some membership) now reason) := by
            have hmodified := OfficeChange.modify (i := i) (hx x rfl) hlock
              (fun doc => { doc with
                status := .voided
                voidedByMembership := some membership
                voidedAt := some now
                voidReason := String.ofList (reason.toList.take 300) })
              (.voided ⟨rfl, rfl, rfl, rfl, rfl⟩) (fun _ => rfl) []
            rwa [List.append_nil] at hmodified
          exact ⟨hcommit, hcommit.sound hs⟩

def DocumentCall.retriedDocument : DocumentCall → Option ℕ
  | .retry _ id => some id
  | _ => none

theorem DocumentCall.asserts (call : DocumentCall) (hretried : retried i = call.retriedDocument) :
    (call.program i).Asserts (documentOthers retried i) (OfficeChange i) (fun _ _ => True)
      WarningOffice.Sound := by
  cases call with
  | generate world r => exact generateDocument_asserts world r
  | retry world id => exact retryDocument_asserts world id hretried
  | voidDocument membership id now reason => exact voidDocument_asserts membership id now reason
  | voidWarning membership warning now reason =>
    exact voidStudentWarning_asserts membership warning now reason
  | reconcile studentIds warningType now =>
    exact ⟨_, reconcileIssuedWarnings_asserts studentIds warningType none now,
      fun _ => officeSound_kept i [], fun _ _ _ => trivial⟩

/-! ## Calm runs -/

/-- Documents leave READY for VOIDED only, with their file, checksum and stored bytes as they were,
and VOIDED is never left. -/
def WarningOffice.KeepsDocuments (s s' : WarningOffice) : Prop :=
  ∀ (d : ℕ) (doc : GeneratedDocument), s.documents[d]? = some doc →
    ∃ doc', s'.documents[d]? = some doc' ∧ (doc.status = .voided → doc'.status = .voided) ∧
      (doc.status = .ready → (doc'.status = .ready ∨ doc'.status = .voided) ∧
        doc'.file = doc.file ∧ doc'.checksum = doc.checksum ∧
          ∀ (name : ℕ) (bytes : Bytes), doc.file = some name → s.storage[name]? = some bytes →
            s'.storage[name]? = some bytes)

def WarningOffice.NoReadyOfVoided (s : WarningOffice) : Prop :=
  ∀ doc ∈ s.documents, ∀ w x, doc.warning = some w → s.warnings[w]? = some x →
    x.status = .voided → doc.status ≠ .ready

theorem OfficeChange.keepsDocuments {L : List (WarningRow × LockMode)} {s s' : WarningOffice}
    (h : OfficeChange i L s s') : s.KeepsDocuments s' := by
  intro d doc hdoc
  have hstored : ∀ (name : ℕ) (bytes : Bytes), s.storage[name]? = some bytes →
      s'.storage[name]? = some bytes := by
    intro name bytes hbytes
    obtain ⟨files, hfiles⟩ := h.storage
    obtain ⟨hlt, -⟩ := List.getElem?_eq_some_iff.mp hbytes
    rw [← hfiles, List.getElem?_append_left hlt, hbytes]
  obtain ⟨doc', hdoc', rfl | ⟨-, hvoid | ⟨hbefore, hafter, hwarning, hmaker⟩⟩⟩ :=
    h.documents d doc hdoc
  · exact ⟨doc', hdoc', fun hv => hv, fun hr => ⟨.inl hr, rfl, rfl, fun name bytes _ hb =>
      hstored name bytes hb⟩⟩
  · exact ⟨doc', hdoc', fun _ => hvoid.status, fun _ => ⟨.inr hvoid.status, hvoid.file,
      hvoid.checksum, fun name bytes _ hb => hstored name bytes hb⟩⟩
  · refine ⟨doc', hdoc', fun hv => ?_, fun hr => ?_⟩
    · rcases hbefore with hb | ⟨hb, -⟩ <;> rw [hv] at hb <;> cases hb
    · rcases hbefore with hb | ⟨hb, -⟩ <;> rw [hr] at hb <;> cases hb

theorem WarningOffice.Sound.noReadyOfVoided {s : WarningOffice} (hs : s.Sound) :
    s.NoReadyOfVoided := by
  intro doc hdoc w x hw hx hvoided hready
  obtain ⟨d, hd⟩ := List.mem_iff_getElem?.mp hdoc
  have hopen : doc.status ≠ .voided := by
    rw [hready]
    decide
  obtain ⟨y, hy, hissued⟩ := hs d doc w hd hw hopen
  rw [hx, Option.some.injEq] at hy
  rw [← hy, hvoided] at hissued
  cases hissued

abbrev documentStart (s : WarningOffice) (calls : List DocumentCall) :
    Config WarningOffice WarningRow OfficeFailure Unit :=
  Config.start s (calls.mapIdx fun j call => call.program j)

/-- No step makes a document ready while another call is retrying it. -/
def CalmRetries (s : WarningOffice) (calls : List DocumentCall) (sched : List ℕ) : Prop :=
  (documentStart s calls).CalmRun (fun _ _ => True)
    (fun j s s' => ∀ d ∈ (calls[j]?).bind DocumentCall.retriedDocument, ¬ s.MakesReady s' d) []
    sched

/-- **Documents are immutable in every run in which no document becomes ready under a call that
retries it**, whatever fails on the way. -/
theorem calm_documents (office : WarningOffice) (hnew : office.documents = [])
    (calls : List DocumentCall) (sched : List ℕ) (i : ℕ)
    (c₁ c₂ : Config WarningOffice WarningRow OfficeFailure Unit)
    (h₁ : (documentStart office calls).exec sched = some c₁) (h₂ : c₁.step i = some c₂)
    (hcalm : CalmRetries office calls (sched ++ [i])) :
    c₁.store.KeepsDocuments c₂.store ∧ c₂.store.NoReadyOfVoided := by
  have hsound : office.Sound := by
    intro d doc w hdoc
    rw [hnew] at hdoc
    cases hdoc
  have hclients : ∀ (j : ℕ) (p : WarningProgram Unit),
      (calls.mapIdx fun j call => call.program j)[j]? = some p →
      p.Asserts (documentOthers (fun j => (calls[j]?).bind DocumentCall.retriedDocument) j)
        (OfficeChange j) (fun _ _ => True) WarningOffice.Sound := by
    intro j p hp
    rw [List.getElem?_mapIdx, Option.map_eq_some_iff] at hp
    obtain ⟨call, hcall, rfl⟩ := hp
    apply DocumentCall.asserts call
    rw [hcall, Option.bind_some]
  obtain ⟨-, hs₂, hsame | ⟨L, hcommit⟩⟩ :=
    Config.step_of_guarantees officeChange_sound hclients hsound h₁ h₂ hcalm
  · refine ⟨?_, hs₂.noReadyOfVoided⟩
    rw [hsame]
    exact (OfficeChange.refl i [] c₁.store).keepsDocuments
  · exact ⟨hcommit.keepsDocuments, hs₂.noReadyOfVoided⟩

/-! ## Two retries of one document -/

instance WarningOffice.decidableMakesReady (s s' : WarningOffice) (d : ℕ) :
    Decidable (s.MakesReady s' d) :=
  inferInstanceAs (Decidable ((∃ doc ∈ s'.documents[d]?, doc.status = .ready) ∧
    ¬ ∃ doc ∈ s.documents[d]?, doc.status = .ready))

def retriedOnce : List DocumentCall :=
  [ .generate (renderedAs .exception) commitmentRequest,
    .retry (renderedAs (.pdf [1])) 0,
    .voidDocument 1 0 5 "reason" ]

def retriedOnceTurns : List ℕ := List.replicate 12 0 ++ List.replicate 11 1 ++ List.replicate 6 2

theorem calm_documents_retriedOnce : ∃ c₁ c₂ : Config WarningOffice WarningRow OfficeFailure Unit,
    (c₁.store.documents.map fun d => d.status) = [.ready] ∧
      (c₂.store.documents.map fun d => d.status) = [.voided] ∧
        c₁.store.KeepsDocuments c₂.store ∧ c₂.store.NoReadyOfVoided := by
  have hfacts : ((documentStart {} retriedOnce).exec retriedOnceTurns).bind (fun c₁ =>
      (c₁.step 2).map fun c₂ => (c₁.store.documents.map fun d => d.status,
        c₂.store.documents.map fun d => d.status)) = some ([.ready], [.voided]) := by
    decide +kernel
  obtain ⟨c₁, h₁, hfacts⟩ := Option.bind_eq_some_iff.mp hfacts
  obtain ⟨c₂, h₂, hfacts⟩ := Option.map_eq_some_iff.mp hfacts
  rw [Prod.mk.injEq] at hfacts
  have hcalm : CalmRetries {} retriedOnce (retriedOnceTurns ++ [2]) :=
    Config.calmRun_of_check _ (by decide +kernel)
  exact ⟨c₁, c₂, hfacts.1, hfacts.2,
    calm_documents {} rfl retriedOnce retriedOnceTurns 2 c₁ c₂ h₁ h₂ hcalm⟩

def retriedTwice (second : Rendering) : List DocumentCall :=
  [ .generate (renderedAs .exception) commitmentRequest,
    .retry (renderedAs (.pdf [1])) 0,
    .retry (renderedAs second) 0 ]

def retriedTwiceTurns : List ℕ := List.replicate 12 0 ++ [1, 2] ++ List.replicate 10 1

/-- The second retry finds the document ready: when its own rendering fails, the document becomes
failed; otherwise it gets another file. -/
theorem overlapping_retries :
    (∃ c₁ c₂, (documentStart {} (retriedTwice .engineUnavailable)).exec retriedTwiceTurns =
        some c₁ ∧ c₁.exec (List.replicate 7 2) = some c₂ ∧
          ¬ c₁.store.KeepsDocuments c₂.store) ∧
      ∃ c₁ c₂, (documentStart {} (retriedTwice (.pdf [2]))).exec retriedTwiceTurns = some c₁ ∧
        c₁.exec (List.replicate 10 2) = some c₂ ∧ ¬ c₁.store.KeepsDocuments c₂.store := by
  have hready : ∀ {s s' : WarningOffice} {x y : GeneratedDocument}, s.documents = [x] →
      s'.documents = [y] → s.KeepsDocuments s' → x.status = .ready →
        (y.status = .ready ∨ y.status = .voided) ∧ y.checksum = x.checksum := by
    intro s s' x y hx hy hkeeps hstatus
    obtain ⟨doc', hdoc', -, hkept⟩ := hkeeps 0 x (by rw [hx]; rfl)
    have hsame : doc' = y := by simpa [hy] using hdoc'.symm
    rw [← hsame]
    exact ⟨(hkept hstatus).1, (hkept hstatus).2.2.1⟩
  constructor
  · have hfacts : ((documentStart {} (retriedTwice .engineUnavailable)).exec
        retriedTwiceTurns).bind (fun c₁ => (c₁.exec (List.replicate 7 2)).map fun c₂ =>
          (c₁.store.documents.map fun d => d.status, c₂.store.documents.map fun d => d.status)) =
        some ([.ready], [.failed]) := by decide +kernel
    obtain ⟨c₁, h₁, hfacts⟩ := Option.bind_eq_some_iff.mp hfacts
    obtain ⟨c₂, h₂, hfacts⟩ := Option.map_eq_some_iff.mp hfacts
    rw [Prod.mk.injEq, List.map_eq_singleton_iff, List.map_eq_singleton_iff] at hfacts
    obtain ⟨⟨x, hx, hxs⟩, y, hy, hys⟩ := hfacts
    refine ⟨c₁, c₂, h₁, h₂, fun hkeeps => ?_⟩
    rcases (hready hx hy hkeeps hxs).1 with h | h <;> rw [hys] at h <;> cases h
  · have hfacts : ((documentStart {} (retriedTwice (.pdf [2]))).exec
        retriedTwiceTurns).bind (fun c₁ => (c₁.exec (List.replicate 10 2)).map fun c₂ =>
          (c₁.store.documents.map fun d => (d.status, decide (d.checksum = some ⟨[1]⟩)),
            c₂.store.documents.map fun d => decide (d.checksum = some ⟨[1]⟩))) =
        some ([(.ready, true)], [false]) := by decide +kernel
    obtain ⟨c₁, h₁, hfacts⟩ := Option.bind_eq_some_iff.mp hfacts
    obtain ⟨c₂, h₂, hfacts⟩ := Option.map_eq_some_iff.mp hfacts
    rw [Prod.mk.injEq, List.map_eq_singleton_iff, List.map_eq_singleton_iff] at hfacts
    obtain ⟨⟨x, hx, hxs⟩, y, hy, hys⟩ := hfacts
    rw [Prod.mk.injEq, decide_eq_true_eq] at hxs
    refine ⟨c₁, c₂, h₁, h₂, fun hkeeps => of_decide_eq_false hys ?_⟩
    exact (hready hx hy hkeeps hxs.1).2.trans hxs.2

end SchoolPlatform
