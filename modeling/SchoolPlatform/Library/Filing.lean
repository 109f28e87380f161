import SchoolPlatform.Library.Guarantees

/-!
# Files under row locks

A part of the store, a file, may belong to a row: who changes the file holds the row for writing.
What a client has read of a file while it holds the row then stands until its commit. A `Filing`
names the files, an invariant, and what every commit does to the store under its locks; the clients
of a filing need to show of each commit only that it is one of `Filing.Commits`.
-/

namespace ReadCommitted

variable {σ ρ ε α β κ : Type} {φ : κ → Type}

/-- How a store is divided into files, with an invariant of the store and a relation between a store
and what it may become under some locks. -/
structure Filing (σ ρ κ : Type) (φ : κ → Type) where
  file : (x : κ) → σ → φ x
  row : κ → ρ
  sound : σ → Prop
  grows : List (ρ × LockMode) → σ → σ → Prop
  grows_refl : ∀ L s, grows L s s
  grows_trans : ∀ L s t u, grows L s t → grows L t u → grows L s u
  grows_mono : ∀ L L' s t, L ⊆ L' → grows L s t → grows L' s t

namespace Filing

variable (D : Filing σ ρ κ φ)

/-- What a client may commit under its locks. -/
structure Commits (L : List (ρ × LockMode)) (s s' : σ) : Prop where
  files : ∀ x, WriteLocked L (D.row x) ∨ D.file x s' = D.file x s
  grows : D.grows L s s'
  sound : D.sound s → D.sound s'

variable {D} {held held' : List (ρ × LockMode)} {A B : σ → Prop} {view : σ → σ}

theorem Commits.refl (L : List (ρ × LockMode)) (s : σ) : D.Commits L s s :=
  ⟨fun _ => .inr rfl, D.grows_refl L s, id⟩

theorem Commits.trans {L : List (ρ × LockMode)} {s t u : σ} (h : D.Commits L s t)
    (h' : D.Commits L t u) : D.Commits L s u := by
  refine ⟨fun x => ?_, D.grows_trans L s t u h.grows h'.grows, fun hs => h'.sound (h.sound hs)⟩
  rcases h.files x with hlock | heq
  · exact .inl hlock
  · rcases h'.files x with hlock | heq'
    · exact .inl hlock
    · exact .inr (heq'.trans heq)

theorem Commits.mono {L L' : List (ρ × LockMode)} {s s' : σ} (h : D.Commits L s s')
    (hsub : L ⊆ L') : D.Commits L' s s' :=
  ⟨fun x => (h.files x).imp_left fun hlock => hlock.mono hsub,
    D.grows_mono L L' s s' hsub h.grows, h.sound⟩

/-! ## What others keep -/

variable (D) in
/-- The assertion survives the commits of others while these locks are held. -/
def Stable (held : List (ρ × LockMode)) (A : σ → Prop) : Prop :=
  ∀ (L : List (ρ × LockMode)) (s s' : σ), Compatible held L → D.Commits L s s' → D.sound s →
    A s → A s'

theorem Stable.mono (h : D.Stable held A) (hsub : held ⊆ held') : D.Stable held' A :=
  fun L s s' hcompat => h L s s' (hcompat.mono hsub)

theorem Stable.and (hA : D.Stable held A) (hB : D.Stable held B) :
    D.Stable held fun s => A s ∧ B s :=
  fun L s s' hcompat hcommit hs h =>
    ⟨hA L s s' hcompat hcommit hs h.1, hB L s s' hcompat hcommit hs h.2⟩

theorem Stable.imp {p : Prop} (h : D.Stable held A) : D.Stable held fun s => p → A s :=
  fun L s s' hcompat hcommit hs hA hp => h L s s' hcompat hcommit hs (hA hp)

theorem stable_true : D.Stable held fun _ => True := fun _ _ _ _ _ _ _ => trivial

theorem stable_file {x : κ} (hlock : WriteLocked held (D.row x)) (P : φ x → Prop) :
    D.Stable held fun s => P (D.file x s) := by
  intro L s s' hcompat hcommit _ hP
  rcases hcommit.files x with hother | heq
  · exact absurd hother (hcompat.not_writeLocked hlock)
  · rw [heq]
    exact hP

theorem stable_grows (h : ∀ L s s', D.grows L s s' → A s → A s') : D.Stable held A :=
  fun L s s' _ hcommit _ => h L s s' hcommit.grows

variable (D) in
/-- What each client relies on: the others keep to the filing. -/
abbrev rely (i : ℕ) : Change σ ρ :=
  others (fun _ => D.Commits) D.sound (fun _ _ _ => True) i

theorem Stable.keeps {i : ℕ} (h : D.Stable held A) :
    (D.rely i).Keeps held fun s => D.sound s ∧ A s :=
  others_keeps_of (fun _ _ _ _ hcommit => hcommit.sound) fun _ L s s' _ hcompat hcommit _ hs hA =>
    h L s s' hcompat hcommit hs hA

/-! ## Parts of a transaction -/

variable (D) in
/-- The body, entered with an assertion, locks and changes, commits to the filing. -/
abbrev Acts (i : ℕ) (A : σ → Prop) (held : List (ρ × LockMode)) (view : σ → σ)
    (t : Tx σ ρ ε α) : Prop :=
  t.Asserts (D.rely i) D.Commits (fun _ => D.sound) (fun s => D.sound s ∧ A s) held view

variable (D) in
/-- In the middle of a transaction: the changes so far make a commit, and `B` relates every store
on which the transaction may yet commit to what the changes make of it. -/
structure Mid (held : List (ρ × LockMode)) (A : σ → Prop) (view : σ → σ) (B : σ → σ → Prop) :
    Prop where
  stable : D.Stable held A
  reaches : ∀ s, D.sound s → A s → D.Commits held s (view s) ∧ B s (view s)

theorem Mid.mono {B : σ → σ → Prop} (h : D.Mid held A view B) (hsub : held ⊆ held') :
    D.Mid held' A view B :=
  ⟨h.stable.mono hsub, fun s hs hA => ⟨(h.reaches s hs hA).1.mono hsub, (h.reaches s hs hA).2⟩⟩

variable (D) in
/-- **What a part of a transaction does**, which is run under the locks `L` at least: it takes the
middle of a transaction from `B` to `B'`. -/
def Spec (L : List (ρ × LockMode)) (B : σ → σ → Prop) (t : Tx σ ρ ε α)
    (B' : α → σ → σ → Prop) : Prop :=
  ∀ (i : ℕ) (γ : Type) (k : α → Tx σ ρ ε γ) (held : List (ρ × LockMode)) (A : σ → Prop)
    (view : σ → σ), L ⊆ held → D.Mid held A view B →
    (∀ a held' A' view', held ⊆ held' → D.Mid held' A' view' (B' a) →
      D.Acts i A' held' view' (k a)) →
    D.Acts i A held view (t.bind k)

variable {L : List (ρ × LockMode)} {B B₁ : σ → σ → Prop} {B' : α → σ → σ → Prop}

theorem Spec.ret {a : α} (h : ∀ s t, D.sound t → B s t → B' a s t) :
    D.Spec L B (.ret a : Tx σ ρ ε α) B' := by
  intro i γ k held A view _ hmid hk
  refine hk a held A view (List.Subset.refl _) ⟨hmid.stable, fun s hs hA => ?_⟩
  obtain ⟨hcommit, hB⟩ := hmid.reaches s hs hA
  exact ⟨hcommit, h s _ (hcommit.sound hs) hB⟩

theorem Spec.raise {e : ε} : D.Spec L B (.raise e : Tx σ ρ ε α) B' :=
  fun _ _ _ _ _ _ _ _ _ => trivial

theorem Spec.bind {M : β → σ → σ → Prop} {t : Tx σ ρ ε β} {g : β → Tx σ ρ ε α}
    (ht : D.Spec L B t M) (hg : ∀ b, D.Spec L (M b) (g b) B') : D.Spec L B (t.bind g) B' := by
  intro i γ k held A view hL hmid hk
  rw [Tx.bind_assoc]
  refine ht i γ _ held A view hL hmid fun b held₁ A₁ view₁ hsub₁ hmid₁ => ?_
  exact hg b i γ k held₁ A₁ view₁ (List.Subset.trans hL hsub₁) hmid₁
    fun a held₂ A₂ view₂ hsub₂ => hk a held₂ A₂ view₂ (List.Subset.trans hsub₁ hsub₂)

theorem Spec.mono {B'' : α → σ → σ → Prop} {t : Tx σ ρ ε α} (h : D.Spec L B t B')
    (hpre : ∀ s t, D.sound t → B₁ s t → B s t) (hpost : ∀ a s t, B' a s t → B'' a s t) :
    D.Spec L B₁ t B'' := by
  intro i γ k held A view hL hmid hk
  refine h i γ k held A view hL ⟨hmid.stable, fun s hs hA => ?_⟩ fun a held' A' view' hsub hmid' =>
    hk a held' A' view' hsub ⟨hmid'.stable, fun s hs hA => ?_⟩
  · obtain ⟨hcommit, hB⟩ := hmid.reaches s hs hA
    exact ⟨hcommit, hpre s _ (hcommit.sound hs) hB⟩
  · obtain ⟨hcommit, hB⟩ := hmid'.reaches s hs hA
    exact ⟨hcommit, hpost a s _ hB⟩

theorem Spec.widen {L' : List (ρ × LockMode)} {t : Tx σ ρ ε α} (h : D.Spec L B t B')
    (hsub : L ⊆ L') : D.Spec L' B t B' :=
  fun i γ k held A view hL => h i γ k held A view (List.Subset.trans hsub hL)

theorem Spec.update {f : σ → σ} {B' : Unit → σ → σ → Prop}
    (hf : ∀ s t, D.sound t → B s t → D.Commits L t (f t) ∧ B' () s (f t)) :
    D.Spec L B (Tx.update f : Tx σ ρ ε Unit) B' := by
  intro i γ k held A view hL hmid hk
  refine hk () held A (fun s => f (view s)) (List.Subset.refl _) ⟨hmid.stable, fun s hs hA => ?_⟩
  obtain ⟨hcommit, hB⟩ := hmid.reaches s hs hA
  obtain ⟨hcommit', hB'⟩ := hf s (view s) (hcommit.sound hs) hB
  exact ⟨hcommit.trans (hcommit'.mono hL), hB'⟩

theorem Spec.update_ret {f : σ → σ} {a : α}
    (hf : ∀ s t, D.sound t → B s t → D.Commits L t (f t)) :
    D.Spec L B ((Tx.update f).bind fun _ => (.ret a : Tx σ ρ ε α)) fun _ _ _ => True := by
  have hchange : D.Spec L B (Tx.update f : Tx σ ρ ε Unit) fun _ _ _ => True :=
    Spec.update fun s t ht hB => ⟨hf s t ht hB, trivial⟩
  exact hchange.bind fun _ => Spec.ret fun _ _ _ _ => trivial

theorem Spec.select {q : σ → β} {g : β → Tx σ ρ ε α} (P : β → Prop)
    (hP : ∀ s t, D.sound s → D.sound t → B s t → P (q t))
    (hg : ∀ b, P b → D.Spec L B (g b) B') : D.Spec L B ((Tx.select q).bind g) B' := by
  intro i γ k held A view hL hmid hk
  rw [Tx.bind_assoc]
  refine Tx.Asserts.select_fact P (fun s hs => ?_) hmid.stable.keeps fun b hb =>
    hg b hb i γ k held A view hL hmid hk
  obtain ⟨hcommit, hB⟩ := hmid.reaches s hs.1 hs.2
  exact hP s (view s) hs.1 (hcommit.sound hs.1) hB

theorem Spec.select_any {q : σ → β} {g : β → Tx σ ρ ε α} (hg : ∀ b, D.Spec L B (g b) B') :
    D.Spec L B ((Tx.select q).bind g) B' :=
  Spec.select (fun _ => True) (fun _ _ _ _ _ => trivial) fun b _ => hg b

theorem Spec.lockRows {m : LockMode} {rows : List ρ} {g : Unit → Tx σ ρ ε α}
    (hg : D.Spec (rows.map (fun r => (r, m)) ++ L) B (g ()) B') :
    D.Spec L B ((Tx.lockRows m rows).bind g) B' := by
  intro i γ k held A view hL hmid hk
  have hsub : held ⊆ rows.map (fun r => (r, m)) ++ held := List.subset_append_right _ _
  have hL' : rows.map (fun r => (r, m)) ++ L ⊆ rows.map (fun r => (r, m)) ++ held :=
    List.append_subset.mpr ⟨List.subset_append_left _ _, List.Subset.trans hL hsub⟩
  exact hg i γ k _ A view hL' (hmid.mono hsub) fun a held' A' view' hsub' =>
    hk a held' A' view' (List.Subset.trans hsub hsub')

theorem Spec.select_stable {ι : Type} {q : σ → β} {g : β → Tx σ ρ ε α} (C : ι → β → σ → Prop)
    (hread : ∀ s t, D.sound s → D.sound t → B s t → ∃ v, C v (q t) s)
    (hkept : ∀ v b, D.Stable L (C v b))
    (hg : ∀ v b, D.Spec L (fun s t => B s t ∧ C v b s) (g b) B') :
    D.Spec L B ((Tx.select q).bind g) B' := by
  intro i γ k held A view hL hmid hk
  rw [Tx.bind_assoc]
  have hstable : ∀ v b, D.Stable held fun s => A s ∧ C v b s :=
    fun v b => hmid.stable.and ((hkept v b).mono hL)
  apply Tx.Asserts.select (A := fun b s => ∃ v, D.sound s ∧ A s ∧ C v b s)
  · intro s hs
    obtain ⟨hcommit, hB⟩ := hmid.reaches s hs.1 hs.2
    obtain ⟨v, hv⟩ := hread s (view s) hs.1 (hcommit.sound hs.1) hB
    exact ⟨v, hs.1, hs.2, hv⟩
  · rintro b L' s s' hcompat hothers ⟨v, hs, hAC⟩
    have hafter := (hstable v b).keeps (i := i) L' s s' hcompat hothers ⟨hs, hAC⟩
    exact ⟨v, hafter⟩
  · intro b
    have hpost : ∀ (a : γ) (s : σ), (∃ _ : ι, D.sound s) → D.sound s :=
      fun _ _ hs => hs.choose_spec
    refine Tx.Asserts.post (Tx.Asserts.exists
      (Q := fun (_ : ι) (_ : γ) => D.sound) fun v => ?_) hpost
    refine hg v b i γ k held _ view hL ⟨hstable v b, fun s hs hA => ?_⟩ fun a held' A' view' =>
      hk a held' A' view'
    obtain ⟨hcommit, hB⟩ := hmid.reaches s hs hA.1
    exact ⟨hcommit, hB, hA.2⟩

theorem Spec.of_fact {P : Prop} {t : Tx σ ρ ε α} (h : P → D.Spec L B t B') :
    D.Spec L (fun s t => B s t ∧ P) t B' := by
  intro i γ k held A view hL hmid hk
  by_cases hP : P
  · exact (h hP).mono (fun _ _ _ h => h.1) (fun _ _ _ h => h) i γ k held A view hL hmid hk
  · -- There is no store on which the transaction could commit.
    have hnone : ∀ s, D.sound s ∧ A s → False :=
      fun s hs => hP (hmid.reaches s hs.1 hs.2).2.2
    exact Tx.Asserts.of_false hnone

theorem Spec.readFiles {q : σ → β} {g : β → Tx σ ρ ε α} (xs : List κ)
    (hlocked : ∀ x ∈ xs, WriteLocked L (D.row x)) (P : ((x : κ) → φ x) → β → Prop)
    (hP : ∀ s t, D.sound s → D.sound t → B s t → P (fun x => D.file x s) (q t))
    (hg : ∀ F b, P F b →
      D.Spec L (fun s t => B s t ∧ ∀ x ∈ xs, D.file x s = F x) (g b) B') :
    D.Spec L B ((Tx.select q).bind g) B' := by
  apply Spec.select_stable fun (F : (x : κ) → φ x) b s => (∀ x ∈ xs, D.file x s = F x) ∧ P F b
  · exact fun s t hs ht hB => ⟨fun x => D.file x s, fun x _ => rfl, hP s t hs ht hB⟩
  · intro F b L' s s' hcompat hcommit hs hF
    refine ⟨fun x hx => ?_, hF.2⟩
    exact stable_file (hlocked x hx) (fun v => v = F x) L' s s' hcompat hcommit hs (hF.1 x hx)
  · intro F b
    exact (Spec.of_fact (hg F b)).mono (fun s t _ h => ⟨⟨h.1, h.2.1⟩, h.2.2⟩) fun _ _ _ h => h

theorem Spec.selectForUpdate {find : σ → List ρ} {q : List ρ → σ → β} {g : β → Tx σ ρ ε α}
    (P : List ρ → Prop) (hP : ∀ s t, D.sound s → D.sound t → B s t → P (find t))
    (hrest : ∀ rows, P rows →
      D.Spec (rows.map (fun r => (r, .update)) ++ L) B ((Tx.select (q rows)).bind g) B') :
    D.Spec L B ((Tx.selectForUpdate find q).bind g) B' := by
  have hlocks : ∀ rows, P rows →
      D.Spec L B ((Tx.lockRows .update rows).bind fun _ => (Tx.select (q rows)).bind g) B' :=
    fun rows hrows => Spec.lockRows (hrest rows hrows)
  exact Spec.select P hP hlocks

theorem Spec.selectForUpdate_stable {ι : Type} {find : σ → List ρ} {q : List ρ → σ → β}
    {g : β → Tx σ ρ ε α} (rowsOf : ι → List ρ) (C : ι → σ → Prop)
    (hread : ∀ s t, D.sound s → D.sound t → B s t → ∃ v, find t = rowsOf v ∧ C v s)
    (hkept : ∀ v, D.Stable L (C v))
    (hg : ∀ v, D.Spec ((rowsOf v).map (fun r => (r, .update)) ++ L) (fun s t => B s t ∧ C v s)
      ((Tx.select (q (rowsOf v))).bind g) B') :
    D.Spec L B ((Tx.selectForUpdate find q).bind g) B' := by
  have hlocks : ∀ v rows, D.Spec L (fun s t => B s t ∧ rows = rowsOf v ∧ C v s)
      ((Tx.lockRows .update rows).bind fun _ => (Tx.select (q rows)).bind g) B' := by
    intro v rows
    have hrows : rows = rowsOf v → D.Spec L (fun s t => B s t ∧ C v s)
        ((Tx.lockRows .update rows).bind fun _ => (Tx.select (q rows)).bind g) B' := by
      rintro rfl
      exact Spec.lockRows (hg v)
    exact (Spec.of_fact hrows).mono (fun s t _ h => ⟨⟨h.1, h.2.2⟩, h.2.1⟩) fun _ _ _ h => h
  refine Spec.select_stable (fun v rows s => rows = rowsOf v ∧ C v s) hread ?_ hlocks
  intro v rows L' s s' hcompat hcommit hs h
  exact ⟨h.1, hkept v L' s s' hcompat hcommit hs h.2⟩

theorem Spec.lockFile {x : κ} {q : List ρ → σ → β} {g : β → Tx σ ρ ε α} (P : φ x → β → Prop)
    (hP : ∀ s t rows, D.sound s → D.sound t → B s t → P (D.file x s) (q rows t))
    (hg : ∀ F b, P F b →
      D.Spec ((D.row x, .update) :: L) (fun s t => B s t ∧ D.file x s = F) (g b) B') :
    D.Spec L B ((Tx.selectForUpdate (fun _ => [D.row x]) q).bind g) B' := by
  apply Spec.selectForUpdate (P := fun rows => rows = [D.row x]) (fun _ _ _ _ _ => rfl)
  rintro rows rfl
  refine Spec.readFiles [x] (fun y hy => ?_) (fun F b => P (F x) b)
    (fun s t hs ht hB => hP s t _ hs ht hB) fun F b hb => ?_
  · rw [List.mem_singleton.mp hy]
    exact WriteLocked.of_update List.mem_cons_self
  · exact (hg (F x) b hb).mono (fun s t _ h => ⟨h.1, h.2 x List.mem_cons_self⟩) fun _ _ _ h => h

theorem Spec.selectForUpdate_any {find : σ → List ρ} {q : List ρ → σ → β} {g : β → Tx σ ρ ε α}
    (P : β → Prop) (hP : ∀ s t rows, D.sound s → D.sound t → B s t → P (q rows t))
    (hg : ∀ b, P b → D.Spec L B (g b) B') :
    D.Spec L B ((Tx.selectForUpdate find q).bind g) B' := by
  apply Spec.selectForUpdate (P := fun _ => True) fun _ _ _ _ _ => trivial
  intro rows _
  refine Spec.select P (fun s t hs ht hB => hP s t rows hs ht hB) fun b hb => ?_
  exact (hg b hb).widen (List.subset_append_right _ _)

theorem Spec.update_update {f f' : σ → σ} {k : Unit → Tx σ ρ ε α}
    (h : D.Spec L B ((Tx.update fun s => f' (f s)).bind k) B') :
    D.Spec L B ((Tx.update f).bind fun _ => (Tx.update f').bind k) B' :=
  fun i γ k' held A view hL hmid hk => h i γ k' held A view hL hmid hk

theorem Spec.updates_before_lock {q : σ → β} {f : σ → σ} {g : β → σ → σ} {m : LockMode}
    {rows : List ρ} {k : Unit → Tx σ ρ ε α}
    (h : ∀ b, D.Spec (rows.map (fun r => (r, m)) ++ L) B
      ((Tx.update fun s => g b (f s)).bind k) B') :
    D.Spec L B ((Tx.update f).bind fun _ => (Tx.select q).bind fun b =>
      (Tx.update (g b)).bind fun _ => (Tx.lockRows m rows).bind k) B' := by
  intro i γ k' held A view hL hmid hk
  refine Tx.Asserts.select_any hmid.stable.keeps fun b => ?_
  have hlocks : rows.map (fun r => (r, m)) ++ L ⊆ rows.map (fun r => (r, m)) ++ held :=
    List.append_subset.mpr ⟨List.subset_append_left _ _,
      List.Subset.trans hL (List.subset_append_right _ _)⟩
  have hsub : held ⊆ rows.map (fun r => (r, m)) ++ held := List.subset_append_right _ _
  have hrest := h b i γ k' _ A view hlocks (hmid.mono hsub) fun a held' A' view' hsub' =>
    hk a held' A' view' (List.Subset.trans hsub hsub')
  exact hrest

/-! ## Clients -/

variable (D) in
/-- A client of the filing, entered with an assertion. -/
def Client (A : σ → Prop) (p : Program σ ρ ε α) : Prop :=
  ∀ i : ℕ, p.Asserts (D.rely i) D.Commits (fun _ => D.sound) fun s => D.sound s ∧ A s

theorem Client.ret (a : α) : D.Client A (.ret a : Program σ ρ ε α) := fun _ _ hs => hs.1

theorem Client.raise (e : ε) : D.Client A (.raise e : Program σ ρ ε α) := fun _ => trivial

theorem Client.read {q : σ → β} {k : β → Program σ ρ ε α} (A' : β → σ → Prop)
    (hread : ∀ s, D.sound s → A s → A' (q s) s) (hkept : ∀ b, D.Stable [] (A' b))
    (hrest : ∀ b, D.Client (A' b) (k b)) : D.Client A ((Program.read q).bind k) :=
  fun i => ⟨fun b s => D.sound s ∧ A' b s, fun s hs => ⟨hs.1, hread s hs.1 hs.2⟩,
    fun b => (hkept b).keeps, fun b => hrest b i⟩

theorem Client.read_any {q : σ → β} {k : β → Program σ ρ ε α}
    (hrest : ∀ b, D.Client (fun _ => True) (k b)) : D.Client A ((Program.read q).bind k) :=
  Client.read (fun _ _ => True) (fun _ _ _ => trivial) (fun _ => stable_true) hrest

theorem Client.read_keeps {q : σ → β} {k : β → Program σ ρ ε α} (hA : D.Stable [] A)
    (hrest : ∀ b, D.Client A (k b)) : D.Client A ((Program.read q).bind k) :=
  Client.read (fun _ => A) (fun _ _ hs => hs) (fun _ => hA) hrest

theorem Client.transaction {t : Tx σ ρ ε β} {k : β → Program σ ρ ε α} (hA : D.Stable [] A)
    {B' : β → σ → σ → Prop} (h : D.Spec [] (fun s t => A s ∧ t = s) t B')
    (hrest : ∀ b, D.Client (fun _ => True) (k b)) :
    D.Client A ((Program.transaction t).bind k) := by
  intro i
  refine ⟨fun _ => D.sound, ?_, fun _ => ?_, fun b => (hrest b i).mono fun s hs => ⟨hs, trivial⟩⟩
  · have hbody := h i β .ret [] A (fun s => s) (List.Subset.refl _)
      ⟨hA, fun s _ hs => ⟨Commits.refl [] s, hs, rfl⟩⟩ fun b held' A' view' _ hmid s hs => by
        have hcommit := (hmid.reaches s hs.1 hs.2).1
        exact ⟨hcommit, hcommit.sound hs.1⟩
    rw [Tx.bind_ret] at hbody
    exact hbody
  · exact others_keeps (fun _ _ _ _ hcommit => hcommit.sound) i []

theorem Client.of_acts {t : Tx σ ρ ε α} (h : ∀ i, D.Acts i A [] (fun s => s) t) :
    D.Client A (Program.transaction t) := by
  intro i
  refine ⟨fun _ => D.sound, h i, fun _ => ?_, fun _ _ hs => hs⟩
  exact others_keeps (fun _ _ _ _ hcommit => hcommit.sound) i []

theorem Client.transaction_last {t : Tx σ ρ ε α} (hA : D.Stable [] A) {B' : α → σ → σ → Prop}
    (h : D.Spec [] (fun s t => A s ∧ t = s) t B') : D.Client A (Program.transaction t) :=
  Client.transaction (k := fun a => (.ret a : Program σ ρ ε α)) hA h fun a => Client.ret a

variable [DecidableEq ρ]

/-- **Wherever a run of clients of a filing leads, the store is sound.** -/
theorem sound_of_exec {ps : List (Program σ ρ ε α)} (hps : ∀ p ∈ ps, D.Client (fun _ => True) p)
    {s : σ} (hs : D.sound s) {sched : List ℕ} {c : Config σ ρ ε α}
    (h : (Config.start s ps).exec sched = some c) : D.sound c.store := by
  have hcalm : (Config.start s ps).CalmRun (fun _ _ => True) (fun _ _ _ => True) [] sched :=
    Config.calmRun_of_forall (fun _ _ => trivial) (fun _ _ _ => trivial) _ _ _
  have hsound : ∀ (_ : ℕ) (L : List (ρ × LockMode)) (s s' : σ), D.Commits L s s' → D.sound s →
      D.sound s' := fun _ _ _ _ hcommit => hcommit.sound
  refine Config.invariant_of_guarantees hsound (fun i p hp => ?_) hs h hcalm
  have hclient := hps p (List.mem_of_getElem? hp) i
  exact (hclient.post fun _ _ _ => trivial).mono fun s hs => ⟨hs, trivial⟩

/-- **Every statement of such a run leaves the store as it is, or commits to the filing.** -/
theorem commits_of_step {ps : List (Program σ ρ ε α)}
    (hps : ∀ p ∈ ps, D.Client (fun _ => True) p) {s : σ} (hs : D.sound s) {sched : List ℕ} {i : ℕ}
    {c₁ c₂ : Config σ ρ ε α} (h₁ : (Config.start s ps).exec sched = some c₁)
    (h₂ : c₁.step i = some c₂) :
    c₂.store = c₁.store ∨ ∃ L, D.Commits L c₁.store c₂.store := by
  have hcalm : (Config.start s ps).CalmRun (fun _ _ => True) (fun _ _ _ => True) []
      (sched ++ [i]) := Config.calmRun_of_forall (fun _ _ => trivial) (fun _ _ _ => trivial) _ _ _
  have hsound : ∀ (_ : ℕ) (L : List (ρ × LockMode)) (s s' : σ), D.Commits L s s' → D.sound s →
      D.sound s' := fun _ _ _ _ hcommit => hcommit.sound
  refine (Config.step_of_guarantees hsound (fun i p hp => ?_) hs h₁ h₂ hcalm).2.2
  have hclient := hps p (List.mem_of_getElem? hp) i
  exact (hclient.post fun _ _ _ => trivial).mono fun s hs => ⟨hs, trivial⟩

end Filing

end ReadCommitted
