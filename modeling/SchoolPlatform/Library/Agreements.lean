import SchoolPlatform.Library.Interleaving

/-!
# Transactions that act at one moment

Two stores agree as far as a client that holds certain locks is concerned, when what it may still
ask of them has the same answers. A body respects an agreement when each of its answers is the same on
stores that agree, and its changes lead to stores that agree (`Tx.Respects`). As long as all commits of
others lead to stores that agree with those before them, such a body does at its end what it does
with nobody else at work (`Inside.move`); and from stores that agree in everything it does the same
(`Tx.Respects.eval_same`).
-/

namespace ReadCommitted

variable {σ ρ ε α β : Type}

variable {body : Tx σ ρ ε β} {k : β → Program σ ρ ε α} {th : Thread σ ρ ε α}

/-- When two stores agree for a client that holds certain locks. More locks make the client see more,
and stores that agree for it have to agree in more. -/
structure Agreement (σ ρ : Type) where
  agrees : List (ρ × LockMode) → σ → σ → Prop
  refl : ∀ L s, agrees L s s
  symm : ∀ L s t, agrees L s t → agrees L t s
  trans : ∀ L s t u, agrees L s t → agrees L t u → agrees L s u
  mono : ∀ L L' s t, L ⊆ L' → agrees L' s t → agrees L s t

/-- Whatever the client locks, the stores agree. -/
def Agreement.Same (A : Agreement σ ρ) (s t : σ) : Prop := ∀ L, A.agrees L s t

/-- The body, entered with some locks on a store, sees nothing and does nothing that depends on more
than what stores agree in. -/
def Tx.Respects (A : Agreement σ ρ) : List (ρ × LockMode) → σ → Tx σ ρ ε α → Prop
  | _, _, .ret _ => True
  | _, _, .raise _ => True
  | held, s, .query q k =>
    (∀ t, A.agrees held s t → q t = q s) ∧ (k (q s)).Respects A held s
  | held, s, .lock rows k => ∀ t, A.agrees held s t → k.Respects A (rows ++ held) t
  | held, s, .write f k =>
    (∀ H t u, held ⊆ H → A.agrees H t u → A.agrees H (f t) (f u)) ∧ k.Respects A held (f s)

variable {A : Agreement σ ρ} {held : List (ρ × LockMode)} {s s' t : σ}

theorem Tx.Respects.of_agrees (h : body.Respects A held s) (hst : A.agrees held s t) :
    body.Respects A held t := by
  induction body generalizing held s t with
  | ret b => trivial
  | raise e => trivial
  | query q k ih =>
    obtain ⟨hq, hrest⟩ := h
    have hsame : q t = q s := hq t hst
    refine ⟨fun u hu => ?_, ?_⟩
    · rw [hsame]
      exact hq u (A.trans held s t u hst hu)
    · rw [hsame]
      exact ih (q s) hrest hst
  | lock rows k ih => exact fun u hu => h u (A.trans held s t u hst hu)
  | write f k ih =>
    exact ⟨h.1, ih h.2 (h.1 held s t (List.Subset.refl held) hst)⟩

theorem Tx.Respects.eval_same (h : body.Respects A held s) (hst : A.Same s t) :
    (∃ b s' t', body.eval s = .ok (b, s') ∧ body.eval t = .ok (b, t') ∧ A.Same s' t') ∨
      ∃ e, body.eval s = .error e ∧ body.eval t = .error e := by
  induction body generalizing held s t with
  | ret b => exact .inl ⟨b, s, t, rfl, rfl, hst⟩
  | raise e => exact .inr ⟨e, rfl, rfl⟩
  | query q k ih =>
    have hsame : q t = q s := h.1 t (hst held)
    have hrest := ih (q s) h.2 hst
    simp only [Tx.eval, hsame]
    exact hrest
  | lock rows k ih => exact ih (h s (A.refl held s)) hst
  | write f k ih =>
    refine ih h.2 fun L => ?_
    -- The change keeps what stores agree in for a client with still more locks.
    have hmore := h.1 (held ++ L) s t (List.subset_append_left held L) (hst _)
    exact A.mono L (held ++ L) _ _ (List.subset_append_right held L) hmore

/-- If the body, entered with some locks on this store, comes to its commit, it holds locks there that
satisfy `H`. -/
def Tx.EndsHolding (H : List (ρ × LockMode) → Prop) :
    List (ρ × LockMode) → σ → Tx σ ρ ε α → Prop
  | held, _, .ret _ => H held
  | _, _, .raise _ => True
  | held, s, .query q k => (k (q s)).EndsHolding H held s
  | held, s, .lock rows k => k.EndsHolding H (rows ++ held) s
  | held, s, .write f k => k.EndsHolding H held (f s)

/-- The thread is inside the transaction `body`, which goes on with `k`: on the store as it is, and on
all that agree with it, the rest of the body does what the body does. -/
structure Inside (A : Agreement σ ρ) (body : Tx σ ρ ε β) (k : β → Program σ ρ ε α)
    (th : Thread σ ρ ε α) (rest : Tx σ ρ ε β) (s : σ) : Prop where
  phase : th.phase = .busy rest k
  result : ∀ t, A.agrees th.held s t → body.eval t = rest.eval (th.view t)
  view : ∀ H t u, th.held ⊆ H → A.agrees H t u → A.agrees H (th.view t) (th.view u)
  respects : rest.Respects A th.held (th.view s)

theorem Inside.start (h : body.Respects A [] s) (hphase : th.phase = .busy body k)
    (hpending : th.pending = []) (hheld : th.held = []) : Inside A body k th body s := by
  have hview := Thread.view_of_none hpending
  refine ⟨hphase, fun t _ => ?_, fun H t u _ htu => ?_, ?_⟩
  · rw [hview]
  · rw [hview]
    exact htu
  · rw [hview, hheld]
    exact h

theorem Inside.interfere {rest : Tx σ ρ ε β} (h : Inside A body k th rest s)
    (hst : A.agrees th.held s t) :
    Inside A body k th rest t where
  phase := h.phase
  result := fun u hu => h.result u (A.trans _ s t u hst hu)
  view := h.view
  respects := h.respects.of_agrees (h.view th.held s t (List.Subset.refl _) hst)

theorem Inside.move {rest : Tx σ ρ ε β} {th' : Thread σ ρ ε α} {free : List (ρ × LockMode) → Bool}
    (h : Inside A body k th rest s) (hmove : th.move free s = some (th', s')) :
    (s' = s ∧ ∃ rest', Inside A body k th' rest' s) ∨
      (s' = (body.outcome k s).2 ∧ th' = .start (body.outcome k s).1) := by
  have hresult := h.result s (A.refl _ s)
  obtain ⟨hphase, hsame, hview, hrespects⟩ := h
  unfold Thread.move at hmove
  rw [hphase] at hmove
  cases rest with
  | ret b =>
    cases hmove
    refine .inr ?_
    unfold Tx.outcome
    rw [hresult]
    exact ⟨rfl, rfl⟩
  | raise e =>
    cases hmove
    refine .inr ?_
    unfold Tx.outcome
    rw [hresult]
    exact ⟨rfl, rfl⟩
  | query q k' =>
    cases hmove
    refine .inl ⟨rfl, k' (q (th.view s)), rfl, fun t ht => ?_, hview, hrespects.2⟩
    have hq : q (th.view t) = q (th.view s) :=
      hrespects.1 _ (hview th.held s t (List.Subset.refl _) ht)
    rw [hsame t ht]
    show (k' (q (th.view t))).eval (th.view t) = (k' (q (th.view s))).eval (th.view t)
    rw [hq]
  | lock rows k' =>
    dsimp only at hmove
    split at hmove
    · cases hmove
      have hsub : th.held ⊆ rows ++ th.held := List.subset_append_right _ _
      refine .inl ⟨rfl, k', rfl, fun t ht => hsame t (A.mono _ _ s t hsub ht), ?_, ?_⟩
      · exact fun H t u hH htu => hview H t u (List.Subset.trans hsub hH) htu
      · exact hrespects _ (A.refl _ _)
    · cases hmove
  | write f k' =>
    cases hmove
    have hafter := Thread.view_write th f (.busy k' k)
    refine .inl ⟨rfl, k', rfl, fun t ht => ?_, fun H t u hH htu => ?_, ?_⟩
    · rw [hafter]
      exact hsame t ht
    · rw [hafter]
      exact hrespects.1 H _ _ hH (hview H t u hH htu)
    · rw [hafter]
      exact hrespects.2

end ReadCommitted
