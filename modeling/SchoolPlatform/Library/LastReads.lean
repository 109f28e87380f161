import SchoolPlatform.Library.Interleaving

/-!
# What a client does with its last answer

A client that reads and then stores what it has read does harm when the answer has become old in
between. `Program.Acts` says of each statement of a program what it does to the store, given the last
answer that it has got; `Config.Acting.step` says so of each step of a run. Whether the last answer
still stands is a matter of the run (`Thread.LastReadStands`).
-/

namespace ReadCommitted

variable {σ ρ ε α : Type}

def lastStands : List (σ → Prop) → σ → Prop
  | [], _ => True
  | r :: _, s => r s

def Thread.LastReadStands (th : Thread σ ρ ε α) (s : σ) : Prop := lastStands th.reads s

/-- The change that the body commits, its last answer and its result are related by `W`; answers are
those of stores with `Ok`. -/
def Tx.Acts (Ok : σ → Prop) (W : (σ → Prop) → (σ → σ) → α → Prop) :
    (σ → Prop) → (σ → σ) → Tx σ ρ ε α → Prop
  | last, view, .ret a => W last view a
  | _, _, .raise _ => True
  | _, view, .query q k => ∀ b, (∃ s, Ok s ∧ q (view s) = b) →
      (k b).Acts Ok W (fun s => q (view s) = b) view
  | last, view, .lock _ k => k.Acts Ok W last view
  | last, view, .write f k => k.Acts Ok W last fun s => f (view s)

/-- Each commit of the program is related by `W` to the last answer before it and to what remains of
the program; a reading statement is a commit that changes nothing. -/
def Program.Acts (Ok : σ → Prop) (W : (σ → Prop) → (σ → σ) → Program σ ρ ε α → Prop) :
    (σ → Prop) → Program σ ρ ε α → Prop
  | _, .ret _ => True
  | _, .raise _ => True
  | _, .peek q k => ∀ b, (∃ s, Ok s ∧ q s = b) →
      W (fun _ => True) (fun s => s) (k b) ∧ (k b).Acts Ok W fun s => q s = b
  | last, .atomic body k =>
      body.Acts Ok (fun last f b => W last f (k b)) last (fun s => s) ∧
        ∀ b, (k b).Acts Ok W fun _ => True

variable {Ok : σ → Prop} {W : (σ → Prop) → (σ → σ) → Program σ ρ ε α → Prop}

theorem Program.Acts.bind {β : Type} {W' : (σ → Prop) → (σ → σ) → Program σ ρ ε β → Prop}
    {p : Program σ ρ ε α} {g : α → Program σ ρ ε β} {last : σ → Prop} (hp : p.Acts Ok W last)
    (hW : ∀ last f rest, W last f rest → W' last f (rest.bind g))
    (hg : ∀ a last, (g a).Acts Ok W' last) : (p.bind g).Acts Ok W' last := by
  induction p generalizing last with
  | ret a => exact hg a last
  | raise e => trivial
  | peek q k ih => exact fun b hb => ⟨hW _ _ _ (hp b hb).1, ih b (hp b hb).2⟩
  | atomic body k ih =>
    refine ⟨?_, fun b => ih b (hp.2 b)⟩
    have hbody := hp.1
    revert hbody
    generalize (fun s => s : σ → σ) = view
    clear hp ih hg
    intro hbody
    induction body generalizing last view with
    | ret b => exact hW _ _ _ hbody
    | raise e => trivial
    | query q k' ih => exact fun b hb => ih b _ (hbody b hb)
    | lock rows k' ih => exact ih _ hbody
    | write f k' ih => exact ih _ hbody

theorem Tx.Keeps.acts {κ : Type} {part : σ → κ} {β : Type} {V : (σ → Prop) → (σ → σ) → β → Prop}
    {t : Tx σ ρ ε β} (h : t.Keeps part)
    (hV : ∀ last f b, (∀ s, part (f s) = part s) → V last f b) {last : σ → Prop} :
    t.Acts Ok V last fun s => s := by
  suffices hview : ∀ (last : σ → Prop) (view : σ → σ), (∀ s, part (view s) = part s) →
      t.Acts Ok V last view from hview last _ fun _ => rfl
  induction t with
  | ret b => exact fun last view hview => hV last view b hview
  | raise e => exact fun _ _ _ => trivial
  | query q k ih => exact fun _ view hview b _ => ih b (h b) _ view hview
  | lock rows k ih => exact fun last view hview => ih h last view hview
  | write f k ih => exact fun last view hview => ih h.2 last _ fun s => (h.1 _).trans (hview s)

inductive ThreadActs (Ok : σ → Prop) (W : (σ → Prop) → (σ → σ) → Program σ ρ ε α → Prop)
    (th : Thread σ ρ ε α) : Prop
  | idle (p : Program σ ρ ε α) (phase : th.phase = .idle p) (pending : th.pending = [])
      (acts : p.Acts Ok W (lastStands th.reads))
  | busy (γ : Type) (rest : Tx σ ρ ε γ) (k : γ → Program σ ρ ε α) (phase : th.phase = .busy rest k)
      (acts : rest.Acts Ok (fun last f b => W last f (k b)) (lastStands th.reads) th.view)
      (follows : ∀ b, (k b).Acts Ok W fun _ => True)

/-- What one statement of a thread does: nothing that others see, or what `W` says. -/
structure Acted (W : (σ → Prop) → (σ → σ) → Program σ ρ ε α → Prop) (th th' : Thread σ ρ ε α)
    (s s' : σ) (last : σ → Prop) (f : σ → σ) (p : Program σ ρ ε α) : Prop where
  stands : th.LastReadStands s → last s
  related : W last f p
  store : s' = f s
  phase : th'.phase = .idle p

theorem ThreadActs.move {th th' : Thread σ ρ ε α} {s s' : σ}
    {free : List (ρ × LockMode) → Bool} (h : ThreadActs Ok W th) (hs : Ok s)
    (hmove : th.move free s = some (th', s')) :
    ThreadActs Ok W th' ∧
      (s' = s ∧ th'.returned = false ∨ ∃ last f p, Acted W th th' s s' last f p) := by
  cases h with
  | idle p phase pending acts =>
    unfold Thread.move at hmove
    rw [phase] at hmove
    cases p with
    | ret a => cases hmove
    | raise e => cases hmove
    | peek q k =>
      cases hmove
      obtain ⟨hrelated, hrest⟩ := acts (q s) ⟨s, hs, rfl⟩
      exact ⟨.idle _ rfl pending hrest, .inr ⟨_, _, _, fun _ => trivial, hrelated, rfl, rfl⟩⟩
    | atomic body k =>
      cases hmove
      refine ⟨.busy _ body k rfl ?_ acts.2, .inl ⟨rfl, rfl⟩⟩
      show body.Acts Ok _ _ th.view
      rw [Thread.view_of_none pending]
      exact acts.1
  | busy γ rest k phase acts follows =>
    unfold Thread.move at hmove
    rw [phase] at hmove
    cases rest with
    | ret b =>
      cases hmove
      exact ⟨.idle _ rfl rfl (follows b), .inr ⟨_, _, _, fun h => h, acts, rfl, rfl⟩⟩
    | raise e =>
      cases hmove
      exact ⟨.idle _ rfl rfl trivial, .inl ⟨rfl, rfl⟩⟩
    | query q k' =>
      cases hmove
      exact ⟨.busy _ (k' (q (th.view s))) k rfl (acts _ ⟨s, hs, rfl⟩) follows, .inl ⟨rfl, rfl⟩⟩
    | lock rows k' =>
      dsimp only at hmove
      split at hmove
      · cases hmove
        exact ⟨.busy _ k' k rfl acts follows, .inl ⟨rfl, rfl⟩⟩
      · cases hmove
    | write f k' =>
      cases hmove
      refine ⟨.busy _ k' k rfl ?_ follows, .inl ⟨rfl, rfl⟩⟩
      rw [Thread.view_write]
      exact acts

/-- Every thread is in the middle of such a program. -/
def Config.Acting (Ok : σ → Prop) (Ws : ℕ → (σ → Prop) → (σ → σ) → Program σ ρ ε α → Prop)
    (c : Config σ ρ ε α) : Prop :=
  ∀ (i : ℕ) (th : Thread σ ρ ε α), c.threads[i]? = some th → ThreadActs Ok (Ws i) th

variable {Ws : ℕ → (σ → Prop) → (σ → σ) → Program σ ρ ε α → Prop}

theorem Config.acting_start {ps : List (Program σ ρ ε α)}
    (h : ∀ (i : ℕ) (p : Program σ ρ ε α), ps[i]? = some p → p.Acts Ok (Ws i) fun _ => True)
    (s : σ) : (Config.start s ps).Acting Ok Ws := by
  intro i th hth
  rw [Config.start, List.getElem?_map, Option.map_eq_some_iff] at hth
  obtain ⟨p, hp, rfl⟩ := hth
  exact .idle p rfl rfl (h i p hp)

section

variable [DecidableEq ρ]

/-- **What a step of the run does**: nothing that others see, or what is said of its client. -/
theorem Config.Acting.step {c c' : Config σ ρ ε α} {i : ℕ} (h : c.Acting Ok Ws) (hs : Ok c.store)
    (hstep : c.step i = some c') :
    c'.Acting Ok Ws ∧ ∃ th th', c.threads[i]? = some th ∧ c'.threads[i]? = some th' ∧
      (c'.store = c.store ∧ th'.returned = false ∨
        ∃ last f p, Acted (Ws i) th th' c.store c'.store last f p) := by
  obtain ⟨th, th', s', hth, hmove, rfl⟩ := Config.step_eq_some hstep
  have hlt : i < c.threads.length := (List.getElem?_eq_some_iff.mp hth).1
  obtain ⟨hacts, hstore⟩ := (h i th hth).move hs hmove
  refine ⟨fun j u hu => ?_, th, th', hth, List.getElem?_set_self hlt, hstore⟩
  by_cases hij : i = j
  · subst hij
    exact getElem?_set_of_some hth hu ▸ hacts
  · rw [List.getElem?_set_ne hij] at hu
    exact h j u hu

end

end ReadCommitted
