import SchoolPlatform.Library.Guarantees
import Mathlib.Data.List.Induction

/-!
# Runs of clients that are annotated from the start

When every client meets its entry assertion on the first store, all of them stay in the middle of
their annotated programs, those that have returned included: what a client has returned satisfies
its postcondition as long as the run goes on. `Config.Asserted.exec` takes with it an invariant that
may need more than the assertions say, namely what every statement of the run does to the store
(`Config.EachStep`), and a relation between the stores of the run.
-/

/-!
## Calls that are not disturbed

The clients of a store make calls. A run leaves its calls undisturbed when each of them begins on a
store on which it may begin, and no commit of another one does, while it is under way, what the call
cannot stand. Along such a run the calls may rely on this, and on what all of them promise of their
commits.
-/

namespace ReadCommitted

variable {σ ρ ε α Call : Type}

theorem Change.Keeps.imp {R : Change σ ρ} {held : List (ρ × LockMode)} {I A : σ → Prop} {p : Prop}
    (hI : R.Keeps held I) (h : R.Keeps held fun s => I s ∧ A s) :
    R.Keeps held fun s => I s ∧ (p → A s) := by
  intro L s s' hcompat hR hs
  refine ⟨hI L s s' hcompat hR hs.1, fun hp => ?_⟩
  exact (h L s s' hcompat hR ⟨hs.1, hs.2 hp⟩).2

/-- A commit of another call, beside one that is not disturbed. -/
def alongside (I : σ → Prop) (G : Change σ ρ) (undisturbed : σ → σ → Prop) : Change σ ρ :=
  fun L s s' => I s ∧ undisturbed s s' ∧ G L s s'

section Keeps

variable {I : σ → Prop} {G : Change σ ρ} {undisturbed : σ → σ → Prop}
  {held : List (ρ × LockMode)} {A : σ → Prop}

theorem alongside_keeps (hG : ∀ L s s', G L s s' → I s → I s')
    (h : ∀ L s s', Compatible held L → G L s s' → undisturbed s s' → I s → A s → A s') :
    (alongside I G undisturbed).Keeps held fun s => I s ∧ A s := by
  intro L s s' hcompat hothers hs
  obtain ⟨-, hcalm, hcommit⟩ := hothers
  exact ⟨hG L s s' hcommit hs.1, h L s s' hcompat hcommit hcalm hs.1 hs.2⟩

theorem alongside_keeps_invariant (hG : ∀ L s s', G L s s' → I s → I s') :
    (alongside I G undisturbed).Keeps held I :=
  fun L s s' _ hothers hs => hG L s s' hothers.2.2 hs

end Keeps

variable [DecidableEq ρ] (program : Call → Program σ ρ ε α) (mayBegin : Call → σ → Prop)
  (undisturbed : Call → σ → σ → Prop)

/-- Each call begins on a store on which it may begin, and is not disturbed by the others. -/
def UndisturbedRun (calls : List Call) (s : σ) (sched : List ℕ) : Prop :=
  (Config.start s (calls.map program)).CalmRun (fun i s => ∀ call ∈ calls[i]?, mayBegin call s)
    (fun i s s' => ∀ call ∈ calls[i]?, undisturbed call s s') [] sched

variable {program mayBegin undisturbed} {calls : List Call} {s : σ} {sched : List ℕ}

section Runs

variable {I : σ → Prop} {G : Change σ ρ} (hG : ∀ L s s', G L s s' → I s → I s')
  (hcalls : ∀ call ∈ calls,
    (alongside I G (undisturbed call)).Keeps [] (fun s => I s ∧ mayBegin call s) ∧
      (program call).Asserts (alongside I G (undisturbed call)) G (fun _ _ => True)
        fun s => I s ∧ mayBegin call s)
include hG hcalls

/-- **Every commit of an undisturbed run is one that the calls promise**, on a store that satisfies
the invariant. -/
theorem UndisturbedRun.step (hs : I s) {i : ℕ} {c₁ c₂ : Config σ ρ ε α}
    (h₁ : (Config.start s (calls.map program)).exec sched = some c₁) (h₂ : c₁.step i = some c₂)
    (hcalm : UndisturbedRun program mayBegin undisturbed calls s (sched ++ [i])) :
    I c₁.store ∧ I c₂.store ∧ (c₂.store = c₁.store ∨ ∃ L, G L c₁.store c₂.store) := by
  let relies : ℕ → Change σ ρ := fun i L s s' =>
    ∀ call ∈ calls[i]?, alongside I G (undisturbed call) L s s'
  have hstart : (Config.start s (calls.map program)).Annotated relies (fun _ => G)
      (fun _ _ _ => True) (calls.map program) [] := Config.annotated_start s
  have hany : (Config.start s (calls.map program)).EachStep (fun _ _ => True) (sched ++ [i]) :=
    Config.eachStep_of_forall (fun _ _ => trivial) _ _
  refine hstart.last_step (fun _ L s s' hcommit _ hs => hG L s s' hcommit hs) ?_ ?_ sched h₁ h₂
    hcalm hany hs
  · intro i j L s s' _ hcommit _ hs hquiet call hcall
    exact ⟨hs, hquiet call hcall, hcommit⟩
  · intro j p s hp hs hbegin
    rw [List.getElem?_map, Option.map_eq_some_iff] at hp
    obtain ⟨call, hcall, rfl⟩ := hp
    have hsame : relies j = alongside I G (undisturbed call) := by
      funext L s s'
      simp [relies, hcall]
    rw [hsame]
    obtain ⟨hkept, hasserts⟩ := hcalls call (List.mem_of_getElem? hcall)
    exact ⟨_, ⟨hs, hbegin call hcall⟩, hkept, hasserts⟩

/-- **The invariant holds wherever an undisturbed run leads.** -/
theorem UndisturbedRun.invariant (hs : I s) {c : Config σ ρ ε α}
    (h : (Config.start s (calls.map program)).exec sched = some c)
    (hcalm : UndisturbedRun program mayBegin undisturbed calls s sched) : I c.store := by
  induction sched using List.reverseRecOn generalizing c with
  | nil =>
    simp only [Config.exec, Option.some.injEq] at h
    rw [← h]
    exact hs
  | append_singleton sched i _ =>
    rw [Config.exec_append, Option.bind_eq_some_iff] at h
    obtain ⟨c₁, h₁, hlast⟩ := h
    simp only [Config.exec, Option.bind_fun_some] at hlast
    exact (UndisturbedRun.step hG hcalls hs h₁ hlast hcalm).2.1

end Runs

variable {σ ρ ε α : Type}

theorem ThreadAsserts.returned {R G : Change σ ρ} {Post : α → σ → Prop} {s : σ}
    {th : Thread σ ρ ε α} (h : ThreadAsserts R G Post s th) {a : α}
    (hphase : th.phase = .idle (.ret a)) : Post a s := by
  cases h with
  | idle p K phase _ _ holds _ asserts =>
    rw [hphase] at phase
    cases phase
    exact asserts s holds
  | busy γ rest k J Q phase =>
    rw [hphase] at phase
    cases phase

def Thread.answer? (th : Thread σ ρ ε α) : Option α :=
  match th.phase with
  | .idle (.ret a) => some a
  | _ => none

/-- What a client has returned. -/
def Config.answer? (c : Config σ ρ ε α) (i : ℕ) : Option α := (c.threads[i]?).bind Thread.answer?

theorem Config.answer?_eq_some {c : Config σ ρ ε α} {i : ℕ} {a : α} (h : c.answer? i = some a) :
    ∃ th, c.threads[i]? = some th ∧ th.phase = .idle (.ret a) := by
  unfold Config.answer? at h
  rw [Option.bind_eq_some_iff] at h
  obtain ⟨th, hth, hanswer⟩ := h
  refine ⟨th, hth, ?_⟩
  unfold Thread.answer? at hanswer
  split at hanswer
  · rename_i hphase
    cases hanswer
    exact hphase
  · cases hanswer

/-- All clients are in the middle of their annotated programs. -/
structure Config.Asserted (R G : ℕ → Change σ ρ) (Post : ℕ → α → σ → Prop)
    (c : Config σ ρ ε α) : Prop where
  locks : c.LocksOk
  threads : ∀ (i : ℕ) (th : Thread σ ρ ε α), c.threads[i]? = some th →
    ThreadAsserts (R i) (G i) (Post i) c.store th

variable {R G : ℕ → Change σ ρ} {Post : ℕ → α → σ → Prop} {ps : List (Program σ ρ ε α)}

theorem Config.asserted_start {s : σ} (h : ∀ (i : ℕ) (p : Program σ ρ ε α), ps[i]? = some p →
    ∃ K : σ → Prop, K s ∧ (R i).Keeps [] K ∧ p.Asserts (R i) (G i) (Post i) K) :
    (Config.start s ps).Asserted R G Post where
  locks := Config.locksOk_start s ps
  threads := by
    intro i th hth
    simp only [Config.start, List.getElem?_map, Option.map_eq_some_iff] at hth
    obtain ⟨p, hp, rfl⟩ := hth
    obtain ⟨K, hK, hkept, hasserts⟩ := h i p hp
    exact .idle p K rfl rfl rfl hK hkept hasserts

theorem Config.Asserted.post {c : Config σ ρ ε α} (h : c.Asserted R G Post) {i : ℕ} {a : α}
    (ha : c.answer? i = some a) : Post i a c.store := by
  obtain ⟨th, hth, hphase⟩ := Config.answer?_eq_some ha
  exact (h.threads i th hth).returned hphase

variable [DecidableEq ρ] {ok : σ → σ → Prop} {I : σ → Prop}

theorem Config.lt_of_exec {l : List ℕ} {c c' : Config σ ρ ε α} (h : c.exec l = some c') {i : ℕ}
    (hi : i ∈ l) : i < c.threads.length := by
  induction l generalizing c with
  | nil => cases hi
  | cons j js ih =>
    rw [Config.exec, Option.bind_eq_some_iff] at h
    obtain ⟨c₁, hstep, hrest⟩ := h
    obtain ⟨th, th', s', hth, -, rfl⟩ := Config.step_eq_some hstep
    rcases List.mem_cons.mp hi with rfl | hlater
    · exact (List.getElem?_eq_some_iff.mp hth).1
    · have hlt := ih hrest hlater
      rwa [List.length_set] at hlt

theorem Config.length_exec {l : List ℕ} {c c' : Config σ ρ ε α} (h : c.exec l = some c') :
    c'.threads.length = c.threads.length := by
  induction l generalizing c with
  | nil =>
    cases h
    rfl
  | cons j js ih =>
    rw [Config.exec, Option.bind_eq_some_iff] at h
    obtain ⟨c₁, hstep, hrest⟩ := h
    obtain ⟨th, th', s', -, -, rfl⟩ := Config.step_eq_some hstep
    rw [ih hrest, List.length_set]

theorem Config.Asserted.step
    (hR : ∀ i j L s s', i ≠ j → G i L s s' → ok s s' → I s → R j L s s')
    {c c' : Config σ ρ ε α} {i : ℕ} (h : c.Asserted R G Post) (hI : I c.store)
    (hstep : c.step i = some c') (hok : ok c.store c'.store) :
    c'.Asserted R G Post ∧ (c'.store = c.store ∨ ∃ L, G i L c.store c'.store) := by
  have hlocks := h.locks.step hstep
  obtain ⟨th, th', s', hth, hmove, rfl⟩ := Config.step_eq_some hstep
  obtain ⟨hmoved, hstore⟩ := (h.threads i th hth).move hmove
  refine ⟨⟨hlocks, ?_⟩, hstore.imp_right fun hcommit => ⟨_, hcommit⟩⟩
  intro j u hu
  by_cases hij : i = j
  · subst hij
    rw [List.getElem?_set_self', hth] at hu
    cases hu
    exact hmoved
  · rw [List.getElem?_set_ne hij] at hu
    have hbefore := h.threads j u hu
    rcases hstore with hsame | hcommit
    · show ThreadAsserts (R j) (G j) (Post j) s' u
      rw [hsame]
      exact hbefore
    · exact hbefore.interfere (h.locks j i u th (Ne.symm hij) hu hth)
        (hR i j _ _ _ hij hcommit hok hI)

/-- **Soundness of assertions from the start.** -/
theorem Config.Asserted.exec {P : σ → σ → Prop} (hrefl : ∀ s, P s s)
    (htrans : ∀ s t u, P s t → P t u → P s u) (sched : List ℕ)
    (hG : ∀ i ∈ sched, ∀ L s s', G i L s s' → ok s s' → I s → I s' ∧ P s s')
    (hR : ∀ i j L s s', i ≠ j → G i L s s' → ok s s' → I s → R j L s s')
    {c c' : Config σ ρ ε α} (h : c.Asserted R G Post) (hI : I c.store)
    (hexec : c.exec sched = some c') (hok : c.EachStep ok sched) :
    c'.Asserted R G Post ∧ I c'.store ∧ P c.store c'.store := by
  induction sched generalizing c with
  | nil =>
    cases hexec
    exact ⟨h, hI, hrefl _⟩
  | cons i is ih =>
    rw [Config.exec, Option.bind_eq_some_iff] at hexec
    obtain ⟨c₁, hstep, hrest⟩ := hexec
    obtain ⟨hstepOk, hrestOk⟩ := hok c₁ hstep
    obtain ⟨hnext, hstore⟩ := h.step hR hI hstep hstepOk
    have hafter : I c₁.store ∧ P c.store c₁.store := by
      rcases hstore with hsame | ⟨L, hcommit⟩
      · rw [hsame]
        exact ⟨hI, hrefl _⟩
      · exact hG i List.mem_cons_self L _ _ hcommit hstepOk hI
    obtain ⟨hlast, hI', hP⟩ := ih (fun j hj => hG j (List.mem_cons_of_mem _ hj)) hnext hafter.1
      hrest hrestOk
    exact ⟨hlast, hI', htrans _ _ _ hafter.2 hP⟩

end ReadCommitted
