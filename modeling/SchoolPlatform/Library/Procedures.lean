import Mathlib.Tactic.Common

/-!
# Programs whose steps may fail

A program works on a world that has no transactions of its own: when a step fails, what was done
before it stays done, and the error travels to the next handler. How a step ends is given with the
program (`Outcome`): it is done, it fails, or it fails after it was done. `Procedure.Ends` is the
triple of such programs, with an assertion for each of the two ways to end.
-/

/-- How a step ends: a step may report an error although it took effect. -/
inductive Outcome
  | done | failed | failedDone
  deriving DecidableEq

/-- A program on the world `σ`: it ends with a result or an error, and leaves a world. -/
def Procedure (σ ε α : Type) : Type := σ → Except ε α × σ

namespace Procedure

variable {σ ε α β : Type}

def ret (a : α) : Procedure σ ε α := fun s => (.ok a, s)

def raise (e : ε) : Procedure σ ε α := fun s => (.error e, s)

def bind (p : Procedure σ ε α) (g : α → Procedure σ ε β) : Procedure σ ε β := fun s =>
  match p s with
  | (.ok a, s') => g a s'
  | (.error e, s') => (.error e, s')

instance instMonad : Monad (Procedure σ ε) where
  pure := ret
  bind := bind

/-- Look at the world. -/
def read (q : σ → α) : Procedure σ ε α := fun s => (.ok (q s), s)

/-- A change that does not fail. -/
def modify (f : σ → σ) : Procedure σ ε Unit := fun s => (.ok (), f s)

/-- A change that may fail. -/
def step (o : Outcome) (e : ε) (f : σ → σ) : Procedure σ ε Unit := fun s =>
  match o with
  | .done => (.ok (), f s)
  | .failed => (.error e, s)
  | .failedDone => (.error e, f s)

/-- What must be there, or an error. -/
def need (a : Option α) (e : ε) : Procedure σ ε α := a.elim (raise e) ret

/-- `try … except`. -/
def attempt (p : Procedure σ ε α) (handler : ε → Procedure σ ε α) : Procedure σ ε α := fun s =>
  match p s with
  | (.ok a, s') => (.ok a, s')
  | (.error e, s') => handler e s'

/-- `try … finally`: an error of the last part takes the place of what came before it. -/
def andFinally (p : Procedure σ ε α) (last : Procedure σ ε Unit) : Procedure σ ε α := fun s =>
  match p s with
  | (.ok a, s') => last.bind (fun _ => ret a) s'
  | (.error e, s') => last.bind (fun _ => raise e) s'

/-- A transaction on a part of the world: `restore s s'` is `s'` with that part as in `s`. -/
def transaction (restore : σ → σ → σ) (commit : Outcome) (e : ε) (p : Procedure σ ε α) :
    Procedure σ ε α := fun s =>
  match p s with
  | (.error e', s') => (.error e', restore s s')
  | (.ok a, s') =>
    match commit with
    | .done => (.ok a, s')
    | .failed => (.error e, restore s s')
    | .failedDone => (.error e, s')

@[simp] theorem pure_eq (a : α) : (pure a : Procedure σ ε α) = ret a := rfl

@[simp] theorem bind_eq (p : Procedure σ ε α) (g : α → Procedure σ ε β) : p >>= g = p.bind g := rfl

/-- What is asserted of the end of a program: of a result with `Q`, of an error with `E`. -/
def Meets (Q : α → σ → Prop) (E : ε → σ → Prop) : Except ε α × σ → Prop
  | (.ok a, s) => Q a s
  | (.error e, s) => E e s

/-- From a world with `P` the program returns with `Q` or raises with `E`. -/
def Ends (P : σ → Prop) (p : Procedure σ ε α) (Q : α → σ → Prop) (E : ε → σ → Prop) : Prop :=
  ∀ s, P s → Meets Q E (p s)

variable {P : σ → Prop} {Q : α → σ → Prop} {E : ε → σ → Prop} {p : Procedure σ ε α}

theorem Meets.mono {Q' : α → σ → Prop} {E' : ε → σ → Prop} {r : Except ε α × σ}
    (h : Meets Q E r) (hQ : ∀ a s, Q a s → Q' a s) (hE : ∀ e s, E e s → E' e s) :
    Meets Q' E' r := by
  obtain ⟨result, s⟩ := r
  cases result with
  | ok a => exact hQ a s h
  | error e => exact hE e s h

theorem Meets.returns {r : Except ε α × σ} (h : Meets Q (fun _ _ => False) r) :
    ∃ a, r.1 = .ok a ∧ Q a r.2 := by
  obtain ⟨result, s⟩ := r
  cases result with
  | ok a => exact ⟨a, rfl, h⟩
  | error e => exact h.elim

theorem Ends.after {I : σ → Prop} (h : Ends P p (fun _ => I) fun _ => I) {s : σ} (hs : P s) :
    I (p s).2 := by
  have hend := h s hs
  cases hp : p s with
  | mk result s' =>
    rw [hp] at hend
    cases result with
    | ok a => exact hend
    | error e => exact hend

section Worlds

variable {R : β → σ → Prop} {g : α → Procedure σ ε β} {k : Unit → Procedure σ ε β} {s : σ}
  {o : Outcome} {e : ε} {f : σ → σ}

theorem Meets.bind (hp : Meets Q E (p s)) (hg : ∀ a s', Q a s' → Meets R E (g a s')) :
    Meets R E (p.bind g s) := by
  unfold Procedure.bind
  cases h : p s with
  | mk result s' =>
    rw [h] at hp
    cases result with
    | ok a => exact hg a s' hp
    | error e => exact hp

theorem Ends.bind (hp : Ends P p Q E) (hg : ∀ a, Ends (Q a) (g a) R E) :
    Ends P (p.bind g) R E :=
  fun s hs => (hp s hs).bind hg

theorem meets_read {q : σ → α} (h : Meets R E (g (q s) s)) : Meets R E ((read q).bind g s) := h

theorem meets_modify (h : Meets R E (k () (f s))) : Meets R E ((modify f).bind k s) := h

theorem meets_need {a : Option α} (hsome : ∀ x, a = some x → Meets R E (g x s))
    (hnone : a = none → E e s) : Meets R E ((need a e).bind g s) := by
  cases a with
  | none => exact hnone rfl
  | some x => exact hsome x rfl

theorem meets_step (hdone : o = .done → Meets R E (k () (f s))) (hfailed : o = .failed → E e s)
    (hlate : o = .failedDone → E e (f s)) : Meets R E ((step o e f).bind k s) := by
  cases o with
  | done => exact hdone rfl
  | failed => exact hfailed rfl
  | failedDone => exact hlate rfl

theorem meets_look (hdone : o = .done → Meets R E (k () s)) (herror : o ≠ .done → E e s) :
    Meets R E ((step o e fun s => s).bind k s) := by
  apply meets_step hdone
  · rintro rfl
    exact herror (by decide)
  · rintro rfl
    exact herror (by decide)

theorem meets_look_last {Q : Unit → σ → Prop} (hdone : o = .done → Q () s)
    (herror : o ≠ .done → E e s) : Meets Q E (step o e (fun s => s) s) := by
  cases o with
  | done => exact hdone rfl
  | failed => exact herror (by decide)
  | failedDone => exact herror (by decide)

theorem bind_ok {s' : σ} {a : α} (hp : p s = (.ok a, s')) : p.bind g s = g a s' := by
  unfold Procedure.bind
  rw [hp]

theorem meets_of_ok {s' : σ} {a : α} (hp : p s = (.ok a, s')) (h : Meets R E (g a s')) :
    Meets R E (p.bind g s) := by
  rw [bind_ok hp]
  exact h

theorem Meets.attempt {M : ε → σ → Prop} {handler : ε → Procedure σ ε α} (hp : Meets Q M (p s))
    (hhandler : ∀ e s', M e s' → Meets Q E (handler e s')) : Meets Q E (p.attempt handler s) := by
  unfold Procedure.attempt
  cases h : p s with
  | mk result s' =>
    rw [h] at hp
    cases result with
    | ok a => exact hp
    | error e => exact hhandler e s' hp

theorem Meets.andFinally {M : α → σ → Prop} {N : ε → σ → Prop} {last : Procedure σ ε Unit}
    (hp : Meets M N (p s)) (hok : ∀ a s', M a s' → Meets (fun _ => Q a) E (last s'))
    (herror : ∀ e s', N e s' → Meets (fun _ => E e) E (last s')) :
    Meets Q E (p.andFinally last s) := by
  unfold Procedure.andFinally
  cases h : p s with
  | mk result s' =>
    rw [h] at hp
    cases result with
    | ok a => exact (hok a s' hp).bind fun _ _ hq => hq
    | error e => exact (herror e s' hp).bind fun _ _ he => he

theorem meets_transaction {restore : σ → σ → σ} {commit : Outcome} {M : α → σ → Prop}
    {N : ε → σ → Prop} (hp : Meets M N (p s)) (hdone : commit = .done → ∀ a s', M a s' → Q a s')
    (hfailed : commit = .failed → ∀ a s', M a s' → E e (restore s s'))
    (hlate : commit = .failedDone → ∀ a s', M a s' → E e s')
    (herror : ∀ e' s', N e' s' → E e' (restore s s')) :
    Meets Q E (transaction restore commit e p s) := by
  unfold transaction
  cases h : p s with
  | mk result s' =>
    rw [h] at hp
    cases result with
    | error e' => exact herror e' s' hp
    | ok a =>
      cases commit with
      | done => exact hdone rfl a s' hp
      | failed => exact hfailed rfl a s' hp
      | failedDone => exact hlate rfl a s' hp

end Worlds

end Procedure
