import Mathlib.Data.List.Basic
import Mathlib.Tactic.Common

/-!
# Client programs of a transactional store

A request handler talks to a database in transactions. A transaction (`Tx`) is a tree of
statements: it asks the store something, takes row locks, changes the store, and ends by
returning or by raising, which rolls it back. A program (`Program`) is a sequence of
transactions with single reading statements between them (a client in autocommit mode).

`Tx.eval` and `Program.run` say what a program does when nobody else is at work;
`Program.advance` is one unit of that execution, up to and including the next commit.
`Library.Interleaving` runs the same trees statement by statement beside each other.
-/

namespace ReadCommitted

/-- The strength of a row lock: a foreign key pointing at the row, a change of the row that
leaves its key alone, and a deletion or `FOR UPDATE`. -/
inductive LockMode
  | keyShare
  | noKeyUpdate
  | update
  deriving DecidableEq

/-- Two clients cannot hold locks of these strengths on one row. -/
def LockMode.conflict : LockMode → LockMode → Bool
  | .keyShare, m => decide (m = .update)
  | .noKeyUpdate, m => decide (m ≠ .keyShare)
  | .update, _ => true

/-- A transaction body over the store `σ`, with lockable rows `ρ` and errors `ε`. A nested
transaction is a savepoint: with no error caught inside it, it is its own body. -/
inductive Tx (σ ρ ε α : Type) : Type 1
  | ret (a : α)
  | raise (e : ε)
  | query {β : Type} (q : σ → β) (k : β → Tx σ ρ ε α)
  | lock (rows : List (ρ × LockMode)) (k : Tx σ ρ ε α)
  | write (f : σ → σ) (k : Tx σ ρ ε α)

/-- A client program: transactions in sequence, with reading statements of their own. -/
inductive Program (σ ρ ε α : Type) : Type 1
  | ret (a : α)
  | raise (e : ε)
  | peek {β : Type} (q : σ → β) (k : β → Program σ ρ ε α)
  | atomic {β : Type} (body : Tx σ ρ ε β) (k : β → Program σ ρ ε α)

variable {σ ρ ε α β : Type}

/-! ## Sequencing -/

/-- Sequencing of transaction bodies. -/
def Tx.bind : Tx σ ρ ε α → (α → Tx σ ρ ε β) → Tx σ ρ ε β
  | .ret a, g => g a
  | .raise e, _ => .raise e
  | .query q k, g => .query q fun b => (k b).bind g
  | .lock rows k, g => .lock rows (k.bind g)
  | .write f k, g => .write f (k.bind g)

instance : Monad (Tx σ ρ ε) where
  pure := Tx.ret
  bind := Tx.bind

def Program.bind : Program σ ρ ε α → (α → Program σ ρ ε β) → Program σ ρ ε β
  | .ret a, g => g a
  | .raise e, _ => .raise e
  | .peek q k, g => .peek q fun b => (k b).bind g
  | .atomic body k, g => .atomic body fun b => (k b).bind g

instance : Monad (Program σ ρ ε) where
  pure := Program.ret
  bind := Program.bind

theorem Tx.bind_assoc {γ : Type} (t : Tx σ ρ ε α) (g : α → Tx σ ρ ε β) (h : β → Tx σ ρ ε γ) :
    (t.bind g).bind h = t.bind fun a => (g a).bind h := by
  induction t with
  | ret a => rfl
  | raise e => rfl
  | query q k ih => exact congrArg (Tx.query q) (funext ih)
  | lock rows k ih => exact congrArg (Tx.lock rows) ih
  | write f k ih => exact congrArg (Tx.write f) ih

theorem Program.bind_assoc {γ : Type} (p : Program σ ρ ε α) (g : α → Program σ ρ ε β)
    (h : β → Program σ ρ ε γ) : (p.bind g).bind h = p.bind fun a => (g a).bind h := by
  induction p with
  | ret a => rfl
  | raise e => rfl
  | peek q k ih => exact congrArg (Program.peek q) (funext ih)
  | atomic body k ih => exact congrArg (Program.atomic body) (funext ih)

/-- A query as a transaction of one statement. -/
def Tx.select (q : σ → α) : Tx σ ρ ε α := .query q .ret

/-- A change as a transaction of one statement. -/
def Tx.update (f : σ → σ) : Tx σ ρ ε Unit := .write f (.ret ())

/-- Locks of one strength on some rows. -/
def Tx.lockRows (m : LockMode) (rows : List ρ) : Tx σ ρ ε Unit :=
  .lock (rows.map fun r => (r, m)) (.ret ())

/-- `SELECT … FOR UPDATE`: lock the rows found, then read those rows as they are once the locks
are held. -/
def Tx.selectForUpdate (find : σ → List ρ) (q : List ρ → σ → α) : Tx σ ρ ε α :=
  .query find fun rows => .lock (rows.map fun r => (r, .update)) (.query (q rows) .ret)

/-- `UPDATE … WHERE`: the rows found are locked until the end of the transaction and changed. -/
def Tx.updateWhere (find : σ → List ρ) (f : List ρ → σ → σ) : Tx σ ρ ε Unit :=
  .query find fun rows =>
    .lock (rows.map fun r => (r, .noKeyUpdate)) (.write (f rows) (.ret ()))

def Tx.forEach (body : β → Tx σ ρ ε Unit) : List β → Tx σ ρ ε Unit
  | [] => .ret ()
  | b :: bs => (body b).bind fun _ => Tx.forEach body bs

/-- Run a transaction and return its result. -/
def Program.transaction (body : Tx σ ρ ε α) : Program σ ρ ε α := .atomic body .ret

/-- A single reading statement. -/
def Program.read (q : σ → α) : Program σ ρ ε α := .peek q .ret

def Program.forEach (body : β → Program σ ρ ε Unit) : List β → Program σ ρ ε Unit
  | [] => .ret ()
  | b :: bs => (body b).bind fun _ => Program.forEach body bs

/-! ## Execution with nobody else at work -/

/-- What a transaction body does to the store it runs on: an error, or a result and the
store as the transaction leaves it. -/
def Tx.eval : Tx σ ρ ε α → σ → Except ε (α × σ)
  | .ret a, s => .ok (a, s)
  | .raise e, _ => .error e
  | .query q k, s => (k (q s)).eval s
  | .lock _ k, s => k.eval s
  | .write f k, s => k.eval (f s)

/-- The outcome of a transaction: a rolled back transaction leaves the store unchanged. -/
def Tx.outcome (t : Tx σ ρ ε β) (k : β → Program σ ρ ε α) (s : σ) : Program σ ρ ε α × σ :=
  match t.eval s with
  | .ok (b, s') => (k b, s')
  | .error e => (.raise e, s)

/-- One unit of execution: the reading statements up to the next transaction, and that
transaction. -/
def Program.advance : Program σ ρ ε α → σ → Program σ ρ ε α × σ
  | .ret a, s => (.ret a, s)
  | .raise e, s => (.raise e, s)
  | .peek q k, s => (k (q s)).advance s
  | .atomic body k, s => body.outcome k s

/-- What a client that stops after some units leaves behind. -/
def Program.stopAfter : ℕ → Program σ ρ ε α → σ → σ
  | 0, _, s => s
  | n + 1, p, s => (p.advance s).1.stopAfter n (p.advance s).2

/-- A whole execution: the result, or the error that ended the program, and the store. -/
def Program.run : Program σ ρ ε α → σ → Except ε α × σ
  | .ret a, s => (.ok a, s)
  | .raise e, s => (.error e, s)
  | .peek q k, s => (k (q s)).run s
  | .atomic body k, s =>
    match body.eval s with
    | .ok (b, s') => (k b).run s'
    | .error e => (.error e, s)

section Eval

variable (s : σ)

@[simp] theorem Tx.pure_eq (a : α) : (pure a : Tx σ ρ ε α) = .ret a := rfl

@[simp] theorem Tx.bind_eq (t : Tx σ ρ ε α) (g : α → Tx σ ρ ε β) : t >>= g = t.bind g := rfl

@[simp] theorem Program.pure_eq (a : α) : (pure a : Program σ ρ ε α) = .ret a := rfl

@[simp] theorem Program.bind_eq (p : Program σ ρ ε α) (g : α → Program σ ρ ε β) :
    p >>= g = p.bind g := rfl

@[simp] theorem Tx.eval_ret (a : α) : (Tx.ret a : Tx σ ρ ε α).eval s = .ok (a, s) := rfl

@[simp] theorem Tx.eval_raise (e : ε) : (Tx.raise e : Tx σ ρ ε α).eval s = .error e := rfl

@[simp] theorem Tx.eval_bind (t : Tx σ ρ ε α) (g : α → Tx σ ρ ε β) :
    (t.bind g).eval s = match t.eval s with
      | .ok (a, s') => (g a).eval s'
      | .error e => .error e := by
  induction t generalizing s with
  | ret a => rfl
  | raise e => rfl
  | query q k ih => exact ih (q s) s
  | lock rows k ih => exact ih s
  | write f k ih => exact ih (f s)

theorem Tx.eval_bind_ok {t : Tx σ ρ ε α} {g : α → Tx σ ρ ε β} {s s'' : σ} {b : β} :
    (t.bind g).eval s = .ok (b, s'') ↔
      ∃ a s', t.eval s = .ok (a, s') ∧ (g a).eval s' = .ok (b, s'') := by
  rw [Tx.eval_bind]
  cases h : t.eval s with
  | ok r =>
    constructor
    · exact fun hg => ⟨r.1, r.2, rfl, hg⟩
    · rintro ⟨a, s', ha, hg⟩
      cases ha
      exact hg
  | error e =>
    constructor
    · intro hg
      cases hg
    · rintro ⟨a, s', ha, -⟩
      cases ha

@[simp] theorem Tx.eval_select (q : σ → α) :
    (Tx.select q : Tx σ ρ ε α).eval s = .ok (q s, s) := rfl

@[simp] theorem Tx.eval_update (f : σ → σ) :
    (Tx.update f : Tx σ ρ ε Unit).eval s = .ok ((), f s) := rfl

@[simp] theorem Tx.eval_lockRows (m : LockMode) (rows : List ρ) :
    (Tx.lockRows m rows : Tx σ ρ ε Unit).eval s = .ok ((), s) := rfl

@[simp] theorem Tx.eval_selectForUpdate (find : σ → List ρ) (q : List ρ → σ → α) :
    (Tx.selectForUpdate find q : Tx σ ρ ε α).eval s = .ok (q (find s) s, s) := rfl

@[simp] theorem Tx.eval_updateWhere (find : σ → List ρ) (f : List ρ → σ → σ) :
    (Tx.updateWhere find f : Tx σ ρ ε Unit).eval s = .ok ((), f (find s) s) := rfl

theorem Tx.eval_ite (c : Prop) [Decidable c] (t u : Tx σ ρ ε α) :
    (if c then t else u).eval s = if c then t.eval s else u.eval s := by
  split <;> rfl

end Eval

/-! ## Bodies that only read, and programs that keep a part of the store -/

/-- Every change the body can make keeps the part `part` of the store. -/
def Tx.Keeps {κ : Type} (part : σ → κ) : Tx σ ρ ε α → Prop
  | .ret _ => True
  | .raise _ => True
  | .query _ k => ∀ b, (k b).Keeps part
  | .lock _ k => k.Keeps part
  | .write f k => (∀ s, part (f s) = part s) ∧ k.Keeps part

/-- Every transaction of the program keeps the part `part` of the store. -/
def Program.Keeps {κ : Type} (part : σ → κ) : Program σ ρ ε α → Prop
  | .ret _ => True
  | .raise _ => True
  | .peek _ k => ∀ b, (k b).Keeps part
  | .atomic body k => body.Keeps part ∧ ∀ b, (k b).Keeps part

section Keeps

variable {κ : Type} {part : σ → κ}

theorem Tx.Keeps.bind {t : Tx σ ρ ε α} {g : α → Tx σ ρ ε β} (ht : t.Keeps part)
    (hg : ∀ a, (g a).Keeps part) : (t.bind g).Keeps part := by
  induction t with
  | ret a => exact hg a
  | raise e => trivial
  | query q k ih => exact fun b => ih b (ht b)
  | lock rows k ih => exact ih ht
  | write f k ih => exact ⟨ht.1, ih ht.2⟩

theorem Program.Keeps.bind {p : Program σ ρ ε α} {g : α → Program σ ρ ε β} (hp : p.Keeps part)
    (hg : ∀ a, (g a).Keeps part) : (p.bind g).Keeps part := by
  induction p with
  | ret a => exact hg a
  | raise e => trivial
  | peek q k ih => exact fun b => ih b (hp b)
  | atomic body k ih => exact ⟨hp.1, fun b => ih b (hp.2 b)⟩

theorem Program.Keeps.forEach {body : β → Program σ ρ ε Unit} (h : ∀ b, (body b).Keeps part)
    (bs : List β) : (Program.forEach body bs).Keeps part := by
  induction bs with
  | nil => trivial
  | cons b bs ih => exact (h b).bind fun _ => ih

theorem Tx.Keeps.forEach {body : β → Tx σ ρ ε Unit} (h : ∀ b, (body b).Keeps part)
    (bs : List β) : (Tx.forEach body bs).Keeps part := by
  induction bs with
  | nil => trivial
  | cons b bs ih => exact (h b).bind fun _ => ih

/-- **Frame rule** for transactions. -/
theorem Tx.Keeps.eval {t : Tx σ ρ ε α} (ht : t.Keeps part) {s s' : σ} {a : α}
    (h : t.eval s = .ok (a, s')) : part s' = part s := by
  induction t generalizing s with
  | ret b =>
    simp only [Tx.eval_ret, Except.ok.injEq, Prod.mk.injEq] at h
    rw [h.2]
  | raise e => simp at h
  | query q k ih => exact ih (q s) (ht (q s)) h
  | lock rows k ih => exact ih ht h
  | write f k ih => exact (ih ht.2 h).trans (ht.1 s)

/-- **Frame rule** for one unit of a program: the part is kept, and what remains keeps it. -/
theorem Program.Keeps.advance {p : Program σ ρ ε α} (hp : p.Keeps part) (s : σ) :
    part (p.advance s).2 = part s ∧ (p.advance s).1.Keeps part := by
  induction p with
  | ret a => exact ⟨rfl, trivial⟩
  | raise e => exact ⟨rfl, trivial⟩
  | peek q k ih => exact ih (q s) (hp (q s))
  | atomic body k ih =>
    show part (body.outcome k s).2 = part s ∧ (body.outcome k s).1.Keeps part
    unfold Tx.outcome
    cases h : body.eval s with
    | error e => exact ⟨rfl, trivial⟩
    | ok r => exact ⟨hp.1.eval h, hp.2 r.1⟩

theorem Program.Keeps.stopAfter {p : Program σ ρ ε α} (hp : p.Keeps part) (n : ℕ) (s : σ) :
    part (p.stopAfter n s) = part s := by
  induction n generalizing p s with
  | zero => rfl
  | succ n ih =>
    have hunit := hp.advance s
    exact (ih hunit.2 _).trans hunit.1

theorem Program.Keeps.run {p : Program σ ρ ε α} (hp : p.Keeps part) (s : σ) :
    part (p.run s).2 = part s := by
  induction p generalizing s with
  | ret a => rfl
  | raise e => rfl
  | peek q k ih => exact ih (q s) (hp (q s)) s
  | atomic body k ih =>
    simp only [Program.run]
    cases h : body.eval s with
    | error e => rfl
    | ok r => exact (ih r.1 (hp.2 r.1) r.2).trans (hp.1.eval h)

end Keeps

/-! ## Invariants of the transactions of a program -/

/-- Every transaction of the program keeps the predicate `I` of the store. -/
def Program.Preserves (I : σ → Prop) : Program σ ρ ε α → Prop
  | .ret _ => True
  | .raise _ => True
  | .peek _ k => ∀ b, (k b).Preserves I
  | .atomic body k =>
    (∀ s b s', I s → body.eval s = .ok (b, s') → I s') ∧ ∀ b, (k b).Preserves I

section Preserves

variable {I : σ → Prop}

theorem Program.Preserves.bind {p : Program σ ρ ε α} {g : α → Program σ ρ ε β}
    (hp : p.Preserves I) (hg : ∀ a, (g a).Preserves I) : (p.bind g).Preserves I := by
  induction p with
  | ret a => exact hg a
  | raise e => trivial
  | peek q k ih => exact fun b => ih b (hp b)
  | atomic body k ih => exact ⟨hp.1, fun b => ih b (hp.2 b)⟩

theorem Program.Preserves.of_keeps {κ : Type} {part : σ → κ} {p : Program σ ρ ε α}
    (hI : ∀ s s', part s' = part s → I s → I s') (hp : p.Keeps part) : p.Preserves I := by
  induction p with
  | ret a => trivial
  | raise e => trivial
  | peek q k ih => exact fun b => ih b (hp b)
  | atomic body k ih =>
    exact ⟨fun s b s' hs h => hI s s' (hp.1.eval h) hs, fun b => ih b (hp.2 b)⟩

theorem Program.Preserves.run {p : Program σ ρ ε α} (hp : p.Preserves I) {s : σ} (hs : I s) :
    I (p.run s).2 := by
  induction p generalizing s with
  | ret a => exact hs
  | raise e => exact hs
  | peek q k ih => exact ih (q s) (hp (q s)) hs
  | atomic body k ih =>
    simp only [Program.run]
    cases h : body.eval s with
    | error e => exact hs
    | ok r => exact ih r.1 (hp.2 r.1) (hp.1 s r.1 r.2 hs h)

end Preserves

theorem Program.run_atomic {P : σ → Prop} {body : Tx σ ρ ε β} {k : β → Program σ ρ ε α} {s : σ}
    (hs : P s) (h : ∀ b s', body.eval s = .ok (b, s') → P ((k b).run s').2) :
    P ((Program.atomic body k).run s).2 := by
  simp only [Program.run]
  cases heval : body.eval s with
  | error e => exact hs
  | ok r => exact h r.1 r.2 heval

section Rename

variable (p : Program σ ρ ε α) (f : α → β) (s : σ)

theorem Program.advance_bind_ret : (p.bind fun a => .ret (f a)).advance s =
    ((p.advance s).1.bind fun a => .ret (f a), (p.advance s).2) := by
  induction p with
  | ret a => rfl
  | raise e => rfl
  | peek q k ih => exact ih (q s)
  | atomic body k ih =>
    simp only [Program.bind, Program.advance, Tx.outcome]
    cases body.eval s with
    | error e => rfl
    | ok r => rfl

theorem Program.stopAfter_bind_ret (n : ℕ) :
    (p.bind fun a => .ret (f a)).stopAfter n s = p.stopAfter n s := by
  induction n generalizing p s with
  | zero => rfl
  | succ n ih =>
    simp only [Program.stopAfter, Program.advance_bind_ret]
    exact ih _ _

end Rename

/-! ## Programs that only read -/

/-- On this store the program answers `a` without a transaction. -/
def Program.Answers : Program σ ρ ε α → σ → α → Prop
  | .ret b, _, a => b = a
  | .raise _, _, _ => False
  | .peek q k, s, a => (k (q s)).Answers s a
  | .atomic _ _, _, _ => False

section Answers

variable {p : Program σ ρ ε α} {s : σ} {a : α}

theorem Program.Answers.advance_bind (h : p.Answers s a) (g : α → Program σ ρ ε β) :
    (p.bind g).advance s = (g a).advance s := by
  induction p with
  | ret b =>
    obtain rfl : b = a := h
    rfl
  | raise e => exact h.elim
  | peek q k ih => exact ih (q s) h
  | atomic body k ih => exact h.elim

theorem Program.Answers.run_bind (h : p.Answers s a) (g : α → Program σ ρ ε β) :
    (p.bind g).run s = (g a).run s := by
  induction p with
  | ret b =>
    obtain rfl : b = a := h
    rfl
  | raise e => exact h.elim
  | peek q k ih => exact ih (q s) h
  | atomic body k ih => exact h.elim

theorem Program.Answers.bind {b : β} {g : α → Program σ ρ ε β} (h : p.Answers s a)
    (hg : (g a).Answers s b) : (p.bind g).Answers s b := by
  induction p with
  | ret c =>
    obtain rfl : c = a := h
    exact hg
  | raise e => exact h.elim
  | peek q k ih => exact ih (q s) h
  | atomic body k ih => exact h.elim

theorem Program.Answers.run_eq (h : p.Answers s a) : p.run s = (.ok a, s) := by
  induction p with
  | ret b =>
    obtain rfl : b = a := h
    rfl
  | raise e => exact h.elim
  | peek q k ih => exact ih (q s) h
  | atomic body k ih => exact h.elim

theorem Program.run_read (q : σ → α) (g : α → Program σ ρ ε β) (s : σ) :
    ((Program.read q).bind g).run s = (g (q s)).run s := rfl

theorem Program.run_transaction_ok {t : Tx σ ρ ε β} {g : β → Program σ ρ ε α} {b : β} {s s' : σ}
    (h : t.eval s = .ok (b, s')) : ((Program.transaction t).bind g).run s = (g b).run s' := by
  simp only [Program.transaction, Program.bind, Program.run, h]

theorem Program.run_transaction_error {t : Tx σ ρ ε β} {g : β → Program σ ρ ε α} {e : ε} {s : σ}
    (h : t.eval s = .error e) : ((Program.transaction t).bind g).run s = (.error e, s) := by
  simp only [Program.transaction, Program.bind, Program.run, h]

theorem Program.run_bind (p : Program σ ρ ε α) (g : α → Program σ ρ ε β) (s : σ) :
    (p.bind g).run s = match p.run s with
      | (.ok a, s') => (g a).run s'
      | (.error e, s') => (.error e, s') := by
  induction p generalizing s with
  | ret a => rfl
  | raise e => rfl
  | peek q k ih => exact ih (q s) s
  | atomic body k ih =>
    simp only [Program.bind, Program.run]
    cases body.eval s with
    | error e => rfl
    | ok r => exact ih r.1 r.2

theorem Program.run_bind_ret (p : Program σ ρ ε α) (f : α → β) (s : σ) :
    ((p.bind fun a => .ret (f a)).run s).2 = (p.run s).2 := by
  rw [Program.run_bind]
  cases h : p.run s with
  | mk result s' => cases result <;> rfl

end Answers

/-! ## Failing transactions and ended programs -/

/-- Some answers to its queries make the body raise. -/
def Tx.MayRaise : Tx σ ρ ε α → Prop
  | .ret _ => False
  | .raise _ => True
  | .query _ k => ∃ b, (k b).MayRaise
  | .lock _ k => k.MayRaise
  | .write _ k => k.MayRaise

/-- Some answers to its queries make the next transaction of the program raise. -/
def Program.MayFail : Program σ ρ ε α → Prop
  | .ret _ => False
  | .raise _ => False
  | .peek _ k => ∃ b, (k b).MayFail
  | .atomic body _ => body.MayRaise

def Program.Ended : Program σ ρ ε α → Prop
  | .ret _ => True
  | .raise _ => True
  | _ => False

theorem Program.Ended.advance {p : Program σ ρ ε α} (h : p.Ended) (s : σ) :
    p.advance s = (p, s) := by
  cases p with
  | ret a => rfl
  | raise e => rfl
  | peek q k => exact h.elim
  | atomic body k => exact h.elim

theorem Program.Ended.stopAfter {p : Program σ ρ ε α} (h : p.Ended) (n : ℕ) (s : σ) :
    p.stopAfter n s = s := by
  induction n with
  | zero => rfl
  | succ n ih =>
    rw [Program.stopAfter, h.advance]
    exact ih

/-- **Invariant rule for whole executions.** What each unit of a program keeps holds when the
program has ended. -/
theorem Program.run_invariant (P : Program σ ρ ε α → σ → Prop)
    (hadvance : ∀ p s, P p s → P (p.advance s).1 (p.advance s).2)
    (p : Program σ ρ ε α) (s : σ) (h : P p s) : ∃ q : Program σ ρ ε α, q.Ended ∧ P q (p.run s).2 := by
  -- The reading statements before a transaction belong to its unit, so the induction carries
  -- what holds after the next unit.
  suffices hgen : ∀ s, P (p.advance s).1 (p.advance s).2 →
      ∃ q : Program σ ρ ε α, q.Ended ∧ P q (p.run s).2 from hgen s (hadvance p s h)
  clear h s
  induction p with
  | ret a => exact fun s h => ⟨.ret a, trivial, h⟩
  | raise e => exact fun s h => ⟨.raise e, trivial, h⟩
  | peek q k ih => exact fun s h => ih (q s) s h
  | atomic body k ih =>
    intro s h
    simp only [Program.advance, Tx.outcome] at h
    simp only [Program.run]
    cases hb : body.eval s with
    | error e =>
      simp only [hb] at h
      exact ⟨.raise e, trivial, h⟩
    | ok r =>
      simp only [hb] at h
      exact ih r.1 r.2 (hadvance _ _ h)

theorem Tx.MayRaise.of_bind {t : Tx σ ρ ε α} {g : α → Tx σ ρ ε β} (h : (t.bind g).MayRaise) :
    t.MayRaise ∨ ∃ a, (g a).MayRaise := by
  induction t with
  | ret a => exact .inr ⟨a, h⟩
  | raise e => exact .inl trivial
  | query q k ih =>
    obtain ⟨b, hb⟩ := h
    exact (ih b hb).imp_left fun hk => ⟨b, hk⟩
  | lock rows k ih => exact ih h
  | write f k ih => exact ih h

theorem Program.MayFail.of_bind {p : Program σ ρ ε α} {g : α → Program σ ρ ε β}
    (h : (p.bind g).MayFail) : p.MayFail ∨ ∃ a, (g a).MayFail := by
  induction p with
  | ret a => exact .inr ⟨a, h⟩
  | raise e => exact h.elim
  | peek q k ih =>
    obtain ⟨b, hb⟩ := h
    exact (ih b hb).imp_left fun hk => ⟨b, hk⟩
  | atomic body k ih => exact .inl h

/-!
## A transaction of a part, as one of the whole

A body over a part of a store is a body over the store: it reads and changes that part, and locks
its rows under their names in the whole.
-/

/-- Where a part of a store is found and how it is replaced, and what its rows and errors are called
in the whole. -/
structure Part (σ τ ρ ρ' ε ε' : Type) where
  get : τ → σ
  set : σ → τ → τ
  row : ρ → ρ'
  error : ε → ε'

variable {σ τ ρ ρ' ε ε' α β : Type}

/-- The body, over the whole store. -/
def Tx.zoom (part : Part σ τ ρ ρ' ε ε') : Tx σ ρ ε α → Tx τ ρ' ε' α
  | .ret a => .ret a
  | .raise e => .raise (part.error e)
  | .query q k => .query (fun t => q (part.get t)) fun b => (k b).zoom part
  | .lock rows k => .lock (rows.map fun r => (part.row r.1, r.2)) (k.zoom part)
  | .write f k => .write (fun t => part.set (f (part.get t)) t) (k.zoom part)

/-- The program, over the whole store. -/
def Program.zoom (part : Part σ τ ρ ρ' ε ε') : Program σ ρ ε α → Program τ ρ' ε' α
  | .ret a => .ret a
  | .raise e => .raise (part.error e)
  | .peek q k => .peek (fun t => q (part.get t)) fun b => (k b).zoom part
  | .atomic body k => .atomic (body.zoom part) fun b => (k b).zoom part

theorem Tx.zoom_bind (part : Part σ τ ρ ρ' ε ε') (t : Tx σ ρ ε α) (g : α → Tx σ ρ ε β) :
    (t.bind g).zoom part = (t.zoom part).bind fun a => (g a).zoom part := by
  induction t with
  | ret a => rfl
  | raise e => rfl
  | query q k ih => exact congrArg (Tx.query _) (funext ih)
  | lock rows k ih => exact congrArg (Tx.lock _) ih
  | write f k ih => exact congrArg (Tx.write _) ih

@[simp] theorem Tx.zoom_ret (part : Part σ τ ρ ρ' ε ε') (a : α) :
    (Tx.ret a : Tx σ ρ ε α).zoom part = .ret a := rfl

@[simp] theorem Tx.zoom_update (part : Part σ τ ρ ρ' ε ε') (f : σ → σ) :
    (Tx.update f : Tx σ ρ ε Unit).zoom part =
      Tx.update fun t => part.set (f (part.get t)) t := rfl

@[simp] theorem Tx.zoom_lockRows (part : Part σ τ ρ ρ' ε ε') (m : LockMode) (rows : List ρ) :
    (Tx.lockRows m rows : Tx σ ρ ε Unit).zoom part = Tx.lockRows m (rows.map part.row) := by
  simp [Tx.lockRows, Tx.zoom, Function.comp_def]

theorem Tx.Keeps.zoom {κ κ' : Type} {part : Part σ τ ρ ρ' ε ε'} {keep : σ → κ} {keep' : τ → κ'}
    (hset : ∀ s t, keep s = keep (part.get t) → keep' (part.set s t) = keep' t) {t : Tx σ ρ ε α}
    (h : t.Keeps keep) : (t.zoom part).Keeps keep' := by
  induction t with
  | ret a => trivial
  | raise e => trivial
  | query q k ih => exact fun b => ih b (h b)
  | lock rows k ih => exact ih h
  | write f k ih => exact ⟨fun s => hset _ s (h.1 _), ih h.2⟩

theorem Program.Keeps.zoom {κ κ' : Type} {part : Part σ τ ρ ρ' ε ε'} (keep : σ → κ)
    {keep' : τ → κ'} (hset : ∀ s t, keep s = keep (part.get t) → keep' (part.set s t) = keep' t)
    {p : Program σ ρ ε α} (h : p.Keeps keep) : (p.zoom part).Keeps keep' := by
  induction p with
  | ret a => trivial
  | raise e => trivial
  | peek q k ih => exact fun b => ih b (h b)
  | atomic body k ih => exact ⟨h.1.zoom hset, fun b => ih b (h.2 b)⟩

end ReadCommitted
