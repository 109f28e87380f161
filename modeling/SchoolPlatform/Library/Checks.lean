import SchoolPlatform.Library.Filing

/-!
# Checks on the way through a transaction

A check that fails ends the transaction, and so does a value that is missing. What has been checked
is known to the rest of the body.
-/

namespace ReadCommitted

variable {σ ρ ε α β κ : Type} {φ : κ → Type}

variable {g : Unit → Tx σ ρ ε β} {a : Option α} {k : α → Program σ ρ ε β}

/-- A check that has to succeed. -/
def Tx.require (c : Bool) (e : ε) : Tx σ ρ ε Unit := if c then .ret () else .raise e

/-- A value that has to be there. -/
def Tx.need (a : Option α) (e : ε) : Tx σ ρ ε α := a.elim (.raise e) .ret

/-- A value that has to be there, outside a transaction. -/
def Program.need (a : Option α) (e : ε) : Program σ ρ ε α := a.elim (.raise e) .ret

/-- A check that has to succeed, outside a transaction. -/
def Program.require (c : Bool) (e : ε) : Program σ ρ ε Unit := if c then .ret () else .raise e

variable {c : Bool} {e : ε}

section Eval

variable {s s' : σ} {b : β}

theorem Tx.eval_require_bind :
    ((Tx.require c e).bind g).eval s = .ok (b, s') ↔ c = true ∧ (g ()).eval s = .ok (b, s') := by
  cases c with
  | true => exact ⟨fun h => ⟨rfl, h⟩, fun h => h.2⟩
  | false => exact ⟨fun h => (nomatch h), fun h => (nomatch h.1)⟩

theorem Tx.eval_need_bind {g : α → Tx σ ρ ε β} :
    ((Tx.need a e).bind g).eval s = .ok (b, s') ↔ ∃ x, a = some x ∧ (g x).eval s = .ok (b, s') := by
  cases a with
  | none => exact ⟨fun h => (nomatch h), fun ⟨_, h, _⟩ => (nomatch h)⟩
  | some x => exact ⟨fun h => ⟨x, rfl, h⟩, fun ⟨_, h, hg⟩ => Option.some.inj h ▸ hg⟩

end Eval

section Spec

variable {D : Filing σ ρ κ φ} {L : List (ρ × LockMode)} {B : σ → σ → Prop}
  {B' : β → σ → σ → Prop} {A : σ → Prop}

theorem Filing.Spec.require (hg : c = true → D.Spec L B (g ()) B') :
    D.Spec L B ((Tx.require c e).bind g) B' := by
  cases c with
  | true => exact hg rfl
  | false => exact Filing.Spec.raise

theorem Filing.Spec.need {g : α → Tx σ ρ ε β} (hg : ∀ x, a = some x → D.Spec L B (g x) B') :
    D.Spec L B ((Tx.need a e).bind g) B' := by
  cases a with
  | none => exact Filing.Spec.raise
  | some x => exact hg x rfl

theorem Filing.Client.need (hk : ∀ x, a = some x → D.Client A (k x)) :
    D.Client A ((Program.need a e).bind k) := by
  cases a with
  | none => exact Filing.Client.raise e
  | some x => exact hk x rfl

theorem Filing.Client.require {k : Unit → Program σ ρ ε β} (hk : c = true → D.Client A (k ())) :
    D.Client A ((Program.require c e).bind k) := by
  cases c with
  | true => exact hk rfl
  | false => exact Filing.Client.raise e

end Spec

section Asserts

variable {R G : Change σ ρ} {Q : β → σ → Prop} {J : σ → Prop} {held : List (ρ × LockMode)}
  {view : σ → σ}

theorem Tx.Asserts.require (hg : c = true → (g ()).Asserts R G Q J held view) :
    ((Tx.require c e).bind g).Asserts R G Q J held view := by
  cases c with
  | true => exact hg rfl
  | false => trivial

theorem Tx.Asserts.need {g : α → Tx σ ρ ε β}
    (hg : ∀ x, a = some x → (g x).Asserts R G Q J held view) :
    ((Tx.need a e).bind g).Asserts R G Q J held view := by
  cases a with
  | none => trivial
  | some x => exact hg x rfl

theorem Program.Asserts.require {k : Unit → Program σ ρ ε β}
    (hk : c = true → (k ()).Asserts R G Q J) : ((Program.require c e).bind k).Asserts R G Q J := by
  cases c with
  | true => exact hk rfl
  | false => trivial

theorem Program.Asserts.need (hk : ∀ x, a = some x → (k x).Asserts R G Q J) :
    ((Program.need a e).bind k).Asserts R G Q J := by
  cases a with
  | none => trivial
  | some x => exact hk x rfl

theorem Program.Asserts.read {q : σ → α} (A : α → σ → Prop) (hread : ∀ s, J s → A (q s) s)
    (hkept : ∀ a, R.Keeps [] (A a)) (hrest : ∀ a, (k a).Asserts R G Q (A a)) :
    ((Program.read q).bind k).Asserts R G Q J := ⟨A, hread, hkept, hrest⟩

theorem Program.Asserts.transaction {t : Tx σ ρ ε β}
    (h : t.Asserts R G (fun _ _ => True) J [] fun s => s) :
    (Program.transaction t).Asserts R G (fun _ _ => True) J :=
  ⟨fun _ _ => True, h, fun _ => Change.keeps_const _ _ True, fun _ _ _ => trivial⟩

end Asserts

end ReadCommitted
