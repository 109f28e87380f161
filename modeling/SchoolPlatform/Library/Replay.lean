import Mathlib.Logic.Function.Basic
import Mathlib.Data.List.Nodup
import Mathlib.Tactic.Common

/-!
# Logs of changes

A log tells of each change of a value under a key what the value was and what it became. `Replays`
says that it leads from one assignment of values to another, with nothing left out: each entry names
the value that the entries before it have led to.
-/

/-- An entry of a log. -/
structure Revision (κ ν : Type) where
  key : κ
  previous : ν
  current : ν
  deriving DecidableEq

variable {κ ν α : Type} [DecidableEq κ]

/-- The log leads from the first assignment to the second. -/
def Replays : (κ → ν) → List (Revision κ ν) → (κ → ν) → Prop
  | f, [], g => f = g
  | f, r :: log, g => f r.key = r.previous ∧ Replays (Function.update f r.key r.current) log g

theorem Replays.append {f g h : κ → ν} {log log' : List (Revision κ ν)} (hfg : Replays f log g)
    (hgh : Replays g log' h) : Replays f (log ++ log') h := by
  induction log generalizing f with
  | nil =>
    have hsame : f = g := hfg
    rw [hsame]
    exact hgh
  | cons r log ih => exact ⟨hfg.1, ih hfg.2⟩

theorem Replays.of_diff {f g : κ → ν} (entries : List α) (key : α → κ)
    (hkeys : (entries.map key).Nodup) (hrest : ∀ k, k ∉ entries.map key → f k = g k) :
    Replays f (entries.map fun a => ⟨key a, f (key a), g (key a)⟩) g := by
  suffices hfrom : ∀ f' : κ → ν, (∀ a ∈ entries, f' (key a) = f (key a)) →
      (∀ k, k ∉ entries.map key → f' k = g k) →
      Replays f' (entries.map fun a => ⟨key a, f (key a), g (key a)⟩) g from
    hfrom f (fun _ _ => rfl) hrest
  clear hrest
  induction entries with
  | nil => exact fun f' _ hrest => funext fun k => hrest k List.not_mem_nil
  | cons a entries ih =>
    intro f' hbefore hrest
    rw [List.map_cons, List.nodup_cons] at hkeys
    refine ⟨hbefore a List.mem_cons_self, ih hkeys.2 _ (fun b hb => ?_) fun k hk => ?_⟩
    · have hne : key b ≠ key a := fun h => hkeys.1 (h ▸ List.mem_map_of_mem hb)
      rw [Function.update_of_ne hne]
      exact hbefore b (List.mem_cons_of_mem a hb)
    · by_cases hka : k = key a
      · rw [hka]
        exact Function.update_self ..
      · rw [Function.update_of_ne hka]
        refine hrest k ?_
        rw [List.map_cons, List.mem_cons]
        exact fun h => h.elim hka hk
