import Mathlib.Data.Finset.Card
import Mathlib.Data.Finset.Max
import Mathlib.Data.Int.Basic

/-!
# Keeping the newest of the newest slots

Things have a time and belong to slots. Of a set of them the newest of each slot is kept, as long as
fewer than a limit of slots have something newer (`Kept`). Such a selection can be repeated, and it
can be made early: what it would choose from a larger set it also chooses from a part
(`Retaining.mono`), and when nothing that it chooses is missing it chooses the same
(`Retaining.sandwich`). Both laws are kept when one of several selections is enough.
-/

namespace Retention

variable {α τ κ : Type} [LinearOrder τ] [DecidableEq κ] {time : α → τ} {key : α → κ} {limit : ℤ}
  {s t : Finset α} {x y : α}

/-- The slots that have something newer than `x`. -/
def newerSlots (time : α → τ) (key : α → κ) (s : Finset α) (x : α) : Finset κ :=
  (s.filter fun y => time x < time y).image key

/-- Nothing in the slot of `x` is newer, and fewer slots than the limit have something newer. -/
def Kept (time : α → τ) (key : α → κ) (limit : ℤ) (s : Finset α) (x : α) : Prop :=
  x ∈ s ∧ key x ∉ newerSlots time key s x ∧ (newerSlots time key s x).card < limit

theorem mem_newerSlots {k : κ} :
    k ∈ newerSlots time key s x ↔ ∃ y ∈ s, time x < time y ∧ key y = k := by
  unfold newerSlots
  simp only [Finset.mem_image, Finset.mem_filter, and_assoc]

theorem newerSlots_mono (hsub : s ⊆ t) :
    newerSlots time key s x ⊆ newerSlots time key t x := by
  intro k hk
  obtain ⟨y, hy, hlt, hkey⟩ := mem_newerSlots.mp hk
  exact mem_newerSlots.mpr ⟨y, hsub hy, hlt, hkey⟩

theorem newerSlots_le (h : time x ≤ time y) :
    newerSlots time key s y ⊆ newerSlots time key s x := by
  intro k hk
  obtain ⟨z, hz, hlt, hkey⟩ := mem_newerSlots.mp hk
  exact mem_newerSlots.mpr ⟨z, hz, h.trans_lt hlt, hkey⟩

theorem Kept.mono (hsub : s ⊆ t) (hx : x ∈ s) (h : Kept time key limit t x) :
    Kept time key limit s x := by
  obtain ⟨-, hslot, hcard⟩ := h
  have hslots : newerSlots time key s x ⊆ newerSlots time key t x := newerSlots_mono hsub
  have hle := Finset.card_le_card hslots
  exact ⟨hx, fun hmem => hslot (newerSlots_mono hsub hmem), by omega⟩

theorem exists_newest (time : α → τ) (hne : s.Nonempty) : ∃ r ∈ s, ∀ y ∈ s, ¬ time r < time y := by
  obtain ⟨r, hr, hmax⟩ := s.exists_max_image time hne
  exact ⟨r, hr, fun y hy => not_lt.mpr (hmax y hy)⟩

theorem exists_kept_of_slot (hslot : key x ∈ newerSlots time key t x)
    (hcard : (newerSlots time key t x).card < limit) :
    ∃ r, Kept time key limit t r ∧ time x < time r ∧ key r = key x := by
  obtain ⟨y, hy, hlt, hkey⟩ := mem_newerSlots.mp hslot
  obtain ⟨r, hr, hnewest⟩ := exists_newest time
    (s := t.filter fun z => time x < time z ∧ key z = key x) ⟨y, by simp [hy, hlt, hkey]⟩
  obtain ⟨hrt, hrlt, hrkey⟩ := Finset.mem_filter.mp hr
  have hslots : newerSlots time key t r ⊆ newerSlots time key t x := newerSlots_le (le_of_lt hrlt)
  have hle := Finset.card_le_card hslots
  refine ⟨r, ⟨hrt, fun hmem => ?_, by omega⟩, hrlt, hrkey⟩
  obtain ⟨z, hz, hzlt, hzkey⟩ := mem_newerSlots.mp hmem
  exact hnewest z (Finset.mem_filter.mpr ⟨hz, hrlt.trans hzlt, hzkey.trans hrkey⟩) hzlt

theorem limit_le_card_kept (s : Finset α) (hkept : ∀ y, Kept time key limit t y → y ∈ s)
    (hcard : limit ≤ (newerSlots time key t x).card) :
    limit ≤ (newerSlots time key s x).card := by
  by_contra hfew
  rw [not_le] at hfew
  have hless : (newerSlots time key s x).card < (newerSlots time key t x).card := by omega
  obtain ⟨k, hk, hnot⟩ := Finset.exists_mem_notMem_of_card_lt_card hless
  obtain ⟨y, hy, hlt, hkey⟩ := mem_newerSlots.mp hk
  -- the newest of what is newer than `x` in a slot that `s` does not show is kept
  obtain ⟨r, hr, hnewest⟩ := exists_newest time
    (s := t.filter fun z => time x < time z ∧ key z ∉ newerSlots time key s x)
    ⟨y, by simp [hy, hlt, hkey, hnot]⟩
  obtain ⟨hrt, hrlt, hrslot⟩ := Finset.mem_filter.mp hr
  have hsub : newerSlots time key t r ⊆ newerSlots time key s x := by
    intro k hk
    obtain ⟨z, hz, hzlt, hzkey⟩ := mem_newerSlots.mp hk
    by_contra hout
    exact hnewest z (Finset.mem_filter.mpr ⟨hz, hrlt.trans hzlt, hzkey ▸ hout⟩) hzlt
  have hle := Finset.card_le_card hsub
  have hr : Kept time key limit t r := ⟨hrt, fun hmem => hrslot (hsub hmem), by omega⟩
  exact hrslot (mem_newerSlots.mpr ⟨r, hkept r hr, hrlt, rfl⟩)

/-- A selection from sets that chooses from a part what it would choose from the whole, and the
same from a part that has all of it. -/
structure Retaining (P : Finset α → α → Prop) : Prop where
  mem : ∀ s x, P s x → x ∈ s
  mono : ∀ s t x, s ⊆ t → x ∈ s → P t x → P s x
  sandwich : ∀ s t x, s ⊆ t → (∀ y, P t y → y ∈ s) → P s x → P t x

theorem retaining_kept : Retaining (Kept time key limit) where
  mem := fun _ _ h => h.1
  mono := fun _ _ _ hsub hx h => h.mono hsub hx
  sandwich := by
    intro s t x hsub hkept h
    obtain ⟨hx, hslot, hcard⟩ := h
    have hcard' : (newerSlots time key t x).card < limit := by
      by_contra hnot
      have hle := limit_le_card_kept s hkept (not_lt.mp hnot)
      omega
    refine ⟨hsub hx, fun hmem => ?_, hcard'⟩
    obtain ⟨r, hr, hlt, hkey⟩ := exists_kept_of_slot hmem hcard'
    exact hslot (mem_newerSlots.mpr ⟨r, hkept r hr, hlt, hkey⟩)

namespace Retaining

variable {P Q : Finset α → α → Prop}

theorem or (hP : Retaining P) (hQ : Retaining Q) : Retaining fun s x => P s x ∨ Q s x where
  mem := fun s x h => h.elim (hP.mem s x) (hQ.mem s x)
  mono := fun s t x hsub hx h => h.imp (hP.mono s t x hsub hx) (hQ.mono s t x hsub hx)
  sandwich := fun s t x hsub hkept h =>
    h.imp (hP.sandwich s t x hsub fun y hy => hkept y (.inl hy))
      (hQ.sandwich s t x hsub fun y hy => hkept y (.inr hy))

theorem iff_of_sandwich (hP : Retaining P) (hsub : s ⊆ t) (hkept : ∀ y, P t y → y ∈ s) :
    P s x ↔ P t x :=
  ⟨hP.sandwich s t x hsub hkept, fun h => hP.mono s t x hsub (hkept x h) h⟩

end Retaining

end Retention
