import Mathlib.Data.Char
import Mathlib.Data.Finset.Card
import SchoolPlatform.Library.KeySort
import SchoolPlatform.Library.Text

/-!
# The order of a school purge

A school is deleted together with every model that refers to it. The models are put in an order in
which each comes before what it refers to, so that no row is deleted that a remaining row still
refers to. Rounds of a loop take away the models that no remaining one refers to.
-/

namespace SchoolPlatform.SchoolPurge

variable {M : Type} [DecidableEq M]

structure ModelField (M : Type) where
  attname : Text
  remoteModel : Option M
  deriving DecidableEq

/-- The installed models. The registry of the framework holds one model for each lower-case
label. -/
structure Registry (M : Type) where
  models : List M
  concreteFields : M → List (ModelField M)
  label : M → Text
  labelLower : M → Text
  school : M
  labelLower_inj : ∀ a ∈ models, ∀ b ∈ models, labelLower a = labelLower b → a = b

/-- The elements of a set in the order in which a loop meets them; it may be another one in every
round. -/
structure Iteration (M : Type) where
  order : ℕ → Finset M → List M
  mem_order : ∀ n s m, m ∈ order n s ↔ m ∈ s
  nodup : ∀ n s, (order n s).Nodup

structure SchoolScopedModel (M : Type) where
  model : M
  schoolField : ModelField M
  deriving DecidableEq

namespace Registry

/-- `scoped.get(model)`: the first field that refers to the school. -/
def schoolField (r : Registry M) (m : M) : Option (ModelField M) :=
  (r.concreteFields m).find? fun f => f.remoteModel = some r.school

/-- The keys of `scoped`. -/
def scopedModels (r : Registry M) : Finset M :=
  (r.models.filter fun m => (r.schoolField m).isSome).toFinset

def dependencies (r : Registry M) (m : M) : Finset M :=
  ((r.concreteFields m).filterMap fun f => f.remoteModel).toFinset.filter fun target =>
    target ∈ r.scopedModels ∧ target ≠ m

/-- The models that no remaining one refers to, by their labels. -/
def ready (r : Registry M) (iteration : Iteration M) (round : ℕ) (remaining : Finset M) : List M :=
  KeySort.sortBy r.labelLower ((iteration.order round remaining).filter fun m =>
    ¬ ∃ other ∈ remaining, m ∈ r.dependencies other)

def circularMessage (r : Registry M) (iteration : Iteration M) (round : ℕ)
    (remaining : Finset M) : Text :=
  "Circular school purge dependencies: ".toList ++
    List.intercalate ", ".toList
      (KeySort.sortBy (fun label => label) ((iteration.order round remaining).map r.label))

theorem mem_ready {r : Registry M} {iteration : Iteration M} {round : ℕ} {remaining : Finset M}
    {m : M} :
    m ∈ r.ready iteration round remaining ↔
      m ∈ remaining ∧ ∀ other ∈ remaining, m ∉ r.dependencies other := by
  unfold ready
  rw [(KeySort.perm_sortBy _ _).mem_iff, List.mem_filter, iteration.mem_order, decide_eq_true_eq]
  simp only [not_exists, not_and]

theorem card_sdiff_ready_lt {r : Registry M} {iteration : Iteration M} {round : ℕ}
    {remaining : Finset M} (h : r.ready iteration round remaining ≠ []) :
    (remaining \ (r.ready iteration round remaining).toFinset).card < remaining.card := by
  obtain ⟨m, hm⟩ := List.exists_mem_of_ne_nil _ h
  refine Finset.card_lt_card (Finset.ssubset_iff_subset_ne.mpr ⟨Finset.sdiff_subset, fun heq => ?_⟩)
  have hleft : m ∈ remaining \ (r.ready iteration round remaining).toFinset := by
    rw [heq]
    exact (mem_ready.mp hm).1
  exact (Finset.mem_sdiff.mp hleft).2 (List.mem_toFinset.mpr hm)

/-- `while remaining:`, from some round on. -/
def stripRemaining (r : Registry M) (iteration : Iteration M) (round : ℕ) (remaining : Finset M)
    (ordered : List M) : Except Text (List M) :=
  if remaining = ∅ then .ok ordered
  else if r.ready iteration round remaining = [] then
    .error (r.circularMessage iteration round remaining)
  else
    r.stripRemaining iteration (round + 1)
      (remaining \ (r.ready iteration round remaining).toFinset)
      (ordered ++ r.ready iteration round remaining)
termination_by remaining.card
decreasing_by exact card_sdiff_ready_lt ‹_›

def schoolScopedModelsInDeleteOrder (r : Registry M) (iteration : Iteration M) :
    Except Text (List (SchoolScopedModel M)) := do
  let ordered ← r.stripRemaining iteration 0 r.scopedModels []
  pure (ordered.filterMap fun m => (r.schoolField m).map fun f => ⟨m, f⟩)

end Registry

end SchoolPlatform.SchoolPurge
