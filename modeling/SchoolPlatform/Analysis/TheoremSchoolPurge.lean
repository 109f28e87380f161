import SchoolPlatform.Library.Stripping
import SchoolPlatform.Model.SchoolPurge

/-!
# The order of a school purge is topological

What a round takes away is referred to by nothing that remains, and it is something unless the
remaining models refer to each other in a cycle. So the loop ends with an order in which references
lead onwards, or with the error, which it raises just when there is a cycle. A round finds its
models by membership and sorts them by labels that tell them apart, so the order in which a loop
meets the elements of a set does not matter.
-/

namespace SchoolPlatform.SchoolPurge

open Stripping

variable {M : Type} {r : Registry M} {iteration iteration' : Iteration M}

def Registry.IsScoped (r : Registry M) (m : M) : Prop :=
  m ∈ r.models ∧ ∃ f ∈ r.concreteFields m, f.remoteModel = some r.school

/-- A model that belongs to a school refers to another one. -/
def Registry.RefersTo (r : Registry M) (a b : M) : Prop :=
  r.IsScoped a ∧ r.IsScoped b ∧ a ≠ b ∧ ∃ f ∈ r.concreteFields a, f.remoteModel = some b

theorem Registry.RefersTo.irrefl (a : M) : ¬ r.RefersTo a a := fun h => h.2.2.1 rfl

theorem perm_order (round : ℕ) (remaining : Finset M) :
    (iteration'.order round remaining).Perm (iteration.order round remaining) := by
  rw [List.perm_ext_iff_of_nodup (iteration'.nodup _ _) (iteration.nodup _ _)]
  intro m
  rw [iteration'.mem_order, iteration.mem_order]

theorem Registry.circularMessage_eq (round : ℕ) (remaining : Finset M) :
    r.circularMessage iteration' round remaining = r.circularMessage iteration round remaining := by
  unfold circularMessage
  rw [KeySort.sortBy_eq_of_perm _ ((perm_order round remaining).map _) fun _ _ _ _ h => h]

variable [DecidableEq M]

theorem Registry.isSome_schoolField {m : M} :
    (r.schoolField m).isSome = true ↔ ∃ f ∈ r.concreteFields m, f.remoteModel = some r.school := by
  unfold schoolField
  rw [List.find?_isSome]
  simp only [decide_eq_true_eq]

theorem Registry.mem_scopedModels {m : M} : m ∈ r.scopedModels ↔ r.IsScoped m := by
  unfold scopedModels IsScoped
  rw [List.mem_toFinset, List.mem_filter, isSome_schoolField]

theorem Registry.mem_dependencies {a b : M} (ha : r.IsScoped a) :
    b ∈ r.dependencies a ↔ r.RefersTo a b := by
  unfold dependencies RefersTo
  rw [Finset.mem_filter, List.mem_toFinset, List.mem_filterMap, mem_scopedModels]
  constructor
  · rintro ⟨href, hb, hne⟩
    exact ⟨ha, hb, Ne.symm hne, href⟩
  · rintro ⟨-, hb, hne, href⟩
    exact ⟨href, hb, Ne.symm hne⟩

/-- What the loop has put in order from some round on, or the models among which it is stuck. -/
def Registry.Strips (r : Registry M) (remaining : Finset M) (ordered : List M) :
    Except Text (List M) → Prop
  | .ok l => ∃ tail, l = ordered ++ tail ∧ tail.Nodup ∧ (∀ m, m ∈ tail ↔ m ∈ remaining) ∧
      tail.Pairwise fun a b => ¬ r.RefersTo b a
  | .error _ => ∃ stuck ⊆ remaining, stuck.Nonempty ∧ ∀ a ∈ stuck, ∃ b ∈ stuck, r.RefersTo b a

theorem Registry.nodup_ready (round : ℕ) (remaining : Finset M) :
    (r.ready iteration round remaining).Nodup :=
  (KeySort.perm_sortBy _ _).nodup_iff.mpr ((iteration.nodup round remaining).filter _)

/-- **A round**: what it takes away is not referred to by what remains. -/
theorem Registry.Strips.round {round : ℕ} {remaining : Finset M} {ordered : List M}
    (hscoped : ∀ m ∈ remaining, r.IsScoped m) {result : Except Text (List M)}
    (h : r.Strips (remaining \ (r.ready iteration round remaining).toFinset)
      (ordered ++ r.ready iteration round remaining) result) :
    r.Strips remaining ordered result := by
  cases result with
  | error e =>
    obtain ⟨stuck, hsub, hstuck⟩ := h
    exact ⟨stuck, hsub.trans Finset.sdiff_subset, hstuck⟩
  | ok l =>
    obtain ⟨tail, hl, hnodup, hmem, hpairwise⟩ := h
    have hfree : ∀ a ∈ r.ready iteration round remaining, ∀ b ∈ remaining, ¬ r.RefersTo b a :=
      fun a ha b hb hba => (mem_ready.mp ha).2 b hb ((mem_dependencies (hscoped b hb)).mpr hba)
    have htail : ∀ m ∈ tail, m ∈ remaining ∧ m ∉ r.ready iteration round remaining := by
      intro m hm
      obtain ⟨hin, hout⟩ := Finset.mem_sdiff.mp ((hmem m).mp hm)
      exact ⟨hin, fun hready => hout (List.mem_toFinset.mpr hready)⟩
    refine ⟨r.ready iteration round remaining ++ tail, ?_, ?_, fun m => ?_, ?_⟩
    · rw [hl, List.append_assoc]
    · exact (nodup_ready round remaining).append hnodup fun a ha hm => (htail a hm).2 ha
    · rw [List.mem_append, hmem, Finset.mem_sdiff, List.mem_toFinset]
      constructor
      · rintro (hready | ⟨hin, -⟩)
        · exact (mem_ready.mp hready).1
        · exact hin
      · intro hin
        by_cases hready : m ∈ r.ready iteration round remaining
        · exact .inl hready
        · exact .inr ⟨hin, hready⟩
    · rw [List.pairwise_append]
      refine ⟨?_, hpairwise, fun a ha b hb => hfree a ha b (htail b hb).1⟩
      exact List.pairwise_of_forall_mem_list fun a ha b hb => hfree a ha b (mem_ready.mp hb).1

theorem Registry.strips_stripRemaining (iteration : Iteration M) (round : ℕ)
    (remaining : Finset M) (ordered : List M)
    (hscoped : ∀ m ∈ remaining, r.IsScoped m) :
    r.Strips remaining ordered (r.stripRemaining iteration round remaining ordered) := by
  fun_induction stripRemaining r iteration round remaining ordered with
  | case1 round ordered => exact ⟨[], by simp⟩
  | case2 round remaining ordered hne hstuck =>
    refine ⟨remaining, Finset.Subset.refl _, Finset.nonempty_iff_ne_empty.mpr hne, fun a ha => ?_⟩
    by_contra hno
    have hready : a ∈ r.ready iteration round remaining := by
      refine mem_ready.mpr ⟨ha, fun b hb hba => hno ⟨b, hb, ?_⟩⟩
      exact (mem_dependencies (hscoped b hb)).mp hba
    rw [hstuck] at hready
    exact List.not_mem_nil hready
  | case3 round remaining ordered hne hsome ih =>
    exact Strips.round hscoped (ih fun m hm => hscoped m (Finset.mem_sdiff.mp hm).1)

theorem Registry.ready_eq {round : ℕ} {remaining : Finset M}
    (hscoped : ∀ m ∈ remaining, r.IsScoped m) :
    r.ready iteration' round remaining = r.ready iteration round remaining := by
  unfold ready
  refine KeySort.sortBy_eq_of_perm _ ((perm_order round remaining).filter _) fun a ha b hb => ?_
  have hmodel : ∀ m ∈ iteration.order round remaining, m ∈ r.models := fun m hm =>
    (hscoped m ((iteration.mem_order _ _ _).mp hm)).1
  exact r.labelLower_inj a (hmodel a (List.mem_of_mem_filter ha)) b
    (hmodel b (List.mem_of_mem_filter hb))

theorem Registry.stripRemaining_eq (round : ℕ) (remaining : Finset M) (ordered : List M)
    (hscoped : ∀ m ∈ remaining, r.IsScoped m) :
    r.stripRemaining iteration' round remaining ordered =
      r.stripRemaining iteration round remaining ordered := by
  fun_induction stripRemaining r iteration round remaining ordered with
  | case1 round ordered =>
    unfold stripRemaining
    rw [if_pos rfl]
  | case2 round remaining ordered hne hstuck =>
    unfold stripRemaining
    rw [if_neg hne, ready_eq hscoped, if_pos hstuck, circularMessage_eq]
  | case3 round remaining ordered hne hsome ih =>
    rw [stripRemaining, if_neg hne, ready_eq hscoped, if_neg hsome]
    exact ih fun m hm => hscoped m (Finset.mem_sdiff.mp hm).1

theorem Registry.map_model {l : List M} (hl : ∀ m ∈ l, r.IsScoped m) :
    (l.filterMap fun m => (r.schoolField m).map fun f => SchoolScopedModel.mk m f).map
      (fun x => x.model) = l := by
  induction l with
  | nil => rfl
  | cons m l ih =>
    obtain ⟨f, hf⟩ := Option.isSome_iff_exists.mp
      (isSome_schoolField.mpr (hl m List.mem_cons_self).2)
    rw [List.filterMap_cons_some (b := ⟨m, f⟩) (by rw [hf]; rfl), List.map_cons,
      ih fun x hx => hl x (List.mem_cons_of_mem _ hx)]

/-- **The purge order is a topological order.** The loop raises just when the references contain a
cycle. Otherwise it gives each model that belongs to a school once, with its field, before every
other model that it refers to. The order in which the sets are iterated does not matter. -/
theorem delete_order_topological (r : Registry M) :
    (∀ iteration, (∃ e, r.schoolScopedModelsInDeleteOrder iteration = .error e) ↔
      ∃ m, Relation.TransGen r.RefersTo m m) ∧
    (∀ iteration l, r.schoolScopedModelsInDeleteOrder iteration = .ok l →
      (l.map fun x => x.model).Nodup ∧ (∀ m, m ∈ l.map (fun x => x.model) ↔ r.IsScoped m) ∧
        (∀ x ∈ l, r.schoolField x.model = some x.schoolField) ∧
        (l.map fun x => x.model).Pairwise fun a b => ¬ r.RefersTo b a) ∧
    ∀ iteration iteration', r.schoolScopedModelsInDeleteOrder iteration' =
      r.schoolScopedModelsInDeleteOrder iteration := by
  have hscoped : ∀ m ∈ r.scopedModels, r.IsScoped m := fun m hm => Registry.mem_scopedModels.mp hm
  refine ⟨fun iteration => ?_, fun iteration l hl => ?_, fun iteration iteration' => ?_⟩
  · have hstrips := Registry.strips_stripRemaining iteration 0 _ [] hscoped
    unfold Registry.schoolScopedModelsInDeleteOrder
    cases hresult : r.stripRemaining iteration 0 r.scopedModels [] with
    | error e =>
      rw [hresult] at hstrips
      obtain ⟨stuck, -, hne, hstuck⟩ := hstrips
      exact ⟨fun _ => exists_cycle hne hstuck, fun _ => ⟨e, rfl⟩⟩
    | ok l =>
      rw [hresult] at hstrips
      obtain ⟨tail, -, -, hmem, hpairwise⟩ := hstrips
      have hac : Acyclic r.RefersTo := by
        refine acyclic_of_pairwise hpairwise Registry.RefersTo.irrefl fun a b hab => ?_
        rw [hmem, hmem, Registry.mem_scopedModels, Registry.mem_scopedModels]
        exact ⟨hab.1, hab.2.1⟩
      refine ⟨?_, ?_⟩
      · rintro ⟨e, he⟩
        cases he
      · rintro ⟨m, hm⟩
        exact absurd hm (hac m)
  · have hstrips := Registry.strips_stripRemaining iteration 0 _ [] hscoped
    unfold Registry.schoolScopedModelsInDeleteOrder at hl
    cases hresult : r.stripRemaining iteration 0 r.scopedModels [] with
    | error e =>
      rw [hresult] at hl
      cases hl
    | ok ordered =>
      rw [hresult] at hl hstrips
      obtain ⟨tail, htail, hnodup, hmem, hpairwise⟩ := hstrips
      rw [List.nil_append] at htail
      subst htail
      cases hl
      have hmodels := Registry.map_model fun m hm => hscoped m ((hmem m).mp hm)
      refine ⟨?_, fun m => ?_, fun x hx => ?_, ?_⟩
      · rw [hmodels]
        exact hnodup
      · rw [hmodels, hmem, Registry.mem_scopedModels]
      · obtain ⟨m, -, hm⟩ := List.mem_filterMap.mp hx
        obtain ⟨f, hf, hx⟩ := Option.map_eq_some_iff.mp hm
        rw [← hx]
        exact hf
      · rw [hmodels]
        exact hpairwise
  · unfold Registry.schoolScopedModelsInDeleteOrder
    rw [Registry.stripRemaining_eq 0 _ [] hscoped]

end SchoolPlatform.SchoolPurge
