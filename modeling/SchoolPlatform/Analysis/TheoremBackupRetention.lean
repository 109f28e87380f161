import SchoolPlatform.Library.Retention
import SchoolPlatform.Model.BackupRetention

/-!
# Early cleanups lose no backup

The loop over the slots of one kind keeps what `Retention.Kept` says, and the newest run is the
newest of the one slot that all runs share. So the selection can be repeated, and a cleanup after
every backup leaves what one cleanup at the end would leave.
-/

namespace SchoolPlatform.BackupRetention

open Retention

variable {runs history : List BackupRun} {daily weekly monthly : ℤ} {run : BackupRun}

section Loop

variable {κ : Type} [DecidableEq κ] {key : Instant → κ} {limit : ℤ}

theorem mem_retainDistinct (ordered : List BackupRun) (buckets : Finset κ) (keep : Finset ℕ)
    (id : ℕ) :
    id ∈ retainDistinct key limit ordered buckets keep ↔
      id ∈ keep ∨ ∃ before run after, ordered = before ++ run :: after ∧ run.id = id ∧
        key run.startedAt ∉ buckets ∪ (before.map fun x => key x.startedAt).toFinset ∧
        ((buckets ∪ (before.map fun x => key x.startedAt).toFinset).card : ℤ) < limit := by
  induction ordered generalizing buckets keep with
  | nil =>
    unfold retainDistinct
    simp
  | cons first ordered ih =>
    have hunion : ∀ before : List BackupRun,
        buckets ∪ ((first :: before).map fun x => key x.startedAt).toFinset =
          insert (key first.startedAt) buckets ∪
            (before.map fun x => key x.startedAt).toFinset := by
      intro before
      rw [List.map_cons, List.toFinset_cons, Finset.union_insert, Finset.insert_union]
    have hempty : buckets ∪ (([] : List BackupRun).map fun x => key x.startedAt).toFinset =
        buckets := by simp
    rw [retainDistinct]
    by_cases hseen : key first.startedAt ∈ buckets
    · rw [if_pos hseen, ih]
      refine or_congr_right ⟨?_, ?_⟩
      · rintro ⟨before, run, after, rfl, hrest⟩
        refine ⟨first :: before, run, after, rfl, ?_⟩
        rw [hunion, Finset.insert_eq_of_mem hseen]
        exact hrest
      · rintro ⟨before, run, after, heq, hrest⟩
        cases before with
        | nil =>
          rw [hempty] at hrest
          cases heq
          exact absurd hseen hrest.2.1
        | cons x before =>
          cases heq
          rw [hunion, Finset.insert_eq_of_mem hseen] at hrest
          exact ⟨before, run, after, rfl, hrest⟩
    · rw [if_neg hseen]
      by_cases hfull : limit ≤ buckets.card
      · rw [if_pos hfull]
        refine ⟨.inl, fun h => h.resolve_right ?_⟩
        rintro ⟨before, run, after, -, -, -, hroom⟩
        have hsub : buckets ⊆ buckets ∪ (before.map fun x => key x.startedAt).toFinset :=
          Finset.subset_union_left
        have hle := Finset.card_le_card hsub
        omega
      · rw [if_neg hfull, ih, Finset.mem_insert]
        constructor
        · rintro ((hid | hkeep) | ⟨before, run, after, rfl, hrest⟩)
          · refine .inr ⟨[], first, ordered, rfl, hid.symm, ?_⟩
            rw [hempty]
            exact ⟨hseen, not_le.mp hfull⟩
          · exact .inl hkeep
          · refine .inr ⟨first :: before, run, after, rfl, ?_⟩
            rw [hunion]
            exact hrest
        · rintro (hkeep | ⟨before, run, after, heq, hrest⟩)
          · exact .inl (.inr hkeep)
          · cases before with
            | nil =>
              cases heq
              exact .inl (.inl hrest.1.symm)
            | cons x before =>
              cases heq
              rw [hunion] at hrest
              exact .inr ⟨before, run, after, rfl, hrest⟩

end Loop

/-- A run is selected as the newest of a slot of some kind, or as the newest of all. -/
def Selected (daily weekly monthly : ℤ) (runs : Finset BackupRun) (run : BackupRun) : Prop :=
  ((Kept (fun x : BackupRun => x.startedAt) (fun x => utcDate x.startedAt) daily runs run ∨
    Kept (fun x : BackupRun => x.startedAt) (fun x => weekOf x.startedAt) weekly runs run) ∨
    Kept (fun x : BackupRun => x.startedAt) (fun x => monthOf x.startedAt) monthly runs run) ∨
    Kept (fun x : BackupRun => x.startedAt) (fun _ => ()) 1 runs run

theorem retaining_selected : Retaining (Selected daily weekly monthly) :=
  ((retaining_kept.or retaining_kept).or retaining_kept).or retaining_kept

theorem perm_newestFirst (runs : List BackupRun) : (newestFirst runs).Perm runs :=
  List.perm_insertionSort _ runs

theorem pairwise_newestFirst (htimes : (runs.map fun x => x.startedAt).Nodup) :
    (newestFirst runs).Pairwise fun a b => b.startedAt < a.startedAt := by
  have htotal : Std.Total fun a b : BackupRun => b.startedAt ≤ a.startedAt :=
    ⟨fun a b => le_total b.startedAt a.startedAt⟩
  have htrans : IsTrans BackupRun fun a b => b.startedAt ≤ a.startedAt :=
    ⟨fun a b c hab hbc => le_trans hbc hab⟩
  have hle : (newestFirst runs).Pairwise fun a b => b.startedAt ≤ a.startedAt :=
    List.pairwise_insertionSort _ runs
  have hne : (newestFirst runs).Pairwise fun a b => a.startedAt ≠ b.startedAt := by
    rw [← List.pairwise_map]
    exact ((perm_newestFirst runs).map _).nodup_iff.mpr htimes
  exact (hle.and hne).imp fun h => lt_of_le_of_ne h.1 (Ne.symm h.2)

theorem mem_before_iff {ordered before after : List BackupRun}
    (hordered : ordered.Pairwise fun a b => b.startedAt < a.startedAt)
    (heq : ordered = before ++ run :: after) (x : BackupRun) :
    x ∈ before ↔ x ∈ ordered ∧ run.startedAt < x.startedAt := by
  rw [heq, List.pairwise_append, List.pairwise_cons] at hordered
  obtain ⟨-, ⟨hafter, -⟩, hbefore⟩ := hordered
  rw [heq, List.mem_append, List.mem_cons]
  constructor
  · intro hx
    exact ⟨.inl hx, hbefore x hx run List.mem_cons_self⟩
  · rintro ⟨hx | rfl | hx, hlt⟩
    · exact hx
    · exact absurd hlt (lt_irrefl _)
    · exact absurd hlt (lt_asymm (hafter x hx))

theorem mem_retainDistinct_newestFirst {κ : Type} [DecidableEq κ] {key : Instant → κ} {limit : ℤ}
    {keep : Finset ℕ} {id : ℕ} (htimes : (runs.map fun x => x.startedAt).Nodup) :
    id ∈ retainDistinct key limit (newestFirst runs) ∅ keep ↔
      id ∈ keep ∨ ∃ run, run.id = id ∧ Kept (fun x : BackupRun => x.startedAt)
        (fun x => key x.startedAt) limit runs.toFinset run := by
  have hordered := pairwise_newestFirst htimes
  have hmem : ∀ x, x ∈ newestFirst runs ↔ x ∈ runs := fun x => (perm_newestFirst runs).mem_iff
  have hslots : ∀ (before after : List BackupRun) (run : BackupRun),
      newestFirst runs = before ++ run :: after →
        ∅ ∪ (before.map fun x => key x.startedAt).toFinset =
          newerSlots (fun x => x.startedAt) (fun x => key x.startedAt) runs.toFinset run := by
    intro before after run heq
    ext k
    rw [Finset.empty_union, List.mem_toFinset, List.mem_map, mem_newerSlots]
    simp only [mem_before_iff hordered heq, hmem, List.mem_toFinset, and_assoc]
  rw [mem_retainDistinct]
  refine or_congr_right ⟨?_, ?_⟩
  · rintro ⟨before, run, after, heq, hid, hslot, hroom⟩
    rw [hslots before after run heq] at hslot hroom
    refine ⟨run, hid, List.mem_toFinset.mpr ((hmem run).mp ?_), hslot, hroom⟩
    rw [heq]
    exact List.mem_append_right _ List.mem_cons_self
  · rintro ⟨run, hid, hrun, hslot, hroom⟩
    obtain ⟨before, after, heq⟩ := List.append_of_mem ((hmem run).mpr (List.mem_toFinset.mp hrun))
    rw [← hslots before after run heq] at hslot hroom
    exact ⟨before, run, after, heq, hid, hslot, hroom⟩

theorem kept_newest {newest : BackupRun} (hnewest : newest ∈ runs)
    (hmax : ∀ x ∈ runs, x.startedAt ≤ newest.startedAt) :
    Kept (fun x : BackupRun => x.startedAt) (fun _ => ()) 1 runs.toFinset newest := by
  have hnone : newerSlots (fun x : BackupRun => x.startedAt) (fun _ => ()) runs.toFinset newest =
      ∅ := by
    refine Finset.eq_empty_of_forall_notMem fun k hk => ?_
    obtain ⟨y, hy, hlt, -⟩ := mem_newerSlots.mp hk
    exact absurd hlt (not_lt.mpr (hmax y (List.mem_toFinset.mp hy)))
  refine ⟨List.mem_toFinset.mpr hnewest, ?_, ?_⟩
  · rw [hnone]
    exact Finset.notMem_empty _
  · rw [hnone]
    decide

theorem kept_newest_iff {newest : BackupRun} {rest : List BackupRun}
    (htimes : (runs.map fun x => x.startedAt).Nodup) (heq : newestFirst runs = newest :: rest) :
    Kept (fun x : BackupRun => x.startedAt) (fun _ => ()) 1 runs.toFinset run ↔ run = newest := by
  have hordered := pairwise_newestFirst htimes
  have hmem : ∀ x, x ∈ newest :: rest ↔ x ∈ runs := fun x => by
    rw [← heq]
    exact (perm_newestFirst runs).mem_iff
  rw [heq, List.pairwise_cons] at hordered
  constructor
  · rintro ⟨hrun, hslot, -⟩
    rcases List.mem_cons.mp ((hmem run).mpr (List.mem_toFinset.mp hrun)) with hfirst | hlater
    · exact hfirst
    · refine absurd (mem_newerSlots.mpr ⟨newest, ?_, hordered.1 run hlater, rfl⟩) hslot
      exact List.mem_toFinset.mpr ((hmem newest).mp List.mem_cons_self)
  · rintro rfl
    refine kept_newest ((hmem run).mp List.mem_cons_self) fun x hx => ?_
    rcases List.mem_cons.mp ((hmem x).mpr hx) with rfl | hlater
    · exact le_refl _
    · exact le_of_lt (hordered.1 x hlater)

theorem mem_retainedBackupIds {id : ℕ} (htimes : (runs.map fun x => x.startedAt).Nodup) :
    id ∈ retainedBackupIds daily weekly monthly runs ↔
      ∃ run, run.id = id ∧ Selected daily weekly monthly runs.toFinset run := by
  have hslots : (id ∈ retainDistinct monthOf monthly (newestFirst runs) ∅
      (retainDistinct weekOf weekly (newestFirst runs) ∅
        (retainDistinct utcDate daily (newestFirst runs) ∅ ∅)) ∨
      ∃ run, run.id = id ∧
        Kept (fun x : BackupRun => x.startedAt) (fun _ => ()) 1 runs.toFinset run) ↔
      ∃ run, run.id = id ∧ Selected daily weekly monthly runs.toFinset run := by
    unfold Selected
    simp only [mem_retainDistinct_newestFirst htimes, Finset.notMem_empty, false_or, and_or_left,
      exists_or]
  unfold retainedBackupIds
  dsimp only
  rw [← hslots]
  cases heq : newestFirst runs with
  | nil =>
    have hnil : runs = [] := List.Perm.eq_nil (heq ▸ (perm_newestFirst runs).symm)
    simp [hnil, Kept]
  | cons newest rest =>
    dsimp only
    rw [Finset.mem_insert, or_comm, eq_comm]
    refine or_congr_right ⟨fun hid => ⟨newest, hid, (kept_newest_iff htimes heq).mpr rfl⟩, ?_⟩
    rintro ⟨run, hid, hrun⟩
    rw [← (kept_newest_iff htimes heq).mp hrun]
    exact hid

theorem mem_prune (hids : (runs.map fun x => x.id).Nodup)
    (htimes : (runs.map fun x => x.startedAt).Nodup) :
    run ∈ prune daily weekly monthly runs ↔ Selected daily weekly monthly runs.toFinset run := by
  unfold prune
  rw [List.mem_filter, decide_eq_true_eq, mem_retainedBackupIds htimes]
  constructor
  · rintro ⟨hrun, other, hid, hother⟩
    have hmem := List.mem_toFinset.mp (retaining_selected.mem _ _ hother)
    rw [← List.inj_on_of_nodup_map hids hmem hrun hid]
    exact hother
  · intro hselected
    exact ⟨List.mem_toFinset.mp (retaining_selected.mem _ _ hselected), run, rfl, hselected⟩

theorem prune_sublist : (prune daily weekly monthly runs).Sublist runs := List.filter_sublist

section Sandwich

variable {kept : List BackupRun} (hsub : kept.Sublist runs)
  (hselected : ∀ x, Selected daily weekly monthly runs.toFinset x → x ∈ kept)
include hsub hselected

theorem selected_iff_of_sandwich :
    Selected daily weekly monthly kept.toFinset run ↔
      Selected daily weekly monthly runs.toFinset run :=
  retaining_selected.iff_of_sandwich
    (fun _ hx => List.mem_toFinset.mpr (hsub.subset (List.mem_toFinset.mp hx)))
    fun x hx => List.mem_toFinset.mpr (hselected x hx)

theorem retainedBackupIds_of_sandwich (htimes : (runs.map fun x => x.startedAt).Nodup) :
    retainedBackupIds daily weekly monthly kept = retainedBackupIds daily weekly monthly runs := by
  ext id
  rw [mem_retainedBackupIds (htimes.sublist (hsub.map _)), mem_retainedBackupIds htimes]
  simp only [selected_iff_of_sandwich hsub hselected]

theorem prune_of_sandwich (hids : (runs.map fun x => x.id).Nodup)
    (htimes : (runs.map fun x => x.startedAt).Nodup) :
    prune daily weekly monthly kept = prune daily weekly monthly runs := by
  have hnodup : ∀ l : List BackupRun, l.Sublist runs → l.Nodup := fun l hl =>
    List.Nodup.of_map _ (hids.sublist (hl.map _))
  have heq : prune daily weekly monthly kept =
      kept.filter fun x => x.id ∈ retainedBackupIds daily weekly monthly runs := by
    unfold prune
    rw [retainedBackupIds_of_sandwich hsub hselected htimes]
  have hfilter : (prune daily weekly monthly kept).Sublist (prune daily weekly monthly runs) := by
    rw [heq]
    exact hsub.filter _
  refine hfilter.eq_of_length (List.Perm.length_eq ?_)
  rw [List.perm_ext_iff_of_nodup (hnodup _ (prune_sublist.trans hsub)) (hnodup _ prune_sublist)]
  intro x
  rw [mem_prune (hids.sublist (hsub.map _)) (htimes.sublist (hsub.map _)), mem_prune hids htimes]
  exact selected_iff_of_sandwich hsub hselected

end Sandwich

theorem pruneEach_eq (hids : (history.map fun x => x.id).Nodup)
    (htimes : (history.map fun x => x.startedAt).Nodup) :
    pruneEach daily weekly monthly history = prune daily weekly monthly history := by
  induction history using List.reverseRecOn with
  | nil => rfl
  | append_singleton history run ih =>
    have hfirst : history.Sublist (history ++ [run]) := List.sublist_append_left _ _
    have hids' := hids.sublist (hfirst.map _)
    have htimes' := htimes.sublist (hfirst.map _)
    have hsub : (prune daily weekly monthly history ++ [run]).Sublist (history ++ [run]) :=
      prune_sublist.append (List.Sublist.refl _)
    have hstep : pruneEach daily weekly monthly (history ++ [run]) =
        prune daily weekly monthly (pruneEach daily weekly monthly history ++ [run]) := by
      unfold pruneEach
      rw [List.foldl_append, List.foldl_cons, List.foldl_nil]
    rw [hstep, ih hids' htimes']
    refine prune_of_sandwich hsub (fun x hx => ?_) hids htimes
    rcases List.mem_append.mp (List.mem_toFinset.mp (retaining_selected.mem _ _ hx)) with
      hold | hnew
    · refine List.mem_append_left _ ((mem_prune hids' htimes').mpr ?_)
      refine retaining_selected.mono _ _ x (fun y hy => ?_) (List.mem_toFinset.mpr hold) hx
      exact List.mem_toFinset.mpr (hfirst.subset (List.mem_toFinset.mp hy))
    · exact List.mem_append_right _ hnew

/-- **Retention is stable.** Selecting from what was retained retains all of it, the newest run is
always retained, and a cleanup after every backup, in time order or any other, leaves what a single
cleanup at the end leaves. -/
theorem backup_retention_stable (runs : List BackupRun) (hids : (runs.map fun x => x.id).Nodup)
    (htimes : (runs.map fun x => x.startedAt).Nodup) (daily weekly monthly : ℤ) :
    retainedBackupIds daily weekly monthly (prune daily weekly monthly runs) =
        retainedBackupIds daily weekly monthly runs ∧
      prune daily weekly monthly (prune daily weekly monthly runs) =
        prune daily weekly monthly runs ∧
      (∀ newest ∈ runs, (∀ run ∈ runs, run.startedAt ≤ newest.startedAt) →
        newest.id ∈ retainedBackupIds daily weekly monthly runs) ∧
      pruneEach daily weekly monthly runs = prune daily weekly monthly runs := by
  have hsub : (prune daily weekly monthly runs).Sublist runs := prune_sublist
  have hselected : ∀ x, Selected daily weekly monthly runs.toFinset x →
      x ∈ prune daily weekly monthly runs := fun x hx => (mem_prune hids htimes).mpr hx
  refine ⟨retainedBackupIds_of_sandwich hsub hselected htimes,
    prune_of_sandwich hsub hselected hids htimes, fun newest hnewest hmax => ?_,
    pruneEach_eq hids htimes⟩
  exact (mem_retainedBackupIds htimes).mpr ⟨newest, rfl, .inr (kept_newest hnewest hmax)⟩

/-- Two runs of one day, and one of the day before, with one day to keep. -/
theorem backup_retention_stable_two_days :
    pruneEach 1 0 0 [⟨1, 0⟩, ⟨2, 90000000000⟩, ⟨3, 100000000000⟩] =
      prune 1 0 0 [⟨1, 0⟩, ⟨2, 90000000000⟩, ⟨3, 100000000000⟩] :=
  (backup_retention_stable [⟨1, 0⟩, ⟨2, 90000000000⟩, ⟨3, 100000000000⟩] (by decide) (by decide)
    1 0 0).2.2.2

end SchoolPlatform.BackupRetention
