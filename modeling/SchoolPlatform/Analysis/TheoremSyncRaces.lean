import SchoolPlatform.Analysis.SyncRuns

/-!
# The task beside an operation

The task reads the rows that it will write without locking them. An operation that commits in between
is undone: the status that the task writes follows from what was there before. Where each row is
still outdated as it was found when it is written, a run amounts to the two one after the other.
-/

/-! ## The task before or after an operation -/

namespace SchoolPlatform.Subscriptions

open ReadCommitted

def Contracts.statusOf (s : Contracts) (school : ℕ) (t : Instant) : Option SubscriptionStatus :=
  (s.liveSubscription school).map fun p => p.2.effectiveStatus t

variable {school : ℕ} {op : SchoolOperation} {now t : Instant} {savedAt : ℕ → Instant}
  {s s' s₀ s₁ u : Contracts} {ps done : List (ℕ × SubscriptionStatus)}

def writtenRow (savedAt : ℕ → Instant) (ps : List (ℕ × SubscriptionStatus)) (id : ℕ)
    (x : SchoolSubscription) : SchoolSubscription :=
  (ps.find? fun q => q.1 = id).elim x fun q => written savedAt q x

theorem writtenRow_school (id : ℕ) (x : SchoolSubscription) :
    (writtenRow savedAt ps id x).school = x.school := by
  unfold writtenRow
  cases ps.find? fun q => q.1 = id <;> rfl

theorem writtenRow_startsAt (id : ℕ) (x : SchoolSubscription) :
    (writtenRow savedAt ps id x).startsAt = x.startsAt := by
  unfold writtenRow
  cases ps.find? fun q => q.1 = id <;> rfl

theorem writtenRow_wasFreePlan (id : ℕ) (x : SchoolSubscription) :
    (writtenRow savedAt ps id x).wasFreePlan = x.wasFreePlan := by
  unfold writtenRow
  cases ps.find? fun q => q.1 = id <;> rfl

theorem writtenRow_of_notMem {id : ℕ} (h : ∀ q ∈ ps, q.1 ≠ id) (x : SchoolSubscription) :
    writtenRow savedAt ps id x = x := by
  have hnone : (ps.find? fun q => q.1 = id) = none := by
    rw [List.find?_eq_none]
    intro q hq hid
    exact h q hq (of_decide_eq_true hid)
  unfold writtenRow
  rw [hnone]
  rfl

theorem writtenRow_of_mem (hps : (ps.map Prod.fst).Nodup) {q : ℕ × SubscriptionStatus}
    (hq : q ∈ ps) (x : SchoolSubscription) :
    writtenRow savedAt ps q.1 x = written savedAt q x := by
  have hfound : (ps.find? fun r => r.1 = q.1) = some q :=
    (Table.find?_eq_some_iff hps q.1 q).mpr ⟨hq, rfl⟩
  unfold writtenRow
  rw [hfound]
  rfl

theorem writeAll_eq (hps : (ps.map Prod.fst).Nodup) : s.writeAll savedAt ps =
    { s with subscriptions := s.subscriptions.mapValues (writtenRow savedAt ps) } := by
  have hrows : s.writeAll savedAt ps = { s with
      subscriptions := ps.foldl (fun d p => d.adjust p.1 (written savedAt p)) s.subscriptions } := by
    clear hps
    induction ps generalizing s with
    | nil => rfl
    | cons p ps ih => exact ih
  rw [hrows, Dict.foldl_adjust (written savedAt) ps hps]
  rfl

theorem get?_writeAll (hps : (ps.map Prod.fst).Nodup) (id : ℕ) :
    (s.writeAll savedAt ps).subscriptions.get? id =
      (s.subscriptions.get? id).map (writtenRow savedAt ps id) := by
  rw [writeAll_eq hps]
  exact Dict.get?_mapValues _ _ _

theorem liveSubscription_writeAll (hps : (ps.map Prod.fst).Nodup) (school : ℕ) :
    (s.writeAll savedAt ps).liveSubscription school = (s.liveSubscription school).map fun p =>
      (p.1, writtenRow savedAt ps p.1 p.2) :=
  liveSubscription_mapValues (congrArg Contracts.subscriptions (writeAll_eq hps))
    writtenRow_school writtenRow_startsAt school

theorem keys_writeAll : Dict.keys (s.writeAll savedAt ps).subscriptions =
    Dict.keys s.subscriptions := by
  induction ps generalizing s with
  | nil => rfl
  | cons p ps ih => exact ih.trans (keys_write p)

theorem outdated_of_writtenInTime (hps : (ps.map Prod.fst).Nodup)
    (hids : (Dict.keys s.subscriptions).Nodup) (htime : writtenInTime now savedAt s ps)
    {q : ℕ × SubscriptionStatus} (hq : q ∈ ps) {x : SchoolSubscription}
    (hx : s.subscriptions.get? q.1 = some x) (hchanged : q.2 ≠ x.status) :
    x.status.isLive = true ∧ q.2 = x.effectiveStatus now := by
  induction ps generalizing s with
  | nil => cases hq
  | cons p ps ih =>
    rw [List.map_cons, List.nodup_cons] at hps
    obtain ⟨hfirst, hrest⟩ := htime
    rcases List.mem_cons.mp hq with rfl | hq
    · have hrow : (q.1, x) ∈ s.subscriptions := (Dict.mem_iff_get? hids q.1 x).mpr hx
      have hwritten : (s.write savedAt q).subscriptions.get? q.1 = some (written savedAt q x) := by
        unfold Contracts.write
        rw [get?_changeSubscription, if_pos rfl, hx, Option.map_some]
      obtain ⟨r, hr, hlive, -, heq⟩ := mem_outdated.mp (hfirst (q.1, x) hrow _ hwritten hchanged)
      rw [Prod.mk.injEq] at heq
      have hsame : r.2 = x := row_of_get? hids hx hr heq.1.symm
      rw [← hsame]
      exact ⟨hlive, heq.2⟩
    · have hne : q.1 ≠ p.1 := fun h => hps.1 (h ▸ List.mem_map_of_mem hq)
      refine ih hps.2 ?_ hrest hq ?_
      · rw [keys_write]
        exact hids
      · unfold Contracts.write
        rw [get?_changeSubscription, if_neg hne]
        exact hx

theorem same_of_mapped {g g' : ℕ → SchoolSubscription → SchoolSubscription}
    {plans : Dict ℕ SaaSPlan} {entitlements planEntitlements : Dict (ℕ × String) Entitlement}
    {rows : Dict ℕ SchoolSubscription} (hschool : ∀ id x, (g' id x).school = (g id x).school)
    (hstarts : ∀ id x, (g' id x).startsAt = (g id x).startsAt)
    (hfree : ∀ id x, (g' id x).wasFreePlan = (g id x).wasFreePlan)
    (hsame : ∀ p ∈ rows, (g p.1 p.2).school = school → g' p.1 p.2 = g p.1 p.2) :
    (agreement school).Same
      ⟨plans, planEntitlements, rows.mapValues g, entitlements⟩
      ⟨plans, planEntitlements, rows.mapValues g', entitlements⟩ := by
  refine fun L => ⟨rfl, rfl, rfl, ?_⟩
  unfold Dict.mapValues
  rw [List.forall₂_map_left_iff, List.forall₂_map_right_iff, List.forall₂_same]
  intro p hp
  refine ⟨rfl, hschool _ _, hstarts _ _, hfree _ _, fun howner _ => ?_, fun howner _ => ?_⟩
  · exact hsame p hp howner
  · rw [hsame p hp howner]

theorem same_writeAll (savedAt : ℕ → Instant) (hps : (ps.map Prod.fst).Nodup)
    (hids : (Dict.keys s.subscriptions).Nodup)
    (hother : ∀ q ∈ ps, ∀ x, s.subscriptions.get? q.1 = some x → x.school ≠ school) :
    (agreement school).Same s (s.writeAll savedAt ps) := by
  have hself : s = { s with subscriptions := s.subscriptions.mapValues fun _ x => x } := by
    unfold Dict.mapValues
    simp
  rw [writeAll_eq hps]
  conv => arg 2; rw [hself]
  refine same_of_mapped writtenRow_school writtenRow_startsAt writtenRow_wasFreePlan ?_
  intro p hp howner
  refine writtenRow_of_notMem (fun q hq hid => hother q hq p.2 ?_ howner) p.2
  rw [hid]
  exact (Dict.mem_iff_get? hids p.1 p.2).mp hp

theorem same_synced (savedAt : ℕ → Instant) (hs : s.Constrained) (hfound : s.outdated now = done ++ ps)
    (hother : ∀ q ∈ ps, ∀ x, s.subscriptions.get? q.1 = some x → x.school ≠ school) :
    (agreement school).Same (s.writeAll savedAt done) (s.synced now savedAt) := by
  have hdone : (done.map Prod.fst).Nodup := by
    have hall := nodup_outdated hs now
    rw [hfound, List.map_append] at hall
    exact hall.of_append_left
  rw [writeAll_eq hdone]
  refine same_of_mapped (fun id x => ?_) (fun id x => ?_) (fun id x => ?_) fun p hp howner => ?_
  · rw [writtenRow_school, synced_school]
  · rw [writtenRow_startsAt, synced_startsAt]
  · rw [writtenRow_wasFreePlan, synced_wasFreePlan]
  · rw [writtenRow_school] at howner
    have hnone : (ps.find? fun q => q.1 = p.1) = none := by
      rw [List.find?_eq_none]
      intro q hq hid
      refine hother q hq p.2 ?_ howner
      rw [of_decide_eq_true hid]
      exact (Dict.mem_iff_get? hs.ids p.1 p.2).mp hp
    rw [← written_found hs now savedAt hp, hfound, List.find?_append, hnone, Option.or_none]
    rfl

theorem liveSubscription_same (h : (agreement school).Same s u) :
    u.liveSubscription school = s.liveSubscription school := by
  cases hs : s.liveSubscription school with
  | none => exact (h []).liveSubscription_none hs
  | some p =>
    obtain ⟨q, hq, hrow⟩ := (h [(.subscription p.1, .update)]).liveSubscription_some hs
    have hsame : q.2 = p.2 := hrow.row (mem_of_liveSubscription hs).2
      (WriteLocked.of_update List.mem_cons_self)
    rw [hq]
    exact congrArg some (Prod.ext hrow.key hsame)

theorem statusOf_same (h : (agreement school).Same s u) (t : Instant) :
    u.statusOf school t = s.statusOf school t := by
  unfold Contracts.statusOf
  rw [liveSubscription_same h]

theorem on_same (op : SchoolOperation) (hids : (Dict.keys s.subscriptions).Nodup)
    (h : (agreement school).Same s u) :
    (agreement school).Same (op.on school s) (op.on school u) := by
  unfold SchoolOperation.on Tx.outcome
  have hbody : Followed school [] s (op.body school) := op.followed hids
  rcases hbody.eval_same h with ⟨b, s', u', hs', hu', hsame⟩ |
    ⟨e, hs', hu'⟩
  · rw [hs', hu']
    exact hsame
  · rw [hs', hu']
    exact h

/-- Rows come from rows of the same school, trials from trials; and a row that is added is none. -/
def Contracts.ComeFrom (s s' : Contracts) : Prop :=
  ∀ id y, s'.subscriptions.get? id = some y →
    (∃ x, s.subscriptions.get? id = some x ∧ y.school = x.school ∧
      (y.status = .trial → x.status = .trial)) ∨
    s.subscriptions.get? id = none ∧ y.status ≠ .trial

theorem comeFrom_refl (s : Contracts) : s.ComeFrom s :=
  fun _ y hy => .inl ⟨y, hy, rfl, fun h => h⟩

theorem comeFrom_change {id : ℕ} {f : SchoolSubscription → SchoolSubscription}
    (hschool : ∀ x, (f x).school = x.school) (htrial : ∀ x, s.subscriptions.get? id = some x →
      (f x).status = .trial → x.status = .trial) : s.ComeFrom (s.changeSubscription id f) := by
  intro j y hy
  rw [get?_changeSubscription] at hy
  by_cases hj : j = id
  · subst hj
    rw [if_pos rfl, Option.map_eq_some_iff] at hy
    obtain ⟨x, hx, rfl⟩ := hy
    exact .inl ⟨x, hx, hschool x, htrial x hx⟩
  · rw [if_neg hj] at hy
    exact comeFrom_refl s j y hy

theorem comeFrom_add (h : s.ComeFrom s') {id : ℕ} {x : SchoolSubscription}
    (hnew : s.subscriptions.get? id = none) (hx : x.status ≠ .trial)
    (hrows : u.subscriptions = s'.subscriptions ++ [(id, x)]) : s.ComeFrom u := by
  intro j y hy
  rw [hrows, Dict.get?_append_singleton] at hy
  cases hj : s'.subscriptions.get? j with
  | some z =>
    rw [hj, Option.some_or, Option.some.injEq] at hy
    rw [← hy]
    exact h j z hj
  | none =>
    rw [hj, Option.none_or] at hy
    by_cases hid : id = j
    · rw [if_pos hid, Option.some.injEq] at hy
      rw [← hid, ← hy]
      exact .inr ⟨hnew, hx⟩
    · rw [if_neg hid] at hy
      cases hy

theorem comeFrom_save {id : ℕ} {x y : SchoolSubscription}
    {f : SchoolSubscription → SchoolSubscription} (hids : (Dict.keys s.subscriptions).Nodup)
    (hsaves : Saves s s' school id x y) (hs' : s' = s.changeSubscription id f)
    (hschool : ∀ x, (f x).school = x.school) (htrial : (f x).status = .trial → x.status = .trial) :
    s.ComeFrom s' := by
  rw [hs']
  refine comeFrom_change hschool fun z hz => ?_
  rw [get?_of_liveSubscription hids hsaves.before, Option.some.injEq] at hz
  rw [← hz]
  exact htrial

theorem eval_toUnit {α : Type} {body : ContractTransaction α} {u : Unit}
    (h : (body.bind fun _ => .ret ()).eval s = .ok (u, s')) : ∃ a, body.eval s = .ok (a, s') := by
  obtain ⟨a, s₁, hbody, hret⟩ := Tx.eval_bind_ok.mp h
  cases hret
  exact ⟨a, hbody⟩

theorem on_comeFrom (hids : (Dict.keys s.subscriptions).Nodup) (op : SchoolOperation) :
    s.ComeFrom (op.on school s) := by
  unfold SchoolOperation.on Tx.outcome
  cases heval : (op.body school).eval s with
  | error e => exact comeFrom_refl s
  | ok r =>
    obtain ⟨u, s'⟩ := r
    show s.ComeFrom s'
    cases op with
    | extend clock extraDays =>
      obtain ⟨p, h⟩ := eval_toUnit heval
      obtain ⟨id, x, -, -, -, -, hs', hsaves⟩ := extend_ok hids h
      refine comeFrom_save hids hsaves hs' (fun _ => rfl) fun htrial => ?_
      by_contra hnot
      simp only [SchoolSubscription.extend] at htrial
      split at htrial
      · cases htrial
      · exact hnot htrial
    | extendTrial clock extraDays =>
      obtain ⟨p, h⟩ := eval_toUnit heval
      obtain ⟨id, x, hstatus, -, -, hs', hsaves⟩ := extendTrial_ok hids h
      exact comeFrom_save hids hsaves hs' (fun _ => rfl) fun _ => hstatus
    | activate clock planId duration newId =>
      obtain ⟨p, h⟩ := eval_toUnit heval
      obtain ⟨plan, value, unit, ends, closed, -, -, -, -, -, -, hclosed, hnew, -, -, hrows⟩ :=
        activate_ok hids h
      rcases replaceCurrent_ok hclosed with rfl | ⟨id, rfl⟩
      · exact comeFrom_add (comeFrom_refl _) hnew (by simp [SaaSPlan.contract]) hrows
      · have hold : s.ComeFrom (s.changeSubscription id fun row =>
            { row with status := .expired, updatedAt := clock.savedAt }) :=
          comeFrom_change (fun _ => rfl) fun _ _ h => by cases h
        refine comeFrom_add hold ?_ (by simp [SaaSPlan.contract]) hrows
        rw [get?_changeSubscription] at hnew
        by_cases hid : newId = id
        · rw [if_pos hid, Option.map_eq_none_iff] at hnew
          exact hnew
        · rw [if_neg hid] at hnew
          exact hnew
    | suspend clock reason =>
      obtain ⟨p, h⟩ := eval_toUnit heval
      obtain ⟨id, x, -, -, hs', hsaves⟩ := suspend_ok hids h
      exact comeFrom_save hids hsaves hs' (fun _ => rfl) fun htrial => by cases htrial
    | reactivate clock =>
      obtain ⟨p, h⟩ := eval_toUnit heval
      obtain ⟨id, x, -, -, hs', hsaves⟩ := reactivate_ok hids h
      refine comeFrom_save hids hsaves hs' (fun _ => rfl) fun htrial => ?_
      simp only [SchoolSubscription.reactivate] at htrial
      split at htrial <;> cases htrial
    | cancel clock reason =>
      obtain ⟨p, h⟩ := eval_toUnit heval
      obtain ⟨id, x, -, -, hs', hsaves⟩ := cancel_ok hids h
      exact comeFrom_save hids hsaves hs' (fun _ => rfl) fun htrial => by cases htrial

theorem ne_trial_of_outdated {q : ℕ × SubscriptionStatus} (hq : q ∈ s.outdated now) :
    q.2 ≠ .trial := by
  obtain ⟨p, -, hlive, hne, rfl⟩ := mem_outdated.mp hq
  intro htrial
  replace htrial : p.2.effectiveStatus now = .trial := htrial
  apply hne
  rw [htrial]
  have hcontract : ¬ (p.2.status = .active ∨ p.2.status = .gracePeriod) := by
    intro hstatus
    rw [effectiveStatus_eq_of_active hstatus] at htrial
    split at htrial
    · cases htrial
    · rcases afterEnd_eq p.2 now with hafter | hafter <;> rw [hafter] at htrial <;> cases htrial
  cases hstatus : p.2.status with
  | trial => rfl
  | active => exact (hcontract (.inl hstatus)).elim
  | gracePeriod => exact (hcontract (.inr hstatus)).elim
  | expired => rw [hstatus] at hlive; cases hlive
  | suspended => rw [hstatus] at hlive; cases hlive
  | cancelled => rw [hstatus] at hlive; cases hlive

theorem statusOf_writtenInTime (hps : (ps.map Prod.fst).Nodup)
    (hids : (Dict.keys s.subscriptions).Nodup) (htime : writtenInTime now savedAt s ps)
    (hnew : ∀ q ∈ ps, q.2 ≠ .trial) (hcurrent : ∀ p, s.liveSubscription school = some p →
      p.2.status = .trial → ∃ q ∈ ps, q.1 = p.1) (ht : now ≤ t) :
    (s.writeAll savedAt ps).statusOf school t = (s.synced now savedAt).statusOf school t := by
  unfold Contracts.statusOf
  rw [liveSubscription_writeAll hps, liveSubscription_synced, Option.map_map, Option.map_map]
  cases hp : s.liveSubscription school with
  | none => rfl
  | some p =>
    obtain ⟨id, x⟩ := p
    simp only [Option.map_some, Function.comp_apply, Option.some.injEq]
    have hmeaning : x.status ≠ .trial →
        (x.synced now (savedAt id)).effectiveStatus t = x.effectiveStatus t :=
      fun hstatus => (synced_faithful_iff x now (savedAt id)).mpr (fun h => hstatus h.1) t ht
    by_cases hmem : ∃ q ∈ ps, q.1 = id
    · obtain ⟨q, hq, rfl⟩ := hmem
      rw [writtenRow_of_mem hps hq]
      by_cases hchanged : q.2 = x.status
      · rw [hmeaning (hchanged ▸ hnew q hq)]
        have hsame : written savedAt q x = { x with updatedAt := savedAt q.1 } := by
          unfold written
          rw [hchanged]
        rw [hsame]
        rfl
      · obtain ⟨hlive, heffective⟩ := outdated_of_writtenInTime hps hids htime hq
          (get?_of_liveSubscription hids hp) hchanged
        have hout : (x.status.isLive && x.effectiveStatus now ≠ x.status) = true := by
          rw [Bool.and_eq_true, decide_eq_true_eq, ← heffective]
          exact ⟨hlive, hchanged⟩
        unfold SchoolSubscription.synced written
        rw [if_pos hout, heffective]
    · have hstatus : x.status ≠ .trial := fun h => hmem (hcurrent _ hp h)
      have hnot : ∀ q ∈ ps, q.1 ≠ id := fun q hq hid => hmem ⟨q, hq, hid⟩
      rw [writtenRow_of_notMem hnot, hmeaning hstatus]

theorem live_unique (hs : s.Constrained) {p q : ℕ × SchoolSubscription}
    (hp : p ∈ s.subscriptions) (hq : q ∈ s.subscriptions) (hschool : q.2.school = p.2.school)
    (hplive : p.2.status.isLive = true) (hqlive : q.2.status.isLive = true) : q.1 = p.1 :=
  hasOtherLive_eq_false.mp (hs.live p hp hplive) q hq hschool hqlive

theorem constrained_writeAll (hs : s.Constrained) (hps : (ps.map Prod.fst).Nodup)
    (hfound : ps ⊆ s.outdated now) : (s.writeAll savedAt ps).Constrained := by
  have hrun := run_saveStatuses savedAt ps hps hs fun p hp => found_outdated hs now p (hfound hp)
  have hkept := (preserves_saveStatuses savedAt ps).run hs
  rw [hrun] at hkept
  rw [writeAll_eq hps]
  rw [Dict.foldl_adjust (written savedAt) ps hps] at hkept
  exact hkept

section Left

variable (hs : s₀.Constrained) (hfound : s₀.outdated now = done ++ ps)
include hs hfound

theorem nodup_found : (done.map Prod.fst ++ ps.map Prod.fst).Nodup := by
  have hall := nodup_outdated hs now
  rw [hfound, List.map_append] at hall
  exact hall

theorem constrained_left (savedAt : ℕ → Instant) (school : ℕ) (op : SchoolOperation) :
    (op.on school (s₀.writeAll savedAt done)).Constrained := by
  rw [← op.handle_eq]
  have hsub : done ⊆ s₀.outdated now := by
    rw [hfound]
    exact List.subset_append_left done ps
  exact (constrained_writeAll hs (nodup_found hs hfound).of_append_left hsub).handle _

theorem owner_of_found {q : ℕ × SubscriptionStatus} (hq : q ∈ ps) {p : ℕ × SchoolSubscription}
    (hp : (op.on school (s₀.writeAll savedAt done)).liveSubscription school = some p)
    (hid : q.1 = p.1) : ∃ x, s₀.subscriptions.get? q.1 = some x ∧ x.school = school := by
  have hdone := (nodup_found hs hfound).of_append_left
  have hin : q ∈ s₀.outdated now := hfound ▸ List.mem_append_right done hq
  obtain ⟨-, x, hx, -⟩ := found_outdated hs now q hin
  refine ⟨x, hx, ?_⟩
  have hids : (Dict.keys (s₀.writeAll savedAt done).subscriptions).Nodup := by
    rw [keys_writeAll]
    exact hs.ids
  have hrow := get?_of_liveSubscription (constrained_left hs hfound savedAt school op).ids hp
  rcases on_comeFrom hids op p.1 p.2 hrow with ⟨z, hz, hschool, -⟩ | ⟨hnone, -⟩
  · rw [get?_writeAll hdone, ← hid, hx, Option.map_some, Option.some.injEq] at hz
    rw [← (mem_of_liveSubscription hp).2, hschool, ← hz, writtenRow_school]
  · rw [get?_writeAll hdone, ← hid, hx] at hnone
    cases hnone

theorem statusOf_left_written
    (hother : ∀ q ∈ ps, ∀ x, s₀.subscriptions.get? q.1 = some x → x.school ≠ school)
    (t : Instant) :
    ((op.on school (s₀.writeAll savedAt done)).writeAll savedAt ps).statusOf school t =
      (op.on school (s₀.synced now savedAt)).statusOf school t := by
  have hids : (Dict.keys (s₀.writeAll savedAt done).subscriptions).Nodup := by
    rw [keys_writeAll]
    exact hs.ids
  have hsame := on_same op hids (same_synced savedAt hs hfound hother)
  rw [statusOf_same hsame]
  unfold Contracts.statusOf
  rw [liveSubscription_writeAll (nodup_found hs hfound).of_append_right, Option.map_map]
  cases hp : (op.on school (s₀.writeAll savedAt done)).liveSubscription school with
  | none => rfl
  | some p =>
    have hnot : ∀ q ∈ ps, q.1 ≠ p.1 := by
      intro q hq hid
      obtain ⟨x, hx, howner⟩ := owner_of_found hs hfound hq hp hid
      exact hother q hq x hx howner
    simp only [Option.map_some, Function.comp_apply, writtenRow_of_notMem hnot]

theorem statusOf_left_unwritten {q : ℕ × SubscriptionStatus} (hq : q ∈ ps)
    {x : SchoolSubscription} (hx : s₀.subscriptions.get? q.1 = some x) (howner : x.school = school)
    (htime : writtenInTime now savedAt (op.on school (s₀.writeAll savedAt done)) ps)
    {t : Instant} (ht : now ≤ t) :
    ((op.on school (s₀.writeAll savedAt done)).writeAll savedAt ps).statusOf school t =
      ((op.on school s₀).synced now savedAt).statusOf school t := by
  have hall := nodup_found hs hfound
  have hdone := hall.of_append_left
  have hin : ∀ r ∈ done ++ ps, r ∈ s₀.outdated now := fun r hr => hfound ▸ hr
  have hrow : ∀ {id : ℕ} {y : SchoolSubscription}, s₀.subscriptions.get? id = some y →
      (id, y) ∈ s₀.subscriptions := fun hy => (Dict.mem_iff_get? hs.ids _ _).mpr hy
  have hlive : x.status.isLive = true := by
    obtain ⟨-, y, hy, hylive⟩ := found_outdated hs now q (hin q (List.mem_append_right done hq))
    rw [hx, Option.some.injEq] at hy
    rw [hy]
    exact hylive
  -- No other live row is the school's.
  have hunique : ∀ {id : ℕ} {y : SchoolSubscription}, s₀.subscriptions.get? id = some y →
      y.school = school → y.status.isLive = true → id = q.1 := by
    intro id y hy hyschool hylive
    exact live_unique hs (hrow hx) (hrow hy) (hyschool.trans howner.symm) hlive hylive
  have hother : ∀ r ∈ done, ∀ y, s₀.subscriptions.get? r.1 = some y → y.school ≠ school := by
    intro r hr y hy hyschool
    obtain ⟨-, z, hz, hzlive⟩ := found_outdated hs now r (hin r (List.mem_append_left ps hr))
    rw [hy, Option.some.injEq] at hz
    rw [← hz] at hzlive
    have hid := hunique hy hyschool hzlive
    exact (List.nodup_append'.mp hall).2.2 (List.mem_map_of_mem hr)
      (hid ▸ List.mem_map_of_mem hq)
  have hids : (Dict.keys (s₀.writeAll savedAt done).subscriptions).Nodup := by
    rw [keys_writeAll]
    exact hs.ids
  have hkept := constrained_left hs hfound savedAt school op
  have hsame := on_same op hs.ids (same_writeAll savedAt hdone hs.ids hother)
  rw [statusOf_writtenInTime hall.of_append_right hkept.ids htime
    (fun r hr => ne_trial_of_outdated (hin r (List.mem_append_right done hr))) ?_ ht]
  · unfold Contracts.statusOf
    rw [liveSubscription_synced, liveSubscription_synced, liveSubscription_same hsame]
  · -- A trial was one before the operation, and is the row that the task has found.
    intro p hp htrial
    have hcurrent := get?_of_liveSubscription hkept.ids hp
    refine ⟨q, hq, Eq.symm ?_⟩
    rcases on_comeFrom hids op p.1 p.2 hcurrent with ⟨z, hz, hschool, hztrial⟩ | ⟨-, hnot⟩
    · rw [get?_writeAll hdone, Option.map_eq_some_iff] at hz
      obtain ⟨y, hy, rfl⟩ := hz
      rw [writtenRow_school, (mem_of_liveSubscription hp).2] at hschool
      have hnot : ∀ r ∈ done, r.1 ≠ p.1 := fun r hr hid =>
        hother r hr y (hid ▸ hy) hschool.symm
      rw [writtenRow_of_notMem hnot] at hztrial
      refine hunique hy hschool.symm ?_
      rw [hztrial htrial]
      rfl
    · exact absurd htrial hnot

end Left

/-- **Either order.** What the task has written before the operation, and what it writes afterwards in
time, amount to the whole task before the operation or after it. -/
theorem statusOf_left (hs : s₀.Constrained) (hleft : LeftBy school op now savedAt s₀ s₁ ps)
    (htime : writtenInTime now savedAt s₁ ps) :
    (∀ t, now ≤ t → (s₁.writeAll savedAt ps).statusOf school t =
      ((op.on school s₀).synced now savedAt).statusOf school t) ∨
    ∀ t, now ≤ t → (s₁.writeAll savedAt ps).statusOf school t =
      (op.on school (s₀.synced now savedAt)).statusOf school t := by
  rcases hleft with ⟨done, hfound, rfl⟩ | ⟨rfl, rfl⟩
  · by_cases hother : ∀ q ∈ ps, ∀ x, s₀.subscriptions.get? q.1 = some x → x.school ≠ school
    · exact .inr fun t _ => statusOf_left_written hs hfound hother t
    · push Not at hother
      obtain ⟨q, hq, x, hx, howner⟩ := hother
      exact .inl fun t ht => statusOf_left_unwritten hs hfound hq hx howner htime ht
  · -- The task has begun after the operation.
    refine .inl fun t _ => ?_
    have hafter : (op.on school s₀).Constrained := by
      rw [← op.handle_eq]
      exact hs.handle _
    have hall : (op.on school s₀).writeAll savedAt ((op.on school s₀).outdated now) =
        (op.on school s₀).synced now savedAt := by
      rw [writeAll_eq (nodup_outdated hafter now)]
      unfold Contracts.synced
      congr 1
      exact Dict.mapValues_congr fun p hp => written_found hafter now savedAt hp
    rw [hall]

/-- **The task beside an operation amounts to one after the other**, as long as it writes each row in
time. -/
theorem beside_serial {s : Contracts} (hs : s.Constrained) {school : ℕ} {op : SchoolOperation}
    {now : Instant} {savedAt : ℕ → Instant} {sched : List ℕ} {c : ContractRun}
    (hexec : (syncBeside school op now savedAt s).exec sched = some c) (hover : Over c)
    (htime : WritesInTime now (syncBeside school op now savedAt s) sched) :
    (∀ t, now ≤ t → c.store.statusOf school t =
      ((s.handle (op.call school)).handle (.syncExpirations now savedAt)).statusOf school t) ∨
    ∀ t, now ≤ t → c.store.statusOf school t =
      ((s.handle (.syncExpirations now savedAt)).handle (op.call school)).statusOf school t := by
  obtain ⟨s₁, ps, hleft, hstore, hwritten⟩ := left_of_exec hs.ids hexec htime hover
  have hafter : (op.on school s).Constrained := by
    rw [← op.handle_eq]
    exact hs.handle _
  rw [hstore, op.handle_eq, op.handle_eq, handle_syncExpirations hs,
    handle_syncExpirations hafter]
  exact statusOf_left hs hleft hwritten

/-! ## A contract that ended on the tenth day -/

instance decidableWrittenInTime (now : Instant) (s s' : Contracts) :
    Decidable (WrittenInTime now s s') :=
  inferInstanceAs (Decidable (∀ p ∈ s.subscriptions, ∀ y ∈ s'.subscriptions.get? p.1,
    y.status ≠ p.2.status → (p.1, y.status) ∈ s.outdated now))

instance decidableOver (c : ContractRun) : Decidable (Over c) :=
  inferInstanceAs (Decidable ((c.threads[0]?).all Thread.returned = true ∧
    (c.threads[1]?).all Thread.ended = true))

def checkWritesInTime (now : Instant) : ContractRun → List ℕ → Bool
  | _, [] => true
  | c, i :: is =>
    match c.step i with
    | none => true
    | some c' => decide (i = 0 → WrittenInTime now c.store c'.store) && checkWritesInTime now c' is

theorem writesInTime_of_check {now : Instant} {sched : List ℕ} {c : ContractRun}
    (h : checkWritesInTime now c sched = true) : WritesInTime now c sched := by
  induction sched generalizing c with
  | nil => trivial
  | cons i is ih =>
    intro c' hstep
    unfold checkWritesInTime at h
    rw [hstep, Bool.and_eq_true, decide_eq_true_eq] at h
    exact ⟨h.1, ih h.2⟩

def onTwentiethDay (op : SchoolOperation) : ContractRun :=
  syncBeside 7 op (timedelta 20) (fun _ => timedelta 20) (holding tenDayContract)

def betweenReadAndWrite (statements : ℕ) : List ℕ :=
  [0] ++ List.replicate statements 1 ++ List.replicate 7 0

def operationFirst (op : SchoolOperation) : Contracts :=
  ((holding tenDayContract).handle (op.call 7)).handle
    (.syncExpirations (timedelta 20) fun _ => timedelta 20)

def taskFirst (op : SchoolOperation) : Contracts :=
  ((holding tenDayContract).handle
    (.syncExpirations (timedelta 20) fun _ => timedelta 20)).handle (op.call 7)

def earlyExtension : SchoolOperation := .extend (clockAt (timedelta 5)) 5

theorem beside_serial_of_earlyExtension : ∃ c,
    (onTwentiethDay earlyExtension).exec (betweenReadAndWrite 12) = some c ∧
      ((∀ t, timedelta 20 ≤ t → c.store.statusOf 7 t =
        (operationFirst earlyExtension).statusOf 7 t) ∨
      ∀ t, timedelta 20 ≤ t → c.store.statusOf 7 t =
        (taskFirst earlyExtension).statusOf 7 t) := by
  have hrun : ((onTwentiethDay earlyExtension).exec (betweenReadAndWrite 12)).any
      (fun c => decide (Over c)) = true := by decide +kernel
  have hcheck : checkWritesInTime (timedelta 20) (onTwentiethDay earlyExtension)
      (betweenReadAndWrite 12) = true := by decide +kernel
  obtain ⟨c, hexec, hover⟩ := (Option.any_eq_true _ _).mp hrun
  exact ⟨c, hexec, beside_serial (holding_constrained (by decide)) hexec (of_decide_eq_true hover)
    (writesInTime_of_check hcheck)⟩

def lateExtension : SchoolOperation := .extend (clockAt (timedelta 20)) 30

def lateSuspension : SchoolOperation := .suspend (clockAt (timedelta 20)) "unpaid".toList

def fitsNoOrder (op : SchoolOperation) (c : ContractRun) : Bool :=
  decide (Over c) &&
    decide (c.store.statusOf 7 (timedelta 20) ≠ (operationFirst op).statusOf 7 (timedelta 20)) &&
    decide (c.store.statusOf 7 (timedelta 20) ≠ (taskFirst op).statusOf 7 (timedelta 20))

/-- **A renewal and a suspension are undone** by what the task has read before. -/
theorem operations_undone :
    (∃ c, (onTwentiethDay lateExtension).exec (betweenReadAndWrite 12) = some c ∧
      fitsNoOrder lateExtension c = true ∧
      c.store.statusOf 7 (timedelta 20) = some .expired) ∧
    ∃ c, (onTwentiethDay lateSuspension).exec (betweenReadAndWrite 11) = some c ∧
      fitsNoOrder lateSuspension c = true ∧
      c.store.statusOf 7 (timedelta 20) = some .expired := by
  have hextension : ((onTwentiethDay lateExtension).exec (betweenReadAndWrite 12)).any (fun c =>
      fitsNoOrder lateExtension c &&
        decide (c.store.statusOf 7 (timedelta 20) = some .expired)) = true := by decide +kernel
  have hsuspension : ((onTwentiethDay lateSuspension).exec (betweenReadAndWrite 11)).any (fun c =>
      fitsNoOrder lateSuspension c &&
        decide (c.store.statusOf 7 (timedelta 20) = some .expired)) = true := by decide +kernel
  rw [Option.any_eq_true] at hextension hsuspension
  simp only [Bool.and_eq_true, decide_eq_true_eq] at hextension hsuspension
  exact ⟨hextension, hsuspension⟩

end SchoolPlatform.Subscriptions
