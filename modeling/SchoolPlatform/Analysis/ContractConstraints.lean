import SchoolPlatform.Analysis.ContractSteps

/-!
# The constraints of the contracts

Every operation leaves contracts that meet the constraints of the database: ids are distinct, a school
has one live contract at most, and every row meets the checks of the table.
-/

namespace SchoolPlatform.Subscriptions

open ReadCommitted

variable {α β : Type} {s s' : Contracts}

variable {id : ℕ} {f : SchoolSubscription → SchoolSubscription} {t : ContractTransaction α}

theorem hasOtherLive_eq_false {school : ℕ} : s.hasOtherLive school id = false ↔
    ∀ p ∈ s.subscriptions, p.2.school = school → p.2.status.isLive = true → p.1 = id := by
  unfold Contracts.hasOtherLive
  rw [List.any_eq_false]
  refine forall₂_congr fun p _ => ?_
  cases p.2.status.isLive <;> by_cases hid : p.1 = id <;> by_cases hschool : p.2.school = school <;>
    simp [hid, hschool]

theorem mem_changeSubscription {q : ℕ × SchoolSubscription} :
    q ∈ (s.changeSubscription id f).subscriptions ↔
      ∃ p ∈ s.subscriptions, q = (p.1, if p.1 = id then f p.2 else p.2) := by
  simp only [Contracts.changeSubscription, Dict.adjust, Dict.mapValues, List.mem_map, eq_comm]

theorem Contracts.Constrained.change (hs : s.Constrained) {x : SchoolSubscription}
    (hget : s.subscriptions.get? id = some x) (hvalid : (f x).isValid = true)
    (hlive : (f x).status.isLive = true → s.hasOtherLive (f x).school id = false) :
    (s.changeSubscription id f).Constrained := by
  have hrow : ∀ p ∈ s.subscriptions, p.1 = id → p.2 = x :=
    fun _ hp hid => row_of_get? hs.ids hget hp hid
  refine ⟨?_, ?_, ?_⟩
  · rw [keys_changeSubscription]
    exact hs.ids
  · intro q hq hqlive
    rw [hasOtherLive_eq_false]
    intro q' hq' hsame hq'live
    obtain ⟨p, hp, rfl⟩ := mem_changeSubscription.mp hq
    obtain ⟨p', hp', rfl⟩ := mem_changeSubscription.mp hq'
    show p'.1 = p.1
    -- A row that is live afterwards is live before, or it is the one that is changed.
    by_cases hid : p.1 = id <;> by_cases hid' : p'.1 = id
    · rw [hid, hid']
    · simp only [hid, hid', if_true, if_false, hrow p hp hid] at hqlive hsame hq'live
      have hunique := hasOtherLive_eq_false.mp (hlive hqlive) p' hp' hsame hq'live
      exact absurd hunique hid'
    · simp only [hid, hid', if_true, if_false, hrow p' hp' hid'] at hqlive hsame hq'live
      have hunique := hasOtherLive_eq_false.mp (hlive hq'live) p hp hsame.symm hqlive
      exact absurd hunique hid
    · simp only [hid, hid', if_false] at hqlive hsame hq'live
      exact hasOtherLive_eq_false.mp (hs.live p hp hqlive) p' hp' hsame hq'live
  · intro q hq
    obtain ⟨p, hp, rfl⟩ := mem_changeSubscription.mp hq
    by_cases hid : p.1 = id
    · simp only [hid, if_true, hrow p hp hid]
      exact hvalid
    · simp only [hid, if_false]
      exact hs.valid p hp

theorem Contracts.Constrained.add (hs : s.Constrained) {x : SchoolSubscription}
    (hnew : s.subscriptions.get? id = none) (hvalid : x.isValid = true)
    (hlive : x.status.isLive = true → s.hasOtherLive x.school id = false) :
    (s.addSubscription id x).Constrained := by
  have hfresh : ∀ p ∈ s.subscriptions, p.1 ≠ id := by
    intro p hp hid
    have hsome : s.subscriptions.get? p.1 = some p.2 := (Dict.mem_iff_get? hs.ids p.1 p.2).mp hp
    rw [hid, hnew] at hsome
    cases hsome
  have hmem : ∀ q, q ∈ (s.addSubscription id x).subscriptions ↔ q ∈ s.subscriptions ∨ q = (id, x) :=
    fun q => by simp [Contracts.addSubscription]
  refine ⟨?_, ?_, ?_⟩
  · have hkeys : Dict.keys (s.addSubscription id x).subscriptions =
        Dict.keys s.subscriptions ++ [id] := by
      simp [Dict.keys, Contracts.addSubscription]
    rw [hkeys, List.nodup_append']
    refine ⟨hs.ids, List.nodup_singleton id, fun i hi hlast => ?_⟩
    obtain ⟨p, hp, rfl⟩ := List.mem_map.mp hi
    exact hfresh p hp (List.mem_singleton.mp hlast)
  · intro q hq hqlive
    rw [hasOtherLive_eq_false]
    intro q' hq' hsame hq'live
    rcases (hmem q).mp hq with hold | rfl <;> rcases (hmem q').mp hq' with hold' | rfl
    · exact hasOtherLive_eq_false.mp (hs.live q hold hqlive) q' hold' hsame hq'live
    · have hunique := hasOtherLive_eq_false.mp (hlive hq'live) q hold hsame.symm hqlive
      exact absurd hunique (hfresh q hold)
    · exact hasOtherLive_eq_false.mp (hlive hqlive) q' hold' hsame hq'live
    · rfl
  · intro q hq
    rcases (hmem q).mp hq with hold | rfl
    · exact hs.valid q hold
    · exact hvalid

theorem Contracts.Constrained.of_eq (hs : s.Constrained)
    (h : s'.subscriptions = s.subscriptions) : s'.Constrained := by
  refine ⟨?_, fun p hp hlive => ?_, ?_⟩
  · rw [h]
    exact hs.ids
  · rw [hasOtherLive_eq_false, h]
    rw [h] at hp
    exact hasOtherLive_eq_false.mp (hs.live p hp hlive)
  · rw [h]
    exact hs.valid

def KeepsConstraints (t : ContractTransaction α) : Prop :=
  ∀ s a s', s.Constrained → t.eval s = .ok (a, s') → s'.Constrained

theorem KeepsConstraints.bind {t : ContractTransaction β} {g : β → ContractTransaction α}
    (ht : KeepsConstraints t) (hg : ∀ b, KeepsConstraints (g b)) : KeepsConstraints (t.bind g) := by
  intro s a s' hs h
  obtain ⟨b, s₁, hfirst, hrest⟩ := Tx.eval_bind_ok.mp h
  exact hg b s₁ a s' (ht s b s₁ hs hfirst) hrest

theorem Tx.Keeps.keepsConstraints (h : t.Keeps fun s => s.subscriptions) : KeepsConstraints t :=
  fun _ _ _ hs heval => hs.of_eq (h.eval heval)

theorem keepsConstraints_check (c : Bool) (e : Failure) : KeepsConstraints (check c e) := by
  apply Tx.Keeps.keepsConstraints
  cases c <;> trivial

theorem keepsConstraints_raise (e : Failure) :
    KeepsConstraints (.raise e : ContractTransaction α) :=
  fun _ _ _ _ h => nomatch h

theorem keepsConstraints_ret (a : α) : KeepsConstraints (.ret a : ContractTransaction α) :=
  Tx.Keeps.keepsConstraints trivial

theorem keepsConstraints_select (q : Contracts → α) : KeepsConstraints (Tx.select q) :=
  Tx.Keeps.keepsConstraints fun _ => trivial

theorem keepsConstraints_lockRows (m : LockMode) (rows : List ContractRow) :
    KeepsConstraints (Tx.lockRows m rows) :=
  Tx.Keeps.keepsConstraints trivial

theorem keepsConstraints_saveSubscription (id : ℕ)
    (f : SchoolSubscription → SchoolSubscription) : KeepsConstraints (saveSubscription id f) := by
  intro s a s' hs h
  rw [← Tx.bind_ret (saveSubscription id f), eval_saveSubscription_bind] at h
  obtain ⟨x, hget, hvalid, hlive, h⟩ := h
  rw [Tx.eval_ret, Except.ok.injEq, Prod.mk.injEq] at h
  rw [← h.2]
  exact hs.change hget hvalid hlive

theorem keepsConstraints_createSubscription (id : ℕ) (x : SchoolSubscription) :
    KeepsConstraints (createSubscription id x) := by
  intro s a s' hs h
  unfold createSubscription at h
  simp only [Tx.bind_eq] at h
  rw [eval_lockRows_bind, eval_select_bind, eval_check_bind, eval_checkSubscription_bind] at h
  obtain ⟨hfree, hvalid, hlive, h⟩ := h
  rw [Tx.eval_update, Except.ok.injEq, Prod.mk.injEq] at h
  rw [← h.2]
  refine hs.add ?_ hvalid hlive
  rw [Bool.not_eq_true', Option.isSome_eq_false_iff, Option.isNone_iff_eq_none] at hfree
  exact hfree

theorem KeepsConstraints.orConflict (h : KeepsConstraints t) : KeepsConstraints (orConflict t) :=
  fun s a s' hs heval => h s a s' hs (eval_orConflict_ok.mp heval)

theorem keepsConstraints_copyEntitlements (id plan : ℕ) :
    KeepsConstraints (copyEntitlements id plan) :=
  Tx.Keeps.keepsConstraints ⟨fun _ => rfl, fun _ => ⟨fun _ => rfl, trivial⟩⟩

theorem keepsConstraints_resolvePlan (plan : ℕ) : KeepsConstraints (resolvePlan plan) := by
  refine (keepsConstraints_select _).bind fun found => ?_
  cases found with
  | none => exact keepsConstraints_raise _
  | some p => exact (keepsConstraints_check _ _).bind fun _ => keepsConstraints_ret _

theorem keepsConstraints_requireFreePlanAvailable (school : ℕ) (plan : SaaSPlan) :
    KeepsConstraints (requireFreePlanAvailable school plan) := by
  unfold requireFreePlanAvailable
  split
  · exact keepsConstraints_ret _
  · exact (keepsConstraints_select _).bind fun _ => keepsConstraints_check _ _

theorem keepsConstraints_lockLatest (school : ℕ) : KeepsConstraints (lockLatest school) :=
  Tx.Keeps.keepsConstraints fun _ _ => trivial

theorem keepsConstraints_lockedLive (school : ℕ) : KeepsConstraints (lockedLive school) := by
  refine (keepsConstraints_lockLatest school).bind fun found => ?_
  cases found with
  | none => exact keepsConstraints_raise _
  | some p => exact keepsConstraints_ret p

theorem keepsConstraints_requireNoLiveSubscription (clock : ContractClock) (school : ℕ) :
    KeepsConstraints (requireNoLiveSubscription clock school) := by
  refine (keepsConstraints_select _).bind fun existing => ?_
  cases existing with
  | none => exact keepsConstraints_ret _
  | some p =>
    refine (keepsConstraints_check _ _).bind fun _ => ?_
    split
    · exact keepsConstraints_saveSubscription _ _
    · exact keepsConstraints_ret _

theorem keepsConstraints_replaceCurrent (clock : ContractClock)
    (current : Option (ℕ × SchoolSubscription)) : KeepsConstraints (replaceCurrent clock current) := by
  cases current with
  | none => exact keepsConstraints_ret _
  | some p =>
    obtain ⟨id, x⟩ := p
    show KeepsConstraints (if !x.status.isLive then _ else _)
    by_cases hlive : (!x.status.isLive) = true
    · rw [if_pos hlive]
      exact keepsConstraints_ret _
    · rw [if_neg hlive]
      exact (keepsConstraints_check _ _).bind fun _ => keepsConstraints_saveSubscription _ _

theorem keepsConstraints_orRaise (r : Except Failure α) : KeepsConstraints (orRaise r) := by
  cases r with
  | ok a => exact keepsConstraints_ret a
  | error e => exact keepsConstraints_raise e

theorem keepsConstraints_save {school : ℕ} (a : α) :
    KeepsConstraints ((saveSubscription id f).bind fun _ =>
      (recordEvents school).bind fun _ => .ret a) :=
  (keepsConstraints_saveSubscription id f).bind fun _ =>
    (keepsConstraints_lockRows _ _).bind fun _ => keepsConstraints_ret a

theorem keepsConstraints_startTrial (clock : ContractClock) (school planId : ℕ)
    (trialDays : Option ℤ) (newId : ℕ) :
    KeepsConstraints (startTrial clock school planId trialDays newId) := by
  refine (keepsConstraints_resolvePlan planId).bind fun plan => ?_
  refine (keepsConstraints_lockRows _ _).bind fun _ => ?_
  refine (keepsConstraints_requireNoLiveSubscription clock school).bind fun _ => ?_
  refine (keepsConstraints_requireFreePlanAvailable school plan).bind fun _ => ?_
  refine (keepsConstraints_check _ _).bind fun _ => ?_
  refine (keepsConstraints_createSubscription newId _).orConflict.bind fun _ => ?_
  refine (keepsConstraints_copyEntitlements newId planId).bind fun _ => ?_
  exact (keepsConstraints_lockRows _ _).bind fun _ => keepsConstraints_ret _

theorem keepsConstraints_extendTrial (clock : ContractClock) (school : ℕ) (extraDays : ℤ) :
    KeepsConstraints (extendTrial clock school extraDays) := by
  refine (keepsConstraints_lockedLive school).bind fun p => ?_
  refine (keepsConstraints_check _ _).bind fun _ => ?_
  exact (keepsConstraints_check _ _).bind fun _ => keepsConstraints_save _

theorem keepsConstraints_activate (clock : ContractClock) (school planId : ℕ)
    (duration : ContractDuration) (newId : ℕ) :
    KeepsConstraints (activate clock school planId duration newId) := by
  refine (keepsConstraints_resolvePlan planId).bind fun plan => ?_
  refine (keepsConstraints_lockRows _ _).bind fun _ => ?_
  refine (keepsConstraints_requireFreePlanAvailable school plan).bind fun _ => ?_
  refine (keepsConstraints_lockLatest school).bind fun current => ?_
  refine (keepsConstraints_orRaise _).bind fun ends => ?_
  refine (keepsConstraints_replaceCurrent clock current).bind fun _ => ?_
  refine (keepsConstraints_createSubscription newId _).bind fun _ => ?_
  refine (keepsConstraints_copyEntitlements newId planId).bind fun _ => ?_
  exact (keepsConstraints_lockRows _ _).bind fun _ => keepsConstraints_ret _

theorem keepsConstraints_changePlan (clock : ContractClock) (school planId : ℕ) :
    KeepsConstraints (changePlan clock school planId) := by
  refine (keepsConstraints_resolvePlan planId).bind fun plan => ?_
  refine (keepsConstraints_lockedLive school).bind fun p => ?_
  refine (keepsConstraints_check _ _).bind fun _ => (keepsConstraints_check _ _).bind fun _ => ?_
  refine (keepsConstraints_requireFreePlanAvailable school plan).bind fun _ => ?_
  refine (keepsConstraints_saveSubscription _ _).bind fun _ => ?_
  refine (keepsConstraints_copyEntitlements _ planId).bind fun _ => ?_
  exact (keepsConstraints_lockRows _ _).bind fun _ => keepsConstraints_ret _

theorem keepsConstraints_extend (clock : ContractClock) (school : ℕ) (extraDays : ℤ) :
    KeepsConstraints (extend clock school extraDays) := by
  refine (keepsConstraints_lockedLive school).bind fun p => ?_
  refine (keepsConstraints_check _ _).bind fun _ => (keepsConstraints_check _ _).bind fun _ => ?_
  refine (keepsConstraints_select _).bind fun _ => ?_
  exact (keepsConstraints_check _ _).bind fun _ => keepsConstraints_save _

theorem keepsConstraints_suspend (clock : ContractClock) (school : ℕ) (reason : Text) :
    KeepsConstraints (suspend clock school reason) := by
  refine (keepsConstraints_check _ _).bind fun _ => ?_
  refine (keepsConstraints_lockedLive school).bind fun p => ?_
  exact (keepsConstraints_check _ _).bind fun _ => keepsConstraints_save _

theorem keepsConstraints_reactivate (clock : ContractClock) (school : ℕ) :
    KeepsConstraints (reactivate clock school) := by
  refine (keepsConstraints_lockedLive school).bind fun p => ?_
  exact (keepsConstraints_check _ _).bind fun _ => keepsConstraints_save _

theorem keepsConstraints_cancel (clock : ContractClock) (school : ℕ) (reason : Text) :
    KeepsConstraints (cancel clock school reason) := by
  refine (keepsConstraints_check _ _).bind fun _ => ?_
  refine (keepsConstraints_lockedLive school).bind fun p => ?_
  exact (keepsConstraints_check _ _).bind fun _ => keepsConstraints_save _

theorem keepsConstraints_setEntitlementOverride (clock : ContractClock) (school : ℕ)
    (key : String) (numericValue : Option ℤ) (isEnabled : Bool) :
    KeepsConstraints (setEntitlementOverride clock school key numericValue isEnabled) := by
  refine (keepsConstraints_lockedLive school).bind fun p => ?_
  refine KeepsConstraints.bind (Tx.Keeps.keepsConstraints ⟨fun _ => rfl, trivial⟩) fun _ => ?_
  exact (keepsConstraints_saveSubscription _ _).bind fun _ => keepsConstraints_lockRows _ _

theorem KeepsConstraints.commit (h : KeepsConstraints t) :
    (Subscriptions.commit t).Preserves Contracts.Constrained :=
  ⟨fun s _ s' hs heval => (h.bind fun _ => keepsConstraints_ret ()) s _ s' hs heval,
    fun _ => trivial⟩

theorem preserves_saveStatuses (savedAt : ℕ → Instant) (changes : List (ℕ × SubscriptionStatus)) :
    (Program.forEach (fun p => Program.transaction (saveStatus p.1 p.2 (savedAt p.1))) changes :
      ContractProgram Unit).Preserves Contracts.Constrained := by
  induction changes with
  | nil => trivial
  | cons p changes ih =>
    refine Program.Preserves.bind (p := Program.transaction _) ?_ fun _ => ih
    refine ⟨fun s a s' hs h => ?_, fun _ => trivial⟩
    exact keepsConstraints_saveSubscription _ _ s a s' hs h

theorem preserves_syncExpirations (now : Instant) (savedAt : ℕ → Instant) :
    (syncExpirations now savedAt).Preserves Contracts.Constrained :=
  fun changes => (preserves_saveStatuses savedAt changes).bind fun _ => trivial

theorem Contracts.Constrained.handle (hs : s.Constrained) (call : ContractCall) :
    (s.handle call).Constrained := by
  apply Program.Preserves.run (I := Contracts.Constrained) _ hs
  cases call with
  | startTrial clock school planId trialDays newId =>
    exact (keepsConstraints_startTrial clock school planId trialDays newId).commit
  | extendTrial clock school extraDays => exact (keepsConstraints_extendTrial _ _ _).commit
  | activate clock school planId duration newId =>
    exact (keepsConstraints_activate clock school planId duration newId).commit
  | changePlan clock school planId => exact (keepsConstraints_changePlan _ _ _).commit
  | extend clock school extraDays => exact (keepsConstraints_extend _ _ _).commit
  | suspend clock school reason => exact (keepsConstraints_suspend _ _ _).commit
  | reactivate clock school => exact (keepsConstraints_reactivate _ _).commit
  | cancel clock school reason => exact (keepsConstraints_cancel _ _ _).commit
  | setEntitlementOverride clock school key numericValue isEnabled =>
    exact (keepsConstraints_setEntitlementOverride _ _ _ _ _).commit
  | syncExpirations now savedAt =>
    exact (preserves_syncExpirations now savedAt).bind fun _ => trivial

end SchoolPlatform.Subscriptions
