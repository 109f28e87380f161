import SchoolPlatform.Analysis.ArrivalRules
import SchoolPlatform.Analysis.TheoremCrashes
import Mathlib.Order.Bounds.Defs

/-!
# Arrivals and calls beside each other

Calls that run statement by statement beside each other end with the earliest scans as arrivals
when no insertion of an arrival meets one that has come in the meantime
(`playedBeside_earliest`). In the schedule `earlyBesideLate` the bulk insertion of an early scan
meets the arrival of a late one, and is ignored.
-/

/-! ## Concurrent calls, each on its own -/

namespace SchoolPlatform

open ReadCommitted

section Outlines

variable {owner : ℤ → Text → Student} {settings : MorningSettings}

def WithScans (settings : MorningSettings) (xs : List ArrivalItem) (s : DeviceStore) : Prop :=
  Base settings s ∧ ∀ x ∈ xs, StoredScan x s

theorem withScans_kept {L : DeviceLocks} {s s' : DeviceStore} {xs : List ArrivalItem}
    (h : Allowed owner L s s') (hs : WithScans settings xs s) : WithScans settings xs s' :=
  ⟨h.base hs.1, fun x hx => h.storedScan (hs.2 x hx)⟩

theorem withScans_stable (xs : List ArrivalItem) (held : DeviceLocks) :
    (arrivalRules owner).Stable held (WithScans settings xs) :=
  stable_of_allowed (fun _ _ _ h hs => withScans_kept h hs) held

def WithFound (settings : MorningSettings) (xs : List ArrivalItem) (found : List (ℕ × Date))
    (s : DeviceStore) : Prop :=
  WithScans settings xs s ∧ ∀ k ∈ found, (s.arrival? k.1 k.2).isSome

theorem withFound_kept {L : DeviceLocks} {s s' : DeviceStore} {xs : List ArrivalItem}
    {found : List (ℕ × Date)} (h : Allowed owner L s s') (hs : WithFound settings xs found s) :
    WithFound settings xs found s' :=
  ⟨withScans_kept h hs.1, fun k hk => h.arrival_isSome (hs.2 k hk)⟩

def foundLocks (found : List (ℕ × Date)) : DeviceLocks :=
  (found.map fun k => DeviceRow.arrivalRow k.1 k.2).map fun r => (r, .update)

theorem mem_foundLocks {found : List (ℕ × Date)} {k : ℕ × Date} (h : k ∈ found) :
    (.arrivalRow k.1 k.2, .update) ∈ foundLocks found :=
  List.mem_map_of_mem (List.mem_map_of_mem (f := fun k => DeviceRow.arrivalRow k.1 k.2) h)

theorem lockedArrivals_steady {found : List (ℕ × Date)} {L held : DeviceLocks}
    {s s' : DeviceStore} (hheld : foundLocks found ⊆ held) (hcompat : Compatible held L)
    (h : Allowed owner L s s') (hfound : ∀ k ∈ found, (s.arrival? k.1 k.2).isSome) :
    DeviceStore.lockedArrivals found s' = DeviceStore.lockedArrivals found s := by
  unfold DeviceStore.lockedArrivals
  apply List.filterMap_congr
  intro k hk
  exact h.arrival_eq (hcompat.not_mem (hheld (mem_foundLocks hk)) .update) (hfound k hk)

theorem correctArrival_quiet (settings : MorningSettings) (existing : List SchoolArrival)
    (entry : (ℕ × Date) × ArrivalItem) : (correctArrival settings existing entry).Quiet := by
  unfold correctArrival
  split
  · trivial
  · split <;> trivial

theorem insertion_locks (settings : MorningSettings) {entries : Dict (ℕ × Date) ArrivalItem}
    {entry : (ℕ × Date) × ArrivalItem} (h : entry ∈ entries) (s : DeviceStore) :
    (.arrivalKey entry.2.student (entry.2.date settings), .update) ∈
      (Tx.forEach (fun entry => insertArrivalIgnoring (entry.2.arrival settings))
        entries : DeviceTransaction Unit).locksOn s := by
  induction entries generalizing s with
  | nil => cases h
  | cons e entries ih =>
    have heval := insertArrivalIgnoring_eval (e.2.arrival settings) s
    show _ ∈ ((insertArrivalIgnoring (e.2.arrival settings)).bind fun _ =>
      Tx.forEach (fun entry => insertArrivalIgnoring (entry.2.arrival settings)) entries).locksOn s
    rw [Tx.locksOn_bind heval, List.mem_append]
    rcases List.mem_cons.mp h with rfl | hmem
    · exact .inl List.mem_cons_self
    · exact .inr (ih hmem _)

theorem applyEarliest_locks (settings : MorningSettings) (earliest : Dict (ℕ × Date) ArrivalItem)
    (found : List (ℕ × Date)) (s : DeviceStore) :
    foundLocks found ⊆ (applyEarliest settings earliest found).locksOn s ∧
      ∀ entry ∈ earliest, entry.1 ∉ found →
        (.arrivalKey entry.2.student (entry.2.date settings), .update) ∈
          (applyEarliest settings earliest found).locksOn s := by
  have hlocks : (applyEarliest settings earliest found).locksOn s = foundLocks found ++
      ((Tx.forEach (correctArrival settings (DeviceStore.lockedArrivals found s)) earliest).bind
        fun _ => Tx.forEach (fun entry => insertArrivalIgnoring (entry.2.arrival settings))
          (earliest.filter fun entry => entry.1 ∉ (DeviceStore.lockedArrivals found s).map
            fun a => (a.student, a.attendanceDate))).locksOn s := rfl
  rw [hlocks, Tx.locksOn_bind (eval_forEach (correctArrival_eval settings _) earliest s)]
  refine ⟨List.subset_append_left _ _, fun entry hentry hnot => ?_⟩
  apply List.mem_append_right
  apply List.mem_append_right
  apply insertion_locks
  rw [List.mem_filter, decide_eq_true_eq, DeviceStore.mem_keys_lockedArrivals]
  exact ⟨hentry, fun h => hnot h.1⟩

theorem applyEarliest_atCommit {items : List ArrivalItem} {b : MorningSettings}
    (found : List (ℕ × Date)) {J : DeviceStore → Prop}
    (hJ : ∀ s, J s → b = settings ∧ WithFound settings items found s) :
    (applyEarliest b (earliestItems b items) found).AtCommit (arrivalRules owner)
      (scansOwed items) (fun _ _ => False) (fun _ => WithScans settings items) J [] := by
  constructor
  · refine ⟨fun L s s' hcompat h hs => ?_, fun existing => ?_⟩
    · apply lockedArrivals_steady _ hcompat h (hJ s hs).2.2
      exact List.subset_append_left _ _
    · have hquiet : ((Tx.forEach (correctArrival b existing) (earliestItems b items)).bind fun _ =>
          Tx.forEach (fun entry => insertArrivalIgnoring (entry.2.arrival b))
            ((earliestItems b items).filter fun entry => entry.1 ∉ existing.map
              fun a => (a.student, a.attendanceDate))).Quiet :=
        (Tx.Quiet.forEach (correctArrival_quiet b existing) _).bind fun _ =>
          Tx.Quiet.forEach (fun entry => by trivial) _
      exact hquiet.steady _ _ _ _
  · intro s a s' hs heval hasks
    obtain ⟨hb, hwith, hfound⟩ := hJ s hs
    subst hb
    have hnodup := nodup_keys_earliestItems b items
    have hkeys : ∀ e ∈ earliestItems b items, e.2.key b = e.1 :=
      fun e he => key_of_mem_earliestItems he
    obtain ⟨t, heval', hbeside, harrival⟩ := applyEarliest_eval hnodup hkeys found s
    rw [heval', Except.ok.injEq, Prod.mk.injEq] at heval
    rw [← heval.2]
    have hlocks := applyEarliest_locks b (earliestItems b items) found s
    -- What has not been found is not there, as it is asked of the store.
    have hmissing : ∀ k x, Dict.get? (earliestItems b items) k = some x → k ∉ found →
        (.arrivalKey k.1 k.2, .update) ∈ (applyEarliest b (earliestItems b items) found).locksOn s ∧
          s.arrival? k.1 k.2 = none := by
      intro k x hx hk
      have hmem := (Dict.mem_iff_get? hnodup k x).mpr hx
      have hkey : x.key b = k := hkeys _ hmem
      have hlock := hlocks.2 _ hmem hk
      have hstudent : x.student = k.1 := congrArg Prod.fst hkey
      have hdate : x.date b = k.2 := congrArg Prod.snd hkey
      simp only [hstudent, hdate] at hlock
      exact ⟨hlock, hasks _ hlock⟩
    have happlied : Applied items s t := by
      refine ⟨hbeside, fun k => ?_⟩
      rw [harrival k, hwith.1.settings]
      cases hx : Dict.get? (earliestItems b items) k with
      | none => rfl
      | some x =>
        by_cases hk : k ∈ found
        · simp only [if_pos hk]
        · simp only [if_neg hk, (hmissing k x hx hk).2, improve, Option.getD_none]
    have hfirst : ∀ x ∈ items, ∃ first, Dict.get? (earliestItems b items) (x.key b) = some first :=
      fun x hx => ((isEarliest_earliestItems b items).le x hx).imp fun first h => h.1
    apply happlied.commits hwith.1 hwith.2
    · intro x hx hsome
      by_cases hk : x.key b ∈ found
      · exact hlocks.1 (mem_foundLocks hk)
      · obtain ⟨first, hfirst⟩ := hfirst x hx
        have hnone := (hmissing _ first hfirst hk).2
        simp only [ArrivalItem.key] at hnone
        rw [hnone] at hsome
        cases hsome
    · intro x hx hnone
      by_cases hk : x.key b ∈ found
      · have hsome := hfound _ hk
        simp only [ArrivalItem.key] at hsome
        rw [hnone] at hsome
        cases hsome
      · obtain ⟨first, hfirst⟩ := hfirst x hx
        exact (hmissing _ first hfirst hk).1
    · exact fun h => withScans_kept h hwith

theorem bulk_outline (items : List ArrivalItem) :
    (applyArrivalEventsBulk items).Outline (arrivalRules owner) (fun _ _ => False)
      (fun _ => WithScans settings items) (scansOwed items) (WithScans settings items) := by
  by_cases hnil : items = []
  · subst hnil
    unfold applyArrivalEventsBulk
    rw [if_pos rfl]
    refine ⟨fun t ht => ?_, fun s hs => hs⟩
    obtain ⟨x, hx, _⟩ := ht
    cases hx
  · rw [applyArrivalEventsBulk_eq hnil]
    refine ⟨fun b s => b = settings ∧ WithScans settings items s, fun s hs => ⟨hs.1.settings, hs⟩,
      fun b => stable_of_allowed (fun _ _ _ h hs => ⟨hs.1, withScans_kept h hs.2⟩) [],
      fun b => ⟨fun _ _ => False, fun _ => WithScans settings items, ?_,
        fun _ => withScans_stable items [], fun _ => ⟨fun t ht => ht, fun s hs => hs⟩⟩⟩
    -- What is found stays there; from the locks on, the transaction is one step.
    exact .inr ⟨fun found s => b = settings ∧ WithFound settings items found s,
      fun s hs => ⟨hs.1, hs.2, fun k hk => ((s.mem_arrivalKeys_iff _ _ k.1 k.2).mp hk).1⟩,
      fun found => stable_of_allowed (fun _ _ _ h hs => ⟨hs.1, withFound_kept h hs.2⟩) [],
      fun found => .inl (applyEarliest_atCommit found fun s hs => hs)⟩

theorem applyItem_locks {x : ArrivalItem} {found : List (ℕ × Date)} {s : DeviceStore}
    (hfound : FoundOne x s.settings found s) :
    ((s.arrival? x.student (x.date s.settings)).isSome → found ≠ [] →
        (.arrivalRow x.student (x.date s.settings), .update) ∈
          (applyItem s.settings x found).locksOn s) ∧
      (found = [] → (.arrivalKey x.student (x.date s.settings), .update) ∈
        (applyItem s.settings x found).locksOn s) := by
  constructor
  · intro _ hne
    obtain ⟨k, hk⟩ := List.exists_mem_of_ne_nil found hne
    have hlock := mem_foundLocks hk
    rw [(hfound k hk).1] at hlock
    exact List.mem_append_left _ hlock
  · intro hnil
    subst hnil
    exact List.mem_append_right _ List.mem_cons_self

variable (owner settings) in
/-- **The application of one scan** pays for it, and what everybody keeps is kept. -/
theorem item_outline (x : ArrivalItem) {R : DeviceStore → Prop}
    (hR : ∀ L s s', Allowed owner L s s' → R s → R s') :
    (applyArrivalEvent x).Outline (arrivalRules owner) (fun _ _ => False) (fun _ => R)
      (scansOwed [x]) (fun s => WithScans settings [x] s ∧ R s) := by
  rw [applyArrivalEvent_eq]
  have hkept : ∀ (b : MorningSettings) (L : DeviceLocks) (s s' : DeviceStore), Allowed owner L s s' →
      (b = settings ∧ WithScans settings [x] s ∧ R s) →
        (b = settings ∧ WithScans settings [x] s' ∧ R s') :=
    fun b L s s' h hs => ⟨hs.1, withScans_kept h hs.2.1, hR L s s' h hs.2.2⟩
  refine ⟨fun b s => b = settings ∧ WithScans settings [x] s ∧ R s,
    fun s hs => ⟨hs.1.1.settings, hs⟩, fun b => stable_of_allowed (hkept b) [],
    fun b => ⟨fun _ _ => False, fun _ => R, ?_, fun _ => stable_of_allowed hR [],
      fun _ => ⟨fun t ht => ht, fun s hs => hs⟩⟩⟩
  refine .inr ⟨fun found s => (b = settings ∧ WithScans settings [x] s ∧ R s) ∧
      FoundOne x b found s, fun s hs => ⟨hs, foundOne_arrivalKeys x b s⟩,
    fun found => stable_of_allowed (fun L s s' h hs => ⟨hkept b L s s' h hs.1,
      fun k hk => ⟨(hs.2 k hk).1, h.arrival_isSome (hs.2 k hk).2⟩⟩) [],
    fun found => .inl ⟨⟨fun L s s' hcompat h hs => ?_, fun existing => ?_⟩, ?_⟩⟩
  · apply lockedArrivals_steady _ hcompat h fun k hk => (hs.2 k hk).2
    exact List.subset_append_left _ _
  · -- Whether somebody else makes the arrival is settled by the lock on its key.
    cases existing with
    | nil =>
      refine ⟨fun L s s' hcompat h hs => ?_, fun taken => ?_⟩
      · exact h.arrival_isSome_eq (hcompat.not_mem List.mem_cons_self .update)
      · cases taken <;> trivial
    | cons a rest =>
      have hquiet : (if x.occurredAt < a.firstArrivalAt then
          Tx.update fun s : DeviceStore => s.setArrival (x.arrival b) else .ret () :
            DeviceTransaction Unit).Quiet := by
        split <;> trivial
      exact hquiet.steady _ _ _ _
  · intro s a s' ⟨⟨hb, hwith, hrest⟩, hfound⟩ heval hasks
    have hsettings : s.settings = b := hwith.1.settings.trans hb.symm
    subst hsettings
    have happlied := applyItem_eval hfound heval
    have hlocks := applyItem_locks hfound
    rw [← hb] at hwith
    refine happlied.commits hwith.1 hwith.2 (fun y hy hsome => ?_) (fun y hy hnone => ?_)
      fun h => hR _ s s' h hrest
    · rw [List.mem_singleton.mp hy] at hsome ⊢
      apply hlocks.1 hsome
      -- With nothing found the scan would have met the arrival and failed.
      intro hnil
      obtain ⟨b, hb⟩ := Option.isSome_iff_exists.mp hsome
      subst hnil
      have hraise : (applyItem s.settings x []).eval s = .error .transactionAborted := by
        unfold applyItem
        simp [DeviceStore.lockedArrivals, hb]
      have heval' : (applyItem s.settings x []).eval s = .ok (a, s') := heval
      rw [hraise] at heval'
      cases heval'
    · rw [List.mem_singleton.mp hy] at hnone ⊢
      apply hlocks.2
      apply List.eq_nil_iff_forall_not_mem.mpr
      intro k hk
      obtain ⟨hkey, hsome⟩ := hfound k hk
      rw [hkey] at hsome
      simp only [ArrivalItem.key] at hsome
      rw [hnone] at hsome
      cases hsome

theorem reserveEvents_spec (rows : List DeviceEvent) (s : DeviceStore) :
    ∃ free, (reserveEvents rows).eval s = .ok (free, s) ∧ (free = true →
      (∀ row ∈ rows, s.event? row.device row.dedupeKey = none) ∧
        ∀ row ∈ rows, (.eventKey row.device row.dedupeKey, .update) ∈
          (reserveEvents rows).locksOn s) := by
  induction rows with
  | nil => exact ⟨true, rfl, fun _ => ⟨by simp, by simp⟩⟩
  | cons row rows ih =>
    obtain ⟨free, heval, hfree⟩ := ih
    cases htaken : (s.event? row.device row.dedupeKey).isSome with
    | true =>
      refine ⟨false, ?_, fun h => (nomatch h)⟩
      unfold reserveEvents
      simp only [Tx.bind_eq, Tx.eval_bind, Tx.eval_lockRows, Tx.eval_select, htaken]
      rfl
    | false =>
      refine ⟨free, ?_, fun h => ⟨?_, ?_⟩⟩
      · unfold reserveEvents
        simp only [Tx.bind_eq, Tx.eval_bind, Tx.eval_lockRows, Tx.eval_select, htaken]
        exact heval
      · rw [List.forall_mem_cons]
        exact ⟨Option.not_isSome_iff_eq_none.mp (Bool.eq_false_iff.mp htaken), (hfree h).1⟩
      · have hlocks : (reserveEvents (row :: rows)).locksOn s =
            [(DeviceRow.eventKey row.device row.dedupeKey, LockMode.update)] ++
              (if (s.event? row.device row.dedupeKey).isSome then pure false
                else reserveEvents rows : DeviceTransaction Bool).locksOn s := rfl
        rw [hlocks, htaken, List.forall_mem_cons]
        exact ⟨List.mem_cons_self, fun r hr => List.mem_append_right _ ((hfree h).2 r hr)⟩

theorem reserveEvents_steady {J : DeviceStore → Prop} (rows : List DeviceEvent)
    {g : Bool → DeviceTransaction Bool} (hg : ∀ b, (g b).Quiet) (held : DeviceLocks) :
    ((reserveEvents rows).bind g).Steady (arrivalRules owner) J held fun s => s := by
  induction rows generalizing held with
  | nil => exact (hg true).steady _ _ _ _
  | cons row rows ih =>
    refine ⟨fun L s s' hcompat h hs => ?_, fun taken => ?_⟩
    · exact h.event_isSome_eq (hcompat.not_mem List.mem_cons_self .update)
    · cases taken with
      | true => exact (hg false).steady _ _ _ _
      | false => exact ih _

def addReserved (rows : List DeviceEvent) (free : Bool) : DeviceTransaction Bool :=
  if free then (Tx.update fun s => s.addEvents rows).bind fun _ => .ret true else .ret false

theorem insertEvents_eq (rows : List DeviceEvent) :
    insertEvents rows = (reserveEvents rows).bind (addReserved rows) := rfl

theorem withScans_append {xs ys : List ArrivalItem} {s : DeviceStore}
    (h : WithScans settings xs s) (hy : ∀ y ∈ ys, StoredScan y s) :
    WithScans settings (xs ++ ys) s := by
  refine ⟨h.1, fun x hx => ?_⟩
  rcases List.mem_append.mp hx with hx | hx
  · exact h.2 x hx
  · exact hy x hx

def insertedScans (rows : List DeviceEvent) (fresh : Bool) : List ArrivalItem :=
  if fresh then rows.filterMap DeviceEvent.item? else []

variable (owner settings) in
theorem insertEvents_outline (rows : List DeviceEvent) (hnodup : (rows.map DeviceEvent.key).Nodup)
    (xs : List ArrivalItem) :
    (Program.transaction (insertEvents rows)).Outline (arrivalRules owner)
      (fun fresh => scansOwed (xs ++ insertedScans rows fresh))
      (fun fresh => WithScans settings (xs ++ insertedScans rows fresh)) (scansOwed xs)
      (WithScans settings xs) := by
  refine ⟨fun fresh => scansOwed (xs ++ insertedScans rows fresh),
    fun fresh => WithScans settings (xs ++ insertedScans rows fresh), ?_,
    fun fresh => withScans_stable _ [], fun fresh => ⟨fun t ht => ht, fun s hs => hs⟩⟩
  have hat : (insertEvents rows).AtCommit (arrivalRules owner) (scansOwed xs)
      (fun fresh => scansOwed (xs ++ insertedScans rows fresh))
      (fun fresh => WithScans settings (xs ++ insertedScans rows fresh))
      (WithScans settings xs) [] := by
    rw [insertEvents_eq]
    refine ⟨reserveEvents_steady rows (fun b => by cases b <;> trivial) [], ?_⟩
    intro s fresh s' hs heval hasks
    obtain ⟨free, hreserve, hfree⟩ := reserveEvents_spec rows s
    rw [Tx.eval_bind, hreserve] at heval
    rw [Tx.locksOn_bind hreserve]
    cases free with
    | false =>
      simp only [addReserved, Bool.false_eq_true, if_false, Tx.eval_ret, Except.ok.injEq,
        Prod.mk.injEq] at heval
      rw [← heval.1, ← heval.2]
      apply commits_of_same rfl
      · intro t ⟨x, hx, hxt⟩
        exact ⟨x, List.mem_append_left _ hx, hxt⟩
      · intro _
        exact withScans_append hs (by simp [insertedScans])
    | true =>
      obtain ⟨habsent, hlocks⟩ := hfree rfl
      simp only [addReserved, if_true, Tx.eval_bind, Tx.eval_update, Tx.eval_ret, Except.ok.injEq,
        Prod.mk.injEq] at heval
      rw [← heval.1, ← heval.2]
      apply addEvents_commits hnodup habsent
      · intro row hrow
        rw [List.nil_append]
        exact List.mem_append_left _ (hlocks row hrow)
      · exact fun h hnew => withScans_append (withScans_kept h hs) hnew
  cases rows with
  | nil => exact hat
  | cons row rows => exact .inl hat

theorem insertOneByOne_outline (slots : List Slot) (xs : List ArrivalItem) :
    (insertOneByOne slots).Outline (arrivalRules owner)
      (fun r => scansOwed (xs ++ r.1.filterMap DeviceEvent.item?))
      (fun r => WithScans settings (xs ++ r.1.filterMap DeviceEvent.item?)) (scansOwed xs)
      (WithScans settings xs) := by
  induction slots generalizing xs with
  | nil =>
    have hxs : xs ++ ([] : List DeviceEvent).filterMap DeviceEvent.item? = xs := by simp
    refine ⟨fun t ht => ?_, fun s hs => ?_⟩
    · show scansOwed (xs ++ ([] : List DeviceEvent).filterMap DeviceEvent.item?) t
      rw [hxs]
      exact ht
    · show WithScans settings (xs ++ ([] : List DeviceEvent).filterMap DeviceEvent.item?) s
      rw [hxs]
      exact hs
  | cons slot slots ih =>
    cases slot with
    | done result =>
      refine (ih xs).bind (withScans_stable xs []) ?_
      intro r O' K' _ hO hK
      exact ⟨hO, hK⟩
    | row event result discovered =>
      have hone := insertEvents_outline owner settings [event] (by simp) xs
      refine hone.bind (withScans_stable xs []) ?_
      intro fresh O' K' hstable hO hK
      have hrest := (ih (xs ++ insertedScans [event] fresh)).mono hO hK
      refine hrest.bind hstable ?_
      intro r O'' K'' _ hO'' hK''
      cases fresh with
      | false =>
        simp only [insertedScans, Bool.false_eq_true, if_false, List.append_nil] at hO'' hK''
        exact ⟨hO'', hK''⟩
      | true =>
        have hscans : xs ++ insertedScans [event] true ++ r.1.filterMap DeviceEvent.item? =
            xs ++ (event :: r.1).filterMap DeviceEvent.item? := by
          simp only [insertedScans, if_true, List.append_assoc, ← List.filterMap_append,
            List.singleton_append]
        rw [hscans] at hO'' hK''
        exact ⟨hO'', hK''⟩

theorem storeEvents_outline (slots : List Slot)
    (hnodup : ((slots.filterMap Slot.row?).map DeviceEvent.key).Nodup) :
    (storeEvents slots).Outline (arrivalRules owner)
      (fun r => scansOwed (r.1.filterMap DeviceEvent.item?))
      (fun r => WithScans settings (r.1.filterMap DeviceEvent.item?)) (fun _ => False)
      (WithScans settings []) := by
  unfold storeEvents
  by_cases hnil : slots.filterMap Slot.row? = []
  · simp only [if_pos hnil]
    exact ⟨fun t ht => ht.elim, fun s hs => hs⟩
  · simp only [if_neg hnil]
    have hall := insertEvents_outline owner settings
      (slots.filterMap Slot.row?) hnodup []
    refine (hall.mono (fun t ht => ht.elim) fun s hs => hs).bind (withScans_stable [] []) ?_
    intro fresh O' K' _ hO hK
    cases fresh with
    | true => exact ⟨hO, hK⟩
    | false => exact (insertOneByOne_outline slots []).mono hO hK

variable (owner settings) in
theorem discoverIdentities_outline (users : List (ℤ × Text)) :
    (discoverIdentities users).Outline (arrivalRules owner) (fun _ _ => False)
      (fun _ => WithScans settings []) (fun _ => False) (WithScans settings []) := by
  unfold discoverIdentities
  by_cases hnil : users = []
  · rw [if_pos hnil]
    exact ⟨fun t ht => ht, fun s hs => hs⟩
  · rw [if_neg hnil]
    refine ⟨fun _ _ => False, fun _ => WithScans settings [], ?_, fun _ => withScans_stable [] [],
      fun _ => ⟨fun t ht => ht, fun s hs => hs⟩⟩
    have hat : (Tx.forEach (fun u : ℤ × Text => (do
        Tx.lockRows .update [.identityKey u.1 u.2]
        Tx.update fun s => s.addIdentity { device := u.1, externalUserId := u.2 } :
          DeviceTransaction Unit)) users).AtCommit (arrivalRules owner) (fun _ => False)
        (fun _ _ => False) (fun _ => WithScans settings []) (WithScans settings []) [] := by
      refine ⟨(Tx.Quiet.forEach (fun _ => by trivial) users).steady _ _ _ _, ?_⟩
      intro s a s' hs heval _
      refine commits_of_same ?_ (fun t ht => ht) fun h => withScans_kept h hs
      apply Tx.Keeps.eval (Tx.Keeps.forEach _ users) heval
      intro u
      exact ⟨fun s => s.withoutIdentities_addIdentity _, trivial⟩
    cases users with
    | nil => exact hat
    | cons u users => exact .inl hat

theorem existingKeys_outline (groups : List (ℤ × List (ℤ × DedupeKey))) :
    (existingKeys groups).Outline (arrivalRules owner) (fun _ _ => False)
      (fun _ => WithScans settings []) (fun _ => False) (WithScans settings []) := by
  induction groups with
  | nil => exact ⟨fun t ht => ht, fun s hs => hs⟩
  | cons g groups ih =>
    refine ⟨fun _ => WithScans settings [], fun s hs => hs, fun _ => withScans_stable [] [],
      fun known => ?_⟩
    refine ih.bind (withScans_stable [] []) ?_
    intro others O' K' _ hO hK
    exact ⟨hO, hK⟩

theorem processSlots_outline (slots : List Slot)
    (hnodup : ((slots.filterMap Slot.row?).map DeviceEvent.key).Nodup) :
    (processSlots slots).Outline (arrivalRules owner) (fun _ _ => False)
      (fun _ => WithScans settings []) (fun _ => False) (WithScans settings []) := by
  refine (storeEvents_outline slots hnodup).bind (withScans_stable [] []) ?_
  intro r O₁ K₁ hK₁ hO₁ hpost₁
  refine ((bulk_outline _).mono hO₁ hpost₁).bind hK₁ ?_
  intro _ O₂ K₂ hK₂ hO₂ hpost₂
  have hdiscover := (discoverIdentities_outline owner settings
    (slots.filterMap Slot.discovered?).dedup).mono hO₂ fun s hs => ⟨(hpost₂ s hs).1, by simp⟩
  refine hdiscover.bind hK₂ ?_
  intro _ O₃ K₃ _ hO₃ hpost₃
  exact ⟨hO₃, hpost₃⟩

theorem ingestBatch_outline (clock : DateTimeStr) (now : Instant) (events : List EventData) :
    (ingestBatch clock now events).Outline (arrivalRules owner) (fun _ _ => False)
      (fun _ => WithScans settings []) (fun _ => False) (WithScans settings []) := by
  refine ⟨fun _ => WithScans settings [], fun s hs => hs, fun _ => withScans_stable [] [],
    fun devices => ?_⟩
  refine (existingKeys_outline _).bind (withScans_stable [] []) ?_
  intro existing O₁ K₁ hK₁ hO₁ hpost₁
  refine ⟨fun _ => WithScans settings [], hpost₁, fun _ => withScans_stable [] [],
    fun identities => ?_⟩
  cases hslots : classify existing identities []
      ((events.take maxBatchSize).map (prepare clock devices now)) with
  | none =>
    simp only [Program.bind, hslots]
    trivial
  | some slots =>
    simp only [Program.bind, hslots]
    exact (processSlots_outline slots (classify_rows hslots).nodup).mono hO₁ fun s hs => hs

def WithReady (owner : ℤ → Text → Student) (settings : MorningSettings) (es : List DeviceEvent)
    (s : DeviceStore) : Prop := WithScans settings [] s ∧ ∀ e ∈ es, Ready owner e s

theorem withReady_kept {L : DeviceLocks} {s s' : DeviceStore} {es : List DeviceEvent}
    (h : Allowed owner L s s') (hs : WithReady owner settings es s) :
    WithReady owner settings es s' :=
  ⟨withScans_kept h hs.1, fun e he => h.ready (hs.2 e he)⟩

variable (settings) in
theorem reprocess_outline {student : Student} (es : List DeviceEvent)
    (hes : ∀ e ∈ es, owner e.device e.externalUserId = student) :
    (Program.forEach (reprocessEvent student) es).Outline (arrivalRules owner) (fun _ _ => False)
      (fun _ => WithScans settings []) (fun _ => False) (WithReady owner settings es) := by
  induction es with
  | nil => exact ⟨fun t ht => ht, fun s hs => hs.1⟩
  | cons e es ih =>
    have hrest := ih fun w hw => hes w (List.mem_cons_of_mem _ hw)
    have howner := hes e List.mem_cons_self
    obtain ⟨k, heq, hk⟩ := reprocessEvent_steps student e
    show ((reprocessEvent student e).bind fun _ =>
      Program.forEach (reprocessEvent student) es).Outline _ _ _ _ _
    rw [heq]
    refine ⟨fun _ => scansOwed (student.scan? e).toList,
      fun _ s => WithScans settings (student.scan? e).toList s ∧ WithReady owner settings es s,
      .inl ⟨trivial, fun s a s' hs heval _ => ?_⟩,
      fun _ => stable_of_allowed (fun _ _ _ h hs => ⟨withScans_kept h hs.1,
        withReady_kept h hs.2⟩) [], fun _ => ?_⟩
    · have hready := hs.2 e List.mem_cons_self
      have hs' : s' = s.setEvent e.device e.dedupeKey student.eventStatus student.id := by
        have heval' : (saveTransaction e student.eventStatus student.id).eval s = .ok (a, s') :=
          heval
        rw [saveTransaction_eval, Except.ok.injEq, Prod.mk.injEq] at heval'
        exact heval'.2.symm
      rw [← howner] at hs'
      have hcommits : ∀ locks, (arrivalRules owner).Commits locks (scansOwed [])
          (scansOwed ([] ++ ((owner e.device e.externalUserId).scan? e).toList))
          (fun t => WithScans settings (student.scan? e).toList t ∧
            WithReady owner settings es t) s s' := by
        intro locks
        refine settle_commits hs.1.1 hready (fun h hmem => ⟨⟨h.base hs.1.1, fun x hx => ?_⟩,
          withScans_kept h hs.1, fun w hw => h.ready (hs.2 w (List.mem_cons_of_mem _ hw))⟩) hs'
        rw [Option.mem_toList] at hx
        refine ⟨_, hmem, ?_⟩
        rw [← hx, ← howner, ← item?_saved]
        rfl
      rw [howner, List.nil_append] at hcommits
      have hthis := hcommits []
      exact ⟨(hcommits _).may, ⟨hthis.pays.incurs, fun t _ ht => ht.elim⟩, hthis.post⟩
    · show ((k ()).bind fun _ => Program.forEach (reprocessEvent student) es).Outline _ _ _ _ _
      rw [hk]
      cases hscan : student.scan? e with
      | none =>
        refine hrest.mono (fun t ht => ?_) fun s hs => hs.2
        obtain ⟨x, hx, _⟩ := ht
        cases hx
      | some y =>
        have hitem := item_outline owner settings y
          (R := WithReady owner settings es) fun L s s' h hs => withReady_kept h hs
        refine hitem.bind (stable_of_allowed (fun _ _ _ h hs => ⟨withScans_kept h hs.1,
          withReady_kept h hs.2⟩) []) ?_
        intro _ O' K' _ hO hK
        exact hrest.mono hO hK

theorem reprocessUnmatched_outline (identity : StudentDeviceIdentity) (student : Student)
    (howner : owner identity.device identity.externalUserId = student) :
    (reprocessUnmatched identity student).Outline (arrivalRules owner) (fun _ _ => False)
      (fun _ => WithScans settings []) (fun _ => False) (WithScans settings []) := by
  unfold reprocessUnmatched
  split
  · exact ⟨fun t ht => ht, fun s hs => hs⟩
  · have hfound : ∀ (s : DeviceStore), ∀ e ∈ s.waitingEvents identity.device identity.externalUserId,
        e ∈ s.events ∧ e.device = identity.device ∧
          e.externalUserId = identity.externalUserId ∧ e.processingStatus = .unmatched :=
      fun s e he => (mem_waitingEvents_iff s _ _ e).mp he
    refine ⟨fun events s => (∀ e ∈ events, owner e.device e.externalUserId = student) ∧
        WithReady owner settings events s, fun s hs => ⟨fun e he => ?_, hs, fun e he => ?_⟩,
      fun events => stable_of_allowed (fun _ _ _ h hs => ⟨hs.1, withReady_kept h hs.2⟩) [],
      fun events => ?_⟩
    · obtain ⟨_, hdevice, huser, _⟩ := hfound s e he
      rw [hdevice, huser, howner]
    · obtain ⟨hmem, _, _, hwaits⟩ := hfound s e he
      exact ⟨hwaits, .inl hmem⟩
    · by_cases hes : ∀ e ∈ events, owner e.device e.externalUserId = student
      · have hloop := (reprocess_outline settings events hes).mono (fun t ht => ht)
          fun s (hs : (∀ e ∈ events, owner e.device e.externalUserId = student) ∧
            WithReady owner settings events s) => hs.2
        refine hloop.bind (stable_of_allowed (fun _ _ _ h hs => ⟨hs.1, withReady_kept h hs.2⟩) []) ?_
        intro _ O' K' _ hO hK
        exact ⟨hO, hK⟩
      · -- No query has found such events.
        refine (Program.Outline.of_false _).mono (fun t ht => ht) fun s hs => hes hs.1

end Outlines

/-- A late mapping gives the user of the device to the student that owns it. -/
def ArrivalCall.OwnedBy (owner : ℤ → Text → Student) : ArrivalCall → Prop
  | .ingest _ => True
  | .reprocess identity student => owner identity.device identity.externalUserId = student

def DeviceStore.acceptedTimes (s : DeviceStore) (student : ℕ) (date : Date) : Set Instant :=
  {time | ∃ x ∈ s.items, x.key s.settings = (student, date) ∧ x.occurredAt = time}

/-- The first arrival of a student on a day is the earliest of the accepted scans. -/
def DeviceStore.EarliestShown (s : DeviceStore) (student : ℕ) (date : Date) : Prop :=
  match s.arrival? student date with
  | none => s.acceptedTimes student date = ∅
  | some a => IsLeast (s.acceptedTimes student date) a.firstArrivalAt

theorem EarliestWins.shown {s : DeviceStore} (h : EarliestWins s) (student : ℕ) (date : Date) :
    s.EarliestShown student date := by
  obtain ⟨hsome, hfirst⟩ := h.isLeast (student, date)
  unfold DeviceStore.EarliestShown
  cases ha : s.arrival? student date with
  | none =>
    apply Set.eq_empty_of_forall_notMem
    intro time ⟨x, hx, hkey, _⟩
    have hyes := hsome.mpr ⟨x, hx, hkey⟩
    rw [ha] at hyes
    cases hyes
  | some a =>
    obtain ⟨⟨x, hx, hkey, hshown, _⟩, hle⟩ := hfirst a ha
    refine ⟨⟨x, hx, hkey, hshown.symm⟩, ?_⟩
    intro time ⟨y, hy, hykey, hytime⟩
    rw [← hytime]
    exact hle y hy hykey

theorem ArrivalCall.outline (owner : ℤ → Text → Student) (settings : MorningSettings)
    (clock : DateTimeStr) (now : Instant) {call : ArrivalCall} (hcall : call.OwnedBy owner) :
    (call.program clock now).Outline (arrivalRules owner) (fun _ _ => False)
      (fun _ => WithScans settings []) (fun _ => False) (WithScans settings []) := by
  cases call with
  | ingest events =>
    refine (ingestBatch_outline clock now events).bind (withScans_stable [] []) ?_
    intro results O' K' _ hO hK
    exact ⟨hO, hK⟩
  | reprocess identity student =>
    refine (reprocessUnmatched_outline identity student hcall).bind (withScans_stable [] []) ?_
    intro count O' K' _ hO hK
    exact ⟨hO, hK⟩

/-- **The earliest scan wins.** From a store whose arrivals are the earliest scans, calls run
statement by statement beside each other end with such a store, when they all return and no
commit that inserts an arrival finds one in its place. -/
theorem playedBeside_earliest (clock : DateTimeStr) (owner : ℤ → Text → Student)
    (calls : List (ArrivalCall × Instant)) (hcalls : ∀ call ∈ calls, call.1.OwnedBy owner)
    (s : DeviceStore) (hkeys : (s.events.map DeviceEvent.key).Nodup) (hs : EarliestWins s)
    (sched : List ℕ) (c : Config DeviceStore DeviceRow Failure Unit)
    (hexec : (Config.start s (calls.map fun call => call.1.program clock call.2)).exec sched =
      some c)
    (hasked : (Config.start s (calls.map fun call => call.1.program clock call.2)).CommitsAsked
      (arrivalRules owner) sched)
    (hret : c.returned = true) (student : ℕ) (date : Date) : c.store.EarliestShown student date := by
  have hbase : Base s.settings s := ⟨rfl, hkeys, hs.grounded⟩
  have hnone : ∀ t : ℤ × DedupeKey, ¬ OwedArrival t s := by
    intro t ⟨e, he, _, x, hx, hnot⟩
    exact hnot (hs.covered x ((mem_items_iff s x).mpr ⟨e, he, hx⟩))
  have hstart : (Config.start s (calls.map fun call => call.1.program clock call.2)).Outlined
      (arrivalRules owner) (fun _ _ => WithScans s.settings []) fun _ _ => False := by
    refine Config.outlined_start hnone fun i p hp => ?_
    obtain ⟨call, hcall, heq⟩ := List.mem_map.mp (List.mem_of_getElem? hp)
    rw [← heq]
    exact ⟨WithScans s.settings [], ⟨hbase, by simp⟩, withScans_stable [] [],
      ArrivalCall.outline owner s.settings clock call.2 (hcalls call hcall)⟩
  have hkept : ∀ (L : DeviceLocks) (t t' : DeviceStore), (arrivalRules owner).may L t t' →
      Base s.settings t → Base s.settings t' :=
    fun _ _ _ hmay ht => Allowed.base hmay ht
  obtain ⟨⟨debts, houtlined⟩, hbase'⟩ :=
    Config.rely_guarantee hkept sched hexec hasked hstart hbase
  have hcovered : c.store.AllCovered := by
    intro x hx
    obtain ⟨e, he, hitem⟩ := (mem_items_iff c.store x).mp hx
    by_contra hnot
    exact houtlined.not_owed (Config.returned_eq hret) e.key ⟨e, he, rfl, x, hitem, hnot⟩
  exact EarliestWins.shown ⟨hbase'.grounded, hcovered⟩ student date

/-! ## Two batches of one pupil -/

def gateLateScan : EventData :=
  { gateScan with externalEventId := "2".toList, occurredAt := 25900000000 }

def earlyAndLate : List (ArrivalCall × Instant) :=
  [(.ingest [gateScan], 26000000000), (.ingest [gateLateScan], 26000000000)]

def earlyAndLateStart : Config DeviceStore DeviceRow Failure Unit :=
  Config.start gateStore (earlyAndLate.map fun call => call.1.program oneInstantClock call.2)

theorem gateStore_earliest : EarliestWins gateStore where
  grounded := by
    intro k a ha
    cases ha
  covered := by decide

/-- One batch after the other. -/
theorem playedBeside_earliest_serial : ∃ c,
    earlyAndLateStart.exec (List.replicate 16 0 ++ List.replicate 14 1) = some c ∧
      c.store.EarliestShown 1 0 := by
  have hlast : (earlyAndLateStart.exec (List.replicate 16 0 ++ List.replicate 14 1)).map
      (fun c => c.returned) = some true := by decide +kernel
  obtain ⟨c, hc, hret⟩ := Option.map_eq_some_iff.mp hlast
  have hcheck : earlyAndLateStart.checkAsked (arrivalRules fun _ _ => gatePupil)
      (List.replicate 16 0 ++ List.replicate 14 1) = true := by decide +kernel
  have hcalls : ∀ call ∈ earlyAndLate, call.1.OwnedBy fun _ _ => gatePupil := by
    intro call hcall
    simp only [earlyAndLate, List.mem_cons, List.not_mem_nil, or_false] at hcall
    rcases hcall with h | h
    · rw [h]
      trivial
    · rw [h]
      trivial
  exact ⟨c, hc, playedBeside_earliest oneInstantClock (fun _ _ => gatePupil) earlyAndLate hcalls
    gateStore (by decide) gateStore_earliest _ c hc (Config.commitsAsked_of_check _ hcheck) hret 1 0⟩

/-- The batch with the early scan has found no arrival, and is about to insert its own one, when
the other batch is made from its first statement to its last. -/
def earlyBesideLate : List ℕ :=
  List.replicate 13 0 ++ List.replicate 16 1 ++ List.replicate 3 0

/-- The late scan is shown. -/
theorem earlyBesideLate_not_earliest : EarliestWins gateStore ∧ ∃ c,
    earlyAndLateStart.exec earlyBesideLate = some c ∧ c.returned = true ∧
      ¬ c.store.EarliestShown 1 0 := by
  have hfacts : (earlyAndLateStart.exec earlyBesideLate).map (fun c => (c.returned,
      (c.store.arrival? 1 0).map fun a => a.firstArrivalAt,
      c.store.items.map fun x => (x.key c.store.settings, x.occurredAt))) =
      some (true, some 25900000000, [((1, 0), 25000000000), ((1, 0), 25900000000)]) := by
    decide +kernel
  obtain ⟨c, hc, hfacts⟩ := Option.map_eq_some_iff.mp hfacts
  simp only [Prod.mk.injEq] at hfacts
  obtain ⟨hret, harrival, hitems⟩ := hfacts
  refine ⟨gateStore_earliest, c, hc, hret, fun hshown => ?_⟩
  obtain ⟨a, ha, hfirst⟩ := Option.map_eq_some_iff.mp harrival
  unfold DeviceStore.EarliestShown at hshown
  rw [ha] at hshown
  have hearly : (25000000000 : Instant) ∈ c.store.acceptedTimes 1 0 := by
    have hmem : ((1, 0), (25000000000 : Instant)) ∈
        c.store.items.map fun x => (x.key c.store.settings, x.occurredAt) := by
      rw [hitems]
      exact List.mem_cons_self
    obtain ⟨x, hx, heq⟩ := List.mem_map.mp hmem
    exact ⟨x, hx, congrArg Prod.fst heq, congrArg Prod.snd heq⟩
  have hle := hshown.2 hearly
  rw [hfirst] at hle
  revert hle
  decide

end SchoolPlatform
