import SchoolPlatform.Model.Ingest

/-!
# Arrivals and the scans behind them

What applying scans does to the arrivals: a scan on a day without an arrival makes one, an earlier
scan replaces the one that is there, a later one changes nothing (`improve`). A transaction that
looked for the existing arrivals before it locked them treats as new whatever it did not find
(`applyEarliest_eval`); with nobody else at work it finds everything (`Applied`).
-/

namespace SchoolPlatform

open ReadCommitted

namespace DeviceStore

variable (s : DeviceStore)

theorem key_of_arrival? {s : DeviceStore} {student : ℕ} {date : Date} {a : SchoolArrival}
    (h : s.arrival? student date = some a) : a.student = student ∧ a.attendanceDate = date := by
  have hkey := List.find?_some h
  simpa using hkey

theorem arrival?_setArrival (a : SchoolArrival) (student : ℕ) (date : Date) :
    (s.setArrival a).arrival? student date =
      if student = a.student ∧ date = a.attendanceDate then (s.arrival? student date).map fun _ => a
      else s.arrival? student date := by
  unfold setArrival arrival?
  induction s.arrivals with
  | nil => simp
  | cons b rows ih =>
    by_cases hb : b.student = a.student ∧ b.attendanceDate = a.attendanceDate
    · by_cases hk : student = a.student ∧ date = a.attendanceDate
      · simp [hb, hk]
      · have hne : ¬(a.student = student ∧ a.attendanceDate = date) := by
          intro h
          exact hk ⟨h.1.symm, h.2.symm⟩
        have hne' : ¬(b.student = student ∧ b.attendanceDate = date) := by
          rw [hb.1, hb.2]
          exact hne
        simp only [List.map_cons, if_pos hb, List.find?_cons, hne, hne', decide_false]
        exact ih
    · by_cases hk : b.student = student ∧ b.attendanceDate = date
      · have hne : ¬(student = a.student ∧ date = a.attendanceDate) := by
          rw [← hk.1, ← hk.2]
          exact hb
        simp [hk, hne]
      · simp only [List.map_cons, if_neg hb, List.find?_cons, hk, decide_false]
        exact ih

theorem arrival?_addArrival (a : SchoolArrival) (student : ℕ) (date : Date) :
    (s.addArrival a).arrival? student date =
      if student = a.student ∧ date = a.attendanceDate then some ((s.arrival? student date).getD a)
      else s.arrival? student date := by
  unfold addArrival
  by_cases hk : student = a.student ∧ date = a.attendanceDate
  · rw [hk.1, hk.2]
    cases h : s.arrival? a.student a.attendanceDate with
    | some b => simp [h]
    | none =>
      have hnew : (s.arrivals ++ [a]).find?
          (fun b => b.student = a.student ∧ b.attendanceDate = a.attendanceDate) = some a := by
        unfold arrival? at h
        rw [List.find?_append, h]
        simp
      simpa [arrival?] using hnew
  · rw [if_neg hk]
    split
    · rfl
    · have hne : ¬(a.student = student ∧ a.attendanceDate = date) := by
        intro h
        exact hk ⟨h.1.symm, h.2.symm⟩
      unfold arrival?
      simp [List.find?_append, hne]

theorem mem_arrivalKeys_iff (students : List ℕ) (dates : List Date) (student : ℕ) (date : Date) :
    (student, date) ∈ s.arrivalKeys students dates ↔
      (s.arrival? student date).isSome ∧ student ∈ students ∧ date ∈ dates := by
  unfold arrivalKeys arrival?
  simp only [List.mem_map, List.mem_filter, decide_eq_true_eq, Prod.mk.injEq, List.find?_isSome]
  constructor
  · intro ⟨a, ⟨ha, hdate, hstudent⟩, hs, hd⟩
    rw [hs] at hstudent
    rw [hd] at hdate
    exact ⟨⟨a, ha, hs, hd⟩, hstudent, hdate⟩
  · intro ⟨⟨a, ha, hs, hd⟩, hstudent, hdate⟩
    rw [← hs] at hstudent
    rw [← hd] at hdate
    exact ⟨a, ⟨ha, hdate, hstudent⟩, hs, hd⟩

theorem find?_lockedArrivals (keys : List (ℕ × Date)) (k : ℕ × Date) :
    (lockedArrivals keys s).find? (fun a => (a.student, a.attendanceDate) = k) =
      if k ∈ keys then s.arrival? k.1 k.2 else none := by
  unfold lockedArrivals
  induction keys with
  | nil => rfl
  | cons j keys ih =>
    cases h : s.arrival? j.1 j.2 with
    | none =>
      simp only [List.filterMap_cons, h, ih]
      by_cases hjk : k = j
      · subst hjk
        simp [h]
      · simp [hjk]
    | some a =>
      have hkey := key_of_arrival? h
      simp only [List.filterMap_cons, h, List.find?_cons, hkey.1, hkey.2]
      by_cases hjk : k = j
      · subst hjk
        simp [h]
      · have hjk' : ¬(j.1, j.2) = k := fun heq => hjk heq.symm
        simp only [hjk', decide_false, ih, List.mem_cons, hjk, false_or]

theorem mem_keys_lockedArrivals (keys : List (ℕ × Date)) (k : ℕ × Date) :
    k ∈ (lockedArrivals keys s).map (fun a => (a.student, a.attendanceDate)) ↔
      k ∈ keys ∧ (s.arrival? k.1 k.2).isSome := by
  unfold lockedArrivals
  simp only [List.mem_map, List.mem_filterMap]
  constructor
  · intro ⟨a, ⟨j, hj, ha⟩, hk⟩
    have hkey := key_of_arrival? ha
    have hjk : j = k := by rw [← hk, hkey.1, hkey.2]
    rw [← hjk, ha]
    exact ⟨hj, rfl⟩
  · intro ⟨hk, hsome⟩
    obtain ⟨a, ha⟩ := Option.isSome_iff_exists.mp hsome
    have hkey := key_of_arrival? ha
    exact ⟨a, ⟨k, hk, ha⟩, by rw [hkey.1, hkey.2]⟩

end DeviceStore

/-! ## The earliest scans -/

def ArrivalItem.key (settings : MorningSettings) (item : ArrivalItem) : ℕ × Date :=
  (item.student, item.date settings)

def keepEarlier (settings : MorningSettings) (earliest : Dict (ℕ × Date) ArrivalItem)
    (item : ArrivalItem) : Dict (ℕ × Date) ArrivalItem :=
  match Dict.get? earliest (item.key settings) with
  | none => Dict.insert earliest (item.key settings) item
  | some current =>
    if item.occurredAt < current.occurredAt then Dict.insert earliest (item.key settings) item
    else earliest

theorem earliestItems_eq (settings : MorningSettings) (items : List ArrivalItem) :
    earliestItems settings items = items.foldl (keepEarlier settings) [] := rfl

section Earliest

variable {settings : MorningSettings}

theorem nodup_keys_keepEarlier {earliest : Dict (ℕ × Date) ArrivalItem}
    (h : (Dict.keys earliest).Nodup) (item : ArrivalItem) :
    (Dict.keys (keepEarlier settings earliest item)).Nodup := by
  unfold keepEarlier
  split
  · exact Dict.nodup_keys_insert h _ _
  · split
    · exact Dict.nodup_keys_insert h _ _
    · exact h

theorem nodup_keys_earliestItems (settings : MorningSettings) (items : List ArrivalItem) :
    (Dict.keys (earliestItems settings items)).Nodup := by
  rw [earliestItems_eq]
  suffices hgen : ∀ d : Dict (ℕ × Date) ArrivalItem, (Dict.keys d).Nodup →
      (Dict.keys (items.foldl (keepEarlier settings) d)).Nodup from hgen [] List.nodup_nil
  induction items with
  | nil => exact fun d h => h
  | cons item items ih => exact fun d h => ih _ (nodup_keys_keepEarlier h item)

/-- A dictionary holds, for each student and day, one of the scans of that day, and none of them is
earlier. -/
structure IsEarliest (settings : MorningSettings) (items : List ArrivalItem)
    (earliest : Dict (ℕ × Date) ArrivalItem) : Prop where
  mem : ∀ k item, Dict.get? earliest k = some item → item ∈ items ∧ item.key settings = k
  le : ∀ item ∈ items, ∃ first, Dict.get? earliest (item.key settings) = some first ∧
    first.occurredAt ≤ item.occurredAt

theorem IsEarliest.keepEarlier {items : List ArrivalItem} {earliest : Dict (ℕ × Date) ArrivalItem}
    (h : IsEarliest settings items earliest) (item : ArrivalItem) :
    IsEarliest settings (items ++ [item]) (keepEarlier settings earliest item) := by
  -- The entry of the scan's own key becomes the earlier one, the others stay.
  have hput : ∀ k found, Dict.get? (Dict.insert earliest (item.key settings) item) k = some found →
      found ∈ items ++ [item] ∧ found.key settings = k := by
    intro k found hfound
    rw [Dict.get?_insert] at hfound
    split at hfound
    · rename_i hk
      have heq := Option.some.inj hfound
      rw [← heq]
      exact ⟨by simp, hk⟩
    · have hold := h.mem k found hfound
      exact ⟨List.mem_append_left _ hold.1, hold.2⟩
  have hle : (∀ current, Dict.get? earliest (item.key settings) = some current →
        item.occurredAt < current.occurredAt) →
      ∀ x ∈ items ++ [item], ∃ first,
        Dict.get? (Dict.insert earliest (item.key settings) item) (x.key settings) = some first ∧
          first.occurredAt ≤ x.occurredAt := by
    intro hearlier x hx
    rw [Dict.get?_insert]
    by_cases hk : item.key settings = x.key settings
    · rw [if_pos hk]
      refine ⟨item, rfl, ?_⟩
      rcases List.mem_append.mp hx with hold | hnew
      · obtain ⟨first, hfirst, hfle⟩ := h.le x hold
        rw [← hk] at hfirst
        exact (hearlier first hfirst).le.trans hfle
      · rw [List.mem_singleton.mp hnew]
    · rw [if_neg hk]
      rcases List.mem_append.mp hx with hold | hnew
      · exact h.le x hold
      · exact absurd (by rw [List.mem_singleton.mp hnew]) hk
  unfold SchoolPlatform.keepEarlier
  cases hget : Dict.get? earliest (item.key settings) with
  | none => exact ⟨hput, hle (by simp [hget])⟩
  | some current =>
    by_cases hlt : item.occurredAt < current.occurredAt
    · simp only [if_pos hlt]
      refine ⟨hput, hle ?_⟩
      intro c hc
      rw [hget] at hc
      rw [← Option.some.inj hc]
      exact hlt
    · simp only [if_neg hlt]
      refine ⟨fun k found hf => ?_, fun x hx => ?_⟩
      · have hold := h.mem k found hf
        exact ⟨List.mem_append_left _ hold.1, hold.2⟩
      · rcases List.mem_append.mp hx with hold | hnew
        · exact h.le x hold
        · rw [List.mem_singleton.mp hnew]
          exact ⟨current, hget, not_lt.mp hlt⟩

theorem isEarliest_earliestItems (settings : MorningSettings) (items : List ArrivalItem) :
    IsEarliest settings items (earliestItems settings items) := by
  rw [earliestItems_eq]
  suffices hgen : ∀ (seen : List ArrivalItem) (d : Dict (ℕ × Date) ArrivalItem),
      IsEarliest settings seen d →
      IsEarliest settings (seen ++ items) (items.foldl (keepEarlier settings) d) from
    hgen [] [] ⟨fun _ _ h => (nomatch h), fun _ h => (nomatch h)⟩
  induction items with
  | nil =>
    intro seen d h
    rw [List.append_nil]
    exact h
  | cons item items ih =>
    intro seen d h
    have hnext := ih (seen ++ [item]) _ (h.keepEarlier item)
    rw [List.append_assoc] at hnext
    exact hnext

end Earliest

/-! ## Applying scans -/

def improve (settings : MorningSettings) (item : ArrivalItem) :
    Option SchoolArrival → SchoolArrival
  | none => item.arrival settings
  | some a => if item.occurredAt < a.firstArrivalAt then item.arrival settings else a

def DeviceStore.beside (s : DeviceStore) : DeviceStore := { s with arrivals := [] }

theorem DeviceStore.beside_addArrival (s : DeviceStore) (a : SchoolArrival) :
    (s.addArrival a).beside = s.beside := by
  unfold addArrival
  split <;> rfl

section Loops

variable (settings : MorningSettings)

def correction (existing : List SchoolArrival) (s : DeviceStore)
    (entry : (ℕ × Date) × ArrivalItem) : DeviceStore :=
  match existing.find? fun a => (a.student, a.attendanceDate) = entry.1 with
  | none => s
  | some arrival =>
    if entry.2.occurredAt < arrival.firstArrivalAt then s.setArrival (entry.2.arrival settings)
    else s

theorem correctArrival_eval (existing : List SchoolArrival) (entry : (ℕ × Date) × ArrivalItem)
    (s : DeviceStore) : (correctArrival settings existing entry).eval s =
      .ok ((), correction settings existing s entry) := by
  unfold correctArrival correction
  cases existing.find? fun a => (a.student, a.attendanceDate) = entry.1 with
  | none => rfl
  | some arrival =>
    simp only [Tx.eval_ite, Tx.eval_update, Tx.eval_ret]
    split <;> rfl

theorem insertArrivalIgnoring_eval (a : SchoolArrival) (s : DeviceStore) :
    (insertArrivalIgnoring a).eval s = .ok ((), s.addArrival a) := rfl

theorem eval_forEach {β : Type} {body : β → DeviceTransaction Unit}
    {effect : DeviceStore → β → DeviceStore}
    (h : ∀ b s, (body b).eval s = .ok ((), effect s b)) (bs : List β) (s : DeviceStore) :
    (Tx.forEach body bs).eval s = .ok ((), bs.foldl effect s) := by
  induction bs generalizing s with
  | nil => rfl
  | cons b bs ih =>
    unfold Tx.forEach
    rw [Tx.eval_bind, h]
    exact ih _

variable {settings}

theorem arrival?_corrections (existing : List SchoolArrival)
    {entries : Dict (ℕ × Date) ArrivalItem} (hnodup : (Dict.keys entries).Nodup)
    (hkey : ∀ e ∈ entries, e.2.key settings = e.1) (s : DeviceStore) (k : ℕ × Date) :
    (entries.foldl (correction settings existing) s).arrival? k.1 k.2 =
      match Dict.get? entries k, existing.find? fun a => (a.student, a.attendanceDate) = k with
      | some item, some a =>
        if item.occurredAt < a.firstArrivalAt then
          (s.arrival? k.1 k.2).map fun _ => item.arrival settings
        else s.arrival? k.1 k.2
      | _, _ => s.arrival? k.1 k.2 := by
  induction entries generalizing s with
  | nil => rfl
  | cons entry entries ih =>
    obtain ⟨j, item⟩ := entry
    have hj : item.key settings = j := hkey (j, item) List.mem_cons_self
    simp only [Dict.keys, List.map_cons, List.nodup_cons] at hnodup
    rw [List.foldl_cons, ih hnodup.2 (fun e he => hkey e (List.mem_cons_of_mem _ he))]
    by_cases hk : j = k
    · subst hk
      have hrest : Dict.get? entries j = none := by
        cases hget : Dict.get? entries j with
        | none => rfl
        | some v =>
          exact absurd ((Dict.mem_keys_iff j).mpr ⟨v, hget⟩) hnodup.1
      have hset : ∀ t : DeviceStore, (t.setArrival (item.arrival settings)).arrival? j.1 j.2 =
          (t.arrival? j.1 j.2).map fun _ => item.arrival settings := by
        intro t
        rw [DeviceStore.arrival?_setArrival, ← hj, if_pos ⟨rfl, rfl⟩]
      rw [hrest]
      simp only [Dict.get?, if_true]
      unfold correction
      cases existing.find? fun a => (a.student, a.attendanceDate) = j with
      | none => rfl
      | some arrival =>
        simp only
        split
        · exact hset s
        · rfl
    · -- The entry of another key leaves the arrival alone.
      have hother : (correction settings existing s (j, item)).arrival? k.1 k.2 =
          s.arrival? k.1 k.2 := by
        unfold correction
        split
        · rfl
        · split
          · rw [DeviceStore.arrival?_setArrival, if_neg]
            intro h
            apply hk
            rw [← hj]
            exact Prod.ext h.1.symm h.2.symm
          · rfl
      rw [hother]
      simp only [Dict.get?, if_neg hk]

variable (settings) in
theorem arrival?_insertions {entries : Dict (ℕ × Date) ArrivalItem}
    (hkey : ∀ e ∈ entries, e.2.key settings = e.1) (s : DeviceStore) (k : ℕ × Date) :
    (entries.foldl (fun s entry => s.addArrival (entry.2.arrival settings)) s).arrival? k.1 k.2 =
      match Dict.get? entries k with
      | some item => some ((s.arrival? k.1 k.2).getD (item.arrival settings))
      | none => s.arrival? k.1 k.2 := by
  induction entries generalizing s with
  | nil => rfl
  | cons entry entries ih =>
    obtain ⟨j, item⟩ := entry
    have hj : item.key settings = j := hkey (j, item) List.mem_cons_self
    rw [List.foldl_cons, ih fun e he => hkey e (List.mem_cons_of_mem _ he)]
    have hadd : (s.addArrival (item.arrival settings)).arrival? k.1 k.2 =
        if j = k then some ((s.arrival? k.1 k.2).getD (item.arrival settings))
        else s.arrival? k.1 k.2 := by
      rw [DeviceStore.arrival?_addArrival]
      by_cases hk : j = k
      · rw [if_pos hk, if_pos]
        rw [← hk, ← hj]
        exact ⟨rfl, rfl⟩
      · rw [if_neg hk, if_neg]
        intro h
        apply hk
        rw [← hj]
        exact Prod.ext h.1.symm h.2.symm
    rw [hadd]
    simp only [Dict.get?]
    by_cases hk : j = k
    · simp only [if_pos hk]
      split <;> simp
    · simp only [if_neg hk]

end Loops

theorem applyEarliest_keeps (settings : MorningSettings) (earliest : Dict (ℕ × Date) ArrivalItem)
    (found : List (ℕ × Date)) : (applyEarliest settings earliest found).Keeps DeviceStore.beside := by
  have hcorrect : ∀ existing,
      (Tx.forEach (correctArrival settings existing) earliest).Keeps DeviceStore.beside := by
    intro existing
    apply Tx.Keeps.forEach
    intro entry
    unfold correctArrival
    split
    · trivial
    · split
      · exact ⟨fun s => rfl, trivial⟩
      · trivial
  have hinsert : ∀ entries : Dict (ℕ × Date) ArrivalItem, (Tx.forEach
      (fun entry => insertArrivalIgnoring (entry.2.arrival settings)) entries).Keeps
        DeviceStore.beside := by
    intro entries
    apply Tx.Keeps.forEach
    intro entry
    exact ⟨fun s => DeviceStore.beside_addArrival s _, trivial⟩
  exact fun existing => (hcorrect existing).bind fun _ => hinsert _

theorem applyEarliest_eval {settings : MorningSettings} {earliest : Dict (ℕ × Date) ArrivalItem}
    (hnodup : (Dict.keys earliest).Nodup) (hkey : ∀ e ∈ earliest, e.2.key settings = e.1)
    (found : List (ℕ × Date)) (s : DeviceStore) :
    ∃ s', (applyEarliest settings earliest found).eval s = .ok ((), s') ∧ s'.beside = s.beside ∧
      ∀ k : ℕ × Date, s'.arrival? k.1 k.2 =
        match Dict.get? earliest k with
        | none => s.arrival? k.1 k.2
        | some item =>
          if k ∈ found then some (improve settings item (s.arrival? k.1 k.2))
          else some ((s.arrival? k.1 k.2).getD (item.arrival settings)) := by
  have heval : (applyEarliest settings earliest found).eval s = .ok ((),
      (earliest.filter fun entry => entry.1 ∉ (DeviceStore.lockedArrivals found s).map
        fun a => (a.student, a.attendanceDate)).foldl
          (fun s entry => s.addArrival (entry.2.arrival settings))
          (earliest.foldl (correction settings (DeviceStore.lockedArrivals found s)) s)) := by
    unfold applyEarliest
    simp only [Tx.bind_eq, Tx.eval_bind, Tx.eval_lockRows, Tx.eval_select]
    rw [eval_forEach (correctArrival_eval settings _)]
    exact eval_forEach (fun entry t => insertArrivalIgnoring_eval (entry.2.arrival settings) t) _ _
  refine ⟨_, heval, (applyEarliest_keeps settings earliest found).eval heval, fun k => ?_⟩
  rw [arrival?_insertions settings (fun e he => hkey e (List.mem_of_mem_filter he)),
    Dict.get?_filter_key (fun j => ¬ j ∈ _), arrival?_corrections _ hnodup hkey,
    DeviceStore.find?_lockedArrivals]
  have hlocked := DeviceStore.mem_keys_lockedArrivals s found k
  cases Dict.get? earliest k with
  | none => simp
  | some item =>
    by_cases hk : k ∈ found
    · simp only [if_pos hk]
      cases ha : s.arrival? k.1 k.2 with
      | none =>
        have hnot : k ∉ (DeviceStore.lockedArrivals found s).map
            fun a => (a.student, a.attendanceDate) := by
          rw [hlocked, ha]
          simp
        simp [hnot, improve]
      | some a =>
        have hmem : k ∈ (DeviceStore.lockedArrivals found s).map
            fun a => (a.student, a.attendanceDate) := by
          rw [hlocked, ha]
          exact ⟨hk, rfl⟩
        simp only [hmem, not_true_eq_false, if_false, improve, Option.map_some]
        split <;> rfl
    · have hnot : k ∉ (DeviceStore.lockedArrivals found s).map
          fun a => (a.student, a.attendanceDate) := by
        rw [hlocked]
        simp [hk]
      simp [hnot, hk]

/-- The transaction of `apply_arrival_events_bulk`. -/
def bulkTransaction (settings : MorningSettings) (items : List ArrivalItem) :
    DeviceTransaction Unit :=
  .query (fun s => s.arrivalKeys ((earliestItems settings items).map fun e => e.1.1)
    ((earliestItems settings items).map fun e => e.1.2))
    (applyEarliest settings (earliestItems settings items))

theorem applyArrivalEventsBulk_eq {items : List ArrivalItem} (h : items ≠ []) :
    applyArrivalEventsBulk items =
      .peek (fun s => s.settings) fun settings => .atomic (bulkTransaction settings items) .ret := by
  unfold applyArrivalEventsBulk
  rw [if_neg h]
  rfl

def itemTransaction (settings : MorningSettings) (item : ArrivalItem) : DeviceTransaction Unit :=
  .query (fun s => s.arrivalKeys [item.student] [item.date settings]) (applyItem settings item)

theorem applyArrivalEvent_eq (item : ArrivalItem) :
    applyArrivalEvent item =
      .peek (fun s => s.settings) fun settings => .atomic (itemTransaction settings item) .ret := rfl

/-- The scans have been applied: nothing but arrivals has changed, and each arrival is improved by
the earliest scan of its student and day. -/
structure Applied (items : List ArrivalItem) (s s' : DeviceStore) : Prop where
  beside : s'.beside = s.beside
  arrival : ∀ k : ℕ × Date, s'.arrival? k.1 k.2 =
    match Dict.get? (earliestItems s.settings items) k with
    | none => s.arrival? k.1 k.2
    | some item => some (improve s.settings item (s.arrival? k.1 k.2))

theorem applied_nil (s : DeviceStore) : Applied [] s s := ⟨rfl, fun _ => rfl⟩

theorem key_of_mem_earliestItems {settings : MorningSettings} {items : List ArrivalItem}
    {e : (ℕ × Date) × ArrivalItem} (he : e ∈ earliestItems settings items) :
    e.2.key settings = e.1 := by
  have hget := (Dict.mem_iff_get? (nodup_keys_earliestItems settings items) e.1 e.2).mp he
  exact ((isEarliest_earliestItems settings items).mem e.1 e.2 hget).2

theorem bulkTransaction_eval (items : List ArrivalItem) (s : DeviceStore) :
    ∃ s', (bulkTransaction s.settings items).eval s = .ok ((), s') ∧ Applied items s s' := by
  obtain ⟨s', heval, hbeside, harrival⟩ := applyEarliest_eval
    (nodup_keys_earliestItems s.settings items) (fun e he => key_of_mem_earliestItems he)
    (s.arrivalKeys ((earliestItems s.settings items).map fun e => e.1.1)
      ((earliestItems s.settings items).map fun e => e.1.2)) s
  refine ⟨s', heval, hbeside, fun k => ?_⟩
  rw [harrival k]
  cases hget : Dict.get? (earliestItems s.settings items) k with
  | none => rfl
  | some item =>
    have hmem := (Dict.mem_iff_get? (nodup_keys_earliestItems s.settings items) k item).mpr hget
    have hstudent : k.1 ∈ (earliestItems s.settings items).map fun e => e.1.1 :=
      List.mem_map_of_mem (f := fun e => e.1.1) hmem
    have hdate : k.2 ∈ (earliestItems s.settings items).map fun e => e.1.2 :=
      List.mem_map_of_mem (f := fun e => e.1.2) hmem
    have hfound := s.mem_arrivalKeys_iff _ _ k.1 k.2 |>.trans
      (and_iff_left (And.intro hstudent hdate))
    cases ha : s.arrival? k.1 k.2 with
    | none =>
      rw [ha] at hfound
      simp [improve]
    | some a =>
      rw [ha] at hfound
      simp only [if_pos (hfound.mpr rfl)]

theorem earliestItems_singleton (settings : MorningSettings) (item : ArrivalItem) :
    earliestItems settings [item] = [(item.key settings, item)] := rfl

theorem get?_earliestItems_singleton (settings : MorningSettings) (item : ArrivalItem)
    (k : ℕ × Date) : Dict.get? (earliestItems settings [item]) k =
      if item.key settings = k then some item else none := by
  rw [earliestItems_singleton]
  rfl

theorem applied_addArrival {item : ArrivalItem} {s : DeviceStore}
    (h : s.arrival? item.student (item.date s.settings) = none) :
    Applied [item] s (s.addArrival (item.arrival s.settings)) := by
  refine ⟨DeviceStore.beside_addArrival _ _, fun k => ?_⟩
  rw [get?_earliestItems_singleton, DeviceStore.arrival?_addArrival]
  by_cases hk : item.key s.settings = k
  · subst hk
    simp only [ArrivalItem.key, if_true, ArrivalItem.arrival, and_self, h, improve,
      Option.getD_none]
  · rw [if_neg hk, if_neg]
    intro heq
    exact hk (Prod.ext heq.1.symm heq.2.symm)

theorem applied_setArrival {item : ArrivalItem} {s : DeviceStore} {a : SchoolArrival}
    (h : s.arrival? item.student (item.date s.settings) = some a) :
    Applied [item] s
      (if item.occurredAt < a.firstArrivalAt then s.setArrival (item.arrival s.settings) else s) := by
  constructor
  · split <;> rfl
  · intro k
    rw [get?_earliestItems_singleton]
    by_cases hk : item.key s.settings = k
    · subst hk
      simp only [ArrivalItem.key, if_true, h, improve]
      split
      · rw [DeviceStore.arrival?_setArrival]
        simp [ArrivalItem.arrival, h]
      · exact h
    · rw [if_neg hk]
      split
      · rw [DeviceStore.arrival?_setArrival, if_neg]
        intro heq
        exact hk (Prod.ext heq.1.symm heq.2.symm)
      · rfl

def FoundOne (item : ArrivalItem) (settings : MorningSettings) (found : List (ℕ × Date))
    (s : DeviceStore) : Prop :=
  ∀ k ∈ found, k = item.key settings ∧ (s.arrival? k.1 k.2).isSome

theorem foundOne_arrivalKeys (item : ArrivalItem) (settings : MorningSettings) (s : DeviceStore) :
    FoundOne item settings (s.arrivalKeys [item.student] [item.date settings]) s := by
  intro k hk
  obtain ⟨hsome, hstudent, hdate⟩ := (s.mem_arrivalKeys_iff _ _ k.1 k.2).mp hk
  exact ⟨Prod.ext (List.mem_singleton.mp hstudent) (List.mem_singleton.mp hdate), hsome⟩

theorem FoundOne.lockedArrivals {item : ArrivalItem} {settings : MorningSettings}
    {found : List (ℕ × Date)} {s : DeviceStore} (h : FoundOne item settings found s)
    (hne : found ≠ []) : ∃ a rest, s.arrival? item.student (item.date settings) = some a ∧
      DeviceStore.lockedArrivals found s = a :: rest := by
  cases found with
  | nil => exact absurd rfl hne
  | cons k keys =>
    obtain ⟨hk, hsome⟩ := h k List.mem_cons_self
    obtain ⟨a, ha⟩ := Option.isSome_iff_exists.mp hsome
    refine ⟨a, DeviceStore.lockedArrivals keys s, ?_, ?_⟩
    · rw [hk] at ha
      exact ha
    · simp [DeviceStore.lockedArrivals, ha]

theorem applyItem_eval {item : ArrivalItem} {found : List (ℕ × Date)} {s s' : DeviceStore}
    (hfound : FoundOne item s.settings found s)
    (heval : (applyItem s.settings item found).eval s = .ok ((), s')) : Applied [item] s s' := by
  by_cases hnil : found = []
  · subst hnil
    unfold applyItem at heval
    cases ha : s.arrival? item.student (item.date s.settings) with
    | none =>
      simp [DeviceStore.lockedArrivals, ha] at heval
      rw [← heval]
      exact applied_addArrival ha
    | some a => simp [DeviceStore.lockedArrivals, ha] at heval
  · obtain ⟨a, rest, ha, hlocked⟩ := hfound.lockedArrivals hnil
    unfold applyItem at heval
    simp only [Tx.bind_eq, Tx.eval_bind, Tx.eval_lockRows, Tx.eval_select, hlocked, Tx.eval_ite,
      Tx.eval_update, Tx.eval_ret] at heval
    have happlied := applied_setArrival ha
    split at heval
    · rename_i hlt
      rw [if_pos hlt] at happlied
      simp only [Except.ok.injEq, Prod.mk.injEq, true_and] at heval
      rw [← heval]
      exact happlied
    · rename_i hlt
      rw [if_neg hlt] at happlied
      simp only [Except.ok.injEq, Prod.mk.injEq, true_and] at heval
      rw [← heval]
      exact happlied

theorem itemTransaction_eval (item : ArrivalItem) (s : DeviceStore) :
    ∃ s', (itemTransaction s.settings item).eval s = .ok ((), s') ∧ Applied [item] s s' := by
  have hfound := foundOne_arrivalKeys item s.settings s
  have hok : ∃ s', (applyItem s.settings item
      (s.arrivalKeys [item.student] [item.date s.settings])).eval s = .ok ((), s') := by
    by_cases hnil : s.arrivalKeys [item.student] [item.date s.settings] = []
    · have hnone : s.arrival? item.student (item.date s.settings) = none := by
        rw [← Option.not_isSome_iff_eq_none]
        intro hsome
        have hmem := (s.mem_arrivalKeys_iff [item.student] [item.date s.settings] item.student
          (item.date s.settings)).mpr ⟨hsome, by simp, by simp⟩
        rw [hnil] at hmem
        cases hmem
      rw [hnil]
      unfold applyItem
      exact ⟨_, by simp [DeviceStore.lockedArrivals, hnone]; rfl⟩
    · obtain ⟨a, rest, ha, hlocked⟩ := hfound.lockedArrivals hnil
      unfold applyItem
      simp only [Tx.bind_eq, Tx.eval_bind, Tx.eval_lockRows, Tx.eval_select, hlocked, Tx.eval_ite,
        Tx.eval_update, Tx.eval_ret]
      split
      · exact ⟨_, rfl⟩
      · exact ⟨_, rfl⟩
  obtain ⟨s', heval⟩ := hok
  exact ⟨s', heval, applyItem_eval hfound heval⟩

/-! ## The earliest scan wins -/

def DeviceStore.items (s : DeviceStore) : List ArrivalItem := s.events.filterMap DeviceEvent.item?

/-- The student has an arrival on the day of the scan, not later than the scan. -/
def DeviceStore.Covers (s : DeviceStore) (item : ArrivalItem) : Prop :=
  ∃ a, s.arrival? item.student (item.date s.settings) = some a ∧
    a.firstArrivalAt ≤ item.occurredAt

instance (s : DeviceStore) (item : ArrivalItem) : Decidable (s.Covers item) :=
  match h : s.arrival? item.student (item.date s.settings) with
  | none => .isFalse fun ⟨a, ha, _⟩ => by rw [h] at ha; cases ha
  | some a => decidable_of_iff (a.firstArrivalAt ≤ item.occurredAt) <| by
      unfold DeviceStore.Covers
      rw [h]
      simp

theorem DeviceStore.Covers.mono {s : DeviceStore} {x y : ArrivalItem} (h : s.Covers x)
    (hkey : x.key s.settings = y.key s.settings) (hle : x.occurredAt ≤ y.occurredAt) :
    s.Covers y := by
  obtain ⟨a, ha, hfirst⟩ := h
  have hstudent : x.student = y.student := congrArg Prod.fst hkey
  have hdate : x.date s.settings = y.date s.settings := congrArg Prod.snd hkey
  rw [hstudent, hdate] at ha
  exact ⟨a, ha, hfirst.trans hle⟩

def SchoolArrival.Shows (a : SchoolArrival) (settings : MorningSettings) (item : ArrivalItem) :
    Prop :=
  a.firstArrivalAt = item.occurredAt ∧
    a.lateness = computeLateness settings item.occurredAt (item.date settings)

/-- Every arrival shows a stored scan of its student and day. -/
def DeviceStore.Grounded (s : DeviceStore) : Prop :=
  ∀ (k : ℕ × Date) (a : SchoolArrival), s.arrival? k.1 k.2 = some a →
    ∃ item ∈ s.items, item.key s.settings = k ∧ a.Shows s.settings item

/-- No stored scan is earlier than the arrival of its student and day. -/
def DeviceStore.AllCovered (s : DeviceStore) : Prop := ∀ item ∈ s.items, s.Covers item

instance (s : DeviceStore) : Decidable s.AllCovered :=
  inferInstanceAs (Decidable (∀ item ∈ s.items, s.Covers item))

structure EarliestWins (s : DeviceStore) : Prop where
  grounded : s.Grounded
  covered : s.AllCovered

theorem EarliestWins.isLeast {s : DeviceStore} (h : EarliestWins s) (k : ℕ × Date) :
    ((s.arrival? k.1 k.2).isSome ↔ ∃ item ∈ s.items, item.key s.settings = k) ∧
      ∀ a, s.arrival? k.1 k.2 = some a →
        (∃ item ∈ s.items, item.key s.settings = k ∧ a.Shows s.settings item) ∧
        ∀ item ∈ s.items, item.key s.settings = k → a.firstArrivalAt ≤ item.occurredAt := by
  have hcover : ∀ item ∈ s.items, item.key s.settings = k →
      ∃ a, s.arrival? k.1 k.2 = some a ∧ a.firstArrivalAt ≤ item.occurredAt := by
    intro item hitem hk
    subst hk
    exact h.covered item hitem
  constructor
  · constructor
    · intro hsome
      obtain ⟨a, ha⟩ := Option.isSome_iff_exists.mp hsome
      obtain ⟨item, hitem, hk, -⟩ := h.grounded k a ha
      exact ⟨item, hitem, hk⟩
    · intro ⟨item, hitem, hk⟩
      obtain ⟨a, ha, -⟩ := hcover item hitem hk
      rw [ha]
      rfl
  · intro a ha
    refine ⟨h.grounded k a ha, fun item hitem hk => ?_⟩
    obtain ⟨b, hb, hle⟩ := hcover item hitem hk
    rw [ha] at hb
    rw [Option.some.inj hb]
    exact hle

section Applied

variable {items : List ArrivalItem} {s s' : DeviceStore}

theorem Applied.settings (h : Applied items s s') : s'.settings = s.settings := by
  have hsettings : s'.beside.settings = s.beside.settings := by rw [h.beside]
  exact hsettings

theorem Applied.events (h : Applied items s s') : s'.events = s.events := by
  have hevents : s'.beside.events = s.beside.events := by rw [h.beside]
  exact hevents

theorem Applied.identities (h : Applied items s s') : s'.identities = s.identities := by
  have hidentities : s'.beside.identities = s.beside.identities := by rw [h.beside]
  exact hidentities

theorem Applied.students (h : Applied items s s') : s'.students = s.students := by
  have hstudents : s'.beside.students = s.beside.students := by rw [h.beside]
  exact hstudents

theorem Applied.devices (h : Applied items s s') : s'.devices = s.devices := by
  have hdevices : s'.beside.devices = s.beside.devices := by rw [h.beside]
  exact hdevices

theorem Applied.items_eq (h : Applied items s s') : s'.items = s.items := by
  unfold DeviceStore.items
  rw [h.events]

theorem improve_le (settings : MorningSettings) (item : ArrivalItem) (a : Option SchoolArrival) :
    (improve settings item a).firstArrivalAt ≤ item.occurredAt := by
  cases a with
  | none => exact le_refl _
  | some a =>
    unfold improve
    simp only
    split
    · exact le_refl _
    · rename_i h
      exact not_lt.mp h

theorem improve_le_some (settings : MorningSettings) (item : ArrivalItem) (a : SchoolArrival) :
    (improve settings item (some a)).firstArrivalAt ≤ a.firstArrivalAt := by
  unfold improve
  simp only
  split
  · rename_i h
    exact h.le
  · exact le_refl _

theorem improve_eq (settings : MorningSettings) (item : ArrivalItem) (a : Option SchoolArrival) :
    improve settings item a = item.arrival settings ∨ a = some (improve settings item a) := by
  cases a with
  | none => exact .inl rfl
  | some a =>
    unfold improve
    simp only
    split
    · exact .inl rfl
    · exact .inr rfl

theorem arrival_shows (settings : MorningSettings) (item : ArrivalItem) :
    (item.arrival settings).Shows settings item := ⟨rfl, rfl⟩

/-- **What application covers**: what was covered, and what is not earlier than one of the scans
applied. -/
theorem Applied.covers_iff (h : Applied items s s') (x : ArrivalItem) :
    s'.Covers x ↔ s.Covers x ∨
      ∃ item ∈ items, item.key s.settings = x.key s.settings ∧ item.occurredAt ≤ x.occurredAt := by
  have hearliest := isEarliest_earliestItems s.settings items
  have harrival := h.arrival (x.key s.settings)
  unfold DeviceStore.Covers
  rw [h.settings]
  cases hget : Dict.get? (earliestItems s.settings items) (x.key s.settings) with
  | none =>
    rw [hget] at harrival
    have hno : ¬∃ item ∈ items, item.key s.settings = x.key s.settings ∧
        item.occurredAt ≤ x.occurredAt := by
      intro ⟨item, hitem, hk, _⟩
      obtain ⟨first, hfirst, -⟩ := hearliest.le item hitem
      rw [hk, hget] at hfirst
      cases hfirst
    simp only [ArrivalItem.key] at harrival
    rw [harrival, or_iff_left hno]
  | some first =>
    rw [hget] at harrival
    simp only [ArrivalItem.key] at harrival
    obtain ⟨hmem, hkey⟩ := hearliest.mem _ first hget
    simp only [harrival, Option.some.injEq, exists_eq_left']
    constructor
    · intro hle
      rcases improve_eq s.settings first (s.arrival? x.student (x.date s.settings)) with hnew | hold
      · rw [hnew] at hle
        exact .inr ⟨first, hmem, hkey, hle⟩
      · exact .inl ⟨_, hold, hle⟩
    · intro hor
      rcases hor with ⟨a, ha, hle⟩ | ⟨item, hitem, hk, hle⟩
      · rw [ha]
        exact (improve_le_some s.settings first a).trans hle
      · obtain ⟨first', hfirst', hfle⟩ := hearliest.le item hitem
        rw [hk, hget] at hfirst'
        rw [← Option.some.inj hfirst'] at hfle
        exact (improve_le s.settings first _).trans (hfle.trans hle)

theorem Applied.covers (h : Applied items s s') {item : ArrivalItem} (hitem : item ∈ items) :
    s'.Covers item := (h.covers_iff item).mpr (.inr ⟨item, hitem, rfl, le_refl _⟩)

theorem Applied.grounded (h : Applied items s s') (hs : s.Grounded) (hitems : items ⊆ s.items) :
    s'.Grounded := by
  intro k a ha
  rw [h.items_eq, h.settings]
  rw [h.arrival k] at ha
  cases hget : Dict.get? (earliestItems s.settings items) k with
  | none =>
    rw [hget] at ha
    exact hs k a ha
  | some first =>
    rw [hget] at ha
    obtain ⟨hmem, hkey⟩ := (isEarliest_earliestItems s.settings items).mem k first hget
    rw [← Option.some.inj ha]
    rcases improve_eq s.settings first (s.arrival? k.1 k.2) with hnew | hold
    · rw [hnew]
      exact ⟨first, hitems hmem, hkey, arrival_shows _ _⟩
    · exact hs k _ hold

end Applied

end SchoolPlatform
