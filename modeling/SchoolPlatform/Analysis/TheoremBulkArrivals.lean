import SchoolPlatform.Library.CalmRuns
import SchoolPlatform.Analysis.ArrivalFacts

/-!
# Arrivals in bulk and one by one

Applying scans one after another improves each arrival by the earliest scan of its student and day
(`Applied.append`), which is what the bulk application does at once. So both leave the same arrivals
(`bulk_equals_single`).
-/

namespace SchoolPlatform

open ReadCommitted

variable {s s' t : DeviceStore} {items : List ArrivalItem}

theorem improve_improve (settings : MorningSettings) (current item : ArrivalItem)
    (a : Option SchoolArrival) :
    improve settings item (some (improve settings current a)) =
      improve settings (if item.occurredAt < current.occurredAt then item else current) a := by
  have hcurrent : (current.arrival settings).firstArrivalAt = current.occurredAt := rfl
  by_cases hlt : item.occurredAt < current.occurredAt
  · rw [if_pos hlt]
    cases a with
    | none =>
      show (if item.occurredAt < current.occurredAt then item.arrival settings
        else current.arrival settings) = item.arrival settings
      rw [if_pos hlt]
    | some b =>
      by_cases hb : current.occurredAt < b.firstArrivalAt
      · have hitem : item.occurredAt < b.firstArrivalAt := lt_trans hlt hb
        have hfirst : improve settings current (some b) = current.arrival settings := if_pos hb
        have hboth : improve settings item (some b) = item.arrival settings := if_pos hitem
        rw [hfirst, hboth]
        exact if_pos hlt
      · have hfirst : improve settings current (some b) = b := if_neg hb
        rw [hfirst]
  · rw [if_neg hlt]
    have hle := improve_le settings current a
    have hnot : ¬ item.occurredAt < (improve settings current a).firstArrivalAt := by
      intro h
      exact hlt (lt_of_lt_of_le h hle)
    exact if_neg hnot

theorem earliestItems_append (settings : MorningSettings) (items : List ArrivalItem)
    (item : ArrivalItem) : earliestItems settings (items ++ [item]) =
      keepEarlier settings (earliestItems settings items) item := by
  rw [earliestItems_eq, earliestItems_eq, List.foldl_append]
  rfl

section KeepEarlier

variable (settings : MorningSettings) (earliest : Dict (ℕ × Date) ArrivalItem)
  (item : ArrivalItem)

theorem get?_keepEarlier_of_ne {k : ℕ × Date} (hk : item.key settings ≠ k) :
    Dict.get? (keepEarlier settings earliest item) k = Dict.get? earliest k := by
  unfold keepEarlier
  split
  · rw [Dict.get?_insert, if_neg hk]
  · split
    · rw [Dict.get?_insert, if_neg hk]
    · rfl

theorem get?_keepEarlier_of_none (h : Dict.get? earliest (item.key settings) = none) :
    Dict.get? (keepEarlier settings earliest item) (item.key settings) = some item := by
  unfold keepEarlier
  rw [h]
  dsimp only
  rw [Dict.get?_insert, if_pos rfl]

theorem get?_keepEarlier_of_some {current : ArrivalItem}
    (h : Dict.get? earliest (item.key settings) = some current) :
    Dict.get? (keepEarlier settings earliest item) (item.key settings) =
      some (if item.occurredAt < current.occurredAt then item else current) := by
  unfold keepEarlier
  rw [h]
  dsimp only
  by_cases hlt : item.occurredAt < current.occurredAt
  · rw [if_pos hlt, if_pos hlt, Dict.get?_insert, if_pos rfl]
  · rw [if_neg hlt, if_neg hlt, h]

end KeepEarlier

theorem Applied.append {item : ArrivalItem} (h : Applied items s t) (h' : Applied [item] t s') :
    Applied (items ++ [item]) s s' := by
  refine ⟨h'.beside.trans h.beside, fun k => ?_⟩
  have hone := h'.arrival k
  rw [h.settings, get?_earliestItems_singleton, h.arrival k] at hone
  rw [hone, earliestItems_append]
  by_cases hk : item.key s.settings = k
  · subst hk
    rw [if_pos rfl]
    cases hcurrent : Dict.get? (earliestItems s.settings items) (item.key s.settings) with
    | none => rw [get?_keepEarlier_of_none _ _ _ hcurrent]
    | some current =>
      rw [get?_keepEarlier_of_some _ _ _ hcurrent]
      dsimp only
      rw [improve_improve]
  · rw [if_neg hk, get?_keepEarlier_of_ne _ _ _ hk]

def DeviceStore.OneArrival (s : DeviceStore) : Prop :=
  (s.arrivals.map fun a => (a.student, a.attendanceDate)).Nodup

theorem oneArrival_setArrival (a : SchoolArrival) (h : s.OneArrival) :
    (s.setArrival a).OneArrival := by
  have hkeys : ((s.setArrival a).arrivals.map fun a => (a.student, a.attendanceDate)) =
      s.arrivals.map fun a => (a.student, a.attendanceDate) := by
    unfold DeviceStore.setArrival
    rw [List.map_map]
    apply List.map_congr_left
    intro b _
    rw [Function.comp_apply]
    split
    · rename_i hb
      rw [hb.1, hb.2]
    · rfl
  unfold DeviceStore.OneArrival
  rw [hkeys]
  exact h

theorem oneArrival_addArrival (a : SchoolArrival) (h : s.OneArrival) :
    (s.addArrival a).OneArrival := by
  unfold DeviceStore.addArrival
  split
  · exact h
  · rename_i hnone
    unfold DeviceStore.OneArrival
    rw [List.map_append, List.map_singleton, List.nodup_append]
    refine ⟨h, List.nodup_singleton _, ?_⟩
    intro k hk k' hk' heq
    rw [List.mem_singleton] at hk'
    obtain ⟨b, hb, hkey⟩ := List.mem_map.mp hk
    rw [← hkey, hk', Prod.mk.injEq] at heq
    apply hnone
    unfold DeviceStore.arrival?
    rw [List.find?_isSome]
    exact ⟨b, hb, by rw [decide_eq_true_eq]; exact heq⟩

/-- What a change of the arrivals does to the unique constraint. -/
def KeepsOneArrival (s s' : DeviceStore) : Prop := s.OneArrival → s'.OneArrival

theorem correctArrival_writes (settings : MorningSettings) (existing : List SchoolArrival)
    (entry : (ℕ × Date) × ArrivalItem) :
    (correctArrival settings existing entry).Writes KeepsOneArrival := by
  unfold correctArrival
  split
  · trivial
  · split
    · apply Tx.Writes.update
      intro s h
      exact oneArrival_setArrival _ h
    · trivial

theorem insertArrivalIgnoring_writes (a : SchoolArrival) :
    (insertArrivalIgnoring a).Writes KeepsOneArrival := by
  apply (Tx.Writes.lockRows _ _).bind
  intro _
  apply Tx.Writes.update
  intro s h
  exact oneArrival_addArrival a h

theorem bulkTransaction_writes (settings : MorningSettings) (items : List ArrivalItem) :
    (bulkTransaction settings items).Writes KeepsOneArrival := by
  intro found
  apply (Tx.Writes.lockRows _ _).bind
  intro _
  apply (Tx.Writes.select _).bind
  intro existing
  apply (Tx.Writes.forEach (correctArrival_writes settings existing) _).bind
  intro _
  apply Tx.Writes.forEach
  intro entry
  exact insertArrivalIgnoring_writes _

theorem itemTransaction_writes (settings : MorningSettings) (item : ArrivalItem) :
    (itemTransaction settings item).Writes KeepsOneArrival := by
  intro found
  apply (Tx.Writes.lockRows _ _).bind
  intro _
  apply (Tx.Writes.select _).bind
  intro existing
  cases existing with
  | nil =>
    apply (Tx.Writes.lockRows _ _).bind
    intro _
    apply (Tx.Writes.select _).bind
    intro taken
    split
    · trivial
    · apply Tx.Writes.update
      intro s h
      exact oneArrival_addArrival _ h
  | cons arrival rest =>
    dsimp only
    split
    · apply Tx.Writes.update
      intro s h
      exact oneArrival_setArrival _ h
    · trivial

theorem oneArrival_eval {body : DeviceTransaction Unit} (hbody : body.Writes KeepsOneArrival)
    (heval : body.eval s = .ok ((), s')) : KeepsOneArrival s s' :=
  hbody.eval (fun _ h => h) (fun _ _ _ h h' hs => h' (h hs)) heval

theorem mem_arrivals_iff (hs : s.OneArrival) (a : SchoolArrival) :
    a ∈ s.arrivals ↔ s.arrival? a.student a.attendanceDate = some a := by
  constructor
  · intro ha
    cases hfound : s.arrival? a.student a.attendanceDate with
    | none =>
      have hnot := List.find?_eq_none.mp hfound a ha
      rw [decide_eq_true_eq] at hnot
      exact absurd ⟨rfl, rfl⟩ hnot
    | some b =>
      have hb : b ∈ s.arrivals := List.mem_of_find?_eq_some hfound
      have hkey := DeviceStore.key_of_arrival? hfound
      rw [Option.some.injEq]
      apply List.inj_on_of_nodup_map hs hb ha
      rw [hkey.1, hkey.2]
  · exact List.mem_of_find?_eq_some

theorem arrivals_perm (hs : s.OneArrival) (hs' : s'.OneArrival)
    (h : ∀ k : ℕ × Date, s.arrival? k.1 k.2 = s'.arrival? k.1 k.2) :
    s.arrivals.Perm s'.arrivals := by
  rw [List.perm_ext_iff_of_nodup (List.Nodup.of_map _ hs) (List.Nodup.of_map _ hs')]
  intro a
  rw [mem_arrivals_iff hs, mem_arrivals_iff hs', h (a.student, a.attendanceDate)]

theorem run_applyArrivalEventsBulk (items : List ArrivalItem) (s : DeviceStore) :
    ∃ s', (applyArrivalEventsBulk items).run s = (.ok (), s') ∧ Applied items s s' ∧
      KeepsOneArrival s s' := by
  by_cases hnil : items = []
  · subst hnil
    exact ⟨s, rfl, applied_nil s, fun h => h⟩
  · obtain ⟨s', heval, happlied⟩ := bulkTransaction_eval items s
    refine ⟨s', ?_, happlied, oneArrival_eval (bulkTransaction_writes _ _) heval⟩
    rw [applyArrivalEventsBulk_eq hnil]
    simp only [Program.run, heval]

theorem run_applyArrivalEvent (item : ArrivalItem) (s : DeviceStore) :
    ∃ s', (applyArrivalEvent item).run s = (.ok (), s') ∧ Applied [item] s s' ∧
      KeepsOneArrival s s' := by
  obtain ⟨s', heval, happlied⟩ := itemTransaction_eval item s
  refine ⟨s', ?_, happlied, oneArrival_eval (itemTransaction_writes _ _) heval⟩
  rw [applyArrivalEvent_eq]
  simp only [Program.run, heval]

theorem run_each (done rest : List ArrivalItem) (hdone : Applied done s t)
    (hone : KeepsOneArrival s t) :
    ∃ s', (Program.forEach applyArrivalEvent rest).run t = (.ok (), s') ∧
      Applied (done ++ rest) s s' ∧ KeepsOneArrival s s' := by
  induction rest generalizing done t with
  | nil =>
    rw [List.append_nil]
    exact ⟨t, rfl, hdone, hone⟩
  | cons item rest ih =>
    obtain ⟨u, hrun, happlied, hkeeps⟩ := run_applyArrivalEvent item t
    obtain ⟨s', hrest, hall⟩ := ih (done ++ [item]) (hdone.append happlied) fun h =>
      hkeeps (hone h)
    rw [List.append_assoc] at hall
    refine ⟨s', ?_, hall⟩
    unfold Program.forEach
    rw [Program.run_bind, hrun]
    exact hrest

/-- The bulk application of scans and their application one by one both finish. They leave the
same arrivals, with the same source, event and lateness, and change nothing else. -/
theorem bulk_equals_single (items : List ArrivalItem) (s : DeviceStore) (hs : s.OneArrival) :
    ∃ bulk single, (applyArrivalEventsBulk items).run s = (.ok (), bulk) ∧
      (Program.forEach applyArrivalEvent items).run s = (.ok (), single) ∧
      bulk.arrivals.Perm single.arrivals ∧ bulk.beside = single.beside := by
  obtain ⟨bulk, hbulk, hall, hkeeps⟩ := run_applyArrivalEventsBulk items s
  obtain ⟨single, hsingle, heach, hkeeps'⟩ := run_each [] items (applied_nil s) fun h => h
  refine ⟨bulk, single, hbulk, hsingle, ?_, hall.beside.trans heach.beside.symm⟩
  apply arrivals_perm (hkeeps hs) (hkeeps' hs)
  intro k
  rw [hall.arrival k, heach.arrival k]
  rfl

/-- An arrival that the school has written down at eight of day 1. -/
def writtenDownMorning : DeviceStore where
  settings := { zone := ⟨id⟩, schoolDayStartTime := 7 * 3600, morningLateGraceMinutes := 5 }
  arrivals := [
    { student := 1
      attendanceDate := 1
      firstArrivalAt := (24 + 8) * 3600000000
      lateness := { rawLateMinutes := 60, countedLateMinutes := 55, status := .late }
      source := .manual
      deviceEvent := none }]

/-- Two scans of the student before eight, a later one, and two simultaneous ones of another
student. -/
def writtenDownScans : List ArrivalItem := [
  { student := 1, occurredAt := (24 * 60 + 7 * 60 + 20) * 60000000, event := (3, .ext ['a']) },
  { student := 2, occurredAt := (24 * 60 + 7 * 60 + 2) * 60000000, event := (3, .ext ['b']) },
  { student := 1, occurredAt := (24 * 60 + 9 * 60) * 60000000, event := (3, .ext ['c']) },
  { student := 1, occurredAt := (24 * 60 + 7 * 60 + 10) * 60000000, event := (4, .ext ['d']) },
  { student := 2, occurredAt := (24 * 60 + 7 * 60 + 2) * 60000000, event := (4, .ext ['e']) }]

theorem writtenDownScans_alike :
    ∃ bulk single, (applyArrivalEventsBulk writtenDownScans).run writtenDownMorning =
        (.ok (), bulk) ∧
      (Program.forEach applyArrivalEvent writtenDownScans).run writtenDownMorning =
        (.ok (), single) ∧
      bulk.arrivals.Perm single.arrivals ∧ bulk.beside = single.beside :=
  bulk_equals_single writtenDownScans writtenDownMorning (List.nodup_singleton _)

end SchoolPlatform
