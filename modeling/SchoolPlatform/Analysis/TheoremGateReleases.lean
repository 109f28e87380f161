import SchoolPlatform.Model.StudentLeaves

/-!
# One leave and one exit for a student and a day

Leaves are recorded, cancelled and confirmed at the gate by any number of users at once. As long as
each confirmation finds the day by the clock of the server that its school has when the release is
saved, no student has two active leaves or two releases on a day, and a release is of an active
leave of its day. A school in another zone than that of the server can let a student out twice.
-/

/-! ## Leaves and releases as files -/

namespace SchoolPlatform.Leaves

open ReadCommitted

variable {zones : ℕ → Zone} {s t : LeaveBook} {L : List (LeaveRow × LockMode)}

/-- The release is of an active leave of its school, dated the day of the release in the zone of the
school. -/
def LeaveBook.Dated (zones : ℕ → Zone) (s : LeaveBook) (r : StudentGateRelease) : Prop :=
  ∃ x, s.leaves.get? r.leavePermission = some x ∧ x.status = .active ∧ x.school = r.school ∧
    x.form.leaveDate = (zones r.school).date r.releasedAt

structure LeaveBook.Sound (zones : ℕ → Zone) (s : LeaveBook) : Prop where
  ids : (Dict.keys s.leaves).Nodup
  releaseIds : (Dict.keys s.releases).Nodup
  active : s.leaves.Unique StudentLeavePermission.activeDay
  once : s.releases.Unique StudentGateRelease.releaseOf
  dated : ∀ p ∈ s.releases, s.Dated zones p.2

inductive LeaveFile
  | leave (id : ℕ)
  | release (id : ℕ)
  | activeDay (entry : ℕ × ℕ × Date)

abbrev LeaveFile.Content : LeaveFile → Type
  | .leave _ => Option StudentLeavePermission × Bool
  | .release _ => Option StudentGateRelease
  | .activeDay _ => Bool

/-- The filing of the leaves; nothing is asked of how they grow. -/
def leaveFiling (zones : ℕ → Zone) : Filing LeaveBook LeaveRow LeaveFile LeaveFile.Content where
  file
    | .leave id => fun s => (s.leaves.get? id, s.isReleased id)
    | .release id => fun s => s.releases.get? id
    | .activeDay entry => fun s => s.leaves.taken StudentLeavePermission.activeDay entry
  row
    | .leave id => .leave id
    | .release id => .release id
    | .activeDay entry => .activeDay entry
  sound := LeaveBook.Sound zones
  grows := fun _ _ _ => True
  grows_refl := fun _ _ => trivial
  grows_trans := fun _ _ _ _ _ _ => trivial
  grows_mono := fun _ _ _ _ _ _ => trivial

theorem activeDay_eq_some {x : StudentLeavePermission} {entry : ℕ × ℕ × Date} :
    x.activeDay = some entry ↔
      x.status = .active ∧ (x.school, x.student, x.form.leaveDate) = entry := by
  unfold StudentLeavePermission.activeDay
  by_cases hactive : x.status = .active <;> simp [hactive]

theorem get?_addLeave (id j : ℕ) (x : StudentLeavePermission) :
    (s.addLeave id x).leaves.get? j = (s.leaves.get? j).or (if id = j then some x else none) :=
  Dict.get?_append_singleton s.leaves id j x

theorem get?_changeLeave (id j : ℕ) (f : StudentLeavePermission → StudentLeavePermission) :
    (s.changeLeave id f).leaves.get? j =
      if j = id then (s.leaves.get? j).map f else s.leaves.get? j :=
  Dict.get?_adjust s.leaves id j f

theorem get?_addRelease (id j : ℕ) (r : StudentGateRelease) :
    (s.addRelease id r).releases.get? j =
      (s.releases.get? j).or (if id = j then some r else none) :=
  Dict.get?_append_singleton s.releases id j r

theorem isReleased_addRelease (id leave : ℕ) (r : StudentGateRelease) :
    (s.addRelease id r).isReleased leave =
      (s.isReleased leave || decide (r.leavePermission = leave)) := by
  unfold LeaveBook.isReleased LeaveBook.addRelease
  rw [Dict.taken_append]
  simp [StudentGateRelease.releaseOf]

theorem ne_of_not_released {leave : ℕ} (h : s.isReleased leave = false)
    {p : ℕ × StudentGateRelease} (hp : p ∈ s.releases) : p.2.leavePermission ≠ leave := by
  intro hleave
  have hnone := Dict.taken_eq_false.mp h p hp
  exact hnone (congrArg some hleave)

theorem commits_addLeave {id : ℕ} {x : StudentLeavePermission}
    (hnew : t.leaves.get? id = none)
    (hfree : ∀ entry, x.activeDay = some entry →
      t.leaves.taken StudentLeavePermission.activeDay entry = false)
    (hlock : WriteLocked L (.leave id))
    (hday : ∀ entry, x.activeDay = some entry → WriteLocked L (.activeDay entry)) :
    (leaveFiling zones).Commits L t (t.addLeave id x) := by
  refine ⟨fun file => ?_, trivial, fun hs => ?_⟩
  · cases file with
    | leave j =>
      by_cases hj : j = id
      · rw [hj]
        exact .inl hlock
      · refine .inr ?_
        show ((t.addLeave id x).leaves.get? j, t.isReleased j) = (t.leaves.get? j, t.isReleased j)
        rw [get?_addLeave, if_neg (Ne.symm hj), Option.or_none]
    | release j => exact .inr rfl
    | activeDay entry =>
      by_cases hentry : x.activeDay = some entry
      · exact .inl (hday entry hentry)
      · refine .inr ?_
        show (t.leaves ++ [(id, x)]).taken _ entry = t.leaves.taken _ entry
        rw [Dict.taken_append, decide_eq_false hentry, Bool.or_false]
  · refine ⟨Dict.nodup_keys_append hs.ids x hnew, hs.releaseIds, hs.active.append id hfree,
      hs.once, fun p hp => ?_⟩
    obtain ⟨y, hy, hrest⟩ := hs.dated p hp
    refine ⟨y, ?_, hrest⟩
    rw [get?_addLeave, hy, Option.some_or]

theorem commits_cancel {id : ℕ} {x : StudentLeavePermission} {clock : LeaveClock}
    {membership : ℕ} {reason : Text} (hs : t.Sound zones) (hrow : t.leaves.get? id = some x)
    (hreleased : t.isReleased id = false) (hlock : WriteLocked L (.leave id))
    (hday : WriteLocked L (.activeDay (x.school, x.student, x.form.leaveDate))) :
    (leaveFiling zones).Commits L t
      (t.changeLeave id (StudentLeavePermission.cancel clock membership reason)) := by
  have hcancelled : ∀ y : StudentLeavePermission,
      (y.cancel clock membership reason).activeDay = none := fun _ => rfl
  refine ⟨fun file => ?_, trivial, fun _ => ?_⟩
  · cases file with
    | leave j =>
      by_cases hj : j = id
      · rw [hj]
        exact .inl hlock
      · refine .inr ?_
        show ((t.changeLeave id _).leaves.get? j, t.isReleased j) =
          (t.leaves.get? j, t.isReleased j)
        rw [get?_changeLeave, if_neg hj]
    | release j => exact .inr rfl
    | activeDay entry =>
      by_cases hentry : x.activeDay = some entry
      · rw [← (activeDay_eq_some.mp hentry).2]
        exact .inl hday
      · refine .inr (Dict.taken_adjust hs.ids hrow ?_)
        rw [hcancelled]
        simp [hentry]
  · refine ⟨?_, hs.releaseIds, hs.active.adjust hs.ids hrow ?_, hs.once, fun p hp => ?_⟩
    · show (Dict.keys (t.leaves.adjust id _)).Nodup
      rw [Dict.keys_adjust]
      exact hs.ids
    · intro entry hentry
      rw [hcancelled] at hentry
      cases hentry
    · -- The leave of a release is another one.
      obtain ⟨y, hy, hrest⟩ := hs.dated p hp
      refine ⟨y, ?_, hrest⟩
      rw [get?_changeLeave, if_neg (ne_of_not_released hreleased hp), hy]

theorem commits_addRelease {id : ℕ} {r : StudentGateRelease}
    (hnew : t.releases.get? id = none) (hreleased : t.isReleased r.leavePermission = false)
    (hdated : t.Dated zones r) (hlock : WriteLocked L (.release id))
    (hleave : WriteLocked L (.leave r.leavePermission)) :
    (leaveFiling zones).Commits L t (t.addRelease id r) := by
  refine ⟨fun file => ?_, trivial, fun hs => ?_⟩
  · cases file with
    | leave j =>
      by_cases hj : r.leavePermission = j
      · rw [← hj]
        exact .inl hleave
      · refine .inr ?_
        show (t.leaves.get? j, (t.addRelease id r).isReleased j) = (t.leaves.get? j, t.isReleased j)
        rw [isReleased_addRelease, decide_eq_false hj, Bool.or_false]
    | release j =>
      by_cases hj : j = id
      · rw [hj]
        exact .inl hlock
      · refine .inr ?_
        show (t.addRelease id r).releases.get? j = t.releases.get? j
        rw [get?_addRelease, if_neg (Ne.symm hj), Option.or_none]
    | activeDay entry => exact .inr rfl
  · refine ⟨hs.ids, Dict.nodup_keys_append hs.releaseIds r hnew, hs.active,
      hs.once.append id ?_, fun p hp => ?_⟩
    · intro leave hentry
      have hsame : r.leavePermission = leave := Option.some.inj hentry
      rw [← hsame]
      exact hreleased
    · rcases Dict.mem_append_singleton.mp hp with hp | rfl
      · exact hs.dated p hp
      · exact hdated

def LeaveBook.activeCount (s : LeaveBook) (school student : ℕ) (day : Date) : ℕ :=
  s.leaves.countP fun p => p.2.status = .active && p.2.school = school && p.2.student = student &&
    p.2.form.leaveDate = day

def LeaveBook.releaseCount (zones : ℕ → Zone) (s : LeaveBook) (school student : ℕ)
    (day : Date) : ℕ :=
  s.releases.countP fun p => p.2.school = school && (zones school).date p.2.releasedAt = day &&
    (s.leaves.get? p.2.leavePermission).any fun x => x.student = student

structure LeaveBook.LeftOnce (zones : ℕ → Zone) (s : LeaveBook) : Prop where
  active : ∀ school student day, s.activeCount school student day ≤ 1
  released : ∀ school student day, s.releaseCount zones school student day ≤ 1
  apart : ∀ id x, s.leaves.get? id = some x → x.status = .cancelled → s.isReleased id = false
  dated : ∀ p ∈ s.releases, s.Dated zones p.2

variable {zones : ℕ → Zone} {s : LeaveBook}

theorem LeaveBook.Sound.leftOnce (hs : s.Sound zones) : s.LeftOnce zones where
  active := by
    intro school student day
    apply hs.active.countP_le_one (i := (school, student, day)) hs.ids
    intro p _ hp
    simp only [Bool.and_eq_true, decide_eq_true_eq] at hp
    obtain ⟨⟨⟨hactive, hschool⟩, hstudent⟩, hday⟩ := hp
    rw [activeDay_eq_some, hschool, hstudent, hday]
    exact ⟨hactive, rfl⟩
  released := by
    intro school student day
    by_cases hnone : s.releaseCount zones school student day = 0
    · omega
    -- The releases of the day are of the one leave that is active on it.
    have hleave : ∀ p ∈ s.releases,
        (p.2.school = school && (zones school).date p.2.releasedAt = day &&
          (s.leaves.get? p.2.leavePermission).any fun x => x.student = student) = true →
        ∃ x, (p.2.leavePermission, x) ∈ s.leaves ∧ x.activeDay = some (school, student, day) := by
      intro p hp hcounted
      simp only [Bool.and_eq_true, decide_eq_true_eq] at hcounted
      obtain ⟨⟨hschool, hday⟩, hstudent⟩ := hcounted
      obtain ⟨x, hx, hactive, hxschool, hdate⟩ := hs.dated p hp
      rw [hx, Option.any_some, decide_eq_true_eq] at hstudent
      refine ⟨x, (Dict.mem_iff_get? hs.ids _ x).mpr hx, activeDay_eq_some.mpr ⟨hactive, ?_⟩⟩
      rw [hxschool, hschool, hstudent, hdate, hschool, hday]
    obtain ⟨p, hp, hcounted⟩ := List.countP_pos_iff.mp (Nat.pos_of_ne_zero hnone)
    obtain ⟨x, hx, hentry⟩ := hleave p hp hcounted
    apply hs.once.countP_le_one (i := p.2.leavePermission) hs.releaseIds
    intro q hq hqcounted
    obtain ⟨y, hy, hyentry⟩ := hleave q hq hqcounted
    have hsame : q.2.leavePermission = p.2.leavePermission := hs.active _ hx _ hy _ hentry hyentry
    exact congrArg some hsame
  apart := by
    intro id x hx hcancelled
    apply Dict.taken_eq_false.mpr
    intro p hp hleave
    obtain ⟨y, hy, hactive, -⟩ := hs.dated p hp
    have hid : p.2.leavePermission = id := Option.some.inj hleave
    rw [hid, hx, Option.some.injEq] at hy
    rw [← hy, hcancelled] at hactive
    cases hactive
  dated := hs.dated

/-- The day that a confirmation finds is that of its school when the release is saved. -/
def LeaveCall.OnTheDay (zones : ℕ → Zone) : LeaveCall → Prop
  | .confirm clock school _ _ _ => clock.localdate = (zones school).date clock.savedAt
  | _ => True

variable {α : Type} {L : List (LeaveRow × LockMode)} {B : LeaveBook → LeaveBook → Prop}
  {B' : α → LeaveBook → LeaveBook → Prop}

theorem spec_lockLeave {school id : ℕ} {e : Failure}
    {g : StudentLeavePermission → LeaveTransaction α} (hB : ∀ s t, B s t → t = s)
    (hg : ∀ x b, x.school = school → (leaveFiling zones).Spec ((.leave id, .update) :: L)
      (fun s t => B s t ∧ (s.leaves.get? id, s.isReleased id) = (some x, b)) (g x) B') :
    (leaveFiling zones).Spec L B
      ((lockLeave school id).bind fun found => (Tx.need found e).bind g) B' := by
  apply Filing.Spec.lockFile (x := LeaveFile.leave id)
    (fun F found => found = F.1.filter fun x => x.school = school)
  · intro s t _ _ _ h
    rw [hB s t h]
    rfl
  · intro F found hfound
    refine Filing.Spec.need fun x hx => ?_
    rw [hx, eq_comm, Option.filter_eq_some_iff] at hfound
    have hF : F = (some x, F.2) := Prod.ext hfound.1 rfl
    rw [hF]
    exact hg x F.2 (of_decide_eq_true hfound.2)

theorem record_spec (clock : LeaveClock) (school membership studentId : ℕ)
    (student : LeaveStudent) (form : LeaveForm) (newId : ℕ) :
    (leaveFiling zones).Spec [] (fun s t => True ∧ t = s)
      (recordStudentLeave clock school membership studentId student form newId)
      fun _ _ _ => True := by
  unfold recordStudentLeave insertLeave
  simp only [Tx.bind_eq, Tx.bind_assoc]
  refine Filing.Spec.require fun _ => Filing.Spec.require fun _ => Filing.Spec.require fun _ => ?_
  refine Filing.Spec.select_any fun enrollment => Filing.Spec.require fun _ => ?_
  refine Filing.Spec.lockRows ?_
  set entry := (school, studentId, form.strip.leaveDate) with hentry
  refine Filing.Spec.readFiles [LeaveFile.leave newId, LeaveFile.activeDay entry] ?_
    (fun F taken => taken = ((F (.leave newId)).1.isSome || F (.activeDay entry))) ?_ ?_
  · intro file hfile
    simp only [List.mem_cons, List.not_mem_nil, or_false] at hfile
    rcases hfile with rfl | rfl <;> exact .of_update (by simp [leaveFiling])
  · rintro s t _ _ ⟨-, rfl⟩
    rfl
  · intro F taken htaken
    refine Filing.Spec.require fun hfree => Filing.Spec.update_ret fun s t _ h => ?_
    obtain ⟨⟨-, rfl⟩, hknown⟩ := h
    have hleave := hknown (.leave newId) (by simp)
    have hday := hknown (.activeDay entry) (by simp)
    rw [Bool.not_eq_true', htaken, Bool.or_eq_false_iff, ← hleave, ← hday] at hfree
    have hother : ∀ entry', some entry = some entry' → entry' = entry :=
      fun _ h => (Option.some.inj h).symm
    apply commits_addLeave
    · exact Option.isSome_eq_false_iff.mp hfree.1 |> Option.isNone_iff_eq_none.mp
    · intro entry' hsome
      rw [hother entry' hsome]
      exact hfree.2
    · exact .of_update (by simp)
    · intro entry' hsome
      rw [hother entry' hsome]
      exact .of_update (by simp [hentry])

theorem cancel_spec (clock : LeaveClock) (school membership leaveId : ℕ) (reason : Text) :
    (leaveFiling zones).Spec [] (fun s t => True ∧ t = s)
      (cancelStudentLeave clock school membership leaveId reason) fun _ _ _ => True := by
  unfold cancelStudentLeave
  simp only [Tx.bind_eq]
  refine spec_lockLeave (fun s t h => h.2) fun locked b hschool => ?_
  refine Filing.Spec.require fun _ => ?_
  apply Filing.Spec.select (P := fun released => released = b)
  · rintro s t _ _ ⟨⟨-, rfl⟩, hfile⟩
    exact congrArg Prod.snd hfile
  rintro released rfl
  refine Filing.Spec.require fun hreleased => Filing.Spec.require fun _ =>
    Filing.Spec.lockRows (Filing.Spec.update_ret fun s t ht h => ?_)
  obtain ⟨⟨-, rfl⟩, hfile⟩ := h
  rw [Prod.mk.injEq] at hfile
  apply commits_cancel ht hfile.1
  · rw [hfile.2, ← Bool.not_eq_true']
    exact hreleased
  · exact .of_update (by simp)
  · exact .of_update (by simp)

theorem confirm_spec {clock : LeaveClock} {school : ℕ} (membership leaveId newId : ℕ)
    (hday : clock.localdate = (zones school).date clock.savedAt) :
    (leaveFiling zones).Spec [] (fun s t => True ∧ t = s)
      (confirmGateRelease clock school membership leaveId newId) fun _ _ _ => True := by
  unfold confirmGateRelease insertRelease
  simp only [Tx.bind_eq, Tx.bind_assoc]
  refine spec_lockLeave (fun s t h => h.2) fun locked b hschool => ?_
  refine Filing.Spec.require fun hdate => Filing.Spec.require fun hactive => ?_
  rw [decide_eq_true_eq] at hdate hactive
  apply Filing.Spec.select (P := fun released => released = b)
  · rintro s t _ _ ⟨⟨-, rfl⟩, hfile⟩
    exact congrArg Prod.snd hfile
  rintro released rfl
  refine Filing.Spec.require fun hreleased => Filing.Spec.lockRows ?_
  refine Filing.Spec.readFiles [LeaveFile.release newId] ?_
    (fun F taken => taken = ((F (.release newId)).isSome || released)) ?_ ?_
  · intro file hfile
    rw [List.mem_singleton.mp hfile]
    exact .of_update (by simp [leaveFiling])
  · rintro s t _ _ ⟨⟨-, rfl⟩, hfile⟩
    rw [Prod.mk.injEq] at hfile
    rw [hfile.2]
    rfl
  · intro F taken htaken
    refine Filing.Spec.require fun hfree => Filing.Spec.update_ret fun s t _ h => ?_
    obtain ⟨⟨⟨-, rfl⟩, hfile⟩, hknown⟩ := h
    rw [Prod.mk.injEq] at hfile
    have hrelease := hknown (.release newId) List.mem_cons_self
    rw [Bool.not_eq_true', htaken, Bool.or_eq_false_iff, ← hrelease] at hfree
    apply commits_addRelease
    · exact Option.isNone_iff_eq_none.mp (Option.isSome_eq_false_iff.mp hfree.1)
    · exact hfile.2.trans hfree.2
    · exact ⟨locked, hfile.1, hactive, hschool, hdate.trans hday⟩
    · exact .of_update (by simp)
    · exact .of_update (by simp)

theorem client_of_onTheDay {call : LeaveCall} (h : call.OnTheDay zones) :
    (leaveFiling zones).Client (fun _ => True) call.program := by
  have hstable : (leaveFiling zones).Stable [] fun _ => True := Filing.stable_true
  cases call with
  | record clock school membership studentId form newId =>
    refine Filing.Client.read_any fun found => Filing.Client.need fun student _ => ?_
    exact Filing.Client.transaction hstable (record_spec _ _ _ _ _ _ _)
      fun _ => Filing.Client.ret ()
  | cancel clock school membership leaveId reason =>
    refine Filing.Client.read_any fun found => Filing.Client.need fun leave _ => ?_
    exact Filing.Client.transaction hstable (cancel_spec _ _ _ _ _) fun _ => Filing.Client.ret ()
  | confirm clock school membership leaveId newId =>
    refine Filing.Client.read_any fun found => Filing.Client.need fun leave _ => ?_
    exact Filing.Client.transaction hstable (confirm_spec _ _ _ h) fun _ => Filing.Client.ret ()

/-- **One leave and one exit.** At every point of every run of calls whose confirmations find the
day of their school, a student has at most one active leave and at most one release on a day, no
leave is both cancelled and released, and a release is of an active leave of its day. -/
theorem left_once {calls : List LeaveCall} (hcalls : ∀ call ∈ calls, call.OnTheDay zones)
    (hs : s.Sound zones) {sched : List ℕ} {c : Config LeaveBook LeaveRow Failure Unit}
    (h : (Config.start s (calls.map LeaveCall.program)).exec sched = some c) :
    c.store.LeftOnce zones := by
  have hclients : ∀ p ∈ calls.map LeaveCall.program,
      (leaveFiling zones).Client (fun _ => True) p := by
    intro p hp
    obtain ⟨call, hcall, rfl⟩ := List.mem_map.mp hp
    exact client_of_onTheDay (hcalls call hcall)
  have hsound : c.store.Sound zones :=
    Filing.sound_of_exec (D := leaveFiling zones) hclients hs h
  exact hsound.leftOnce

def moment (minutes : ℤ) : Instant := (20000 * 1440 + minutes) * 60 * 1000000

def clockAt (minutes : ℤ) : LeaveClock := ⟨moment minutes, moment minutes⟩

def utc : Zone where
  wall := fun t => t + epochDay * microsPerDay

def sickLeave (day : Date) : LeaveForm :=
  { leaveDate := day, leaveTime := 0, reason := ['i', 'l', 'l'] }

def emptyBook : LeaveBook := { students := [(5, { school := 1 })] }

theorem emptyBook_sound (zones : ℕ → Zone) : emptyBook.Sound zones :=
  ⟨List.nodup_nil, List.nodup_nil, Dict.unique_nil, Dict.unique_nil,
    fun _ hp => absurd hp List.not_mem_nil⟩

def leaveCalls : List LeaveCall :=
  [.record (clockAt 500) 1 10 5 (sickLeave 739163) 1, .cancel (clockAt 510) 1 10 1 [],
    .confirm (clockAt 510) 1 11 1 1]

def leaveSchedule : List ℕ :=
  List.replicate 7 0 ++ List.replicate 4 2 ++ List.replicate 3 1 ++ List.replicate 6 2 ++
    List.replicate 4 1

/-- The cancellation comes too late. -/
theorem left_once_of_race : ∃ c,
    (Config.start emptyBook (leaveCalls.map LeaveCall.program)).exec leaveSchedule = some c ∧
      c.store.LeftOnce fun _ => riyadh := by
  have hruns : ((Config.start emptyBook (leaveCalls.map LeaveCall.program)).exec
      leaveSchedule).isSome = true := by decide +kernel
  obtain ⟨c, hc⟩ := Option.isSome_iff_exists.mp hruns
  have hcalls : ∀ call ∈ leaveCalls, call.OnTheDay fun _ => riyadh := by
    intro call hcall
    simp only [leaveCalls, List.mem_cons, List.not_mem_nil, or_false] at hcall
    rcases hcall with rfl | rfl | rfl
    · trivial
    · trivial
    · rfl
  exact ⟨c, hc, left_once hcalls (emptyBook_sound _) hc⟩

/-- Ten minutes before midnight of the server a leave is recorded and used, and ten minutes after it
another one. -/
def midnightCalls : List LeaveCall :=
  [.record (clockAt 1250) 1 10 5 (sickLeave 739163) 1, .confirm (clockAt 1255) 1 11 1 1,
    .record (clockAt 1265) 1 10 5 (sickLeave 739164) 2, .confirm (clockAt 1270) 1 11 2 2]

def midnightSchedule : List ℕ :=
  List.replicate 7 0 ++ List.replicate 10 1 ++ List.replicate 7 2 ++ List.replicate 10 3

/-- **A student of a school in UTC leaves twice on one day.** -/
theorem left_twice : ¬ ∀ (zones : ℕ → Zone) (calls : List LeaveCall) (s : LeaveBook)
    (sched : List ℕ) (c : Config LeaveBook LeaveRow Failure Unit), s.Sound zones →
    (Config.start s (calls.map LeaveCall.program)).exec sched = some c →
      c.store.LeftOnce zones := by
  intro h
  have hruns : ((Config.start emptyBook (midnightCalls.map LeaveCall.program)).exec
      midnightSchedule).map (fun c => c.store.releaseCount (fun _ => utc) 1 5 739163) =
        some 2 := by decide +kernel
  obtain ⟨c, hc, htwo⟩ := Option.map_eq_some_iff.mp hruns
  have hone := (h (fun _ => utc) midnightCalls emptyBook midnightSchedule c (emptyBook_sound _)
    hc).released 1 5 739163
  rw [htwo] at hone
  exact absurd hone (by decide)

end SchoolPlatform.Leaves
