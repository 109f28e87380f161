import SchoolPlatform.Analysis.ExcuseSteps
import SchoolPlatform.Library.DeferredRepair

/-!
# Exactness of excuse coverage

Requests one after another keep the set of covered absences equal to the set of justified ones,
each covered once (`School.play_coverage_exact`). Requests beside each other do so in the runs in
which every commit rests on what still stands (`validated_coverageCorrect`); the schedule
`cancelBesideEdit` is one of the others.
-/

/-! ## Coverage as derived data -/

namespace SchoolPlatform

open ReadCommitted

variable {α β : Type}

/-- The program begins with the given reconciliations, in this order. -/
inductive Owing : Operation α → List Repair → Prop
  | nothing (p : Operation α) : Owing p []
  | reconcile (now : Instant) (r : Repair) (k : List ℕ → Operation α) (l : List Repair)
      (h : ∀ affected, Owing (k affected) l) :
      Owing (.atomic (reconcileLocked now r.1 r.2) k) (r :: l)

theorem Owing.bind {p : Operation α} {l : List Repair} (h : Owing p l) (g : α → Operation β) :
    Owing (p.bind g) l := by
  induction h with
  | nothing p => exact .nothing _
  | reconcile now r k l _ ih => exact .reconcile now r _ l ih

/-- Whatever a unit of the program leaves wrong, the rest begins by reconciling. -/
def Maintains : Operation α → Prop
  | .ret _ => True
  | .raise _ => True
  | .peek _ k => ∀ b, Maintains (k b)
  | .atomic body k => ∀ s, s.Sound → ∀ b s', body.eval s = .ok (b, s') →
      Maintains (k b) ∧ ∃ l, s.Leaves s' l ∧ Owing (k b) l

theorem Maintains.bind {p : Operation α} {g : α → Operation β} (hp : Maintains p)
    (hg : ∀ a, Maintains (g a)) : Maintains (p.bind g) := by
  induction p with
  | ret a => exact hg a
  | raise e => trivial
  | peek q k ih => exact fun b => ih b (hp b)
  | atomic body k ih =>
    intro s hs b s' h
    obtain ⟨hrest, l, hleaves, howing⟩ := hp s hs b s' h
    exact ⟨ih b hrest, l, hleaves, howing.bind g⟩

theorem Maintains.of_keeps {p : Operation α} (h : p.Keeps School.core) : Maintains p := by
  induction p with
  | ret a => trivial
  | raise e => trivial
  | peek q k ih => exact fun b => ih b (h b)
  | atomic body k ih =>
    exact fun s hs b s' he => ⟨ih b (h.2 b), [], hs.leaves_of_core (h.1.eval he), .nothing _⟩

theorem eval_reconcileLocked {s : School} (hs : s.Keyed) (now : Instant) (d : Date)
    (studentIds : Option (List ℕ)) : ∃ affected,
      (reconcileLocked now d studentIds).eval s = .ok (affected, s.reconciled now d studentIds) := by
  obtain ⟨r, hr⟩ := hs.eval_reconcile now d studentIds
  refine ⟨r.affected, ?_⟩
  unfold reconcileLocked
  simp only [Tx.bind_eq, Tx.eval_bind, hr, eval_checkReferences, Tx.pure_eq, Tx.eval_ret]

theorem School.Sound.leaves_reconciled {s : School} (hs : s.Sound) (now : Instant) (d : Date)
    (studentIds : Option (List ℕ)) : s.Leaves (s.reconciled now d studentIds) [] :=
  ⟨hs.reconciled now d studentIds,
    fun _ hk => .inl (hs.exact_reconciled now d studentIds (.inr hk))⟩

theorem maintains_reconciliation (now : Instant) (d : Date) (studentIds : Option (List ℕ)) :
    Maintains (reconciliation now d studentIds) := by
  intro s hs b s' h
  obtain ⟨affected, heval⟩ := eval_reconcileLocked hs.toKeyed now d studentIds
  rw [heval] at h
  cases h
  exact ⟨trivial, [], hs.leaves_reconciled now d studentIds, .nothing _⟩

theorem reconcileLocked_not_mayRaise (now : Instant) (d : Date)
    (studentIds : Option (List ℕ)) : ¬ (reconcileLocked now d studentIds).MayRaise := by
  have hvoid : ∀ toVoid, ¬ (voidStale now toVoid).MayRaise := by
    intro toVoid h
    unfold voidStale at h
    split_ifs at h
    · exact h
    · obtain ⟨rows, ids, h⟩ := h
      exact h
  have hcreate : ∀ toCreate, ¬ (createMissing toCreate).MayRaise := by
    intro toCreate h
    unfold createMissing at h
    split_ifs at h
    · exact h
    · obtain ⟨fresh, h⟩ := h
      exact h
  intro h
  unfold reconcileLocked at h
  rcases h.of_bind with h | ⟨r, h⟩
  · unfold reconcileExcuseCoverageForDate at h
    obtain ⟨targets, active, h⟩ := h
    dsimp only [Tx.bind] at h
    split_ifs at h
    · exact h
    · obtain ⟨rows, ids, absences, h⟩ := h
      change Tx.MayRaise (Tx.bind (voidStale _ _) _) at h
      rcases h.of_bind with h | ⟨u, h⟩
      · exact hvoid _ h
      · rcases h.of_bind with h | ⟨created, h⟩
        · exact hcreate _ h
        · exact h
  · exact h

/-- Coverage by date and student, derived from absences and excuses. -/
def coverageRepair : DeferredRepair School Row Failure Unit (Date × ℕ) where
  Inv s := s.Sound
  Cond _ := True
  Good := Maintains
  Right s k := s.CoverageExact k
  Owes p k := ∃ l, Owing p l ∧ ∃ r ∈ l, r.For k
  good_raise _ := trivial
  owes_ended := by
    rintro p k - hend ⟨l, howing, r, hr, -⟩
    cases howing with
    | nothing p => cases hr
    | reconcile now r' k' l h => exact hend
  owes_mayFail := by
    rintro p k - hfail ⟨l, howing, r, hr, -⟩
    cases howing with
    | nothing p => cases hr
    | reconcile now r' k' l h => exact reconcileLocked_not_mayRaise now r'.1 r'.2 hfail
  advance := by
    intro p s hgood hs hcond
    -- A key that is right can only be left wrong by what the rest repairs, and one that is owed
    -- is the next reconciliation or one after it.
    induction p with
    | ret a => exact ⟨hs, trivial, fun k hk => hk⟩
    | raise e => exact ⟨hs, trivial, fun k hk => hk⟩
    | peek q k ih =>
      obtain ⟨hs', hgood', hkeys⟩ := ih (q s) (hgood (q s))
      refine ⟨hs', hgood', fun j hj => hkeys j (.inl ?_)⟩
      rcases hj with hj | ⟨l, howing, r, hr, -⟩
      · exact hj
      · cases howing
        cases hr
    | atomic body k ih =>
      have howed : ∀ j, (∃ l, Owing (Program.atomic body k) l ∧ ∃ r ∈ l, r.For j) →
          ∃ b s', body.eval s = .ok (b, s') ∧
            (s'.CoverageExact j ∨ ∃ l, Owing (k b) l ∧ ∃ r ∈ l, r.For j) := by
        rintro j ⟨l, howing, r, hr, hj⟩
        cases howing with
        | nothing p => cases hr
        | reconcile now r' k' l h =>
          obtain ⟨affected, heval⟩ := eval_reconcileLocked hs.toKeyed now r'.1 r'.2
          refine ⟨affected, _, heval, ?_⟩
          rcases List.mem_cons.mp hr with rfl | hr
          · exact .inl (hs.exact_reconciled now _ _ (.inl ⟨hj.1.symm, hj.2⟩))
          · exact .inr ⟨l, h affected, r, hr, hj⟩
      show (body.outcome k s).2.Sound ∧ Maintains (body.outcome k s).1 ∧ ∀ j,
        _ → (body.outcome k s).2.CoverageExact j ∨
          ∃ l, Owing (body.outcome k s).1 l ∧ ∃ r ∈ l, r.For j
      unfold Tx.outcome
      cases heval : body.eval s with
      | error e =>
        refine ⟨hs, trivial, fun j hj => .inl ?_⟩
        rcases hj with hj | hj
        · exact hj
        · obtain ⟨b, s', h, -⟩ := howed j hj
          rw [heval] at h
          cases h
      | ok r =>
        obtain ⟨b, s'⟩ := r
        obtain ⟨hrest, l, hleaves, howing⟩ := hgood s hs b s' heval
        refine ⟨hleaves.sound, hrest, fun j hj => ?_⟩
        rcases hj with hj | hj
        · exact (hleaves.exact j hj).imp_right fun hr => ⟨l, howing, hr⟩
        · obtain ⟨b', s'', h, hkey⟩ := howed j hj
          rw [heval] at h
          cases h
          exact hkey

theorem maintains_afterMarks (clock : Clock) (x : AttendanceSession)
    (studentIds : Option (List ℕ)) : Maintains (afterMarks clock x studentIds) := by
  unfold afterMarks
  refine (maintains_reconciliation _ _ _).bind fun affected => ?_
  refine Maintains.bind ?_ fun n => trivial
  exact Maintains.of_keeps (recalculate_keeps _ _ _)

theorem owing_afterMarks (clock : Clock) (x : AttendanceSession) (studentIds : Option (List ℕ)) :
    Owing (afterMarks clock x studentIds) [(x.attendanceDate, studentIds)] :=
  .reconcile _ (x.attendanceDate, studentIds) _ [] fun _ => .nothing _

theorem maintains_submitSession (clock : Clock) (sessionId membership : ℕ)
    (marks : List MarkInput) : Maintains (submitSession clock sessionId membership marks) := by
  rintro s hs ⟨x, roster, error⟩ s' h
  have hleaves := submitLocked_leaves hs h
  cases error with
  | some e => exact ⟨trivial, _, hleaves, .nothing _⟩
  | none =>
    refine ⟨(maintains_afterMarks clock x none).bind fun _ => trivial, _, hleaves, ?_⟩
    exact (owing_afterMarks clock x none).bind _

theorem maintains_editSession (clock : Clock) (sessionId membership : ℕ)
    (roles : List SchoolRole) (expectedUpdatedAt : Instant) (marks : List MarkInput)
    (reason : Text) : Maintains (editSession clock sessionId membership roles expectedUpdatedAt
      marks reason) := by
  rintro s hs ⟨x, changes⟩ s' h
  have hleaves := editLocked_leaves hs h
  have hrest : ∀ k : Operation AttendanceSession,
      k = (if changes = [] then pure x else do
        afterMarks clock x (some changes)
        pure x) → Maintains k ∧ ∃ l, s.Leaves s' l ∧ Owing k l := by
    intro k hk
    subst hk
    by_cases hnone : changes = []
    · rw [if_pos hnone] at hleaves ⊢
      exact ⟨trivial, _, hleaves, .nothing _⟩
    · rw [if_neg hnone] at hleaves ⊢
      refine ⟨(maintains_afterMarks clock x (some changes)).bind fun _ => trivial, _, hleaves, ?_⟩
      exact (owing_afterMarks clock x (some changes)).bind _
  exact hrest _ rfl

theorem maintains_correctStudentAttendance (clock : Clock) (sessionId studentId : ℕ)
    (roles : List SchoolRole) (status : String) (reason : Text) (expectedUpdatedAt : Instant) :
    Maintains (correctStudentAttendance clock sessionId studentId roles status reason
      expectedUpdatedAt) := by
  unfold correctStudentAttendance
  split_ifs
  · trivial
  · trivial
  · trivial
  · intro s hs x s' h
    refine ⟨(maintains_afterMarks clock x (some [studentId])).bind fun _ => trivial, _,
      correctLocked_leaves hs h, ?_⟩
    exact (owing_afterMarks clock x (some [studentId])).bind _

theorem maintains_recalculateForSessions (now : ℕ → Date → Instant)
    (sessions : List AttendanceSession) : Maintains (recalculateForSessions now sessions) :=
  .of_keeps (recalculateForSessions_keeps now sessions)

theorem Maintains.atomic {body : Transaction β} {k : β → Operation α}
    (hbody : ∀ s, s.Sound → ∀ b s', body.eval s = .ok (b, s') → s.Leaves s' [])
    (hk : ∀ b, Maintains (k b)) : Maintains (.atomic body k) :=
  fun s hs b s' h => ⟨hk b, [], hbody s hs b s' h, .nothing _⟩

theorem maintains_createExcuse (now : Instant) (reconciledAt : Date → Instant)
    (recalculatedAt : ℕ → Date → Instant) (today : Date) (newId student : ℕ)
    (targets : List TargetInput) (approveImmediately : Bool) :
    Maintains (createExcuse now reconciledAt recalculatedAt today newId student targets
      approveImmediately) := by
  refine Maintains.atomic (fun s hs e s' h => createLocked_leaves hs h) fun e => ?_
  show Maintains (if !approveImmediately then pure e else _)
  split_ifs
  · trivial
  · exact fun covered => (maintains_recalculateForSessions _ _).bind fun _ => trivial

theorem maintains_approveExcuse (now : Instant) (recalculatedAt : ℕ → Date → Instant)
    (excuseId : ℕ) (previewHash : Digest PlanFingerprint) :
    Maintains (approveExcuse now recalculatedAt excuseId previewHash) := by
  refine Maintains.atomic (fun s hs p s' h => ?_) fun p => ?_
  · obtain ⟨e, plan⟩ := p
    exact approveLocked_leaves hs h
  · exact (maintains_recalculateForSessions _ _).bind fun _ => trivial

theorem owing_reconciliations (now : Date → Instant) (student : ℕ) (days : List Date) :
    Maintains (Program.forEach (fun d => do
        let _ ← reconciliation (now d) d (some [student])
        pure ()) days) ∧
      Owing (Program.forEach (fun d => do
        let _ ← reconciliation (now d) d (some [student])
        pure ()) days) (days.map fun d => (d, some [student])) := by
  induction days with
  | nil => exact ⟨trivial, .nothing _⟩
  | cons d days ih =>
    refine ⟨Maintains.bind (Maintains.bind (maintains_reconciliation (now d) d (some [student]))
      fun _ => ?_) fun _ => ih.1, ?_⟩
    · trivial
    exact .reconcile (now d) (d, some [student]) _ _ fun _ => ih.2

theorem maintains_cancelExcuse (now : Instant) (reconciledAt : Date → Instant)
    (recalculatedAt : ℕ → Date → Instant) (excuseId : ℕ) :
    Maintains (cancelExcuse now reconciledAt recalculatedAt excuseId) := by
  rintro s hs ⟨e, active⟩ s' h
  obtain ⟨hmaintains, howing⟩ := owing_reconciliations reconciledAt e.student
    (active.map fun p => p.1.attendanceDate).dedup
  refine ⟨?_, _, cancelLocked_leaves hs h, howing.bind _⟩
  exact hmaintains.bind fun _ => (maintains_recalculateForSessions _ _).bind fun _ => trivial

theorem maintains_startSession (now : Instant) (newId academicYear sectionId : ℕ) (d : Date)
    (period : ℕ) : Maintains (startSession now newId academicYear sectionId d period) := by
  intro existing
  cases existing with
  | some x => exact fun roster => trivial
  | none =>
    show Maintains (Program.bind (getOrRefreshPristineDayContext d) _)
    refine Maintains.bind (.of_keeps (getOrRefreshPristineDayContext_keeps
      (fun s c => rfl) (fun s d snapshot => rfl) d)) fun context => ?_
    refine fun roster => Maintains.atomic (fun s hs inserted s' h => ?_) fun inserted => ?_
    · exact insertSession_leaves hs rfl h
    · cases inserted with
      | true => trivial
      | false =>
        intro winner
        cases winner <;> trivial

theorem maintains_request (r : Request) : Maintains r.operation := by
  have hdiscard : ∀ {α : Type} {p : Operation α}, Maintains p → Maintains p.discard :=
    fun h => h.bind fun _ => trivial
  cases r with
  | startSession => exact hdiscard (maintains_startSession _ _ _ _ _ _)
  | submitSession => exact hdiscard (maintains_submitSession _ _ _ _)
  | editSession => exact hdiscard (maintains_editSession _ _ _ _ _ _ _)
  | correctStudentAttendance =>
    exact hdiscard (maintains_correctStudentAttendance _ _ _ _ _ _ _)
  | createExcuse => exact hdiscard (maintains_createExcuse _ _ _ _ _ _ _ _)
  | updateExcuse =>
    exact hdiscard (Maintains.atomic (fun s hs e s' h => updateLocked_leaves hs h)
      fun _ => trivial)
  | approveExcuse => exact hdiscard (maintains_approveExcuse _ _ _ _)
  | rejectExcuse =>
    exact hdiscard (Maintains.atomic (fun s hs e s' h => rejectLocked_leaves hs h)
      fun _ => trivial)
  | cancelExcuse => exact hdiscard (maintains_cancelExcuse _ _ _ _)
  | updateStudent => exact hdiscard (.of_keeps (updateStudent_keeps (fun s f => rfl) _ _ _ _ _ _))
  | setStudentStatus => exact hdiscard (.of_keeps (statusView_keeps (fun s f => rfl) _ _ _ _ _ _))

/-! ## One request after another -/

/-- Keys and references hold, and every date of every student is exact. -/
def School.Consistent (s : School) : Prop := s.Sound ∧ ∀ k, s.CoverageExact k

theorem School.consistent_empty (registry : Registry) :
    ({ registry := registry } : School).Consistent := by
  refine ⟨⟨⟨List.nodup_nil, List.nodup_nil, List.nodup_nil, ?_, List.nodup_nil, ?_,
    List.nodup_nil, ?_, ?_⟩, ?_⟩, ?_⟩
  · exact fun t ht => (List.not_mem_nil ht).elim
  · exact fun m hm => (List.not_mem_nil hm).elim
  · exact fun c hc => (List.not_mem_nil hc).elim
  · exact fun c c' hc => (List.not_mem_nil hc.1).elim
  · exact fun c hc => (List.not_mem_nil hc.1).elim
  · exact fun k x hx => (List.not_mem_nil hx).elim

theorem School.Consistent.occur {s : School} (hs : s.Consistent) (event : Event) :
    (s.occur event).Consistent := by
  cases event with
  | registry r =>
    have hcore : (s.occur (.registry r)).core = s.core := rfl
    exact ⟨hs.1.of_core hcore, fun k => (hs.2 k).of_core hcore⟩
  | request r =>
    obtain ⟨hsound, -, hexact⟩ := coverageRepair.run (fun _ => True) (fun _ _ => trivial)
      (fun _ _ _ _ _ => trivial) r.operation s (maintains_request r) hs.1 trivial
      fun k => .inl (hs.2 k)
    exact ⟨hsound, hexact⟩

theorem School.consistent_play (registry : Registry) (events : List Event) :
    (School.play { registry := registry } events).Consistent := by
  unfold School.play
  refine List.foldlRecOn events School.occur (School.consistent_empty registry) ?_
  exact fun s hs event _ => hs.occur event

def School.MarkJustified (s : School) (m : AttendanceMark) : Prop :=
  m.status = .absent ∧ ∃ x ∈ s.sessions, x.id = m.session ∧ x.status = .submitted ∧
    ∃ e ∈ s.excuses, e.student = m.student ∧ e.status = .approved ∧
      ∃ t ∈ s.targets, t.excuse = e.id ∧ t.attendanceDate = x.attendanceDate ∧
        t.matchesPeriod x.periodSequence = true

/-- The coverage belongs to an approved excuse of the student of the mark, with a target that
applies to the session of the mark. -/
def School.CoversMark (s : School) (c : AbsenceExcuseCoverage) (m : AttendanceMark) : Prop :=
  s.Active c ∧ c.attendanceSession = m.session ∧ c.student = m.student ∧
    ∃ e ∈ s.excuses, e.id = c.excuse ∧ e.student = m.student ∧ e.status = .approved ∧
      ∃ x ∈ s.sessions, x.id = m.session ∧ ∃ t ∈ s.targets, t.excuse = e.id ∧
        t.attendanceDate = x.attendanceDate ∧ t.matchesPeriod x.periodSequence = true

theorem School.Consistent.covered_iff {s : School} (hs : s.Consistent) {m : AttendanceMark}
    (hm : m ∈ s.marks) : s.Covered m.session m.student ↔ s.MarkJustified m := by
  obtain ⟨x, hx, hid⟩ := hs.1.mark_session m hm
  have hexact := hs.2 (x.attendanceDate, m.student) x hx rfl
  rw [hid] at hexact
  have habsent : s.Absent x.id m.student := ⟨m, hm, hid.symm, rfl, m.status.eq_absent⟩
  refine hexact.trans ⟨?_, ?_⟩
  · rintro ⟨hsub, -, hexc⟩
    exact ⟨m.status.eq_absent, x, hx, hid, hsub, hexc⟩
  · rintro ⟨-, y, hy, hyid, hsub, hexc⟩
    have hyx : y = x := hs.1.session_unique hy hx (hyid.trans hid.symm)
    subst hyx
    exact ⟨hsub, habsent, hexc⟩

theorem School.Consistent.coversMark {s : School} (hs : s.Consistent) {m : AttendanceMark}
    (hm : m ∈ s.marks) {c : AbsenceExcuseCoverage} (hc : s.Active c)
    (hses : c.attendanceSession = m.session) (hst : c.student = m.student) :
    s.CoversMark c m := by
  obtain ⟨x, hx, hid⟩ := hs.1.mark_session m hm
  obtain ⟨⟨y, hy, hyid, hyd, hyp⟩, e, he, heid, hest, happ, t, ht, hte, htd, htm⟩ :=
    hs.1.coverage_backed c hc
  have hyx : y = x := hs.1.session_unique hy hx (hyid.trans (hses.trans hid.symm))
  subst hyx
  exact ⟨hc, hses, hst, e, he, heid, hest.trans hst, happ, y, hy, hid, t, ht, hte,
    htd.trans hyd.symm, hyp ▸ htm⟩

/-- No absence that is justified is left uncovered, and no coverage survives its excuse or its
absence. -/
structure School.CoverageCorrect (s : School) : Prop where
  complete : ∀ m ∈ s.marks, s.MarkJustified m → s.Covered m.session m.student
  backed : ∀ c, s.Active c → ∃ m ∈ s.marks, s.CoversMark c m

theorem School.Consistent.coverageCorrect {s : School} (hs : s.Consistent) :
    s.CoverageCorrect := by
  refine ⟨fun m hm hjust => (hs.covered_iff hm).mpr hjust, fun c hc => ?_⟩
  obtain ⟨x, hx, hid, -⟩ := (hs.1.coverage_backed c hc).session
  have hcov : s.Covered x.id c.student := ⟨c, hc, hid.symm, rfl⟩
  obtain ⟨-, ⟨m, hm, hms, hmst, -⟩, -⟩ :=
    (hs.2 (x.attendanceDate, c.student) x hx rfl).mp hcov
  exact ⟨m, hm, hs.coversMark hm hc (hid.symm.trans hms.symm) hmst.symm⟩

/-- **Exactness of coverage over whole runs.** In every school that events lead to from an empty
one, a mark has an active coverage exactly when it is an absence in a submitted session to which
the targets of an approved excuse of the student apply; it then has exactly one, of such an
excuse; and no active coverage is of anything else. -/
theorem School.play_coverage_exact (registry : Registry) (events : List Event) :
    let s := School.play { registry := registry } events
    (∀ m ∈ s.marks,
      (s.Covered m.session m.student ↔ s.MarkJustified m) ∧
      (s.MarkJustified m → ∃ c, s.CoversMark c m ∧ ∀ c', s.Active c' →
        c'.attendanceSession = m.session → c'.student = m.student → c' = c)) ∧
    ∀ c, s.Active c → ∃ m ∈ s.marks, s.CoversMark c m := by
  intro s
  have hcons : s.Consistent := School.consistent_play registry events
  refine ⟨fun m hm => ⟨hcons.covered_iff hm, fun hjust => ?_⟩, fun c hc => ?_⟩
  · obtain ⟨c, hc, hses, hst⟩ := (hcons.covered_iff hm).mpr hjust
    refine ⟨c, hcons.coversMark hm hc hses hst, fun c' hc' hses' hst' => ?_⟩
    exact hcons.1.coverage_key c' c hc' hc (hses'.trans hses.symm) (hst'.trans hst.symm)
  · exact hcons.coverageCorrect.backed c hc

/-- **Exactness of coverage beside each other.** From every school that events lead to, any
requests run statement by statement beside each other end with coverage correct, when every
commit happens while what its request has read since its previous commit still stands. -/
theorem validated_coverageCorrect (registry : Registry) (events : List Event)
    (rs : List Request) (sched : List ℕ) (c : Config School Row Failure Unit)
    (hexec : (Config.start (School.play { registry := registry } events)
      (rs.map Request.operation)).exec sched = some c)
    (hval : (Config.start (School.play { registry := registry } events)
      (rs.map Request.operation)).ValidatedRun (fun _ => True) sched)
    (hfin : c.finished = true) : c.store.CoverageCorrect := by
  have hstart := School.consistent_play registry events
  have hgood : ∀ p ∈ rs.map Request.operation, coverageRepair.Good p := by
    intro p hp
    obtain ⟨r, -, rfl⟩ := List.mem_map.mp hp
    exact maintains_request r
  have hend := coverageRepair.validated (rs.map Request.operation) _ hgood hstart.1 hstart.2 sched
    hexec hval hfin
  exact School.Consistent.coverageCorrect hend

def oneSectionRegistry : Registry where
  memberships := [⟨1, "معلم", none, [.teacher]⟩]
  academicYears := [⟨1, 600, 900, .active, none⟩]
  weekDays := [⟨0, true, some 1⟩]
  bellSchedules := [{ id := 1, name := "الدوام" }]
  bellPeriods := [⟨1, 1, "الأولى", 25200, 27900, true⟩]
  students := [⟨1, "", "", none, "طالب", none, .active, none, none, "", "", ""⟩]
  enrollments := [⟨1, 1, 1, 1, 1, .active, 600, none⟩]

def fixedClock (t : Instant) : Clock where
  now := t
  savedAt := t
  reconciledAt := fun _ => t
  recalculatedAt := fun _ _ => t

def excusedTwice : List Event :=
  [ .request (.startSession 1 1 1 1 700 1),
    .request (.createExcuse 2 (fun _ => 2) (fun _ _ => 2) 700 1 1 [⟨700, none⟩] false),
    .request (.createExcuse 3 (fun _ => 3) (fun _ _ => 3) 700 2 1 [⟨700, none⟩] false),
    .request (.approveExcuse 4 (fun _ _ => 4) 1 ⟨⟨1, [(700, none)], []⟩⟩),
    .request (.approveExcuse 5 (fun _ _ => 5) 2 ⟨⟨2, [(700, none)], []⟩⟩),
    .request (.submitSession (fixedClock 6) 1 1 [⟨1, "ABSENT"⟩]) ]

def cancelAndEdit : List Request :=
  [ .cancelExcuse 7 (fun _ => 7) (fun _ _ => 7) 1,
    .editSession (fixedClock 8) 1 1 [.teacher] 6 [] [] ]

def cancelAndEditStart : Config School Row Failure Unit :=
  Config.start (School.play { registry := oneSectionRegistry } excusedTwice)
    (cancelAndEdit.map Request.operation)

/-- One request after the other. -/
theorem validated_coverageCorrect_serial : ∃ c,
    cancelAndEditStart.exec (List.replicate 38 0 ++ List.replicate 39 1) = some c ∧
      c.store.CoverageCorrect := by
  have hfirst : (cancelAndEditStart.exec (List.replicate 38 0)).isSome = true := by
    decide +kernel
  obtain ⟨c₁, hc₁⟩ := Option.isSome_iff_exists.mp hfirst
  have hlast : (cancelAndEditStart.exec (List.replicate 38 0 ++ List.replicate 39 1)).map
      (fun c => c.finished) = some true := by decide +kernel
  obtain ⟨c, hc, hfin⟩ := Option.map_eq_some_iff.mp hlast
  refine ⟨c, hc, validated_coverageCorrect oneSectionRegistry excusedTwice cancelAndEdit _ c hc ?_
    hfin⟩
  exact Config.validatedRun_serial 38 39 hc₁ (Config.along_of_forall (fun _ => trivial) _ _)

/-- The cancellation reconciles: it finds the second excuse and the absence. The edit removes the
absence and reconciles: it reads the active coverages, of which there is none, and waits for the
excuse. The cancellation inserts its coverage; nobody looks at it again. -/
def cancelBesideEdit : List ℕ :=
  List.replicate 20 0 ++ List.replicate 17 1 ++ List.replicate 18 0 ++ List.replicate 18 1

theorem cancelBesideEdit_not_coverageCorrect : ∃ c,
    cancelAndEditStart.exec cancelBesideEdit = some c ∧ c.finished = true ∧
      ¬ c.store.CoverageCorrect := by
  have hfacts : (cancelAndEditStart.exec cancelBesideEdit).map (fun c =>
      (c.finished, c.store.marks, c.store.coverages.any fun c => c.status = .active)) =
      some (true, [], true) := by decide +kernel
  obtain ⟨c, hc, hfacts⟩ := Option.map_eq_some_iff.mp hfacts
  simp only [Prod.mk.injEq, List.any_eq_true, decide_eq_true_eq] at hfacts
  obtain ⟨hfin, hmarks, cov, hcov, hact⟩ := hfacts
  refine ⟨c, hc, hfin, fun hcorrect => ?_⟩
  obtain ⟨m, hm, -⟩ := hcorrect.backed cov ⟨hcov, hact⟩
  rw [hmarks] at hm
  cases hm

end SchoolPlatform
