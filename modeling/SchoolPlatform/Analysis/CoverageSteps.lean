import SchoolPlatform.Analysis.CoverageUpdates

/-!
# What each transaction on a session leaves to be repaired

A transaction of an operation keeps the school sound, and the dates of students it does not leave
exact are those the rest of the operation reconciles (`School.Leaves`).
-/

namespace SchoolPlatform

open ReadCommitted

variable {x : AttendanceSession} {marks : List MarkInput} {clock : Clock}
  {sessionId membership : ℕ} {roster : List RosterStudent} {expectedUpdatedAt : Instant}
  {studentId : ℕ} {status : String}

/-- A reconciliation to come: its date and the students it is asked for. -/
abbrev Repair := Date × Option (List ℕ)

def Repair.For (r : Repair) (k : Date × ℕ) : Prop := r.1 = k.1 ∧ ReconcilesStudent r.2 k.2

/-- The step keeps the school sound, and what is exact stays so or is repaired by one of `l`. -/
structure School.Leaves (s s' : School) (l : List Repair) : Prop where
  sound : s'.Sound
  exact : ∀ k, s.CoverageExact k → s'.CoverageExact k ∨ ∃ r ∈ l, r.For k

variable {s s' : School}

theorem School.Sound.leaves_refl (hs : s.Sound) : s.Leaves s [] :=
  ⟨hs, fun _ h => .inl h⟩

theorem School.Leaves.trans {s'' : School} {l : List Repair} (h : s.Leaves s' [])
    (h' : s'.Leaves s'' l) : s.Leaves s'' l :=
  ⟨h'.sound, fun k hk => h'.exact k ((h.exact k hk).resolve_right (by simp))⟩

theorem School.Sound.leaves_of_core (hs : s.Sound) (h : s'.core = s.core) : s.Leaves s' [] :=
  ⟨hs.of_core h, fun _ hk => .inl (hk.of_core h)⟩

theorem eval_orRaise_ok {α : Type} {r : Except ApiError α} {a : α} :
    (orRaise r).eval s = .ok (a, s') ↔ r = .ok a ∧ s' = s := by
  cases r with
  | ok b =>
    show Except.ok (b, s) = Except.ok (a, s') ↔ _
    simp [eq_comm]
  | error e =>
    show Except.error (Failure.api e) = Except.ok (a, s') ↔ _
    simp

theorem eval_ite_raiseApi_ok {α : Type} {c : Prop} [Decidable c] {e : ApiError}
    {t : Transaction α} {r : α × School} :
    (if c then raiseApi e else t).eval s = .ok r ↔ ¬ c ∧ t.eval s = .ok r := by
  by_cases hc : c <;> simp [hc]

theorem eval_ask_ok {α : Type} {q : School → α} {a : α} :
    (ask q : Transaction α).eval s = .ok (a, s') ↔ a = q s ∧ s' = s := by
  simp [eq_comm]

theorem eval_getSessionForUpdate_ok {id : ℕ} :
    (getSessionForUpdate id).eval s = .ok (x, s') ↔ s.session? id = some x ∧ s' = s := by
  unfold getSessionForUpdate
  simp only [Tx.bind_eq, Tx.eval_bind, Tx.eval_selectForUpdate]
  cases s.session? id with
  | none => simp
  | some y => simp [eq_comm]

theorem eval_getExcuseForUpdate_ok {id : ℕ} {related : AbsenceExcuse → List Row}
    {e : AbsenceExcuse} :
    (getExcuseForUpdate id related).eval s = .ok (e, s') ↔ s.excuse? id = some e ∧ s' = s := by
  unfold getExcuseForUpdate
  simp only [Tx.bind_eq, Tx.eval_bind, Tx.eval_selectForUpdate]
  cases s.excuse? id with
  | none => simp
  | some y => simp [eq_comm]

@[simp] theorem eval_saveSession (x : AttendanceSession) :
    (saveSession x).eval s = .ok ((), s.putSession x) := rfl

theorem validateMarks_nodup {rosterIds seen : List ℕ} {l : List ℕ}
    (h : validateMarks rosterIds seen marks = .ok l) : l.Nodup ∧ ∀ x ∈ l, x ∉ seen := by
  induction marks generalizing seen l with
  | nil =>
    unfold validateMarks at h
    cases h
    simp
  | cons mark marks ih =>
    unfold validateMarks at h
    split_ifs at h with hseen hroster hstatus
    split at h
    · rename_i rest hrest
      cases h
      obtain ⟨hnodup, hnot⟩ := ih hrest
      refine ⟨List.nodup_cons.mpr ⟨fun hm => hnot _ hm List.mem_cons_self, hnodup⟩, ?_⟩
      intro x hx
      rcases List.mem_cons.mp hx with rfl | hx
      · exact hseen
      · exact fun hm => hnot x hx (List.mem_cons_of_mem _ hm)
    · cases h

/-- What a submission checks: the session is not submitted, its roster is the one it was started
with, and the marks are of students of the roster. -/
structure School.Submits (s : School) (sessionId : ℕ) (marks : List MarkInput)
    (x : AttendanceSession) (validated : List ℕ) : Prop where
  found : s.session? sessionId = some x
  status : x.status ≠ .submitted
  roster : rosterFingerprint (s.getRoster x.sectionId x.academicYear) = x.rosterFingerprint
  marks : validateMarks ((s.getRoster x.sectionId x.academicYear).map fun r => r.studentId) []
    marks = .ok validated

theorem eval_submitLocked_iff :
    (submitLocked clock sessionId membership marks).eval s = .ok ((x, roster, none), s') ↔
      ∃ y validated, s.Submits sessionId marks y validated ∧
        roster = s.getRoster y.sectionId y.academicYear ∧ x = y.submit clock membership ∧
        s' = (s.replaceMarks y.id validated).putSession x := by
  unfold submitLocked
  simp only [Tx.bind_eq, Tx.eval_bind_ok, eval_getSessionForUpdate_ok]
  constructor
  · rintro ⟨y, s₁, ⟨hy, rfl⟩, h⟩
    split_ifs at h with hsub
    · simp [Tx.eval_bind] at h
    · simp only [Tx.eval_bind_ok, eval_ask_ok] at h
      obtain ⟨roster', s₂, ⟨rfl, rfl⟩, h⟩ := h
      split_ifs at h with hfp
      · simp [Tx.eval_bind] at h
      · simp only [Tx.eval_bind_ok, eval_orRaise_ok] at h
        obtain ⟨validated, s₃, ⟨hvalid, rfl⟩, u₁, s₄, hset, u₂, s₅, hsave, u₃, s₆, href, h⟩ := h
        cases hset
        cases hsave
        cases href
        cases h
        exact ⟨y, validated, ⟨hy, hsub, not_not.mp hfp, hvalid⟩, rfl, rfl, rfl⟩
  · rintro ⟨y, validated, ⟨hy, hsub, hfp, hvalid⟩, rfl, rfl, rfl⟩
    refine ⟨y, s, ⟨hy, rfl⟩, ?_⟩
    rw [if_neg hsub]
    simp only [Tx.eval_bind_ok, eval_ask_ok]
    refine ⟨_, s, ⟨rfl, rfl⟩, ?_⟩
    rw [if_neg (not_not.mpr hfp)]
    simp only [Tx.eval_bind_ok, eval_orRaise_ok]
    exact ⟨validated, s, ⟨hvalid, rfl⟩, (), _, rfl, (), _, rfl, (), _, rfl, rfl⟩

theorem eval_submitLocked_refused {e : ApiError}
    (h : (submitLocked clock sessionId membership marks).eval s = .ok ((x, roster, some e), s')) :
    ∃ y, s.session? sessionId = some y ∧ y.SameSlot x ∧ x.status = y.status ∧
      s' = s.putSession x := by
  unfold submitLocked at h
  simp only [Tx.bind_eq, Tx.eval_bind_ok, eval_getSessionForUpdate_ok] at h
  obtain ⟨y, s₁, ⟨hy, rfl⟩, h⟩ := h
  split_ifs at h with hsub
  · simp [Tx.eval_bind] at h
  · simp only [Tx.eval_bind_ok, eval_ask_ok] at h
    obtain ⟨roster', s₂, ⟨rfl, rfl⟩, h⟩ := h
    split_ifs at h with hfp
    · simp only [Tx.eval_bind, eval_saveSession, Tx.pure_eq, Tx.eval_ret, Except.ok.injEq,
        Prod.mk.injEq] at h
      obtain ⟨⟨rfl, -⟩, rfl⟩ := h
      exact ⟨y, hy, ⟨rfl, rfl, rfl, rfl⟩, rfl, rfl⟩
    · simp only [Tx.eval_bind_ok, eval_orRaise_ok] at h
      obtain ⟨validated, s₃, -, h⟩ := h
      simp at h

theorem submitLocked_leaves (hs : s.Sound) {error : Option ApiError}
    (h : (submitLocked clock sessionId membership marks).eval s = .ok ((x, roster, error), s')) :
    s.Leaves s' (if error = none then [(x.attendanceDate, none)] else []) := by
  cases error with
  | some e =>
    obtain ⟨y, hy, hslot, hstatus, rfl⟩ := eval_submitLocked_refused h
    obtain ⟨hmem, -⟩ := (hs.session?_eq_some _ _).mp hy
    exact ⟨hs.putSession hmem hslot,
      fun k hk => .inl (hk.putSession hs.toKeyed hmem hslot (.inr hstatus))⟩
  | none =>
    obtain ⟨y, validated, hsubmits, -, rfl, rfl⟩ := eval_submitLocked_iff.mp h
    obtain ⟨hmem, -⟩ := (hs.session?_eq_some _ _).mp hsubmits.found
    have hmarks : (s.replaceMarks y.id validated).Sound :=
      hs.replaceMarks ⟨y, hmem, rfl⟩ (validateMarks_nodup hsubmits.marks).1
    have hslot : y.SameSlot (y.submit clock membership) := ⟨rfl, rfl, rfl, rfl⟩
    refine ⟨hmarks.putSession hmem hslot, fun k hk => ?_⟩
    by_cases hd : y.attendanceDate = k.1
    · exact .inr ⟨(y.attendanceDate, none), List.mem_singleton.mpr rfl, hd, trivial⟩
    · -- Another date: none of its sessions is the one submitted.
      have hold : (s.replaceMarks y.id validated).CoverageExact k :=
        hk.replaceMarks hs.toKeyed hmem fun h => (hd h).elim
      exact .inl (hold.putSession hmarks.toKeyed hmem hslot (.inl hd))

theorem mem_changedStudents (old new : List ℕ) (student : ℕ) :
    student ∉ changedStudents old new ↔ (student ∈ old ↔ student ∈ new) := by
  unfold changedStudents
  simp only [List.mem_append, List.mem_filter, decide_eq_true_eq]
  tauto

/-- What an edit checks: the session is submitted, the caller may edit it now and has seen its
last version, and the marks are of students of the roster. -/
structure School.Edits (s : School) (clock : Clock) (sessionId membership : ℕ)
    (roles : List SchoolRole) (expectedUpdatedAt : Instant) (marks : List MarkInput)
    (reason : Text) (x : AttendanceSession) (validated : List ℕ) : Prop where
  found : s.session? sessionId = some x
  status : x.status = .submitted
  allowed : canEdit s.registry.settings clock.now x membership roles = .ok ()
  reason : ¬ (isAdminCorrection roles = true ∧ Text.strip reason = [])
  current : requireCurrentSession x expectedUpdatedAt = .ok ()
  marks : validateMarks ((s.getRoster x.sectionId x.academicYear).map fun r => r.studentId) []
    marks = .ok validated

def School.markedStudents (s : School) (session : ℕ) : List ℕ :=
  (s.marksOf session).map fun m => m.student

theorem eval_editLocked_iff {roles : List SchoolRole} {reason : Text} {changes : List ℕ} :
    (editLocked clock sessionId membership roles expectedUpdatedAt marks reason).eval s =
        .ok ((x, changes), s') ↔
      ∃ y validated, s.Edits clock sessionId membership roles expectedUpdatedAt marks reason y
          validated ∧
        changes = changedStudents (s.markedStudents y.id) validated ∧
        ((changes = [] ∧ x = y ∧ s' = s) ∨
          (changes ≠ [] ∧ x = y.touch clock.savedAt ∧
            s' = (s.replaceMarks y.id validated).putSession x)) := by
  unfold editLocked
  simp only [Tx.bind_eq, Tx.eval_bind_ok, eval_getSessionForUpdate_ok, eval_ite_raiseApi_ok,
    eval_ask_ok, eval_orRaise_ok]
  constructor
  · rintro ⟨y, s₁, ⟨hy, rfl⟩, hsub, settings, s₂, ⟨rfl, rfl⟩, u, s₃, ⟨hcan, rfl⟩, hreason, h⟩
    obtain ⟨u', s₄, ⟨hcur, rfl⟩, roster, s₅, ⟨rfl, rfl⟩, validated, s₆, ⟨hvalid, rfl⟩, h⟩ := h
    obtain ⟨old, s₇, ⟨rfl, rfl⟩, h⟩ := h
    refine ⟨y, validated, ⟨hy, not_not.mp hsub, hcan, hreason, hcur, hvalid⟩, ?_⟩
    split_ifs at h with hnone
    · simp only [Tx.pure_eq, Tx.eval_ret, Except.ok.injEq, Prod.mk.injEq] at h
      obtain ⟨⟨rfl, rfl⟩, rfl⟩ := h
      exact ⟨hnone.symm, .inl ⟨rfl, rfl, rfl⟩⟩
    · simp only [Tx.eval_bind, Tx.eval_update, eval_saveSession, eval_checkReferences,
        Tx.pure_eq, Tx.eval_ret, Except.ok.injEq, Prod.mk.injEq] at h
      obtain ⟨⟨rfl, rfl⟩, rfl⟩ := h
      exact ⟨rfl, .inr ⟨hnone, rfl, rfl⟩⟩
  · rintro ⟨y, validated, ⟨hy, hsub, hcan, hreason, hcur, hvalid⟩, rfl, h⟩
    refine ⟨y, s, ⟨hy, rfl⟩, not_not.mpr hsub, _, s, ⟨rfl, rfl⟩, (), s, ⟨hcan, rfl⟩, hreason, (),
      s, ⟨hcur, rfl⟩, _, s, ⟨rfl, rfl⟩, validated, s, ⟨hvalid, rfl⟩, _, s, ⟨rfl, rfl⟩, ?_⟩
    unfold School.markedStudents at h
    rcases h with ⟨hnone, rfl, rfl⟩ | ⟨hnone, rfl, rfl⟩
    · rw [if_pos hnone]
      unfold School.markedStudents
      rw [hnone]
      rfl
    · rw [if_neg hnone]
      rfl

theorem editLocked_leaves (hs : s.Sound) {roles : List SchoolRole} {reason : Text}
    {changes : List ℕ}
    (h : (editLocked clock sessionId membership roles expectedUpdatedAt marks reason).eval s = .ok
      ((x, changes), s')) :
    s.Leaves s' (if changes = [] then [] else [(x.attendanceDate, some changes)]) := by
  obtain ⟨y, validated, hedits, rfl, h⟩ := eval_editLocked_iff.mp h
  obtain ⟨hmem, -⟩ := (hs.session?_eq_some _ _).mp hedits.found
  rcases h with ⟨hnone, rfl, rfl⟩ | ⟨hnone, rfl, rfl⟩
  · rw [if_pos hnone]
    exact hs.leaves_refl
  · rw [if_neg hnone]
    have hmarks := hs.replaceMarks ⟨y, hmem, rfl⟩ (validateMarks_nodup hedits.marks).1
    have hslot : y.SameSlot (y.touch clock.savedAt) := ⟨rfl, rfl, rfl, rfl⟩
    refine ⟨hmarks.putSession hmem hslot, fun k hk => ?_⟩
    by_cases hd : y.attendanceDate = k.1 ∧
        k.2 ∈ changedStudents (s.markedStudents y.id) validated
    · exact .inr ⟨_, List.mem_singleton.mpr rfl, hd.1, hd.2⟩
    · have hexact := hk.replaceMarks hs.toKeyed hmem fun hyd =>
        (mem_changedStudents _ _ _).mp fun hch => hd ⟨hyd, hch⟩
      exact .inl (hexact.putSession hmarks.toKeyed hmem hslot (.inr rfl))

/-- What a correction checks, the caller's rights and the reason apart. -/
structure School.Corrects (s : School) (sessionId studentId : ℕ) (status : String)
    (expectedUpdatedAt : Instant) (x : AttendanceSession) : Prop where
  found : s.session? sessionId = some x
  submitted : x.status = .submitted
  belongs : ((s.enrollmentsOnDateIn x.attendanceDate x.sectionId).any fun e =>
      e.student = studentId ∧ e.academicYear = x.academicYear) = true ∨
    ((s.markOf x.id studentId).isSome ∧ status = presentText)
  changes : (if (s.markOf x.id studentId).isSome then AttendanceMarkStatus.absent.text
    else presentText) ≠ status
  current : requireCurrentSession x expectedUpdatedAt = .ok ()

theorem eval_correctLocked_iff :
    (correctLocked clock sessionId studentId status expectedUpdatedAt).eval s = .ok (x, s') ↔
      ∃ y, s.Corrects sessionId studentId status expectedUpdatedAt y ∧
        x = y.touch clock.savedAt ∧
        s' = (s.setMark y.id studentId status).putSession x := by
  unfold correctLocked
  simp only [Tx.bind_eq, Tx.eval_bind_ok, eval_getSessionForUpdate_ok, eval_ite_raiseApi_ok,
    eval_ask_ok, eval_orRaise_ok]
  constructor
  · rintro ⟨y, s₁, ⟨hy, rfl⟩, hsub, mark, s₂, ⟨rfl, rfl⟩, enrolled, s₃, ⟨rfl, rfl⟩, h⟩
    obtain ⟨hbelongs, hsame, u, s₄, ⟨hcur, rfl⟩, u₁, s₅, hset, u₂, s₆, hsave, u₃, s₇, href, h⟩ := h
    cases hset
    cases hsave
    cases href
    cases h
    refine ⟨y, ⟨hy, not_not.mp hsub, ?_, hsame, hcur⟩, rfl, rfl⟩
    by_contra hnot
    push Not at hnot
    exact hbelongs ⟨by simpa using hnot.1, fun h => hnot.2 h.1 h.2⟩
  · rintro ⟨y, ⟨hy, hsub, hbelongs, hsame, hcur⟩, rfl, rfl⟩
    refine ⟨y, s, ⟨hy, rfl⟩, not_not.mpr hsub, _, s, ⟨rfl, rfl⟩, _, s, ⟨rfl, rfl⟩, ?_, hsame, (),
      s, ⟨hcur, rfl⟩, (), _, rfl, (), _, rfl, (), _, rfl, rfl⟩
    rintro ⟨hnot, hnot'⟩
    rcases hbelongs with h | h
    · rw [h] at hnot
      cases hnot
    · exact hnot' h

theorem School.Corrects.free (h : s.Corrects sessionId studentId status expectedUpdatedAt x)
    (hstatus : status = AttendanceMarkStatus.absent.text) : s.markOf x.id studentId = none := by
  by_contra hsome
  have hchanges := h.changes
  rw [if_pos (Option.isSome_iff_ne_none.mpr hsome)] at hchanges
  exact hchanges hstatus.symm

theorem School.setMark_eq (s : School) (session student : ℕ) (status : String) :
    ∃ marks, s.setMark session student status = { s with marks := marks } := by
  unfold School.setMark
  split
  · exact ⟨_, rfl⟩
  · exact ⟨_, rfl⟩

theorem School.setMark_sessions (session student : ℕ) (status : String) :
    (s.setMark session student status).sessions = s.sessions := by
  obtain ⟨marks, h⟩ := s.setMark_eq session student status
  rw [h]

theorem correctLocked_leaves (hs : s.Sound)
    (h : (correctLocked clock sessionId studentId status expectedUpdatedAt).eval s = .ok (x, s')) :
    s.Leaves s' [(x.attendanceDate, some [studentId])] := by
  obtain ⟨y, hcorrects, rfl, rfl⟩ := eval_correctLocked_iff.mp h
  obtain ⟨hmem, -⟩ := (hs.session?_eq_some _ _).mp hcorrects.found
  have hmarks := hs.setMark ⟨y, hmem, rfl⟩ hcorrects.free
  have hmem' : y ∈ (s.setMark y.id studentId status).sessions :=
    s.setMark_sessions y.id studentId status ▸ hmem
  have hslot : y.SameSlot (y.touch clock.savedAt) := ⟨rfl, rfl, rfl, rfl⟩
  refine ⟨hmarks.putSession hmem' hslot, fun k hk => ?_⟩
  by_cases hd : y.attendanceDate = k.1 ∧ k.2 = studentId
  · exact .inr ⟨_, List.mem_singleton.mpr rfl, hd.1, List.mem_singleton.mpr hd.2⟩
  · have hexact := hk.setMark hs.toKeyed hmem status hd
    exact .inl (hexact.putSession hmarks.toKeyed hmem' hslot (.inr rfl))

theorem eval_insertSession_ok {inserted : Bool}
    (h : (insertSession x).eval s = .ok (inserted, s')) :
    s' = s ∨ (s' = s.addSession x ∧ (∀ y ∈ s.sessions, y.id ≠ x.id) ∧
      ∀ y ∈ s.sessions, (y.sectionId, y.attendanceDate, y.periodSequence) ≠
        (x.sectionId, x.attendanceDate, x.periodSequence)) := by
  unfold insertSession at h
  simp only [Tx.bind_eq, Tx.eval_bind_ok, Tx.eval_lockRows, eval_ask_ok, Except.ok.injEq,
    Prod.mk.injEq] at h
  obtain ⟨u, s₁, ⟨-, rfl⟩, taken, s₂, ⟨rfl, rfl⟩, h⟩ := h
  split_ifs at h with htaken
  · simp only [Tx.pure_eq, Tx.eval_ret, Except.ok.injEq, Prod.mk.injEq] at h
    exact .inl h.2.symm
  · simp only [Tx.eval_bind, Tx.eval_update, eval_checkReferences, Tx.pure_eq, Tx.eval_ret,
      Except.ok.injEq, Prod.mk.injEq] at h
    obtain ⟨-, rfl⟩ := h
    rw [ne_eq, not_not, Option.or_eq_none_iff] at htaken
    obtain ⟨hslot, hfree⟩ := htaken
    unfold School.session? at hfree
    unfold School.sessionAt at hslot
    simp only [List.find?_eq_none, decide_eq_true_eq] at hfree hslot
    refine .inr ⟨rfl, hfree, fun y hy heq => hslot y hy ?_⟩
    simpa only [Prod.mk.injEq] using heq

theorem insertSession_leaves (hs : s.Sound) {inserted : Bool} (hx : x.status = .inProgress)
    (h : (insertSession x).eval s = .ok (inserted, s')) : s.Leaves s' [] := by
  rcases eval_insertSession_ok h with rfl | ⟨rfl, hfree, hslot⟩
  · exact hs.leaves_refl
  · exact ⟨hs.addSession hfree hslot, fun k hk => .inl (hk.addSession hs hfree hx)⟩

end SchoolPlatform
