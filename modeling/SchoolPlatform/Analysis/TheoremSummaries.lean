import SchoolPlatform.Analysis.SummaryRepair

/-!
# Daily summaries equal the marks

Requests on attendance, transfers and changes of status, one after another, keep every row of
the daily summaries equal to what it counts, as long as no submission, edit or correction leaves
a student with a row out of the sight of its recalculation (`School.play_allRowsRight`). A
transfer on the day of the session is such a case (`transferThenEdit_not_allRowsRight`).
-/

/-! ## Daily summaries and requests beside each other -/

namespace SchoolPlatform

open ReadCommitted

def School.ChangesMarksOf (s : School) (sectionId : ℕ) (d : Date) (r : Request) : Prop :=
  ∃ x ∈ s.sessions, r.sessionId? = some x.id ∧ x.sectionId = sectionId ∧ x.attendanceDate = d

/-- **Rows under concurrency.** From every school that events lead to and whose rows of a section
and date are right, requests on sessions of that section and date run statement by statement
beside each other end with those rows right, when every commit happens while what its request has
read since its previous commit still stands, and the rows there are then are of students that a
recalculation looks at. -/
theorem validated_rowsRight (registry : Registry) (events : List Event) (sectionId : ℕ) (d : Date)
    (rs : List Request)
    (hrs : ∀ r ∈ rs, (School.play { registry := registry } events).ChangesMarksOf sectionId d r)
    (hright : (School.play { registry := registry } events).RowsRight sectionId d)
    (sched : List ℕ) (c : Config School Row Failure Unit)
    (hexec : (Config.start (School.play { registry := registry } events)
      (rs.map Request.operation)).exec sched = some c)
    (hval : (Config.start (School.play { registry := registry } events)
      (rs.map Request.operation)).ValidatedRun (fun s => s.RowsRecounted sectionId d) sched)
    (hfin : c.finished = true) : c.store.RowsRight sectionId d := by
  have hsound := (School.consistent_play registry events).1
  generalize School.play { registry := registry } events = s at hrs hright hexec hval hsound
  let ids := (s.sessions.filter fun x => x.sectionId = sectionId ∧ x.attendanceDate = d).map
    fun x => x.id
  have hupheld : s.Upheld sectionId d ids := by
    refine ⟨hsound, fun x hx hid => ?_, fun _ => hright⟩
    obtain ⟨y, hy, hyx⟩ := List.mem_map.mp hid
    obtain ⟨hy, hslot⟩ := List.mem_filter.mp hy
    have hsame : y = x := hsound.session_unique hy hx hyx
    subst hsame
    simpa using hslot
  have hgood : ∀ p ∈ rs.map Request.operation, (summaryRepair sectionId d ids).Good p := by
    intro p hp
    obtain ⟨r, hr, rfl⟩ := List.mem_map.mp hp
    obtain ⟨x, hx, hrx, hslot⟩ := hrs r hr
    refine upkeep_request r hrx (List.mem_map.mpr ⟨x, List.mem_filter.mpr ⟨hx, ?_⟩, rfl⟩)
    simpa using hslot
  have hend := (summaryRepair sectionId d ids).validated (rs.map Request.operation) s hgood
    hupheld (fun _ => hright) sched hexec hval hfin
  exact hend.2 ()

def twoPeriodRegistry : Registry :=
  { oneSectionRegistry with
    bellPeriods := [⟨1, 1, "الأولى", 25200, 27900, true⟩, ⟨1, 2, "الثانية", 27900, 30600, true⟩] }

def twoSessionsOpen : List Event :=
  [ .request (.startSession 1 1 1 1 700 1),
    .request (.startSession 2 2 1 1 700 2) ]

def submitBoth : List Request :=
  [ .submitSession (fixedClock 3) 1 1 [⟨1, "ABSENT"⟩],
    .submitSession (fixedClock 4) 2 1 [⟨1, "ABSENT"⟩] ]

def submitBothStart : Config School Row Failure Unit :=
  Config.start (School.play { registry := twoPeriodRegistry } twoSessionsOpen)
    (submitBoth.map Request.operation)

/-- One submission after the other. -/
theorem validated_rowsRight_serial : ∃ c,
    submitBothStart.exec (List.replicate 36 0 ++ List.replicate 29 1) = some c ∧
      c.store.RowsRight 1 700 := by
  have hfirst : (submitBothStart.exec (List.replicate 36 0)).isSome = true := by decide +kernel
  obtain ⟨c₁, hc₁⟩ := Option.isSome_iff_exists.mp hfirst
  have hlast : (submitBothStart.exec (List.replicate 36 0 ++ List.replicate 29 1)).map
      (fun c => c.finished) = some true := by decide +kernel
  obtain ⟨c, hc, hfin⟩ := Option.map_eq_some_iff.mp hlast
  have halong : submitBothStart.Along (fun s => s.RowsRecounted 1 700)
      (List.replicate 36 0 ++ List.replicate 29 1) := by decide +kernel
  have hsame : ∀ r ∈ submitBoth, (School.play { registry := twoPeriodRegistry }
      twoSessionsOpen).ChangesMarksOf 1 700 r := by
    intro r hr
    simp only [submitBoth, List.mem_cons, List.not_mem_nil, or_false] at hr
    rcases hr with rfl | rfl <;> (unfold School.ChangesMarksOf; decide +kernel)
  have hright : (School.play { registry := twoPeriodRegistry } twoSessionsOpen).RowsRight 1 700 := by
    decide +kernel
  refine ⟨c, hc, validated_rowsRight twoPeriodRegistry twoSessionsOpen 1 700 submitBoth hsame hright
    _ c hc ?_ hfin⟩
  exact Config.validatedRun_serial 36 29 hc₁ halong

/-- The first submission reads its counters and is about to write them when the second one is
made from its first statement to its last. -/
def submitBesideSubmit : List ℕ :=
  List.replicate 22 0 ++ List.replicate 36 1 ++ List.replicate 7 0

theorem submitBesideSubmit_not_rowsRight : ∃ c,
    submitBothStart.exec submitBesideSubmit = some c ∧ c.finished = true ∧
      ¬ c.store.RowsRight 1 700 := by
  have hfacts : (submitBothStart.exec submitBesideSubmit).map (fun c =>
      (c.finished, decide (c.store.RowsRight 1 700))) = some (true, false) := by decide +kernel
  obtain ⟨c, hc, hfacts⟩ := Option.map_eq_some_iff.mp hfacts
  simp only [Prod.mk.injEq, decide_eq_false_iff_not] at hfacts
  exact ⟨c, hc, hfacts⟩

/-! ## Daily summaries and requests one after another -/

variable {s s' : School}

def School.AllRowsRight (s : School) : Prop := ∀ r ∈ s.summaries, s.RowRight r

instance (s : School) : Decidable s.AllRowsRight :=
  inferInstanceAs (Decidable (∀ r ∈ s.summaries, s.RowRight r))

/-- The rows after a recalculation of a section and date: rows that are right, and old rows. With
a submitted session an old row of the date is of a student the recalculation does not look at. -/
structure School.Recalculated (s s' : School) (sectionId : ℕ) (d : Date) : Prop where
  core : s'.core = s.core
  rows : ∀ r ∈ s'.summaries, s.RowRight r ∨ (r ∈ s.summaries ∧
    (s.submittedSessions sectionId d ≠ [] → r.attendanceDate = d →
      ¬ s.Recounted sectionId d r.student))

theorem Recounting.run {sectionId : ℕ} {d : Date} {p : Operation Unit}
    (hp : Recounting sectionId d p) (hs : s.Keyed) : s.Recalculated (p.run s).2 sectionId d := by
  let P : Operation Unit → School → Prop := fun p t =>
    (Recounting sectionId d p ∧ ∃ contexts, t = { s with dayContexts := contexts }) ∨
      (p.Ended ∧ s.Recalculated t sectionId d)
  have hstep : ∀ p t, P p t → P (p.advance t).1 (p.advance t).2 := by
    intro p t h
    rcases h with ⟨hp, contexts, rfl⟩ | ⟨hend, h⟩
    · have hkeyed : School.Keyed { s with dayContexts := contexts } :=
        ⟨hs.1, hs.2, hs.3, hs.4, hs.5, hs.6, hs.7, hs.8, hs.9⟩
      rcases hp.advance hkeyed with ⟨hrest, context, heq⟩ | ⟨hend, heq, hnone⟩ |
        ⟨hend, row, hrewritten, hrow⟩
      · rw [heq]
        exact .inl ⟨hrest, _, rfl⟩
      · rw [heq]
        exact .inr ⟨hend, rfl, fun r hr => .inr ⟨hr, fun hsome => (hsome hnone).elim⟩⟩
      · refine .inr ⟨hend, hrewritten.core, fun r hr => ?_⟩
        rcases hrewritten.of_mem r hr with ⟨hr, hnot⟩ | ⟨x, -, rfl⟩
        · refine .inr ⟨hr, fun _ hd hrec => hnot ⟨hd, ?_⟩⟩
          exact (School.mem_recountedStudents _ _ _ _).mpr hrec
        · have hcore : School.core { s with dayContexts := contexts } = s.core := rfl
          exact .inl ((School.RowRight.of_core hcore _).mp (hrow x).1)
    · rw [hend.advance t]
      exact .inr ⟨hend, h⟩
  obtain ⟨q, hend, hq⟩ := Program.run_invariant P hstep p s (.inl ⟨hp, _, rfl⟩)
  rcases hq with ⟨hq, -⟩ | ⟨-, hq⟩
  · exact (hq.not_ended hend).elim
  · exact hq

theorem Reconciling.run {sectionId : ℕ} {d : Date} {p : Operation Unit}
    (hp : Reconciling sectionId d p) (hs : s.Sound) : ∃ now studentIds,
      (s.reconciled now d studentIds).Recalculated (p.run s).2 sectionId d := by
  cases hp with
  | intro now studentIds k hk =>
    obtain ⟨affected, heval⟩ := eval_reconcileLocked hs.toKeyed now d studentIds
    refine ⟨now, studentIds, ?_⟩
    simp only [Program.run, heval]
    exact (hk affected).run (hs.reconciled now d studentIds).toKeyed

/-- The marks of the session `x`, which is then `x'`, are changed for some students at most; a
session that was not submitted is one that changes for all. -/
structure School.Remarked (s s' : School) (x x' : AttendanceSession) (touched : ℕ → Prop) :
    Prop where
  sound : s'.Sound
  mem : x ∈ s.sessions
  slot : x.SameSlot x'
  status : x'.status = .submitted
  status_or : x.status = .submitted ∨ ∀ student, touched student
  sessions : s'.sessions = (s.putSession x').sessions
  coverages : s'.coverages = s.coverages
  excuses : s'.excuses = s.excuses
  targets : s'.targets = s.targets
  summaries : s'.summaries = s.summaries
  absent : ∀ id student, ¬ (id = x.id ∧ touched student) →
    (s'.Absent id student ↔ s.Absent id student)

section Remarked

variable {x x' : AttendanceSession} {touched : ℕ → Prop} (h : s.Remarked s' x x' touched)
include h

theorem School.Remarked.covered (id student : ℕ) : s'.Covered id student ↔ s.Covered id student := by
  unfold School.Covered School.Active
  rw [h.coverages]

theorem School.Remarked.rowRight (hs : s.Keyed) {r : DailyAttendanceSummary}
    (hr : ¬ (x.CountsFor r ∧ touched r.student)) (hright : s.RowRight r) : s'.RowRight r := by
  have hids : s'.submittedIds r.sectionId r.attendanceDate =
      s.submittedIds r.sectionId r.attendanceDate := by
    have hput := hs.submittedIds_putSession h.mem h.slot r.sectionId r.attendanceDate fun hc => ?_
    · unfold School.submittedIds School.submittedSessions at hput ⊢
      rwa [h.sessions]
    · exact h.status.trans (h.status_or.resolve_right fun hall => hr ⟨hc, hall _⟩).symm
  refine (School.RowRight.congr hs h.sound.toKeyed hids (fun id hid => ?_)
    fun id _ => h.covered id r.student).mpr hright
  refine h.absent id r.student ?_
  rintro ⟨rfl, htouched⟩
  exact hs.ne_of_mem_submittedIds h.mem (fun hc => hr ⟨hc, htouched⟩) hid rfl

theorem School.Remarked.exact (hs : s.Keyed) {r : DailyAttendanceSummary}
    (hexact : ∀ k, s.CoverageExact k) (hr : ¬ (x.CountsFor r ∧ touched r.student))
    {y : AttendanceSession} (hy : y ∈ s'.sessions) (hyr : y.CountsFor r) :
    s'.Covered y.id r.student ↔ s'.Justified y r.student := by
  rw [h.sessions] at hy
  obtain ⟨z, hz, hslot, hother⟩ := School.exists_slot h.mem h.slot hy
  have hzr : z.CountsFor r := ⟨hslot.section_.symm.trans hyr.1, hslot.date.symm.trans hyr.2⟩
  have hstatus : y.status = z.status := by
    by_cases hid : y.id = x.id
    · -- The session that changes is counted by the row, so its student's marks stay.
      have hzx : z = x := hs.session_unique hz h.mem (hslot.id.symm.trans hid)
      subst hzx
      have hyx : y = x' := by
        rcases (School.mem_putSession h.mem h.slot).mp hy with rfl | ⟨-, hne⟩
        · rfl
        · exact (hne hid).elim
      rw [hyx, h.status]
      exact (h.status_or.resolve_right fun hall => hr ⟨hzr, hall _⟩).symm
    · rw [hother hid]
  have habsent : s'.Absent y.id r.student ↔ s.Absent z.id r.student := by
    rw [hslot.id]
    refine h.absent z.id r.student ?_
    rintro ⟨hid, htouched⟩
    exact hr ⟨hs.session_unique hz h.mem hid ▸ hzr, htouched⟩
  have hold := hexact (z.attendanceDate, r.student) z hz rfl
  rw [h.covered, hslot.id, hold]
  unfold School.Justified School.Excused
  rw [habsent, hstatus, hslot.date, hslot.period, h.excuses, h.targets]

theorem School.Remarked.recounted (hregistry : s'.registry = s.registry) {student : ℕ}
    (hstays : s.BelongsTo x.attendanceDate x.sectionId student ∨
      ((s'.Absent x.id student ∨ ∃ y ∈ s.submittedSessions x.sectionId x.attendanceDate,
        y.id ≠ x.id ∧ s.Absent y.id student) ∧
        ∀ other, s.BelongsTo x.attendanceDate other student → other = x.sectionId)) :
    s'.Recounted x.sectionId x.attendanceDate student := by
  have hbelongs : ∀ sectionId, s'.BelongsTo x.attendanceDate sectionId student ↔
      s.BelongsTo x.attendanceDate sectionId student := by
    intro sectionId
    unfold School.BelongsTo
    rw [hregistry]
  have hsubmitted : ∀ y ∈ s'.sessions, y.sectionId = x.sectionId →
      y.attendanceDate = x.attendanceDate → y.status = .submitted → s'.Absent y.id student →
      s'.Marked x.sectionId x.attendanceDate student := by
    rintro y hy hsec hd hsub ⟨m, hm, hses, hst, -⟩
    exact ⟨m, hm, hst, y, List.mem_filter.mpr ⟨hy, by simp [hsec, hd, hsub]⟩, hses.symm⟩
  rcases hstays with hstays | ⟨hmarked, honly⟩
  · exact .inl ((hbelongs _).mpr hstays)
  · refine .inr ⟨?_, fun other hother => honly other ((hbelongs other).mp hother)⟩
    rcases hmarked with hmarked | ⟨y, hy, hne, habsent⟩
    · refine hsubmitted x' ?_ h.slot.section_ h.slot.date h.status (h.slot.id ▸ hmarked)
      rw [h.sessions]
      exact (School.mem_putSession h.mem h.slot).mpr (.inl rfl)
    · obtain ⟨hy, hslot⟩ := List.mem_filter.mp hy
      simp only [decide_eq_true_eq] at hslot
      refine hsubmitted y ?_ hslot.1 hslot.2.1 hslot.2.2 ?_
      · rw [h.sessions]
        exact (School.mem_putSession h.mem h.slot).mpr (.inr ⟨hy, hne⟩)
      · exact (h.absent y.id student fun hc => hne hc.1).mpr habsent

theorem School.Remarked.allRowsRight (hs : s.Sound) (hexact : ∀ k, s.CoverageExact k)
    (hright : s.AllRowsRight)
    (hstays : ∀ r ∈ s.summaries, x.CountsFor r → touched r.student →
      s'.Recounted x.sectionId x.attendanceDate r.student)
    {p : Operation Unit} (hp : Reconciling x.sectionId x.attendanceDate p) :
    (p.run s').2.AllRowsRight := by
  obtain ⟨now, studentIds, hrun⟩ := hp.run h.sound
  intro r hr
  rw [School.RowRight.of_core hrun.core]
  rcases hrun.rows r hr with hnew | ⟨hold, hleft⟩
  · exact hnew
  have hmem : r ∈ s.summaries := h.summaries ▸ hold
  -- The session is submitted now, so an old row of its slot is of a student not looked at.
  have hnot : ¬ (x.CountsFor r ∧ touched r.student) := by
    rintro ⟨hcounts, htouched⟩
    refine hleft ?_ hcounts.2.symm (hstays r hmem hcounts htouched)
    have hx' : x' ∈ s'.submittedSessions x.sectionId x.attendanceDate := by
      refine List.mem_filter.mpr ⟨?_, by simp [h.slot.section_, h.slot.date, h.status]⟩
      rw [h.sessions]
      exact (School.mem_putSession h.mem h.slot).mpr (.inl rfl)
    exact List.ne_nil_of_mem hx'
  refine (h.sound.rowRight_reconciled now x.attendanceDate studentIds fun y hy hyr _ => ?_).mpr
    (h.rowRight hs.toKeyed hnot (hright r hmem))
  exact h.exact hs.toKeyed hexact hnot hy hyr

end Remarked

theorem School.Submits.remarked {sessionId : ℕ} {marks : List MarkInput} {x : AttendanceSession}
    {validated : List ℕ} (h : s.Submits sessionId marks x validated) (hs : s.Sound)
    (clock : Clock) (membership : ℕ) :
    s.Remarked ((s.replaceMarks x.id validated).putSession (x.submit clock membership)) x
      (x.submit clock membership) fun _ => True := by
  obtain ⟨hmem, -⟩ := (hs.session?_eq_some _ _).mp h.found
  have heval := eval_submitLocked_iff.mpr ⟨x, validated, h, rfl,
    (rfl : x.submit clock membership = _), rfl⟩
  refine ⟨(submitLocked_leaves hs heval).sound, hmem, ⟨rfl, rfl, rfl, rfl⟩, rfl,
    .inr fun _ => trivial, rfl, rfl, rfl, rfl, rfl, fun id student hne => ?_⟩
  refine (s.absent_replaceMarks x.id id student validated).trans ?_
  rw [if_neg fun hid => hne ⟨hid, trivial⟩]

theorem School.Edits.remarked {clock : Clock} {sessionId membership : ℕ} {roles : List SchoolRole}
    {expectedUpdatedAt : Instant} {marks : List MarkInput} {reason : Text} {x : AttendanceSession}
    {validated : List ℕ} (h : s.Edits clock sessionId membership roles expectedUpdatedAt marks
      reason x validated) (hs : s.Sound)
    (hchanges : changedStudents (s.markedStudents x.id) validated ≠ []) :
    s.Remarked ((s.replaceMarks x.id validated).putSession (x.touch clock.savedAt)) x
      (x.touch clock.savedAt)
      fun student => student ∈ changedStudents (s.markedStudents x.id) validated := by
  obtain ⟨hmem, -⟩ := (hs.session?_eq_some _ _).mp h.found
  have heval := eval_editLocked_iff.mpr ⟨x, validated, h, rfl, .inr ⟨hchanges,
    (rfl : x.touch clock.savedAt = _), rfl⟩⟩
  refine ⟨(editLocked_leaves hs heval).sound, hmem, ⟨rfl, rfl, rfl, rfl⟩, h.status,
    .inl h.status, rfl, rfl, rfl, rfl, rfl, fun id student hne => ?_⟩
  refine (s.absent_replaceMarks x.id id student validated).trans ?_
  split_ifs with hid
  · have hsame := (mem_changedStudents _ _ _).mp fun hch => hne ⟨hid, hch⟩
    rw [hid, ← School.mem_markedStudents, hsame]
  · rfl

theorem School.Corrects.remarked {sessionId studentId : ℕ} {status : String}
    {expectedUpdatedAt : Instant} {x : AttendanceSession}
    (h : s.Corrects sessionId studentId status expectedUpdatedAt x) (hs : s.Sound)
    (clock : Clock) :
    s.Remarked ((s.setMark x.id studentId status).putSession (x.touch clock.savedAt)) x
      (x.touch clock.savedAt) fun student => student = studentId := by
  obtain ⟨hmem, -⟩ := (hs.session?_eq_some _ _).mp h.found
  have heval := eval_correctLocked_iff.mpr ⟨x, h, (rfl : x.touch clock.savedAt = _), rfl⟩
  have habsent := fun id student => s.absent_setMark x.id id studentId student status
  have hsound := (correctLocked_leaves hs heval).sound
  obtain ⟨marks, hmarks⟩ := s.setMark_eq x.id studentId status
  rw [hmarks] at habsent hsound ⊢
  exact ⟨hsound, hmem, ⟨rfl, rfl, rfl, rfl⟩, h.submitted, .inl h.submitted, rfl, rfl, rfl, rfl, rfl,
    habsent⟩

variable {s s' : School}

def Request.decidesExcuse : Request → Bool
  | .createExcuse .. => true
  | .updateExcuse .. => true
  | .approveExcuse .. => true
  | .rejectExcuse .. => true
  | .cancelExcuse .. => true
  | _ => false

/-- The student belongs to the section of the session on its date; or to no other one then, and
is among the students marked now, or marked in another submitted session there. -/
def School.StaysInSight (s : School) (x : AttendanceSession) (marked : List ℕ) (student : ℕ) :
    Prop :=
  s.BelongsTo x.attendanceDate x.sectionId student ∨
    ((student ∈ marked ∨ ∃ y ∈ s.submittedSessions x.sectionId x.attendanceDate,
      y.id ≠ x.id ∧ s.Absent y.id student) ∧
      ∀ other, s.BelongsTo x.attendanceDate other student → other = x.sectionId)

/-- A submission that goes through keeps the students of all rows of its section and date in
sight, an edit those it changes, and a correction its student. -/
def School.KeepsInSight (s : School) : Request → Prop
  | .submitSession _ sessionId _ marks => ∀ x validated, s.Submits sessionId marks x validated →
    ∀ r ∈ s.summaries, x.CountsFor r → s.StaysInSight x validated r.student
  | .editSession clock sessionId membership roles expectedUpdatedAt marks reason =>
    ∀ x validated, s.Edits clock sessionId membership roles expectedUpdatedAt marks reason x
      validated → ∀ r ∈ s.summaries, x.CountsFor r →
        r.student ∈ changedStudents (s.markedStudents x.id) validated →
          s.StaysInSight x validated r.student
  | .correctStudentAttendance _ sessionId studentId roles status reason expectedUpdatedAt =>
    isAdminCorrection roles = true → Text.strip reason ≠ [] →
      (status = presentText ∨ status = AttendanceMarkStatus.absent.text) →
        ∀ x, s.Corrects sessionId studentId status expectedUpdatedAt x →
          ∀ r ∈ s.summaries, x.CountsFor r → r.student = studentId →
            s.StaysInSight x [] studentId
  | _ => True

def School.Admits (s : School) : Event → Prop
  | .request r => r.decidesExcuse = false ∧ s.KeepsInSight r
  | .registry _ => True

def School.AdmitsAll (s : School) : List Event → Prop
  | [] => True
  | event :: events => s.Admits event ∧ (s.occur event).AdmitsAll events

theorem School.keepsInSight_of_belongs
    (h : ∀ r ∈ s.summaries, s.BelongsTo r.attendanceDate r.sectionId r.student) (r : Request) :
    s.KeepsInSight r := by
  have hrow : ∀ x marked, ∀ r ∈ s.summaries, AttendanceSession.CountsFor x r →
      s.StaysInSight x marked r.student := by
    rintro x marked r hr ⟨hsec, hd⟩
    refine .inl ?_
    rw [hsec, hd]
    exact h r hr
  cases r with
  | submitSession => exact fun x validated _ r hr hc => hrow x validated r hr hc
  | editSession => exact fun x validated _ r hr hc _ => hrow x validated r hr hc
  | correctStudentAttendance =>
    exact fun _ _ _ x _ r hr hc hst => hst ▸ hrow x [] r hr hc
  | _ => trivial

/-! ## The requests -/

theorem allRowsRight_submitSession (hs : s.Consistent) (hright : s.AllRowsRight) (clock : Clock)
    (sessionId membership : ℕ) (marks : List MarkInput)
    (hsight : s.KeepsInSight (.submitSession clock sessionId membership marks)) :
    (s.handle (.submitSession clock sessionId membership marks)).AllRowsRight := by
  refine Program.run_atomic hright ?_
  rintro ⟨x, roster, error⟩ s' h
  cases error with
  | some e =>
    obtain ⟨y, hy, hslot, hstatus, rfl⟩ := eval_submitLocked_refused h
    obtain ⟨hmem, -⟩ := (hs.1.session?_eq_some _ _).mp hy
    exact fun r hr => (hs.1.rowRight_putSession hmem hslot fun _ => hstatus).mpr (hright r hr)
  | none =>
    obtain ⟨y, validated, hsubmits, -, rfl, rfl⟩ := eval_submitLocked_iff.mp h
    have hremarked := hsubmits.remarked hs.1 clock membership
    refine hremarked.allRowsRight hs.1 hs.2 hright ?_
      (reconciling_afterMarks clock (x := y.submit clock membership) ⟨rfl, rfl⟩ none)
    intro r hr hcounts _
    refine hremarked.recounted rfl ((hsight y validated hsubmits r hr hcounts).imp_right ?_)
    refine And.imp_left (Or.imp_left fun hmem => ?_)
    show (s.replaceMarks y.id validated).Absent y.id r.student
    rw [School.absent_replaceMarks, if_pos rfl]
    exact hmem

theorem allRowsRight_editSession (hs : s.Consistent) (hright : s.AllRowsRight) (clock : Clock)
    (sessionId membership : ℕ) (roles : List SchoolRole) (expectedUpdatedAt : Instant)
    (marks : List MarkInput) (reason : Text)
    (hsight : s.KeepsInSight (.editSession clock sessionId membership roles expectedUpdatedAt
      marks reason)) :
    (s.handle (.editSession clock sessionId membership roles expectedUpdatedAt marks
      reason)).AllRowsRight := by
  refine Program.run_atomic hright ?_
  rintro ⟨x, changes⟩ s' h
  obtain ⟨y, validated, hedits, hchanges, ⟨hnone, rfl, rfl⟩ | ⟨hnone, rfl, rfl⟩⟩ :=
    eval_editLocked_iff.mp h
  · show (Program.run ((if changes = [] then pure x else _ : Operation _).bind _) s').2.AllRowsRight
    rw [if_pos hnone]
    exact hright
  · show (Program.run ((if changes = [] then pure (y.touch clock.savedAt) else _ :
      Operation _).bind _) _).2.AllRowsRight
    rw [if_neg hnone]
    subst hchanges
    have hremarked := hedits.remarked hs.1 hnone
    refine hremarked.allRowsRight hs.1 hs.2 hright ?_
      (reconciling_afterMarks clock (x := y.touch clock.savedAt) ⟨rfl, rfl⟩ (some _))
    intro r hr hcounts hchanged
    refine hremarked.recounted rfl ((hsight y validated hedits r hr hcounts hchanged).imp_right ?_)
    refine And.imp_left (Or.imp_left fun hmem => ?_)
    show (s.replaceMarks y.id validated).Absent y.id r.student
    rw [School.absent_replaceMarks, if_pos rfl]
    exact hmem

theorem allRowsRight_correctStudentAttendance (hs : s.Consistent) (hright : s.AllRowsRight)
    (clock : Clock) (sessionId studentId : ℕ) (roles : List SchoolRole) (status : String)
    (reason : Text) (expectedUpdatedAt : Instant)
    (hsight : s.KeepsInSight (.correctStudentAttendance clock sessionId studentId roles status
      reason expectedUpdatedAt)) :
    (s.handle (.correctStudentAttendance clock sessionId studentId roles status reason
      expectedUpdatedAt)).AllRowsRight := by
  show (Program.run (Operation.discard (correctStudentAttendance clock sessionId studentId roles
    status reason expectedUpdatedAt)) s).2.AllRowsRight
  unfold correctStudentAttendance
  split_ifs with hadmin hreason hstatus
  · exact hright
  · exact hright
  · exact hright
  · refine Program.run_atomic hright ?_
    intro x s' h
    obtain ⟨y, hcorrects, rfl, rfl⟩ := eval_correctLocked_iff.mp h
    have hremarked := hcorrects.remarked hs.1 clock
    refine hremarked.allRowsRight hs.1 hs.2 hright ?_
      (reconciling_afterMarks clock (x := y.touch clock.savedAt) ⟨rfl, rfl⟩ (some [studentId]))
    rintro r hr hcounts rfl
    have hregistry : (s.setMark y.id r.student status).registry = s.registry := by
      obtain ⟨marks, hmarks⟩ := s.setMark_eq y.id r.student status
      rw [hmarks]
    have hstays := hsight (by simpa using hadmin) hreason (by tauto) y hcorrects r hr hcounts rfl
    refine hremarked.recounted hregistry (hstays.imp_right ?_)
    exact And.imp_left (Or.imp_left fun hmem => (List.not_mem_nil hmem).elim)

def School.recorded (s : School) : School := { s with registry := {}, dayContexts := [] }

theorem School.AllRowsRight.of_recorded (h : s'.recorded = s.recorded) (hright : s.AllRowsRight) :
    s'.AllRowsRight := by
  have hcore : s'.core = s.core :=
    calc s'.core = s'.recorded.core := rfl
      _ = s.core := by rw [h]; rfl
  have hsummaries : s'.summaries = s.summaries :=
    calc s'.summaries = s'.recorded.summaries := rfl
      _ = s.summaries := by rw [h]; rfl
  intro r hr
  exact (School.RowRight.of_core hcore r).mpr (hright r (hsummaries ▸ hr))

theorem School.AllRowsRight.addSession (h : s.AllRowsRight) {x : AttendanceSession}
    (hx : x.status = .inProgress) : (s.addSession x).AllRowsRight := by
  intro r hr
  have hsub : (s.addSession x).submittedSessions r.sectionId r.attendanceDate =
      s.submittedSessions r.sectionId r.attendanceDate := by
    unfold School.submittedSessions School.addSession
    rw [List.filter_append, List.append_right_eq_self, List.filter_eq_nil_iff]
    intro y hy
    rw [List.mem_singleton] at hy
    simp [hy, hx]
  exact (School.RowRight.of_tables hsub rfl rfl).mpr (h r hr)

theorem startSession_preserves (now : Instant) (newId academicYear sectionId : ℕ) (d : Date)
    (period : ℕ) : (startSession now newId academicYear sectionId d period).Preserves
      School.AllRowsRight := by
  intro existing
  cases existing with
  | some x => exact fun roster => trivial
  | none =>
    have hcontext : (getOrRefreshPristineDayContext d).Preserves School.AllRowsRight :=
      .of_keeps (fun s s' h hs => hs.of_recorded h)
        (getOrRefreshPristineDayContext_keeps (fun s c => rfl) (fun s d snapshot => rfl) d)
    refine hcontext.bind fun context => ?_
    refine fun roster => ⟨fun s inserted s' hright h => ?_, fun inserted => ?_⟩
    · rcases eval_insertSession_ok h with rfl | ⟨rfl, -, -⟩
      · exact hright
      · exact hright.addSession rfl
    · cases inserted with
      | true => trivial
      | false =>
        intro winner
        cases winner <;> trivial

/-! ## Whole runs -/

theorem School.AllRowsRight.occur (hs : s.Consistent) (hright : s.AllRowsRight) {event : Event}
    (hadmits : s.Admits event) : (s.occur event).AllRowsRight := by
  have hkept : ∀ {α : Type} {p : Operation α}, p.Preserves School.AllRowsRight →
      (p.discard.run s).2.AllRowsRight :=
    fun hp => (hp.bind fun _ => trivial : Program.Preserves _ (Operation.discard _)).run hright
  cases event with
  | registry r =>
    have hrecorded : (s.occur (.registry r)).recorded = s.recorded := rfl
    exact hright.of_recorded hrecorded
  | request r =>
    obtain ⟨hkind, hsight⟩ := hadmits
    cases r with
    | submitSession => exact allRowsRight_submitSession hs hright _ _ _ _ hsight
    | editSession => exact allRowsRight_editSession hs hright _ _ _ _ _ _ _ hsight
    | correctStudentAttendance =>
      exact allRowsRight_correctStudentAttendance hs hright _ _ _ _ _ _ _ hsight
    | startSession => exact hkept (startSession_preserves _ _ _ _ _ _)
    | updateStudent =>
      exact hkept (.of_keeps (fun s s' h hs => hs.of_recorded h)
        (updateStudent_keeps (fun s f => rfl) _ _ _ _ _ _))
    | setStudentStatus =>
      exact hkept (.of_keeps (fun s s' h hs => hs.of_recorded h)
        (statusView_keeps (fun s f => rfl) _ _ _ _ _ _))
    | createExcuse => cases hkind
    | updateExcuse => cases hkind
    | approveExcuse => cases hkind
    | rejectExcuse => cases hkind
    | cancelExcuse => cases hkind

theorem School.AllRowsRight.play (hs : s.Consistent) (hright : s.AllRowsRight)
    (events : List Event) (hadmits : s.AdmitsAll events) : (s.play events).AllRowsRight := by
  induction events generalizing s with
  | nil => exact hright
  | cons event events ih =>
    exact ih (hs.occur event) (hright.occur hs hadmits.1) hadmits.2

theorem School.AdmitsAll.of_prefix {l events : List Event} (hfront : l <+: events)
    (h : s.AdmitsAll events) : s.AdmitsAll l := by
  induction l generalizing s events with
  | nil => trivial
  | cons event l ih =>
    cases events with
    | nil => exact (List.cons_ne_nil _ _ (List.prefix_nil.mp hfront)).elim
    | cons event' events =>
      obtain ⟨rfl, hrest⟩ := List.cons_prefix_cons.mp hfront
      exact ⟨h.1, ih hrest h.2⟩

/-- **Rows over whole runs.** From a school that events lead to and whose rows are right, in every
state of a run of attendance requests, transfers, changes of status and changes of the calendar
every row counts the submitted sessions of its section and date, the absences of its student in
them and the covered ones among these, as long as every submission, edit and correction keeps
the students of the rows it has to rewrite in sight. -/
theorem School.play_allRowsRight (registry : Registry) (before events : List Event)
    (hright : (School.play { registry := registry } before).AllRowsRight)
    (hadmits : (School.play { registry := registry } before).AdmitsAll events) :
    ∀ l, l <+: events → ((School.play { registry := registry } before).play l).AllRowsRight :=
  fun l hl => hright.play (School.consistent_play registry before) l (hadmits.of_prefix hl)

def submitThenEdit : List Event :=
  [ .request (.submitSession (fixedClock 2) 1 1 [⟨1, "ABSENT"⟩]),
    .request (.editSession (fixedClock 3) 1 1 [.teacher] 2 [] []) ]

theorem School.play_allRowsRight_submitThenEdit :
    ((School.play { registry := oneSectionRegistry }
      [.request (.startSession 1 1 1 1 700 1)]).play submitThenEdit).AllRowsRight := by
  refine School.play_allRowsRight oneSectionRegistry [.request (.startSession 1 1 1 1 700 1)]
    submitThenEdit ?_ ⟨⟨rfl, ?_⟩, ⟨rfl, ?_⟩, trivial⟩ submitThenEdit (List.prefix_refl _)
  · decide +kernel
  · exact School.keepsInSight_of_belongs (by decide +kernel) _
  · exact School.keepsInSight_of_belongs (by decide +kernel) _

/-- The student is marked absent in the first section, transferred to another one on the same
day, and the mark is then removed. -/
def transferThenEdit : List Event :=
  [ .request (.startSession 1 1 1 1 700 1),
    .request (.submitSession (fixedClock 2) 1 1 [⟨1, "ABSENT"⟩]),
    .request (.updateStudent 2 700 1 1 (some { id := 2, grade := 1 }) {}),
    .request (.editSession (fixedClock 3) 1 1 [.teacher] 2 [] []) ]

theorem transferThenEdit_not_allRowsRight :
    ¬ (School.play { registry := oneSectionRegistry } transferThenEdit).AllRowsRight := by
  decide +kernel

end SchoolPlatform
