import SchoolPlatform.Model.SessionAudit
import SchoolPlatform.Analysis.CoverageSteps
import SchoolPlatform.Library.Guarantees
import SchoolPlatform.Library.Replay

/-!
# Edits beside each other

A call on a session reads it, and all that it checks, under the lock of its row. What the other calls
commit in the meantime is about other sessions, so that the call commits what it would have on the
store on which it does.
-/

/-! ## What an edit of a session commits -/

namespace SchoolPlatform.Audited

open ReadCommitted

def AuditedSchool.audit (s : AuditedSchool) :
    List AttendanceSession × List AttendanceMark × List AttendanceChange :=
  (s.school.sessions, s.school.marks, s.changes)

def AuditedSchool.statusIn (s : AuditedSchool) (session student : ℕ) : String :=
  statusText (student ∈ s.school.markedStudents session)

def AttendanceChange.revision (e : AttendanceChange) : Revision ℕ String where
  key := e.student
  previous := e.previousStatus
  current := e.newStatus

def logOf (changes : List AttendanceChange) (session : ℕ) : List (Revision ℕ String) :=
  (changes.filter fun e => e.session = session).map AttendanceChange.revision

def EditingCall.sessionId : EditingCall → ℕ
  | .editSession _ sessionId _ _ _ _ _ => sessionId
  | .correctStudentAttendance _ sessionId _ _ _ _ _ _ => sessionId

def EditingCall.expectedUpdatedAt : EditingCall → Instant
  | .editSession _ _ _ _ expectedUpdatedAt _ _ => expectedUpdatedAt
  | .correctStudentAttendance _ _ _ _ _ _ _ expectedUpdatedAt => expectedUpdatedAt

def EditingCall.savedAt : EditingCall → Instant
  | .editSession clock _ _ _ _ _ _ => clock.savedAt
  | .correctStudentAttendance clock _ _ _ _ _ _ _ => clock.savedAt

/-- The marks that the call leaves: those of the request, which are absences of distinct students,
or those that were there but for the one of a student. -/
def EditingCall.Marks (s s' : AuditedSchool) : EditingCall → Prop
  | .editSession _ sessionId _ _ _ marks _ =>
    s'.school.marksOf sessionId = marks.map (fun m => ⟨sessionId, m.studentId, .absent⟩) ∧
      (∀ m ∈ marks, m.status = AttendanceMarkStatus.absent.text) ∧
      (marks.map fun m => m.studentId).Nodup
  | .correctStudentAttendance _ sessionId studentId _ _ status _ _ =>
    s'.statusIn sessionId = Function.update (s.statusIn sessionId) studentId status

structure EditingCall.Accepted (call : EditingCall) (s s' : AuditedSchool) : Prop where
  version : ∃ x, s.school.session? call.sessionId = some x ∧ x.status = .submitted ∧
    x.updatedAt = call.expectedUpdatedAt ∧
    s'.school.session? call.sessionId = some (x.touch call.savedAt)
  marks : call.Marks s s'
  log : ∃ entries, entries ≠ [] ∧ s'.changes = s.changes ++ entries ∧
    (∀ e ∈ entries, e.session = call.sessionId) ∧
    Replays (s.statusIn call.sessionId) (entries.map AttendanceChange.revision)
      (s'.statusIn call.sessionId)
  elsewhere : ∀ id, id ≠ call.sessionId → s'.school.session? id = s.school.session? id ∧
    s'.school.marksOf id = s.school.marksOf id

variable {s s' : School}

theorem session?_id {id : ℕ} {x : AttendanceSession} (h : s.session? id = some x) : x.id = id := by
  unfold School.session? at h
  have hid := List.find?_some h
  exact of_decide_eq_true hid

theorem session?_putSession {id : ℕ} {x x' : AttendanceSession} (h : s.session? id = some x)
    (hid : x'.id = x.id) : (s.putSession x').session? id = some x' := by
  have hx' : x'.id = id := hid.trans (session?_id h)
  subst hx'
  exact Table.find?_put_self (fun y : AttendanceSession => y.id) x' h

theorem session?_putSession_of_ne {id : ℕ} {x : AttendanceSession} (h : x.id ≠ id) :
    (s.putSession x).session? id = s.session? id :=
  Table.find?_put_of_ne (fun y : AttendanceSession => y.id) x h

theorem marksOf_replaceMarks (id : ℕ) (students : List ℕ) :
    (s.replaceMarks id students).marksOf id =
      students.map fun student => ⟨id, student, .absent⟩ := by
  unfold School.replaceMarks School.marksOf
  rw [List.filter_append]
  have hold : (s.marks.filter fun x => x.session ≠ id).filter (fun x => x.session = id) = [] := by
    rw [List.filter_filter, List.filter_eq_nil_iff]
    intro m _
    simp
  have hnew : (students.map fun student => (⟨id, student, .absent⟩ : AttendanceMark)).filter
      (fun x => x.session = id) = students.map fun student => ⟨id, student, .absent⟩ := by
    rw [List.filter_eq_self]
    intro m hm
    obtain ⟨student, -, rfl⟩ := List.mem_map.mp hm
    simp
  rw [hold, hnew, List.nil_append]

theorem marksOf_replaceMarks_of_ne {id other : ℕ} (h : other ≠ id) (students : List ℕ) :
    (s.replaceMarks id students).marksOf other = s.marksOf other := by
  unfold School.replaceMarks School.marksOf
  rw [List.filter_append, List.filter_filter]
  have hnew : (students.map fun student => (⟨id, student, .absent⟩ : AttendanceMark)).filter
      (fun x => x.session = other) = [] := by
    rw [List.filter_eq_nil_iff]
    intro m hm
    obtain ⟨student, -, rfl⟩ := List.mem_map.mp hm
    simpa using fun heq => h heq.symm
  rw [hnew, List.append_nil]
  apply List.filter_congr
  intro m _
  by_cases hm : m.session = other
  · simp [hm, h]
  · simp [hm]

theorem markedStudents_replaceMarks (id : ℕ) (students : List ℕ) :
    (s.replaceMarks id students).markedStudents id = students := by
  unfold School.markedStudents
  rw [marksOf_replaceMarks, List.map_map]
  simp [Function.comp_def]

theorem isSome_markOf (session student : ℕ) :
    (s.markOf session student).isSome = true ↔ student ∈ s.markedStudents session := by
  unfold School.markOf School.markedStudents School.marksOf
  simp only [List.find?_isSome, List.mem_map, List.mem_filter, decide_eq_true_eq]
  exact exists_congr fun m => by tauto

theorem marksOf_setMark_of_ne {id other : ℕ} (h : other ≠ id) (student : ℕ) (status : String) :
    (s.setMark id student status).marksOf other = s.marksOf other := by
  unfold School.setMark School.addMark School.removeMark School.marksOf
  split
  · rw [List.filter_append]
    have hne : id ≠ other := fun heq => h heq.symm
    simp [hne]
  · rw [List.filter_filter]
    apply List.filter_congr
    intro m _
    by_cases hm : m.session = other
    · simp [hm, h]
    · simp [hm]

theorem mem_markedStudents_setMark (id student other : ℕ) (status : String) :
    other ∈ (s.setMark id student status).markedStudents id ↔
      if other = student then status = AttendanceMarkStatus.absent.text
      else other ∈ s.markedStudents id := by
  unfold School.setMark School.addMark School.removeMark School.markedStudents School.marksOf
  by_cases hstatus : status = AttendanceMarkStatus.absent.text
  · rw [if_pos hstatus]
    by_cases hother : other = student
    · simp [hother, hstatus]
    · simp [hother]
  · rw [if_neg hstatus]
    by_cases hother : other = student
    · simp only [hother, if_true, hstatus, iff_false, List.mem_map, List.mem_filter]
      rintro ⟨m, ⟨⟨-, hkept⟩, hses⟩, hm⟩
      simp only [decide_eq_true_eq] at hkept hses
      exact hkept ⟨hses, hm⟩
    · simp only [hother, if_false, List.mem_map, List.mem_filter]
      refine exists_congr fun m => ?_
      constructor
      · rintro ⟨⟨⟨hm, -⟩, hses⟩, rfl⟩
        exact ⟨⟨hm, hses⟩, rfl⟩
      · rintro ⟨⟨hm, hses⟩, rfl⟩
        exact ⟨⟨⟨hm, by simp [hother]⟩, hses⟩, rfl⟩

def IsEnumeration (setOrder : List ℕ → List ℕ) : Prop :=
  ∀ l, (setOrder l).Nodup ∧ ∀ x, x ∈ setOrder l ↔ x ∈ l

def AuditedSchool.edited (s : AuditedSchool) (x : AttendanceSession) (savedAt : Instant)
    (marks : School → School) (entries : List AttendanceChange) : AuditedSchool where
  school := (marks s.school).putSession (x.touch savedAt)
  changes := s.changes ++ entries

theorem validateMarks_eq {rosterIds seen : List ℕ} {marks : List MarkInput} {l : List ℕ}
    (h : validateMarks rosterIds seen marks = .ok l) :
    l = marks.map (fun m => m.studentId) ∧
      ∀ m ∈ marks, m.status = AttendanceMarkStatus.absent.text := by
  induction marks generalizing seen l with
  | nil =>
    unfold validateMarks at h
    cases h
    simp
  | cons mark marks ih =>
    unfold validateMarks at h
    split_ifs at h with hseen hroster hstatus
    cases hrest : validateMarks rosterIds (mark.studentId :: seen) marks with
    | error e =>
      rw [hrest] at h
      cases h
    | ok rest =>
      rw [hrest] at h
      cases h
      obtain ⟨hids, hmarks⟩ := ih hrest
      refine ⟨by rw [hids, List.map_cons], fun m hm => ?_⟩
      rcases List.mem_cons.mp hm with rfl | hm
      · exact not_not.mp hstatus
      · exact hmarks m hm

theorem requireCurrentSession_ok {x : AttendanceSession} {expectedUpdatedAt : Instant}
    (h : requireCurrentSession x expectedUpdatedAt = .ok ()) : x.updatedAt = expectedUpdatedAt := by
  unfold requireCurrentSession at h
  split_ifs at h with hcurrent
  exact not_not.mp hcurrent

variable {t : AuditedSchool} {x : AttendanceSession} {savedAt : Instant}
  {marks : School → School} {entries : List AttendanceChange}

theorem session?_edited {id : ℕ} (hfound : (marks t.school).session? id = some x) :
    (t.edited x savedAt marks entries).school.session? id = some (x.touch savedAt) :=
  session?_putSession hfound rfl

theorem marksOf_edited (id : ℕ) :
    (t.edited x savedAt marks entries).school.marksOf id = (marks t.school).marksOf id := rfl

theorem accepted_edit {setOrder : List ℕ → List ℕ} (hset : IsEnumeration setOrder) (clock : Clock)
    (membership : ℕ) (roles : List SchoolRole) (reason : Text) {sessionId : ℕ}
    {expectedUpdatedAt : Instant} {request : List MarkInput} {rosterIds validated : List ℕ}
    (hfound : t.school.session? sessionId = some x) (hstatus : x.status = .submitted)
    (hcurrent : x.updatedAt = expectedUpdatedAt)
    (hvalid : validateMarks rosterIds [] request = .ok validated)
    (hchanges : setOrder (changedStudents (t.school.markedStudents x.id) validated) ≠ []) :
    (EditingCall.editSession clock sessionId membership roles expectedUpdatedAt request
      reason).Accepted t (t.edited x clock.savedAt (fun s => s.replaceMarks x.id validated)
        ((setOrder (changedStudents (t.school.markedStudents x.id) validated)).map
          (editChange x.id membership reason (t.school.markedStudents x.id) validated))) := by
  obtain rfl : x.id = sessionId := session?_id hfound
  obtain ⟨hids, hmarks⟩ := validateMarks_eq hvalid
  have hafter : ∀ entries : List AttendanceChange, (t.edited x clock.savedAt
      (fun s => s.replaceMarks x.id validated) entries).statusIn x.id =
        fun student => statusText (student ∈ validated) := by
    intro entries
    funext student
    show statusText (student ∈ (t.school.replaceMarks x.id validated).markedStudents x.id) = _
    rw [markedStudents_replaceMarks]
  refine ⟨⟨x, hfound, hstatus, hcurrent, session?_edited hfound⟩, ?_, ?_, fun id hid => ?_⟩
  · refine ⟨?_, hmarks, hids ▸ (validateMarks_nodup hvalid).1⟩
    rw [marksOf_edited, marksOf_replaceMarks, hids, List.map_map]
    rfl
  · refine ⟨_, fun h => hchanges (List.map_eq_nil_iff.mp h), rfl, ?_, ?_⟩
    · intro e he
      obtain ⟨student, -, rfl⟩ := List.mem_map.mp he
      rfl
    · show Replays (t.statusIn x.id) _ (AuditedSchool.statusIn _ x.id)
      rw [hafter, List.map_map]
      obtain ⟨hnodup, hmem⟩ := hset (changedStudents (t.school.markedStudents x.id) validated)
      refine Replays.of_diff (f := t.statusIn x.id) _ (fun student => student) ?_ ?_
      · rw [List.map_id']
        exact hnodup
      · intro student hnot
        rw [List.map_id', hmem, mem_changedStudents] at hnot
        show statusText (student ∈ t.school.markedStudents x.id) = statusText (student ∈ validated)
        rw [decide_eq_decide.mpr hnot]
  · refine ⟨?_, ?_⟩
    · exact session?_putSession_of_ne fun h => hid h.symm
    · exact marksOf_replaceMarks_of_ne hid validated

theorem accepted_correct (clock : Clock) (studentId membership : ℕ) (roles : List SchoolRole)
    (reason : Text) {sessionId : ℕ} {status : String} {expectedUpdatedAt : Instant}
    (hfound : t.school.session? sessionId = some x) (hstatus : x.status = .submitted)
    (hcurrent : x.updatedAt = expectedUpdatedAt)
    (hasked : status = presentText ∨ status = AttendanceMarkStatus.absent.text) :
    (EditingCall.correctStudentAttendance clock sessionId studentId membership roles status reason
      expectedUpdatedAt).Accepted t (t.edited x clock.savedAt
        (fun s => s.setMark x.id studentId status)
        [ { session := x.id
            student := studentId
            actorMembership := membership
            previousStatus := statusText (t.school.markOf x.id studentId).isSome
            newStatus := status
            reason := (Text.strip reason).take 300 } ]) := by
  obtain rfl : x.id = sessionId := session?_id hfound
  have hfound' : (t.school.setMark x.id studentId status).session? x.id = some x := by
    unfold School.session?
    rw [School.setMark_sessions]
    exact hfound
  have hupdate : (fun student => statusText
      (student ∈ (t.school.setMark x.id studentId status).markedStudents x.id)) =
      Function.update (t.statusIn x.id) studentId status := by
    funext student
    by_cases hstudent : student = studentId
    · subst hstudent
      rw [Function.update_self]
      simp only [mem_markedStudents_setMark, if_true]
      rcases hasked with rfl | rfl <;> decide
    · rw [Function.update_of_ne hstudent]
      simp only [mem_markedStudents_setMark, hstudent, if_false]
      rfl
  refine ⟨⟨x, hfound, hstatus, hcurrent, session?_edited hfound'⟩, hupdate, ?_,
    fun id hid => ⟨?_, marksOf_setMark_of_ne hid studentId status⟩⟩
  · refine ⟨_, List.cons_ne_nil _ _, rfl, ?_, ?_, hupdate.symm⟩
    · intro e he
      obtain rfl := List.mem_singleton.mp he
      rfl
    · show statusText (studentId ∈ t.school.markedStudents x.id) = _
      congr 1
      rw [Bool.eq_iff_iff, decide_eq_true_eq, isSome_markOf]
  · have hne : (x.touch clock.savedAt).id ≠ id := fun h => hid h.symm
    have hother := session?_putSession_of_ne (s := t.school.setMark x.id studentId status) hne
    refine hother.trans ?_
    unfold School.session?
    rw [School.setMark_sessions]

variable {calls : List EditingCall} {s₀ : AuditedSchool} {i : ℕ} {α β : Type}

/-! ## What the calls promise -/

def promised (calls : List EditingCall) (i : ℕ) : Change AuditedSchool Row := fun L s s' =>
  s'.audit = s.audit ∨ ∃ call, calls[i]? = some call ∧ WriteLocked L (.session call.sessionId) ∧
    call.Accepted s s'

/-- The log tells of all that has happened to the marks since. -/
def AuditedSchool.LoggedSince (s₀ s : AuditedSchool) : Prop :=
  ∃ new, s.changes = s₀.changes ++ new ∧
    ∀ id, Replays (s₀.statusIn id) (logOf new id) (s.statusIn id)

theorem AuditedSchool.LoggedSince.refl (s : AuditedSchool) : s.LoggedSince s :=
  ⟨[], (List.append_nil _).symm, fun _ => rfl⟩

theorem AuditedSchool.audit_fields {s s' : AuditedSchool} (h : s'.audit = s.audit) :
    s'.school.sessions = s.school.sessions ∧ s'.school.marks = s.school.marks ∧
      s'.changes = s.changes := by
  simpa [AuditedSchool.audit] using h

theorem statusIn_of_marksOf {s s' : AuditedSchool} {id : ℕ}
    (h : s'.school.marksOf id = s.school.marksOf id) : s'.statusIn id = s.statusIn id := by
  unfold AuditedSchool.statusIn School.markedStudents
  rw [h]

theorem logOf_append (l l' : List AttendanceChange) (id : ℕ) :
    logOf (l ++ l') id = logOf l id ++ logOf l' id := by
  unfold logOf
  rw [List.filter_append, List.map_append]

theorem logOf_entries {entries : List AttendanceChange} {session : ℕ}
    (h : ∀ e ∈ entries, e.session = session) (id : ℕ) : logOf entries id =
      if id = session then entries.map AttendanceChange.revision else [] := by
  unfold logOf
  by_cases hid : id = session
  · rw [if_pos hid, List.filter_eq_self.mpr fun e he => by simp [h e he, hid]]
  · rw [if_neg hid, List.filter_eq_nil_iff.mpr fun e he => ?_, List.map_nil]
    simpa [h e he] using fun heq => hid heq.symm

theorem loggedSince_promised (i : ℕ) (L : List (Row × LockMode)) (s s' : AuditedSchool)
    (h : promised calls i L s s') (hs : s₀.LoggedSince s) : s₀.LoggedSince s' := by
  obtain ⟨new, hnew, hlog⟩ := hs
  rcases h with hsame | ⟨call, -, -, haccepted⟩
  · obtain ⟨-, hmarks, hchanges⟩ := AuditedSchool.audit_fields hsame
    refine ⟨new, hchanges.trans hnew, fun id => ?_⟩
    have hstatus : s'.statusIn id = s.statusIn id := by
      apply statusIn_of_marksOf
      unfold School.marksOf
      rw [hmarks]
    rw [hstatus]
    exact hlog id
  · obtain ⟨entries, -, hentries, hsession, hreplays⟩ := haccepted.log
    refine ⟨new ++ entries, ?_, fun id => ?_⟩
    · rw [hentries, hnew, List.append_assoc]
    · rw [logOf_append, logOf_entries hsession]
      refine (hlog id).append ?_
      by_cases hid : id = call.sessionId
      · rw [if_pos hid, hid]
        exact hreplays
      · rw [if_neg hid]
        exact (statusIn_of_marksOf (haccepted.elsewhere id hid).2).symm

abbrev relied (calls : List EditingCall) (s₀ : AuditedSchool) (i : ℕ) : Change AuditedSchool Row :=
  others (promised calls) s₀.LoggedSince (fun _ _ _ => True) i

theorem keeps_locked {held : List (Row × LockMode)} {id : ℕ}
    (hlock : WriteLocked held (.session id))
    (P : Option AttendanceSession → List AttendanceMark → Prop) :
    (relied calls s₀ i).Keeps held fun s =>
      s₀.LoggedSince s ∧ P (s.school.session? id) (s.school.marksOf id) := by
  refine others_keeps_of loggedSince_promised fun j L s s' _ hcompat hcommit _ _ hP => ?_
  rcases hcommit with hsame | ⟨call, -, hother, haccepted⟩
  · obtain ⟨hsessions, hmarks, -⟩ := AuditedSchool.audit_fields hsame
    unfold School.session? School.marksOf at hP ⊢
    rw [hsessions, hmarks]
    exact hP
  · have hid : id ≠ call.sessionId := by
      rintro rfl
      exact hcompat.not_writeLocked hlock hother
    obtain ⟨hsession, hmarks⟩ := haccepted.elsewhere id hid
    rw [hsession, hmarks]
    exact hP

theorem keeps_missing {held : List (Row × LockMode)} (id : ℕ) (p : Prop) :
    (relied calls s₀ i).Keeps held fun s =>
      s₀.LoggedSince s ∧ (s.school.session? id = none ∨ p) := by
  refine others_keeps_of loggedSince_promised fun j L s s' _ _ hcommit _ _ hA => ?_
  refine hA.imp_left fun hnone => ?_
  rcases hcommit with hsame | ⟨call, -, -, haccepted⟩
  · obtain ⟨hsessions, -, -⟩ := AuditedSchool.audit_fields hsame
    unfold School.session? at hnone ⊢
    rw [hsessions]
    exact hnone
  · by_cases hid : id = call.sessionId
    · obtain ⟨x, hx, -⟩ := haccepted.version
      rw [hid, hx] at hnone
      cases hnone
    · rw [(haccepted.elsewhere id hid).1]
      exact hnone

variable {G : Change AuditedSchool Row} {Q : β → AuditedSchool → Prop} {J : AuditedSchool → Prop}
  {held : List (Row × LockMode)} {view : AuditedSchool → AuditedSchool}
  {R : Change AuditedSchool Row}

theorem asserts_orRaise {r : Except ApiError α} {k : α → AuditedTransaction β}
    (hrest : ∀ a, r = .ok a → (k a).Asserts R G Q J held view) :
    ((onTables (orRaise r)).bind k).Asserts R G Q J held view := by
  cases r with
  | ok a => exact hrest a rfl
  | error e => trivial

theorem asserts_getSession {id : ℕ} {k : AttendanceSession → AuditedTransaction β}
    (hrest : ∀ x held, x.id = id → WriteLocked held (.session id) →
      (k x).Asserts (relied calls s₀ i) G Q
        (fun s => s₀.LoggedSince s ∧ s.school.session? id = some x) held fun s => s) :
    ((onTables (getSessionForUpdate id)).bind k).Asserts (relied calls s₀ i) G Q s₀.LoggedSince []
      fun s => s := by
  refine ⟨fun rows s => s₀.LoggedSince s ∧ (s.school.session? id = none ∨ .session id ∈ rows),
    fun s hs => ⟨hs, ?_⟩, fun rows => keeps_missing id _, fun rows => ?_⟩
  · cases hfound : s.school.session? id with
    | none => exact .inl rfl
    | some x =>
      refine .inr ?_
      show Row.session id ∈ (s.school.session? id).elim _ _
      rw [hfound, ← session?_id hfound]
      exact List.mem_cons_self
  · by_cases hrow : Row.session id ∈ rows
    · have hlock : WriteLocked ((rows.map fun r => (r, LockMode.update)).map
          (fun r => (tables.row r.1, r.2)) ++ []) (Row.session id) := by
        refine WriteLocked.of_update (List.mem_append_left _ ?_)
        exact List.mem_map.mpr ⟨(.session id, .update), List.mem_map_of_mem hrow, rfl⟩
      refine ⟨fun b s => s₀.LoggedSince s ∧ s.school.session? id = b, fun s hs => ⟨hs.1, rfl⟩,
        fun b => keeps_locked hlock fun o _ => o = b, fun b => ?_⟩
      cases b with
      | none => trivial
      | some x =>
        refine (Tx.Asserts.of_and fun hid => hrest x _ hid hlock).mono fun s hs => ?_
        exact ⟨hs, session?_id hs.2⟩
    · -- Where no row was found there is none later.
      refine ⟨fun b s => (s₀.LoggedSince s ∧ (s.school.session? id = none ∨ False)) ∧ b = none,
        fun s hs => ?_, fun b => (keeps_missing id False).and (Change.keeps_const _ _ _),
        fun b => ?_⟩
      · have hnone := hs.2.resolve_right hrow
        exact ⟨⟨hs.1, .inl hnone⟩, hnone⟩
      · cases b with
        | none => trivial
        | some x => exact Tx.Asserts.of_false fun s hs => nomatch hs.2

theorem asserts_saved {y : AttendanceSession} {rows : List Row} {b : β} (hJ : R.Keeps held J)
    (h : ∀ s, J s → G (rows.map (fun r => (r, .keyShare)) ++ (.session y.id, .noKeyUpdate) :: held)
      s ({ view s with school := (view s).school.putSession y }) ∧
        Q b { view s with school := (view s).school.putSession y }) :
    ((onTables (saveSession y)).bind fun _ => (onTables (checkReferences rows)).bind fun _ =>
      (.ret b : AuditedTransaction β)).Asserts R G Q J held view := by
  refine ⟨fun found s => J s ∧ found = [.session y.id], fun s hs => ⟨hs, rfl⟩,
    fun found => hJ.and (R.keeps_const held _), fun found => Tx.Asserts.of_and ?_⟩
  rintro rfl
  have hrows : (rows.map fun r => (r, LockMode.keyShare)).map (fun r => (tables.row r.1, r.2)) =
      rows.map fun r => (r, .keyShare) := by
    rw [List.map_map]
    rfl
  intro s hs
  have hlast := h s hs
  rw [← hrows] at hlast
  exact hlast

variable {setOrder : List ℕ → List ℕ} {clock : Clock} {sessionId studentId membership : ℕ}
  {roles : List SchoolRole} {expectedUpdatedAt : Instant} {request : List MarkInput}
  {status : String} {reason : Text}

theorem asserts_editLocked (hset : IsEnumeration setOrder)
    (hcall : calls[i]? = some (.editSession clock sessionId membership roles expectedUpdatedAt
      request reason)) :
    (editLocked setOrder clock sessionId membership roles expectedUpdatedAt request reason).Asserts
      (relied calls s₀ i) (promised calls i) (fun _ => s₀.LoggedSince) s₀.LoggedSince []
      fun s => s := by
  unfold editLocked
  simp only [Tx.bind_eq, Tx.pure_eq]
  refine asserts_getSession fun x held hid hlock => ?_
  subst hid
  have hkept : ∀ o, (relied calls s₀ i).Keeps held
      fun s => s₀.LoggedSince s ∧ s.school.session? x.id = o :=
    fun o => keeps_locked hlock fun o' _ => o' = o
  by_cases hstatus : x.status ≠ .submitted
  · rw [if_pos hstatus]
    trivial
  rw [if_neg hstatus]
  refine Tx.Asserts.select_any (hkept _) fun settings => asserts_orRaise fun _ _ => ?_
  by_cases hreason : isAdminCorrection roles = true ∧ Text.strip reason = []
  · rw [if_pos hreason]
    trivial
  rw [if_neg hreason]
  refine asserts_orRaise fun _ hcurrent => Tx.Asserts.select_any (hkept _) fun roster => ?_
  refine asserts_orRaise fun validated hvalid => ?_
  -- The marks are read under the lock of the session.
  refine Tx.Asserts.select (fun old s => s₀.LoggedSince s ∧ s.school.session? x.id = some x ∧
    s.school.markedStudents x.id = old) (fun s hs => ⟨hs.1, hs.2, rfl⟩) (fun old => ?_)
    fun old => ?_
  · exact keeps_locked hlock fun o ms => o = some x ∧ (ms.map fun m => m.student) = old
  · by_cases hchanges : setOrder (changedStudents old validated) = []
    · rw [if_pos hchanges]
      exact fun s hs => ⟨.inl rfl, hs.1⟩
    · rw [if_neg hchanges]
      refine Tx.Asserts.update (asserts_saved (keeps_locked hlock fun o ms =>
        o = some x ∧ (ms.map fun m => m.student) = old) ?_)
      rintro s ⟨hs, hfound, rfl⟩
      have haccepted := accepted_edit hset clock membership roles reason hfound (not_not.mp hstatus)
        (requireCurrentSession_ok hcurrent) hvalid hchanges
      have hpromised : ∀ L, WriteLocked L (.session x.id) → promised calls i L s _ :=
        fun L hL => .inr ⟨_, hcall, hL, haccepted⟩
      refine ⟨hpromised _ ?_, loggedSince_promised i held s _ (hpromised held hlock) hs⟩
      exact hlock.mono fun r hr => List.mem_append_right _ (List.mem_cons_of_mem _ hr)

theorem asserts_correctLocked
    (hasked : status = presentText ∨ status = AttendanceMarkStatus.absent.text)
    (hcall : calls[i]? = some (.correctStudentAttendance clock sessionId studentId membership roles
      status reason expectedUpdatedAt)) :
    (correctLocked clock sessionId studentId membership status reason expectedUpdatedAt).Asserts
      (relied calls s₀ i) (promised calls i) (fun _ => s₀.LoggedSince) s₀.LoggedSince []
      fun s => s := by
  unfold correctLocked
  simp only [Tx.bind_eq, Tx.pure_eq]
  refine asserts_getSession fun x held hid hlock => ?_
  subst hid
  by_cases hstatus : x.status ≠ .submitted
  · rw [if_pos hstatus]
    trivial
  rw [if_neg hstatus]
  refine Tx.Asserts.select (fun mark s => s₀.LoggedSince s ∧ s.school.session? x.id = some x ∧
    (studentId ∈ s.school.markedStudents x.id ↔ mark.isSome = true))
    (fun s hs => ⟨hs.1, hs.2, (isSome_markOf x.id studentId).symm⟩) (fun mark => ?_) fun mark => ?_
  · exact keeps_locked hlock fun o ms =>
      o = some x ∧ (studentId ∈ ms.map (fun m => m.student) ↔ mark.isSome = true)
  · have hkept : (relied calls s₀ i).Keeps held fun s => s₀.LoggedSince s ∧
        s.school.session? x.id = some x ∧
          (studentId ∈ s.school.markedStudents x.id ↔ mark.isSome = true) :=
      keeps_locked hlock fun o ms =>
        o = some x ∧ (studentId ∈ ms.map (fun m => m.student) ↔ mark.isSome = true)
    refine Tx.Asserts.select_any hkept fun enrolled => ?_
    by_cases hbelongs : (!enrolled) = true ∧ ¬ (mark.isSome = true ∧ status = presentText)
    · rw [if_pos hbelongs]
      trivial
    rw [if_neg hbelongs]
    by_cases hsame : statusText mark.isSome = status
    · rw [if_pos hsame]
      trivial
    rw [if_neg hsame]
    refine asserts_orRaise fun _ hcurrent => Tx.Asserts.update (asserts_saved hkept ?_)
    rintro s ⟨hs, hfound, hmark⟩
    have haccepted := accepted_correct clock studentId membership roles reason hfound (not_not.mp hstatus)
      (requireCurrentSession_ok hcurrent) hasked
    have hsome : (s.school.markOf x.id studentId).isSome = mark.isSome :=
      Bool.eq_iff_iff.mpr ((isSome_markOf x.id studentId).trans hmark)
    rw [hsome] at haccepted
    have hpromised : ∀ L, WriteLocked L (.session x.id) → promised calls i L s _ :=
      fun L hL => .inr ⟨_, hcall, hL, haccepted⟩
    refine ⟨hpromised _ ?_, loggedSince_promised i held s _ (hpromised held hlock) hs⟩
    exact hlock.mono fun r hr => List.mem_append_right _ (List.mem_cons_of_mem _ hr)

/-! ## Calls -/

theorem afterMarks_keeps (clock : Clock) (session : AttendanceSession) (studentIds : List ℕ) :
    (afterMarks clock session studentIds).Keeps AuditedSchool.audit := by
  refine Program.Keeps.zoom (fun s : School => (s.sessions, s.marks)) (fun s t h => ?_) ?_
  · obtain ⟨hsessions, hmarks⟩ : s.sessions = t.school.sessions ∧ s.marks = t.school.marks := by
      simpa [tables] using h
    simp [AuditedSchool.audit, tables, hsessions, hmarks]
  · unfold SchoolPlatform.afterMarks
    refine (reconciliation_keepsBeside (fun _ _ _ _ => rfl) (fun _ _ => rfl) _ _ _).bind
      fun _ => ?_
    exact (recalculate_keepsBeside (fun _ _ => rfl) (fun _ _ => rfl) _ _ _).bind fun _ => trivial

theorem asserts_keeps {p : AuditedOperation α} (h : p.Keeps AuditedSchool.audit) :
    p.Asserts (relied calls s₀ i) (promised calls i) (fun _ _ => True) s₀.LoggedSince := by
  refine h.asserts (fun _ _ _ _ => .inl) (fun s s' hs hsame => ?_)
    (others_keeps loggedSince_promised i [])
  have hpromised : promised calls i [] s s' := .inl hsame
  exact loggedSince_promised i [] s s' hpromised hs

theorem asserts_program (hset : IsEnumeration setOrder) {call : EditingCall}
    (hcall : calls[i]? = some call) : (call.program setOrder).Asserts (relied calls s₀ i)
      (promised calls i) (fun _ _ => True) s₀.LoggedSince := by
  have hstable : ∀ held, (relied calls s₀ i).Keeps held s₀.LoggedSince :=
    others_keeps loggedSince_promised i
  cases call with
  | editSession clock sessionId membership roles expectedUpdatedAt request reason =>
    refine ⟨fun _ => s₀.LoggedSince, asserts_editLocked hset hcall, fun _ => hstable [],
      fun r => asserts_keeps (Program.Keeps.bind ?_ fun _ => trivial)⟩
    obtain ⟨session, changes⟩ := r
    show (if changes = [] then _ else _ : AuditedOperation AttendanceSession).Keeps _
    by_cases hnone : changes = []
    · rw [if_pos hnone]
      trivial
    · rw [if_neg hnone]
      exact (afterMarks_keeps clock session changes).bind fun _ => trivial
  | correctStudentAttendance clock sessionId studentId membership roles status reason
      expectedUpdatedAt =>
    show ((correctStudentAttendance clock sessionId studentId membership roles status reason
      expectedUpdatedAt).bind fun _ => .ret ()).Asserts _ _ _ _
    unfold correctStudentAttendance
    by_cases hadmin : (!isAdminCorrection roles) = true
    · rw [if_pos hadmin]
      trivial
    rw [if_neg hadmin]
    by_cases hreason : Text.strip reason = []
    · rw [if_pos hreason]
      trivial
    rw [if_neg hreason]
    by_cases hasked : status ≠ presentText ∧ status ≠ AttendanceMarkStatus.absent.text
    · rw [if_pos hasked]
      trivial
    rw [if_neg hasked]
    have hasked' : status = presentText ∨ status = AttendanceMarkStatus.absent.text := by
      by_contra hnot
      exact hasked ⟨fun h => hnot (.inl h), fun h => hnot (.inr h)⟩
    refine ⟨fun _ => s₀.LoggedSince, asserts_correctLocked hasked' hcall, fun _ => hstable [],
      fun session => asserts_keeps (Program.Keeps.bind ?_ fun _ => trivial)⟩
    exact (afterMarks_keeps clock session [studentId]).bind fun _ => trivial

def startOf (setOrder : List ℕ → List ℕ) (calls : List EditingCall)
    (beside : List (AuditedOperation Unit)) (s : AuditedSchool) :
    Config AuditedSchool Row Failure Unit :=
  Config.start s (calls.map (EditingCall.program setOrder) ++ beside)

variable {beside : List (AuditedOperation Unit)}

end SchoolPlatform.Audited
