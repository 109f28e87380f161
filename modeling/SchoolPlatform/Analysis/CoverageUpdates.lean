import SchoolPlatform.Analysis.Reconciliation

/-!
# Single changes of the tables

What each change of a table does to absences, excuses and coverages, and that it keeps the
school sound. `CoverageExact.frame` is the common reason why a change leaves a date of a student
exact: its sessions, absences, excuses and coverages are as before.
-/

namespace SchoolPlatform

open ReadCommitted

variable {s s' : School}

variable {k : Date × ℕ} {x x' y : AttendanceSession} {e e' : AbsenceExcuse}

theorem School.CoverageExact.frame (h : s.CoverageExact k)
    (hsame : ∀ x' ∈ s'.sessions, x'.attendanceDate = k.1 → ∃ x ∈ s.sessions, x.id = x'.id ∧
      x.attendanceDate = k.1 ∧ x.periodSequence = x'.periodSequence ∧ (x'.status = .submitted ↔
      x.status = .submitted) ∧ (s'.Absent x'.id k.2 ↔ s.Absent x'.id k.2) ∧ (s'.Covered x'.id k.2
      ↔ s.Covered x'.id k.2) ∧ (s'.Excused k.2 k.1 x'.periodSequence ↔ s.Excused k.2 k.1
      x'.periodSequence)) : s'.CoverageExact k := by
  intro x' hx' hd
  obtain ⟨x, hx, hid, hxd, hper, hsub, habs, hcov, hexc⟩ := hsame x' hx' hd
  have hold := h x hx hxd
  unfold School.Justified at hold ⊢
  rw [hid, hxd, hper] at hold
  rw [hcov, hsub, habs, hd, hexc]
  exact hold

/-- The same session with another status or time of change. -/
structure AttendanceSession.SameSlot (x x' : AttendanceSession) : Prop where
  id : x'.id = x.id
  section_ : x'.sectionId = x.sectionId
  date : x'.attendanceDate = x.attendanceDate
  period : x'.periodSequence = x.periodSequence

theorem School.mem_putSession (hx : x ∈ s.sessions) (h : x.SameSlot x') :
    y ∈ (s.putSession x').sessions ↔ y = x' ∨ (y ∈ s.sessions ∧ y.id ≠ x.id) := by
  have hmem := Table.mem_put_iff (fun x : AttendanceSession => x.id) x' y
    ⟨x, hx, h.id.symm⟩
  rw [h.id] at hmem
  exact hmem

theorem School.exists_slot (hx : x ∈ s.sessions) (h : x.SameSlot x')
    (hy : y ∈ (s.putSession x').sessions) :
    ∃ z ∈ s.sessions, z.SameSlot y ∧ (y.id ≠ x.id → z = y) := by
  rw [School.mem_putSession hx h] at hy
  rcases hy with rfl | ⟨hy, -⟩
  · exact ⟨x, hx, h, fun hne => (hne h.id).elim⟩
  · exact ⟨y, hy, ⟨rfl, rfl, rfl, rfl⟩, fun _ => rfl⟩

theorem School.exists_slot' (hx : x ∈ s.sessions) (h : x.SameSlot x') (hs : s.Keyed)
    (hy : y ∈ s.sessions) : ∃ z ∈ (s.putSession x').sessions, y.SameSlot z := by
  by_cases hid : y.id = x.id
  · have hyx : y = x := hs.session_unique hy hx hid
    subst hyx
    exact ⟨x', (School.mem_putSession hx h).mpr (.inl rfl), h⟩
  · exact ⟨y, (School.mem_putSession hx h).mpr (.inr ⟨hy, hid⟩), ⟨rfl, rfl, rfl, rfl⟩⟩

theorem School.Sound.putSession (hs : s.Sound) (hx : x ∈ s.sessions) (h : x.SameSlot x') :
    (s.putSession x').Sound := by
  have hk := hs.toKeyed
  have hslots : ((s.putSession x').sessions.map
      fun x => (x.sectionId, x.attendanceDate, x.periodSequence)) =
      s.sessions.map fun x => (x.sectionId, x.attendanceDate, x.periodSequence) := by
    show ((s.sessions.map fun y => if y.id = x'.id then x' else y).map _) = _
    rw [List.map_map]
    apply List.map_congr_left
    intro y hy
    by_cases hid : y.id = x'.id
    · have hyx : y = x := hk.session_unique hy hx (hid.trans h.id)
      simp [hyx, h.id, h.section_, h.date, h.period]
    · simp [hid]
  obtain ⟨⟨a₁, a₂, a₃, a₄, a₅, a₆, a₇, a₈, a₉⟩, a₁₀⟩ := hs
  refine ⟨⟨?_, hslots ▸ a₂, a₃, a₄, a₅, ?_, a₇, a₈, a₉⟩, ?_⟩
  · have hids := Table.map_put (fun x : AttendanceSession => x.id) x' s.sessions
    exact hids ▸ a₁
  · intro m hm
    obtain ⟨y, hy, hid⟩ := a₆ m hm
    obtain ⟨z, hz, hslot⟩ := School.exists_slot' hx h hk hy
    exact ⟨z, hz, hslot.id.trans hid⟩
  · intro c hc
    obtain ⟨⟨y, hy, hyid, hyd, hyp⟩, he⟩ := a₁₀ c hc
    obtain ⟨z, hz, hslot⟩ := School.exists_slot' hx h hk hy
    exact ⟨⟨z, hz, hslot.id.trans hyid, hslot.date.trans hyd, hslot.period.trans hyp⟩, he⟩

theorem School.CoverageExact.putSession (he : s.CoverageExact k) (hs : s.Keyed)
    (hx : x ∈ s.sessions) (h : x.SameSlot x') (hk : x.attendanceDate ≠ k.1 ∨ x'.status = x.status) :
    (s.putSession x').CoverageExact k := by
  refine he.frame fun y hy hd => ?_
  obtain ⟨z, hz, hslot, hother⟩ := School.exists_slot hx h hy
  refine ⟨z, hz, hslot.id.symm, hslot.date.symm.trans hd, hslot.period.symm, ?_, .rfl, .rfl, .rfl⟩
  by_cases hid : y.id = x.id
  · rw [School.mem_putSession hx h] at hy
    have hyx : y = x' := hy.resolve_right fun h' => h'.2 hid
    have hzx : z = x := hs.session_unique hz hx (hslot.id.symm.trans hid)
    rcases hk with hk | hk
    · exact (hk (h.date.symm.trans (hyx ▸ hd))).elim
    · rw [hyx, hzx, hk]
  · rw [hother hid]

theorem School.Sound.addSession (hs : s.Sound) (hid : ∀ y ∈ s.sessions, y.id ≠ x.id)
    (hslot : ∀ y ∈ s.sessions, (y.sectionId, y.attendanceDate, y.periodSequence) ≠ (x.sectionId,
      x.attendanceDate, x.periodSequence)) : (s.addSession x).Sound := by
  obtain ⟨⟨a₁, a₂, a₃, a₄, a₅, a₆, a₇, a₈, a₉⟩, a₁₀⟩ := hs
  have hsub : ∀ y ∈ s.sessions, y ∈ (s.addSession x).sessions :=
    fun y hy => List.mem_append_left _ hy
  refine ⟨⟨?_, ?_, a₃, a₄, a₅, ?_, a₇, a₈, a₉⟩, ?_⟩
  · show ((s.sessions ++ [x]).map fun x => x.id).Nodup
    rw [List.map_append, List.nodup_append]
    refine ⟨a₁, by simp, ?_⟩
    intro a ha b hb hab
    obtain ⟨y, hy, rfl⟩ := List.mem_map.mp ha
    simp only [List.map_cons, List.map_nil, List.mem_singleton] at hb
    exact hid y hy (hab.trans hb)
  · show ((s.sessions ++ [x]).map
      fun x => (x.sectionId, x.attendanceDate, x.periodSequence)).Nodup
    rw [List.map_append, List.nodup_append]
    refine ⟨a₂, by simp, ?_⟩
    intro a ha b hb hab
    obtain ⟨y, hy, rfl⟩ := List.mem_map.mp ha
    simp only [List.map_cons, List.map_nil, List.mem_singleton] at hb
    exact hslot y hy (hab.trans hb)
  · intro m hm
    obtain ⟨y, hy, h⟩ := a₆ m hm
    exact ⟨y, hsub y hy, h⟩
  · intro c hc
    obtain ⟨⟨y, hy, h⟩, he⟩ := a₁₀ c hc
    exact ⟨⟨y, hsub y hy, h⟩, he⟩

theorem School.CoverageExact.addSession (he : s.CoverageExact k) (hs : s.Sound)
    (hid : ∀ y ∈ s.sessions, y.id ≠ x.id) (hx : x.status = .inProgress) :
    (s.addSession x).CoverageExact k := by
  intro y hy hd
  rcases List.mem_append.mp hy with hy | hy
  · exact he y hy hd
  · rw [List.mem_singleton] at hy
    subst hy
    constructor
    · rintro ⟨c, hc, hses, -⟩
      obtain ⟨⟨z, hz, hzid, -⟩, -⟩ := hs.coverage_backed c hc
      exact (hid z hz (hzid.trans hses)).elim
    · rintro ⟨hsub, -⟩
      rw [hx] at hsub
      cases hsub

theorem School.Sound.withMarks (hs : s.Sound) {marks : List AttendanceMark}
    (hkeys : (marks.map fun x => (x.session, x.student)).Nodup)
    (hsessions : ∀ m ∈ marks, ∃ x ∈ s.sessions, x.id = m.session) :
    ({ s with marks := marks } : School).Sound := by
  obtain ⟨⟨a₁, a₂, a₃, a₄, -, -, a₇, a₈, a₉⟩, a₁₀⟩ := hs
  refine ⟨⟨a₁, a₂, a₃, a₄, hkeys, hsessions, a₇, a₈, a₉⟩, fun c hc => ?_⟩
  obtain ⟨hx, he⟩ := a₁₀ c hc
  exact ⟨hx, he⟩

theorem School.CoverageExact.withMarks (he : s.CoverageExact k) {marks : List AttendanceMark}
    (habs : ∀ x ∈ s.sessions, x.attendanceDate = k.1 → (({ s with marks := marks } :
      School).Absent x.id k.2 ↔ s.Absent x.id k.2)) :
    ({ s with marks := marks } : School).CoverageExact k :=
  he.frame fun x hx hd => ⟨x, hx, rfl, hd, rfl, .rfl, habs x hx hd, .rfl, .rfl⟩

theorem School.absent_replaceMarks (session session' student : ℕ) (students : List ℕ) :
    (s.replaceMarks session students).Absent session' student ↔
      if session' = session then student ∈ students else s.Absent session' student := by
  unfold School.Absent School.replaceMarks
  simp only [List.mem_append, List.mem_filter, decide_eq_true_eq, List.mem_map]
  by_cases hses : session' = session
  · rw [if_pos hses]
    constructor
    · rintro ⟨m, ⟨-, hne⟩ | ⟨stu, hstu, rfl⟩, hm, hst, -⟩
      · exact (hne (hm.trans hses)).elim
      · exact hst ▸ hstu
    · intro hmem
      exact ⟨⟨session, student, .absent⟩, .inr ⟨student, hmem, rfl⟩, hses.symm, rfl, trivial⟩
  · rw [if_neg hses]
    constructor
    · rintro ⟨m, ⟨hm, -⟩ | ⟨stu, -, rfl⟩, hms, hst, hab⟩
      · exact ⟨m, hm, hms, hst, hab⟩
      · exact (hses hms.symm).elim
    · rintro ⟨m, hm, hms, hst, hab⟩
      exact ⟨m, .inl ⟨hm, fun h => hses (hms.symm.trans h)⟩, hms, hst, hab⟩

theorem School.Sound.replaceMarks (hs : s.Sound) {session : ℕ} {students : List ℕ}
    (hx : ∃ x ∈ s.sessions, x.id = session) (hnodup : students.Nodup) :
    (s.replaceMarks session students).Sound := by
  refine hs.withMarks ?_ ?_
  · rw [List.map_append, List.map_map, List.nodup_append]
    refine ⟨hs.mark_keys.sublist (List.Sublist.map _ List.filter_sublist), ?_, ?_⟩
    · apply hnodup.map
      intro a b hab
      exact (Prod.mk.injEq _ _ _ _ ▸ hab).2
    · intro a ha b hb hab
      obtain ⟨m, hm, rfl⟩ := List.mem_map.mp ha
      obtain ⟨stu, -, rfl⟩ := List.mem_map.mp hb
      have hne := (List.mem_filter.mp hm).2
      rw [decide_eq_true_eq] at hne
      exact hne (congrArg Prod.fst hab)
  · intro m hm
    rcases List.mem_append.mp hm with hm | hm
    · exact hs.mark_session m (List.mem_filter.mp hm).1
    · obtain ⟨stu, -, rfl⟩ := List.mem_map.mp hm
      exact hx

theorem School.CoverageExact.replaceMarks (he : s.CoverageExact k) (hs : s.Keyed)
    (hx : x ∈ s.sessions) {students : List ℕ}
    (hsame : x.attendanceDate = k.1 → (k.2 ∈ (s.marksOf x.id).map (fun m => m.student) ↔ k.2 ∈
      students)) : (s.replaceMarks x.id students).CoverageExact k := by
  refine he.withMarks fun y hy hd => ?_
  have habs := s.absent_replaceMarks x.id y.id k.2 students
  by_cases hid : y.id = x.id
  · rw [if_pos hid] at habs
    have hyx : y = x := hs.session_unique hy hx hid
    refine habs.trans ((hsame (hyx ▸ hd)).symm.trans ?_)
    unfold School.Absent School.marksOf
    rw [List.mem_map]
    constructor
    · rintro ⟨m, hm, hst⟩
      rw [List.mem_filter, decide_eq_true_eq] at hm
      exact ⟨m, hm.1, hm.2.trans hid.symm, hst, m.status.eq_absent⟩
    · rintro ⟨m, hm, hms, hst, -⟩
      exact ⟨m, List.mem_filter.mpr ⟨hm, by simpa using hms.trans hid⟩, hst⟩
  · rw [if_neg hid] at habs
    exact habs

theorem School.absent_setMark (session session' student student' : ℕ) (status : String)
    (hne : ¬ (session' = session ∧ student' = student)) :
    (s.setMark session student status).Absent session' student' ↔
      s.Absent session' student' := by
  unfold School.setMark
  split
  · unfold School.Absent School.addMark
    simp only [List.mem_append, List.mem_singleton]
    constructor
    · rintro ⟨m, hm | rfl, hms, hst, hab⟩
      · exact ⟨m, hm, hms, hst, hab⟩
      · exact (hne ⟨hms.symm, hst.symm⟩).elim
    · rintro ⟨m, hm, h⟩
      exact ⟨m, .inl hm, h⟩
  · unfold School.Absent School.removeMark
    simp only [List.mem_filter, decide_eq_true_eq]
    constructor
    · rintro ⟨m, ⟨hm, -⟩, h⟩
      exact ⟨m, hm, h⟩
    · rintro ⟨m, hm, hms, hst, hab⟩
      exact ⟨m, ⟨hm, fun h => hne ⟨hms.symm.trans h.1, hst.symm.trans h.2⟩⟩, hms, hst, hab⟩

theorem School.CoverageExact.setMark (he : s.CoverageExact k) (hs : s.Keyed) (hx : x ∈ s.sessions)
    {student : ℕ} (status : String) (hk : ¬ (x.attendanceDate = k.1 ∧ k.2 = student)) :
    (s.setMark x.id student status).CoverageExact k := by
  have habs : ∀ y ∈ s.sessions, y.attendanceDate = k.1 →
      ((s.setMark x.id student status).Absent y.id k.2 ↔ s.Absent y.id k.2) := by
    intro y hy hd
    refine School.absent_setMark _ _ _ _ _ ?_
    rintro ⟨hid, hst⟩
    exact hk ⟨(hs.session_unique hy hx hid) ▸ hd, hst⟩
  unfold School.setMark at habs ⊢
  split
  · rename_i hstatus
    rw [if_pos hstatus] at habs
    exact he.withMarks habs
  · rename_i hstatus
    rw [if_neg hstatus] at habs
    exact he.withMarks habs

theorem School.Sound.setMark (hs : s.Sound) {session student : ℕ} {status : String}
    (hx : ∃ x ∈ s.sessions, x.id = session)
    (hfree : status = AttendanceMarkStatus.absent.text → s.markOf session student = none) :
    (s.setMark session student status).Sound := by
  unfold School.setMark
  split
  · rename_i hstatus
    refine hs.withMarks ?_ ?_
    · rw [List.map_append, List.nodup_append]
      refine ⟨hs.mark_keys, by simp, ?_⟩
      intro a ha b hb hab
      obtain ⟨m, hm, rfl⟩ := List.mem_map.mp ha
      simp only [List.map_cons, List.map_nil, List.mem_singleton] at hb
      have hno := List.find?_eq_none.mp (hfree hstatus) m hm
      rw [hb, Prod.mk.injEq] at hab
      simp [hab.1, hab.2] at hno
    · intro m hm
      rcases List.mem_append.mp hm with hm | hm
      · exact hs.mark_session m hm
      · rw [List.mem_singleton] at hm
        exact hm ▸ hx
  · refine hs.withMarks ?_ fun m hm => hs.mark_session m (List.mem_filter.mp hm).1
    exact hs.mark_keys.sublist (List.Sublist.map _ List.filter_sublist)

def School.ExcusedByOther (s : School) (id student : ℕ) (d : Date) (period : ℕ) : Prop :=
  ∃ e ∈ s.excuses, e.id ≠ id ∧ e.student = student ∧ e.status = .approved ∧
    ∃ t ∈ s.targets, t.excuse = e.id ∧ t.attendanceDate = d ∧ t.matchesPeriod period = true

theorem School.mem_putExcuse {y : AbsenceExcuse} (he : e ∈ s.excuses) (hid : e'.id = e.id) :
    y ∈ (s.putExcuse e').excuses ↔ y = e' ∨ (y ∈ s.excuses ∧ y.id ≠ e.id) := by
  have hmem := Table.mem_put_iff (fun x : AbsenceExcuse => x.id) e' y ⟨e, he, hid.symm⟩
  rw [hid] at hmem
  exact hmem

theorem School.putExcuse_keyed (hs : s.Keyed) (he : e ∈ s.excuses) (hid : e'.id = e.id) :
    (s.putExcuse e').Keyed := by
  obtain ⟨a₁, a₂, a₃, a₄, a₅, a₆, a₇, a₈, a₉⟩ := hs
  refine ⟨a₁, a₂, ?_, ?_, a₅, a₆, a₇, a₈, a₉⟩
  · have hids := Table.map_put (fun x : AbsenceExcuse => x.id) e' s.excuses
    exact hids ▸ a₃
  · intro t ht
    obtain ⟨y, hy, hty⟩ := a₄ t ht
    by_cases hye : y.id = e.id
    · exact ⟨e', (School.mem_putExcuse he hid).mpr (.inl rfl), hid.trans (hye.symm.trans hty)⟩
    · exact ⟨y, (School.mem_putExcuse he hid).mpr (.inr ⟨hy, hye⟩), hty⟩

theorem School.excused_putExcuse (he : e ∈ s.excuses) (hid : e'.id = e.id)
    (hnot : e'.status ≠ .approved) (student : ℕ) (d : Date) (period : ℕ) :
    (s.putExcuse e').Excused student d period ↔ s.ExcusedByOther e.id student d period := by
  unfold School.Excused School.ExcusedByOther
  constructor
  · rintro ⟨y, hy, hst, happ, ht⟩
    rw [School.mem_putExcuse he hid] at hy
    rcases hy with rfl | ⟨hy, hne⟩
    · exact (hnot happ).elim
    · exact ⟨y, hy, hne, hst, happ, ht⟩
  · rintro ⟨y, hy, hne, hst, happ, ht⟩
    exact ⟨y, (School.mem_putExcuse he hid).mpr (.inr ⟨hy, hne⟩), hst, happ, ht⟩

theorem School.Keyed.excusedByOther_iff (hs : s.Keyed) (he : e ∈ s.excuses)
    (hnot : e.status ≠ .approved) (student : ℕ) (d : Date) (period : ℕ) :
    s.ExcusedByOther e.id student d period ↔ s.Excused student d period := by
  unfold School.Excused School.ExcusedByOther
  constructor
  · rintro ⟨y, hy, -, h⟩
    exact ⟨y, hy, h⟩
  · rintro ⟨y, hy, hst, happ, ht⟩
    refine ⟨y, hy, ?_, hst, happ, ht⟩
    intro hid
    have hye : y = e := hs.excuse_unique hy he hid
    exact hnot (hye ▸ happ)

theorem School.Sound.excuse_ne (hs : s.Sound) (he : e ∈ s.excuses) (hnot : e.status ≠ .approved)
    {c : AbsenceExcuseCoverage} (hc : s.Active c) : c.excuse ≠ e.id := by
  obtain ⟨-, ⟨y, hy, hyid, -, happ, -⟩⟩ := hs.coverage_backed c hc
  intro hid
  have hye : y = e := hs.excuse_unique hy he (hyid.trans hid)
  exact hnot (hye ▸ happ)

theorem School.Backed.putExcuse {c : AbsenceExcuseCoverage} (hb : s.Backed c) (he : e ∈ s.excuses)
    (hid : e'.id = e.id) (hne : c.excuse ≠ e.id) : (s.putExcuse e').Backed c := by
  obtain ⟨hx, ⟨y, hy, hyid, h⟩⟩ := hb
  refine ⟨hx, y, (School.mem_putExcuse he hid).mpr (.inr ⟨hy, ?_⟩), hyid, h⟩
  intro hye
  exact hne (hyid.symm.trans hye)

theorem School.Sound.putExcuse (hs : s.Sound) (he : e ∈ s.excuses) (hid : e'.id = e.id)
    (hnot : e.status ≠ .approved) : (s.putExcuse e').Sound :=
  ⟨School.putExcuse_keyed hs.toKeyed he hid,
    fun c hc => (hs.coverage_backed c hc).putExcuse he hid (hs.excuse_ne he hnot hc)⟩

theorem School.CoverageExact.putExcuse (h : s.CoverageExact k) (hs : s.Keyed) (he : e ∈ s.excuses)
    (hid : e'.id = e.id) (hnot : e.status ≠ .approved) (hnot' : e'.status ≠ .approved) :
    (s.putExcuse e').CoverageExact k := by
  refine h.frame fun x hx hd => ⟨x, hx, rfl, hd, rfl, .rfl, .rfl, .rfl, ?_⟩
  rw [School.excused_putExcuse he hid hnot', hs.excusedByOther_iff he hnot]

def TargetInput.AppliesTo (t : TargetInput) (d : Date) (period : ℕ) : Prop :=
  t.attendanceDate = d ∧ (t.periodSequence = none ∨ t.periodSequence = some period)

theorem School.excused_addExcuse (hs : s.Keyed) (hfree : ∀ y ∈ s.excuses, y.id ≠ e.id)
    (targets : List TargetInput) (student : ℕ) (d : Date) (period : ℕ) :
    (s.addExcuse e targets).Excused student d period ↔ s.Excused student d period ∨
      (e.student = student ∧ e.status = .approved ∧ ∃ t ∈ targets, t.AppliesTo d period) := by
  unfold School.Excused School.addExcuse
  simp only [List.mem_append, List.mem_singleton, List.mem_map]
  constructor
  · rintro ⟨y, hy, hst, happ, t, ht, hty, htd, htm⟩
    rcases hy with hy | rfl
    · rcases ht with ht | ⟨t', -, rfl⟩
      · exact .inl ⟨y, hy, hst, happ, t, ht, hty, htd, htm⟩
      · exact (hfree y hy hty.symm).elim
    · rcases ht with ht | ⟨t', ht', rfl⟩
      · obtain ⟨z, hz, hzid⟩ := hs.target_excuse t ht
        exact (hfree z hz (hzid.trans hty)).elim
      · exact .inr ⟨hst, happ, t', ht', htd, by
          simpa [AbsenceExcuseTarget.matchesPeriod] using htm⟩
  · rintro (⟨y, hy, hst, happ, t, ht, h⟩ | ⟨hst, happ, t, ht, htd, htm⟩)
    · exact ⟨y, .inl hy, hst, happ, t, .inl ht, h⟩
    · exact ⟨e, .inr rfl, hst, happ, _, .inr ⟨t, ht, rfl⟩, rfl, htd, by
        simpa [AbsenceExcuseTarget.matchesPeriod] using htm⟩

theorem School.Sound.addExcuse (hs : s.Sound) (hfree : ∀ y ∈ s.excuses, y.id ≠ e.id)
    (targets : List TargetInput) : (s.addExcuse e targets).Sound := by
  obtain ⟨⟨a₁, a₂, a₃, a₄, a₅, a₆, a₇, a₈, a₉⟩, a₁₀⟩ := hs
  refine ⟨⟨a₁, a₂, ?_, ?_, a₅, a₆, a₇, a₈, a₉⟩, ?_⟩
  · show ((s.excuses ++ [e]).map fun x => x.id).Nodup
    rw [List.map_append, List.nodup_append]
    refine ⟨a₃, by simp, ?_⟩
    intro a ha b hb hab
    obtain ⟨y, hy, rfl⟩ := List.mem_map.mp ha
    simp only [List.map_cons, List.map_nil, List.mem_singleton] at hb
    exact hfree y hy (hab.trans hb)
  · intro t ht
    rcases List.mem_append.mp ht with ht | ht
    · obtain ⟨y, hy, h⟩ := a₄ t ht
      exact ⟨y, List.mem_append_left _ hy, h⟩
    · obtain ⟨t', -, rfl⟩ := List.mem_map.mp ht
      exact ⟨e, List.mem_append_right _ (List.mem_singleton.mpr rfl), rfl⟩
  · intro c hc
    obtain ⟨hx, ⟨y, hy, hyid, hst, happ, t, ht, h⟩⟩ := a₁₀ c hc
    exact ⟨hx, y, List.mem_append_left _ hy, hyid, hst, happ, t, List.mem_append_left _ ht, h⟩

theorem School.excused_replaceTargets (hs : s.Keyed) (he : e ∈ s.excuses)
    (hnot : e.status ≠ .approved) (targets : List TargetInput) (student : ℕ) (d : Date)
    (period : ℕ) :
    (s.replaceTargets e.id targets).Excused student d period ↔ s.Excused student d period := by
  rw [← hs.excusedByOther_iff he hnot]
  unfold School.Excused School.ExcusedByOther School.replaceTargets
  simp only [List.mem_append, List.mem_filter, decide_eq_true_eq, List.mem_map]
  constructor
  · rintro ⟨y, hy, hst, happ, t, ht, hty, htd, htm⟩
    have hne : y.id ≠ e.id := by
      intro hid
      have hye : y = e := hs.excuse_unique hy he hid
      exact hnot (hye ▸ happ)
    rcases ht with ⟨ht, -⟩ | ⟨t', -, rfl⟩
    · exact ⟨y, hy, hne, hst, happ, t, ht, hty, htd, htm⟩
    · exact (hne hty.symm).elim
  · rintro ⟨y, hy, hne, hst, happ, t, ht, hty, htd, htm⟩
    exact ⟨y, hy, hst, happ, t, .inl ⟨ht, fun h => hne (hty.symm.trans h)⟩, hty, htd, htm⟩

theorem School.Sound.replaceTargets (hs : s.Sound) (he : e ∈ s.excuses)
    (hnot : e.status ≠ .approved) (targets : List TargetInput) :
    (s.replaceTargets e.id targets).Sound := by
  have hne : ∀ c, s.Active c → c.excuse ≠ e.id := fun c hc => hs.excuse_ne he hnot hc
  obtain ⟨⟨a₁, a₂, a₃, a₄, a₅, a₆, a₇, a₈, a₉⟩, a₁₀⟩ := hs
  refine ⟨⟨a₁, a₂, a₃, ?_, a₅, a₆, a₇, a₈, a₉⟩, ?_⟩
  · intro t ht
    rcases List.mem_append.mp ht with ht | ht
    · exact a₄ t (List.mem_filter.mp ht).1
    · obtain ⟨t', -, rfl⟩ := List.mem_map.mp ht
      exact ⟨e, he, rfl⟩
  · intro c hc
    obtain ⟨hx, ⟨y, hy, hyid, hst, happ, t, ht, hty, h⟩⟩ := a₁₀ c hc
    refine ⟨hx, y, hy, hyid, hst, happ, t, List.mem_append_left _ (List.mem_filter.mpr ⟨ht, ?_⟩),
      hty, h⟩
    rw [decide_eq_true_eq]
    intro hid
    exact hne c hc (hyid.symm.trans (hty.symm.trans hid))

theorem School.CoverageExact.replaceTargets (hk : s.CoverageExact k) (hs : s.Keyed)
    (he : e ∈ s.excuses) (hnot : e.status ≠ .approved) (targets : List TargetInput) :
    (s.replaceTargets e.id targets).CoverageExact k := by
  refine hk.frame fun x hx hd => ⟨x, hx, rfl, hd, rfl, .rfl, .rfl, .rfl, ?_⟩
  exact School.excused_replaceTargets hs he hnot targets _ _ _

theorem School.CoverageExact.addExcuse (hk : s.CoverageExact k) (hs : s.Keyed)
    (hfree : ∀ y ∈ s.excuses, y.id ≠ e.id) {targets : List TargetInput}
    (hnone : e.status = .approved → e.student = k.2 → (∃ t ∈ targets, t.attendanceDate = k.1) → ∀
      x ∈ s.sessions, x.attendanceDate = k.1 → x.status = .submitted → ¬ s.Absent x.id k.2) :
    (s.addExcuse e targets).CoverageExact k := by
  intro x hx hd
  have hold := hk x hx hd
  have hcov : (s.addExcuse e targets).Covered x.id k.2 ↔ s.Covered x.id k.2 := Iff.rfl
  rw [hcov, hold]
  unfold School.Justified
  rw [School.excused_addExcuse hs hfree]
  constructor
  · rintro ⟨hsub, habs, hexc⟩
    exact ⟨hsub, habs, .inl hexc⟩
  · rintro ⟨hsub, habs, hexc | ⟨hst, happ, t, ht, htd, -⟩⟩
    · exact ⟨hsub, habs, hexc⟩
    · exact (hnone happ hst ⟨t, ht, htd.trans hd⟩ x hx hd hsub habs).elim

end SchoolPlatform
