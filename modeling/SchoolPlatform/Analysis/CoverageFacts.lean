import SchoolPlatform.Model.Service

/-!
# What a coverage stands for

`Covered` says that an active coverage stands for a student in a session, `Justified` that there
is a reason for one: the session is submitted, the student is marked absent in it, and an
approved excuse of the student applies to its date and period. `Sound` collects the facts about
the tables that every transaction keeps; `CoverageExact` is the relation the operations restore.
-/

namespace SchoolPlatform

open ReadCommitted

def School.Active (s : School) (c : AbsenceExcuseCoverage) : Prop :=
  c ∈ s.coverages ∧ c.status = .active

def School.Covered (s : School) (session student : ℕ) : Prop :=
  ∃ c, s.Active c ∧ c.attendanceSession = session ∧ c.student = student

def School.Absent (s : School) (session student : ℕ) : Prop :=
  ∃ x ∈ s.marks, x.session = session ∧ x.student = student ∧ x.status = .absent

def School.Excused (s : School) (student : ℕ) (d : Date) (period : ℕ) : Prop :=
  ∃ e ∈ s.excuses, e.student = student ∧ e.status = .approved ∧
    ∃ t ∈ s.targets, t.excuse = e.id ∧ t.attendanceDate = d ∧ t.matchesPeriod period = true

def School.Justified (s : School) (x : AttendanceSession) (student : ℕ) : Prop :=
  x.status = .submitted ∧ s.Absent x.id student ∧
    s.Excused student x.attendanceDate x.periodSequence

def School.CoverageExact (s : School) (k : Date × ℕ) : Prop :=
  ∀ x ∈ s.sessions, x.attendanceDate = k.1 → (s.Covered x.id k.2 ↔ s.Justified x k.2)

/-- A coverage names a session as it is, and an approved excuse of its student that applies. -/
structure School.Backed (s : School) (c : AbsenceExcuseCoverage) : Prop where
  session : ∃ x ∈ s.sessions, x.id = c.attendanceSession ∧
    x.attendanceDate = c.attendanceDate ∧ x.periodSequence = c.periodSequenceSnapshot
  excuse : ∃ e ∈ s.excuses, e.id = c.excuse ∧ e.student = c.student ∧ e.status = .approved ∧
    ∃ t ∈ s.targets, t.excuse = e.id ∧ t.attendanceDate = c.attendanceDate ∧
      t.matchesPeriod c.periodSequenceSnapshot = true

/-- The keys and references of the tables of attendance and excuses. -/
structure School.Keyed (s : School) : Prop where
  session_ids : (s.sessions.map fun x => x.id).Nodup
  session_slots :
    (s.sessions.map fun x => (x.sectionId, x.attendanceDate, x.periodSequence)).Nodup
  excuse_ids : (s.excuses.map fun x => x.id).Nodup
  target_excuse : ∀ t ∈ s.targets, ∃ e ∈ s.excuses, e.id = t.excuse
  mark_keys : (s.marks.map fun x => (x.session, x.student)).Nodup
  mark_session : ∀ m ∈ s.marks, ∃ x ∈ s.sessions, x.id = m.session
  coverage_ids : (s.coverages.map fun c => c.id).Nodup
  coverage_next : ∀ c ∈ s.coverages, c.id < s.nextCoverageId
  coverage_key : ∀ c c', s.Active c → s.Active c' →
    c.attendanceSession = c'.attendanceSession → c.student = c'.student → c = c'

theorem School.Keyed.of_checked {s : School} (h : (s.sessions.map fun x => x.id).Nodup ∧
    (s.sessions.map fun x => (x.sectionId, x.attendanceDate, x.periodSequence)).Nodup ∧
    (s.excuses.map fun x => x.id).Nodup ∧ (∀ t ∈ s.targets, ∃ e ∈ s.excuses, e.id = t.excuse) ∧
    (s.marks.map fun x => (x.session, x.student)).Nodup ∧
    (∀ m ∈ s.marks, ∃ x ∈ s.sessions, x.id = m.session) ∧ (s.coverages.map fun c => c.id).Nodup ∧
    (∀ c ∈ s.coverages, c.id < s.nextCoverageId) ∧ ∀ c ∈ s.coverages, ∀ c' ∈ s.coverages,
      c.attendanceSession = c'.attendanceSession → c.student = c'.student → c = c') : s.Keyed := by
  obtain ⟨hids, hslots, hexcuses, htargets, hmarks, hsessions, hcoverages, hnext, hkey⟩ := h
  exact ⟨hids, hslots, hexcuses, htargets, hmarks, hsessions, hcoverages, hnext,
    fun c c' hc hc' => hkey c hc.1 c' hc'.1⟩

/-- What every transaction keeps: keys and references, and that each active coverage is backed. -/
structure School.Sound (s : School) : Prop extends s.Keyed where
  coverage_backed : ∀ c, s.Active c → s.Backed c

def School.core (s : School) : School :=
  { s with registry := {}, dayContexts := [], summaries := [] }

section Core

variable {s s' : School}

theorem School.core_fields (h : s'.core = s.core) :
    s'.sessions = s.sessions ∧ s'.marks = s.marks ∧ s'.excuses = s.excuses ∧
      s'.targets = s.targets ∧ s'.coverages = s.coverages ∧
      s'.nextCoverageId = s.nextCoverageId := by
  simpa [School.core] using h

theorem School.Sound.of_core (h : s'.core = s.core) (hs : s.Sound) : s'.Sound := by
  obtain ⟨h₁, h₂, h₃, h₄, h₅, h₆⟩ := School.core_fields h
  obtain ⟨⟨a₁, a₂, a₃, a₄, a₅, a₆, a₇, a₈, a₉⟩, a₁₀⟩ := hs
  unfold School.Active at a₉ a₁₀
  refine ⟨⟨h₁ ▸ a₁, h₁ ▸ a₂, h₃ ▸ a₃, ?_, h₂ ▸ a₅, ?_, h₅ ▸ a₇, ?_, ?_⟩, ?_⟩
  · rwa [h₄, h₃]
  · rwa [h₂, h₁]
  · rwa [h₅, h₆]
  · unfold School.Active
    rwa [h₅]
  · rintro c ⟨hc, hact⟩
    obtain ⟨hx, he⟩ := a₁₀ c ⟨h₅ ▸ hc, hact⟩
    exact ⟨h₁ ▸ hx, by rwa [h₃, h₄]⟩

theorem School.CoverageExact.of_core (h : s'.core = s.core) {k : Date × ℕ}
    (hs : s.CoverageExact k) : s'.CoverageExact k := by
  obtain ⟨h₁, h₂, h₃, h₄, h₅, -⟩ := School.core_fields h
  unfold School.CoverageExact School.Covered School.Active School.Justified School.Absent
    School.Excused at hs ⊢
  rwa [h₁, h₂, h₃, h₄, h₅]

end Core

theorem AttendanceMarkStatus.eq_absent (x : AttendanceMarkStatus) : x = .absent := by
  cases x
  rfl

section Queries

variable {s : School} (hs : s.Keyed)
include hs

theorem School.Keyed.session?_eq_some (id : ℕ) (x : AttendanceSession) :
    s.session? id = some x ↔ x ∈ s.sessions ∧ x.id = id :=
  Table.find?_eq_some_iff hs.session_ids id x

theorem School.Keyed.excuse?_eq_some (id : ℕ) (e : AbsenceExcuse) :
    s.excuse? id = some e ↔ e ∈ s.excuses ∧ e.id = id :=
  Table.find?_eq_some_iff hs.excuse_ids id e

theorem School.Keyed.session_unique {x y : AttendanceSession} (hx : x ∈ s.sessions)
    (hy : y ∈ s.sessions) (h : x.id = y.id) : x = y :=
  Table.eq_of_key_eq hs.session_ids hx hy h

theorem School.Keyed.excuse_unique {x y : AbsenceExcuse} (hx : x ∈ s.excuses)
    (hy : y ∈ s.excuses) (h : x.id = y.id) : x = y :=
  Table.eq_of_key_eq hs.excuse_ids hx hy h

theorem School.Keyed.mem_submittedMarks (p : AttendanceMark × AttendanceSession) :
    p ∈ s.submittedMarks ↔
      p.1 ∈ s.marks ∧ p.2 ∈ s.sessions ∧ p.2.id = p.1.session ∧ p.2.status = .submitted := by
  obtain ⟨m, x⟩ := p
  unfold School.submittedMarks
  rw [List.mem_filterMap]
  constructor
  · rintro ⟨m', hm', h⟩
    cases hx : s.session? m'.session with
    | none => simp [hx] at h
    | some x' =>
      obtain ⟨hmem, hid⟩ := (hs.session?_eq_some _ _).mp hx
      by_cases hsub : x'.status = .submitted
      · simp only [hx, hsub, if_true] at h
        cases h
        exact ⟨hm', hmem, hid, hsub⟩
      · simp [hx, hsub] at h
  · rintro ⟨hm, hx, hid, hsub⟩
    have hfind : s.session? m.session = some x := (hs.session?_eq_some _ _).mpr ⟨hx, hid⟩
    have hstatus : x.status = .submitted := hsub
    exact ⟨m, hm, by simp [hfind, hstatus]⟩

theorem School.Keyed.mem_absencesOn (d : Date) (students : List ℕ)
    (p : AttendanceMark × AttendanceSession) :
    p ∈ s.absencesOn d students ↔
      p.1 ∈ s.marks ∧ p.2 ∈ s.sessions ∧ p.2.id = p.1.session ∧ p.2.status = .submitted ∧
        p.2.attendanceDate = d ∧ p.1.student ∈ students := by
  unfold School.absencesOn
  rw [List.mem_filter, hs.mem_submittedMarks]
  have habs := p.1.status.eq_absent
  simp only [habs, true_and, decide_eq_true_eq]
  tauto

theorem School.Keyed.mem_approvedTargetsOn (d : Date) (t : AbsenceExcuseTarget)
    (e : AbsenceExcuse) :
    (t, e) ∈ s.approvedTargetsOn d ↔
      t ∈ s.targets ∧ t.attendanceDate = d ∧ e ∈ s.excuses ∧ e.id = t.excuse ∧
        e.status = .approved := by
  unfold School.approvedTargetsOn
  rw [List.mem_filterMap]
  constructor
  · rintro ⟨t', ht', h⟩
    rw [List.mem_filter] at ht'
    cases he : s.excuse? t'.excuse with
    | none => simp [he] at h
    | some e' =>
      obtain ⟨hmem, hid⟩ := (hs.excuse?_eq_some _ _).mp he
      by_cases happ : e'.status = .approved
      · simp only [he, happ, if_true] at h
        cases h
        exact ⟨ht'.1, by simpa using ht'.2, hmem, hid, happ⟩
      · simp [he, happ] at h
  · rintro ⟨ht, hd, he, hid, happ⟩
    have hfind : s.excuse? t.excuse = some e := (hs.excuse?_eq_some _ _).mpr ⟨he, hid⟩
    exact ⟨t, by simp [ht, hd], by simp [hfind, happ]⟩

theorem School.Keyed.nodup_submittedMarks :
    (s.submittedMarks.map fun p => (p.1.session, p.1.student)).Nodup := by
  apply Table.nodup_filterMap hs.mark_keys
  intro m p hp
  cases hx : s.session? m.session with
  | none => simp [hx] at hp
  | some x =>
    by_cases hsub : x.status = .submitted
    · simp only [hx, hsub, if_true, Option.some.injEq] at hp
      rw [← hp]
    · simp [hx, hsub] at hp

end Queries

theorem School.Sound.active_backed {s : School} (hs : s.Sound) {x : AttendanceSession}
    (hx : x ∈ s.sessions) {c : AbsenceExcuseCoverage} (hc : s.Active c)
    (hses : c.attendanceSession = x.id) :
    c.attendanceDate = x.attendanceDate ∧ c.periodSequenceSnapshot = x.periodSequence ∧
      s.Excused c.student x.attendanceDate x.periodSequence := by
  obtain ⟨⟨y, hy, hyid, hyd, hyp⟩, ⟨e, he, -, hst, happ, t, ht, hte, htd, htm⟩⟩ :=
    hs.coverage_backed c hc
  have hyx : y = x := hs.session_unique hy hx (hyid.trans hses)
  subst hyx
  refine ⟨hyd.symm, hyp.symm, e, he, hst, happ, t, ht, hte, ?_, ?_⟩
  · rw [htd, hyd]
  · rw [hyp]
    exact htm

theorem School.active_voidCoverages (s : School) (ids : List ℕ) (now : Instant)
    (reason : String) (c : AbsenceExcuseCoverage) :
    (s.voidCoverages ids now reason).Active c ↔ s.Active c ∧ c.id ∉ ids := by
  unfold School.Active School.voidCoverages
  simp only [List.mem_map]
  constructor
  · rintro ⟨⟨c', hc', rfl⟩, hact⟩
    by_cases h : c'.id ∈ ids
    · simp [h, AbsenceExcuseCoverage.void] at hact
    · rw [if_neg h] at hact ⊢
      exact ⟨⟨hc', hact⟩, h⟩
  · rintro ⟨⟨hc, hact⟩, h⟩
    exact ⟨⟨c, hc, by simp [h]⟩, hact⟩

theorem School.active_addCoverages (s : School) (new : List NewCoverage)
    (c : AbsenceExcuseCoverage) :
    (s.addCoverages new).Active c ↔
      s.Active c ∨ ∃ (n : NewCoverage) (i : ℕ), new[i]? = some n ∧
        c = n.insert (s.nextCoverageId + i) := by
  unfold School.Active School.addCoverages
  simp only [List.mem_append, List.mem_map, Prod.exists, List.mem_zipIdx_iff_getElem?]
  constructor
  · rintro ⟨hc | ⟨n, i, hi, rfl⟩, hact⟩
    · exact .inl ⟨hc, hact⟩
    · exact .inr ⟨n, i, hi, rfl⟩
  · rintro (⟨hc, hact⟩ | ⟨n, i, hi, rfl⟩)
    · exact ⟨.inl hc, hact⟩
    · exact ⟨.inr ⟨n, i, hi, rfl⟩, rfl⟩

theorem School.covered_addCoverages (s : School) (new : List NewCoverage)
    (session student : ℕ) :
    (s.addCoverages new).Covered session student ↔
      s.Covered session student ∨
        ∃ n ∈ new, n.attendanceSession = session ∧ n.student = student := by
  unfold School.Covered
  simp only [School.active_addCoverages]
  constructor
  · rintro ⟨c, hc | ⟨n, i, hi, rfl⟩, hses, hstu⟩
    · exact .inl ⟨c, hc, hses, hstu⟩
    · exact .inr ⟨n, List.mem_of_getElem? hi, hses, hstu⟩
  · rintro (⟨c, hc, hses, hstu⟩ | ⟨n, hn, hses, hstu⟩)
    · exact ⟨c, .inl hc, hses, hstu⟩
    · obtain ⟨i, hi⟩ := List.mem_iff_getElem?.mp hn
      exact ⟨_, .inr ⟨n, i, hi, rfl⟩, hses, hstu⟩

theorem School.coverageTaken_iff (s : School) (c : NewCoverage) :
    s.coverageTaken c.key = true ↔ s.Covered c.attendanceSession c.student := by
  unfold School.coverageTaken School.Covered School.Active NewCoverage.key
  simp only [List.any_eq_true, decide_eq_true_eq, Prod.mk.injEq]
  constructor
  · rintro ⟨c', hc', ⟨hses, hstu⟩, hact⟩
    exact ⟨c', ⟨hc', hact⟩, hses, hstu⟩
  · rintro ⟨c', ⟨hc', hact⟩, hses, hstu⟩
    exact ⟨c', hc', ⟨hses, hstu⟩, hact⟩

theorem School.Keyed.voidCoverages {s : School} (hs : s.Keyed) (ids : List ℕ) (now : Instant)
    (reason : String) : (s.voidCoverages ids now reason).Keyed := by
  have hkey : ∀ c c', (s.voidCoverages ids now reason).Active c →
      (s.voidCoverages ids now reason).Active c' →
      c.attendanceSession = c'.attendanceSession → c.student = c'.student → c = c' := by
    intro c c' hc hc'
    exact hs.coverage_key c c' ((s.active_voidCoverages ids now reason c).mp hc).1
      ((s.active_voidCoverages ids now reason c').mp hc').1
  obtain ⟨a₁, a₂, a₃, a₄, a₅, a₆, a₇, a₈, -⟩ := hs
  have hids : ((s.voidCoverages ids now reason).coverages.map fun c => c.id) =
      s.coverages.map fun c => c.id := by
    unfold School.voidCoverages
    rw [List.map_map]
    apply List.map_congr_left
    intro c hc
    by_cases h : c.id ∈ ids <;> simp [h, AbsenceExcuseCoverage.void]
  refine ⟨a₁, a₂, a₃, a₄, a₅, a₆, hids ▸ a₇, ?_, hkey⟩
  intro c hc
  have hmem : c.id ∈ s.coverages.map fun c => c.id := hids ▸ List.mem_map_of_mem hc
  obtain ⟨c', hc', hid⟩ := List.mem_map.mp hmem
  exact hid ▸ a₈ c' hc'

theorem School.Keyed.addCoverages {s : School} (hs : s.Keyed) {new : List NewCoverage}
    (hnew : (new.map fun n => n.key).Nodup) (hfree : ∀ n ∈ new, s.coverageTaken n.key = false) :
    (s.addCoverages new).Keyed := by
  have hfree' : ∀ n ∈ new, ¬ s.Covered n.attendanceSession n.student := by
    intro n hn hcov
    have htaken := (s.coverageTaken_iff n).mpr hcov
    rw [hfree n hn] at htaken
    cases htaken
  have hkey : ∀ c c', (s.addCoverages new).Active c → (s.addCoverages new).Active c' →
      c.attendanceSession = c'.attendanceSession → c.student = c'.student → c = c' := by
    intro c c' hc hc' hses hstu
    rw [School.active_addCoverages] at hc hc'
    rcases hc with hc | ⟨n, i, hi, rfl⟩ <;> rcases hc' with hc' | ⟨n', j, hj, rfl⟩
    · exact hs.coverage_key c c' hc hc' hses hstu
    · exact (hfree' n' (List.mem_of_getElem? hj) ⟨c, hc, hses, hstu⟩).elim
    · exact (hfree' n (List.mem_of_getElem? hi) ⟨c', hc', hses.symm, hstu.symm⟩).elim
    · have hsame : n.key = n'.key := by
        unfold NewCoverage.key
        exact Prod.ext hses hstu
      have hi' : (new.map fun n => n.key)[i]? = some n.key := by simp [hi]
      have hj' : (new.map fun n => n.key)[j]? = some n.key := by simp [hj, hsame]
      have hij : i = j := by
        have hlt : i < (new.map fun n => n.key).length := (List.getElem?_eq_some_iff.mp hi').1
        exact (List.getElem?_inj hlt hnew).mp (hi'.trans hj'.symm)
      subst hij
      rw [hi] at hj
      rw [Option.some.inj hj]
  obtain ⟨a₁, a₂, a₃, a₄, a₅, a₆, a₇, a₈, -⟩ := hs
  refine ⟨a₁, a₂, a₃, a₄, a₅, a₆, ?_, ?_, hkey⟩
  · unfold School.addCoverages
    rw [List.map_append, List.map_map]
    have hids : (new.zipIdx.map ((fun c : AbsenceExcuseCoverage => c.id) ∘
        fun p => p.1.insert (s.nextCoverageId + p.2))) =
        (List.range new.length).map fun i => s.nextCoverageId + i := by
      have hsnd : new.zipIdx.map Prod.snd = List.range new.length := by
        simp [List.zipIdx_map_snd, List.range_eq_range']
      rw [← hsnd, List.map_map]
      rfl
    rw [hids, List.nodup_append]
    refine ⟨a₇, ?_, ?_⟩
    · apply List.Nodup.map _ List.nodup_range
      intro i j hij
      simpa using hij
    · intro a ha b hb hab
      obtain ⟨c, hc, rfl⟩ := List.mem_map.mp ha
      obtain ⟨i, -, rfl⟩ := List.mem_map.mp hb
      have hlt := a₈ c hc
      omega
  · intro c hc
    unfold School.addCoverages at hc ⊢
    simp only [List.mem_append, List.mem_map, Prod.exists, List.mem_zipIdx_iff_getElem?] at hc ⊢
    rcases hc with hc | ⟨n, i, hi, rfl⟩
    · have hlt := a₈ c hc
      omega
    · have hlt := (List.getElem?_eq_some_iff.mp hi).1
      show s.nextCoverageId + i < s.nextCoverageId + new.length
      omega

end SchoolPlatform
