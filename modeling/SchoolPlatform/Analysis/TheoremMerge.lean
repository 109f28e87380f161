import SchoolPlatform.Analysis.TheoremMergedCoverage

/-!
# A merge loses nothing

The target of a merge has one active enrollment, a history of disjoint intervals, and the
attendance of all records once. Attendance that a record has within an enrollment in its section
lies within an enrollment of the target in that section, and records that have changed since the
preview are not merged (`applyManualMerge_inherits`).
-/

namespace SchoolPlatform

variable {o o₁ : Office} {s : School} {today : Date} {now : Instant} {target : ℕ}
variable {sources : List ℕ} {active : StudentEnrollment}

def School.Attends (s : School) (student sectionId : ℕ) (d : Date) : Prop :=
  (∃ r ∈ s.summaries, r.student = student ∧ r.sectionId = sectionId ∧ r.attendanceDate = d) ∨
    ∃ m ∈ s.marks, m.student = student ∧
      ∃ x ∈ s.sessions, x.id = m.session ∧ x.sectionId = sectionId ∧ x.attendanceDate = d

structure School.Inherits (s s' : School) (target : ℕ) (ids : List ℕ) : Prop where
  oneActive : (s'.registry.activeOf target).length = 1
  apart : ∀ e ∈ s'.registry.enrollments, ∀ f ∈ s'.registry.enrollments, e.student = target →
    f.student = target → e.id ≠ f.id → Disjoint e.span.points f.span.points
  oneMark : ((s'.marks.filter fun m => m.student = target).map fun m => m.session).Nodup
  oneSummary :
    ((s'.summaries.filter fun r => r.student = target).map fun r => r.attendanceDate).Nodup
  markFacts : ∀ session status,
    (∃ m ∈ s'.marks, m.student = target ∧ m.session = session ∧ m.status = status) ↔
      ∃ m ∈ s.marks, m.student ∈ ids ∧ m.session = session ∧ m.status = status
  summaryFacts : ∀ d facts,
    (∃ r ∈ s'.summaries, r.student = target ∧ r.attendanceDate = d ∧ r.attendanceFacts = facts) ↔
      ∃ r ∈ s.summaries, r.student ∈ ids ∧ r.attendanceDate = d ∧ r.attendanceFacts = facts
  within : ∀ e ∈ s.registry.enrollments, e.student ∈ ids → ∀ d ∈ e.span.points,
    s.Attends e.student e.sectionId d → ∃ e' ∈ s'.registry.enrollments,
      e'.student = target ∧ e'.sectionId = e.sectionId ∧ d ∈ e'.span.points

def Office.recordRows (o : Office) (ids : List ℕ) :
    List Student × List StudentEnrollment × List DailyAttendanceSummary × List AttendanceMark :=
  (o.registry.students.filter fun x => x.id ∈ ids,
    o.registry.enrollments.filter fun e => e.student ∈ ids,
    o.school.summaries.filter fun r => r.student ∈ ids,
    o.school.marks.filter fun m => m.student ∈ ids)

/-- The keys of the tables that a merge writes. -/
structure Office.Tables (o : Office) : Prop where
  attendance : o.school.Keyed
  days : (o.school.summaries.map fun r => (r.attendanceDate, r.student)).Nodup
  people : o.registry.Coherent o.nextId

theorem School.mem_evidenceDates (hkeys : s.Keyed) {student sectionId : ℕ} {d : Date} :
    d ∈ s.evidenceDates student sectionId ↔ s.Attends student sectionId d := by
  unfold School.evidenceDates School.Attends
  rw [List.mem_append]
  apply or_congr
  · simp only [List.mem_map, List.mem_filter, decide_eq_true_eq]
    constructor
    · rintro ⟨r, ⟨hr, howner, hsection⟩, hday⟩
      exact ⟨r, hr, howner, hsection, hday⟩
    · rintro ⟨r, hr, howner, hsection, hday⟩
      exact ⟨r, ⟨hr, howner, hsection⟩, hday⟩
  · simp only [List.mem_filterMap, List.mem_filter, decide_eq_true_eq]
    constructor
    · rintro ⟨m, ⟨hm, howner⟩, hday⟩
      obtain ⟨x, hfind, hx⟩ := Option.bind_eq_some_iff.mp hday
      obtain ⟨hmem, hid⟩ := (hkeys.session?_eq_some _ _).mp hfind
      by_cases hsection : x.sectionId = sectionId
      · rw [if_pos hsection] at hx
        exact ⟨m, hm, howner, x, hmem, hid, hsection, Option.some.inj hx⟩
      · rw [if_neg hsection] at hx
        cases hx
    · rintro ⟨m, hm, howner, x, hx, hid, hsection, rfl⟩
      refine ⟨m, ⟨hm, howner⟩, Option.bind_eq_some_iff.mpr ⟨x, ?_, if_pos hsection⟩⟩
      exact (hkeys.session?_eq_some _ _).mpr ⟨hx, hid⟩

theorem lt_boundary {dates : List Date} {d start : Date} (hd : d ∈ dates) :
    d < max start (dates.max?.elim start fun day => day + 1) := by
  obtain ⟨m, hm⟩ := Option.isSome_iff_exists.mp (List.isSome_max?_of_mem hd)
  have hle : d ≤ m := (List.max?_eq_some_iff.mp hm).2 d hd
  rw [hm]
  apply lt_max_of_lt_right
  exact Nat.lt_succ_of_le hle

/-- What becomes of an active enrollment of a source, and where its attendance lies. -/
def SectionPlan.Places (plan : SectionPlan) (s : School) (active e : StudentEnrollment) : Prop :=
  (plan.converted = some e ∧ ∀ d ∈ s.evidenceDates e.student e.sectionId, d < plan.start) ∨
    e ∈ plan.discard ∧
      (e.samePlace active = true ∨ s.evidenceDates e.student e.sectionId = [])

theorem planDiffering_places {rows : List StudentEnrollment}
    (h : (planDiffering s today active rows).blockers = []) :
    ∀ e ∈ rows, (planDiffering s today active rows).Places s active e := by
  unfold planDiffering at h ⊢
  split at h
  · intro e he
    exact absurd he List.not_mem_nil
  next row =>
    simp only at h ⊢
    intro e he
    rw [List.mem_singleton.mp he]
    split at h
    · cases h
    next horder =>
      split at h
      · cases h
      next hrecent =>
        simp only [if_neg horder, if_neg hrecent]
        split at h
        next hearlier =>
          rw [if_pos hearlier]
          exact .inl ⟨rfl, fun d hd => lt_boundary hd⟩
        next hearlier =>
          split at h
          · cases h
          next hdates =>
            rw [if_neg hearlier, if_neg hdates]
            exact .inr ⟨List.mem_singleton_self _, .inr (not_not.mp hdates)⟩
  · cases h

theorem planActive_places (h : (planActive s today active sources).blockers = []) :
    ∀ e ∈ sources.filterMap s.registry.soleActive?,
      (planActive s today active sources).Places s active e := by
  unfold planActive at h ⊢
  simp only [List.append_eq_nil_iff, ite_nil_eq_nil, not_not] at h ⊢
  obtain ⟨hyears, hplan⟩ := h
  have hfilter := List.filter_eq_self.mp (List.filter_sublist.eq_of_length hyears.symm)
  intro e he
  have hyear := hfilter e he
  by_cases hplace : e.samePlace active = true
  · refine .inr ⟨?_, .inl hplace⟩
    apply List.mem_append_left
    exact List.mem_filter.mpr ⟨List.mem_filter.mpr ⟨he, hyear⟩, hplace⟩
  · have hin : e ∈ ((sources.filterMap s.registry.soleActive?).filter fun row =>
        row.academicYear = active.academicYear).filter fun row => ¬ row.samePlace active := by
      exact List.mem_filter.mpr ⟨List.mem_filter.mpr ⟨he, hyear⟩, by simpa using hplace⟩
    rcases planDiffering_places hplan e hin with hconverted | ⟨hdiscard, hnone⟩
    · exact .inl hconverted
    · exact .inr ⟨List.mem_append_right _ hdiscard, hnone⟩

theorem planDiffering_discard_of_converted {rows : List StudentEnrollment} {e : StudentEnrollment}
    (h : (planDiffering s today active rows).converted = some e) :
    (planDiffering s today active rows).discard = [] := by
  unfold planDiffering at h ⊢
  split at h
  · cases h
  next row =>
    simp only at h ⊢
    split at h
    · cases h
    next horder =>
      split at h
      · cases h
      next hrecent =>
        simp only [if_neg horder, if_neg hrecent]
        split at h
        next hearlier => rw [if_pos hearlier]
        next hearlier => split at h <;> cases h
  · cases h

section Clear

variable (h : MergePlan.Clear o today target sources active)
include h

theorem MergePlan.Clear.discarded {e : StudentEnrollment}
    (he : e ∈ (planActive o.school today active sources).discard) :
    e.student ∈ sources ∧ e.status = .active := by
  obtain ⟨id, hid, hsole⟩ :=
    List.mem_filterMap.mp ((planActive_settles h.sections).discard e he)
  have hsole := Registry.soleActive?_eq_some hsole
  rw [hsole.owner]
  exact ⟨hid, hsole.status⟩

theorem MergePlan.Clear.converted_not_discarded {e : StudentEnrollment}
    (he : (planActive o.school today active sources).converted = some e) :
    e ∉ (planActive o.school today active sources).discard := by
  have hsections := h.sections
  unfold planActive at he hsections ⊢
  simp only [List.append_eq_nil_iff] at he hsections ⊢
  rw [planDiffering_discard_of_converted he, List.append_nil]
  intro hmem
  have hrow := ((planDiffering_settles hsections.2).converted e he).1
  have hother := (List.mem_filter.mp hrow).2
  have hsame := (List.mem_filter.mp hmem).2
  rw [hsame] at hother
  simp at hother

variable (now) in
theorem MergePlan.Clear.mem_enrollments {e : StudentEnrollment}
    (he : e ∈ o.registry.enrollments)
    (hactive : e ∉ (planActive o.school today active sources).discard)
    (hpast : e.student ∈ sources → e.status ≠ .active →
      pastRow (planActive o.school today active sources).start e ≠ .discard) :
    (mergePlan today target sources o).enrollment target e ∈
      (mergedRegistry o now today target sources).enrollments := by
  have hactive' : o.school.registry.soleActive? target = some active := h.targetActive
  refine List.mem_map.mpr ⟨e, List.mem_filter.mpr ⟨he, ?_⟩, rfl⟩
  unfold mergePlan
  simp only [hactive', decide_eq_true_eq, List.mem_append, not_or]
  refine ⟨hactive, fun hmem => ?_⟩
  obtain ⟨hmem, hrow⟩ := List.mem_filter.mp hmem
  obtain ⟨-, hsource, hended⟩ := Registry.mem_pastOf.mp hmem
  exact hpast hsource hended (by simpa using hrow)

theorem MergePlan.Clear.enrollment_eq (e : StudentEnrollment) :
    (mergePlan today target sources o).enrollment target e =
      if (planActive o.school today active sources).converted = some e then
        { e with
          student := target
          status := .transferred
          endedAt := some (planActive o.school today active sources).start }
      else if e ∈ (o.registry.pastOf sources).filter fun row =>
          pastRow (planActive o.school today active sources).start row = .move then
        { e with student := target }
      else if e = active then
        { e with enrolledAt := (planActive o.school today active sources).start }
      else e := by
  have hactive' : o.school.registry.soleActive? target = some active := h.targetActive
  unfold MergePlan.enrollment mergePlan
  simp only [hactive']
  simp only [Option.some.injEq, eq_comm (a := active)]
  rfl

variable (htarget : target ∉ sources)
include htarget

theorem MergePlan.Clear.current_mem :
    ({ active with enrolledAt := (planActive o.school today active sources).start } :
      StudentEnrollment) ∈ (mergedRegistry o now today target sources).enrollments := by
  have hsole := Registry.soleActive?_eq_some h.targetActive
  have hnot : active.student ∉ sources := by
    rw [hsole.owner]
    exact htarget
  have hmem := MergePlan.Clear.mem_enrollments now h hsole.mem (fun hd => hnot (h.discarded hd).1)
    fun hsource => absurd hsource hnot
  rw [h.enrollment_eq, if_neg, if_neg, if_pos rfl] at hmem
  · exact hmem
  · intro hmoved
    obtain ⟨-, hsource, -⟩ := Registry.mem_pastOf.mp (List.mem_of_mem_filter hmoved)
    exact hnot hsource
  · intro hconverted
    exact hnot (h.ready.converted active hconverted).2.1

theorem MergePlan.Clear.within (hkeys : o.Tables) {e : StudentEnrollment}
    (he : e ∈ o.registry.enrollments) (howner : e.student ∈ target :: sources) {d : Date}
    (hd : d ∈ e.span.points) (hattends : o.school.Attends e.student e.sectionId d) :
    ∃ e' ∈ (mergedRegistry o now today target sources).enrollments,
      e'.student = target ∧ e'.sectionId = e.sectionId ∧ d ∈ e'.span.points := by
  have hready := h.ready
  have hevidence := (School.mem_evidenceDates hkeys.attendance).mpr hattends
  have hsole := Registry.soleActive?_eq_some h.targetActive
  -- Attendance in the place of the target lies behind the proposed start.
  have hbehind : ∀ id ∈ target :: sources, ∀ f, o.registry.soleActive? id = some f →
      f.samePlace active = true → ∀ day ∈ o.school.evidenceDates id active.sectionId,
        (planActive o.school today active sources).start ≤ day := by
    intro id hid f hf hplace day hday
    have hhistory := h.history
    unfold historyBlockers at hhistory
    simp only [List.append_eq_nil_iff, ite_nil_eq_nil, List.any_eq_true, decide_eq_true_eq,
      not_exists, not_and, not_lt] at hhistory
    apply hhistory.1.1.1
    refine List.mem_flatMap.mpr ⟨id, List.mem_filter.mpr ⟨hid, ?_⟩, hday⟩
    have hf' : o.school.registry.soleActive? id = some f := hf
    rw [hf', Option.any_some, hplace]
  have hcurrent : (planActive o.school today active sources).start ≤ d →
      e.sectionId = active.sectionId → active.endedAt = none ∨ e = active →
      ∃ e' ∈ (mergedRegistry o now today target sources).enrollments,
        e'.student = target ∧ e'.sectionId = e.sectionId ∧ d ∈ e'.span.points := by
    intro hstart hsection hend
    refine ⟨_, h.current_mem htarget, hsole.owner, hsection.symm, Span.mem_points.mpr
      ⟨hstart, ?_⟩⟩
    intro b hb
    rcases hend with hnone | heq
    · have hb' : active.endedAt = some b := hb
      rw [hnone] at hb'
      cases hb'
    · rw [heq] at hd
      exact (Span.mem_points.mp hd).2 b hb
  by_cases hstatus : e.status = .active
  · rcases List.mem_cons.mp howner with howner | hsource
    · -- The active enrollment of the target.
      have heq := hsole.unique e he howner hstatus
      have hplace : active.samePlace active = true := by simp [StudentEnrollment.samePlace]
      have hstart := hbehind target List.mem_cons_self active h.targetActive hplace d
        (by rw [← heq]; rw [howner] at hevidence; exact hevidence)
      exact hcurrent hstart (by rw [heq]) (.inr heq)
    · -- The active enrollment of a source.
      obtain ⟨f, hf⟩ := Registry.exists_soleActive?
        (mem_activeOf_length h.records e.student (List.mem_cons_of_mem _ hsource))
      have hef := (Registry.soleActive?_eq_some hf).unique e he rfl hstatus
      rw [← hef] at hf
      have hrow : e ∈ sources.filterMap o.school.registry.soleActive? :=
        List.mem_filterMap.mpr ⟨e.student, hsource, hf⟩
      rcases planActive_places h.sections e hrow with ⟨hconverted, hbefore⟩ | ⟨-, hplace | hnone⟩
      · have hmem := MergePlan.Clear.mem_enrollments now h he (h.converted_not_discarded hconverted)
          fun _ hended => absurd hstatus hended
        rw [h.enrollment_eq, if_pos hconverted] at hmem
        refine ⟨_, hmem, rfl, rfl, Span.mem_points.mpr ⟨(Span.mem_points.mp hd).1, ?_⟩⟩
        intro b hb
        cases hb
        exact hbefore d hevidence
      · have hsection : e.sectionId = active.sectionId := by
          simp only [StudentEnrollment.samePlace, decide_eq_true_eq] at hplace
          exact hplace.2
        have hstart := hbehind e.student (List.mem_cons_of_mem _ hsource) e hf hplace d
          (by rw [← hsection]; exact hevidence)
        exact hcurrent hstart hsection
          (.inl ((hkeys.people.dated active hsole.mem).mp hsole.status))
      · rw [hnone] at hevidence
        exact absurd hevidence List.not_mem_nil
  · have hconverted : (planActive o.school today active sources).converted ≠ some e := by
      intro hconverted
      exact hstatus (hready.converted e hconverted).2.2.1
    have hdiscard : e ∉ (planActive o.school today active sources).discard :=
      fun hmem => hstatus (h.discarded hmem).2
    have hne : e ≠ active := fun heq => hstatus (by rw [heq]; exact hsole.status)
    rcases List.mem_cons.mp howner with howner | hsource
    · -- The past of the target.
      have hnot : e.student ∉ sources := by
        rw [howner]
        exact htarget
      have hmem := MergePlan.Clear.mem_enrollments now h he hdiscard fun hsource =>
        absurd hsource hnot
      rw [h.enrollment_eq, if_neg hconverted, if_neg, if_neg hne] at hmem
      · exact ⟨e, hmem, howner, rfl, hd⟩
      · intro hmoved
        exact hnot (Registry.mem_pastOf.mp (List.mem_of_mem_filter hmoved)).2.1
    · -- The past of a source: an enrollment that holds on a day moves.
      have hmove : pastRow (planActive o.school today active sources).start e = .move := by
        cases hrow : pastRow (planActive o.school today active sources).start e with
        | move => rfl
        | block => exact absurd hrow (hready.sourcePast e he hsource hstatus)
        | discard =>
          have hempty : ∃ b, e.endedAt = some b ∧ b = e.enrolledAt := by
            unfold pastRow at hrow
            split at hrow
            · cases hrow
            next b hb =>
              split at hrow
              · cases hrow
              · split at hrow
                next heq => exact ⟨b, hb, heq⟩
                next => cases hrow
          obtain ⟨b, hb, rfl⟩ := hempty
          have hpoints := Span.mem_points.mp hd
          exact absurd (hpoints.2 _ hb) (not_lt.mpr hpoints.1)
      have hmem := MergePlan.Clear.mem_enrollments now h he hdiscard fun _ _ => by rw [hmove]; simp
      rw [h.enrollment_eq, if_neg hconverted, if_pos] at hmem
      · exact ⟨_, hmem, rfl, rfl, hd⟩
      · exact List.mem_filter.mpr
          ⟨Registry.mem_pastOf.mpr ⟨he, hsource, hstatus⟩, by rw [hmove]; rfl⟩

end Clear

theorem length_eq_one_of_unique {α : Type} {l : List α} {a : α} (hnodup : l.Nodup) (ha : a ∈ l)
    (hall : ∀ b ∈ l, b = a) : l.length = 1 := by
  have hreplicate := List.eq_replicate_of_mem hall
  rw [hreplicate, List.nodup_replicate] at hnodup
  have hpos := List.length_pos_of_mem ha
  omega

theorem nodup_of_student {α κ : Type} {key : α → κ} {student : α → ℕ} {rows : List α} (x : ℕ)
    (h : (rows.map fun row => (key row, student row)).Nodup) :
    ((rows.filter fun row => student row = x).map key).Nodup := by
  apply List.Nodup.map_on
  · intro a ha b hb hkey
    rw [List.mem_filter, decide_eq_true_eq] at ha hb
    exact Table.eq_of_key_eq h ha.1 hb.1 (by rw [hkey, ha.2, hb.2])
  · exact (h.of_map _).filter _

theorem MergePlan.Clear.oneActive (h : MergePlan.Clear o today target sources active)
    (hmerges : o.Merges target sources) (hkeys : o.Tables) :
    ((mergedRegistry o now today target sources).activeOf target).length = 1 := by
  have hready := h.ready
  have htarget := (List.nodup_cons.mp hmerges.nodup).1
  have hsole := Registry.soleActive?_eq_some h.targetActive
  have hcoherent := @mergedRegistry_coherent _ _ _ _ _ now _ hkeys.people h.targetActive hready
    (hmerges.found target List.mem_cons_self)
  refine length_eq_one_of_unique ((hcoherent.enrollments_nodup.of_map _).filter _)
    (Registry.mem_activeOf.mpr ⟨h.current_mem htarget, hsole.owner, hsole.status⟩) ?_
  intro e' he'
  obtain ⟨hmem, howner, hstatus⟩ := Registry.mem_activeOf.mp he'
  obtain ⟨e, he, -, hfate⟩ := mem_mergedRegistry_enrollments h.targetActive hready hmem
  cases hfate with
  | converted => cases hstatus
  | moved _ hended => exact absurd hstatus hended
  | current heq => rw [heq]
  | past _ hended => exact absurd hstatus hended
  | other hother => exact absurd (by rw [howner]; exact List.mem_cons_self) hother

theorem MergePlan.Clear.summaryFacts (h : MergePlan.Clear o today target sources active) (d : Date)
    (facts : AttendanceFacts) :
    (∃ r ∈ (mergedSchool o now today target sources).summaries,
        r.student = target ∧ r.attendanceDate = d ∧ r.attendanceFacts = facts) ↔
      ∃ r ∈ o.school.summaries, r.student ∈ target :: sources ∧ r.attendanceDate = d ∧
        r.attendanceFacts = facts := by
  constructor
  · rintro ⟨r, hr, howner, hday, hfacts⟩
    obtain ⟨row, hrow, rfl⟩ := mem_mergedSchool_summaries.mp ⟨hr, howner⟩
    obtain ⟨hin, hstudent⟩ := (summaries_takesOver o today target sources).kept_rows row hrow
    exact ⟨row, hin, hstudent, hday, hfacts⟩
  · rintro ⟨r, hr, hstudent, hday, hfacts⟩
    have hmem : r ∈ o.school.summariesOfRecords (target :: sources) d :=
      School.mem_summariesOfRecords.mpr ⟨hr, hstudent, hday⟩
    obtain ⟨row, hchosen⟩ := exists_chosenSummary target (List.ne_nil_of_mem hmem)
    have hrow := mem_of_chosenSummary _ _ hchosen
    obtain ⟨hkept, howner⟩ := (@mem_mergedSchool_summaries _ _ now _ _ _).mpr
      ⟨row, mem_keptSummaries.mpr ⟨d, hchosen⟩, rfl⟩
    refine ⟨_, hkept, howner, (School.mem_summariesOfRecords.mp hrow).2.2, ?_⟩
    exact (h.facts_eq hrow hmem).trans hfacts

theorem MergePlan.Clear.inherits (h : MergePlan.Clear o today target sources active)
    (hmerges : o.Merges target sources) (hkeys : o.Tables) :
    o.school.Inherits (mergedSchool o now today target sources) target (target :: sources) where
  oneActive := h.oneActive hmerges hkeys
  apart _ he _ hf howner howner' hne :=
    mergedRegistry_apart h.targetActive h.ready he hf howner howner' hne
  oneMark := nodup_of_student target
    ((marks_takesOver o today target sources).nodup hkeys.attendance.mark_keys)
  oneSummary := nodup_of_student target
    ((summaries_takesOver o today target sources).nodup hkeys.days)
  markFacts := mergedSchool_markFacts
  summaryFacts := h.summaryFacts
  within _ he howner _ hd hattends :=
    h.within (List.nodup_cons.mp hmerges.nodup).1 hkeys he howner hd hattends

theorem recordRows_eq_of_revision {today₁ : Date}
    (h : (mergePlan today₁ target sources o₁).revision =
      (mergePlan today target sources o).revision) :
    o₁.recordRows (target :: sources) = o.recordRows (target :: sources) := by
  have hrevision : ∀ (day : Date) (o : Office), (mergePlan day target sources o).revision.payload =
      { students := o.registry.students.filter fun x => x.id ∈ target :: sources
        enrollments := o.registry.enrollments.filter fun e => e.student ∈ target :: sources
        summaries := o.school.summaries.filter fun r => r.student ∈ target :: sources
        marks := o.school.marks.filter fun m => m.student ∈ target :: sources
        relatedRows := o.related (target :: sources)
        today := day } := by
    intro day o
    unfold mergePlan
    simp only
    split <;> rfl
  have hpayload := congrArg Digest.payload h
  rw [hrevision, hrevision, MergeSnapshot.mk.injEq] at hpayload
  unfold Office.recordRows
  rw [hpayload.1, hpayload.2.1, hpayload.2.2.1, hpayload.2.2.2.1]

/-- **A merge loses nothing**: it goes through for the plan that was confirmed, and not once a row
of the records has changed. -/
theorem applyManualMerge_inherits (now : Instant) {plan : MergePlan} (hkeys : o.Tables)
    (hplan : buildManualMergePlan today (target :: sources) o = .ok plan)
    (hready : plan.blockers = []) :
    (∃ o', applyManualMerge now today ⟨target :: sources, plan.revision⟩ o = .ok o' ∧
        o.school.Inherits o'.school target (target :: sources)) ∧
      ∀ (o₁ : Office) (now₁ : Instant) (today₁ : Date),
        o₁.recordRows (target :: sources) ≠ o.recordRows (target :: sources) →
          (∃ e, applyManualMerge now₁ today₁ ⟨target :: sources, plan.revision⟩ o₁ = .error e) ∧
            o₁.after (applyManualMerge now₁ today₁ ⟨target :: sources, plan.revision⟩ o₁) = o₁ := by
  obtain ⟨hmerges, rfl⟩ := buildManualMergePlan_eq_ok hplan
  constructor
  · obtain ⟨active, hclear⟩ := mergePlan_clear hready
    exact ⟨_, applyManualMerge_of_ready hplan hready, hclear.inherits hmerges hkeys⟩
  · intro o₁ now₁ today₁ hchanged
    have hraises : ∃ e, applyManualMerge now₁ today₁
        ⟨target :: sources, (mergePlan today target sources o).revision⟩ o₁ = .error e := by
      unfold applyManualMerge
      simp only
      cases hplan₁ : buildManualMergePlan today₁ (target :: sources) o₁ with
      | error e => exact ⟨_, rfl⟩
      | ok plan₁ =>
        obtain ⟨-, rfl⟩ := buildManualMergePlan_eq_ok hplan₁
        refine ⟨_, if_pos (.inr fun hrevision => hchanged ?_)⟩
        exact recordRows_eq_of_revision hrevision
    obtain ⟨e, he⟩ := hraises
    exact ⟨⟨e, he⟩, by rw [he]; rfl⟩

theorem twoRecords_tables (status : AbsenceExcuseStatus) : (twoRecords status).Tables where
  attendance := twoRecords_keyed status
  days := List.nodup_singleton _
  people :=
    { students_nodup := by cases status <;> decide
      students_lt := by cases status <;> decide
      enrollments_nodup := by cases status <;> decide
      enrollments_lt := by cases status <;> decide
      owners := by cases status <;> decide
      dated := by cases status <;> decide }

theorem twoRecords_inherits :
    ∃ o', applyManualMerge 0 30 ⟨[5, 6], (mergePlan 30 5 [6] (twoRecords .pending)).revision⟩
        (twoRecords .pending) = .ok o' ∧
      (twoRecords .pending).school.Inherits o'.school 5 [5, 6] :=
  (applyManualMerge_inherits 0 (twoRecords_tables .pending) (twoRecords_plan .pending)
    (twoRecords_ready .pending)).1

end SchoolPlatform
