import SchoolPlatform.Library.Spans
import SchoolPlatform.Analysis.CommitSteps

/-!
# What a merge does

A plan without blockers finds one active enrollment with every record, all of one year. Those of
the sources are discarded, but for one that becomes the past of the target; the ended ones that hold
on some day move to the target. What the target has then, lies apart, since the plan has compared
the spans one after another.
-/

/-! ## Timelines of enrollments -/

namespace SchoolPlatform

variable {r r' : Registry} {next : ℕ}

def StudentEnrollment.span (e : StudentEnrollment) : Span Date := ⟨e.enrolledAt, e.endedAt⟩

theorem StudentEnrollment.validOn_iff (e : StudentEnrollment) (d : Date) :
    e.validOn d = true ↔ d ∈ e.span.points := by
  rw [Span.mem_points]
  unfold StudentEnrollment.validOn StudentEnrollment.span
  cases e.endedAt <;> simp

structure Registry.Timed (r : Registry) : Prop where
  ordered : ∀ e ∈ r.enrollments, ∀ d, e.endedAt = some d → e.enrolledAt ≤ d
  apart : ∀ e ∈ r.enrollments, ∀ f ∈ r.enrollments, e.student = f.student → e.id ≠ f.id →
    Disjoint e.span.points f.span.points

theorem Registry.Timed.of_samePeople (h : r.Timed) (hsame : r.SamePeople r') : r'.Timed where
  ordered := by rw [hsame.enrollments]; exact h.ordered
  apart := by rw [hsame.enrollments]; exact h.apart

theorem Registry.Timed.of_empty (h : r.enrollments = []) : r.Timed where
  ordered := by simp [h]
  apart := by simp [h]

theorem Registry.Timed.eq_of_open (h : r.Timed) (hkeys : r.Coherent next) {e f : StudentEnrollment}
    (he : e ∈ r.enrollments) (hf : f ∈ r.enrollments) (hstudent : e.student = f.student)
    (hopen : e.endedAt = none) (hopen' : f.endedAt = none) : e = f := by
  by_contra hne
  have hid : e.id ≠ f.id := fun hid =>
    hne (Table.eq_of_key_eq hkeys.enrollments_nodup he hf hid)
  have hdisjoint := h.apart e he f hf hstudent hid
  have hmeet : ¬ Disjoint e.span.points f.span.points := Span.not_disjoint_of_open hopen hopen'
  exact hmeet hdisjoint

theorem Registry.Timed.mapEnrollments (h : r.Timed) (f : StudentEnrollment → StudentEnrollment)
    (hid : ∀ e ∈ r.enrollments, (f e).id = e.id)
    (hstudent : ∀ e ∈ r.enrollments, (f e).student = e.student)
    (hordered : ∀ e ∈ r.enrollments, ∀ d, (f e).endedAt = some d → (f e).enrolledAt ≤ d)
    (hpoints : ∀ e ∈ r.enrollments, (f e).span.points ⊆ e.span.points) :
    Registry.Timed { r with enrollments := r.enrollments.map f } where
  ordered := by
    intro e he d hd
    obtain ⟨e₀, he₀, rfl⟩ := List.mem_map.mp he
    exact hordered e₀ he₀ d hd
  apart := by
    intro e he g hg hsame hne
    obtain ⟨e₀, he₀, rfl⟩ := List.mem_map.mp he
    obtain ⟨g₀, hg₀, rfl⟩ := List.mem_map.mp hg
    rw [hstudent e₀ he₀, hstudent g₀ hg₀] at hsame
    rw [hid e₀ he₀, hid g₀ hg₀] at hne
    exact (h.apart e₀ he₀ g₀ hg₀ hsame hne).mono (hpoints e₀ he₀) (hpoints g₀ hg₀)

theorem Registry.Timed.addEnrollment (h : r.Timed) {fresh : StudentEnrollment}
    (hopen : fresh.endedAt = none) (hended : ∀ e ∈ r.enrollments, e.student = fresh.student →
      ∃ d, e.endedAt = some d ∧ d ≤ fresh.enrolledAt) : (r.addEnrollment fresh).Timed where
  ordered := by
    intro e he d hd
    rcases List.mem_append.mp he with he | he
    · exact h.ordered e he d hd
    · rw [List.mem_singleton.mp he, hopen] at hd
      cases hd
  apart := by
    have hbefore : ∀ e ∈ r.enrollments, e.student = fresh.student →
        Disjoint e.span.points fresh.span.points := by
      intro e he hstudent
      obtain ⟨d, hd, hle⟩ := hended e he hstudent
      exact Span.disjoint_of_le hd hle
    intro e he f hf hsame hne
    rcases List.mem_append.mp he with he | he
    · rcases List.mem_append.mp hf with hf | hf
      · exact h.apart e he f hf hsame hne
      · rw [List.mem_singleton.mp hf] at hsame ⊢
        exact hbefore e he hsame
    · rw [List.mem_singleton.mp he] at hsame hne ⊢
      rcases List.mem_append.mp hf with hf | hf
      · exact (hbefore f hf hsame.symm).symm
      · rw [List.mem_singleton.mp hf] at hne
        exact absurd rfl hne

theorem StudentEnrollment.points_end_subset {e e' : StudentEnrollment}
    (hstart : e'.enrolledAt = e.enrolledAt) (hopen : e.endedAt = none) :
    e'.span.points ⊆ e.span.points := by
  have hstart' : e.span.start ≤ e'.span.start := le_of_eq hstart.symm
  apply Span.points_subset hstart'
  intro b hb
  have hnone : e.span.stop = none := hopen
  rw [hnone] at hb
  cases hb

theorem Registry.Timed.closeEnrollments (h : r.Timed) (hkeys : r.Coherent next) {student : ℕ}
    (status : EnrollmentStatus) {ended : Date}
    (hended : ∀ e ∈ r.enrollments, e.student = student → e.status = .active →
      e.enrolledAt ≤ ended) : (r.closeEnrollments student status ended).Timed := by
  rw [Registry.closeEnrollments_eq]
  apply h.mapEnrollments
  · intro e _
    unfold StudentEnrollment.closed
    split <;> rfl
  · intro e _
    unfold StudentEnrollment.closed
    split <;> rfl
  · intro e he d hd
    unfold StudentEnrollment.closed at hd ⊢
    split at hd
    next hclose =>
      rw [if_pos hclose]
      cases hd
      exact hended e he hclose.1 hclose.2
    next hclose =>
      rw [if_neg hclose]
      exact h.ordered e he d hd
  · intro e he
    unfold StudentEnrollment.closed
    split
    next hclose => exact StudentEnrollment.points_end_subset rfl ((hkeys.dated e he).mp hclose.2)
    next hclose => exact subset_rfl

/-- The student can begin an enrollment of the year on the day: the active one of the year, which
is ended then, has begun, and all others have ended. -/
def Registry.MayOpen (r : Registry) (student academicYear : ℕ) (day : Date) : Prop :=
  ∀ e ∈ r.history student,
    if e.academicYear = academicYear ∧ e.status = .active then e.enrolledAt ≤ day
    else ∃ d ∈ e.endedAt, d ≤ day

instance decidableMayOpen (r : Registry) (student academicYear : ℕ) (day : Date) :
    Decidable (r.MayOpen student academicYear day) := by
  unfold Registry.MayOpen
  infer_instance

theorem Registry.Timed.reseat (h : r.Timed) (hkeys : r.Coherent next) {student academicYear : ℕ}
    {day : Date} (hopen : r.MayOpen student academicYear day) (newId : ℕ) (target : Section) :
    (r.reseat (r.currentEnrollment student academicYear) day
      (newEnrollment newId day student academicYear target)).Timed := by
  unfold Registry.reseat
  cases hcurrent : r.currentEnrollment student academicYear with
  | none =>
    have hnone := Registry.currentEnrollment_eq_none_iff.mp hcurrent
    apply h.addEnrollment rfl
    intro e he hstudent
    have hcan := hopen e (Registry.mem_history.mpr ⟨he, hstudent⟩)
    rw [if_neg fun hyear => hnone e he hstudent hyear.1 hyear.2] at hcan
    exact hcan
  | some old =>
    obtain ⟨hold, hstudent, hyear, hactive⟩ := Registry.mem_of_currentEnrollment hcurrent
    have hbegun := hopen old (Registry.mem_history.mpr ⟨hold, hstudent⟩)
    rw [if_pos ⟨hyear, hactive⟩] at hbegun
    have hnoend : old.endedAt = none := (hkeys.dated old hold).mp hactive
    have hput := hkeys.putEnrollment_eq hold (old.transferredOn day) rfl
    have hended : (r.putEnrollment (old.transferredOn day)).Timed := by
      rw [hput]
      apply h.mapEnrollments
      · intro e _
        split
        next heq => rw [heq]; rfl
        next => rfl
      · intro e _
        split
        next heq => rw [heq]; rfl
        next => rfl
      · intro e he d hd
        split at hd
        next heq =>
          rw [if_pos heq]
          cases hd
          exact hbegun
        next heq =>
          rw [if_neg heq]
          exact h.ordered e he d hd
      · intro e _
        split
        next heq =>
          rw [heq]
          exact StudentEnrollment.points_end_subset rfl hnoend
        next => exact subset_rfl
    apply hended.addEnrollment rfl
    intro e he hsame
    rw [hput] at he
    obtain ⟨e₀, he₀, rfl⟩ := List.mem_map.mp he
    split at hsame
    next heq =>
      rw [if_pos heq]
      exact ⟨day, rfl, le_rfl⟩
    next heq =>
      rw [if_neg heq]
      have hcan := hopen e₀ (Registry.mem_history.mpr ⟨he₀, hsame⟩)
      split at hcan
      next hboth =>
        -- A second active enrollment would hold beside the first one for ever.
        have hnoend' : e₀.endedAt = none := (hkeys.dated e₀ he₀).mp hboth.2
        exact absurd
          (h.eq_of_open hkeys he₀ hold (hsame.trans hstudent.symm) hnoend' hnoend) heq
      next => exact hcan

theorem Registry.Timed.enroll (h : r.Timed) (hkeys : r.Coherent next) (data : NewStudentData)
    (academicYear : ℕ) (target : Section) (day : Date) :
    (r.enroll (data.student next)
      (newEnrollment (next + 1) day next academicYear target)).Timed := by
  have hadd : (r.addEnrollment (newEnrollment (next + 1) day next academicYear target)).Timed := by
    apply h.addEnrollment rfl
    intro e he hstudent
    obtain ⟨x, hx, hid⟩ := hkeys.owners e he
    have hlt := hkeys.students_lt x hx
    rw [hid, hstudent] at hlt
    exact absurd hlt (lt_irrefl next)
  exact ⟨hadd.ordered, hadd.apart⟩

theorem Registry.Timed.seatIn (h : r.Timed) (hkeys : r.Coherent next) {student academicYear : ℕ}
    {today : Date} {target : Section} (newId : ℕ)
    (hopen : (r.currentEnrollment student academicYear).all (fun e => e.sectionId ≠ target.id) →
      r.MayOpen student academicYear today) :
    (r.seatIn newId today student academicYear target).Timed := by
  unfold Registry.seatIn
  split
  · exact h
  next hmove =>
    apply h.reseat hkeys
    apply hopen
    cases hcurrent : r.currentEnrollment student academicYear with
    | none => rfl
    | some e =>
      simp only [hcurrent, Option.any_some, decide_eq_true_eq] at hmove
      simpa using hmove

variable {o o' : Office} {r : Registry} {today : Date} {target : ℕ} {sources : List ℕ}

/-! ## Plans without blockers -/

theorem ite_nil_eq_nil {α : Type} {c : Prop} [Decidable c] {x : α} :
    (if c then [x] else []) = [] ↔ ¬ c := by
  by_cases hc : c <;> simp [hc]

structure Registry.SoleActive (r : Registry) (student : ℕ) (e : StudentEnrollment) : Prop where
  mem : e ∈ r.enrollments
  owner : e.student = student
  status : e.status = .active
  unique : ∀ f ∈ r.enrollments, f.student = student → f.status = .active → f = e

theorem Registry.mem_activeOf {student : ℕ} {e : StudentEnrollment} :
    e ∈ r.activeOf student ↔ e ∈ r.enrollments ∧ e.student = student ∧ e.status = .active := by
  rw [Registry.activeOf, List.mem_filter, decide_eq_true_eq]

theorem Registry.soleActive?_eq_some {student : ℕ} {e : StudentEnrollment}
    (h : r.soleActive? student = some e) : r.SoleActive student e := by
  unfold Registry.soleActive? at h
  split at h
  next f hlist =>
    cases h
    have hmem : ∀ f, f ∈ r.activeOf student ↔ f = e := by
      intro f
      rw [hlist, List.mem_singleton]
    obtain ⟨he, hstudent, hactive⟩ := Registry.mem_activeOf.mp ((hmem e).mpr rfl)
    exact ⟨he, hstudent, hactive, fun f hf hs ha =>
      (hmem f).mp (Registry.mem_activeOf.mpr ⟨hf, hs, ha⟩)⟩
  next => cases h

theorem Registry.exists_soleActive? {student : ℕ} (h : (r.activeOf student).length = 1) :
    ∃ e, r.soleActive? student = some e := by
  obtain ⟨e, he⟩ := List.length_eq_one_iff.mp h
  exact ⟨e, by rw [Registry.soleActive?, he]⟩

structure SectionPlan.Settles (plan : SectionPlan) (rows : List StudentEnrollment) : Prop where
  covers : ∀ e ∈ rows, plan.converted = some e ∨ e ∈ plan.discard
  discard : ∀ e ∈ plan.discard, e ∈ rows
  converted : ∀ e, plan.converted = some e → e ∈ rows ∧ e.enrolledAt < plan.start

theorem planDiffering_settles {s : School} {active : StudentEnrollment}
    {rows : List StudentEnrollment} (h : (planDiffering s today active rows).blockers = []) :
    (planDiffering s today active rows).Settles rows := by
  unfold planDiffering at h ⊢
  split at h
  · exact ⟨fun e he => absurd he List.not_mem_nil, fun e he => absurd he List.not_mem_nil,
      fun e he => nomatch he⟩
  next row =>
    simp only at h ⊢
    split at h
    · cases h
    next horder =>
      split at h
      · cases h
      next hrecent =>
        simp only [if_neg horder, if_neg hrecent]
        split at h
        next hearlier =>
          rw [if_pos hearlier]
          refine ⟨fun e he => .inl ?_, fun e he => absurd he List.not_mem_nil, fun e he => ?_⟩
          · rw [List.mem_singleton.mp he]
          · cases he
            exact ⟨List.mem_cons_self, hearlier⟩
        next hearlier =>
          split at h
          · cases h
          next hdates =>
            rw [if_neg hearlier, if_neg hdates]
            exact ⟨fun e he => .inr he, fun e he => he, fun e he => nomatch he⟩
  · cases h

theorem planActive_settles {s : School} {active : StudentEnrollment}
    (h : (planActive s today active sources).blockers = []) :
    (planActive s today active sources).Settles
      (sources.filterMap s.registry.soleActive?) := by
  unfold planActive at h ⊢
  simp only [List.append_eq_nil_iff, ite_nil_eq_nil, not_not] at h ⊢
  obtain ⟨hyears, hplan⟩ := h
  -- Every active enrollment of a source is in the year.
  have hall : ∀ e ∈ sources.filterMap s.registry.soleActive?,
      e.academicYear = active.academicYear := by
    have hfilter := List.filter_eq_self.mp
      (List.filter_sublist.eq_of_length hyears.symm)
    intro e he
    simpa using hfilter e he
  have hsettles := planDiffering_settles hplan
  refine ⟨?_, ?_, ?_⟩
  · intro e he
    by_cases hplace : e.samePlace active = true
    · right
      apply List.mem_append_left
      simp [he, hall e he, hplace]
    · have hin : e ∈ ((sources.filterMap s.registry.soleActive?).filter fun row =>
          row.academicYear = active.academicYear).filter fun row => ¬ row.samePlace active := by
        simp [he, hall e he, hplace]
      rcases hsettles.covers e hin with hconverted | hdiscard
      · exact .inl hconverted
      · exact .inr (List.mem_append_right _ hdiscard)
  · intro e he
    rcases List.mem_append.mp he with he | he
    · exact List.mem_of_mem_filter (List.mem_of_mem_filter he)
    · exact List.mem_of_mem_filter (List.mem_of_mem_filter (hsettles.discard e he))
  · intro e he
    obtain ⟨hin, hlt⟩ := hsettles.converted e he
    exact ⟨List.mem_of_mem_filter (List.mem_of_mem_filter hin), hlt⟩

structure MergeReady (o : Office) (today : Date) (target : ℕ) (sources : List ℕ)
    (active : StudentEnrollment) (plan : SectionPlan) : Prop where
  studentsActive : ∀ x ∈ o.registry.students, x.id ∈ target :: sources → x.status = .active
  targetActive : o.registry.SoleActive target active
  sourceActive : ∀ id ∈ sources, ∃ e, o.registry.SoleActive id e ∧
    (plan.converted = some e ∨ e ∈ plan.discard)
  discard : ∀ e ∈ plan.discard, e.student ∈ sources
  converted : ∀ e, plan.converted = some e →
    e ∈ o.registry.enrollments ∧ e.student ∈ sources ∧ e.status = .active ∧
      e.enrolledAt < plan.start
  sourcePast : ∀ e ∈ o.registry.enrollments, e.student ∈ sources → e.status ≠ .active →
    pastRow plan.start e ≠ .block
  targetPast : ∀ e ∈ o.registry.enrollments, e.student = target → e.status ≠ .active →
    ∃ d, e.endedAt = some d ∧ d ≤ plan.start
  apart : intervalsOverlap (historyIntervals o.registry target plan
    ((o.registry.pastOf sources).filter fun row => pastRow plan.start row = .move)) = false

theorem Registry.mem_pastOf {ids : List ℕ} {e : StudentEnrollment} :
    e ∈ r.pastOf ids ↔ e ∈ r.enrollments ∧ e.student ∈ ids ∧ e.status ≠ .active := by
  rw [Registry.pastOf, List.mem_filter, decide_eq_true_eq]

/-- The groups of blockers of a plan that has none. -/
structure MergePlan.Clear (o : Office) (today : Date) (target : ℕ) (sources : List ℕ)
    (active : StudentEnrollment) : Prop where
  targetActive : o.registry.soleActive? target = some active
  records : recordBlockers o (target :: sources) sources
    (o.registry.students.filter fun x => x.id ∈ target :: sources) = []
  attendance : attendanceBlockers
    (Dict.groupBy (fun row => row.attendanceDate)
      (o.school.summaries.filter fun row => row.student ∈ target :: sources))
    (Dict.groupBy (fun row => row.session)
      (o.school.marks.filter fun row => row.student ∈ target :: sources)) = []
  sections : (planActive o.school today active sources).blockers = []
  history : historyBlockers o.school target sources active
    (planActive o.school today active sources) ((o.registry.pastOf sources).filter fun row =>
      pastRow (planActive o.school today active sources).start row = .move) = []

theorem mem_activeOf_length (h : recordBlockers o (target :: sources) sources
    (o.registry.students.filter fun x => x.id ∈ target :: sources) = []) :
    ∀ id ∈ target :: sources, (o.registry.activeOf id).length = 1 := by
  unfold recordBlockers at h
  simp only [List.append_eq_nil_iff, ite_nil_eq_nil, List.any_eq_true, decide_eq_true_eq,
    not_exists, not_and, not_not] at h
  exact h.2

theorem mergePlan_clear (h : (mergePlan today target sources o).blockers = []) :
    ∃ active, MergePlan.Clear o today target sources active := by
  have hrecords : recordBlockers o (target :: sources) sources
      (o.registry.students.filter fun x => x.id ∈ target :: sources) = [] := by
    unfold mergePlan at h
    simp only at h
    split at h
    · exact (List.append_eq_nil_iff.mp h).1
    · simp only [List.append_eq_nil_iff] at h
      exact h.1.1.1
  obtain ⟨active, hactive⟩ :=
    Registry.exists_soleActive? (mem_activeOf_length hrecords target List.mem_cons_self)
  have hactive' : o.school.registry.soleActive? target = some active := hactive
  unfold mergePlan at h
  simp only [hactive', List.append_eq_nil_iff] at h
  obtain ⟨⟨⟨-, hattendance⟩, hplan⟩, hhistory⟩ := h
  exact ⟨active, hactive, hrecords, hattendance, hplan, hhistory⟩

theorem MergePlan.Clear.ready {active : StudentEnrollment}
    (h : MergePlan.Clear o today target sources active) :
    MergeReady o today target sources active (planActive o.school today active sources) := by
  have hone := mem_activeOf_length h.records
  have hstudents : ∀ x ∈ o.registry.students, x.id ∈ target :: sources → x.status = .active := by
    have hrecords := h.records
    unfold recordBlockers at hrecords
    simp only [List.append_eq_nil_iff, ite_nil_eq_nil, List.any_eq_true, decide_eq_true_eq,
      not_exists, not_and, not_or, not_not, List.mem_filter, and_imp] at hrecords
    exact fun x hx hid => (hrecords.1.1.1.1.1 x hx hid).1
  have hsettles := planActive_settles h.sections
  have hhistory := h.history
  unfold historyBlockers at hhistory
  simp only [List.append_eq_nil_iff, ite_nil_eq_nil, List.any_eq_true, decide_eq_true_eq,
    not_exists, not_and, Bool.not_eq_true] at hhistory
  obtain ⟨⟨⟨-, hsource⟩, htarget⟩, hoverlap⟩ := hhistory
  have hrow : ∀ e ∈ sources.filterMap o.school.registry.soleActive?,
      ∃ id ∈ sources, o.registry.SoleActive id e := by
    intro e he
    obtain ⟨id, hid, hsole⟩ := List.mem_filterMap.mp he
    exact ⟨id, hid, Registry.soleActive?_eq_some hsole⟩
  refine ⟨hstudents, Registry.soleActive?_eq_some h.targetActive, ?_, ?_, ?_, ?_, ?_, hoverlap⟩
  · intro id hid
    obtain ⟨e, he⟩ := Registry.exists_soleActive? (hone id (List.mem_cons_of_mem _ hid))
    exact ⟨e, Registry.soleActive?_eq_some he,
      hsettles.covers e (List.mem_filterMap.mpr ⟨id, hid, he⟩)⟩
  · intro e he
    obtain ⟨id, hid, hsole⟩ := hrow e (hsettles.discard e he)
    rw [hsole.owner]
    exact hid
  · intro e he
    obtain ⟨hin, hlt⟩ := hsettles.converted e he
    obtain ⟨id, hid, hsole⟩ := hrow e hin
    exact ⟨hsole.mem, hsole.owner ▸ hid, hsole.status, hlt⟩
  · intro e he hid hstatus
    exact hsource e (Registry.mem_pastOf.mpr ⟨he, hid, hstatus⟩)
  · intro e he hid hstatus
    have hended := htarget e (Registry.mem_pastOf.mpr ⟨he, by simp [hid], hstatus⟩)
    cases hd : e.endedAt with
    | none => simp [hd] at hended
    | some d =>
      simp only [hd, Option.all_some, decide_eq_false_iff_not] at hended
      exact ⟨d, rfl, not_lt.mp hended⟩

inductive MergeFate (target : ℕ) (sources : List ℕ) (active : StudentEnrollment)
    (plan : SectionPlan) (e : StudentEnrollment) : StudentEnrollment → Prop
  | converted (h : plan.converted = some e) : MergeFate target sources active plan e
      { e with student := target, status := .transferred, endedAt := some plan.start }
  | moved (hsource : e.student ∈ sources) (hended : e.status ≠ .active)
      (h : pastRow plan.start e = .move) : MergeFate target sources active plan e
      { e with student := target }
  | current (h : e = active) : MergeFate target sources active plan e
      { e with enrolledAt := plan.start }
  | past (howner : e.student = target) (hended : e.status ≠ .active) :
      MergeFate target sources active plan e e
  | other (howner : e.student ∉ target :: sources) : MergeFate target sources active plan e e

def mergedRegistry (o : Office) (now : Instant) (today : Date) (target : ℕ) (sources : List ℕ) :
    Registry :=
  ((mergePlan today target sources o).apply now today target sources o.school).registry

section Ready

variable {active : StudentEnrollment} {now : Instant} {next : ℕ}

theorem mem_mergedRegistry_enrollments
    (hactive : o.registry.soleActive? target = some active)
    (h : MergeReady o today target sources active (planActive o.school today active sources))
    {e' : StudentEnrollment} (he' : e' ∈ (mergedRegistry o now today target sources).enrollments) :
    ∃ e ∈ o.registry.enrollments, e'.id = e.id ∧
      MergeFate target sources active (planActive o.school today active sources) e e' := by
  have hactive' : o.school.registry.soleActive? target = some active := hactive
  unfold mergedRegistry MergePlan.apply at he'
  simp only [List.mem_map, List.mem_filter, decide_eq_true_eq] at he'
  obtain ⟨e, ⟨he, hkept⟩, rfl⟩ := he'
  have he₀ : e ∈ o.registry.enrollments := he
  unfold mergePlan at hkept
  simp only [hactive', List.mem_append, not_or] at hkept
  obtain ⟨hdiscard, hpast⟩ := hkept
  refine ⟨e, he₀, ?_, ?_⟩
  · unfold MergePlan.enrollment
    split
    · rfl
    · split
      · rfl
      · split <;> rfl
  unfold MergePlan.enrollment mergePlan
  simp only [hactive']
  split
  next hconverted => exact .converted hconverted
  next hconverted =>
    split
    next hmoved =>
      rw [List.mem_filter, decide_eq_true_eq] at hmoved
      obtain ⟨-, hsource, hended⟩ := Registry.mem_pastOf.mp hmoved.1
      exact .moved hsource hended hmoved.2
    next hmoved =>
      split
      next hcurrent => exact .current (Option.some.inj hcurrent).symm
      next hcurrent =>
        have hne : e ≠ active := fun heq => hcurrent (by rw [heq])
        by_cases howner : e.student ∈ target :: sources
        · rcases List.mem_cons.mp howner with howner | hsource
          · refine .past howner fun hstatus => hne ?_
            exact h.targetActive.unique e he₀ howner hstatus
          · -- Nothing of a source is left over.
            exfalso
            by_cases hstatus : e.status = .active
            · obtain ⟨f, hsole, hsettled⟩ := h.sourceActive e.student hsource
              have hef := hsole.unique e he₀ rfl hstatus
              rw [← hef] at hsettled
              rcases hsettled with hconv | hdis
              · exact hconverted hconv
              · exact hdiscard hdis
            · have hmem : e ∈ o.school.registry.pastOf sources :=
                Registry.mem_pastOf.mpr ⟨he, hsource, hstatus⟩
              have hblock := h.sourcePast e he₀ hsource hstatus
              cases hrow : pastRow (planActive o.school today active sources).start e with
              | move => exact hmoved (List.mem_filter.mpr ⟨hmem, by simp [hrow]⟩)
              | discard => exact hpast (List.mem_filter.mpr ⟨hmem, by simp [hrow]⟩)
              | block => exact hblock hrow
        · exact .other howner

theorem MergeFate.owner {plan : SectionPlan} {e e' : StudentEnrollment}
    (h : MergeReady o today target sources active plan)
    (hfate : MergeFate target sources active plan e e') :
    e'.student = target ∨ e'.student ∉ target :: sources ∧ e' = e := by
  cases hfate with
  | converted => exact .inl rfl
  | moved => exact .inl rfl
  | current heq =>
    left
    rw [heq]
    exact h.targetActive.owner
  | past howner => exact .inl howner
  | other howner => exact .inr ⟨howner, rfl⟩

theorem pastRow_eq_move {start : Date} {e : StudentEnrollment} (h : pastRow start e = .move) :
    ∃ d, e.endedAt = some d ∧ e.enrolledAt < d ∧ d ≤ start := by
  unfold pastRow at h
  split at h
  · cases h
  next d hd =>
    split at h
    next hmove => exact ⟨d, hd, hmove⟩
    next =>
      split at h <;> cases h

theorem mergedRegistry_coherent (hkeys : o.registry.Coherent next)
    (hactive : o.registry.soleActive? target = some active)
    (h : MergeReady o today target sources active (planActive o.school today active sources))
    (hexists : ∃ x ∈ o.registry.students, x.id = target) :
    (mergedRegistry o now today target sources).Coherent next := by
  have hstudents : (mergedRegistry o now today target sources).students =
      o.registry.students.map fun x =>
        if x.id ∈ sources then archivedSource now today target x else x := rfl
  have hid : ∀ x : Student,
      (if x.id ∈ sources then archivedSource now today target x else x).id = x.id := by
    intro x
    split <;> rfl
  have hkept : ∀ id, (∃ x ∈ o.registry.students, x.id = id) →
      ∃ x ∈ (mergedRegistry o now today target sources).students, x.id = id := by
    rintro id ⟨x, hx, rfl⟩
    rw [hstudents]
    exact ⟨_, List.mem_map_of_mem hx, hid x⟩
  refine ⟨?_, ?_, ?_, ?_, ?_, ?_⟩
  · rw [hstudents, List.map_map]
    have hids : (o.registry.students.map ((fun x : Student => x.id) ∘ fun x =>
        if x.id ∈ sources then archivedSource now today target x else x)) =
        o.registry.students.map fun x => x.id := List.map_congr_left fun x _ => hid x
    rw [hids]
    exact hkeys.students_nodup
  · intro x hx
    rw [hstudents] at hx
    obtain ⟨x₀, hx₀, rfl⟩ := List.mem_map.mp hx
    rw [hid]
    exact hkeys.students_lt x₀ hx₀
  · have hsub : ((mergedRegistry o now today target sources).enrollments.map fun e => e.id).Sublist
        (o.registry.enrollments.map fun e => e.id) := by
      unfold mergedRegistry MergePlan.apply
      simp only [List.map_map]
      have hids : ∀ l : List StudentEnrollment, l.map ((fun e : StudentEnrollment => e.id) ∘
          (mergePlan today target sources o).enrollment target) = l.map fun e => e.id := by
        intro l
        apply List.map_congr_left
        intro e _
        simp only [Function.comp_apply]
        unfold MergePlan.enrollment
        split
        · rfl
        · split
          · rfl
          · split <;> rfl
      rw [hids]
      exact List.filter_sublist.map _
    exact hkeys.enrollments_nodup.sublist hsub
  · intro e' he'
    obtain ⟨e, he, hid', -⟩ := mem_mergedRegistry_enrollments hactive h he'
    rw [hid']
    exact hkeys.enrollments_lt e he
  · intro e' he'
    obtain ⟨e, he, -, hfate⟩ := mem_mergedRegistry_enrollments hactive h he'
    rcases hfate.owner h with howner | ⟨-, heq⟩
    · rw [howner]
      exact hkept target hexists
    · rw [heq]
      exact hkept e.student (hkeys.owners e he)
  · intro e' he'
    obtain ⟨e, he, -, hfate⟩ := mem_mergedRegistry_enrollments hactive h he'
    cases hfate with
    | converted => simp
    | moved => exact hkeys.dated e he
    | current => exact hkeys.dated e he
    | past => exact hkeys.dated e' he
    | other => exact hkeys.dated e' he

/-! ## The timeline of the target -/

def pastRows (o : Office) (target : ℕ) (sources : List ℕ) (plan : SectionPlan) :
    List StudentEnrollment :=
  o.registry.pastOf [target] ++
    ((o.registry.pastOf sources).filter fun row => pastRow plan.start row = .move) ++
    plan.converted.toList.map fun row => { row with endedAt := some plan.start }

theorem historyIntervals_perm (o : Office) (target : ℕ) (sources : List ℕ) (plan : SectionPlan)
    (hconverted : ∀ e, plan.converted = some e → e.enrolledAt < plan.start) :
    (historyIntervals o.registry target plan ((o.registry.pastOf sources).filter fun row =>
      pastRow plan.start row = .move)).Perm
        ((pastRows o target sources plan).filterMap StudentEnrollment.interval?) := by
  have hlast : (plan.converted.toList.map fun row => (row.enrolledAt, plan.start)) =
      (plan.converted.toList.map fun row : StudentEnrollment =>
        { row with endedAt := some plan.start }).filterMap StudentEnrollment.interval? := by
    cases hplan : plan.converted with
    | none => rfl
    | some row =>
      have hlt := hconverted row hplan
      simp [StudentEnrollment.interval?, hlt]
  unfold historyIntervals pastRows
  rw [List.filterMap_append, List.filterMap_append, ← hlast]
  exact KeySort.perm_sortBy Prod.fst _

theorem interval?_eq_some {e : StudentEnrollment} {x : Date × Date}
    (h : e.interval? = some x) : e.endedAt = some x.2 ∧ e.enrolledAt = x.1 ∧ x.1 < x.2 := by
  unfold StudentEnrollment.interval? at h
  obtain ⟨d, hd, hx⟩ := Option.bind_eq_some_iff.mp h
  split at hx
  next hlt =>
    cases hx
    exact ⟨hd, rfl, hlt⟩
  next => cases hx

theorem isChain_of_not_overlap {l : List (Date × Date)} (h : intervalsOverlap l = false) :
    l.IsChain fun x y => x.2 ≤ y.1 := by
  induction l with
  | nil => exact List.IsChain.nil
  | cons x l ih =>
    cases l with
    | nil => exact List.IsChain.singleton x
    | cons y l =>
      simp only [intervalsOverlap, Bool.or_eq_false_iff, decide_eq_false_iff_not, not_lt] at h
      exact List.isChain_cons_cons.mpr ⟨h.1, ih h.2⟩

theorem MergeReady.past_apart {plan : SectionPlan}
    (h : MergeReady o today target sources active plan) {e f : StudentEnrollment}
    (he : e ∈ pastRows o target sources plan) (hf : f ∈ pastRows o target sources plan)
    (hne : e ≠ f) (hended : ∃ d, e.endedAt = some d) (hended' : ∃ d, f.endedAt = some d) :
    Disjoint e.span.points f.span.points := by
  obtain ⟨d, hd⟩ := hended
  obtain ⟨d', hd'⟩ := hended'
  by_cases hlt : e.enrolledAt < d
  · by_cases hlt' : f.enrolledAt < d'
    · have hperm := historyIntervals_perm o target sources plan
        fun e he => (h.converted e he).2.2.2
      have hchain := isChain_of_not_overlap h.apart
      have hall : ∀ x ∈ historyIntervals o.registry target plan ((o.registry.pastOf
          sources).filter fun row => pastRow plan.start row = .move), x.1 < x.2 := by
        intro x hx
        obtain ⟨row, -, hrow⟩ := List.mem_filterMap.mp (hperm.subset hx)
        exact (interval?_eq_some hrow).2.2
      have hpairs := Span.pairwise_of_isChain hall hchain
      have hsym : (historyIntervals o.registry target plan ((o.registry.pastOf
          sources).filter fun row => pastRow plan.start row = .move)).Pairwise
            fun x y => x.2 ≤ y.1 ∨ y.2 ≤ x.1 := hpairs.imp fun hxy => .inl hxy
      have hpast := (hperm.pairwise_iff fun hxy => hxy.symm).mp hsym
      rw [List.pairwise_filterMap] at hpast
      have hsymm : Std.Symm fun a b : StudentEnrollment => ∀ x, a.interval? = some x → ∀ y,
          b.interval? = some y → x.2 ≤ y.1 ∨ y.2 ≤ x.1 :=
        ⟨fun a b hab x hx y hy => (hab y hy x hx).symm⟩
      have hrow : e.interval? = some (e.enrolledAt, d) := by
        simp [StudentEnrollment.interval?, hd, hlt]
      have hrow' : f.interval? = some (f.enrolledAt, d') := by
        simp [StudentEnrollment.interval?, hd', hlt']
      rcases hpast.forall he hf hne _ hrow _ hrow' with hle | hle
      · exact Span.disjoint_of_le hd hle
      · exact (Span.disjoint_of_le hd' hle).symm
    · rw [show f.span.points = ∅ from Span.points_eq_empty hd' (not_lt.mp hlt')]
      exact Set.disjoint_empty _
  · rw [show e.span.points = ∅ from Span.points_eq_empty hd (not_lt.mp hlt)]
    exact Set.empty_disjoint _

theorem MergeFate.history {plan : SectionPlan} {e e' : StudentEnrollment}
    (h : MergeReady o today target sources active plan) (he : e ∈ o.registry.enrollments)
    (hfate : MergeFate target sources active plan e e') (howner : e'.student = target) :
    e = active ∧ e' = { e with enrolledAt := plan.start } ∨
    ∃ row ∈ pastRows o target sources plan, row.id = e.id ∧ row.span = e'.span ∧
      ∃ d, e'.endedAt = some d ∧ d ≤ plan.start := by
  cases hfate with
  | converted hconverted =>
    refine .inr ⟨{ e with endedAt := some plan.start }, ?_, rfl, rfl, plan.start, rfl, le_rfl⟩
    apply List.mem_append_right
    rw [hconverted]
    exact List.mem_cons_self
  | moved hsource hended hmove =>
    obtain ⟨d, hd, -, hle⟩ := pastRow_eq_move hmove
    refine .inr ⟨e, ?_, rfl, rfl, d, hd, hle⟩
    apply List.mem_append_left
    apply List.mem_append_right
    exact List.mem_filter.mpr ⟨Registry.mem_pastOf.mpr ⟨he, hsource, hended⟩, by simp [hmove]⟩
  | current heq => exact .inl ⟨heq, rfl⟩
  | past hstudent hended =>
    obtain ⟨d, hd, hle⟩ := h.targetPast _ he hstudent hended
    refine .inr ⟨_, ?_, rfl, rfl, d, hd, hle⟩
    apply List.mem_append_left
    apply List.mem_append_left
    exact Registry.mem_pastOf.mpr ⟨he, by simp [hstudent], hended⟩
  | other hother => exact absurd (by rw [howner]; exact List.mem_cons_self) hother

theorem mergedRegistry_apart
    (hactive : o.registry.soleActive? target = some active)
    (h : MergeReady o today target sources active (planActive o.school today active sources))
    {e' f' : StudentEnrollment} (he' : e' ∈ (mergedRegistry o now today target sources).enrollments)
    (hf' : f' ∈ (mergedRegistry o now today target sources).enrollments)
    (howner : e'.student = target) (howner' : f'.student = target) (hne : e'.id ≠ f'.id) :
    Disjoint e'.span.points f'.span.points := by
  obtain ⟨e, he, hid, hfate⟩ := mem_mergedRegistry_enrollments hactive h he'
  obtain ⟨f, hf, hid', hfate'⟩ := mem_mergedRegistry_enrollments hactive h hf'
  rw [hid, hid'] at hne
  rcases hfate.history h he howner with ⟨hcur, heq⟩ | ⟨row, hrow, hrowid, hspan, d, hd, hle⟩
  · rcases hfate'.history h hf howner' with ⟨hcur', -⟩ | ⟨-, -, -, -, d', hd', hle'⟩
    · exact absurd (by rw [hcur, hcur']) hne
    · rw [heq]
      exact (Span.disjoint_of_le hd' hle').symm
  · rcases hfate'.history h hf howner' with ⟨-, heq'⟩ | ⟨row', hrow', hrowid', hspan', d', hd', -⟩
    · rw [heq']
      exact Span.disjoint_of_le hd hle
    · have hrows : row ≠ row' := by
        intro heq
        rw [heq, hrowid'] at hrowid
        exact hne hrowid.symm
      have hstop : row.endedAt = some d := (congrArg Span.stop hspan).trans hd
      have hstop' : row'.endedAt = some d' := (congrArg Span.stop hspan').trans hd'
      rw [← hspan, ← hspan']
      exact h.past_apart hrow hrow' hrows ⟨d, hstop⟩ ⟨d', hstop'⟩

theorem mergedRegistry_timed (hkeys : o.registry.Coherent next) (htimed : o.registry.Timed)
    (hactive : o.registry.soleActive? target = some active)
    (h : MergeReady o today target sources active (planActive o.school today active sources)) :
    (mergedRegistry o now today target sources).Timed := by
  have hfates := fun e' (he' : e' ∈ (mergedRegistry o now today target sources).enrollments) =>
    mem_mergedRegistry_enrollments hactive h he'
  constructor
  · intro e' he' d hd
    obtain ⟨e, he, -, hfate⟩ := hfates e' he'
    cases hfate with
    | converted hconverted =>
      cases hd
      exact (h.converted e hconverted).2.2.2.le
    | moved => exact htimed.ordered e he d hd
    | current heq =>
      have hnone : e.endedAt = none :=
        (hkeys.dated e he).mp (by rw [heq]; exact h.targetActive.status)
      rw [hnone] at hd
      cases hd
    | past => exact htimed.ordered _ he d hd
    | other => exact htimed.ordered _ he d hd
  · intro e' he' f' hf' hsame hne
    obtain ⟨e, he, hid, hfate⟩ := hfates e' he'
    obtain ⟨f, hf, hid', hfate'⟩ := hfates f' hf'
    rcases hfate.owner h with howner | ⟨hother, heq⟩
    · exact mergedRegistry_apart hactive h he' hf' howner (hsame.symm.trans howner) hne
    · rcases hfate'.owner h with howner' | ⟨-, heq'⟩
      · rw [hsame, howner'] at hother
        exact absurd List.mem_cons_self hother
      · rw [heq, heq'] at hsame hne ⊢
        exact htimed.apart e he f hf hsame hne

end Ready

structure Office.Merges (o : Office) (target : ℕ) (sources : List ℕ) : Prop where
  count : 2 ≤ (target :: sources).length ∧ (target :: sources).length ≤ 10
  nodup : (target :: sources).Nodup
  found : ∀ id ∈ target :: sources, ∃ x ∈ o.registry.students, x.id = id

theorem buildManualMergePlan_eq_ok {plan : MergePlan}
    (h : buildManualMergePlan today (target :: sources) o = .ok plan) :
    o.Merges target sources ∧ plan = mergePlan today target sources o := by
  unfold buildManualMergePlan at h
  simp only at h
  rw [Fallible.ite_error_eq_ok, Fallible.ite_error_eq_ok] at h
  obtain ⟨hselection, hfound, hplan⟩ := h
  cases hplan
  rw [not_or, not_not, not_not] at hselection
  refine ⟨⟨hselection.1, hselection.2, ?_⟩, rfl⟩
  simp only [List.any_eq_true, not_exists, not_and, Bool.not_eq_true,
    Option.isNone_eq_false_iff] at hfound
  intro id hid
  obtain ⟨x, hx⟩ := Option.isSome_iff_exists.mp (hfound id hid)
  have hfind := List.find?_some hx
  rw [decide_eq_true_eq] at hfind
  exact ⟨x, List.mem_of_find?_eq_some hx, hfind⟩

theorem applyManualMerge_eq_ok {now : Instant} {token : MergeToken}
    (h : applyManualMerge now today token o = .ok o') :
    ∃ target sources active, token.ids = target :: sources ∧ target ∉ sources ∧
      (∃ x ∈ o.registry.students, x.id = target) ∧
      o.registry.soleActive? target = some active ∧
      MergeReady o today target sources active (planActive o.school today active sources) ∧
      o'.registry = mergedRegistry o now today target sources ∧ o'.nextId = o.nextId := by
  unfold applyManualMerge at h
  split at h
  · cases h
  next target sources hids =>
    split at h
    · cases h
    next plan hplan =>
      rw [Fallible.ite_error_eq_ok] at h
      obtain ⟨hready, h⟩ := h
      rw [not_or, not_not, not_not] at hready
      rw [hids] at hplan
      obtain ⟨hmerges, rfl⟩ := buildManualMergePlan_eq_ok hplan
      obtain ⟨active, hclear⟩ := mergePlan_clear hready.1
      cases h
      exact ⟨target, sources, active, hids, (List.nodup_cons.mp hmerges.nodup).1,
        hmerges.found target List.mem_cons_self, hclear.targetActive, hclear.ready, rfl, rfl⟩

end SchoolPlatform
