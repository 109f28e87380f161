import SchoolPlatform.Analysis.Frames
import SchoolPlatform.Library.ConfinedChanges
import SchoolPlatform.Library.Guarantees
import SchoolPlatform.Model.Issuance

/-!
# Reconciliation keeps the warnings founded

A reconciliation follows the writes of its change in the same transaction. It locks the issued
warnings of the students that it finds; as long as no other warning is issued to them meanwhile,
what it counts is a lower bound of the metric at its commit for all of them (`Covered`).
-/

/-! ## Changes of the facts under warnings -/

namespace SchoolPlatform

open ReadCommitted

def DailyAttendanceSummary.row (r : DailyAttendanceSummary) : WarningRow :=
  .attendance (.summaryKey r.student r.attendanceDate)

def countsAbsence (year : AcademicYear) (student : ℕ) (r : DailyAttendanceSummary) : Bool :=
  r.isUnexcusedFullDay && decide (r.student = student ∧ r.academicYear = year.id)

def countsLateness (year : AcademicYear) (student : ℕ) (a : SchoolArrival) : Bool :=
  decide (a.student = student ∧ a.lateness.status = .late ∧ year.startDate ≤ a.attendanceDate ∧
    a.attendanceDate ≤ year.endDate)

theorem WarningOffice.metric_absence (s : WarningOffice) (year : AcademicYear) (student : ℕ) :
    s.metric year .unexcusedFullDayAbsence student =
      s.school.summaries.countP (countsAbsence year student) := by
  rw [List.countP_eq_length_filter, metric, summariesOf, List.filter_filter]
  rfl

theorem WarningOffice.metric_lateness (s : WarningOffice) (year : AcademicYear) (student : ℕ) :
    s.metric year .morningLateOccurrences student =
      s.arrivals.countP (countsLateness year student) := by
  rw [List.countP_eq_length_filter]
  rfl

theorem WarningOffice.metric_congr {s s' : WarningOffice} (hschool : s'.school = s.school)
    (harrivals : s'.arrivals = s.arrivals) (year : AcademicYear) (warningType : WarningRuleType)
    (student : ℕ) : s'.metric year warningType student = s.metric year warningType student := by
  cases warningType with
  | unexcusedFullDayAbsence => rw [metric_absence, metric_absence, hschool]
  | morningLateOccurrences => rw [metric_lateness, metric_lateness, harrivals]

/-- An issued warning has at least the metric that it was issued at. -/
def WarningOffice.Supported (s : WarningOffice) : Prop :=
  ∀ (i : ℕ) (w : StudentWarning) (year : AcademicYear), s.warnings[i]? = some w →
    w.status = .issued → s.year? w.academicYear = some year →
      w.thresholdAtIssue ≤ s.metric year w.warningType w.student

/-- The issued warnings are supported, and the years have keys of their own. -/
structure WarningOffice.Founded (s : WarningOffice) : Prop where
  supported : s.Supported
  years : (s.school.registry.academicYears.map fun y => y.id).Nodup

/-- What a client may commit under its locks. A warning that is issued afterwards has been there
unchanged, or is new. -/
structure MetricChange (L : List (WarningRow × LockMode)) (s s' : WarningOffice) : Prop where
  registry : s'.school.registry = s.school.registry
  rules : s'.rules = s.rules
  summaries : ∃ inside : DailyAttendanceSummary → Bool,
    (∀ r, inside r = true → WriteLocked L r.row) ∧
      s'.school.summaries.filter (fun r => !inside r) =
        s.school.summaries.filter fun r => !inside r
  arrivals : ∃ inside : SchoolArrival → Bool, (∀ a, inside a = true → WriteLocked L a.row) ∧
    s'.arrivals.filter (fun a => !inside a) = s.arrivals.filter fun a => !inside a
  warnings : ∀ (i : ℕ) (w : StudentWarning), s'.warnings[i]? = some w → w.status = .issued →
    s.warnings[i]? = some w ∨ s.warnings[i]? = none
  metric : ∀ (i : ℕ) (w : StudentWarning), s.warnings[i]? = some w → w.status = .issued →
    WriteLocked L (.warning i) ∨
      ∀ year, s.metric year w.warningType w.student ≤ s'.metric year w.warningType w.student
  supported : s.Founded → s'.Supported

theorem MetricChange.year_eq {L : List (WarningRow × LockMode)} {s s' : WarningOffice}
    (h : MetricChange L s s') (id : ℕ) : s'.year? id = s.year? id := by
  unfold WarningOffice.year?
  rw [h.registry]

theorem MetricChange.founded {L : List (WarningRow × LockMode)} {s s' : WarningOffice}
    (h : MetricChange L s s') (hs : s.Founded) : s'.Founded := by
  refine ⟨h.supported hs, ?_⟩
  rw [h.registry]
  exact hs.years

section Recorded

variable {warningType : WarningRuleType} {students : List ℕ} {held : List (WarningRow × LockMode)}
  {f : WarningOffice → WarningOffice}

/-- The changes of a transaction so far: it holds the rows that it has written, and may have lowered
the metric of a type for some students only. -/
structure Recorded (warningType : WarningRuleType) (students : List ℕ)
    (held : List (WarningRow × LockMode)) (f : WarningOffice → WarningOffice) : Prop where
  registry : ∀ s, (f s).school.registry = s.school.registry
  rules : ∀ s, (f s).rules = s.rules
  warnings : ∀ s, (f s).warnings = s.warnings
  summaries : ∃ (inside : DailyAttendanceSummary → Bool)
    (F : List DailyAttendanceSummary → List DailyAttendanceSummary), Confined inside F ∧
      (∀ s, (f s).school.summaries = F s.school.summaries) ∧
        ∀ r, inside r = true → WriteLocked held r.row
  arrivals : ∃ (inside : SchoolArrival → Bool) (F : List SchoolArrival → List SchoolArrival),
    Confined inside F ∧ (∀ s, (f s).arrivals = F s.arrivals) ∧
      ∀ a, inside a = true → WriteLocked held a.row
  others : ∀ (s : WarningOffice) (year : AcademicYear) (kind : WarningRuleType) (x : ℕ),
    ¬ (kind = warningType ∧ x ∈ students) → s.metric year kind x ≤ (f s).metric year kind x

theorem Recorded.start (warningType : WarningRuleType) (students : List ℕ)
    (held : List (WarningRow × LockMode)) : Recorded warningType students held fun s => s where
  registry := fun _ => rfl
  rules := fun _ => rfl
  warnings := fun _ => rfl
  summaries := ⟨fun _ => false, fun l => l, Confined.unchanged _, fun _ => rfl,
    fun _ hr => absurd hr Bool.false_ne_true⟩
  arrivals := ⟨fun _ => false, fun l => l, Confined.unchanged _, fun _ => rfl,
    fun _ ha => absurd ha Bool.false_ne_true⟩
  others := fun _ _ _ _ _ => Nat.le_refl _

theorem Recorded.mono (hf : Recorded warningType students held f)
    {held' : List (WarningRow × LockMode)} (hsub : held ⊆ held') :
    Recorded warningType students held' f where
  registry := hf.registry
  rules := hf.rules
  warnings := hf.warnings
  summaries := by
    obtain ⟨inside, F, hF, heq, hlock⟩ := hf.summaries
    exact ⟨inside, F, hF, heq, fun r hr => (hlock r hr).mono hsub⟩
  arrivals := by
    obtain ⟨inside, F, hF, heq, hlock⟩ := hf.arrivals
    exact ⟨inside, F, hF, heq, fun a ha => (hlock a ha).mono hsub⟩
  others := hf.others

theorem Recorded.ofSummaries {inside : DailyAttendanceSummary → Bool}
    {F : List DailyAttendanceSummary → List DailyAttendanceSummary} (hF : Confined inside F)
    (hlock : ∀ r, inside r = true → WriteLocked held r.row)
    (hstudents : ∀ r, inside r = true → r.student ∈ students) :
    Recorded .unexcusedFullDayAbsence students held
      fun s => { s with school := { s.school with summaries := F s.school.summaries } } where
  registry := fun _ => rfl
  rules := fun _ => rfl
  warnings := fun _ => rfl
  summaries := ⟨inside, F, hF, fun _ => rfl, hlock⟩
  arrivals := ⟨fun _ => false, fun l => l, Confined.unchanged _, fun _ => rfl,
    fun _ ha => absurd ha Bool.false_ne_true⟩
  others := by
    intro s year kind x hx
    cases kind with
    | morningLateOccurrences => exact Nat.le_refl _
    | unexcusedFullDayAbsence =>
      rw [WarningOffice.metric_absence, WarningOffice.metric_absence]
      apply Nat.le_of_eq
      refine (Confined.countP_eq (hF.outside _) fun r hr => ?_).symm
      simp only [countsAbsence, Bool.and_eq_true, decide_eq_true_eq] at hr
      cases hin : inside r with
      | false => rfl
      | true => exact absurd ⟨rfl, hr.2.1 ▸ hstudents r hin⟩ hx

theorem Recorded.ofArrivals {inside : SchoolArrival → Bool}
    {F : List SchoolArrival → List SchoolArrival} (hF : Confined inside F)
    (hlock : ∀ a, inside a = true → WriteLocked held a.row)
    (hothers : ∀ (year : AcademicYear) (x : ℕ) (l : List SchoolArrival), x ∉ students →
      l.countP (countsLateness year x) ≤ (F l).countP (countsLateness year x)) :
    Recorded .morningLateOccurrences students held
      fun s => { s with arrivals := F s.arrivals } where
  registry := fun _ => rfl
  rules := fun _ => rfl
  warnings := fun _ => rfl
  summaries := ⟨fun _ => false, fun l => l, Confined.unchanged _, fun _ => rfl,
    fun _ hr => absurd hr Bool.false_ne_true⟩
  arrivals := ⟨inside, F, hF, fun _ => rfl, hlock⟩
  others := by
    intro s year kind x hx
    cases kind with
    | unexcusedFullDayAbsence => exact Nat.le_refl _
    | morningLateOccurrences =>
      rw [WarningOffice.metric_lateness, WarningOffice.metric_lateness]
      exact hothers year x s.arrivals fun hmem => hx ⟨rfl, hmem⟩

/-- **What has been counted after the writes stays a lower bound**, while the metric of the
committed store does not go down. -/
theorem Recorded.metric_le (hf : Recorded warningType students held f)
    {L : List (WarningRow × LockMode)} (hcompat : Compatible held L) {s s' : WarningOffice}
    (hcommit : MetricChange L s s') (year : AcademicYear) (kind : WarningRuleType) (x : ℕ)
    (hle : s.metric year kind x ≤ s'.metric year kind x) :
    (f s).metric year kind x ≤ (f s').metric year kind x := by
  cases kind with
  | unexcusedFullDayAbsence =>
    obtain ⟨inside, F, hF, heq, hlock⟩ := hf.summaries
    obtain ⟨theirs, htheirs, hsame⟩ := hcommit.summaries
    simp only [WarningOffice.metric_absence, heq] at hle ⊢
    refine hF.countP_le _ (Confined.filter_eq hsame fun r hr => ?_) hle
    rw [← Bool.not_eq_true]
    exact fun hr' => hcompat.not_writeLocked (hlock r hr) (htheirs r hr')
  | morningLateOccurrences =>
    obtain ⟨inside, F, hF, heq, hlock⟩ := hf.arrivals
    obtain ⟨theirs, htheirs, hsame⟩ := hcommit.arrivals
    simp only [WarningOffice.metric_lateness, heq] at hle ⊢
    refine hF.countP_le _ (Confined.filter_eq hsame fun a ha => ?_) hle
    rw [← Bool.not_eq_true]
    exact fun ha' => hcompat.not_writeLocked (hlock a ha) (htheirs a ha')

/-- Since `f`, the transaction has voided the warnings `gone`. -/
structure VoidedSince (f f' : WarningOffice → WarningOffice) (gone : ℕ → Prop) : Prop where
  school : ∀ s, (f' s).school = (f s).school
  arrivals : ∀ s, (f' s).arrivals = (f s).arrivals
  rules : ∀ s, (f' s).rules = (f s).rules
  warnings : ∀ (s : WarningOffice) (i : ℕ) (w : StudentWarning), (f' s).warnings[i]? = some w →
    w.status = .issued → (f s).warnings[i]? = some w ∧ ¬ gone i

theorem VoidedSince.start (f : WarningOffice → WarningOffice) :
    VoidedSince f f fun _ => False where
  school := fun _ => rfl
  arrivals := fun _ => rfl
  rules := fun _ => rfl
  warnings := fun _ _ _ hw _ => ⟨hw, fun h => h⟩

theorem VoidedSince.markVoided {f' : WarningOffice → WarningOffice} {gone : ℕ → Prop}
    (h : VoidedSince f f' gone) (k : ℕ) (membership : Option ℕ) (now : Instant)
    (reason : String) :
    VoidedSince f (fun s => (f' s).markVoided k membership now reason)
      fun i => gone i ∨ i = k where
  school := h.school
  arrivals := h.arrivals
  rules := h.rules
  warnings := by
    intro s i w hw hissued
    simp only [WarningOffice.markVoided, List.getElem?_modify, Option.map_eq_map,
      Option.map_eq_some_iff] at hw
    obtain ⟨x, hx, heq⟩ := hw
    by_cases hi : k = i
    · rw [if_pos hi] at heq
      rw [← heq] at hissued
      cases hissued
    · rw [if_neg hi] at heq
      subst heq
      obtain ⟨hbefore, hnot⟩ := h.warnings s i x hx hissued
      exact ⟨hbefore, fun hgone => hgone.elim hnot fun heq => hi heq.symm⟩

theorem VoidedSince.voidDocuments {f' : WarningOffice → WarningOffice} {gone : ℕ → Prop}
    (h : VoidedSince f f' gone) (membership : Option ℕ) (now : Instant) (reason : String)
    (ids : List ℕ) :
    VoidedSince f
      (fun s => ids.foldl (fun t d => t.voidDocument d membership now reason) (f' s)) gone := by
  induction ids generalizing f' with
  | nil => exact h
  | cons d ids ih =>
    have hone : VoidedSince f (fun s => (f' s).voidDocument d membership now reason) gone :=
      ⟨h.school, h.arrivals, h.rules, h.warnings⟩
    exact ih hone

/-- **What a change commits**: the issued warnings whose metric it may have lowered are locked, and
voided unless they are still supported. -/
theorem Recorded.commit (hf : Recorded warningType students held f)
    {f' : WarningOffice → WarningOffice} {gone : ℕ → Prop} (hvoid : VoidedSince f f' gone)
    {s : WarningOffice}
    (hfound : ∀ (i : ℕ) (w : StudentWarning), s.warnings[i]? = some w → w.status = .issued →
      w.warningType = warningType → w.student ∈ students → WriteLocked held (.warning i) ∧
        (gone i ∨ ∀ year, s.year? w.academicYear = some year →
          w.thresholdAtIssue ≤ (f s).metric year warningType w.student)) :
    MetricChange held s (f' s) where
  registry := by rw [hvoid.school, hf.registry]
  rules := by rw [hvoid.rules, hf.rules]
  summaries := by
    obtain ⟨inside, F, hF, heq, hlock⟩ := hf.summaries
    refine ⟨inside, hlock, ?_⟩
    rw [hvoid.school, heq]
    exact hF.outside _
  arrivals := by
    obtain ⟨inside, F, hF, heq, hlock⟩ := hf.arrivals
    refine ⟨inside, hlock, ?_⟩
    rw [hvoid.arrivals, heq]
    exact hF.outside _
  warnings := by
    intro i w hw hissued
    have hbefore := (hvoid.warnings s i w hw hissued).1
    rw [hf.warnings] at hbefore
    exact .inl hbefore
  metric := by
    intro i w hw hissued
    by_cases hmine : w.warningType = warningType ∧ w.student ∈ students
    · exact .inl (hfound i w hw hissued hmine.1 hmine.2).1
    · refine .inr fun year => ?_
      rw [WarningOffice.metric_congr (hvoid.school s) (hvoid.arrivals s)]
      exact hf.others s year w.warningType w.student hmine
  supported := by
    intro hs i w year hw hissued hyear
    obtain ⟨hbefore, hnot⟩ := hvoid.warnings s i w hw hissued
    rw [hf.warnings] at hbefore
    have hyear' : s.year? w.academicYear = some year := by
      rw [← hyear]
      unfold WarningOffice.year?
      rw [hvoid.school, hf.registry]
    rw [WarningOffice.metric_congr (hvoid.school s) (hvoid.arrivals s)]
    by_cases hmine : w.warningType = warningType ∧ w.student ∈ students
    · obtain ⟨-, hgone | hle⟩ := hfound i w hbefore hissued hmine.1 hmine.2
      · exact absurd hgone hnot
      · rw [hmine.1]
        exact hle year hyear'
    · exact Nat.le_trans (hs.supported i w year hbefore hissued hyear')
        (hf.others s year w.warningType w.student hmine)

theorem Recorded.commit_nil (hf : Recorded warningType [] held f) (s : WarningOffice) :
    MetricChange held s (f s) :=
  hf.commit (VoidedSince.start f) fun _ _ _ _ _ hstudent => absurd hstudent List.not_mem_nil

end Recorded

variable {rely : Change WarningOffice WarningRow} {warningType : WarningRuleType}
  {students : List ℕ} {held : List (WarningRow × LockMode)}
  {f : WarningOffice → WarningOffice} {J : WarningOffice → Prop}

def NoneIssued (warningType : WarningRuleType) (students : List ℕ) (s s' : WarningOffice) : Prop :=
  ∀ (i : ℕ) (w : StudentWarning), s.warnings[i]? = none → s'.warnings[i]? = some w →
    w.status = .issued → ¬ (w.warningType = warningType ∧ w.student ∈ students)

/-- What is known in a transaction that changes the metric of the students, as long as it holds its
locks: the others keep it, and issue no warning to the students. -/
structure Undisturbed (rely : Change WarningOffice WarningRow) (warningType : WarningRuleType)
    (students : List ℕ) (held : List (WarningRow × LockMode)) (J : WarningOffice → Prop) :
    Prop where
  kept : rely.Keeps held J
  commits : ∀ L s s', Compatible held L → rely L s s' → J s →
    MetricChange L s s' ∧ NoneIssued warningType students s s'

theorem Undisturbed.mono (h : Undisturbed rely warningType students held J)
    {held' : List (WarningRow × LockMode)} (hsub : held ⊆ held') :
    Undisturbed rely warningType students held' J where
  kept := h.kept.mono hsub
  commits := fun L s s' hcompat => h.commits L s s' (hcompat.mono hsub)

theorem Undisturbed.before (h : Undisturbed rely warningType students held J)
    {L : List (WarningRow × LockMode)} {s s' : WarningOffice} (hcompat : Compatible held L)
    (hR : rely L s s') (hs : J s) {i : ℕ} {w : StudentWarning} (hw : s'.warnings[i]? = some w)
    (hissued : w.status = .issued) (htype : w.warningType = warningType)
    (hstudent : w.student ∈ students) : s.warnings[i]? = some w := by
  obtain ⟨hcommit, hnone⟩ := h.commits L s s' hcompat hR hs
  rcases hcommit.warnings i w hw hissued with hbefore | hnew
  · exact hbefore
  · exact absurd ⟨htype, hstudent⟩ (hnone i w hnew hw hissued)

def countedFor (values : Dict ℕ (ℕ → ℕ)) (w : StudentWarning) : ℕ :=
  ((values.get? w.academicYear).getD fun _ => 0) w.student

/-- The issued warnings of the students are among those found, and what has been counted for them
is a lower bound of the metric. -/
def Covered (warningType : WarningRuleType) (students : List ℕ)
    (f : WarningOffice → WarningOffice) (found : List (ℕ × StudentWarning))
    (values : Dict ℕ (ℕ → ℕ)) (s : WarningOffice) : Prop :=
  ∀ (i : ℕ) (w : StudentWarning), s.warnings[i]? = some w → w.status = .issued →
    w.warningType = warningType → w.student ∈ students → (i, w) ∈ found ∧
      ∀ year, s.year? w.academicYear = some year →
        countedFor values w ≤ (f s).metric year warningType w.student

theorem Undisturbed.covered (h : Undisturbed rely warningType students held J)
    (hf : Recorded warningType students held f) {found : List (ℕ × StudentWarning)}
    (hlock : ∀ p ∈ found, WriteLocked held (.warning p.1)) (values : Dict ℕ (ℕ → ℕ)) :
    rely.Keeps held fun s => J s ∧ Covered warningType students f found values s := by
  intro L s s' hcompat hR hs
  obtain ⟨hJ, hcovered⟩ := hs
  refine ⟨h.kept L s s' hcompat hR hJ, ?_⟩
  have hcommit := (h.commits L s s' hcompat hR hJ).1
  intro i w hw hissued htype hstudent
  have hbefore := h.before hcompat hR hJ hw hissued htype hstudent
  obtain ⟨hmem, hcounted⟩ := hcovered i w hbefore hissued htype hstudent
  refine ⟨hmem, fun year hyear => ?_⟩
  rw [hcommit.year_eq] at hyear
  have hmetric : s.metric year warningType w.student ≤ s'.metric year warningType w.student := by
    rcases hcommit.metric i w hbefore hissued with htheirs | hle
    · exact absurd htheirs (hcompat.not_writeLocked (hlock (i, w) hmem))
    · rw [← htype]
      exact hle year
  exact Nat.le_trans (hcounted year hyear)
    (hf.metric_le hcompat hcommit year warningType w.student hmetric)

section Statements

variable {α : Type} {Q : α → WarningOffice → Prop}

theorem metricsByYear_covered (h : Undisturbed rely warningType students held J)
    (hf : Recorded warningType students held f) {found : List (ℕ × StudentWarning)}
    (hlock : ∀ p ∈ found, WriteLocked held (.warning p.1)) (years : List ℕ)
    (acc : Dict ℕ (ℕ → ℕ)) {k : Dict ℕ (ℕ → ℕ) → WarningTransaction α}
    (hk : ∀ values, (k values).Asserts rely MetricChange Q
      (fun s => J s ∧ Covered warningType students f found values s) held f) :
    ((metricsByYear warningType years acc).bind k).Asserts rely MetricChange Q
      (fun s => J s ∧ Covered warningType students f found acc s) held f := by
  induction years generalizing acc with
  | nil => exact hk acc
  | cons yearId years ih =>
    have hkept := h.covered hf hlock acc
    unfold metricsByYear
    simp only [Tx.bind_eq, Tx.bind_assoc]
    refine Tx.Asserts.select
      (fun year s => (J s ∧ Covered warningType students f found acc s) ∧ s.year? yearId = year)
      (fun s hs => ⟨hs, ?_⟩) (fun year => ?_) fun year => ?_
    · unfold WarningOffice.year?
      rw [hf.registry]
    · intro L s s' hcompat hR hs
      refine ⟨hkept L s s' hcompat hR hs.1, ?_⟩
      rw [((h.commits L s s' hcompat hR hs.1.1).1).year_eq]
      exact hs.2
    · cases year with
      | none => trivial
      | some year =>
        simp only [Tx.bind_assoc]
        refine Tx.Asserts.select (fun v s => J s ∧
          Covered warningType students f found (acc ++ [(yearId, v)]) s) (fun s hs => ?_)
          (fun v => h.covered hf hlock _) fun v => ih _
        refine ⟨hs.1.1, fun i w hw hissued htype hstudent => ?_⟩
        obtain ⟨hmem, hcounted⟩ := hs.1.2 i w hw hissued htype hstudent
        refine ⟨hmem, fun y hy => ?_⟩
        have hbefore := hcounted y hy
        unfold countedFor at hbefore ⊢
        rw [Dict.get?_append_singleton]
        cases hold : acc.get? w.academicYear with
        | some v =>
          rw [hold] at hbefore
          exact hbefore
        | none =>
          by_cases hid : yearId = w.academicYear
          · have hyear : y = year := by
              rw [← hid, hs.2] at hy
              exact (Option.some.inj hy).symm
            simp [hid, hyear]
          · simp [hid]

theorem voidLockedWarning_since {J' : WarningOffice → Prop} (hJ : rely.Keeps held J')
    {f' : WarningOffice → WarningOffice} {gone : ℕ → Prop} (hvoid : VoidedSince f f' gone)
    (id : ℕ) (membership : Option ℕ) (now : Instant) (reason : String)
    {k : Unit → WarningTransaction α}
    (hk : ∀ held' f'', held ⊆ held' → VoidedSince f f'' (fun i => gone i ∨ i = id) →
      (k ()).Asserts rely MetricChange Q J' held' f'') :
    ((voidLockedWarning id membership now reason).bind k).Asserts rely MetricChange Q J' held
      f' := by
  have hmarked := hvoid.markVoided id membership now reason
  unfold voidLockedWarning
  simp only [Tx.bind_eq, Tx.bind_assoc]
  apply Tx.Asserts.update
  refine Tx.Asserts.lockFound (fun _ => J') (fun s hs => hs) (fun _ => hJ) fun rows => ?_
  have hsub : held ⊆ rows.map (fun r => (r, LockMode.update)) ++ held :=
    List.subset_append_right _ _
  refine Tx.Asserts.select_any (hJ.mono hsub) fun documents => ?_
  exact Tx.Asserts.updates documents
    (hk _ _ hsub (hmarked.voidDocuments membership now reason documents))

theorem voidUnsupported_since {J' : WarningOffice → Prop} (membership : Option ℕ) (now : Instant)
    (values : Dict ℕ (ℕ → ℕ)) (found : List (ℕ × StudentWarning))
    {f' : WarningOffice → WarningOffice} {gone : ℕ → Prop} (hJ : rely.Keeps held J')
    (hvoid : VoidedSince f f' gone)
    (hend : ∀ held' f'' gone', held ⊆ held' → VoidedSince f f'' gone' → (∀ i, gone i → gone' i) →
      (∀ p ∈ found, gone' p.1 ∨ p.2.thresholdAtIssue ≤ countedFor values p.2) →
        ∀ s, J' s → MetricChange held' s (f'' s)) :
    (voidUnsupported warningType membership now values found).Asserts rely MetricChange
      (fun _ _ => True) J' held f' := by
  induction found generalizing held f' gone with
  | nil =>
    intro s hs
    refine ⟨hend held f' gone (List.Subset.refl held) hvoid (fun _ h => h) ?_ s hs, trivial⟩
    exact fun p hp => absurd hp List.not_mem_nil
  | cons p found ih =>
    obtain ⟨i, w⟩ := p
    unfold voidUnsupported
    dsimp only
    by_cases hle : w.thresholdAtIssue ≤ countedFor values w
    · rw [if_pos (by exact hle)]
      refine ih hJ hvoid fun held' f'' gone' hsub hvoid' hmore hfound => ?_
      refine hend held' f'' gone' hsub hvoid' hmore fun p hp => ?_
      rcases List.mem_cons.mp hp with rfl | hp
      · exact .inr hle
      · exact hfound p hp
    · rw [if_neg (by exact hle)]
      refine voidLockedWarning_since hJ hvoid i membership now _ fun held' f'' hsub hvoid' => ?_
      refine ih (hJ.mono hsub) hvoid' fun held'' f₃ gone' hsub' hvoid₃ hmore hfound => ?_
      refine hend held'' f₃ gone' (List.Subset.trans hsub hsub') hvoid₃
        (fun j hj => hmore j (.inl hj)) fun p hp => ?_
      rcases List.mem_cons.mp hp with rfl | hp
      · exact .inl (hmore i (.inr rfl))
      · exact hfound p hp

theorem WarningOffice.mem_issuedWarnings {s : WarningOffice} {i : ℕ} {w : StudentWarning}
    (hw : s.warnings[i]? = some w) (hissued : w.status = .issued)
    (htype : w.warningType = warningType) (hstudent : w.student ∈ students) :
    i ∈ s.issuedWarnings students warningType := by
  simp only [issuedWarnings, List.mem_filter, List.mem_range, hw, Option.any_some,
    decide_eq_true_eq]
  exact ⟨(List.getElem?_eq_some_iff.mp hw).1, hstudent, htype, hissued⟩

/-- **A change that reconciles the warnings of its students keeps the warnings founded.** -/
theorem reconcileIssuedWarnings_supports
    (h : students ≠ [] → Undisturbed rely warningType students held J)
    (hf : Recorded warningType students held f) (membership : Option ℕ) (now : Instant) :
    (reconcileIssuedWarnings students warningType membership now).Asserts rely MetricChange
      (fun _ _ => True) J held f := by
  unfold reconcileIssuedWarnings
  by_cases hnil : students = []
  · rw [if_pos hnil]
    subst hnil
    exact fun s _ => ⟨hf.commit_nil s, trivial⟩
  rw [if_neg hnil]
  have hcalm := h hnil
  -- The issued warnings are found: no other is issued before they are locked.
  refine Tx.Asserts.lockFound (fun rows s => J s ∧ ∀ (i : ℕ) (w : StudentWarning),
    s.warnings[i]? = some w → w.status = .issued → w.warningType = warningType →
      w.student ∈ students → WarningRow.warning i ∈ rows) (fun s hs => ⟨hs, ?_⟩)
      (fun rows => ?_) fun rows => ?_
  · intro i w hw hissued htype hstudent
    rw [← hf.warnings] at hw
    exact List.mem_map_of_mem (WarningOffice.mem_issuedWarnings hw hissued htype hstudent)
  · intro L s s' hcompat hR hs
    refine ⟨hcalm.kept L s s' hcompat hR hs.1, fun i w hw hissued htype hstudent => ?_⟩
    exact hs.2 i w (hcalm.before hcompat hR hs.1 hw hissued htype hstudent) hissued htype hstudent
  have hsub : held ⊆ rows.map (fun r => (r, LockMode.update)) ++ held :=
    List.subset_append_right _ _
  have hcalm' := hcalm.mono hsub
  -- They are locked and read: now nobody else lowers their metric.
  have hlocked : ∀ found : List (ℕ × StudentWarning), (∀ p ∈ found, WarningRow.warning p.1 ∈ rows) →
      ∀ p ∈ found, WriteLocked (rows.map (fun r => (r, LockMode.update)) ++ held)
        (.warning p.1) := fun found hfound p hp =>
    .of_update (List.mem_append_left _ (List.mem_map_of_mem (hfound p hp)))
  have hf' : Recorded warningType students
      (rows.map (fun r => (r, LockMode.update)) ++ held) f := hf.mono hsub
  refine Tx.Asserts.select (fun found s => (J s ∧ Covered warningType students f found [] s) ∧
    ∀ p ∈ found, WarningRow.warning p.1 ∈ rows) (fun s hs => ⟨⟨hs.1, ?_⟩, ?_⟩) (fun found => ?_)
    fun found => Tx.Asserts.of_and fun hfound => ?_
  · intro i w hw hissued htype hstudent
    refine ⟨List.mem_filterMap.mpr ⟨i, ?_, ?_⟩, fun year _ => Nat.zero_le _⟩
    · rw [← hf.warnings] at hw
      exact WarningOffice.mem_issuedWarnings hw hissued htype hstudent
    · rw [if_pos (hs.2 i w hw hissued htype hstudent), hf.warnings, hw, Option.map_some]
  · intro p hp
    obtain ⟨i, -, hi⟩ := List.mem_filterMap.mp hp
    split_ifs at hi with hrow
    obtain ⟨w, -, rfl⟩ := Option.map_eq_some_iff.mp hi
    exact hrow
  · by_cases hfound : ∀ p ∈ found, WarningRow.warning p.1 ∈ rows
    · exact (hcalm'.covered hf' (hlocked found hfound) []).and (Change.keeps_const _ _ _)
    · exact fun L s s' _ _ hs => absurd hs.2 hfound
  · refine metricsByYear_covered hcalm' hf' (hlocked found hfound) _ _ fun values => ?_
    refine voidUnsupported_since membership now values found
      (hcalm'.covered hf' (hlocked found hfound) values) (VoidedSince.start f)
      fun held' f'' gone' hsub' hvoid _ hdone s hs => ?_
    refine (hf'.mono hsub').commit hvoid fun i w hw hissued htype hstudent => ?_
    obtain ⟨hmem, hcounted⟩ := hs.2 i w hw hissued htype hstudent
    refine ⟨(hlocked found hfound (i, w) hmem).mono hsub', ?_⟩
    exact (hdone (i, w) hmem).imp_right fun hle year hyear =>
      Nat.le_trans hle (hcounted year hyear)

end Statements

end SchoolPlatform
