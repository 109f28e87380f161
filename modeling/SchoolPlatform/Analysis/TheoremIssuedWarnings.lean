import SchoolPlatform.Analysis.ReconciledWarnings
import SchoolPlatform.Analysis.TheoremWarningNumbers

/-!
# Issued warnings and their metric

A reconciliation looks at the warnings that have been committed, an issuance at a metric that it has
read before. Runs in which they do not overlap on the same student keep every issued warning
supported by its metric (`calm_issuedWarnings`). When they do overlap, a warning can be issued on
absences that have been corrected (`correction_duringIssue`).
-/

/-! ## The calls that change the facts under warnings -/

namespace SchoolPlatform

open ReadCommitted

/-- The call reconciles the warnings of a type for a student; a batch of arrivals does so for the
arrivals that it makes earlier. -/
def WarningCall.reconciles (s : WarningOffice) : WarningCall → WarningRuleType → ℕ → Bool
  | .recalculate _ c _, warningType, student =>
    warningType = .unexcusedFullDayAbsence ∧ student ∈ c.students
  | .applyArrivalEventsBulk rows _, warningType, student =>
    warningType = .morningLateOccurrences ∧ ∃ a ∈ rows, a.student = student ∧
      ∃ x ∈ s.arrivals, x.sameDay a ∧ a.firstArrivalAt < x.firstArrivalAt
  | .applyArrivalEvent a _, warningType, student =>
    warningType = .morningLateOccurrences ∧ a.student = student ∧
      ∃ x ∈ s.arrivals, x.sameDay a ∧ a.firstArrivalAt < x.firstArrivalAt
  | .correctArrival _ a _, warningType, student =>
    warningType = .morningLateOccurrences ∧ a.student = student
  | .issue _ _, _, _ => false
  | .voidWarning _ _ _ _, _, _ => false
  | .createManualArrival _, _, _ => false

/-- A commit takes no metric of the request from its threshold or more to less. -/
def StaysDue (r : IssueRequest) (s s' : WarningOffice) : Prop :=
  ∀ warningType ∈ r.warningType, ∀ level ∈ r.level, ∀ year ∈ s.school.activeYear,
    s.threshold warningType level ≤ s.metric year warningType r.student →
      s.threshold warningType level ≤ s'.metric year warningType r.student

/-- A commit leaves a call that is under way as the call needs it. -/
def MetricCalm (call : Option WarningCall) (s s' : WarningOffice) : Prop :=
  ∀ c ∈ call, (∀ r ∈ c.request, StaysDue r s s') ∧
    ∀ w ∈ s'.warnings.drop s.warnings.length, w.status = .issued →
      c.reconciles s w.warningType w.student = false

instance StaysDue.decidable (r : IssueRequest) (s s' : WarningOffice) :
    Decidable (StaysDue r s s') :=
  inferInstanceAs (Decidable (∀ warningType ∈ r.warningType, _))

instance MetricCalm.decidable (call : Option WarningCall) (s s' : WarningOffice) :
    Decidable (MetricCalm call s s') :=
  inferInstanceAs (Decidable (∀ c ∈ call, _))

abbrev metricOthers (calls : List WarningCall) (i : ℕ) : Change WarningOffice WarningRow :=
  others (fun _ => MetricChange) WarningOffice.Founded (fun j => MetricCalm calls[j]?) i

section Calls

variable {calls : List WarningCall} {i : ℕ} {held : List (WarningRow × LockMode)}

theorem founded_kept (held : List (WarningRow × LockMode)) :
    (metricOthers calls i).Keeps held WarningOffice.Founded :=
  others_keeps (fun _ _ _ _ h hs => h.founded hs) i held

theorem MetricCalm.noneIssued {call : WarningCall} {s s' : WarningOffice}
    (h : MetricCalm (some call) s s') {warningType : WarningRuleType} {students : List ℕ}
    (hmine : ∀ x ∈ students, call.reconciles s warningType x = true) :
    NoneIssued warningType students s s' := by
  intro k w hold hw hissued hstudent
  have hdrop : w ∈ s'.warnings.drop s.warnings.length := by
    have hk : s.warnings.length ≤ k := List.getElem?_eq_none_iff.mp hold
    apply List.mem_of_getElem? (i := k - s.warnings.length)
    rw [List.getElem?_drop, Nat.add_sub_cancel' hk]
    exact hw
  have hnot := (h call rfl).2 w hdrop hissued
  rw [hstudent.1, hmine _ hstudent.2] at hnot
  cases hnot

theorem undisturbed_of_reconciles {call : WarningCall} (hcall : calls[i]? = some call)
    {warningType : WarningRuleType} {students : List ℕ} {J : WarningOffice → Prop}
    (hkept : (metricOthers calls i).Keeps held J)
    (hmine : ∀ s, J s → ∀ x ∈ students, call.reconciles s warningType x = true) :
    Undisturbed (metricOthers calls i) warningType students held J := by
  refine ⟨hkept, fun L s s' hcompat hR hs => ?_⟩
  obtain ⟨-, hcalm, j, -, hcommit⟩ := hR
  rw [hcall] at hcalm
  exact ⟨hcommit, hcalm.noneIssued (hmine s hs)⟩

def rowsOf (d : Date) (students : List ℕ) (r : DailyAttendanceSummary) : Bool :=
  decide (r.attendanceDate = d ∧ r.student ∈ students)

theorem confined_put {d : Date} {students some_ : List ℕ} (hsub : ∀ x ∈ some_, x ∈ students)
    (row : ℕ → DailyAttendanceSummary)
    (hrow : ∀ x, (row x).student = x ∧ (row x).attendanceDate = d) :
    Confined (rowsOf d students) fun l => l.map fun r =>
      if r.attendanceDate = d ∧ r.student ∈ some_ then row r.student else r := by
  apply Confined.map
  · intro r
    split_ifs with hr
    · simp [rowsOf, hrow, hr.1]
    · rfl
  · intro r hr
    refine if_neg fun hmine => ?_
    rw [rowsOf, decide_eq_false_iff_not] at hr
    exact hr ⟨hmine.1, hsub _ hmine.2⟩

theorem confined_add {d : Date} {students some_ : List ℕ} (hsub : ∀ x ∈ some_, x ∈ students)
    (row : ℕ → DailyAttendanceSummary)
    (hrow : ∀ x, (row x).student = x ∧ (row x).attendanceDate = d) :
    Confined (rowsOf d students) fun l => l ++ some_.map row := by
  apply Confined.append
  intro r hr
  obtain ⟨x, hx, rfl⟩ := List.mem_map.mp hr
  simp [rowsOf, hrow, hsub x hx]

section Recalculation

variable {rely : Change WarningOffice WarningRow} {α : Type} {Q : α → WarningOffice → Prop}
  {J : WarningOffice → Prop} {view : WarningOffice → WarningOffice}

theorem lockSummaries_asserts (hJ : ∀ held, rely.Keeps held J) (d : Date)
    (find : School → List DailyAttendanceSummary) (P : DailyAttendanceSummary → Prop)
    (hfind : ∀ s, ∀ r ∈ find s, P r) {k : List DailyAttendanceSummary → WarningTransaction α}
    (hk : ∀ held' found, held ⊆ held' →
      (∀ r ∈ found, P r ∧ WriteLocked held' (.attendance (.summaryKey r.student d))) →
        (k found).Asserts rely MetricChange Q J held' view) :
    (((lockSummaries d find).zoom attendancePart).bind k).Asserts rely MetricChange Q J held
      view := by
  refine ⟨fun _ => J, fun s hs => hs, fun _ => hJ held, fun rows => ?_⟩
  refine ⟨fun found s => J s ∧ ∀ r ∈ found, P r ∧ Row.summaryKey r.student d ∈ rows,
    fun s hs => ⟨hs, fun r hr => ?_⟩, fun found => (hJ _).and (rely.keeps_const _ _),
    fun found => Tx.Asserts.of_and fun hfound => ?_⟩
  · obtain ⟨hmem, hrow⟩ := List.mem_filter.mp hr
    exact ⟨hfind _ r hmem, of_decide_eq_true hrow⟩
  · refine hk _ found (List.subset_append_right _ held) fun r hr => ⟨(hfound r hr).1, ?_⟩
    refine .of_update (List.mem_append_left held ?_)
    exact List.mem_map.mpr ⟨(.summaryKey r.student d, .update),
      List.mem_map_of_mem (hfound r hr).2, rfl⟩

theorem writeSummaries_recorded (hJ : rely.Keeps [] J) (now : Instant) (c : SectionCounters)
    {k : ℕ → WarningTransaction α}
    (hk : ∀ n held f, Recorded .unexcusedFullDayAbsence c.students held f →
      (k n).Asserts rely MetricChange Q J held f) :
    (((writeSummaries now c).zoom attendancePart).bind k).Asserts rely MetricChange Q J []
      fun s => s := by
  have hheld : ∀ held, rely.Keeps held J := fun held => hJ.mono (List.nil_subset held)
  have hrow : ∀ x, (c.row now x).student = x ∧ (c.row now x).attendanceDate = c.attendanceDate :=
    fun x => ⟨rfl, rfl⟩
  unfold writeSummaries
  simp only [Tx.bind_eq, Tx.zoom_bind, Tx.bind_assoc]
  -- The rows that are there are locked and overwritten.
  refine lockSummaries_asserts hheld _ _ (fun _ => True) (fun _ _ _ => trivial)
    fun held existing _ hexisting => ?_
  have hupdate : ∀ x ∈ c.students.filter fun x => x ∈ existing.map fun r => r.student,
      x ∈ c.students := fun x hx => List.mem_of_mem_filter hx
  have hcreate : ∀ x ∈ c.students.filter fun x => x ∉ existing.map fun r => r.student,
      x ∈ c.students := fun x hx => List.mem_of_mem_filter hx
  have hput := confined_put hupdate (c.row now) hrow
  -- Every student has a row that is there, or one that is inserted.
  have hlocks : ∀ held', held ⊆ held' →
      (∀ x ∈ c.students.filter fun x => x ∉ existing.map fun r => r.student,
        WriteLocked held' (.attendance (.summaryKey x c.attendanceDate))) →
      ∀ r, rowsOf c.attendanceDate c.students r = true → WriteLocked held' r.row := by
    intro held' hsub hnew r hr
    obtain ⟨hdate, hmem⟩ := of_decide_eq_true hr
    unfold DailyAttendanceSummary.row
    rw [hdate]
    by_cases hthere : r.student ∈ existing.map fun r => r.student
    · obtain ⟨x, hx, heq⟩ := List.mem_map.mp hthere
      rw [← heq]
      exact ((hexisting x hx).2).mono hsub
    · exact hnew _ (List.mem_filter.mpr ⟨hmem, decide_eq_true hthere⟩)
  have hstudents : ∀ r, rowsOf c.attendanceDate c.students r = true → r.student ∈ c.students :=
    fun r hr => (of_decide_eq_true hr).2
  unfold createSummaries
  by_cases hnil : (c.students.filter fun x => x ∉ existing.map fun r => r.student) = []
  · rw [if_pos hnil]
    simp only [checkReferences, Tx.pure_eq, Tx.zoom_update, Tx.zoom_ret, Tx.zoom_lockRows,
      Tx.ret_bind]
    apply Tx.Asserts.update
    apply Tx.Asserts.lockRows
    refine hk _ _ _ (Recorded.ofSummaries hput (hlocks _ (List.subset_append_right _ _) ?_)
      hstudents)
    rw [hnil]
    exact fun x hx => absurd hx List.not_mem_nil
  · rw [if_neg hnil]
    simp only [insertSummaries, checkReferences, Tx.pure_eq, Tx.bind_eq, Tx.zoom_bind,
      Tx.bind_assoc, Tx.zoom_update, Tx.zoom_ret, Tx.zoom_lockRows]
    apply Tx.Asserts.update
    apply Tx.Asserts.lockRows
    refine Tx.Asserts.select_any (hheld _) fun taken => ?_
    apply Tx.Asserts.update
    refine lockSummaries_asserts hheld _ _ (fun r => r.student ∈ c.students) (fun s r hr => ?_)
      fun held' raced hsub hraced => ?_
    · have hmem := of_decide_eq_true (List.mem_filter.mp (List.mem_of_mem_filter hr)).2
      exact hcreate _ hmem.2
    · apply Tx.Asserts.update
      apply Tx.Asserts.lockRows
      refine hk _ _ _ (Recorded.ofSummaries (((confined_put (fun x hx => ?_) (c.row now) hrow).comp
        (confined_add (fun x hx => ?_) (c.row now) hrow)).comp hput) ?_ hstudents)
      · obtain ⟨r, hr, rfl⟩ := List.mem_map.mp hx
        exact (hraced r hr).1
      · exact hcreate x (List.mem_of_mem_filter hx)
      · refine hlocks _ (List.Subset.trans (List.Subset.trans (List.subset_append_right _ _) hsub)
          (List.subset_append_right _ _)) fun x hx => ?_
        refine WriteLocked.mono (.of_update (List.mem_append_left held ?_))
          (List.Subset.trans hsub (List.subset_append_right _ _))
        exact List.mem_map_of_mem (List.mem_map_of_mem (List.mem_map_of_mem hx))

end Recalculation

theorem recalculate_supports (now : Instant) (c : SectionCounters) (membership : Option ℕ)
    (hcall : calls[i]? = some (.recalculate now c membership)) :
    (recalculate now c membership).Asserts (metricOthers calls i) MetricChange (fun _ _ => True)
      WarningOffice.Founded [] fun s => s := by
  refine writeSummaries_recorded (founded_kept []) now c fun n held f hf => ?_
  refine reconcileIssuedWarnings_supports (fun _ => ?_) hf membership now
  refine undisturbed_of_reconciles hcall (founded_kept held) fun s _ x hx => ?_
  simp [WarningCall.reconciles, hx]

theorem SchoolArrival.sameDay_iff {a b : SchoolArrival} :
    a.sameDay b = true ↔ a.student = b.student ∧ a.attendanceDate = b.attendanceDate := by
  simp [sameDay]

theorem SchoolArrival.row_eq {a b : SchoolArrival} (h : a.sameDay b = true) : a.row = b.row := by
  obtain ⟨hstudent, hdate⟩ := sameDay_iff.mp h
  unfold SchoolArrival.row
  rw [hstudent, hdate]

def daysOf (rows : List SchoolArrival) (x : SchoolArrival) : Bool := rows.any fun a => x.sameDay a

def overwriteArrivals (corrected l : List SchoolArrival) : List SchoolArrival :=
  corrected.foldl (fun l a => l.map fun x => if x.sameDay a then a else x) l

theorem putArrivals_eq (corrected : List SchoolArrival) (s : WarningOffice) :
    corrected.foldl (fun t a => t.putArrival a) s =
      { s with arrivals := overwriteArrivals corrected s.arrivals } := by
  induction corrected generalizing s with
  | nil => rfl
  | cons a corrected ih => exact ih _

theorem confined_putArrivals {rows corrected : List SchoolArrival}
    (hsub : ∀ a ∈ corrected, a ∈ rows) :
    Confined (daysOf rows) (overwriteArrivals corrected) := by
  induction corrected with
  | nil => exact Confined.unchanged _
  | cons a corrected ih =>
    have ha := hsub a List.mem_cons_self
    refine (ih fun b hb => hsub b (List.mem_cons_of_mem a hb)).comp (Confined.map ?_ ?_)
    · intro x
      by_cases hx : x.sameDay a = true
      · rw [if_pos hx]
        obtain ⟨hstudent, hdate⟩ := SchoolArrival.sameDay_iff.mp hx
        simp only [daysOf, SchoolArrival.sameDay, hstudent, hdate]
      · rw [if_neg hx]
    · intro x hx
      refine if_neg fun hmine => ?_
      rw [daysOf, List.any_eq_false] at hx
      exact hx a ha hmine

theorem confined_addArrivals {rows added : List SchoolArrival} (hsub : ∀ a ∈ added, a ∈ rows) :
    Confined (daysOf rows) fun l => l ++ added := by
  apply Confined.append
  intro a ha
  exact List.any_eq_true.mpr ⟨a, hsub a ha, SchoolArrival.sameDay_iff.mpr ⟨rfl, rfl⟩⟩

theorem recorded_arrivals {rows corrected added : List SchoolArrival}
    (hcorrected : ∀ a ∈ corrected, a ∈ rows) (hadded : ∀ a ∈ added, a ∈ rows)
    (hlock : ∀ a ∈ rows, WriteLocked held a.row) :
    Recorded .morningLateOccurrences (corrected.map fun a => a.student) held fun s =>
      (corrected.foldl (fun t a => t.putArrival a) s).addArrivals added := by
  have hview : (fun s : WarningOffice =>
      (corrected.foldl (fun t a => t.putArrival a) s).addArrivals added) =
        fun s => { s with arrivals := overwriteArrivals corrected s.arrivals ++ added } := by
    funext s
    rw [putArrivals_eq]
    rfl
  rw [hview]
  refine Recorded.ofArrivals ((confined_addArrivals hadded).comp (confined_putArrivals hcorrected))
    (fun x hx => ?_) fun year x l hx => ?_
  · obtain ⟨a, ha, hsame⟩ := List.any_eq_true.mp hx
    rw [SchoolArrival.row_eq hsame]
    exact hlock a ha
  · rw [List.countP_append]
    refine Nat.le_trans (Nat.le_of_eq ?_) (Nat.le_add_right _ _)
    refine (Confined.countP_eq ((@confined_putArrivals corrected corrected
      fun a ha => ha).outside l) fun y hy => ?_).symm
    rw [daysOf, List.any_eq_false]
    intro a ha hsame
    have hy' := of_decide_eq_true hy
    apply hx
    rw [← hy'.1, (SchoolArrival.sameDay_iff.mp hsame).1]
    exact List.mem_map_of_mem ha

theorem arrivals_kept {existing : List SchoolArrival}
    (hlock : ∀ x ∈ existing, WriteLocked held x.row) :
    (metricOthers calls i).Keeps held fun s => s.Founded ∧ ∀ x ∈ existing, x ∈ s.arrivals := by
  apply others_keeps_of fun _ _ _ _ h hs => h.founded hs
  intro j L s s' _ hcompat hcommit _ _ hthere x hx
  obtain ⟨inside, htheirs, hsame⟩ := hcommit.arrivals
  have hnot : inside x = false := by
    rw [← Bool.not_eq_true]
    exact fun hin => hcompat.not_writeLocked (hlock x hx) (htheirs x hin)
  have hmem : x ∈ s.arrivals.filter fun a => !inside a :=
    List.mem_filter.mpr ⟨hthere x hx, by rw [hnot]; rfl⟩
  rw [← hsame] at hmem
  exact List.mem_of_mem_filter hmem

theorem lockArrivals_asserts {α : Type} {Q : α → WarningOffice → Prop}
    (find : SchoolArrival → Bool) {k : List SchoolArrival → WarningTransaction α}
    (hk : ∀ held' existing, (∀ x ∈ existing, WriteLocked held' x.row ∧
      ∃ y, find y = true ∧ y.row = x.row) →
        (k existing).Asserts (metricOthers calls i) MetricChange Q
          (fun s => s.Founded ∧ ∀ x ∈ existing, x ∈ s.arrivals) held' fun s => s) :
    ((Tx.selectForUpdate (fun s => (s.arrivals.filter find).map SchoolArrival.row)
      fun keys s => s.arrivals.filter fun x => x.row ∈ keys).bind k).Asserts
        (metricOthers calls i) MetricChange Q WarningOffice.Founded [] fun s => s := by
  refine Tx.Asserts.lockFound (fun keys s => s.Founded ∧
    ∀ r ∈ keys, ∃ y : SchoolArrival, find y = true ∧ y.row = r) (fun s hs => ⟨hs, ?_⟩)
    (fun keys => (founded_kept []).and (Change.keeps_const _ _ _))
    fun keys => Tx.Asserts.of_and fun hkeys => ?_
  · intro r hr
    obtain ⟨y, hy, rfl⟩ := List.mem_map.mp hr
    exact ⟨y, (List.mem_filter.mp hy).2, rfl⟩
  have hlocked : ∀ x : SchoolArrival, x.row ∈ keys →
      WriteLocked (keys.map (fun r => (r, LockMode.update)) ++ []) x.row := fun x hx =>
    .of_update (List.mem_append_left _ (List.mem_map_of_mem hx))
  refine Tx.Asserts.select (fun existing s => (s.Founded ∧ ∀ x ∈ existing, x ∈ s.arrivals) ∧
    ∀ x ∈ existing, x.row ∈ keys) (fun s hs => ⟨⟨hs, fun x hx => ?_⟩, fun x hx => ?_⟩)
    (fun existing => ?_) fun existing => Tx.Asserts.of_and fun hexisting => ?_
  · exact List.mem_of_mem_filter hx
  · exact of_decide_eq_true (List.mem_filter.mp hx).2
  · by_cases hexisting : ∀ x ∈ existing, x.row ∈ keys
    · exact (arrivals_kept fun x hx => hlocked x (hexisting x hx)).and (Change.keeps_const _ _ _)
    · exact fun L s s' _ _ hs => absurd hs.2 hexisting
  · exact hk _ existing fun x hx => ⟨hlocked x (hexisting x hx), hkeys _ (hexisting x hx)⟩

theorem applyArrivalEventsBulk_supports (rows : List SchoolArrival) (now : Instant)
    (hcall : calls[i]? = some (.applyArrivalEventsBulk rows now)) :
    (Morning.applyArrivalEventsBulk rows now).Asserts (metricOthers calls i) MetricChange
      (fun _ _ => True) WarningOffice.Founded [] fun s => s := by
  refine lockArrivals_asserts _ fun held existing hexisting => ?_
  have hkept : ∀ held', held ⊆ held' → (metricOthers calls i).Keeps held'
      fun s => s.Founded ∧ ∀ x ∈ existing, x ∈ s.arrivals :=
    fun held' hsub => arrivals_kept fun x hx => (hexisting x hx).1.mono hsub
  simp only [Morning.insertArrivals, Tx.bind_eq, Tx.bind_assoc]
  apply Tx.Asserts.updates
  apply Tx.Asserts.lockRows
  refine Tx.Asserts.select_fact (fun free : List SchoolArrival => ∀ a ∈ free, a ∈ rows)
    (fun s _ a ha => List.mem_of_mem_filter (List.mem_of_mem_filter ha))
    (hkept _ (List.subset_append_right _ _)) fun free hfree => ?_
  apply Tx.Asserts.update
  refine reconcileIssuedWarnings_supports (fun _ => ?_)
    (recorded_arrivals (fun a ha => List.mem_of_mem_filter ha) hfree fun a ha => ?_) none now
  · refine undisturbed_of_reconciles hcall (hkept _ (List.subset_append_right _ _))
      fun s hs student hstudent => ?_
    obtain ⟨a, ha, rfl⟩ := List.mem_map.mp hstudent
    obtain ⟨hmem, hearlier⟩ := List.mem_filter.mp ha
    obtain ⟨x, hx, hsame⟩ := List.any_eq_true.mp hearlier
    rw [Bool.and_eq_true, decide_eq_true_eq] at hsame
    exact decide_eq_true ⟨rfl, a, hmem, rfl, x, hs.2 x hx, hsame.1, hsame.2⟩
  -- Every row is one that is there, or one that is inserted.
  · by_cases hthere : existing.any (fun x => x.sameDay a) = true
    · obtain ⟨x, hx, hsame⟩ := List.any_eq_true.mp hthere
      rw [← SchoolArrival.row_eq hsame]
      exact (hexisting x hx).1.mono (List.subset_append_right _ _)
    · have hnew : a ∈ rows.filter fun a => !existing.any fun x => x.sameDay a := by
        rw [Bool.not_eq_true] at hthere
        exact List.mem_filter.mpr ⟨ha, by rw [hthere]; rfl⟩
      exact .of_update (List.mem_append_left _ (List.mem_map_of_mem (List.mem_map_of_mem hnew)))

theorem addArrivals_supports {J : WarningOffice → Prop} {a : SchoolArrival}
    (hlock : WriteLocked held a.row) :
    (Tx.update fun s : WarningOffice => s.addArrivals [a] : WarningTransaction Unit).Asserts
      (metricOthers calls i) MetricChange (fun _ _ => True) J held fun s => s := by
  intro s _
  refine ⟨Recorded.commit_nil (@recorded_arrivals held [a] [] [a]
    (fun x hx => absurd hx List.not_mem_nil) (fun x hx => hx) fun x hx => ?_) s, trivial⟩
  rw [List.mem_singleton.mp hx]
  exact hlock

theorem putArrival_recorded {a : SchoolArrival} (hlock : WriteLocked held a.row) :
    Recorded .morningLateOccurrences [a.student] held fun s => s.putArrival a := by
  have hrecorded := @recorded_arrivals held [a] [a] [] (fun x hx => hx)
    (fun x hx => absurd hx List.not_mem_nil) fun x hx => by
      rw [List.mem_singleton.mp hx]
      exact hlock
  simpa [WarningOffice.addArrivals] using hrecorded

theorem applyArrivalEvent_supports (a : SchoolArrival) (now : Instant)
    (hcall : calls[i]? = some (.applyArrivalEvent a now)) :
    (Morning.applyArrivalEvent a now).Asserts (metricOthers calls i) MetricChange
      (fun _ _ => True) WarningOffice.Founded [] fun s => s := by
  refine lockArrivals_asserts _ fun held existing hexisting => ?_
  have hkept : ∀ held', held ⊆ held' → (metricOthers calls i).Keeps held'
      fun s => s.Founded ∧ ∀ x ∈ existing, x ∈ s.arrivals :=
    fun held' hsub => arrivals_kept fun x hx => (hexisting x hx).1.mono hsub
  cases existing with
  | nil =>
    dsimp only [List.head?_nil]
    apply Tx.Asserts.lockRows
    refine Tx.Asserts.select_any (hkept _ (List.subset_append_right _ _)) fun taken => ?_
    cases taken with
    | true => trivial
    | false => exact addArrivals_supports (.of_update List.mem_cons_self)
  | cons x existing =>
    dsimp only [List.head?_cons]
    by_cases hearlier : a.firstArrivalAt < x.firstArrivalAt
    · rw [if_pos hearlier]
      apply Tx.Asserts.lockRows
      apply Tx.Asserts.update
      refine reconcileIssuedWarnings_supports (fun _ => ?_)
        (putArrival_recorded ⟨.noKeyUpdate, by decide, List.mem_cons_self⟩) none now
      refine undisturbed_of_reconciles hcall (hkept _ fun _ hr => List.mem_cons_of_mem _ hr)
        fun s hs student hstudent => ?_
      obtain ⟨-, y, hy, hrow⟩ := hexisting x List.mem_cons_self
      have hsame : x.sameDay a = true := by
        obtain ⟨hstudent, hdate⟩ := SchoolArrival.sameDay_iff.mp hy
        unfold SchoolArrival.row at hrow
        rw [WarningRow.arrival.injEq] at hrow
        exact SchoolArrival.sameDay_iff.mpr
          ⟨hrow.1.symm.trans hstudent, hrow.2.symm.trans hdate⟩
      rw [List.mem_singleton.mp hstudent]
      exact decide_eq_true ⟨rfl, rfl, x, hs.2 x List.mem_cons_self, hsame, hearlier⟩
    · rw [if_neg hearlier]
      intro s _
      exact ⟨(Recorded.start .morningLateOccurrences [] held).commit_nil s, trivial⟩

theorem correctArrival_supports (membership : ℕ) (a : SchoolArrival) (now : Instant)
    (hcall : calls[i]? = some (.correctArrival membership a now)) :
    (Morning.correctArrival membership a now).Asserts (metricOthers calls i) MetricChange
      (fun _ _ => True) WarningOffice.Founded := by
  refine Program.Asserts.peek_any (founded_kept []) fun found => ?_
  cases found with
  | false => trivial
  | true =>
    refine ⟨fun _ _ => True, ?_, fun _ => Change.keeps_const _ [] True, fun _ _ _ => trivial⟩
    apply Tx.Asserts.lockRows
    apply Tx.Asserts.update
    refine reconcileIssuedWarnings_supports (fun _ => ?_)
      (putArrival_recorded ⟨.noKeyUpdate, by decide, List.mem_cons_self⟩) (some membership) now
    refine undisturbed_of_reconciles hcall (founded_kept _) fun s _ student hstudent => ?_
    rw [List.mem_singleton.mp hstudent]
    exact decide_eq_true ⟨rfl, rfl⟩

theorem createManualArrival_supports (a : SchoolArrival) :
    (Morning.createManualArrival a).Asserts (metricOthers calls i) MetricChange
      (fun _ _ => True) WarningOffice.Founded := by
  refine Program.Asserts.peek_any (founded_kept []) fun found => ?_
  cases found with
  | true => trivial
  | false =>
    refine ⟨fun _ _ => True, ?_, fun _ => Change.keeps_const _ [] True, fun _ _ _ => trivial⟩
    apply Tx.Asserts.lockRows
    refine Tx.Asserts.select_any (founded_kept _) fun taken => ?_
    cases taken with
    | true => trivial
    | false => exact addArrivals_supports (.of_update List.mem_cons_self)

theorem voidStudentWarning_supports (membership warning : ℕ) (now : Instant) (reason : String) :
    (voidStudentWarning membership warning now reason).Asserts (metricOthers calls i)
      MetricChange (fun _ _ => True) WarningOffice.Founded := by
  refine Program.Asserts.peek_any (founded_kept []) fun found => ?_
  cases found with
  | none => trivial
  | some x =>
    refine ⟨fun _ _ => True, ?_, fun _ => Change.keeps_const _ [] True, fun _ _ _ => trivial⟩
    refine Tx.Asserts.selectForUpdate (fun _ => WarningOffice.Founded) (founded_kept _)
      (fun s hs => hs) (fun _ => founded_kept _) fun locked => ?_
    cases locked with
    | none => trivial
    | some y =>
      dsimp only
      split_ifs
      · trivial
      · rw [← Tx.bind_ret (voidLockedWarning warning (some membership) now reason)]
        refine voidLockedWarning_since (founded_kept _) (VoidedSince.start fun s => s) warning
          (some membership) now reason fun held' f'' _ hvoid s _ => ?_
        refine ⟨(Recorded.start .morningLateOccurrences [] held').commit hvoid ?_, trivial⟩
        exact fun _ _ _ _ _ hstudent => absurd hstudent List.not_mem_nil

theorem MetricChange.issue {s : WarningOffice} {w : StudentWarning} {year : AcademicYear}
    (hyear : s.school.activeYear = some year) (hid : w.academicYear = year.id)
    (hdue : w.thresholdAtIssue ≤ s.metric year w.warningType w.student) :
    MetricChange held s { s with warnings := s.warnings ++ [w] } where
  registry := rfl
  rules := rfl
  summaries := ⟨fun _ => false, fun _ hr => absurd hr Bool.false_ne_true, rfl⟩
  arrivals := ⟨fun _ => false, fun _ ha => absurd ha Bool.false_ne_true, rfl⟩
  warnings := by
    intro k x hx _
    rcases Nat.lt_or_ge k s.warnings.length with hlt | hge
    · rw [List.getElem?_append_left hlt] at hx
      exact .inl hx
    · exact .inr (List.getElem?_eq_none hge)
  metric := fun _ _ _ _ => .inr fun _ => Nat.le_refl _
  supported := by
    intro hs k x y hx hissued hy
    rcases Nat.lt_or_ge k s.warnings.length with hlt | hge
    · rw [List.getElem?_append_left hlt] at hx
      exact hs.supported k x y hx hissued hy
    · rw [List.getElem?_append_right hge] at hx
      have hnew : x = w := by simpa using List.mem_of_getElem? hx
      have hsame : s.year? year.id = some year :=
        (Table.find?_eq_some_iff hs.years year.id year).mpr
          ⟨List.mem_of_find?_eq_some hyear, rfl⟩
      rw [hnew] at hy ⊢
      have hyear' : y = year := by
        rw [hid] at hy
        exact Option.some.inj (hy.symm.trans hsame)
      rw [hyear']
      exact hdue

theorem issueStudentWarning_supports (r : IssueRequest) (now : Instant)
    (hcall : calls[i]? = some (.issue r now)) :
    (issueStudentWarning r now).Asserts (metricOthers calls i) MetricChange
      (fun _ _ => True) WarningOffice.Founded := by
  cases htype : r.warningType with
  | none => exact issueStudentWarning_unknown (founded_kept []) r now (.inl htype)
  | some warningType =>
    cases hlevel : r.level with
    | none => exact issueStudentWarning_unknown (founded_kept []) r now (.inr hlevel)
    | some level =>
      have hstays : ∀ (L : List (WarningRow × LockMode)) (s s' : WarningOffice)
          (year : AcademicYear), MetricChange L s s' → s.school.activeYear = some year →
            s'.school.activeYear = some year ∧
              s'.threshold warningType level = s.threshold warningType level := by
        intro L s s' year hcommit hyear
        unfold School.activeYear WarningOffice.threshold
        rw [hcommit.registry, hcommit.rules]
        exact ⟨hyear, rfl⟩
      refine issueStudentWarning_asserts (founded_kept [])
        (E := fun year threshold s => s.Founded ∧ (s.school.activeYear = some year ∧
          s.threshold warningType level = threshold))
        (A := fun year threshold value s => s.Founded ∧ ((s.school.activeYear = some year ∧
          s.threshold warningType level = threshold) ∧
            (threshold ≤ value → threshold ≤ s.metric year warningType r.student)))
        (P := fun _ _ => True) r now warningType level htype hlevel ?_ ?_ ?_
        (fun s year hs hyear => ⟨hs, hyear, rfl⟩)
        (fun s year threshold hs => ⟨hs.1, hs.2, fun hle => hle⟩)
        (fun _ _ _ _ _ => trivial) ?_
      · intro year threshold
        apply others_keeps_of fun _ _ _ _ h hs => h.founded hs
        intro j L s s' _ _ hcommit _ _ hs
        obtain ⟨hyear, hthreshold⟩ := hstays L s s' year hcommit hs.1
        exact ⟨hyear, hthreshold.trans hs.2⟩
      · intro year threshold value
        apply others_keeps_of fun _ _ _ _ h hs => h.founded hs
        intro j L s s' _ _ hcommit hcalm _ hs
        obtain ⟨hyear, hthreshold⟩ := hstays L s s' year hcommit hs.1.1
        refine ⟨⟨hyear, hthreshold.trans hs.1.2⟩, fun hle => ?_⟩
        rw [hcall] at hcalm
        have hdue := (hcalm _ rfl).1 r rfl warningType htype level hlevel year hs.1.1
        rw [hs.1.2] at hdue
        exact hdue (hs.2 hle)
      · intro year
        apply others_keeps_of fun _ _ _ _ h hs => h.founded hs
        intro j L s s' _ _ hcommit _ _ hyear
        exact (hstays L s s' year hcommit hyear).1
      · intro held s year threshold value w hle hs hw
        apply MetricChange.issue hs.2.1.1 hw.academicYear
        rw [hw.threshold, hw.warningType, hw.student]
        exact hs.2.2 hle

theorem WarningCall.supports (call : WarningCall) (hcall : calls[i]? = some call) :
    call.program.Asserts (metricOthers calls i) MetricChange (fun _ _ => True)
      WarningOffice.Founded := by
  cases call with
  | issue r now => exact issueStudentWarning_supports r now hcall
  | voidWarning membership warning now reason =>
    exact voidStudentWarning_supports membership warning now reason
  | recalculate now c membership =>
    exact ⟨_, recalculate_supports now c membership hcall, fun _ => Change.keeps_const _ [] True,
      fun _ _ _ => trivial⟩
  | applyArrivalEventsBulk rows now =>
    exact ⟨_, applyArrivalEventsBulk_supports rows now hcall,
      fun _ => Change.keeps_const _ [] True, fun _ _ _ => trivial⟩
  | applyArrivalEvent a now =>
    exact ⟨_, applyArrivalEvent_supports a now hcall, fun _ => Change.keeps_const _ [] True,
      fun _ _ _ => trivial⟩
  | correctArrival membership a now => exact correctArrival_supports membership a now hcall
  | createManualArrival a => exact createManualArrival_supports a

end Calls

/-- **Every issued warning is supported in every calm run.** -/
theorem calm_issuedWarnings (s : WarningOffice) (hs : s.Founded) (calls : List WarningCall)
    (sched : List ℕ) (c : Config WarningOffice WarningRow OfficeFailure Unit)
    (h : (warningStart s calls).exec sched = some c)
    (hcalm : (warningStart s calls).CalmRun (fun _ _ => True) (fun j => MetricCalm calls[j]?) []
      sched) : c.store.Supported := by
  have hclients : ∀ (j : ℕ) (p : WarningProgram Unit), (calls.map WarningCall.program)[j]? = some p →
      p.Asserts (metricOthers calls j) MetricChange (fun _ _ => True) WarningOffice.Founded := by
    intro j p hp
    rw [List.getElem?_map, Option.map_eq_some_iff] at hp
    obtain ⟨call, hcall, rfl⟩ := hp
    exact call.supports hcall
  have hreached := Config.invariant_of_guarantees (fun _ _ _ _ hcommit hs => hcommit.founded hs)
    hclients hs h hcalm
  exact hreached.supported

def onTimeArrival : SchoolArrival :=
  { lateArrival 1 10 with
    firstArrivalAt := 7
    lateness := { rawLateMinutes := 0, countedLateMinutes := 0, status := .onTime } }

def issueAndCorrect : List WarningCall :=
  [.issue lateRequest 20, .correctArrival 1 onTimeArrival 30]

/-- The arrival is corrected once the warning has been issued: the reconciliation voids it. -/
theorem calm_issuedWarnings_inTurn :
    ∃ c : Config WarningOffice WarningRow OfficeFailure Unit,
      c.threads.map Thread.ended = [true, true] ∧
        c.store.warnings.map (fun w => w.status) = [.voided] ∧ c.store.Supported := by
  have hfacts : ((warningStart lateOffice issueAndCorrect).exec
      (List.replicate 20 0 ++ List.replicate 14 1)).map (fun c => (c.threads.map Thread.ended,
        c.store.warnings.map fun w => w.status)) = some ([true, true], [.voided]) := by
    decide +kernel
  obtain ⟨c, hc, hfacts⟩ := Option.map_eq_some_iff.mp hfacts
  rw [Prod.mk.injEq] at hfacts
  have hfounded : lateOffice.Founded :=
    ⟨fun i w year hw => absurd hw (by simp [lateOffice]), by decide⟩
  exact ⟨c, hfacts.1, hfacts.2, calm_issuedWarnings lateOffice hfounded issueAndCorrect _ c hc
    (Config.calmRun_of_check _ (by decide +kernel))⟩

/-- The warning has been evaluated before the correction and is committed after it: the
reconciliation has not seen it, and it stays issued with a metric of 0. -/
theorem correction_duringIssue :
    lateOffice.Founded ∧ ∃ c : Config WarningOffice WarningRow OfficeFailure Unit,
      (warningStart lateOffice issueAndCorrect).exec
        (List.replicate 8 0 ++ List.replicate 8 1 ++ List.replicate 12 0) = some c ∧
          c.threads.map Thread.ended = [true, true] ∧ ¬ c.store.Supported := by
  refine ⟨⟨fun i w year hw => absurd hw (by simp [lateOffice]), by decide⟩, ?_⟩
  have hfacts : ((warningStart lateOffice issueAndCorrect).exec
      (List.replicate 8 0 ++ List.replicate 8 1 ++ List.replicate 12 0)).map (fun c =>
        (c.threads.map Thread.ended, (c.store.warnings[0]?).any fun w =>
          decide (w.status = .issued ∧ w.thresholdAtIssue = 1 ∧
            w.warningType = .morningLateOccurrences ∧ w.student = 1 ∧ w.academicYear = 1),
          (c.store.year? 1).any fun y =>
            decide (c.store.metric y .morningLateOccurrences 1 = 0))) =
        some ([true, true], true, true) := by
    decide +kernel
  obtain ⟨c, hc, hfacts⟩ := Option.map_eq_some_iff.mp hfacts
  simp only [Prod.mk.injEq, Option.any_eq_true, decide_eq_true_eq] at hfacts
  obtain ⟨hended, ⟨w, hw, hissued, hthreshold, htype, hstudent, hid⟩, year, hyear, hmetric⟩ := hfacts
  refine ⟨c, hc, hended, fun hsupported => ?_⟩
  have hle := hsupported 0 w year hw hissued (by rw [hid]; exact hyear)
  rw [htype, hstudent, hmetric, hthreshold] at hle
  exact absurd hle (by decide)

end SchoolPlatform
