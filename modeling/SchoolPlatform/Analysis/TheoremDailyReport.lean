import SchoolPlatform.Model.DailyReport

/-!
# When the daily report adds up

The report counts the students without a record as those enrolled less those recorded, and lists
them as those enrolled and not recorded. The two agree, and with them all figures and lists, exactly
when every recorded student is enrolled on the day. A student whose enrollment ended on the day, or
who changed grade under a filter by grade, is recorded and not enrolled, and hides one who has no
record.
-/

namespace SchoolPlatform

section Missing

variable {all known : List ℕ}

theorem subset_iff_lengths (hall : all.Nodup) (hknown : known.Nodup) :
    known ⊆ all ↔ (all.filter fun x => x ∉ known).length = all.length - known.length ∧
      known.length + (all.length - known.length) = all.length := by
  have hsplit := List.length_eq_length_filter_add (l := all) fun x => decide (x ∈ known)
  have hmissing : (all.filter fun x => !decide (x ∈ known)) = all.filter fun x => x ∉ known :=
    List.filter_congr fun x _ => by simp
  rw [hmissing] at hsplit
  have hinter : (all.filter fun x => x ∈ known) ⊆ known :=
    fun x hx => of_decide_eq_true (List.mem_filter.mp hx).2
  have hsub := List.subperm_of_subset (hall.filter fun x => x ∈ known) hinter
  constructor
  · intro hsubset
    have hback : known ⊆ all.filter fun x => x ∈ known :=
      fun x hx => List.mem_filter.mpr ⟨hsubset hx, decide_eq_true hx⟩
    have hle := (List.subperm_of_subset hknown hback).length_le
    have hle' := hsub.length_le
    omega
  · rintro ⟨hlist, htotal⟩ x hx
    have hle : known.length ≤ (all.filter fun x => x ∈ known).length := by
      have hle' := hsub.length_le
      omega
    have hperm := hsub.perm_of_length_le hle
    exact (List.mem_filter.mp (hperm.mem_iff.mpr hx)).1

end Missing

section Lists

variable {classified : List ℕ}

theorem mem_firstUnclassified {seen : List ℕ} {l : List StudentEnrollment} {x : ℕ} :
    x ∈ (firstUnclassified classified seen l).map (fun e => e.student) ↔
      x ∈ l.map (fun e => e.student) ∧ x ∉ seen ∧ x ∉ classified := by
  induction l generalizing seen with
  | nil => simp [firstUnclassified]
  | cons e rest ih =>
    unfold firstUnclassified
    split
    · rename_i hskip
      rw [ih, List.map_cons, List.mem_cons]
      constructor
      · rintro ⟨hx, hout⟩
        exact ⟨.inr hx, hout⟩
      · rintro ⟨rfl | hx, hseen, hclassified⟩
        · exact absurd hskip (not_or.mpr ⟨hseen, hclassified⟩)
        · exact ⟨hx, hseen, hclassified⟩
    · rename_i hnew
      rw [not_or] at hnew
      rw [List.map_cons, List.mem_cons, List.map_cons, List.mem_cons, ih, List.mem_cons, not_or]
      constructor
      · rintro (rfl | ⟨hx, ⟨-, hseen⟩, hclassified⟩)
        · exact ⟨.inl rfl, hnew⟩
        · exact ⟨.inr hx, hseen, hclassified⟩
      · rintro ⟨hx, hseen, hclassified⟩
        by_cases hsame : x = e.student
        · exact .inl hsame
        · exact .inr ⟨hx.resolve_left hsame, ⟨hsame, hseen⟩, hclassified⟩

theorem nodup_firstUnclassified (seen : List ℕ) (l : List StudentEnrollment) :
    ((firstUnclassified classified seen l).map fun e => e.student).Nodup := by
  induction l generalizing seen with
  | nil => exact List.nodup_nil
  | cons e rest ih =>
    unfold firstUnclassified
    split
    · exact ih seen
    · rw [List.map_cons, List.nodup_cons]
      refine ⟨fun hmem => ?_, ih (e.student :: seen)⟩
      exact (mem_firstUnclassified.mp hmem).2.1 List.mem_cons_self

end Lists

variable {collation : Collation} {s : School} {scope : Option CurrentDayScope} {d today : Date}
  {gradeId : Option ℤ}

def countedStudents (s : School) (d : Date) (gradeId : Option ℤ) : List ℕ :=
  ((dailyEnrollments s d gradeId).map fun e => e.student).dedup

def classifiedStudents (rows : List DailyAttendanceSummary) : List ℕ :=
  (rows.filter DailyAttendanceSummary.isClassified).map fun r => r.student

theorem nodup_students_of_keyed
    (hkeys : (s.summaries.map fun r => (r.student, r.attendanceDate)).Nodup)
    (p : DailyAttendanceSummary → Bool) :
    (((dailyRows s scope d gradeId).filter p).map fun r => r.student).Nodup := by
  have hday : ∀ r ∈ (dailyRows s scope d gradeId).filter p, r.attendanceDate = d := by
    intro r hr
    have hcond := (List.mem_filter.mp (List.mem_filter.mp hr).1).2
    exact (of_decide_eq_true hcond).1
  have hrows : ((dailyRows s scope d gradeId).filter p).Sublist s.summaries :=
    List.filter_sublist.trans List.filter_sublist
  have hnodup := List.pairwise_map.mp (hkeys.sublist (hrows.map _))
  refine List.pairwise_map.mpr (hnodup.imp_of_mem ?_)
  intro r r' hr hr' hne hsame
  refine hne (Prod.ext hsame ?_)
  exact (hday r hr).trans (hday r' hr').symm

theorem perm_statuses (rows : List DailyAttendanceSummary) :
    (rows.filter (DailyAttendanceSummary.hasStatus .full) ++
      (rows.filter (DailyAttendanceSummary.hasStatus .partial_) ++
        rows.filter (DailyAttendanceSummary.hasStatus .none))).Perm
      (rows.filter DailyAttendanceSummary.isClassified) := by
  induction rows with
  | nil => exact .nil
  | cons r rows ih =>
    have hstatus : ∀ status, r.hasStatus status = decide (r.absenceStatus = status) :=
      fun _ => rfl
    cases hcase : r.absenceStatus with
    | undetermined =>
      simpa [List.filter_cons, hstatus, hcase, DailyAttendanceSummary.isClassified] using ih
    | full =>
      simpa [List.filter_cons, hstatus, hcase, DailyAttendanceSummary.isClassified] using ih
    | partial_ =>
      simp only [List.filter_cons, hstatus, hcase, DailyAttendanceSummary.isClassified]
      simpa using List.perm_middle.trans (ih.cons r)
    | none =>
      simp only [List.filter_cons, hstatus, hcase, DailyAttendanceSummary.isClassified]
      simp only [← List.append_assoc] at ih ⊢
      simpa using List.perm_middle.trans (ih.cons r)

def listedIds (collation : Collation) (s : School) (scope : Option CurrentDayScope) (d : Date)
    (gradeId : Option ℤ) (status : DailyAbsenceStatus) : List ℕ :=
  (listedStudents collation s scope d gradeId status).map fun x => x.studentId

theorem perm_inReportOrder {α : Type} (names : α → ReportNames) (l : List α) :
    (inReportOrder collation names l).Perm l := List.perm_insertionSort _ l

theorem listedIds_recorded {status : DailyAbsenceStatus} (hstatus : status ≠ .undetermined) :
    (listedIds collation s scope d gradeId status).Perm
      (((dailyRows s scope d gradeId).filter (DailyAttendanceSummary.hasStatus status)).map
        fun r => r.student) := by
  unfold listedIds listedStudents
  dsimp only
  rw [if_neg hstatus]
  unfold recordedStudents
  rw [List.map_map]
  exact (perm_inReportOrder _ _).map _

theorem listedIds_unrecorded :
    (listedIds collation s scope d gradeId .undetermined).Perm
      ((countedStudents s d gradeId).filter fun x =>
        x ∉ classifiedStudents (dailyRows s scope d gradeId)) := by
  unfold listedIds listedStudents
  dsimp only
  rw [if_pos rfl]
  unfold unrecordedStudents
  rw [List.map_map]
  refine (List.perm_ext_iff_of_nodup (nodup_firstUnclassified [] _)
    ((List.nodup_dedup _).filter _)).mpr fun x => ?_
  have hsorted : x ∈ (inReportOrder collation
      (fun e : StudentEnrollment => s.reportNames e.student e.sectionId)
      (dailyEnrollments s d gradeId)).map (fun e => e.student) ↔
      x ∈ (dailyEnrollments s d gradeId).map (fun e => e.student) :=
    ((perm_inReportOrder _ _).map _).mem_iff
  rw [mem_firstUnclassified.trans (and_congr_left' hsorted), List.mem_filter, decide_eq_true_eq]
  unfold classifiedStudents
  rw [List.mem_dedup]
  exact and_congr_right fun _ => and_iff_right List.not_mem_nil

theorem perm_listedIds : ([DailyAbsenceStatus.full, .partial_, .none, .undetermined].flatMap
    (listedIds collation s scope d gradeId)).Perm
      (classifiedStudents (dailyRows s scope d gradeId) ++ (countedStudents s d gradeId).filter
        fun x => x ∉ classifiedStudents (dailyRows s scope d gradeId)) := by
  have hrecorded := (perm_statuses (dailyRows s scope d gradeId)).map fun r => r.student
  rw [List.map_append, List.map_append] at hrecorded
  have hstatus : ∀ status, status ≠ .undetermined →
      (listedIds collation s scope d gradeId status).Perm (((dailyRows s scope d gradeId).filter
        (DailyAttendanceSummary.hasStatus status)).map fun r => r.student) :=
    fun _ hne => listedIds_recorded hne
  have hthree := ((hstatus .full nofun).append
    ((hstatus .partial_ nofun).append (hstatus .none nofun))).trans hrecorded
  have hmissing : (listedIds collation s scope d gradeId .undetermined).Perm _ :=
    listedIds_unrecorded
  have hlists := hthree.append hmissing
  simp only [List.append_assoc] at hlists
  simp only [List.flatMap_cons, List.flatMap_nil, List.append_nil]
  exact hlists

def DailyFigures.figure (f : DailyFigures) : DailyAbsenceStatus → ℕ
  | .undetermined => f.incompleteStudents
  | .full => f.fullAbsent
  | .partial_ => f.partialAbsent
  | .none => f.noAbsence

/-- Every list is as long as its figure, the figures add up to the students counted, and the lists
name each of these once. -/
structure DailyReportAgrees (collation : Collation) (s : School) (year : AcademicYear)
    (today d : Date) (gradeId : Option ℤ) : Prop where
  listed : ∀ status page size report,
    getDailyReport collation s today d (some status) gradeId page size = .ok report →
      report.totalStudentsFiltered = report.summary.figure status
  total : ∀ statusFilter page size report,
    getDailyReport collation s today d statusFilter gradeId page size = .ok report →
      report.summary.fullAbsent + report.summary.partialAbsent + report.summary.noAbsence +
        report.summary.incompleteStudents = report.summary.totalStudents
  once : ([DailyAbsenceStatus.full, .partial_, .none, .undetermined].flatMap
    (listedIds collation s (scopeOn s year today d) d gradeId)).Perm
      (countedStudents s d gradeId)

theorem getDailyReport_ok {year : AcademicYear} (hyear : s.activeYear = some year)
    {statusFilter : Option DailyAbsenceStatus} {page : ℤ} {size : ℕ} {report : DailyReport}
    (h : getDailyReport collation s today d statusFilter gradeId page size = .ok report) :
    report.totalStudentsFiltered =
        ((statusFilter.map (listedStudents collation s (scopeOn s year today d) d gradeId)).getD
          []).length ∧
      report.summary = dailyFigures (dailyRows s (scopeOn s year today d) d gradeId)
        (dailyEnrollments s d gradeId) := by
  unfold getDailyReport at h
  rw [hyear] at h
  rw [← Except.ok.inj h]
  exact ⟨rfl, rfl⟩

theorem getDailyReport_succeeds (collation : Collation) {year : AcademicYear}
    (hyear : s.activeYear = some year) (today d : Date) (statusFilter : Option DailyAbsenceStatus)
    (gradeId : Option ℤ) (page : ℤ) (size : ℕ) :
    ∃ report, getDailyReport collation s today d statusFilter gradeId page size = .ok report := by
  unfold getDailyReport
  rw [hyear]
  exact ⟨_, rfl⟩

theorem length_listedStudents (status : DailyAbsenceStatus) :
    (listedStudents collation s scope d gradeId status).length =
      (listedIds collation s scope d gradeId status).length := (List.length_map _).symm

theorem completeStudents_eq (rows : List DailyAttendanceSummary)
    (enrollments : List StudentEnrollment) :
    (dailyFigures rows enrollments).fullAbsent + (dailyFigures rows enrollments).partialAbsent +
      (dailyFigures rows enrollments).noAbsence = (classifiedStudents rows).length := by
  have hlength := (perm_statuses rows).length_eq
  rw [List.length_append, List.length_append] at hlength
  unfold classifiedStudents
  rw [List.length_map, ← hlength, ← Nat.add_assoc]
  rfl

def RecordedEnrolled (s : School) (scope : Option CurrentDayScope) (d : Date)
    (gradeId : Option ℤ) : Prop :=
  ∀ r ∈ dailyRows s scope d gradeId, r.isClassified = true →
    ∃ e ∈ dailyEnrollments s d gradeId, e.student = r.student

theorem recordedEnrolled_iff : RecordedEnrolled s scope d gradeId ↔
    classifiedStudents (dailyRows s scope d gradeId) ⊆ countedStudents s d gradeId := by
  unfold classifiedStudents countedStudents
  constructor
  · intro h x hx
    obtain ⟨r, hr, rfl⟩ := List.mem_map.mp hx
    obtain ⟨hrow, hclassified⟩ := List.mem_filter.mp hr
    obtain ⟨e, he, hsame⟩ := h r hrow hclassified
    exact List.mem_dedup.mpr (List.mem_map.mpr ⟨e, he, hsame⟩)
  · intro h r hrow hclassified
    have hmem := h (List.mem_map.mpr ⟨r, List.mem_filter.mpr ⟨hrow, hclassified⟩, rfl⟩)
    exact List.mem_map.mp (List.mem_dedup.mp hmem)

section Agreement

variable {year : AcademicYear}

theorem incompleteStudents_eq :
    (dailyFigures (dailyRows s scope d gradeId) (dailyEnrollments s d gradeId)).incompleteStudents =
      (countedStudents s d gradeId).length -
        (classifiedStudents (dailyRows s scope d gradeId)).length := by
  rw [← completeStudents_eq (dailyRows s scope d gradeId) (dailyEnrollments s d gradeId)]
  rfl

theorem DailyReportAgrees.recorded
    (hkeys : (s.summaries.map fun r => (r.student, r.attendanceDate)).Nodup)
    (hyear : s.activeYear = some year)
    (h : DailyReportAgrees collation s year today d gradeId) :
    RecordedEnrolled s (scopeOn s year today d) d gradeId := by
  obtain ⟨report, hreport⟩ :=
    getDailyReport_succeeds collation hyear today d (some .undetermined) gradeId 1 25
  obtain ⟨hlength, hsummary⟩ := getDailyReport_ok hyear hreport
  have hlisted := h.listed .undetermined 1 25 report hreport
  have htotal := h.total (some .undetermined) 1 25 report hreport
  rw [hlength, hsummary] at hlisted
  rw [hsummary, completeStudents_eq, incompleteStudents_eq] at htotal
  have hlist : (listedStudents collation s (scopeOn s year today d) d gradeId
    .undetermined).length = _ := hlisted.trans incompleteStudents_eq
  rw [length_listedStudents, listedIds_unrecorded.length_eq] at hlist
  rw [recordedEnrolled_iff]
  exact (subset_iff_lengths (List.nodup_dedup _) (nodup_students_of_keyed hkeys _)).mpr
    ⟨hlist, htotal⟩

theorem DailyReportAgrees.of_recorded
    (hkeys : (s.summaries.map fun r => (r.student, r.attendanceDate)).Nodup)
    (hyear : s.activeYear = some year)
    (h : RecordedEnrolled s (scopeOn s year today d) d gradeId) :
    DailyReportAgrees collation s year today d gradeId := by
  have hknown : (classifiedStudents (dailyRows s (scopeOn s year today d) d gradeId)).Nodup :=
    nodup_students_of_keyed hkeys _
  have hall : (countedStudents s d gradeId).Nodup := List.nodup_dedup _
  have hsubset := recordedEnrolled_iff.mp h
  obtain ⟨hlist, htotal⟩ := (subset_iff_lengths hall hknown).mp hsubset
  refine ⟨?_, ?_, ?_⟩
  · intro status page size report hreport
    obtain ⟨hlength, hsummary⟩ := getDailyReport_ok hyear hreport
    rw [hlength, hsummary, Option.map_some, Option.getD_some, length_listedStudents]
    by_cases hstatus : status = .undetermined
    · rw [hstatus, listedIds_unrecorded.length_eq, hlist]
      exact incompleteStudents_eq.symm
    · rw [(listedIds_recorded hstatus).length_eq, List.length_map]
      cases status with
      | undetermined => exact absurd rfl hstatus
      | none => rfl
      | partial_ => rfl
      | full => rfl
  · intro statusFilter page size report hreport
    rw [(getDailyReport_ok hyear hreport).2, completeStudents_eq, incompleteStudents_eq]
    exact htotal
  · refine perm_listedIds.trans ?_
    have hmissing := hall.filter fun x =>
      x ∉ classifiedStudents (dailyRows s (scopeOn s year today d) d gradeId)
    have hapart : ∀ x ∈ classifiedStudents (dailyRows s (scopeOn s year today d) d gradeId),
        ∀ y ∈ (countedStudents s d gradeId).filter (fun x =>
          x ∉ classifiedStudents (dailyRows s (scopeOn s year today d) d gradeId)), x ≠ y := by
      rintro x hx y hy rfl
      exact of_decide_eq_true (List.mem_filter.mp hy).2 hx
    refine (List.perm_ext_iff_of_nodup (List.nodup_append.mpr ⟨hknown, hmissing, hapart⟩)
      hall).mpr fun x => ?_
    rw [List.mem_append, List.mem_filter, decide_eq_true_eq]
    constructor
    · rintro (hx | ⟨hx, -⟩)
      · exact hsubset hx
      · exact hx
    · intro hx
      by_cases hmem : x ∈ classifiedStudents (dailyRows s (scopeOn s year today d) d gradeId)
      · exact .inl hmem
      · exact .inr ⟨hx, hmem⟩

end Agreement

/-- **When the daily report adds up**: exactly when every student whose row says whether they were
absent is enrolled on the day. -/
theorem daily_report_agrees_iff (collation : Collation) (s : School)
    (hkeys : (s.summaries.map fun r => (r.student, r.attendanceDate)).Nodup)
    (year : AcademicYear) (hyear : s.activeYear = some year) (today d : Date)
    (gradeId : Option ℤ) :
    DailyReportAgrees collation s year today d gradeId ↔
      RecordedEnrolled s (scopeOn s year today d) d gradeId :=
  ⟨DailyReportAgrees.recorded hkeys hyear, DailyReportAgrees.of_recorded hkeys hyear⟩

/-- A student of a section in which attendance was taken, who left the school at some time, and one
of a section that was not prepared. -/
def leavingSchool (endedAt : Option Date) : School where
  registry :=
    { academicYears := [⟨1, 1, 400, .active, none⟩]
      grades := [⟨1, "", "", 1, true⟩]
      sections := [⟨1, 1, "", "", "", true⟩, ⟨2, 1, "", "", "", true⟩]
      enrollments := [⟨1, 7, 1, 1, 1, .withdrawn, 1, endedAt⟩, ⟨2, 8, 1, 1, 2, .active, 1, none⟩] }
  summaries := [⟨7, 14, 1, 1, 7, 1, 0, 1, 0, 0, .incomplete, .none, 110⟩]

/-- A student who left the same day hides one who has no record: one student is listed as
unrecorded, and none is counted. -/
theorem leaving_hides_unrecorded :
    ((getDailyReport (fun _ _ => true) (leavingSchool (some 14)) 15 14 (some .undetermined) none 1
      25).toOption.map fun r => (r.totalStudentsFiltered, r.summary.incompleteStudents)) =
        some (1, 0) := by
  decide +kernel

/-- The student leaves the next day, and the report adds up. -/
theorem leaving_next_day_agrees :
    DailyReportAgrees (fun _ _ => true) (leavingSchool (some 15)) ⟨1, 1, 400, .active, none⟩ 15 14
      none := by
  refine (daily_report_agrees_iff (fun _ _ => true) (leavingSchool (some 15)) (by decide) _ rfl 15
    14 none).mpr ?_
  unfold RecordedEnrolled
  decide +kernel

end SchoolPlatform
