import SchoolPlatform.Model.Dashboard
import SchoolPlatform.Library.FallibleFolds

/-!
# The screens of the dashboard against the indicators

The days of the trend, the weeks that they are collected in, the sections and the report of absences
are each a partition of the summaries that the indicators count. They add up to the indicators
exactly when no late arrival is without a summary, no day is undetermined, and a day without an
absence has no excused or unexcused periods (`views_agree_iff`).
-/

namespace SchoolPlatform

open Tallies

variable {s : AttendanceRecords} {range : DateRange} {scope : DashboardScope}

theorem sumOver_weekly (column : TrendPoint → ℕ)
    (hadd : ∀ p q, column (p.add q) = column p + column q)
    (hzero : ∀ d, column ⟨d, 0, 0, 0, 0, 0⟩ = 0) (points : List TrendPoint) :
    sumOver column (weekly points) = sumOver column points := by
  suffices hgen : ∀ buckets : Dict Date TrendPoint,
      sumOver (fun b : Date × TrendPoint => column b.2) (points.foldl (fun buckets p =>
        let bucket := (Dict.get? buckets (weekStart p.date)).getD ⟨weekStart p.date, 0, 0, 0, 0, 0⟩
        Dict.insert buckets (weekStart p.date) (bucket.add p)) buckets) =
          sumOver (fun b : Date × TrendPoint => column b.2) buckets + sumOver column points by
    unfold weekly
    rw [sumOver_map, sumOver_perm _ (List.perm_insertionSort _ _)]
    exact (hgen []).trans (Nat.zero_add _)
  induction points with
  | nil => exact fun _ => rfl
  | cons p points ih =>
    intro buckets
    rw [List.foldl_cons, ih, sumOver_cons]
    have hinsert := sumOver_insert (fun b : Date × TrendPoint => column b.2) buckets
      (weekStart p.date) (((Dict.get? buckets (weekStart p.date)).getD
        ⟨weekStart p.date, 0, 0, 0, 0, 0⟩).add p)
    cases hget : Dict.get? buckets (weekStart p.date) with
    | none =>
      simp only [hget, Option.getD_none, Option.elim_none, hadd, hzero] at hinsert ⊢
      omega
    | some old =>
      simp only [hget, Option.getD_some, Option.elim_some, hadd] at hinsert ⊢
      omega

theorem sumOver_attendanceTrend (column : TrendPoint → ℕ)
    (hadd : ∀ p q, column (p.add q) = column p + column q)
    (hzero : ∀ d, column ⟨d, 0, 0, 0, 0, 0⟩ = 0) :
    sumOver column (attendanceTrend s range scope).points =
      sumOver column (dailyPoints s range scope) := by
  unfold attendanceTrend
  dsimp only
  by_cases h : maxTrendPoints < (dailyPoints s range scope).length
  · rw [if_pos h]
    exact sumOver_weekly column hadd hzero _
  · rw [if_neg h]

theorem sumOver_dailyPoints (column : TrendPoint → ℕ) :
    sumOver column (dailyPoints s range scope) =
      sumOver (fun g => column (trendPoint (lateArrivals s range scope) g.1 g.2))
        (Dict.groupBy (fun r => r.attendanceDate) (summariesQueryset s range scope)) := by
  unfold dailyPoints
  rw [sumOver_map, sumOver_perm _ (List.perm_insertionSort _ _)]

theorem trend_count (p : DailyAttendanceSummary → Bool) :
    sumOver (fun g : Date × List DailyAttendanceSummary => count p g.2)
      (Dict.groupBy (fun r => r.attendanceDate) (summariesQueryset s range scope)) =
        count p (summariesQueryset s range scope) :=
  length_groupBy p _ _

theorem trend_late :
    sumOver (fun p => p.morningLate) (attendanceTrend s range scope).points =
      ((lateArrivals s range scope).filter fun a => (summariesQueryset s range scope).any fun r =>
        r.attendanceDate = a.attendanceDate).length := by
  rw [sumOver_attendanceTrend _ (fun _ _ => rfl) fun _ => rfl, sumOver_dailyPoints]
  have hkeys := Dict.nodup_keys_groupBy (fun r : DailyAttendanceSummary => r.attendanceDate)
    (summariesQueryset s range scope)
  have hcounts := sumOver_counts (fun a : SchoolArrival => a.attendanceDate)
    (lateArrivals s range scope) hkeys
  unfold Dict.keys at hcounts
  rw [sumOver_map] at hcounts
  refine hcounts.trans (congrArg List.length (List.filter_congr fun a _ => ?_))
  rw [Bool.eq_iff_iff, decide_eq_true_eq, List.any_eq_true]
  exact (Dict.mem_keys_groupBy _ _ _).trans (by simp only [decide_eq_true_eq])

/-- What the database promises of summaries and arrivals: a student has one of each a day, and the
section of a summary is there, with its grade. -/
structure AttendanceRecords.Keyed (s : AttendanceRecords) : Prop where
  summaries : (s.school.summaries.map fun r => (r.student, r.attendanceDate)).Nodup
  arrivals : (s.arrivals.map fun a => (a.student, a.attendanceDate)).Nodup
  sections : ∀ r ∈ s.school.summaries, (s.school.sectionNames r.sectionId).isSome = true

theorem mem_summariesQueryset {r : DailyAttendanceSummary} :
    r ∈ summariesQueryset s range scope ↔ r ∈ s.school.summaries ∧
      range.contains r.attendanceDate = true ∧ s.school.inScope scope r = true := by
  simp only [summariesQueryset, List.mem_filter, and_assoc]

theorem filter_sectionNames (hs : s.Keyed) :
    ((summariesQueryset s range scope).filter fun r =>
      (s.school.sectionNames r.sectionId).isSome) = summariesQueryset s range scope := by
  rw [List.filter_eq_self]
  exact fun r hr => hs.sections r (mem_summariesQueryset.mp hr).1

theorem sumOver_sectionBreakdown (hs : s.Keyed) (collation : Collation) (column : SectionRow → ℕ)
    (f : ℕ × List DailyAttendanceSummary → ℕ)
    (hcolumn : ∀ (g : ℕ × List DailyAttendanceSummary) (names : Section × Grade), column
      { sectionId := g.1
        sectionName := names.1.name
        gradeName := names.2.name
        department := names.1.department
        students := countDistinct (fun r => r.student) g.2
        studentDays := g.2.length
        fullAbsenceDays := count (DailyAttendanceSummary.hasStatus .full) g.2
        partialAbsenceDays := count (DailyAttendanceSummary.hasStatus .partial_) g.2
        unexcusedFullAbsenceDays := count unexcusedFullDay g.2
        morningLateOccurrences := morningLateBySection s range scope g.1 } = f g) :
    sumOver column (sectionBreakdown collation s range scope) =
      sumOver f (Dict.groupBy (fun r => r.sectionId) (summariesQueryset s range scope)) := by
  unfold sectionBreakdown
  dsimp only
  rw [sumOver_perm _ (List.perm_insertionSort _ _), filter_sectionNames hs]
  apply sumOver_filterMap
  intro g hg
  have hkey : g.1 ∈ Dict.keys (Dict.groupBy (fun r : DailyAttendanceSummary => r.sectionId)
      (summariesQueryset s range scope)) := List.mem_map_of_mem hg
  obtain ⟨r, hr, hsection⟩ := (Dict.mem_keys_groupBy _ _ _).mp hkey
  have hsome := hs.sections r (mem_summariesQueryset.mp hr).1
  rw [hsection] at hsome
  obtain ⟨names, hnames⟩ := Option.isSome_iff_exists.mp hsome
  exact ⟨_, by rw [hnames]; rfl, hcolumn g names⟩

theorem arrivalsQueryset_sublist : (arrivalsQueryset s range scope).Sublist s.arrivals := by
  unfold arrivalsQueryset
  dsimp only
  split
  · exact List.filter_sublist.trans List.filter_sublist
  · exact List.filter_sublist

theorem length_late_of_summaries (hs : s.Keyed) :
    ((summariesQueryset s range scope).filter fun r => ((lateArrivals s range scope).map fun a =>
      (a.student, a.attendanceDate)).contains (r.student, r.attendanceDate)).length =
    ((lateArrivals s range scope).filter fun a => (summariesQueryset s range scope).any fun r =>
      decide (r.student = a.student ∧ r.attendanceDate = a.attendanceDate)).length := by
  have hrows : ((summariesQueryset s range scope).map fun r =>
      (r.student, r.attendanceDate)).Nodup :=
    hs.summaries.sublist (List.Sublist.map _ (List.filter_sublist.trans List.filter_sublist))
  have hlate : ((lateArrivals s range scope).map fun a => (a.student, a.attendanceDate)).Nodup :=
    hs.arrivals.sublist (List.Sublist.map _ (List.filter_sublist.trans arrivalsQueryset_sublist))
  rw [← List.length_map (fun r : DailyAttendanceSummary => (r.student, r.attendanceDate)),
    ← List.length_map (fun a : SchoolArrival => (a.student, a.attendanceDate))]
  apply List.Perm.length_eq
  rw [List.perm_ext_iff_of_nodup (hrows.sublist (List.Sublist.map _ List.filter_sublist))
    (hlate.sublist (List.Sublist.map _ List.filter_sublist))]
  intro k
  simp only [List.mem_map, List.mem_filter, List.contains_iff_mem, List.any_eq_true,
    decide_eq_true_eq]
  constructor
  · rintro ⟨r, ⟨hr, a, ha, hsame⟩, rfl⟩
    obtain ⟨hstudent, hdate⟩ := Prod.mk.inj hsame
    exact ⟨a, ⟨ha, r, hr, hstudent.symm, hdate.symm⟩, hsame⟩
  · rintro ⟨a, ⟨ha, r, hr, hstudent, hdate⟩, rfl⟩
    have hsame : (r.student, r.attendanceDate) = (a.student, a.attendanceDate) := by
      rw [hstudent, hdate]
    exact ⟨r, ⟨hr, a, ha, hsame.symm⟩, hsame⟩

theorem section_late (hs : s.Keyed) (collation : Collation) :
    sumOver (fun x => x.morningLateOccurrences) (sectionBreakdown collation s range scope) =
      ((lateArrivals s range scope).filter fun a => (summariesQueryset s range scope).any fun r =>
        decide (r.student = a.student ∧ r.attendanceDate = a.attendanceDate)).length := by
  rw [sumOver_sectionBreakdown hs collation _ (fun g => morningLateBySection s range scope g.1)
    fun _ _ => rfl, ← length_late_of_summaries hs]
  have hkeys := Dict.nodup_keys_groupBy (fun r : DailyAttendanceSummary => r.sectionId)
    (summariesQueryset s range scope)
  have hcounts := sumOver_counts (fun r : DailyAttendanceSummary => r.sectionId)
    ((summariesQueryset s range scope).filter fun r => ((lateArrivals s range scope).map fun a =>
      (a.student, a.attendanceDate)).contains (r.student, r.attendanceDate)) hkeys
  unfold Dict.keys at hcounts
  rw [sumOver_map] at hcounts
  refine hcounts.trans (congrArg List.length (List.filter_eq_self.mpr fun r hr => ?_))
  rw [decide_eq_true_eq]
  exact (Dict.mem_keys_groupBy _ _ _).mpr ⟨r, (List.mem_filter.mp hr).1, rfl⟩

theorem absenceRows_all : absenceRows s range scope none "ALL" "ALL" =
    (summariesQueryset s range scope).filter fun r =>
      r.hasStatus .full || r.hasStatus .partial_ := by
  unfold absenceRows
  refine (List.filter_eq_self.mpr fun r _ => ?_).trans (List.filter_eq_self.mpr fun r _ => ?_)
  · rfl
  · rfl

theorem count_absences {p : DailyAttendanceSummary → Bool} {rows : List DailyAttendanceSummary}
    (hp : ∀ r, p r = true → r.absenceStatus = .full ∨ r.absenceStatus = .partial_) :
    count p (rows.filter fun r => r.hasStatus .full || r.hasStatus .partial_) = count p rows := by
  unfold count
  rw [List.filter_filter]
  congr 1
  apply List.filter_congr
  intro r _
  cases hr : p r with
  | false => rfl
  | true =>
    have habsent := hp r hr
    simp only [Bool.true_and, Bool.or_eq_true, DailyAttendanceSummary.hasStatus, decide_eq_true_eq]
    exact habsent

theorem count_undetermined (rows : List DailyAttendanceSummary) :
    count (DailyAttendanceSummary.hasStatus .undetermined)
      (rows.filter fun r => r.hasStatus .full || r.hasStatus .partial_) = 0 := by
  unfold count
  rw [List.length_eq_zero_iff, List.filter_eq_nil_iff]
  intro r hr hundetermined
  have habsent := (List.mem_filter.mp hr).2
  simp only [DailyAttendanceSummary.hasStatus, Bool.or_eq_true, decide_eq_true_eq] at habsent
  have hstatus : r.absenceStatus = .undetermined := of_decide_eq_true hundetermined
  rw [hstatus] at habsent
  rcases habsent with h | h <;> cases h

theorem absenceReport_summary {python : PythonText} {collation : Collation} {params : ReportParams}
    {report : AbsenceReport}
    (hok : absenceReport python collation s range scope params = .ok report)
    (habsence : absenceTypeOf python params = .ok "ALL")
    (hexcuse : excuseTypeOf python params = .ok "ALL")
    (hstudent : reportStudent python s.school params.student = .ok none) :
    report.summary = absenceTotals ((summariesQueryset s range scope).filter fun r =>
      r.hasStatus .full || r.hasStatus .partial_) := by
  unfold absenceReport at hok
  obtain ⟨absenceType, h₁, hok⟩ := Fallible.bind_eq_ok.mp hok
  obtain ⟨excuseType, h₂, hok⟩ := Fallible.bind_eq_ok.mp hok
  obtain ⟨student, h₃, hok⟩ := Fallible.bind_eq_ok.mp hok
  obtain ⟨page, -, hreport⟩ := Fallible.bind_eq_ok.mp hok
  rw [habsence, Except.ok.injEq] at h₁
  rw [hexcuse, Except.ok.injEq] at h₂
  rw [hstudent, Except.ok.injEq] at h₃
  subst h₁ h₂ h₃
  rw [← absenceRows_all]
  exact congrArg AbsenceReport.summary (Except.ok.inj hreport).symm

structure TrendAgrees (points : List TrendPoint) (kpis : AttendanceKpis) : Prop where
  full : sumOver (fun p => p.fullAbsence) points = kpis.fullAbsenceDays
  partial_ : sumOver (fun p => p.partialAbsence) points = kpis.partialAbsenceDays
  unexcused : sumOver (fun p => p.unexcusedFullAbsence) points = kpis.unexcusedFullAbsenceDays
  undetermined : sumOver (fun p => p.undetermined) points = kpis.undeterminedDays
  late : sumOver (fun p => p.morningLate) points = kpis.morningLateOccurrences

structure SectionsAgree (sections : List SectionRow) (kpis : AttendanceKpis) : Prop where
  days : sumOver (fun x => x.studentDays) sections = kpis.studentDays
  full : sumOver (fun x => x.fullAbsenceDays) sections = kpis.fullAbsenceDays
  partial_ : sumOver (fun x => x.partialAbsenceDays) sections = kpis.partialAbsenceDays
  unexcused : sumOver (fun x => x.unexcusedFullAbsenceDays) sections =
    kpis.unexcusedFullAbsenceDays
  late : sumOver (fun x => x.morningLateOccurrences) sections = kpis.morningLateOccurrences

/-- What the report says; its incomplete days are the undetermined ones. -/
structure ReportAgrees (totals : AbsenceTotals) (kpis : AttendanceKpis) : Prop where
  full : totals.fullAbsenceDays = kpis.fullAbsenceDays
  partial_ : totals.partialAbsenceDays = kpis.partialAbsenceDays
  excusedPeriods : totals.excusedAbsentPeriods = kpis.excusedAbsentPeriods
  unexcusedPeriods : totals.unexcusedAbsentPeriods = kpis.unexcusedAbsentPeriods
  undetermined : totals.incompleteDays = kpis.undeterminedDays

def LateSummarized (s : AttendanceRecords) (range : DateRange) (scope : DashboardScope) : Prop :=
  ∀ a ∈ lateArrivals s range scope, ∃ r ∈ summariesQueryset s range scope,
    r.student = a.student ∧ r.attendanceDate = a.attendanceDate

/-- No day of the range and scope is undetermined, and one without an absence has no excused or
unexcused periods. -/
def AbsencesAlone (s : AttendanceRecords) (range : DateRange) (scope : DashboardScope) : Prop :=
  ∀ r ∈ summariesQueryset s range scope, r.absenceStatus ≠ .undetermined ∧
    (r.absenceStatus = .none → r.excusedAbsentPeriods = 0 ∧ r.unexcusedAbsentPeriods = 0)

instance decidableLateSummarized (s : AttendanceRecords) (range : DateRange)
    (scope : DashboardScope) : Decidable (LateSummarized s range scope) :=
  inferInstanceAs (Decidable (∀ a ∈ lateArrivals s range scope,
    ∃ r ∈ summariesQueryset s range scope,
      r.student = a.student ∧ r.attendanceDate = a.attendanceDate))

instance decidableAbsencesAlone (s : AttendanceRecords) (range : DateRange)
    (scope : DashboardScope) : Decidable (AbsencesAlone s range scope) :=
  inferInstanceAs (Decidable (∀ r ∈ summariesQueryset s range scope,
    r.absenceStatus ≠ .undetermined ∧
      (r.absenceStatus = .none → r.excusedAbsentPeriods = 0 ∧ r.unexcusedAbsentPeriods = 0)))

theorem trendAgrees_of_late (h : LateSummarized s range scope) :
    TrendAgrees (attendanceTrend s range scope).points (attendanceKpis s range scope) where
  full := by
    rw [sumOver_attendanceTrend _ (fun _ _ => rfl) fun _ => rfl, sumOver_dailyPoints]
    exact trend_count _
  partial_ := by
    rw [sumOver_attendanceTrend _ (fun _ _ => rfl) fun _ => rfl, sumOver_dailyPoints]
    exact trend_count _
  unexcused := by
    rw [sumOver_attendanceTrend _ (fun _ _ => rfl) fun _ => rfl, sumOver_dailyPoints]
    exact trend_count _
  undetermined := by
    rw [sumOver_attendanceTrend _ (fun _ _ => rfl) fun _ => rfl, sumOver_dailyPoints]
    exact trend_count _
  late := by
    rw [trend_late]
    refine List.length_filter_eq_length_iff.mpr fun a ha => ?_
    obtain ⟨r, hr, -, hdate⟩ := h a ha
    exact List.any_eq_true.mpr ⟨r, hr, decide_eq_true hdate⟩

theorem sectionsAgree_iff (hs : s.Keyed) (collation : Collation) :
    SectionsAgree (sectionBreakdown collation s range scope) (attendanceKpis s range scope) ↔
      LateSummarized s range scope := by
  have hlate : sumOver (fun x => x.morningLateOccurrences)
      (sectionBreakdown collation s range scope) =
        (attendanceKpis s range scope).morningLateOccurrences ↔ LateSummarized s range scope := by
    rw [section_late hs]
    refine List.length_filter_eq_length_iff.trans ?_
    simp only [List.any_eq_true, decide_eq_true_eq]
    rfl
  have hcount : ∀ p : DailyAttendanceSummary → Bool,
      sumOver (fun g : ℕ × List DailyAttendanceSummary => count p g.2)
        (Dict.groupBy (fun r => r.sectionId) (summariesQueryset s range scope)) =
          count p (summariesQueryset s range scope) := fun p => length_groupBy p _ _
  refine ⟨fun h => hlate.mp h.late, fun h => ⟨?_, ?_, ?_, ?_, hlate.mpr h⟩⟩
  · rw [sumOver_sectionBreakdown hs collation _ (fun g => count (fun _ => true) g.2)]
    · refine (hcount _).trans ?_
      exact congrArg List.length (List.filter_eq_self.mpr fun _ _ => rfl)
    · intro g names
      exact congrArg List.length (List.filter_eq_self.mpr fun _ _ => rfl).symm
  · rw [sumOver_sectionBreakdown hs collation _ _ fun _ _ => rfl]
    exact hcount _
  · rw [sumOver_sectionBreakdown hs collation _ _ fun _ _ => rfl]
    exact hcount _
  · rw [sumOver_sectionBreakdown hs collation _ _ fun _ _ => rfl]
    exact hcount _

theorem reportAgrees_iff : ReportAgrees (absenceTotals ((summariesQueryset s range scope).filter
    fun r => r.hasStatus .full || r.hasStatus .partial_)) (attendanceKpis s range scope) ↔
      AbsencesAlone s range scope := by
  have hother : ∀ r : DailyAttendanceSummary,
      (r.hasStatus .full || r.hasStatus .partial_) = false ↔
        r.absenceStatus = .undetermined ∨ r.absenceStatus = .none := by
    intro r
    simp only [DailyAttendanceSummary.hasStatus, Bool.or_eq_false_iff, decide_eq_false_iff_not]
    cases r.absenceStatus <;> simp
  constructor
  · intro h r hr
    have hundetermined : r.absenceStatus ≠ .undetermined := by
      have hnone := (count_undetermined _).symm.trans h.undetermined
      have hempty := List.filter_eq_nil_iff.mp (List.length_eq_zero_iff.mp hnone.symm) r hr
      exact fun heq => hempty (decide_eq_true heq)
    refine ⟨hundetermined, fun hnone => ⟨?_, ?_⟩⟩
    · exact sumOver_filter_eq_iff.mp h.excusedPeriods r hr ((hother r).mpr (.inr hnone))
    · exact sumOver_filter_eq_iff.mp h.unexcusedPeriods r hr ((hother r).mpr (.inr hnone))
  · intro h
    refine ⟨?_, ?_, ?_, ?_, ?_⟩
    · exact count_absences fun r hr => .inl (of_decide_eq_true hr)
    · exact count_absences fun r hr => .inr (of_decide_eq_true hr)
    · refine sumOver_filter_eq_iff.mpr fun r hr hleft => ?_
      exact ((h r hr).2 (((hother r).mp hleft).resolve_left (h r hr).1)).1
    · refine sumOver_filter_eq_iff.mpr fun r hr hleft => ?_
      exact ((h r hr).2 (((hother r).mp hleft).resolve_left (h r hr).1)).2
    · refine (count_undetermined _).trans (List.length_eq_zero_iff.mpr ?_).symm
      rw [List.filter_eq_nil_iff]
      exact fun r hr heq => (h r hr).1 (of_decide_eq_true heq)

/-- **The screens against the indicators**, of any range and scope: the trend, the sections and the
report of all absences add up to them exactly when every late arrival has a summary, and the report
leaves out nothing that is counted. -/
theorem views_agree_iff (python : PythonText) (collation : Collation) (s : AttendanceRecords)
    (hs : s.Keyed) (range : DateRange) (scope : DashboardScope) (params : ReportParams)
    (report : AbsenceReport)
    (hok : absenceReport python collation s range scope params = .ok report)
    (habsence : absenceTypeOf python params = .ok "ALL")
    (hexcuse : excuseTypeOf python params = .ok "ALL")
    (hstudent : reportStudent python s.school params.student = .ok none) :
    (TrendAgrees (attendanceTrend s range scope).points (attendanceKpis s range scope) ∧
      SectionsAgree (sectionBreakdown collation s range scope) (attendanceKpis s range scope) ∧
        ReportAgrees report.summary (attendanceKpis s range scope)) ↔
      LateSummarized s range scope ∧ AbsencesAlone s range scope := by
  rw [absenceReport_summary hok habsence hexcuse hstudent, sectionsAgree_iff hs, reportAgrees_iff]
  constructor
  · rintro ⟨-, hlate, halone⟩
    exact ⟨hlate, halone⟩
  · rintro ⟨hlate, halone⟩
    exact ⟨trendAgrees_of_late hlate, hlate, halone⟩

def capitals : PythonText := ⟨fun text => text, fun _ => none⟩

def byCharacters : Collation := fun a b => !decide (b < a)

def oneGrade : Registry where
  grades := [⟨1, "1", "1", 1, true⟩]
  sections := [⟨4, 1, "1", "1", "", true⟩, ⟨5, 1, "2", "2", "", true⟩]

def absentOn (student sectionId : ℕ) (d : Date) (status : DailyAbsenceStatus) :
    DailyAttendanceSummary :=
  ⟨student, d, 1, sectionId, 3, 3, 2, 1, 1, 1, .complete, status, 100⟩

def lateOn (student : ℕ) (d : Date) : SchoolArrival :=
  ⟨student, d, 50, ⟨12, 7, .late⟩, .manual, none⟩

def longTerm : AttendanceRecords where
  school := { registry := oneGrade
              summaries := (List.range 70).map (fun d => absentOn 7 4 (14 + d) .full) ++
                (List.range 10).map (fun d => absentOn 8 5 (14 + d) .partial_) }
  arrivals := [lateOn 7 14, lateOn 7 80, lateOn 8 20]

theorem views_agree_longTerm : ∃ report,
    absenceReport capitals byCharacters longTerm ⟨14, 100⟩ {} {} = .ok report ∧
      (attendanceTrend longTerm ⟨14, 100⟩ {}).granularity = .week ∧
        TrendAgrees (attendanceTrend longTerm ⟨14, 100⟩ {}).points
          (attendanceKpis longTerm ⟨14, 100⟩ {}) ∧
        SectionsAgree (sectionBreakdown byCharacters longTerm ⟨14, 100⟩ {})
          (attendanceKpis longTerm ⟨14, 100⟩ {}) ∧
        ReportAgrees report.summary (attendanceKpis longTerm ⟨14, 100⟩ {}) := by
  have hkeyed : longTerm.Keyed :=
    ⟨by decide +kernel, by decide +kernel, by decide +kernel⟩
  have hcondition : LateSummarized longTerm ⟨14, 100⟩ {} ∧ AbsencesAlone longTerm ⟨14, 100⟩ {} := by
    decide +kernel
  obtain ⟨report, hreport⟩ : ∃ report,
      absenceReport capitals byCharacters longTerm ⟨14, 100⟩ {} {} = .ok report := ⟨_, rfl⟩
  exact ⟨report, hreport, by decide +kernel, (views_agree_iff capitals byCharacters longTerm hkeyed
    ⟨14, 100⟩ {} {} report hreport rfl rfl rfl).mpr hcondition⟩

/-- A late arrival of a student of whom no attendance has been taken yet, and an undetermined day
of another one. -/
def firstPeriod : AttendanceRecords where
  school := { registry := oneGrade, summaries := [⟨7, 14, 1, 4, 3, 0, 0, 0, 0, 0, .incomplete,
    .undetermined, 100⟩] }
  arrivals := [lateOn 8 14]

/-- **The sections miss a late arrival that the indicators count**, and the report the undetermined
day. -/
theorem views_differ : ¬ ∀ (python : PythonText) (collation : Collation) (s : AttendanceRecords),
    s.Keyed → ∀ (range : DateRange) (scope : DashboardScope) (params : ReportParams)
      (report : AbsenceReport),
        absenceReport python collation s range scope params = .ok report →
          absenceTypeOf python params = .ok "ALL" → excuseTypeOf python params = .ok "ALL" →
            reportStudent python s.school params.student = .ok none →
              TrendAgrees (attendanceTrend s range scope).points (attendanceKpis s range scope) ∧
                SectionsAgree (sectionBreakdown collation s range scope)
                  (attendanceKpis s range scope) ∧
                ReportAgrees report.summary (attendanceKpis s range scope) := by
  intro h
  obtain ⟨report, hreport⟩ : ∃ report,
      absenceReport capitals byCharacters firstPeriod ⟨14, 14⟩ {} {} = .ok report := ⟨_, rfl⟩
  have hkeyed : firstPeriod.Keyed := ⟨by decide +kernel, by decide +kernel, by decide +kernel⟩
  have hsections := (h capitals byCharacters firstPeriod hkeyed ⟨14, 14⟩ {} {} report hreport rfl
    rfl rfl).2.1.late
  exact absurd hsections (by decide +kernel)

end SchoolPlatform
