import SchoolPlatform.Analysis.TheoremPeriodReport
import SchoolPlatform.Model.Eligibility

/-!
# The list of who is due a warning, and issuance

The list works the metrics of the whole school out at once and drops students on the way; an
issuance works one student out from scratch. For an enabled type both find the same levels due.
But an issuance also writes the names and numbers of the student into the warning, whose columns
are narrower than the student's own: the two agree exactly when the snapshot of every student who
is due fits (`eligibility_agrees_iff`).
-/

namespace SchoolPlatform

open ReadCommitted

variable {s : WarningOffice} {year : AcademicYear} {q : EligibilityQuery} {x : Student}
  {warningType : WarningRuleType} {level : WarningLevel}

/-! ## Levels -/

def WarningLevel.number : WarningLevel → ℕ
  | .level1 => 1
  | .level2 => 2
  | .level3 => 3

def WarningLevel.IsHighest (p : WarningLevel → Prop) (level : WarningLevel) : Prop :=
  p level ∧ ∀ other, level.number < other.number → ¬ p other

theorem WarningLevel.mem_levelOrder (level : WarningLevel) : level ∈ levelOrder := by
  cases level <;> simp [levelOrder]

theorem WarningLevel.isHighest_congr {p p' : WarningLevel → Prop} (h : ∀ l, p l ↔ p' l) :
    level.IsHighest p ↔ level.IsHighest p' := by
  simp only [IsHighest, h]

theorem getLast?_levelOrder (p : WarningLevel → Bool) :
    (levelOrder.filter p).getLast? = some level ↔ level.IsHighest fun l => p l = true := by
  have hall : ∀ P : WarningLevel → Prop,
      (∀ l, P l) ↔ P .level1 ∧ P .level2 ∧ P .level3 := by
    intro P
    constructor
    · intro h
      exact ⟨h _, h _, h _⟩
    · intro h l
      cases l
      · exact h.1
      · exact h.2.1
      · exact h.2.2
  unfold WarningLevel.IsHighest levelOrder
  rw [hall]
  cases h1 : p .level1 <;> cases h2 : p .level2 <;> cases h3 : p .level3 <;> cases level <;>
    simp [h1, h2, h3, WarningLevel.number]

section Levels

variable (value : ℕ) (threshold : WarningLevel → ℕ) (issued : List WarningLevel)

theorem highestDueLevel_foldl (levels : List WarningLevel) (state : LevelsState) :
    (levels.foldl (LevelsState.add value threshold issued) state).highestDueLevel =
      ((levels.filter fun l => l ∉ issued ∧ threshold l ≤ value).getLast?).or
        state.highestDueLevel := by
  induction levels using List.reverseRecOn with
  | nil => simp
  | append_singleton levels l ih =>
    rw [List.foldl_append, List.foldl_cons, List.foldl_nil, List.filter_append]
    by_cases hdue : l ∉ issued ∧ threshold l ≤ value
    · simp [LevelsState.add, hdue]
    · have hnot : (if l ∈ issued then LevelState.issued
          else if threshold l ≤ value then .due else .notDue) ≠ .due := by
        split_ifs with hissued hreached
        · simp
        · exact absurd ⟨hissued, hreached⟩ hdue
        · simp
      simp only [LevelsState.add, if_neg hnot, ih]
      rw [List.filter_cons, if_neg (by simpa using hdue)]
      simp

theorem highestReachedLevel_foldl (levels : List WarningLevel) (state : LevelsState) :
    (levels.foldl (LevelsState.add value threshold issued) state).highestReachedLevel =
      ((levels.filter fun l => threshold l ≤ value).getLast?).or
        state.highestReachedLevel := by
  induction levels using List.reverseRecOn with
  | nil => simp
  | append_singleton levels l ih =>
    rw [List.foldl_append, List.foldl_cons, List.foldl_nil, List.filter_append]
    by_cases hreached : threshold l ≤ value
    · simp [LevelsState.add, hreached]
    · simp [LevelsState.add, hreached, ih]

theorem levelsState_highestDueLevel :
    (levelsState value threshold issued).highestDueLevel = some level ↔
      level.IsHighest fun l => l ∉ issued ∧ threshold l ≤ value := by
  unfold levelsState
  rw [highestDueLevel_foldl, Option.or_none, getLast?_levelOrder]
  exact WarningLevel.isHighest_congr fun l => by simp

theorem filter_levelOrder_ne_nil {p : WarningLevel → Prop} [DecidablePred p] :
    levelOrder.filter (fun l => decide (p l)) ≠ [] ↔ ∃ l, p l := by
  constructor
  · intro hne
    obtain ⟨l, hl⟩ := List.exists_mem_of_ne_nil _ hne
    exact ⟨l, of_decide_eq_true (List.mem_filter.mp hl).2⟩
  · rintro ⟨l, hl⟩
    exact List.ne_nil_of_mem (List.mem_filter.mpr ⟨l.mem_levelOrder, decide_eq_true hl⟩)

theorem levelsState_isDue :
    (levelsState value threshold issued).highestDueLevel.isSome ↔
      ∃ l, l ∉ issued ∧ threshold l ≤ value := by
  unfold levelsState
  rw [highestDueLevel_foldl, Option.or_none, List.getLast?_isSome]
  exact filter_levelOrder_ne_nil

theorem levelsState_isReached :
    (levelsState value threshold issued).highestReachedLevel.isSome ↔
      ∃ l, threshold l ≤ value := by
  unfold levelsState
  rw [highestReachedLevel_foldl, Option.or_none, List.getLast?_isSome]
  exact filter_levelOrder_ne_nil

end Levels

def WarningOffice.isDue (s : WarningOffice) (year : AcademicYear) (student : ℕ)
    (warningType : WarningRuleType) (level : WarningLevel) : Bool :=
  decide (s.threshold warningType level ≤ s.metric year warningType student) &&
    !s.levelIssued student year.id warningType level

theorem WarningOffice.mem_issuedRows (s : WarningOffice) (year student : ℕ) :
    level ∈ (s.issuedRows year student warningType).map (fun w => w.level) ↔
      s.levelIssued student year warningType level = true := by
  unfold issuedRows levelIssued
  simp only [List.mem_map, List.mem_filterMap, List.mem_range, List.any_eq_true,
    decide_eq_true_eq]
  constructor
  · rintro ⟨row, ⟨i, -, hrow⟩, rfl⟩
    obtain ⟨w, hw, hrow⟩ := Option.bind_eq_some_iff.mp hrow
    rw [Option.ite_none_right_eq_some] at hrow
    obtain ⟨⟨hyear, hstatus, hstudent, htype⟩, hrow⟩ := hrow
    refine ⟨w, List.mem_of_getElem? hw, hstudent, hyear, htype, ?_, hstatus⟩
    rw [← Option.some.inj hrow]
  · rintro ⟨w, hw, hstudent, hyear, htype, hlevel, hstatus⟩
    obtain ⟨i, hi⟩ := List.mem_iff_getElem?.mp hw
    have hlt : i < s.warnings.length := (List.getElem?_eq_some_iff.mp hi).1
    refine ⟨_, ⟨i, hlt, (congrArg (fun row => Option.bind row _) hi).trans
      (if_pos ⟨hyear, hstatus, hstudent, htype⟩)⟩, ?_⟩
    exact hlevel

theorem Dict.get?_counts {α : Type} (key : α → ℕ) (count : List α → ℕ) (hnil : count [] = 0)
    (rows : List α) (k : ℕ) :
    Dict.get? (((Dict.groupBy key rows).map fun g => (g.1, count g.2)).filter
        fun g => g.2 ≠ 0) k =
      if count (rows.filter fun a => key a = k) = 0 then none
      else some (count (rows.filter fun a => key a = k)) := by
  have hnodup : (Dict.keys (((Dict.groupBy key rows).map fun g => (g.1, count g.2)).filter
      fun g => g.2 ≠ 0)).Nodup := by
    have hkeys : (((Dict.groupBy key rows).map fun g => (g.1, count g.2)).map Prod.fst).Nodup := by
      rw [List.map_map]
      exact Dict.nodup_keys_groupBy key rows
    exact hkeys.sublist (List.filter_sublist.map _)
  ext v
  rw [← Dict.mem_iff_get? hnodup, Option.ite_none_left_eq_some, Option.some.injEq]
  simp only [List.mem_filter, List.mem_map, Prod.exists, Prod.mk.injEq, Dict.mem_groupBy,
    decide_eq_true_eq]
  constructor
  · rintro ⟨⟨k', group, ⟨-, rfl⟩, rfl, rfl⟩, hne⟩
    exact ⟨hne, rfl⟩
  · rintro ⟨hne, rfl⟩
    refine ⟨⟨k, _, ⟨?_, rfl⟩, rfl, rfl⟩, hne⟩
    intro hempty
    rw [hempty] at hne
    exact hne hnil

theorem WarningOffice.get?_metricForStudents (s : WarningOffice) (student : ℕ) :
    (s.metricForStudents year warningType).get? student =
      if s.metric year warningType student = 0 then none
      else some (s.metric year warningType student) := by
  cases warningType with
  | unexcusedFullDayAbsence =>
    have hmetric : s.metric year .unexcusedFullDayAbsence student =
        (((s.school.summaries.filter fun r => r.academicYear = year.id).filter
          fun r => r.student = student).filter fun r => r.isUnexcusedFullDay).length := by
      unfold metric summariesOf
      simp only [List.filter_filter]
      simp
    rw [hmetric]
    exact Dict.get?_counts _ (fun l : List DailyAttendanceSummary =>
      (l.filter fun r => r.isUnexcusedFullDay).length) rfl _ _
  | morningLateOccurrences =>
    have hmetric : s.metric year .morningLateOccurrences student =
        ((s.arrivals.filter fun a => a.lateness.status = .late ∧
          year.startDate ≤ a.attendanceDate ∧ a.attendanceDate ≤ year.endDate).filter
            fun a => a.student = student).length := by
      unfold metric lateArrivalsOf
      rw [List.filter_filter]
      simp
    rw [hmetric]
    exact Dict.get?_counts _ List.length rfl _ _

theorem WarningOffice.getD_metricForStudents (s : WarningOffice) (student : ℕ) :
    ((s.metricForStudents year warningType).get? student).getD 0 =
      s.metric year warningType student := by
  rw [get?_metricForStudents]
  split_ifs with hzero
  · exact hzero.symm
  · rfl

theorem WarningOffice.mem_keys_metricForStudents (s : WarningOffice) (student : ℕ) :
    student ∈ (s.metricForStudents year warningType).keys ↔
      s.metric year warningType student ≠ 0 := by
  rw [Dict.mem_keys_iff, get?_metricForStudents]
  split_ifs with hzero
  · simp [hzero]
  · simp [hzero]

/-! ## Pairs -/

def WarningOffice.inView (s : WarningOffice) (year : AcademicYear) (q : EligibilityQuery) :
    List Student :=
  s.school.registry.students.filter fun x => x.status = .active &&
    s.school.registry.enrollments.any fun e => e.student = x.id && q.places year e

def WarningOffice.candidates (s : WarningOffice) (year : AcademicYear) (q : EligibilityQuery) :
    List ℕ :=
  (q.types.flatMap fun warningType => (s.metricForStudents year warningType).keys).dedup

theorem WarningOffice.mem_candidates (s : WarningOffice) (student : ℕ) :
    student ∈ s.candidates year q ↔ ∃ t ∈ q.types, s.metric year t student ≠ 0 := by
  unfold candidates
  rw [List.mem_dedup, List.mem_flatMap]
  simp only [s.mem_keys_metricForStudents]

def WarningOffice.pair (s : WarningOffice) (year : AcademicYear) (warningType : WarningRuleType)
    (x : Student) (e : StudentEnrollment) : EligibilityPair :=
  { student := x
    enrollment := e
    warningType := warningType
    value := s.metric year warningType x.id
    issued := s.issuedRows year.id x.id warningType
    state := levelsState (s.metric year warningType x.id) (s.threshold warningType)
      ((s.issuedRows year.id x.id warningType).map fun w => w.level) }

section Pairs

variable {e : StudentEnrollment} {student : ℕ}

theorem WarningOffice.pair_isDue :
    (s.pair year warningType x e).state.highestDueLevel.isSome ↔
      ∃ l, s.isDue year x.id warningType l = true := by
  unfold pair
  rw [levelsState_isDue]
  simp only [s.mem_issuedRows, isDue, Bool.and_eq_true, decide_eq_true_eq, Bool.not_eq_true',
    Bool.not_eq_true, and_comm]

theorem WarningOffice.pair_highestDueLevel :
    (s.pair year warningType x e).state.highestDueLevel = some level ↔
      level.IsHighest fun l => s.isDue year x.id warningType l = true := by
  unfold pair
  rw [levelsState_highestDueLevel]
  refine WarningLevel.isHighest_congr fun l => ?_
  simp only [s.mem_issuedRows, isDue, Bool.and_eq_true, decide_eq_true_eq, Bool.not_eq_true',
    Bool.not_eq_true, and_comm]

theorem WarningOffice.pair_isReached :
    (s.pair year warningType x e).state.highestReachedLevel.isSome ↔
      ∃ l, s.threshold warningType l ≤ s.metric year warningType x.id :=
  levelsState_isReached _ _ _

theorem WarningOffice.pair_issued :
    (s.pair year warningType x e).issued ≠ [] ↔
      ∃ l, s.levelIssued x.id year.id warningType l = true := by
  show s.issuedRows year.id x.id warningType ≠ [] ↔ _
  simp only [← s.mem_issuedRows]
  constructor
  · intro hne
    obtain ⟨w, hw⟩ := List.exists_mem_of_ne_nil _ hne
    exact ⟨w.level, List.mem_map_of_mem hw⟩
  · rintro ⟨l, hl⟩
    obtain ⟨w, hw, -⟩ := List.mem_map.mp hl
    exact List.ne_nil_of_mem hw

def WarningOffice.placement? (s : WarningOffice) (year : AcademicYear) (q : EligibilityQuery)
    (candidates : List ℕ) (student : ℕ) : Option StudentEnrollment :=
  (Dict.ofList ((s.school.registry.enrollments.filter fun e =>
    q.places year e ∧ e.student ∈ candidates).map fun e => (e.student, e))).get? student

theorem WarningOffice.placement?_isSome (candidates : List ℕ) :
    (s.placement? year q candidates student).isSome ↔ student ∈ candidates ∧
      ∃ e ∈ s.school.registry.enrollments, e.student = student ∧ q.places year e = true := by
  unfold placement?
  rw [Option.isSome_iff_exists, ← Dict.mem_keys_iff, Dict.mem_keys_ofList, List.map_map]
  simp only [List.mem_map, List.mem_filter, Function.comp_apply, decide_eq_true_eq]
  constructor
  · rintro ⟨e, ⟨he, hplaces, hcandidate⟩, rfl⟩
    exact ⟨hcandidate, e, he, rfl, hplaces⟩
  · rintro ⟨hcandidate, e, he, rfl, hplaces⟩
    exact ⟨e, ⟨he, hplaces, hcandidate⟩, rfl⟩

def WarningOffice.pair? (s : WarningOffice) (year : AcademicYear) (q : EligibilityQuery)
    (warningType : WarningRuleType) (x : Student) : Option EligibilityPair :=
  (s.placement? year q (s.candidates year q) x.id).bind fun e =>
    if s.metric year warningType x.id = 0 then none else some (s.pair year warningType x e)

theorem WarningOffice.reachedPairs_eq :
    s.reachedPairs year (s.placedStudents year q (s.candidates year q)) warningType =
      ((s.school.registry.students.filter fun x => x.status = .active).filterMap
        (s.pair? year q warningType)).filter fun p => p.state.highestReachedLevel.isSome := by
  unfold reachedPairs placedStudents
  dsimp only
  rw [List.filterMap_filterMap]
  congr 2
  funext x
  unfold pair? placement?
  cases Dict.get? _ x.id with
  | none => rfl
  | some e =>
    show (if _ then _ else _) = if _ then _ else _
    simp only [s.getD_metricForStudents]
    rfl

theorem WarningOffice.pair?_eq_some
    (hx : x ∈ s.school.registry.students) (hactive : x.status = .active) {p : EligibilityPair}
    (hp : s.pair? year q warningType x = some p) :
    x ∈ s.inView year q ∧ ∃ e, p = s.pair year warningType x e := by
  obtain ⟨e, he, hp⟩ := Option.bind_eq_some_iff.mp hp
  rw [Option.ite_none_left_eq_some] at hp
  have hplaced := (placement?_isSome _).mp (Option.isSome_iff_exists.mpr ⟨e, he⟩)
  obtain ⟨-, e', he', hid, hplaces⟩ := hplaced
  refine ⟨List.mem_filter.mpr ⟨hx, ?_⟩, e, (Option.some.inj hp.2).symm⟩
  simp only [hactive, decide_true, Bool.true_and, List.any_eq_true, Bool.and_eq_true,
    decide_eq_true_eq]
  exact ⟨e', he', hid, hplaces⟩

theorem WarningOffice.exists_pair? (ht : warningType ∈ q.types) (hx : x ∈ s.inView year q)
    (hmetric : s.metric year warningType x.id ≠ 0) :
    ∃ e, s.pair? year q warningType x = some (s.pair year warningType x e) := by
  have hview := (List.mem_filter.mp hx).2
  simp only [Bool.and_eq_true, List.any_eq_true, decide_eq_true_eq] at hview
  have hcandidate : x.id ∈ s.candidates year q := (s.mem_candidates _).mpr ⟨_, ht, hmetric⟩
  have hplaced := (placement?_isSome (s.candidates year q)).mpr ⟨hcandidate, hview.2⟩
  obtain ⟨e, he⟩ := Option.isSome_iff_exists.mp hplaced
  refine ⟨e, ?_⟩
  unfold pair?
  rw [he, Option.bind_some, if_neg hmetric]

end Pairs

theorem length_filter_filterMap {α β : Type} (f : α → Option β) (P : β → Bool) (l : List α) :
    ((l.filterMap f).filter P).length = (l.filter fun a => (f a).any P).length := by
  induction l with
  | nil => rfl
  | cons a l ih =>
    rw [List.filterMap_cons, List.filter_cons]
    cases f a with
    | none => exact ih
    | some b =>
      dsimp only [Option.any_some]
      rw [List.filter_cons]
      split_ifs
      · rw [List.length_cons, List.length_cons, ih]
      · exact ih

theorem WarningOffice.length_reachedPairs (ht : warningType ∈ q.types)
    (hpositive : ∀ l, 0 < s.threshold warningType l) {P : EligibilityPair → Bool}
    {g : Student → Bool}
    (hP : ∀ x e, (P (s.pair year warningType x e) = true ∧
      ∃ l, s.threshold warningType l ≤ s.metric year warningType x.id) ↔ g x = true) :
    ((s.reachedPairs year (s.placedStudents year q (s.candidates year q)) warningType).filter
      P).length = ((s.inView year q).filter g).length := by
  rw [reachedPairs_eq, List.filter_filter, length_filter_filterMap, inView, List.filter_filter,
    List.filter_filter]
  congr 1
  refine List.filter_congr fun x hx => ?_
  rw [Bool.eq_iff_iff]
  simp only [Bool.and_eq_true, decide_eq_true_eq, Option.any_eq_true]
  constructor
  · rintro ⟨⟨p, hp, hkept, hreached⟩, hactive⟩
    obtain ⟨hview, e, rfl⟩ := pair?_eq_some hx hactive hp
    have hview' := (List.mem_filter.mp hview).2
    simp only [Bool.and_eq_true, decide_eq_true_eq] at hview'
    exact ⟨(hP x e).mp ⟨hkept, pair_isReached.mp hreached⟩, hactive, hview'.2⟩
  · rintro ⟨hg, hactive, hplaces⟩
    have hview : x ∈ s.inView year q := by
      refine List.mem_filter.mpr ⟨hx, ?_⟩
      simp only [Bool.and_eq_true, decide_eq_true_eq]
      exact ⟨hactive, hplaces⟩
    obtain ⟨enrollment, -, -⟩ := List.any_eq_true.mp hplaces
    have hmetric : s.metric year warningType x.id ≠ 0 := by
      obtain ⟨-, l, hl⟩ := (hP x enrollment).mpr hg
      have := hpositive l
      omega
    obtain ⟨e, he⟩ := exists_pair? ht hview hmetric
    have hkept := (hP x e).mpr hg
    exact ⟨⟨_, he, hkept.1, pair_isReached.mpr hkept.2⟩, hactive⟩

def WarningOffice.listed (s : WarningOffice) (year : AcademicYear) (q : EligibilityQuery) :
    List EligibilityRow :=
  s.eligibilityRows q (s.reachedPairs year (s.placedStudents year q (s.candidates year q)))

theorem WarningOffice.placedStudents_nil : s.placedStudents year q [] = [] := by
  simp [placedStudents, Dict.ofList]

theorem eligibilityDashboard_eq (hyear : s.school.activeYear = some year) (page : ℤ)
    (pageSize : ℕ) :
    eligibilityDashboard s q page pageSize = .ok
      { academicYear := year.id
        summary := q.types.map fun t => (t, eligibilityCounts
          (s.reachedPairs year (s.placedStudents year q (s.candidates year q)) t))
        results := pageOf (s.listed year q) (max page 1).toNat
          (if pageSize ∈ pageSizes then pageSize else 25)
        count := (s.listed year q).length
        page := (max page 1).toNat
        pageSize := if pageSize ∈ pageSizes then pageSize else 25 } := by
  unfold eligibilityDashboard
  rw [hyear]
  show (if s.candidates year q = [] then _ else _) = _
  split_ifs with hnone hsize
  all_goals try rfl
  all_goals
    have hpairs : s.reachedPairs year (s.placedStudents year q (s.candidates year q)) =
        fun _ => [] := by
      rw [hnone, WarningOffice.placedStudents_nil]
      rfl
    have hlisted : s.listed year q = [] := by
      unfold WarningOffice.listed WarningOffice.eligibilityRows
      rw [hpairs]
      simp
    rw [hlisted, hpairs]
    simp [pageOf, eligibilityCounts]

theorem WarningOffice.exists_listed (hnodup : (s.school.registry.students.map fun y => y.id).Nodup)
    (hpositive : ∀ t l, 0 < s.threshold t l) (hq : q.statusFilter = .due)
    (ht : warningType ∈ q.types) (hx : x ∈ s.inView year q) :
    (∃ row ∈ s.listed year q, row.studentId = x.id ∧ row.warningType = warningType ∧
      row.highestDueLevel = some level) ↔
        level.IsHighest fun l => s.isDue year x.id warningType l = true := by
  have hmem := List.mem_filter.mp hx
  have hactive : x.status = .active := by
    have hview := hmem.2
    simp only [Bool.and_eq_true, decide_eq_true_eq] at hview
    exact hview.1
  unfold listed eligibilityRows
  simp only [List.mem_flatMap, List.mem_map, List.mem_insertionSort, List.mem_filter,
    reachedPairs_eq, List.mem_filterMap]
  constructor
  · rintro ⟨row, ⟨t, -, keyed, ⟨p, ⟨⟨⟨y, hy, hp⟩, -⟩, -⟩, rfl⟩, rfl⟩, hid, htype, hlevel⟩
    obtain ⟨-, e, rfl⟩ := pair?_eq_some hy.1 (of_decide_eq_true hy.2) hp
    have hsame : y = x := Table.eq_of_key_eq hnodup hy.1 hmem.1 hid
    subst hsame
    have htype' : t = warningType := htype
    subst htype'
    exact (pair_highestDueLevel (e := e)).mp hlevel
  · intro hhighest
    have hreached : s.threshold warningType level ≤ s.metric year warningType x.id := by
      have hdue := hhighest.1
      simp only [isDue, Bool.and_eq_true, decide_eq_true_eq] at hdue
      exact hdue.1
    have hmetric : s.metric year warningType x.id ≠ 0 := by
      have := hpositive warningType level
      omega
    obtain ⟨e, he⟩ := exists_pair? ht hx hmetric
    refine ⟨(s.eligibilityRow (s.pair year warningType x e)).2, ⟨warningType, ht, _,
      ⟨_, ⟨⟨⟨x, ⟨hmem.1, decide_eq_true hactive⟩, he⟩, ?_⟩, ?_⟩, rfl⟩, rfl⟩, rfl, rfl, ?_⟩
    · exact pair_isReached.mpr ⟨level, hreached⟩
    · rw [hq]
      exact pair_isDue.mpr ⟨level, hhighest.1⟩
    · exact (pair_highestDueLevel (e := e)).mpr hhighest

def WarningOffice.accepts (s : WarningOffice) (r : IssueRequest) (now : Instant) : Bool :=
  ((issueStudentWarning r now).run s).1.isOk

def WarningOffice.snapshotFits (s : WarningOffice) (year : AcademicYear) (x : Student)
    (warningType : WarningRuleType) : Bool :=
  let rows := s.summariesOf x.id year.id
  let late := s.lateArrivalsOf x.id year
  x.fullName.length ≤ 150 && (s.placement x.id year.id).1.length ≤ 100 &&
    (s.placement x.id year.id).2.length ≤ 50 && x.nationalIdMasked.length ≤ 20 &&
    [s.metric year warningType x.id, (rows.filter fun r => r.absenceStatus = .full).length,
      (rows.filter fun r => r.isUnexcusedFullDay).length,
      (rows.filter fun r => r.absenceStatus = .full ∧ r.unexcusedAbsentPeriods = 0 ∧
        0 < r.excusedAbsentPeriods).length,
      total (fun r => r.absentPeriods) rows, total (fun r => r.unexcusedAbsentPeriods) rows,
      late.length].all (· ≤ 32767) &&
    total (fun a => a.lateness.countedLateMinutes) late ≤ 2147483647

theorem all_le_cons_of_le {a b : ℕ} (h : a ≤ b) (rest : List ℕ) (bound : ℕ) :
    (a :: b :: rest).all (fun n => n ≤ bound) = (b :: rest).all fun n => n ≤ bound := by
  rw [Bool.eq_iff_iff]
  simp only [List.all_cons, Bool.and_eq_true, decide_eq_true_eq]
  constructor
  · exact fun hall => hall.2
  · intro hall
    exact ⟨Nat.le_trans h hall.1, hall⟩

theorem issueWarning_isOk (r : IssueRequest) (now : Instant) (semester : Option ℕ)
    (hdue : s.isDue year x.id warningType level = true) :
    ((Program.transaction (issueWarning r now x year semester warningType level
      (s.threshold warningType level) (s.metric year warningType x.id))).run s).1.isOk =
        s.snapshotFits year x warningType := by
  simp only [WarningOffice.isDue, Bool.and_eq_true, decide_eq_true_eq, Bool.not_eq_true'] at hdue
  unfold issueWarning Program.transaction
  simp only [Tx.bind_eq, Program.run, Tx.eval_bind, Tx.eval_select]
  generalize hw : StudentWarning.fits _ = fits
  have hfits : fits = s.snapshotFits year x warningType := by
    rw [← hw]
    unfold StudentWarning.fits WarningOffice.snapshotFits
    dsimp only
    rw [all_le_cons_of_le hdue.1]
  rw [← hfits]
  cases fits with
  | false => rfl
  | true =>
    simp only [Bool.not_true, Bool.false_eq_true, if_false, Tx.eval_bind, Tx.eval_select,
      Tx.eval_lockRows, hdue.2]
    rfl

theorem WarningOffice.accepts_iff (hyear : s.school.activeYear = some year)
    (hnodup : (s.school.registry.students.map fun y => y.id).Nodup)
    (hx : x ∈ s.school.registry.students) (henabled : s.typeEnabled warningType = true)
    (membership : ℕ) (notes : String) (now : Instant) :
    s.accepts ⟨membership, x.id, some warningType, some level, notes⟩ now = true ↔
      s.isDue year x.id warningType level = true ∧
        s.snapshotFits year x warningType = true := by
  have hfound : s.school.student? x.id = some x :=
    (Table.find?_eq_some_iff hnodup x.id x).mpr ⟨hx, rfl⟩
  have hissue : s.accepts ⟨membership, x.id, some warningType, some level, notes⟩ now =
      ((issueLevel ⟨membership, x.id, some warningType, some level, notes⟩ now x warningType
        level).run s).1.isOk := by
    unfold accepts issueStudentWarning
    rw [Program.bind_eq, Program.run_read, hfound]
  rw [hissue]
  unfold issueLevel
  rw [Program.bind_eq, Program.run_read, hyear]
  dsimp only
  rw [Program.bind_eq, Program.run_read, henabled]
  simp only [Bool.not_true, Bool.false_eq_true, if_false, Program.bind_eq, Program.run_read]
  have htail : ∀ value, value = s.metric year warningType x.id →
      ((Program.run (if s.levelIssued x.id year.id warningType level then
          .raise warningAlreadyIssued
        else if value < s.threshold warningType level then
          .raise (levelNotReached value (s.threshold warningType level))
        else (Program.read fun s => s.activeSemester).bind fun semester =>
          Program.transaction (issueWarning ⟨membership, x.id, some warningType, some level, notes⟩
            now x year semester warningType level (s.threshold warningType level) value))
        s).1.isOk = true ↔ s.isDue year x.id warningType level = true ∧
          s.snapshotFits year x warningType = true) := by
    rintro value rfl
    by_cases hdue : s.isDue year x.id warningType level = true
    · have hparts := hdue
      simp only [isDue, Bool.and_eq_true, decide_eq_true_eq, Bool.not_eq_true'] at hparts
      rw [if_neg (by simp [hparts.2]), if_neg (by omega), Program.run_read,
        issueWarning_isOk _ now _ hdue]
      simp [hdue]
    · have hnot : ¬ (s.isDue year x.id warningType level = true ∧
          s.snapshotFits year x warningType = true) := fun h => hdue h.1
      simp only [isDue, Bool.and_eq_true, decide_eq_true_eq, Bool.not_eq_true'] at hdue
      rw [iff_false_right hnot]
      split_ifs with hissued hbelow
      · exact Bool.false_ne_true
      · exact Bool.false_ne_true
      · exact absurd ⟨Nat.le_of_not_lt hbelow, Bool.not_eq_true _ ▸ hissued⟩ hdue
  cases warningType with
  | unexcusedFullDayAbsence => exact htail _ rfl
  | morningLateOccurrences => exact htail _ rfl

/-! ## Agreement -/

structure EligibilityAgrees (s : WarningOffice) (year : AcademicYear) (q : EligibilityQuery)
    (membership : ℕ) (notes : String) (now : Instant) : Prop where
  /-- Some page shows a student and a type with a level exactly when the level would be issued and
  no higher one would. -/
  shows : ∀ x ∈ s.inView year q, ∀ t ∈ q.types, s.typeEnabled t = true → ∀ level pageSize,
    (∃ page report, eligibilityDashboard s q page pageSize = .ok report ∧
      ∃ row ∈ report.results, row.studentId = x.id ∧ row.warningType = t ∧
        row.highestDueLevel = some level) ↔
      level.IsHighest fun l => s.accepts ⟨membership, x.id, some t, some l, notes⟩ now = true
  /-- Every page counts the students for whom some level would be issued, and those who hold an
  issued warning and have reached a level. -/
  counts : ∀ page pageSize, ∃ report, eligibilityDashboard s q page pageSize = .ok report ∧
    ∀ t ∈ q.types, s.typeEnabled t = true → ∃ counts, Dict.get? report.summary t = some counts ∧
      counts.dueStudents = ((s.inView year q).filter fun x => levelOrder.any fun l =>
        s.accepts ⟨membership, x.id, some t, some l, notes⟩ now).length ∧
      counts.issuedStudents = ((s.inView year q).filter fun x =>
        (levelOrder.any fun l => s.levelIssued x.id year.id t l) &&
          levelOrder.any fun l => s.threshold t l ≤ s.metric year t x.id).length

/-- The snapshot fits of every student in view who is due a warning of an enabled type. -/
def WarningOffice.DueFit (s : WarningOffice) (year : AcademicYear) (q : EligibilityQuery) : Prop :=
  ∀ x ∈ s.inView year q, ∀ t ∈ q.types, s.typeEnabled t = true → ∀ l ∈ levelOrder,
    s.isDue year x.id t l = true → s.snapshotFits year x t = true

instance (s : WarningOffice) (year : AcademicYear) (q : EligibilityQuery) :
    Decidable (s.DueFit year q) :=
  inferInstanceAs (Decidable (∀ x ∈ s.inView year q, ∀ t ∈ q.types, s.typeEnabled t = true →
    ∀ l ∈ levelOrder, s.isDue year x.id t l = true → s.snapshotFits year x t = true))

theorem WarningOffice.exists_shown (hyear : s.school.activeYear = some year) (pageSize : ℕ)
    (P : EligibilityRow → Prop) :
    (∃ page report, eligibilityDashboard s q page pageSize = .ok report ∧
      ∃ row ∈ report.results, P row) ↔ ∃ row ∈ s.listed year q, P row := by
  constructor
  · rintro ⟨page, report, hreport, row, hrow, hP⟩
    rw [eligibilityDashboard_eq hyear] at hreport
    rw [← Except.ok.inj hreport] at hrow
    exact ⟨row, List.mem_of_mem_drop (List.mem_of_mem_take hrow), hP⟩
  · rintro ⟨row, hrow, hP⟩
    obtain ⟨page, hpage, hmem⟩ := exists_mem_pageOf (pageSize_pos pageSize) hrow
    have hmax : (max (page : ℤ) 1).toNat = page := by omega
    refine ⟨page, _, eligibilityDashboard_eq hyear page pageSize, row, ?_, hP⟩
    dsimp only
    rw [hmax]
    exact hmem

section Agreement

variable {membership : ℕ} {notes : String} {now : Instant}
  (hyear : s.school.activeYear = some year)
  (hnodup : (s.school.registry.students.map fun y => y.id).Nodup)
  (hpositive : ∀ t l, 0 < s.threshold t l) (hq : q.statusFilter = .due)

include hyear hnodup hpositive hq

theorem EligibilityAgrees.dueFit (h : EligibilityAgrees s year q membership notes now) :
    s.DueFit year q := by
  intro x hx t ht henabled l _ hdue
  have hview := (List.mem_filter.mp hx).2
  rw [Bool.and_eq_true, List.any_eq_true] at hview
  obtain ⟨e, -, -⟩ := hview.2
  have hsome := (WarningOffice.pair_isDue (e := e)).mpr ⟨l, hdue⟩
  obtain ⟨level, hlevel⟩ := Option.isSome_iff_exists.mp hsome
  have hhighest := (WarningOffice.pair_highestDueLevel (e := e)).mp hlevel
  have hshown := (WarningOffice.exists_shown hyear 25 _).mpr
    ((WarningOffice.exists_listed hnodup hpositive hq ht hx).mpr hhighest)
  have haccepted := ((h.shows x hx t ht henabled level 25).mp hshown).1
  exact ((WarningOffice.accepts_iff hyear hnodup (List.mem_filter.mp hx).1 henabled membership
    notes now).mp haccepted).2

/-- The list of who is due a warning agrees with issuance exactly when the snapshot of every
student who is due fits the columns of a warning. -/
theorem eligibility_agrees_iff (membership : ℕ) (notes : String) (now : Instant) :
    EligibilityAgrees s year q membership notes now ↔ s.DueFit year q := by
  refine ⟨EligibilityAgrees.dueFit hyear hnodup hpositive hq, fun hfit => ?_⟩
  have haccepts : ∀ x ∈ s.inView year q, ∀ t ∈ q.types, s.typeEnabled t = true → ∀ l,
      (s.accepts ⟨membership, x.id, some t, some l, notes⟩ now = true ↔
        s.isDue year x.id t l = true) := by
    intro x hx t ht henabled l
    rw [WarningOffice.accepts_iff hyear hnodup (List.mem_filter.mp hx).1 henabled]
    constructor
    · exact fun h => h.1
    · exact fun h => ⟨h, hfit x hx t ht henabled l l.mem_levelOrder h⟩
  constructor
  · intro x hx t ht henabled level pageSize
    rw [WarningOffice.exists_shown hyear pageSize,
      WarningOffice.exists_listed hnodup hpositive hq ht hx]
    exact (WarningLevel.isHighest_congr (haccepts x hx t ht henabled)).symm
  · intro page pageSize
    refine ⟨_, eligibilityDashboard_eq hyear page pageSize, fun t ht henabled => ?_⟩
    refine ⟨_, (Dict.get?_map _ q.types t).trans (if_pos ht), ?_, ?_⟩
    · unfold eligibilityCounts
      dsimp only
      rw [WarningOffice.length_reachedPairs (g := fun x => levelOrder.any fun l =>
        s.isDue year x.id t l) ht (hpositive t)]
      · congr 1
        refine List.filter_congr fun x hx => ?_
        rw [Bool.eq_iff_iff, List.any_eq_true, List.any_eq_true]
        simp only [haccepts x hx t ht henabled]
      · intro x e
        rw [WarningOffice.pair_isDue, List.any_eq_true]
        constructor
        · rintro ⟨⟨l, hl⟩, -⟩
          exact ⟨l, l.mem_levelOrder, hl⟩
        · rintro ⟨l, -, hl⟩
          refine ⟨⟨l, hl⟩, l, ?_⟩
          simp only [WarningOffice.isDue, Bool.and_eq_true, decide_eq_true_eq] at hl
          exact hl.1
    · unfold eligibilityCounts
      dsimp only
      rw [WarningOffice.length_reachedPairs (g := fun x =>
        (levelOrder.any fun l => s.levelIssued x.id year.id t l) &&
          levelOrder.any fun l => s.threshold t l ≤ s.metric year t x.id) ht (hpositive t)]
      intro x e
      rw [decide_eq_true_eq, WarningOffice.pair_issued, Bool.and_eq_true, List.any_eq_true,
        List.any_eq_true]
      simp only [WarningLevel.mem_levelOrder, true_and, decide_eq_true_eq]

end Agreement

def lateStudentYear : AcademicYear :=
  { id := 1, startDate := 100, endDate := 300, status := .active }

def lateStudentOffice (name : String) : WarningOffice :=
  { school := { registry := {
      academicYears := [lateStudentYear]
      grades := [⟨1, "الأول", "1", 1, true⟩]
      sections := [{ id := 1, grade := 1, name := "أ" }]
      students := [⟨7, "hash", "******1234", none, name, none, .active, none, none, "", "", ""⟩]
      enrollments := [⟨1, 7, 1, 1, 1, .active, 100, none⟩] } }
    arrivals := [110, 111, 112].map fun d => ⟨7, d, 0, ⟨10, 10, .late⟩, .manual, none⟩ }

/-- The longest name that the student table takes and a warning still copies. -/
theorem lateStudentOffice_agrees :
    EligibilityAgrees (lateStudentOffice (String.ofList (List.replicate 150 'ا'))) lateStudentYear {}
      2 "" 0 :=
  (eligibility_agrees_iff rfl (by decide) (fun t l => by cases t <;> cases l <;> decide) rfl
    2 "" 0).mpr (by decide +kernel)

/-- One character more: the student is listed as due and cannot be warned. -/
theorem lateStudentOffice_disagrees :
    ¬ EligibilityAgrees (lateStudentOffice (String.ofList (List.replicate 151 'ا')))
      lateStudentYear {} 2 "" 0 := by
  intro h
  have hfit := h.dueFit rfl (by decide) (fun t l => by cases t <;> cases l <;> decide) rfl
  exact absurd hfit (by decide +kernel)

end SchoolPlatform
