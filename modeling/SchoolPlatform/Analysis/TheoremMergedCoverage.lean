import SchoolPlatform.Analysis.MergeSteps
import SchoolPlatform.Analysis.SummaryFacts

/-!
# Coverage of absences that are taken over

A merge moves marks and summaries without a look at the excuses of the target. The coverage of the
target stays exact just when no source brings an absence that an approved excuse of the target
applies to, and the excused counts of its summaries agree with the coverages just when the
summaries that are kept agreed before (`mergedCoverage_exact_iff`). An absence of a source on a day
for which the target is excused is left without coverage (`excusedTarget_not_exact`).
-/

/-! ## Attendance that is taken over -/

namespace SchoolPlatform

/-- The rows that are kept are rows of the records, one of each key, and giving a row away changes
its student alone. -/
structure TakesOver {α κ : Type} (target : ℕ) (sources : List ℕ) (student : α → ℕ) (key : α → κ)
    (give : α → α) (kept rows : List α) : Prop where
  give_student : ∀ row, student (give row) = target
  give_self : ∀ row, student row = target → give row = row
  give_key : ∀ row, key (give row) = key row
  kept_rows : ∀ row ∈ kept, row ∈ rows ∧ student row ∈ target :: sources
  kept_one : ∀ row ∈ kept, ∀ row' ∈ kept, key row = key row' → row = row'

section TakeOver

variable {α κ : Type} [DecidableEq α] {target : ℕ} {sources : List ℕ} {student : α → ℕ}
variable {key : α → κ} {give : α → α} {kept rows : List α}

theorem TakesOver.mem_target_iff (h : TakesOver target sources student key give kept rows)
    {row' : α} :
    row' ∈ takeOver (target :: sources) sources student give kept rows ∧ student row' = target ↔
      ∃ row ∈ kept, give row = row' := by
  unfold takeOver
  simp only [List.mem_map, List.mem_filter, decide_eq_true_eq]
  constructor
  · rintro ⟨⟨row, ⟨-, hkept⟩, rfl⟩, howner⟩
    by_cases hsource : student row ∈ sources
    · rw [if_pos hsource]
      exact ⟨row, hkept.resolve_left (not_not.mpr (List.mem_cons_of_mem _ hsource)), rfl⟩
    · rw [if_neg hsource] at howner ⊢
      have hmem : student row ∈ target :: sources := by
        rw [howner]
        exact List.mem_cons_self
      exact ⟨row, hkept.resolve_left (not_not.mpr hmem), h.give_self row howner⟩
  · rintro ⟨row, hrow, rfl⟩
    obtain ⟨hin, hstudent⟩ := h.kept_rows row hrow
    refine ⟨⟨row, ⟨hin, .inr hrow⟩, ?_⟩, h.give_student row⟩
    split
    next => rfl
    next hsource =>
      exact (h.give_self row ((List.mem_cons.mp hstudent).resolve_right hsource)).symm

theorem TakesOver.nodup (h : TakesOver target sources student key give kept rows)
    (hrows : (rows.map fun row => (key row, student row)).Nodup) :
    ((takeOver (target :: sources) sources student give kept rows).map
      fun row => (key row, student row)).Nodup := by
  unfold takeOver
  rw [List.map_map]
  apply List.Nodup.map_on
  · intro a ha b hb hkeys
    simp only [Function.comp_apply, Prod.mk.injEq] at hkeys
    rw [List.mem_filter, decide_eq_true_eq] at ha hb
    -- What becomes of a row, by whether it is one of the records.
    have hfate : ∀ row, student row ∉ target :: sources ∨ row ∈ kept →
        key (if student row ∈ sources then give row else row) = key row ∧
          ((row ∈ kept ∧ student (if student row ∈ sources then give row else row) = target) ∨
            (student row ∉ target :: sources ∧
              student (if student row ∈ sources then give row else row) = student row)) := by
      intro row hrow
      by_cases hsource : student row ∈ sources
      · rw [if_pos hsource]
        exact ⟨h.give_key row, .inl
          ⟨hrow.resolve_left (not_not.mpr (List.mem_cons_of_mem _ hsource)), h.give_student row⟩⟩
      · rw [if_neg hsource]
        refine ⟨rfl, ?_⟩
        rcases hrow with hother | hkept
        · exact .inr ⟨hother, rfl⟩
        · have howner := (List.mem_cons.mp (h.kept_rows row hkept).2).resolve_right hsource
          exact .inl ⟨hkept, howner⟩
    obtain ⟨hka, hfa⟩ := hfate a ha.2
    obtain ⟨hkb, hfb⟩ := hfate b hb.2
    have hkey : key a = key b := by rw [← hka, hkeys.1, hkb]
    rcases hfa with ⟨hkepta, hta⟩ | ⟨hothera, hsa⟩
    · rcases hfb with ⟨hkeptb, -⟩ | ⟨hotherb, hsb⟩
      · exact h.kept_one a hkepta b hkeptb hkey
      · rw [← hsb, ← hkeys.2, hta] at hotherb
        exact absurd List.mem_cons_self hotherb
    · rcases hfb with ⟨-, htb⟩ | ⟨-, hsb⟩
      · rw [← hsa, hkeys.2, htb] at hothera
        exact absurd List.mem_cons_self hothera
      · have hstudent : student a = student b := by rw [← hsa, hkeys.2, hsb]
        exact Table.eq_of_key_eq hrows ha.1 hb.1 (by rw [hkey, hstudent])
  · exact (hrows.of_map _).filter _

end TakeOver

theorem foldl_pick_mem {α : Type} (better : α → α → Bool) (rows : List α) (best : α) :
    rows.foldl (fun best row => if better row best then row else best) best ∈ best :: rows := by
  induction rows generalizing best with
  | nil => exact List.mem_cons_self
  | cons row rows ih =>
    rw [List.foldl_cons]
    have hnext := ih (if better row best then row else best)
    rcases List.mem_cons.mp hnext with heq | hmem
    · rw [heq]
      split
      · exact List.mem_cons_of_mem _ List.mem_cons_self
      · exact List.mem_cons_self
    · exact List.mem_cons_of_mem _ (List.mem_cons_of_mem _ hmem)

theorem mem_of_chosenSummary {target : ℕ} (rows : List DailyAttendanceSummary)
    (row : DailyAttendanceSummary) (h : chosenSummary target rows = some row) : row ∈ rows := by
  cases rows with
  | nil => cases h
  | cons first rows =>
    cases h
    exact foldl_pick_mem _ rows first

theorem exists_chosenSummary (target : ℕ) {rows : List DailyAttendanceSummary} (h : rows ≠ []) :
    ∃ row, chosenSummary target rows = some row := by
  cases rows with
  | nil => exact absurd rfl h
  | cons first rows => exact ⟨_, rfl⟩

theorem mem_of_chosenMark {target : ℕ} (rows : List AttendanceMark) (row : AttendanceMark)
    (h : chosenMark target rows = some row) : row ∈ rows := by
  unfold chosenMark at h
  rcases Option.or_eq_some_iff.mp h with hfind | ⟨-, hhead⟩
  · exact List.mem_of_find?_eq_some hfind
  · exact List.mem_of_head? hhead

theorem exists_chosenMark (target : ℕ) {rows : List AttendanceMark} (h : rows ≠ []) :
    ∃ row, chosenMark target rows = some row := by
  cases rows with
  | nil => exact absurd rfl h
  | cons first rows =>
    unfold chosenMark
    cases List.find? (fun row : AttendanceMark => row.student = target) (first :: rows) with
    | none => exact ⟨first, rfl⟩
    | some row => exact ⟨row, rfl⟩

variable {o : Office} {today : Date} {now : Instant} {target : ℕ} {sources : List ℕ}

def mergedSchool (o : Office) (now : Instant) (today : Date) (target : ℕ) (sources : List ℕ) :
    School :=
  (mergePlan today target sources o).apply now today target sources o.school

theorem applyManualMerge_of_ready {plan : MergePlan}
    (hplan : buildManualMergePlan today (target :: sources) o = .ok plan)
    (hready : plan.blockers = []) :
    applyManualMerge now today ⟨target :: sources, plan.revision⟩ o =
      .ok { o with school := mergedSchool o now today target sources } := by
  obtain ⟨-, rfl⟩ := buildManualMergePlan_eq_ok hplan
  unfold applyManualMerge
  simp only [hplan, hready, ne_eq, not_true_eq_false, or_self, if_false]
  rfl

def School.marksOfRecords (s : School) (ids : List ℕ) (session : ℕ) : List AttendanceMark :=
  (s.marks.filter fun row => row.student ∈ ids).filter fun row => row.session = session

def School.summariesOfRecords (s : School) (ids : List ℕ) (d : Date) :
    List DailyAttendanceSummary :=
  (s.summaries.filter fun row => row.student ∈ ids).filter fun row => row.attendanceDate = d

theorem School.mem_marksOfRecords {s : School} {ids : List ℕ} {session : ℕ} {m : AttendanceMark} :
    m ∈ s.marksOfRecords ids session ↔ m ∈ s.marks ∧ m.student ∈ ids ∧ m.session = session := by
  unfold School.marksOfRecords
  simp only [List.mem_filter, decide_eq_true_eq, and_assoc]

theorem School.mem_summariesOfRecords {s : School} {ids : List ℕ} {d : Date}
    {r : DailyAttendanceSummary} :
    r ∈ s.summariesOfRecords ids d ↔
      r ∈ s.summaries ∧ r.student ∈ ids ∧ r.attendanceDate = d := by
  unfold School.summariesOfRecords
  simp only [List.mem_filter, decide_eq_true_eq, and_assoc]

theorem mergePlan_keptMarks (o : Office) (today : Date) (target : ℕ) (sources : List ℕ) :
    (mergePlan today target sources o).keptMarks =
      (Dict.groupBy (fun row => row.session)
        (o.school.marks.filter fun row => row.student ∈ target :: sources)).filterMap
          fun entry => chosenMark target entry.2 := by
  unfold mergePlan
  simp only
  split <;> rfl

theorem mergePlan_keptSummaries (o : Office) (today : Date) (target : ℕ) (sources : List ℕ) :
    (mergePlan today target sources o).keptSummaries =
      (Dict.groupBy (fun row => row.attendanceDate)
        (o.school.summaries.filter fun row => row.student ∈ target :: sources)).filterMap
          fun entry => chosenSummary target entry.2 := by
  unfold mergePlan
  simp only
  split <;> rfl

theorem mem_keptMarks {m : AttendanceMark} :
    m ∈ (mergePlan today target sources o).keptMarks ↔
      ∃ session, chosenMark target (o.school.marksOfRecords (target :: sources) session) =
        some m := by
  rw [mergePlan_keptMarks]
  exact Dict.mem_chosen rfl

theorem mem_keptSummaries {r : DailyAttendanceSummary} :
    r ∈ (mergePlan today target sources o).keptSummaries ↔
      ∃ d, chosenSummary target (o.school.summariesOfRecords (target :: sources) d) = some r := by
  rw [mergePlan_keptSummaries]
  exact Dict.mem_chosen rfl

theorem marks_takesOver (o : Office) (today : Date) (target : ℕ) (sources : List ℕ) :
    TakesOver target sources (fun row : AttendanceMark => row.student) (fun row => row.session)
      (fun row => { row with student := target }) (mergePlan today target sources o).keptMarks
      o.school.marks where
  give_student _ := rfl
  give_self row h := by rw [← h]
  give_key _ := rfl
  kept_rows row hrow := by
    obtain ⟨session, hchosen⟩ := mem_keptMarks.mp hrow
    obtain ⟨hmem, hstudent, -⟩ := School.mem_marksOfRecords.mp (mem_of_chosenMark _ _ hchosen)
    exact ⟨hmem, hstudent⟩
  kept_one row hrow row' hrow' hkey := by
    rw [mergePlan_keptMarks] at hrow hrow'
    exact Dict.eq_of_mem_chosen mem_of_chosenMark rfl hrow hrow' hkey

theorem summaries_takesOver (o : Office) (today : Date) (target : ℕ) (sources : List ℕ) :
    TakesOver target sources (fun row : DailyAttendanceSummary => row.student)
      (fun row => row.attendanceDate) (fun row => { row with student := target })
      (mergePlan today target sources o).keptSummaries o.school.summaries where
  give_student _ := rfl
  give_self row h := by rw [← h]
  give_key _ := rfl
  kept_rows row hrow := by
    obtain ⟨d, hchosen⟩ := mem_keptSummaries.mp hrow
    obtain ⟨hmem, hstudent, -⟩ :=
      School.mem_summariesOfRecords.mp (mem_of_chosenSummary _ _ hchosen)
    exact ⟨hmem, hstudent⟩
  kept_one row hrow row' hrow' hkey := by
    rw [mergePlan_keptSummaries] at hrow hrow'
    exact Dict.eq_of_mem_chosen mem_of_chosenSummary rfl hrow hrow' hkey

theorem mem_mergedSchool_marks {m : AttendanceMark} :
    m ∈ (mergedSchool o now today target sources).marks ∧ m.student = target ↔
      ∃ row ∈ (mergePlan today target sources o).keptMarks,
        ({ row with student := target } : AttendanceMark) = m :=
  (marks_takesOver o today target sources).mem_target_iff

theorem mem_mergedSchool_summaries {r : DailyAttendanceSummary} :
    r ∈ (mergedSchool o now today target sources).summaries ∧ r.student = target ↔
      ∃ row ∈ (mergePlan today target sources o).keptSummaries,
        ({ row with student := target } : DailyAttendanceSummary) = r :=
  (summaries_takesOver o today target sources).mem_target_iff

theorem mergedSchool_markFacts (session : ℕ) (status : AttendanceMarkStatus) :
    (∃ m ∈ (mergedSchool o now today target sources).marks,
        m.student = target ∧ m.session = session ∧ m.status = status) ↔
      ∃ m ∈ o.school.marks, m.student ∈ target :: sources ∧ m.session = session ∧
        m.status = status := by
  constructor
  · rintro ⟨m, hm, howner, hsession, hstatus⟩
    obtain ⟨row, hrow, rfl⟩ := mem_mergedSchool_marks.mp ⟨hm, howner⟩
    obtain ⟨hin, hstudent⟩ := (marks_takesOver o today target sources).kept_rows row hrow
    exact ⟨row, hin, hstudent, hsession, hstatus⟩
  · rintro ⟨m, hm, hstudent, hsession, hstatus⟩
    have hmem : m ∈ o.school.marksOfRecords (target :: sources) session :=
      School.mem_marksOfRecords.mpr ⟨hm, hstudent, hsession⟩
    obtain ⟨row, hchosen⟩ := exists_chosenMark target (List.ne_nil_of_mem hmem)
    have hrow : row.session = session :=
      (School.mem_marksOfRecords.mp (mem_of_chosenMark _ _ hchosen)).2.2
    have hkept : ({ row with student := target } : AttendanceMark) ∈
          (mergedSchool o now today target sources).marks ∧
        ({ row with student := target } : AttendanceMark).student = target :=
      mem_mergedSchool_marks.mpr ⟨row, mem_keptMarks.mpr ⟨session, hchosen⟩, rfl⟩
    refine ⟨_, hkept.1, hkept.2, hrow, ?_⟩
    rw [row.status.eq_absent, ← hstatus, m.status.eq_absent]

theorem MergePlan.Clear.facts_eq {active : StudentEnrollment}
    (h : MergePlan.Clear o today target sources active) {d : Date}
    {r r' : DailyAttendanceSummary} (hr : r ∈ o.school.summariesOfRecords (target :: sources) d)
    (hr' : r' ∈ o.school.summariesOfRecords (target :: sources) d) :
    r.attendanceFacts = r'.attendanceFacts := by
  have hattendance := h.attendance
  unfold attendanceBlockers at hattendance
  simp only [List.append_eq_nil_iff, ite_nil_eq_nil, not_not, List.map_eq_nil_iff,
    List.filter_eq_nil_iff] at hattendance
  have hentry : (d, o.school.summariesOfRecords (target :: sources) d) ∈
      Dict.groupBy (fun row => row.attendanceDate)
        (o.school.summaries.filter fun row => row.student ∈ target :: sources) :=
    (Dict.mem_groupBy _ _ _ _).mpr ⟨List.ne_nil_of_mem hr, rfl⟩
  have hagree := hattendance.1 _ hentry
  simp only [dayConflicts, Bool.and_eq_true, Bool.or_eq_true, decide_eq_true_eq, not_and_or,
    not_or, not_lt, not_not] at hagree
  rcases hagree with hone | ⟨hfacts, -⟩
  · cases hrows : o.school.summariesOfRecords (target :: sources) d with
    | nil => exact absurd hrows (List.ne_nil_of_mem hr)
    | cons first rest =>
      rw [hrows] at hone hr hr'
      have hrest : rest = [] := by
        apply List.eq_nil_of_length_eq_zero
        simp only [List.length_cons] at hone
        omega
      rw [hrest, List.mem_singleton] at hr hr'
      rw [hr, hr']
  · obtain ⟨facts, hsingle⟩ := List.length_eq_one_iff.mp hfacts
    have hmem : ∀ x ∈ o.school.summariesOfRecords (target :: sources) d,
        x.attendanceFacts = facts := by
      intro x hx
      have hin : x.attendanceFacts ∈ ((o.school.summariesOfRecords (target :: sources) d).map
          DailyAttendanceSummary.attendanceFacts).dedup :=
        List.mem_dedup.mpr (List.mem_map_of_mem hx)
      rw [hsingle] at hin
      exact List.mem_singleton.mp hin
    rw [hmem r hr, hmem r' hr']

/-- A student registered twice, in two sections: the second record is marked absent on day 10. -/
def twoRecords (status : AbsenceExcuseStatus) : Office where
  school :=
    { registry :=
        { academicYears := [⟨1, 1, 300, .active, none⟩]
          grades := [⟨1, "first", "1", 1, true⟩]
          sections := [⟨2, 1, "a", "1", "", true⟩, ⟨3, 1, "b", "2", "", true⟩]
          students :=
            [ { id := 5
                nationalIdLookupHash := "hash"
                nationalIdMasked := "******0001"
                studentNumber := none
                fullName := "first student"
                mergedInto := none
                status := .active
                statusChangedAt := none
                exitDate := none
                exitReason := "" },
              { id := 6
                nationalIdLookupHash := "other hash"
                nationalIdMasked := "******0002"
                studentNumber := none
                fullName := "first student"
                mergedInto := none
                status := .active
                statusChangedAt := none
                exitDate := none
                exitReason := "" } ]
          enrollments := [⟨7, 5, 1, 1, 2, .active, 1, none⟩, ⟨8, 6, 1, 1, 3, .active, 1, none⟩] }
      sessions := [⟨1, 1, 3, 10, 1, .submitted, ⟨[6]⟩, some 1, some 0, 0⟩]
      marks := [⟨1, 6, .absent⟩]
      excuses := [⟨1, 5, status, 0, some 0, none, none⟩]
      targets := [⟨1, 10, none⟩]
      summaries := [⟨6, 10, 1, 3, 1, 1, 1, 0, 0, 1, .complete, .full, 0⟩] }
  nextId := 10

theorem twoRecords_keyed (status : AbsenceExcuseStatus) : (twoRecords status).school.Keyed where
  session_ids := List.nodup_singleton _
  session_slots := List.nodup_singleton _
  excuse_ids := List.nodup_singleton _
  target_excuse := by simp [twoRecords]
  mark_keys := List.nodup_singleton _
  mark_session := by simp [twoRecords]
  coverage_ids := List.nodup_nil
  coverage_next := by simp [twoRecords]
  coverage_key := by simp [twoRecords, School.Active]

theorem twoRecords_plan (status : AbsenceExcuseStatus) :
    buildManualMergePlan 30 [5, 6] (twoRecords status) =
      .ok (mergePlan 30 5 [6] (twoRecords status)) := by
  unfold buildManualMergePlan
  simp only
  rw [if_neg (by decide), if_neg (by cases status <;> decide)]

theorem twoRecords_ready (status : AbsenceExcuseStatus) :
    (mergePlan 30 5 [6] (twoRecords status)).blockers = [] := by
  cases status <;> decide +kernel

variable {o : Office} {s : School} {today : Date} {now : Instant} {target student : ℕ}
variable {sources ids : List ℕ}

/-- The absences of the student that the approved excuses are for are those that are covered. -/
def School.ExactFor (s : School) (student : ℕ) : Prop :=
  ∀ x ∈ s.sessions, (s.Covered x.id student ↔ s.Justified x student)

def School.excusedAbsences (s : School) (sectionId : ℕ) (d : Date) (student : ℕ) : ℕ :=
  ((s.absencesOf sectionId d student).filter fun m =>
    s.coverageTaken (m.session, m.student)).length

/-- The excused counts of the summaries of the student agree with the coverages. -/
def School.ExcusedRight (s : School) (student : ℕ) : Prop :=
  ∀ r ∈ s.summaries, r.student = student →
    r.excusedAbsentPeriods = s.excusedAbsences r.sectionId r.attendanceDate student

/-- A source is marked absent in a session that an approved excuse of the target applies to, and
that the target itself has no mark in. -/
def School.BringsExcused (s : School) (target : ℕ) (sources : List ℕ) : Prop :=
  ∃ x ∈ s.sessions, x.status = .submitted ∧
    s.Excused target x.attendanceDate x.periodSequence ∧
    (∃ id ∈ sources, s.Absent x.id id) ∧ ¬ s.Absent x.id target

/-- The summary that is kept of a day counts the covered absences of the target. -/
def School.KeepsExcused (s : School) (target : ℕ) (ids : List ℕ) : Prop :=
  ∀ d r, chosenSummary target (s.summariesOfRecords ids d) = some r →
    r.excusedAbsentPeriods = s.excusedAbsences r.sectionId r.attendanceDate target

/-! ## What the merge leaves -/

theorem absent_mergedSchool (session : ℕ) :
    (mergedSchool o now today target sources).Absent session target ↔
      ∃ id ∈ target :: sources, o.school.Absent session id := by
  have hfacts := @mergedSchool_markFacts o today now target sources session .absent
  constructor
  · rintro ⟨m, hm, hsession, howner, hstatus⟩
    obtain ⟨m', hm', hstudent, hsession', hstatus'⟩ := hfacts.mp ⟨m, hm, howner, hsession, hstatus⟩
    exact ⟨m'.student, hstudent, m', hm', hsession', rfl, hstatus'⟩
  · rintro ⟨id, hid, m, hm, hsession, howner, hstatus⟩
    obtain ⟨m', hm', howner', hsession', hstatus'⟩ :=
      hfacts.mpr ⟨m, hm, howner ▸ hid, hsession, hstatus⟩
    exact ⟨m', hm', hsession', howner', hstatus'⟩

theorem covered_mergedSchool (session student : ℕ) :
    (mergedSchool o now today target sources).Covered session student ↔
      o.school.Covered session student := Iff.rfl

theorem mergedSchool_keyed (h : o.school.Keyed) :
    (mergedSchool o now today target sources).Keyed where
  session_ids := h.session_ids
  session_slots := h.session_slots
  excuse_ids := h.excuse_ids
  target_excuse := h.target_excuse
  mark_keys := (marks_takesOver o today target sources).nodup h.mark_keys
  mark_session := by
    intro m hm
    have htaken : m ∈ takeOver (target :: sources) sources (fun row => row.student)
        (fun row => { row with student := target })
        (mergePlan today target sources o).keptMarks o.school.marks := hm
    unfold takeOver at htaken
    obtain ⟨row, hrow, rfl⟩ := List.mem_map.mp htaken
    obtain ⟨x, hx, hid⟩ := h.mark_session row (List.mem_of_mem_filter hrow)
    refine ⟨x, hx, ?_⟩
    rw [hid]
    split <;> rfl
  coverage_ids := h.coverage_ids
  coverage_next := h.coverage_next
  coverage_key := h.coverage_key

theorem exactFor_mergedSchool_iff (hexact : o.school.ExactFor target) :
    (mergedSchool o now today target sources).ExactFor target ↔
      ¬ o.school.BringsExcused target sources := by
  constructor
  · rintro hafter ⟨x, hx, hsubmitted, hexcused, ⟨id, hid, habsent⟩, hnot⟩
    have hjustified : (mergedSchool o now today target sources).Justified x target :=
      ⟨hsubmitted, (absent_mergedSchool x.id).mpr ⟨id, List.mem_cons_of_mem _ hid, habsent⟩,
        hexcused⟩
    have hcovered : o.school.Covered x.id target := (hafter x hx).mpr hjustified
    exact hnot ((hexact x hx).mp hcovered).2.1
  · intro hnone x hx
    have hbefore : o.school.Covered x.id target ↔ o.school.Justified x target := hexact x hx
    have hsame : (mergedSchool o now today target sources).Justified x target ↔
        o.school.Justified x target := by
      constructor
      · rintro ⟨hsubmitted, habsent, hexcused⟩
        refine ⟨hsubmitted, ?_, hexcused⟩
        by_contra hnot
        obtain ⟨id, hid, hid'⟩ := (absent_mergedSchool x.id).mp habsent
        rcases List.mem_cons.mp hid with rfl | hid
        · exact hnot hid'
        · exact hnone ⟨x, hx, hsubmitted, hexcused, ⟨id, hid, hid'⟩, hnot⟩
      · rintro ⟨hsubmitted, habsent, hexcused⟩
        exact ⟨hsubmitted,
          (absent_mergedSchool x.id).mpr ⟨target, List.mem_cons_self, habsent⟩, hexcused⟩
    rw [covered_mergedSchool, hsame]
    exact hbefore

theorem excusedAbsences_mergedSchool (hkeys : o.school.Keyed) (hexact : o.school.ExactFor target)
    (sectionId : ℕ) (d : Date) :
    (mergedSchool o now today target sources).excusedAbsences sectionId d target =
      o.school.excusedAbsences sectionId d target := by
  unfold School.excusedAbsences
  rw [(mergedSchool_keyed hkeys).length_excusedOf, hkeys.length_excusedOf]
  have hids : (mergedSchool o now today target sources).submittedIds sectionId d =
      o.school.submittedIds sectionId d := rfl
  rw [hids]
  congr 1
  apply List.filter_congr
  intro session hsession
  rw [Bool.eq_iff_iff, Bool.and_eq_true, Bool.and_eq_true, School.isAbsent_iff,
    School.isAbsent_iff, School.coverageTaken_pair_iff, School.coverageTaken_pair_iff,
    covered_mergedSchool]
  obtain ⟨x, hx, rfl⟩ := List.mem_map.mp hsession
  constructor
  · rintro ⟨-, hcovered⟩
    exact ⟨((hexact x (List.mem_of_mem_filter hx)).mp hcovered).2.1, hcovered⟩
  · rintro ⟨habsent, hcovered⟩
    exact ⟨(absent_mergedSchool x.id).mpr ⟨target, List.mem_cons_self, habsent⟩, hcovered⟩

theorem excusedRight_mergedSchool_iff (hkeys : o.school.Keyed)
    (hexact : o.school.ExactFor target) :
    (mergedSchool o now today target sources).ExcusedRight target ↔
      o.school.KeepsExcused target (target :: sources) := by
  constructor
  · intro hright d r hchosen
    obtain ⟨hmem, howner⟩ := (@mem_mergedSchool_summaries _ _ now _ _ _).mpr
      ⟨r, mem_keptSummaries.mpr ⟨d, hchosen⟩, rfl⟩
    have hcount := hright _ hmem howner
    rw [excusedAbsences_mergedSchool hkeys hexact] at hcount
    exact hcount
  · intro hkeeps r hr howner
    obtain ⟨row, hrow, rfl⟩ := mem_mergedSchool_summaries.mp ⟨hr, howner⟩
    obtain ⟨d, hchosen⟩ := mem_keptSummaries.mp hrow
    rw [excusedAbsences_mergedSchool hkeys hexact]
    exact hkeeps d row hchosen

/-- **Coverage after a merge.** -/
theorem mergedCoverage_exact_iff (now : Instant) {plan : MergePlan} (hkeys : o.school.Keyed)
    (hplan : buildManualMergePlan today (target :: sources) o = .ok plan)
    (hready : plan.blockers = []) (hexact : o.school.ExactFor target) :
    (∃ o', applyManualMerge now today ⟨target :: sources, plan.revision⟩ o = .ok o' ∧
        o'.school.ExactFor target ∧ o'.school.ExcusedRight target) ↔
      ¬ o.school.BringsExcused target sources ∧
        o.school.KeepsExcused target (target :: sources) := by
  rw [applyManualMerge_of_ready hplan hready]
  rw [← @exactFor_mergedSchool_iff _ today now _ _ hexact,
    ← @excusedRight_mergedSchool_iff _ today now _ _ hkeys hexact]
  constructor
  · rintro ⟨o', hok, hafter⟩
    cases hok
    exact hafter
  · exact fun hafter => ⟨_, rfl, hafter⟩

theorem twoRecords_exactFor (status : AbsenceExcuseStatus) :
    (twoRecords status).school.ExactFor 5 := by
  simp [School.ExactFor, School.Covered, School.Justified, School.Active, School.Absent,
    twoRecords]

/-- While the excuse waits for a decision, nothing is uncovered. -/
theorem mergedCoverage_exact_pending :
    ∃ o', applyManualMerge 0 30 ⟨[5, 6], (mergePlan 30 5 [6] (twoRecords .pending)).revision⟩
        (twoRecords .pending) = .ok o' ∧ o'.school.ExactFor 5 ∧ o'.school.ExcusedRight 5 := by
  apply (mergedCoverage_exact_iff 0 (twoRecords_keyed .pending) (twoRecords_plan .pending)
    (twoRecords_ready .pending) (twoRecords_exactFor .pending)).mpr
  constructor
  · simp [School.BringsExcused, School.Excused, twoRecords]
  · intro d r hchosen
    obtain ⟨hr, -, -⟩ := School.mem_summariesOfRecords.mp (mem_of_chosenSummary _ _ hchosen)
    have hrow : r = ⟨6, 10, 1, 3, 1, 1, 1, 0, 0, 1, .complete, .full, 0⟩ := List.mem_singleton.mp hr
    rw [hrow]
    decide

/-- The excuse is approved, the merge goes through, and the absence that the target takes over has
no coverage. -/
theorem excusedTarget_not_exact :
    (twoRecords .approved).school.ExactFor 5 ∧
    ∃ plan o', buildManualMergePlan 30 [5, 6] (twoRecords .approved) = .ok plan ∧
      plan.blockers = [] ∧
      applyManualMerge 0 30 ⟨[5, 6], plan.revision⟩ (twoRecords .approved) = .ok o' ∧
      ¬ o'.school.ExactFor 5 := by
  have hexact := twoRecords_exactFor .approved
  refine ⟨hexact, _, _, twoRecords_plan .approved, twoRecords_ready .approved,
    applyManualMerge_of_ready (twoRecords_plan .approved) (twoRecords_ready .approved), ?_⟩
  rw [exactFor_mergedSchool_iff hexact, not_not]
  refine ⟨_, List.mem_cons_self, rfl, ?_, ⟨6, List.mem_cons_self, ?_⟩, ?_⟩
  · exact ⟨_, List.mem_cons_self, rfl, rfl, _, List.mem_cons_self, rfl, rfl, rfl⟩
  · exact ⟨_, List.mem_cons_self, rfl, rfl, rfl⟩
  · simp [School.Absent, twoRecords]

end SchoolPlatform
