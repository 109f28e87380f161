import SchoolPlatform.Analysis.TheoremAcademicCalendar

/-!
# What the application of a calendar leaves

Ensuring the year of a calendar finds or creates it, gives it and its semesters the dates of the
calendar, and keeps every status (`Ensured`). After that the year is prepared (`Prepared`), whatever
statuses change later, and ensuring it again changes nothing.
-/

namespace SchoolPlatform.Academics

open Fallible

variable {s s' t : Calendars} {school snapshotId id : ℕ} {name : Text} {dates : ReadyDates}
  {today : Date}

variable {x : Semester} {j : ℕ} {y : AcademicYear} {sequence : ℕ}

/-! ## The year of a calendar -/

def AcademicYear.Open (y : AcademicYear) : Prop := y.status ≠ .closed ∧ y.status ≠ .archived

structure Placed (school : ℕ) (dates : ReadyDates) (id : ℕ) (s s' : Calendars) : Prop where
  others : ∀ j, j ≠ id → s'.years.get? j = s.years.get? j
  before : ∀ y, s.years.get? id = some y →
    y.school = school ∧ y.startDate = dates.yearStart ∧ y.Open
  only : ∀ j y, s.years.get? j = some y → y.school = school → y.startDate = dates.yearStart → j = id
  after : ∃ y, s'.years.get? id = some y ∧ y.school = school ∧ y.startDate = dates.yearStart ∧
    y.endDate = dates.yearEnd ∧
    y.status = ((s.years.get? id).map AcademicYear.status).getD .upcoming
  kept : ∀ j x, s.semesters.get? j = some x → s'.semesters.get? j = some (x.moved id dates) ∧
    (x.academicYear = id → x.sequence = 1 ∨ x.sequence = 2)
  added : ∀ j x, s'.semesters.get? j = some x → s.semesters.get? j = none →
    x.academicYear = id ∧ x.status = .upcoming ∧ (x.sequence = 1 ∨ x.sequence = 2) ∧
      (x.startDate, x.endDate) = dates.semester x.sequence

theorem Semester.moved_of_ne (h : x.academicYear ≠ id) : x.moved id dates = x :=
  if_neg h

theorem Semester.moved_of_dates
    (h : x.academicYear = id → (x.startDate, x.endDate) = dates.semester x.sequence) :
    x.moved id dates = x := by
  unfold Semester.moved
  split
  · rename_i hid
    rw [← h hid]
  · rfl

theorem createYear_ok {startDate endDate : Date}
    (h : createYear school name startDate endDate false s = .ok (id, s')) :
    id = s.nextId ∧ s' = { s with
      years := s.years ++ [(s.nextId,
        { school := school, name := name, startDate := startDate, endDate := endDate })]
      nextId := s.nextId + 1 } := by
  unfold createYear at h
  obtain ⟨u, -, h⟩ := bind_eq_ok.mp h
  obtain ⟨⟨newId, s₁⟩, hinsert, h⟩ := bind_eq_ok.mp h
  dsimp only at h
  obtain ⟨s₂, hsame, h⟩ := bind_eq_ok.mp h
  cases h
  cases hsame
  unfold Calendars.insertYear at hinsert
  obtain ⟨u, -, hinsert⟩ := bind_eq_ok.mp hinsert
  cases hinsert
  exact ⟨rfl, rfl⟩

theorem Calendars.Sound.fresh_year (hs : s.Sound) : s.years.get? s.nextId = none :=
  Dict.get?_eq_none fun p hp => Nat.ne_of_lt (hs.freshYears p hp)

theorem Calendars.Sound.semester_of_fresh (hs : s.Sound) (hx : s.semesters.get? j = some x) :
    x.academicYear ≠ s.nextId := by
  intro hyear
  obtain ⟨y, hy, -⟩ := hs.within (j, x) (hs.mem_semester.mpr hx)
  have hsome : s.years.get? x.academicYear = some y := hy
  rw [hyear, hs.fresh_year] at hsome
  cases hsome

theorem placed_createYear (hs : s.Sound)
    (hnone : ∀ j y, s.years.get? j = some y → y.school = school → y.startDate ≠ dates.yearStart)
    (h : createYear school name dates.yearStart dates.yearEnd false s = .ok (id, s')) :
    Placed school dates id s s' := by
  obtain ⟨rfl, rfl⟩ := createYear_ok h
  refine ⟨?_, ?_, ?_, ?_, ?_, ?_⟩
  · intro j hj
    dsimp only
    rw [Dict.get?_append_singleton, if_neg (Ne.symm hj), Option.or_none]
  · intro y hy
    rw [hs.fresh_year] at hy
    cases hy
  · intro j y hy hschool hstart
    exact absurd hstart (hnone j y hy hschool)
  · refine ⟨{ school := school
              name := name
              startDate := dates.yearStart
              endDate := dates.yearEnd }, ?_, rfl, rfl, rfl, ?_⟩
    · dsimp only
      rw [Dict.get?_append_singleton, hs.fresh_year, if_pos rfl, Option.none_or]
    · rw [hs.fresh_year]
      rfl
  · intro j x hx
    have hne := hs.semester_of_fresh hx
    rw [Semester.moved_of_ne hne]
    exact ⟨hx, fun hyear => absurd hyear hne⟩
  · intro j x hx hnew
    dsimp only at hx
    rw [hnew] at hx
    cases hx

theorem sequence_of_hasTwoTerms (hs : s.Sound) (h : s.hasTwoTerms id = true)
    (hx : s.semesters.get? j = some x) (hyear : x.academicYear = id) :
    x.sequence = 1 ∨ x.sequence = 2 := by
  unfold Calendars.hasTwoTerms at h
  rw [Bool.and_eq_true, List.all_eq_true] at h
  have hmem : (j, x) ∈ s.semestersOf id :=
    List.mem_filter.mpr ⟨hs.mem_semester.mpr hx, decide_eq_true hyear⟩
  exact of_decide_eq_true (h.2 (j, x) hmem)

structure MatchesDates (s : Calendars) (id : ℕ) (y : AcademicYear) (dates : ReadyDates) : Prop where
  year : y.startDate = dates.yearStart ∧ y.endDate = dates.yearEnd
  terms : s.hasTwoTerms id = true
  semesters : ∀ j x, s.semesters.get? j = some x → x.academicYear = id →
    (x.startDate, x.endDate) = dates.semester x.sequence

theorem matches_iff (hs : s.Sound) : s.matches id y dates = true ↔ MatchesDates s id y dates := by
  unfold Calendars.matches
  rw [Bool.and_eq_true, Bool.and_eq_true, decide_eq_true_eq, List.all_eq_true, Prod.mk.injEq]
  constructor
  · rintro ⟨⟨hyear, hterms⟩, hall⟩
    refine ⟨hyear, hterms, ?_⟩
    intro j x hx hid
    have hmem : (j, x) ∈ s.semestersOf id :=
      List.mem_filter.mpr ⟨hs.mem_semester.mpr hx, decide_eq_true hid⟩
    exact of_decide_eq_true (hall (j, x) hmem)
  · intro h
    refine ⟨⟨h.year, h.terms⟩, ?_⟩
    intro p hp
    obtain ⟨hmem, hid⟩ := List.mem_filter.mp hp
    exact decide_eq_true (h.semesters p.1 p.2 (hs.mem_semester.mp hmem) (of_decide_eq_true hid))

theorem Calendars.Sound.only_candidate (hs : s.Sound)
    (hfound : (s.years.filter fun p => p.2.school = school ∧ p.2.startDate = dates.yearStart) =
      [(id, y)]) : s.years.get? id = some y ∧ y.school = school ∧ y.startDate = dates.yearStart ∧
      ∀ j y', s.years.get? j = some y' → y'.school = school → y'.startDate = dates.yearStart →
        j = id := by
  have hmem : (id, y) ∈ s.years.filter fun p =>
      p.2.school = school ∧ p.2.startDate = dates.yearStart := by
    rw [hfound]
    exact List.mem_cons_self
  obtain ⟨hyear, hcond⟩ := List.mem_filter.mp hmem
  rw [decide_eq_true_eq] at hcond
  refine ⟨hs.mem_year.mp hyear, hcond.1, hcond.2, ?_⟩
  intro j y' hy' hschool hstart
  have hother : (j, y') ∈ s.years.filter fun p =>
      p.2.school = school ∧ p.2.startDate = dates.yearStart :=
    List.mem_filter.mpr ⟨hs.mem_year.mpr hy', decide_eq_true ⟨hschool, hstart⟩⟩
  rw [hfound, List.mem_singleton] at hother
  exact congrArg Prod.fst hother

theorem placed_same (hs : s.Sound) (hget : s.years.get? id = some y) (hschool : y.school = school)
    (hopen : y.Open) (h : MatchesDates s id y dates)
    (honly : ∀ j y', s.years.get? j = some y' → y'.school = school → y'.startDate =
      dates.yearStart → j = id) : Placed school dates id s s := by
  refine ⟨fun _ _ => rfl, ?_, honly, ⟨y, hget, hschool, h.year.1, h.year.2, ?_⟩, ?_, ?_⟩
  · intro y' hy'
    rw [hget, Option.some.injEq] at hy'
    rw [← hy']
    exact ⟨hschool, h.year.1, hopen⟩
  · rw [hget]
    rfl
  · intro j x hx
    rw [Semester.moved_of_dates (h.semesters j x hx)]
    exact ⟨hx, sequence_of_hasTwoTerms hs h.terms hx⟩
  · intro j x hx hnone
    rw [hnone] at hx
    cases hx

theorem placed_setDates (hs : s.Sound) (hget : s.years.get? id = some y)
    (hschool : y.school = school) (hstart : y.startDate = dates.yearStart) (hopen : y.Open)
    (hterms : s.hasTwoTerms id = true)
    (honly : ∀ j y', s.years.get? j = some y' → y'.school = school → y'.startDate =
      dates.yearStart → j = id) : Placed school dates id s (s.setDates id dates) := by
  have hyears : ∀ j, (s.setDates id dates).years.get? j = if j = id then (s.years.get? j).map
      (AcademicYear.moved dates) else s.years.get? j :=
    fun j => Dict.get?_adjust s.years id j (AcademicYear.moved dates)
  have hsemesters : ∀ j, (s.setDates id dates).semesters.get? j =
      (s.semesters.get? j).map (Semester.moved id dates) :=
    fun j => Dict.get?_mapValues (fun _ => Semester.moved id dates) s.semesters j
  refine ⟨?_, ?_, honly, ⟨y.moved dates, ?_, hschool, rfl, rfl, ?_⟩, ?_, ?_⟩
  · intro j hj
    rw [hyears, if_neg hj]
  · intro y' hy'
    rw [hget, Option.some.injEq] at hy'
    rw [← hy']
    exact ⟨hschool, hstart, hopen⟩
  · rw [hyears, if_pos rfl, hget]
    rfl
  · rw [hget]
    rfl
  · intro j x hx
    rw [hsemesters, hx]
    exact ⟨rfl, sequence_of_hasTwoTerms hs hterms hx⟩
  · intro j x hx hnone
    rw [hsemesters, hnone] at hx
    cases hx

theorem placed_adoptYear (hs : s.Sound)
    (h : adoptYear school name dates today s = .ok (id, s')) : Placed school dates id s s' := by
  unfold adoptYear at h
  split at h
  · rename_i hnone
    rw [ite_error_eq_ok] at h
    refine placed_createYear hs ?_ h.2
    intro j y hy hschool hstart
    have hmem : (j, y) ∈ s.years.filter fun p =>
        p.2.school = school ∧ p.2.startDate = dates.yearStart :=
      List.mem_filter.mpr ⟨hs.mem_year.mpr hy, decide_eq_true ⟨hschool, hstart⟩⟩
    rw [hnone] at hmem
    cases hmem
  · rename_i found year hfound
    obtain ⟨hget, hschool, hstart, honly⟩ := hs.only_candidate hfound
    dsimp only at h
    rw [ite_error_eq_ok, not_or] at h
    obtain ⟨hopen, h⟩ := h
    split at h
    · rename_i hmatches
      cases h
      exact placed_same hs hget hschool hopen ((matches_iff hs).mp hmatches) honly
    · cases haligned : s.alignFutureBoundaries found year dates today with
      | none =>
        rw [haligned] at h
        cases h
      | some s₁ =>
        rw [haligned] at h
        cases h
        unfold Calendars.alignFutureBoundaries at haligned
        split at haligned
        · cases haligned
        · rename_i hterms
          rw [Bool.not_eq_true, Bool.not_eq_false'] at hterms
          split at haligned
          · cases haligned
          · rw [Option.some.injEq] at haligned
            rw [← haligned]
            exact placed_setDates hs hget hschool hstart hopen hterms honly
  · cases h

theorem Placed.link (h : Placed school dates id s t) {year : AcademicYear}
    (hyear : t.years.get? id = some year)
    (hlink : (if year.ministrySnapshot ≠ some snapshotId then
      t.saveYear id { year with ministrySnapshot := some snapshotId } else pure t) = .ok s') :
    Placed school dates id s s' ∧ ∃ y, s'.years.get? id = some y ∧
      y.ministrySnapshot = some snapshotId := by
  split at hlink
  · have hget := Calendars.get?_saveYear hlink
    obtain ⟨y, hy, hschool, hstart, hend, hstatus⟩ := h.after
    obtain rfl : year = y := Option.some.inj (hyear.symm.trans hy)
    have hnew : s'.years.get? id = some { year with ministrySnapshot := some snapshotId } := by
      rw [(hget id).2, if_pos rfl, hyear]
      rfl
    refine ⟨⟨?_, h.before, h.only, ⟨_, hnew, hschool, hstart, hend, hstatus⟩, ?_, ?_⟩, _, hnew,
      rfl⟩
    · intro j hj
      rw [(hget j).2, if_neg hj, h.others j hj]
    · intro j x hx
      rw [(hget j).1]
      exact h.kept j x hx
    · intro j x hx
      rw [(hget j).1] at hx
      exact h.added j x hx
  · rename_i hsame
    rw [not_not] at hsame
    obtain rfl := pure_eq_ok.mp hlink
    exact ⟨h, year, hyear, hsame⟩

def Calendars.HasTerm (s : Calendars) (id sequence : ℕ) : Prop :=
  ∃ j x, s.semesters.get? j = some x ∧ x.academicYear = id ∧ x.sequence = sequence

theorem ensureSemester_ok (hs : s.Sound) (h : ensureSemester id sequence name dates s = .ok s') :
    (s' = s ∧ s.HasTerm id sequence) ∨
      ∃ x : Semester, s'.years = s.years ∧ s'.semesters = s.semesters ++ [(s.nextId, x)] ∧
        x.academicYear = id ∧ x.sequence = sequence ∧ x.status = .upcoming ∧
        (x.startDate, x.endDate) = dates.semester sequence := by
  unfold ensureSemester at h
  split at h
  · rename_i hany
    rw [Except.ok.injEq] at h
    obtain ⟨p, hp, hsequence⟩ := List.any_eq_true.mp hany
    obtain ⟨hmem, hid⟩ := List.mem_filter.mp hp
    exact .inl ⟨h.symm, p.1, p.2, hs.mem_semester.mp hmem, of_decide_eq_true hid,
      of_decide_eq_true hsequence⟩
  · unfold createSemester at h
    obtain ⟨year, -, h⟩ := bind_eq_ok.mp h
    obtain ⟨u, -, h⟩ := bind_eq_ok.mp h
    obtain ⟨u', -, h⟩ := bind_eq_ok.mp h
    obtain ⟨⟨newId, s₁⟩, hinsert, h⟩ := bind_eq_ok.mp h
    obtain rfl : s₁ = s' := pure_eq_ok.mp h
    rw [sequenceConflict_eq_ok] at hinsert
    unfold Calendars.insertSemester at hinsert
    obtain ⟨u'', -, hinsert⟩ := bind_eq_ok.mp hinsert
    cases hinsert
    exact .inr ⟨_, rfl, rfl, rfl, rfl, rfl, rfl⟩

theorem Calendars.HasTerm.append (h : s.HasTerm id sequence) {p : ℕ × Semester}
    (hsemesters : s'.semesters = s.semesters ++ [p]) : s'.HasTerm id sequence := by
  obtain ⟨j, x, hx, h⟩ := h
  refine ⟨j, x, ?_, h⟩
  rw [hsemesters, Dict.get?_append_singleton, hx, Option.some_or]

theorem Placed.ensureSemester (hsequence : sequence = 1 ∨ sequence = 2)
    (h : Placed school dates id s t) (ht : t.Sound)
    (hensure : ensureSemester id sequence name dates t = .ok s') :
    Placed school dates id s s' ∧ s'.years = t.years ∧ s'.HasTerm id sequence ∧
      ∀ q, t.HasTerm id q → s'.HasTerm id q := by
  rcases ensureSemester_ok ht hensure with ⟨rfl, hterm⟩ | ⟨x, hyears, hsemesters, hnew⟩
  · exact ⟨h, rfl, hterm, fun _ hq => hq⟩
  · obtain ⟨hyear, hnumber, hstatus, hdates⟩ := hnew
    have hget : ∀ j, s'.semesters.get? j =
        (t.semesters.get? j).or (if t.nextId = j then some x else none) := by
      intro j
      rw [hsemesters, Dict.get?_append_singleton]
    have hfresh : t.semesters.get? t.nextId = none :=
      Dict.get?_eq_none fun p hp => Nat.ne_of_lt (ht.freshSemesters p hp)
    refine ⟨⟨?_, h.before, h.only, ?_, ?_, ?_⟩, hyears, ⟨t.nextId, x, ?_, hyear, hnumber⟩,
      fun q hq => hq.append hsemesters⟩
    · rw [hyears]
      exact h.others
    · rw [hyears]
      exact h.after
    · intro j x' hx'
      obtain ⟨hkept, hseq⟩ := h.kept j x' hx'
      rw [hget, hkept, Option.some_or]
      exact ⟨rfl, hseq⟩
    · intro j x' hx' hnone
      rw [hget] at hx'
      cases hold : t.semesters.get? j with
      | some x₀ =>
        rw [hold, Option.some_or, Option.some.injEq] at hx'
        rw [← hx']
        exact h.added j x₀ hold hnone
      | none =>
        rw [hold, Option.none_or, Option.ite_none_right_eq_some, Option.some.injEq] at hx'
        rw [← hx'.2, hnumber]
        exact ⟨hyear, hstatus, hsequence, hdates⟩
    · rw [hget, hfresh, if_pos rfl, Option.none_or]

structure Ensured (school snapshotId : ℕ) (dates : ReadyDates) (id : ℕ) (s s' : Calendars) :
    Prop where
  placed : Placed school dates id s s'
  linked : ∃ y, s'.years.get? id = some y ∧ y.ministrySnapshot = some snapshotId
  first : s'.HasTerm id 1
  second : s'.HasTerm id 2

theorem ensured_ensureYear (hs : s.Sound)
    (h : ensureYear school snapshotId name dates today s = .ok (id, s')) :
    Ensured school snapshotId dates id s s' := by
  unfold ensureYear at h
  obtain ⟨⟨found, s₁⟩, hadopt, h⟩ := bind_eq_ok.mp h
  dsimp only at h
  obtain ⟨year, hyear, h⟩ := year_bind_eq_ok.mp h
  obtain ⟨s₂, hlink, h⟩ := bind_eq_ok.mp h
  obtain ⟨s₃, hfirst, h⟩ := bind_eq_ok.mp h
  obtain ⟨s₄, hsecond, h⟩ := bind_eq_ok.mp h
  cases h
  have hsound₁ := sound_adoptYear hs hadopt
  have hsound₂ := sound_linkYear hsound₁ hyear hlink
  have hsound₃ := sound_ensureSemester hsound₂ hfirst
  obtain ⟨hplaced₂, hlinked⟩ := (placed_adoptYear hs hadopt).link hyear hlink
  obtain ⟨hplaced₃, hyears₃, hterm₁, -⟩ := hplaced₂.ensureSemester (.inl rfl) hsound₂ hfirst
  obtain ⟨hplaced₄, hyears₄, hterm₂, hkeep⟩ := hplaced₃.ensureSemester (.inr rfl) hsound₃ hsecond
  refine ⟨hplaced₄, ?_, hkeep 1 hterm₁, hterm₂⟩
  rw [hyears₄, hyears₃]
  exact hlinked

/-! ## A year that is prepared -/

/-- The year of a calendar is as ensuring it leaves it. -/
structure Prepared (school snapshotId : ℕ) (dates : ReadyDates) (id : ℕ) (s : Calendars) :
    Prop where
  year : ∃ y, s.years.get? id = some y ∧ y.school = school ∧ y.startDate = dates.yearStart ∧
    y.endDate = dates.yearEnd ∧ y.ministrySnapshot = some snapshotId
  only : ∀ j y, s.years.get? j = some y → y.school = school → y.startDate = dates.yearStart → j = id
  terms : ∀ j x, s.semesters.get? j = some x → x.academicYear = id →
    (x.sequence = 1 ∨ x.sequence = 2) ∧ (x.startDate, x.endDate) = dates.semester x.sequence
  first : s.HasTerm id 1
  second : s.HasTerm id 2

theorem Semester.academicYear_moved (x : Semester) :
    (x.moved id dates).academicYear = x.academicYear := by
  unfold Semester.moved
  split <;> rfl

theorem Semester.sequence_moved (x : Semester) : (x.moved id dates).sequence = x.sequence := by
  unfold Semester.moved
  split <;> rfl

theorem Semester.status_moved (x : Semester) : (x.moved id dates).status = x.status := by
  unfold Semester.moved
  split <;> rfl

theorem Semester.dates_moved (h : x.academicYear = id) :
    ((x.moved id dates).startDate, (x.moved id dates).endDate) = dates.semester x.sequence := by
  unfold Semester.moved
  rw [if_pos h]

theorem Ensured.prepared (h : Ensured school snapshotId dates id s s') :
    Prepared school snapshotId dates id s' := by
  refine ⟨?_, ?_, ?_, h.first, h.second⟩
  · obtain ⟨y, hy, hschool, hstart, hend, -⟩ := h.placed.after
    obtain ⟨y', hy', hlink⟩ := h.linked
    rw [hy, Option.some.injEq] at hy'
    rw [← hy'] at hlink
    exact ⟨y, hy, hschool, hstart, hend, hlink⟩
  · intro j y hy hschool hstart
    by_contra hj
    rw [h.placed.others j hj] at hy
    exact hj (h.placed.only j y hy hschool hstart)
  · intro j x hx hyear
    cases hold : s.semesters.get? j with
    | none =>
      obtain ⟨-, -, hsequence, hdates⟩ := h.placed.added j x hx hold
      exact ⟨hsequence, hdates⟩
    | some x₀ =>
      obtain ⟨hkept, hsequence⟩ := h.placed.kept j x₀ hold
      rw [hx, Option.some.injEq] at hkept
      rw [hkept, Semester.academicYear_moved] at hyear
      rw [hkept, Semester.sequence_moved]
      exact ⟨hsequence hyear, Semester.dates_moved hyear⟩

theorem Prepared.ensured {dates' : ReadyDates} {id' : ℕ}
    (hp : Prepared school snapshotId dates id s) (h : Ensured school snapshotId dates' id' s s')
    (hother : dates.yearStart ≠ dates'.yearStart) : Prepared school snapshotId dates id s' := by
  obtain ⟨y, hy, hschool, hstart, hrest⟩ := hp.year
  have hne : id ≠ id' := by
    rintro rfl
    exact hother (hstart.symm.trans (h.placed.before y hy).2.1)
  have hterm : ∀ {q : ℕ}, s.HasTerm id q → s'.HasTerm id q := by
    rintro q ⟨j, x, hx, hyear, hsequence⟩
    refine ⟨j, x, ?_, hyear, hsequence⟩
    rw [(h.placed.kept j x hx).1, Semester.moved_of_ne]
    rw [hyear]
    exact hne
  refine ⟨⟨y, ?_, hschool, hstart, hrest⟩, ?_, ?_, hterm hp.first, hterm hp.second⟩
  · rw [h.placed.others id hne]
    exact hy
  · intro j y' hy' hschool' hstart'
    by_cases hj : j = id'
    · obtain ⟨z, hz, -, hzstart, -⟩ := h.placed.after
      rw [hj, hz, Option.some.injEq] at hy'
      rw [← hy', hzstart] at hstart'
      exact absurd hstart'.symm hother
    · rw [h.placed.others j hj] at hy'
      exact hp.only j y' hy' hschool' hstart'
  · intro j x hx hyear
    cases hold : s.semesters.get? j with
    | none => exact absurd (hyear.symm.trans (h.placed.added j x hx hold).1) hne
    | some x₀ =>
      have hkept := (h.placed.kept j x₀ hold).1
      rw [hx, Option.some.injEq] at hkept
      have hyear₀ : x₀.academicYear = id := by
        rw [← hyear, hkept, Semester.academicYear_moved]
      rw [hkept, Semester.moved_of_ne (hyear₀.symm ▸ hne)]
      exact hp.terms j x₀ hold hyear₀

theorem eq_singleton_of_nodup {α : Type} {l : List α} {a : α} (hnodup : l.Nodup) (hmem : a ∈ l)
    (hall : ∀ b ∈ l, b = a) : l = [a] := by
  have hrepeat := List.eq_replicate_of_mem hall
  rw [hrepeat, List.nodup_replicate] at hnodup
  have hpos : 0 < l.length := List.length_pos_of_mem hmem
  have hone : l.length = 1 := by omega
  rw [hrepeat, hone]
  rfl

theorem Prepared.candidates (hp : Prepared school snapshotId dates id s) (hs : s.Sound)
    (hy : s.years.get? id = some y) :
    (s.years.filter fun p => p.2.school = school ∧ p.2.startDate = dates.yearStart) =
      [(id, y)] := by
  obtain ⟨y', hy', hschool, hstart, -⟩ := hp.year
  rw [hy, Option.some.injEq] at hy'
  rw [← hy'] at hschool hstart
  have hnodup : s.years.Nodup := List.Nodup.of_map Prod.fst hs.yearIds
  refine eq_singleton_of_nodup (hnodup.filter _) ?_ ?_
  · exact List.mem_filter.mpr ⟨hs.mem_year.mpr hy, decide_eq_true ⟨hschool, hstart⟩⟩
  · rintro ⟨j, z⟩ hz
    obtain ⟨hmem, hcond⟩ := List.mem_filter.mp hz
    obtain ⟨hzschool, hzstart⟩ := of_decide_eq_true hcond
    have hget := hs.mem_year.mp hmem
    obtain rfl := hp.only j z hget hzschool hzstart
    rw [hy, Option.some.injEq] at hget
    rw [hget]

theorem Prepared.hasTwoTerms (hp : Prepared school snapshotId dates id s) (hs : s.Sound) :
    s.hasTwoTerms id = true := by
  have hterm : ∀ p ∈ s.semestersOf id, p ∈ s.semesters ∧ p.2.academicYear = id := by
    intro p hmem
    obtain ⟨hmem, hyear⟩ := List.mem_filter.mp hmem
    exact ⟨hmem, of_decide_eq_true hyear⟩
  have hsequence : ∀ p ∈ s.semestersOf id, p.2.sequence = 1 ∨ p.2.sequence = 2 := by
    intro p hmem
    obtain ⟨hmem, hyear⟩ := hterm p hmem
    exact (hp.terms p.1 p.2 (hs.mem_semester.mp hmem) hyear).1
  -- No two of them have one number.
  have hinj : ∀ p ∈ s.semestersOf id, ∀ q ∈ s.semestersOf id,
      p.2.sequence = q.2.sequence → p = q := by
    rintro ⟨j, x⟩ hmemp ⟨k, x'⟩ hmemq hsame
    dsimp only at hsame
    obtain ⟨hx, hyear⟩ := hterm _ hmemp
    obtain ⟨hx', hyear'⟩ := hterm _ hmemq
    dsimp only at hyear hyear'
    have hkey : j = k := by
      refine (hs.place (j, x) hx (k, x') hx' (id, x.sequence) ?_ ?_).symm
      · rw [← hyear]
        rfl
      · rw [hsame, ← hyear']
        rfl
    subst hkey
    have hrow := hs.mem_semester.mp hx
    rw [hs.mem_semester.mp hx', Option.some.injEq] at hrow
    rw [hrow]
  have hnodup : (s.semestersOf id).Nodup :=
    (List.Nodup.of_map Prod.fst hs.semesterIds).filter _
  have hnumbers : ((s.semestersOf id).map fun p => p.2.sequence).Nodup :=
    hnodup.map_on hinj
  have hsubset : ((s.semestersOf id).map fun p => p.2.sequence) ⊆ [1, 2] := by
    intro q hq
    obtain ⟨p, hmem, rfl⟩ := List.mem_map.mp hq
    simpa using hsequence p hmem
  have hlength := (List.subperm_of_subset hnumbers hsubset).length_le
  rw [List.length_map] at hlength
  unfold Calendars.hasTwoTerms
  rw [Bool.and_eq_true, List.all_eq_true]
  exact ⟨decide_eq_true hlength, fun p hmem => decide_eq_true (hsequence p hmem)⟩

def existingDatesConflict : Failure := apiError "CALENDAR_EXISTING_DATES_CONFLICT"
  "التقويم القائم يحتاج مراجعة إدارة المنصة قبل مطابقته بالمصدر." 409

theorem ensureSemester_of_hasTerm (hs : s.Sound) (h : s.HasTerm id sequence) :
    ensureSemester id sequence name dates s = .ok s := by
  obtain ⟨j, x, hx, hyear, hsequence⟩ := h
  unfold ensureSemester
  refine if_pos (List.any_eq_true.mpr ⟨(j, x), ?_, decide_eq_true hsequence⟩)
  exact List.mem_filter.mpr ⟨hs.mem_semester.mpr hx, decide_eq_true hyear⟩

theorem Prepared.ensureYear_of_open (hp : Prepared school snapshotId dates id s) (hs : s.Sound)
    (hy : s.years.get? id = some y) (hopen : y.Open) :
    ensureYear school snapshotId name dates today s = .ok (id, s) := by
  obtain ⟨y', hy', -, hstart, hend, hlink⟩ := hp.year
  rw [hy, Option.some.injEq] at hy'
  rw [← hy'] at hstart hend hlink
  have hmatches : s.matches id y dates = true := by
    refine (matches_iff hs).mpr ⟨⟨hstart, hend⟩, hp.hasTwoTerms hs, ?_⟩
    intro j x hx hyear
    exact (hp.terms j x hx hyear).2
  have hadopt : adoptYear school name dates today s = .ok (id, s) := by
    unfold adoptYear
    rw [hp.candidates hs hy]
    dsimp only
    rw [if_neg (not_or.mpr hopen), if_pos hmatches]
  unfold ensureYear
  rw [hadopt]
  dsimp only [bind, Except.bind]
  rw [Calendars.year_eq_ok.mpr hy]
  dsimp only
  rw [if_neg (not_not.mpr hlink)]
  dsimp only [pure, Except.pure]
  rw [ensureSemester_of_hasTerm hs hp.first]
  dsimp only
  rw [ensureSemester_of_hasTerm hs hp.second]

theorem Prepared.ensureYear_of_not_open (hp : Prepared school snapshotId dates id s)
    (hs : s.Sound) (hy : s.years.get? id = some y) (hclosed : ¬ y.Open) :
    ensureYear school snapshotId name dates today s = .error existingDatesConflict := by
  have hstatus : y.status = .closed ∨ y.status = .archived := by
    unfold AcademicYear.Open at hclosed
    rw [← not_or, not_not] at hclosed
    exact hclosed
  have hadopt : adoptYear school name dates today s = .error existingDatesConflict := by
    unfold adoptYear
    rw [hp.candidates hs hy]
    dsimp only
    rw [if_pos hstatus]
    rfl
  unfold ensureYear
  rw [hadopt]
  rfl

/-- The year is one of the school that begins on one of the days. -/
def Calendars.Official (s : Calendars) (school : ℕ) (starts : List Date) (id : ℕ) : Prop :=
  ∃ y, s.years.get? id = some y ∧ y.school = school ∧ y.startDate ∈ starts

/-- Only years that begin on the days have been prepared, and every status is kept. -/
structure Prepares (school : ℕ) (starts : List Date) (s s' : Calendars) : Prop where
  years : ∀ j y, s.years.get? j = some y → ∃ y', s'.years.get? j = some y' ∧
    y'.school = y.school ∧ y'.startDate = y.startDate ∧ y'.status = y.status ∧
      (y' = y ∨ s'.Official school starts j)
  newYears : ∀ j y, s'.years.get? j = some y → s.years.get? j = none →
    y.status = .upcoming ∧ s'.Official school starts j
  semesters : ∀ j x, s.semesters.get? j = some x → ∃ x', s'.semesters.get? j = some x' ∧
    x'.academicYear = x.academicYear ∧ x'.status = x.status ∧
      (x' = x ∨ s'.Official school starts x.academicYear)
  newSemesters : ∀ j x, s'.semesters.get? j = some x → s.semesters.get? j = none →
    x.status = .upcoming ∧ s'.Official school starts x.academicYear

variable {starts : List Date}

theorem Prepares.refl (school : ℕ) (starts : List Date) (s : Calendars) :
    Prepares school starts s s := by
  refine ⟨fun j y hy => ⟨y, hy, rfl, rfl, rfl, .inl rfl⟩, ?_,
    fun j x hx => ⟨x, hx, rfl, rfl, .inl rfl⟩, ?_⟩
  · intro j y hy hnone
    rw [hnone] at hy
    cases hy
  · intro j x hx hnone
    rw [hnone] at hx
    cases hx

theorem Prepares.official (h : Prepares school starts s s') (hj : s.Official school starts j) :
    s'.Official school starts j := by
  obtain ⟨y, hy, hschool, hstart⟩ := hj
  obtain ⟨y', hy', hschool', hstart', -⟩ := h.years j y hy
  refine ⟨y', hy', hschool'.trans hschool, ?_⟩
  rw [hstart']
  exact hstart

theorem Prepares.trans (h : Prepares school starts s t) (h' : Prepares school starts t s') :
    Prepares school starts s s' := by
  refine ⟨?_, ?_, ?_, ?_⟩
  · intro j y hy
    obtain ⟨z, hz, hschool, hstart, hstatus, hsame⟩ := h.years j y hy
    obtain ⟨y', hy', hschool', hstart', hstatus', hsame'⟩ := h'.years j z hz
    refine ⟨y', hy', hschool'.trans hschool, hstart'.trans hstart, hstatus'.trans hstatus, ?_⟩
    rcases hsame with rfl | hofficial
    · exact hsame'
    · exact .inr (h'.official hofficial)
  · intro j y' hy' hnone
    cases hz : t.years.get? j with
    | none => exact h'.newYears j y' hy' hz
    | some z =>
      obtain ⟨hstatus, hofficial⟩ := h.newYears j z hz hnone
      obtain ⟨y'', hy'', -, -, hstatus', -⟩ := h'.years j z hz
      rw [hy', Option.some.injEq] at hy''
      rw [← hy''] at hstatus'
      exact ⟨hstatus'.trans hstatus, h'.official hofficial⟩
  · intro j x hx
    obtain ⟨z, hz, hyear, hstatus, hsame⟩ := h.semesters j x hx
    obtain ⟨x', hx', hyear', hstatus', hsame'⟩ := h'.semesters j z hz
    refine ⟨x', hx', hyear'.trans hyear, hstatus'.trans hstatus, ?_⟩
    rcases hsame with rfl | hofficial
    · exact hsame'
    · exact .inr (h'.official hofficial)
  · intro j x' hx' hnone
    cases hz : t.semesters.get? j with
    | none => exact h'.newSemesters j x' hx' hz
    | some z =>
      obtain ⟨hstatus, hofficial⟩ := h.newSemesters j z hz hnone
      obtain ⟨x'', hx'', hyear', hstatus', -⟩ := h'.semesters j z hz
      rw [hx', Option.some.injEq] at hx''
      rw [← hx''] at hyear' hstatus'
      refine ⟨hstatus'.trans hstatus, ?_⟩
      rw [hyear']
      exact h'.official hofficial

theorem Ensured.prepares (h : Ensured school snapshotId dates id s s')
    (hstart : dates.yearStart ∈ starts) : Prepares school starts s s' := by
  obtain ⟨z, hz, hzschool, hzstart, -, hzstatus⟩ := h.placed.after
  have hofficial : s'.Official school starts id := by
    refine ⟨z, hz, hzschool, ?_⟩
    rw [hzstart]
    exact hstart
  refine ⟨?_, ?_, ?_, ?_⟩
  · intro j y hy
    by_cases hj : j = id
    · rw [hj] at hy ⊢
      obtain ⟨hyschool, hystart, -⟩ := h.placed.before y hy
      rw [hy] at hzstatus
      exact ⟨z, hz, hzschool.trans hyschool.symm, hzstart.trans hystart.symm, hzstatus,
        .inr hofficial⟩
    · rw [h.placed.others j hj]
      exact ⟨y, hy, rfl, rfl, rfl, .inl rfl⟩
  · intro j y hy hnone
    have hj : j = id := by
      by_contra hj
      rw [h.placed.others j hj, hnone] at hy
      cases hy
    rw [hj] at hy hnone ⊢
    rw [hz, Option.some.injEq] at hy
    rw [hnone] at hzstatus
    rw [← hy]
    exact ⟨hzstatus, hofficial⟩
  · intro j x hx
    refine ⟨x.moved id dates, (h.placed.kept j x hx).1, Semester.academicYear_moved x,
      Semester.status_moved x, ?_⟩
    by_cases hyear : x.academicYear = id
    · rw [hyear]
      exact .inr hofficial
    · exact .inl (Semester.moved_of_ne hyear)
  · intro j x hx hnone
    obtain ⟨hyear, hstatus, -⟩ := h.placed.added j x hx hnone
    rw [hyear]
    exact ⟨hstatus, hofficial⟩

end SchoolPlatform.Academics
