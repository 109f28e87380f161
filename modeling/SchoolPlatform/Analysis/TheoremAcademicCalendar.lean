import SchoolPlatform.Model.AcademicCalendar

/-!
# The calendar of a school stays in order

Years and semesters are created, changed, activated, closed and archived by hand, and the calendar
of the ministry is applied. After any such calls a school has at most one active year and one active
semester, the active semester is one of the active year, every semester lies inside its year, and no
two semesters of a year share a day.
-/

/-! ## What the rows of a calendar keep -/

namespace SchoolPlatform.Academics

open Fallible

structure Semester.Within (x : Semester) (y : AcademicYear) : Prop where
  school : x.school = y.school
  start : y.startDate ≤ x.startDate
  order : x.startDate ≤ x.endDate
  stop : x.endDate ≤ y.endDate
  active : x.status = .active → y.status = .active

/-- One of the semesters ends before the other begins. -/
def Semester.Apart (x x' : Semester) : Prop := x.endDate < x'.startDate ∨ x'.endDate < x.startDate

structure Calendars.Sound (s : Calendars) : Prop where
  yearIds : (Dict.keys s.years).Nodup
  semesterIds : (Dict.keys s.semesters).Nodup
  freshYears : ∀ p ∈ s.years, p.1 < s.nextId
  freshSemesters : ∀ p ∈ s.semesters, p.1 < s.nextId
  activeYear : s.years.Unique AcademicYear.activeOf
  activeSemester : s.semesters.Unique Semester.activeOf
  place : s.semesters.Unique Semester.place
  within : ∀ p ∈ s.semesters, ∃ y, s.years.get? p.2.academicYear = some y ∧ p.2.Within y
  apart : ∀ p ∈ s.semesters, ∀ q ∈ s.semesters, p.1 ≠ q.1 →
    q.2.academicYear = p.2.academicYear → p.2.Apart q.2

variable {s s' : Calendars} {id : ℕ} {x x₀ : Semester} {y y₀ : AcademicYear}

theorem AcademicYear.activeOf_eq_some {school : ℕ} :
    y.activeOf = some school ↔ y.status = .active ∧ y.school = school := by
  unfold AcademicYear.activeOf
  by_cases hactive : y.status = .active <;> simp [hactive]

theorem Semester.activeOf_eq_some {school : ℕ} :
    x.activeOf = some school ↔ x.status = .active ∧ x.school = school := by
  unfold Semester.activeOf
  by_cases hactive : x.status = .active <;> simp [hactive]

theorem Calendars.year_eq_ok : s.year id = .ok y ↔ s.years.get? id = some y := by
  unfold Calendars.year
  cases s.years.get? id with
  | none => exact ⟨fun h => (nomatch h), fun h => (nomatch h)⟩
  | some z =>
    exact ⟨fun h => congrArg some (Except.ok.inj h),
      fun h => congrArg Except.ok (Option.some.inj h)⟩

theorem year_bind_eq_ok {α : Type} {g : AcademicYear → Except Failure α} {a : α} :
    (s.year id >>= g) = .ok a ↔ ∃ y, s.years.get? id = some y ∧ g y = .ok a := by
  simp only [bind_eq_ok, Calendars.year_eq_ok]

theorem semester_bind_eq_ok {α : Type} {g : Semester → Except Failure α} {a : α} :
    (s.semester id >>= g) = .ok a ↔ ∃ x, s.semesters.get? id = some x ∧ g x = .ok a := by
  unfold Calendars.semester
  cases s.semesters.get? id with
  | none => exact ⟨fun h => (nomatch h), fun ⟨_, h, _⟩ => (nomatch h)⟩
  | some z => exact ⟨fun h => ⟨z, rfl, h⟩, fun ⟨_, hz, h⟩ => Option.some.inj hz ▸ h⟩

theorem checkYear_eq_ok {u : Unit} (h : s.checkYear id y = .ok u) :
    y.startDate < y.endDate ∧
      ∀ i, y.activeOf = some i → s.years.takenBesides AcademicYear.activeOf id i = false := by
  unfold Calendars.checkYear at h
  rw [ite_error_eq_ok, ite_error_eq_ok, ite_error_eq_ok, not_not] at h
  obtain ⟨-, hrange, hfree, -⟩ := h
  refine ⟨hrange, fun i hi => ?_⟩
  rw [hi, Option.any_some, Bool.not_eq_true] at hfree
  exact hfree

theorem checkSemester_eq_ok {u : Unit} (h : s.checkSemester id x = .ok u) :
    x.startDate ≤ x.endDate ∧
      (∀ i, x.activeOf = some i → s.semesters.takenBesides Semester.activeOf id i = false) ∧
      ∀ i, x.place = some i → s.semesters.takenBesides Semester.place id i = false := by
  unfold Calendars.checkSemester at h
  rw [ite_error_eq_ok, ite_error_eq_ok, ite_error_eq_ok, ite_error_eq_ok, ite_error_eq_ok,
    not_not] at h
  obtain ⟨-, -, hrange, hactive, hplace, -⟩ := h
  refine ⟨hrange, fun i hi => ?_, fun i hi => ?_⟩
  · rw [hi, Option.any_some, Bool.not_eq_true] at hactive
    exact hactive
  · rw [hi, Option.any_some, Bool.not_eq_true] at hplace
    exact hplace

theorem Calendars.Sound.mem_year (hs : s.Sound) : (id, y) ∈ s.years ↔ s.years.get? id = some y :=
  Dict.mem_iff_get? hs.yearIds id y

theorem Calendars.Sound.mem_semester (hs : s.Sound) :
    (id, x) ∈ s.semesters ↔ s.semesters.get? id = some x :=
  Dict.mem_iff_get? hs.semesterIds id x

theorem Calendars.Sound.within_year (hs : s.Sound) (hget : s.years.get? id = some y)
    {p : ℕ × Semester} (hp : p ∈ s.semesters) (hid : p.2.academicYear = id) : p.2.Within y := by
  obtain ⟨z, hz, hwithin⟩ := hs.within p hp
  rw [hid, hget] at hz
  cases hz
  exact hwithin

theorem Calendars.Sound.within_of_get? (hs : s.Sound) (hx : s.semesters.get? id = some x)
    (hy : s.years.get? x.academicYear = some y) : x.Within y :=
  hs.within_year hy (hs.mem_semester.mpr hx) rfl

theorem Calendars.Sound.saveYear (hs : s.Sound) (hget : s.years.get? id = some y₀)
    (hwithin : ∀ p ∈ s.semesters, p.2.academicYear = id → p.2.Within y)
    (h : s.saveYear id y = .ok s') : s'.Sound := by
  unfold Calendars.saveYear at h
  obtain ⟨u, hcheck, h⟩ := bind_eq_ok.mp h
  obtain ⟨-, hfree⟩ := checkYear_eq_ok hcheck
  cases h
  refine ⟨?_, hs.semesterIds, fun p hp => ?_, hs.freshSemesters,
    hs.activeYear.adjust_besides (f := fun _ => y) hs.yearIds hget hfree, hs.activeSemester,
    hs.place,
    fun p hp => ?_, hs.apart⟩
  · show (Dict.keys (s.years.adjust id fun _ => y)).Nodup
    rw [Dict.keys_adjust]
    exact hs.yearIds
  · rcases (Dict.mem_adjust (f := fun _ => y) hs.yearIds hget).mp hp with rfl | ⟨hp, -⟩
    · exact hs.freshYears (id, y₀) (hs.mem_year.mpr hget)
    · exact hs.freshYears p hp
  · show ∃ z, (s.years.adjust id fun _ => y).get? p.2.academicYear = some z ∧ p.2.Within z
    rw [Dict.get?_adjust]
    by_cases hid : p.2.academicYear = id
    · rw [if_pos hid, hid, hget]
      exact ⟨y, rfl, hwithin p hp hid⟩
    · rw [if_neg hid]
      exact hs.within p hp

theorem Calendars.get?_saveYear (h : s.saveYear id y = .ok s') (j : ℕ) :
    s'.semesters = s.semesters ∧ s'.years.get? j =
      if j = id then (s.years.get? j).map fun _ => y else s.years.get? j := by
  unfold Calendars.saveYear at h
  obtain ⟨u, -, h⟩ := bind_eq_ok.mp h
  cases h
  exact ⟨rfl, Dict.get?_adjust s.years id j fun _ => y⟩

theorem Calendars.Sound.saveYearStatus (hs : s.Sound) (hget : s.years.get? id = some y)
    {status : AcademicYearStatus}
    (hactive : ∀ p ∈ s.semesters, p.2.academicYear = id → p.2.status = .active → status = .active)
    (h : s.saveYear id { y with status := status } = .ok s') : s'.Sound := by
  refine hs.saveYear hget (fun p hp hid => ?_) h
  have hwithin := hs.within_year hget hp hid
  exact ⟨hwithin.school, hwithin.start, hwithin.order, hwithin.stop, hactive p hp hid⟩

theorem Calendars.Sound.insertYear (hs : s.Sound) (h : s.insertYear y = .ok (id, s')) :
    s'.Sound := by
  unfold Calendars.insertYear at h
  obtain ⟨u, hcheck, h⟩ := bind_eq_ok.mp h
  obtain ⟨-, hfree⟩ := checkYear_eq_ok hcheck
  cases h
  have hnew : s.years.get? s.nextId = none :=
    Dict.get?_eq_none fun p hp => Nat.ne_of_lt (hs.freshYears p hp)
  refine ⟨Dict.nodup_keys_append hs.yearIds y hnew, hs.semesterIds, fun p hp => ?_,
    fun p hp => Nat.lt_succ_of_lt (hs.freshSemesters p hp),
    hs.activeYear.append s.nextId fun i hi => ?_, hs.activeSemester, hs.place, fun p hp => ?_,
    hs.apart⟩
  · rcases Dict.mem_append_singleton.mp hp with hp | rfl
    · exact Nat.lt_succ_of_lt (hs.freshYears p hp)
    · exact Nat.lt_succ_self s.nextId
  · have hothers := Dict.takenBesides_eq_false.mp (hfree i hi)
    exact Dict.taken_eq_false.mpr fun p hp => hothers p hp (Nat.ne_of_lt (hs.freshYears p hp))
  · obtain ⟨z, hz, hwithin⟩ := hs.within p hp
    refine ⟨z, ?_, hwithin⟩
    show (s.years ++ [(s.nextId, y)]).get? p.2.academicYear = some z
    rw [Dict.get?_append_singleton, hz, Option.some_or]

theorem Calendars.Sound.saveSemester (hs : s.Sound) (hget : s.semesters.get? id = some x₀)
    (hyear : s.years.get? x.academicYear = some y) (hwithin : x.Within y)
    (hapart : ∀ p ∈ s.semesters, p.1 ≠ id → p.2.academicYear = x.academicYear → p.2.Apart x)
    (h : s.saveSemester id x = .ok s') : s'.Sound := by
  unfold Calendars.saveSemester at h
  obtain ⟨u, hcheck, h⟩ := bind_eq_ok.mp h
  obtain ⟨-, hactive, hplace⟩ := checkSemester_eq_ok hcheck
  cases h
  have hmem : ∀ p, p ∈ (s.semesters.adjust id fun _ => x) ↔
      p = (id, x) ∨ p ∈ s.semesters ∧ p.1 ≠ id :=
    fun p => Dict.mem_adjust hs.semesterIds hget
  refine ⟨hs.yearIds, ?_, hs.freshYears, fun p hp => ?_, hs.activeYear,
    hs.activeSemester.adjust_besides (f := fun _ => x) hs.semesterIds hget hactive,
    hs.place.adjust_besides (f := fun _ => x) hs.semesterIds hget hplace, fun p hp => ?_,
    fun p hp q hq hne hsame => ?_⟩
  · show (Dict.keys (s.semesters.adjust id fun _ => x)).Nodup
    rw [Dict.keys_adjust]
    exact hs.semesterIds
  · rcases (hmem p).mp hp with rfl | ⟨hp, -⟩
    · exact hs.freshSemesters (id, x₀) (hs.mem_semester.mpr hget)
    · exact hs.freshSemesters p hp
  · rcases (hmem p).mp hp with rfl | ⟨hp, -⟩
    · exact ⟨y, hyear, hwithin⟩
    · exact hs.within p hp
  · rcases (hmem p).mp hp with rfl | ⟨hp, hpid⟩ <;> rcases (hmem q).mp hq with rfl | ⟨hq, hqid⟩
    · exact absurd rfl hne
    · exact (hapart q hq hqid hsame).symm
    · exact hapart p hp hpid hsame.symm
    · exact hs.apart p hp q hq hne hsame

theorem Calendars.get?_saveSemester (h : s.saveSemester id x = .ok s') (j : ℕ) :
    s'.years = s.years ∧ s'.semesters.get? j =
      if j = id then (s.semesters.get? j).map fun _ => x else s.semesters.get? j := by
  unfold Calendars.saveSemester at h
  obtain ⟨u, -, h⟩ := bind_eq_ok.mp h
  cases h
  exact ⟨rfl, Dict.get?_adjust s.semesters id j fun _ => x⟩

theorem Calendars.Sound.saveStatus (hs : s.Sound) (hget : s.semesters.get? id = some x)
    (status : SemesterStatus) (hyear : s.years.get? x.academicYear = some y)
    (hactive : status = .active → y.status = .active)
    (h : s.saveSemester id { x with status := status } = .ok s') : s'.Sound := by
  have hwithin := hs.within_of_get? hget hyear
  refine hs.saveSemester (x := { x with status := status }) hget hyear
    ⟨hwithin.school, hwithin.start, hwithin.order, hwithin.stop, hactive⟩
    (fun p hp hne hsame => ?_) h
  exact hs.apart p hp (id, x) (hs.mem_semester.mpr hget) hne hsame.symm

theorem Calendars.Sound.insertSemester (hs : s.Sound)
    (hyear : s.years.get? x.academicYear = some y) (hwithin : x.Within y)
    (hapart : ∀ p ∈ s.semesters, p.2.academicYear = x.academicYear → p.2.Apart x)
    (h : s.insertSemester x = .ok (id, s')) : s'.Sound := by
  unfold Calendars.insertSemester at h
  obtain ⟨u, hcheck, h⟩ := bind_eq_ok.mp h
  obtain ⟨-, hactive, hplace⟩ := checkSemester_eq_ok hcheck
  cases h
  have hother : ∀ p ∈ s.semesters, p.1 ≠ s.nextId :=
    fun p hp => Nat.ne_of_lt (hs.freshSemesters p hp)
  have hfree : ∀ {ι : Type} [DecidableEq ι] {index : Semester → Option ι},
      (∀ i, index x = some i → s.semesters.takenBesides index s.nextId i = false) →
      ∀ i, index x = some i → s.semesters.taken index i = false := by
    intro ι _ index hbesides i hi
    have hnone := Dict.takenBesides_eq_false.mp (hbesides i hi)
    exact Dict.taken_eq_false.mpr fun p hp => hnone p hp (hother p hp)
  refine ⟨hs.yearIds, Dict.nodup_keys_append hs.semesterIds x (Dict.get?_eq_none hother),
    fun p hp => Nat.lt_succ_of_lt (hs.freshYears p hp), fun p hp => ?_, hs.activeYear,
    hs.activeSemester.append s.nextId (hfree hactive), hs.place.append s.nextId (hfree hplace),
    fun p hp => ?_, fun p hp q hq hne hsame => ?_⟩
  · rcases Dict.mem_append_singleton.mp hp with hp | rfl
    · exact Nat.lt_succ_of_lt (hs.freshSemesters p hp)
    · exact Nat.lt_succ_self s.nextId
  · rcases Dict.mem_append_singleton.mp hp with hp | rfl
    · exact hs.within p hp
    · exact ⟨y, hyear, hwithin⟩
  · rcases Dict.mem_append_singleton.mp hp with hp | rfl <;>
      rcases Dict.mem_append_singleton.mp hq with hq | rfl
    · exact hs.apart p hp q hq hne hsame
    · exact hapart p hp hsame.symm
    · exact (hapart q hq hsame).symm
    · exact absurd rfl hne

/-- The semester has kept its place, and at most been closed. -/
structure Semester.Stays (x x' : Semester) : Prop where
  school : x'.school = x.school
  academicYear : x'.academicYear = x.academicYear
  sequence : x'.sequence = x.sequence
  active : x'.status = .active → x.status = .active

theorem Calendars.Sound.rearrange (hs : s.Sound) {f : Semester → Semester}
    (hstays : ∀ x : Semester, x.Stays (f x))
    (hsemesters : s'.semesters = s.semesters.mapValues fun _ => f)
    (hnext : s'.nextId = s.nextId) (hids : (Dict.keys s'.years).Nodup)
    (hfresh : ∀ p ∈ s'.years, p.1 < s.nextId) (hactive : s'.years.Unique AcademicYear.activeOf)
    (hwithin : ∀ p ∈ s.semesters,
      ∃ y, s'.years.get? p.2.academicYear = some y ∧ (f p.2).Within y)
    (hapart : ∀ p ∈ s.semesters, ∀ q ∈ s.semesters, p.1 ≠ q.1 →
      q.2.academicYear = p.2.academicYear → (f p.2).Apart (f q.2)) : s'.Sound := by
  have hmem : ∀ q ∈ s'.semesters, ∃ p ∈ s.semesters, (p.1, f p.2) = q := by
    intro q hq
    rw [hsemesters] at hq
    exact List.mem_map.mp hq
  refine ⟨hids, ?_, ?_, fun q hq => ?_, hactive, ?_, ?_, fun q hq => ?_,
    fun q hq r hr hne hsame => ?_⟩
  · rw [hsemesters, Dict.keys_mapValues]
    exact hs.semesterIds
  · rw [hnext]
    exact hfresh
  · obtain ⟨p, hp, rfl⟩ := hmem q hq
    rw [hnext]
    exact hs.freshSemesters p hp
  · rw [hsemesters]
    refine hs.activeSemester.mapValues fun _ x i hi => ?_
    obtain ⟨hi, hschool⟩ := Semester.activeOf_eq_some.mp hi
    exact Semester.activeOf_eq_some.mpr
      ⟨(hstays x).active hi, (hstays x).school.symm.trans hschool⟩
  · rw [hsemesters]
    refine hs.place.mapValues fun _ x i hi => ?_
    have hplace : (x.academicYear, x.sequence) = i := by
      rw [← (hstays x).academicYear, ← (hstays x).sequence]
      exact Option.some.inj hi
    exact congrArg some hplace
  · obtain ⟨p, hp, rfl⟩ := hmem q hq
    obtain ⟨y, hy, hin⟩ := hwithin p hp
    refine ⟨y, ?_, hin⟩
    show s'.years.get? (f p.2).academicYear = some y
    rw [(hstays p.2).academicYear]
    exact hy
  · obtain ⟨p, hp, rfl⟩ := hmem q hq
    obtain ⟨p', hp', rfl⟩ := hmem r hr
    have hyear : (f p'.2).academicYear = (f p.2).academicYear := hsame
    rw [(hstays p'.2).academicYear, (hstays p.2).academicYear] at hyear
    exact hapart p hp p' hp' hne hyear

theorem Semester.closeIf_cases (p : Semester → Bool) (x : Semester) :
    x.closeIf p = x ∧ (p x = true → x.status ≠ .active) ∨
      p x = true ∧ x.closeIf p = { x with status := .closed } := by
  unfold Semester.closeIf Semester.close
  by_cases hp : p x = true
  · by_cases hactive : x.status = .active
    · exact .inr ⟨hp, by rw [if_pos hp, if_pos hactive]⟩
    · exact .inl ⟨by rw [if_pos hp, if_neg hactive], fun _ => hactive⟩
  · exact .inl ⟨by rw [if_neg hp], fun h => absurd h hp⟩

theorem Calendars.Sound.closeSemesters (hs : s.Sound) (p : Semester → Bool) :
    (s.closeSemesters p).Sound := by
  refine hs.rearrange (f := Semester.closeIf p) (fun x => ?_) rfl rfl hs.yearIds hs.freshYears
    hs.activeYear (fun q hq => ?_) fun q hq r hr hne hsame => ?_
  · rcases Semester.closeIf_cases p x with ⟨heq, -⟩ | ⟨-, heq⟩ <;> rw [heq]
    · exact ⟨rfl, rfl, rfl, fun h => h⟩
    · exact ⟨rfl, rfl, rfl, fun h => nomatch h⟩
  · obtain ⟨y, hy, hwithin⟩ := hs.within q hq
    refine ⟨y, hy, ?_⟩
    rcases Semester.closeIf_cases p q.2 with ⟨heq, -⟩ | ⟨-, heq⟩ <;> rw [heq]
    · exact hwithin
    · exact ⟨hwithin.school, hwithin.start, hwithin.order, hwithin.stop, fun h => nomatch h⟩
  · have hapart := hs.apart q hq r hr hne hsame
    rcases Semester.closeIf_cases p q.2 with ⟨hq', -⟩ | ⟨-, hq'⟩ <;>
      rcases Semester.closeIf_cases p r.2 with ⟨hr', -⟩ | ⟨-, hr'⟩ <;>
        rw [hq', hr'] <;> exact hapart

theorem active_closeSemesters {p : Semester → Bool} {q : ℕ × Semester}
    (hq : q ∈ (s.closeSemesters p).semesters) (hactive : q.2.status = .active) :
    q ∈ s.semesters ∧ p q.2 = false := by
  obtain ⟨r, hr, rfl⟩ := List.mem_map.mp hq
  have hstatus : (r.2.closeIf p).status = .active := hactive
  rcases Semester.closeIf_cases p r.2 with ⟨heq, hopen⟩ | ⟨-, heq⟩
  · rw [heq] at hstatus
    have hrow : (r.1, r.2.closeIf p) = r := by rw [heq]
    refine ⟨hrow.symm ▸ hr, ?_⟩
    show p (r.2.closeIf p) = false
    rw [heq]
    exact Bool.eq_false_iff.mpr fun hp => hopen hp hstatus
  · rw [heq] at hstatus
    cases hstatus

theorem ReadyDates.within (dates : ReadyDates) (sequence : ℕ) :
    dates.yearStart ≤ (dates.semester sequence).1 ∧
      (dates.semester sequence).1 ≤ (dates.semester sequence).2 ∧
      (dates.semester sequence).2 ≤ dates.yearEnd := by
  obtain ⟨h₁, h₂, h₃, h₄, h₅⟩ := dates.ordered
  have hfirst : dates.semester1End ≤ dates.semester2Start := Nat.le_of_lt h₃
  unfold ReadyDates.semester
  split
  · exact ⟨h₁, h₂, Nat.le_trans hfirst (Nat.le_trans h₄ h₅)⟩
  · exact ⟨Nat.le_trans h₁ (Nat.le_trans h₂ hfirst), h₄, h₅⟩

theorem Calendars.Sound.setDates (hs : s.Sound) (hget : s.years.get? id = some y)
    (hterms : ∀ p ∈ s.semesters, p.2.academicYear = id → p.2.sequence = 1 ∨ p.2.sequence = 2)
    (dates : ReadyDates) : (s.setDates id dates).Sound := by
  have hyears : ∀ j, (s.setDates id dates).years.get? j = if j = id then (s.years.get? j).map
      (AcademicYear.moved dates) else s.years.get? j :=
    fun j => Dict.get?_adjust s.years id j (AcademicYear.moved dates)
  have hin : ∀ x : Semester, x.academicYear = id → x.moved id dates =
      { x with
        startDate := (dates.semester x.sequence).1
        endDate := (dates.semester x.sequence).2 } := fun x hx => if_pos hx
  have hout : ∀ x : Semester, x.academicYear ≠ id → x.moved id dates = x := fun x hx => if_neg hx
  refine hs.rearrange (f := Semester.moved id dates) (fun x => ?_) rfl rfl ?_ (fun p hp => ?_) ?_
    (fun p hp => ?_) fun p hp q hq hne hsame => ?_
  · by_cases hx : x.academicYear = id
    · rw [hin x hx]
      exact ⟨rfl, rfl, rfl, fun h => h⟩
    · rw [hout x hx]
      exact ⟨rfl, rfl, rfl, fun h => h⟩
  · show (Dict.keys (s.years.adjust id (AcademicYear.moved dates))).Nodup
    rw [Dict.keys_adjust]
    exact hs.yearIds
  · obtain ⟨q, hq, rfl⟩ := List.mem_map.mp hp
    exact hs.freshYears q hq
  · exact hs.activeYear.adjust (f := AcademicYear.moved dates) hs.yearIds hget fun i hi => .inl hi
  · obtain ⟨z, hz, hwithin⟩ := hs.within p hp
    rw [hyears]
    by_cases hp' : p.2.academicYear = id
    · rw [if_pos hp', hz, hin p.2 hp']
      obtain ⟨hstart, horder, hstop⟩ := dates.within p.2.sequence
      exact ⟨_, rfl, hwithin.school, hstart, horder, hstop, hwithin.active⟩
    · rw [if_neg hp', hout p.2 hp']
      exact ⟨z, hz, hwithin⟩
  · by_cases hp' : p.2.academicYear = id
    · have hq' : q.2.academicYear = id := hsame.trans hp'
      have hdiffer : p.2.sequence ≠ q.2.sequence := by
        intro hsequence
        refine hne (hs.place q hq p hp (q.2.academicYear, q.2.sequence) rfl ?_)
        rw [← hsequence, hsame]
        rfl
      rw [hin p.2 hp', hin q.2 hq']
      obtain ⟨-, -, hbetween, -, -⟩ := dates.ordered
      -- One of them is the first semester, the other the second.
      rcases hterms p hp hp' with h₁ | h₂ <;> rcases hterms q hq hq' with h₁' | h₂'
      · exact absurd (h₁.trans h₁'.symm) hdiffer
      · exact .inl (by simpa [ReadyDates.semester, h₁, h₂'] using hbetween)
      · exact .inr (by simpa [ReadyDates.semester, h₂, h₁'] using hbetween)
      · exact absurd (h₂.trans h₂'.symm) hdiffer
    · have hq' : q.2.academicYear ≠ id := fun h => hp' (hsame.symm.trans h)
      rw [hout p.2 hp', hout q.2 hq']
      exact hs.apart p hp q hq hne hsame

def Semester.Covers (x : Semester) (day : Date) : Prop := x.startDate ≤ day ∧ day ≤ x.endDate

structure Calendars.Orderly (s : Calendars) : Prop where
  activeYears : ∀ school, (s.years.countP fun p =>
    p.2.school = school && p.2.status = .active) ≤ 1
  activeSemesters : ∀ school, (s.semesters.countP fun p =>
    p.2.school = school && p.2.status = .active) ≤ 1
  active : ∀ p ∈ s.semesters, p.2.status = .active → ∃ y,
    s.years.get? p.2.academicYear = some y ∧ y.school = p.2.school ∧ y.status = .active
  inside : ∀ p ∈ s.semesters, ∃ y, s.years.get? p.2.academicYear = some y ∧
    y.startDate ≤ p.2.startDate ∧ p.2.startDate ≤ p.2.endDate ∧ p.2.endDate ≤ y.endDate
  disjoint : ∀ p ∈ s.semesters, ∀ q ∈ s.semesters, p.1 ≠ q.1 →
    q.2.academicYear = p.2.academicYear → ∀ day, ¬ (p.2.Covers day ∧ q.2.Covers day)

theorem Calendars.Sound.orderly (hs : s.Sound) : s.Orderly where
  activeYears := by
    intro school
    apply hs.activeYear.countP_le_one (i := school) hs.yearIds
    intro p _ hp
    rw [Bool.and_eq_true, decide_eq_true_eq, decide_eq_true_eq] at hp
    exact AcademicYear.activeOf_eq_some.mpr ⟨hp.2, hp.1⟩
  activeSemesters := by
    intro school
    apply hs.activeSemester.countP_le_one (i := school) hs.semesterIds
    intro p _ hp
    rw [Bool.and_eq_true, decide_eq_true_eq, decide_eq_true_eq] at hp
    exact Semester.activeOf_eq_some.mpr ⟨hp.2, hp.1⟩
  active := by
    intro p hp hactive
    obtain ⟨y, hy, hwithin⟩ := hs.within p hp
    exact ⟨y, hy, hwithin.school.symm, hwithin.active hactive⟩
  inside := by
    intro p hp
    obtain ⟨y, hy, hwithin⟩ := hs.within p hp
    exact ⟨y, hy, hwithin.start, hwithin.order, hwithin.stop⟩
  disjoint := by
    rintro p hp q hq hne hsame day ⟨⟨hp₁, hp₂⟩, hq₁, hq₂⟩
    rcases hs.apart p hp q hq hne hsame with hlt | hlt
    · exact absurd (Nat.lt_of_lt_of_le hlt hq₁) (Nat.not_lt.mpr hp₂)
    · exact absurd (Nat.lt_of_lt_of_le hlt hp₁) (Nat.not_lt.mpr hq₂)

/-! ## Years -/

theorem find?_filter {α : Type} {l : List α} {f g : α → Bool} {a : α}
    (h : (l.filter f).find? g = some a) : a ∈ l ∧ f a = true ∧ g a = true := by
  have hmem := List.mem_filter.mp (List.mem_of_find?_eq_some h)
  exact ⟨hmem.1, hmem.2, List.find?_some h⟩

theorem Calendars.Sound.not_active (hs : s.Sound) {y : AcademicYear}
    (hget : s.years.get? id = some y) (hy : y.status ≠ .active) {p : ℕ × Semester}
    (hp : p ∈ s.semesters) (hid : p.2.academicYear = id) : p.2.status ≠ .active :=
  fun hactive => hy ((hs.within_year hget hp hid).active hactive)

theorem sound_activateYear (hs : s.Sound) (h : activateYear id s = .ok s') : s'.Sound := by
  unfold activateYear at h
  obtain ⟨year, hyear, h⟩ := year_bind_eq_ok.mp h
  dsimp only at h
  rw [ite_error_eq_ok, ite_error_eq_ok] at h
  obtain ⟨hother, hstatus, h⟩ := h
  obtain ⟨s₂, hclosed, hsave⟩ := bind_eq_ok.mp h
  have hsound₁ := hs.closeSemesters fun x => decide (x.school = year.school)
  have hinactive : ∀ p ∈ (s.closeSemesters fun x => decide (x.school = year.school)).semesters,
      p.2.school = year.school → p.2.status ≠ .active := by
    intro p hp hschool hactive
    have hopen := (active_closeSemesters hp hactive).2
    rw [decide_eq_false_iff_not] at hopen
    exact hopen hschool
  cases hcurrent : (s.years.filter fun p => p.2.school = year.school).find? fun p =>
      p.2.status = .active with
  | none =>
    rw [hcurrent, Option.elim_none, pure_eq_ok] at hclosed
    subst hclosed
    exact hsound₁.saveYearStatus hyear (fun _ _ _ _ => rfl) hsave
  | some p =>
    rw [hcurrent] at hclosed hother
    rw [Option.any_some, decide_eq_true_eq] at hother
    obtain ⟨hp, hschool, -⟩ := find?_filter hcurrent
    rw [decide_eq_true_eq] at hschool
    have hget : s.years.get? p.1 = some p.2 := hs.mem_year.mp hp
    -- The year that was active is closed; it has no active semester any more.
    have hsound₂ : s₂.Sound := by
      refine hsound₁.saveYearStatus hget (fun q hq hid hactive => ?_) hclosed
      have hwithin := hsound₁.within_year hget hq hid
      exact absurd hactive (hinactive q hq (hwithin.school.trans hschool))
    refine hsound₂.saveYearStatus ?_ (fun _ _ _ _ => rfl) hsave
    rw [(Calendars.get?_saveYear hclosed id).2, if_neg (Ne.symm hother)]
    exact hyear

theorem sound_createYear (hs : s.Sound) {school : ℕ} {name : Text} {startDate endDate : Date}
    {activate : Bool} (h : createYear school name startDate endDate activate s = .ok (id, s')) :
    s'.Sound := by
  unfold createYear at h
  obtain ⟨u, -, h⟩ := bind_eq_ok.mp h
  obtain ⟨⟨newId, s₁⟩, hinsert, h⟩ := bind_eq_ok.mp h
  dsimp only at h
  obtain ⟨s₂, hactivate, h⟩ := bind_eq_ok.mp h
  cases h
  have hsound₁ := hs.insertYear hinsert
  cases activate with
  | true => exact sound_activateYear hsound₁ hactivate
  | false => exact pure_eq_ok.mp hactivate ▸ hsound₁

theorem sound_updateYear (hs : s.Sound) {data : YearData} (h : updateYear id data s = .ok s') :
    s'.Sound := by
  unfold updateYear at h
  obtain ⟨year, hyear, h⟩ := year_bind_eq_ok.mp h
  obtain ⟨u, -, h⟩ := bind_eq_ok.mp h
  rw [ite_error_eq_ok] at h
  obtain ⟨hinside, h⟩ := h
  dsimp only at h
  split at h
  · exact pure_eq_ok.mp h ▸ hs
  · refine hs.saveYear hyear (fun p hp hid => ?_) h
    have hwithin := hs.within_year hyear hp hid
    rw [Bool.not_eq_true, List.any_eq_false] at hinside
    have hbounds := hinside p hp
    rw [decide_eq_true_eq, not_and, not_or, Nat.not_lt, Nat.not_lt] at hbounds
    obtain ⟨hstart, hstop⟩ := hbounds hid
    exact ⟨hwithin.school, hstart, hwithin.order, hstop, hwithin.active⟩

theorem sound_closeYear (hs : s.Sound) (h : closeYear id s = .ok s') : s'.Sound := by
  unfold closeYear at h
  obtain ⟨year, hyear, h⟩ := year_bind_eq_ok.mp h
  rw [ite_error_eq_ok] at h
  refine (hs.closeSemesters _).saveYearStatus hyear (fun p hp hid hactive => ?_) h.2
  have hopen := (active_closeSemesters hp hactive).2
  rw [decide_eq_false_iff_not] at hopen
  exact absurd hid hopen

theorem sound_archiveYear (hs : s.Sound) (h : archiveYear id s = .ok s') : s'.Sound := by
  unfold archiveYear at h
  obtain ⟨year, hyear, h⟩ := year_bind_eq_ok.mp h
  rw [ite_error_eq_ok] at h
  refine hs.saveYearStatus hyear (fun p hp hid hactive => ?_) h.2
  exact absurd hactive (hs.not_active hyear h.1 hp hid)

theorem validateSemesterDates_eq_ok {year : AcademicYear} {startDate endDate : Date} {u : Unit}
    (h : validateSemesterDates year startDate endDate = .ok u) :
    startDate ≤ endDate ∧ year.startDate ≤ startDate ∧ endDate ≤ year.endDate := by
  unfold validateSemesterDates at h
  rw [ite_error_eq_ok, ite_error_eq_ok, not_or, Nat.not_lt, Nat.not_lt, Nat.not_lt] at h
  exact ⟨h.1, h.2.1.1, h.2.1.2⟩

theorem validateNoOverlap_eq_ok {yearId : ℕ} {startDate endDate : Date} {except : Option ℕ}
    {u : Unit} (h : s.validateNoOverlap yearId startDate endDate except = .ok u)
    {p : ℕ × Semester} (hp : p ∈ s.semesters) (hyear : p.2.academicYear = yearId)
    (hexcept : some p.1 ≠ except) : p.2.endDate < startDate ∨ endDate < p.2.startDate := by
  unfold Calendars.validateNoOverlap at h
  rw [ite_error_eq_ok, Bool.not_eq_true, List.any_eq_false] at h
  have hnone := h.1 p hp
  rw [decide_eq_true_eq] at hnone
  by_contra hnot
  rw [not_or, Nat.not_lt, Nat.not_lt] at hnot
  exact hnone ⟨hyear, hnot.2, hnot.1, hexcept⟩

theorem sequenceConflict_eq_ok {α : Type} {r : Except Failure α} {a : α} :
    sequenceConflict r = .ok a ↔ r = .ok a := by
  unfold sequenceConflict
  split
  · exact ⟨fun h => (nomatch h), fun h => (nomatch h)⟩
  · exact Iff.rfl

theorem sound_activateSemester (hs : s.Sound) (h : activateSemester id s = .ok s') :
    s'.Sound := by
  unfold activateSemester at h
  obtain ⟨semester, hsemester, h⟩ := semester_bind_eq_ok.mp h
  obtain ⟨year, hyear, h⟩ := year_bind_eq_ok.mp h
  dsimp only at h
  rw [ite_error_eq_ok, ite_error_eq_ok, ite_error_eq_ok, not_not] at h
  obtain ⟨hactive, hother, -, h⟩ := h
  obtain ⟨s₁, hclosed, hsave⟩ := bind_eq_ok.mp h
  cases hcurrent : (s.semesters.filter fun p => p.2.school = semester.school).find? fun p =>
      p.2.status = .active with
  | none =>
    rw [hcurrent, Option.elim_none, pure_eq_ok] at hclosed
    subst hclosed
    exact hs.saveStatus hsemester .active hyear (fun _ => hactive) hsave
  | some p =>
    rw [hcurrent] at hclosed hother
    rw [Option.any_some, decide_eq_true_eq] at hother
    obtain ⟨hp, -, -⟩ := find?_filter hcurrent
    obtain ⟨z, hz, -⟩ := hs.within p hp
    have hsound₁ : s₁.Sound :=
      hs.saveStatus (hs.mem_semester.mp hp) .closed hz (fun h => nomatch h) hclosed
    obtain ⟨hyears, hget⟩ := Calendars.get?_saveSemester hclosed id
    refine hsound₁.saveStatus ?_ .active ?_ (fun _ => hactive) hsave
    · rw [hget, if_neg (Ne.symm hother)]
      exact hsemester
    · rw [hyears]
      exact hyear

theorem sound_createSemester (hs : s.Sound) {yearId sequence : ℕ} {name : Text}
    {startDate endDate : Date} {activate : Bool}
    (h : createSemester yearId name sequence startDate endDate activate s = .ok s') :
    s'.Sound := by
  unfold createSemester at h
  obtain ⟨year, hyear, h⟩ := year_bind_eq_ok.mp h
  obtain ⟨u, hdates, h⟩ := bind_eq_ok.mp h
  obtain ⟨horder, hstart, hstop⟩ := validateSemesterDates_eq_ok hdates
  obtain ⟨u', hoverlap, h⟩ := bind_eq_ok.mp h
  obtain ⟨⟨newId, s₁⟩, hinsert, h⟩ := bind_eq_ok.mp h
  rw [sequenceConflict_eq_ok] at hinsert
  have hsound₁ : s₁.Sound := by
    refine hs.insertSemester hyear ⟨rfl, hstart, horder, hstop, ?_⟩ (fun p hp hsame => ?_) hinsert
    · intro hactive
      cases hactive
    · exact validateNoOverlap_eq_ok hoverlap hp hsame (by simp)
  cases activate with
  | true => exact sound_activateSemester hsound₁ h
  | false => exact pure_eq_ok.mp h ▸ hsound₁

theorem sound_updateSemester (hs : s.Sound) {data : SemesterData}
    (h : updateSemester id data s = .ok s') : s'.Sound := by
  unfold updateSemester at h
  obtain ⟨semester, hsemester, h⟩ := semester_bind_eq_ok.mp h
  obtain ⟨year, hyear, h⟩ := year_bind_eq_ok.mp h
  dsimp only at h
  obtain ⟨u, hdates, h⟩ := bind_eq_ok.mp h
  obtain ⟨horder, hstart, hstop⟩ := validateSemesterDates_eq_ok hdates
  obtain ⟨u', hoverlap, h⟩ := bind_eq_ok.mp h
  have hwithin := hs.within_of_get? hsemester hyear
  split at h
  · exact pure_eq_ok.mp h ▸ hs
  · rw [sequenceConflict_eq_ok] at h
    refine hs.saveSemester (x := { semester with
        name := data.name.getD semester.name
        sequence := data.sequence.getD semester.sequence
        startDate := data.startDate.getD semester.startDate
        endDate := data.endDate.getD semester.endDate }) hsemester hyear
      ⟨hwithin.school, hstart, horder, hstop, hwithin.active⟩ (fun p hp hne hsame => ?_) h
    exact validateNoOverlap_eq_ok hoverlap hp hsame fun heq => hne (Option.some.inj heq)

/-! ## The calendar of the ministry -/

variable {school snapshotId : ℕ} {name : Text} {dates : ReadyDates} {today : Date}

theorem Calendars.Sound.withPolicies (hs : s.Sound) (policies : Dict ℕ SchoolCalendarPolicy) :
    ({ s with policies := policies } : Calendars).Sound :=
  ⟨hs.yearIds, hs.semesterIds, hs.freshYears, hs.freshSemesters, hs.activeYear,
    hs.activeSemester, hs.place, hs.within, hs.apart⟩

theorem sound_alignFutureBoundaries (hs : s.Sound) {year : AcademicYear}
    (hget : s.years.get? id = some year)
    (h : s.alignFutureBoundaries id year dates today = some s') : s'.Sound := by
  unfold Calendars.alignFutureBoundaries at h
  split at h
  · cases h
  · rename_i hterms
    split at h
    · cases h
    · cases h
      refine hs.setDates hget (fun p hp hid => ?_) dates
      rw [Bool.not_eq_true, Bool.not_eq_false'] at hterms
      unfold Calendars.hasTwoTerms at hterms
      rw [Bool.and_eq_true, List.all_eq_true] at hterms
      have hmem : p ∈ s.semestersOf id := List.mem_filter.mpr ⟨hp, decide_eq_true hid⟩
      exact of_decide_eq_true (hterms.2 p hmem)

theorem sound_adoptYear (hs : s.Sound) (h : adoptYear school name dates today s = .ok (id, s')) :
    s'.Sound := by
  unfold adoptYear at h
  split at h
  · rw [ite_error_eq_ok] at h
    exact sound_createYear hs h.2
  · rename_i found year hfound
    dsimp only at h
    rw [ite_error_eq_ok] at h
    obtain ⟨-, h⟩ := h
    split at h
    · rw [Except.ok.injEq, Prod.mk.injEq] at h
      exact h.2 ▸ hs
    · have hmem : (found, year) ∈ s.years := by
        have hfirst : (found, year) ∈ s.years.filter fun p =>
            p.2.school = school ∧ p.2.startDate = dates.yearStart := by
          rw [hfound]
          exact List.mem_cons_self
        exact (List.mem_filter.mp hfirst).1
      cases haligned : s.alignFutureBoundaries found year dates today with
      | none =>
        rw [haligned, Option.elim_none] at h
        cases h
      | some s₁ =>
        rw [haligned, Option.elim_some, Except.ok.injEq, Prod.mk.injEq] at h
        exact h.2 ▸ sound_alignFutureBoundaries hs (hs.mem_year.mp hmem) haligned
  · cases h

theorem sound_ensureSemester (hs : s.Sound) {sequence : ℕ}
    (h : ensureSemester id sequence name dates s = .ok s') : s'.Sound := by
  unfold ensureSemester at h
  split at h
  · rw [Except.ok.injEq] at h
    exact h ▸ hs
  · exact sound_createSemester hs h

theorem sound_linkYear (hs : s.Sound) {year : AcademicYear} (hget : s.years.get? id = some year)
    (h : (if year.ministrySnapshot ≠ some snapshotId then
      s.saveYear id { year with ministrySnapshot := some snapshotId } else pure s) = .ok s') :
    s'.Sound := by
  split at h
  · refine hs.saveYear hget (fun p hp hid => ?_) h
    have hwithin := hs.within_year hget hp hid
    exact ⟨hwithin.school, hwithin.start, hwithin.order, hwithin.stop, hwithin.active⟩
  · exact pure_eq_ok.mp h ▸ hs

theorem sound_ensureYear (hs : s.Sound)
    (h : ensureYear school snapshotId name dates today s = .ok (id, s')) : s'.Sound := by
  unfold ensureYear at h
  obtain ⟨⟨found, s₁⟩, hadopt, h⟩ := bind_eq_ok.mp h
  dsimp only at h
  obtain ⟨year, hyear, h⟩ := year_bind_eq_ok.mp h
  obtain ⟨s₂, hlink, h⟩ := bind_eq_ok.mp h
  obtain ⟨s₃, hfirst, h⟩ := bind_eq_ok.mp h
  obtain ⟨s₄, hsecond, h⟩ := bind_eq_ok.mp h
  rw [pure_eq_ok, Prod.mk.injEq] at h
  have hsound₂ := sound_linkYear (sound_adoptYear hs hadopt) hyear hlink
  exact h.2 ▸ sound_ensureSemester (sound_ensureSemester hsound₂ hfirst) hsecond

theorem sound_ensureCalendars (hs : s.Sound) {snapshot : MinistryCalendarSnapshot}
    (h : ensureCalendars school snapshot today s = .ok s') : s'.Sound := by
  refine foldlM_invariant (fun _ _ s => s.Sound) (fun _ calendar _ t t' ht hstep => ?_) hs h
  cases calendar with
  | ready name dates =>
    dsimp only at hstep
    split at hstep
    · exact pure_eq_ok.mp hstep ▸ ht
    · obtain ⟨⟨id, t₁⟩, hensure, hstep⟩ := bind_eq_ok.mp hstep
      exact pure_eq_ok.mp hstep ▸ sound_ensureYear ht hensure
  | incomplete => exact pure_eq_ok.mp hstep ▸ ht
  | invalid => exact pure_eq_ok.mp hstep ▸ ht

theorem sound_applyCurrent (hs : s.Sound) {a : SchoolActivity} {outcome : String}
    (h : applyCurrent school snapshotId name dates today a s = .ok (s', outcome)) :
    s'.Sound := by
  unfold applyCurrent at h
  obtain ⟨⟨found, s₁⟩, hensure, h⟩ := bind_eq_ok.mp h
  have hsound₁ := sound_ensureYear hs hensure
  dsimp only at h
  obtain ⟨year, -, h⟩ := bind_eq_ok.mp h
  split at h
  · exact (Prod.mk.inj (pure_eq_ok.mp h)).1 ▸ hsound₁
  split at h
  · exact (Prod.mk.inj (pure_eq_ok.mp h)).1 ▸ hsound₁
  obtain ⟨s₂, hactivate, h⟩ := bind_eq_ok.mp h
  have hsound₂ : s₂.Sound := by
    split at hactivate
    · exact sound_activateYear (hsound₁.closeSemesters _) hactivate
    · exact pure_eq_ok.mp hactivate ▸ hsound₁.closeSemesters _
  split at h
  · exact (Prod.mk.inj (pure_eq_ok.mp h)).1 ▸ hsound₂
  · obtain ⟨s₃, hsemester, h⟩ := bind_eq_ok.mp h
    rw [← (Prod.mk.inj (pure_eq_ok.mp h)).1]
    split at hsemester
    · exact sound_activateSemester hsound₂ hsemester
    · exact pure_eq_ok.mp hsemester ▸ hsound₂

theorem sound_applyCalendars (hs : s.Sound) {snapshot : MinistryCalendarSnapshot}
    {a : SchoolActivity} {outcome : String}
    (h : applyCalendars school snapshot today a s = .ok (s', outcome)) : s'.Sound := by
  unfold applyCalendars at h
  obtain ⟨s₁, hensure, h⟩ := bind_eq_ok.mp h
  have hsound₁ := sound_ensureCalendars hs hensure
  split at h
  · exact (Prod.mk.inj (pure_eq_ok.mp h)).1 ▸ hsound₁
  · exact (Prod.mk.inj (pure_eq_ok.mp h)).1 ▸ hsound₁
  · exact (Prod.mk.inj (pure_eq_ok.mp h)).1 ▸ hsound₁
  · split at h
    · exact (Prod.mk.inj (pure_eq_ok.mp h)).1 ▸ hsound₁.closeSemesters _
    · exact sound_applyCurrent hsound₁ h

theorem sound_applySchoolCalendar (hs : s.Sound) {snapshot : MinistryCalendarSnapshot}
    {a : SchoolActivity} {outcome : String}
    (h : applySchoolCalendar school snapshot today a s = .ok (s', outcome)) : s'.Sound := by
  unfold applySchoolCalendar at h
  split at h
  · rw [Except.ok.injEq, Prod.mk.injEq] at h
    exact h.1 ▸ hs
  · split at h
    · rename_i hcalendars
      rw [Except.ok.injEq, Prod.mk.injEq] at h
      exact h.1 ▸ (sound_applyCalendars hs hcalendars).withPolicies _
    · rw [Except.ok.injEq, Prod.mk.injEq] at h
      exact h.1 ▸ hs.withPolicies _
    · cases h

theorem map_eq_ok {α β : Type} {r : Except Failure α} {f : α → β} {b : β}
    (h : r.map f = .ok b) : ∃ a, r = .ok a ∧ f a = b := by
  cases r with
  | error e => cases h
  | ok a => exact ⟨a, rfl, Except.ok.inj h⟩

theorem Calendars.Sound.handle (hs : s.Sound) (call : CalendarCall) : (s.handle call).Sound := by
  unfold Calendars.handle
  cases h : call.outcome s with
  | error e => exact hs
  | ok s' =>
    show s'.Sound
    cases call with
    | createYear school name startDate endDate activate =>
      obtain ⟨⟨id, t⟩, hcreate, rfl⟩ := map_eq_ok h
      exact sound_createYear hs hcreate
    | updateYear id data => exact sound_updateYear hs h
    | activateYear id => exact sound_activateYear hs h
    | closeYear id => exact sound_closeYear hs h
    | archiveYear id => exact sound_archiveYear hs h
    | createSemester yearId name sequence startDate endDate activate =>
      exact sound_createSemester hs h
    | updateSemester id data => exact sound_updateSemester hs h
    | activateSemester id => exact sound_activateSemester hs h
    | applySchoolCalendar school snapshot today activity =>
      obtain ⟨⟨t, outcome⟩, happly, rfl⟩ := map_eq_ok h
      exact sound_applySchoolCalendar hs happly
    | configureCalendarScope school profile scopeNote =>
      have hscope : configureCalendarScope school profile scopeNote s = .ok s' := h
      unfold configureCalendarScope at hscope
      rw [ite_error_eq_ok, ite_error_eq_ok, Except.ok.injEq] at hscope
      exact hscope.2.2 ▸ hs.withPolicies _

theorem Calendars.Sound.play (hs : s.Sound) (calls : List CalendarCall) :
    (s.play calls).Sound := by
  induction calls generalizing s with
  | nil => exact hs
  | cons call calls ih => exact ih (hs.handle call)

/-- **The calendar stays in order**: after any calls, a school has one active year and one active
semester at most, the active semester is of the active year, semesters lie inside their years, and
those of one year have no day in common. -/
theorem calendar_orderly (hs : s.Sound) (calls : List CalendarCall) : (s.play calls).Orderly :=
  (hs.play calls).orderly

theorem sound_empty (policies : Dict ℕ SchoolCalendarPolicy) :
    ({ policies := policies } : Calendars).Sound :=
  ⟨List.nodup_nil, List.nodup_nil, fun _ hp => absurd hp List.not_mem_nil,
    fun _ hp => absurd hp List.not_mem_nil, Dict.unique_nil, Dict.unique_nil, Dict.unique_nil,
    fun _ hp => absurd hp List.not_mem_nil, fun _ hp => absurd hp List.not_mem_nil⟩

def officialDates : ReadyDates :=
  ⟨1000, 1300, 1000, 1140, 1150, 1300, by decide, by decide⟩

def adoptionCalls : List CalendarCall :=
  [.createYear 1 ['a'] 1000 1290 true, .createSemester 1 ['b'] 1 1010 1100 true,
    .configureCalendarScope 1 .national "national school".toList,
    .applySchoolCalendar 1 ⟨9, [.ready ['c'] officialDates]⟩ 900 {},
    .applySchoolCalendar 1 ⟨9, [.ready ['c'] officialDates]⟩ 1200 {}]

/-- The second semester is active in the end. -/
theorem calendar_orderly_of_adoption : (Calendars.play {} adoptionCalls).Orderly ∧
    (Calendars.play {} adoptionCalls).semesters.map (fun p => (p.2.sequence, p.2.status)) =
      [(1, .closed), (2, .active)] :=
  ⟨calendar_orderly (sound_empty []) adoptionCalls, by decide +kernel⟩

end SchoolPlatform.Academics
