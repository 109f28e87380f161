import SchoolPlatform.Analysis.CalendarPolicies
import SchoolPlatform.Analysis.CalendarRepeats
import SchoolPlatform.Analysis.TheoremMinistrySource

/-!
# Applying a calendar twice

The application of the ministry's calendar runs again and again. Whatever it reports, a second run on
the same day leaves years and semesters as the first one did and publishes nothing: the years of the
calendars are prepared, the year and the semester of today are active, and no semester is left to
close. When it reports an error of the services it has changed nothing, and when it waits, for
enrollments or for the source, it has prepared the years of calendars and changed no status.
-/

namespace SchoolPlatform.Academics

open Fallible

variable {s s' t : Calendars} {school snapshotId id : ℕ} {name : Text} {dates : ReadyDates}
  {today : Date} {starts : List Date}

variable {calendars : List MinistryCalendar} {changed : Bool} {outcome : String}
  {a : SchoolActivity}

/-! ## Calendars that differ in statuses -/

def AcademicYear.layout (y : AcademicYear) : AcademicYear := { y with status := .upcoming }

def Semester.layout (x : Semester) : Semester := { x with status := .upcoming }

structure Calendars.Resembles (s s' : Calendars) : Prop where
  years : ∀ j, (s'.years.get? j).map AcademicYear.layout =
    (s.years.get? j).map AcademicYear.layout
  semesters : ∀ j, (s'.semesters.get? j).map Semester.layout =
    (s.semesters.get? j).map Semester.layout

theorem Calendars.Resembles.symm (h : s.Resembles s') : s'.Resembles s :=
  ⟨fun j => (h.years j).symm, fun j => (h.semesters j).symm⟩

theorem Calendars.Resembles.trans (h : s.Resembles t) (h' : t.Resembles s') : s.Resembles s' :=
  ⟨fun j => (h'.years j).trans (h.years j), fun j => (h'.semesters j).trans (h.semesters j)⟩

theorem Calendars.Resembles.year (h : s.Resembles s') {j : ℕ} {y' : AcademicYear}
    (hy : s'.years.get? j = some y') : ∃ y, s.years.get? j = some y ∧ y.layout = y'.layout := by
  have hsame := h.years j
  rw [hy, Option.map_some] at hsame
  exact Option.map_eq_some_iff.mp hsame.symm

theorem Calendars.Resembles.semester (h : s.Resembles s') {j : ℕ} {x' : Semester}
    (hx : s'.semesters.get? j = some x') :
    ∃ x, s.semesters.get? j = some x ∧ x.layout = x'.layout := by
  have hsame := h.semesters j
  rw [hx, Option.map_some] at hsame
  exact Option.map_eq_some_iff.mp hsame.symm

theorem Calendars.Resembles.hasTerm (h : s.Resembles s') {sequence : ℕ}
    (hterm : s.HasTerm id sequence) : s'.HasTerm id sequence := by
  obtain ⟨j, x, hx, hyear, hsequence⟩ := hterm
  obtain ⟨x', hx', hlayout⟩ := h.symm.semester hx
  refine ⟨j, x', hx', ?_, ?_⟩
  · rw [← hyear]
    exact (congrArg Semester.academicYear hlayout :)
  · rw [← hsequence]
    exact (congrArg Semester.sequence hlayout :)

theorem Prepared.resembles (hp : Prepared school snapshotId dates id s) (h : s.Resembles s') :
    Prepared school snapshotId dates id s' := by
  refine ⟨?_, ?_, ?_, h.hasTerm hp.first, h.hasTerm hp.second⟩
  · obtain ⟨y, hy, hschool, hstart, hend, hlink⟩ := hp.year
    obtain ⟨y', hy', hlayout⟩ := h.symm.year hy
    refine ⟨y', hy', ?_, ?_, ?_, ?_⟩
    · exact (congrArg AcademicYear.school hlayout :).trans hschool
    · exact (congrArg AcademicYear.startDate hlayout :).trans hstart
    · exact (congrArg AcademicYear.endDate hlayout :).trans hend
    · exact (congrArg AcademicYear.ministrySnapshot hlayout :).trans hlink
  · intro j y' hy' hschool hstart
    obtain ⟨y, hy, hlayout⟩ := h.year hy'
    refine hp.only j y hy ?_ ?_
    · exact (congrArg AcademicYear.school hlayout :).trans hschool
    · exact (congrArg AcademicYear.startDate hlayout :).trans hstart
  · intro j x' hx' hyear
    obtain ⟨x, hx, hlayout⟩ := h.semester hx'
    have hyear' : x.academicYear = x'.academicYear := (congrArg Semester.academicYear hlayout :)
    have hsequence : x.sequence = x'.sequence := (congrArg Semester.sequence hlayout :)
    have hstart : x.startDate = x'.startDate := (congrArg Semester.startDate hlayout :)
    have hend : x.endDate = x'.endDate := (congrArg Semester.endDate hlayout :)
    have hterm := hp.terms j x hx (hyear'.trans hyear)
    rw [hsequence, hstart, hend] at hterm
    exact hterm

theorem Semester.layout_closeIf (p : Semester → Bool) (x : Semester) :
    (x.closeIf p).layout = x.layout := by
  rcases Semester.closeIf_cases p x with ⟨heq, -⟩ | ⟨-, heq⟩ <;> rw [heq]
  rfl

theorem Calendars.resembles_closeSemesters (s : Calendars) (p : Semester → Bool) :
    s.Resembles (s.closeSemesters p) := by
  refine ⟨fun _ => rfl, fun j => ?_⟩
  show ((s.semesters.mapValues fun _ => Semester.closeIf p).get? j).map Semester.layout = _
  rw [Dict.get?_mapValues, Option.map_map]
  congr 1
  funext x
  exact Semester.layout_closeIf p x

theorem Calendars.resembles_saveYear {y : AcademicYear} {status : AcademicYearStatus}
    (hy : s.years.get? id = some y) (h : s.saveYear id { y with status := status } = .ok s') :
    s.Resembles s' := by
  refine ⟨fun j => ?_, fun j => ?_⟩
  · rw [(Calendars.get?_saveYear h j).2]
    by_cases hj : j = id
    · rw [if_pos hj, hj, hy]
      rfl
    · rw [if_neg hj]
  · rw [(Calendars.get?_saveYear h j).1]

theorem Calendars.resembles_saveSemester {x : Semester} {status : SemesterStatus}
    (hx : s.semesters.get? id = some x)
    (h : s.saveSemester id { x with status := status } = .ok s') : s.Resembles s' := by
  refine ⟨fun j => ?_, fun j => ?_⟩
  · rw [(Calendars.get?_saveSemester h j).1]
  · rw [(Calendars.get?_saveSemester h j).2]
    by_cases hj : j = id
    · rw [if_pos hj, hj, hx]
      rfl
    · rw [if_neg hj]

/-! ## What activating changes -/

def Calendars.NoneEnded (school : ℕ) (today : Date) (s : Calendars) : Prop :=
  ∀ p ∈ s.semesters, p.2.school = school → p.2.status = .active → today ≤ p.2.endDate

theorem Calendars.noneEnded_closeEnded (s : Calendars) (school : ℕ) (today : Date) :
    (s.closeEnded school today).NoneEnded school today := by
  intro p hp hschool hactive
  have hopen := (active_closeSemesters hp hactive).2
  rw [decide_eq_false_iff_not, not_and, Nat.not_lt] at hopen
  exact hopen hschool

theorem Calendars.NoneEnded.closeSemesters (h : s.NoneEnded school today) (p : Semester → Bool) :
    (s.closeSemesters p).NoneEnded school today := by
  intro q hq hschool hactive
  exact h q (active_closeSemesters hq hactive).1 hschool hactive

theorem Calendars.NoneEnded.hasEnded (h : s.NoneEnded school today) :
    s.hasEnded school today = false := by
  unfold Calendars.hasEnded
  rw [List.any_eq_false]
  intro p hp hended
  obtain ⟨hschool, hactive, hlt⟩ := of_decide_eq_true hended
  exact Nat.not_lt.mpr (h p hp hschool hactive) hlt

theorem Calendars.NoneEnded.closeEnded (h : s.NoneEnded school today) :
    s.closeEnded school today = s := by
  have hrow : ∀ p ∈ s.semesters,
      p.2.closeIf (fun x => x.school = school ∧ x.endDate < today) = p.2 := by
    intro p hp
    unfold Semester.closeIf Semester.close
    by_cases hactive : p.2.status = .active
    · refine if_neg fun hcond => ?_
      obtain ⟨hschool, hlt⟩ := of_decide_eq_true hcond
      exact Nat.not_lt.mpr (h p hp hschool hactive) hlt
    · rw [if_neg hactive, ite_self]
  have hsame : (s.semesters.mapValues fun _ => Semester.closeIf fun x =>
      x.school = school ∧ x.endDate < today) = s.semesters := by
    unfold Dict.mapValues
    rw [List.map_congr_left (g := fun p => p), List.map_id']
    intro p hp
    exact Prod.ext rfl (hrow p hp)
  unfold Calendars.closeEnded Calendars.closeSemesters
  rw [hsame]

structure Activated (id : ℕ) (year : AcademicYear) (s s' : Calendars) : Prop where
  resembles : s.Resembles s'
  active : s'.years.get? id = some { year with status := .active }
  semesters : s'.semesters = (s.closeSemesters fun x => x.school = year.school).semesters

theorem activated_activateYear {year : AcademicYear} (hs : s.Sound)
    (hyear : s.years.get? id = some year) (h : activateYear id s = .ok s') :
    Activated id year s s' := by
  unfold activateYear at h
  rw [Calendars.year_eq_ok.mpr hyear] at h
  dsimp only [bind, Except.bind] at h
  rw [ite_error_eq_ok, ite_error_eq_ok] at h
  obtain ⟨hother, -, h⟩ := h
  obtain ⟨s₂, hclosed, hsave⟩ := bind_eq_ok.mp h
  have hclose := s.resembles_closeSemesters fun x => decide (x.school = year.school)
  cases hcurrent : (s.years.filter fun p => p.2.school = year.school).find? fun p =>
      p.2.status = .active with
  | none =>
    rw [hcurrent, Option.elim_none, pure_eq_ok] at hclosed
    subst hclosed
    refine ⟨hclose.trans (Calendars.resembles_saveYear hyear hsave), ?_,
      (Calendars.get?_saveYear hsave id).1⟩
    rw [(Calendars.get?_saveYear hsave id).2, if_pos rfl]
    show (s.years.get? id).map _ = _
    rw [hyear]
    rfl
  | some p =>
    rw [hcurrent] at hclosed hother
    rw [Option.any_some, decide_eq_true_eq] at hother
    have hget : s.years.get? p.1 = some p.2 := hs.mem_year.mp (find?_filter hcurrent).1
    have hkept : s₂.years.get? id = some year := by
      rw [(Calendars.get?_saveYear hclosed id).2, if_neg (Ne.symm hother)]
      exact hyear
    refine ⟨(hclose.trans (Calendars.resembles_saveYear hget hclosed)).trans
      (Calendars.resembles_saveYear hkept hsave), ?_, ?_⟩
    · rw [(Calendars.get?_saveYear hsave id).2, if_pos rfl, hkept]
      rfl
    · rw [(Calendars.get?_saveYear hsave id).1, (Calendars.get?_saveYear hclosed id).1]

structure TermActivated (id : ℕ) (x : Semester) (s s' : Calendars) : Prop where
  resembles : s.Resembles s'
  years : s'.years = s.years
  active : s'.semesters.get? id = some { x with status := .active }
  others : ∀ j x', j ≠ id → s'.semesters.get? j = some x' → x'.status = .active →
    s.semesters.get? j = some x'

theorem activated_activateSemester {x : Semester} (hs : s.Sound)
    (hx : s.semesters.get? id = some x) (h : activateSemester id s = .ok s') :
    TermActivated id x s s' := by
  unfold activateSemester at h
  obtain ⟨x', hx', h⟩ := semester_bind_eq_ok.mp h
  cases hx.symm.trans hx'
  obtain ⟨year, -, h⟩ := bind_eq_ok.mp h
  rw [ite_error_eq_ok, ite_error_eq_ok, ite_error_eq_ok] at h
  obtain ⟨-, hother, -, h⟩ := h
  obtain ⟨s₂, hclosed, hsave⟩ := bind_eq_ok.mp h
  have hlast : ∀ j, s'.semesters.get? j = if j = id then
      (s₂.semesters.get? j).map fun _ => { x with status := .active }
      else s₂.semesters.get? j := fun j => (Calendars.get?_saveSemester hsave j).2
  cases hcurrent : (s.semesters.filter fun p => p.2.school = x.school).find? fun p =>
      p.2.status = .active with
  | none =>
    rw [hcurrent, Option.elim_none, pure_eq_ok] at hclosed
    subst hclosed
    refine ⟨Calendars.resembles_saveSemester hx hsave, (Calendars.get?_saveSemester hsave id).1,
      ?_, ?_⟩
    · rw [hlast, if_pos rfl, hx]
      rfl
    · intro j x' hj hx' _
      rw [hlast, if_neg hj] at hx'
      exact hx'
  | some p =>
    rw [hcurrent] at hclosed hother
    rw [Option.any_some, decide_eq_true_eq] at hother
    have hget : s.semesters.get? p.1 = some p.2 := hs.mem_semester.mp (find?_filter hcurrent).1
    have hkept : s₂.semesters.get? id = some x := by
      rw [(Calendars.get?_saveSemester hclosed id).2, if_neg (Ne.symm hother)]
      exact hx
    refine ⟨(Calendars.resembles_saveSemester hget hclosed).trans
      (Calendars.resembles_saveSemester hkept hsave), ?_, ?_, ?_⟩
    · rw [(Calendars.get?_saveSemester hsave id).1, (Calendars.get?_saveSemester hclosed id).1]
    · rw [hlast, if_pos rfl, hkept]
      rfl
    · intro j x' hj hx' hactive
      rw [hlast, if_neg hj, (Calendars.get?_saveSemester hclosed j).2] at hx'
      by_cases hjp : j = p.1
      · rw [if_pos hjp, hjp, hget, Option.map_some, Option.some.injEq] at hx'
        rw [← hx'] at hactive
        cases hactive
      · rw [if_neg hjp] at hx'
        exact hx'

/-! ## The calendars that are ensured -/

def MinistryCalendar.readyStart (today : Date) : MinistryCalendar → Option Date
  | .ready _ dates => if dates.yearEnd < today then none else some dates.yearStart
  | _ => none

def MinistryCalendarSnapshot.readyStarts (snapshot : MinistryCalendarSnapshot) (today : Date) :
    List Date :=
  snapshot.calendars.filterMap (MinistryCalendar.readyStart today)

def PreparedAll (school snapshotId : ℕ) (today : Date) (calendars : List MinistryCalendar)
    (s : Calendars) : Prop :=
  ∀ name dates, MinistryCalendar.ready name dates ∈ calendars → ¬ dates.yearEnd < today →
    ∃ id, Prepared school snapshotId dates id s

variable {snapshot : MinistryCalendarSnapshot}

theorem mem_readyStarts (hmem : MinistryCalendar.ready name dates ∈ snapshot.calendars)
    (hend : ¬ dates.yearEnd < today) : dates.yearStart ∈ snapshot.readyStarts today := by
  refine List.mem_filterMap.mpr ⟨_, hmem, ?_⟩
  exact if_neg hend

theorem PreparedAll.append_skip {calendar : MinistryCalendar}
    (h : PreparedAll school snapshotId today calendars s)
    (hskip : ∀ name dates, calendar = .ready name dates → dates.yearEnd < today) :
    PreparedAll school snapshotId today (calendars ++ [calendar]) s := by
  intro name dates hmem hend
  rcases List.mem_append.mp hmem with hmem | hmem
  · exact h name dates hmem hend
  · exact absurd (hskip name dates (List.mem_singleton.mp hmem).symm) hend

theorem PreparedAll.append_ensured (h : PreparedAll school snapshotId today calendars s)
    (hensured : Ensured school snapshotId dates id s s')
    (hother : ∀ calendar ∈ calendars, calendar.yearStart ≠ dates.yearStart) :
    PreparedAll school snapshotId today (calendars ++ [.ready name dates]) s' := by
  intro name' dates' hmem hend
  rcases List.mem_append.mp hmem with hmem | hmem
  · obtain ⟨id', hp⟩ := h name' dates' hmem hend
    exact ⟨id', hp.ensured hensured (hother _ hmem)⟩
  · have hsame := List.mem_singleton.mp hmem
    rw [MinistryCalendar.ready.injEq] at hsame
    rw [hsame.2]
    exact ⟨id, hensured.prepared⟩

theorem PreparedAll.resembles (h : PreparedAll school snapshotId today calendars s)
    (hsame : s.Resembles s') : PreparedAll school snapshotId today calendars s' := by
  intro name dates hmem hend
  obtain ⟨id, hp⟩ := h name dates hmem hend
  exact ⟨id, hp.resembles hsame⟩

structure EnsuredAll (school snapshotId : ℕ) (today : Date) (starts : List Date)
    (calendars : List MinistryCalendar) (s s' : Calendars) : Prop where
  sound : s'.Sound
  prepared : PreparedAll school snapshotId today calendars s'
  prepares : Prepares school starts s s'

theorem ensuredAll_ensureCalendars (hs : s.Sound)
    (hstarts : (snapshot.calendars.map MinistryCalendar.yearStart).Nodup)
    (h : ensureCalendars school snapshot today s = .ok s') :
    EnsuredAll school snapshot.id today (snapshot.readyStarts today) snapshot.calendars s s' := by
  unfold ensureCalendars at h
  refine (foldlM_invariant (fun pre rest t => pre ++ rest = snapshot.calendars ∧
    EnsuredAll school snapshot.id today (snapshot.readyStarts today) pre s t) ?_
      ⟨rfl, hs, ?_, ?_⟩ h).2
  · rintro pre calendar rest t t' ⟨hall, ht⟩ hstep
    have hnext : (pre ++ [calendar]) ++ rest = snapshot.calendars := by
      rw [List.append_assoc, List.singleton_append]
      exact hall
    refine ⟨hnext, ?_⟩
    cases calendar with
    | incomplete name yearStart =>
      rw [pure_eq_ok] at hstep
      rw [← hstep]
      exact ⟨ht.sound, ht.prepared.append_skip fun _ _ heq => (nomatch heq), ht.prepares⟩
    | invalid name yearStart =>
      rw [pure_eq_ok] at hstep
      rw [← hstep]
      exact ⟨ht.sound, ht.prepared.append_skip fun _ _ heq => (nomatch heq), ht.prepares⟩
    | ready name dates =>
      dsimp only at hstep
      split at hstep
      · rename_i hended
        rw [pure_eq_ok] at hstep
        rw [← hstep]
        refine ⟨ht.sound, ht.prepared.append_skip ?_, ht.prepares⟩
        intro name' dates' heq
        rw [MinistryCalendar.ready.injEq] at heq
        rw [← heq.2]
        exact hended
      · rename_i hended
        obtain ⟨⟨id, t₁⟩, hensure, hstep⟩ := bind_eq_ok.mp hstep
        rw [pure_eq_ok] at hstep
        dsimp only at hstep
        rw [← hstep]
        have hensured := ensured_ensureYear ht.sound hensure
        have hmem : MinistryCalendar.ready name dates ∈ snapshot.calendars := by
          rw [← hall]
          exact List.mem_append_right pre List.mem_cons_self
        refine ⟨sound_ensureYear ht.sound hensure, ht.prepared.append_ensured hensured ?_,
          ht.prepares.trans (hensured.prepares (mem_readyStarts hmem hended))⟩
        intro calendar hcalendar hsame
        rw [← hall, List.map_append, List.nodup_append] at hstarts
        exact hstarts.2.2 _ (List.mem_map_of_mem hcalendar) _
          (List.mem_map_of_mem List.mem_cons_self) hsame
  · intro name dates hmem
    cases hmem
  · exact Prepares.refl school _ s

theorem PreparedAll.ensureCalendars (hs : s.Sound)
    (h : PreparedAll school snapshot.id today snapshot.calendars s) :
    Academics.ensureCalendars school snapshot today s = .ok s ∨
      Academics.ensureCalendars school snapshot today s = .error existingDatesConflict := by
  unfold Academics.ensureCalendars
  generalize snapshot.calendars = calendars at h
  induction calendars with
  | nil => exact .inl rfl
  | cons calendar rest ih =>
    have hrest := ih fun name dates hmem => h name dates (List.mem_cons_of_mem _ hmem)
    rw [List.foldlM_cons]
    cases calendar with
    | incomplete name yearStart => exact hrest
    | invalid name yearStart => exact hrest
    | ready name dates =>
      dsimp only
      by_cases hended : dates.yearEnd < today
      · rw [if_pos hended]
        exact hrest
      · rw [if_neg hended]
        obtain ⟨id, hp⟩ := h name dates List.mem_cons_self hended
        obtain ⟨y, hy, -⟩ := hp.year
        by_cases hopen : y.Open
        · rw [hp.ensureYear_of_open hs hy hopen]
          exact hrest
        · rw [hp.ensureYear_of_not_open hs hy hopen]
          exact .inr rfl

theorem termOfToday_eq_some (hs : s.Sound) {p : ℕ × Semester} :
    s.termOfToday id today = some p ↔
      p ∈ s.semesters ∧ p.2.academicYear = id ∧ p.2.Covers today := by
  have hfound : ∀ q, s.termOfToday id today = some q →
      q ∈ s.semesters ∧ q.2.academicYear = id ∧ q.2.Covers today := by
    intro q hq
    obtain ⟨hmem, hcovers⟩ := List.mem_filter.mp (List.argmin_mem hq)
    obtain ⟨hmem, hyear⟩ := List.mem_filter.mp hmem
    rw [decide_eq_true_eq] at hcovers
    exact ⟨hmem, of_decide_eq_true hyear, hcovers⟩
  refine ⟨hfound p, ?_⟩
  rintro ⟨hmem, hyear, hcovers⟩
  have hcandidate : p ∈ (s.semestersOf id).filter fun p =>
      p.2.startDate ≤ today ∧ today ≤ p.2.endDate :=
    List.mem_filter.mpr
      ⟨List.mem_filter.mpr ⟨hmem, decide_eq_true hyear⟩, decide_eq_true hcovers⟩
  cases hterm : s.termOfToday id today with
  | none =>
    rw [List.argmin_eq_none.mp hterm] at hcandidate
    cases hcandidate
  | some q =>
    obtain ⟨hq, hqyear, hqcovers⟩ := hfound q hterm
    by_cases hid : p.1 = q.1
    · have hrow := hs.mem_semester.mp hmem
      rw [hid, hs.mem_semester.mp hq, Option.some.injEq] at hrow
      rw [Option.some.injEq]
      exact Prod.ext hid.symm hrow
    · have hdisjoint := hs.orderly.disjoint p hmem q hq hid (hqyear.trans hyear.symm) today
      exact absurd ⟨hcovers, hqcovers⟩ hdisjoint

theorem switchTerm_repeats {u : Calendars} (hu : u.Sound) (hended : u.NoneEnded school today)
    {changed' : Bool}
    (h : switchTerm (u.termOfToday id today) changed u = .ok (s', outcome, changed')) :
    s'.Sound ∧ u.Resembles s' ∧ s'.years = u.years ∧ s'.NoneEnded school today ∧
      switchTerm (s'.termOfToday id today) false s' = .ok (s', outcome, false) ∧
      (outcome = "BETWEEN_SEMESTERS" ∨ outcome = "APPLIED") := by
  have hsame : u.Resembles u := ⟨fun _ => rfl, fun _ => rfl⟩
  cases hterm : u.termOfToday id today with
  | none =>
    rw [hterm] at h
    unfold switchTerm at h
    cases h
    refine ⟨hu, hsame, rfl, hended, ?_, .inl rfl⟩
    rw [hterm]
    rfl
  | some p =>
    obtain ⟨j, x⟩ := p
    rw [hterm] at h
    unfold switchTerm at h
    dsimp only at h
    obtain ⟨hmem, hyear, hcovers⟩ := (termOfToday_eq_some hu).mp hterm
    by_cases hactive : x.status = .active
    · rw [if_neg (not_not.mpr hactive)] at h
      cases h
      refine ⟨hu, hsame, rfl, hended, ?_, .inr rfl⟩
      rw [hterm]
      exact if_neg (not_not.mpr hactive)
    · rw [if_pos hactive] at h
      obtain ⟨u', hactivate, hreport⟩ := map_eq_ok h
      cases hreport
      have hsound := sound_activateSemester hu hactivate
      have hdone := activated_activateSemester hu (hu.mem_semester.mp hmem) hactivate
      have hnow : s'.termOfToday id today = some (j, { x with status := .active }) :=
        (termOfToday_eq_some hsound).mpr ⟨hsound.mem_semester.mpr hdone.active, hyear, hcovers⟩
      refine ⟨hsound, hdone.resembles, hdone.years, ?_, ?_, .inr rfl⟩
      · rintro ⟨k, x'⟩ hmem' hschool hactive'
        have hget := hsound.mem_semester.mp hmem'
        by_cases hk : k = j
        · rw [hk, hdone.active, Option.some.injEq] at hget
          rw [← hget]
          exact hcovers.2
        · have hold := hdone.others k x' hk hget hactive'
          exact hended (k, x') (hu.mem_semester.mpr hold) hschool hactive'
      · rw [hnow]
        rfl

/-- What a run about the year of today leaves. -/
structure CurrentApplied (t s' : Calendars) (outcome : String) (again : Prop) : Prop where
  sound : s'.Sound
  resembles : t.Resembles s'
  again : again
  waits : outcome = "BETWEEN_SEMESTERS" ∨ outcome = "APPLIED" ∨
    (outcome = "DAY_ALREADY_IN_USE" ∨ outcome = "ENROLLMENTS_NOT_READY") ∧ s' = t

theorem applyCurrentReport_repeats (ht : t.Sound) (hp : Prepared school snapshotId dates id t)
    (h : applyCurrentReport school snapshotId name dates today a t = .ok (s', outcome, changed)) :
    CurrentApplied t s' outcome
      (applyCurrentReport school snapshotId name dates today a s' = .ok (s', outcome, false)) := by
  obtain ⟨y, hy, hschool, -⟩ := hp.year
  have hrun := h
  unfold applyCurrentReport at h
  by_cases hopen : y.Open
  swap
  · rw [hp.ensureYear_of_not_open ht hy hopen] at h
    cases h
  rw [hp.ensureYear_of_open ht hy hopen] at h
  dsimp only [bind, Except.bind] at h
  rw [Calendars.year_eq_ok.mpr hy] at h
  dsimp only at h
  by_cases hbusy : y.status ≠ .active ∧ a.sessionYearsToday.any fun y => y ≠ id
  · rw [if_pos hbusy] at h
    cases h
    exact ⟨ht, ⟨fun _ => rfl, fun _ => rfl⟩, hrun, .inr (.inr ⟨.inl rfl, rfl⟩)⟩
  rw [if_neg hbusy] at h
  by_cases hunready : y.status ≠ .active ∧ !a.enrollmentsReady id today
  · rw [if_pos hunready] at h
    cases h
    exact ⟨ht, ⟨fun _ => rfl, fun _ => rfl⟩, hrun, .inr (.inr ⟨.inr rfl, rfl⟩)⟩
  rw [if_neg hunready] at h
  -- The year is active from here on, and no semester is left to close.
  have hswitch : ∃ u changed', switchTerm (u.termOfToday id today) changed' u =
      .ok (s', outcome, changed) ∧ u.Sound ∧ t.Resembles u ∧ u.NoneEnded school today ∧
        u.years.get? id = some { y with status := .active } := by
    unfold switchYear at h
    have hclosed := t.resembles_closeSemesters fun x => x.school = school ∧ x.endDate < today
    have hsound : (t.closeEnded school today).Sound := ht.closeSemesters _
    have hended := t.noneEnded_closeEnded school today
    by_cases hactive : y.status = .active
    · rw [if_neg (not_not.mpr hactive)] at h
      refine ⟨_, _, h, hsound, hclosed, hended, ?_⟩
      rw [← hactive]
      exact hy
    · rw [if_pos hactive] at h
      cases hactivate : activateYear id (t.closeEnded school today) with
      | error e =>
        rw [hactivate] at h
        cases h
      | ok u =>
        rw [hactivate] at h
        have hdone := activated_activateYear hsound hy hactivate
        refine ⟨u, true, h, sound_activateYear hsound hactivate, hclosed.trans hdone.resembles, ?_,
          hdone.active⟩
        intro p hmem
        rw [hdone.semesters] at hmem
        exact hended.closeSemesters _ p hmem
  obtain ⟨u, changed', hterm, hu, hsame, hended, hactive⟩ := hswitch
  obtain ⟨hs', hsame', hyears, hended', hagain, houtcome⟩ := switchTerm_repeats hu hended hterm
  refine ⟨hs', hsame.trans hsame', ?_, houtcome.imp_right .inl⟩
  have hactive' : s'.years.get? id = some { y with status := .active } := by
    rw [hyears]
    exact hactive
  unfold applyCurrentReport
  rw [(hp.resembles (hsame.trans hsame')).ensureYear_of_open hs' hactive' ⟨nofun, nofun⟩]
  dsimp only [bind, Except.bind]
  rw [Calendars.year_eq_ok.mpr hactive']
  dsimp only
  rw [if_neg fun hne => hne.1 rfl, if_neg fun hne => hne.1 rfl]
  unfold switchYear
  rw [if_neg fun hne => hne rfl, hended'.hasEnded, hended'.closeEnded]
  exact hagain

def advancingOutcomes : List String := ["APPLIED", "BETWEEN_SEMESTERS", "BETWEEN_ACADEMIC_YEARS"]

def waitingOutcomes : List String :=
  ["NO_CURRENT_CALENDAR", "SOURCE_INCOMPLETE", "SOURCE_INVALID", "DAY_ALREADY_IN_USE",
    "ENROLLMENTS_NOT_READY"]

theorem mem_of_currentCalendar {calendar : MinistryCalendar}
    (h : snapshot.currentCalendar today = some calendar) : calendar ∈ snapshot.calendars :=
  (List.mem_filter.mp (List.argmax_mem h)).1

theorem applyCalendarReport_repeats (ht : t.Sound) {current : Option MinistryCalendar}
    (hp : ∀ name dates, current = some (.ready name dates) → ¬ dates.yearEnd < today → ∃ id,
      Prepared school snapshotId dates id t)
    (h : applyCalendarReport school snapshotId today a current t = .ok (s', outcome, changed)) :
    s'.Sound ∧ t.Resembles s' ∧
      applyCalendarReport school snapshotId today a current s' = .ok (s', outcome, false) ∧
      (outcome ∈ advancingOutcomes ∨ outcome ∈ waitingOutcomes ∧ s' = t) := by
  have hsame : t.Resembles t := ⟨fun _ => rfl, fun _ => rfl⟩
  have hrun := h
  cases current with
  | none =>
    unfold applyCalendarReport at h
    cases h
    exact ⟨ht, hsame, hrun, .inr ⟨by decide, rfl⟩⟩
  | some calendar =>
    cases calendar with
    | incomplete name yearStart =>
      unfold applyCalendarReport at h
      cases h
      exact ⟨ht, hsame, hrun, .inr ⟨by decide, rfl⟩⟩
    | invalid name yearStart =>
      unfold applyCalendarReport at h
      cases h
      exact ⟨ht, hsame, hrun, .inr ⟨by decide, rfl⟩⟩
    | ready name dates =>
      unfold applyCalendarReport at h ⊢
      dsimp only at h ⊢
      by_cases hended : dates.yearEnd < today
      · rw [if_pos hended] at h
        cases h
        have hnone := t.noneEnded_closeEnded school today
        refine ⟨ht.closeSemesters _, t.resembles_closeSemesters _, ?_, .inl (by decide)⟩
        rw [if_pos hended, hnone.closeEnded, hnone.hasEnded]
        rfl
      · rw [if_neg hended] at h
        rw [if_neg hended]
        obtain ⟨id, hprepared⟩ := hp name dates rfl hended
        have hdone := applyCurrentReport_repeats ht hprepared h
        refine ⟨hdone.sound, hdone.resembles, hdone.again, ?_⟩
        rcases hdone.waits with rfl | rfl | ⟨rfl | rfl, hkept⟩
        · exact .inl (by decide)
        · exact .inl (by decide)
        · exact .inr ⟨by decide, hkept⟩
        · exact .inr ⟨by decide, hkept⟩

theorem applyCalendarsReport_repeats (hs : s.Sound)
    (hstarts : (snapshot.calendars.map MinistryCalendar.yearStart).Nodup)
    (h : applyCalendarsReport school snapshot today a s = .ok (s', outcome, changed)) :
    (applyCalendarsReport school snapshot today a s' = .ok (s', outcome, false) ∨
      applyCalendarsReport school snapshot today a s' = .error existingDatesConflict) ∧
      (outcome ∈ advancingOutcomes ∨
        outcome ∈ waitingOutcomes ∧ Prepares school (snapshot.readyStarts today) s s') := by
  unfold applyCalendarsReport at h
  obtain ⟨t, hensure, h⟩ := bind_eq_ok.mp h
  have hall := ensuredAll_ensureCalendars hs hstarts hensure
  have hcurrent : ∀ name dates, snapshot.currentCalendar today = some (.ready name dates) →
      ¬ dates.yearEnd < today → ∃ id, Prepared school snapshot.id dates id t :=
    fun name dates heq => hall.prepared name dates (mem_of_currentCalendar heq)
  obtain ⟨hs', hsame, hagain, hwaits⟩ := applyCalendarReport_repeats hall.sound hcurrent h
  refine ⟨?_, ?_⟩
  · unfold applyCalendarsReport
    rcases (hall.prepared.resembles hsame).ensureCalendars hs' with hensure' | hensure'
    · left
      rw [hensure']
      exact hagain
    · right
      rw [hensure']
      rfl
  · refine hwaits.imp_right fun hkept => ⟨hkept.1, ?_⟩
    rw [hkept.2]
    exact hall.prepares

/-! ## A run of the application -/

theorem setOutcome_eq_withPolicies (s : Calendars) (school : ℕ) (outcome : String) :
    ∃ policies, s.setOutcome school outcome = s.withPolicies policies := ⟨_, rfl⟩

theorem inScope_setOutcome (s : Calendars) (school : ℕ) (outcome : String) (a : SchoolActivity) :
    (((s.setOutcome school outcome).policies.get? school).all fun p =>
      p.profile ≠ .national ∨ !a.isActive) =
        (s.policies.get? school).all fun p => p.profile ≠ .national ∨ !a.isActive := by
  unfold Calendars.setOutcome
  dsimp only
  rw [Dict.get?_adjust, if_pos rfl]
  cases s.policies.get? school <;> rfl

theorem policies_applyCalendarsReport
    (h : applyCalendarsReport school snapshot today a s = .ok (s', outcome, changed)) :
    s'.policies = s.policies := by
  have hsame := applyCalendarsReport_withPolicies s.policies s school today snapshot a
  have hself : s.withPolicies s.policies = s := rfl
  rw [hself, h] at hsame
  exact congrArg (fun r => r.1.policies) (Except.ok.inj hsame)

theorem not_waiting_of_advancing (h : outcome ∈ advancingOutcomes) : outcome ∉ waitingOutcomes := by
  have hall : ∀ o ∈ advancingOutcomes, o ∉ waitingOutcomes := by decide
  exact hall outcome h

theorem applySchoolCalendarReport_of_scope
    (hscope : ¬ (s.policies.get? school).all (fun p => p.profile ≠ .national ∨ !a.isActive) =
      true) {r : Calendars × String × Bool}
    (h : applyCalendarsReport school snapshot today a s = .ok r) :
    applySchoolCalendarReport school snapshot today a s =
      .ok (r.1.setOutcome school r.2.1, r.2.1, r.2.2) := by
  unfold applySchoolCalendarReport
  rw [if_neg hscope, h]

theorem applySchoolCalendarReport_of_error
    (hscope : ¬ (s.policies.get? school).all (fun p => p.profile ≠ .national ∨ !a.isActive) =
      true) {e : ApiError} (h : applyCalendarsReport school snapshot today a s = .error (.api e)) :
    applySchoolCalendarReport school snapshot today a s =
      .ok (s.setOutcome school e.code, e.code, false) := by
  unfold applySchoolCalendarReport
  rw [if_neg hscope, h]

/-- **The application of a calendar settles.** A second run on the day changes neither years nor
semesters and publishes nothing; it reports what the first one did, or that a year is closed which
a calendar wants. A run that reports an error, or that the school is out of scope, has left years
and semesters as they were; one that waits has prepared years of calendars and kept every status.
The calendars of a snapshot begin on different days (`starts_nodup`). -/
theorem calendar_settles (hs : s.Sound)
    (hstarts : (snapshot.calendars.map MinistryCalendar.yearStart).Nodup) {a : SchoolActivity}
    {outcome : String} {changed : Bool}
    (h : applySchoolCalendarReport school snapshot today a s = .ok (s', outcome, changed)) :
    (∃ s'' outcome', applySchoolCalendarReport school snapshot today a s' =
        .ok (s'', outcome', false) ∧ s''.years = s'.years ∧ s''.semesters = s'.semesters ∧
          (outcome' = outcome ∨ outcome' = "CALENDAR_EXISTING_DATES_CONFLICT")) ∧
      (outcome ∉ advancingOutcomes → outcome ∉ waitingOutcomes →
        s'.years = s.years ∧ s'.semesters = s.semesters) ∧
      (outcome ∈ waitingOutcomes → Prepares school (snapshot.readyStarts today) s s') := by
  by_cases hscope : (s.policies.get? school).all
      (fun p => p.profile ≠ .national ∨ !a.isActive) = true
  · have hrun := h
    unfold applySchoolCalendarReport at h
    rw [if_pos hscope] at h
    cases h
    exact ⟨⟨_, _, hrun, rfl, rfl, .inl rfl⟩, fun _ _ => ⟨rfl, rfl⟩,
      fun _ => Prepares.refl school _ s⟩
  cases hrun : applyCalendarsReport school snapshot today a s with
  | ok r =>
    obtain ⟨t, outcome₁, changed₁⟩ := r
    rw [applySchoolCalendarReport_of_scope hscope hrun, Except.ok.injEq, Prod.mk.injEq,
      Prod.mk.injEq] at h
    obtain ⟨rfl, rfl, rfl⟩ := h
    obtain ⟨hagain, hwaits⟩ := applyCalendarsReport_repeats hs hstarts hrun
    have hscope' : ¬ ((t.setOutcome school outcome₁).policies.get? school).all
        (fun p => p.profile ≠ .national ∨ !a.isActive) = true := by
      rw [inScope_setOutcome, policies_applyCalendarsReport hrun]
      exact hscope
    obtain ⟨policies, hpolicies⟩ := setOutcome_eq_withPolicies t school outcome₁
    refine ⟨?_, ?_, ?_⟩
    · rcases hagain with hagain | hagain
      · have hagain' : applyCalendarsReport school snapshot today a
            (t.setOutcome school outcome₁) =
              .ok (t.setOutcome school outcome₁, outcome₁, false) := by
          rw [hpolicies, applyCalendarsReport_withPolicies, hagain]
          rfl
        exact ⟨_, _, applySchoolCalendarReport_of_scope hscope' hagain', rfl, rfl, .inl rfl⟩
      · have hagain' : applyCalendarsReport school snapshot today a
            (t.setOutcome school outcome₁) = .error existingDatesConflict := by
          rw [hpolicies, applyCalendarsReport_withPolicies, hagain]
          rfl
        exact ⟨_, _, applySchoolCalendarReport_of_error hscope' hagain', rfl, rfl, .inr rfl⟩
    · intro hadvancing hwaiting
      rcases hwaits with hmem | ⟨hmem, -⟩
      · exact absurd hmem hadvancing
      · exact absurd hmem hwaiting
    · intro hwaiting
      rcases hwaits with hmem | ⟨-, hprepares⟩
      · exact absurd hwaiting (not_waiting_of_advancing hmem)
      · exact ⟨hprepares.years, hprepares.newYears, hprepares.semesters, hprepares.newSemesters⟩
  | error e =>
    cases e with
    | api e =>
      rw [applySchoolCalendarReport_of_error hscope hrun, Except.ok.injEq, Prod.mk.injEq,
        Prod.mk.injEq] at h
      obtain ⟨rfl, rfl, rfl⟩ := h
      obtain ⟨policies, hpolicies⟩ := setOutcome_eq_withPolicies s school e.code
      have hagain : applyCalendarsReport school snapshot today a (s.setOutcome school e.code) =
          .error (.api e) := by
        rw [hpolicies, applyCalendarsReport_withPolicies, hrun]
        rfl
      have hscope' := hscope
      rw [← inScope_setOutcome s school e.code] at hscope'
      refine ⟨⟨_, _, applySchoolCalendarReport_of_error hscope' hagain, rfl, rfl, .inl rfl⟩,
        fun _ _ => ⟨rfl, rfl⟩, fun _ => ?_⟩
      have hkept := Prepares.refl school (snapshot.readyStarts today) s
      exact ⟨hkept.years, hkept.newYears, hkept.semesters, hkept.newSemesters⟩
    | _ =>
      unfold applySchoolCalendarReport at h
      rw [if_neg hscope, hrun] at h
      cases h

/-! ## Runs that wait -/

def nationalSchool : Calendars := { policies := [(1, { profile := .national })] }

def invalidToday : MinistryCalendarSnapshot :=
  ⟨9, [.invalid ['b'] 500, .ready ['c'] officialDates]⟩

def readyToday : MinistryCalendarSnapshot := ⟨9, [.ready ['c'] officialDates]⟩

def yearsLeft (r : Except Failure (Calendars × String × Bool)) : Option (ℕ × String) :=
  match r with
  | .ok (s, outcome, _) => some (s.years.length, outcome)
  | .error _ => none

/-- A source that has to be checked, or a student without an enrollment, holds up the transition;
the year of the ready calendar has been created all the same. -/
theorem waiting_prepares_years : nationalSchool.years = [] ∧
    yearsLeft (applySchoolCalendarReport 1 invalidToday 900 {} nationalSchool) =
      some (1, "SOURCE_INVALID") ∧
    yearsLeft (applySchoolCalendarReport 1 readyToday 1200 { activeStudents := [7] }
      nationalSchool) = some (1, "ENROLLMENTS_NOT_READY") := by
  decide +kernel

/-- The year of the ministry, with its second semester active. -/
def openedSchool : Calendars :=
  { years := [(1, { school := 1
                    name := ['c']
                    startDate := 1000
                    endDate := 1300
                    status := .active
                    ministrySnapshot := some 9 })]
    semesters := [(2, { school := 1
                        academicYear := 1
                        name := "الفصل الدراسي الأول".toList
                        sequence := 1
                        startDate := 1000
                        endDate := 1140 }),
                  (3, { school := 1
                        academicYear := 1
                        name := "الفصل الدراسي الثاني".toList
                        sequence := 2
                        startDate := 1150
                        endDate := 1300
                        status := .active })]
    policies := [(1, { profile := .national, outcome := "APPLIED" })]
    nextId := 4 }

theorem readyToday_applied : applySchoolCalendarReport 1 readyToday 1200 {} nationalSchool =
    .ok (openedSchool, "APPLIED", true) := by
  rfl

/-- The calendar is applied, and a second run finds nothing to do. -/
theorem readyToday_settles : applySchoolCalendarReport 1 readyToday 1200 {} nationalSchool =
      .ok (openedSchool, "APPLIED", true) ∧
    ∃ s'' outcome', applySchoolCalendarReport 1 readyToday 1200 {} openedSchool =
      .ok (s'', outcome', false) ∧ s''.years = openedSchool.years ∧
        s''.semesters = openedSchool.semesters ∧
          (outcome' = "APPLIED" ∨ outcome' = "CALENDAR_EXISTING_DATES_CONFLICT") :=
  ⟨readyToday_applied,
    (calendar_settles (sound_empty _) (by decide) readyToday_applied).1⟩

end SchoolPlatform.Academics
