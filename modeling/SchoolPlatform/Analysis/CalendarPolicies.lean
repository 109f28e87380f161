import SchoolPlatform.Analysis.TheoremAcademicCalendar

/-!
# The policies of schools beside their calendars

A year that is ensured or activated is so whatever the policies of schools say: the savepoint of the
application neither reads nor changes them. What an application makes of a calendar is therefore
what it makes of it under other policies.
-/

namespace SchoolPlatform.Academics

open Fallible

def Calendars.withPolicies (policies : Dict ℕ SchoolCalendarPolicy) (s : Calendars) : Calendars :=
  { s with policies := policies }

def Calendars.foundUnder (policies : Dict ℕ SchoolCalendarPolicy) (r : ℕ × Calendars) :
    ℕ × Calendars :=
  (r.1, r.2.withPolicies policies)

variable (policies : Dict ℕ SchoolCalendarPolicy) (s : Calendars)

section Results

variable {α α' β β' : Type} {F : α → α'} {G : β → β'} {r : Except Failure α}

theorem ite_map {c : Prop} [Decidable c] {a b : α'} {a' b' : α} (ha : a = F a') (hb : b = F b') :
    (if c then a else b) = F (if c then a' else b') := by
  by_cases hc : c
  · rw [if_pos hc, if_pos hc]
    exact ha
  · rw [if_neg hc, if_neg hc]
    exact hb

theorem elim_map {o : Option α} {b : Except Failure β} {b' : Except Failure β'}
    {f : α → Except Failure β} {f' : α → Except Failure β'} (hb : b' = b.map G)
    (hf : ∀ a, f' a = (f a).map G) : o.elim b' f' = (o.elim b f).map G := by
  cases o with
  | none => exact hb
  | some a => exact hf a

theorem bind_map {r' : Except Failure α'} {g : α → Except Failure β} {g' : α' → Except Failure β'}
    (hr : r' = r.map F) (hg : ∀ a, g' (F a) = (g a).map G) : (r' >>= g') = (r >>= g).map G := by
  rw [hr]
  cases r with
  | error e => rfl
  | ok a => exact hg a

theorem bind_same {g : α → Except Failure β} {g' : α → Except Failure β'}
    (hg : ∀ a, g' a = (g a).map G) : (r >>= g') = (r >>= g).map G := by
  cases r with
  | error e => rfl
  | ok a => exact hg a

theorem sequenceConflict_map (F : α → β) (r : Except Failure α) :
    sequenceConflict (r.map F) = (sequenceConflict r).map F := by
  cases r with
  | ok a => rfl
  | error e => cases e <;> rfl

end Results

theorem saveYear_withPolicies (id : ℕ) (y : AcademicYear) :
    (s.withPolicies policies).saveYear id y =
      (s.saveYear id y).map (Calendars.withPolicies policies) := by
  unfold Calendars.saveYear
  exact bind_same fun _ => rfl

theorem saveSemester_withPolicies (id : ℕ) (x : Semester) :
    (s.withPolicies policies).saveSemester id x =
      (s.saveSemester id x).map (Calendars.withPolicies policies) := by
  unfold Calendars.saveSemester
  exact bind_same fun _ => rfl

theorem insertYear_withPolicies (y : AcademicYear) : (s.withPolicies policies).insertYear y =
    (s.insertYear y).map (Calendars.foundUnder policies) := by
  unfold Calendars.insertYear
  exact bind_same fun _ => rfl

theorem insertSemester_withPolicies (x : Semester) :
    (s.withPolicies policies).insertSemester x =
      (s.insertSemester x).map (Calendars.foundUnder policies) := by
  unfold Calendars.insertSemester
  exact bind_same fun _ => rfl

theorem activateYear_withPolicies (id : ℕ) : activateYear id (s.withPolicies policies) =
    (activateYear id s).map (Calendars.withPolicies policies) := by
  unfold activateYear
  refine bind_same fun year => ite_map rfl (ite_map rfl ?_)
  refine bind_map (elim_map rfl fun p => ?_) fun t => saveYear_withPolicies policies t id _
  exact saveYear_withPolicies policies (s.closeSemesters _) p.1 _

theorem createYear_withPolicies (school : ℕ) (name : Text) (startDate endDate : Date) :
    createYear school name startDate endDate false (s.withPolicies policies) =
      (createYear school name startDate endDate false s).map
        (Calendars.foundUnder policies) := by
  unfold createYear
  exact bind_same fun _ => bind_map (insertYear_withPolicies policies s _) fun _ => rfl

theorem activateSemester_withPolicies (id : ℕ) : activateSemester id (s.withPolicies policies) =
    (activateSemester id s).map (Calendars.withPolicies policies) := by
  unfold activateSemester
  refine bind_same fun x => bind_same fun year => ite_map rfl (ite_map rfl (ite_map rfl ?_))
  refine bind_map (elim_map rfl fun p => ?_) fun t => saveSemester_withPolicies policies t id _
  exact saveSemester_withPolicies policies s p.1 _

theorem createSemester_withPolicies (id sequence : ℕ) (name : Text) (startDate endDate : Date) :
    createSemester id name sequence startDate endDate false (s.withPolicies policies) =
      (createSemester id name sequence startDate endDate false s).map
        (Calendars.withPolicies policies) := by
  unfold createSemester
  refine bind_same fun year => bind_same fun _ => bind_same fun _ =>
    bind_map (F := Calendars.foundUnder policies) ?_ fun _ => rfl
  rw [← sequenceConflict_map, ← insertSemester_withPolicies]

variable (school snapshotId : ℕ) (name : Text) (dates : ReadyDates) (today : Date)

theorem adoptYear_withPolicies : adoptYear school name dates today (s.withPolicies policies) =
    (adoptYear school name dates today s).map (Calendars.foundUnder policies) := by
  have hyears : (s.withPolicies policies).years = s.years := rfl
  unfold adoptYear
  rw [hyears]
  cases s.years.filter fun p => p.2.school = school ∧ p.2.startDate = dates.yearStart with
  | nil =>
    exact ite_map rfl (createYear_withPolicies policies s school name dates.yearStart dates.yearEnd)
  | cons p rest =>
    cases rest with
    | nil =>
      have halign : (s.withPolicies policies).alignFutureBoundaries p.1 p.2 dates today =
          (s.alignFutureBoundaries p.1 p.2 dates today).map (Calendars.withPolicies policies) := by
        unfold Calendars.alignFutureBoundaries
        exact ite_map rfl (ite_map rfl rfl)
      dsimp only
      rw [halign]
      refine ite_map rfl (ite_map rfl ?_)
      cases s.alignFutureBoundaries p.1 p.2 dates today <;> rfl
    | cons q rest => rfl

theorem ensureSemester_withPolicies (id sequence : ℕ) :
    ensureSemester id sequence name dates (s.withPolicies policies) =
      (ensureSemester id sequence name dates s).map (Calendars.withPolicies policies) := by
  unfold ensureSemester
  exact ite_map rfl (createSemester_withPolicies policies s id sequence name _ _)

theorem ensureYear_withPolicies :
    ensureYear school snapshotId name dates today (s.withPolicies policies) =
      (ensureYear school snapshotId name dates today s).map
        (Calendars.foundUnder policies) := by
  unfold ensureYear
  refine bind_map (adoptYear_withPolicies policies s school name dates today) fun r => ?_
  obtain ⟨id, t⟩ := r
  refine bind_same fun year => bind_map (ite_map (saveYear_withPolicies policies t id _) rfl) ?_
  intro t₁
  refine bind_map (ensureSemester_withPolicies policies t₁ _ dates id 1) fun t₂ => ?_
  exact bind_map (ensureSemester_withPolicies policies t₂ _ dates id 2) fun _ => rfl

theorem ensureCalendars_withPolicies (snapshot : MinistryCalendarSnapshot) :
    ensureCalendars school snapshot today (s.withPolicies policies) =
      (ensureCalendars school snapshot today s).map (Calendars.withPolicies policies) := by
  unfold ensureCalendars
  generalize snapshot.calendars = calendars
  induction calendars generalizing s with
  | nil => rfl
  | cons calendar rest ih =>
    rw [List.foldlM_cons, List.foldlM_cons]
    refine bind_map ?_ ih
    cases calendar with
    | incomplete name yearStart => rfl
    | invalid name yearStart => rfl
    | ready name dates =>
      refine ite_map rfl (bind_map (F := Calendars.foundUnder policies) ?_ fun _ => rfl)
      exact ensureYear_withPolicies policies s school snapshot.id name dates today

def Calendars.reportedUnder (policies : Dict ℕ SchoolCalendarPolicy)
    (r : Calendars × String × Bool) : Calendars × String × Bool :=
  (r.1.withPolicies policies, r.2)

theorem switchYear_withPolicies (id : ℕ) (year : AcademicYear) (changed : Bool) :
    switchYear id year changed (s.withPolicies policies) =
      (switchYear id year changed s).map fun r => (r.1.withPolicies policies, r.2) := by
  unfold switchYear
  rw [activateYear_withPolicies]
  refine ite_map ?_ rfl
  cases activateYear id s <;> rfl

theorem switchTerm_withPolicies (target : Option (ℕ × Semester)) (changed : Bool) :
    switchTerm target changed (s.withPolicies policies) =
      (switchTerm target changed s).map (Calendars.reportedUnder policies) := by
  cases target with
  | none => rfl
  | some p =>
    unfold switchTerm
    dsimp only
    rw [activateSemester_withPolicies]
    refine ite_map ?_ rfl
    cases activateSemester p.1 s <;> rfl

theorem applyCurrentReport_withPolicies (a : SchoolActivity) :
    applyCurrentReport school snapshotId name dates today a (s.withPolicies policies) =
      (applyCurrentReport school snapshotId name dates today a s).map
        (Calendars.reportedUnder policies) := by
  unfold applyCurrentReport
  refine bind_map (ensureYear_withPolicies policies s school snapshotId name dates today) fun r => ?_
  obtain ⟨id, t⟩ := r
  refine bind_same fun year => ite_map rfl (ite_map rfl ?_)
  refine bind_map (switchYear_withPolicies policies (t.closeEnded school today) id year _) ?_
  exact fun r => switchTerm_withPolicies policies r.1 (r.1.termOfToday id today) r.2

theorem applyCalendarReport_withPolicies (a : SchoolActivity)
    (current : Option MinistryCalendar) :
    applyCalendarReport school snapshotId today a current (s.withPolicies policies) =
      (applyCalendarReport school snapshotId today a current s).map
        (Calendars.reportedUnder policies) := by
  cases current with
  | none => rfl
  | some calendar =>
    cases calendar with
    | incomplete name yearStart => rfl
    | invalid name yearStart => rfl
    | ready name dates =>
      exact ite_map rfl
        (applyCurrentReport_withPolicies policies s school snapshotId name dates today a)

theorem applyCalendarsReport_withPolicies (snapshot : MinistryCalendarSnapshot)
    (a : SchoolActivity) :
    applyCalendarsReport school snapshot today a (s.withPolicies policies) =
      (applyCalendarsReport school snapshot today a s).map (Calendars.reportedUnder policies) := by
  unfold applyCalendarsReport
  refine bind_map (ensureCalendars_withPolicies policies s school today snapshot) fun t => ?_
  exact applyCalendarReport_withPolicies policies t school snapshot.id today a
    (snapshot.currentCalendar today)

end SchoolPlatform.Academics
