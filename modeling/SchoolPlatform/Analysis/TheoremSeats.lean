import SchoolPlatform.Analysis.TheoremTimeline

/-!
# Students who have left hold no seat

A student who leaves has all active enrollments ended. What opens an enrollment afterwards, a
correction with a section or a row of an import, does not look at the status: as long as such
requests are about active students, students who are not active have no active enrollment
(`Office.play_noLiveSeat`).
-/

namespace SchoolPlatform

variable {rules : TextRules} {o o' : Office} {r r' : Registry} {next : ℕ}

variable {x : Student} {today : Date}

/-- A student who is not active has no active enrollment. -/
def Registry.NoLiveSeat (r : Registry) : Prop :=
  ∀ x ∈ r.students, x.status ≠ .active → ∀ e ∈ r.enrollments, e.student = x.id → e.status ≠ .active

instance decidableNoLiveSeat (r : Registry) : Decidable r.NoLiveSeat := by
  unfold Registry.NoLiveSeat
  infer_instance

def Registry.Present (r : Registry) (student : ℕ) : Prop :=
  ∀ x ∈ r.student? student, x.status = .active

instance decidablePresent (r : Registry) (student : ℕ) : Decidable (r.Present student) := by
  unfold Registry.Present
  infer_instance

theorem Registry.NoLiveSeat.of_samePeople (h : r.NoLiveSeat) (hsame : r.SamePeople r') :
    r'.NoLiveSeat := by
  unfold Registry.NoLiveSeat
  rw [hsame.students, hsame.enrollments]
  exact h

theorem Registry.NoLiveSeat.enroll (h : r.NoLiveSeat) (hkeys : r.Coherent next)
    (data : NewStudentData) (academicYear : ℕ) (target : Section) (day : Date) :
    (r.enroll (data.student next)
      (newEnrollment (next + 1) day next academicYear target)).NoLiveSeat := by
  intro x hx hstatus e he hstudent
  rcases List.mem_append.mp hx with hx | hx
  · rcases List.mem_append.mp he with he | he
    · exact h x hx hstatus e he hstudent
    · have hlt := hkeys.students_lt x hx
      rw [List.mem_singleton.mp he] at hstudent
      rw [← hstudent] at hlt
      exact absurd hlt (lt_irrefl next)
  · rw [List.mem_singleton.mp hx] at hstatus
    exact absurd rfl hstatus

theorem Registry.NoLiveSeat.putStudent (h : r.NoLiveSeat) (hx : r.Amends x) :
    (r.putStudent x).NoLiveSeat := by
  obtain ⟨z, hz, hid, hsame⟩ := hx
  intro y hy hstatus e he hstudent
  rcases (Table.mem_put_iff (fun w : Student => w.id) x y ⟨z, hz, hid⟩).mp hy with rfl | ⟨hy, -⟩
  · exact h z hz (by rwa [hsame]) e he (hstudent.trans hid.symm)
  · exact h y hy hstatus e he hstudent

theorem Registry.NoLiveSeat.reseat (h : r.NoLiveSeat) (hkeys : r.Coherent next)
    {old : Option StudentEnrollment} (hold : ∀ e, old = some e → e ∈ r.enrollments) {day : Date}
    {fresh : StudentEnrollment}
    (hactive : ∀ x ∈ r.students, x.id = fresh.student → x.status = .active) :
    (r.reseat old day fresh).NoLiveSeat := by
  have hstudents : (r.reseat old day fresh).students = r.students := by
    unfold Registry.reseat
    cases old <;> rfl
  intro x hx hstatus e he hstudent
  rw [hstudents] at hx
  rcases (hkeys.mem_reseat hold).mp he with rfl | ⟨f, -, rfl⟩ | ⟨he, -⟩
  · exact absurd (hactive x hx hstudent.symm) hstatus
  · exact EnrollmentStatus.noConfusion
  · exact h x hx hstatus e he hstudent

theorem Registry.NoLiveSeat.seatIn (h : r.NoLiveSeat) (hkeys : r.Coherent next) {newId : ℕ}
    {student academicYear : ℕ} {target : Section}
    (hactive : ∀ x ∈ r.students, x.id = student → x.status = .active) :
    (r.seatIn newId today student academicYear target).NoLiveSeat := by
  unfold Registry.seatIn
  split
  · exact h
  · exact h.reseat hkeys (fun e he => (Registry.mem_of_currentEnrollment he).1) hactive

theorem Registry.NoLiveSeat.leave (h : r.NoLiveSeat) (hx : ∃ y ∈ r.students, y.id = x.id)
    {status : EnrollmentStatus} (hstatus : status ≠ .active) (ended : Date) :
    ((r.putStudent x).closeEnrollments x.id status ended).NoLiveSeat := by
  intro y hy hleft e he hstudent
  obtain ⟨e₀, he₀, rfl⟩ := List.mem_map.mp he
  split at hstudent
  next hclosed =>
    rw [if_pos hclosed]
    exact hstatus
  next hkept =>
    rw [if_neg hkept]
    intro hlive
    rcases (Table.mem_put_iff (fun w : Student => w.id) x y hx).mp hy with rfl | ⟨hy, -⟩
    · exact hkept ⟨hstudent, hlive⟩
    · exact h y hy hleft e₀ he₀ hstudent hlive

theorem Registry.NoLiveSeat.putActive (h : r.NoLiveSeat) (hx : ∃ y ∈ r.students, y.id = x.id)
    (hactive : x.status = .active) : (r.putStudent x).NoLiveSeat := by
  intro y hy hleft e he hstudent
  rcases (Table.mem_put_iff (fun w : Student => w.id) x y hx).mp hy with rfl | ⟨hy, -⟩
  · exact absurd hactive hleft
  · exact h y hy hleft e he hstudent

theorem mergedRegistry_noLiveSeat {now : Instant} {target : ℕ} {sources : List ℕ}
    {active : StudentEnrollment} (hseats : o.registry.NoLiveSeat)
    (hactive : o.registry.soleActive? target = some active)
    (h : MergeReady o today target sources active (planActive o.school today active sources))
    (htarget : target ∉ sources) : (mergedRegistry o now today target sources).NoLiveSeat := by
  intro x hx hleft e' he' hstudent
  have hstudents : (mergedRegistry o now today target sources).students =
      o.registry.students.map fun x =>
        if x.id ∈ sources then archivedSource now today target x else x := rfl
  rw [hstudents] at hx
  obtain ⟨x₀, hx₀, rfl⟩ := List.mem_map.mp hx
  obtain ⟨e, he, -, hfate⟩ := mem_mergedRegistry_enrollments hactive h he'
  by_cases hsource : x₀.id ∈ sources
  · -- Nobody has an enrollment of a source.
    rw [if_pos hsource] at hstudent
    have hid : e'.student = x₀.id := hstudent
    rcases hfate.owner h with howner | ⟨hother, -⟩
    · rw [hid] at howner
      rw [howner] at hsource
      exact absurd hsource htarget
    · rw [hid] at hother
      exact absurd (List.mem_cons_of_mem _ hsource) hother
  · rw [if_neg hsource] at hleft hstudent
    rcases hfate.owner h with howner | ⟨-, heq⟩
    · have hpresent := h.studentsActive x₀ hx₀ (by rw [← hstudent, howner]; exact List.mem_cons_self)
      exact absurd hpresent hleft
    · rw [heq] at hstudent ⊢
      exact hseats x₀ hx₀ hleft e he hstudent

/-- What opens an enrollment for a student who is there already, is about an active student. -/
def Office.SeatsActive (rules : TextRules) (o : Office) : OfficeRequest → Prop
  | .updateStudent _ studentId sectionId _ => o.activeYear.isSome = true → ∀ id ∈ sectionId,
      (o.openSection? id).isSome = true → o.registry.Present studentId
  | .commitImport _ jobId _ => ∀ job ∈ o.job? jobId, ∀ year ∈ o.year? job.academicYear,
      ∀ row ∈ o.applied rules job year, row.Moves → ∀ student ∈ row.matchedStudentId,
        o.registry.Present student
  | _ => True

instance decidableSeatsActive :
    ∀ request : OfficeRequest, Decidable (o.SeatsActive rules request)
  | .updateStudent _ studentId sectionId _ => inferInstanceAs (Decidable
      (o.activeYear.isSome = true → ∀ id ∈ sectionId, (o.openSection? id).isSome = true →
        o.registry.Present studentId))
  | .commitImport _ jobId _ => inferInstanceAs (Decidable
      (∀ job ∈ o.job? jobId, ∀ year ∈ o.year? job.academicYear, ∀ row ∈ o.applied rules job year,
        row.Moves → ∀ student ∈ row.matchedStudentId, o.registry.Present student))
  | .createStudent .. | .setStudentStatus .. | .uploadImport .. | .startProcessing .. |
    .processImportJob .. | .approveImport .. | .cancelImport .. | .failImport .. |
    .activateYear .. | .applyManualMerge .. => inferInstanceAs (Decidable True)

/-- The office is coherent and nobody who has left holds a seat. -/
structure Office.Vacated (o : Office) : Prop where
  coherent : o.registry.Coherent o.nextId
  seats : o.registry.NoLiveSeat

theorem commitInvariant_noLiveSeat {start : Registry} {academicYear : ℕ} {day : Date}
    {rows : List NormalizedRow} (hstart : start.Coherent next)
    (hpresent : ∀ row ∈ rows, row.Moves → ∀ student ∈ row.matchedStudentId,
      start.Present student) :
    CommitInvariant Registry.NoLiveSeat start academicYear day rows where
  people := fun r r' hsame h => h.of_samePeople hsame
  enroll := fun r next data target hkeys h => h.enroll hkeys data academicYear target day
  amend := fun r next x _ hx h => h.putStudent hx
  reseat := by
    intro r next student target hkeys hrow heq hrecords h
    obtain ⟨row, hmem, hmoves, hmatched⟩ := hrow
    apply h.reseat hkeys (fun e he => (Registry.mem_of_history_eq heq he).1)
    intro x hx hid
    rcases hrecords x hx hid with hactive | ⟨y, hy, hyid, hstatus⟩
    · exact hactive
    · rw [← hstatus]
      exact hpresent row hmem hmoves student hmatched y
        (hstart.student?_eq_some_iff.mpr ⟨hy, hyid⟩)

theorem Office.Vacated.keeps (h : o.Vacated) {request : OfficeRequest}
    (hseats : o.SeatsActive rules request) : o.Keeps rules Registry.NoLiveSeat request where
  people := fun r r' hsame hr => hr.of_samePeople hsame
  enroll := fun data year target day => h.seats.enroll h.coherent data year target day
  amend := fun x hx => h.seats.putStudent hx
  seat := by
    rintro today studentId id data rfl found hfound year hyear target htarget x hid hstatus
      hcoherent
    obtain ⟨hmem, -⟩ := h.coherent.student?_eq_some_iff.mp hfound
    apply (h.seats.putStudent ⟨found, hmem, hid.symm, hstatus.symm⟩).seatIn hcoherent
    intro y hy hyx
    have hactive := hseats (by rw [hyear]; rfl) id rfl (by rw [htarget]; rfl) found hfound
    rcases (Table.mem_put_iff (fun w : Student => w.id) x y ⟨found, hmem, hid.symm⟩).mp hy with
      rfl | ⟨-, hne⟩
    · rw [hstatus]
      exact hactive
    · exact absurd hyx hne
  status := by
    rintro now today studentId newStatus exitDate exitReason rfl found hfound - x hid hstatus
    obtain ⟨hmem, -⟩ := h.coherent.student?_eq_some_iff.mp hfound
    have hexists : ∃ y ∈ o.registry.students, y.id = x.id := ⟨found, hmem, hid.symm⟩
    exact ⟨fun hactive => h.seats.putActive hexists (hstatus.trans hactive),
      fun _ hclose _ => h.seats.leave hexists hclose _⟩
  commit := by
    rintro today jobId allowImporting rfl job hjob year hyear
    exact commitInvariant_noLiveSeat h.coherent fun row hrow hmoves student hstudent =>
      hseats job hjob year hyear row hrow hmoves student hstudent
  merge := fun now today target sources active hactive hready htarget =>
    mergedRegistry_noLiveSeat h.seats hactive hready htarget

theorem Office.Vacated.handle (h : o.Vacated) {request : OfficeRequest}
    (hseats : o.SeatsActive rules request) : (o.handle rules request).Vacated := by
  have hhas : o.Has Registry.NoLiveSeat := ⟨h.coherent, h.seats⟩
  obtain ⟨hcoherent, hfree⟩ := hhas.handle (h.keeps hseats)
  exact ⟨hcoherent, hfree⟩

theorem Office.NoStudents.vacated (h : o.NoStudents) : o.Vacated where
  coherent := .of_empty h.1 h.2
  seats := by
    intro x hx
    rw [h.1] at hx
    exact absurd hx List.not_mem_nil

/-- **Students who are not active have no active enrollment** in every state of a run from a school
without students, as long as sections are only given to active students. -/
theorem Office.play_noLiveSeat (rules : TextRules) (o : Office) (ho : o.NoStudents)
    (requests : List OfficeRequest)
    (hseats : Runs.Guarded (Office.handle rules) (Office.SeatsActive rules) o requests) :
    ∀ l, l <+: requests → (o.play rules l).registry.NoLiveSeat := by
  intro l hl
  have hstep : ∀ s request, Office.Vacated s → Office.SeatsActive rules s request →
      (s.handle rules request).Vacated := fun s request hs hrequest => hs.handle hrequest
  have hrun := Runs.Guarded.invariant hstep ho.vacated hseats l hl
  exact hrun.seats

theorem Office.play_noLiveSeat_enrolledMovedWithdrawn :
    (twoYearOffice.play plainTexts enrolledMovedWithdrawn).registry.NoLiveSeat :=
  Office.play_noLiveSeat plainTexts twoYearOffice (by decide) enrolledMovedWithdrawn
    (by decide +kernel) enrolledMovedWithdrawn (List.prefix_refl _)

def withdrawnInFile : List OfficeRequest :=
  [ .createStudent 10 2 firstStudent,
    .setStudentStatus 0 20 10 .withdrawn none "",
    .uploadImport none,
    .startProcessing 12,
    .processImportJob 12 [placingRow 2 "hash" "1"],
    .approveImport 12,
    .commitImport 30 12 true ]

def withdrawnCorrected : List OfficeRequest :=
  [ .createStudent 10 2 firstStudent,
    .setStudentStatus 0 20 10 .withdrawn none "",
    .updateStudent 30 10 (some 2) {} ]

theorem withdrawnInFile_liveSeat :
    ¬ (twoYearOffice.play plainTexts withdrawnInFile).registry.NoLiveSeat ∧
      ¬ (twoYearOffice.play plainTexts withdrawnCorrected).registry.NoLiveSeat := by
  decide +kernel

end SchoolPlatform
