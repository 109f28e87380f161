import SchoolPlatform.Library.FallibleFolds
import SchoolPlatform.Model.OfficeService

/-!
# What the calls of the office do

One lemma for each call: when it succeeds, the students and enrollments are those of before with
the edit that the call makes, and ids have only been given out upwards.
-/

/-! ## Edits of the student tables -/

namespace SchoolPlatform

variable {r r' : Registry} {next : ℕ}

def Registry.history (r : Registry) (student : ℕ) : List StudentEnrollment :=
  r.enrollments.filter fun e => e.student = student

theorem Registry.mem_history {student : ℕ} {e : StudentEnrollment} :
    e ∈ r.history student ↔ e ∈ r.enrollments ∧ e.student = student := by
  rw [Registry.history, List.mem_filter, decide_eq_true_eq]

/-- The two registries have the same students and enrollments. -/
structure Registry.SamePeople (r r' : Registry) : Prop where
  students : r'.students = r.students
  enrollments : r'.enrollments = r.enrollments

theorem Registry.SamePeople.refl (r : Registry) : r.SamePeople r := ⟨rfl, rfl⟩

theorem Registry.SamePeople.trans {r₁ r₂ r₃ : Registry} (h : r₁.SamePeople r₂)
    (h' : r₂.SamePeople r₃) : r₁.SamePeople r₃ :=
  ⟨h'.students.trans h.students, h'.enrollments.trans h.enrollments⟩

/-- Ids are given once, below the next one; enrollments are those of students; exactly the active
ones have no end. -/
structure Registry.Coherent (r : Registry) (next : ℕ) : Prop where
  students_nodup : (r.students.map fun x => x.id).Nodup
  students_lt : ∀ x ∈ r.students, x.id < next
  enrollments_nodup : (r.enrollments.map fun e => e.id).Nodup
  enrollments_lt : ∀ e ∈ r.enrollments, e.id < next
  owners : ∀ e ∈ r.enrollments, ∃ x ∈ r.students, x.id = e.student
  dated : ∀ e ∈ r.enrollments, (e.status = .active ↔ e.endedAt = none)

theorem Registry.Coherent.mono (h : r.Coherent next) {later : ℕ} (hle : next ≤ later) :
    r.Coherent later where
  students_nodup := h.students_nodup
  students_lt := fun x hx => (h.students_lt x hx).trans_le hle
  enrollments_nodup := h.enrollments_nodup
  enrollments_lt := fun e he => (h.enrollments_lt e he).trans_le hle
  owners := h.owners
  dated := h.dated

theorem Registry.Coherent.of_samePeople (h : r.Coherent next) (hsame : r.SamePeople r') :
    r'.Coherent next where
  students_nodup := by rw [hsame.students]; exact h.students_nodup
  students_lt := by rw [hsame.students]; exact h.students_lt
  enrollments_nodup := by rw [hsame.enrollments]; exact h.enrollments_nodup
  enrollments_lt := by rw [hsame.enrollments]; exact h.enrollments_lt
  owners := by rw [hsame.students, hsame.enrollments]; exact h.owners
  dated := by rw [hsame.enrollments]; exact h.dated

theorem Registry.Coherent.of_empty (hstudents : r.students = []) (henrollments : r.enrollments = []) :
    r.Coherent next where
  students_nodup := by simp [hstudents]
  students_lt := by simp [hstudents]
  enrollments_nodup := by simp [henrollments]
  enrollments_lt := by simp [henrollments]
  owners := by simp [henrollments]
  dated := by simp [henrollments]

theorem Registry.Coherent.student?_eq_some_iff (h : r.Coherent next) {id : ℕ} {x : Student} :
    r.student? id = some x ↔ x ∈ r.students ∧ x.id = id :=
  Table.find?_eq_some_iff h.students_nodup id x

theorem Registry.mem_of_currentEnrollment {student academicYear : ℕ} {e : StudentEnrollment}
    (h : r.currentEnrollment student academicYear = some e) :
    e ∈ r.enrollments ∧ e.student = student ∧ e.academicYear = academicYear ∧
      e.status = .active := by
  have hfound := List.find?_some h
  rw [decide_eq_true_eq] at hfound
  exact ⟨List.mem_of_find?_eq_some h, hfound⟩

theorem Registry.currentEnrollment_eq_none_iff {student academicYear : ℕ} :
    r.currentEnrollment student academicYear = none ↔ ∀ e ∈ r.enrollments, e.student = student →
      e.academicYear = academicYear → e.status ≠ .active := by
  simp only [Registry.currentEnrollment, List.find?_eq_none, decide_eq_true_eq, not_and]

theorem Registry.currentEnrollment_eq_find_history (student academicYear : ℕ) :
    r.currentEnrollment student academicYear = (r.history student).find? fun e =>
      e.academicYear = academicYear ∧ e.status = .active := by
  rw [Registry.currentEnrollment, Registry.history, List.find?_filter]
  congr 1
  funext e
  simp

def Registry.enroll (r : Registry) (x : Student) (e : StudentEnrollment) : Registry :=
  { r with students := r.students ++ [x], enrollments := r.enrollments ++ [e] }

theorem Registry.Coherent.nodup_append {α : Type} {key : α → ℕ} {rows : List α} {row : α}
    (h : (rows.map key).Nodup) (hlt : ∀ x ∈ rows, key x < key row) :
    ((rows ++ [row]).map key).Nodup := by
  rw [List.map_append, List.map_singleton, ← List.concat_eq_append, List.nodup_concat]
  refine ⟨fun hmem => ?_, h⟩
  obtain ⟨x, hx, hkey⟩ := List.mem_map.mp hmem
  exact absurd (hlt x hx) (by omega)

theorem Registry.Coherent.addStudent (h : r.Coherent next) {x : Student} (hx : next ≤ x.id) :
    Registry.Coherent { r with students := r.students ++ [x] } (x.id + 1) where
  students_nodup := Registry.Coherent.nodup_append h.students_nodup fun y hy =>
    (h.students_lt y hy).trans_le hx
  students_lt := by
    intro y hy
    rcases List.mem_append.mp hy with hy | hy
    · have hlt := h.students_lt y hy
      omega
    · rw [List.mem_singleton.mp hy]
      omega
  enrollments_nodup := h.enrollments_nodup
  enrollments_lt := by
    intro f hf
    have hlt := h.enrollments_lt f hf
    omega
  owners := by
    intro f hf
    obtain ⟨y, hy, hid⟩ := h.owners f hf
    exact ⟨y, List.mem_append_left _ hy, hid⟩
  dated := h.dated

/-- The record replaces one of a student with the same status. -/
def Registry.Amends (r : Registry) (x : Student) : Prop :=
  ∃ y ∈ r.students, y.id = x.id ∧ y.status = x.status

theorem Registry.Coherent.putStudent (h : r.Coherent next) (x : Student)
    (hx : ∃ y ∈ r.students, y.id = x.id) : (r.putStudent x).Coherent next where
  students_nodup := by
    have hkeys := Table.map_put (fun y : Student => y.id) x r.students
    exact hkeys ▸ h.students_nodup
  students_lt := by
    intro y hy
    rcases (Table.mem_put_iff _ x y hx).mp hy with rfl | ⟨hy, _⟩
    · obtain ⟨z, hz, hid⟩ := hx
      rw [← hid]
      exact h.students_lt z hz
    · exact h.students_lt y hy
  enrollments_nodup := h.enrollments_nodup
  enrollments_lt := h.enrollments_lt
  owners := by
    intro e he
    obtain ⟨y, hy, hid⟩ := h.owners e he
    by_cases heq : y.id = x.id
    · exact ⟨x, (Table.mem_put_iff _ x x hx).mpr (.inl rfl), heq ▸ hid⟩
    · exact ⟨y, (Table.mem_put_iff _ x y hx).mpr (.inr ⟨hy, heq⟩), hid⟩
  dated := h.dated

theorem Registry.Coherent.mapEnrollments (h : r.Coherent next)
    (f : StudentEnrollment → StudentEnrollment) (hid : ∀ e ∈ r.enrollments, (f e).id = e.id)
    (hstudent : ∀ e ∈ r.enrollments, ∃ x ∈ r.students, x.id = (f e).student)
    (hdated : ∀ e ∈ r.enrollments, ((f e).status = .active ↔ (f e).endedAt = none)) :
    Registry.Coherent { r with enrollments := r.enrollments.map f } next where
  students_nodup := h.students_nodup
  students_lt := h.students_lt
  enrollments_nodup := by
    have hkeys : (r.enrollments.map f).map (fun e => e.id) = r.enrollments.map fun e => e.id := by
      rw [List.map_map]
      exact List.map_congr_left hid
    exact hkeys ▸ h.enrollments_nodup
  enrollments_lt := by
    intro e he
    obtain ⟨e₀, he₀, rfl⟩ := List.mem_map.mp he
    rw [hid e₀ he₀]
    exact h.enrollments_lt e₀ he₀
  owners := by
    intro e he
    obtain ⟨e₀, he₀, rfl⟩ := List.mem_map.mp he
    exact hstudent e₀ he₀
  dated := by
    intro e he
    obtain ⟨e₀, he₀, rfl⟩ := List.mem_map.mp he
    exact hdated e₀ he₀

theorem Registry.Coherent.addEnrollment (h : r.Coherent next) {e : StudentEnrollment}
    (he : next ≤ e.id) (howner : ∃ x ∈ r.students, x.id = e.student)
    (hdated : e.status = .active ↔ e.endedAt = none) {later : ℕ} (hel : e.id < later) :
    (r.addEnrollment e).Coherent later where
  students_nodup := h.students_nodup
  students_lt := by
    intro x hx
    have hlt := h.students_lt x hx
    omega
  enrollments_nodup := Registry.Coherent.nodup_append h.enrollments_nodup fun f hf =>
    (h.enrollments_lt f hf).trans_le he
  enrollments_lt := by
    intro f hf
    rcases List.mem_append.mp hf with hf | hf
    · have hlt := h.enrollments_lt f hf
      omega
    · rwa [List.mem_singleton.mp hf]
  owners := by
    intro f hf
    rcases List.mem_append.mp hf with hf | hf
    · exact h.owners f hf
    · rwa [List.mem_singleton.mp hf]
  dated := by
    intro f hf
    rcases List.mem_append.mp hf with hf | hf
    · exact h.dated f hf
    · rwa [List.mem_singleton.mp hf]

theorem Registry.Coherent.enroll (h : r.Coherent next) {x : Student} {e : StudentEnrollment}
    (hx : next ≤ x.id) (he : x.id < e.id) (hstudent : e.student = x.id)
    (hdated : e.status = .active ↔ e.endedAt = none) {later : ℕ} (hel : e.id < later) :
    (r.enroll x e).Coherent later :=
  (h.addStudent hx).addEnrollment he
    ⟨x, List.mem_append_right _ List.mem_cons_self, hstudent.symm⟩ hdated hel

def StudentEnrollment.closed (e : StudentEnrollment) (student : ℕ) (status : EnrollmentStatus)
    (ended : Date) : StudentEnrollment :=
  if e.student = student ∧ e.status = .active then { e with status := status, endedAt := some ended }
  else e

theorem Registry.closeEnrollments_eq (student : ℕ) (status : EnrollmentStatus) (ended : Date) :
    r.closeEnrollments student status ended =
      { r with enrollments := r.enrollments.map fun e => e.closed student status ended } := rfl

theorem Registry.Coherent.closeEnrollments (h : r.Coherent next) (student : ℕ)
    {status : EnrollmentStatus} (hstatus : status ≠ .active) (ended : Date) :
    (r.closeEnrollments student status ended).Coherent next := by
  rw [Registry.closeEnrollments_eq]
  apply h.mapEnrollments
  · intro e he
    unfold StudentEnrollment.closed
    split <;> rfl
  · intro e he
    have hsame : (e.closed student status ended).student = e.student := by
      unfold StudentEnrollment.closed
      split <;> rfl
    rw [hsame]
    exact h.owners e he
  · intro e he
    unfold StudentEnrollment.closed
    split
    · simp [hstatus]
    · exact h.dated e he

def StudentEnrollment.transferredOn (e : StudentEnrollment) (day : Date) : StudentEnrollment :=
  { e with status := .transferred, endedAt := some day }

/-- The old enrollment of a student, if there is one, is ended on the day, and a fresh one is
added. -/
def Registry.reseat (r : Registry) (old : Option StudentEnrollment) (day : Date)
    (fresh : StudentEnrollment) : Registry :=
  (old.elim r fun e => r.putEnrollment (e.transferredOn day)).addEnrollment fresh

theorem Registry.reseat_students (r : Registry) (old : Option StudentEnrollment) (day : Date)
    (e : StudentEnrollment) : (r.reseat old day e).students = r.students := by
  unfold Registry.reseat
  cases old <;> rfl

theorem Registry.Coherent.putEnrollment_eq (h : r.Coherent next) {e : StudentEnrollment}
    (he : e ∈ r.enrollments) (e' : StudentEnrollment) (hid : e'.id = e.id) :
    r.putEnrollment e' =
      { r with enrollments := r.enrollments.map fun x => if x = e then e' else x } := by
  unfold Registry.putEnrollment Table.put
  congr 1
  apply List.map_congr_left
  intro x hx
  simp only [hid]
  by_cases hxe : x = e
  · simp [hxe]
  · have hne : x.id ≠ e.id := fun hk => hxe (Table.eq_of_key_eq h.enrollments_nodup hx he hk)
    simp [hxe, hne]

theorem Registry.Coherent.putTransferred (h : r.Coherent next) {e : StudentEnrollment}
    (he : e ∈ r.enrollments) (day : Date) :
    (r.putEnrollment (e.transferredOn day)).Coherent next := by
  rw [h.putEnrollment_eq he (e.transferredOn day) rfl]
  apply h.mapEnrollments
  · intro x hx
    split
    next hxe => rw [hxe]; rfl
    next => rfl
  · intro x hx
    split
    · exact h.owners e he
    · exact h.owners x hx
  · intro x hx
    split
    · simp [StudentEnrollment.transferredOn]
    · exact h.dated x hx

theorem Registry.Coherent.reseat (h : r.Coherent next) {old : Option StudentEnrollment}
    (hold : ∀ e, old = some e → e ∈ r.enrollments) (day : Date) {fresh : StudentEnrollment}
    (hfresh : next ≤ fresh.id) (howner : ∃ x ∈ r.students, x.id = fresh.student)
    (hdated : fresh.status = .active ↔ fresh.endedAt = none) {later : ℕ}
    (hlater : fresh.id < later) : (r.reseat old day fresh).Coherent later := by
  cases old with
  | none => exact h.addEnrollment hfresh howner hdated hlater
  | some e =>
    exact (h.putTransferred (hold e rfl) day).addEnrollment hfresh howner hdated hlater

theorem Registry.Coherent.mem_reseat (h : r.Coherent next) {old : Option StudentEnrollment}
    (hold : ∀ e, old = some e → e ∈ r.enrollments) {day : Date} {fresh x : StudentEnrollment} :
    x ∈ (r.reseat old day fresh).enrollments ↔
      x = fresh ∨ (∃ e, old = some e ∧ x = e.transferredOn day) ∨
        x ∈ r.enrollments ∧ ∀ e, old = some e → x ≠ e := by
  cases old with
  | none =>
    simp only [Registry.reseat, Option.elim_none, Registry.addEnrollment, List.mem_append,
      List.mem_singleton]
    simp [or_comm]
  | some e =>
    have he := hold e rfl
    have hput := Table.mem_put_iff (fun y : StudentEnrollment => y.id) (e.transferredOn day) x
      ⟨e, he, rfl⟩
    have hne : x ∈ r.enrollments → (x.id ≠ e.id ↔ x ≠ e) := fun hx =>
      ⟨fun hk hxe => hk (by rw [hxe]),
        fun hxe hk => hxe (Table.eq_of_key_eq h.enrollments_nodup hx he hk)⟩
    simp only [Registry.reseat, Option.elim_some, Registry.addEnrollment, Registry.putEnrollment,
      List.mem_append, List.mem_singleton, hput]
    have hid : (e.transferredOn day).id = e.id := rfl
    rw [hid]
    constructor
    · rintro ((rfl | ⟨hx, hk⟩) | rfl)
      · exact .inr (.inl ⟨e, rfl, rfl⟩)
      · refine .inr (.inr ⟨hx, ?_⟩)
        rintro f hf
        cases hf
        exact (hne hx).mp hk
      · exact .inl rfl
    · rintro (rfl | ⟨f, hf, rfl⟩ | ⟨hx, hall⟩)
      · exact .inr rfl
      · cases hf
        exact .inl (.inl rfl)
      · exact .inl (.inr ⟨hx, (hne hx).mpr (hall e rfl)⟩)

theorem filter_map_eq_filter {α : Type} {p : α → Bool} {f : α → α} {rows : List α}
    (hout : ∀ x ∈ rows, p (f x) = p x) (hin : ∀ x ∈ rows, p x = true → f x = x) :
    (rows.map f).filter p = rows.filter p := by
  induction rows with
  | nil => rfl
  | cons x rows ih =>
    have hrest := ih (fun y hy => hout y (List.mem_cons_of_mem _ hy))
      fun y hy => hin y (List.mem_cons_of_mem _ hy)
    rw [List.map_cons, List.filter_cons, List.filter_cons, hrest, hout x List.mem_cons_self]
    split
    next hx => rw [hin x List.mem_cons_self hx]
    next => rfl

theorem Registry.SamePeople.history (h : r.SamePeople r') (student : ℕ) :
    r'.history student = r.history student := by
  rw [Registry.history, Registry.history, h.enrollments]

theorem Registry.SamePeople.currentEnrollment (h : r.SamePeople r') (student academicYear : ℕ) :
    r'.currentEnrollment student academicYear = r.currentEnrollment student academicYear := by
  rw [Registry.currentEnrollment, Registry.currentEnrollment, h.enrollments]

theorem Registry.history_addEnrollment (e : StudentEnrollment) (student : ℕ) :
    (r.addEnrollment e).history student =
      if e.student = student then r.history student ++ [e] else r.history student := by
  rw [Registry.history, Registry.addEnrollment, List.filter_append, Registry.history]
  by_cases he : e.student = student <;> simp [he]

theorem Registry.history_enroll (x : Student) (e : StudentEnrollment) (student : ℕ) :
    (r.enroll x e).history student =
      if e.student = student then r.history student ++ [e] else r.history student :=
  Registry.history_addEnrollment e student

theorem Registry.Coherent.history_reseat_of_ne (h : r.Coherent next)
    {old : Option StudentEnrollment} (hold : ∀ e, old = some e → e ∈ r.enrollments) {day : Date}
    {fresh : StudentEnrollment} (howner : ∀ e, old = some e → e.student = fresh.student)
    {student : ℕ} (hne : fresh.student ≠ student) :
    (r.reseat old day fresh).history student = r.history student := by
  rw [Registry.reseat, Registry.history_addEnrollment, if_neg hne]
  cases old with
  | none => rfl
  | some e =>
    have hother : e.student ≠ student := by
      rw [howner e rfl]
      exact hne
    have hother' : (e.transferredOn day).student ≠ student := hother
    rw [Option.elim_some, h.putEnrollment_eq (hold e rfl) (e.transferredOn day) rfl]
    apply filter_map_eq_filter
    · intro x hx
      split
      next hxe => simp [hxe, hother, hother']
      next => rfl
    · intro x hx hin
      split
      next hxe =>
        rw [hxe, decide_eq_true_eq] at hin
        exact absurd hin hother
      next => rfl

open ReadCommitted

variable {o o' : Office} {r r' : Registry}

theorem Registry.insertStudent_eq_ok {x : Student} : r.insertStudent x = .ok r' ↔
    x.Fits ∧ (∀ y ∈ r.students, y.nationalIdLookupHash ≠ x.nationalIdLookupHash) ∧
      r.numberTaken x = false ∧ r' = { r with students := r.students ++ [x] } := by
  unfold Registry.insertStudent
  rw [Fallible.ite_error_eq_ok, Fallible.ite_error_eq_ok, Fallible.ite_error_eq_ok]
  simp only [not_not, List.any_eq_true, decide_eq_true_eq, not_exists, not_and,
    Bool.not_eq_true, Except.ok.injEq, eq_comm (a := r')]

theorem Registry.saveStudent_eq_ok {x : Student} : r.saveStudent x = .ok r' ↔
    x.Fits ∧ r.numberTaken x = false ∧ r' = r.putStudent x := by
  unfold Registry.saveStudent
  rw [Fallible.ite_error_eq_ok, Fallible.ite_error_eq_ok]
  simp only [not_not, Bool.not_eq_true, Except.ok.injEq, eq_comm (a := r')]

theorem Registry.insertEnrollment_eq_ok {e : StudentEnrollment} (he : e.status = .active) :
    r.insertEnrollment e = .ok r' ↔
      r.currentEnrollment e.student e.academicYear = none ∧ r' = r.addEnrollment e := by
  unfold Registry.insertEnrollment
  rw [Fallible.ite_error_eq_ok]
  simp only [he, true_and, Bool.not_eq_true, Option.isSome_eq_false_iff, Option.isNone_iff_eq_none,
    Except.ok.injEq, eq_comm (a := r')]

theorem Office.enrollNew_eq_ok {data : NewStudentData} {academicYear : ℕ} {target : Section}
    {day : Date} : o.enrollNew data academicYear target day = .ok o' ↔
      (data.student o.nextId).Fits ∧
      (∀ y ∈ o.registry.students, y.nationalIdLookupHash ≠ data.nationalIdLookupHash) ∧
      o.registry.numberTaken (data.student o.nextId) = false ∧
      o.registry.currentEnrollment o.nextId academicYear = none ∧
      o' = { o.setRegistry (o.registry.enroll (data.student o.nextId)
        (newEnrollment (o.nextId + 1) day o.nextId academicYear target)) with
          nextId := o.nextId + 2 } := by
  unfold Office.enrollNew
  constructor
  · intro h
    obtain ⟨r₁, hstudent, h⟩ := Fallible.bind_eq_ok.mp h
    obtain ⟨r₂, henrollment, h⟩ := Fallible.bind_eq_ok.mp h
    rw [Registry.insertStudent_eq_ok] at hstudent
    rw [Registry.insertEnrollment_eq_ok rfl] at henrollment
    obtain ⟨hfits, hhash, hnumber, rfl⟩ := hstudent
    obtain ⟨hnone, rfl⟩ := henrollment
    exact ⟨hfits, hhash, hnumber, hnone, (Fallible.pure_eq_ok.mp h).symm⟩
  · rintro ⟨hfits, hhash, hnumber, hnone, rfl⟩
    rw [Fallible.bind_eq_ok]
    refine ⟨_, Registry.insertStudent_eq_ok.mpr ⟨hfits, hhash, hnumber, rfl⟩, ?_⟩
    rw [Fallible.bind_eq_ok]
    exact ⟨_, (Registry.insertEnrollment_eq_ok rfl).mpr ⟨hnone, rfl⟩, rfl⟩

/-! ## One student -/

theorem createStudent_eq_ok {today : Date} {sectionId : ℕ} {data : NewStudentData}
    (h : createStudent today sectionId data o = .ok o') :
    ∃ year target, o.activeYear = some year ∧ o.openSection? sectionId = some target ∧
      o'.registry = o.registry.enroll (data.student o.nextId)
        (newEnrollment (o.nextId + 1) today o.nextId year.id target) ∧
      o'.nextId = o.nextId + 2 := by
  unfold createStudent at h
  split at h
  · cases h
  next year hyear =>
    split at h
    · cases h
    next target htarget =>
      split at h
      · cases h
      · rw [Fallible.ite_error_eq_ok, Fallible.ite_error_eq_ok, Office.enrollNew_eq_ok] at h
        obtain ⟨-, -, -, -, -, -, rfl⟩ := h
        exact ⟨year, target, hyear, htarget, rfl, rfl⟩

theorem Office.run_eq_ok {α : Type} {p : Operation α} : o.run p = .ok o' ↔
    ∃ a school, p.run o.school = (.ok a, school) ∧ o' = { o with school := school } := by
  unfold Office.run
  split
  next a school hrun =>
    rw [hrun]
    constructor
    · intro h
      exact ⟨a, school, rfl, (Except.ok.inj h).symm⟩
    · rintro ⟨b, school', heq, rfl⟩
      cases heq
      rfl
  next e school hrun =>
    rw [hrun]
    constructor
    · intro h
      cases h
    · rintro ⟨b, school', heq, -⟩
      cases heq

theorem setNationalId_eq_ok {s : School} {student x : Student} {id : Option (String × String)}
    (h : setNationalId s student id = .ok x) :
    x.id = student.id ∧ x.status = student.status := by
  unfold setNationalId at h
  split at h
  · cases h
    exact ⟨rfl, rfl⟩
  · split at h
    · cases h
      exact ⟨rfl, rfl⟩
    · rw [Fallible.ite_error_eq_ok] at h
      obtain ⟨-, h⟩ := h
      cases h
      exact ⟨rfl, rfl⟩

theorem setStudentNumber_eq_ok {s : School} {student x : Student}
    {number : Option (Option String)} (h : setStudentNumber s student number = .ok x) :
    x.id = student.id ∧ x.status = student.status := by
  unfold setStudentNumber at h
  split at h
  · cases h
    exact ⟨rfl, rfl⟩
  · simp only at h
    split at h
    · cases h
      exact ⟨rfl, rfl⟩
    · rw [Fallible.ite_error_eq_ok] at h
      obtain ⟨-, h⟩ := h
      cases h
      exact ⟨rfl, rfl⟩

def Registry.seatIn (r : Registry) (newId : ℕ) (today : Date) (student academicYear : ℕ)
    (target : Section) : Registry :=
  if (r.currentEnrollment student academicYear).any fun e => e.sectionId = target.id then r
  else r.reseat (r.currentEnrollment student academicYear) today
    (newEnrollment newId today student academicYear target)

theorem transferSection_eval (newId : ℕ) (today : Date) (student academicYear : ℕ)
    (target : Section) (s : School) :
    (transferSection newId today student academicYear target).eval s =
      .ok ((), s.setRegistry fun r => r.seatIn newId today student academicYear target) := by
  have hcurrent : (s.registry.enrollments.find? fun e => decide
      (e.student = student ∧ e.academicYear = academicYear ∧ e.status = .active)) =
        s.registry.currentEnrollment student academicYear := rfl
  unfold transferSection
  simp only [Tx.bind_eq, Tx.eval_bind, Tx.eval_selectForUpdate, hcurrent, School.setRegistry,
    Registry.seatIn]
  cases s.registry.currentEnrollment student academicYear with
  | none => simp [Registry.reseat, Tx.eval_update]
  | some e =>
    by_cases hsection : e.sectionId = target.id
    · simp [hsection]
    · simp [hsection, Registry.reseat, StudentEnrollment.transferredOn, Tx.eval_bind]

theorem updateStudent_run_ok {newId : ℕ} {today : Date} {studentId academicYear : ℕ}
    {target : Option Section} {data : StudentData} {s s' : School} {x : Student}
    (h : (updateStudent newId today studentId academicYear target data).run s = (.ok x, s')) :
    ∃ found, s.student? studentId = some found ∧ x.id = found.id ∧ x.status = found.status ∧
      s'.registry = (match target with
        | none => s.registry.putStudent x
        | some target => (s.registry.putStudent x).seatIn newId today x.id academicYear target) := by
  unfold updateStudent at h
  simp only [Program.transaction, Program.run, Tx.bind_eq, Tx.eval_bind,
    Tx.eval_selectForUpdate] at h
  cases hfound : s.student? studentId with
  | none => simp [hfound] at h
  | some found =>
    simp only [hfound, ask, Statements.ask, Tx.eval_bind, Tx.eval_select] at h
    cases hid : setNationalId s found data.nationalId with
    | error e => simp [hid, orRaise, raiseApi] at h
    | ok y =>
      cases hnumber : setStudentNumber s y data.studentNumber with
      | error e => simp [hid, hnumber, orRaise, raiseApi] at h
      | ok z =>
        have hy := setNationalId_eq_ok hid
        have hz := setStudentNumber_eq_ok hnumber
        simp only [hid, hnumber, orRaise, Tx.eval_ret, Tx.eval_updateWhere] at h
        refine ⟨found, rfl, ?_⟩
        cases target with
        | none =>
          cases h
          exact ⟨hz.1.trans hy.1, hz.2.trans hy.2, rfl⟩
        | some target =>
          simp only [Tx.eval_bind, transferSection_eval, Tx.pure_eq, Tx.eval_ret, Prod.mk.injEq,
            Except.ok.injEq] at h
          obtain ⟨rfl, rfl⟩ := h
          exact ⟨hz.1.trans hy.1, hz.2.trans hy.2, rfl⟩

theorem patchStudent_eq_ok {today : Date} {studentId : ℕ} {sectionId : Option ℕ}
    {data : StudentData} (h : patchStudent today studentId sectionId data o = .ok o') :
    ∃ found x, o.registry.student? studentId = some found ∧ x.id = found.id ∧
      x.status = found.status ∧ o'.nextId = o.nextId + 1 ∧
      (sectionId = none ∧ o'.registry = o.registry.putStudent x ∨
        ∃ id year target, sectionId = some id ∧ o.activeYear = some year ∧
          o.openSection? id = some target ∧ o'.registry =
            (o.registry.putStudent x).seatIn o.nextId today x.id year.id target) := by
  unfold patchStudent at h
  cases sectionId with
  | none =>
    obtain ⟨x, school, hrun, rfl⟩ := Office.run_eq_ok.mp h
    obtain ⟨found, hfound, hid, hstatus, hregistry⟩ := updateStudent_run_ok hrun
    exact ⟨found, x, hfound, hid, hstatus, rfl, .inl ⟨rfl, hregistry⟩⟩
  | some id =>
    simp only at h
    split at h
    · cases h
    next year hyear =>
      split at h
      · cases h
      next target htarget =>
        obtain ⟨x, school, hrun, rfl⟩ := Office.run_eq_ok.mp h
        obtain ⟨found, hfound, hid, hstatus, hregistry⟩ := updateStudent_run_ok hrun
        exact ⟨found, x, hfound, hid, hstatus, rfl,
          .inr ⟨id, year, target, rfl, hyear, htarget, hregistry⟩⟩

theorem statusView_run_ok {now : Instant} {today : Date} {studentId : ℕ}
    {newStatus : StudentStatus} {exitDate : Option Date} {exitReason : String} {s s' : School}
    {x : Student}
    (h : (statusView now today studentId newStatus exitDate exitReason).run s = (.ok x, s')) :
    ∃ found, s.student? studentId = some found ∧
      (s' = s ∨ newStatus ∈ allowedTargetStatuses ∧ found.status ≠ newStatus ∧
        x.id = found.id ∧ x.status = newStatus ∧
        s'.registry = if newStatus = .active then s.registry.putStudent x
          else (s.registry.putStudent x).closeEnrollments x.id (enrollmentCloseStatus newStatus)
            (exitDate.getD today)) := by
  unfold statusView at h
  simp only [Program.bind_eq, ask, Statements.ask, Program.read, Program.bind, Program.run] at h
  cases hfound : s.student? studentId with
  | none => simp [hfound, Program.run] at h
  | some found =>
    refine ⟨found, rfl, ?_⟩
    simp only [hfound, setStudentStatus, Program.transaction, Program.run] at h
    by_cases hallowed : newStatus ∉ allowedTargetStatuses
    · simp [hallowed, raiseApi] at h
    by_cases hmerged : found.mergedInto ≠ none
    · simp [hallowed, hmerged, raiseApi] at h
    by_cases hsame : found.status = newStatus
    · left
      simp only [if_neg hallowed, if_neg hmerged, if_pos hsame, Tx.pure_eq, Tx.eval_ret,
        Prod.mk.injEq] at h
      exact h.2.symm
    · right
      refine ⟨not_not.mp hallowed, hsame, ?_⟩
      simp only [if_neg hallowed, if_neg hmerged, if_neg hsame, Tx.bind_eq, Tx.eval_bind,
        Tx.eval_updateWhere, leaveSchool] at h
      by_cases hactive : newStatus = .active
      · simp only [hactive, if_true, Tx.pure_eq, Tx.eval_ret, Prod.mk.injEq,
          Except.ok.injEq] at h
        obtain ⟨rfl, rfl⟩ := h
        exact ⟨rfl, hactive.symm, by rw [if_pos hactive]; rfl⟩
      · simp only [hactive, if_false, Tx.pure_eq, Tx.eval_ret, Tx.eval_updateWhere, Prod.mk.injEq,
          Except.ok.injEq] at h
        obtain ⟨rfl, rfl⟩ := h
        exact ⟨rfl, rfl, by rw [if_neg hactive]; rfl⟩

end SchoolPlatform
