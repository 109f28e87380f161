import SchoolPlatform.Analysis.CommitSteps

/-!
# The grades and sections of an import

Before its rows are applied, a commit gets or creates the grade and the section of each of them,
and refuses a deactivated one. What that comes to is said by two views of the registry: which
grades and which sections are there, and which of them are active. A grade that is created for a
row is there for the rows after it. `ensurePlacements_refused_iff` says when the rows come to a
deactivated place.
-/

namespace SchoolPlatform

variable {g : Grade} {x : Section} {grade : ℕ}

/-! ## Views -/

def NormalizedRow.place (row : NormalizedRow) : String × String × String :=
  (row.gradeCode, row.sectionCode, row.department)

def Registry.gradeState (r : Registry) (code : String) : Option Bool :=
  (r.gradeByCode code).map fun g => g.isActive

def Registry.seatState (r : Registry) (place : String × String × String) : Option Bool :=
  ((r.gradeByCode place.1).bind fun grade => r.sectionByKey grade.id place.2.1 place.2.2).map
    fun x => x.isActive

/-- The row names a deactivated grade or section. -/
def Registry.PlaceClosed (r : Registry) (row : NormalizedRow) : Prop :=
  r.gradeState row.gradeCode = some false ∨ r.seatState row.place = some false

def NormalizedRow.NewGradeFits (row : NormalizedRow) : Prop :=
  (Grade.mk 0 row.gradeName row.gradeCode row.gradeSequence true).Fits

def NormalizedRow.NewSectionFits (row : NormalizedRow) : Prop :=
  (Section.mk 0 0 row.sectionName row.sectionCode row.department true).Fits

/-- The grade and the section that the row creates fit their columns, unless they are there or an
earlier row has created them. -/
def Registry.PlaceFits (r : Registry) (earlier : List NormalizedRow) (row : NormalizedRow) : Prop :=
  (r.gradeState row.gradeCode = none → (∀ x ∈ earlier, x.gradeCode ≠ row.gradeCode) →
    row.NewGradeFits) ∧
  (r.seatState row.place = none → (∀ x ∈ earlier, x.place ≠ row.place) → row.NewSectionFits)

def Registry.MeetsClosed (r : Registry) (rows : List NormalizedRow) : Prop :=
  ∃ before row after, rows = before ++ row :: after ∧ r.PlaceClosed row ∧
    ∀ earlier x later, before = earlier ++ x :: later → r.PlaceFits earlier x

/-- Grades have distinct ids, and sections are those of grades. -/
structure Registry.PlacesCoherent (r : Registry) (next : ℕ) : Prop where
  grades_nodup : (r.grades.map fun g => g.id).Nodup
  grades_lt : ∀ g ∈ r.grades, g.id < next
  sections_lt : ∀ x ∈ r.sections, x.grade < next

variable {r : Registry} {next : ℕ} {o o' : Office} {row : NormalizedRow}

theorem Registry.seatState_eq_none {place : String × String × String}
    (h : r.gradeState place.1 = none) : r.seatState place = none := by
  have hnone : r.gradeByCode place.1 = none := Option.map_eq_none_iff.mp h
  unfold Registry.seatState
  rw [hnone]
  rfl

def Registry.addGrade (r : Registry) (g : Grade) : Registry := { r with grades := r.grades ++ [g] }

theorem Registry.gradeByCode_addGrade (g : Grade) (hnone : r.gradeByCode g.code = none)
    (code : String) :
    (r.addGrade g).gradeByCode code = if code = g.code then some g else r.gradeByCode code := by
  have happend : (r.addGrade g).gradeByCode code =
      (r.gradeByCode code).or (if g.code = code then some g else none) := by
    unfold Registry.addGrade Registry.gradeByCode
    rw [List.find?_append]
    congr 1
    by_cases hcode : g.code = code
    · simp [hcode]
    · simp [hcode]
  rw [happend]
  by_cases hcode : code = g.code
  · rw [if_pos hcode, if_pos hcode.symm, hcode, hnone]
    rfl
  · rw [if_neg hcode, if_neg fun h => hcode h.symm]
    cases r.gradeByCode code <;> rfl

theorem Registry.PlacesCoherent.addGrade (h : r.PlacesCoherent next) (hid : g.id = next) :
    (r.addGrade g).PlacesCoherent (next + 1) where
  grades_nodup := Registry.Coherent.nodup_append h.grades_nodup fun g' hg' =>
    (h.grades_lt g' hg').trans_eq hid.symm
  grades_lt := by
    intro g' hg'
    rcases List.mem_append.mp hg' with hg' | hg'
    · exact (h.grades_lt g' hg').trans (Nat.lt_succ_self _)
    · rw [List.mem_singleton.mp hg', hid]
      exact Nat.lt_succ_self _
  sections_lt := fun x hx => (h.sections_lt x hx).trans (Nat.lt_succ_self _)

theorem Registry.PlacesCoherent.sectionByKey_next (h : r.PlacesCoherent next)
    (code department : String) : r.sectionByKey next code department = none := by
  unfold Registry.sectionByKey
  rw [List.find?_eq_none]
  intro x hx
  have hlt := h.sections_lt x hx
  simp only [decide_eq_true_eq]
  omega

theorem Registry.gradeState_addGrade (g : Grade) (hnone : r.gradeByCode g.code = none)
    (hactive : g.isActive = true) (code : String) : (r.addGrade g).gradeState code =
      if code = g.code then some true else r.gradeState code := by
  unfold Registry.gradeState
  rw [r.gradeByCode_addGrade g hnone]
  split
  · exact congrArg some hactive
  · rfl

theorem Registry.PlacesCoherent.seatState_addGrade (h : r.PlacesCoherent next) (g : Grade)
    (hid : g.id = next) (hnone : r.gradeByCode g.code = none) (place : String × String × String) :
    (r.addGrade g).seatState place = r.seatState place := by
  by_cases hcode : place.1 = g.code
  · have hnew : (r.addGrade g).gradeByCode place.1 = some g := by
      rw [r.gradeByCode_addGrade g hnone, if_pos hcode]
    have hold : r.gradeByCode place.1 = none := by rw [hcode, hnone]
    have hfree : (r.addGrade g).sectionByKey g.id place.2.1 place.2.2 = none := by
      rw [hid]
      exact h.sectionByKey_next _ _
    unfold Registry.seatState
    rw [hnew, hold, Option.bind_some, hfree]
    rfl
  · have hsame : (r.addGrade g).gradeByCode place.1 = r.gradeByCode place.1 := by
      rw [r.gradeByCode_addGrade g hnone, if_neg hcode]
    unfold Registry.seatState
    rw [hsame]
    rfl

def Registry.addSection (r : Registry) (x : Section) : Registry :=
  { r with sections := r.sections ++ [x] }

theorem Registry.sectionByKey_addSection (x : Section) (grade : ℕ) (code department : String) :
    (r.addSection x).sectionByKey grade code department =
      (r.sectionByKey grade code department).or
        (if x.grade = grade ∧ x.code = code ∧ x.department = department then some x else none) := by
  unfold Registry.addSection Registry.sectionByKey
  rw [List.find?_append]
  congr 1
  by_cases hkey : x.grade = grade ∧ x.code = code ∧ x.department = department
  · simp [hkey]
  · simp [hkey]

theorem Registry.PlacesCoherent.addSection (h : r.PlacesCoherent next) (hg : g ∈ r.grades)
    (hgrade : x.grade = g.id) :
    (r.addSection x).PlacesCoherent (next + 1) where
  grades_nodup := h.grades_nodup
  grades_lt := fun g' hg' => (h.grades_lt g' hg').trans (Nat.lt_succ_self _)
  sections_lt := by
    intro y hy
    rcases List.mem_append.mp hy with hy | hy
    · exact (h.sections_lt y hy).trans (Nat.lt_succ_self _)
    · rw [List.mem_singleton.mp hy, hgrade]
      exact (h.grades_lt g hg).trans (Nat.lt_succ_self _)

theorem Registry.mem_of_gradeByCode {code : String} (h : r.gradeByCode code = some g) :
    g ∈ r.grades ∧ g.code = code := by
  have hcode := List.find?_some h
  rw [decide_eq_true_eq] at hcode
  exact ⟨List.mem_of_find?_eq_some h, hcode⟩

theorem Registry.PlacesCoherent.seatState_addSection (h : r.PlacesCoherent next)
    (hg : r.gradeByCode row.gradeCode = some g)
    (hx : x.grade = g.id ∧ x.code = row.sectionCode ∧ x.department = row.department)
    (hactive : x.isActive = true)
    (hnone : r.sectionByKey g.id row.sectionCode row.department = none)
    (place : String × String × String) : (r.addSection x).seatState place =
      if place = row.place then some true else r.seatState place := by
  have hgrades : ∀ code, (r.addSection x).gradeByCode code = r.gradeByCode code := fun _ => rfl
  obtain ⟨hmem, hcode⟩ := Registry.mem_of_gradeByCode hg
  unfold Registry.seatState
  rw [hgrades]
  by_cases hplace : place = row.place
  · have hcodes : place.1 = row.gradeCode ∧ place.2.1 = row.sectionCode ∧
        place.2.2 = row.department := by
      rw [hplace]
      exact ⟨rfl, rfl, rfl⟩
    rw [if_pos hplace, hcodes.1, hcodes.2.1, hcodes.2.2, hg, Option.bind_some,
      Registry.sectionByKey_addSection, hnone, if_pos hx]
    exact congrArg some hactive
  · rw [if_neg hplace]
    congr 1
    cases hother : r.gradeByCode place.1 with
    | none => rfl
    | some g' =>
      rw [Option.bind_some, Option.bind_some, Registry.sectionByKey_addSection]
      have hne : ¬ (x.grade = g'.id ∧ x.code = place.2.1 ∧ x.department = place.2.2) := by
        rintro ⟨hgrade, hsection, hdepartment⟩
        obtain ⟨hmem', hcode'⟩ := Registry.mem_of_gradeByCode hother
        have hsame : g' = g := Table.eq_of_key_eq h.grades_nodup hmem' hmem
          (hgrade.symm.trans hx.1)
        apply hplace
        unfold NormalizedRow.place
        rw [← hcode, ← hx.2.1, ← hx.2.2, hsection, hdepartment, ← hsame, hcode']
      rw [if_neg hne, Option.or_none]

/-! ## The place of a row -/

structure Placed (o : Office) (row : NormalizedRow) (o' : Office) : Prop where
  coherent : o'.registry.PlacesCoherent o'.nextId
  grades : ∀ code, o'.registry.gradeState code =
    if code = row.gradeCode then some true else o.registry.gradeState code
  seats : ∀ place, o'.registry.seatState place =
    if place = row.place then some true else o.registry.seatState place

inductive PlaceOutcome (o : Office) (row : NormalizedRow) : Except Failure Office → Prop
  | refused (e : ApiError) (h : o.registry.PlaceClosed row) : PlaceOutcome o row (.error (.api e))
  | unfit (column : String) (hopen : ¬ o.registry.PlaceClosed row)
      (h : ¬ o.registry.PlaceFits [] row) : PlaceOutcome o row (.error (.dataError column))
  | placed (o' : Office) (hopen : ¬ o.registry.PlaceClosed row)
      (hfits : o.registry.PlaceFits [] row) (h : Placed o row o') : PlaceOutcome o row (.ok o')

theorem Registry.gradeState_eq_some {code : String} (h : r.gradeByCode code = some g) :
    r.gradeState code = some g.isActive := by
  unfold Registry.gradeState
  rw [h]
  rfl

theorem Registry.seatState_eq (h : r.gradeByCode row.gradeCode = some g) :
    r.seatState row.place =
      (r.sectionByKey g.id row.sectionCode row.department).map fun x => x.isActive := by
  have hplace : r.gradeByCode row.place.1 = some g := h
  unfold Registry.seatState
  rw [hplace]
  rfl

def importInactiveGrade : ApiError where
  code := "IMPORT_INACTIVE_GRADE"
  message := "يشير ملف الاستيراد إلى صف غير فعال. " ++
    "صحح رمز الصف أو فعّله بعد مراجعة قيود الطلاب."
  statusCode := 409

def importInactiveSection : ApiError where
  code := "IMPORT_INACTIVE_SECTION"
  message := "يشير ملف الاستيراد إلى فصل غير فعال. " ++
    "صحح رمز الفصل أو فعّله بعد مراجعة قيود الطلاب."
  statusCode := 409

def ensureSection (row : NormalizedRow) (grade : ℕ) (o : Office) : Except Failure Office := do
  let (section_, o) ← getOrCreateSection row grade o
  if ¬ section_.isActive then .error (.api importInactiveSection) else .ok o

theorem ensurePlacement_eq (row : NormalizedRow) (o : Office) :
    ensurePlacement row o = if row.status = some .existingUpdated then .ok o
      else getOrCreateGrade row o >>= fun p =>
        if ¬ p.1.isActive then .error (.api importInactiveGrade)
        else ensureSection row p.1.id p.2 :=
  rfl

def NormalizedRow.newSection (row : NormalizedRow) (id grade : ℕ) : Section :=
  ⟨id, grade, row.sectionName, row.sectionCode, row.department, true⟩

theorem getOrCreateSection_found
    (h : o.registry.sectionByKey grade row.sectionCode row.department = some x) :
    getOrCreateSection row grade o = .ok (x, o) := by
  unfold getOrCreateSection
  rw [h]

theorem getOrCreateSection_new
    (h : o.registry.sectionByKey grade row.sectionCode row.department = none)
    (hfits : row.NewSectionFits) :
    getOrCreateSection row grade o = .ok (row.newSection o.nextId grade,
      { o.setRegistry (o.registry.addSection (row.newSection o.nextId grade)) with
        nextId := o.nextId + 1 }) := by
  have hstored : (row.newSection o.nextId grade).Fits := hfits
  unfold getOrCreateSection
  rw [h]
  exact if_neg (not_not.mpr hstored)

theorem getOrCreateSection_unfit
    (h : o.registry.sectionByKey grade row.sectionCode row.department = none)
    (hfits : ¬ row.NewSectionFits) :
    getOrCreateSection row grade o = .error (.dataError "students_section") := by
  have hrefused : ¬ (row.newSection o.nextId grade).Fits := hfits
  unfold getOrCreateSection
  rw [h]
  exact if_pos hrefused

theorem ensureSection_outcome (h : o.registry.PlacesCoherent o.nextId)
    (hg : o.registry.gradeByCode row.gradeCode = some g) :
    (ensureSection row g.id o = .error (.api importInactiveSection) ∧
      o.registry.seatState row.place = some false) ∨
    (ensureSection row g.id o = .error (.dataError "students_section") ∧
      o.registry.seatState row.place = none ∧ ¬ row.NewSectionFits) ∨
    ∃ o', ensureSection row g.id o = .ok o' ∧ o.registry.seatState row.place ≠ some false ∧
      (o.registry.seatState row.place = none → row.NewSectionFits) ∧
      o'.registry.PlacesCoherent o'.nextId ∧
      (∀ code, o'.registry.gradeState code = o.registry.gradeState code) ∧
      ∀ place, o'.registry.seatState place =
        if place = row.place then some true else o.registry.seatState place := by
  have hseat := Registry.seatState_eq hg
  unfold ensureSection
  cases hx : o.registry.sectionByKey g.id row.sectionCode row.department with
  | some x =>
    rw [hx, Option.map_some] at hseat
    rw [getOrCreateSection_found hx]
    cases hactive : x.isActive with
    | false =>
      rw [hactive] at hseat
      exact .inl ⟨if_pos (by simp [hactive]), hseat⟩
    | true =>
      rw [hactive] at hseat
      refine .inr (.inr ⟨o, if_neg (by simp [hactive]), ?_, ?_, h, fun _ => rfl, ?_⟩)
      · simp [hseat]
      · simp [hseat]
      · intro place
        by_cases hplace : place = row.place
        · rw [if_pos hplace, hplace, hseat]
        · rw [if_neg hplace]
  | none =>
    rw [hx, Option.map_none] at hseat
    by_cases hfits : row.NewSectionFits
    · rw [getOrCreateSection_new hx hfits]
      refine .inr (.inr ⟨_, rfl, ?_, fun _ => hfits, ?_, fun _ => rfl, ?_⟩)
      · simp [hseat]
      · exact h.addSection (Registry.mem_of_gradeByCode hg).1 rfl
      · exact h.seatState_addSection hg ⟨rfl, rfl, rfl⟩ rfl hx
    · rw [getOrCreateSection_unfit hx hfits]
      exact .inr (.inl ⟨rfl, hseat, hfits⟩)

/-! ## The grade and the section -/

def NormalizedRow.newGrade (row : NormalizedRow) (id : ℕ) : Grade :=
  ⟨id, row.gradeName, row.gradeCode, row.gradeSequence, true⟩

def Office.withNewGrade (o : Office) (row : NormalizedRow) : Office :=
  { o.setRegistry (o.registry.addGrade (row.newGrade o.nextId)) with nextId := o.nextId + 1 }

theorem getOrCreateGrade_found (h : o.registry.gradeByCode row.gradeCode = some g) :
    getOrCreateGrade row o = .ok (g, o) := by
  unfold getOrCreateGrade
  rw [h]

theorem getOrCreateGrade_new (h : o.registry.gradeByCode row.gradeCode = none)
    (hfits : row.NewGradeFits) :
    getOrCreateGrade row o = .ok (row.newGrade o.nextId, o.withNewGrade row) := by
  have hstored : (row.newGrade o.nextId).Fits := hfits
  unfold getOrCreateGrade
  rw [h]
  exact if_neg (not_not.mpr hstored)

theorem getOrCreateGrade_unfit (h : o.registry.gradeByCode row.gradeCode = none)
    (hfits : ¬ row.NewGradeFits) :
    getOrCreateGrade row o = .error (.dataError "students_grade") := by
  have hrefused : ¬ (row.newGrade o.nextId).Fits := hfits
  unfold getOrCreateGrade
  rw [h]
  exact if_pos hrefused

theorem Registry.placeFits_nil : r.PlaceFits [] row ↔
    (r.gradeState row.gradeCode = none → row.NewGradeFits) ∧
      (r.seatState row.place = none → row.NewSectionFits) := by
  simp [Registry.PlaceFits]

theorem ensurePlacement_outcome_of_grade (h : o.registry.PlacesCoherent o.nextId)
    (hg : o.registry.gradeByCode row.gradeCode = some g) (hactive : g.isActive = true) :
    PlaceOutcome o row (ensureSection row g.id o) := by
  have hgrade : o.registry.gradeState row.gradeCode = some true := by
    rw [Registry.gradeState_eq_some hg, hactive]
  rcases ensureSection_outcome h hg with ⟨heq, hseat⟩ | ⟨heq, hseat, hfits⟩ |
    ⟨o', heq, hopen, hfits, hcoherent, hgrades, hseats⟩
  · rw [heq]
    exact .refused _ (.inr hseat)
  · rw [heq]
    apply PlaceOutcome.unfit
    · rintro (hno | hno)
      · rw [hgrade] at hno
        exact nomatch hno
      · rw [hseat] at hno
        exact nomatch hno
    · intro hno
      exact hfits ((Registry.placeFits_nil.mp hno).2 hseat)
  · rw [heq]
    refine .placed o' ?_ ?_ ⟨hcoherent, ?_, hseats⟩
    · rintro (hno | hno)
      · rw [hgrade] at hno
        exact nomatch hno
      · exact hopen hno
    · rw [Registry.placeFits_nil, hgrade]
      exact ⟨fun hno => (nomatch hno), hfits⟩
    · intro code
      rw [hgrades code]
      by_cases hcode : code = row.gradeCode
      · rw [if_pos hcode, hcode, hgrade]
      · rw [if_neg hcode]

theorem PlaceOutcome.of_new_grade {o₁ : Office} {result : Except Failure Office}
    (h : PlaceOutcome o₁ row result) (hgrade : o.registry.gradeState row.gradeCode = none)
    (hfits : row.NewGradeFits)
    (hstates : ∀ code, o₁.registry.gradeState code =
      if code = row.gradeCode then some true else o.registry.gradeState code)
    (hseats : ∀ place, o₁.registry.seatState place = o.registry.seatState place) :
    PlaceOutcome o row result := by
  have hseat : o.registry.seatState row.place = none := Registry.seatState_eq_none hgrade
  have hgrade₁ : o₁.registry.gradeState row.gradeCode = some true := by
    rw [hstates, if_pos rfl]
  have hopen : ¬ o.registry.PlaceClosed row := by
    rw [Registry.PlaceClosed, hgrade, hseat]
    simp
  have hfits₁ : o₁.registry.PlaceFits [] row ↔ o.registry.PlaceFits [] row := by
    rw [Registry.placeFits_nil, Registry.placeFits_nil, hgrade₁, hgrade, hseats]
    simp [hfits]
  cases h with
  | refused e hclosed =>
    rw [Registry.PlaceClosed, hgrade₁, hseats, hseat] at hclosed
    simp at hclosed
  | unfit column _ hno => exact .unfit column hopen fun hno' => hno (hfits₁.mpr hno')
  | placed o' _ hyes hplaced =>
    refine .placed o' hopen (hfits₁.mp hyes) ⟨hplaced.coherent, ?_, ?_⟩
    · intro code
      rw [hplaced.grades, hstates]
      split <;> rfl
    · intro place
      rw [hplaced.seats, hseats]

theorem ensurePlacement_outcome (h : o.registry.PlacesCoherent o.nextId)
    (hrow : row.status ≠ some .existingUpdated) : PlaceOutcome o row (ensurePlacement row o) := by
  rw [ensurePlacement_eq, if_neg hrow]
  cases hg : o.registry.gradeByCode row.gradeCode with
  | some g =>
    rw [getOrCreateGrade_found hg]
    cases hactive : g.isActive with
    | false =>
      have hrefused : PlaceOutcome o row (.error (.api importInactiveGrade)) :=
        .refused _ (.inl (by rw [Registry.gradeState_eq_some hg, hactive]))
      simpa [bind, Except.bind, hactive] using hrefused
    | true =>
      have hgo := ensurePlacement_outcome_of_grade h hg hactive
      simpa [bind, Except.bind, hactive] using hgo
  | none =>
    have hgrade : o.registry.gradeState row.gradeCode = none := by
      rw [Registry.gradeState, hg]
      rfl
    have hseat : o.registry.seatState row.place = none := Registry.seatState_eq_none hgrade
    have hopen : ¬ o.registry.PlaceClosed row := by
      rintro (hno | hno)
      · rw [hgrade] at hno
        exact nomatch hno
      · rw [hseat] at hno
        exact nomatch hno
    by_cases hfits : row.NewGradeFits
    · have hthere : (o.registry.addGrade (row.newGrade o.nextId)).gradeByCode row.gradeCode =
          some (row.newGrade o.nextId) := by
        rw [Registry.gradeByCode_addGrade _ hg]
        exact if_pos rfl
      have hstates := o.registry.gradeState_addGrade (row.newGrade o.nextId) hg rfl
      have hseats := h.seatState_addGrade (row.newGrade o.nextId) rfl hg
      -- The new grade is active, so what is left is its section, in the office that has the grade.
      have hcoherent : (o.withNewGrade row).registry.PlacesCoherent (o.withNewGrade row).nextId :=
        h.addGrade rfl
      have hnext := ensurePlacement_outcome_of_grade hcoherent hthere rfl
      rw [getOrCreateGrade_new hg hfits]
      exact hnext.of_new_grade hgrade hfits hstates hseats
    · rw [getOrCreateGrade_unfit hg hfits]
      exact .unfit _ hopen fun hno => hfits ((Registry.placeFits_nil.mp hno).1 hgrade)

theorem Placed.placeClosed_iff (h : Placed o row o') (hopen : ¬ o.registry.PlaceClosed row)
    (later : NormalizedRow) : o'.registry.PlaceClosed later ↔ o.registry.PlaceClosed later := by
  obtain ⟨hgrade, hseat⟩ := not_or.mp hopen
  unfold Registry.PlaceClosed
  rw [h.grades, h.seats]
  by_cases hcode : later.gradeCode = row.gradeCode
  · by_cases hplace : later.place = row.place
    · simp [hcode, hplace, hgrade, hseat]
    · simp [hcode, hplace, hgrade]
  · have hplace : later.place ≠ row.place := fun hplace => hcode (congrArg Prod.fst hplace)
    simp [hcode, hplace]

theorem Placed.placeFits_iff (h : Placed o row o') (earlier : List NormalizedRow)
    (later : NormalizedRow) :
    o'.registry.PlaceFits earlier later ↔ o.registry.PlaceFits (row :: earlier) later := by
  unfold Registry.PlaceFits
  rw [h.grades, h.seats]
  by_cases hcode : later.gradeCode = row.gradeCode
  · by_cases hplace : later.place = row.place
    · simp [hcode, hplace]
    · simp [hcode, hplace, Ne.symm hplace]
  · have hplace : later.place ≠ row.place := fun hplace => hcode (congrArg Prod.fst hplace)
    simp [hcode, hplace, Ne.symm hcode, Ne.symm hplace]

theorem Placed.meetsClosed_iff (h : Placed o row o') (hopen : ¬ o.registry.PlaceClosed row)
    (hfits : o.registry.PlaceFits [] row) (rest : List NormalizedRow) :
    o.registry.MeetsClosed (row :: rest) ↔ o'.registry.MeetsClosed rest := by
  constructor
  · rintro ⟨before, closed, after, hsplit, hclosed, hbefore⟩
    cases before with
    | nil =>
      obtain ⟨rfl, -⟩ := List.cons.inj hsplit
      exact absurd hclosed hopen
    | cons first before =>
      obtain ⟨rfl, hrest⟩ := List.cons.inj hsplit
      refine ⟨before, closed, after, hrest, (h.placeClosed_iff hopen closed).mpr hclosed, ?_⟩
      intro earlier x later hx
      apply (h.placeFits_iff earlier x).mpr
      exact hbefore (row :: earlier) x later (by rw [hx, List.cons_append])
  · rintro ⟨before, closed, after, hsplit, hclosed, hbefore⟩
    refine ⟨row :: before, closed, after, by rw [hsplit, List.cons_append],
      (h.placeClosed_iff hopen closed).mp hclosed, ?_⟩
    intro earlier x later hx
    cases earlier with
    | nil =>
      obtain ⟨rfl, -⟩ := List.cons.inj hx
      exact hfits
    | cons first earlier =>
      rw [List.cons_append] at hx
      obtain ⟨rfl, hrest⟩ := List.cons.inj hx
      exact (h.placeFits_iff earlier x).mp (hbefore earlier x later hrest)

def placedRows (rows : List NormalizedRow) : List NormalizedRow :=
  rows.filter fun row => row.status ≠ some .existingUpdated

theorem ensurePlacements_refused_iff (rows : List NormalizedRow)
    (h : o.registry.PlacesCoherent o.nextId) :
    (∃ e, rows.foldlM (fun o row => ensurePlacement row o) o = .error (.api e)) ↔
      o.registry.MeetsClosed (placedRows rows) := by
  induction rows generalizing o with
  | nil =>
    refine ⟨fun ⟨_, hno⟩ => (nomatch hno), fun ⟨before, closed, after, hsplit, _⟩ => ?_⟩
    cases before <;> cases hsplit
  | cons row rows ih =>
    rw [List.foldlM_cons]
    by_cases hrow : row.status = some .existingUpdated
    · have hskip : ensurePlacement row o = .ok o := by rw [ensurePlacement_eq, if_pos hrow]
      have hrows : placedRows (row :: rows) = placedRows rows := by
        simp [placedRows, hrow]
      rw [hskip, hrows]
      exact ih h
    · have hrows : placedRows (row :: rows) = row :: placedRows rows := by
        simp [placedRows, hrow]
      rw [hrows]
      have hplace := ensurePlacement_outcome h hrow
      generalize ensurePlacement row o = result at hplace
      cases hplace with
      | refused e hclosed =>
        refine ⟨fun _ => ⟨[], row, placedRows rows, rfl, hclosed, ?_⟩, fun _ => ⟨e, rfl⟩⟩
        intro earlier x later hx
        exact absurd hx (by simp)
      | unfit column hopen hno =>
        refine ⟨fun ⟨_, hno⟩ => (nomatch hno), fun ⟨before, closed, after, hsplit, hclosed,
          hbefore⟩ => ?_⟩
        cases before with
        | nil =>
          obtain ⟨rfl, -⟩ := List.cons.inj hsplit
          exact absurd hclosed hopen
        | cons first before =>
          obtain ⟨rfl, -⟩ := List.cons.inj hsplit
          exact absurd (hbefore [] row before rfl) hno
      | placed o' hopen hfits hplaced =>
        rw [hplaced.meetsClosed_iff hopen hfits]
        exact ih hplaced.coherent

end SchoolPlatform
