import SchoolPlatform.Analysis.Frames
import SchoolPlatform.Library.Guarantees
import SchoolPlatform.Model.Issuance

/-!
# The numbers of a warning

The metric of a warning is read when its request is evaluated, its counters and the days that it
lists are read later. They agree in every run in which no commit changes the metric of an issuance
that is under way (`calm_warningNumbers`), and need not otherwise (`arrival_duringIssue`).
-/

/-! ## What the issuing of a warning commits -/

namespace SchoolPlatform

open ReadCommitted

def StudentWarning.letter (w : StudentWarning) : StudentWarning :=
  { w with status := .issued, voidedByMembership := none, voidedAt := none, voidReason := "" }

def WarningOffice.letters (s : WarningOffice) :
    Registry × List WarningRule × List StudentWarning :=
  (s.school.registry, s.rules, s.warnings.map StudentWarning.letter)

theorem WarningOffice.letters_markVoided (s : WarningOffice) (id : ℕ) (membership : Option ℕ)
    (now : Instant) (reason : String) :
    (s.markVoided id membership now reason).letters = s.letters := by
  simp only [letters, markVoided, Prod.mk.injEq, true_and]
  apply List.ext_getElem?
  intro i
  simp only [List.getElem?_map, List.getElem?_modify]
  by_cases hi : id = i
  · subst hi
    cases s.warnings[id]? <;> simp [StudentWarning.letter]
  · simp [hi]

theorem voidLockedWarning_keepsLetters (id : ℕ) (membership : Option ℕ) (now : Instant)
    (reason : String) :
    (voidLockedWarning id membership now reason).Keeps WarningOffice.letters := by
  unfold voidLockedWarning
  refine ⟨fun s => s.letters_markVoided id membership now reason, fun rows documents => ?_⟩
  have hone : ∀ d, (Tx.update fun s => s.voidDocument d membership now reason :
      WarningTransaction Unit).Keeps WarningOffice.letters := fun d => ⟨fun s => rfl, trivial⟩
  exact Tx.Keeps.forEach hone documents

theorem metricsByYear_keepsLetters (warningType : WarningRuleType) (years : List ℕ)
    (acc : Dict ℕ (ℕ → ℕ)) :
    (metricsByYear warningType years acc).Keeps WarningOffice.letters := by
  induction years generalizing acc with
  | nil => trivial
  | cons yearId years ih =>
    intro year
    cases year with
    | none => trivial
    | some year => exact fun values => ih _

theorem voidUnsupported_keepsLetters (warningType : WarningRuleType) (membership : Option ℕ)
    (now : Instant) (values : Dict ℕ (ℕ → ℕ)) (warnings : List (ℕ × StudentWarning)) :
    (voidUnsupported warningType membership now values warnings).Keeps WarningOffice.letters := by
  induction warnings with
  | nil => trivial
  | cons p warnings ih =>
    unfold voidUnsupported
    dsimp only
    split_ifs
    · exact ih
    · exact (voidLockedWarning_keepsLetters _ _ _ _).bind fun _ => ih

theorem reconcileIssuedWarnings_keepsLetters (studentIds : List ℕ)
    (warningType : WarningRuleType) (membership : Option ℕ) (now : Instant) :
    (reconcileIssuedWarnings studentIds warningType membership now).Keeps
      WarningOffice.letters := by
  unfold reconcileIssuedWarnings
  split_ifs
  · trivial
  · intro rows warnings
    exact (metricsByYear_keepsLetters _ _ _).bind fun values =>
      voidUnsupported_keepsLetters _ _ _ values warnings

theorem recalculate_keepsLetters (now : Instant) (c : SectionCounters) (membership : Option ℕ) :
    (recalculate now c membership).Keeps WarningOffice.letters := by
  have hwrites : (writeSummaries now c).Keeps School.registry :=
    writeSummaries_keepsBeside (fun _ _ => rfl) now c
  refine (hwrites.zoom fun school s h => ?_).bind fun _ =>
    reconcileIssuedWarnings_keepsLetters _ _ _ _
  simp only [WarningOffice.letters, attendancePart] at h ⊢
  rw [h]

theorem applyArrivalEventsBulk_keepsLetters (rows : List SchoolArrival) (now : Instant) :
    (Morning.applyArrivalEventsBulk rows now).Keeps WarningOffice.letters := by
  have hput : ∀ a : SchoolArrival, (Tx.update fun s => s.putArrival a :
      WarningTransaction Unit).Keeps WarningOffice.letters := fun a => ⟨fun s => rfl, trivial⟩
  intro keys existing
  refine (Tx.Keeps.forEach hput _).bind fun _ => ?_
  exact Tx.Keeps.bind (fun free => ⟨fun s => rfl, trivial⟩) fun _ =>
    reconcileIssuedWarnings_keepsLetters _ _ _ _

theorem applyArrivalEvent_keepsLetters (a : SchoolArrival) (now : Instant) :
    (Morning.applyArrivalEvent a now).Keeps WarningOffice.letters := by
  refine Tx.Keeps.bind (fun _ _ => trivial) fun existing => ?_
  cases existing.head? with
  | none =>
    intro taken
    cases taken with
    | true => trivial
    | false => exact ⟨fun s => rfl, trivial⟩
  | some x =>
    dsimp only
    split_ifs
    · exact ⟨fun s => rfl, reconcileIssuedWarnings_keepsLetters _ _ _ _⟩
    · trivial

theorem WarningCall.keepsLetters (call : WarningCall) (h : ∀ r now, call ≠ .issue r now) :
    call.program.Keeps WarningOffice.letters := by
  cases call with
  | issue r now => exact absurd rfl (h r now)
  | voidWarning membership warning now reason =>
    intro found
    cases found with
    | none => trivial
    | some w =>
      refine ⟨Tx.Keeps.bind (fun _ _ => trivial) fun locked => ?_, fun _ => trivial⟩
      cases locked with
      | none => trivial
      | some w =>
        dsimp only
        split_ifs
        · trivial
        · exact voidLockedWarning_keepsLetters _ _ _ _
  | recalculate now c membership => exact ⟨recalculate_keepsLetters now c membership, fun _ => trivial⟩
  | applyArrivalEventsBulk rows now =>
    exact ⟨applyArrivalEventsBulk_keepsLetters rows now, fun _ => trivial⟩
  | applyArrivalEvent a now => exact ⟨applyArrivalEvent_keepsLetters a now, fun _ => trivial⟩
  | correctArrival membership a now =>
    intro found
    cases found with
    | false => trivial
    | true => exact ⟨⟨fun s => rfl, reconcileIssuedWarnings_keepsLetters _ _ _ _⟩, fun _ => trivial⟩
  | createManualArrival a =>
    intro found
    cases found with
    | true => trivial
    | false =>
      refine ⟨fun taken => ?_, fun _ => trivial⟩
      cases taken with
      | true => trivial
      | false => exact ⟨fun s => rfl, trivial⟩

def StudentWarning.ownCounter (w : StudentWarning) : ℕ :=
  match w.warningType with
  | .unexcusedFullDayAbsence => w.unexcusedFullAbsenceDaysAtIssue
  | .morningLateOccurrences => w.morningLateOccurrencesAtIssue

theorem WarningOffice.length_detailRows (s : WarningOffice) (year : AcademicYear) (student : ℕ)
    (warningType : WarningRuleType) :
    (s.detailRows year student warningType).length = s.metric year warningType student := by
  cases warningType <;> simp [detailRows, metric, List.length_insertionSort]

def WarningCall.request : WarningCall → Option IssueRequest
  | .issue r _ => some r
  | _ => none

section Issuing

variable {R G : Change WarningOffice WarningRow} {A : WarningOffice → Prop} {P : ℕ → Prop}

/-- A warning that an issuance inserts, of which the numbers read in its transaction satisfy `P`. -/
structure StudentWarning.IssuedFor (w : StudentWarning) (student : ℕ) (year : AcademicYear)
    (warningType : WarningRuleType) (threshold value : ℕ) (P : ℕ → Prop) : Prop where
  student : w.student = student
  academicYear : w.academicYear = year.id
  warningType : w.warningType = warningType
  threshold : w.thresholdAtIssue = threshold
  value : w.metricValueAtIssue = value
  counter : P w.ownCounter
  rows : P w.detailRowsSnapshot.length

theorem issueWarning_asserts (hA : R.Keeps [] A) (r : IssueRequest) (now : Instant)
    (student : Student) (year : AcademicYear) (semester : Option ℕ)
    (warningType : WarningRuleType) (level : WarningLevel) (threshold value : ℕ)
    (hP : ∀ s, A s → P (s.metric year warningType student.id))
    (hcommit : ∀ held s (w : StudentWarning), A s →
      w.IssuedFor student.id year warningType threshold value P →
        G held s { s with warnings := s.warnings ++ [w] }) :
    (issueWarning r now student year semester warningType level threshold value).Asserts R G
      (fun _ _ => True) A [] fun s => s := by
  have hheld : ∀ held, R.Keeps held A := fun held => hA.mono (List.nil_subset held)
  unfold issueWarning
  refine Tx.Asserts.select_any hA fun placement => Tx.Asserts.select_any hA fun summary => ?_
  refine Tx.Asserts.select_fact
    (fun b : ℕ × ℕ => warningType = .morningLateOccurrences → P b.1) ?_ hA fun arrivals harrivals => ?_
  · rintro s hs rfl
    exact hP s hs
  refine Tx.Asserts.select_fact
    (fun b : ℕ => warningType = .unexcusedFullDayAbsence → P b) ?_ hA fun unexcused hunexcused => ?_
  · rintro s hs rfl
    exact hP s hs
  refine Tx.Asserts.select_any hA fun excused => Tx.Asserts.select_any hA fun periods => ?_
  refine Tx.Asserts.select_fact (fun b : List DetailRow => P b.length) ?_ hA fun rows hrows => ?_
  · intro s hs
    rw [WarningOffice.length_detailRows]
    exact hP s hs
  dsimp only
  split
  · trivial
  apply Tx.Asserts.lockRows
  refine Tx.Asserts.select_any (hheld _) fun taken => ?_
  cases taken with
  | true => trivial
  | false =>
    intro s hs
    refine ⟨hcommit _ s _ hs ⟨rfl, rfl, rfl, rfl, rfl, ?_, hrows⟩, trivial⟩
    cases warningType with
    | unexcusedFullDayAbsence => exact hunexcused rfl
    | morningLateOccurrences => exact harrivals rfl

theorem issueStudentWarning_unknown {K : WarningOffice → Prop} (hK : R.Keeps [] K)
    (r : IssueRequest) (now : Instant) (h : r.warningType = none ∨ r.level = none) :
    (issueStudentWarning r now).Asserts R G (fun _ _ => True) K := by
  refine Program.Asserts.peek_any hK fun found => ?_
  cases found with
  | none => trivial
  | some student =>
    cases htype : r.warningType with
    | none => trivial
    | some warningType =>
      cases hlevel : r.level with
      | none => trivial
      | some level =>
        rw [htype, hlevel] at h
        rcases h with h | h <;> cases h

theorem issueStudentWarning_asserts {K : WarningOffice → Prop} (hK : R.Keeps [] K)
    {E : AcademicYear → ℕ → WarningOffice → Prop}
    {A : AcademicYear → ℕ → ℕ → WarningOffice → Prop} {P : ℕ → ℕ → Prop} (r : IssueRequest)
    (now : Instant) (warningType : WarningRuleType) (level : WarningLevel)
    (htype : r.warningType = some warningType) (hlevel : r.level = some level)
    (hE : ∀ year threshold, R.Keeps [] (E year threshold))
    (hA : ∀ year threshold value, R.Keeps [] (A year threshold value))
    (hyear : ∀ year, R.Keeps [] fun s => K s ∧ s.school.activeYear = some year)
    (hrules : ∀ s year, K s → s.school.activeYear = some year →
      E year (s.threshold warningType level) s)
    (hmetric : ∀ s year threshold, E year threshold s →
      A year threshold (s.metric year warningType r.student) s)
    (hP : ∀ s year threshold value, A year threshold value s →
      P value (s.metric year warningType r.student))
    (hcommit : ∀ held s year threshold value (w : StudentWarning), threshold ≤ value →
      A year threshold value s →
        w.IssuedFor r.student year warningType threshold value (P value) →
          G held s { s with warnings := s.warnings ++ [w] }) :
    (issueStudentWarning r now).Asserts R G (fun _ _ => True) K := by
  unfold issueStudentWarning
  refine Program.Asserts.peek (fun found => ∀ x, found = some x → x.id = r.student) ?_ hK
    fun found hfound => ?_
  · intro s _ x hx
    unfold School.student? at hx
    simpa using List.find?_some hx
  cases found with
  | none => trivial
  | some student =>
    have hid := hfound student rfl
    rw [htype, hlevel]
    show Program.Asserts R G _ K (issueLevel r now student warningType level)
    unfold issueLevel
    refine ⟨fun found s => K s ∧ ∀ year, found = some year → s.school.activeYear = some year,
      fun s hs => ⟨hs, fun year h => h⟩, fun found => ?_, fun found => ?_⟩
    · intro L s s' hcompat hR hs
      refine ⟨hK L s s' hcompat hR hs.1, fun year h => ?_⟩
      exact (hyear year L s s' hcompat hR ⟨hs.1, hs.2 year h⟩).2
    cases found with
    | none => trivial
    | some year =>
      have hknown : ∀ s, (K s ∧ ∀ y, some year = some y → s.school.activeYear = some y) →
          K s ∧ s.school.activeYear = some year := fun s hs => ⟨hs.1, hs.2 year rfl⟩
      refine Program.Asserts.mono hknown (Program.Asserts.peek_any (hyear year) fun enabled => ?_)
      cases enabled with
      | false => trivial
      | true =>
        refine ⟨E year, fun s hs => hrules s year hs.1 hs.2, hE year, fun threshold => ?_⟩
        refine Program.Asserts.peek_any (hE year threshold) fun issued => ?_
        have htail : ∀ value : ℕ, Program.Asserts R G (fun _ _ => True) (A year threshold value)
            (if issued then .raise warningAlreadyIssued
            else if value < threshold then .raise (levelNotReached value threshold)
            else do
              let semester ← Program.read fun s => s.activeSemester
              Program.transaction (issueWarning r now student year semester warningType level
                threshold value) : WarningProgram Unit) := by
          intro value
          cases issued with
          | true => trivial
          | false =>
            by_cases hvalue : value < threshold
            · simp [hvalue, Program.Asserts]
            · simp only [Bool.false_eq_true, if_false, hvalue]
              refine Program.Asserts.peek_any (hA year threshold value) fun semester => ?_
              refine ⟨fun _ _ => True, ?_, fun _ => Change.keeps_const R [] True,
                fun _ _ _ => trivial⟩
              rw [← hid] at hP hcommit
              exact issueWarning_asserts (hA year threshold value) r now student year semester
                warningType level threshold value (fun s hs => hP s year threshold value hs)
                fun held s w hs hw =>
                  hcommit held s year threshold value w (Nat.le_of_not_lt hvalue) hs hw
        cases warningType with
        | unexcusedFullDayAbsence =>
          refine Program.Asserts.peek_any (hE year threshold) fun late => ?_
          refine ⟨A year threshold, fun s hs => ?_, hA year threshold, fun value => htail value⟩
          rw [hid]
          exact hmetric s year threshold hs
        | morningLateOccurrences =>
          refine ⟨A year threshold, fun s hs => ?_, hA year threshold, fun value => ?_⟩
          · rw [hid]
            exact hmetric s year threshold hs
          · exact Program.Asserts.peek_any (hA year threshold value) fun absences => htail value

end Issuing

def StudentWarning.Agrees (w : StudentWarning) : Prop :=
  w.thresholdAtIssue ≤ w.metricValueAtIssue ∧ w.metricValueAtIssue = w.ownCounter ∧
    w.metricValueAtIssue = w.detailRowsSnapshot.length

instance StudentWarning.decidableAgrees (w : StudentWarning) : Decidable w.Agrees :=
  inferInstanceAs (Decidable (_ ∧ _ ∧ _))

theorem StudentWarning.Agrees.of_letter {w w' : StudentWarning} (h : w'.letter = w.letter)
    (hw : w.Agrees) : w'.Agrees := by
  have hletter : w.letter.Agrees := hw
  rw [← h] at hletter
  exact hletter

/-- What a client may commit: the warnings that are there keep their letters, and those that it adds
agree with themselves. -/
structure LetterChange (s s' : WarningOffice) : Prop where
  registry : s'.school.registry = s.school.registry
  rules : s'.rules = s.rules
  warnings : ∀ (i : ℕ) (w' : StudentWarning), s'.warnings[i]? = some w' →
    (∃ w, s.warnings[i]? = some w ∧ w'.letter = w.letter) ∨ w'.Agrees

theorem LetterChange.of_letters {s s' : WarningOffice} (h : s'.letters = s.letters) :
    LetterChange s s' := by
  simp only [WarningOffice.letters, Prod.mk.injEq] at h
  refine ⟨h.1, h.2.1, fun i w' hw' => .inl ?_⟩
  have hletter : (s.warnings[i]?).map StudentWarning.letter = some w'.letter := by
    rw [← List.getElem?_map, ← h.2.2, List.getElem?_map, hw', Option.map_some]
  obtain ⟨w, hw, heq⟩ := Option.map_eq_some_iff.mp hletter
  exact ⟨w, hw, heq.symm⟩

theorem LetterChange.issue (s : WarningOffice) {w : StudentWarning} (hw : w.Agrees) :
    LetterChange s { s with warnings := s.warnings ++ [w] } := by
  refine ⟨rfl, rfl, fun i w' hw' => ?_⟩
  rcases Nat.lt_or_ge i s.warnings.length with hlt | hge
  · rw [List.getElem?_append_left hlt] at hw'
    exact .inl ⟨w', hw', rfl⟩
  · rw [List.getElem?_append_right hge] at hw'
    have heq : w' = w := by simpa using List.mem_of_getElem? hw'
    exact .inr (heq ▸ hw)

/-- The warnings issued since there were `n` agree with themselves. -/
def WarningOffice.AgreesFrom (n : ℕ) (s : WarningOffice) : Prop :=
  ∀ (i : ℕ) (w : StudentWarning), s.warnings[i]? = some w → n ≤ i → w.Agrees

theorem LetterChange.agreesFrom {n : ℕ} {s s' : WarningOffice} (h : LetterChange s s')
    (hs : s.AgreesFrom n) : s'.AgreesFrom n := by
  intro i w' hw' hi
  rcases h.warnings i w' hw' with ⟨w, hw, hletter⟩ | hagrees
  · exact (hs i w hw hi).of_letter hletter
  · exact hagrees

/-! ## Calm runs -/

/-- The metric of the request, in the active year, is what it was. -/
def MetricKept (call : Option WarningCall) (s s' : WarningOffice) : Prop :=
  ∀ r ∈ call.bind WarningCall.request, ∀ warningType ∈ r.warningType,
    ∀ year ∈ s.school.activeYear,
      s'.metric year warningType r.student = s.metric year warningType r.student

instance MetricKept.decidable (call : Option WarningCall) (s s' : WarningOffice) :
    Decidable (MetricKept call s s') :=
  inferInstanceAs (Decidable (∀ r ∈ call.bind WarningCall.request, _))

abbrev warningStart (s : WarningOffice) (calls : List WarningCall) :
    Config WarningOffice WarningRow OfficeFailure Unit :=
  Config.start s (calls.map WarningCall.program)

section Calls

variable {calls : List WarningCall} {n i : ℕ}

abbrev letterOthers (calls : List WarningCall) (n i : ℕ) : Change WarningOffice WarningRow :=
  others (fun _ _ => LetterChange) (WarningOffice.AgreesFrom n)
    (fun j => MetricKept calls[j]?) i

theorem letterOthers_keeps (held : List (WarningRow × LockMode)) :
    (letterOthers calls n i).Keeps held (WarningOffice.AgreesFrom n) :=
  others_keeps (fun _ _ _ _ h hs => h.agreesFrom hs) i held

theorem issue_asserts (r : IssueRequest) (now : Instant) (hcall : calls[i]? = some (.issue r now)) :
    (issueStudentWarning r now).Asserts (letterOthers calls n i) (fun _ => LetterChange)
      (fun _ _ => True) (WarningOffice.AgreesFrom n) := by
  cases htype : r.warningType with
  | none => exact issueStudentWarning_unknown (letterOthers_keeps []) r now (.inl htype)
  | some warningType =>
    cases hlevel : r.level with
    | none => exact issueStudentWarning_unknown (letterOthers_keeps []) r now (.inr hlevel)
    | some level =>
      have hyear : ∀ year : AcademicYear, (letterOthers calls n i).Keeps []
          fun s => s.AgreesFrom n ∧ s.school.activeYear = some year := by
        intro year
        apply others_keeps_of fun _ _ _ _ h hs => h.agreesFrom hs
        intro j L s s' _ _ hcommit _ _ hactive
        unfold School.activeYear
        rw [hcommit.registry]
        exact hactive
      refine issueStudentWarning_asserts (letterOthers_keeps [])
        (E := fun year _ s => s.AgreesFrom n ∧ s.school.activeYear = some year)
        (A := fun year _ value s => s.AgreesFrom n ∧ (s.school.activeYear = some year ∧
          s.metric year warningType r.student = value))
        (P := fun value k => value = k) r now warningType level htype hlevel
        (fun year _ => hyear year) ?_ hyear (fun s year hs hactive => ⟨hs, hactive⟩)
        (fun s year threshold hs => ⟨hs.1, hs.2, rfl⟩)
        (fun s year threshold value hs => hs.2.2.symm) ?_
      · intro year _ value
        apply others_keeps_of fun _ _ _ _ h hs => h.agreesFrom hs
        intro j L s s' _ _ hcommit hcalm _ hs
        obtain ⟨hactive, hmetric⟩ := hs
        have hkept := hcalm r (by rw [hcall]; rfl) warningType htype year hactive
        refine ⟨?_, hkept.trans hmetric⟩
        unfold School.activeYear
        rw [hcommit.registry]
        exact hactive
      · intro held s year threshold value w hle hs hw
        apply LetterChange.issue
        refine ⟨?_, hw.value.trans hw.counter, hw.value.trans hw.rows⟩
        rw [hw.threshold, hw.value]
        exact hle

theorem WarningCall.asserts_letters (call : WarningCall) (hcall : calls[i]? = some call) :
    call.program.Asserts (letterOthers calls n i) (fun _ => LetterChange) (fun _ _ => True)
      (WarningOffice.AgreesFrom n) := by
  by_cases hissue : ∃ r now, call = .issue r now
  · obtain ⟨r, now, rfl⟩ := hissue
    exact issue_asserts r now hcall
  · have hkeeps := call.keepsLetters fun r now heq => hissue ⟨r, now, heq⟩
    exact hkeeps.asserts (fun _ _ _ _ h => .of_letters h)
      (fun _ _ hs h => (LetterChange.of_letters h).agreesFrom hs) (letterOthers_keeps [])

end Calls

/-- **The warnings issued in a calm run agree with themselves.** -/
theorem calm_warningNumbers (s : WarningOffice) (calls : List WarningCall) (sched : List ℕ)
    (c : Config WarningOffice WarningRow OfficeFailure Unit)
    (h : (warningStart s calls).exec sched = some c)
    (hcalm : (warningStart s calls).CalmRun (fun _ _ => True) (fun j => MetricKept calls[j]?) []
      sched) (i : ℕ) (w : StudentWarning) (hw : c.store.warnings[i]? = some w)
    (hnew : s.warnings.length ≤ i) : w.Agrees := by
  have hstart : s.AgreesFrom s.warnings.length := by
    intro k x hx hk
    rw [List.getElem?_eq_none hk] at hx
    cases hx
  have hclients : ∀ (j : ℕ) (p : WarningProgram Unit), (calls.map WarningCall.program)[j]? = some p →
      p.Asserts (letterOthers calls s.warnings.length j) (fun _ => LetterChange) (fun _ _ => True)
        (WarningOffice.AgreesFrom s.warnings.length) := by
    intro j p hp
    rw [List.getElem?_map, Option.map_eq_some_iff] at hp
    obtain ⟨call, hcall, rfl⟩ := hp
    exact call.asserts_letters hcall
  have hreached := Config.invariant_of_guarantees (fun _ _ _ _ hcommit hs => hcommit.agreesFrom hs)
    hclients hstart h hcalm
  exact hreached i w hw hnew

/-! ## An arrival while a warning is issued -/

def lateArrival (student : ℕ) (attendanceDate : Date) : SchoolArrival where
  student := student
  attendanceDate := attendanceDate
  firstArrivalAt := 8
  lateness := { rawLateMinutes := 10, countedLateMinutes := 10, status := .late }
  source := .manual
  deviceEvent := none

def enrolledStudent (id : ℕ) : Student where
  id := id
  nationalIdLookupHash := ""
  nationalIdMasked := ""
  studentNumber := none
  fullName := "student"
  mergedInto := none
  status := .active
  statusChangedAt := none
  exitDate := none
  exitReason := ""

def lateOffice : WarningOffice where
  school := { registry := {
    academicYears := [{ id := 1, startDate := 0, endDate := 300, status := .active }]
    students := [enrolledStudent 1, enrolledStudent 2] } }
  arrivals := [lateArrival 1 10]
  rules := [{ ruleType := .morningLateOccurrences, level := .level1, threshold := 1 }]

def lateRequest : IssueRequest where
  membership := 1
  student := 1
  warningType := some .morningLateOccurrences
  level := some .level1

/-- A warning is issued to the student while another late arrival of `student` is recorded. -/
def issueBeside (student : ℕ) : List WarningCall :=
  [.issue lateRequest 20, .createManualArrival (lateArrival student 11)]

def betweenReads : List ℕ := List.replicate 8 0 ++ List.replicate 6 1 ++ List.replicate 12 0

/-- Of another student, it does not change what the warning rests on. -/
theorem calm_warningNumbers_issueBeside :
    ∃ (c : Config WarningOffice WarningRow OfficeFailure Unit) (w : StudentWarning),
      c.store.warnings[0]? = some w ∧ w.metricValueAtIssue = 1 ∧ w.Agrees := by
  have hfacts : ((warningStart lateOffice (issueBeside 2)).exec betweenReads).bind (fun c =>
      (c.store.warnings[0]?).map fun w => w.metricValueAtIssue) = some 1 := by decide +kernel
  obtain ⟨c, hc, hfacts⟩ := Option.bind_eq_some_iff.mp hfacts
  obtain ⟨w, hw, hvalue⟩ := Option.map_eq_some_iff.mp hfacts
  refine ⟨c, w, hw, hvalue, ?_⟩
  exact calm_warningNumbers lateOffice (issueBeside 2) betweenReads c hc
    (Config.calmRun_of_check _ (by decide +kernel)) 0 w hw (Nat.le_refl 0)

/-- Of the student that is warned, it is counted and listed, but is not in the metric. -/
theorem arrival_duringIssue :
    ∃ (c : Config WarningOffice WarningRow OfficeFailure Unit) (w : StudentWarning),
      (warningStart lateOffice (issueBeside 1)).exec betweenReads = some c ∧
        c.store.warnings = [w] ∧ ¬ w.Agrees ∧ w.metricValueAtIssue = 1 ∧ w.ownCounter = 2 ∧
          w.detailRowsSnapshot.length = 2 := by
  have hfacts : ((warningStart lateOffice (issueBeside 1)).exec betweenReads).map (fun c =>
      c.store.warnings.map fun w => (decide w.Agrees, w.metricValueAtIssue, w.ownCounter,
        w.detailRowsSnapshot.length)) = some [(false, 1, 2, 2)] := by decide +kernel
  obtain ⟨c, hc, hfacts⟩ := Option.map_eq_some_iff.mp hfacts
  obtain ⟨w, hw, hnumbers⟩ := List.map_eq_singleton_iff.mp hfacts
  simp only [Prod.mk.injEq, decide_eq_false_iff_not] at hnumbers
  exact ⟨c, w, hc, hw, hnumbers⟩

end SchoolPlatform
