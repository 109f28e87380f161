import SchoolPlatform.Analysis.CoverageFacts

/-!
# What the operations leave alone

Validation only reads. Resolving a plan may create day contexts, a recalculation writes day
contexts and summaries, transfers and status changes write the registry: none of them touches
the tables that coverages depend on (`School.core`).
-/

namespace SchoolPlatform

open ReadCommitted

abbrev Transaction.ReadOnly {α : Type} (t : Transaction α) : Prop := t.Keeps fun s => s

@[simp] theorem eval_ask {α : Type} (q : School → α) (s : School) :
    (ask q : Transaction α).eval s = .ok (q s, s) := rfl

@[simp] theorem eval_checkReferences (rows : List Row) (s : School) :
    (checkReferences rows).eval s = .ok ((), s) := rfl

@[simp] theorem eval_raiseApi {α : Type} (e : ApiError) (s : School) :
    (raiseApi e : Transaction α).eval s = .error (.api e) := rfl

section Statements

variable {κ : Type} {part : School → κ}

theorem ask_keeps {α : Type} (q : School → α) : (ask q : Transaction α).Keeps part :=
  fun _ => trivial

theorem askProgram_keeps {α : Type} (q : School → α) : (ask q : Operation α).Keeps part :=
  fun _ => trivial

theorem lockRows_keeps (m : LockMode) (rows : List Row) :
    (Tx.lockRows m rows : Transaction Unit).Keeps part := trivial

theorem selectForUpdate_keeps {α : Type} (find : School → List Row) (q : List Row → School → α) :
    (Tx.selectForUpdate find q : Transaction α).Keeps part :=
  fun _ _ => trivial

theorem update_keeps {f : School → School} (h : ∀ s, part (f s) = part s) :
    (Tx.update f : Transaction Unit).Keeps part :=
  ⟨h, trivial⟩

theorem updateWhere_keeps {find : School → List Row} {f : List Row → School → School}
    (h : ∀ rows s, part (f rows s) = part s) :
    (Tx.updateWhere find f : Transaction Unit).Keeps part :=
  fun rows => ⟨h rows, trivial⟩

theorem raiseApi_keeps {α : Type} (e : ApiError) : (raiseApi e : Transaction α).Keeps part :=
  trivial

theorem orRaise_keeps {α : Type} (r : Except ApiError α) : (orRaise r).Keeps part := by
  cases r <;> trivial

theorem Tx.keeps_ite {α : Type} {c : Prop} [Decidable c] {t u : Transaction α}
    (ht : t.Keeps part) (hu : u.Keeps part) : (if c then t else u).Keeps part := by
  split
  · exact ht
  · exact hu

theorem transaction_keeps {α : Type} {t : Transaction α} (h : t.Keeps part) :
    (Program.transaction t : Operation α).Keeps part :=
  ⟨h, fun _ => trivial⟩

theorem collect_keeps {α β : Type} {body : α → Transaction β} (h : ∀ a, (body a).Keeps part)
    (l : List α) : (Transaction.collect body l).Keeps part := by
  induction l with
  | nil => trivial
  | cons a l ih => exact (h a).bind fun b => ih.bind fun bs => trivial

end Statements

theorem Transaction.ReadOnly.eval_eq {α : Type} {t : Transaction α} (h : t.ReadOnly)
    {s s' : School} {a : α} (he : t.eval s = .ok (a, s')) : s' = s :=
  Tx.Keeps.eval h he

theorem Transaction.ReadOnly.keeps {α κ : Type} {part : School → κ} {t : Transaction α}
    (h : t.ReadOnly) : t.Keeps part := by
  induction t with
  | ret a => trivial
  | raise e => trivial
  | query q k ih => exact fun b => ih b (h b)
  | lock rows k ih => exact ih h
  | write f k ih => exact ⟨fun s => congrArg part (h.1 s), ih h.2⟩

theorem buildDayScheduleSnapshot_readOnly (d : Date) :
    (buildDayScheduleSnapshot d : Transaction DayScheduleSnapshot).ReadOnly := by
  unfold buildDayScheduleSnapshot
  refine (ask_keeps _).bind fun weekDay => ?_
  split
  · apply Tx.keeps_ite
    · exact (ask_keeps _).bind fun periods => trivial
    · trivial
  · trivial

theorem validSequences_readOnly (e : TargetEvidence) (d : Date) :
    (validSequences e d).ReadOnly := by
  unfold validSequences
  dsimp only
  split
  · trivial
  · apply Tx.keeps_ite
    · exact ask_keeps _
    · exact (buildDayScheduleSnapshot_readOnly d).bind fun snapshot => trivial

theorem validateTarget_readOnly (e : TargetEvidence) (allowFuture : Bool)
    (seen : List TargetInput) (t : TargetInput) :
    (validateTarget e allowFuture seen t).ReadOnly := by
  unfold validateTarget
  refine Tx.keeps_ite trivial (Tx.keeps_ite trivial (Tx.keeps_ite trivial
    (Tx.keeps_ite trivial ?_)))
  split
  · trivial
  · refine (validSequences_readOnly e _).bind fun valid => ?_
    exact Tx.keeps_ite trivial trivial

theorem validateEach_readOnly (e : TargetEvidence) (allowFuture : Bool)
    (targets : List TargetInput) (seen : List TargetInput) :
    (validateEach e allowFuture seen targets).ReadOnly := by
  induction targets generalizing seen with
  | nil => trivial
  | cons t ts ih => exact (validateTarget_readOnly e allowFuture seen t).bind fun _ => ih _

theorem validateTargets_readOnly (today : Date) (student : ℕ) (targets : List TargetInput)
    (allowFuture : Bool) : (validateTargets today student targets allowFuture).ReadOnly := by
  unfold validateTargets
  refine Tx.keeps_ite trivial (Tx.keeps_ite trivial ?_)
  refine (ask_keeps _).bind fun years => (ask_keeps _).bind fun enrollments => ?_
  refine (ask_keeps _).bind fun recorded => (ask_keeps _).bind fun contexts => ?_
  refine (validateEach_readOnly _ _ _ _).bind fun _ => ?_
  exact Tx.keeps_ite trivial trivial

theorem refuseOverlap_readOnly (student : ℕ) (targets : List TargetInput) :
    (refuseOverlap student targets).ReadOnly := by
  unfold refuseOverlap
  refine (ask_keeps _).bind fun existing => ?_
  split <;> trivial

theorem lockStudent_readOnly (id : ℕ) : (lockStudent id).ReadOnly := by
  unfold lockStudent
  refine (selectForUpdate_keeps _ _).bind fun found => ?_
  split <;> trivial

theorem freshAttendanceDayContext_readOnly (d : Date) :
    (freshAttendanceDayContext d : Transaction AttendanceDayContext).ReadOnly := by
  unfold freshAttendanceDayContext
  refine (ask_keeps _).bind fun settings => (ask_keeps _).bind fun year => ?_
  refine (ask_keeps _).bind fun active => Tx.Keeps.bind ?_ fun snapshot => trivial
  unfold daySchedule
  exact Tx.keeps_ite (buildDayScheduleSnapshot_readOnly d) trivial

section DayContexts

variable {κ : Type} {part : School → κ} (hpart : ∀ s c, part (School.addDayContext s c) = part s)
include hpart

theorem insertDayContext_keeps (c : AttendanceDayContext) : (insertDayContext c).Keeps part := by
  unfold insertDayContext
  refine (lockRows_keeps _ _).bind fun _ => (ask_keeps _).bind fun existing => ?_
  split
  · trivial
  · exact (update_keeps fun s => hpart s c).bind fun _ => trivial

theorem dayContextInTransaction_keeps (d : Date) : (dayContextInTransaction d).Keeps part := by
  unfold dayContextInTransaction
  refine (ask_keeps _).bind fun existing => ?_
  split
  · trivial
  · refine (freshAttendanceDayContext_readOnly d).keeps.bind fun context => ?_
    exact (insertDayContext_keeps hpart context).bind fun _ => Tx.keeps_ite trivial trivial

theorem resolveCoveragePlan_keeps (excuse : AbsenceExcuse) :
    (resolveCoveragePlan excuse).Keeps part := by
  unfold resolveCoveragePlan
  refine (ask_keeps _).bind fun targets => (ask_keeps _).bind fun marks => ?_
  refine (ask_keeps _).bind fun coveredByOther => Tx.Keeps.bind ?_ fun days => trivial
  refine collect_keeps (fun d => ?_) _
  unfold dayPreview
  refine (dayContextInTransaction_keeps hpart d).bind fun context => (ask_keeps _).bind ?_
  intro enrollment
  refine Tx.Keeps.bind ?_ fun submitted => trivial
  unfold askSubmittedSequences
  split
  · exact ask_keeps _
  · trivial

end DayContexts

section Recalculation

theorem writeSummaries_keepsBeside {κ : Type} {part : School → κ}
    (hpart : ∀ (s : School) (rows : List DailyAttendanceSummary),
      part { s with summaries := rows } = part s) (now : Instant) (c : SectionCounters) :
    (writeSummaries now c).Keeps part := by
  have hlock : ∀ d find, (lockSummaries d find).Keeps part :=
    fun d find => selectForUpdate_keeps _ _
  unfold writeSummaries
  refine (hlock _ _).bind fun existing => ?_
  dsimp only
  refine Tx.Keeps.bind (update_keeps fun s => hpart s _) fun _ =>
    Tx.Keeps.bind ?_ fun _ => trivial
  unfold createSummaries
  split
  · trivial
  refine Tx.Keeps.bind ?_ fun _ => (hlock _ _).bind fun raced => update_keeps fun s => hpart s _
  unfold insertSummaries
  exact (lockRows_keeps _ _).bind fun _ => (ask_keeps _).bind fun taken =>
    update_keeps fun s => hpart s _

section Contexts

variable {κ : Type} {part : School → κ} (hadd : ∀ s c, part (School.addDayContext s c) = part s)

theorem buildDayScheduleSnapshot_keeps (d : Date) :
    (buildDayScheduleSnapshot d : Operation DayScheduleSnapshot).Keeps part := by
  unfold buildDayScheduleSnapshot
  refine (askProgram_keeps _).bind fun weekDay => ?_
  split
  · split
    · exact (askProgram_keeps _).bind fun periods => trivial
    · trivial
  · trivial

include hadd

theorem getOrCreateAttendanceDayContext_keeps (d : Date) :
    (getOrCreateAttendanceDayContext d).Keeps part := by
  unfold getOrCreateAttendanceDayContext
  refine (askProgram_keeps _).bind fun existing => ?_
  split
  · trivial
  · refine Program.Keeps.bind ?_ fun context => ?_
    · unfold freshAttendanceDayContext
      refine (askProgram_keeps _).bind fun settings => (askProgram_keeps _).bind fun year => ?_
      refine (askProgram_keeps _).bind fun active => Program.Keeps.bind ?_ fun snapshot => trivial
      unfold daySchedule
      split
      · exact buildDayScheduleSnapshot_keeps d
      · trivial
    · refine (transaction_keeps (insertDayContext_keeps hadd _)).bind fun _ => ?_
      split
      · trivial
      · refine (askProgram_keeps _).bind fun winner => ?_
        split <;> trivial

theorem getOrRefreshPristineDayContext_keeps
    (hset : ∀ s d snapshot, part (School.setDaySchedule s d snapshot) = part s) (d : Date) :
    (getOrRefreshPristineDayContext d).Keeps part := by
  unfold getOrRefreshPristineDayContext
  refine (getOrCreateAttendanceDayContext_keeps hadd d).bind fun context => ?_
  refine (askProgram_keeps _).bind fun yearIsActive => ?_
  split
  · trivial
  refine (askProgram_keeps _).bind fun started => ?_
  split
  · trivial
  refine (buildDayScheduleSnapshot_keeps d).bind fun current => ?_
  split
  · trivial
  exact Program.Keeps.bind (transaction_keeps (updateWhere_keeps fun rows s => hset s d current))
    fun _ => trivial

end Contexts

theorem recalculate_keepsBeside {κ : Type} {part : School → κ}
    (hadd : ∀ s c, part (School.addDayContext s c) = part s)
    (hrows : ∀ (s : School) (rows : List DailyAttendanceSummary),
      part { s with summaries := rows } = part s) (now : Instant) (sectionId : ℕ) (d : Date) :
    (recalculateDailyAttendanceForSection now sectionId d).Keeps part := by
  unfold recalculateDailyAttendanceForSection readSectionCounters
  refine Program.Keeps.bind ((getOrCreateAttendanceDayContext_keeps hadd d).bind fun context => ?_)
    fun counters => ?_
  · unfold readCounters
    refine (askProgram_keeps _).bind fun sessions => ?_
    dsimp only
    split
    · trivial
    · refine (askProgram_keeps _).bind fun absent => (askProgram_keeps _).bind fun pairs => ?_
      refine (askProgram_keeps _).bind fun covered => (askProgram_keeps _).bind fun enrolled => ?_
      refine Program.Keeps.bind ?_ fun elsewhere => trivial
      unfold askElsewhere
      split
      · trivial
      · exact askProgram_keeps _
  · cases counters with
    | none => trivial
    | some c => exact transaction_keeps (writeSummaries_keepsBeside hrows now c)

theorem recalculate_keeps (now : Instant) (sectionId : ℕ) (d : Date) :
    (recalculateDailyAttendanceForSection now sectionId d).Keeps School.core :=
  recalculate_keepsBeside (fun _ _ => rfl) (fun _ _ => rfl) now sectionId d

theorem reconciliation_keepsBeside {κ : Type} {part : School → κ}
    (hvoid : ∀ (s : School) ids now reason, part (s.voidCoverages ids now reason) = part s)
    (hadd : ∀ (s : School) new, part (s.addCoverages new) = part s) (now : Instant) (d : Date)
    (studentIds : Option (List ℕ)) : (reconciliation now d studentIds).Keeps part := by
  unfold reconciliation reconcileLocked reconcileExcuseCoverageForDate
  refine transaction_keeps (Tx.Keeps.bind ?_ fun result => trivial)
  refine (ask_keeps _).bind fun targets => (ask_keeps _).bind fun active => ?_
  refine Tx.keeps_ite trivial ?_
  refine Tx.Keeps.bind ((selectForUpdate_keeps _ _).bind fun _ => trivial) fun locked => ?_
  refine (ask_keeps _).bind fun absences => Tx.Keeps.bind ?_ fun _ => Tx.Keeps.bind ?_ fun _ =>
    trivial
  · unfold voidStale voidWhere
    refine Tx.keeps_ite trivial ?_
    exact (selectForUpdate_keeps _ _).bind fun ids => update_keeps fun s => hvoid s ids now _
  · unfold createMissing insertCoveragesIgnoringConflicts
    refine Tx.keeps_ite trivial ?_
    refine (lockRows_keeps _ _).bind fun _ => (ask_keeps _).bind fun fresh => ?_
    exact (update_keeps fun s => hadd s fresh).bind fun _ => trivial

theorem recalculateForSessions_keeps (now : ℕ → Date → Instant)
    (sessions : List AttendanceSession) :
    (recalculateForSessions now sessions).Keeps School.core := by
  refine Program.Keeps.forEach (fun p => ?_) _
  exact Program.Keeps.bind (recalculate_keeps _ _ _) fun _ => trivial

end Recalculation

section Registry

variable {κ : Type} {part : School → κ} (hpart : ∀ s f, part (School.setRegistry s f) = part s)
include hpart

theorem updateStudent_keeps (newEnrollmentId : ℕ) (today : Date) (studentId academicYear : ℕ)
    (target : Option Section) (data : StudentData) :
    (updateStudent newEnrollmentId today studentId academicYear target data).Keeps
      part := by
  unfold updateStudent
  refine transaction_keeps ((selectForUpdate_keeps _ _).bind fun found => ?_)
  split
  · trivial
  refine (ask_keeps _).bind fun _ => (orRaise_keeps _).bind fun student => ?_
  refine (ask_keeps _).bind fun _ => (orRaise_keeps _).bind fun student => ?_
  refine Tx.Keeps.bind (updateWhere_keeps fun rows s => hpart s _) fun _ => ?_
  split
  · trivial
  refine Tx.Keeps.bind ?_ fun _ => trivial
  unfold transferSection
  refine (selectForUpdate_keeps _ _).bind fun current => ?_
  split
  · exact update_keeps fun s => hpart s _
  refine Tx.keeps_ite trivial ?_
  exact Tx.Keeps.bind (updateWhere_keeps fun rows s => hpart s _) fun _ => update_keeps fun s => hpart s _

theorem statusView_keeps (now : Instant) (today : Date) (studentId : ℕ)
    (newStatus : StudentStatus) (exitDate : Option Date) (exitReason : String) :
    (statusView now today studentId newStatus exitDate exitReason).Keeps part := by
  unfold statusView
  refine (askProgram_keeps _).bind fun found => ?_
  split
  · trivial
  unfold setStudentStatus
  refine transaction_keeps (Tx.keeps_ite trivial (Tx.keeps_ite trivial (Tx.keeps_ite trivial ?_)))
  refine Tx.Keeps.bind (updateWhere_keeps fun rows s => hpart s _) fun _ => ?_
  refine Tx.Keeps.bind ?_ fun _ => trivial
  unfold leaveSchool
  exact Tx.keeps_ite trivial (updateWhere_keeps fun rows s => hpart s _)

end Registry

end SchoolPlatform
