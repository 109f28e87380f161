import SchoolPlatform.Analysis.ReferralFiles

/-!
# The workflow of referrals

Every transition locks the referral, reads it again, and writes its row, its event and its action in
one transaction; a new referral is checked for and entered under the lock of the student. So along
every run, a subject has one open referral unless a duplicate has been forced, a referral has what
its status asks for, its events lead to its status, and one action records its forwarding.
-/

/-! ## The transactions of the referral workflow -/

namespace SchoolPlatform.Referrals

open ReadCommitted
open SchoolPlatform.Counseling (ReferralStatus Actor)

section Stages

variable {id : ℕ} {r r' : StudentReferral} {events : List ReferralEventType}
  {actions : List StudentAction} {event : ReferralEventType}

theorem Intact.turn (h : Intact id r events actions)
    (hleads : event.leadsTo.or (some r.status) = some r'.status)
    (hforwarding : event.isForwarding = false)
    (hcounselor : r'.assignedCounselor.isSome = r.assignedCounselor.isSome)
    (hsubject : r'.subject = r.subject) (hstaged : r'.Staged) :
    Intact id r' (events ++ [event]) actions := by
  have hcount : (events ++ [event]).countP (·.isForwarding) = events.countP (·.isForwarding) := by
    rw [List.countP_append, List.countP_singleton]
    simp [hforwarding]
  have hschool : r'.school = r.school := (congrArg Prod.fst hsubject :)
  have hstudent : r'.student = r.student := (congrArg (fun s => s.2.1) hsubject :)
  have hcategory : r'.category = r.category := (congrArg (fun s => s.2.2) hsubject :)
  refine ⟨h.inRange, hstaged, ?_, fun hsome => ?_, fun hnone => ?_⟩
  · rw [replay_concat, h.replayed, hleads]
  · rw [hcount, hschool, hstudent, hcategory]
    exact h.forwarded (hcounselor ▸ hsome)
  · rw [hcount]
    apply h.notForwarded
    rw [← Option.isNone_iff_eq_none, ← Option.not_isSome, ← hcounselor, hnone]
    rfl

theorem Intact.forward {x : StudentAction} (h : Intact id r events actions)
    (hnone : r.assignedCounselor = none) (hstatus : r'.status = .referred)
    (hleads : event.leadsTo = some .referred) (hforwarding : event.isForwarding = true)
    (hsome : r'.assignedCounselor.isSome = true) (hstaged : r'.Staged)
    (hschool : x.school = r'.school) (hstudent : x.student = r'.student)
    (hnotes : x.notes = forwardingNotes id r'.category) :
    Intact id r' (events ++ [event]) (actions ++ [x]) := by
  obtain ⟨hcount, hactions⟩ := h.notForwarded hnone
  refine ⟨h.inRange, hstaged, ?_, fun _ => ⟨?_, x, ?_, hschool, hstudent, hnotes⟩, fun hno => ?_⟩
  · rw [replay_concat, hleads, hstatus]
    rfl
  · rw [List.countP_append, hcount, List.countP_singleton, if_pos hforwarding]
  · rw [hactions, List.nil_append]
  · rw [hno] at hsome
    cases hsome

theorem not_terminal_iff {status : ReferralStatus} :
    isTerminal status = false ↔ openStatuses.contains status = true := by
  cases status <;> decide

end Stages

section Turns

variable {forced : ℕ × ℕ × ReferralCategory → Prop} {i : ℕ} {actor : Actor} {school id : ℕ}
  {held : List (ReferralRow × LockMode)} {view : ReferralBook → ReferralBook}

theorem acts_end {A : ReferralBook → Prop}
    (h : ∀ s, s.Sound forced → A s → (referralFiling forced).Commits held s (view s)) :
    (referralFiling forced).Acts i A held view (.ret () : ReferralTransaction Unit) := by
  intro s hs
  have hcommit := h s hs.1 hs.2
  exact ⟨hcommit, hcommit.sound hs.1⟩

theorem acts_lockReferral {k : StudentReferral → ReferralTransaction Unit}
    (hk : ∀ r, r.school = school →
      (referralFiling forced).Acts i (fun s => s.referrals.get? id = some r)
        [(.referralRow id, .update)] (fun s => s) (k r)) :
    (referralFiling forced).Acts i (fun _ => True) [] (fun s => s)
      ((lockReferral school id).bind k) := by
  unfold lockReferral
  simp only [Tx.bind_eq, Tx.bind_assoc]
  refine Tx.Asserts.selectForUpdate (fun found s => s.Sound forced ∧
    ∀ r ∈ found, r.school = school ∧ s.referrals.get? id = some r) Filing.stable_true.keeps ?_ ?_ ?_
  · intro s hs
    refine ⟨hs.1, fun r hr => ?_⟩
    obtain ⟨hrow, hschool⟩ := Option.filter_eq_some_iff.mp hr
    exact ⟨of_decide_eq_true hschool, hrow⟩
  · intro found
    have hstable : (referralFiling forced).Stable [(ReferralRow.referralRow id, .update)] fun s =>
        ∀ r ∈ found, r.school = school ∧ s.referrals.get? id = some r :=
      stable_row (WriteLocked.of_update List.mem_cons_self) fun row =>
        ∀ r ∈ found, r.school = school ∧ row = some r
    exact hstable.keeps
  · intro found
    refine Tx.Asserts.need fun r hr => ?_
    by_cases hschool : r.school = school
    · exact (hk r hschool).mono fun s hs => ⟨hs.1, (hs.2 r hr).2⟩
    · exact Tx.Asserts.of_false fun s hs => hschool (hs.2 r hr).1

theorem writeLocked_self : WriteLocked [(ReferralRow.referralRow id, LockMode.update)]
    (.referralRow id) := WriteLocked.of_update List.mem_cons_self

theorem get?_changeReferral (s : ReferralBook) (f : StudentReferral → StudentReferral)
    {r : StudentReferral} (hr : s.referrals.get? id = some r) (j : ℕ) :
    (s.changeReferral id f).referrals.get? j =
      if j = id then some (f r) else s.referrals.get? j := by
  show (s.referrals.adjust id f).get? j = _
  rw [Dict.get?_adjust]
  by_cases hj : j = id
  · rw [if_pos hj, if_pos hj, hj, hr, Option.map_some]
  · rw [if_neg hj, if_neg hj]

theorem writes_turn {s : ReferralBook} {f : StudentReferral → StudentReferral}
    {r : StudentReferral} (hr : s.referrals.get? id = some r) (event : ReferralEventType) :
    Writes id (f r) [event] [] s ((s.changeReferral id f).log ⟨id, event, actor.membership⟩) where
  students := rfl
  referrals := get?_changeReferral s f hr
  ids := by
    intro hids
    show (Dict.keys (s.referrals.adjust id f)).Nodup
    rw [Dict.keys_adjust]
    exact hids
  events := ⟨actor.membership, rfl⟩
  actions := ⟨[], rfl, (List.append_nil _).symm⟩
  named := fun _ hx => absurd hx List.not_mem_nil

theorem StudentReferral.Goes.of_open {x y : StudentReferral} (hopen : isTerminal x.status = false)
    (hsubject : y.subject = x.subject) : x.Goes y := by
  refine ⟨hsubject, fun hclosed => ?_⟩
  rw [hopen] at hclosed
  cases hclosed

theorem commits_of_writes {s t : ReferralBook} {r r' : StudentReferral}
    {logged : List ReferralEventType} {added : List StudentAction}
    (h : Writes id r' logged added s t)
    (hs : s.Sound forced) (hr : s.referrals.get? id = some r) (hopen : isTerminal r.status = false)
    (hsubject : r'.subject = r.subject) (hlock : WriteLocked held (.referralRow id))
    (hintact : Intact id r' (s.eventsOf id ++ logged) (s.forwardings id ++ added)) :
    (referralFiling forced).Commits held s t := by
  refine h.commits hs hlock (fun x hx => ?_) (fun hnone => ?_) hintact
  · rw [hr] at hx
    rw [← Option.some.inj hx]
    exact .of_open hopen hsubject
  · rw [hr] at hnone
    cases hnone

theorem acts_turn {r : StudentReferral} {f : StudentReferral → StudentReferral}
    {event : ReferralEventType} (hopen : isTerminal r.status = false)
    (hsubject : (f r).subject = r.subject)
    (hintact : ∀ events actions, Intact id r events actions →
      Intact id (f r) (events ++ [event]) actions) :
    (referralFiling forced).Acts i (fun s => s.referrals.get? id = some r)
      [(.referralRow id, .update)] (fun s => s)
      ((saveReferral id f).bind fun _ => logEvent actor id event) := by
  unfold saveReferral logEvent
  refine Tx.Asserts.update (acts_end (i := i) fun s hs hr => ?_)
  refine commits_of_writes (writes_turn hr event) hs hr hopen hsubject writeLocked_self ?_
  rw [List.append_nil]
  exact hintact _ _ (hs.intact id r hr)

end Turns

section Forwarding

variable {forced : ℕ × ℕ × ReferralCategory → Prop} {i : ℕ} {actor : Actor} {school id : ℕ}
  {held : List (ReferralRow × LockMode)} {view : ReferralBook → ReferralBook}

def forwardingAction (actor : Actor) (school id : ℕ) (r : StudentReferral) (warning : Option ℕ)
    (now : Instant) : StudentAction where
  school := school
  student := r.student
  warning := warning
  actionType := .referredToCounselor
  performedBy := actor.membership
  performedAt := now
  notes := forwardingNotes id r.category

theorem take_forwardingNotes (category : ReferralCategory) :
    (forwardingNotes id category).take maxNotes = forwardingNotes id category := by
  unfold forwardingNotes maxNotes
  rw [List.take_take]
  rfl

theorem acts_resolveWarning {A : ReferralBook → Prop} {student : ℕ}
    {k : Option ℕ → ReferralTransaction Unit} (hA : (referralFiling forced).Stable held A)
    (hk : ∀ warning locks, held ⊆ locks → (referralFiling forced).Acts i A locks view (k warning))
    (warningId : Option ℕ) :
    (referralFiling forced).Acts i A held view
      ((resolveWarning school student warningId).bind k) := by
  cases warningId with
  | none => exact hk none held (List.Subset.refl held)
  | some warningId =>
    unfold resolveWarning
    simp only [Tx.bind_eq, Tx.bind_assoc]
    refine Tx.Asserts.lockFound (fun _ s => s.Sound forced ∧ A s) (fun _ hs => hs)
      (fun _ => hA.keeps) fun rows => ?_
    have hsub : held ⊆ rows.map (fun row => (row, LockMode.update)) ++ held :=
      List.subset_append_right _ _
    refine Tx.Asserts.select_any (hA.mono hsub).keeps fun found => ?_
    refine Tx.Asserts.need fun warning _ => Tx.Asserts.require fun _ => ?_
    exact hk (some warningId) _ hsub

theorem acts_recordForwarding {A : ReferralBook → Prop} {r : StudentReferral} {now : Instant}
    {newId : ℕ} (hA : (referralFiling forced).Stable held A)
    (h : ∀ s warning, s.Sound forced → A s → (referralFiling forced).Commits held s
      ((view s).addAction newId (forwardingAction actor school id r warning now))) :
    (referralFiling forced).Acts i A held view
      (recordForwarding actor school id r now newId) := by
  unfold recordForwarding createStudentAction
  simp only [Tx.bind_eq, Option.getD_none, take_forwardingNotes]
  refine Tx.Asserts.select_any hA.keeps fun home => Tx.Asserts.require fun _ => ?_
  refine Tx.Asserts.require fun _ => acts_resolveWarning hA (fun warning locks hlocks => ?_) _
  have hsub : held ⊆ (ReferralRow.actionRow newId, LockMode.update) :: locks :=
    List.Subset.trans hlocks (List.subset_cons_self _ _)
  refine Tx.Asserts.lockRows (Tx.Asserts.select_any (hA.mono hsub).keeps fun taken => ?_)
  refine Tx.Asserts.require fun _ => acts_end (i := i) fun s hs hAs => ?_
  exact (h s warning hs hAs).mono hsub

end Forwarding

section Transitions

variable {forced : ℕ × ℕ × ReferralCategory → Prop} {i : ℕ} {actor : Actor} {school id : ℕ}

theorem acts_assignViceLocked {vice : ℕ} : (referralFiling forced).Acts i (fun _ => True) []
    (fun s => s) (assignViceLocked actor school id vice) := by
  unfold assignViceLocked
  simp only [Tx.bind_eq]
  refine acts_lockReferral fun r _ => Tx.Asserts.require fun hwaiting => ?_
  rw [Bool.or_eq_true, decide_eq_true_eq, decide_eq_true_eq] at hwaiting
  by_cases hsame : r.assignedVice = some vice
  · rw [if_pos hsame]
    exact acts_end (i := i) fun s _ _ => Filing.Commits.refl _ s
  · rw [if_neg hsame]
    refine acts_turn ?_ rfl fun events actions h => h.turn rfl rfl rfl rfl ⟨?_, ?_, ?_, ?_, ?_⟩
    · rcases hwaiting with hstatus | hstatus <;> simp [hstatus, isTerminal]
    · rw [h.staged.closed]
      rcases hwaiting with hstatus | hstatus <;> simp [hstatus, isTerminal]
    · exact fun _ => h.staged.waiting hwaiting
    · simp
    · simp
    · simp

theorem client_startViceReview {isManager : Bool} {now : Instant} :
    (referralFiling forced).Client (fun _ => True)
      (startViceReview actor school id isManager now) := by
  unfold startViceReview
  simp only [Tx.bind_eq]
  refine Filing.Client.of_acts fun i => acts_lockReferral fun r _ => ?_
  by_cases hunder : r.status = .underViceReview
  · rw [if_pos hunder, ← Tx.bind_ret (Tx.require _ _)]
    exact Tx.Asserts.require fun _ => acts_end (i := i) fun s _ _ => Filing.Commits.refl _ s
  · rw [if_neg hunder]
    refine Tx.Asserts.require fun hpending => Tx.Asserts.require fun _ => ?_
    rw [decide_eq_true_eq] at hpending
    refine Tx.Asserts.require fun _ => acts_turn ?_ rfl fun events actions h => ?_
    · rw [hpending]
      rfl
    · refine h.turn rfl rfl rfl rfl ⟨?_, ?_, ?_, ?_, ?_⟩
      · rw [h.staged.closed, hpending]
        rfl
      · exact fun _ => h.staged.waiting (.inl hpending)
      · simp
      · simp
      · simp

theorem acts_assignCounselorLocked {counselor newActionId : ℕ} {now : Instant} :
    (referralFiling forced).Acts i (fun _ => True) [] (fun s => s)
      (assignCounselorLocked actor school id counselor now newActionId) := by
  unfold assignCounselorLocked
  simp only [Tx.bind_eq]
  refine acts_lockReferral fun r hschool => Tx.Asserts.require fun hvice => ?_
  refine Tx.Asserts.require fun _ => Tx.Asserts.require fun hopen => ?_
  refine Tx.Asserts.require fun hnot => ?_
  rw [Bool.not_eq_true'] at hopen hvice
  rw [decide_eq_true_eq] at hnot
  -- The row as it is saved has all that a referral has that has been forwarded.
  let f : StudentReferral → StudentReferral := fun x =>
    { x with
      assignedCounselor := some counselor
      status := .referred
      viceReviewedAt := x.viceReviewedAt.or (some now) }
  have hstaged : r.Staged → (f r).Staged := by
    intro h
    refine ⟨h.closed.trans hopen, by simp [f], fun _ => rfl, fun _ => ?_, fun _ hteacher => ?_⟩
    · show (r.viceReviewedAt.or (some now)).isSome = true
      simp
    · have hsource : r.sourceType = .teacher := hteacher
      unfold StudentReferral.lacksVice at hvice
      rw [hsource] at hvice
      simpa using hvice
  by_cases hsame : r.assignedCounselor = some counselor ∧ r.status = .referred
  · rw [if_pos hsame]
    exact acts_end (i := i) fun s _ _ => Filing.Commits.refl _ s
  · rw [if_neg hsame]
    cases hcounselor : r.assignedCounselor with
    | some previous =>
      refine acts_turn hopen rfl fun events actions h => ?_
      refine h.turn rfl rfl ?_ rfl (hstaged h.staged)
      rw [hcounselor]
      rfl
    | none =>
      have hlock : WriteLocked [(ReferralRow.referralRow id, LockMode.update)]
          (ReferralRow.referralRow id) := writeLocked_self
      refine Tx.Asserts.update (Tx.Asserts.update (acts_recordForwarding ?_ ?_))
      · exact stable_row hlock fun row => row = some r
      · intro s warning hs hr
        have hwrites : Writes id (f r) [.forwarded counselor]
            [forwardingAction actor school id r warning now] s
            (((s.changeReferral id f).log ⟨id, .forwarded counselor, actor.membership⟩).addAction
              newActionId (forwardingAction actor school id r warning now)) :=
          { writes_turn hr (.forwarded counselor) with
            actions := ⟨[newActionId], rfl, rfl⟩
            named := fun x hx => by
              rw [List.mem_singleton.mp hx]
              exact ⟨rfl, rfl⟩ }
        refine commits_of_writes hwrites hs hr hopen rfl hlock ?_
        have hintact := hs.intact id r hr
        refine hintact.forward hcounselor rfl rfl rfl rfl (hstaged hintact.staged) ?_ rfl rfl
        exact hschool.symm

theorem client_acknowledgeReferral {now : Instant} :
    (referralFiling forced).Client (fun _ => True) (acknowledgeReferral actor school id now) := by
  unfold acknowledgeReferral
  simp only [Tx.bind_eq]
  refine Filing.Client.of_acts fun i => acts_lockReferral fun r _ => ?_
  refine Tx.Asserts.require fun _ => Tx.Asserts.require fun hopen => ?_
  refine Tx.Asserts.require fun hreferred => Tx.Asserts.require fun _ => ?_
  rw [Bool.not_eq_true'] at hopen
  rw [decide_eq_true_eq] at hreferred
  refine acts_turn hopen rfl fun events actions h => h.turn rfl rfl rfl rfl ⟨?_, ?_, ?_, ?_, ?_⟩
  · exact h.staged.closed.trans hopen
  · simp
  · exact fun _ => h.staged.counselor (.inl hreferred)
  · exact fun _ => h.staged.reviewed (.inl hreferred)
  · exact fun _ => h.staged.vice (.inl hreferred)

theorem client_closeReferral {reason : Text} {cancel creatorOnly : Bool} {now : Instant} :
    (referralFiling forced).Client (fun _ => True)
      (closeReferral actor school id reason cancel creatorOnly now) := by
  unfold closeReferral
  simp only [Tx.bind_eq]
  refine Filing.Client.of_acts fun i => acts_lockReferral fun r _ => ?_
  refine Tx.Asserts.require fun hopen => Tx.Asserts.require fun _ => Tx.Asserts.require fun _ => ?_
  rw [Bool.not_eq_true'] at hopen
  refine acts_turn hopen rfl fun events actions h => ?_
  cases cancel with
  | true => exact h.turn rfl rfl rfl rfl ⟨rfl, by simp, by simp, by simp, by simp⟩
  | false => exact h.turn rfl rfl rfl rfl ⟨rfl, by simp, by simp, by simp, by simp⟩

theorem client_addContribution {observationType : ReferralObservationType} {notes : Text}
    {newId : ℕ} : (referralFiling forced).Client (fun _ => True)
      (addContribution actor school id observationType notes newId) := by
  unfold addContribution logEvent
  simp only [Tx.bind_eq]
  refine Filing.Client.of_acts fun i => acts_lockReferral fun r _ => ?_
  refine Tx.Asserts.require fun hopen => Tx.Asserts.lockRows ?_
  have hsub : [(ReferralRow.referralRow id, LockMode.update)] ⊆
      [(ReferralRow.contributionRow newId, .update), (.referralRow id, .update)] :=
    List.subset_cons_self _ _
  have hstable : (referralFiling forced).Stable [(ReferralRow.contributionRow newId, .update),
      (.referralRow id, .update)] fun s => s.referrals.get? id = some r :=
    stable_row (writeLocked_self.mono hsub) fun row => row = some r
  refine Tx.Asserts.select_any hstable.keeps fun taken => Tx.Asserts.require fun _ => ?_
  refine Tx.Asserts.update (acts_end (i := i) fun s hs hr => ?_)
  have hrow : s.referrals.get? id = some r := hr
  -- The row stays as it is.
  have hwrites : Writes id r [.contributionAdded observationType] [] s
      ((s.addContribution newId ⟨id, actor.membership, observationType,
        (Text.strip notes).take 1000⟩).log
          ⟨id, .contributionAdded observationType, actor.membership⟩) :=
    { students := rfl
      referrals := fun j => by
        show s.referrals.get? j = _
        by_cases hj : j = id
        · rw [if_pos hj, hj, hrow]
        · rw [if_neg hj]
      ids := fun hids => hids
      events := ⟨actor.membership, rfl⟩
      actions := ⟨[], rfl, (List.append_nil _).symm⟩
      named := fun _ hx => absurd hx List.not_mem_nil }
  refine commits_of_writes hwrites hs hrow (not_terminal_iff.mpr hopen) rfl
    (writeLocked_self.mono hsub) ?_
  rw [List.append_nil]
  have hintact := hs.intact id r hrow
  exact hintact.turn rfl rfl rfl rfl hintact.staged

end Transitions

section Creating

variable {forced : ℕ × ℕ × ReferralCategory → Prop} {i : ℕ} {actor : Actor} {school student : ℕ}
  {held : List (ReferralRow × LockMode)} {A : ReferralBook → Prop}

theorem acts_responsibleVice {k : Option ℕ × Option RoutePath → ReferralTransaction Unit}
    (hA : (referralFiling forced).Stable held A)
    (hk : ∀ vice locks, held ⊆ locks →
      (referralFiling forced).Acts i A locks (fun s => s) (k vice)) :
    (referralFiling forced).Acts i A held (fun s => s)
      ((responsibleViceForStudent school student).bind k) := by
  unfold responsibleViceForStudent
  simp only [Tx.bind_eq, Tx.bind_assoc]
  refine Tx.Asserts.select_any hA.keeps fun enrollment => ?_
  cases enrollment with
  | none => exact hk _ held (List.Subset.refl held)
  | some e =>
    have hsub : held ⊆ (ReferralRow.sectionRow e.sectionId, LockMode.update) ::
        (ReferralRow.gradeRow e.grade, LockMode.update) :: held :=
      List.Subset.trans (List.subset_cons_self _ _) (List.subset_cons_self _ _)
    simp only [Tx.bind_assoc]
    refine Tx.Asserts.lockRows (Tx.Asserts.lockRows ?_)
    refine Tx.Asserts.select_any (hA.mono hsub).keeps fun ofSection => ?_
    cases ofSection with
    | some a => exact hk _ _ hsub
    | none =>
      simp only [Tx.bind_assoc]
      refine Tx.Asserts.select_any (hA.mono hsub).keeps fun ofGrade => ?_
      cases ofGrade with
      | some a => exact hk _ _ hsub
      | none => exact hk _ _ hsub

theorem noneOpen_of_duplicate {s : ReferralBook} (hids : (Dict.keys s.referrals).Nodup)
    {category : ReferralCategory} (h : s.findOpenDuplicate school student category = none) :
    NoneOpen (school, student, category) s := by
  have hnil : s.openDuplicates school student category = [] := by
    unfold ReferralBook.findOpenDuplicate at h
    rw [Option.map_eq_none_iff, List.head?_eq_none_iff] at h
    have hlength := congrArg List.length h
    rw [List.length_insertionSort, List.length_nil, List.length_eq_zero_iff] at hlength
    exact hlength
  intro id r hr hsubject
  by_contra hopen
  rw [Bool.not_eq_true] at hopen
  have hmem : (id, r) ∈ s.openDuplicates school student category := by
    apply List.mem_filter.mpr
    refine ⟨(Dict.mem_iff_get? hids id r).mpr hr, ?_⟩
    unfold StudentReferral.subject at hsubject
    cases hsubject
    simpa using not_terminal_iff.mp hopen
  rw [hnil] at hmem
  exact absurd hmem List.not_mem_nil

theorem acts_refuseDuplicate {entry : ReferralEntry} {k : Unit → ReferralTransaction Unit}
    (hA : (referralFiling forced).Stable held A)
    (hlock : WriteLocked held (ReferralRow.studentRow student))
    (hforced : entry.allowDuplicate = true → canAssign actor = true →
      forced (school, student, entry.category))
    (hk : (referralFiling forced).Acts i (fun s => A s ∧
      (¬ forced (school, student, entry.category) → NoneOpen (school, student, entry.category) s))
      held (fun s => s) (k ())) :
    (referralFiling forced).Acts i A held (fun s => s)
      ((refuseDuplicate actor school student entry).bind k) := by
  unfold refuseDuplicate
  by_cases hallowed : (entry.allowDuplicate && canAssign actor) = true
  · rw [if_pos hallowed]
    rw [Bool.and_eq_true] at hallowed
    refine hk.mono fun s hs => ⟨hs.1, hs.2, fun hnot => ?_⟩
    exact (hnot (hforced hallowed.1 hallowed.2)).elim
  · rw [if_neg hallowed]
    simp only [Tx.bind_eq, Tx.bind_assoc]
    have hnone : (referralFiling forced).Stable held (NoneOpen (school, student, entry.category)) :=
      stable_noneOpen hlock
    refine Tx.Asserts.select (fun found s => s.Sound forced ∧ A s ∧
      (found = none → NoneOpen (school, student, entry.category) s)) ?_ ?_ ?_
    · exact fun s hs => ⟨hs.1, hs.2, fun hfound => noneOpen_of_duplicate hs.1.ids hfound⟩
    · exact fun found => (hA.and hnone.imp).keeps
    · intro found
      cases found with
      | some existing => trivial
      | none => exact hk.mono fun s hs => ⟨hs.1, hs.2.1, fun _ => hs.2.2 rfl⟩

theorem acts_insertReferral {id : ℕ} {r : StudentReferral} {k : Unit → ReferralTransaction Unit}
    (hA : (referralFiling forced).Stable held A)
    (hk : id < maxId → (referralFiling forced).Acts i (fun s => A s ∧ s.referrals.get? id = none)
      ((.referralRow id, .update) :: held) (fun s => s.addReferral id r) (k ())) :
    (referralFiling forced).Acts i A held (fun s => s) ((insertReferral id r).bind k) := by
  unfold insertReferral
  simp only [Tx.bind_eq, Tx.bind_assoc]
  have hsub : held ⊆ (ReferralRow.referralRow id, LockMode.update) :: held :=
    List.subset_cons_self _ _
  have hfree : (referralFiling forced).Stable ((ReferralRow.referralRow id, .update) :: held)
      fun s => s.referrals.get? id = none :=
    stable_row (WriteLocked.of_update List.mem_cons_self) fun row => row = none
  refine Tx.Asserts.lockRows (Tx.Asserts.select (fun taken s => s.Sound forced ∧ A s ∧
    (taken = false → s.referrals.get? id = none)) ?_ ?_ ?_)
  · intro s hs
    refine ⟨hs.1, hs.2, fun hnone => ?_⟩
    rwa [Option.isSome_eq_false_iff, Option.isNone_iff_eq_none] at hnone
  · exact fun taken => ((hA.mono hsub).and hfree.imp).keeps
  · intro taken
    refine Tx.Asserts.require fun hfound => Tx.Asserts.require fun hid => ?_
    rw [Bool.not_eq_true'] at hfound
    rw [decide_eq_true_eq] at hid
    refine Tx.Asserts.update ((hk hid).mono fun s hs => ?_)
    exact ⟨hs.1, hs.2.1, hs.2.2 hfound⟩

section New

variable {s t : ReferralBook} {id : ℕ} {r : StudentReferral} {logged : List ReferralEventType}
  {added : List StudentAction}

theorem writes_new (membership : ℕ) (hnew : s.referrals.get? id = none)
    (hstudents : t.students = s.students)
    (hreferrals : t.referrals = s.referrals ++ [(id, r)])
    (hevents : t.events = s.events ++ logged.map fun e => ⟨id, e, membership⟩)
    (hactions : ∃ ids : List ℕ, ids.length = added.length ∧ t.actions = s.actions ++ ids.zip added)
    (hnamed : ∀ x ∈ added, x.actionType = .referredToCounselor ∧
      x.notes = forwardingNotes id r.category) : Writes id r logged added s t where
  students := hstudents
  referrals := by
    intro j
    rw [hreferrals, Dict.get?_append_singleton]
    by_cases hj : j = id
    · rw [if_pos hj, if_pos hj.symm, hj, hnew, Option.none_or]
    · rw [if_neg hj, if_neg (Ne.symm hj), Option.or_none]
  ids := by
    intro hids
    rw [hreferrals]
    exact Dict.nodup_keys_append hids r hnew
  events := ⟨membership, hevents⟩
  actions := hactions
  named := hnamed

theorem intact_created (hid : id < maxId) {category : ReferralCategory} {reason : ReferralReason}
    (hstatus : r.status = .underViceReview) (hcounselor : r.assignedCounselor = none)
    (hclosed : r.closedAt = none) : Intact id r [.created category reason] [] := by
  refine ⟨hid, ⟨?_, fun _ => hcounselor, ?_, ?_, ?_⟩, ?_, fun hsome => ?_, fun _ => ⟨rfl, rfl⟩⟩
  · rw [hclosed, hstatus]
    rfl
  · simp [hstatus]
  · simp [hstatus]
  · simp [hstatus]
  · rw [hstatus]
    rfl
  · rw [hcounselor] at hsome
    cases hsome

theorem commits_new (h : Writes id r logged added s t) (hs : s.Sound forced)
    (hnew : s.referrals.get? id = none) (hlock : WriteLocked held (.referralRow id))
    (hfresh : Fresh forced held r s) (hintact : Intact id r logged added) :
    (referralFiling forced).Commits held s t := by
  obtain ⟨hevents, hactions⟩ := hs.unused id hnew
  refine h.commits hs hlock (fun x hx => ?_) (fun _ => hfresh) ?_
  · rw [hnew] at hx
    cases hx
  · rw [hevents, hactions]
    exact hintact

end New

def MayRefer (forced : ℕ × ℕ × ReferralCategory → Prop) (school student : ℕ)
    (category : ReferralCategory) (s : ReferralBook) : Prop :=
  s.students.get? student = some school ∧
    (¬ forced (school, student, category) → NoneOpen (school, student, category) s)

theorem stable_home : (referralFiling forced).Stable held fun s =>
    s.students.get? student = some school := by
  apply Filing.stable_grows
  intro L s s' hgrows hs
  have hsame : s'.students = s.students := Grows.students hgrows
  rw [hsame]
  exact hs

theorem stable_mayRefer {category : ReferralCategory}
    (hlock : WriteLocked held (ReferralRow.studentRow student)) :
    (referralFiling forced).Stable held (MayRefer forced school student category) := by
  have hopen : (referralFiling forced).Stable held (NoneOpen (school, student, category)) :=
    stable_noneOpen hlock
  exact stable_home.and hopen.imp

variable {source : ReferralSourceType} {entry : ReferralEntry} {counselor : Option ℕ}
  {now : Instant} {newId newActionId : ℕ}

theorem acts_createByTeacher
    (hforced : entry.allowDuplicate = true → canAssign actor = true →
      forced (school, student, entry.category))
    (hlock : WriteLocked held (ReferralRow.studentRow student)) :
    (referralFiling forced).Acts i (fun s => s.students.get? student = some school) held
      (fun s => s)
      ((responsibleViceForStudent school student).bind fun routed =>
        (refuseDuplicate actor school student entry).bind fun _ =>
        (insertReferral newId
          (newReferral actor school student .teacher entry routed.1 none now)).bind fun _ =>
        (logEvent actor newId (.created entry.category entry.reasonCode)).bind fun _ =>
        logEvent actor newId (.routed routed.2 routed.1)) := by
  refine acts_responsibleVice stable_home fun routed locks hlocks => ?_
  have hlock' := hlock.mono hlocks
  refine acts_refuseDuplicate stable_home hlock' hforced ?_
  refine acts_insertReferral (stable_mayRefer hlock') fun hid => ?_
  unfold logEvent
  refine Tx.Asserts.update (acts_end (i := i) fun s hs hfree => ?_)
  obtain ⟨⟨-, hmay⟩, hnew⟩ := hfree
  let r : StudentReferral := newReferral actor school student .teacher entry routed.1 none now
  have hwrites : Writes newId r
      [.created entry.category entry.reasonCode, .routed routed.2 routed.1] [] s
      (((s.addReferral newId r).log
        ⟨newId, .created entry.category entry.reasonCode, actor.membership⟩).log
          ⟨newId, .routed routed.2 routed.1, actor.membership⟩) := by
    refine writes_new actor.membership hnew rfl rfl ?_ ⟨[], rfl, (List.append_nil _).symm⟩ ?_
    · exact List.append_assoc _ _ _
    · exact fun _ hx => absurd hx List.not_mem_nil
  have hbegun : Intact newId { r with status := .underViceReview }
      [.created entry.category entry.reasonCode] [] := intact_created hid rfl rfl rfl
  refine commits_new hwrites hs hnew (WriteLocked.of_update List.mem_cons_self)
    ⟨hlock'.mono (List.subset_cons_self _ _), hmay⟩ ?_
  exact hbegun.turn rfl rfl rfl rfl ⟨rfl, fun _ => rfl, by simp [r, newReferral],
    by simp [r, newReferral], by simp [r, newReferral]⟩

theorem acts_createByOthers {vice : Option ℕ} (hsource : source ≠ .teacher)
    (hforced : entry.allowDuplicate = true → canAssign actor = true →
      forced (school, student, entry.category))
    (hlock : WriteLocked held (ReferralRow.studentRow student)) :
    (referralFiling forced).Acts i (fun s => s.students.get? student = some school) held
      (fun s => s)
      ((refuseDuplicate actor school student entry).bind fun _ =>
        (insertReferral newId
          (newReferral actor school student source entry vice counselor now)).bind fun _ =>
        (logEvent actor newId (.created entry.category entry.reasonCode)).bind fun _ =>
        match counselor with
        | none => .ret ()
        | some counselorId =>
          (logEvent actor newId
            (.forwardedOnCreation counselorId entry.assignedCounselor.isNone)).bind fun _ =>
          recordForwarding actor school newId
            (newReferral actor school student source entry vice counselor now) now
            newActionId) := by
  refine acts_refuseDuplicate stable_home hlock hforced ?_
  refine acts_insertReferral (stable_mayRefer hlock) fun hid => ?_
  unfold logEvent
  have hrow : WriteLocked ((ReferralRow.referralRow newId, LockMode.update) :: held)
      (ReferralRow.referralRow newId) := WriteLocked.of_update List.mem_cons_self
  have hstudent : WriteLocked ((ReferralRow.referralRow newId, LockMode.update) :: held)
      (ReferralRow.studentRow student) := hlock.mono (List.subset_cons_self _ _)
  cases counselor with
  | none =>
    refine Tx.Asserts.update (acts_end (i := i) fun s hs hfree => ?_)
    obtain ⟨⟨-, hmay⟩, hnew⟩ := hfree
    let r : StudentReferral := newReferral actor school student source entry vice none now
    have hwrites : Writes newId r [.created entry.category entry.reasonCode] [] s
        ((s.addReferral newId r).log
          ⟨newId, .created entry.category entry.reasonCode, actor.membership⟩) :=
      writes_new actor.membership hnew rfl rfl rfl ⟨[], rfl, (List.append_nil _).symm⟩
        fun _ hx => absurd hx List.not_mem_nil
    refine commits_new hwrites hs hnew hrow ⟨hstudent, hmay⟩ (intact_created hid ?_ rfl rfl)
    exact if_neg hsource
  | some counselorId =>
    let r : StudentReferral :=
      newReferral actor school student source entry vice (some counselorId) now
    refine Tx.Asserts.update (Tx.Asserts.update (acts_recordForwarding ?_ ?_))
    · exact (stable_mayRefer hstudent).and (stable_row hrow fun row => row = none)
    · intro s warning hs hfree
      obtain ⟨⟨-, hmay⟩, hnew⟩ := hfree
      let event : ReferralEventType :=
        .forwardedOnCreation counselorId entry.assignedCounselor.isNone
      have hwrites : Writes newId r [.created entry.category entry.reasonCode, event]
          [forwardingAction actor school newId r warning now] s
          ((((s.addReferral newId r).log
            ⟨newId, .created entry.category entry.reasonCode, actor.membership⟩).log
              ⟨newId, event, actor.membership⟩).addAction newActionId
                (forwardingAction actor school newId r warning now)) := by
        refine writes_new actor.membership hnew rfl rfl ?_ ⟨[newActionId], rfl, rfl⟩ ?_
        · exact List.append_assoc _ _ _
        · intro x hx
          rw [List.mem_singleton.mp hx]
          exact ⟨rfl, rfl⟩
      have hstatus : r.status = .referred := if_neg hsource
      have hreviewed : r.viceReviewedAt = some now := if_neg hsource
      have hbegun : Intact newId { r with status := .underViceReview, assignedCounselor := none }
          [.created entry.category entry.reasonCode] [] := intact_created hid rfl rfl rfl
      refine commits_new hwrites hs hnew hrow ⟨hstudent, hmay⟩ ?_
      refine hbegun.forward rfl hstatus rfl rfl rfl ⟨?_, ?_, ?_, ?_, ?_⟩ rfl rfl rfl
      · rw [hstatus]
        rfl
      · simp [hstatus]
      · exact fun _ => rfl
      · simp [hreviewed]
      · exact fun _ hteacher => absurd hteacher hsource

theorem acts_createLocked
    (hforced : entry.allowDuplicate = true → canAssign actor = true →
      forced (school, student, entry.category)) :
    (referralFiling forced).Acts i (fun s => s.students.get? student = some school) []
      (fun s => s)
      (createLocked actor school student source entry counselor now newId newActionId) := by
  unfold createLocked
  simp only [Tx.bind_eq]
  refine Tx.Asserts.lockFound (fun rows s => (s.Sound forced ∧
    s.students.get? student = some school) ∧ rows = [.studentRow student]) ?_ ?_ ?_
  · intro s hs
    refine ⟨hs, ?_⟩
    rw [hs.2]
    rfl
  · exact fun rows => stable_home.keeps.and (Change.keeps_const _ _ _)
  · intro rows
    refine Tx.Asserts.of_and ?_
    rintro rfl
    refine Tx.Asserts.select_any stable_home.keeps fun _ => ?_
    have hlock : WriteLocked [(ReferralRow.studentRow student, LockMode.update)]
        (ReferralRow.studentRow student) := WriteLocked.of_update List.mem_cons_self
    by_cases hteacher : source = .teacher
    · rw [if_pos hteacher, hteacher]
      exact acts_createByTeacher hforced hlock
    · rw [if_neg hteacher]
      exact acts_createByOthers hteacher hforced hlock

end Creating

/-- The subject for which a call forces a duplicate: it is made by the manager or a vice
principal. -/
def ReferralCall.Forces (call : ReferralCall) (subject : ℕ × ℕ × ReferralCategory) : Prop :=
  match call with
  | .createReferral actor school studentId entry _ _ _ =>
    entry.allowDuplicate = true ∧ canAssign actor = true ∧
      (school, studentId, entry.category) = subject
  | _ => False

def Forced (calls : List ReferralCall) (subject : ℕ × ℕ × ReferralCategory) : Prop :=
  ∃ call ∈ calls, call.Forces subject

/-- What holds of the referrals of a school in every state. -/
structure ReferralBook.InOrder (forced : ℕ × ℕ × ReferralCategory → Prop) (s : ReferralBook) :
    Prop where
  intact : ∀ id r, s.referrals.get? id = some r → Intact id r (s.eventsOf id) (s.forwardings id)
  oneOpen : ∀ subject, ¬ forced subject → OneOpen s subject

section Calls

variable {forced : ℕ × ℕ × ReferralCategory → Prop} {A : ReferralBook → Prop}
  {school student : ℕ}

theorem client_findWarning {k : Option SourceWarning → ReferralProgram Unit}
    (hA : (referralFiling forced).Stable [] A) (hk : ∀ w, (referralFiling forced).Client A (k w))
    (warningId : Option ℕ) :
    (referralFiling forced).Client A ((findWarning school warningId).bind k) := by
  cases warningId with
  | none => exact hk none
  | some warningId =>
    unfold findWarning
    simp only [Program.bind_eq, Program.bind_assoc]
    refine Filing.Client.read_keeps hA fun found => Filing.Client.need fun w _ => ?_
    exact hk (some w)

theorem client_validateCounselor {counselorId : ℕ} {k : ℕ → ReferralProgram Unit}
    (hA : (referralFiling forced).Stable [] A) (hk : ∀ c, (referralFiling forced).Client A (k c)) :
    (referralFiling forced).Client A ((validateCounselor school counselorId).bind k) := by
  unfold validateCounselor
  simp only [Program.bind_eq, Program.bind_assoc]
  exact Filing.Client.read_keeps hA fun found => Filing.Client.need fun c _ => hk c

theorem client_chooseCounselor {k : Option ℕ → ReferralProgram Unit}
    (hA : (referralFiling forced).Stable [] A) (hk : ∀ c, (referralFiling forced).Client A (k c))
    (counselorId : Option ℕ) :
    (referralFiling forced).Client A ((chooseCounselor school student counselorId).bind k) := by
  cases counselorId with
  | some counselorId =>
    unfold chooseCounselor
    simp only [Program.bind_eq, Program.bind_assoc]
    exact client_validateCounselor hA fun c => hk (some c)
  | none =>
    unfold chooseCounselor assignedCounselorForStudent
    simp only [Program.bind_eq, Program.bind_assoc]
    refine Filing.Client.read_keeps hA fun enrollment => ?_
    cases enrollment with
    | none => exact hk none
    | some e => exact Filing.Client.read_keeps hA hk

theorem client_createReferral {actor : Actor} {entry : ReferralEntry} {now : Instant}
    {newId newActionId : ℕ}
    (hforced : entry.allowDuplicate = true → canAssign actor = true →
      forced (school, student, entry.category)) :
    (referralFiling forced).Client (fun _ => True)
      (createReferral actor school student entry now newId newActionId) := by
  unfold createReferral validateReason
  simp only [Program.bind_eq, Program.bind_assoc]
  have hhome : ∀ found : Option ℕ, (referralFiling forced).Stable [] fun s =>
      ∀ home ∈ found, home = school ∧ s.students.get? student = some home := by
    intro found
    apply Filing.stable_grows
    intro L s s' hgrows hs
    have hsame : s'.students = s.students := Grows.students hgrows
    rw [hsame]
    exact hs
  refine Filing.Client.read (fun found s => ∀ home ∈ found,
    home = school ∧ s.students.get? student = some home) ?_ hhome ?_
  · intro s _ _ home hfound
    obtain ⟨hrow, hschool⟩ := Option.filter_eq_some_iff.mp hfound
    exact ⟨of_decide_eq_true hschool, hrow⟩
  · intro found
    have hA := hhome found
    refine Filing.Client.need fun home hfound => client_findWarning hA (fun warning => ?_) _
    refine Filing.Client.need fun source _ => Filing.Client.require fun _ => ?_
    refine Filing.Client.require fun _ => Filing.Client.require fun _ => ?_
    refine Filing.Client.require fun _ => ?_
    -- Whichever counselor is chosen, the rest is a check and the transaction.
    have hlast : ∀ counselor : Option ℕ, (referralFiling forced).Client (fun s =>
        ∀ home ∈ found, home = school ∧ s.students.get? student = some home)
        ((Program.require (warning.all fun w => w.school = school && w.student = student)
          (.api
            { code := "INVALID_REFERRAL_REASON"
              message := "الإنذار المرتبط لا يخص هذا الطالب."
              details := [("field", .text "source_warning")] })).bind fun _ =>
          Program.transaction
            (createLocked actor school student source entry counselor now newId newActionId)) := by
      intro counselor
      refine Filing.Client.require fun _ => Filing.Client.of_acts fun i => ?_
      refine (acts_createLocked hforced).mono fun s hs => ⟨hs.1, ?_⟩
      obtain ⟨hschool, hrow⟩ := hs.2 home hfound
      rw [hrow, hschool]
    by_cases hteacher : source = .teacher
    · rw [if_pos hteacher]
      exact hlast none
    · rw [if_neg hteacher]
      exact client_chooseCounselor hA hlast _

theorem client_program (call : ReferralCall) (hcall : ∀ subject, call.Forces subject →
    forced subject) : (referralFiling forced).Client (fun _ => True) call.program := by
  cases call with
  | createReferral actor school studentId entry now newId newActionId =>
    exact client_createReferral fun hallow hassign => hcall _ ⟨hallow, hassign, rfl⟩
  | assignVicePrincipal actor school referralId vicePrincipalId =>
    show (referralFiling forced).Client _ (assignVicePrincipal _ _ _ _)
    unfold assignVicePrincipal validateVicePrincipal
    simp only [Program.bind_eq, Program.bind_assoc]
    refine Filing.Client.read_any fun found => Filing.Client.need fun vice _ => ?_
    exact Filing.Client.of_acts fun i => acts_assignViceLocked
  | startViceReview actor school referralId isManager now => exact client_startViceReview
  | assignCounselor actor school referralId counselorId now newActionId =>
    show (referralFiling forced).Client _ (assignCounselor _ _ _ _ _ _)
    unfold assignCounselor
    simp only [Program.bind_eq]
    refine client_validateCounselor Filing.stable_true fun counselor => ?_
    exact Filing.Client.of_acts fun i => acts_assignCounselorLocked
  | acknowledgeReferral actor school referralId now => exact client_acknowledgeReferral
  | closeReferral actor school referralId reason cancel creatorOnly now =>
    exact client_closeReferral
  | addContribution actor school referralId observationType notes newId =>
    exact client_addContribution

end Calls

/-- **The referrals of a school are in order along every run**, and no statement of a run changes a
referral that is closed or cancelled. -/
theorem referrals_in_order (calls : List ReferralCall) (s : ReferralBook)
    (hs : s.Sound (Forced calls)) (sched : List ℕ)
    (c : Config ReferralBook ReferralRow Failure Unit)
    (hexec : (Config.start s (calls.map ReferralCall.program)).exec sched = some c) :
    c.store.InOrder (Forced calls) ∧
      ∀ i c', c.step i = some c' → ∀ id r, c.store.referrals.get? id = some r →
        isTerminal r.status = true → c'.store.referrals.get? id = some r := by
  have hclients : ∀ p ∈ calls.map ReferralCall.program,
      (referralFiling (Forced calls)).Client (fun _ => True) p := by
    intro p hp
    obtain ⟨call, hcall, rfl⟩ := List.mem_map.mp hp
    exact client_program call fun subject hforces => ⟨call, hcall, hforces⟩
  have hsound : c.store.Sound (Forced calls) := Filing.sound_of_exec hclients hs hexec
  refine ⟨⟨hsound.intact, hsound.oneOpen⟩, fun i c' hstep id r hr hclosed => ?_⟩
  rcases Filing.commits_of_step hclients hs hexec hstep with hsame | ⟨L, hcommit⟩
  · rw [hsame]
    exact hr
  · obtain ⟨y, hy, hgoes⟩ := hcommit.grows.referrals id r hr
    rw [hy, hgoes.closed hclosed]

def referralSchool : ReferralBook where
  students := [(5, 1)]
  members := [(2, ⟨1, true, [.vicePrincipal]⟩), (3, ⟨1, true, [.counselor]⟩),
    (4, ⟨1, true, [.teacher]⟩)]
  enrollments := [⟨50, 1, 5, 10, 40, .active, .active, 738000⟩]
  counselorSections := [⟨1, 40, 3⟩]
  viceScopes := [⟨1, some 10, none, 2⟩]

theorem referralSchool_sound (forced : ℕ × ℕ × ReferralCategory → Prop) :
    referralSchool.Sound forced where
  ids := List.nodup_nil
  intact := fun _ _ hr => nomatch hr
  unused := fun _ _ => ⟨rfl, rfl⟩
  oneOpen := fun _ _ _ _ _ _ hx => nomatch hx

/-- A teacher and a vice principal refer the student at once; the referral of the teacher is taken
through all its stages. -/
def referralCalls : List ReferralCall :=
  let vicePrincipal : Actor := ⟨2, [.vicePrincipal]⟩
  let counselor : Actor := ⟨3, [.counselor]⟩
  [.createReferral ⟨4, [.teacher]⟩ 1 5 ⟨.academic, .academicDecline, [], .normal, none, none, false⟩
      100 71 81,
    .createReferral vicePrincipal 1 5
      ⟨.academic, .lowParticipation, [], .normal, none, none, false⟩ 100 72 82,
    .startViceReview vicePrincipal 1 71 false 110,
    .assignCounselor vicePrincipal 1 71 3 120 83,
    .acknowledgeReferral counselor 1 71 130,
    .closeReferral counselor 1 71 "تم".toList false false 140]

/-- The vice principal has chosen a counselor before the teacher refers, and finds the referral of
the teacher. -/
def referralSchedule : List ℕ :=
  List.replicate 4 1 ++ List.replicate 17 0 ++ List.replicate 5 1 ++ List.replicate 7 2 ++
    List.replicate 12 3 ++ List.replicate 7 4 ++ List.replicate 7 5

theorem referrals_in_order_of_race : ∃ c : Config ReferralBook ReferralRow Failure Unit,
    (Config.start referralSchool (referralCalls.map ReferralCall.program)).exec referralSchedule =
      some c ∧ c.finished = true ∧ c.store.referrals.length = 1 ∧
        c.store.InOrder (Forced referralCalls) := by
  have hruns : ((Config.start referralSchool (referralCalls.map ReferralCall.program)).exec
      referralSchedule).map (fun c => c.finished && decide (c.store.referrals.length = 1)) =
        some true := by decide +kernel
  obtain ⟨c, hc, hended⟩ := Option.map_eq_some_iff.mp hruns
  rw [Bool.and_eq_true, decide_eq_true_eq] at hended
  exact ⟨c, hc, hended.1, hended.2, (referrals_in_order referralCalls referralSchool
    (referralSchool_sound _) referralSchedule c hc).1⟩

end SchoolPlatform.Referrals
