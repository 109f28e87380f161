import SchoolPlatform.Model.Referrals
import Mathlib.Data.Nat.Digits.Defs

/-!
# Referrals as files

A referral, its events and the action that it leaves are changed by whoever holds the row of the
referral, and a student is given a new referral by whoever holds the row of the student. What the
check for an open referral has found then stands until the new one is there: others can only close
referrals of the student.
-/

namespace SchoolPlatform.Referrals

open ReadCommitted
open SchoolPlatform.Counseling (ReferralStatus Actor)

def ReferralEventType.leadsTo : ReferralEventType → Option ReferralStatus
  | .created _ _ => some .underViceReview
  | .routed _ _ => some .pendingVice
  | .routedManually _ _ => some .pendingVice
  | .viceReviewStarted => some .underViceReview
  | .forwardedOnCreation _ _ => some .referred
  | .forwarded _ => some .referred
  | .reassigned _ _ => some .referred
  | .acknowledged => some .acknowledged
  | .contributionAdded _ => none
  | .closed => some .closed
  | .cancelled => some .cancelled

def replay (events : List ReferralEventType) : Option ReferralStatus :=
  events.foldl (fun status event => event.leadsTo.or status) none

theorem replay_concat (events : List ReferralEventType) (event : ReferralEventType) :
    replay (events ++ [event]) = event.leadsTo.or (replay events) := by
  unfold replay
  rw [List.foldl_append, List.foldl_cons, List.foldl_nil]

def ReferralEventType.isForwarding : ReferralEventType → Bool
  | .forwardedOnCreation _ _ => true
  | .forwarded _ => true
  | _ => false

def categories : List ReferralCategory :=
  [.attendance, .academic, .classroomBehavior, .social, .other]

def StudentAction.records (x : StudentAction) (id : ℕ) : Bool :=
  x.actionType = .referredToCounselor &&
    categories.any fun category => x.notes = forwardingNotes id category

def StudentReferral.subject (r : StudentReferral) : ℕ × ℕ × ReferralCategory :=
  (r.school, r.student, r.category)

/-- What the columns of a referral have at its stage: a counselor from the time that it is forwarded
on, reviewed by a vice principal whom a referral of a teacher has by then. -/
structure StudentReferral.Staged (r : StudentReferral) : Prop where
  closed : r.closedAt.isSome = isTerminal r.status
  waiting : r.status = .pendingVice ∨ r.status = .underViceReview → r.assignedCounselor = none
  counselor : r.status = .referred ∨ r.status = .acknowledged → r.assignedCounselor.isSome = true
  reviewed : r.status = .referred ∨ r.status = .acknowledged → r.viceReviewedAt.isSome = true
  vice : r.status = .referred ∨ r.status = .acknowledged → r.sourceType = .teacher →
    r.assignedVice.isSome = true

/-- **What holds of a referral**, with the events logged for it and the actions that record its
forwarding. -/
structure Intact (id : ℕ) (r : StudentReferral) (events : List ReferralEventType)
    (actions : List StudentAction) : Prop where
  inRange : id < maxId
  staged : r.Staged
  replayed : replay events = some r.status
  forwarded : r.assignedCounselor.isSome = true → events.countP (·.isForwarding) = 1 ∧
    ∃ x, actions = [x] ∧ x.school = r.school ∧ x.student = r.student ∧
      x.notes = forwardingNotes id r.category
  notForwarded : r.assignedCounselor = none →
    events.countP (·.isForwarding) = 0 ∧ actions = []

def ReferralBook.eventsOf (s : ReferralBook) (id : ℕ) : List ReferralEventType :=
  (s.events.filter fun e => e.referral = id).map fun e => e.eventType

def ReferralBook.forwardings (s : ReferralBook) (id : ℕ) : List StudentAction :=
  (s.actions.filter fun p => p.2.records id).map Prod.snd

def OneOpen (s : ReferralBook) (subject : ℕ × ℕ × ReferralCategory) : Prop :=
  ∀ i j x y, s.referrals.get? i = some x → s.referrals.get? j = some y → x.subject = subject →
    y.subject = subject → isTerminal x.status = false → isTerminal y.status = false → i = j

/-- What the calls keep of the tables, when only some subjects are given duplicates by force. -/
structure ReferralBook.Sound (forced : ℕ × ℕ × ReferralCategory → Prop) (s : ReferralBook) :
    Prop where
  ids : (Dict.keys s.referrals).Nodup
  intact : ∀ id r, s.referrals.get? id = some r → Intact id r (s.eventsOf id) (s.forwardings id)
  unused : ∀ id, s.referrals.get? id = none → s.eventsOf id = [] ∧ s.forwardings id = []
  oneOpen : ∀ subject, ¬ forced subject → OneOpen s subject

/-- What may become of a referral: it stays with its subject, and as it is once it is closed. -/
structure StudentReferral.Goes (x y : StudentReferral) : Prop where
  subject : y.subject = x.subject
  closed : isTerminal x.status = true → y = x

theorem StudentReferral.Goes.trans {x y z : StudentReferral} (h : x.Goes y) (h' : y.Goes z) :
    x.Goes z := by
  refine ⟨h'.subject.trans h.subject, fun hclosed => ?_⟩
  have hxy := h.closed hclosed
  rw [← hxy] at hclosed
  rw [h'.closed hclosed, hxy]

/-- What may become of the tables: students stay in their schools, and referrals are kept. -/
structure Grows (s t : ReferralBook) : Prop where
  students : t.students = s.students
  referrals : ∀ id x, s.referrals.get? id = some x →
    ∃ y, t.referrals.get? id = some y ∧ x.Goes y

inductive ReferralFile
  | referral (id : ℕ)
  | ofStudent (id : ℕ)

abbrev ReferralFile.Content : ReferralFile → Type
  | .referral _ => Option StudentReferral × List ReferralEventType × List StudentAction
  | .ofStudent _ => ℕ → Bool

def ReferralBook.isOfStudent (s : ReferralBook) (student id : ℕ) : Bool :=
  (s.referrals.get? id).any fun r => r.student = student

def referralFiling (forced : ℕ × ℕ × ReferralCategory → Prop) :
    Filing ReferralBook ReferralRow ReferralFile ReferralFile.Content where
  file
    | .referral id => fun s => (s.referrals.get? id, s.eventsOf id, s.forwardings id)
    | .ofStudent student => fun s => s.isOfStudent student
  row
    | .referral id => .referralRow id
    | .ofStudent student => .studentRow student
  sound := ReferralBook.Sound forced
  grows := fun _ => Grows
  grows_refl := fun _ _ => ⟨rfl, fun _ x hx => ⟨x, hx, rfl, fun _ => rfl⟩⟩
  grows_trans := by
    intro _ s t u h h'
    refine ⟨h'.students.trans h.students, fun id x hx => ?_⟩
    obtain ⟨y, hy, hxy⟩ := h.referrals id x hx
    obtain ⟨z, hz, hyz⟩ := h'.referrals id y hy
    exact ⟨z, hz, hxy.trans hyz⟩
  grows_mono := fun _ _ _ _ _ h => h

theorem isDigit_of_mem_toDigits {n : ℕ} {c : Char} (h : c ∈ Nat.toDigits 10 n) :
    c.isDigit = true := Nat.isDigit_of_mem_toDigits (by decide) (by decide) h

theorem takeWhile_notes (n : ℕ) (category : ReferralCategory) :
    (Nat.toDigits 10 n ++ (" — ".toList ++ category.label.toList)).takeWhile Char.isDigit =
      Nat.toDigits 10 n := by
  rw [List.takeWhile_append_of_pos fun c hc => isDigit_of_mem_toDigits hc]
  have hdash : (" — ".toList ++ category.label.toList).takeWhile Char.isDigit = [] := rfl
  rw [hdash, List.append_nil]

theorem length_toDigits {id : ℕ} (hid : id < maxId) : (Nat.toDigits 10 id).length ≤ 19 := by
  apply Nat.toDigits_length 10 id 19 (by decide)
  have hmax : maxId < 10 ^ 19 := by decide
  omega

theorem forwardingNotes_inj {id j : ℕ} {c c' : ReferralCategory} (hid : id < maxId)
    (h : forwardingNotes id c = forwardingNotes j c') : j = id := by
  have hdigits : (Nat.toDigits 10 id).take 490 = (Nat.toDigits 10 j).take 490 := by
    have hdrop := congrArg (fun notes => (List.drop 10 notes).takeWhile Char.isDigit) h
    have hnotes : ∀ n c, ((forwardingNotes n c).drop 10).takeWhile Char.isDigit =
        (Nat.toDigits 10 n).take 490 := by
      intro n c
      unfold forwardingNotes
      rw [List.drop_take, List.drop_append_of_le_length (by decide)]
      have hwords : "إحالة رقم ".toList.drop 10 = [] := by decide
      rw [hwords, List.nil_append, ← List.take_takeWhile, takeWhile_notes]
    simp only [hnotes] at hdrop
    exact hdrop
  have hlength := length_toDigits hid
  rw [List.take_of_length_le (by omega)] at hdigits
  have hj : (Nat.toDigits 10 j).length ≤ 490 := by
    by_contra hlong
    have hcut := congrArg List.length hdigits
    rw [List.length_take] at hcut
    omega
  rw [List.take_of_length_le hj] at hdigits
  have hvalue := congrArg (fun digits => Nat.ofDigitChars 10 digits 0) hdigits
  simpa using hvalue.symm

variable {forced : ℕ × ℕ × ReferralCategory → Prop} {L held : List (ReferralRow × LockMode)}
  {s t : ReferralBook} {id : ℕ}

theorem stable_row (hlock : WriteLocked held (ReferralRow.referralRow id))
    (P : Option StudentReferral → Prop) :
    (referralFiling forced).Stable held fun s => P (s.referrals.get? id) :=
  Filing.stable_file (D := referralFiling forced) (x := .referral id) hlock fun content =>
    P content.1

def NoneOpen (subject : ℕ × ℕ × ReferralCategory) (s : ReferralBook) : Prop :=
  ∀ id r, s.referrals.get? id = some r → r.subject = subject → isTerminal r.status = true

theorem stable_noneOpen {subject : ℕ × ℕ × ReferralCategory}
    (hlock : WriteLocked held (ReferralRow.studentRow subject.2.1)) :
    (referralFiling forced).Stable held (NoneOpen subject) := by
  intro L s s' hcompat hcommit _ hnone id r hr hsubject
  have hfile : s'.isOfStudent subject.2.1 = s.isOfStudent subject.2.1 := by
    rcases hcommit.files (.ofStudent subject.2.1) with hother | heq
    · exact absurd hother (hcompat.not_writeLocked hlock)
    · exact heq
  have hmine : s.isOfStudent subject.2.1 id = true := by
    rw [← hfile]
    unfold ReferralBook.isOfStudent
    rw [hr, Option.any_some, decide_eq_true_eq, ← hsubject]
    rfl
  obtain ⟨x, hx, -⟩ := (Option.any_eq_true _ _).mp hmine
  obtain ⟨y, hy, hgoes⟩ := hcommit.grows.referrals id x hx
  rw [hr] at hy
  obtain rfl : r = y := Option.some.inj hy
  have hclosed := hnone id x hx (hgoes.subject.symm.trans hsubject)
  rw [hgoes.closed hclosed]
  exact hclosed

structure Writes (id : ℕ) (r : StudentReferral) (logged : List ReferralEventType)
    (added : List StudentAction) (s t : ReferralBook) : Prop where
  students : t.students = s.students
  referrals : ∀ j, t.referrals.get? j = if j = id then some r else s.referrals.get? j
  ids : (Dict.keys s.referrals).Nodup → (Dict.keys t.referrals).Nodup
  events : ∃ actor, t.events = s.events ++ logged.map fun e => ⟨id, e, actor⟩
  actions : ∃ ids : List ℕ, ids.length = added.length ∧ t.actions = s.actions ++ ids.zip added
  named : ∀ x ∈ added, x.actionType = .referredToCounselor ∧
    x.notes = forwardingNotes id r.category

variable {r : StudentReferral} {logged : List ReferralEventType} {added : List StudentAction}

theorem Writes.eventsOf (h : Writes id r logged added s t) (j : ℕ) :
    t.eventsOf j = if j = id then s.eventsOf j ++ logged else s.eventsOf j := by
  obtain ⟨actor, hevents⟩ := h.events
  unfold ReferralBook.eventsOf
  rw [hevents, List.filter_append, List.map_append]
  by_cases hj : j = id
  · rw [if_pos hj, hj]
    congr 1
    rw [List.filter_map, List.map_map]
    simp [Function.comp_def]
  · rw [if_neg hj, List.filter_map]
    simp [Function.comp_def, Ne.symm hj]

theorem Writes.forwardings (h : Writes id r logged added s t) (hid : id < maxId) (j : ℕ) :
    t.forwardings j = if j = id then s.forwardings j ++ added else s.forwardings j := by
  obtain ⟨ids, hlength, hactions⟩ := h.actions
  have hzip : ∀ p ∈ ids.zip added, p.2 ∈ added := fun p hp => (List.of_mem_zip hp).2
  unfold ReferralBook.forwardings
  rw [hactions, List.filter_append, List.map_append]
  by_cases hj : j = id
  · have hall : (ids.zip added).filter (fun p => p.2.records j) = ids.zip added := by
      apply List.filter_eq_self.mpr
      intro p hp
      obtain ⟨htype, hnotes⟩ := h.named p.2 (hzip p hp)
      have hcategory : r.category ∈ categories := by
        cases r.category <;> decide
      unfold StudentAction.records
      rw [htype, hnotes, hj]
      simp only [decide_true, Bool.true_and, List.any_eq_true, decide_eq_true_eq]
      exact ⟨r.category, hcategory, rfl⟩
    rw [if_pos hj, hall, List.map_snd_zip (Nat.le_of_eq hlength.symm)]
  · have hnone : (ids.zip added).filter (fun p => p.2.records j) = [] := by
      apply List.filter_eq_nil_iff.mpr
      intro p hp hrecords
      obtain ⟨-, hnotes⟩ := h.named p.2 (hzip p hp)
      unfold StudentAction.records at hrecords
      rw [Bool.and_eq_true, List.any_eq_true] at hrecords
      obtain ⟨-, category, -, hsame⟩ := hrecords
      rw [decide_eq_true_eq, hnotes] at hsame
      exact hj (forwardingNotes_inj hid hsame)
    rw [if_neg hj, hnone, List.map_nil, List.append_nil]

/-- The subject of a new referral may be given one. -/
def Fresh (forced : ℕ × ℕ × ReferralCategory → Prop) (L : List (ReferralRow × LockMode))
    (r : StudentReferral) (s : ReferralBook) : Prop :=
  WriteLocked L (.studentRow r.student) ∧ (¬ forced r.subject → NoneOpen r.subject s)

theorem Writes.commits (h : Writes id r logged added s t) (hs : s.Sound forced)
    (hlock : WriteLocked L (.referralRow id))
    (hbefore : ∀ x, s.referrals.get? id = some x → x.Goes r)
    (hnew : s.referrals.get? id = none → Fresh forced L r s)
    (hintact : Intact id r (s.eventsOf id ++ logged) (s.forwardings id ++ added)) :
    (referralFiling forced).Commits L s t := by
  have hrow : t.referrals.get? id = some r := by
    rw [h.referrals, if_pos rfl]
  refine ⟨fun file => ?_, ⟨h.students, fun j x hx => ?_⟩, fun _ => ?_⟩
  · cases file with
    | referral j =>
      by_cases hj : j = id
      · rw [hj]
        exact .inl hlock
      · refine .inr ?_
        show (t.referrals.get? j, t.eventsOf j, t.forwardings j) =
          (s.referrals.get? j, s.eventsOf j, s.forwardings j)
        rw [h.referrals, h.eventsOf, h.forwardings hintact.inRange, if_neg hj, if_neg hj, if_neg hj]
    | ofStudent student =>
      by_cases hfree : s.referrals.get? id = none ∧ r.student = student
      · rw [← hfree.2]
        exact .inl (hnew hfree.1).1
      · refine .inr (funext fun j => ?_)
        show t.isOfStudent student j = s.isOfStudent student j
        unfold ReferralBook.isOfStudent
        by_cases hj : j = id
        · rw [hj, hrow]
          cases hx : s.referrals.get? id with
          | none =>
            have hother : r.student ≠ student := fun hsame => hfree ⟨hx, hsame⟩
            simp [hother]
          | some x =>
            have hsubject := congrArg (fun subject => subject.2.1) (hbefore x hx).subject
            have hstudent : r.student = x.student := hsubject
            simp [hstudent]
        · rw [h.referrals, if_neg hj]
  · by_cases hj : j = id
    · rw [hj] at hx ⊢
      exact ⟨r, hrow, hbefore x hx⟩
    · refine ⟨x, ?_, rfl, fun _ => rfl⟩
      rw [h.referrals, if_neg hj, hx]
  · refine ⟨h.ids hs.ids, fun j x hx => ?_, fun j hj => ?_, fun subject hfree => ?_⟩
    · rw [h.eventsOf, h.forwardings hintact.inRange]
      rw [h.referrals] at hx
      by_cases hj : j = id
      · rw [if_pos hj] at hx
        rw [if_pos hj, if_pos hj, hj, ← Option.some.inj hx]
        exact hintact
      · rw [if_neg hj] at hx
        rw [if_neg hj, if_neg hj]
        exact hs.intact j x hx
    · rw [h.referrals] at hj
      by_cases hid : j = id
      · rw [if_pos hid] at hj
        cases hj
      · rw [if_neg hid] at hj
        rw [h.eventsOf, h.forwardings hintact.inRange, if_neg hid, if_neg hid]
        exact hs.unused j hj
    · -- Another open referral of the subject was open before, and so was this one if it was there.
      have hother : ∀ j y, j ≠ id → s.referrals.get? j = some y → y.subject = subject →
          isTerminal y.status = false → r.subject = subject → isTerminal r.status = false →
            False := by
        intro j y hj hy hsubject hopen hrsubject hropen
        cases hx : s.referrals.get? id with
        | none =>
          have hnone := (hnew hx).2 (hrsubject.symm ▸ hfree)
          have hclosed := hnone j y hy (hsubject.trans hrsubject.symm)
          rw [hopen] at hclosed
          cases hclosed
        | some x =>
          have hgoes := hbefore x hx
          have hxopen : isTerminal x.status = false := by
            by_contra hclosed
            rw [Bool.not_eq_false] at hclosed
            rw [hgoes.closed hclosed, hclosed] at hropen
            cases hropen
          exact hj (hs.oneOpen subject hfree j id y x hy hx hsubject
            (hgoes.subject.symm.trans hrsubject) hopen hxopen)
      intro i j x y hx hy hxsubject hysubject hxopen hyopen
      rw [h.referrals] at hx hy
      by_cases hi : i = id
      · by_cases hj : j = id
        · rw [hi, hj]
        · rw [if_pos hi, Option.some.injEq] at hx
          rw [if_neg hj] at hy
          rw [← hx] at hxsubject hxopen
          exact (hother j y hj hy hysubject hyopen hxsubject hxopen).elim
      · rw [if_neg hi] at hx
        by_cases hj : j = id
        · rw [if_pos hj, Option.some.injEq] at hy
          rw [← hy] at hysubject hyopen
          exact (hother i x hi hx hxsubject hxopen hysubject hyopen).elim
        · rw [if_neg hj] at hy
          exact hs.oneOpen subject hfree i j x y hx hy hxsubject hysubject hxopen hyopen

end SchoolPlatform.Referrals
