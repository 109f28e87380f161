import SchoolPlatform.Library.Guarantees
import SchoolPlatform.Model.AbsenceSms

/-!
# An absence message is sent at most once

Whatever users, the broker and the provider do, a provider is called for a student and a date only
when all earlier attempts have been recorded as failed, and with the number whose hash the notice
stores (`absenceSms_calls`).
-/

/-! ## What each call does to notices and to the log of the provider -/

namespace SchoolPlatform

open ReadCommitted

variable {i : ℕ} {key : NoticeKey} {s s' : SmsOffice}

/-- What a client may do to a notice, apart from recording a result. -/
inductive NoticeStep (i : ℕ) : Option AbsenceSmsNotice → Option AbsenceSmsNotice → Prop
  | created {n : AbsenceSmsNotice} (after : n.status = .queued) : NoticeStep i none (some n)
  | requeued {n n' : AbsenceSmsNotice} (before : n.status = .failed) (after : n'.status = .queued) :
    NoticeStep i (some n) (some n')
  | gaveUp {n n' : AbsenceSmsNotice} (before : n.status = .queued) (after : n'.status = .failed) :
    NoticeStep i (some n) (some n')
  | claimed {n n' : AbsenceSmsNotice} (before : n.status = .queued) (after : n'.status = .sending)
    (sender : n'.sender = some i) : NoticeStep i (some n) (some n')

theorem NoticeStep.before {o o' : Option AbsenceSmsNotice} (h : NoticeStep i o o')
    {n : AbsenceSmsNotice} (hn : o = some n) : n.status = .queued ∨ n.status = .failed := by
  cases h with
  | created after => cases hn
  | requeued before after =>
    cases hn
    exact .inr before
  | gaveUp before after =>
    cases hn
    exact .inl before
  | claimed before after sender =>
    cases hn
    exact .inl before

/-- No attempt for the notice is under way or has come to an end other than a failure. -/
def SmsOffice.AllFailed (s : SmsOffice) (key : NoticeKey) : Prop :=
  ∀ c ∈ s.calls, c.key = key → c.ended = some .failed

/-- The notice is not there yet, queued, or failed. -/
def SmsOffice.MaySend (s : SmsOffice) (key : NoticeKey) : Prop :=
  ∀ n, s.notices key = some n → n.status = .queued ∨ n.status = .failed

/-- A notice that may be sent has no attempt that did not fail. -/
def SmsOffice.Sound (s : SmsOffice) : Prop := ∀ key, s.MaySend key → s.AllFailed key

/-- The notice is being sent by the run `i` of the task. -/
def SmsOffice.SentBy (s : SmsOffice) (i : ℕ) (key : NoticeKey) (n : AbsenceSmsNotice) : Prop :=
  s.notices key = some n ∧ n.status = .sending ∧ n.sender = some i

inductive SmsChange (i : ℕ) : Change SmsOffice SmsRow
  | notices {L : List (SmsRow × LockMode)} {s s' : SmsOffice} (calls : s'.calls = s.calls)
    (steps : ∀ key, s'.notices key = s.notices key ∨
      WriteLocked L (.notice key) ∧ NoticeStep i (s.notices key) (s'.notices key)) :
    SmsChange i L s s'
  | called {L : List (SmsRow × LockMode)} {s : SmsOffice} {key : NoticeKey} {n : AbsenceSmsNotice}
    {mobile : String} (mine : s.SentBy i key n) (hash : recipientHash mobile = n.recipientHash)
    (failed : s.AllFailed key) : SmsChange i L s (s.call key mobile)
  | finished {L : List (SmsRow × LockMode)} {s : SmsOffice} {key : NoticeKey}
    {n n' : AbsenceSmsNotice} {status : AbsenceSmsStatus} (locked : WriteLocked L (.notice key))
    (mine : s.SentBy i key n) (after : n'.status = status)
    (settled : status = .accepted ∨ status = .failed ∨ status = .unknown)
    (earlier : ∀ c ∈ s.calls, c.key = key → c.ended = none ∨ c.ended = some .failed) :
    SmsChange i L s ((s.putNotice key n').endCalls key status)

@[simp] theorem SmsOffice.notices_putNotice (s : SmsOffice) (key : NoticeKey)
    (n : AbsenceSmsNotice) :
    (s.putNotice key n).notices = Function.update s.notices key (some n) := rfl

@[simp] theorem SmsOffice.notices_endCalls (s : SmsOffice) (key : NoticeKey)
    (status : AbsenceSmsStatus) : (s.endCalls key status).notices = s.notices := rfl

theorem SmsOffice.mem_endCalls {k : NoticeKey} {status : AbsenceSmsStatus} {c : ProviderCall}
    (hc : c ∈ (s.endCalls k status).calls) :
    c ∈ s.calls ∧ ¬ (c.key = k ∧ c.ended = none) ∨
      c.key = k ∧ c.ended = some status ∧ ∃ d ∈ s.calls, d.key = k ∧ d.ended = none := by
  obtain ⟨d, hd, rfl⟩ := List.mem_map.mp hc
  by_cases h : d.key = k ∧ d.ended = none
  · rw [if_pos h]
    exact .inr ⟨h.1, rfl, d, hd, h⟩
  · rw [if_neg h]
    exact .inl ⟨hd, h⟩

theorem SmsOffice.mem_call {mobile : String} {c : ProviderCall}
    (hc : c ∈ (s.call key mobile).calls) :
    c ∈ s.calls ∨ c = { key := key, mobile := mobile } := by
  simpa [SmsOffice.call] using hc

theorem SmsChange.sound {L : List (SmsRow × LockMode)} (h : SmsChange i L s s') (hs : s.Sound) :
    s'.Sound := by
  intro k hmay
  cases h with
  | notices calls steps =>
    have hbefore : s.MaySend k := by
      rcases steps k with hsame | ⟨-, hstep⟩
      · intro n hn
        exact hmay n (hsame.trans hn)
      · exact fun n hn => hstep.before hn
    intro c hc
    rw [calls] at hc
    exact hs k hbefore c hc
  | @called _ _ key n mobile mine hash failed =>
    have hne : key ≠ k := by
      rintro rfl
      rcases hmay n mine.1 with h | h <;> rw [mine.2.1] at h <;> cases h
    intro c hc hkey
    rcases SmsOffice.mem_call hc with hc | rfl
    · exact hs k hmay c hc hkey
    · exact absurd hkey hne
  | @finished _ _ key n n' status locked mine after settled earlier =>
    by_cases hk : k = key
    · subst hk
      have hfailed : status = .failed := by
        have hstatus := hmay n' (by simp)
        rw [after] at hstatus
        rcases settled with h | h | h
        · rcases hstatus with h' | h' <;> rw [h] at h' <;> cases h'
        · exact h
        · rcases hstatus with h' | h' <;> rw [h] at h' <;> cases h'
      intro c hc hkey
      rcases SmsOffice.mem_endCalls hc with ⟨hc, hnot⟩ | ⟨-, hended, -⟩
      · rcases earlier c hc hkey with hnone | hended
        · exact absurd ⟨hkey, hnone⟩ hnot
        · exact hended
      · rw [hended, hfailed]
    · have hbefore : s.MaySend k := by
        intro n₁ hn₁
        apply hmay n₁
        simp only [SmsOffice.notices_endCalls, SmsOffice.notices_putNotice]
        rw [Function.update_of_ne hk]
        exact hn₁
      intro c hc hkey
      rcases SmsOffice.mem_endCalls hc with ⟨hc, -⟩ | ⟨hkey', -⟩
      · exact hs k hbefore c hc hkey
      · exact absurd (hkey.symm.trans hkey') hk

abbrev smsOthers (i : ℕ) : Change SmsOffice SmsRow :=
  others SmsChange SmsOffice.Sound (fun _ _ _ => True) i

theorem smsChange_sound (i : ℕ) (L : List (SmsRow × LockMode)) (s s' : SmsOffice)
    (h : SmsChange i L s s') (hs : s.Sound) : s'.Sound := h.sound hs

theorem sound_kept (i : ℕ) (held : List (SmsRow × LockMode)) :
    (smsOthers i).Keeps held SmsOffice.Sound := others_keeps smsChange_sound i held

theorem notice_kept {held : List (SmsRow × LockMode)} (hlock : WriteLocked held (.notice key))
    (b : Option AbsenceSmsNotice) :
    (smsOthers i).Keeps held fun s => s.Sound ∧ s.notices key = b := by
  apply others_keeps_of smsChange_sound
  intro j L s s' hj hcompat h _ hs hb
  have hfree := hcompat.not_writeLocked hlock
  cases h with
  | notices calls steps =>
    rcases steps key with hsame | ⟨hlocked, -⟩
    · exact hsame.trans hb
    · exact absurd hlocked hfree
  | called mine hash failed => exact hb
  | @finished _ _ k n n' status locked mine after settled earlier =>
    have hne : key ≠ k := by
      rintro rfl
      exact hfree locked
    simp only [SmsOffice.notices_endCalls, SmsOffice.notices_putNotice]
    rw [Function.update_of_ne hne]
    exact hb

theorem sentBy_kept (held : List (SmsRow × LockMode)) (n : AbsenceSmsNotice)
    (P : Option AbsenceSmsStatus → Prop) :
    (smsOthers i).Keeps held fun s => s.Sound ∧ s.SentBy i key n ∧
      ∀ c ∈ s.calls, c.key = key → P c.ended := by
  apply others_keeps_of smsChange_sound
  rintro j L s s' hj hcompat h - hs ⟨hmine, hcalls⟩
  obtain ⟨hn, hstatus, hsender⟩ := hmine
  cases h with
  | notices calls steps =>
    have hsame : s'.notices key = some n := by
      rcases steps key with hsame | ⟨-, hstep⟩
      · exact hsame.trans hn
      · rcases hstep.before hn with h | h <;> rw [hstatus] at h <;> cases h
    refine ⟨⟨hsame, hstatus, hsender⟩, ?_⟩
    rw [calls]
    exact hcalls
  | @called _ _ k m mobile mine hash failed =>
    have hne : k ≠ key := by
      rintro rfl
      obtain ⟨hm, -, hj'⟩ := mine
      rw [hn, Option.some.injEq] at hm
      rw [← hm, hsender, Option.some.injEq] at hj'
      exact hj hj'.symm
    refine ⟨⟨hn, hstatus, hsender⟩, fun c hc hkey => ?_⟩
    rcases SmsOffice.mem_call hc with hc | rfl
    · exact hcalls c hc hkey
    · exact absurd hkey hne
  | @finished _ _ k m m' status locked mine after settled earlier =>
    have hne : key ≠ k := by
      rintro rfl
      obtain ⟨hm, -, hj'⟩ := mine
      rw [hn, Option.some.injEq] at hm
      rw [← hm, hsender, Option.some.injEq] at hj'
      exact hj hj'.symm
    refine ⟨⟨?_, hstatus, hsender⟩, fun c hc hkey => ?_⟩
    · simp only [SmsOffice.notices_endCalls, SmsOffice.notices_putNotice]
      rw [Function.update_of_ne hne]
      exact hn
    · rcases SmsOffice.mem_endCalls hc with ⟨hc, -⟩ | ⟨hkey', -⟩
      · exact hcalls c hc hkey
      · exact absurd (hkey.symm.trans hkey') hne

variable {i : ℕ} {key : NoticeKey} {held : List (SmsRow × LockMode)} {A : SmsOffice → Prop}
  {f : SmsOffice → SmsOffice}

/-! ## Queueing -/

def QueueStep (o o' : Option AbsenceSmsNotice) : Prop :=
  (∀ n, o = some n → n.status = .failed) ∧ ∃ n', o' = some n' ∧ n'.status = .queued

theorem QueueStep.noticeStep {o o' : Option AbsenceSmsNotice} (h : QueueStep o o') :
    NoticeStep i o o' := by
  obtain ⟨hbefore, n', rfl, hafter⟩ := h
  cases o with
  | none => exact .created hafter
  | some n => exact .requeued (hbefore n rfl) hafter

/-- In the middle of a transaction that queues notices: it holds the rows of those it has queued,
and they still are as they were found. -/
structure Queueing (i : ℕ) (held : List (SmsRow × LockMode)) (A : SmsOffice → Prop)
    (f : SmsOffice → SmsOffice) : Prop where
  kept : (smsOthers i).Keeps held A
  sound : ∀ s, A s → s.Sound
  calls : ∀ s, (f s).calls = s.calls
  steps : ∀ s, A s → ∀ key, (f s).notices key = s.notices key ∨
    WriteLocked held (.notice key) ∧ QueueStep (s.notices key) ((f s).notices key)

theorem Queueing.start (i : ℕ) (held : List (SmsRow × LockMode)) :
    Queueing i held SmsOffice.Sound fun s => s where
  kept := sound_kept i held
  sound := fun _ hs => hs
  calls := fun _ => rfl
  steps := fun _ _ _ => .inl rfl

theorem Queueing.lock (h : Queueing i held A f) (rows : List (SmsRow × LockMode)) :
    Queueing i (rows ++ held) A f where
  kept := h.kept.mono (List.subset_append_right _ _)
  sound := h.sound
  calls := h.calls
  steps := fun s hs key => (h.steps s hs key).imp_right fun hstep =>
    ⟨hstep.1.mono (List.subset_append_right _ _), hstep.2⟩

theorem Queueing.committed (h : Queueing i held A f) {s : SmsOffice} (hs : A s)
    (hb : ∀ n, (f s).notices key = some n → n.status ≠ .queued) :
    s.notices key = (f s).notices key := by
  rcases h.steps s hs key with hsame | ⟨-, -, n', hn', hqueued⟩
  · exact hsame.symm
  · exact absurd hqueued (hb n' hn')

theorem Queueing.put (h : Queueing i held A f) (hlock : WriteLocked held (.notice key))
    {b : Option AbsenceSmsNotice} (hb : ∀ n, b = some n → n.status = .failed)
    {n : AbsenceSmsNotice} (hn : n.status = .queued) :
    Queueing i held (fun s => A s ∧ s.notices key = b) fun s => (f s).putNotice key n where
  kept := by
    intro L s s' hcompat hR hs
    have hnotice := notice_kept hlock b L s s' hcompat hR ⟨h.sound s hs.1, hs.2⟩
    exact ⟨h.kept L s s' hcompat hR hs.1, hnotice.2⟩
  sound := fun s hs => h.sound s hs.1
  calls := h.calls
  steps := by
    intro s hs k
    by_cases hk : k = key
    · subst hk
      refine .inr ⟨hlock, ?_, n, by simp, hn⟩
      rw [hs.2]
      exact hb
    · simp only [SmsOffice.notices_putNotice]
      rw [Function.update_of_ne hk]
      exact h.steps s hs.1 k

section Queue

variable {α : Type} {Q : α → SmsOffice → Prop}

theorem Queueing.lockNotice (h : Queueing i held A f)
    {k : Option AbsenceSmsNotice → SmsTransaction α}
    (hk : ∀ (b : Option AbsenceSmsNotice) (held' : List (SmsRow × LockMode)),
      WriteLocked held' (.notice key) → Queueing i held' A f →
      (k b).Asserts (smsOthers i) (SmsChange i) Q
        (fun s => A s ∧ ((∀ n, b = some n → n.status = .failed) → s.notices key = b)) held' f) :
    ((Tx.lockRows .update [SmsRow.notice key] : SmsTransaction Unit).bind fun _ =>
      (Tx.select fun s => s.notices key).bind k).Asserts (smsOthers i) (SmsChange i) Q A held
        f := by
  have hlocked : WriteLocked ([(SmsRow.notice key, LockMode.update)] ++ held) (.notice key) :=
    .of_update List.mem_cons_self
  have hrow := h.lock [(SmsRow.notice key, LockMode.update)]
  apply Tx.Asserts.lockRows
  refine Tx.Asserts.select
    (fun b s => A s ∧ ((∀ n, b = some n → n.status = .failed) → s.notices key = b))
    ?_ ?_ fun b => hk b _ hlocked hrow
  · intro s hs
    refine ⟨hs, fun hfailed => hrow.committed hs fun n hn hqueued => ?_⟩
    rw [hfailed n hn] at hqueued
    cases hqueued
  · intro b L s s' hcompat hR hs
    refine ⟨hrow.kept L s s' hcompat hR hs.1, fun hfailed => ?_⟩
    exact (notice_kept hlocked b L s s' hcompat hR ⟨h.sound s hs.1, hs.2 hfailed⟩).2

theorem getOrCreateNotice_asserts (h : Queueing i held A f) {fresh : AbsenceSmsNotice}
    (hfresh : fresh.status = .queued) {k : Bool → SmsTransaction α}
    (hk : ∀ b held' A' f', Queueing i held' A' f' →
      (k b).Asserts (smsOthers i) (SmsChange i) Q A' held' f') :
    ((getOrCreateNotice key fresh).bind k).Asserts (smsOthers i) (SmsChange i) Q A held f := by
  unfold getOrCreateNotice
  refine Tx.Asserts.select_any h.kept fun found => ?_
  cases found with
  | some n => exact hk false held A f h
  | none =>
    refine h.lockNotice fun b held' hlock hrow => ?_
    cases b with
    | some n => exact (hk false held' A f hrow).mono fun s hs => hs.1
    | none =>
      have hnone : ∀ n : AbsenceSmsNotice, none = some n → n.status = .failed :=
        fun n hn => nomatch hn
      exact (hk true held' _ _ (hrow.put hlock hnone hfresh)).mono
        fun s hs => ⟨hs.1, hs.2 hnone⟩

theorem queueNotice_asserts (h : Queueing i held A f) {fresh : AbsenceSmsNotice}
    (hfresh : fresh.status = .queued) {k : Bool → SmsTransaction α}
    (hk : ∀ b held' A' f', Queueing i held' A' f' →
      (k b).Asserts (smsOthers i) (SmsChange i) Q A' held' f') :
    ((queueNotice key fresh).bind k).Asserts (smsOthers i) (SmsChange i) Q A held f := by
  unfold queueNotice
  simp only [Tx.bind_eq, Tx.bind_assoc]
  refine getOrCreateNotice_asserts h hfresh fun created held₁ A₁ f₁ h₁ => ?_
  cases created with
  | true => exact hk true held₁ A₁ f₁ h₁
  | false =>
    refine h₁.lockNotice fun b held₂ hlock h₂ => ?_
    cases b with
    | none => trivial
    | some notice =>
      simp only [Tx.bind]
      by_cases hstatus : notice.status = .failed
      · simp only [hstatus, ne_eq, not_true_eq_false, if_false]
        have hfailed : ∀ n, some notice = some n → n.status = .failed := by
          rintro n hn
          cases hn
          exact hstatus
        exact (hk true held₂ _ _ (h₂.put hlock hfailed rfl)).mono
          fun s hs => ⟨hs.1, hs.2 hfailed⟩
      · simp only [hstatus, ne_eq, not_false_eq_true, if_true]
        exact (hk false held₂ A₁ f₁ h₂).mono fun s hs => hs.1

theorem queueNotices_asserts (actor : ℕ) (provider : SmsProvider) (d : Date) (blocked : ℕ → Bool)
    (rows : List (DailyAttendanceSummary × Student)) (acc : QueueResult)
    (h : Queueing i held A f) :
    (queueNotices actor provider d blocked rows acc).Asserts (smsOthers i) (SmsChange i)
      (fun _ s => s.Sound) A held f := by
  induction rows generalizing acc held A f with
  | nil =>
    intro s hs
    have hcommit : SmsChange i held s (f s) := .notices (h.calls s) fun key =>
      (h.steps s hs key).imp_right fun hstep => ⟨hstep.1, hstep.2.noticeStep⟩
    exact ⟨hcommit, hcommit.sound (h.sound s hs)⟩
  | cons p rows ih =>
    unfold queueNotices
    by_cases hblocked : blocked p.1.student = true
    · simp only [hblocked, if_true]
      exact ih _ h
    · simp only [hblocked, if_false, Bool.false_eq_true]
      exact queueNotice_asserts h rfl fun queued held' A' f' h' => ih _ h'

end Queue

theorem queueAbsences_asserts (i actor : ℕ) (d : Date) (studentIds : List ℕ) :
    (queueAbsences actor d studentIds).Asserts (smsOthers i) (SmsChange i) (fun _ s => s.Sound)
      SmsOffice.Sound [] fun s => s := by
  unfold queueAbsences
  refine Tx.Asserts.selectForUpdate (fun _ s => s.Sound) (sound_kept i _) (fun s hs => hs)
    (fun _ => sound_kept i _) fun found => ?_
  cases found.filter fun x => x.isActive with
  | none => trivial
  | some integration =>
    refine Tx.Asserts.select_any (sound_kept i _) fun summaries => ?_
    split_ifs with hchanged hmissing hinvalid
    · trivial
    · trivial
    · trivial
    · refine Tx.Asserts.select_any (sound_kept i _) fun blocked => ?_
      exact queueNotices_asserts actor integration.provider d blocked _ {} (Queueing.start i _)

/-! ## Notices that are given up or claimed -/

theorem SmsChange.put {L : List (SmsRow × LockMode)} {s : SmsOffice} {n : AbsenceSmsNotice}
    (hlock : WriteLocked L (.notice key)) (hstep : NoticeStep i (s.notices key) (some n)) :
    SmsChange i L s (s.putNotice key n) := by
  refine .notices rfl fun k => ?_
  by_cases hk : k = key
  · subst hk
    simp only [SmsOffice.notices_putNotice, Function.update_self]
    exact .inr ⟨hlock, hstep⟩
  · simp only [SmsOffice.notices_putNotice]
    rw [Function.update_of_ne hk]
    exact .inl rfl

theorem SmsChange.refl (i : ℕ) (L : List (SmsRow × LockMode)) (s : SmsOffice) :
    SmsChange i L s s := .notices rfl fun _ => .inl rfl

theorem queueUnavailable_asserts (i : ℕ) (key : NoticeKey) :
    (queueUnavailable key).Asserts (smsOthers i) (SmsChange i) (fun _ s => s.Sound)
      SmsOffice.Sound [] fun s => s := by
  refine ⟨fun rows s => s.Sound ∧ (rows = [] ∨ rows = [SmsRow.notice key]), ?_,
    fun rows => (sound_kept i _).and (Change.keeps_const _ _ _), fun rows => ?_⟩
  · intro s hs
    refine ⟨hs, ?_⟩
    dsimp only
    split_ifs
    · exact .inr rfl
    · exact .inl rfl
  · rintro s ⟨hs, hrows⟩
    rcases hrows with rfl | rfl
    · exact ⟨SmsChange.refl i _ s, hs⟩
    · have hlock : WriteLocked [(SmsRow.notice key, LockMode.noKeyUpdate)] (.notice key) :=
        ⟨.noKeyUpdate, by decide, List.mem_cons_self⟩
      have hcommit : SmsChange i [(SmsRow.notice key, .noKeyUpdate)] s (s.failUnavailable key) := by
        unfold SmsOffice.failUnavailable
        cases hn : s.notices key with
        | none => exact SmsChange.refl i _ s
        | some n =>
          by_cases hqueued : n.status = .queued
          · simp only [hqueued, if_true]
            apply SmsChange.put hlock
            rw [hn]
            exact .gaveUp hqueued rfl
          · simp only [hqueued, if_false]
            exact SmsChange.refl i _ s
      exact ⟨hcommit, hcommit.sound hs⟩

/-- What a run of the sending task knows when it has claimed a notice and is about to call the
provider. -/
def Claimed (i : ℕ) (key : NoticeKey) : Option (SmsProvider × String) → SmsOffice → Prop
  | none, s => s.Sound
  | some (_, mobile), s => ∃ n, recipientHash mobile = n.recipientHash ∧ s.Sound ∧
      s.SentBy i key n ∧ ∀ c ∈ s.calls, c.key = key → c.ended = some .failed

theorem claimed_kept (i : ℕ) (key : NoticeKey) (held : List (SmsRow × LockMode))
    (b : Option (SmsProvider × String)) : (smsOthers i).Keeps held (Claimed i key b) := by
  cases b with
  | none => exact sound_kept i held
  | some p =>
    rintro L s s' hcompat hR ⟨n, hhash, hs⟩
    exact ⟨n, hhash, sentBy_kept held n (fun o => o = some .failed) L s s' hcompat hR hs⟩

section Claim

variable {held : List (SmsRow × LockMode)} {notice : AbsenceSmsNotice}

theorem failBeforeSend_asserts (hlock : WriteLocked held (.notice key))
    (hqueued : notice.status = .queued) (code : String) :
    (failBeforeSend key notice code).Asserts (smsOthers i) (SmsChange i) (Claimed i key)
      (fun s => s.Sound ∧ s.notices key = some notice) held fun s => s := by
  rintro s ⟨hs, hn⟩
  have hcommit : SmsChange i held s
      (s.putNotice key { notice with status := .failed, failureCode := code }) := by
    apply SmsChange.put hlock
    rw [hn]
    exact .gaveUp hqueued rfl
  exact ⟨hcommit, hcommit.sound hs⟩

theorem SmsFacts.readyToSend_hash {facts : SmsFacts} {x : SchoolSmsIntegration} {y : Student}
    (h : facts.readyToSend key notice = some (x, y)) :
    recipientHash y.guardianMobile = notice.recipientHash := by
  unfold SmsFacts.readyToSend at h
  split at h
  · split_ifs at h with hready
    cases h
    exact hready.2.2.2.1
  · cases h

theorem claimNotice_asserts (i : ℕ) (decryptSecret : String → Option String) (now : Instant)
    (key : NoticeKey) :
    (claimNotice i decryptSecret now key).Asserts (smsOthers i) (SmsChange i) (Claimed i key)
      SmsOffice.Sound [] fun s => s := by
  have hlock : WriteLocked [(SmsRow.notice key, LockMode.update)] (.notice key) :=
    .of_update List.mem_cons_self
  have hsame : ∀ s : SmsOffice, s.Sound → SmsChange i [(SmsRow.notice key, .update)] s s ∧
      s.Sound := fun s hs => ⟨SmsChange.refl i _ s, hs⟩
  unfold claimNotice
  refine Tx.Asserts.selectForUpdate (fun b s => s.Sound ∧ s.notices key = b) (sound_kept i _)
    (fun s hs => ⟨hs, rfl⟩) (notice_kept hlock) fun found => ?_
  cases found with
  | none => exact fun s hs => hsame s hs.1
  | some notice =>
    by_cases hqueued : notice.status = .queued
    · simp only [hqueued, ne_eq, not_true_eq_false, if_false]
      refine Tx.Asserts.select_any (notice_kept hlock _) fun entitled => ?_
      cases entitled with
      | false => exact failBeforeSend_asserts hlock hqueued _
      | true =>
        refine Tx.Asserts.select_fact (fun b => ∀ x y, b = some (x, y) →
          recipientHash y.guardianMobile = notice.recipientHash)
          (fun s _ x y hxy => SmsFacts.readyToSend_hash hxy) (notice_kept hlock _)
          fun ready hready => ?_
        cases ready with
        | none => exact failBeforeSend_asserts hlock hqueued _
        | some p =>
          obtain ⟨integration, student⟩ := p
          dsimp only
          cases decryptSecret integration.secretEncrypted with
          | none => exact failBeforeSend_asserts hlock hqueued _
          | some secret =>
            by_cases hname : Text.strip student.fullName.toList = []
            · simp only [hname, if_true]
              trivial
            · simp only [hname, if_false]
              rintro s ⟨hs, hn⟩
              have hcommit : SmsChange i [(SmsRow.notice key, .update)] s
                  (s.putNotice key { notice with
                    status := .sending, attemptedAt := some now, sender := some i }) := by
                apply SmsChange.put hlock
                rw [hn]
                exact .claimed hqueued rfl rfl
              -- The notice is queued, so that all attempts for it have failed.
              have hfailed : s.AllFailed key := by
                apply hs key
                intro n hn'
                rw [hn, Option.some.injEq] at hn'
                rw [← hn']
                exact .inl hqueued
              refine ⟨hcommit, { notice with
                status := .sending, attemptedAt := some now, sender := some i },
                hready integration student rfl, hcommit.sound hs, ⟨?_, rfl, rfl⟩, hfailed⟩
              simp
    · simp only [hqueued, ne_eq, not_false_eq_true, if_true]
      exact fun s hs => hsame s hs.1

end Claim

/-- The attempt is under way: whatever else has been tried has failed. -/
def Attempting (i : ℕ) (key : NoticeKey) (n : AbsenceSmsNotice) (s : SmsOffice) : Prop :=
  s.Sound ∧ s.SentBy i key n ∧
    ∀ c ∈ s.calls, c.key = key → c.ended = none ∨ c.ended = some .failed

theorem attempting_kept (held : List (SmsRow × LockMode)) (n : AbsenceSmsNotice) :
    (smsOthers i).Keeps held (Attempting i key n) :=
  sentBy_kept held n fun o => o = none ∨ o = some .failed

theorem call_asserts (n : AbsenceSmsNotice) {mobile : String}
    (hhash : recipientHash mobile = n.recipientHash) :
    (Tx.update fun s => s.call key mobile : SmsTransaction Unit).Asserts (smsOthers i)
      (SmsChange i) (fun _ => Attempting i key n)
      (fun s => s.Sound ∧ s.SentBy i key n ∧ ∀ c ∈ s.calls, c.key = key → c.ended = some .failed)
      [] fun s => s := by
  rintro s ⟨hs, hmine, hfailed⟩
  have hcommit : SmsChange i [] s (s.call key mobile) := .called hmine hhash hfailed
  refine ⟨hcommit, hcommit.sound hs, hmine, fun c hc hkey => ?_⟩
  rcases SmsOffice.mem_call hc with hc | rfl
  · exact .inr (hfailed c hc hkey)
  · exact .inl rfl

theorem finishNotice_asserts (n : AbsenceSmsNotice) (now : Instant) {status : AbsenceSmsStatus}
    (hover : status = .accepted ∨ status = .failed ∨ status = .unknown) (code : String)
    (reference : Text) :
    (finishNotice now key status code reference).Asserts (smsOthers i) (SmsChange i)
      (fun _ s => s.Sound) (Attempting i key n) [] fun s => s := by
  unfold finishNotice
  refine Tx.Asserts.selectForUpdate (fun b s => Attempting i key n s ∧ b = some n)
    (attempting_kept [] n) (fun s hs => ⟨hs, hs.2.1.1⟩)
    (fun b => (attempting_kept _ n).and (Change.keeps_const _ _ _)) fun found =>
      Tx.Asserts.of_and ?_
  rintro rfl
  dsimp only
  by_cases hstatus : n.status ≠ .sending
  · rw [if_pos hstatus]
    exact fun s hs => ⟨SmsChange.refl i _ s, hs.1⟩
  rw [if_neg hstatus]
  by_cases hcode : 40 < code.length
  · rw [if_pos hcode]
    trivial
  · rw [if_neg hcode]
    rintro s ⟨hs, hmine, hearlier⟩
    have hcommit : SmsChange i [(SmsRow.notice key, .update)] s ((s.putNotice key
        { n with
          status := status
          failureCode := code
          providerReference := reference.take 100
          acceptedAt := if status = .accepted then some now else n.acceptedAt }).endCalls
            key status) :=
      .finished (.of_update List.mem_cons_self) hmine rfl hover hearlier
    exact ⟨hcommit, hcommit.sound hs⟩

theorem recordOutcome_asserts (n : AbsenceSmsNotice) (now : Instant) (outcome : SmsOutcome) :
    (recordOutcome now key outcome).Asserts (smsOthers i) (SmsChange i) (fun _ s => s.Sound)
      (Attempting i key n) [] fun s => s := by
  cases outcome with
  | result reference => exact finishNotice_asserts n now (.inl rfl) _ _
  | providerError code ambiguous =>
    cases ambiguous with
    | true => exact finishNotice_asserts n now (.inr (.inr rfl)) _ _
    | false => exact finishNotice_asserts n now (.inr (.inl rfl)) _ _
  | otherException => exact finishNotice_asserts n now (.inr (.inr rfl)) _ _

theorem sendAbsenceNotice_asserts (i : ℕ) (decryptSecret : String → Option String)
    (now finished : Instant) (key : NoticeKey) (answer : HttpOutcome) :
    (sendAbsenceNotice i decryptSecret now finished key answer).Asserts (smsOthers i) (SmsChange i)
      (fun _ _ => True) SmsOffice.Sound := by
  refine Program.Asserts.peek_any (sound_kept i []) fun known => ?_
  cases known with
  | false => exact fun _ _ => trivial
  | true =>
    refine ⟨Claimed i key, claimNotice_asserts i decryptSecret now key, claimed_kept i key [],
      fun claimed => ?_⟩
    cases claimed with
    | none => exact fun _ _ => trivial
    | some p =>
      obtain ⟨provider, mobile⟩ := p
      apply Program.Asserts.exists
      intro n
      suffices hcalled : recipientHash mobile = n.recipientHash →
          ((Program.transaction (Tx.update fun s => s.call key mobile)).bind fun _ =>
            Program.transaction (recordOutcome finished key (sendSms provider answer)) :
            SmsProgram Unit).Asserts (smsOthers i) (SmsChange i) (fun _ _ => True)
            fun s => s.Sound ∧ s.SentBy i key n ∧
              ∀ c ∈ s.calls, c.key = key → c.ended = some .failed from
        (Program.Asserts.of_and hcalled).mono fun s hs => ⟨hs.2, hs.1⟩
      intro hhash
      exact ⟨_, call_asserts n hhash, fun _ => attempting_kept [] n, fun _ =>
        ⟨_, recordOutcome_asserts n finished _, fun _ => sound_kept i [], fun _ _ _ => trivial⟩⟩

theorem queueAbsenceSms_asserts (i actor : ℕ) (d : Date) (studentIds : List ℕ)
    (brokerDown : ℕ → Bool) :
    (queueAbsenceSms actor d studentIds brokerDown).Asserts (smsOthers i) (SmsChange i)
      (fun _ _ => True) SmsOffice.Sound := by
  have hloop : ∀ keys : List NoticeKey, (Program.forEach (fun key : NoticeKey =>
      if brokerDown key.student then Program.transaction (queueUnavailable key) else .ret ())
      keys : SmsProgram Unit).Asserts (smsOthers i) (SmsChange i) (fun _ _ => True)
        SmsOffice.Sound := by
    intro keys
    induction keys with
    | nil => exact fun _ _ => trivial
    | cons key keys ih =>
      unfold Program.forEach
      by_cases hdown : brokerDown key.student = true
      · simp only [hdown, if_true]
        exact ⟨_, queueUnavailable_asserts i key, fun _ => sound_kept i [], fun _ => ih⟩
      · simp only [hdown, if_false, Bool.false_eq_true]
        exact ih
  refine Program.Asserts.peek_any (sound_kept i []) fun hasFeature => ?_
  cases hasFeature with
  | false => trivial
  | true =>
    show Program.Asserts _ _ _ _ (if studentIds = [] ∨ MAX_SEND_BATCH < studentIds.length ∨
      ¬ studentIds.Nodup then _ else _)
    split_ifs with hselection
    · trivial
    · exact ⟨_, queueAbsences_asserts i actor d studentIds, fun _ => sound_kept i [],
        fun result => hloop result.queued⟩

theorem SmsCall.asserts (decryptSecret : String → Option String) (i : ℕ) (call : SmsCall) :
    (call.program decryptSecret i).Asserts (smsOthers i) (SmsChange i) (fun _ _ => True)
      SmsOffice.Sound := by
  cases call with
  | queue actor d studentIds brokerDown => exact queueAbsenceSms_asserts i actor d studentIds _
  | send now finished key answer => exact sendAbsenceNotice_asserts i decryptSecret now finished _ _
  | changeFacts f =>
    refine ⟨fun _ s => s.Sound, fun s hs => ?_, fun _ => sound_kept i [], fun _ _ _ => trivial⟩
    have hcommit : SmsChange i [] s { s with facts := f s.facts } :=
      .notices rfl fun _ => .inl rfl
    exact ⟨hcommit, hcommit.sound hs⟩

end SchoolPlatform
