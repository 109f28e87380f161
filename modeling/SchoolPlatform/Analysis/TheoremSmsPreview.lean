import SchoolPlatform.Model.SmsPreview

/-!
# The preview of absence messages and their queueing agree

Both read the absences of a date, the blocks of recipients and the notices. Queueing classifies the
chosen students one after another (`eval_queueNotices`), the preview all of them from what it has
fetched; on one state of the school both come to the same result.
-/

namespace SchoolPlatform

open ReadCommitted

variable {s : SmsOffice} {d : Date}

variable {school : School} {p : DailyAttendanceSummary × Student} {ids : List ℕ} {x : ℕ}
  {mobile : String}

def SmsOffice.queueable (s : SmsOffice) (key : NoticeKey) : Bool :=
  (s.notices key).all fun n => n.status = .failed

theorem SmsOffice.queueable_putNotice {key k : NoticeKey} (n : AbsenceSmsNotice) (h : k ≠ key) :
    (s.putNotice key n).queueable k = s.queueable k := by
  have hnotice : (s.putNotice key n).notices k = s.notices k := Function.update_of_ne h _ _
  unfold queueable
  rw [hnotice]

/-- A notice that has failed, as it is queued again. -/
def AbsenceSmsNotice.requeued (n fresh : AbsenceSmsNotice) : AbsenceSmsNotice :=
  { n with
    absenceStatus := fresh.absenceStatus
    provider := fresh.provider
    recipientHash := fresh.recipientHash
    requestedBy := fresh.requestedBy
    status := .queued
    failureCode := ""
    providerReference := []
    acceptedAt := none
    attempts := n.attempts + 1 }

theorem eval_queueNotice (key : NoticeKey) (fresh : AbsenceSmsNotice) (s : SmsOffice) :
    ∃ s', (queueNotice key fresh).eval s = .ok (s.queueable key, s') ∧
      ∀ k, k ≠ key → s'.queueable k = s.queueable k := by
  cases hnotice : s.notices key with
  | none =>
    have heval : (queueNotice key fresh).eval s = .ok (s.queueable key, s.putNotice key fresh) := by
      simp [queueNotice, getOrCreateNotice, SmsOffice.queueable, hnotice]
    exact ⟨_, heval, fun k hk => SmsOffice.queueable_putNotice fresh hk⟩
  | some n =>
    by_cases hfailed : n.status = .failed
    · have heval : (queueNotice key fresh).eval s =
          .ok (s.queueable key, s.putNotice key (n.requeued fresh)) := by
        simp [queueNotice, getOrCreateNotice, SmsOffice.queueable, hnotice, hfailed,
          AbsenceSmsNotice.requeued]
      exact ⟨_, heval, fun k hk => SmsOffice.queueable_putNotice _ hk⟩
    · refine ⟨s, ?_, fun _ _ => rfl⟩
      simp [queueNotice, getOrCreateNotice, SmsOffice.queueable, hnotice, hfailed]

/-- **All chosen students**: who is blocked, queued and skipped is decided by the state before. -/
theorem eval_queueNotices (actor : ℕ) (provider : SmsProvider) (d : Date) (blocked : ℕ → Bool)
    (rows : List (DailyAttendanceSummary × Student)) :
    ∀ (acc : QueueResult) (s : SmsOffice), (rows.map fun p => p.1.student).Nodup →
      ∃ s', (queueNotices actor provider d blocked rows acc).eval s = .ok
        ({ queued := acc.queued ++ ((rows.map fun p => p.1.student).filter fun x =>
            !blocked x && s.queueable ⟨x, d⟩).map fun x => ⟨x, d⟩
           skipped := acc.skipped ++ (rows.map fun p => p.1.student).filter fun x =>
            !blocked x && !s.queueable ⟨x, d⟩
           blocked := acc.blocked ++ (rows.map fun p => p.1.student).filter blocked }, s') := by
  induction rows with
  | nil =>
    intro acc s _
    exact ⟨s, by simp [queueNotices]⟩
  | cons p rows ih =>
    intro acc s hnodup
    rw [List.map_cons, List.nodup_cons] at hnodup
    unfold queueNotices
    dsimp only
    by_cases hblocked : blocked p.1.student = true
    · rw [if_pos hblocked]
      obtain ⟨s', heval⟩ := ih { acc with blocked := acc.blocked ++ [p.1.student] } s hnodup.2
      exact ⟨s', by rw [heval]; simp [hblocked]⟩
    · rw [if_neg hblocked]
      obtain ⟨s₁, hfirst, hsame⟩ :=
        eval_queueNotice ⟨p.1.student, d⟩ (freshNotice actor provider p) s
      have hothers : ∀ x ∈ rows.map (fun p => p.1.student),
          s₁.queueable ⟨x, d⟩ = s.queueable ⟨x, d⟩ := by
        intro x hx
        refine hsame _ fun heq => hnodup.1 ?_
        rw [NoticeKey.mk.injEq] at heq
        exact heq.1 ▸ hx
      have hqueued : (rows.map fun p => p.1.student).filter (fun x =>
          !blocked x && s₁.queueable ⟨x, d⟩) = (rows.map fun p => p.1.student).filter fun x =>
            !blocked x && s.queueable ⟨x, d⟩ :=
        List.filter_congr fun x hx => by rw [hothers x hx]
      have hskipped : (rows.map fun p => p.1.student).filter (fun x =>
          !blocked x && !s₁.queueable ⟨x, d⟩) = (rows.map fun p => p.1.student).filter fun x =>
            !blocked x && !s.queueable ⟨x, d⟩ :=
        List.filter_congr fun x hx => by rw [hothers x hx]
      rw [Tx.bind_eq, Tx.eval_bind, hfirst]
      dsimp only
      by_cases hqueue : s.queueable ⟨p.1.student, d⟩ = true
      · obtain ⟨s', heval⟩ :=
          ih { acc with queued := acc.queued ++ [⟨p.1.student, d⟩] } s₁ hnodup.2
        refine ⟨s', ?_⟩
        rw [if_pos hqueue, heval, hqueued, hskipped]
        simp [hblocked, hqueue]
      · obtain ⟨s', heval⟩ :=
          ih { acc with skipped := acc.skipped ++ [p.1.student] } s₁ hnodup.2
        refine ⟨s', ?_⟩
        rw [if_neg hqueue, heval, hqueued, hskipped]
        simp [hblocked, hqueue]

theorem School.student_of_candidate (hp : p ∈ school.candidateAbsences d) :
    school.student? p.1.student = some p.2 := by
  obtain ⟨r, -, hr⟩ := List.mem_filterMap.mp hp
  split at hr
  · obtain ⟨x, hx, hactive⟩ := Option.bind_eq_some_iff.mp hr
    split at hactive
    · cases hactive
      exact hx
    · cases hactive
  · cases hr

theorem School.candidate_of_eligible (hp : p ∈ school.eligibleAbsences d) :
    p ∈ school.candidateAbsences d :=
  List.mem_of_mem_filter hp

theorem School.student_unique {q : DailyAttendanceSummary × Student}
    (hp : p ∈ school.candidateAbsences d) (hq : q ∈ school.candidateAbsences d)
    (heq : p.1.student = q.1.student) : p.2 = q.2 := by
  have hstudent := School.student_of_candidate hp
  rw [heq, School.student_of_candidate hq] at hstudent
  exact (Option.some.inj hstudent).symm

/-- The student has an absence that counts, of which a message could go to the number. -/
def SmsOffice.Reachable (s : SmsOffice) (d : Date) (student : ℕ) (mobile : String) : Prop :=
  ∃ p ∈ s.facts.school.eligibleAbsences d, p.1.student = student ∧ p.2.guardianMobile = mobile ∧
    recipientIssue mobile = none

/-- The student can be queued: he can be reached, nobody has blocked the number, and no message has
been queued before or it has failed. -/
def SmsOffice.Selectable (s : SmsOffice) (d : Date) (student : ℕ) : Prop :=
  ∃ mobile, s.Reachable d student mobile ∧ s.facts.recipientBlocked student mobile = false ∧
    s.queueable ⟨student, d⟩ = true

/-! ## The transaction -/

def SmsOffice.chosen (s : SmsOffice) (d : Date) (ids : List ℕ) :
    List (DailyAttendanceSummary × Student) :=
  (s.facts.school.eligibleAbsences d).filter fun p => p.1.student ∈ ids

theorem SmsOffice.mem_chosen :
    p ∈ s.chosen d ids ↔ p ∈ s.facts.school.eligibleAbsences d ∧ p.1.student ∈ ids := by
  unfold chosen
  rw [List.mem_filter, decide_eq_true_eq]

theorem SmsOffice.length_chosen (hids : ids.Nodup) :
    (Dict.ofList ((s.chosen d ids).map fun p => (p.1.student, p))).length = ids.length ↔
      ∀ x ∈ ids, ∃ p ∈ s.chosen d ids, p.1.student = x := by
  have hkeys := Dict.nodup_keys_ofList ((s.chosen d ids).map fun p => (p.1.student, p))
  have hmem : ∀ x, x ∈ (Dict.ofList ((s.chosen d ids).map fun p => (p.1.student, p))).keys ↔
      ∃ p ∈ s.chosen d ids, p.1.student = x := by
    intro x
    rw [Dict.mem_keys_ofList, List.map_map, List.mem_map]
    rfl
  have hlength : (Dict.ofList ((s.chosen d ids).map fun p => (p.1.student, p))).length =
      (Dict.ofList ((s.chosen d ids).map fun p => (p.1.student, p))).keys.length :=
    (List.length_map _).symm
  have hsub : (Dict.ofList ((s.chosen d ids).map fun p => (p.1.student, p))).keys ⊆ ids := by
    intro x hx
    obtain ⟨p, hp, rfl⟩ := (hmem x).mp hx
    exact (mem_chosen.mp hp).2
  rw [hlength]
  constructor
  · intro h x hx
    have hperm := (hkeys.subperm hsub).perm_of_length_le (by omega)
    exact (hmem x).mp (hperm.mem_iff.mpr hx)
  · intro h
    refine (List.Perm.length_eq ?_)
    exact (List.perm_ext_iff_of_nodup hkeys hids).mpr fun x =>
      ⟨fun hx => hsub hx, fun hx => (hmem x).mpr (h x hx)⟩

theorem map_filterMap_self {α β : Type} {f : α → Option β} {g : β → α} {l : List α}
    (h : ∀ a ∈ l, ∃ b, f a = some b ∧ g b = a) : (l.filterMap f).map g = l := by
  induction l with
  | nil => rfl
  | cons a l ih =>
    obtain ⟨b, hb, hg⟩ := h a List.mem_cons_self
    rw [List.filterMap_cons_some hb, List.map_cons, hg,
      ih fun a ha => h a (List.mem_cons_of_mem _ ha)]

def SmsOffice.blockedChoice (s : SmsOffice) (d : Date) (ids : List ℕ) (student : ℕ) : Bool :=
  (s.chosen d ids).any fun p =>
    p.1.student = student ∧ s.facts.recipientBlocked student p.2.guardianMobile

theorem SmsOffice.blockedChoice_eq (hx : x ∈ ids) (h : s.Reachable d x mobile) :
    s.blockedChoice d ids x = s.facts.recipientBlocked x mobile := by
  obtain ⟨p, hp, rfl, rfl, -⟩ := h
  rw [Bool.eq_iff_iff]
  unfold blockedChoice
  rw [List.any_eq_true]
  constructor
  · rintro ⟨q, hq, hblocked⟩
    rw [decide_eq_true_eq] at hblocked
    have hsame := School.student_unique (School.candidate_of_eligible (mem_chosen.mp hq).1)
      (School.candidate_of_eligible hp) hblocked.1
    rw [← hsame]
    exact hblocked.2
  · exact fun h => ⟨p, mem_chosen.mpr ⟨hp, hx⟩, decide_eq_true ⟨rfl, h⟩⟩

def SmsOffice.queueResult (s : SmsOffice) (d : Date) (ids : List ℕ) : QueueResult where
  queued := (ids.filter fun x => !s.blockedChoice d ids x && s.queueable ⟨x, d⟩).map
    fun x => ⟨x, d⟩
  skipped := ids.filter fun x => !s.blockedChoice d ids x && !s.queueable ⟨x, d⟩
  blocked := ids.filter (s.blockedChoice d ids)

theorem SmsOffice.reachable_of_checks (hall : ∀ x ∈ ids, ∃ p ∈ s.chosen d ids, p.1.student = x)
    (hissue : ∀ p ∈ s.chosen d ids, recipientIssue p.2.guardianMobile = none) :
    ∀ x ∈ ids, ∃ mobile, s.Reachable d x mobile := by
  intro x hx
  obtain ⟨p, hp, hstudent⟩ := hall x hx
  exact ⟨_, p, (mem_chosen.mp hp).1, hstudent, rfl, hissue p hp⟩

theorem SmsOffice.checks_of_reachable (h : ∀ x ∈ ids, ∃ mobile, s.Reachable d x mobile) :
    (∀ x ∈ ids, ∃ p ∈ s.chosen d ids, p.1.student = x) ∧
      ∀ p ∈ s.chosen d ids, recipientIssue p.2.guardianMobile = none := by
  constructor
  · intro x hx
    obtain ⟨mobile, p, hp, rfl, -, -⟩ := h x hx
    exact ⟨p, mem_chosen.mpr ⟨hp, hx⟩, rfl⟩
  · intro p hp
    obtain ⟨heligible, hmem⟩ := mem_chosen.mp hp
    obtain ⟨mobile, q, hq, hstudent, rfl, hissue⟩ := h _ hmem
    have hsame := School.student_unique (School.candidate_of_eligible heligible)
      (School.candidate_of_eligible hq) hstudent.symm
    rw [hsame]
    exact hissue

/-- **The transaction** ends with a result exactly when all chosen students can be reached. -/
theorem eval_queueAbsences (hids : ids.Nodup) (actor : ℕ)
    (hactive : (s.facts.integration.filter fun x => x.isActive) ≠ none) :
    ((∀ x ∈ ids, ∃ mobile, s.Reachable d x mobile) ∧
        ∃ s', (queueAbsences actor d ids).eval s = .ok (s.queueResult d ids, s')) ∨
      ¬ (∀ x ∈ ids, ∃ mobile, s.Reachable d x mobile) ∧
        ∃ e, (queueAbsences actor d ids).eval s = .error e := by
  obtain ⟨integration, hintegration⟩ := Option.ne_none_iff_exists'.mp hactive
  by_cases hreach : ∀ x ∈ ids, ∃ mobile, s.Reachable d x mobile
  · refine .inl ⟨hreach, ?_⟩
    obtain ⟨hall, hissue⟩ := SmsOffice.checks_of_reachable hreach
    have hlength := (SmsOffice.length_chosen hids).mpr hall
    have hempty : (s.chosen d ids).any (fun p => decide (p.2.guardianMobile = "")) = false := by
      rw [List.any_eq_false]
      intro p hp hmobile
      have hnone := hissue p hp
      rw [of_decide_eq_true hmobile] at hnone
      cases hnone
    have hvalid : (s.chosen d ids).any
        (fun p => (recipientIssue p.2.guardianMobile).isSome) = false := by
      rw [List.any_eq_false]
      intro p hp
      rw [hissue p hp]
      exact Bool.false_ne_true
    have hrows : (ids.filterMap fun x => (s.chosen d ids).find? fun p => p.1.student = x).map
        (fun p => p.1.student) = ids := by
      refine map_filterMap_self fun x hx => ?_
      obtain ⟨p, hp, hstudent⟩ := hall x hx
      cases hfind : (s.chosen d ids).find? fun p => p.1.student = x with
      | none => exact absurd hstudent (by simpa using List.find?_eq_none.mp hfind p hp)
      | some q => exact ⟨q, rfl, by simpa using List.find?_some hfind⟩
    have hnodup : ((ids.filterMap fun x => (s.chosen d ids).find? fun p => p.1.student = x).map
        (fun p => p.1.student)).Nodup := by
      rw [hrows]
      exact hids
    obtain ⟨s', heval⟩ := eval_queueNotices actor integration.provider d (s.blockedChoice d ids)
      _ {} s hnodup
    refine ⟨s', ?_⟩
    rw [hrows] at heval
    unfold SmsOffice.chosen at hlength hempty hvalid heval
    unfold queueAbsences
    simp only [Tx.bind_eq, Tx.eval_bind, Tx.eval_selectForUpdate, hintegration, Tx.eval_select]
    rw [if_neg (not_not_intro hlength), if_neg (by rw [hempty]; decide),
      if_neg (by rw [hvalid]; decide)]
    simp only [Tx.eval_bind, Tx.eval_select]
    exact heval
  · refine .inr ⟨hreach, ?_⟩
    unfold queueAbsences
    simp only [Tx.bind_eq, Tx.eval_bind, Tx.eval_selectForUpdate, hintegration, Tx.eval_select]
    split
    · exact ⟨_, rfl⟩
    · rename_i hlength
      split
      · exact ⟨_, rfl⟩
      · split
        · exact ⟨_, rfl⟩
        · rename_i hvalid
          refine absurd (SmsOffice.reachable_of_checks
            ((SmsOffice.length_chosen hids).mp (not_not.mp hlength)) fun p hp => ?_) hreach
          have hnone := List.any_eq_false.mp (Bool.eq_false_iff.mpr hvalid) p hp
          exact Option.not_isSome_iff_eq_none.mp hnone

theorem run_unavailable (brokerDown : ℕ → Bool) (keys : List NoticeKey) : ∀ s : SmsOffice,
    ∃ s', (Program.forEach (fun key : NoticeKey =>
      if brokerDown key.student then Program.transaction (queueUnavailable key)
      else (.ret () : SmsProgram Unit)) keys).run s = (.ok (), s') := by
  induction keys with
  | nil => exact fun s => ⟨s, rfl⟩
  | cons key keys ih =>
    intro s
    unfold Program.forEach
    rw [Program.run_bind]
    by_cases hdown : brokerDown key.student = true
    · obtain ⟨s', hrest⟩ := ih ((Program.transaction (queueUnavailable key)).run s).2
      exact ⟨s', by rw [if_pos hdown]; exact hrest⟩
    · obtain ⟨s', hrest⟩ := ih s
      exact ⟨s', by rw [if_neg hdown]; exact hrest⟩

def absenceSmsMissing : Failure := .api (featureNotIncluded "ABSENCE_SMS" "رسائل الغياب")

theorem run_queueAbsenceSmsResult (hne : ids ≠ []) (hids : ids.Nodup)
    (hsize : ids.length ≤ MAX_SEND_BATCH) (actor : ℕ) (brokerDown : ℕ → Bool)
    (hfeature : s.facts.hasAbsenceSms = true)
    (hactive : (s.facts.integration.filter fun x => x.isActive) ≠ none) :
    ((∀ x ∈ ids, ∃ mobile, s.Reachable d x mobile) ∧
        ∃ s', (queueAbsenceSmsResult actor d ids brokerDown).run s =
          (.ok (s.queueResult d ids), s')) ∨
      ¬ (∀ x ∈ ids, ∃ mobile, s.Reachable d x mobile) ∧
        ∃ e, (queueAbsenceSmsResult actor d ids brokerDown).run s = (.error e, s) := by
  have hselection : ¬ (ids = [] ∨ MAX_SEND_BATCH < ids.length ∨ ¬ ids.Nodup) := by
    rintro (h | h | h)
    · exact hne h
    · omega
    · exact h hids
  unfold queueAbsenceSmsResult
  simp only [Program.bind_eq]
  show ((∀ x ∈ ids, ∃ mobile, s.Reachable d x mobile) ∧ ∃ s',
      Program.run (if (!s.facts.hasAbsenceSms) = true then _ else _) s = _) ∨
    ¬ (∀ x ∈ ids, ∃ mobile, s.Reachable d x mobile) ∧ ∃ e,
      Program.run (if (!s.facts.hasAbsenceSms) = true then _ else _) s = _
  rw [hfeature, if_neg (by decide), if_neg hselection]
  rcases eval_queueAbsences hids actor hactive with ⟨hreach, s', heval⟩ | ⟨hreach, e, heval⟩
  · obtain ⟨s'', hrest⟩ := run_unavailable brokerDown (s.queueResult d ids).queued s'
    refine .inl ⟨hreach, s'', ?_⟩
    rw [Program.run_transaction_ok heval, Program.run_bind, hrest]
    rfl
  · exact .inr ⟨hreach, e, Program.run_transaction_error heval⟩

theorem run_queue_missing (hfeature : s.facts.hasAbsenceSms = false) (actor : ℕ) (ids : List ℕ)
    (brokerDown : ℕ → Bool) :
    (queueAbsenceSmsResult actor d ids brokerDown).run s = (.error absenceSmsMissing, s) := by
  unfold queueAbsenceSmsResult
  show Program.run (if (!s.facts.hasAbsenceSms) = true then _ else _) s = _
  rw [hfeature, if_pos (by decide)]
  rfl

/-! ## What the preview selects -/

theorem recipientBlocked_iff {facts : SmsFacts} {student : ℕ} :
    facts.recipientBlocked student mobile = true ↔ ∃ b ∈ facts.contactBlocks,
      b.student = student ∧ b.mobileHash = recipientHash mobile ∧ b.resolved = false := by
  unfold SmsFacts.recipientBlocked
  simp only [List.any_eq_true, decide_eq_true_eq]

/-- **The bulk query** blocks the students whose own number is blocked. -/
theorem mem_blockedStudentIds {facts : SmsFacts} {rows : List (DailyAttendanceSummary × Student)}
    (hrows : ∀ p ∈ rows, p ∈ facts.school.candidateAbsences d) :
    x ∈ facts.blockedStudentIds (rows.map Prod.snd) ↔
      ∃ p ∈ rows, p.1.student = x ∧ facts.recipientBlocked x p.2.guardianMobile = true := by
  have hid : ∀ p ∈ rows, p.2.id = p.1.student := by
    intro p hp
    have hstudent := School.student_of_candidate (hrows p hp)
    unfold School.student? at hstudent
    simpa using List.find?_some hstudent
  unfold SmsFacts.blockedStudentIds
  rw [List.mem_map]
  constructor
  · rintro ⟨b, hb, rfl⟩
    obtain ⟨hmem, hfilter⟩ := List.mem_filter.mp hb
    rw [decide_eq_true_eq] at hfilter
    obtain ⟨hresolved, hmatch⟩ := hfilter
    obtain ⟨y, hy, hhash⟩ := (Option.any_eq_true _ _).mp hmatch
    obtain ⟨p, hp, rfl⟩ := List.mem_map.mp (List.mem_of_find?_eq_some hy)
    have hstudent : p.2.id = b.student := by simpa using List.find?_some hy
    refine ⟨p, hp, by rw [← hid p hp, hstudent], recipientBlocked_iff.mpr ?_⟩
    exact ⟨b, hmem, rfl, (of_decide_eq_true hhash).symm, hresolved⟩
  · rintro ⟨p, hp, rfl, hblocked⟩
    obtain ⟨b, hmem, hstudent, hhash, hresolved⟩ := recipientBlocked_iff.mp hblocked
    refine ⟨b, List.mem_filter.mpr ⟨hmem, decide_eq_true ⟨hresolved, ?_⟩⟩, hstudent⟩
    cases hfind : (rows.map Prod.snd).find? fun x => x.id = b.student with
    | none =>
      have hnone := List.find?_eq_none.mp hfind p.2 (List.mem_map_of_mem hp)
      exact absurd (decide_eq_true ((hid p hp).trans hstudent.symm)) hnone
    | some y =>
      obtain ⟨q, hq, rfl⟩ := List.mem_map.mp (List.mem_of_find?_eq_some hfind)
      have hother : q.2.id = b.student := by simpa using List.find?_some hfind
      have hsame : q.2 = p.2 := School.student_unique (hrows q hq) (hrows p hp)
        (by rw [← hid q hq, hother, hstudent])
      exact decide_eq_true (by rw [hsame, hhash])

theorem mem_inPreviewOrder {collation : Collation} {rows : List CandidateRow}
    {row : CandidateRow} : row ∈ inPreviewOrder collation rows ↔ row ∈ rows :=
  List.mem_insertionSort _

def SmsOffice.shownStates (s : SmsOffice) (staleBefore : Instant)
    (updatedAt : NoticeKey → Instant) (d : Date) (student : ℕ) :
    Option (AbsenceSmsStatus × String) :=
  (s.notices ⟨student, d⟩).map fun n =>
    (shownStatus staleBefore (updatedAt ⟨student, d⟩) n, n.failureCode)

theorem shown_queueable (staleBefore : Instant) (updatedAt : NoticeKey → Instant) (student : ℕ) :
    ((s.shownStates staleBefore updatedAt d student).map Prod.fst = none ∨
        (s.shownStates staleBefore updatedAt d student).map Prod.fst = some .failed) ↔
      s.queueable ⟨student, d⟩ = true := by
  unfold SmsOffice.shownStates SmsOffice.queueable
  cases s.notices ⟨student, d⟩ with
  | none => simp
  | some n =>
    simp only [Option.map_some, reduceCtorEq, false_or, Option.some.injEq, Option.all_some,
      decide_eq_true_eq, shownStatus]
    split
    next hsending =>
      rw [hsending.1]
      simp
    next => rfl

def SmsOffice.previewRows (s : SmsOffice) (collation : Collation) (d : Date) : List CandidateRow :=
  inPreviewOrder collation ((s.facts.school.candidateAbsences d).map s.facts.school.candidateRow)

def SmsOffice.previewEligible (s : SmsOffice) (collation : Collation) (d : Date) :
    List CandidateRow :=
  inPreviewOrder collation ((s.facts.school.eligibleAbsences d).map s.facts.school.candidateRow)

def SmsOffice.previewBlocked (s : SmsOffice) (collation : Collation) (d : Date) : List ℕ :=
  s.facts.blockedStudentIds ((s.previewRows collation d).map fun row => row.student)

theorem SmsOffice.mem_previewBlocked (collation : Collation) :
    x ∈ s.previewBlocked collation d ↔ ∃ p ∈ s.facts.school.candidateAbsences d,
      p.1.student = x ∧ s.facts.recipientBlocked x p.2.guardianMobile = true := by
  have hrows : (s.previewRows collation d).map (fun row => row.student) =
      ((s.previewRows collation d).map fun row => (row.summary, row.student)).map Prod.snd := by
    rw [List.map_map]
    rfl
  have hmem : ∀ p, p ∈ (s.previewRows collation d).map (fun row => (row.summary, row.student)) ↔
      p ∈ s.facts.school.candidateAbsences d := by
    intro p
    unfold previewRows
    rw [List.mem_map]
    constructor
    · rintro ⟨row, hrow, rfl⟩
      obtain ⟨q, hq, rfl⟩ := List.mem_map.mp (mem_inPreviewOrder.mp hrow)
      exact hq
    · exact fun hp => ⟨_, mem_inPreviewOrder.mpr (List.mem_map_of_mem hp), rfl⟩
  unfold previewBlocked
  rw [hrows, mem_blockedStudentIds fun p hp => (hmem p).mp hp]
  simp only [hmem]

/-- **What the preview selects** are the students that can be queued. -/
theorem SmsOffice.mem_selectableIds (collation : Collation) (staleBefore : Instant)
    (updatedAt : NoticeKey → Instant) :
    x ∈ selectableIds (s.previewBlocked collation d) (s.shownStates staleBefore updatedAt d)
      (s.previewEligible collation d) ↔ s.Selectable d x := by
  unfold selectableIds
  rw [List.mem_filter, decide_eq_true_eq, shown_queueable, List.mem_map]
  constructor
  · rintro ⟨⟨row, hrow, rfl⟩, hqueue⟩
    obtain ⟨hmem, hready⟩ := List.mem_filter.mp hrow
    rw [decide_eq_true_eq] at hready
    obtain ⟨p, hp, rfl⟩ := List.mem_map.mp (mem_inPreviewOrder.mp hmem)
    refine ⟨p.2.guardianMobile, ⟨p, hp, rfl, rfl, hready.1⟩, ?_, hqueue⟩
    rw [Bool.eq_false_iff]
    intro hblocked
    exact hready.2 ((s.mem_previewBlocked collation).mpr
      ⟨p, School.candidate_of_eligible hp, rfl, hblocked⟩)
  · rintro ⟨mobile, ⟨p, hp, rfl, rfl, hissue⟩, hblocked, hqueue⟩
    refine ⟨⟨s.facts.school.candidateRow p, List.mem_filter.mpr ⟨mem_inPreviewOrder.mpr
      (List.mem_map_of_mem hp), decide_eq_true ⟨hissue, fun hmem => ?_⟩⟩, rfl⟩, hqueue⟩
    obtain ⟨q, hq, hstudent, hother⟩ := (s.mem_previewBlocked collation).mp hmem
    rw [School.student_unique hq (School.candidate_of_eligible hp) hstudent] at hother
    exact Bool.false_ne_true (hblocked.symm.trans hother)

theorem SmsOffice.Reachable.unique {mobile' : String} (h : s.Reachable d x mobile)
    (h' : s.Reachable d x mobile') : mobile = mobile' := by
  obtain ⟨p, hp, hstudent, rfl, -⟩ := h
  obtain ⟨q, hq, hstudent', rfl, -⟩ := h'
  rw [School.student_unique (School.candidate_of_eligible hp) (School.candidate_of_eligible hq)
    (hstudent.trans hstudent'.symm)]

theorem SmsOffice.selectable_iff (hx : x ∈ ids) (h : s.Reachable d x mobile) :
    s.Selectable d x ↔ s.blockedChoice d ids x = false ∧ s.queueable ⟨x, d⟩ = true := by
  rw [SmsOffice.blockedChoice_eq hx h]
  constructor
  · rintro ⟨mobile', hreach, hblocked, hqueue⟩
    rw [h.unique hreach]
    exact ⟨hblocked, hqueue⟩
  · exact fun hx => ⟨mobile, h, hx.1, hx.2⟩

/-! ## Agreement -/

/-- A selection that is accepted: some students, not too many, each once. -/
def IsBatch (ids : List ℕ) : Prop := ids ≠ [] ∧ ids.Nodup ∧ ids.length ≤ MAX_SEND_BATCH

/-- The preview and queueing come to the same result. -/
structure SmsOffice.PreviewAgrees (s : SmsOffice) (d : Date) (collation : Collation)
    (preview : SmsPreview) : Prop where
  queued : ∀ actor batch brokerDown, IsBatch batch →
    (∀ x ∈ batch, x ∈ preview.selectableStudentIds) →
      ∃ s', (queueAbsenceSmsResult actor d batch brokerDown).run s =
        (.ok { queued := batch.map fun x => ⟨x, d⟩ }, s')
  /-- Of the students of any batch, the selectable ones are those that are neither skipped nor
  blocked. -/
  selected : ∀ actor batch brokerDown result s', IsBatch batch →
    (queueAbsenceSmsResult actor d batch brokerDown).run s = (.ok result, s') →
      ∀ x ∈ batch, x ∈ preview.selectableStudentIds ↔ x ∉ result.skipped ∧ x ∉ result.blocked
  blocked : ∀ x, x ∈ s.previewBlocked collation d ↔
    ∃ p ∈ s.facts.school.candidateAbsences d, p.1.student = x ∧
      s.facts.recipientBlocked x p.2.guardianMobile = true
  shown : ∀ entry ∈ preview.students, ∃ p ∈ s.facts.school.candidateAbsences d,
    p.1.student = entry.studentId ∧
      (entry.eligibilityReason = some "RECIPIENT_SECURITY_REVIEW" ↔
        p ∈ s.facts.school.eligibleAbsences d ∧ recipientIssue p.2.guardianMobile = none ∧
          s.facts.recipientBlocked p.1.student p.2.guardianMobile = true)

theorem recipientIssue_ne (mobile : String) :
    recipientIssue mobile ≠ some "RECIPIENT_SECURITY_REVIEW" := by
  unfold recipientIssue
  split
  · decide
  · split
    · decide
    · simp

theorem SmsOffice.eligibilityReason_review (collation : Collation)
    (hp : p ∈ s.facts.school.candidateAbsences d) :
    eligibilityReason (s.previewBlocked collation d) (s.facts.school.candidateRow p) =
        some "RECIPIENT_SECURITY_REVIEW" ↔
      p ∈ s.facts.school.eligibleAbsences d ∧ recipientIssue p.2.guardianMobile = none ∧
        s.facts.recipientBlocked p.1.student p.2.guardianMobile = true := by
  have heligible : p ∈ s.facts.school.eligibleAbsences d ↔
      0 < p.1.unexcusedAbsentPeriods ∧ 0 < p.1.submittedPeriods := by
    unfold School.eligibleAbsences
    rw [List.mem_filter, decide_eq_true_eq]
    exact ⟨fun h => h.2, fun h => ⟨hp, h⟩⟩
  have hblocked : p.1.student ∈ s.previewBlocked collation d ↔
      s.facts.recipientBlocked p.1.student p.2.guardianMobile = true := by
    rw [s.mem_previewBlocked collation]
    constructor
    · rintro ⟨q, hq, hstudent, h⟩
      rw [← School.student_unique hq hp hstudent]
      exact h
    · exact fun h => ⟨p, hp, rfl, h⟩
  rw [heligible, ← hblocked]
  unfold eligibilityReason School.candidateRow
  dsimp only
  by_cases hsubmitted : p.1.submittedPeriods = 0
  · rw [if_pos hsubmitted]
    exact iff_of_false (by decide) fun h => by omega
  rw [if_neg hsubmitted]
  by_cases hunexcused : p.1.unexcusedAbsentPeriods = 0
  · rw [if_pos hunexcused]
    exact iff_of_false (by decide) fun h => by omega
  rw [if_neg hunexcused]
  cases hissue : recipientIssue p.2.guardianMobile with
  | some issue =>
    rw [Option.isSome_some, if_pos rfl]
    refine iff_of_false (fun h => ?_) (by simp)
    exact recipientIssue_ne _ (hissue.trans h)
  | none =>
    rw [Option.isSome_none, if_neg Bool.false_ne_true]
    by_cases hmem : p.1.student ∈ s.previewBlocked collation d
    · rw [if_pos hmem]
      exact iff_of_true rfl ⟨⟨by omega, by omega⟩, rfl, hmem⟩
    · rw [if_neg hmem]
      exact iff_of_false (by simp) fun h => hmem h.2.2

theorem run_absencePreview (hfeature : s.facts.hasAbsenceSms = true) (now : Instant)
    (updatedAt : NoticeKey → Instant) (collation : Collation) (settings : Option String)
    (page : ℤ) : ∃ preview, (absencePreview now updatedAt collation settings d page).run s =
        (.ok preview, s) ∧
      preview.selectableStudentIds = selectableIds (s.previewBlocked collation d)
        (s.shownStates (now - 5 * 60 * 1000000) updatedAt d) (s.previewEligible collation d) ∧
      ∀ entry ∈ preview.students, ∃ row ∈ s.previewRows collation d, entry =
        candidatePayload (s.previewBlocked collation d)
          (s.shownStates (now - 5 * 60 * 1000000) updatedAt d) row := by
  have hrun : ∃ preview, (absencePreview now updatedAt collation settings d page).run s =
        (.ok preview, s) ∧
      preview.selectableStudentIds = selectableIds (s.previewBlocked collation d)
        (s.shownStates (now - 5 * 60 * 1000000) updatedAt d) (s.previewEligible collation d) ∧
      preview.students = (((s.previewRows collation d).drop
        ((max page.toNat 1 - 1) * MAX_SEND_BATCH)).take MAX_SEND_BATCH).map (candidatePayload
          (s.previewBlocked collation d) (s.shownStates (now - 5 * 60 * 1000000) updatedAt d)) := by
    unfold absencePreview
    simp only [Program.bind_eq]
    show ∃ preview, Program.run (if (!s.facts.hasAbsenceSms) = true then _ else _) s = _ ∧ _
    rw [hfeature, if_neg (by decide)]
    exact ⟨_, rfl, rfl, rfl⟩
  obtain ⟨preview, hrun, hselectable, hstudents⟩ := hrun
  refine ⟨preview, hrun, hselectable, fun entry hentry => ?_⟩
  rw [hstudents] at hentry
  obtain ⟨row, hrow, rfl⟩ := List.mem_map.mp hentry
  exact ⟨row, List.mem_of_mem_drop (List.mem_of_mem_take hrow), rfl⟩

/-- **The preview selects what can be queued.** In every state of a school with an active
integration, the preview and queueing agree on who is selected and who is blocked; without the
feature both raise the same error. -/
theorem absencePreview_agrees (s : SmsOffice) (d : Date)
    (hactive : (s.facts.integration.filter fun x => x.isActive) ≠ none) (now : Instant)
    (updatedAt : NoticeKey → Instant) (collation : Collation) (settings : Option String)
    (page : ℤ) :
    (s.facts.hasAbsenceSms = false ∧
      (absencePreview now updatedAt collation settings d page).run s =
        (.error absenceSmsMissing, s) ∧
      ∀ actor batch brokerDown, (queueAbsenceSmsResult actor d batch brokerDown).run s =
        (.error absenceSmsMissing, s)) ∨
    ∃ preview, (absencePreview now updatedAt collation settings d page).run s = (.ok preview, s) ∧
      s.PreviewAgrees d collation preview := by
  by_cases hfeature : s.facts.hasAbsenceSms = true
  · obtain ⟨preview, hrun, hselectable, hstudents⟩ :=
      run_absencePreview hfeature now updatedAt collation settings page
    have hmem : ∀ x, x ∈ preview.selectableStudentIds ↔ s.Selectable d x := by
      intro x
      rw [hselectable]
      exact s.mem_selectableIds collation _ updatedAt
    refine .inr ⟨preview, hrun, ?_, ?_, fun x => s.mem_previewBlocked collation, ?_⟩
    · intro actor batch brokerDown hbatch hselected
      have hall : ∀ x ∈ batch, s.blockedChoice d batch x = false ∧
          s.queueable ⟨x, d⟩ = true := by
        intro x hx
        obtain ⟨mobile, hreach, hrest⟩ := (hmem x).mp (hselected x hx)
        exact (SmsOffice.selectable_iff hx hreach).mp ⟨mobile, hreach, hrest⟩
      rcases run_queueAbsenceSmsResult hbatch.1 hbatch.2.1 hbatch.2.2 actor brokerDown hfeature
        hactive with ⟨-, s', hqueue⟩ | ⟨hreach, -⟩
      · refine ⟨s', hqueue.trans ?_⟩
        have hqueued : batch.filter (fun x =>
            !s.blockedChoice d batch x && s.queueable ⟨x, d⟩) = batch :=
          List.filter_eq_self.mpr fun x hx => by rw [(hall x hx).1, (hall x hx).2]; rfl
        have hskipped : batch.filter (fun x =>
            !s.blockedChoice d batch x && !s.queueable ⟨x, d⟩) = [] :=
          List.filter_eq_nil_iff.mpr fun x hx => by rw [(hall x hx).1, (hall x hx).2]; decide
        have hblocked : batch.filter (s.blockedChoice d batch) = [] :=
          List.filter_eq_nil_iff.mpr fun x hx => by rw [(hall x hx).1]; decide
        unfold SmsOffice.queueResult
        rw [hqueued, hskipped, hblocked]
      · refine absurd (fun x hx => ?_) hreach
        obtain ⟨mobile, hmobile, -⟩ := (hmem x).mp (hselected x hx)
        exact ⟨mobile, hmobile⟩
    · intro actor batch brokerDown result s' hbatch hqueue x hx
      rcases run_queueAbsenceSmsResult hbatch.1 hbatch.2.1 hbatch.2.2 actor brokerDown hfeature
        hactive with ⟨hreach, s'', hdone⟩ | ⟨-, e, hfailed⟩
      · rw [hqueue] at hdone
        cases hdone
        obtain ⟨mobile, hmobile⟩ := hreach x hx
        rw [hmem, SmsOffice.selectable_iff hx hmobile]
        simp only [SmsOffice.queueResult, List.mem_filter, hx, true_and]
        cases s.blockedChoice d batch x <;> cases s.queueable ⟨x, d⟩ <;> decide
      · rw [hqueue] at hfailed
        cases hfailed
    · intro entry hentry
      obtain ⟨row, hrow, rfl⟩ := hstudents entry hentry
      obtain ⟨p, hp, rfl⟩ := List.mem_map.mp (mem_inPreviewOrder.mp hrow)
      exact ⟨p, hp, rfl, SmsOffice.eligibilityReason_review collation hp⟩
  · have hmissing : s.facts.hasAbsenceSms = false := Bool.eq_false_iff.mpr hfeature
    refine .inl ⟨hmissing, ?_, fun actor batch brokerDown =>
      run_queue_missing hmissing actor batch brokerDown⟩
    unfold absencePreview
    simp only [Program.bind_eq]
    show Program.run (if (!s.facts.hasAbsenceSms) = true then _ else _) s = _
    rw [hmissing, if_pos (by decide)]
    rfl

/-- Two students have missed a day; the number of the second one is blocked. -/
def twoAbsentees : SmsOffice where
  facts :=
    { school :=
        { registry :=
            { students :=
                [⟨1, "", "", none, "أحمد علي", none, .active, none, none, "", "", "+966500000001"⟩,
                  ⟨2, "", "", none, "سعد علي", none, .active, none, none, "", "", "+966500000002"⟩]
              enrollments :=
                [⟨1, 1, 1, 1, 1, .active, 600, none⟩, ⟨2, 2, 1, 1, 1, .active, 600, none⟩] }
          summaries :=
            [⟨1, 700, 1, 1, 1, 1, 1, 0, 0, 1, .complete, .full, 0⟩,
              ⟨2, 700, 1, 1, 1, 1, 1, 0, 0, 1, .complete, .full, 0⟩] }
      integration := some ⟨.dreams, "secret", true⟩
      contactBlocks := [⟨2, recipientHash "+966500000002", false⟩] }

theorem absencePreview_agrees_two : ∃ preview,
    (absencePreview 0 (fun _ => 0) (fun a b => decide (a ≤ b)) none 700 1).run twoAbsentees =
      (.ok preview, twoAbsentees) ∧
    preview.selectableStudentIds = [1] ∧
    twoAbsentees.PreviewAgrees 700 (fun a b => decide (a ≤ b)) preview := by
  have hselectable :
      ((absencePreview 0 (fun _ => 0) (fun a b => decide (a ≤ b)) none 700 1).run
        twoAbsentees).1.map (fun preview => preview.selectableStudentIds) = .ok [1] := by
    decide +kernel
  rcases absencePreview_agrees twoAbsentees 700 (by decide) 0 (fun _ => 0)
    (fun a b => decide (a ≤ b)) none 1 with ⟨hmissing, -⟩ | ⟨preview, hrun, hagrees⟩
  · exact absurd hmissing (by decide)
  · rw [hrun] at hselectable
    exact ⟨preview, hrun, Except.ok.inj hselectable, hagrees⟩

end SchoolPlatform
