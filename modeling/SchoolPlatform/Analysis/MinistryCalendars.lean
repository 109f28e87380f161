import SchoolPlatform.Model.MinistrySource

/-!
# What the events of the ministry show

The loop over the rows fails or keeps every event that has been read, whatever the order. The loop
over the events of a year depends on their order only where a kind has two dates: then the problem
is reported, and otherwise the evidence of a kind has its date. What follows in the year, rules and
problems, depends on these dates only (`Alike.withRules`).
-/

namespace SchoolPlatform.Academics

open Gregorian

variable {target : EventKind} {offset : ℤ} {twoSemesters : Bool}

/-! ## The events -/

/-- Rows that can all be read, in which an id stands for one event. -/
structure Readable (rs : List (Except SourceFailure MinistryEvent)) : Prop where
  read : ∀ r ∈ rs, ∃ e, r = .ok e
  one : ∀ e e', .ok e ∈ rs → .ok e' ∈ rs → e.id = e'.id → e = e'

structure HoldsEvents (rs : List (Except SourceFailure MinistryEvent))
    (events : Dict Text MinistryEvent) : Prop where
  read : ∀ r ∈ rs, ∃ e, r = .ok e
  nodup : (Dict.keys events).Nodup
  get : ∀ id e, Dict.get? events id = some e ↔ .ok e ∈ rs ∧ e.id = id

section Events

variable {rs rest : List (Except SourceFailure MinistryEvent)}
  {events events' : Dict Text MinistryEvent} {event : MinistryEvent}

theorem addEvent_ok_iff : addEvent events (.ok event) = .ok events' ↔
    (∀ known, Dict.get? events event.id = some known → known = event) ∧
      Dict.insert events event.id event = events' := by
  have hstep : addEvent events (.ok event) =
      if (Dict.get? events event.id).any fun known => known ≠ event then
        .error (.source "MINISTRY_CONFLICTING_EVENT")
      else .ok (Dict.insert events event.id event) := rfl
  rw [hstep, Fallible.ite_error_eq_ok, Except.ok.injEq]
  cases Dict.get? events event.id with
  | none => simp
  | some known => simp

theorem HoldsEvents.insert (h : HoldsEvents rs events)
    (hsame : ∀ known, Dict.get? events event.id = some known → known = event) :
    HoldsEvents (rs ++ [.ok event]) (Dict.insert events event.id event) := by
  refine ⟨?_, Dict.nodup_keys_insert h.nodup _ _, ?_⟩
  · intro r hr
    rcases List.mem_append.mp hr with hr | hr
    · exact h.read r hr
    · exact ⟨event, List.mem_singleton.mp hr⟩
  · intro id e
    rw [Dict.get?_insert, List.mem_append, List.mem_singleton, Except.ok.injEq]
    by_cases hid : event.id = id
    · rw [if_pos hid, Option.some.injEq]
      constructor
      · rintro rfl
        exact ⟨.inr rfl, hid⟩
      · rintro ⟨he | he, hid'⟩
        · exact (hsame e ((h.get event.id e).mpr ⟨he, hid'.trans hid.symm⟩)).symm
        · exact he.symm
    · rw [if_neg hid, h.get id e]
      constructor
      · rintro ⟨he, hid'⟩
        exact ⟨.inl he, hid'⟩
      · rintro ⟨he | rfl, hid'⟩
        · exact ⟨he, hid'⟩
        · exact absurd hid' hid

theorem holdsEvents_nil : HoldsEvents [] [] := by
  refine ⟨?_, List.nodup_nil, ?_⟩
  · intro r hr
    cases hr
  · intro id e
    simp

theorem holdsEvents_of_fold (h : rs.foldlM addEvent [] = .ok events) : HoldsEvents rs events := by
  refine Fallible.foldlM_invariant (fun done _ d => HoldsEvents done d) ?_ holdsEvents_nil h
  intro done r rest d d' hd hstep
  cases r with
  | error e => cases hstep
  | ok e =>
    obtain ⟨hsame, rfl⟩ := addEvent_ok_iff.mp hstep
    exact hd.insert hsame

theorem HoldsEvents.readable (h : HoldsEvents rs events) : Readable rs := by
  refine ⟨h.read, ?_⟩
  intro e e' he he' hid
  have hget := (h.get e'.id e).mpr ⟨he, hid⟩
  rw [(h.get e'.id e').mpr ⟨he', rfl⟩, Option.some.injEq] at hget
  exact hget.symm

theorem fold_ok_iff : (∃ events, rs.foldlM addEvent [] = .ok events) ↔ Readable rs := by
  constructor
  · rintro ⟨events, h⟩
    exact (holdsEvents_of_fold h).readable
  · intro h
    have hstep : ∀ (done : List (Except SourceFailure MinistryEvent)) r rest d,
        done ++ r :: rest = rs ∧ HoldsEvents done d →
          ∃ d', addEvent d r = .ok d' ∧ (done ++ [r]) ++ rest = rs ∧
            HoldsEvents (done ++ [r]) d' := by
      rintro done r rest d ⟨hrs, hd⟩
      have hr : r ∈ rs := by
        rw [← hrs]
        exact List.mem_append_right _ List.mem_cons_self
      obtain ⟨e, rfl⟩ := h.read r hr
      have hsame : ∀ known, Dict.get? d e.id = some known → known = e := by
        intro known hknown
        obtain ⟨hmem, hid⟩ := (hd.get e.id known).mp hknown
        apply h.one known e _ hr hid
        rw [← hrs]
        exact List.mem_append_left _ hmem
      refine ⟨_, addEvent_ok_iff.mpr ⟨hsame, rfl⟩, ?_, hd.insert hsame⟩
      rw [List.append_assoc]
      exact hrs
    obtain ⟨events, hfold, -⟩ := Fallible.foldlM_succeeds
      (fun done rest d => done ++ rest = rs ∧ HoldsEvents done d) hstep ⟨rfl, holdsEvents_nil⟩
    exact ⟨events, hfold⟩

theorem HoldsEvents.mem_values (h : HoldsEvents rs events) (e : MinistryEvent) :
    e ∈ events.map Prod.snd ↔ .ok e ∈ rs := by
  constructor
  · intro he
    obtain ⟨p, hp, rfl⟩ := List.mem_map.mp he
    exact ((h.get p.1 p.2).mp ((Dict.mem_iff_get? h.nodup p.1 p.2).mp hp)).1
  · intro he
    have hget := (h.get e.id e).mpr ⟨he, rfl⟩
    exact List.mem_map.mpr ⟨(e.id, e), (Dict.mem_iff_get? h.nodup e.id e).mpr hget, rfl⟩

end Events

/-! ## The evidence of a year -/

section Evidence

variable {nfkc : Text → Text}

def TwoDates (nfkc : Text → Text) (events : List MinistryEvent) (kind : EventKind) : Prop :=
  ∃ e ∈ events, ∃ e' ∈ events, eventKind nfkc e.title = some kind ∧
    eventKind nfkc e'.title = some kind ∧ e.date ≠ e'.date

/-- What the loop over the events has made of those it has been through. -/
structure Collected (nfkc : Text → Text) (events : List MinistryEvent)
    (state : EvidenceTable × List Text) : Prop where
  found : ∀ kind d, state.1.date? kind = some d →
    ∃ e ∈ events, eventKind nfkc e.title = some kind ∧ e.date = d
  conflict : ∀ p ∈ state.2, ∃ kind, p = conflictProblem kind ∧ TwoDates nfkc events kind
  agreed : ∀ kind, conflictProblem kind ∉ state.2 → ∀ e ∈ events,
    eventKind nfkc e.title = some kind → state.1.date? kind = some e.date

theorem date?_insert (evidence : EvidenceTable) (kind kind' : EventKind) (x : Evidence) :
    EvidenceTable.date? (Dict.insert evidence kind x) kind' =
      if kind = kind' then some x.date else evidence.date? kind' := by
  unfold EvidenceTable.date?
  rw [Dict.get?_insert]
  split <;> rfl

theorem TwoDates.append {events : List MinistryEvent} {kind : EventKind}
    (h : TwoDates nfkc events kind) (more : List MinistryEvent) :
    TwoDates nfkc (events ++ more) kind := by
  obtain ⟨e, he, e', he', h⟩ := h
  exact ⟨e, List.mem_append_left _ he, e', List.mem_append_left _ he', h⟩

theorem Collected.step {events : List MinistryEvent} {state : EvidenceTable × List Text}
    (h : Collected nfkc events state) (e : MinistryEvent) :
    Collected nfkc (events ++ [e]) (collect nfkc state e) := by
  have hlast : e ∈ events ++ [e] := List.mem_append_right _ List.mem_cons_self
  unfold collect
  cases hkind : eventKind nfkc e.title with
  | none =>
    refine ⟨?_, ?_, ?_⟩
    · intro kind d hd
      obtain ⟨e', he', h'⟩ := h.found kind d hd
      exact ⟨e', List.mem_append_left _ he', h'⟩
    · intro p hp
      obtain ⟨kind, hp', htwo⟩ := h.conflict p hp
      exact ⟨kind, hp', htwo.append [e]⟩
    · intro kind hnot e' he' hkind'
      rcases List.mem_append.mp he' with he' | he'
      · exact h.agreed kind hnot e' he' hkind'
      · rw [List.mem_singleton.mp he', hkind] at hkind'
        cases hkind'
  | some k =>
    dsimp only
    refine ⟨?_, ?_, ?_⟩
    · intro kind d hd
      rw [date?_insert] at hd
      split at hd
      · rename_i hk
        exact ⟨e, hlast, by rw [hkind, hk], Option.some.inj hd⟩
      · obtain ⟨e', he', h'⟩ := h.found kind d hd
        exact ⟨e', List.mem_append_left _ he', h'⟩
    · intro p hp
      split at hp
      · rename_i hother
        rcases List.mem_append.mp hp with hp | hp
        · obtain ⟨kind, hp', htwo⟩ := h.conflict p hp
          exact ⟨kind, hp', htwo.append [e]⟩
        · obtain ⟨d, hd, hne⟩ := (Option.any_eq_true _ _).mp hother
          rw [decide_eq_true_eq] at hne
          obtain ⟨e', he', hkind', hdate⟩ := h.found k d hd
          refine ⟨k, List.mem_singleton.mp hp, e', List.mem_append_left _ he', e, hlast, hkind',
            hkind, ?_⟩
          rw [hdate]
          exact hne
      · obtain ⟨kind, hp', htwo⟩ := h.conflict p hp
        exact ⟨kind, hp', htwo.append [e]⟩
    · intro kind hnot e' he' hkind'
      have hold : conflictProblem kind ∉ state.2 := by
        intro hmem
        apply hnot
        split
        · exact List.mem_append_left _ hmem
        · exact hmem
      rw [date?_insert]
      by_cases hk : k = kind
      · rw [if_pos hk]
        rcases List.mem_append.mp he' with he' | he'
        · have hdate := h.agreed kind hold e' he' hkind'
          by_contra hne
          apply hnot
          rw [if_pos]
          · rw [← hk]
            exact List.mem_append_right _ List.mem_cons_self
          · rw [hk, hdate, Option.any_some, decide_eq_true_eq]
            intro hsame
            exact hne (by rw [hsame])
        · rw [List.mem_singleton.mp he']
      · rw [if_neg hk]
        rcases List.mem_append.mp he' with he' | he'
        · exact h.agreed kind hold e' he' hkind'
        · rw [List.mem_singleton.mp he', hkind, Option.some.injEq] at hkind'
          exact absurd hkind' hk

theorem collected (nfkc : Text → Text) (events : List MinistryEvent) :
    Collected nfkc events (events.foldl (collect nfkc) ([], [])) := by
  suffices hgen : ∀ (rest done : List MinistryEvent) (state : EvidenceTable × List Text),
      Collected nfkc done state →
        Collected nfkc (done ++ rest) (rest.foldl (collect nfkc) state) from by
    have hnil : Collected nfkc [] ([], []) := by
      refine ⟨?_, ?_, ?_⟩
      · intro kind d hd
        cases hd
      · intro p hp
        cases hp
      · intro kind _ e he
        cases he
    exact hgen events [] _ hnil
  intro rest
  induction rest with
  | nil =>
    intro done state h
    rw [List.append_nil]
    exact h
  | cons e rest ih =>
    intro done state h
    have hrest := ih (done ++ [e]) (collect nfkc state e) (h.step e)
    rw [List.append_assoc] at hrest
    exact hrest

theorem Collected.conflict_mem {events : List MinistryEvent} {state : EvidenceTable × List Text}
    (h : Collected nfkc events state) {kind : EventKind} (htwo : TwoDates nfkc events kind) :
    conflictProblem kind ∈ state.2 := by
  by_contra hnot
  obtain ⟨e, he, e', he', hkind, hkind', hne⟩ := htwo
  have hdate := h.agreed kind hnot e he hkind
  rw [h.agreed kind hnot e' he' hkind', Option.some.injEq] at hdate
  exact hne hdate.symm

end Evidence

/-! ## What the rules do to the dates -/

section Rules

variable {kind : EventKind} {state state' : EvidenceTable × List Text}

theorem date?_withFirstStart (evidence : EvidenceTable) (kind : EventKind) :
    (withFirstStart evidence).date? kind =
      if kind = .semesterStart 1 then
        (evidence.date? (.semesterStart 1)).or (evidence.date? .yearStart)
      else evidence.date? kind := by
  unfold withFirstStart EvidenceTable.date?
  by_cases hkind : kind = .semesterStart 1
  · rw [if_pos hkind, hkind]
    cases hfirst : Dict.get? evidence (.semesterStart 1) with
    | some x => simp [hfirst]
    | none =>
      cases hopening : Dict.get? evidence .yearStart with
      | some opening => simp
      | none => simp [hfirst]
  · rw [if_neg hkind]
    split
    · rw [Dict.get?_insert, if_neg (Ne.symm hkind)]
    · rfl

theorem date?_withSecondEnd (evidence : EvidenceTable) (kind : EventKind) :
    (withSecondEnd evidence).date? kind =
      if kind = .semesterEnd 2 then
        (evidence.date? (.semesterEnd 2)).or (evidence.date? .yearEnd)
      else evidence.date? kind := by
  unfold withSecondEnd EvidenceTable.date?
  by_cases hkind : kind = .semesterEnd 2
  · rw [if_pos hkind, hkind]
    cases hsecond : Dict.get? evidence (.semesterEnd 2) with
    | some x => simp [hsecond]
    | none =>
      cases hclosing : Dict.get? evidence .yearEnd with
      | some closing => simp
      | none => simp [hsecond]
  · rw [if_neg hkind]
    split
    · rw [Dict.get?_insert, if_neg (Ne.symm hkind)]
    · rfl

def fromMidyear (evidence : EvidenceTable) (offset : ℤ) : Option Date :=
  (evidence.date? .midyearBreakStart).map fun d => ((d : ℤ) + offset).toNat

def opensOffSunday (evidence : EvidenceTable) (target : EventKind) (offset : ℤ) : Bool :=
  target = .semesterStart 2 && (evidence.date? target).isNone &&
    (fromMidyear evidence offset).any fun d => d % 7 ≠ 0

/-- What the calculation of a date does when it succeeds. -/
structure Calculated (target : EventKind) (offset : ℤ) (state state' : EvidenceTable × List Text) :
    Prop where
  dates : ∀ kind, state'.1.date? kind =
    if kind = target then (state.1.date? target).or (fromMidyear state.1 offset)
    else state.1.date? kind
  problems : state'.2 =
    if opensOffSunday state.1 target offset then state.2 ++ [returnNotSunday] else state.2

theorem calculated_of_ok {rule : String}
    (h : withCalculated target offset rule state = .ok state') :
    Calculated target offset state state' := by
  unfold withCalculated at h
  cases hmidyear : Dict.get? state.1 .midyearBreakStart with
  | none =>
    have hnone : fromMidyear state.1 offset = none := by
      unfold fromMidyear EvidenceTable.date?
      rw [hmidyear]
      rfl
    rw [hmidyear] at h
    dsimp only at h
    cases h
    refine ⟨?_, ?_⟩
    · intro kind
      rw [hnone, Option.or_none]
      split
      · rename_i hkind
        rw [hkind]
      · rfl
    · unfold opensOffSunday
      rw [hnone]
      simp
  | some midyear =>
    cases htarget : Dict.get? state.1 target with
    | some x =>
      have hsome : state.1.date? target = some x.date := by
        unfold EvidenceTable.date?
        rw [htarget]
        rfl
      rw [hmidyear, htarget] at h
      dsimp only at h
      cases h
      refine ⟨?_, ?_⟩
      · intro kind
        rw [hsome, Option.some_or]
        split
        · rename_i hkind
          rw [hkind, hsome]
        · rfl
      · unfold opensOffSunday
        rw [hsome]
        simp
    | none =>
      have hnone : state.1.date? target = none := by
        unfold EvidenceTable.date?
        rw [htarget]
        rfl
      have hday : fromMidyear state.1 offset = some ((midyear.date : ℤ) + offset).toNat := by
        unfold fromMidyear EvidenceTable.date?
        rw [hmidyear]
        rfl
      rw [hmidyear, htarget] at h
      dsimp only at h
      split at h
      · cases h
        refine ⟨?_, ?_⟩
        · intro kind
          rw [date?_insert, hnone, Option.none_or, hday]
          by_cases hkind : target = kind
          · rw [if_pos hkind, if_pos hkind.symm]
          · rw [if_neg hkind, if_neg (Ne.symm hkind)]
        · unfold opensOffSunday
          rw [hnone, hday]
          simp
      · cases h

theorem withRules_ok (h : withRules twoSemesters state = .ok state') :
    (twoSemesters && !hasThird state.1) = true ∧ (∃ ended opened,
        Calculated (.semesterEnd 1) (-1) state ended ∧
          Calculated (.semesterStart 2) 9 ended opened ∧
          state' = (withSecondEnd opened.1, opened.2)) ∨
      (twoSemesters && !hasThird state.1) = false ∧
        state' = (state.1, if twoSemesters then state.2 else state.2 ++ [policyNotVerified]) := by
  unfold withRules at h
  split at h
  · rename_i hcond
    obtain ⟨ended, hended, h⟩ := Fallible.bind_eq_ok.mp h
    obtain ⟨opened, hopened, h⟩ := Fallible.bind_eq_ok.mp h
    rw [Fallible.pure_eq_ok] at h
    exact .inl ⟨hcond, ended, opened, calculated_of_ok hended, calculated_of_ok hopened, h.symm⟩
  · rename_i hcond
    rw [Bool.not_eq_true] at hcond
    refine .inr ⟨hcond, ?_⟩
    split at h
    · rename_i htwo
      rw [Fallible.pure_eq_ok] at h
      rw [if_pos htwo, ← h]
    · rename_i htwo
      rw [Fallible.pure_eq_ok] at h
      rw [if_neg htwo, ← h]

theorem Calculated.subset (h : Calculated target offset state state') : state.2 ⊆ state'.2 := by
  rw [h.problems]
  split
  · exact List.subset_append_left _ _
  · exact List.Subset.refl _

def EventKind.ruled (kind : EventKind) : Bool :=
  kind = .semesterStart 1 || kind = .semesterEnd 1 || kind = .semesterStart 2 ||
    kind = .semesterEnd 2

theorem withRules_keeps (h : withRules twoSemesters state = .ok state') :
    state.2 ⊆ state'.2 ∧ ∀ kind : EventKind, kind.ruled = false →
      state'.1.date? kind = state.1.date? kind := by
  rcases withRules_ok h with ⟨-, ended, opened, hended, hopened, rfl⟩ | ⟨-, rfl⟩
  · refine ⟨List.Subset.trans hended.subset hopened.subset, ?_⟩
    intro kind hkind
    have hend : kind ≠ .semesterEnd 1 := by
      rintro rfl
      cases hkind
    have hstart : kind ≠ .semesterStart 2 := by
      rintro rfl
      cases hkind
    have hend' : kind ≠ .semesterEnd 2 := by
      rintro rfl
      cases hkind
    dsimp only
    rw [date?_withSecondEnd, if_neg hend', hopened.dates, if_neg hstart, hended.dates, if_neg hend]
  · refine ⟨?_, fun kind _ => rfl⟩
    dsimp only
    split
    · exact List.Subset.refl _
    · exact List.subset_append_left _ _

structure Alike (a b : EvidenceTable × List Text) : Prop where
  dates : ∀ kind, a.1.date? kind = b.1.date? kind
  problems : ∀ p, p ∈ a.2 ↔ p ∈ b.2

variable {a b a' b' : EvidenceTable × List Text}

theorem Alike.calculated (h : Alike a b) (ha : Calculated target offset a a')
    (hb : Calculated target offset b b') : Alike a' b' := by
  have hmidyear : fromMidyear a.1 offset = fromMidyear b.1 offset := by
    unfold fromMidyear
    rw [h.dates]
  refine ⟨?_, ?_⟩
  · intro kind
    rw [ha.dates, hb.dates, h.dates, h.dates, hmidyear]
  · intro p
    have hsunday : opensOffSunday a.1 target offset = opensOffSunday b.1 target offset := by
      unfold opensOffSunday
      rw [h.dates, hmidyear]
    rw [ha.problems, hb.problems, hsunday]
    split
    · rw [List.mem_append, List.mem_append, h.problems]
    · exact h.problems p

theorem Alike.hasThird (h : Alike a b) : hasThird a.1 = hasThird b.1 := by
  unfold Academics.hasThird
  rw [h.dates, h.dates]

theorem Alike.begun (h : Alike a b) :
    Alike (withFirstStart a.1, if Academics.hasThird a.1 then a.2 ++ [unsupportedSystem] else a.2)
      (withFirstStart b.1,
        if Academics.hasThird b.1 then b.2 ++ [unsupportedSystem] else b.2) := by
  refine ⟨?_, ?_⟩
  · intro kind
    dsimp only
    rw [date?_withFirstStart, date?_withFirstStart, h.dates, h.dates, h.dates]
  · intro p
    dsimp only
    rw [h.hasThird]
    split
    · rw [List.mem_append, List.mem_append, h.problems]
    · exact h.problems p

theorem Alike.withRules (h : Alike a b) (ha : withRules twoSemesters a = .ok a')
    (hb : withRules twoSemesters b = .ok b') : Alike a' b' := by
  rcases withRules_ok ha with ⟨hcond, ended, opened, hended, hopened, rfl⟩ | ⟨hcond, rfl⟩
  · rcases withRules_ok hb with ⟨-, ended', opened', hended', hopened', rfl⟩ | ⟨hcond', -⟩
    · have hlike := (h.calculated hended hended').calculated hopened hopened'
      refine ⟨?_, hlike.problems⟩
      intro kind
      dsimp only
      rw [date?_withSecondEnd, date?_withSecondEnd, hlike.dates, hlike.dates, hlike.dates]
    · rw [h.hasThird, hcond'] at hcond
      cases hcond
  · rcases withRules_ok hb with ⟨hcond', -⟩ | ⟨-, rfl⟩
    · rw [h.hasThird, hcond'] at hcond
      cases hcond
    · refine ⟨h.dates, ?_⟩
      intro p
      dsimp only
      split
      · exact h.problems p
      · rw [List.mem_append, List.mem_append, h.problems]

end Rules

end SchoolPlatform.Academics
