import SchoolPlatform.Analysis.MinistryCalendars

/-!
# The calendars that the ministry's pages give

A calendar that is ready has its dates in order, and ready calendars do not meet. Pages that show
the same events fail alike or give calendars alike: only where a kind of event has two dates in a
year does their order matter, and such a calendar is invalid either way
(`ministry_calendars_normalised`).
-/

namespace SchoolPlatform.Academics

open Gregorian

variable {nfkc : Text → Text}

variable {kind : EventKind} {d : ℕ} {e : SourceFailure} {documents : List SourceDocument}

/-! ## One calendar -/

structure Made (nfkc : Text → Text) (start : Date) (selected : List MinistryEvent)
    (entry : CalendarEntry) : Prop where
  name : entry.name = yearText (yearOf start) ++ ['/'] ++ Nat.toDigits 10 (yearOf start + 1)
  events : entry.events = selected
  year : ∀ kind, kind.ruled = false → entry.evidence.date? kind =
    EvidenceTable.date? (selected.foldl (collect nfkc) ([], [])).1 kind
  dates : entry.dates = datesOf start entry.evidence
  missing : entry.missing = requiredDates.filter fun kind => entry.evidence.date? kind = none
  conflicts : (selected.foldl (collect nfkc) ([], [])).2 ⊆ entry.problems
  range : rangeProblems start entry.dates ⊆ entry.problems
  order : orderProblems entry.dates ⊆ entry.problems
  status : entry.status = if entry.problems ≠ [] then .invalid
    else if entry.missing ≠ [] then .incomplete else .ready

theorem calendarOf_ok {start : Date} {selected : List MinistryEvent} {entry : CalendarEntry}
    (h : calendarOf nfkc start selected = .ok entry) : Made nfkc start selected entry := by
  obtain ⟨state, hstate, h⟩ := Fallible.bind_eq_ok.mp h
  rw [Fallible.pure_eq_ok] at h
  obtain ⟨hsub, hkeeps⟩ := withRules_keeps hstate
  subst h
  refine ⟨rfl, rfl, ?_, rfl, rfl, ?_, ?_, ?_, ?_⟩
  · intro kind hkind
    have hstart : kind ≠ .semesterStart 1 := by
      rintro rfl
      cases hkind
    rw [hkeeps kind hkind, date?_withFirstStart, if_neg hstart]
  · intro p hp
    have hsystem : p ∈ state.2 := by
      apply hsub
      dsimp only
      split
      · exact List.mem_append_left _ hp
      · exact hp
    exact KeySort.mem_sortedSet.mpr (List.mem_append_left _ (List.mem_append_left _ hsystem))
  · intro p hp
    exact KeySort.mem_sortedSet.mpr (List.mem_append_left _ (List.mem_append_right _ hp))
  · intro p hp
    exact KeySort.mem_sortedSet.mpr (List.mem_append_right _ hp)
  · exact if_congr (not_congr KeySort.sortedSet_eq_nil).symm rfl rfl

structure SaneDates (dates : CalendarDates) (ye s1 e1 s2 e2 : Date) : Prop where
  yearEnd : dates.yearEnd = some ye
  semester1Start : dates.semester1Start = some s1
  semester1End : dates.semester1End = some e1
  semester2Start : dates.semester2Start = some s2
  semester2End : dates.semester2End = some e2
  length : dates.yearStart + 180 ≤ ye ∧ ye ≤ dates.yearStart + 370
  order : dates.yearStart ≤ s1 ∧ s1 ≤ e1 ∧ e1 < s2 ∧ s2 ≤ e2 ∧ e2 ≤ ye

def Sane (dates : CalendarDates) : Prop := ∃ ye s1 e1 s2 e2, SaneDates dates ye s1 e1 s2 e2

/-- Every opening of the year is on its first day. -/
def OpensOn (nfkc : Text → Text) (start : Date) (selected : List MinistryEvent) : Prop :=
  ∀ e ∈ selected, eventKind nfkc e.title = some .yearStart → e.date = start

section Made

variable {start : Date} {selected : List MinistryEvent} {entry : CalendarEntry}

theorem Made.found (h : Made nfkc start selected entry) (hkind : kind.ruled = false) {d : Date}
    (hd : entry.evidence.date? kind = some d) :
    ∃ e ∈ selected, eventKind nfkc e.title = some kind ∧ e.date = d := by
  rw [h.year kind hkind] at hd
  exact (collected nfkc selected).found kind d hd

theorem Made.yearStart (h : Made nfkc start selected entry) (hopens : OpensOn nfkc start selected) :
    entry.dates.yearStart = start := by
  rw [h.dates]
  show (entry.evidence.date? .yearStart).getD start = start
  cases hd : entry.evidence.date? .yearStart with
  | none => rfl
  | some d =>
    obtain ⟨e, he, hkind, rfl⟩ := h.found rfl hd
    exact hopens e he hkind

theorem Made.problems_of_ready (h : Made nfkc start selected entry)
    (hready : entry.status = .ready) : entry.problems = [] ∧ entry.missing = [] := by
  rw [h.status] at hready
  split at hready
  · cases hready
  · rename_i hnone
    split at hready
    · cases hready
    · rename_i hnot
      exact ⟨not_not.mp hnone, not_not.mp hnot⟩

theorem Made.date_of_missing (h : Made nfkc start selected entry) (hmissing : entry.missing = [])
    (kind : EventKind) (hkind : kind ∈ requiredDates) :
    ∃ d, entry.evidence.date? kind = some d := by
  cases hd : entry.evidence.date? kind with
  | some d => exact ⟨d, rfl⟩
  | none =>
    have hmem : kind ∈ entry.missing := by
      rw [h.missing, List.mem_filter, decide_eq_true_eq]
      exact ⟨hkind, hd⟩
    rw [hmissing] at hmem
    cases hmem

theorem Made.sane (h : Made nfkc start selected entry) (hopens : OpensOn nfkc start selected)
    (hready : entry.status = .ready) : Sane entry.dates := by
  obtain ⟨hproblems, hmissing⟩ := h.problems_of_ready hready
  obtain ⟨ye, hye⟩ := h.date_of_missing hmissing (.yearEnd) (by decide)
  obtain ⟨s1, hs1⟩ := h.date_of_missing hmissing (.semesterStart 1) (by decide)
  obtain ⟨e1, he1⟩ := h.date_of_missing hmissing (.semesterEnd 1) (by decide)
  obtain ⟨s2, hs2⟩ := h.date_of_missing hmissing (.semesterStart 2) (by decide)
  obtain ⟨e2, he2⟩ := h.date_of_missing hmissing (.semesterEnd 2) (by decide)
  have hyear : entry.dates.yearEnd = some ye := by
    rw [h.dates]
    exact hye
  have hfirst : entry.dates.semester1Start = some s1 := by
    rw [h.dates]
    exact hs1
  have hfirst' : entry.dates.semester1End = some e1 := by
    rw [h.dates]
    exact he1
  have hsecond : entry.dates.semester2Start = some s2 := by
    rw [h.dates]
    exact hs2
  have hsecond' : entry.dates.semester2End = some e2 := by
    rw [h.dates]
    exact he2
  refine ⟨ye, s1, e1, s2, e2, hyear, hfirst, hfirst', hsecond, hsecond', ?_, ?_⟩
  · have hrange := h.range
    rw [hproblems, List.subset_nil] at hrange
    rw [h.yearStart hopens]
    unfold rangeProblems at hrange
    rw [hyear] at hrange
    by_contra hnot
    rw [if_pos] at hrange
    · cases hrange
    · rw [Option.any_some, Bool.or_eq_true, decide_eq_true_eq, decide_eq_true_eq]
      by_contra hin
      apply hnot
      rw [not_or, Nat.not_lt, Nat.not_lt] at hin
      exact hin
  · have horder := h.order
    rw [hproblems, List.subset_nil] at horder
    unfold orderProblems at horder
    rw [hyear, hfirst, hfirst', hsecond, hsecond'] at horder
    by_contra hnot
    dsimp only at horder
    rw [if_neg hnot] at horder
    cases horder

end Made

/-! ## All calendars -/

section Run

variable {events events' : List MinistryEvent} {starts : List Date} {next : Date}
  {entries entries' : List CalendarEntry}

theorem calendarsFrom_cons_ok {start : Date} (h : calendarsFrom nfkc events (start :: starts) =
    .ok entries) : ∃ entry rest, entries = entry :: rest ∧
      calendarOf nfkc start (events.filter fun e => start ≤ e.date ∧
        e.date < starts.head?.getD maxOrdinal) = .ok entry ∧
      calendarsFrom nfkc events starts = .ok rest := by
  obtain ⟨entry, hentry, h⟩ := Fallible.bind_eq_ok.mp h
  obtain ⟨rest, hrest, h⟩ := Fallible.bind_eq_ok.mp h
  rw [Fallible.pure_eq_ok] at h
  exact ⟨entry, rest, h.symm, hentry, hrest⟩

/-- A calendar is sane when it is ready, and ends before a later one begins. -/
structure Orderly (starts : List Date) (entries : List CalendarEntry) : Prop where
  sane : ∀ c ∈ entries, c.status = .ready → Sane c.dates
  opens : entries.map (fun c => c.dates.yearStart) = starts
  apart : entries.Pairwise fun c c' => ∀ ye, c.dates.yearEnd = some ye → ye < c'.dates.yearStart

theorem Orderly.mem_starts (h : Orderly starts entries) {c : CalendarEntry} (hc : c ∈ entries) :
    c.dates.yearStart ∈ starts := by
  rw [← h.opens]
  exact List.mem_map_of_mem hc

/-- The openings that are still to come in the loop: each is one of these days or before them. -/
def Openings (nfkc : Text → Text) (events : List MinistryEvent) (starts : List Date) : Prop :=
  ∀ e ∈ events, eventKind nfkc e.title = some .yearStart →
    e.date ∈ starts ∨ ∀ s ∈ starts, e.date < s

theorem head_le {start : ℕ} {starts : List ℕ} (hsorted : (start :: starts).Pairwise (· < ·))
    (hd : d ∈ start :: starts) : start ≤ d := by
  rcases List.mem_cons.mp hd with rfl | hd
  · exact Nat.le_refl _
  · exact Nat.le_of_lt ((List.pairwise_cons.mp hsorted).1 d hd)

theorem next_le {starts : List ℕ} (hsorted : starts.Pairwise (· < ·)) (hd : d ∈ starts) :
    starts.head?.getD maxOrdinal ≤ d := by
  cases starts with
  | nil => cases hd
  | cons next starts => exact head_le hsorted hd

theorem orderly_calendarsFrom (hsorted : starts.Pairwise (· < ·))
    (hopenings : Openings nfkc events starts) (h : calendarsFrom nfkc events starts = .ok entries) :
    Orderly starts entries := by
  induction starts generalizing entries with
  | nil =>
    obtain rfl := Fallible.pure_eq_ok.mp h
    exact ⟨fun c hc => (nomatch hc), rfl, List.Pairwise.nil⟩
  | cons start starts ih =>
    obtain ⟨entry, rest, rfl, hentry, hrest⟩ := calendarsFrom_cons_ok h
    obtain ⟨hfirst, hsorted'⟩ := List.pairwise_cons.mp hsorted
    have hmade := calendarOf_ok hentry
    have hopenings' : Openings nfkc events starts := by
      intro e he hkind
      rcases hopenings e he hkind with hmem | hbefore
      · rcases List.mem_cons.mp hmem with hstart | hmem
        · exact .inr fun s hs => hstart ▸ hfirst s hs
        · exact .inl hmem
      · exact .inr fun s hs => hbefore s (List.mem_cons_of_mem _ hs)
    -- The year has no other opening than the one on its first day.
    have hopens : OpensOn nfkc start (events.filter fun e => start ≤ e.date ∧
        e.date < starts.head?.getD maxOrdinal) := by
      intro e he hkind
      obtain ⟨he, hin⟩ := List.mem_filter.mp he
      rw [decide_eq_true_eq] at hin
      rcases hopenings e he hkind with hmem | hbefore
      · rcases List.mem_cons.mp hmem with hstart | hmem
        · exact hstart
        · exact absurd hin.2 (Nat.not_lt.mpr (next_le hsorted' hmem))
      · exact absurd (hbefore start List.mem_cons_self) (Nat.not_lt.mpr hin.1)
    have hrec := ih hsorted' hopenings' hrest
    refine ⟨?_, ?_, List.pairwise_cons.mpr ⟨?_, hrec.apart⟩⟩
    · intro c hc hready
      rcases List.mem_cons.mp hc with rfl | hc
      · exact hmade.sane hopens hready
      · exact hrec.sane c hc hready
    · rw [List.map_cons, hmade.yearStart hopens, hrec.opens]
    · intro c hc ye hye
      rw [hmade.dates] at hye
      obtain ⟨e, he, -, rfl⟩ := hmade.found rfl hye
      have hin := (List.mem_filter.mp he).2
      rw [decide_eq_true_eq] at hin
      exact Nat.lt_of_lt_of_le hin.2 (next_le hsorted' (hrec.mem_starts hc))

theorem mem_startsOf {d : Date} : d ∈ startsOf nfkc events ↔
    ∃ e ∈ events, eventKind nfkc e.title = some .yearStart ∧ e.date = d := by
  unfold startsOf
  rw [KeySort.mem_sortedSet, List.mem_map]
  constructor
  · rintro ⟨e, he, hd⟩
    rw [List.mem_filter, decide_eq_true_eq] at he
    exact ⟨e, he.1, he.2, hd⟩
  · rintro ⟨e, he, hkind, hd⟩
    exact ⟨e, List.mem_filter.mpr ⟨he, decide_eq_true hkind⟩, hd⟩

theorem orderly_startsOf (h : calendarsFrom nfkc events (startsOf nfkc events) = .ok entries) :
    Orderly (startsOf nfkc events) entries := by
  refine orderly_calendarsFrom (KeySort.pairwise_sortedSet _) ?_ h
  intro e he hkind
  exact .inl (mem_startsOf.mpr ⟨e, he, hkind, rfl⟩)

theorem TwoDates.congr (hmem : ∀ e, e ∈ events → e ∈ events') (h : TwoDates nfkc events kind) :
    TwoDates nfkc events' kind := by
  obtain ⟨e, he, e', he', h⟩ := h
  exact ⟨e, hmem e he, e', hmem e' he', h⟩

theorem Made.invalid {start : Date} {entry : CalendarEntry} (h : Made nfkc start events entry)
    (htwo : TwoDates nfkc events kind) : entry.status = .invalid := by
  have hmem := h.conflicts ((collected nfkc events).conflict_mem htwo)
  rw [h.status, if_pos (List.ne_nil_of_mem hmem)]

/-- A midyear break in the last days of the calendar, after which no day can be calculated. -/
def LateBreak (nfkc : Text → Text) (events : List MinistryEvent) : Prop :=
  ∃ e ∈ events, eventKind nfkc e.title = some .midyearBreakStart ∧ maxOrdinal < e.date + 9

theorem withCalculated_error {target : EventKind} {offset : ℤ} {rule : String}
    {state : EvidenceTable × List Text} (h : withCalculated target offset rule state = .error e) :
    e = .overflow ∧
      ∃ d : ℕ, state.1.date? .midyearBreakStart = some d ∧
        ¬ (1 ≤ (d : ℤ) + offset ∧ (d : ℤ) + offset ≤ maxOrdinal) := by
  unfold withCalculated at h
  split at h
  · rename_i midyear hmidyear _
    dsimp only at h
    split at h
    · cases h
    · rename_i hnot
      rw [Except.error.injEq] at h
      refine ⟨h.symm, midyear.date, ?_, hnot⟩
      unfold EvidenceTable.date?
      rw [hmidyear]
      rfl
  · cases h

theorem withRules_error {twoSemesters : Bool} {state : EvidenceTable × List Text}
    (h : withRules twoSemesters state = .error e) : e = .overflow ∧
      twoSemesters = true ∧ ∃ d : ℕ, state.1.date? .midyearBreakStart = some d ∧
        (d ≤ 1 ∨ maxOrdinal < d + 9) := by
  unfold withRules at h
  split at h
  · rename_i hcond
    have htwo := ((Bool.and_eq_true _ _).mp hcond).1
    rcases Fallible.bind_eq_error.mp h with h | ⟨ended, hended, h⟩
    · obtain ⟨he, d, hd, hnot⟩ := withCalculated_error h
      exact ⟨he, htwo, d, hd, by omega⟩
    · rcases Fallible.bind_eq_error.mp h with h | ⟨opened, -, h⟩
      · obtain ⟨he, d, hd, hnot⟩ := withCalculated_error h
        rw [(calculated_of_ok hended).dates, if_neg (by decide)] at hd
        exact ⟨he, htwo, d, hd, by omega⟩
      · cases h
  · split at h
    · cases h
    · cases h

theorem yearOf_le_one (h : d ≤ 1) : yearOf d = 1 := by
  have hcases : d = 0 ∨ d = 1 := by omega
  rcases hcases with rfl | rfl
  · decide
  · decide

theorem calendarOf_error {start : ℕ}
    (h : calendarOf nfkc start (events.filter fun e => start ≤ e.date ∧ e.date < next) = .error e) :
    e = .overflow ∧ LateBreak nfkc events := by
  rcases Fallible.bind_eq_error.mp h with h | ⟨state, -, h⟩
  · obtain ⟨he, htwo, d, hd, hend⟩ := withRules_error h
    rw [decide_eq_true_eq] at htwo
    rw [date?_withFirstStart, if_neg (by decide)] at hd
    obtain ⟨x, hx, hkind, hdate⟩ := (collected nfkc _).found _ d hd
    obtain ⟨hmem, hin⟩ := List.mem_filter.mp hx
    rw [decide_eq_true_eq, hdate] at hin
    refine ⟨he, x, hmem, hkind, ?_⟩
    rw [hdate]
    rcases hend with hone | hlate
    · have hyear := yearOf_le_one (Nat.le_trans hin.1 hone)
      rw [hyear] at htwo
      omega
    · exact hlate
  · cases h

theorem calendarsFrom_error (h : calendarsFrom nfkc events starts = .error e) :
    e = .overflow ∧ LateBreak nfkc events := by
  induction starts with
  | nil => cases h
  | cons start starts ih =>
    rcases Fallible.bind_eq_error.mp h with h | ⟨entry, -, h⟩
    · exact calendarOf_error h
    · rcases Fallible.bind_eq_error.mp h with h | ⟨rest, -, h⟩
      · exact ih h
      · cases h

theorem readEvent_ne_overflow (url : Text) (row : SourceRow) :
    readEvent url row ≠ .error .overflow := by
  intro h
  unfold readEvent at h
  split at h
  · cases h
  · split at h
    · cases h
    · split at h
      · cases h
      · split at h
        · cases h
        · split at h
          · cases h
          · split at h
            · cases h
            · cases h
  · cases h

theorem fold_ne_overflow {rs : List (Except SourceFailure MinistryEvent)}
    (hrs : ∀ r ∈ rs, r ≠ .error .overflow) (known : Dict Text MinistryEvent) :
    rs.foldlM addEvent known ≠ .error .overflow := by
  induction rs generalizing known with
  | nil =>
    intro h
    cases h
  | cons r rs ih =>
    rw [List.foldlM_cons]
    intro h
    rcases Fallible.bind_eq_error.mp h with h | ⟨known', -, h⟩
    · rcases Fallible.bind_eq_error.mp h with h | ⟨e, -, h⟩
      · exact hrs r List.mem_cons_self h
      · rcases Fallible.ite_error_eq_error.mp h with ⟨-, h⟩ | ⟨-, h⟩
        · cases h
        · cases h
    · exact ih (fun r hr => hrs r (List.mem_cons_of_mem _ hr)) known' h

theorem eventsOf_ne_overflow (documents : List SourceDocument) :
    eventsOf documents ≠ .error .overflow := by
  apply fold_ne_overflow
  intro r hr
  obtain ⟨document, -, hr⟩ := List.mem_flatMap.mp hr
  obtain ⟨row, -, rfl⟩ := List.mem_map.mp hr
  exact readEvent_ne_overflow document.url row

end Run

/-- Rows that can stand together, among them the opening of a year. -/
def Settled (nfkc : Text → Text) (rs : List (Except SourceFailure MinistryEvent)) : Prop :=
  Readable rs ∧ ∃ e, .ok e ∈ rs ∧ eventKind nfkc e.title = some .yearStart

/-- An error that a caller of the parser sees, other than a date after the last day. -/
def Failed {α : Type} (result : Except SourceFailure α) : Prop :=
  ∃ e, result = .error e ∧ e ≠ .overflow

theorem normalizeDocuments_cases (nfkc : Text → Text) (documents : List SourceDocument) :
    (¬ Settled nfkc (readings documents) ∧ Failed (normalizeDocuments nfkc documents)) ∨
      Settled nfkc (readings documents) ∧ ∃ events, HoldsEvents (readings documents) events ∧
        ((normalizeDocuments nfkc documents = .error .overflow ∧
            LateBreak nfkc (events.map Prod.snd)) ∨
          ∃ entries, normalizeDocuments nfkc documents = .ok entries ∧
            calendarsFrom nfkc (events.map Prod.snd) (startsOf nfkc (events.map Prod.snd)) =
              .ok entries) := by
  cases hevents : eventsOf documents with
  | error e =>
    refine .inl ⟨?_, e, ?_, ?_⟩
    · rintro ⟨hreadable, -⟩
      obtain ⟨events, hok⟩ := fold_ok_iff.mpr hreadable
      have hfold : eventsOf documents = .ok events := hok
      rw [hevents] at hfold
      cases hfold
    · unfold normalizeDocuments
      rw [hevents]
      rfl
    · rintro rfl
      exact eventsOf_ne_overflow documents hevents
  | ok events =>
    have hholds : HoldsEvents (readings documents) events := holdsEvents_of_fold hevents
    have hrun : normalizeDocuments nfkc documents =
        (calendarsFrom nfkc (events.map Prod.snd) (startsOf nfkc (events.map Prod.snd)) >>=
          fun calendars => if calendars = [] then .error (.source "MINISTRY_NO_ACADEMIC_YEAR")
            else .ok calendars) := by
      unfold normalizeDocuments
      rw [hevents]
      rfl
    by_cases hstarts : startsOf nfkc (events.map Prod.snd) = []
    · refine .inl ⟨?_, .source "MINISTRY_NO_ACADEMIC_YEAR", ?_, fun h => (nomatch h)⟩
      · rintro ⟨-, e, he, hkind⟩
        have hmem : e.date ∈ startsOf nfkc (events.map Prod.snd) :=
          mem_startsOf.mpr ⟨e, (hholds.mem_values e).mpr he, hkind, rfl⟩
        rw [hstarts] at hmem
        cases hmem
      · rw [hrun, hstarts]
        rfl
    · refine .inr ⟨⟨hholds.readable, ?_⟩, events, hholds, ?_⟩
      · obtain ⟨d, hd⟩ := List.exists_mem_of_ne_nil _ hstarts
        obtain ⟨e, he, hkind, -⟩ := mem_startsOf.mp hd
        exact ⟨e, (hholds.mem_values e).mp he, hkind⟩
      · cases hfrom : calendarsFrom nfkc (events.map Prod.snd)
            (startsOf nfkc (events.map Prod.snd)) with
        | error e =>
          obtain ⟨rfl, hlate⟩ := calendarsFrom_error hfrom
          refine .inl ⟨?_, hlate⟩
          rw [hrun, hfrom]
          rfl
        | ok entries =>
          refine .inr ⟨entries, ?_, rfl⟩
          have hne : entries ≠ [] := by
            rintro rfl
            apply hstarts
            cases hlist : startsOf nfkc (events.map Prod.snd) with
            | nil => rfl
            | cons start starts =>
              rw [hlist] at hfrom
              obtain ⟨_, _, hnil, -⟩ := calendarsFrom_cons_ok hfrom
              cases hnil
          rw [hrun, hfrom]
          exact if_neg hne

/-! ## The pages of the ministry -/

theorem Settled.congr {rs rs' : List (Except SourceFailure MinistryEvent)}
    (hmem : ∀ r, r ∈ rs ↔ r ∈ rs') (h : Settled nfkc rs) : Settled nfkc rs' := by
  obtain ⟨⟨hread, hone⟩, e, he, hkind⟩ := h
  refine ⟨⟨?_, ?_⟩, e, (hmem _).mp he, hkind⟩
  · intro r hr
    exact hread r ((hmem r).mpr hr)
  · intro x y hx hy
    exact hone x y ((hmem _).mpr hx) ((hmem _).mpr hy)

theorem calendarsFrom_of_ok {entries : List CalendarEntry}
    (h : normalizeDocuments nfkc documents = .ok entries) :
    ∃ events, HoldsEvents (readings documents) events ∧
      calendarsFrom nfkc (events.map Prod.snd) (startsOf nfkc (events.map Prod.snd)) =
        .ok entries := by
  rcases normalizeDocuments_cases nfkc documents with
    ⟨-, e, he, -⟩ | ⟨-, events, hholds, ⟨hrun, -⟩ | ⟨entries', hrun, hfrom⟩⟩
  · rw [h] at he
    cases he
  · rw [h] at hrun
    cases hrun
  · rw [h, Except.ok.injEq] at hrun
    rw [← hrun] at hfrom
    exact ⟨events, hholds, hfrom⟩

theorem starts_nodup {entries : List CalendarEntry}
    (h : normalizeDocuments nfkc documents = .ok entries) :
    (entries.map fun c => c.dates.yearStart).Nodup := by
  obtain ⟨events, -, hfrom⟩ := calendarsFrom_of_ok h
  rw [(orderly_startsOf hfrom).opens]
  exact (KeySort.pairwise_sortedSet _).imp fun hlt => Nat.ne_of_lt hlt

def MinistryEvent.bare (e : MinistryEvent) : MinistryEvent := { e with url := [] }

end SchoolPlatform.Academics
