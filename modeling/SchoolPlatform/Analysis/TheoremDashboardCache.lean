import SchoolPlatform.Analysis.DashboardCalls

/-!
# A committed change is shown

What a builder reads under a key includes every change whose version the key carries: an operation
that commits first is in the database whenever its version is there, and one that counts the version
up first is in it when the builders ask in time (`Timely`).
-/

namespace SchoolPlatform.DashboardCache

open ReadCommitted

variable {calls : List DashboardCall} {s s' : DashboardStore}

/-- The version of an operation that counts up before its commit is not ahead of the commit for a
key. -/
def InTime (calls : List DashboardCall) (s : DashboardStore) (key : DashboardKey) : Prop :=
  ∀ i < calls.length, ∀ o ∈ operationOf calls i, o.isEarly = true → o.school = key.school →
    ∀ b ∈ (s.locals i).bump, b ≤ key.version → o.changes i ⊆ s.database

instance instDecidableInTime (key : DashboardKey) : Decidable (InTime calls s key) :=
  inferInstanceAs (Decidable (∀ i < calls.length, ∀ o ∈ operationOf calls i, o.isEarly = true →
    o.school = key.school → ∀ b ∈ (s.locals i).bump, b ≤ key.version → o.changes i ⊆ s.database))

/-- No builder queries the database between the new version of an operation and its commit, when
its key carries that version. -/
def Timely (calls : List DashboardCall) (s s' : DashboardStore) : Prop :=
  ∀ j < calls.length, (s'.locals j).seen ≠ (s.locals j).seen →
    ∀ key ∈ (s.locals j).key, InTime calls s key

instance instDecidableTimely : Decidable (Timely calls s s') :=
  inferInstanceAs (Decidable (∀ j < calls.length, (s'.locals j).seen ≠ (s.locals j).seen →
    ∀ key ∈ (s.locals j).key, InTime calls s key))

/-- What a call has seen under its key includes the changes whose version the key carries. -/
def Fresh (calls : List DashboardCall) (s : DashboardStore) : Prop :=
  ∀ j key, (s.locals j).key = some key → ∀ i o b, operationOf calls i = some o →
    o.school = key.school → (s.locals i).bump = some b → b ≤ key.version →
      ∀ d ∈ (s.locals j).seen, o.changes i ⊆ d

theorem lt_of_operationOf {i : ℕ} {o : Operation} (h : operationOf calls i = some o) :
    i < calls.length := by
  by_contra hle
  unfold operationOf at h
  rw [List.getElem?_eq_none (Nat.le_of_not_lt hle)] at h
  cases h

theorem Fresh.step {i : ℕ} {L : List (DashboardRow × LockMode)} (hfresh : Fresh calls s)
    (hs : Sound calls s) (hi : i < calls.length) (hpromise : promise calls i L s s')
    (htimely : Timely calls s s') : Fresh calls s' := by
  obtain ⟨hadvance, hothers, -⟩ := hpromise
  intro j key hkey n o b ho hschool hb hversion d hd
  rcases hadvance.key_new j key hkey with hold | ⟨-, -, hseen⟩
  · -- A version that is new is beyond every key.
    have hbump : (s.locals n).bump = some b := by
      rcases hadvance.bump_new n b hb with hbefore | hnew
      · exact hbefore
      · have hlt := hnew o ho
        have hle := hs.keys j key hold
        rw [hschool] at hlt
        omega
    rcases hadvance.seen_new j d hd with hbefore | hquery
    · exact hfresh j key hold n o b ho hschool hbump hversion d hbefore
    · by_cases hsame : (s'.locals j).seen = (s.locals j).seen
      · rw [hsame] at hd
        exact hfresh j key hold n o b ho hschool hbump hversion d hd
      · have hj : j = i := by
          by_contra hne
          rw [hothers j hne] at hsame
          exact hsame rfl
        rw [hquery]
        cases hearly : o.isEarly with
        | true =>
          exact htimely j (hj ▸ hi) hsame key hold n (lt_of_operationOf ho) o ho hearly hschool b
            hbump hversion
        | false => exact hs.late n o b ho hearly hbump
  · rw [hseen] at hd
    cases hd

/-- Along a run versions only go up, a call keeps its key and its count, and a key that is built is
of a version that is there. -/
structure Onward (s s' : DashboardStore) : Prop where
  versions : ∀ school, s.versions school ≤ s'.versions school
  bump_kept : ∀ i b, (s.locals i).bump = some b → (s'.locals i).bump = some b
  key_kept : ∀ j key, (s.locals j).key = some key → (s'.locals j).key = some key
  key_new : ∀ j key, (s'.locals j).key = some key →
    (s.locals j).key = some key ∨ s.versions key.school ≤ key.version

theorem Onward.refl (s : DashboardStore) : Onward s s :=
  ⟨fun _ => Nat.le_refl _, fun _ _ h => h, fun _ _ h => h, fun _ _ h => .inl h⟩

theorem Onward.trans {t : DashboardStore} (h : Onward s s') (h' : Onward s' t) : Onward s t where
  versions := fun school => Nat.le_trans (h.versions school) (h'.versions school)
  bump_kept := fun i b hb => h'.bump_kept i b (h.bump_kept i b hb)
  key_kept := fun j key hkey => h'.key_kept j key (h.key_kept j key hkey)
  key_new := by
    intro j key hkey
    rcases h'.key_new j key hkey with hmiddle | hlater
    · exact h.key_new j key hmiddle
    · exact .inr (Nat.le_trans (h.versions _) hlater)

theorem Advances.onward (h : Advances calls s s') : Onward s s' where
  versions := h.versions
  bump_kept := h.bump_kept
  key_kept := h.key_kept
  key_new := fun j key hkey => (h.key_new j key hkey).imp_right fun hnew => hnew.2.1

def dashboardStart (database : Database) (versions : ℕ → ℕ) : DashboardStore where
  database := database
  versions := versions

theorem sound_start (database : Database) (versions : ℕ → ℕ) :
    Sound calls (dashboardStart database versions) where
  bumps := by
    intro i o b _ h
    cases h
  keys := by
    intro j key h
    cases h
  entries := by
    intro e value h
    cases h
  futures := by
    intro j value h
    cases h
  flights := by
    intro process key j h
    cases h
  late := by
    intro i o b _ _ h
    cases h

abbrev DashboardConfig :=
  Config DashboardStore DashboardRow DashboardFailure DashboardAnswer

structure InRun (calls : List DashboardCall) (c : DashboardConfig) : Prop where
  asserted : c.Asserted (rely calls) (promise calls) (Ended calls)
  sound : Sound calls c.store
  fresh : Fresh calls c.store
  threads : c.threads.length = calls.length

theorem inRun_start (calls : List DashboardCall) (database : Database) (versions : ℕ → ℕ) :
    InRun calls (Config.start (dashboardStart database versions) (programs calls)) where
  asserted := by
    apply Config.asserted_start
    intro i p hp
    unfold programs at hp
    rw [List.getElem?_mapIdx, Option.map_eq_some_iff] at hp
    obtain ⟨call, hcall, rfl⟩ := hp
    exact ⟨Idle calls i, ⟨sound_start database versions, rfl, rfl, rfl⟩, idle_keeps,
      call_asserts hcall⟩
  sound := sound_start database versions
  fresh := by
    intro j key h
    cases h
  threads := by
    unfold Config.start programs
    rw [List.length_map, List.length_mapIdx]

theorem InRun.exec {c c' : DashboardConfig} {l : List ℕ} (h : InRun calls c)
    (hexec : c.exec l = some c') (htimely : c.EachStep (Timely calls) l) :
    InRun calls c' ∧ Onward c.store c'.store ∧
      ∀ j, j ∉ l → c'.store.locals j = c.store.locals j := by
  have hG : ∀ i ∈ l, ∀ L s s', promise calls i L s s' → Timely calls s s' →
      (Sound calls s ∧ Fresh calls s) → (Sound calls s' ∧ Fresh calls s') ∧
        Onward s s' ∧ ∀ j, j ∉ l → s'.locals j = s.locals j := by
    intro i hi L s s' hpromise hok hs
    have hlt : i < calls.length := by
      have hthread := Config.lt_of_exec hexec hi
      rwa [h.threads] at hthread
    refine ⟨⟨hpromise.2.2 hs.1, hs.2.step hs.1 hlt hpromise hok⟩, hpromise.1.onward, ?_⟩
    intro j hj
    apply hpromise.2.1
    intro hji
    exact hj (hji ▸ hi)
  have hR : ∀ i j L s s', i ≠ j → promise calls i L s s' → Timely calls s s' →
      (Sound calls s ∧ Fresh calls s) → rely calls j L s s' := by
    intro i j L s s' hij hpromise _ hs
    exact ⟨hs.1, hpromise.2.2 hs.1, hpromise.1, hpromise.2.1 j (Ne.symm hij)⟩
  obtain ⟨hasserted, ⟨hsound, hfresh⟩, honward⟩ := h.asserted.exec
    (P := fun s s' => Onward s s' ∧ ∀ j, j ∉ l → s'.locals j = s.locals j)
    (fun s => ⟨Onward.refl s, fun _ _ => rfl⟩)
    (fun s t u hst htu => ⟨hst.1.trans htu.1, fun j hj => (htu.2 j hj).trans (hst.2 j hj)⟩)
    l hG hR ⟨h.sound, h.fresh⟩ hexec htimely
  have hlength : c'.threads.length = c.threads.length := Config.length_exec hexec
  exact ⟨⟨hasserted, hsound, hfresh, hlength.trans h.threads⟩, honward⟩

/-- What is kept or has been served of a school, under keys from a version on, includes the
changes. -/
structure Shows (calls : List DashboardCall) (changes : List DatabaseChange) (school version : ℕ)
    (c : DashboardConfig) : Prop where
  kept : ∀ e value, c.store.entries e = some value → e.key.school = school →
    version ≤ e.key.version → ∀ d ∈ value.seen, changes ⊆ d
  served : ∀ j r key value, calls[j]? = some (.read r) →
    c.answer? j = some (.payload (some value)) → (c.store.locals j).key = some key →
      key.school = school → version ≤ key.version → ∀ d ∈ value.seen, changes ⊆ d

theorem InRun.shows {c : DashboardConfig} (h : InRun calls c) {i b : ℕ} {o : Operation}
    (ho : operationOf calls i = some o) (hb : (c.store.locals i).bump = some b) :
    Shows calls (o.changes i) o.school b c where
  kept := by
    intro e value he hschool hversion d hd
    obtain ⟨j, hkey, hseen⟩ := h.sound.entries e value he
    exact h.fresh j e.key hkey i o b ho hschool.symm hb hversion d (hseen hd)
  served := by
    intro j r key value hr hvalue hkey hschool hversion d hd
    obtain ⟨key', hkey', -, n, hfrom, hseen⟩ := (h.asserted.post hvalue).1 r value hr rfl
    rw [hkey] at hkey'
    cases hkey'
    exact h.fresh n key hfrom i o b ho hschool.symm hb hversion d (hseen hd)

/-- **No committed change is hidden.** In a run whose builders ask in time, let an operation return
after the first part. Whatever is kept or served then or later under its version or a later one
includes its changes, and so does every read that starts after that part. -/
theorem committed_change_shown (calls : List DashboardCall) (database : Database)
    (versions : ℕ → ℕ) (l m : List ℕ) (c₁ c₂ : DashboardConfig)
    (h₁ : (Config.start (dashboardStart database versions) (programs calls)).exec l = some c₁)
    (h₂ : c₁.exec m = some c₂)
    (htimely : (Config.start (dashboardStart database versions) (programs calls)).EachStep
      (Timely calls) (l ++ m))
    (i : ℕ) (o : Operation) (ho : calls[i]? = some (.operation o))
    (hchanged : c₁.answer? i = some (.changed true)) :
    ∃ b, (c₁.store.locals i).bump = some b ∧ b ≤ c₁.store.versions o.school ∧
      Shows calls (o.changes i) o.school b c₁ ∧ Shows calls (o.changes i) o.school b c₂ ∧
      ∀ j r value, j ∉ l → calls[j]? = some (.read r) → r.school = o.school →
        c₂.answer? j = some (.payload (some value)) → ∀ d ∈ value.seen, o.changes i ⊆ d := by
  have hoperation : operationOf calls i = some o := by
    unfold operationOf
    rw [ho]
  obtain ⟨hrun₁, -, hidle⟩ := (inRun_start calls database versions).exec h₁ htimely.of_append
  obtain ⟨hrun₂, honward, -⟩ := hrun₁.exec h₂ (htimely.of_exec h₁)
  obtain ⟨b, hb⟩ := (hrun₁.asserted.post hchanged).2 o hoperation rfl
  have hversion := hrun₁.sound.bumps i o b hoperation hb
  have hshows := hrun₂.shows hoperation (honward.bump_kept i b hb)
  refine ⟨b, hb, hversion, hrun₁.shows hoperation hb, hshows, ?_⟩
  intro j r value hj hr hschool hvalue d hd
  obtain ⟨key, hkey, hkeySchool, -⟩ := (hrun₂.asserted.post hvalue).1 r value hr rfl
  have hsame : key.school = o.school := hkeySchool.trans hschool
  have hnew : c₁.store.versions key.school ≤ key.version := by
    rcases honward.key_new j key hkey with hbefore | hlater
    · rw [hidle j hj] at hbefore
      cases hbefore
    · exact hlater
  rw [hsame] at hnew
  exact hshows.served j r key value hr hvalue hkey hsame (Nat.le_trans hversion hnew) d hd

def secondPeriod : SessionSlot where
  school := 1
  sectionId := 3
  attendanceDate := 739500
  periodSequence := 2

def summaryRead : DashboardRead where
  school := 1
  view := "overview"
  parts := "today"
  ttl := 60
  queries := 1
  polls := [{}]

def startAndReads : List DashboardCall :=
  [.read summaryRead, .operation (.startSession true secondPeriod), .read summaryRead]

def readsStart : DashboardConfig :=
  Config.start (dashboardStart [] fun _ => 0) (programs startAndReads)

def readThenStart : List ℕ := List.replicate 34 0 ++ List.replicate 11 1

def laterRead : List ℕ := List.replicate 34 2

/-- The second reader finds the session. -/
theorem readThenStart_shown : ∃ c₁ c₂, readsStart.exec readThenStart = some c₁ ∧
    c₁.exec laterRead = some c₂ ∧ c₁.answer? 1 = some (.changed true) ∧
    c₂.answer? 2 = some (.payload (some ⟨[[.session secondPeriod]]⟩)) ∧
    ∃ b, b ≤ c₁.store.versions 1 ∧
      Shows startAndReads [.session secondPeriod] 1 b c₂ := by
  have hend : ((readsStart.exec readThenStart).bind fun c => c.exec laterRead).bind
      (fun c => c.answer? 2) = some (.payload (some ⟨[[.session secondPeriod]]⟩)) := by
    decide +kernel
  have hmiddle : (readsStart.exec readThenStart).bind (fun c => c.answer? 1) =
      some (.changed true) := by
    decide +kernel
  have htimely : readsStart.EachStep (Timely startAndReads) (readThenStart ++ laterRead) :=
    Config.eachStep_of_check _ (by decide +kernel)
  rw [Option.bind_eq_some_iff] at hend hmiddle
  obtain ⟨c₂, hc₂, hread⟩ := hend
  obtain ⟨c₁, hc₁, hstarted⟩ := hmiddle
  rw [hc₁, Option.bind_some] at hc₂
  obtain ⟨b, -, hversion, -, hshows, -⟩ := committed_change_shown startAndReads [] (fun _ => 0)
    readThenStart laterRead c₁ c₂ hc₁ hc₂ htimely 1 (.startSession true secondPeriod) rfl hstarted
  exact ⟨c₁, c₂, hc₁, hc₂, hstarted, hread, b, hversion, hshows⟩

def overtakenStart : List ℕ := List.replicate 4 1 ++ List.replicate 34 0 ++ List.replicate 7 1

/-- The second reader begins after the start has returned, and does not see the session: the first
one has stored what it saw before the commit under the new version. -/
theorem overtakenStart_hidden : ∃ c₁ c₂, readsStart.exec overtakenStart = some c₁ ∧
    c₁.exec (List.replicate 5 2) = some c₂ ∧ c₁.answer? 1 = some (.changed true) ∧
    c₁.store.entries (.value ⟨1, "overview", 1, "today"⟩) = some ⟨[[]]⟩ ∧
    c₁.store.database = [.session secondPeriod] ∧ c₁.store.versions 1 = 1 ∧
    2 ∉ overtakenStart ∧ c₂.answer? 2 = some (.payload (some ⟨[[]]⟩)) := by
  have hend : ((readsStart.exec overtakenStart).bind fun c => c.exec (List.replicate 5 2)).bind
      (fun c => c.answer? 2) = some (.payload (some ⟨[[]]⟩)) := by
    decide +kernel
  have hmiddle : ((readsStart.exec overtakenStart).map fun c => (c.answer? 1,
      c.store.entries (.value ⟨1, "overview", 1, "today"⟩), c.store.database,
      c.store.versions 1)) =
      some (some (.changed true), some ⟨[[]]⟩, [.session secondPeriod], 1) := by
    decide +kernel
  rw [Option.bind_eq_some_iff] at hend
  rw [Option.map_eq_some_iff] at hmiddle
  obtain ⟨c₂, hc₂, hread⟩ := hend
  obtain ⟨c₁, hc₁, hafter⟩ := hmiddle
  rw [hc₁, Option.bind_some] at hc₂
  simp only [Prod.mk.injEq] at hafter
  obtain ⟨hstarted, hentry, hdatabase, hversion⟩ := hafter
  exact ⟨c₁, c₂, hc₁, hc₂, hstarted, hentry, hdatabase, hversion, by decide, hread⟩

end SchoolPlatform.DashboardCache
