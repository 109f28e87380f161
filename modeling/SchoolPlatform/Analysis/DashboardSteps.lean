import SchoolPlatform.Library.AssertedRuns
import SchoolPlatform.Model.DashboardCache

/-!
# What the calls of the dashboard do

Every value that is kept anywhere is one that a call has seen under its own key (`FromRead`). What
one statement of a call does to the versions, the keys and the values is said once (`Advances`);
each call keeps its promise whatever it reads, and returns a value that was seen under the key that
it has built.
-/

namespace SchoolPlatform.DashboardCache

open ReadCommitted

variable {calls : List DashboardCall} {s s' : DashboardStore}

variable {key : DashboardKey} {value : Payload} {f : CallLocals → CallLocals}

def operationOf (calls : List DashboardCall) (call : ℕ) : Option Operation :=
  match calls[call]? with
  | some (.operation o) => some o
  | _ => none

def FromRead (s : DashboardStore) (key : DashboardKey) (value : Payload) : Prop :=
  ∃ j, (s.locals j).key = some key ∧ value.seen ⊆ (s.locals j).seen

/-- No key is of a version to come; what is kept has been seen under its key; and an operation that
does not count the version up early has committed before it does. -/
structure Sound (calls : List DashboardCall) (s : DashboardStore) : Prop where
  bumps : ∀ i o b, operationOf calls i = some o → (s.locals i).bump = some b →
    b ≤ s.versions o.school
  keys : ∀ j key, (s.locals j).key = some key → key.version ≤ s.versions key.school
  entries : ∀ e value, s.entries e = some value → FromRead s e.key value
  futures : ∀ j value, s.futures j = some (.result value) →
    ∃ key, (s.locals j).key = some key ∧ FromRead s key value
  flights : ∀ process key j, s.flights.get? (process, key) = some j →
    (s.locals j).key = some key
  late : ∀ i o b, operationOf calls i = some o → o.isEarly = false →
    (s.locals i).bump = some b → o.changes i ⊆ s.database

/-- What a commit does: versions only go up, a call builds one key and counts up once, to a version
that no key has; its builder sees the database as it is, and that after the key is built. -/
structure Advances (calls : List DashboardCall) (s s' : DashboardStore) : Prop where
  database : s.database ⊆ s'.database
  versions : ∀ school, s.versions school ≤ s'.versions school
  bump_kept : ∀ i b, (s.locals i).bump = some b → (s'.locals i).bump = some b
  bump_new : ∀ i b, (s'.locals i).bump = some b → (s.locals i).bump = some b ∨
    ∀ o, operationOf calls i = some o → s.versions o.school < b
  key_kept : ∀ j key, (s.locals j).key = some key → (s'.locals j).key = some key
  key_new : ∀ j key, (s'.locals j).key = some key → (s.locals j).key = some key ∨
    ((s.locals j).key = none ∧ s.versions key.school ≤ key.version ∧ (s'.locals j).seen = [])
  seen_kept : ∀ j, (s.locals j).seen ⊆ (s'.locals j).seen
  seen_new : ∀ j, ∀ d ∈ (s'.locals j).seen, d ∈ (s.locals j).seen ∨ d = s.database

def promise (calls : List DashboardCall) (i : ℕ) : Change DashboardStore DashboardRow :=
  fun _ s s' => Advances calls s s' ∧ (∀ j, j ≠ i → s'.locals j = s.locals j) ∧
    (Sound calls s → Sound calls s')

def rely (calls : List DashboardCall) (i : ℕ) : Change DashboardStore DashboardRow :=
  fun _ s s' => Sound calls s ∧ Sound calls s' ∧ Advances calls s s' ∧ s'.locals i = s.locals i

theorem FromRead.advance (h : FromRead s key value) (hs : Advances calls s s') :
    FromRead s' key value := by
  obtain ⟨j, hkey, hseen⟩ := h
  exact ⟨j, hs.key_kept j key hkey, List.Subset.trans hseen (hs.seen_kept j)⟩

theorem keeps_of {i : ℕ} {held : List (DashboardRow × LockMode)} {A : DashboardStore → Prop}
    (h : ∀ s s', Advances calls s s' → s'.locals i = s.locals i → A s → A s') :
    (rely calls i).Keeps held fun s => Sound calls s ∧ A s := by
  intro L s s' _ hrely hs
  obtain ⟨-, hsound, hadvance, hlocals⟩ := hrely
  exact ⟨hsound, h s s' hadvance hlocals hs.2⟩

/-- The local variables that matter are as they were. -/
structure SameCalls (s s' : DashboardStore) : Prop where
  key : ∀ j, (s'.locals j).key = (s.locals j).key
  seen : ∀ j, (s'.locals j).seen = (s.locals j).seen
  bump : ∀ j, (s'.locals j).bump = (s.locals j).bump

theorem SameCalls.refl (s : DashboardStore) : SameCalls s s :=
  ⟨fun _ => rfl, fun _ => rfl, fun _ => rfl⟩

theorem SameCalls.advances (h : SameCalls s s') (hdatabase : s.database ⊆ s'.database)
    (hversions : s'.versions = s.versions) : Advances calls s s' where
  database := hdatabase
  versions := by simp [hversions]
  bump_kept := by simp [h.bump]
  bump_new := by
    intro i b hb
    exact .inl (h.bump i ▸ hb)
  key_kept := by simp [h.key]
  key_new := by
    intro j key hkey
    exact .inl (h.key j ▸ hkey)
  seen_kept := by simp [h.seen]
  seen_new := by
    intro j d hd
    exact .inl (h.seen j ▸ hd)

theorem SameCalls.fromRead (h : SameCalls s s') (hvalue : FromRead s key value) :
    FromRead s' key value := by
  obtain ⟨j, hkey, hseen⟩ := hvalue
  exact ⟨j, (h.key j).trans hkey, h.seen j ▸ hseen⟩

theorem SameCalls.sound (h : SameCalls s s') (hs : Sound calls s)
    (hdatabase : s.database ⊆ s'.database) (hversions : s'.versions = s.versions)
    (hentries : ∀ e value, s'.entries e = some value →
      s.entries e = some value ∨ FromRead s e.key value)
    (hfutures : ∀ j value, s'.futures j = some (.result value) →
      s.futures j = some (.result value) ∨
        ∃ key, (s.locals j).key = some key ∧ FromRead s key value)
    (hflights : ∀ process key j, s'.flights.get? (process, key) = some j →
      s.flights.get? (process, key) = some j ∨ (s.locals j).key = some key) :
    Sound calls s' where
  bumps := by
    rw [hversions]
    exact fun i o b ho hb => hs.bumps i o b ho (h.bump i ▸ hb)
  keys := by
    rw [hversions]
    exact fun j key hkey => hs.keys j key (h.key j ▸ hkey)
  entries := by
    intro e value he
    rcases hentries e value he with hold | hnew
    · exact h.fromRead (hs.entries e value hold)
    · exact h.fromRead hnew
  futures := by
    intro j value hj
    obtain ⟨key, hkey, hvalue⟩ := (hfutures j value hj).elim (hs.futures j value) id
    exact ⟨key, (h.key j).trans hkey, h.fromRead hvalue⟩
  flights := by
    intro process key j hj
    rw [h.key]
    exact (hflights process key j hj).elim (hs.flights process key j) id
  late := by
    intro i o b ho hlate hb
    exact List.Subset.trans (hs.late i o b ho hlate (h.bump i ▸ hb)) hdatabase

theorem setLocals_of_ne {i j : ℕ} (hij : j ≠ i) (f : CallLocals → CallLocals) :
    (s.setLocals i f).locals j = s.locals j := Function.update_of_ne hij _ _

@[simp] theorem setLocals_self (i : ℕ) (f : CallLocals → CallLocals) :
    (s.setLocals i f).locals i = f (s.locals i) := Function.update_self _ _ _

theorem sameCalls_setLocals {i : ℕ} (hkey : (f (s.locals i)).key = (s.locals i).key)
    (hseen : (f (s.locals i)).seen = (s.locals i).seen)
    (hbump : (f (s.locals i)).bump = (s.locals i).bump) : SameCalls s (s.setLocals i f) := by
  constructor <;> intro j <;> by_cases hij : j = i <;> grind [setLocals_of_ne, setLocals_self]

theorem SameCalls.promise {i : ℕ} {L : List (DashboardRow × LockMode)} (h : SameCalls s s')
    (hothers : ∀ j, j ≠ i → s'.locals j = s.locals j) (hdatabase : s'.database = s.database)
    (hversions : s'.versions = s.versions)
    (hentries : ∀ e value, s'.entries e = some value → s.entries e = some value)
    (hfutures : s'.futures = s.futures)
    (hflights : ∀ p j, s'.flights.get? p = some j → s.flights.get? p = some j) :
    promise calls i L s s' := by
  have hsub : s.database ⊆ s'.database := by
    rw [hdatabase]
    exact List.Subset.refl _
  refine ⟨h.advances hsub hversions, hothers, fun hs => h.sound hs hsub hversions ?_ ?_ ?_⟩
  · intro e value he
    exact .inl (hentries e value he)
  · intro j value hj
    rw [hfutures] at hj
    exact .inl hj
  · intro process key j hj
    exact .inl (hflights _ j hj)

variable {i : ℕ} {L : List (DashboardRow × LockMode)}

theorem promise_refl (s : DashboardStore) : promise calls i L s s :=
  (SameCalls.refl s).promise (fun _ _ => rfl) rfl rfl (fun _ _ h => h) rfl fun _ _ h => h

theorem promise_setLocals (hkey : (f (s.locals i)).key = (s.locals i).key)
    (hseen : (f (s.locals i)).seen = (s.locals i).seen)
    (hbump : (f (s.locals i)).bump = (s.locals i).bump) : promise calls i L s (s.setLocals i f) :=
  (sameCalls_setLocals hkey hseen hbump).promise (fun _ hj => setLocals_of_ne hj f) rfl rfl
    (fun _ _ h => h) rfl fun _ _ h => h

theorem promise_addLock (reached : Bool) (key : DashboardKey) :
    promise calls i L s (addLock reached i key s) := by
  unfold addLock
  split
  · have hsame : SameCalls s ({ s with
        refreshLocks := Function.update s.refreshLocks key (some i) }.setLocals i
          fun l => { l with added := true }) := by
      obtain ⟨hkey, hseen, hbump⟩ := sameCalls_setLocals (s := { s with
        refreshLocks := Function.update s.refreshLocks key (some i) }) (i := i)
        (f := fun l => { l with added := true }) rfl rfl rfl
      exact ⟨hkey, hseen, hbump⟩
    exact hsame.promise (fun _ hj => setLocals_of_ne hj _) rfl rfl (fun _ _ h => h) rfl
      fun _ _ h => h
  · exact promise_setLocals rfl rfl rfl

theorem promise_releaseLock (reached : Bool) (key : DashboardKey) :
    promise calls i L s (releaseLock reached i key s) := by
  unfold releaseLock
  split
  · exact SameCalls.promise ⟨fun _ => rfl, fun _ => rfl, fun _ => rfl⟩ (fun _ _ => rfl) rfl rfl
      (fun _ _ h => h) rfl fun _ _ h => h
  · exact promise_refl s

theorem promise_popFlight (process : ℕ) (key : DashboardKey) :
    promise calls i L s (popFlight process key s) := by
  refine SameCalls.promise ⟨fun _ => rfl, fun _ => rfl, fun _ => rfl⟩ (fun _ _ => rfl) rfl rfl
    (fun _ _ h => h) rfl ?_
  intro p j hj
  have hfilter := Dict.get?_filter_key (fun k => k ≠ (process, key)) s.flights p
  have hpop : (popFlight process key s).flights.get? p = _ := hfilter
  rw [hpop] at hj
  split at hj
  · exact hj
  · cases hj

theorem promise_expire (entries : List EntryKey) (locks : List DashboardKey) :
    promise calls i L s (expire entries locks s) := by
  refine SameCalls.promise ⟨fun _ => rfl, fun _ => rfl, fun _ => rfl⟩ (fun _ _ => rfl) rfl rfl
    ?_ rfl fun _ _ h => h
  intro e value he
  have hkept : (if e ∈ entries then none else s.entries e) = some value := he
  split at hkept
  · cases hkept
  · exact hkept

theorem promise_setEntry {e : EntryKey} (hvalue : FromRead s e.key value) :
    promise calls i L s { s with entries := Function.update s.entries e (some value) } := by
  have hsame : SameCalls s { s with entries := Function.update s.entries e (some value) } :=
    ⟨fun _ => rfl, fun _ => rfl, fun _ => rfl⟩
  refine ⟨hsame.advances (List.Subset.refl _) rfl, fun _ _ => rfl, fun hs =>
    hsame.sound hs (List.Subset.refl _) rfl ?_ (fun _ _ h => .inl h) fun _ _ _ h => .inl h⟩
  intro e' value' he'
  dsimp only at he'
  by_cases heq : e' = e
  · subst heq
    rw [Function.update_self] at he'
    cases he'
    exact .inr hvalue
  · rw [Function.update_of_ne heq] at he'
    exact .inl he'

theorem promise_cacheSet (reached : Bool) {e : EntryKey} (hvalue : FromRead s e.key value) :
    promise calls i L s
      (if reached then { s with entries := Function.update s.entries e (some value) } else s) := by
  split
  · exact promise_setEntry hvalue
  · exact promise_refl s

theorem promise_takeFlight {process : ℕ} (hkey : (s.locals i).key = some key) :
    promise calls i L s (takeFlight i process key s) := by
  unfold takeFlight
  split
  · exact promise_setLocals rfl rfl rfl
  · split
    · exact promise_setLocals rfl rfl rfl
    · have hsame : SameCalls s ({ s with
          flights := Dict.insert s.flights (process, key) i
          futures := Function.update s.futures i (some .pending) }.setLocals i
            fun l => { l with flight := .owner }) := by
        obtain ⟨hkey, hseen, hbump⟩ := sameCalls_setLocals (s := { s with
          flights := Dict.insert s.flights (process, key) i
          futures := Function.update s.futures i (some .pending) }) (i := i)
          (f := fun l => { l with flight := .owner }) rfl rfl rfl
        exact ⟨hkey, hseen, hbump⟩
      refine ⟨hsame.advances (List.Subset.refl _) rfl, fun _ hj => setLocals_of_ne hj _, fun hs =>
        hsame.sound hs (List.Subset.refl _) rfl (fun _ _ h => .inl h) ?_ ?_⟩
      · intro j value hj
        have hnew : Function.update s.futures i (some .pending) j = some (.result value) := hj
        by_cases hij : j = i
        · subst hij
          rw [Function.update_self] at hnew
          cases hnew
        · rw [Function.update_of_ne hij] at hnew
          exact .inl hnew
      · intro process' key' j hj
        have hnew : (Dict.insert s.flights (process, key) i).get? (process', key') = some j := hj
        rw [Dict.get?_insert] at hnew
        split at hnew
        · rename_i heq
          cases heq
          cases hnew
          exact .inr hkey
        · exact .inl hnew

theorem promise_settleFlight {filled : Except DashboardFailure Payload}
    (hkey : (s.locals i).key = some key)
    (hvalue : ∀ value, filled = .ok value → FromRead s key value) :
    promise calls i L s (settleFlight i filled s) := by
  have hsame : SameCalls s (settleFlight i filled s) := ⟨fun _ => rfl, fun _ => rfl, fun _ => rfl⟩
  refine ⟨hsame.advances (List.Subset.refl _) rfl, fun _ _ => rfl, fun hs =>
    hsame.sound hs (List.Subset.refl _) rfl (fun _ _ h => .inl h) ?_ fun _ _ _ h => .inl h⟩
  intro j value hj
  have hnew : Function.update s.futures i (some (.ended filled)) j = some (.result value) := hj
  by_cases hij : j = i
  · subst hij
    rw [Function.update_self] at hnew
    cases filled with
    | error e => cases hnew
    | ok found =>
      cases hnew
      exact .inr ⟨key, hkey, hvalue value rfl⟩
  · rw [Function.update_of_ne hij] at hnew
    exact .inl hnew

theorem advances_of_call (hothers : ∀ j, j ≠ i → s'.locals j = s.locals j)
    (hself : s'.locals i = f (s.locals i)) (hdatabase : s.database ⊆ s'.database)
    (hversions : ∀ n, s.versions n ≤ s'.versions n)
    (hbump : (f (s.locals i)).bump = (s.locals i).bump ∨ (s.locals i).bump = none ∧ ∀ b, (f
      (s.locals i)).bump = some b → ∀ o, operationOf calls i = some o → s.versions o.school < b)
    (hkey : (f (s.locals i)).key = (s.locals i).key ∨ (s.locals i).key = none ∧ ∀ key, (f
      (s.locals i)).key = some key → s.versions key.school ≤ key.version ∧ (f (s.locals i)).seen =
      []) (hkept : (s.locals i).seen ⊆ (f (s.locals i)).seen)
    (hseen : ∀ d ∈ (f (s.locals i)).seen, d ∈ (s.locals i).seen ∨ d = s.database) :
    Advances calls s s' where
  database := hdatabase
  versions := hversions
  bump_kept := by
    intro j b hb
    by_cases hij : j = i <;> grind
  bump_new := by
    intro j b hb
    by_cases hij : j = i <;> grind
  key_kept := by
    intro j key hj
    by_cases hij : j = i <;> grind
  key_new := by
    intro j key hj
    by_cases hij : j = i <;> grind
  seen_kept := by
    intro j
    by_cases hij : j = i <;> grind
  seen_new := by
    intro j d hd
    by_cases hij : j = i <;> grind

theorem Advances.sound (h : Advances calls s s') (hs : Sound calls s)
    (hbumps : ∀ j o b, operationOf calls j = some o → (s'.locals j).bump = some b →
      (s.locals j).bump = some b ∨ b ≤ s'.versions o.school)
    (hkeys : ∀ j key, (s'.locals j).key = some key →
      (s.locals j).key = some key ∨ key.version ≤ s'.versions key.school)
    (hlate : ∀ j o b, operationOf calls j = some o → o.isEarly = false →
      (s'.locals j).bump = some b → (s.locals j).bump = some b ∨ o.changes j ⊆ s.database)
    (hentries : s'.entries = s.entries) (hfutures : s'.futures = s.futures)
    (hflights : s'.flights = s.flights) : Sound calls s' where
  bumps := by
    intro j o b ho hb
    exact (hbumps j o b ho hb).elim
      (fun hold => Nat.le_trans (hs.bumps j o b ho hold) (h.versions _)) id
  keys := by
    intro j key hkey
    exact (hkeys j key hkey).elim
      (fun hold => Nat.le_trans (hs.keys j key hold) (h.versions _)) id
  entries := by
    rw [hentries]
    exact fun e value he => (hs.entries e value he).advance h
  futures := by
    rw [hfutures]
    intro j value hj
    obtain ⟨key, hkey, hvalue⟩ := hs.futures j value hj
    exact ⟨key, h.key_kept j key hkey, hvalue.advance h⟩
  flights := by
    rw [hflights]
    exact fun process key j hj => h.key_kept j key (hs.flights process key j hj)
  late := by
    intro j o b ho hearly hb
    exact List.Subset.trans ((hlate j o b ho hearly hb).elim (hs.late j o b ho hearly) id)
      h.database

theorem promise_buildKey (r : DashboardRead) (hkey : (s.locals i).key = none)
    (hseen : (s.locals i).seen = []) :
    promise calls i L s (s.setLocals i fun l => { l with key := some (r.keyOn s) }) := by
  have hadvance : Advances calls s (s.setLocals i fun l => { l with key := some (r.keyOn s) }) := by
    refine advances_of_call (i := i) (f := fun l => { l with key := some (r.keyOn s) })
      (fun _ hj => setLocals_of_ne hj _) (setLocals_self i _) (List.Subset.refl _)
      (fun _ => Nat.le_refl _) (.inl rfl) (.inr ⟨hkey, ?_⟩) (List.Subset.refl _) fun _ h => .inl h
    intro key hnew
    cases hnew
    exact ⟨Nat.le_refl _, hseen⟩
  refine ⟨hadvance, fun _ hj => setLocals_of_ne hj _, fun hs => hadvance.sound hs ?_ ?_ ?_ rfl rfl
    rfl⟩
  · intro j o b _ hb
    by_cases hij : j = i <;> grind [setLocals_of_ne, setLocals_self]
  · intro j key hj
    by_cases hij : j = i
    · subst hij
      rw [setLocals_self] at hj
      cases hj
      exact .inr (Nat.le_refl _)
    · exact .inl (setLocals_of_ne hij _ ▸ hj)
  · intro j o b _ _ hb
    by_cases hij : j = i <;> grind [setLocals_of_ne, setLocals_self]

theorem promise_query :
    promise calls i L s (s.setLocals i fun l => { l with seen := l.seen ++ [s.database] }) := by
  have hadvance : Advances calls s
      (s.setLocals i fun l => { l with seen := l.seen ++ [s.database] }) := by
    refine advances_of_call (i := i) (f := fun l => { l with seen := l.seen ++ [s.database] })
      (fun _ hj => setLocals_of_ne hj _) (setLocals_self i _) (List.Subset.refl _)
      (fun _ => Nat.le_refl _) (.inl rfl) (.inl rfl) (List.subset_append_left _ _) ?_
    intro d hd
    rcases List.mem_append.mp hd with hold | hnew
    · exact .inl hold
    · exact .inr (List.mem_singleton.mp hnew)
  refine ⟨hadvance, fun _ hj => setLocals_of_ne hj _, fun hs => hadvance.sound hs ?_ ?_ ?_ rfl rfl
    rfl⟩
  · intro j o b _ hb
    by_cases hij : j = i <;> grind [setLocals_of_ne, setLocals_self]
  · intro j key hj
    by_cases hij : j = i <;> grind [setLocals_of_ne, setLocals_self]
  · intro j o b _ _ hb
    by_cases hij : j = i <;> grind [setLocals_of_ne, setLocals_self]

theorem promise_addChange (x : DatabaseChange) : promise calls i L s (addChange x s) := by
  have hsame : SameCalls s (addChange x s) := ⟨fun _ => rfl, fun _ => rfl, fun _ => rfl⟩
  have hsub : s.database ⊆ (addChange x s).database := List.subset_append_left _ _
  exact ⟨hsame.advances hsub rfl, fun _ _ => rfl, fun hs => hsame.sound hs hsub rfl
    (fun _ _ h => .inl h) (fun _ _ h => .inl h) fun _ _ _ h => .inl h⟩

theorem bump_self (school version : ℕ) (added : Bool) :
    (s.bump i school version added).locals i =
      { s.locals i with bump := some version, added := added } := Function.update_self _ _ _

theorem promise_bump {o : Operation} {version : ℕ} (added : Bool) (ho : operationOf calls i = some o)
    (hbump : (s.locals i).bump = none) (hversion : s.versions o.school < version)
    (hlate : o.isEarly = false → o.changes i ⊆ s.database) :
    promise calls i L s (s.bump i o.school version added) := by
  have hversions : ∀ n, s.versions n ≤ (s.bump i o.school version added).versions n := by
    intro n
    show s.versions n ≤ Function.update s.versions o.school version n
    by_cases hn : n = o.school
    · rw [hn, Function.update_self]
      exact Nat.le_of_lt hversion
    · rw [Function.update_of_ne hn]
  have hothers : ∀ j, j ≠ i → (s.bump i o.school version added).locals j = s.locals j :=
    fun _ hj => Function.update_of_ne hj _ _
  have hself := bump_self (s := s) (i := i) o.school version added
  have hadvance : Advances calls s (s.bump i o.school version added) := by
    refine advances_of_call (i := i) (f := fun l => { l with bump := some version, added := added })
      hothers hself (List.Subset.refl _) hversions (.inr ⟨hbump, ?_⟩) (.inl rfl) (List.Subset.refl _)
      fun _ h => .inl h
    intro b hb o' ho'
    cases hb
    rw [ho] at ho'
    cases ho'
    exact hversion
  refine ⟨hadvance, hothers, fun hs => hadvance.sound hs ?_ ?_ ?_ rfl rfl rfl⟩
  · intro j o' b ho' hb
    by_cases hij : j = i
    · have hnew : (s.bump i o.school version added).versions o.school = version :=
        Function.update_self _ _ _
      grind
    · exact .inl (hothers j hij ▸ hb)
  · intro j key hj
    by_cases hij : j = i <;> grind
  · intro j o' b ho' hearly hb
    by_cases hij : j = i <;> grind

end SchoolPlatform.DashboardCache
