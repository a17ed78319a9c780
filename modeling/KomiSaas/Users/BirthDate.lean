import KomiSaas.Users.Interleaving
import KomiSaas.Shared.DateParse

/-!
# The birth date of a user that is saved again

Every change of a user reads `user_birth_date` and writes it back
(`user.repository.ts`, lines 194–226). The column is read as midnight UTC of its day
and written as the day of that instant in the time zone of the server, so every save
moves it by the days between the two (`localDay_midnight`): by none at UTC and east of
it, and by one day back west of it.

A run interleaves the calls in any way. One in which no call starts before the last one
has ended is a sequence of whole calls.

Result: `birthDate_kept_iff`.
-/

namespace KomiSaas.Users.Interleaving

open KomiSaas.Lib KomiSaas.Lib.Flights KomiSaas.Shared

/-- A server with a fixed offset from UTC, in milliseconds. -/
def atOffset (env : UserEnv) (offset : ℤ) : UserEnv :=
  { env with localDay := fun date => (date + offset).fdiv millisecondsPerDay }

/-- The requests that do not set a birth date. -/
def withoutBirthDate (env : UserEnv) : System (List UserRow) Request Flight Instant :=
  { users env with enabled := fun _ _ request => !request.operation.change.targets .age }

/-- The day in the column of a user. -/
def birthDay (store : List UserRow) (user : Uuid × Uuid) : Option ℤ :=
  (Rows.find keyOf user store).map (·.age)

/-- The column `user_birth_date` of a user: its year, month and day. -/
def birthDate (store : List UserRow) (user : Uuid × Uuid) : Option (ℤ × ℕ × ℕ) :=
  (birthDay store user).map civilOfDays

/-- How far a save moves the day. -/
def drift (offset : ℤ) : ℤ := offset.fdiv millisecondsPerDay

variable {env : UserEnv} {offset : ℤ} {first store store' : List UserRow} {flight : Flight}
  {request : Request} {now : Instant} {user : Uuid × Uuid} {s s' : UserState} {a : UserAction}

/-! ## One save -/

/-- Different days are different dates. -/
theorem civilOfDays_injective : Function.Injective civilOfDays := by
  intro day day' h
  have hback := (civilOfDays_spec day).1
  rw [h, (civilOfDays_spec day').1] at hback
  exact hback.symm

theorem birthDate_eq_iff : birthDate store user = birthDate store' user ↔
    birthDay store user = birthDay store' user :=
  (Option.map_injective civilOfDays_injective).eq_iff

/-- The day that midnight UTC of a day has on the server. -/
theorem localDay_midnight (day : ℤ) :
    (atOffset env offset).localDay (day * millisecondsPerDay) = day + drift offset := by
  show (day * millisecondsPerDay + offset).fdiv millisecondsPerDay = _
  unfold drift millisecondsPerDay
  rw [Int.fdiv_eq_ediv_of_nonneg _ (by norm_num), Int.fdiv_eq_ediv_of_nonneg _ (by norm_num)]
  omega

theorem drift_eq_zero_iff : drift offset = 0 ↔ 0 ≤ offset ∧ offset < millisecondsPerDay := by
  unfold drift millisecondsPerDay
  rw [Int.fdiv_eq_ediv_of_nonneg _ (by norm_num)]
  omega

/-- A loaded user has the birth date of its row, at midnight UTC. -/
theorem age_of_prepare {users : List UserRow} {call : UserCall} {operation : Operation}
    {loaded changed : UserAggregate}
    (h : operation.prepare env call users = .ok (loaded, changed)) :
    ∃ day, birthDay users (operation.tenantId, operation.id) = some day ∧
      loaded.age = day * millisecondsPerDay := by
  obtain ⟨_, hload, h⟩ := bind_eq_ok.mp h
  obtain ⟨_, -, h⟩ := bind_eq_ok.mp h
  obtain ⟨rfl, rfl⟩ := Prod.mk.inj (Except.ok.inj h)
  obtain ⟨found, hfind, hload⟩ := bind_eq_ok.mp hload
  cases found with
  | none => cases hload
  | some found =>
    obtain rfl := Except.ok.inj hload
    unfold UserRepository.searchAggregateById at hfind
    split at hfind
    · cases Except.ok.inj hfind
    · rename_i row hrow
      obtain ⟨user, huser, hsome⟩ := map_eq_ok.mp hfind
      obtain rfl := Option.some.inj hsome
      have hsame : (fun row : UserRow =>
          row.tenantId = operation.tenantId && row.id = operation.id) =
            fun row => decide (keyOf row = (operation.tenantId, operation.id)) := by
        funext row
        simp [keyOf]
      rw [hsame] at hrow
      have hrow : Rows.find keyOf (operation.tenantId, operation.id) users = some row := hrow
      refine ⟨row.age, by rw [birthDay, hrow]; rfl, ?_⟩
      obtain ⟨_, -, huser⟩ := bind_eq_ok.mp huser
      obtain ⟨_, -, huser⟩ := bind_eq_ok.mp huser
      obtain ⟨_, -, huser⟩ := bind_eq_ok.mp huser
      obtain ⟨age, hage, huser⟩ := bind_eq_ok.mp huser
      obtain ⟨_, -, huser⟩ := bind_eq_ok.mp huser
      rw [← Except.ok.inj huser]
      unfold UserBirthDate.create at hage
      simp only at hage
      split_ifs at hage
      exact (Except.ok.inj hage).symm

/-! ## The invariant of a run -/

/-- A number of saves after the `first` store: the day of the user in a store. -/
def Drifted (offset : ℤ) (first : List UserRow) (user : Uuid × Uuid) (store : List UserRow) :
    Prop :=
  ∃ saves : ℕ, birthDay store user = (birthDay first user).map (· + saves * drift offset)

/-- At least one save after it. -/
def Moved (offset : ℤ) (first : List UserRow) (user : Uuid × Uuid) (store : List UserRow) : Prop :=
  ∃ day, birthDay first user = some day ∧ ∃ saves : ℕ,
    birthDay store user = some (day + (saves + 1) * drift offset)

/-- The same of the day that a call is going to write, which is one save more. -/
def WritesDrifted (env : UserEnv) (offset : ℤ) (first : List UserRow) (user : Uuid × Uuid)
    (flight : Flight) : Prop :=
  flight.key = user → ∃ day, birthDay first user = some day ∧ ∃ saves : ℕ,
    (atOffset env offset).localDay flight.changed.age = day + (saves + 1) * drift offset

/-- What holds of the calls in flight: see `FlightInv`, and of the birth date. -/
abbrev BirthInv (env : UserEnv) (offset : ℤ) (first : List UserRow) (user : Uuid × Uuid) :
    UserState → Prop :=
  Inv (Drifted offset first user) (fun store flight =>
    FlightInv (atOffset env offset) store flight ∧ WritesDrifted env offset first user flight)
    fun _ _ => True

theorem writesDrifted_of_read (hstore : Drifted offset first user store)
    (henabled : request.operation.change.targets .age = false)
    (hread : (users (atOffset env offset)).read store request = (store', some flight)) :
    WritesDrifted env offset first user flight := by
  simp only [users] at hread
  split at hread
  · cases (Prod.mk.inj hread).2
  · rename_i loaded changed hprepare
    obtain rfl := Option.some.inj (Prod.mk.inj hread).2
    obtain ⟨day, hday, hage⟩ := age_of_prepare hprepare
    obtain ⟨-, -, hagrees⟩ := prepare_eq_ok hprepare
    intro hkey
    obtain rfl : (request.operation.tenantId, request.operation.id) = user := hkey
    obtain ⟨saves, hsaves⟩ := hstore
    rw [hday, eq_comm, Option.map_eq_some_iff] at hsaves
    obtain ⟨original, horiginal, hmoved⟩ := hsaves
    refine ⟨original, horiginal, saves, ?_⟩
    have hsame : (atOffset env offset).localDay changed.age =
        (atOffset env offset).localDay loaded.age :=
      ColumnValue.number.inj (hagrees.columns request.call.now sampleUser .age henabled)
    rw [hsame, hage, localDay_midnight, ← hmoved]
    ring

/-- A save of the user writes the day of its call. -/
theorem birthDay_write (hid : flight.changed.id = flight.operation.id)
    (h : (users env).write store flight now = some store') :
    birthDay store' user = (birthDay store user).map fun day =>
      if flight.key = user then env.localDay flight.changed.age else day := by
  unfold birthDay
  rw [find_write hid h, Option.map_map, Option.map_map]
  congr 1
  funext row
  show (if flight.key = user then _ else row : UserRow).age = _
  split_ifs <;> rfl

theorem moved_of_save (hflight : FlightInv (atOffset env offset) store flight)
    (hdrifted : WritesDrifted env offset first user flight) (hkey : flight.key = user)
    (h : (users (atOffset env offset)).write store flight now = some store') :
    Moved offset first user store' := by
  obtain ⟨day, hday, saves, hsaves⟩ := hdrifted hkey
  obtain ⟨row, hrow⟩ := Rows.exists_find_of_mem_keys hflight.stored
  refine ⟨day, hday, saves, ?_⟩
  rw [birthDay_write hflight.id h, birthDay, ← hkey, hrow, Option.map_some, Option.map_some,
    if_pos rfl, hsaves]

theorem drifted_of_moved (h : Moved offset first user store) :
    Drifted offset first user store := by
  obtain ⟨day, hday, saves, hsaves⟩ := h
  refine ⟨saves + 1, ?_⟩
  rw [hsaves, hday, Option.map_some, Nat.cast_add_one]

/-- A save of another user leaves the day. -/
theorem birthDay_write_of_ne (hid : flight.changed.id = flight.operation.id)
    (h : (users env).write store flight now = some store') (hkey : flight.key ≠ user) :
    birthDay store' user = birthDay store user := by
  rw [birthDay_write hid h]
  simp only [if_neg hkey]
  exact Option.map_id'

theorem keeps_birthDate (env : UserEnv) (offset : ℤ) (first : List UserRow) (user : Uuid × Uuid) :
    Keeps (withoutBirthDate (atOffset env offset)) (Drifted offset first user)
      (fun store flight => FlightInv (atOffset env offset) store flight ∧
        WritesDrifted env offset first user flight) fun _ _ => True where
  symm _ := trivial
  read hstore hread := by
    rw [(read_eq hread).1]
    exact ⟨hstore, fun _ h => h⟩
  took hstore henabled hread _ := by
    have henabled := Bool.eq_false_of_not_eq_true' henabled
    refine ⟨⟨?_, writesDrifted_of_read hstore henabled hread⟩, fun _ _ => trivial⟩
    obtain ⟨rfl, hflight⟩ := read_eq hread
    exact hflight _ rfl
  wrote {_ flight _ _} hstore hflight hwrite := by
    refine ⟨?_, fun other h _ => ⟨?_, h.2⟩⟩
    · by_cases hkey : flight.key = user
      · exact drifted_of_moved (moved_of_save hflight.1 hflight.2 hkey hwrite)
      · obtain ⟨saves, hsaves⟩ := hstore
        exact ⟨saves, (birthDay_write_of_ne hflight.1.id hwrite hkey).trans hsaves⟩
    · exact ((keeps_flights (atOffset env offset)).wrote trivial hflight.1 hwrite).2 other h.1
        trivial

/-- A step saves the user, or leaves its day. -/
theorem birthDay_of_next (hinv : BirthInv env offset first user s)
    (hnext : next (withoutBirthDate (atOffset env offset)) s a = some s') :
    (Moved offset first user s'.store ∧ ∃ flight,
      Writes (withoutBirthDate (atOffset env offset)) ⟨s, a, s'⟩ flight ∧ flight.key = user) ∨
    (birthDay s'.store user = birthDay s.store user ∧ ∀ flight,
      Writes (withoutBirthDate (atOffset env offset)) ⟨s, a, s'⟩ flight → flight.key ≠ user) := by
  have hstore := store_of_next hnext
  have hwrites := fun flight => @writing_eq_some_iff _ _ _ _ _ _ _ _ flight hnext
  cases hwriting : writing (withoutBirthDate (atOffset env offset)) s a with
  | none =>
    rw [hwriting] at hstore hwrites
    refine .inr ⟨?_, fun flight h => nomatch (hwrites flight).mpr h⟩
    rcases hstore with hsame | ⟨request, result, hread⟩
    · rw [hsame]
    · rw [(read_eq hread).1]
  | some flight =>
    rw [hwriting] at hstore hwrites
    obtain ⟨now, hwrite⟩ := hstore
    obtain ⟨n, hmem⟩ := mem_of_writing hwriting
    obtain ⟨hflight, hdrifted⟩ := hinv.flights _ hmem
    by_cases hkey : flight.key = user
    · exact .inl ⟨moved_of_save hflight hdrifted hkey hwrite, flight, (hwrites flight).mp rfl, hkey⟩
    · refine .inr ⟨birthDay_write_of_ne hflight.id hwrite hkey, fun other h => ?_⟩
      rw [← Option.some.inj ((hwrites other).mpr h)]
      exact hkey

/-- A run saves the user, or leaves its day. -/
theorem birthDay_of_run {tr : List UserTransition}
    (hrun : Run (next (withoutBirthDate (atOffset env offset))) (State.quiet first) tr s)
    (user : Uuid × Uuid) :
    (Moved offset first user s.store ∧ ∃ t ∈ tr, ∃ flight,
      Writes (withoutBirthDate (atOffset env offset)) t flight ∧ flight.key = user) ∨
    (birthDay s.store user = birthDay first user ∧ ∀ t ∈ tr, ∀ flight,
      Writes (withoutBirthDate (atOffset env offset)) t flight → flight.key ≠ user) := by
  have hinit : BirthInv env offset first user (State.quiet first) := by
    refine Inv.quiet ⟨0, ?_⟩
    simp
  induction hrun with
  | nil => exact .inr ⟨rfl, fun _ ht => absurd ht List.not_mem_nil⟩
  | @snoc tr s s' a hrun hnext ih =>
    have hinv : BirthInv env offset first user s :=
      (hrun.invariant (fun _ _ _ h => h.step (keeps_birthDate env offset first user)) hinit).1
    rcases birthDay_of_next hinv hnext with ⟨hmoved, flight, hwrites, hkey⟩ | ⟨hsame, hothers⟩
    · exact .inl ⟨hmoved, _, List.mem_append_right _ List.mem_cons_self, flight, hwrites, hkey⟩
    · rcases ih with ⟨⟨day, hday, saves, hsaves⟩, t, ht, hsaved⟩ | ⟨hkept, hnone⟩
      · exact .inl ⟨⟨day, hday, saves, hsame.trans hsaves⟩, t, List.mem_append_left _ ht, hsaved⟩
      · refine .inr ⟨hsame.trans hkept, fun t ht => ?_⟩
        rcases List.mem_append.mp ht with ht | ht
        · exact hnone t ht
        · rw [List.mem_singleton.mp ht]
          exact hothers

/-- For every interleaving, and so every sequence, of calls that do not set a birth
    date: the date of a user is after them what it was before exactly where the server
    is at UTC or east of it, or no call saves that user. -/
theorem birthDate_kept_iff (env : UserEnv) (offset : ℤ) {tr : List UserTransition}
    (hrun : Run (next (withoutBirthDate (atOffset env offset))) (State.quiet store) tr s)
    (user : Uuid × Uuid) :
    birthDate s.store user = birthDate store user ↔
      (0 ≤ offset ∧ offset < millisecondsPerDay) ∨ ∀ t ∈ tr, ∀ flight,
        Writes (withoutBirthDate (atOffset env offset)) t flight → flight.key ≠ user := by
  rw [birthDate_eq_iff, ← drift_eq_zero_iff]
  rcases birthDay_of_run hrun user with
    ⟨⟨day, hday, saves, hsaves⟩, t, ht, flight, hwrites, hkey⟩ | ⟨hkept, hnone⟩
  · rw [or_iff_left fun h => h t ht flight hwrites hkey, hday, hsaves, Option.some.injEq,
      add_eq_left, mul_eq_zero, or_iff_right (by positivity)]
  · exact iff_of_true hkept (.inr hnone)

/-- Five hours west of UTC, in milliseconds. -/
def sampleOffset : ℤ := -18000000

/-- The user is deactivated, and activated again. -/
def toggledTwice : List UserAction :=
  [.read 1 (sampleRequest .toggleUserStatus), .write 1 true 1600000001000,
    .read 2 (sampleRequest .toggleUserStatus), .write 2 true 1600000002000]

/-- Two saves five hours west of UTC move the 19th to the 17th. -/
theorem birthDate_kept_iff_west : ∃ tr s,
    exec (next (withoutBirthDate (atOffset sampleEnv sampleOffset))) (State.quiet [sampleUser])
        toggledTwice = some (tr, s) ∧
      birthDate [sampleUser] (keyOf sampleUser) = some (1997, 5, 19) ∧
      birthDate s.store (keyOf sampleUser) = some (1997, 5, 17) ∧
      ¬ ((0 ≤ sampleOffset ∧ sampleOffset < millisecondsPerDay) ∨ ∀ t ∈ tr, ∀ flight,
        Writes (withoutBirthDate (atOffset sampleEnv sampleOffset)) t flight →
          flight.key ≠ keyOf sampleUser) := by
  obtain ⟨tr, s, hexec, hafter⟩ : ∃ tr s,
      exec (next (withoutBirthDate (atOffset sampleEnv sampleOffset))) (State.quiet [sampleUser])
        toggledTwice = some (tr, s) ∧ birthDate s.store (keyOf sampleUser) = some (1997, 5, 17) :=
    exists_of_any_exec (by decide +kernel)
  have hbefore : birthDate [sampleUser] (keyOf sampleUser) = some (1997, 5, 19) := by
    decide +kernel
  refine ⟨tr, s, hexec, hbefore, hafter, fun hkept => ?_⟩
  have hsame := (birthDate_kept_iff sampleEnv sampleOffset (run_of_exec hexec) _).mpr hkept
  rw [hbefore, hafter] at hsame
  exact absurd hsame (by decide)

/-- One save five hours west of UTC changes the date. -/
theorem not_birthDate_kept :
    ¬ ∀ (env : UserEnv) (offset : ℤ) (store : List UserRow) (tr : List UserTransition)
      (s : UserState), offset.natAbs < millisecondsPerDay →
        Run (next (withoutBirthDate (atOffset env offset))) (State.quiet store) tr s →
          ∀ user, birthDate s.store user = birthDate store user := by
  intro hkept
  obtain ⟨tr, s, hexec, hmoved⟩ : ∃ tr s,
      exec (next (withoutBirthDate (atOffset sampleEnv sampleOffset))) (State.quiet [sampleUser])
        (toggledTwice.take 2) = some (tr, s) ∧
          birthDate s.store (keyOf sampleUser) ≠ birthDate [sampleUser] (keyOf sampleUser) :=
    exists_of_any_exec (by decide +kernel)
  exact hmoved (hkept _ _ _ _ _ (by decide) (run_of_exec hexec) _)

end KomiSaas.Users.Interleaving
