import KomiSaas.Users.UseCases
import KomiSaas.Lib.Flights

/-!
# Interleaved changes of users

`UpdateUser`, `ChangeUserPassword`, `ToggleUserStatus` and `ReassignUser` as two
atomic steps: the load of the user, with what is then done in memory, and the
write of all its columns.

A call writes the fields it was not asked to change as it loaded them. Every
field keeps the value of the last completed call that was asked to change it
exactly as long as no call completes whose copy of another field is stale by
then (`updates_kept_iff`).
-/

namespace KomiSaas.Users.Interleaving

open KomiSaas.Lib KomiSaas.Lib.Flights KomiSaas.Shared

/-- A request with what it finds around it. -/
structure Request where
  call : UserCall
  operation : Operation

/-- A call between its two steps: the user as it was loaded, and as it will be
    written. -/
structure Flight where
  operation : Operation
  user : UserAggregate
  changed : UserAggregate
  deriving DecidableEq

/-- The requests. -/
def users (env : UserEnv) : System (List UserRow) Request Flight Instant where
  enabled _ _ _ := true
  read store request :=
    match request.operation.prepare env request.call store with
    | .error _ => (store, none)
    | .ok (user, changed) => (store, some ⟨request.operation, user, changed⟩)
  write store flight now :=
    UserRepository.update env store flight.operation.tenantId flight.changed now

abbrev UserState := State (List UserRow) Flight

abbrev UserAction := Action Request Instant

abbrev UserTransition := Transition UserState UserAction

/-- The user of a call. -/
def Flight.key (flight : Flight) : Uuid × Uuid := (flight.operation.tenantId, flight.operation.id)

def keyOf (row : UserRow) : Uuid × Uuid := (row.tenantId, row.id)

/-- What a column of a user holds. -/
def stored (store : List UserRow) (user : Uuid × Uuid) (field : UserField) : Option ColumnValue :=
  (Rows.find keyOf user store).map (UserField.value · field)

/-- The value that a call writes to a field. -/
def Flight.writes (env : UserEnv) (flight : Flight) (now : Instant) (field : UserField) :
    ColumnValue :=
  field.value (UserRepository.row env flight.changed now)

/-- The value that the step writes to a field of a user, where a call completes in
    it that was asked to change the field. -/
def written (env : UserEnv) (user : Uuid × Uuid) (field : UserField) (t : UserTransition) :
    Option (Option ColumnValue) :=
  match t.action with
  | .read .. => none
  | .write _ _ now =>
    (writing (users env) t.pre t.action).bind fun flight =>
      if flight.key = user ∧ flight.operation.change.targets field then
        some (some (flight.writes env now field))
      else none

/-- The updates do not undo one another. In every state each field of each user
    has the value of the last completed call that was asked to change it. So no
    other call than a status toggle activates an inactive user, and none than a
    change of password changes a password. -/
structure UpdatesKept (env : UserEnv) (store : List UserRow) (tr : List UserTransition) : Prop where
  fields : ∀ user field tr₁ t tr₂, tr = tr₁ ++ t :: tr₂ → stored t.post.store user field =
    lastValue (written env user field) (stored store user field) (tr₁ ++ [t])
  deactivations : ∀ t ∈ tr, ∀ flight, Writes (users env) t flight →
    flight.operation.change ≠ .toggleUserStatus → ∀ user,
      stored t.pre.store user .isActive = some (.flag false) →
        stored t.post.store user .isActive = some (.flag false)
  passwords : ∀ t ∈ tr, ∀ flight, Writes (users env) t flight →
    (∀ params, flight.operation.change ≠ .changeUserPassword params) → ∀ user,
      stored t.post.store user .password = stored t.pre.store user .password

/-- In some field that it was not asked to change, the loaded copy of the call is
    not what the row holds. -/
def isStale (env : UserEnv) (store : List UserRow) (flight : Flight) : Bool :=
  (Rows.find keyOf flight.key store).any fun row =>
    UserField.fields.any fun field =>
      !flight.operation.change.targets field &&
        field.value (UserRepository.updated env flight.user row.updatedAt row) ≠ field.value row

/-- A stale call completes in the step. -/
def writesStale (env : UserEnv) (s : UserState) (a : UserAction) : Bool :=
  (writing (users env) s a).any (isStale env s.store)

variable {env : UserEnv} {store store' : List UserRow} {flight : Flight} {now : Instant}
  {user : Uuid × Uuid} {field : UserField} {s s' : UserState} {a : UserAction}

/-! ## One step -/

/-- What holds of a call in flight: its user is stored, and it changed nothing but
    its targets. -/
structure FlightInv (env : UserEnv) (store : List UserRow) (flight : Flight) : Prop where
  stored : flight.key ∈ store.map keyOf
  id : flight.changed.id = flight.operation.id
  agrees : AgreesOffTargets env flight.operation.change flight.user flight.changed

abbrev UserInv (env : UserEnv) (s : UserState) : Prop :=
  Inv (fun _ => True) (FlightInv env) (fun _ _ => True) s

theorem read_eq {request : Request} {result : Option Flight}
    (h : (users env).read store request = (store', result)) :
    store' = store ∧ ∀ flight, result = some flight → FlightInv env store flight := by
  have h : (match request.operation.prepare env request.call store with
    | .error _ => (store, none)
    | .ok (user, changed) => (store, some (⟨request.operation, user, changed⟩ : Flight))) =
      (store', result) := h
  split at h
  · obtain ⟨rfl, rfl⟩ := Prod.mk.inj h
    exact ⟨rfl, fun _ h => by cases h⟩
  · rename_i user changed hprepare
    obtain ⟨rfl, rfl⟩ := Prod.mk.inj h
    refine ⟨rfl, fun flight hflight => ?_⟩
    obtain rfl := Option.some.inj hflight
    obtain ⟨⟨row, hrow, htenant, hid⟩, hchanged, hagrees⟩ := prepare_eq_ok hprepare
    exact ⟨List.mem_map.mpr ⟨row, hrow, Prod.ext htenant hid⟩, hchanged, hagrees⟩

/-- A write sets the columns of its user. -/
theorem find_write (hid : flight.changed.id = flight.operation.id)
    (h : (users env).write store flight now = some store') :
    Rows.find keyOf user store' = (Rows.find keyOf user store).map fun row =>
      if flight.key = user then UserRepository.updated env flight.changed now row else row := by
  have h : UserRepository.update env store flight.operation.tenantId flight.changed now =
    some store' := h
  unfold UserRepository.update at h
  split_ifs at h
  rw [← Option.some.inj h]
  refine (@Rows.find_updateWhere _ _ _ keyOf user store _ (UserRepository.updated env flight.changed
    now) fun _ _ => rfl).trans (Option.map_congr fun row hrow => ?_)
  obtain ⟨-, rfl⟩ := Rows.mem_of_find hrow
  by_cases hkey : flight.key = keyOf row
  · obtain ⟨htenant, hid'⟩ := Prod.mk.inj hkey
    simp [hkey, hid, hid', htenant]
  · have hne : ¬ (row.id = flight.changed.id ∧ row.tenantId = flight.operation.tenantId) := by
      rintro ⟨hid', htenant⟩
      exact hkey (Prod.ext htenant.symm (hid'.trans hid).symm)
    simp [hkey, hne]

theorem keys_write (h : (users env).write store flight now = some store') :
    store'.map keyOf = store.map keyOf := by
  have h : UserRepository.update env store flight.operation.tenantId flight.changed now =
    some store' := h
  unfold UserRepository.update at h
  split_ifs at h
  rw [← Option.some.inj h]
  exact Rows.map_updateWhere fun _ _ _ => rfl

theorem keeps_flights (env : UserEnv) :
    Keeps (users env) (fun _ => True) (FlightInv env) fun _ _ => True where
  symm _ := trivial
  read _ hread := by
    rw [(read_eq hread).1]
    exact ⟨trivial, fun _ h => h⟩
  took _ _ hread _ := by
    obtain ⟨rfl, hflight⟩ := read_eq hread
    exact ⟨hflight _ rfl, fun _ _ => trivial⟩
  wrote _ _ hwrite :=
    ⟨trivial, fun _ h _ => ⟨(keys_write hwrite).symm ▸ h.stored, h.id, h.agrees⟩⟩

/-- Everything a step does to the rows. -/
theorem rows_of_next (hinv : UserInv env s) (hnext : next (users env) s a = some s') :
    (writing (users env) s a = none ∧ s'.store = s.store) ∨
    ∃ request commits now flight, a = .write request commits now ∧
      writing (users env) s a = some flight ∧ FlightInv env s.store flight ∧
      (users env).write s.store flight now = some s'.store := by
  cases hwriting : writing (users env) s a with
  | none =>
    have hstore := store_of_next hnext
    rw [hwriting] at hstore
    rcases hstore with hsame | ⟨call, result, hread⟩
    · exact .inl ⟨rfl, hsame⟩
    · exact .inl ⟨rfl, (read_eq hread).1⟩
  | some flight =>
    obtain ⟨request, now, haction, hflight, hwrite⟩ := (writing_eq_some_iff hnext).mp hwriting
    exact .inr ⟨request, true, now, flight, haction, rfl, hinv.flights _ (mem_of_flight hflight),
      hwrite⟩

/-! ## What a write leaves -/

theorem targets_createdAt (change : Change) : change.targets .createdAt = false := by
  cases change <;> rfl

/-- A field that a call is asked to change gets the value that it writes. -/
theorem stored_write_of_target (hflight : FlightInv env store flight)
    (h : (users env).write store flight now = some store')
    (htarget : flight.operation.change.targets field = true) :
    stored store' flight.key field = some (flight.writes env now field) := by
  obtain ⟨row, hrow⟩ := Rows.exists_find_of_mem_keys hflight.stored
  rw [stored, find_write hflight.id h, hrow, Option.map_some, Option.map_some, if_pos rfl]
  cases field with
  | createdAt => cases (targets_createdAt _).symm.trans htarget
  | _ => rfl

/-- The time of the write matters in no field but that of the last change. -/
theorem value_updated_congr {change : Change} {aggregate : UserAggregate} {row : UserRow}
    {now now' : Instant} (htarget : change.targets field = false) :
    field.value (UserRepository.updated env aggregate now row) =
      field.value (UserRepository.updated env aggregate now' row) := by
  cases field with
  | updatedAt => cases change <;> cases htarget
  | _ => rfl

/-- A field that a call is not asked to change is kept exactly where its copy is
    what the row holds. -/
theorem stored_write_of_not_target {row : UserRow} (hflight : FlightInv env store flight)
    (h : (users env).write store flight now = some store')
    (htarget : flight.operation.change.targets field = false)
    (hrow : Rows.find keyOf flight.key store = some row) :
    stored store' flight.key field = stored store flight.key field ↔
      field.value (UserRepository.updated env flight.user row.updatedAt row) = field.value row := by
  rw [stored, stored, find_write hflight.id h, hrow, Option.map_some, Option.map_some,
    Option.map_some, if_pos rfl, Option.some.injEq, hflight.agrees.columns now row field htarget,
    value_updated_congr htarget]

theorem stored_write_of_ne (hflight : FlightInv env store flight)
    (h : (users env).write store flight now = some store') (hne : flight.key ≠ user) :
    stored store' user field = stored store user field := by
  rw [stored, stored, find_write hflight.id h]
  simp [hne]

/-! ## Runs -/

/-- A step writes what its call writes. -/
theorem stored_of_written {value : Option ColumnValue} (hinv : UserInv env s)
    (hnext : next (users env) s a = some s')
    (hwritten : written env user field ⟨s, a, s'⟩ = some value) :
    stored s'.store user field = value := by
  rcases rows_of_next hinv hnext with
    ⟨hnone, -⟩ | ⟨request, commits, now, flight, rfl, hsome, hflight, hwrite⟩
  · cases a with
    | read => cases hwritten
    | write request commits now =>
      simp only [written, hnone] at hwritten
      cases hwritten
  · simp only [written, hsome, Option.bind_some] at hwritten
    split_ifs at hwritten with htarget
    obtain ⟨rfl, htarget⟩ := htarget
    rw [stored_write_of_target hflight hwrite htarget, Option.some.inj hwritten]

/-- A step keeps every field that no call was asked to change in it exactly where no
    stale call completes. -/
theorem kept_iff (hinv : UserInv env s) (hnext : next (users env) s a = some s') :
    (∀ user field, written env user field ⟨s, a, s'⟩ = none →
      stored s'.store user field = stored s.store user field) ↔ writesStale env s a = false := by
  rcases rows_of_next hinv hnext with
    ⟨hnone, hsame⟩ | ⟨request, commits, now, flight, rfl, hsome, hflight, hwrite⟩
  · rw [writesStale, hnone, hsame]
    exact iff_of_true (fun _ _ _ => rfl) rfl
  · simp only [writesStale, written, hsome, Option.bind_some, Option.any_some]
    constructor
    · intro hkept
      rw [isStale, Option.any_eq_false]
      intro row hrow
      rw [List.any_eq_false]
      intro field _
      simp only [Bool.and_eq_true, Bool.not_eq_true', decide_eq_true_eq, not_and, not_not]
      intro htarget
      refine (stored_write_of_not_target hflight hwrite htarget hrow).mp (hkept _ _ ?_)
      rw [if_neg fun h => Bool.false_ne_true (htarget.symm.trans h.2)]
    · intro hfresh user field hnone
      by_cases hkey : flight.key = user
      · subst hkey
        have htarget : flight.operation.change.targets field = false := by
          by_contra h
          rw [if_pos ⟨rfl, Bool.eq_true_of_not_eq_false h⟩] at hnone
          cases hnone
        obtain ⟨row, hrow⟩ := Rows.exists_find_of_mem_keys hflight.stored
        rw [stored_write_of_not_target hflight hwrite htarget hrow]
        rw [isStale, hrow, Option.any_some, List.any_eq_false] at hfresh
        have hfield := hfresh field field.mem_fields
        simp only [Bool.and_eq_true, Bool.not_eq_true', decide_eq_true_eq, not_and,
          not_not] at hfield
        exact hfield htarget
      · exact stored_write_of_ne hflight hwrite hkey

/-- What is kept off the targets is kept by every call with other targets. -/
theorem stored_of_writes {t : UserTransition}
    (hnext : next (users env) t.pre t.action = some t.post)
    (hwrites : Writes (users env) t flight)
    (htarget : flight.operation.change.targets field = false)
    (hkept : ∀ user field, written env user field t = none →
      stored t.post.store user field = stored t.pre.store user field) :
    stored t.post.store user field = stored t.pre.store user field := by
  apply hkept
  have hsome := (writing_eq_some_iff hnext).mpr hwrites
  unfold written
  split
  · rfl
  · rw [hsome, Option.bind_some, if_neg fun h => Bool.false_ne_true (htarget.symm.trans h.2)]

/-- For every interleaving of any number of calls on any users, from any table: the
    updates do not undo one another exactly as long as no stale call completes. -/
theorem updates_kept_iff {tr : List UserTransition}
    (hrun : Run (next (users env)) (State.quiet store) tr s) :
    UpdatesKept env store tr ↔ ∀ t ∈ tr, writesStale env t.pre t.action = false := by
  have hI : ∀ s a s', UserInv env s → next (users env) s a = some s' → UserInv env s' :=
    fun _ _ _ h hnext => h.step (keeps_flights env) hnext
  have hinit : UserInv env (State.quiet store) := Inv.quiet trivial
  have hall := (hrun.invariant hI hinit).2
  have hfollows := fun user field => hrun.follows_iff (f := fun s => stored s.store user field)
    (g := written env user field) hI
    (fun _ _ _ _ h hnext hwritten => stored_of_written h hnext hwritten) hinit
  have hstep : ∀ t ∈ tr, (∀ user field, written env user field t = none →
      stored t.post.store user field = stored t.pre.store user field) ↔
        writesStale env t.pre t.action = false :=
    fun t ht => kept_iff (hall t ht).1 (hrun.next_of_mem ht)
  constructor
  · intro h t ht
    exact (hstep t ht).mp fun user field => (hfollows user field).mp (h.fields user field) t ht
  · intro hfresh
    have hkept := fun t ht => (hstep t ht).mpr (hfresh t ht)
    refine ⟨fun user field => (hfollows user field).mpr fun t ht => hkept t ht user field, ?_, ?_⟩
    · intro t ht flight hwrites hchange user hinactive
      have htarget : flight.operation.change.targets .isActive = false := by
        cases hcase : flight.operation.change with
        | toggleUserStatus => exact absurd hcase hchange
        | _ => rfl
      rw [stored_of_writes (hrun.next_of_mem ht) hwrites htarget (hkept t ht)]
      exact hinactive
    · intro t ht flight hwrites hchange user
      have htarget : flight.operation.change.targets .password = false := by
        cases hcase : flight.operation.change with
        | changeUserPassword params => exact absurd hcase (hchange params)
        | _ => rfl
      exact stored_of_writes (hrun.next_of_mem ht) hwrites htarget (hkept t ht)

/-- An administrator. -/
def sampleUser : UserRow where
  id := js "50000000-0000-4000-8000-000000000001"
  tenantId := js "10000000-0000-4000-8000-000000000001"
  branchId := none
  rolName := js "Gerente"
  rolId := js "60000000-0000-4000-8000-000000000001"
  rolScope := .administrative
  userName := js "ana.gomez"
  email := some (js "ana@komi.la")
  password := js "$argon2id$v=19$a"
  firstName := some (js "Ana")
  secondName := none
  firstLastName := some (js "Gomez")
  secondLastName := none
  age := 10000
  sex := .female
  phone := js "3001234567"
  isActive := true
  createdAt := 1500000000000
  updatedAt := 1500000000000

def sampleRequest (change : Change) : Request where
  call :=
    { now := 1600000000000
      hashed := js "$argon2id$v=19$b"
      rol := fun _ => none
      branchExistsInTenant := fun _ _ => false }
  operation := ⟨sampleUser.tenantId, sampleUser.id, change⟩

/-- A new first name. -/
def sampleUpdate : Change :=
  .updateUser
    { userName := none
      email := none
      firstName := some (some (js "Maria"))
      secondName := none
      firstLastName := none
      secondLastName := none
      birthDate := none
      sex := none
      phone := none }

/-- The user is deactivated, and then given a new name by a call that loaded it
    after the deactivation, or before it. -/
def inTurn : List UserAction :=
  [.read 1 (sampleRequest sampleUpdate), .write 1 true 1600000001000,
    .read 2 (sampleRequest .toggleUserStatus), .write 2 true 1600000002000]

def race : List UserAction :=
  [.read 1 (sampleRequest sampleUpdate), .read 2 (sampleRequest .toggleUserStatus),
    .write 2 true 1600000001000, .write 1 true 1600000002000]

/-- One after the other, both changes stay. -/
theorem updates_kept_iff_in_turn :
    ∃ tr s, exec (next (users sampleEnv)) (State.quiet [sampleUser]) inTurn = some (tr, s) ∧
      s.store.map (fun row => (row.firstName, row.isActive)) = [(some (js "Maria"), false)] ∧
      UpdatesKept sampleEnv [sampleUser] tr := by
  obtain ⟨tr, s, hexec, hrows, hfresh⟩ :
      ∃ tr s, exec (next (users sampleEnv)) (State.quiet [sampleUser]) inTurn = some (tr, s) ∧
        s.store.map (fun row => (row.firstName, row.isActive)) = [(some (js "Maria"), false)] ∧
        ∀ t ∈ tr, writesStale sampleEnv t.pre t.action = false :=
    exists_of_any_exec (by decide +kernel)
  exact ⟨tr, s, hexec, hrows, (updates_kept_iff (run_of_exec hexec)).mpr hfresh⟩

/-- The update that loaded the user before its deactivation activates it again. -/
theorem not_updates_kept :
    ¬ ∀ tr s, Run (next (users sampleEnv)) (State.quiet [sampleUser]) tr s →
      UpdatesKept sampleEnv [sampleUser] tr := by
  intro hkept
  obtain ⟨tr, s, hexec, t, ht, flight, hwriting, hchange, hbefore, hafter⟩ :
      ∃ tr s, exec (next (users sampleEnv)) (State.quiet [sampleUser]) race = some (tr, s) ∧
        ∃ t ∈ tr, ∃ flight ∈ writing (users sampleEnv) t.pre t.action,
          flight.operation.change ≠ .toggleUserStatus ∧
          stored t.pre.store (keyOf sampleUser) .isActive = some (.flag false) ∧
          stored t.post.store (keyOf sampleUser) .isActive = some (.flag true) :=
    exists_of_any_exec (by decide +kernel)
  have hrun := run_of_exec hexec
  have hwrites := (writing_eq_some_iff (hrun.next_of_mem ht)).mp hwriting
  cases ((hkept tr s hrun).deactivations t ht flight hwrites hchange _ hbefore).symm.trans hafter

end KomiSaas.Users.Interleaving
