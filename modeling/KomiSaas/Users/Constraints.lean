import KomiSaas.Users.Creation
import KomiSaas.Lib.Overtaken

/-!
# The constraints of `users` over interleaved requests

`CreateUser` with the four use cases that change a user, as two atomic steps: what
is read, with what is then done in memory, and the write.

The use cases check what the schema checks again: the two unique indexes, and
`ck_users_branch_matches_scope`. They leave the types of the columns to the schema: a
first name that is `null`, a text with U+0000. In every interleaving, from an empty
table, the constraints hold of the table, a row never disappears or changes its id,
business or date, and the schema refuses only a write that does not fit its columns
and a request during which another one wrote (`users_keep_constraints`).
-/

namespace KomiSaas.Users.Constraints

open KomiSaas.Lib KomiSaas.Lib.Flights KomiSaas.Shared

/-- A call of one of the five. -/
inductive UserOperation where
  | createUser (params : CreateUserParams)
  | changeUser (operation : Operation)
  deriving DecidableEq

/-- A request with what it finds around it. -/
structure Request where
  call : CreateUserCall
  operation : UserOperation

/-- What a request is going to write. -/
inductive Flight where
  | save (user : UserAggregate)
  | update (tenantId : Uuid) (user : UserAggregate)
  deriving DecidableEq

namespace Flight

def user : Flight → UserAggregate
  | .save user => user
  | .update _ user => user

/-- The business whose users are written. -/
def tenantId : Flight → Uuid
  | .save user => user.tenantId
  | .update tenantId _ => tenantId

def creates : Flight → Bool
  | .save _ => true
  | .update .. => false

end Flight

/-- Everything before the write. -/
def UserOperation.prepare (env : UserEnv) (call : CreateUserCall) (users : List UserRow) :
    UserOperation → Except CreateUserException Flight
  | .createUser params => (CreateUser.prepare env call users params).map .save
  | .changeUser operation =>
    ((operation.prepare env call.toUserCall users).map fun (_, changed) =>
      .update operation.tenantId changed).mapError .user

/-- The requests. The generated id of a call is in use nowhere. -/
def accounts (env : UserEnv) : System (List UserRow) Request Flight Instant where
  enabled store flights request :=
    request.call.userId ∉ store.map (·.id) &&
      request.call.userId ∉ flights.map (·.user.id)
  read store request := preparing store (request.operation.prepare env request.call store)
  write store flight now :=
    match flight with
    | .save user => UserRepository.save env store user
    | .update tenantId user => UserRepository.update env store tenantId user now

abbrev AccountState := State (List UserRow) Flight

abbrev AccountAction := Action Request Instant

abbrev AccountTransition := Transition AccountState AccountAction

variable {env : UserEnv} {store store' : List UserRow} {flight : Flight} {request : Request}
  {user : UserAggregate} {now : Instant}

/-! ## Invariants -/

/-- Two users of a business differ in their user names and, where they have them, in
    their emails, whatever the case. -/
structure UsersApart (env : UserEnv) (row other : UserRow) : Prop where
  userName : row.tenantId = other.tenantId → env.lower row.userName ≠ env.lower other.userName
  email : row.tenantId = other.tenantId → ∀ email ∈ row.email, ∀ email' ∈ other.email,
    env.lower email ≠ env.lower email'

/-- What holds of the table. -/
structure TableInv (env : UserEnv) (store : List UserRow) : Prop where
  ids : (store.map (·.id)).Nodup
  apart : Rows.Apart (·.id) (UsersApart env) store
  tidy : ∀ row ∈ store, Tidy env row

/-- The columns that no operation changes. -/
def identity (row : UserRow) : Uuid × Uuid × Instant := (row.id, row.tenantId, row.createdAt)

/-- A new user has an id of its own; one that is changed is stored. -/
def Located (store : List UserRow) : Flight → Prop
  | .save user => user.id ∉ store.map (·.id)
  | .update tenantId user =>
    (user.id, tenantId) ∈ store.map fun row => (row.id, row.tenantId)

/-- What a request has in hand. -/
structure FlightInv (env : UserEnv) (store : List UserRow) (flight : Flight) : Prop where
  located : Located store flight
  lowered : ∀ email ∈ flight.user.email, Lowered env email

/-- A user that is being created is in no other operation. -/
def Apart (flight other : Flight) : Prop :=
  flight.creates = true ∨ other.creates = true → flight.user.id ≠ other.user.id

theorem usersApart_symm (row other : UserRow) (h : UsersApart env row other) :
    UsersApart env other row where
  userName htenant heq := h.userName htenant.symm heq.symm
  email htenant _ hemail _ hemail' heq := h.email htenant.symm _ hemail' _ hemail heq.symm

/-- What a request takes off with. -/
theorem prepared_of_read {result : Option Flight}
    (h : (accounts env).read store request = (store', result)) :
    store' = store ∧ ∀ flight, result = some flight →
      request.operation.prepare env request.call store = .ok flight :=
  prepared_of_preparing h

/-! ## Writing -/

/-- A row with a free user name and a free email is apart from the others. -/
theorem usersApart_of_free {tenantId : Uuid} {row : UserRow}
    (hname : UserNameFree env store tenantId user) (hemail : EmailFree env store tenantId user)
    (htenant : row.tenantId = tenantId) (huserName : row.userName = user.userName.value)
    (hrowEmail : row.email = user.email.map (·.value)) :
    ∀ other ∈ store, other.id ≠ user.id → UsersApart env other row := by
  intro other hother hid
  refine ⟨fun hsame => ?_, fun hsame raw hraw raw' hraw' heq => ?_⟩
  · rw [huserName]
    exact hname other hother (hsame.trans htenant) hid
  · rw [hrowEmail] at hraw'
    obtain ⟨email, hown, rfl⟩ := Option.map_eq_some_iff.mp hraw'
    refine hemail other hother (hsame.trans htenant) hid email hown ?_
    rw [show other.email = some raw from hraw, Option.map_some, heq]

/-- A write puts one row that meets the constraints, with the identity of the one it
    replaces. -/
theorem puts_of_write (hids : (store.map (·.id)).Nodup) (hinv : FlightInv env store flight)
    (h : (accounts env).write store flight now = some store') :
    ∃ row, row.id = flight.user.id ∧ Tidy env row ∧ Rows.Puts (·.id) store store' row ∧
      (∀ other ∈ store, other.id ≠ row.id → UsersApart env other row) ∧
      ∀ old ∈ store, old.id = row.id → identity old = identity row := by
  obtain ⟨hlocated, hlowered⟩ := hinv
  cases flight with
  | save user =>
    have h : UserRepository.save env store user = some store' := h
    unfold UserRepository.save at h
    split_ifs at h with hguard
    rw [Bool.not_eq_true, Bool.or_eq_false_iff, Bool.not_eq_false'] at hguard
    obtain ⟨-, hname, hemail, hscope⟩ := UserRepository.accepts_iff.mp hguard.2
    obtain rfl := Option.some.inj h
    refine ⟨UserRepository.row env user user.updatedAt, rfl, tidy_row hlowered hscope,
      Rows.puts_insert hids hlocated, usersApart_of_free hname hemail rfl rfl rfl,
      fun old hold hid => ?_⟩
    exact absurd (List.mem_map.mpr ⟨old, hold, hid⟩) hlocated
  | update tenantId user =>
    have h : UserRepository.update env store tenantId user now = some store' := h
    obtain ⟨old, hold, hkey⟩ := List.mem_map.mp hlocated
    obtain ⟨hid, htenant⟩ := Prod.mk.inj hkey
    have hunique : ∀ r ∈ store, r.id = user.id → r = old := by
      intro r hr heq
      exact List.inj_on_of_nodup_map hids hr hold (heq.trans hid.symm)
    have hmatched : ∀ r ∈ store,
        (decide (r.id = user.id) && decide (r.tenantId = tenantId)) = true ↔ r.id = old.id := by
      intro r hr
      rw [Bool.and_eq_true, decide_eq_true_eq, decide_eq_true_eq, hid]
      refine ⟨And.left, fun heq => ⟨heq, ?_⟩⟩
      rw [hunique r hr heq, htenant]
    unfold UserRepository.update at h
    split_ifs at h with hguard
    obtain ⟨-, hname, hemail, hscope⟩ := UserRepository.accepts_iff.mp hguard
    obtain rfl := Option.some.inj h
    have htidy : Tidy env (UserRepository.updated env user now old) := by
      obtain ⟨huserName, hstored, hmatches⟩ := @tidy_row env user now hlowered hscope
      exact ⟨huserName, hstored, hmatches⟩
    refine ⟨UserRepository.updated env user now old, hid, htidy,
      Rows.puts_updateWhere hids hold hmatched rfl, fun other hother hne => ?_, fun r hr heq => ?_⟩
    · have happart := @usersApart_of_free env store user tenantId
        (UserRepository.updated env user now old) hname hemail htenant rfl rfl
      exact happart other hother fun heq => hne (heq.trans hid.symm)
    · rw [hunique r hr (heq.trans hid)]
      rfl

/-- What a request has in hand when it takes off. -/
theorem flightInv_of_prepared (henv : Idempotent env) (htidy : ∀ row ∈ store, Tidy env row)
    (hfresh : request.call.userId ∉ store.map (·.id))
    (h : request.operation.prepare env request.call store = .ok flight) :
    FlightInv env store flight := by
  obtain ⟨call, operation⟩ := request
  cases operation with
  | createUser params =>
    obtain ⟨user, hprepare, rfl⟩ := map_eq_ok.mp h
    obtain ⟨hid, -, -, -, hlowered, -⟩ := CreateUser.prepare_ok henv hprepare
    refine ⟨?_, hlowered⟩
    show user.id ∉ store.map (·.id)
    rw [hid]
    exact hfresh
  | changeUser operation =>
    obtain ⟨⟨user, changed⟩, hprepare, rfl⟩ := map_eq_ok.mp (mapError_eq_ok.mp h)
    obtain ⟨row, hrow, htenant, hread, hadmissible⟩ := Operation.prepare_ok henv htidy hprepare
    refine ⟨List.mem_map.mpr ⟨row, hrow, Prod.ext ?_ htenant⟩, hadmissible.lowered⟩
    exact (hadmissible.id.trans hread.id).symm

/-- The id of a flight, against those of the stored users. -/
theorem creates_iff (hinv : FlightInv env store flight) :
    flight.creates = true ↔ flight.user.id ∉ store.map (·.id) := by
  obtain ⟨hlocated, -⟩ := hinv
  cases flight with
  | save user => exact iff_of_true rfl hlocated
  | update tenantId user =>
    obtain ⟨old, hold, hkey⟩ := List.mem_map.mp hlocated
    exact iff_of_false Bool.false_ne_true fun hnot =>
      hnot (List.mem_map.mpr ⟨old, hold, (Prod.mk.inj hkey).1⟩)

/-- A new user has the generated id of its call. -/
theorem id_of_creates (henv : Idempotent env)
    (h : request.operation.prepare env request.call store = .ok flight)
    (hcreates : flight.creates = true) : flight.user.id = request.call.userId := by
  obtain ⟨call, operation⟩ := request
  cases operation with
  | createUser params =>
    obtain ⟨user, hprepare, rfl⟩ := map_eq_ok.mp h
    exact (CreateUser.prepare_ok henv hprepare).1
  | changeUser operation =>
    obtain ⟨_, -, rfl⟩ := map_eq_ok.mp (mapError_eq_ok.mp h)
    cases hcreates

theorem keeps (henv : Idempotent env) :
    Keeps (accounts env) (TableInv env) (FlightInv env) Apart where
  symm h hcreates := (h hcreates.symm).symm
  read htable hread := by
    rw [(prepared_of_read hread).1]
    exact ⟨htable, fun _ h => h⟩
  took htable henabled hread hflights := by
    obtain ⟨rfl, hprepared⟩ := prepared_of_read hread
    have hprepare := hprepared _ rfl
    simp only [accounts, Bool.and_eq_true, decide_eq_true_eq] at henabled
    obtain ⟨hfresh, hfresh'⟩ := henabled
    have hflight := flightInv_of_prepared henv htable.tidy hfresh hprepare
    refine ⟨hflight, fun other hother hcreates heq => ?_⟩
    have hchanges : ¬ Flight.creates _ = true := fun hcreates =>
      hfresh' (List.mem_map.mpr ⟨other, hother, heq.trans (id_of_creates henv hprepare hcreates)⟩)
    rcases hcreates with hcreates | hcreates
    · exact hchanges ((creates_iff hflight).mpr (heq ▸ (creates_iff (hflights other hother)).mp
        hcreates))
    · exact hchanges hcreates
  wrote htable hinv hwrite := by
    obtain ⟨row, hid, htidy, hputs, happart, hidentity⟩ := puts_of_write htable.ids hinv hwrite
    refine ⟨⟨hputs.keys, hputs.apart usersApart_symm htable.apart happart,
      hputs.forall_mem htable.tidy htidy⟩, fun other hother hapart => ⟨?_, hother.lowered⟩⟩
    obtain ⟨hlocated, -⟩ := hother
    cases other with
    | save user =>
      refine hputs.notMem hlocated ?_
      rw [hid]
      exact hapart (.inr rfl)
    | update tenantId user =>
      refine hputs.map_subset (fun old hold heq => ?_) hlocated
      have hsame := Prod.mk.inj (hidentity old hold heq)
      exact Prod.ext hsame.1 (Prod.mk.inj hsame.2).1

/-! ## Refusals -/

/-- The writes whose values fit their columns. -/
def fitting (env : UserEnv) : Set Flight :=
  {flight | UserRepository.fits env flight.user = true}

/-- The constraints that a request checked are those of the schema, apart from the
    types of the columns. -/
theorem accepts_of_prepared (henv : Idempotent env) (htable : TableInv env store)
    (h : request.operation.prepare env request.call store = .ok flight)
    (hfits : UserRepository.fits env flight.user = true) :
    UserRepository.accepts env store flight.tenantId flight.user = true := by
  obtain ⟨call, operation⟩ := request
  cases operation with
  | createUser params =>
    obtain ⟨user, hprepare, rfl⟩ := map_eq_ok.mp h
    obtain ⟨-, -, hname, hemail, -, hscope⟩ := CreateUser.prepare_ok henv hprepare
    exact UserRepository.accepts_iff.mpr ⟨hfits, hname, hemail, hscope⟩
  | changeUser operation =>
    obtain ⟨⟨user, changed⟩, hprepare, rfl⟩ := map_eq_ok.mp (mapError_eq_ok.mp h)
    obtain ⟨row, hrow, htenant, hread, hadmissible⟩ :=
      Operation.prepare_ok henv htable.tidy hprepare
    have hid : row.id = changed.id := hread.id.symm.trans hadmissible.id.symm
    refine UserRepository.accepts_iff.mpr ⟨hfits, ?_, ?_, hadmissible.scope⟩
    · rcases hadmissible.userName with hsame | hfree
      · intro other hother htenant' hne
        show env.lower other.userName ≠ env.lower changed.userName.value
        rw [hsame, hread.userName]
        exact (htable.apart other hother row hrow fun heq => hne (heq.trans hid)).userName
          (htenant'.trans htenant.symm)
      · exact hfree
    · rcases hadmissible.email with hsame | hfree
      · intro other hother htenant' hne email hemail hlower
        obtain ⟨email', hemail', heq⟩ := Option.map_eq_some_iff.mp hlower
        have hown : email.value ∈ row.email := by
          rw [← hread.email, ← hsame]
          exact Option.map_eq_some_iff.mpr ⟨email, hemail, rfl⟩
        exact (htable.apart other hother row hrow fun heq => hne (heq.trans hid)).email
          (htenant'.trans htenant.symm) email' hemail' _ hown heq
      · exact hfree

theorem completes (henv : Idempotent env) :
    Completes (accounts env) (TableInv env) (fitting env) where
  pure hread := (prepared_of_read hread).1
  accepts {store _ request flight} htable henabled hread hfits now := by
    obtain ⟨-, hprepared⟩ := prepared_of_read hread
    have hprepare := hprepared _ rfl
    simp only [accounts, Bool.and_eq_true, decide_eq_true_eq] at henabled
    have hflight := flightInv_of_prepared henv htable.tidy henabled.1 hprepare
    have haccepts := accepts_of_prepared henv htable hprepare hfits
    cases flight with
    | save user =>
      have hid : user.id ∉ store.map (·.id) := hflight.located
      have haccepts : UserRepository.accepts env store user.tenantId user = true := haccepts
      show (UserRepository.save env store user).isSome = true
      simp [UserRepository.save, hid, haccepts]
    | update tenantId user =>
      have haccepts : UserRepository.accepts env store tenantId user = true := haccepts
      show (UserRepository.update env store tenantId user now).isSome = true
      simp [UserRepository.update, haccepts]

/-! ## Runs -/

/-- No step changes the identity of a user. -/
theorem identity_of_next {s s' : AccountState} {a : AccountAction}
    (hinv : Inv (TableInv env) (FlightInv env) Apart s)
    (hnext : next (accounts env) s a = some s') :
    s.store.map identity ⊆ s'.store.map identity := by
  cases effect_of_next hnext with
  | ended _ hread =>
    rw [(prepared_of_read hread).1]
    exact List.Subset.refl _
  | took _ hread =>
    rw [(prepared_of_read hread).1]
    exact List.Subset.refl _
  | failed _ _ => exact List.Subset.refl _
  | wrote hflight hwrite =>
    obtain ⟨row, -, -, hputs, -, hidentity⟩ :=
      puts_of_write hinv.store.ids (hinv.flights _ (mem_of_flight hflight)) hwrite
    exact hputs.map_subset hidentity

/-- No user yet. -/
theorem tableInv_nil : TableInv env [] :=
  ⟨List.nodup_nil, fun _ h => absurd h List.not_mem_nil, fun _ h => absurd h List.not_mem_nil⟩

/-- For every interleaving of any number of requests, from an empty table: no two
    users of a business have one user name or one email up to case, exactly the
    administrative users have no branch, no user disappears or changes its id, its
    business or its date, and the schema refuses only a write that does not fit the
    columns, or one that another write overtook. -/
theorem users_keep_constraints (henv : Idempotent env) {tr : List AccountTransition}
    {s : AccountState} (hrun : Run (next (accounts env)) (State.quiet []) tr s) :
    Rows.Apart (·.id) (UsersApart env) s.store ∧
      (∀ row ∈ s.store, row.rolScope = .administrative ↔ row.branchId = none) ∧
      (∀ t ∈ tr, t.pre.store.map identity ⊆ t.post.store.map identity) ∧
      RefusedOnlyOvertaken (accounts env) (fitting env) tr := by
  have hinit : Inv (TableInv env) (FlightInv env) Apart (State.quiet []) := Inv.quiet tableInv_nil
  obtain ⟨hinv, hall⟩ :=
    hrun.invariant (fun _ _ _ h hnext => h.step (keeps henv) hnext) hinit
  refine ⟨hinv.store.apart, fun row hrow => (hinv.store.tidy row hrow).scope, fun t ht => ?_,
    overtaken_of_refused (keeps henv) (completes henv) hrun hinit⟩
  exact identity_of_next (hall t ht).1 (hrun.next_of_mem ht)

/-- What a request finds: one role of each scope, and a branch. -/
def sampleCall (userId : Uuid) : CreateUserCall where
  now := 1600000000000
  hashed := js "$argon2id$v=19$a"
  rol id :=
    if id = js "60000000-0000-4000-8000-000000000001" then some (js "Gerente", .administrative)
    else some (js "Cajero", .operational)
  branchExistsInTenant _ _ := true
  userId := userId
  tenantExists _ := true

/-- A request for a new administrator. -/
def sampleCreate (userId tenantId : Uuid) (userName : JsString) (email : Option JsString) :
    Request where
  call := sampleCall userId
  operation :=
    .createUser
      { tenantId := tenantId
        branchId := none
        rolId := js "60000000-0000-4000-8000-000000000001"
        userName := userName
        email := email
        password := js "Cartagena2026"
        firstName := js "Ana"
        secondName := none
        firstLastName := js "Gomez"
        secondLastName := none
        age := some 864000000000
        sex := js "FEMALE"
        phone := js "3001234567" }

/-- A request that changes the first of them. -/
def sampleChange (change : Change) : Request where
  call := sampleCall (js "50000000-0000-4000-8000-000000000009")
  operation :=
    .changeUser
      { tenantId := js "10000000-0000-4000-8000-000000000001"
        id := js "50000000-0000-4000-8000-000000000001"
        change := change }

/-- It becomes a cashier. -/
def sampleReassign (branchId : Option Uuid) : Request :=
  sampleChange (.reassignUser ⟨js "60000000-0000-4000-8000-000000000002", branchId⟩)

/-- It gets another first name, or none. -/
def sampleRename (firstName : Option JsString) : Request :=
  sampleChange
    (.updateUser
      { userName := none
        email := none
        firstName := some firstName
        secondName := none
        firstLastName := none
        secondLastName := none
        birthDate := none
        sex := none
        phone := none })

/-- Two requests read before either writes, with emails that differ in their case.
    Then the user that is stored becomes a cashier, without a branch and with one, and
    is left without a first name. -/
def race : List AccountAction :=
  [.read 1 (sampleCreate (js "50000000-0000-4000-8000-000000000001")
      (js "10000000-0000-4000-8000-000000000001") (js "ana.gomez") (some (js "ana@komi.la"))),
    .read 2 (sampleCreate (js "50000000-0000-4000-8000-000000000002")
      (js "10000000-0000-4000-8000-000000000001") (js "ana") (some (js "ANA@komi.la"))),
    .write 1 true 1600000001000, .write 2 true 1600000002000,
    .read 3 (sampleReassign none),
    .read 4 (sampleReassign (some (js "30000000-0000-4000-8000-000000000001"))),
    .write 4 true 1600000003000,
    .read 5 (sampleRename none), .write 5 true 1600000004000]

/-- The index refuses the second one, the role its lack of a branch, and the column its
    lack of a name. -/
theorem users_keep_constraints_race :
    ∃ tr s, exec (next (accounts sampleEnv)) (State.quiet []) race = some (tr, s) ∧
      s.store.map (fun row => (row.firstName, row.rolName, row.branchId)) =
        [(some (js "Ana"), js "Cajero", some (js "30000000-0000-4000-8000-000000000001"))] ∧
      Rows.Apart (·.id) (UsersApart sampleEnv) s.store ∧
      (∀ row ∈ s.store, row.rolScope = .administrative ↔ row.branchId = none) ∧
      (∀ t ∈ tr, t.pre.store.map identity ⊆ t.post.store.map identity) ∧
      RefusedOnlyOvertaken (accounts sampleEnv) (fitting sampleEnv) tr := by
  obtain ⟨tr, s, hexec, hrows⟩ :
      ∃ tr s, exec (next (accounts sampleEnv)) (State.quiet []) race = some (tr, s) ∧
        s.store.map (fun row => (row.firstName, row.rolName, row.branchId)) =
          [(some (js "Ana"), js "Cajero", some (js "30000000-0000-4000-8000-000000000001"))] :=
    exists_of_any_exec (by decide +kernel)
  have henv : Idempotent sampleEnv := toLowerCase_toLowerCase
  exact ⟨tr, s, hexec, hrows, users_keep_constraints henv (run_of_exec hexec)⟩

end KomiSaas.Users.Constraints
