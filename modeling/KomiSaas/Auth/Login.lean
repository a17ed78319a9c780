import KomiSaas.Auth.UseCases
import KomiSaas.Businesses.Tenant
import KomiSaas.Users.User

/-!
# What a failed login shows

`LoginUseCase.execute` (`login.use-case.ts`) with the two adapters and the
password verifier it is assembled with, on the tables, the sessions, the decoy
hash that the verifier keeps and the number of argon2 verifications so far.

* `execute_of_not_verified`: an attempt whose password is not verified ends the
  same way whatever the stores hold: one verification, no session, and an
  exception with nothing in it but what was typed.
* `identified_of_execute`: tokens need an active business, an active user of it,
  and the password of that user.
* `execute_eq_authenticate`: the model of the login that the runs of sessions
  use is this one.
-/

namespace KomiSaas.Auth

open KomiSaas.Lib KomiSaas.Shared

/-- `LoginParams`, as they arrive. -/
structure RawLoginParams where
  tenantSlug : JsString
  username : JsString
  password : JsString
  deriving DecidableEq

/-- What the login is assembled with: `argon2.verify(hash, plain)`, `none` where
    it rejects, `toLowerCase()`, the rows that are turned into aggregates without
    an error, and what `SessionIssuer` needs. -/
structure LoginEnv where
  argon2Verify : JsString → JsString → Option Bool
  toLowerCase : JsString → JsString
  rehydratesTenant : TenantRow → Bool
  rehydratesUser : UserRow → Bool
  hash : JsString → JsString
  refreshTtlDays : ℤ
  accessTtlSeconds : ℤ

/-- The part of it that opens and renews sessions. -/
def LoginEnv.toAuthEnv (env : LoginEnv) : AuthEnv where
  hash := env.hash
  verify plain hash := (env.argon2Verify hash plain).getD false
  refreshTtlDays := env.refreshTtlDays
  accessTtlSeconds := env.accessTtlSeconds

/-- What a login changes: the sessions, the field `dummyHash` of the verifier,
    and how many times `argon2.verify` was called. -/
structure LoginState where
  sessions : SessionTable
  dummyHash : Option JsString
  verifications : ℕ

/-- Why a login rejects. -/
inductive LoginFailure where
  | auth (error : AuthException)
  /-- A stored row is no valid aggregate. -/
  | rehydration
  deriving DecidableEq

/-- `ResponseLoginDto`. -/
structure ResponseLoginDto where
  userId : Uuid
  tenantId : Uuid
  branchId : Option Uuid
  rolName : JsString
  rolScope : JsString
  userName : JsString
  firstName : JsString
  secondName : Option JsString
  firstLastName : JsString
  secondLastName : Option JsString
  sex : JsString
  deriving DecidableEq

/-- `toUserResponse` (`user-data.mapper.ts`). -/
def toUserResponse (user : UserRow) : ResponseLoginDto where
  userId := user.id
  tenantId := user.tenantId
  branchId := user.branchId
  rolName := user.rolName
  rolScope := user.rolScope
  userName := user.userName
  firstName := user.firstName
  secondName := user.secondName
  firstLastName := user.firstLastName
  secondLastName := user.secondLastName
  sex := user.sex

/-- `LoginResult`. -/
structure LoginResult where
  tokens : AuthTokens
  lastLogin : JsString
  user : ResponseLoginDto
  deriving DecidableEq

/-! ## The adapters and the verifier -/

/-- `findBySlug` (`tenant-resolver.adapter.ts`, lines 24–41): a malformed slug is
    that of no business. -/
def TenantResolverAdapter.findBySlug (env : LoginEnv) (tenants : List TenantRow)
    (slug : JsString) : Except LoginFailure (Option ResolvedTenant) :=
  match Businesses.TenantSlug.create slug with
  | .error _ => .ok none
  | .ok tenantSlug =>
    match TenantRepository.searchAggregateBySlug tenants tenantSlug.value with
    | none => .ok none
    | some row =>
      if env.rehydratesTenant row then .ok (some (toResolvedTenant row)) else .error .rehydration

/-- `findByUserName` (`auth-user-finder.adapter.ts`, lines 53–77): a malformed
    name is that of no user. `tenantId` is that of a business that was found, so
    `UserTenantId.create` takes it. -/
def AuthUserFinderAdapter.findByUserName (env : LoginEnv) (users : List UserRow) (tenantId : Uuid)
    (userName : JsString) : Except LoginFailure (Option UserRow) :=
  match Users.UserName.create userName with
  | .error _ => .ok none
  | .ok name =>
    match UserRepository.searchAggregateByUserName users tenantId name.value with
    | none => .ok none
    | some row => if env.rehydratesUser row then .ok (some row) else .error .rehydration

namespace Argon2PasswordVerifier

variable (env : LoginEnv)

/-- One call of `argon2.verify`. -/
def argon2Verify (hash plain : JsString) (state : LoginState) : Option Bool × LoginState :=
  (env.argon2Verify hash plain, { state with verifications := state.verifications + 1 })

/-- `verify` (`argon2-password-verifier.ts`, lines 31–48): what rejects is no match. -/
def verify (plain hash : JsString) (state : LoginState) : Bool × LoginState :=
  match argon2Verify env hash plain state with
  | (none, state) => (false, state)
  | (some passwordMatches, state) => (passwordMatches, state)

/-- `getDummyHash` (lines 70–85); `decoy` is what `argon2.hash` would answer now. -/
def getDummyHash (decoy : Option JsString) (state : LoginState) : Option JsString × LoginState :=
  match state.dummyHash with
  | none => (decoy, { state with dummyHash := decoy })
  | some dummyHash => (some dummyHash, state)

/-- `verifyAgainstDummy` (lines 56–62): nothing of it comes out. -/
def verifyAgainstDummy (decoy : Option JsString) (plain : JsString) (state : LoginState) :
    LoginState :=
  match getDummyHash decoy state with
  | (none, state) => state
  | (some dummyHash, state) => (argon2Verify env dummyHash plain state).2

end Argon2PasswordVerifier

/-! ## The use case -/

/-- One attempt: the tables it finds, what was typed, where it comes from, the
    values it would generate, the clock, and the answer of `argon2.hash`. -/
structure LoginAttempt where
  accounts : Accounts
  params : RawLoginParams
  context : SessionContext
  generated : Generated
  now : Instant
  decoy : Option JsString

namespace LoginUseCase

/-- The slug that is looked for (line 36). -/
def tenantSlugOf (env : LoginEnv) (params : RawLoginParams) : JsString :=
  env.toLowerCase (trim params.tenantSlug)

/-- The name that is looked for (line 52). -/
def identifierOf (params : RawLoginParams) : JsString := trim params.username

/-- `execute` (lines 33–103). -/
def execute (env : LoginEnv) (attempt : LoginAttempt) (state : LoginState) :
    Except LoginFailure LoginResult × LoginState :=
  let params := attempt.params
  let tenantSlug := tenantSlugOf env params
  match TenantResolverAdapter.findBySlug env attempt.accounts.tenants tenantSlug with
  | .error e => (.error e, state)
  | .ok none =>
    (.error (.auth (.invalidCredentials tenantSlug (trim params.username))),
      Argon2PasswordVerifier.verifyAgainstDummy env attempt.decoy params.password state)
  | .ok (some tenant) =>
    let identifier := identifierOf params
    match AuthUserFinderAdapter.findByUserName env attempt.accounts.users tenant.id identifier with
    | .error e => (.error e, state)
    | .ok none =>
      (.error (.auth (.invalidCredentials tenantSlug identifier)),
        Argon2PasswordVerifier.verifyAgainstDummy env attempt.decoy params.password state)
    | .ok (some dataUser) =>
      let (passwordMatches, state) :=
        Argon2PasswordVerifier.verify env params.password dataUser.password state
      if !passwordMatches then
        (.error (.auth (.invalidCredentials tenantSlug identifier)), state)
      else if !tenant.isActive then (.error (.auth (.inactiveTenant tenantSlug)), state)
      else if !dataUser.isActive then (.error (.auth (.inactiveAccount identifier)), state)
      else
        let (tokens, sessions) := SessionIssuer.start env.toAuthEnv state.sessions
          (ownerOf dataUser) attempt.context attempt.generated attempt.now
        (.ok { tokens := tokens, lastLogin := [], user := toUserResponse dataUser },
          { state with sessions := sessions })

/-! ## Attempts that verify a password -/

/-- The attempt finds the business and, in it, the user, and the password is
    verified against the hash of that user. -/
structure Identified (env : LoginEnv) (attempt : LoginAttempt) (tenant : ResolvedTenant)
    (user : UserRow) : Prop where
  business : TenantResolverAdapter.findBySlug env attempt.accounts.tenants
    (tenantSlugOf env attempt.params) = .ok (some tenant)
  member : AuthUserFinderAdapter.findByUserName env attempt.accounts.users tenant.id
    (identifierOf attempt.params) = .ok (some user)
  password : env.argon2Verify user.password attempt.params.password = some true

/-- The password verification of the attempt succeeds. -/
def Verified (env : LoginEnv) (attempt : LoginAttempt) : Prop :=
  ∃ tenant user, Identified env attempt tenant user

/-- The stored rows are turned into aggregates without an error. -/
def Rehydrates (env : LoginEnv) (accounts : Accounts) : Prop :=
  (∀ row ∈ accounts.tenants, env.rehydratesTenant row = true) ∧
    ∀ row ∈ accounts.users, env.rehydratesUser row = true

/-- There is a decoy hash, or argon2 makes one. -/
def HasDecoy (attempt : LoginAttempt) (state : LoginState) : Prop :=
  state.dummyHash.isSome = true ∨ attempt.decoy.isSome = true

/-- The attempt ends as every failed one: with the exception of what was typed,
    one more verification, and the same sessions. -/
structure FailsAlike (env : LoginEnv) (attempt : LoginAttempt) (state : LoginState) : Prop where
  result : (execute env attempt state).1 = .error (.auth
    (.invalidCredentials (tenantSlugOf env attempt.params) (identifierOf attempt.params)))
  verifications : (execute env attempt state).2.verifications = state.verifications + 1
  sessions : (execute env attempt state).2.sessions = state.sessions

variable {env : LoginEnv} {attempt : LoginAttempt} {state : LoginState}

/-! ## The branches that fail -/

/-- Where there is a decoy, the time of one verification is spent on it. -/
theorem verifyAgainstDummy_effect {decoy : Option JsString} {plain : JsString}
    (hdecoy : state.dummyHash.isSome = true ∨ decoy.isSome = true) :
    (Argon2PasswordVerifier.verifyAgainstDummy env decoy plain state).verifications =
        state.verifications + 1 ∧
      (Argon2PasswordVerifier.verifyAgainstDummy env decoy plain state).sessions =
        state.sessions := by
  unfold Argon2PasswordVerifier.verifyAgainstDummy Argon2PasswordVerifier.getDummyHash
  cases hcached : state.dummyHash with
  | some dummyHash => exact ⟨rfl, rfl⟩
  | none =>
    rw [hcached] at hdecoy
    obtain ⟨dummyHash, rfl⟩ := Option.isSome_iff_exists.mp (hdecoy.resolve_left Bool.false_ne_true)
    exact ⟨rfl, rfl⟩

/-- A verification counts whatever comes of it, also where it rejects. -/
theorem verify_effect (plain hash : JsString) :
    Argon2PasswordVerifier.verify env plain hash state =
      ((env.argon2Verify hash plain).getD false,
        { state with verifications := state.verifications + 1 }) := by
  unfold Argon2PasswordVerifier.verify Argon2PasswordVerifier.argon2Verify
  cases env.argon2Verify hash plain <;> rfl

theorem verify_eq_some_true_iff {plain hash : JsString} :
    env.argon2Verify hash plain = some true ↔ (env.argon2Verify hash plain).getD false = true := by
  cases env.argon2Verify hash plain <;> simp

theorem findBySlug_ne_error {tenants : List TenantRow} {slug : JsString}
    (h : ∀ row ∈ tenants, env.rehydratesTenant row = true) :
    ∃ tenant, TenantResolverAdapter.findBySlug env tenants slug = .ok tenant := by
  unfold TenantResolverAdapter.findBySlug
  cases Businesses.TenantSlug.create slug with
  | error e => exact ⟨none, rfl⟩
  | ok tenantSlug =>
    cases hfind : TenantRepository.searchAggregateBySlug tenants tenantSlug.value with
    | none => exact ⟨none, by simp only [hfind]⟩
    | some row =>
      have hrow := h row (List.mem_of_find?_eq_some hfind)
      exact ⟨some (toResolvedTenant row), by simp only [hfind, hrow, if_true]⟩

theorem findByUserName_ne_error {users : List UserRow} {tenantId : Uuid} {userName : JsString}
    (h : ∀ row ∈ users, env.rehydratesUser row = true) :
    ∃ user, AuthUserFinderAdapter.findByUserName env users tenantId userName = .ok user := by
  unfold AuthUserFinderAdapter.findByUserName
  cases Users.UserName.create userName with
  | error e => exact ⟨none, rfl⟩
  | ok name =>
    cases hfind : UserRepository.searchAggregateByUserName users tenantId name.value with
    | none => exact ⟨none, by simp only [hfind]⟩
    | some row =>
      have hrow := h row (List.mem_of_find?_eq_some hfind)
      exact ⟨some row, by simp only [hfind, hrow, if_true]⟩

/-! ## `execute`, by what the adapters answer -/

theorem execute_of_no_tenant (htenant : TenantResolverAdapter.findBySlug env
      attempt.accounts.tenants (tenantSlugOf env attempt.params) = .ok none) :
    execute env attempt state =
      (.error (.auth (.invalidCredentials (tenantSlugOf env attempt.params)
        (identifierOf attempt.params))),
        Argon2PasswordVerifier.verifyAgainstDummy env attempt.decoy attempt.params.password
          state) := by
  unfold execute
  simp only [htenant]
  rfl

theorem execute_of_no_user {tenant : ResolvedTenant}
    (htenant : TenantResolverAdapter.findBySlug env attempt.accounts.tenants
      (tenantSlugOf env attempt.params) = .ok (some tenant))
    (huser : AuthUserFinderAdapter.findByUserName env attempt.accounts.users tenant.id
      (identifierOf attempt.params) = .ok none) :
    execute env attempt state =
      (.error (.auth (.invalidCredentials (tenantSlugOf env attempt.params)
        (identifierOf attempt.params))),
        Argon2PasswordVerifier.verifyAgainstDummy env attempt.decoy attempt.params.password
          state) := by
  unfold execute
  simp only [htenant, huser]

/-- The order of the checks: the password, the business, the user. -/
theorem execute_of_user {tenant : ResolvedTenant} {user : UserRow}
    (htenant : TenantResolverAdapter.findBySlug env attempt.accounts.tenants
      (tenantSlugOf env attempt.params) = .ok (some tenant))
    (huser : AuthUserFinderAdapter.findByUserName env attempt.accounts.users tenant.id
      (identifierOf attempt.params) = .ok (some user)) :
    execute env attempt state =
      (if env.argon2Verify user.password attempt.params.password ≠ some true then
          .error (.auth (.invalidCredentials (tenantSlugOf env attempt.params)
            (identifierOf attempt.params)))
        else if tenant.isActive = false then
          .error (.auth (.inactiveTenant (tenantSlugOf env attempt.params)))
        else if user.isActive = false then
          .error (.auth (.inactiveAccount (identifierOf attempt.params)))
        else
          .ok
            { tokens := (SessionIssuer.start env.toAuthEnv state.sessions (ownerOf user)
                attempt.context attempt.generated attempt.now).1
              lastLogin := []
              user := toUserResponse user },
        { state with
          verifications := state.verifications + 1
          sessions :=
            if env.argon2Verify user.password attempt.params.password = some true ∧
                tenant.isActive = true ∧ user.isActive = true then
              (SessionIssuer.start env.toAuthEnv state.sessions (ownerOf user) attempt.context
                attempt.generated attempt.now).2
            else state.sessions }) := by
  unfold execute
  simp only [htenant, huser, verify_effect, Ne, verify_eq_some_true_iff]
  cases (env.argon2Verify user.password attempt.params.password).getD false with
  | false => simp
  | true =>
    cases tenant.isActive with
    | false => simp
    | true => cases user.isActive <;> simp

/-! ## What comes out -/

/-- A password that is not verified: nothing of the stores comes out. -/
theorem execute_of_not_verified (hrows : Rehydrates env attempt.accounts)
    (hdecoy : HasDecoy attempt state) (hnot : ¬ Verified env attempt) :
    FailsAlike env attempt state := by
  obtain ⟨hone, hkept⟩ := @verifyAgainstDummy_effect env state attempt.decoy
    attempt.params.password hdecoy
  obtain ⟨tenant, htenant⟩ := @findBySlug_ne_error env attempt.accounts.tenants
    (tenantSlugOf env attempt.params) hrows.1
  cases tenant with
  | none =>
    have hexecute := @execute_of_no_tenant _ _ state htenant
    exact ⟨by rw [hexecute], by rw [hexecute, hone], by rw [hexecute, hkept]⟩
  | some tenant =>
    obtain ⟨user, huser⟩ := @findByUserName_ne_error env attempt.accounts.users tenant.id
      (identifierOf attempt.params) hrows.2
    cases user with
    | none =>
      have hexecute := @execute_of_no_user _ _ state _ htenant huser
      exact ⟨by rw [hexecute], by rw [hexecute, hone], by rw [hexecute, hkept]⟩
    | some user =>
      have hmismatch : env.argon2Verify user.password attempt.params.password ≠ some true :=
        fun hverify => hnot ⟨tenant, user, htenant, huser, hverify⟩
      have hexecute := @execute_of_user _ _ state _ _ htenant huser
      rw [if_pos hmismatch, if_neg fun h => hmismatch h.1] at hexecute
      exact ⟨by rw [hexecute], by rw [hexecute], by rw [hexecute]⟩

/-- Tokens are for an active user of an active business who sent the password. -/
theorem identified_of_execute {result : LoginResult}
    (h : (execute env attempt state).1 = .ok result) :
    ∃ tenant user, Identified env attempt tenant user ∧ tenant.isActive = true ∧
      user.isActive = true ∧ result.user = toUserResponse user := by
  cases htenant : TenantResolverAdapter.findBySlug env attempt.accounts.tenants
      (tenantSlugOf env attempt.params) with
  | error e =>
    unfold execute at h
    simp only [htenant] at h
    cases h
  | ok tenant =>
    cases tenant with
    | none =>
      rw [execute_of_no_tenant htenant] at h
      cases h
    | some tenant =>
      cases huser : AuthUserFinderAdapter.findByUserName env attempt.accounts.users tenant.id
          (identifierOf attempt.params) with
      | error e =>
        unfold execute at h
        simp only [htenant, huser] at h
        cases h
      | ok user =>
        cases user with
        | none =>
          rw [execute_of_no_user htenant huser] at h
          cases h
        | some user =>
          rw [execute_of_user htenant huser] at h
          simp only at h
          split_ifs at h with hpassword hactive hactive'
          refine ⟨tenant, user, ⟨htenant, huser, not_not.mp hpassword⟩,
            Bool.eq_true_of_not_eq_false hactive, Bool.eq_true_of_not_eq_false hactive', ?_⟩
          rw [← Except.ok.inj h]

/-- What the adapters found is in the tables. -/
theorem mem_of_identified {tenant : ResolvedTenant} {user : UserRow}
    (h : Identified env attempt tenant user) :
    (∃ row ∈ attempt.accounts.tenants, row.isDeleted = false ∧ tenant = toResolvedTenant row) ∧
      user ∈ attempt.accounts.users ∧ user.tenantId = tenant.id := by
  have hbusiness := h.business
  have hmember := h.member
  unfold TenantResolverAdapter.findBySlug at hbusiness
  unfold AuthUserFinderAdapter.findByUserName at hmember
  constructor
  · split at hbusiness
    · cases hbusiness
    split at hbusiness
    · cases hbusiness
    next row hfind =>
    split_ifs at hbusiness
    have hrow := List.find?_some hfind
    simp only [Bool.and_eq_true, Bool.not_eq_true'] at hrow
    exact ⟨row, List.mem_of_find?_eq_some hfind, hrow.2,
      (Option.some.inj (Except.ok.inj hbusiness)).symm⟩
  · split at hmember
    · cases hmember
    split at hmember
    · cases hmember
    next row hfind =>
    split_ifs at hmember
    obtain rfl := Option.some.inj (Except.ok.inj hmember)
    have hrow := List.find?_some hfind
    simp only [Bool.and_eq_true, decide_eq_true_eq] at hrow
    exact ⟨List.mem_of_find?_eq_some hfind, hrow.1⟩

/-- The `code` of the exception that a login ends in. -/
def codeOf : Except LoginFailure LoginResult → Option JsString
  | .error (.auth error) => some error.code
  | .error .rehydration => none
  | .ok _ => none

/-- The code of a failed login means that no password was verified. -/
theorem not_verified_of_code (h : codeOf (execute env attempt state).1 = some (js "1100")) :
    ¬ Verified env attempt := by
  rintro ⟨tenant, user, hidentified⟩
  rw [execute_of_user hidentified.business hidentified.member] at h
  simp only [hidentified.password, Ne, not_true, if_false] at h
  split_ifs at h
  · exact absurd h (by simp only [codeOf, AuthException.code]; decide)
  · exact absurd h (by simp only [codeOf, AuthException.code]; decide)
  · cases h

/-- Failed logins are indistinguishable, and a login succeeds only for an active
    user of an active business who sent the password. -/
theorem failed_logins_alike (env : LoginEnv) :
    (∀ attempt attempt' state state', Rehydrates env attempt.accounts →
      Rehydrates env attempt'.accounts → HasDecoy attempt state → HasDecoy attempt' state' →
      ¬ Verified env attempt → ¬ Verified env attempt' →
      FailsAlike env attempt state ∧ FailsAlike env attempt' state' ∧
        codeOf (execute env attempt state).1 = codeOf (execute env attempt' state').1 ∧
        (attempt.params = attempt'.params →
          (execute env attempt state).1 = (execute env attempt' state').1)) ∧
    ∀ attempt state result, (execute env attempt state).1 = .ok result →
      ∃ tenant user, Identified env attempt tenant user ∧
        (∃ row ∈ attempt.accounts.tenants, row.isDeleted = false ∧ tenant = toResolvedTenant row) ∧
        tenant.isActive = true ∧ user ∈ attempt.accounts.users ∧ user.tenantId = tenant.id ∧
        user.isActive = true := by
  constructor
  · intro attempt attempt' state state' hrows hrows' hdecoy hdecoy' hnot hnot'
    have hfails := execute_of_not_verified hrows hdecoy hnot
    have hfails' := execute_of_not_verified hrows' hdecoy' hnot'
    refine ⟨hfails, hfails', ?_, ?_⟩
    · rw [hfails.result, hfails'.result]
      rfl
    · intro hparams
      rw [hfails.result, hfails'.result, hparams]
  · intro attempt state result h
    obtain ⟨tenant, user, hidentified, hactive, hactive', -⟩ := identified_of_execute h
    obtain ⟨hrow, huser, htenant⟩ := mem_of_identified hidentified
    exact ⟨tenant, user, hidentified, hrow, hactive, huser, htenant, hactive'⟩

/-! ## The login of the runs of sessions -/

/-- The names that the login looks for. -/
def normalized (env : LoginEnv) (params : RawLoginParams) : LoginParams where
  tenantSlug := tenantSlugOf env params
  username := identifierOf params
  password := params.password

/-- The stored slugs and names are those of the value objects. -/
def WellFormed (accounts : Accounts) : Prop :=
  (∀ row ∈ accounts.tenants, (Businesses.TenantSlug.create row.slug).isOk = true) ∧
    ∀ row ∈ accounts.users, (Users.UserName.create row.userName).isOk = true

theorem value_of_createSlug {raw : JsString} {slug : Businesses.TenantSlug}
    (h : Businesses.TenantSlug.create raw = .ok slug) : slug.value = trim raw := by
  obtain ⟨text, htext, h⟩ := bind_eq_ok.mp h
  split_ifs at h
  have hvalue : text.value = trim raw := by
    unfold BoundedText.create at htext
    split_ifs at htext
    rw [← Except.ok.inj htext]
  rw [← Except.ok.inj h]
  exact hvalue

theorem value_of_createUserName {raw : JsString} {name : Users.UserName}
    (h : Users.UserName.create raw = .ok name) : name.value = trim raw := by
  unfold Users.UserName.create at h
  split_ifs at h
  rw [← Except.ok.inj h]

/-- The adapter is the plain search where the slugs are well formed. -/
theorem findBySlug_eq {tenants : List TenantRow} {slug : JsString} (htrim : trim slug = slug)
    (hrows : ∀ row ∈ tenants, env.rehydratesTenant row = true)
    (hslugs : ∀ row ∈ tenants, (Businesses.TenantSlug.create row.slug).isOk = true) :
    TenantResolverAdapter.findBySlug env tenants slug = .ok (findTenantBySlug tenants slug) := by
  unfold TenantResolverAdapter.findBySlug findTenantBySlug
  cases hcreate : Businesses.TenantSlug.create slug with
  | error e =>
    cases hfind : TenantRepository.searchAggregateBySlug tenants slug with
    | none => rfl
    | some row =>
      have hrow := List.find?_some hfind
      simp only [Bool.and_eq_true, decide_eq_true_eq] at hrow
      have hok := hslugs row (List.mem_of_find?_eq_some hfind)
      rw [hrow.1, hcreate] at hok
      cases hok
  | ok tenantSlug =>
    simp only [value_of_createSlug hcreate, htrim]
    cases hfind : TenantRepository.searchAggregateBySlug tenants slug with
    | none => rfl
    | some row => simp only [hrows row (List.mem_of_find?_eq_some hfind), if_true, Option.map_some]

theorem findByUserName_eq {users : List UserRow} {tenantId : Uuid} {userName : JsString}
    (htrim : trim userName = userName) (hrows : ∀ row ∈ users, env.rehydratesUser row = true)
    (hnames : ∀ row ∈ users, (Users.UserName.create row.userName).isOk = true) :
    AuthUserFinderAdapter.findByUserName env users tenantId userName =
      .ok (findByUserName users tenantId userName) := by
  unfold AuthUserFinderAdapter.findByUserName findByUserName
  cases hcreate : Users.UserName.create userName with
  | error e =>
    cases hfind : UserRepository.searchAggregateByUserName users tenantId userName with
    | none => rfl
    | some row =>
      have hrow := List.find?_some hfind
      simp only [Bool.and_eq_true, decide_eq_true_eq] at hrow
      have hok := hnames row (List.mem_of_find?_eq_some hfind)
      rw [hrow.2, hcreate] at hok
      cases hok
  | ok name =>
    simp only [value_of_createUserName hcreate, htrim]
    cases hfind : UserRepository.searchAggregateByUserName users tenantId userName with
    | none => rfl
    | some row => simp only [hrows row (List.mem_of_find?_eq_some hfind), if_true]

/-- Over well-formed rows the login answers what `Login.authenticate` does, and
    opens the session of the user. -/
theorem execute_eq_authenticate (hrows : Rehydrates env attempt.accounts)
    (hformed : WellFormed attempt.accounts)
    (htrim : trim (tenantSlugOf env attempt.params) = tenantSlugOf env attempt.params) :
    (execute env attempt state).1 =
      ((Login.authenticate env.toAuthEnv attempt.accounts (normalized env attempt.params)).map
        fun user =>
          { tokens := (SessionIssuer.start env.toAuthEnv state.sessions (ownerOf user)
              attempt.context attempt.generated attempt.now).1
            lastLogin := []
            user := toUserResponse user }).mapError .auth := by
  have hslug := findBySlug_eq htrim hrows.1 hformed.1
  have hname : ∀ tenantId, AuthUserFinderAdapter.findByUserName env attempt.accounts.users tenantId
      (identifierOf attempt.params) = .ok (findByUserName attempt.accounts.users tenantId
        (identifierOf attempt.params)) := fun tenantId =>
    findByUserName_eq (trim_trim _) hrows.2 hformed.2
  unfold Login.authenticate normalized
  simp only
  cases htenant : findTenantBySlug attempt.accounts.tenants (tenantSlugOf env attempt.params) with
  | none =>
    rw [htenant] at hslug
    rw [execute_of_no_tenant hslug]
    rfl
  | some tenant =>
    rw [htenant] at hslug
    have hname := hname tenant.id
    cases huser : findByUserName attempt.accounts.users tenant.id (identifierOf attempt.params) with
    | none =>
      rw [huser] at hname
      rw [execute_of_no_user hslug hname]
      simp only [huser]
      rfl
    | some user =>
      rw [huser] at hname
      rw [execute_of_user hslug hname]
      have hverify : env.toAuthEnv.verify attempt.params.password user.password =
          (env.argon2Verify user.password attempt.params.password).getD false := rfl
      simp only [huser, hverify, Ne, verify_eq_some_true_iff]
      cases (env.argon2Verify user.password attempt.params.password).getD false with
      | false => rfl
      | true =>
        cases tenant.isActive with
        | false => rfl
        | true => cases user.isActive <;> rfl

/-! ## A concrete login -/

/-- The package answers for the sample hash, and rejects what is no hash. -/
def sampleLoginEnv : LoginEnv where
  argon2Verify hash plain :=
    if hash = js "$argon2id$secreto" then some (plain = js "secreto") else none
  toLowerCase := Shared.toLowerCase
  rehydratesTenant _ := true
  rehydratesUser _ := true
  hash := sampleHash
  refreshTtlDays := 7
  accessTtlSeconds := 900

/-- Someone types these into the form of the sample business. -/
def sampleAttempt (tenantSlug username password : JsString) : LoginAttempt where
  accounts := sampleAccounts
  params := ⟨tenantSlug, username, password⟩
  context := sampleContext
  generated := sampleGenerated 1
  now := 0
  decoy := some (js "$argon2id$secreto")

/-- Before the first login. -/
def sampleLoginState : LoginState := ⟨[], none, 0⟩

/-- A wrong password against a business that does not exist. -/
theorem failed_logins_alike_sample :
    FailsAlike sampleLoginEnv (sampleAttempt (js "cafe") (js "ana") (js "otra")) sampleLoginState ∧
      codeOf (execute sampleLoginEnv (sampleAttempt (js "cafe") (js "ana") (js "otra"))
        sampleLoginState).1 =
      codeOf (execute sampleLoginEnv (sampleAttempt (js "bar") (js "ana") (js "secreto"))
        sampleLoginState).1 := by
  have hrows : Rehydrates sampleLoginEnv sampleAccounts := ⟨fun _ _ => rfl, fun _ _ => rfl⟩
  have hpassword : ¬ Verified sampleLoginEnv (sampleAttempt (js "cafe") (js "ana") (js "otra")) :=
    @not_verified_of_code _ _ sampleLoginState (by decide +kernel)
  have hslug : ¬ Verified sampleLoginEnv (sampleAttempt (js "bar") (js "ana") (js "secreto")) :=
    @not_verified_of_code _ _ sampleLoginState (by decide +kernel)
  obtain ⟨hfails, -, hcode, -⟩ := (failed_logins_alike sampleLoginEnv).1 _ _ sampleLoginState
    sampleLoginState hrows hrows (.inr rfl) (.inr rfl) hpassword hslug
  exact ⟨hfails, hcode⟩

end LoginUseCase

end KomiSaas.Auth
