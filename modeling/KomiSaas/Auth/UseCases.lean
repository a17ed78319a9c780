import KomiSaas.Auth.Accounts
import KomiSaas.Auth.Session

/-!
# Login, renewal, logout and the guard

The use cases of `auth/application`, each cut at its calls to the session
repository, so that the same definitions serve a run of whole requests and an
interleaving of their steps:

* login calls the repository once, `SessionIssuer.start`;
* a renewal is `RefreshSession.afterFind` on the session it looked up, then
  `RefreshSession.finish`, which makes the second call: `revokeAllByUser` or `rotate`;
* a logout is a lookup, then `Logout.finish`.

What the second step of a renewal can do: `RefreshSession.finish_alarm`,
`finish_of_renewsFor` and `finish_of_not_renewsFor`.
-/

namespace KomiSaas.Auth

open KomiSaas.Lib KomiSaas.Shared

/-- What the module is assembled with: the SHA-256 of a refresh token, the
    argon2 verification, and the two lifetimes. -/
structure AuthEnv where
  hash : JsString → JsString
  verify : JsString → JsString → Bool
  refreshTtlDays : ℤ
  accessTtlSeconds : ℤ

/-- The exceptions of `auth-exceptions.ts` and `session-exceptions.ts` that the
    three use cases throw. -/
inductive AuthException where
  | invalidCredentials (tenantSlug username : JsString)
  | inactiveAccount (username : JsString)
  | inactiveTenant (tenantSlug : JsString)
  | invalidRefreshToken
  | expiredRefreshToken
  | refreshTokenReuseDetected (userId : Uuid)
  deriving DecidableEq, Repr

/-- The `code` of each exception. -/
def AuthException.code : AuthException → JsString
  | .invalidCredentials .. => js "1100"
  | .inactiveAccount .. => js "1101"
  | .inactiveTenant .. => js "1102"
  | .invalidRefreshToken => js "1104"
  | .expiredRefreshToken => js "1105"
  | .refreshTokenReuseDetected .. => js "1106"

/-- `SessionContext`. -/
structure SessionContext where
  ipAddress : Option JsString
  userAgent : Option JsString
  deriving DecidableEq

/-- `SessionOwner`: what an access token says about its bearer. -/
structure SessionOwner where
  userId : Uuid
  tenantId : Uuid
  branchId : Option Uuid
  rolScope : JsString
  deriving DecidableEq

/-- The claims of a signed access token; `jti` is its session. -/
structure AccessToken where
  sub : Uuid
  tenantId : Uuid
  branchId : Option Uuid
  rolScope : JsString
  jti : Uuid
  deriving DecidableEq

/-- `AuthTokens`. -/
structure AuthTokens where
  accessToken : AccessToken
  accessExpiresAt : Instant
  refreshToken : JsString
  refreshExpiresAt : Instant
  deriving DecidableEq

/-- The random values of a new session: its id and its refresh token. -/
structure Generated where
  sessionId : Uuid
  plain : JsString
  deriving DecidableEq

/-! ## `SessionIssuer` -/

namespace SessionIssuer

/-- `build` (`session-issuer.ts`, lines 85–105). -/
def build (env : AuthEnv) (owner : SessionOwner) (context : SessionContext) (gen : Generated)
    (now : Instant) : Session :=
  Session.create gen.sessionId owner.userId owner.tenantId (env.hash gen.plain)
    (now + env.refreshTtlDays * millisecondsPerDay) context.ipAddress context.userAgent now

/-- `issueFor` (lines 115–134). -/
def issueFor (env : AuthEnv) (session : Session) (owner : SessionOwner) (gen : Generated)
    (now : Instant) : AuthTokens where
  accessToken :=
    { sub := owner.userId
      tenantId := owner.tenantId
      branchId := owner.branchId
      rolScope := owner.rolScope
      jti := session.id }
  accessExpiresAt := now + env.accessTtlSeconds * 1000
  refreshToken := gen.plain
  refreshExpiresAt := session.expiresAt

/-- `start` (lines 45–51). -/
def start (env : AuthEnv) (table : SessionTable) (owner : SessionOwner) (context : SessionContext)
    (gen : Generated) (now : Instant) : AuthTokens × SessionTable :=
  let session := build env owner context gen now
  (issueFor env session owner gen now, SessionRepository.create table session)

/-- `rotate` (lines 61–75). -/
def rotate (env : AuthEnv) (table : SessionTable) (previous : Session) (owner : SessionOwner)
    (context : SessionContext) (gen : Generated) (now : Instant) :
    Option AuthTokens × SessionTable :=
  let successor := build env owner context gen now
  let previous := previous.rotateTo successor.id now
  let (won, table) := SessionRepository.rotate table previous successor
  (if won then some (issueFor env successor owner gen now) else none, table)

end SessionIssuer

/-! ## The adapters to the other contexts -/

/-- `ResolvedTenant`, as far as authentication reads it. -/
structure ResolvedTenant where
  id : Uuid
  slug : JsString
  isActive : Bool
  deriving DecidableEq

/-- `TenantResolverAdapter.toResolvedTenant`. -/
def toResolvedTenant (tenant : TenantRow) : ResolvedTenant :=
  ⟨tenant.id, tenant.slug, tenant.isActive⟩

/-- `TenantResolverAdapter.findBySlug`. -/
def findTenantBySlug (tenants : List TenantRow) (slug : JsString) : Option ResolvedTenant :=
  (TenantRepository.searchAggregateBySlug tenants slug).map toResolvedTenant

/-- `TenantResolverAdapter.findById`. -/
def findTenantById (tenants : List TenantRow) (id : Uuid) : Option ResolvedTenant :=
  (TenantRepository.searchAggregateById tenants id).map toResolvedTenant

/-- `AuthUserFinderAdapter.findByUserId`. -/
def findByUserId (users : List UserRow) (tenantId userId : Uuid) : Option UserRow :=
  UserRepository.searchAggregateById users tenantId userId

/-- `AuthUserFinderAdapter.findByUserName`. -/
def findByUserName (users : List UserRow) (tenantId : Uuid) (userName : JsString) :
    Option UserRow :=
  UserRepository.searchAggregateByUserName users tenantId userName

/-- What `SessionIssuer` takes from the credentials of a user. -/
def ownerOf (user : UserRow) : SessionOwner :=
  ⟨user.id, user.tenantId, user.branchId, user.rolScope⟩

/-! ## Login -/

/-- `LoginParams` after `execute` trimmed both names and lower-cased the slug
    (lines 36 and 52). -/
structure LoginParams where
  tenantSlug : JsString
  username : JsString
  password : JsString
  deriving DecidableEq

/-- `LoginUseCase.execute` (`login.use-case.ts`, lines 33–91) up to the
    session: the credentials of whoever may open one. -/
def Login.authenticate (env : AuthEnv) (accounts : Accounts) (params : LoginParams) :
    Except AuthException UserRow :=
  match findTenantBySlug accounts.tenants params.tenantSlug with
  | none => .error (.invalidCredentials params.tenantSlug params.username)
  | some tenant =>
    match findByUserName accounts.users tenant.id params.username with
    | none => .error (.invalidCredentials params.tenantSlug params.username)
    | some dataUser =>
      if !env.verify params.password dataUser.password then
        .error (.invalidCredentials params.tenantSlug params.username)
      else if !tenant.isActive then .error (.inactiveTenant params.tenantSlug)
      else if !dataUser.isActive then .error (.inactiveAccount params.username)
      else .ok dataUser

/-! ## Renewal -/

/-- `ROTATION_GRACE_MS` (`refresh-session.use-case.ts`, line 14). -/
def rotationGraceMs : ℤ := 10000

/-- `wasJustRotated` (lines 28–33). -/
def wasJustRotated (session : Session) (now : Instant) : Bool :=
  match session.revokedAt with
  | none => false
  | some revokedAt => now - revokedAt < rotationGraceMs

/-- Where a renewal stands after looking its token up. -/
inductive RefreshPhase where
  /-- A consumed token came back: every session of the user is to be revoked. -/
  | alarm (userId : Uuid)
  /-- The session can be renewed if its business and its user still can. -/
  | renew (session : Session)
  deriving DecidableEq

namespace RefreshSession

/-- `execute`, lines 45–87: what the looked-up session decides. -/
def afterFind (session : Option Session) (now : Instant) : Except AuthException RefreshPhase :=
  match session with
  | none => .error .invalidRefreshToken
  | some session =>
    if session.isRevoked then
      if session.revocationReason ≠ some .rotated then .error .invalidRefreshToken
      else if wasJustRotated session now then .error .invalidRefreshToken
      else .ok (.alarm session.userId)
    else if session.isExpired now then .error .expiredRefreshToken
    else .ok (.renew session)

/-- `execute`, lines 74–139: the second call to the repository. `accounts` is
    what the two other contexts hold when they are asked in between. -/
def finish (env : AuthEnv) (table : SessionTable) (phase : RefreshPhase) (accounts : Accounts)
    (context : SessionContext) (gen : Generated) (now : Instant) :
    Except AuthException AuthTokens × SessionTable :=
  match phase with
  | .alarm userId =>
    (.error (.refreshTokenReuseDetected userId),
      SessionRepository.revokeAllByUser table userId .reuseDetected now)
  | .renew session =>
    let tenant := findTenantById accounts.tenants session.tenantId
    if !tenant.any (·.isActive) then
      (.error (.inactiveTenant ((tenant.map (·.slug)).getD session.tenantId)),
        SessionRepository.revokeAllByUser table session.userId .revoked now)
    else
      match (findByUserId accounts.users session.tenantId session.userId).filter (·.isActive) with
      | none =>
        (.error .invalidRefreshToken,
          SessionRepository.revokeAllByUser table session.userId .revoked now)
      | some user =>
        let (tokens, table) := SessionIssuer.rotate env table session (ownerOf user) context gen now
        match tokens with
        | none => (.error .invalidRefreshToken, table)
        | some tokens => (.ok tokens, table)

/-- The owner of the successor that `finish` asks to rotate to, if it gets there. -/
def renewsFor (accounts : Accounts) (session : Session) : Option SessionOwner :=
  if (findTenantById accounts.tenants session.tenantId).any (·.isActive) then
    ((findByUserId accounts.users session.tenantId session.userId).filter (·.isActive)).map ownerOf
  else none

/-- The user whose sessions `finish` revokes, if it does. -/
def revokes (phase : RefreshPhase) (accounts : Accounts) : Option Uuid :=
  match phase with
  | .alarm userId => some userId
  | .renew session => if (renewsFor accounts session).isSome then none else some session.userId

/-- `execute` as one step. -/
def execute (env : AuthEnv) (table : SessionTable) (accounts : Accounts)
    (refreshToken : Option JsString) (context : SessionContext) (gen : Generated) (now : Instant) :
    Except AuthException AuthTokens × SessionTable :=
  match refreshToken with
  | none => (.error .invalidRefreshToken, table)
  | some token =>
    match afterFind (SessionRepository.findByRefreshTokenHash table (env.hash token)) now with
    | .error e => (.error e, table)
    | .ok phase => finish env table phase accounts context gen now

end RefreshSession

/-! ## Logout -/

/-- `LogoutUseCase.execute`, lines 31–33: revoke the loaded session and write it back. -/
def Logout.finish (table : SessionTable) (session : Session) (now : Instant) : SessionTable :=
  SessionRepository.update table (session.revoke .logout now)

/-- `LogoutUseCase.execute` as one step. -/
def Logout.execute (env : AuthEnv) (table : SessionTable) (refreshToken : Option JsString)
    (now : Instant) : SessionTable :=
  match refreshToken with
  | none => table
  | some token =>
    match SessionRepository.findByRefreshTokenHash table (env.hash token) with
    | none => table
    | some session => Logout.finish table session now

/-! ## The guard -/

/-- The `UnauthorizedException`s of `ensureSessionIsUsable`. -/
inductive UnauthorizedException where
  | sessionGone
  | sessionClosed
  deriving DecidableEq, Repr

/-- The message of each. -/
def UnauthorizedException.message : UnauthorizedException → JsString
  | .sessionGone => js "La sesión ya no existe"
  | .sessionClosed => js "La sesión fue cerrada"

/-- `JwtAuthGuard.ensureSessionIsUsable` (`jwt-auth.guard.ts`, lines 64–88). -/
def ensureSessionIsUsable (table : SessionTable) (sessionId : Uuid) :
    Except UnauthorizedException Unit :=
  match SessionRepository.findById table sessionId with
  | none => .error .sessionGone
  | some session =>
    if session.revocationReason ≠ none ∧ session.revocationReason ≠ some .rotated then
      .error .sessionClosed
    else .ok ()

/-- The guard lets the session through. -/
def Accepted (table : SessionTable) (sessionId : Uuid) : Prop :=
  ensureSessionIsUsable table sessionId = .ok ()

instance (table : SessionTable) (sessionId : Uuid) : Decidable (Accepted table sessionId) :=
  inferInstanceAs (Decidable (_ = _))

/-- The guard passes a session that is open or was rotated. -/
theorem accepted_iff {table : SessionTable} {sessionId : Uuid} :
    Accepted table sessionId ↔ ∃ r, SessionRepository.findById table sessionId = some r ∧
      (r.revocationReason = none ∨ r.revocationReason = some .rotated) := by
  rw [Accepted, ensureSessionIsUsable]
  cases SessionRepository.findById table sessionId with
  | none => simp
  | some r =>
    by_cases h : r.revocationReason = none ∨ r.revocationReason = some .rotated
    · have : ¬ (r.revocationReason ≠ none ∧ r.revocationReason ≠ some .rotated) := by tauto
      simp [h, this]
    · have : r.revocationReason ≠ none ∧ r.revocationReason ≠ some .rotated := by tauto
      simp [this]

/-! ## What the second step of a renewal does -/

namespace RefreshSession

variable {env : AuthEnv} {table : SessionTable} {phase : RefreshPhase} {accounts : Accounts}
  {context : SessionContext} {gen : Generated} {now : Instant}

/-- A renewal that looked up `session` goes on only with that session,
    unrevoked; an alarm comes from a rotated one. -/
theorem afterFind_ok {session : Option Session} (h : afterFind session now = .ok phase) :
    ∃ s, session = some s ∧
      ((phase = .renew s ∧ s.revokedAt = none) ∨
        (phase = .alarm s.userId ∧ s.revocationReason = some .rotated)) := by
  cases session with
  | none => simp [afterFind] at h
  | some s =>
    refine ⟨s, rfl, ?_⟩
    simp only [afterFind] at h
    split_ifs at h with hrev hreason hgrace hexp
    · exact .inr ⟨(Except.ok.inj h).symm, not_not.mp hreason⟩
    · exact .inl ⟨(Except.ok.inj h).symm, by simpa [Session.isRevoked] using hrev⟩

/-- The finder answers with the user it was asked for. -/
theorem userId_of_renewsFor {session : Session} {owner : SessionOwner}
    (h : renewsFor accounts session = some owner) : owner.userId = session.userId := by
  unfold renewsFor at h
  split_ifs at h
  obtain ⟨user, hfilter, rfl⟩ := Option.map_eq_some_iff.mp h
  have hfind := (Option.filter_eq_some_iff.mp hfilter).1
  have hid := List.find?_some hfind
  simp only [Bool.and_eq_true, decide_eq_true_eq] at hid
  exact hid.2

theorem finish_alarm (userId : Uuid) :
    finish env table (.alarm userId) accounts context gen now =
      (.error (.refreshTokenReuseDetected userId),
        SessionRepository.revokeAllByUser table userId .reuseDetected now) :=
  rfl

/-- With an active business and an active user, the second step is the rotation. -/
theorem finish_of_renewsFor {session : Session} {owner : SessionOwner}
    (h : renewsFor accounts session = some owner) :
    finish env table (.renew session) accounts context gen now =
      ((if (SessionRepository.rotate table (session.rotateTo gen.sessionId now)
            (SessionIssuer.build env owner context gen now)).1 then
          .ok (SessionIssuer.issueFor env (SessionIssuer.build env owner context gen now) owner
            gen now)
        else .error .invalidRefreshToken),
        (SessionRepository.rotate table (session.rotateTo gen.sessionId now)
          (SessionIssuer.build env owner context gen now)).2) := by
  unfold renewsFor at h
  split_ifs at h with htenant
  obtain ⟨user, huser, rfl⟩ := Option.map_eq_some_iff.mp h
  have hid : (SessionIssuer.build env (ownerOf user) context gen now).id = gen.sessionId := rfl
  simp only [finish, htenant, huser, SessionIssuer.rotate, hid, Bool.not_true, Bool.false_eq_true,
    if_false]
  cases (SessionRepository.rotate table (session.rotateTo gen.sessionId now)
    (SessionIssuer.build env (ownerOf user) context gen now)).1 <;> rfl

/-- Otherwise every session of the user is revoked and the renewal fails. -/
theorem finish_of_not_renewsFor {session : Session} (h : renewsFor accounts session = none) :
    ∃ e, finish env table (.renew session) accounts context gen now =
      (.error e, SessionRepository.revokeAllByUser table session.userId .revoked now) := by
  unfold renewsFor at h
  split_ifs at h with htenant
  · have huser := Option.map_eq_none_iff.mp h
    exact ⟨.invalidRefreshToken, by simp [finish, htenant, huser]⟩
  · exact ⟨.inactiveTenant (((findTenantById accounts.tenants session.tenantId).map (·.slug)).getD
      session.tenantId), by simp [finish, htenant]⟩

end RefreshSession

/-! ## A concrete business, for examples -/

def sampleToken (n : ℕ) : JsString := js (if n = 1 then "token-1" else if n = 2 then "token-2"
  else "token-3")

/-- SHA-256 of the sample tokens. -/
def sampleHash (plain : JsString) : JsString :=
  if plain = sampleToken 1 then
    js "3f08aace122ee2368432c1ca23a049bc640bafbf00fdf33a52429f38ba12dbf9"
  else if plain = sampleToken 2 then
    js "0f6bffa9661cb5dd2f3f7b2929f33061f58a7ba7fdd689530b1a306f8ed8f3ec"
  else if plain = sampleToken 3 then
    js "a2f2b0b588bcc84fbf4d2ac8cc086b6f84de3e00fa3c1ba11e38ac078eb03192"
  else []

def sampleEnv : AuthEnv where
  hash := sampleHash
  verify := fun password hash => password = js "secreto" ∧ hash = js "$argon2id$secreto"
  refreshTtlDays := 7
  accessTtlSeconds := 900

def sampleTenant : TenantRow where
  id := js "10000000-0000-4000-8000-000000000001"
  slug := js "cafe"
  isActive := true
  isDeleted := false

def sampleUser : UserRow where
  id := js "20000000-0000-4000-8000-000000000001"
  tenantId := sampleTenant.id
  branchId := none
  rolName := js "Cajero"
  rolScope := js "TENANT"
  userName := js "ana"
  firstName := js "Ana"
  secondName := none
  firstLastName := js "Rojas"
  secondLastName := none
  sex := js "F"
  password := js "$argon2id$secreto"
  isActive := true

def sampleAccounts : Accounts := ⟨[sampleTenant], [sampleUser]⟩

def sampleOwner : SessionOwner := ownerOf sampleUser

def sampleLogin : LoginParams := ⟨js "cafe", js "ana", js "secreto"⟩

def sampleContext : SessionContext := ⟨none, none⟩

/-- The random values of the `n`-th sample session. -/
def sampleGenerated (n : ℕ) : Generated where
  sessionId := js (if n = 1 then "30000000-0000-4000-8000-000000000001"
    else if n = 2 then "30000000-0000-4000-8000-000000000002"
    else "30000000-0000-4000-8000-000000000003")
  plain := sampleToken n

end KomiSaas.Auth
