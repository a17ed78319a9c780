import KomiSaas.Auth.Writes
import KomiSaas.Lib.Run

/-!
# Which access tokens the guard still accepts

Whole requests one after another: logins, renewals, logouts, revocations of a
user, and the three operations that close an account. The state remembers
every access token issued so far.

* `Effect`, `effect_of_next`: what a request can do.
* `Inv.run`: in a sequential run the revocation record of a row is final, and
  every token issued has its session row.
* `revoked_user_tokens`: after all sessions of a user were revoked, the tokens
  issued before that the guard still accepts are those of rotated sessions.
-/

namespace KomiSaas.Auth.Sequential

open KomiSaas.Lib KomiSaas.Shared SessionRepository

structure State where
  sessions : SessionTable
  accounts : Accounts
  issued : List AccessToken

/-- One request. A revocation of a user never has the reason `ROTATED`, which
    only a renewal writes. -/
inductive Action where
  | login (params : LoginParams) (context : SessionContext) (gen : Generated) (now : Instant)
  | refresh (token : Option JsString) (context : SessionContext) (gen : Generated) (now : Instant)
  | logout (token : Option JsString) (now : Instant)
  | revokeAllByUser (userId : Uuid) (reason : SessionRevocationReason) (now : Instant)
      (deliberate : reason ≠ .rotated)
  | toggleUserStatus (tenantId id : Uuid)
  | toggleTenantStatus (id : Uuid)
  | deleteTenant (id : Uuid)

/-- The accounts after a request on them; a request that fails changes nothing. -/
def commit (s : State) : Except AccountException Accounts → State
  | .ok accounts => { s with accounts := accounts }
  | .error _ => s

/-- One whole request; `none` where a new session would reuse an id or a hash. -/
def next (env : AuthEnv) (s : State) : Action → Option State
  | .login params context gen now =>
    match Login.authenticate env s.accounts params with
    | .error _ => some s
    | .ok user =>
      if Fresh s.sessions gen.sessionId (env.hash gen.plain) then
        let (tokens, sessions) :=
          SessionIssuer.start env s.sessions (ownerOf user) context gen now
        some { s with sessions := sessions, issued := s.issued ++ [tokens.accessToken] }
      else none
  | .refresh token context gen now =>
    match RefreshSession.execute env s.sessions s.accounts token context gen now with
    | (.error _, sessions) => some { s with sessions := sessions }
    | (.ok tokens, sessions) =>
      if Fresh s.sessions gen.sessionId (env.hash gen.plain) then
        some { s with sessions := sessions, issued := s.issued ++ [tokens.accessToken] }
      else none
  | .logout token now => some { s with sessions := Logout.execute env s.sessions token now }
  | .revokeAllByUser userId reason now _ =>
    some { s with sessions := revokeAllByUser s.sessions userId reason now }
  | .toggleUserStatus tenantId id => some (commit s (toggleUserStatus s.accounts tenantId id))
  | .toggleTenantStatus id => some (commit s (toggleTenantStatus s.accounts id))
  | .deleteTenant id => some (commit s (deleteTenant s.accounts id))

/-- Before the first request: sessions and accounts with distinct keys, and no
    token issued yet. -/
structure Initial (s : State) : Prop where
  keyed : Keyed s.sessions
  users_nodup : (s.accounts.users.map UserRow.id).Nodup
  tenants_nodup : (s.accounts.tenants.map TenantRow.id).Nodup
  issued : s.issued = []

/-- No session and no token yet. -/
def openingDay (accounts : Accounts) : State := ⟨[], accounts, []⟩

theorem openingDay_initial : Initial (openingDay sampleAccounts) :=
  ⟨⟨List.nodup_nil, List.nodup_nil⟩, List.nodup_singleton _, List.nodup_singleton _, rfl⟩

/-! ## What a request can do -/

/-- An active user of an active business. -/
def Entitled (accounts : Accounts) (owner : SessionOwner) : Prop :=
  ∃ user ∈ accounts.users, owner = ownerOf user ∧ user.isActive = true ∧
    ∃ tenant ∈ accounts.tenants, tenant.id = user.tenantId ∧ tenant.isActive = true ∧
      tenant.isDeleted = false

/-- The access token of a new session. -/
def newToken (env : AuthEnv) (owner : SessionOwner) (context : SessionContext) (gen : Generated)
    (now : Instant) : AccessToken :=
  let session := SessionIssuer.build env owner context gen now
  (SessionIssuer.issueFor env session owner gen now).accessToken

/-- Everything a request can do to sessions, accounts and tokens. -/
inductive Effect (env : AuthEnv) (s : State) : State → Prop
  | idle : Effect env s s
  | opened {owner context gen now} : Entitled s.accounts owner →
      Fresh s.sessions gen.sessionId (env.hash gen.plain) →
      Effect env s
        { s with
          sessions := create s.sessions (SessionIssuer.build env owner context gen now)
          issued := s.issued ++ [newToken env owner context gen now] }
  | renewed {session owner context gen now} : session ∈ s.sessions → session.revokedAt = none →
      Entitled s.accounts owner → Fresh s.sessions gen.sessionId (env.hash gen.plain) →
      (rotate s.sessions (session.rotateTo gen.sessionId now)
        (SessionIssuer.build env owner context gen now)).1 = true →
      Effect env s
        { s with
          sessions := (rotate s.sessions (session.rotateTo gen.sessionId now)
            (SessionIssuer.build env owner context gen now)).2
          issued := s.issued ++ [newToken env owner context gen now] }
  | revoked {userId reason now} : reason ≠ .rotated →
      Effect env s { s with sessions := revokeAllByUser s.sessions userId reason now }
  | closed {session now} : session ∈ s.sessions →
      Effect env s { s with sessions := Logout.finish s.sessions session now }
  | moved {accounts} :
      accounts.users.map UserRow.id = s.accounts.users.map UserRow.id →
      accounts.tenants.map TenantRow.id = s.accounts.tenants.map TenantRow.id →
      Effect env s { s with accounts := accounts }

variable {env : AuthEnv} {s s' s₀ s₁ s₂ s₃ : State} {a : Action}
  {tr tr₁ tr₂ : List (Transition State Action)}

theorem entitled_of_authenticate {accounts : Accounts} {params : LoginParams} {user : UserRow}
    (h : Login.authenticate env accounts params = .ok user) :
    Entitled accounts (ownerOf user) := by
  unfold Login.authenticate at h
  split at h
  · cases h
  · rename_i tenant htenant
    split at h
    · cases h
    · rename_i dataUser huser
      split_ifs at h with hverify htenantActive huserActive
      obtain rfl := Except.ok.inj h
      obtain ⟨row, hrow, rfl⟩ := Option.map_eq_some_iff.mp htenant
      have hrowMem := List.mem_of_find?_eq_some hrow
      have hrowPred := List.find?_some hrow
      have huserMem := List.mem_of_find?_eq_some huser
      have huserPred := List.find?_some huser
      simp only [Bool.and_eq_true, decide_eq_true_eq, Bool.not_eq_true'] at hrowPred huserPred
      refine ⟨dataUser, huserMem, rfl, by simpa using huserActive, row, hrowMem, ?_, ?_, hrowPred.2⟩
      · exact huserPred.1.symm
      · simpa [toResolvedTenant] using htenantActive

theorem entitled_of_renewsFor {accounts : Accounts} {session : Session} {owner : SessionOwner}
    (h : RefreshSession.renewsFor accounts session = some owner) : Entitled accounts owner := by
  unfold RefreshSession.renewsFor at h
  split_ifs at h with htenant
  obtain ⟨user, hfilter, rfl⟩ := Option.map_eq_some_iff.mp h
  obtain ⟨hfind, hactive⟩ := Option.filter_eq_some_iff.mp hfilter
  obtain ⟨tenant, htenant, htenantActive⟩ := (Option.any_eq_true _ _).mp htenant
  obtain ⟨row, hrow, rfl⟩ := Option.map_eq_some_iff.mp htenant
  have hrowMem := List.mem_of_find?_eq_some hrow
  have hrowPred := List.find?_some hrow
  have huserMem := List.mem_of_find?_eq_some hfind
  have huserPred := List.find?_some hfind
  simp only [Bool.and_eq_true, decide_eq_true_eq, Bool.not_eq_true'] at hrowPred huserPred
  exact ⟨user, huserMem, rfl, hactive, row, hrowMem, hrowPred.1.trans huserPred.1.symm,
    htenantActive, hrowPred.2⟩

theorem effect_of_login {params context gen now}
    (h : next env s (.login params context gen now) = some s') : Effect env s s' := by
  simp only [next] at h
  split at h
  · obtain rfl := Option.some.inj h
    exact .idle
  · rename_i user hauth
    split_ifs at h with hfresh
    obtain rfl := Option.some.inj h
    exact .opened (entitled_of_authenticate hauth) hfresh

theorem effect_of_refresh (hids : (ids s.sessions).Nodup) {token context gen now}
    (h : next env s (.refresh token context gen now) = some s') : Effect env s s' := by
  cases token with
  | none =>
    obtain rfl := Option.some.inj h
    exact .idle
  | some token =>
    simp only [next, RefreshSession.execute] at h
    cases hfind : RefreshSession.afterFind
      (findByRefreshTokenHash s.sessions (env.hash token)) now with
    | error e =>
      simp only [hfind] at h
      obtain rfl := Option.some.inj h
      exact .idle
    | ok phase =>
      simp only [hfind] at h
      obtain ⟨session, hsession, hphase⟩ := RefreshSession.afterFind_ok hfind
      have hmem : session ∈ s.sessions := (mem_of_findByRefreshTokenHash hsession).1
      rcases hphase with ⟨rfl, hopen⟩ | ⟨rfl, -⟩
      · cases hrenews : RefreshSession.renewsFor s.accounts session with
        | none =>
          have hfail : ∃ e, RefreshSession.finish env s.sessions (.renew session) s.accounts
              context gen now =
                (.error e, revokeAllByUser s.sessions session.userId .revoked now) :=
            RefreshSession.finish_of_not_renewsFor hrenews
          obtain ⟨e, hfinish⟩ := hfail
          simp only [hfinish] at h
          obtain rfl := Option.some.inj h
          exact .revoked (by decide)
        | some owner =>
          simp only [RefreshSession.finish_of_renewsFor hrenews] at h
          cases hwon : (rotate s.sessions (session.rotateTo gen.sessionId now)
            (SessionIssuer.build env owner context gen now)).1 with
          | false =>
            rw [rotate_eq_of_lost hids hwon] at h
            obtain rfl := Option.some.inj h
            exact .idle
          | true =>
            simp only [hwon, if_true] at h
            split_ifs at h with hfresh
            obtain rfl := Option.some.inj h
            exact .renewed hmem hopen (entitled_of_renewsFor hrenews) hfresh hwon
      · rw [RefreshSession.finish_alarm] at h
        obtain rfl := Option.some.inj h
        exact .revoked (by decide)

theorem effect_of_logout {token now} (h : next env s (.logout token now) = some s') :
    Effect env s s' := by
  obtain rfl := Option.some.inj h
  cases token with
  | none => exact .idle
  | some token =>
    simp only [Logout.execute]
    split
    · exact .idle
    · rename_i session hfind
      exact .closed (mem_of_findByRefreshTokenHash hfind).1

/-- Writing back a row with its own id leaves the ids alone. -/
theorem map_id_update {α : Type} {rows : List α} {p : α → Bool} {key : α → Uuid} {row : α}
    (h : ∀ r, p r = true → key row = key r) :
    (Rows.updateWhere p (fun _ => row) rows).map key = rows.map key :=
  Rows.map_updateWhere fun r _ hr => h r hr

theorem ids_toggleUserStatus {accounts accounts' : Accounts} {tenantId id : Uuid}
    (h : toggleUserStatus accounts tenantId id = .ok accounts') :
    accounts'.users.map UserRow.id = accounts.users.map UserRow.id ∧
      accounts'.tenants = accounts.tenants := by
  unfold toggleUserStatus at h
  split at h
  · cases h
  · obtain rfl := Except.ok.inj h
    refine ⟨map_id_update fun r hr => ?_, rfl⟩
    simp only [Bool.and_eq_true, decide_eq_true_eq] at hr
    exact hr.1.symm

theorem ids_tenantUpdate (tenants : List TenantRow) (row : TenantRow) :
    (TenantRepository.update tenants row).map TenantRow.id = tenants.map TenantRow.id := by
  refine map_id_update fun r hr => ?_
  simp only [Bool.and_eq_true, decide_eq_true_eq] at hr
  exact hr.1.symm

theorem ids_toggleTenantStatus {accounts accounts' : Accounts} {id : Uuid}
    (h : toggleTenantStatus accounts id = .ok accounts') :
    accounts'.users = accounts.users ∧
      accounts'.tenants.map TenantRow.id = accounts.tenants.map TenantRow.id := by
  unfold toggleTenantStatus at h
  split at h
  · cases h
  · obtain rfl := Except.ok.inj h
    exact ⟨rfl, ids_tenantUpdate _ _⟩

theorem ids_deleteTenant {accounts accounts' : Accounts} {id : Uuid}
    (h : deleteTenant accounts id = .ok accounts') :
    accounts'.users = accounts.users ∧
      accounts'.tenants.map TenantRow.id = accounts.tenants.map TenantRow.id := by
  unfold deleteTenant at h
  split at h
  · cases h
  · obtain rfl := Except.ok.inj h
    exact ⟨rfl, ids_tenantUpdate _ _⟩

/-- Everything an enabled request does. -/
theorem effect_of_next (hids : (ids s.sessions).Nodup) (h : next env s a = some s') :
    Effect env s s' := by
  cases a with
  | login params context gen now => exact effect_of_login h
  | refresh token context gen now => exact effect_of_refresh hids h
  | logout token now => exact effect_of_logout h
  | revokeAllByUser userId reason now hreason =>
    obtain rfl := Option.some.inj h
    exact .revoked hreason
  | toggleUserStatus tenantId id =>
    obtain rfl := Option.some.inj h
    cases hresult : toggleUserStatus s.accounts tenantId id with
    | error e => exact .idle
    | ok accounts =>
      obtain ⟨husers, htenants⟩ := ids_toggleUserStatus hresult
      exact .moved husers (by rw [htenants])
  | toggleTenantStatus id =>
    obtain rfl := Option.some.inj h
    cases hresult : toggleTenantStatus s.accounts id with
    | error e => exact .idle
    | ok accounts =>
      obtain ⟨husers, htenants⟩ := ids_toggleTenantStatus hresult
      exact .moved (by rw [husers]) htenants
  | deleteTenant id =>
    obtain rfl := Option.some.inj h
    cases hresult : deleteTenant s.accounts id with
    | error e => exact .idle
    | ok accounts =>
      obtain ⟨husers, htenants⟩ := ids_deleteTenant hresult
      exact .moved (by rw [husers]) htenants

/-! ## The invariant -/

/-- A token has its session row, of the same user. -/
def HasRow (table : SessionTable) (token : AccessToken) : Prop :=
  ∃ r, findById table token.jti = some r ∧ r.userId = token.sub

structure Inv (s : State) : Prop where
  keyed : Keyed s.sessions
  users_nodup : (s.accounts.users.map UserRow.id).Nodup
  tenants_nodup : (s.accounts.tenants.map TenantRow.id).Nodup
  issued_rows : ∀ token ∈ s.issued, HasRow s.sessions token

theorem Initial.inv (h : Initial s) : Inv s :=
  ⟨h.keyed, h.users_nodup, h.tenants_nodup, by simp [h.issued]⟩

theorem HasRow.advance {t t' : SessionTable} {token : AccessToken} (hadv : Advances t t')
    (h : HasRow t token) : HasRow t' token := by
  obtain ⟨r, hr, hu⟩ := h
  obtain ⟨r', hr', hident, -⟩ := hadv _ r hr
  exact ⟨r', hr', (Session.userId_of_identity hident).trans hu⟩

/-- A request writes to the sessions at most once, and keeps every revocation record. -/
theorem Effect.write (h : Effect env s s') (hids : (ids s.sessions).Nodup) :
    Write s.sessions s'.sessions ∧ Final s.sessions s'.sessions := by
  cases h with
  | idle => exact ⟨.idle, Final.refl _⟩
  | opened _ hfresh => exact ⟨.insert _ hfresh, final_create _ _⟩
  | @renewed session owner context gen now hmem hopen _ hfresh hwon =>
    have hstored : Stored s.sessions session := ⟨session, findById_of_mem hids hmem, rfl⟩
    exact ⟨.rotate session (SessionIssuer.build env owner context gen now) now hstored hopen hfresh
      hwon, final_rotate hwon⟩
  | revoked _ => exact ⟨.revokeAll _ _ _, final_revokeAllByUser _ _ _ _⟩
  | @closed session now hmem =>
    have hrow : findById s.sessions session.id = some session := findById_of_mem hids hmem
    refine ⟨.logout _ _ ⟨_, hrow, rfl⟩, final_logout fun r hr => .inr ?_⟩
    rw [Option.some.inj (hrow.symm.trans hr)]
  | moved _ _ => exact ⟨.idle, Final.refl _⟩

theorem hasRow_newToken {t : SessionTable} {owner context gen now}
    (h : findById t gen.sessionId = some (SessionIssuer.build env owner context gen now)) :
    HasRow t (newToken env owner context gen now) :=
  ⟨_, h, rfl⟩

/-- A token issued by a request has its row, and belongs to an active user of an
    active business. -/
theorem Effect.issued (h : Effect env s s') :
    s'.issued = s.issued ∨
      ∃ owner context gen now, s'.issued = s.issued ++ [newToken env owner context gen now] ∧
        s'.accounts = s.accounts ∧ Entitled s.accounts owner ∧
        HasRow s'.sessions (newToken env owner context gen now) := by
  cases h with
  | idle => exact .inl rfl
  | @opened owner context gen now hentitled hfresh =>
    refine .inr ⟨owner, context, gen, now, rfl, rfl, hentitled, hasRow_newToken ?_⟩
    have hnone : findById s.sessions gen.sessionId = none :=
      Rows.find_eq_none_iff.mpr hfresh.1
    rw [findById_create, hnone, Option.none_or]
    exact if_pos rfl
  | @renewed session owner context gen now _ _ hentitled hfresh hwon =>
    exact .inr ⟨owner, context, gen, now, rfl, rfl, hentitled,
      hasRow_newToken (findById_rotate_successor hwon hfresh.1)⟩
  | revoked _ => exact .inl rfl
  | closed _ => exact .inl rfl
  | moved _ _ => exact .inl rfl

theorem Effect.account_ids (h : Effect env s s') :
    s'.accounts.users.map UserRow.id = s.accounts.users.map UserRow.id ∧
      s'.accounts.tenants.map TenantRow.id = s.accounts.tenants.map TenantRow.id := by
  cases h with
  | moved husers htenants => exact ⟨husers, htenants⟩
  | _ => exact ⟨rfl, rfl⟩

theorem Inv.step (hinv : Inv s) (hnext : next env s a = some s') : Inv s' := by
  have h := effect_of_next hinv.keyed.ids_nodup hnext
  have hwrite := (h.write hinv.keyed.ids_nodup).1
  obtain ⟨husers, htenants⟩ := h.account_ids
  constructor
  · exact hwrite.keyed hinv.keyed
  · rw [husers]; exact hinv.users_nodup
  · rw [htenants]; exact hinv.tenants_nodup
  · have hold : ∀ token ∈ s.issued, HasRow s'.sessions token :=
      fun token htoken => (hinv.issued_rows token htoken).advance hwrite.advances
    rcases h.issued with heq | ⟨owner, context, gen, now, heq, -, -, hrow⟩
    · rw [heq]; exact hold
    · rw [heq]
      exact List.forall_mem_append.mpr ⟨hold, by simpa using hrow⟩

/-- Between two states of a sequential run the invariant holds, rows advance,
    and revocation records are final. -/
theorem Inv.run (hinv : Inv s₀) (hrun : Run (next env) s₀ tr s) :
    Inv s ∧ Advances s₀.sessions s.sessions ∧ Final s₀.sessions s.sessions := by
  induction hrun with
  | nil => exact ⟨hinv, Advances.refl _, Final.refl _⟩
  | snoc _ hnext ih =>
    obtain ⟨hs, hadv, hfinal⟩ := ih
    obtain ⟨hwrite, hfinal'⟩ :=
      (effect_of_next hs.keyed.ids_nodup hnext).write hs.keyed.ids_nodup
    exact ⟨hs.step hnext, hadv.trans hwrite.advances, hfinal.trans hfinal'⟩

/-! ## Revoking a user -/

/-- The user whose sessions a request revokes. -/
def alarm (env : AuthEnv) (s : State) : Action → Option Uuid
  | .revokeAllByUser userId _ _ _ => some userId
  | .refresh (some token) _ _ now =>
    match RefreshSession.afterFind (findByRefreshTokenHash s.sessions (env.hash token)) now with
    | .ok phase => RefreshSession.revokes phase s.accounts
    | .error _ => none
  | _ => none

theorem revokeAll_of_alarm (h : next env s a = some s') {u : Uuid}
    (halarm : alarm env s a = some u) :
    ∃ reason now, reason ≠ .rotated ∧
      s'.sessions = revokeAllByUser s.sessions u reason now := by
  cases a with
  | revokeAllByUser userId reason now hreason =>
    obtain rfl := Option.some.inj h
    obtain rfl := Option.some.inj halarm
    exact ⟨reason, now, hreason, rfl⟩
  | refresh token context gen now =>
    cases token with
    | none => exact absurd halarm (Option.some_ne_none u).symm
    | some token =>
      simp only [next, RefreshSession.execute] at h
      simp only [alarm] at halarm
      cases hfind : RefreshSession.afterFind
        (findByRefreshTokenHash s.sessions (env.hash token)) now with
      | error e => simp [hfind] at halarm
      | ok phase =>
        simp only [hfind] at h halarm
        cases phase with
        | alarm userId =>
          obtain rfl := Option.some.inj halarm
          rw [RefreshSession.finish_alarm] at h
          obtain rfl := Option.some.inj h
          exact ⟨.reuseDetected, now, by decide, rfl⟩
        | renew session =>
          simp only [RefreshSession.revokes] at halarm
          split_ifs at halarm with hrenews
          obtain rfl := Option.some.inj halarm
          have hfail : ∃ e, RefreshSession.finish env s.sessions (.renew session) s.accounts
              context gen now =
                (.error e, revokeAllByUser s.sessions session.userId .revoked now) :=
            RefreshSession.finish_of_not_renewsFor (by simpa using hrenews)
          obtain ⟨e, hfinish⟩ := hfail
          simp only [hfinish] at h
          obtain rfl := Option.some.inj h
          exact ⟨.revoked, now, by decide, rfl⟩
  | _ => exact absurd halarm (Option.some_ne_none u).symm

theorem reason_of_record {r r' : Session} (h : r'.record = r.record) :
    r'.revocationReason = r.revocationReason :=
  congrArg (fun record => record.2.1) h

/-- What the guard answers about a row whose record is final. -/
theorem accepted_of_final {t t' : SessionTable} {id : Uuid} {r : Session}
    (hr : findById t id = some r) (hrev : r.revokedAt ≠ none) (hfinal : Final t t') :
    Accepted t' id ↔ r.revocationReason = some .rotated := by
  obtain ⟨r', hr', hrec⟩ := hfinal id r hr hrev
  have hreason := reason_of_record hrec
  have hclosed : r.revocationReason ≠ none :=
    fun hnone => hrev ((Session.revocationReason_eq_none_iff r).mp hnone)
  rw [accepted_iff, hr']
  constructor
  · rintro ⟨r'', hr'', hnone | hrotated⟩
    · obtain rfl := Option.some.inj hr''
      exact absurd (hreason.symm.trans hnone) hclosed
    · obtain rfl := Option.some.inj hr''
      exact hreason.symm.trans hrotated
  · intro hrotated
    exact ⟨r', rfl, .inr (hreason.trans hrotated)⟩

/-- After every session of `u` was revoked, in every later state the guard
    accepts a token issued to `u` before exactly when its session had already
    been rotated. -/
theorem revoked_user_tokens (h₀ : Initial s₀) (hrun₁ : Run (next env) s₀ tr₁ s₁) {u : Uuid}
    (halarm : alarm env s₁ a = some u) (hnext : next env s₁ a = some s₂)
    (hrun₂ : Run (next env) s₂ tr₂ s₃) {token : AccessToken} (htoken : token ∈ s₁.issued)
    (hsub : token.sub = u) :
    Accepted s₃.sessions token.jti ↔
      ∃ r, findById s₁.sessions token.jti = some r ∧ r.revocationReason = some .rotated := by
  have hinv₁ : Inv s₁ := (h₀.inv.run hrun₁).1
  obtain ⟨-, -, hfinal⟩ := (hinv₁.step hnext).run hrun₂
  obtain ⟨reason, now, hreason, hsessions⟩ := revokeAll_of_alarm hnext halarm
  obtain ⟨r, hr, hu⟩ := hinv₁.issued_rows token htoken
  have hrow : findById (revokeAllByUser s₁.sessions u reason now) token.jti = _ :=
    findById_revokeAllByUser u reason now
  rw [← hsessions, hr, Option.map_some] at hrow
  have hiff : (∃ r, findById s₁.sessions token.jti = some r ∧
      r.revocationReason = some .rotated) ↔ r.revocationReason = some .rotated := by
    rw [hr]
    simp
  rw [hiff]
  by_cases hopen : r.revokedAt = none
  · rw [if_pos ⟨hu.trans hsub, hopen⟩] at hrow
    rw [accepted_of_final hrow (by simp) hfinal, Session.revocationReason_setRevocation,
      (Session.revocationReason_eq_none_iff r).mpr hopen]
    simp [hreason]
  · rw [if_neg (fun h => hopen h.2)] at hrow
    exact accepted_of_final hrow hopen hfinal

/-- The token of the session that a stolen refresh token was renewed from, and
    the token of its successor, after the alarm of a reuse. -/
theorem revoked_user_tokens_reuse :
    ∃ tr₁ s₁ s₂, exec (next sampleEnv) (openingDay sampleAccounts)
        [.login sampleLogin sampleContext (sampleGenerated 1) 0,
          .refresh (some (sampleToken 1)) sampleContext (sampleGenerated 2) 1000] =
          some (tr₁, s₁) ∧
      next sampleEnv s₁ (.refresh (some (sampleToken 1)) sampleContext (sampleGenerated 3) 20000) =
        some s₂ ∧
      (Accepted s₂.sessions (sampleGenerated 2).sessionId ↔
        ∃ r, findById s₁.sessions (sampleGenerated 2).sessionId = some r ∧
          r.revocationReason = some .rotated) := by
  obtain ⟨tr₁, s₁, hexec, hissued, halarm, hsome⟩ :
      ∃ tr₁ s₁, exec (next sampleEnv) (openingDay sampleAccounts)
        [.login sampleLogin sampleContext (sampleGenerated 1) 0,
          .refresh (some (sampleToken 1)) sampleContext (sampleGenerated 2) 1000] =
          some (tr₁, s₁) ∧
      newToken sampleEnv sampleOwner sampleContext (sampleGenerated 2) 1000 ∈ s₁.issued ∧
      alarm sampleEnv s₁ (.refresh (some (sampleToken 1)) sampleContext (sampleGenerated 3) 20000) =
        some sampleUser.id ∧
      (next sampleEnv s₁ (.refresh (some (sampleToken 1)) sampleContext (sampleGenerated 3)
        20000)).isSome = true :=
    exists_of_any_exec (by decide +kernel)
  obtain ⟨s₂, hnext⟩ := Option.isSome_iff_exists.mp hsome
  exact ⟨tr₁, s₁, s₂, hexec, hnext,
    revoked_user_tokens openingDay_initial (run_of_exec hexec) halarm hnext .nil hissued rfl⟩

/-- A reuse alarm leaves the access token of the rotated session accepted. -/
theorem rotated_token_survives_alarm :
    ∃ tr₁ s₁ s₂, exec (next sampleEnv) (openingDay sampleAccounts)
        [.login sampleLogin sampleContext (sampleGenerated 1) 0,
          .refresh (some (sampleToken 1)) sampleContext (sampleGenerated 2) 1000] =
          some (tr₁, s₁) ∧
      alarm sampleEnv s₁ (.refresh (some (sampleToken 1)) sampleContext (sampleGenerated 3) 20000) =
        some sampleUser.id ∧
      next sampleEnv s₁ (.refresh (some (sampleToken 1)) sampleContext (sampleGenerated 3) 20000) =
        some s₂ ∧
      ∃ token ∈ s₁.issued, token.sub = sampleUser.id ∧ Accepted s₂.sessions token.jti := by
  obtain ⟨tr₁, s₁, hexec, halarm, hissued, haccepted⟩ :
      ∃ tr₁ s₁, exec (next sampleEnv) (openingDay sampleAccounts)
        [.login sampleLogin sampleContext (sampleGenerated 1) 0,
          .refresh (some (sampleToken 1)) sampleContext (sampleGenerated 2) 1000] =
          some (tr₁, s₁) ∧
      alarm sampleEnv s₁ (.refresh (some (sampleToken 1)) sampleContext (sampleGenerated 3) 20000) =
        some sampleUser.id ∧
      newToken sampleEnv sampleOwner sampleContext (sampleGenerated 1) 0 ∈ s₁.issued ∧
      (next sampleEnv s₁ (.refresh (some (sampleToken 1)) sampleContext (sampleGenerated 3)
        20000)).any (fun s₂ => Accepted s₂.sessions (sampleGenerated 1).sessionId) = true :=
    exists_of_any_exec (by decide +kernel)
  obtain ⟨s₂, hnext, hguard⟩ := (Option.any_eq_true _ _).mp haccepted
  exact ⟨tr₁, s₁, s₂, hexec, halarm, hnext, _, hissued, rfl, of_decide_eq_true hguard⟩

end KomiSaas.Auth.Sequential
