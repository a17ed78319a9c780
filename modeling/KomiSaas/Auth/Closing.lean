import KomiSaas.Auth.Sequential

/-!
# Closing an account and its access tokens

The guard looks only at the session row; the operations that close a user or a
business write only to `users` and `tenants`. So the tokens of a closed account
are refused when, and only when, something else had cut their sessions before.

* `closed_accounts_cut_iff`: along a run, every token of a closed account is
  refused in every state if and only if each closing request found the
  sessions of the tokens it affects already cut.
-/

namespace KomiSaas.Auth.Sequential

open KomiSaas.Lib KomiSaas.Shared SessionRepository

/-- The user of a token, or its business, is inactive or deleted. -/
def Inactive (accounts : Accounts) (token : AccessToken) : Prop :=
  (∃ user ∈ accounts.users, user.id = token.sub ∧ user.tenantId = token.tenantId ∧
    user.isActive = false) ∨
  (∃ tenant ∈ accounts.tenants, tenant.id = token.tenantId ∧
    (tenant.isActive = false ∨ tenant.isDeleted = true))

/-- The row of the token's session was closed, and not by a rotation. -/
def Cut (table : SessionTable) (token : AccessToken) : Prop :=
  ∃ r, findById table token.jti = some r ∧ r.revocationReason ≠ none ∧
    r.revocationReason ≠ some .rotated

/-- The request takes an active user, an active business or an existing
    business away from the bearer of the token. -/
def Deactivates (accounts : Accounts) (token : AccessToken) : Action → Prop
  | .toggleUserStatus tenantId id => token.tenantId = tenantId ∧ token.sub = id ∧
    ∃ user, UserRepository.searchAggregateById accounts.users tenantId id = some user ∧
      user.isActive = true
  | .toggleTenantStatus id => token.tenantId = id ∧
    ∃ tenant, TenantRepository.searchAggregateById accounts.tenants id = some tenant ∧
      tenant.isActive = true
  | .deleteTenant id => token.tenantId = id ∧
    ∃ tenant, TenantRepository.searchAggregateById accounts.tenants id = some tenant
  | _ => False

variable {env : AuthEnv} {s s' s₀ : State} {a : Action} {token : AccessToken}
  {tr : List (Transition State Action)}

/-! ## Refused and cut -/

theorem not_accepted_iff_cut {t : SessionTable} (h : HasRow t token) :
    ¬ Accepted t token.jti ↔ Cut t token := by
  obtain ⟨r, hr, -⟩ := h
  rw [accepted_iff, Cut, hr]
  simp

theorem Cut.final {t t' : SessionTable} (hfinal : Final t t') (h : Cut t token) : Cut t' token := by
  obtain ⟨r, hr, hclosed, hrotated⟩ := h
  have hrev : r.revokedAt ≠ none :=
    fun hnone => hclosed ((Session.revocationReason_eq_none_iff r).mpr hnone)
  obtain ⟨r', hr', hrec⟩ := hfinal _ r hr hrev
  have hreason := reason_of_record hrec
  exact ⟨r', hr', hreason ▸ hclosed, hreason ▸ hrotated⟩

/-! ## The rows the closing requests write -/

theorem userFound {users : List UserRow} {tenantId id : Uuid} {user : UserRow}
    (h : UserRepository.searchAggregateById users tenantId id = some user) :
    user ∈ users ∧ user.tenantId = tenantId ∧ user.id = id := by
  have hpred := List.find?_some h
  simp only [Bool.and_eq_true, decide_eq_true_eq] at hpred
  exact ⟨List.mem_of_find?_eq_some h, hpred⟩

theorem tenantFound {tenants : List TenantRow} {id : Uuid} {tenant : TenantRow}
    (h : TenantRepository.searchAggregateById tenants id = some tenant) :
    tenant ∈ tenants ∧ tenant.id = id ∧ tenant.isDeleted = false := by
  have hpred := List.find?_some h
  simp only [Bool.and_eq_true, decide_eq_true_eq, Bool.not_eq_true'] at hpred
  exact ⟨List.mem_of_find?_eq_some h, hpred⟩

/-- A row of `tenants` after an update is an old row or the one written. -/
theorem mem_tenantUpdate {tenants : List TenantRow} {row tenant : TenantRow}
    (h : tenant ∈ TenantRepository.update tenants row) : tenant ∈ tenants ∨ tenant = row := by
  rcases Rows.mem_updateWhere h with ⟨hmem, -⟩ | ⟨_, -, -, rfl⟩
  · exact .inl hmem
  · exact .inr rfl

theorem tenant_written {tenants : List TenantRow} {id : Uuid} {tenant row : TenantRow}
    (h : TenantRepository.searchAggregateById tenants id = some tenant)
    (hid : row.id = tenant.id) : row ∈ TenantRepository.update tenants row := by
  obtain ⟨hmem, -, hdeleted⟩ := tenantFound h
  exact Rows.mem_updateWhere_of_pos hmem (by simp [hid, hdeleted])

/-- What `toggleUserStatus` makes inactive. -/
theorem inactive_of_toggleUserStatus {accounts accounts' : Accounts} {tenantId id : Uuid}
    (h : toggleUserStatus accounts tenantId id = .ok accounts')
    (hinactive : Inactive accounts' token) :
    Inactive accounts token ∨ Deactivates accounts token (.toggleUserStatus tenantId id) := by
  unfold toggleUserStatus at h
  split at h
  · cases h
  · rename_i user hfind
    obtain rfl := Except.ok.inj h
    obtain ⟨-, htenantId, hid⟩ := userFound hfind
    rcases hinactive with ⟨row, hrow, hsub, htenant, hoff⟩ | htenants
    · rcases Rows.mem_updateWhere hrow with ⟨hmem, -⟩ | ⟨_, -, -, rfl⟩
      · exact .inl (.inl ⟨row, hmem, hsub, htenant, hoff⟩)
      · have hactive : user.isActive = true := by simpa using hoff
        exact .inr ⟨htenant.symm.trans htenantId, hsub.symm.trans hid, user, hfind, hactive⟩
    · exact .inl (.inr htenants)

theorem inactive_of_toggleTenantStatus {accounts accounts' : Accounts} {id : Uuid}
    (h : toggleTenantStatus accounts id = .ok accounts') (hinactive : Inactive accounts' token) :
    Inactive accounts token ∨ Deactivates accounts token (.toggleTenantStatus id) := by
  unfold toggleTenantStatus at h
  split at h
  · cases h
  · rename_i tenant hfind
    obtain rfl := Except.ok.inj h
    obtain ⟨-, hid, hdeleted⟩ := tenantFound hfind
    rcases hinactive with husers | ⟨row, hrow, htenant, hoff⟩
    · exact .inl (.inl husers)
    · rcases mem_tenantUpdate hrow with hmem | rfl
      · exact .inl (.inr ⟨row, hmem, htenant, hoff⟩)
      · have hactive : tenant.isActive = true := by
          rcases hoff with hoff | hoff
          · simpa using hoff
          · exact absurd (hdeleted.symm.trans hoff) (by decide)
        exact .inr ⟨htenant.symm.trans hid, tenant, hfind, hactive⟩

theorem inactive_of_deleteTenant {accounts accounts' : Accounts} {id : Uuid}
    (h : deleteTenant accounts id = .ok accounts') (hinactive : Inactive accounts' token) :
    Inactive accounts token ∨ Deactivates accounts token (.deleteTenant id) := by
  unfold deleteTenant at h
  split at h
  · cases h
  · rename_i tenant hfind
    obtain rfl := Except.ok.inj h
    obtain ⟨-, hid, -⟩ := tenantFound hfind
    rcases hinactive with husers | ⟨row, hrow, htenant, hoff⟩
    · exact .inl (.inl husers)
    · rcases mem_tenantUpdate hrow with hmem | rfl
      · exact .inl (.inr ⟨row, hmem, htenant, hoff⟩)
      · exact .inr ⟨htenant.symm.trans hid, tenant, hfind⟩

theorem accounts_of_login {params context gen now}
    (h : next env s (.login params context gen now) = some s') : s'.accounts = s.accounts := by
  simp only [next] at h
  split at h
  · obtain rfl := Option.some.inj h
    rfl
  · split_ifs at h
    obtain rfl := Option.some.inj h
    rfl

theorem accounts_of_refresh {token context gen now}
    (h : next env s (.refresh token context gen now) = some s') : s'.accounts = s.accounts := by
  simp only [next] at h
  split at h
  · obtain rfl := Option.some.inj h
    rfl
  · split_ifs at h
    obtain rfl := Option.some.inj h
    rfl

/-- The accounts change only by the three closing requests; so a token becomes
    inactive only through one that deactivates it. -/
theorem inactive_step (h : next env s a = some s')
    (hinactive : Inactive s'.accounts token) :
    Inactive s.accounts token ∨ Deactivates s.accounts token a := by
  cases a with
  | toggleUserStatus tenantId id =>
    obtain rfl := Option.some.inj h
    cases hresult : toggleUserStatus s.accounts tenantId id with
    | error e => rw [hresult] at hinactive; exact .inl hinactive
    | ok accounts =>
      rw [hresult] at hinactive
      exact inactive_of_toggleUserStatus hresult hinactive
  | toggleTenantStatus id =>
    obtain rfl := Option.some.inj h
    cases hresult : toggleTenantStatus s.accounts id with
    | error e => rw [hresult] at hinactive; exact .inl hinactive
    | ok accounts =>
      rw [hresult] at hinactive
      exact inactive_of_toggleTenantStatus hresult hinactive
  | deleteTenant id =>
    obtain rfl := Option.some.inj h
    cases hresult : deleteTenant s.accounts id with
    | error e => rw [hresult] at hinactive; exact .inl hinactive
    | ok accounts =>
      rw [hresult] at hinactive
      exact inactive_of_deleteTenant hresult hinactive
  | login params context gen now => exact .inl (accounts_of_login h ▸ hinactive)
  | refresh token context gen now => exact .inl (accounts_of_refresh h ▸ hinactive)
  | logout token now =>
    obtain rfl := Option.some.inj h
    exact .inl hinactive
  | revokeAllByUser userId reason now hreason =>
    obtain rfl := Option.some.inj h
    exact .inl hinactive

/-- A request that deactivates a token makes it inactive, and touches neither
    the sessions nor the tokens. -/
theorem deactivated_step (h : next env s a = some s')
    (hdeactivates : Deactivates s.accounts token a) :
    Inactive s'.accounts token ∧ s'.sessions = s.sessions ∧ s'.issued = s.issued := by
  cases a with
  | toggleUserStatus tenantId id =>
    obtain ⟨htenant, hsub, user, hfind, hactive⟩ := hdeactivates
    obtain rfl := Option.some.inj h
    obtain ⟨hmem, htenantId, hid⟩ := userFound hfind
    simp only [toggleUserStatus, hfind]
    refine ⟨.inl ⟨{ user with isActive := !user.isActive }, ?_, ?_, ?_, ?_⟩, rfl, rfl⟩
    · exact Rows.mem_updateWhere_of_pos hmem (by simp [htenantId])
    · exact hid.trans hsub.symm
    · exact htenantId.trans htenant.symm
    · simp [hactive]
  | toggleTenantStatus id =>
    obtain ⟨htenant, tenant, hfind, hactive⟩ := hdeactivates
    obtain rfl := Option.some.inj h
    simp only [toggleTenantStatus, hfind]
    refine ⟨.inr ⟨{ tenant with isActive := !tenant.isActive }, ?_, ?_, ?_⟩, rfl, rfl⟩
    · exact tenant_written hfind rfl
    · exact (tenantFound hfind).2.1.trans htenant.symm
    · simp [hactive]
  | deleteTenant id =>
    obtain ⟨htenant, tenant, hfind⟩ := hdeactivates
    obtain rfl := Option.some.inj h
    simp only [deleteTenant, hfind]
    refine ⟨.inr ⟨{ tenant with isDeleted := true, isActive := false }, ?_, ?_, ?_⟩, rfl, rfl⟩
    · exact tenant_written hfind rfl
    · exact (tenantFound hfind).2.1.trans htenant.symm
    · exact .inl rfl
  | _ => exact hdeactivates.elim

/-- A token is issued to an active user of an active business. -/
theorem not_inactive_of_entitled {accounts : Accounts} {owner context gen now}
    (husers : (accounts.users.map UserRow.id).Nodup)
    (htenants : (accounts.tenants.map TenantRow.id).Nodup) (h : Entitled accounts owner) :
    ¬ Inactive accounts (newToken env owner context gen now) := by
  obtain ⟨user, huser, rfl, hactive, tenant, htenant, hid, htenantActive, hexists⟩ := h
  rintro (⟨row, hrow, hsub, -, hoff⟩ | ⟨row, hrow, hrowId, hoff⟩)
  · obtain rfl := List.inj_on_of_nodup_map husers hrow huser hsub
    exact absurd (hactive.symm.trans hoff) (by decide)
  · have hrowId' : row.id = tenant.id := hrowId.trans hid.symm
    obtain rfl := List.inj_on_of_nodup_map htenants hrow htenant hrowId'
    rcases hoff with hoff | hoff
    · exact absurd (htenantActive.symm.trans hoff) (by decide)
    · exact absurd (hexists.symm.trans hoff) (by decide)

/-! ## The result -/

/-- Every token of a closed account has its session cut. -/
def ClosedCut (s : State) : Prop :=
  ∀ token ∈ s.issued, Inactive s.accounts token → Cut s.sessions token

/-- The request finds the sessions of the tokens that it deactivates already cut. -/
def ClosesCut (s : State) (a : Action) : Prop :=
  ∀ token ∈ s.issued, Deactivates s.accounts token a → Cut s.sessions token

theorem ClosedCut.step (hinv : Inv s) (hclosed : ClosedCut s) (hcut : ClosesCut s a)
    (hnext : next env s a = some s') : ClosedCut s' := by
  have heffect := effect_of_next hinv.keyed.ids_nodup hnext
  have hfinal := (heffect.write hinv.keyed.ids_nodup).2
  have hold : ∀ token ∈ s.issued, Inactive s'.accounts token → Cut s'.sessions token := by
    intro token htoken hinactive
    rcases inactive_step hnext hinactive with hbefore | hdeactivates
    · exact (hclosed token htoken hbefore).final hfinal
    · exact (hcut token htoken hdeactivates).final hfinal
  rcases heffect.issued with heq | ⟨owner, context, gen, now, heq, haccounts, hentitled, -⟩
  · exact fun token htoken => hold token (heq ▸ htoken)
  · have hnew : ¬ Inactive s'.accounts (newToken env owner context gen now) := by
      rw [haccounts]
      exact not_inactive_of_entitled hinv.users_nodup hinv.tenants_nodup hentitled
    rw [ClosedCut, heq]
    exact List.forall_mem_append.mpr ⟨hold, by simpa using fun h => absurd h hnew⟩

/-- Along a run, the guard refuses every token of a closed account in every
    state if and only if each request that closes an account finds the sessions
    of the tokens it affects already cut by something else. -/
theorem closed_accounts_cut_iff (h₀ : Initial s₀) (hrun : Run (next env) s₀ tr s) :
    (∀ t ∈ tr, ∀ token ∈ t.post.issued, Inactive t.post.accounts token →
      ¬ Accepted t.post.sessions token.jti) ↔
    ∀ t ∈ tr, ∀ token ∈ t.pre.issued, Deactivates t.pre.accounts token t.action →
      Cut t.pre.sessions token := by
  obtain ⟨-, hinv⟩ := hrun.invariant (fun _ _ _ h hnext => h.step hnext) h₀.inv
  constructor
  · intro hrefused t ht token htoken hdeactivates
    obtain ⟨hinactive, hsessions, hissued⟩ := deactivated_step (hrun.next_of_mem ht) hdeactivates
    rw [← not_accepted_iff_cut ((hinv t ht).1.issued_rows token htoken), ← hsessions]
    exact hrefused t ht token (hissued ▸ htoken) hinactive
  · intro hguard t ht token htoken hinactive
    have hstep : ∀ s a s', Inv s ∧ ClosedCut s → ClosesCut s a → next env s a = some s' →
        Inv s' ∧ ClosedCut s' :=
      fun s a s' h hcut hnext => ⟨h.1.step hnext, h.2.step h.1 hcut hnext⟩
    have hclosed₀ : ClosedCut s₀ := by simp [ClosedCut, h₀.issued]
    obtain ⟨-, hall⟩ := hrun.invariant_of_guard hstep ⟨h₀.inv, hclosed₀⟩ hguard
    rw [not_accepted_iff_cut ((hinv t ht).2.issued_rows token htoken)]
    exact (hall t ht).2.2 token htoken hinactive

/-- A user who logged out before being closed. -/
theorem closed_accounts_cut_iff_after_logout :
    ∃ tr s, exec (next sampleEnv) (openingDay sampleAccounts)
        [.login sampleLogin sampleContext (sampleGenerated 1) 0,
          .logout (some (sampleToken 1)) 1000,
          .toggleUserStatus sampleTenant.id sampleUser.id] = some (tr, s) ∧
      ((∀ t ∈ tr, ∀ token ∈ t.post.issued, Inactive t.post.accounts token →
          ¬ Accepted t.post.sessions token.jti) ↔
        ∀ t ∈ tr, ∀ token ∈ t.pre.issued, Deactivates t.pre.accounts token t.action →
          Cut t.pre.sessions token) := by
  obtain ⟨⟨tr, s⟩, hexec⟩ := Option.isSome_iff_exists.mp (by decide +kernel :
    (exec (next sampleEnv) (openingDay sampleAccounts)
        [.login sampleLogin sampleContext (sampleGenerated 1) 0,
          .logout (some (sampleToken 1)) 1000,
          .toggleUserStatus sampleTenant.id sampleUser.id]).isSome = true)
  exact ⟨tr, s, hexec, closed_accounts_cut_iff openingDay_initial (run_of_exec hexec)⟩

/-- A user closed with a session open: the guard still accepts the access token. -/
theorem closed_user_keeps_token :
    ∃ tr s, exec (next sampleEnv) (openingDay sampleAccounts)
        [.login sampleLogin sampleContext (sampleGenerated 1) 0,
          .toggleUserStatus sampleTenant.id sampleUser.id] = some (tr, s) ∧
      ∃ token ∈ s.issued, Inactive s.accounts token ∧ Accepted s.sessions token.jti := by
  obtain ⟨tr, s, hexec, hissued, husers, haccepted⟩ :
      ∃ tr s, exec (next sampleEnv) (openingDay sampleAccounts)
        [.login sampleLogin sampleContext (sampleGenerated 1) 0,
          .toggleUserStatus sampleTenant.id sampleUser.id] = some (tr, s) ∧
      newToken sampleEnv sampleOwner sampleContext (sampleGenerated 1) 0 ∈ s.issued ∧
      { sampleUser with isActive := false } ∈ s.accounts.users ∧
      Accepted s.sessions (sampleGenerated 1).sessionId :=
    exists_of_any_exec (by decide +kernel)
  exact ⟨tr, s, hexec, _, hissued, .inl ⟨_, husers, rfl, rfl, rfl⟩, haccepted⟩

end KomiSaas.Auth.Sequential
