import KomiSaas.Auth.Rotation

/-!
# Closing sessions while requests are in flight

Three questions about a revocation that crosses a renewal or a logout already
in flight.

* `revocation_record_final_iff`: the record of a revoked row is final exactly
  in the runs where no logout overwrites a row that was closed behind its back.
* `alarm_not_outrun`: after `revokeAllByUser` the sessions of the user stay
  revoked, are never rotated again and get no new descendant.
* `logout_closes_session`: after a logout its own session is never usable again,
  and what is usable below it comes from a rotation that was already done.
-/

namespace KomiSaas.Auth.Interleaving

open KomiSaas.Lib KomiSaas.Shared SessionRepository

variable {env : AuthEnv} {s s' s₀ s₁ s₂ s₃ : State} {a : Action}
  {tr tr₁ tr₂ : List (Transition State Action)}

/-! ## The revocation record -/

/-- A logout writes back a copy that was open when it was loaded, over a row
    that has been revoked since, with another record than the logout's. -/
def OverwritesRevoked (s : State) (a : Action) : Prop :=
  ∃ request now token c r, a = .logoutFinish request now ∧
    s.flight request = some (.logout token c) ∧ c.revokedAt = none ∧
    findById s.sessions c.id = some r ∧ r.revokedAt ≠ none ∧
    r.record ≠ (some now, some .logout, c.replacedBySessionId)

/-- Every revoked copy that a logout carries has the record of its row. -/
def CopiesFinal (s : State) : Prop :=
  ∀ n token c, (n, Flight.logout token c) ∈ s.flights → c.revokedAt ≠ none →
    ∀ r, findById s.sessions c.id = some r → r.record = c.record

theorem record_revoke_logout {c : Session} (hnone : c.revokedAt = none) (now : Instant) :
    (c.revoke .logout now).record = (some now, some .logout, c.replacedBySessionId) := by
  rw [Session.revoke_of_unrevoked hnone]
  rfl

theorem Effect.final (h : Effect env s a s') (hcopies : CopiesFinal s)
    (hG : ¬ OverwritesRevoked s a) : Final s.sessions s'.sessions := by
  cases h with
  | login _ => exact final_create _ _
  | refreshRefused => exact Final.refl _
  | refreshLoaded _ _ => exact Final.refl _
  | revoked _ _ _ => exact final_revokeAllByUser _ _ _ _
  | lost _ _ => exact Final.refl _
  | won _ _ _ _ hwon => exact final_rotate hwon
  | logoutIdle => exact Final.refl _
  | logoutLoaded _ => exact Final.refl _
  | @logoutFinished request now token c hflight =>
    by_cases hopen : c.revokedAt = none
    · -- the copy is open: by the guard the row is open, or gets back the record it has
      intro id r hr hrev
      refine ⟨_, findById_logout hr, ?_⟩
      split_ifs with hid
      · rw [record_revoke_logout hopen]
        by_contra hne
        exact hG ⟨request, now, token, c, r, rfl, hflight, hopen, hid ▸ hr, hrev,
          fun e => hne e.symm⟩
      · rfl
    · exact final_logout fun r hr =>
        .inr (hcopies _ _ _ (Flights.mem_of_flightOf hflight) hopen r hr).symm
  | revokedAll => exact final_revokeAllByUser _ _ _ _

theorem Effect.copiesFinal (h : Effect env s a s') (hinv : Inv env s) (hcopies : CopiesFinal s)
    (hfinal : Final s.sessions s'.sessions) : CopiesFinal s' := by
  intro n token c hf hrev r hr
  rcases h.flights hf with hold | ⟨c', hfind, hnew⟩
  · obtain ⟨r₀, hr₀, -⟩ := (hinv.copy_stored n _ hold c rfl).1
    have hrec : r₀.record = c.record := hcopies n token c hold hrev r₀ hr₀
    have hrev₀ : r₀.revokedAt ≠ none := by
      rw [Session.revokedAt_of_record hrec]
      exact hrev
    obtain ⟨r', hr', hrec'⟩ := hfinal _ r₀ hr₀ hrev₀
    obtain rfl : r' = r := Option.some.inj (hr'.symm.trans hr)
    exact hrec'.trans hrec
  · rcases hnew with ⟨heq, -⟩ | heq | heq
    · exact Flight.noConfusion heq
    · exact Flight.noConfusion heq
    · obtain ⟨-, rfl⟩ := Flight.logout.inj heq
      have hrow : findById s.sessions c.id = some c :=
        findById_of_mem hinv.keyed.ids_nodup (mem_of_findByRefreshTokenHash hfind).1
      obtain ⟨r', hr', hrec'⟩ := hfinal _ c hrow hrev
      obtain rfl : r' = r := Option.some.inj (hr'.symm.trans hr)
      exact hrec'

/-- Where a logout overwrites a row closed behind its back, the record changes. -/
theorem Effect.not_final (h : Effect env s a s') (hover : OverwritesRevoked s a) :
    ¬ Final s.sessions s'.sessions := by
  obtain ⟨request, now, token, c, r, rfl, hflight, hopen, hr, hrev, hne⟩ := hover
  intro hfinal
  cases h with
  | logoutFinished hflight' =>
    obtain ⟨rfl, rfl⟩ := Flight.logout.inj (Option.some.inj (hflight.symm.trans hflight'))
    obtain ⟨r', hr', hrec⟩ := hfinal _ r hr hrev
    rw [findById_logout hr, if_pos rfl] at hr'
    obtain rfl := Option.some.inj hr'
    rw [record_revoke_logout hopen] at hrec
    exact hne hrec.symm

/-- Along a run, no revoked row ever changes its revocation record if and only
    if no logout overwrites a row that was revoked after the logout loaded it. -/
theorem revocation_record_final_iff (h₀ : Initial s₀) (hrun : Run (next env) s₀ tr s) :
    (∀ t ∈ tr, Final t.pre.sessions t.post.sessions) ↔
      ∀ t ∈ tr, ¬ OverwritesRevoked t.pre t.action := by
  have heffect : ∀ t ∈ tr, Effect env t.pre t.action t.post := by
    intro t ht
    exact effect_of_next ((inv_of_run h₀ hrun).2 t ht).1.keyed.ids_nodup (hrun.next_of_mem ht)
  constructor
  · intro hfinal t ht hover
    exact (heffect t ht).not_final hover (hfinal t ht)
  · intro hG t ht
    have hstep : ∀ s a s', Inv env s ∧ CopiesFinal s → ¬ OverwritesRevoked s a →
        next env s a = some s' → Inv env s' ∧ CopiesFinal s' := by
      intro s a s' ⟨hinv, hcopies⟩ hguard hnext
      have h := effect_of_next hinv.keyed.ids_nodup hnext
      exact ⟨hinv.step hnext, h.copiesFinal hinv hcopies (h.final hcopies hguard)⟩
    have hcopies₀ : CopiesFinal s₀ := by simp [CopiesFinal, h₀.flights]
    obtain ⟨-, hall⟩ := hrun.invariant_of_guard hstep ⟨h₀.inv, hcopies₀⟩ hG
    exact (heffect t ht).final (hall t ht).1.2 (hG t ht)

/-- A renewal and a logout that loads the session after it. -/
theorem revocation_record_final_iff_in_order :
    ∃ tr s, exec (next sampleEnv) noSessions
        [.login 1 sampleOwner sampleContext (sampleGenerated 1) 0,
          .refreshLoad 2 (some (sampleToken 1)) 1000,
          .refreshFinish 2 sampleAccounts sampleContext (sampleGenerated 2) 1500,
          .logoutLoad 3 (some (sampleToken 1)),
          .logoutFinish 3 2000] = some (tr, s) ∧
      ((∀ t ∈ tr, Final t.pre.sessions t.post.sessions) ↔
        ∀ t ∈ tr, ¬ OverwritesRevoked t.pre t.action) := by
  obtain ⟨⟨tr, s⟩, hexec⟩ := Option.isSome_iff_exists.mp (by decide +kernel :
    (exec (next sampleEnv) noSessions
        [.login 1 sampleOwner sampleContext (sampleGenerated 1) 0,
          .refreshLoad 2 (some (sampleToken 1)) 1000,
          .refreshFinish 2 sampleAccounts sampleContext (sampleGenerated 2) 1500,
          .logoutLoad 3 (some (sampleToken 1)),
          .logoutFinish 3 2000]).isSome = true)
  exact ⟨tr, s, hexec, revocation_record_final_iff noSessions_initial (run_of_exec hexec)⟩

theorem not_final_of_records {t t' : SessionTable} {id : Uuid}
    {rec rec' : Option Instant × Option SessionRevocationReason × Option Uuid}
    (h : (findById t id).map Session.record = some rec)
    (h' : (findById t' id).map Session.record = some rec')
    (hrev : rec.1 ≠ none) (hne : rec' ≠ rec) : ¬ Final t t' := by
  intro hfinal
  obtain ⟨r, hr, rfl⟩ := Option.map_eq_some_iff.mp h
  obtain ⟨r', hr', hrec⟩ := hfinal id r hr hrev
  rw [hr', Option.map_some, hrec] at h'
  exact hne (Option.some.inj h').symm

/-- A logout that loaded its session before a renewal rotated it turns the
    `ROTATED` row into a `LOGOUT` row and drops the pointer to the successor. -/
theorem revocation_record_overwritten :
    ∃ tr s, exec (next sampleEnv) noSessions
        [.login 1 sampleOwner sampleContext (sampleGenerated 1) 0,
          .logoutLoad 2 (some (sampleToken 1)),
          .refreshLoad 3 (some (sampleToken 1)) 1000,
          .refreshFinish 3 sampleAccounts sampleContext (sampleGenerated 2) 1500,
          .logoutFinish 2 2000] = some (tr, s) ∧
      ∃ t ∈ tr, ¬ Final t.pre.sessions t.post.sessions := by
  obtain ⟨tr, s, hexec, hany⟩ :
      ∃ tr s, exec (next sampleEnv) noSessions
        [.login 1 sampleOwner sampleContext (sampleGenerated 1) 0,
          .logoutLoad 2 (some (sampleToken 1)),
          .refreshLoad 3 (some (sampleToken 1)) 1000,
          .refreshFinish 3 sampleAccounts sampleContext (sampleGenerated 2) 1500,
          .logoutFinish 2 2000] = some (tr, s) ∧
      tr.any (fun t =>
        (findById t.pre.sessions (sampleGenerated 1).sessionId).map Session.record =
            some (some 1500, some .rotated, some (sampleGenerated 2).sessionId) ∧
          (findById t.post.sessions (sampleGenerated 1).sessionId).map Session.record =
            some (some 2000, some .logout, none)) = true :=
    exists_of_any_exec (by decide +kernel)
  obtain ⟨t, ht, hrecords⟩ := List.any_eq_true.mp hany
  obtain ⟨hpre, hpost⟩ := of_decide_eq_true hrecords
  exact ⟨tr, s, hexec, t, ht, not_final_of_records hpre hpost (by simp) (by simp)⟩

/-! ## The alarm -/

/-- The user whose sessions a step revokes. -/
def alarm (s : State) : Action → Option Uuid
  | .revokeAllByUser userId _ _ => some userId
  | .refreshFinish request accounts _ _ _ =>
    match s.flight request with
    | some (.refresh _ phase) => RefreshSession.revokes phase accounts
    | _ => none
  | _ => none

theorem Effect.alarm (h : Effect env s a s') {u : Uuid} (halarm : alarm s a = some u) :
    s'.won = s.won ∧ ∃ reason now, s'.sessions = revokeAllByUser s.sessions u reason now := by
  cases h with
  | revoked hflight hrevokes _ =>
    rw [Interleaving.alarm, hflight] at halarm
    obtain rfl := Option.some.inj (hrevokes.symm.trans halarm)
    exact ⟨rfl, _, _, rfl⟩
  | lost hflight hrevokes =>
    rw [Interleaving.alarm, hflight] at halarm
    exact absurd (hrevokes.symm.trans halarm) (Option.some_ne_none u).symm
  | won hflight hrevokes _ _ _ =>
    rw [Interleaving.alarm, hflight] at halarm
    exact absurd (hrevokes.symm.trans halarm) (Option.some_ne_none u).symm
  | revokedAll =>
    obtain rfl := Option.some.inj halarm
    exact ⟨rfl, _, _, rfl⟩
  | login _ => exact absurd halarm (Option.some_ne_none u).symm
  | refreshRefused => exact absurd halarm (Option.some_ne_none u).symm
  | refreshLoaded _ _ => exact absurd halarm (Option.some_ne_none u).symm
  | logoutIdle => exact absurd halarm (Option.some_ne_none u).symm
  | logoutLoaded _ => exact absurd halarm (Option.some_ne_none u).symm
  | logoutFinished _ => exact absurd halarm (Option.some_ne_none u).symm

/-- `revokeAllByUser` leaves no open row of the user. -/
theorem closed_revokeAllByUser {t : SessionTable} {id u : Uuid} {r : Session} (reason now)
    (hr : findById t id = some r) (hu : r.userId = u) :
    ∃ r', findById (revokeAllByUser t u reason now) id = some r' ∧ r'.revokedAt ≠ none := by
  have hrow : findById (revokeAllByUser t u reason now) id = _ :=
    findById_revokeAllByUser u reason now
  rw [hr, Option.map_some] at hrow
  refine ⟨_, hrow, ?_⟩
  split_ifs with hcond
  · simp
  · exact fun hnone => hcond ⟨hu, hnone⟩

/-- A session that is revoked is never again the previous session of a successful rotation. -/
theorem Effect.returned_of_closed (h : Effect env s a s') (hinv : Inv env s) {call : RotateCall}
    (hcall : s'.rotateCalls = s.rotateCalls ++ [call])
    (hclosed : ∃ r, findById s.sessions call.previous.id = some r ∧ r.revokedAt ≠ none) :
    call.returned = false := by
  by_contra hret
  have hwon : s'.won = s.won ++ [call] := by
    simp [State.won, hcall, Bool.not_eq_false _ ▸ hret]
  rcases h.won_eq with ⟨heq, -⟩ |
    ⟨request, _, _, _, now, _, session, successor, -, -, -, -, hrotate, -, heq, -⟩
  · rw [heq] at hwon
    have := congrArg List.length hwon
    simp at this
  · rw [hwon] at heq
    obtain rfl := List.singleton_inj.mp (List.append_cancel_left heq)
    obtain ⟨r, hr, hnone⟩ := (rotate_fst hinv.keyed.ids_nodup _ _).mp hrotate
    obtain ⟨r', hr', hrev⟩ := hclosed
    obtain rfl : r = r' := Option.some.inj (hr.symm.trans hr')
    exact hrev hnone

/-- From a state where a session is revoked on, its successful rotations are the old ones. -/
theorem Inv.won_of_closed (hinv : Inv env s₀) (hrun : Run (next env) s₀ tr s) {id : Uuid}
    (hclosed : ∃ r, findById s₀.sessions id = some r ∧ r.revokedAt ≠ none) :
    ∀ call ∈ s.won, call.previous.id = id → call ∈ s₀.won := by
  induction hrun with
  | nil => exact fun call hcall _ => hcall
  | @snoc tr s s' a hrun hnext ih =>
    obtain ⟨hs, hadv, -, -⟩ := hinv.run hrun
    obtain ⟨r₀, hr₀, hrev₀⟩ := hclosed
    obtain ⟨r, hr, -, hrev⟩ := hadv id r₀ hr₀
    intro call hcall hid
    rcases (effect_of_next hs.keyed.ids_nodup hnext).won_eq with ⟨heq, -⟩ |
      ⟨request, _, _, _, now, _, session, successor, -, -, -, -, hrotate, -, heq, -⟩
    · exact ih call (heq ▸ hcall) hid
    · rw [heq, List.mem_append, List.mem_singleton] at hcall
      rcases hcall with hcall | rfl
      · exact ih call hcall hid
      · obtain ⟨r', hr', hnone⟩ := (rotate_fst hs.keyed.ids_nodup _ _).mp hrotate
        have hid' : (session.rotateTo successor.id now).id = id := hid
        rw [hid'] at hr'
        obtain rfl : r' = r := Option.some.inj (hr'.symm.trans hr)
        exact absurd hnone (hrev hrev₀)

/-- The user of a session that exists when every session of `u` is revoked,
    along the rotations: they all belong to `u` and existed then. -/
theorem Inv.descendants_of_alarm (hinv₁ : Inv env s₁) (hinv₂ : Inv env s₂)
    (hrun₂ : Run (next env) s₂ tr₂ s₃) (hwon : s₂.won = s₁.won) {u : Uuid}
    (hclosed : ∀ id r, findById s₁.sessions id = some r → r.userId = u →
      ∃ r', findById s₂.sessions id = some r' ∧ r'.revokedAt ≠ none)
    {x y : Uuid} (hx : ∃ r, findById s₁.sessions x = some r ∧ r.userId = u)
    (h : Relation.ReflTransGen (Predecessor s₃) x y) :
    ∃ r, findById s₁.sessions y = some r ∧ r.userId = u := by
  induction h with
  | refl => exact hx
  | tail _ hstep ih =>
    obtain ⟨r, hr, hu⟩ := ih
    obtain ⟨call, hcall, hprev, rfl⟩ := hstep
    have hold : call ∈ s₁.won :=
      hwon ▸ hinv₂.won_of_closed hrun₂ (hclosed _ r hr hu) call hcall hprev
    obtain ⟨r', hr', hident'⟩ := hinv₁.successor_stored call hold
    obtain ⟨r'', hr'', hident'', -⟩ := hinv₁.previous_closed call hold
    have hsame : r'' = r := Option.some.inj (hr''.symm.trans (hprev ▸ hr))
    refine ⟨r', hr', ?_⟩
    rw [Session.userId_of_identity hident', hinv₁.same_user call hold,
      ← Session.userId_of_identity hident'', hsame, hu]

/-- After every session of `u` was revoked, whatever was in flight: each
    session of `u` that existed stays revoked, no `rotate` of it returns true,
    and it gets no descendant that did not exist. -/
theorem alarm_not_outrun (h₀ : Initial s₀) (hrun₁ : Run (next env) s₀ tr₁ s₁) {u : Uuid}
    (halarm : alarm s₁ a = some u) (hnext : next env s₁ a = some s₂)
    (hrun₂ : Run (next env) s₂ tr₂ s₃) {id : Uuid} {r : Session}
    (hr : findById s₁.sessions id = some r) (hu : r.userId = u) :
    (∃ r', findById s₃.sessions id = some r' ∧ r'.revokedAt ≠ none) ∧
    (∀ t ∈ tr₂, ∀ call, t.post.rotateCalls = t.pre.rotateCalls ++ [call] →
      call.previous.id = id → call.returned = false) ∧
    (∀ y, Relation.TransGen (Predecessor s₃) id y → y ∈ ids s₁.sessions) := by
  have hinv₁ : Inv env s₁ := (inv_of_run h₀ hrun₁).1
  have hinv₂ : Inv env s₂ := hinv₁.step hnext
  obtain ⟨hwon, reason, now, hsessions⟩ :=
    (effect_of_next hinv₁.keyed.ids_nodup hnext).alarm halarm
  have hclosed : ∀ id r, findById s₁.sessions id = some r → r.userId = u →
      ∃ r', findById s₂.sessions id = some r' ∧ r'.revokedAt ≠ none := by
    intro id r hr hu
    rw [hsessions]
    exact closed_revokeAllByUser reason now hr hu
  have hlater : ∀ {tr' : List (Transition State Action)} {s'}, Run (next env) s₂ tr' s' →
      Inv env s' ∧ ∃ r', findById s'.sessions id = some r' ∧ r'.revokedAt ≠ none := by
    intro tr' s' hrun'
    obtain ⟨hinv', hadv, -, -⟩ := hinv₂.run hrun'
    obtain ⟨r₂, hr₂, hrev₂⟩ := hclosed id r hr hu
    obtain ⟨r', hr', -, hrev'⟩ := hadv id r₂ hr₂
    exact ⟨hinv', r', hr', hrev' hrev₂⟩
  refine ⟨(hlater hrun₂).2, fun t ht call hcall hid => ?_, fun y hy => ?_⟩
  · obtain ⟨tr', -, -, hrun', hstep, -⟩ := hrun₂.split ht
    obtain ⟨hinv', hclosed'⟩ := hlater hrun'
    exact (effect_of_next hinv'.keyed.ids_nodup hstep).returned_of_closed hinv' hcall
      (hid ▸ hclosed')
  · obtain ⟨r', hr', -⟩ :=
      hinv₁.descendants_of_alarm hinv₂ hrun₂ hwon hclosed ⟨r, hr, hu⟩ hy.to_reflTransGen
    exact mem_ids_of_findById hr'

/-- A renewal in flight when the alarm comes: its session stays revoked. -/
theorem alarm_not_outrun_in_flight :
    ∃ tr₁ s₁ s₂ tr₂ s₃, exec (next sampleEnv) noSessions
        [.login 1 sampleOwner sampleContext (sampleGenerated 1) 0,
          .refreshLoad 2 (some (sampleToken 1)) 1000] = some (tr₁, s₁) ∧
      next sampleEnv s₁ (.revokeAllByUser sampleUser.id .reuseDetected 1200) = some s₂ ∧
      exec (next sampleEnv) s₂
        [.refreshFinish 2 sampleAccounts sampleContext (sampleGenerated 2) 1500] =
          some (tr₂, s₃) ∧
      ∃ r, findById s₃.sessions (sampleGenerated 1).sessionId = some r ∧ r.revokedAt ≠ none := by
  obtain ⟨tr₁, s₁, hexec₁, hlater⟩ :
      ∃ tr₁ s₁, exec (next sampleEnv) noSessions
        [.login 1 sampleOwner sampleContext (sampleGenerated 1) 0,
          .refreshLoad 2 (some (sampleToken 1)) 1000] = some (tr₁, s₁) ∧
      (findById s₁.sessions (sampleGenerated 1).sessionId).any
          (fun r => r.userId = sampleUser.id) = true ∧
      (next sampleEnv s₁ (.revokeAllByUser sampleUser.id .reuseDetected 1200)).any (fun s₂ =>
        (exec (next sampleEnv) s₂ [.refreshFinish 2 sampleAccounts sampleContext
          (sampleGenerated 2) 1500]).isSome) = true :=
    exists_of_any_exec (by decide +kernel)
  obtain ⟨r, hr, hu⟩ := (Option.any_eq_true _ _).mp hlater.1
  obtain ⟨s₂, hnext, hsome⟩ := (Option.any_eq_true _ _).mp hlater.2
  obtain ⟨⟨tr₂, s₃⟩, hexec₂⟩ := Option.isSome_iff_exists.mp hsome
  exact ⟨tr₁, s₁, s₂, tr₂, s₃, hexec₁, hnext, hexec₂,
    (alarm_not_outrun noSessions_initial (run_of_exec hexec₁) rfl hnext (run_of_exec hexec₂) hr
      (of_decide_eq_true hu)).1⟩

/-! ## Logging out -/

/-- Once a logout has written, the session of its token is never usable again,
    and a usable session reachable from it by rotations descends from a
    rotation that had returned true before that write. -/
theorem logout_closes_session (h₀ : Initial s₀) (hrun₁ : Run (next env) s₀ tr₁ s₁) {request : ℕ}
    {token : JsString} {c : Session} {now : Instant}
    (hflight : s₁.flight request = some (.logout token c))
    (hnext : next env s₁ (.logoutFinish request now) = some s₂)
    (hrun₂ : Run (next env) s₂ tr₂ s₃) :
    (∃ r, findById s₃.sessions c.id = some r ∧ r.refreshTokenHash = env.hash token ∧
      ∀ now', r.isUsable now' = false) ∧
    (∀ y r now', Relation.ReflTransGen (Predecessor s₃) c.id y →
      findById s₃.sessions y = some r → r.isUsable now' = true →
      y ≠ c.id ∧ ∃ x, Predecessor s₁ c.id x ∧ Relation.ReflTransGen (Predecessor s₃) x y) := by
  have hinv₁ : Inv env s₁ := (inv_of_run h₀ hrun₁).1
  have heffect := effect_of_next hinv₁.keyed.ids_nodup hnext
  obtain ⟨⟨r₁, hr₁, hident₁⟩, hhash⟩ :=
    hinv₁.copy_stored _ _ (Flights.mem_of_flightOf hflight) c rfl
  have hclosed₂ : s₂.won = s₁.won ∧ ∃ r, findById s₂.sessions c.id = some r ∧
      r.identity = c.identity ∧ r.revokedAt ≠ none := by
    cases heffect with
    | logoutFinished hflight' =>
      obtain ⟨rfl, rfl⟩ := Flight.logout.inj (Option.some.inj (hflight.symm.trans hflight'))
      refine ⟨rfl, _, findById_logout hr₁, ?_, ?_⟩
      · rw [if_pos rfl, Session.identity_revoke]
      · rw [if_pos rfl]
        exact Option.isSome_iff_ne_none.mp (Session.revokedAt_isSome_revoke c .logout now)
  obtain ⟨hwon₂, r₂, hr₂, hident₂, hrev₂⟩ := hclosed₂
  have hinv₂ : Inv env s₂ := hinv₁.step hnext
  obtain ⟨hinv₃, hadv, -, -⟩ := hinv₂.run hrun₂
  obtain ⟨r₃, hr₃, hident₃, hrev₃⟩ := hadv c.id r₂ hr₂
  have hunusable : ∀ now', r₃.isUsable now' = false := by
    intro now'
    have hsome := Option.isSome_iff_ne_none.mpr (hrev₃ hrev₂)
    simp [Session.isUsable, Option.isNone_iff_eq_none, hrev₃ hrev₂]
  refine ⟨⟨r₃, hr₃, ?_, hunusable⟩, fun y r now' hy hr husable => ?_⟩
  · rw [Session.refreshTokenHash_of_identity (hident₃.trans hident₂), hhash]
    rfl
  · have hne : y ≠ c.id := by
      rintro rfl
      obtain rfl : r = r₃ := Option.some.inj (hr.symm.trans hr₃)
      exact Bool.noConfusion ((hunusable now').symm.trans husable)
    refine ⟨hne, ?_⟩
    rcases Relation.ReflTransGen.cases_head hy with heq | ⟨x, hx, hxy⟩
    · exact absurd heq.symm hne
    · obtain ⟨call, hcall, hprev, rfl⟩ := hx
      have hold : call ∈ s₂.won :=
        hinv₂.won_of_closed hrun₂ ⟨r₂, hr₂, hrev₂⟩ call hcall hprev
      exact ⟨_, ⟨call, hwon₂ ▸ hold, hprev, rfl⟩, hxy⟩

/-- A renewal in flight when the logout writes: the session of the token is closed. -/
theorem logout_closes_session_in_flight :
    ∃ tr₁ s₁ s₂ tr₂ s₃, exec (next sampleEnv) noSessions
        [.login 1 sampleOwner sampleContext (sampleGenerated 1) 0,
          .refreshLoad 2 (some (sampleToken 1)) 1000,
          .logoutLoad 3 (some (sampleToken 1))] = some (tr₁, s₁) ∧
      next sampleEnv s₁ (.logoutFinish 3 1200) = some s₂ ∧
      exec (next sampleEnv) s₂
        [.refreshFinish 2 sampleAccounts sampleContext (sampleGenerated 2) 1500] =
          some (tr₂, s₃) ∧
      ∃ c r, s₁.flight 3 = some (.logout (sampleToken 1) c) ∧
        findById s₃.sessions c.id = some r ∧ ∀ now, r.isUsable now = false := by
  obtain ⟨tr₁, s₁, hexec₁, hflight, hlater⟩ :
      ∃ tr₁ s₁, exec (next sampleEnv) noSessions
        [.login 1 sampleOwner sampleContext (sampleGenerated 1) 0,
          .refreshLoad 2 (some (sampleToken 1)) 1000,
          .logoutLoad 3 (some (sampleToken 1))] = some (tr₁, s₁) ∧
      s₁.flight 3 = some (.logout (sampleToken 1) (SessionIssuer.build sampleEnv sampleOwner
        sampleContext (sampleGenerated 1) 0)) ∧
      (next sampleEnv s₁ (.logoutFinish 3 1200)).any (fun s₂ =>
        (exec (next sampleEnv) s₂ [.refreshFinish 2 sampleAccounts sampleContext
          (sampleGenerated 2) 1500]).isSome) = true :=
    exists_of_any_exec (by decide +kernel)
  obtain ⟨s₂, hnext, hsome⟩ := (Option.any_eq_true _ _).mp hlater
  obtain ⟨⟨tr₂, s₃⟩, hexec₂⟩ := Option.isSome_iff_exists.mp hsome
  obtain ⟨r, hr, -, hunusable⟩ := (logout_closes_session noSessions_initial (run_of_exec hexec₁)
    hflight hnext (run_of_exec hexec₂)).1
  exact ⟨tr₁, s₁, s₂, tr₂, s₃, hexec₁, hnext, hexec₂, _, r, hflight, hr, hunusable⟩

/-- A logout with a token that was already renewed leaves the successor of its
    session usable: it closes only the session of the token. -/
theorem successor_usable_after_logout :
    ∃ tr s, exec (next sampleEnv) noSessions
        [.login 1 sampleOwner sampleContext (sampleGenerated 1) 0,
          .refreshLoad 2 (some (sampleToken 1)) 1000,
          .refreshFinish 2 sampleAccounts sampleContext (sampleGenerated 2) 1500,
          .logoutLoad 3 (some (sampleToken 1)),
          .logoutFinish 3 2000] = some (tr, s) ∧
      s.flights = [] ∧
      Predecessor s (sampleGenerated 1).sessionId (sampleGenerated 2).sessionId ∧
      ∃ r, findById s.sessions (sampleGenerated 2).sessionId = some r ∧
        r.isUsable 3000 = true := by
  obtain ⟨tr, s, hexec, hflights, hpred, husable⟩ :
      ∃ tr s, exec (next sampleEnv) noSessions
        [.login 1 sampleOwner sampleContext (sampleGenerated 1) 0,
          .refreshLoad 2 (some (sampleToken 1)) 1000,
          .refreshFinish 2 sampleAccounts sampleContext (sampleGenerated 2) 1500,
          .logoutLoad 3 (some (sampleToken 1)),
          .logoutFinish 3 2000] = some (tr, s) ∧
      s.flights = [] ∧
      s.won.any (fun call => call.previous.id = (sampleGenerated 1).sessionId ∧
        call.successor.id = (sampleGenerated 2).sessionId) = true ∧
      (findById s.sessions (sampleGenerated 2).sessionId).any (·.isUsable 3000) = true :=
    exists_of_any_exec (by decide +kernel)
  obtain ⟨call, hcall, hids⟩ := List.any_eq_true.mp hpred
  obtain ⟨r, hr, hr'⟩ := (Option.any_eq_true _ _).mp husable
  exact ⟨tr, s, hexec, hflights, ⟨call, hcall, of_decide_eq_true hids⟩, r, hr, hr'⟩

end KomiSaas.Auth.Interleaving
