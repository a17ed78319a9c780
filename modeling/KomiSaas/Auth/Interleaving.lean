import KomiSaas.Auth.Writes
import KomiSaas.Lib.Flights

/-!
# Interleaved requests over the sessions

Every call of a use case to the session repository is one atomic step, so a
renewal and a logout take two: the lookup, and what follows it. Between the two
the request is a `Flight`, which carries what it looked up. `next` performs one
step; requests are numbered, and the lookups of a new request need a number
that is not in flight. The steps are not those of a `Flights.System`: what is recorded
goes by the number of the request, and a renewal brings its fresh id to the second step.

`rotateCalls` and `answers` only record what happened, for the properties.

* `Effect`, `effect_of_next`: everything a step can do.
* `Inv`, `Inv.step`, `inv_of_run`: what relates requests in flight, rows and
  answers in every reachable state.
-/

namespace KomiSaas.Auth.Interleaving

open KomiSaas.Lib KomiSaas.Shared SessionRepository

/-- A request between its two calls to the session repository. -/
inductive Flight where
  | refresh (token : JsString) (phase : RefreshPhase)
  | logout (token : JsString) (session : Session)
  deriving DecidableEq

/-- The token a request presented. -/
def Flight.token : Flight → JsString
  | .refresh token _ => token
  | .logout token _ => token

/-- The session a request carries and will hand back to the repository. -/
def Flight.copy : Flight → Option Session
  | .refresh _ (.renew session) => some session
  | .refresh _ (.alarm _) => none
  | .logout _ session => some session

/-- A call of `sessions.rotate` and what it returned. -/
structure RotateCall where
  request : ℕ
  previous : Session
  successor : Session
  returned : Bool
  deriving DecidableEq

/-- How a login or a renewal ended. -/
structure Answer where
  request : ℕ
  presented : Option JsString
  result : Except AuthException AuthTokens

structure State where
  sessions : SessionTable
  flights : List (ℕ × Flight)
  rotateCalls : List RotateCall
  answers : List Answer

/-- One step. `accounts` is what the business and user repositories hold when a
    renewal asks them. -/
inductive Action where
  | login (request : ℕ) (owner : SessionOwner) (context : SessionContext) (gen : Generated)
      (now : Instant)
  | refreshLoad (request : ℕ) (token : Option JsString) (now : Instant)
  | refreshFinish (request : ℕ) (accounts : Accounts) (context : SessionContext) (gen : Generated)
      (now : Instant)
  | logoutLoad (request : ℕ) (token : Option JsString)
  | logoutFinish (request : ℕ) (now : Instant)
  | revokeAllByUser (userId : Uuid) (reason : SessionRevocationReason) (now : Instant)

/-- The call of `rotate` that the second step of a renewal makes, if it makes one. -/
def rotateCall (env : AuthEnv) (table : SessionTable) (request : ℕ) (phase : RefreshPhase)
    (accounts : Accounts) (context : SessionContext) (gen : Generated) (now : Instant) :
    Option RotateCall :=
  match phase with
  | .alarm _ => none
  | .renew session =>
    (RefreshSession.renewsFor accounts session).map fun owner =>
      let successor := SessionIssuer.build env owner context gen now
      let previous := session.rotateTo successor.id now
      ⟨request, previous, successor, (rotate table previous successor).1⟩

namespace State

/-- The request with a number, if it is in flight. -/
def flight (s : State) (request : ℕ) : Option Flight := Flights.flightOf s.flights request

/-- Take a request out of flight. -/
def land (s : State) (request : ℕ) : List (ℕ × Flight) := Flights.landed s.flights request

/-- The rotations that returned true. -/
def won (s : State) : List RotateCall := s.rotateCalls.filter (·.returned)

end State

/-- One step; `none` where it is not enabled. -/
def next (env : AuthEnv) (s : State) : Action → Option State
  | .login request owner context gen now =>
    if Fresh s.sessions gen.sessionId (env.hash gen.plain) then
      let (tokens, sessions) := SessionIssuer.start env s.sessions owner context gen now
      some { s with
        sessions := sessions
        answers := s.answers ++ [⟨request, none, .ok tokens⟩] }
    else none
  | .refreshLoad request token now =>
    if request ∈ s.flights.map Prod.fst then none
    else
      match token with
      | none =>
        some { s with answers := s.answers ++ [⟨request, none, .error .invalidRefreshToken⟩] }
      | some token =>
        match RefreshSession.afterFind (findByRefreshTokenHash s.sessions (env.hash token)) now with
        | .error e => some { s with answers := s.answers ++ [⟨request, some token, .error e⟩] }
        | .ok phase => some { s with flights := s.flights ++ [(request, .refresh token phase)] }
  | .refreshFinish request accounts context gen now =>
    match s.flight request with
    | some (.refresh token phase) =>
      if (RefreshSession.revokes phase accounts).isSome ∨
          Fresh s.sessions gen.sessionId (env.hash gen.plain) then
        let (result, sessions) :=
          RefreshSession.finish env s.sessions phase accounts context gen now
        some
          { sessions := sessions
            flights := s.land request
            rotateCalls := s.rotateCalls ++
              (rotateCall env s.sessions request phase accounts context gen now).toList
            answers := s.answers ++ [⟨request, some token, result⟩] }
      else none
    | _ => none
  | .logoutLoad request token =>
    if request ∈ s.flights.map Prod.fst then none
    else
      match token with
      | none => some s
      | some token =>
        match findByRefreshTokenHash s.sessions (env.hash token) with
        | none => some s
        | some session => some { s with flights := s.flights ++ [(request, .logout token session)] }
  | .logoutFinish request now =>
    match s.flight request with
    | some (.logout _ session) =>
      some { s with
        sessions := Logout.finish s.sessions session now
        flights := s.land request }
    | _ => none
  | .revokeAllByUser userId reason now =>
    some { s with sessions := revokeAllByUser s.sessions userId reason now }

/-- Before the first request: any sessions, with distinct ids and hashes. -/
structure Initial (s : State) : Prop where
  keyed : Keyed s.sessions
  flights : s.flights = []
  rotateCalls : s.rotateCalls = []
  answers : s.answers = []

/-! ## What a step can do -/

/-- Everything a step can do, with what holds when it does it. -/
inductive Effect (env : AuthEnv) (s : State) : Action → State → Prop
  | login {request owner context gen now} :
      Fresh s.sessions gen.sessionId (env.hash gen.plain) →
      Effect env s (.login request owner context gen now)
        { s with
          sessions := create s.sessions (SessionIssuer.build env owner context gen now)
          answers := s.answers ++ [⟨request, none, .ok (SessionIssuer.issueFor env
            (SessionIssuer.build env owner context gen now) owner gen now)⟩] }
  | refreshRefused {request token now e} :
      Effect env s (.refreshLoad request token now)
        { s with answers := s.answers ++ [⟨request, token, .error e⟩] }
  | refreshLoaded {request token now phase session} :
      findByRefreshTokenHash s.sessions (env.hash token) = some session →
      (phase = .renew session ∧ session.revokedAt = none) ∨
        (phase = .alarm session.userId ∧ session.revocationReason = some .rotated) →
      Effect env s (.refreshLoad request (some token) now)
        { s with flights := s.flights ++ [(request, .refresh token phase)] }
  | revoked {request accounts context gen now token phase userId reason e} :
      s.flight request = some (.refresh token phase) →
      RefreshSession.revokes phase accounts = some userId → reason ≠ .rotated →
      Effect env s (.refreshFinish request accounts context gen now)
        { s with
          sessions := revokeAllByUser s.sessions userId reason now
          flights := s.land request
          answers := s.answers ++ [⟨request, some token, .error e⟩] }
  | lost {request accounts context gen now token session successor} :
      s.flight request = some (.refresh token (.renew session)) →
      RefreshSession.revokes (.renew session) accounts = none →
      Effect env s (.refreshFinish request accounts context gen now)
        { s with
          flights := s.land request
          rotateCalls := s.rotateCalls ++
            [⟨request, session.rotateTo successor.id now, successor, false⟩]
          answers := s.answers ++ [⟨request, some token, .error .invalidRefreshToken⟩] }
  | won {request accounts context gen now token session successor tokens} :
      s.flight request = some (.refresh token (.renew session)) →
      RefreshSession.revokes (.renew session) accounts = none →
      successor.userId = session.userId →
      Fresh s.sessions successor.id successor.refreshTokenHash →
      (rotate s.sessions (session.rotateTo successor.id now) successor).1 = true →
      Effect env s (.refreshFinish request accounts context gen now)
        { sessions := (rotate s.sessions (session.rotateTo successor.id now) successor).2
          flights := s.land request
          rotateCalls := s.rotateCalls ++
            [⟨request, session.rotateTo successor.id now, successor, true⟩]
          answers := s.answers ++ [⟨request, some token, .ok tokens⟩] }
  | logoutIdle {request token} : Effect env s (.logoutLoad request token) s
  | logoutLoaded {request token session} :
      findByRefreshTokenHash s.sessions (env.hash token) = some session →
      Effect env s (.logoutLoad request (some token))
        { s with flights := s.flights ++ [(request, .logout token session)] }
  | logoutFinished {request now token session} :
      s.flight request = some (.logout token session) →
      Effect env s (.logoutFinish request now)
        { s with
          sessions := Logout.finish s.sessions session now
          flights := s.land request }
  | revokedAll {userId reason now} :
      Effect env s (.revokeAllByUser userId reason now)
        { s with sessions := revokeAllByUser s.sessions userId reason now }

variable {env : AuthEnv} {s s' : State} {a : Action}

theorem effect_of_login {request owner context gen now}
    (h : next env s (.login request owner context gen now) = some s') :
    Effect env s (.login request owner context gen now) s' := by
  simp only [next] at h
  split_ifs at h with hfresh
  obtain rfl := Option.some.inj h
  exact .login hfresh

theorem effect_of_refreshLoad {request token now}
    (h : next env s (.refreshLoad request token now) = some s') :
    Effect env s (.refreshLoad request token now) s' := by
  simp only [next] at h
  split_ifs at h
  cases token with
  | none =>
    obtain rfl := Option.some.inj h
    exact .refreshRefused
  | some token =>
    cases hfind : RefreshSession.afterFind
      (findByRefreshTokenHash s.sessions (env.hash token)) now with
    | error e =>
      simp only [hfind] at h
      obtain rfl := Option.some.inj h
      exact .refreshRefused
    | ok phase =>
      simp only [hfind] at h
      obtain rfl := Option.some.inj h
      obtain ⟨session, hsession, hphase⟩ := RefreshSession.afterFind_ok hfind
      exact .refreshLoaded hsession hphase

theorem effect_of_refreshFinish (hids : (ids s.sessions).Nodup) {request accounts context gen now}
    (h : next env s (.refreshFinish request accounts context gen now) = some s') :
    Effect env s (.refreshFinish request accounts context gen now) s' := by
  simp only [next] at h
  split at h
  · rename_i token phase hflight
    split_ifs at h with henabled
    obtain rfl := Option.some.inj h
    cases phase with
    | alarm userId =>
      rw [RefreshSession.finish_alarm]
      simp only [rotateCall, Option.toList_none, List.append_nil]
      exact .revoked hflight rfl (by decide)
    | renew session =>
      cases hrenews : RefreshSession.renewsFor accounts session with
      | none =>
        have hfail : ∃ e, RefreshSession.finish env s.sessions (.renew session) accounts context
            gen now = (.error e, revokeAllByUser s.sessions session.userId .revoked now) :=
          RefreshSession.finish_of_not_renewsFor hrenews
        obtain ⟨e, hfinish⟩ := hfail
        rw [hfinish]
        simp only [rotateCall, hrenews, Option.map_none, Option.toList_none, List.append_nil]
        exact .revoked hflight (by simp [RefreshSession.revokes, hrenews]) (by decide)
      | some owner =>
        have hrevokes : RefreshSession.revokes (.renew session) accounts = none := by
          simp [RefreshSession.revokes, hrenews]
        rw [RefreshSession.finish_of_renewsFor hrenews]
        simp only [rotateCall, hrenews, Option.map_some, Option.toList_some]
        have hid : (SessionIssuer.build env owner context gen now).id = gen.sessionId := rfl
        rw [← hid]
        cases hwon : (rotate s.sessions (session.rotateTo
          (SessionIssuer.build env owner context gen now).id now)
          (SessionIssuer.build env owner context gen now)).1 with
        | false =>
          rw [rotate_eq_of_lost hids hwon]
          exact .lost hflight hrevokes
        | true =>
          have hfresh : Fresh s.sessions gen.sessionId (env.hash gen.plain) :=
            henabled.resolve_left (by simp [hrevokes])
          exact .won hflight hrevokes (RefreshSession.userId_of_renewsFor hrenews) hfresh hwon
  · cases h

theorem effect_of_logoutLoad {request token}
    (h : next env s (.logoutLoad request token) = some s') :
    Effect env s (.logoutLoad request token) s' := by
  simp only [next] at h
  split_ifs at h
  cases token with
  | none =>
    obtain rfl := Option.some.inj h
    exact .logoutIdle
  | some token =>
    cases hfind : findByRefreshTokenHash s.sessions (env.hash token) with
    | none =>
      simp only [hfind] at h
      obtain rfl := Option.some.inj h
      exact .logoutIdle
    | some session =>
      simp only [hfind] at h
      obtain rfl := Option.some.inj h
      exact .logoutLoaded hfind

theorem effect_of_logoutFinish {request now}
    (h : next env s (.logoutFinish request now) = some s') :
    Effect env s (.logoutFinish request now) s' := by
  simp only [next] at h
  split at h
  · rename_i token session hflight
    obtain rfl := Option.some.inj h
    exact .logoutFinished hflight
  · cases h

/-- Everything an enabled step does. -/
theorem effect_of_next (hids : (ids s.sessions).Nodup) (h : next env s a = some s') :
    Effect env s a s' := by
  cases a with
  | login request owner context gen now => exact effect_of_login h
  | refreshLoad request token now => exact effect_of_refreshLoad h
  | refreshFinish request accounts context gen now => exact effect_of_refreshFinish hids h
  | logoutLoad request token => exact effect_of_logoutLoad h
  | logoutFinish request now => exact effect_of_logoutFinish h
  | revokeAllByUser userId reason now =>
    obtain rfl := Option.some.inj h
    exact .revokedAll

/-! ## The invariant -/

/-- The token an answer redeemed: presented, and answered with tokens. -/
def Answer.redeemed (answer : Answer) : Option JsString :=
  match answer.result with
  | .ok _ => answer.presented
  | .error _ => none

/-- What holds between the rows, the copies in flight and the record of rotations. -/
structure Inv (env : AuthEnv) (s : State) : Prop where
  keyed : Keyed s.sessions
  /-- Every copy in flight has its row, and is of the session its token belongs to. -/
  copy_stored : ∀ n f, (n, f) ∈ s.flights → ∀ c, f.copy = some c →
    Stored s.sessions c ∧ c.refreshTokenHash = env.hash f.token
  /-- A renewal carries an unrevoked copy. -/
  renew_open : ∀ n token c, (n, Flight.refresh token (.renew c)) ∈ s.flights → c.revokedAt = none
  /-- The previous session of a successful rotation is revoked. -/
  previous_closed : ∀ call ∈ s.won, ∃ r, findById s.sessions call.previous.id = some r ∧
    r.identity = call.previous.identity ∧ r.revokedAt ≠ none
  successor_stored : ∀ call ∈ s.won, Stored s.sessions call.successor
  previous_nodup : (s.won.map (·.previous.id)).Nodup
  successor_nodup : (s.won.map (·.successor.id)).Nodup
  /-- A successor is inserted after its predecessor. -/
  order : ∀ call ∈ s.won,
    (ids s.sessions).idxOf call.previous.id < (ids s.sessions).idxOf call.successor.id
  same_user : ∀ call ∈ s.won, call.successor.userId = call.previous.userId
  /-- Tokens are answered exactly by the successful rotations, in order. -/
  redeemed : (s.answers.filterMap Answer.redeemed).map env.hash =
    s.won.map (·.previous.refreshTokenHash)

theorem Initial.inv (h : Initial s) : Inv env s := by
  obtain ⟨hkeyed, hflights, hcalls, hanswers⟩ := h
  have hwon : s.won = [] := by simp [State.won, hcalls]
  constructor <;> simp [hflights, hwon, hanswers, hkeyed]

/-- Each step makes at most one write. -/
theorem Effect.write (h : Effect env s a s') (hinv : Inv env s) :
    Write s.sessions s'.sessions := by
  cases h with
  | login hfresh => exact .insert _ hfresh
  | refreshRefused => exact .idle
  | refreshLoaded _ _ => exact .idle
  | revoked _ _ _ => exact .revokeAll _ _ _
  | lost _ _ => exact .idle
  | won hflight _ _ hfresh hwon =>
    have hmem := Flights.mem_of_flightOf hflight
    exact .rotate _ _ _ (hinv.copy_stored _ _ hmem _ rfl).1 (hinv.renew_open _ _ _ hmem) hfresh
      hwon
  | logoutIdle => exact .idle
  | logoutLoaded _ => exact .idle
  | logoutFinished hflight =>
    exact .logout _ _ (hinv.copy_stored _ _ (Flights.mem_of_flightOf hflight) _ rfl).1
  | revokedAll => exact .revokeAll _ _ _

theorem stored_of_mem {t : SessionTable} {c : Session} (hids : (ids t).Nodup) (h : c ∈ t) :
    Stored t c :=
  ⟨c, findById_of_mem hids h, rfl⟩

/-- A request in flight after a step was in flight before, or has just looked its session up. -/
theorem Effect.flights (h : Effect env s a s') {n : ℕ} {f : Flight} (hf : (n, f) ∈ s'.flights) :
    (n, f) ∈ s.flights ∨
      ∃ c, findByRefreshTokenHash s.sessions (env.hash f.token) = some c ∧
        ((f = .refresh f.token (.renew c) ∧ c.revokedAt = none) ∨
          f = .refresh f.token (.alarm c.userId) ∨ f = .logout f.token c) := by
  cases h with
  | login _ => exact .inl hf
  | refreshRefused => exact .inl hf
  | refreshLoaded hfind hphase =>
    rcases List.mem_append.mp hf with hf | hf
    · exact .inl hf
    · obtain ⟨-, rfl⟩ := Prod.mk.inj (List.mem_singleton.mp hf)
      rcases hphase with ⟨rfl, hnone⟩ | ⟨rfl, -⟩
      · exact .inr ⟨_, hfind, .inl ⟨rfl, hnone⟩⟩
      · exact .inr ⟨_, hfind, .inr (.inl rfl)⟩
  | revoked _ _ _ => exact .inl (Flights.mem_landed hf).1
  | lost _ _ => exact .inl (Flights.mem_landed hf).1
  | won _ _ _ _ _ => exact .inl (Flights.mem_landed hf).1
  | logoutIdle => exact .inl hf
  | logoutLoaded hfind =>
    rcases List.mem_append.mp hf with hf | hf
    · exact .inl hf
    · obtain ⟨-, rfl⟩ := Prod.mk.inj (List.mem_singleton.mp hf)
      exact .inr ⟨_, hfind, .inr (.inr rfl)⟩
  | logoutFinished _ => exact .inl (Flights.mem_landed hf).1
  | revokedAll => exact .inl hf

/-- A step adds no successful rotation and redeems no token, or it does both. -/
theorem Effect.won_eq (h : Effect env s a s') :
    (s'.won = s.won ∧
      s'.answers.filterMap Answer.redeemed = s.answers.filterMap Answer.redeemed) ∨
    ∃ request accounts context gen now token session successor,
      a = .refreshFinish request accounts context gen now ∧
      (request, Flight.refresh token (.renew session)) ∈ s.flights ∧
      successor.userId = session.userId ∧
      Fresh s.sessions successor.id successor.refreshTokenHash ∧
      (rotate s.sessions (session.rotateTo successor.id now) successor).1 = true ∧
      s'.sessions = (rotate s.sessions (session.rotateTo successor.id now) successor).2 ∧
      s'.won = s.won ++ [⟨request, session.rotateTo successor.id now, successor, true⟩] ∧
      s'.answers.filterMap Answer.redeemed =
        s.answers.filterMap Answer.redeemed ++ [token] := by
  cases h with
  | login _ => exact .inl ⟨rfl, by simp [Answer.redeemed]⟩
  | refreshRefused => exact .inl ⟨rfl, by simp [Answer.redeemed]⟩
  | refreshLoaded _ _ => exact .inl ⟨rfl, rfl⟩
  | revoked _ _ _ => exact .inl ⟨rfl, by simp [Answer.redeemed]⟩
  | lost _ _ => exact .inl ⟨by simp [State.won], by simp [Answer.redeemed]⟩
  | won hflight _ huser hfresh hwon =>
    have hmem := Flights.mem_of_flightOf hflight
    exact .inr ⟨_, _, _, _, _, _, _, _, rfl, hmem, huser, hfresh, hwon, rfl,
      by simp [State.won], by simp [Answer.redeemed]⟩
  | logoutIdle => exact .inl ⟨rfl, rfl⟩
  | logoutLoaded _ => exact .inl ⟨rfl, rfl⟩
  | logoutFinished _ => exact .inl ⟨rfl, rfl⟩
  | revokedAll => exact .inl ⟨rfl, rfl⟩

/-! ### Every step keeps it -/

variable {table table' : SessionTable}

theorem idxOf_of_append {l l' : List Uuid} (h : l <+: l') {x : Uuid} (hx : x ∈ l) :
    l'.idxOf x = l.idxOf x := by
  obtain ⟨news, rfl⟩ := h
  exact List.idxOf_append_of_mem hx

theorem Inv.previous_id_mem (hinv : Inv env s) {call : RotateCall} (h : call ∈ s.won) :
    call.previous.id ∈ ids s.sessions := by
  obtain ⟨r, hr, -⟩ := hinv.previous_closed call h
  exact mem_ids_of_findById hr

theorem Inv.successor_id_mem (hinv : Inv env s) {call : RotateCall} (h : call ∈ s.won) :
    call.successor.id ∈ ids s.sessions := by
  obtain ⟨r, hr, -⟩ := hinv.successor_stored call h
  exact mem_ids_of_findById hr

theorem Inv.step_copies (hinv : Inv env s) (h : Effect env s a s') :
    (∀ n f, (n, f) ∈ s'.flights → ∀ c, f.copy = some c →
        Stored s'.sessions c ∧ c.refreshTokenHash = env.hash f.token) ∧
      ∀ n token c, (n, Flight.refresh token (.renew c)) ∈ s'.flights → c.revokedAt = none := by
  have hadv := (h.write hinv).advances
  refine ⟨fun n f hf c hc => ?_, fun n token c hf => ?_⟩
  · rcases h.flights hf with hold | ⟨c', hfind, hnew⟩
    · obtain ⟨hstored, hhash⟩ := hinv.copy_stored n f hold c hc
      exact ⟨hstored.advance hadv, hhash⟩
    · have hcopy : f.copy = some c' ∨ f.copy = none := by
        rcases hnew with ⟨hf', -⟩ | hf' | hf' <;> rw [hf'] <;> simp [Flight.copy]
      rcases hcopy with heq | hnone
      · obtain rfl : c' = c := Option.some.inj (heq.symm.trans hc)
        obtain ⟨hmem, hhash⟩ := mem_of_findByRefreshTokenHash hfind
        exact ⟨(stored_of_mem hinv.keyed.ids_nodup hmem).advance hadv, hhash⟩
      · exact absurd (hnone.symm.trans hc) (Option.some_ne_none c).symm
  · rcases h.flights hf with hold | ⟨c', -, hnew⟩
    · exact hinv.renew_open n token c hold
    · rcases hnew with ⟨heq, hnone⟩ | heq | heq
      · obtain ⟨-, hphase⟩ := Flight.refresh.inj heq
        obtain rfl := RefreshPhase.renew.inj hphase
        exact hnone
      · exact RefreshPhase.noConfusion (Flight.refresh.inj heq).2
      · exact Flight.noConfusion heq

/-- The rotations already made stay as they were described. -/
theorem Inv.step_old_calls (hinv : Inv env s) (h : Effect env s a s') {call : RotateCall}
    (hcall : call ∈ s.won) :
    (∃ r, findById s'.sessions call.previous.id = some r ∧
        r.identity = call.previous.identity ∧ r.revokedAt ≠ none) ∧
      Stored s'.sessions call.successor ∧
      (ids s'.sessions).idxOf call.previous.id < (ids s'.sessions).idxOf call.successor.id := by
  have hwrite := h.write hinv
  obtain ⟨r, hr, hident, hrev⟩ := hinv.previous_closed call hcall
  obtain ⟨r', hr', hident', hrev'⟩ := hwrite.advances _ r hr
  have hpref := hwrite.ids_grow hinv.keyed.ids_nodup
  refine ⟨⟨r', hr', hident'.trans hident, hrev' hrev⟩,
    (hinv.successor_stored call hcall).advance hwrite.advances, ?_⟩
  rw [idxOf_of_append hpref (hinv.previous_id_mem hcall),
    idxOf_of_append hpref (hinv.successor_id_mem hcall)]
  exact hinv.order call hcall

/-- The rows of a rotation right after it. -/
theorem rotate_rows {session successor : Session} {now : Instant} (hids : (ids table).Nodup)
    (hstored : Stored table session) (hfresh : Fresh table successor.id successor.refreshTokenHash)
    (hwon : (rotate table (session.rotateTo successor.id now) successor).1 = true)
    (htable : table' = (rotate table (session.rotateTo successor.id now) successor).2) :
    (∃ r, findById table' session.id = some r ∧ r.identity = session.identity ∧
        r.revokedAt ≠ none) ∧
      findById table' successor.id = some successor ∧
      (ids table').idxOf session.id < (ids table').idxOf successor.id := by
  subst htable
  obtain ⟨r, hr, hrnone⟩ := (rotate_fst hids _ _).mp hwon
  obtain ⟨r', hr', hident⟩ := hstored
  have hid : (session.rotateTo successor.id now).id = session.id := Session.id_rotateTo _ _ _
  obtain rfl : r' = r := Option.some.inj (hr'.symm.trans (hid ▸ hr))
  have hprev := findById_rotate_previous hwon hr hrnone
  rw [hid] at hprev
  refine ⟨⟨_, hprev, hident, revokedAt_rotateTo_ne_none session successor.id now⟩,
    findById_rotate_successor hwon hfresh.1, ?_⟩
  have hmem : session.id ∈ ids table := mem_ids_of_findById hr'
  have hlt : (ids table).idxOf session.id < (ids table).length := List.idxOf_lt_length_of_mem hmem
  rw [ids_rotate hwon, List.idxOf_append_of_mem hmem, List.idxOf_append_of_notMem hfresh.1]
  omega

/-- A rotation that returns true keeps the invariant. -/
theorem Inv.step_won (hinv : Inv env s) (hnext : Effect env s a s') {request : ℕ} {now : Instant}
    {token : JsString} {session successor : Session}
    (hmem : (request, Flight.refresh token (.renew session)) ∈ s.flights)
    (huser : successor.userId = session.userId)
    (hfresh : Fresh s.sessions successor.id successor.refreshTokenHash)
    (hrotate : (rotate s.sessions (session.rotateTo successor.id now) successor).1 = true)
    (hsessions : s'.sessions = (rotate s.sessions (session.rotateTo successor.id now) successor).2)
    (hwon : s'.won = s.won ++ [⟨request, session.rotateTo successor.id now, successor, true⟩])
    (hredeemed : s'.answers.filterMap Answer.redeemed =
      s.answers.filterMap Answer.redeemed ++ [token]) :
    Inv env s' := by
  obtain ⟨hcopies, hrenew⟩ := hinv.step_copies hnext
  have hold := fun call hcall => @Inv.step_old_calls env s s' a hinv hnext call hcall
  obtain ⟨hstored, hhash⟩ := hinv.copy_stored _ _ hmem session rfl
  obtain ⟨hclosed, hsucc, horder⟩ :=
    rotate_rows hinv.keyed.ids_nodup hstored hfresh hrotate hsessions
  have hunrevoked : ∃ r, findById s.sessions session.id = some r ∧ r.revokedAt = none := by
    have := (rotate_fst hinv.keyed.ids_nodup _ _).mp hrotate
    rwa [Session.id_rotateTo] at this
  have hprev_new : session.id ∉ s.won.map (·.previous.id) := by
    intro hin
    obtain ⟨call, hcall, hid⟩ := List.mem_map.mp hin
    obtain ⟨r, hr, -, hrev⟩ := hinv.previous_closed call hcall
    obtain ⟨r', hr', hnone⟩ := hunrevoked
    obtain rfl : r = r' := Option.some.inj ((hid ▸ hr).symm.trans hr')
    exact hrev hnone
  have hsucc_new : successor.id ∉ s.won.map (·.successor.id) := by
    intro hin
    obtain ⟨call, hcall, hid⟩ := List.mem_map.mp hin
    exact hfresh.1 (hid ▸ hinv.successor_id_mem hcall)
  constructor
  · exact (hnext.write hinv).keyed hinv.keyed
  · exact hcopies
  · exact hrenew
  · rw [hwon]
    refine List.forall_mem_append.mpr ⟨fun call hcall => (hold call hcall).1, ?_⟩
    simpa using hclosed
  · rw [hwon]
    refine List.forall_mem_append.mpr ⟨fun call hcall => (hold call hcall).2.1, ?_⟩
    simpa using ⟨successor, hsucc, rfl⟩
  · rw [hwon, List.map_append]
    exact hinv.previous_nodup.append (List.nodup_singleton _) (by simpa using hprev_new)
  · rw [hwon, List.map_append]
    exact hinv.successor_nodup.append (List.nodup_singleton _) (by simpa using hsucc_new)
  · rw [hwon]
    refine List.forall_mem_append.mpr ⟨fun call hcall => (hold call hcall).2.2, ?_⟩
    simpa using horder
  · rw [hwon]
    refine List.forall_mem_append.mpr ⟨hinv.same_user, ?_⟩
    simpa [Session.userId_of_identity (Session.identity_rotateTo session successor.id now)]
      using huser
  · have hprevious : (session.rotateTo successor.id now).refreshTokenHash = env.hash token :=
      (Session.refreshTokenHash_of_identity (Session.identity_rotateTo _ _ _)).trans hhash
    rw [hredeemed, hwon, List.map_append, List.map_append, hinv.redeemed]
    simp [hprevious]

theorem Inv.step (hinv : Inv env s) (hnext : next env s a = some s') : Inv env s' := by
  have h : Effect env s a s' := effect_of_next hinv.keyed.ids_nodup hnext
  rcases h.won_eq with ⟨hwon, hredeemed⟩ |
    ⟨request, accounts, context, gen, now, token, session, successor, -, hmem, huser, hfresh,
      hrotate, hsessions, hwon, hredeemed⟩
  · obtain ⟨hcopies, hrenew⟩ := hinv.step_copies h
    have hold := fun call hcall => @Inv.step_old_calls env s s' a hinv h call hcall
    exact
      { keyed := (h.write hinv).keyed hinv.keyed
        copy_stored := hcopies
        renew_open := hrenew
        previous_closed := fun call hcall => (hold call (hwon ▸ hcall)).1
        successor_stored := fun call hcall => (hold call (hwon ▸ hcall)).2.1
        previous_nodup := hwon ▸ hinv.previous_nodup
        successor_nodup := hwon ▸ hinv.successor_nodup
        order := fun call hcall => (hold call (hwon ▸ hcall)).2.2
        same_user := fun call hcall => hinv.same_user call (hwon ▸ hcall)
        redeemed := by rw [hredeemed, hwon]; exact hinv.redeemed }
  · exact hinv.step_won h hmem huser hfresh hrotate hsessions hwon hredeemed

/-! ## Runs -/

variable {s₀ : State} {tr : List (Transition State Action)}

/-- The invariant holds all along every run. -/
theorem inv_of_run (h₀ : Initial s₀) (hrun : Run (next env) s₀ tr s) :
    Inv env s ∧ ∀ t ∈ tr, Inv env t.pre ∧ Inv env t.post :=
  hrun.invariant (fun _ _ _ hinv hnext => hinv.step hnext) h₀.inv

/-- What a run from a state with the invariant adds: rows advance, ids and
    successful rotations are appended. -/
theorem Inv.run (hinv : Inv env s₀) (hrun : Run (next env) s₀ tr s) :
    Inv env s ∧ Advances s₀.sessions s.sessions ∧ ids s₀.sessions <+: ids s.sessions ∧
      s₀.won <+: s.won := by
  induction hrun with
  | nil => exact ⟨hinv, Advances.refl _, List.prefix_rfl, List.prefix_rfl⟩
  | snoc _ hnext ih =>
    obtain ⟨hs, hadv, hids, hwon⟩ := ih
    have h := effect_of_next hs.keyed.ids_nodup hnext
    have hwrite := h.write hs
    refine ⟨hs.step hnext, hadv.trans hwrite.advances,
      hids.trans (hwrite.ids_grow hs.keyed.ids_nodup), hwon.trans ?_⟩
    rcases h.won_eq with ⟨heq, -⟩ | ⟨_, _, _, _, _, _, _, _, -, -, -, -, -, -, heq, -⟩
    · rw [heq]
    · rw [heq]; exact List.prefix_append _ _

/-- No session yet. -/
def noSessions : State := ⟨[], [], [], []⟩

theorem noSessions_initial : Initial noSessions :=
  ⟨⟨List.nodup_nil, List.nodup_nil⟩, rfl, rfl, rfl⟩

end KomiSaas.Auth.Interleaving
