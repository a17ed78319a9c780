import KomiSaas.Auth.Rotation
import KomiSaas.Lib.Writes

/-!
# The sessions of one login

A renewal closes the session it was asked for in the statement that inserts the new
one, so no interleaving leaves two of them open.

Results, for every run of interleaved requests (`one_open_session_per_login`):
* at most one session that descends from a login by rotations is open;
* a user has no more open sessions than before the run and logins in it;
* every `replaced_by_session_id` is the id of a stored session, which is what the
  deferred foreign key `fk_sessions_replaced_by` asks for.
-/

namespace KomiSaas.Auth.Interleaving

open KomiSaas.Lib KomiSaas.Shared SessionRepository

variable {env : AuthEnv} {s s' s₀ : State} {a : Action} {tr : List (Transition State Action)}
  {table : SessionTable} {userId : Uuid} {session successor : Session} {now : Instant}

/-! ## Counting open sessions -/

/-- The row of a user that is not revoked. -/
def openFor (userId : Uuid) (r : Session) : Bool := r.userId = userId && r.revokedAt.isNone

/-- How many open sessions a user has. -/
def openSessions (table : SessionTable) (userId : Uuid) : ℕ := table.countP (openFor userId)

/-- The logins of a user. -/
def loginsOf (userId : Uuid) (t : Transition State Action) : ℕ :=
  match t.action with
  | .login _ owner _ _ _ => if owner.userId = userId then 1 else 0
  | _ => 0

theorem not_openFor_of_revoked {r : Session} (h : r.revokedAt ≠ none) :
    openFor userId r = false := by
  rw [openFor, Option.isNone_eq_false_iff.mpr (Option.isSome_iff_ne_none.mpr h), Bool.and_false]

theorem openSessions_revokeAllByUser (user : Uuid) (reason : SessionRevocationReason) :
    openSessions (revokeAllByUser table user reason now) userId ≤ openSessions table userId := by
  refine Rows.countP_updateWhere_le fun r _ _ hopen => ?_
  rw [not_openFor_of_revoked (by simp)] at hopen
  cases hopen

theorem openSessions_logout :
    openSessions (Logout.finish table session now) userId ≤ openSessions table userId := by
  refine Rows.countP_updateWhere_le fun r _ _ hopen => ?_
  have hrevoked : (session.revoke .logout now).revokedAt ≠ none :=
    Option.isSome_iff_ne_none.mp (Session.revokedAt_isSome_revoke session .logout now)
  rw [not_openFor_of_revoked hrevoked] at hopen
  cases hopen

/-- A rotation closes the session of the user for whom it opens one. -/
theorem openSessions_rotate (hids : (ids table).Nodup) (hstored : Stored table session)
    (huser : successor.userId = session.userId)
    (hwon : (rotate table (session.rotateTo successor.id now) successor).1 = true) :
    openSessions (rotate table (session.rotateTo successor.id now) successor).2 userId ≤
      openSessions table userId := by
  obtain ⟨r, hr, hnone⟩ := (rotate_fst hids _ _).mp hwon
  obtain ⟨r', hr', hidentity⟩ := hstored
  have hid : (session.rotateTo successor.id now).id = session.id := Session.id_rotateTo _ _ _
  obtain rfl : r' = r := Option.some.inj (hr'.symm.trans (hid ▸ hr))
  obtain ⟨hmem, -⟩ := mem_of_findById hr
  have hclosed : ∀ row, openFor userId
      (copyRevocation (session.rotateTo successor.id now) row) = false :=
    fun row => not_openFor_of_revoked (revokedAt_rotateTo_ne_none session successor.id now)
  have hopen : ∀ row ∈ table, rotatable (session.rotateTo successor.id now) row = true →
      openFor userId (copyRevocation (session.rotateTo successor.id now) row) = true →
        openFor userId row = true := by
    intro row _ _ h
    rw [hclosed row] at h
    cases h
  rw [rotate_eq_of_won hwon, openSessions, List.countP_append, List.countP_singleton]
  by_cases hsame : session.userId = userId
  · have hrotatable : rotatable (session.rotateTo successor.id now) r' = true := by
      rw [rotatable, Bool.and_eq_true, decide_eq_true_eq, Option.isNone_iff_eq_none]
      exact ⟨(mem_of_findById hr).2, hnone⟩
    have hold : openFor userId r' = true := by
      rw [openFor, Bool.and_eq_true, decide_eq_true_eq, Option.isNone_iff_eq_none,
        Session.userId_of_identity hidentity]
      exact ⟨hsame, hnone⟩
    have hlt := Rows.countP_updateWhere_lt hopen hmem hrotatable hold (hclosed r')
    unfold openSessions
    split_ifs <;> omega
  · have hother : openFor userId successor = false := by
      rw [openFor, huser, decide_eq_false hsame, Bool.false_and]
    rw [hother, if_neg Bool.false_ne_true]
    exact Rows.countP_updateWhere_le hopen

/-- A step opens a session for a user only as a login of that user. -/
theorem Effect.openSessions_le (h : Effect env s a s') (hinv : Inv env s) :
    openSessions s'.sessions userId ≤
      openSessions s.sessions userId + loginsOf userId ⟨s, a, s'⟩ := by
  cases h with
  | @login _ owner context gen now _ =>
    have hnew : openFor userId (SessionIssuer.build env owner context gen now) =
        decide (owner.userId = userId) := Bool.and_true _
    show openSessions (create s.sessions _) userId ≤ _ + if _ then _ else _
    rw [openSessions, create, List.countP_append, List.countP_singleton, hnew]
    simp only [decide_eq_true_eq]
    exact le_refl _
  | revoked _ _ _ => exact (openSessions_revokeAllByUser _ _).trans (Nat.le_add_right _ _)
  | won hflight _ huser _ hwon =>
    have hstored := (hinv.copy_stored _ _ (Flights.mem_of_flightOf hflight) _ rfl).1
    exact (openSessions_rotate hinv.keyed.ids_nodup hstored huser hwon).trans
      (Nat.le_add_right _ _)
  | logoutFinished _ => exact openSessions_logout.trans (Nat.le_add_right _ _)
  | revokedAll => exact (openSessions_revokeAllByUser _ _).trans (Nat.le_add_right _ _)
  | refreshRefused => exact Nat.le_add_right _ _
  | refreshLoaded _ _ => exact Nat.le_add_right _ _
  | lost _ _ => exact Nat.le_add_right _ _
  | logoutIdle => exact Nat.le_add_right _ _
  | logoutLoaded _ => exact Nat.le_add_right _ _

theorem openSessions_of_run (hinv : Inv env s₀) (hrun : Run (next env) s₀ tr s) :
    openSessions s.sessions userId ≤
      openSessions s₀.sessions userId + (tr.map (loginsOf userId)).sum := by
  induction hrun with
  | nil => simp
  | @snoc tr s s' a hrun hnext ih =>
    have hs := (hinv.run hrun).1
    have hle : openSessions s'.sessions userId ≤
        openSessions s.sessions userId + loginsOf userId ⟨s, a, s'⟩ :=
      (effect_of_next hs.keyed.ids_nodup hnext).openSessions_le hs
    rw [List.map_append, List.sum_append, List.map_singleton, List.sum_singleton]
    omega

/-! ## One open session in a chain -/

/-- The session with this id is stored and open. -/
def IsOpen (s : State) (id : Uuid) : Prop := ∃ r ∈ s.sessions, r.id = id ∧ r.revokedAt = none

/-- A session that was rotated is not open. -/
theorem Inv.not_isOpen_of_predecessor (hinv : Inv env s) {x y : Uuid} (h : Predecessor s x y) :
    ¬ IsOpen s x := by
  rintro ⟨r, hr, rfl, hnone⟩
  obtain ⟨call, hcall, hid, -⟩ := h
  obtain ⟨r', hr', -, hrevoked⟩ := hinv.previous_closed call hcall
  have hfind := findById_of_mem hinv.keyed.ids_nodup hr
  rw [← hid] at hfind
  obtain rfl : r' = r := Option.some.inj (hr'.symm.trans hfind)
  exact hrevoked hnone

/-- An open session is the last one of its chain. -/
theorem Inv.eq_of_isOpen (hinv : Inv env s) {x y : Uuid} (hx : IsOpen s x)
    (h : Relation.ReflTransGen (Predecessor s) x y) : x = y := by
  rcases Relation.ReflTransGen.cases_head h with heq | ⟨z, hz, -⟩
  · exact heq
  · exact absurd hx (hinv.not_isOpen_of_predecessor hz)

/-! ## The foreign key -/

/-- Every successor that a row or a copy names is stored. -/
structure Pointers (s : State) : Prop where
  rows : ∀ r ∈ s.sessions, ∀ x ∈ r.replacedBySessionId, x ∈ ids s.sessions
  copies : ∀ n f, (n, f) ∈ s.flights → ∀ c, f.copy = some c →
    ∀ x ∈ c.replacedBySessionId, x ∈ ids s.sessions

/-- The rotation that a step records inserts a new session, without a successor. -/
theorem replacedBy_of_successor {request accounts context gen} {call : RotateCall}
    (hnext : next env s (.refreshFinish request accounts context gen now) = some s')
    (hcalls : s'.rotateCalls = s.rotateCalls ++ [call]) :
    call.successor.replacedBySessionId = none := by
  have hrecorded : ∃ phase, s'.rotateCalls = s.rotateCalls ++
      (rotateCall env s.sessions request phase accounts context gen now).toList := by
    simp only [next] at hnext
    split at hnext
    · rename_i phase _
      split_ifs at hnext
      obtain rfl := Option.some.inj hnext
      exact ⟨phase, rfl⟩
    · cases hnext
  obtain ⟨phase, hrecorded⟩ := hrecorded
  have hcall : call ∈ rotateCall env s.sessions request phase accounts context gen now := by
    rw [hcalls] at hrecorded
    refine Option.mem_toList.mp ?_
    rw [← List.append_cancel_left hrecorded]
    exact List.mem_singleton_self call
  cases phase with
  | alarm _ => cases hcall
  | renew session =>
    obtain ⟨owner, -, rfl⟩ := Option.map_eq_some_iff.mp hcall
    rfl

/-- The row of a session that was found by its token. -/
theorem Pointers.of_find (h : Pointers s) {hash : JsString} {c : Session}
    (hfind : findByRefreshTokenHash s.sessions hash = some c) :
    ∀ x ∈ c.replacedBySessionId, x ∈ ids s.sessions :=
  h.rows c (mem_of_findByRefreshTokenHash hfind).1

/-- Requests in flight keep it where their rows stay. -/
theorem Pointers.copies_of_effect (h : Pointers s) (heffect : Effect env s a s')
    (hids : ids s.sessions <+: ids s'.sessions) :
    ∀ n f, (n, f) ∈ s'.flights → ∀ c, f.copy = some c →
      ∀ x ∈ c.replacedBySessionId, x ∈ ids s'.sessions := by
  intro n f hf c hc x hx
  refine hids.subset ?_
  rcases heffect.flights hf with hold | ⟨c', hfind, hnew⟩
  · exact h.copies n f hold c hc x hx
  · have hcopy : f.copy = some c' ∨ f.copy = none := by
      rcases hnew with ⟨hf', -⟩ | hf' | hf' <;> rw [hf'] <;> simp [Flight.copy]
    rcases hcopy with heq | hnone
    · obtain rfl : c' = c := Option.some.inj (heq.symm.trans hc)
      exact h.of_find hfind x hx
    · exact absurd (hnone.symm.trans hc) (Option.some_ne_none c).symm

/-- An update of the rows keeps it where the new pointers are stored. -/
theorem pointers_updateWhere {p : Session → Bool} {f : Session → Session} {stored : List Uuid}
    (hrows : ∀ r ∈ table, ∀ x ∈ r.replacedBySessionId, x ∈ stored)
    (hf : ∀ r ∈ table, ∀ x ∈ (f r).replacedBySessionId, x ∈ stored) :
    ∀ r ∈ Rows.updateWhere p f table, ∀ x ∈ r.replacedBySessionId, x ∈ stored := by
  intro r hr
  rcases Rows.mem_updateWhere hr with ⟨hr, -⟩ | ⟨old, hold, -, rfl⟩
  · exact hrows r hr
  · exact hf old hold

theorem Pointers.step (h : Pointers s) (hinv : Inv env s) (hnext : next env s a = some s') :
    Pointers s' := by
  have heffect := effect_of_next hinv.keyed.ids_nodup hnext
  have hids := (heffect.write hinv).ids_grow hinv.keyed.ids_nodup
  refine ⟨?_, h.copies_of_effect heffect hids⟩
  have hrows : ∀ r ∈ s.sessions, ∀ x ∈ r.replacedBySessionId, x ∈ ids s'.sessions :=
    fun r hr x hx => hids.subset (h.rows r hr x hx)
  cases heffect with
  | login _ =>
    intro r hr
    rcases List.mem_append.mp hr with hr | hr
    · exact hrows r hr
    · obtain rfl := List.mem_singleton.mp hr
      intro x hx
      cases hx
  | refreshRefused => exact hrows
  | refreshLoaded _ _ => exact hrows
  | revoked _ _ _ => exact pointers_updateWhere hrows hrows
  | lost _ _ => exact hrows
  | @won request accounts context gen now _ session successor _ hflight _ _ _ hwon =>
    have hnone : successor.replacedBySessionId = none := replacedBy_of_successor hnext rfl
    have hunrevoked := hinv.renew_open _ _ _ (Flights.mem_of_flightOf hflight)
    have hnew : successor.id ∈ ids (rotate s.sessions (session.rotateTo successor.id now)
        successor).2 := by
      rw [ids_rotate hwon]
      exact List.mem_append_right _ (List.mem_singleton_self _)
    have hprevious : (session.rotateTo successor.id now).replacedBySessionId =
        some successor.id := by
      rw [Session.rotateTo, if_neg (by simp [hunrevoked])]
      rfl
    intro r hr
    rw [rotate_eq_of_won hwon] at hr
    rcases List.mem_append.mp hr with hr | hr
    · refine pointers_updateWhere hrows (fun _ _ x hx => ?_) r hr
      have hx : x ∈ (session.rotateTo successor.id now).replacedBySessionId := hx
      rw [hprevious] at hx
      rwa [← Option.some.inj hx]
    · obtain rfl := List.mem_singleton.mp hr
      rw [hnone]
      intro x hx
      cases hx
  | logoutIdle => exact hrows
  | logoutLoaded _ => exact hrows
  | @logoutFinished _ now _ session hflight =>
    refine pointers_updateWhere hrows fun _ _ x hx => ?_
    have hsame : (session.revoke .logout now).replacedBySessionId =
        session.replacedBySessionId := by
      unfold Session.revoke
      split_ifs <;> rfl
    rw [hsame] at hx
    exact hids.subset (h.copies _ _ (Flights.mem_of_flightOf hflight) session rfl x hx)
  | revokedAll => exact pointers_updateWhere hrows hrows

theorem pointers_of_run (h : Pointers s₀) (hinv : Inv env s₀) (hrun : Run (next env) s₀ tr s) :
    Pointers s := by
  induction hrun with
  | nil => exact h
  | snoc hrun hnext ih => exact ih.step (hinv.run hrun).1 hnext

/-! ## The result -/

/-- For every run of interleaved logins, renewals, logouts and `revokeAllByUser` calls:
    of the sessions that descend from one session by rotations at most one is open; a
    user has no more open sessions than before the run and logins in it; and, as before
    the run, every successor that a row names is stored. -/
theorem one_open_session_per_login (h₀ : Initial s₀)
    (hstored : ∀ r ∈ s₀.sessions, ∀ x ∈ r.replacedBySessionId, x ∈ ids s₀.sessions)
    (hrun : Run (next env) s₀ tr s) :
    (∀ root x y, Relation.ReflTransGen (Predecessor s) root x →
      Relation.ReflTransGen (Predecessor s) root y → IsOpen s x → IsOpen s y → x = y) ∧
    (∀ userId, openSessions s.sessions userId ≤
      openSessions s₀.sessions userId + (tr.map (loginsOf userId)).sum) ∧
    ∀ r ∈ s.sessions, ∀ x ∈ r.replacedBySessionId, x ∈ ids s.sessions := by
  have hinv := (inv_of_run h₀ hrun).1
  have hpointers : Pointers s₀ := by
    refine ⟨hstored, fun n f hf => ?_⟩
    rw [h₀.flights] at hf
    cases hf
  refine ⟨fun root x y hx hy hxopen hyopen => ?_, fun _ => openSessions_of_run h₀.inv hrun,
    (pointers_of_run hpointers h₀.inv hrun).rows⟩
  rcases hinv.chain hx hy with h | h
  · exact hinv.eq_of_isOpen hxopen h
  · exact (hinv.eq_of_isOpen hyopen h).symm

/-- A login, a renewal of it, and a second renewal whose lookup came before. -/
def twoRenewals : List Action :=
  [.login 1 sampleOwner sampleContext (sampleGenerated 1) 0,
    .refreshLoad 2 (some (sampleToken 1)) 1000, .refreshLoad 3 (some (sampleToken 1)) 1000,
    .refreshFinish 2 sampleAccounts sampleContext (sampleGenerated 2) 1500,
    .refreshFinish 3 sampleAccounts sampleContext (sampleGenerated 3) 1600]

/-- Two sessions are stored, and one of them is open. -/
theorem one_open_session_per_login_race :
    ∃ tr s, exec (next sampleEnv) noSessions twoRenewals = some (tr, s) ∧
      s.sessions.length = 2 ∧ openSessions s.sessions sampleOwner.userId = 1 ∧
      (∀ root x y, Relation.ReflTransGen (Predecessor s) root x →
        Relation.ReflTransGen (Predecessor s) root y → IsOpen s x → IsOpen s y → x = y) ∧
      (∀ userId, openSessions s.sessions userId ≤
        openSessions noSessions.sessions userId + (tr.map (loginsOf userId)).sum) ∧
      ∀ r ∈ s.sessions, ∀ x ∈ r.replacedBySessionId, x ∈ ids s.sessions := by
  obtain ⟨tr, s, hexec, hlength, hopen⟩ :
      ∃ tr s, exec (next sampleEnv) noSessions twoRenewals = some (tr, s) ∧
        s.sessions.length = 2 ∧ openSessions s.sessions sampleOwner.userId = 1 :=
    exists_of_any_exec (by decide +kernel)
  exact ⟨tr, s, hexec, hlength, hopen, one_open_session_per_login noSessions_initial
    (fun _ h => absurd h List.not_mem_nil) (run_of_exec hexec)⟩

end KomiSaas.Auth.Interleaving
