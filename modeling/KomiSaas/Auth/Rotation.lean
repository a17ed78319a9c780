import KomiSaas.Auth.Interleaving

/-!
# A refresh token is redeemed at most once

The winner of a race between renewals is decided by the `revoked_at IS NULL` of
`rotate` alone. `Predecessor` is the relation that the successful rotations of
a run draw between sessions.

Results, for every run of interleaved requests:
* `refresh_token_redeemed_once`: one successful rotation per session and one
  redeeming answer per token, no effect of a lost rotation, and chains without
  forks or cycles.
-/

namespace KomiSaas.Auth.Interleaving

open KomiSaas.Lib KomiSaas.Shared SessionRepository

/-- A `rotate` with `x` as the previous session returned true and inserted `y`. -/
def Predecessor (s : State) (x y : Uuid) : Prop :=
  ∃ call ∈ s.won, call.previous.id = x ∧ call.successor.id = y

variable {env : AuthEnv} {s s' : State} {a : Action}

/-! ## Counting -/

theorem Inv.won_of_previous (hinv : Inv env s) {call call' : RotateCall} (h : call ∈ s.won)
    (h' : call' ∈ s.won) (hid : call.previous.id = call'.previous.id) : call = call' :=
  List.inj_on_of_nodup_map hinv.previous_nodup h h' hid

theorem Inv.won_of_successor (hinv : Inv env s) {call call' : RotateCall} (h : call ∈ s.won)
    (h' : call' ∈ s.won) (hid : call.successor.id = call'.successor.id) : call = call' :=
  List.inj_on_of_nodup_map hinv.successor_nodup h h' hid

theorem Inv.count_previous (hinv : Inv env s) (id : Uuid) :
    s.rotateCalls.countP (fun call => call.previous.id = id ∧ call.returned) ≤ 1 := by
  have hcount : s.rotateCalls.countP (fun call => call.previous.id = id ∧ call.returned) =
      (s.won.map (·.previous.id)).count id := by
    rw [List.count_eq_countP, List.countP_map, State.won, List.countP_filter]
    refine List.countP_congr fun call _ => ?_
    simp
  rw [hcount]
  exact List.nodup_iff_count_le_one.mp hinv.previous_nodup id

theorem Inv.redeemed_nodup (hinv : Inv env s) :
    (s.answers.filterMap Answer.redeemed).Nodup := by
  refine List.Nodup.of_map env.hash ?_
  rw [hinv.redeemed]
  refine List.Nodup.map_on ?_ (List.Nodup.of_map _ hinv.previous_nodup)
  intro call hcall call' hcall' hhash
  obtain ⟨r, hr, hident, -⟩ := hinv.previous_closed call hcall
  obtain ⟨r', hr', hident', -⟩ := hinv.previous_closed call' hcall'
  have hrows : r.refreshTokenHash = r'.refreshTokenHash := by
    rw [Session.refreshTokenHash_of_identity hident, Session.refreshTokenHash_of_identity hident']
    exact hhash
  have heq : r = r' :=
    hinv.keyed.eq_of_hash (mem_of_findById hr).1 (mem_of_findById hr').1 hrows
  have hid : call.previous.id = call'.previous.id := by
    rw [← (mem_of_findById hr).2, ← (mem_of_findById hr').2, heq]
  exact hinv.won_of_previous hcall hcall' hid

theorem Inv.count_redeemed (hinv : Inv env s) (token : JsString) :
    s.answers.countP (fun answer => answer.redeemed = some token) ≤ 1 := by
  have hcount : s.answers.countP (fun answer => answer.redeemed = some token) =
      (s.answers.filterMap Answer.redeemed).count token := by
    rw [List.count_eq_countP, List.countP_filterMap]
    refine List.countP_congr fun answer _ => ?_
    cases answer.redeemed <;> simp
  rw [hcount]
  exact List.nodup_iff_count_le_one.mp hinv.redeemed_nodup token

/-! ## A lost rotation -/

/-- A step that records a rotation which returned false wrote no row, and its
    request has ended in `InvalidRefreshTokenException`. -/
theorem Effect.lost_call (h : Effect env s a s') {call : RotateCall}
    (hcall : s'.rotateCalls = s.rotateCalls ++ [call]) (hlost : call.returned = false) :
    s'.sessions = s.sessions ∧
      (∃ token, s'.answers =
        s.answers ++ [⟨call.request, some token, .error .invalidRefreshToken⟩]) ∧
      call.request ∉ s'.flights.map Prod.fst := by
  have hself : ∀ {l : List RotateCall}, l ≠ l ++ [call] := by
    intro l heq
    have := congrArg List.length heq
    simp at this
  cases h with
  | login _ => exact absurd hcall hself
  | refreshRefused => exact absurd hcall hself
  | refreshLoaded _ _ => exact absurd hcall hself
  | revoked _ _ _ => exact absurd hcall hself
  | lost _ _ =>
    obtain rfl := List.singleton_inj.mp (List.append_cancel_left hcall)
    exact ⟨rfl, ⟨_, rfl⟩, by simp [State.land, Flights.landed]⟩
  | won _ _ _ _ _ =>
    obtain rfl := List.singleton_inj.mp (List.append_cancel_left hcall)
    exact Bool.noConfusion hlost
  | logoutIdle => exact absurd hcall hself
  | logoutLoaded _ => exact absurd hcall hself
  | logoutFinished _ => exact absurd hcall hself
  | revokedAll => exact absurd hcall hself

/-! ## Chains -/

theorem Inv.predecessor_unique (hinv : Inv env s) {x x' y : Uuid} (h : Predecessor s x y)
    (h' : Predecessor s x' y) : x = x' := by
  obtain ⟨call, hcall, rfl, hy⟩ := h
  obtain ⟨call', hcall', rfl, hy'⟩ := h'
  rw [hinv.won_of_successor hcall hcall' (hy.trans hy'.symm)]

theorem Inv.successor_unique (hinv : Inv env s) {x y y' : Uuid} (h : Predecessor s x y)
    (h' : Predecessor s x y') : y = y' := by
  obtain ⟨call, hcall, hx, rfl⟩ := h
  obtain ⟨call', hcall', hx', rfl⟩ := h'
  rw [hinv.won_of_previous hcall hcall' (hx.trans hx'.symm)]

/-- Along the relation the position in the table grows. -/
theorem Inv.idxOf_lt (hinv : Inv env s) {x y : Uuid}
    (h : Relation.TransGen (Predecessor s) x y) :
    (ids s.sessions).idxOf x < (ids s.sessions).idxOf y := by
  induction h with
  | single h =>
    obtain ⟨call, hcall, rfl, rfl⟩ := h
    exact hinv.order call hcall
  | tail _ h ih =>
    obtain ⟨call, hcall, rfl, rfl⟩ := h
    exact ih.trans (hinv.order call hcall)

theorem Inv.acyclic (hinv : Inv env s) (x : Uuid) : ¬ Relation.TransGen (Predecessor s) x x :=
  fun h => lt_irrefl _ (hinv.idxOf_lt h)

/-- Two descendants of one session are one above the other. -/
theorem Inv.chain (hinv : Inv env s) {root x y : Uuid}
    (hx : Relation.ReflTransGen (Predecessor s) root x)
    (hy : Relation.ReflTransGen (Predecessor s) root y) :
    Relation.ReflTransGen (Predecessor s) x y ∨ Relation.ReflTransGen (Predecessor s) y x :=
  Relation.ReflTransGen.total_of_right_unique (fun _ _ _ h h' => hinv.successor_unique h h') hx hy

theorem Predecessor.mono {x y : Uuid} (hpref : s.won <+: s'.won) (h : Predecessor s x y) :
    Predecessor s' x y := by
  obtain ⟨call, hcall, hx, hy⟩ := h
  exact ⟨call, hpref.subset hcall, hx, hy⟩

/-- The session that the second step of a renewal inserts has a predecessor. -/
theorem Effect.predecessor_of_inserted {request accounts context gen now}
    (h : Effect env s (.refreshFinish request accounts context gen now) s') {y : Uuid}
    (hy : y ∈ ids s'.sessions) (hnew : y ∉ ids s.sessions) :
    ∃ x, Predecessor s' x y := by
  cases h with
  | @revoked _ _ _ _ _ _ _ userId reason =>
    have hids : ids (revokeAllByUser s.sessions userId reason now) = ids s.sessions :=
      ids_revokeAllByUser userId reason now
    exact absurd (hids ▸ hy) hnew
  | lost _ _ => exact absurd hy hnew
  | @won _ _ _ _ _ _ session successor _ _ _ _ _ hwon =>
    have hids := ids_rotate hwon
    rw [hids, List.mem_append, List.mem_singleton] at hy
    obtain rfl := hy.resolve_left hnew
    exact ⟨_, ⟨request, session.rotateTo successor.id now, successor, true⟩, by simp [State.won],
      rfl, rfl⟩

/-! ## The result -/

variable {s₀ : State} {tr : List (Transition State Action)}

/-- In every run of interleaved logins, renewals, logouts and `revokeAllByUser`
    calls: one rotation per session and one redemption per token succeed, a
    lost rotation writes nothing and ends its request without tokens, and the
    sessions that rotations insert form simple chains. -/
theorem refresh_token_redeemed_once (h₀ : Initial s₀) (hrun : Run (next env) s₀ tr s) :
    (∀ id, s.rotateCalls.countP (fun call => call.previous.id = id ∧ call.returned) ≤ 1) ∧
    (∀ token, s.answers.countP (fun answer => answer.redeemed = some token) ≤ 1) ∧
    (∀ t ∈ tr, ∀ call, t.post.rotateCalls = t.pre.rotateCalls ++ [call] →
      call.returned = false →
      t.post.sessions = t.pre.sessions ∧
        (∃ token, t.post.answers =
          t.pre.answers ++ [⟨call.request, some token, .error .invalidRefreshToken⟩]) ∧
        call.request ∉ t.post.flights.map Prod.fst) ∧
    (∀ t ∈ tr, ∀ request accounts context gen now,
      t.action = .refreshFinish request accounts context gen now →
      ∀ y ∈ ids t.post.sessions, y ∉ ids t.pre.sessions → ∃! x, Predecessor s x y) ∧
    (∀ x y y', Predecessor s x y → Predecessor s x y' → y = y') ∧
    (∀ x, ¬ Relation.TransGen (Predecessor s) x x) ∧
    (∀ root x y, Relation.ReflTransGen (Predecessor s) root x →
      Relation.ReflTransGen (Predecessor s) root y →
      Relation.ReflTransGen (Predecessor s) x y ∨ Relation.ReflTransGen (Predecessor s) y x) := by
  obtain ⟨hinv, hall⟩ := inv_of_run h₀ hrun
  refine ⟨hinv.count_previous, hinv.count_redeemed, fun t ht call hcall hlost => ?_,
    fun t ht request accounts context gen now haction y hy hnew => ?_,
    fun _ _ _ => hinv.successor_unique, hinv.acyclic, fun _ _ _ => hinv.chain⟩
  · have heffect := effect_of_next (hall t ht).1.keyed.ids_nodup (hrun.next_of_mem ht)
    exact heffect.lost_call hcall hlost
  · obtain ⟨-, tr₂, -, -, hnext, hrest⟩ := hrun.split ht
    have heffect := effect_of_next (hall t ht).1.keyed.ids_nodup hnext
    rw [haction] at heffect
    obtain ⟨x, hx⟩ := heffect.predecessor_of_inserted hy hnew
    have hx' : Predecessor s x y := hx.mono ((hall t ht).2.run hrest).2.2.2
    exact ⟨x, hx', fun x' h => hinv.predecessor_unique h hx'⟩

/-- Two renewals of one token that looked it up before either rotated: the
    first is answered with tokens, the second is not. -/
theorem refresh_token_redeemed_once_race :
    ∃ tr s, exec (next sampleEnv) noSessions
        [.login 1 sampleOwner sampleContext (sampleGenerated 1) 0,
          .refreshLoad 2 (some (sampleToken 1)) 1000,
          .refreshLoad 3 (some (sampleToken 1)) 1000,
          .refreshFinish 2 sampleAccounts sampleContext (sampleGenerated 2) 1500,
          .refreshFinish 3 sampleAccounts sampleContext (sampleGenerated 3) 1600] =
          some (tr, s) ∧
      s.rotateCalls.map (·.returned) = [true, false] ∧
      s.answers.countP (fun answer => answer.redeemed = some (sampleToken 1)) ≤ 1 := by
  obtain ⟨tr, s, hexec, hcalls⟩ :
      ∃ tr s, exec (next sampleEnv) noSessions
        [.login 1 sampleOwner sampleContext (sampleGenerated 1) 0,
          .refreshLoad 2 (some (sampleToken 1)) 1000,
          .refreshLoad 3 (some (sampleToken 1)) 1000,
          .refreshFinish 2 sampleAccounts sampleContext (sampleGenerated 2) 1500,
          .refreshFinish 3 sampleAccounts sampleContext (sampleGenerated 3) 1600] =
          some (tr, s) ∧ s.rotateCalls.map (·.returned) = [true, false] :=
    exists_of_any_exec (by decide +kernel)
  exact ⟨tr, s, hexec, hcalls,
    (refresh_token_redeemed_once noSessions_initial (run_of_exec hexec)).2.1 (sampleToken 1)⟩

end KomiSaas.Auth.Interleaving
