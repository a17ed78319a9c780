import KomiSaas.Lib.Flights

/-!
# The part of one owner

Rows and requests belong to owners. A system is `Sharded` for one of them if its
requests read and write its rows alone, and the requests of the others none of them.
Then in every run the part of the owner (its rows, its requests in flight and its
steps) is a run of its own, as if there were no other owner (`Sharded.run`).

`Shard.any_ofOwner`, `Shard.updateWhere_ofOwner` and their like are what this takes for
a table whose queries and updates name the owner.
-/

namespace KomiSaas.Lib

namespace Flights

variable {σ ρ φ ω : Type*}

/-- The rows of an owner, and which requests are its own, before and after they
    read. -/
structure Shard (σ ρ φ : Type*) where
  rows : σ → σ
  asks : ρ → Bool
  holds : φ → Bool

namespace Shard

/-- The rows of one table whose owner is `k`. -/
def ofOwner {α κ : Type*} [DecidableEq κ] (owner : α → κ) (asked : ρ → κ) (held : φ → κ) (k : κ) :
    Shard (List α) ρ φ where
  rows := List.filter fun row => owner row = k
  asks call := asked call = k
  holds flight := held flight = k

variable (shard : Shard σ ρ φ)

/-- What the owner sees of a state. -/
def state (s : State σ φ) : State σ φ :=
  ⟨shard.rows s.store, s.flights.filter fun entry => shard.holds entry.2⟩

/-- The step is one of the owner. -/
def owns (s : State σ φ) : Action ρ ω → Bool
  | .read _ call => shard.asks call
  | .write request _ _ => (s.flight request).any shard.holds

/-- The steps of the owner, as it sees them. -/
def part (tr : List (Transition (State σ φ) (Action ρ ω))) :
    List (Transition (State σ φ) (Action ρ ω)) :=
  (tr.filter fun t => shard.owns t.pre t.action).map fun t =>
    ⟨shard.state t.pre, t.action, shard.state t.post⟩

end Shard

/-- What a system has to satisfy for the part of an owner to be a system of its own. -/
structure Sharded (sys : System σ ρ φ ω) (I : σ → Prop) (J : σ → φ → Prop) (shard : Shard σ ρ φ) :
    Prop where
  enabled : ∀ {store flights call}, sys.enabled store flights call = true →
    sys.enabled (shard.rows store) (flights.filter shard.holds) call = true
  read : ∀ {store call store' result}, I store → sys.read store call = (store', result) →
    (∀ flight, result = some flight → shard.holds flight = shard.asks call) ∧
    (shard.asks call = true → sys.read (shard.rows store) call = (shard.rows store', result)) ∧
    (shard.asks call = false → shard.rows store' = shard.rows store)
  write : ∀ {store flight input}, I store → J store flight → shard.holds flight = true →
    sys.write (shard.rows store) flight input = (sys.write store flight input).map shard.rows
  others : ∀ {store flight input store'}, I store → J store flight → shard.holds flight = false →
    sys.write store flight input = some store' → shard.rows store' = shard.rows store

variable {sys : System σ ρ φ ω} {s s' : State σ φ} {a : Action ρ ω} {I : σ → Prop}
  {J : σ → φ → Prop} {D : φ → φ → Prop} {shard : Shard σ ρ φ} {request : ℕ} {flight : φ}

/-! ## The numbers of the requests -/

theorem keys_of_next (hkeys : (s.flights.map Prod.fst).Nodup) (h : next sys s a = some s') :
    (s'.flights.map Prod.fst).Nodup := by
  have hland : ∀ request, ((s.land request).map Prod.fst).Nodup := fun request =>
    (List.filter_sublist.map Prod.fst).nodup hkeys
  have hnew : ∀ {request call}, a = .read request call → request ∉ s.flights.map Prod.fst := by
    rintro request call rfl hmem
    simp [next, hmem] at h
  cases effect_of_next h with
  | ended _ _ => exact hkeys
  | took _ _ =>
    rw [List.map_append, List.nodup_append]
    refine ⟨hkeys, List.nodup_singleton _, fun n hn m hm => ?_⟩
    obtain rfl := List.mem_singleton.mp hm
    rintro rfl
    exact hnew rfl hn
  | failed _ _ => exact hland _
  | wrote _ _ => exact hland _

/-- A request of the owner is in flight in its part. -/
theorem flight_state (hkeys : (s.flights.map Prod.fst).Nodup) (h : s.flight request = some flight)
    (hholds : shard.holds flight = true) : (shard.state s).flight request = some flight := by
  have hmem : (request, flight) ∈ (shard.state s).flights :=
    List.mem_filter.mpr ⟨mem_of_flight h, hholds⟩
  have hsub : ((shard.state s).flights.map Prod.fst).Nodup :=
    (List.filter_sublist.map Prod.fst).nodup hkeys
  rw [State.flight, flightOf, Rows.find_of_mem hsub hmem]
  rfl

theorem land_state : (shard.state s).land request =
    (s.land request).filter fun entry => shard.holds entry.2 := by
  simp only [State.land, landed, Shard.state, List.filter_filter, Bool.and_comm]

/-- A request of another owner leaves no trace. -/
theorem land_other (hkeys : (s.flights.map Prod.fst).Nodup) (h : s.flight request = some flight)
    (hholds : shard.holds flight = false) :
    (s.land request).filter (fun entry => shard.holds entry.2) =
      s.flights.filter fun entry => shard.holds entry.2 := by
  rw [State.land, landed, List.filter_filter]
  refine List.filter_congr fun entry hentry => ?_
  by_cases hsame : entry.1 = request
  · have heq : entry = (request, flight) :=
      List.inj_on_of_nodup_map hkeys hentry (mem_of_flight h) hsame
    rw [heq, hholds, Bool.false_and]
  · rw [decide_eq_true hsame, Bool.and_true]

/-! ## Requests that read and change nothing -/

/-- Where reads leave the store as it is, the requests of the owner have to find the same
    among its rows. -/
theorem Sharded.read_of_pure {store store' : σ} {call : ρ} {result : Option φ}
    (hpure : ∀ {store call store' result}, sys.read store call = (store', result) → store' = store)
    (hholds : ∀ flight, sys.read store call = (store, some flight) →
      shard.holds flight = shard.asks call)
    (hsame : shard.asks call = true →
      (sys.read (shard.rows store) call).2 = (sys.read store call).2)
    (h : sys.read store call = (store', result)) :
    (∀ flight, result = some flight → shard.holds flight = shard.asks call) ∧
      (shard.asks call = true → sys.read (shard.rows store) call = (shard.rows store', result)) ∧
      (shard.asks call = false → shard.rows store' = shard.rows store) := by
  obtain rfl := hpure h
  refine ⟨fun flight hflight => hholds flight (hflight ▸ h), fun hasks => ?_, fun _ => rfl⟩
  refine Prod.ext (hpure rfl) ?_
  rw [hsame hasks, h]

/-! ## The steps -/

theorem next_ended {call : ρ} {store : σ} (hnew : request ∉ s.flights.map Prod.fst)
    (henabled : sys.enabled s.store (s.flights.map Prod.snd) call = true)
    (hread : sys.read s.store call = (store, none)) :
    next sys s (.read request call) = some { s with store := store } := by
  simp [next, hnew, henabled, hread]

theorem next_took {call : ρ} {store : σ} (hnew : request ∉ s.flights.map Prod.fst)
    (henabled : sys.enabled s.store (s.flights.map Prod.snd) call = true)
    (hread : sys.read s.store call = (store, some flight)) :
    next sys s (.read request call) = some ⟨store, s.flights ++ [(request, flight)]⟩ := by
  simp [next, hnew, henabled, hread]

/-- A step of the owner is a step of its part. -/
theorem Sharded.step_own (hsys : Sharded sys I J shard) (hinv : Inv I J D s)
    (hkeys : (s.flights.map Prod.fst).Nodup) (hown : shard.owns s a = true)
    (h : next sys s a = some s') : next sys (shard.state s) a = some (shard.state s') := by
  cases a with
  | read request call =>
    have hguard : request ∉ s.flights.map Prod.fst ∧
        sys.enabled s.store (s.flights.map Prod.snd) call = true := by
      by_contra hnot
      rw [not_and_or, not_not, Bool.not_eq_true, ← Bool.not_eq_true'] at hnot
      rw [next, if_pos hnot] at h
      cases h
    have hnew : request ∉ (shard.state s).flights.map Prod.fst := fun hmem =>
      hguard.1 ((List.filter_sublist.map Prod.fst).subset hmem)
    have henabled : sys.enabled (shard.state s).store ((shard.state s).flights.map Prod.snd) call =
        true := by
      have hrestricted := hsys.enabled hguard.2
      rwa [List.filter_map] at hrestricted
    cases hread : sys.read s.store call with
    | mk store result =>
      obtain ⟨hholds, hmine, -⟩ := hsys.read hinv.store hread
      have hresult := hmine hown
      cases result with
      | none =>
        rw [next_ended hguard.1 hguard.2 hread] at h
        rw [← Option.some.inj h]
        exact next_ended hnew henabled hresult
      | some flight =>
        have hholds : shard.holds flight = true := (hholds flight rfl).trans hown
        rw [next_took hguard.1 hguard.2 hread] at h
        rw [← Option.some.inj h, next_took hnew henabled hresult, Shard.state, Shard.state,
          List.filter_append]
        simp [hholds]
  | write request commits input =>
    obtain ⟨flight, hflight, hholds⟩ := Option.any_eq_true _ _ |>.mp hown
    have hwrite := @Sharded.write _ _ _ _ _ _ _ _ hsys s.store flight input hinv.store
      (hinv.flights _ (mem_of_flight hflight)) hholds
    have hpart := flight_state hkeys hflight hholds
    rw [next, hflight] at h
    rw [next, hpart]
    have hstore : (shard.state s).store = shard.rows s.store := rfl
    dsimp only at h ⊢
    rw [hstore, hwrite]
    cases commits with
    | false =>
      rw [← Option.some.inj h]
      exact congrArg some (congrArg (State.mk _) land_state)
    | true =>
      cases hresult : sys.write s.store flight input with
      | none =>
        rw [if_pos rfl, hresult] at h
        rw [← Option.some.inj h]
        exact congrArg some (congrArg (State.mk _) land_state)
      | some store =>
        rw [if_pos rfl, hresult] at h
        rw [← Option.some.inj h]
        exact congrArg some (congrArg (State.mk _) land_state)

/-- A step of another owner changes nothing in the part. -/
theorem Sharded.step_other (hsys : Sharded sys I J shard) (hinv : Inv I J D s)
    (hkeys : (s.flights.map Prod.fst).Nodup) (hother : shard.owns s a = false)
    (h : next sys s a = some s') : shard.state s' = shard.state s := by
  cases effect_of_next h with
  | ended _ hread =>
    obtain ⟨-, -, hrows⟩ := hsys.read hinv.store hread
    exact congrArg (State.mk · _) (hrows hother)
  | took _ hread =>
    obtain ⟨hholds, -, hrows⟩ := hsys.read hinv.store hread
    have hnot := (hholds _ rfl).trans hother
    rw [Shard.state, Shard.state, hrows hother, List.filter_append]
    simp [hnot]
  | failed hflight _ =>
    rw [Shard.owns, hflight] at hother
    exact congrArg (State.mk _) (land_other hkeys hflight hother)
  | wrote hflight hwrite =>
    rw [Shard.owns, hflight] at hother
    have hrows := hsys.others hinv.store (hinv.flights _ (mem_of_flight hflight)) hother hwrite
    rw [Shard.state, hrows, land_other hkeys hflight hother]
    rfl

/-- For every run: the part of the owner is a run of its own. -/
theorem Sharded.run (hsys : Sharded sys I J shard) (hkeeps : Keeps sys I J D)
    {tr : List (Transition (State σ φ) (Action ρ ω))} (hrun : Run (next sys) s tr s')
    (h₀ : Inv I J D s) (hkeys₀ : (s.flights.map Prod.fst).Nodup) :
    Run (next sys) (shard.state s) (shard.part tr) (shard.state s') := by
  have hboth : ∀ s a s', (Inv I J D s ∧ (s.flights.map Prod.fst).Nodup) → next sys s a = some s' →
      Inv I J D s' ∧ (s'.flights.map Prod.fst).Nodup :=
    fun _ _ _ h hnext => ⟨h.1.step hkeeps hnext, keys_of_next h.2 hnext⟩
  induction hrun with
  | nil => exact Run.nil
  | @snoc tr s₁ s₂ a hrun hnext ih =>
    obtain ⟨hinv, hkeys⟩ := (hrun.invariant hboth ⟨h₀, hkeys₀⟩).1
    have hsplit : shard.part (tr ++ [⟨s₁, a, s₂⟩]) =
        shard.part tr ++ shard.part [⟨s₁, a, s₂⟩] := by
      rw [Shard.part, List.filter_append, List.map_append]
      rfl
    cases howns : shard.owns s₁ a with
    | true =>
      have hlast : shard.part [⟨s₁, a, s₂⟩] = [⟨shard.state s₁, a, shard.state s₂⟩] := by
        simp [Shard.part, howns]
      rw [hsplit, hlast]
      exact ih.snoc (hsys.step_own hinv hkeys howns hnext)
    | false =>
      have hlast : shard.part [⟨s₁, a, s₂⟩] = [] := by simp [Shard.part, howns]
      rw [hsplit, hlast, List.append_nil, hsys.step_other hinv hkeys howns hnext]
      exact ih

/-! ## The rows of a table -/

namespace Shard

variable {α κ : Type*} [DecidableEq κ] {owner : α → κ} {asked : ρ → κ} {held : φ → κ} {k : κ}
  {p q : α → Bool} {f : α → α} {rows : List α} {r : α}

/-- A query whose condition names the owner finds what it finds among its rows. -/
theorem any_ofOwner (h : ∀ r, q r = true → owner r = k) :
    ((ofOwner owner asked held k).rows rows).any q = rows.any q := by
  rw [ofOwner, List.any_filter]
  congr 1
  funext r
  cases hq : q r with
  | true => rw [h r hq, decide_eq_true rfl, Bool.true_and]
  | false => rw [Bool.and_false]

theorem find_ofOwner (h : ∀ r, q r = true → owner r = k) :
    ((ofOwner owner asked held k).rows rows).find? q = rows.find? q := by
  rw [ofOwner, List.find?_filter]
  congr 1
  funext r
  cases hq : q r with
  | true => simp [h r hq]
  | false => simp

theorem all_ofOwner (h : ∀ r, owner r ≠ k → q r = true) :
    ((ofOwner owner asked held k).rows rows).all q = rows.all q := by
  rw [ofOwner, List.all_filter]
  congr 1
  funext r
  by_cases howner : owner r = k
  · simp [howner]
  · rw [h r howner, Bool.or_true]

/-- A new row of the owner is one of its rows. -/
theorem insert_ofOwner (h : owner r = k) :
    (ofOwner owner asked held k).rows (rows ++ [r]) =
      (ofOwner owner asked held k).rows rows ++ [r] := by
  simp [ofOwner, h]

theorem insert_ofOwner_of_ne (h : owner r ≠ k) :
    (ofOwner owner asked held k).rows (rows ++ [r]) = (ofOwner owner asked held k).rows rows := by
  simp [ofOwner, h]

/-- An update that changes no owner, among the rows of one. -/
theorem updateWhere_ofOwner (hf : ∀ r, owner (f r) = owner r) :
    (ofOwner owner asked held k).rows (Rows.updateWhere p f rows) =
      Rows.updateWhere p f ((ofOwner owner asked held k).rows rows) := by
  induction rows with
  | nil => rfl
  | cons r rows ih =>
    have hhead : owner (if p r then f r else r) = owner r := by
      split_ifs
      · exact hf r
      · rfl
    simp only [ofOwner, Rows.updateWhere, List.map_cons, List.filter_cons, hhead] at ih ⊢
    by_cases howner : owner r = k
    · simp [howner, ih]
    · simp [howner, ih]

/-- An update of rows of others leaves those of the owner as they are. -/
theorem updateWhere_ofOwner_of_ne (hp : ∀ r, p r = true → owner r ≠ k)
    (hf : ∀ r, owner (f r) = owner r) :
    (ofOwner owner asked held k).rows (Rows.updateWhere p f rows) =
      (ofOwner owner asked held k).rows rows := by
  rw [updateWhere_ofOwner hf]
  refine Rows.updateWhere_eq_self fun r hr => ?_
  by_contra hnot
  rw [Bool.not_eq_false] at hnot
  exact hp r hnot (of_decide_eq_true (List.mem_filter.mp hr).2)

end Shard

/-! ## Isolation -/

/-- From a state on, the part of the owner in every run is a run of its own, and every
    request of the owner is answered as on its rows alone. -/
structure Isolated {β : Type*} (sys : System σ ρ φ ω) (shard : Shard σ ρ φ) (s₀ : State σ φ)
    (answer : σ → ρ → β) : Prop where
  part : ∀ {tr s}, Run (next sys) s₀ tr s →
    Run (next sys) (shard.state s₀) (shard.part tr) (shard.state s)
  answer : ∀ {store call}, shard.asks call = true →
    answer (shard.rows store) call = answer store call

/-- A sharded system is isolated from a quiet state on. -/
theorem Sharded.isolated_of_keeps {β : Type*} {answer : σ → ρ → β} {store : σ}
    (hsys : Sharded sys I J shard) (hkeeps : Keeps sys I J D) (h₀ : I store)
    (hanswer : ∀ {store call}, shard.asks call = true →
      answer (shard.rows store) call = answer store call) :
    Isolated sys shard (State.quiet store) answer where
  part hrun := hsys.run hkeeps hrun (Inv.quiet h₀) List.nodup_nil
  answer := hanswer

end Flights

end KomiSaas.Lib
