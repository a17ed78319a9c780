import KomiSaas.Lib.Flights

/-!
# Requests one after another

`InTurn`: a request reads only where none is in flight. What a use case checks
holds then until it writes, so that a check is as good as a constraint of the
store: `store_of_inTurn` is the rule for an invariant of the store, and
`run_request` is the run of one request.
-/

namespace KomiSaas.Lib.Flights

variable {σ ρ φ ω : Type*} {sys : System σ ρ φ ω} {s s' : State σ φ}
  {tr : List (Transition (State σ φ) (Action ρ ω))}

/-- A request that reads is the only one in flight. -/
def InTurn (tr : List (Transition (State σ φ) (Action ρ ω))) : Prop :=
  ∀ t ∈ tr, ∀ request call, t.action = .read request call → t.pre.flights = []

/-- At most one request is in flight, and it has `F`. -/
structure Alone (I : σ → Prop) (F : σ → φ → Prop) (s : State σ φ) : Prop where
  store : I s.store
  flights : s.flights = [] ∨ ∃ entry, s.flights = [entry] ∧ F s.store entry.2

/-- What reading gives a request, with nothing in flight, and what a write with it
    keeps, hold all along a run of requests in turn. -/
theorem alone_of_inTurn {I : σ → Prop} {F : σ → φ → Prop}
    (hread : ∀ {store call store' result}, I store → sys.enabled store [] call = true →
      sys.read store call = (store', result) →
      I store' ∧ ∀ flight, result = some flight → F store' flight)
    (hwrite : ∀ {store flight input store'}, I store → F store flight →
      sys.write store flight input = some store' → I store')
    (hrun : Run (next sys) s tr s') (h₀ : Alone I F s) (hturn : InTurn tr) : Alone I F s' := by
  have hstep : ∀ s a s', Alone I F s → (∀ request call, a = .read request call → s.flights = []) →
      next sys s a = some s' → Alone I F s' := by
    intro s a s' h hguard hnext
    obtain ⟨hstore, hflights⟩ := h
    cases effect_of_next hnext with
    | ended henabled hresult =>
      have hquiet := hguard _ _ rfl
      rw [hquiet] at henabled
      exact ⟨(hread hstore henabled hresult).1, .inl hquiet⟩
    | @took request _ _ flight henabled hresult =>
      have hquiet := hguard _ _ rfl
      rw [hquiet] at henabled
      obtain ⟨hstore, hflight⟩ := hread hstore henabled hresult
      refine ⟨hstore, .inr ⟨(request, flight), ?_, hflight flight rfl⟩⟩
      rw [hquiet]
      rfl
    | failed hflight _ =>
      refine ⟨hstore, .inl ?_⟩
      rcases hflights with hnone | ⟨entry, hone, -⟩
      · show s.flights.filter _ = []
        rw [hnone]
        rfl
      · have hmem := mem_of_flight hflight
        rw [hone, List.mem_singleton] at hmem
        simp [State.land, landed, hone, ← hmem]
    | wrote hflight hresult =>
      have hmem := mem_of_flight hflight
      rcases hflights with hnone | ⟨entry, hone, hF⟩
      · rw [hnone] at hmem
        cases hmem
      · rw [hone, List.mem_singleton] at hmem
        rw [← hmem] at hF
        refine ⟨hwrite hstore hF hresult, .inl ?_⟩
        simp [State.land, landed, hone, ← hmem]
  exact (hrun.invariant_of_guard hstep h₀ hturn).1

/-- One request that reads, and writes at once. -/
theorem run_request {store : σ} {store' store'' : σ} {call : ρ} {flight : φ} {input : ω}
    (henabled : sys.enabled store [] call = true)
    (hread : sys.read store call = (store', some flight))
    (hwrite : sys.write store' flight input = some store'') :
    ∃ tr, Run (next sys) (State.quiet store) tr (State.quiet store'') ∧ InTurn tr := by
  have htook : next sys (State.quiet store) (.read 0 call) = some ⟨store', [(0, flight)]⟩ := by
    simp [next, State.quiet, henabled, hread]
  have hwrote : next sys ⟨store', [(0, flight)]⟩ (.write 0 true input) =
      some (State.quiet store'') := by
    simp [next, State.quiet, State.flight, flightOf, State.land, landed, Rows.find, hwrite]
  refine ⟨_, (Run.snoc Run.nil htook).snoc hwrote, fun t ht request call haction => ?_⟩
  simp only [List.nil_append, List.cons_append, List.mem_cons, List.not_mem_nil, or_false] at ht
  rcases ht with rfl | rfl
  · rfl
  · cases haction

theorem InTurn.append {tr' : List (Transition (State σ φ) (Action ρ ω))} (h : InTurn tr)
    (h' : InTurn tr') : InTurn (tr ++ tr') := by
  intro t ht
  rcases List.mem_append.mp ht with ht | ht
  · exact h t ht
  · exact h' t ht

end KomiSaas.Lib.Flights
