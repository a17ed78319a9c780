import KomiSaas.Lib.Flights

/-!
# Writes that are refused

A request checks in what it reads that its write will be accepted, and a
constraint of the store checks it again when the write comes. Where the first
check is complete (`Completes`), a write is refused only to a request that was
overtaken: some other write took effect since it read (`overtaken_of_refused`).

There may be writes that the store never takes, whatever is in it. Both are of the
others, `fit`.
-/

namespace KomiSaas.Lib.Flights

variable {σ ρ φ ω : Type*} {sys : System σ ρ φ ω} {s s' : State σ φ}
  {tr : List (Transition (State σ φ) (Action ρ ω))} {I : σ → Prop} {J : σ → φ → Prop}
  {D : φ → φ → Prop} {fit : Set φ}

/-- Reading changes nothing, and a request takes off only with a write that the
    store would accept, if it is one that fits. -/
structure Completes (sys : System σ ρ φ ω) (I : σ → Prop) (fit : Set φ) : Prop where
  pure : ∀ {store call store' result}, sys.read store call = (store', result) → store' = store
  accepts : ∀ {store flights call flight}, I store → sys.enabled store flights call = true →
    sys.read store call = (store, some flight) → flight ∈ fit →
    ∀ input, (sys.write store flight input).isSome = true

/-- A write that fits is refused only where another one took effect since the request
    read. -/
def RefusedOnlyOvertaken (sys : System σ ρ φ ω) (fit : Set φ)
    (tr : List (Transition (State σ φ) (Action ρ ω))) : Prop :=
  ∀ tr₁ t tr₂ u tr₃, tr = tr₁ ++ t :: (tr₂ ++ u :: tr₃) →
    ∀ request call flight input, flight ∈ fit → t.action = .read request call →
      t.post.flight request = some flight → u.action = .write request true input →
      u.pre.flight request = some flight → sys.write u.pre.store flight input = none →
      ∃ v ∈ tr₂, (writing sys v.pre v.action).isSome = true

/-- Without a write the store stays as it is. -/
theorem store_eq_of_no_write (hcompletes : Completes sys I fit) (hrun : Run (next sys) s tr s')
    (h : ∀ v ∈ tr, writing sys v.pre v.action = none) : s'.store = s.store := by
  induction hrun with
  | nil => rfl
  | @snoc tr s₁ s₂ a _ hnext ih =>
    rw [← ih fun v hv => h v (List.mem_append_left _ hv)]
    have hstore := store_of_next hnext
    rw [h ⟨s₁, a, s₂⟩ (List.mem_append_right _ (List.mem_singleton_self _))] at hstore
    rcases hstore with hsame | ⟨call, result, hread⟩
    · exact hsame
    · exact hcompletes.pure hread

/-- A read that takes off does it with what it read. -/
theorem read_of_took {request : ℕ} {call : ρ} {flight : φ} (hcompletes : Completes sys I fit)
    (hnext : next sys s (.read request call) = some s')
    (hflight : s'.flight request = some flight) :
    s'.store = s.store ∧ sys.enabled s.store (s.flights.map Prod.snd) call = true ∧
      sys.read s.store call = (s.store, some flight) := by
  have hnew : request ∉ s.flights.map Prod.fst := by
    intro hmem
    simp [next, hmem] at hnext
  cases effect_of_next hnext with
  | ended _ hread =>
    have hmem := mem_of_flight hflight
    exact absurd (List.mem_map_of_mem hmem) hnew
  | @took _ _ store other henabled hread =>
    obtain rfl := hcompletes.pure hread
    have hlast : State.flight ⟨s.store, s.flights ++ [(request, other)]⟩ request = some other := by
      rw [State.flight, flightOf, Rows.find_append, Rows.find_eq_none_iff.mpr hnew]
      simp [Rows.find]
    obtain rfl := Option.some.inj (hlast.symm.trans hflight)
    exact ⟨rfl, henabled, hread⟩

/-- For every run: a write is refused only to a request that was overtaken. -/
theorem overtaken_of_refused (hkeeps : Keeps sys I J D) (hcompletes : Completes sys I fit)
    (hrun : Run (next sys) s tr s') (h₀ : Inv I J D s) : RefusedOnlyOvertaken sys fit tr := by
  rintro tr₁ t tr₂ u tr₃ rfl request call flight input hfit haction hflight - - hrefused
  by_contra hnone
  have hquiet : ∀ v ∈ tr₂, writing sys v.pre v.action = none := by
    intro v hv
    by_contra h
    exact hnone ⟨v, hv, Option.isSome_iff_ne_none.mpr h⟩
  obtain ⟨hbefore, hnext, hrest⟩ := hrun.of_append_cons
  obtain ⟨hbetween, -, -⟩ := hrest.of_append_cons
  have hinv := (hbefore.invariant (fun _ _ _ h hnext => h.step hkeeps hnext) h₀).1
  rw [haction] at hnext
  obtain ⟨hsame, henabled, hread⟩ := read_of_took hcompletes hnext hflight
  have haccepts := hcompletes.accepts hinv.store henabled hread hfit input
  rw [← hsame, ← store_eq_of_no_write hcompletes hbetween hquiet, hrefused] at haccepts
  cases haccepts

end KomiSaas.Lib.Flights
