import KomiSaas.Lib.Rows
import KomiSaas.Lib.Run

/-!
# Requests that read and then write

A system of requests over one store, each of two atomic steps: it reads the
store, and later writes what it made of it. Between the two it is in flight and
any other request may take its steps.

* `flightOf`, `landed`: the numbered operations in flight, which a system with steps
  of its own can use as well.
* `Effect`, `effect_of_next`: everything a step can do.
* `preparing`: the reading of a request that leaves the store as it is.
* `Inv`, `Inv.step`: an invariant of the store, one of each operation in flight
  with the store, and a relation between any two operations in flight.
* `Writes`, `writing`, `store_of_next`: the write that takes effect in a step.
* `Settles`, `Settles.run`: rows that no later step touches.
-/

namespace KomiSaas.Lib.Flights

/-! ## Numbered operations -/

section Numbered

variable {φ : Type*} {flights : List (ℕ × φ)} {request : ℕ} {flight : φ}

/-- The operation with a number, if it is in flight. -/
def flightOf (flights : List (ℕ × φ)) (request : ℕ) : Option φ :=
  (Rows.find Prod.fst request flights).map Prod.snd

/-- Take an operation out of flight. -/
def landed (flights : List (ℕ × φ)) (request : ℕ) : List (ℕ × φ) :=
  flights.filter (·.1 ≠ request)

theorem mem_of_flightOf (h : flightOf flights request = some flight) :
    (request, flight) ∈ flights := by
  obtain ⟨⟨n, f⟩, hfind, rfl⟩ := Option.map_eq_some_iff.mp h
  obtain ⟨hmem, rfl⟩ := Rows.mem_of_find hfind
  exact hmem

theorem mem_landed {entry : ℕ × φ} (h : entry ∈ landed flights request) :
    entry ∈ flights ∧ entry.1 ≠ request := by
  obtain ⟨hmem, hne⟩ := List.mem_filter.mp h
  exact ⟨hmem, of_decide_eq_true hne⟩

end Numbered

/-! ## Two steps -/

/-- What a request reads (it may not be enabled, it may change the store at once,
    and it may end there), and what it writes, if the store takes it. -/
structure System (σ ρ φ ω : Type*) where
  enabled : σ → List φ → ρ → Bool
  read : σ → ρ → σ × Option φ
  write : σ → φ → ω → Option σ

/-- The store, and the numbered operations in flight. -/
structure State (σ φ : Type*) where
  store : σ
  flights : List (ℕ × φ)
  deriving DecidableEq

/-- One step. A write that does not commit is one that fails for its own reasons. -/
inductive Action (ρ ω : Type*) where
  | read (request : ℕ) (call : ρ)
  | write (request : ℕ) (commits : Bool) (input : ω)

variable {σ ρ φ ω : Type*}

namespace State

def flight (s : State σ φ) (request : ℕ) : Option φ := flightOf s.flights request

def land (s : State σ φ) (request : ℕ) : List (ℕ × φ) := landed s.flights request

/-- Nothing is in flight. -/
def quiet (store : σ) : State σ φ := ⟨store, []⟩

end State

/-- One step; `none` where it is not enabled. -/
def next (sys : System σ ρ φ ω) (s : State σ φ) : Action ρ ω → Option (State σ φ)
  | .read request call =>
    if request ∈ s.flights.map Prod.fst ∨ !sys.enabled s.store (s.flights.map Prod.snd) call then
      none
    else
      match sys.read s.store call with
      | (store, none) => some { s with store := store }
      | (store, some flight) => some ⟨store, s.flights ++ [(request, flight)]⟩
  | .write request commits input =>
    match s.flight request with
    | none => none
    | some flight =>
      match if commits then sys.write s.store flight input else none with
      | none => some { s with flights := s.land request }
      | some store => some ⟨store, s.land request⟩

/-- Everything a step can do, with what holds when it does it. -/
inductive Effect (sys : System σ ρ φ ω) (s : State σ φ) : Action ρ ω → State σ φ → Prop
  | ended {request call store} :
      sys.enabled s.store (s.flights.map Prod.snd) call = true →
      sys.read s.store call = (store, none) →
      Effect sys s (.read request call) { s with store := store }
  | took {request call store flight} :
      sys.enabled s.store (s.flights.map Prod.snd) call = true →
      sys.read s.store call = (store, some flight) →
      Effect sys s (.read request call) ⟨store, s.flights ++ [(request, flight)]⟩
  | failed {request commits input flight} : s.flight request = some flight →
      (commits = true → sys.write s.store flight input = none) →
      Effect sys s (.write request commits input) { s with flights := s.land request }
  | wrote {request input flight store} : s.flight request = some flight →
      sys.write s.store flight input = some store →
      Effect sys s (.write request true input) ⟨store, s.land request⟩

variable {sys : System σ ρ φ ω} {s s' : State σ φ} {a : Action ρ ω} {request : ℕ} {flight : φ}

theorem mem_of_flight (h : s.flight request = some flight) : (request, flight) ∈ s.flights :=
  mem_of_flightOf h

theorem mem_land {entry : ℕ × φ} (h : entry ∈ s.land request) :
    entry ∈ s.flights ∧ entry.1 ≠ request :=
  mem_landed h

theorem effect_of_next (h : next sys s a = some s') : Effect sys s a s' := by
  cases a with
  | read request call =>
    simp only [next] at h
    split_ifs at h with hguard
    rw [not_or, Bool.not_eq_true', Bool.not_eq_false] at hguard
    split at h
    · rename_i store hread
      rw [← Option.some.inj h]
      exact .ended hguard.2 hread
    · rename_i store flight hread
      rw [← Option.some.inj h]
      exact .took hguard.2 hread
  | write request commits input =>
    simp only [next] at h
    split at h
    · cases h
    · rename_i flight hflight
      split at h
      · rename_i hwrite
        rw [← Option.some.inj h]
        refine .failed hflight fun hcommits => ?_
        rwa [if_pos hcommits] at hwrite
      · rename_i store hwrite
        rw [← Option.some.inj h]
        split_ifs at hwrite with hcommits
        rw [hcommits]
        exact .wrote hflight hwrite

/-! ## Requests that only prepare a write -/

/-- What a request reads, where it only makes of the store what it is going to write. -/
def preparing {ε : Type*} (store : σ) : Except ε φ → σ × Option φ
  | .error _ => (store, none)
  | .ok flight => (store, some flight)

theorem prepared_of_preparing {ε : Type*} {store store' : σ} {prepared : Except ε φ}
    {result : Option φ} (h : preparing store prepared = (store', result)) :
    store' = store ∧ ∀ flight, result = some flight → prepared = .ok flight := by
  cases prepared with
  | error e =>
    obtain ⟨rfl, rfl⟩ := Prod.mk.inj h
    exact ⟨rfl, fun _ h => by cases h⟩
  | ok flight =>
    obtain ⟨rfl, rfl⟩ := Prod.mk.inj h
    exact ⟨rfl, fun _ h => congrArg Except.ok (Option.some.inj h)⟩

/-! ## Invariants -/

/-- `I` holds of the store, `J` of every operation in flight with the store, and
    `D` of any two of them, the earlier one first. -/
structure Inv (I : σ → Prop) (J : σ → φ → Prop) (D : φ → φ → Prop) (s : State σ φ) : Prop where
  store : I s.store
  flights : ∀ entry ∈ s.flights, J s.store entry.2
  apart : s.flights.Pairwise fun entry other => D entry.2 other.2

/-- What a system has to satisfy for them to be kept. -/
structure Keeps (sys : System σ ρ φ ω) (I : σ → Prop) (J : σ → φ → Prop) (D : φ → φ → Prop) :
    Prop where
  symm : ∀ {flight other}, D flight other → D other flight
  read : ∀ {store call store' result}, I store → sys.read store call = (store', result) →
    I store' ∧ ∀ flight, J store flight → J store' flight
  took : ∀ {store call store' flight} {flights : List φ}, I store →
    sys.enabled store flights call = true → sys.read store call = (store', some flight) →
    (∀ other ∈ flights, J store other) →
    J store' flight ∧ ∀ other ∈ flights, D other flight
  wrote : ∀ {store flight input store'}, I store → J store flight →
    sys.write store flight input = some store' →
    I store' ∧ ∀ other, J store other → D flight other → J store' other

variable {I : σ → Prop} {J : σ → φ → Prop} {D : φ → φ → Prop}

/-- Any two operations in flight are related, in either order. -/
theorem Inv.related (hD : ∀ {flight other}, D flight other → D other flight) (h : Inv I J D s)
    {entry other : ℕ × φ} (hentry : entry ∈ s.flights) (hother : other ∈ s.flights)
    (hne : entry.1 ≠ other.1) : D entry.2 other.2 := by
  have : Std.Symm fun entry other : ℕ × φ => D entry.2 other.2 := ⟨fun _ _ => hD⟩
  exact h.apart.forall hentry hother fun he => hne (congrArg Prod.fst he)

theorem Inv.step (hkeeps : Keeps sys I J D) (h : Inv I J D s) (hnext : next sys s a = some s') :
    Inv I J D s' := by
  cases effect_of_next hnext with
  | ended _ hread =>
    obtain ⟨hstore, hflights⟩ := hkeeps.read h.store hread
    exact ⟨hstore, fun entry hentry => hflights _ (h.flights entry hentry), h.apart⟩
  | took henabled hread =>
    obtain ⟨hstore, hflights⟩ := hkeeps.read h.store hread
    have hall : ∀ other ∈ s.flights.map Prod.snd, J s.store other := by
      intro other hother
      obtain ⟨entry, hentry, rfl⟩ := List.mem_map.mp hother
      exact h.flights entry hentry
    obtain ⟨hnew, hapart⟩ := hkeeps.took h.store henabled hread hall
    refine ⟨hstore, ?_, ?_⟩
    · intro entry hentry
      rcases List.mem_append.mp hentry with hentry | hentry
      · exact hflights _ (h.flights entry hentry)
      · rw [List.mem_singleton.mp hentry]
        exact hnew
    · rw [List.pairwise_append]
      refine ⟨h.apart, List.pairwise_singleton _ _, ?_⟩
      intro entry hentry other hother
      rw [List.mem_singleton.mp hother]
      exact hapart _ (List.mem_map_of_mem hentry)
  | failed _ _ =>
    exact ⟨h.store, fun entry hentry => h.flights entry (mem_land hentry).1,
      h.apart.sublist List.filter_sublist⟩
  | wrote hflight hwrite =>
    have hmem := mem_of_flight hflight
    obtain ⟨hstore, hflights⟩ := hkeeps.wrote h.store (h.flights _ hmem) hwrite
    refine ⟨hstore, ?_, h.apart.sublist List.filter_sublist⟩
    intro entry hentry
    obtain ⟨hentry, hne⟩ := mem_land hentry
    exact hflights _ (h.flights entry hentry) (h.related hkeeps.symm hmem hentry hne.symm)

/-- Nothing but the store matters where nothing is in flight. -/
theorem Inv.quiet {store : σ} (h : I store) : Inv I J D (State.quiet store) :=
  ⟨h, fun _ hentry => absurd hentry List.not_mem_nil, List.Pairwise.nil⟩

/-- The transition is a write of this operation that takes effect. -/
def Writes (sys : System σ ρ φ ω) (t : Transition (State σ φ) (Action ρ ω)) (flight : φ) : Prop :=
  ∃ request input, t.action = .write request true input ∧ t.pre.flight request = some flight ∧
    sys.write t.pre.store flight input = some t.post.store

/-- The operation whose write takes effect in a step. -/
def writing (sys : System σ ρ φ ω) (s : State σ φ) : Action ρ ω → Option φ
  | .read .. => none
  | .write request commits input =>
    (s.flight request).filter fun flight => commits && (sys.write s.store flight input).isSome

theorem writing_eq_some_iff (hnext : next sys s a = some s') :
    writing sys s a = some flight ↔ Writes sys ⟨s, a, s'⟩ flight := by
  cases a with
  | read request call =>
    refine iff_of_false (fun h => by cases h) ?_
    rintro ⟨_, _, haction, -⟩
    cases haction
  | write request commits input =>
    rw [writing, Option.filter_eq_some_iff, Bool.and_eq_true]
    constructor
    · rintro ⟨hflight, rfl, hwrite⟩
      obtain ⟨store, hwrite⟩ := Option.isSome_iff_exists.mp hwrite
      refine ⟨request, input, rfl, hflight, hwrite.trans ?_⟩
      simp only [next, hflight, if_true, hwrite, Option.some.injEq] at hnext
      rw [← hnext]
    · rintro ⟨_, _, haction, hflight, hwrite⟩
      cases haction
      exact ⟨hflight, rfl, Option.isSome_iff_exists.mpr ⟨_, hwrite⟩⟩

theorem mem_of_writing (h : writing sys s a = some flight) :
    ∃ request, (request, flight) ∈ s.flights := by
  cases a with
  | read request call => cases h
  | write request commits input =>
    rw [writing, Option.filter_eq_some_iff] at h
    exact ⟨request, mem_of_flight h.1⟩

/-- A step changes the store by the write that takes effect in it, or by reading. -/
theorem store_of_next (hnext : next sys s a = some s') :
    match writing sys s a with
    | some flight => ∃ input, sys.write s.store flight input = some s'.store
    | none => s'.store = s.store ∨ ∃ call result, sys.read s.store call = (s'.store, result) := by
  cases hwriting : writing sys s a with
  | some flight =>
    obtain ⟨request, input, -, -, hwrite⟩ := (writing_eq_some_iff hnext).mp hwriting
    exact ⟨input, hwrite⟩
  | none =>
    cases effect_of_next hnext with
    | ended _ hread => exact .inr ⟨_, _, hread⟩
    | took _ hread => exact .inr ⟨_, _, hread⟩
    | failed _ _ => exact .inl rfl
    | wrote hflight hwrite =>
      have hsome := (writing_eq_some_iff hnext).mpr ⟨_, _, rfl, hflight, hwrite⟩
      cases hwriting.symm.trans hsome

/-! ## Rows that nothing touches -/

/-- No request touches a row once it is marked. `row` reads the rows of a store. -/
structure Settles {κ β : Type*} (sys : System σ ρ φ ω) (row : σ → κ → Option β)
    (marked : β → Prop) : Prop where
  read : ∀ {store store' call result k r}, sys.read store call = (store', result) →
    row store k = some r → marked r → row store' k = some r
  write : ∀ {store store' flight input k r}, sys.write store flight input = some store' →
    row store k = some r → marked r → row store' k = some r

/-- A marked row is in every later state what it is now. -/
theorem Settles.run {κ β : Type*} {row : σ → κ → Option β} {marked : β → Prop} {k : κ} {r : β}
    {tr : List (Transition (State σ φ) (Action ρ ω))} (hsettles : Settles sys row marked)
    (hrun : Run (next sys) s tr s') (h : row s.store k = some r) (hmarked : marked r) :
    ∀ t ∈ tr, row t.post.store k = some r := by
  have hstep : ∀ (s : State σ φ) (a : Action ρ ω) (s' : State σ φ), row s.store k = some r →
      next sys s a = some s' → row s'.store k = some r := by
    intro s a s' h hnext
    have hstore := store_of_next hnext
    split at hstore
    · obtain ⟨input, hwrite⟩ := hstore
      exact hsettles.write hwrite h hmarked
    · rcases hstore with hsame | ⟨call, result, hread⟩
      · rw [hsame]
        exact h
      · exact hsettles.read hread h hmarked
  exact fun t ht => ((hrun.invariant hstep h).2 t ht).2

end KomiSaas.Lib.Flights
