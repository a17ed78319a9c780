import KomiSaas.Categories.Category
import KomiSaas.Lib.Overtaken
import KomiSaas.Lib.Writes

/-!
# Interleaved requests on the categories

`CreateCategory` and `UpdateCategory` as two atomic steps: what is read, with what
is then done in memory, and the write.

`existsByName` is asked in the first step and the unique index in the second. In
every interleaving the names of a business stay apart up to case, the identity of
a category never changes, and the index refuses only a request during which
another one wrote (`category_names_unique`).
-/

namespace KomiSaas.Categories.Interleaving

open KomiSaas.Lib KomiSaas.Lib.Flights KomiSaas.Shared

/-- A request with what it finds around it. -/
structure Request where
  call : CategoryCall
  operation : Operation

/-- An operation between its two steps, with the category to write. -/
structure Flight where
  operation : Operation
  category : ProductCategory
  deriving DecidableEq

/-- The requests. The generated id of a call is in use nowhere. -/
def categories (env : CategoryEnv) : System (List CategoryRow) Request Flight Instant where
  enabled store flights request :=
    request.call.categoryId ∉ store.map (·.id) &&
      request.call.categoryId ∉ flights.map (·.category.id)
  read store request :=
    match request.operation.prepare env request.call store with
    | .error _ => (store, none)
    | .ok category => (store, some ⟨request.operation, category⟩)
  write store flight now := flight.operation.write env store flight.category now

abbrev CategoryState := State (List CategoryRow) Flight

abbrev CategoryAction := Action Request Instant

abbrev CategoryTransition := Transition CategoryState CategoryAction

variable {env : CategoryEnv} {store store' : List CategoryRow} {flight : Flight}
  {request : Request} {category : ProductCategory} {now : Instant}

/-! ## Invariants -/

/-- Two categories of a business have different names, whatever their case. -/
def NamesApart (env : CategoryEnv) (row other : CategoryRow) : Prop :=
  row.tenantId = other.tenantId → env.lower row.name ≠ env.lower other.name

/-- What holds of the table. -/
structure TableInv (env : CategoryEnv) (store : List CategoryRow) : Prop where
  ids : (store.map (·.id)).Nodup
  names : Rows.Apart (·.id) (NamesApart env) store
  trimmed : ∀ row ∈ store, trim row.name = row.name

/-- The columns that no operation changes. -/
def identity (row : CategoryRow) : Uuid × Uuid × Instant := (row.id, row.tenantId, row.createdAt)

/-- A new category has an id of its own; one that is updated is stored. -/
def FlightInv (store : List CategoryRow) (flight : Flight) : Prop :=
  match flight.operation with
  | .createCategory _ => flight.category.id ∉ store.map (·.id)
  | .updateCategory .. =>
    identity (ProductCategoryMapper.toEntity flight.category) ∈ store.map identity

/-- The operation stores a new category. -/
def creates (flight : Flight) : Bool :=
  match flight.operation with
  | .createCategory _ => true
  | .updateCategory .. => false

/-- A category that is being created is in no other operation. -/
def Apart (flight other : Flight) : Prop :=
  creates flight = true ∨ creates other = true → flight.category.id ≠ other.category.id

/-- What a request takes off with. -/
theorem prepared_of_read {result : Option Flight}
    (h : (categories env).read store request = (store', result)) :
    store' = store ∧ ∀ flight, result = some flight →
      flight.operation = request.operation ∧
        request.operation.prepare env request.call store = .ok flight.category := by
  simp only [categories] at h
  split at h
  · obtain ⟨rfl, rfl⟩ := Prod.mk.inj h
    exact ⟨rfl, fun _ h => by cases h⟩
  · rename_i category hprepare
    obtain ⟨rfl, rfl⟩ := Prod.mk.inj h
    refine ⟨rfl, fun flight hflight => ?_⟩
    obtain rfl := Option.some.inj hflight
    exact ⟨rfl, hprepare⟩

/-! ## Writing -/

theorem namesApart_of_nameFree {row : CategoryRow} (htenant : row.tenantId = category.tenantId)
    (hname : row.name = category.name.value)
    (h : ProductCategoryRepository.nameFree env store category = true) :
    ∀ other ∈ store, other.id ≠ category.id → NamesApart env other row := by
  intro other hother hid hsame
  have hfree := List.all_eq_true.mp h other hother
  simp only [Bool.or_eq_true, decide_eq_true_eq, ← htenant, ← hname] at hfree
  rcases hfree with (hid' | hne) | hne
  · exact absurd hid' hid
  · exact absurd hsame hne
  · exact hne

/-- The stored row of a category that is updated. -/
theorem exists_row (h : identity (ProductCategoryMapper.toEntity category) ∈ store.map identity) :
    ∃ old ∈ store, old.id = category.id ∧ old.tenantId = category.tenantId ∧
      old.createdAt = category.createdAt := by
  obtain ⟨old, hold, hidentity⟩ := List.mem_map.mp h
  obtain ⟨hid, hrest⟩ := Prod.mk.inj hidentity
  exact ⟨old, hold, hid, Prod.mk.inj hrest⟩

/-- A write puts one row, with a free name and the identity of the one it replaces. -/
theorem puts_of_write (hids : (store.map (·.id)).Nodup) (hinv : FlightInv store flight)
    (h : (categories env).write store flight now = some store') :
    ∃ row, row.id = flight.category.id ∧ trim row.name = row.name ∧
      Rows.Puts (·.id) store store' row ∧
      (∀ other ∈ store, other.id ≠ row.id → NamesApart env other row) ∧
      ∀ old ∈ store, old.id = row.id → identity old = identity row := by
  obtain ⟨operation, category⟩ := flight
  cases operation with
  | createCategory params =>
    have h : ProductCategoryRepository.save env store category = some store' := h
    unfold ProductCategoryRepository.save at h
    split_ifs at h with hguard
    rw [Bool.not_eq_true, Bool.or_eq_false_iff, Bool.not_eq_false'] at hguard
    obtain rfl := Option.some.inj h
    refine ⟨ProductCategoryMapper.toEntity category, rfl, category.name.trimmed,
      Rows.puts_insert hids hinv, namesApart_of_nameFree rfl rfl hguard.2, fun old hold hid => ?_⟩
    exact absurd (List.mem_map.mpr ⟨old, hold, hid⟩) hinv
  | updateCategory id params =>
    have h : ProductCategoryRepository.update env store category now = some store' := h
    obtain ⟨old, hold, hid, htenant, -⟩ := exists_row hinv
    have hunique : ∀ r ∈ store, r.id = category.id → r = old := by
      intro r hr heq
      exact List.inj_on_of_nodup_map hids hr hold (heq.trans hid.symm)
    have hmatched : ∀ r ∈ store, ProductCategoryRepository.matched category r = true ↔
        r.id = old.id := by
      intro r hr
      rw [ProductCategoryRepository.matched, Bool.and_eq_true, decide_eq_true_eq,
        decide_eq_true_eq, hid]
      refine ⟨And.left, fun heq => ⟨heq, ?_⟩⟩
      rw [hunique r hr heq, htenant]
    unfold ProductCategoryRepository.update at h
    split_ifs at h with hguard
    obtain rfl := Option.some.inj h
    have hany : store.any (ProductCategoryRepository.matched category) = true :=
      List.any_eq_true.mpr ⟨old, hold, (hmatched old hold).mpr rfl⟩
    rw [hany, Bool.true_and, Bool.not_eq_true, Bool.not_eq_false'] at hguard
    have hnames := @namesApart_of_nameFree env store category
      (ProductCategoryRepository.updated category now old) htenant rfl hguard
    refine ⟨ProductCategoryRepository.updated category now old, hid, category.name.trimmed,
      Rows.puts_updateWhere hids hold hmatched rfl, fun other hother hne => ?_, fun r hr heq => ?_⟩
    · exact hnames other hother fun heq => hne (heq.trans hid.symm)
    · rw [hunique r hr (heq.trans hid)]
      rfl

theorem namesApart_symm (row other : CategoryRow) (h : NamesApart env row other) :
    NamesApart env other row :=
  fun htenant heq => h htenant.symm heq.symm

/-- What a request has in hand when it takes off. -/
theorem flightInv_of_prepared (hfresh : request.call.categoryId ∉ store.map (·.id))
    (hoperation : flight.operation = request.operation)
    (h : request.operation.prepare env request.call store = .ok flight.category) :
    FlightInv store flight := by
  rw [FlightInv, hoperation]
  obtain ⟨call, operation⟩ := request
  cases operation with
  | createCategory params =>
    have hid : flight.category.id = call.categoryId := (CreateCategory.prepare_ok h).1
    rw [hid]
    exact hfresh
  | updateCategory id params =>
    obtain ⟨row, hrow, -, -, hid, htenant, hcreated, -⟩ := UpdateCategory.prepare_ok h
    have hidentity : identity row = identity (ProductCategoryMapper.toEntity flight.category) := by
      rw [identity, ← hid, ← htenant, ← hcreated]
      rfl
    exact List.mem_map.mpr ⟨row, hrow, hidentity⟩

/-- The id of a flight, against those of the stored categories. -/
theorem creates_iff (hinv : FlightInv store flight) :
    creates flight = true ↔ flight.category.id ∉ store.map (·.id) := by
  obtain ⟨operation, category⟩ := flight
  cases operation with
  | createCategory params => exact iff_of_true rfl hinv
  | updateCategory id params =>
    obtain ⟨old, hold, hid, -⟩ := exists_row hinv
    exact iff_of_false Bool.false_ne_true fun hnot => hnot (List.mem_map.mpr ⟨old, hold, hid⟩)

/-- A new category has the generated id of its call. -/
theorem id_of_creates (hoperation : flight.operation = request.operation)
    (h : request.operation.prepare env request.call store = .ok flight.category)
    (hcreates : creates flight = true) : flight.category.id = request.call.categoryId := by
  rw [creates, hoperation] at hcreates
  obtain ⟨call, operation⟩ := request
  cases operation with
  | createCategory params => exact (CreateCategory.prepare_ok h).1
  | updateCategory id params => cases hcreates

theorem keeps (env : CategoryEnv) : Keeps (categories env) (TableInv env) FlightInv Apart where
  symm h hcreates := (h hcreates.symm).symm
  read htable hread := by
    rw [(prepared_of_read hread).1]
    exact ⟨htable, fun _ h => h⟩
  took htable henabled hread hflights := by
    obtain ⟨rfl, hprepared⟩ := prepared_of_read hread
    obtain ⟨hoperation, hprepare⟩ := hprepared _ rfl
    simp only [categories, Bool.and_eq_true, decide_eq_true_eq] at henabled
    obtain ⟨hfresh, hfresh'⟩ := henabled
    have hflight := flightInv_of_prepared hfresh hoperation hprepare
    refine ⟨hflight, fun other hother hcreates heq => ?_⟩
    have hupdates : ¬ creates _ = true := fun hcreates =>
      hfresh' (List.mem_map.mpr ⟨other, hother, heq.trans (id_of_creates hoperation hprepare
        hcreates)⟩)
    rcases hcreates with hcreates | hcreates
    · exact hupdates ((creates_iff hflight).mpr (heq ▸ (creates_iff (hflights other hother)).mp
        hcreates))
    · exact hupdates hcreates
  wrote htable hinv hwrite := by
    obtain ⟨row, hid, htrimmed, hputs, hnames, hidentity⟩ := puts_of_write htable.ids hinv hwrite
    refine ⟨⟨hputs.keys, hputs.apart namesApart_symm htable.names hnames,
      hputs.forall_mem htable.trimmed htrimmed⟩, fun other hother hapart => ?_⟩
    obtain ⟨operation, category⟩ := other
    cases operation with
    | createCategory params =>
      refine hputs.notMem hother ?_
      rw [hid]
      exact hapart (.inr rfl)
    | updateCategory id params => exact hputs.map_subset hidentity hother

/-! ## Refusals -/

/-- The check of the name that a request made is that of the unique index. -/
theorem nameFree_of_prepared (htable : TableInv env store)
    (h : request.operation.prepare env request.call store = .ok category) :
    ProductCategoryRepository.nameFree env store category = true := by
  have hfree : ∀ excluded : Option Uuid, (∀ id ∈ excluded, id = category.id) →
      ProductCategoryRepository.existsByName env store category.name.value category.tenantId
        excluded = false → ProductCategoryRepository.nameFree env store category = true := by
    intro excluded hid hexists
    rw [ProductCategoryRepository.nameFree, List.all_eq_true]
    rw [ProductCategoryRepository.existsByName, List.any_eq_false] at hexists
    intro row hrow
    have hnot := hexists row hrow
    by_contra hused
    simp only [Bool.or_eq_true, decide_eq_true_eq, not_or, not_not] at hused
    obtain ⟨⟨hne, htenant⟩, hlower⟩ := hused
    refine hnot ?_
    rw [Bool.and_eq_true, Bool.and_eq_true, decide_eq_true_eq, decide_eq_true_eq]
    refine ⟨⟨htenant, hlower⟩, ?_⟩
    cases hexcluded : excluded.filter (· ≠ []) with
    | none => rfl
    | some id =>
      rw [hid id (Option.filter_eq_some_iff.mp hexcluded).1]
      exact decide_eq_true hne
  obtain ⟨call, operation⟩ := request
  cases operation with
  | createCategory params =>
    obtain ⟨-, htenant, hexists⟩ := CreateCategory.prepare_ok h
    rw [← htenant] at hexists
    exact hfree none (fun _ h => by cases h) hexists
  | updateCategory id params =>
    obtain ⟨row, hrow, hid, -, hid', htenant, -, hname | hexists⟩ :=
      UpdateCategory.prepare_ok h
    · rw [ProductCategoryRepository.nameFree, List.all_eq_true]
      intro other hother
      rw [htable.trimmed row hrow] at hname
      by_contra hused
      simp only [Bool.or_eq_true, decide_eq_true_eq, not_or, not_not, hid', htenant, hname]
        at hused
      obtain ⟨⟨hne, htenant'⟩, hlower⟩ := hused
      exact htable.names other hother row hrow hne htenant' hlower
    · rw [← htenant] at hexists
      refine hfree (some id) (fun sent hsent => ?_) hexists
      rw [← Option.some.inj hsent, hid', hid]

theorem completes (env : CategoryEnv) : Completes (categories env) (TableInv env) Set.univ where
  pure hread := (prepared_of_read hread).1
  accepts {_ _ request _} htable henabled hread _ now := by
    obtain ⟨-, hprepared⟩ := prepared_of_read hread
    obtain ⟨hoperation, hprepare⟩ := hprepared _ rfl
    have hfree := nameFree_of_prepared htable hprepare
    simp only [categories, Bool.and_eq_true, decide_eq_true_eq] at henabled
    show (Operation.write env _ _ _ _).isSome = true
    rw [hoperation]
    obtain ⟨call, operation⟩ := request
    cases operation with
    | createCategory params =>
      have hid := (CreateCategory.prepare_ok hprepare).1
      rw [← hid] at henabled
      simp [Operation.write, ProductCategoryRepository.save, henabled.1, hfree]
    | updateCategory id params =>
      simp [Operation.write, ProductCategoryRepository.update, hfree]

/-! ## Runs -/

/-- No step changes the identity of a category. -/
theorem identity_of_next {s s' : CategoryState} {a : CategoryAction}
    (hinv : Inv (TableInv env) FlightInv Apart s) (hnext : next (categories env) s a = some s') :
    s.store.map identity ⊆ s'.store.map identity := by
  cases effect_of_next hnext with
  | ended _ hread =>
    rw [(prepared_of_read hread).1]
    exact List.Subset.refl _
  | took _ hread =>
    rw [(prepared_of_read hread).1]
    exact List.Subset.refl _
  | failed _ _ => exact List.Subset.refl _
  | wrote hflight hwrite =>
    obtain ⟨row, -, -, hputs, -, hidentity⟩ :=
      puts_of_write hinv.store.ids (hinv.flights _ (mem_of_flight hflight)) hwrite
    exact hputs.map_subset hidentity

/-- No category yet. -/
theorem tableInv_nil : TableInv env [] :=
  ⟨List.nodup_nil, fun _ h => absurd h List.not_mem_nil, fun _ h => absurd h List.not_mem_nil⟩

/-- For every interleaving of any number of requests, from an empty table: no two
    categories of a business have one name up to case, no category changes its id,
    its business or its date, and the unique index refuses no request but one that
    another write overtook. -/
theorem category_names_unique {tr : List CategoryTransition} {s : CategoryState}
    (hrun : Run (next (categories env)) (State.quiet []) tr s) :
    Rows.Apart (·.id) (NamesApart env) s.store ∧
      (∀ t ∈ tr, t.pre.store.map identity ⊆ t.post.store.map identity) ∧
      RefusedOnlyOvertaken (categories env) Set.univ tr := by
  have hinit : Inv (TableInv env) FlightInv Apart (State.quiet []) := Inv.quiet tableInv_nil
  obtain ⟨hinv, hall⟩ := hrun.invariant (fun _ _ _ h hnext => h.step (keeps env) hnext) hinit
  refine ⟨hinv.store.names, fun t ht => ?_, overtaken_of_refused (keeps env) (completes env) hrun
    hinit⟩
  exact identity_of_next (hall t ht).1 (hrun.next_of_mem ht)

/-- Lower case of plain texts. -/
def sampleEnv : CategoryEnv where
  lower := toLowerCase
  date _ := js "2026-01-01"

/-- A request for a new category. -/
def sampleCreate (categoryId : Uuid) (name : JsString) : Request where
  call :=
    { now := 1000
      categoryId := categoryId
      tenantExists := fun _ => true }
  operation :=
    .createCategory
      { tenantId := js "10000000-0000-4000-8000-000000000001"
        name := name
        description := none }

/-- Two requests read before either writes, with names that differ in their case. -/
def race : List CategoryAction :=
  [.read 1 (sampleCreate (js "20000000-0000-4000-8000-000000000001") (js "Bebidas")),
    .read 2 (sampleCreate (js "20000000-0000-4000-8000-000000000002") (js " BEBIDAS ")),
    .write 1 true 2000, .write 2 true 3000]

/-- The index refuses the second one. -/
theorem category_names_unique_race :
    ∃ tr s, exec (next (categories sampleEnv)) (State.quiet []) race = some (tr, s) ∧
      s.store.map (·.name) = [js "Bebidas"] ∧
      Rows.Apart (·.id) (NamesApart sampleEnv) s.store ∧
      (∀ t ∈ tr, t.pre.store.map identity ⊆ t.post.store.map identity) ∧
      RefusedOnlyOvertaken (categories sampleEnv) Set.univ tr := by
  obtain ⟨tr, s, hexec, hnames⟩ :
      ∃ tr s, exec (next (categories sampleEnv)) (State.quiet []) race = some (tr, s) ∧
        s.store.map (·.name) = [js "Bebidas"] := exists_of_any_exec (by decide +kernel)
  exact ⟨tr, s, hexec, hnames, category_names_unique (run_of_exec hexec)⟩

end KomiSaas.Categories.Interleaving
