import KomiSaas.Products.UseCases
import KomiSaas.Lib.Flights

/-!
# Interleaved requests on the products

`CreateProduct`, `UpdateProduct` and `DeleteProduct` as two atomic steps: what
is read, with what is then done in memory, and the write of the product.

Every write stores the price, the cost and the margin of one checked product
together, so the three columns agree in every interleaving
(`stored_pricing_consistent`).

`update` writes the row with the id, whatever its status is by then. A product
whose deletion completed stays deleted exactly as long as no `UpdateProduct`
that loaded it before writes after (`stays_deleted_iff`).
-/

namespace KomiSaas.Products.Interleaving

open KomiSaas.Lib KomiSaas.Lib.Flights KomiSaas.Shared

/-- A request with what it finds around it. -/
structure Request where
  call : ProductCall
  operation : Operation

/-- An operation between its two steps, with the product to write. -/
structure Flight where
  operation : Operation
  product : Product
  deriving DecidableEq

/-- The requests. The generated id of a call is in use nowhere. -/
def products (env : ProductEnv) : System ProductStore Request Flight Instant where
  enabled store flights request :=
    request.call.productId ∉ store.products.map (·.id) &&
      request.call.productId ∉ flights.map (·.product.id)
  read store request :=
    match request.operation.prepare env request.call store with
    | (.error _, store) => (store, none)
    | (.ok product, store) => (store, some ⟨request.operation, product⟩)
  write store flight now := flight.operation.write store flight.product now

abbrev ProductState := State ProductStore Flight

abbrev ProductAction := Action Request Instant

abbrev ProductTransition := Transition ProductState ProductAction

/-- No product yet. -/
def emptyStore : ProductStore := ⟨[], 1⟩

variable {env : ProductEnv} {store store' : ProductStore} {flight : Flight} {request : Request}
  {now : Instant}

/-- What a request takes off with, and that its reading changes no row. -/
theorem prepared_of_read {result : Option Flight}
    (h : (products env).read store request = (store', result)) :
    store'.products = store.products ∧ ∀ flight, result = some flight →
      flight.operation = request.operation ∧
        Prepared env request.call store flight.operation flight.product := by
  have h : (match request.operation.prepare env request.call store with
    | (.error _, store) => (store, none)
    | (.ok product, store) => (store, some (⟨request.operation, product⟩ : Flight))) =
      (store', result) := h
  split at h
  · rename_i hprepare
    obtain ⟨rfl, rfl⟩ := Prod.mk.inj h
    exact ⟨(prepared_of_prepare hprepare).1, fun _ h => by cases h⟩
  · rename_i product prepared hprepare
    obtain ⟨rfl, rfl⟩ := Prod.mk.inj h
    obtain ⟨hsame, hprepared⟩ := prepared_of_prepare hprepare
    refine ⟨hsame, fun flight hflight => ?_⟩
    obtain rfl := Option.some.inj hflight
    exact ⟨rfl, hprepared product rfl⟩

/-- The rows after a write: those of before, but one with the values of the
    product. -/
theorem mem_of_write {row : ProductRow}
    (h : (products env).write store flight now = some store') (hrow : row ∈ store'.products) :
    row ∈ store.products ∨ ∃ createdAt,
      row = ProductMapper.toEntity flight.product createdAt now := by
  obtain ⟨operation, product⟩ := flight
  have hupdate : ∀ {store'}, ProductRepository.update store product now = some store' →
      row ∈ store'.products → row ∈ store.products ∨ ∃ createdAt,
        row = ProductMapper.toEntity product createdAt now := by
    intro store' h hrow
    rw [ProductRepository.update_eq_some h] at hrow
    rcases Rows.mem_updateWhere hrow with ⟨hold, -⟩ | ⟨old, -, hid, rfl⟩
    · exact .inl hold
    · refine .inr ⟨old.createdAt, ?_⟩
      rw [ProductRepository.updated, of_decide_eq_true hid]
      rfl
  cases operation with
  | createProduct params =>
    have h : ProductRepository.save store product now = some store' := h
    rw [ProductRepository.save_eq_some h] at hrow
    exact (Rows.mem_upsert hrow).symm.imp_right fun hnew => ⟨now, hnew⟩
  | updateProduct params => exact hupdate h hrow
  | deleteProduct params => exact hupdate h hrow

/-! ## The stored pricing -/

/-- The price of a row is positive and leaves its margin over its cost. -/
def Priced (env : ProductEnv) (row : ProductRow) : Prop :=
  row.basePrice ≠ 0 ∧ row.profitMargin < 10000 ∧
    ProfitabilityCalculator.round
      (ProfitabilityCalculator.marginOf env.rounded (row.cost / 10 ^ 2) (row.basePrice / 10 ^ 2)) =
        row.profitMargin

/-- The product passes the check of the aggregate. -/
def Checked (env : ProductEnv) (product : Product) : Prop :=
  product.ensurePricingIsConsistent env.rounded env.decimal = .ok ()

theorem checked_iff {product : Product} {createdAt updatedAt : Instant} :
    Checked env product ↔ Priced env (ProductMapper.toEntity product createdAt updatedAt) :=
  Product.ensurePricingIsConsistent_ok_iff

/-- Every product that is written passed the check, or was read from such a row. -/
theorem checked_of_prepared {call : ProductCall} {operation : Operation} {product : Product}
    (hrows : ∀ row ∈ store.products, Priced env row)
    (h : Prepared env call store operation product) : Checked env product := by
  cases h with
  | created hpricing _ _ _ _ _ => exact hpricing
  | updated _ _ _ _ hpricing _ _ _ _ => exact hpricing
  | @deleted params row loaded _ hrow _ _ hread _ hproduct =>
    obtain ⟨hprice, hmargin, hround⟩ := hrows row hrow
    rw [← hread.basePrice, ← hread.cost, ← hread.profitMargin] at hround
    rw [← hread.basePrice] at hprice
    rw [← hread.profitMargin] at hmargin
    unfold Checked
    rw [Product.ensurePricingIsConsistent_ok_iff, hproduct]
    exact ⟨hprice, hmargin, hround⟩

theorem keeps_priced (env : ProductEnv) :
    Keeps (products env) (fun store => ∀ row ∈ store.products, Priced env row)
      (fun _ flight => Checked env flight.product) fun _ _ => True where
  symm _ := trivial
  read hrows hread := by
    rw [(prepared_of_read hread).1]
    exact ⟨hrows, fun _ h => h⟩
  took hrows _ hread _ := by
    obtain ⟨-, hprepared⟩ := (prepared_of_read hread).2 _ rfl
    exact ⟨checked_of_prepared hrows hprepared, fun _ _ => trivial⟩
  wrote hrows hchecked hwrite := by
    refine ⟨fun row hrow => ?_, fun _ h _ => h⟩
    rcases mem_of_write hwrite hrow with hold | ⟨createdAt, rfl⟩
    · exact hrows row hold
    · exact checked_iff.mp hchecked

/-- For every interleaving from an empty table, with the arithmetic of the package
    read as exact: every stored price is positive, and the stored margin is the
    one it leaves over the stored cost, rounded to two decimals. -/
theorem stored_pricing_consistent {tr : List ProductTransition} {s : ProductState}
    (hrun : Run (next (products env.exact)) (State.quiet emptyStore) tr s) :
    ∀ row ∈ s.store.products, (0 : ℚ) < row.basePrice / 10 ^ 2 ∧
      row.profitMargin = ProfitabilityCalculator.round
        (100 * ((row.basePrice / 10 ^ 2 - row.cost / 10 ^ 2) / (row.basePrice / 10 ^ 2))) := by
  intro row hrow
  have hinit : Inv (fun store => ∀ row ∈ store.products, Priced env.exact row)
      (fun _ flight => Checked env.exact flight.product) (fun _ _ : Flight => True)
      (State.quiet emptyStore) :=
    Inv.quiet fun _ hrow => absurd hrow List.not_mem_nil
  have hinv := (hrun.invariant (fun _ _ _ h hnext => h.step (keeps_priced env.exact) hnext) hinit).1
  obtain ⟨hprice, -, hround⟩ := hinv.store row hrow
  have hpos : (0 : ℚ) < row.basePrice / 10 ^ 2 := by positivity
  refine ⟨hpos, hround.symm.trans ?_⟩
  rw [ProfitabilityCalculator.marginOf, if_neg hpos.ne', mul_comm]
  rfl

/-- The decimals and the lower case of plain texts. -/
def sampleEnv : ProductEnv where
  decimal := plainDecimal
  rounded := toPrecision
  toLowerCase := toLowerCase
  lower := toLowerCase

/-- A call that finds every tenant and category. -/
def sampleCall (productId : Uuid) : ProductCall where
  now := 1000
  productId := productId
  tenantExists _ := true
  categoryExistsForTenant _ _ := true

def sampleTenantId : Uuid := js "10000000-0000-4000-8000-000000000001"

def otherProductId : Uuid := js "30000000-0000-4000-8000-000000000002"

/-- A product with a margin of 30: a cost of 7 sold for 10. -/
def sampleCreate (productId : Uuid) (name : JsString) : Request where
  call := sampleCall productId
  operation :=
    .createProduct
      { tenantId := sampleTenantId
        productCategoryId := js "20000000-0000-4000-8000-000000000001"
        productName := name
        productDescription := none
        productImgUrl := none
        productBasePrice := js "10"
        productCost := js "7"
        profitMargin := Product.sampleMargin }

/-- An update of one product that changes nothing. -/
def noChange (id : Uuid) : UpdateProductParams where
  id := id
  tenantId := sampleTenantId
  productCategoryId := none
  productName := none
  productDescription := none
  productImgUrl := none
  productBasePrice := none
  productCost := none
  profitMargin := none
  status := none

/-- Twice the price over twice the cost. -/
def sampleReprice : Request where
  call := sampleCall otherProductId
  operation :=
    .updateProduct
      { noChange Product.sampleProductId with
        productBasePrice := some (js "20")
        productCost := some (js "14") }

def sampleDelete : Request where
  call := sampleCall otherProductId
  operation :=
    .deleteProduct
      { id := Product.sampleProductId
        tenantId := sampleTenantId
        deletedBy := js "70000000-0000-4000-8000-000000000001" }

/-- A product is created, an update and a deletion of it are read, and then
    written in one order or the other. -/
def race (first second : ℕ) : List ProductAction :=
  [.read 1 (sampleCreate Product.sampleProductId (js "Arepa")), .write 1 true 1000,
    .read 2 sampleReprice, .read 3 sampleDelete, .write first true 2000, .write second true 3000]

/-- After the update and the deletion the row has the new price and cost. -/
theorem stored_pricing_consistent_repriced :
    ∃ tr s row, exec (next (products sampleEnv.exact)) (State.quiet emptyStore)
        (race 3 2) = some (tr, s) ∧ row ∈ s.store.products ∧ row.basePrice = 2000 ∧
      (0 : ℚ) < row.basePrice / 10 ^ 2 ∧ row.profitMargin = ProfitabilityCalculator.round
        (100 * ((row.basePrice / 10 ^ 2 - row.cost / 10 ^ 2) / (row.basePrice / 10 ^ 2))) := by
  obtain ⟨tr, s, hexec, hprices⟩ :
      ∃ tr s, exec (next (products sampleEnv.exact)) (State.quiet emptyStore) (race 3 2) =
          some (tr, s) ∧
        s.store.products.map (·.basePrice) = [2000] := exists_of_any_exec (by decide +kernel)
  obtain ⟨row, hrow, hprice⟩ : ∃ row ∈ s.store.products, row.basePrice = 2000 :=
    List.mem_map.mp (hprices ▸ List.mem_singleton_self 2000)
  exact ⟨tr, s, row, hexec, hrow, hprice, stored_pricing_consistent (run_of_exec hexec) row hrow⟩

/-! ## Deletion -/

/-- The stored status of a product. -/
def statusOf (store : ProductStore) (id : Uuid) : Option EntityStatus :=
  (Rows.find (·.id) id store.products).map (·.status)

/-- What the operation is going to make of the stored status. -/
def FlightInv (store : ProductStore) (flight : Flight) : Prop :=
  match flight.operation with
  | .createProduct _ =>
    flight.product.id ∉ store.products.map (·.id) ∧ flight.product.status = .active
  | .updateProduct _ =>
    flight.product.id ∈ store.products.map (·.id) ∧ flight.product.status ≠ .deleted
  | .deleteProduct _ =>
    flight.product.id ∈ store.products.map (·.id) ∧ flight.product.status = .deleted

/-- The operation stores a new product. -/
def creates (flight : Flight) : Bool :=
  match flight.operation with
  | .createProduct _ => true
  | _ => false

/-- A product that is being created is in no other operation. -/
def Apart (flight other : Flight) : Prop :=
  creates flight = true ∨ creates other = true → flight.product.id ≠ other.product.id

/-- Only whether the product is stored matters. -/
theorem flightInv_of_mem_iff (h : flight.product.id ∈ store'.products.map (·.id) ↔
    flight.product.id ∈ store.products.map (·.id)) :
    FlightInv store flight → FlightInv store' flight := by
  unfold FlightInv
  rw [h]
  exact id

theorem creates_iff (h : FlightInv store flight) :
    creates flight = true ↔ flight.product.id ∉ store.products.map (·.id) := by
  obtain ⟨operation, product⟩ := flight
  cases operation with
  | createProduct params => exact iff_of_true rfl h.1
  | updateProduct params => exact iff_of_false Bool.false_ne_true (not_not.mpr h.1)
  | deleteProduct params => exact iff_of_false Bool.false_ne_true (not_not.mpr h.1)

/-- The row of the product, if there is one, gets its status. -/
theorem statusOf_write {id : Uuid} (h : (products env).write store flight now = some store')
    (hinv : FlightInv store flight) :
    statusOf store' id =
      if flight.product.id = id then some flight.product.status else statusOf store id := by
  obtain ⟨operation, product⟩ := flight
  have hupdate : ∀ {store'}, ProductRepository.update store product now = some store' →
      product.id ∈ store.products.map (·.id) → statusOf store' id =
        if product.id = id then some product.status else statusOf store id := by
    intro store' h hmem
    rw [statusOf, statusOf, ProductRepository.find_update h, Option.map_map]
    cases hfind : Rows.find (·.id) id store.products with
    | none =>
      have hne : product.id ≠ id := by
        rintro rfl
        exact Rows.find_eq_none_iff.mp hfind hmem
      rw [if_neg hne]
      rfl
    | some row =>
      obtain rfl : row.id = id := (Rows.mem_of_find hfind).2
      by_cases hid : product.id = row.id
      · rw [if_pos hid]
        simp [hid, ProductRepository.updated, ProductMapper.toEntity]
      · rw [if_neg hid]
        simp [Ne.symm hid]
  cases operation with
  | createProduct params =>
    have h : ProductRepository.save store product now = some store' := h
    rw [statusOf, statusOf, ProductRepository.find_save h]
    split_ifs <;> rfl
  | updateProduct params => exact hupdate h hinv.1
  | deleteProduct params => exact hupdate h hinv.1

theorem ids_write (h : (products env).write store flight now = some store')
    (hnodup : (store.products.map (·.id)).Nodup) :
    (store'.products.map (·.id)).Nodup ∧
      if creates flight then
        ∀ id, id ∈ store'.products.map (·.id) ↔
          id = flight.product.id ∨ id ∈ store.products.map (·.id)
      else store'.products.map (·.id) = store.products.map (·.id) := by
  obtain ⟨operation, product⟩ := flight
  have hupdate : ∀ {store'}, ProductRepository.update store product now = some store' →
      store'.products.map (·.id) = store.products.map (·.id) := by
    intro store' h
    rw [ProductRepository.update_eq_some h]
    exact Rows.map_updateWhere fun _ _ _ => rfl
  cases operation with
  | createProduct params =>
    have h : ProductRepository.save store product now = some store' := h
    rw [ProductRepository.save_eq_some h]
    exact ⟨Rows.nodup_keys_upsert hnodup, fun id => Rows.mem_keys_upsert⟩
  | updateProduct params =>
    have hsame := hupdate h
    exact ⟨hsame ▸ hnodup, hsame⟩
  | deleteProduct params =>
    have hsame := hupdate h
    exact ⟨hsame ▸ hnodup, hsame⟩

theorem flightInv_of_prepared {call : ProductCall} {operation : Operation} {product : Product}
    (hfresh : call.productId ∉ store.products.map (·.id))
    (h : Prepared env call store operation product) : FlightInv store ⟨operation, product⟩ := by
  cases h with
  | created _ hid _ hstatus _ _ => exact ⟨hid ▸ hfresh, hstatus⟩
  | updated hrow _ _ hread _ hid _ _ hstatus =>
    exact ⟨hid.trans hread.id ▸ List.mem_map_of_mem hrow, hstatus⟩
  | @deleted params row loaded _ hrow _ _ hread hstatus hproduct =>
    refine ⟨?_, hstatus⟩
    have hid : product.id = row.id := by
      rw [hproduct]
      exact hread.id
    exact hid ▸ List.mem_map_of_mem hrow

/-- A product that is created has the generated id. -/
theorem id_of_creates {call : ProductCall} (hcreates : creates flight = true)
    (h : Prepared env call store flight.operation flight.product) :
    flight.product.id = call.productId := by
  obtain ⟨operation, product⟩ := flight
  cases h with
  | created _ hid _ _ _ _ => exact hid
  | updated => cases hcreates
  | deleted => cases hcreates

theorem keeps_status (env : ProductEnv) :
    Keeps (products env) (fun store => (store.products.map (·.id)).Nodup) FlightInv Apart where
  symm hapart hcreates := (hapart hcreates.symm).symm
  read hnodup hread := by
    have hsame := (prepared_of_read hread).1
    rw [hsame]
    exact ⟨hnodup, fun _ => flightInv_of_mem_iff (by rw [hsame])⟩
  took {store request store' flight flights} hnodup henabled hread hall := by
    obtain ⟨hsame, hprepared⟩ := prepared_of_read hread
    obtain ⟨hoperation, hprepared⟩ := hprepared _ rfl
    obtain ⟨hnew, hidle⟩ : request.call.productId ∉ store.products.map (·.id) ∧
        request.call.productId ∉ flights.map (·.product.id) := by
      have henabled : (decide _ && decide _) = true := henabled
      simpa only [Bool.and_eq_true, decide_eq_true_eq] using henabled
    have hflight : FlightInv store flight := flightInv_of_prepared hnew hprepared
    refine ⟨flightInv_of_mem_iff (by rw [hsame]) hflight, fun other hother hcreates hsameId => ?_⟩
    by_cases hnewFlight : creates flight = true
    · have hid := id_of_creates hnewFlight hprepared
      exact hidle (List.mem_map.mpr ⟨other, hother, hsameId.trans hid⟩)
    · have hothernew := (creates_iff (hall other hother)).mp (hcreates.resolve_right hnewFlight)
      exact hnewFlight ((creates_iff hflight).mpr (hsameId ▸ hothernew))
  wrote {store flight now store'} hnodup hflight hwrite := by
    obtain ⟨hnodup', hids⟩ := ids_write hwrite hnodup
    refine ⟨hnodup', fun other hother hapart => flightInv_of_mem_iff ?_ hother⟩
    split_ifs at hids with hcreates
    · rw [hids, or_iff_right (hapart (.inl hcreates)).symm]
    · rw [hids]

/-- The operation is an `UpdateProduct`. -/
def updates (flight : Flight) : Bool :=
  match flight.operation with
  | .updateProduct _ => true
  | _ => false

/-- A deletion of the product completes in the transition. -/
def Deletes (env : ProductEnv) (t : ProductTransition) (id : Uuid) : Prop :=
  ∃ params product, Writes (products env) t ⟨.deleteProduct params, product⟩ ∧ product.id = id

/-- The product whose deletion completes in a step. -/
def deletion (env : ProductEnv) (s : ProductState) (a : ProductAction) : Option Uuid :=
  (writing (products env) s a).bind fun flight =>
    match flight.operation with
    | .deleteProduct _ => some flight.product.id
    | _ => none

/-- In every state after a completed deletion the product is `DELETED`. -/
def StaysDeleted (env : ProductEnv) (tr : List ProductTransition) : Prop :=
  ∀ id tr₁ t tr₂, tr = tr₁ ++ t :: tr₂ → Deletes env t id →
    ∀ t' ∈ tr₂, statusOf t'.post.store id = some .deleted

/-- The step is an `UpdateProduct` that writes over a deleted row. -/
def writesOverDeleted (env : ProductEnv) (s : ProductState) (a : ProductAction) : Bool :=
  (writing (products env) s a).any fun flight =>
    updates flight && decide (statusOf s.store flight.product.id = some .deleted)

variable {s s' : ProductState} {a : ProductAction} {id : Uuid}

abbrev StatusInv (s : ProductState) : Prop :=
  Inv (fun store : ProductStore => (store.products.map (·.id)).Nodup) FlightInv Apart s

theorem deletes_iff (hnext : next (products env) s a = some s') :
    Deletes env ⟨s, a, s'⟩ id ↔ deletion env s a = some id := by
  unfold Deletes deletion
  simp only [← writing_eq_some_iff hnext, Option.bind_eq_some_iff]
  constructor
  · rintro ⟨params, product, hwriting, rfl⟩
    exact ⟨_, hwriting, rfl⟩
  · rintro ⟨⟨operation, product⟩, hwriting, hid⟩
    cases operation with
    | deleteProduct params => exact ⟨params, product, hwriting, Option.some.inj hid⟩
    | createProduct params => cases hid
    | updateProduct params => cases hid

/-- A step without a write leaves every status. -/
theorem statusOf_step_none (hnext : next (products env) s a = some s')
    (hnone : writing (products env) s a = none) : statusOf s'.store id = statusOf s.store id := by
  have hstore := store_of_next hnext
  rw [hnone] at hstore
  rcases hstore with hsame | ⟨call, result, hread⟩
  · rw [hsame]
  · rw [statusOf, statusOf, (prepared_of_read hread).1]

/-- A write gives the row of its product its status. -/
theorem statusOf_step_some (hinv : StatusInv s) (hnext : next (products env) s a = some s')
    (hsome : writing (products env) s a = some flight) :
    FlightInv s.store flight ∧ statusOf s'.store id =
      if flight.product.id = id then some flight.product.status else statusOf s.store id := by
  have hstore := store_of_next hnext
  rw [hsome] at hstore
  obtain ⟨now, hwrite⟩ := hstore
  obtain ⟨request, hmem⟩ := mem_of_writing hsome
  have hflight : FlightInv s.store flight := hinv.flights _ hmem
  exact ⟨hflight, statusOf_write hwrite hflight⟩

/-- A step keeps a product deleted unless it is an update of it. -/
theorem deleted_step_iff (hinv : StatusInv s) (hdeleted : statusOf s.store id = some .deleted)
    (hnext : next (products env) s a = some s') :
    statusOf s'.store id = some .deleted ↔
      ∀ flight, writing (products env) s a = some flight → updates flight = true →
        flight.product.id ≠ id := by
  cases hwriting : writing (products env) s a with
  | none =>
    rw [statusOf_step_none hnext hwriting]
    exact iff_of_true hdeleted fun _ h => by cases h
  | some flight =>
    obtain ⟨hflight, hstatus⟩ := @statusOf_step_some _ _ _ _ _ id hinv hnext hwriting
    rw [hstatus]
    simp only [Option.some.injEq, forall_eq']
    split_ifs with hid
    · subst hid
      obtain ⟨operation, product⟩ := flight
      cases operation with
      | createProduct params =>
        -- its id is not stored yet
        obtain ⟨row, hrow, -⟩ := Option.map_eq_some_iff.mp hdeleted
        exact absurd (Rows.mem_keys_of_find hrow) hflight.1
      | updateProduct params =>
        refine iff_of_false (fun h => hflight.2 (Option.some.inj h)) fun h => h rfl rfl
      | deleteProduct params =>
        exact iff_of_true (congrArg some hflight.2) fun h => by cases h
    · exact iff_of_true hdeleted fun _ => hid

/-- Only a deletion makes a product deleted. -/
theorem deletes_of_deleted (hinv : StatusInv s) (hnext : next (products env) s a = some s')
    (hdeleted : statusOf s'.store id = some .deleted) :
    statusOf s.store id = some .deleted ∨ Deletes env ⟨s, a, s'⟩ id := by
  cases hwriting : writing (products env) s a with
  | none => exact .inl (statusOf_step_none hnext hwriting ▸ hdeleted)
  | some flight =>
    obtain ⟨hflight, hstatus⟩ := @statusOf_step_some _ _ _ _ _ id hinv hnext hwriting
    rw [hstatus] at hdeleted
    split_ifs at hdeleted with hid
    · obtain ⟨operation, product⟩ := flight
      cases operation with
      | createProduct params => cases hflight.2.symm.trans (Option.some.inj hdeleted)
      | updateProduct params => exact absurd (Option.some.inj hdeleted) hflight.2
      | deleteProduct params =>
        exact .inr ⟨params, product, (writing_eq_some_iff hnext).mp hwriting, hid⟩
    · exact .inl hdeleted

theorem deleted_of_deletes (hinv : StatusInv s) (hnext : next (products env) s a = some s')
    (h : Deletes env ⟨s, a, s'⟩ id) : statusOf s'.store id = some .deleted := by
  obtain ⟨params, product, hwrites, rfl⟩ := h
  obtain ⟨hflight, hstatus⟩ :=
    @statusOf_step_some _ _ _ _ _ product.id hinv hnext ((writing_eq_some_iff hnext).mpr hwrites)
  rw [hstatus, if_pos rfl]
  exact congrArg some hflight.2

/-- For every interleaving of any number of requests on any products: a product
    whose deletion completed is `DELETED` in every later state exactly as long as
    no `UpdateProduct` writes over a row that is already deleted. -/
theorem stays_deleted_iff {tr : List ProductTransition}
    (hrun : Run (next (products env)) (State.quiet emptyStore) tr s) :
    StaysDeleted env tr ↔ ∀ t ∈ tr, writesOverDeleted env t.pre t.action = false := by
  have hI : ∀ s a s', StatusInv s → next (products env) s a = some s' → StatusInv s' :=
    fun _ _ _ h hnext => h.step (keeps_status env) hnext
  have hinit : StatusInv (State.quiet emptyStore) := Inv.quiet List.nodup_nil
  have hstays := fun id => hrun.stays_iff (P := fun s => statusOf s.store id = some .deleted)
    (Q := fun t => Deletes env t id)
    (G := fun s a => ∀ flight, writing (products env) s a = some flight → updates flight = true →
      flight.product.id ≠ id) hI
    (fun _ _ _ h hnext => deletes_of_deleted h hnext)
    (fun _ _ _ h hnext => deleted_of_deletes h hnext)
    (fun _ _ _ h hdeleted hnext => deleted_step_iff h hdeleted hnext) hinit
    (by simp [statusOf, State.quiet, emptyStore])
  unfold StaysDeleted
  rw [forall_congr' hstays]
  constructor
  · intro hguard t ht
    rw [writesOverDeleted, Option.any_eq_false]
    intro flight hflight
    rw [Bool.and_eq_false_imp, decide_eq_false_iff_not]
    exact fun hupdates hdeleted => hguard _ t ht hdeleted flight hflight hupdates rfl
  · rintro hguard id t ht hdeleted flight hflight hupdates rfl
    have hnot := hguard t ht
    rw [writesOverDeleted, hflight, Option.any_some, hupdates, Bool.true_and,
      decide_eq_false_iff_not] at hnot
    exact hnot hdeleted

/-- Written before the deletion, the update leaves the product deleted after it. -/
theorem stays_deleted_iff_in_turn :
    ∃ tr s, exec (next (products sampleEnv)) (State.quiet emptyStore) (race 2 3) = some (tr, s) ∧
      StaysDeleted sampleEnv tr ∧
      statusOf s.store Product.sampleProductId = some .deleted := by
  obtain ⟨tr, s, hexec, hguard, hstatus⟩ :
      ∃ tr s, exec (next (products sampleEnv)) (State.quiet emptyStore) (race 2 3) = some (tr, s) ∧
        (∀ t ∈ tr, writesOverDeleted sampleEnv t.pre t.action = false) ∧
        statusOf s.store Product.sampleProductId = some .deleted :=
    exists_of_any_exec (by decide +kernel)
  exact ⟨tr, s, hexec, (stays_deleted_iff (run_of_exec hexec)).mpr hguard, hstatus⟩

/-- Written after it, the update makes the product active again. -/
theorem not_stays_deleted :
    ¬ ∀ tr s, Run (next (products sampleEnv)) (State.quiet emptyStore) tr s →
      StaysDeleted sampleEnv tr := by
  intro hstays
  obtain ⟨tr, s, hexec, hdeletion, hstatus⟩ :
      ∃ tr s, exec (next (products sampleEnv)) (State.quiet emptyStore) (race 3 2) = some (tr, s) ∧
        (tr[4]?.bind fun t => deletion sampleEnv t.pre t.action) = some Product.sampleProductId ∧
        (tr[5]?.bind fun t => statusOf t.post.store Product.sampleProductId) = some .active :=
    exists_of_any_exec (by decide +kernel)
  obtain ⟨t, ht, hdeletion⟩ := Option.bind_eq_some_iff.mp hdeletion
  obtain ⟨t', ht', hstatus⟩ := Option.bind_eq_some_iff.mp hstatus
  obtain ⟨tr₁, tr₂, htr, hmem⟩ := exists_split_of_getElem (by decide) ht ht'
  have hrun := run_of_exec hexec
  have hdeletes : Deletes sampleEnv t Product.sampleProductId :=
    (deletes_iff (hrun.next_of_mem (List.mem_of_getElem? ht))).mpr hdeletion
  have hkept := hstays tr s hrun Product.sampleProductId tr₁ t tr₂ htr hdeletes t' hmem
  cases hkept.symm.trans hstatus

end KomiSaas.Products.Interleaving
