import KomiSaas.Products.Interleaving
import KomiSaas.Lib.Writes

/-!
# The identity of the products

In every interleaving of the requests on the products (`products_keep_identity`):

* no product changes its id, its business, its SKU or its date of creation, and no
  row disappears;
* no two products have one SKU, since every SKU is the text of another value of
  `product_sku_seq`, which is spent when a request reads;
* no product is `ARCHIVED`, which no path leads to;
* the database refuses a write exactly where an amount or a text does not fit its
  column.
-/

namespace KomiSaas.Products.Interleaving

open KomiSaas.Lib KomiSaas.Lib.Flights KomiSaas.Shared

/-! ## SKUs -/

/-- The digits of a SKU give back its number. -/
theorem fromNumber_injective : Function.Injective ProductSku.fromNumber := by
  have hvalue : ∀ n, Lib.Decimal.value (digitsOf ((ProductSku.fromNumber n).drop 5)) = n := by
    intro n
    have htext : (ProductSku.fromNumber n).drop 5 =
        digitText (List.replicate (4 - (natText n).length) 0 ++ Lib.Decimal.numeral n) := by
      rw [digitText, List.map_append, List.map_replicate]
      rfl
    have hdigits : ∀ d ∈ List.replicate (4 - (natText n).length) 0 ++ Lib.Decimal.numeral n,
        d < 10 := by
      intro d hd
      rcases List.mem_append.mp hd with hd | hd
      · rw [List.eq_of_mem_replicate hd]
        decide
      · exact Lib.Decimal.lt_ten_of_mem_numeral hd
    have hzeros : ∀ k, Lib.Decimal.value (List.replicate k 0) = 0 := by
      intro k
      rw [Lib.Decimal.value, List.reverse_replicate, Nat.ofDigits_replicate_zero]
    rw [htext, digitsOf_digitText hdigits, Lib.Decimal.value_append, hzeros, zero_mul, zero_add,
      Lib.Decimal.value_numeral]
  intro n m h
  rw [← hvalue n, h, hvalue m]

/-! ## Invariants -/

variable {env : ProductEnv} {store store' : ProductStore} {flight : Flight} {request : Request}
  {now : Instant} {product loaded : Product}

/-- The columns of a row that its product keeps. -/
def identity (row : ProductRow) : Uuid × Uuid × JsString := (row.id, row.tenantId, row.sku)

/-- The same of a product. -/
def productIdentity (product : Product) : Uuid × Uuid × JsString :=
  (product.id, product.tenantId, product.productSku)

/-- The SKU is the text of a value that the sequence already gave. -/
def Spent (store : ProductStore) (sku : JsString) : Prop :=
  ∃ n < store.skuSequence, sku = ProductSku.fromNumber n

/-- What holds of the table. -/
structure TableInv (store : ProductStore) : Prop where
  ids : (store.products.map (·.id)).Nodup
  skus : (store.products.map (·.sku)).Nodup
  spent : ∀ row ∈ store.products, Spent store row.sku
  status : ∀ row ∈ store.products, row.status ≠ .archived

/-- What holds of the product of an operation in flight. -/
structure OwnInv (store : ProductStore) (flight : Flight) : Prop where
  spent : Spent store flight.product.productSku
  status : flight.product.status ≠ .archived
  created : creates flight = true → flight.product.id ∉ store.products.map (·.id) ∧
    flight.product.productSku ∉ store.products.map (·.sku)
  stored : creates flight = false → productIdentity flight.product ∈ store.products.map identity

/-- A new product has its id and its SKU for itself. -/
def OwnApart (flight other : Flight) : Prop :=
  creates flight = true ∨ creates other = true →
    flight.product.id ≠ other.product.id ∧ flight.product.productSku ≠ other.product.productSku

/-! ## Reading -/

theorem status_of_changeStatus {status : Option EntityStatus} {before : EntityStatus}
    (hstatus : loaded.status ≠ .archived)
    (h : UpdateProduct.changeStatus now status before loaded = .ok product) :
    product.productSku = loaded.productSku ∧ product.status ≠ .archived := by
  unfold UpdateProduct.changeStatus at h
  split at h
  · rename_i next
    split_ifs at h
    · cases next with
      | active =>
        obtain ⟨hsame, hnext⟩ := activate_ok h
        rw [hsame]
        exact ⟨rfl, by rw [hnext]; decide⟩
      | inactive =>
        obtain ⟨hsame, hnext⟩ := deactivate_ok h
        rw [hsame]
        exact ⟨rfl, by rw [hnext]; decide⟩
      | archived =>
        obtain ⟨_, -, rfl⟩ := map_eq_ok.mp h
        exact ⟨rfl, hstatus⟩
      | deleted =>
        obtain ⟨_, -, rfl⟩ := map_eq_ok.mp h
        exact ⟨rfl, hstatus⟩
    · obtain rfl := Except.ok.inj h
      exact ⟨rfl, hstatus⟩
  · obtain rfl := Except.ok.inj h
    exact ⟨rfl, hstatus⟩

/-- An update keeps the SKU and does not archive. -/
theorem sku_of_perform {call : ProductCall} {params : UpdateProductParams}
    (hstatus : loaded.status ≠ .archived)
    (h : UpdateProduct.perform env call params loaded = .ok product) :
    product.productSku = loaded.productSku ∧ product.status ≠ .archived := by
  unfold UpdateProduct.perform at h
  split_ifs at h
  obtain ⟨changes, -, h⟩ := bind_eq_ok.mp h
  obtain ⟨updated, hupdate, h⟩ := bind_eq_ok.mp h
  obtain ⟨-, -, hupdated⟩ := Product.update_ok hupdate
  have hstatus' : updated.status ≠ .archived := by
    rw [hupdated]
    exact hstatus
  obtain ⟨hsku, hnext⟩ := status_of_changeStatus hstatus' h
  exact ⟨by rw [hsku, hupdated], hnext⟩

/-- A new product has the SKU of the value that its request took. -/
theorem sku_of_create {call : ProductCall} {params : CreateProductParams}
    (h : CreateProduct.prepare env call store params = (.ok product, store')) :
    product.productSku = ProductSku.fromNumber store.skuSequence ∧ product.id = call.productId ∧
      product.status = .active ∧ store'.skuSequence = store.skuSequence + 1 := by
  unfold CreateProduct.prepare at h
  split_ifs at h
  · cases (Prod.mk.inj h).1
  · cases (Prod.mk.inj h).1
  · split at h
    · cases (Prod.mk.inj h).1
    · split_ifs at h
      · cases (Prod.mk.inj h).1
      · obtain ⟨hproduct, rfl⟩ := Prod.mk.inj h
        obtain ⟨price, -, hproduct⟩ := bind_eq_ok.mp hproduct
        obtain ⟨cost, -, hproduct⟩ := bind_eq_ok.mp hproduct
        obtain ⟨u, -, hproduct⟩ := bind_eq_ok.mp hproduct
        obtain rfl := Except.ok.inj hproduct
        exact ⟨rfl, rfl, rfl, rfl⟩

/-- The sequence never goes back. -/
theorem skuSequence_of_prepare {call : ProductCall} {operation : Operation}
    {result : Except ProductException Product}
    (h : operation.prepare env call store = (result, store')) :
    store.skuSequence ≤ store'.skuSequence := by
  cases operation with
  | createProduct params =>
    have h : CreateProduct.prepare env call store params = (result, store') := h
    unfold CreateProduct.prepare at h
    split_ifs at h
    · rw [← (Prod.mk.inj h).2]
    · rw [← (Prod.mk.inj h).2]
    · split at h
      · rw [← (Prod.mk.inj h).2]
      · split_ifs at h
        · rw [← (Prod.mk.inj h).2]
        · rw [← (Prod.mk.inj h).2]
          exact Nat.le_succ _
  | updateProduct params => rw [← (Prod.mk.inj h).2]
  | deleteProduct params => rw [← (Prod.mk.inj h).2]

theorem spent_mono {sku : JsString} (h : store.skuSequence ≤ store'.skuSequence)
    (hspent : Spent store sku) : Spent store' sku := by
  obtain ⟨n, hn, rfl⟩ := hspent
  exact ⟨n, by omega, rfl⟩

/-- What reading does to the table. -/
theorem read_effect {result : Option Flight}
    (h : (products env).read store request = (store', result)) :
    store'.products = store.products ∧ store.skuSequence ≤ store'.skuSequence ∧
      ∀ flight, result = some flight → flight.operation = request.operation ∧
        request.operation.prepare env request.call store = (.ok flight.product, store') := by
  simp only [products] at h
  split at h
  · rename_i hprepare
    obtain ⟨rfl, rfl⟩ := Prod.mk.inj h
    exact ⟨(prepared_of_prepare hprepare).1, skuSequence_of_prepare hprepare,
      fun _ h => by cases h⟩
  · rename_i product prepared hprepare
    obtain ⟨rfl, rfl⟩ := Prod.mk.inj h
    refine ⟨(prepared_of_prepare hprepare).1, skuSequence_of_prepare hprepare,
      fun flight hflight => ?_⟩
    obtain rfl := Option.some.inj hflight
    exact ⟨rfl, hprepare⟩

/-- The product of an operation on a stored one. -/
theorem stored_of_prepare {call : ProductCall} {operation : Operation} (htable : TableInv store)
    (h : operation.prepare env call store = (.ok product, store'))
    (hnew : ∀ params, operation ≠ .createProduct params) :
    (∃ row ∈ store.products, identity row = productIdentity product) ∧
      product.status ≠ .archived := by
  have hprepared := (prepared_of_prepare h).2 product rfl
  cases operation with
  | createProduct params => exact absurd rfl (hnew params)
  | updateProduct params =>
    obtain ⟨hproduct, rfl⟩ := Prod.mk.inj h
    obtain ⟨loaded, hload, hperform⟩ := bind_eq_ok.mp hproduct
    obtain ⟨row, hrow, -, -, hread⟩ := loadProduct_ok (loadProduct_of_load hload)
    obtain ⟨-, -, hid, htenant, -, -⟩ := perform_ok hperform
    have hstatus : loaded.status ≠ .archived := by
      rw [hread.status]
      exact htable.status row hrow
    obtain ⟨hsku, hstatus⟩ := sku_of_perform hstatus hperform
    refine ⟨⟨row, hrow, ?_⟩, hstatus⟩
    rw [identity, productIdentity, hid, htenant, hsku, hread.id, hread.tenantId, hread.sku]
  | deleteProduct params =>
    cases hprepared with
    | @deleted _ row loaded _ hrow _ _ hread hstatus hproduct =>
      refine ⟨⟨row, hrow, ?_⟩, by rw [hstatus]; decide⟩
      rw [identity, productIdentity, hproduct, hread.id, hread.tenantId, hread.sku]

/-- What a request has in hand when it takes off. -/
theorem ownInv_of_read (htable : TableInv store)
    (hfresh : request.call.productId ∉ store.products.map (·.id))
    (h : (products env).read store request = (store', some flight)) :
    OwnInv store' flight ∧ (creates flight = true → flight.product.id = request.call.productId ∧
      ¬ Spent store flight.product.productSku) := by
  obtain ⟨hsame, hle, hprepare⟩ := read_effect h
  obtain ⟨hoperation, hprepare⟩ := hprepare flight rfl
  have hspent : ∀ row ∈ store.products, Spent store' row.sku :=
    fun row hrow => spent_mono hle (htable.spent row hrow)
  obtain ⟨call, operation⟩ := request
  obtain ⟨operation', product⟩ := flight
  obtain rfl : operation = operation' := hoperation.symm
  have hown : (∀ params, operation ≠ .createProduct params) →
      creates ⟨operation, product⟩ = false → OwnInv store' ⟨operation, product⟩ := by
    intro hnew hcreates
    obtain ⟨⟨row, hrow, hidentity⟩, hstatus⟩ := stored_of_prepare htable hprepare hnew
    have hsku : row.sku = product.productSku := congrArg (·.2.2) hidentity
    refine ⟨hsku ▸ hspent row hrow, hstatus, fun h => ?_, fun _ => ?_⟩
    · cases hcreates.symm.trans h
    · rw [hsame]
      exact List.mem_map.mpr ⟨row, hrow, hidentity⟩
  cases operation with
  | createProduct params =>
    obtain ⟨hsku, hid, hstatus, hnext⟩ := sku_of_create hprepare
    have hnot : ¬ Spent store product.productSku := by
      rintro ⟨n, hn, heq⟩
      rw [fromNumber_injective (hsku.symm.trans heq)] at hn
      exact lt_irrefl _ hn
    refine ⟨⟨⟨store.skuSequence, by omega, hsku⟩, by rw [hstatus]; decide, fun _ => ?_,
      fun h => by cases h⟩, fun _ => ⟨hid, hnot⟩⟩
    rw [hsame]
    refine ⟨by rwa [hid], fun hmem => ?_⟩
    obtain ⟨row, hrow, heq⟩ := List.mem_map.mp hmem
    exact hnot (heq ▸ htable.spent row hrow)
  | updateProduct params =>
    exact ⟨hown (fun _ h => by cases h) rfl, fun h => by cases h⟩
  | deleteProduct params =>
    exact ⟨hown (fun _ h => by cases h) rfl, fun h => by cases h⟩

/-! ## Writing -/

/-- The SKU of an operation is free in the table. -/
theorem skuFree_of_own (htable : TableInv store) (hown : OwnInv store flight) :
    ProductRepository.skuFree store flight.product = true := by
  rw [ProductRepository.skuFree, List.all_eq_true]
  intro row hrow
  by_contra hused
  simp only [Bool.or_eq_true, decide_eq_true_eq, not_or, not_not] at hused
  obtain ⟨hne, hsku⟩ := hused
  cases hcreates : creates flight with
  | true => exact (hown.created hcreates).2 (hsku ▸ List.mem_map_of_mem hrow)
  | false =>
    obtain ⟨old, hold, hidentity⟩ := List.mem_map.mp (hown.stored hcreates)
    obtain ⟨hid, hrest⟩ := Prod.mk.inj hidentity
    obtain rfl : row = old := List.inj_on_of_nodup_map htable.skus hrow hold
      (hsku.trans (Prod.mk.inj hrest).2.symm)
    exact hne hid

/-- The two kinds of write. -/
theorem write_eq (flight : Flight) :
    (products env).write store flight now =
      if creates flight then ProductRepository.save store flight.product now
      else ProductRepository.update store flight.product now := by
  obtain ⟨operation, product⟩ := flight
  cases operation <;> rfl

/-- A write is refused exactly where an amount or a text does not fit. -/
theorem write_eq_none_iff (htable : TableInv store) (hown : OwnInv store flight) :
    (products env).write store flight now = none ↔
      ProductRepository.fits flight.product = false := by
  have hfree := skuFree_of_own htable hown
  rw [write_eq, ProductRepository.save, ProductRepository.update, hfree, Bool.and_true]
  cases creates flight <;> cases ProductRepository.fits flight.product <;> simp

/-- A write puts one row, with the identity of its product. -/
theorem puts_of_own (htable : TableInv store) (hown : OwnInv store flight)
    (h : (products env).write store flight now = some store') :
    store'.skuSequence = store.skuSequence ∧ ∃ row, identity row = productIdentity flight.product ∧
      row.status = flight.product.status ∧
      Rows.Puts (·.id) store.products store'.products row ∧
      ∀ old ∈ store.products, old.id = row.id →
        identity old = identity row ∧ old.createdAt = row.createdAt := by
  rw [write_eq] at h
  cases hcreates : creates flight with
  | true =>
    rw [hcreates, if_pos rfl] at h
    rw [ProductRepository.save_eq_some h]
    refine ⟨rfl, ProductMapper.toEntity flight.product now now, rfl, rfl,
      Rows.puts_upsert htable.ids, fun old hold hid => ?_⟩
    exact absurd (List.mem_map.mpr ⟨old, hold, hid⟩) (hown.created hcreates).1
  | false =>
    rw [hcreates] at h
    have h : ProductRepository.update store flight.product now = some store' := h
    rw [ProductRepository.update_eq_some h]
    obtain ⟨old, hold, hidentity⟩ := List.mem_map.mp (hown.stored hcreates)
    obtain ⟨hid, hrest⟩ := Prod.mk.inj hidentity
    have hupdated : identity (ProductRepository.updated flight.product now old) =
        identity old := by
      rw [hidentity]
      exact Prod.ext hid rfl
    refine ⟨rfl, ProductRepository.updated flight.product now old, hupdated.trans hidentity, rfl,
      Rows.puts_updateWhere htable.ids hold (fun r _ => ?_) rfl, fun other hother heq => ?_⟩
    · rw [decide_eq_true_eq, hid]
    · obtain rfl : other = old := List.inj_on_of_nodup_map htable.ids hother hold heq
      exact ⟨hupdated.symm, rfl⟩

theorem keeps_own (env : ProductEnv) : Keeps (products env) TableInv OwnInv OwnApart where
  symm h hcreates := (h hcreates.symm).imp Ne.symm Ne.symm
  read htable hread := by
    obtain ⟨hsame, hle, -⟩ := read_effect hread
    refine ⟨⟨hsame ▸ htable.ids, hsame ▸ htable.skus, fun row hrow => ?_, hsame ▸ htable.status⟩,
      fun other hother => ⟨spent_mono hle hother.spent, hother.status, ?_, ?_⟩⟩
    · exact spent_mono hle (htable.spent row (hsame ▸ hrow))
    · rw [hsame]
      exact hother.created
    · rw [hsame]
      exact hother.stored
  took {store request store' flight flights} htable henabled hread hflights := by
    simp only [products, Bool.and_eq_true, decide_eq_true_eq] at henabled
    obtain ⟨hfresh, hidle⟩ := henabled
    obtain ⟨hown, hnew⟩ := ownInv_of_read htable hfresh hread
    refine ⟨hown, fun other hother hcreates => ?_⟩
    cases hcase : creates flight with
    | true =>
      obtain ⟨hid, hunspent⟩ := hnew hcase
      constructor
      · intro heq
        exact hidle (List.mem_map.mpr ⟨other, hother, heq.trans hid⟩)
      · intro heq
        exact hunspent (heq ▸ (hflights other hother).spent)
    | false =>
      -- the other one creates, and this one has a stored product
      have hother' := (hflights other hother).created
        (hcreates.resolve_right (by rw [hcase]; exact Bool.false_ne_true))
      have hstored := hown.stored hcase
      rw [(read_effect hread).1] at hstored
      obtain ⟨row, hrow, hidentity⟩ := List.mem_map.mp hstored
      obtain ⟨hid, hrest⟩ := Prod.mk.inj hidentity
      constructor
      · intro heq
        exact hother'.1 (List.mem_map.mpr ⟨row, hrow, hid.trans heq.symm⟩)
      · intro heq
        exact hother'.2 (List.mem_map.mpr ⟨row, hrow, (Prod.mk.inj hrest).2.trans heq.symm⟩)
  wrote {store flight now store'} htable hown hwrite := by
    obtain ⟨hsequence, row, hidentity, hstatus, hputs, hkept⟩ := puts_of_own htable hown hwrite
    have hsku : row.sku = flight.product.productSku := congrArg (·.2.2) hidentity
    have hid : row.id = flight.product.id := congrArg (·.1) hidentity
    have hspent : ∀ {sku}, Spent store sku → Spent store' sku := spent_mono hsequence.ge
    have hfree : ∀ other ∈ store.products, other.id ≠ row.id → other.sku ≠ row.sku := by
      intro other hother hne
      have hall := List.all_eq_true.mp (skuFree_of_own htable hown) other hother
      rw [Bool.or_eq_true, decide_eq_true_eq, decide_eq_true_eq, ← hid, ← hsku] at hall
      exact hall.resolve_left hne
    have hapart : Rows.Apart (·.id) (fun row other => row.sku ≠ other.sku) store.products :=
      fun r hr other hother hne heq =>
        hne (congrArg _ (List.inj_on_of_nodup_map htable.skus hr hother heq))
    refine ⟨⟨hputs.keys, ?_, hputs.forall_mem (fun r hr => hspent (htable.spent r hr))
      (hsku ▸ hspent hown.spent), hputs.forall_mem htable.status (hstatus ▸ hown.status)⟩, ?_⟩
    · have hapart' := hputs.apart (fun _ _ => Ne.symm) hapart hfree
      refine List.Nodup.map_on (fun r hr other hother heq => ?_) hputs.keys.of_map
      by_contra hne
      refine hapart' r hr other hother (fun hid => hne ?_) heq
      exact List.inj_on_of_nodup_map hputs.keys hr hother hid
    · intro other hother hapart'
      refine ⟨hspent hother.spent, hother.status, fun hcreates => ?_, fun hcreates => ?_⟩
      · obtain ⟨hids, hskus⟩ := hother.created hcreates
        obtain ⟨hne, hne'⟩ := hapart' (.inr hcreates)
        refine ⟨hputs.notMem hids (hid ▸ hne), fun hmem => ?_⟩
        obtain ⟨r, hr, heq⟩ := List.mem_map.mp hmem
        rcases (hputs.mem r).mp hr with rfl | ⟨hr, -⟩
        · exact hne' (hsku.symm.trans heq)
        · exact hskus (List.mem_map.mpr ⟨r, hr, heq⟩)
      · exact hputs.map_subset (fun old hold heq => (hkept old hold heq).1) (hother.stored hcreates)

/-! ## Runs -/

abbrev OwnState (s : ProductState) : Prop := Inv TableInv OwnInv OwnApart s

theorem ownState_empty : OwnState (State.quiet emptyStore) :=
  Inv.quiet ⟨List.nodup_nil, List.nodup_nil, fun _ h => absurd h List.not_mem_nil,
    fun _ h => absurd h List.not_mem_nil⟩

/-- The columns that no step changes. -/
def fixedColumns (row : ProductRow) : (Uuid × Uuid × JsString) × Instant :=
  (identity row, row.createdAt)

/-- No step changes them. -/
theorem fixedColumns_of_next {s s' : ProductState} {a : ProductAction} (hinv : OwnState s)
    (hnext : next (products env) s a = some s') :
    s.store.products.map fixedColumns ⊆ s'.store.products.map fixedColumns := by
  cases effect_of_next hnext with
  | ended _ hread =>
    rw [(read_effect hread).1]
    exact List.Subset.refl _
  | took _ hread =>
    rw [(read_effect hread).1]
    exact List.Subset.refl _
  | failed _ _ => exact List.Subset.refl _
  | wrote hflight hwrite =>
    have hown := hinv.flights _ (mem_of_flight hflight)
    obtain ⟨-, row, -, -, hputs, hkept⟩ := puts_of_own hinv.store hown hwrite
    exact hputs.map_subset fun old hold heq =>
      Prod.ext (hkept old hold heq).1 (hkept old hold heq).2

theorem ownState_of_run {tr : List ProductTransition} {s : ProductState}
    (hrun : Run (next (products env)) (State.quiet emptyStore) tr s) :
    OwnState s ∧ ∀ t ∈ tr, OwnState t.pre ∧ OwnState t.post :=
  hrun.invariant (fun _ _ _ h hnext => h.step (keeps_own env) hnext) ownState_empty

/-- Nor does a run. -/
theorem fixedColumns_of_run {tr : List ProductTransition} {s s' : ProductState}
    (hrun : Run (next (products env)) s tr s') (hinv : OwnState s) :
    OwnState s' ∧ s.store.products.map fixedColumns ⊆ s'.store.products.map fixedColumns := by
  induction hrun with
  | nil => exact ⟨hinv, List.Subset.refl _⟩
  | snoc _ hnext ih =>
    obtain ⟨hinv', hsub⟩ := ih
    refine ⟨hinv'.step (keeps_own env) hnext, ?_⟩
    exact List.Subset.trans hsub (fixedColumns_of_next hinv' hnext)

/-- For every interleaving of any number of requests, from an empty table: no product
    disappears or changes its id, business, SKU or date of creation; no two products
    share an id or a SKU and none is archived; and the database refuses the write of
    an operation exactly where an amount or a text does not fit its column. -/
theorem products_keep_identity {tr : List ProductTransition} {s : ProductState}
    (hrun : Run (next (products env)) (State.quiet emptyStore) tr s) :
    (∀ t ∈ tr, t.pre.store.products.map fixedColumns ⊆ t.post.store.products.map fixedColumns) ∧
      (s.store.products.map (·.id)).Nodup ∧ (s.store.products.map (·.sku)).Nodup ∧
      (∀ row ∈ s.store.products, row.status ≠ .archived) ∧
      ∀ entry ∈ s.flights, ∀ now, (products env).write s.store entry.2 now = none ↔
        ProductRepository.fits entry.2.product = false := by
  obtain ⟨hinv, hall⟩ := ownState_of_run hrun
  refine ⟨fun t ht => ?_, hinv.store.ids, hinv.store.skus, hinv.store.status, fun entry hentry _ =>
    write_eq_none_iff hinv.store (hinv.flights entry hentry)⟩
  exact fixedColumns_of_next (hall t ht).1 (hrun.next_of_mem ht)

/-- Two products, the second one not yet written. -/
def twoProducts : List ProductAction :=
  [.read 1 (sampleCreate Product.sampleProductId (js "Arepa")), .write 1 true 1000,
    .read 2 (sampleCreate otherProductId (js "Empanada"))]

/-- They take two values of the sequence, and the second one is not going to be
    refused. -/
theorem products_keep_identity_two :
    ∃ tr s, exec (next (products sampleEnv)) (State.quiet emptyStore) twoProducts = some (tr, s) ∧
      s.store.products.map (·.sku) = [js "PROD-0001"] ∧
      s.flights.map (·.2.product.productSku) = [js "PROD-0002"] ∧
      (∀ t ∈ tr, t.pre.store.products.map fixedColumns ⊆ t.post.store.products.map fixedColumns) ∧
      (s.store.products.map (·.id)).Nodup ∧ (s.store.products.map (·.sku)).Nodup ∧
      (∀ row ∈ s.store.products, row.status ≠ .archived) ∧
      ∀ entry ∈ s.flights, ∀ now, (products sampleEnv).write s.store entry.2 now = none ↔
        ProductRepository.fits entry.2.product = false := by
  obtain ⟨tr, s, hexec, hskus, hflights⟩ :
      ∃ tr s, exec (next (products sampleEnv)) (State.quiet emptyStore) twoProducts =
          some (tr, s) ∧ s.store.products.map (·.sku) = [js "PROD-0001"] ∧
        s.flights.map (·.2.product.productSku) = [js "PROD-0002"] :=
    exists_of_any_exec (by decide +kernel)
  exact ⟨tr, s, hexec, hskus, hflights, products_keep_identity (run_of_exec hexec)⟩

end KomiSaas.Products.Interleaving
