import KomiSaas.Products.Product
import KomiSaas.Shared.Text
import KomiSaas.Lib.Rows

/-!
# `ProductRepositoryImpl`

`products/infrastructure/persistence/repositories/product.repository.impl.ts`
over the table `product` (`public/db/tables/products.sql`). A write is refused
where an amount or a text does not fit its column or another row has the SKU; the
two dates are the database's. A name with U+0000 is refused when it is searched for,
before the write.
-/

namespace KomiSaas.Products

open KomiSaas.Lib KomiSaas.Shared

/-- The table, and the next value of `product_sku_seq`. -/
structure ProductStore where
  products : List ProductRow
  skuSequence : ℕ
  deriving DecidableEq

/-- What the use cases work with: the decimals, how their arithmetic is rounded,
    `toLowerCase()` and the `LOWER` of the database. -/
structure ProductEnv where
  decimal : DecimalJs
  rounded : ℚ → ℚ
  toLowerCase : JsString → JsString
  lower : JsString → JsString

/-- The environment with the arithmetic of the package read as exact. -/
def ProductEnv.exact (env : ProductEnv) : ProductEnv := { env with rounded := exactly }

namespace ProductRepository

/-- The amounts and the texts fit their columns (`products.sql`, lines 20–47). -/
def fits (product : Product) : Bool :=
  fitsVarchar 120 product.productName.value && product.productDescription.all fitsText &&
    product.productBasePrice.cents < 10 ^ 12 && product.productCost.cents < 10 ^ 12 &&
    product.productImgUrl.all fitsText && fitsVarchar 50 product.productSku

/-- No other row has the SKU. -/
def skuFree (store : ProductStore) (product : Product) : Bool :=
  store.products.all fun row => row.id = product.id || row.sku ≠ product.productSku

/-- `save` (lines 37–64). -/
def save (store : ProductStore) (product : Product) (now : Instant) : Option ProductStore :=
  if fits product && skuFree store product then
    some { store with
      products := Rows.upsert (·.id) (ProductMapper.toEntity product now now) store.products }
  else none

/-- The columns that `update` sets (lines 76–90). -/
def updated (product : Product) (now : Instant) (row : ProductRow) : ProductRow :=
  { ProductMapper.toEntity product row.createdAt now with id := row.id }

/-- `update` (lines 66–106): every row with the id, whatever it holds by now. -/
def update (store : ProductStore) (product : Product) (now : Instant) : Option ProductStore :=
  if fits product && skuFree store product then
    some { store with
      products := Rows.updateWhere (fun row => row.id = product.id) (updated product now)
        store.products }
  else none

/-- `existsByName` (lines 289–308). -/
def existsByName (env : ProductEnv) (store : ProductStore) (name : ProductName)
    (tenantId : Uuid) : Bool :=
  store.products.any fun row =>
    env.lower row.name = env.lower name.value && row.tenantId = tenantId && row.status ≠ .deleted

/-- `findById` (lines 310–328). A deleted product is treated as missing. -/
def findById (env : ProductEnv) (store : ProductStore) (id tenantId : Uuid) :
    Except ProductException (Option Product) :=
  match store.products.find? fun row =>
      row.id = id && row.tenantId = tenantId && row.status ≠ .deleted with
  | none => .ok none
  | some row => (ProductMapper.toDomain env.decimal row).map some

/-- `nextSkuSequence` (lines 330–342). -/
def nextSkuSequence (store : ProductStore) : ℕ × ProductStore :=
  (store.skuSequence, { store with skuSequence := store.skuSequence + 1 })

end ProductRepository

/-! ## What is read back -/

/-- A product that was read has the values of its row. -/
structure ReadFrom (row : ProductRow) (product : Product) : Prop where
  id : product.id = row.id
  tenantId : product.tenantId = row.tenantId
  name : product.productName.value = trim row.name
  basePrice : product.productBasePrice.cents = row.basePrice
  cost : product.productCost.cents = row.cost
  profitMargin : product.profitMargin.hundredths = row.profitMargin
  status : product.status = row.status
  sku : product.productSku = row.sku

theorem readFrom_of_toDomain {decimal : DecimalJs} {row : ProductRow} {product : Product}
    (h : ProductMapper.toDomain decimal row = .ok product) : ReadFrom row product := by
  obtain ⟨name, hname, h⟩ := bind_eq_ok.mp h
  obtain ⟨price, hprice, h⟩ := bind_eq_ok.mp h
  obtain ⟨cost, hcost, h⟩ := bind_eq_ok.mp h
  obtain ⟨margin, hmargin, h⟩ := bind_eq_ok.mp h
  obtain ⟨status, hstatus, h⟩ := bind_eq_ok.mp h
  obtain rfl := Except.ok.inj h
  have hamount : ∀ {n : ℕ} {money : Money},
      ofMoney (Money.of decimal (decimal.toFixed2 (n / 10 ^ 2)) (js "COP")) = .ok money →
      money.cents = n := by
    intro n money h
    have hread := @Money.of_getAmount decimal ⟨n, js "COP", by decide⟩
    rw [Except.ok.inj ((mapError_eq_ok.mp h).symm.trans hread)]
  refine ⟨rfl, rfl, ?_, hamount hprice, hamount hcost, ?_, ?_, rfl⟩
  · simp only [ProductName.create] at hname
    split_ifs at hname
    rw [← Except.ok.inj hname]
  · obtain ⟨magnitude, hparse, -, -, hvalue⟩ := ProfitMargin.create_ok_iff.mp hmargin
    rw [decimal.parse_toFixed2] at hparse
    rw [hvalue, ← (Decimal.finite.inj (Option.some.inj hparse)).2]
    exact Lib.Decimal.toScale_div _ _
  · rw [EntityStatus.create_value] at hstatus
    exact (Except.ok.inj hstatus).symm

namespace ProductRepository

variable {env : ProductEnv} {store store' : ProductStore} {product : Product} {id tenantId : Uuid}
  {now : Instant}

/-- A product that is found is a stored one that is not deleted. -/
theorem findById_eq_some (h : findById env store id tenantId = .ok (some product)) :
    ∃ row ∈ store.products, row.id = id ∧ row.tenantId = tenantId ∧ row.status ≠ .deleted ∧
      ReadFrom row product := by
  unfold findById at h
  split at h
  · cases Except.ok.inj h
  · rename_i row hrow
    obtain ⟨loaded, hload, hsome⟩ := map_eq_ok.mp h
    obtain rfl := Option.some.inj hsome
    have hcond := List.find?_some hrow
    simp only [Bool.and_eq_true, decide_eq_true_eq] at hcond
    exact ⟨row, List.mem_of_find?_eq_some hrow, hcond.1.1, hcond.1.2, hcond.2,
      readFrom_of_toDomain hload⟩

theorem save_eq_some (h : save store product now = some store') :
    store' = { store with
      products := Rows.upsert (·.id) (ProductMapper.toEntity product now now) store.products } := by
  unfold save at h
  split_ifs at h
  exact (Option.some.inj h).symm

theorem update_eq_some (h : update store product now = some store') :
    store' = { store with
      products := Rows.updateWhere (fun row => row.id = product.id) (updated product now)
        store.products } := by
  unfold update at h
  split_ifs at h
  exact (Option.some.inj h).symm

/-- The rows after `save`, by their ids. -/
theorem find_save (h : save store product now = some store') :
    Rows.find (·.id) id store'.products =
      if product.id = id then some (ProductMapper.toEntity product now now)
      else Rows.find (·.id) id store.products := by
  rw [save_eq_some h]
  exact Rows.find_upsert

/-- The rows after `update`, by their ids. -/
theorem find_update (h : update store product now = some store') :
    Rows.find (·.id) id store'.products =
      (Rows.find (·.id) id store.products).map fun row =>
        if row.id = product.id then updated product now row else row := by
  have hfind := @Rows.find_updateWhere _ _ _ (fun row : ProductRow => row.id) id store.products
    (fun row => row.id = product.id) (updated product now) fun _ _ => rfl
  rw [update_eq_some h]
  simpa using hfind

end ProductRepository

end KomiSaas.Products
