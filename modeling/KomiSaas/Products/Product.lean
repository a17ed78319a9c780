import KomiSaas.Products.Profitability

/-!
# The product aggregate

`products/domain/product.aggregate.ts`, with its mapper
(`products/infrastructure/persistence/mappers/products-mapper.ts`). The recipes
are disconnected in this version, so a product has no ingredients here.

A product that is accepted is read back from its row, with the same primitives,
exactly when the margin that was sent is not rounded to `0.00`
(`reloads_iff`): `ProfitMargin` checks the number before it rounds it, and
checks what it stored again when the row is read.
-/

namespace KomiSaas.Products

open KomiSaas.Lib KomiSaas.Lib.Decimal KomiSaas.Shared

/-! ## The aggregate -/

/-- The events that a product registers. -/
inductive ProductEvent where
  | created (productId tenantId productCategoryId : Uuid) (productName : JsString)
      (productDescription : Option JsString) (productSku : JsString)
      (productImgUrl : Option JsString) (productBasePrice costCurrency : JsString)
      (profitMargin : ProfitMargin) (status : EntityStatus)
  | deleted (tenantId productId deletedBy : Uuid)
  deriving DecidableEq

structure Product where
  id : Uuid
  tenantId : Uuid
  productCategoryId : Uuid
  productName : ProductName
  productDescription : Option JsString
  productSku : JsString
  productImgUrl : Option JsString
  productBasePrice : Money
  productCost : Money
  profitMargin : ProfitMargin
  status : EntityStatus
  createdAt : Instant
  updatedAt : Instant
  domainEvents : List ProductEvent
  deriving DecidableEq

/-- `ProductPrimitives`, without the ingredients. -/
structure ProductPrimitives where
  id : Uuid
  tenantId : Uuid
  productCategoryId : Uuid
  productName : JsString
  productDescription : Option JsString
  productSku : JsString
  productImgUrl : Option JsString
  productBasePrice : JsString
  costCurrency : JsString
  productCost : JsString
  profitMargin : JsString
  status : JsString
  createdAt : Instant
  updatedAt : Instant
  deriving DecidableEq

/-- What `create` takes. -/
structure ProductParams where
  tenantId : Uuid
  productCategoryId : Uuid
  productName : ProductName
  productDescription : Option JsString
  productSku : JsString
  productImgUrl : Option JsString
  productBasePrice : Money
  productCost : Money
  profitMargin : ProfitMargin
  deriving DecidableEq

/-- What `update` takes. -/
structure ProductChanges where
  productCategoryId : Uuid
  productName : ProductName
  productDescription : Option JsString
  productImgUrl : Option JsString
  productBasePrice : Money
  productCost : Money
  profitMargin : ProfitMargin
  deriving DecidableEq

/-- An error of `Money`, as an exception of a use case. -/
def ofMoney {α : Type} (x : Except MoneyError α) : Except ProductException α :=
  x.mapError .invalidMoney

namespace Product

/-- `toPrimitives` (lines 124–142). -/
def toPrimitives (decimal : DecimalJs) (product : Product) : ProductPrimitives where
  id := product.id
  tenantId := product.tenantId
  productCategoryId := product.productCategoryId
  productName := product.productName.value
  productDescription := product.productDescription
  productSku := product.productSku
  productImgUrl := product.productImgUrl
  productBasePrice := product.productBasePrice.getAmount decimal
  costCurrency := product.productBasePrice.currency
  productCost := product.productCost.getAmount decimal
  profitMargin := product.profitMargin.getValue decimal
  status := product.status.value
  createdAt := product.createdAt
  updatedAt := product.updatedAt

/-- `fromPrimitives` (lines 145–164). -/
def fromPrimitives (decimal : DecimalJs) (primitives : ProductPrimitives) :
    Except ProductException Product := do
  let productName ← ProductName.create primitives.productName
  let productBasePrice ← ofMoney (Money.of decimal primitives.productBasePrice
    primitives.costCurrency)
  let productCost ← ofMoney (Money.of decimal primitives.productCost primitives.costCurrency)
  let profitMargin ← ProfitMargin.create decimal primitives.profitMargin
  let status ← EntityStatus.create primitives.status
  .ok
    { id := primitives.id
      tenantId := primitives.tenantId
      productCategoryId := primitives.productCategoryId
      productName := productName
      productDescription := primitives.productDescription
      productSku := primitives.productSku
      productImgUrl := primitives.productImgUrl
      productBasePrice := productBasePrice
      productCost := productCost
      profitMargin := profitMargin
      status := status
      createdAt := primitives.createdAt
      updatedAt := primitives.updatedAt
      domainEvents := [] }

/-- `touch`. -/
def touch (product : Product) (now : Instant) : Product := { product with updatedAt := now }

/-- `ensureNotDelete` (lines 250–254). -/
def ensureNotDelete (product : Product) : Except ProductException Unit :=
  if product.status = .deleted then .error (.productDeleted product.id) else .ok ()

section

variable (rounded : ℚ → ℚ) (decimal : DecimalJs)

/-- `ensurePricingIsConsistent` (lines 237–247). An amount prints `0.00` exactly
    when it has no cents. -/
def ensurePricingIsConsistent (product : Product) : Except ProductException Unit :=
  if product.productBasePrice.cents = 0 then .error .basePrice
  else
    (ProfitabilityCalculator.calculate rounded decimal
      { cost := product.productCost.getAmount decimal
        price := some (product.productBasePrice.getAmount decimal)
        targetMargin := some (product.profitMargin.getValue decimal) }).map fun _ => ()

/-- `create` (lines 66–116), with the id that `ProductId.generate` returns. -/
def create (id : Uuid) (params : ProductParams) (now : Instant) :
    Except ProductException Product := do
  let product : Product :=
    { id := id
      tenantId := params.tenantId
      productCategoryId := params.productCategoryId
      productName := params.productName
      productDescription := params.productDescription
      productSku := params.productSku
      productImgUrl := params.productImgUrl
      productBasePrice := params.productBasePrice
      productCost := params.productCost
      profitMargin := params.profitMargin
      status := .active
      createdAt := now
      updatedAt := now
      domainEvents := [] }
  product.ensurePricingIsConsistent rounded decimal
  .ok
    { product with
      domainEvents :=
        [.created product.id product.tenantId product.productCategoryId product.productName.value
          product.productDescription product.productSku product.productImgUrl
          (product.productBasePrice.getAmount decimal) product.productBasePrice.currency
          product.profitMargin product.status] }

/-- `update` (lines 257–278). -/
def update (product : Product) (changes : ProductChanges) (now : Instant) :
    Except ProductException Product := do
  product.ensureNotDelete
  let product : Product :=
    { product with
      productCategoryId := changes.productCategoryId
      productName := changes.productName
      productDescription := changes.productDescription
      productImgUrl := changes.productImgUrl
      productBasePrice := changes.productBasePrice
      productCost := changes.productCost
      profitMargin := changes.profitMargin }
  product.ensurePricingIsConsistent rounded decimal
  .ok (product.touch now)

end

/-- `deactivate` (lines 167–176). -/
def deactivate (product : Product) (now : Instant) : Except ProductException Product := do
  product.ensureNotDelete
  if product.status = .inactive then .error .productAlreadyDeactivated
  else do
    let status ← product.status.transitionTo .inactive
    .ok ({ product with status := status }.touch now)

/-- `activate` (lines 179–188). -/
def activate (product : Product) (now : Instant) : Except ProductException Product := do
  product.ensureNotDelete
  if product.status = .active then .error .productAlreadyActivated
  else do
    let status ← product.status.transitionTo .active
    .ok ({ product with status := status }.touch now)

/-- `changeStatus` (lines 195–207). -/
def changeStatus (product : Product) (next : EntityStatus) (now : Instant) :
    Except ProductException Product :=
  match next with
  | .active => product.activate now
  | .inactive => product.deactivate now
  | next => (product.status.transitionTo next).map fun _ => product

/-- `delete` (lines 210–223). -/
def delete (product : Product) (deletedBy : Uuid) (now : Instant) :
    Except ProductException Product := do
  product.ensureNotDelete
  let status ← product.status.transitionTo .deleted
  .ok
    { product with
      status := status
      updatedAt := now
      domainEvents := product.domainEvents ++ [.deleted product.tenantId product.id deletedBy] }

end Product

/-! ## The row -/

/-- A row of `product`. The columns of two decimals hold hundredths, and are read
    back as text with both decimals. -/
structure ProductRow where
  id : Uuid
  tenantId : Uuid
  productCategoryId : Uuid
  name : JsString
  description : Option JsString
  basePrice : ℕ
  cost : ℕ
  profitMargin : ℕ
  status : EntityStatus
  imageUrl : Option JsString
  sku : JsString
  createdAt : Instant
  updatedAt : Instant
  deriving DecidableEq

namespace ProductMapper

/-- `toEntity` (lines 105–122), as the table stores it; the database sets the two
    dates. -/
def toEntity (product : Product) (createdAt updatedAt : Instant) : ProductRow where
  id := product.id
  tenantId := product.tenantId
  productCategoryId := product.productCategoryId
  name := product.productName.value
  description := product.productDescription
  basePrice := product.productBasePrice.cents
  cost := product.productCost.cents
  profitMargin := product.profitMargin.hundredths
  status := product.status
  imageUrl := product.productImgUrl
  sku := product.productSku
  createdAt := createdAt
  updatedAt := updatedAt

/-- `toDomain` (lines 80–103). -/
def toDomain (decimal : DecimalJs) (row : ProductRow) : Except ProductException Product :=
  Product.fromPrimitives decimal
    { id := row.id
      tenantId := row.tenantId
      productCategoryId := row.productCategoryId
      productName := row.name
      productDescription := row.description
      productSku := row.sku
      productImgUrl := row.imageUrl
      productBasePrice := decimal.toFixed2 (row.basePrice / 10 ^ 2)
      costCurrency := js "COP"
      productCost := decimal.toFixed2 (row.cost / 10 ^ 2)
      profitMargin := decimal.toFixed2 (row.profitMargin / 10 ^ 2)
      status := row.status.value
      createdAt := row.createdAt
      updatedAt := row.updatedAt }

end ProductMapper

namespace Product

open ProfitabilityCalculator (marginOf)

variable {rounded : ℚ → ℚ} {decimal : DecimalJs} {product product' : Product} {now : Instant}

/-! ## What the methods do -/

theorem ensurePricingIsConsistent_ok_iff :
    product.ensurePricingIsConsistent rounded decimal = .ok () ↔
      product.productBasePrice.cents ≠ 0 ∧ product.profitMargin.hundredths < 10000 ∧
        ProfitabilityCalculator.round (marginOf rounded (product.productCost.cents / 10 ^ 2)
          (product.productBasePrice.cents / 10 ^ 2)) = product.profitMargin.hundredths := by
  unfold ensurePricingIsConsistent
  split_ifs with hzero
  · simp [hzero]
  · rw [map_eq_ok, ← @ProfitabilityCalculator.calculate_ok_iff rounded decimal]
    simp only [hzero, ne_eq, not_false_eq_true, true_and, and_true]
    rfl

theorem create_ok {id : Uuid} {params : ProductParams}
    (h : create rounded decimal id params now = .ok product) :
    product.ensurePricingIsConsistent rounded decimal = .ok () ∧
      product.id = id ∧ product.tenantId = params.tenantId ∧
      product.productName = params.productName ∧
      product.productBasePrice = params.productBasePrice ∧
      product.productCost = params.productCost ∧ product.profitMargin = params.profitMargin ∧
      product.status = .active := by
  obtain ⟨u, hpricing, h⟩ := bind_eq_ok.mp h
  obtain rfl := Except.ok.inj h
  exact ⟨hpricing, rfl, rfl, rfl, rfl, rfl, rfl, rfl⟩

theorem update_ok {changes : ProductChanges}
    (h : product.update rounded decimal changes now = .ok product') :
    product.status ≠ .deleted ∧ product'.ensurePricingIsConsistent rounded decimal = .ok () ∧
      product' =
        { product with
          productCategoryId := changes.productCategoryId
          productName := changes.productName
          productDescription := changes.productDescription
          productImgUrl := changes.productImgUrl
          productBasePrice := changes.productBasePrice
          productCost := changes.productCost
          profitMargin := changes.profitMargin
          updatedAt := now } := by
  obtain ⟨u, hnot, h⟩ := bind_eq_ok.mp h
  obtain ⟨v, hpricing, h⟩ := bind_eq_ok.mp h
  obtain rfl := Except.ok.inj h
  refine ⟨?_, hpricing, rfl⟩
  unfold ensureNotDelete at hnot
  split_ifs at hnot with hdeleted
  exact hdeleted

/-! ## Reading a row back -/

/-- The currency of the use cases. -/
def cop : JsString := js "COP"

/-- The product is read back from its row with the same primitives, apart from
    the two dates. -/
def Reloads (decimal : DecimalJs) (product : Product) : Prop :=
  ∀ createdAt updatedAt, ∃ loaded,
    ProductMapper.toDomain decimal (ProductMapper.toEntity product createdAt updatedAt) =
        .ok loaded ∧
      loaded.toPrimitives decimal =
        { product.toPrimitives decimal with createdAt := createdAt, updatedAt := updatedAt }

/-- Loading a written row gives the product again. -/
theorem toDomain_toEntity (hprice : product.productBasePrice.currency = cop)
    (hcost : product.productCost.currency = cop) (hzero : product.profitMargin.hundredths ≠ 0)
    (hlt : product.profitMargin.hundredths < 10000) (createdAt updatedAt : Instant) :
    ProductMapper.toDomain decimal (ProductMapper.toEntity product createdAt updatedAt) =
      .ok
        { product with
          createdAt := createdAt
          updatedAt := updatedAt
          domainEvents := [] } := by
  have hprice' : ofMoney (Money.of decimal (product.productBasePrice.getAmount decimal) cop) =
      .ok product.productBasePrice := by
    rw [← hprice, Money.of_getAmount]
    rfl
  have hcost' : ofMoney (Money.of decimal (product.productCost.getAmount decimal) cop) =
      .ok product.productCost := by
    rw [← hcost, Money.of_getAmount]
    rfl
  show (ProductName.create product.productName.value).bind _ = _
  rw [ProductName.create_value]
  show (ofMoney (Money.of decimal (product.productBasePrice.getAmount decimal) cop)).bind _ = _
  rw [hprice']
  show (ofMoney (Money.of decimal (product.productCost.getAmount decimal) cop)).bind _ = _
  rw [hcost']
  show (ProfitMargin.create decimal (product.profitMargin.getValue decimal)).bind _ = _
  rw [ProfitMargin.create_getValue hzero hlt]
  show (EntityStatus.create product.status.value).bind _ = _
  rw [EntityStatus.create_value]
  rfl

/-- A margin that was rounded to `0.00` is refused. -/
theorem not_reloads (hzero : product.profitMargin.hundredths = 0) : ¬ product.Reloads decimal := by
  intro h
  obtain ⟨loaded, hload, -⟩ := h 0 0
  obtain ⟨name, -, h⟩ := bind_eq_ok.mp hload
  obtain ⟨price, -, h⟩ := bind_eq_ok.mp h
  obtain ⟨cost, -, h⟩ := bind_eq_ok.mp h
  obtain ⟨margin, hmargin, -⟩ := bind_eq_ok.mp h
  have hrefused := @ProfitMargin.create_getValue_zero decimal _ hzero
  cases hmargin.symm.trans hrefused

theorem reloads_iff (hprice : product.productBasePrice.currency = cop)
    (hcost : product.productCost.currency = cop)
    (hpricing : product.ensurePricingIsConsistent rounded decimal = .ok ()) :
    product.Reloads decimal ↔ product.profitMargin.hundredths ≠ 0 := by
  constructor
  · intro h hzero
    exact not_reloads hzero h
  · intro hzero createdAt updatedAt
    have hlt := (ensurePricingIsConsistent_ok_iff.mp hpricing).2.1
    exact ⟨_, toDomain_toEntity hprice hcost hzero hlt createdAt updatedAt, rfl⟩

/-- The margin of the text, before it is rounded, is at least half a hundredth. -/
def AtLeastHalfHundredth (decimal : DecimalJs) (text : JsString) : Prop :=
  ∃ magnitude, decimal.parse text = some (.finite false magnitude) ∧ 1 / 200 ≤ magnitude

theorem hundredths_ne_zero_iff {text : JsString} {margin : ProfitMargin}
    (h : ProfitMargin.create decimal text = .ok margin) :
    margin.hundredths ≠ 0 ↔ AtLeastHalfHundredth decimal text := by
  obtain ⟨magnitude, hparse, -, -, hvalue⟩ := ProfitMargin.create_ok_iff.mp h
  have hiff : AtLeastHalfHundredth decimal text ↔ 1 / 200 ≤ magnitude := by
    unfold AtLeastHalfHundredth
    simp [hparse]
  have hzero : toScale 2 magnitude = 0 ↔ (magnitude : ℚ) < 1 / 200 := by
    rw [toScale, nearest_eq_iff]
    have hnonneg : (0 : ℚ) ≤ magnitude := NNRat.cast_nonneg _
    push_cast
    constructor
    · rintro ⟨-, h⟩
      linarith
    · intro h
      constructor <;> linarith
  rw [hiff, hvalue, Ne, hzero, not_lt]
  exact_mod_cast Iff.rfl

theorem currency_of_money {text : JsString} {money : Money}
    (h : Money.of decimal text cop = .ok money) : money.currency = cop := by
  have hcop : toUpperCase (trim cop) = cop := by decide
  simp only [Money.of] at h
  split_ifs at h with hiso
  split at h
  · cases h
  · split_ifs at h
    obtain rfl := Except.ok.inj h
    exact hcop

/-- What `create`, or `update` on any product, accepts with this name, these
    amounts and this margin. -/
inductive Accepted (rounded : ℚ → ℚ) (decimal : DecimalJs) (name : ProductName)
    (price cost : Money) (margin : ProfitMargin) : Product → Prop
  | created {id : Uuid} {params : ProductParams} {now : Instant} {product : Product}
      (hname : params.productName = name) (hprice : params.productBasePrice = price)
      (hcost : params.productCost = cost) (hmargin : params.profitMargin = margin)
      (h : create rounded decimal id params now = .ok product) :
      Accepted rounded decimal name price cost margin product
  | updated {product product' : Product} {changes : ProductChanges} {now : Instant}
      (hname : changes.productName = name) (hprice : changes.productBasePrice = price)
      (hcost : changes.productCost = cost) (hmargin : changes.profitMargin = margin)
      (h : product.update rounded decimal changes now = .ok product') :
      Accepted rounded decimal name price cost margin product'

theorem Accepted.pricing {name : ProductName} {price cost : Money} {margin : ProfitMargin}
    (h : Accepted rounded decimal name price cost margin product) :
    product.ensurePricingIsConsistent rounded decimal = .ok () ∧
      product.productBasePrice = price ∧ product.productCost = cost ∧
      product.profitMargin = margin := by
  cases h with
  | created hname hprice hcost hmargin h =>
    obtain ⟨hpricing, -, -, -, hprice', hcost', hmargin', -⟩ := create_ok h
    exact ⟨hpricing, hprice'.trans hprice, hcost'.trans hcost, hmargin'.trans hmargin⟩
  | updated hname hprice hcost hmargin h =>
    obtain ⟨-, hpricing, rfl⟩ := update_ok h
    exact ⟨hpricing, hprice, hcost, hmargin⟩

/-- For every name, every price and cost that `Money.of` accepts in pesos and
    every margin that `ProfitMargin.create` accepts: a product that is then
    accepted is read back from its row, with the same primitives, exactly when
    the margin was at least half a hundredth before it was rounded. -/
theorem accepted_reloads_iff {priceText costText marginText : JsString} {name : ProductName}
    {price cost : Money} {margin : ProfitMargin}
    (hprice : Money.of decimal priceText cop = .ok price)
    (hcost : Money.of decimal costText cop = .ok cost)
    (hmargin : ProfitMargin.create decimal marginText = .ok margin)
    (h : Accepted rounded decimal name price cost margin product) :
    product.Reloads decimal ↔ AtLeastHalfHundredth decimal marginText := by
  obtain ⟨hpricing, rfl, rfl, rfl⟩ := h.pricing
  rw [reloads_iff (currency_of_money hprice) (currency_of_money hcost) hpricing]
  exact hundredths_ne_zero_iff hmargin

def sampleMargin : ProfitMargin := ⟨3000, by decide⟩

/-- The parameters of a product with a price and a cost in pesos. -/
def sampleParams (price cost : ℕ) (margin : ProfitMargin) : ProductParams where
  tenantId := js "10000000-0000-4000-8000-000000000001"
  productCategoryId := js "20000000-0000-4000-8000-000000000001"
  productName := ⟨js "Arepa", by decide, by decide, by decide⟩
  productDescription := none
  productSku := ProductSku.fromNumber 1
  productImgUrl := none
  productBasePrice := ⟨100 * price, cop, by decide⟩
  productCost := ⟨100 * cost, cop, by decide⟩
  profitMargin := margin

/-- The id of the first product. -/
def sampleProductId : Uuid := js "30000000-0000-4000-8000-000000000001"

/-- A price of 10 over a cost of 7 leaves a margin of 30, and is read back. -/
theorem accepted_reloads_iff_thirty :
    ∃ product, create toPrecision plainDecimal sampleProductId
        (sampleParams 10 7 ⟨3000, by decide⟩) 1000 = .ok product ∧
      product.Reloads plainDecimal := by
  obtain ⟨product, hcreate⟩ : ∃ product, create toPrecision plainDecimal sampleProductId
      (sampleParams 10 7 ⟨3000, by decide⟩) 1000 = .ok product := by
    apply exists_eq_ok
    decide +kernel
  refine ⟨product, hcreate, ?_⟩
  have hprice : Money.of plainDecimal (js "10") cop =
      .ok (sampleParams 10 7 ⟨3000, by decide⟩).productBasePrice := by decide +kernel
  have hcost : Money.of plainDecimal (js "7") cop =
      .ok (sampleParams 10 7 ⟨3000, by decide⟩).productCost := by decide +kernel
  have hmargin : ProfitMargin.create plainDecimal (js "30") = .ok ⟨3000, by decide⟩ := by
    decide +kernel
  have hparse : plainDecimal.parse (js "30") = some (.finite false 30) := by decide +kernel
  exact (accepted_reloads_iff hprice hcost hmargin (.created rfl rfl rfl rfl hcreate)).mpr
    ⟨30, hparse, by rw [div_le_iff₀ (by norm_num)]; norm_num⟩

/-- A margin of 0.004 is accepted with a price equal to the cost, stored as
    `0.00`, and the row cannot be read. -/
theorem accepted_not_reloads :
    ∃ margin product, ProfitMargin.create plainDecimal (js "0.004") = .ok margin ∧
      create toPrecision plainDecimal sampleProductId (sampleParams 10 10 margin) 1000 =
        .ok product ∧
      ¬ product.Reloads plainDecimal := by
  obtain ⟨product, hproduct⟩ : ∃ product, create toPrecision plainDecimal sampleProductId
      (sampleParams 10 10 ⟨0, by decide⟩) 1000 = .ok product := by
    apply exists_eq_ok
    decide +kernel
  refine ⟨⟨0, by decide⟩, product, by decide +kernel, hproduct, not_reloads ?_⟩
  obtain ⟨-, -, -, -, -, -, hmargin, -⟩ := create_ok hproduct
  rw [hmargin]
  rfl

end Product

end KomiSaas.Products
