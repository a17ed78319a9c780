import KomiSaas.Shared.Money
import KomiSaas.Lib.Errors
import KomiSaas.Lib.Rows

/-!
# `ProductBranchConfig` and its table

`context/product-branch-config/`: what a branch overrides of a product, the
aggregate with its two operations, and the repository over the table
`product_branch_configs` (`public/db/tables/products.sql`, lines 94–128), where
`NUMERIC` columns hold the number that is printed. Ids are opaque texts.

What is saved is read back (`toDomain_toPersistence`), and a row with a whole
price is what is saved of what it is read as (`toPersistence_read`).
-/

namespace KomiSaas.BranchConfigs

open KomiSaas.Lib KomiSaas.Shared

/-! ## Exceptions -/

/-- The exceptions of the two use cases that write configurations. -/
inductive ProductBranchConfigException where
  | emptyProductBranchConfig
  | productBranchConfigNotFound (productId branchId : Uuid)
  | duplicateBranchInProductConfig (branchId : Uuid)
  | productNotFound (productId : Uuid)
  | branchNotFoundForProducts (branchId : Uuid)
  | basePrice (detail : JsString)
  | invalidMoney (error : MoneyError)
  deriving DecidableEq

namespace ProductBranchConfigException

/-- The `code` of each exception. -/
def code : ProductBranchConfigException → JsString
  | .emptyProductBranchConfig => js "1421"
  | .productBranchConfigNotFound .. => js "1422"
  | .duplicateBranchInProductConfig _ => js "1423"
  | .productNotFound _ => js "1400"
  | .branchNotFoundForProducts _ => js "1410"
  | .basePrice _ => js "1016"
  | .invalidMoney error => error.code

/-- The `detail` of each exception. -/
def detail : ProductBranchConfigException → JsString
  | .emptyProductBranchConfig =>
    js "La configuración de la sucursal debe indicar el precio, el estado o ambos."
  | .productBranchConfigNotFound productId branchId =>
    js "La sucursal " ++ branchId ++ js " no tiene una configuración para el producto " ++
      productId ++ js "."
  | .duplicateBranchInProductConfig branchId =>
    js "La sucursal " ++ branchId ++ js " aparece más de una vez en la lista."
  | .productNotFound productId => js "No se encontró el producto con id " ++ productId ++ js "."
  | .branchNotFoundForProducts branchId =>
    js "La sucursal " ++ branchId ++ js " no existe o no está disponible."
  | .basePrice detail => detail
  | .invalidMoney error => error.detail

end ProductBranchConfigException

/-- The default currency of `Money.of`. -/
def defaultCurrency : JsString := js "COP"

/-- `Money.of`, with the exception that it lets through. -/
def moneyOf (decimal : DecimalJs) (amount currency : JsString) :
    Except ProductBranchConfigException Money :=
  (Money.of decimal amount currency).mapError .invalidMoney

/-! ## The aggregate -/

/-- `ProductBranchConfig`; what is `none` is inherited from the product. -/
structure ProductBranchConfig where
  id : Uuid
  tenantId : Uuid
  productId : Uuid
  branchId : Uuid
  price : Option Money
  isAvailable : Option Bool
  createdAt : Instant
  updatedAt : Instant
  deriving DecidableEq

/-- `ProductBranchConfigPrimitives`. -/
structure ProductBranchConfigPrimitives where
  id : Uuid
  tenantId : Uuid
  productId : Uuid
  branchId : Uuid
  price : Option JsString
  currency : Option JsString
  isAvailable : Option Bool
  createdAt : Instant
  updatedAt : Instant
  deriving DecidableEq

namespace ProductBranchConfig

/-- `ensureValidPrice` (lines 110–114): only zero is left to reject. -/
def ensureValidPrice (decimal : DecimalJs) (price : Option Money) :
    Except ProductBranchConfigException Unit :=
  match price with
  | none => .ok ()
  | some price =>
    match Money.zero decimal price.currency with
    | .error e => .error (.invalidMoney e)
    | .ok zero =>
      if price.equals zero then
        .error (.basePrice (js "El precio del producto en la sucursal debe ser mayor que 0."))
      else .ok ()

/-- `create` (lines 44–69). -/
def create (decimal : DecimalJs) (id tenantId productId branchId : Uuid) (price : Option Money)
    (isAvailable : Option Bool) (nowDate : Instant) :
    Except ProductBranchConfigException ProductBranchConfig := do
  ensureValidPrice decimal price
  if price.isNone && isAvailable.isNone then .error .emptyProductBranchConfig
  else
    .ok
      { id := id
        tenantId := tenantId
        productId := productId
        branchId := branchId
        price := price
        isAvailable := isAvailable
        createdAt := nowDate
        updatedAt := nowDate }

/-- `change` (lines 126–139). A key is absent, null or a value. -/
def change (decimal : DecimalJs) (config : ProductBranchConfig) (price : Option (Option Money))
    (isAvailable : Option (Option Bool)) (now : Instant) :
    Except ProductBranchConfigException ProductBranchConfig := do
  let price := price.getD config.price
  let isAvailable := isAvailable.getD config.isAvailable
  ensureValidPrice decimal price
  if price.isNone && isAvailable.isNone then .error .emptyProductBranchConfig
  else .ok { config with price := price, isAvailable := isAvailable, updatedAt := now }

/-- `toPrimitives` (lines 90–102). -/
def toPrimitives (decimal : DecimalJs) (config : ProductBranchConfig) :
    ProductBranchConfigPrimitives where
  id := config.id
  tenantId := config.tenantId
  productId := config.productId
  branchId := config.branchId
  price := config.price.map (·.getAmount decimal)
  currency := config.price.map (·.currency)
  isAvailable := config.isAvailable
  createdAt := config.createdAt
  updatedAt := config.updatedAt

/-- `fromPrimitives` (lines 72–87). -/
def fromPrimitives (decimal : DecimalJs) (primitives : ProductBranchConfigPrimitives) :
    Except ProductBranchConfigException ProductBranchConfig := do
  let price ← match primitives.price with
    | none => .ok none
    | some price => (moneyOf decimal price (primitives.currency.getD defaultCurrency)).map some
  .ok
    { id := primitives.id
      tenantId := primitives.tenantId
      productId := primitives.productId
      branchId := primitives.branchId
      price := price
      isAvailable := primitives.isAvailable
      createdAt := primitives.createdAt
      updatedAt := primitives.updatedAt }

/-- Something is overridden, and a price is not zero. -/
structure Valid (config : ProductBranchConfig) : Prop where
  overrides : config.price.isSome = true ∨ config.isAvailable.isSome = true
  positive : ∀ price ∈ config.price, 0 < price.cents

end ProductBranchConfig

/-! ## The table -/

/-- `ProductBranchConfigEntity`; the amount in hundredths. -/
structure ProductBranchConfigRow where
  id : Uuid
  tenantId : Uuid
  productId : Uuid
  branchId : Uuid
  priceAmount : Option ℕ
  priceCurrency : Option JsString
  isAvailable : Option Bool
  createdAt : Instant
  updatedAt : Instant
  deriving DecidableEq

namespace ProductBranchConfigMapper

/-- `toDomain`. -/
def toDomain (decimal : DecimalJs) (row : ProductBranchConfigRow) :
    Except ProductBranchConfigException ProductBranchConfig :=
  ProductBranchConfig.fromPrimitives decimal
    { id := row.id
      tenantId := row.tenantId
      productId := row.productId
      branchId := row.branchId
      price := row.priceAmount.map fun amount : ℕ => decimal.toFixed2 ((amount : ℚ≥0) / 10 ^ 2)
      currency := row.priceCurrency
      isAvailable := row.isAvailable
      createdAt := row.createdAt
      updatedAt := row.updatedAt }

/-- `toPersistence`; the column takes the number that `getAmount` prints. -/
def toPersistence (config : ProductBranchConfig) : ProductBranchConfigRow where
  id := config.id
  tenantId := config.tenantId
  productId := config.productId
  branchId := config.branchId
  priceAmount := config.price.map (·.cents)
  priceCurrency := config.price.map (·.currency)
  isAvailable := config.isAvailable
  createdAt := config.createdAt
  updatedAt := config.updatedAt

end ProductBranchConfigMapper

namespace ProductBranchConfigRow

/-- The price of a row, where it is whole. -/
def price (row : ProductBranchConfigRow) : Option Money :=
  match row.priceAmount, row.priceCurrency with
  | some cents, some currency =>
    if iso : isIsoCode currency = true then some ⟨cents, currency, iso⟩ else none
  | _, _ => none

/-- The configuration that a row holds. -/
def read (row : ProductBranchConfigRow) : ProductBranchConfig where
  id := row.id
  tenantId := row.tenantId
  productId := row.productId
  branchId := row.branchId
  price := row.price
  isAvailable := row.isAvailable
  createdAt := row.createdAt
  updatedAt := row.updatedAt

/-- What identifies a row besides its id: `UNIQUE (product_id, branch_id)`. -/
def key (row : ProductBranchConfigRow) : Uuid × Uuid := (row.productId, row.branchId)

/-- The row is what is saved of a configuration that overrides something. -/
structure Valid (row : ProductBranchConfigRow) : Prop where
  saved : ProductBranchConfigMapper.toPersistence row.read = row
  config : row.read.Valid

/-- `NUMERIC(12, 2)` and `ck_product_branch_configs_price`. -/
def meetsChecks (row : ProductBranchConfigRow) : Bool :=
  row.priceAmount.isNone = row.priceCurrency.isNone &&
    row.priceAmount.all fun amount => 0 < amount && amount < 10 ^ 12

end ProductBranchConfigRow

/-! ## The repository -/

namespace ProductBranchConfigRepositoryImpl

/-- `order: { createdAt: "ASC", id: "ASC" }`. -/
def precedes (row other : ProductBranchConfigRow) : Prop :=
  row.createdAt < other.createdAt ∨ (row.createdAt = other.createdAt ∧ row.id ≤ other.id)

instance : DecidableRel precedes := fun _ _ => inferInstanceAs (Decidable (_ ∨ _))

/-- `findByProduct` (lines 27–38). -/
def findByProduct (decimal : DecimalJs) (table : List ProductBranchConfigRow)
    (tenantId productId : Uuid) :
    Except ProductBranchConfigException (List ProductBranchConfig) :=
  ((table.filter fun row => row.tenantId = tenantId && row.productId = productId).insertionSort
    precedes).mapM (ProductBranchConfigMapper.toDomain decimal)

/-- The table after the upserts of `saveMany`. -/
def written (table : List ProductBranchConfigRow) (configs : List ProductBranchConfig) :
    List ProductBranchConfigRow :=
  Rows.upsertAll (·.id) (configs.map ProductBranchConfigMapper.toPersistence) table

/-- `saveMany` (lines 21–25); `none` where PostgreSQL refuses the transaction. -/
def saveMany (table : List ProductBranchConfigRow) (configs : List ProductBranchConfig) :
    Option (List ProductBranchConfigRow) :=
  if (configs.map ProductBranchConfigMapper.toPersistence).all (·.meetsChecks) &&
      ((written table configs).map (·.key)).Nodup then
    some (written table configs)
  else none

/-- `deleteMany` (lines 40–47). -/
def deleteMany (table : List ProductBranchConfigRow) (ids : List Uuid) (tenantId : Uuid) :
    List ProductBranchConfigRow :=
  table.filter fun row => !(row.id ∈ ids && row.tenantId = tenantId)

end ProductBranchConfigRepositoryImpl

/-! ## Reading what was written -/

open ProductBranchConfigMapper

variable {decimal : DecimalJs} {config : ProductBranchConfig} {row : ProductBranchConfigRow}

/-- What is saved is read back. -/
theorem toDomain_toPersistence : toDomain decimal (toPersistence config) = .ok config := by
  obtain ⟨id, tenantId, productId, branchId, price, isAvailable, createdAt, updatedAt⟩ := config
  cases price with
  | none => rfl
  | some price =>
    have hread : Money.of decimal (decimal.toFixed2 (price.cents / 10 ^ 2)) price.currency =
        .ok price := Money.of_getAmount
    simp only [toDomain, toPersistence, ProductBranchConfig.fromPrimitives, Option.map_some,
      Option.getD_some, moneyOf, hread]
    rfl

@[simp] theorem read_toPersistence : (toPersistence config).read = config := by
  obtain ⟨id, tenantId, productId, branchId, price, isAvailable, createdAt, updatedAt⟩ := config
  cases price with
  | none => rfl
  | some price =>
    simp [ProductBranchConfigRow.read, ProductBranchConfigRow.price, toPersistence, price.iso]

theorem valid_toPersistence (h : config.Valid) : (toPersistence config).Valid where
  saved := by rw [read_toPersistence]
  config := by
    rw [read_toPersistence]
    exact h

/-- A valid row overrides the price or the state. -/
theorem ProductBranchConfigRow.Valid.overrides (h : row.Valid) :
    row.priceAmount.isSome = true ∨ row.isAvailable.isSome = true := by
  have hoverrides := h.config.overrides
  rw [← h.saved]
  simpa [toPersistence] using hoverrides

/-- Its price is above zero. -/
theorem ProductBranchConfigRow.Valid.positive (h : row.Valid) :
    ∀ amount ∈ row.priceAmount, 0 < amount := by
  rw [← h.saved]
  intro amount hamount
  obtain ⟨price, hprice, rfl⟩ := Option.map_eq_some_iff.mp (Option.mem_def.mp hamount)
  exact h.config.positive price hprice

/-- A valid row is read without an error. -/
theorem toDomain_of_valid (h : row.Valid) : toDomain decimal row = .ok row.read := by
  rw [← h.saved, toDomain_toPersistence, h.saved]

end KomiSaas.BranchConfigs
