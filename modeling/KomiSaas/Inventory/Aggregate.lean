import KomiSaas.Inventory.Reads

/-!
# `InventoryItem`: activation and primitives

`inventory/domain/inventory-item.aggregate.ts`, lines 691–764, with the primitives of
its child entities, and the calls of its public methods as one type (`Mutation`).
Both dates of an item are valid.

`isUuid` is `validate` of the package `uuid`, and `parseDate` is `new Date(text)`.
-/

namespace KomiSaas.Inventory

open KomiSaas.Lib KomiSaas.Shared

/-- What the aggregate throws: a domain exception, `InvalidUuidException`, a plain
    `Error`, or the `RangeError` of `toISOString`. -/
inductive AggregateException where
  | inventory (error : InventoryException)
  | invalidUuid (value : JsString)
  | plain (message : JsString)
  | invalidTimeValue
  deriving DecidableEq

/-- `InventoryBatchPrimitives`. -/
structure InventoryBatchPrimitives where
  id : JsString
  branchId : Uuid
  quantityReceived : JsString
  quantityRemaining : JsString
  unitCostAmount : JsString
  unitCostCurrency : JsString
  expirationDate : Option JsString
  receivedAt : JsDate
  deriving DecidableEq

/-- `InventoryBranchConfigPrimitives`. -/
structure InventoryBranchConfigPrimitives where
  id : JsString
  branchId : Uuid
  minStock : JsString
  deriving DecidableEq

/-- `InventoryItemPrimitives`. -/
structure InventoryItemPrimitives where
  id : JsString
  tenantId : Uuid
  sku : JsString
  name : JsString
  unitOfMeasure : JsString
  isPerishable : Bool
  isActive : Bool
  minGlobalStock : Option JsString
  createdAt : Instant
  updatedAt : Instant
  batches : List InventoryBatchPrimitives
  branchConfigs : List InventoryBranchConfigPrimitives
  deriving DecidableEq

/-! ## `toPrimitives` -/

/-- Lines 232–243 of the batch. -/
def InventoryBatch.toPrimitives (decimal : DecimalJs) (batch : InventoryBatch) :
    InventoryBatchPrimitives where
  id := batch.id
  branchId := batch.branchId
  quantityReceived := batch.quantityReceived.getValue decimal
  quantityRemaining := batch.quantityRemaining.getValue decimal
  unitCostAmount := batch.unitCost.getAmount decimal
  unitCostCurrency := batch.unitCost.currency
  expirationDate := batch.expirationDate.map isoText
  receivedAt := batch.receivedAt

/-- Of the configuration of a branch. -/
def InventoryBranchConfig.toPrimitives (decimal : DecimalJs) (config : InventoryBranchConfig) :
    InventoryBranchConfigPrimitives where
  id := config.id
  branchId := config.branchId
  minStock := config.minStock.getValue decimal

/-- Lines 723–738. -/
def InventoryItem.toPrimitives (decimal : DecimalJs) (item : InventoryItem) :
    InventoryItemPrimitives where
  id := item.id
  tenantId := item.tenantId
  sku := item.sku
  name := item.name.value
  unitOfMeasure := item.unitOfMeasure.value
  isPerishable := item.isPerishable
  isActive := item.isActive
  minGlobalStock := item.minGlobalStock.map (·.getValue decimal)
  createdAt := item.createdAt
  updatedAt := item.updatedAt
  batches := item.batches.map (·.toPrimitives decimal)
  branchConfigs := item.branchConfigs.map (·.toPrimitives decimal)

/-! ## `fromPrimitives` -/

/-- The constructor of `Uuid`, behind the `create` of the three ids. -/
def createId (isUuid : JsString → Bool) (value : JsString) : Except AggregateException Uuid :=
  if isUuid value then .ok value else .error (.invalidUuid value)

/-- `InventoryBatchExpirationDate.create` of a text. -/
def InventoryBatchExpirationDate.create (parseDate : JsString → JsDate) (raw : JsString) :
    Except AggregateException Instant :=
  match parseDate raw with
  | none =>
    .error (.inventory
      (.invalidExpirationDate (js "\"" ++ raw ++ js "\" no es una fecha válida")))
  | some date => .ok date

/-- `Quantity.of` of a text of the primitives. -/
def readQuantity (decimal : DecimalJs) (amount : JsString) : Except AggregateException Quantity :=
  (Quantity.of decimal amount).mapError fun error => .inventory (.invalidQuantity error)

/-- `Money.of` of the texts of the primitives. -/
def readMoney (decimal : DecimalJs) (amount currency : JsString) :
    Except AggregateException Money :=
  (Money.of decimal amount currency).mapError fun error => .inventory (.invalidMoney error)

/-- A value that may be absent, read where it is there. -/
def readOptional {α β : Type} (read : α → Except AggregateException β) :
    Option α → Except AggregateException (Option β)
  | none => .ok none
  | some a => (read a).map some

/-- Lines 253–263 of the batch. An empty expiration date is none. -/
def InventoryBatch.fromPrimitives (isUuid : JsString → Bool) (parseDate : JsString → JsDate)
    (decimal : DecimalJs) (p : InventoryBatchPrimitives) :
    Except AggregateException InventoryBatch := do
  let id ← createId isUuid p.id
  let quantityReceived ← readQuantity decimal p.quantityReceived
  let quantityRemaining ← readQuantity decimal p.quantityRemaining
  let unitCost ← readMoney decimal p.unitCostAmount p.unitCostCurrency
  let expirationDate ←
    readOptional (InventoryBatchExpirationDate.create parseDate) (truthy p.expirationDate)
  return {
    id := id
    branchId := p.branchId
    quantityReceived := quantityReceived
    quantityRemaining := quantityRemaining
    unitCost := unitCost
    expirationDate := expirationDate
    receivedAt := p.receivedAt }

/-- Of the configuration of a branch. -/
def InventoryBranchConfig.fromPrimitives (isUuid : JsString → Bool) (decimal : DecimalJs)
    (p : InventoryBranchConfigPrimitives) : Except AggregateException InventoryBranchConfig := do
  let id ← createId isUuid p.id
  let minStock ← readQuantity decimal p.minStock
  return { id := id, branchId := p.branchId, minStock := minStock }

/-- Lines 749–764. -/
def InventoryItem.fromPrimitives (isUuid : JsString → Bool) (parseDate : JsString → JsDate)
    (decimal : DecimalJs) (p : InventoryItemPrimitives) :
    Except AggregateException InventoryItem := do
  let id ← createId isUuid p.id
  let name ← (InventoryItemName.create p.name).mapError .inventory
  let unitOfMeasure ← (InventoryItemUnit.create p.unitOfMeasure).mapError .inventory
  let batches ← p.batches.mapM (InventoryBatch.fromPrimitives isUuid parseDate decimal)
  let minGlobalStock ← readOptional (readQuantity decimal) p.minGlobalStock
  let branchConfigs ← p.branchConfigs.mapM (InventoryBranchConfig.fromPrimitives isUuid decimal)
  return {
    id := id
    tenantId := p.tenantId
    sku := p.sku
    name := name
    unitOfMeasure := unitOfMeasure
    batches := batches
    isPerishable := p.isPerishable
    isActive := p.isActive
    minGlobalStock := minGlobalStock
    branchConfigs := branchConfigs
    createdAt := p.createdAt
    updatedAt := p.updatedAt
    domainEvents := [] }

namespace InventoryItem

/-! ## The calls that change an item -/

/-- What a call of the aggregate ends with, where it may throw any exception. -/
abbrev Ended := Except AggregateException Unit × InventoryItem

/-- A method that throws domain exceptions only. -/
def ended (outcome : Outcome) : Ended := (outcome.1.mapError .inventory, outcome.2)

/-- `desactivate` (lines 691–698). -/
def desactivate (item : InventoryItem) (now : Instant) : Ended :=
  if !item.isActive then (.error (.plain (js "El item se encuentra desactivado.")), item)
  else (.ok (), { item with isActive := false }.touch now)

/-- `activate` (lines 706–713). -/
def activate (item : InventoryItem) (now : Instant) : Ended :=
  if item.isActive then (.error (.plain (js "El item se encuentra activado.")), item)
  else (.ok (), { item with isActive := true }.touch now)

/-- The calls of the methods that change an item. `configId` generates the id of a
    configuration from its branch. -/
inductive Mutation where
  | recivedBatch (batchId branchId : Uuid) (quantityReceived : Quantity) (unitCost : Money)
      (expirationDate : Option Instant) (receivedAt : Option JsDate)
  | consume (quantity : Quantity) (date : Option JsDate)
  | registerWaste (branchId : Uuid) (quantity : Quantity) (reason : JsString)
      (occurredAt : Option JsDate)
  | countStock (branchId : Uuid) (actualTotal : Quantity) (reason : JsString)
      (occurredAt : Option JsDate)
  | setGlobalMinimum (minStock : Option Quantity)
  | setMinimumForBranch (configId branchId : Uuid) (minStock : Option Quantity)
  | setMinimumsForBranches (configId : Uuid → Uuid) (entries : List (Uuid × Option Quantity))
  | update (name : Option InventoryItemName) (unitOfMeasure : Option MeasurementUnit)
      (isPerishable : Option Bool)
  | activate
  | desactivate

/-- The method of a call. -/
def Mutation.run (decimal : DecimalJs) (now : Instant) (item : InventoryItem) : Mutation → Ended
  | .recivedBatch batchId branchId quantityReceived unitCost expirationDate receivedAt =>
    ended (item.recivedBatch decimal batchId branchId quantityReceived unitCost expirationDate
      receivedAt now)
  | .consume quantity date => ended (item.consume decimal quantity date now)
  | .registerWaste branchId quantity reason occurredAt =>
    ended (item.registerWaste decimal branchId quantity reason occurredAt now)
  | .countStock branchId actualTotal reason occurredAt =>
    ended (item.countStock decimal branchId actualTotal reason occurredAt now)
  | .setGlobalMinimum minStock => (.ok (), item.setGlobalMinimum minStock now)
  | .setMinimumForBranch configId branchId minStock =>
    (.ok (), item.setMinimumForBranch configId branchId minStock now)
  | .setMinimumsForBranches configId entries =>
    ended (item.setMinimumsForBranches configId entries now)
  | .update name unitOfMeasure isPerishable =>
    ended (item.update name unitOfMeasure isPerishable now)
  | .activate => item.activate now
  | .desactivate => item.desactivate now

end InventoryItem

end KomiSaas.Inventory
