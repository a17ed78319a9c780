import KomiSaas.Inventory.Events
import KomiSaas.Lib.Rows

/-!
# `InventoryItem`

`inventory/domain/inventory-item.aggregate.ts`. A method that changes the item
returns the item it leaves, also where it throws. A batch is changed in place,
so the loops write it back by its id.

The loops of `consume`, `registerWaste` and `countStock` differ only in the call
that reduces a batch: `allocate` is the loop with that call as a parameter.

`now` stands for every `new Date()` of one call.
-/

namespace KomiSaas.Inventory

open KomiSaas.Lib KomiSaas.Shared

structure InventoryItem where
  id : Uuid
  tenantId : Uuid
  sku : JsString
  name : InventoryItemName
  unitOfMeasure : MeasurementUnit
  batches : List InventoryBatch
  isPerishable : Bool
  isActive : Bool
  minGlobalStock : Option Quantity
  branchConfigs : List InventoryBranchConfig
  createdAt : Instant
  updatedAt : Instant
  domainEvents : List DomainEvent
  deriving DecidableEq

/-- What a method of the aggregate ends with: its exception, if any, and the item. -/
abbrev Outcome := Except InventoryException Unit × InventoryItem

/-! ## Order -/

/-- `compararPorFefo` (lines 449–462); `none` is `NaN`. -/
def compararPorFefo (loteA loteB : InventoryBatch) : Option ℤ :=
  match loteA.expirationDate, loteB.expirationDate with
  | some vencimientoA, some vencimientoB => some (vencimientoA - vencimientoB)
  | _, _ => (loteA.receivedAt).bind fun a => (loteB.receivedAt).map fun b => a - b

/-- `sort(compararPorFefo)`: a stable sort, where `NaN` counts as zero. -/
def sortPorFefo (batches : List InventoryBatch) : List InventoryBatch :=
  batches.mergeSort fun loteA loteB => (compararPorFefo loteA loteB).getD 0 ≤ 0

/-! ## The allocation loop -/

/-- Take `pending` from the batches in order, each reduced by `draw`: the
    details of what was taken, and the batches of the item afterwards. -/
def allocate (decimal : DecimalJs)
    (draw : InventoryBatch → Quantity → Except InventoryException InventoryBatch) :
    List InventoryBatch → Quantity → List InventoryBatch →
      Except InventoryException (List BatchDetail) × List InventoryBatch
  | [], _, batches => (.ok [], batches)
  | batch :: ordered, pending, batches =>
    if pending.isZero then (.ok [], batches)
    else
      let take :=
        if pending.isGreaterThan batch.quantityRemaining then batch.quantityRemaining else pending
      match draw batch take with
      | .error e => (.error e, batches)
      | .ok drawn =>
        let batches := Rows.updateWhere (fun b => b.id = drawn.id) (fun _ => drawn) batches
        match pending.subtract take with
        | .error e => (.error (.invalidQuantity e), batches)
        | .ok pending =>
          match allocate decimal draw ordered pending batches with
          | (.error e, batches) => (.error e, batches)
          | (.ok details, batches) => (.ok (BatchDetail.of decimal batch take :: details), batches)

namespace InventoryItem

/-- `registerEvent` of `AggregateRoot`. -/
def registerEvent (item : InventoryItem) (event : DomainEvent) : InventoryItem :=
  { item with domainEvents := item.domainEvents ++ [event] }

/-- `touch` (lines 630–632). -/
def touch (item : InventoryItem) (now : Instant) : InventoryItem := { item with updatedAt := now }

/-- `create` (lines 81–121). -/
def create (id tenantId : Uuid) (sku : JsString) (name : InventoryItemName)
    (unitOfMeasure : MeasurementUnit) (isPerishable : Bool) (now : Instant) : InventoryItem :=
  let item : InventoryItem :=
    { id := id
      tenantId := tenantId
      sku := sku
      name := name
      unitOfMeasure := unitOfMeasure
      batches := []
      isPerishable := isPerishable
      isActive := true
      minGlobalStock := none
      branchConfigs := []
      createdAt := now
      updatedAt := now
      domainEvents := [] }
  item.registerEvent
    (.itemCreated
      { tenantId := tenantId
        sku := sku
        name := name.value
        unitOfMeasure := unitOfMeasure.value
        isPerishable := isPerishable
        isActive := true
        createdAt := now
        updatedAt := now
        occurredOn := some now })

/-- `recivedBatch` (lines 133–172). -/
def recivedBatch (decimal : DecimalJs) (item : InventoryItem) (batchId branchId : Uuid)
    (quantityReceived : Quantity) (unitCost : Money) (expirationDate : Option Instant)
    (receivedAt : Option JsDate) (now : Instant) : Outcome :=
  if !item.isActive then (.error (.inactiveItem item.id), item)
  else if item.isPerishable && expirationDate.isNone then
    (.error (.perishableRequiresExpiration item.id), item)
  else
    match InventoryBatch.create batchId branchId quantityReceived unitCost
        (if item.isPerishable then expirationDate else none) receivedAt now with
    | .error e => (.error e, item)
    | .ok batch =>
      let item := { item with batches := item.batches ++ [batch] }
      let item := item.registerEvent
        (.stockReceived
          { itemId := item.id
            tenantId := item.tenantId
            branchId := branchId
            batchId := batch.id
            quantity := quantityReceived.getValue decimal
            unitCostAmount := unitCost.getAmount decimal
            unitCostCurrency := unitCost.currency
            occurredOn := receivedAt.getD (some now) })
      (.ok (), item.touch now)

/-- The sum of what the batches hold. -/
def stockOf (batches : List InventoryBatch) : Quantity :=
  batches.foldl (fun total batch => total.add batch.quantityRemaining) Quantity.zero

/-- `currentStock` (lines 286–290). -/
def currentStock (item : InventoryItem) (date : JsDate) : Quantity :=
  stockOf (item.batches.filter (·.isActive date))

/-- `currentStockForBranch` (lines 391–395). -/
def currentStockForBranch (item : InventoryItem) (branchId : Uuid) (date : JsDate) : Quantity :=
  stockOf (item.batches.filter fun batch => batch.isActive date && batch.branchId = branchId)

/-- `activateBatchesOfBranch` (lines 615–619). -/
def activateBatchesOfBranch (item : InventoryItem) (branchId : Uuid) (date : JsDate) :
    List InventoryBatch :=
  item.batches.filter fun batch => batch.branchId = branchId && batch.isActive date

/-- The branches of the active batches, each once (lines 193–197). -/
def activeBranches (item : InventoryItem) (date : JsDate) : List Uuid :=
  ((item.batches.filter (·.isActive date)).map (·.branchId)).eraseDups

/-- `consume` (lines 189–276). -/
def consume (decimal : DecimalJs) (item : InventoryItem) (quantity : Quantity)
    (date : Option JsDate) (now : Instant) : Outcome :=
  let date := date.getD (some now)
  if 1 < (item.activeBranches date).length then (.error (.ambiguousBranchScope item.id), item)
  else if quantity.isZero then (.error .nonPositiveConsumption, item)
  else
    let available := item.currentStock date
    if quantity.isGreaterThan available then
      (.error (.insufficientStock item.id (quantity.getValue decimal) (available.getValue decimal)),
        item)
    else
      let ordered := sortPorFefo (item.batches.filter (·.isActive date))
      match allocate decimal InventoryBatch.consume ordered quantity item.batches with
      | (.error e, batches) => (.error e, { item with batches := batches })
      | (.ok consumedBatches, batches) =>
        let scopeBranchId := (item.activeBranches date).head?
        let item := { item with batches := batches }
        let item :=
          match scopeBranchId with
          | none => item
          | some branchId =>
            item.registerEvent
              (.stockConsumed
                { itemId := item.id
                  tenantId := item.tenantId
                  branchId := branchId
                  quantity := quantity.getValue decimal
                  consumedBatches := consumedBatches
                  occurredOn := date })
        (.ok (), item.touch now)

/-- `registerWaste` (lines 475–533). -/
def registerWaste (decimal : DecimalJs) (item : InventoryItem) (branchId : Uuid)
    (quantity : Quantity) (reason : JsString) (occurredAt : Option JsDate) (now : Instant) :
    Outcome :=
  let reason := trim reason
  if reason = [] then (.error (.reasonRequired (js "merma")), item)
  else if quantity.isZero then (.error .nonPositiveConsumption, item)
  else
    let occurredOn := occurredAt.getD (some now)
    let available := item.currentStockForBranch branchId occurredOn
    if quantity.isGreaterThan available then
      (.error (.insufficientStock item.id (quantity.getValue decimal) (available.getValue decimal)),
        item)
    else
      let ordered := sortPorFefo (item.activateBatchesOfBranch branchId occurredOn)
      match allocate decimal InventoryBatch.waste ordered quantity item.batches with
      | (.error e, batches) => (.error e, { item with batches := batches })
      | (.ok wastedBatches, batches) =>
        let item := { item with batches := batches }
        let item := item.registerEvent
          (.stockWasted
            { itemId := item.id
              tenantId := item.tenantId
              branchId := branchId
              reason := reason
              wastedBatches := wastedBatches
              occurredOn := occurredOn })
        (.ok (), item.touch now)

/-- What the loop of `countStock` does to a batch (line 585). -/
def adjustOut (batch : InventoryBatch) (take : Quantity) :
    Except InventoryException InventoryBatch :=
  match batch.quantityRemaining.subtract take with
  | .error e => .error (.invalidQuantity e)
  | .ok newRemaining => .ok (batch.adjustTo newRemaining)

/-- `countStock` (lines 551–610). -/
def countStock (decimal : DecimalJs) (item : InventoryItem) (branchId : Uuid)
    (actualTotal : Quantity) (reason : JsString) (occurredAt : Option JsDate) (now : Instant) :
    Outcome :=
  let reason := trim reason
  if reason = [] then (.error (.reasonRequired (js "conteo")), item)
  else
    let occurredOn := occurredAt.getD (some now)
    let current := item.currentStockForBranch branchId occurredOn
    if actualTotal.isGreaterThan current then (.error (.countIncreaseNotAllowed item.id), item)
    else if !current.isGreaterThan actualTotal then
      (.error (.noAdjustmentDifference (js "la sucursal " ++ branchId)), item)
    else
      match current.subtract actualTotal with
      | .error e => (.error (.invalidQuantity e), item)
      | .ok missing =>
        let ordered := sortPorFefo (item.activateBatchesOfBranch branchId occurredOn)
        match allocate decimal adjustOut ordered missing item.batches with
        | (.error e, batches) => (.error e, { item with batches := batches })
        | (.ok details, batches) =>
          let item := { item with batches := batches }
          let item := item.registerEvent
            (.stockAdjusted
              { itemId := item.id
                tenantId := item.tenantId
                branchId := branchId
                reason := reason
                adjustedBatches := details.map fun detail => ⟨detail, .adjustOut⟩
                occurredOn := occurredOn })
          (.ok (), item.touch now)

/-- `setGlobalMinimum` (lines 298–301). -/
def setGlobalMinimum (item : InventoryItem) (minStock : Option Quantity) (now : Instant) :
    InventoryItem :=
  { item with minGlobalStock := minStock }.touch now

/-- `setMinimumForBranch` (lines 343–367). `configId` is the id of a
    configuration created for the branch. -/
def setMinimumForBranch (item : InventoryItem) (configId branchId : Uuid)
    (minStock : Option Quantity) (now : Instant) : InventoryItem :=
  match minStock with
  | none =>
    { item with branchConfigs := Rows.remove (·.branchId) branchId item.branchConfigs }.touch now
  | some minStock =>
    let config : InventoryBranchConfig :=
      match Rows.find (·.branchId) branchId item.branchConfigs with
      | some existing => existing.changeMinimum minStock
      | none => ⟨configId, branchId, minStock⟩
    -- in the place of the configuration of this branch, or else at the end
    { item with branchConfigs := Rows.upsert (·.branchId) config item.branchConfigs }.touch now

/-- `setMinimumsForBranches` (lines 312–334). -/
def setMinimumsForBranches (item : InventoryItem) (configId : Uuid → Uuid)
    (entries : List (Uuid × Option Quantity)) (now : Instant) : Outcome :=
  if entries = [] then (.error (.emptyUpdate item.id), item)
  else
    match Rows.firstRepeated [] (entries.map Prod.fst) with
    | some branchId => (.error (.duplicateBranchInBatch branchId), item)
    | none =>
      let item := entries.foldl
        (fun item entry => item.setMinimumForBranch (configId entry.1) entry.1 entry.2 now) item
      (.ok (), item.touch now)

/-- `update` (lines 645–680). -/
def update (item : InventoryItem) (name : Option InventoryItemName)
    (unitOfMeasure : Option MeasurementUnit) (isPerishable : Option Bool) (now : Instant) :
    Outcome :=
  if name.isNone && unitOfMeasure.isNone && isPerishable.isNone then
    (.error (.emptyUpdate item.id), item)
  else
    let item := { item with name := name.getD item.name }
    if unitOfMeasure.isSome && 0 < item.batches.length then
      (.error (.unitChangeNotAllowed item.id), item)
    else
      let item := { item with unitOfMeasure := unitOfMeasure.getD item.unitOfMeasure }
      if isPerishable.isSome && 0 < item.batches.length then
        (.error (.perishabilityChangeNotAllowed item.id), item)
      else
        let item := { item with isPerishable := isPerishable.getD item.isPerishable }
        (.ok (), item.touch now)

end InventoryItem

end KomiSaas.Inventory
