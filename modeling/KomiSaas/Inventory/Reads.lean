import KomiSaas.Inventory.UseCases
import KomiSaas.Shared.IsoDate

/-!
# The use cases that read the inventory

* The derived values of the aggregate (`inventory/domain/inventory-item.aggregate.ts`) and
  `toInventoryItemResponse` (`inventory/application/mappers/`).
* `search` and `findByIds` of `TypeOrmInventoryItemRepository`, and `findByItem` of
  `TypeOrmInventoryBatchReadRepository`.
* `FindInventoryItem`, `SearchInventoryItems`, `SearchItemBatches`:
  `inventory/application/use-cases/`.

Rows with the same sort key keep the order of their table.
-/

namespace KomiSaas.Inventory

open KomiSaas.Lib KomiSaas.Shared

/-! ## Pages -/

/-- `Pagination`, as the DTOs let it through: no page 0 and no empty page. -/
structure Pagination where
  pageNumber : ℕ
  pageSize : ℕ
  pageNumber_pos : 0 < pageNumber
  pageSize_pos : 0 < pageSize
  deriving DecidableEq

/-- `Paginated`. -/
structure Paginated (α : Type) where
  rows : List α
  pageNumber : ℕ
  pageSize : ℕ
  total : ℕ
  deriving DecidableEq

/-- The rows of a page: `skip`, then `take`. -/
def Pagination.slice {α : Type} (pagination : Pagination) (rows : List α) : List α :=
  (rows.drop ((pagination.pageNumber - 1) * pagination.pageSize)).take pagination.pageSize

/-- The page of what a query found, and how many rows it found. -/
def Pagination.paginate {α : Type} (pagination : Pagination) (found : List α) : Paginated α where
  rows := pagination.slice found
  pageNumber := pagination.pageNumber
  pageSize := pagination.pageSize
  total := found.length

/-! ## What the aggregate derives -/

/-- `remainingCost` (lines 201–203). -/
def InventoryBatch.remainingCost (decimal : DecimalJs) (batch : InventoryBatch) :
    Except MoneyError Money :=
  batch.unitCost.multiply decimal (batch.quantityRemaining.getValue decimal)

namespace InventoryItem

/-- `resolveMinimumForBranch` (lines 376–382). -/
def resolveMinimumForBranch (item : InventoryItem) (branchId : Uuid) : Option Quantity :=
  match Rows.find (·.branchId) branchId item.branchConfigs with
  | some override => some override.minStock
  | none => item.minGlobalStock

/-- `isBelowMinimumFor` (lines 404–410). -/
def isBelowMinimumFor (item : InventoryItem) (branchId : Uuid) (date : JsDate) : Option Bool :=
  (item.resolveMinimumForBranch branchId).map fun minimum =>
    minimum.isGreaterThan (item.currentStockForBranch branchId date)

/-- The loop of `weightedAverageCost`: the value of the batches. -/
def addRemainingCost (decimal : DecimalJs) (totalValue : Money) :
    List InventoryBatch → Except MoneyError Money
  | [] => .ok totalValue
  | batch :: active => do
    let remainingCost ← batch.remainingCost decimal
    let totalValue ← totalValue.add remainingCost
    addRemainingCost decimal totalValue active

/-- `weightedAverageCost` (lines 422–438). -/
def weightedAverageCost (decimal : DecimalJs) (item : InventoryItem) (date : JsDate) :
    Except MoneyError (Option Money) :=
  let active := item.batches.filter (·.isActive date)
  if active = [] then .ok none
  else do
    let zero ← Money.zero decimal defaultCurrency
    let totalValue ← addRemainingCost decimal zero active
    let totalQuantity := stockOf active
    if totalQuantity.isZero then .ok none
    else (totalValue.divide decimal (totalQuantity.getValue decimal)).map some

end InventoryItem

/-- `InventoryItemResponse`. -/
structure InventoryItemResponse where
  id : Uuid
  tenantId : Uuid
  sku : JsString
  name : JsString
  unitOfMeasure : JsString
  effectiveCostAmount : Option JsString
  currency : JsString
  isPerishable : Bool
  isActive : Bool
  currentStock : JsString
  minStock : Option JsString
  isBelowMinimum : Option Bool
  createdAt : Instant
  updatedAt : Instant
  deriving DecidableEq

/-- `toInventoryItemResponse` (lines 12–48). -/
def toInventoryItemResponse (decimal : DecimalJs) (item : InventoryItem) (branchId : Option Uuid)
    (date : Instant) : Except InventoryException InventoryItemResponse := do
  let weighted ← (item.weightedAverageCost decimal (some date)).mapError .invalidMoney
  let minStock :=
    match branchId with
    | some branchId => item.resolveMinimumForBranch branchId
    | none => item.minGlobalStock
  .ok
    { id := item.id
      tenantId := item.tenantId
      sku := item.sku
      name := item.name.value
      unitOfMeasure := item.unitOfMeasure.value
      effectiveCostAmount := weighted.map (·.getAmount decimal)
      currency := defaultCurrency
      isPerishable := item.isPerishable
      isActive := item.isActive
      currentStock := (item.currentStock (some date)).getValue decimal
      minStock := minStock.map (·.getValue decimal)
      isBelowMinimum := branchId.bind fun branchId => item.isBelowMinimumFor branchId (some date)
      createdAt := item.createdAt
      updatedAt := item.updatedAt }

/-! ## The repositories -/

namespace InventoryItemRepository

/-- `toAggregates` (lines 132–145): one query for the batches of all the items and one for
    their overrides, grouped by item. -/
def toAggregates (store : InventoryStore) (rows : List InventoryItemRow)
    (branchId : Option Uuid) : List InventoryItem :=
  let itemIds := rows.map (·.id)
  let batchRows := store.batches.filter fun row =>
    row.inventoryItemId ∈ itemIds && 0 < row.quantityRemaining.milli &&
      branchId.all fun branchId => row.branchId = branchId
  let branchConfigRows := store.branchConfigs.filter fun row =>
    row.inventoryItemId ∈ itemIds && branchId.all fun branchId => row.branchId = branchId
  rows.map fun row =>
    toAggregate row (batchRows.filter fun batch => batch.inventoryItemId = row.id)
      (branchConfigRows.filter fun config => config.inventoryItemId = row.id)

/-- The grouped rows give each item what its own queries would. -/
theorem toAggregates_eq (store : InventoryStore) (rows : List InventoryItemRow)
    (branchId : Option Uuid) :
    toAggregates store rows branchId = rows.map fun row =>
      toAggregate row (activeBatchesOf store row.id branchId)
        (branchConfigsOf store row.id branchId) := by
  unfold toAggregates
  apply List.map_congr_left
  intro row hrow
  have hid : row.id ∈ rows.map (·.id) := List.mem_map_of_mem hrow
  congr 1
  · rw [List.filter_filter, activeBatchesOf]
    apply List.filter_congr
    intro batch _
    by_cases hitem : batch.inventoryItemId = row.id
    · simp [hitem, hid]
    · simp [hitem]
  · rw [List.filter_filter, branchConfigsOf]
    apply List.filter_congr
    intro config _
    by_cases hitem : config.inventoryItemId = row.id
    · simp [hitem, hid]
    · simp [hitem]

/-- `search` (lines 89–104): the items of the business, the newest first. -/
def search (store : InventoryStore) (tenantId : Uuid) (pagination : Pagination)
    (branchId : Option Uuid) : Paginated InventoryItem :=
  let found := (store.items.filter fun row => row.tenantId = tenantId).mergeSort
    fun a b => b.createdAt ≤ a.createdAt
  let page := pagination.paginate found
  { page with rows := toAggregates store page.rows branchId }

/-- `findByIds` (lines 108–118). -/
def findByIds (store : InventoryStore) (ids : List Uuid) (tenantId : Uuid)
    (branchId : Option Uuid) : List InventoryItem :=
  toAggregates store
    (store.items.filter fun row => row.id ∈ ids && row.tenantId = tenantId) branchId

end InventoryItemRepository

/-- `InventoryBatchView`. -/
structure InventoryBatchView where
  id : Uuid
  quantityReceived : JsString
  quantityRemaining : JsString
  unitCostAmount : JsString
  unitCostCurrency : JsString
  expirationDate : Option JsString
  receivedAt : JsDate
  isExpired : Bool
  isDepleted : Bool
  deriving DecidableEq

namespace InventoryBatchReadRepository

/-- Lines 40–50. A `NUMERIC` column is read with all its decimals. -/
def toView (now : Instant) (b : InventoryBatchRow) : InventoryBatchView where
  id := b.id
  quantityReceived := fixedText 3 b.quantityReceived.milli
  quantityRemaining := fixedText 3 b.quantityRemaining.milli
  unitCostAmount := fixedText 2 b.unitCost.cents
  unitCostCurrency := b.unitCost.currency
  expirationDate := b.expirationDate.map isoText
  receivedAt := b.receivedAt
  isExpired := b.expirationDate.any fun expirationDate => expirationDate < now
  isDepleted := b.quantityRemaining.isZero

/-- The condition of the join: the item of the batch is one of the business. -/
def joins (store : InventoryStore) (tenantId : Uuid) (b : InventoryBatchRow) : Bool :=
  store.items.any fun item => item.id = b.inventoryItemId && item.tenantId = tenantId

/-- `findByItem` (lines 23–55). -/
def findByItem (store : InventoryStore) (itemId tenantId : Uuid) (pagination : Pagination)
    (branchId : Option Uuid) (now : Instant) : Paginated InventoryBatchView :=
  let found := (store.batches.filter fun b =>
    joins store tenantId b && b.inventoryItemId = itemId &&
      branchId.all fun branchId => b.branchId = branchId).mergeSort
    fun a b => b.receivedAt.getD 0 ≤ a.receivedAt.getD 0
  let page := pagination.paginate found
  { page with rows := page.rows.map (toView now) }

end InventoryBatchReadRepository

/-! ## The use cases -/

/-- `find-inventory-item.use-case.ts`, lines 11–19. -/
def FindInventoryItem.execute (env : InventoryEnv) (now : Instant) (store : InventoryStore)
    (itemId tenantId : Uuid) (branchId : Option Uuid) :
    Except InventoryException InventoryItemResponse := do
  let item ← loadItem store itemId tenantId branchId
  toInventoryItemResponse env.decimal item branchId now

/-- `rows.map(item => toInventoryItemResponse(item, …))`: the first that throws ends it. -/
def toInventoryItemResponses (decimal : DecimalJs) (branchId : Option Uuid) (now : Instant) :
    List InventoryItem → Except InventoryException (List InventoryItemResponse)
  | [] => .ok []
  | item :: rows => do
    let response ← toInventoryItemResponse decimal item branchId now
    let responses ← toInventoryItemResponses decimal branchId now rows
    .ok (response :: responses)

/-- `search-inventory-items.use-case.ts`, lines 12–27. -/
def SearchInventoryItems.execute (env : InventoryEnv) (now : Instant) (store : InventoryStore)
    (tenantId : Uuid) (pagination : Pagination) (branchId : Option Uuid) :
    Except InventoryException (Paginated InventoryItemResponse) := do
  let found := InventoryItemRepository.search store tenantId pagination branchId
  let rows ← toInventoryItemResponses env.decimal branchId now found.rows
  .ok { found with rows := rows }

/-- `search-item-batches.use-case.ts`, lines 11–13. -/
def SearchItemBatches.execute (now : Instant) (store : InventoryStore) (itemId tenantId : Uuid)
    (pagination : Pagination) (branchId : Option Uuid) : Paginated InventoryBatchView :=
  InventoryBatchReadRepository.findByItem store itemId tenantId pagination branchId now

end KomiSaas.Inventory
