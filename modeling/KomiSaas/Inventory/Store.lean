import KomiSaas.Inventory.Allocation

/-!
# `TypeOrmInventoryItemRepository`

`inventory/infrastructure/persistence/`: the three tables, the mapper between
their rows and the aggregate, and the repository over them. Ids are compared as
texts, so those that are given here are the ones that PostgreSQL prints;
`OverrideRuns` takes requests that write them otherwise. Numeric columns hold what
`Quantity` and `Money` read from their text. `save` is one transaction, so
it either does all its writes or none; it is refused where a value does not fit
its column (`public/db/01-init.sql`, lines 246–312).
-/

namespace KomiSaas.Inventory

open KomiSaas.Lib KomiSaas.Shared

/-! ## Rows -/

/-- `InventoryItemEntity`. -/
structure InventoryItemRow where
  id : Uuid
  tenantId : Uuid
  sku : JsString
  name : InventoryItemName
  unitOfMeasure : MeasurementUnit
  isPerishable : Bool
  isActive : Bool
  minGlobalStock : Option Quantity
  createdAt : Instant
  updatedAt : Instant
  deriving DecidableEq

/-- `InventoryBatchEntity`. -/
structure InventoryBatchRow where
  id : Uuid
  inventoryItemId : Uuid
  branchId : Uuid
  quantityReceived : Quantity
  quantityRemaining : Quantity
  unitCost : Money
  expirationDate : Option Instant
  receivedAt : JsDate
  deriving DecidableEq

/-- `InventoryBranchConfigEntity`. -/
structure InventoryBranchConfigRow where
  id : Uuid
  inventoryItemId : Uuid
  branchId : Uuid
  minStock : Quantity
  deriving DecidableEq

/-- The tables, and the next value of `inventory_item_sku_seq`. -/
structure InventoryStore where
  items : List InventoryItemRow
  batches : List InventoryBatchRow
  branchConfigs : List InventoryBranchConfigRow
  skuSequence : ℕ
  deriving DecidableEq

/-! ## `InventoryItemPersistenceMapper` -/

def InventoryBatchRow.toBatch (row : InventoryBatchRow) : InventoryBatch where
  id := row.id
  branchId := row.branchId
  quantityReceived := row.quantityReceived
  quantityRemaining := row.quantityRemaining
  unitCost := row.unitCost
  expirationDate := row.expirationDate
  receivedAt := row.receivedAt

def InventoryBatch.toRow (itemId : Uuid) (batch : InventoryBatch) : InventoryBatchRow where
  id := batch.id
  inventoryItemId := itemId
  branchId := batch.branchId
  quantityReceived := batch.quantityReceived
  quantityRemaining := batch.quantityRemaining
  unitCost := batch.unitCost
  expirationDate := batch.expirationDate
  receivedAt := batch.receivedAt

def InventoryBranchConfigRow.toConfig (row : InventoryBranchConfigRow) : InventoryBranchConfig where
  id := row.id
  branchId := row.branchId
  minStock := row.minStock

def InventoryBranchConfig.toRow (itemId : Uuid) (config : InventoryBranchConfig) :
    InventoryBranchConfigRow where
  id := config.id
  inventoryItemId := itemId
  branchId := config.branchId
  minStock := config.minStock

def InventoryItem.toRow (item : InventoryItem) : InventoryItemRow where
  id := item.id
  tenantId := item.tenantId
  sku := item.sku
  name := item.name
  unitOfMeasure := item.unitOfMeasure
  isPerishable := item.isPerishable
  isActive := item.isActive
  minGlobalStock := item.minGlobalStock
  createdAt := item.createdAt
  updatedAt := item.updatedAt

/-- `toAggregate`. -/
def toAggregate (itemRow : InventoryItemRow) (batchRows : List InventoryBatchRow)
    (branchConfigRows : List InventoryBranchConfigRow) : InventoryItem where
  id := itemRow.id
  tenantId := itemRow.tenantId
  sku := itemRow.sku
  name := itemRow.name
  unitOfMeasure := itemRow.unitOfMeasure
  batches := batchRows.map (·.toBatch)
  isPerishable := itemRow.isPerishable
  isActive := itemRow.isActive
  minGlobalStock := itemRow.minGlobalStock
  branchConfigs := branchConfigRows.map (·.toConfig)
  createdAt := itemRow.createdAt
  updatedAt := itemRow.updatedAt
  domainEvents := []

/-! ## What the columns accept -/

/-- `NUMERIC(14, 3)`. -/
def Quantity.fitsColumn (quantity : Quantity) : Bool := quantity.milli < 10 ^ 14

/-- `NUMERIC(12, 2)`. -/
def Money.fitsColumn (money : Money) : Bool := money.cents < 10 ^ 12

def InventoryItemRow.fitsColumns (row : InventoryItemRow) : Bool :=
  row.sku.length ≤ 20 && row.minGlobalStock.all Quantity.fitsColumn

def InventoryBatchRow.fitsColumns (row : InventoryBatchRow) : Bool :=
  Quantity.fitsColumn row.quantityReceived && Quantity.fitsColumn row.quantityRemaining &&
    Money.fitsColumn row.unitCost && row.receivedAt.isSome

def InventoryBranchConfigRow.fitsColumns (row : InventoryBranchConfigRow) : Bool :=
  Quantity.fitsColumn row.minStock

/-- `UNIQUE (sku)` and `UNIQUE (inventory_item_id, branch_id)`. -/
def InventoryStore.meetsConstraints (store : InventoryStore) : Bool :=
  (store.items.map (·.sku)).Nodup &&
    (store.branchConfigs.map fun row => (row.inventoryItemId, row.branchId)).Nodup

/-! ## The repository -/

namespace InventoryItemRepository

/-- `activeBatchesOf` for one item (lines 150–160). -/
def activeBatchesOf (store : InventoryStore) (itemId : Uuid) (branchId : Option Uuid) :
    List InventoryBatchRow :=
  store.batches.filter fun row =>
    row.inventoryItemId = itemId && 0 < row.quantityRemaining.milli &&
      branchId.all fun branchId => row.branchId = branchId

/-- `branchConfigsOf` for one item (lines 167–176). -/
def branchConfigsOf (store : InventoryStore) (itemId : Uuid) (branchId : Option Uuid) :
    List InventoryBranchConfigRow :=
  store.branchConfigs.filter fun row =>
    row.inventoryItemId = itemId && branchId.all fun branchId => row.branchId = branchId

/-- `findById` (lines 77–85). -/
def findById (store : InventoryStore) (id tenantId : Uuid) (branchId : Option Uuid) :
    Option InventoryItem :=
  (store.items.find? fun row => row.id = id ∧ row.tenantId = tenantId).map fun row =>
    toAggregate row (activeBatchesOf store row.id branchId) (branchConfigsOf store row.id branchId)

/-- `existsByName` (lines 122–124). -/
def existsByName (store : InventoryStore) (name : InventoryItemName) (tenantId : Uuid) : Bool :=
  store.items.any fun row => row.name.value = name.value && row.tenantId = tenantId

/-- `nextSkuSequence` (lines 209–221). -/
def nextSkuSequence (store : InventoryStore) : ℕ × InventoryStore :=
  (store.skuSequence, { store with skuSequence := store.skuSequence + 1 })

/-- The tables after the writes of `save`: the item and its batches are
    overwritten, the overrides that the aggregate does not hold are deleted. -/
def written (store : InventoryStore) (item : InventoryItem) : InventoryStore :=
  let branchConfigRows := item.branchConfigs.map (·.toRow item.id)
  let keptIds := branchConfigRows.map (·.id)
  let keptRows := store.branchConfigs.filter fun row =>
    row.inventoryItemId ≠ item.id ∨ row.id ∈ keptIds
  { store with
    items := Rows.upsert (·.id) item.toRow store.items
    batches := Rows.upsertAll (·.id) (item.batches.map (·.toRow item.id)) store.batches
    branchConfigs := Rows.upsertAll (·.id) branchConfigRows keptRows }

/-- PostgreSQL takes the rows of an item. -/
def accepts (store : InventoryStore) (item : InventoryItem) : Bool :=
  item.toRow.fitsColumns &&
    (item.batches.map (·.toRow item.id)).all InventoryBatchRow.fitsColumns &&
    (item.branchConfigs.map (·.toRow item.id)).all InventoryBranchConfigRow.fitsColumns &&
    (written store item).meetsConstraints

/-- `save` (lines 32–73); `none` where the transaction fails. -/
def save (store : InventoryStore) (item : InventoryItem) : Option InventoryStore :=
  if accepts store item then some (written store item) else none

variable {store store' : InventoryStore} {item : InventoryItem} {id tenantId : Uuid}
  {branchId : Option Uuid}

theorem findById_eq_some (h : findById store id tenantId branchId = some item) :
    ∃ row ∈ store.items, row.id = id ∧ row.tenantId = tenantId ∧
      item = toAggregate row (activeBatchesOf store id branchId)
        (branchConfigsOf store id branchId) := by
  obtain ⟨row, hfind, rfl⟩ := Option.map_eq_some_iff.mp h
  have hrow := List.find?_some hfind
  simp only [decide_eq_true_eq] at hrow
  obtain ⟨rfl, htenant⟩ := hrow
  exact ⟨row, List.mem_of_find?_eq_some hfind, rfl, htenant, rfl⟩

theorem save_eq_some : save store item = some store' ↔
    accepts store item = true ∧ store' = written store item := by
  unfold save
  split_ifs with h
  · simp [h, eq_comm]
  · simp [h]

@[simp] theorem map_id_toRow {batches : List InventoryBatch} :
    (batches.map (·.toRow id)).map (·.id) = batches.map (·.id) := by
  rw [List.map_map]
  rfl

@[simp] theorem map_id_toBatch {rows : List InventoryBatchRow} :
    (rows.map (·.toBatch)).map (·.id) = rows.map (·.id) := by
  rw [List.map_map]
  rfl

/-- The batches of a loaded item are rows of that item. -/
theorem mem_batches_of_findById (h : findById store id tenantId branchId = some item)
    {batch : InventoryBatch} (hmem : batch ∈ item.batches) :
    ∃ row ∈ store.batches, row.inventoryItemId = id ∧ batch = row.toBatch := by
  obtain ⟨itemRow, -, -, -, rfl⟩ := findById_eq_some h
  obtain ⟨row, hrow, rfl⟩ := List.mem_map.mp hmem
  obtain ⟨hrow, hcond⟩ := List.mem_filter.mp hrow
  simp only [Bool.and_eq_true, decide_eq_true_eq] at hcond
  exact ⟨row, hrow, hcond.1.1, rfl⟩

theorem nodup_batches_of_findById (h : findById store id tenantId branchId = some item)
    (hstore : (store.batches.map (·.id)).Nodup) : (item.batches.map (·.id)).Nodup := by
  obtain ⟨itemRow, -, -, -, rfl⟩ := findById_eq_some h
  rw [toAggregate, map_id_toBatch]
  exact hstore.sublist (List.filter_sublist.map _)

/-- The batches after a `save`: those of the aggregate, and the others. -/
theorem mem_written_batches (hitem : (item.batches.map (·.id)).Nodup)
    (hstore : (store.batches.map (·.id)).Nodup) {row : InventoryBatchRow} :
    row ∈ (written store item).batches ↔
      (∃ batch ∈ item.batches, row = batch.toRow item.id) ∨
        (row ∈ store.batches ∧ row.id ∉ item.batches.map (·.id)) := by
  have hrows : ((item.batches.map (·.toRow item.id)).map (·.id)).Nodup := by
    rw [map_id_toRow]
    exact hitem
  have h := Rows.mem_upsertAll_iff (r := row) hrows hstore
  rw [map_id_toRow, List.mem_map] at h
  rw [written, h]
  simp only [eq_comm]

/-- A `save` keeps the ids of the batches distinct, and adds those of the aggregate. -/
theorem nodup_written_batches (hstore : (store.batches.map (·.id)).Nodup) :
    ((written store item).batches.map (·.id)).Nodup :=
  Rows.nodup_keys_upsertAll hstore

theorem mem_ids_written_batches {batchId : Uuid} :
    batchId ∈ (written store item).batches.map (·.id) ↔
      batchId ∈ item.batches.map (·.id) ∨ batchId ∈ store.batches.map (·.id) := by
  have h : batchId ∈ (written store item).batches.map (·.id) ↔
      batchId ∈ (item.batches.map (·.toRow item.id)).map (·.id) ∨
        batchId ∈ store.batches.map (·.id) :=
    Rows.mem_keys_upsertAll
  rw [h, map_id_toRow]

/-- What fits its column fits the precision of the package, which is far wider. -/
theorem fits_of_fitsColumns {row : InventoryBatchRow} (h : row.fitsColumns = true) :
    row.quantityRemaining.milli < 10 ^ decimalPrecision := by
  unfold InventoryBatchRow.fitsColumns Quantity.fitsColumn at h
  simp only [Bool.and_eq_true, decide_eq_true_eq] at h
  calc row.quantityRemaining.milli < 10 ^ 14 := h.1.1.2
    _ < 10 ^ decimalPrecision := by norm_num [decimalPrecision]

/-- The quantities of an accepted item stay exact. -/
theorem fits_of_accepts (h : accepts store item = true) : Fits item.batches := by
  unfold accepts at h
  simp only [Bool.and_eq_true, List.all_eq_true, List.mem_map] at h
  intro batch hmem
  exact fits_of_fitsColumns (h.1.1.2 (batch.toRow item.id) ⟨batch, hmem, rfl⟩)

end InventoryItemRepository

end KomiSaas.Inventory
