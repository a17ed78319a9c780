import KomiSaas.Inventory.Stock

/-!
# `InventoryItemRecipeInfoProviderAdapter`

`products/infrastructure/persistence/adapters/`: what the products learn about
the items of the inventory. The numbers of JavaScript are read as exact, and
stand for their texts.

The adapter adds up every batch that `findByIds` loads; the aggregate only those
that have not expired. Main result: `agrees_iff`.
-/

namespace KomiSaas.Products

open KomiSaas.Lib KomiSaas.Shared KomiSaas.Inventory

/-- `InventoryItemBranchStock`. -/
structure InventoryItemBranchStock where
  currentStock : JsString
  minStock : Option JsString
  deriving DecidableEq

/-- `InventoryItemRecipeInfo`. -/
structure InventoryItemRecipeInfo where
  inventoryItemId : Uuid
  name : JsString
  unitOfMeasure : JsString
  unitCostAmount : Option ℚ≥0
  currentStock : ℚ≥0
  isActive : Bool
  branchStock : Option InventoryItemBranchStock
  deriving DecidableEq

namespace InventoryItemRecipeInfoProviderAdapter

/-- `toRecipeInfo` (lines 40–80). -/
def toRecipeInfo (decimal : DecimalJs) (now : Instant) (item : InventoryItem)
    (branchId : Option Uuid) : InventoryItemRecipeInfo :=
  let currentStock :=
    item.batches.foldl (fun total batch => total + batch.quantityRemaining.value) 0
  let totalCost := item.batches.foldl
    (fun total batch => total + batch.quantityRemaining.value * batch.unitCost.amount) 0
  let unitCostAmount := if currentStock = 0 then none else some (totalCost / currentStock)
  { inventoryItemId := item.id
    name := item.name.value
    unitOfMeasure := item.unitOfMeasure.value
    unitCostAmount := unitCostAmount
    currentStock := currentStock
    isActive := item.isActive
    branchStock := branchId.map fun branchId =>
      { currentStock := (item.currentStockForBranch branchId (some now)).getValue decimal
        minStock := (item.resolveMinimumForBranch branchId).map (·.getValue decimal) } }

/-- `getMany` (lines 19–38), as the lookup of the `Map`, where a later entry
    replaces an earlier one of the same id. -/
def getMany (decimal : DecimalJs) (now : Instant) (store : InventoryStore) (tenantId : Uuid)
    (inventoryItemIds : List Uuid) (branchId : Option Uuid) (id : Uuid) :
    Option InventoryItemRecipeInfo :=
  let items := InventoryItemRepository.findByIds store inventoryItemIds tenantId none
  (items.map fun item => toRecipeInfo decimal now item branchId).reverse.find?
    fun info => info.inventoryItemId = id

/-- The entry and the aggregate say the same of the stock, and of whether there
    is a cost. -/
def Agrees (decimal : DecimalJs) (now : Instant) (item : InventoryItem)
    (info : InventoryItemRecipeInfo) : Prop :=
  info.currentStock = (item.currentStock (some now)).value ∧
    (info.unitCostAmount = none ↔ item.weightedAverageCost decimal (some now) = .ok none)

variable {decimal : DecimalJs} {now : Instant} {store : InventoryStore} {item : InventoryItem}
  {id tenantId : Uuid} {ids : List Uuid} {branchId : Option Uuid}

/-! ## The entry of an item -/

/-- The exact sum of the adapter. -/
theorem toRecipeInfo_currentStock :
    (toRecipeInfo decimal now item branchId).currentStock = totalMilli item.batches / 10 ^ 3 := by
  have hfold : ∀ (batches : List InventoryBatch) (total : ℚ≥0),
      batches.foldl (fun total batch => total + batch.quantityRemaining.value) total =
        total + totalMilli batches / 10 ^ 3 := by
    intro batches
    induction batches with
    | nil => simp
    | cons batch batches ih =>
      intro total
      rw [List.foldl_cons, ih, totalMilli_cons, Quantity.value]
      push_cast
      ring
  show item.batches.foldl _ 0 = _
  rw [hfold, zero_add]

theorem toRecipeInfo_unitCostAmount :
    (toRecipeInfo decimal now item branchId).unitCostAmount = none ↔
      totalMilli item.batches = 0 := by
  have hstock : (toRecipeInfo decimal now item branchId).currentStock =
      totalMilli item.batches / 10 ^ 3 := toRecipeInfo_currentStock
  have hunit : (toRecipeInfo decimal now item branchId).unitCostAmount = none ↔
      (toRecipeInfo decimal now item branchId).currentStock = 0 := by
    simp only [toRecipeInfo]
    split_ifs with h
    · simp [h]
    · simp [h]
  rw [hunit, hstock]
  simp

/-- The entry of a stored item is made of the batches that `findById` loads. -/
theorem exists_getMany (decimal : DecimalJs) (now : Instant) (branchId : Option Uuid)
    (hfind : InventoryItemRepository.findById store id tenantId none = some item)
    (hid : id ∈ ids) :
    ∃ found : InventoryItem, found.batches = item.batches ∧
      getMany decimal now store tenantId ids branchId id =
        some (toRecipeInfo decimal now found branchId) := by
  obtain ⟨row, hrow, rfl, htenant, rfl⟩ := InventoryItemRepository.findById_eq_some hfind
  set entries := ((InventoryItemRepository.findByIds store ids tenantId none).map fun item =>
    toRecipeInfo decimal now item branchId).reverse with hentries
  have hmem : ∀ info, info ∈ entries ↔ ∃ r ∈ store.items, (r.id ∈ ids ∧ r.tenantId = tenantId) ∧
      toRecipeInfo decimal now (toAggregate r
        (InventoryItemRepository.activeBatchesOf store r.id none)
        (InventoryItemRepository.branchConfigsOf store r.id none)) branchId = info := by
    intro info
    rw [hentries, List.mem_reverse, InventoryItemRepository.findByIds,
      InventoryItemRepository.toAggregates_eq, List.map_map, List.mem_map]
    simp [and_assoc]
  have hsome : (entries.find? fun info => info.inventoryItemId = row.id).isSome = true := by
    rw [List.find?_isSome]
    exact ⟨_, (hmem _).mpr ⟨row, hrow, ⟨hid, htenant⟩, rfl⟩, decide_eq_true rfl⟩
  obtain ⟨info, hinfo⟩ := Option.isSome_iff_exists.mp hsome
  have hid : info.inventoryItemId = row.id := by simpa using List.find?_some hinfo
  obtain ⟨r, -, -, rfl⟩ := (hmem info).mp (List.mem_of_find?_eq_some hinfo)
  have hsame : r.id = row.id := hid
  refine ⟨_, ?_, hinfo⟩
  show (InventoryItemRepository.activeBatchesOf store r.id none).map _ = _
  rw [hsame]
  rfl

/-! ## Expired batches -/

/-- No batch of the item that still has stock has expired. -/
def NoneExpired (store : InventoryStore) (id : Uuid) (now : Instant) : Prop :=
  ∀ row ∈ store.batches, row.inventoryItemId = id → 0 < row.quantityRemaining.milli →
    row.toBatch.isExpired (some now) = false

/-- A loaded batch has stock. -/
theorem remaining_pos_of_loaded
    (hfind : InventoryItemRepository.findById store id tenantId none = some item)
    {batch : InventoryBatch} (hmem : batch ∈ item.batches) : 0 < batch.quantityRemaining.milli := by
  obtain ⟨row, -, -, -, rfl⟩ := InventoryItemRepository.findById_eq_some hfind
  obtain ⟨r, hr, rfl⟩ := List.mem_map.mp hmem
  have hcond := (List.mem_filter.mp hr).2
  simp only [Bool.and_eq_true, decide_eq_true_eq] at hcond
  exact hcond.1.2

/-- The active batches hold as much as the loaded ones exactly when none of these
    has expired. -/
theorem totalMilli_active_iff
    (hfind : InventoryItemRepository.findById store id tenantId none = some item) :
    totalMilli (item.batches.filter (·.isActive (some now))) = totalMilli item.batches ↔
      NoneExpired store id now := by
  rw [totalMilli_filter_eq_iff fun batch => remaining_pos_of_loaded hfind]
  obtain ⟨row, -, rfl, -, rfl⟩ := InventoryItemRepository.findById_eq_some hfind
  have hmem : ∀ b, b ∈ (InventoryItemRepository.activeBatchesOf store row.id none).map (·.toBatch) ↔
      ∃ r ∈ store.batches, (r.inventoryItemId = row.id ∧ 0 < r.quantityRemaining.milli) ∧
        r.toBatch = b := by
    intro b
    simp [InventoryItemRepository.activeBatchesOf, and_assoc]
  have hactive : ∀ r : InventoryBatchRow, 0 < r.quantityRemaining.milli →
      (r.toBatch.isActive (some now) = true ↔ r.toBatch.isExpired (some now) = false) := by
    intro r hr
    have hstock : r.toBatch.isDepleted = false := by
      rw [Bool.eq_false_iff, Ne, InventoryBatch.isDepleted, Quantity.isZero_iff]
      exact hr.ne'
    rw [InventoryBatch.isActive, hstock]
    simp
  constructor
  · intro h r hr hitem hpos
    exact (hactive r hpos).mp (h _ ((hmem _).mpr ⟨r, hr, ⟨hitem, hpos⟩, rfl⟩))
  · intro h b hb
    obtain ⟨r, hr, ⟨hitem, hpos⟩, rfl⟩ := (hmem b).mp hb
    exact (hactive r hpos).mpr (h r hr hitem hpos)

/-! ## Agreement -/

/-- The two stocks decide: where they are equal, so is whether there is a cost. -/
theorem agrees_iff_stock {found : InventoryItem} (hfound : found.batches = item.batches) :
    Agrees decimal now item (toRecipeInfo decimal now found branchId) ↔
      totalMilli item.batches = (item.currentStock (some now)).milli := by
  have hvalue : ((totalMilli item.batches : ℚ≥0) / 10 ^ 3 =
      (item.currentStock (some now)).value) ↔
        totalMilli item.batches = (item.currentStock (some now)).milli := by
    rw [Quantity.value, div_left_inj' (by norm_num), Nat.cast_inj]
  rw [Agrees, toRecipeInfo_currentStock, toRecipeInfo_unitCostAmount, hfound, hvalue,
    weightedAverageCost_eq_none_iff]
  refine and_iff_left_of_imp fun hstock => ?_
  rw [hstock]
  constructor
  · intro hzero
    by_contra hne
    have hpos := stockOf_pos hne fun batch hbatch =>
      InventoryBatch.remaining_pos_of_isActive (List.mem_filter.mp hbatch).2
    rw [InventoryItem.currentStock] at hzero
    omega
  · intro hnone
    rw [InventoryItem.currentStock, hnone]
    rfl

/-- The entry of a stored item agrees with the aggregate exactly when no batch
    with stock has expired; a stock of `10 ^ 20` thousandths or more agrees when
    the additions of the aggregate come out at the exact total. -/
theorem agrees_iff (decimal : DecimalJs) (now : Instant) (branchId : Option Uuid)
    (hfind : InventoryItemRepository.findById store id tenantId none = some item)
    (hid : id ∈ ids) :
    ∃ info, getMany decimal now store tenantId ids branchId id = some info ∧
      (Agrees decimal now item info ↔
        if totalMilli item.batches < 10 ^ decimalPrecision then NoneExpired store id now
        else totalMilli item.batches = (item.currentStock (some now)).milli) := by
  obtain ⟨found, hfound, hget⟩ := exists_getMany decimal now branchId hfind hid
  refine ⟨_, hget, ?_⟩
  rw [agrees_iff_stock hfound]
  split_ifs with hfit
  · have hle : totalMilli (item.batches.filter (·.isActive (some now))) ≤
        totalMilli item.batches := totalMilli_filter_le _
    rw [← totalMilli_active_iff hfind, InventoryItem.currentStock, stockOf_milli (by omega)]
    exact eq_comm
  · rfl

/-- The sample item with one batch of ten units, which expires at `expirationDate`. -/
def storeExpiringAt (expirationDate : Instant) : InventoryStore :=
  { sampleStore with
    batches :=
      [{ id := sampleBatchId 1
         inventoryItemId := sampleItemId
         branchId := sampleBranchId 1
         quantityReceived := ⟨10000⟩
         quantityRemaining := ⟨10000⟩
         unitCost := ⟨150, js "COP", isIsoCode_cop⟩
         expirationDate := some expirationDate
         receivedAt := some 0 }] }

/-- The sample item as it is loaded. -/
def itemExpiringAt (expirationDate : Instant) : InventoryItem :=
  toAggregate (sampleStore.items.head sampleStore_items_ne_nil)
    (InventoryItemRepository.activeBatchesOf (storeExpiringAt expirationDate) sampleItemId none) []

theorem agrees_fresh : ∃ info,
    getMany plainDecimal 1000 (storeExpiringAt 2000) sampleTenantId [sampleItemId] none
        sampleItemId = some info ∧
      (Agrees plainDecimal 1000 (itemExpiringAt 2000) info ↔
        if totalMilli (itemExpiringAt 2000).batches < 10 ^ decimalPrecision then
          NoneExpired (storeExpiringAt 2000) sampleItemId 1000
        else totalMilli (itemExpiringAt 2000).batches =
          ((itemExpiringAt 2000).currentStock (some 1000)).milli) :=
  agrees_iff plainDecimal 1000 none rfl (by decide)

/-- The batch expired before now: the products see ten units, the inventory none. -/
theorem disagrees_expired : ∃ info,
    getMany plainDecimal 1000 (storeExpiringAt 500) sampleTenantId [sampleItemId] none
        sampleItemId = some info ∧
      InventoryItemRepository.findById (storeExpiringAt 500) sampleItemId sampleTenantId none =
        some (itemExpiringAt 500) ∧ ¬ Agrees plainDecimal 1000 (itemExpiringAt 500) info := by
  have hfind : InventoryItemRepository.findById (storeExpiringAt 500) sampleItemId sampleTenantId
      none = some (itemExpiringAt 500) := rfl
  obtain ⟨found, hfound, hget⟩ := exists_getMany plainDecimal 1000 none hfind
    (List.mem_singleton_self sampleItemId)
  refine ⟨_, hget, hfind, ?_⟩
  rw [agrees_iff_stock hfound]
  decide +kernel

end InventoryItemRecipeInfoProviderAdapter

end KomiSaas.Products
