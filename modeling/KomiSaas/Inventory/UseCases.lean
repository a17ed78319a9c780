import KomiSaas.Inventory.Store
import KomiSaas.Lib.Errors

/-!
# The use cases that write the inventory

`inventory/application/use-cases/`. The four stock operations are cut at their
calls to the repository: `load` is everything up to `findById`, `perform` what
happens to the loaded item, and what `perform` returns is then saved and its
events published. The same definitions serve whole requests (`execute`) and an
interleaving of their steps.

What a stock operation does to the item it loaded: `StockOperation.effect_of_perform`.
-/

namespace KomiSaas.Inventory

open KomiSaas.Lib KomiSaas.Shared InventoryItemRepository

/-- What the use cases are assembled with: the decimal package and `new Date(text)`. -/
structure InventoryEnv where
  decimal : DecimalJs
  parseDate : JsString → JsDate

/-- What one call finds around it: the clock, the ids it would generate, and
    the answers of the two checkers. `configId` is by branch. -/
structure Call where
  now : Instant
  itemId : Uuid
  batchId : Uuid
  configId : Uuid → Uuid
  branchExistsInTenant : Uuid → Uuid → Bool
  tenantExists : Uuid → Bool

/-- Why a call rejects. -/
inductive Failure where
  | domain (error : InventoryException)
  | database
  deriving DecidableEq

/-- `DEFAULT_CURRENCY`. -/
def defaultCurrency : JsString := js "COP"

/-- `findById`, or `InventoryItemNotFoundException`. -/
def loadItem (store : InventoryStore) (itemId tenantId : Uuid) (branchId : Option Uuid) :
    Except InventoryException InventoryItem :=
  match findById store itemId tenantId branchId with
  | none => .error (.inventoryItemNotFound itemId)
  | some item => .ok item

/-- A method of the aggregate that throws ends the use case. -/
def settle : Outcome → Except InventoryException InventoryItem
  | (.error e, _) => .error e
  | (.ok (), item) => .ok item

/-- `Quantity.of` inside a use case. -/
def quantityOf (env : InventoryEnv) (amount : JsString) : Except InventoryException Quantity :=
  (Quantity.of env.decimal amount).mapError .invalidQuantity

/-- `Money.of` inside a use case. -/
def moneyOf (env : InventoryEnv) (amount currency : JsString) : Except InventoryException Money :=
  (Money.of env.decimal amount currency).mapError .invalidMoney

/-! ## The stock operations -/

structure ReceiveStockParams where
  itemId : Uuid
  tenantId : Uuid
  branchId : Uuid
  quantityReceived : JsString
  totalCostAmount : JsString
  expirationDate : Option JsString
  receivedAt : Option JsString
  deriving DecidableEq

structure ConsumeStockParams where
  itemId : Uuid
  tenantId : Uuid
  branchId : Uuid
  quantity : JsString
  consumedAt : Option JsString
  deriving DecidableEq

structure RegisterWasteParams where
  itemId : Uuid
  tenantId : Uuid
  branchId : Uuid
  quantity : JsString
  reason : JsString
  occurredAt : Option JsString
  deriving DecidableEq

structure CountStockParams where
  itemId : Uuid
  tenantId : Uuid
  branchId : Uuid
  actualTotal : JsString
  reason : JsString
  occurredAt : Option JsString
  deriving DecidableEq

/-- `receive-stock.use-case.ts`, lines 15–23. -/
def ReceiveStock.load (call : Call) (store : InventoryStore) (params : ReceiveStockParams) :
    Except InventoryException InventoryItem :=
  if !call.branchExistsInTenant params.branchId params.tenantId then
    .error (.branchNotFound params.branchId)
  else loadItem store params.itemId params.tenantId none

/-- `InventoryBatchExpirationDate.create`, where a date was sent. -/
def expirationDateOf (env : InventoryEnv) (expirationDate : Option JsString) :
    Except InventoryException (Option Instant) :=
  match truthy expirationDate with
  | none => .ok none
  | some raw =>
    match env.parseDate raw with
    | none => .error (.invalidExpirationDate (js "\"" ++ raw ++ js "\" no es una fecha válida"))
    | some date => .ok (some date)

/-- `receive-stock.use-case.ts`, lines 25–36. -/
def ReceiveStock.perform (env : InventoryEnv) (call : Call) (params : ReceiveStockParams)
    (item : InventoryItem) : Except InventoryException InventoryItem := do
  let quantityReceived ← quantityOf env params.quantityReceived
  let totalCost ← moneyOf env params.totalCostAmount defaultCurrency
  let unitCost ← (totalCost.divide env.decimal (quantityReceived.getValue env.decimal)).mapError
    .invalidMoney
  let expirationDate ← expirationDateOf env params.expirationDate
  settle (item.recivedBatch env.decimal call.batchId params.branchId quantityReceived unitCost
    expirationDate ((truthy params.receivedAt).map env.parseDate) call.now)

/-- `consume-stock.use-case.ts`, lines 24–27. -/
def ConsumeStock.perform (env : InventoryEnv) (call : Call) (params : ConsumeStockParams)
    (item : InventoryItem) : Except InventoryException InventoryItem := do
  let quantity ← quantityOf env params.quantity
  settle (item.consume env.decimal quantity ((truthy params.consumedAt).map env.parseDate) call.now)

/-- `register-waste.use-case.ts`, lines 21–26. -/
def RegisterWaste.perform (env : InventoryEnv) (call : Call) (params : RegisterWasteParams)
    (item : InventoryItem) : Except InventoryException InventoryItem := do
  let quantity ← quantityOf env params.quantity
  settle (item.registerWaste env.decimal params.branchId quantity params.reason
    ((truthy params.occurredAt).map env.parseDate) call.now)

/-- `count-stock.use-case.ts`, lines 20–25. -/
def CountStock.perform (env : InventoryEnv) (call : Call) (params : CountStockParams)
    (item : InventoryItem) : Except InventoryException InventoryItem := do
  let actualTotal ← quantityOf env params.actualTotal
  settle (item.countStock env.decimal params.branchId actualTotal params.reason
    ((truthy params.occurredAt).map env.parseDate) call.now)

/-- A call of one of the four stock operations. -/
inductive StockOperation where
  | receiveStock (params : ReceiveStockParams)
  | consumeStock (params : ConsumeStockParams)
  | registerWaste (params : RegisterWasteParams)
  | countStock (params : CountStockParams)
  deriving DecidableEq

namespace StockOperation

/-- Up to `findById`. Only `ConsumeStock` loads a single branch. -/
def load (call : Call) (store : InventoryStore) :
    StockOperation → Except InventoryException InventoryItem
  | .receiveStock params => ReceiveStock.load call store params
  | .consumeStock params =>
    loadItem store params.itemId params.tenantId (some params.branchId)
  | .registerWaste params => loadItem store params.itemId params.tenantId none
  | .countStock params => loadItem store params.itemId params.tenantId none

/-- From `findById` to `save`. -/
def perform (env : InventoryEnv) (call : Call) (item : InventoryItem) :
    StockOperation → Except InventoryException InventoryItem
  | .receiveStock params => ReceiveStock.perform env call params item
  | .consumeStock params => ConsumeStock.perform env call params item
  | .registerWaste params => RegisterWaste.perform env call params item
  | .countStock params => CountStock.perform env call params item

end StockOperation

/-- What a stock operation does to the item it loaded: it receives the new
    batch `batchId`, or takes something from active batches of one branch. -/
inductive StockEffect (decimal : DecimalJs) (batchId : Uuid) (item : InventoryItem) :
    InventoryItem → Prop
  | received {batch : InventoryBatch} {occurredOn : JsDate} {now : Instant} :
      batch.id = batchId → batch.quantityRemaining = batch.quantityReceived →
      0 < batch.quantityReceived.milli →
      StockEffect decimal batchId item
        (item.afterReceipt batch (InventoryItem.receiptEvent decimal item batch occurredOn) now)
  | drawn {branchId : Uuid} {date : JsDate} {details : List BatchDetail} {event : DomainEvent}
      {now : Instant} :
      Drawn decimal (item.activateBatchesOfBranch branchId date) details →
      InventoryItem.DrawEvent item branchId details event →
      StockEffect decimal batchId item (item.afterDraw decimal details event now)

theorem settle_eq_ok {outcome : Outcome} {item : InventoryItem} (h : settle outcome = .ok item) :
    outcome = (.ok (), item) := by
  obtain ⟨result, item'⟩ := outcome
  cases result with
  | error e => cases h
  | ok u =>
    obtain rfl := Except.ok.inj h
    rfl

theorem StockOperation.effect_of_perform {env : InventoryEnv} {call : Call}
    {item item' : InventoryItem} {operation : StockOperation}
    (hids : (item.batches.map (·.id)).Nodup) (hfit : Fits item.batches)
    (h : operation.perform env call item = .ok item') :
    StockEffect env.decimal call.batchId item item' := by
  cases operation with
  | receiveStock params =>
    obtain ⟨quantity, -, h⟩ := bind_eq_ok.mp h
    obtain ⟨totalCost, -, h⟩ := bind_eq_ok.mp h
    obtain ⟨unitCost, -, h⟩ := bind_eq_ok.mp h
    obtain ⟨expirationDate, -, h⟩ := bind_eq_ok.mp h
    obtain ⟨batch, hid, hremaining, hpos, -, rfl⟩ := InventoryItem.recivedBatch_ok (settle_eq_ok h)
    exact .received hid hremaining hpos
  | consumeStock params =>
    obtain ⟨quantity, -, h⟩ := bind_eq_ok.mp h
    obtain ⟨branchId, details, event, hdrawn, hevent, rfl⟩ :=
      InventoryItem.consume_ok hids hfit (settle_eq_ok h)
    exact .drawn hdrawn.drawn hevent
  | registerWaste params =>
    obtain ⟨quantity, -, h⟩ := bind_eq_ok.mp h
    obtain ⟨details, event, hdrawn, hevent, rfl⟩ :=
      InventoryItem.registerWaste_ok hids hfit (settle_eq_ok h)
    exact .drawn hdrawn.drawn hevent
  | countStock params =>
    obtain ⟨actualTotal, -, h⟩ := bind_eq_ok.mp h
    obtain ⟨details, event, hdrawn, hevent, rfl⟩ :=
      InventoryItem.countStock_ok hids hfit (settle_eq_ok h)
    exact .drawn hdrawn.drawn hevent

/-- The same for every effect: what `details` took is gone from the loaded
    batches, and a reception adds one. -/
theorem StockEffect.batches {decimal : DecimalJs} {batchId : Uuid} {item item' : InventoryItem}
    (h : StockEffect decimal batchId item item') :
    ∃ details received, item'.batches = drawAll decimal details item.batches ++ received ∧
      Drawn decimal item.batches details ∧
      item'.domainEvents.flatMap (·.drawnBatches) =
        item.domainEvents.flatMap (·.drawnBatches) ++ details ∧
      ∀ batch ∈ received, batch.id = batchId ∧
        batch.quantityRemaining = batch.quantityReceived ∧ received = [batch] := by
  cases h with
  | @received batch occurredOn now hid hremaining hpos =>
    refine ⟨[], [batch], ?_, ⟨List.nodup_nil, by simp⟩, ?_, ?_⟩
    · rw [drawAll_nil]
      rfl
    · simp [InventoryItem.afterReceipt, InventoryItem.receiptEvent, DomainEvent.drawnBatches]
    · intro b hb
      obtain rfl := List.mem_singleton.mp hb
      exact ⟨hid, hremaining, rfl⟩
  | @drawn branchId date details event now hdrawn hevent =>
    refine ⟨details, [], by simp [InventoryItem.afterDraw], ?_, ?_, by simp⟩
    · exact hdrawn.mono fun b hb => (List.mem_filter.mp hb).1
    · simp [InventoryItem.afterDraw, hevent.drawnBatches]

/-- The ids of the batches to save are distinct: those loaded, and a new one. -/
theorem nodup_saved {decimal : DecimalJs} {batchId : Uuid} {details : List BatchDetail}
    {loaded received : List InventoryBatch} (hloaded : (loaded.map (·.id)).Nodup)
    (hreceived : ∀ batch ∈ received, batch.id = batchId ∧
      batch.quantityRemaining = batch.quantityReceived ∧ received = [batch])
    (hfresh : batchId ∉ loaded.map (·.id)) :
    ((drawAll decimal details loaded ++ received).map (·.id)).Nodup := by
  rw [List.map_append, map_id_drawAll]
  cases received with
  | nil => simpa using hloaded
  | cons batch rest =>
    obtain ⟨hid, -, hrest⟩ := hreceived batch List.mem_cons_self
    rw [hrest, List.map_singleton, hid]
    refine List.Nodup.append hloaded (List.nodup_singleton _) ?_
    intro id hold hnew
    rw [List.mem_singleton.mp hnew] at hold
    exact hfresh hold

/-- Every stock operation starts from an item that `findById` returned. -/
theorem StockOperation.findById_of_load {call : Call} {store : InventoryStore}
    {operation : StockOperation} {item : InventoryItem} (h : operation.load call store = .ok item) :
    ∃ itemId tenantId branchId, findById store itemId tenantId branchId = some item := by
  have hload : ∀ {itemId tenantId branchId}, loadItem store itemId tenantId branchId = .ok item →
      ∃ itemId tenantId branchId, findById store itemId tenantId branchId = some item := by
    intro itemId tenantId branchId h
    unfold loadItem at h
    split at h
    · cases h
    · rename_i hfind
      exact ⟨itemId, tenantId, branchId, (Except.ok.inj h) ▸ hfind⟩
  cases operation with
  | receiveStock params =>
    change ReceiveStock.load call store params = .ok item at h
    unfold ReceiveStock.load at h
    split_ifs at h
    exact hload h
  | consumeStock params => exact hload h
  | registerWaste params => exact hload h
  | countStock params => exact hload h

/-! ## The other operations -/

structure CreateInventoryItemParams where
  tenantId : Uuid
  name : JsString
  unitOfMeasure : JsString
  isPerishable : Bool
  deriving DecidableEq

structure UpdateInventoryItemParams where
  name : Option JsString
  costAmount : Option JsString
  costCurrency : Option JsString
  unitOfMeasure : Option JsString
  isPerishable : Option Bool
  deriving DecidableEq

structure SetGlobalMinimumStockParams where
  itemId : Uuid
  tenantId : Uuid
  minStock : Option JsString
  deriving DecidableEq

structure BranchMinimumEntry where
  branchId : Uuid
  minStock : Option JsString
  deriving DecidableEq

structure SetBranchMinimumStockParams where
  itemId : Uuid
  tenantId : Uuid
  branches : List BranchMinimumEntry
  deriving DecidableEq

/-- `create-inventory-item.use-case.ts`, lines 14–34, with the store after
    `nextSkuSequence`, whose value is spent whatever follows. -/
def CreateInventoryItem.perform (call : Call) (store : InventoryStore)
    (params : CreateInventoryItemParams) :
    Except InventoryException InventoryItem × InventoryStore :=
  if !call.tenantExists params.tenantId then (.error (.tenantNotFound params.tenantId), store)
  else
    match InventoryItemName.create params.name with
    | .error e => (.error e, store)
    | .ok name =>
      if existsByName store name params.tenantId then
        (.error (.inventoryItemNameAlreadyExists params.name), store)
      else
        let (skuNumber, store) := nextSkuSequence store
        (do
          let unitOfMeasure ← InventoryItemUnit.create params.unitOfMeasure
          .ok (InventoryItem.create call.itemId params.tenantId
            (InventoryItemSku.fromNumber skuNumber) name unitOfMeasure params.isPerishable
            call.now),
          store)

/-- An optional field that is sent is converted. -/
def ifSent {α : Type} (convert : JsString → Except InventoryException α) :
    Option JsString → Except InventoryException (Option α)
  | none => .ok none
  | some raw => (convert raw).map some

/-- `update-inventory-item.use-case.ts`, lines 18–26: the new name, if one is
    sent and no item has it. -/
def newNameOf (store : InventoryStore) (tenantId : Uuid) (raw : JsString) :
    Except InventoryException InventoryItemName := do
  let name ← InventoryItemName.create raw
  if existsByName store name tenantId then .error (.inventoryItemNameAlreadyExists raw)
  else .ok name

/-- `update-inventory-item.use-case.ts`, lines 18–39. The cost is converted,
    and then ignored by `update`. -/
def UpdateInventoryItem.perform (env : InventoryEnv) (call : Call) (store : InventoryStore)
    (tenantId : Uuid) (params : UpdateInventoryItemParams) (item : InventoryItem) :
    Except InventoryException InventoryItem := do
  let name ← ifSent (newNameOf store tenantId) params.name
  let _ ← ifSent (fun amount => moneyOf env amount (params.costCurrency.getD (js "COP")))
    params.costAmount
  let unitOfMeasure ← ifSent InventoryItemUnit.create params.unitOfMeasure
  settle (item.update name unitOfMeasure params.isPerishable call.now)

/-- `set-global-minimum-stock.use-case.ts`, lines 34–38. -/
def SetGlobalMinimumStock.perform (env : InventoryEnv) (call : Call)
    (params : SetGlobalMinimumStockParams) (item : InventoryItem) :
    Except InventoryException InventoryItem := do
  let minStock ← ifSent (quantityOf env) params.minStock
  .ok (item.setGlobalMinimum minStock call.now)

/-- The entries of `setMinimumsForBranches` (`set-branch-minimum-stock.use-case.ts`,
    lines 46–50). -/
def entriesOf (env : InventoryEnv) :
    List BranchMinimumEntry → Except InventoryException (List (Uuid × Option Quantity))
  | [] => .ok []
  | entry :: branches => do
    let minStock ← ifSent (quantityOf env) entry.minStock
    let entries ← entriesOf env branches
    .ok ((entry.branchId, minStock) :: entries)

/-- `set-branch-minimum-stock.use-case.ts`, lines 34–51. -/
def SetBranchMinimumStock.perform (env : InventoryEnv) (call : Call)
    (params : SetBranchMinimumStockParams) (item : InventoryItem) :
    Except InventoryException InventoryItem :=
  match params.branches.find? fun entry =>
      !call.branchExistsInTenant entry.branchId params.tenantId with
  | some entry => .error (.branchNotFound entry.branchId)
  | none => do
    let entries ← entriesOf env params.branches
    settle (item.setMinimumsForBranches call.configId entries call.now)

/-- A call of one of the eight operations. -/
inductive Operation where
  | stock (operation : StockOperation)
  | createInventoryItem (params : CreateInventoryItemParams)
  | updateInventoryItem (itemId tenantId : Uuid) (params : UpdateInventoryItemParams)
  | setGlobalMinimumStock (params : SetGlobalMinimumStockParams)
  | setBranchMinimumStock (params : SetBranchMinimumStockParams)
  deriving DecidableEq

namespace Operation

/-- Everything before `save`: the item to save, and the store by then. -/
def prepare (env : InventoryEnv) (call : Call) (store : InventoryStore) :
    Operation → Except InventoryException InventoryItem × InventoryStore
  | .stock operation =>
    ((operation.load call store).bind fun item => operation.perform env call item, store)
  | .createInventoryItem params => CreateInventoryItem.perform call store params
  | .updateInventoryItem itemId tenantId params =>
    ((loadItem store itemId tenantId none).bind
      (UpdateInventoryItem.perform env call store tenantId params), store)
  | .setGlobalMinimumStock params =>
    ((loadItem store params.itemId params.tenantId none).bind
      (SetGlobalMinimumStock.perform env call params), store)
  | .setBranchMinimumStock params =>
    ((loadItem store params.itemId params.tenantId none).bind
      (SetBranchMinimumStock.perform env call params), store)

/-- `save`, and the events of the item, which the stock operations publish. -/
def commit (store : InventoryStore) (item : InventoryItem) :
    Except Failure (List DomainEvent) × InventoryStore :=
  match save store item with
  | none => (.error .database, store)
  | some store => (.ok item.domainEvents, store)

/-- A whole call. -/
def execute (env : InventoryEnv) (call : Call) (store : InventoryStore) (operation : Operation) :
    Except Failure (List DomainEvent) × InventoryStore :=
  match operation.prepare env call store with
  | (.error e, store) => (.error (.domain e), store)
  | (.ok item, store) => commit store item

end Operation

/-! ## A concrete item, for examples -/

def sampleTenantId : Uuid := js "10000000-0000-4000-8000-000000000001"

def sampleItemId : Uuid := js "40000000-0000-4000-8000-000000000001"

/-- The branches of the sample business. -/
def sampleBranchId (n : ℕ) : Uuid :=
  js (if n = 1 then "50000000-0000-4000-8000-000000000001"
    else "50000000-0000-4000-8000-000000000002")

/-- Ids for batches and branch configurations. -/
def sampleBatchId (n : ℕ) : Uuid :=
  js (if n = 1 then "60000000-0000-4000-8000-000000000001"
    else if n = 2 then "60000000-0000-4000-8000-000000000002"
    else "60000000-0000-4000-8000-000000000003")

def sampleEnv : InventoryEnv where
  decimal := plainDecimal
  parseDate _ := none

/-- A call that finds every branch and tenant, and generates the `n`-th sample id. -/
def sampleCall (n : ℕ) : Call where
  now := 1000
  itemId := sampleBatchId n
  batchId := sampleBatchId n
  configId branchId := branchId
  branchExistsInTenant _ _ := true
  tenantExists _ := true

def sampleName : InventoryItemName := ⟨js "Tomate", by decide, by decide⟩

/-- One item without batches. -/
def sampleStore : InventoryStore where
  items :=
    [{ id := sampleItemId
       tenantId := sampleTenantId
       sku := js "INV-0001"
       name := sampleName
       unitOfMeasure := .unit
       isPerishable := false
       isActive := true
       minGlobalStock := none
       createdAt := 0
       updatedAt := 0 }]
  batches := []
  branchConfigs := []
  skuSequence := 2

theorem sampleStore_items_ne_nil : sampleStore.items ≠ [] := by decide

/-- Receive units in the first branch. -/
def sampleReceive (quantityReceived : JsString) : StockOperation :=
  .receiveStock
    { itemId := sampleItemId
      tenantId := sampleTenantId
      branchId := sampleBranchId 1
      quantityReceived := quantityReceived
      totalCostAmount := js "1500"
      expirationDate := none
      receivedAt := none }

/-- Consume units in the first branch. -/
def sampleConsume (quantity : JsString) : StockOperation :=
  .consumeStock
    { itemId := sampleItemId
      tenantId := sampleTenantId
      branchId := sampleBranchId 1
      quantity := quantity
      consumedAt := none }

end KomiSaas.Inventory
