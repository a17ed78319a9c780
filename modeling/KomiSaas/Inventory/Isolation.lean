import KomiSaas.Inventory.Ownership

/-!
# Isolation of the businesses

Ten operations on the items of a business, each with the business that the
session gives it and with item and branch ids that may be of any other.

* `Request.execute`: a whole request, with its answer or its events.
* `isolated`: what a business is answered depends only on its own rows and
  branches, and nothing of the other businesses changes.
-/

namespace KomiSaas.Inventory.Isolation

open KomiSaas.Lib KomiSaas.Shared KomiSaas.Businesses InventoryItemRepository

/-! ## Requests -/

/-- The ten operations on a business's items, with what each is sent. -/
inductive Request where
  | findInventoryItem (itemId tenantId : Uuid) (branchId : Option Uuid)
  | searchInventoryItems (tenantId : Uuid) (pagination : Pagination) (branchId : Option Uuid)
  | searchItemBatches (itemId tenantId : Uuid) (pagination : Pagination) (branchId : Option Uuid)
  | receiveStock (params : ReceiveStockParams)
  | consumeStock (params : ConsumeStockParams)
  | registerWaste (params : RegisterWasteParams)
  | countStock (params : CountStockParams)
  | updateInventoryItem (itemId tenantId : Uuid) (params : UpdateInventoryItemParams)
  | setGlobalMinimumStock (params : SetGlobalMinimumStockParams)
  | setBranchMinimumStock (params : SetBranchMinimumStockParams)
  deriving DecidableEq

/-- What a request returns, or the events that it publishes. -/
inductive Answer where
  | item (response : InventoryItemResponse)
  | items (page : Paginated InventoryItemResponse)
  | batches (page : Paginated InventoryBatchView)
  | done (events : List DomainEvent)
  deriving DecidableEq

/-- A write in a database, where the checker asks for its branches. -/
def Database.write (db : Database) (env : InventoryEnv) (call : Call) (operation : Operation) :
    Except Failure Answer × Database :=
  let outcome := operation.execute env (within db.branches call) db.store
  (outcome.1.map .done, ⟨outcome.2, db.branches, db.valid.execute⟩)

namespace Request

/-- The business that a request is made for. -/
def tenantId : Request → Uuid
  | .findInventoryItem _ tenantId _ => tenantId
  | .searchInventoryItems tenantId _ _ => tenantId
  | .searchItemBatches _ tenantId _ _ => tenantId
  | .receiveStock params => params.tenantId
  | .consumeStock params => params.tenantId
  | .registerWaste params => params.tenantId
  | .countStock params => params.tenantId
  | .updateInventoryItem _ tenantId _ => tenantId
  | .setGlobalMinimumStock params => params.tenantId
  | .setBranchMinimumStock params => params.tenantId

/-- The write that a request makes, if it makes any. -/
def operation : Request → Option Operation
  | .receiveStock params => some (.stock (.receiveStock params))
  | .consumeStock params => some (.stock (.consumeStock params))
  | .registerWaste params => some (.stock (.registerWaste params))
  | .countStock params => some (.stock (.countStock params))
  | .updateInventoryItem itemId tenantId params =>
    some (.updateInventoryItem itemId tenantId params)
  | .setGlobalMinimumStock params => some (.setGlobalMinimumStock params)
  | .setBranchMinimumStock params => some (.setBranchMinimumStock params)
  | _ => none

/-- The ids that a request generates belong to no stored row. -/
def fresh (call : Call) (store : InventoryStore) (request : Request) : Bool :=
  request.operation.all (newIds call store)

/-- A whole request: what it answers, and the database it leaves. -/
def execute (env : InventoryEnv) (call : Call) (db : Database) :
    Request → Except Failure Answer × Database
  | .findInventoryItem itemId tenantId branchId =>
    (((FindInventoryItem.execute env call.now db.store itemId tenantId branchId).mapError
      .domain).map .item, db)
  | .searchInventoryItems tenantId pagination branchId =>
    (((SearchInventoryItems.execute env call.now db.store tenantId pagination branchId).mapError
      .domain).map .items, db)
  | .searchItemBatches itemId tenantId pagination branchId =>
    (.ok (.batches (SearchItemBatches.execute call.now db.store itemId tenantId pagination
      branchId)), db)
  | .receiveStock params => db.write env call (.stock (.receiveStock params))
  | .consumeStock params => db.write env call (.stock (.consumeStock params))
  | .registerWaste params => db.write env call (.stock (.registerWaste params))
  | .countStock params => db.write env call (.stock (.countStock params))
  | .updateInventoryItem itemId tenantId params =>
    db.write env call (.updateInventoryItem itemId tenantId params)
  | .setGlobalMinimumStock params => db.write env call (.setGlobalMinimumStock params)
  | .setBranchMinimumStock params => db.write env call (.setBranchMinimumStock params)

end Request

variable {env : InventoryEnv} {call : Call} {db db' : Database} {operation : Operation}
  {itemId tenantId : Uuid}

/-- What a write comes to; the ids that it generates do not depend on the branches. -/
theorem write_spec (htarget : Sequential.target operation = some (itemId, tenantId))
    (hfresh : newIds call db.store operation = true) :
    (db.write env call operation).1 =
        (outcomeOf (operation.prepare env (within db.branches call) db.store).1).map .done ∧
      Written db.store tenantId (db.write env call operation).2.store := by
  have hspec : (operation.execute env (within db.branches call) db.store).1 =
        outcomeOf (operation.prepare env (within db.branches call) db.store).1 ∧
      Written db.store tenantId (operation.execute env (within db.branches call) db.store).2 :=
    execute_spec db.valid hfresh htarget
  exact ⟨congrArg (Except.map Answer.done) hspec.1, hspec.2⟩

/-- Databases with the same own rows and branches give a write the same outcome. -/
theorem write_congr (htarget : Sequential.target operation = some (itemId, tenantId))
    (hfresh : newIds call db.store operation = true)
    (hfresh' : newIds call db'.store operation = true)
    (hown : own tenantId db.store = own tenantId db'.store)
    (hbranches : ownBranches tenantId db.branches = ownBranches tenantId db'.branches) :
    (db.write env call operation).1 = (db'.write env call operation).1 := by
  rw [(write_spec htarget hfresh).1, (write_spec htarget hfresh').1,
    prepare_congr htarget hown hbranches]

theorem foreign_write (htarget : Sequential.target operation = some (itemId, tenantId))
    (hfresh : newIds call db.store operation = true) :
    foreign tenantId (db.write env call operation).2.store = foreign tenantId db.store :=
  foreign_of_written db.valid (write_spec htarget hfresh).2

/-- A read returns the same from the same own rows, and writes nothing. -/
theorem read_congr {request : Request} (hread : request.operation = none)
    (hown : own request.tenantId db.store = own request.tenantId db'.store) :
    (request.execute env call db).1 = (request.execute env call db').1 ∧
      (request.execute env call db).2 = db := by
  cases request with
  | findInventoryItem itemId tenantId branchId =>
    have hload : loadItem db.store itemId tenantId branchId =
        loadItem db'.store itemId tenantId branchId := loadItem_congr hown
    simp only [Request.execute, FindInventoryItem.execute, hload, and_self]
  | searchInventoryItems tenantId pagination branchId =>
    have hsearch : search db.store tenantId pagination branchId =
        search db'.store tenantId pagination branchId := by
      rw [← search_own, show own tenantId db.store = own tenantId db'.store from hown,
        search_own]
    simp only [Request.execute, SearchInventoryItems.execute, hsearch, and_self]
  | searchItemBatches itemId tenantId pagination branchId =>
    have hsearch : SearchItemBatches.execute call.now db.store itemId tenantId pagination branchId =
        SearchItemBatches.execute call.now db'.store itemId tenantId pagination branchId := by
      unfold SearchItemBatches.execute
      rw [← findByItem_own, show own tenantId db.store = own tenantId db'.store from hown,
        findByItem_own]
    simp only [Request.execute, hsearch, and_self]
  | _ => cases hread

/-- A write of a request is to an item of the business it is made for. -/
theorem execute_of_operation {request : Request} (hwrite : request.operation = some operation) :
    (∃ itemId, Sequential.target operation = some (itemId, request.tenantId)) ∧
      ∀ db : Database, request.execute env call db = db.write env call operation := by
  cases request with
  | findInventoryItem => cases hwrite
  | searchInventoryItems => cases hwrite
  | searchItemBatches => cases hwrite
  | _ =>
    obtain rfl := Option.some.inj hwrite
    exact ⟨⟨_, rfl⟩, fun db => rfl⟩

/-- What a business is answered is the same in two databases with the same rows
    and branches of its own, and the rows of the other businesses stay. -/
theorem isolated (env : InventoryEnv) (call : Call) (request : Request) (db db' : Database)
    (hown : own request.tenantId db.store = own request.tenantId db'.store)
    (hbranches : ownBranches request.tenantId db.branches =
      ownBranches request.tenantId db'.branches)
    (hfresh : request.fresh call db.store = true)
    (hfresh' : request.fresh call db'.store = true) :
    (request.execute env call db).1 = (request.execute env call db').1 ∧
      foreign request.tenantId (request.execute env call db).2.store =
        foreign request.tenantId db.store := by
  cases hwrite : request.operation with
  | none =>
    have hread : (request.execute env call db).1 = (request.execute env call db').1 ∧
        (request.execute env call db).2 = db := read_congr hwrite hown
    obtain ⟨hanswer, hsame⟩ := hread
    rw [hsame]
    exact ⟨hanswer, rfl⟩
  | some operation =>
    unfold Request.fresh at hfresh hfresh'
    rw [hwrite, Option.all_some] at hfresh hfresh'
    obtain ⟨⟨itemId, htarget⟩, hexecute⟩ := execute_of_operation hwrite
    rw [hexecute, hexecute]
    exact ⟨write_congr htarget hfresh hfresh' hown hbranches, foreign_write htarget hfresh⟩

/-! ## A concrete pair of databases -/

def sampleBranchRow (n : ℕ) (tenantId : Uuid) : BranchRow where
  id := sampleBranchId n
  tenantId := tenantId
  name := js "Centro"
  address := js "Calle 10"
  phone := js "3001234567"
  city := js "Medellín"
  department := js "Antioquia"
  isActive := true
  isDeleted := false
  createdAt := 0
  updatedAt := 0

/-- The business has one item and one branch. -/
def sampleDatabase : Database where
  store := sampleStore
  branches := [sampleBranchRow 1 sampleTenantId]
  valid := ⟨⟨by decide, by decide, by decide, by decide⟩, by decide, by decide, by decide⟩

/-- Another business. -/
def otherTenantId : Uuid := js "10000000-0000-4000-8000-000000000002"

def otherItemId : Uuid := js "40000000-0000-4000-8000-000000000002"

/-- The same, with an item of another business, one batch and one minimum of it. -/
def sharedDatabase : Database where
  store :=
    { items := sampleStore.items ++
        [{ id := otherItemId
           tenantId := otherTenantId
           sku := js "INV-0002"
           name := sampleName
           unitOfMeasure := .gram
           isPerishable := false
           isActive := true
           minGlobalStock := none
           createdAt := 0
           updatedAt := 0 }]
      batches :=
        [{ id := sampleBatchId 2
           inventoryItemId := otherItemId
           branchId := sampleBranchId 2
           quantityReceived := ⟨5000⟩
           quantityRemaining := ⟨5000⟩
           unitCost := ⟨100, js "COP", isIsoCode_cop⟩
           expirationDate := none
           receivedAt := some 0 }]
      branchConfigs :=
        [{ id := sampleBatchId 3
           inventoryItemId := otherItemId
           branchId := sampleBranchId 2
           minStock := ⟨1000⟩ }]
      skuSequence := 3 }
  branches := [sampleBranchRow 2 otherTenantId, sampleBranchRow 1 sampleTenantId]
  valid := ⟨⟨by decide, by decide, by decide, by decide⟩, by decide, by decide, by decide⟩

/-- Receive units of an item in the first branch. -/
def sampleRequest (itemId : Uuid) : Request :=
  .receiveStock
    { itemId := itemId
      tenantId := sampleTenantId
      branchId := sampleBranchId 1
      quantityReceived := js "2.5"
      totalCostAmount := js "1500"
      expirationDate := none
      receivedAt := none }

/-- A reception is carried out in both databases, and leaves the other business alone. -/
theorem isolated_receive :
    ((sampleRequest sampleItemId).execute sampleEnv (sampleCall 1) sampleDatabase).1.isOk = true ∧
      ((sampleRequest sampleItemId).execute sampleEnv (sampleCall 1) sharedDatabase).1 =
        ((sampleRequest sampleItemId).execute sampleEnv (sampleCall 1) sampleDatabase).1 ∧
      foreign sampleTenantId
          ((sampleRequest sampleItemId).execute sampleEnv (sampleCall 1) sharedDatabase).2.store =
        foreign sampleTenantId sharedDatabase.store :=
  ⟨by decide +kernel,
    isolated sampleEnv (sampleCall 1) (sampleRequest sampleItemId) sharedDatabase sampleDatabase
      (by decide +kernel) (by decide +kernel) (by decide +kernel) (by decide +kernel)⟩

/-- An item of the other business is not there. -/
example : ((sampleRequest otherItemId).execute sampleEnv (sampleCall 1) sharedDatabase).1 =
    .error (.domain (.inventoryItemNotFound otherItemId)) := by decide +kernel

end KomiSaas.Inventory.Isolation
