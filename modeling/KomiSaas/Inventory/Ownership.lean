import KomiSaas.Inventory.Reads
import KomiSaas.Inventory.Sequential
import KomiSaas.Businesses.Branch

/-!
# The rows of a business

A batch and an override have no business of their own: they are reached through
an item, and belong to its business. `rowsOf p` are the rows of the businesses
that satisfy `p`, so `own` and `foreign` cut the tables in two.

* `Database`: the tables, as the constraints of the database let them be.
* `findById_own`, `search_own`, `findByItem_own`: what is read for a business is
  read from its own rows; `prepare_congr`: so is what an operation prepares.
* `meetsConstraints_written`: no item that was prepared breaks a constraint, so
  nothing about the other rows decides whether it is saved.
* `foreign_written`: the save of an item leaves the rows of the other businesses.
* `execute_spec`: everything that an operation on an item comes to.
-/

namespace KomiSaas.Inventory.Isolation

open KomiSaas.Lib KomiSaas.Shared KomiSaas.Businesses InventoryItemRepository

/-! ## Whose rows -/

/-- The items of some businesses, with their batches and overrides. The sequence
    of the SKUs belongs to no business. -/
def rowsOf (p : Uuid → Bool) (store : InventoryStore) : InventoryStore :=
  let items := store.items.filter fun row => p row.tenantId
  { items := items
    batches := store.batches.filter fun row => row.inventoryItemId ∈ items.map (·.id)
    branchConfigs := store.branchConfigs.filter fun row =>
      row.inventoryItemId ∈ items.map (·.id)
    skuSequence := 0 }

/-- The rows of a business. -/
def own (tenantId : Uuid) (store : InventoryStore) : InventoryStore :=
  rowsOf (fun owner => owner = tenantId) store

/-- The rows of the other businesses. -/
def foreign (tenantId : Uuid) (store : InventoryStore) : InventoryStore :=
  rowsOf (fun owner => owner ≠ tenantId) store

/-- What the database enforces: primary and foreign keys, the types of the
    columns and the two `UNIQUE` constraints. -/
structure Valid (store : InventoryStore) : Prop extends Sequential.Sound store where
  configs : (store.branchConfigs.map (·.id)).Nodup
  configsOwned : ∀ row ∈ store.branchConfigs, row.inventoryItemId ∈ store.items.map (·.id)
  constraints : store.meetsConstraints = true

/-- The tables that the operations read and write, and the branches. -/
structure Database where
  store : InventoryStore
  branches : List BranchRow
  valid : Valid store

variable {env : InventoryEnv} {call : Call} {store store' : InventoryStore}
  {operation : Operation} {item loaded : InventoryItem} {itemId tenantId branchId : Uuid}
  {scope : Option Uuid}

theorem Valid.skus (h : Valid store) : (store.items.map (·.sku)).Nodup := by
  have hconstraints := h.constraints
  unfold InventoryStore.meetsConstraints at hconstraints
  simp only [Bool.and_eq_true, decide_eq_true_eq] at hconstraints
  exact hconstraints.1

theorem Valid.keys (h : Valid store) : (store.branchConfigs.map configKey).Nodup := by
  have hconstraints := h.constraints
  unfold InventoryStore.meetsConstraints at hconstraints
  simp only [Bool.and_eq_true, decide_eq_true_eq] at hconstraints
  exact hconstraints.2

/-! ## Reads -/

theorem mem_ids_own {id : Uuid} : id ∈ (own tenantId store).items.map (·.id) ↔
    ∃ row ∈ store.items, row.tenantId = tenantId ∧ row.id = id := by
  simp [own, rowsOf, and_assoc]

theorem own_batches : (own tenantId store).batches = store.batches.filter fun row =>
    row.inventoryItemId ∈ (own tenantId store).items.map (·.id) := rfl

theorem own_branchConfigs : (own tenantId store).branchConfigs =
    store.branchConfigs.filter fun row =>
      row.inventoryItemId ∈ (own tenantId store).items.map (·.id) := rfl

/-- A query for the batches of an own item finds them among the own rows. -/
theorem activeBatchesOf_own (h : itemId ∈ (own tenantId store).items.map (·.id)) :
    activeBatchesOf (own tenantId store) itemId scope = activeBatchesOf store itemId scope := by
  unfold activeBatchesOf
  rw [own_batches, List.filter_filter]
  apply List.filter_congr
  intro row _
  by_cases hitem : row.inventoryItemId = itemId
  · rw [hitem, decide_eq_true h, Bool.and_true]
  · simp [hitem]

theorem branchConfigsOf_own (h : itemId ∈ (own tenantId store).items.map (·.id)) :
    branchConfigsOf (own tenantId store) itemId scope = branchConfigsOf store itemId scope := by
  unfold branchConfigsOf
  rw [own_branchConfigs, List.filter_filter]
  apply List.filter_congr
  intro row _
  by_cases hitem : row.inventoryItemId = itemId
  · rw [hitem, decide_eq_true h, Bool.and_true]
  · simp [hitem]

theorem findById_own :
    findById (own tenantId store) itemId tenantId scope =
      findById store itemId tenantId scope := by
  have hfind : (own tenantId store).items.find?
      (fun row => row.id = itemId ∧ row.tenantId = tenantId) =
        store.items.find? fun row => row.id = itemId ∧ row.tenantId = tenantId := by
    show (store.items.filter _).find? _ = _
    rw [List.find?_filter]
    congr 1
    funext row
    by_cases htenant : row.tenantId = tenantId <;> simp [htenant]
  unfold findById
  rw [hfind]
  cases hrow : store.items.find? fun row => row.id = itemId ∧ row.tenantId = tenantId with
  | none => rfl
  | some row =>
    have htenant := List.find?_some hrow
    simp only [decide_eq_true_eq] at htenant
    have hown : row.id ∈ (own tenantId store).items.map (·.id) :=
      mem_ids_own.mpr ⟨row, List.mem_of_find?_eq_some hrow, htenant.2, rfl⟩
    rw [Option.map_some, Option.map_some, activeBatchesOf_own hown, branchConfigsOf_own hown]

theorem loadItem_own :
    loadItem (own tenantId store) itemId tenantId scope =
      loadItem store itemId tenantId scope := by
  unfold loadItem
  rw [findById_own]

theorem existsByName_own {name : InventoryItemName} :
    existsByName (own tenantId store) name tenantId = existsByName store name tenantId := by
  show (store.items.filter _).any _ = store.items.any _
  rw [List.any_filter]
  congr 1
  funext row
  by_cases htenant : row.tenantId = tenantId <;> simp [htenant]

theorem toAggregates_own {rows : List InventoryItemRow}
    (hrows : ∀ row ∈ rows, row ∈ store.items ∧ row.tenantId = tenantId) :
    toAggregates (own tenantId store) rows scope = toAggregates store rows scope := by
  rw [toAggregates_eq, toAggregates_eq]
  apply List.map_congr_left
  intro row hrow
  have hown : row.id ∈ (own tenantId store).items.map (·.id) :=
    mem_ids_own.mpr ⟨row, (hrows row hrow).1, (hrows row hrow).2, rfl⟩
  rw [activeBatchesOf_own hown, branchConfigsOf_own hown]

theorem search_own {pagination : Pagination} :
    search (own tenantId store) tenantId pagination scope =
      search store tenantId pagination scope := by
  have hitems : ((own tenantId store).items.filter fun row => row.tenantId = tenantId) =
      store.items.filter fun row => row.tenantId = tenantId := by
    show (store.items.filter _).filter _ = _
    rw [List.filter_filter]
    simp only [Bool.and_self]
  unfold search
  simp only [hitems]
  rw [toAggregates_own]
  intro row hrow
  have hfound := List.mem_of_mem_drop (List.mem_of_mem_take hrow)
  rw [List.mem_mergeSort, List.mem_filter, decide_eq_true_iff] at hfound
  exact hfound

theorem findByItem_own {pagination : Pagination} {now : Instant} :
    InventoryBatchReadRepository.findByItem (own tenantId store) itemId tenantId pagination scope
      now = InventoryBatchReadRepository.findByItem store itemId tenantId pagination scope now := by
  have hjoins : InventoryBatchReadRepository.joins (own tenantId store) tenantId =
      InventoryBatchReadRepository.joins store tenantId := by
    funext row
    show (store.items.filter _).any _ = store.items.any _
    rw [List.any_filter]
    congr 1
    funext itemRow
    by_cases htenant : itemRow.tenantId = tenantId <;> simp [htenant]
  have hbatches : ((own tenantId store).batches.filter fun b =>
        InventoryBatchReadRepository.joins store tenantId b && b.inventoryItemId = itemId &&
          scope.all fun branchId => b.branchId = branchId) =
      store.batches.filter fun b =>
        InventoryBatchReadRepository.joins store tenantId b && b.inventoryItemId = itemId &&
          scope.all fun branchId => b.branchId = branchId := by
    rw [own_batches, List.filter_filter]
    apply List.filter_congr
    intro row _
    by_cases hown : InventoryBatchReadRepository.joins store tenantId row = true
    · have hmem : row.inventoryItemId ∈ (own tenantId store).items.map (·.id) := by
        unfold InventoryBatchReadRepository.joins at hown
        simp only [List.any_eq_true, Bool.and_eq_true, decide_eq_true_eq] at hown
        obtain ⟨itemRow, hitem, hid, htenant⟩ := hown
        exact mem_ids_own.mpr ⟨itemRow, hitem, htenant, hid⟩
      rw [decide_eq_true hmem, Bool.and_true]
    · rw [Bool.eq_false_of_not_eq_true hown]
      rfl
  unfold InventoryBatchReadRepository.findByItem
  simp only [hjoins, hbatches]

/-! ## What an operation prepares -/

/-- The branches of a business. -/
def ownBranches (tenantId : Uuid) (branches : List BranchRow) : List BranchRow :=
  branches.filter fun row => row.tenantId = tenantId

/-- The call, with the branches that its checker asks. -/
def within (branches : List BranchRow) (call : Call) : Call :=
  { call with branchExistsInTenant := BranchRepository.existsInTenant branches }

theorem existsInTenant_own {branches : List BranchRow} :
    BranchRepository.existsInTenant (ownBranches tenantId branches) branchId tenantId =
      BranchRepository.existsInTenant branches branchId tenantId := by
  show (branches.filter _).any _ = branches.any _
  rw [List.any_filter]
  congr 1
  funext row
  by_cases htenant : row.tenantId = tenantId <;> simp [htenant]

section Congr

variable {branches branches' : List BranchRow}

theorem loadItem_congr (hown : own tenantId store = own tenantId store') :
    loadItem store itemId tenantId scope = loadItem store' itemId tenantId scope := by
  rw [← loadItem_own, hown, loadItem_own]

theorem newNameOf_congr (hown : own tenantId store = own tenantId store') :
    newNameOf store tenantId = newNameOf store' tenantId := by
  have hname : ∀ name, existsByName store name tenantId = existsByName store' name tenantId := by
    intro name
    rw [← existsByName_own, hown, existsByName_own]
  funext raw
  simp only [newNameOf, hname]

/-- The checker answers the same about the business. -/
theorem within_congr (hbranches : ownBranches tenantId branches = ownBranches tenantId branches') :
    (within branches call).branchExistsInTenant branchId tenantId =
      (within branches' call).branchExistsInTenant branchId tenantId := by
  show BranchRepository.existsInTenant branches branchId tenantId =
    BranchRepository.existsInTenant branches' branchId tenantId
  rw [← existsInTenant_own, hbranches, existsInTenant_own]

/-- A stock operation loads the same item from the same own rows and branches. -/
theorem load_congr {operation : StockOperation}
    (htarget : Sequential.target (.stock operation) = some (itemId, tenantId))
    (hown : own tenantId store = own tenantId store')
    (hbranches : ownBranches tenantId branches = ownBranches tenantId branches') :
    operation.load (within branches call) store =
      operation.load (within branches' call) store' := by
  cases operation with
  | receiveStock params =>
    obtain ⟨rfl, rfl⟩ := Prod.mk.inj (Option.some.inj htarget)
    show ReceiveStock.load _ store params = ReceiveStock.load _ store' params
    unfold ReceiveStock.load
    rw [within_congr hbranches, loadItem_congr hown]
  | consumeStock params =>
    obtain ⟨rfl, rfl⟩ := Prod.mk.inj (Option.some.inj htarget)
    exact loadItem_congr hown
  | registerWaste params =>
    obtain ⟨rfl, rfl⟩ := Prod.mk.inj (Option.some.inj htarget)
    exact loadItem_congr hown
  | countStock params =>
    obtain ⟨rfl, rfl⟩ := Prod.mk.inj (Option.some.inj htarget)
    exact loadItem_congr hown

/-- An operation on an item prepares the same in two databases with the same own
    rows and branches. -/
theorem prepare_congr (htarget : Sequential.target operation = some (itemId, tenantId))
    (hown : own tenantId store = own tenantId store')
    (hbranches : ownBranches tenantId branches = ownBranches tenantId branches') :
    (operation.prepare env (within branches call) store).1 =
      (operation.prepare env (within branches' call) store').1 := by
  cases operation with
  | createInventoryItem params => cases htarget
  | stock operation =>
    have hperform : ∀ item, operation.perform env (within branches call) item =
        operation.perform env (within branches' call) item := by
      intro item
      cases operation <;> rfl
    simp only [Operation.prepare, load_congr htarget hown hbranches, hperform]
  | updateInventoryItem itemId' tenantId' params =>
    obtain ⟨rfl, rfl⟩ := Prod.mk.inj (Option.some.inj htarget)
    have hperform : UpdateInventoryItem.perform env (within branches call) store tenantId' params =
        UpdateInventoryItem.perform env (within branches' call) store' tenantId' params := by
      funext item
      simp only [UpdateInventoryItem.perform, newNameOf_congr hown]
      rfl
    simp only [Operation.prepare, loadItem_congr hown, hperform]
  | setGlobalMinimumStock params =>
    obtain ⟨rfl, rfl⟩ := Prod.mk.inj (Option.some.inj htarget)
    simp only [Operation.prepare, loadItem_congr hown]
    rfl
  | setBranchMinimumStock params =>
    obtain ⟨rfl, rfl⟩ := Prod.mk.inj (Option.some.inj htarget)
    have hexists : ∀ branchId,
        (within branches call).branchExistsInTenant branchId params.tenantId =
          (within branches' call).branchExistsInTenant branchId params.tenantId := fun _ =>
      within_congr hbranches
    have hperform : SetBranchMinimumStock.perform env (within branches call) params =
        SetBranchMinimumStock.perform env (within branches' call) params := by
      funext item
      simp only [SetBranchMinimumStock.perform, hexists]
      rfl
    simp only [Operation.prepare, loadItem_congr hown, hperform]

end Congr

/-- The item to save has the identity of the one that was loaded. -/
structure SameIdentity (loaded item : InventoryItem) : Prop where
  id : item.id = loaded.id
  tenantId : item.tenantId = loaded.tenantId
  sku : item.sku = loaded.sku

theorem sameIdentity_update {name : Option InventoryItemName}
    {unitOfMeasure : Option MeasurementUnit} {isPerishable : Option Bool} {now : Instant} :
    SameIdentity loaded (loaded.update name unitOfMeasure isPerishable now).2 := by
  unfold InventoryItem.update
  simp only
  split_ifs <;> exact ⟨rfl, rfl, rfl⟩

/-- The item that an operation prepares is the one that it loaded, of its business. -/
theorem sameIdentity_of_prepare
    (htarget : Sequential.target operation = some (itemId, tenantId))
    (h : (operation.prepare env call store).1 = .ok item) :
    ∃ loaded scope, findById store itemId tenantId scope = some loaded ∧
      SameIdentity loaded item := by
  cases operation with
  | createInventoryItem params => cases htarget
  | stock operation =>
    obtain ⟨loaded, hload, hperform⟩ := bind_eq_ok.mp h
    obtain ⟨itemId', tenantId', htarget', hfind⟩ := Sequential.findById_target hload
    obtain ⟨rfl, rfl⟩ := Prod.mk.inj (Option.some.inj (htarget'.symm.trans htarget))
    have honly := StockOperation.stockOnly_of_perform hperform
    unfold InventoryItem.StockOnly at honly
    refine ⟨loaded, _, hfind, ?_⟩
    rw [honly]
    exact ⟨rfl, rfl, rfl⟩
  | updateInventoryItem itemId' tenantId' params =>
    obtain ⟨rfl, rfl⟩ := Prod.mk.inj (Option.some.inj htarget)
    obtain ⟨loaded, hload, hperform⟩ := bind_eq_ok.mp h
    obtain ⟨name, -, hperform⟩ := bind_eq_ok.mp hperform
    obtain ⟨cost, -, hperform⟩ := bind_eq_ok.mp hperform
    obtain ⟨unitOfMeasure, -, hperform⟩ := bind_eq_ok.mp hperform
    have hsame := @sameIdentity_update loaded name unitOfMeasure params.isPerishable call.now
    rw [settle_eq_ok hperform] at hsame
    exact ⟨loaded, none, loadItem_eq_ok hload, hsame⟩
  | setGlobalMinimumStock params =>
    obtain ⟨rfl, rfl⟩ := Prod.mk.inj (Option.some.inj htarget)
    obtain ⟨loaded, hload, hperform⟩ := bind_eq_ok.mp h
    obtain ⟨minStock, -, hperform⟩ := bind_eq_ok.mp hperform
    obtain rfl := Except.ok.inj hperform
    exact ⟨loaded, none, loadItem_eq_ok hload, rfl, rfl, rfl⟩
  | setBranchMinimumStock params =>
    obtain ⟨rfl, rfl⟩ := Prod.mk.inj (Option.some.inj htarget)
    obtain ⟨loaded, hload, hperform⟩ := bind_eq_ok.mp h
    unfold SetBranchMinimumStock.perform at hperform
    split at hperform
    · cases hperform
    obtain ⟨entries, -, hperform⟩ := bind_eq_ok.mp hperform
    have honly : Sequential.OverridesOnly loaded _ :=
      Sequential.overridesOnly_foldl call.now call.configId entries
    unfold Sequential.OverridesOnly at honly
    refine ⟨loaded, none, loadItem_eq_ok hload, ?_⟩
    rw [InventoryItem.setMinimumsForBranches_ok (settle_eq_ok hperform), honly]
    exact ⟨rfl, rfl, rfl⟩

/-! ## Saving -/

/-- What is known of the item that an operation is about to save: it is a stored
    one of the business, and no row of another item has the id of one of its
    batches or overrides. -/
structure OwnItem (store : InventoryStore) (tenantId : Uuid) (item : InventoryItem) : Prop where
  stored : ∃ row ∈ store.items, row.id = item.id ∧ row.tenantId = tenantId ∧ row.sku = item.sku
  tenantId : item.tenantId = tenantId
  batches : ∀ batch ∈ item.batches, ∀ row ∈ store.batches, row.id = batch.id →
    row.inventoryItemId = item.id
  configs : ∀ config ∈ item.branchConfigs, ∀ row ∈ store.branchConfigs, row.id = config.id →
    row.inventoryItemId = item.id
  configIds : (item.branchConfigs.map (·.id)).Nodup
  branches : (item.branchConfigs.map (·.branchId)).Nodup

/-- An operation on an item leaves the tables alone before it saves. -/
theorem prepare_snd (htarget : Sequential.target operation = some (itemId, tenantId)) :
    (operation.prepare env call store).2 = store := by
  cases operation with
  | createInventoryItem params => cases htarget
  | _ => rfl

/-- The stored batch with the id of one to save is a batch of the item. -/
theorem batch_own (hvalid : Valid store) (hfresh : Sequential.fresh call store = true)
    {batch : InventoryBatch} (horigin : Sequential.Origin store call item batch)
    {row : InventoryBatchRow} (hrow : row ∈ store.batches) (hid : row.id = batch.id) :
    row.inventoryItemId = item.id := by
  cases horigin with
  | @stored stored n hstored hitem hleft =>
    have hsame : row = stored := List.inj_on_of_nodup_map hvalid.batches hrow hstored hid
    rw [hsame, hitem]
  | received hnew _ =>
    unfold Sequential.fresh at hfresh
    simp only [Bool.and_eq_true, decide_eq_true_eq] at hfresh
    exact absurd (List.mem_map.mpr ⟨row, hrow, hid.trans hnew⟩) hfresh.2

/-- The ids that an operation on an item generates belong to no stored row: that
    of a received batch, and those of the overrides, which differ by branch. -/
def newIds (call : Call) (store : InventoryStore) (operation : Operation) : Bool :=
  (match operation with
    | .stock (.receiveStock _) => decide (call.batchId ∉ store.batches.map (·.id))
    | _ => true) &&
  operation.branches.all fun branchId =>
    (store.branchConfigs.all fun row => row.id ≠ call.configId branchId) &&
      operation.branches.all fun other =>
        call.configId other ≠ call.configId branchId || other = branchId

theorem exists_unused (ids : List Uuid) : ∃ id : Uuid, id ∉ ids := by
  obtain ⟨id, hid⟩ := Infinite.exists_notMem_finset ids.toFinset
  exact ⟨id, by simpa using hid⟩

/-- An id that the operation does not generate may be taken to be new as well. -/
theorem exists_fresh (htarget : Sequential.target operation = some (itemId, tenantId))
    (hnew : newIds call store operation = true) :
    ∃ call', Sequential.fresh call' store = true ∧ operation.fresh call' store = true ∧
      operation.prepare env call' store = operation.prepare env call store := by
  obtain ⟨id, hid⟩ := exists_unused
    (store.items.map (·.id) ++ store.branchConfigs.map (·.inventoryItemId))
  obtain ⟨batchId, hbatchId⟩ := exists_unused (store.batches.map (·.id))
  rw [List.mem_append, not_or] at hid
  have howners : (store.branchConfigs.all fun row => row.inventoryItemId ≠ id) = true := by
    rw [List.all_eq_true]
    intro row hrow
    exact decide_eq_true fun he => hid.2 (List.mem_map.mpr ⟨row, hrow, he⟩)
  obtain ⟨hbatch, hconfigs⟩ := Bool.and_eq_true_iff.mp hnew
  have hfresh : operation.fresh { call with itemId := id } store = true :=
    Bool.and_eq_true_iff.mpr ⟨howners, hconfigs⟩
  have hdrawn : Sequential.fresh { call with itemId := id, batchId := batchId } store = true :=
    Bool.and_eq_true_iff.mpr ⟨decide_eq_true hid.1, decide_eq_true hbatchId⟩
  cases operation with
  | createInventoryItem params => cases htarget
  | stock operation =>
    cases operation with
    | receiveStock params =>
      exact ⟨{ call with itemId := id },
        Bool.and_eq_true_iff.mpr ⟨decide_eq_true hid.1, hbatch⟩, hfresh, rfl⟩
    | _ => exact ⟨{ call with itemId := id, batchId := batchId }, hdrawn, hfresh, rfl⟩
  | _ => exact ⟨{ call with itemId := id, batchId := batchId }, hdrawn, hfresh, rfl⟩

theorem ownItem_of_prepare (hvalid : Valid store) (hnew : newIds call store operation = true)
    (htarget : Sequential.target operation = some (itemId, tenantId))
    (h : (operation.prepare env call store).1 = .ok item) : OwnItem store tenantId item := by
  obtain ⟨loaded, scope, hfind, hsame⟩ := sameIdentity_of_prepare htarget h
  obtain ⟨row, hrow, hid, htenant, rfl⟩ := findById_eq_some hfind
  obtain ⟨call', hfresh, hconfigs, hprepare⟩ : ∃ call', Sequential.fresh call' store = true ∧
      operation.fresh call' store = true ∧
        operation.prepare env call' store = operation.prepare env call store :=
    exists_fresh htarget hnew
  rw [← hprepare] at h
  obtain ⟨-, hprepared, -⟩ := prepared_of_prepare hvalid.configs hvalid.keys hconfigs
    (Prod.ext h (prepare_snd htarget))
  obtain ⟨-, horigin⟩ := (Sequential.saves_of_prepare h).origin hvalid.toSound hfresh
  refine ⟨⟨row, hrow, hsame.id.symm, htenant, hsame.sku.symm⟩, hsame.tenantId.trans htenant,
    ?_, hprepared.own, hprepared.ids, hprepared.branches⟩
  intro batch hbatch stored hstored hsameId
  exact batch_own hvalid hfresh (horigin batch hbatch) hstored hsameId

/-- The item keeps its SKU, and the overrides to save are of different branches. -/
theorem meetsConstraints_written (hvalid : Valid store) (h : OwnItem store tenantId item) :
    (written store item).meetsConstraints = true := by
  obtain ⟨old, hold, hid, -, hsku⟩ := h.stored
  have hskus : (written store item).items.map (·.sku) = store.items.map (·.sku) :=
    Rows.map_upsert hvalid.items hold hid hsku.symm
  have hrows : (written store item).branchConfigs.Nodup :=
    List.Nodup.of_map (·.id) (Rows.nodup_keys_upsertAll
      (hvalid.configs.sublist (List.filter_sublist.map _)))
  have hkeys : ((written store item).branchConfigs.map configKey).Nodup := by
    refine hrows.map_on fun row hrow row' hrow' hkey => ?_
    obtain ⟨hitem, hbranch⟩ := Prod.mk.inj hkey
    rw [mem_written_branchConfigs h.configIds hvalid.configs h.configs] at hrow hrow'
    rcases hrow with ⟨config, hconfig, rfl⟩ | ⟨hstored, hother⟩
    · rcases hrow' with ⟨config', hconfig', rfl⟩ | ⟨-, hother'⟩
      · rw [List.inj_on_of_nodup_map h.branches hconfig hconfig' hbranch]
      · exact absurd hitem.symm hother'
    · rcases hrow' with ⟨config', -, rfl⟩ | ⟨hstored', -⟩
      · exact absurd hitem hother
      · exact List.inj_on_of_nodup_map hvalid.keys hstored hstored' hkey
  unfold InventoryStore.meetsConstraints
  rw [hskus, Bool.and_eq_true, decide_eq_true_iff, decide_eq_true_iff]
  exact ⟨hvalid.skus, hkeys⟩

theorem Valid.written (h : Valid store) (haccepts : accepts store item = true) :
    Valid (written store item) where
  toSound := h.toSound.written haccepts
  configs := Rows.nodup_keys_upsertAll (h.configs.sublist (List.filter_sublist.map _))
  configsOwned row hrow := by
    have hkeys : ∀ id, id ∈ (InventoryItemRepository.written store item).items.map (·.id) ↔
        id = item.id ∨ id ∈ store.items.map (·.id) := fun id => Rows.mem_keys_upsert
    rw [hkeys]
    rcases Rows.mem_upsertAll hrow with hnew | hkept
    · obtain ⟨config, -, rfl⟩ := List.mem_map.mp hnew
      exact .inl rfl
    · exact .inr (h.configsOwned row (List.mem_filter.mp hkept).1)
  constraints := by
    unfold accepts at haccepts
    exact (Bool.and_eq_true_iff.mp haccepts).2

section Foreign

variable {ids : List Uuid}

/-- A save of an own item leaves the items of the other businesses. -/
theorem foreign_items_written (hvalid : Valid store) (h : OwnItem store tenantId item) :
    (written store item).items.filter (fun row => decide (row.tenantId ≠ tenantId)) =
      store.items.filter fun row => decide (row.tenantId ≠ tenantId) := by
  obtain ⟨old, hold, hid, htenant, -⟩ := h.stored
  apply Rows.filter_upsert_of_neg
  · exact decide_eq_false fun hne => hne h.tenantId
  · intro row hrow hrowId
    have hsame : row = old :=
      List.inj_on_of_nodup_map hvalid.items hrow hold (hrowId.trans hid.symm)
    exact decide_eq_false fun hne => hne (hsame ▸ htenant)

/-- The id of an own item is that of no item of another business. -/
theorem id_not_foreign (hvalid : Valid store) (h : OwnItem store tenantId item) :
    item.id ∉ (store.items.filter fun row => decide (row.tenantId ≠ tenantId)).map (·.id) := by
  intro hmem
  obtain ⟨old, hold, hid, htenant, -⟩ := h.stored
  obtain ⟨row, hrow, hrowId⟩ := List.mem_map.mp hmem
  obtain ⟨hstored, hother⟩ := List.mem_filter.mp hrow
  have hsame : row = old :=
    List.inj_on_of_nodup_map hvalid.items hstored hold (hrowId.trans hid.symm)
  exact of_decide_eq_true hother (hsame ▸ htenant)

/-- It leaves the batches of other items. -/
theorem batches_written_of_other (h : OwnItem store tenantId item) (hother : item.id ∉ ids) :
    (written store item).batches.filter (fun row => row.inventoryItemId ∈ ids) =
      store.batches.filter fun row => row.inventoryItemId ∈ ids := by
  apply Rows.filter_upsertAll_of_neg
  · intro row hrow
    obtain ⟨batch, -, rfl⟩ := List.mem_map.mp hrow
    exact decide_eq_false hother
  · intro row hrow stored hstored hrowId
    obtain ⟨batch, hbatch, rfl⟩ := List.mem_map.mp hrow
    rw [h.batches batch hbatch stored hstored hrowId]
    exact decide_eq_false hother

/-- It leaves the overrides of other items, which it neither writes nor deletes. -/
theorem branchConfigs_written_of_other (h : OwnItem store tenantId item)
    (hother : item.id ∉ ids) :
    (written store item).branchConfigs.filter (fun row => row.inventoryItemId ∈ ids) =
      store.branchConfigs.filter fun row => row.inventoryItemId ∈ ids := by
  have hkept : (store.branchConfigs.filter fun row => row.inventoryItemId ≠ item.id ∨
        row.id ∈ (item.branchConfigs.map (·.toRow item.id)).map (·.id)).filter
          (fun row => row.inventoryItemId ∈ ids) =
      store.branchConfigs.filter fun row => row.inventoryItemId ∈ ids := by
    rw [List.filter_filter]
    apply List.filter_congr
    intro row _
    by_cases hmem : row.inventoryItemId ∈ ids
    · have hne : row.inventoryItemId ≠ item.id := fun he => hother (he ▸ hmem)
      simp [hmem, hne]
    · simp [hmem]
  rw [← hkept]
  apply Rows.filter_upsertAll_of_neg
  · intro row hrow
    obtain ⟨config, -, rfl⟩ := List.mem_map.mp hrow
    exact decide_eq_false hother
  · intro row hrow stored hstored hrowId
    obtain ⟨config, hconfig, rfl⟩ := List.mem_map.mp hrow
    rw [h.configs config hconfig stored (List.mem_filter.mp hstored).1 hrowId]
    exact decide_eq_false hother

/-- A save of an own item leaves the rows of the other businesses as they were. -/
theorem foreign_written (hvalid : Valid store) (h : OwnItem store tenantId item) :
    foreign tenantId (written store item) = foreign tenantId store := by
  have hother := id_not_foreign hvalid h
  unfold foreign rowsOf
  simp only [foreign_items_written hvalid h, batches_written_of_other h hother,
    branchConfigs_written_of_other h hother]

end Foreign

/-! ## One operation -/

/-- What comes out of the item that was prepared: its events, where the columns
    take its rows. -/
def outcomeOf (prepared : Except InventoryException InventoryItem) :
    Except Failure (List DomainEvent) :=
  match prepared with
  | .error e => .error (.domain e)
  | .ok item =>
    if item.toRow.fitsColumns &&
        (item.batches.map (·.toRow item.id)).all InventoryBatchRow.fitsColumns &&
        (item.branchConfigs.map (·.toRow item.id)).all InventoryBranchConfigRow.fitsColumns then
      .ok item.domainEvents
    else .error .database

/-- An operation that leaves the tables as they are, or saves an own item. -/
inductive Written (store : InventoryStore) (tenantId : Uuid) : InventoryStore → Prop
  | unchanged : Written store tenantId store
  | saved {item : InventoryItem} : OwnItem store tenantId item → accepts store item = true →
      Written store tenantId (written store item)

/-- What an operation on an item comes to: nothing but the item that it prepared
    decides how it ends. -/
theorem execute_spec (hvalid : Valid store) (hnew : newIds call store operation = true)
    (htarget : Sequential.target operation = some (itemId, tenantId)) :
    (operation.execute env call store).1 = outcomeOf (operation.prepare env call store).1 ∧
      Written store tenantId (operation.execute env call store).2 := by
  have hsnd : (operation.prepare env call store).2 = store := prepare_snd htarget
  have hitem : ∀ item, (operation.prepare env call store).1 = .ok item →
      OwnItem store tenantId item := fun item => ownItem_of_prepare hvalid hnew htarget
  unfold Operation.execute
  cases hprepare : operation.prepare env call store with
  | mk result base =>
    rw [hprepare] at hsnd hitem
    obtain rfl : base = store := hsnd
    cases result with
    | error e => exact ⟨rfl, .unchanged⟩
    | ok item =>
      have hown := hitem item rfl
      simp only [Operation.commit, save, outcomeOf]
      by_cases haccepts : accepts base item = true
      · rw [if_pos haccepts]
        have hcolumns := haccepts
        rw [accepts, meetsConstraints_written hvalid hown, Bool.and_true] at hcolumns
        rw [if_pos hcolumns]
        exact ⟨rfl, .saved hown haccepts⟩
      · rw [if_neg haccepts]
        have hcolumns := haccepts
        rw [accepts, meetsConstraints_written hvalid hown, Bool.and_true] at hcolumns
        rw [if_neg hcolumns]
        exact ⟨rfl, .unchanged⟩

theorem foreign_of_written (hvalid : Valid store) (h : Written store tenantId store') :
    foreign tenantId store' = foreign tenantId store := by
  cases h with
  | unchanged => rfl
  | saved hown _ => exact foreign_written hvalid hown

/-- The constraints of the database hold after every operation. -/
theorem Valid.execute (h : Valid store) : Valid (operation.execute env call store).2 := by
  have hsame : Sequential.SameTables store (operation.prepare env call store).2 :=
    Sequential.sameTables_of_prepare
  have hbase : Valid (operation.prepare env call store).2 := by
    refine ⟨h.toSound.of_sameTables hsame, hsame.branchConfigs ▸ h.configs, ?_, ?_⟩
    · rw [hsame.branchConfigs, hsame.items]
      exact h.configsOwned
    · unfold InventoryStore.meetsConstraints
      rw [hsame.branchConfigs, hsame.items]
      exact h.constraints
  unfold Operation.execute
  cases hprepare : operation.prepare env call store with
  | mk result base =>
    rw [hprepare] at hbase
    cases result with
    | error e => exact hbase
    | ok item =>
      simp only [Operation.commit]
      cases hsave : save base item with
      | none => exact hbase
      | some saved =>
        obtain ⟨haccepts, rfl⟩ := save_eq_some.mp hsave
        exact hbase.written haccepts

end KomiSaas.Inventory.Isolation
