import KomiSaas.Inventory.Overrides
import KomiSaas.Lib.Run

/-!
# Sequential runs of the inventory

One operation at a time, from its start to its end. `Saves` says what an
operation holds when it saves: a new item, a loaded item that a stock operation
worked on, or a loaded item with the same batches, whose unit and perishability
changed only if it was loaded without batches.

* `effect_of_next`: a step changes no table, or saves such an item.
* `Sound`: distinct ids, batches of stored items, values that fit their columns.
-/

namespace KomiSaas.Inventory.Sequential

open KomiSaas.Lib KomiSaas.Shared InventoryItemRepository

/-- One operation with what it finds around it. -/
structure Action where
  call : Call
  operation : Operation

/-- The ids that a call would give to an item or a batch belong to none. -/
def fresh (call : Call) (store : InventoryStore) : Bool :=
  call.itemId ∉ store.items.map (·.id) && call.batchId ∉ store.batches.map (·.id)

/-- One step; `none` where a generated id is not new. -/
def next (env : InventoryEnv) (store : InventoryStore) (a : Action) : Option InventoryStore :=
  if fresh a.call store then some (a.operation.execute env a.call store).2 else none

/-- The operation ends without an exception. -/
def succeeds (env : InventoryEnv) (store : InventoryStore) (a : Action) : Bool :=
  (a.operation.execute env a.call store).1.isOk

/-- No item yet. -/
def emptyStore : InventoryStore := ⟨[], [], [], 1⟩

/-! ## What an operation saves -/

/-- Only the overrides and the time of the last change may differ. -/
def OverridesOnly (item item' : InventoryItem) : Prop :=
  item' = { item with branchConfigs := item'.branchConfigs, updatedAt := item'.updatedAt }

/-- The item that an operation loads, and the business it does it for. -/
def target : Operation → Option (Uuid × Uuid)
  | .stock (.receiveStock params) => some (params.itemId, params.tenantId)
  | .stock (.consumeStock params) => some (params.itemId, params.tenantId)
  | .stock (.registerWaste params) => some (params.itemId, params.tenantId)
  | .stock (.countStock params) => some (params.itemId, params.tenantId)
  | .createInventoryItem _ => none
  | .updateInventoryItem itemId tenantId _ => some (itemId, tenantId)
  | .setGlobalMinimumStock params => some (params.itemId, params.tenantId)
  | .setBranchMinimumStock params => some (params.itemId, params.tenantId)

/-- The unit of measure and the perishability of an item, and what an operation
    wants them to be. -/
def asked (operation : Operation) (kind : MeasurementUnit × Bool) : MeasurementUnit × Bool :=
  match operation with
  | .updateInventoryItem _ _ params =>
    ((params.unitOfMeasure.bind fun raw => (InventoryItemUnit.create raw).toOption).getD kind.1,
      params.isPerishable.getD kind.2)
  | _ => kind

/-- What an operation may do to an item that it loaded whole and whose stock it
    leaves alone: the unit and the perishability change only without batches. -/
structure Edited (loaded item : InventoryItem) : Prop where
  id : item.id = loaded.id
  tenantId : item.tenantId = loaded.tenantId
  batches : item.batches = loaded.batches
  retyped : loaded.batches = [] ∨
    item.unitOfMeasure = loaded.unitOfMeasure ∧ item.isPerishable = loaded.isPerishable

/-- The item that an operation saves, from what it loaded. -/
inductive Saves (env : InventoryEnv) (call : Call) (store : InventoryStore) :
    Operation → InventoryItem → Prop
  | created {params : CreateInventoryItemParams} {item : InventoryItem} :
      item.id = call.itemId → item.batches = [] →
      Saves env call store (.createInventoryItem params) item
  | worked {operation : StockOperation} {loaded item : InventoryItem} :
      operation.load call store = .ok loaded → operation.perform env call loaded = .ok item →
      Saves env call store (.stock operation) item
  | edited {operation : Operation} {itemId tenantId : Uuid} {loaded item : InventoryItem} :
      (∀ stockOperation, operation ≠ .stock stockOperation) →
      target operation = some (itemId, tenantId) →
      findById store itemId tenantId none = some loaded → Edited loaded item →
      (item.unitOfMeasure, item.isPerishable) =
        asked operation (loaded.unitOfMeasure, loaded.isPerishable) →
      Saves env call store operation item

variable {env : InventoryEnv} {call : Call} {store store' : InventoryStore} {operation : Operation}
  {loaded item item' : InventoryItem} {now : Instant}

theorem OverridesOnly.edited (h : OverridesOnly loaded item) :
    Edited loaded item ∧ (item.unitOfMeasure, item.isPerishable) =
      (loaded.unitOfMeasure, loaded.isPerishable) := by
  unfold OverridesOnly at h
  rw [h]
  exact ⟨⟨rfl, rfl, rfl, .inr ⟨rfl, rfl⟩⟩, rfl⟩

theorem overridesOnly_foldl (now : Instant) (configId : Uuid → Uuid)
    (entries : List (Uuid × Option Quantity)) :
    OverridesOnly item
      (entries.foldl
        (fun item entry => item.setMinimumForBranch (configId entry.1) entry.1 entry.2 now)
        item) := by
  induction entries generalizing item with
  | nil => rfl
  | cons entry entries ih =>
    have hfirst : OverridesOnly item
        (item.setMinimumForBranch (configId entry.1) entry.1 entry.2 now) := by
      cases entry.2 <;> rfl
    have hrest : OverridesOnly
        (item.setMinimumForBranch (configId entry.1) entry.1 entry.2 now) _ := ih
    unfold OverridesOnly at hfirst hrest ⊢
    rw [List.foldl_cons, hrest, hfirst]

/-- `update` refuses another unit or perishability on an item loaded with batches. -/
theorem edited_update {name : Option InventoryItemName} {unitOfMeasure : Option MeasurementUnit}
    {isPerishable : Option Bool}
    (h : loaded.update name unitOfMeasure isPerishable now = (.ok (), item)) :
    Edited loaded item ∧ item.unitOfMeasure = unitOfMeasure.getD loaded.unitOfMeasure ∧
      item.isPerishable = isPerishable.getD loaded.isPerishable := by
  unfold InventoryItem.update at h
  simp only at h
  split_ifs at h with hempty hunit hperishable
  · cases (Prod.mk.inj h).1
  · cases (Prod.mk.inj h).1
  · cases (Prod.mk.inj h).1
  rw [← (Prod.mk.inj h).2]
  refine ⟨⟨rfl, rfl, rfl, ?_⟩, rfl, rfl⟩
  by_cases hbatches : loaded.batches = []
  · exact .inl hbatches
  · have hlength : 0 < loaded.batches.length := List.length_pos_iff.mpr hbatches
    simp only [hlength, decide_true, Bool.and_true, Bool.not_eq_true, Option.isSome_eq_false_iff,
      Option.isNone_iff_eq_none] at hunit hperishable
    right
    rw [hunit, hperishable]
    exact ⟨rfl, rfl⟩

/-- A stock operation loads the item it is about, of its business and branch. -/
theorem findById_target {stockOperation : StockOperation}
    (h : stockOperation.load call store = .ok loaded) :
    ∃ itemId tenantId, target (.stock stockOperation) = some (itemId, tenantId) ∧
      findById store itemId tenantId (Operation.stock stockOperation).scope = some loaded := by
  cases stockOperation with
  | receiveStock params =>
    have hload : ReceiveStock.load call store params = .ok loaded := h
    unfold ReceiveStock.load at hload
    split_ifs at hload
    exact ⟨_, _, rfl, loadItem_eq_ok hload⟩
  | consumeStock params => exact ⟨_, _, rfl, loadItem_eq_ok h⟩
  | registerWaste params => exact ⟨_, _, rfl, loadItem_eq_ok h⟩
  | countStock params => exact ⟨_, _, rfl, loadItem_eq_ok h⟩

/-- A field that was sent and converted. -/
theorem bind_of_ifSent {α : Type} {convert : JsString → Except InventoryException α}
    {raw : Option JsString} {value : Option α} (h : ifSent convert raw = .ok value) :
    raw.bind (fun raw => (convert raw).toOption) = value := by
  cases raw with
  | none => exact Except.ok.inj h
  | some raw =>
    simp only [ifSent] at h
    rw [Option.bind_some]
    cases hconvert : convert raw with
    | error e =>
      rw [hconvert] at h
      cases h
    | ok converted =>
      rw [hconvert] at h
      exact Except.ok.inj h

/-- The tables of two stores are the same; their sequences may differ. -/
structure SameTables (store store' : InventoryStore) : Prop where
  items : store'.items = store.items
  batches : store'.batches = store.batches
  branchConfigs : store'.branchConfigs = store.branchConfigs

theorem SameTables.written (h : SameTables store store') :
    SameTables (written store item) (written store' item) where
  items := by simp only [InventoryItemRepository.written, h.items]
  batches := by simp only [InventoryItemRepository.written, h.batches]
  branchConfigs := by simp only [InventoryItemRepository.written, h.branchConfigs]

theorem sameTables_of_prepare : SameTables store (operation.prepare env call store).2 := by
  cases operation with
  | createInventoryItem params =>
    show SameTables store (CreateInventoryItem.perform call store params).2
    unfold CreateInventoryItem.perform
    split_ifs
    · exact ⟨rfl, rfl, rfl⟩
    · split
      · exact ⟨rfl, rfl, rfl⟩
      · split_ifs <;> exact ⟨rfl, rfl, rfl⟩
  | _ => exact ⟨rfl, rfl, rfl⟩

theorem saves_of_create {params : CreateInventoryItemParams}
    (h : (CreateInventoryItem.perform call store params).1 = .ok item) :
    item.id = call.itemId ∧ item.batches = [] := by
  unfold CreateInventoryItem.perform at h
  split_ifs at h with htenant
  cases hcreate : InventoryItemName.create params.name with
  | error e =>
    rw [hcreate] at h
    cases h
  | ok name =>
    simp only [hcreate] at h
    split_ifs at h with hexists
    obtain ⟨unitOfMeasure, -, h⟩ := bind_eq_ok.mp h
    rw [← Except.ok.inj h]
    exact ⟨rfl, rfl⟩

/-- What each of the eight operations is about to save. -/
theorem saves_of_prepare (h : (operation.prepare env call store).1 = .ok item) :
    Saves env call store operation item := by
  cases operation with
  | stock operation =>
    obtain ⟨loaded, hload, hperform⟩ := bind_eq_ok.mp h
    exact .worked hload hperform
  | createInventoryItem params =>
    obtain ⟨hid, hbatches⟩ := saves_of_create h
    exact .created hid hbatches
  | updateInventoryItem itemId tenantId params =>
    obtain ⟨loaded, hload, hperform⟩ := bind_eq_ok.mp h
    obtain ⟨name, -, hperform⟩ := bind_eq_ok.mp hperform
    obtain ⟨cost, -, hperform⟩ := bind_eq_ok.mp hperform
    obtain ⟨unitOfMeasure, hunit, hperform⟩ := bind_eq_ok.mp hperform
    obtain ⟨hedited, hunitOfMeasure, hperishable⟩ := edited_update (settle_eq_ok hperform)
    refine .edited nofun rfl (loadItem_eq_ok hload) hedited ?_
    rw [hunitOfMeasure, hperishable, asked, bind_of_ifSent hunit]
  | setGlobalMinimumStock params =>
    obtain ⟨loaded, hload, hperform⟩ := bind_eq_ok.mp h
    obtain ⟨minStock, -, hperform⟩ := bind_eq_ok.mp hperform
    obtain rfl := Except.ok.inj hperform
    exact .edited nofun rfl (loadItem_eq_ok hload) ⟨rfl, rfl, rfl, .inr ⟨rfl, rfl⟩⟩ rfl
  | setBranchMinimumStock params =>
    obtain ⟨loaded, hload, hperform⟩ := bind_eq_ok.mp h
    unfold SetBranchMinimumStock.perform at hperform
    split at hperform
    · cases hperform
    obtain ⟨entries, -, hperform⟩ := bind_eq_ok.mp hperform
    have honly : OverridesOnly loaded _ := overridesOnly_foldl call.now call.configId entries
    obtain ⟨hedited, hkind⟩ := honly.edited
    rw [InventoryItem.setMinimumsForBranches_ok (settle_eq_ok hperform)]
    exact .edited nofun rfl (loadItem_eq_ok hload)
      ⟨hedited.id, hedited.tenantId, hedited.batches, hedited.retyped⟩ hkind

/-! ## What a stock operation does to the batches -/

/-- The date at which an operation takes stock. -/
def drawDate (env : InventoryEnv) (call : Call) : StockOperation → Option JsDate
  | .receiveStock _ => none
  | .consumeStock params =>
    some (((truthy params.consumedAt).map env.parseDate).getD (some call.now))
  | .registerWaste params =>
    some (((truthy params.occurredAt).map env.parseDate).getD (some call.now))
  | .countStock params =>
    some (((truthy params.occurredAt).map env.parseDate).getD (some call.now))

section Perform

variable {stockOperation : StockOperation} {date : JsDate}

theorem received_of_perform (hdate : drawDate env call stockOperation = none)
    (h : stockOperation.perform env call loaded = .ok item) :
    ∃ batch, batch.id = call.batchId ∧ batch.expirationDate.isSome = loaded.isPerishable ∧
      item.batches = loaded.batches ++ [batch] := by
  cases stockOperation with
  | receiveStock params =>
    obtain ⟨quantity, -, h⟩ := bind_eq_ok.mp h
    obtain ⟨totalCost, -, h⟩ := bind_eq_ok.mp h
    obtain ⟨unitCost, -, h⟩ := bind_eq_ok.mp h
    obtain ⟨expirationDate, -, h⟩ := bind_eq_ok.mp h
    obtain ⟨batch, hid, -, -, hdated, rfl⟩ := InventoryItem.recivedBatch_ok (settle_eq_ok h)
    exact ⟨batch, hid, hdated, rfl⟩
  | consumeStock params => cases hdate
  | registerWaste params => cases hdate
  | countStock params => cases hdate

theorem drawn_of_perform (hids : (loaded.batches.map (·.id)).Nodup) (hfit : Fits loaded.batches)
    (hdate : drawDate env call stockOperation = some date)
    (h : stockOperation.perform env call loaded = .ok item) :
    ∃ branchId details, InventoryItem.DrawnInOrder env.decimal loaded branchId date details ∧
      item.batches = drawAll env.decimal details loaded.batches := by
  cases stockOperation with
  | receiveStock params => cases hdate
  | consumeStock params =>
    obtain rfl := Option.some.inj hdate
    obtain ⟨quantity, -, h⟩ := bind_eq_ok.mp h
    obtain ⟨branchId, details, event, hdrawn, -, rfl⟩ :=
      InventoryItem.consume_ok hids hfit (settle_eq_ok h)
    exact ⟨branchId, details, hdrawn, rfl⟩
  | registerWaste params =>
    obtain rfl := Option.some.inj hdate
    obtain ⟨quantity, -, h⟩ := bind_eq_ok.mp h
    obtain ⟨details, event, hdrawn, -, rfl⟩ :=
      InventoryItem.registerWaste_ok hids hfit (settle_eq_ok h)
    exact ⟨params.branchId, details, hdrawn, rfl⟩
  | countStock params =>
    obtain rfl := Option.some.inj hdate
    obtain ⟨actualTotal, -, h⟩ := bind_eq_ok.mp h
    obtain ⟨details, event, hdrawn, -, rfl⟩ :=
      InventoryItem.countStock_ok hids hfit (settle_eq_ok h)
    exact ⟨params.branchId, details, hdrawn, rfl⟩

end Perform

/-! ## Steps -/

/-- Everything a step can do. -/
inductive Effect (env : InventoryEnv) (store : InventoryStore) (a : Action) :
    InventoryStore → Prop
  | refused {store' : InventoryStore} : SameTables store store' → succeeds env store a = false →
      Effect env store a store'
  | saved {base : InventoryStore} {item : InventoryItem} : SameTables store base →
      Saves env a.call store a.operation item → accepts base item = true →
      succeeds env store a = true → Effect env store a (written base item)

theorem effect_of_next {a : Action} (h : next env store a = some store') :
    fresh a.call store = true ∧ Effect env store a store' := by
  unfold next at h
  split_ifs at h with hfresh
  refine ⟨hfresh, ?_⟩
  have htables : SameTables store (a.operation.prepare env a.call store).2 := sameTables_of_prepare
  have hsaves : ∀ item, (a.operation.prepare env a.call store).1 = .ok item →
      Saves env a.call store a.operation item := fun item => saves_of_prepare
  obtain rfl := Option.some.inj h
  have hsucceeds : succeeds env store a = (a.operation.execute env a.call store).1.isOk := rfl
  unfold Operation.execute at hsucceeds ⊢
  cases hprepare : a.operation.prepare env a.call store with
  | mk result base =>
    rw [hprepare] at htables hsaves
    cases result with
    | error e =>
      simp only [hprepare] at hsucceeds
      exact .refused htables hsucceeds
    | ok item =>
      simp only [hprepare] at hsucceeds
      simp only [Operation.commit] at hsucceeds ⊢
      cases hsave : save base item with
      | none =>
        simp only [hsave] at hsucceeds
        exact .refused htables hsucceeds
      | some store' =>
        simp only [hsave] at hsucceeds
        obtain ⟨haccepts, rfl⟩ := save_eq_some.mp hsave
        exact .saved htables (hsaves item rfl) haccepts hsucceeds

/-- What was prepared and is accepted is saved. -/
theorem execute_of_prepare {base : InventoryStore}
    (hprepare : operation.prepare env call store = (.ok item, base))
    (haccepts : accepts base item = true) :
    operation.execute env call store = (.ok item.domainEvents, written base item) := by
  have hsave : save base item = some (written base item) := if_pos haccepts
  rw [Operation.execute, hprepare]
  simp only [Operation.commit, hsave]

/-! ## What every run keeps -/

/-- Distinct ids, batches of stored items only, and values that fit their columns. -/
structure Sound (store : InventoryStore) : Prop where
  items : (store.items.map (·.id)).Nodup
  batches : (store.batches.map (·.id)).Nodup
  owned : ∀ row ∈ store.batches, row.inventoryItemId ∈ store.items.map (·.id)
  fits : ∀ row ∈ store.batches, row.fitsColumns = true

theorem emptyStore_sound : Sound emptyStore where
  items := List.nodup_nil
  batches := List.nodup_nil
  owned := by simp [emptyStore]
  fits := by simp [emptyStore]

theorem Sound.of_sameTables (h : Sound store) (hsame : SameTables store store') : Sound store' where
  items := hsame.items ▸ h.items
  batches := hsame.batches ▸ h.batches
  owned := by rw [hsame.batches, hsame.items]; exact h.owned
  fits := hsame.batches ▸ h.fits

section Loaded

variable {itemId tenantId : Uuid} {scope : Option Uuid}

/-- The quantities of a loaded item stay exact. -/
theorem Sound.fits_loaded (h : Sound store)
    (hfind : findById store itemId tenantId scope = some loaded) : Fits loaded.batches := by
  intro batch hbatch
  obtain ⟨row, hrow, -, rfl⟩ := mem_batches_of_findById hfind hbatch
  exact fits_of_fitsColumns (h.fits row hrow)

end Loaded

/-- A batch that is about to be saved: a stored one of the item, with less left,
    or the new one. -/
inductive Origin (store : InventoryStore) (call : Call) (item : InventoryItem) :
    InventoryBatch → Prop
  | stored {row : InventoryBatchRow} {n : ℕ} : row ∈ store.batches → row.inventoryItemId = item.id →
      0 < row.quantityRemaining.milli → Origin store call item (row.toBatch.less n)
  | received {batch : InventoryBatch} : batch.id = call.batchId →
      batch.expirationDate.isSome = item.isPerishable → Origin store call item batch

/-- The batches of a loaded item are stored, with something left. -/
theorem origin_of_loaded {itemId tenantId : Uuid} {scope : Option Uuid} {batch : InventoryBatch}
    (n : ℕ) (hfind : findById store itemId tenantId scope = some loaded)
    (hid : item.id = loaded.id) (hbatch : batch ∈ loaded.batches) :
    Origin store call item (batch.less n) := by
  obtain ⟨row, -, hrowId, -, rfl⟩ := findById_eq_some hfind
  obtain ⟨batchRow, hmem, rfl⟩ := List.mem_map.mp hbatch
  obtain ⟨hstored, hcond⟩ := List.mem_filter.mp hmem
  simp only [Bool.and_eq_true, decide_eq_true_eq] at hcond
  exact .stored hstored (hcond.1.1.trans (hid.trans hrowId).symm) hcond.1.2

/-- A new batch has another id than those loaded. -/
theorem fresh_loaded {itemId tenantId : Uuid} {scope : Option Uuid}
    (hfresh : fresh call store = true)
    (hfind : findById store itemId tenantId scope = some loaded) :
    call.batchId ∉ loaded.batches.map (·.id) := by
  intro hmem
  obtain ⟨batch, hbatch, he⟩ := List.mem_map.mp hmem
  obtain ⟨row, hrow, -, rfl⟩ := mem_batches_of_findById hfind hbatch
  unfold fresh at hfresh
  simp only [Bool.and_eq_true, decide_eq_true_eq] at hfresh
  exact hfresh.2 (List.mem_map.mpr ⟨row, hrow, he⟩)

/-- Where the batches to save come from; their ids are distinct. -/
theorem Saves.origin (h : Saves env call store operation item) (hsound : Sound store)
    (hfresh : fresh call store = true) :
    (item.batches.map (·.id)).Nodup ∧ ∀ batch ∈ item.batches, Origin store call item batch := by
  cases h with
  | created hid hbatches => simp [hbatches]
  | edited _ _ hfind hedited _ =>
    rw [hedited.batches]
    exact ⟨nodup_batches_of_findById hfind hsound.batches, fun batch hbatch =>
      origin_of_loaded 0 hfind hedited.id hbatch⟩
  | @worked stockOperation loaded item hload hperform =>
    obtain ⟨itemId, tenantId, scope, hfind⟩ := StockOperation.findById_of_load hload
    have hids := nodup_batches_of_findById hfind hsound.batches
    have honly := StockOperation.stockOnly_of_perform hperform
    have hid : item.id = loaded.id := honly.sameOverrides.1
    have hperishable : item.isPerishable = loaded.isPerishable := by
      unfold InventoryItem.StockOnly at honly
      rw [honly]
    cases hdate : drawDate env call stockOperation with
    | none =>
      obtain ⟨received, hnew, hdated, hbatches⟩ := received_of_perform hdate hperform
      rw [hbatches]
      refine ⟨?_, fun batch hbatch => ?_⟩
      · rw [List.map_append, List.map_singleton, List.nodup_append_comm, List.singleton_append,
          List.nodup_cons, hnew]
        exact ⟨fresh_loaded hfresh hfind, hids⟩
      · rcases List.mem_append.mp hbatch with hold | hbatch
        · exact origin_of_loaded 0 hfind hid hold
        · obtain rfl := List.mem_singleton.mp hbatch
          exact .received hnew (hdated.trans hperishable.symm)
    | some date =>
      obtain ⟨branchId, details, -, hbatches⟩ :=
        drawn_of_perform hids (hsound.fits_loaded hfind) hdate hperform
      rw [hbatches, map_id_drawAll]
      refine ⟨hids, fun batch hbatch => ?_⟩
      obtain ⟨b, hb, rfl⟩ := List.mem_map.mp hbatch
      exact origin_of_loaded _ hfind hid hb

/-- An item with a batch that has something left keeps its unit and its
    perishability, whatever is saved. -/
theorem Saves.sameKind (h : Saves env call store operation item) (hsound : Sound store)
    (hfresh : fresh call store = true) {batch : InventoryBatchRow} (hbatch : batch ∈ store.batches)
    (hown : batch.inventoryItemId = item.id) (hleft : 0 < batch.quantityRemaining.milli) :
    ∃ row ∈ store.items, row.id = item.id ∧ row.unitOfMeasure = item.unitOfMeasure ∧
      row.isPerishable = item.isPerishable := by
  cases h with
  | created hid _ =>
    have howner := hsound.owned batch hbatch
    rw [hown, hid] at howner
    unfold fresh at hfresh
    simp only [Bool.and_eq_true, decide_eq_true_eq] at hfresh
    exact absurd howner hfresh.1
  | edited _ _ hfind hedited _ =>
    obtain ⟨row, hrow, hrowId, -, rfl⟩ := findById_eq_some hfind
    have hloaded : batch.toBatch ∈ (activeBatchesOf store row.id none).map (·.toBatch) := by
      refine List.mem_map_of_mem (List.mem_filter.mpr ⟨hbatch, ?_⟩)
      have hitem : batch.inventoryItemId = row.id := hown.trans hedited.id
      simp [hitem, hleft]
    rw [hrowId] at hloaded
    rcases hedited.retyped with hnone | ⟨hunit, hperishable⟩
    · have hnone : (activeBatchesOf store _ none).map (·.toBatch) = [] := hnone
      rw [hnone] at hloaded
      exact absurd hloaded List.not_mem_nil
    · exact ⟨row, hrow, hedited.id.symm, hunit.symm, hperishable.symm⟩
  | worked hload hperform =>
    obtain ⟨itemId, tenantId, scope, hfind⟩ := StockOperation.findById_of_load hload
    obtain ⟨row, hrow, hrowId, -, rfl⟩ := findById_eq_some hfind
    have honly := StockOperation.stockOnly_of_perform hperform
    unfold InventoryItem.StockOnly at honly
    rw [honly]
    exact ⟨row, hrow, rfl, rfl, rfl⟩

/-- A save keeps the tables sound. -/
theorem Sound.written (h : Sound store) (haccepts : accepts store item = true) :
    Sound (written store item) where
  items := Rows.nodup_keys_upsert h.items
  batches := nodup_written_batches h.batches
  owned row hrow := by
    have hkeys : ∀ id, id ∈ (InventoryItemRepository.written store item).items.map (·.id) ↔
        id = item.id ∨ id ∈ store.items.map (·.id) := fun id => Rows.mem_keys_upsert
    rw [hkeys]
    rcases Rows.mem_upsertAll hrow with hnew | hstored
    · obtain ⟨batch, -, rfl⟩ := List.mem_map.mp hnew
      exact .inl rfl
    · exact .inr (h.owned row hstored)
  fits row hrow := by
    unfold accepts at haccepts
    simp only [Bool.and_eq_true, List.all_eq_true, List.mem_map] at haccepts
    rcases Rows.mem_upsertAll hrow with hnew | hstored
    · obtain ⟨batch, hbatch, rfl⟩ := List.mem_map.mp hnew
      exact haccepts.1.1.2 _ ⟨batch, hbatch, rfl⟩
    · exact h.fits row hstored

theorem Sound.step {a : Action} (h : Sound store) (hnext : next env store a = some store') :
    Sound store' := by
  cases (effect_of_next hnext).2 with
  | refused hsame _ => exact h.of_sameTables hsame
  | saved hsame _ haccepts _ => exact (h.of_sameTables hsame).written haccepts

end KomiSaas.Inventory.Sequential
