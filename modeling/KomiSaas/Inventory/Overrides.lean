import KomiSaas.Inventory.UseCases

/-!
# The minimum of each branch: one operation

The rows of `inventory_branch_configs`, read as a map from item and branch to a
minimum, and what one operation does to it.

* `overrides`, `minimumOf`: the map, in the tables and in an aggregate.
* `overrides_written`: `save` replaces the overrides of the item by those that
  the aggregate holds, so it deletes those that were not loaded.
* `Prepared`, `prepared_of_prepare`: what each of the eight operations holds
  when it saves. Only `ConsumeStock` holds the overrides of a single branch, and
  only `SetBranchMinimumStock` changes any.
-/

namespace KomiSaas.Inventory

open KomiSaas.Lib KomiSaas.Shared InventoryItemRepository

/-! ## What the methods leave alone -/

namespace InventoryItem

/-- The item has the id and the branch configurations it had. -/
def SameOverrides (item item' : InventoryItem) : Prop :=
  item'.id = item.id ∧ item'.branchConfigs = item.branchConfigs

/-- Only the batches, the events and the time of the last change may differ. -/
def StockOnly (item item' : InventoryItem) : Prop :=
  item' = { item with
    batches := item'.batches
    updatedAt := item'.updatedAt
    domainEvents := item'.domainEvents }

variable {decimal : DecimalJs} {item item' : InventoryItem} {branchId : Uuid} {quantity : Quantity}
  {reason : JsString} {date : Option JsDate} {now : Instant}

theorem StockOnly.sameOverrides (h : item.StockOnly item') : item.SameOverrides item' := by
  unfold StockOnly at h
  rw [h]
  exact ⟨rfl, rfl⟩

theorem stockOnly_recivedBatch {batchId : Uuid} {unitCost : Money}
    {expirationDate : Option Instant} :
    item.StockOnly
      (item.recivedBatch decimal batchId branchId quantity unitCost expirationDate date now).2 := by
  unfold recivedBatch
  split_ifs
  · rfl
  · rfl
  all_goals split <;> rfl

theorem stockOnly_consume : item.StockOnly (item.consume decimal quantity date now).2 := by
  unfold consume
  simp only
  split_ifs
  · rfl
  · rfl
  · rfl
  · split
    · rfl
    · split <;> rfl

theorem stockOnly_registerWaste :
    item.StockOnly (item.registerWaste decimal branchId quantity reason date now).2 := by
  unfold registerWaste
  simp only
  split_ifs
  · rfl
  · rfl
  · rfl
  · split <;> rfl

theorem stockOnly_countStock :
    item.StockOnly (item.countStock decimal branchId quantity reason date now).2 := by
  unfold countStock
  simp only
  split_ifs
  · rfl
  · rfl
  · rfl
  · split
    · rfl
    · split <;> rfl

theorem sameOverrides_update {name : Option InventoryItemName}
    {unitOfMeasure : Option MeasurementUnit} {isPerishable : Option Bool} :
    item.SameOverrides (item.update name unitOfMeasure isPerishable now).2 := by
  unfold update
  simp only
  split_ifs <;> exact ⟨rfl, rfl⟩

end InventoryItem

theorem sameOverrides_of_settle {outcome : Outcome} {item item' : InventoryItem}
    (hsame : item.SameOverrides outcome.2) (h : settle outcome = .ok item') :
    item.SameOverrides item' := by
  rw [settle_eq_ok h] at hsame
  exact hsame

theorem stockOnly_of_settle {outcome : Outcome} {item item' : InventoryItem}
    (honly : item.StockOnly outcome.2) (h : settle outcome = .ok item') :
    item.StockOnly item' := by
  rw [settle_eq_ok h] at honly
  exact honly

theorem StockOperation.stockOnly_of_perform {env : InventoryEnv} {call : Call}
    {operation : StockOperation} {item item' : InventoryItem}
    (h : operation.perform env call item = .ok item') : item.StockOnly item' := by
  cases operation with
  | receiveStock params =>
    obtain ⟨quantity, -, h⟩ := bind_eq_ok.mp h
    obtain ⟨totalCost, -, h⟩ := bind_eq_ok.mp h
    obtain ⟨unitCost, -, h⟩ := bind_eq_ok.mp h
    obtain ⟨expirationDate, -, h⟩ := bind_eq_ok.mp h
    exact stockOnly_of_settle InventoryItem.stockOnly_recivedBatch h
  | consumeStock params =>
    obtain ⟨quantity, -, h⟩ := bind_eq_ok.mp h
    exact stockOnly_of_settle InventoryItem.stockOnly_consume h
  | registerWaste params =>
    obtain ⟨quantity, -, h⟩ := bind_eq_ok.mp h
    exact stockOnly_of_settle InventoryItem.stockOnly_registerWaste h
  | countStock params =>
    obtain ⟨actualTotal, -, h⟩ := bind_eq_ok.mp h
    exact stockOnly_of_settle InventoryItem.stockOnly_countStock h

/-! ## Overrides as a map -/

/-- The columns of `uq_inventory_branch_configs_item_branch`. -/
def configKey (row : InventoryBranchConfigRow) : Uuid × Uuid := (row.inventoryItemId, row.branchId)

/-- The stored minimum of a branch for an item. -/
def overrides (store : InventoryStore) (itemId branchId : Uuid) : Option Quantity :=
  (Rows.find configKey (itemId, branchId) store.branchConfigs).map (·.minStock)

/-- The minimum of a branch in an aggregate. -/
def minimumOf (configs : List InventoryBranchConfig) (branchId : Uuid) : Option Quantity :=
  (Rows.find (·.branchId) branchId configs).map (·.minStock)

/-- A map after one entry: a number sets the minimum, `null` removes it. -/
def setMinimum (minimums : Uuid → Option Quantity) (entry : Uuid × Option Quantity) :
    Uuid → Option Quantity :=
  fun branchId => if branchId = entry.1 then entry.2 else minimums branchId

theorem setMinimum_eq_assign : setMinimum = Rows.assign := by
  funext minimums entry b
  rw [setMinimum, Rows.assign, Function.update_apply]

variable {store : InventoryStore} {item item' : InventoryItem} {itemId tenantId branchId : Uuid}
  {minStock : Quantity} {configs : List InventoryBranchConfig}

theorem overrides_eq_some_iff (hkeys : (store.branchConfigs.map configKey).Nodup) :
    overrides store itemId branchId = some minStock ↔
      ∃ row ∈ store.branchConfigs, row.inventoryItemId = itemId ∧ row.branchId = branchId ∧
        row.minStock = minStock := by
  unfold overrides
  rw [Option.map_eq_some_iff]
  simp only [Rows.find_eq_some_iff hkeys, configKey, Prod.mk.injEq, and_assoc]

theorem minimumOf_eq_some_iff (hbranches : (configs.map (·.branchId)).Nodup) :
    minimumOf configs branchId = some minStock ↔
      ∃ config ∈ configs, config.branchId = branchId ∧ config.minStock = minStock := by
  unfold minimumOf
  rw [Option.map_eq_some_iff]
  simp only [Rows.find_eq_some_iff hbranches, and_assoc]

/-- The overrides of a loaded item: all of them, or that of the branch it was loaded for. -/
theorem minimumOf_loaded {scope : Option Uuid} (hkeys : (store.branchConfigs.map configKey).Nodup)
    (h : findById store itemId tenantId scope = some item) :
    (item.branchConfigs.map (·.branchId)).Nodup ∧
      ∀ branchId, minimumOf item.branchConfigs branchId =
        if scope.all (fun b => b = branchId) then overrides store itemId branchId else none := by
  obtain ⟨itemRow, -, -, -, rfl⟩ := findById_eq_some h
  have hmem : ∀ row, row ∈ branchConfigsOf store itemId scope ↔
      row ∈ store.branchConfigs ∧ row.inventoryItemId = itemId ∧
        scope.all (fun b => row.branchId = b) = true := by
    intro row
    simp [branchConfigsOf]
  have hbranches : ((toAggregate itemRow (activeBatchesOf store itemId scope)
      (branchConfigsOf store itemId scope)).branchConfigs.map (·.branchId)).Nodup := by
    have hrows : (branchConfigsOf store itemId scope).Nodup :=
      (List.Nodup.of_map configKey hkeys).filter _
    rw [toAggregate, List.map_map]
    refine hrows.map_on fun row hrow row' hrow' hbranch => ?_
    refine List.inj_on_of_nodup_map hkeys ((hmem row).mp hrow).1 ((hmem row').mp hrow').1 ?_
    exact Prod.ext (((hmem row).mp hrow).2.1.trans ((hmem row').mp hrow').2.1.symm) hbranch
  refine ⟨hbranches, fun branchId => ?_⟩
  apply Option.ext
  intro minStock
  have hscope : ∀ row ∈ store.branchConfigs, row.branchId = branchId →
      (scope.all (fun b => row.branchId = b) = true ↔
        scope.all (fun b => b = branchId) = true) := by
    rintro row - rfl
    simp only [eq_comm]
  rw [minimumOf_eq_some_iff hbranches]
  constructor
  · rintro ⟨config, hconfig, hbranch, hmin⟩
    obtain ⟨row, hrow, rfl⟩ := List.mem_map.mp hconfig
    obtain ⟨hstored, hitem, hall⟩ := (hmem row).mp hrow
    rw [if_pos ((hscope row hstored hbranch).mp hall), overrides_eq_some_iff hkeys]
    exact ⟨row, hstored, hitem, hbranch, hmin⟩
  · intro h
    split_ifs at h with hall
    obtain ⟨row, hstored, hitem, hbranch, hmin⟩ := (overrides_eq_some_iff hkeys).mp h
    exact ⟨row.toConfig, List.mem_map_of_mem ((hmem row).mpr
      ⟨hstored, hitem, (hscope row hstored hbranch).mpr hall⟩), hbranch, hmin⟩

/-! ## What `save` does to the map -/

/-- The overrides after a `save`: those of the aggregate for its item, and those
    of the other items. `hown` says that no stored row of another item has the
    id of one of its configurations. -/
theorem mem_written_branchConfigs (hids : (item.branchConfigs.map (·.id)).Nodup)
    (hstore : (store.branchConfigs.map (·.id)).Nodup)
    (hown : ∀ config ∈ item.branchConfigs, ∀ row ∈ store.branchConfigs, row.id = config.id →
      row.inventoryItemId = item.id) {row : InventoryBranchConfigRow} :
    row ∈ (written store item).branchConfigs ↔
      (∃ config ∈ item.branchConfigs, row = config.toRow item.id) ∨
        (row ∈ store.branchConfigs ∧ row.inventoryItemId ≠ item.id) := by
  have hmapped : (item.branchConfigs.map (·.toRow item.id)).map (·.id) =
      item.branchConfigs.map (·.id) := by
    rw [List.map_map]
    rfl
  rw [written, Rows.mem_upsertAll_iff (by rw [hmapped]; exact hids)
    (hstore.sublist (List.filter_sublist.map _)), hmapped, List.mem_map, List.mem_filter,
    decide_eq_true_iff]
  constructor
  · rintro (⟨config, hconfig, rfl⟩ | ⟨⟨hstored, hkept⟩, hnew⟩)
    · exact .inl ⟨config, hconfig, rfl⟩
    · exact .inr ⟨hstored, hkept.resolve_right hnew⟩
  · rintro (⟨config, hconfig, rfl⟩ | ⟨hstored, hother⟩)
    · exact .inl ⟨config, hconfig, rfl⟩
    · have hnew : row.id ∉ item.branchConfigs.map (·.id) := by
        intro hmem
        obtain ⟨config, hconfig, hid⟩ := List.mem_map.mp hmem
        exact hother (hown config hconfig row hstored hid.symm)
      exact .inr ⟨⟨hstored, .inl hother⟩, hnew⟩

theorem overrides_written (hids : (item.branchConfigs.map (·.id)).Nodup)
    (hbranches : (item.branchConfigs.map (·.branchId)).Nodup)
    (hstore : (store.branchConfigs.map (·.id)).Nodup)
    (hkeys : (store.branchConfigs.map configKey).Nodup)
    (hown : ∀ config ∈ item.branchConfigs, ∀ row ∈ store.branchConfigs, row.id = config.id →
      row.inventoryItemId = item.id)
    (haccepts : accepts store item = true) :
    overrides (written store item) itemId branchId =
      if itemId = item.id then minimumOf item.branchConfigs branchId
      else overrides store itemId branchId := by
  have hwritten : ((written store item).branchConfigs.map configKey).Nodup := by
    unfold accepts InventoryStore.meetsConstraints at haccepts
    simp only [Bool.and_eq_true, decide_eq_true_eq] at haccepts
    exact haccepts.2.2
  apply Option.ext
  intro minStock
  rw [overrides_eq_some_iff hwritten]
  simp only [mem_written_branchConfigs hids hstore hown]
  constructor
  · rintro ⟨row, ⟨config, hconfig, rfl⟩ | ⟨hstored, hother⟩, rfl, hbranch, hmin⟩
    · have hitem : (config.toRow item.id).inventoryItemId = item.id := rfl
      rw [if_pos hitem, minimumOf_eq_some_iff hbranches]
      exact ⟨config, hconfig, hbranch, hmin⟩
    · rw [if_neg hother, overrides_eq_some_iff hkeys]
      exact ⟨row, hstored, rfl, hbranch, hmin⟩
  · intro h
    split_ifs at h with hitem
    · obtain ⟨config, hconfig, hbranch, hmin⟩ := (minimumOf_eq_some_iff hbranches).mp h
      exact ⟨config.toRow item.id, .inl ⟨config, hconfig, rfl⟩, hitem.symm, hbranch, hmin⟩
    · obtain ⟨row, hstored, rfl, hbranch, hmin⟩ := (overrides_eq_some_iff hkeys).mp h
      exact ⟨row, .inr ⟨hstored, hitem⟩, rfl, hbranch, hmin⟩

/-! ## `setMinimumsForBranches` -/

/-- A configuration keeps the id of a loaded one of its branch, or has the id
    generated for its branch. -/
def ComesFrom (configId : Uuid → Uuid) (branches : List Uuid)
    (loaded : List InventoryBranchConfig) (config : InventoryBranchConfig) : Prop :=
  (∃ old ∈ loaded, old.id = config.id ∧ old.branchId = config.branchId) ∨
    (config.branchId ∈ branches ∧ config.id = configId config.branchId)

namespace InventoryItem

variable {configId : Uuid → Uuid} {minStock : Option Quantity} {now : Instant}

theorem setMinimumForBranch_id {newId : Uuid} :
    (item.setMinimumForBranch newId branchId minStock now).id = item.id := by
  cases minStock <;> rfl

theorem nodup_setMinimumForBranch {newId : Uuid}
    (h : (item.branchConfigs.map (·.branchId)).Nodup) :
    ((item.setMinimumForBranch newId branchId minStock now).branchConfigs.map
      (·.branchId)).Nodup := by
  cases minStock with
  | none => exact Rows.nodup_keys_remove h
  | some minStock => exact Rows.nodup_keys_upsert h

/-- The configuration that `setMinimumForBranch` writes is of the branch, and
    keeps the id of the one it replaces. -/
theorem mem_setMinimumForBranch {newId : Uuid} {config : InventoryBranchConfig}
    (h : config ∈ (item.setMinimumForBranch newId branchId minStock now).branchConfigs) :
    config ∈ item.branchConfigs ∨
      (config.branchId = branchId ∧ (config.id = newId ∨
        ∃ old ∈ item.branchConfigs, old.id = config.id ∧ old.branchId = branchId)) := by
  cases minStock with
  | none => exact .inl (List.mem_of_mem_eraseP h)
  | some minStock =>
    rcases Rows.mem_upsert h with rfl | h
    · right
      cases hfind : Rows.find (·.branchId) branchId item.branchConfigs with
      | none => exact ⟨rfl, .inl rfl⟩
      | some old =>
        obtain ⟨hmem, hbranch⟩ := Rows.mem_of_find hfind
        exact ⟨hbranch, .inr ⟨old, hmem, rfl, hbranch⟩⟩
    · exact .inl h

theorem minimumOf_setMinimumForBranch {newId : Uuid}
    (h : (item.branchConfigs.map (·.branchId)).Nodup) :
    minimumOf (item.setMinimumForBranch newId branchId minStock now).branchConfigs =
      setMinimum (minimumOf item.branchConfigs) (branchId, minStock) := by
  funext b
  unfold minimumOf setMinimum
  cases minStock with
  | none =>
    show (Rows.find _ b (Rows.remove _ branchId item.branchConfigs)).map _ = _
    rw [Rows.find_remove h]
    split_ifs <;> rfl
  | some minStock =>
    have hwritten : ∀ config : InventoryBranchConfig, config.branchId = branchId →
        config.minStock = minStock →
        (Rows.find (·.branchId) b (Rows.upsert (·.branchId) config item.branchConfigs)).map
          (·.minStock) = if b = branchId then some minStock else
            (Rows.find (·.branchId) b item.branchConfigs).map (·.minStock) := by
      rintro config rfl rfl
      rw [Rows.find_upsert]
      by_cases hb : b = config.branchId
      · rw [if_pos hb.symm, if_pos hb]
        rfl
      · rw [if_neg fun e => hb e.symm, if_neg hb]
    refine hwritten _ ?_ ?_
    · cases hfind : Rows.find (·.branchId) branchId item.branchConfigs with
      | none => rfl
      | some old => exact (Rows.mem_of_find hfind).2
    · cases Rows.find (·.branchId) branchId item.branchConfigs <;> rfl

/-- All the entries, one after another. -/
theorem foldl_setMinimumForBranch (configId : Uuid → Uuid) (now : Instant)
    (entries : List (Uuid × Option Quantity)) (h : (item.branchConfigs.map (·.branchId)).Nodup) :
    let result := entries.foldl
      (fun item entry => item.setMinimumForBranch (configId entry.1) entry.1 entry.2 now) item
    result.id = item.id ∧ (result.branchConfigs.map (·.branchId)).Nodup ∧
      minimumOf result.branchConfigs = entries.foldl setMinimum (minimumOf item.branchConfigs) ∧
      ∀ config ∈ result.branchConfigs,
        ComesFrom configId (entries.map Prod.fst) item.branchConfigs config := by
  induction entries generalizing item with
  | nil => exact ⟨rfl, h, rfl, fun config hconfig => .inl ⟨config, hconfig, rfl, rfl⟩⟩
  | cons entry entries ih =>
    have hfirst : ((item.setMinimumForBranch (configId entry.1) entry.1 entry.2
        now).branchConfigs.map (·.branchId)).Nodup := nodup_setMinimumForBranch h
    obtain ⟨hid, hnodup, hminimum, hfrom⟩ := ih hfirst
    refine ⟨hid.trans setMinimumForBranch_id, hnodup, ?_, fun config hconfig => ?_⟩
    · exact hminimum.trans (by rw [minimumOf_setMinimumForBranch h]; rfl)
    · rcases hfrom config hconfig with ⟨old, hold, hoid, hobranch⟩ | ⟨hbranch, hnew⟩
      · rcases mem_setMinimumForBranch hold with hold | ⟨hbranch, hnew | hkept⟩
        · exact .inl ⟨old, hold, hoid, hobranch⟩
        · refine .inr ⟨?_, ?_⟩
          · rw [← hobranch, hbranch]
            exact List.mem_cons_self
          · rw [← hoid, ← hobranch, hnew, hbranch]
        · obtain ⟨older, holder, holderId, holderBranch⟩ := hkept
          exact .inl ⟨older, holder, holderId.trans hoid,
            holderBranch.trans (hbranch.symm.trans hobranch)⟩
      · exact .inr ⟨List.mem_cons_of_mem _ hbranch, hnew⟩

theorem setMinimumsForBranches_ok {entries : List (Uuid × Option Quantity)}
    (h : item.setMinimumsForBranches configId entries now = (.ok (), item')) :
    item' = (entries.foldl
      (fun item entry => item.setMinimumForBranch (configId entry.1) entry.1 entry.2 now)
        item).touch now := by
  unfold setMinimumsForBranches at h
  split_ifs at h
  · cases (Prod.mk.inj h).1
  · split at h
    · cases (Prod.mk.inj h).1
    · exact (Prod.mk.inj h).2.symm

end InventoryItem

/-! ## What each operation prepares for `save` -/

namespace Operation

/-- The branch that the operation loads the aggregate for. -/
def scope : Operation → Option Uuid
  | .stock (.consumeStock params) => some params.branchId
  | _ => none

/-- The entries that the operation asks for, where they are well formed. -/
def entries (env : InventoryEnv) : Operation → List (Uuid × Option Quantity)
  | .setBranchMinimumStock params => ((entriesOf env params.branches).toOption).getD []
  | _ => []

/-- The branches that a configuration may be created for. -/
def branches : Operation → List Uuid
  | .setBranchMinimumStock params => params.branches.map (·.branchId)
  | _ => []

/-- The ids that the call generates are new: that of the item belongs to no
    stored configuration, those of the configurations are not stored and differ
    from one another. -/
def fresh (call : Call) (store : InventoryStore) (operation : Operation) : Bool :=
  (store.branchConfigs.all fun row => row.inventoryItemId ≠ call.itemId) &&
    operation.branches.all fun branchId =>
      (store.branchConfigs.all fun row => row.id ≠ call.configId branchId) &&
        operation.branches.all fun other =>
          call.configId other ≠ call.configId branchId || other = branchId

end Operation

theorem fresh_iff {call : Call} {operation : Operation} :
    operation.fresh call store = true ↔
      (∀ row ∈ store.branchConfigs, row.inventoryItemId ≠ call.itemId) ∧
        ∀ branchId ∈ operation.branches,
          (∀ row ∈ store.branchConfigs, row.id ≠ call.configId branchId) ∧
            ∀ other ∈ operation.branches,
              call.configId other ≠ call.configId branchId ∨ other = branchId := by
  simp [Operation.fresh]

/-- What is known of the item that an operation is about to save. -/
structure Prepared (env : InventoryEnv) (store : InventoryStore) (operation : Operation)
    (item : InventoryItem) : Prop where
  ids : (item.branchConfigs.map (·.id)).Nodup
  branches : (item.branchConfigs.map (·.branchId)).Nodup
  own : ∀ config ∈ item.branchConfigs, ∀ row ∈ store.branchConfigs, row.id = config.id →
    row.inventoryItemId = item.id
  minimums : minimumOf item.branchConfigs = (operation.entries env).foldl setMinimum fun branchId =>
    if operation.scope.all (fun b => b = branchId) then overrides store item.id branchId else none

variable {env : InventoryEnv} {call : Call} {operation : Operation} {scope : Option Uuid}

/-- The configurations of a loaded item are rows of the item. -/
theorem mem_branchConfigs_of_findById (h : findById store itemId tenantId scope = some item) :
    item.id = itemId ∧ ∀ config ∈ item.branchConfigs, ∃ row ∈ store.branchConfigs,
      row.inventoryItemId = itemId ∧ config = row.toConfig := by
  obtain ⟨itemRow, -, hid, -, rfl⟩ := findById_eq_some h
  refine ⟨hid, fun config hconfig => ?_⟩
  obtain ⟨row, hrow, rfl⟩ := List.mem_map.mp hconfig
  obtain ⟨hstored, hcond⟩ := List.mem_filter.mp hrow
  simp only [Bool.and_eq_true, decide_eq_true_eq] at hcond
  exact ⟨row, hstored, hcond.1, rfl⟩

theorem loadItem_eq_ok (h : loadItem store itemId tenantId scope = .ok item) :
    findById store itemId tenantId scope = some item := by
  unfold loadItem at h
  split at h
  · cases h
  · rename_i hfind
    exact (Except.ok.inj h) ▸ hfind

/-- An operation that leaves the overrides of the loaded item alone. -/
theorem prepared_of_sameOverrides {loaded : InventoryItem}
    (hids : (store.branchConfigs.map (·.id)).Nodup)
    (hkeys : (store.branchConfigs.map configKey).Nodup)
    (hload : findById store itemId tenantId operation.scope = some loaded)
    (hsame : loaded.SameOverrides item) (hentries : operation.entries env = []) :
    Prepared env store operation item := by
  obtain ⟨hid, hrows⟩ := mem_branchConfigs_of_findById hload
  obtain ⟨hbranches, hminimums⟩ := minimumOf_loaded hkeys hload
  have hitem : item.id = itemId := hsame.1.trans hid
  refine ⟨?_, hsame.2 ▸ hbranches, ?_, ?_⟩
  · rw [hsame.2]
    refine (List.Nodup.of_map _ hbranches).map_on fun config hconfig other hother he => ?_
    obtain ⟨row, hrow, -, rfl⟩ := hrows config hconfig
    obtain ⟨row', hrow', -, rfl⟩ := hrows other hother
    rw [List.inj_on_of_nodup_map hids hrow hrow' he]
  · intro config hconfig row hrow he
    rw [hsame.2] at hconfig
    obtain ⟨row', hrow', hown, rfl⟩ := hrows config hconfig
    rw [List.inj_on_of_nodup_map hids hrow hrow' he, hown, hitem]
  · rw [hsame.2, hentries, List.foldl_nil, hitem]
    exact funext hminimums

theorem map_fst_of_entriesOf {branches : List BranchMinimumEntry}
    {entries : List (Uuid × Option Quantity)} (h : entriesOf env branches = .ok entries) :
    entries.map Prod.fst = branches.map (·.branchId) := by
  induction branches generalizing entries with
  | nil => rw [← Except.ok.inj h, List.map_nil, List.map_nil]
  | cons entry branches ih =>
    obtain ⟨minStock, -, h⟩ := bind_eq_ok.mp h
    obtain ⟨rest, hrest, h⟩ := bind_eq_ok.mp h
    rw [← Except.ok.inj h, List.map_cons, List.map_cons, ih hrest]

/-- A configuration to save has the id of a stored one of the item and its
    branch, or the id generated for its branch. -/
def StoredOrNew (store : InventoryStore) (configId : Uuid → Uuid) (branches : List Uuid)
    (itemId : Uuid) (config : InventoryBranchConfig) : Prop :=
  (∃ row ∈ store.branchConfigs, row.id = config.id ∧ row.inventoryItemId = itemId ∧
    row.branchId = config.branchId) ∨
  (config.branchId ∈ branches ∧ config.id = configId config.branchId)

section StoredOrNew

variable {params : SetBranchMinimumStockParams} {config other : InventoryBranchConfig}

/-- Its id is that of no row of another item. -/
theorem StoredOrNew.own
    (h : StoredOrNew store call.configId (params.branches.map (·.branchId)) itemId config)
    (hids : (store.branchConfigs.map (·.id)).Nodup)
    (hfresh : (Operation.setBranchMinimumStock params).fresh call store = true)
    {row : InventoryBranchConfigRow} (hrow : row ∈ store.branchConfigs)
    (hid : row.id = config.id) : row.inventoryItemId = itemId := by
  rcases h with ⟨stored, hstored, hstoredId, hown, -⟩ | ⟨hmem, hnewId⟩
  · rw [List.inj_on_of_nodup_map hids hrow hstored (hid.trans hstoredId.symm), hown]
  · exact absurd (hid.trans hnewId) (((fresh_iff.mp hfresh).2 _ hmem).1 row hrow)

/-- The id tells the branch. -/
theorem StoredOrNew.branchId_eq
    (h : StoredOrNew store call.configId (params.branches.map (·.branchId)) itemId config)
    (h' : StoredOrNew store call.configId (params.branches.map (·.branchId)) itemId other)
    (hids : (store.branchConfigs.map (·.id)).Nodup)
    (hfresh : (Operation.setBranchMinimumStock params).fresh call store = true)
    (hid : config.id = other.id) : config.branchId = other.branchId := by
  have hnew := (fresh_iff.mp hfresh).2
  rcases h with ⟨row, hrow, hrowId, -, hbranch⟩ | ⟨hmem, hnewId⟩
  · rcases h' with ⟨row', hrow', hrowId', -, hbranch'⟩ | ⟨hmem', hnewId'⟩
    · have hsame := List.inj_on_of_nodup_map hids hrow hrow'
        (hrowId.trans (hid.trans hrowId'.symm))
      rw [← hbranch, ← hbranch', hsame]
    · exact absurd (hrowId.trans (hid.trans hnewId')) ((hnew _ hmem').1 row hrow)
  · rcases h' with ⟨row', hrow', hrowId', -, -⟩ | ⟨hmem', hnewId'⟩
    · exact absurd (hrowId'.trans (hid.symm.trans hnewId)) ((hnew _ hmem).1 row' hrow')
    · exact ((hnew _ hmem').2 _ hmem).resolve_left
        fun hne => hne (hnewId.symm.trans (hid.trans hnewId'))

end StoredOrNew

/-- `SetBranchMinimumStock`. -/
theorem prepared_of_setBranchMinimumStock {params : SetBranchMinimumStockParams}
    (hids : (store.branchConfigs.map (·.id)).Nodup)
    (hkeys : (store.branchConfigs.map configKey).Nodup)
    (hfresh : (Operation.setBranchMinimumStock params).fresh call store = true)
    (h : (loadItem store params.itemId params.tenantId none).bind
      (SetBranchMinimumStock.perform env call params) = .ok item) :
    item.id = params.itemId ∧ Prepared env store (.setBranchMinimumStock params) item := by
  obtain ⟨loaded, hload, hperform⟩ := bind_eq_ok.mp h
  have hload := loadItem_eq_ok hload
  obtain ⟨hid, hrows⟩ := mem_branchConfigs_of_findById hload
  obtain ⟨hbranches, hminimums⟩ := minimumOf_loaded hkeys hload
  unfold SetBranchMinimumStock.perform at hperform
  split at hperform
  · cases hperform
  obtain ⟨entries, hentries, hset⟩ := bind_eq_ok.mp hperform
  have hitem := InventoryItem.setMinimumsForBranches_ok (settle_eq_ok hset)
  obtain ⟨hsameId, hnodup, hfold, hfrom⟩ :=
    InventoryItem.foldl_setMinimumForBranch call.configId call.now entries hbranches
  set result := entries.foldl
    (fun item entry => item.setMinimumForBranch (call.configId entry.1) entry.1 entry.2 call.now)
    loaded with hresult
  have hid' : item.id = params.itemId := by
    rw [hitem]
    exact hsameId.trans hid
  have hconfigs : item.branchConfigs = result.branchConfigs := by
    rw [hitem]
    rfl
  rw [map_fst_of_entriesOf hentries] at hfrom
  rw [← hconfigs] at hnodup hfold hfrom
  have hstored : ∀ config ∈ item.branchConfigs,
      StoredOrNew store call.configId (params.branches.map (·.branchId)) item.id config := by
    intro config hconfig
    refine (hfrom config hconfig).imp_left ?_
    rintro ⟨old, hold, hoid, hobranch⟩
    obtain ⟨row, hrow, hown, rfl⟩ := hrows old hold
    exact ⟨row, hrow, hoid, hown.trans hid'.symm, hobranch⟩
  refine ⟨hid', ?_, hnodup, ?_, ?_⟩
  · refine (List.Nodup.of_map _ hnodup).map_on fun config hconfig other hother he => ?_
    exact List.inj_on_of_nodup_map hnodup hconfig hother
      ((hstored config hconfig).branchId_eq (hstored other hother) hids hfresh he)
  · intro config hconfig row hrow he
    exact (hstored config hconfig).own hids hfresh hrow he
  · have hall : minimumOf loaded.branchConfigs = overrides store item.id := by
      rw [hid']
      exact funext hminimums
    simp only [Operation.entries, Operation.scope, hentries]
    rw [hfold, hall]
    rfl

/-- `CreateInventoryItem`. -/
theorem prepared_of_createInventoryItem (env : InventoryEnv)
    {params : CreateInventoryItemParams} {store' : InventoryStore}
    (hfresh : (Operation.createInventoryItem params).fresh call store = true)
    (h : CreateInventoryItem.perform call store params = (.ok item, store')) :
    store'.branchConfigs = store.branchConfigs ∧
      Prepared env store' (.createInventoryItem params) item := by
  unfold CreateInventoryItem.perform at h
  split_ifs at h
  · cases (Prod.mk.inj h).1
  split at h
  · cases (Prod.mk.inj h).1
  split_ifs at h
  · cases (Prod.mk.inj h).1
  obtain ⟨hitem, rfl⟩ := Prod.mk.inj h
  obtain ⟨unitOfMeasure, -, hitem⟩ := bind_eq_ok.mp hitem
  obtain rfl := Except.ok.inj hitem
  refine ⟨rfl, List.nodup_nil, List.nodup_nil, fun _ hmem => absurd hmem List.not_mem_nil, ?_⟩
  funext branchId
  show none = overrides _ call.itemId branchId
  unfold overrides
  rw [Rows.find_eq_none_iff.mpr, Option.map_none]
  intro hmem
  obtain ⟨row, hrow, hkey⟩ := List.mem_map.mp hmem
  exact (fresh_iff.mp hfresh).1 row hrow (Prod.mk.inj hkey).1

namespace Operation

/-- What the operation asks for, if it is carried out: item, branch and minimum. -/
def asked (env : InventoryEnv) : Operation → List (Uuid × Uuid × Option Quantity)
  | .setBranchMinimumStock params =>
    (entries env (.setBranchMinimumStock params)).map fun entry => (params.itemId, entry)
  | _ => []

end Operation

theorem prepared_of_prepare {store' : InventoryStore}
    (hids : (store.branchConfigs.map (·.id)).Nodup)
    (hkeys : (store.branchConfigs.map configKey).Nodup)
    (hfresh : operation.fresh call store = true)
    (h : operation.prepare env call store = (.ok item, store')) :
    store'.branchConfigs = store.branchConfigs ∧ Prepared env store' operation item ∧
      operation.asked env = (operation.entries env).map fun entry => (item.id, entry) := by
  cases operation with
  | stock operation =>
    obtain ⟨hitem, rfl⟩ := Prod.mk.inj h
    obtain ⟨loaded, hload, hperform⟩ := bind_eq_ok.mp hitem
    have hsame := (StockOperation.stockOnly_of_perform hperform).sameOverrides
    refine ⟨rfl, ?_, rfl⟩
    cases operation with
    | receiveStock params =>
      change ReceiveStock.load call store params = .ok loaded at hload
      unfold ReceiveStock.load at hload
      split_ifs at hload
      exact prepared_of_sameOverrides hids hkeys (loadItem_eq_ok hload) hsame rfl
    | consumeStock params =>
      exact prepared_of_sameOverrides hids hkeys (loadItem_eq_ok hload) hsame rfl
    | registerWaste params =>
      exact prepared_of_sameOverrides hids hkeys (loadItem_eq_ok hload) hsame rfl
    | countStock params =>
      exact prepared_of_sameOverrides hids hkeys (loadItem_eq_ok hload) hsame rfl
  | createInventoryItem params =>
    obtain ⟨hstore, hprepared⟩ := prepared_of_createInventoryItem env hfresh h
    exact ⟨hstore, hprepared, rfl⟩
  | updateInventoryItem itemId tenantId params =>
    obtain ⟨hitem, rfl⟩ := Prod.mk.inj h
    obtain ⟨loaded, hload, hperform⟩ := bind_eq_ok.mp hitem
    obtain ⟨name, -, hperform⟩ := bind_eq_ok.mp hperform
    obtain ⟨cost, -, hperform⟩ := bind_eq_ok.mp hperform
    obtain ⟨unitOfMeasure, -, hperform⟩ := bind_eq_ok.mp hperform
    have hsame := sameOverrides_of_settle InventoryItem.sameOverrides_update hperform
    exact ⟨rfl, prepared_of_sameOverrides hids hkeys (loadItem_eq_ok hload) hsame rfl, rfl⟩
  | setGlobalMinimumStock params =>
    obtain ⟨hitem, rfl⟩ := Prod.mk.inj h
    obtain ⟨loaded, hload, hperform⟩ := bind_eq_ok.mp hitem
    obtain ⟨minStock, -, hperform⟩ := bind_eq_ok.mp hperform
    have hsame : loaded.SameOverrides item := by
      rw [← Except.ok.inj hperform]
      exact ⟨rfl, rfl⟩
    exact ⟨rfl, prepared_of_sameOverrides hids hkeys (loadItem_eq_ok hload) hsame rfl, rfl⟩
  | setBranchMinimumStock params =>
    obtain ⟨hitem, rfl⟩ := Prod.mk.inj h
    obtain ⟨hid, hprepared⟩ := prepared_of_setBranchMinimumStock hids hkeys hfresh hitem
    refine ⟨rfl, hprepared, ?_⟩
    rw [hid]
    rfl

end KomiSaas.Inventory
