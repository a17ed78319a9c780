import KomiSaas.Inventory.Sequential

/-!
# The names of the inventory items

Whole calls of `CreateInventoryItem` and `UpdateInventoryItem`, one after
another, from an empty inventory.

`InventoryItemName.equals` ignores case, but `existsByName` looks for the very
name, and it looks among all items of the business. So a name that differs only
in case from that of another item is stored, and the name that an item has is
refused to the item itself: the names stay unique and every item may be sent its
own name exactly in the runs without such calls (`itemNames_unique_iff`).
-/

namespace KomiSaas.Inventory.Names

open KomiSaas.Lib KomiSaas.Shared InventoryItemRepository

/-- The two use cases that name an item. -/
inductive Request where
  | createInventoryItem (params : CreateInventoryItemParams)
  | updateInventoryItem (itemId tenantId : Uuid) (params : UpdateInventoryItemParams)

def Request.operation : Request → Operation
  | .createInventoryItem params => .createInventoryItem params
  | .updateInventoryItem itemId tenantId params => .updateInventoryItem itemId tenantId params

/-- A request with what it finds around it. -/
structure Action where
  call : Call
  request : Request

/-- What the request answers, and the tables after it. -/
def Action.execute (env : InventoryEnv) (store : InventoryStore) (a : Action) :
    Except Failure (List DomainEvent) × InventoryStore :=
  a.request.operation.execute env a.call store

/-- A whole call. The generated id is not that of a stored item. -/
def next (env : InventoryEnv) (store : InventoryStore) (a : Action) : Option InventoryStore :=
  if a.call.itemId ∈ store.items.map (·.id) then none else some (a.execute env store).2

/-- The two names are not the same, as `InventoryItemName.equals` compares them. -/
def NamedApart (toLowerCase : JsString → JsString) (row other : InventoryItemRow) : Prop :=
  row.tenantId = other.tenantId → toLowerCase row.name.value ≠ toLowerCase other.name.value

/-- No two items of a business have the same name. -/
def NamesUnique (toLowerCase : JsString → JsString) (store : InventoryStore) : Prop :=
  Rows.Apart (·.id) (NamedApart toLowerCase) store.items

/-- An update sends an item the name that it has. -/
def sendsOwnName (store : InventoryStore) : Request → Bool
  | .createInventoryItem _ => false
  | .updateInventoryItem itemId tenantId params =>
    params.name.any fun raw => store.items.any fun row =>
      row.id = itemId && row.tenantId = tenantId && trim raw = row.name.value

/-- The request is rejected because there is an item with the name. -/
def rejectedAsDuplicate (env : InventoryEnv) (store : InventoryStore) (a : Action) : Prop :=
  ∃ name, (a.execute env store).1 = .error (.domain (.inventoryItemNameAlreadyExists name))

/-! ## The requests that go wrong -/

/-- An item other than `own` has the name in other letters, upper or lower case. -/
def variantInUse (toLowerCase : JsString → JsString) (store : InventoryStore) (own : Option Uuid)
    (tenantId : Uuid) (name : JsString) : Bool :=
  store.items.any fun row =>
    some row.id ≠ own && row.tenantId = tenantId && row.name.value ≠ name &&
      toLowerCase row.name.value = toLowerCase name

/-- The next SKU fits its column and is new. -/
def skuAccepted (store : InventoryStore) : Bool :=
  (InventoryItemSku.fromNumber store.skuSequence).length ≤ 20 &&
    InventoryItemSku.fromNumber store.skuSequence ∉ store.items.map (·.sku)

/-- All that `CreateInventoryItem` checks but the name in use. -/
def createPasses (call : Call) (store : InventoryStore) (params : CreateInventoryItemParams) :
    Bool :=
  call.tenantExists params.tenantId && (InventoryItemName.create params.name).isOk &&
    (InventoryItemUnit.create params.unitOfMeasure).isOk && skuAccepted store

/-- The cost that `UpdateInventoryItem` converts. -/
def costOf (env : InventoryEnv) (params : UpdateInventoryItemParams) :
    Except InventoryException (Option Money) :=
  ifSent (fun amount => moneyOf env amount (params.costCurrency.getD (js "COP"))) params.costAmount

/-- All that `UpdateInventoryItem` checks of an item without batches, but the
    name in use. -/
def updatePasses (env : InventoryEnv) (store : InventoryStore) (itemId tenantId : Uuid)
    (raw : JsString) (params : UpdateInventoryItemParams) : Bool :=
  (store.items.any fun row => row.id = itemId && row.tenantId = tenantId) &&
    (InventoryItemName.create raw).isOk && (costOf env params).isOk &&
      (ifSent InventoryItemUnit.create params.unitOfMeasure).isOk

/-- A request that passes all other checks sends a name that another item has in
    other letters, upper or lower case. -/
def sendsVariant (env : InventoryEnv) (toLowerCase : JsString → JsString) (store : InventoryStore)
    (a : Action) : Bool :=
  match a.request with
  | .createInventoryItem params =>
    createPasses a.call store params &&
      variantInUse toLowerCase store none params.tenantId (trim params.name)
  | .updateInventoryItem itemId tenantId params =>
    params.name.any fun raw =>
      updatePasses env store itemId tenantId raw params &&
        variantInUse toLowerCase store (some itemId) tenantId (trim raw)

section Requests

variable {env : InventoryEnv} {toLowerCase : JsString → JsString} {store store' : InventoryStore}
  {a : Action} {call : Call} {item : InventoryItem} {row : InventoryItemRow}

/-! ## The tables -/

/-- What holds of the tables while items are only created and updated. -/
structure TableInv (store : InventoryStore) : Prop where
  ids : (store.items.map (·.id)).Nodup
  skus : (store.items.map (·.sku)).Nodup
  fits : ∀ row ∈ store.items, row.fitsColumns = true
  batches : store.batches = []
  branchConfigs : store.branchConfigs = []

/-- A request wrote `row` and nothing else. -/
structure Wrote (store store' : InventoryStore) (row : InventoryItemRow) : Prop where
  items : store'.items = Rows.upsert (·.id) row store.items
  batches : store'.batches = store.batches
  branchConfigs : store'.branchConfigs = store.branchConfigs
  fits : row.fitsColumns = true
  skus : ((Rows.upsert (·.id) row store.items).map (·.sku)).Nodup

theorem TableInv.of_sameTables (hinv : TableInv store) (h : Sequential.SameTables store store') :
    TableInv store' where
  ids := h.items ▸ hinv.ids
  skus := h.items ▸ hinv.skus
  fits := h.items ▸ hinv.fits
  batches := h.batches.trans hinv.batches
  branchConfigs := h.branchConfigs.trans hinv.branchConfigs

theorem TableInv.of_wrote (hinv : TableInv store) (h : Wrote store store' row) :
    TableInv store' where
  ids := by
    rw [h.items]
    exact Rows.nodup_keys_upsert hinv.ids
  skus := by
    rw [h.items]
    exact h.skus
  fits := by
    intro r hr
    rw [h.items] at hr
    rcases Rows.mem_upsert hr with rfl | hr
    · exact h.fits
    · exact hinv.fits r hr
  batches := h.batches.trans hinv.batches
  branchConfigs := h.branchConfigs.trans hinv.branchConfigs

/-- What the tables ask of an item without batches. -/
theorem accepts_iff (hinv : TableInv store) (hsame : Sequential.SameTables store store')
    (hbatches : item.batches = []) (hconfigs : item.branchConfigs = []) :
    accepts store' item = true ↔ item.toRow.fitsColumns = true ∧
      ((Rows.upsert (·.id) item.toRow store.items).map (·.sku)).Nodup := by
  have hitems : (written store' item).items = Rows.upsert (·.id) item.toRow store.items := by
    rw [written, hsame.items]
  have hno : (written store' item).branchConfigs = [] := by
    simp only [written, hconfigs, hsame.branchConfigs, hinv.branchConfigs]
    rfl
  rw [accepts, InventoryStore.meetsConstraints, hitems, hno, hbatches, hconfigs]
  simp

/-- What `save` does to the tables with an item without batches. -/
theorem commit_effect (hinv : TableInv store) (hsame : Sequential.SameTables store store')
    (hbatches : item.batches = []) (hconfigs : item.branchConfigs = []) :
    (accepts store' item = false ∧
      Sequential.SameTables store (Operation.commit store' item).2) ∨
    (accepts store' item = true ∧ Wrote store (Operation.commit store' item).2 item.toRow) := by
  by_cases haccepts : accepts store' item = true
  · obtain ⟨hfits, hskus⟩ := (accepts_iff hinv hsame hbatches hconfigs).mp haccepts
    have hsave : save store' item = some (written store' item) := if_pos haccepts
    rw [Operation.commit, hsave]
    refine .inr ⟨haccepts, ?_, ?_, ?_, hfits, hskus⟩
    · rw [written, hsame.items]
    · simp only [written, hbatches, hsame.batches]
      rfl
    · simp only [written, hconfigs, hsame.branchConfigs, hinv.branchConfigs]
      rfl
  · have hsave : save store' item = none := if_neg haccepts
    rw [Operation.commit, hsave]
    exact .inl ⟨Bool.eq_false_of_not_eq_true haccepts, hsame⟩

/-- Writing a row keeps the names unique exactly where no other item of the
    business has its name. -/
theorem namesUnique_wrote_iff (hinv : TableInv store) (h : Wrote store store' row)
    (hunique : NamesUnique toLowerCase store) :
    NamesUnique toLowerCase store' ↔
      ∀ other ∈ store.items, other.id ≠ row.id → NamedApart toLowerCase other row := by
  rw [NamesUnique, h.items]
  refine Rows.apart_iff_of_mem ?_ (fun r => Rows.mem_upsert_iff hinv.ids) hunique
  intro former latter hapart htenant
  exact (hapart htenant.symm).symm

theorem namesUnique_of_sameTables (h : Sequential.SameTables store store') :
    NamesUnique toLowerCase store' ↔ NamesUnique toLowerCase store := by
  rw [NamesUnique, NamesUnique, h.items]

/-! ## One request -/

/-- The row of a new item is accepted exactly with the next SKU. -/
theorem accepts_create_iff (hinv : TableInv store) (hsame : Sequential.SameTables store store')
    (hfresh : call.itemId ∉ store.items.map (·.id)) {tenantId : Uuid} {name : InventoryItemName}
    {unitOfMeasure : MeasurementUnit} {isPerishable : Bool} :
    accepts store' (InventoryItem.create call.itemId tenantId
        (InventoryItemSku.fromNumber store.skuSequence) name unitOfMeasure isPerishable
        call.now) = true ↔ skuAccepted store = true := by
  rw [accepts_iff hinv hsame rfl rfl, Rows.upsert_of_notMem hfresh, List.map_append,
    List.nodup_append, skuAccepted, InventoryItemRow.fitsColumns]
  have hskus := hinv.skus
  simp only [InventoryItem.create, InventoryItem.registerEvent, InventoryItem.toRow,
    List.map_cons, List.map_nil, List.nodup_singleton, Option.all_none, Bool.and_true,
    Bool.and_eq_true, decide_eq_true_eq, List.mem_singleton, forall_eq, true_and, hskus]
  refine and_congr decide_eq_true_iff ?_
  constructor
  · intro h hmem
    exact h _ hmem rfl
  · rintro h sku hmem rfl
    exact h hmem

/-- `CreateInventoryItem` leaves the tables alone, or writes a row with the name. -/
theorem create_effect (hinv : TableInv store) (hfresh : call.itemId ∉ store.items.map (·.id))
    (params : CreateInventoryItemParams) :
    (Sequential.SameTables store
        ((Operation.createInventoryItem params).execute env call store).2 ∧
      (createPasses call store params = false ∨ ∃ name,
        InventoryItemName.create params.name = .ok name ∧
          existsByName store name params.tenantId = true)) ∨
    ∃ row, Wrote store ((Operation.createInventoryItem params).execute env call store).2 row ∧
      createPasses call store params = true ∧ row.id = call.itemId ∧
      row.tenantId = params.tenantId ∧ InventoryItemName.create params.name = .ok row.name ∧
      existsByName store row.name params.tenantId = false := by
  have hprepare : (Operation.createInventoryItem params).prepare env call store =
      CreateInventoryItem.perform call store params := rfl
  rw [Operation.execute, hprepare, createPasses, CreateInventoryItem.perform]
  by_cases htenant : call.tenantExists params.tenantId = true
  swap
  · rw [Bool.not_eq_true] at htenant
    simp only [htenant, Bool.not_false, if_true]
    exact .inl ⟨⟨rfl, rfl, rfl⟩, .inl rfl⟩
  simp only [htenant, Bool.not_true, Bool.false_eq_true, if_false, Bool.true_and]
  cases hname : InventoryItemName.create params.name with
  | error e => exact .inl ⟨⟨rfl, rfl, rfl⟩, .inl rfl⟩
  | ok name =>
    by_cases hexists : existsByName store name params.tenantId = true
    · simp only [hexists, if_true]
      exact .inl ⟨⟨rfl, rfl, rfl⟩, .inr ⟨name, rfl, hexists⟩⟩
    rw [Bool.not_eq_true] at hexists
    simp only [hexists, Bool.false_eq_true, if_false]
    cases hunit : InventoryItemUnit.create params.unitOfMeasure with
    | error e => exact .inl ⟨⟨rfl, rfl, rfl⟩, .inl rfl⟩
    | ok unitOfMeasure =>
      -- only the columns can refuse the new item
      have hsame : Sequential.SameTables store (nextSkuSequence store).2 := ⟨rfl, rfl, rfl⟩
      have haccepts := @accepts_create_iff _ _ _ hinv hsame hfresh params.tenantId name
        unitOfMeasure params.isPerishable
      have hok : ∀ {ε α : Type} (x : α), (Except.ok x : Except ε α).isOk = true := fun _ => rfl
      have heffect := @commit_effect _ _ (InventoryItem.create call.itemId params.tenantId
        (InventoryItemSku.fromNumber store.skuSequence) name unitOfMeasure params.isPerishable
        call.now) hinv hsame rfl rfl
      rcases heffect with ⟨hrefused, hkept⟩ | ⟨haccepted, hwrote⟩
      · refine .inl ⟨hkept, .inl ?_⟩
        rw [hok, hok, Bool.true_and, Bool.true_and, Bool.eq_false_iff, Ne, ← haccepts, hrefused]
        exact Bool.false_ne_true
      · refine .inr ⟨_, hwrote, ?_, rfl, rfl, rfl, hexists⟩
        rw [hok, hok, Bool.true_and, Bool.true_and]
        exact haccepts.mp haccepted

/-- An item that was loaded keeps its SKU, so it is accepted again. -/
theorem accepts_update {old : InventoryItemRow} (hinv : TableInv store) (hold : old ∈ store.items)
    (hid : item.id = old.id) (hsku : item.sku = old.sku)
    (hminimum : item.minGlobalStock = old.minGlobalStock) (hbatches : item.batches = [])
    (hconfigs : item.branchConfigs = []) : accepts store item = true := by
  rw [accepts_iff hinv ⟨rfl, rfl, rfl⟩ hbatches hconfigs]
  constructor
  · have hfits := hinv.fits old hold
    rw [InventoryItemRow.fitsColumns] at hfits ⊢
    rw [show item.toRow.sku = old.sku from hsku,
      show item.toRow.minGlobalStock = old.minGlobalStock from hminimum]
    exact hfits
  · have hkept : (Rows.upsert (·.id) item.toRow store.items).map (·.sku) =
        store.items.map (·.sku) :=
      Rows.map_upsert hinv.ids hold hid.symm hsku
    rw [hkept]
    exact hinv.skus

/-- What `findById` finds while no item has batches. -/
theorem loadItem_cases (hinv : TableInv store) (itemId tenantId : Uuid) :
    ((store.items.any fun row => row.id = itemId && row.tenantId = tenantId) = false ∧
      loadItem store itemId tenantId none = .error (.inventoryItemNotFound itemId)) ∨
    ∃ old ∈ store.items, old.id = itemId ∧ old.tenantId = tenantId ∧
      loadItem store itemId tenantId none = .ok (toAggregate old [] []) := by
  have hbatches : ∀ id, activeBatchesOf store id none = [] := by
    intro id
    rw [activeBatchesOf, hinv.batches]
    rfl
  have hconfigs : ∀ id, branchConfigsOf store id none = [] := by
    intro id
    rw [branchConfigsOf, hinv.branchConfigs]
    rfl
  rw [loadItem, findById]
  cases hfind : store.items.find? fun row => row.id = itemId ∧ row.tenantId = tenantId with
  | none =>
    refine .inl ⟨?_, rfl⟩
    rw [List.any_eq_false]
    intro row hrow hsame
    rw [Bool.and_eq_true, decide_eq_true_iff, decide_eq_true_iff] at hsame
    exact List.find?_eq_none.mp hfind row hrow (decide_eq_true hsame)
  | some old =>
    have hold : old.id = itemId ∧ old.tenantId = tenantId := by
      simpa using List.find?_some hfind
    refine .inr ⟨old, List.mem_of_find?_eq_some hfind, hold.1, hold.2, ?_⟩
    simp only [Option.map_some, hbatches, hconfigs]

/-- `update` of an item without batches fails only without changes. -/
theorem update_toAggregate (old : InventoryItemRow) (name : Option InventoryItemName)
    (unitOfMeasure : Option MeasurementUnit) (isPerishable : Option Bool) (now : Instant) :
    (toAggregate old [] []).update name unitOfMeasure isPerishable now =
      if name.isNone && unitOfMeasure.isNone && isPerishable.isNone then
        (.error (.emptyUpdate old.id), toAggregate old [] [])
      else
        (.ok (), { toAggregate old [] [] with
          name := name.getD old.name
          unitOfMeasure := unitOfMeasure.getD old.unitOfMeasure
          isPerishable := isPerishable.getD old.isPerishable
          updatedAt := now }) := by
  rw [InventoryItem.update]
  split_ifs with hempty
  · rfl
  · simp [InventoryItem.touch, toAggregate]

/-- What `UpdateInventoryItem` does after `findById`. -/
theorem update_execute {old : InventoryItemRow} {itemId tenantId : Uuid}
    {params : UpdateInventoryItemParams}
    (hload : loadItem store itemId tenantId none = .ok (toAggregate old [] [])) :
    (Operation.updateInventoryItem itemId tenantId params).execute env call store =
      match UpdateInventoryItem.perform env call store tenantId params (toAggregate old [] []) with
      | .error e => (.error (.domain e), store)
      | .ok item => Operation.commit store item := by
  have hprepare : (Operation.updateInventoryItem itemId tenantId params).prepare env call store =
      (UpdateInventoryItem.perform env call store tenantId params (toAggregate old [] []),
        store) := by
    rw [Operation.prepare, hload]
    rfl
  rw [Operation.execute, hprepare]
  cases UpdateInventoryItem.perform env call store tenantId params (toAggregate old [] []) <;> rfl

/-- The item that an update is about to save. -/
theorem perform_eq_ok {old : InventoryItemRow} {tenantId : Uuid}
    {params : UpdateInventoryItemParams}
    (h : UpdateInventoryItem.perform env call store tenantId params (toAggregate old [] []) =
      .ok item) :
    (item.id = old.id ∧ item.tenantId = old.tenantId ∧ item.sku = old.sku ∧
      item.minGlobalStock = old.minGlobalStock ∧ item.batches = [] ∧ item.branchConfigs = []) ∧
    (params.name = none → item.name = old.name) ∧
    ∀ raw, params.name = some raw → InventoryItemName.create raw = .ok item.name ∧
      existsByName store item.name tenantId = false ∧ (costOf env params).isOk = true ∧
        (ifSent InventoryItemUnit.create params.unitOfMeasure).isOk = true := by
  obtain ⟨name, hname, h⟩ := bind_eq_ok.mp h
  obtain ⟨cost, hcost, h⟩ := bind_eq_ok.mp h
  obtain ⟨unitOfMeasure, hunit, h⟩ := bind_eq_ok.mp h
  have h := settle_eq_ok h
  rw [update_toAggregate] at h
  split_ifs at h with hempty
  · cases (Prod.mk.inj h).1
  obtain rfl := (Prod.mk.inj h).2
  refine ⟨⟨rfl, rfl, rfl, rfl, rfl, rfl⟩, ?_, ?_⟩
  · intro hnone
    rw [hnone] at hname
    obtain rfl := Except.ok.inj hname
    rfl
  · intro raw hraw
    rw [hraw] at hname
    obtain ⟨new, hnew, rfl⟩ := map_eq_ok.mp hname
    obtain ⟨created, hcreate, hnew⟩ := bind_eq_ok.mp hnew
    split_ifs at hnew with hexists
    obtain rfl := Except.ok.inj hnew
    exact ⟨hcreate, Bool.eq_false_of_not_eq_true hexists, isOk_iff.mpr ⟨cost, hcost⟩,
      isOk_iff.mpr ⟨unitOfMeasure, hunit⟩⟩

/-- An update that passes its checks saves an item. -/
theorem exists_perform {old : InventoryItemRow} {tenantId : Uuid} {raw : JsString}
    {params : UpdateInventoryItemParams} {name : InventoryItemName}
    (hraw : params.name = some raw) (hcreate : InventoryItemName.create raw = .ok name)
    (hexists : existsByName store name tenantId = false) (hcost : (costOf env params).isOk = true)
    (hunit : (ifSent InventoryItemUnit.create params.unitOfMeasure).isOk = true) :
    ∃ item, UpdateInventoryItem.perform env call store tenantId params (toAggregate old [] []) =
      .ok item := by
  obtain ⟨cost, hcost⟩ := isOk_iff.mp hcost
  obtain ⟨unitOfMeasure, hunit⟩ := isOk_iff.mp hunit
  have hnew : newNameOf store tenantId raw = .ok name :=
    bind_eq_ok.mpr ⟨name, hcreate, by rw [hexists]; rfl⟩
  have hname : ifSent (newNameOf store tenantId) params.name = .ok (some name) := by
    rw [hraw, ifSent, hnew]
    rfl
  have hupdate : ∃ item, settle ((toAggregate old [] []).update (some name) unitOfMeasure
      params.isPerishable call.now) = .ok item := by
    rw [update_toAggregate]
    exact ⟨_, rfl⟩
  obtain ⟨item, hitem⟩ := hupdate
  exact ⟨item, bind_eq_ok.mpr ⟨some name, hname, bind_eq_ok.mpr ⟨cost, hcost,
    bind_eq_ok.mpr ⟨unitOfMeasure, hunit, hitem⟩⟩⟩⟩

/-- `UpdateInventoryItem` leaves the tables alone, or writes the row of the item
    with the name that was sent. -/
theorem update_effect (hinv : TableInv store) (itemId tenantId : Uuid)
    (params : UpdateInventoryItemParams) :
    (Sequential.SameTables store
        ((Operation.updateInventoryItem itemId tenantId params).execute env call store).2 ∧
      ∀ raw, params.name = some raw → updatePasses env store itemId tenantId raw params = false ∨
        ∃ name, InventoryItemName.create raw = .ok name ∧ existsByName store name tenantId = true) ∨
    ∃ row old, Wrote store
        ((Operation.updateInventoryItem itemId tenantId params).execute env call store).2 row ∧
      old ∈ store.items ∧ old.id = row.id ∧ row.id = itemId ∧ old.tenantId = row.tenantId ∧
      row.tenantId = tenantId ∧ (params.name = none → row.name = old.name) ∧
      ∀ raw, params.name = some raw → updatePasses env store itemId tenantId raw params = true ∧
        InventoryItemName.create raw = .ok row.name ∧
          existsByName store row.name tenantId = false := by
  rcases loadItem_cases hinv itemId tenantId with
    ⟨hnone, hload⟩ | ⟨old, hold, hid, htenant, hload⟩
  · left
    have hprepare : (Operation.updateInventoryItem itemId tenantId params).prepare env call store =
        (.error (.inventoryItemNotFound itemId), store) := by
      rw [Operation.prepare, hload]
      rfl
    rw [Operation.execute, hprepare]
    refine ⟨⟨rfl, rfl, rfl⟩, fun raw _ => .inl ?_⟩
    rw [updatePasses, hnone]
    rfl
  have hfound : (store.items.any fun row => row.id = itemId && row.tenantId = tenantId) = true := by
    rw [List.any_eq_true]
    exact ⟨old, hold, by simp [hid, htenant]⟩
  have hsame : Sequential.SameTables store store := ⟨rfl, rfl, rfl⟩
  rw [update_execute hload]
  cases hperform : UpdateInventoryItem.perform env call store tenantId params
      (toAggregate old [] []) with
  | error e =>
    refine .inl ⟨hsame, fun raw hraw => ?_⟩
    by_contra hpasses
    rw [not_or, Bool.not_eq_false, updatePasses] at hpasses
    simp only [Bool.and_eq_true] at hpasses
    obtain ⟨⟨⟨⟨-, hcreate⟩, hcost⟩, hunit⟩, hexists⟩ := hpasses
    obtain ⟨name, hcreate⟩ := isOk_iff.mp hcreate
    have hunused : existsByName store name tenantId = false :=
      Bool.eq_false_of_not_eq_true fun h => hexists ⟨name, hcreate, h⟩
    obtain ⟨item, hitem⟩ := exists_perform hraw hcreate hunused hcost hunit
    rw [hitem] at hperform
    cases hperform
  | ok item =>
    obtain ⟨⟨hitemId, hitemTenant, hsku, hminimum, hbatches, hconfigs⟩, hkept, hsent⟩ :=
      perform_eq_ok hperform
    have haccepts := accepts_update hinv hold hitemId hsku hminimum hbatches hconfigs
    rcases commit_effect hinv hsame hbatches hconfigs with ⟨hrefused, -⟩ | ⟨-, hwrote⟩
    · rw [haccepts] at hrefused
      cases hrefused
    · refine .inr ⟨_, old, hwrote, hold, hitemId.symm, hitemId.trans hid, hitemTenant.symm,
        hitemTenant.trans htenant, hkept, fun raw hraw => ?_⟩
      obtain ⟨hcreate, hexists, hcost, hunit⟩ := hsent raw hraw
      refine ⟨?_, hcreate, hexists⟩
      rw [updatePasses, hfound, hcost, hunit, isOk_iff.mpr ⟨_, hcreate⟩]
      rfl

/-! ## Names in use -/

theorem create_eq_ok_iff {raw : JsString} {name : InventoryItemName} :
    InventoryItemName.create raw = .ok name ↔ name.value = trim raw := by
  have hmin := name.minLength
  have hmax := name.maxLength
  unfold InventoryItemName.create
  constructor
  · intro h
    simp only at h
    split_ifs at h
    rw [← Except.ok.inj h]
  · intro h
    rw [h] at hmin hmax
    simp only [not_lt.mpr hmin, not_lt.mpr hmax, dite_false, Except.ok.injEq]
    cases name
    simp only at h
    simp only [h]

/-- Where an item has the very name, no other has it in other letters. -/
theorem variantInUse_of_exists {own : Option Uuid} {tenantId : Uuid} {name : InventoryItemName}
    (hinv : TableInv store) (hunique : NamesUnique toLowerCase store)
    (hexists : existsByName store name tenantId = true) :
    variantInUse toLowerCase store own tenantId name.value = false := by
  rw [existsByName, List.any_eq_true] at hexists
  obtain ⟨row, hrow, hsame⟩ := hexists
  rw [Bool.and_eq_true, decide_eq_true_iff, decide_eq_true_iff] at hsame
  rw [variantInUse, List.any_eq_false]
  intro other hother hvariant
  simp only [Bool.and_eq_true, decide_eq_true_eq] at hvariant
  obtain ⟨⟨⟨-, htenant⟩, hne⟩, hlower⟩ := hvariant
  have hids : other.id ≠ row.id := by
    intro hid
    obtain rfl : other = row := List.inj_on_of_nodup_map hinv.ids hother hrow hid
    exact hne hsame.1
  exact hunique other hother row hrow hids (htenant.trans hsame.2.symm) (by rw [hlower, hsame.1])

/-- Where no item has the very name, a variant is what keeps the names from
    being unique. -/
theorem variantInUse_eq_false_iff {own : Option Uuid}
    (hexists : existsByName store row.name row.tenantId = false)
    (hown : ∀ other ∈ store.items, some other.id ≠ own ↔ other.id ≠ row.id) :
    variantInUse toLowerCase store own row.tenantId row.name.value = false ↔
      ∀ other ∈ store.items, other.id ≠ row.id → NamedApart toLowerCase other row := by
  rw [existsByName, List.any_eq_false] at hexists
  rw [variantInUse, List.any_eq_false]
  refine forall₂_congr fun other hother => ?_
  have hnot := hexists other hother
  rw [Bool.and_eq_true, decide_eq_true_iff, decide_eq_true_iff, not_and] at hnot
  simp only [Bool.and_eq_true, decide_eq_true_eq, not_and, hown other hother, NamedApart]
  constructor
  · intro h hid htenant
    exact h ⟨⟨hid, htenant⟩, fun hname => hnot hname htenant⟩
  · rintro h ⟨⟨hid, htenant⟩, -⟩
    exact h hid htenant

/-! ## Runs -/

theorem tableInv_next (hinv : TableInv store) (hnext : next env store a = some store') :
    TableInv store' := by
  obtain ⟨call, request⟩ := a
  rw [next] at hnext
  split_ifs at hnext with hfresh
  obtain rfl := Option.some.inj hnext
  cases request with
  | createInventoryItem params =>
    rcases create_effect hinv hfresh params with ⟨hsame, -⟩ | ⟨row, hwrote, -⟩
    · exact hinv.of_sameTables hsame
    · exact hinv.of_wrote hwrote
  | updateInventoryItem itemId tenantId params =>
    rcases update_effect hinv itemId tenantId params with ⟨hsame, -⟩ | ⟨row, old, hwrote, -⟩
    · exact hinv.of_sameTables hsame
    · exact hinv.of_wrote hwrote

/-- A refused name is not a variant: it cannot be stored, or an item has it. -/
theorem refused_not_variant {passes : Bool} {own : Option Uuid} {tenantId : Uuid}
    {raw : JsString} (hinv : TableInv store) (hunique : NamesUnique toLowerCase store)
    (h : passes = false ∨ ∃ name, InventoryItemName.create raw = .ok name ∧
      existsByName store name tenantId = true) :
    (passes && variantInUse toLowerCase store own tenantId (trim raw)) = false := by
  rcases h with hpasses | ⟨name, hcreate, hexists⟩
  · rw [hpasses, Bool.false_and]
  · rw [← create_eq_ok_iff.mp hcreate, variantInUse_of_exists hinv hunique hexists, Bool.and_false]

theorem namesUnique_create_iff (hinv : TableInv store) (hunique : NamesUnique toLowerCase store)
    (hfresh : call.itemId ∉ store.items.map (·.id)) (params : CreateInventoryItemParams) :
    NamesUnique toLowerCase ((Operation.createInventoryItem params).execute env call store).2 ↔
      (createPasses call store params &&
        variantInUse toLowerCase store none params.tenantId (trim params.name)) = false := by
  rcases create_effect hinv hfresh params with
    ⟨hsame, hrefused⟩ | ⟨row, hwrote, hpasses, hid, htenant, hcreate, hexists⟩
  · exact iff_of_true ((namesUnique_of_sameTables hsame).mpr hunique)
      (refused_not_variant hinv hunique hrefused)
  · rw [← htenant] at hexists ⊢
    have hown : ∀ other ∈ store.items, some other.id ≠ none ↔ other.id ≠ row.id := by
      intro other hother
      refine iff_of_true nofun fun hsame => hfresh ?_
      rw [← hid, ← hsame]
      exact List.mem_map_of_mem hother
    rw [hpasses, Bool.true_and, ← create_eq_ok_iff.mp hcreate,
      variantInUse_eq_false_iff hexists hown]
    exact namesUnique_wrote_iff hinv hwrote hunique

theorem namesUnique_update_iff (hinv : TableInv store) (hunique : NamesUnique toLowerCase store)
    (itemId tenantId : Uuid) (params : UpdateInventoryItemParams) :
    NamesUnique toLowerCase
        ((Operation.updateInventoryItem itemId tenantId params).execute env call store).2 ↔
      (params.name.any fun raw => updatePasses env store itemId tenantId raw params &&
        variantInUse toLowerCase store (some itemId) tenantId (trim raw)) = false := by
  rcases update_effect hinv itemId tenantId params with
    ⟨hsame, hrefused⟩ | ⟨row, old, hwrote, hold, holdId, hid, holdTenant, htenant, hkept, hsent⟩
  · refine iff_of_true ((namesUnique_of_sameTables hsame).mpr hunique) ?_
    cases hname : params.name with
    | none => rfl
    | some raw => exact refused_not_variant hinv hunique (hrefused raw hname)
  · rw [namesUnique_wrote_iff hinv hwrote hunique]
    cases hname : params.name with
    | none =>
      -- the row keeps the name of the item
      refine iff_of_true (fun other hother hne hsame => ?_) rfl
      rw [hkept hname]
      exact hunique other hother old hold (fun hids => hne (hids.trans holdId))
        (hsame.trans holdTenant.symm)
    | some raw =>
      obtain ⟨hpasses, hcreate, hexists⟩ := hsent raw hname
      have hown : ∀ other ∈ store.items, some other.id ≠ some itemId ↔ other.id ≠ row.id := by
        intro other _
        rw [Ne, Option.some.injEq, hid]
      rw [← htenant] at hexists
      rw [Option.any_some, hpasses, Bool.true_and, ← create_eq_ok_iff.mp hcreate, ← htenant,
        variantInUse_eq_false_iff hexists hown]

/-- A request keeps the names unique exactly where it sends no variant of the
    name of another item. -/
theorem namesUnique_next_iff (hinv : TableInv store) (hunique : NamesUnique toLowerCase store)
    (hnext : next env store a = some store') :
    NamesUnique toLowerCase store' ↔ sendsVariant env toLowerCase store a = false := by
  obtain ⟨call, request⟩ := a
  rw [next] at hnext
  split_ifs at hnext with hfresh
  obtain rfl := Option.some.inj hnext
  cases request with
  | createInventoryItem params => exact namesUnique_create_iff hinv hunique hfresh params
  | updateInventoryItem itemId tenantId params =>
    exact namesUnique_update_iff hinv hunique itemId tenantId params

/-- The name that an item has is always refused to it. -/
theorem rejected_of_sendsOwnName (hinv : TableInv store)
    (h : sendsOwnName store a.request = true) : rejectedAsDuplicate env store a := by
  obtain ⟨call, request⟩ := a
  cases request with
  | createInventoryItem params => cases h
  | updateInventoryItem itemId tenantId params =>
    obtain ⟨raw, hraw, h⟩ := (Option.any_eq_true _ _).mp h
    rw [List.any_eq_true] at h
    obtain ⟨row, hrow, hown⟩ := h
    simp only [Bool.and_eq_true, decide_eq_true_eq] at hown
    obtain ⟨⟨hid, htenant⟩, hname⟩ := hown
    rcases loadItem_cases hinv itemId tenantId with ⟨hnone, -⟩ | ⟨old, hold, -, -, hload⟩
    · rw [List.any_eq_false] at hnone
      exact absurd (by simp [hid, htenant]) (hnone row hrow)
    have hexists : existsByName store row.name tenantId = true :=
      List.any_eq_true.mpr ⟨row, hrow, by simp [htenant]⟩
    have hnew : newNameOf store tenantId raw = .error (.inventoryItemNameAlreadyExists raw) := by
      rw [newNameOf, create_eq_ok_iff.mpr hname.symm]
      show (if existsByName store row.name tenantId = true then _ else _) = _
      rw [if_pos hexists]
    refine ⟨raw, ?_⟩
    show ((Operation.updateInventoryItem itemId tenantId params).execute env call store).1 = _
    rw [update_execute hload, UpdateInventoryItem.perform, hraw, ifSent, hnew]
    rfl

/-- For every sequential run of the two use cases from an empty inventory: the
    names of each business are unique in every state, and no update that sends an
    item its own name is rejected as a duplicate, exactly as long as no request
    sends a variant of the name of another item or an item its own name. -/
theorem itemNames_unique_iff {tr : List (Transition InventoryStore Action)} {s : InventoryStore}
    (hrun : Run (next env) Sequential.emptyStore tr s) :
    (∀ t ∈ tr, NamesUnique toLowerCase t.post ∧
      (sendsOwnName t.pre t.action.request = true → ¬ rejectedAsDuplicate env t.pre t.action)) ↔
    ∀ t ∈ tr, sendsVariant env toLowerCase t.pre t.action = false ∧
      sendsOwnName t.pre t.action.request = false := by
  have hinit : TableInv Sequential.emptyStore :=
    ⟨List.nodup_nil, List.nodup_nil, fun _ hrow => absurd hrow List.not_mem_nil, rfl, rfl⟩
  have hempty : NamesUnique toLowerCase Sequential.emptyStore :=
    fun _ hrow => absurd hrow List.not_mem_nil
  have hinv : ∀ t ∈ tr, TableInv t.pre := fun t ht =>
    ((hrun.invariant (fun _ _ _ h hnext => tableInv_next h hnext) hinit).2 t ht).1
  have hnames : (∀ t ∈ tr, NamesUnique toLowerCase t.post) ↔
      ∀ t ∈ tr, sendsVariant env toLowerCase t.pre t.action = false :=
    hrun.forall_post_iff (fun _ _ _ h hnext => tableInv_next h hnext)
      (fun _ _ _ h hunique hnext => namesUnique_next_iff h hunique hnext) hinit hempty
  have hown : (∀ t ∈ tr, sendsOwnName t.pre t.action.request = true →
      ¬ rejectedAsDuplicate env t.pre t.action) ↔
      ∀ t ∈ tr, sendsOwnName t.pre t.action.request = false := by
    refine forall₂_congr fun t ht => ?_
    constructor
    · intro h
      rw [Bool.eq_false_iff]
      exact fun hsends => h hsends (rejected_of_sendsOwnName (hinv t ht) hsends)
    · intro h hsends
      rw [h] at hsends
      cases hsends
  rw [forall₂_and, forall₂_and, hnames, hown]

end Requests

/-! ### Two items -/

/-- Create an item, with the `n`-th sample id. -/
def create (n : ℕ) (name : JsString) : Action where
  call := sampleCall n
  request := .createInventoryItem
    { tenantId := sampleTenantId
      name := name
      unitOfMeasure := js "unit"
      isPerishable := false }

/-- Send the `n`-th sample item a name. -/
def rename (n : ℕ) (name : JsString) : Action where
  call := sampleCall 3
  request := .updateInventoryItem (sampleBatchId n) sampleTenantId
    { name := some name
      costAmount := none
      costCurrency := none
      unitOfMeasure := none
      isPerishable := none }

/-- Two names, and then the second in capitals. -/
theorem itemNames_unique_renamed :
    ∃ tr s, exec (next sampleEnv) Sequential.emptyStore
        [create 1 (js "Tomate"), create 2 (js "Cebolla"), rename 2 (js "CEBOLLA")] =
          some (tr, s) ∧
      s.items.map (·.name.value) = [js "Tomate", js "CEBOLLA"] ∧
      ∀ t ∈ tr, NamesUnique toLowerCase t.post ∧
        (sendsOwnName t.pre t.action.request = true →
          ¬ rejectedAsDuplicate sampleEnv t.pre t.action) := by
  obtain ⟨tr, s, hexec, hnames, hguard⟩ :
      ∃ tr s, exec (next sampleEnv) Sequential.emptyStore
          [create 1 (js "Tomate"), create 2 (js "Cebolla"), rename 2 (js "CEBOLLA")] =
            some (tr, s) ∧
        s.items.map (·.name.value) = [js "Tomate", js "CEBOLLA"] ∧
        ∀ t ∈ tr, sendsVariant sampleEnv toLowerCase t.pre t.action = false ∧
          sendsOwnName t.pre t.action.request = false :=
    exists_of_any_exec (by decide +kernel)
  exact ⟨tr, s, hexec, hnames, (itemNames_unique_iff (run_of_exec hexec)).mpr hguard⟩

/-- A second item takes the name of the first in capitals, and then its own name
    is refused to it. -/
theorem not_itemNames_unique :
    (¬ ∀ tr s, Run (next sampleEnv) Sequential.emptyStore tr s →
      ∀ t ∈ tr, NamesUnique toLowerCase t.post) ∧
    ¬ ∀ tr s, Run (next sampleEnv) Sequential.emptyStore tr s → ∀ t ∈ tr,
      sendsOwnName t.pre t.action.request = true →
        ¬ rejectedAsDuplicate sampleEnv t.pre t.action := by
  constructor
  · intro hunique
    obtain ⟨tr, s, hexec, t, ht, row, hrow, other, hother, hid, htenant, hname⟩ :
        ∃ tr s, exec (next sampleEnv) Sequential.emptyStore
            [create 1 (js "Tomate"), create 2 (js "TOMATE")] = some (tr, s) ∧
          ∃ t ∈ tr, ∃ row ∈ t.post.items, ∃ other ∈ t.post.items, row.id ≠ other.id ∧
            row.tenantId = other.tenantId ∧
            toLowerCase row.name.value = toLowerCase other.name.value :=
      exists_of_any_exec (by decide +kernel)
    exact hunique tr s (run_of_exec hexec) t ht row hrow other hother hid htenant hname
  · intro haccepted
    obtain ⟨tr, s, hexec, t, ht, hown, hrejected⟩ :
        ∃ tr s, exec (next sampleEnv) Sequential.emptyStore
            [create 1 (js "Tomate"), rename 1 (js "Tomate")] = some (tr, s) ∧
          ∃ t ∈ tr, sendsOwnName t.pre t.action.request = true ∧
            (t.action.execute sampleEnv t.pre).1 =
              .error (.domain (.inventoryItemNameAlreadyExists (js "Tomate"))) :=
      exists_of_any_exec (by decide +kernel)
    exact haccepted tr s (run_of_exec hexec) t ht hown ⟨_, hrejected⟩

end KomiSaas.Inventory.Names
