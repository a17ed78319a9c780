import KomiSaas.Inventory.Sequential
import KomiSaas.Lib.Flights
import KomiSaas.Lib.Writes

/-!
# The lots in every interleaving

The eight operations that write the inventory, each as two atomic steps: what is
read, with what is then done in memory, and the transaction of `save`.

A `save` overwrites the row of every batch that was loaded, so the stock of an
interleaving may be wrong; but what it overwrites is the remaining quantity alone.
In every interleaving (`lots_keep_identity`):

* no item and no batch disappears;
* an item keeps its id, business, SKU and date of creation, and a batch its item,
  branch, received quantity, unit cost and dates;
* ids and SKUs stay distinct, every batch is of a stored item, and no more remains
  of it than was received.
-/

namespace KomiSaas.Inventory.Lots

open KomiSaas.Lib KomiSaas.Lib.Flights KomiSaas.Shared InventoryItemRepository
open KomiSaas.Inventory.Sequential (Saves sameTables_of_prepare saves_of_prepare)

/-- A request with what it finds around it. -/
structure Request where
  call : Call
  operation : Operation

/-- An operation between its two steps: the item to save, and the id that its call
    would give to a batch. -/
structure Flight where
  operation : Operation
  item : InventoryItem
  batchId : Uuid
  deriving DecidableEq

/-- The requests. The generated ids of a call are in use nowhere. -/
def inventory (env : InventoryEnv) : System InventoryStore Request Flight Unit where
  enabled store flights request :=
    request.call.itemId ∉ store.items.map (·.id) &&
      request.call.itemId ∉ flights.map (·.item.id) &&
      request.call.batchId ∉ store.batches.map (·.id) &&
      request.call.batchId ∉ flights.map (·.batchId)
  read store request :=
    match request.operation.prepare env request.call store with
    | (.error _, store) => (store, none)
    | (.ok item, store) => (store, some ⟨request.operation, item, request.call.batchId⟩)
  write store flight _ := save store flight.item

abbrev LotState := Flights.State InventoryStore Flight

abbrev LotAction := Flights.Action Request Unit

abbrev LotTransition := Transition LotState LotAction

/-- The columns of an item that no operation changes. -/
def itemColumns (row : InventoryItemRow) : Uuid × Uuid × JsString × Instant :=
  (row.id, row.tenantId, row.sku, row.createdAt)

/-- The columns of a batch that no operation changes. -/
def lotColumns (row : InventoryBatchRow) :
    Uuid × Uuid × Uuid × Quantity × Money × Option Instant × JsDate :=
  (row.id, row.inventoryItemId, row.branchId, row.quantityReceived, row.unitCost,
    row.expirationDate, row.receivedAt)

/-- No more remains than was received. -/
def Bounded (row : InventoryBatchRow) : Prop :=
  row.quantityRemaining.milli ≤ row.quantityReceived.milli

variable {env : InventoryEnv} {store store' : InventoryStore} {flight : Flight} {request : Request}
  {item loaded : InventoryItem} {call : Call} {operation : Operation}

/-! ## Invariants -/

/-- The operation stores a new item. -/
def creates (flight : Flight) : Bool :=
  match flight.operation with
  | .createInventoryItem _ => true
  | _ => false

/-- What holds of the tables. -/
structure TableInv (store : InventoryStore) : Prop where
  itemIds : (store.items.map (·.id)).Nodup
  batchIds : (store.batches.map (·.id)).Nodup
  owned : ∀ row ∈ store.batches, row.inventoryItemId ∈ store.items.map (·.id)
  bounded : ∀ row ∈ store.batches, Bounded row
  fits : ∀ row ∈ store.batches, row.quantityRemaining.milli < 10 ^ decimalPrecision
  skus : (store.items.map (·.sku)).Nodup

/-- The batches to save are stored, but perhaps for a new one. -/
structure Held (store : InventoryStore) (batchId : Uuid) (item : InventoryItem) : Prop where
  keyed : (item.batches.map (·.id)).Nodup
  stored : ∀ batch ∈ item.batches,
    lotColumns (batch.toRow item.id) ∈ store.batches.map lotColumns ∨ batch.id = batchId
  bounded : ∀ batch ∈ item.batches, Bounded (batch.toRow item.id)

/-- What holds of an operation in flight. -/
structure FlightInv (store : InventoryStore) (flight : Flight) : Prop where
  held : Held store flight.batchId flight.item
  fresh : flight.batchId ∉ store.batches.map (·.id)
  created : creates flight = true → flight.item.id ∉ store.items.map (·.id)
  kept : creates flight = false → itemColumns flight.item.toRow ∈ store.items.map itemColumns

/-- Two operations have new batches of their own, and a new item is in one only. -/
def Apart (flight other : Flight) : Prop :=
  flight.batchId ≠ other.batchId ∧
    (creates flight = true ∨ creates other = true → flight.item.id ≠ other.item.id)

/-! ## Reading -/

/-- The item that an operation loads keeps these columns. -/
theorem columns_of_prepare (hnew : ∀ params, operation ≠ .createInventoryItem params)
    (h : (operation.prepare env call store).1 = .ok item) :
    itemColumns item.toRow ∈ store.items.map itemColumns := by
  have hloaded : ∀ {itemId tenantId branchId loaded},
      findById store itemId tenantId branchId = some loaded →
        itemColumns item.toRow = itemColumns loaded.toRow →
          itemColumns item.toRow ∈ store.items.map itemColumns := by
    intro itemId tenantId branchId loaded hfind hsame
    obtain ⟨row, hrow, -, -, rfl⟩ := findById_eq_some hfind
    exact List.mem_map.mpr ⟨row, hrow, hsame.symm⟩
  cases operation with
  | stock operation =>
    obtain ⟨loaded, hload, hperform⟩ := bind_eq_ok.mp h
    obtain ⟨itemId, tenantId, branchId, hfind⟩ := StockOperation.findById_of_load hload
    have honly := StockOperation.stockOnly_of_perform hperform
    refine hloaded hfind ?_
    unfold InventoryItem.StockOnly at honly
    rw [honly]
    rfl
  | createInventoryItem params => exact absurd rfl (hnew params)
  | updateInventoryItem itemId tenantId params =>
    obtain ⟨loaded, hload, hperform⟩ := bind_eq_ok.mp h
    obtain ⟨name, -, hperform⟩ := bind_eq_ok.mp hperform
    obtain ⟨cost, -, hperform⟩ := bind_eq_ok.mp hperform
    obtain ⟨unitOfMeasure, -, hperform⟩ := bind_eq_ok.mp hperform
    refine hloaded (loadItem_eq_ok hload) ?_
    have hupdate := settle_eq_ok hperform
    unfold InventoryItem.update at hupdate
    simp only at hupdate
    split_ifs at hupdate
    · cases (Prod.mk.inj hupdate).1
    · cases (Prod.mk.inj hupdate).1
    · cases (Prod.mk.inj hupdate).1
    · rw [← (Prod.mk.inj hupdate).2]
      rfl
  | setGlobalMinimumStock params =>
    obtain ⟨loaded, hload, hperform⟩ := bind_eq_ok.mp h
    obtain ⟨minStock, -, hperform⟩ := bind_eq_ok.mp hperform
    refine hloaded (loadItem_eq_ok hload) ?_
    rw [← Except.ok.inj hperform]
    rfl
  | setBranchMinimumStock params =>
    obtain ⟨loaded, hload, hperform⟩ := bind_eq_ok.mp h
    unfold SetBranchMinimumStock.perform at hperform
    split at hperform
    · cases hperform
    obtain ⟨entries, -, hperform⟩ := bind_eq_ok.mp hperform
    have honly : Sequential.OverridesOnly loaded _ :=
      Sequential.overridesOnly_foldl call.now call.configId entries
    refine hloaded (loadItem_eq_ok hload) ?_
    unfold Sequential.OverridesOnly at honly
    rw [InventoryItem.setMinimumsForBranches_ok (settle_eq_ok hperform), honly]
    rfl

/-- The batches of a loaded item are stored rows. -/
theorem rows_of_findById {itemId tenantId : Uuid} {branchId : Option Uuid}
    (h : findById store itemId tenantId branchId = some loaded) :
    ∀ batch ∈ loaded.batches, batch.toRow loaded.id ∈ store.batches := by
  intro batch hbatch
  have hid : loaded.id = itemId := by
    obtain ⟨row, -, hid, -, rfl⟩ := findById_eq_some h
    exact hid
  obtain ⟨row, hrow, hitem, rfl⟩ := mem_batches_of_findById h hbatch
  have hsame : row.toBatch.toRow loaded.id = row := by
    rw [hid, ← hitem]
    rfl
  rwa [hsame]

theorem held_of_rows {batchId : Uuid} (htable : TableInv store)
    (hkeyed : (item.batches.map (·.id)).Nodup)
    (hrows : ∀ batch ∈ item.batches, batch.toRow item.id ∈ store.batches) :
    Held store batchId item :=
  ⟨hkeyed, fun batch hbatch => .inl (List.mem_map_of_mem (hrows batch hbatch)),
    fun batch hbatch => htable.bounded _ (hrows batch hbatch)⟩

/-- A stock operation takes from loaded batches, or adds the new one. -/
theorem held_of_effect {batchId : Uuid} (htable : TableInv store)
    (hkeyed : (loaded.batches.map (·.id)).Nodup)
    (hrows : ∀ batch ∈ loaded.batches, batch.toRow loaded.id ∈ store.batches)
    (hid : item.id = loaded.id) (hfresh : batchId ∉ store.batches.map (·.id))
    (h : StockEffect env.decimal batchId loaded item) : Held store batchId item := by
  obtain ⟨details, received, hbatches, -, -, hreceived⟩ := h.batches
  have hnew : batchId ∉ loaded.batches.map (·.id) := by
    intro hmem
    obtain ⟨batch, hbatch, rfl⟩ := List.mem_map.mp hmem
    exact hfresh (List.mem_map.mpr ⟨_, hrows batch hbatch, rfl⟩)
  refine ⟨hbatches ▸ nodup_saved hkeyed hreceived hnew, fun batch hbatch => ?_,
    fun batch hbatch => ?_⟩
  · rw [hbatches, List.mem_append] at hbatch
    rcases hbatch with hbatch | hbatch
    · obtain ⟨old, hold, rfl⟩ := List.mem_map.mp hbatch
      refine .inl (List.mem_map.mpr ⟨_, hrows old hold, ?_⟩)
      rw [hid]
      rfl
    · exact .inr (hreceived batch hbatch).1
  · rw [hbatches, List.mem_append] at hbatch
    rcases hbatch with hbatch | hbatch
    · obtain ⟨old, hold, rfl⟩ := List.mem_map.mp hbatch
      exact (Nat.sub_le _ _).trans (htable.bounded _ (hrows old hold))
    · show batch.quantityRemaining.milli ≤ batch.quantityReceived.milli
      rw [(hreceived batch hbatch).2.1]

/-- What a request has in hand when it takes off. -/
theorem held_of_saves (htable : TableInv store) (hfresh : call.batchId ∉ store.batches.map (·.id))
    (h : Saves env call store operation item) : Held store call.batchId item := by
  have hloaded : ∀ {itemId tenantId branchId loaded},
      findById store itemId tenantId branchId = some loaded →
        (loaded.batches.map (·.id)).Nodup ∧
          ∀ batch ∈ loaded.batches, batch.toRow loaded.id ∈ store.batches :=
    fun hfind => ⟨nodup_batches_of_findById hfind htable.batchIds, rows_of_findById hfind⟩
  cases h with
  | created _ hbatches =>
    refine held_of_rows htable ?_ ?_
    · rw [hbatches]
      exact List.nodup_nil
    · rw [hbatches]
      exact fun _ hbatch => absurd hbatch List.not_mem_nil
  | worked hload hperform =>
    obtain ⟨itemId, tenantId, branchId, hfind⟩ := StockOperation.findById_of_load hload
    obtain ⟨hkeyed, hrows⟩ := hloaded hfind
    have honly := StockOperation.stockOnly_of_perform hperform
    exact held_of_effect htable hkeyed hrows honly.sameOverrides.1 hfresh
      (StockOperation.effect_of_perform hkeyed (fun batch hbatch =>
        htable.fits _ (hrows batch hbatch)) hperform)
  | edited _ _ hfind hedited _ =>
    obtain ⟨hkeyed, hrows⟩ := hloaded hfind
    rw [← hedited.batches] at hkeyed hrows
    rw [← hedited.id] at hrows
    exact held_of_rows htable hkeyed hrows

/-- What a read does: it changes no table. -/
theorem read_effect {result : Option Flight}
    (h : (inventory env).read store request = (store', result)) :
    Sequential.SameTables store store' ∧ ∀ flight, result = some flight →
      flight.operation = request.operation ∧ flight.batchId = request.call.batchId ∧
        (request.operation.prepare env request.call store).1 = .ok flight.item := by
  have hsame : Sequential.SameTables store (request.operation.prepare env request.call store).2 :=
    sameTables_of_prepare
  simp only [inventory] at h
  split at h
  · rename_i hprepare
    obtain ⟨rfl, rfl⟩ := Prod.mk.inj h
    rw [hprepare] at hsame
    exact ⟨hsame, fun _ h => by cases h⟩
  · rename_i item prepared hprepare
    obtain ⟨rfl, rfl⟩ := Prod.mk.inj h
    rw [hprepare] at hsame ⊢
    refine ⟨hsame, fun flight hflight => ?_⟩
    obtain rfl := Option.some.inj hflight
    exact ⟨rfl, rfl, rfl⟩

theorem TableInv.of_sameTables (h : TableInv store) (hsame : Sequential.SameTables store store') :
    TableInv store' := by
  obtain ⟨hitems, hbatches, -⟩ := hsame
  constructor
  · exact hitems ▸ h.itemIds
  · exact hbatches ▸ h.batchIds
  · rw [hbatches, hitems]
    exact h.owned
  · exact hbatches ▸ h.bounded
  · exact hbatches ▸ h.fits
  · exact hitems ▸ h.skus

theorem Held.of_batches {batchId : Uuid} (h : Held store batchId item)
    (hsub : store.batches.map lotColumns ⊆ store'.batches.map lotColumns) :
    Held store' batchId item :=
  ⟨h.keyed, fun batch hbatch => (h.stored batch hbatch).imp_left (hsub ·), h.bounded⟩

theorem FlightInv.of_sameTables (h : FlightInv store flight)
    (hsame : Sequential.SameTables store store') : FlightInv store' flight := by
  obtain ⟨hitems, hbatches, -⟩ := hsame
  refine ⟨h.held.of_batches (by rw [hbatches]; exact List.Subset.refl _), ?_, ?_, ?_⟩
  · exact hbatches ▸ h.fresh
  · exact hitems ▸ h.created
  · exact hitems ▸ h.kept

/-- An operation stores a new item exactly where it is a creation. -/
theorem creates_cases (flight : Flight) :
    (∃ params, flight.operation = .createInventoryItem params) ∧ creates flight = true ∨
      (∀ params, flight.operation ≠ .createInventoryItem params) ∧ creates flight = false := by
  obtain ⟨operation, item, batchId⟩ := flight
  cases operation with
  | createInventoryItem params => exact .inl ⟨⟨params, rfl⟩, rfl⟩
  | stock operation => exact .inr ⟨fun _ h => (by cases h), rfl⟩
  | updateInventoryItem itemId tenantId params => exact .inr ⟨fun _ h => (by cases h), rfl⟩
  | setGlobalMinimumStock params => exact .inr ⟨fun _ h => (by cases h), rfl⟩
  | setBranchMinimumStock params => exact .inr ⟨fun _ h => (by cases h), rfl⟩

/-- What an enabled request takes off with. -/
theorem flightInv_of_read (htable : TableInv store)
    (hitem : request.call.itemId ∉ store.items.map (·.id))
    (hbatch : request.call.batchId ∉ store.batches.map (·.id))
    (h : (inventory env).read store request = (store', some flight)) :
    FlightInv store flight ∧ flight.batchId = request.call.batchId ∧
      (creates flight = true → flight.item.id = request.call.itemId) := by
  obtain ⟨-, hprepared⟩ := read_effect h
  obtain ⟨hoperation, hbatchId, hprepare⟩ := hprepared flight rfl
  have hheld := held_of_saves htable hbatch (saves_of_prepare hprepare)
  have hnewId : creates flight = true → flight.item.id = request.call.itemId := by
    intro hcreates
    rcases creates_cases flight with ⟨⟨params, hparams⟩, -⟩ | ⟨-, hnot⟩
    · rw [← hoperation, hparams] at hprepare
      exact (Sequential.saves_of_create hprepare).1
    · cases hnot.symm.trans hcreates
  refine ⟨⟨hbatchId ▸ hheld, hbatchId ▸ hbatch, fun hcreates => ?_, fun hcreates => ?_⟩, hbatchId,
    hnewId⟩
  · rw [hnewId hcreates]
    exact hitem
  · rcases creates_cases flight with ⟨-, hyes⟩ | ⟨hnot, -⟩
    · cases hcreates.symm.trans hyes
    · exact columns_of_prepare (hoperation ▸ hnot) hprepare

/-! ## Writing -/

/-- The item of an operation, as `save` puts it. -/
theorem puts_item (htable : TableInv store) (hflight : FlightInv store flight) :
    Rows.Puts (·.id) store.items (written store flight.item).items flight.item.toRow ∧
      ∀ old ∈ store.items, old.id = flight.item.toRow.id →
        itemColumns old = itemColumns flight.item.toRow := by
  refine ⟨Rows.puts_upsert htable.itemIds, fun old hold hid => ?_⟩
  cases hcreates : creates flight with
  | true => exact absurd (List.mem_map.mpr ⟨old, hold, hid⟩) (hflight.created hcreates)
  | false =>
    obtain ⟨row, hrow, heq⟩ := List.mem_map.mp (hflight.kept hcreates)
    have hsame : row.id = flight.item.toRow.id := congrArg (·.1) heq
    obtain rfl : old = row := List.inj_on_of_nodup_map htable.itemIds hold hrow
      (hid.trans hsame.symm)
    exact heq

/-- Its batches keep their columns. -/
theorem lots_subset (htable : TableInv store) (hflight : FlightInv store flight) :
    store.batches.map lotColumns ⊆ (written store flight.item).batches.map lotColumns := by
  have hkeyed : ((flight.item.batches.map (·.toRow flight.item.id)).map (·.id)).Nodup := by
    rw [map_id_toRow]
    exact hflight.held.keyed
  refine Rows.map_subset_upsertAll hkeyed htable.batchIds fun new hnew old hold hid => ?_
  obtain ⟨batch, hbatch, rfl⟩ := List.mem_map.mp hnew
  rcases hflight.held.stored batch hbatch with hstored | hfresh
  · obtain ⟨row, hrow, heq⟩ := List.mem_map.mp hstored
    have hsame : row.id = batch.id := congrArg (·.1) heq
    obtain rfl : old = row := List.inj_on_of_nodup_map htable.batchIds hold hrow
      (hid.trans hsame.symm)
    exact heq
  · exact absurd (List.mem_map.mpr ⟨old, hold, hid.trans hfresh⟩) hflight.fresh

/-- A batch after a write is one of before, or of the item. -/
theorem mem_batches_written (htable : TableInv store) (hflight : FlightInv store flight)
    {row : InventoryBatchRow} (hrow : row ∈ (written store flight.item).batches) :
    row ∈ store.batches ∨ ∃ batch ∈ flight.item.batches, row = batch.toRow flight.item.id := by
  rcases (mem_written_batches hflight.held.keyed htable.batchIds).mp hrow with hnew | ⟨hold, -⟩
  · exact .inr hnew
  · exact .inl hold

theorem TableInv.written (htable : TableInv store) (hflight : FlightInv store flight)
    (haccepts : accepts store flight.item = true) : TableInv (written store flight.item) := by
  obtain ⟨hputs, -⟩ := puts_item htable hflight
  have hfits := fits_of_accepts haccepts
  constructor
  · exact hputs.keys
  · exact nodup_written_batches htable.batchIds
  · intro row hrow
    rcases mem_batches_written htable hflight hrow with hrow | ⟨batch, -, rfl⟩
    · exact Rows.mem_keys_upsert.mpr (.inr (htable.owned row hrow))
    · exact Rows.mem_keys_upsert.mpr (.inl rfl)
  · intro row hrow
    rcases mem_batches_written htable hflight hrow with hrow | ⟨batch, hbatch, rfl⟩
    · exact htable.bounded row hrow
    · exact hflight.held.bounded batch hbatch
  · intro row hrow
    rcases mem_batches_written htable hflight hrow with hrow | ⟨batch, hbatch, rfl⟩
    · exact htable.fits row hrow
    · exact hfits batch hbatch
  · unfold accepts InventoryStore.meetsConstraints at haccepts
    simp only [Bool.and_eq_true, decide_eq_true_eq] at haccepts
    exact haccepts.2.1

theorem keeps_lots (env : InventoryEnv) : Keeps (inventory env) TableInv FlightInv Apart where
  symm h := ⟨h.1.symm, fun hcreates => (h.2 hcreates.symm).symm⟩
  read htable hread := by
    obtain ⟨hsame, -⟩ := read_effect hread
    exact ⟨htable.of_sameTables hsame, fun _ hflight => hflight.of_sameTables hsame⟩
  took {store request store' flight flights} htable henabled hread hflights := by
    simp only [inventory, Bool.and_eq_true, decide_eq_true_eq] at henabled
    obtain ⟨⟨⟨hitem, hitem'⟩, hbatch⟩, hbatch'⟩ := henabled
    obtain ⟨hflight, hbatchId, hnewId⟩ := flightInv_of_read htable hitem hbatch hread
    refine ⟨hflight.of_sameTables (read_effect hread).1, fun other hother => ⟨fun heq => ?_,
      fun hcreates heq => ?_⟩⟩
    · exact hbatch' (List.mem_map.mpr ⟨other, hother, heq.trans hbatchId⟩)
    · have hold : ¬ creates flight = true := fun hcreates =>
        hitem' (List.mem_map.mpr ⟨other, hother, heq.trans (hnewId hcreates)⟩)
      -- the other one creates an item that this one has stored
      have hnew := (hflights other hother).created (hcreates.resolve_right hold)
      have hkept := hflight.kept (Bool.eq_false_of_not_eq_true hold)
      obtain ⟨row, hrow, hcolumns⟩ := List.mem_map.mp hkept
      have hid : row.id = flight.item.id := congrArg (·.1) hcolumns
      exact hnew (List.mem_map.mpr ⟨row, hrow, hid.trans heq.symm⟩)
  wrote {store flight _ store'} htable hflight hwrite := by
    obtain ⟨haccepts, rfl⟩ := save_eq_some.mp hwrite
    obtain ⟨hputs, hcolumns⟩ := puts_item htable hflight
    refine ⟨htable.written hflight haccepts, fun other hother hapart => ?_⟩
    obtain ⟨hbatches, hitems⟩ := hapart
    refine ⟨hother.held.of_batches (lots_subset htable hflight), fun hmem => ?_,
      fun hcreates => hputs.notMem (hother.created hcreates) (hitems (.inr hcreates)),
      fun hcreates => hputs.map_subset hcolumns (hother.kept hcreates)⟩
    rcases mem_ids_written_batches.mp hmem with hmem | hmem
    · obtain ⟨batch, hbatch, hid⟩ := List.mem_map.mp hmem
      rcases hflight.held.stored batch hbatch with hstored | hnew
      · obtain ⟨row, hrow, heq⟩ := List.mem_map.mp hstored
        have hsame : row.id = batch.id := congrArg (·.1) heq
        exact hother.fresh (List.mem_map.mpr ⟨row, hrow, hsame.trans hid⟩)
      · exact hbatches (hnew.symm.trans hid)
    · exact hother.fresh hmem

/-! ## Runs -/

/-- No step changes the columns that no operation may change. -/
theorem columns_of_next {s s' : LotState} {a : LotAction}
    (hinv : Inv TableInv FlightInv Apart s) (hnext : Flights.next (inventory env) s a = some s') :
    s.store.items.map itemColumns ⊆ s'.store.items.map itemColumns ∧
      s.store.batches.map lotColumns ⊆ s'.store.batches.map lotColumns := by
  have hsame : ∀ {store}, Sequential.SameTables s.store store →
      s.store.items.map itemColumns ⊆ store.items.map itemColumns ∧
        s.store.batches.map lotColumns ⊆ store.batches.map lotColumns := by
    rintro store ⟨hitems, hbatches, -⟩
    rw [hitems, hbatches]
    exact ⟨List.Subset.refl _, List.Subset.refl _⟩
  cases Flights.effect_of_next hnext with
  | ended _ hread => exact hsame (read_effect hread).1
  | took _ hread => exact hsame (read_effect hread).1
  | failed _ _ => exact hsame ⟨rfl, rfl, rfl⟩
  | wrote hflight hwrite =>
    have hinv' := hinv.flights _ (mem_of_flight hflight)
    obtain ⟨-, rfl⟩ := save_eq_some.mp hwrite
    obtain ⟨hputs, hcolumns⟩ := puts_item hinv.store hinv'
    exact ⟨hputs.map_subset hcolumns, lots_subset hinv.store hinv'⟩

theorem tableInv_empty : TableInv Sequential.emptyStore :=
  ⟨List.nodup_nil, List.nodup_nil, fun _ h => absurd h List.not_mem_nil,
    fun _ h => absurd h List.not_mem_nil, fun _ h => absurd h List.not_mem_nil, List.nodup_nil⟩

/-- For every interleaving of any number of the eight operations, from empty tables: no
    item changes its id, business, SKU or date of creation, no batch its item, branch,
    received quantity, unit cost or dates, and none of them disappears; ids and SKUs
    stay distinct; and every batch is of a stored item, with no more left than was
    received. -/
theorem lots_keep_identity {tr : List LotTransition} {s : LotState}
    (hrun : Run (Flights.next (inventory env)) (State.quiet Sequential.emptyStore) tr s) :
    (∀ t ∈ tr, t.pre.store.items.map itemColumns ⊆ t.post.store.items.map itemColumns ∧
      t.pre.store.batches.map lotColumns ⊆ t.post.store.batches.map lotColumns) ∧
      (s.store.items.map (·.id)).Nodup ∧ (s.store.items.map (·.sku)).Nodup ∧
      (s.store.batches.map (·.id)).Nodup ∧
      ∀ row ∈ s.store.batches, row.inventoryItemId ∈ s.store.items.map (·.id) ∧
        row.quantityRemaining.milli ≤ row.quantityReceived.milli := by
  obtain ⟨hinv, hall⟩ := hrun.invariant (fun _ _ _ h hnext => h.step (keeps_lots env) hnext)
    (Inv.quiet tableInv_empty)
  refine ⟨fun t ht => columns_of_next (hall t ht).1 (hrun.next_of_mem ht), hinv.store.itemIds,
    hinv.store.skus, hinv.store.batchIds, fun row hrow =>
      ⟨hinv.store.owned row hrow, hinv.store.bounded row hrow⟩⟩

/-- A new item. -/
def sampleCreate : Request where
  call := { sampleCall 1 with itemId := sampleItemId }
  operation :=
    .createInventoryItem
      { tenantId := sampleTenantId
        name := js "Tomate"
        unitOfMeasure := js "UNIT"
        isPerishable := false }

/-- It receives ten units. Two consumptions are read, and then both are saved. -/
def twoConsumptions : List LotAction :=
  [.read 1 sampleCreate, .write 1 true (),
    .read 2 ⟨sampleCall 2, .stock (sampleReceive (js "10"))⟩, .write 2 true (),
    .read 3 ⟨sampleCall 3, .stock (sampleConsume (js "4"))⟩,
    .read 4 ⟨sampleCall 1, .stock (sampleConsume (js "1"))⟩, .write 3 true (), .write 4 true ()]

/-- One consumption is lost, and the batch is still the one that was received. -/
theorem lots_keep_identity_lost :
    ∃ tr s, exec (Flights.next (inventory sampleEnv)) (State.quiet Sequential.emptyStore)
        twoConsumptions = some (tr, s) ∧
      s.store.batches.map (fun row => (row.id, row.quantityReceived.milli,
        row.quantityRemaining.milli)) = [(sampleBatchId 2, 10000, 9000)] ∧
      (∀ t ∈ tr, t.pre.store.items.map itemColumns ⊆ t.post.store.items.map itemColumns ∧
        t.pre.store.batches.map lotColumns ⊆ t.post.store.batches.map lotColumns) ∧
      (s.store.items.map (·.id)).Nodup ∧ (s.store.items.map (·.sku)).Nodup ∧
      (s.store.batches.map (·.id)).Nodup ∧
      ∀ row ∈ s.store.batches, row.inventoryItemId ∈ s.store.items.map (·.id) ∧
        row.quantityRemaining.milli ≤ row.quantityReceived.milli := by
  obtain ⟨tr, s, hexec, hrows⟩ :
      ∃ tr s, exec (Flights.next (inventory sampleEnv)) (State.quiet Sequential.emptyStore)
          twoConsumptions = some (tr, s) ∧
        s.store.batches.map (fun row => (row.id, row.quantityReceived.milli,
          row.quantityRemaining.milli)) = [(sampleBatchId 2, 10000, 9000)] :=
    exists_of_any_exec (by decide +kernel)
  exact ⟨tr, s, hexec, hrows, lots_keep_identity (run_of_exec hexec)⟩

end KomiSaas.Inventory.Lots
