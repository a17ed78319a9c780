import KomiSaas.Inventory.UseCases
import KomiSaas.Lib.Flights

/-!
# Interleaved stock operations

Each of `ReceiveStock`, `ConsumeStock`, `RegisterWaste` and `CountStock` takes
two atomic steps on the shared tables: the load, with what is then done in
memory, and the save. Between the two the operation is a `Flight`, which
carries the item as it was loaded and as it will be saved. With the tables goes
the `log` of the events of the operations that were saved.

`save` writes the remaining quantity of every loaded batch, whatever the table
holds by then. The stock stays balanced with the events exactly as long as no
save finds a batch that changed since it was loaded (`balanced_iff`).

* `keeps`: what relates operations in flight, rows and log.
* `balanced_saved_iff`: one save.
-/

namespace KomiSaas.Inventory.Interleaving

open KomiSaas.Lib KomiSaas.Lib.Flights KomiSaas.Shared InventoryItemRepository

/-- The tables, and the events of the operations that were saved. -/
structure LoggedStore where
  store : InventoryStore
  log : List DomainEvent
  deriving DecidableEq

/-- A request with what it finds around it. -/
structure Request where
  call : Call
  operation : StockOperation

/-- An operation between its load and its save: the item as it was loaded, the
    item to save, and the id its call generates for a new batch. -/
structure Flight where
  loaded : InventoryItem
  item : InventoryItem
  batchId : Uuid
  deriving DecidableEq

/-- The load, with what is done in memory before the save. -/
def Request.prepare (env : InventoryEnv) (store : InventoryStore) (request : Request) :
    Except InventoryException Flight := do
  let loaded ← request.operation.load request.call store
  let item ← request.operation.perform env request.call loaded
  .ok ⟨loaded, item, request.call.batchId⟩

/-- The four operations. The id that a call generates is neither stored nor held by an
    operation in flight. -/
def stock (env : InventoryEnv) : System LoggedStore Request Flight Unit where
  enabled logged flights request :=
    request.call.batchId ∉ logged.store.batches.map (·.id) &&
      request.call.batchId ∉ flights.map (·.batchId)
  read logged request := preparing logged (request.prepare env logged.store)
  write logged flight _ :=
    (save logged.store flight.item).map fun store =>
      ⟨store, logged.log ++ flight.item.domainEvents⟩

abbrev StockState := State LoggedStore Flight

abbrev StockAction := Action Request Unit

abbrev StockTransition := Transition StockState StockAction

namespace LoggedStore

/-- What the saved operations reported as taken from a batch, in thousandths. -/
def reported (decimal : DecimalJs) (logged : LoggedStore) (batchId : Uuid) : ℕ :=
  drawnFrom decimal (logged.log.flatMap (·.drawnBatches)) batchId

/-- What is left of every batch is what was received less what was reported. -/
def Balanced (decimal : DecimalJs) (logged : LoggedStore) : Prop :=
  ∀ row ∈ logged.store.batches,
    row.quantityRemaining.milli + logged.reported decimal row.id = row.quantityReceived.milli

instance (decimal : DecimalJs) (logged : LoggedStore) : Decidable (logged.Balanced decimal) :=
  inferInstanceAs (Decidable (∀ row ∈ logged.store.batches, _))

/-- Before the first operation: any items, with batches nothing was taken from. -/
structure Initial (logged : LoggedStore) : Prop where
  keyed : (logged.store.batches.map (·.id)).Nodup
  columns : ∀ row ∈ logged.store.batches, row.fitsColumns = true
  full : ∀ row ∈ logged.store.batches, row.quantityRemaining = row.quantityReceived
  log : logged.log = []

end LoggedStore

/-- A loaded batch has another remaining quantity in the table by now. -/
def Flight.isStale (store : InventoryStore) (flight : Flight) : Bool :=
  flight.loaded.batches.any fun batch => store.batches.any fun row =>
    row.id = batch.id && row.quantityRemaining ≠ batch.quantityRemaining

/-- The action is a save that takes effect, of an operation one of whose loaded
    batches has another remaining quantity in the table by now. -/
def staleSave (env : InventoryEnv) (s : StockState) (a : StockAction) : Bool :=
  (writing (stock env) s a).any (Flight.isStale s.store.store)

variable {env : InventoryEnv} {logged logged' : LoggedStore} {store : InventoryStore}
  {flight : Flight} {request : Request} {s s' : StockState} {a : StockAction}

/-! ## What a step can do -/

/-- What a request takes off with. -/
theorem prepared_of_read {result : Option Flight}
    (h : (stock env).read logged request = (logged', result)) :
    logged' = logged ∧
      ∀ flight, result = some flight → request.prepare env logged.store = .ok flight :=
  prepared_of_preparing h

/-- What a save that takes effect leaves. -/
theorem written_of_write {input : Unit}
    (h : (stock env).write logged flight input = some logged') :
    accepts logged.store flight.item = true ∧
      logged' = ⟨written logged.store flight.item, logged.log ++ flight.item.domainEvents⟩ := by
  obtain ⟨store, hsave, rfl⟩ := Option.map_eq_some_iff.mp h
  obtain ⟨haccepts, rfl⟩ := save_eq_some.mp hsave
  exact ⟨haccepts, rfl⟩

/-! ## Invariants -/

/-- What relates an operation in flight to the tables. -/
structure FlightInv (env : InventoryEnv) (store : InventoryStore) (flight : Flight) : Prop where
  effect : StockEffect env.decimal flight.batchId flight.loaded flight.item
  keyed : (flight.loaded.batches.map (·.id)).Nodup
  rows : ∀ batch ∈ flight.loaded.batches, ∃ row ∈ store.batches,
    row.id = batch.id ∧ row.quantityReceived = batch.quantityReceived
  fresh : flight.batchId ∉ store.batches.map (·.id)
  events : flight.loaded.domainEvents = []

/-- What holds of the tables and the log. -/
structure TableInv (logged : LoggedStore) : Prop where
  keyed : (logged.store.batches.map (·.id)).Nodup
  fits : ∀ row ∈ logged.store.batches, row.quantityRemaining.milli < 10 ^ decimalPrecision
  logged : ∀ batchId ∈ (logged.log.flatMap (·.drawnBatches)).map (·.batchId),
    batchId ∈ logged.store.batches.map (·.id)

/-- What holds in every reachable state: two operations have new batches of their own. -/
abbrev StockInv (env : InventoryEnv) : StockState → Prop :=
  Inv TableInv (fun logged => FlightInv env logged.store) fun flight other =>
    flight.batchId ≠ other.batchId

theorem LoggedStore.Initial.tableInv (h : logged.Initial) : TableInv logged where
  keyed := h.keyed
  fits row hrow := fits_of_fitsColumns (h.columns row hrow)
  logged := by simp [h.log]

namespace FlightInv

/-- The batches that an operation will save: the loaded ones, with what it took
    gone, and the one it received. -/
theorem batches (h : FlightInv env store flight) :
    ∃ details received,
      flight.item.batches = drawAll env.decimal details flight.loaded.batches ++ received ∧
      Drawn env.decimal flight.loaded.batches details ∧
      flight.item.domainEvents.flatMap (·.drawnBatches) = details ∧
      ∀ batch ∈ received, batch.id = flight.batchId ∧
        batch.quantityRemaining = batch.quantityReceived ∧ received = [batch] := by
  obtain ⟨details, received, hbatches, hdrawn, hevents, hreceived⟩ := h.effect.batches
  rw [h.events, List.flatMap_nil, List.nil_append] at hevents
  exact ⟨details, received, hbatches, hdrawn, hevents, hreceived⟩

theorem loaded_id_mem (h : FlightInv env store flight) {batchId : Uuid}
    (hmem : batchId ∈ flight.loaded.batches.map (·.id)) : batchId ∈ store.batches.map (·.id) := by
  obtain ⟨batch, hbatch, rfl⟩ := List.mem_map.mp hmem
  obtain ⟨row, hrow, hid, -⟩ := h.rows batch hbatch
  exact hid ▸ List.mem_map_of_mem hrow

/-- A batch to save is a loaded one with the same received quantity, or the new one. -/
theorem item_batch (h : FlightInv env store flight) {batch : InventoryBatch}
    (hmem : batch ∈ flight.item.batches) :
    (∃ loaded ∈ flight.loaded.batches,
      loaded.id = batch.id ∧ loaded.quantityReceived = batch.quantityReceived) ∨
      batch.id = flight.batchId := by
  obtain ⟨details, received, hbatches, -, -, hreceived⟩ := h.batches
  rw [hbatches] at hmem
  rcases List.mem_append.mp hmem with hmem | hmem
  · obtain ⟨loaded, hloaded, rfl⟩ := List.mem_map.mp hmem
    exact .inl ⟨loaded, hloaded, rfl, rfl⟩
  · exact .inr (hreceived batch hmem).1

theorem item_id_mem (h : FlightInv env store flight) {batchId : Uuid}
    (hmem : batchId ∈ flight.item.batches.map (·.id)) :
    batchId ∈ store.batches.map (·.id) ∨ batchId = flight.batchId := by
  obtain ⟨batch, hbatch, rfl⟩ := List.mem_map.mp hmem
  rcases h.item_batch hbatch with ⟨loaded, hloaded, hid, -⟩ | hid
  · exact .inl (h.loaded_id_mem (hid ▸ List.mem_map_of_mem hloaded))
  · exact .inr hid

theorem nodup_item (h : FlightInv env store flight) : (flight.item.batches.map (·.id)).Nodup := by
  obtain ⟨details, received, hbatches, -, -, hreceived⟩ := h.batches
  rw [hbatches]
  exact nodup_saved h.keyed hreceived fun hmem => h.fresh (h.loaded_id_mem hmem)

/-- Saving keeps the received quantity of a stored batch. -/
theorem received_eq (h : FlightInv env store flight)
    (hkeyed : (store.batches.map (·.id)).Nodup) {batch : InventoryBatch} {row : InventoryBatchRow}
    (hbatch : batch ∈ flight.item.batches) (hrow : row ∈ store.batches) (hid : row.id = batch.id) :
    row.quantityReceived = batch.quantityReceived := by
  rcases h.item_batch hbatch with ⟨loaded, hloaded, hloadedId, hreceived⟩ | hnew
  · obtain ⟨row', hrow', hid', hreceived'⟩ := h.rows loaded hloaded
    have hsame : row' = row := List.inj_on_of_nodup_map hkeyed hrow' hrow
      (hid'.trans (hloadedId.trans hid.symm))
    rw [← hsame, hreceived', hreceived]
  · exact absurd (List.mem_map_of_mem hrow) (hid.trans hnew ▸ h.fresh)

end FlightInv

/-- Another operation's save leaves what a flight needs of the tables. -/
theorem FlightInv.of_save {other : Flight} (hkeyed : (store.batches.map (·.id)).Nodup)
    (h : FlightInv env store flight) (hother : FlightInv env store other)
    (hids : flight.batchId ≠ other.batchId) :
    FlightInv env (written store other.item) flight where
  effect := h.effect
  keyed := h.keyed
  rows batch hbatch := by
    obtain ⟨row, hrow, hid, hreceived⟩ := h.rows batch hbatch
    by_cases hsaved : row.id ∈ other.item.batches.map (·.id)
    · obtain ⟨saved, hmem, hsavedId⟩ := List.mem_map.mp hsaved
      refine ⟨saved.toRow other.item.id, ?_, hsavedId.trans hid, ?_⟩
      · exact (mem_written_batches hother.nodup_item hkeyed).mpr (.inl ⟨saved, hmem, rfl⟩)
      · exact (hother.received_eq hkeyed hmem hrow hsavedId.symm).symm.trans hreceived
    · exact ⟨row, (mem_written_batches hother.nodup_item hkeyed).mpr (.inr ⟨hrow, hsaved⟩), hid,
        hreceived⟩
  fresh hmem := by
    rcases mem_ids_written_batches.mp hmem with hmem | hmem
    · rcases hother.item_id_mem hmem with hmem | hmem
      · exact h.fresh hmem
      · exact hids hmem
    · exact h.fresh hmem
  events := h.events

/-- What a request has in hand when it takes off. -/
theorem flightInv_of_prepare (htable : TableInv logged)
    (hfresh : request.call.batchId ∉ logged.store.batches.map (·.id))
    (h : request.prepare env logged.store = .ok flight) : FlightInv env logged.store flight := by
  obtain ⟨loaded, hload, h⟩ := bind_eq_ok.mp h
  obtain ⟨item, hperform, h⟩ := bind_eq_ok.mp h
  obtain rfl := Except.ok.inj h
  obtain ⟨itemId, tenantId, branchId, hfind⟩ := StockOperation.findById_of_load hload
  have hkeyed := nodup_batches_of_findById hfind htable.keyed
  have hfits : Fits loaded.batches := by
    intro batch hbatch
    obtain ⟨row, hrow, -, rfl⟩ := mem_batches_of_findById hfind hbatch
    exact htable.fits row hrow
  refine ⟨StockOperation.effect_of_perform hkeyed hfits hperform, hkeyed, ?_, hfresh, ?_⟩
  · intro batch hbatch
    obtain ⟨row, hrow, -, rfl⟩ := mem_batches_of_findById hfind hbatch
    exact ⟨row, hrow, rfl, rfl⟩
  · obtain ⟨row, -, -, -, rfl⟩ := findById_eq_some hfind
    rfl

/-- What holds of the tables and the log after a save. -/
theorem tableInv_of_save (htable : TableInv logged) (hinv : FlightInv env logged.store flight)
    (haccepts : accepts logged.store flight.item = true) :
    TableInv ⟨written logged.store flight.item, logged.log ++ flight.item.domainEvents⟩ := by
  obtain ⟨details, received, hbatches, hdrawn, hevents, -⟩ := hinv.batches
  refine ⟨nodup_written_batches htable.keyed, ?_, ?_⟩
  · intro row hrow
    rcases (mem_written_batches hinv.nodup_item htable.keyed).mp hrow with
      ⟨batch, hbatch, rfl⟩ | hrow
    · exact fits_of_accepts haccepts batch hbatch
    · exact htable.fits row hrow.1
  · intro batchId hbatchId
    rw [List.flatMap_append, List.map_append, hevents] at hbatchId
    rcases List.mem_append.mp hbatchId with hold | hnew
    · exact mem_ids_written_batches.mpr (.inr (htable.logged batchId hold))
    · exact mem_ids_written_batches.mpr (.inr (hinv.loaded_id_mem (hdrawn.batchId_mem hnew)))

theorem keeps (env : InventoryEnv) :
    Keeps (stock env) TableInv (fun logged => FlightInv env logged.store) fun flight other =>
      flight.batchId ≠ other.batchId where
  symm h := h.symm
  read htable hread := by
    rw [(prepared_of_read hread).1]
    exact ⟨htable, fun _ h => h⟩
  took htable henabled hread _ := by
    obtain ⟨rfl, hprepared⟩ := prepared_of_read hread
    have hprepare := hprepared _ rfl
    simp only [stock, Bool.and_eq_true, decide_eq_true_eq] at henabled
    obtain ⟨hfresh, hfresh'⟩ := henabled
    refine ⟨flightInv_of_prepare htable hfresh hprepare, fun other hother hsame => ?_⟩
    obtain ⟨_, -, hprepare⟩ := bind_eq_ok.mp hprepare
    obtain ⟨_, -, hprepare⟩ := bind_eq_ok.mp hprepare
    obtain rfl := Except.ok.inj hprepare
    exact hfresh' (List.mem_map.mpr ⟨other, hother, hsame⟩)
  wrote htable hinv hwrite := by
    obtain ⟨haccepts, rfl⟩ := written_of_write hwrite
    exact ⟨tableInv_of_save htable hinv haccepts, fun other hother hids =>
      hother.of_save htable.keyed hinv hids.symm⟩

/-! ## The balance -/

theorem LoggedStore.Initial.balanced (h : logged.Initial) : logged.Balanced env.decimal := by
  intro row hrow
  rw [LoggedStore.reported, h.log, List.flatMap_nil, drawnFrom_nil, Nat.add_zero, h.full row hrow]

/-- The loaded batches of an operation are still as they were. -/
theorem not_isStale_iff : flight.isStale store = false ↔
    ∀ batch ∈ flight.loaded.batches, ∀ row ∈ store.batches,
      row.id = batch.id → row.quantityRemaining = batch.quantityRemaining := by
  rw [Flight.isStale, List.any_eq_false]
  refine forall₂_congr fun batch hbatch => ?_
  rw [Bool.not_eq_true, List.any_eq_false]
  refine forall₂_congr fun row hrow => ?_
  simp

/-- The balance of the row that a loaded batch was read from. -/
theorem FlightInv.balance_loaded {batch : InventoryBatch} {row : InventoryBatchRow}
    (hinv : FlightInv env logged.store flight) (hkeyed : (logged.store.batches.map (·.id)).Nodup)
    (hbalanced : logged.Balanced env.decimal) (hbatch : batch ∈ flight.loaded.batches)
    (hstored : row ∈ logged.store.batches) (hid : row.id = batch.id) :
    row.quantityRemaining.milli + logged.reported env.decimal batch.id =
      batch.quantityReceived.milli := by
  obtain ⟨row', hrow', hid', hreceived'⟩ := hinv.rows batch hbatch
  have hsame : row' = row := List.inj_on_of_nodup_map hkeyed hrow' hstored (hid'.trans hid.symm)
  have hbefore := hbalanced row hstored
  rw [hid, ← hsame, hreceived', hsame] at hbefore
  exact hbefore

/-- A save keeps the balance exactly when it is not stale: it writes what was
    loaded less what is reported, where the table holds what was stored. -/
theorem balanced_saved_iff (htable : TableInv logged) (hinv : FlightInv env logged.store flight)
    (hbalanced : logged.Balanced env.decimal) :
    LoggedStore.Balanced env.decimal
        ⟨written logged.store flight.item, logged.log ++ flight.item.domainEvents⟩ ↔
      flight.isStale logged.store = false := by
  obtain ⟨details, received, hbatches, hdrawn, hevents, hreceived⟩ := hinv.batches
  have hrow : ∀ row, row ∈ (written logged.store flight.item).batches ↔ _ :=
    fun _ => mem_written_batches hinv.nodup_item htable.keyed
  have hreported : ∀ batchId, drawnFrom env.decimal
      ((logged.log ++ flight.item.domainEvents).flatMap (·.drawnBatches)) batchId =
        logged.reported env.decimal batchId + drawnFrom env.decimal details batchId := by
    intro batchId
    rw [List.flatMap_append, hevents, drawnFrom_append]
    rfl
  rw [not_isStale_iff]
  unfold LoggedStore.Balanced LoggedStore.reported
  simp only [hreported]
  constructor
  · intro hafter batch hbatch row hstored hid
    have hsaved : batch.less (drawnFrom env.decimal details batch.id) ∈ flight.item.batches := by
      rw [hbatches]
      exact List.mem_append_left _ (List.mem_map_of_mem hbatch)
    have hbalance := hafter _ ((hrow _).mpr (.inl ⟨_, hsaved, rfl⟩))
    have hbefore := hinv.balance_loaded htable.keyed hbalanced hbatch hstored hid
    have hle := hdrawn.le_remaining hinv.keyed hbatch
    have hmilli : row.quantityRemaining.milli = batch.quantityRemaining.milli := by
      simp only [InventoryBatch.toRow, InventoryBatch.less_remaining, InventoryBatch.less_id,
        InventoryBatch.less_quantityReceived] at hbalance
      omega
    exact congrArg Quantity.mk hmilli
  · intro hcurrent row hwritten
    rcases (hrow row).mp hwritten with ⟨batch, hbatch, rfl⟩ | ⟨hstored, hother⟩
    · rw [hbatches] at hbatch
      rcases List.mem_append.mp hbatch with hbatch | hbatch
      · obtain ⟨loaded, hmem, rfl⟩ := List.mem_map.mp hbatch
        obtain ⟨row, hstored, hid, -⟩ := hinv.rows loaded hmem
        have hsame := congrArg Quantity.milli (hcurrent loaded hmem row hstored hid)
        have hbefore := hinv.balance_loaded htable.keyed hbalanced hmem hstored hid
        have hle := hdrawn.le_remaining hinv.keyed hmem
        simp only [InventoryBatch.toRow, InventoryBatch.less_remaining, InventoryBatch.less_id,
          InventoryBatch.less_quantityReceived]
        omega
      · obtain ⟨hid, hremaining, -⟩ := hreceived batch hbatch
        have hunlogged : logged.reported env.decimal batch.id = 0 :=
          drawnFrom_eq_zero fun hmem => hinv.fresh (hid ▸ htable.logged _ hmem)
        have hundrawn : drawnFrom env.decimal details batch.id = 0 :=
          drawnFrom_eq_zero fun hmem =>
            hinv.fresh (hid ▸ hinv.loaded_id_mem (hdrawn.batchId_mem hmem))
        simp only [InventoryBatch.toRow, hunlogged, hundrawn, hremaining, Nat.add_zero]
    · have hundrawn : drawnFrom env.decimal details row.id = 0 := by
        refine drawnFrom_eq_zero fun hmem => hother ?_
        rw [hbatches, List.map_append, map_id_drawAll]
        exact List.mem_append_left _ (hdrawn.batchId_mem hmem)
      rw [hundrawn, Nat.add_zero]
      exact hbalanced row hstored

/-- A step keeps the balance exactly when it is no stale save. -/
theorem balanced_step_iff (h : StockInv env s) (hbalanced : s.store.Balanced env.decimal)
    (hnext : next (stock env) s a = some s') :
    s'.store.Balanced env.decimal ↔ staleSave env s a = false := by
  have hstore := store_of_next hnext
  rw [staleSave]
  cases hwriting : writing (stock env) s a with
  | none =>
    rw [hwriting] at hstore
    have hsame : s'.store = s.store := by
      rcases hstore with hsame | ⟨request, result, hread⟩
      · exact hsame
      · exact (prepared_of_read hread).1
    rw [hsame]
    exact iff_of_true hbalanced rfl
  | some flight =>
    rw [hwriting] at hstore
    obtain ⟨input, hwrite⟩ := hstore
    obtain ⟨n, hmem⟩ := mem_of_writing hwriting
    rw [(written_of_write hwrite).2]
    exact balanced_saved_iff h.store (h.flights _ hmem) hbalanced

/-- For every interleaving of the four operations: in every state, quiescent or
    not, each batch holds what was received less what the saved operations
    reported as taken, exactly as long as every save that takes effect finds the
    batches it loaded as they were. -/
theorem balanced_iff {first : LoggedStore} {tr : List StockTransition} (h₀ : first.Initial)
    (hrun : Run (next (stock env)) (State.quiet first) tr s) :
    (∀ t ∈ tr, t.post.store.Balanced env.decimal) ↔
      ∀ t ∈ tr, staleSave env t.pre t.action = false :=
  hrun.forall_post_iff (I := StockInv env) (P := fun s => s.store.Balanced env.decimal)
    (G := fun s a => staleSave env s a = false) (fun _ _ _ h hnext => h.step (keeps env) hnext)
    (fun _ _ _ h hbalanced hnext => balanced_step_iff h hbalanced hnext)
    (Inv.quiet h₀.tableInv) h₀.balanced

/-- The sample item before anything was received. -/
def noStock : LoggedStore := ⟨sampleStore, []⟩

theorem noStock_initial : noStock.Initial where
  keyed := List.nodup_nil
  columns _ h := absurd h List.not_mem_nil
  full _ h := absurd h List.not_mem_nil
  log := rfl

/-- Ten units are received, and two operations consume five each, one after the other. -/
def inTurn : List StockAction :=
  [.read 1 ⟨sampleCall 1, sampleReceive (js "10")⟩, .write 1 true (),
    .read 2 ⟨sampleCall 2, sampleConsume (js "5")⟩, .write 2 true (),
    .read 3 ⟨sampleCall 3, sampleConsume (js "5")⟩, .write 3 true ()]

theorem balanced_iff_in_turn :
    ∃ tr s, exec (next (stock sampleEnv)) (State.quiet noStock) inTurn = some (tr, s) ∧
      s.store.store.batches.map (·.quantityRemaining) = [⟨0⟩] ∧
      ∀ t ∈ tr, t.post.store.Balanced plainDecimal := by
  obtain ⟨tr, s, hexec, hremaining, hguard⟩ :
      ∃ tr s, exec (next (stock sampleEnv)) (State.quiet noStock) inTurn = some (tr, s) ∧
        s.store.store.batches.map (·.quantityRemaining) = [⟨0⟩] ∧
        ∀ t ∈ tr, staleSave sampleEnv t.pre t.action = false :=
    exists_of_any_exec (by decide +kernel)
  exact ⟨tr, s, hexec, hremaining, (balanced_iff noStock_initial (run_of_exec hexec)).mpr hguard⟩

/-- Ten units are received, and two operations that consume six each both load
    them before either saves. -/
def race : List StockAction :=
  [.read 1 ⟨sampleCall 1, sampleReceive (js "10")⟩, .write 1 true (),
    .read 2 ⟨sampleCall 2, sampleConsume (js "6")⟩,
    .read 3 ⟨sampleCall 3, sampleConsume (js "6")⟩, .write 2 true (), .write 3 true ()]

/-- Twelve units are reported as consumed, and the table says that four are left. -/
theorem stock_sold_twice :
    ∃ tr s, noStock.Initial ∧ Run (next (stock sampleEnv)) (State.quiet noStock) tr s ∧
      s.flights = [] ∧ ∃ row ∈ s.store.store.batches,
        row.quantityReceived = ⟨10000⟩ ∧ row.quantityRemaining = ⟨4000⟩ ∧
          s.store.reported plainDecimal row.id = 12000 ∧ ¬ s.store.Balanced plainDecimal := by
  obtain ⟨tr, s, hexec, hlanded, row, hrow, h⟩ :
      ∃ tr s, exec (next (stock sampleEnv)) (State.quiet noStock) race = some (tr, s) ∧
        s.flights = [] ∧ ∃ row ∈ s.store.store.batches,
          row.quantityReceived = ⟨10000⟩ ∧ row.quantityRemaining = ⟨4000⟩ ∧
            s.store.reported plainDecimal row.id = 12000 ∧ ¬ s.store.Balanced plainDecimal :=
    exists_of_any_exec (by decide +kernel)
  exact ⟨tr, s, noStock_initial, run_of_exec hexec, hlanded, row, hrow, h⟩

end KomiSaas.Inventory.Interleaving
