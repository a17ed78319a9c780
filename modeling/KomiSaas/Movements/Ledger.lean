import KomiSaas.Inventory.UseCases
import KomiSaas.Lib.Run
import KomiSaas.Movements.Handlers

/-!
# The ledger and the batches

One stock operation after another, each with the handlers of its events. The
movements of a batch add up to what is left of it (`ledger_balances`).

* `execute_movementOf`: what is accepted.
* `StockEffect.recorded`: what one operation adds to the ledger.
* `Inv`, `Inv.step`: the sums of every batch.
-/

namespace KomiSaas.Movements

open KomiSaas.Inventory KomiSaas.Lib KomiSaas.Shared InventoryItemRepository

/-! ## Recording in the ledger -/

/-- What recording finds around it: the ids it generates, by the place in the
    ledger, and the clock. -/
structure Recording where
  movementId : ℕ → Uuid
  now : Instant

/-- `RecordMovementUseCase.execute`, with a repository whose `save` does not fail. -/
def recordIn (decimal : DecimalJs) (recording : Recording) (params : RecordMovementParams)
    (ledger : List InventoryMovement) :
    Except InventoryMovementException Unit × List InventoryMovement :=
  let id := recording.movementId ledger.length
  match RecordMovement.execute decimal id recording.now params with
  | .error e => (.error e, ledger)
  | .ok movement => (.ok (), ledger ++ [movement])

/-- `publish` (`event-emitter.publisher.ts`, lines 39–66): a handler that rejects
    does not stop the next event. -/
def publish (decimal : DecimalJs) (recording : Recording) (events : List DomainEvent)
    (ledger : List InventoryMovement) : List InventoryMovement :=
  events.foldl (fun ledger event => (handle (recordIn decimal recording) ledger event).state) ledger

/-- The sum of the movements of a batch that have one of the types, in thousandths. -/
def sumOf (types : List MovementType) (ledger : List InventoryMovement) (batchId : Uuid) : ℕ :=
  ((ledger.filter fun movement => movement.batchId = some batchId ∧
    movement.movementType.value ∈ types.map (·.value)).map (·.quantity.milli)).sum

/-- The types that take stock out. -/
def outTypes : List MovementType := [.consumption, .waste, .adjustmentOut]

variable {decimal : DecimalJs} {recording : Recording} {ledger news : List InventoryMovement}
  {types : List MovementType} {type : MovementType} {tenantId itemId branchId batchId : Uuid}
  {occurredOn : JsDate} {reason : Option JsString} {batch : InventoryBatch} {quantity : Quantity}
  {details : List BatchDetail} {batches : List InventoryBatch}

theorem sumOf_append :
    sumOf types (ledger ++ news) batchId =
      sumOf types ledger batchId + sumOf types news batchId := by
  simp [sumOf]

/-- No movement of a batch, nothing to add up. -/
theorem sumOf_eq_zero (h : ∀ movement ∈ ledger, movement.batchId ≠ some batchId) :
    sumOf types ledger batchId = 0 := by
  have hnone : (ledger.filter fun movement => movement.batchId = some batchId ∧
      movement.movementType.value ∈ types.map (·.value)) = [] := by
    rw [List.filter_eq_nil_iff]
    intro movement hmem hcond
    exact h movement hmem (of_decide_eq_true hcond).1
  rw [sumOf, hnone]
  rfl

/-! ## What is accepted -/

/-- The movement of `quantity` of a batch. -/
structure Records (tenantId itemId branchId : Uuid) (type : MovementType) (batch : InventoryBatch)
    (quantity : Quantity) (movement : InventoryMovement) : Prop where
  tenantId : movement.tenantId = tenantId
  inventoryItemId : movement.inventoryItemId = itemId
  branchId : movement.branchId = branchId
  batchId : movement.batchId = some batch.id
  movementType : movement.movementType = .ofType type
  quantity : movement.quantity = quantity
  unitCost : movement.unitCost = some batch.unitCost

/-- A type that asks for a reason has one. -/
def Explained (type : MovementType) (reason : Option JsString) : Prop :=
  (InventoryMovementType.ofType type).requiresReason = true →
    ∃ text, reason = some text ∧ trim text ≠ []

/-- A positive quantity of a batch is accepted. -/
theorem execute_movementOf (hreason : Explained type reason) (hpos : 0 < quantity.milli) (id : Uuid)
    (now : Instant) :
    ∃ movement, RecordMovement.execute decimal id now
        (movementOf tenantId itemId branchId occurredOn reason type
          (BatchDetail.of decimal batch quantity)) = .ok movement ∧
      Records tenantId itemId branchId type batch quantity movement := by
  have hcost : (movementOf tenantId itemId branchId occurredOn reason type
      (BatchDetail.of decimal batch quantity)).unitCost decimal = .ok (some batch.unitCost) :=
    unitCost_of_getAmount rfl rfl
  exact ⟨_, RecordMovement.execute_eq_ok id now hcost Quantity.of_getValue hpos hreason,
    ⟨rfl, rfl, rfl, rfl, rfl, rfl, rfl⟩⟩

/-- Positive quantities of some batches. -/
def Taken (decimal : DecimalJs) (batches : List InventoryBatch) (details : List BatchDetail) :
    Prop :=
  ∀ detail ∈ details, ∃ batch ∈ batches, ∃ quantity : Quantity,
    0 < quantity.milli ∧ detail = BatchDetail.of decimal batch quantity

/-- The movements of the details, in order. -/
def RecordsAll (decimal : DecimalJs) (tenantId itemId branchId : Uuid) (type : MovementType)
    (batches : List InventoryBatch) (details : List BatchDetail) (news : List InventoryMovement) :
    Prop :=
  List.Forall₂ (fun detail movement => ∃ batch ∈ batches, ∃ quantity : Quantity,
    detail = BatchDetail.of decimal batch quantity ∧
      Records tenantId itemId branchId type batch quantity movement) details news

/-- Every detail becomes a movement of the ledger, in order. -/
theorem attemptAll_recordIn (hreason : Explained type reason) (h : Taken decimal batches details)
    (ledger : List InventoryMovement) :
    ∃ news, attemptAll (recordIn decimal recording)
        (details.map (movementOf tenantId itemId branchId occurredOn reason type)) ledger =
          ⟨[], none, ledger ++ news⟩ ∧
      RecordsAll decimal tenantId itemId branchId type batches details news := by
  induction details generalizing ledger with
  | nil => exact ⟨[], by simp [attemptAll], .nil⟩
  | cons detail details ih =>
    obtain ⟨batch, hbatch, quantity, hpos, rfl⟩ := h detail List.mem_cons_self
    obtain ⟨movement, hexecute, hrecords⟩ : ∃ movement,
        RecordMovement.execute decimal (recording.movementId ledger.length) recording.now
          (movementOf tenantId itemId branchId occurredOn reason type
            (BatchDetail.of decimal batch quantity)) = .ok movement ∧
        Records tenantId itemId branchId type batch quantity movement :=
      execute_movementOf hreason hpos _ _
    obtain ⟨news, hattempt, hnews⟩ := ih (fun d hd => h d (List.mem_cons_of_mem _ hd))
      (ledger ++ [movement])
    refine ⟨movement :: news, ?_, .cons ⟨batch, hbatch, quantity, rfl, hrecords⟩ hnews⟩
    unfold attemptAll at hattempt ⊢
    rw [List.map_cons, List.foldl_cons]
    have hfirst : attempt (recordIn decimal recording) ⟨[], none, ledger⟩
        (movementOf tenantId itemId branchId occurredOn reason type
          (BatchDetail.of decimal batch quantity)) = ⟨[], none, ledger ++ [movement]⟩ := by
      unfold attempt recordIn
      simp only [hexecute]
    rw [hfirst, hattempt, List.append_assoc]
    rfl

theorem value_injective : Function.Injective MovementType.value := by
  intro a b h
  cases a <;> cases b <;> first | rfl | exact absurd h (by decide)

/-- What the new movements add to the sums of a batch. -/
theorem sumOf_news (h : RecordsAll decimal tenantId itemId branchId type batches details news) :
    sumOf types news batchId = if type ∈ types then drawnFrom decimal details batchId else 0 := by
  induction h with
  | nil => simp [sumOf]
  | @cons detail movement details news hfirst _ ih =>
    obtain ⟨batch, hbatch, quantity, rfl, hrecords⟩ := hfirst
    rw [show movement :: news = [movement] ++ news from rfl, sumOf_append, ih, drawnFrom_cons,
      milli_of]
    have hone : sumOf types [movement] batchId =
        if batch.id = batchId ∧ type ∈ types then quantity.milli else 0 := by
      unfold sumOf
      rw [List.filter_singleton]
      simp only [hrecords.batchId, hrecords.movementType, InventoryMovementType.ofType,
        List.mem_map_of_injective value_injective, Option.some.injEq]
      split_ifs with hcond
      · simp [hrecords.quantity, hcond]
      · simp [hcond]
    rw [hone]
    by_cases htype : type ∈ types
    · simp only [htype, and_true, if_true]
      rfl
    · simp [htype]

theorem records_of_mem (h : RecordsAll decimal tenantId itemId branchId type batches details news)
    {movement : InventoryMovement} (hmem : movement ∈ news) :
    ∃ batch ∈ batches, ∃ quantity,
      Records tenantId itemId branchId type batch quantity movement := by
  induction h with
  | nil => simp at hmem
  | cons hfirst _ ih =>
    rcases List.mem_cons.mp hmem with rfl | hmem
    · obtain ⟨batch, hbatch, quantity, -, hrecords⟩ := hfirst
      exact ⟨batch, hbatch, quantity, hrecords⟩
    · exact ih hmem

/-! ## One event -/

/-- `RecordMovementUseCase` takes the movement, whenever it is recorded. -/
def Accepted (decimal : DecimalJs) (params : RecordMovementParams) : Prop :=
  ∀ id now, ∃ movement, RecordMovement.execute decimal id now params = .ok movement

/-- An event whose movements are those of positive quantities of some batches. -/
theorem publish_event (recording : Recording) {event : DomainEvent}
    (hmovements : movementsOf event =
      details.map (movementOf tenantId itemId branchId occurredOn reason type))
    (hreason : Explained type reason) (h : Taken decimal batches details)
    (ledger : List InventoryMovement) :
    (∀ params ∈ movementsOf event, Accepted decimal params) ∧
      ∃ news, publish decimal recording [event] ledger = ledger ++ news ∧
        RecordsAll decimal tenantId itemId branchId type batches details news := by
  constructor
  · intro params hparams id now
    rw [hmovements] at hparams
    obtain ⟨detail, hdetail, rfl⟩ := List.mem_map.mp hparams
    obtain ⟨batch, -, quantity, hpos, rfl⟩ := h detail hdetail
    obtain ⟨movement, hexecute, -⟩ := execute_movementOf hreason hpos id now
    exact ⟨movement, hexecute⟩
  · obtain ⟨news, hattempt, hnews⟩ := attemptAll_recordIn hreason h ledger
    rw [← hmovements] at hattempt
    refine ⟨news, ?_, hnews⟩
    rw [publish, List.foldl_cons, List.foldl_nil, handle_of_no_failure (by rw [hattempt]), hattempt]

/-- The movements of an event that took stock from a branch. -/
theorem movementsOf_drawEvent {item : InventoryItem} {event : DomainEvent}
    (h : InventoryItem.DrawEvent item branchId details event) :
    ∃ occurredOn reason type, type ∈ outTypes ∧ Explained type reason ∧
      movementsOf event =
        details.map (movementOf item.tenantId item.id branchId occurredOn reason type) := by
  cases h with
  | consumed => exact ⟨_, none, .consumption, by decide, fun h => absurd h (by decide), rfl⟩
  | @wasted reason occurredOn hreason =>
    exact ⟨occurredOn, some (trim reason), .waste, by decide,
      fun _ => ⟨trim reason, rfl, (trim_trim reason).symm ▸ hreason⟩, rfl⟩
  | @adjusted reason occurredOn hreason =>
    refine ⟨occurredOn, some (trim reason), .adjustmentOut, by decide,
      fun _ => ⟨trim reason, rfl, (trim_trim reason).symm ▸ hreason⟩, ?_⟩
    have hout : AdjustmentDirection.value .adjustOut ≠ js "IN" := by decide
    simp [movementsOf, adjustmentsOf, Function.comp_def, hout]

/-- What one operation adds to the ledger: what it took from the loaded batches,
    and the batch it received. -/
structure Recorded (decimal : DecimalJs) (batchId : Uuid) (loaded item : InventoryItem)
    (details : List BatchDetail) (received : List InventoryBatch) (news : List InventoryMovement) :
    Prop where
  sameId : item.id = loaded.id
  sameTenant : item.tenantId = loaded.tenantId
  batches : item.batches = drawAll decimal details loaded.batches ++ received
  drawn : Drawn decimal loaded.batches details
  newBatch : ∀ batch ∈ received, batch.id = batchId ∧
    batch.quantityRemaining = batch.quantityReceived ∧ received = [batch]
  entered : ∀ batch ∈ received, sumOf [.entry] news batch.id = batch.quantityReceived.milli
  notEntered : ∀ id ∉ received.map (·.id), sumOf [.entry] news id = 0
  left : ∀ id, sumOf outTypes news id = drawnFrom decimal details id
  described : ∀ movement ∈ news, ∃ batch ∈ loaded.batches ++ received, ∃ quantity type,
    Records loaded.tenantId loaded.id batch.branchId type batch quantity movement
  accepted : ∀ event ∈ item.domainEvents, ∀ params ∈ movementsOf event, Accepted decimal params

variable {loaded item : InventoryItem} {date : JsDate} {event : DomainEvent} {now : Instant}

/-- A reception is one entry of the whole batch. -/
theorem recorded_afterReceipt (hevents : loaded.domainEvents = []) (hid : batch.id = batchId)
    (hremaining : batch.quantityRemaining = batch.quantityReceived)
    (hpos : 0 < batch.quantityReceived.milli) (occurredOn : JsDate) (now : Instant)
    (recording : Recording) (ledger : List InventoryMovement) :
    let item := loaded.afterReceipt batch
      (InventoryItem.receiptEvent decimal loaded batch occurredOn) now
    ∃ news, Recorded decimal batchId loaded item [] [batch] news ∧
      publish decimal recording item.domainEvents ledger = ledger ++ news := by
  intro item
  set event := InventoryItem.receiptEvent decimal loaded batch occurredOn with hevent
  have htaken : Taken decimal [batch] [BatchDetail.of decimal batch batch.quantityReceived] := by
    intro detail hdetail
    exact ⟨batch, List.mem_singleton_self _, batch.quantityReceived, hpos,
      List.mem_singleton.mp hdetail⟩
  have hmovements : movementsOf event =
      [BatchDetail.of decimal batch batch.quantityReceived].map
        (movementOf loaded.tenantId loaded.id batch.branchId occurredOn none .entry) := rfl
  obtain ⟨haccepted, news, hpublish, hnews⟩ := publish_event recording hmovements
    (fun h => absurd h (by decide)) htaken ledger
  have hlist : (loaded.afterReceipt batch event now).domainEvents = [event] := by
    rw [InventoryItem.afterReceipt, hevents]
    rfl
  have hrecorded : Recorded decimal batchId loaded (loaded.afterReceipt batch event now) []
      [batch] news :=
    { sameId := rfl
      sameTenant := rfl
      batches := by
        rw [drawAll_nil]
        rfl
      drawn := ⟨List.nodup_nil, by simp⟩
      newBatch := by
        intro b hb
        rw [List.mem_singleton.mp hb]
        exact ⟨hid, hremaining, rfl⟩
      entered := by
        intro b hb
        rw [List.mem_singleton.mp hb, sumOf_news hnews, if_pos (by decide), drawnFrom_cons,
          milli_of]
        exact if_pos rfl
      notEntered := by
        intro id hother
        rw [sumOf_news hnews, if_pos (by decide)]
        exact drawnFrom_eq_zero hother
      left := by
        intro id
        rw [sumOf_news hnews, if_neg (by decide), drawnFrom_nil]
      described := by
        intro movement hmem
        obtain ⟨b, hb, quantity, hrecords⟩ := records_of_mem hnews hmem
        obtain rfl := List.mem_singleton.mp hb
        exact ⟨b, List.mem_append_right _ hb, quantity, _, hrecords⟩
      accepted := by
        intro e he
        rw [hlist, List.mem_singleton] at he
        rw [he]
        exact haccepted }
  exact ⟨news, hrecorded, by rw [hlist, hpublish]⟩

/-- What was taken from a branch is one movement for each detail. -/
theorem recorded_afterDraw (hevents : loaded.domainEvents = [])
    (hdrawn : Drawn decimal (loaded.activateBatchesOfBranch branchId date) details)
    (hevent : InventoryItem.DrawEvent loaded branchId details event) (now : Instant)
    (batchId : Uuid) (recording : Recording) (ledger : List InventoryMovement) :
    let item := loaded.afterDraw decimal details event now
    ∃ news, Recorded decimal batchId loaded item details [] news ∧
      publish decimal recording item.domainEvents ledger = ledger ++ news := by
  intro item
  obtain ⟨occurredOn, reason, type, htype, hreason, hmovements⟩ := movementsOf_drawEvent hevent
  have htaken : Taken decimal (loaded.activateBatchesOfBranch branchId date) details := by
    intro detail hdetail
    obtain ⟨batch, hbatch, quantity, hpos, -, hof⟩ := hdrawn.taken detail hdetail
    exact ⟨batch, hbatch, quantity, hpos, hof⟩
  obtain ⟨haccepted, news, hpublish, hnews⟩ :=
    publish_event recording hmovements hreason htaken ledger
  have hlist : (loaded.afterDraw decimal details event now).domainEvents = [event] := by
    rw [InventoryItem.afterDraw, hevents]
    rfl
  have hentry : type ∉ [MovementType.entry] := by
    intro h
    rw [List.mem_singleton.mp h] at htype
    exact absurd htype (by decide)
  have hrecorded : Recorded decimal batchId loaded (loaded.afterDraw decimal details event now)
      details [] news :=
    { sameId := rfl
      sameTenant := rfl
      batches := (List.append_nil _).symm
      drawn := hdrawn.mono fun b hb => (List.mem_filter.mp hb).1
      newBatch := by simp
      entered := by simp
      notEntered := by
        intro id _
        rw [sumOf_news hnews, if_neg hentry]
      left := by
        intro id
        rw [sumOf_news hnews, if_pos htype]
      described := by
        intro movement hmem
        obtain ⟨b, hb, quantity, hrecords⟩ := records_of_mem hnews hmem
        obtain ⟨hloaded, hactive⟩ := List.mem_filter.mp hb
        have hbranch : b.branchId = branchId :=
          of_decide_eq_true (Bool.and_eq_true_iff.mp hactive).1
        rw [← hbranch] at hrecords
        exact ⟨b, List.mem_append_left _ hloaded, quantity, type, hrecords⟩
      accepted := by
        intro e he
        rw [hlist, List.mem_singleton] at he
        rw [he]
        exact haccepted }
  exact ⟨news, hrecorded, by rw [hlist, hpublish]⟩

theorem StockEffect.recorded (h : StockEffect decimal batchId loaded item)
    (hevents : loaded.domainEvents = []) (recording : Recording)
    (ledger : List InventoryMovement) :
    ∃ details received news, Recorded decimal batchId loaded item details received news ∧
      publish decimal recording item.domainEvents ledger = ledger ++ news := by
  cases h with
  | @received batch occurredOn now hid hremaining hpos =>
    exact ⟨[], [batch],
      recorded_afterReceipt hevents hid hremaining hpos occurredOn now recording ledger⟩
  | @drawn branchId date details event now hdrawn hevent =>
    exact ⟨details, [], recorded_afterDraw hevents hdrawn hevent now batchId recording ledger⟩

/-! ## Runs -/

/-- The tables of the inventory, the ledger, and the events published so far. -/
structure State where
  store : InventoryStore
  ledger : List InventoryMovement
  events : List DomainEvent
  deriving DecidableEq

/-- A stock operation, and whether the database commits its `save`. -/
structure Action where
  call : Call
  operation : StockOperation
  commits : Bool
  recording : Recording

/-- A whole operation, with the handlers of its events. Its new id is not in use. -/
def next (env : InventoryEnv) (s : State) (a : Action) : Option State :=
  if a.call.batchId ∈ s.store.batches.map (·.id) then none
  else if !a.commits then some s
  else
    match (Operation.stock a.operation).execute env a.call s.store with
    | (.error _, store) => some { s with store := store }
    | (.ok events, store) =>
      some
        { store := store
          ledger := publish env.decimal a.recording events s.ledger
          events := s.events ++ events }

/-- The tenant of an item. -/
def tenantOf (store : InventoryStore) (itemId : Uuid) : Option Uuid :=
  (Rows.find (·.id) itemId store.items).map (·.tenantId)

/-- The row of a batch and the movements of the batch say the same. -/
structure BatchBalanced (s : State) (row : InventoryBatchRow) : Prop where
  bounded : row.quantityRemaining.milli ≤ row.quantityReceived.milli
  balanced : (row.quantityRemaining.milli : ℤ) =
    sumOf [.entry] s.ledger row.id - sumOf outTypes s.ledger row.id
  described : ∀ movement ∈ s.ledger, movement.batchId = some row.id →
    movement.inventoryItemId = row.inventoryItemId ∧
      tenantOf s.store row.inventoryItemId = some movement.tenantId ∧
      movement.branchId = row.branchId ∧ movement.unitCost = some row.unitCost

/-- Every movement of every event was accepted, and every batch is balanced. -/
structure Balanced (decimal : DecimalJs) (s : State) : Prop where
  accepted : ∀ event ∈ s.events, ∀ params ∈ movementsOf event, Accepted decimal params
  batches : ∀ row ∈ s.store.batches, BatchBalanced s row

/-- Before the first operation: any items, with distinct ids and without batches. -/
structure Initial (s : State) : Prop where
  items : (s.store.items.map (·.id)).Nodup
  batches : s.store.batches = []
  ledger : s.ledger = []
  events : s.events = []

/-- Everything an operation can do. -/
inductive Effect (env : InventoryEnv) (s : State) (a : Action) : State → Prop
  | rejected : Effect env s a s
  | completed {loaded item : InventoryItem} :
      a.call.batchId ∉ s.store.batches.map (·.id) →
      a.operation.load a.call s.store = .ok loaded →
      a.operation.perform env a.call loaded = .ok item → accepts s.store item = true →
      Effect env s a
        { store := written s.store item
          ledger := publish env.decimal a.recording item.domainEvents s.ledger
          events := s.events ++ item.domainEvents }

variable {env : InventoryEnv} {s s' : State} {a : Action}

theorem effect_of_next (h : next env s a = some s') : Effect env s a s' := by
  unfold next at h
  split_ifs at h with hfresh hcommits
  · rw [← Option.some.inj h]
    exact .rejected
  unfold Operation.execute Operation.prepare at h
  cases hitem : (a.operation.load a.call s.store).bind fun item =>
      a.operation.perform env a.call item with
  | error e =>
    simp only [hitem] at h
    rw [← Option.some.inj h]
    exact .rejected
  | ok item =>
    simp only [hitem] at h
    obtain ⟨loaded, hload, hperform⟩ := bind_eq_ok.mp hitem
    unfold Operation.commit at h
    cases hsave : save s.store item with
    | none =>
      simp only [hsave] at h
      rw [← Option.some.inj h]
      exact .rejected
    | some store =>
      obtain ⟨haccepts, rfl⟩ := save_eq_some.mp hsave
      simp only [hsave] at h
      rw [← Option.some.inj h]
      exact .completed hfresh hload hperform haccepts

/-! ## The sums of every batch -/

/-- What holds in every reachable state. -/
structure Inv (env : InventoryEnv) (s : State) : Prop where
  keyed : (s.store.batches.map (·.id)).Nodup
  items : (s.store.items.map (·.id)).Nodup
  fits : ∀ row ∈ s.store.batches, row.quantityRemaining.milli < 10 ^ decimalPrecision
  known : ∀ movement ∈ s.ledger, ∀ batchId, movement.batchId = some batchId →
    batchId ∈ s.store.batches.map (·.id)
  entered : ∀ row ∈ s.store.batches, sumOf [.entry] s.ledger row.id = row.quantityReceived.milli
  left : ∀ row ∈ s.store.batches,
    row.quantityRemaining.milli + sumOf outTypes s.ledger row.id = row.quantityReceived.milli
  described : ∀ row ∈ s.store.batches, ∀ movement ∈ s.ledger, movement.batchId = some row.id →
    movement.inventoryItemId = row.inventoryItemId ∧
      tenantOf s.store row.inventoryItemId = some movement.tenantId ∧
      movement.branchId = row.branchId ∧ movement.unitCost = some row.unitCost
  accepted : ∀ event ∈ s.events, ∀ params ∈ movementsOf event, Accepted env.decimal params

theorem Initial.inv (h : Initial s) : Inv env s where
  keyed := by simp [h.batches]
  items := h.items
  fits := by simp [h.batches]
  known := by simp [h.ledger]
  entered := by simp [h.batches]
  left := by simp [h.batches]
  described := by simp [h.batches]
  accepted := by simp [h.events]

theorem Inv.balanced (h : Inv env s) : Balanced env.decimal s where
  accepted := h.accepted
  batches row hrow := by
    have hentered := h.entered row hrow
    have hleft := h.left row hrow
    exact ⟨by omega, by omega, h.described row hrow⟩

/-- The item that an operation loaded, as rows of the tables. -/
structure LoadedFrom (store : InventoryStore) (loaded : InventoryItem) : Prop where
  keyed : (loaded.batches.map (·.id)).Nodup
  rows : ∀ batch ∈ loaded.batches, ∃ row ∈ store.batches,
    row.inventoryItemId = loaded.id ∧ batch = row.toBatch
  tenant : tenantOf store loaded.id = some loaded.tenantId
  events : loaded.domainEvents = []

theorem Inv.loadedFrom (h : Inv env s) {loaded : InventoryItem}
    (hload : a.operation.load a.call s.store = .ok loaded) : LoadedFrom s.store loaded := by
  obtain ⟨itemId, tenantId, branchId, hfind⟩ := StockOperation.findById_of_load hload
  obtain ⟨itemRow, hitemRow, rfl, rfl, hloaded⟩ := findById_eq_some hfind
  have hid : loaded.id = itemRow.id := by rw [hloaded]; rfl
  refine ⟨nodup_batches_of_findById hfind h.keyed, ?_, ?_, by rw [hloaded]; rfl⟩
  · intro batch hbatch
    rw [hid]
    exact mem_batches_of_findById hfind hbatch
  · rw [hid, tenantOf, Rows.find_of_mem h.items hitemRow, hloaded]
    rfl

variable {store : InventoryStore} {received : List InventoryBatch}

theorem LoadedFrom.id_mem (h : LoadedFrom store loaded) {id : Uuid}
    (hmem : id ∈ loaded.batches.map (·.id)) : id ∈ store.batches.map (·.id) := by
  obtain ⟨batch, hbatch, rfl⟩ := List.mem_map.mp hmem
  obtain ⟨row, hrow, -, rfl⟩ := h.rows batch hbatch
  exact List.mem_map_of_mem hrow

namespace Recorded

/-- The ids of the saved item: the loaded ones, and that of the new batch. -/
theorem map_id (h : Recorded decimal batchId loaded item details received news) :
    item.batches.map (·.id) = loaded.batches.map (·.id) ++ received.map (·.id) := by
  rw [h.batches, List.map_append, map_id_drawAll]

theorem fresh (h : Recorded decimal batchId loaded item details received news)
    (hfresh : batchId ∉ store.batches.map (·.id)) {id : Uuid}
    (hmem : id ∈ received.map (·.id)) : id ∉ store.batches.map (·.id) := by
  obtain ⟨batch, hbatch, rfl⟩ := List.mem_map.mp hmem
  rw [(h.newBatch batch hbatch).1]
  exact hfresh

theorem nodup (h : Recorded decimal batchId loaded item details received news)
    (hloaded : LoadedFrom store loaded) (hfresh : batchId ∉ store.batches.map (·.id)) :
    (item.batches.map (·.id)).Nodup := by
  rw [h.batches]
  exact nodup_saved hloaded.keyed h.newBatch fun hmem => hfresh (hloaded.id_mem hmem)

/-- The rows after the save: a loaded one less what was taken, the new one, or
    one the operation did not touch. -/
theorem row_cases (h : Recorded decimal batchId loaded item details received news)
    (hloaded : LoadedFrom store loaded) (hkeyed : (store.batches.map (·.id)).Nodup)
    (hfresh : batchId ∉ store.batches.map (·.id)) {row : InventoryBatchRow}
    (hrow : row ∈ (written store item).batches) :
    (∃ old ∈ store.batches, old.toBatch ∈ loaded.batches ∧ old.inventoryItemId = loaded.id ∧
      row = (old.toBatch.less (drawnFrom decimal details old.id)).toRow loaded.id) ∨
    (∃ batch ∈ received, row = batch.toRow loaded.id) ∨
    (row ∈ store.batches ∧ row.id ∉ loaded.batches.map (·.id) ∧ row.id ∉ received.map (·.id)) := by
  rcases (mem_written_batches (h.nodup hloaded hfresh) hkeyed).mp hrow with
    ⟨batch, hbatch, rfl⟩ | ⟨hold, hother⟩
  · rw [h.batches] at hbatch
    rw [h.sameId]
    rcases List.mem_append.mp hbatch with hbatch | hbatch
    · obtain ⟨b, hb, rfl⟩ := List.mem_map.mp hbatch
      obtain ⟨old, hold, hitem, rfl⟩ := hloaded.rows b hb
      exact .inl ⟨old, hold, hb, hitem, rfl⟩
    · exact .inr (.inl ⟨batch, hbatch, rfl⟩)
  · rw [h.map_id, List.mem_append, not_or] at hother
    exact .inr (.inr ⟨hold, hother⟩)

/-- The batch of a new movement. -/
theorem batch_of_new (h : Recorded decimal batchId loaded item details received news)
    {movement : InventoryMovement} (hmem : movement ∈ news) {id : Uuid}
    (hid : movement.batchId = some id) :
    ∃ batch ∈ loaded.batches ++ received, batch.id = id ∧ ∃ quantity type,
      Records loaded.tenantId loaded.id batch.branchId type batch quantity movement := by
  obtain ⟨batch, hbatch, quantity, type, hrecords⟩ := h.described movement hmem
  refine ⟨batch, hbatch, ?_, quantity, type, hrecords⟩
  rw [hrecords.batchId] at hid
  exact Option.some.inj hid

/-- Nothing is taken from a batch that was not loaded. -/
theorem drawnFrom_of_not_mem (h : Recorded decimal batchId loaded item details received news)
    {id : Uuid} (hid : id ∉ loaded.batches.map (·.id)) : drawnFrom decimal details id = 0 :=
  drawnFrom_eq_zero fun hmem => hid (h.drawn.batchId_mem hmem)

end Recorded

/-- A save leaves the tenant of every item. -/
theorem tenantOf_written (h : tenantOf store item.id = some item.tenantId) (id : Uuid) :
    tenantOf (written store item) id = tenantOf store id := by
  have hfind : Rows.find (·.id) id (Rows.upsert (·.id) item.toRow store.items) = _ :=
    Rows.find_upsert
  unfold tenantOf written
  rw [hfind]
  split_ifs with hid
  · have hsame : item.id = id := hid
    rw [hsame] at h
    exact h.symm
  · rfl

/-- A batch that is not stored has no movements. -/
theorem Inv.sumOf_unknown (h : Inv env s) {id : Uuid} (hid : id ∉ s.store.batches.map (·.id)) :
    sumOf types s.ledger id = 0 :=
  sumOf_eq_zero fun movement hmem hbatchId => hid (h.known movement hmem id hbatchId)

section Completed

variable (h : Inv env s) (hloaded : LoadedFrom s.store loaded)
  (hfresh : batchId ∉ s.store.batches.map (·.id))
  (hrecorded : Recorded env.decimal batchId loaded item details received news)

include h hloaded hfresh hrecorded

theorem entered_completed : ∀ row ∈ (written s.store item).batches,
    sumOf [.entry] (s.ledger ++ news) row.id = row.quantityReceived.milli := by
  intro row hrow
  rw [sumOf_append]
  rcases hrecorded.row_cases hloaded h.keyed hfresh hrow with
    ⟨old, hold, -, -, rfl⟩ | ⟨batch, hbatch, rfl⟩ | ⟨hold, -, hother⟩
  · have hother : old.id ∉ received.map (·.id) := fun hmem =>
      hrecorded.fresh hfresh hmem (List.mem_map_of_mem hold)
    exact (congrArg₂ (· + ·) (h.entered old hold) (hrecorded.notEntered _ hother)).trans
      (Nat.add_zero _)
  · have hnew : batch.id ∉ s.store.batches.map (·.id) :=
      hrecorded.fresh hfresh (List.mem_map_of_mem hbatch)
    exact (congrArg₂ (· + ·) (h.sumOf_unknown hnew) (hrecorded.entered batch hbatch)).trans
      (Nat.zero_add _)
  · rw [h.entered row hold, hrecorded.notEntered _ hother, Nat.add_zero]

theorem left_completed : ∀ row ∈ (written s.store item).batches,
    row.quantityRemaining.milli + sumOf outTypes (s.ledger ++ news) row.id =
      row.quantityReceived.milli := by
  intro row hrow
  rw [sumOf_append, hrecorded.left]
  rcases hrecorded.row_cases hloaded h.keyed hfresh hrow with
    ⟨old, hold, hmem, -, rfl⟩ | ⟨batch, hbatch, rfl⟩ | ⟨hold, hunloaded, -⟩
  · have hbefore := h.left old hold
    have hle : drawnFrom env.decimal details old.id ≤ old.quantityRemaining.milli :=
      hrecorded.drawn.le_remaining hloaded.keyed hmem
    show old.quantityRemaining.milli - drawnFrom env.decimal details old.id +
      (sumOf outTypes s.ledger old.id + drawnFrom env.decimal details old.id) =
        old.quantityReceived.milli
    omega
  · have hnew : batch.id ∉ s.store.batches.map (·.id) :=
      hrecorded.fresh hfresh (List.mem_map_of_mem hbatch)
    have hunknown : sumOf outTypes s.ledger batch.id = 0 := h.sumOf_unknown hnew
    have hundrawn := hrecorded.drawnFrom_of_not_mem fun hmem => hnew (hloaded.id_mem hmem)
    show batch.quantityRemaining.milli +
      (sumOf outTypes s.ledger batch.id + drawnFrom env.decimal details batch.id) =
        batch.quantityReceived.milli
    rw [hunknown, hundrawn, (hrecorded.newBatch batch hbatch).2.1, Nat.add_zero]
  · have hbefore := h.left row hold
    rw [hrecorded.drawnFrom_of_not_mem hunloaded]
    exact hbefore

theorem described_completed : ∀ row ∈ (written s.store item).batches,
    ∀ movement ∈ s.ledger ++ news, movement.batchId = some row.id →
      movement.inventoryItemId = row.inventoryItemId ∧
        tenantOf (written s.store item) row.inventoryItemId = some movement.tenantId ∧
        movement.branchId = row.branchId ∧ movement.unitCost = some row.unitCost := by
  intro row hrow movement hmem hid
  have htenant : tenantOf s.store item.id = some item.tenantId := by
    rw [hrecorded.sameId, hrecorded.sameTenant]
    exact hloaded.tenant
  rw [tenantOf_written htenant]
  rcases hrecorded.row_cases hloaded h.keyed hfresh hrow with
    ⟨old, hold, hmemOld, hitem, rfl⟩ | ⟨batch, hbatch, rfl⟩ | ⟨hold, hunloaded, hother⟩
  · rcases List.mem_append.mp hmem with hmem | hmem
    · have hbefore := h.described old hold movement hmem hid
      rw [hitem] at hbefore
      exact hbefore
    · obtain ⟨b, hb, hbid, quantity, type, hrecords⟩ := hrecorded.batch_of_new hmem hid
      have hbold : b.id = old.id := hbid
      have hsame : b = old.toBatch := by
        rcases List.mem_append.mp hb with hb | hb
        · exact List.inj_on_of_nodup_map hloaded.keyed hb hmemOld hbold
        · exact absurd (hbold ▸ List.mem_map_of_mem hold)
            (hrecorded.fresh hfresh (List.mem_map_of_mem hb))
      rw [hsame] at hrecords
      refine ⟨hrecords.inventoryItemId, ?_, hrecords.branchId, hrecords.unitCost⟩
      rw [hrecords.tenantId]
      exact hloaded.tenant
  · have hnew : batch.id ∉ s.store.batches.map (·.id) :=
      hrecorded.fresh hfresh (List.mem_map_of_mem hbatch)
    rcases List.mem_append.mp hmem with hmem | hmem
    · exact absurd (h.known movement hmem _ hid) hnew
    · obtain ⟨b, hb, hbid, quantity, type, hrecords⟩ := hrecorded.batch_of_new hmem hid
      have hsame : b = batch := by
        rcases List.mem_append.mp hb with hb | hb
        · exact absurd (hloaded.id_mem (List.mem_map_of_mem hb)) (hbid ▸ hnew)
        · rw [(hrecorded.newBatch batch hbatch).2.2] at hb
          exact List.mem_singleton.mp hb
      rw [hsame] at hrecords
      refine ⟨hrecords.inventoryItemId, ?_, hrecords.branchId, hrecords.unitCost⟩
      rw [hrecords.tenantId]
      exact hloaded.tenant
  · rcases List.mem_append.mp hmem with hmem | hmem
    · exact h.described row hold movement hmem hid
    · obtain ⟨b, hb, hbid, -⟩ := hrecorded.batch_of_new hmem hid
      rcases List.mem_append.mp hb with hb | hb
      · exact absurd (hbid ▸ List.mem_map_of_mem hb) hunloaded
      · exact absurd (hbid ▸ List.mem_map_of_mem hb) hother

end Completed

theorem Inv.step (h : Inv env s) (hnext : next env s a = some s') : Inv env s' := by
  cases effect_of_next hnext with
  | rejected => exact h
  | @completed loaded item hfresh hload hperform haccepts =>
    have hloaded := h.loadedFrom hload
    have hfits : Fits loaded.batches := by
      intro batch hbatch
      obtain ⟨row, hrow, -, rfl⟩ := hloaded.rows batch hbatch
      exact h.fits row hrow
    have heffect := StockOperation.effect_of_perform hloaded.keyed hfits hperform
    obtain ⟨details, received, news, hrecorded, hpublish⟩ :=
      StockEffect.recorded heffect hloaded.events a.recording s.ledger
    rw [hpublish]
    refine ⟨nodup_written_batches h.keyed, Rows.nodup_keys_upsert h.items, ?_, ?_,
      entered_completed h hloaded hfresh hrecorded, left_completed h hloaded hfresh hrecorded,
      described_completed h hloaded hfresh hrecorded, ?_⟩
    · intro row hrow
      rcases (mem_written_batches (hrecorded.nodup hloaded hfresh) h.keyed).mp hrow with
        ⟨batch, hbatch, rfl⟩ | hrow
      · exact fits_of_accepts haccepts batch hbatch
      · exact h.fits row hrow.1
    · intro movement hmem id hid
      rcases List.mem_append.mp hmem with hmem | hmem
      · exact mem_ids_written_batches.mpr (.inr (h.known movement hmem id hid))
      · obtain ⟨b, hb, hbid, -⟩ := hrecorded.batch_of_new hmem hid
        refine mem_ids_written_batches.mpr (.inl ?_)
        rw [hrecorded.map_id, ← List.map_append, ← hbid]
        exact List.mem_map_of_mem hb
    · intro event hevent
      rcases List.mem_append.mp hevent with hevent | hevent
      · exact h.accepted event hevent
      · exact hrecorded.accepted event hevent

/-- For every run of the four operations, whatever they reject: every movement of
    every event is accepted, and after each operation every batch holds what its
    entries less its other movements add up to. -/
theorem ledger_balances {s₀ : State} {tr : List (Transition State Action)} (h₀ : Initial s₀)
    (hrun : Run (next env) s₀ tr s) :
    Balanced env.decimal s ∧ ∀ t ∈ tr, Balanced env.decimal t.post := by
  obtain ⟨hend, hsteps⟩ :=
    hrun.invariant (I := Inv env) (fun _ _ _ h hnext => h.step hnext) h₀.inv
  exact ⟨hend.balanced, fun t ht => (hsteps t ht).2.balanced⟩

/-- The sample item before anything was received. -/
def noStock : State := ⟨sampleStore, [], []⟩

theorem noStock_initial : Initial noStock where
  items := by decide +kernel
  batches := rfl
  ledger := rfl
  events := rfl

/-- Ten units are received, four consumed, one lost, and three counted. -/
def sampleDay : List Action :=
  let operations : List (ℕ × StockOperation) :=
    [(1, sampleReceive (js "10")),
      (2, sampleConsume (js "4")),
      (3, .registerWaste
        { itemId := sampleItemId
          tenantId := sampleTenantId
          branchId := sampleBranchId 1
          quantity := js "1"
          reason := js " caducado "
          occurredAt := none }),
      (3, .countStock
        { itemId := sampleItemId
          tenantId := sampleTenantId
          branchId := sampleBranchId 1
          actualTotal := js "3"
          reason := js "conteo"
          occurredAt := none })]
  operations.map fun (n, operation) =>
    { call := sampleCall n
      operation := operation
      commits := true
      recording := ⟨fun place => natText place, 1000⟩ }

theorem ledger_balances_day :
    ∃ tr s, exec (next sampleEnv) noStock sampleDay = some (tr, s) ∧
      s.store.batches.map (·.quantityRemaining) = [⟨3000⟩] ∧
      s.ledger.map (·.quantity) = [⟨10000⟩, ⟨4000⟩, ⟨1000⟩, ⟨2000⟩] ∧
      ∀ t ∈ tr, Balanced plainDecimal t.post := by
  obtain ⟨tr, s, hexec, hremaining, hledger⟩ :
      ∃ tr s, exec (next sampleEnv) noStock sampleDay = some (tr, s) ∧
        s.store.batches.map (·.quantityRemaining) = [⟨3000⟩] ∧
        s.ledger.map (·.quantity) = [⟨10000⟩, ⟨4000⟩, ⟨1000⟩, ⟨2000⟩] :=
    exists_of_any_exec (by decide +kernel)
  exact ⟨tr, s, hexec, hremaining, hledger,
    (ledger_balances noStock_initial (run_of_exec hexec)).2⟩

end KomiSaas.Movements
