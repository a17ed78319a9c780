import KomiSaas.Inventory.Events
import KomiSaas.Logging.Sanitizer
import KomiSaas.Movements.Movement

/-!
# `StockMovementHandlers`

`inventory-movements/infrastructure/persistence/handlers/stock-movement.handlers.ts`:
each stock event is translated into movements, every movement is recorded on its
own, and what could not be recorded is left in one line of the log.

`RecordMovementUseCase.execute` is a parameter: it succeeds or rejects with some
error, and changes a state. A batch list is never missing here, so `build` does
not throw.

What a handler does is said by its event's movements: `DomainEvent.handle_spec`.
-/

namespace KomiSaas.Movements

open KomiSaas.Inventory KomiSaas.Logging KomiSaas.Shared

/-! ## Movements and events as values of the log -/

/-- The object of a movement, its texts and its date written by `text` and
    `date`. A key that was not sent is absent. -/
def RecordMovementParams.fields (text : JsString → JsString) (date : JsDate → JsValue)
    (params : RecordMovementParams) : List (JsString × JsValue) :=
  List.reduceOption
    [some (js "tenantId", .string (text params.tenantId)),
      some (js "inventoryItemId", .string (text params.inventoryItemId)),
      some (js "branchId", .string (text params.branchId)),
      some (js "batchId", (params.batchId.map fun id => .string (text id)).getD .null),
      some (js "movementType", .string (text params.movementType.value)),
      some (js "quantity", .string (text params.quantity)),
      params.unitCostAmount.map fun amount => (js "unitCostAmount", .string (text amount)),
      params.unitCostCurrency.map fun currency => (js "unitCostCurrency", .string (text currency)),
      params.reason.map fun reason => (js "reason", .string (text reason)),
      params.occurredAt.map fun occurredAt => (js "occurredAt", date occurredAt)]

def RecordMovementParams.toJs (params : RecordMovementParams) : JsValue :=
  .object (params.fields id .date)

def BatchDetail.fields (detail : BatchDetail) : List (JsString × JsValue) :=
  [(js "quantity", .string detail.quantity),
    (js "unitCostAmount", .string detail.unitCostAmount),
    (js "unitCostCurrency", .string detail.unitCostCurrency)]

def BatchDetail.toJs (detail : BatchDetail) : JsValue :=
  .object ((js "batchId", .string detail.batchId) :: BatchDetail.fields detail)

/-- The text of a direction. -/
def AdjustmentDirection.value : AdjustmentDirection → JsString
  | .adjustIn => js "IN"
  | .adjustOut => js "OUT"

def AdjustedBatchDetail.toJs (detail : AdjustedBatchDetail) : JsValue :=
  .object
    ((js "batchId", .string detail.batchId) ::
      (js "direction", .string (AdjustmentDirection.value detail.direction)) ::
      BatchDetail.fields detail.toBatchDetail)

/-- What the handlers know of an event: `DomainEvent`, and the object itself. -/
structure Published where
  eventName : JsString
  occurredOn : JsDate
  payload : JsValue

/-- An event with its own fields after those of `DomainEvent`. -/
def Published.of (eventName : JsString) (occurredOn : JsDate)
    (fields : List (JsString × JsValue)) : Published where
  eventName := eventName
  occurredOn := occurredOn
  payload :=
    .object ((js "occurredOn", .date occurredOn) :: (js "eventName", .string eventName) :: fields)

def StockReceivedEvent.published (event : StockReceivedEvent) : Published :=
  .of (js "inventory.stock.received") event.occurredOn
    [(js "itemId", .string event.itemId),
      (js "tenantId", .string event.tenantId),
      (js "branchId", .string event.branchId),
      (js "batchId", .string event.batchId),
      (js "quantity", .string event.quantity),
      (js "unitCostAmount", .string event.unitCostAmount),
      (js "unitCostCurrency", .string event.unitCostCurrency)]

def StockConsumedEvent.published (event : StockConsumedEvent) : Published :=
  .of (js "inventory.stock.consumed") event.occurredOn
    [(js "itemId", .string event.itemId),
      (js "tenantId", .string event.tenantId),
      (js "branchId", .string event.branchId),
      (js "quantity", .string event.quantity),
      (js "consumedBatches", .array (event.consumedBatches.map BatchDetail.toJs))]

def StockWastedEvent.published (event : StockWastedEvent) : Published :=
  .of (js "inventory.stock.wasted") event.occurredOn
    [(js "itemId", .string event.itemId),
      (js "tenantId", .string event.tenantId),
      (js "branchId", .string event.branchId),
      (js "reason", .string event.reason),
      (js "wastedBatches", .array (event.wastedBatches.map BatchDetail.toJs))]

def StockAdjustedEvent.published (event : StockAdjustedEvent) : Published :=
  .of (js "inventory.stock.adjusted") event.occurredOn
    [(js "itemId", .string event.itemId),
      (js "tenantId", .string event.tenantId),
      (js "branchId", .string event.branchId),
      (js "reason", .string event.reason),
      (js "adjustedBatches", .array (event.adjustedBatches.map AdjustedBatchDetail.toJs))]

/-! ## The audit line -/

/-- What a handler catches: what `execute` rejects with, or the error of the log itself. -/
inductive Thrown (ε : Type) where
  | rejected (error : ε)
  | rangeError (error : RangeError)
  deriving DecidableEq

/-- The line that `logAuditFailure` writes. -/
structure AuditLine (ε : Type) where
  event : JsString
  occurredOn : JsDate
  failedMovements : JsValue
  payload : JsValue
  err : Option (Thrown ε)
  message : JsString

/-- How many movements were not recorded, of how many if that is known. -/
def auditScope (failed : ℕ) : Option ℕ → JsString
  | some total => natText failed ++ js " de " ++ natText total ++ js " movimiento(s)"
  | none => natText failed ++ js " movimiento(s)"

/-- `logAuditFailure` (lines 194–220). -/
def logAuditFailure {ε : Type} (operation : JsString) (event : Published)
    (failedMovements : List RecordMovementParams) (error : Option (Thrown ε))
    (totalMovements : Option ℕ) : Except RangeError (AuditLine ε) := do
  let sanitizedMovements ← sanitize 0 (.array (failedMovements.map RecordMovementParams.toJs))
  let payload ← sanitize 0 event.payload
  .ok
    { event := event.eventName
      occurredOn := event.occurredOn
      failedMovements := sanitizedMovements
      payload := payload
      err := error
      message := js "[AUDITORIA INCOMPLETA] " ++ operation ++
        js ": el stock se actualizó pero NO se registraron " ++
        auditScope failedMovements.length totalMovements ++
        js ". Reconstruir con los movimientos adjuntos." }

/-! ## Recording -/

section Recording

variable {σ ε : Type}

/-- The loop of `recordAll` on the way: what failed, the last error, and the state. -/
structure Attempted (σ ε : Type) where
  failed : List RecordMovementParams
  lastError : Option ε
  state : σ

/-- What a handler ends with: whether it resolves, the lines it logged, and the state. -/
structure Handled (σ ε : Type) where
  outcome : Except RangeError Unit
  lines : List (AuditLine ε)
  state : σ

variable (execute : RecordMovementParams → σ → Except ε Unit × σ)

/-- One movement of the loop (lines 166–173). -/
def attempt (attempted : Attempted σ ε) (movement : RecordMovementParams) : Attempted σ ε :=
  match execute movement attempted.state with
  | (.ok (), state) => { attempted with state := state }
  | (.error error, state) => ⟨attempted.failed ++ [movement], some error, state⟩

/-- The loop of `recordAll`. -/
def attemptAll (movements : List RecordMovementParams) (state : σ) : Attempted σ ε :=
  movements.foldl (attempt execute) ⟨[], none, state⟩

/-- `recordAll` (lines 157–178). -/
def recordAll (operation : JsString) (event : Published) (movements : List RecordMovementParams)
    (state : σ) : Except RangeError (List (AuditLine ε)) × σ :=
  let attempted := attemptAll execute movements state
  if 0 < attempted.failed.length then
    ((logAuditFailure operation event attempted.failed (attempted.lastError.map .rejected)
      (some movements.length)).map fun line => [line], attempted.state)
  else (.ok [], attempted.state)

/-- `record` (lines 132–147). -/
def record (operation : JsString) (event : Published) (movements : List RecordMovementParams)
    (state : σ) : Handled σ ε :=
  match recordAll execute operation event movements state with
  | (.ok lines, state) => ⟨.ok (), lines, state⟩
  | (.error error, state) =>
    match logAuditFailure operation event movements (some (.rangeError error)) none with
    | .ok line => ⟨.ok (), [line], state⟩
    | .error error => ⟨.error error, [], state⟩

/-- The movement of one detail of an event. -/
def movementOf (tenantId itemId branchId : Uuid) (occurredOn : JsDate) (reason : Option JsString)
    (movementType : MovementType) (detail : BatchDetail) : RecordMovementParams where
  tenantId := tenantId
  inventoryItemId := itemId
  branchId := branchId
  batchId := some detail.batchId
  movementType := movementType
  quantity := detail.quantity
  unitCostAmount := some detail.unitCostAmount
  unitCostCurrency := some detail.unitCostCurrency
  reason := reason
  occurredAt := some occurredOn

/-- What `onStockReceived` records. -/
def entryOf (event : StockReceivedEvent) : RecordMovementParams :=
  movementOf event.tenantId event.itemId event.branchId event.occurredOn none .entry
    { batchId := event.batchId
      quantity := event.quantity
      unitCostAmount := event.unitCostAmount
      unitCostCurrency := event.unitCostCurrency }

/-- What `onStockConsumed` records. -/
def consumptionsOf (event : StockConsumedEvent) : List RecordMovementParams :=
  event.consumedBatches.map
    (movementOf event.tenantId event.itemId event.branchId event.occurredOn none .consumption)

/-- What `onStockWasted` records. -/
def wastesOf (event : StockWastedEvent) : List RecordMovementParams :=
  event.wastedBatches.map
    (movementOf event.tenantId event.itemId event.branchId event.occurredOn (some event.reason)
      .waste)

/-- What `onStockAdjusted` records. -/
def adjustmentsOf (event : StockAdjustedEvent) : List RecordMovementParams :=
  event.adjustedBatches.map fun detail =>
    movementOf event.tenantId event.itemId event.branchId event.occurredOn (some event.reason)
      (if AdjustmentDirection.value detail.direction = js "IN" then .adjustmentIn
        else .adjustmentOut)
      detail.toBatchDetail

/-- `onStockReceived` (lines 36–63). What its `catch` throws is not caught. -/
def onStockReceived (event : StockReceivedEvent) (state : σ) : Handled σ ε :=
  match execute (entryOf event) state with
  | (.ok (), state) => ⟨.ok (), [], state⟩
  | (.error error, state) =>
    match logAuditFailure MovementType.entry.value (StockReceivedEvent.published event)
        [entryOf event] (some (.rejected error)) none with
    | .ok line => ⟨.ok (), [line], state⟩
    | .error error => ⟨.error error, [], state⟩

/-- `onStockConsumed` (lines 66–81). -/
def onStockConsumed (event : StockConsumedEvent) (state : σ) : Handled σ ε :=
  record execute MovementType.consumption.value (StockConsumedEvent.published event)
    (consumptionsOf event) state

/-- `onStockWasted` (lines 85–99). -/
def onStockWasted (event : StockWastedEvent) (state : σ) : Handled σ ε :=
  record execute MovementType.waste.value (StockWastedEvent.published event) (wastesOf event) state

/-- `onStockAdjusted` (lines 103–119). -/
def onStockAdjusted (event : StockAdjustedEvent) (state : σ) : Handled σ ε :=
  record execute (js "AJUSTE") (StockAdjustedEvent.published event) (adjustmentsOf event) state

/-- The handler that is subscribed to an event. -/
def handle (state : σ) : DomainEvent → Handled σ ε
  | .itemCreated _ => ⟨.ok (), [], state⟩
  | .stockReceived event => onStockReceived execute event state
  | .stockConsumed event => onStockConsumed execute event state
  | .stockWasted event => onStockWasted execute event state
  | .stockAdjusted event => onStockAdjusted execute event state

/-- What the handlers record for an event. -/
def movementsOf : DomainEvent → List RecordMovementParams
  | .itemCreated _ => []
  | .stockReceived event => [entryOf event]
  | .stockConsumed event => consumptionsOf event
  | .stockWasted event => wastesOf event
  | .stockAdjusted event => adjustmentsOf event

/-- When an event occurred. -/
def occurredOnOf : DomainEvent → JsDate
  | .itemCreated event => event.occurredOn
  | .stockReceived event => event.occurredOn
  | .stockConsumed event => event.occurredOn
  | .stockWasted event => event.occurredOn
  | .stockAdjusted event => event.occurredOn

/-! ## What a handler does -/

variable {execute} {movements : List RecordMovementParams} {state : σ} {event : DomainEvent}
  {operation : JsString} {published : Published} {line : AuditLine ε}

/-- Every movement of an event has its date. -/
theorem occurredAt_of_mem {movement : RecordMovementParams} (h : movement ∈ movementsOf event) :
    movement.occurredAt = some (occurredOnOf event) := by
  cases event with
  | itemCreated event => simp [movementsOf] at h
  | stockReceived event =>
    rw [movementsOf, List.mem_singleton] at h
    rw [h]
    rfl
  | stockConsumed event =>
    obtain ⟨detail, -, rfl⟩ := List.mem_map.mp h
    rfl
  | stockWasted event =>
    obtain ⟨detail, -, rfl⟩ := List.mem_map.mp h
    rfl
  | stockAdjusted event =>
    obtain ⟨detail, -, rfl⟩ := List.mem_map.mp h
    rfl

theorem record_of_no_failure (h : (attemptAll execute movements state).failed = []) :
    record execute operation published movements state =
      ⟨.ok (), [], (attemptAll execute movements state).state⟩ := by
  unfold record recordAll
  simp [h]

theorem record_of_failure (h : (attemptAll execute movements state).failed ≠ [])
    (hline : logAuditFailure operation published (attemptAll execute movements state).failed
      ((attemptAll execute movements state).lastError.map .rejected) (some movements.length) =
        .ok line) :
    record execute operation published movements state =
      ⟨.ok (), [line], (attemptAll execute movements state).state⟩ := by
  unfold record recordAll
  simp only [if_pos (List.length_pos_iff.mpr h), hline]
  rfl

/-- Where the log throws, the `catch` of `record` calls it again with all the movements. -/
theorem record_of_rangeError {e e' : RangeError}
    (h : (attemptAll execute movements state).failed ≠ [])
    (hfirst : logAuditFailure operation published (attemptAll execute movements state).failed
      ((attemptAll execute movements state).lastError.map .rejected) (some movements.length) =
        .error e)
    (hsecond : logAuditFailure operation published movements
      (some (.rangeError e : Thrown ε)) none = .error e') :
    record execute operation published movements state =
      ⟨.error e', [], (attemptAll execute movements state).state⟩ := by
  unfold record recordAll
  simp only [if_pos (List.length_pos_iff.mpr h), hfirst]
  simp only [Except.map, hsecond]

theorem attemptAll_singleton {movement : RecordMovementParams} :
    attemptAll execute [movement] state =
      match execute movement state with
      | (.ok (), state) => ⟨[], none, state⟩
      | (.error error, state) => ⟨[movement], some error, state⟩ := rfl

theorem handle_of_no_failure (h : (attemptAll execute (movementsOf event) state).failed = []) :
    handle execute state event =
      ⟨.ok (), [], (attemptAll execute (movementsOf event) state).state⟩ := by
  cases event with
  | itemCreated event => rfl
  | stockReceived event =>
    simp only [movementsOf, attemptAll_singleton] at h ⊢
    rw [handle, onStockReceived]
    cases hexecute : execute (entryOf event) state with
    | mk result state' =>
      cases result with
      | error e => simp [hexecute] at h
      | ok u => rfl
  | stockConsumed event => exact record_of_no_failure h
  | stockWasted event => exact record_of_no_failure h
  | stockAdjusted event => exact record_of_no_failure h

end Recording

end KomiSaas.Movements
