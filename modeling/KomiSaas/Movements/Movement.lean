import KomiSaas.Shared.Money

/-!
# Inventory movements

`inventory-movements/domain/` and `inventory-movements/application/use-case/record-movement/`.
A movement is one entry of the ledger: it is created, and never edited or deleted.
-/

namespace KomiSaas.Movements

open KomiSaas.Shared

/-- `MovementType` (`catalog.common.ts`). -/
inductive MovementType where
  | entry
  | consumption
  | waste
  | adjustmentIn
  | adjustmentOut
  deriving DecidableEq, Repr

namespace MovementType

/-- The text of each type. -/
def value : MovementType → JsString
  | .entry => js "ENTRY"
  | .consumption => js "CONSUMPTION"
  | .waste => js "WASTE"
  | .adjustmentIn => js "ADJUSTMENT_IN"
  | .adjustmentOut => js "ADJUSTMENT_OUT"

/-- `Object.values(MovementType)`. -/
def values : List MovementType := [.entry, .consumption, .waste, .adjustmentIn, .adjustmentOut]

end MovementType

/-- What recording a movement throws. -/
inductive InventoryMovementException where
  | nonPositiveMovementQuantity
  | movementReasonRequired (type : JsString)
  | invalidInventoryMovement (value : JsString)
  | invalidQuantity (error : InvalidQuantityError)
  | invalidMoney (error : MoneyError)
  deriving DecidableEq

namespace InventoryMovementException

/-- The `code` of each exception. -/
def code : InventoryMovementException → JsString
  | .nonPositiveMovementQuantity => js "1325"
  | .movementReasonRequired _ => js "1326"
  | .invalidInventoryMovement _ => js "1327"
  | .invalidQuantity error => error.code
  | .invalidMoney error => error.code

/-- The `detail` of each exception. -/
def detail : InventoryMovementException → JsString
  | .nonPositiveMovementQuantity => js "La cantidad del movimiento debe ser mayor a cero."
  | .movementReasonRequired type =>
    js "Un movimiento de tipo " ++ type ++ js " requiere un motivo."
  | .invalidInventoryMovement value =>
    js "El tipo de movimiento \"" ++ value ++ js "\" no es soportado. Permitidos: " ++
      (js ", ").intercalate (MovementType.values.map (·.value)) ++ js "."
  | .invalidQuantity error => error.detail
  | .invalidMoney error => error.detail

end InventoryMovementException

/-! ## `InventoryMovementType` -/

/-- A text that names a type once trimmed and in capitals. The text itself is kept. -/
structure InventoryMovementType where
  value : JsString
  known : toUpperCase (trim value) ∈ MovementType.values.map (·.value)
  deriving DecidableEq

namespace InventoryMovementType

/-- `created` (lines 10–18). -/
def created (type : JsString) : Except InventoryMovementException InventoryMovementType :=
  if known : toUpperCase (trim type) ∈ MovementType.values.map (·.value) then .ok ⟨type, known⟩
  else .error (.invalidInventoryMovement type)

/-- `requiresReason` (lines 21–27). -/
def requiresReason (movementType : InventoryMovementType) : Bool :=
  movementType.value ∈
    [MovementType.waste, MovementType.adjustmentIn, MovementType.adjustmentOut].map (·.value)

/-- The value object of a type of the catalog. -/
def ofType (type : MovementType) : InventoryMovementType :=
  ⟨type.value, by cases type <;> decide⟩

theorem created_value (type : MovementType) : created type.value = .ok (ofType type) :=
  dif_pos (ofType type).known

end InventoryMovementType

/-! ## `InventoryMovement` -/

/-- `InventoryMovementCreated`. -/
structure InventoryMovementCreated where
  tenantId : Uuid
  inventoryItemId : Uuid
  branchId : Uuid
  batchId : Option Uuid
  movementType : InventoryMovementType
  quantity : Quantity
  unitCost : Option Money
  reason : Option JsString
  occurredAt : Option JsDate
  deriving DecidableEq

structure InventoryMovement where
  id : Uuid
  tenantId : Uuid
  inventoryItemId : Uuid
  branchId : Uuid
  batchId : Option Uuid
  movementType : InventoryMovementType
  quantity : Quantity
  unitCost : Option Money
  reason : Option JsString
  occurredAt : JsDate
  registeredAt : Instant
  deriving DecidableEq

/-- `create` (lines 66–92), with the id it generates. -/
def InventoryMovement.create (id : Uuid) (now : Instant) (params : InventoryMovementCreated) :
    Except InventoryMovementException InventoryMovement :=
  if params.quantity.isZero then .error .nonPositiveMovementQuantity
  else
    let formmatedReason := (params.reason.map trim).filter fun reason => reason ≠ []
    if params.movementType.requiresReason && formmatedReason.isNone then
      .error (.movementReasonRequired params.movementType.value)
    else
      .ok
        { id := id
          tenantId := params.tenantId
          inventoryItemId := params.inventoryItemId
          branchId := params.branchId
          batchId := params.batchId
          movementType := params.movementType
          quantity := params.quantity
          unitCost := params.unitCost
          reason := formmatedReason
          occurredAt := params.occurredAt.getD (some now)
          registeredAt := now }

/-! ## `RecordMovementUseCase` -/

/-- `RecordMovementParams`. -/
structure RecordMovementParams where
  tenantId : Uuid
  inventoryItemId : Uuid
  branchId : Uuid
  batchId : Option Uuid
  movementType : MovementType
  quantity : JsString
  unitCostAmount : Option JsString
  unitCostCurrency : Option JsString
  reason : Option JsString
  occurredAt : Option JsDate
  deriving DecidableEq

/-- The unit cost, where both its amount and its currency were sent and not
    empty (lines 16–18). -/
def RecordMovementParams.unitCost (decimal : DecimalJs) (params : RecordMovementParams) :
    Except InventoryMovementException (Option Money) :=
  match params.unitCostAmount, params.unitCostCurrency with
  | some amount, some currency =>
    if amount = [] ∨ currency = [] then .ok none
    else ((Money.of decimal amount currency).mapError .invalidMoney).map some
  | _, _ => .ok none

/-- `execute` (lines 13–33), up to the movement that it saves. -/
def RecordMovement.execute (decimal : DecimalJs) (id : Uuid) (now : Instant)
    (params : RecordMovementParams) : Except InventoryMovementException InventoryMovement := do
  let unitCost ← params.unitCost decimal
  let movementType ← InventoryMovementType.created params.movementType.value
  let quantity ← (Quantity.of decimal params.quantity).mapError .invalidQuantity
  InventoryMovement.create id now
    { tenantId := params.tenantId
      inventoryItemId := params.inventoryItemId
      branchId := params.branchId
      batchId := params.batchId
      movementType := movementType
      quantity := quantity
      unitCost := unitCost
      reason := params.reason
      occurredAt := params.occurredAt }

variable {decimal : DecimalJs} {params : RecordMovementParams}

/-- The printed amount and currency of a cost are read back as that cost. -/
theorem unitCost_of_getAmount {unitCost : Money}
    (hamount : params.unitCostAmount = some (unitCost.getAmount decimal))
    (hcurrency : params.unitCostCurrency = some unitCost.currency) :
    params.unitCost decimal = .ok (some unitCost) := by
  have hsent : ¬ (unitCost.getAmount decimal = [] ∨ unitCost.currency = []) := by
    rw [not_or]
    exact ⟨Money.getAmount_ne_nil, Money.currency_ne_nil⟩
  unfold RecordMovementParams.unitCost
  rw [hamount, hcurrency]
  simp only [if_neg hsent, Money.of_getAmount]
  rfl

/-- What is accepted: a positive quantity, and a reason where the type asks for one. -/
theorem RecordMovement.execute_eq_ok {unitCost : Option Money} {quantity : Quantity} (id : Uuid)
    (now : Instant) (hcost : params.unitCost decimal = .ok unitCost)
    (hquantity : Quantity.of decimal params.quantity = .ok quantity) (hpos : 0 < quantity.milli)
    (hreason : (InventoryMovementType.ofType params.movementType).requiresReason = true →
      ∃ reason, params.reason = some reason ∧ trim reason ≠ []) :
    RecordMovement.execute decimal id now params =
      .ok
        { id := id
          tenantId := params.tenantId
          inventoryItemId := params.inventoryItemId
          branchId := params.branchId
          batchId := params.batchId
          movementType := InventoryMovementType.ofType params.movementType
          quantity := quantity
          unitCost := unitCost
          reason := (params.reason.map trim).filter fun reason => reason ≠ []
          occurredAt := params.occurredAt.getD (some now)
          registeredAt := now } := by
  have hzero : ¬ quantity.isZero = true := by
    rw [Quantity.isZero_iff]
    omega
  have hgiven : ¬ ((InventoryMovementType.ofType params.movementType).requiresReason &&
      ((params.reason.map trim).filter fun reason => reason ≠ []).isNone) = true := by
    intro h
    obtain ⟨hrequired, hnone⟩ := Bool.and_eq_true_iff.mp h
    obtain ⟨reason, hsome, hne⟩ := hreason hrequired
    simp [hsome, hne] at hnone
  unfold RecordMovement.execute
  rw [hcost, InventoryMovementType.created_value, hquantity]
  show InventoryMovement.create id now _ = _
  unfold InventoryMovement.create
  rw [if_neg hzero]
  exact if_neg hgiven

end KomiSaas.Movements
