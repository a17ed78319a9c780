import KomiSaas.Shared.Money

/-!
# Exceptions, value objects and child entities of an inventory item

* `InventoryException`: `inventory/domain/exceptions/`, with the two errors of
  the shared value objects.
* `InventoryItemName`, `MeasurementUnit`, `InventoryItemSku`:
  `inventory/domain/value-objects/`.
* `InventoryBatch`, `InventoryBranchConfig`: `inventory/domain/entities/`.
-/

namespace KomiSaas.Inventory

open KomiSaas.Shared

/-! ## Exceptions -/

/-- `MeasurementUnit`. -/
inductive MeasurementUnit where
  | gram
  | milliliter
  | unit
  deriving DecidableEq, Repr

namespace MeasurementUnit

/-- The text of each unit. -/
def value : MeasurementUnit → JsString
  | .gram => js "GRAM"
  | .milliliter => js "MILLILITER"
  | .unit => js "UNIT"

/-- `Object.values(MeasurementUnit)`. -/
def values : List MeasurementUnit := [.gram, .milliliter, .unit]

end MeasurementUnit

/-- The exceptions that the use cases of the inventory throw. -/
inductive InventoryException where
  | invalidInventoryName (reason : JsString)
  | invalidInventoryUnit (value : JsString)
  | inventoryItemNameAlreadyExists (name : JsString)
  | inventoryItemNotFound (itemId : Uuid)
  | inactiveItem (itemId : Uuid)
  | tenantNotFound (tenantId : Uuid)
  | emptyBatch
  | insufficientBatchQuantity
  | invalidExpirationDate (detail : JsString)
  | perishableRequiresExpiration (itemId : Uuid)
  | nonPositiveConsumption
  | insufficientStock (itemId : Uuid) (requested available : JsString)
  | reasonRequired (operation : JsString)
  | noAdjustmentDifference (reference : JsString)
  | countIncreaseNotAllowed (itemId : Uuid)
  | ambiguousBranchScope (itemId : Uuid)
  | duplicateBranchInBatch (branchId : Uuid)
  | branchNotFound (branchId : Uuid)
  | unitChangeNotAllowed (itemId : Uuid)
  | perishabilityChangeNotAllowed (itemId : Uuid)
  | emptyUpdate (itemId : Uuid)
  | invalidQuantity (error : InvalidQuantityError)
  | invalidMoney (error : MoneyError)
  deriving DecidableEq

namespace InventoryException

/-- The `code` of each exception. -/
def code : InventoryException → JsString
  | .invalidInventoryName _ => js "1300"
  | .invalidInventoryUnit _ => js "1301"
  | .inventoryItemNameAlreadyExists _ => js "1302"
  | .inventoryItemNotFound _ => js "1303"
  | .inactiveItem _ => js "1304"
  | .tenantNotFound _ => js "1305"
  | .emptyBatch => js "1310"
  | .insufficientBatchQuantity => js "1311"
  | .invalidExpirationDate _ => js "1312"
  | .perishableRequiresExpiration _ => js "1313"
  | .nonPositiveConsumption => js "1320"
  | .insufficientStock .. => js "1321"
  | .reasonRequired _ => js "1322"
  | .noAdjustmentDifference _ => js "1323"
  | .countIncreaseNotAllowed _ => js "1324"
  | .ambiguousBranchScope _ => js "1330"
  | .duplicateBranchInBatch _ => js "1331"
  | .branchNotFound _ => js "1332"
  | .unitChangeNotAllowed _ => js "1350"
  | .perishabilityChangeNotAllowed _ => js "1351"
  | .emptyUpdate _ => js "1352"
  | .invalidQuantity error => error.code
  | .invalidMoney error => error.code

/-- The `detail` of each exception. -/
def detail : InventoryException → JsString
  | .invalidInventoryName reason => js "Nombre de item inválido: " ++ reason ++ js "."
  | .invalidInventoryUnit value =>
    js "Unidad de medida \"" ++ value ++ js "\" no soportada. Permitidas: " ++
      (js ", ").intercalate (MeasurementUnit.values.map (·.value)) ++ js "."
  | .inventoryItemNameAlreadyExists name =>
    js "El nombre \"" ++ name ++ js "\" ya está registrado en el inventario."
  | .inventoryItemNotFound itemId => js "No se encontró el item de inventario " ++ itemId ++ js "."
  | .inactiveItem itemId =>
    js "El item " ++ itemId ++ js " está inactivo y no admite recepciones de mercancía."
  | .tenantNotFound tenantId =>
    js "El tenant " ++ tenantId ++ js " no existe; no se puede crear el item."
  | .emptyBatch => js "La cantidad recibida del lote debe ser mayor a cero."
  | .insufficientBatchQuantity => js "No hay cantidad suficiente en el lote para consumir."
  | .invalidExpirationDate detail => js "Fecha de vencimiento inválida: " ++ detail ++ js "."
  | .perishableRequiresExpiration itemId =>
    js "El item " ++ itemId ++ js " es perecedero y requiere fecha de vencimiento en el lote."
  | .nonPositiveConsumption => js "La cantidad a consumir debe ser mayor a cero."
  | .insufficientStock itemId requested available =>
    js "Stock insuficiente para el item " ++ itemId ++ js ": se solicitaron " ++ requested ++
      js " y hay " ++ available ++ js " disponibles."
  | .reasonRequired operation => js "La operación de " ++ operation ++ js " requiere un motivo."
  | .noAdjustmentDifference reference =>
    js "No hay diferencia que ajustar en " ++ reference ++
      js ": la cantidad real coincide con la registrada."
  | .countIncreaseNotAllowed itemId =>
    js "El conteo del item " ++ itemId ++
      js " supera el stock registrado. El sobrante debe registrarse como una entrada de " ++
      js "mercancía, no como un conteo."
  | .ambiguousBranchScope itemId =>
    js "No se puede consumir el item " ++ itemId ++
      js " sin especificar una sucursal: hay lotes de varias sedes cargados."
  | .duplicateBranchInBatch branchId =>
    js "La sucursal " ++ branchId ++ js " aparece más de una vez en la configuración."
  | .branchNotFound branchId =>
    js "La sucursal " ++ branchId ++ js " no existe o no está disponible."
  | .unitChangeNotAllowed itemId =>
    js "No se puede cambiar la unidad de medida del item " ++ itemId ++
      js ": ya tiene lotes registrados."
  | .perishabilityChangeNotAllowed itemId =>
    js "No se puede cambiar la perecibilidad del item " ++ itemId ++
      js ": ya tiene lotes registrados."
  | .emptyUpdate itemId => js "No se enviaron cambios para actualizar el item " ++ itemId ++ js "."
  | .invalidQuantity error => error.detail
  | .invalidMoney error => error.detail

end InventoryException

/-! ## Value objects -/

/-- `InventoryItemName`: a trimmed name within its length limits. -/
structure InventoryItemName where
  value : JsString
  minLength : 2 ≤ value.length
  maxLength : value.length ≤ 120
  deriving DecidableEq

/-- `InventoryItemName.create`. -/
def InventoryItemName.create (raw : JsString) : Except InventoryException InventoryItemName :=
  let value := trim raw
  if hmin : value.length < 2 then .error (.invalidInventoryName (js "mínimo 2 caracteres"))
  else if hmax : 120 < value.length then
    .error (.invalidInventoryName (js "máximo 120 caracteres"))
  else .ok ⟨value, not_lt.mp hmin, not_lt.mp hmax⟩

/-- `InventoryItemUnit.create`. -/
def InventoryItemUnit.create (raw : JsString) : Except InventoryException MeasurementUnit :=
  let normalized := toUpperCase (trim raw)
  match MeasurementUnit.values.find? fun known => known.value = normalized with
  | none => .error (.invalidInventoryUnit raw)
  | some known => .ok known

/-- `InventoryItemSku.fromNumber`. -/
def InventoryItemSku.fromNumber (sequence : ℕ) : JsString :=
  let text := natText sequence
  js "INV-" ++ (List.replicate (4 - text.length) 48 ++ text)

/-! ## `InventoryBatch` -/

/-- A batch: one reception of goods. -/
structure InventoryBatch where
  id : Uuid
  branchId : Uuid
  quantityReceived : Quantity
  quantityRemaining : Quantity
  unitCost : Money
  expirationDate : Option Instant
  receivedAt : JsDate
  deriving DecidableEq

namespace InventoryBatch

/-- `create` (lines 63–83). -/
def create (id branchId : Uuid) (quantityReceived : Quantity) (unitCost : Money)
    (expirationDate : Option Instant) (receivedAt : Option JsDate) (now : Instant) :
    Except InventoryException InventoryBatch :=
  if quantityReceived.isZero then .error .emptyBatch
  else
    .ok
      { id := id
        branchId := branchId
        quantityReceived := quantityReceived
        quantityRemaining := quantityReceived
        unitCost := unitCost
        expirationDate := expirationDate
        receivedAt := receivedAt.getD (some now) }

/-- `adjustTo` (lines 119–121). -/
def adjustTo (batch : InventoryBatch) (newRemaining : Quantity) : InventoryBatch :=
  { batch with quantityRemaining := newRemaining }

/-- `reduce` (lines 129–135). -/
def reduce (batch : InventoryBatch) (quantity : Quantity) :
    Except InventoryException InventoryBatch :=
  if quantity.isGreaterThan batch.quantityRemaining then .error .insufficientBatchQuantity
  else
    match batch.quantityRemaining.subtract quantity with
    | .error e => .error (.invalidQuantity e)
    | .ok remaining => .ok { batch with quantityRemaining := remaining }

/-- `consume` (lines 95–97). -/
def consume (batch : InventoryBatch) (quantity : Quantity) :
    Except InventoryException InventoryBatch :=
  batch.reduce quantity

/-- `waste` (lines 106–108). -/
def waste (batch : InventoryBatch) (quantity : Quantity) :
    Except InventoryException InventoryBatch :=
  batch.reduce quantity

/-- `isExpired` (lines 144–146). -/
def isExpired (batch : InventoryBatch) (date : JsDate) : Bool :=
  match batch.expirationDate with
  | none => false
  | some expirationDate => JsDate.before (some expirationDate) date

/-- `isDepleted` (lines 151–153). -/
def isDepleted (batch : InventoryBatch) : Bool := batch.quantityRemaining.isZero

/-- `isActive` (lines 163–165). -/
def isActive (batch : InventoryBatch) (date : JsDate) : Bool :=
  !batch.isDepleted && !batch.isExpired date

/-- The batch with `n` thousandths less. -/
def less (batch : InventoryBatch) (n : ℕ) : InventoryBatch :=
  { batch with quantityRemaining := ⟨batch.quantityRemaining.milli - n⟩ }

variable {batch : InventoryBatch} {quantity : Quantity} {n : ℕ}

@[simp] theorem less_id : (batch.less n).id = batch.id := rfl

@[simp] theorem less_quantityReceived : (batch.less n).quantityReceived = batch.quantityReceived :=
  rfl

@[simp] theorem less_remaining :
    (batch.less n).quantityRemaining.milli = batch.quantityRemaining.milli - n := rfl

@[simp] theorem less_zero : batch.less 0 = batch := rfl

theorem create_ok {id branchId : Uuid} {unitCost : Money} {expirationDate : Option Instant}
    {receivedAt : Option JsDate} {now : Instant}
    (h : create id branchId quantity unitCost expirationDate receivedAt now = .ok batch) :
    0 < quantity.milli ∧
      batch = ⟨id, branchId, quantity, quantity, unitCost, expirationDate,
        receivedAt.getD (some now)⟩ := by
  unfold create at h
  split_ifs at h with hzero
  rw [Quantity.isZero_iff] at hzero
  exact ⟨by omega, (Except.ok.inj h).symm⟩

theorem reduce_eq (hle : quantity.milli ≤ batch.quantityRemaining.milli)
    (hfit : batch.quantityRemaining.milli < 10 ^ decimalPrecision) :
    batch.reduce quantity = .ok (batch.less quantity.milli) := by
  have hnot : ¬ quantity.isGreaterThan batch.quantityRemaining = true := by
    rw [Quantity.isGreaterThan_iff]
    omega
  rw [reduce, if_neg hnot, Quantity.subtract_ok hle hfit]
  rfl

theorem remaining_pos_of_isActive {date : JsDate} (h : batch.isActive date = true) :
    0 < batch.quantityRemaining.milli := by
  unfold isActive isDepleted Quantity.isZero at h
  simp only [Bool.and_eq_true, Bool.not_eq_true', decide_eq_false_iff_not] at h
  omega

end InventoryBatch

/-! ## `InventoryBranchConfig` -/

/-- The minimum of one branch, which overrides the item's global one. -/
structure InventoryBranchConfig where
  id : Uuid
  branchId : Uuid
  minStock : Quantity
  deriving DecidableEq

/-- `changeMinimum`. -/
def InventoryBranchConfig.changeMinimum (config : InventoryBranchConfig) (minStock : Quantity) :
    InventoryBranchConfig :=
  { config with minStock := minStock }

end KomiSaas.Inventory
