import KomiSaas.Inventory.Batch

/-!
# Events of an inventory item

`inventory/domain/events/` and the details they carry
(`inventory/domain/types/domain.types.ts`). Quantities and costs travel as text.
-/

namespace KomiSaas.Inventory

open KomiSaas.Shared

/-- `ConsumedBatchDetail` and `WastedBatchDetail`, which have the same fields. -/
structure BatchDetail where
  batchId : Uuid
  quantity : JsString
  unitCostAmount : JsString
  unitCostCurrency : JsString
  deriving DecidableEq

/-- `AdjustmentDirection`: `IN` or `OUT`. -/
inductive AdjustmentDirection where
  | adjustIn
  | adjustOut
  deriving DecidableEq, Repr

/-- `AdjustedBatchDetail`. -/
structure AdjustedBatchDetail extends BatchDetail where
  direction : AdjustmentDirection
  deriving DecidableEq

/-- `InventoryItemCreatedEvent`. -/
structure InventoryItemCreatedEvent where
  tenantId : Uuid
  sku : JsString
  name : JsString
  unitOfMeasure : JsString
  isPerishable : Bool
  isActive : Bool
  createdAt : Instant
  updatedAt : Instant
  occurredOn : JsDate
  deriving DecidableEq

/-- `StockReceivedEvent`. -/
structure StockReceivedEvent where
  itemId : Uuid
  tenantId : Uuid
  branchId : Uuid
  batchId : Uuid
  quantity : JsString
  unitCostAmount : JsString
  unitCostCurrency : JsString
  occurredOn : JsDate
  deriving DecidableEq

/-- `StockConsumedEvent`. -/
structure StockConsumedEvent where
  itemId : Uuid
  tenantId : Uuid
  branchId : Uuid
  quantity : JsString
  consumedBatches : List BatchDetail
  occurredOn : JsDate
  deriving DecidableEq

/-- `StockWastedEvent`. -/
structure StockWastedEvent where
  itemId : Uuid
  tenantId : Uuid
  branchId : Uuid
  reason : JsString
  wastedBatches : List BatchDetail
  occurredOn : JsDate
  deriving DecidableEq

/-- `StockAdjustedEvent`. -/
structure StockAdjustedEvent where
  itemId : Uuid
  tenantId : Uuid
  branchId : Uuid
  reason : JsString
  adjustedBatches : List AdjustedBatchDetail
  occurredOn : JsDate
  deriving DecidableEq

/-- The events an item registers. -/
inductive DomainEvent where
  | itemCreated (event : InventoryItemCreatedEvent)
  | stockReceived (event : StockReceivedEvent)
  | stockConsumed (event : StockConsumedEvent)
  | stockWasted (event : StockWastedEvent)
  | stockAdjusted (event : StockAdjustedEvent)
  deriving DecidableEq

namespace DomainEvent

/-- The details of the batches an event says stock was taken from. -/
def drawnBatches : DomainEvent → List BatchDetail
  | .itemCreated _ => []
  | .stockReceived _ => []
  | .stockConsumed event => event.consumedBatches
  | .stockWasted event => event.wastedBatches
  | .stockAdjusted event => event.adjustedBatches.map (·.toBatchDetail)

end DomainEvent

/-! ## What the details of an event add up to -/

section Drawn

variable (decimal : DecimalJs)

/-- The quantity of a detail, in thousandths. -/
def BatchDetail.milli (detail : BatchDetail) : ℕ :=
  match Quantity.of decimal detail.quantity with
  | .ok quantity => quantity.milli
  | .error _ => 0

/-- The detail of `quantity` taken from `batch`. -/
def BatchDetail.of (batch : InventoryBatch) (quantity : Quantity) : BatchDetail where
  batchId := batch.id
  quantity := quantity.getValue decimal
  unitCostAmount := batch.unitCost.getAmount decimal
  unitCostCurrency := batch.unitCost.currency

/-- What details say was taken from one batch, in thousandths. -/
def drawnFrom (details : List BatchDetail) (batchId : Uuid) : ℕ :=
  ((details.filter fun detail => detail.batchId = batchId).map fun detail =>
    detail.milli decimal).sum

variable {decimal} {batch : InventoryBatch} {quantity : Quantity} {details : List BatchDetail}
  {detail : BatchDetail} {batchId : Uuid}

@[simp] theorem milli_of :
    (BatchDetail.of decimal batch quantity).milli decimal = quantity.milli := by
  unfold BatchDetail.milli
  rw [show (BatchDetail.of decimal batch quantity).quantity = quantity.getValue decimal from rfl,
    Quantity.of_getValue]

@[simp] theorem drawnFrom_nil : drawnFrom decimal [] batchId = 0 := rfl

theorem drawnFrom_append {details' : List BatchDetail} :
    drawnFrom decimal (details ++ details') batchId =
      drawnFrom decimal details batchId + drawnFrom decimal details' batchId := by
  simp [drawnFrom]

theorem drawnFrom_cons :
    drawnFrom decimal (detail :: details) batchId =
      (if detail.batchId = batchId then detail.milli decimal else 0) +
        drawnFrom decimal details batchId := by
  unfold drawnFrom
  by_cases h : detail.batchId = batchId <;> simp [h]

/-- Nothing was taken from a batch that no detail names. -/
theorem drawnFrom_eq_zero (h : batchId ∉ details.map (·.batchId)) :
    drawnFrom decimal details batchId = 0 := by
  have hnone : (details.filter fun detail => detail.batchId = batchId) = [] := by
    rw [List.filter_eq_nil_iff]
    intro detail hmem hid
    exact h (List.mem_map.mpr ⟨detail, hmem, of_decide_eq_true hid⟩)
  rw [drawnFrom, hnone]
  rfl

/-- Where each batch is named once, its detail is all that was taken from it. -/
theorem drawnFrom_of_mem (hnodup : (details.map (·.batchId)).Nodup) (h : detail ∈ details) :
    drawnFrom decimal details detail.batchId = detail.milli decimal := by
  induction details with
  | nil => simp at h
  | cons d ds ih =>
    rw [List.map_cons, List.nodup_cons] at hnodup
    rw [drawnFrom_cons]
    rcases List.mem_cons.mp h with rfl | h
    · rw [if_pos rfl, drawnFrom_eq_zero hnodup.1, Nat.add_zero]
    · have hne : d.batchId ≠ detail.batchId := fun e =>
        hnodup.1 (e ▸ List.mem_map_of_mem h)
      rw [if_neg hne, ih hnodup.2 h, Nat.zero_add]

end Drawn

end KomiSaas.Inventory
