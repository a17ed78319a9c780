import KomiSaas.Inventory.Aggregate
import KomiSaas.Inventory.Loops
import KomiSaas.Inventory.Minimums
import KomiSaas.Lib.Mutator

/-!
# Failing methods of an inventory item

`inventory/domain/inventory-item.aggregate.ts`, lines 133–713: what each method
leaves behind where it throws.

The loops write batches one by one, but none of their calls can throw: what is
taken from a batch is neither more than the batch has nor more than is pending
(`exists_allocate_ok`, for any list of batches). The other methods make their checks
first, except `update`, which assigns the name before it checks the other two
fields (`atomicAt_update_iff`).

Result: `atomic_iff_nameFirst`.
-/

namespace KomiSaas.Inventory

open KomiSaas.Lib KomiSaas.Lib.Mutator KomiSaas.Shared

namespace InventoryItem

variable {decimal : DecimalJs} {item : InventoryItem} {now : Instant}
  {draw : InventoryBatch → Quantity → Except InventoryException InventoryBatch}

/-! ## The loops -/

/-- The call does not throw on what a batch has. -/
def TakesWhatIsLeft
    (draw : InventoryBatch → Quantity → Except InventoryException InventoryBatch) : Prop :=
  ∀ batch quantity, quantity.milli ≤ batch.quantityRemaining.milli →
    ∃ drawn, draw batch quantity = .ok drawn

theorem takesWhatIsLeft_reduce : TakesWhatIsLeft InventoryBatch.reduce := by
  intro batch quantity hle
  have hnot : ¬ quantity.isGreaterThan batch.quantityRemaining = true := by
    rw [Quantity.isGreaterThan_iff]
    omega
  obtain ⟨remaining, hremaining⟩ := Quantity.exists_subtract hle
  unfold InventoryBatch.reduce
  rw [if_neg hnot, hremaining]
  exact ⟨_, rfl⟩

theorem takesWhatIsLeft_consume : TakesWhatIsLeft InventoryBatch.consume := takesWhatIsLeft_reduce

theorem takesWhatIsLeft_waste : TakesWhatIsLeft InventoryBatch.waste := takesWhatIsLeft_reduce

theorem takesWhatIsLeft_adjustOut : TakesWhatIsLeft adjustOut := by
  intro batch quantity hle
  obtain ⟨remaining, hremaining⟩ := Quantity.exists_subtract hle
  unfold adjustOut
  rw [hremaining]
  exact ⟨_, rfl⟩

/-- The loop ends without an exception, whatever the batches hold. -/
theorem exists_allocate_ok (decimal : DecimalJs) (hdraw : TakesWhatIsLeft draw)
    (ordered : List InventoryBatch) (pending : Quantity) (batches : List InventoryBatch) :
    ∃ details left, allocate decimal draw ordered pending batches = (.ok details, left) := by
  induction ordered generalizing pending batches with
  | nil => exact ⟨[], batches, rfl⟩
  | cons batch ordered ih =>
    by_cases hzero : pending.isZero = true
    · rw [allocate, if_pos hzero]
      exact ⟨[], batches, rfl⟩
    · set take := if pending.isGreaterThan batch.quantityRemaining then batch.quantityRemaining
        else pending with htake
      have hbounds : take.milli ≤ batch.quantityRemaining.milli ∧ take.milli ≤ pending.milli := by
        rw [htake]
        split_ifs with hgreater
        · rw [Quantity.isGreaterThan_iff] at hgreater
          omega
        · rw [Quantity.isGreaterThan_iff] at hgreater
          omega
      obtain ⟨drawn, hdrawn⟩ := hdraw batch take hbounds.1
      obtain ⟨rest, hrest⟩ := Quantity.exists_subtract hbounds.2
      obtain ⟨details, left, hallocate⟩ :=
        ih rest (Rows.updateWhere (fun b => b.id = drawn.id) (fun _ => drawn) batches)
      rw [allocate, if_neg hzero, ← htake]
      simp only [hdrawn, hrest, hallocate]
      exact ⟨_, _, rfl⟩

/-! ## The methods that check first -/

/-- The call ends well, or changes nothing. -/
def Clean (item : InventoryItem) (outcome : Outcome) : Prop :=
  (∃ left, outcome = (.ok (), left)) ∨ Refuses item outcome

theorem clean_recivedBatch (batchId branchId : Uuid) (quantityReceived : Quantity)
    (unitCost : Money) (expirationDate : Option Instant) (receivedAt : Option JsDate) :
    Clean item (item.recivedBatch decimal batchId branchId quantityReceived unitCost
      expirationDate receivedAt now) := by
  unfold recivedBatch
  split_ifs
  · exact .inr ⟨_, rfl⟩
  · exact .inr ⟨_, rfl⟩
  all_goals
    cases InventoryBatch.create batchId branchId quantityReceived unitCost _ receivedAt now with
    | error e => exact .inr ⟨e, rfl⟩
    | ok batch => exact .inl ⟨_, rfl⟩

theorem clean_consume (quantity : Quantity) (date : Option JsDate) :
    Clean item (item.consume decimal quantity date now) := by
  obtain ⟨details, left, hallocate⟩ := exists_allocate_ok decimal takesWhatIsLeft_consume
    (sortPorFefo (item.batches.filter (·.isActive (date.getD (some now))))) quantity item.batches
  unfold consume
  simp only [hallocate]
  split_ifs
  · exact .inr ⟨_, rfl⟩
  · exact .inr ⟨_, rfl⟩
  · exact .inr ⟨_, rfl⟩
  · exact .inl ⟨_, rfl⟩

theorem clean_registerWaste (branchId : Uuid) (quantity : Quantity) (reason : JsString)
    (occurredAt : Option JsDate) :
    Clean item (item.registerWaste decimal branchId quantity reason occurredAt now) := by
  obtain ⟨details, left, hallocate⟩ := exists_allocate_ok decimal takesWhatIsLeft_waste
    (sortPorFefo (item.activateBatchesOfBranch branchId (occurredAt.getD (some now)))) quantity
    item.batches
  unfold registerWaste
  simp only [hallocate]
  split_ifs
  · exact .inr ⟨_, rfl⟩
  · exact .inr ⟨_, rfl⟩
  · exact .inr ⟨_, rfl⟩
  · exact .inl ⟨_, rfl⟩

theorem clean_countStock (branchId : Uuid) (actualTotal : Quantity) (reason : JsString)
    (occurredAt : Option JsDate) :
    Clean item (item.countStock decimal branchId actualTotal reason occurredAt now) := by
  unfold countStock
  simp only
  split_ifs
  · exact .inr ⟨_, rfl⟩
  · exact .inr ⟨_, rfl⟩
  · exact .inr ⟨_, rfl⟩
  · cases (item.currentStockForBranch branchId (occurredAt.getD (some now))).subtract
      actualTotal with
    | error e => exact .inr ⟨_, rfl⟩
    | ok missing =>
      obtain ⟨details, left, hallocate⟩ := exists_allocate_ok decimal takesWhatIsLeft_adjustOut
        (sortPorFefo (item.activateBatchesOfBranch branchId (occurredAt.getD (some now)))) missing
        item.batches
      simp only [hallocate]
      exact .inl ⟨_, rfl⟩

theorem clean_setMinimumsForBranches (configId : Uuid → Uuid)
    (entries : List (Uuid × Option Quantity)) :
    Clean item (item.setMinimumsForBranches configId entries now) := by
  by_cases hrefused : entries = [] ∨ ¬ (entries.map Prod.fst).Nodup
  · exact .inr (setMinimumsForBranches_of_refused hrefused)
  · obtain ⟨hne, hnodup⟩ := not_or.mp hrefused
    exact .inl ⟨_, setMinimumsForBranches_of_accepted hne (not_not.mp hnodup)⟩

/-! ## Atomic calls -/

/-- What is seen of an item: its primitives and its pending events. -/
def observed (decimal : DecimalJs) (item : InventoryItem) :
    InventoryItemPrimitives × List DomainEvent :=
  (item.toPrimitives decimal, item.domainEvents)

theorem atomicAt_of_clean {m : InventoryItem → Outcome} (h : Clean item (m item)) :
    AtomicAt (observed decimal) (fun item => ended (m item)) item := by
  rcases h with ⟨left, hok⟩ | ⟨e, herror⟩
  · apply atomicAt_of_ok
    show ended (m item) = _
    rw [hok]
    rfl
  · apply atomicAt_of_same
    show (m item).2 = item
    rw [herror]

/-! ## `update` -/

variable {name : Option InventoryItemName} {unitOfMeasure : Option MeasurementUnit}
  {isPerishable : Option Bool}

/-- Of an item that has another name, the name is seen. -/
theorem observed_rename : observed decimal { item with name := name.getD item.name } =
    observed decimal item ↔ ∀ other ∈ name, other.value = item.name.value := by
  cases name with
  | none => exact iff_of_true rfl nofun
  | some other =>
    constructor
    · intro h value hvalue
      obtain rfl : other = value := Option.some.inj hvalue
      exact congrArg (fun seen => seen.1.name) h
    · intro hname
      unfold observed toPrimitives
      rw [Option.getD_some, hname other rfl]

/-- With batches, the unit or the perishability is refused when the name is
    already assigned. -/
theorem update_of_batches (name : Option InventoryItemName) (now : Instant)
    (hbatches : item.batches ≠ [])
    (hsent : unitOfMeasure.isSome ∨ isPerishable.isSome) :
    ∃ e, item.update name unitOfMeasure isPerishable now =
      (.error e, { item with name := name.getD item.name }) := by
  have hlength : 0 < item.batches.length := List.length_pos_iff.mpr hbatches
  cases unitOfMeasure with
  | some unitOfMeasure =>
    unfold update
    rw [if_neg (by simp), if_pos (by simp [hlength])]
    exact ⟨_, rfl⟩
  | none =>
    obtain ⟨value, rfl⟩ := Option.isSome_iff_exists.mp (hsent.resolve_left nofun)
    unfold update
    rw [if_neg (by simp), if_neg (by simp), if_pos (by simp [hlength])]
    exact ⟨_, rfl⟩

theorem clean_update
    (h : item.batches = [] ∨ (unitOfMeasure = none ∧ isPerishable = none)) :
    Clean item (item.update name unitOfMeasure isPerishable now) := by
  unfold update
  by_cases hempty : (name.isNone && unitOfMeasure.isNone && isPerishable.isNone) = true
  · rw [if_pos hempty]
    exact .inr ⟨_, rfl⟩
  · rw [if_neg hempty, if_neg, if_neg]
    · exact .inl ⟨_, rfl⟩
    all_goals
      rw [Bool.and_eq_true, decide_eq_true_iff]
      rintro ⟨hsome, hlength⟩
      rcases h with hnone | ⟨rfl, rfl⟩
      · exact List.length_pos_iff.mp hlength hnone
      · cases hsome

theorem atomicAt_update_iff :
    AtomicAt (observed decimal)
      (fun item => ended (item.update name unitOfMeasure isPerishable now)) item ↔
        item.batches = [] ∨ (unitOfMeasure = none ∧ isPerishable = none) ∨
          ∀ other ∈ name, other.value = item.name.value := by
  by_cases hclean : item.batches = [] ∨ (unitOfMeasure = none ∧ isPerishable = none)
  · refine iff_of_true (atomicAt_of_clean (clean_update hclean)) ?_
    exact hclean.imp_right .inl
  · obtain ⟨hbatches, hsent⟩ := not_or.mp hclean
    have hsent : unitOfMeasure.isSome ∨ isPerishable.isSome := by
      rw [not_and_or] at hsent
      exact hsent.imp Option.isSome_iff_ne_none.mpr Option.isSome_iff_ne_none.mpr
    obtain ⟨e, hupdate⟩ := update_of_batches name now hbatches hsent
    have hrename : observed decimal { item with name := name.getD item.name } =
        observed decimal item ↔ ∀ other ∈ name, other.value = item.name.value := observed_rename
    rw [← or_assoc, or_iff_right hclean, ← hrename]
    apply atomicAt_iff_of_error
    show ended (item.update name unitOfMeasure isPerishable now) = _
    rw [hupdate]
    rfl

/-! ## All the methods -/

/-- The calls of which nothing is seen where they throw. -/
def Mutation.ChecksFirst (item : InventoryItem) : Mutation → Prop
  | .update name unitOfMeasure isPerishable =>
    item.batches = [] ∨ (unitOfMeasure = none ∧ isPerishable = none) ∨
      ∀ other ∈ name, other.value = item.name.value
  | _ => True

/-- The methods that change an item show nothing of a call that throws, except in one
    case: `update` with a new name together with a unit or a perishability, on an
    item that has batches. -/
theorem atomic_iff_nameFirst (decimal : DecimalJs) (item : InventoryItem) (call : Mutation)
    (now : Instant) :
    (∀ e after, call.run decimal now item = (.error e, after) →
      after.toPrimitives decimal = item.toPrimitives decimal ∧
        after.domainEvents = item.domainEvents) ↔
    call.ChecksFirst item := by
  have hobserved : (∀ e after, call.run decimal now item = (.error e, after) →
      after.toPrimitives decimal = item.toPrimitives decimal ∧
        after.domainEvents = item.domainEvents) ↔
      AtomicAt (observed decimal) (fun item => call.run decimal now item) item := by
    unfold AtomicAt observed
    simp only [Prod.mk.injEq]
  rw [hobserved]
  cases call with
  | recivedBatch batchId branchId quantityReceived unitCost expirationDate receivedAt =>
    exact iff_of_true (atomicAt_of_clean (clean_recivedBatch ..)) trivial
  | consume quantity date => exact iff_of_true (atomicAt_of_clean (clean_consume ..)) trivial
  | registerWaste branchId quantity reason occurredAt =>
    exact iff_of_true (atomicAt_of_clean (clean_registerWaste ..)) trivial
  | countStock branchId actualTotal reason occurredAt =>
    exact iff_of_true (atomicAt_of_clean (clean_countStock ..)) trivial
  | setGlobalMinimum minStock => exact iff_of_true (atomicAt_of_ok rfl) trivial
  | setMinimumForBranch configId branchId minStock =>
    exact iff_of_true (atomicAt_of_ok rfl) trivial
  | setMinimumsForBranches configId entries =>
    exact iff_of_true (atomicAt_of_clean (clean_setMinimumsForBranches ..)) trivial
  | update name unitOfMeasure isPerishable => exact atomicAt_update_iff
  | activate =>
    refine iff_of_true ?_ trivial
    by_cases hactive : item.isActive = true
    · exact atomicAt_of_same (congrArg Prod.snd (if_pos hactive))
    · exact atomicAt_of_ok (if_neg hactive)
  | desactivate =>
    refine iff_of_true ?_ trivial
    by_cases hactive : (!item.isActive) = true
    · exact atomicAt_of_same (congrArg Prod.snd (if_pos hactive))
    · exact atomicAt_of_ok (if_neg hactive)

/-- A new name and a unit for an item that has a batch: `update` throws, and the item
    has the new name. -/
theorem not_atomic_update_name :
    ¬ ∀ e after, (Mutation.update (some ⟨js "Cebolla", by decide, by decide⟩) (some .gram)
        none).run plainDecimal 2000 (stocked [3000]) = (.error e, after) →
      after.toPrimitives plainDecimal = (stocked [3000]).toPrimitives plainDecimal ∧
        after.domainEvents = (stocked [3000]).domainEvents := by
  intro h
  have hatomic : AtomicAt (observed plainDecimal) (fun item => ended (item.update
      (some ⟨js "Cebolla", by decide, by decide⟩) (some .gram) none 2000)) (stocked [3000]) :=
    fun e after herror => Prod.ext (h e after herror).1 (h e after herror).2
  rcases atomicAt_update_iff.mp hatomic with hbatches | ⟨hunit, -⟩ | hname
  · exact absurd hbatches (by decide)
  · exact absurd hunit (by decide)
  · exact absurd (hname _ rfl) (by decide)

end InventoryItem

end KomiSaas.Inventory
