import KomiSaas.Inventory.Aggregate
import KomiSaas.Shared.DateParse

/-!
# Items that the factories build and the methods change

Every id, name and expiration date that an item holds went through a factory that
checks it. `Storable` is what those checks say, each method keeps it, also where it
throws (`storable_run`), and so every reachable item has it (`Reachable.storable`).
-/

namespace KomiSaas.Inventory

open KomiSaas.Lib KomiSaas.Shared

/-- The id and the date of a batch passed the checks of their factories. -/
structure InventoryBatch.Storable (isUuid : JsString → Bool) (batch : InventoryBatch) : Prop where
  id : isUuid batch.id = true
  expirationDate : ∀ date ∈ batch.expirationDate, isTimeValue date = true

namespace InventoryItem

/-- The ids, the name and the dates of an item passed the checks of their factories. -/
structure Storable (isUuid : JsString → Bool) (item : InventoryItem) : Prop where
  id : isUuid item.id = true
  name : trim item.name.value = item.name.value
  batches : ∀ batch ∈ item.batches, batch.Storable isUuid
  branchConfigs : ∀ config ∈ item.branchConfigs, isUuid config.id = true

/-- The arguments of a call come from their factories: a new id from the constructor
    of `Uuid`, a name from `InventoryItemName.create`, and a date is a valid one. -/
def Mutation.Built (isUuid : JsString → Bool) : Mutation → Prop
  | .recivedBatch batchId _ _ _ expirationDate _ =>
    isUuid batchId = true ∧ ∀ date ∈ expirationDate, isTimeValue date = true
  | .setMinimumForBranch configId _ _ => isUuid configId = true
  | .setMinimumsForBranches configId entries => ∀ entry ∈ entries, isUuid (configId entry.1) = true
  | .update name _ _ => ∀ other ∈ name, ∃ raw, InventoryItemName.create raw = .ok other
  | _ => True

/-- The items that the factories build and the methods change, also where they throw. -/
inductive Reachable (isUuid : JsString → Bool) (other : JsString → JsDate) (decimal : DecimalJs) :
    InventoryItem → Prop
  | create {id tenantId : Uuid} {sku raw : JsString} {name : InventoryItemName}
      {unitOfMeasure : MeasurementUnit} {isPerishable : Bool} {now : Instant} :
      isUuid id = true → InventoryItemName.create raw = .ok name →
        Reachable isUuid other decimal
          (InventoryItem.create id tenantId sku name unitOfMeasure isPerishable now)
  | fromPrimitives {p : InventoryItemPrimitives} {item : InventoryItem} :
      InventoryItem.fromPrimitives isUuid (newDate other) decimal p = .ok item →
        Reachable isUuid other decimal item
  | run {item : InventoryItem} {call : Mutation} {now : Instant} :
      Reachable isUuid other decimal item → call.Built isUuid →
        Reachable isUuid other decimal (call.run decimal now item).2

variable {isUuid : JsString → Bool} {other : JsString → JsDate} {decimal : DecimalJs}
  {item : InventoryItem} {now : Instant} {batch drawn : InventoryBatch}
  {batches ordered : List InventoryBatch} {quantity : Quantity}
  {draw : InventoryBatch → Quantity → Except InventoryException InventoryBatch}

/-! ### The factories -/

theorem trim_of_create {raw : JsString} {name : InventoryItemName}
    (h : InventoryItemName.create raw = .ok name) : trim name.value = name.value := by
  unfold InventoryItemName.create at h
  simp only at h
  split_ifs at h
  rw [← Except.ok.inj h]
  exact trim_trim raw

theorem eq_of_createId {value : JsString} {id : Uuid} (h : createId isUuid value = .ok id) :
    isUuid id = true := by
  unfold createId at h
  split_ifs at h with hvalid
  rw [← Except.ok.inj h]
  exact hvalid

/-- A date that was read from a text is a valid one. -/
theorem isTimeValue_of_readOptional {text : Option JsString} {expirationDate : Option Instant}
    (h : readOptional (InventoryBatchExpirationDate.create (newDate other)) text =
      .ok expirationDate) : ∀ date ∈ expirationDate, isTimeValue date = true := by
  intro date hdate
  cases text with
  | none =>
    obtain rfl : none = expirationDate := Except.ok.inj h
    cases hdate
  | some raw =>
    obtain ⟨read, hread, rfl⟩ := map_eq_ok.mp h
    obtain rfl : read = date := Option.some.inj hdate
    unfold InventoryBatchExpirationDate.create at hread
    cases hnew : newDate other raw with
    | none =>
      rw [hnew] at hread
      cases hread
    | some value =>
      rw [hnew] at hread
      rw [← Except.ok.inj hread]
      exact isTimeValue_of_newDate hnew

theorem storable_batch_fromPrimitives {p : InventoryBatchPrimitives}
    (h : InventoryBatch.fromPrimitives isUuid (newDate other) decimal p = .ok batch) :
    batch.Storable isUuid := by
  obtain ⟨id, hid, h⟩ := bind_eq_ok.mp h
  obtain ⟨received, -, h⟩ := bind_eq_ok.mp h
  obtain ⟨remaining, -, h⟩ := bind_eq_ok.mp h
  obtain ⟨unitCost, -, h⟩ := bind_eq_ok.mp h
  obtain ⟨expirationDate, hdate, h⟩ := bind_eq_ok.mp h
  rw [← Except.ok.inj h]
  exact ⟨eq_of_createId hid, isTimeValue_of_readOptional hdate⟩

theorem storable_fromPrimitives {p : InventoryItemPrimitives}
    (h : InventoryItem.fromPrimitives isUuid (newDate other) decimal p = .ok item) :
    item.Storable isUuid := by
  obtain ⟨id, hid, h⟩ := bind_eq_ok.mp h
  obtain ⟨name, hname, h⟩ := bind_eq_ok.mp h
  obtain ⟨unitOfMeasure, -, h⟩ := bind_eq_ok.mp h
  obtain ⟨batches, hbatches, h⟩ := bind_eq_ok.mp h
  obtain ⟨minGlobalStock, -, h⟩ := bind_eq_ok.mp h
  obtain ⟨branchConfigs, hconfigs, h⟩ := bind_eq_ok.mp h
  rw [← Except.ok.inj h]
  refine ⟨eq_of_createId hid, trim_of_create (mapError_eq_ok.mp hname), ?_, ?_⟩
  · intro batch hbatch
    obtain ⟨p, -, hp⟩ := exists_of_forall₂ (mapM_eq_ok.mp hbatches) hbatch
    exact storable_batch_fromPrimitives hp
  · intro config hconfig
    obtain ⟨p, -, hp⟩ := exists_of_forall₂ (mapM_eq_ok.mp hconfigs) hconfig
    obtain ⟨id, hid, hp⟩ := bind_eq_ok.mp hp
    obtain ⟨minStock, -, hp⟩ := bind_eq_ok.mp hp
    rw [← Except.ok.inj hp]
    exact eq_of_createId hid

/-! ### The methods -/

/-- The call changes no more of a batch than what remains of it. -/
def KeepsStorable (isUuid : JsString → Bool)
    (draw : InventoryBatch → Quantity → Except InventoryException InventoryBatch) : Prop :=
  ∀ batch quantity drawn, batch.Storable isUuid → draw batch quantity = .ok drawn →
    drawn.Storable isUuid

theorem keepsStorable_adjustOut : KeepsStorable isUuid adjustOut := by
  intro batch quantity drawn hbatch h
  unfold adjustOut at h
  cases hsubtract : batch.quantityRemaining.subtract quantity with
  | error e =>
    rw [hsubtract] at h
    cases h
  | ok remaining =>
    rw [hsubtract] at h
    rw [← Except.ok.inj h]
    exact ⟨hbatch.id, hbatch.expirationDate⟩

/-- Past its check, `reduce` takes from the batch what the loop of `countStock` takes. -/
theorem adjustOut_of_reduce (h : batch.reduce quantity = .ok drawn) :
    adjustOut batch quantity = .ok drawn := by
  unfold InventoryBatch.reduce at h
  split_ifs at h
  exact h

theorem keepsStorable_reduce : KeepsStorable isUuid InventoryBatch.reduce :=
  fun batch quantity drawn hbatch h =>
    keepsStorable_adjustOut batch quantity drawn hbatch (adjustOut_of_reduce h)

/-- The loop writes back batches that stay storable, also where it throws. -/
theorem storable_allocate (hdraw : KeepsStorable isUuid draw) (pending : Quantity)
    (hordered : ∀ batch ∈ ordered, batch.Storable isUuid)
    (hbatches : ∀ batch ∈ batches, batch.Storable isUuid) :
    ∀ batch ∈ (allocate decimal draw ordered pending batches).2, batch.Storable isUuid := by
  induction ordered generalizing pending batches with
  | nil => exact hbatches
  | cons first ordered ih =>
    rw [List.forall_mem_cons] at hordered
    by_cases hzero : pending.isZero = true
    · rw [allocate, if_pos hzero]
      exact hbatches
    · rw [allocate, if_neg hzero]
      simp only
      set take := if pending.isGreaterThan first.quantityRemaining then first.quantityRemaining
        else pending
      cases hdrawn : draw first take with
      | error e => exact hbatches
      | ok drawn =>
        have hwritten : ∀ batch ∈ Rows.updateWhere (fun b => b.id = drawn.id) (fun _ => drawn)
            batches, batch.Storable isUuid := by
          intro batch hbatch
          rcases Rows.mem_updateWhere hbatch with ⟨hsame, -⟩ | ⟨-, -, -, hwrite⟩
          · exact hbatches batch hsame
          · rw [show batch = drawn from hwrite]
            exact hdraw first take drawn hordered.1 hdrawn
        simp only
        cases pending.subtract take with
        | error e => exact hwritten
        | ok rest =>
          have hrest := ih rest hordered.2 hwritten
          simp only
          cases hallocate : allocate decimal draw ordered rest (Rows.updateWhere
              (fun b => b.id = drawn.id) (fun _ => drawn) batches) with
          | mk result left =>
            rw [hallocate] at hrest
            cases result with
            | error e => exact hrest
            | ok details => exact hrest

theorem Storable.withBatches (h : item.Storable isUuid)
    (hbatches : ∀ batch ∈ batches, batch.Storable isUuid) :
    { item with batches := batches }.Storable isUuid :=
  ⟨h.id, h.name, hbatches, h.branchConfigs⟩

/-- The item after the loop over some of its batches, in the order of expiry. -/
theorem storable_allocate_sorted (hdraw : KeepsStorable isUuid draw) (h : item.Storable isUuid)
    (p : InventoryBatch → Bool) (pending : Quantity) :
    { item with batches := (allocate decimal draw (sortPorFefo (item.batches.filter p)) pending
      item.batches).2 }.Storable isUuid := by
  apply h.withBatches
  apply storable_allocate hdraw
  · intro batch hbatch
    have hmem : batch ∈ item.batches.filter p := (List.mergeSort_perm _ _).mem_iff.mp hbatch
    exact h.batches batch (List.mem_of_mem_filter hmem)
  · exact h.batches

/-- The same of the batches of a branch. -/
theorem storable_allocate_branch (hdraw : KeepsStorable isUuid draw) (h : item.Storable isUuid)
    (branchId : Uuid) (date : JsDate) (pending : Quantity) :
    { item with batches := (allocate decimal draw
      (sortPorFefo (item.activateBatchesOfBranch branchId date)) pending
      item.batches).2 }.Storable isUuid :=
  storable_allocate_sorted hdraw h _ pending

/-- Events and the date of the update are not looked at. -/
theorem Storable.registerEvent (h : item.Storable isUuid) (event : DomainEvent) :
    (item.registerEvent event).Storable isUuid :=
  ⟨h.id, h.name, h.batches, h.branchConfigs⟩

theorem Storable.touch (h : item.Storable isUuid) (now : Instant) :
    (item.touch now).Storable isUuid :=
  ⟨h.id, h.name, h.batches, h.branchConfigs⟩

theorem storable_recivedBatch {batchId : Uuid} {expirationDate : Option Instant}
    (h : item.Storable isUuid) (hid : isUuid batchId = true)
    (hdate : ∀ date ∈ expirationDate, isTimeValue date = true) (branchId : Uuid)
    (quantityReceived : Quantity) (unitCost : Money) (receivedAt : Option JsDate) :
    (item.recivedBatch decimal batchId branchId quantityReceived unitCost expirationDate
      receivedAt now).2.Storable isUuid := by
  have hkept : ∀ date ∈ (if item.isPerishable then expirationDate else none),
      isTimeValue date = true := by
    intro date hmem
    split_ifs at hmem
    · exact hdate date hmem
    · cases hmem
  unfold recivedBatch
  by_cases hactive : (!item.isActive) = true
  · rw [if_pos hactive]
    exact h
  by_cases hmissing : (item.isPerishable && expirationDate.isNone) = true
  · rw [if_neg hactive, if_pos hmissing]
    exact h
  rw [if_neg hactive, if_neg hmissing]
  cases hcreate : InventoryBatch.create batchId branchId quantityReceived unitCost
      (if item.isPerishable then expirationDate else none) receivedAt now with
  | error e => exact h
  | ok batch =>
    obtain ⟨-, rfl⟩ := InventoryBatch.create_ok hcreate
    refine ((h.withBatches ?_).registerEvent _).touch now
    intro batch hbatch
    rcases List.mem_append.mp hbatch with hbatch | hbatch
    · exact h.batches batch hbatch
    · rw [List.mem_singleton.mp hbatch]
      exact ⟨hid, hkept⟩

theorem storable_consume (h : item.Storable isUuid) (quantity : Quantity)
    (date : Option JsDate) :
    (item.consume decimal quantity date now).2.Storable isUuid := by
  have hleft := @storable_allocate_sorted isUuid decimal item InventoryBatch.consume
    keepsStorable_reduce h (·.isActive (date.getD (some now))) quantity
  unfold consume
  simp only
  split_ifs
  · exact h
  · exact h
  · exact h
  · cases hallocate : allocate decimal InventoryBatch.consume
      (sortPorFefo (item.batches.filter (·.isActive (date.getD (some now))))) quantity
      item.batches with
    | mk result left =>
      rw [hallocate] at hleft
      cases result with
      | error e => exact hleft
      | ok details =>
        simp only
        cases (item.activeBranches (date.getD (some now))).head? with
        | none => exact hleft.touch now
        | some branchId => exact (hleft.registerEvent _).touch now

theorem storable_registerWaste (h : item.Storable isUuid) (branchId : Uuid)
    (quantity : Quantity) (reason : JsString) (occurredAt : Option JsDate) :
    (item.registerWaste decimal branchId quantity reason occurredAt now).2.Storable isUuid := by
  have hleft := @storable_allocate_branch isUuid decimal item InventoryBatch.waste
    keepsStorable_reduce h branchId (occurredAt.getD (some now)) quantity
  unfold registerWaste
  simp only
  split_ifs
  · exact h
  · exact h
  · exact h
  · cases hallocate : allocate decimal InventoryBatch.waste
      (sortPorFefo (item.activateBatchesOfBranch branchId (occurredAt.getD (some now)))) quantity
      item.batches with
    | mk result left =>
      rw [hallocate] at hleft
      cases result with
      | error e => exact hleft
      | ok details => exact (hleft.registerEvent _).touch now

theorem storable_countStock (h : item.Storable isUuid) (branchId : Uuid)
    (actualTotal : Quantity) (reason : JsString) (occurredAt : Option JsDate) :
    (item.countStock decimal branchId actualTotal reason occurredAt now).2.Storable isUuid := by
  unfold countStock
  simp only
  split_ifs
  · exact h
  · exact h
  · exact h
  · cases (item.currentStockForBranch branchId (occurredAt.getD (some now))).subtract
      actualTotal with
    | error e => exact h
    | ok missing =>
      have hleft := @storable_allocate_branch isUuid decimal item adjustOut
        keepsStorable_adjustOut h branchId (occurredAt.getD (some now)) missing
      simp only
      cases hallocate : allocate decimal adjustOut
        (sortPorFefo (item.activateBatchesOfBranch branchId (occurredAt.getD (some now)))) missing
        item.batches with
      | mk result left =>
        rw [hallocate] at hleft
        cases result with
        | error e => exact hleft
        | ok details => exact (hleft.registerEvent _).touch now

theorem storable_setMinimumForBranch {configId : Uuid} (h : item.Storable isUuid)
    (hid : isUuid configId = true) (branchId : Uuid) (minStock : Option Quantity) :
    (item.setMinimumForBranch configId branchId minStock now).Storable isUuid := by
  cases minStock with
  | none =>
    refine ⟨h.id, h.name, h.batches, ?_⟩
    intro config hconfig
    exact h.branchConfigs config (List.mem_of_mem_eraseP hconfig)
  | some minStock =>
    refine ⟨h.id, h.name, h.batches, ?_⟩
    intro config hconfig
    rcases Rows.mem_upsert hconfig with rfl | hconfig
    · cases hfind : Rows.find (·.branchId) branchId item.branchConfigs with
      | none => exact hid
      | some existing => exact h.branchConfigs existing (Rows.mem_of_find hfind).1
    · exact h.branchConfigs config hconfig

theorem storable_setMinimumsForBranches {configId : Uuid → Uuid}
    {entries : List (Uuid × Option Quantity)} (h : item.Storable isUuid)
    (hids : ∀ entry ∈ entries, isUuid (configId entry.1) = true) :
    (item.setMinimumsForBranches configId entries now).2.Storable isUuid := by
  have hloop : ∀ item : InventoryItem, item.Storable isUuid → (entries.foldl
      (fun item entry => item.setMinimumForBranch (configId entry.1) entry.1 entry.2 now)
      item).Storable isUuid := by
    induction entries with
    | nil => exact fun _ h => h
    | cons entry entries ih =>
      rw [List.forall_mem_cons] at hids
      intro item h
      exact ih hids.2 _ (storable_setMinimumForBranch h hids.1 entry.1 entry.2)
  unfold setMinimumsForBranches
  by_cases hempty : entries = []
  · rw [if_pos hempty]
    exact h
  · rw [if_neg hempty]
    cases Rows.firstRepeated [] (entries.map Prod.fst) with
    | some branchId => exact h
    | none => exact (hloop item h).touch now

theorem storable_update {name : Option InventoryItemName} (h : item.Storable isUuid)
    (hname : ∀ other ∈ name, ∃ raw, InventoryItemName.create raw = .ok other)
    (unitOfMeasure : Option MeasurementUnit) (isPerishable : Option Bool) :
    (item.update name unitOfMeasure isPerishable now).2.Storable isUuid := by
  have hnamed : trim (name.getD item.name).value = (name.getD item.name).value := by
    cases name with
    | none => exact h.name
    | some other =>
      obtain ⟨raw, hraw⟩ := hname other rfl
      exact trim_of_create hraw
  unfold update
  simp only
  split_ifs
  · exact h
  · exact ⟨h.id, hnamed, h.batches, h.branchConfigs⟩
  · exact ⟨h.id, hnamed, h.batches, h.branchConfigs⟩
  · exact ⟨h.id, hnamed, h.batches, h.branchConfigs⟩

/-- What one call leaves is storable, also where it throws. -/
theorem storable_run {call : Mutation} (h : item.Storable isUuid) (hbuilt : call.Built isUuid) :
    (call.run decimal now item).2.Storable isUuid := by
  cases call with
  | recivedBatch batchId branchId quantityReceived unitCost expirationDate receivedAt =>
    exact storable_recivedBatch h hbuilt.1 hbuilt.2 ..
  | consume quantity date => exact storable_consume h ..
  | registerWaste branchId quantity reason occurredAt => exact storable_registerWaste h ..
  | countStock branchId actualTotal reason occurredAt => exact storable_countStock h ..
  | setGlobalMinimum minStock => exact ⟨h.id, h.name, h.batches, h.branchConfigs⟩
  | setMinimumForBranch configId branchId minStock =>
    exact storable_setMinimumForBranch h hbuilt ..
  | setMinimumsForBranches configId entries => exact storable_setMinimumsForBranches h hbuilt
  | update name unitOfMeasure isPerishable => exact storable_update h hbuilt ..
  | activate =>
    show (item.activate now).2.Storable isUuid
    unfold activate
    split_ifs
    · exact h
    · exact ⟨h.id, h.name, h.batches, h.branchConfigs⟩
  | desactivate =>
    show (item.desactivate now).2.Storable isUuid
    unfold desactivate
    split_ifs
    · exact h
    · exact ⟨h.id, h.name, h.batches, h.branchConfigs⟩

/-- Of a whole run. -/
theorem Reachable.storable (h : Reachable isUuid other decimal item) : item.Storable isUuid := by
  induction h with
  | create hid hname =>
    exact ⟨hid, trim_of_create hname, fun _ h => absurd h List.not_mem_nil,
      fun _ h => absurd h List.not_mem_nil⟩
  | fromPrimitives h => exact storable_fromPrimitives h
  | run _ hbuilt ih => exact storable_run ih hbuilt

end InventoryItem

end KomiSaas.Inventory
