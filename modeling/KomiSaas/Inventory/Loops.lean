import KomiSaas.Inventory.Stock

/-!
# The three loops take the same

Where the stock of the branch covers the quantity, the loop takes all of it and
empties every batch but the last it takes from (`allocate_sum`), whichever of
the three calls reduces a batch (`allocate_congr`). So `registerWaste`,
`countStock` and `consume` end with the same batches (`loops_agree`), and
outside their preconditions each throws and changes nothing.

Sums and differences are exact below `10 ^ 20` thousandths.
-/

namespace KomiSaas.Inventory

open KomiSaas.Lib KomiSaas.Shared

variable {decimal : DecimalJs} {batches ordered : List InventoryBatch} {details : List BatchDetail}
  {batch : InventoryBatch} {item : InventoryItem} {pending : Quantity}
  {draw draw' : InventoryBatch → Quantity → Except InventoryException InventoryBatch}

/-! ## The loop -/

theorem fits_of_totalMilli (h : totalMilli batches < 10 ^ decimalPrecision) : Fits batches := by
  intro batch hmem
  have hle : batch.quantityRemaining.milli ≤ totalMilli batches :=
    List.le_sum_of_mem (List.mem_map_of_mem hmem)
  omega

/-- What is taken in one turn never exceeds what is left in the batch. -/
theorem taken_le_remaining (pending : Quantity) (batch : InventoryBatch) :
    (if pending.isGreaterThan batch.quantityRemaining then batch.quantityRemaining
      else pending).milli ≤ batch.quantityRemaining.milli := by
  split_ifs with h
  · exact le_rfl
  · rw [Quantity.isGreaterThan_iff] at h
    omega

/-- The loop does the same with any call that reduces a batch. -/
theorem allocate_congr (hdraw : Reduces draw) (hdraw' : Reduces draw') (hfit : Fits ordered) :
    allocate decimal draw ordered pending batches =
      allocate decimal draw' ordered pending batches := by
  induction ordered generalizing pending batches with
  | nil => rfl
  | cons batch ordered ih =>
    have hle := taken_le_remaining pending batch
    have hbatch := hfit batch List.mem_cons_self
    simp only [allocate, hdraw batch _ hle hbatch, hdraw' batch _ hle hbatch,
      ih fun b hb => hfit b (List.mem_cons_of_mem _ hb)]

/-- With nothing pending the loop stops. -/
theorem allocate_of_isZero {batches' : List InventoryBatch}
    (h : allocate decimal draw ordered pending batches = (.ok details, batches'))
    (hzero : pending.isZero = true) : details = [] := by
  cases ordered with
  | nil => exact (Except.ok.inj (Prod.mk.inj h).1).symm
  | cons batch ordered =>
    rw [allocate, if_pos hzero] at h
    exact (Except.ok.inj (Prod.mk.inj h).1).symm

/-- One turn of a loop that succeeds takes all that is pending or all that is left
    in the batch, and goes on with the rest. -/
theorem allocate_cons_ok {batches' : List InventoryBatch} (hpending : ¬ pending.isZero = true)
    (hremaining : 0 < batch.quantityRemaining.milli)
    (hfit : pending.milli < 10 ^ decimalPrecision)
    (h : allocate decimal draw (batch :: ordered) pending batches = (.ok details, batches')) :
    ∃ take rest between, details = BatchDetail.of decimal batch take :: rest ∧
      take.milli ≤ pending.milli ∧
      (take.milli = pending.milli ∨ take.milli = batch.quantityRemaining.milli) ∧
      allocate decimal draw ordered ⟨pending.milli - take.milli⟩ between =
        (.ok rest, batches') := by
  have hpos : 0 < pending.milli := by
    rw [Quantity.isZero_iff] at hpending
    omega
  rw [allocate, if_neg hpending] at h
  set take := if pending.isGreaterThan batch.quantityRemaining then batch.quantityRemaining
    else pending with htake
  obtain ⟨-, -, hneeded, hall⟩ := taken_bounds hpos hremaining htake
  have hrest : pending.subtract take = .ok ⟨pending.milli - take.milli⟩ :=
    Quantity.subtract_ok hneeded hfit
  simp only [hrest] at h
  split at h
  · cases (Prod.mk.inj h).1
  split at h
  · cases (Prod.mk.inj h).1
  next rest batches'' hloop =>
  obtain ⟨hdetails, rfl⟩ := Prod.mk.inj h
  exact ⟨take, rest, _, (Except.ok.inj hdetails).symm, hneeded, hall, hloop⟩

/-- With stock for all that is pending, the loop takes all of it, and empties
    every batch before it goes on to the next. -/
theorem allocate_sum {batches' : List InventoryBatch}
    (h : allocate decimal draw ordered pending batches = (.ok details, batches'))
    (hpos : ∀ b ∈ ordered, 0 < b.quantityRemaining.milli)
    (hfit : totalMilli ordered < 10 ^ decimalPrecision)
    (hle : pending.milli ≤ totalMilli ordered) :
    (details.map (·.milli decimal)).sum = pending.milli ∧
      ∀ detail ∈ details.dropLast, ∃ batch ∈ ordered,
        detail = BatchDetail.of decimal batch batch.quantityRemaining := by
  induction ordered generalizing pending batches details with
  | nil =>
    obtain rfl := Except.ok.inj (Prod.mk.inj h).1
    have hzero : pending.milli = 0 := Nat.le_zero.mp hle
    exact ⟨hzero.symm, by simp⟩
  | cons batch ordered ih =>
    by_cases hzero : pending.isZero = true
    · obtain rfl := allocate_of_isZero h hzero
      rw [Quantity.isZero_iff] at hzero
      exact ⟨hzero.symm, by simp⟩
    obtain ⟨take, rest, between, rfl, hneeded, hall, hloop⟩ :=
      allocate_cons_ok hzero (hpos batch List.mem_cons_self) (by omega) h
    rw [totalMilli_cons] at hfit hle
    obtain ⟨hsum, hemptied⟩ := ih hloop (fun b hb => hpos b (List.mem_cons_of_mem _ hb)) (by omega)
      (show pending.milli - take.milli ≤ totalMilli ordered by omega)
    have hsum : (rest.map (·.milli decimal)).sum = pending.milli - take.milli := hsum
    constructor
    · rw [List.map_cons, List.sum_cons, milli_of, hsum]
      omega
    intro detail hdetail
    cases rest with
    | nil => exact absurd hdetail List.not_mem_nil
    | cons next rest =>
      rw [List.dropLast_cons_of_ne_nil (List.cons_ne_nil _ _), List.mem_cons] at hdetail
      rcases hdetail with rfl | hdetail
      · -- the loop went on, so this batch did not have all that was pending
        have hempties : take.milli = batch.quantityRemaining.milli := by
          refine hall.resolve_left fun hdone => ?_
          have hnone := allocate_of_isZero hloop (by rw [Quantity.isZero_iff]; simp only; omega)
          exact absurd hnone (List.cons_ne_nil _ _)
        have htake : take = batch.quantityRemaining := congrArg Quantity.mk hempties
        exact ⟨batch, List.mem_cons_self, by rw [htake]⟩
      · obtain ⟨b, hb, hdetail⟩ := hemptied detail hdetail
        exact ⟨b, List.mem_cons_of_mem _ hb, hdetail⟩

/-! ## The stock that is left -/

theorem currentStockForBranch_eq (item : InventoryItem) (branchId : Uuid) (date : JsDate) :
    item.currentStockForBranch branchId date =
      InventoryItem.stockOf (item.activateBatchesOfBranch branchId date) := by
  rw [InventoryItem.currentStockForBranch, InventoryItem.activateBatchesOfBranch]
  congr 1
  apply List.filter_congr
  intro batch _
  exact Bool.and_comm _ _

/-- The details name one batch among these. -/
theorem sum_ite_batchId {detail : BatchDetail} (n : ℕ) (hids : (batches.map (·.id)).Nodup)
    (hmem : detail.batchId ∈ batches.map (·.id)) :
    (batches.map fun b => if detail.batchId = b.id then n else 0).sum = n := by
  induction batches with
  | nil => simp at hmem
  | cons batch batches ih =>
    rw [List.map_cons, List.nodup_cons] at hids
    rw [List.map_cons, List.sum_cons]
    by_cases h : detail.batchId = batch.id
    · have hrest : ∀ b ∈ batches, (if detail.batchId = b.id then n else 0) = 0 := by
        intro b hb
        rw [if_neg]
        intro e
        exact hids.1 (h ▸ e ▸ List.mem_map_of_mem hb)
      rw [if_pos h, List.map_congr_left hrest]
      simp
    · have hmem' : detail.batchId ∈ batches.map (·.id) :=
        (List.mem_cons.mp hmem).resolve_left h
      rw [if_neg h, ih hids.2 hmem', Nat.zero_add]

/-- What was taken, counted batch by batch and detail by detail. -/
theorem sum_drawnFrom (hids : (batches.map (·.id)).Nodup)
    (hnamed : ∀ detail ∈ details, detail.batchId ∈ batches.map (·.id)) :
    (batches.map fun b => drawnFrom decimal details b.id).sum =
      (details.map (·.milli decimal)).sum := by
  induction details with
  | nil => simp
  | cons detail details ih =>
    have hrest := ih fun d hd => hnamed d (List.mem_cons_of_mem _ hd)
    simp only [drawnFrom_cons, List.map_cons, List.sum_cons]
    rw [List.sum_map_add, hrest, sum_ite_batchId _ hids (hnamed detail List.mem_cons_self)]

/-- What is left after the details were taken. -/
theorem totalMilli_drawAll
    (hle : ∀ b ∈ batches, drawnFrom decimal details b.id ≤ b.quantityRemaining.milli) :
    totalMilli (drawAll decimal details batches) +
      (batches.map fun b => drawnFrom decimal details b.id).sum = totalMilli batches := by
  induction batches with
  | nil => rfl
  | cons batch batches ih =>
    have hbatch := hle batch List.mem_cons_self
    have hrest := ih fun b hb => hle b (List.mem_cons_of_mem _ hb)
    rw [drawAll] at hrest ⊢
    rw [List.map_cons, List.map_cons, List.sum_cons, totalMilli_cons, totalMilli_cons,
      InventoryBatch.less_remaining]
    omega

/-- A batch that can still be used once it has stock. -/
def usable (branchId : Uuid) (date : JsDate) (batch : InventoryBatch) : Bool :=
  batch.branchId = branchId && !batch.isExpired date

/-- Depleted batches add nothing. -/
theorem totalMilli_active (branchId : Uuid) (date : JsDate) (batches : List InventoryBatch) :
    totalMilli (batches.filter fun batch => batch.branchId = branchId && batch.isActive date) =
      totalMilli (batches.filter (usable branchId date)) := by
  induction batches with
  | nil => rfl
  | cons batch batches ih =>
    rw [List.filter_cons, List.filter_cons]
    by_cases hdepleted : batch.isDepleted = true
    · have hmilli : batch.quantityRemaining.milli = 0 := Quantity.isZero_iff.mp hdepleted
      have hinactive : batch.isActive date = false := by simp [InventoryBatch.isActive, hdepleted]
      simp only [hinactive, Bool.and_false, Bool.false_eq_true, if_false, ih]
      split_ifs
      · rw [totalMilli_cons]
        omega
      · rfl
    · have hsame : (decide (batch.branchId = branchId) && batch.isActive date) =
          usable branchId date batch := by
        simp [usable, InventoryBatch.isActive, hdepleted]
      rw [hsame]
      split_ifs
      · rw [totalMilli_cons, totalMilli_cons, ih]
      · exact ih

/-- Taking from batches changes neither their branch nor their date. -/
theorem filter_usable_drawAll (branchId : Uuid) (date : JsDate) :
    (drawAll decimal details batches).filter (usable branchId date) =
      drawAll decimal details (batches.filter (usable branchId date)) := by
  rw [drawAll, drawAll, List.filter_map]
  rfl

/-- The active batches of the branch hold exactly what was taken less. -/
theorem totalMilli_active_drawAll {branchId : Uuid} {date : JsDate}
    (hids : (batches.map (·.id)).Nodup)
    (hdrawn : Drawn decimal (batches.filter fun batch =>
      batch.branchId = branchId && batch.isActive date) details) :
    totalMilli ((drawAll decimal details batches).filter fun batch =>
        batch.branchId = branchId && batch.isActive date) +
      (details.map (·.milli decimal)).sum =
        totalMilli (batches.filter fun batch =>
          batch.branchId = branchId && batch.isActive date) := by
  have hsub : ∀ b ∈ batches.filter fun batch => batch.branchId = branchId && batch.isActive date,
      b ∈ batches.filter (usable branchId date) := by
    intro b hb
    obtain ⟨hmem, hcond⟩ := List.mem_filter.mp hb
    rw [Bool.and_eq_true_iff] at hcond
    have hactive := hcond.2
    rw [InventoryBatch.isActive, Bool.and_eq_true_iff] at hactive
    exact List.mem_filter.mpr ⟨hmem, Bool.and_eq_true_iff.mpr ⟨hcond.1, hactive.2⟩⟩
  have hdrawn := hdrawn.mono hsub
  have hids' : ((batches.filter (usable branchId date)).map (·.id)).Nodup :=
    hids.sublist (List.filter_sublist.map _)
  have hsum : ((batches.filter (usable branchId date)).map
      fun b => drawnFrom decimal details b.id).sum = (details.map (·.milli decimal)).sum :=
    sum_drawnFrom hids' fun detail hdetail => hdrawn.batchId_mem (List.mem_map_of_mem hdetail)
  have hleft := totalMilli_drawAll fun b hb => hdrawn.le_remaining hids' hb
  rw [totalMilli_active, totalMilli_active, filter_usable_drawAll, ← hsum]
  exact hleft

/-! ## What the loops leave -/

/-- A batch without the detail that names it. -/
def withoutDetail (decimal : DecimalJs) (details : List BatchDetail) (batch : InventoryBatch) :
    InventoryBatch :=
  match details.find? fun detail => detail.batchId = batch.id with
  | some detail => batch.less (detail.milli decimal)
  | none => batch

theorem drawAll_eq_map (hnodup : (details.map (·.batchId)).Nodup) :
    drawAll decimal details batches = batches.map (withoutDetail decimal details) := by
  apply List.map_congr_left
  intro batch _
  rw [withoutDetail]
  cases hfind : details.find? fun detail => detail.batchId = batch.id with
  | none =>
    have hnot : batch.id ∉ details.map (·.batchId) := by
      intro hmem
      obtain ⟨detail, hdetail, hid⟩ := List.mem_map.mp hmem
      have hno := List.find?_eq_none.mp hfind detail hdetail
      simp [hid] at hno
    rw [drawnFrom_eq_zero hnot, InventoryBatch.less_zero]
  | some detail =>
    have hid : detail.batchId = batch.id := by simpa using List.find?_some hfind
    have hmilli : drawnFrom decimal details detail.batchId = detail.milli decimal :=
      drawnFrom_of_mem hnodup (List.mem_of_find?_eq_some hfind)
    rw [hid] at hmilli
    rw [hmilli]

namespace InventoryItem

/-- `details` are an allocation of `quantity` among the active batches of the
    branch. -/
structure Allocates (decimal : DecimalJs) (item : InventoryItem) (branchId : Uuid) (date : JsDate)
    (quantity : Quantity) (details : List BatchDetail) : Prop where
  /-- Each detail takes something from an active batch of the branch, none twice. -/
  drawn : Drawn decimal (item.activateBatchesOfBranch branchId date) details
  /-- They add up to the quantity. -/
  sum : (details.map (·.milli decimal)).sum = quantity.milli
  /-- All but the last take what their batch had. -/
  emptied : ∀ detail ∈ details.dropLast, ∃ batch ∈ item.activateBatchesOfBranch branchId date,
    detail = BatchDetail.of decimal batch batch.quantityRemaining
  /-- Each batch is left without its detail, the others as they were. -/
  left : drawAll decimal details item.batches = item.batches.map (withoutDetail decimal details)
  /-- The stock of the branch drops by the quantity. -/
  stock : ∀ event now,
    ((item.afterDraw decimal details event now).currentStockForBranch branchId date).milli +
      quantity.milli = (item.currentStockForBranch branchId date).milli

/-- The call throws and changes nothing. -/
def Refuses (item : InventoryItem) (outcome : Outcome) : Prop := ∃ e, outcome = (.error e, item)

variable {branchId : Uuid} {date : JsDate}

theorem currentStockForBranch_milli
    (hfit : totalMilli (item.activateBatchesOfBranch branchId date) < 10 ^ decimalPrecision) :
    (item.currentStockForBranch branchId date).milli =
      totalMilli (item.activateBatchesOfBranch branchId date) := by
  rw [currentStockForBranch_eq, stockOf_milli hfit]

theorem currentStockForBranch_afterDraw {event : DomainEvent} {now : Instant}
    (hids : (item.batches.map (·.id)).Nodup)
    (hfit : totalMilli (item.activateBatchesOfBranch branchId date) < 10 ^ decimalPrecision)
    (hdrawn : Drawn decimal (item.activateBatchesOfBranch branchId date) details) :
    ((item.afterDraw decimal details event now).currentStockForBranch branchId date).milli +
      (details.map (·.milli decimal)).sum = (item.currentStockForBranch branchId date).milli := by
  have hdrop := totalMilli_active_drawAll hids hdrawn
  have hafter : (item.afterDraw decimal details event now).activateBatchesOfBranch branchId date =
      (drawAll decimal details item.batches).filter fun batch =>
        batch.branchId = branchId && batch.isActive date := rfl
  have hbefore : item.activateBatchesOfBranch branchId date =
      item.batches.filter fun batch => batch.branchId = branchId && batch.isActive date := rfl
  rw [currentStockForBranch_milli hfit, currentStockForBranch_milli, hafter, hbefore]
  · exact hdrop
  · rw [hafter]
    rw [hbefore] at hfit
    omega

/-- The loop over the active batches of the branch, whichever call reduces them. -/
theorem exists_allocates (decimal : DecimalJs) {quantity : Quantity}
    (hids : (item.batches.map (·.id)).Nodup)
    (hfit : totalMilli (item.activateBatchesOfBranch branchId date) < 10 ^ decimalPrecision)
    (hle : quantity.milli ≤ (item.currentStockForBranch branchId date).milli) :
    ∃ details, Allocates decimal item branchId date quantity details ∧
      ∀ draw, Reduces draw →
        allocate decimal draw (sortPorFefo (item.activateBatchesOfBranch branchId date)) quantity
          item.batches = (.ok details, drawAll decimal details item.batches) := by
  have hperm : (sortPorFefo (item.activateBatchesOfBranch branchId date)).Perm
      (item.activateBatchesOfBranch branchId date) := List.mergeSort_perm _ _
  have hmem : ∀ b ∈ sortPorFefo (item.activateBatchesOfBranch branchId date),
      b ∈ item.batches ∧ b.isActive date = true := by
    intro b hb
    obtain ⟨hitem, hcond⟩ := List.mem_filter.mp (hperm.mem_iff.mp hb)
    exact ⟨hitem, (Bool.and_eq_true_iff.mp hcond).2⟩
  have hpos : ∀ b ∈ sortPorFefo (item.activateBatchesOfBranch branchId date),
      0 < b.quantityRemaining.milli := fun b hb =>
    InventoryBatch.remaining_pos_of_isActive (hmem b hb).2
  have hnodup : ((sortPorFefo (item.activateBatchesOfBranch branchId date)).map (·.id)).Nodup :=
    (hperm.map _).nodup_iff.mpr (hids.sublist (List.filter_sublist.map _))
  have htotal : totalMilli (sortPorFefo (item.activateBatchesOfBranch branchId date)) =
      totalMilli (item.activateBatchesOfBranch branchId date) := totalMilli_perm hperm
  rw [currentStockForBranch_milli hfit, ← htotal] at hle
  rw [← htotal] at hfit
  have hfits := fits_of_totalMilli hfit
  obtain ⟨details, hallocate, hdrawn, -, -⟩ := exists_allocate decimal reduces_consume hids hnodup
    (fun b hb => (hmem b hb).1) hpos hfits quantity
  obtain ⟨hsum, hemptied⟩ := allocate_sum hallocate hpos hfit hle
  have hdrawn := hdrawn.mono fun b hb => hperm.mem_iff.mp hb
  refine ⟨details, ⟨hdrawn, hsum, ?_, drawAll_eq_map hdrawn.nodup, ?_⟩, ?_⟩
  · intro detail hdetail
    obtain ⟨batch, hbatch, hof⟩ := hemptied detail hdetail
    exact ⟨batch, hperm.mem_iff.mp hbatch, hof⟩
  · intro event now
    rw [← hsum]
    exact currentStockForBranch_afterDraw hids (htotal ▸ hfit) hdrawn
  · intro draw hdraw
    rw [allocate_congr hdraw reduces_consume hfits]
    exact hallocate

/-! ## The three methods -/

section Methods

variable {quantity actualTotal : Quantity} {reason : JsString} {occurredAt : Option JsDate}
  {now : Instant}

/-- The event of `registerWaste` (lines 519–530). -/
def wastedEvent (item : InventoryItem) (branchId : Uuid) (reason : JsString)
    (details : List BatchDetail) (occurredOn : JsDate) : DomainEvent :=
  .stockWasted
    { itemId := item.id
      tenantId := item.tenantId
      branchId := branchId
      reason := trim reason
      wastedBatches := details
      occurredOn := occurredOn }

/-- The event of `countStock` (lines 596–607). -/
def adjustedEvent (item : InventoryItem) (branchId : Uuid) (reason : JsString)
    (details : List BatchDetail) (occurredOn : JsDate) : DomainEvent :=
  .stockAdjusted
    { itemId := item.id
      tenantId := item.tenantId
      branchId := branchId
      reason := trim reason
      adjustedBatches := details.map fun detail => ⟨detail, .adjustOut⟩
      occurredOn := occurredOn }

/-- The event of `consume` (lines 262–272). -/
def consumedEvent (decimal : DecimalJs) (item : InventoryItem) (branchId : Uuid)
    (quantity : Quantity) (details : List BatchDetail) (occurredOn : JsDate) : DomainEvent :=
  .stockConsumed
    { itemId := item.id
      tenantId := item.tenantId
      branchId := branchId
      quantity := quantity.getValue decimal
      consumedBatches := details
      occurredOn := occurredOn }

theorem registerWaste_eq (hreason : trim reason ≠ []) (hpos : 0 < quantity.milli)
    (hle : quantity.milli ≤
      (item.currentStockForBranch branchId (occurredAt.getD (some now))).milli)
    (hallocate : allocate decimal InventoryBatch.waste
      (sortPorFefo (item.activateBatchesOfBranch branchId (occurredAt.getD (some now)))) quantity
      item.batches = (.ok details, drawAll decimal details item.batches)) :
    item.registerWaste decimal branchId quantity reason occurredAt now =
      (.ok (), item.afterDraw decimal details
        (wastedEvent item branchId reason details (occurredAt.getD (some now))) now) := by
  have hzero : ¬ quantity.isZero = true := by
    rw [Quantity.isZero_iff]
    omega
  have hstock : ¬ quantity.isGreaterThan
      (item.currentStockForBranch branchId (occurredAt.getD (some now))) = true := by
    rw [Quantity.isGreaterThan_iff]
    omega
  unfold registerWaste
  simp only [if_neg hreason, if_neg hzero, if_neg hstock, hallocate]
  rfl

theorem countStock_eq (hreason : trim reason ≠ []) (hpos : 0 < quantity.milli)
    (hsum : actualTotal.milli + quantity.milli =
      (item.currentStockForBranch branchId (occurredAt.getD (some now))).milli)
    (hfit : (item.currentStockForBranch branchId (occurredAt.getD (some now))).milli <
      10 ^ decimalPrecision)
    (hallocate : allocate decimal adjustOut
      (sortPorFefo (item.activateBatchesOfBranch branchId (occurredAt.getD (some now)))) quantity
      item.batches = (.ok details, drawAll decimal details item.batches)) :
    item.countStock decimal branchId actualTotal reason occurredAt now =
      (.ok (), item.afterDraw decimal details
        (adjustedEvent item branchId reason details (occurredAt.getD (some now))) now) := by
  have hmore : ¬ actualTotal.isGreaterThan
      (item.currentStockForBranch branchId (occurredAt.getD (some now))) = true := by
    rw [Quantity.isGreaterThan_iff]
    omega
  have hless : (item.currentStockForBranch branchId (occurredAt.getD (some now))).isGreaterThan
      actualTotal = true := by
    rw [Quantity.isGreaterThan_iff]
    omega
  -- the difference is the quantity again
  have hmissing : (item.currentStockForBranch branchId (occurredAt.getD (some now))).subtract
      actualTotal = .ok quantity := by
    rw [Quantity.subtract_ok (by omega) hfit]
    have hmilli : (item.currentStockForBranch branchId (occurredAt.getD (some now))).milli -
        actualTotal.milli = quantity.milli := by omega
    exact congrArg (fun n => Except.ok (Quantity.mk n)) hmilli
  unfold countStock
  simp only [if_neg hreason, if_neg hmore, hless, Bool.not_true, Bool.false_eq_true, if_false,
    hmissing, hallocate]
  rfl

/-- A branch with stock is then the only active branch. -/
theorem activeBranches_eq (hbranch : ∀ batch ∈ item.batches, batch.isActive date = true →
    batch.branchId = branchId) (hne : item.batches.filter (·.isActive date) ≠ []) :
    item.activeBranches date = [branchId] := by
  have hsame : (item.batches.filter (·.isActive date)).map (·.branchId) =
      List.replicate (item.batches.filter (·.isActive date)).length branchId := by
    rw [List.eq_replicate_iff]
    refine ⟨List.length_map .., ?_⟩
    intro b hb
    obtain ⟨batch, hbatch, rfl⟩ := List.mem_map.mp hb
    obtain ⟨hmem, hactive⟩ := List.mem_filter.mp hbatch
    exact hbranch batch hmem hactive
  have hpos : (item.batches.filter (·.isActive date)).length ≠ 0 := by
    rw [Ne, List.length_eq_zero_iff]
    exact hne
  obtain ⟨n, hn⟩ := Nat.exists_eq_succ_of_ne_zero hpos
  rw [activeBranches, hsame, hn, List.replicate_succ, List.eraseDups_cons]
  simp

theorem consume_eq (hbranch : ∀ batch ∈ item.batches,
      batch.isActive (occurredAt.getD (some now)) = true → batch.branchId = branchId)
    (hpos : 0 < quantity.milli)
    (hle : quantity.milli ≤
      (item.currentStockForBranch branchId (occurredAt.getD (some now))).milli)
    (hallocate : allocate decimal InventoryBatch.consume
      (sortPorFefo (item.activateBatchesOfBranch branchId (occurredAt.getD (some now)))) quantity
      item.batches = (.ok details, drawAll decimal details item.batches)) :
    item.consume decimal quantity occurredAt now =
      (.ok (), item.afterDraw decimal details
        (consumedEvent decimal item branchId quantity details (occurredAt.getD (some now)))
        now) := by
  have hscope := filter_isActive_eq hbranch
  have hne : item.batches.filter (·.isActive (occurredAt.getD (some now))) ≠ [] := by
    intro hnone
    rw [currentStockForBranch_eq, ← hscope, hnone] at hle
    have hzero : (stockOf []).milli = 0 := rfl
    omega
  have hbranches := activeBranches_eq hbranch hne
  have hzero : ¬ quantity.isZero = true := by
    rw [Quantity.isZero_iff]
    omega
  have hstock : ¬ quantity.isGreaterThan
      (item.currentStock (occurredAt.getD (some now))) = true := by
    rw [Quantity.isGreaterThan_iff, currentStock, hscope, ← currentStockForBranch_eq]
    omega
  unfold consume
  simp only [hbranches, List.length_singleton, Nat.lt_irrefl, if_false, if_neg hzero,
    if_neg hstock, hscope, hallocate, List.head?_cons]
  rfl

/-! ### Refusals -/

theorem registerWaste_refuses
    (h : trim reason = [] ∨ quantity.milli = 0 ∨
      (item.currentStockForBranch branchId (occurredAt.getD (some now))).milli < quantity.milli) :
    Refuses item (item.registerWaste decimal branchId quantity reason occurredAt now) := by
  unfold registerWaste
  simp only
  split_ifs with hreason hzero hstock
  · exact ⟨_, rfl⟩
  · exact ⟨_, rfl⟩
  · exact ⟨_, rfl⟩
  · rw [Quantity.isZero_iff] at hzero
    rw [Quantity.isGreaterThan_iff] at hstock
    exact absurd h (not_or.mpr ⟨hreason, not_or.mpr ⟨hzero, hstock⟩⟩)

theorem countStock_refuses
    (h : trim reason = [] ∨
      (item.currentStockForBranch branchId (occurredAt.getD (some now))).milli ≤
        actualTotal.milli) :
    Refuses item (item.countStock decimal branchId actualTotal reason occurredAt now) := by
  unfold countStock
  simp only
  split_ifs with hreason hmore hless
  · exact ⟨_, rfl⟩
  · exact ⟨_, rfl⟩
  · exact ⟨_, rfl⟩
  · have hless : (item.currentStockForBranch branchId (occurredAt.getD (some now))).isGreaterThan
        actualTotal = true := by simpa using hless
    rw [Quantity.isGreaterThan_iff] at hless
    have hle := h.resolve_left hreason
    omega

/-- Two branches with active batches. -/
theorem one_lt_activeBranches {former latter : InventoryBatch} (hformer : former ∈ item.batches)
    (hlatter : latter ∈ item.batches) (hactive : former.isActive date = true)
    (hactive' : latter.isActive date = true) (hne : former.branchId ≠ latter.branchId) :
    1 < (item.activeBranches date).length := by
  by_contra hone
  have hmem := mem_activeBranches hformer hactive
  cases hhead : (item.activeBranches date).head? with
  | none =>
    rw [List.head?_eq_none_iff.mp hhead] at hmem
    exact List.not_mem_nil hmem
  | some branch =>
    have hbranch := branchId_of_activeBranches hone hhead hformer hactive
    have hbranch' := branchId_of_activeBranches hone hhead hlatter hactive'
    exact hne (hbranch.trans hbranch'.symm)

theorem consume_refuses
    (h : 1 < (item.activeBranches (occurredAt.getD (some now))).length ∨ quantity.milli = 0 ∨
      (item.currentStock (occurredAt.getD (some now))).milli < quantity.milli) :
    Refuses item (item.consume decimal quantity occurredAt now) := by
  unfold consume
  simp only
  split_ifs with hseveral hzero hstock
  · exact ⟨_, rfl⟩
  · exact ⟨_, rfl⟩
  · exact ⟨_, rfl⟩
  · rw [Quantity.isZero_iff] at hzero
    rw [Quantity.isGreaterThan_iff] at hstock
    exact absurd h (not_or.mpr ⟨hseveral, not_or.mpr ⟨hzero, hstock⟩⟩)

/-! ### The three loops agree -/

/-- What the three methods do with the batches of a branch: the same, where the
    preconditions hold, and else nothing. -/
theorem loops_agree (decimal : DecimalJs) (item : InventoryItem)
    (hids : (item.batches.map (·.id)).Nodup) (branchId : Uuid) (occurredAt : Option JsDate)
    (now : Instant) (reason : JsString) :
    let date := occurredAt.getD (some now)
    let stock := item.currentStockForBranch branchId date
    (∀ quantity : Quantity, trim reason ≠ [] →
      totalMilli (item.activateBatchesOfBranch branchId date) < 10 ^ decimalPrecision →
      0 < quantity.milli → quantity.milli ≤ stock.milli →
      ∃ details, Allocates decimal item branchId date quantity details ∧
        item.registerWaste decimal branchId quantity reason occurredAt now =
          (.ok (), item.afterDraw decimal details
            (wastedEvent item branchId reason details date) now) ∧
        (∀ actualTotal : Quantity, actualTotal.milli + quantity.milli = stock.milli →
          item.countStock decimal branchId actualTotal reason occurredAt now =
            (.ok (), item.afterDraw decimal details
              (adjustedEvent item branchId reason details date) now)) ∧
        ((∀ batch ∈ item.batches, batch.isActive date = true → batch.branchId = branchId) →
          item.consume decimal quantity occurredAt now =
            (.ok (), item.afterDraw decimal details
              (consumedEvent decimal item branchId quantity details date) now))) ∧
    (∀ quantity : Quantity,
      trim reason = [] ∨ quantity.milli = 0 ∨ stock.milli < quantity.milli →
        Refuses item (item.registerWaste decimal branchId quantity reason occurredAt now)) ∧
    (∀ actualTotal : Quantity, trim reason = [] ∨ stock.milli ≤ actualTotal.milli →
      Refuses item (item.countStock decimal branchId actualTotal reason occurredAt now)) ∧
    (∀ quantity : Quantity,
      (∃ former ∈ item.batches, ∃ latter ∈ item.batches, former.isActive date = true ∧
        latter.isActive date = true ∧ former.branchId ≠ latter.branchId) ∨
        quantity.milli = 0 ∨ (item.currentStock date).milli < quantity.milli →
          Refuses item (item.consume decimal quantity occurredAt now)) := by
  intro date stock
  refine ⟨?_, fun quantity => registerWaste_refuses, fun actualTotal => countStock_refuses, ?_⟩
  · intro quantity hreason hfit hpos hle
    have hstock : stock.milli < 10 ^ decimalPrecision := by
      rw [show stock.milli = _ from currentStockForBranch_milli hfit]
      exact hfit
    obtain ⟨details, hallocates, hloop⟩ := exists_allocates decimal hids hfit hle
    refine ⟨details, hallocates, ?_, ?_, ?_⟩
    · exact registerWaste_eq hreason hpos hle (hloop _ reduces_waste)
    · intro actualTotal hsum
      exact countStock_eq hreason hpos hsum hstock (hloop _ reduces_adjustOut)
    · intro hbranch
      exact consume_eq hbranch hpos hle (hloop _ reduces_consume)
  · intro quantity h
    apply consume_refuses
    refine h.imp_left ?_
    rintro ⟨former, hformer, latter, hlatter, hactive, hactive', hne⟩
    exact one_lt_activeBranches hformer hlatter hactive hactive' hne

/-- A batch of the first branch that never expires. -/
def sampleBatch (n milli : ℕ) : InventoryBatch where
  id := sampleBatchId n
  branchId := sampleBranchId 1
  quantityReceived := ⟨milli⟩
  quantityRemaining := ⟨milli⟩
  unitCost := ⟨0, js "COP", isIsoCode_cop⟩
  expirationDate := none
  receivedAt := some 1000

/-- The sample item with batches of so much. -/
def stocked (remaining : List ℕ) : InventoryItem :=
  { toAggregate (sampleStore.items.head sampleStore_items_ne_nil) [] [] with
    batches := remaining.zipIdx.map fun (milli, n) => sampleBatch n milli }

/-- Four units of two batches of three. -/
theorem loops_agree_four : ∃ details,
    Allocates plainDecimal (stocked [3000, 3000]) (sampleBranchId 1) (some 2000) ⟨4000⟩ details ∧
      (stocked [3000, 3000]).consume plainDecimal ⟨4000⟩ (some (some 2000)) 2000 =
        (.ok (), (stocked [3000, 3000]).afterDraw plainDecimal details
          (consumedEvent plainDecimal (stocked [3000, 3000]) (sampleBranchId 1) ⟨4000⟩ details
            (some 2000)) 2000) := by
  obtain ⟨details, hallocates, -, -, hconsume⟩ := (loops_agree plainDecimal (stocked [3000, 3000])
    (by decide) (sampleBranchId 1) (some (some 2000)) 2000 (js "conteo")).1 ⟨4000⟩ (by decide)
    (by decide) (by decide) (by decide +kernel)
  exact ⟨details, hallocates, hconsume (by decide)⟩

/-- With twenty-one digits of thousandths, three are taken and four are missing. -/
theorem registerWaste_inexact :
    ((stocked [10 ^ 20 + 4]).batches.map (·.id)).Nodup ∧ trim (js "merma") ≠ [] ∧
      (⟨3⟩ : Quantity).milli ≤
        ((stocked [10 ^ 20 + 4]).currentStockForBranch (sampleBranchId 1) (some 2000)).milli ∧
      (let outcome := (stocked [10 ^ 20 + 4]).registerWaste plainDecimal (sampleBranchId 1) ⟨3⟩
        (js "merma") (some (some 2000)) 2000
       outcome.1 = .ok () ∧
        (outcome.2.domainEvents.map fun event =>
          event.drawnBatches.map (·.milli plainDecimal)) = [[3]] ∧
        outcome.2.batches.map (·.quantityRemaining.milli) = [10 ^ 20]) ∧
      10 ^ 20 + 4 - 3 ≠ 10 ^ 20 := by
  refine ⟨by decide +kernel, by decide, by decide +kernel, ?_, by decide⟩
  exact ⟨by decide +kernel, by decide +kernel, by decide +kernel⟩

end Methods

end InventoryItem

end KomiSaas.Inventory
