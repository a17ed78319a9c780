import KomiSaas.Inventory.Item

/-!
# What the allocation takes

The loop behind `consume`, `registerWaste` and `countStock` never fails on
batches whose quantities fit the precision of the package. It takes a positive
quantity, at most what is left, from some of the batches it is given, each at
most once, empties every batch before it goes on to the next, and leaves every
other batch as it was (`exists_allocate`). Each of the three methods, where it
does not throw, does that with the sorted active batches of one branch and
registers one event with the details (`consume_ok`, `registerWaste_ok`,
`countStock_ok`). A reception only adds a batch (`recivedBatch_ok`).
-/

namespace KomiSaas.Inventory

open KomiSaas.Lib KomiSaas.Shared

/-- `details` name some of the batches, each at most once, with a positive
    quantity that the batch has. -/
structure Drawn (decimal : DecimalJs) (batches : List InventoryBatch)
    (details : List BatchDetail) : Prop where
  nodup : (details.map (·.batchId)).Nodup
  taken : ∀ detail ∈ details, ∃ batch ∈ batches, ∃ quantity : Quantity,
    0 < quantity.milli ∧ quantity.milli ≤ batch.quantityRemaining.milli ∧
      detail = BatchDetail.of decimal batch quantity

/-- Where something was taken from a batch, the batches before it were emptied. -/
def DrainsInOrder (decimal : DecimalJs) (details : List BatchDetail)
    (ordered : List InventoryBatch) : Prop :=
  ordered.Pairwise fun former latter => latter.id ∈ details.map (·.batchId) →
    drawnFrom decimal details former.id = former.quantityRemaining.milli

/-- The batches without what the details took from them. -/
def drawAll (decimal : DecimalJs) (details : List BatchDetail) (batches : List InventoryBatch) :
    List InventoryBatch :=
  batches.map fun batch => batch.less (drawnFrom decimal details batch.id)

/-- The call takes the quantity from the batch, if the batch has it. -/
def Reduces (draw : InventoryBatch → Quantity → Except InventoryException InventoryBatch) : Prop :=
  ∀ batch quantity, quantity.milli ≤ batch.quantityRemaining.milli →
    batch.quantityRemaining.milli < 10 ^ decimalPrecision →
      draw batch quantity = .ok (batch.less quantity.milli)

/-- Quantities that a sum or a difference keeps exact. -/
def Fits (batches : List InventoryBatch) : Prop :=
  ∀ batch ∈ batches, batch.quantityRemaining.milli < 10 ^ decimalPrecision

variable {decimal : DecimalJs} {batches ordered : List InventoryBatch} {details : List BatchDetail}
  {batch : InventoryBatch} {item item' : InventoryItem}
  {draw : InventoryBatch → Quantity → Except InventoryException InventoryBatch}

@[simp] theorem drawAll_nil : drawAll decimal [] batches = batches := by simp [drawAll]

@[simp] theorem map_id_drawAll :
    (drawAll decimal details batches).map (·.id) = batches.map (·.id) := by
  simp [drawAll]

theorem Drawn.mono (h : Drawn decimal ordered details) (hsub : ∀ b ∈ ordered, b ∈ batches) :
    Drawn decimal batches details where
  nodup := h.nodup
  taken detail hmem := by
    obtain ⟨batch, hbatch, h⟩ := h.taken detail hmem
    exact ⟨batch, hsub batch hbatch, h⟩

/-- A detail names one of the batches. -/
theorem Drawn.batchId_mem (h : Drawn decimal batches details) {batchId : Uuid}
    (hmem : batchId ∈ details.map (·.batchId)) : batchId ∈ batches.map (·.id) := by
  obtain ⟨detail, hdetail, rfl⟩ := List.mem_map.mp hmem
  obtain ⟨batch, hbatch, quantity, -, -, rfl⟩ := h.taken detail hdetail
  exact List.mem_map_of_mem hbatch

/-- No more is taken from a batch than it holds. -/
theorem Drawn.le_remaining (h : Drawn decimal batches details)
    (hids : (batches.map (·.id)).Nodup) (hmem : batch ∈ batches) :
    drawnFrom decimal details batch.id ≤ batch.quantityRemaining.milli := by
  by_cases hnamed : batch.id ∈ details.map (·.batchId)
  · obtain ⟨detail, hdetail, hid⟩ := List.mem_map.mp hnamed
    obtain ⟨b, hb, quantity, -, hle, rfl⟩ := h.taken detail hdetail
    have hsame : b = batch := List.inj_on_of_nodup_map hids hb hmem hid
    subst hsame
    have hdrawn : drawnFrom decimal details (BatchDetail.of decimal b quantity).batchId =
        (BatchDetail.of decimal b quantity).milli decimal := drawnFrom_of_mem h.nodup hdetail
    rw [milli_of] at hdrawn
    exact hdrawn.le.trans hle
  · rw [drawnFrom_eq_zero hnamed]
    exact Nat.zero_le _

/-! ## The loop -/

theorem reduces_consume : Reduces InventoryBatch.consume := fun _ _ => InventoryBatch.reduce_eq

theorem reduces_waste : Reduces InventoryBatch.waste := fun _ _ => InventoryBatch.reduce_eq

theorem reduces_adjustOut : Reduces InventoryItem.adjustOut := by
  intro batch quantity hle hfit
  rw [InventoryItem.adjustOut, Quantity.subtract_ok hle hfit]
  rfl

/-- Taking the first of the details and then the others is taking them all. -/
theorem drawAll_cons {quantity : Quantity} (hids : (batches.map (·.id)).Nodup)
    (hmem : batch ∈ batches) (hrest : batch.id ∉ details.map (·.batchId)) :
    drawAll decimal details (Rows.updateWhere (fun b => b.id = (batch.less quantity.milli).id)
      (fun _ => batch.less quantity.milli) batches) =
      drawAll decimal (BatchDetail.of decimal batch quantity :: details) batches := by
  unfold drawAll Rows.updateWhere
  rw [List.map_map]
  apply List.map_congr_left
  intro b hb
  have hname : (BatchDetail.of decimal batch quantity).batchId = batch.id := rfl
  by_cases hid : b.id = batch.id
  · have hsame : b = batch := List.inj_on_of_nodup_map hids hb hmem hid
    subst hsame
    simp only [Function.comp_apply, InventoryBatch.less_id, decide_true, if_true, drawnFrom_cons,
      hname, milli_of, drawnFrom_eq_zero hrest, InventoryBatch.less_zero, Nat.add_zero]
  · have hother : ¬ batch.id = b.id := fun e => hid e.symm
    simp only [Function.comp_apply, InventoryBatch.less_id, hid, decide_false, Bool.false_eq_true,
      if_false, drawnFrom_cons, hname, hother, Nat.zero_add]

/-- What the loop takes from a batch: all that is pending, or all that is left. -/
theorem taken_bounds {pending : Quantity} (hpending : 0 < pending.milli)
    (hremaining : 0 < batch.quantityRemaining.milli) {take : Quantity}
    (htake : take = if pending.isGreaterThan batch.quantityRemaining then batch.quantityRemaining
      else pending) :
    0 < take.milli ∧ take.milli ≤ batch.quantityRemaining.milli ∧ take.milli ≤ pending.milli ∧
      (take.milli = pending.milli ∨ take.milli = batch.quantityRemaining.milli) := by
  rw [htake]
  split_ifs with hgreater
  · rw [Quantity.isGreaterThan_iff] at hgreater
    omega
  · rw [Quantity.isGreaterThan_iff] at hgreater
    omega

theorem Drawn.cons {take : Quantity} (h : Drawn decimal ordered details)
    (hnew : batch.id ∉ details.map (·.batchId)) (hpos : 0 < take.milli)
    (hle : take.milli ≤ batch.quantityRemaining.milli) :
    Drawn decimal (batch :: ordered) (BatchDetail.of decimal batch take :: details) where
  nodup := by
    rw [List.map_cons, List.nodup_cons]
    exact ⟨hnew, h.nodup⟩
  taken := by
    intro detail hdetail
    rcases List.mem_cons.mp hdetail with rfl | hdetail
    · exact ⟨batch, List.mem_cons_self, take, hpos, hle, rfl⟩
    · obtain ⟨b, hb, h⟩ := h.taken detail hdetail
      exact ⟨b, List.mem_cons_of_mem _ hb, h⟩

/-- Later batches are drawn from only where the first one is emptied. -/
theorem DrainsInOrder.cons {take : Quantity} (h : DrainsInOrder decimal details ordered)
    (hordered : batch.id ∉ ordered.map (·.id)) (hnew : batch.id ∉ details.map (·.batchId))
    (hempties : details ≠ [] → take.milli = batch.quantityRemaining.milli) :
    DrainsInOrder decimal (BatchDetail.of decimal batch take :: details) (batch :: ordered) := by
  have hname : (BatchDetail.of decimal batch take).batchId = batch.id := rfl
  have hother : ∀ b ∈ ordered, b.id ≠ batch.id := fun b hb e =>
    hordered (e ▸ List.mem_map_of_mem hb)
  refine List.pairwise_cons.mpr ⟨fun latter hlatter hmem => ?_, ?_⟩
  · have hlater : latter.id ∈ details.map (·.batchId) := by
      rw [List.map_cons, hname, List.mem_cons] at hmem
      exact hmem.resolve_left (hother latter hlatter)
    have hne : details ≠ [] := by
      rintro rfl
      exact List.not_mem_nil hlater
    rw [drawnFrom_cons, hname, if_pos rfl, milli_of, drawnFrom_eq_zero hnew, hempties hne,
      Nat.add_zero]
  · refine h.imp_of_mem fun {former latter} hformer hlatter hdrained hmem => ?_
    rw [List.map_cons, hname, List.mem_cons] at hmem
    rw [drawnFrom_cons, hname, if_neg (hother former hformer).symm, Nat.zero_add]
    exact hdrained (hmem.resolve_left (hother latter hlatter))

/-- The loop takes something from some of the ordered batches and never fails. -/
theorem exists_allocate (decimal : DecimalJs) (hdraw : Reduces draw)
    (hids : (batches.map (·.id)).Nodup) (hordered : (ordered.map (·.id)).Nodup)
    (hsub : ∀ b ∈ ordered, b ∈ batches)
    (hpos : ∀ b ∈ ordered, 0 < b.quantityRemaining.milli) (hfit : Fits ordered)
    (pending : Quantity) :
    ∃ details, allocate decimal draw ordered pending batches =
      (.ok details, drawAll decimal details batches) ∧ Drawn decimal ordered details ∧
        DrainsInOrder decimal details ordered ∧ (pending.milli = 0 → details = []) := by
  induction ordered generalizing pending batches with
  | nil => exact ⟨[], by simp [allocate], ⟨List.nodup_nil, by simp⟩, .nil, fun _ => rfl⟩
  | cons batch ordered ih =>
    by_cases hzero : pending.isZero = true
    · exact ⟨[], by simp [allocate, hzero], ⟨List.nodup_nil, by simp⟩,
        List.pairwise_of_forall fun _ _ h => absurd h List.not_mem_nil, fun _ => rfl⟩
    rw [List.map_cons, List.nodup_cons] at hordered
    have hbatch : batch ∈ batches := hsub batch List.mem_cons_self
    have hpending : 0 < pending.milli := by
      rw [Quantity.isZero_iff] at hzero
      omega
    set take := if pending.isGreaterThan batch.quantityRemaining then batch.quantityRemaining
      else pending with htake
    obtain ⟨htakes, hleft, hneeded, hall⟩ :=
      taken_bounds hpending (hpos batch List.mem_cons_self) htake
    obtain ⟨rest, hrest⟩ := Quantity.exists_subtract hneeded
    have hdone : take.milli = pending.milli → rest.milli = 0 := by
      intro heq
      have hfits := hfit batch List.mem_cons_self
      rw [Quantity.subtract_ok hneeded (by omega)] at hrest
      rw [← Except.ok.inj hrest]
      show pending.milli - take.milli = 0
      omega
    -- the tail of the loop sees this batch already reduced, and no other one changed
    set batches' := Rows.updateWhere (fun b => b.id = (batch.less take.milli).id)
      (fun _ => batch.less take.milli) batches with hbatches'
    have hkeys : batches'.map (·.id) = batches.map (·.id) :=
      Rows.map_updateWhere fun b _ hb => (of_decide_eq_true hb).symm
    have htail : ∀ b ∈ ordered, b ∈ batches' := by
      intro b hb
      have hne : b.id ≠ batch.id := fun e => hordered.1 (e ▸ List.mem_map_of_mem hb)
      exact Rows.mem_updateWhere_of_neg (hsub b (List.mem_cons_of_mem _ hb)) (decide_eq_false hne)
    obtain ⟨details, hallocate, hdrawn, hdrains, hempty⟩ := ih (hkeys ▸ hids) hordered.2 htail
      (fun b hb => hpos b (List.mem_cons_of_mem _ hb))
      (fun b hb => hfit b (List.mem_cons_of_mem _ hb)) rest
    have hnew : batch.id ∉ details.map (·.batchId) := fun h => hordered.1 (hdrawn.batchId_mem h)
    -- a later batch is drawn from only if something was pending after this one
    have hempties : details ≠ [] → take.milli = batch.quantityRemaining.milli := fun hne =>
      hall.resolve_left fun heq => hne (hempty (hdone heq))
    refine ⟨BatchDetail.of decimal batch take :: details, ?_, hdrawn.cons hnew htakes hleft,
      hdrains.cons hordered.1 hnew hempties, fun h => ?_⟩
    · rw [allocate, if_neg hzero, ← htake]
      simp only [hdraw batch take hleft (hfit batch List.mem_cons_self), hrest, ← hbatches',
        hallocate]
      rw [hbatches', drawAll_cons hids hbatch hnew]
    · exact absurd h hpending.ne'

/-- The loop over the batches that meet a condition, in the order of expiry. -/
theorem exists_allocate_sorted (decimal : DecimalJs) (date : JsDate) (hdraw : Reduces draw)
    (hids : (batches.map (·.id)).Nodup) (hfit : Fits batches) {p : InventoryBatch → Bool}
    (hactive : ∀ b, p b = true → b.isActive date = true) (pending : Quantity) :
    ∃ details, allocate decimal draw (sortPorFefo (batches.filter p)) pending batches =
      (.ok details, drawAll decimal details batches) ∧
        Drawn decimal (batches.filter p) details ∧
        DrainsInOrder decimal details (sortPorFefo (batches.filter p)) := by
  have hperm : (sortPorFefo (batches.filter p)).Perm (batches.filter p) := List.mergeSort_perm _ _
  have hmem : ∀ b ∈ sortPorFefo (batches.filter p), b ∈ batches ∧ p b = true := by
    intro b hb
    exact List.mem_filter.mp (hperm.mem_iff.mp hb)
  have hnodup : ((sortPorFefo (batches.filter p)).map (·.id)).Nodup :=
    (hperm.map _).nodup_iff.mpr (hids.sublist (List.filter_sublist.map _))
  obtain ⟨details, hallocate, hdrawn, hdrains, -⟩ := exists_allocate decimal hdraw hids hnodup
    (fun b hb => (hmem b hb).1)
    (fun b hb => InventoryBatch.remaining_pos_of_isActive (hactive b (hmem b hb).2))
    (fun b hb => hfit b (hmem b hb).1) pending
  exact ⟨details, hallocate, hdrawn.mono fun b hb => hperm.mem_iff.mp hb, hdrains⟩

/-! ## The three methods -/

namespace InventoryItem

/-- `details` take from the active batches of a branch, in the order of expiry. -/
structure DrawnInOrder (decimal : DecimalJs) (item : InventoryItem) (branchId : Uuid)
    (date : JsDate) (details : List BatchDetail) : Prop where
  drawn : Drawn decimal (item.activateBatchesOfBranch branchId date) details
  drains : DrainsInOrder decimal details (sortPorFefo (item.activateBatchesOfBranch branchId date))

/-- The item after the details were taken and `event` was registered. -/
def afterDraw (decimal : DecimalJs) (item : InventoryItem) (details : List BatchDetail)
    (event : DomainEvent) (now : Instant) : InventoryItem :=
  { item with
    batches := drawAll decimal details item.batches
    domainEvents := item.domainEvents ++ [event]
    updatedAt := now }

/-- The events that say `details` were taken at a branch. -/
inductive DrawEvent (item : InventoryItem) (branchId : Uuid) (details : List BatchDetail) :
    DomainEvent → Prop
  | consumed {quantity : JsString} {occurredOn : JsDate} :
      DrawEvent item branchId details
        (.stockConsumed
          { itemId := item.id
            tenantId := item.tenantId
            branchId := branchId
            quantity := quantity
            consumedBatches := details
            occurredOn := occurredOn })
  | wasted {reason : JsString} {occurredOn : JsDate} : trim reason ≠ [] →
      DrawEvent item branchId details
        (.stockWasted
          { itemId := item.id
            tenantId := item.tenantId
            branchId := branchId
            reason := trim reason
            wastedBatches := details
            occurredOn := occurredOn })
  | adjusted {reason : JsString} {occurredOn : JsDate} : trim reason ≠ [] →
      DrawEvent item branchId details
        (.stockAdjusted
          { itemId := item.id
            tenantId := item.tenantId
            branchId := branchId
            reason := trim reason
            adjustedBatches := details.map fun detail => ⟨detail, .adjustOut⟩
            occurredOn := occurredOn })

variable {branchId : Uuid} {quantity : Quantity} {date : JsDate} {reason : JsString}
  {occurredAt : Option JsDate} {now : Instant} {event : DomainEvent}

theorem DrawEvent.drawnBatches (h : DrawEvent item branchId details event) :
    event.drawnBatches = details := by
  cases h with
  | consumed => rfl
  | wasted _ => rfl
  | adjusted _ => simp [DomainEvent.drawnBatches, Function.comp_def]

theorem mem_activeBranches (hmem : batch ∈ item.batches) (hactive : batch.isActive date = true) :
    batch.branchId ∈ item.activeBranches date := by
  rw [activeBranches, List.mem_eraseDups]
  exact List.mem_map_of_mem (List.mem_filter.mpr ⟨hmem, hactive⟩)

/-- Where every active batch is of the branch, the two scopes are the same. -/
theorem filter_isActive_eq (hbranch : ∀ batch ∈ item.batches, batch.isActive date = true →
    batch.branchId = branchId) :
    item.batches.filter (·.isActive date) = item.activateBatchesOfBranch branchId date := by
  apply List.filter_congr
  intro batch hmem
  by_cases hactive : batch.isActive date = true
  · simp [hbranch batch hmem hactive, hactive]
  · simp [Bool.not_eq_true _ ▸ hactive]

/-- Where at most one branch has active batches, they are all of that branch. -/
theorem branchId_of_activeBranches (hone : ¬ 1 < (item.activeBranches date).length)
    (hhead : (item.activeBranches date).head? = some branchId) (hmem : batch ∈ item.batches)
    (hactive : batch.isActive date = true) : batch.branchId = branchId := by
  have hbranch := mem_activeBranches hmem hactive
  cases hlist : item.activeBranches date with
  | nil => simp [hlist] at hhead
  | cons b rest =>
    have hrest : rest = [] := by
      rw [hlist, List.length_cons] at hone
      exact List.eq_nil_of_length_eq_zero (by omega)
    rw [hlist, hrest, List.mem_singleton] at hbranch
    rw [hlist, List.head?_cons] at hhead
    rw [hbranch, Option.some.inj hhead]

/-- With no active batch there is no stock. -/
theorem currentStock_of_no_branches (h : (item.activeBranches date).head? = none) :
    (item.currentStock date).milli = 0 := by
  have hnone : item.batches.filter (·.isActive date) = [] := by
    rw [List.head?_eq_none_iff] at h
    by_contra hne
    obtain ⟨b, hb⟩ := List.exists_mem_of_ne_nil _ hne
    obtain ⟨hmem, hactive⟩ := List.mem_filter.mp hb
    have hbranch := mem_activeBranches hmem hactive
    rw [h] at hbranch
    exact List.not_mem_nil hbranch
  rw [currentStock, hnone]
  rfl

theorem consume_ok (hids : (item.batches.map (·.id)).Nodup) (hfit : Fits item.batches)
    (h : item.consume decimal quantity occurredAt now = (.ok (), item')) :
    ∃ branchId details event,
      DrawnInOrder decimal item branchId (occurredAt.getD (some now)) details ∧
      DrawEvent item branchId details event ∧ item' = item.afterDraw decimal details event now := by
  obtain ⟨details, hallocate, hdrawn, hdrains⟩ := exists_allocate_sorted decimal
    (occurredAt.getD (some now))
    reduces_consume hids hfit (fun b hb => hb) quantity
  unfold consume at h
  simp only [hallocate] at h
  split_ifs at h with hone hzero hstock
  · cases (Prod.mk.inj h).1
  · cases (Prod.mk.inj h).1
  · cases (Prod.mk.inj h).1
  cases hhead : (item.activeBranches (occurredAt.getD (some now))).head? with
  | none =>
    have hempty := currentStock_of_no_branches hhead
    rw [Quantity.isZero_iff] at hzero
    rw [Quantity.isGreaterThan_iff] at hstock
    omega
  | some branchId =>
    rw [hhead] at h
    -- the active batches are those of this branch
    have hsame : item.batches.filter (·.isActive (occurredAt.getD (some now))) =
        item.activateBatchesOfBranch branchId (occurredAt.getD (some now)) :=
      filter_isActive_eq fun _ hmem => branchId_of_activeBranches hone hhead hmem
    rw [hsame] at hdrawn hdrains
    exact ⟨branchId, details, _, ⟨hdrawn, hdrains⟩, .consumed, (Prod.mk.inj h).2.symm⟩

theorem registerWaste_ok (hids : (item.batches.map (·.id)).Nodup) (hfit : Fits item.batches)
    (h : item.registerWaste decimal branchId quantity reason occurredAt now = (.ok (), item')) :
    ∃ details event,
      DrawnInOrder decimal item branchId (occurredAt.getD (some now)) details ∧
      DrawEvent item branchId details event ∧ item' = item.afterDraw decimal details event now := by
  obtain ⟨details, hallocate, hdrawn, hdrains⟩ := exists_allocate_sorted decimal
    (occurredAt.getD (some now))
    reduces_waste hids hfit
    (p := fun batch => batch.branchId = branchId && batch.isActive (occurredAt.getD (some now)))
    (fun b hb => (Bool.and_eq_true_iff.mp hb).2) quantity
  unfold registerWaste activateBatchesOfBranch at h
  simp only [hallocate] at h
  split_ifs at h with hreason hzero hstock
  · cases (Prod.mk.inj h).1
  · cases (Prod.mk.inj h).1
  · cases (Prod.mk.inj h).1
  exact ⟨details, _, ⟨hdrawn, hdrains⟩, .wasted hreason, (Prod.mk.inj h).2.symm⟩

theorem countStock_ok {actualTotal : Quantity} (hids : (item.batches.map (·.id)).Nodup)
    (hfit : Fits item.batches)
    (h : item.countStock decimal branchId actualTotal reason occurredAt now = (.ok (), item')) :
    ∃ details event,
      DrawnInOrder decimal item branchId (occurredAt.getD (some now)) details ∧
      DrawEvent item branchId details event ∧ item' = item.afterDraw decimal details event now := by
  unfold countStock activateBatchesOfBranch at h
  simp only at h
  split_ifs at h with hreason hmore hsame
  · cases (Prod.mk.inj h).1
  · cases (Prod.mk.inj h).1
  · cases (Prod.mk.inj h).1
  cases hmissing : (item.currentStockForBranch branchId
      (occurredAt.getD (some now))).subtract actualTotal with
  | error e =>
    rw [hmissing] at h
    cases (Prod.mk.inj h).1
  | ok missing =>
    obtain ⟨details, hallocate, hdrawn, hdrains⟩ := exists_allocate_sorted decimal
      (occurredAt.getD (some now)) reduces_adjustOut hids hfit
      (p := fun batch => batch.branchId = branchId && batch.isActive (occurredAt.getD (some now)))
      (fun b hb => (Bool.and_eq_true_iff.mp hb).2) missing
    simp only [hmissing, hallocate] at h
    exact ⟨details, _, ⟨hdrawn, hdrains⟩, .adjusted hreason, (Prod.mk.inj h).2.symm⟩

/-- The item after `batch` was received and `event` was registered. -/
def afterReceipt (item : InventoryItem) (batch : InventoryBatch) (event : DomainEvent)
    (now : Instant) : InventoryItem :=
  { item with
    batches := item.batches ++ [batch]
    domainEvents := item.domainEvents ++ [event]
    updatedAt := now }

/-- The event of a reception. -/
def receiptEvent (decimal : DecimalJs) (item : InventoryItem) (batch : InventoryBatch)
    (occurredOn : JsDate) : DomainEvent :=
  .stockReceived
    { itemId := item.id
      tenantId := item.tenantId
      branchId := batch.branchId
      batchId := batch.id
      quantity := batch.quantityReceived.getValue decimal
      unitCostAmount := batch.unitCost.getAmount decimal
      unitCostCurrency := batch.unitCost.currency
      occurredOn := occurredOn }

theorem recivedBatch_ok {batchId : Uuid} {unitCost : Money} {expirationDate : Option Instant}
    {receivedAt : Option JsDate}
    (h : item.recivedBatch decimal batchId branchId quantity unitCost expirationDate receivedAt
      now = (.ok (), item')) :
    ∃ batch : InventoryBatch, batch.id = batchId ∧
      batch.quantityRemaining = batch.quantityReceived ∧ 0 < batch.quantityReceived.milli ∧
      batch.expirationDate.isSome = item.isPerishable ∧
      item' = item.afterReceipt batch
        (receiptEvent decimal item batch (receivedAt.getD (some now))) now := by
  unfold recivedBatch at h
  split_ifs at h with hactive hdateless hperishable
  · cases (Prod.mk.inj h).1
  · cases (Prod.mk.inj h).1
  · rw [hperishable, Bool.true_and, Option.isNone_iff_eq_none] at hdateless
    split at h
    · cases (Prod.mk.inj h).1
    · rename_i batch hcreate
      obtain ⟨hpos, rfl⟩ := InventoryBatch.create_ok hcreate
      have hdated : expirationDate.isSome = item.isPerishable := by
        rw [hperishable, Option.isSome_iff_ne_none]
        exact hdateless
      exact ⟨_, rfl, rfl, hpos, hdated, (Prod.mk.inj h).2.symm⟩
  · split at h
    · cases (Prod.mk.inj h).1
    · rename_i batch hcreate
      obtain ⟨hpos, rfl⟩ := InventoryBatch.create_ok hcreate
      have hundated : (none : Option Instant).isSome = item.isPerishable :=
        (Bool.eq_false_of_not_eq_true hperishable).symm
      exact ⟨_, rfl, rfl, hpos, hundated, (Prod.mk.inj h).2.symm⟩

end InventoryItem

end KomiSaas.Inventory
