import KomiSaas.Inventory.Sequential

/-!
# First expired, first out

`compararPorFefo` compares expiration dates where both batches have one and
reception dates otherwise, so it orders a list only where either all batches are
dated or none is. In every state that a sequential run reaches that is so for
the batches of an item that have something left, and every consumption, waste
or count empties a batch before it takes from one with a later date
(`fefo_sound`).

* `pairwise_mergeSort`: a comparator that agrees with a key on a list sorts it by the key.
* `fefoKey`, `Dated`: the date that a batch goes out by, and when it has one.
* `PerishableDated`: the invariant of the tables.
* `FefoRespected`: the order of one operation, read from the tables before and after it.
-/

namespace KomiSaas.Inventory.Sequential

open KomiSaas.Lib KomiSaas.Shared InventoryItemRepository

/-! ## Sorting -/

/-- A comparator that agrees with a key on the elements of a list sorts it by the key. -/
theorem pairwise_mergeSort {α κ : Type*} [LinearOrder κ] {le : α → α → Bool} {l : List α}
    (key : α → κ) (hle : ∀ a ∈ l, ∀ b ∈ l, le a b = decide (key a ≤ key b)) :
    (l.mergeSort le).Pairwise fun a b => key a ≤ key b := by
  have hsame : (l.mergeSort le).map id = (l.map id).mergeSort fun a b => decide (key a ≤ key b) :=
    List.map_mergeSort hle
  rw [List.map_id, List.map_id] at hsame
  have hsorted : (l.mergeSort fun a b => decide (key a ≤ key b)).Pairwise
      fun a b => decide (key a ≤ key b) = true := by
    apply List.pairwise_mergeSort
    · intro a b c hab hbc
      rw [decide_eq_true_iff] at hab hbc ⊢
      exact hab.trans hbc
    · intro a b
      simpa using le_total (key a) (key b)
  rw [hsame]
  exact hsorted.imp of_decide_eq_true

/-- Of two different elements of a list that is sorted by `R`, one comes first. -/
theorem rel_or_rel_of_pairwise {α : Type*} {R : α → α → Prop} {l : List α} {a b : α}
    (h : l.Pairwise R) (ha : a ∈ l) (hb : b ∈ l) (hne : a ≠ b) : R a b ∨ R b a := by
  have hsymm : Std.Symm fun a b => R a b ∨ R b a := ⟨fun _ _ => Or.symm⟩
  have hpairwise : l.Pairwise fun a b => R a b ∨ R b a := h.imp Or.inl
  exact hpairwise.forall ha hb hne

/-! ## The order of the batches -/

/-- The date that a batch of an item goes out by. -/
def fefoKey (isPerishable : Bool) (batch : InventoryBatch) : JsDate :=
  if isPerishable then batch.expirationDate else batch.receivedAt

/-- The batch has a valid reception date, and an expiration date exactly if the
    item is perishable. -/
def Dated (isPerishable : Bool) (batch : InventoryBatch) : Prop :=
  batch.expirationDate.isSome = isPerishable ∧ batch.receivedAt.isSome = true

/-- `compararPorFefo` puts the first batch no later than the second. -/
def NoLater (loteA loteB : InventoryBatch) : Prop :=
  ∃ difference ≤ 0, compararPorFefo loteA loteB = some difference

/-- `compararPorFefo` is a total preorder on a list. -/
structure TotalPreorderOn (batches : List InventoryBatch) : Prop where
  refl : ∀ a ∈ batches, NoLater a a
  trans : ∀ a ∈ batches, ∀ b ∈ batches, ∀ c ∈ batches, NoLater a b → NoLater b c → NoLater a c
  total : ∀ a ∈ batches, ∀ b ∈ batches, NoLater a b ∨ NoLater b a

variable {isPerishable : Bool} {a b : InventoryBatch} {batches : List InventoryBatch}

theorem Dated.exists_key (h : Dated isPerishable a) : ∃ x, fefoKey isPerishable a = some x := by
  obtain ⟨hdated, hreceived⟩ := h
  unfold fefoKey
  split_ifs with hperishable
  · rw [hperishable] at hdated
    exact Option.isSome_iff_exists.mp hdated
  · exact Option.isSome_iff_exists.mp hreceived

/-- On batches dated alike, the comparator is the difference of the keys. -/
theorem compararPorFefo_eq (ha : Dated isPerishable a) (hb : Dated isPerishable b) {x y : Instant}
    (hx : fefoKey isPerishable a = some x) (hy : fefoKey isPerishable b = some y) :
    compararPorFefo a b = some (x - y) := by
  unfold fefoKey at hx hy
  unfold compararPorFefo
  cases isPerishable with
  | true =>
    simp only [if_true] at hx hy
    rw [hx, hy]
  | false =>
    have hundated : a.expirationDate = none := Option.not_isSome_iff_eq_none.mp (by simp [ha.1])
    simp only [Bool.false_eq_true, if_false] at hx hy
    rw [hundated, hx, hy]
    rfl

theorem noLater_iff (ha : Dated isPerishable a) (hb : Dated isPerishable b) {x y : Instant}
    (hx : fefoKey isPerishable a = some x) (hy : fefoKey isPerishable b = some y) :
    NoLater a b ↔ x ≤ y := by
  unfold NoLater
  rw [compararPorFefo_eq ha hb hx hy]
  constructor
  · rintro ⟨d, hd, he⟩
    rw [← Option.some.inj he] at hd
    exact sub_nonpos.mp hd
  · intro hle
    exact ⟨x - y, sub_nonpos.mpr hle, rfl⟩

theorem totalPreorderOn_of_dated (h : ∀ batch ∈ batches, Dated isPerishable batch) :
    TotalPreorderOn batches where
  refl a ha := by
    obtain ⟨x, hx⟩ := (h a ha).exists_key
    rw [noLater_iff (h a ha) (h a ha) hx hx]
  trans a ha b hb c hc := by
    obtain ⟨x, hx⟩ := (h a ha).exists_key
    obtain ⟨y, hy⟩ := (h b hb).exists_key
    obtain ⟨z, hz⟩ := (h c hc).exists_key
    rw [noLater_iff (h a ha) (h b hb) hx hy, noLater_iff (h b hb) (h c hc) hy hz,
      noLater_iff (h a ha) (h c hc) hx hz]
    exact le_trans
  total a ha b hb := by
    obtain ⟨x, hx⟩ := (h a ha).exists_key
    obtain ⟨y, hy⟩ := (h b hb).exists_key
    rw [noLater_iff (h a ha) (h b hb) hx hy, noLater_iff (h b hb) (h a ha) hy hx]
    exact le_total x y

/-- Batches dated alike are sorted by their dates. -/
theorem sorted_sortPorFefo (h : ∀ batch ∈ batches, Dated isPerishable batch) :
    (sortPorFefo batches).Pairwise fun a b =>
      (fefoKey isPerishable a).getD 0 ≤ (fefoKey isPerishable b).getD 0 := by
  apply pairwise_mergeSort
  intro a ha b hb
  obtain ⟨x, hx⟩ := (h a ha).exists_key
  obtain ⟨y, hy⟩ := (h b hb).exists_key
  rw [compararPorFefo_eq (h a ha) (h b hb) hx hy, hx, hy, decide_eq_decide]
  exact sub_nonpos

/-- Where something was taken from a batch, the active batches of its branch
    with an earlier date were emptied. -/
theorem emptied_of_drawn {decimal : DecimalJs} {item : InventoryItem} {branchId : Uuid}
    {date : JsDate} {details : List BatchDetail} {former latter : InventoryBatch}
    (hdrawn : item.DrawnInOrder decimal branchId date details)
    (hdated : ∀ batch ∈ item.batches, Dated isPerishable batch)
    (hformer : former ∈ item.activateBatchesOfBranch branchId date)
    (hlatter : latter ∈ item.activateBatchesOfBranch branchId date)
    (hbefore : JsDate.before (fefoKey isPerishable former) (fefoKey isPerishable latter) = true)
    (htaken : latter.id ∈ details.map (·.batchId)) :
    drawnFrom decimal details former.id = former.quantityRemaining.milli := by
  have hactive : ∀ batch ∈ item.activateBatchesOfBranch branchId date,
      Dated isPerishable batch := fun batch hbatch => hdated batch (List.mem_filter.mp hbatch).1
  have hperm : (sortPorFefo (item.activateBatchesOfBranch branchId date)).Perm
      (item.activateBatchesOfBranch branchId date) := List.mergeSort_perm _ _
  have hordered := (sorted_sortPorFefo hactive).and hdrawn.drains
  obtain ⟨x, hx⟩ := (hactive former hformer).exists_key
  obtain ⟨y, hy⟩ := (hactive latter hlatter).exists_key
  have hlt : x < y := by
    rw [hx, hy] at hbefore
    exact of_decide_eq_true hbefore
  have hne : former ≠ latter := by
    rintro rfl
    rw [hx] at hy
    exact hlt.ne (Option.some.inj hy)
  -- one of the two comes first, and it cannot be the later one
  rcases rel_or_rel_of_pairwise hordered (hperm.mem_iff.mpr hformer) (hperm.mem_iff.mpr hlatter)
    hne with ⟨-, hdrained⟩ | ⟨hle, -⟩
  · exact hdrained htaken
  · rw [hx, hy] at hle
    exact absurd hlt (not_lt.mpr hle)

/-! ## The tables -/

/-- The batches of an item with something left have an expiration date exactly
    if the item is perishable. -/
def PerishableDated (store : InventoryStore) : Prop :=
  ∀ item ∈ store.items, ∀ batch ∈ store.batches, batch.inventoryItemId = item.id →
    0 < batch.quantityRemaining.milli →
      (batch.expirationDate ≠ none ↔ item.isPerishable = true)

/-- No batch lost stock while a batch of its item and branch that was active at
    the date, with an earlier date to go out by, still has stock. -/
def FefoRespected (pre post : InventoryStore) (date : JsDate) : Prop :=
  ∀ item ∈ pre.items, ∀ former ∈ pre.batches, ∀ latter ∈ pre.batches,
    former.inventoryItemId = item.id → latter.inventoryItemId = item.id →
    former.branchId = latter.branchId → former.toBatch.isActive date = true →
    JsDate.before (fefoKey item.isPerishable former.toBatch)
      (fefoKey item.isPerishable latter.toBatch) = true →
    (∃ left ∈ post.batches, left.id = latter.id ∧
      left.quantityRemaining.milli < latter.quantityRemaining.milli) →
    ∀ left ∈ post.batches, left.id = former.id → left.quantityRemaining.milli = 0

variable {env : InventoryEnv} {call : Call} {store store' : InventoryStore} {operation : Operation}
  {item : InventoryItem}

/-- A save keeps the batches dated as their items ask. -/
theorem PerishableDated.written (hdated : PerishableDated store) (hsound : Sound store)
    (hfresh : fresh call store = true) (hsaves : Saves env call store operation item) :
    PerishableDated (written store item) := by
  obtain ⟨hids, horigin⟩ := hsaves.origin hsound hfresh
  intro row hrow batch hbatch hown hleft
  -- a stored batch with something left is dated as the item that is saved asks
  have hkept : ∀ old ∈ store.batches, old.inventoryItemId = item.id →
      0 < old.quantityRemaining.milli →
      (old.expirationDate ≠ none ↔ item.isPerishable = true) := by
    intro old hold hitem hpos
    obtain ⟨itemRow, hitemRow, hid, -, hperishable⟩ := hsaves.sameKind hsound hfresh hold hitem hpos
    rw [← hperishable]
    exact hdated itemRow hitemRow old hold (hitem.trans hid.symm) hpos
  rcases (Rows.mem_upsert_iff hsound.items).mp hrow with rfl | ⟨hold, hother⟩
  · rcases (mem_written_batches hids hsound.batches).mp hbatch with
      ⟨saved, hsaved, rfl⟩ | ⟨hstored, -⟩
    · cases horigin saved hsaved with
      | @stored old n hold hitem hpos => exact hkept old hold hitem hpos
      | received hid hperishable =>
        show saved.expirationDate ≠ none ↔ item.isPerishable = true
        rw [← hperishable, Option.isSome_iff_ne_none]
    · exact hkept batch hstored hown hleft
  · rcases (mem_written_batches hids hsound.batches).mp hbatch with
      ⟨saved, hsaved, rfl⟩ | ⟨hstored, -⟩
    · exact absurd hown.symm hother
    · exact hdated row hold batch hstored hown hleft

/-- The batches that are loaded are dated alike. -/
theorem dated_of_findById {itemId tenantId : Uuid} {scope : Option Uuid}
    (hdated : PerishableDated store) (hsound : Sound store)
    (hfind : findById store itemId tenantId scope = some item) :
    ∀ batch ∈ item.batches, Dated item.isPerishable batch := by
  intro batch hbatch
  obtain ⟨itemRow, hitemRow, hid, -, rfl⟩ := findById_eq_some hfind
  obtain ⟨row, hmem, rfl⟩ := List.mem_map.mp hbatch
  obtain ⟨hrow, hcond⟩ := List.mem_filter.mp hmem
  simp only [Bool.and_eq_true, decide_eq_true_eq] at hcond
  have hiff := hdated itemRow hitemRow row hrow (hcond.1.1.trans hid.symm) hcond.1.2
  have hfits := hsound.fits row hrow
  unfold InventoryBatchRow.fitsColumns at hfits
  simp only [Bool.and_eq_true] at hfits
  rw [← Option.isSome_iff_ne_none, ← Bool.eq_iff_iff] at hiff
  exact ⟨hiff, hfits.2⟩

/-! ## One operation -/

section Operation

variable {itemId tenantId : Uuid} {scope : Option Uuid} {loaded : InventoryItem}
  {row left : InventoryBatchRow} {details : List BatchDetail}

/-- A stored batch is loaded if it is of the item and the branch and has something left. -/
theorem toBatch_mem_loaded (hfind : findById store itemId tenantId scope = some loaded)
    (hsound : Sound store) (hrow : row ∈ store.batches) :
    row.toBatch ∈ loaded.batches ↔ row.inventoryItemId = itemId ∧
      0 < row.quantityRemaining.milli ∧ scope.all (fun branchId => row.branchId = branchId) := by
  obtain ⟨itemRow, -, -, -, rfl⟩ := findById_eq_some hfind
  have hfilter : row.toBatch ∈ (activeBatchesOf store itemId scope).map (·.toBatch) ↔
      row ∈ activeBatchesOf store itemId scope := by
    constructor
    · intro hmem
      obtain ⟨other, hother, he⟩ := List.mem_map.mp hmem
      have hid : other.id = row.id := congrArg InventoryBatch.id he
      rwa [← List.inj_on_of_nodup_map hsound.batches (List.mem_filter.mp hother).1 hrow hid]
    · exact List.mem_map_of_mem
  rw [toAggregate, hfilter, activeBatchesOf, List.mem_filter]
  simp [hrow, and_assoc]

/-- What is left of a stored batch after a save of what was drawn. -/
theorem remaining_written (hfind : findById store itemId tenantId scope = some loaded)
    (hsound : Sound store) (hbatches : item.batches = drawAll env.decimal details loaded.batches)
    (hrow : row ∈ store.batches) (hleft : left ∈ (written store item).batches)
    (hid : left.id = row.id) :
    left.quantityRemaining.milli = row.quantityRemaining.milli -
      (if row.toBatch ∈ loaded.batches then drawnFrom env.decimal details row.id else 0) := by
  have hloadedIds := nodup_batches_of_findById hfind hsound.batches
  have hids : (item.batches.map (·.id)).Nodup := by rwa [hbatches, map_id_drawAll]
  rcases (mem_written_batches hids hsound.batches).mp hleft with
    ⟨saved, hsaved, rfl⟩ | ⟨hstored, hother⟩
  · rw [hbatches] at hsaved
    obtain ⟨batch, hbatch, rfl⟩ := List.mem_map.mp hsaved
    obtain ⟨origin, horigin, -, rfl⟩ := mem_batches_of_findById hfind hbatch
    obtain rfl := List.inj_on_of_nodup_map hsound.batches horigin hrow hid
    rw [if_pos hbatch]
    rfl
  · obtain rfl := List.inj_on_of_nodup_map hsound.batches hstored hrow hid
    have hnot : left.toBatch ∉ loaded.batches := by
      intro hmem
      rw [hbatches, map_id_drawAll] at hother
      exact hother (List.mem_map.mpr ⟨left.toBatch, hmem, rfl⟩)
    rw [if_neg hnot, Nat.sub_zero]

/-- A consumption, a waste or a count that is saved respects the order. -/
theorem fefoRespected_written {stockOperation : StockOperation} {date : JsDate}
    (hdated : PerishableDated store) (hsound : Sound store)
    (hload : stockOperation.load call store = .ok loaded)
    (hperform : stockOperation.perform env call loaded = .ok item)
    (hdate : drawDate env call stockOperation = some date) :
    FefoRespected store (written store item) date := by
  obtain ⟨itemId, tenantId, scope, hfind⟩ := StockOperation.findById_of_load hload
  have hloadedIds := nodup_batches_of_findById hfind hsound.batches
  have halike := dated_of_findById hdated hsound hfind
  obtain ⟨branchId, details, hdrawn, hbatches⟩ :=
    drawn_of_perform hloadedIds (hsound.fits_loaded hfind) hdate hperform
  rintro itemRow hitemRow former hformer latter hlatter hformerItem hlatterItem hbranch hactive
    hbefore ⟨left, hleft, hleftId, hless⟩ rest hrest hrestId
  have hleftEq := remaining_written hfind hsound hbatches hlatter hleft hleftId
  -- the later batch was loaded, and something was taken from it
  have hlatterLoaded : latter.toBatch ∈ loaded.batches := by
    by_contra hnot
    rw [if_neg hnot] at hleftEq
    omega
  have htaken : latter.id ∈ details.map (·.batchId) := by
    by_contra hnot
    rw [if_pos hlatterLoaded, drawnFrom_eq_zero hnot] at hleftEq
    omega
  have hlatterActive : latter.toBatch ∈ loaded.activateBatchesOfBranch branchId date := by
    obtain ⟨batch, hbatch, he⟩ := List.mem_map.mp (hdrawn.drawn.batchId_mem htaken)
    rwa [← List.inj_on_of_nodup_map hloadedIds (List.mem_filter.mp hbatch).1 hlatterLoaded he]
  -- so the earlier one, of the same branch, was loaded too
  have hformerActive : former.toBatch ∈ loaded.activateBatchesOfBranch branchId date := by
    obtain ⟨hitem, -, hscope⟩ := (toBatch_mem_loaded hfind hsound hlatter).mp hlatterLoaded
    have hlatterBranch := (List.mem_filter.mp hlatterActive).2
    simp only [Bool.and_eq_true, decide_eq_true_eq] at hlatterBranch
    refine List.mem_filter.mpr ⟨(toBatch_mem_loaded hfind hsound hformer).mpr ⟨?_, ?_, ?_⟩, ?_⟩
    · rw [hformerItem, ← hlatterItem, hitem]
    · exact InventoryBatch.remaining_pos_of_isActive hactive
    · rwa [hbranch]
    · have hformerBranch : former.toBatch.branchId = branchId := hbranch.trans hlatterBranch.1
      simp [hformerBranch, hactive]
  have hperishable : itemRow.isPerishable = loaded.isPerishable := by
    obtain ⟨row, hrow, hrowId, -, hloaded⟩ := findById_eq_some hfind
    have hitem := ((toBatch_mem_loaded hfind hsound hlatter).mp hlatterLoaded).1
    rw [hloaded, List.inj_on_of_nodup_map hsound.items hitemRow hrow
      (hlatterItem.symm.trans (hitem.trans hrowId.symm))]
    rfl
  rw [hperishable] at hbefore
  have hemptied := emptied_of_drawn hdrawn halike hformerActive hlatterActive hbefore htaken
  rw [remaining_written hfind hsound hbatches hformer hrest hrestId,
    if_pos (List.mem_filter.mp hformerActive).1]
  have hall : drawnFrom env.decimal details former.id = former.quantityRemaining.milli := hemptied
  omega

end Operation

/-! ## Runs -/

theorem PerishableDated.of_sameTables (h : PerishableDated store)
    (hsame : SameTables store store') : PerishableDated store' := by
  unfold PerishableDated
  rw [hsame.items, hsame.batches]
  exact h

/-- What every step keeps. -/
theorem perishableDated_step {a : Action} (h : Sound store ∧ PerishableDated store)
    (hnext : next env store a = some store') : Sound store' ∧ PerishableDated store' := by
  obtain ⟨hsound, hdated⟩ := h
  refine ⟨hsound.step hnext, ?_⟩
  obtain ⟨hfresh, heffect⟩ := effect_of_next hnext
  cases heffect with
  | refused hsame _ => exact hdated.of_sameTables hsame
  | saved hsame hsaves _ _ =>
    exact (hdated.written hsound hfresh hsaves).of_sameTables hsame.written

/-- A step that takes stock respects the order. -/
theorem fefoRespected_step {a : Action} {stockOperation : StockOperation} {date : JsDate}
    (hsound : Sound store) (hdated : PerishableDated store)
    (hoperation : a.operation = .stock stockOperation)
    (hdate : drawDate env a.call stockOperation = some date)
    (hsucceeds : succeeds env store a = true) (hnext : next env store a = some store') :
    FefoRespected store store' date := by
  obtain ⟨-, heffect⟩ := effect_of_next hnext
  cases heffect with
  | refused _ hfails => exact absurd hsucceeds (hfails ▸ Bool.false_ne_true)
  | saved hsame hsaves _ _ =>
    rw [hoperation] at hsaves
    unfold FefoRespected
    rw [hsame.written.batches]
    cases hsaves with
    | worked hload hperform => exact fefoRespected_written hdated hsound hload hperform hdate
    | edited hother _ _ _ _ => exact absurd rfl (hother stockOperation)

/-- First expired, first out, for every sequential run: in the state it reaches
    the batches with something left are dated exactly if their item is
    perishable, the comparator is a total preorder on every part of the batches
    of a loaded item, and every successful consumption, waste or count on the
    way emptied the active batches of the branch with an earlier date before it
    took from a later one. -/
theorem fefo_sound {tr : List (Transition InventoryStore Action)}
    (hrun : Run (next env) emptyStore tr store) :
    PerishableDated store ∧
      (∀ itemId tenantId scope item, findById store itemId tenantId scope = some item →
        ∀ p, TotalPreorderOn (item.batches.filter p)) ∧
      ∀ t ∈ tr, ∀ stockOperation date, t.action.operation = .stock stockOperation →
        drawDate env t.action.call stockOperation = some date →
        succeeds env t.pre t.action = true → FefoRespected t.pre t.post date := by
  have hinit : Sound emptyStore ∧ PerishableDated emptyStore :=
    ⟨emptyStore_sound, fun item hitem => absurd hitem List.not_mem_nil⟩
  obtain ⟨⟨hsound, hdated⟩, hall⟩ :=
    hrun.invariant (fun _ _ _ h hnext => perishableDated_step h hnext) hinit
  refine ⟨hdated, ?_, ?_⟩
  · intro itemId tenantId scope item hfind p
    have halike := dated_of_findById hdated hsound hfind
    exact totalPreorderOn_of_dated fun batch hbatch => halike batch (List.mem_filter.mp hbatch).1
  · intro t ht stockOperation date hoperation hdate hsucceeds
    obtain ⟨⟨hsound, hdated⟩, -⟩ := hall t ht
    exact fefoRespected_step hsound hdated hoperation hdate hsucceeds (hrun.next_of_mem ht)

/-- An environment that reads two dates. -/
def calendarEnv : InventoryEnv where
  decimal := plainDecimal
  parseDate text :=
    if text = js "1970-01-02" then some 86400000
    else if text = js "1970-01-03" then some 172800000
    else none

/-- Create the sample item, perishable. -/
def sampleCreate : Action where
  call := { sampleCall 1 with itemId := sampleItemId }
  operation :=
    .createInventoryItem
      { tenantId := sampleTenantId
        name := js "Tomate"
        unitOfMeasure := js "UNIT"
        isPerishable := true }

/-- Receive four units, as the `n`-th sample batch. -/
def sampleLot (n : ℕ) (expirationDate : JsString) : Action where
  call := { sampleCall n with itemId := sampleBatchId n }
  operation :=
    .stock (.receiveStock
      { itemId := sampleItemId
        tenantId := sampleTenantId
        branchId := sampleBranchId 1
        quantityReceived := js "4"
        totalCostAmount := js "1500"
        expirationDate := some expirationDate
        receivedAt := none })


/-- A lot of four units. -/
def lot (n : ℕ) (expirationDate : Instant) : InventoryBatch where
  id := sampleBatchId n
  branchId := sampleBranchId 1
  quantityReceived := ⟨4000⟩
  quantityRemaining := ⟨4000⟩
  unitCost := ⟨37500, js "COP", isIsoCode_cop⟩
  expirationDate := some expirationDate
  receivedAt := some 1000

/-- The sample item with two lots, of which the second expires first. -/
def twoLots : InventoryItem where
  id := sampleItemId
  tenantId := sampleTenantId
  sku := js "INV-0001"
  name := sampleName
  unitOfMeasure := .unit
  batches := [lot 1 172800000, lot 2 86400000]
  isPerishable := true
  isActive := true
  minGlobalStock := none
  branchConfigs := []
  createdAt := 1000
  updatedAt := 1000
  domainEvents := []

/-- The same after six units left. -/
def twoLotsConsumed : InventoryItem :=
  { twoLots with
    batches := [(lot 1 172800000).less 2000, (lot 2 86400000).less 4000]
    domainEvents :=
      [.stockConsumed
        { itemId := sampleItemId
          tenantId := sampleTenantId
          branchId := sampleBranchId 1
          quantity := js "6"
          consumedBatches :=
            [⟨sampleBatchId 2, js "4", js "375.00", js "COP"⟩,
              ⟨sampleBatchId 1, js "2", js "375.00", js "COP"⟩]
          occurredOn := some 1000 }] }

theorem sortPorFefo_pair (h : 0 < (compararPorFefo a b).getD 0) : sortPorFefo [a, b] = [b, a] := by
  have hnot : ¬ (compararPorFefo a b).getD 0 ≤ 0 := not_le.mpr h
  simp [sortPorFefo, List.mergeSort, hnot, List.MergeSort.Internal.splitInTwo_fst,
    List.MergeSort.Internal.splitInTwo_snd]

theorem consume_twoLots :
    twoLots.consume plainDecimal ⟨6000⟩ none 1000 = (.ok (), twoLotsConsumed) := by
  have hactive : twoLots.batches.filter (·.isActive ((none : Option JsDate).getD (some 1000))) =
      [lot 1 172800000, lot 2 86400000] := by decide +kernel
  have hsort := sortPorFefo_pair (show 0 < (compararPorFefo (lot 1 172800000)
    (lot 2 86400000)).getD 0 by decide)
  unfold InventoryItem.consume
  simp only [hactive, hsort]
  decide +kernel

/-- Six units empty the second lot, which expires first, and take two of the first. -/
theorem fefo_sound_two_lots :
    ∃ tr s s', Run (next calendarEnv) emptyStore tr s ∧
      findById s sampleItemId sampleTenantId (some (sampleBranchId 1)) = some twoLots ∧
      next calendarEnv s ⟨sampleCall 3, .stock (sampleConsume (js "6"))⟩ = some s' ∧
      s'.batches.map (·.quantityRemaining.milli) = [2000, 0] ∧ PerishableDated s' ∧
      FefoRespected s s' (some 1000) := by
  obtain ⟨tr, s, hexec, hfind, hfresh, haccepts, hleft⟩ :
      ∃ tr s, exec (next calendarEnv) emptyStore
        [sampleCreate, sampleLot 1 (js "1970-01-03"), sampleLot 2 (js "1970-01-02")] =
          some (tr, s) ∧
      findById s sampleItemId sampleTenantId (some (sampleBranchId 1)) = some twoLots ∧
      fresh (sampleCall 3) s = true ∧ accepts s twoLotsConsumed = true ∧
      (written s twoLotsConsumed).batches.map (·.quantityRemaining.milli) = [2000, 0] :=
    exists_of_any_exec (by decide +kernel)
  have hload : loadItem s sampleItemId sampleTenantId (some (sampleBranchId 1)) = .ok twoLots := by
    rw [loadItem, hfind]
  have hperform : (sampleConsume (js "6")).perform calendarEnv (sampleCall 3) twoLots =
      .ok twoLotsConsumed := by
    have hquantity : quantityOf calendarEnv (js "6") = .ok ⟨6000⟩ := by decide +kernel
    have hsettle :
        settle (twoLots.consume plainDecimal ⟨6000⟩ none 1000) = .ok twoLotsConsumed := by
      rw [consume_twoLots, settle]
    show (quantityOf calendarEnv (js "6")).bind
      (fun quantity => settle (twoLots.consume plainDecimal quantity none 1000)) = _
    exact bind_eq_ok.mpr ⟨_, hquantity, hsettle⟩
  have hexecute : (Operation.stock (sampleConsume (js "6"))).execute calendarEnv (sampleCall 3) s =
      (.ok twoLotsConsumed.domainEvents, written s twoLotsConsumed) :=
    execute_of_prepare (Prod.ext (bind_eq_ok.mpr ⟨twoLots, hload, hperform⟩) rfl) haccepts
  have hnext : next calendarEnv s ⟨sampleCall 3, .stock (sampleConsume (js "6"))⟩ =
      some (written s twoLotsConsumed) := by
    rw [next, if_pos hfresh, hexecute]
  obtain ⟨hdated, -, hrespected⟩ := fefo_sound ((run_of_exec hexec).snoc hnext)
  refine ⟨tr, s, written s twoLotsConsumed, run_of_exec hexec, hfind, hnext, hleft, hdated, ?_⟩
  exact hrespected _ (List.mem_append_right _ (List.mem_singleton_self _)) _ _ rfl rfl
    (by rw [succeeds, hexecute]; rfl)

end KomiSaas.Inventory.Sequential
