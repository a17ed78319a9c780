import KomiSaas.Inventory.Reads

/-!
# What the batches hold

The running sums of the aggregate, one addition of twenty digits for each
batch, against the exact total of thousandths: they agree below `10 ^ 20`
(`stockOf_milli`), and a sum of batches with stock is never zero (`stockOf_pos`).
-/

namespace KomiSaas.Inventory

open KomiSaas.Lib KomiSaas.Shared

/-- The exact total of what the batches hold, in thousandths. -/
def totalMilli (batches : List InventoryBatch) : ℕ :=
  (batches.map (·.quantityRemaining.milli)).sum

@[simp] theorem totalMilli_nil : totalMilli [] = 0 := rfl

@[simp] theorem totalMilli_cons (batch : InventoryBatch) (batches : List InventoryBatch) :
    totalMilli (batch :: batches) = batch.quantityRemaining.milli + totalMilli batches := rfl

variable {decimal : DecimalJs} {batches : List InventoryBatch} {item : InventoryItem}
  {date : JsDate}

theorem totalMilli_perm {others : List InventoryBatch} (h : batches.Perm others) :
    totalMilli batches = totalMilli others :=
  (h.map _).sum_eq

/-- Only batches without stock add up to nothing. -/
theorem totalMilli_eq_zero_iff :
    totalMilli batches = 0 ↔ ∀ batch ∈ batches, batch.quantityRemaining.milli = 0 := by
  rw [totalMilli, List.sum_eq_zero_iff, List.forall_mem_map]

theorem totalMilli_filter_le (p : InventoryBatch → Bool) :
    totalMilli (batches.filter p) ≤ totalMilli batches := by
  induction batches with
  | nil => exact le_rfl
  | cons batch batches ih =>
    rw [List.filter_cons, totalMilli_cons]
    split_ifs
    · rw [totalMilli_cons]
      omega
    · omega

/-- Of batches with stock, some hold as much as all only if they are all. -/
theorem totalMilli_filter_eq_iff {p : InventoryBatch → Bool}
    (hpos : ∀ batch ∈ batches, 0 < batch.quantityRemaining.milli) :
    totalMilli (batches.filter p) = totalMilli batches ↔ ∀ batch ∈ batches, p batch = true := by
  induction batches with
  | nil => simp
  | cons batch batches ih =>
    have hbatch := hpos batch List.mem_cons_self
    have hrest := ih fun b hb => hpos b (List.mem_cons_of_mem _ hb)
    have hle : totalMilli (batches.filter p) ≤ totalMilli batches := totalMilli_filter_le p
    rw [List.forall_mem_cons, List.filter_cons, totalMilli_cons, ← hrest]
    split_ifs with h
    · rw [totalMilli_cons, and_iff_right h]
      omega
    · refine iff_of_false (by omega) fun hall => h hall.1

/-- Each addition of the running sum is exact while the total fits. -/
theorem foldl_add_milli {total : Quantity}
    (hfit : total.milli + totalMilli batches < 10 ^ decimalPrecision) :
    (batches.foldl (fun total batch => total.add batch.quantityRemaining) total).milli =
      total.milli + totalMilli batches := by
  induction batches generalizing total with
  | nil => rfl
  | cons batch batches ih =>
    rw [totalMilli_cons] at hfit ⊢
    have hadd : (total.add batch.quantityRemaining).milli =
        total.milli + batch.quantityRemaining.milli := Quantity.add_milli (by omega)
    rw [List.foldl_cons, ih (by omega), hadd]
    omega

theorem stockOf_milli (hfit : totalMilli batches < 10 ^ decimalPrecision) :
    (InventoryItem.stockOf batches).milli = totalMilli batches := by
  have hzero : Quantity.zero.milli = 0 := rfl
  rw [InventoryItem.stockOf, foldl_add_milli (by omega)]
  omega

/-- Once something was added, the running sum stays above zero. -/
theorem foldl_add_pos {total : Quantity} (htotal : 0 < total.milli) :
    0 < (batches.foldl (fun total batch => total.add batch.quantityRemaining) total).milli := by
  induction batches generalizing total with
  | nil => exact htotal
  | cons batch batches ih => exact ih (Quantity.add_pos (by omega))

theorem stockOf_pos (hne : batches ≠ [])
    (hpos : ∀ batch ∈ batches, 0 < batch.quantityRemaining.milli) :
    0 < (InventoryItem.stockOf batches).milli := by
  cases batches with
  | nil => exact absurd rfl hne
  | cons batch batches =>
    have hbatch := hpos batch List.mem_cons_self
    have hfirst : 0 < (Quantity.zero.add batch.quantityRemaining).milli :=
      Quantity.add_pos (by omega)
    rw [InventoryItem.stockOf, List.foldl_cons]
    exact foldl_add_pos hfirst

/-- There is no average cost exactly when no batch is active. -/
theorem weightedAverageCost_eq_none_iff :
    item.weightedAverageCost decimal date = .ok none ↔
      item.batches.filter (·.isActive date) = [] := by
  unfold InventoryItem.weightedAverageCost
  by_cases hactive : item.batches.filter (·.isActive date) = []
  · simp [hactive]
  have hstock := stockOf_pos hactive fun batch hbatch =>
    InventoryBatch.remaining_pos_of_isActive (List.mem_filter.mp hbatch).2
  have hzero : (InventoryItem.stockOf (item.batches.filter (·.isActive date))).isZero = false := by
    rw [Bool.eq_false_iff, Ne, Quantity.isZero_iff]
    omega
  simp only [hactive, if_false, hzero, Bool.false_eq_true, iff_false]
  intro h
  obtain ⟨zero, -, h⟩ := bind_eq_ok.mp h
  obtain ⟨totalValue, -, h⟩ := bind_eq_ok.mp h
  obtain ⟨cost, -, h⟩ := map_eq_ok.mp h
  cases h

end KomiSaas.Inventory
