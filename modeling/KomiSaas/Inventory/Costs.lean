import KomiSaas.Inventory.Stock

/-!
# What the batches cost

`Money` rounds every amount to cents: the unit cost of a reception, what is left
in a batch, and the average. The exact values are far enough from each other
for the package's twenty digits to change nothing while the amounts are below
the bounds stated with each result.

* `receipt_cost`: what a reception is worth, against what was paid for it.
* `weightedAverageCost_eq`: the average is the sum of the costs of the batches,
  each in cents, divided by their stock; `weightedAverageCost_close`: its
  distance from the exact average.
-/

namespace KomiSaas.Inventory

open KomiSaas.Lib KomiSaas.Lib.Decimal KomiSaas.Shared

variable {decimal : DecimalJs} {batch : InventoryBatch} {batches : List InventoryBatch}
  {item item' : InventoryItem} {date : JsDate}

/-! ## A reception -/

/-- A reception adds a batch with the unit cost it was given. -/
theorem batches_of_recivedBatch {batchId branchId : Uuid} {quantity : Quantity} {unitCost : Money}
    {expirationDate : Option Instant} {receivedAt : Option JsDate} {now : Instant}
    (h : item.recivedBatch decimal batchId branchId quantity unitCost expirationDate receivedAt
      now = (.ok (), item')) :
    0 < quantity.milli ∧ ∃ batch : InventoryBatch, batch.unitCost = unitCost ∧
      batch.quantityRemaining = quantity ∧ item'.batches = item.batches ++ [batch] := by
  unfold InventoryItem.recivedBatch at h
  split_ifs at h
  · cases (Prod.mk.inj h).1
  · cases (Prod.mk.inj h).1
  all_goals
    split at h
    · cases (Prod.mk.inj h).1
    · next batch hcreate =>
      obtain ⟨hpos, rfl⟩ := InventoryBatch.create_ok hcreate
      exact ⟨hpos, _, rfl, rfl, by rw [← (Prod.mk.inj h).2]; rfl⟩

/-- A total divided and multiplied back, each time rounded to a whole number and
    by a part in `2 * 10 ^ 19`. -/
theorem abs_sub_le_of_rounded {total quantity unit cost : ℚ} (htotal : 0 ≤ total)
    (hquantity : 0 < quantity)
    (hunit : |unit - total / quantity| ≤ 1 / 2 + total / quantity * (1 / (2 * 10 ^ 19)))
    (hcost : |cost - unit * quantity| ≤ 1 / 2 + unit * quantity * (1 / (2 * 10 ^ 19))) :
    |cost - total| ≤ quantity / 2 + 1 / 2 + (total + quantity) / 10 ^ 18 := by
  have hback : |unit * quantity - total| ≤ quantity / 2 + total * (1 / (2 * 10 ^ 19)) := by
    calc |unit * quantity - total|
        = |unit - total / quantity| * quantity := by
          rw [← abs_of_pos hquantity, ← abs_mul, abs_of_pos hquantity, sub_mul,
            div_mul_cancel₀ _ hquantity.ne']
      _ ≤ (1 / 2 + total / quantity * (1 / (2 * 10 ^ 19))) * quantity := by gcongr
      _ = quantity / 2 + total / quantity * quantity * (1 / (2 * 10 ^ 19)) := by ring
      _ = quantity / 2 + total * (1 / (2 * 10 ^ 19)) := by rw [div_mul_cancel₀ _ hquantity.ne']
  rw [abs_le] at hback hcost ⊢
  constructor <;> linarith [hback.1, hback.2, hcost.1, hcost.2]

/-- What is left in a new batch is worth the total paid, give or take half a cent
    for each unit received, half a cent, and the digits that the package drops. -/
theorem cost_of_divide {total unitCost : Money} {quantity : Quantity} (hpos : 0 < quantity.milli)
    (hdivide : total.divide decimal (quantity.getValue decimal) = .ok unitCost) :
    ∃ cost, unitCost.multiply decimal (quantity.getValue decimal) = .ok cost ∧
      cost.currency = total.currency ∧
      |(cost.cents : ℚ) - total.cents| ≤
        (quantity.value : ℚ) / 2 + 1 / 2 + (total.cents + quantity.value) / 10 ^ 18 := by
  rw [Money.divide_getValue, if_neg hpos.ne'] at hdivide
  have hq : (0 : ℚ) < quantity.value := by
    rw [NNRat.cast_pos, Quantity.value]
    positivity
  have hunit := Money.abs_cents_sub_le (total.amount / quantity.value) total.currency total.iso
  rw [Except.ok.inj hdivide] at hunit
  have hcurrency : unitCost.currency = total.currency := by rw [← Except.ok.inj hdivide]; rfl
  have hcost := Money.abs_cents_sub_le (unitCost.amount * quantity.value) unitCost.currency
    unitCost.iso
  refine ⟨_, Money.multiply_getValue, hcurrency, ?_⟩
  have hdivided : ((total.amount / quantity.value : ℚ≥0) : ℚ) * 10 ^ 2 =
      total.cents / quantity.value := by
    rw [Money.amount]
    push_cast
    ring
  have hmultiplied : ((unitCost.amount * quantity.value : ℚ≥0) : ℚ) * 10 ^ 2 =
      unitCost.cents * quantity.value := by
    rw [Money.amount]
    push_cast
    ring
  rw [hdivided] at hunit
  rw [hmultiplied] at hcost
  exact abs_sub_le_of_rounded (by positivity) hq hunit hcost

/-- The batch of a reception, and what was paid for it. -/
theorem receipt_cost {env : InventoryEnv} {call : Call} {params : ReceiveStockParams}
    (h : ReceiveStock.perform env call params item = .ok item') :
    ∃ total quantity batch cost,
      moneyOf env params.totalCostAmount defaultCurrency = .ok total ∧
      quantityOf env params.quantityReceived = .ok quantity ∧
      item'.batches = item.batches ++ [batch] ∧ batch.remainingCost env.decimal = .ok cost ∧
      cost.currency = total.currency ∧
      |(cost.cents : ℚ) - total.cents| ≤
        (quantity.value : ℚ) / 2 + 1 / 2 + (total.cents + quantity.value) / 10 ^ 18 := by
  obtain ⟨quantity, hquantity, h⟩ := bind_eq_ok.mp h
  obtain ⟨total, htotal, h⟩ := bind_eq_ok.mp h
  obtain ⟨unitCost, hunit, h⟩ := bind_eq_ok.mp h
  obtain ⟨expirationDate, -, h⟩ := bind_eq_ok.mp h
  obtain ⟨hpos, batch, rfl, rfl, hbatches⟩ := batches_of_recivedBatch (settle_eq_ok h)
  obtain ⟨cost, hcost, hcurrency, hclose⟩ := cost_of_divide hpos (mapError_eq_ok.mp hunit)
  exact ⟨total, _, batch, cost, htotal, hquantity, hbatches, hcost, hcurrency, hclose⟩

def sampleReceipt (quantityReceived totalCostAmount : JsString) : ReceiveStockParams where
  itemId := sampleItemId
  tenantId := sampleTenantId
  branchId := sampleBranchId 1
  quantityReceived := quantityReceived
  totalCostAmount := totalCostAmount
  expirationDate := none
  receivedAt := none

/-- The sample item without batches. -/
def sampleItem : InventoryItem :=
  toAggregate (sampleStore.items.head sampleStore_items_ne_nil) [] []

/-- Ten units for fifteen. -/
theorem receipt_cost_ten : ∃ (item' : InventoryItem) (total : Money) (quantity : Quantity)
    (batch : InventoryBatch) (cost : Money),
    moneyOf sampleEnv (js "15") defaultCurrency = .ok total ∧
    quantityOf sampleEnv (js "10") = .ok quantity ∧
    item'.batches = sampleItem.batches ++ [batch] ∧ batch.remainingCost plainDecimal = .ok cost ∧
    cost.currency = total.currency ∧
    |(cost.cents : ℚ) - total.cents| ≤
      (quantity.value : ℚ) / 2 + 1 / 2 + (total.cents + quantity.value) / 10 ^ 18 := by
  have hperform : ∃ item', ReceiveStock.perform sampleEnv (sampleCall 1)
      (sampleReceipt (js "10") (js "15")) sampleItem = .ok item' :=
    exists_eq_ok (by decide +kernel)
  obtain ⟨item', h⟩ := hperform
  exact ⟨item', receipt_cost h⟩

/-- A batch of a thousand units that cost nothing each. -/
def thousandForNothing : InventoryBatch where
  id := sampleBatchId 1
  branchId := sampleBranchId 1
  quantityReceived := ⟨1000000⟩
  quantityRemaining := ⟨1000000⟩
  unitCost := ⟨0, js "COP", isIsoCode_cop⟩
  expirationDate := none
  receivedAt := some 1000

/-- A thousand units for 1.00: the tenth of a cent that each costs is rounded away. -/
theorem receipt_cost_lost :
    moneyOf sampleEnv (js "1") defaultCurrency = .ok ⟨100, js "COP", by decide⟩ ∧
      (ReceiveStock.perform sampleEnv (sampleCall 1) (sampleReceipt (js "1000") (js "1"))
        sampleItem).map (·.batches) = .ok [thousandForNothing] ∧
      thousandForNothing.remainingCost plainDecimal = .ok ⟨0, js "COP", by decide⟩ ∧
      ¬ |((0 : ℕ) : ℚ) - (100 : ℕ)| ≤ 1 := by
  refine ⟨by decide +kernel, by decide +kernel, by decide +kernel, ?_⟩
  norm_num

/-! ## The cost of what is left -/

/-- What is left in the batch, in cents. -/
def remainingCents (batch : InventoryBatch) : ℕ :=
  nearest ((batch.unitCost.cents * batch.quantityRemaining.milli : ℕ) / 10 ^ 3)

/-- The costs of the batches, each in cents. -/
def totalCents (batches : List InventoryBatch) : ℕ := (batches.map remainingCents).sum

/-- The exact cost of the batches, in thousandths of a cent. -/
def exactCost (batches : List InventoryBatch) : ℕ :=
  (batches.map fun batch => batch.unitCost.cents * batch.quantityRemaining.milli).sum

@[simp] theorem totalCents_cons : totalCents (batch :: batches) =
    remainingCents batch + totalCents batches := rfl

@[simp] theorem exactCost_cons : exactCost (batch :: batches) =
    batch.unitCost.cents * batch.quantityRemaining.milli + exactCost batches := rfl

theorem remainingCost_eq
    (hfit : batch.unitCost.cents * batch.quantityRemaining.milli < 10 ^ decimalPrecision) :
    batch.remainingCost decimal =
      .ok ⟨remainingCents batch, batch.unitCost.currency, batch.unitCost.iso⟩ := by
  have hproduct : batch.unitCost.amount * batch.quantityRemaining.value =
      ((batch.unitCost.cents * batch.quantityRemaining.milli : ℕ) : ℚ≥0) / 10 ^ 5 := by
    rw [Money.amount, Quantity.value, div_mul_div_comm, ← pow_add]
    push_cast
    rfl
  have hcents : ∀ n : ℕ, (n : ℚ≥0) / 10 ^ 5 * 10 ^ 2 = n / 10 ^ 3 := by
    intro n
    rw [div_mul_eq_mul_div, div_eq_div_iff (by norm_num) (by norm_num)]
    ring
  rw [InventoryBatch.remainingCost, Money.multiply_getValue, hproduct,
    toSignificantDigits_of_lt hfit, Money.ofDecimal]
  simp only [toScale, hcents, remainingCents]

/-- Half a cent is the most that a cost in cents is off. -/
theorem abs_remainingCents_sub_le :
    |(1000 * remainingCents batch : ℚ) -
      (batch.unitCost.cents * batch.quantityRemaining.milli : ℕ)| ≤ 500 := by
  have h := abs_nearest_sub_le ((batch.unitCost.cents * batch.quantityRemaining.milli : ℕ) / 10 ^ 3)
  rw [show nearest _ = remainingCents batch from rfl, abs_le] at h
  rw [abs_le]
  push_cast at h ⊢
  constructor <;> linarith [h.1, h.2]

/-- A cost below half a cent is none, so the costs in cents at most double. -/
theorem remainingCents_le :
    1000 * remainingCents batch ≤ 2 * (batch.unitCost.cents * batch.quantityRemaining.milli) := by
  have h : |(1000 * remainingCents batch : ℚ) -
      (batch.unitCost.cents * batch.quantityRemaining.milli : ℕ)| ≤ 500 := abs_remainingCents_sub_le
  have hle := (abs_le.mp h).2
  have hnat : 1000 * remainingCents batch ≤
      batch.unitCost.cents * batch.quantityRemaining.milli + 500 := by
    have : (1000 * remainingCents batch : ℚ) ≤
        ((batch.unitCost.cents * batch.quantityRemaining.milli + 500 : ℕ) : ℚ) := by
      push_cast at hle ⊢
      linarith
    exact_mod_cast this
  by_cases hzero : remainingCents batch = 0
  · omega
  · omega

theorem totalCents_le (batches : List InventoryBatch) :
    1000 * totalCents batches ≤ 2 * exactCost batches := by
  induction batches with
  | nil => exact le_rfl
  | cons batch batches ih =>
    have hbatch : 1000 * remainingCents batch ≤
        2 * (batch.unitCost.cents * batch.quantityRemaining.milli) := remainingCents_le
    rw [totalCents_cons, exactCost_cons]
    omega

/-- The costs in cents are off by half a cent for each batch. -/
theorem abs_totalCents_sub_le (batches : List InventoryBatch) :
    |(1000 * totalCents batches : ℚ) - exactCost batches| ≤ 500 * batches.length := by
  induction batches with
  | nil => simp [totalCents, exactCost]
  | cons batch batches ih =>
    have hbatch : |(1000 * remainingCents batch : ℚ) -
        (batch.unitCost.cents * batch.quantityRemaining.milli : ℕ)| ≤ 500 :=
      abs_remainingCents_sub_le
    rw [totalCents_cons, exactCost_cons, List.length_cons]
    rw [abs_le] at ih hbatch ⊢
    push_cast at ih hbatch ⊢
    constructor <;> linarith [ih.1, ih.2, hbatch.1, hbatch.2]

/-- The loop of the average adds up the costs in cents. -/
theorem addRemainingCost_eq {total : Money}
    (hcurrency : ∀ batch ∈ batches, batch.unitCost.currency = total.currency)
    (hexact : exactCost batches < 10 ^ decimalPrecision)
    (hfit : total.cents + totalCents batches < 10 ^ decimalPrecision) :
    InventoryItem.addRemainingCost decimal total batches =
      .ok ⟨total.cents + totalCents batches, total.currency, total.iso⟩ := by
  induction batches generalizing total with
  | nil => rfl
  | cons batch batches ih =>
    rw [totalCents_cons] at hfit
    rw [exactCost_cons] at hexact
    have hcost : batch.remainingCost decimal =
        .ok ⟨remainingCents batch, batch.unitCost.currency, batch.unitCost.iso⟩ :=
      remainingCost_eq (by omega)
    have hbatch := hcurrency batch List.mem_cons_self
    show (batch.remainingCost decimal).bind _ = _
    have hadd : total.add ⟨remainingCents batch, batch.unitCost.currency, batch.unitCost.iso⟩ =
        .ok ⟨total.cents + remainingCents batch, total.currency, total.iso⟩ :=
      Money.add_ok hbatch.symm (show total.cents + remainingCents batch < _ by omega)
    have htail : InventoryItem.addRemainingCost decimal
        ⟨total.cents + remainingCents batch, total.currency, total.iso⟩ batches =
          .ok ⟨total.cents + remainingCents batch + totalCents batches, total.currency,
            total.iso⟩ :=
      ih (fun b hb => hcurrency b (List.mem_cons_of_mem _ hb)) (by omega)
        (show total.cents + remainingCents batch + totalCents batches < _ by omega)
    rw [hcost]
    show (total.add _).bind _ = _
    rw [hadd]
    show InventoryItem.addRemainingCost decimal _ batches = _
    simp only [htail, totalCents_cons, Nat.add_assoc]

/-! ## The average -/

/-- Twenty digits change a value by less than half the distance between two
    quotients by `milli`. -/
theorem abs_toSignificantDigits_mul_sub_lt {y : ℚ≥0} {cents milli : ℕ} (hcents : cents < 10 ^ 16)
    (hmilli : 0 < milli) (hexact : (y : ℚ) * 10 ^ 2 = ((1000 * cents : ℕ) : ℚ) / milli) :
    |(toSignificantDigits decimalPrecision y : ℚ) * 10 ^ 2 - (y : ℚ) * 10 ^ 2| <
      1 / (2 * (milli : ℚ)) := by
  have hmilli' : (0 : ℚ) < milli := by exact_mod_cast hmilli
  have hcents' : (cents : ℚ) < 10 ^ 16 := by exact_mod_cast hcents
  have hdigits := abs_toSignificantDigits_sub_le decimalPrecision y
  calc |(toSignificantDigits decimalPrecision y : ℚ) * 10 ^ 2 - (y : ℚ) * 10 ^ 2|
      = |(toSignificantDigits decimalPrecision y : ℚ) - y| * 10 ^ 2 := by
        rw [← sub_mul, abs_mul, abs_of_pos (by norm_num : (0 : ℚ) < 10 ^ 2)]
    _ ≤ (y : ℚ) * (10 * (1 / 10 ^ decimalPrecision)) / 2 * 10 ^ 2 := by gcongr
    _ = (y : ℚ) * 10 ^ 2 * (5 / 10 ^ 20) := by
        rw [decimalPrecision]
        ring
    _ = 1000 * cents / milli * (5 / 10 ^ 20) := by
        rw [hexact]
        push_cast
        ring
    _ < 1 / (2 * (milli : ℚ)) := by
        rw [div_mul_eq_mul_div, div_lt_div_iff₀ hmilli' (by positivity)]
        nlinarith

/-- A value halfway between two cents has its last digit in the third place, and
    twenty digits keep it. -/
theorem toSignificantDigits_of_half {y : ℚ≥0} {n : ℕ} (hlt : (y : ℚ) * 10 ^ 2 < 10 ^ 19)
    (hn : (y : ℚ) * 10 ^ 2 = n - 1 / 2) : toSignificantDigits decimalPrecision y = y := by
  obtain ⟨m, rfl⟩ : ∃ m, n = m + 1 := by
    refine Nat.exists_eq_succ_of_ne_zero ?_
    rintro rfl
    have hnonneg : (0 : ℚ) ≤ (y : ℚ) * 10 ^ 2 := by positivity
    push_cast at hn
    linarith
  push_cast at hn
  have hplaces : y = ((5 * (2 * m + 1) : ℕ) : ℚ≥0) / 10 ^ 3 := by
    rw [← NNRat.coe_inj]
    push_cast
    linarith
  have hsmall : 5 * (2 * m + 1) < 10 ^ decimalPrecision := by
    have hm : (m : ℚ) < 10 ^ 19 := by linarith
    have : m < 10 ^ 19 := by exact_mod_cast hm
    rw [decimalPrecision]
    omega
  rw [hplaces, toSignificantDigits_of_lt hsmall]

/-- A quotient of cents by thousandths, at the package's twenty digits and then
    in cents, is the exact one rounded once. -/
theorem toScale_divide {cents milli : ℕ} (hcents : cents < 10 ^ 16) (hmilli : 0 < milli) :
    toScale 2 (toSignificantDigits decimalPrecision
      (((cents : ℚ≥0) / 10 ^ 2) / ((milli : ℚ≥0) / 10 ^ 3))) =
      nearest ((1000 * cents : ℕ) / milli) := by
  set y : ℚ≥0 := ((cents : ℚ≥0) / 10 ^ 2) / ((milli : ℚ≥0) / 10 ^ 3) with hy
  have hexact : (y : ℚ) * 10 ^ 2 = ((1000 * cents : ℕ) : ℚ) / (milli : ℕ) := by
    rw [hy]
    push_cast
    field_simp
    ring
  have hlt : (y : ℚ) * 10 ^ 2 < 10 ^ 19 := by
    have hone : (1 : ℚ) ≤ milli := by exact_mod_cast hmilli
    have hcents' : (cents : ℚ) < 10 ^ 16 := by exact_mod_cast hcents
    rw [hexact, div_lt_iff₀ (by linarith)]
    push_cast
    nlinarith
  have hhalf : ∀ n : ℕ, (y : ℚ) * 10 ^ 2 = n - 1 / 2 →
      (toSignificantDigits decimalPrecision y : ℚ) * 10 ^ 2 = (y : ℚ) * 10 ^ 2 := by
    intro n hn
    rw [toSignificantDigits_of_half hlt hn]
  have hsame := nearestInt_eq_of_close hmilli hexact
    (abs_toSignificantDigits_mul_sub_lt hcents hmilli hexact) hhalf
  have hleft : nearestInt ((toSignificantDigits decimalPrecision y : ℚ) * 10 ^ 2) =
      toScale 2 (toSignificantDigits decimalPrecision y) := by
    rw [toScale, ← nearestInt_coe]
    push_cast
    rfl
  have hright : nearestInt ((y : ℚ) * 10 ^ 2) = nearest ((1000 * cents : ℕ) / milli) := by
    rw [hexact, ← nearestInt_coe]
    push_cast
    rfl
  rw [hleft, hright] at hsame
  exact_mod_cast hsame

/-- The average of the active batches: their costs in cents over their stock,
    rounded once. -/
theorem weightedAverageCost_eq (hzero : decimal.parse (js "0") = some (.finite false 0))
    {active : List InventoryBatch} (hactive : item.batches.filter (·.isActive date) = active)
    (hne : active ≠ [])
    (hcurrency : ∀ batch ∈ active, batch.unitCost.currency = defaultCurrency)
    (hcost : exactCost active < 10 ^ 18) (hstock : totalMilli active < 10 ^ 20) :
    item.weightedAverageCost decimal date =
      .ok (some ⟨nearest ((1000 * totalCents active : ℕ) / totalMilli active), defaultCurrency,
        by decide⟩) := by
  have hpos : 0 < (InventoryItem.stockOf active).milli := stockOf_pos hne fun batch hbatch => by
    rw [← hactive] at hbatch
    exact InventoryBatch.remaining_pos_of_isActive (List.mem_filter.mp hbatch).2
  have hmilli : (InventoryItem.stockOf active).milli = totalMilli active := stockOf_milli hstock
  have hcents := totalCents_le active
  have hloop : InventoryItem.addRemainingCost decimal ⟨0, defaultCurrency, by decide⟩ active =
      .ok ⟨totalCents active, defaultCurrency, by decide⟩ := by
    rw [addRemainingCost_eq hcurrency (by rw [decimalPrecision]; omega)
      (by rw [decimalPrecision]; simp only; omega)]
    simp only [Nat.zero_add]
  have hzero' : (InventoryItem.stockOf active).isZero = false := by
    rw [Bool.eq_false_iff, Ne, Quantity.isZero_iff]
    omega
  unfold InventoryItem.weightedAverageCost
  have hnothing : Money.zero decimal defaultCurrency = .ok ⟨0, defaultCurrency, by decide⟩ :=
    Money.zero_ok hzero (by decide)
  simp only [hactive, hne, if_false, hnothing]
  show (InventoryItem.addRemainingCost decimal _ active).bind _ = _
  rw [hloop]
  show (if (InventoryItem.stockOf active).isZero = true then _ else Except.map _ _) = _
  rw [hzero', if_neg Bool.false_ne_true, Money.divide_getValue, if_neg hpos.ne', Quantity.value,
    hmilli]
  show Except.ok (some (Money.ofDecimal _ _ _)) = _
  simp only [Money.ofDecimal, Money.amount]
  rw [toScale_divide (by omega) (by omega)]

/-- The exact average lies between the lowest and the highest unit cost. -/
theorem exactCost_bounds {low high : ℕ}
    (h : ∀ batch ∈ batches, low ≤ batch.unitCost.cents ∧ batch.unitCost.cents ≤ high) :
    low * totalMilli batches ≤ exactCost batches ∧
      exactCost batches ≤ high * totalMilli batches := by
  induction batches with
  | nil => exact ⟨le_rfl, le_rfl⟩
  | cons batch batches ih =>
    obtain ⟨hlow, hhigh⟩ := h batch List.mem_cons_self
    obtain ⟨ihlow, ihhigh⟩ := ih fun b hb => h b (List.mem_cons_of_mem _ hb)
    have hbelow := Nat.mul_le_mul_right batch.quantityRemaining.milli hlow
    have habove := Nat.mul_le_mul_right batch.quantityRemaining.milli hhigh
    rw [totalMilli_cons, exactCost_cons, Nat.mul_add, Nat.mul_add]
    omega

/-- How far the average of these batches may be from the exact one, in cents:
    half a cent for its own rounding, and half a cent for each batch, shared
    among the units in stock. -/
def averageError (active : List InventoryBatch) : ℚ :=
  1 / 2 + 500 * active.length / totalMilli active

/-- The average in cents is half a cent off from its own rounding, and half a
    cent for each batch, shared among the stock, from theirs. -/
theorem abs_average_sub_le (hpos : 0 < totalMilli batches) :
    |(nearest ((1000 * totalCents batches : ℕ) / totalMilli batches) : ℚ) -
      exactCost batches / totalMilli batches| ≤
        averageError batches := by
  have hpos' : (0 : ℚ) < totalMilli batches := by exact_mod_cast hpos
  have hround := abs_nearest_sub_le ((1000 * totalCents batches : ℕ) / totalMilli batches)
  have hcosts : |(1000 * totalCents batches : ℚ) / totalMilli batches -
      exactCost batches / totalMilli batches| ≤ 500 * batches.length / totalMilli batches := by
    rw [← sub_div, abs_div, abs_of_pos hpos']
    gcongr
    exact abs_totalCents_sub_le batches
  rw [averageError]
  generalize nearest ((1000 * totalCents batches : ℕ) / totalMilli batches) = average at hround ⊢
  push_cast at hround
  rw [abs_le] at hround hcosts ⊢
  constructor <;> linarith [hround.1, hround.2, hcosts.1, hcosts.2]

/-- `cost` is the sum of the costs in cents over the stock, rounded once. -/
structure IsAverage (active : List InventoryBatch) (cost : Money) : Prop where
  currency : cost.currency = defaultCurrency
  cents : cost.cents = nearest ((1000 * totalCents active : ℕ) / totalMilli active)
  close : |(cost.cents : ℚ) - exactCost active / totalMilli active| ≤ averageError active
  between (low high : ℕ) : (∀ batch ∈ active,
      low ≤ batch.unitCost.cents ∧ batch.unitCost.cents ≤ high) →
    low - averageError active ≤ cost.cents ∧ (cost.cents : ℚ) ≤ high + averageError active

/-- `null` without active batches, and otherwise the average of their costs in cents. -/
theorem weightedAverageCost_spec (hzero : decimal.parse (js "0") = some (.finite false 0))
    {active : List InventoryBatch} (hactive : item.batches.filter (·.isActive date) = active)
    (hcurrency : ∀ batch ∈ active, batch.unitCost.currency = defaultCurrency) :
    (item.weightedAverageCost decimal date = .ok none ↔ active = []) ∧
      (active ≠ [] → exactCost active < 10 ^ 18 → totalMilli active < 10 ^ 20 →
        ∃ cost, item.weightedAverageCost decimal date = .ok (some cost) ∧
          IsAverage active cost) := by
  refine ⟨by rw [weightedAverageCost_eq_none_iff, hactive], fun hne hcost hstock => ?_⟩
  have hpos : 0 < totalMilli active := by
    rw [Nat.pos_iff_ne_zero, Ne, totalMilli_eq_zero_iff]
    intro hempty
    obtain ⟨batch, hbatch⟩ := List.exists_mem_of_ne_nil _ hne
    have hnone := hempty batch hbatch
    rw [← hactive] at hbatch
    have := InventoryBatch.remaining_pos_of_isActive (List.mem_filter.mp hbatch).2
    omega
  have hclose := abs_average_sub_le hpos
  refine ⟨_, weightedAverageCost_eq hzero hactive hne hcurrency hcost hstock, rfl, rfl, hclose, ?_⟩
  intro low high hbetween
  obtain ⟨hlow, hhigh⟩ := exactCost_bounds hbetween
  have hpos' : (0 : ℚ) < totalMilli active := by exact_mod_cast hpos
  have hlow' : (low : ℚ) ≤ exactCost active / totalMilli active := by
    rw [le_div_iff₀ hpos']
    exact_mod_cast hlow
  have hhigh' : (exactCost active : ℚ) / totalMilli active ≤ high := by
    rw [div_le_iff₀ hpos']
    exact_mod_cast hhigh
  rw [abs_le] at hclose
  exact ⟨by linarith [hclose.1], by linarith [hclose.2]⟩

/-- Half a unit at one cent. -/
def halfUnit : InventoryBatch :=
  { thousandForNothing with
    quantityRemaining := ⟨500⟩
    unitCost := ⟨1, js "COP", isIsoCode_cop⟩ }

/-- A unit and a half at four pesos. -/
def secondLot : InventoryBatch :=
  { thousandForNothing with
    id := sampleBatchId 2
    quantityRemaining := ⟨1500⟩
    unitCost := ⟨400, js "COP", isIsoCode_cop⟩ }

/-- The sample item with both. -/
def twoLotsItem : InventoryItem := { sampleItem with batches := [halfUnit, secondLot] }

/-- They average 3.01, where the exact average is 3.0025. -/
theorem weightedAverageCost_spec_two : ∃ cost,
    twoLotsItem.weightedAverageCost plainDecimal (some 1000) = .ok (some cost) ∧
      cost.cents = 301 ∧ IsAverage [halfUnit, secondLot] cost := by
  have hactive : twoLotsItem.batches.filter (·.isActive (some 1000)) = [halfUnit, secondLot] := by
    decide +kernel
  have hzero : plainDecimal.parse (js "0") = some (.finite false 0) := by decide +kernel
  obtain ⟨cost, hcost, haverage⟩ :=
    (weightedAverageCost_spec hzero hactive (by decide)).2
      (by decide) (by decide) (by decide)
  exact ⟨cost, hcost, haverage.cents.trans (by decide +kernel), haverage⟩

/-- The sample item with half a unit at one cent. -/
def halfUnitItem : InventoryItem := { sampleItem with batches := [halfUnit] }

/-- One unit whose cost in cents has twenty-one digits. -/
def dearUnit : InventoryBatch :=
  { thousandForNothing with
    quantityRemaining := ⟨1000⟩
    unitCost := ⟨10 ^ 20 + 1, js "COP", isIsoCode_cop⟩ }

/-- The sample item with that unit. -/
def dearUnitItem : InventoryItem := { sampleItem with batches := [dearUnit] }

/-- Half a unit at one cent costs one cent once rounded, so it averages two
    cents; and a cost of twenty-one digits loses the last. -/
theorem weightedAverageCost_half :
    (halfUnitItem.batches.filter (·.isActive (some 1000)) = [halfUnit] ∧
      halfUnitItem.weightedAverageCost plainDecimal (some 1000) =
        .ok (some ⟨2, js "COP", by decide⟩) ∧
      nearest ((exactCost [halfUnit] : ℚ≥0) / totalMilli [halfUnit]) = 1 ∧
      halfUnit.unitCost.cents = 1) ∧
    dearUnitItem.batches.filter (·.isActive (some 1000)) = [dearUnit] ∧
      dearUnitItem.weightedAverageCost plainDecimal (some 1000) =
        .ok (some ⟨10 ^ 20, js "COP", by decide⟩) ∧
      nearest ((exactCost [dearUnit] : ℚ≥0) / totalMilli [dearUnit]) = 10 ^ 20 + 1 ∧
      dearUnit.unitCost.cents = 10 ^ 20 + 1 := by
  refine ⟨⟨by decide +kernel, by decide +kernel, by decide +kernel, by decide⟩,
    by decide +kernel, by decide +kernel, by decide +kernel, by decide⟩

end KomiSaas.Inventory
