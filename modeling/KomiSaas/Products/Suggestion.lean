import KomiSaas.Products.Product

/-!
# The suggested price

`POST /products/profitability`
(`products/application/use-cases/calculate-profitability/`) answers, for a cost
and a target margin, the price that leaves the margin, rounded to cents. The
comment on `ensurePricingIsConsistent` promises that a product with that price,
cost and margin is accepted.

The margin of the rounded price is compared with the target at two decimals, so
half a cent more or less is too much where the price is small, and so are the
decimals of a target with more than two. At the twenty digits of the package
(`suggestion_accepted_iff`):

* `PriceFits` is the exact condition for every margin of two decimals;
* `FitsWithin` decides every other margin but those for which the exact price or its
  margin is within a part in `10 ^ 14` of a rounding boundary.
-/

namespace KomiSaas.Products

open KomiSaas.Lib KomiSaas.Lib.Decimal KomiSaas.Shared
open ProfitabilityCalculator (marginOf priceForMargin priceForMargin_finite)

/-- `CalculateProfitabilityParams`. -/
structure CalculateProfitabilityParams where
  tenantId : Uuid
  cost : JsString
  price : Option JsString
  targetMargin : Option JsString
  deriving DecidableEq

/-- A price that was sent, with two decimals. -/
def amountIfSent (decimal : DecimalJs) : Option JsString → Except ProductException (Option JsString)
  | none => .ok none
  | some text => (ofMoney (Money.of decimal text Product.cop)).map fun money =>
    some (money.getAmount decimal)

/-- `CalculateProfitabilityUseCase.execute` (lines 45–53). -/
def CalculateProfitability.execute (rounded : ℚ → ℚ) (decimal : DecimalJs)
    (tenantExists : Uuid → Bool) (params : CalculateProfitabilityParams) :
    Except ProductException ProfitabilityResult :=
  if !tenantExists params.tenantId then .error (.tenantNotFound params.tenantId)
  else do
    let cost ← ofMoney (Money.of decimal params.cost Product.cop)
    let price ← amountIfSent decimal params.price
    ProfitabilityCalculator.calculate rounded decimal
      { cost := cost.getAmount decimal
        price := price
        targetMargin := params.targetMargin }

/-- `create` and `update` accept a product with this price, cost and margin,
    whatever the rest is. -/
def Accepts (rounded : ℚ → ℚ) (decimal : DecimalJs) (price cost : Money) (margin : ProfitMargin) :
    Prop :=
  (∀ (id : Uuid) (params : ProductParams) (now : Instant), params.productBasePrice = price →
    params.productCost = cost → params.profitMargin = margin →
    ∃ product, Product.create rounded decimal id params now = .ok product) ∧
  ∀ (product : Product) (changes : ProductChanges) (now : Instant), product.status ≠ .deleted →
    changes.productBasePrice = price → changes.productCost = cost →
    changes.profitMargin = margin →
    ∃ product', product.update rounded decimal changes now = .ok product'

/-- The answer for the cost and the target margin has a price, and it is accepted
    with them. -/
def SuggestionAccepted (rounded : ℚ → ℚ) (decimal : DecimalJs) (costText marginText : JsString)
    (cost : Money) (margin : ProfitMargin) : Prop :=
  ∃ result priceText price,
    (∀ tenantExists tenantId, tenantExists tenantId = true →
      CalculateProfitability.execute rounded decimal tenantExists
        ⟨tenantId, costText, none, some marginText⟩ = .ok result) ∧
    result.price = some priceText ∧ Money.of decimal priceText Product.cop = .ok price ∧
    Accepts rounded decimal price cost margin

/-- The condition on the cost, in cents, and the target margin. Ten thousand
    times the cost is divided by what is left of 10000 after the margin: the
    quotient is the ideal price in cents, rounded down, and what remains, or is
    missing to the next cent, has to be small against it. -/
def PriceFits (cents : ℕ) (margin : ℚ≥0) : Prop :=
  let rest : ℚ := 10000 - 100 * margin
  let quotient := ⌊10000 * cents / rest⌋₊
  let remainder : ℚ := 10000 * cents - quotient * rest
  let excess : ℚ := 100 * margin - toScale 2 margin
  toScale 2 margin < 10000 ∧
    if 2 * remainder < rest then 0 < quotient ∧ 2 * remainder ≤ (1 + 2 * excess) * quotient
    else 2 * (rest - remainder) < (1 - 2 * excess) * (quotient + 1)

/-- A price is within half a cent of the ideal one, and its margin within half a
    hundredth of the target, both with `slack` to spare in proportion to the price. -/
def FitsWithin (slack : ℚ) (cents : ℕ) (margin : ℚ≥0) : Prop :=
  let rest : ℚ := 10000 - 100 * margin
  let left : ℚ := 10000 - toScale 2 margin
  toScale 2 margin < 10000 ∧ ∃ price : ℕ, 0 < price ∧
    |2 * (price * rest - 10000 * cents)| ≤ rest - slack * price ∧
    |2 * (price * left - 10000 * cents)| ≤ (1 - slack) * price

instance (cents : ℕ) (margin : ℚ≥0) : Decidable (PriceFits cents margin) := by
  unfold PriceFits
  infer_instance

variable {rounded : ℚ → ℚ} {decimal : DecimalJs} {price cost : Money} {margin : ProfitMargin}
  {costText marginText : JsString} {magnitude : ℚ≥0}

/-! ## What the answer is -/

theorem pricing_iff {product : Product} (hprice : product.productBasePrice = price)
    (hcost : product.productCost = cost) (hmargin : product.profitMargin = margin) :
    product.ensurePricingIsConsistent rounded decimal = .ok () ↔
      price.cents ≠ 0 ∧ margin.hundredths < 10000 ∧
        ProfitabilityCalculator.round
          (marginOf rounded (cost.cents / 10 ^ 2) (price.cents / 10 ^ 2)) = margin.hundredths := by
  subst hprice hcost hmargin
  exact Product.ensurePricingIsConsistent_ok_iff

theorem accepts_iff : Accepts rounded decimal price cost margin ↔
    price.cents ≠ 0 ∧ margin.hundredths < 10000 ∧
      ProfitabilityCalculator.round
        (marginOf rounded (cost.cents / 10 ^ 2) (price.cents / 10 ^ 2)) = margin.hundredths := by
  constructor
  · rintro ⟨hcreate, -⟩
    obtain ⟨product, h⟩ := hcreate Product.sampleProductId
      { Product.sampleParams 0 0 margin with productBasePrice := price, productCost := cost } 0
      rfl rfl rfl
    obtain ⟨hpricing, -, -, -, hprice, hcost, hmargin, -⟩ := Product.create_ok h
    exact (pricing_iff hprice hcost hmargin).mp hpricing
  · intro h
    constructor
    · intro id params now hprice hcost hmargin
      refine ⟨_, bind_eq_ok.mpr ⟨(), ?_, rfl⟩⟩
      exact (pricing_iff hprice hcost hmargin).mpr h
    · intro product changes now hdeleted hprice hcost hmargin
      refine ⟨_, bind_eq_ok.mpr ⟨(), if_neg hdeleted, bind_eq_ok.mpr ⟨(), ?_, rfl⟩⟩⟩
      exact (pricing_iff hprice hcost hmargin).mpr h

/-- With a cost and a margin, the answer is made from `priceForMargin`. -/
theorem execute_margin (hcost : Money.of decimal costText Product.cop = .ok cost)
    (hparse : decimal.parse marginText = some (.finite false magnitude)) (hlt : magnitude < 100)
    {tenantExists : Uuid → Bool} {tenantId : Uuid} (htenant : tenantExists tenantId = true) :
    CalculateProfitability.execute rounded decimal tenantExists
        ⟨tenantId, costText, none, some marginText⟩ =
      .ok (ProfitabilityCalculator.fromPrice rounded decimal (.finite (cost.cents / 10 ^ 2))
        (priceForMargin rounded (.finite (cost.cents / 10 ^ 2)) (.finite magnitude))) := by
  have hnumber : ProfitabilityCalculator.numberOf decimal (cost.getAmount decimal) =
      .ok (.finite (cost.cents / 10 ^ 2)) := ProfitabilityCalculator.numberOf_toFixed2 cost.cents
  have htarget : ProfitabilityCalculator.targetMarginOf decimal (some marginText) =
      .ok (some (.finite magnitude)) := by
    rw [ProfitabilityCalculator.targetMarginOf, ProfitabilityCalculator.assertValidMargin_ok hparse,
      if_neg (not_le.mpr hlt)]
    rfl
  have hcalculate : ProfitabilityCalculator.calculate rounded decimal
      ⟨cost.getAmount decimal, none, some marginText⟩ =
        .ok (ProfitabilityCalculator.fromPrice rounded decimal (.finite (cost.cents / 10 ^ 2))
          (priceForMargin rounded (.finite (cost.cents / 10 ^ 2)) (.finite magnitude))) := by
    show (ProfitabilityCalculator.numberOf decimal _).bind _ = _
    rw [hnumber]
    show (ProfitabilityCalculator.targetMarginOf decimal _).bind _ = _
    rw [htarget]
    rfl
  have hmoney : ofMoney (Money.of decimal costText Product.cop) = .ok cost := by
    rw [hcost]
    rfl
  rw [CalculateProfitability.execute, htenant]
  show (ofMoney (Money.of decimal costText Product.cop)).bind _ = _
  rw [hmoney]
  exact hcalculate

theorem of_fixed2 {hundredths : ℤ} (h : 0 ≤ hundredths) :
    ∃ price : Money, Money.of decimal (fixed2 decimal hundredths) Product.cop = .ok price ∧
      price.cents = hundredths.natAbs := by
  refine ⟨⟨hundredths.natAbs, Product.cop, by decide⟩, ?_, rfl⟩
  rw [fixed2, if_neg (not_lt.mpr h)]
  exact Money.of_getAmount (m := ⟨hundredths.natAbs, Product.cop, by decide⟩)

/-- Where there is a price, it is accepted when, in cents, it leaves the margin. -/
theorem suggestionAccepted_iff (hcost : Money.of decimal costText Product.cop = .ok cost)
    (hparse : decimal.parse marginText = some (.finite false magnitude)) (hlt : magnitude < 100)
    {precio : ℚ} (hprecio : priceForMargin rounded (.finite (cost.cents / 10 ^ 2))
      (.finite magnitude) = .finite precio)
    {cents : ℕ} (hcents : ProfitabilityCalculator.round precio = cents) :
    SuggestionAccepted rounded decimal costText marginText cost margin ↔
      cents ≠ 0 ∧ margin.hundredths < 10000 ∧
        ProfitabilityCalculator.round (marginOf rounded (cost.cents / 10 ^ 2) (cents / 10 ^ 2)) =
          margin.hundredths := by
  obtain ⟨price, hprice, hvalue⟩ := @of_fixed2 decimal cents (by positivity)
  rw [Int.natAbs_natCast] at hvalue
  have hexecute : ∀ tenantExists tenantId, tenantExists tenantId = true →
      CalculateProfitability.execute rounded decimal tenantExists
        ⟨tenantId, costText, none, some marginText⟩ =
      .ok (ProfitabilityCalculator.fromPrice rounded decimal (.finite (cost.cents / 10 ^ 2))
        (.finite precio)) := by
    intro tenantExists tenantId htenant
    rw [execute_margin hcost hparse hlt htenant, hprecio]
  have htext : (ProfitabilityCalculator.fromPrice rounded decimal (.finite (cost.cents / 10 ^ 2))
      (.finite precio)).price = some (fixed2 decimal cents) := by
    rw [← hcents]
    rfl
  rw [← hvalue, ← accepts_iff]
  constructor
  · rintro ⟨result, priceText, price', hresult, hpriceText, hprice', haccepts⟩
    obtain rfl := Except.ok.inj
      ((hresult (fun _ => true) [] rfl).symm.trans (hexecute (fun _ => true) [] rfl))
    obtain rfl := Option.some.inj (hpriceText.symm.trans htext)
    rwa [Except.ok.inj (hprice'.symm.trans hprice)] at haccepts
  · intro haccepts
    exact ⟨_, _, price, hexecute, htext, hprice, haccepts⟩

/-! ## The exact condition -/

/-- Selling for `price` cents what costs `cost` leaves a margin that rounds to
    `margin` hundredths. -/
def Leaves (cost price margin : ℕ) : Prop :=
  -(price : ℚ) ≤ 2 * (price * (10000 - margin) - 10000 * cost) ∧
    2 * (price * (10000 - margin) - 10000 * cost) < (price : ℚ)

theorem nearestInt_eq_natCast_iff {x : ℚ} (h : 0 ≤ x) {n : ℕ} :
    nearestInt x = n ↔ (n : ℚ) - 1 / 2 ≤ x ∧ x < n + 1 / 2 := by
  rw [← Rat.coe_toNNRat x h, nearestInt_coe, ← nearest_eq_iff]
  exact_mod_cast Iff.rfl

theorem exists_nearestInt {x : ℚ} (h : 0 ≤ x) :
    ∃ p : ℕ, nearestInt x = p ∧ |(p : ℚ) - x| ≤ 1 / 2 := by
  have hp : nearestInt x = nearest x.toNNRat := by
    rw [← nearestInt_coe, Rat.coe_toNNRat x h]
  obtain ⟨hlow, hhigh⟩ := (nearestInt_eq_natCast_iff h).mp hp
  refine ⟨_, hp, abs_le.mpr ?_⟩
  constructor <;> linarith

theorem leaves_iff {c p n : ℕ} (hp : p ≠ 0) (hle : c ≤ p) :
    nearestInt (10000 * ((p - c) / p)) = n ↔ Leaves c p n := by
  have hpos : (0 : ℚ) < p := by exact_mod_cast Nat.pos_of_ne_zero hp
  have hsub : (0 : ℚ) ≤ p - c := sub_nonneg.mpr (by exact_mod_cast hle)
  have hx : (10000 : ℚ) * ((p - c) / p) = 10000 * (p - c) / p := by ring
  rw [nearestInt_eq_natCast_iff (by positivity), hx, le_div_iff₀ hpos, div_lt_iff₀ hpos]
  unfold Leaves
  constructor <;> rintro ⟨h₁, h₂⟩ <;> constructor <;> linarith

/-- The quotient and the remainder give the nearest cent. -/
theorem nearestInt_quotient {x rest : ℚ} (hrest : 0 < rest) (hx : 0 ≤ x) :
    nearestInt (x / rest) =
      if 2 * (x - ⌊x / rest⌋₊ * rest) < rest then (⌊x / rest⌋₊ : ℤ) else ⌊x / rest⌋₊ + 1 := by
  have hdiv : 0 ≤ x / rest := by positivity
  have hlow : (⌊x / rest⌋₊ : ℚ) ≤ x / rest := Nat.floor_le hdiv
  have hhigh : x / rest < ⌊x / rest⌋₊ + 1 := Nat.lt_floor_add_one _
  generalize ⌊x / rest⌋₊ = q at hlow hhigh
  split_ifs with hhalf
  · rw [nearestInt_eq_natCast_iff hdiv]
    refine ⟨by linarith, ?_⟩
    rw [div_lt_iff₀ hrest]
    linarith
  · rw [← Nat.cast_succ, nearestInt_eq_natCast_iff hdiv]
    push_cast
    refine ⟨?_, by linarith⟩
    rw [le_div_iff₀ hrest]
    linarith

theorem abs_excess_le (margin : ℚ≥0) :
    -(1 / 2) ≤ 100 * (margin : ℚ) - toScale 2 margin ∧
      100 * (margin : ℚ) - toScale 2 margin < 1 / 2 := by
  obtain ⟨hlow, hhigh⟩ := nearest_eq_iff.mp (Eq.refl (toScale 2 margin))
  push_cast at hlow hhigh
  constructor <;> linarith

/-- `PriceFits` says that the nearest cent leaves the margin. -/
theorem priceFits_iff {c p : ℕ} (hlt : magnitude < 100)
    (hp : nearestInt (10000 * c / (10000 - 100 * (magnitude : ℚ))) = p) :
    PriceFits c magnitude ↔
      p ≠ 0 ∧ toScale 2 magnitude < 10000 ∧ Leaves c p (toScale 2 magnitude) := by
  have hrest : (0 : ℚ) < 10000 - 100 * magnitude := by
    have : (magnitude : ℚ) < 100 := by exact_mod_cast hlt
    linarith
  obtain ⟨hexcess, hexcess'⟩ := abs_excess_le magnitude
  have hfloor : (⌊10000 * (c : ℚ) / (10000 - 100 * magnitude)⌋₊ : ℚ) ≤
      10000 * c / (10000 - 100 * magnitude) := Nat.floor_le (by positivity)
  have hfloor' : 10000 * (c : ℚ) / (10000 - 100 * magnitude) <
      ⌊10000 * (c : ℚ) / (10000 - 100 * magnitude)⌋₊ + 1 := Nat.lt_floor_add_one _
  rw [nearestInt_quotient hrest (by positivity)] at hp
  rw [le_div_iff₀ hrest] at hfloor
  rw [div_lt_iff₀ hrest] at hfloor'
  unfold PriceFits Leaves
  simp only
  generalize ⌊10000 * (c : ℚ) / (10000 - 100 * magnitude)⌋₊ = q at hp hfloor hfloor' ⊢
  generalize toScale 2 magnitude = n at hexcess hexcess' ⊢
  split_ifs at hp ⊢ with hhalf
  · -- rounded down: the price is the quotient
    obtain rfl : q = p := by exact_mod_cast hp
    have hbelow : 0 < q → 2 * ((q : ℚ) * (10000 - n) - 10000 * c) < q := by
      intro hq
      have hq' : (0 : ℚ) < q := by exact_mod_cast hq
      nlinarith
    constructor
    · rintro ⟨hn, hq, hsmall⟩
      exact ⟨hq.ne', hn, by linarith, hbelow hq⟩
    · rintro ⟨hq, hn, hlow, -⟩
      exact ⟨hn, Nat.pos_of_ne_zero hq, by linarith⟩
  · -- rounded up: the price is one cent more
    obtain rfl : q + 1 = p := by exact_mod_cast hp
    have habove : -((q + 1 : ℕ) : ℚ) ≤ 2 * (((q + 1 : ℕ) : ℚ) * (10000 - n) - 10000 * c) := by
      push_cast
      nlinarith
    constructor
    · rintro ⟨hn, hsmall⟩
      refine ⟨Nat.succ_ne_zero q, hn, habove, ?_⟩
      push_cast
      linarith
    · rintro ⟨-, hn, -, hhigh⟩
      push_cast at hhigh
      exact ⟨hn, by linarith⟩

/-- A price that is at least the cost is so in cents. -/
theorem le_of_nearestInt {x : ℚ} {c p : ℕ} (hle : (c : ℚ) ≤ x) (hp : nearestInt x = p) : c ≤ p := by
  have hx : 0 ≤ x := le_trans (by positivity) hle
  obtain ⟨-, hhigh⟩ := (nearestInt_eq_natCast_iff hx).mp hp
  have hlt : (c : ℚ) < p + 1 := by linarith
  exact Nat.lt_succ_iff.mp (by exact_mod_cast hlt)

theorem cost_le_ideal (c : ℕ) (hlt : magnitude < 100) :
    (c : ℚ) ≤ 10000 * c / (10000 - 100 * (magnitude : ℚ)) := by
  have hlt' : (magnitude : ℚ) < 100 := by exact_mod_cast hlt
  have hnonneg : (0 : ℚ) ≤ magnitude := NNRat.cast_nonneg _
  have hcost : (0 : ℚ) ≤ c := by positivity
  rw [le_div_iff₀ (by linarith)]
  nlinarith

/-! ## The precision of the package -/

/-- `100` times the margin at twenty digits is close to the exact one. -/
theorem abs_marginOf_sub_le {c p : ℕ} (hp : p ≠ 0) (hle : c ≤ 2 * p) :
    |marginOf toPrecision (c / 10 ^ 2) (p / 10 ^ 2) * 10 ^ 2 - 10000 * ((p - c) / p)| ≤
      1 / (5 * 10 ^ 14) := by
  have hpos : (0 : ℚ) < p := by exact_mod_cast Nat.pos_of_ne_zero hp
  have hne : (p : ℚ) / 10 ^ 2 ≠ 0 := by positivity
  have hle' : (c : ℚ) ≤ 2 * p := by exact_mod_cast hle
  have hcost : (0 : ℚ) ≤ c := by positivity
  rw [marginOf, if_neg hne]
  -- one step for each of the three operations
  obtain ⟨w, hw⟩ : ∃ w, w = toPrecision ((p : ℚ) / 10 ^ 2 - c / 10 ^ 2) := ⟨_, rfl⟩
  obtain ⟨t, ht⟩ : ∃ t, t = w / ((p : ℚ) / 10 ^ 2) := ⟨_, rfl⟩
  obtain ⟨u, hu⟩ : ∃ u, u = toPrecision t := ⟨_, rfl⟩
  obtain ⟨v, hv⟩ : ∃ v, v = toPrecision (u * 100) := ⟨_, rfl⟩
  obtain ⟨z, hz⟩ : ∃ z, z = ((p : ℚ) - c) / p := ⟨_, rfl⟩
  have hzle : |z| ≤ 1 := by
    rw [hz, abs_div, abs_of_pos hpos, div_le_one hpos, abs_le]
    constructor <;> linarith
  have hterr : |t - z| ≤ |z| * (1 / (2 * 10 ^ 19)) := by
    have hwerr := abs_toPrecision_sub_le ((p : ℚ) / 10 ^ 2 - c / 10 ^ 2)
    have hgain : (p : ℚ) / 10 ^ 2 - c / 10 ^ 2 = z * (p / 10 ^ 2) := by
      rw [hz]
      field_simp
    have hwt : w = t * (p / 10 ^ 2) := by
      rw [ht, div_mul_cancel₀ _ hne]
    rw [← hw, hwt, hgain, ← sub_mul, abs_mul, abs_mul,
      abs_of_pos (show (0 : ℚ) < p / 10 ^ 2 by positivity), mul_right_comm] at hwerr
    exact le_of_mul_le_mul_right hwerr (by positivity)
  have huerr : |u - t| ≤ |t| * (1 / (2 * 10 ^ 19)) := hu ▸ abs_toPrecision_sub_le t
  have hverr : |v - u * 100| ≤ |u| * 100 * (1 / (2 * 10 ^ 19)) := by
    have herr := abs_toPrecision_sub_le (u * 100)
    rwa [← hv, abs_mul, abs_of_pos (show (0 : ℚ) < 100 by norm_num)] at herr
  have htle := abs_sub_abs_le_abs_sub t z
  have hule := abs_sub_abs_le_abs_sub u t
  rw [← hw, ← ht, ← hu, ← hv, ← hz]
  calc |v * 10 ^ 2 - 10000 * z|
      = |(v - u * 100) * 100 + ((u - t) * 10000 + (t - z) * 10000)| := by
        congr 1
        ring
    _ ≤ |(v - u * 100) * 100| + (|(u - t) * 10000| + |(t - z) * 10000|) :=
        (abs_add_le _ _).trans (add_le_add_right (abs_add_le _ _) _)
    _ = |v - u * 100| * 100 + (|u - t| * 10000 + |t - z| * 10000) := by
        rw [abs_mul, abs_mul, abs_mul, abs_of_pos (show (0 : ℚ) < 100 by norm_num),
          abs_of_pos (show (0 : ℚ) < 10000 by norm_num)]
    _ ≤ 1 / (5 * 10 ^ 14) := by linarith

/-- Where the exact margin is halfway between two hundredths, nothing is rounded
    on the way. -/
theorem marginOf_of_half {c p j : ℕ} (hp : p ≠ 0) (hle : c ≤ p) (hfit : p < 10 ^ 14)
    (hj : (10000 : ℚ) * ((p - c) / p) = j - 1 / 2) :
    marginOf toPrecision (c / 10 ^ 2) (p / 10 ^ 2) * 10 ^ 2 = 10000 * ((p - c) / p) := by
  have hpos : (0 : ℚ) < p := by exact_mod_cast Nat.pos_of_ne_zero hp
  have hne : (p : ℚ) / 10 ^ 2 ≠ 0 := by positivity
  have hcost : (0 : ℚ) ≤ c := by positivity
  have hj0 : 1 ≤ j := by
    by_contra hlt
    obtain rfl : j = 0 := by omega
    have : (0 : ℚ) ≤ 10000 * ((p - c) / p) := by
      have : (0 : ℚ) ≤ p - c := sub_nonneg.mpr (by exact_mod_cast hle)
      positivity
    rw [hj] at this
    norm_num at this
  have hjle : j ≤ 10001 := by
    have hz : ((p : ℚ) - c) / p ≤ 1 := by
      rw [div_le_one hpos]
      linarith
    have : (j : ℚ) ≤ 10001 := by linarith
    exact_mod_cast this
  have hgain : ((p : ℚ) / 10 ^ 2 - c / 10 ^ 2) = ((p - c : ℕ) : ℚ) / 10 ^ 2 := by
    rw [Nat.cast_sub hle]
    ring
  have hquotient : ((p - c : ℕ) : ℚ) / 10 ^ 2 / (p / 10 ^ 2) =
      ((5 * (2 * j - 1) : ℕ) : ℚ) / 10 ^ 5 := by
    rw [Nat.cast_sub hle, Nat.cast_mul, Nat.cast_sub (by omega)]
    push_cast
    field_simp at hj ⊢
    linarith
  have hpercent : ((5 * (2 * j - 1) : ℕ) : ℚ) / 10 ^ 5 * 100 =
      ((5 * (2 * j - 1) : ℕ) : ℚ) / 10 ^ 3 := by ring
  have hsmall : 5 * (2 * j - 1) < 10 ^ decimalPrecision := by
    rw [decimalPrecision]
    omega
  rw [marginOf, if_neg hne, hgain, toPrecision_of_lt 2 (by rw [decimalPrecision]; omega), hquotient,
    toPrecision_of_lt 5 hsmall, hpercent, toPrecision_of_lt 3 hsmall, hj, Nat.cast_mul,
    Nat.cast_sub (by omega)]
  push_cast
  ring

/-- Below a billion pesos the margin rounds to the same hundredth. -/
theorem round_marginOf {c p : ℕ} (hp : p ≠ 0) (hle : c ≤ p) (hfit : p < 10 ^ 13) :
    ProfitabilityCalculator.round (marginOf toPrecision (c / 10 ^ 2) (p / 10 ^ 2)) =
      nearestInt (10000 * ((p - c) / p)) := by
  have hpos : (0 : ℚ) < p := by exact_mod_cast Nat.pos_of_ne_zero hp
  have hx : (10000 : ℚ) * ((p - c) / p) = ((10000 * (p - c) : ℕ) : ℚ) / p := by
    rw [Nat.cast_mul, Nat.cast_sub hle]
    push_cast
    ring
  refine nearestInt_eq_of_close (Nat.pos_of_ne_zero hp) hx ?_ ?_
  · refine lt_of_le_of_lt (abs_marginOf_sub_le hp (by omega)) ?_
    rw [div_lt_div_iff_of_pos_left one_pos (by positivity) (by positivity)]
    have : (p : ℚ) < 10 ^ 13 := by exact_mod_cast hfit
    linarith
  · intro j hj
    exact marginOf_of_half hp hle (by omega) hj

theorem priceForMargin_toPrecision (c : ℕ) {n : ℕ} (hn : n < 10000) :
    priceForMargin toPrecision (.finite (c / 10 ^ 2)) (.finite (n / 10 ^ 2)) =
      .finite (toPrecision (100 * c / (10000 - n))) := by
  have hshare : (n : ℚ) / 10 ^ 2 / 100 = n / 10 ^ 4 := by ring
  have hrest : (1 : ℚ) - n / 10 ^ 4 = ((10000 - n : ℕ) : ℚ) / 10 ^ 4 := by
    rw [Nat.cast_sub hn.le]
    push_cast
    ring
  have hn' : (n : ℚ) < 10000 := by exact_mod_cast hn
  have hpos : (0 : ℚ) < ((10000 - n : ℕ) : ℚ) / 10 ^ 4 := by
    rw [← hrest]
    linarith
  have hquotient : (c : ℚ) / 10 ^ 2 / (((10000 - n : ℕ) : ℚ) / 10 ^ 4) = 100 * c / (10000 - n) := by
    have hne : (10000 : ℚ) - n ≠ 0 := by
      apply ne_of_gt
      linarith
    rw [← hrest]
    have hsame : (1 : ℚ) - n / 10 ^ 4 = (10000 - n) / 10000 := by ring
    rw [hsame]
    field_simp
    ring
  have hresto : toPrecision (1 - toPrecision (n / 10 ^ 2 / 100)) =
      ((10000 - n : ℕ) : ℚ) / 10 ^ 4 := by
    rw [hshare, toPrecision_of_lt 4 (by rw [decimalPrecision]; omega), hrest,
      toPrecision_of_lt 4 (by rw [decimalPrecision]; omega)]
  rw [priceForMargin_finite, hresto, Number.div_finite hpos.ne', hquotient]

/-- Below ten million pesos the price rounds to the same cent. -/
theorem round_price {c n p : ℕ} (hn : n < 10000) (hfit : c < 10 ^ 9)
    (hp : nearestInt (10000 * c / (10000 - (n : ℚ))) = p) :
    ProfitabilityCalculator.round (toPrecision (100 * c / (10000 - n))) = p := by
  have hn' : (n : ℚ) < 10000 := by exact_mod_cast hn
  have hpos : (0 : ℚ) < 10000 - n := by linarith
  have hx : (10000 : ℚ) * c / (10000 - n) = ((10000 * c : ℕ) : ℚ) / ((10000 - n : ℕ) : ℚ) := by
    rw [Nat.cast_sub hn.le]
    push_cast
    rfl
  have hy : (0 : ℚ) ≤ 100 * c / (10000 - n) := by positivity
  have hscale : (100 : ℚ) * c / (10000 - n) * 10 ^ 2 = 10000 * c / (10000 - n) := by ring
  rw [← hp]
  refine nearestInt_eq_of_close (show 0 < 10000 - n by omega) hx ?_ ?_
  · have herr := abs_toPrecision_sub_le (100 * c / (10000 - n))
    rw [abs_of_nonneg hy] at herr
    rw [← hscale, ← sub_mul, abs_mul, abs_of_pos (show (0 : ℚ) < 10 ^ 2 by norm_num)]
    refine lt_of_le_of_lt (mul_le_mul_of_nonneg_right herr (by norm_num)) ?_
    have hc : (c : ℚ) < 10 ^ 9 := by exact_mod_cast hfit
    rw [Nat.cast_sub hn.le, lt_div_iff₀ (by push_cast; linarith)]
    push_cast
    field_simp
    linarith
  · intro j hj
    have hexact : (100 : ℚ) * c / (10000 - n) = ((5 * (2 * j - 1) : ℕ) : ℚ) / 10 ^ 3 := by
      rcases j.eq_zero_or_pos with rfl | hj0
      · have hnonneg : (0 : ℚ) ≤ 10000 * c / (10000 - n) := by positivity
        rw [hj] at hnonneg
        norm_num at hnonneg
      · rw [Nat.cast_mul, Nat.cast_sub (by omega)]
        push_cast
        linarith
    have hsmall : 5 * (2 * j - 1) < 10 ^ decimalPrecision := by
      have hle : (10000 : ℚ) * c / (10000 - n) ≤ 10000 * c := by
        apply div_le_self (by positivity)
        have : ((n + 1 : ℕ) : ℚ) ≤ 10000 := by exact_mod_cast hn
        push_cast at this
        linarith
      have hc : (c : ℚ) < 10 ^ 9 := by exact_mod_cast hfit
      have hj' : (j : ℚ) < 10 ^ 14 := by linarith
      have hj'' : j < 10 ^ 14 := by exact_mod_cast hj'
      rw [decimalPrecision]
      omega
    rw [hexact, toPrecision_of_lt 3 hsmall, ← hexact, hscale]

/-- The ideal price of a large cost, in cents, and any price close to it. -/
structure LargePrice (c n p : ℕ) : Prop where
  pos : 0 < n
  lt : n < 10000
  large : 10 ^ 9 ≤ c
  close : |(p : ℚ) - 10000 * c / (10000 - n)| ≤
    1 / 2 + 10000 * c / (10000 - n) * (1 / (2 * 10 ^ 19))

/-- It covers the cost, and its margin is within a tenth of a hundredth of `n`. -/
theorem LargePrice.near {c n p : ℕ} (h : LargePrice c n p) :
    c ≤ p ∧ p ≠ 0 ∧ |(10000 : ℚ) * ((p - c) / p) - n| ≤ 1 / 10 := by
  obtain ⟨hpos, hlt, hlarge, hclose⟩ := h
  have hn : (1 : ℚ) ≤ n := by exact_mod_cast hpos
  have hn' : (n : ℚ) + 1 ≤ 10000 := by exact_mod_cast hlt
  have hc : (10 : ℚ) ^ 9 ≤ c := by exact_mod_cast hlarge
  have hk : (0 : ℚ) < 10000 - n := by linarith
  obtain ⟨x, hx⟩ : ∃ x : ℚ, x = 10000 * c / (10000 - n) := ⟨_, rfl⟩
  have hxk : x * (10000 - n) = 10000 * c := by
    rw [hx, div_mul_cancel₀ _ hk.ne']
  rw [← hx] at hclose
  have hxc : (c : ℚ) ≤ x := by
    rw [hx, le_div_iff₀ hk]
    nlinarith
  have hx0 : 0 ≤ x := by linarith
  have hgap : x ≤ 10000 * (x - c) := by nlinarith
  obtain ⟨hlow, hhigh⟩ := abs_le.mp hclose
  have hcp : (c : ℚ) ≤ p := by linarith
  have hp : (0 : ℚ) < p := by linarith
  refine ⟨by exact_mod_cast hcp, by exact_mod_cast hp.ne', ?_⟩
  have herror : (10000 : ℚ) * ((p - c) / p) - n = (p - x) * (10000 - n) / p := by
    field_simp
    linarith
  rw [herror, abs_div, abs_mul, abs_of_pos hp, abs_of_pos hk, div_le_iff₀ hp]
  calc |(p : ℚ) - x| * (10000 - n)
      ≤ (1 / 2 + x * (1 / (2 * 10 ^ 19))) * 10000 := by
        apply mul_le_mul hclose _ hk.le (by positivity)
        linarith
    _ ≤ 1 / 10 * p := by linarith

theorem LargePrice.leaves {c n p : ℕ} (h : LargePrice c n p) : p ≠ 0 ∧ Leaves c p n := by
  obtain ⟨hle, hp, hmargin⟩ := h.near
  have hnonneg : (0 : ℚ) ≤ 10000 * ((p - c) / p) := by
    have : (0 : ℚ) ≤ p - c := sub_nonneg.mpr (by exact_mod_cast hle)
    positivity
  obtain ⟨hlow, hhigh⟩ := abs_le.mp hmargin
  refine ⟨hp, (leaves_iff hp hle).mp ((nearestInt_eq_natCast_iff hnonneg).mpr ?_)⟩
  constructor <;> linarith

theorem LargePrice.round_marginOf {c n p : ℕ} (h : LargePrice c n p) :
    ProfitabilityCalculator.round (marginOf toPrecision (c / 10 ^ 2) (p / 10 ^ 2)) = n := by
  obtain ⟨hle, hp, hmargin⟩ := h.near
  have hn : (1 : ℚ) ≤ n := by exact_mod_cast h.pos
  obtain ⟨hlow, hhigh⟩ := abs_le.mp hmargin
  have hle' : c ≤ 2 * p := by omega
  obtain ⟨hlow', hhigh'⟩ := abs_le.mp (abs_marginOf_sub_le hp hle')
  rw [ProfitabilityCalculator.round, nearestInt_eq_natCast_iff (by linarith)]
  constructor <;> linarith

/-- The exact price, to the nearest cent. -/
theorem LargePrice.ideal {c n p : ℕ} (hpos : 0 < n) (hn : n < 10000) (hlarge : 10 ^ 9 ≤ c)
    (hclose : |(p : ℚ) - 10000 * c / (10000 - n)| ≤ 1 / 2) : LargePrice c n p := by
  have hn' : (n : ℚ) < 10000 := by exact_mod_cast hn
  have hk : (0 : ℚ) < 10000 - n := by linarith
  refine ⟨hpos, hn, hlarge, hclose.trans ?_⟩
  rw [le_add_iff_nonneg_right]
  positivity

/-- The price at the precision of the package, to the nearest cent. -/
theorem LargePrice.suggested {c n p : ℕ} (hpos : 0 < n) (hn : n < 10000) (hlarge : 10 ^ 9 ≤ c)
    (hclose : |(p : ℚ) - toPrecision (100 * c / (10000 - n)) * 10 ^ 2| ≤ 1 / 2) :
    LargePrice c n p := by
  have hn' : (n : ℚ) < 10000 := by exact_mod_cast hn
  have hk : (0 : ℚ) < 10000 - n := by linarith
  have hy : (0 : ℚ) ≤ 100 * c / (10000 - n) := by positivity
  have hscale : (100 : ℚ) * c / (10000 - n) = 10000 * c / (10000 - n) / 100 := by ring
  obtain ⟨herrLow, herrHigh⟩ := abs_le.mp (abs_toPrecision_sub_le (100 * c / (10000 - (n : ℚ))))
  rw [abs_of_nonneg hy] at herrLow herrHigh
  rw [hscale] at herrLow herrHigh hclose
  obtain ⟨hlow, hhigh⟩ := abs_le.mp hclose
  refine ⟨hpos, hn, hlarge, abs_le.mpr ?_⟩
  constructor <;> linarith

/-- The ideal price of a cost below ten million pesos. -/
theorem ideal_lt {c n p : ℕ} (hn : n < 10000) (hfit : c < 10 ^ 9)
    (hclose : |(p : ℚ) - 10000 * c / (10000 - n)| ≤ 1 / 2) : p < 10 ^ 13 := by
  have hc : (c : ℚ) + 1 ≤ 10 ^ 9 := by exact_mod_cast hfit
  have hn' : (n : ℚ) + 1 ≤ 10000 := by exact_mod_cast hn
  have hideal : (10000 : ℚ) * c / (10000 - n) ≤ 10000 * c := by
    apply div_le_self (by positivity)
    linarith
  have hp : (p : ℚ) < 10 ^ 13 := by linarith [(abs_le.mp hclose).2]
  exact_mod_cast hp

/-- A margin between zero and one hundred with two decimals, in hundredths. -/
theorem hundredths_bounds {n : ℕ} (hzero : 0 < magnitude) (hlt : magnitude < 100)
    (hmagnitude : (magnitude : ℚ) = n / 10 ^ 2) : 0 < n ∧ n < 10000 := by
  have hzero' : (0 : ℚ) < magnitude := by exact_mod_cast hzero
  have hlt' : (magnitude : ℚ) < 100 := by exact_mod_cast hlt
  rw [hmagnitude] at hzero' hlt'
  have hpos : (0 : ℚ) < n := by linarith
  have hbound : (n : ℚ) < 10000 := by linarith
  exact ⟨by exact_mod_cast hpos, by exact_mod_cast hbound⟩

theorem suggestionAccepted_toPrecision (hcost : Money.of decimal costText Product.cop = .ok cost)
    (hparse : decimal.parse marginText = some (.finite false magnitude)) (hlt : magnitude < 100)
    (hzero : 0 < magnitude) (hmargin : margin.hundredths = toScale 2 magnitude) {n : ℕ}
    (hdecimals : magnitude = n / 10 ^ 2) :
    SuggestionAccepted toPrecision decimal costText marginText cost margin ↔
      PriceFits cost.cents magnitude := by
  have hvalue : toScale 2 magnitude = n := by
    rw [hdecimals, toScale_div]
  have hmagnitude : (magnitude : ℚ) = n / 10 ^ 2 := by
    rw [hdecimals]
    push_cast
    rfl
  obtain ⟨hn0, hn⟩ := hundredths_bounds hzero hlt hmagnitude
  have hprecio := priceForMargin_toPrecision cost.cents hn
  rw [← hmagnitude] at hprecio
  have hrest : (10000 : ℚ) - 100 * magnitude = 10000 - n := by
    rw [hmagnitude]
    ring
  have hle := cost_le_ideal cost.cents hlt
  rw [hrest] at hle
  have hideal : (0 : ℚ) ≤ 10000 * cost.cents / (10000 - n) := le_trans (by positivity) hle
  obtain ⟨p, hp, hclose⟩ := exists_nearestInt hideal
  have hfits := priceFits_iff hlt (by rw [hrest]; exact hp)
  rw [hvalue] at hfits
  by_cases hfit : cost.cents < 10 ^ 9
  · -- the price rounds to the ideal one, and so does the margin that it leaves
    rw [suggestionAccepted_iff hcost hparse hlt hprecio (round_price hn hfit hp), hfits, hmargin,
      hvalue]
    apply and_congr_right
    intro hne
    have hcp := le_of_nearestInt hle hp
    rw [round_marginOf hne hcp (ideal_lt hn hfit hclose), leaves_iff hne hcp]
  · -- a cent more or less changes the margin by less than its precision
    have hlarge : 10 ^ 9 ≤ cost.cents := not_lt.mp hfit
    have hy : (0 : ℚ) ≤ 100 * cost.cents / (10000 - n) := by
      have hscale : (100 : ℚ) * cost.cents / (10000 - n) =
          10000 * cost.cents / (10000 - n) / 100 := by ring
      rw [hscale]
      positivity
    obtain ⟨p', hp', hclose'⟩ := exists_nearestInt
      (show 0 ≤ toPrecision (100 * cost.cents / (10000 - n)) * 10 ^ 2 from
        mul_nonneg (toPrecision_nonneg hy) (by norm_num))
    have hsuggested : LargePrice cost.cents n p' := .suggested hn0 hn hlarge hclose'
    have hideal' : LargePrice cost.cents n p := .ideal hn0 hn hlarge hclose
    rw [suggestionAccepted_iff hcost hparse hlt hprecio hp', hfits, hmargin, hvalue]
    exact iff_of_true ⟨hsuggested.near.2.1, hn, hsuggested.round_marginOf⟩
      ⟨hideal'.leaves.1, hn, hideal'.leaves.2⟩

/-! ## Margins of more decimals -/

/-- What is left after the margin, at twenty digits. -/
theorem abs_rest_sub_le {m : ℚ} (hnonneg : 0 ≤ m) (hlt : m < 100) :
    |toPrecision (1 - toPrecision (m / 100)) - (1 - m / 100)| ≤ 1 / 10 ^ 19 := by
  obtain ⟨a, ha⟩ : ∃ a, a = toPrecision (m / 100) := ⟨_, rfl⟩
  have herr : |a - m / 100| ≤ m / 100 * (1 / (2 * 10 ^ 19)) := by
    have h := abs_toPrecision_sub_le (m / 100)
    rwa [← ha, abs_of_nonneg (show 0 ≤ m / 100 by positivity)] at h
  have herr' := abs_toPrecision_sub_le (1 - a)
  obtain ⟨hlow, hhigh⟩ := abs_le.mp herr
  have hrest : |1 - a| ≤ 1 := by
    rw [abs_le]
    constructor <;> linarith
  obtain ⟨hlow', hhigh'⟩ := abs_le.mp herr'
  rw [← ha, abs_le]
  constructor <;> linarith

/-- A margin below 100.00 leaves something. -/
theorem rest_pos_of_toScale_lt (hlt : toScale 2 magnitude < 10000) :
    (1 : ℚ) / 20000 < 1 - magnitude / 100 := by
  obtain ⟨-, hexcess⟩ := abs_excess_le magnitude
  have hn : ((toScale 2 magnitude + 1 : ℕ) : ℚ) ≤ 10000 := by exact_mod_cast hlt
  push_cast at hn
  linarith

theorem abs_cents_sub_le {y : ℚ} (h : 0 ≤ y) :
    |toPrecision (y / 10 ^ 2) * 10 ^ 2 - y| ≤ y * (1 / (2 * 10 ^ 19)) := by
  have herr := abs_toPrecision_sub_le (y / 10 ^ 2)
  rw [abs_of_nonneg (show 0 ≤ y / 10 ^ 2 by positivity)] at herr
  obtain ⟨hlow, hhigh⟩ := abs_le.mp herr
  rw [abs_le]
  constructor <;> linarith

/-- The price for the margin, in cents, against the ideal one. -/
theorem exists_suggested (c : ℕ) (hlt : toScale 2 magnitude < 10000) :
    ∃ precio, priceForMargin toPrecision (.finite (c / 10 ^ 2)) (.finite magnitude) =
        .finite precio ∧ 0 ≤ precio * 10 ^ 2 ∧
      |precio * 10 ^ 2 * (10000 - 100 * magnitude) - 10000 * c| ≤
        precio * 10 ^ 2 * (2 / 10 ^ 15) := by
  have hnonneg : (0 : ℚ) ≤ magnitude := NNRat.cast_nonneg _
  have hpos := rest_pos_of_toScale_lt hlt
  have herr := abs_rest_sub_le hnonneg (by linarith)
  obtain ⟨r, hr⟩ : ∃ r, r = toPrecision (1 - toPrecision ((magnitude : ℚ) / 100)) := ⟨_, rfl⟩
  obtain ⟨s, hs⟩ : ∃ s, s = 1 - (magnitude : ℚ) / 100 := ⟨_, rfl⟩
  have hrest : (10000 : ℚ) - 100 * magnitude = 10000 * s := by
    rw [hs]
    ring
  have hs0 : 0 ≤ s := by linarith
  have hs1 : s ≤ 1 := by linarith
  rw [← hr, ← hs, abs_sub_comm] at herr
  obtain ⟨hlow, hhigh⟩ := abs_le.mp herr
  have hr0 : 0 < r := by linarith
  obtain ⟨y, hy⟩ : ∃ y, y = (c : ℚ) / r := ⟨_, rfl⟩
  have hyr : y * r = c := by
    rw [hy, div_mul_cancel₀ _ hr0.ne']
  have hy0 : 0 ≤ y := by
    rw [hy]
    positivity
  have hcents : (c : ℚ) / 10 ^ 2 / r = y / 10 ^ 2 := by
    rw [hy]
    ring
  have hxerr := abs_cents_sub_le hy0
  have hprecio : priceForMargin toPrecision (.finite (c / 10 ^ 2)) (.finite magnitude) =
      .finite (toPrecision (y / 10 ^ 2)) := by
    rw [priceForMargin_finite, ← hr, Number.div_finite hr0.ne', hcents]
  refine ⟨_, hprecio, ?_⟩
  generalize toPrecision (y / 10 ^ 2) * 10 ^ 2 = x at hxerr ⊢
  obtain ⟨hxlow, hxhigh⟩ := abs_le.mp hxerr
  refine ⟨by linarith, ?_⟩
  -- the error of the price, and that of what is left
  rw [hrest]
  calc |x * (10000 * s) - 10000 * c|
      = |10000 * ((x - y) * s + y * (s - r))| := by
        congr 1
        rw [← hyr]
        ring
    _ = 10000 * |(x - y) * s + y * (s - r)| := by
        rw [abs_mul, abs_of_pos (show (0 : ℚ) < 10000 by norm_num)]
    _ ≤ 10000 * (|x - y| * s + y * |s - r|) := by
        refine mul_le_mul_of_nonneg_left ((abs_add_le _ _).trans_eq ?_) (by norm_num)
        rw [abs_mul, abs_mul, abs_of_nonneg hy0, abs_of_nonneg hs0]
    _ ≤ 10000 * (y * (1 / (2 * 10 ^ 19)) * 1 + y * (1 / 10 ^ 19)) := by
        gcongr
    _ ≤ x * (2 / 10 ^ 15) := by linarith

/-- The distance to the ideal price, from the margin that is left. -/
theorem abs_margin_sub_le_iff {c p n : ℕ} (hp : 0 < p) {b : ℚ} :
    |2 * ((p : ℚ) * (10000 - n) - 10000 * c)| ≤ b * p ↔
      |10000 * (((p : ℚ) - c) / p) - n| ≤ b / 2 := by
  have hpos : (0 : ℚ) < p := by exact_mod_cast hp
  have hscale : 2 * ((p : ℚ) * (10000 - n) - 10000 * c) =
      (10000 * (((p : ℚ) - c) / p) - n) * (2 * p) := by
    field_simp
    ring
  rw [hscale, abs_mul, abs_of_pos (show (0 : ℚ) < 2 * p by positivity), ← mul_assoc,
    mul_le_mul_iff_left₀ hpos, le_div_iff₀ (by norm_num)]

/-- A price that fits with a part in `10 ^ 14` to spare is the nearest one to a price
    at twenty digits. -/
theorem abs_suggested_sub_lt {x rest cost p : ℚ} (hrest : 1 / 2 < rest) (hp : 1 ≤ p)
    (hx : |x * rest - 10000 * cost| ≤ x * (2 / 10 ^ 15))
    (hprice : |2 * (p * rest - 10000 * cost)| ≤ rest - 1 / 10 ^ 14 * p) : |x - p| < 1 / 2 := by
  obtain ⟨hxlow, hxhigh⟩ := abs_le.mp hx
  obtain ⟨hplow, hphigh⟩ := abs_le.mp hprice
  have hbound : x < 5 / 2 * p := by
    by_contra hge
    have hle : 5 / 2 * p ≤ x := not_lt.mp hge
    have hprod : 0 ≤ (rest - 1 / 2) * (6 / 5 * x - 1) :=
      mul_nonneg (by linarith) (by linarith)
    have hprod' : 0 ≤ (x - 5 / 2 * p) * rest := mul_nonneg (by linarith) (by linarith)
    nlinarith
  have hpos : 0 < rest := by linarith
  rw [abs_lt]
  constructor
  · refine lt_of_mul_lt_mul_right ?_ hpos.le
    linarith
  · refine lt_of_mul_lt_mul_right ?_ hpos.le
    linarith

/-- With a price and a margin that fit with a part in `10 ^ 14` to spare, every
    rounding falls on the same side as the exact one. -/
theorem suggestionAccepted_of_fits (hcost : Money.of decimal costText Product.cop = .ok cost)
    (hparse : decimal.parse marginText = some (.finite false magnitude)) (hlt : magnitude < 100)
    (hmargin : margin.hundredths = toScale 2 magnitude)
    (hfits : FitsWithin (1 / 10 ^ 14) cost.cents magnitude) :
    SuggestionAccepted toPrecision decimal costText marginText cost margin := by
  obtain ⟨hn, p, hp, hprice, hleft⟩ := hfits
  obtain ⟨precio, hprecio, -, hx⟩ := exists_suggested cost.cents hn
  have hrest := rest_pos_of_toScale_lt hn
  have hnonneg : (0 : ℚ) ≤ magnitude := NNRat.cast_nonneg _
  have hp1 : (1 : ℚ) ≤ p := by exact_mod_cast hp
  have hround : ProfitabilityCalculator.round precio = p := by
    have hnear := abs_suggested_sub_lt (by linarith) hp1 hx hprice
    exact nearestInt_eq_of_abs_lt (by exact_mod_cast hnear)
  have hle : cost.cents ≤ 2 * p := by
    have hprod : (p : ℚ) * (10000 - 100 * magnitude) ≤ p * 10000 :=
      mul_le_mul_of_nonneg_left (by linarith) (by linarith)
    have hc : (cost.cents : ℚ) ≤ 2 * p := by linarith [(abs_le.mp hprice).1]
    exact_mod_cast hc
  rw [suggestionAccepted_iff hcost hparse hlt hprecio hround, hmargin]
  refine ⟨hp.ne', hn, nearestInt_eq_of_abs_lt ?_⟩
  obtain ⟨hlow, hhigh⟩ := abs_le.mp ((abs_margin_sub_le_iff hp).mp hleft)
  obtain ⟨hlow', hhigh'⟩ := abs_le.mp (abs_marginOf_sub_le hp.ne' hle)
  push_cast
  rw [abs_lt]
  constructor <;> linarith

/-- What is accepted fits within as much beyond. -/
theorem fits_of_suggestionAccepted (hcost : Money.of decimal costText Product.cop = .ok cost)
    (hparse : decimal.parse marginText = some (.finite false magnitude)) (hlt : magnitude < 100)
    (hmargin : margin.hundredths = toScale 2 magnitude)
    (h : SuggestionAccepted toPrecision decimal costText marginText cost margin) :
    FitsWithin (-(1 / 10 ^ 14)) cost.cents magnitude := by
  have hn : toScale 2 magnitude < 10000 := by
    obtain ⟨_, _, _, -, -, -, haccepts⟩ := h
    exact hmargin ▸ (accepts_iff.mp haccepts).2.1
  obtain ⟨precio, hprecio, hx0, hx⟩ := exists_suggested cost.cents hn
  have hrest := rest_pos_of_toScale_lt hn
  have hnonneg : (0 : ℚ) ≤ magnitude := NNRat.cast_nonneg _
  obtain ⟨p, hround, hnear⟩ := exists_nearestInt hx0
  rw [suggestionAccepted_iff hcost hparse hlt hprecio hround, hmargin] at h
  obtain ⟨hp, -, hmargen⟩ := h
  have hp1 : (1 : ℚ) ≤ p := by exact_mod_cast Nat.pos_of_ne_zero hp
  obtain ⟨hxlow, hxhigh⟩ := abs_le.mp hx
  obtain ⟨hlow, hhigh⟩ := abs_le.mp hnear
  generalize precio * 10 ^ 2 = x at hx0 hxlow hxhigh hlow hhigh
  have hprod : x * (10000 - 100 * magnitude) ≤ x * 10000 :=
    mul_le_mul_of_nonneg_left (by linarith) hx0
  have hle : cost.cents ≤ 2 * p := by
    have hc : (cost.cents : ℚ) ≤ 2 * p := by linarith
    exact_mod_cast hc
  refine ⟨hn, p, Nat.pos_of_ne_zero hp, ?_, ?_⟩
  · -- half a cent, and what twenty digits add to it
    have hstep : ∀ d : ℚ, d ≤ 1 / 2 →
        d * (10000 - 100 * magnitude) ≤ 1 / 2 * (10000 - 100 * magnitude) :=
      fun d hd => mul_le_mul_of_nonneg_right hd (by linarith)
    have habove := hstep (p - x) (by linarith)
    have hbelow := hstep (x - p) (by linarith)
    rw [abs_le]
    constructor <;> linarith
  · rw [abs_margin_sub_le_iff (Nat.pos_of_ne_zero hp)]
    have hclose := abs_sub_nearestInt_le (marginOf toPrecision ((cost.cents : ℚ) / 10 ^ 2)
      (p / 10 ^ 2) * 10 ^ 2)
    rw [show nearestInt _ = _ from hmargen] at hclose
    obtain ⟨hlow', hhigh'⟩ := abs_le.mp hclose
    obtain ⟨hlow'', hhigh''⟩ := abs_le.mp (abs_marginOf_sub_le hp hle)
    push_cast at hlow' hhigh'
    rw [abs_le]
    constructor <;> linarith

/-! ## The promise -/

/-- For every cost that `Money.of` accepts in pesos and every target margin that
    `ProfitMargin.create` accepts, at the twenty digits of the package: where the
    margin has two decimals, the suggested price is accepted together with them
    exactly when `PriceFits`; where it has more, it is accepted whenever `FitsWithin` a
    part in `10 ^ 14` to spare, and never when that much beyond is not enough. -/
theorem suggestion_accepted_iff (hcost : Money.of decimal costText Product.cop = .ok cost)
    (hmargin : ProfitMargin.create decimal marginText = .ok margin)
    (hparse : decimal.parse marginText = some (.finite false magnitude)) :
    ((∃ n : ℕ, magnitude = n / 10 ^ 2) →
      (SuggestionAccepted toPrecision decimal costText marginText cost margin ↔
        PriceFits cost.cents magnitude)) ∧
    (FitsWithin (1 / 10 ^ 14) cost.cents magnitude →
      SuggestionAccepted toPrecision decimal costText marginText cost margin) ∧
    (SuggestionAccepted toPrecision decimal costText marginText cost margin →
      FitsWithin (-(1 / 10 ^ 14)) cost.cents magnitude) := by
  obtain ⟨magnitude', hparse', hpos, hlt, hvalue⟩ := ProfitMargin.create_ok_iff.mp hmargin
  obtain rfl : magnitude = magnitude' := by
    have := hparse.symm.trans hparse'
    simpa using this
  refine ⟨?_, suggestionAccepted_of_fits hcost hparse hlt hvalue,
    fits_of_suggestionAccepted hcost hparse hlt hvalue⟩
  rintro ⟨n, hdecimals⟩
  exact suggestionAccepted_toPrecision hcost hparse hlt hpos hvalue hdecimals

/-- For a cost of 7000, the suggested price is accepted with a margin of 30, and with
    one of 33.3333. -/
theorem suggestion_accepted_iff_thirty :
    SuggestionAccepted toPrecision plainDecimal (js "7000") (js "30")
        ⟨700000, Product.cop, by decide⟩ ⟨3000, by decide⟩ ∧
      SuggestionAccepted toPrecision plainDecimal (js "7000") (js "33.3333")
        ⟨700000, Product.cop, by decide⟩ ⟨3333, by decide⟩ := by
  have hcost : Money.of plainDecimal (js "7000") Product.cop =
      .ok ⟨700000, Product.cop, by decide⟩ := by decide +kernel
  constructor
  · have hmargin : ProfitMargin.create plainDecimal (js "30") = .ok ⟨3000, by decide⟩ := by
      decide +kernel
    have hparse : plainDecimal.parse (js "30") = some (.finite false 30) := by decide +kernel
    have hfits : PriceFits 700000 30 := by decide +kernel
    have hdecimals : ∃ n : ℕ, (30 : ℚ≥0) = n / 10 ^ 2 := ⟨3000, by decide +kernel⟩
    exact ((suggestion_accepted_iff hcost hmargin hparse).1 hdecimals).mpr hfits
  · have hmargin : ProfitMargin.create plainDecimal (js "33.3333") =
        .ok ⟨3333, by decide⟩ := by decide +kernel
    have hparse : plainDecimal.parse (js "33.3333") =
        some (.finite false (333333 / 10 ^ 4)) := by decide +kernel
    have hfits : FitsWithin (1 / 10 ^ 14) 700000 (333333 / 10 ^ 4) :=
      ⟨by decide +kernel, 1049999, by decide +kernel, by decide +kernel, by decide +kernel⟩
    exact (suggestion_accepted_iff hcost hmargin hparse).2.1 hfits

/-- For a cost of 50 and a margin of 1 the ideal price is 50.505...; rounded to
    50.51 it leaves 1.01, and is refused. -/
theorem suggestion_not_accepted :
    ¬ SuggestionAccepted toPrecision plainDecimal (js "50") (js "1")
      ⟨5000, Product.cop, by decide⟩ ⟨100, by decide⟩ := by
  have hcost : Money.of plainDecimal (js "50") Product.cop =
      .ok ⟨5000, Product.cop, by decide⟩ := by decide +kernel
  have hparse : plainDecimal.parse (js "1") = some (.finite false 1) := by decide +kernel
  have hlt : (1 : ℚ≥0) < 100 := by decide +kernel
  have hvalue : (100 : ℕ) = toScale 2 1 := by decide +kernel
  have hdecimals : (1 : ℚ≥0) = (100 : ℕ) / 10 ^ 2 := by decide +kernel
  have hfits : ¬ PriceFits 5000 1 := by decide +kernel
  rwa [suggestionAccepted_toPrecision hcost hparse hlt one_pos hvalue hdecimals]

end KomiSaas.Products
