import KomiSaas.Products.ValueObjects
import KomiSaas.Shared.Number
import KomiSaas.Lib.Errors

/-!
# The profitability calculator

`products/domain/services/profitability-calculator.ts`, which works on the
numbers of `decimal.js`: `NaN` and the infinities among them, as a margin `NaN`
passes both tests of `assertValidMargin`. `rounded` is what an operation of the
package returns for its exact result: `toPrecision` at the default configuration,
`exactly` where the arithmetic is read as exact.

On finite numbers the calculator computes `round` and `marginOf`
(`calculate_price_margin`, `calculate_ok_iff`).
-/

namespace KomiSaas.Products

open KomiSaas.Lib KomiSaas.Lib.Decimal KomiSaas.Shared

/-- Arithmetic that is never rounded. -/
def exactly (x : ℚ) : ℚ := x

/-- `toFixed(2)` of a number of hundredths. -/
def fixed2 (decimal : DecimalJs) (hundredths : ℤ) : JsString :=
  if hundredths < 0 then js "-" ++ decimal.toFixed2 (hundredths.natAbs / 10 ^ 2)
  else decimal.toFixed2 (hundredths.natAbs / 10 ^ 2)

/-- `ProfitabilityInput`. -/
structure ProfitabilityInput where
  cost : JsString
  price : Option JsString
  targetMargin : Option JsString
  deriving DecidableEq

/-- `ProfitabilityResult`; `none` is `null`. -/
structure ProfitabilityResult where
  cost : JsString
  price : Option JsString
  grossProfit : Option JsString
  margin : Option JsString
  foodCost : Option JsString
  markup : Option JsString
  deriving DecidableEq

namespace ProfitabilityCalculator

/-- `round` (lines 116–118) of a finite number, in hundredths. -/
def round (valor : ℚ) : ℤ := nearestInt (valor * 10 ^ 2)

/-- `round`, before the number is written. -/
def hundredths (valor : Number ℚ) : Number ℤ := valor.map round

/-- A number of hundredths, written. -/
def fixed (decimal : DecimalJs) : Number ℤ → JsString
  | .nan => js "NaN"
  | .infinity negative => if negative then js "-Infinity" else js "Infinity"
  | .finite value => fixed2 decimal value

/-- `round`, as the text that it returns. -/
def rounding (decimal : DecimalJs) (valor : Number ℚ) : JsString := fixed decimal (hundredths valor)

section

variable (rounded : ℚ → ℚ) (decimal : DecimalJs)

/-- `marginOf` (lines 81–83) of finite numbers. -/
def marginOf (costo precio : ℚ) : ℚ :=
  if precio = 0 then 0 else rounded (rounded (rounded (precio - costo) / precio) * 100)

/-- `marginOf`. -/
def realMargin (costo precio : Number ℚ) : Number ℚ :=
  if precio.isZero then .finite 0
  else (((precio.minus rounded costo).div rounded precio).times rounded (.finite 100))

/-- `priceForMargin` (lines 76–78). -/
def priceForMargin (costo margen : Number ℚ) : Number ℚ :=
  costo.div rounded ((Number.finite 1).minus rounded (margen.div rounded (.finite 100)))

/-- `fromPrice` (lines 60–73). -/
def fromPrice (costo precio : Number ℚ) : ProfitabilityResult :=
  let ganancia := precio.minus rounded costo
  let foodCost := (costo.div rounded precio).times rounded (.finite 100)
  let markup := (ganancia.div rounded costo).times rounded (.finite 100)
  { cost := rounding decimal costo
    price := some (rounding decimal precio)
    grossProfit := some (rounding decimal ganancia)
    margin := some (rounding decimal (realMargin rounded costo precio))
    foodCost := if precio.isZero then none else some (rounding decimal foodCost)
    markup := if costo.isZero then none else some (rounding decimal markup) }

/-- `assertPriceMatchesMargin` (lines 89–104). The two texts of two decimals are
    equal exactly when their hundredths are. -/
def assertPriceMatchesMargin (costo precio margen : Number ℚ) : Except ProductException Unit :=
  let margenReal := realMargin rounded costo precio
  if hundredths margenReal ≠ hundredths margen then
    .error (.priceMarginMismatch (rounding decimal margen) (rounding decimal margenReal)
      (rounding decimal (priceForMargin rounded costo margen)))
  else .ok ()

/-- `new Decimal(text)`. -/
def numberOf (text : JsString) : Except ProductException (Number ℚ) :=
  match decimal.parse text with
  | some value => .ok value.toNumber
  | none => .error (.notANumber text)

/-- `assertValidMargin` (lines 107–113), with the number that was checked. `NaN` is
    neither negative nor from 100 up. -/
def assertValidMargin (margen : JsString) : Except ProductException (Number ℚ) :=
  match decimal.parse margen with
  | some (.finite negative magnitude) =>
    if negative ∨ 100 ≤ magnitude then .error .invalidTargetMargin else .ok (.finite magnitude)
  | some (.infinity _) => .error .invalidTargetMargin
  | some .nan => .ok .nan
  | none => .error (.notANumber margen)

/-- A margin that was sent is checked. -/
def targetMarginOf : Option JsString → Except ProductException (Option (Number ℚ))
  | none => .ok none
  | some margen => (assertValidMargin decimal margen).map some

/-- `calculate` (lines 23–57). -/
def calculate (input : ProfitabilityInput) : Except ProductException ProfitabilityResult := do
  let costo ← numberOf decimal input.cost
  let targetMargin ← targetMarginOf decimal input.targetMargin
  match input.price, targetMargin with
  | some price, some margen => do
    let precio ← numberOf decimal price
    assertPriceMatchesMargin rounded decimal costo precio margen
    .ok (fromPrice rounded decimal costo precio)
  | some price, none => do
    let precio ← numberOf decimal price
    .ok (fromPrice rounded decimal costo precio)
  | none, some margen =>
    .ok (fromPrice rounded decimal costo (priceForMargin rounded costo margen))
  | none, none =>
    .ok
      { cost := rounding decimal costo
        price := none
        grossProfit := none
        margin := none
        foodCost := none
        markup := none }

end

variable {rounded : ℚ → ℚ} {decimal : DecimalJs} {costo precio : ℚ}

theorem numberOf_toFixed2 (n : ℕ) :
    numberOf decimal (decimal.toFixed2 (n / 10 ^ 2)) = .ok (.finite (n / 10 ^ 2)) := by
  rw [numberOf, decimal.parse_toFixed2]
  simp [Decimal.toNumber]

@[simp] theorem round_hundredths (n : ℕ) : round (n / 10 ^ 2) = n := by
  rw [round, div_mul_cancel₀ _ (by norm_num)]
  exact_mod_cast nearestInt_coe n |>.trans (congrArg Nat.cast (nearest_natCast n))

/-- The real margin of finite numbers. -/
theorem realMargin_finite :
    realMargin rounded (.finite costo) (.finite precio) =
      .finite (marginOf rounded costo precio) := by
  unfold realMargin marginOf
  rw [Number.isZero_finite]
  by_cases hprecio : precio = 0
  · rw [if_pos (decide_eq_true hprecio), if_pos hprecio]
  · rw [if_neg (by simpa using hprecio), if_neg hprecio, Number.minus_finite,
      Number.div_finite hprecio, Number.times_finite]

/-- The price for a finite margin of a finite cost. -/
theorem priceForMargin_finite {margen : ℚ} :
    priceForMargin rounded (.finite costo) (.finite margen) =
      (Number.finite costo).div rounded (.finite (rounded (1 - rounded (margen / 100)))) := by
  rw [priceForMargin, Number.div_finite (by norm_num), Number.minus_finite]

/-- Finite numbers with one margin in hundredths match, and others do not. -/
theorem assertPriceMatchesMargin_ok_iff {margen : ℚ} :
    assertPriceMatchesMargin rounded decimal (.finite costo) (.finite precio) (.finite margen) =
      .ok () ↔ round (marginOf rounded costo precio) = round margen := by
  unfold assertPriceMatchesMargin
  rw [realMargin_finite]
  simp [hundredths, Number.map]

theorem assertPriceMatchesMargin_mismatch {margen : ℚ}
    (h : round (marginOf rounded costo precio) ≠ round margen) :
    assertPriceMatchesMargin rounded decimal (.finite costo) (.finite precio) (.finite margen) =
      .error (.priceMarginMismatch (rounding decimal (.finite margen))
        (rounding decimal (.finite (marginOf rounded costo precio)))
        (rounding decimal (priceForMargin rounded (.finite costo) (.finite margen)))) := by
  unfold assertPriceMatchesMargin
  rw [realMargin_finite]
  exact if_pos fun heq => h (Number.finite.inj heq)

theorem assertValidMargin_ok {text : JsString} {magnitude : ℚ≥0}
    (hparse : decimal.parse text = some (.finite false magnitude)) :
    assertValidMargin decimal text =
      if 100 ≤ magnitude then .error .invalidTargetMargin else .ok (.finite magnitude) := by
  rw [assertValidMargin, hparse]
  simp

/-- What `calculate` does with a price and a margin of two decimals. -/
theorem calculate_price_margin (costo precio margen : ℕ) :
    calculate rounded decimal
        ⟨decimal.toFixed2 (costo / 10 ^ 2), some (decimal.toFixed2 (precio / 10 ^ 2)),
          some (decimal.toFixed2 (margen / 10 ^ 2))⟩ =
      if margen < 10000 then
        (assertPriceMatchesMargin rounded decimal (.finite (costo / 10 ^ 2))
            (.finite (precio / 10 ^ 2)) (.finite (margen / 10 ^ 2))).bind fun _ =>
          .ok (fromPrice rounded decimal (.finite (costo / 10 ^ 2)) (.finite (precio / 10 ^ 2)))
      else .error .invalidTargetMargin := by
  have hle : (100 : ℚ≥0) ≤ margen / 10 ^ 2 ↔ ¬ margen < 10000 := by
    rw [le_div_iff₀ (by positivity), not_lt]
    norm_num
  have hcast : ((margen / 10 ^ 2 : ℚ≥0) : ℚ) = margen / 10 ^ 2 := by push_cast; rfl
  have htarget : targetMarginOf decimal (some (decimal.toFixed2 (margen / 10 ^ 2))) =
      if margen < 10000 then .ok (some (.finite (margen / 10 ^ 2 : ℚ)))
      else .error .invalidTargetMargin := by
    rw [targetMarginOf, assertValidMargin_ok (decimal.parse_toFixed2 margen), hcast]
    simp only [hle]
    split_ifs <;> rfl
  show (numberOf decimal _).bind _ = _
  rw [numberOf_toFixed2]
  show (targetMarginOf decimal _).bind _ = _
  rw [htarget]
  split_ifs with hlt
  · show (numberOf decimal _).bind _ = _
    rw [numberOf_toFixed2]
    rfl
  · rfl

/-- With a price and a margin, both of two decimals, the price is accepted when
    the margin is below 100 and is the one the price leaves. -/
theorem calculate_ok_iff {costo precio margen : ℕ} :
    (∃ result, calculate rounded decimal
        ⟨decimal.toFixed2 (costo / 10 ^ 2), some (decimal.toFixed2 (precio / 10 ^ 2)),
          some (decimal.toFixed2 (margen / 10 ^ 2))⟩ = .ok result) ↔
      margen < 10000 ∧ round (marginOf rounded (costo / 10 ^ 2) (precio / 10 ^ 2)) = margen := by
  have hassert : assertPriceMatchesMargin rounded decimal (.finite (costo / 10 ^ 2))
      (.finite (precio / 10 ^ 2)) (.finite (margen / 10 ^ 2)) = .ok () ↔
        round (marginOf rounded (costo / 10 ^ 2) (precio / 10 ^ 2)) = margen := by
    rw [assertPriceMatchesMargin_ok_iff, round_hundredths]
  rw [calculate_price_margin, ← hassert]
  split_ifs with hlt
  · simp only [bind_eq_ok, hlt, true_and]
    exact ⟨fun ⟨_, _, h, _⟩ => h, fun h => ⟨_, _, h, rfl⟩⟩
  · simp [hlt]

end ProfitabilityCalculator

end KomiSaas.Products
