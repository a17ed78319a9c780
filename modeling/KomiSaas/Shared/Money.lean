import KomiSaas.Shared.Quantity

/-!
# `Money`

`shared/value-object/money.value-object.ts`. The private constructor rounds to
two decimals, and its only callers pass a currency that `of` accepted, so an
amount is a number of cents with three letters from `A` to `Z`.
-/

namespace KomiSaas.Shared

open KomiSaas.Lib.Decimal

/-- `/^[A-Z]{3}$/`. -/
def isIsoCode (code : JsString) : Bool := code.length = 3 && code.all isCapital

theorem isIsoCode_cop : isIsoCode (js "COP") = true := by decide

/-- What `InvalidMoneyError`, `BasePriceError` and `CurrencyMismatchError` are
    thrown for. -/
inductive MoneyError where
  | invalidCurrency (currency : JsString)
  | notNumeric (amount : JsString)
  | negative (amount : JsString)
  | nonPositiveDivisor
  | negativeFactor
  | currencyMismatch (currency other : JsString)
  deriving DecidableEq

namespace MoneyError

/-- The `code` of each exception. -/
def code : MoneyError → JsString
  | .negative _ => js "1016"
  | .currencyMismatch .. => js "1004"
  | _ => js "1002"

/-- The `detail` of each exception. -/
def detail : MoneyError → JsString
  | .invalidCurrency currency =>
    js "Moneda inválida: \"" ++ currency ++ js "\" (use ISO de 3 letras)."
  | .notNumeric amount => js "Monto inválido: \"" ++ amount ++ js "\"."
  | .negative amount => js "El monto no puede ser negativo: \"" ++ amount ++ js "\"."
  | .nonPositiveDivisor => js "El divisor debe ser mayor a cero."
  | .negativeFactor => js "El multiplicador no puede ser negativo."
  | .currencyMismatch currency other =>
    js "No se puede operar Money con monedas distintas: " ++ currency ++ js " vs " ++ other

end MoneyError

/-- An amount in cents and its currency. -/
@[ext] structure Money where
  cents : ℕ
  currency : JsString
  iso : isIsoCode currency = true
  deriving DecidableEq

namespace Money

/-- The private field `amount`. -/
def amount (m : Money) : ℚ≥0 := m.cents / 10 ^ 2

/-- The private constructor (lines 55–58). -/
def ofDecimal (x : ℚ≥0) (currency : JsString) (iso : isIsoCode currency = true) : Money :=
  ⟨toScale 2 x, currency, iso⟩

/-- `of` (lines 70–96). -/
def of (decimal : DecimalJs) (amount currency : JsString) : Except MoneyError Money :=
  let code := toUpperCase (trim currency)
  if iso : isIsoCode code = true then
    match decimal.parse amount with
    | none => .error (.notNumeric amount)
    | some parsed =>
      if !parsed.isFinite then .error (.notNumeric amount)
      else if parsed.isNegative then .error (.negative amount)
      else .ok (ofDecimal parsed.magnitude code iso)
  else .error (.invalidCurrency currency)

/-- `zero` (lines 104–106). -/
def zero (decimal : DecimalJs) (currency : JsString) : Except MoneyError Money :=
  of decimal (js "0") currency

/-- `add` (lines 116–119). -/
def add (m other : Money) : Except MoneyError Money :=
  if m.currency ≠ other.currency then .error (.currencyMismatch m.currency other.currency)
  else
    .ok (ofDecimal (toSignificantDigits decimalPrecision (m.amount + other.amount)) m.currency
      m.iso)

/-- `multiply` (lines 147–155). The factor is always the text of a `Quantity`,
    so it parses and is finite. -/
def multiply (decimal : DecimalJs) (m : Money) (factor : JsString) : Except MoneyError Money :=
  match decimal.parse factor with
  | some (.finite false x) =>
    .ok (ofDecimal (toSignificantDigits decimalPrecision (m.amount * x)) m.currency m.iso)
  | _ => .error .negativeFactor

/-- `divide` (lines 164–172). The divisor is always the text of a `Quantity`,
    so it parses and is finite. -/
def divide (decimal : DecimalJs) (m : Money) (divisor : JsString) : Except MoneyError Money :=
  match decimal.parse divisor with
  | some (.finite negative x) =>
    if negative ∨ x = 0 then .error .nonPositiveDivisor
    else .ok (ofDecimal (toSignificantDigits decimalPrecision (m.amount / x)) m.currency m.iso)
  | _ => .error .nonPositiveDivisor

/-- `equals` (lines 182–188). -/
def equals (m other : Money) : Bool :=
  m.amount = other.amount && m.currency = other.currency

/-- `getAmount` (lines 198–200). -/
def getAmount (decimal : DecimalJs) (m : Money) : JsString := decimal.toFixed2 m.amount

variable {decimal : DecimalJs} {m : Money}

/-- A currency code is already trimmed and in capitals. -/
theorem normalized_of_isIsoCode {code : JsString} (h : isIsoCode code = true) :
    toUpperCase (trim code) = code := by
  have hcapital : ∀ c ∈ code, isCapital c = true :=
    List.all_eq_true.mp (Bool.and_eq_true_iff.mp h).2
  rw [trim_of_isCapital hcapital, toUpperCase_of_isCapital hcapital]

theorem currency_ne_nil : m.currency ≠ [] := by
  intro h
  have hiso := m.iso
  rw [h] at hiso
  cases hiso

theorem getAmount_ne_nil : m.getAmount decimal ≠ [] := by
  intro h
  have hparse := decimal.parse_toFixed2 m.cents
  rw [show decimal.toFixed2 (m.cents / 10 ^ 2) = [] from h, decimal.parse_empty] at hparse
  cases hparse

/-- What an amount prints, with its currency, is read back as that amount. -/
theorem of_getAmount : of decimal (m.getAmount decimal) m.currency = .ok m := by
  have hcode := normalized_of_isIsoCode m.iso
  have hparse : decimal.parse (m.getAmount decimal) = some (.finite false m.amount) :=
    decimal.parse_toFixed2 m.cents
  unfold of
  simp only [hcode, m.iso, hparse, Decimal.isFinite, Decimal.isNegative, Decimal.magnitude,
    ofDecimal, amount, toScale_div]
  rfl

/-- The zero of a currency, where the package reads it as zero. -/
theorem zero_ok (hzero : decimal.parse (js "0") = some (.finite false 0)) {currency : JsString}
    (iso : isIsoCode currency = true) : zero decimal currency = .ok ⟨0, currency, iso⟩ := by
  have hcode := normalized_of_isIsoCode iso
  have hround : toScale 2 0 = 0 := by decide +kernel
  unfold zero of
  simp only [hcode, iso, hzero, Decimal.isFinite, Decimal.isNegative, Decimal.magnitude, ofDecimal,
    hround]
  rfl

/-- A sum that fits the precision is exact. -/
theorem add_ok {other : Money} (hcurrency : m.currency = other.currency)
    (hfit : m.cents + other.cents < 10 ^ decimalPrecision) :
    m.add other = .ok ⟨m.cents + other.cents, m.currency, m.iso⟩ := by
  have hsum : m.amount + other.amount = ((m.cents + other.cents : ℕ) : ℚ≥0) / 10 ^ 2 := by
    unfold amount
    rw [← add_div, Nat.cast_add]
  rw [add, if_neg (not_not.mpr hcurrency), hsum, toSignificantDigits_of_lt hfit, ofDecimal,
    toScale_div]

/-! ## By a quantity -/

variable {q : Quantity}

theorem multiply_getValue : m.multiply decimal (q.getValue decimal) =
    .ok (ofDecimal (toSignificantDigits decimalPrecision (m.amount * q.value)) m.currency
      m.iso) := by
  rw [multiply, Quantity.getValue, Quantity.value, decimal.parse_toString]

theorem divide_getValue : m.divide decimal (q.getValue decimal) =
    if q.milli = 0 then .error .nonPositiveDivisor
    else .ok (ofDecimal (toSignificantDigits decimalPrecision (m.amount / q.value)) m.currency
      m.iso) := by
  rw [divide, Quantity.getValue, Quantity.value, decimal.parse_toString]
  simp

/-- The cents of a result of the package: half a cent from rounding to cents, and
    the part in `2 * 10 ^ 19` that the package drops. -/
theorem abs_cents_sub_le (x : ℚ≥0) (currency : JsString) (iso : isIsoCode currency = true) :
    |((ofDecimal (toSignificantDigits decimalPrecision x) currency iso).cents : ℚ) -
        (x : ℚ) * 10 ^ 2| ≤ 1 / 2 + (x : ℚ) * 10 ^ 2 * (1 / (2 * 10 ^ 19)) := by
  set y := toSignificantDigits decimalPrecision x with hy
  have hround : |(toScale 2 y : ℚ) - (y : ℚ) * 10 ^ 2| ≤ 1 / 2 := by
    have h := abs_nearest_sub_le (y * 10 ^ 2)
    push_cast at h
    exact h
  have hdigits : |(y : ℚ) - x| ≤ x * (1 / (2 * 10 ^ 19)) := by
    refine (abs_toSignificantDigits_sub_le decimalPrecision x).trans_eq ?_
    rw [decimalPrecision]
    ring
  show |(toScale 2 y : ℚ) - (x : ℚ) * 10 ^ 2| ≤ _
  rw [abs_le] at hround hdigits ⊢
  constructor <;> linarith [hround.1, hround.2, hdigits.1, hdigits.2]

end Money

end KomiSaas.Shared
