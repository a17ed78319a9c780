import KomiSaas.Shared.DecimalJs

/-!
# `Quantity`

`shared/value-object/quantity.value-object.ts`. The private constructor rounds
to three decimals, so a quantity is a number of thousandths. Sums and
differences first go through the package's 20 significant digits, which changes
nothing below `10 ^ 20` thousandths (`add_milli`, `subtract_ok`).
-/

namespace KomiSaas.Shared

open KomiSaas.Lib.Decimal

/-- What `InvalidQuantityError` is thrown for. -/
inductive InvalidQuantityError where
  | notNumeric (amount : JsString)
  | negative (amount : JsString)
  | negativeResult
  deriving DecidableEq

namespace InvalidQuantityError

/-- The `code` of the exception. -/
def code (_ : InvalidQuantityError) : JsString := js "1015"

/-- Its `detail`. -/
def detail : InvalidQuantityError → JsString
  | .notNumeric amount => js "Cantidad inválida: \"" ++ amount ++ js "\"."
  | .negative amount => js "La cantidad no puede ser negativa: \"" ++ amount ++ js "\"."
  | .negativeResult => js "La resta resultaría en una cantidad negativa."

end InvalidQuantityError

/-- A stock quantity, in thousandths. -/
structure Quantity where
  milli : ℕ
  deriving DecidableEq

namespace Quantity

/-- The private field `value`. -/
def value (q : Quantity) : ℚ≥0 := q.milli / 10 ^ 3

/-- The private constructor (lines 28–30). -/
def ofDecimal (x : ℚ≥0) : Quantity := ⟨toScale 3 x⟩

/-- `of` (lines 33–51). -/
def of (decimal : DecimalJs) (amount : JsString) : Except InvalidQuantityError Quantity :=
  match decimal.parse amount with
  | none => .error (.notNumeric amount)
  | some parsed =>
    if !parsed.isFinite then .error (.notNumeric amount)
    else if parsed.isNegative then .error (.negative amount)
    else .ok (ofDecimal parsed.magnitude)

/-- `zero` (lines 54–56). -/
def zero : Quantity := ⟨0⟩

/-- `add` (lines 59–61). -/
def add (q other : Quantity) : Quantity :=
  ofDecimal (toSignificantDigits decimalPrecision (q.value + other.value))

/-- `subtract` (lines 64–72). -/
def subtract (q other : Quantity) : Except InvalidQuantityError Quantity :=
  if q.value < other.value then .error .negativeResult
  else .ok (ofDecimal (toSignificantDigits decimalPrecision (q.value - other.value)))

/-- `isZero` (lines 75–77). -/
def isZero (q : Quantity) : Bool := q.milli = 0

/-- `isGreaterThan` (lines 80–82). -/
def isGreaterThan (q other : Quantity) : Bool := other.value < q.value

/-- `getValue` (lines 85–87). -/
def getValue (decimal : DecimalJs) (q : Quantity) : JsString := decimal.toString q.value

variable {decimal : DecimalJs} {q other : Quantity}

theorem value_lt_value : q.value < other.value ↔ q.milli < other.milli := by
  unfold value
  rw [div_lt_div_iff_of_pos_right (by positivity), Nat.cast_lt]

@[simp] theorem isGreaterThan_iff : q.isGreaterThan other = true ↔ other.milli < q.milli := by
  rw [isGreaterThan, decide_eq_true_iff, value_lt_value]

@[simp] theorem isZero_iff : q.isZero = true ↔ q.milli = 0 := by simp [isZero]

/-- What a quantity prints is read back as that quantity. -/
theorem of_getValue : of decimal (q.getValue decimal) = .ok q := by
  unfold of getValue value
  rw [decimal.parse_toString]
  simp [Decimal.isFinite, Decimal.isNegative, Decimal.magnitude, ofDecimal, toScale_div]

/-- A sum that fits the precision is exact. -/
theorem add_milli (hfit : q.milli + other.milli < 10 ^ decimalPrecision) :
    (q.add other).milli = q.milli + other.milli := by
  have hsum : q.value + other.value = ((q.milli + other.milli : ℕ) : ℚ≥0) / 10 ^ 3 := by
    unfold value
    rw [← add_div, Nat.cast_add]
  show toScale 3 (toSignificantDigits decimalPrecision (q.value + other.value)) = _
  rw [hsum, toSignificantDigits_of_lt hfit, toScale_div]

/-- A sum of something is never rounded to nothing. -/
theorem add_pos (h : 0 < q.milli + other.milli) : 0 < (q.add other).milli := by
  have hle : ((1 : ℕ) : ℚ≥0) / 10 ^ 3 ≤ q.value + other.value := by
    unfold value
    rw [← add_div]
    gcongr
    exact_mod_cast h
  have hmono := toSignificantDigits_mono (show 0 < decimalPrecision by decide) hle
  rw [toSignificantDigits_of_lt (by decide)] at hmono
  show 0 < toScale 3 (toSignificantDigits decimalPrecision (q.value + other.value))
  calc 0 < toScale 3 ((1 : ℕ) / 10 ^ 3) := by rw [toScale_div]; exact one_pos
    _ ≤ toScale 3 (toSignificantDigits decimalPrecision (q.value + other.value)) :=
      nearest_mono (by gcongr)

/-- A difference that fits the precision is exact. -/
theorem subtract_ok (hle : other.milli ≤ q.milli) (hfit : q.milli < 10 ^ decimalPrecision) :
    q.subtract other = .ok ⟨q.milli - other.milli⟩ := by
  have hlt : ¬ q.value < other.value := by
    rw [value_lt_value]
    omega
  have hsub : q.value - other.value = ((q.milli - other.milli : ℕ) : ℚ≥0) / 10 ^ 3 := by
    unfold value
    rw [Nat.cast_tsub, tsub_div]
  rw [subtract, if_neg hlt, hsub, toSignificantDigits_of_lt (by omega), ofDecimal, toScale_div]

/-- A difference that is not negative is no error, exact or not. -/
theorem exists_subtract (hle : other.milli ≤ q.milli) : ∃ r, q.subtract other = .ok r := by
  have hlt : ¬ q.value < other.value := by
    rw [value_lt_value]
    omega
  exact ⟨_, if_neg hlt⟩

end Quantity

end KomiSaas.Shared
