import KomiSaas.Shared.DecimalJs

/-!
# The arithmetic of `decimal.js`

`minus`, `times` and `div` on every value of the package, with `NaN` and the
infinities. `rounded` is what an operation returns for its exact result.

A zero has no sign here. The package tells `-0` from `0` where it divides by
them, and nothing that uses this module divides by a zero that it did not
compute as a difference, which is never `-0`.
-/

namespace KomiSaas.Shared

/-- A value of the package, or what is made of one that is finite. -/
inductive Number (α : Type) where
  | nan
  | infinity (negative : Bool)
  | finite (value : α)
  deriving DecidableEq

/-- The number that was read from a text. -/
def Decimal.toNumber : Decimal → Number ℚ
  | .nan => .nan
  | .infinity negative => .infinity negative
  | .finite negative magnitude => .finite (if negative then -magnitude else magnitude)

namespace Number

/-- What is done to a finite value. -/
def map {α β : Type} (f : α → β) : Number α → Number β
  | .nan => .nan
  | .infinity negative => .infinity negative
  | .finite value => .finite (f value)

/-- `isZero()`. -/
def isZero : Number ℚ → Bool
  | .finite x => x = 0
  | _ => false

variable (rounded : ℚ → ℚ)

/-- `minus`. -/
def minus : Number ℚ → Number ℚ → Number ℚ
  | .finite x, .finite y => .finite (rounded (x - y))
  | .finite _, .infinity negative => .infinity (!negative)
  | .infinity negative, .finite _ => .infinity negative
  | .infinity negative, .infinity other => if negative = other then .nan else .infinity negative
  | _, _ => .nan

/-- `times`. -/
def times : Number ℚ → Number ℚ → Number ℚ
  | .finite x, .finite y => .finite (rounded (x * y))
  | .finite x, .infinity negative => if x = 0 then .nan else .infinity (negative ^^ decide (x < 0))
  | .infinity negative, .finite y => if y = 0 then .nan else .infinity (negative ^^ decide (y < 0))
  | .infinity negative, .infinity other => .infinity (negative ^^ other)
  | _, _ => .nan

/-- `div`. -/
def div : Number ℚ → Number ℚ → Number ℚ
  | .finite x, .finite y =>
    if y ≠ 0 then .finite (rounded (x / y)) else if x = 0 then .nan else .infinity (x < 0)
  | .finite _, .infinity _ => .finite 0
  | .infinity negative, .finite y => .infinity (negative ^^ decide (y < 0))
  | _, _ => .nan

variable {rounded} {x y : ℚ} {a : Number ℚ}

@[simp] theorem isZero_finite : (Number.finite x).isZero = decide (x = 0) := rfl

@[simp] theorem isZero_nan : (Number.nan : Number ℚ).isZero = false := rfl

@[simp] theorem isZero_infinity {negative : Bool} :
    (Number.infinity negative : Number ℚ).isZero = false := rfl

@[simp] theorem minus_finite : minus rounded (.finite x) (.finite y) = .finite (rounded (x - y)) :=
  rfl

@[simp] theorem times_finite : times rounded (.finite x) (.finite y) = .finite (rounded (x * y)) :=
  rfl

theorem div_finite (hy : y ≠ 0) :
    div rounded (.finite x) (.finite y) = .finite (rounded (x / y)) := if_pos hy

theorem div_zero :
    div rounded (.finite x) (.finite 0) = if x = 0 then .nan else .infinity (x < 0) := by
  simp [div]

/-! ## `NaN` goes through -/

@[simp] theorem minus_nan_left : minus rounded .nan a = .nan := by cases a <;> rfl

@[simp] theorem minus_nan_right : minus rounded a .nan = .nan := by cases a <;> rfl

@[simp] theorem times_nan_left : times rounded .nan a = .nan := by cases a <;> rfl

@[simp] theorem div_nan_left : div rounded .nan a = .nan := by cases a <;> rfl

@[simp] theorem div_nan_right : div rounded a .nan = .nan := by cases a <;> rfl

end Number

end KomiSaas.Shared
