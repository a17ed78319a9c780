import Mathlib

/-!
# Decimals

Non-negative rationals rounded half up, to a number of decimal places or to a
number of significant digits, and the digits they are written with.

* `nearest`: the nearest natural number, halves up.
* `toScale`: rounding at a fixed place.
* `toSignificantDigits`: rounding at the place the leading digit gives.
* `toSignificantDigits_of_lt`, `abs_toSignificantDigits_sub_le`: a decimal with
  at most `sd` digits is kept, and any other value moves by half a unit.
* `toSignificantDigits_mono`, `le_toSignificantDigits_iff`,
  `le_toSignificantDigits_of_gap`: rounding keeps the order, and which values
  reach a bound with `sd` digits.
* `nearestInt`: the nearest integer of a signed value; it is the same for every
  value close to a fraction (`nearestInt_eq_of_close`).
* `numeral`, `padded`: the digits of a number, as many as needed or a fixed
  number; `value` reads them back (`value_fixed`).
-/

namespace KomiSaas.Lib.Decimal

/-! The two bases that decimals and percentages are written over, as numerals of
any semiring. -/

instance atLeastTwo_ten : Nat.AtLeastTwo (nat_lit 10) := inferInstance

instance atLeastTwo_hundred : Nat.AtLeastTwo (nat_lit 100) := inferInstance

/-- The nearest natural number; halves go up. -/
def nearest (x : ℚ≥0) : ℕ := ⌊x + 1 / 2⌋₊

/-- `x` rounded to `dp` decimal places, in units of the last place. -/
def toScale (dp : ℕ) (x : ℚ≥0) : ℕ := nearest (x * 10 ^ dp)

/-- The unit of the last of `sd` significant digits of `x`. -/
def lastPlace (sd : ℕ) (x : ℚ≥0) : ℚ≥0 := 10 ^ (Int.log 10 x - sd + 1)

/-- `x` rounded to `sd` significant digits. -/
def toSignificantDigits (sd : ℕ) (x : ℚ≥0) : ℚ≥0 :=
  if x = 0 then 0 else nearest (x / lastPlace sd x) * lastPlace sd x

theorem nearest_natCast (n : ℕ) : nearest n = n := by
  rw [nearest, Nat.floor_eq_iff (by positivity)]
  constructor
  · exact le_self_add
  · have hhalf : (1 / 2 : ℚ≥0) < 1 := by
      rw [div_lt_one (by norm_num)]
      norm_num
    gcongr

theorem nearest_eq_iff {x : ℚ≥0} {n : ℕ} :
    nearest x = n ↔ (n : ℚ) - 1 / 2 ≤ x ∧ (x : ℚ) < n + 1 / 2 := by
  rw [nearest, Nat.floor_eq_iff (by positivity), ← NNRat.coe_le_coe, ← NNRat.coe_lt_coe]
  push_cast
  constructor <;> rintro ⟨h₁, h₂⟩ <;> constructor <;> linarith

theorem abs_nearest_sub_le (x : ℚ≥0) : |(nearest x : ℚ) - x| ≤ 1 / 2 := by
  obtain ⟨h₁, h₂⟩ := nearest_eq_iff.mp (Eq.refl (nearest x))
  rw [abs_le]
  constructor <;> linarith

theorem nearest_mono {x y : ℚ≥0} (h : x ≤ y) : nearest x ≤ nearest y :=
  Nat.floor_le_floor (by gcongr)

theorem le_nearest_iff {x : ℚ≥0} {n : ℕ} : n ≤ nearest x ↔ (n : ℚ) - 1 / 2 ≤ x := by
  rw [nearest, Nat.le_floor_iff (by positivity), ← NNRat.coe_le_coe]
  push_cast
  constructor <;> intro h <;> linarith

/-- A decimal with `dp` places is kept. -/
theorem toScale_div (dp n : ℕ) : toScale dp (n / 10 ^ dp) = n := by
  have hpow : (10 : ℚ≥0) ^ dp ≠ 0 := by positivity
  rw [toScale, div_mul_cancel₀ _ hpow, nearest_natCast]

/-- The leading digit of a decimal with `k` places and fewer than `sd` digits
    is no higher than place `sd - k`. -/
theorem log_add_lt {n k sd : ℕ} (hn : n ≠ 0) (h : n < 10 ^ sd) :
    Int.log 10 ((n : ℚ≥0) / 10 ^ k) + k < sd := by
  have hpos : (0 : ℚ≥0) < n / 10 ^ k := by positivity
  have hlt : (n : ℚ≥0) / 10 ^ k < (10 : ℚ≥0) ^ ((sd : ℤ) - k) := by
    rw [zpow_sub₀ (by norm_num), zpow_natCast, zpow_natCast]
    gcongr
    exact_mod_cast h
  have hten : ((10 : ℕ) : ℚ≥0) ^ ((sd : ℤ) - k) = (10 : ℚ≥0) ^ ((sd : ℤ) - k) := by norm_num
  have hlog := (Int.lt_zpow_iff_log_lt (by norm_num : 1 < 10) hpos).mp (hten ▸ hlt)
  omega

/-- A decimal with fewer than `sd` digits is kept. -/
theorem toSignificantDigits_of_lt {n k sd : ℕ} (h : n < 10 ^ sd) :
    toSignificantDigits sd (n / 10 ^ k) = n / 10 ^ k := by
  by_cases hn : n = 0
  · simp [toSignificantDigits, hn]
  have hx : (n : ℚ≥0) / 10 ^ k ≠ 0 := by positivity
  have hlog := log_add_lt (k := k) hn h
  set e := Int.log 10 ((n : ℚ≥0) / 10 ^ k) with he
  obtain ⟨m, hm⟩ := Int.eq_ofNat_of_zero_le (show 0 ≤ (sd : ℤ) - 1 - e - k by omega)
  have hplace : lastPlace sd ((n : ℚ≥0) / 10 ^ k) ≠ 0 := by
    rw [lastPlace]
    positivity
  have hnat : (n : ℚ≥0) / 10 ^ k / lastPlace sd (n / 10 ^ k) = ((n * 10 ^ m : ℕ) : ℚ≥0) := by
    rw [lastPlace, ← he, div_div, Nat.cast_mul, Nat.cast_pow, div_eq_iff (by positivity)]
    have hexp : (10 : ℚ≥0) ^ m * (10 ^ k * (10 : ℚ≥0) ^ (e - sd + 1)) = 1 := by
      rw [← zpow_natCast, ← zpow_natCast, ← zpow_add₀ (by norm_num), ← zpow_add₀ (by norm_num)]
      have hzero : (m : ℤ) + (k + (e - sd + 1)) = 0 := by omega
      rw [hzero, zpow_zero]
    push_cast
    rw [mul_assoc, hexp, mul_one]
  rw [toSignificantDigits, if_neg hx, hnat, nearest_natCast, ← hnat, div_mul_cancel₀ _ hplace]

/-- Rounding to `sd` digits moves a value by at most half a unit of the last of
    them. -/
theorem abs_toSignificantDigits_sub_le (sd : ℕ) (x : ℚ≥0) :
    |(toSignificantDigits sd x : ℚ) - x| ≤ x * (10 * (1 / 10 ^ sd)) / 2 := by
  by_cases hx : x = 0
  · simp [toSignificantDigits, hx]
  have hpos : 0 < x := pos_iff_ne_zero.mpr hx
  have hplace : (0 : ℚ) < lastPlace sd x := by
    rw [lastPlace]
    positivity
  have hle : (lastPlace sd x : ℚ) ≤ x * (10 * (1 / 10 ^ sd)) := by
    have hlog : ((10 : ℕ) : ℚ≥0) ^ Int.log 10 x ≤ x := Int.zpow_log_le_self (by norm_num) hpos
    have hlog' : (10 : ℚ) ^ Int.log 10 x ≤ x := by exact_mod_cast hlog
    rw [lastPlace]
    push_cast
    rw [zpow_add₀ (by norm_num), zpow_sub₀ (by norm_num), zpow_natCast, zpow_one]
    calc (10 : ℚ) ^ Int.log 10 x / 10 ^ sd * 10
        = 10 ^ Int.log 10 x * (10 * (1 / 10 ^ sd)) := by ring
      _ ≤ x * (10 * (1 / 10 ^ sd)) := by gcongr
  rw [toSignificantDigits, if_neg hx]
  have hhalf := abs_nearest_sub_le (x / lastPlace sd x)
  push_cast at hhalf ⊢
  calc |(nearest (x / lastPlace sd x) : ℚ) * lastPlace sd x - x|
      = |(nearest (x / lastPlace sd x) : ℚ) - x / lastPlace sd x| * lastPlace sd x := by
        rw [← abs_of_pos hplace, ← abs_mul, abs_of_pos hplace, sub_mul,
          div_mul_cancel₀ _ hplace.ne']
    _ ≤ 1 / 2 * lastPlace sd x := by gcongr
    _ ≤ x * (10 * (1 / 10 ^ sd)) / 2 := by linarith

/-- The powers of ten around `x`. -/
theorem zpow_log_le {x : ℚ≥0} (hx : x ≠ 0) :
    (10 : ℚ≥0) ^ Int.log 10 x ≤ x ∧ x < 10 ^ (Int.log 10 x + 1) := by
  have hpos : 0 < x := pos_iff_ne_zero.mpr hx
  constructor
  · exact_mod_cast Int.zpow_log_le_self (by norm_num : 1 < 10) hpos
  · exact_mod_cast Int.lt_zpow_succ_log_self (by norm_num : 1 < 10) x

theorem lastPlace_ne_zero (sd : ℕ) (x : ℚ≥0) : lastPlace sd x ≠ 0 := by
  rw [lastPlace]
  positivity

/-- A power of ten in units of the last digit of `x`. -/
theorem zpow_eq_mul_lastPlace (sd : ℕ) (x : ℚ≥0) {k : ℤ} {n : ℕ}
    (hn : (n : ℤ) = k - (Int.log 10 x - sd + 1)) :
    (10 : ℚ≥0) ^ k = ((10 ^ n : ℕ) : ℚ≥0) * lastPlace sd x := by
  rw [lastPlace, Nat.cast_pow, Nat.cast_ofNat, ← zpow_natCast, ← zpow_add₀ (by norm_num), hn,
    sub_add_cancel]

/-- Rounding stays between the powers of ten around the value. -/
theorem zpow_log_le_toSignificantDigits {sd : ℕ} (hsd : 0 < sd) {x : ℚ≥0} (hx : x ≠ 0) :
    (10 : ℚ≥0) ^ Int.log 10 x ≤ toSignificantDigits sd x := by
  have hscale := zpow_eq_mul_lastPlace sd x (k := Int.log 10 x) (n := sd - 1) (by omega)
  rw [toSignificantDigits, if_neg hx, hscale]
  gcongr
  rw [← nearest_natCast (10 ^ (sd - 1))]
  apply nearest_mono
  rw [le_div_iff₀ (pos_iff_ne_zero.mpr (lastPlace_ne_zero sd x)), ← hscale]
  exact (zpow_log_le hx).1

theorem toSignificantDigits_le_zpow {sd : ℕ} {x : ℚ≥0} (hx : x ≠ 0) :
    toSignificantDigits sd x ≤ 10 ^ (Int.log 10 x + 1) := by
  have hscale := zpow_eq_mul_lastPlace sd x (k := Int.log 10 x + 1) (n := sd) (by omega)
  rw [toSignificantDigits, if_neg hx, hscale]
  gcongr
  rw [← nearest_natCast (10 ^ sd)]
  apply nearest_mono
  rw [div_le_iff₀ (pos_iff_ne_zero.mpr (lastPlace_ne_zero sd x)), ← hscale]
  exact (zpow_log_le hx).2.le

theorem toSignificantDigits_eq_zero_iff {sd : ℕ} (hsd : 0 < sd) {x : ℚ≥0} :
    toSignificantDigits sd x = 0 ↔ x = 0 := by
  constructor
  · intro h
    by_contra hx
    have hle := zpow_log_le_toSignificantDigits hsd hx
    rw [h] at hle
    have hpos : (0 : ℚ≥0) < 10 ^ Int.log 10 x := by positivity
    exact absurd hle (not_le.mpr hpos)
  · intro hx
    rw [toSignificantDigits, if_pos hx]

/-- Against a unit `10 ^ e`: a value whose last digit is there is rounded to it,
    and any other is out of the decade, before and after rounding. -/
theorem toSignificantDigits_cases {sd : ℕ} (hsd : 0 < sd) (e : ℤ) (x : ℚ≥0) :
    toSignificantDigits sd x = nearest (x / 10 ^ e) * 10 ^ e ∨
      ((10 : ℚ≥0) ^ (sd + e) ≤ x ∧ (10 : ℚ≥0) ^ (sd + e) ≤ toSignificantDigits sd x) ∨
        (x < 10 ^ (sd - 1 + e) ∧ toSignificantDigits sd x ≤ 10 ^ (sd - 1 + e)) := by
  rcases eq_or_ne x 0 with rfl | hx
  · refine .inr (.inr ⟨by positivity, ?_⟩)
    rw [toSignificantDigits, if_pos rfl]
    positivity
  have hone : (1 : ℚ≥0) ≤ 10 := by norm_num
  obtain ⟨hlow, hhigh⟩ := zpow_log_le hx
  rcases lt_trichotomy (Int.log 10 x - sd + 1) e with hlt | heq | hgt
  · have hle : (10 : ℚ≥0) ^ (Int.log 10 x + 1) ≤ 10 ^ ((sd : ℤ) - 1 + e) :=
      zpow_le_zpow_right₀ hone (by omega)
    exact .inr (.inr ⟨hhigh.trans_le hle, (toSignificantDigits_le_zpow hx).trans hle⟩)
  · exact .inl (by rw [toSignificantDigits, if_neg hx, lastPlace, heq])
  · have hle : (10 : ℚ≥0) ^ ((sd : ℤ) + e) ≤ 10 ^ Int.log 10 x :=
      zpow_le_zpow_right₀ hone (by omega)
    exact .inr (.inl ⟨hle.trans hlow, hle.trans (zpow_log_le_toSignificantDigits hsd hx)⟩)

theorem toSignificantDigits_mono {sd : ℕ} (hsd : 0 < sd) {x y : ℚ≥0} (h : x ≤ y) :
    toSignificantDigits sd x ≤ toSignificantDigits sd y := by
  rcases eq_or_ne y 0 with rfl | hy
  · rw [le_antisymm h (zero_le)]
  set e := Int.log 10 y - sd + 1 with he
  rcases toSignificantDigits_cases hsd e x with hx | ⟨hx, -⟩ | ⟨-, hx⟩
  · rw [hx, toSignificantDigits, if_neg hy, lastPlace, ← he]
    gcongr
    exact nearest_mono (by gcongr)
  · rw [show (sd : ℤ) + e = Int.log 10 y + 1 by omega] at hx
    exact absurd (hx.trans h) (not_le.mpr (zpow_log_le hy).2)
  · rw [show (sd : ℤ) - 1 + e = Int.log 10 y by omega] at hx
    exact hx.trans (zpow_log_le_toSignificantDigits hsd hy)

/-- The decade of the numbers with `sd` digits, in units of `10 ^ e`. -/
theorem bounds_of_digits {sd n : ℕ} (e : ℤ) (hsd : 0 < sd) (hlow : 10 ^ (sd - 1) < n)
    (hhigh : n ≤ 10 ^ sd) :
    (10 : ℚ) ^ (sd - 1 + e) ≤ (n - 1) * 10 ^ e ∧ (n * 10 ^ e : ℚ) ≤ 10 ^ (sd + e) := by
  have hten : (10 : ℚ) ≠ 0 := by norm_num
  have hpow : (0 : ℚ) < 10 ^ e := by positivity
  have hlow' : (10 : ℚ) ^ (sd - 1) + 1 ≤ n := by exact_mod_cast hlow
  have hhigh' : (n : ℚ) ≤ 10 ^ sd := by exact_mod_cast hhigh
  have hexp : ((sd : ℤ) - 1) = ((sd - 1 : ℕ) : ℤ) := by omega
  constructor
  · rw [zpow_add₀ hten, hexp, zpow_natCast]
    gcongr
    linarith
  · rw [zpow_add₀ hten, zpow_natCast]
    gcongr

/-- A bound with `sd` digits holds of the rounded value exactly when the value
    is at most half a unit below it. -/
theorem le_toSignificantDigits_iff {sd n : ℕ} {e : ℤ} {x : ℚ≥0} (hsd : 0 < sd)
    (hlow : 10 ^ (sd - 1) < n) (hhigh : n ≤ 10 ^ sd) :
    (n * 10 ^ e : ℚ) ≤ toSignificantDigits sd x ↔ ((n : ℚ) - 1 / 2) * 10 ^ e ≤ x := by
  have hpow : (0 : ℚ) < 10 ^ e := by positivity
  obtain ⟨hbelow, habove⟩ := bounds_of_digits e hsd hlow hhigh
  rcases toSignificantDigits_cases hsd e x with h | ⟨hx, h⟩ | ⟨hx, h⟩
  · rw [h, NNRat.cast_mul, NNRat.cast_zpow, NNRat.cast_natCast, NNRat.cast_ofNat,
      mul_le_mul_iff_of_pos_right hpow, Nat.cast_le, le_nearest_iff, NNRat.cast_div,
      NNRat.cast_zpow, NNRat.cast_ofNat, le_div_iff₀ hpow]
  · have hx' : (10 : ℚ) ^ (sd + e) ≤ x := by exact_mod_cast hx
    have h' : (10 : ℚ) ^ (sd + e) ≤ toSignificantDigits sd x := by exact_mod_cast h
    refine iff_of_true (habove.trans h') ?_
    nlinarith
  · have hx' : (x : ℚ) < 10 ^ (sd - 1 + e) := by exact_mod_cast hx
    have h' : (toSignificantDigits sd x : ℚ) ≤ 10 ^ (sd - 1 + e) := by exact_mod_cast h
    refine iff_of_false ?_ ?_
    · nlinarith
    · nlinarith

/-- No rounded value lies strictly between two neighbours with `sd` digits. -/
theorem le_toSignificantDigits_of_gap {sd n : ℕ} {e : ℤ} {x : ℚ≥0} (hsd : 0 < sd)
    (hlow : 10 ^ (sd - 1) < n) (hhigh : n ≤ 10 ^ sd)
    (h : ((n : ℚ) - 1 / 2) * 10 ^ e ≤ toSignificantDigits sd x) :
    (n * 10 ^ e : ℚ) ≤ toSignificantDigits sd x := by
  have hpow : (0 : ℚ) < 10 ^ e := by positivity
  obtain ⟨hbelow, habove⟩ := bounds_of_digits e hsd hlow hhigh
  rcases toSignificantDigits_cases hsd e x with hx | ⟨-, hx⟩ | ⟨-, hx⟩
  · rw [hx, NNRat.cast_mul, NNRat.cast_zpow, NNRat.cast_natCast, NNRat.cast_ofNat] at h ⊢
    rw [mul_le_mul_iff_of_pos_right hpow] at h ⊢
    have hlt : (n : ℚ) < nearest (x / 10 ^ e) + 1 := by linarith
    exact_mod_cast Nat.lt_succ_iff.mp (by exact_mod_cast hlt)
  · have hx' : (10 : ℚ) ^ (sd + e) ≤ toSignificantDigits sd x := by exact_mod_cast hx
    exact habove.trans hx'
  · have hx' : (toSignificantDigits sd x : ℚ) ≤ 10 ^ (sd - 1 + e) := by exact_mod_cast hx
    nlinarith

/-! ## Signed values -/

/-- The nearest integer; halves go away from zero. -/
def nearestInt (x : ℚ) : ℤ := if x < 0 then -⌊-x + 1 / 2⌋ else ⌊x + 1 / 2⌋

theorem nearestInt_coe (x : ℚ≥0) : nearestInt x = nearest x := by
  have hnot : ¬ (x : ℚ) < 0 := not_lt.mpr x.cast_nonneg
  have hcast : ((x + 1 / 2 : ℚ≥0) : ℚ) = (x : ℚ) + 1 / 2 := by push_cast; ring
  rw [nearestInt, if_neg hnot, nearest, ← hcast]
  rw [← NNRat.floor_coe]
  exact (Int.natCast_floor_eq_floor (NNRat.cast_nonneg _)).symm

theorem nearestInt_eq_iff {x : ℚ} {n : ℤ} (hn : 0 < n) :
    nearestInt x = n ↔ (n : ℚ) - 1 / 2 ≤ x ∧ x < n + 1 / 2 := by
  have hone : (1 : ℚ) ≤ n := by exact_mod_cast hn
  unfold nearestInt
  split_ifs with hx
  · have hfloor : 0 ≤ ⌊-x + 1 / 2⌋ := Int.floor_nonneg.mpr (by linarith)
    constructor
    · intro h
      omega
    · rintro ⟨h, -⟩
      linarith
  · rw [Int.floor_eq_iff]
    constructor <;> rintro ⟨h₁, h₂⟩ <;> constructor <;> linarith

theorem nearestInt_eq_zero_iff {x : ℚ} : nearestInt x = 0 ↔ -(1 / 2) < x ∧ x < 1 / 2 := by
  unfold nearestInt
  split_ifs with hx
  · rw [neg_eq_zero, Int.floor_eq_iff]
    push_cast
    constructor <;> rintro ⟨h₁, h₂⟩ <;> constructor <;> linarith
  · rw [Int.floor_eq_iff]
    push_cast
    constructor <;> rintro ⟨h₁, h₂⟩ <;> constructor <;> linarith

/-- No integer is nearer than half a unit but the nearest one. -/
theorem nearestInt_eq_of_abs_lt {x : ℚ} {n : ℤ} (h : |x - n| < 1 / 2) : nearestInt x = n := by
  obtain ⟨hlow, hhigh⟩ := abs_lt.mp h
  unfold nearestInt
  split_ifs
  · rw [neg_eq_iff_eq_neg, Int.floor_eq_iff]
    push_cast
    constructor <;> linarith
  · rw [Int.floor_eq_iff]
    constructor <;> linarith

theorem abs_sub_nearestInt_le (x : ℚ) : |x - nearestInt x| ≤ 1 / 2 := by
  unfold nearestInt
  split_ifs
  · have hlow := Int.floor_le (-x + 1 / 2)
    have hhigh := Int.lt_floor_add_one (-x + 1 / 2)
    rw [abs_le]
    push_cast
    constructor <;> linarith
  · have hlow := Int.floor_le (x + 1 / 2)
    have hhigh := Int.lt_floor_add_one (x + 1 / 2)
    rw [abs_le]
    constructor <;> linarith

/-- A value close enough to a fraction rounds as the fraction does; where the
    fraction is halfway between two integers, it has to be the same. -/
theorem nearestInt_eq_of_close {x x' : ℚ} {a b : ℕ} (hb : 0 < b) (hx : x = a / b)
    (hclose : |x' - x| < 1 / (2 * b)) (hhalf : ∀ n : ℕ, x = n - 1 / 2 → x' = x) :
    nearestInt x' = nearestInt x := by
  have hb' : (0 : ℚ) < b := by exact_mod_cast hb
  have hnonneg : 0 ≤ x := by
    rw [hx]
    positivity
  obtain ⟨hlow, hhigh⟩ := abs_lt.mp hclose
  have hgap : 1 / (2 * (b : ℚ)) ≤ 1 / 2 := by
    rw [div_le_div_iff_of_pos_left one_pos (by positivity) (by norm_num)]
    have : (1 : ℚ) ≤ b := by exact_mod_cast hb
    linarith
  obtain ⟨n, hn⟩ : ∃ n : ℕ, nearestInt x = n := by
    refine ⟨nearest x.toNNRat, ?_⟩
    rw [← nearestInt_coe, Rat.coe_toNNRat x hnonneg]
  have habove : x < n + 1 / 2 → x' < n + 1 / 2 := by
    intro h
    have hint : 2 * a + 1 ≤ (2 * n + 1) * b := by
      rw [hx, div_lt_iff₀ hb'] at h
      have : (2 * a : ℚ) < (2 * n + 1) * b := by linarith
      exact_mod_cast this
    have hle : x + 1 / (2 * b) ≤ n + 1 / 2 := by
      rw [hx, div_add_div _ _ hb'.ne' (by positivity), div_le_iff₀ (by positivity)]
      have : (2 * a + 1 : ℚ) ≤ (2 * n + 1) * b := by exact_mod_cast hint
      nlinarith
    linarith
  have hbelow : (n : ℚ) - 1 / 2 ≤ x → (n : ℚ) - 1 / 2 ≤ x' := by
    intro h
    rcases h.eq_or_lt with h | h
    · rw [hhalf n h.symm]
      exact h.le
    · have hint : 2 * n * b + 1 ≤ 2 * a + b := by
        rw [hx, lt_div_iff₀ hb'] at h
        have : (2 * n * b : ℚ) < 2 * a + b := by linarith
        exact_mod_cast this
      have hle : (n : ℚ) - 1 / 2 ≤ x - 1 / (2 * b) := by
        rw [hx, div_sub_div _ _ hb'.ne' (by positivity), le_div_iff₀ (by positivity)]
        have : (2 * n * b + 1 : ℚ) ≤ 2 * a + b := by exact_mod_cast hint
        nlinarith
      linarith
  rw [hn]
  rcases n.eq_zero_or_pos with rfl | hpos
  · rw [Nat.cast_zero, nearestInt_eq_zero_iff] at hn
    rw [Nat.cast_zero, nearestInt_eq_zero_iff]
    refine ⟨by linarith, ?_⟩
    simpa using habove (by simpa using hn.2)
  · have hpos' : (0 : ℤ) < n := by exact_mod_cast hpos
    rw [nearestInt_eq_iff hpos'] at hn
    rw [nearestInt_eq_iff hpos']
    exact ⟨hbelow hn.1, habove hn.2⟩

/-! ## Digits -/

/-- The number that digits, most significant first, stand for. -/
def value (ds : List ℕ) : ℕ := Nat.ofDigits 10 ds.reverse

/-- The digits of `n` without leading zeros. -/
def numeral (n : ℕ) : List ℕ := if n = 0 then [0] else (Nat.digits 10 n).reverse

/-- The last `k` digits of `n`. -/
def padded : ℕ → ℕ → List ℕ
  | 0, _ => []
  | k + 1, n => padded k (n / 10) ++ [n % 10]

theorem value_append (xs ys : List ℕ) :
    value (xs ++ ys) = value xs * 10 ^ ys.length + value ys := by
  unfold value
  rw [List.reverse_append, Nat.ofDigits_append, List.length_reverse]
  ring

@[simp] theorem value_singleton (d : ℕ) : value [d] = d := by simp [value]

theorem value_numeral (n : ℕ) : value (numeral n) = n := by
  unfold numeral
  split_ifs with h
  · simp [h]
  · rw [value, List.reverse_reverse, Nat.ofDigits_digits]

@[simp] theorem length_padded (k n : ℕ) : (padded k n).length = k := by
  induction k generalizing n with
  | zero => rfl
  | succ k ih => simp [padded, ih]

theorem value_padded (k n : ℕ) : value (padded k n) = n % 10 ^ k := by
  induction k generalizing n with
  | zero => simp [padded, value, Nat.mod_one]
  | succ k ih =>
    rw [padded, value_append, ih, value_singleton, List.length_singleton, pow_one, pow_succ',
      Nat.mod_mul]
    omega

theorem lt_ten_of_mem_numeral {n d : ℕ} (h : d ∈ numeral n) : d < 10 := by
  unfold numeral at h
  split_ifs at h with hn
  · rw [List.mem_singleton.mp h]
    norm_num
  · exact Nat.digits_lt_base (by norm_num) (List.mem_reverse.mp h)

theorem lt_ten_of_mem_padded {k n d : ℕ} (h : d ∈ padded k n) : d < 10 := by
  induction k generalizing n with
  | zero => simp [padded] at h
  | succ k ih =>
    rcases List.mem_append.mp h with h | h
    · exact ih h
    · rw [List.mem_singleton.mp h]
      omega

theorem numeral_ne_nil (n : ℕ) : numeral n ≠ [] := by
  unfold numeral
  split_ifs with h
  · exact List.cons_ne_nil _ _
  · rw [Ne, List.reverse_eq_nil_iff, Nat.digits_eq_nil_iff_eq_zero]
    exact h

/-- The whole part of `n / 10 ^ k` and its `k` decimals, read together, give `n`. -/
theorem value_fixed (k n : ℕ) : value (numeral (n / 10 ^ k) ++ padded k n) = n := by
  rw [value_append, value_numeral, value_padded, length_padded]
  exact Nat.div_add_mod' n (10 ^ k)

end KomiSaas.Lib.Decimal
