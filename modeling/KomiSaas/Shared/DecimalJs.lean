import KomiSaas.Shared.Js

/-!
# `decimal.js`

The package behind `Quantity` and `Money`, as a parameter: how it reads and
prints numbers. Its arithmetic is that of `Lib.Decimal`, with the package's
default configuration (20 significant digits, `ROUND_HALF_UP`), which nothing
in the repository changes.

`plainDecimal` is such a package, restricted to plain decimal notation.
-/

namespace KomiSaas.Shared

open KomiSaas.Lib.Decimal

/-- A value of `Decimal`: `NaN`, an infinity, or a sign and a magnitude. -/
inductive Decimal where
  | nan
  | infinity (negative : Bool)
  | finite (negative : Bool) (magnitude : ℚ≥0)
  deriving DecidableEq

namespace Decimal

/-- `isFinite()`. -/
def isFinite : Decimal → Bool
  | .finite .. => true
  | _ => false

/-- `isNegative()`, which is true of `-0`. -/
def isNegative : Decimal → Bool
  | .nan => false
  | .infinity negative => negative
  | .finite negative _ => negative

/-- The magnitude of a finite value. -/
def magnitude : Decimal → ℚ≥0
  | .finite _ magnitude => magnitude
  | _ => 0

end Decimal

/-- The default `precision` of the package. -/
def decimalPrecision : ℕ := 20

/-- What an operation of the package returns for its exact result. -/
def toPrecision (x : ℚ) : ℚ :=
  if x < 0 then -toSignificantDigits decimalPrecision (-x).toNNRat
  else toSignificantDigits decimalPrecision x.toNNRat

/-- How the package reads and prints numbers. -/
structure DecimalJs where
  /-- `new Decimal(text)`; `none` where it throws. -/
  parse : JsString → Option Decimal
  /-- `toString()` of a value that is not negative. -/
  toString : ℚ≥0 → JsString
  /-- `toFixed(2)` of a value that is not negative. -/
  toFixed2 : ℚ≥0 → JsString
  /-- The empty text is no number. -/
  parse_empty : parse [] = none
  /-- A printed number is read back, here with three decimals. -/
  parse_toString (n : ℕ) : parse (toString (n / 10 ^ 3)) = some (.finite false (n / 10 ^ 3))
  /-- The same for `toFixed(2)`, which keeps two. -/
  parse_toFixed2 (n : ℕ) : parse (toFixed2 (n / 10 ^ 2)) = some (.finite false (n / 10 ^ 2))

namespace DecimalJs

variable {decimal : DecimalJs} {m n : ℕ}

/-- Different numbers are printed differently. -/
theorem toString_inj :
    decimal.toString (m / 10 ^ 3) = decimal.toString (n / 10 ^ 3) ↔ m = n := by
  refine ⟨fun h => ?_, fun h => by rw [h]⟩
  have hparse := decimal.parse_toString m
  rw [h, decimal.parse_toString n] at hparse
  have hquotient := (Decimal.finite.inj (Option.some.inj hparse)).2
  rw [div_left_inj' (by norm_num)] at hquotient
  exact (Nat.cast_injective hquotient).symm

theorem toFixed2_inj :
    decimal.toFixed2 (m / 10 ^ 2) = decimal.toFixed2 (n / 10 ^ 2) ↔ m = n := by
  refine ⟨fun h => ?_, fun h => by rw [h]⟩
  have hparse := decimal.parse_toFixed2 m
  rw [h, decimal.parse_toFixed2 n] at hparse
  have hquotient := (Decimal.finite.inj (Option.some.inj hparse)).2
  rw [div_left_inj' (by norm_num)] at hquotient
  exact (Nat.cast_injective hquotient).symm

end DecimalJs

/-! ## The precision -/

/-- A decimal with fewer digits than the precision is kept. -/
theorem toPrecision_of_lt {n : ℕ} (k : ℕ) (h : n < 10 ^ decimalPrecision) :
    toPrecision (n / 10 ^ k) = n / 10 ^ k := by
  have hcast : (n : ℚ) / 10 ^ k = ((n / 10 ^ k : ℚ≥0) : ℚ) := by push_cast; rfl
  have hnot : ¬ (n : ℚ) / 10 ^ k < 0 := not_lt.mpr (by positivity)
  rw [toPrecision, if_neg hnot, hcast, NNRat.toNNRat_coe, toSignificantDigits_of_lt h]

theorem toPrecision_nonneg {x : ℚ} (h : 0 ≤ x) : 0 ≤ toPrecision x := by
  rw [toPrecision, if_neg (not_lt.mpr h)]
  exact NNRat.cast_nonneg _

/-- Any other result moves by a part in `2 * 10 ^ 19` at most. -/
theorem abs_toPrecision_sub_le (x : ℚ) : |toPrecision x - x| ≤ |x| * (1 / (2 * 10 ^ 19)) := by
  have hbound : ∀ y : ℚ, 0 ≤ y →
      |(toSignificantDigits decimalPrecision y.toNNRat : ℚ) - y| ≤ y * (1 / (2 * 10 ^ 19)) := by
    intro y hy
    have hclose := abs_toSignificantDigits_sub_le decimalPrecision y.toNNRat
    rw [Rat.coe_toNNRat y hy] at hclose
    refine hclose.trans_eq ?_
    rw [decimalPrecision]
    ring
  unfold toPrecision
  split_ifs with h
  · have hclose := hbound (-x) (by linarith)
    rw [abs_of_neg h, neg_sub_left, abs_neg, add_comm, ← sub_neg_eq_add]
    exact hclose
  · rw [abs_of_nonneg (not_lt.mp h)]
    exact hbound x (not_lt.mp h)

/-- Only zero is rounded to zero. -/
theorem toPrecision_eq_zero_iff {x : ℚ} : toPrecision x = 0 ↔ x = 0 := by
  have hpos : 0 < decimalPrecision := by decide
  unfold toPrecision
  split_ifs with h
  · rw [neg_eq_zero, NNRat.cast_eq_zero, toSignificantDigits_eq_zero_iff hpos,
      Rat.toNNRat_eq_zero]
    constructor <;> intro hx <;> linarith
  · rw [NNRat.cast_eq_zero, toSignificantDigits_eq_zero_iff hpos, Rat.toNNRat_eq_zero]
    exact ⟨fun hx => le_antisymm hx (not_lt.mp h), fun hx => hx.le⟩

theorem toPrecision_nonpos {x : ℚ} (h : x < 0) : toPrecision x ≤ 0 := by
  rw [toPrecision, if_pos h, neg_nonpos]
  exact NNRat.cast_nonneg _

/-- A result is at most a part in `2 * 10 ^ 19` above any bound of the exact one. -/
theorem toPrecision_le {x b : ℚ} (hb : 0 ≤ b) (h : x ≤ b) :
    toPrecision x ≤ b * (1 + 1 / (2 * 10 ^ 19)) := by
  rcases lt_or_ge x 0 with hx | hx
  · exact (toPrecision_nonpos hx).trans (by positivity)
  · have hclose := (abs_le.mp (abs_toPrecision_sub_le x)).2
    rw [abs_of_nonneg hx] at hclose
    nlinarith

/-- Which exact results reach a bound with twenty digits. -/
theorem le_toPrecision_iff {n : ℕ} {e : ℤ} {x : ℚ} (hlow : 10 ^ 19 < n) (hhigh : n ≤ 10 ^ 20) :
    (n * 10 ^ e : ℚ) ≤ toPrecision x ↔ ((n : ℚ) - 1 / 2) * 10 ^ e ≤ x := by
  have hpow : (0 : ℚ) < 10 ^ e := by positivity
  have hone : (1 : ℚ) ≤ n := by exact_mod_cast (by omega : 1 ≤ n)
  rcases lt_or_ge x 0 with hx | hx
  · have hneg := toPrecision_nonpos hx
    have hn : (0 : ℚ) < n * 10 ^ e := by positivity
    refine iff_of_false (by linarith) ?_
    nlinarith
  · have hiff : (n * 10 ^ e : ℚ) ≤ toSignificantDigits decimalPrecision x.toNNRat ↔
        ((n : ℚ) - 1 / 2) * 10 ^ e ≤ x.toNNRat :=
      le_toSignificantDigits_iff (by decide) hlow hhigh
    rw [Rat.coe_toNNRat x hx] at hiff
    rw [toPrecision, if_neg (not_lt.mpr hx), hiff]

/-- No result lies strictly between two neighbours with twenty digits. -/
theorem le_toPrecision_of_gap {n : ℕ} {e : ℤ} {x : ℚ} (hlow : 10 ^ 19 < n) (hhigh : n ≤ 10 ^ 20)
    (h : ((n : ℚ) - 1 / 2) * 10 ^ e ≤ toPrecision x) : (n * 10 ^ e : ℚ) ≤ toPrecision x := by
  have hpow : (0 : ℚ) < 10 ^ e := by positivity
  have hone : (1 : ℚ) ≤ n := by exact_mod_cast (by omega : 1 ≤ n)
  rcases lt_or_ge x 0 with hx | hx
  · have hneg := toPrecision_nonpos hx
    nlinarith
  · rw [toPrecision, if_neg (not_lt.mpr hx)] at h ⊢
    exact le_toSignificantDigits_of_gap (by decide) hlow hhigh h

/-! ## Plain decimal notation -/

/-- The decimal point. -/
def point : UInt16 := 46

/-- The digits of a text. -/
def digitsOf (s : JsString) : List ℕ := s.map fun c => c.toNat - 48

/-- `new Decimal(text)` of digits with or without a fraction. -/
def parsePlain (s : JsString) : Option Decimal :=
  let whole := s.takeWhile isDigit
  let rest := s.dropWhile isDigit
  let decimals := rest.drop 1
  if whole = [] ∨ (rest ≠ [] ∧ rest.head? ≠ some point) ∨ !decimals.all isDigit then none
  else some (.finite false (value (digitsOf (whole ++ decimals)) / 10 ^ decimals.length))

/-- `n / 10 ^ k` with `k` decimals. -/
def fixedText (k n : ℕ) : JsString :=
  digitText (numeral (n / 10 ^ k)) ++ if k = 0 then [] else point :: digitText (padded k n)

/-- `n / 10 ^ k` with no more decimals than needed. -/
def shortText : ℕ → ℕ → JsString
  | 0, n => fixedText 0 n
  | k + 1, n => if n % 10 = 0 then shortText k (n / 10) else fixedText (k + 1) n

theorem isDigit_digit {d : ℕ} (h : d < 10) : isDigit (UInt16.ofNat (48 + d)) = true := by
  interval_cases d <;> rfl

theorem toNat_digit {d : ℕ} (h : d < 10) : (UInt16.ofNat (48 + d)).toNat - 48 = d := by
  interval_cases d <;> rfl

theorem isDigit_of_mem {ds : List ℕ} (h : ∀ d ∈ ds, d < 10) :
    ∀ c ∈ digitText ds, isDigit c = true := by
  intro c hc
  obtain ⟨d, hd, rfl⟩ := List.mem_map.mp hc
  exact isDigit_digit (h d hd)

theorem digitsOf_digitText {ds : List ℕ} (h : ∀ d ∈ ds, d < 10) :
    digitsOf (digitText ds) = ds := by
  rw [digitsOf, digitText, List.map_map]
  conv_rhs => rw [← List.map_id ds]
  exact List.map_congr_left fun d hd => toNat_digit (h d hd)

/-- A run of digits ends where the rest of the text does not start with one. -/
theorem takeWhile_isDigit {ds : List ℕ} {rest : JsString} (h : ∀ d ∈ ds, d < 10)
    (hrest : ∀ c ∈ rest.head?, isDigit c = false) :
    (digitText ds ++ rest).takeWhile isDigit = digitText ds ∧
      (digitText ds ++ rest).dropWhile isDigit = rest := by
  rw [List.takeWhile_append_of_pos (isDigit_of_mem h),
    List.dropWhile_append_of_pos (isDigit_of_mem h)]
  cases rest with
  | nil => simp
  | cons c rest => simp [hrest c rfl]

theorem parse_fixedText (k n : ℕ) :
    parsePlain (fixedText k n) = some (.finite false (n / 10 ^ k)) := by
  have hwhole : ∀ d ∈ numeral (n / 10 ^ k), d < 10 := fun d => lt_ten_of_mem_numeral
  have hdecimals : ∀ d ∈ padded k n, d < 10 := fun d => lt_ten_of_mem_padded
  set rest := if k = 0 then [] else point :: digitText (padded k n) with hrest
  have hhead : rest = [] ∨ rest.head? = some point := by
    rw [hrest]
    split_ifs
    · exact .inl rfl
    · exact .inr rfl
  have hstop : ∀ c ∈ rest.head?, isDigit c = false := by
    intro c hc
    rcases hhead with h | h
    · simp [h] at hc
    · rw [h] at hc
      obtain rfl := Option.some.inj hc
      rfl
  have htail : rest.drop 1 = digitText (padded k n) := by
    rw [hrest]
    split_ifs with hk
    · rw [hk]
      rfl
    · rfl
  obtain ⟨htake, hdrop⟩ := takeWhile_isDigit hwhole hstop
  have hall : (digitText (padded k n)).all isDigit = true :=
    List.all_eq_true.mpr (isDigit_of_mem hdecimals)
  have hne : digitText (numeral (n / 10 ^ k)) ≠ [] := by
    rw [digitText, Ne, List.map_eq_nil_iff]
    exact numeral_ne_nil _
  have hvalue :
      value (digitsOf (digitText (numeral (n / 10 ^ k)) ++ digitText (padded k n))) = n := by
    have hdigits : digitsOf (digitText (numeral (n / 10 ^ k) ++ padded k n)) =
        numeral (n / 10 ^ k) ++ padded k n :=
      digitsOf_digitText fun d hd => (List.mem_append.mp hd).elim (hwhole d) (hdecimals d)
    rw [digitText, List.map_append] at hdigits
    rw [digitText, digitText, hdigits, value_fixed]
  have hok : ¬ (digitText (numeral (n / 10 ^ k)) = [] ∨ (rest ≠ [] ∧ rest.head? ≠ some point) ∨
      (!(digitText (padded k n)).all isDigit) = true) := by
    rw [hall]
    tauto
  unfold parsePlain fixedText
  simp only [← hrest, htake, hdrop, htail, if_neg hok, hvalue]
  rw [digitText, List.length_map, length_padded]

theorem parse_shortText (k n : ℕ) :
    parsePlain (shortText k n) = some (.finite false (n / 10 ^ k)) := by
  induction k generalizing n with
  | zero => exact parse_fixedText 0 n
  | succ k ih =>
    unfold shortText
    split_ifs with h
    · obtain ⟨m, rfl⟩ := Nat.dvd_of_mod_eq_zero h
      have hcast : ((10 * m : ℕ) : ℚ≥0) / 10 ^ (k + 1) = m / 10 ^ k := by
        rw [Nat.cast_mul, pow_succ']
        exact mul_div_mul_left _ _ (by norm_num)
      rw [Nat.mul_div_cancel_left m (by norm_num), ih, hcast]
    · exact parse_fixedText (k + 1) n

/-- `decimal.js` on plain notation. -/
def plainDecimal : DecimalJs where
  parse := parsePlain
  toString x := shortText 3 (toScale 3 x)
  toFixed2 x := fixedText 2 (toScale 2 x)
  parse_empty := rfl
  parse_toString n := by rw [toScale_div, parse_shortText]
  parse_toFixed2 n := by rw [toScale_div, parse_fixedText]

example : plainDecimal.toString (5 / 2) = js "2.5" := by decide +kernel

example : plainDecimal.parse (js "10.250") = some (.finite false (41 / 4)) := by decide +kernel

end KomiSaas.Shared
