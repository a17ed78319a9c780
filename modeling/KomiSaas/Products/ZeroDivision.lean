import KomiSaas.Products.Profitability

/-!
# Divisions by zero in the profitability calculator

A price and a cost are compared with zero before they divide. What is left of
100 after the margin is not: at the package's twenty significant digits it is
zero for every margin from `100 − 5 · 10⁻¹⁹` up (`rest_eq_zero_iff`). The price
for such a margin is `Infinity` or `NaN`, and it is written out unless a price
was sent whose own margin is 100.00 (`round_marginOf_eq_iff`). A margin `NaN`,
which the test of the margin lets through, is always written out.

Main result: `numbersFinite_iff`.
-/

namespace KomiSaas.Products

open KomiSaas.Lib KomiSaas.Lib.Decimal KomiSaas.Shared

namespace ProfitabilityCalculator

/-- The decimal form of a finite number. -/
def FiniteText (decimal : DecimalJs) (text : JsString) : Prop :=
  ∃ hundredths : ℤ, text = fixed2 decimal hundredths

/-- `new Decimal(text)` is not a finite number. -/
def NotFinite (decimal : DecimalJs) (text : JsString) : Prop :=
  ∀ negative magnitude, decimal.parse text ≠ some (.finite negative magnitude)

/-- The fields of a result that are not `null`. -/
def resultNumbers (result : ProfitabilityResult) : List JsString :=
  result.cost :: [result.price, result.grossProfit, result.margin, result.foodCost,
    result.markup].reduceOption

/-- The numbers that a call returns, or writes in the exception it throws. -/
def numbers : Except ProductException ProfitabilityResult → List JsString
  | .ok result => resultNumbers result
  | .error (.priceMarginMismatch margenObjetivo margenReal precioEsperado) =>
    [margenObjetivo, margenReal, precioEsperado]
  | .error _ => []

/-- Every number of the outcome is finite. -/
def NumbersFinite (decimal : DecimalJs) (outcome : Except ProductException ProfitabilityResult) :
    Prop :=
  ∀ text ∈ numbers outcome, FiniteText decimal text

/-! ## When the rest is zero -/

/-- The margins that the package cannot tell from 100. -/
theorem rest_eq_zero_iff {margen : ℚ} (hnonneg : 0 ≤ margen) (hlt : margen < 100) :
    toPrecision (1 - toPrecision (margen / 100)) = 0 ↔ 100 - 5 / 10 ^ 19 ≤ margen := by
  have hle : toPrecision (margen / 100) ≤ 1 := by
    have hmono : toSignificantDigits decimalPrecision (margen / 100).toNNRat ≤
        toSignificantDigits decimalPrecision ((1 : ℕ) / 10 ^ 0) := by
      apply toSignificantDigits_mono (by decide)
      rw [Rat.toNNRat_le_iff_le_coe]
      push_cast
      linarith
    rw [toSignificantDigits_of_lt (by norm_num [decimalPrecision])] at hmono
    have hcast := NNRat.coe_le_coe.mpr hmono
    rw [toPrecision, if_neg (not_lt.mpr (by positivity))]
    simpa using hcast
  have hreach : (1 : ℚ) ≤ toPrecision (margen / 100) ↔ 100 - 5 / 10 ^ 19 ≤ margen := by
    have h : ((10 ^ 20 : ℕ) * 10 ^ (-20 : ℤ) : ℚ) ≤ toPrecision (margen / 100) ↔
        (((10 ^ 20 : ℕ) : ℚ) - 1 / 2) * 10 ^ (-20 : ℤ) ≤ margen / 100 :=
      le_toPrecision_iff (by norm_num) le_rfl
    rw [show ((10 ^ 20 : ℕ) * 10 ^ (-20 : ℤ) : ℚ) = 1 by norm_num] at h
    rw [h, le_div_iff₀ (by norm_num)]
    norm_num
  rw [toPrecision_eq_zero_iff, sub_eq_zero, ← hreach]
  exact ⟨fun h => h.le, fun h => le_antisymm h hle⟩

/-- The largest margin there is: a profit cannot exceed its price. -/
theorem toPrecision_margin_lt {ganancia precio : ℚ} (hpos : 0 < precio)
    (hle : ganancia ≤ precio * (1 + 1 / (2 * 10 ^ 19))) :
    toPrecision (toPrecision (ganancia / precio) * 100) < 100005 / 10 ^ 3 := by
  have hratio : toPrecision (ganancia / precio) ≤
      (1 + 1 / (2 * 10 ^ 19)) * (1 + 1 / (2 * 10 ^ 19)) :=
    toPrecision_le (by norm_num) (by rw [div_le_iff₀ hpos]; linarith)
  have hpercent : toPrecision (toPrecision (ganancia / precio) * 100) ≤
      100001 / 10 ^ 3 * (1 + 1 / (2 * 10 ^ 19)) :=
    toPrecision_le (by norm_num) (by linarith)
  linarith

/-- Which ratios are 99.995 at twenty digits, as a percentage. -/
theorem le_toPrecision_percent_iff {razon : ℚ} :
    99995 / 10 ^ 3 ≤ toPrecision (razon * 100) ↔ 99995 / 10 ^ 5 - 5 / 10 ^ 21 ≤ razon := by
  have h : ((99995 * 10 ^ 15 : ℕ) * 10 ^ (-18 : ℤ) : ℚ) ≤ toPrecision (razon * 100) ↔
      (((99995 * 10 ^ 15 : ℕ) : ℚ) - 1 / 2) * 10 ^ (-18 : ℤ) ≤ razon * 100 :=
    le_toPrecision_iff (by norm_num) (by norm_num)
  rw [show ((99995 * 10 ^ 15 : ℕ) * 10 ^ (-18 : ℤ) : ℚ) = 99995 / 10 ^ 3 by norm_num] at h
  rw [h]
  norm_num
  constructor <;> intro h <;> linarith

/-- The bound lies between two values of twenty digits, so rounding to them keeps
    the comparison. -/
theorem le_toPrecision_ratio_iff {x : ℚ} :
    99995 / 10 ^ 5 - 5 / 10 ^ 21 ≤ toPrecision x ↔ 99995 / 10 ^ 5 - 5 / 10 ^ 21 ≤ x := by
  have h : ((99995 * 10 ^ 15 : ℕ) * 10 ^ (-20 : ℤ) : ℚ) ≤ toPrecision x ↔
      (((99995 * 10 ^ 15 : ℕ) : ℚ) - 1 / 2) * 10 ^ (-20 : ℤ) ≤ x :=
    le_toPrecision_iff (by norm_num) (by norm_num)
  have hgap : (((99995 * 10 ^ 15 : ℕ) : ℚ) - 1 / 2) * 10 ^ (-20 : ℤ) ≤ toPrecision x →
      ((99995 * 10 ^ 15 : ℕ) * 10 ^ (-20 : ℤ) : ℚ) ≤ toPrecision x :=
    le_toPrecision_of_gap (by norm_num) (by norm_num)
  have hhalf : (((99995 * 10 ^ 15 : ℕ) : ℚ) - 1 / 2) * 10 ^ (-20 : ℤ) =
      99995 / 10 ^ 5 - 5 / 10 ^ 21 := by norm_num
  have hwhole : ((99995 * 10 ^ 15 : ℕ) * 10 ^ (-20 : ℤ) : ℚ) = 99995 / 10 ^ 5 := by norm_num
  rw [hhalf, hwhole] at h hgap
  constructor
  · intro hle
    exact h.mp (hgap hle)
  · intro hle
    have := h.mpr hle
    linarith

/-- The prices that leave a margin of 100.00. -/
theorem round_marginOf_eq_iff {costo precio : ℚ} (hcosto : 0 ≤ costo) (hprecio : 0 ≤ precio) :
    round (marginOf toPrecision costo precio) = 10000 ↔
      0 < precio ∧ precio * (99995 / 10 ^ 5 - 5 / 10 ^ 21) ≤ toPrecision (precio - costo) := by
  rcases hprecio.eq_or_lt with rfl | hpos
  · have hzero : round (marginOf toPrecision costo 0) = 0 := by
      rw [marginOf, if_pos rfl, round, zero_mul, nearestInt_eq_zero_iff]
      norm_num
    rw [hzero]
    exact iff_of_false (by norm_num) fun h => lt_irrefl _ h.1
  have hmargen : marginOf toPrecision costo precio =
      toPrecision (toPrecision (toPrecision (precio - costo) / precio) * 100) := by
    rw [marginOf, if_neg hpos.ne']
  have hprofit : toPrecision (precio - costo) ≤ precio * (1 + 1 / (2 * 10 ^ 19)) :=
    toPrecision_le hprecio (by linarith)
  have hupper := toPrecision_margin_lt hpos hprofit
  have hround : round (marginOf toPrecision costo precio) = 10000 ↔
      99995 / 10 ^ 3 ≤ marginOf toPrecision costo precio := by
    rw [round, nearestInt_eq_iff (by norm_num)]
    push_cast
    rw [hmargen]
    constructor
    · rintro ⟨h, -⟩
      linarith
    · intro h
      constructor <;> linarith
  rw [hround, hmargen, le_toPrecision_percent_iff, le_toPrecision_ratio_iff, le_div_iff₀ hpos,
    mul_comm, and_iff_right hpos]

/-- A margin that is accepted is `NaN`, or from 0 up and below 100. -/
theorem margin_bounds {decimal : DecimalJs} {text : JsString} {margen : Number ℚ}
    (h : assertValidMargin decimal text = .ok margen) :
    margen = .nan ∨ ∃ x, margen = .finite x ∧ 0 ≤ x ∧ x < 100 := by
  unfold assertValidMargin at h
  split at h
  · next negative magnitude _ =>
    split_ifs at h with hout
    obtain rfl := Except.ok.inj h
    have hlt : magnitude < 100 := not_le.mp fun hle => hout (.inr hle)
    exact .inr ⟨_, rfl, NNRat.cast_nonneg _, by exact_mod_cast hlt⟩
  · cases h
  · exact .inl (Except.ok.inj h).symm
  · cases h

/-! ## What a call returns -/

section

variable {rounded : ℚ → ℚ} {decimal : DecimalJs} {input : ProfitabilityInput}

/-- `calculate` on texts that are read as numbers. -/
theorem calculate_eq {costo : Number ℚ} {precio margen : Option (Number ℚ)}
    (hcost : numberOf decimal input.cost = .ok costo)
    (hprice : Option.Rel (fun text p => numberOf decimal text = .ok p) input.price precio)
    (hmargin : Option.Rel (fun text m => assertValidMargin decimal text = .ok m)
      input.targetMargin margen) :
    calculate rounded decimal input =
      match precio, margen with
      | some precio, some margen =>
        (assertPriceMatchesMargin rounded decimal costo precio margen).bind fun _ =>
          .ok (fromPrice rounded decimal costo precio)
      | some precio, none => .ok (fromPrice rounded decimal costo precio)
      | none, some margen =>
        .ok (fromPrice rounded decimal costo (priceForMargin rounded costo margen))
      | none, none => .ok ⟨rounding decimal costo, none, none, none, none, none⟩ := by
  obtain ⟨cost, price, targetMargin⟩ := input
  have htarget : targetMarginOf decimal targetMargin = .ok margen := by
    cases hmargin with
    | none => rfl
    | some h =>
      show (assertValidMargin decimal _).map some = _
      rw [h]
      rfl
  show (numberOf decimal cost).bind _ = _
  rw [show numberOf decimal cost = .ok costo from hcost]
  show (targetMarginOf decimal targetMargin).bind _ = _
  rw [htarget]
  cases hprice with
  | none => cases margen <;> rfl
  | some h =>
    cases margen with
    | none =>
      show (numberOf decimal _).bind _ = _
      rw [h]
      rfl
    | some margen =>
      show (numberOf decimal _).bind _ = _
      rw [h]
      rfl

theorem finiteText_rounding (x : ℚ) : FiniteText decimal (rounding decimal (.finite x)) :=
  ⟨round x, rfl⟩

/-- A package that does not read `NaN` as a finite number does not write one so. -/
theorem not_finiteText_nan (hnan : NotFinite decimal (js "NaN")) :
    ¬ FiniteText decimal (js "NaN") := by
  rintro ⟨hundredths, h⟩
  rw [fixed2] at h
  split_ifs at h
  · cases h
  · exact hnan false _ (h ▸ decimal.parse_toFixed2 hundredths.natAbs)

/-- The same of `Infinity`. -/
theorem not_finiteText_infinity (hinfinity : NotFinite decimal (js "Infinity")) :
    ¬ FiniteText decimal (js "Infinity") := by
  rintro ⟨hundredths, h⟩
  rw [fixed2] at h
  split_ifs at h
  · cases h
  · exact hinfinity false _ (h ▸ decimal.parse_toFixed2 hundredths.natAbs)

/-- From a finite price, every indicator is finite or missing. -/
theorem numbersFinite_fromPrice (costo precio : ℚ) :
    NumbersFinite decimal (.ok (fromPrice rounded decimal (.finite costo) (.finite precio))) := by
  intro text htext
  simp only [numbers, resultNumbers, fromPrice, realMargin_finite, Number.isZero_finite,
    Number.minus_finite, decide_eq_true_eq, List.mem_cons, List.reduceOption_mem_iff,
    List.not_mem_nil, or_false] at htext
  rcases htext with rfl | h | h | h | h | h
  · exact finiteText_rounding _
  · exact Option.some.inj h ▸ finiteText_rounding _
  · exact Option.some.inj h ▸ finiteText_rounding _
  · exact Option.some.inj h ▸ finiteText_rounding _
  · split_ifs at h with hzero
    rw [Number.div_finite hzero, Number.times_finite] at h
    exact Option.some.inj h ▸ finiteText_rounding _
  · split_ifs at h with hzero
    rw [Number.div_finite hzero, Number.times_finite] at h
    exact Option.some.inj h ▸ finiteText_rounding _

/-- From a price that is not, the price is not. -/
theorem not_numbersFinite_fromPrice {costo precio : Number ℚ}
    (h : ¬ FiniteText decimal (rounding decimal precio)) :
    ¬ NumbersFinite decimal (.ok (fromPrice rounded decimal costo precio)) := by
  intro hfinite
  refine h (hfinite _ ?_)
  simp [numbers, resultNumbers, fromPrice]

/-- The price for a finite margin is finite exactly when something is left of 100. -/
theorem finiteText_priceForMargin (hnan : NotFinite decimal (js "NaN"))
    (hinfinity : NotFinite decimal (js "Infinity")) {costo margen : ℚ} (hcosto : 0 ≤ costo) :
    FiniteText decimal
        (rounding decimal (priceForMargin rounded (.finite costo) (.finite margen))) ↔
      rounded (1 - rounded (margen / 100)) ≠ 0 := by
  rw [priceForMargin_finite]
  by_cases hrest : rounded (1 - rounded (margen / 100)) = 0
  · refine iff_of_false ?_ (not_not.mpr hrest)
    rw [hrest, Number.div_zero]
    split_ifs with hzero
    · exact not_finiteText_nan hnan
    · rw [show decide (costo < 0) = false by simpa using hcosto]
      exact not_finiteText_infinity hinfinity
  · rw [Number.div_finite hrest]
    exact iff_of_true (finiteText_rounding _) hrest

/-- Without a price, the indicators are finite exactly when the price for the
    margin is. -/
theorem numbersFinite_priceForMargin (hnan : NotFinite decimal (js "NaN"))
    (hinfinity : NotFinite decimal (js "Infinity")) {costo margen : ℚ} (hcosto : 0 ≤ costo) :
    NumbersFinite decimal (.ok (fromPrice rounded decimal (.finite costo)
        (priceForMargin rounded (.finite costo) (.finite margen)))) ↔
      rounded (1 - rounded (margen / 100)) ≠ 0 := by
  have htext := @finiteText_priceForMargin rounded decimal hnan hinfinity costo margen hcosto
  by_cases hrest : rounded (1 - rounded (margen / 100)) = 0
  · refine iff_of_false (not_numbersFinite_fromPrice ?_) (not_not.mpr hrest)
    rw [htext]
    exact not_not.mpr hrest
  · rw [priceForMargin_finite, Number.div_finite hrest]
    exact iff_of_true (numbersFinite_fromPrice _ _) hrest

/-- With a price and a margin, the numbers are finite exactly when the two match
    or the price for the margin is finite. -/
theorem numbersFinite_assert (hnan : NotFinite decimal (js "NaN"))
    (hinfinity : NotFinite decimal (js "Infinity")) {costo precio margen : ℚ} (hcosto : 0 ≤ costo) :
    NumbersFinite decimal
        ((assertPriceMatchesMargin rounded decimal (.finite costo) (.finite precio)
            (.finite margen)).bind fun _ =>
          .ok (fromPrice rounded decimal (.finite costo) (.finite precio))) ↔
      rounded (1 - rounded (margen / 100)) ≠ 0 ∨
        round (marginOf rounded costo precio) = round margen := by
  by_cases hmatch : round (marginOf rounded costo precio) = round margen
  · rw [assertPriceMatchesMargin_ok_iff.mpr hmatch]
    exact iff_of_true (numbersFinite_fromPrice _ _) (.inr hmatch)
  · rw [assertPriceMatchesMargin_mismatch hmatch, or_iff_left hmatch,
      ← @finiteText_priceForMargin rounded decimal hnan hinfinity costo margen hcosto]
    show (∀ text ∈ [_, _, _], FiniteText decimal text) ↔ _
    simp [finiteText_rounding]

/-- A margin `NaN` is written out, as itself or as the price for it. -/
theorem not_numbersFinite_nan (hnan : NotFinite decimal (js "NaN")) (costo : ℚ)
    (precio : Option ℚ) :
    ¬ NumbersFinite decimal (match precio with
      | some precio =>
        (assertPriceMatchesMargin rounded decimal (.finite costo) (.finite precio) .nan).bind
          fun _ => .ok (fromPrice rounded decimal (.finite costo) (.finite precio))
      | none => .ok (fromPrice rounded decimal (.finite costo)
          (priceForMargin rounded (.finite costo) .nan))) := by
  have hnot := not_finiteText_nan hnan
  cases precio with
  | some precio =>
    have hassert : assertPriceMatchesMargin rounded decimal (.finite costo) (.finite precio) .nan =
        .error (.priceMarginMismatch (js "NaN")
          (rounding decimal (.finite (marginOf rounded costo precio)))
          (rounding decimal (priceForMargin rounded (.finite costo) .nan))) := by
      rw [assertPriceMatchesMargin, realMargin_finite]
      rfl
    show ¬ NumbersFinite decimal (Except.bind _ _)
    rw [hassert]
    exact fun h => hnot (h _ (List.mem_cons_self ..))
  | none =>
    apply not_numbersFinite_fromPrice
    rw [priceForMargin, Number.div_nan_left, Number.minus_nan_right, Number.div_nan_right]
    exact hnot

end

/-! ## The whole calculator -/

/-- For finite costs and prices, every number is finite exactly when no margin was
    sent, or a finite one below `100 − 5 · 10⁻¹⁹`, or a finite one and a price whose
    own margin is 100.00. -/
theorem numbersFinite_iff {decimal : DecimalJs} {input : ProfitabilityInput} {costo : ℚ}
    {precio : Option ℚ} {margen : Option (Number ℚ)}
    (hnan : NotFinite decimal (js "NaN")) (hinfinity : NotFinite decimal (js "Infinity"))
    (hcost : numberOf decimal input.cost = .ok (.finite costo)) (hcosto : 0 ≤ costo)
    (hprice : Option.Rel (fun text p => numberOf decimal text = .ok (.finite p)) input.price precio)
    (hprecio : ∀ p ∈ precio, 0 ≤ p)
    (hmargin : Option.Rel (fun text m => assertValidMargin decimal text = .ok m)
      input.targetMargin margen) :
    NumbersFinite decimal (calculate toPrecision decimal input) ↔
      ∀ m ∈ margen, ∃ x, m = .finite x ∧ (x < 100 - 5 / 10 ^ 19 ∨
        ∃ p ∈ precio, 0 < p ∧ p * (99995 / 10 ^ 5 - 5 / 10 ^ 21) ≤ toPrecision (p - costo)) := by
  have hnumber : Option.Rel (fun text p => numberOf decimal text = .ok p) input.price
      (precio.map .finite) := by
    generalize input.price = price at hprice
    cases hprice with
    | none => exact .none
    | some h => exact .some h
  rw [calculate_eq hcost hnumber hmargin]
  cases margen with
  | none =>
    refine iff_of_true ?_ (by simp)
    cases precio with
    | none =>
      intro text htext
      obtain rfl := List.mem_singleton.mp htext
      exact finiteText_rounding costo
    | some p => exact numbersFinite_fromPrice costo p
  | some m =>
    obtain ⟨text, htext⟩ : ∃ text, assertValidMargin decimal text = .ok m := by
      generalize input.targetMargin = target at hmargin
      cases hmargin with
      | some h => exact ⟨_, h⟩
    rcases margin_bounds htext with rfl | ⟨x, rfl, hx, hx'⟩
    · have hnot := @not_numbersFinite_nan toPrecision decimal hnan costo precio
      refine iff_of_false ?_ (by simp)
      cases precio <;> exact hnot
    have hrest : toPrecision (1 - toPrecision (x / 100)) ≠ 0 ↔ x < 100 - 5 / 10 ^ 19 := by
      rw [Ne, rest_eq_zero_iff hx hx', not_le]
    have hforall : ∀ P : ℚ → Prop,
        (∀ m ∈ some (Number.finite x), ∃ y, m = .finite y ∧ P y) ↔ P x := fun P => by simp
    rw [hforall]
    cases precio with
    | none =>
      show NumbersFinite decimal (.ok (fromPrice _ _ _ (priceForMargin _ _ _))) ↔ _
      rw [numbersFinite_priceForMargin hnan hinfinity hcosto, hrest]
      simp
    | some p =>
      have hp := hprecio p rfl
      have hexists : ∀ P : ℚ → Prop, (∃ x ∈ some p, P x) ↔ P p := fun P => by simp
      show NumbersFinite decimal (Except.bind _ _) ↔ _
      rw [numbersFinite_assert hnan hinfinity hcosto, hrest, hexists,
        ← round_marginOf_eq_iff hcosto hp]
      -- a margin that cannot be told from 100 is 100.00 at two decimals
      by_cases hlt : x < 100 - 5 / 10 ^ 19
      · simp [hlt]
      · have hround : round x = 10000 := by
          rw [round, nearestInt_eq_iff (by norm_num)]
          push_cast
          constructor <;> linarith
        rw [hround]

/-! ## Two requests -/

theorem notFinite_plain :
    NotFinite plainDecimal (js "NaN") ∧ NotFinite plainDecimal (js "Infinity") := by
  have hnan : plainDecimal.parse (js "NaN") = none := by decide +kernel
  have hinfinity : plainDecimal.parse (js "Infinity") = none := by decide +kernel
  constructor
  · intro negative magnitude h
    rw [hnan] at h
    cases h
  · intro negative magnitude h
    rw [hinfinity] at h
    cases h

theorem numberOf_ten : numberOf plainDecimal (js "10.00") = .ok (.finite 10) := by
  have hparse : plainDecimal.parse (js "10.00") = some (.finite false 10) := by decide +kernel
  rw [numberOf, hparse]
  simp [Decimal.toNumber]

/-- A cost, and a margin of one half. -/
theorem numbersFinite_half :
    NumbersFinite plainDecimal (calculate toPrecision plainDecimal
      ⟨js "10.00", none, some (js "50")⟩) := by
  have hparse : plainDecimal.parse (js "50") = some (.finite false 50) := by decide +kernel
  have hmargin : assertValidMargin plainDecimal (js "50") = .ok (.finite 50) := by
    rw [assertValidMargin_ok hparse, if_neg (by decide +kernel)]
    rfl
  refine (@numbersFinite_iff plainDecimal ⟨js "10.00", none, some (js "50")⟩ 10 none
    (some (.finite 50)) notFinite_plain.1 notFinite_plain.2 numberOf_ten (by norm_num) .none
    (by simp) (.some hmargin)).mpr ?_
  intro m hm
  obtain rfl := Option.some.inj hm
  exact ⟨50, rfl, .inl (by norm_num)⟩

/-- A cost of 10.00 and a margin of twenty nines after the point. -/
theorem not_numbersFinite_nines :
    ¬ NumbersFinite plainDecimal (calculate toPrecision plainDecimal
      ⟨js "10.00", none, some (js "99.99999999999999999999")⟩) := by
  have hparse : plainDecimal.parse (js "99.99999999999999999999") =
      some (.finite false (9999999999999999999999 / 10 ^ 20)) := by decide +kernel
  have hmargin : assertValidMargin plainDecimal (js "99.99999999999999999999") =
      .ok (.finite ((9999999999999999999999 / 10 ^ 20 : ℚ≥0) : ℚ)) := by
    rw [assertValidMargin_ok hparse, if_neg (by decide +kernel)]
  have hcalculate := @calculate_eq toPrecision plainDecimal
    ⟨js "10.00", none, some (js "99.99999999999999999999")⟩ (.finite 10) none
    (some (.finite ((9999999999999999999999 / 10 ^ 20 : ℚ≥0) : ℚ))) numberOf_ten .none
    (.some hmargin)
  rw [hcalculate]
  show ¬ NumbersFinite plainDecimal (.ok (fromPrice toPrecision plainDecimal (.finite 10) _))
  push_cast
  rw [numbersFinite_priceForMargin notFinite_plain.1 notFinite_plain.2 (by norm_num), not_not,
    rest_eq_zero_iff (by norm_num) (by norm_num)]
  norm_num

end ProfitabilityCalculator

end KomiSaas.Products
