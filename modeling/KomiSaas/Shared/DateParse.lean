import KomiSaas.Shared.DecimalJs
import KomiSaas.Shared.IsoDate

/-!
# `new Date(text)`

The format of `toISOString` is read back field by field. What the language leaves to
its implementation, and its other forms of a date, is a parameter. A date is at most
`8.64e15` milliseconds away from the epoch, or else it is the Invalid Date.

Result: `newDate_isoText`, the round trip of every valid date.
-/

namespace KomiSaas.Shared

open KomiSaas.Lib.Decimal

/-! ## The calendar -/

/-- The day counted from 1970-01-01 of a year, month and day: the inverse of
    `civilOfDays`. -/
def daysOfCivil (year : ℤ) (month day : ℕ) : ℤ :=
  let marchYear := year - (if month ≤ 2 then 1 else 0)
  let era := marchYear.fdiv 400
  let yearOfEra := (marchYear - era * 400).toNat
  let shifted := if 2 < month then month - 3 else month + 9
  let dayOfYear := (153 * shifted + 2) / 5 + day - 1
  let dayOfEra := yearOfEra * 365 + yearOfEra / 4 - yearOfEra / 100 + dayOfYear
  era * 146097 + dayOfEra - 719468

/-- The year of a day of the era, by its centuries, and the days before that year. -/
theorem yearOfEra_bounds {dayOfEra century leaps last yearOfEra quarter hundred : ℕ}
    (hday : dayOfEra < 146097) (hcentury : century = dayOfEra / 36524)
    (hleaps : leaps = dayOfEra / 1460) (hlast : last = dayOfEra / 146096)
    (hyear : yearOfEra = (dayOfEra + century - leaps - last) / 365)
    (hquarter : quarter = yearOfEra / 4) (hhundred : hundred = yearOfEra / 100) :
    yearOfEra < 400 ∧ 365 * yearOfEra + quarter ≤ dayOfEra + hundred ∧
      dayOfEra + hundred - 365 * yearOfEra - quarter < 366 := by
  -- the last day of an era would be counted in a fifth century
  have hcases : (century = 4 ∧ last = 1 ∧ dayOfEra = 146096) ∨ (century < 4 ∧ last = 0) := by
    omega
  rcases hcases with ⟨rfl, rfl, rfl⟩ | ⟨hlt, rfl⟩
  · subst hleaps hyear hquarter hhundred
    decide
  · have hsame : hundred = century := by
      interval_cases century <;> omega
    subst hsame
    obtain ⟨rest, hrest⟩ : ∃ rest, yearOfEra = 4 * quarter + rest :=
      ⟨yearOfEra - 4 * quarter, by omega⟩
    have hfour : rest < 4 := by omega
    interval_cases hundred <;> interval_cases rest <;> omega

/-- A day of the year, counted from March, from its month and its day. -/
theorem dayOfYear_of_month {dayOfYear shifted month : ℕ} (hday : dayOfYear < 366)
    (hshifted : shifted = (5 * dayOfYear + 2) / 153)
    (hmonth : month = if shifted < 10 then shifted + 3 else shifted - 9) :
    (if 2 < month then month - 3 else month + 9) = shifted ∧ 1 ≤ month ∧ month ≤ 12 ∧
      (153 * shifted + 2) / 5 ≤ dayOfYear ∧ dayOfYear - (153 * shifted + 2) / 5 < 31 := by
  have hmax : shifted < 12 := by omega
  split_ifs at hmonth ⊢ <;> omega

/-- What the calendar says of a day: a month, a day of it, and that both lead back. -/
theorem civilOfDays_spec (days : ℤ) :
    daysOfCivil (civilOfDays days).1 (civilOfDays days).2.1 (civilOfDays days).2.2 = days ∧
      (civilOfDays days).2.1 ≤ 12 ∧ (civilOfDays days).2.2 ≤ 31 ∧
      (days.natAbs ≤ 100000000 → (civilOfDays days).1.natAbs < 1000000) := by
  obtain ⟨era, hera⟩ : ∃ era, era = (days + 719468).fdiv 146097 := ⟨_, rfl⟩
  obtain ⟨dayOfEra, hday⟩ : ∃ dayOfEra, dayOfEra = (days + 719468 - era * 146097).toNat := ⟨_, rfl⟩
  obtain ⟨yearOfEra, hyear⟩ : ∃ yearOfEra, yearOfEra =
      (dayOfEra + dayOfEra / 36524 - dayOfEra / 1460 - dayOfEra / 146096) / 365 := ⟨_, rfl⟩
  obtain ⟨dayOfYear, hdayOfYear⟩ : ∃ dayOfYear, dayOfYear =
      dayOfEra + yearOfEra / 100 - 365 * yearOfEra - yearOfEra / 4 := ⟨_, rfl⟩
  obtain ⟨shifted, hshifted⟩ : ∃ shifted, shifted = (5 * dayOfYear + 2) / 153 := ⟨_, rfl⟩
  obtain ⟨month, hmonth⟩ : ∃ month, month = if shifted < 10 then shifted + 3 else shifted - 9 :=
    ⟨_, rfl⟩
  have hcivil : civilOfDays days =
      (yearOfEra + era * 400 + (if month ≤ 2 then 1 else 0), month,
        dayOfYear - (153 * shifted + 2) / 5 + 1) := by
    unfold civilOfDays
    simp only [← hera, ← hday, ← hyear, ← hdayOfYear, ← hshifted, ← hmonth]
  rw [Int.fdiv_eq_ediv_of_nonneg _ (by norm_num)] at hera
  have hlt : dayOfEra < 146097 := by omega
  have hback : (dayOfEra : ℤ) = days + 719468 - era * 146097 := by omega
  obtain ⟨hyears, hbefore, hwithin⟩ := yearOfEra_bounds hlt rfl rfl rfl hyear rfl rfl
  obtain ⟨hunshifted, hmin, hmax, hle, hrest⟩ :=
    dayOfYear_of_month (by omega) hshifted hmonth
  have hmarch : ∀ leap : ℤ, (yearOfEra : ℤ) + era * 400 + leap - leap = yearOfEra + era * 400 :=
    fun leap => add_sub_cancel_right _ _
  have hdiv : ((yearOfEra : ℤ) + era * 400).fdiv 400 = era := by
    rw [Int.fdiv_eq_ediv_of_nonneg _ (by norm_num)]
    omega
  have hmod : ((yearOfEra : ℤ) + era * 400 - era * 400).toNat = yearOfEra := by omega
  rw [hcivil]
  refine ⟨?_, hmax, by show _ + 1 ≤ 31; omega, ?_⟩
  · unfold daysOfCivil
    simp only [hmarch, hdiv, hmod, hunshifted]
    omega
  · intro hdays
    show ((yearOfEra : ℤ) + era * 400 + (if month ≤ 2 then 1 else 0)).natAbs < 1000000
    split_ifs <;> omega

/-! ## The fields of a text -/

/-- The number of a text of digits. -/
def numberOf (digits : JsString) : ℕ := value (digitsOf digits)

/-- The number in a part of a text. -/
def field (text : JsString) (start length : ℕ) : ℕ := numberOf ((text.drop start).take length)

/-- The year, with its sign where it has one. -/
def yearOf (text : JsString) : ℤ :=
  if text.head? = some 43 then numberOf text.tail
  else if text.head? = some 45 then -numberOf text.tail
  else numberOf text

/-- What `toISOString` prints after the year: twenty code units. -/
def afterYear (month day ms : ℕ) : JsString :=
  js "-" ++ (paddedText 2 month ++ (js "-" ++ (paddedText 2 day ++ (js "T" ++
    (paddedText 2 (ms / 3600000) ++ (js ":" ++ (paddedText 2 (ms / 60000 % 60) ++ (js ":" ++
      (paddedText 2 (ms / 1000 % 60) ++ (js "." ++ (paddedText 3 (ms % 1000) ++ js "Z")))))))))))

/-- The date of a text in the format of `toISOString`. -/
def instantOfFields (text : JsString) : Instant :=
  let year := text.take (text.length - 20)
  let rest := text.drop (text.length - 20)
  daysOfCivil (yearOf year) (field rest 1 2) (field rest 4 2) * 86400000 +
    (field rest 7 2 * 3600000 + field rest 10 2 * 60000 + field rest 13 2 * 1000 +
      field rest 16 3 : ℕ)

/-- The dates that there are. -/
def isTimeValue (instant : Instant) : Bool := instant.natAbs ≤ 8640000000000000

/-- The date that `toISOString` prints as the text. -/
def parseIso (text : JsString) : JsDate :=
  let instant := instantOfFields text
  if isTimeValue instant ∧ isoText instant = text then some instant else none

/-- `new Date(text)`; `other` reads what `toISOString` does not print. -/
def newDate (other : JsString → JsDate) (text : JsString) : JsDate :=
  (parseIso text).or ((other text).filter isTimeValue)

/-! ## The round trip -/

theorem numberOf_paddedText {k n : ℕ} (h : n < 10 ^ k) : numberOf (paddedText k n) = n := by
  unfold numberOf paddedText
  rw [digitsOf_digitText fun _ => lt_ten_of_mem_padded, value_padded, Nat.mod_eq_of_lt h]

theorem yearOf_yearText {year : ℤ} (h : year.natAbs < 1000000) : yearOf (yearText year) = year := by
  unfold yearText
  by_cases hplain : 0 ≤ year ∧ year ≤ 9999
  · have hdigit : ∀ c ∈ (paddedText 4 year.toNat).head?, isDigit c = true := fun c hc =>
      isDigit_of_mem (fun _ => lt_ten_of_mem_padded) c (List.mem_of_mem_head? hc)
    have hplus : (paddedText 4 year.toNat).head? ≠ some 43 := fun hc => by
      cases hdigit 43 hc
    have hminus : (paddedText 4 year.toNat).head? ≠ some 45 := fun hc => by
      cases hdigit 45 hc
    rw [if_pos hplain, yearOf, if_neg hplus, if_neg hminus, numberOf_paddedText (by omega)]
    omega
  · rw [if_neg hplain]
    by_cases hpositive : 0 ≤ year
    · rw [if_pos hpositive]
      show ((numberOf (paddedText 6 year.natAbs) : ℕ) : ℤ) = year
      rw [numberOf_paddedText (by omega)]
      omega
    · rw [if_neg hpositive]
      show -((numberOf (paddedText 6 year.natAbs) : ℕ) : ℤ) = year
      rw [numberOf_paddedText (by omega)]
      omega

theorem isoText_eq (instant : Instant) : isoText instant =
    yearText (civilOfDays (instant.fdiv 86400000)).1 ++
      afterYear (civilOfDays (instant.fdiv 86400000)).2.1
        (civilOfDays (instant.fdiv 86400000)).2.2 (instant.fmod 86400000).toNat := by
  unfold isoText afterYear
  simp only [List.append_assoc]

theorem isoText_ne_nil (instant : Instant) : isoText instant ≠ [] := by
  rw [isoText_eq]
  exact List.append_ne_nil_of_right_ne_nil _ (List.cons_ne_nil _ _)

/-- Hours, minutes, seconds and milliseconds. -/
theorem msOfFields (ms : ℕ) : ms / 3600000 * 3600000 + ms / 60000 % 60 * 60000 +
    ms / 1000 % 60 * 1000 + ms % 1000 = ms := by
  have hminutes : ms / 1000 / 60 = ms / 60000 := Nat.div_div_eq_div_mul ms 1000 60
  have hhours : ms / 60000 / 60 = ms / 3600000 := Nat.div_div_eq_div_mul ms 60000 60
  omega

/-- The fields of what `toISOString` prints are those that it printed. -/
theorem instantOfFields_isoText {instant : Instant} (h : isTimeValue instant = true) :
    instantOfFields (isoText instant) = instant := by
  have hbound : instant.natAbs ≤ 8640000000000000 := of_decide_eq_true h
  obtain ⟨days, hdays⟩ : ∃ days, days = instant.fdiv 86400000 := ⟨_, rfl⟩
  obtain ⟨ms, hms⟩ : ∃ ms, ms = (instant.fmod 86400000).toNat := ⟨_, rfl⟩
  obtain ⟨hback, hmonth, hday, hyear⟩ := civilOfDays_spec days
  have hsplit : days * 86400000 + (ms : ℤ) = instant ∧ ms < 86400000 := by
    rw [hms, hdays, Int.fdiv_eq_ediv_of_nonneg _ (by norm_num),
      Int.fmod_eq_emod_of_nonneg _ (by norm_num)]
    omega
  rw [isoText_eq, ← hdays, ← hms]
  set year := (civilOfDays days).1
  set month := (civilOfDays days).2.1
  set day := (civilOfDays days).2.2
  have hlength : (yearText year ++ afterYear month day ms).length - 20 =
      (yearText year).length := by
    have htwenty : (afterYear month day ms).length = 20 := rfl
    rw [List.length_append, htwenty, Nat.add_sub_cancel]
  have hfields : field (afterYear month day ms) 1 2 = month ∧
      field (afterYear month day ms) 4 2 = day ∧
      field (afterYear month day ms) 7 2 = ms / 3600000 ∧
      field (afterYear month day ms) 10 2 = ms / 60000 % 60 ∧
      field (afterYear month day ms) 13 2 = ms / 1000 % 60 ∧
      field (afterYear month day ms) 16 3 = ms % 1000 :=
    ⟨@numberOf_paddedText 2 month (by omega), @numberOf_paddedText 2 day (by omega),
      @numberOf_paddedText 2 (ms / 3600000) (by omega),
      @numberOf_paddedText 2 (ms / 60000 % 60) (by omega),
      @numberOf_paddedText 2 (ms / 1000 % 60) (by omega),
      @numberOf_paddedText 3 (ms % 1000) (by omega)⟩
  obtain ⟨h1, h2, h3, h4, h5, h6⟩ := hfields
  unfold instantOfFields
  simp only [hlength, List.take_left, List.drop_left, h1, h2, h3, h4, h5, h6]
  rw [yearOf_yearText (hyear (by omega)), hback, msOfFields]
  exact hsplit.1

/-- A valid date is read back from its text. -/
theorem newDate_isoText {other : JsString → JsDate} {instant : Instant}
    (h : isTimeValue instant = true) : newDate other (isoText instant) = some instant := by
  have hparse : parseIso (isoText instant) = some instant := by
    unfold parseIso
    simp only [instantOfFields_isoText h, h, and_self, if_true]
  rw [newDate, hparse, Option.some_or]

/-- Every date that is read is a valid one. -/
theorem isTimeValue_of_newDate {other : JsString → JsDate} {text : JsString} {instant : Instant}
    (h : newDate other text = some instant) : isTimeValue instant = true := by
  rcases Option.or_eq_some_iff.mp h with hparse | ⟨-, hother⟩
  · unfold parseIso at hparse
    simp only at hparse
    split_ifs at hparse with hvalid
    rw [← Option.some.inj hparse]
    exact hvalid.1
  · exact (Option.filter_eq_some_iff.mp hother).2

example : parseIso (js "2024-02-29T12:34:56.789Z") = some 1709210096789 := by decide +kernel

example : parseIso (js "2024-02-30T12:34:56.789Z") = none := by decide +kernel

end KomiSaas.Shared
