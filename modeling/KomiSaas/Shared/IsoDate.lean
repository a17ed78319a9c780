import KomiSaas.Shared.Js

/-!
# `Date.prototype.toISOString`

The text of a valid date, by the proleptic Gregorian calendar: `YYYY-MM-DDTHH:mm:ss.sssZ`,
with a sign and six digits for a year outside 0–9999. An Invalid Date throws
`RangeError`, which callers see as the absence of a text.
-/

namespace KomiSaas.Shared

open KomiSaas.Lib.Decimal

/-- Year, month and day of a day counted from 1970-01-01. Days are grouped in
    eras of 400 years that start on the first of March. -/
def civilOfDays (days : ℤ) : ℤ × ℕ × ℕ :=
  let era := (days + 719468).fdiv 146097
  let dayOfEra := (days + 719468 - era * 146097).toNat
  let yearOfEra :=
    (dayOfEra + dayOfEra / 36524 - dayOfEra / 1460 - dayOfEra / 146096) / 365
  let dayOfYear := dayOfEra + yearOfEra / 100 - 365 * yearOfEra - yearOfEra / 4
  let shifted := (5 * dayOfYear + 2) / 153
  let day := dayOfYear - (153 * shifted + 2) / 5 + 1
  let month := if shifted < 10 then shifted + 3 else shifted - 9
  (yearOfEra + era * 400 + (if month ≤ 2 then 1 else 0), month, day)

/-- The last `k` digits of a number. -/
def paddedText (k n : ℕ) : JsString := digitText (padded k n)

def yearText (year : ℤ) : JsString :=
  if 0 ≤ year ∧ year ≤ 9999 then paddedText 4 year.toNat
  else (if 0 ≤ year then js "+" else js "-") ++ paddedText 6 year.natAbs

/-- The text of a valid date. -/
def isoText (instant : Instant) : JsString :=
  let (year, month, day) := civilOfDays (instant.fdiv 86400000)
  let ms := (instant.fmod 86400000).toNat
  yearText year ++ js "-" ++ paddedText 2 month ++ js "-" ++ paddedText 2 day ++ js "T" ++
    paddedText 2 (ms / 3600000) ++ js ":" ++ paddedText 2 (ms / 60000 % 60) ++ js ":" ++
    paddedText 2 (ms / 1000 % 60) ++ js "." ++ paddedText 3 (ms % 1000) ++ js "Z"

example : isoText 0 = js "1970-01-01T00:00:00.000Z" := by decide +kernel

example : isoText 1709210096789 = js "2024-02-29T12:34:56.789Z" := by decide +kernel

end KomiSaas.Shared
