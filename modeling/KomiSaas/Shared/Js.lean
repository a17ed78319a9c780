import KomiSaas.Lib.Decimal

/-!
# JavaScript values used across the contexts

* A JavaScript string is its list of UTF-16 code units, so `length` and `slice`
  are `List.length` and `List.take`, as in the language.
* A UUID is its text. Every id reaches the models after `Uuid`'s constructor
  (`shared/value-object/uuid.value-object.ts`) accepted it, and only equality of
  ids is ever used: of texts in the code, of `canonical` texts in the database.
* An `Instant` is a valid `Date`, in milliseconds since the epoch. A `JsDate`
  may also be the Invalid Date, whose `getTime()` is `NaN`.
-/

namespace KomiSaas.Shared

/-- A JavaScript string: its UTF-16 code units. -/
abbrev JsString := List UInt16

/-- Two strings are equal where they have the same code units. -/
instance lawfulBEq_jsString : @LawfulBEq JsString List.instBEq := inferInstance

/-- The JavaScript string of a literal from the basic multilingual plane. -/
def js (s : String) : JsString := s.toList.map fun c => UInt16.ofNat c.toNat

abbrev Uuid := JsString

/-- A valid `Date`: milliseconds since the epoch. -/
abbrev Instant := ℤ

/-- A `Date`; `none` is the Invalid Date. -/
abbrev JsDate := Option Instant

/-- `a.getTime() < b.getTime()`, false when either is `NaN`. -/
def JsDate.before (a b : JsDate) : Bool :=
  match a, b with
  | some x, some y => x < y
  | _, _ => false

/-- `MILLISECONDS_PER_DAY` (`utils`). -/
def millisecondsPerDay : ℤ := 24 * 60 * 60 * 1000

/-! ## `String.prototype` -/

/-- The white space and line terminators that `trim` removes. -/
def isWhiteSpace (c : UInt16) : Bool :=
  c ∈ ([9, 10, 11, 12, 13, 32, 160, 0x1680, 0x2028, 0x2029, 0x202F, 0x205F, 0x3000, 0xFEFF] :
    List UInt16) || (0x2000 ≤ c && c ≤ 0x200A)

/-- The text, where it is one that counts as true: the empty text does not. -/
def truthy (text : Option JsString) : Option JsString := text.filter (· ≠ [])

/-- `trim()`. -/
def trim (s : JsString) : JsString := (s.dropWhile isWhiteSpace).rdropWhile isWhiteSpace

/-- `toUpperCase()`, as far as the result can hold a letter from `A` to `Z`:
    the small letters, dotless i, long s, sharp s and the ligatures. No other
    character becomes a text over those letters. -/
def toUpperCase (s : JsString) : JsString :=
  s.flatMap fun c =>
    if 97 ≤ c ∧ c ≤ 122 then [c - 32]
    else if c = 0x131 then js "I"
    else if c = 0x17F then js "S"
    else if c = 0xDF then js "SS"
    else if c = 0xFB00 then js "FF"
    else if c = 0xFB01 then js "FI"
    else if c = 0xFB02 then js "FL"
    else if c = 0xFB03 then js "FFI"
    else if c = 0xFB04 then js "FFL"
    else if c = 0xFB05 ∨ c = 0xFB06 then js "ST"
    else [c]

/-- `toLowerCase()`, as far as the result can be a text over the letters from
    `a` to `z`: the capitals and the Kelvin sign. -/
def toLowerCase (s : JsString) : JsString :=
  s.map fun c => if 65 ≤ c ∧ c ≤ 90 then c + 32 else if c = 0x212A then 107 else c

/-- A UUID as PostgreSQL prints it. It compares uuids by what they are, and a text
    may write their letters in capitals too. -/
def Uuid.canonical (id : Uuid) : Uuid := toLowerCase id

/-- The text of decimal digits. -/
def digitText (ds : List ℕ) : JsString := ds.map fun d => UInt16.ofNat (48 + d)

/-- `String(n)`. -/
def natText (n : ℕ) : JsString := digitText (Lib.Decimal.numeral n)

/-- The letters from `A` to `Z`. -/
def isCapital (c : UInt16) : Bool := 65 ≤ c && c ≤ 90

/-- The letters from `a` to `z`. -/
def isSmallLetter (c : UInt16) : Bool := 97 ≤ c && c ≤ 122

/-- The digits from `0` to `9`. -/
def isDigit (c : UInt16) : Bool := 48 ≤ c && c ≤ 57

/-- The code units of a range, counted from its first one. -/
theorem exists_of_between {c low high : UInt16} (h : (low ≤ c && c ≤ high) = true) :
    ∃ n < high.toNat + 1 - low.toNat, c = UInt16.ofNat (low.toNat + n) := by
  obtain ⟨hlow, hhigh⟩ := Bool.and_eq_true_iff.mp h
  have hlow : low.toNat ≤ c.toNat := UInt16.le_iff_toNat_le.mp (of_decide_eq_true hlow)
  have hhigh : c.toNat ≤ high.toNat := UInt16.le_iff_toNat_le.mp (of_decide_eq_true hhigh)
  refine ⟨c.toNat - low.toNat, by omega, ?_⟩
  rw [show low.toNat + (c.toNat - low.toNat) = c.toNat by omega, UInt16.ofNat_toNat]

theorem isCapital_iff {c : UInt16} : isCapital c = true ↔ ∃ n < 26, c = UInt16.ofNat (65 + n) := by
  constructor
  · exact exists_of_between
  · rintro ⟨n, hn, rfl⟩
    interval_cases n <;> rfl

theorem isDigit_iff {c : UInt16} : isDigit c = true ↔ ∃ n < 10, c = UInt16.ofNat (48 + n) := by
  constructor
  · exact exists_of_between
  · rintro ⟨n, hn, rfl⟩
    interval_cases n <;> rfl

theorem toLowerCase_toLowerCase (s : JsString) : toLowerCase (toLowerCase s) = toLowerCase s := by
  unfold toLowerCase
  rw [List.map_map]
  refine List.map_congr_left fun c _ => ?_
  rw [Function.comp_apply]
  by_cases hcapital : 65 ≤ c ∧ c ≤ 90
  · obtain ⟨n, hn, rfl⟩ := isCapital_iff.mp (show isCapital c = true by simpa [isCapital])
    interval_cases n <;> rfl
  · rw [if_neg hcapital]
    by_cases hkelvin : c = 0x212A
    · rw [if_pos hkelvin]
      rfl
    · rw [if_neg hkelvin, if_neg hcapital, if_neg hkelvin]

@[simp] theorem Uuid.canonical_canonical (id : Uuid) : id.canonical.canonical = id.canonical :=
  toLowerCase_toLowerCase id

theorem isWhiteSpace_of_isCapital {c : UInt16} (h : isCapital c = true) :
    isWhiteSpace c = false := by
  obtain ⟨n, hn, rfl⟩ := isCapital_iff.mp h
  interval_cases n <;> rfl

/-- A text in capitals is already in upper case. -/
theorem toUpperCase_of_isCapital {s : JsString} (h : ∀ c ∈ s, isCapital c = true) :
    toUpperCase s = s := by
  unfold toUpperCase
  conv_rhs => rw [← List.flatMap_singleton' s]
  apply List.flatMap_congr
  intro c hc
  obtain ⟨n, hn, rfl⟩ := isCapital_iff.mp (h c hc)
  interval_cases n <;> rfl

/-- Nothing is left to trim at either end. -/
theorem trim_eq_self {s : JsString} (hhead : ∀ c ∈ s.head?, isWhiteSpace c = false)
    (hlast : ∀ c ∈ s.getLast?, isWhiteSpace c = false) : trim s = s := by
  have hdrop : s.dropWhile isWhiteSpace = s := by
    cases s with
    | nil => rfl
    | cons c t => rw [List.dropWhile_cons_of_neg (by simp [hhead c rfl])]
  rw [trim, hdrop, List.rdropWhile_eq_self_iff]
  intro hne
  rw [hlast (s.getLast hne) (List.getLast?_eq_getLast_of_ne_nil hne)]
  exact Bool.false_ne_true

theorem trim_of_isCapital {s : JsString} (h : ∀ c ∈ s, isCapital c = true) : trim s = s :=
  trim_eq_self (fun c hc => isWhiteSpace_of_isCapital (h c (List.mem_of_mem_head? hc)))
    fun c hc => isWhiteSpace_of_isCapital (h c (List.mem_of_mem_getLast? hc))

theorem trim_trim (s : JsString) : trim (trim s) = trim s := by
  apply trim_eq_self
  · intro c hc
    obtain ⟨t, ht⟩ := List.rdropWhile_prefix isWhiteSpace (s.dropWhile isWhiteSpace)
    have hhead : (s.dropWhile isWhiteSpace).head? = some c := by
      rw [← ht, List.head?_append]
      simp [show (List.rdropWhile isWhiteSpace (s.dropWhile isWhiteSpace)).head? = some c from hc]
    rw [← List.find?_not_eq_head?_dropWhile] at hhead
    simpa using List.find?_some hhead
  · intro c hc
    obtain ⟨hne, rfl⟩ := List.mem_getLast?_eq_getLast hc
    exact Bool.eq_false_of_not_eq_true
      (List.rdropWhile_last_not isWhiteSpace (s.dropWhile isWhiteSpace) hne)

end KomiSaas.Shared
