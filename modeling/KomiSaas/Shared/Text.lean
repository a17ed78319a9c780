import KomiSaas.Shared.Js

/-!
# Texts that are kept

* `BoundedText`: the value objects that are a trimmed text between two lengths,
  which branches, tenants, menus and categories each have.
* `characters`: a JavaScript string as the text of characters that the database
  stores.
* `fitsText` and `fitsVarchar`: the values that a column takes. PostgreSQL counts a
  width in characters and stores no U+0000, which it refuses in a search too.
-/

namespace KomiSaas.Shared

/-! ## Texts between two lengths -/

/-- A trimmed text with a minimum and a maximum length. -/
structure BoundedText (min max : ℕ) where
  value : JsString
  trimmed : trim value = value
  minLength : min ≤ value.length
  maxLength : value.length ≤ max
  deriving DecidableEq

namespace BoundedText

variable {ε : Type} {min max : ℕ} {tooShort tooLong : ε}

/-- The `create` of such a text, with the exceptions of the two lengths. -/
def create {ε : Type} (min max : ℕ) (tooShort tooLong : ε) (raw : JsString) :
    Except ε (BoundedText min max) :=
  if hmin : (trim raw).length < min then .error tooShort
  else if hmax : max < (trim raw).length then .error tooLong
  else .ok ⟨trim raw, trim_trim raw, not_lt.mp hmin, not_lt.mp hmax⟩

/-- A text that was accepted is accepted again, unchanged. -/
theorem create_value (text : BoundedText min max) :
    create min max tooShort tooLong text.value = .ok text := by
  have hmin : ¬ (trim text.value).length < min := by
    rw [text.trimmed]
    exact not_lt.mpr text.minLength
  have hmax : ¬ max < (trim text.value).length := by
    rw [text.trimmed]
    exact not_lt.mpr text.maxLength
  rw [create, dif_neg hmin, dif_neg hmax]
  obtain ⟨value, htrimmed, -, -⟩ := text
  simp only [htrimmed]

theorem value_of_create {raw : JsString} {text : BoundedText min max}
    (h : create min max tooShort tooLong raw = .ok text) : text.value = trim raw := by
  unfold create at h
  split_ifs at h
  rw [← Except.ok.inj h]

end BoundedText

/-! ## Columns -/

def isHighSurrogate (c : UInt16) : Bool := 0xD800 ≤ c && c ≤ 0xDBFF

def isLowSurrogate (c : UInt16) : Bool := 0xDC00 ≤ c && c ≤ 0xDFFF

/-- The characters of a string: a high and a low surrogate in a row are one. -/
def characters : JsString → List ℕ
  | [] => []
  | [c] => [c.toNat]
  | c :: d :: s =>
    if isHighSurrogate c && isLowSurrogate d then
      (0x10000 + (c.toNat - 0xD800) * 0x400 + (d.toNat - 0xDC00)) :: characters s
    else c.toNat :: characters (d :: s)

/-- What a column `TEXT` takes. -/
def fitsText (s : JsString) : Bool := !s.contains 0

/-- What a column `VARCHAR(width)` takes, of texts that do not end in spaces. -/
def fitsVarchar (width : ℕ) (s : JsString) : Bool := fitsText s && (characters s).length ≤ width

/-- What a column `DATE` takes of a text `YYYY-MM-DD`, in days from the epoch: from the
    year 1 to the year 9999. -/
def fitsDate (day : ℤ) : Bool := -719162 ≤ day && day ≤ 2932896

/-- There are as many characters as code units at most. -/
theorem length_characters_le (s : JsString) : (characters s).length ≤ s.length := by
  fun_induction characters s with
  | case1 => exact le_rfl
  | case2 => exact le_rfl
  | case3 c d s _ ih =>
    rw [List.length_cons, List.length_cons, List.length_cons]
    omega
  | case4 c d s _ ih =>
    rw [List.length_cons, List.length_cons]
    omega

/-- A text within the width of its column only has to be free of U+0000. -/
theorem fitsVarchar_of_length_le {width : ℕ} {s : JsString} (h : s.length ≤ width) :
    fitsVarchar width s = fitsText s := by
  rw [fitsVarchar, decide_eq_true ((length_characters_le s).trans h), Bool.and_true]

end KomiSaas.Shared
