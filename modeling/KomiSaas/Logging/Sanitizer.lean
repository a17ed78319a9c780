import KomiSaas.Shared.IsoDate

/-!
# `sanitize`

`infrastructure/logging/sanitizer.util.ts`: the copy of a value that is written
to the log. A text longer than the limit, an array with more items than the
limit and what is nested too deep are abridged, and each abridgement leaves a
mark (`truncate_eq_self_iff`, `sanitize_array`).
-/

namespace KomiSaas.Logging

open KomiSaas.Shared

/-- A value that reaches the log. A number is its IEEE 754 bits. -/
inductive JsValue where
  | undefined
  | null
  | boolean (value : Bool)
  | number (bits : UInt64)
  | string (value : JsString)
  | date (value : JsDate)
  | error (message : JsString)
  | buffer (byteLength : ℕ)
  | array (items : List JsValue)
  | object (fields : List (JsString × JsValue))

/-- The error that `toISOString` throws on an Invalid Date. -/
inductive RangeError where
  | invalidTimeValue
  deriving DecidableEq, Repr

/-- `REDACTED` (line 2). -/
def redacted : JsString := js "[REDACTADO]"

/-- `SENSITIVE_FIELDS` (lines 9–28). -/
def sensitiveFields : List JsString :=
  ["password", "newpassword", "oldpassword", "currentpassword", "confirmpassword", "passwordhash",
    "hashedpassword", "secret", "clientsecret", "token", "accesstoken", "refreshtoken", "idtoken",
    "apikey", "api_key", "authorization", "cookie", "sessionid"].map js

/-- `MAX_DEPTH` (line 40). -/
def maxDepth : ℕ := 8

/-- `MAX_STRING_LENGTH` (line 47). -/
def maxStringLength : ℕ := 2000

/-- `MAX_ARRAY_ITEMS` (line 51). -/
def maxArrayItems : ℕ := 20

/-- The key is in `BLACKLIST`. -/
def isSensitive (key : JsString) : Bool := toLowerCase key ∈ sensitiveFields

/-- What `truncate` writes in the place of `n` units. -/
def cutMark (n : ℕ) : JsString := js " [+" ++ natText n ++ js " caracteres]"

/-- `truncate` (lines 132–135). -/
def truncate (value : JsString) : JsString :=
  if value.length ≤ maxStringLength then value
  else value.take maxStringLength ++ cutMark (value.length - maxStringLength)

/-- What `sanitizeArray` adds after the visible items. -/
def omittedMark (length : ℕ) : List JsValue :=
  if maxArrayItems < length then
    [.string (js "[+" ++ natText (length - maxArrayItems) ++ js " elementos]")]
  else []

mutual

/-- `sanitize` (lines 66–110) and `sanitizeArray` (lines 118–128). -/
def sanitize (depth : ℕ) : JsValue → Except RangeError JsValue
  | .string value => .ok (.string (truncate value))
  | .undefined => .ok .undefined
  | .null => .ok .null
  | .boolean value => .ok (.boolean value)
  | .number bits => .ok (.number bits)
  | .date none => .error .invalidTimeValue
  | .date (some instant) => .ok (.string (isoText instant))
  | .error message => .ok (.error message)
  | .buffer byteLength =>
    .ok (.string (js "[Buffer " ++ natText byteLength ++ js " bytes]"))
  | .array items =>
    if maxDepth ≤ depth then .ok (.string (js "[PROFUNDIDAD MAXIMA]"))
    else do
      let visible ← sanitizeItems (depth + 1) maxArrayItems items
      .ok (.array (visible ++ omittedMark items.length))
  | .object fields =>
    if maxDepth ≤ depth then .ok (.string (js "[PROFUNDIDAD MAXIMA]"))
    else do
      let sanitized ← sanitizeFields (depth + 1) fields
      .ok (.object sanitized)

/-- The first `limit` items, sanitized. -/
def sanitizeItems (depth limit : ℕ) : List JsValue → Except RangeError (List JsValue)
  | [] => .ok []
  | item :: items =>
    match limit with
    | 0 => .ok []
    | limit + 1 => do
      let first ← sanitize depth item
      let rest ← sanitizeItems depth limit items
      .ok (first :: rest)

/-- The fields of an object: a sensitive one is redacted, the others sanitized. -/
def sanitizeFields (depth : ℕ) :
    List (JsString × JsValue) → Except RangeError (List (JsString × JsValue))
  | [] => .ok []
  | (key, nested) :: fields =>
    if isSensitive key then do
      let rest ← sanitizeFields depth fields
      .ok ((key, .string redacted) :: rest)
    else do
      let first ← sanitize depth nested
      let rest ← sanitizeFields depth fields
      .ok ((key, first) :: rest)

end

/-! ## What is sanitized without an error -/

mutual

/-- No date in the value is an Invalid Date. -/
def JsValue.datesValid : JsValue → Bool
  | .date value => value.isSome
  | .array items => itemsValid items
  | .object fields => fieldsValid fields
  | _ => true

def itemsValid : List JsValue → Bool
  | [] => true
  | item :: items => item.datesValid && itemsValid items

def fieldsValid : List (JsString × JsValue) → Bool
  | [] => true
  | (_, nested) :: fields => nested.datesValid && fieldsValid fields

end

mutual

/-- Only an Invalid Date makes `sanitize` throw. -/
theorem exists_sanitize (depth : ℕ) :
    ∀ value : JsValue, value.datesValid = true → ∃ result, sanitize depth value = .ok result
  | .undefined, _ | .null, _ | .boolean _, _ | .number _, _ | .string _, _ | .error _, _
  | .buffer _, _ | .date (some _), _ => by
    rw [sanitize]
    exact ⟨_, rfl⟩
  | .date none, h => by
    rw [JsValue.datesValid] at h
    cases h
  | .array items, h => by
    rw [JsValue.datesValid] at h
    obtain ⟨visible, hvisible⟩ := exists_sanitizeItems (depth + 1) maxArrayItems items h
    rw [sanitize, hvisible]
    split_ifs
    · exact ⟨_, rfl⟩
    · exact ⟨_, rfl⟩
  | .object fields, h => by
    rw [JsValue.datesValid] at h
    obtain ⟨sanitized, hsanitized⟩ := exists_sanitizeFields (depth + 1) fields h
    rw [sanitize, hsanitized]
    split_ifs
    · exact ⟨_, rfl⟩
    · exact ⟨_, rfl⟩

theorem exists_sanitizeItems (depth limit : ℕ) :
    ∀ items : List JsValue, itemsValid items = true →
      ∃ visible, sanitizeItems depth limit items = .ok visible
  | [], _ => by
    rw [sanitizeItems]
    exact ⟨_, rfl⟩
  | item :: items, h => by
    rw [itemsValid, Bool.and_eq_true] at h
    cases limit with
    | zero =>
      rw [sanitizeItems]
      exact ⟨_, rfl⟩
    | succ limit =>
      obtain ⟨first, hfirst⟩ := exists_sanitize depth item h.1
      obtain ⟨rest, hrest⟩ := exists_sanitizeItems depth limit items h.2
      rw [sanitizeItems, hfirst, hrest]
      exact ⟨_, rfl⟩

theorem exists_sanitizeFields (depth : ℕ) :
    ∀ fields : List (JsString × JsValue), fieldsValid fields = true →
      ∃ sanitized, sanitizeFields depth fields = .ok sanitized
  | [], _ => by
    rw [sanitizeFields]
    exact ⟨_, rfl⟩
  | (key, nested) :: fields, h => by
    rw [fieldsValid, Bool.and_eq_true] at h
    obtain ⟨first, hfirst⟩ := exists_sanitize depth nested h.1
    obtain ⟨rest, hrest⟩ := exists_sanitizeFields depth fields h.2
    rw [sanitizeFields, hfirst, hrest]
    split_ifs
    · exact ⟨_, rfl⟩
    · exact ⟨_, rfl⟩

end

theorem itemsValid_eq_all {items : List JsValue} : itemsValid items = items.all (·.datesValid) := by
  induction items with
  | nil => rfl
  | cons item items ih => rw [itemsValid, ih, List.all_cons]

/-! ## Abridged texts -/

theorem length_natText {n : ℕ} (h : n ≠ 0) : (natText n).length = Nat.log 10 n + 1 := by
  unfold natText digitText Lib.Decimal.numeral
  rw [if_neg h, List.length_map, List.length_reverse, Nat.length_digits 10 n (by norm_num) h]

/-- Only seventeen units are replaced by a mark of their own length. -/
theorem eq_of_length_cutMark {n : ℕ} (h : n ≠ 0) (hlength : (cutMark n).length = n) : n = 17 := by
  have hopen : (js " [+").length = 3 := by decide
  have hclose : (js " caracteres]").length = 12 := by decide
  have hlog : Nat.log 10 n + 16 = n := by
    unfold cutMark at hlength
    rw [List.length_append, List.length_append, hopen, hclose, length_natText h] at hlength
    omega
  by_cases hsmall : Nat.log 10 n < 2
  · have hbound : 16 ≤ n ∧ n < 18 := by omega
    obtain ⟨hlow, hhigh⟩ := hbound
    interval_cases n
    · norm_num at hlog
    · rfl
  · -- from two up, the logarithm is too small to make up the difference
    have hpow : 10 ^ Nat.log 10 n ≤ n := Nat.pow_log_le_self 10 h
    have hlt : Nat.log 10 n - 2 < 10 ^ (Nat.log 10 n - 2) := Nat.lt_pow_self (by norm_num)
    have hsplit : 10 ^ Nat.log 10 n = 100 * 10 ^ (Nat.log 10 n - 2) := by
      rw [show (100 : ℕ) = 10 ^ 2 by norm_num, ← pow_add]
      congr 1
      omega
    omega

/-- A text is written whole exactly when it is within the limit, or happens to
    end in the mark that would be written for it. -/
theorem truncate_eq_self_iff {value : JsString} :
    truncate value = value ↔ value.length ≤ maxStringLength ∨
      (value.length = maxStringLength + 17 ∧ cutMark 17 <:+ value) := by
  have hmark : (cutMark 17).length = 17 := by decide +kernel
  unfold truncate
  split_ifs with hshort
  · exact iff_of_true rfl (.inl hshort)
  constructor
  · intro hsame
    have hlength := congrArg List.length hsame
    rw [List.length_append, List.length_take] at hlength
    have h17 := eq_of_length_cutMark (n := value.length - maxStringLength) (by omega) (by omega)
    refine .inr ⟨by omega, value.take maxStringLength, ?_⟩
    rw [← h17]
    exact hsame
  · rintro (hle | ⟨hlength, head, rfl⟩)
    · exact absurd hle hshort
    · have hhead : head.length = maxStringLength := by
        rw [List.length_append, hmark] at hlength
        omega
      rw [hlength, Nat.add_sub_cancel_left, List.take_left' hhead]

/-! ## Arrays and flat objects -/

theorem sanitizeItems_map {α : Type} {depth : ℕ} {write read : α → JsValue} {values : List α}
    (h : ∀ a ∈ values, sanitize depth (write a) = .ok (read a)) (limit : ℕ) :
    sanitizeItems depth limit (values.map write) = .ok ((values.take limit).map read) := by
  induction values generalizing limit with
  | nil => rw [List.map_nil, List.take_nil, sanitizeItems, List.map_nil]
  | cons a values ih =>
    cases limit with
    | zero => simp [sanitizeItems]
    | succ limit =>
      rw [List.map_cons, sanitizeItems, h a List.mem_cons_self,
        ih (fun b hb => h b (List.mem_cons_of_mem _ hb)) limit]
      rfl

/-- An array keeps the limit of items, and says how many it leaves out. -/
theorem sanitize_array {α : Type} {depth : ℕ} {write read : α → JsValue} {values : List α}
    (hdepth : depth < maxDepth)
    (h : ∀ a ∈ values, sanitize (depth + 1) (write a) = .ok (read a)) :
    sanitize depth (.array (values.map write)) =
      .ok (.array ((values.take maxArrayItems).map read ++ omittedMark values.length)) := by
  rw [sanitize, if_neg (by omega), sanitizeItems_map h, List.length_map]
  rfl

theorem sanitizeFields_map {depth : ℕ} {read : JsValue → JsValue}
    {fields : List (JsString × JsValue)}
    (h : ∀ field ∈ fields, isSensitive field.1 = false ∧
      sanitize depth field.2 = .ok (read field.2)) :
    sanitizeFields depth fields = .ok (fields.map fun field => (field.1, read field.2)) := by
  induction fields with
  | nil => rw [sanitizeFields, List.map_nil]
  | cons field fields ih =>
    obtain ⟨hplain, hread⟩ := h field List.mem_cons_self
    rw [sanitizeFields, if_neg (by rw [hplain]; exact Bool.false_ne_true), hread,
      ih fun f hf => h f (List.mem_cons_of_mem _ hf)]
    rfl

/-- A flat object without sensitive fields keeps every field. -/
theorem sanitize_object {depth : ℕ} {read : JsValue → JsValue}
    {fields : List (JsString × JsValue)} (hdepth : depth < maxDepth)
    (h : ∀ field ∈ fields, isSensitive field.1 = false ∧
      sanitize (depth + 1) field.2 = .ok (read field.2)) :
    sanitize depth (.object fields) =
      .ok (.object (fields.map fun field => (field.1, read field.2))) := by
  rw [sanitize, if_neg (by omega), sanitizeFields_map h]
  rfl

/-! ## Invalid dates -/

/-- A field that makes `sanitize` throw makes it throw for the whole object. -/
theorem sanitizeFields_error {depth : ℕ} {field : JsString × JsValue}
    {fields : List (JsString × JsValue)} (hmem : field ∈ fields)
    (hplain : isSensitive field.1 = false)
    (h : sanitize depth field.2 = .error .invalidTimeValue) :
    sanitizeFields depth fields = .error .invalidTimeValue := by
  induction fields with
  | nil => simp at hmem
  | cons first fields ih =>
    rw [sanitizeFields]
    rcases List.mem_cons.mp hmem with rfl | hmem
    · rw [if_neg (by rw [hplain]; exact Bool.false_ne_true), h]
      rfl
    · rw [ih hmem]
      split_ifs
      · rfl
      · cases sanitize depth first.2 with
        | error e =>
          cases e
          rfl
        | ok value => rfl

/-- The first item of an array is always sanitized. -/
theorem sanitize_array_error {depth : ℕ} {item : JsValue} {items : List JsValue}
    (hdepth : depth < maxDepth) (h : sanitize (depth + 1) item = .error .invalidTimeValue) :
    sanitize depth (.array (item :: items)) = .error .invalidTimeValue := by
  have hlimit : maxArrayItems = 19 + 1 := rfl
  rw [sanitize, if_neg (by omega), hlimit, sanitizeItems, h]
  rfl

end KomiSaas.Logging
