import KomiSaas.Logging.Sanitizer

/-!
# What the log shows of a secret

Two values that differ only in what they store under sensitive keys
(`SameOutsideSecrets`) are written to the log alike: `sanitize` is a function of
the rest. The relation goes down objects and arrays; below a sensitive key it
asks nothing.

Main results: `sanitize_congr`, `sanitized_alike`.
-/

namespace KomiSaas.Logging

open KomiSaas.Shared

mutual

/-- The values differ only in what they store under sensitive keys. -/
inductive SameOutsideSecrets : JsValue → JsValue → Prop
  | same (value : JsValue) : SameOutsideSecrets value value
  | array {items others : List JsValue} (h : ItemsSame items others) :
      SameOutsideSecrets (.array items) (.array others)
  | object {fields others : List (JsString × JsValue)} (h : FieldsSame fields others) :
      SameOutsideSecrets (.object fields) (.object others)

/-- `SameOutsideSecrets`, item by item. -/
inductive ItemsSame : List JsValue → List JsValue → Prop
  | nil : ItemsSame [] []
  | cons {item other : JsValue} {items others : List JsValue}
      (hitem : SameOutsideSecrets item other) (hitems : ItemsSame items others) :
      ItemsSame (item :: items) (other :: others)

/-- The keys are the same, and a value under a key that is not sensitive is the
    same outside its own secrets. -/
inductive FieldsSame : List (JsString × JsValue) → List (JsString × JsValue) → Prop
  | nil : FieldsSame [] []
  | secret {key : JsString} {nested other : JsValue} {fields others : List (JsString × JsValue)}
      (hkey : isSensitive key = true) (hfields : FieldsSame fields others) :
      FieldsSame ((key, nested) :: fields) ((key, other) :: others)
  | plain {key : JsString} {nested other : JsValue} {fields others : List (JsString × JsValue)}
      (hnested : SameOutsideSecrets nested other) (hfields : FieldsSame fields others) :
      FieldsSame ((key, nested) :: fields) ((key, other) :: others)

end

/-- What is left out of an array is counted alike. -/
theorem ItemsSame.length_eq {items others : List JsValue} (h : ItemsSame items others) :
    items.length = others.length := by
  induction items generalizing others with
  | nil =>
    cases h
    rfl
  | cons item items ih =>
    cases h with
    | cons hitem hitems => rw [List.length_cons, List.length_cons, ih hitems]

mutual

/-- `sanitize` depends on nothing that is stored under a sensitive key. -/
theorem sanitize_congr {value other : JsValue} (h : SameOutsideSecrets value other)
    (depth : ℕ) : sanitize depth value = sanitize depth other :=
  match h with
  | .same _ => rfl
  | .array hitems => by
    rw [sanitize, sanitize, sanitizeItems_congr hitems (depth + 1) maxArrayItems,
      hitems.length_eq]
  | .object hfields => by
    rw [sanitize, sanitize, sanitizeFields_congr hfields (depth + 1)]

theorem sanitizeItems_congr {items others : List JsValue} (h : ItemsSame items others)
    (depth limit : ℕ) : sanitizeItems depth limit items = sanitizeItems depth limit others :=
  match h, limit with
  | .nil, _ => rfl
  | .cons _ _, 0 => by rw [sanitizeItems, sanitizeItems]
  | .cons hitem hitems, limit + 1 => by
    rw [sanitizeItems, sanitizeItems, sanitize_congr hitem depth,
      sanitizeItems_congr hitems depth limit]

theorem sanitizeFields_congr {fields others : List (JsString × JsValue)}
    (h : FieldsSame fields others) (depth : ℕ) :
    sanitizeFields depth fields = sanitizeFields depth others :=
  match h with
  | .nil => rfl
  | .secret hkey hfields => by
    -- both write the mark of a redacted field
    rw [sanitizeFields, sanitizeFields, if_pos hkey, if_pos hkey,
      sanitizeFields_congr hfields depth]
  | .plain hnested hfields => by
    rw [sanitizeFields, sanitizeFields, sanitize_congr hnested depth,
      sanitizeFields_congr hfields depth]

end

/-- Both are written, and with the same text. -/
theorem sanitized_alike {value other : JsValue} (hvalue : value.datesValid = true)
    (hsame : SameOutsideSecrets value other) (depth : ℕ) :
    ∃ result, sanitize depth value = .ok result ∧ sanitize depth other = .ok result := by
  obtain ⟨result, hresult⟩ := exists_sanitize depth value hvalue
  exact ⟨result, hresult, by rw [← sanitize_congr hsame depth, hresult]⟩

/-- A body with a password, inside an array. -/
def sampleBody (password : JsString) : JsValue :=
  .array [.object [(js "usuario", .string (js "ana")), (js "PassWord", .string password)]]

theorem sanitized_alike_password :
    ∃ result, sanitize 0 (sampleBody (js "uno")) = .ok result ∧
      sanitize 0 (sampleBody (js "otra")) = .ok result :=
  sanitized_alike (by decide +kernel)
    (.array (.cons (.object (.plain (.same _) (.secret (by decide +kernel) .nil))) .nil)) 0

end KomiSaas.Logging
