import KomiSaas.Shared.Money

/-!
# Exceptions and value objects of a product

* `ProductException`: `products/domain/exceptions/product-exception.ts`, with
  those of the shared value objects and of the categories.
* `EntityStatus`, with the methods of `Status`: `shared/domain/status/`.
* `ProductName`, `ProductSku`, `ProfitMargin`: `products/domain/value-object/`.
-/

namespace KomiSaas.Products

open KomiSaas.Lib.Decimal KomiSaas.Shared

/-! ## `Status` -/

/-- `EntityStatus`. -/
inductive EntityStatus where
  | active
  | inactive
  | archived
  | deleted
  deriving DecidableEq, Repr

namespace EntityStatus

/-- The text of each status. -/
def value : EntityStatus → JsString
  | .active => js "ACTIVE"
  | .inactive => js "INACTIVE"
  | .archived => js "ARCHIVED"
  | .deleted => js "DELETED"

/-- `ENTITY_STATUSES`. -/
def values : List EntityStatus := [.active, .inactive, .archived, .deleted]

/-- `Status.TRANSITIONS`. -/
def transitions : EntityStatus → List EntityStatus
  | .active => [.inactive, .deleted]
  | .inactive => [.active, .deleted]
  | .archived => [.inactive, .deleted]
  | .deleted => []

end EntityStatus

/-! ## Exceptions -/

/-- The exceptions that the use cases of the products throw. `notANumber` is the
    error of `new Decimal(text)`. -/
inductive ProductException where
  | productNotFound (productId : Uuid)
  | invalidProductName (reason : JsString)
  | productNameAlreadyExists (name : JsString)
  | tenantNotFound (tenantId : Uuid)
  | productAlreadyDeactivated
  | productAlreadyActivated
  | productDeleted (productId : Uuid)
  | invalidProfitMargin
  | productNotModified
  | priceMarginMismatch (margenObjetivo margenReal precioEsperado : JsString)
  | invalidTargetMargin
  | productCategoryNotFound (categoryId : Uuid)
  | invalidStatus (value : JsString)
  | statusAlreadySet (status : EntityStatus)
  | statusTransitionNotAllowed (status next : EntityStatus)
  | basePrice
  | invalidMoney (error : MoneyError)
  | notANumber (text : JsString)
  deriving DecidableEq

namespace ProductException

/-- The `code` of each exception; an error of the package has none. -/
def code : ProductException → Option JsString
  | .productNotFound _ => js "1400"
  | .invalidProductName _ => js "1401"
  | .productNameAlreadyExists _ => js "1402"
  | .tenantNotFound _ => js "1205"
  | .productAlreadyDeactivated => js "1404"
  | .productAlreadyActivated => js "1405"
  | .productDeleted _ => js "1406"
  | .invalidProfitMargin => js "1407"
  | .productNotModified => js "1408"
  | .priceMarginMismatch .. => js "1411"
  | .invalidTargetMargin => js "1412"
  | .productCategoryNotFound _ => js "1441"
  | .invalidStatus _ => js "1035"
  | .statusAlreadySet _ => js "1036"
  | .statusTransitionNotAllowed .. => js "1037"
  | .basePrice => js "1016"
  | .invalidMoney error => error.code
  | .notANumber _ => none

/-- The `detail` of each exception. -/
def detail : ProductException → JsString
  | .productNotFound productId => js "No se encontró el producto con id " ++ productId ++ js "."
  | .invalidProductName reason => js "Nombre de producto inválido: " ++ reason ++ js "."
  | .productNameAlreadyExists name =>
    js "El producto \"" ++ name ++ js "\" ya se encuentra registrado."
  | .tenantNotFound tenantId => js "No se encontró el tenant con id " ++ tenantId ++ js "."
  | .productAlreadyDeactivated => js "El producto ya se encuentra inactivo."
  | .productAlreadyActivated => js "El producto ya se encuentra activo."
  | .productDeleted productId =>
    js "El producto " ++ productId ++ js " fue eliminado y no se puede modificar."
  | .invalidProfitMargin => js "El margen de beneficio debe ser mayor que 0 y menor que 100."
  | .productNotModified => js "No se encontraron cambios para actualizar el producto."
  | .priceMarginMismatch margenObjetivo margenReal precioEsperado =>
    js "El precio de venta da un margen de " ++ margenReal ++ js " y no de " ++ margenObjetivo ++
      js ". Para ese margen el precio debería ser " ++ precioEsperado ++ js "."
  | .invalidTargetMargin =>
    js "El margen objetivo debe ser mayor o igual a 0 y menor que 100."
  | .productCategoryNotFound categoryId =>
    js "La categoría con id '" ++ categoryId ++ js "' no existe."
  | .invalidStatus value => js "El estado " ++ value ++ js " no es válido."
  | .statusAlreadySet status =>
    js "El registro ya se encuentra en estado " ++ status.value ++ js "."
  | .statusTransitionNotAllowed status next =>
    js "No se puede pasar de " ++ status.value ++ js " a " ++ next.value ++ js "."
  | .basePrice => js "El precio del producto debe ser mayor que 0."
  | .invalidMoney error => error.detail
  | .notANumber text => js "[DecimalError] Invalid argument: " ++ text

end ProductException

namespace EntityStatus

/-- `Status.create`. -/
def create (value : JsString) : Except ProductException EntityStatus :=
  match values.find? fun status => status.value = value with
  | none => .error (.invalidStatus value)
  | some status => .ok status

/-- `Status.transitionTo`. -/
def transitionTo (status next : EntityStatus) : Except ProductException EntityStatus :=
  if next = status then .error (.statusAlreadySet next)
  else if next ∉ status.transitions then .error (.statusTransitionNotAllowed status next)
  else .ok next

@[simp] theorem create_value (status : EntityStatus) : create status.value = .ok status := by
  cases status <;> decide

theorem eq_of_transitionTo {status next status' : EntityStatus}
    (h : status.transitionTo next = .ok status') : status' = next := by
  unfold transitionTo at h
  split_ifs at h
  exact (Except.ok.inj h).symm

end EntityStatus

/-! ## `ProductName` and `ProductSku` -/

/-- `ProductName`: a trimmed name within its length limits. -/
@[ext] structure ProductName where
  value : JsString
  trimmed : trim value = value
  minLength : 2 ≤ value.length
  maxLength : value.length ≤ 120

namespace ProductName

instance : DecidableEq ProductName := fun _ _ => decidable_of_iff _ ProductName.ext_iff.symm

theorem minLength_of_not_lt (raw : JsString) (h : ¬ (trim raw).length < 2) :
    2 ≤ (trim raw).length := not_lt.mp h

theorem maxLength_of_not_lt (raw : JsString) (h : ¬ 120 < (trim raw).length) :
    (trim raw).length ≤ 120 := not_lt.mp h

/-- `create` (lines 11–27). -/
def create (raw : JsString) : Except ProductException ProductName :=
  if hmin : (trim raw).length < 2 then .error (.invalidProductName (js "mínimo 2 caracteres"))
  else if hmax : 120 < (trim raw).length then
    .error (.invalidProductName (js "máximo 120 caracteres"))
  else .ok ⟨trim raw, trim_trim raw, minLength_of_not_lt raw hmin, maxLength_of_not_lt raw hmax⟩

/-- A name is accepted again, unchanged. -/
@[simp] theorem create_value (name : ProductName) : create name.value = .ok name := by
  have hmin : ¬ (trim name.value).length < 2 := by
    rw [name.trimmed]
    exact not_lt.mpr name.minLength
  have hmax : ¬ 120 < (trim name.value).length := by
    rw [name.trimmed]
    exact not_lt.mpr name.maxLength
  rw [create, dif_neg hmin, dif_neg hmax]
  congr 1
  obtain ⟨value, htrimmed, -, -⟩ := name
  simp only [htrimmed]

end ProductName

/-- `ProductSku.fromNumber`. -/
def ProductSku.fromNumber (sequence : ℕ) : JsString :=
  let text := natText sequence
  js "PROD-" ++ (List.replicate (4 - text.length) 48 ++ text)

/-! ## `ProfitMargin` -/

/-- `ProfitMargin`, in hundredths of a percent. The private constructor rounds
    to two decimals what `create` has checked before. -/
@[ext] structure ProfitMargin where
  hundredths : ℕ
  le : hundredths ≤ 10000
  deriving DecidableEq

namespace ProfitMargin

theorem toScale_le {x : ℚ≥0} (h : x < 100) : toScale 2 x ≤ 10000 := by
  obtain ⟨n, hn⟩ : ∃ n, toScale 2 x = n := ⟨_, rfl⟩
  obtain ⟨hlow, -⟩ := nearest_eq_iff.mp hn
  have hx : (x : ℚ) < 100 := by exact_mod_cast h
  have hlt : (n : ℚ) < 10001 := by
    push_cast at hlow
    linarith
  rw [hn]
  exact Nat.lt_succ_iff.mp (by exact_mod_cast hlt)

/-- `create` (lines 12–31). -/
def create (decimal : DecimalJs) (value : JsString) : Except ProductException ProfitMargin :=
  match decimal.parse value with
  | none => .error .invalidProfitMargin
  | some parsed =>
    if !parsed.isFinite then .error .invalidProfitMargin
    else if h : parsed.magnitude = 0 ∨ parsed.isNegative = true ∨ 100 ≤ parsed.magnitude then
      .error .invalidProfitMargin
    else .ok ⟨toScale 2 parsed.magnitude, toScale_le (by simpa using (not_or.mp (not_or.mp h).2).2)⟩

/-- `getValue`, `toString` and `toPrimitives`. -/
def getValue (decimal : DecimalJs) (margin : ProfitMargin) : JsString :=
  decimal.toFixed2 (margin.hundredths / 10 ^ 2)

variable {decimal : DecimalJs} {text : JsString} {margin : ProfitMargin}

theorem create_ok_iff : create decimal text = .ok margin ↔
    ∃ magnitude, decimal.parse text = some (.finite false magnitude) ∧ 0 < magnitude ∧
      magnitude < 100 ∧ margin.hundredths = toScale 2 magnitude := by
  unfold create
  constructor
  · intro h
    split at h
    · cases h
    · rename_i parsed hparse
      split_ifs at h with hfinite hrange
      obtain rfl := Except.ok.inj h
      obtain ⟨hzero, hnegative, hlt⟩ : parsed.magnitude ≠ 0 ∧ ¬ parsed.isNegative = true ∧
          parsed.magnitude < 100 := by simpa [not_or] using hrange
      cases parsed with
      | nan => exact absurd rfl hfinite
      | infinity negative => exact absurd rfl hfinite
      | finite negative magnitude =>
        obtain rfl : negative = false := Bool.eq_false_of_not_eq_true hnegative
        exact ⟨magnitude, hparse, pos_iff_ne_zero.mpr hzero, hlt, rfl⟩
  · rintro ⟨magnitude, hparse, hpos, hlt, hvalue⟩
    obtain ⟨hundredths, hle⟩ := margin
    have hrange : ¬ ((Decimal.finite false magnitude).magnitude = 0 ∨
        (Decimal.finite false magnitude).isNegative = true ∨
        100 ≤ (Decimal.finite false magnitude).magnitude) := by
      simp [Decimal.magnitude, Decimal.isNegative, hpos.ne', not_le.mpr hlt]
    rw [hparse]
    simp only [Decimal.isFinite, Bool.not_true, Bool.false_eq_true, if_false, dif_neg hrange]
    simp only [Decimal.magnitude, Except.ok.injEq, ProfitMargin.mk.injEq]
    exact hvalue.symm

/-- What a margin prints is accepted again unless it was rounded to `0.00` or to
    `100.00`, and then unchanged. -/
theorem create_getValue (hzero : margin.hundredths ≠ 0) (hlt : margin.hundredths < 10000) :
    create decimal (margin.getValue decimal) = .ok margin := by
  have hpos : (0 : ℚ≥0) < margin.hundredths / 10 ^ 2 := by positivity
  have hlt' : (margin.hundredths : ℚ≥0) / 10 ^ 2 < 100 := by
    rw [div_lt_iff₀ (by positivity)]
    norm_num
    exact_mod_cast hlt
  exact create_ok_iff.mpr ⟨_, decimal.parse_toFixed2 _, hpos, hlt', (toScale_div _ _).symm⟩

theorem create_getValue_zero (hzero : margin.hundredths = 0) :
    create decimal (margin.getValue decimal) = .error .invalidProfitMargin := by
  have hparse : decimal.parse (margin.getValue decimal) = some (.finite false 0) := by
    have := decimal.parse_toFixed2 margin.hundredths
    rw [hzero] at this
    simpa [getValue, hzero] using this
  rw [create, hparse]
  rfl

end ProfitMargin

end KomiSaas.Products
