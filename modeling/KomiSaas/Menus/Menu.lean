import KomiSaas.Shared.Text
import KomiSaas.Lib.Errors
import KomiSaas.Lib.Forest

/-!
# `Menu`

* `MenuTypeEnum`, `MenuPrimitives` and `MenuResponse`: `menus/domain/types/`.
* `MenuException`: `menus/domain/exceptions/menu.exception.ts`, with the exception
  of the constructor of `Uuid`.
* `MenuCode` and `MenuTitle`: `menus/domain/value-object/`.
* `Menu`: `menus/domain/menu.aggregate.ts`.

A `Menu` carries what `fromPrimitives` checks, so these are the menus that it
lets through, and no others (`fromPrimitives_toPrimitives`). `isUuid` is `validate`
of the package `uuid`.
-/

namespace KomiSaas.Menus

open KomiSaas.Lib KomiSaas.Shared

/-! ## Types and exceptions -/

inductive MenuTypeEnum where
  | primary
  | secondary
  | tertiary
  deriving DecidableEq

/-- The text of each value of the enumeration. -/
def MenuTypeEnum.value : MenuTypeEnum → JsString
  | .primary => js "PRIMARY"
  | .secondary => js "SECONDARY"
  | .tertiary => js "TERTIARY"

inductive MenuException where
  | menuTitleTooShort (minLength : ℕ)
  | menuTitleTooLong (maxLength : ℕ)
  | invalidMenuCode (value : JsString)
  | invalidMenuHierarchy (detail : JsString)
  | invalidUuid (value : JsString)
  deriving DecidableEq

namespace MenuException

/-- The `code` of each exception. -/
def code : MenuException → JsString
  | .menuTitleTooShort _ => js "1600"
  | .menuTitleTooLong _ => js "1601"
  | .invalidMenuCode _ => js "1604"
  | .invalidMenuHierarchy _ => js "1603"
  | .invalidUuid _ => js "1014"

/-- The `detail` of each exception. -/
def detail : MenuException → JsString
  | .menuTitleTooShort minLength =>
    js "El título del menú debe tener mínimo " ++ natText minLength ++ js " caracteres."
  | .menuTitleTooLong maxLength =>
    js "El título del menú debe tener máximo " ++ natText maxLength ++ js " caracteres."
  | .invalidMenuCode value =>
    js "El código de menú \"" ++ value ++ js "\" no tiene un formato válido."
  | .invalidMenuHierarchy detail => detail
  | .invalidUuid value => js "El valor \"" ++ value ++ js "\" no es un UUID válido."

end MenuException

/-! ## Value objects -/

/-- `MenuId.create`, through the constructor of `Uuid`. -/
def MenuId.create (isUuid : JsString → Bool) (value : JsString) : Except MenuException Uuid :=
  if isUuid value then .ok value else .error (.invalidUuid value)

/-- `/^[A-Z][A-Z0-9_]*$/`. -/
def MenuCode.matchesFormat : JsString → Bool
  | [] => false
  | first :: rest => isCapital first && rest.all fun c => isCapital c || isDigit c || c = 95

/-- A code: capitals, digits and underscores, from one to sixty of them. -/
structure MenuCode where
  value : JsString
  maxLength : value.length ≤ 60
  format : MenuCode.matchesFormat value = true
  deriving DecidableEq

/-- `MenuCode.create` (lines 33–45). -/
def MenuCode.create (raw : JsString) : Except MenuException MenuCode :=
  let value := toUpperCase (trim raw)
  if hlength : value.length = 0 ∨ 60 < value.length then .error (.invalidMenuCode raw)
  else if hformat : MenuCode.matchesFormat value = true then
    .ok ⟨value, not_lt.mp (not_or.mp hlength).2, hformat⟩
  else .error (.invalidMenuCode raw)

abbrev MenuTitle := BoundedText 2 120

/-- `MenuTitle.create`. -/
def MenuTitle.create : JsString → Except MenuException MenuTitle :=
  BoundedText.create 2 120 (.menuTitleTooShort 2) (.menuTitleTooLong 120)

/-! ## The aggregate -/

structure MenuPrimitives where
  id : JsString
  parentId : Option JsString
  code : JsString
  type : MenuTypeEnum
  title : JsString
  subtitle : Option JsString
  icon : Option JsString
  url : Option JsString
  order : ℤ
  isActive : Bool
  isNew : Bool
  deriving DecidableEq

/-- The fields of a `MenuResponse` other than its `items`. -/
structure MenuFields where
  id : Uuid
  code : JsString
  type : MenuTypeEnum
  title : JsString
  subtitle : Option JsString
  icon : Option JsString
  url : Option JsString
  order : ℤ
  isNew : Bool
  deriving DecidableEq

/-- `MenuResponse`: its fields, and its `items` below it. -/
abbrev MenuResponse := RoseTree MenuFields

/-- A menu is primary exactly when it hangs from no other menu. -/
structure Menu where
  id : Uuid
  parentId : Option Uuid
  code : MenuCode
  type : MenuTypeEnum
  title : MenuTitle
  subtitle : Option JsString
  icon : Option JsString
  url : Option JsString
  order : ℤ
  isActive : Bool
  isNew : Bool
  rootIsPrimary : type = .primary ↔ parentId = none
  deriving DecidableEq

namespace Menu

/-- `ensureRootIsPrimary` (lines 149–165). -/
def ensureRootIsPrimary (primitives : MenuPrimitives) :
    Except MenuException (PLift (primitives.type = .primary ↔ primitives.parentId = none)) :=
  if hprimary : primitives.type = .primary then
    if hroot : primitives.parentId = none then .ok ⟨iff_of_true hprimary hroot⟩
    else .error (.invalidMenuHierarchy (js "El menú \"" ++ primitives.title ++
      js "\" es primario y no puede colgar de otro menú."))
  else if hroot : primitives.parentId = none then
    .error (.invalidMenuHierarchy (js "El menú \"" ++ primitives.title ++ js "\" es " ++
      toLowerCase primitives.type.value ++ js " y necesita un menú padre."))
  else .ok ⟨iff_of_false hprimary hroot⟩

/-- `fromPrimitives` (lines 40–56). -/
def fromPrimitives (isUuid : JsString → Bool) (primitives : MenuPrimitives) :
    Except MenuException Menu := do
  let rootIsPrimary ← ensureRootIsPrimary primitives
  let id ← MenuId.create isUuid primitives.id
  let code ← MenuCode.create primitives.code
  let title ← MenuTitle.create primitives.title
  .ok
    { id := id
      parentId := primitives.parentId
      code := code
      type := primitives.type
      title := title
      subtitle := primitives.subtitle
      icon := primitives.icon
      url := primitives.url
      order := primitives.order
      isActive := primitives.isActive
      isNew := primitives.isNew
      rootIsPrimary := rootIsPrimary.down }

/-- `toPrimitives` (lines 75–89). -/
def toPrimitives (menu : Menu) : MenuPrimitives where
  id := menu.id
  parentId := menu.parentId
  code := menu.code.value
  type := menu.type
  title := menu.title.value
  subtitle := menu.subtitle
  icon := menu.icon
  url := menu.url
  order := menu.order
  isActive := menu.isActive
  isNew := menu.isNew

/-- `toResponse` (lines 92–105), whose `items` are empty. -/
def toResponse (menu : Menu) : MenuFields where
  id := menu.id
  code := menu.code.value
  type := menu.type
  title := menu.title.value
  subtitle := menu.subtitle
  icon := menu.icon
  url := menu.url
  order := menu.order
  isNew := menu.isNew

/-- `expectedParentType` (lines 136–145). -/
def expectedParentType (menu : Menu) : Option MenuTypeEnum :=
  match menu.type with
  | .primary => none
  | .secondary => some .primary
  | .tertiary => some .secondary

/-- Only a root expects no parent. -/
theorem expectedParentType_eq_none_iff {menu : Menu} :
    menu.expectedParentType = none ↔ menu.parentId = none := by
  rw [← menu.rootIsPrimary]
  unfold expectedParentType
  cases menu.type <;> decide

end Menu

/-! ## The menus that `fromPrimitives` lets through -/

theorem isWhiteSpace_of_inCode {c : UInt16} (h : (isCapital c || isDigit c || c = 95) = true) :
    isWhiteSpace c = false := by
  rw [Bool.or_eq_true, Bool.or_eq_true, decide_eq_true_iff] at h
  rcases h with (h | h) | rfl
  · exact isWhiteSpace_of_isCapital h
  · obtain ⟨n, hn, rfl⟩ := isDigit_iff.mp h
    interval_cases n <;> rfl
  · rfl

namespace MenuCode

variable {value : JsString}

theorem inCode_of_matchesFormat (h : matchesFormat value = true) :
    ∀ c ∈ value, (isCapital c || isDigit c || c = 95) = true := by
  cases value with
  | nil => exact fun _ hc => absurd hc List.not_mem_nil
  | cons first rest =>
    unfold matchesFormat at h
    rw [Bool.and_eq_true, List.all_eq_true] at h
    rw [List.forall_mem_cons]
    exact ⟨by rw [h.1]; rfl, h.2⟩

/-- A code is not changed by what `create` does to a text. -/
theorem toUpperCase_trim_of_matchesFormat (h : matchesFormat value = true) :
    toUpperCase (trim value) = value := by
  have hcode := inCode_of_matchesFormat h
  rw [trim_eq_self (fun c hc => isWhiteSpace_of_inCode (hcode c (List.mem_of_mem_head? hc)))
    fun c hc => isWhiteSpace_of_inCode (hcode c (List.mem_of_mem_getLast? hc))]
  unfold toUpperCase
  conv_rhs => rw [← List.flatMap_singleton' value]
  apply List.flatMap_congr
  intro c hc
  have hc := hcode c hc
  rw [Bool.or_eq_true, Bool.or_eq_true, decide_eq_true_iff] at hc
  rcases hc with (hc | hc) | rfl
  · obtain ⟨n, hn, rfl⟩ := isCapital_iff.mp hc
    interval_cases n <;> rfl
  · obtain ⟨n, hn, rfl⟩ := isDigit_iff.mp hc
    interval_cases n <;> rfl
  · rfl

theorem create_value (code : MenuCode) : create code.value = .ok code := by
  have hvalue := toUpperCase_trim_of_matchesFormat code.format
  have hlength : ¬ (code.value.length = 0 ∨ 60 < code.value.length) := by
    have hmax := code.maxLength
    rintro (h | h)
    · have hformat := code.format
      rw [List.length_eq_zero_iff.mp h] at hformat
      cases hformat
    · omega
  unfold create
  simp only [hvalue]
  rw [dif_neg hlength, dif_pos code.format]

end MenuCode

variable {isUuid : JsString → Bool}

namespace Menu

theorem ensureRootIsPrimary_of_iff {primitives : MenuPrimitives}
    (h : primitives.type = .primary ↔ primitives.parentId = none) :
    ensureRootIsPrimary primitives = .ok ⟨h⟩ := by
  unfold ensureRootIsPrimary
  by_cases hprimary : primitives.type = .primary
  · rw [dif_pos hprimary, dif_pos (h.mp hprimary)]
  · rw [dif_neg hprimary, dif_neg (mt h.mpr hprimary)]

/-- Every menu with a valid id is one that `fromPrimitives` returns. -/
theorem fromPrimitives_toPrimitives (menu : Menu) (hid : isUuid menu.id = true) :
    fromPrimitives isUuid menu.toPrimitives = .ok menu := by
  have hroot : ensureRootIsPrimary menu.toPrimitives = .ok ⟨menu.rootIsPrimary⟩ :=
    ensureRootIsPrimary_of_iff menu.rootIsPrimary
  have hcode : MenuCode.create menu.toPrimitives.code = .ok menu.code := menu.code.create_value
  have htitle : MenuTitle.create menu.toPrimitives.title = .ok menu.title :=
    menu.title.create_value
  have hvalid : MenuId.create isUuid menu.toPrimitives.id = .ok menu.id := if_pos hid
  unfold fromPrimitives
  rw [hroot, hvalid, hcode, htitle]
  rfl

end Menu

end KomiSaas.Menus
