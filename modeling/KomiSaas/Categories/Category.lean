import KomiSaas.Shared.Listing
import KomiSaas.Lib.Errors
import KomiSaas.Lib.Rows

/-!
# The product categories

* `CategoryException`: `product-categories/domain/exceptions/product-category.exception.ts`.
* `CategoryName` and `ProductCategory`: `product-categories/domain/`.
* `ProductCategoryRepository`: `product-category.repository.impl.ts`, over the table
  `product_category` (`public/db/01-init.sql`, lines 364–389).
* `CreateCategory` and `UpdateCategory`: `product-categories/application/use-cases/`.
-/

namespace KomiSaas.Categories

open KomiSaas.Lib KomiSaas.Shared

/-- The exceptions of the context. -/
inductive CategoryException where
  | categoryNotFound (id : Uuid)
  | categoryAlreadyExists (name : JsString)
  | categoryAlreadyActivated
  | categoryAlreadyDeactivated
  | categoryNameTooShort (minLength : ℕ)
  | categoryNameTooLong (maxLength : ℕ)
  | tenantNotFound (tenantId : Uuid)
  | tenantIdRequiredForSearch
  deriving DecidableEq

namespace CategoryException

/-- The `code` of each exception. -/
def code : CategoryException → JsString
  | .categoryNotFound _ => js "1441"
  | .categoryAlreadyExists _ => js "1442"
  | .categoryAlreadyActivated => js "1443"
  | .categoryAlreadyDeactivated => js "1444"
  | .categoryNameTooShort _ => js "1445"
  | .categoryNameTooLong _ => js "1446"
  | .tenantNotFound _ => js "1205"
  | .tenantIdRequiredForSearch => js "1447"

/-- The `detail` of each exception. -/
def detail : CategoryException → JsString
  | .categoryNotFound id => js "La categoría con id '" ++ id ++ js "' no existe."
  | .categoryAlreadyExists name => js "La categoría \"" ++ name ++ js "\" ya existe."
  | .categoryAlreadyActivated => js "La categoría ya se encuentra activada."
  | .categoryAlreadyDeactivated => js "La categoría ya se encuentra desactivada."
  | .categoryNameTooShort minLength =>
    js "El nombre de la categoría debe tener mínimo " ++ natText minLength ++ js " caracteres."
  | .categoryNameTooLong maxLength =>
    js "El nombre de la categoría debe tener máximo " ++ natText maxLength ++ js " caracteres."
  | .tenantNotFound tenantId => js "No se encontró el tenant con id " ++ tenantId ++ js "."
  | .tenantIdRequiredForSearch => js "El negocio es obligatorio para operar sobre categorías."

end CategoryException

abbrev CategoryName := BoundedText 2 120

def CategoryName.create : JsString → Except CategoryException CategoryName :=
  BoundedText.create 2 120 (.categoryNameTooShort 2) (.categoryNameTooLong 120)

/-! ## The aggregate -/

structure ProductCategory where
  id : Uuid
  tenantId : Uuid
  name : CategoryName
  description : Option JsString
  isActive : Bool
  createdAt : Instant
  updatedAt : Instant
  deriving DecidableEq

namespace ProductCategory

/-- `create` (lines 24–40). -/
def create (id tenantId : Uuid) (name : CategoryName) (description : Option JsString)
    (now : Instant) : ProductCategory where
  id := id
  tenantId := tenantId
  name := name
  description := description
  isActive := true
  createdAt := now
  updatedAt := now

/-- `update` (lines 69–91): a field that is sent as it already is changes nothing. -/
def update (category : ProductCategory) (name : Option CategoryName)
    (description : Option JsString) (now : Instant) : ProductCategory :=
  let renamed := name.any fun name => name.value ≠ category.name.value
  let described := description.isSome && description ≠ category.description
  { category with
    name := if renamed then name.getD category.name else category.name
    description := if described then description else category.description
    updatedAt := if renamed || described then now else category.updatedAt }

/-- `activate` (lines 93–100). -/
def activate (category : ProductCategory) (now : Instant) :
    Except CategoryException ProductCategory :=
  if category.isActive then .error .categoryAlreadyActivated
  else .ok { category with isActive := true, updatedAt := now }

/-- `deactivate` (lines 102–109). -/
def deactivate (category : ProductCategory) (now : Instant) :
    Except CategoryException ProductCategory :=
  if !category.isActive then .error .categoryAlreadyDeactivated
  else .ok { category with isActive := false, updatedAt := now }

end ProductCategory

/-! ## The repository -/

/-- A row of `product_category`. -/
structure CategoryRow where
  id : Uuid
  tenantId : Uuid
  name : JsString
  description : Option JsString
  isActive : Bool
  createdAt : Instant
  updatedAt : Instant
  deriving DecidableEq

/-- The `LOWER` of the database, and `DATE` of an instant, as a text. -/
structure CategoryEnv where
  lower : JsString → JsString
  date : Instant → JsString

namespace ProductCategoryMapper

/-- `toEntity`. -/
def toEntity (category : ProductCategory) : CategoryRow where
  id := category.id
  tenantId := category.tenantId
  name := category.name.value
  description := category.description
  isActive := category.isActive
  createdAt := category.createdAt
  updatedAt := category.updatedAt

/-- `toDomain` with `ProductCategory.fromPrimitives`. -/
def toDomain (entity : CategoryRow) : Except CategoryException ProductCategory := do
  let name ← CategoryName.create entity.name
  .ok
    { id := entity.id
      tenantId := entity.tenantId
      name := name
      description := entity.description
      isActive := entity.isActive
      createdAt := entity.createdAt
      updatedAt := entity.updatedAt }

end ProductCategoryMapper

namespace ProductCategoryRepository

/-- `uq_product_category_name_tenant_lower`: no other category of the business has the
    name. -/
def nameFree (env : CategoryEnv) (categories : List CategoryRow) (category : ProductCategory) :
    Bool :=
  categories.all fun row =>
    row.id = category.id || row.tenantId ≠ category.tenantId ||
      env.lower row.name ≠ env.lower category.name.value

/-- `save` (lines 30–47): an `INSERT`; `none` is a unique violation. -/
def save (env : CategoryEnv) (categories : List CategoryRow) (category : ProductCategory) :
    Option (List CategoryRow) :=
  if category.id ∈ categories.map (·.id) || !nameFree env categories category then none
  else some (categories ++ [ProductCategoryMapper.toEntity category])

/-- `findById` (lines 49–58). -/
def findById (categories : List CategoryRow) (id tenantId : Uuid) :
    Except CategoryException (Option ProductCategory) :=
  match categories.find? fun row => row.id = id && row.tenantId = tenantId with
  | none => .ok none
  | some row => (ProductCategoryMapper.toDomain row).map some

/-- `existsByName` (lines 60–77). -/
def existsByName (env : CategoryEnv) (categories : List CategoryRow) (name : JsString)
    (tenantId : Uuid) (excludeId : Option Uuid) : Bool :=
  categories.any fun row =>
    row.tenantId = tenantId && env.lower row.name = env.lower name &&
      (excludeId.filter (· ≠ [])).all fun excludeId => row.id ≠ excludeId

/-- The `WHERE` of `update`. -/
def matched (category : ProductCategory) (row : CategoryRow) : Bool :=
  row.id = category.id && row.tenantId = category.tenantId

/-- The columns that `update` sets (lines 91–94), and the one the ORM adds. -/
def updated (category : ProductCategory) (now : Instant) (row : CategoryRow) : CategoryRow :=
  { row with
    name := category.name.value
    description := category.description
    isActive := category.isActive
    updatedAt := now }

/-- `update` (lines 79–108); `none` is a unique violation. -/
def update (env : CategoryEnv) (categories : List CategoryRow) (category : ProductCategory)
    (now : Instant) : Option (List CategoryRow) :=
  if categories.any (matched category) && !nameFree env categories category then none
  else some (Rows.updateWhere (matched category) (updated category now) categories)

end ProductCategoryRepository

/-! ## The use cases -/

/-- What a call finds around it. -/
structure CategoryCall where
  now : Instant
  categoryId : Uuid
  tenantExists : Uuid → Bool

/-- `CreateCategoryApplicationParams`. -/
structure CreateCategoryParams where
  tenantId : Uuid
  name : JsString
  description : Option JsString
  deriving DecidableEq

/-- `UpdateCategoryApplicationParams`. -/
structure UpdateCategoryParams where
  tenantId : Uuid
  name : Option JsString
  description : Option JsString
  isActive : Option Bool
  deriving DecidableEq

/-- A call of one of the two. -/
inductive Operation where
  | createCategory (params : CreateCategoryParams)
  | updateCategory (id : Uuid) (params : UpdateCategoryParams)
  deriving DecidableEq

/-- `create-category.use-case.ts`, lines 21–44. -/
def CreateCategory.prepare (env : CategoryEnv) (call : CategoryCall)
    (categories : List CategoryRow) (params : CreateCategoryParams) :
    Except CategoryException ProductCategory :=
  if !call.tenantExists params.tenantId then .error (.tenantNotFound params.tenantId)
  else do
    let name ← CategoryName.create params.name
    if ProductCategoryRepository.existsByName env categories name.value params.tenantId none then
      .error (.categoryAlreadyExists name.value)
    else
      .ok (ProductCategory.create call.categoryId params.tenantId name params.description call.now)

namespace UpdateCategory

/-- Lines 46–60. -/
def checkName (env : CategoryEnv) (categories : List CategoryRow) (id tenantId : Uuid)
    (raw : Option JsString) : Except CategoryException (Option CategoryName) :=
  match raw with
  | none => .ok none
  | some raw => do
    let name ← CategoryName.create raw
    if ProductCategoryRepository.existsByName env categories name.value tenantId (some id) then
      .error (.categoryAlreadyExists name.value)
    else .ok (some name)

/-- Lines 70–76. -/
def changeStatus (category : ProductCategory) (isActive : Option Bool) (now : Instant) :
    Except CategoryException ProductCategory :=
  match isActive with
  | none => .ok category
  | some true => category.activate now
  | some false => category.deactivate now

/-- `update-category.use-case.ts`, lines 23–76. -/
def prepare (env : CategoryEnv) (call : CategoryCall) (categories : List CategoryRow) (id : Uuid)
    (params : UpdateCategoryParams) : Except CategoryException ProductCategory :=
  if params.tenantId = [] then .error .tenantIdRequiredForSearch
  else if !call.tenantExists params.tenantId then .error (.tenantNotFound params.tenantId)
  else do
    match ← ProductCategoryRepository.findById categories id params.tenantId with
    | none => .error (.categoryNotFound id)
    | some category =>
      let name ← checkName env categories id params.tenantId params.name
      changeStatus (category.update name params.description call.now) params.isActive call.now

end UpdateCategory

namespace Operation

/-- Everything before the write: the category to write. -/
def prepare (env : CategoryEnv) (call : CategoryCall) (categories : List CategoryRow) :
    Operation → Except CategoryException ProductCategory
  | .createCategory params => CreateCategory.prepare env call categories params
  | .updateCategory id params => UpdateCategory.prepare env call categories id params

/-- The write. -/
def write (env : CategoryEnv) (categories : List CategoryRow) (category : ProductCategory)
    (now : Instant) : Operation → Option (List CategoryRow)
  | .createCategory _ => ProductCategoryRepository.save env categories category
  | .updateCategory .. => ProductCategoryRepository.update env categories category now

/-- A whole call: the write that a unique index refuses ends in the exception of the
    name. -/
def execute (env : CategoryEnv) (call : CategoryCall) (categories : List CategoryRow)
    (operation : Operation) : Except CategoryException (List CategoryRow) := do
  let category ← operation.prepare env call categories
  match operation.write env categories category call.now with
  | none => .error (.categoryAlreadyExists category.name.value)
  | some categories => .ok categories

end Operation

/-! ## What a call prepares -/

variable {env : CategoryEnv} {call : CategoryCall} {categories : List CategoryRow}
  {category loaded : ProductCategory} {row : CategoryRow} {id tenantId : Uuid} {now : Instant}

theorem CategoryName.value_of_create {raw : JsString} {name : CategoryName}
    (h : CategoryName.create raw = .ok name) : name.value = trim raw := by
  simp only [CategoryName.create, BoundedText.create] at h
  split_ifs at h
  rw [← Except.ok.inj h]

/-- A category with the values of its row. -/
structure ReadFrom (row : CategoryRow) (category : ProductCategory) : Prop where
  id : category.id = row.id
  tenantId : category.tenantId = row.tenantId
  name : category.name.value = trim row.name
  createdAt : category.createdAt = row.createdAt

theorem readFrom_of_toDomain (h : ProductCategoryMapper.toDomain row = .ok category) :
    ReadFrom row category := by
  obtain ⟨name, hname, h⟩ := bind_eq_ok.mp h
  obtain rfl := Except.ok.inj h
  exact ⟨rfl, rfl, CategoryName.value_of_create hname, rfl⟩

theorem ProductCategoryRepository.findById_eq_some
    (h : ProductCategoryRepository.findById categories id tenantId = .ok (some category)) :
    ∃ row ∈ categories, row.id = id ∧ row.tenantId = tenantId ∧ ReadFrom row category := by
  unfold ProductCategoryRepository.findById at h
  split at h
  · cases Except.ok.inj h
  · rename_i row hrow
    obtain ⟨loaded, hload, hsome⟩ := map_eq_ok.mp h
    obtain rfl := Option.some.inj hsome
    have hcond := List.find?_some hrow
    simp only [Bool.and_eq_true, decide_eq_true_eq] at hcond
    exact ⟨row, List.mem_of_find?_eq_some hrow, hcond.1, hcond.2, readFrom_of_toDomain hload⟩

/-- A new category has a name that no category of the business had. -/
theorem CreateCategory.prepare_ok {params : CreateCategoryParams}
    (h : CreateCategory.prepare env call categories params = .ok category) :
    category.id = call.categoryId ∧ category.tenantId = params.tenantId ∧
      ProductCategoryRepository.existsByName env categories category.name.value params.tenantId
        none = false := by
  unfold CreateCategory.prepare at h
  split_ifs at h
  obtain ⟨name, -, h⟩ := bind_eq_ok.mp h
  split_ifs at h with hexists
  obtain rfl := Except.ok.inj h
  exact ⟨rfl, rfl, Bool.eq_false_of_not_eq_true hexists⟩

namespace UpdateCategory

/-- A name that is sent is one that no other category of the business had. -/
theorem checkName_ok {raw : Option JsString} {name : Option CategoryName}
    (h : checkName env categories id tenantId raw = .ok name) :
    ∀ sent ∈ name, ProductCategoryRepository.existsByName env categories sent.value tenantId
      (some id) = false := by
  cases raw with
  | none =>
    obtain rfl := Except.ok.inj h
    exact fun _ hsent => by cases hsent
  | some raw =>
    obtain ⟨sent, -, h⟩ := bind_eq_ok.mp h
    split_ifs at h with hexists
    obtain rfl := Except.ok.inj h
    intro sent' hsent
    obtain rfl := Option.some.inj hsent
    exact Bool.eq_false_of_not_eq_true hexists

/-- Changing the status changes nothing but the status and the time. -/
theorem changeStatus_ok {isActive : Option Bool}
    (h : changeStatus loaded isActive now = .ok category) :
    ∃ status updatedAt,
      category = { loaded with isActive := status, updatedAt := updatedAt } := by
  rcases isActive with _ | _ | _
  · exact ⟨_, _, (Except.ok.inj h).symm⟩
  · simp only [changeStatus, ProductCategory.deactivate] at h
    split_ifs at h
    exact ⟨_, _, (Except.ok.inj h).symm⟩
  · simp only [changeStatus, ProductCategory.activate] at h
    split_ifs at h
    exact ⟨_, _, (Except.ok.inj h).symm⟩

/-- The name after `update` is the one sent or the one there was. -/
theorem name_update {name : Option CategoryName} {description : Option JsString} :
    (loaded.update name description now).name ∈ name ∨
      (loaded.update name description now).name = loaded.name := by
  rw [ProductCategory.update]
  cases name with
  | none => exact .inr rfl
  | some sent =>
    by_cases h : sent.value = loaded.name.value
    · exact .inr (if_neg (by simp [h]))
    · exact .inl (congrArg some (if_pos (by simpa using h)).symm)

/-- A stored category keeps its identity, and its name or gets one that no other
    category of the business had. -/
theorem prepare_ok {params : UpdateCategoryParams}
    (h : prepare env call categories id params = .ok category) :
    ∃ row ∈ categories, row.id = id ∧ row.tenantId = params.tenantId ∧ category.id = row.id ∧
      category.tenantId = row.tenantId ∧ category.createdAt = row.createdAt ∧
      (category.name.value = trim row.name ∨
        ProductCategoryRepository.existsByName env categories category.name.value row.tenantId
          (some id) = false) := by
  unfold prepare at h
  split_ifs at h
  obtain ⟨found, hfind, h⟩ := bind_eq_ok.mp h
  cases found with
  | none => cases h
  | some loaded =>
    obtain ⟨name, hname, h⟩ := bind_eq_ok.mp h
    obtain ⟨row, hrow, hid, htenant, hread⟩ :=
      ProductCategoryRepository.findById_eq_some hfind
    obtain ⟨status, updatedAt, rfl⟩ := changeStatus_ok h
    refine ⟨row, hrow, hid, htenant, hread.id, hread.tenantId, hread.createdAt, ?_⟩
    rcases @name_update loaded call.now name params.description with hsent | hsame
    · rw [htenant]
      exact .inr (checkName_ok hname _ hsent)
    · left
      rw [hsame]
      exact hread.name

end UpdateCategory

end KomiSaas.Categories
