import KomiSaas.Businesses.Branch

/-!
# Businesses

* `TenantException`: `tenants/domain/exceptions/tenant-exceptions.ts`, with the
  plain errors of the aggregate.
* The value objects: `tenants/domain/value-object/`.
* `TenantAggregate`: `tenants/domain/tenant.aggregate.ts`.
* `TenantRepository`: `tenants/infrastructure/persistence/repositories/tenant.repository.ts`,
  over the table `tenants` (`public/db/01-init.sql`).
* `UpdateTenant`, `ToggleTenantStatus` and `DeleteTenant`:
  `tenants/application/use-case/`.
-/

namespace KomiSaas.Businesses

open KomiSaas.Lib KomiSaas.Shared

/-! ## Exceptions and value objects -/

/-- The exceptions of the use cases that change a business; `error` is a plain
    `Error`. -/
inductive TenantException where
  | invalidTenantNit (reason : JsString)
  | tenantNitAlreadyExists (nit : JsString)
  | tenantNotFound (tenantId : Uuid)
  | invalidTenantName (reason : JsString)
  | tenantNameAlreadyExists (name : JsString)
  | invalidTenantSlug (reason : JsString)
  | tenantSlugAlreadyExists (slug : JsString)
  | invalidTenantDescription (reason : JsString)
  | error (message : JsString)
  deriving DecidableEq

namespace TenantException

/-- The `code` of each exception; a plain error has none. -/
def code : TenantException → Option JsString
  | .invalidTenantNit _ => js "1006"
  | .tenantNitAlreadyExists _ => js "1202"
  | .tenantNotFound _ => js "1205"
  | .invalidTenantName _ => js "1005"
  | .tenantNameAlreadyExists _ => js "1204"
  | .invalidTenantSlug _ => js "1007"
  | .tenantSlugAlreadyExists _ => js "1203"
  | .invalidTenantDescription _ => js "1008"
  | .error _ => none

/-- The `detail` of each exception. -/
def detail : TenantException → JsString
  | .invalidTenantNit reason => js "NIT de tenant inválido: " ++ reason ++ js "."
  | .tenantNitAlreadyExists nit => js "El NIT \"" ++ nit ++ js "\" ya esta registrado."
  | .tenantNotFound tenantId => js "El tenant " ++ tenantId ++ js " no existe."
  | .invalidTenantName reason => js "Nombre de tenant inválido: " ++ reason ++ js "."
  | .tenantNameAlreadyExists name => js "El nombre \"" ++ name ++ js "\" ya esta registrado."
  | .invalidTenantSlug reason => js "Slug de tenant inválido: " ++ reason ++ js "."
  | .tenantSlugAlreadyExists slug => js "El slug \"" ++ slug ++ js "\" ya esta registrado."
  | .invalidTenantDescription reason => js "Descripción de tenant inválida: " ++ reason ++ js "."
  | .error message => message

end TenantException

abbrev TenantName := BoundedText 2 30

def TenantName.create : JsString → Except TenantException TenantName :=
  BoundedText.create 2 30 (.invalidTenantName (minimum 2)) (.invalidTenantName (maximum 30))

abbrev TenantDescription := BoundedText 0 255

/-- A description has no minimum: the first exception is never thrown. -/
def TenantDescription.create : JsString → Except TenantException TenantDescription :=
  BoundedText.create 0 255 (.invalidTenantDescription (minimum 0))
    (.invalidTenantDescription (maximum 255))

/-- `/^[a-z0-9]+(?:-[a-z0-9]+)*$/`. -/
def TenantSlug.matchesPattern (value : JsString) : Bool :=
  (value.splitOn 45).all fun word => word ≠ [] && word.all fun c => isSmallLetter c || isDigit c

structure TenantSlug extends BoundedText 3 100 where
  pattern : TenantSlug.matchesPattern value = true
  deriving DecidableEq

/-- `TenantSlug.create`. -/
def TenantSlug.create (raw : JsString) : Except TenantException TenantSlug := do
  let text ← BoundedText.create 3 100 (TenantException.invalidTenantSlug (minimum 3))
    (.invalidTenantSlug (maximum 100)) raw
  if hpattern : TenantSlug.matchesPattern text.value = true then .ok ⟨text, hpattern⟩
  else .error (.invalidTenantSlug
    (js "solo se permiten letras minúsculas, números y guiones medios"))

/-- The pattern of a NIT, of one character: letters, digits, dot, slash and hyphen. -/
def TenantNit.isAllowed (c : UInt16) : Bool :=
  isCapital c || isSmallLetter c || isDigit c || c ∈ js "./-"

structure TenantNit extends BoundedText 8 15 where
  pattern : value.all TenantNit.isAllowed = true
  deriving DecidableEq

/-- `TenantNit.create`. -/
def TenantNit.create (raw : JsString) : Except TenantException TenantNit := do
  let text ← BoundedText.create 8 15
    (TenantException.invalidTenantNit
      (js "debe tener al menos " ++ natText 8 ++ js " caracteres"))
    (.invalidTenantNit (js "debe tener como máximo " ++ natText 15 ++ js " caracteres")) raw
  if hpattern : text.value.all TenantNit.isAllowed = true then .ok ⟨text, hpattern⟩
  else .error (.invalidTenantNit
    (js "solo puede contener letras, números, punto (.), guion (-) y barra (/)"))

/-! ## The aggregate -/

structure TenantAggregate where
  id : Uuid
  name : TenantName
  description : TenantDescription
  slug : TenantSlug
  nit : TenantNit
  isActive : Bool
  isDeleted : Bool
  createdAt : Instant
  updatedAt : Instant
  deriving DecidableEq

/-- The parameters of `update`. -/
structure TenantChanges where
  name : Option TenantName
  description : Option TenantDescription
  slug : Option TenantSlug
  nit : Option TenantNit
  deriving DecidableEq

namespace TenantAggregate

/-- `update` (lines 117–140). -/
def update (tenant : TenantAggregate) (params : TenantChanges) (now : Instant) : TenantAggregate :=
  { tenant with
    name := params.name.getD tenant.name
    description := params.description.getD tenant.description
    slug := params.slug.getD tenant.slug
    nit := params.nit.getD tenant.nit
    updatedAt := now }

/-- `desactivate` (lines 142–148). -/
def desactivate (tenant : TenantAggregate) : Except TenantException TenantAggregate :=
  if !tenant.isActive then .error (.error (js "El tenant se encuentra desactivado."))
  else .ok { tenant with isActive := false }

/-- `activate` (lines 150–156). -/
def activate (tenant : TenantAggregate) : Except TenantException TenantAggregate :=
  if tenant.isActive then .error (.error (js "El tenant se encuentra activado."))
  else .ok { tenant with isActive := true }

/-- `delete` (lines 158–163). -/
def delete (tenant : TenantAggregate) (now : Instant) : Except TenantException TenantAggregate :=
  if tenant.isDeleted then .error (.error (js "El tenant ya se encuentra eliminado."))
  else .ok { tenant with isDeleted := true, isActive := false, updatedAt := now }

end TenantAggregate

/-! ## The repository -/

/-- A row of `tenants`. -/
structure TenantRow where
  id : Uuid
  name : JsString
  description : JsString
  slug : JsString
  nit : JsString
  isActive : Bool
  isDeleted : Bool
  createdAt : Instant
  updatedAt : Instant
  deriving DecidableEq

/-- `TenantMapper.toAggregate` with `TenantAggregate.fromPrimitives`. -/
def TenantMapper.toAggregate (entity : TenantRow) : Except TenantException TenantAggregate := do
  let name ← TenantName.create entity.name
  let description ← TenantDescription.create entity.description
  let slug ← TenantSlug.create entity.slug
  let nit ← TenantNit.create entity.nit
  .ok
    { id := entity.id
      name := name
      description := description
      slug := slug
      nit := nit
      isActive := entity.isActive
      isDeleted := entity.isDeleted
      createdAt := entity.createdAt
      updatedAt := entity.updatedAt }

namespace TenantRepository

/-- `searchAggregateById` (lines 57–72). A deleted business is treated as missing. -/
def searchAggregateById (tenants : List TenantRow) (id : Uuid) :
    Except TenantException (Option TenantAggregate) :=
  match tenants.find? fun row => row.id = id && !row.isDeleted with
  | none => .ok none
  | some row => (TenantMapper.toAggregate row).map some

/-- `existsByName` (lines 107–114); the name is the pattern as it is. -/
def existsByName (env : BusinessEnv) (tenants : List TenantRow) (name : TenantName) : Bool :=
  tenants.any fun row => env.ilike row.name name.value

/-- `existsBySlug` (lines 116–123). -/
def existsBySlug (tenants : List TenantRow) (slug : TenantSlug) : Bool :=
  tenants.any fun row => row.slug = slug.value

/-- `existsByNit` (lines 125–132). -/
def existsByNit (tenants : List TenantRow) (nit : TenantNit) : Bool :=
  tenants.any fun row => row.nit = nit.value

/-- The `WHERE` of `update`. -/
def matched (tenant : TenantAggregate) (row : TenantRow) : Bool :=
  row.id = tenant.id && !row.isDeleted

/-- The columns that `update` sets (lines 146–153). -/
def updated (tenant : TenantAggregate) (row : TenantRow) : TenantRow :=
  { row with
    name := tenant.name.value
    description := tenant.description.value
    slug := tenant.slug.value
    nit := tenant.nit.value
    isActive := tenant.isActive
    isDeleted := tenant.isDeleted }

/-- The two unique indexes, over the businesses that are not deleted. -/
def indexesAllow (tenants : List TenantRow) (tenant : TenantAggregate) : Bool :=
  tenant.isDeleted || tenants.all fun row =>
    row.id = tenant.id || row.isDeleted ||
      row.slug ≠ tenant.slug.value && row.nit ≠ tenant.nit.value

/-- `update` (lines 141–155). A row that is deleted by then is not matched. -/
def update (tenants : List TenantRow) (tenant : TenantAggregate) : Option (List TenantRow) :=
  if tenants.any (matched tenant) && !indexesAllow tenants tenant then none
  else some (Rows.updateWhere (matched tenant) (updated tenant) tenants)

end TenantRepository

/-! ## The use cases -/

/-- `UpdateTenantParams`. -/
structure UpdateTenantParams where
  name : Option JsString
  description : Option JsString
  slug : Option JsString
  nit : Option JsString
  deriving DecidableEq

namespace UpdateTenant

/-- A value that is sent may not be in use (lines 34–56). -/
def newValue {α : Type} (create : JsString → Except TenantException α) (inUse : α → Bool)
    (alreadyExists : JsString → TenantException) (raw : JsString) : Except TenantException α := do
  let value ← create raw
  if inUse value then .error (alreadyExists raw) else .ok value

/-- `update-tenant.use-case.ts`, lines 30–65. -/
def perform (env : BusinessEnv) (now : Instant) (tenants : List TenantRow)
    (params : UpdateTenantParams) (tenant : TenantAggregate) :
    Except TenantException TenantAggregate := do
  let name ← sentField (newValue TenantName.create (TenantRepository.existsByName env tenants)
    .tenantNameAlreadyExists) params.name
  let slug ← sentField (newValue TenantSlug.create (TenantRepository.existsBySlug tenants)
    .tenantSlugAlreadyExists) params.slug
  let nit ← sentField (newValue TenantNit.create (TenantRepository.existsByNit tenants)
    .tenantNitAlreadyExists) params.nit
  let description ← sentField TenantDescription.create params.description
  .ok (tenant.update
    { name := name
      description := description
      slug := slug
      nit := nit } now)

end UpdateTenant

/-- What a call does to the business that it loads. -/
inductive TenantChange where
  | updateTenant (params : UpdateTenantParams)
  | toggleTenantStatus
  | deleteTenant
  deriving DecidableEq

/-- A call of `UpdateTenant`, `ToggleTenantStatus` or `DeleteTenant`. -/
structure TenantOperation where
  id : Uuid
  change : TenantChange
  deriving DecidableEq

namespace TenantOperation

/-- The loaded business, or `TenantNotFoundException`. -/
def load (tenants : List TenantRow) (operation : TenantOperation) :
    Except TenantException TenantAggregate := do
  match ← TenantRepository.searchAggregateById tenants operation.id with
  | none => .error (.tenantNotFound operation.id)
  | some tenant => .ok tenant

/-- What is done to the loaded business. -/
def perform (env : BusinessEnv) (now : Instant) (tenants : List TenantRow)
    (operation : TenantOperation) (tenant : TenantAggregate) :
    Except TenantException TenantAggregate :=
  match operation.change with
  | .updateTenant params => UpdateTenant.perform env now tenants params tenant
  | .toggleTenantStatus => if tenant.isActive then tenant.desactivate else tenant.activate
  | .deleteTenant => tenant.delete now

/-- Everything before the write: the business to write. -/
def prepare (env : BusinessEnv) (now : Instant) (tenants : List TenantRow)
    (operation : TenantOperation) : Except TenantException TenantAggregate := do
  let tenant ← operation.load tenants
  operation.perform env now tenants tenant

end TenantOperation

/-! ## What is prepared -/

variable {env : BusinessEnv} {tenants : List TenantRow} {tenant tenant' : TenantAggregate}
  {now : Instant} {id : Uuid}

theorem searchTenantById_eq_some
    (h : TenantRepository.searchAggregateById tenants id = .ok (some tenant)) :
    ∃ row ∈ tenants, row.id = id ∧ row.isDeleted = false ∧ tenant.id = row.id ∧
      tenant.isDeleted = false := by
  unfold TenantRepository.searchAggregateById at h
  split at h
  · cases Except.ok.inj h
  · rename_i row hrow
    obtain ⟨loaded, hload, hsome⟩ := map_eq_ok.mp h
    obtain rfl := Option.some.inj hsome
    have hcond := List.find?_some hrow
    simp only [Bool.and_eq_true, decide_eq_true_eq, Bool.not_eq_true'] at hcond
    obtain ⟨_, -, hload⟩ := bind_eq_ok.mp hload
    obtain ⟨_, -, hload⟩ := bind_eq_ok.mp hload
    obtain ⟨_, -, hload⟩ := bind_eq_ok.mp hload
    obtain ⟨_, -, hload⟩ := bind_eq_ok.mp hload
    obtain rfl := Except.ok.inj hload
    exact ⟨row, List.mem_of_find?_eq_some hrow, hcond.1, hcond.2, rfl, hcond.2⟩

/-- Only a deletion marks a business as deleted, and nothing changes its id. -/
theorem TenantOperation.perform_ok {operation : TenantOperation}
    (hnot : tenant.isDeleted = false)
    (h : operation.perform env now tenants tenant = .ok tenant') :
    tenant'.id = tenant.id ∧ (tenant'.isDeleted = true ↔ operation.change = .deleteTenant) := by
  obtain ⟨id, change⟩ := operation
  have hkept : ∀ {change : TenantChange}, tenant'.isDeleted = tenant.isDeleted →
      change ≠ .deleteTenant → (tenant'.isDeleted = true ↔ change = .deleteTenant) := by
    intro change hsame hchange
    refine iff_of_false ?_ hchange
    rw [hsame, hnot]
    exact Bool.false_ne_true
  cases change with
  | updateTenant params =>
    obtain ⟨_, -, h⟩ := bind_eq_ok.mp h
    obtain ⟨_, -, h⟩ := bind_eq_ok.mp h
    obtain ⟨_, -, h⟩ := bind_eq_ok.mp h
    obtain ⟨_, -, h⟩ := bind_eq_ok.mp h
    obtain rfl := Except.ok.inj h
    exact ⟨rfl, hkept rfl fun h => by cases h⟩
  | toggleTenantStatus =>
    simp only [TenantOperation.perform, TenantAggregate.desactivate, TenantAggregate.activate] at h
    split_ifs at h
    · obtain rfl := Except.ok.inj h
      exact ⟨rfl, hkept rfl fun h => by cases h⟩
    · obtain rfl := Except.ok.inj h
      exact ⟨rfl, hkept rfl fun h => by cases h⟩
  | deleteTenant =>
    simp only [TenantOperation.perform, TenantAggregate.delete] at h
    split_ifs at h
    obtain rfl := Except.ok.inj h
    exact ⟨rfl, iff_of_true rfl rfl⟩

/-- What a call is going to write: a stored business that was not deleted when it
    was loaded, marked as deleted by `DeleteTenant` and by it alone. -/
theorem TenantOperation.prepare_ok {operation : TenantOperation}
    (h : operation.prepare env now tenants = .ok tenant) :
    (∃ row ∈ tenants, row.id = tenant.id) ∧ tenant.id = operation.id ∧
      (tenant.isDeleted = true ↔ operation.change = .deleteTenant) := by
  obtain ⟨loaded, hload, h⟩ := bind_eq_ok.mp h
  obtain ⟨found, hfind, hload⟩ := bind_eq_ok.mp hload
  cases found with
  | none => cases hload
  | some found =>
    obtain rfl := Except.ok.inj hload
    obtain ⟨row, hrow, hid, -, hid', hdeleted⟩ := searchTenantById_eq_some hfind
    obtain ⟨hid'', hmark⟩ := perform_ok hdeleted h
    exact ⟨⟨row, hrow, hid'.symm.trans hid''.symm⟩, hid''.trans (hid'.trans hid), hmark⟩

end KomiSaas.Businesses
