import KomiSaas.Shared.Text
import KomiSaas.Lib.Errors
import KomiSaas.Lib.Rows

/-!
# Branches

* `BranchException`: `branch/domain/exceptions/branch-exceptions.ts`.
* The value objects: `branch/domain/value-object/`. Each is a `BoundedText`.
* `BranchAggregate`: `branch/domain/branch.aggregate.ts`.
* `BranchRepository`: `branch/infrastructure/persistence/repositories/branch.repository.ts`,
  over the table `branches` (`public/db/tables/branches.sql`).
* `UpdateBranch` and `DeleteBranch`: `branch/application/use-cases/`.
-/

namespace KomiSaas.Businesses

open KomiSaas.Lib KomiSaas.Shared

/-! ## Exceptions and value objects -/

/-- The exceptions of the use cases that change a branch. -/
inductive BranchException where
  | branchNotFound (branchId : Uuid)
  | branchNameAlreadyExists (name : JsString)
  | branchAlreadyInactive (branchId : Uuid)
  | branchAlreadyActive (branchId : Uuid)
  | branchEmptyUpdate (branchId : Uuid)
  | branchFieldUnchanged (field : JsString)
  | invalidBranchName (reason : JsString)
  | invalidBranchAddress (reason : JsString)
  | invalidBranchCity (reason : JsString)
  | invalidBranchDepartment (reason : JsString)
  | invalidBranchPhone (reason : JsString)
  deriving DecidableEq

namespace BranchException

/-- The `code` of each exception. -/
def code : BranchException → JsString
  | .branchNotFound _ => js "1207"
  | .branchNameAlreadyExists _ => js "1206"
  | .branchAlreadyInactive _ => js "1216"
  | .branchAlreadyActive _ => js "1217"
  | .branchEmptyUpdate _ => js "1031"
  | .branchFieldUnchanged _ => js "1032"
  | .invalidBranchName _ => js "1009"
  | .invalidBranchAddress _ => js "1010"
  | .invalidBranchCity _ => js "1012"
  | .invalidBranchDepartment _ => js "1013"
  | .invalidBranchPhone _ => js "1011"

/-- The `detail` of each exception. -/
def detail : BranchException → JsString
  | .branchNotFound branchId =>
    js "La sucursal " ++ branchId ++ js " no existe o no está disponible."
  | .branchNameAlreadyExists name => js "El nombre \"" ++ name ++ js "\" ya está registrado."
  | .branchAlreadyInactive branchId =>
    js "La sucursal " ++ branchId ++ js " ya se encuentra desactivada."
  | .branchAlreadyActive branchId =>
    js "La sucursal " ++ branchId ++ js " ya se encuentra activa."
  | .branchEmptyUpdate branchId =>
    js "No se enviaron cambios para actualizar la sucursal " ++ branchId ++ js "."
  | .branchFieldUnchanged field =>
    js "El campo " ++ field ++ js " es igual al valor actual de la sucursal."
  | .invalidBranchName reason => js "Nombre de la sucursal inválido: " ++ reason ++ js "."
  | .invalidBranchAddress reason => js "Dirección de la sucursal inválida: " ++ reason ++ js "."
  | .invalidBranchCity reason => js "Ciudad de la sucursal inválida: " ++ reason ++ js "."
  | .invalidBranchDepartment reason =>
    js "Departamento de la sucursal inválido: " ++ reason ++ js "."
  | .invalidBranchPhone reason => js "Teléfono de la sucursal inválido: " ++ reason ++ js "."

end BranchException

/-- The reasons of the two lengths. -/
def minimum (length : ℕ) : JsString := js "mínimo " ++ natText length ++ js " caracteres"

def maximum (length : ℕ) : JsString := js "máximo " ++ natText length ++ js " caracteres"

abbrev BranchName := BoundedText 2 30

abbrev BranchAddress := BoundedText 5 100

abbrev BranchPhone := BoundedText 7 15

abbrev BranchCity := BoundedText 2 50

abbrev BranchDepartment := BoundedText 2 50

def BranchName.create : JsString → Except BranchException BranchName :=
  BoundedText.create 2 30 (.invalidBranchName (minimum 2)) (.invalidBranchName (maximum 30))

def BranchAddress.create : JsString → Except BranchException BranchAddress :=
  BoundedText.create 5 100 (.invalidBranchAddress (minimum 5)) (.invalidBranchAddress (maximum 100))

def BranchPhone.create : JsString → Except BranchException BranchPhone :=
  BoundedText.create 7 15 (.invalidBranchPhone (minimum 7)) (.invalidBranchPhone (maximum 15))

def BranchCity.create : JsString → Except BranchException BranchCity :=
  BoundedText.create 2 50 (.invalidBranchCity (minimum 2)) (.invalidBranchCity (maximum 50))

def BranchDepartment.create : JsString → Except BranchException BranchDepartment :=
  BoundedText.create 2 50 (.invalidBranchDepartment (minimum 2))
    (.invalidBranchDepartment (maximum 50))

/-! ## The aggregate -/

structure BranchAggregate where
  id : Uuid
  tenantId : Uuid
  name : BranchName
  address : BranchAddress
  phone : BranchPhone
  city : BranchCity
  department : BranchDepartment
  isActive : Bool
  isDeleted : Bool
  createdAt : Instant
  updatedAt : Instant
  deriving DecidableEq

/-- The parameters of `update`. -/
structure BranchChanges where
  name : Option BranchName
  address : Option BranchAddress
  phone : Option BranchPhone
  city : Option BranchCity
  department : Option BranchDepartment
  isActive : Option Bool
  deriving DecidableEq

/-- `Object.keys(params).length === 0`. -/
def BranchChanges.isEmpty (params : BranchChanges) : Bool :=
  params.name.isNone && params.address.isNone && params.phone.isNone && params.city.isNone &&
    params.department.isNone && params.isActive.isNone

namespace BranchAggregate

/-- The first field that is sent as it already is (lines 132–138). -/
def unchanged (branch : BranchAggregate) (params : BranchChanges) : Option JsString :=
  [(js "nombre", params.name.map (·.value), branch.name.value),
    (js "dirección", params.address.map (·.value), branch.address.value),
    (js "teléfono", params.phone.map (·.value), branch.phone.value),
    (js "ciudad", params.city.map (·.value), branch.city.value),
    (js "departamento", params.department.map (·.value), branch.department.value)].findSome?
      fun (field, sent, current) => if sent = some current then some field else none

/-- `deactivate` (lines 176–182). -/
def deactivate (branch : BranchAggregate) : Except BranchException BranchAggregate :=
  if !branch.isActive then .error (.branchAlreadyInactive branch.id)
  else .ok { branch with isActive := false }

/-- `activate` (lines 185–191). -/
def activate (branch : BranchAggregate) : Except BranchException BranchAggregate :=
  if branch.isActive then .error (.branchAlreadyActive branch.id)
  else .ok { branch with isActive := true }

/-- Lines 146–150. -/
def changeStatus (branch : BranchAggregate) (isActive : Option Bool) :
    Except BranchException BranchAggregate :=
  match isActive with
  | some true => branch.activate
  | some false => branch.deactivate
  | none => .ok branch

/-- `update` (lines 117–173). -/
def update (branch : BranchAggregate) (params : BranchChanges) (now : Instant) :
    Except BranchException BranchAggregate :=
  if params.isEmpty then .error (.branchEmptyUpdate branch.id)
  else
    match branch.unchanged params with
    | some field => .error (.branchFieldUnchanged field)
    | none => do
      let branch ← branch.changeStatus params.isActive
      .ok { branch with
        name := params.name.getD branch.name
        address := params.address.getD branch.address
        phone := params.phone.getD branch.phone
        city := params.city.getD branch.city
        department := params.department.getD branch.department
        updatedAt := now }

/-- `delete` (lines 200–203). -/
def delete (branch : BranchAggregate) (now : Instant) : BranchAggregate :=
  { branch with isDeleted := true, updatedAt := now }

/-- `hasName` (lines 207–209). -/
def hasName (toLowerCase : JsString → JsString) (branch : BranchAggregate) (name : BranchName) :
    Bool :=
  toLowerCase branch.name.value = toLowerCase name.value

end BranchAggregate

/-! ## The repository -/

/-- A row of `branches`. -/
structure BranchRow where
  id : Uuid
  tenantId : Uuid
  name : JsString
  address : JsString
  phone : JsString
  city : JsString
  department : JsString
  isActive : Bool
  isDeleted : Bool
  createdAt : Instant
  updatedAt : Instant
  deriving DecidableEq

/-- `toLowerCase()`, and the `LOWER` and the `ILIKE` of the database: `ilike text
    pattern`. -/
structure BusinessEnv where
  toLowerCase : JsString → JsString
  lower : JsString → JsString
  ilike : JsString → JsString → Bool

/-- `BranchMapper.toAggregate` with `BranchAggregate.fromPrimitives`. -/
def BranchMapper.toAggregate (entity : BranchRow) : Except BranchException BranchAggregate := do
  let name ← BranchName.create entity.name
  let address ← BranchAddress.create entity.address
  let phone ← BranchPhone.create entity.phone
  let city ← BranchCity.create entity.city
  let department ← BranchDepartment.create entity.department
  .ok
    { id := entity.id
      tenantId := entity.tenantId
      name := name
      address := address
      phone := phone
      city := city
      department := department
      isActive := entity.isActive
      isDeleted := entity.isDeleted
      createdAt := entity.createdAt
      updatedAt := entity.updatedAt }

namespace BranchRepository

/-- `escapeLike` (lines 175–177). -/
def escapeLike (text : JsString) : JsString :=
  text.flatMap fun character =>
    if character ∈ js "\\%_" then js "\\" ++ [character] else [character]

/-- `searchAggregateById` (lines 53–67). A deleted branch is treated as missing. -/
def searchAggregateById (branches : List BranchRow) (id tenantId : Uuid) :
    Except BranchException (Option BranchAggregate) :=
  match branches.find? fun row => row.id = id && row.tenantId = tenantId && !row.isDeleted with
  | none => .ok none
  | some row => (BranchMapper.toAggregate row).map some

/-- `existsByName` (lines 69–79). A deleted branch frees its name. -/
def existsByName (env : BusinessEnv) (branches : List BranchRow) (name : BranchName)
    (tenantId : Uuid) : Bool :=
  branches.any fun row =>
    env.ilike row.name (escapeLike name.value) && row.tenantId = tenantId && !row.isDeleted

/-- `existsInTenant` (lines 81–93). -/
def existsInTenant (branches : List BranchRow) (id tenantId : Uuid) : Bool :=
  branches.any fun row =>
    row.id = id && row.tenantId = tenantId && row.isActive && !row.isDeleted

/-- The `WHERE` of `update`. -/
def matched (branch : BranchAggregate) (row : BranchRow) : Bool :=
  row.id = branch.id && row.tenantId = branch.tenantId && !row.isDeleted

/-- The columns that `update` sets (lines 101–110). -/
def updated (branch : BranchAggregate) (row : BranchRow) : BranchRow :=
  { row with
    name := branch.name.value
    address := branch.address.value
    phone := branch.phone.value
    city := branch.city.value
    department := branch.department.value
    isActive := branch.isActive
    isDeleted := branch.isDeleted
    updatedAt := branch.updatedAt }

/-- `uq_branches_name_tenant_lower`: no other branch of the business that is not
    deleted has the name. -/
def nameFree (env : BusinessEnv) (branches : List BranchRow) (branch : BranchAggregate) : Bool :=
  branch.isDeleted || branches.all fun row =>
    row.id = branch.id || row.tenantId ≠ branch.tenantId || row.isDeleted ||
      env.lower row.name ≠ env.lower branch.name.value

/-- `update` (lines 95–120). A row that is deleted by then is not matched. -/
def update (env : BusinessEnv) (branches : List BranchRow) (branch : BranchAggregate) :
    Option (List BranchRow) :=
  if branches.any (matched branch) && !nameFree env branches branch then none
  else some (Rows.updateWhere (matched branch) (updated branch) branches)

end BranchRepository

/-! ## The use cases -/

/-- `UpdateBranchParams`. -/
structure UpdateBranchParams where
  name : Option JsString
  address : Option JsString
  phone : Option JsString
  city : Option JsString
  department : Option JsString
  isActive : Option Bool
  deriving DecidableEq

/-- `create` of a field that is sent. -/
def sentField {ε α : Type} (create : JsString → Except ε α) : Option JsString → Except ε (Option α)
  | none => .ok none
  | some raw => (create raw).map some

namespace UpdateBranch

/-- Lines 34–44. -/
def newName (env : BusinessEnv) (branches : List BranchRow) (tenantId : Uuid)
    (branch : BranchAggregate) (raw : JsString) : Except BranchException BranchName := do
  let name ← BranchName.create raw
  if !branch.hasName env.toLowerCase name &&
      BranchRepository.existsByName env branches name tenantId then
    .error (.branchNameAlreadyExists raw)
  else .ok name

/-- `update-branch.use-case.ts`, lines 34–63. -/
def perform (env : BusinessEnv) (now : Instant) (branches : List BranchRow) (tenantId : Uuid)
    (params : UpdateBranchParams) (branch : BranchAggregate) :
    Except BranchException BranchAggregate := do
  let name ← sentField (newName env branches tenantId branch) params.name
  let address ← sentField BranchAddress.create params.address
  let phone ← sentField BranchPhone.create params.phone
  let city ← sentField BranchCity.create params.city
  let department ← sentField BranchDepartment.create params.department
  branch.update
    { name := name
      address := address
      phone := phone
      city := city
      department := department
      isActive := params.isActive } now

end UpdateBranch

/-- What a call does to the branch that it loads. -/
inductive BranchChange where
  | updateBranch (params : UpdateBranchParams)
  | deleteBranch
  deriving DecidableEq

/-- A call of `UpdateBranch` or `DeleteBranch`. -/
structure BranchOperation where
  id : Uuid
  tenantId : Uuid
  change : BranchChange
  deriving DecidableEq

namespace BranchOperation

/-- The loaded branch, or `BranchNotFoundException`. -/
def load (branches : List BranchRow) (operation : BranchOperation) :
    Except BranchException BranchAggregate := do
  match ← BranchRepository.searchAggregateById branches operation.id operation.tenantId with
  | none => .error (.branchNotFound operation.id)
  | some branch => .ok branch

/-- What is done to the loaded branch. -/
def perform (env : BusinessEnv) (now : Instant) (branches : List BranchRow)
    (operation : BranchOperation) (branch : BranchAggregate) :
    Except BranchException BranchAggregate :=
  match operation.change with
  | .updateBranch params =>
    UpdateBranch.perform env now branches operation.tenantId params branch
  | .deleteBranch => .ok (branch.delete now)

/-- Everything before the write: the branch to write. -/
def prepare (env : BusinessEnv) (now : Instant) (branches : List BranchRow)
    (operation : BranchOperation) : Except BranchException BranchAggregate := do
  let branch ← operation.load branches
  operation.perform env now branches branch

end BranchOperation

/-! ## What is prepared -/

variable {env : BusinessEnv} {branches : List BranchRow} {branch branch' : BranchAggregate}
  {now : Instant} {id tenantId : Uuid}

theorem searchAggregateById_eq_some
    (h : BranchRepository.searchAggregateById branches id tenantId = .ok (some branch)) :
    ∃ row ∈ branches, row.id = id ∧ row.tenantId = tenantId ∧ row.isDeleted = false ∧
      branch.id = row.id ∧ branch.tenantId = row.tenantId ∧ branch.isDeleted = false := by
  unfold BranchRepository.searchAggregateById at h
  split at h
  · cases Except.ok.inj h
  · rename_i row hrow
    obtain ⟨loaded, hload, hsome⟩ := map_eq_ok.mp h
    obtain rfl := Option.some.inj hsome
    have hcond := List.find?_some hrow
    simp only [Bool.and_eq_true, decide_eq_true_eq, Bool.not_eq_true'] at hcond
    obtain ⟨_, -, hload⟩ := bind_eq_ok.mp hload
    obtain ⟨_, -, hload⟩ := bind_eq_ok.mp hload
    obtain ⟨_, -, hload⟩ := bind_eq_ok.mp hload
    obtain ⟨_, -, hload⟩ := bind_eq_ok.mp hload
    obtain ⟨_, -, hload⟩ := bind_eq_ok.mp hload
    obtain rfl := Except.ok.inj hload
    exact ⟨row, List.mem_of_find?_eq_some hrow, hcond.1.1, hcond.1.2, hcond.2, rfl, rfl, hcond.2⟩

/-- An update changes neither the ids nor the mark of deletion. -/
theorem update_ok {params : BranchChanges} (h : branch.update params now = .ok branch') :
    branch'.id = branch.id ∧ branch'.tenantId = branch.tenantId ∧
      branch'.isDeleted = branch.isDeleted := by
  unfold BranchAggregate.update at h
  split_ifs at h
  split at h
  · cases h
  · obtain ⟨changed, hchanged, h⟩ := bind_eq_ok.mp h
    obtain rfl := Except.ok.inj h
    unfold BranchAggregate.changeStatus BranchAggregate.activate BranchAggregate.deactivate
      at hchanged
    split at hchanged
    · split_ifs at hchanged
      obtain rfl := Except.ok.inj hchanged
      exact ⟨rfl, rfl, rfl⟩
    · split_ifs at hchanged
      obtain rfl := Except.ok.inj hchanged
      exact ⟨rfl, rfl, rfl⟩
    · obtain rfl := Except.ok.inj hchanged
      exact ⟨rfl, rfl, rfl⟩

/-- What a call is going to write: a stored branch that was not deleted when it was
    loaded, marked as deleted by `DeleteBranch` and by it alone. -/
theorem BranchOperation.prepare_ok {operation : BranchOperation}
    (h : operation.prepare env now branches = .ok branch) :
    (∃ row ∈ branches, row.id = branch.id ∧ row.tenantId = branch.tenantId) ∧
      branch.id = operation.id ∧ branch.tenantId = operation.tenantId ∧
      (branch.isDeleted = true ↔ operation.change = .deleteBranch) := by
  obtain ⟨loaded, hload, h⟩ := bind_eq_ok.mp h
  obtain ⟨found, hfind, hload⟩ := bind_eq_ok.mp hload
  cases found with
  | none => cases hload
  | some found =>
    obtain rfl := Except.ok.inj hload
    obtain ⟨row, hrow, hid, htenant, -, hid', htenant', hdeleted⟩ :=
      searchAggregateById_eq_some hfind
    obtain ⟨id, tenantId, change⟩ := operation
    cases change with
    | updateBranch params =>
      obtain ⟨_, -, h⟩ := bind_eq_ok.mp h
      obtain ⟨_, -, h⟩ := bind_eq_ok.mp h
      obtain ⟨_, -, h⟩ := bind_eq_ok.mp h
      obtain ⟨_, -, h⟩ := bind_eq_ok.mp h
      obtain ⟨_, -, h⟩ := bind_eq_ok.mp h
      obtain ⟨hid'', htenant'', hdeleted'⟩ := update_ok h
      refine ⟨⟨row, hrow, ?_, ?_⟩, ?_, ?_, iff_of_false ?_ ?_⟩
      · rw [hid'', hid']
      · rw [htenant'', htenant']
      · rw [hid'', hid', hid]
      · rw [htenant'', htenant', htenant]
      · rw [hdeleted', hdeleted]
        exact Bool.false_ne_true
      · intro h
        cases h
    | deleteBranch =>
      obtain rfl := Except.ok.inj h
      exact ⟨⟨row, hrow, hid'.symm, htenant'.symm⟩, hid'.trans hid, htenant'.trans htenant,
        iff_of_true rfl rfl⟩

end KomiSaas.Businesses
