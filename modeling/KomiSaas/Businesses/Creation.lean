import KomiSaas.Businesses.Tenant
import KomiSaas.Shared.Listing

/-!
# `CreateTenantUseCase` and `CreateBranchUseCase`, and what every use case writes

The creation of a business (`create-tenant.use-case.ts`) and of a branch
(`create-branch.use-case.ts`) with the `INSERT` behind them, next to the use cases
that change one.

* `CreateTenant.prepare_ok`, `TenantOperation.changed_of_prepare`: the name, the slug
  and the NIT that a request is going to write, against the table it read.
* `CreateBranch.prepare_ok`, `BranchOperation.changed_of_prepare`: the same of the
  name of a branch.
-/

namespace KomiSaas.Businesses

open KomiSaas.Lib KomiSaas.Shared

/-! ## Creating a business -/

/-- `CreateTenantApplicationParams`. -/
structure CreateTenantParams where
  name : JsString
  description : JsString
  slug : JsString
  nit : JsString
  deriving DecidableEq

/-- `TenantAggregate.create` (lines 48–83), with the id that `TenantId.generate` gives. -/
def TenantAggregate.create (id : Uuid) (now : Instant) (name : TenantName)
    (description : TenantDescription) (slug : TenantSlug) (nit : TenantNit) : TenantAggregate where
  id := id
  name := name
  description := description
  slug := slug
  nit := nit
  isActive := true
  isDeleted := false
  createdAt := now
  updatedAt := now

namespace TenantRepository

/-- `searchAggregateByNit` (lines 74–88). A deleted business is found as well. -/
def searchAggregateByNit (tenants : List TenantRow) (nit : TenantNit) :
    Except TenantException (Option TenantAggregate) :=
  match tenants.find? fun row => row.nit = nit.value with
  | none => .ok none
  | some row => (TenantMapper.toAggregate row).map some

/-- The row of a new business. -/
def row (tenant : TenantAggregate) : TenantRow where
  id := tenant.id
  name := tenant.name.value
  description := tenant.description.value
  slug := tenant.slug.value
  nit := tenant.nit.value
  isActive := tenant.isActive
  isDeleted := tenant.isDeleted
  createdAt := tenant.createdAt
  updatedAt := tenant.updatedAt

/-- The texts fit their columns (`01-init.sql`, lines 9–12). The domain lets 255 code
    units through in a description, and U+0000 in a description or a name. -/
def fits (tenant : TenantAggregate) : Bool :=
  fitsVarchar 120 tenant.name.value && fitsVarchar 225 tenant.description.value &&
    fitsVarchar 120 tenant.slug.value && fitsVarchar 20 tenant.nit.value

/-- `save` (lines 22–39): an `INSERT`; `none` is what the table refuses. -/
def save (tenants : List TenantRow) (tenant : TenantAggregate) : Option (List TenantRow) :=
  if tenant.id ∈ tenants.map (·.id) || !fits tenant || !indexesAllow tenants tenant then none
  else some (tenants ++ [row tenant])

end TenantRepository

namespace CreateTenant

/-- `create-tenant.use-case.ts`, lines 22–52: everything before the write. -/
def prepare (env : BusinessEnv) (tenantId : Uuid) (now : Instant) (tenants : List TenantRow)
    (params : CreateTenantParams) : Except TenantException TenantAggregate := do
  let name ← TenantName.create params.name
  let slug ← TenantSlug.create params.slug
  let nit ← TenantNit.create params.nit
  match ← TenantRepository.searchAggregateByNit tenants nit with
  | some _ => .error (.tenantNitAlreadyExists nit.value)
  | none =>
    if TenantRepository.existsByName env tenants name then
      .error (.tenantNameAlreadyExists name.value)
    else if TenantRepository.existsBySlug tenants slug then
      .error (.tenantSlugAlreadyExists slug.value)
    else do
      let description ← TenantDescription.create params.description
      .ok (TenantAggregate.create tenantId now name description slug nit)

end CreateTenant

/-! ## Creating a branch -/

/-- The exceptions of `CreateBranchUseCase`. -/
inductive CreateBranchException where
  | branchTenantNotFound (tenantId : Uuid)
  | branch (exception : BranchException)
  deriving DecidableEq

namespace CreateBranchException

def code : CreateBranchException → JsString
  | .branchTenantNotFound _ => js "1205"
  | .branch exception => exception.code

def detail : CreateBranchException → JsString
  | .branchTenantNotFound tenantId => js "El negocio " ++ tenantId ++ js " no existe."
  | .branch exception => exception.detail

end CreateBranchException

/-- `CreateBranchApplicationParams`. -/
structure CreateBranchParams where
  tenantId : Uuid
  name : JsString
  address : JsString
  phone : JsString
  city : JsString
  department : JsString
  deriving DecidableEq

/-- The parameters of `BranchAggregate.create`. -/
structure BranchCreateParams where
  tenantId : Uuid
  name : BranchName
  address : BranchAddress
  phone : BranchPhone
  city : BranchCity
  department : BranchDepartment
  deriving DecidableEq

/-- `BranchAggregate.create` (lines 56–80), with the id that `BranchId.generate` gives. -/
def BranchAggregate.create (id : Uuid) (now : Instant) (params : BranchCreateParams) :
    BranchAggregate where
  id := id
  tenantId := params.tenantId
  name := params.name
  address := params.address
  phone := params.phone
  city := params.city
  department := params.department
  isActive := true
  isDeleted := false
  createdAt := now
  updatedAt := now

namespace BranchRepository

/-- The row of a new branch. -/
def row (branch : BranchAggregate) : BranchRow where
  id := branch.id
  tenantId := branch.tenantId
  name := branch.name.value
  address := branch.address.value
  phone := branch.phone.value
  city := branch.city.value
  department := branch.department.value
  isActive := branch.isActive
  isDeleted := branch.isDeleted
  createdAt := branch.createdAt
  updatedAt := branch.updatedAt

/-- `save` (lines 23–51): an `INSERT`; `none` is a violated index. -/
def save (env : BusinessEnv) (branches : List BranchRow) (branch : BranchAggregate) :
    Option (List BranchRow) :=
  if branch.id ∈ branches.map (·.id) || !nameFree env branches branch then none
  else some (branches ++ [row branch])

end BranchRepository

/-- What a call finds around it: the generated id, the time, and the businesses. -/
structure CreateBranchCall where
  branchId : Uuid
  now : Instant
  tenantExists : Uuid → Bool

namespace CreateBranch

/-- The branch to create (lines 15–30). -/
def newBranch (env : BusinessEnv) (call : CreateBranchCall) (branches : List BranchRow)
    (params : CreateBranchParams) : Except BranchException BranchAggregate := do
  let name ← BranchName.create params.name
  if BranchRepository.existsByName env branches name params.tenantId then
    .error (.branchNameAlreadyExists name.value)
  else do
    let address ← BranchAddress.create params.address
    let phone ← BranchPhone.create params.phone
    let city ← BranchCity.create params.city
    let department ← BranchDepartment.create params.department
    .ok (BranchAggregate.create call.branchId call.now
      { tenantId := params.tenantId
        name := name
        address := address
        phone := phone
        city := city
        department := department })

/-- `create-branch.use-case.ts`, lines 10–32: everything before the write. -/
def prepare (env : BusinessEnv) (call : CreateBranchCall) (branches : List BranchRow)
    (params : CreateBranchParams) : Except CreateBranchException BranchAggregate :=
  if !call.tenantExists params.tenantId then .error (.branchTenantNotFound params.tenantId)
  else (newBranch env call branches params).mapError .branch

end CreateBranch

/-! ## Values -/

variable {env : BusinessEnv} {now : Instant}

theorem TenantSlug.value_of_create {raw : JsString} {slug : TenantSlug}
    (h : TenantSlug.create raw = .ok slug) : slug.value = trim raw := by
  obtain ⟨text, htext, h⟩ := bind_eq_ok.mp h
  split_ifs at h
  rw [← Except.ok.inj h]
  exact BoundedText.value_of_create htext

theorem TenantNit.value_of_create {raw : JsString} {nit : TenantNit}
    (h : TenantNit.create raw = .ok nit) : nit.value = trim raw := by
  obtain ⟨text, htext, h⟩ := bind_eq_ok.mp h
  split_ifs at h
  rw [← Except.ok.inj h]
  exact BoundedText.value_of_create htext

/-- A value of a business is the current one, or one that is not in use. -/
theorem UpdateTenant.sentField_newValue {α : Type} {create : JsString → Except TenantException α}
    {inUse : α → Bool} {alreadyExists : JsString → TenantException} {raw : Option JsString}
    {sent : Option α} (current : α)
    (h : sentField (newValue create inUse alreadyExists) raw = .ok sent) :
    sent.getD current = current ∨ inUse (sent.getD current) ≠ true := by
  cases raw with
  | none =>
    rw [← Except.ok.inj h]
    exact .inl rfl
  | some raw =>
    obtain ⟨value, hvalue, rfl⟩ := map_eq_ok.mp h
    obtain ⟨created, -, hvalue⟩ := bind_eq_ok.mp hvalue
    split_ifs at hvalue with hfree
    rw [← Except.ok.inj hvalue]
    exact .inr hfree

/-! ## What is written of a business -/

variable {tenants : List TenantRow} {tenant : TenantAggregate}

/-- No row has the slug or the NIT of the business, or a name that is matched by its
    own, taken as a pattern. -/
structure TenantFree (env : BusinessEnv) (tenants : List TenantRow) (tenant : TenantAggregate) :
    Prop where
  slug : ∀ row ∈ tenants, row.slug ≠ tenant.slug.value
  nit : ∀ row ∈ tenants, row.nit ≠ tenant.nit.value
  name : ∀ row ∈ tenants, env.ilike row.name tenant.name.value = false

/-- The same, but for what the business keeps of its row. -/
structure TenantChanged (env : BusinessEnv) (tenants : List TenantRow) (old : TenantRow)
    (tenant : TenantAggregate) : Prop where
  id : tenant.id = old.id
  slug : tenant.slug.value = old.slug ∨ ∀ row ∈ tenants, row.slug ≠ tenant.slug.value
  nit : tenant.nit.value = old.nit ∨ ∀ row ∈ tenants, row.nit ≠ tenant.nit.value
  name : tenant.name.value = old.name ∨
    ∀ row ∈ tenants, env.ilike row.name tenant.name.value = false

/-- The texts of a row are trimmed. -/
structure TenantTidy (row : TenantRow) : Prop where
  name : trim row.name = row.name
  slug : trim row.slug = row.slug
  nit : trim row.nit = row.nit

theorem TenantMapper.toAggregate_ok {row : TenantRow} (htidy : TenantTidy row)
    (h : TenantMapper.toAggregate row = .ok tenant) :
    tenant.id = row.id ∧ tenant.slug.value = row.slug ∧ tenant.nit.value = row.nit ∧
      tenant.name.value = row.name := by
  obtain ⟨name, hname, h⟩ := bind_eq_ok.mp h
  obtain ⟨description, -, h⟩ := bind_eq_ok.mp h
  obtain ⟨slug, hslug, h⟩ := bind_eq_ok.mp h
  obtain ⟨nit, hnit, h⟩ := bind_eq_ok.mp h
  rw [← Except.ok.inj h]
  refine ⟨rfl, ?_, ?_, ?_⟩
  · exact (TenantSlug.value_of_create hslug).trans htidy.slug
  · exact (TenantNit.value_of_create hnit).trans htidy.nit
  · exact (BoundedText.value_of_create hname).trans htidy.name

theorem existsBySlug_eq_false {slug : TenantSlug}
    (h : TenantRepository.existsBySlug tenants slug ≠ true) :
    ∀ row ∈ tenants, row.slug ≠ slug.value := by
  intro row hrow heq
  exact h (List.any_eq_true.mpr ⟨row, hrow, decide_eq_true heq⟩)

theorem existsByNit_eq_false {nit : TenantNit}
    (h : TenantRepository.existsByNit tenants nit ≠ true) :
    ∀ row ∈ tenants, row.nit ≠ nit.value := by
  intro row hrow heq
  exact h (List.any_eq_true.mpr ⟨row, hrow, decide_eq_true heq⟩)

theorem existsByName_eq_false {name : TenantName}
    (h : TenantRepository.existsByName env tenants name ≠ true) :
    ∀ row ∈ tenants, env.ilike row.name name.value = false := by
  intro row hrow
  by_contra hmatch
  exact h (List.any_eq_true.mpr ⟨row, hrow, Bool.eq_true_of_not_eq_false hmatch⟩)

/-- A new business has the generated id, and is free of all rows. -/
theorem CreateTenant.prepare_ok {tenantId : Uuid} {params : CreateTenantParams}
    (h : CreateTenant.prepare env tenantId now tenants params = .ok tenant) :
    tenant.id = tenantId ∧ TenantFree env tenants tenant := by
  obtain ⟨name, -, h⟩ := bind_eq_ok.mp h
  obtain ⟨slug, -, h⟩ := bind_eq_ok.mp h
  obtain ⟨nit, -, h⟩ := bind_eq_ok.mp h
  obtain ⟨found, hfound, h⟩ := bind_eq_ok.mp h
  cases found with
  | some _ => cases h
  | none =>
    have hnit : ∀ row ∈ tenants, row.nit ≠ nit.value := by
      unfold TenantRepository.searchAggregateByNit at hfound
      split at hfound
      · rename_i hnone
        intro row hrow heq
        exact List.find?_eq_none.mp hnone row hrow (decide_eq_true heq)
      · obtain ⟨_, -, hnone⟩ := map_eq_ok.mp hfound
        cases hnone
    dsimp only at h
    split_ifs at h with hname hslug
    obtain ⟨description, -, h⟩ := bind_eq_ok.mp h
    rw [← Except.ok.inj h]
    exact ⟨rfl, existsBySlug_eq_false hslug, hnit, existsByName_eq_false hname⟩

theorem TenantSlug.create_value (slug : TenantSlug) : TenantSlug.create slug.value = .ok slug := by
  rw [TenantSlug.create, BoundedText.create_value]
  exact dif_pos slug.pattern

theorem TenantNit.create_value (nit : TenantNit) : TenantNit.create nit.value = .ok nit := by
  rw [TenantNit.create, BoundedText.create_value]
  exact dif_pos nit.pattern

/-- A business that is free of all rows is created. -/
theorem CreateTenant.prepare_of_free {tenantId : Uuid} {name : TenantName}
    {description : TenantDescription} {slug : TenantSlug} {nit : TenantNit}
    (hfree : TenantFree env tenants
      (TenantAggregate.create tenantId now name description slug nit)) :
    CreateTenant.prepare env tenantId now tenants
        ⟨name.value, description.value, slug.value, nit.value⟩ =
      .ok (TenantAggregate.create tenantId now name description slug nit) := by
  have hfind : TenantRepository.searchAggregateByNit tenants nit = .ok none := by
    have hnone : tenants.find? (fun row => row.nit = nit.value) = none := by
      refine List.find?_eq_none.mpr fun row hrow heq => ?_
      exact hfree.nit row hrow (of_decide_eq_true heq)
    rw [TenantRepository.searchAggregateByNit, hnone]
  have hname : TenantRepository.existsByName env tenants name = false := by
    refine List.any_eq_false.mpr fun row hrow => ?_
    rw [Bool.not_eq_true]
    exact hfree.name row hrow
  have hslug : TenantRepository.existsBySlug tenants slug = false := by
    refine List.any_eq_false.mpr fun row hrow heq => ?_
    exact hfree.slug row hrow (of_decide_eq_true heq)
  refine bind_eq_ok.mpr ⟨name, BoundedText.create_value name, ?_⟩
  refine bind_eq_ok.mpr ⟨slug, slug.create_value, ?_⟩
  refine bind_eq_ok.mpr ⟨nit, nit.create_value, ?_⟩
  refine bind_eq_ok.mpr ⟨none, hfind, ?_⟩
  dsimp only
  rw [hname, hslug, if_neg Bool.false_ne_true, if_neg Bool.false_ne_true]
  exact bind_eq_ok.mpr ⟨description, BoundedText.create_value description, rfl⟩

/-- What a use case writes of a stored business that is not deleted. -/
theorem TenantOperation.changed_of_prepare {operation : TenantOperation}
    (htidy : ∀ row ∈ tenants, TenantTidy row)
    (h : operation.prepare env now tenants = .ok tenant) :
    ∃ row ∈ tenants, row.isDeleted = false ∧ TenantChanged env tenants row tenant := by
  obtain ⟨loaded, hload, h⟩ := bind_eq_ok.mp h
  obtain ⟨found, hfind, hload⟩ := bind_eq_ok.mp hload
  cases found with
  | none => cases hload
  | some found =>
    obtain rfl := Except.ok.inj hload
    unfold TenantRepository.searchAggregateById at hfind
    split at hfind
    · cases Except.ok.inj hfind
    rename_i row hrow
    obtain ⟨aggregate, haggregate, hsome⟩ := map_eq_ok.mp hfind
    obtain rfl := Option.some.inj hsome
    have hmem := List.mem_of_find?_eq_some hrow
    have hcond := List.find?_some hrow
    rw [Bool.and_eq_true, Bool.not_eq_true'] at hcond
    obtain ⟨hid, hslug, hnit, hname⟩ := TenantMapper.toAggregate_ok (htidy row hmem) haggregate
    refine ⟨row, hmem, hcond.2, ?_⟩
    obtain ⟨id, change⟩ := operation
    cases change with
    | updateTenant params =>
      obtain ⟨name, hname', h⟩ := bind_eq_ok.mp h
      obtain ⟨slug, hslug', h⟩ := bind_eq_ok.mp h
      obtain ⟨nit, hnit', h⟩ := bind_eq_ok.mp h
      obtain ⟨description, -, h⟩ := bind_eq_ok.mp h
      obtain rfl := Except.ok.inj h
      refine ⟨hid, ?_, ?_, ?_⟩
      · exact (UpdateTenant.sentField_newValue aggregate.slug hslug').imp
          (fun heq => (congrArg (·.value) heq).trans hslug) existsBySlug_eq_false
      · exact (UpdateTenant.sentField_newValue aggregate.nit hnit').imp
          (fun heq => (congrArg (·.value) heq).trans hnit) existsByNit_eq_false
      · exact (UpdateTenant.sentField_newValue aggregate.name hname').imp
          (fun heq => (congrArg (·.value) heq).trans hname) existsByName_eq_false
    | toggleTenantStatus =>
      simp only [TenantOperation.perform, TenantAggregate.desactivate,
        TenantAggregate.activate] at h
      split_ifs at h
      · obtain rfl := Except.ok.inj h
        exact ⟨hid, .inl hslug, .inl hnit, .inl hname⟩
      · obtain rfl := Except.ok.inj h
        exact ⟨hid, .inl hslug, .inl hnit, .inl hname⟩
    | deleteTenant =>
      simp only [TenantOperation.perform, TenantAggregate.delete] at h
      split_ifs at h
      obtain rfl := Except.ok.inj h
      exact ⟨hid, .inl hslug, .inl hnit, .inl hname⟩

/-! ## What is written of a branch -/

variable {branches : List BranchRow} {branch branch' : BranchAggregate}

/-- No other branch of the business that is not deleted has the name, up to case. -/
def BranchNameFree (env : BusinessEnv) (branches : List BranchRow) (branch : BranchAggregate) :
    Prop :=
  ∀ row ∈ branches, row.id ≠ branch.id → row.tenantId = branch.tenantId → row.isDeleted = false →
    env.lower row.name ≠ env.lower branch.name.value

theorem nameFree_iff : BranchRepository.nameFree env branches branch = true ↔
    branch.isDeleted = true ∨ BranchNameFree env branches branch := by
  rw [BranchRepository.nameFree, Bool.or_eq_true, List.all_eq_true]
  refine or_congr_right (forall₂_congr fun row _ => ?_)
  rw [Bool.or_eq_true, Bool.or_eq_true, Bool.or_eq_true, decide_eq_true_eq, decide_eq_true_eq,
    decide_eq_true_eq]
  constructor
  · rintro (((hid | htenant) | hdeleted) | hname) hid' htenant' hdeleted'
    · exact absurd hid hid'
    · exact absurd htenant' htenant
    · cases hdeleted'.symm.trans hdeleted
    · exact hname
  · intro h
    by_contra hnot
    simp only [not_or, not_not, Bool.not_eq_true] at hnot
    exact h hnot.1.1.1 hnot.1.1.2 hnot.1.2 hnot.2

/-- The database: `LOWER` goes character by character, and `ILIKE` is `LIKE` up to
    `LOWER`. -/
structure Database (env : BusinessEnv) (f : ℕ → ℕ) : Prop where
  lower : ByCharacter env.lower f
  ilike : ∀ text pattern, env.ilike text pattern = likeLower env.lower text pattern

/-- Lower case of plain texts, and `ILIKE` over it. -/
def sampleEnv : BusinessEnv where
  toLowerCase := toLowerCase
  lower := toLowerCase
  ilike := likeLower toLowerCase

theorem database_sampleEnv : Database sampleEnv lowerCharacter :=
  ⟨byCharacter_toLowerCase, fun _ _ => rfl⟩

/-- The escaped name is found where a branch that is not deleted has it, up to case. -/
theorem existsByName_iff {f : ℕ → ℕ} (hdb : Database env f) {name : BranchName} {tenantId : Uuid} :
    BranchRepository.existsByName env branches name tenantId = true ↔
      ∃ row ∈ branches, row.tenantId = tenantId ∧ row.isDeleted = false ∧
        env.lower row.name = env.lower name.value := by
  have hescape : BranchRepository.escapeLike name.value = escapeLike name.value := rfl
  rw [BranchRepository.existsByName, List.any_eq_true]
  refine exists_congr fun row => and_congr_right fun _ => ?_
  rw [hescape, hdb.ilike, Bool.and_eq_true, Bool.and_eq_true, decide_eq_true_eq,
    Bool.not_eq_true', likeLower_escapeLike hdb.lower]
  tauto

/-- A new branch has the generated id, the business of the call, and a name that is not
    found. -/
theorem CreateBranch.prepare_ok {call : CreateBranchCall} {params : CreateBranchParams}
    (h : CreateBranch.prepare env call branches params = .ok branch) :
    branch.id = call.branchId ∧ branch.tenantId = params.tenantId ∧
      BranchRepository.existsByName env branches branch.name branch.tenantId ≠ true := by
  unfold CreateBranch.prepare at h
  split_ifs at h
  obtain ⟨name, -, h⟩ := bind_eq_ok.mp (mapError_eq_ok.mp h)
  split_ifs at h with hname
  obtain ⟨_, -, h⟩ := bind_eq_ok.mp h
  obtain ⟨_, -, h⟩ := bind_eq_ok.mp h
  obtain ⟨_, -, h⟩ := bind_eq_ok.mp h
  obtain ⟨_, -, h⟩ := bind_eq_ok.mp h
  rw [← Except.ok.inj h]
  exact ⟨rfl, rfl, hname⟩

theorem name_of_update {params : BranchChanges} (h : branch.update params now = .ok branch') :
    branch'.name = params.name.getD branch.name := by
  unfold BranchAggregate.update at h
  split_ifs at h
  split at h
  · cases h
  · obtain ⟨changed, hchanged, h⟩ := bind_eq_ok.mp h
    have hname : changed.name = branch.name := by
      unfold BranchAggregate.changeStatus BranchAggregate.activate BranchAggregate.deactivate
        at hchanged
      split at hchanged
      · split_ifs at hchanged
        rw [← Except.ok.inj hchanged]
      · split_ifs at hchanged
        rw [← Except.ok.inj hchanged]
      · rw [← Except.ok.inj hchanged]
    rw [← Except.ok.inj h, ← hname]

/-- What a use case writes of a stored branch that is not deleted. -/
structure BranchChanged (env : BusinessEnv) (branches : List BranchRow) (old : BranchRow)
    (branch : BranchAggregate) : Prop where
  id : branch.id = old.id
  tenantId : branch.tenantId = old.tenantId
  name : env.toLowerCase branch.name.value = env.toLowerCase old.name ∨
    BranchRepository.existsByName env branches branch.name branch.tenantId ≠ true

theorem BranchMapper.toAggregate_ok {row : BranchRow} (htidy : trim row.name = row.name)
    (h : BranchMapper.toAggregate row = .ok branch) :
    branch.id = row.id ∧ branch.tenantId = row.tenantId ∧ branch.name.value = row.name := by
  obtain ⟨name, hname, h⟩ := bind_eq_ok.mp h
  obtain ⟨_, -, h⟩ := bind_eq_ok.mp h
  obtain ⟨_, -, h⟩ := bind_eq_ok.mp h
  obtain ⟨_, -, h⟩ := bind_eq_ok.mp h
  obtain ⟨_, -, h⟩ := bind_eq_ok.mp h
  rw [← Except.ok.inj h]
  exact ⟨rfl, rfl, (BoundedText.value_of_create hname).trans htidy⟩

theorem BranchOperation.changed_of_prepare {operation : BranchOperation}
    (htidy : ∀ row ∈ branches, trim row.name = row.name)
    (h : operation.prepare env now branches = .ok branch) :
    ∃ row ∈ branches, row.isDeleted = false ∧ BranchChanged env branches row branch := by
  obtain ⟨loaded, hload, h⟩ := bind_eq_ok.mp h
  obtain ⟨found, hfind, hload⟩ := bind_eq_ok.mp hload
  cases found with
  | none => cases hload
  | some found =>
    obtain rfl := Except.ok.inj hload
    unfold BranchRepository.searchAggregateById at hfind
    split at hfind
    · cases Except.ok.inj hfind
    rename_i row hrow
    obtain ⟨aggregate, haggregate, hsome⟩ := map_eq_ok.mp hfind
    obtain rfl := Option.some.inj hsome
    have hmem := List.mem_of_find?_eq_some hrow
    have hcond := List.find?_some hrow
    simp only [Bool.and_eq_true, decide_eq_true_eq, Bool.not_eq_true'] at hcond
    obtain ⟨hid, htenant, hname⟩ := BranchMapper.toAggregate_ok (htidy row hmem) haggregate
    refine ⟨row, hmem, hcond.2, ?_⟩
    obtain ⟨id, tenantId, change⟩ := operation
    cases change with
    | updateBranch params =>
      obtain ⟨name, hname', h⟩ := bind_eq_ok.mp h
      obtain ⟨_, -, h⟩ := bind_eq_ok.mp h
      obtain ⟨_, -, h⟩ := bind_eq_ok.mp h
      obtain ⟨_, -, h⟩ := bind_eq_ok.mp h
      obtain ⟨_, -, h⟩ := bind_eq_ok.mp h
      obtain ⟨hid', htenant', -⟩ := update_ok h
      have hsent : branch.name = name.getD aggregate.name := name_of_update h
      refine ⟨hid'.trans hid, htenant'.trans htenant, ?_⟩
      rw [hsent, htenant'.trans htenant, hcond.1.2, ← hname]
      cases hraw : params.name with
      | none =>
        rw [hraw] at hname'
        rw [← Except.ok.inj hname']
        exact .inl rfl
      | some raw =>
        rw [hraw] at hname'
        obtain ⟨value, hvalue, rfl⟩ := map_eq_ok.mp hname'
        obtain ⟨created, -, hvalue⟩ := bind_eq_ok.mp hvalue
        split_ifs at hvalue with hguard
        rw [← Except.ok.inj hvalue]
        rw [Bool.and_eq_true, not_and_or, Bool.not_eq_true', Bool.not_eq_false] at hguard
        exact hguard.imp_left fun hsame => (of_decide_eq_true hsame).symm
    | deleteBranch =>
      obtain rfl := Except.ok.inj h
      exact ⟨hid, htenant, .inl (congrArg env.toLowerCase hname)⟩

end KomiSaas.Businesses
