import KomiSaas.BranchConfigs.Config

/-!
# `ConfigureProductBranch` and `RemoveProductBranchConfig`

`product-branch-config/application/use-cases/`. Both check their whole list and
prepare what they write before the one call to the repository that writes.

What a call did: `ConfigureProductBranch.execute_cases` and
`RemoveProductBranchConfig.execute_cases`.
-/

namespace KomiSaas.BranchConfigs

open KomiSaas.Lib KomiSaas.Shared ProductBranchConfigRepositoryImpl

/-- `ProductBranchConfigEntry`: a key is absent, null or a value. -/
structure ProductBranchConfigEntry where
  branchId : Uuid
  price : Option (Option JsString)
  isAvailable : Option (Option Bool)
  deriving DecidableEq

structure ConfigureProductBranchParams where
  tenantId : Uuid
  productId : Uuid
  branches : List ProductBranchConfigEntry
  deriving DecidableEq

structure RemoveProductBranchConfigParams where
  tenantId : Uuid
  productId : Uuid
  branchIds : List Uuid
  deriving DecidableEq

/-- What one call finds around it: the clock, the id it would generate for the
    configuration of a branch, and the answers of the two checkers. -/
structure Call where
  now : Instant
  configId : Uuid → Uuid
  productExistsInTenant : Uuid → Uuid → Bool
  branchExistsInTenant : Uuid → Uuid → Bool

/-- Why a call rejects. -/
inductive Failure where
  | domain (error : ProductBranchConfigException)
  | database
  deriving DecidableEq

/-- The loop of both `ensureNoDuplicates`. -/
def noDuplicates (branchIds : List Uuid) : Except ProductBranchConfigException Unit :=
  match Rows.firstRepeated [] branchIds with
  | some branchId => .error (.duplicateBranchInProductConfig branchId)
  | none => .ok ()

/-- `currentByBranch.get(branchId)`: a later entry of a `Map` replaces an earlier one. -/
def currentByBranch (current : List ProductBranchConfig) (branchId : Uuid) :
    Option ProductBranchConfig :=
  current.reverse.find? fun config => config.branchId = branchId

/-! ## `ConfigureProductBranch` -/

namespace ConfigureProductBranch

variable (decimal : DecimalJs) (call : Call)

/-- `ensureNoDuplicates` (lines 53–63). -/
def ensureNoDuplicates (branches : List ProductBranchConfigEntry) :
    Except ProductBranchConfigException Unit :=
  noDuplicates (branches.map (·.branchId))

/-- `ensureProductBelongsToTenant` (lines 67–73). -/
def ensureProductBelongsToTenant (productId tenantId : Uuid) :
    Except ProductBranchConfigException Unit :=
  if !call.productExistsInTenant productId tenantId then .error (.productNotFound productId)
  else .ok ()

/-- `ensureBranchesBelongToTenant` (lines 80–91). -/
def ensureBranchesBelongToTenant (branches : List ProductBranchConfigEntry) (tenantId : Uuid) :
    Except ProductBranchConfigException Unit :=
  match branches.find? fun entry => !call.branchExistsInTenant entry.branchId tenantId with
  | some entry => .error (.branchNotFoundForProducts entry.branchId)
  | none => .ok ()

/-- `toMoney` (lines 162–164). -/
def toMoney (price : Option JsString) : Except ProductBranchConfigException (Option Money) :=
  match price with
  | none => .ok none
  | some price => (moneyOf decimal price defaultCurrency).map some

/-- `createConfig` (lines 122–134). -/
def createConfig (tenantId productId : Uuid) (entry : ProductBranchConfigEntry) :
    Except ProductBranchConfigException ProductBranchConfig := do
  let price ← toMoney decimal (entry.price.getD none)
  ProductBranchConfig.create decimal (call.configId entry.branchId) tenantId productId
    entry.branchId price (entry.isAvailable.getD none) call.now

/-- The price that `applyChanges` passes on, if the entry has one. -/
def sentPrice (price : Option (Option JsString)) :
    Except ProductBranchConfigException (Option (Option Money)) :=
  match price with
  | none => .ok none
  | some price => (toMoney decimal price).map some

/-- `applyChanges` (lines 141–146). -/
def applyChanges (config : ProductBranchConfig) (entry : ProductBranchConfigEntry) :
    Except ProductBranchConfigException ProductBranchConfig := do
  let price ← sentPrice decimal entry.price
  config.change decimal price entry.isAvailable call.now

/-- The final configuration of one entry (lines 105–114). -/
def prepareConfig (tenantId productId : Uuid) (current : List ProductBranchConfig)
    (entry : ProductBranchConfigEntry) :
    Except ProductBranchConfigException ProductBranchConfig :=
  match currentByBranch current entry.branchId with
  | some existing => applyChanges decimal call existing entry
  | none => createConfig decimal call tenantId productId entry

/-- `prepareConfigs` (lines 99–115). -/
def prepareConfigs (table : List ProductBranchConfigRow) (params : ConfigureProductBranchParams) :
    Except ProductBranchConfigException (List ProductBranchConfig) := do
  let current ← findByProduct decimal table params.tenantId params.productId
  params.branches.mapM (prepareConfig decimal call params.tenantId params.productId current)

/-- `findAllForProduct` (lines 154–158). -/
def findAllForProduct (table : List ProductBranchConfigRow) (tenantId productId : Uuid) :
    Except ProductBranchConfigException (List ProductBranchConfigPrimitives) :=
  (findByProduct decimal table tenantId productId).map fun configs =>
    configs.map (·.toPrimitives decimal)

/-- What `execute` does before it writes (lines 37–41). -/
def prepare (table : List ProductBranchConfigRow) (params : ConfigureProductBranchParams) :
    Except ProductBranchConfigException (List ProductBranchConfig) := do
  ensureNoDuplicates params.branches
  ensureProductBelongsToTenant call params.productId params.tenantId
  ensureBranchesBelongToTenant call params.branches params.tenantId
  prepareConfigs decimal call table params

/-- `execute` (lines 31–46). -/
def execute (table : List ProductBranchConfigRow) (params : ConfigureProductBranchParams) :
    Except Failure (List ProductBranchConfigPrimitives) × List ProductBranchConfigRow :=
  match prepare decimal call table params with
  | .error e => (.error (.domain e), table)
  | .ok configs =>
    match saveMany table configs with
    | none => (.error .database, table)
    | some table =>
      ((findAllForProduct decimal table params.tenantId params.productId).mapError .domain, table)

end ConfigureProductBranch

/-! ## `RemoveProductBranchConfig` -/

namespace RemoveProductBranchConfig

variable (decimal : DecimalJs)

/-- `ensureNoDuplicates` (lines 38–48). -/
def ensureNoDuplicates (branchIds : List Uuid) : Except ProductBranchConfigException Unit :=
  noDuplicates branchIds

/-- `findConfigsToRemove` (lines 56–71). -/
def findConfigsToRemove (table : List ProductBranchConfigRow)
    (params : RemoveProductBranchConfigParams) :
    Except ProductBranchConfigException (List ProductBranchConfig) := do
  let current ← findByProduct decimal table params.tenantId params.productId
  params.branchIds.mapM fun branchId =>
    match currentByBranch current branchId with
    | none => .error (.productBranchConfigNotFound params.productId branchId)
    | some config => .ok config

/-- What `execute` does before it deletes. -/
def prepare (table : List ProductBranchConfigRow) (params : RemoveProductBranchConfigParams) :
    Except ProductBranchConfigException (List ProductBranchConfig) := do
  ensureNoDuplicates params.branchIds
  findConfigsToRemove decimal table params

/-- `execute` (lines 23–31). -/
def execute (table : List ProductBranchConfigRow) (params : RemoveProductBranchConfigParams) :
    Except Failure Unit × List ProductBranchConfigRow :=
  match prepare decimal table params with
  | .error e => (.error (.domain e), table)
  | .ok configs => (.ok (), deleteMany table (configs.map (·.id)) params.tenantId)

end RemoveProductBranchConfig

/-! ## What is loaded -/

variable {decimal : DecimalJs} {call : Call} {table : List ProductBranchConfigRow}
  {current : List ProductBranchConfig} {config : ProductBranchConfig} {tenantId productId : Uuid}

/-- The configurations of a product, as they are loaded. -/
def loaded (table : List ProductBranchConfigRow) (tenantId productId : Uuid) :
    List ProductBranchConfig :=
  ((table.filter fun row => row.tenantId = tenantId && row.productId = productId).insertionSort
    precedes).map (·.read)

theorem mem_loaded : config ∈ loaded table tenantId productId ↔
    ∃ row ∈ table, row.tenantId = tenantId ∧ row.productId = productId ∧ config = row.read := by
  simp only [loaded, List.mem_map, List.mem_insertionSort, List.mem_filter, Bool.and_eq_true,
    decide_eq_true_eq]
  constructor
  · rintro ⟨row, ⟨hrow, htenant, hproduct⟩, rfl⟩
    exact ⟨row, hrow, htenant, hproduct, rfl⟩
  · rintro ⟨row, hrow, htenant, hproduct, rfl⟩
    exact ⟨row, ⟨hrow, htenant, hproduct⟩, rfl⟩

/-- Valid rows are loaded without an error. -/
theorem findByProduct_eq (hvalid : ∀ row ∈ table, row.Valid) :
    findByProduct decimal table tenantId productId = .ok (loaded table tenantId productId) := by
  apply mapM_eq_map
  intro row hrow
  rw [List.mem_insertionSort] at hrow
  exact toDomain_of_valid (hvalid row (List.mem_filter.mp hrow).1)

theorem currentByBranch_eq_some {branchId : Uuid}
    (h : currentByBranch current branchId = some config) :
    config ∈ current ∧ config.branchId = branchId := by
  have hbranch := List.find?_some h
  exact ⟨List.mem_reverse.mp (List.mem_of_find?_eq_some h), of_decide_eq_true hbranch⟩

theorem currentByBranch_eq_none {branchId : Uuid} (h : currentByBranch current branchId = none)
    (hmem : config ∈ current) : config.branchId ≠ branchId := by
  have hnot := List.find?_eq_none.mp h config (List.mem_reverse.mpr hmem)
  exact fun hbranch => hnot (decide_eq_true hbranch)

theorem noDuplicates_eq_ok {branchIds : List Uuid} (h : noDuplicates branchIds = .ok ()) :
    branchIds.Nodup := by
  unfold noDuplicates at h
  cases hfirst : Rows.firstRepeated [] branchIds with
  | some branchId =>
    rw [hfirst] at h
    cases h
  | none => exact Rows.firstRepeated_nil_eq_none_iff.mp hfirst

/-! ## The fold of an entry -/

/-- A price that is absent stays, one that is null goes, and a text is read. -/
def SetsPrice (decimal : DecimalJs) (sent : Option (Option JsString)) (old new : Option Money) :
    Prop :=
  match sent with
  | none => new = old
  | some none => new = none
  | some (some text) =>
    ∃ money, Money.of decimal text defaultCurrency = .ok money ∧ new = some money

/-- `config` is the old configuration of the branch, if there is one, overridden
    key by key by the entry. -/
structure Folds (decimal : DecimalJs) (call : Call) (tenantId productId : Uuid)
    (entry : ProductBranchConfigEntry) (old : Option ProductBranchConfig)
    (config : ProductBranchConfig) : Prop where
  id : config.id = (old.map (·.id)).getD (call.configId entry.branchId)
  tenantId : config.tenantId = tenantId
  productId : config.productId = productId
  branchId : config.branchId = entry.branchId
  price : SetsPrice decimal entry.price (old.bind (·.price)) config.price
  isAvailable : config.isAvailable = entry.isAvailable.getD (old.bind (·.isAvailable))
  createdAt : config.createdAt = (old.map (·.createdAt)).getD call.now
  updatedAt : config.updatedAt = call.now

/-- `config` is the fold of the entry, and the aggregate accepted it. -/
structure Prepares (decimal : DecimalJs) (call : Call) (tenantId productId : Uuid)
    (entry : ProductBranchConfigEntry) (old : Option ProductBranchConfig)
    (config : ProductBranchConfig) : Prop where
  folds : Folds decimal call tenantId productId entry old config
  overrides : config.price.isSome = true ∨ config.isAvailable.isSome = true
  validPrice : ProductBranchConfig.ensureValidPrice decimal config.price = .ok ()

namespace ConfigureProductBranch

variable {entry : ProductBranchConfigEntry} {params : ConfigureProductBranchParams}

theorem toMoney_eq_ok {sent : Option JsString} {price : Option Money}
    (h : toMoney decimal sent = .ok price) :
    SetsPrice decimal (some sent) none price := by
  cases sent with
  | none => exact (Except.ok.inj h).symm
  | some text =>
    obtain ⟨money, hmoney, rfl⟩ := map_eq_ok.mp h
    exact ⟨money, mapError_eq_ok.mp hmoney, rfl⟩

/-- Both operations of the aggregate end with a configuration that overrides
    something. -/
theorem overrides_of_checks {α : Type} {price : Option Money} {isAvailable : Option Bool}
    {result config : α}
    (h : (do
      ProductBranchConfig.ensureValidPrice decimal price
      if price.isNone && isAvailable.isNone then .error .emptyProductBranchConfig
      else .ok result : Except ProductBranchConfigException α) = .ok config) :
    result = config ∧ (price.isSome = true ∨ isAvailable.isSome = true) ∧
      ProductBranchConfig.ensureValidPrice decimal price = .ok () := by
  obtain ⟨u, hprice, h⟩ := bind_eq_ok.mp h
  split_ifs at h with hempty
  refine ⟨Except.ok.inj h, ?_, hprice⟩
  cases price <;> cases isAvailable <;> simp_all

theorem prepares_createConfig
    (h : createConfig decimal call tenantId productId entry = .ok config) :
    Prepares decimal call tenantId productId entry none config := by
  obtain ⟨price, hprice, h⟩ := bind_eq_ok.mp h
  obtain ⟨rfl, hoverrides, hvalid⟩ := overrides_of_checks h
  refine ⟨⟨rfl, rfl, rfl, rfl, ?_, rfl, rfl, rfl⟩, hoverrides, hvalid⟩
  have hsets := toMoney_eq_ok hprice
  cases hsent : entry.price with
  | none =>
    rw [hsent] at hsets
    exact hsets
  | some sent =>
    rw [hsent] at hsets
    exact hsets

theorem prepares_applyChanges {old : ProductBranchConfig} (htenant : old.tenantId = tenantId)
    (hproduct : old.productId = productId) (hbranch : old.branchId = entry.branchId)
    (h : applyChanges decimal call old entry = .ok config) :
    Prepares decimal call tenantId productId entry (some old) config := by
  obtain ⟨price, hprice, h⟩ := bind_eq_ok.mp h
  obtain ⟨rfl, hoverrides, hvalid⟩ := overrides_of_checks h
  refine ⟨⟨rfl, htenant, hproduct, hbranch, ?_, rfl, rfl, rfl⟩, hoverrides, hvalid⟩
  cases hsent : entry.price with
  | none =>
    rw [hsent] at hprice
    obtain rfl := Except.ok.inj hprice
    rfl
  | some sent =>
    rw [hsent] at hprice
    obtain ⟨money, hmoney, rfl⟩ := map_eq_ok.mp hprice
    have hsets := toMoney_eq_ok hmoney
    cases sent with
    | none => exact hsets
    | some text => exact hsets

theorem prepares_prepareConfig (h : prepareConfig decimal call tenantId productId
      (loaded table tenantId productId) entry = .ok config) :
    Prepares decimal call tenantId productId entry
      (currentByBranch (loaded table tenantId productId) entry.branchId) config := by
  unfold prepareConfig at h
  cases hold : currentByBranch (loaded table tenantId productId) entry.branchId with
  | none =>
    rw [hold] at h
    exact prepares_createConfig h
  | some old =>
    rw [hold] at h
    obtain ⟨hmem, hbranch⟩ := currentByBranch_eq_some hold
    obtain ⟨row, -, htenant, hproduct, rfl⟩ := mem_loaded.mp hmem
    exact prepares_applyChanges htenant hproduct hbranch h

/-- What is prepared: one configuration for each entry, of distinct branches. -/
theorem prepare_eq_ok (hvalid : ∀ row ∈ table, row.Valid) {configs : List ProductBranchConfig}
    (h : prepare decimal call table params = .ok configs) :
    (params.branches.map (·.branchId)).Nodup ∧
      List.Forall₂ (fun entry =>
        Prepares decimal call params.tenantId params.productId entry
          (currentByBranch (loaded table params.tenantId params.productId) entry.branchId))
        params.branches configs := by
  obtain ⟨u, hdistinct, h⟩ := bind_eq_ok.mp h
  obtain ⟨v, -, h⟩ := bind_eq_ok.mp h
  obtain ⟨w, -, h⟩ := bind_eq_ok.mp h
  obtain ⟨current, hcurrent, h⟩ := bind_eq_ok.mp h
  rw [findByProduct_eq hvalid] at hcurrent
  obtain rfl := Except.ok.inj hcurrent
  exact ⟨noDuplicates_eq_ok hdistinct, (mapM_eq_ok.mp h).imp fun _ _ => prepares_prepareConfig⟩

/-- A configuration that was prepared and meets the checks of the table is valid. -/
theorem valid_of_meetsChecks
    (hoverrides : config.price.isSome = true ∨ config.isAvailable.isSome = true)
    (hchecks : (ProductBranchConfigMapper.toPersistence config).meetsChecks = true) :
    config.Valid where
  overrides := hoverrides
  positive := by
    intro price hprice
    obtain hprice := Option.mem_def.mp hprice
    simp only [ProductBranchConfigRow.meetsChecks, ProductBranchConfigMapper.toPersistence, hprice,
      Option.map_some, Option.all_some, Bool.and_eq_true, decide_eq_true_eq] at hchecks
    exact hchecks.2.1

/-- `saveMany` writes valid rows only. -/
theorem valid_of_saveMany {table' : List ProductBranchConfigRow}
    {configs : List ProductBranchConfig} (hvalid : ∀ row ∈ table, row.Valid)
    (hoverrides : ∀ config ∈ configs, config.price.isSome = true ∨ config.isAvailable.isSome = true)
    (hsave : saveMany table configs = some table') : ∀ row ∈ table', row.Valid := by
  unfold saveMany at hsave
  split_ifs at hsave with haccepted
  obtain rfl := Option.some.inj hsave
  rw [Bool.and_eq_true, List.all_eq_true] at haccepted
  intro row hrow
  rcases Rows.mem_upsertAll hrow with hnew | hold
  · have hchecks := haccepted.1 row hnew
    obtain ⟨config, hconfig, rfl⟩ := List.mem_map.mp hnew
    exact valid_toPersistence (valid_of_meetsChecks (hoverrides config hconfig) hchecks)
  · exact hvalid row hold

/-- A call ends well exactly with what it prepared and saved; else the table is
    as it was. -/
theorem execute_cases (hvalid : ∀ row ∈ table, row.Valid) :
    ((execute decimal call table params).1.isOk = false ∧
      (execute decimal call table params).2 = table) ∨
    ((execute decimal call table params).1.isOk = true ∧ ∃ configs,
      prepare decimal call table params = .ok configs ∧
        saveMany table configs = some (execute decimal call table params).2) := by
  cases hprepare : prepare decimal call table params with
  | error e =>
    rw [execute, hprepare]
    exact .inl ⟨rfl, rfl⟩
  | ok configs =>
    cases hsave : saveMany table configs with
    | none =>
      have hexecute : execute decimal call table params = (.error .database, table) := by
        unfold execute
        simp only [hprepare, hsave]
      rw [hexecute]
      exact .inl ⟨rfl, rfl⟩
    | some table' =>
      right
      have hoverrides : ∀ config ∈ configs,
          config.price.isSome = true ∨ config.isAvailable.isSome = true := by
        intro config hconfig
        obtain ⟨entry, -, h⟩ := exists_of_forall₂ (prepare_eq_ok hvalid hprepare).2 hconfig
        exact h.overrides
      -- the rows that are read for the answer are valid again
      have hread := @findByProduct_eq decimal table' params.tenantId params.productId
        (valid_of_saveMany hvalid hoverrides hsave)
      have hexecute : execute decimal call table params =
          (.ok ((loaded table' params.tenantId params.productId).map (·.toPrimitives decimal)),
            table') := by
        unfold execute
        simp only [hprepare, hsave, findAllForProduct, hread]
        rfl
      rw [hexecute]
      exact ⟨rfl, configs, rfl, hsave⟩

end ConfigureProductBranch

namespace RemoveProductBranchConfig

variable {params : RemoveProductBranchConfigParams}

/-- A call ends well exactly where every listed branch has a configuration, and
    then deletes these; else the table is as it was. -/
theorem execute_cases (hvalid : ∀ row ∈ table, row.Valid) :
    ((execute decimal table params).1.isOk = false ∧ (execute decimal table params).2 = table) ∨
    ((execute decimal table params).1.isOk = true ∧ ∃ configs,
      List.Forall₂ (fun branchId config =>
        currentByBranch (loaded table params.tenantId params.productId) branchId = some config)
        params.branchIds configs ∧
      (execute decimal table params).2 =
        deleteMany table (configs.map (·.id)) params.tenantId) := by
  unfold execute
  cases hprepare : prepare decimal table params with
  | error e => exact .inl ⟨rfl, rfl⟩
  | ok configs =>
    refine .inr ⟨rfl, configs, ?_, rfl⟩
    obtain ⟨u, -, h⟩ := bind_eq_ok.mp hprepare
    obtain ⟨current, hcurrent, h⟩ := bind_eq_ok.mp h
    rw [findByProduct_eq hvalid] at hcurrent
    obtain rfl := Except.ok.inj hcurrent
    refine (mapM_eq_ok.mp h).imp fun branchId config hfound => ?_
    cases hcurrent : currentByBranch (loaded table params.tenantId params.productId) branchId with
    | none =>
      rw [hcurrent] at hfound
      cases hfound
    | some found =>
      rw [hcurrent] at hfound
      rw [Except.ok.inj hfound]

end RemoveProductBranchConfig

end KomiSaas.BranchConfigs
