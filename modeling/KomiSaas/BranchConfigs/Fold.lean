import KomiSaas.BranchConfigs.UseCases
import KomiSaas.Lib.Run

/-!
# What a branch overrides, over whole runs

Whole calls of `ConfigureProductBranch` and `RemoveProductBranchConfig`, one
after another, from an empty table, for any products and businesses.

* `configured_of_execute`: a call that configures folds each entry into the row
  of its branch and leaves the other rows alone.
* `removed_of_execute`: a call that removes deletes the rows of its branches.
* `configs_follow_fold`: both over runs, where a call that throws changes no row,
  with what holds of the rows in every state.
-/

namespace KomiSaas.BranchConfigs

open KomiSaas.Lib KomiSaas.Shared ProductBranchConfigRepositoryImpl ProductBranchConfigMapper

/-- What holds of the table in every run. -/
structure TableInv (table : List ProductBranchConfigRow) : Prop where
  ids : (table.map (·.id)).Nodup
  keys : (table.map (·.key)).Nodup
  valid : ∀ row ∈ table, row.Valid

/-- The row of a branch, whichever business it is of. -/
def rowOf (table : List ProductBranchConfigRow) (productId branchId : Uuid) :
    Option ProductBranchConfigRow :=
  Rows.find (·.key) (productId, branchId) table

/-- The entries were folded into the rows of their branches. -/
structure Configured (decimal : DecimalJs) (call : Call) (params : ConfigureProductBranchParams)
    (table table' : List ProductBranchConfigRow) : Prop where
  folded : ∀ entry ∈ params.branches, ∃ config,
    rowOf table' params.productId entry.branchId = some (toPersistence config) ∧
      Folds decimal call params.tenantId params.productId entry
        ((rowOf table params.productId entry.branchId).map (·.read)) config
  others : ∀ row, row.productId ≠ params.productId ∨
      row.branchId ∉ params.branches.map (·.branchId) → (row ∈ table' ↔ row ∈ table)

/-- The rows of the listed branches were deleted, and all of them had one. -/
structure Removed (params : RemoveProductBranchConfigParams)
    (table table' : List ProductBranchConfigRow) : Prop where
  listed : ∀ branchId ∈ params.branchIds, (rowOf table params.productId branchId).isSome = true
  left : table' = table.filter fun row =>
    !(row.productId = params.productId && row.branchId ∈ params.branchIds)

/-- The ids that a call would generate for its entries: of no row, and different
    for different branches. -/
def fresh (call : Call) (branches : List ProductBranchConfigEntry)
    (table : List ProductBranchConfigRow) : Bool :=
  branches.all fun entry => call.configId entry.branchId ∉ table.map (·.id) &&
    branches.all fun other =>
      call.configId entry.branchId ≠ call.configId other.branchId ||
        entry.branchId = other.branchId

variable {decimal : DecimalJs} {call : Call} {table table' : List ProductBranchConfigRow}
  {config : ProductBranchConfig} {configs : List ProductBranchConfig}
  {tenantId productId branchId : Uuid} {row : ProductBranchConfigRow}

theorem rowOf_eq_some_iff (hinv : TableInv table) :
    rowOf table productId branchId = some row ↔
      row ∈ table ∧ row.productId = productId ∧ row.branchId = branchId := by
  rw [rowOf, Rows.find_eq_some_iff hinv.keys, ProductBranchConfigRow.key, Prod.mk.injEq]

/-- A configuration that was loaded for a branch is its row. -/
theorem rowOf_of_currentByBranch (hinv : TableInv table)
    (h : currentByBranch (loaded table tenantId productId) branchId = some config) :
    ∃ row, rowOf table productId branchId = some row ∧ row.tenantId = tenantId ∧
      row.read = config := by
  obtain ⟨hmem, hbranch⟩ := currentByBranch_eq_some h
  obtain ⟨row, hrow, htenant, hproduct, rfl⟩ := mem_loaded.mp hmem
  exact ⟨row, (rowOf_eq_some_iff hinv).mpr ⟨hrow, hproduct, hbranch⟩, htenant, rfl⟩

/-! ## `ConfigureProductBranch` -/

section Configure

variable {params : ConfigureProductBranchParams}

/-- The configurations prepared for the entries, one for each. -/
def Prepared (decimal : DecimalJs) (call : Call) (params : ConfigureProductBranchParams)
    (table : List ProductBranchConfigRow) (configs : List ProductBranchConfig) : Prop :=
  List.Forall₂ (fun entry config =>
    Folds decimal call params.tenantId params.productId entry
      (currentByBranch (loaded table params.tenantId params.productId) entry.branchId) config)
    params.branches configs

theorem fresh_iff {branches : List ProductBranchConfigEntry}
    (h : fresh call branches table = true) {entry : ProductBranchConfigEntry}
    (hentry : entry ∈ branches) :
    call.configId entry.branchId ∉ table.map (·.id) ∧ ∀ other ∈ branches,
      call.configId entry.branchId = call.configId other.branchId →
        entry.branchId = other.branchId := by
  have hall := List.all_eq_true.mp h entry hentry
  simp only [Bool.and_eq_true, decide_eq_true_eq, List.all_eq_true, Bool.or_eq_true] at hall
  refine ⟨hall.1, fun other hother hsame => ?_⟩
  exact (hall.2 other hother).resolve_left (not_not.mpr hsame)

theorem branchIds_of_prepared (h : Prepared decimal call params table configs) :
    configs.map (·.branchId) = params.branches.map (·.branchId) := by
  unfold Prepared at h
  generalize params.branches = branches at h
  induction h with
  | nil => rfl
  | cons hfold _ ih => rw [List.map_cons, List.map_cons, ih, hfold.branchId]

/-- Where the id of a prepared configuration comes from. -/
theorem origin_of_prepared (hinv : TableInv table)
    (h : Prepared decimal call params table configs) (hconfig : config ∈ configs) :
    config.tenantId = params.tenantId ∧ config.productId = params.productId ∧
      ∃ entry ∈ params.branches, config.branchId = entry.branchId ∧
        ((∃ row, rowOf table params.productId entry.branchId = some row ∧
            row.tenantId = params.tenantId ∧ row.id = config.id) ∨
          config.id = call.configId entry.branchId) := by
  obtain ⟨entry, hentry, hfold⟩ := exists_of_forall₂ h hconfig
  refine ⟨hfold.tenantId, hfold.productId, entry, hentry, hfold.branchId, ?_⟩
  have hid := hfold.id
  cases hcurrent : currentByBranch (loaded table params.tenantId params.productId)
      entry.branchId with
  | none =>
    rw [hcurrent] at hid
    exact .inr hid
  | some old =>
    rw [hcurrent] at hid
    obtain ⟨row, hrow, htenant, rfl⟩ := rowOf_of_currentByBranch hinv hcurrent
    exact .inl ⟨row, hrow, htenant, hid.symm⟩

/-- Different branches, different ids. -/
theorem nodup_ids_of_prepared (hinv : TableInv table)
    (hfresh : fresh call params.branches table = true)
    (hdistinct : (params.branches.map (·.branchId)).Nodup)
    (h : Prepared decimal call params table configs) : (configs.map (·.id)).Nodup := by
  have hbranches : (configs.map (·.branchId)).Nodup := branchIds_of_prepared h ▸ hdistinct
  refine List.Nodup.map_on ?_ (List.Nodup.of_map _ hbranches)
  intro config hconfig other hother hid
  apply List.inj_on_of_nodup_map hbranches hconfig hother
  obtain ⟨-, -, entry, hentry, hbranch, horigin⟩ := origin_of_prepared hinv h hconfig
  obtain ⟨-, -, entry', hentry', hbranch', horigin'⟩ := origin_of_prepared hinv h hother
  obtain ⟨hnew, hinj⟩ := fresh_iff hfresh hentry
  obtain ⟨hnew', -⟩ := fresh_iff hfresh hentry'
  rw [hbranch, hbranch']
  rcases horigin with ⟨row, hrow, -, hrowId⟩ | hgenerated
  · obtain ⟨hmem, -, hrowBranch⟩ := (rowOf_eq_some_iff hinv).mp hrow
    rcases horigin' with ⟨row', hrow', -, hrowId'⟩ | hgenerated'
    · obtain ⟨hmem', -, hrowBranch'⟩ := (rowOf_eq_some_iff hinv).mp hrow'
      have hsame : row.id = row'.id := hrowId.trans (hid.trans hrowId'.symm)
      obtain rfl := List.inj_on_of_nodup_map hinv.ids hmem hmem' hsame
      exact hrowBranch.symm.trans hrowBranch'
    · refine absurd ?_ hnew'
      rw [← hgenerated', ← hid, ← hrowId]
      exact List.mem_map_of_mem hmem
  · rcases horigin' with ⟨row', hrow', -, hrowId'⟩ | hgenerated'
    · obtain ⟨hmem', -, -⟩ := (rowOf_eq_some_iff hinv).mp hrow'
      refine absurd ?_ hnew
      rw [← hgenerated, hid, ← hrowId']
      exact List.mem_map_of_mem hmem'
    · exact hinj entry' hentry' (hgenerated.symm.trans (hid.trans hgenerated'))

/-- A stored row that a prepared configuration replaces is that of its branch. -/
theorem rowOf_of_id_mem (hinv : TableInv table) (hfresh : fresh call params.branches table = true)
    (h : Prepared decimal call params table configs) (hrow : row ∈ table)
    (hid : row.id ∈ configs.map (·.id)) :
    row.tenantId = params.tenantId ∧ row.productId = params.productId ∧
      row.branchId ∈ params.branches.map (·.branchId) := by
  obtain ⟨config, hconfig, hsame⟩ := List.mem_map.mp hid
  obtain ⟨-, -, entry, hentry, -, horigin⟩ := origin_of_prepared hinv h hconfig
  rcases horigin with ⟨row', hrow', htenant, hrowId⟩ | hgenerated
  · obtain ⟨hmem', hproduct, hbranch⟩ := (rowOf_eq_some_iff hinv).mp hrow'
    obtain rfl := List.inj_on_of_nodup_map hinv.ids hmem' hrow (hrowId.trans hsame)
    exact ⟨htenant, hproduct, hbranch ▸ List.mem_map_of_mem hentry⟩
  · refine absurd ?_ (fresh_iff hfresh hentry).1
    rw [← hgenerated, hsame]
    exact List.mem_map_of_mem hrow

/-- The table after `saveMany`: the prepared rows and those with other ids. -/
theorem mem_of_saveMany (hinv : TableInv table) (hids : (configs.map (·.id)).Nodup)
    (hsave : saveMany table configs = some table') :
    (table'.map (·.id)).Nodup ∧ (table'.map (·.key)).Nodup ∧ ∀ row, row ∈ table' ↔
      (∃ config ∈ configs, row = toPersistence config) ∨
        (row ∈ table ∧ row.id ∉ configs.map (·.id)) := by
  unfold saveMany at hsave
  split_ifs at hsave with haccepted
  obtain rfl := Option.some.inj hsave
  rw [Bool.and_eq_true, decide_eq_true_iff] at haccepted
  have hnews : (configs.map toPersistence).map (·.id) = configs.map (·.id) := by
    rw [List.map_map]
    rfl
  refine ⟨Rows.nodup_keys_upsertAll hinv.ids, haccepted.2, fun row => ?_⟩
  have hmem : row ∈ written table configs ↔ row ∈ configs.map toPersistence ∨
      (row ∈ table ∧ row.id ∉ (configs.map toPersistence).map (·.id)) :=
    Rows.mem_upsertAll_iff (by rw [hnews]; exact hids) hinv.ids
  rw [hmem, hnews, List.mem_map]
  simp only [eq_comm]

/-- What is loaded for a branch is its row, and a branch without one had none, of
    whichever business: the key would be there twice. -/
theorem currentByBranch_eq (hinv : TableInv table)
    (hfresh : fresh call params.branches table = true)
    (h : Prepared decimal call params table configs) (hids : (configs.map (·.id)).Nodup)
    (hsave : saveMany table configs = some table') {entry : ProductBranchConfigEntry}
    (hconfig : config ∈ configs) (hproduct : config.productId = params.productId)
    (htenant : config.tenantId = params.tenantId) (hbranch : config.branchId = entry.branchId) :
    currentByBranch (loaded table params.tenantId params.productId) entry.branchId =
      (rowOf table params.productId entry.branchId).map (·.read) := by
  obtain ⟨-, hkeys, hmem⟩ := mem_of_saveMany hinv hids hsave
  cases hcurrent : currentByBranch (loaded table params.tenantId params.productId)
      entry.branchId with
  | some old =>
    obtain ⟨row, hrow, -, rfl⟩ := rowOf_of_currentByBranch hinv hcurrent
    rw [hrow]
    rfl
  | none =>
    cases hrow : rowOf table params.productId entry.branchId with
    | none => rfl
    | some row =>
      exfalso
      obtain ⟨hstored, hrowProduct, hrowBranch⟩ := (rowOf_eq_some_iff hinv).mp hrow
      have hother : row.tenantId ≠ params.tenantId := by
        intro hsame
        have hloaded : row.read ∈ loaded table params.tenantId params.productId :=
          mem_loaded.mpr ⟨row, hstored, hsame, hrowProduct, rfl⟩
        exact currentByBranch_eq_none hcurrent hloaded hrowBranch
      have hkept : row ∈ table' := (hmem row).mpr (.inr ⟨hstored, fun hid =>
        hother (rowOf_of_id_mem hinv hfresh h hstored hid).1⟩)
      have hnew : toPersistence config ∈ table' := (hmem _).mpr (.inl ⟨config, hconfig, rfl⟩)
      have hkey : (toPersistence config).key = row.key :=
        Prod.ext (hproduct.trans hrowProduct.symm) (hbranch.trans hrowBranch.symm)
      have hsame := List.inj_on_of_nodup_map hkeys hnew hkept hkey
      rw [← hsame] at hother
      exact hother htenant

theorem configured_of_saveMany (hinv : TableInv table)
    (hfresh : fresh call params.branches table = true)
    (hdistinct : (params.branches.map (·.branchId)).Nodup)
    (h : Prepared decimal call params table configs)
    (hsave : saveMany table configs = some table') (hinv' : TableInv table') :
    Configured decimal call params table table' where
  folded := by
    have hids := nodup_ids_of_prepared hinv hfresh hdistinct h
    obtain ⟨-, -, hmem⟩ := mem_of_saveMany hinv hids hsave
    intro entry hentry
    obtain ⟨config, hconfig, hfold⟩ := exists_of_forall₂ h.flip hentry
    have hcurrent := currentByBranch_eq hinv hfresh h hids hsave hconfig hfold.productId
      hfold.tenantId hfold.branchId
    refine ⟨config, (rowOf_eq_some_iff hinv').mpr ⟨(hmem _).mpr (.inl ⟨config, hconfig, rfl⟩),
      hfold.productId, hfold.branchId⟩, ?_⟩
    rw [← hcurrent]
    exact hfold
  others := by
    have hids := nodup_ids_of_prepared hinv hfresh hdistinct h
    obtain ⟨-, -, hmem⟩ := mem_of_saveMany hinv hids hsave
    intro row hother
    rw [hmem row]
    constructor
    · rintro (⟨config, hconfig, rfl⟩ | ⟨hrow, -⟩)
      · obtain ⟨-, hproduct, entry, hentry, hbranch, -⟩ := origin_of_prepared hinv h hconfig
        rcases hother with hne | hnot
        · exact absurd hproduct hne
        · refine absurd ?_ hnot
          rw [show (toPersistence config).branchId = entry.branchId from hbranch]
          exact List.mem_map_of_mem hentry
      · exact hrow
    · intro hrow
      refine .inr ⟨hrow, fun hid => ?_⟩
      obtain ⟨-, hproduct, hbranch⟩ := rowOf_of_id_mem hinv hfresh h hrow hid
      rcases hother with hne | hnot
      · exact hne hproduct
      · exact hnot hbranch

/-- A call that throws changes no row; one that does not folds its entries. -/
theorem configured_of_execute (hinv : TableInv table)
    (hfresh : fresh call params.branches table = true) :
    TableInv (ConfigureProductBranch.execute decimal call table params).2 ∧
    (((ConfigureProductBranch.execute decimal call table params).1.isOk = false ∧
        (ConfigureProductBranch.execute decimal call table params).2 = table) ∨
      ((ConfigureProductBranch.execute decimal call table params).1.isOk = true ∧
        Configured decimal call params table
          (ConfigureProductBranch.execute decimal call table params).2)) := by
  rcases @ConfigureProductBranch.execute_cases decimal call table params hinv.valid with
    ⟨hthrows, hsame⟩ | ⟨hok, configs, hprepare, hsave⟩
  · exact ⟨by rw [hsame]; exact hinv, .inl ⟨hthrows, hsame⟩⟩
  obtain ⟨hdistinct, hforall⟩ := ConfigureProductBranch.prepare_eq_ok hinv.valid hprepare
  have hprepared : Prepared decimal call params table configs := hforall.imp fun _ _ h => h.folds
  have hoverrides : ∀ config ∈ configs,
      config.price.isSome = true ∨ config.isAvailable.isSome = true := by
    intro config hconfig
    obtain ⟨entry, -, h⟩ := exists_of_forall₂ hforall hconfig
    exact h.overrides
  have hids := nodup_ids_of_prepared hinv hfresh hdistinct hprepared
  obtain ⟨hids', hkeys', -⟩ := mem_of_saveMany hinv hids hsave
  have hinv' : TableInv (ConfigureProductBranch.execute decimal call table params).2 :=
    ⟨hids', hkeys', ConfigureProductBranch.valid_of_saveMany hinv.valid hoverrides hsave⟩
  exact ⟨hinv', .inr ⟨hok, configured_of_saveMany hinv hfresh hdistinct hprepared hsave hinv'⟩⟩

end Configure

/-! ## `RemoveProductBranchConfig` -/

section Remove

variable {params : RemoveProductBranchConfigParams}

theorem TableInv.filter (hinv : TableInv table) (p : ProductBranchConfigRow → Bool) :
    TableInv (table.filter p) where
  ids := hinv.ids.sublist (List.filter_sublist.map _)
  keys := hinv.keys.sublist (List.filter_sublist.map _)
  valid row hrow := hinv.valid row (List.mem_filter.mp hrow).1

/-- The rows whose ids are deleted are those of the listed branches. -/
theorem removed_of_deleteMany (hinv : TableInv table)
    (h : List.Forall₂ (fun branchId config =>
      currentByBranch (loaded table params.tenantId params.productId) branchId = some config)
      params.branchIds configs) :
    Removed params table (deleteMany table (configs.map (·.id)) params.tenantId) where
  listed := by
    intro branchId hbranch
    obtain ⟨config, -, hcurrent⟩ := exists_of_forall₂ h.flip hbranch
    obtain ⟨row, hrow, -⟩ := rowOf_of_currentByBranch hinv hcurrent
    rw [hrow]
    rfl
  left := by
    apply List.filter_congr
    intro row hrow
    congr 1
    rw [Bool.eq_iff_iff]
    simp only [Bool.and_eq_true, decide_eq_true_eq]
    constructor
    · rintro ⟨hid, -⟩
      obtain ⟨config, hconfig, hsame⟩ := List.mem_map.mp hid
      obtain ⟨branchId, hbranch, hcurrent⟩ := exists_of_forall₂ h hconfig
      obtain ⟨row', hrow', -, rfl⟩ := rowOf_of_currentByBranch hinv hcurrent
      obtain ⟨hmem', hproduct, hrowBranch⟩ := (rowOf_eq_some_iff hinv).mp hrow'
      obtain rfl := List.inj_on_of_nodup_map hinv.ids hmem' hrow hsame
      exact ⟨hproduct, hrowBranch ▸ hbranch⟩
    · rintro ⟨hproduct, hbranch⟩
      obtain ⟨config, hconfig, hcurrent⟩ := exists_of_forall₂ h.flip hbranch
      obtain ⟨row', hrow', htenant, rfl⟩ := rowOf_of_currentByBranch hinv hcurrent
      obtain rfl : row = row' :=
        Option.some.inj (((rowOf_eq_some_iff hinv).mpr ⟨hrow, hproduct, rfl⟩).symm.trans hrow')
      exact ⟨List.mem_map_of_mem hconfig, htenant⟩

/-- A call that throws changes no row; one that does not deletes its branches. -/
theorem removed_of_execute (hinv : TableInv table) :
    TableInv (RemoveProductBranchConfig.execute decimal table params).2 ∧
    (((RemoveProductBranchConfig.execute decimal table params).1.isOk = false ∧
        (RemoveProductBranchConfig.execute decimal table params).2 = table) ∨
      ((RemoveProductBranchConfig.execute decimal table params).1.isOk = true ∧
        Removed params table (RemoveProductBranchConfig.execute decimal table params).2)) := by
  rcases @RemoveProductBranchConfig.execute_cases decimal table params hinv.valid with
    ⟨hthrows, hsame⟩ | ⟨hok, configs, hforall, hdelete⟩
  · exact ⟨by rw [hsame]; exact hinv, .inl ⟨hthrows, hsame⟩⟩
  · rw [hdelete]
    exact ⟨hinv.filter _, .inr ⟨hok, removed_of_deleteMany hinv hforall⟩⟩

end Remove

/-! ## Runs -/

/-- A request of one of the two use cases. -/
inductive Request where
  | configureProductBranch (params : ConfigureProductBranchParams)
  | removeProductBranchConfig (params : RemoveProductBranchConfigParams)

/-- A request with what it finds around it. -/
structure Action where
  call : Call
  request : Request

/-- Whether the call ends without an exception, and the table after it. -/
def Action.execute (decimal : DecimalJs) (table : List ProductBranchConfigRow) (a : Action) :
    Bool × List ProductBranchConfigRow :=
  match a.request with
  | .configureProductBranch params =>
    let (result, table) := ConfigureProductBranch.execute decimal a.call table params
    (result.isOk, table)
  | .removeProductBranchConfig params =>
    let (result, table) := RemoveProductBranchConfig.execute decimal table params
    (result.isOk, table)

/-- The entries of a request, for which it may generate ids. -/
def Request.entries : Request → List ProductBranchConfigEntry
  | .configureProductBranch params => params.branches
  | .removeProductBranchConfig _ => []

/-- One step; `none` where a generated id is not new. -/
def next (decimal : DecimalJs) (table : List ProductBranchConfigRow) (a : Action) :
    Option (List ProductBranchConfigRow) :=
  if fresh a.call a.request.entries table then some (a.execute decimal table).2 else none

/-- What a request that does not throw does to the table. -/
def Does (decimal : DecimalJs) (a : Action) (table table' : List ProductBranchConfigRow) : Prop :=
  match a.request with
  | .configureProductBranch params => Configured decimal a.call params table table'
  | .removeProductBranchConfig params => Removed params table table'

/-- One step keeps the invariant, and does what its request does or throws. -/
theorem step_next {a : Action} (hinv : TableInv table)
    (hnext : next decimal table a = some table') :
    TableInv table' ∧
      (((a.execute decimal table).1 = false ∧ table' = table) ∨
        ((a.execute decimal table).1 = true ∧ Does decimal a table table')) := by
  obtain ⟨call, request⟩ := a
  unfold next at hnext
  split_ifs at hnext with hfresh
  obtain rfl := Option.some.inj hnext
  cases request with
  | configureProductBranch params => exact configured_of_execute hinv hfresh
  | removeProductBranchConfig params => exact removed_of_execute hinv

/-- For every sequential run of the two use cases from an empty table: a call that
    throws changes no row, one that configures folds each entry into the row of
    its branch and one that removes deletes the rows of its branches, and no other
    row changes. In every state there is one row at most for each product and
    branch, every row overrides something, and every price is above zero. -/
theorem configs_follow_fold {tr : List (Transition (List ProductBranchConfigRow) Action)}
    {s : List ProductBranchConfigRow} (hrun : Run (next decimal) [] tr s) : ∀ t ∈ tr,
    (((t.action.execute decimal t.pre).1 = false ∧ t.post = t.pre) ∨
      ((t.action.execute decimal t.pre).1 = true ∧ Does decimal t.action t.pre t.post)) ∧
    (t.post.map (·.key)).Nodup ∧
    (∀ row ∈ t.post, row.priceAmount.isSome = true ∨ row.isAvailable.isSome = true) ∧
    ∀ row ∈ t.post, ∀ amount ∈ row.priceAmount, 0 < amount := by
  have hempty : TableInv [] :=
    ⟨List.nodup_nil, List.nodup_nil, fun _ hrow => absurd hrow List.not_mem_nil⟩
  have hinv := (hrun.invariant (fun _ _ _ h hnext => (step_next h hnext).1) hempty).2
  intro t ht
  obtain ⟨hpre, hpost⟩ := hinv t ht
  refine ⟨(step_next hpre (hrun.next_of_mem ht)).2, hpost.keys, ?_, ?_⟩
  · intro row hrow
    exact (hpost.valid row hrow).overrides
  · intro row hrow
    exact (hpost.valid row hrow).positive

/-! ## A sample day -/

def sampleTenantId : Uuid := js "10000000-0000-4000-8000-000000000001"
def sampleProductId : Uuid := js "20000000-0000-4000-8000-000000000001"
def sampleNorth : Uuid := js "30000000-0000-4000-8000-000000000001"
def sampleSouth : Uuid := js "30000000-0000-4000-8000-000000000002"

/-- An id that is generated is that of the branch after the number of the call. -/
def sampleCall (number : ℕ) : Call where
  now := number
  configId branchId := UInt16.ofNat number :: branchId
  productExistsInTenant _ _ := true
  branchExistsInTenant _ _ := true

def sampleConfigure (number : ℕ) (branches : List ProductBranchConfigEntry) : Action where
  call := sampleCall number
  request := .configureProductBranch ⟨sampleTenantId, sampleProductId, branches⟩

def sampleRemove (number : ℕ) (branchIds : List Uuid) : Action where
  call := sampleCall number
  request := .removeProductBranchConfig ⟨sampleTenantId, sampleProductId, branchIds⟩

/-- Two branches are configured; one returns its price to the product and keeps a
    state; a list whose second entry would leave nothing is refused; the other
    branch is removed. -/
def sampleDay : List Action :=
  [sampleConfigure 1 [⟨sampleNorth, some (some (js "18000")), none⟩,
      ⟨sampleSouth, none, some (some false)⟩],
    sampleConfigure 2 [⟨sampleNorth, some none, some (some true)⟩],
    sampleConfigure 3 [⟨sampleNorth, some (some (js "9000")), none⟩,
      ⟨sampleSouth, none, some none⟩],
    sampleRemove 4 [sampleSouth]]

/-- What is seen of a call: whether it succeeds, and what the branches override
    after it. -/
structure Outcome where
  succeeds : Bool
  overrides : List (Uuid × Option ℕ × Option Bool)
  deriving DecidableEq

def outcome (t : Transition (List ProductBranchConfigRow) Action) : Outcome where
  succeeds := (t.action.execute plainDecimal t.pre).1
  overrides := t.post.map fun row => (row.branchId, row.priceAmount, row.isAvailable)

def sampleOutcomes : List Outcome :=
  [⟨true, [(sampleNorth, some 1800000, none), (sampleSouth, none, some false)]⟩,
    ⟨true, [(sampleNorth, none, some true), (sampleSouth, none, some false)]⟩,
    ⟨false, [(sampleNorth, none, some true), (sampleSouth, none, some false)]⟩,
    ⟨true, [(sampleNorth, none, some true)]⟩]

/-- Only the third call throws, and changes nothing. -/
theorem configs_follow_fold_sampleDay :
    ∃ tr s, exec (next plainDecimal) [] sampleDay = some (tr, s) ∧
      tr.map outcome = sampleOutcomes ∧
      (∀ t ∈ tr, t.post = t.pre ∨ Does plainDecimal t.action t.pre t.post) ∧
      ∀ t ∈ tr, (t.post.map (·.key)).Nodup := by
  obtain ⟨tr, s, hexec, houtcomes⟩ :
      ∃ tr s, exec (next plainDecimal) [] sampleDay = some (tr, s) ∧
        tr.map outcome = sampleOutcomes :=
    exists_of_any_exec (by decide +kernel)
  have hfold := configs_follow_fold (run_of_exec hexec)
  refine ⟨tr, s, hexec, houtcomes, fun t ht => ?_, fun t ht => (hfold t ht).2.1⟩
  rcases (hfold t ht).1 with ⟨-, hsame⟩ | ⟨-, hdoes⟩
  · exact .inl hsame
  · exact .inr hdoes

end KomiSaas.BranchConfigs
