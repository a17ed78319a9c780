import KomiSaas.Inventory.Minimums
import KomiSaas.Lib.Aliases

/-!
# The minimum of each branch: runs

Sequential runs of the eight operations that write the inventory, compared with
what the carried-out calls of `SetBranchMinimumStock` asked for. A request may write
a uuid in capitals. The database takes uuids as values (`canonical`), and the
aggregate compares their texts, so the tables see the `located` operation and the
`stored` item.

* `save` deletes every override of the item that the aggregate does not hold, and
  `ConsumeStock` loads the aggregate with the overrides of one branch only
  (`erases`).
* `setMinimumsForBranches` looks for the override of a branch by the text of its id,
  so it does not find one to remove under another spelling (`misses`).

The overrides follow the calls exactly as long as neither happens
(`overrides_follow_iff`).
-/

namespace KomiSaas.Inventory

open KomiSaas.Lib KomiSaas.Shared InventoryItemRepository

/-! ## Ids in the database -/

/-- The operation with the ids that only reach the database as it compares them. The
    branches of the others are given to the aggregate. -/
def StockOperation.located : StockOperation → StockOperation
  | .receiveStock params =>
    .receiveStock { params with
      itemId := params.itemId.canonical
      tenantId := params.tenantId.canonical }
  | .consumeStock params =>
    .consumeStock { params with
      itemId := params.itemId.canonical
      tenantId := params.tenantId.canonical
      branchId := params.branchId.canonical }
  | .registerWaste params =>
    .registerWaste { params with
      itemId := params.itemId.canonical
      tenantId := params.tenantId.canonical }
  | .countStock params =>
    .countStock { params with
      itemId := params.itemId.canonical
      tenantId := params.tenantId.canonical }

/-- The same of the other operations. The texts of their errors, which show the ids as
    they were sent, are not part of the tables. -/
def Operation.located : Operation → Operation
  | .stock operation => .stock operation.located
  | .createInventoryItem params =>
    .createInventoryItem { params with tenantId := params.tenantId.canonical }
  | .updateInventoryItem itemId tenantId params =>
    .updateInventoryItem itemId.canonical tenantId.canonical params
  | .setGlobalMinimumStock params =>
    .setGlobalMinimumStock { params with
      itemId := params.itemId.canonical
      tenantId := params.tenantId.canonical }
  | .setBranchMinimumStock params =>
    .setBranchMinimumStock { params with
      itemId := params.itemId.canonical
      tenantId := params.tenantId.canonical }

/-- The item as `save` leaves it in the tables. The generated ids, and those that were
    loaded, are canonical already. -/
def InventoryItem.stored (item : InventoryItem) : InventoryItem :=
  { item with
    batches := item.batches.map fun batch => { batch with branchId := batch.branchId.canonical }
    branchConfigs := item.branchConfigs.map fun config =>
      { config with branchId := config.branchId.canonical } }

namespace OverrideRuns

/-- The tables, and what the carried-out calls asked for, in order. -/
structure State where
  store : InventoryStore
  asked : List (Uuid × Uuid × Option Quantity)
  deriving DecidableEq

/-- One operation, from its start to its end. -/
structure Action where
  call : Call
  operation : Operation

/-- The entries of the call, for the item and the branches that the ids stand for. -/
def Action.asked (env : InventoryEnv) (a : Action) : List (Uuid × Uuid × Option Quantity) :=
  (a.operation.located.asked env).map fun entry =>
    (entry.1, entry.2.1.canonical, entry.2.2)

/-- One step; `none` where a generated id is not new. -/
def next (env : InventoryEnv) (s : State) (a : Action) : Option State :=
  if a.operation.located.fresh a.call s.store then
    match a.operation.located.prepare env a.call s.store with
    | (.error _, store) => some { s with store := store }
    | (.ok item, store) =>
      match save store item.stored with
      | none => some { s with store := store }
      | some store => some ⟨store, s.asked ++ a.asked env⟩
  else none

/-- What the table of configurations keeps: its constraints, and ids as PostgreSQL
    prints them. -/
structure Keyed (store : InventoryStore) : Prop where
  ids : (store.branchConfigs.map (·.id)).Nodup
  keys : (store.branchConfigs.map configKey).Nodup
  canonical : ∀ row ∈ store.branchConfigs, row.branchId.canonical = row.branchId

/-- A map of overrides after one entry of a call. -/
def setOverride (map : Uuid → Uuid → Option Quantity) (entry : Uuid × Uuid × Option Quantity) :
    Uuid → Uuid → Option Quantity :=
  fun itemId => if itemId = entry.1 then setMinimum (map itemId) entry.2 else map itemId

/-- The stored overrides are those of the beginning with what was asked for
    since, and no branch has two for one item. -/
def Follows (initial : Uuid → Uuid → Option Quantity) (s : State) : Prop :=
  overrides s.store = s.asked.foldl setOverride initial ∧
    (s.store.branchConfigs.map configKey).Nodup

/-- The action is a consumption that is saved, for an item with an override for
    another branch than the one it consumes from. -/
def erases (env : InventoryEnv) (s : State) (a : Action) : Bool :=
  match a.operation.located.scope, a.operation.located.prepare env a.call s.store with
  | some branchId, (.ok item, store) =>
    accepts store item.stored && store.branchConfigs.any fun row =>
      row.inventoryItemId = item.id && row.branchId ≠ branchId
  | _, _ => false

/-- The action is a list of minimums that is saved, and the last entry of some branch
    removes its override, while another entry sets it under another spelling, or the
    stored one is spelled as in none of them. -/
def misses (env : InventoryEnv) (s : State) (a : Action) : Bool :=
  match a.operation.located.prepare env a.call s.store with
  | (.ok item, store) =>
    accepts store item.stored &&
      Rows.Strays Uuid.canonical (overrides store item.id) (a.operation.located.entries env)
  | _ => false

variable {env : InventoryEnv} {s s' : State} {a : Action} {store : InventoryStore}
  {initial : Uuid → Uuid → Option Quantity} {item : InventoryItem}

/-- Entries for one item change the minimums of that item only. -/
theorem foldl_setOverride (itemId : Uuid) (entries : List (Uuid × Option Quantity)) :
    (entries.map fun entry => (itemId, entry)).foldl setOverride initial =
      fun i => if i = itemId then entries.foldl setMinimum (initial i) else initial i := by
  induction entries generalizing initial with
  | nil =>
    funext i
    simp
  | cons entry entries ih =>
    rw [List.map_cons, List.foldl_cons, ih]
    funext i
    unfold setOverride
    by_cases hi : i = itemId <;> simp [hi]

/-! ## What `save` leaves of an item -/

/-- Two configurations for one branch are refused. -/
theorem nodup_branches_of_accepts (hids : (item.branchConfigs.map (·.id)).Nodup)
    (hstore : (store.branchConfigs.map (·.id)).Nodup)
    (hown : ∀ config ∈ item.branchConfigs, ∀ row ∈ store.branchConfigs, row.id = config.id →
      row.inventoryItemId = item.id)
    (haccepts : accepts store item = true) : (item.branchConfigs.map (·.branchId)).Nodup := by
  unfold accepts InventoryStore.meetsConstraints at haccepts
  simp only [Bool.and_eq_true, decide_eq_true_eq] at haccepts
  refine (List.Nodup.of_map _ hids).map_on fun config hconfig other hother hbranch => ?_
  have hwritten : ∀ config ∈ item.branchConfigs,
      config.toRow item.id ∈ (written store item).branchConfigs := fun config hconfig =>
    (mem_written_branchConfigs hids hstore hown).mpr (.inl ⟨config, hconfig, rfl⟩)
  have hkey : (config.toRow item.id).inventoryItemId = (other.toRow item.id).inventoryItemId := rfl
  have hsame := List.inj_on_of_nodup_map haccepts.2.2 (hwritten config hconfig)
    (hwritten other hother) (Prod.ext hkey hbranch)
  exact List.inj_on_of_nodup_map hids hconfig hother (congrArg (·.id) hsame)

/-- What `Prepared` holds of the item holds of what is stored of it. -/
theorem stored_of_prepared {operation : Operation} (hprepared : Prepared env store operation item) :
    (item.stored.branchConfigs.map (·.id)).Nodup ∧
      ∀ config ∈ item.stored.branchConfigs, ∀ row ∈ store.branchConfigs, row.id = config.id →
        row.inventoryItemId = item.stored.id := by
  constructor
  · have hsame : item.stored.branchConfigs.map (·.id) = item.branchConfigs.map (·.id) := by
      rw [InventoryItem.stored, List.map_map]
      rfl
    rw [hsame]
    exact hprepared.ids
  · intro config hconfig row hrow hid
    obtain ⟨old, hold, rfl⟩ := List.mem_map.mp hconfig
    exact hprepared.own old hold row hrow hid

/-- A branch has the minimum that it has under one of its spellings. -/
theorem minimumOf_stored (hbranches : (item.branchConfigs.map (·.branchId)).Nodup)
    (hstored : (item.stored.branchConfigs.map (·.branchId)).Nodup) {branchId : Uuid}
    {minStock : Quantity} : minimumOf item.stored.branchConfigs branchId = some minStock ↔
      ∃ spelling, Uuid.canonical spelling = branchId ∧
        minimumOf item.branchConfigs spelling = some minStock := by
  rw [minimumOf_eq_some_iff hstored]
  simp only [minimumOf_eq_some_iff hbranches]
  constructor
  · rintro ⟨config, hconfig, rfl, rfl⟩
    obtain ⟨old, hold, rfl⟩ := List.mem_map.mp hconfig
    exact ⟨old.branchId, rfl, old, hold, rfl, rfl⟩
  · rintro ⟨_, rfl, config, hconfig, rfl, rfl⟩
    exact ⟨_, List.mem_map_of_mem hconfig, rfl, rfl⟩

/-- The entries of a call that is prepared name no text twice. -/
theorem nodup_entries_of_prepare {call : Call} {operation : Operation} {store' : InventoryStore}
    (h : operation.prepare env call store = (.ok item, store')) :
    ((operation.entries env).map Prod.fst).Nodup := by
  cases operation with
  | setBranchMinimumStock params =>
    obtain ⟨hitem, -⟩ := Prod.mk.inj h
    obtain ⟨loaded, -, hperform⟩ := bind_eq_ok.mp hitem
    unfold SetBranchMinimumStock.perform at hperform
    split at hperform
    · cases hperform
    obtain ⟨entries, hentries, hset⟩ := bind_eq_ok.mp hperform
    have hok := settle_eq_ok hset
    simp only [Operation.entries, hentries]
    by_contra hrepeated
    obtain ⟨e, he⟩ := @InventoryItem.setMinimumsForBranches_of_refused loaded call.configId entries
      call.now (.inr hrepeated)
    rw [he] at hok
    cases (Prod.mk.inj hok).1
  | _ => exact List.nodup_nil

/-! ## One step -/

/-- Everything a step can do, with what holds when it does it. -/
inductive Effect (env : InventoryEnv) (s : State) (a : Action) : State → Prop
  | refused {store : InventoryStore} : store.branchConfigs = s.store.branchConfigs →
      erases env s a = false → misses env s a = false → Effect env s a { s with store := store }
  | saved {store : InventoryStore} {item : InventoryItem} :
      store.branchConfigs = s.store.branchConfigs →
      Prepared env store a.operation.located item →
      ((a.operation.located.entries env).map Prod.fst).Nodup →
      accepts store item.stored = true →
      a.asked env = ((a.operation.located.entries env).map (Prod.map Uuid.canonical id)).map
        (fun entry => (item.id, entry)) →
      (erases env s a = true ↔ ∃ branchId, a.operation.located.scope = some branchId ∧
        ∃ row ∈ store.branchConfigs, row.inventoryItemId = item.id ∧ row.branchId ≠ branchId) →
      (misses env s a = true ↔ Rows.Strays Uuid.canonical (overrides store item.id)
        (a.operation.located.entries env)) →
      Effect env s a ⟨written store item.stored, s.asked ++ a.asked env⟩

theorem effect_of_next (hkeyed : Keyed s.store) (h : next env s a = some s') :
    Effect env s a s' := by
  unfold next at h
  split_ifs at h with hfresh
  have hstore : (a.operation.located.prepare env a.call s.store).2.branchConfigs =
      s.store.branchConfigs := Sequential.sameTables_of_prepare.branchConfigs
  cases hprepare : a.operation.located.prepare env a.call s.store with
  | mk result store =>
    rw [hprepare] at hstore
    cases result with
    | error e =>
      simp only [hprepare] at h
      rw [← Option.some.inj h]
      refine .refused hstore ?_ ?_
      · unfold erases
        rw [hprepare]
        cases a.operation.located.scope <;> rfl
      · unfold misses
        rw [hprepare]
    | ok item =>
      simp only [hprepare] at h
      have herases : erases env s a = true ↔ accepts store item.stored = true ∧
          ∃ branchId, a.operation.located.scope = some branchId ∧
            ∃ row ∈ store.branchConfigs,
              row.inventoryItemId = item.id ∧ row.branchId ≠ branchId := by
        unfold erases
        rw [hprepare]
        cases a.operation.located.scope with
        | none => simp
        | some branchId => simp
      have hmisses : misses env s a = true ↔ accepts store item.stored = true ∧
          Rows.Strays Uuid.canonical (overrides store item.id)
            (a.operation.located.entries env) := by
        unfold misses
        rw [hprepare]
        simp only [Bool.and_eq_true, decide_eq_true_eq]
      cases hsave : save store item.stored with
      | none =>
        simp only [hsave] at h
        rw [← Option.some.inj h]
        have hrejected : accepts store item.stored = false := by
          unfold save at hsave
          split_ifs at hsave with haccepts
          exact Bool.eq_false_of_not_eq_true haccepts
        refine .refused hstore ?_ ?_
        · rw [← Bool.not_eq_true, herases, hrejected]
          exact fun hboth => Bool.false_ne_true hboth.1
        · rw [← Bool.not_eq_true, hmisses, hrejected]
          exact fun hboth => Bool.false_ne_true hboth.1
      | some written =>
        simp only [hsave] at h
        obtain ⟨haccepts, rfl⟩ := save_eq_some.mp hsave
        obtain ⟨-, hprepared, hasked⟩ := prepared_of_prepare hkeyed.ids hkeyed.keys hfresh hprepare
        rw [← Option.some.inj h]
        refine .saved hstore hprepared (nodup_entries_of_prepare hprepare) haccepts ?_ ?_ ?_
        · rw [Action.asked, hasked, List.map_map, List.map_map]
          rfl
        · rw [herases]
          exact and_iff_right haccepts
        · rw [hmisses]
          exact and_iff_right haccepts

/-- The constraints stay, and the ids are stored as they are printed. -/
theorem Keyed.step (hkeyed : Keyed s.store) (h : next env s a = some s') : Keyed s'.store := by
  cases effect_of_next hkeyed h with
  | refused hstore _ _ =>
    exact ⟨hstore ▸ hkeyed.ids, hstore ▸ hkeyed.keys, hstore ▸ hkeyed.canonical⟩
  | saved hstore hprepared _ haccepts _ _ _ =>
    obtain ⟨hids, hown⟩ := stored_of_prepared hprepared
    refine ⟨?_, ?_, fun row hrow => ?_⟩
    · refine Rows.nodup_keys_upsertAll ?_
      rw [hstore]
      exact hkeyed.ids.sublist (List.filter_sublist.map _)
    · unfold accepts InventoryStore.meetsConstraints at haccepts
      simp only [Bool.and_eq_true, decide_eq_true_eq] at haccepts
      exact haccepts.2.2
    · rcases (mem_written_branchConfigs hids (hstore ▸ hkeyed.ids) hown).mp hrow with
        ⟨config, hconfig, rfl⟩ | ⟨hold, -⟩
      · obtain ⟨old, -, rfl⟩ := List.mem_map.mp hconfig
        exact Uuid.canonical_canonical old.branchId
      · exact hkeyed.canonical row (hstore ▸ hold)

/-- Only consumptions load a single branch, and they ask for no override. -/
theorem entries_of_scope {operation : Operation} {branchId : Uuid}
    (h : operation.scope = some branchId) : operation.entries env = [] := by
  cases operation with
  | setBranchMinimumStock params => cases h
  | _ => rfl

/-- What was loaded of the item's overrides is all of them exactly when there is
    none for another branch. -/
theorem loaded_eq_overrides_iff {itemId : Uuid} {scope : Option Uuid}
    (hkeys : (store.branchConfigs.map configKey).Nodup) :
    (fun branchId => if scope.all (fun b => b = branchId) then overrides store itemId branchId
      else none) = overrides store itemId ↔
      ¬ ∃ branchId, scope = some branchId ∧
        ∃ row ∈ store.branchConfigs, row.inventoryItemId = itemId ∧ row.branchId ≠ branchId := by
  constructor
  · rintro heq ⟨branchId, rfl, row, hrow, hitem, hbranch⟩
    have hvalue := congrFun heq row.branchId
    have hstored : overrides store itemId row.branchId = some row.minStock :=
      (overrides_eq_some_iff hkeys).mpr ⟨row, hrow, hitem, rfl, rfl⟩
    simp only [Option.all_some, decide_eq_true_eq, if_neg fun e : branchId = row.branchId =>
      hbranch e.symm] at hvalue
    rw [hstored] at hvalue
    cases hvalue
  · intro hnone
    funext branchId
    split_ifs with hall
    · rfl
    · cases scope with
      | none => exact absurd rfl hall
      | some b =>
        by_contra hne
        obtain ⟨minStock, hstored⟩ := Option.ne_none_iff_exists'.mp fun e => hne e.symm
        obtain ⟨row, hrow, hitem, hbranch, -⟩ := (overrides_eq_some_iff hkeys).mp hstored
        refine hnone ⟨b, rfl, row, hrow, hitem, fun e => hall ?_⟩
        rw [Option.all_some, decide_eq_true_iff, ← e, hbranch]

/-- Only branches that are spelled as they are printed have an override. -/
theorem canonical_of_overrides (hkeyed : Keyed store) {itemId branchId : Uuid}
    {minStock : Quantity} (h : overrides store itemId branchId = some minStock) :
    branchId.canonical = branchId := by
  obtain ⟨row, hrow, -, rfl, -⟩ := (overrides_eq_some_iff hkeyed.keys).mp h
  exact hkeyed.canonical row hrow

/-- What is stored of the item is what the call asked for exactly when nothing was
    left out when it was loaded, and no spelling was missed. -/
theorem minimumOf_stored_eq_iff {operation : Operation} (hkeyed : Keyed store)
    (hprepared : Prepared env store operation item)
    (hentries : ((operation.entries env).map Prod.fst).Nodup)
    (haccepts : accepts store item.stored = true) :
    minimumOf item.stored.branchConfigs =
        ((operation.entries env).map (Prod.map Uuid.canonical id)).foldl setMinimum
          (overrides store item.id) ↔
      (¬ ∃ branchId, operation.scope = some branchId ∧
        ∃ row ∈ store.branchConfigs, row.inventoryItemId = item.id ∧ row.branchId ≠ branchId) ∧
      ¬ Rows.Strays Uuid.canonical (overrides store item.id) (operation.entries env) := by
  obtain ⟨hids, hown⟩ := stored_of_prepared hprepared
  have hstored := @minimumOf_stored item hprepared.branches
    (nodup_branches_of_accepts hids hkeyed.ids hown haccepts)
  have hminimums := hprepared.minimums
  cases hscope : operation.scope with
  | none =>
    rw [and_iff_right (by simp), setMinimum_eq_assign]
    rw [hscope, setMinimum_eq_assign] at hminimums
    refine Rows.eq_foldl_assign_iff Uuid.canonical_canonical
      (fun _ _ h => canonical_of_overrides hkeyed h) hentries fun branchId minStock => ?_
    rw [hstored, hminimums]
    rfl
  | some branchId =>
    have hnone : ¬ Rows.Strays Uuid.canonical (overrides store item.id) [] := by
      rintro ⟨entry, hentry, -⟩
      exact List.not_mem_nil hentry
    rw [entries_of_scope hscope] at hminimums ⊢
    rw [and_iff_left hnone, ← hscope, ← loaded_eq_overrides_iff hkeyed.keys, List.map_nil,
      List.foldl_nil]
    rw [List.foldl_nil] at hminimums
    -- what was loaded is stored as it is
    have hsame : minimumOf item.stored.branchConfigs = minimumOf item.branchConfigs := by
      funext spelling
      apply Option.ext
      intro minStock
      have hcanonical : ∀ {spelling}, minimumOf item.branchConfigs spelling = some minStock →
          Uuid.canonical spelling = spelling := by
        intro spelling h
        rw [hminimums] at h
        dsimp only at h
        split_ifs at h
        exact canonical_of_overrides hkeyed h
      rw [hstored]
      constructor
      · rintro ⟨other, hother, h⟩
        rw [← hother, hcanonical h]
        exact h
      · intro h
        exact ⟨spelling, hcanonical h, h⟩
    rw [hsame, hminimums]

/-- A step follows the calls exactly when it erases no override and misses none. -/
theorem follows_step_iff (hkeyed : Keyed s.store) (hfollows : Follows initial s)
    (h : next env s a = some s') :
    Follows initial s' ↔ erases env s a = false ∧ misses env s a = false := by
  have hkeys := (hkeyed.step h).keys
  cases effect_of_next hkeyed h with
  | @refused store hstore herases hmisses =>
    refine iff_of_true ⟨?_, hkeys⟩ ⟨herases, hmisses⟩
    rw [← hfollows.1]
    unfold overrides
    rw [hstore]
  | @saved store item hstore hprepared hentries haccepts hasked herases hmisses =>
    have hkeyed' : Keyed store :=
      ⟨hstore ▸ hkeyed.ids, hstore ▸ hkeyed.keys, hstore ▸ hkeyed.canonical⟩
    have hcurrent : overrides store = s.asked.foldl setOverride initial := by
      rw [← hfollows.1]
      unfold overrides
      rw [hstore]
    obtain ⟨hids, hown⟩ := stored_of_prepared hprepared
    have hwritten : overrides (written store item.stored) = fun itemId =>
        if itemId = item.id then minimumOf item.stored.branchConfigs
        else overrides store itemId := by
      funext itemId branchId
      have hid : item.stored.id = item.id := rfl
      rw [overrides_written hids (nodup_branches_of_accepts hids hkeyed'.ids hown haccepts)
        hkeyed'.ids hkeyed'.keys hown haccepts, hid]
      split_ifs <;> rfl
    rw [← Bool.not_eq_true, ← Bool.not_eq_true, herases, hmisses,
      ← minimumOf_stored_eq_iff hkeyed' hprepared hentries haccepts]
    unfold Follows
    rw [and_iff_left hkeys, hwritten, List.foldl_append, ← hcurrent, hasked, foldl_setOverride]
    constructor
    · intro heq
      have hitem := congrFun heq item.id
      simpa only [if_true] using hitem
    · intro heq
      funext itemId
      rw [heq]
      split_ifs with hitem
      · rw [hitem]
      · rfl

/-- For every sequential run of the eight operations: after every step the
    stored overrides of each item, read as a map from branch to minimum, are
    those of the beginning with the entries of the carried-out calls of
    `SetBranchMinimumStock` applied in order, with one row per item and branch,
    exactly as long as no saved consumption finds an override for another branch, and
    no saved list of minimums removes one that is held under another spelling. -/
theorem overrides_follow_iff {s₀ : State} {tr : List (Transition State Action)}
    (h₀ : Keyed s₀.store) (hasked : s₀.asked = []) (hrun : Run (next env) s₀ tr s) :
    (∀ t ∈ tr, Follows (overrides s₀.store) t.post) ↔
      ∀ t ∈ tr, erases env t.pre t.action = false ∧ misses env t.pre t.action = false := by
  have hfollows : Follows (overrides s₀.store) s₀ := by
    refine ⟨?_, h₀.keys⟩
    rw [hasked, List.foldl_nil]
  exact hrun.forall_post_iff (I := fun s => Keyed s.store) (P := Follows (overrides s₀.store))
    (G := fun s a => erases env s a = false ∧ misses env s a = false)
    (fun _ _ _ h hnext => h.step hnext)
    (fun _ _ _ h hfollows hnext => follows_step_iff h hfollows hnext) h₀ hfollows

/-- The sample item, with no override yet. -/
def noOverrides : State := ⟨sampleStore, []⟩

theorem noOverrides_keyed : Keyed noOverrides.store :=
  ⟨List.nodup_nil, List.nodup_nil, fun _ h => absurd h List.not_mem_nil⟩

/-- Set the minimum of a branch of the sample item. -/
def sampleMinimum (branchId : Uuid) (minStock : JsString) : Operation :=
  .setBranchMinimumStock
    { itemId := sampleItemId
      tenantId := sampleTenantId
      branches := [{ branchId := branchId, minStock := some minStock }] }

/-- One branch gets a minimum, receives stock and consumes some. -/
theorem overrides_follow_iff_one_branch :
    ∃ tr s, exec (next sampleEnv) noOverrides
        [⟨sampleCall 1, sampleMinimum (sampleBranchId 1) (js "2.5")⟩,
          ⟨sampleCall 1, .stock (sampleReceive (js "10"))⟩,
          ⟨sampleCall 2, .stock (sampleConsume (js "4"))⟩] = some (tr, s) ∧
      overrides s.store sampleItemId (sampleBranchId 1) = some ⟨2500⟩ ∧
      ∀ t ∈ tr, Follows (overrides noOverrides.store) t.post := by
  obtain ⟨tr, s, hexec, hoverride, hguard⟩ :
      ∃ tr s, exec (next sampleEnv) noOverrides
        [⟨sampleCall 1, sampleMinimum (sampleBranchId 1) (js "2.5")⟩,
          ⟨sampleCall 1, .stock (sampleReceive (js "10"))⟩,
          ⟨sampleCall 2, .stock (sampleConsume (js "4"))⟩] = some (tr, s) ∧
      overrides s.store sampleItemId (sampleBranchId 1) = some ⟨2500⟩ ∧
      ∀ t ∈ tr, erases sampleEnv t.pre t.action = false ∧
        misses sampleEnv t.pre t.action = false :=
    exists_of_any_exec (by decide +kernel)
  exact ⟨tr, s, hexec, hoverride,
    (overrides_follow_iff noOverrides_keyed rfl (run_of_exec hexec)).mpr hguard⟩

/-- Two branches have a minimum; consuming from the first erases that of the second. -/
theorem override_erased :
    ∃ tr s, Keyed noOverrides.store ∧ Run (next sampleEnv) noOverrides tr s ∧
      overrides s.store sampleItemId (sampleBranchId 2) = none ∧
      s.asked.foldl setOverride (overrides noOverrides.store) sampleItemId (sampleBranchId 2) =
        some ⟨3000⟩ ∧
      ¬ Follows (overrides noOverrides.store) s := by
  obtain ⟨tr, s, hexec, hstored, hasked⟩ :
      ∃ tr s, exec (next sampleEnv) noOverrides
        [⟨sampleCall 1, sampleMinimum (sampleBranchId 1) (js "2.5")⟩,
          ⟨sampleCall 1, sampleMinimum (sampleBranchId 2) (js "3")⟩,
          ⟨sampleCall 1, .stock (sampleReceive (js "10"))⟩,
          ⟨sampleCall 2, .stock (sampleConsume (js "4"))⟩] = some (tr, s) ∧
      overrides s.store sampleItemId (sampleBranchId 2) = none ∧
      s.asked.foldl setOverride (overrides noOverrides.store) sampleItemId (sampleBranchId 2) =
        some ⟨3000⟩ :=
    exists_of_any_exec (by decide +kernel)
  refine ⟨tr, s, noOverrides_keyed, run_of_exec hexec, hstored, hasked, fun hfollows => ?_⟩
  rw [hfollows.1, hasked] at hstored
  cases hstored

end OverrideRuns

end KomiSaas.Inventory
