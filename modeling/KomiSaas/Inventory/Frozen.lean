import KomiSaas.Inventory.Sequential

/-!
# The unit and the perishability of an item with lots

`update` refuses another unit of measure or perishability where the aggregate
holds batches, so that the quantities and expirations already written keep their
meaning. The repository loads the aggregate without its depleted batches, so an
item whose lots are all used up passes for one that never had any.

In a sequential run the unit and the perishability of every item that received
stock stay what they were exactly as long as no `UpdateInventoryItem` that goes
through asks for others for an item whose lots are all depleted
(`kind_frozen_iff`).
-/

namespace KomiSaas.Inventory.Sequential

open KomiSaas.Lib KomiSaas.Shared InventoryItemRepository

/-- The stored unit of measure and perishability of an item. -/
def kindOf (store : InventoryStore) (itemId : Uuid) : Option (MeasurementUnit × Bool) :=
  (Rows.find (·.id) itemId store.items).map fun row => (row.unitOfMeasure, row.isPerishable)

/-- The item has lots in the table, depleted or not. -/
def hasLots (store : InventoryStore) (itemId : Uuid) : Bool :=
  store.batches.any fun row => row.inventoryItemId = itemId

/-- The step is a `ReceiveStock` for the item that succeeds. -/
def Receives (env : InventoryEnv) (t : Transition InventoryStore Action) (itemId : Uuid) : Prop :=
  ∃ params, t.action.operation = .stock (.receiveStock params) ∧ params.itemId = itemId ∧
    succeeds env t.pre t.action = true

/-- After an item received stock, its unit and its perishability do not change. -/
def Frozen (env : InventoryEnv) (tr : List (Transition InventoryStore Action)) : Prop :=
  ∀ tr₁ t tr₂, tr = tr₁ ++ t :: tr₂ → ∀ itemId, Receives env t itemId →
    ∀ t' ∈ tr₂, kindOf t'.post itemId = kindOf t.post itemId

/-- The operation asks for another unit or perishability than the stored ones,
    for an item that has lots, all of them depleted. -/
def retypesDepleted (store : InventoryStore) (operation : Operation) : Bool :=
  match target operation with
  | none => false
  | some (itemId, _) =>
    hasLots store itemId &&
      (store.batches.all fun row =>
        row.inventoryItemId ≠ itemId || row.quantityRemaining.milli = 0) &&
      (kindOf store itemId).any fun kind => asked operation kind ≠ kind

variable {env : InventoryEnv} {call : Call} {store store' : InventoryStore} {operation : Operation}
  {item loaded : InventoryItem} {itemId tenantId : Uuid} {scope : Option Uuid} {a : Action}

/-! ## One step -/

theorem kindOf_written : kindOf (written store item) itemId =
    if item.id = itemId then some (item.unitOfMeasure, item.isPerishable)
    else kindOf store itemId := by
  unfold kindOf
  rw [show (written store item).items = Rows.upsert (·.id) item.toRow store.items from rfl,
    Rows.find_upsert, show item.toRow.id = item.id from rfl]
  split_ifs <;> rfl

theorem kindOf_of_findById (hsound : Sound store)
    (hfind : findById store itemId tenantId scope = some loaded) :
    loaded.id = itemId ∧
      kindOf store itemId = some (loaded.unitOfMeasure, loaded.isPerishable) := by
  obtain ⟨row, hrow, rfl, -, rfl⟩ := findById_eq_some hfind
  refine ⟨rfl, ?_⟩
  rw [kindOf, Rows.find_of_mem hsound.items hrow]
  rfl

theorem hasLots_iff : hasLots store itemId = true ↔
    ∃ row ∈ store.batches, row.inventoryItemId = itemId := by
  simp [hasLots]

/-- A lot stays a lot of its item. -/
theorem hasLots_written (hsound : Sound store) (hfresh : fresh call store = true)
    (hsaves : Saves env call store operation item) (h : hasLots store itemId = true) :
    hasLots (written store item) itemId = true := by
  obtain ⟨hids, horigin⟩ := hsaves.origin hsound hfresh
  obtain ⟨row, hrow, hitem⟩ := hasLots_iff.mp h
  rw [hasLots_iff]
  by_cases hmem : row.id ∈ item.batches.map (·.id)
  · obtain ⟨batch, hbatch, he⟩ := List.mem_map.mp hmem
    refine ⟨batch.toRow item.id, (mem_written_batches hids hsound.batches).mpr
      (.inl ⟨batch, hbatch, rfl⟩), ?_⟩
    show item.id = itemId
    cases horigin batch hbatch with
    | stored hstored hown _ =>
      rw [← hown, ← hitem, List.inj_on_of_nodup_map hsound.batches hstored hrow he]
    | received hnew _ =>
      unfold fresh at hfresh
      simp only [Bool.and_eq_true, decide_eq_true_eq] at hfresh
      exact absurd (List.mem_map.mpr ⟨row, hrow, he.symm.trans hnew⟩) hfresh.2
  · exact ⟨row, (mem_written_batches hids hsound.batches).mpr (.inr ⟨hrow, hmem⟩), hitem⟩

@[simp] theorem retypesDepleted_stock (stockOperation : StockOperation) :
    retypesDepleted store (.stock stockOperation) = false := by
  unfold retypesDepleted
  cases stockOperation <;> simp [target, asked]

theorem target_of_retypesDepleted (h : retypesDepleted store operation = true) :
    ∃ itemId tenantId, target operation = some (itemId, tenantId) ∧
      hasLots store itemId = true := by
  unfold retypesDepleted at h
  split at h
  · cases h
  · rename_i itemId tenantId htarget
    simp only [Bool.and_eq_true] at h
    exact ⟨itemId, tenantId, htarget, h.1.1⟩

/-- An item that was loaded without batches has only depleted ones. -/
theorem depleted_of_findById (hfind : findById store itemId tenantId none = some loaded)
    (hnone : loaded.batches = []) : (store.batches.all fun row =>
      row.inventoryItemId ≠ itemId || row.quantityRemaining.milli = 0) = true := by
  obtain ⟨itemRow, -, -, -, rfl⟩ := findById_eq_some hfind
  have hempty : activeBatchesOf store itemId none = [] := List.map_eq_nil_iff.mp hnone
  rw [List.all_eq_true]
  intro row hrow
  have hnot : row ∉ activeBatchesOf store itemId none := hempty ▸ List.not_mem_nil
  rw [activeBatchesOf, List.mem_filter, not_and] at hnot
  have hcond := hnot hrow
  simp only [Option.all_none, Bool.and_true, Bool.and_eq_true, decide_eq_true_eq, not_and,
    not_lt] at hcond
  by_cases hitem : row.inventoryItemId = itemId
  · have hzero := hcond hitem
    simp only [Bool.or_eq_true, decide_eq_true_eq]
    omega
  · simp [hitem]

/-- The unit and the perishability of an edited item are those that were asked for. -/
theorem asked_eq_iff (hsound : Sound store) (htarget : target operation = some (itemId, tenantId))
    (hfind : findById store itemId tenantId none = some loaded) (hedited : Edited loaded item)
    (hkind : (item.unitOfMeasure, item.isPerishable) =
      asked operation (loaded.unitOfMeasure, loaded.isPerishable))
    (hlots : hasLots store itemId = true) :
    (item.unitOfMeasure, item.isPerishable) = (loaded.unitOfMeasure, loaded.isPerishable) ↔
      retypesDepleted store operation = false := by
  have hretypes : retypesDepleted store operation = ((store.batches.all fun row =>
      row.inventoryItemId ≠ itemId || row.quantityRemaining.milli = 0) &&
      decide (asked operation (loaded.unitOfMeasure, loaded.isPerishable) ≠
        (loaded.unitOfMeasure, loaded.isPerishable))) := by
    unfold retypesDepleted
    rw [htarget]
    simp only [hlots, Bool.true_and, (kindOf_of_findById hsound hfind).2, Option.any_some]
  rw [hretypes]
  constructor
  · intro hsame
    rw [← hkind, hsame]
    simp
  · intro hnot
    rcases hedited.retyped with hnone | ⟨hunit, hperishable⟩
    · rw [depleted_of_findById hfind hnone, Bool.true_and, decide_eq_false_iff_not,
        not_ne_iff] at hnot
      rw [hkind, hnot]
    · rw [hunit, hperishable]

/-- What a save does to the unit and the perishability of an item with lots. -/
theorem kindOf_saved_iff (hsound : Sound store) (hfresh : fresh call store = true)
    (hsaves : Saves env call store operation item) (hlots : hasLots store itemId = true) :
    kindOf (written store item) itemId = kindOf store itemId ↔
      ¬ (retypesDepleted store operation = true ∧
        (target operation).map Prod.fst = some itemId) := by
  rw [kindOf_written]
  cases hsaves with
  | created hid _ =>
    refine iff_of_true (if_neg fun he => ?_) fun h => Bool.false_ne_true h.1
    obtain ⟨row, hrow, hitem⟩ := hasLots_iff.mp hlots
    have howner := hsound.owned row hrow
    rw [hitem, ← he, hid] at howner
    unfold fresh at hfresh
    simp only [Bool.and_eq_true, decide_eq_true_eq] at hfresh
    exact hfresh.1 howner
  | worked hload hperform =>
    refine iff_of_true ?_ fun h => Bool.false_ne_true ((retypesDepleted_stock _) ▸ h.1)
    obtain ⟨loadedId, tenantId, scope, hfind⟩ := StockOperation.findById_of_load hload
    obtain ⟨hid, hkind⟩ := kindOf_of_findById hsound hfind
    have honly := StockOperation.stockOnly_of_perform hperform
    unfold InventoryItem.StockOnly at honly
    split_ifs with he
    · rw [← he, honly]
      show _ = kindOf store _
      rw [hid, hkind]
    · rfl
  | edited _ htarget hfind hedited hkind =>
    obtain ⟨hid, hstored⟩ := kindOf_of_findById hsound hfind
    have hitem := hedited.id.trans hid
    rw [htarget, hitem]
    split_ifs with he
    · subst he
      rw [hstored, Option.some.injEq,
        asked_eq_iff hsound htarget hfind hedited hkind hlots]
      simp
    · simp [he]

theorem hasLots_of_sameTables (hsame : SameTables store store') :
    hasLots store' itemId = hasLots store itemId := by
  unfold hasLots
  rw [hsame.batches]

theorem kindOf_of_sameTables (hsame : SameTables store store') :
    kindOf store' itemId = kindOf store itemId := by
  unfold kindOf
  rw [hsame.items]

/-- A step keeps the lots of an item, and its unit and perishability unless it
    succeeds in asking for others. -/
theorem kindOf_step_iff (hsound : Sound store) (hnext : next env store a = some store')
    (hlots : hasLots store itemId = true) :
    hasLots store' itemId = true ∧
      (kindOf store' itemId = kindOf store itemId ↔
        ¬ (succeeds env store a = true ∧ retypesDepleted store a.operation = true ∧
          (target a.operation).map Prod.fst = some itemId)) := by
  obtain ⟨hfresh, heffect⟩ := effect_of_next hnext
  cases heffect with
  | refused hsame hfails =>
    rw [hasLots_of_sameTables hsame, kindOf_of_sameTables hsame, hfails]
    simp [hlots]
  | saved hsame hsaves _ hsucceeds =>
    rw [hasLots_of_sameTables hsame.written, kindOf_of_sameTables hsame.written, hsucceeds]
    refine ⟨hasLots_written hsound hfresh hsaves hlots, ?_⟩
    rw [kindOf_saved_iff hsound hfresh hsaves hlots]
    simp

/-- An item that gets its first lot receives stock. -/
theorem receives_of_hasLots (hsound : Sound store) (hnext : next env store a = some store')
    (hlots : hasLots store' itemId = true) :
    hasLots store itemId = true ∨ Receives env ⟨store, a, store'⟩ itemId := by
  obtain ⟨hfresh, heffect⟩ := effect_of_next hnext
  cases heffect with
  | refused hsame _ => exact .inl (hasLots_of_sameTables hsame ▸ hlots)
  | @saved base item hsame hsaves _ hsucceeds =>
    rw [hasLots_of_sameTables hsame.written] at hlots
    obtain ⟨row, hrow, hitem⟩ := hasLots_iff.mp hlots
    rcases (mem_written_batches (hsaves.origin hsound hfresh).1 hsound.batches).mp hrow with
      ⟨batch, hbatch, rfl⟩ | ⟨hstored, -⟩
    · -- a batch of the item that is saved was loaded, or it was just received
      have hid : item.id = itemId := hitem
      have hloaded : ∀ {loadedId tenantId scope loaded},
          findById store loadedId tenantId scope = some loaded → loaded.id = item.id →
          ∀ b ∈ loaded.batches, hasLots store itemId = true := by
        intro loadedId tenantId scope loaded hfind hsame b hb
        obtain ⟨stored, hstored, hown, -⟩ := mem_batches_of_findById hfind hb
        have hloadedId := (kindOf_of_findById hsound hfind).1
        exact hasLots_iff.mpr ⟨stored, hstored, by rw [hown, ← hloadedId, hsame, hid]⟩
      generalize hop : a.operation = operation at hsaves
      cases hsaves with
      | created _ hnone => exact absurd hbatch (hnone ▸ List.not_mem_nil)
      | edited _ _ hfind hedited _ =>
        rw [hedited.batches] at hbatch
        exact .inl (hloaded hfind hedited.id.symm batch hbatch)
      | @worked stockOperation loaded _ hload hperform =>
        obtain ⟨targetId, tenantId, htarget, hfind⟩ := findById_target hload
        have hsameId := (StockOperation.stockOnly_of_perform hperform).sameOverrides.1
        cases hdate : drawDate env a.call stockOperation with
        | some date =>
          obtain ⟨branchId, details, -, hbatches⟩ := drawn_of_perform
            (nodup_batches_of_findById hfind hsound.batches) (hsound.fits_loaded hfind) hdate
            hperform
          rw [hbatches] at hbatch
          obtain ⟨b, hb, -⟩ := List.mem_map.mp hbatch
          exact .inl (hloaded hfind hsameId.symm b hb)
        | none =>
          cases stockOperation with
          | receiveStock params =>
            have hparams : params.itemId = itemId := by
              rw [← hid, hsameId, (kindOf_of_findById hsound hfind).1]
              exact congrArg Prod.fst (Option.some.inj htarget)
            exact .inr ⟨params, hop, hparams, hsucceeds⟩
          | consumeStock params => cases hdate
          | registerWaste params => cases hdate
          | countStock params => cases hdate
    · exact .inl (hasLots_iff.mpr ⟨row, hstored, hitem⟩)

/-- An item that received stock has a lot. -/
theorem hasLots_of_receives (hsound : Sound store) (hnext : next env store a = some store')
    (h : Receives env ⟨store, a, store'⟩ itemId) : hasLots store' itemId = true := by
  obtain ⟨params, hoperation, hparams, hsucceeds⟩ := h
  obtain ⟨hfresh, heffect⟩ := effect_of_next hnext
  cases heffect with
  | refused _ hfails => exact absurd hsucceeds (hfails ▸ Bool.false_ne_true)
  | @saved base item hsame hsaves _ _ =>
    rw [hasLots_of_sameTables hsame.written, hasLots_iff]
    have hids := (hsaves.origin hsound hfresh).1
    rw [hoperation] at hsaves
    cases hsaves with
    | edited hother _ _ _ _ => exact absurd rfl (hother _)
    | @worked _ loaded _ hload hperform =>
      obtain ⟨targetId, tenantId, htarget, hfind⟩ := findById_target hload
      obtain ⟨batch, -, -, hbatches⟩ := received_of_perform rfl hperform
      have hmem : batch ∈ item.batches := by
        rw [hbatches]
        exact List.mem_append_right _ (List.mem_singleton_self _)
      refine ⟨batch.toRow item.id, (mem_written_batches hids hsound.batches).mpr
        (.inl ⟨batch, hmem, rfl⟩), ?_⟩
      show item.id = itemId
      rw [(StockOperation.stockOnly_of_perform hperform).sameOverrides.1,
        (kindOf_of_findById hsound hfind).1, ← hparams]
      exact (congrArg Prod.fst (Option.some.inj htarget)).symm

/-! ## Runs -/

/-- For every sequential run of the eight operations: the unit of measure and
    the perishability of every item that received stock stay what they were
    exactly as long as no `UpdateInventoryItem` that succeeds asks for others
    for an item whose lots are all depleted. -/
theorem kind_frozen_iff {tr : List (Transition InventoryStore Action)}
    (hrun : Run (next env) emptyStore tr store) :
    Frozen env tr ↔ ∀ t ∈ tr, succeeds env t.pre t.action = true →
      retypesDepleted t.pre t.action.operation = false := by
  have hall := (hrun.invariant (fun _ _ _ h hnext => Sound.step h hnext) emptyStore_sound).2
  constructor
  · intro hfrozen t ht hsucceeds
    by_contra hretypes
    rw [Bool.not_eq_false] at hretypes
    obtain ⟨itemId, tenantId, htarget, hlots⟩ := target_of_retypesDepleted hretypes
    obtain ⟨before, after, rfl, hbefore, hnext, -⟩ := hrun.split ht
    -- the lots come from an earlier reception
    obtain ⟨r, hr, hreceives⟩ := hbefore.exists_transition (fun _ _ _ h hnext => Sound.step h hnext)
      (Q := fun r => Receives env r itemId)
      (fun _ _ _ h hnext hlots => receives_of_hasLots h hnext hlots) emptyStore_sound
      (by simp [hasLots, emptyStore]) hlots
    obtain ⟨tr₁, tr₂, rfl⟩ := List.append_of_mem hr
    have hkept : ∀ t' ∈ tr₂ ++ t :: after, kindOf t'.post itemId = kindOf r.post itemId :=
      hfrozen tr₁ r (tr₂ ++ t :: after) (by simp) itemId hreceives
    have hcut : Run (next env) emptyStore (tr₁ ++ r :: (tr₂ ++ t :: after)) store := by
      simpa using hrun
    have hrest := hcut.of_append_cons.2.2
    have hpre : kindOf t.pre itemId = kindOf r.post itemId :=
      hrest.pre_of_post (P := fun s => kindOf s itemId = kindOf r.post itemId) rfl hkept (by simp)
    have hiff := (kindOf_step_iff (hall t ht).1 hnext hlots).2
    refine hiff.mp ?_ ⟨hsucceeds, hretypes, by rw [htarget]; rfl⟩
    rw [hpre, hkept t (by simp)]
  · rintro hguard tr₁ t tr₂ rfl itemId hreceives t' ht'
    obtain ⟨-, hnext, hrest⟩ := hrun.of_append_cons
    have ht : t ∈ tr₁ ++ t :: tr₂ := by simp
    have hlots := hasLots_of_receives (hall t ht).1 hnext hreceives
    have hstep : ∀ s a s', (Sound s ∧ hasLots s itemId = true ∧
        kindOf s itemId = kindOf t.post itemId) →
        (succeeds env s a = true → retypesDepleted s a.operation = false) →
        next env s a = some s' → Sound s' ∧ hasLots s' itemId = true ∧
          kindOf s' itemId = kindOf t.post itemId := by
      rintro s a s' ⟨hsound, hlots, hkind⟩ hguard hnext
      obtain ⟨hlots', hiff⟩ := kindOf_step_iff hsound hnext hlots
      refine ⟨hsound.step hnext, hlots', ?_⟩
      rw [hiff.mpr fun h => Bool.false_ne_true ((hguard h.1).symm.trans h.2.1), hkind]
    have hinv := hrest.invariant_of_guard hstep ⟨(hall t ht).2, hlots, rfl⟩
      fun u hu => hguard u (by simp [hu])
    exact (hinv.2 t' ht').2.2.2

/-- A new item counted in units. -/
def createTomato : Action where
  call := { sampleCall 1 with itemId := sampleItemId }
  operation :=
    .createInventoryItem
      { tenantId := sampleTenantId
        name := js "Tomate"
        unitOfMeasure := js "UNIT"
        isPerishable := false }

/-- The request to count it in grams. -/
def countInGrams : Action where
  call := sampleCall 3
  operation :=
    .updateInventoryItem sampleItemId sampleTenantId
      { name := none
        costAmount := none
        costCurrency := none
        unitOfMeasure := some (js "GRAM")
        isPerishable := none }

/-- Create the item, receive ten units, consume some of them, ask for grams. -/
def tomatoActions (quantity : JsString) : List Action :=
  [createTomato, ⟨sampleCall 2, .stock (sampleReceive (js "10"))⟩,
    ⟨sampleCall 3, .stock (sampleConsume quantity)⟩, countInGrams]

/-- While four of the ten units are left, the item stays counted in units. -/
theorem kind_frozen_iff_some_left :
    ∃ tr s, exec (next sampleEnv) emptyStore (tomatoActions (js "6")) = some (tr, s) ∧
      Frozen sampleEnv tr ∧ kindOf s sampleItemId = some (.unit, false) := by
  obtain ⟨tr, s, hexec, hguard, hkind⟩ :
      ∃ tr s, exec (next sampleEnv) emptyStore (tomatoActions (js "6")) = some (tr, s) ∧
        (∀ t ∈ tr, succeeds sampleEnv t.pre t.action = true →
          retypesDepleted t.pre t.action.operation = false) ∧
        kindOf s sampleItemId = some (.unit, false) :=
    exists_of_any_exec (by decide +kernel)
  exact ⟨tr, s, hexec, (kind_frozen_iff (run_of_exec hexec)).mpr hguard, hkind⟩

/-- Once all ten are used up it becomes counted in grams, over a lot of ten units. -/
theorem kind_not_frozen_of_depleted :
    ¬ ∀ tr s, Run (next sampleEnv) emptyStore tr s → Frozen sampleEnv tr := by
  intro hfrozen
  obtain ⟨tr, s, hexec, hreceives, hchanged⟩ :
      ∃ tr s, exec (next sampleEnv) emptyStore (tomatoActions (js "10")) = some (tr, s) ∧
        (tr[1]?.any fun t => t.action.operation = .stock (sampleReceive (js "10")) ∧
          succeeds sampleEnv t.pre t.action ∧
          kindOf t.post sampleItemId = some (.unit, false)) = true ∧
        (tr[3]?.bind fun t => kindOf t.post sampleItemId) = some (.gram, false) :=
    exists_of_any_exec (by decide +kernel)
  obtain ⟨t, ht, hreceives⟩ := (Option.any_eq_true _ _).mp hreceives
  obtain ⟨hoperation, hsucceeds, hunits⟩ := of_decide_eq_true hreceives
  obtain ⟨t', ht', hgrams⟩ := Option.bind_eq_some_iff.mp hchanged
  obtain ⟨tr₁, tr₂, htr, hmem⟩ := exists_split_of_getElem (by decide) ht ht'
  have hkept := hfrozen tr s (run_of_exec hexec) tr₁ t tr₂ htr sampleItemId
    ⟨_, hoperation, rfl, hsucceeds⟩ t' hmem
  rw [hunits, hgrams] at hkept
  cases hkept

end KomiSaas.Inventory.Sequential
