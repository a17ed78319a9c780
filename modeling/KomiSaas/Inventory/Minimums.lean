import KomiSaas.Inventory.Reads
import KomiSaas.Inventory.Sequential

/-!
# The minimum of each branch

`inventory/domain/inventory-item.aggregate.ts`, lines 312–410: the overrides of an
item are a map from branches to minimums, `setMinimumsForBranches` writes a list
of entries into it, and `resolveMinimumForBranch` and `isBelowMinimumFor` (of
`Reads.lean`) read it.

The loop edits, appends to and splices the list of configurations. While no
branch occurs twice in that list, one entry is one assignment to the map, so the
whole call is the assignments of its entries (`overridesOf_afterMinimums`), which
do not depend on their order.

Result: `setMinimumsForBranches_updates`.
-/

namespace KomiSaas.Inventory

open KomiSaas.Lib KomiSaas.Shared

namespace InventoryItem

/-! ## The overrides as a map -/

/-- The minimum of each branch that has one of its own. -/
def overridesOf (item : InventoryItem) : Uuid → Option Quantity := minimumOf item.branchConfigs

variable {item : InventoryItem} {branchId : Uuid} {configId : Uuid → Uuid}
  {entries : List (Uuid × Option Quantity)} {now : Instant}

/-- An override hides the minimum of the item. -/
theorem resolveMinimumForBranch_eq :
    item.resolveMinimumForBranch branchId = (item.overridesOf branchId).or item.minGlobalStock := by
  unfold resolveMinimumForBranch overridesOf minimumOf
  cases Rows.find (·.branchId) branchId item.branchConfigs <;> rfl

/-- The item after the loop and the `touch` of `setMinimumsForBranches`. -/
def afterMinimums (item : InventoryItem) (configId : Uuid → Uuid)
    (entries : List (Uuid × Option Quantity)) (now : Instant) : InventoryItem :=
  (entries.foldl
    (fun item entry => item.setMinimumForBranch (configId entry.1) entry.1 entry.2 now)
    item).touch now

theorem setMinimumsForBranches_of_refused (h : entries = [] ∨ ¬ (entries.map Prod.fst).Nodup) :
    ∃ e, item.setMinimumsForBranches configId entries now = (.error e, item) := by
  unfold setMinimumsForBranches
  by_cases hempty : entries = []
  · rw [if_pos hempty]
    exact ⟨_, rfl⟩
  · rw [if_neg hempty]
    have hrepeated := h.resolve_left hempty
    rw [← Rows.firstRepeated_nil_eq_none_iff, Option.eq_none_iff_forall_ne_some] at hrepeated
    push Not at hrepeated
    obtain ⟨repeated, hfirst⟩ := hrepeated
    rw [hfirst]
    exact ⟨_, rfl⟩

theorem setMinimumsForBranches_of_accepted (hne : entries ≠ [])
    (hnodup : (entries.map Prod.fst).Nodup) :
    item.setMinimumsForBranches configId entries now =
      (.ok (), item.afterMinimums configId entries now) := by
  unfold setMinimumsForBranches
  rw [if_neg hne, Rows.firstRepeated_nil_eq_none_iff.mpr hnodup]
  rfl

/-- What the loop leaves alone. -/
theorem overridesOnly_afterMinimums :
    Sequential.OverridesOnly item (item.afterMinimums configId entries now) := by
  have hloop : Sequential.OverridesOnly item _ :=
    Sequential.overridesOnly_foldl now configId entries
  unfold Sequential.OverridesOnly at hloop ⊢
  unfold afterMinimums touch
  rw [hloop]

theorem nodup_afterMinimums (h : (item.branchConfigs.map (·.branchId)).Nodup) :
    ((item.afterMinimums configId entries now).branchConfigs.map (·.branchId)).Nodup :=
  (foldl_setMinimumForBranch configId now entries h).2.1

/-- The call assigns its entries, in their order. -/
theorem overridesOf_afterMinimums (h : (item.branchConfigs.map (·.branchId)).Nodup) :
    (item.afterMinimums configId entries now).overridesOf =
      entries.foldl Rows.assign item.overridesOf := by
  have hloop := (foldl_setMinimumForBranch configId now entries h).2.2.1
  rw [setMinimum_eq_assign] at hloop
  exact hloop

theorem resolve_afterMinimums (h : (item.branchConfigs.map (·.branchId)).Nodup) :
    (item.afterMinimums configId entries now).resolveMinimumForBranch branchId =
      (entries.foldl Rows.assign item.overridesOf branchId).or item.minGlobalStock := by
  have hglobal :
      (item.afterMinimums configId entries now).minGlobalStock = item.minGlobalStock := by
    rw [overridesOnly_afterMinimums]
  rw [resolveMinimumForBranch_eq, overridesOf_afterMinimums h, hglobal]

theorem isBelow_afterMinimums {date : JsDate} :
    (item.afterMinimums configId entries now).isBelowMinimumFor branchId date =
      ((item.afterMinimums configId entries now).resolveMinimumForBranch branchId).map
        (·.isGreaterThan (item.currentStockForBranch branchId date)) := by
  have hstock : (item.afterMinimums configId entries now).currentStockForBranch branchId date =
      item.currentStockForBranch branchId date := by
    rw [overridesOnly_afterMinimums]
    rfl
  unfold isBelowMinimumFor
  rw [hstock]

end InventoryItem

/-! ## The call as a whole -/

open InventoryItem in
/-- `setMinimumsForBranches` (lines 312–334) is a partial update of a map: it
    refuses an empty list and a branch named twice, and then leaves the item as it
    was; otherwise each branch of the list has the minimum of its entry, or inherits
    the one of the item, every other branch has what it had, and the order of the
    list does not matter. -/
theorem setMinimumsForBranches_updates (item : InventoryItem) (configId : Uuid → Uuid)
    (entries : List (Uuid × Option Quantity)) (now : Instant)
    (hbranches : (item.branchConfigs.map (·.branchId)).Nodup) :
    let outcome := item.setMinimumsForBranches configId entries now
    ((∃ e, outcome.1 = .error e) ↔ entries = [] ∨ ¬ (entries.map Prod.fst).Nodup) ∧
    (∀ e, outcome.1 = .error e → outcome.2 = item) ∧
    (outcome.1 = .ok () →
      (outcome.2.branchConfigs.map (·.branchId)).Nodup ∧
      (∀ branchId minStock, (branchId, some minStock) ∈ entries →
        outcome.2.resolveMinimumForBranch branchId = some minStock) ∧
      (∀ branchId, (branchId, none) ∈ entries →
        outcome.2.resolveMinimumForBranch branchId = item.minGlobalStock) ∧
      (∀ branchId, branchId ∉ entries.map Prod.fst →
        outcome.2.resolveMinimumForBranch branchId = item.resolveMinimumForBranch branchId) ∧
      ∀ (others : List (Uuid × Option Quantity)) (otherId : Uuid → Uuid) (later : Instant),
        entries.Perm others →
        let other := item.setMinimumsForBranches otherId others later
        other.1 = .ok () ∧ ∀ branchId,
          other.2.resolveMinimumForBranch branchId = outcome.2.resolveMinimumForBranch branchId ∧
          ∀ date, other.2.isBelowMinimumFor branchId date =
            outcome.2.isBelowMinimumFor branchId date) := by
  intro outcome
  by_cases hrefused : entries = [] ∨ ¬ (entries.map Prod.fst).Nodup
  · obtain ⟨e, houtcome⟩ : ∃ e, outcome = (.error e, item) :=
      setMinimumsForBranches_of_refused hrefused
    rw [houtcome]
    exact ⟨iff_of_true ⟨e, rfl⟩ hrefused, fun _ _ => rfl, fun h => nomatch h⟩
  have haccepted := not_or.mp hrefused
  have hnodup := not_not.mp haccepted.2
  have houtcome : outcome = (.ok (), item.afterMinimums configId entries now) :=
    setMinimumsForBranches_of_accepted haccepted.1 hnodup
  rw [houtcome]
  have haccepts : ¬ ∃ e, (Except.ok () : Except InventoryException Unit) = .error e := nofun
  refine ⟨iff_of_false haccepts hrefused, nofun, fun _ => ?_⟩
  have hlisted : ∀ branchId minStock, (branchId, minStock) ∈ entries →
      (item.afterMinimums configId entries now).resolveMinimumForBranch branchId =
        minStock.or item.minGlobalStock := by
    intro branchId minStock hentry
    rw [resolve_afterMinimums hbranches, Rows.foldl_assign_of_mem hnodup hentry]
  refine ⟨nodup_afterMinimums hbranches, fun branchId minStock => hlisted branchId (some minStock),
    fun branchId => hlisted branchId none, ?_, ?_⟩
  · intro branchId hother
    rw [resolve_afterMinimums hbranches, Rows.foldl_assign_of_notMem hother,
      resolveMinimumForBranch_eq]
  · intro others otherId later hperm other
    have hne : others ≠ [] := by
      rintro rfl
      exact haccepted.1 hperm.eq_nil
    have hother : other = (.ok (), item.afterMinimums otherId others later) :=
      setMinimumsForBranches_of_accepted hne ((hperm.map _).nodup_iff.mp hnodup)
    have hresolve : ∀ branchId,
        (item.afterMinimums otherId others later).resolveMinimumForBranch branchId =
          (item.afterMinimums configId entries now).resolveMinimumForBranch branchId := by
      intro branchId
      rw [resolve_afterMinimums hbranches, resolve_afterMinimums hbranches,
        Rows.foldl_assign_perm hnodup hperm]
    rw [hother]
    refine ⟨rfl, fun branchId => ⟨hresolve branchId, fun date => ?_⟩⟩
    rw [isBelow_afterMinimums, isBelow_afterMinimums, hresolve]

/-- An item with a minimum of its own and another one for a branch. -/
def overriddenItem : InventoryItem :=
  { toAggregate (sampleStore.items.head sampleStore_items_ne_nil) [] [] with
    minGlobalStock := some ⟨5000⟩
    branchConfigs := [⟨sampleBatchId 1, sampleBranchId 1, ⟨2000⟩⟩] }

/-- The first branch inherits again, and the second one gets a minimum. -/
theorem setMinimumsForBranches_updates_two_branches :
    let entries := [(sampleBranchId 1, none), (sampleBranchId 2, some ⟨3000⟩)]
    let after := (overriddenItem.setMinimumsForBranches id entries 0).2
    after.resolveMinimumForBranch (sampleBranchId 1) = some ⟨5000⟩ ∧
      after.resolveMinimumForBranch (sampleBranchId 2) = some ⟨3000⟩ := by
  intro entries after
  have h := (setMinimumsForBranches_updates overriddenItem id entries 0 (by decide)).2.2
    (by decide +kernel)
  exact ⟨h.2.2.1 _ (by decide), h.2.1 _ _ (by decide)⟩

end KomiSaas.Inventory
