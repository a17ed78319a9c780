import KomiSaas.Businesses.Creation
import KomiSaas.Lib.SoftDelete

/-!
# Interleaved changes and deletions of branches and businesses

`UpdateBranch` and `DeleteBranch`, and `UpdateTenant`, `ToggleTenantStatus` and
`DeleteTenant`, as two atomic steps: the load, with what is then done in memory,
and the write.

A request may load a row before it is deleted and write it after. Both
repositories write `WHERE … is_deleted = false`, so that such a write matches
nothing: what was deleted stays deleted and as it is (`deleted_stays_deleted`).
-/

namespace KomiSaas.Businesses.Deletion

open KomiSaas.Lib KomiSaas.Lib.Flights KomiSaas.Shared

/-! ## Branches -/

/-- A request with its time. -/
structure BranchRequest where
  now : Instant
  operation : BranchOperation

/-- A call between its two steps, with the branch to write. -/
structure BranchFlight where
  operation : BranchOperation
  branch : BranchAggregate
  id : branch.id = operation.id
  tenantId : branch.tenantId = operation.tenantId
  deletion : branch.isDeleted = true ↔ operation.change = .deleteBranch

/-- The requests on the branches. -/
def branches (env : BusinessEnv) : System (List BranchRow) BranchRequest BranchFlight Unit where
  enabled _ _ _ := true
  read store request :=
    match h : request.operation.prepare env request.now store with
    | .error _ => (store, none)
    | .ok branch =>
      have hprepared := BranchOperation.prepare_ok h
      (store, some ⟨request.operation, branch, hprepared.2.1, hprepared.2.2.1, hprepared.2.2.2⟩)
  write store flight _ := BranchRepository.update env store flight.branch

/-- The key of a branch, with the business that it belongs to. -/
def branchKey (row : BranchRow) : Uuid × Uuid := (row.id, row.tenantId)

def BranchFlight.key (flight : BranchFlight) : Uuid × Uuid :=
  (flight.operation.id, flight.operation.tenantId)

def BranchFlight.deletes (flight : BranchFlight) : Bool := flight.operation.change = .deleteBranch

/-- A branch that was deleted stays deleted and as it is. -/
def BranchesStayDeleted (env : BusinessEnv)
    (tr : List (Transition (State (List BranchRow) BranchFlight) (Action BranchRequest Unit))) :
    Prop :=
  StaysDeleted (branches env) branchKey (·.isDeleted) BranchFlight.key BranchFlight.deletes tr

/-! ## Businesses -/

/-- A request with its time. -/
structure TenantRequest where
  now : Instant
  operation : TenantOperation

/-- A call between its two steps, with the business to write. -/
structure TenantFlight where
  operation : TenantOperation
  tenant : TenantAggregate
  id : tenant.id = operation.id
  deletion : tenant.isDeleted = true ↔ operation.change = .deleteTenant

/-- The requests on the businesses. -/
def tenants (env : BusinessEnv) : System (List TenantRow) TenantRequest TenantFlight Unit where
  enabled _ _ _ := true
  read store request :=
    match h : request.operation.prepare env request.now store with
    | .error _ => (store, none)
    | .ok tenant =>
      have hprepared := TenantOperation.prepare_ok h
      (store, some ⟨request.operation, tenant, hprepared.2.1, hprepared.2.2⟩)
  write store flight _ := TenantRepository.update store flight.tenant

def TenantFlight.key (flight : TenantFlight) : Uuid := flight.operation.id

def TenantFlight.deletes (flight : TenantFlight) : Bool := flight.operation.change = .deleteTenant

/-- A business that was deleted stays deleted and as it is. -/
def TenantsStayDeleted (env : BusinessEnv)
    (tr : List (Transition (State (List TenantRow) TenantFlight) (Action TenantRequest Unit))) :
    Prop :=
  StaysDeleted (tenants env) TenantRow.id (·.isDeleted) TenantFlight.key TenantFlight.deletes tr

/-! ## The result -/

variable {env : BusinessEnv}

theorem softDelete_branches (env : BusinessEnv) :
    SoftDelete (branches env) branchKey (·.isDeleted) BranchFlight.key BranchFlight.deletes where
  read {store store' request result} h := by
    simp only [branches] at h
    split at h
    · obtain ⟨rfl, rfl⟩ := Prod.mk.inj h
      exact ⟨rfl, fun _ h => by cases h⟩
    · rename_i branch hprepare
      obtain ⟨rfl, rfl⟩ := Prod.mk.inj h
      refine ⟨rfl, fun flight hflight => ?_⟩
      obtain rfl := Option.some.inj hflight
      obtain ⟨⟨row, hrow, hid, htenant⟩, hid', htenant', -⟩ := BranchOperation.prepare_ok hprepare
      exact List.mem_map.mpr ⟨row, hrow, Prod.ext (hid.trans hid') (htenant.trans htenant')⟩
  write {store store' flight input} h := by
    have h : BranchRepository.update env store flight.branch = some store' := h
    unfold BranchRepository.update at h
    split_ifs at h
    refine ⟨BranchRepository.updated flight.branch, fun _ => rfl, fun hdeletes _ => ?_, ?_⟩
    · exact flight.deletion.mpr (of_decide_eq_true hdeletes)
    · rw [← Option.some.inj h]
      congr 1
      funext row
      simp [BranchRepository.matched, branchKey, BranchFlight.key, flight.id, flight.tenantId]

theorem softDelete_tenants (env : BusinessEnv) :
    SoftDelete (tenants env) TenantRow.id (·.isDeleted) TenantFlight.key TenantFlight.deletes where
  read {store store' request result} h := by
    simp only [tenants] at h
    split at h
    · obtain ⟨rfl, rfl⟩ := Prod.mk.inj h
      exact ⟨rfl, fun _ h => by cases h⟩
    · rename_i tenant hprepare
      obtain ⟨rfl, rfl⟩ := Prod.mk.inj h
      refine ⟨rfl, fun flight hflight => ?_⟩
      obtain rfl := Option.some.inj hflight
      obtain ⟨⟨row, hrow, hid⟩, hid', -⟩ := TenantOperation.prepare_ok hprepare
      exact List.mem_map.mpr ⟨row, hrow, hid.trans hid'⟩
  write {store store' flight input} h := by
    have h : TenantRepository.update store flight.tenant = some store' := h
    unfold TenantRepository.update at h
    split_ifs at h
    refine ⟨TenantRepository.updated flight.tenant, fun _ => rfl, fun hdeletes _ => ?_, ?_⟩
    · exact flight.deletion.mpr (of_decide_eq_true hdeletes)
    · rw [← Option.some.inj h]
      congr 1
      funext row
      simp only [TenantRepository.matched, TenantFlight.key, flight.id]
      rfl

/-- For every interleaving of any number of requests on any branches, and on any
    businesses, from any tables: once a deletion completed, its row is marked as
    deleted and none of its columns changes in any later state. -/
theorem deleted_stay_deleted {branchRows : List BranchRow} {tenantRows : List TenantRow}
    {branchRun : List (Transition (State (List BranchRow) BranchFlight)
      (Action BranchRequest Unit))}
    {tenantRun : List (Transition (State (List TenantRow) TenantFlight)
      (Action TenantRequest Unit))}
    {branchState : State (List BranchRow) BranchFlight}
    {tenantState : State (List TenantRow) TenantFlight}
    (hbranches : Run (next (branches env)) (State.quiet branchRows) branchRun branchState)
    (htenants : Run (next (tenants env)) (State.quiet tenantRows) tenantRun tenantState) :
    BranchesStayDeleted env branchRun ∧ TenantsStayDeleted env tenantRun :=
  ⟨(softDelete_branches env).staysDeleted hbranches, (softDelete_tenants env).staysDeleted htenants⟩

def sampleTenant : TenantRow where
  id := js "10000000-0000-4000-8000-000000000001"
  name := js "Komi"
  description := js "Comidas"
  slug := js "komi"
  nit := js "900123456-1"
  isActive := true
  isDeleted := false
  createdAt := 1500000000000
  updatedAt := 1500000000000

def sampleBranch : BranchRow where
  id := js "20000000-0000-4000-8000-000000000001"
  tenantId := sampleTenant.id
  name := js "Centro"
  address := js "Calle 10"
  phone := js "3001234567"
  city := js "Cali"
  department := js "Valle"
  isActive := true
  isDeleted := false
  createdAt := 1500000000000
  updatedAt := 1500000000000

/-- A new city, or the deletion. -/
def sampleBranchRequest (change : BranchChange) : BranchRequest where
  now := 1600000000000
  operation := ⟨sampleBranch.id, sampleTenant.id, change⟩

def sampleMove : BranchChange :=
  .updateBranch
    { name := none
      address := none
      phone := none
      city := some (js "Palmira")
      department := none
      isActive := none }

def sampleTenantRequest (change : TenantChange) : TenantRequest where
  now := 1600000000000
  operation := ⟨sampleTenant.id, change⟩

/-- The first request loads the row before the second deletes it, and writes it
    after. -/
def race {ι : Type} (change deletion : ι) : List (Action ι Unit) :=
  [.read 1 change, .read 2 deletion, .write 2 true (), .write 1 true ()]

/-- The late writes change nothing: the city is the old one, and the business is not
    active again. -/
theorem deleted_stay_deleted_raced :
    ∃ branchRun branchState tenantRun tenantState,
      exec (next (branches sampleEnv)) (State.quiet [sampleBranch])
          (race (sampleBranchRequest sampleMove) (sampleBranchRequest .deleteBranch)) =
        some (branchRun, branchState) ∧
      exec (next (tenants sampleEnv)) (State.quiet [sampleTenant])
          (race (sampleTenantRequest .toggleTenantStatus) (sampleTenantRequest .deleteTenant)) =
        some (tenantRun, tenantState) ∧
      branchState.store.map (fun row => (row.city, row.isDeleted)) = [(js "Cali", true)] ∧
      tenantState.store.map (fun row => (row.isActive, row.isDeleted)) = [(false, true)] ∧
      BranchesStayDeleted sampleEnv branchRun ∧ TenantsStayDeleted sampleEnv tenantRun := by
  obtain ⟨branchRun, branchState, hbranches, hcity⟩ :
      ∃ tr s, exec (next (branches sampleEnv)) (State.quiet [sampleBranch])
          (race (sampleBranchRequest sampleMove) (sampleBranchRequest .deleteBranch)) =
            some (tr, s) ∧
        s.store.map (fun row => (row.city, row.isDeleted)) = [(js "Cali", true)] :=
    exists_of_any_exec (by decide +kernel)
  obtain ⟨tenantRun, tenantState, htenants, hactive⟩ :
      ∃ tr s, exec (next (tenants sampleEnv)) (State.quiet [sampleTenant])
          (race (sampleTenantRequest .toggleTenantStatus) (sampleTenantRequest .deleteTenant)) =
            some (tr, s) ∧
        s.store.map (fun row => (row.isActive, row.isDeleted)) = [(false, true)] :=
    exists_of_any_exec (by decide +kernel)
  exact ⟨branchRun, branchState, tenantRun, tenantState, hbranches, htenants, hcity, hactive,
    deleted_stay_deleted (run_of_exec hbranches) (run_of_exec htenants)⟩

end KomiSaas.Businesses.Deletion
