import KomiSaas.Businesses.BranchNames
import KomiSaas.Categories.Interleaving
import KomiSaas.Lib.Shards
import KomiSaas.Users.Constraints

/-!
# The businesses, kept apart

The categories, the users and the branches of all businesses share three tables.
Every query of their repositories and every unique index names the business.

In every interleaving, the part of a business (its rows, its requests in flight and
its steps) is a run of its own, as if there were no other business, and each of its
requests is answered as on its rows alone (`businesses_isolated`).
-/

namespace KomiSaas.Businesses.Isolation

open KomiSaas.Lib KomiSaas.Lib.Flights KomiSaas.Shared

/-! ## Categories -/

section Categories

open Categories Categories.Interleaving

variable {env : CategoryEnv} {store : List CategoryRow} {tenantId : Uuid}
  {category : ProductCategory}

/-- The business of a call. -/
def categoryTenant (request : Categories.Interleaving.Request) : Uuid :=
  match request.operation with
  | .createCategory params => params.tenantId
  | .updateCategory _ params => params.tenantId

/-- The categories of a business. -/
abbrev ofCategories (tenantId : Uuid) :
    Shard (List CategoryRow) Categories.Interleaving.Request Categories.Interleaving.Flight :=
  Shard.ofOwner (·.tenantId) categoryTenant (·.category.tenantId) tenantId

theorem existsByName_own {name : JsString} {excludeId : Option Uuid} :
    ProductCategoryRepository.existsByName env ((ofCategories tenantId).rows store) name tenantId
      excludeId = ProductCategoryRepository.existsByName env store name tenantId excludeId :=
  Shard.any_ofOwner fun row h => by
    rw [Bool.and_eq_true, Bool.and_eq_true] at h
    exact of_decide_eq_true h.1.1

theorem findById_own {id : Uuid} :
    ProductCategoryRepository.findById ((ofCategories tenantId).rows store) id tenantId =
      ProductCategoryRepository.findById store id tenantId := by
  have hfind : ((ofCategories tenantId).rows store).find?
        (fun row => row.id = id && row.tenantId = tenantId) =
      store.find? fun row => row.id = id && row.tenantId = tenantId :=
    Shard.find_ofOwner fun row h => of_decide_eq_true (Bool.and_eq_true _ _ |>.mp h).2
  rw [ProductCategoryRepository.findById, hfind]
  rfl

/-- A request of a business is answered as on its rows alone. -/
theorem prepare_category {request : Categories.Interleaving.Request}
    (htenant : categoryTenant request = tenantId) :
    request.operation.prepare env request.call ((ofCategories tenantId).rows store) =
      request.operation.prepare env request.call store := by
  obtain ⟨call, operation⟩ := request
  cases operation with
  | createCategory params =>
    obtain rfl : params.tenantId = tenantId := htenant
    simp only [Categories.Operation.prepare, CreateCategory.prepare, existsByName_own]
  | updateCategory id params =>
    obtain rfl : params.tenantId = tenantId := htenant
    simp only [Categories.Operation.prepare, UpdateCategory.prepare, findById_own,
      UpdateCategory.checkName, existsByName_own]

/-- What a request prepares is of its business. -/
theorem tenantId_of_prepare_category {request : Categories.Interleaving.Request}
    (h : request.operation.prepare env request.call store = .ok category) :
    category.tenantId = categoryTenant request := by
  obtain ⟨call, operation⟩ := request
  cases operation with
  | createCategory params => exact (CreateCategory.prepare_ok h).2.1
  | updateCategory id params =>
    obtain ⟨row, -, -, hrow, -, htenant, -⟩ := UpdateCategory.prepare_ok h
    exact htenant.trans hrow

theorem categoryNameFree_own (htenant : category.tenantId = tenantId) :
    ProductCategoryRepository.nameFree env ((ofCategories tenantId).rows store) category =
      ProductCategoryRepository.nameFree env store category :=
  Shard.all_ofOwner fun row h => by
    have hother : row.tenantId ≠ category.tenantId := htenant ▸ h
    simp [hother]

/-- The part of a business in the requests on categories. -/
theorem sharded_categories (env : CategoryEnv) (tenantId : Uuid) :
    Sharded (categories env) (Categories.Interleaving.TableInv env)
      Categories.Interleaving.FlightInv (ofCategories tenantId) where
  enabled h := by
    simp only [categories, Bool.and_eq_true, decide_eq_true_eq] at h ⊢
    exact ⟨fun hmem => h.1 ((List.filter_sublist.map _).subset hmem),
      fun hmem => h.2 ((List.filter_sublist.map _).subset hmem)⟩
  read {store call store' result} _ h := by
    refine Sharded.read_of_pure (fun h => (prepared_of_read h).1) (fun flight hflight => ?_)
      (fun hasks => ?_) h
    · have hprepared := (prepared_of_read hflight).2 flight rfl
      show decide (flight.category.tenantId = tenantId) = decide (categoryTenant call = tenantId)
      rw [tenantId_of_prepare_category hprepared.2]
    · have hsame := @prepare_category env store tenantId call (of_decide_eq_true hasks)
      simp only [categories, hsame]
      cases call.operation.prepare env call.call store <;> rfl
  write {store flight now} _ hinv hholds := by
    have htenant : flight.category.tenantId = tenantId := of_decide_eq_true hholds
    obtain ⟨operation, category⟩ := flight
    have hfree := @categoryNameFree_own env store tenantId category htenant
    cases operation with
    | createCategory params =>
      have hnew : category.id ∉ store.map (·.id) := hinv
      have hnew' : category.id ∉ ((ofCategories tenantId).rows store).map (·.id) := fun hmem =>
        hnew ((List.filter_sublist.map _).subset hmem)
      show ProductCategoryRepository.save env _ category =
        (ProductCategoryRepository.save env store category).map _
      rw [ProductCategoryRepository.save, ProductCategoryRepository.save, hfree,
        decide_eq_false hnew, decide_eq_false hnew']
      split_ifs
      · rfl
      · rw [Option.map_some, Shard.insert_ofOwner]
        exact htenant
    | updateCategory id params =>
      have hmatched : ((ofCategories tenantId).rows store).any
            (ProductCategoryRepository.matched category) =
          store.any (ProductCategoryRepository.matched category) :=
        Shard.any_ofOwner fun row hrow => by
          rw [← htenant]
          exact of_decide_eq_true (Bool.and_eq_true _ _ |>.mp hrow).2
      show ProductCategoryRepository.update env _ category now =
        (ProductCategoryRepository.update env store category now).map _
      rw [ProductCategoryRepository.update, ProductCategoryRepository.update, hfree, hmatched]
      split_ifs
      · rfl
      · rw [Option.map_some, Shard.updateWhere_ofOwner]
        exact fun _ => rfl
  others {store flight now store'} _ _ hholds h := by
    have hother : flight.category.tenantId ≠ tenantId := of_decide_eq_false hholds
    obtain ⟨operation, category⟩ := flight
    cases operation with
    | createCategory params =>
      have h : ProductCategoryRepository.save env store category = some store' := h
      unfold ProductCategoryRepository.save at h
      split_ifs at h
      obtain rfl := Option.some.inj h
      exact Shard.insert_ofOwner_of_ne hother
    | updateCategory id params =>
      have h : ProductCategoryRepository.update env store category now = some store' := h
      unfold ProductCategoryRepository.update at h
      split_ifs at h
      obtain rfl := Option.some.inj h
      refine Shard.updateWhere_ofOwner_of_ne (fun row hrow => ?_) fun _ => rfl
      rw [ProductCategoryRepository.matched, Bool.and_eq_true, decide_eq_true_eq,
        decide_eq_true_eq] at hrow
      rw [hrow.2]
      exact hother

end Categories

/-! ## Users -/

section Users

open Users Users.Constraints

variable {env : UserEnv} {store : List UserRow} {tenantId : Uuid} {user : UserAggregate}

/-- The business of a call. -/
def userTenant (request : Users.Constraints.Request) : Uuid :=
  match request.operation with
  | .createUser params => params.tenantId
  | .changeUser operation => operation.tenantId

/-- The users of a business. -/
abbrev ofUsers (tenantId : Uuid) :
    Shard (List UserRow) Users.Constraints.Request Users.Constraints.Flight :=
  Shard.ofOwner (·.tenantId) userTenant (·.tenantId) tenantId

theorem searchUserById_own {now : Instant} {id : Uuid} :
    UserRepository.searchAggregateById env now ((ofUsers tenantId).rows store) tenantId id =
      UserRepository.searchAggregateById env now store tenantId id := by
  have hfind : ((ofUsers tenantId).rows store).find?
        (fun row => row.tenantId = tenantId && row.id = id) =
      store.find? fun row => row.tenantId = tenantId && row.id = id :=
    Shard.find_ofOwner fun row h => of_decide_eq_true (Bool.and_eq_true _ _ |>.mp h).1
  rw [UserRepository.searchAggregateById, hfind]
  rfl

theorem existsByUserName_own {userName : UserName} {exceptId : Option Uuid} :
    UserRepository.existsByUserName env ((ofUsers tenantId).rows store) tenantId userName
      exceptId = UserRepository.existsByUserName env store tenantId userName exceptId :=
  Shard.any_ofOwner fun row h => by
    rw [Bool.and_eq_true, Bool.and_eq_true] at h
    exact of_decide_eq_true h.1.1

theorem existsByEmail_own {email : UserEmail} {exceptId : Option Uuid} :
    UserRepository.existsByEmail env ((ofUsers tenantId).rows store) tenantId email exceptId =
      UserRepository.existsByEmail env store tenantId email exceptId :=
  Shard.any_ofOwner fun row h => by
    rw [Bool.and_eq_true, Bool.and_eq_true] at h
    exact of_decide_eq_true h.1.1

/-- What is done to a loaded user does not depend on the users of others. -/
theorem perform_own {call : UserCall} {operation : Users.Operation}
    (htenant : operation.tenantId = tenantId) :
    operation.perform env call ((ofUsers tenantId).rows store) user =
      operation.perform env call store user := by
  obtain rfl := htenant
  cases hchange : operation.change with
  | updateUser params =>
    have hname : UpdateUser.checkUserName env ((ofUsers operation.tenantId).rows store)
          operation.tenantId operation.id user =
        UpdateUser.checkUserName env store operation.tenantId operation.id user := by
      funext raw
      simp only [UpdateUser.checkUserName, existsByUserName_own]
    have hemail : UpdateUser.checkEmail env ((ofUsers operation.tenantId).rows store)
          operation.tenantId operation.id user =
        UpdateUser.checkEmail env store operation.tenantId operation.id user := by
      funext raw
      simp only [UpdateUser.checkEmail, existsByEmail_own]
    simp only [Users.Operation.perform, hchange, UpdateUser.perform, hname, hemail]
  | changeUserPassword params => simp only [Users.Operation.perform, hchange]
  | toggleUserStatus => simp only [Users.Operation.perform, hchange]
  | reassignUser params => simp only [Users.Operation.perform, hchange]

/-- A request of a business is answered as on its rows alone. -/
theorem prepare_user {request : Users.Constraints.Request}
    (htenant : userTenant request = tenantId) :
    request.operation.prepare env request.call ((ofUsers tenantId).rows store) =
      request.operation.prepare env request.call store := by
  obtain ⟨call, operation⟩ := request
  cases operation with
  | createUser params =>
    obtain rfl : params.tenantId = tenantId := htenant
    have hemail : CreateUser.createEmail env ((ofUsers params.tenantId).rows store)
          params.tenantId = CreateUser.createEmail env store params.tenantId := by
      funext raw
      cases raw with
      | none => rfl
      | some raw => simp only [CreateUser.createEmail, existsByEmail_own]
    have hname : CreateUser.createUserName env ((ofUsers params.tenantId).rows store)
          params.tenantId = CreateUser.createUserName env store params.tenantId := by
      funext raw
      simp only [CreateUser.createUserName, existsByUserName_own]
    simp only [UserOperation.prepare, CreateUser.prepare, CreateUser.perform, hemail, hname]
  | changeUser operation =>
    obtain rfl : operation.tenantId = tenantId := htenant
    simp only [UserOperation.prepare, Users.Operation.prepare, Users.Operation.load,
      searchUserById_own, perform_own rfl]

/-- What a request prepares is of its business. -/
theorem tenantId_of_prepare_user {request : Users.Constraints.Request}
    {flight : Users.Constraints.Flight} (henv : Idempotent env)
    (h : request.operation.prepare env request.call store = .ok flight) :
    flight.tenantId = userTenant request := by
  obtain ⟨call, operation⟩ := request
  cases operation with
  | createUser params =>
    obtain ⟨user, hprepare, rfl⟩ := map_eq_ok.mp h
    exact (CreateUser.prepare_ok henv hprepare).2.1
  | changeUser operation =>
    obtain ⟨_, -, rfl⟩ := map_eq_ok.mp (mapError_eq_ok.mp h)
    rfl

theorem accepts_own :
    UserRepository.accepts env ((ofUsers tenantId).rows store) tenantId user =
      UserRepository.accepts env store tenantId user := by
  simp only [UserRepository.accepts, existsByUserName_own, existsByEmail_own]

/-- The part of a business in the requests on users. -/
theorem sharded_accounts (henv : Idempotent env) (tenantId : Uuid) :
    Sharded (accounts env) (Users.Constraints.TableInv env) (Users.Constraints.FlightInv env)
      (ofUsers tenantId) where
  enabled h := by
    simp only [accounts, Bool.and_eq_true, decide_eq_true_eq] at h ⊢
    exact ⟨fun hmem => h.1 ((List.filter_sublist.map _).subset hmem),
      fun hmem => h.2 ((List.filter_sublist.map _).subset hmem)⟩
  read {store call store' result} _ h := by
    refine Sharded.read_of_pure (fun h => (prepared_of_read h).1) (fun flight hflight => ?_)
      (fun hasks => ?_) h
    · have hprepared := (prepared_of_read hflight).2 flight rfl
      show decide (flight.tenantId = tenantId) = decide (userTenant call = tenantId)
      rw [tenantId_of_prepare_user henv hprepared]
    · have hsame := @prepare_user env store tenantId call (of_decide_eq_true hasks)
      simp only [accounts, hsame]
      cases call.operation.prepare env call.call store <;> rfl
  write {store flight now} _ hinv hholds := by
    have htenant : flight.tenantId = tenantId := of_decide_eq_true hholds
    cases flight with
    | save user =>
      obtain rfl : user.tenantId = tenantId := htenant
      have hnew : user.id ∉ store.map (·.id) := hinv.located
      have hnew' : user.id ∉ ((ofUsers user.tenantId).rows store).map (·.id) := fun hmem =>
        hnew ((List.filter_sublist.map _).subset hmem)
      show UserRepository.save env _ user = (UserRepository.save env store user).map _
      rw [UserRepository.save, UserRepository.save, accepts_own, decide_eq_false hnew,
        decide_eq_false hnew']
      split_ifs
      · rfl
      · rw [Option.map_some, Shard.insert_ofOwner]
        rfl
    | update owner user =>
      obtain rfl : owner = tenantId := htenant
      show UserRepository.update env _ _ user now =
        (UserRepository.update env store _ user now).map _
      rw [UserRepository.update, UserRepository.update, accepts_own]
      split_ifs
      · rw [Option.map_some, Shard.updateWhere_ofOwner]
        exact fun _ => rfl
      · rfl
  others {store flight now store'} _ _ hholds h := by
    have hother : flight.tenantId ≠ tenantId := of_decide_eq_false hholds
    cases flight with
    | save user =>
      have h : UserRepository.save env store user = some store' := h
      unfold UserRepository.save at h
      split_ifs at h
      obtain rfl := Option.some.inj h
      exact Shard.insert_ofOwner_of_ne hother
    | update owner user =>
      have h : UserRepository.update env store owner user now = some store' := h
      unfold UserRepository.update at h
      split_ifs at h
      obtain rfl := Option.some.inj h
      refine Shard.updateWhere_ofOwner_of_ne (fun row hrow => ?_) fun _ => rfl
      rw [Bool.and_eq_true, decide_eq_true_eq, decide_eq_true_eq] at hrow
      rw [hrow.2]
      exact hother

end Users

/-! ## Branches -/

section Branches

open BranchNames

variable {env : BusinessEnv} {store : List BranchRow} {tenantId : Uuid} {branch : BranchAggregate}
  {flight : BranchNames.Flight} {request : BranchNames.Request}

/-- The business of a call. -/
def branchTenant (request : BranchNames.Request) : Uuid :=
  match request.operation with
  | .createBranch params => params.tenantId
  | .changeBranch operation => operation.tenantId

/-- The branches of a business. -/
abbrev ofBranches (tenantId : Uuid) :
    Shard (List BranchRow) BranchNames.Request BranchNames.Flight :=
  Shard.ofOwner (·.tenantId) branchTenant (·.branch.tenantId) tenantId

theorem searchBranchById_own {id : Uuid} :
    BranchRepository.searchAggregateById ((ofBranches tenantId).rows store) id tenantId =
      BranchRepository.searchAggregateById store id tenantId := by
  have hfind : ((ofBranches tenantId).rows store).find?
        (fun row => row.id = id && row.tenantId = tenantId && !row.isDeleted) =
      store.find? fun row => row.id = id && row.tenantId = tenantId && !row.isDeleted :=
    Shard.find_ofOwner fun row h => by
      rw [Bool.and_eq_true, Bool.and_eq_true] at h
      exact of_decide_eq_true h.1.2
  rw [BranchRepository.searchAggregateById, hfind]
  rfl

theorem existsByBranchName_own {name : BranchName} :
    BranchRepository.existsByName env ((ofBranches tenantId).rows store) name tenantId =
      BranchRepository.existsByName env store name tenantId :=
  Shard.any_ofOwner fun row h => by
    rw [Bool.and_eq_true, Bool.and_eq_true] at h
    exact of_decide_eq_true h.1.2

/-- A request of a business is answered as on its rows alone. -/
theorem prepare_branch (htenant : branchTenant request = tenantId) :
    request.prepare env ((ofBranches tenantId).rows store) = request.prepare env store := by
  obtain ⟨call, operation⟩ := request
  cases operation with
  | createBranch params =>
    obtain rfl : params.tenantId = tenantId := htenant
    simp only [BranchNames.Request.prepare, CreateBranch.prepare, CreateBranch.newBranch,
      existsByBranchName_own]
  | changeBranch operation =>
    obtain rfl : operation.tenantId = tenantId := htenant
    obtain ⟨id, tenantId, change⟩ := operation
    have hname : ∀ branch, UpdateBranch.newName env ((ofBranches tenantId).rows store) tenantId
        branch = UpdateBranch.newName env store tenantId branch := by
      intro branch
      funext raw
      simp only [UpdateBranch.newName, existsByBranchName_own]
    cases change with
    | updateBranch params =>
      simp only [BranchNames.Request.prepare, BranchOperation.prepare, BranchOperation.load,
        BranchOperation.perform, searchBranchById_own, UpdateBranch.perform, hname]
    | deleteBranch =>
      simp only [BranchNames.Request.prepare, BranchOperation.prepare, BranchOperation.load,
        BranchOperation.perform, searchBranchById_own]

/-- What a request prepares is of its business. -/
theorem tenantId_of_prepare_branch (h : request.prepare env store = .ok flight) :
    flight.branch.tenantId = branchTenant request := by
  obtain ⟨call, operation⟩ := request
  cases operation with
  | createBranch params =>
    obtain ⟨branch, hprepare, rfl⟩ := map_eq_ok.mp h
    exact (CreateBranch.prepare_ok hprepare).2.1
  | changeBranch operation =>
    obtain ⟨branch, hprepare, rfl⟩ := map_eq_ok.mp (mapError_eq_ok.mp h)
    exact (BranchOperation.prepare_ok hprepare).2.2.1

theorem branchNameFree_own (htenant : branch.tenantId = tenantId) :
    BranchRepository.nameFree env ((ofBranches tenantId).rows store) branch =
      BranchRepository.nameFree env store branch := by
  rw [BranchRepository.nameFree, Shard.all_ofOwner, ← BranchRepository.nameFree]
  intro row h
  have hother : row.tenantId ≠ branch.tenantId := htenant ▸ h
  simp [hother]

/-- The part of a business in the requests on branches. -/
theorem sharded_branches (env : BusinessEnv) (tenantId : Uuid) :
    Sharded (branches env) (BranchNames.TableInv env) Located (ofBranches tenantId) where
  enabled h := by
    simp only [branches, Bool.and_eq_true, decide_eq_true_eq] at h ⊢
    exact ⟨fun hmem => h.1 ((List.filter_sublist.map _).subset hmem),
      fun hmem => h.2 ((List.filter_sublist.map _).subset hmem)⟩
  read {store call store' result} _ h := by
    refine Sharded.read_of_pure store_of_read (fun flight hflight => ?_) (fun hasks => ?_) h
    · show decide (flight.branch.tenantId = tenantId) = decide (branchTenant call = tenantId)
      rw [tenantId_of_prepare_branch (prepare_of_read hflight)]
    · have hsame := @prepare_branch env store tenantId call (of_decide_eq_true hasks)
      simp only [branches, hsame]
      cases call.prepare env store <;> rfl
  write {store flight _} _ hinv hholds := by
    have htenant : flight.branch.tenantId = tenantId := of_decide_eq_true hholds
    cases flight with
    | save branch =>
      have htenant : branch.tenantId = tenantId := htenant
      have hnew : branch.id ∉ store.map (·.id) := hinv
      have hnew' : branch.id ∉ ((ofBranches tenantId).rows store).map (·.id) := fun hmem =>
        hnew ((List.filter_sublist.map _).subset hmem)
      show BranchRepository.save env _ branch = (BranchRepository.save env store branch).map _
      rw [BranchRepository.save, BranchRepository.save, branchNameFree_own htenant,
        decide_eq_false hnew, decide_eq_false hnew']
      split_ifs
      · rfl
      · rw [Option.map_some, Shard.insert_ofOwner]
        exact htenant
    | update branch =>
      have htenant : branch.tenantId = tenantId := htenant
      have hmatched : ((ofBranches tenantId).rows store).any (BranchRepository.matched branch) =
          store.any (BranchRepository.matched branch) :=
        Shard.any_ofOwner fun row hrow => by
          rw [BranchRepository.matched, Bool.and_eq_true, Bool.and_eq_true] at hrow
          rw [← htenant]
          exact of_decide_eq_true hrow.1.2
      show BranchRepository.update env _ branch = (BranchRepository.update env store branch).map _
      rw [BranchRepository.update, BranchRepository.update, branchNameFree_own htenant, hmatched]
      split_ifs
      · rfl
      · rw [Option.map_some, Shard.updateWhere_ofOwner]
        exact fun _ => rfl
  others {store flight _ store'} _ _ hholds h := by
    have hother : flight.branch.tenantId ≠ tenantId := of_decide_eq_false hholds
    cases flight with
    | save branch =>
      have h : BranchRepository.save env store branch = some store' := h
      unfold BranchRepository.save at h
      split_ifs at h
      obtain rfl := Option.some.inj h
      exact Shard.insert_ofOwner_of_ne hother
    | update branch =>
      have h : BranchRepository.update env store branch = some store' := h
      unfold BranchRepository.update at h
      split_ifs at h
      obtain rfl := Option.some.inj h
      refine Shard.updateWhere_ofOwner_of_ne (fun row hrow => ?_) fun _ => rfl
      rw [BranchRepository.matched, Bool.and_eq_true, Bool.and_eq_true, decide_eq_true_eq,
        decide_eq_true_eq] at hrow
      rw [hrow.1.2]
      exact hother

end Branches

/-! ## Isolation -/

/-- For every business, in every interleaving of any number of requests on the
    categories, the users or the branches, from empty tables: its rows, its requests
    in flight and its steps are a run of their own, as if there were no other
    business, and what each of its requests reads, checks and is going to write is
    decided by its rows alone. -/
theorem businesses_isolated {categoryEnv : Categories.CategoryEnv} {userEnv : Users.UserEnv}
    {branchEnv : BusinessEnv} (henv : Users.Idempotent userEnv) (tenantId : Uuid) :
    Isolated (Categories.Interleaving.categories categoryEnv) (ofCategories tenantId)
        (State.quiet [])
        (fun store request => request.operation.prepare categoryEnv request.call store) ∧
      Isolated (Users.Constraints.accounts userEnv) (ofUsers tenantId) (State.quiet [])
        (fun store request => request.operation.prepare userEnv request.call store) ∧
      Isolated (BranchNames.branches branchEnv) (ofBranches tenantId) (State.quiet [])
        (fun store request => request.prepare branchEnv store) := by
  refine ⟨?_, ?_, ?_⟩
  · refine (sharded_categories categoryEnv tenantId).isolated_of_keeps
      (Categories.Interleaving.keeps categoryEnv) Categories.Interleaving.tableInv_nil ?_
    exact fun hasks => prepare_category (of_decide_eq_true hasks)
  · refine (sharded_accounts henv tenantId).isolated_of_keeps (Users.Constraints.keeps henv)
      Users.Constraints.tableInv_nil ?_
    exact fun hasks => prepare_user (of_decide_eq_true hasks)
  · refine (sharded_branches branchEnv tenantId).isolated_of_keeps (BranchNames.keeps branchEnv)
      BranchNames.tableInv_nil ?_
    exact fun hasks => prepare_branch (of_decide_eq_true hasks)

/-- Two businesses create a user of one name, each request in the middle of the other. -/
def race : List Users.Constraints.AccountAction :=
  [.read 1 (Users.Constraints.sampleCreate (js "50000000-0000-4000-8000-000000000001")
      (js "10000000-0000-4000-8000-000000000001") (js "ana") none),
    .read 2 (Users.Constraints.sampleCreate (js "50000000-0000-4000-8000-000000000002")
      (js "10000000-0000-4000-8000-000000000002") (js "Ana") none),
    .write 1 true 1600000001000, .write 2 true 1600000002000]

/-- Neither gets in the way of the other: the part of the second business is a run of
    its own. -/
theorem businesses_isolated_race :
    ∃ tr s, exec (next (Users.Constraints.accounts Users.sampleEnv)) (State.quiet [])
        race = some (tr, s) ∧
      s.store.map (·.userName) = [js "ana", js "Ana"] ∧
      Run (next (Users.Constraints.accounts Users.sampleEnv)) (State.quiet [])
        ((ofUsers (js "10000000-0000-4000-8000-000000000002")).part tr)
        ((ofUsers (js "10000000-0000-4000-8000-000000000002")).state s) := by
  obtain ⟨tr, s, hexec, hnames⟩ :
      ∃ tr s, exec (next (Users.Constraints.accounts Users.sampleEnv)) (State.quiet [])
          race = some (tr, s) ∧
        s.store.map (·.userName) = [js "ana", js "Ana"] := exists_of_any_exec (by decide +kernel)
  have henv : Users.Idempotent Users.sampleEnv := toLowerCase_toLowerCase
  obtain ⟨-, hisolated, -⟩ :=
    @businesses_isolated Categories.Interleaving.sampleEnv Users.sampleEnv
      Businesses.sampleEnv henv (js "10000000-0000-4000-8000-000000000002")
  exact ⟨tr, s, hexec, hnames, hisolated.part (run_of_exec hexec)⟩

end KomiSaas.Businesses.Isolation
