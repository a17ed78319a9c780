import KomiSaas.Businesses.Creation
import KomiSaas.Lib.Overtaken
import KomiSaas.Lib.Writes

/-!
# The names of the branches over interleaved requests

`CreateBranch`, `UpdateBranch` and `DeleteBranch`, as two atomic steps: what is
read, with what is then done in memory, and the write.

A branch that is deleted frees its name, in the check of the use cases and in
`uq_branches_name_tenant_lower`. In every interleaving, from an empty table, the
names of the branches of a business that are not deleted are different, no branch
changes its id, its business or its date of creation, and the index refuses only a
request that was overtaken, or a name that `toLowerCase()` takes for the old one and
`LOWER` does not (`branch_names_unique`).
-/

namespace KomiSaas.Businesses.BranchNames

open KomiSaas.Lib KomiSaas.Lib.Flights KomiSaas.Shared

/-- A call of one of the three. -/
inductive Operation where
  | createBranch (params : CreateBranchParams)
  | changeBranch (operation : BranchOperation)
  deriving DecidableEq

/-- A request with what it finds around it. -/
structure Request where
  call : CreateBranchCall
  operation : Operation

/-- What a request is going to write. -/
inductive Flight where
  | save (branch : BranchAggregate)
  | update (branch : BranchAggregate)
  deriving DecidableEq

namespace Flight

def branch : Flight → BranchAggregate
  | .save branch => branch
  | .update branch => branch

def creates : Flight → Bool
  | .save _ => true
  | .update _ => false

end Flight

/-- Everything before the write. -/
def Request.prepare (env : BusinessEnv) (store : List BranchRow) (request : Request) :
    Except CreateBranchException Flight :=
  match request.operation with
  | .createBranch params => (CreateBranch.prepare env request.call store params).map .save
  | .changeBranch operation =>
    ((operation.prepare env request.call.now store).map .update).mapError .branch

/-- The requests. A generated id is in use nowhere. -/
def branches (env : BusinessEnv) : System (List BranchRow) Request Flight Unit where
  enabled store flights request :=
    request.call.branchId ∉ store.map (·.id) && request.call.branchId ∉ flights.map (·.branch.id)
  read store request := preparing store (request.prepare env store)
  write store flight _ :=
    match flight with
    | .save branch => BranchRepository.save env store branch
    | .update branch => BranchRepository.update env store branch

abbrev BranchState := State (List BranchRow) Flight

abbrev BranchAction := Action Request Unit

abbrev BranchTransition := Transition BranchState BranchAction

variable {env : BusinessEnv} {store store' : List BranchRow} {flight : Flight} {request : Request}
  {branch : BranchAggregate} {input : Unit} {f : ℕ → ℕ}

/-! ## Invariants -/

/-- Two branches of a business that are not deleted differ in their names. -/
def NamesApart (env : BusinessEnv) (row other : BranchRow) : Prop :=
  row.tenantId = other.tenantId → row.isDeleted = false → other.isDeleted = false →
    env.lower row.name ≠ env.lower other.name

/-- What holds of the table. -/
structure TableInv (env : BusinessEnv) (store : List BranchRow) : Prop where
  ids : (store.map (·.id)).Nodup
  apart : Rows.Apart (·.id) (NamesApart env) store
  tidy : ∀ row ∈ store, trim row.name = row.name

/-- The columns that no `UPDATE` sets. -/
def identity (row : BranchRow) : Uuid × Uuid × Instant := (row.id, row.tenantId, row.createdAt)

/-- A new branch has an id of its own; one that is changed is stored. -/
def Located (store : List BranchRow) : Flight → Prop
  | .save branch => branch.id ∉ store.map (·.id)
  | .update branch => (branch.id, branch.tenantId) ∈ store.map fun row => (row.id, row.tenantId)

/-- A branch that is being created is in no other operation. -/
def Apart (flight other : Flight) : Prop :=
  flight.creates = true ∨ other.creates = true → flight.branch.id ≠ other.branch.id

theorem namesApart_symm (row other : BranchRow) (h : NamesApart env row other) :
    NamesApart env other row :=
  fun htenant hother hrow heq => h htenant.symm hrow hother heq.symm

theorem store_of_read {result : Option Flight}
    (h : (branches env).read store request = (store', result)) : store' = store :=
  (prepared_of_preparing h).1

theorem prepare_of_read (h : (branches env).read store request = (store', some flight)) :
    request.prepare env store = .ok flight :=
  (prepared_of_preparing h).2 flight rfl

/-- A new branch has the generated id; what is changed is stored. -/
theorem located_of_prepare (htidy : ∀ row ∈ store, trim row.name = row.name)
    (hfresh : request.call.branchId ∉ store.map (·.id))
    (h : request.prepare env store = .ok flight) :
    Located store flight ∧ (flight.creates = true → flight.branch.id = request.call.branchId) := by
  obtain ⟨call, operation⟩ := request
  cases operation with
  | createBranch params =>
    obtain ⟨branch, hbranch, rfl⟩ := map_eq_ok.mp h
    have hid := (CreateBranch.prepare_ok hbranch).1
    refine ⟨?_, fun _ => hid⟩
    show branch.id ∉ store.map (·.id)
    rw [hid]
    exact hfresh
  | changeBranch operation =>
    obtain ⟨branch, hbranch, rfl⟩ := map_eq_ok.mp (mapError_eq_ok.mp h)
    obtain ⟨old, hold, -, hchanged⟩ := operation.changed_of_prepare htidy hbranch
    refine ⟨List.mem_map.mpr ⟨old, hold, ?_⟩, fun hcreates => by cases hcreates⟩
    exact Prod.ext hchanged.id.symm hchanged.tenantId.symm

/-! ## Writing -/

/-- A write puts one row whose name is free, or matches none. -/
theorem puts_of_write (hids : (store.map (·.id)).Nodup) (hlocated : Located store flight)
    (h : (branches env).write store flight input = some store') :
    store' = store ∨ ∃ row, row.id = flight.branch.id ∧ row.name = flight.branch.name.value ∧
      Rows.Puts (·.id) store store' row ∧
      (∀ other ∈ store, other.id ≠ row.id → NamesApart env other row) ∧
      ∀ old ∈ store, old.id = row.id → identity old = identity row := by
  have happart : ∀ {row : BranchRow} {branch : BranchAggregate}, row.id = branch.id →
      row.tenantId = branch.tenantId → row.name = branch.name.value →
      row.isDeleted = branch.isDeleted → BranchRepository.nameFree env store branch = true →
      ∀ other ∈ store, other.id ≠ row.id → NamesApart env other row := by
    intro row branch hid htenant hname hdeleted hfree other hother hne hsame hlive hlive'
    rw [hname]
    rcases nameFree_iff.mp hfree with hgone | hfree
    · cases hlive'.symm.trans (hdeleted.trans hgone)
    · exact hfree other hother (hid ▸ hne) (hsame.trans htenant) hlive
  cases flight with
  | save branch =>
    have h : BranchRepository.save env store branch = some store' := h
    have hnew : branch.id ∉ store.map (·.id) := hlocated
    unfold BranchRepository.save at h
    split_ifs at h with hguard
    rw [Bool.not_eq_true, Bool.or_eq_false_iff, Bool.not_eq_false'] at hguard
    obtain rfl := Option.some.inj h
    refine .inr ⟨BranchRepository.row branch, rfl, rfl, Rows.puts_insert hids hnew,
      happart rfl rfl rfl rfl hguard.2, fun old hold hid => ?_⟩
    exact absurd (List.mem_map.mpr ⟨old, hold, hid⟩) hnew
  | update branch =>
    have h : BranchRepository.update env store branch = some store' := h
    obtain ⟨old, hold, hkey⟩ := List.mem_map.mp hlocated
    obtain ⟨hid, htenant⟩ := Prod.mk.inj hkey
    unfold BranchRepository.update at h
    split_ifs at h with hguard
    obtain rfl := Option.some.inj h
    have hmatches : ∀ r ∈ store, BranchRepository.matched branch r = true → r.id = old.id := by
      intro r _ hr
      rw [BranchRepository.matched, Bool.and_eq_true, Bool.and_eq_true, decide_eq_true_eq] at hr
      exact hr.1.1.trans hid.symm
    have hsameId : (BranchRepository.updated branch old).id = old.id := rfl
    rcases Rows.puts_or_eq_updateWhere hids hold hmatches hsameId with ⟨hmatched, hputs⟩ | hsame
    · have hany : store.any (BranchRepository.matched branch) = true :=
        List.any_eq_true.mpr ⟨old, hold, hmatched⟩
      rw [hany, Bool.true_and, Bool.not_eq_true, Bool.not_eq_false'] at hguard
      refine .inr ⟨BranchRepository.updated branch old, hid, rfl, hputs,
        happart hid htenant rfl rfl hguard, fun r hr heq => ?_⟩
      rw [List.inj_on_of_nodup_map hids hr hold heq]
      rfl
    · -- the row was deleted since it was loaded
      exact .inl hsame

theorem keeps (env : BusinessEnv) : Keeps (branches env) (TableInv env) Located Apart where
  symm h hcreates := (h hcreates.symm).symm
  read htable hread := by
    rw [store_of_read hread]
    exact ⟨htable, fun _ h => h⟩
  took {store request store' flight flights} htable henabled hread hflights := by
    simp only [branches, Bool.and_eq_true, decide_eq_true_eq] at henabled
    obtain ⟨hfresh, hfresh'⟩ := henabled
    obtain rfl := store_of_read hread
    obtain ⟨hlocated, hid⟩ := located_of_prepare htable.tidy hfresh (prepare_of_read hread)
    refine ⟨hlocated, fun other hother hcreates heq => ?_⟩
    have hstored : flight.creates = false := by
      by_contra hcreates
      rw [Bool.not_eq_false] at hcreates
      exact hfresh' (List.mem_map.mpr ⟨other, hother, heq.trans (hid hcreates)⟩)
    cases flight with
    | save branch => cases hstored
    | update branch =>
      obtain ⟨old, hold, hkey⟩ := List.mem_map.mp hlocated
      have hother := hflights other hother
      cases other with
      | save new =>
        have hnew : new.id ∉ store'.map (·.id) := hother
        exact hnew (List.mem_map.mpr ⟨old, hold, (Prod.mk.inj hkey).1.trans heq.symm⟩)
      | update _ => simp [Flight.creates] at hcreates
  wrote htable hlocated hwrite := by
    rcases puts_of_write htable.ids hlocated hwrite with
      hsame | ⟨row, hid, hname, hputs, happart, hidentity⟩
    · rw [hsame]
      exact ⟨htable, fun _ h _ => h⟩
    · have htidy : trim row.name = row.name := by
        rw [hname]
        exact (Flight.branch _).name.trimmed
      refine ⟨⟨hputs.keys, hputs.apart namesApart_symm htable.apart happart,
        hputs.forall_mem htable.tidy htidy⟩, fun other hother hapart => ?_⟩
      cases other with
      | save new =>
        refine hputs.notMem hother ?_
        rw [hid]
        exact hapart (.inr rfl)
      | update changed =>
        refine hputs.map_subset (fun old hold heq => ?_) hother
        have hsame := Prod.mk.inj (hidentity old hold heq)
        exact Prod.ext hsame.1 (Prod.mk.inj hsame.2).1

/-! ## Refusals -/

/-- The writes of a name that `toLowerCase()` tells from all those that `LOWER` tells
    from it. `UpdateBranch` takes a name for that of the branch by the first, and then
    does not look for it; the index goes by the second. -/
def toldApart (env : BusinessEnv) : Set Flight :=
  {flight | flight.creates = true ∨ ∀ name,
    env.toLowerCase flight.branch.name.value = env.toLowerCase name →
      env.lower flight.branch.name.value = env.lower name}

/-- The name that the request checked is one that the index allows. -/
theorem nameFree_of_prepare (hdb : Database env f) (htold : flight ∈ toldApart env)
    (htable : TableInv env store) (h : request.prepare env store = .ok flight) :
    BranchRepository.nameFree env store flight.branch = true := by
  have hunfound : ∀ {branch : BranchAggregate},
      BranchRepository.existsByName env store branch.name branch.tenantId ≠ true →
      BranchNameFree env store branch := by
    intro branch hnot row hrow _ htenant hlive hname
    exact hnot ((existsByName_iff hdb).mpr ⟨row, hrow, htenant, hlive, hname⟩)
  refine nameFree_iff.mpr (.inr ?_)
  obtain ⟨call, operation⟩ := request
  cases operation with
  | createBranch params =>
    obtain ⟨branch, hbranch, rfl⟩ := map_eq_ok.mp h
    exact hunfound (CreateBranch.prepare_ok hbranch).2.2
  | changeBranch operation =>
    obtain ⟨branch, hbranch, rfl⟩ := map_eq_ok.mp (mapError_eq_ok.mp h)
    obtain ⟨old, hold, hlive, hchanged⟩ := operation.changed_of_prepare htable.tidy hbranch
    rcases hchanged.name with hsame | hnot
    · intro row hrow hne htenant hrow' heq
      have hother : row.id ≠ old.id := fun heq => hne (heq.trans hchanged.id.symm)
      refine htable.apart row hrow old hold hother (htenant.trans hchanged.tenantId) hrow' hlive ?_
      rcases htold with hcreates | htold
      · cases hcreates
      · exact heq.trans (htold old.name hsame)
    · exact hunfound hnot

theorem completes (hdb : Database env f) :
    Completes (branches env) (TableInv env) (toldApart env) where
  pure := store_of_read
  accepts {store _ request flight} htable henabled hread htold input := by
    simp only [branches, Bool.and_eq_true, decide_eq_true_eq] at henabled
    have hprepare := prepare_of_read hread
    obtain ⟨hlocated, -⟩ := located_of_prepare htable.tidy henabled.1 hprepare
    have hfree := nameFree_of_prepare hdb htold htable hprepare
    cases flight with
    | save branch =>
      have hnew : branch.id ∉ store.map (·.id) := hlocated
      have hfree : BranchRepository.nameFree env store branch = true := hfree
      show (BranchRepository.save env store branch).isSome = true
      simp [BranchRepository.save, hnew, hfree]
    | update branch =>
      have hfree : BranchRepository.nameFree env store branch = true := hfree
      show (BranchRepository.update env store branch).isSome = true
      simp [BranchRepository.update, hfree]

/-! ## Runs -/

/-- No step changes the identity of a branch. -/
theorem identity_of_next {s s' : BranchState} {a : BranchAction}
    (hinv : Inv (TableInv env) Located Apart s) (hnext : next (branches env) s a = some s') :
    s.store.map identity ⊆ s'.store.map identity := by
  cases effect_of_next hnext with
  | ended _ hread =>
    rw [store_of_read hread]
    exact List.Subset.refl _
  | took _ hread =>
    rw [store_of_read hread]
    exact List.Subset.refl _
  | failed _ _ => exact List.Subset.refl _
  | wrote hflight hwrite =>
    have hlocated := hinv.flights _ (mem_of_flight hflight)
    rcases puts_of_write hinv.store.ids hlocated hwrite with
      hsame | ⟨row, -, -, hputs, -, hidentity⟩
    · rw [hsame]
      exact List.Subset.refl _
    · exact hputs.map_subset hidentity

/-- No branch yet. -/
theorem tableInv_nil : TableInv env [] :=
  ⟨List.nodup_nil, fun _ h => absurd h List.not_mem_nil, fun _ h => absurd h List.not_mem_nil⟩

/-- For every interleaving of any number of requests, from an empty table: no two
    branches of a business that are not deleted have one name up to case, no branch
    disappears or changes its id, its business or its date of creation, and the index
    refuses no write of a name that is told apart, but to a request that another write
    overtook. -/
theorem branch_names_unique (hdb : Database env f) {tr : List BranchTransition} {s : BranchState}
    (hrun : Run (next (branches env)) (State.quiet []) tr s) :
    Rows.Apart (·.id) (NamesApart env) s.store ∧
      (∀ t ∈ tr, t.pre.store.map identity ⊆ t.post.store.map identity) ∧
      RefusedOnlyOvertaken (branches env) (toldApart env) tr := by
  have hinit : Inv (TableInv env) Located Apart (State.quiet []) := Inv.quiet tableInv_nil
  obtain ⟨hinv, hall⟩ :=
    hrun.invariant (fun _ _ _ h hnext => h.step (keeps env) hnext) hinit
  refine ⟨hinv.store.apart, fun t ht => ?_,
    overtaken_of_refused (keeps env) (completes hdb) hrun hinit⟩
  exact identity_of_next (hall t ht).1 (hrun.next_of_mem ht)

def sampleCall (branchId : Uuid) : CreateBranchCall where
  branchId := branchId
  now := 1600000000000
  tenantExists _ := true

/-- A request for a new branch. -/
def sampleCreate (branchId : Uuid) (name : JsString) : Request where
  call := sampleCall branchId
  operation :=
    .createBranch
      { tenantId := js "10000000-0000-4000-8000-000000000001"
        name := name
        address := js "Calle 10"
        phone := js "3001234567"
        city := js "Cali"
        department := js "Valle" }

/-- The deletion of the first branch. -/
def sampleDelete : Request where
  call := sampleCall (js "20000000-0000-4000-8000-000000000009")
  operation :=
    .changeBranch
      { id := js "20000000-0000-4000-8000-000000000001"
        tenantId := js "10000000-0000-4000-8000-000000000001"
        change := .deleteBranch }

/-- Two requests read before either writes, with names that differ in their case.
    The branch that is stored is deleted, and its name given again. -/
def race : List BranchAction :=
  [.read 1 (sampleCreate (js "20000000-0000-4000-8000-000000000001") (js "Centro_1")),
    .read 2 (sampleCreate (js "20000000-0000-4000-8000-000000000002") (js "CENTRO_1")),
    .write 1 true (), .write 2 true (), .read 3 sampleDelete, .write 3 true (),
    .read 4 (sampleCreate (js "20000000-0000-4000-8000-000000000003") (js "CENTRO_1")),
    .write 4 true (),
    .read 5 (sampleCreate (js "20000000-0000-4000-8000-000000000004") (js "Centro-1")),
    .write 5 true ()]

/-- The index refuses the second request. "Centro-1" is another name. -/
theorem branch_names_unique_race :
    ∃ tr s, exec (next (branches sampleEnv)) (State.quiet []) race = some (tr, s) ∧
      s.store.map (fun row => (row.name, row.isDeleted)) =
        [(js "Centro_1", true), (js "CENTRO_1", false), (js "Centro-1", false)] ∧
      Rows.Apart (·.id) (NamesApart sampleEnv) s.store ∧
      (∀ t ∈ tr, t.pre.store.map identity ⊆ t.post.store.map identity) ∧
      RefusedOnlyOvertaken (branches sampleEnv) (toldApart sampleEnv) tr := by
  obtain ⟨tr, s, hexec, hrows⟩ :
      ∃ tr s, exec (next (branches sampleEnv)) (State.quiet []) race = some (tr, s) ∧
        s.store.map (fun row => (row.name, row.isDeleted)) =
          [(js "Centro_1", true), (js "CENTRO_1", false), (js "Centro-1", false)] :=
    exists_of_any_exec (by decide +kernel)
  exact ⟨tr, s, hexec, hrows, branch_names_unique database_sampleEnv (run_of_exec hexec)⟩

end KomiSaas.Businesses.BranchNames
