import KomiSaas.Products.Interleaving
import KomiSaas.Lib.Writes

/-!
# The names of the products

Whole calls of `CreateProduct`, `UpdateProduct` and `DeleteProduct`, one after
another, from an empty table.

`CreateProduct` asks `existsByName` before it stores a name; `UpdateProduct`
stores the name it is sent without asking. The names of the products of a
business that are not deleted stay apart exactly as long as no update takes a
name in use (`names_unique_iff`).
-/

namespace KomiSaas.Products.Names

open KomiSaas.Lib KomiSaas.Shared
open KomiSaas.Products.Interleaving

/-- A whole call. The generated id is not that of a stored product. -/
def next (env : ProductEnv) (store : ProductStore) (request : Request) : Option ProductStore :=
  if request.call.productId ∈ store.products.map (·.id) then none
  else some (request.operation.execute env request.call store).2

/-- No two products of a business that are not deleted have names that are equal
    ignoring case, as `ProductName.equals` compares them. -/
def NamesUnique (env : ProductEnv) (store : ProductStore) : Prop :=
  ∀ row ∈ store.products, ∀ other ∈ store.products, row.id ≠ other.id →
    row.tenantId = other.tenantId → row.status ≠ .deleted → other.status ≠ .deleted →
      env.toLowerCase row.name ≠ env.toLowerCase other.name

/-- A product of the business other than `id`, not deleted, has the name. -/
def nameInUse (env : ProductEnv) (store : ProductStore) (id tenantId : Uuid) (name : JsString) :
    Bool :=
  store.products.any fun row =>
    row.id ≠ id && row.tenantId = tenantId && row.status ≠ .deleted &&
      env.toLowerCase row.name = env.toLowerCase name

/-- The call succeeds and stores a name in use: `UpdateProduct` where it is sent
    one, and `CreateProduct` where `LOWER` tells apart what `toLowerCase` does not. -/
def takesUsedName (env : ProductEnv) (store : ProductStore) (request : Request) : Bool :=
  (request.operation.execute env request.call store).1.toBool &&
    match request.operation with
    | .createProduct params =>
      let name := trim params.productName
      store.products.any fun row =>
        row.tenantId = params.tenantId && row.status ≠ .deleted &&
          env.toLowerCase row.name = env.toLowerCase name && env.lower row.name ≠ env.lower name
    | .updateProduct params =>
      (truthy params.productName).any fun raw =>
        nameInUse env store params.id params.tenantId (trim raw)
    | .deleteProduct _ => false

variable {env : ProductEnv} {store store' : ProductStore} {request : Request}

/-! ## One call -/

/-- What holds of the table in every sequential run. -/
structure TableInv (store : ProductStore) : Prop where
  ids : (store.products.map (·.id)).Nodup
  trimmed : ∀ row ∈ store.products, trim row.name = row.name

/-- A call that fails changes no row; one that succeeds writes the product it
    prepared. -/
theorem effect_of_next (hnext : next env store request = some store') :
    ((request.operation.execute env request.call store).1.toBool = false ∧
      store'.products = store.products) ∨
    ((request.operation.execute env request.call store).1.toBool = true ∧
      request.call.productId ∉ store.products.map (·.id) ∧
      ∃ product, Prepared env request.call store request.operation product ∧
        ∃ between : ProductStore, between.products = store.products ∧
          request.operation.write between product request.call.now = some store') := by
  unfold next at hnext
  split_ifs at hnext with hfresh
  obtain rfl := Option.some.inj hnext
  cases hprepare : request.operation.prepare env request.call store with
  | mk result between =>
    obtain ⟨hsame, hprepared⟩ := prepared_of_prepare hprepare
    cases result with
    | error e =>
      simp only [Operation.execute, hprepare]
      exact .inl ⟨rfl, hsame⟩
    | ok product =>
      cases hwrite : request.operation.write between product request.call.now with
      | none =>
        simp only [Operation.execute, hprepare, hwrite]
        exact .inl ⟨rfl, hsame⟩
      | some written =>
        simp only [Operation.execute, hprepare, hwrite]
        exact .inr ⟨rfl, hfresh, product, hprepared product rfl, between, hsame, hwrite⟩

/-- What `update` writes. -/
theorem puts_of_update {between : ProductStore} {product : Product} {old : ProductRow}
    {now : Instant} (hids : (store.products.map (·.id)).Nodup)
    (hsame : between.products = store.products) (hold : old ∈ store.products)
    (hid : product.id = old.id)
    (h : ProductRepository.update between product now = some store') :
    Rows.Puts (·.id) store.products store'.products
      (ProductMapper.toEntity product old.createdAt now) := by
  have hrow : ProductRepository.updated product now old =
      ProductMapper.toEntity product old.createdAt now := by
    rw [ProductRepository.updated, ← hid]
    rfl
  have hputs := @Rows.puts_updateWhere _ _ (fun row : ProductRow => row.id) _ old _
    (fun row => row.id = product.id) (ProductRepository.updated product now) hids hold
    (fun row _ => by rw [decide_eq_true_eq, hid]) rfl
  rw [ProductRepository.update_eq_some h, hsame]
  rwa [hrow] at hputs

/-- What a successful call writes: the row of the product it prepared. -/
theorem puts_of_write {between : ProductStore} {product : Product}
    (hids : (store.products.map (·.id)).Nodup)
    (hprepared : Prepared env request.call store request.operation product)
    (hsame : between.products = store.products)
    (hwrite : request.operation.write between product request.call.now = some store') :
    ∃ createdAt, Rows.Puts (·.id) store.products store'.products
      (ProductMapper.toEntity product createdAt request.call.now) := by
  obtain ⟨call, operation⟩ := request
  cases hprepared with
  | created _ _ _ _ _ _ =>
    have hsave : ProductRepository.save between product call.now = some store' := hwrite
    refine ⟨call.now, ?_⟩
    rw [ProductRepository.save_eq_some hsave, hsame]
    exact Rows.puts_upsert hids
  | updated hold _ _ hread _ hid _ _ _ =>
    exact ⟨_, puts_of_update hids hsame hold (hid.trans hread.id) hwrite⟩
  | @deleted params old loaded _ hold _ _ hread _ hproduct =>
    have hid : product.id = old.id := by
      rw [hproduct]
      exact hread.id
    exact ⟨_, puts_of_update hids hsame hold hid hwrite⟩

/-- Putting a row keeps the names apart exactly where no other row has its name. -/
theorem namesUnique_put_iff {row : ProductRow}
    (hputs : Rows.Puts (·.id) store.products store'.products row)
    (hunique : NamesUnique env store) :
    NamesUnique env store' ↔ (row.status ≠ .deleted → ∀ other ∈ store.products,
      other.id ≠ row.id → other.tenantId = row.tenantId → other.status ≠ .deleted →
        env.toLowerCase other.name ≠ env.toLowerCase row.name) := by
  let apart (row other : ProductRow) : Prop :=
    row.tenantId = other.tenantId → row.status ≠ .deleted → other.status ≠ .deleted →
      env.toLowerCase row.name ≠ env.toLowerCase other.name
  have hsymm : ∀ former latter, apart former latter → apart latter former := by
    intro former latter hapart htenant hlive hlive'
    exact (hapart htenant.symm hlive' hlive).symm
  have hiff : NamesUnique env store' ↔
      ∀ other ∈ store.products, other.id ≠ row.id → apart other row :=
    Rows.apart_iff_of_mem hsymm hputs.mem hunique
  rw [hiff]
  constructor
  · intro h hlive other hother hid htenant hlive'
    exact h other hother hid htenant hlive' hlive
  · intro h other hother hid htenant hlive' hlive
    exact h hlive other hother hid htenant hlive'

/-! ## Runs -/

theorem tableInv_step (hinv : TableInv store) (hnext : next env store request = some store') :
    TableInv store' := by
  rcases effect_of_next hnext with ⟨-, hsame⟩ | ⟨-, -, product, hprepared, between, hsame, hwrite⟩
  · exact ⟨hsame ▸ hinv.ids, hsame ▸ hinv.trimmed⟩
  · obtain ⟨createdAt, hputs⟩ := puts_of_write hinv.ids hprepared hsame hwrite
    exact ⟨hputs.keys, hputs.forall_mem hinv.trimmed product.productName.trimmed⟩

/-- Whether the product that a call stores takes a name in use. -/
theorem takesUsedName_iff {product : Product} (hinv : TableInv store)
    (hunique : NamesUnique env store)
    (hsuccess : (request.operation.execute env request.call store).1.toBool = true)
    (hfresh : request.call.productId ∉ store.products.map (·.id))
    (hprepared : Prepared env request.call store request.operation product) :
    takesUsedName env store request = false ↔
      (product.status ≠ .deleted → ∀ other ∈ store.products,
        other.id ≠ product.id → other.tenantId = product.tenantId → other.status ≠ .deleted →
          env.toLowerCase other.name ≠ env.toLowerCase product.productName.value) := by
  obtain ⟨call, operation⟩ := request
  rw [takesUsedName, hsuccess, Bool.true_and]
  cases hprepared with
  | @created params product _ hid htenant hstatus hname hexists =>
    simp only [List.any_eq_false, Bool.and_eq_true, decide_eq_true_eq, not_and, ← hname]
    have hlower : ∀ other ∈ store.products, other.tenantId = product.tenantId →
        other.status ≠ .deleted → env.lower other.name ≠ env.lower product.productName.value := by
      intro other hother htenant' hlive heq
      simp only [ProductRepository.existsByName, List.any_eq_false, Bool.and_eq_true,
        decide_eq_true_eq, not_and] at hexists
      exact hexists other hother ⟨heq, htenant'.trans htenant⟩ hlive
    constructor
    · intro h _ other hother _ htenant' hlive heq
      exact h other hother ⟨⟨htenant'.trans htenant, hlive⟩, heq⟩
        (hlower other hother htenant' hlive)
    · rintro h other hother ⟨⟨htenant', hlive⟩, heq⟩ -
      have hne : other.id ≠ product.id := by
        rw [hid]
        exact fun hsameId => hfresh (List.mem_map.mpr ⟨other, hother, hsameId⟩)
      exact h (by rw [hstatus]; decide) other hother hne (htenant'.trans htenant.symm) hlive heq
  | @updated params row loaded product hrow hids hlive hread _ hid htenant hname hstatus =>
    show (truthy params.productName).any (fun raw =>
      nameInUse env store params.id params.tenantId (trim raw)) = false ↔ _
    have hrowId : product.id = params.id := (hid.trans hread.id).trans hids.1
    have hrowTenant : product.tenantId = params.tenantId :=
      (htenant.trans hread.tenantId).trans hids.2
    cases hsent : truthy params.productName with
    | none =>
      -- the name of the row is stored again
      rw [hsent, Option.getD_none, hread.name, trim_trim, hinv.trimmed row hrow] at hname
      refine iff_of_true rfl fun _ other hother hne htenant' hlive' => ?_
      rw [hname]
      refine hunique other hother row hrow ?_ ?_ hlive' hlive
      · rw [← hread.id, ← hid]
        exact hne
      · rw [htenant', htenant, hread.tenantId]
    | some raw =>
      rw [hsent, Option.getD_some] at hname
      simp only [Option.any_some, nameInUse, List.any_eq_false, Bool.and_eq_true,
        decide_eq_true_eq, not_and, ← hname, ← hrowId, ← hrowTenant]
      constructor
      · intro h _ other hother hne htenant' hlive' heq
        exact h other hother ⟨⟨hne, htenant'⟩, hlive'⟩ heq
      · rintro h other hother ⟨⟨hne, htenant'⟩, hlive'⟩ heq
        exact h hstatus other hother hne htenant' hlive' heq
  | deleted _ _ _ _ hstatus _ => exact iff_of_true rfl fun hlive => absurd hstatus hlive

/-- A call keeps the names apart exactly where it takes no name in use. -/
theorem namesUnique_step_iff (hinv : TableInv store) (hunique : NamesUnique env store)
    (hnext : next env store request = some store') :
    NamesUnique env store' ↔ takesUsedName env store request = false := by
  rcases effect_of_next hnext with
    ⟨hfails, hsame⟩ | ⟨hsuccess, hfresh, product, hprepared, between, hsame, hwrite⟩
  · have hkept : NamesUnique env store' := by
      rw [NamesUnique, hsame]
      exact hunique
    refine iff_of_true hkept ?_
    rw [takesUsedName, hfails, Bool.false_and]
  · obtain ⟨createdAt, hputs⟩ := puts_of_write hinv.ids hprepared hsame hwrite
    rw [namesUnique_put_iff hputs hunique,
      takesUsedName_iff hinv hunique hsuccess hfresh hprepared]
    rfl

/-- For every sequential run of calls from an empty table: the names of the
    products of each business that are not deleted are distinct in every state,
    ignoring case, exactly as long as no successful call takes a name in use. -/
theorem names_unique_iff {tr : List (Transition ProductStore Request)} {s : ProductStore}
    (hrun : Run (next env) emptyStore tr s) :
    (∀ t ∈ tr, NamesUnique env t.post) ↔ ∀ t ∈ tr, takesUsedName env t.pre t.action = false := by
  have hinit : TableInv emptyStore :=
    ⟨List.nodup_nil, fun _ hrow => absurd hrow List.not_mem_nil⟩
  have hempty : NamesUnique env emptyStore := fun _ hrow => absurd hrow List.not_mem_nil
  exact hrun.forall_post_iff (fun _ _ _ h hnext => tableInv_step h hnext)
    (fun _ _ _ h hunique hnext => namesUnique_step_iff h hunique hnext) hinit hempty

/-- Two products are created, and the second is given another name. -/
def rename (name : JsString) : List Request :=
  [sampleCreate Product.sampleProductId (js "Arepa"), sampleCreate otherProductId (js "Empanada"),
    { call := sampleCall (js "30000000-0000-4000-8000-000000000003")
      operation := .updateProduct { noChange otherProductId with productName := some name } }]

/-- A name of its own leaves the names apart. -/
theorem names_unique_iff_renamed :
    ∃ tr s, exec (next sampleEnv) emptyStore (rename (js "Arepuela")) = some (tr, s) ∧
      s.products.map (·.name) = [js "Arepa", js "Arepuela"] ∧
      ∀ t ∈ tr, NamesUnique sampleEnv t.post := by
  obtain ⟨tr, s, hexec, hnames, hguard⟩ :
      ∃ tr s, exec (next sampleEnv) emptyStore (rename (js "Arepuela")) = some (tr, s) ∧
        s.products.map (·.name) = [js "Arepa", js "Arepuela"] ∧
        ∀ t ∈ tr, takesUsedName sampleEnv t.pre t.action = false :=
    exists_of_any_exec (by decide +kernel)
  exact ⟨tr, s, hexec, hnames, (names_unique_iff (run_of_exec hexec)).mpr hguard⟩

/-- The name of the first product in capitals is accepted for the second. -/
theorem not_names_unique :
    ¬ ∀ tr s, Run (next sampleEnv) emptyStore tr s → ∀ t ∈ tr, NamesUnique sampleEnv t.post := by
  intro hunique
  obtain ⟨tr, s, hexec, t, ht, row, hrow, other, hother, hid, htenant, hlive, hlive', heq⟩ :
      ∃ tr s, exec (next sampleEnv) emptyStore (rename (js "AREPA")) = some (tr, s) ∧
        ∃ t ∈ tr, ∃ row ∈ t.post.products, ∃ other ∈ t.post.products, row.id ≠ other.id ∧
          row.tenantId = other.tenantId ∧ row.status ≠ .deleted ∧ other.status ≠ .deleted ∧
          sampleEnv.toLowerCase row.name = sampleEnv.toLowerCase other.name :=
    exists_of_any_exec (by decide +kernel)
  exact hunique tr s (run_of_exec hexec) t ht row hrow other hother hid htenant hlive hlive' heq

end KomiSaas.Products.Names
