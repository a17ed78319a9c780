import KomiSaas.Products.Store

/-!
# The use cases of the products

`products/application/use-cases/`: `create-item`, `update-item`, `delete-item`.
Each reads the tables and works in memory, and then writes with one call of the
repository. What the checkers of other contexts answer, the time and the
generated id come with the call.
-/

namespace KomiSaas.Products

open KomiSaas.Lib KomiSaas.Shared

/-- What a call finds around it. -/
structure ProductCall where
  now : Instant
  productId : Uuid
  tenantExists : Uuid → Bool
  categoryExistsForTenant : Uuid → Uuid → Bool

/-- `CreateProductApplicationParams`. -/
structure CreateProductParams where
  tenantId : Uuid
  productCategoryId : Uuid
  productName : JsString
  productDescription : Option JsString
  productImgUrl : Option JsString
  productBasePrice : JsString
  productCost : JsString
  profitMargin : ProfitMargin
  deriving DecidableEq

/-- `UpdateProductApplicationParams`. -/
structure UpdateProductParams where
  id : Uuid
  tenantId : Uuid
  productCategoryId : Option Uuid
  productName : Option JsString
  productDescription : Option JsString
  productImgUrl : Option JsString
  productBasePrice : Option JsString
  productCost : Option JsString
  profitMargin : Option ProfitMargin
  status : Option EntityStatus
  deriving DecidableEq

/-- `DeleteProductApplicationParams`. -/
structure DeleteProductParams where
  id : Uuid
  tenantId : Uuid
  deletedBy : Uuid
  deriving DecidableEq

/-- `create-product.use-case.ts`, lines 35–103, with the store after
    `nextSkuSequence`, whose value is spent whatever follows. -/
def CreateProduct.prepare (env : ProductEnv) (call : ProductCall) (store : ProductStore)
    (params : CreateProductParams) : Except ProductException Product × ProductStore :=
  if !call.tenantExists params.tenantId then (.error (.tenantNotFound params.tenantId), store)
  else if !call.categoryExistsForTenant params.tenantId params.productCategoryId then
    (.error (.productCategoryNotFound params.productCategoryId), store)
  else
    match ProductName.create params.productName with
    | .error e => (.error e, store)
    | .ok productName =>
      if ProductRepository.existsByName env store productName params.tenantId then
        (.error (.productNameAlreadyExists productName.value), store)
      else
        let (sequence, store) := ProductRepository.nextSkuSequence store
        (do
          let productBasePrice ← ofMoney (Money.of env.decimal params.productBasePrice Product.cop)
          let productCost ← ofMoney (Money.of env.decimal params.productCost Product.cop)
          Product.create env.rounded env.decimal call.productId
            { tenantId := params.tenantId
              productCategoryId := params.productCategoryId
              productName := productName
              productDescription := params.productDescription
              productSku := ProductSku.fromNumber sequence
              productImgUrl := params.productImgUrl
              productBasePrice := productBasePrice
              productCost := productCost
              profitMargin := params.profitMargin } call.now,
          store)

namespace UpdateProduct

/-- A field that is sent and differs from the stored one. -/
def differs {α : Type} [DecidableEq α] (sent : Option α) (current : Option α) : Bool :=
  sent.isSome && sent ≠ current

/-- `hasChanges` (lines 85–108). -/
def hasChanges (decimal : DecimalJs) (params : UpdateProductParams) (product : Product) : Bool :=
  let current := product.toPrimitives decimal
  differs params.productCategoryId (some current.productCategoryId) ||
    differs params.productName (some current.productName) ||
    differs params.productDescription current.productDescription ||
    differs params.productImgUrl current.productImgUrl ||
    differs params.productBasePrice (some current.productBasePrice) ||
    differs params.productCost (some current.productCost) ||
    differs (params.profitMargin.map (·.getValue decimal)) (some current.profitMargin) ||
    differs params.status (some product.status)

/-- Lines 144–145. -/
def mergedMargin (decimal : DecimalJs) (sent : Option ProfitMargin) (current : JsString) :
    Except ProductException ProfitMargin :=
  match sent with
  | some profitMargin => .ok profitMargin
  | none => ProfitMargin.create decimal current

/-- The fields sent, and for the others those of the loaded product
    (lines 117–146). -/
def merge (decimal : DecimalJs) (params : UpdateProductParams) (product : Product) :
    Except ProductException ProductChanges := do
  let current := product.toPrimitives decimal
  let productName ← ProductName.create ((truthy params.productName).getD current.productName)
  let productBasePrice ← ofMoney (Money.of decimal
    (params.productBasePrice.getD current.productBasePrice) Product.cop)
  let productCost ← ofMoney (Money.of decimal (params.productCost.getD current.productCost)
    Product.cop)
  let profitMargin ← mergedMargin decimal params.profitMargin current.profitMargin
  .ok
    { productCategoryId := params.productCategoryId.getD current.productCategoryId
      productName := productName
      productDescription := params.productDescription.or current.productDescription
      productImgUrl := params.productImgUrl.or current.productImgUrl
      productBasePrice := productBasePrice
      productCost := productCost
      profitMargin := profitMargin }

/-- Lines 149–151. -/
def changeStatus (now : Instant) (status : Option EntityStatus) (before : EntityStatus)
    (product : Product) : Except ProductException Product :=
  match status with
  | some status => if status ≠ before then product.changeStatus status now else .ok product
  | none => .ok product

/-- Lines 83–151: what is done to the loaded product. -/
def perform (env : ProductEnv) (call : ProductCall) (params : UpdateProductParams)
    (product : Product) : Except ProductException Product := do
  if !hasChanges env.decimal params product then .error .productNotModified
  else do
    let changes ← merge env.decimal params product
    let product' ← product.update env.rounded env.decimal changes call.now
    changeStatus call.now params.status product.status product'

end UpdateProduct

/-- The loaded product, or `ProductNotFoundException`. -/
def loadProduct (env : ProductEnv) (store : ProductStore) (id tenantId : Uuid) :
    Except ProductException Product := do
  match ← ProductRepository.findById env store id tenantId with
  | none => .error (.productNotFound id)
  | some product => .ok product

/-- `update-product.use-case.ts`, lines 33–63. -/
def UpdateProduct.load (env : ProductEnv) (call : ProductCall) (store : ProductStore)
    (params : UpdateProductParams) : Except ProductException Product :=
  if !call.tenantExists params.tenantId then .error (.tenantNotFound params.tenantId)
  else do
    let product ← loadProduct env store params.id params.tenantId
    match truthy params.productCategoryId with
    | none => .ok product
    | some categoryId =>
      if !call.categoryExistsForTenant params.tenantId categoryId then
        .error (.productCategoryNotFound categoryId)
      else .ok product

/-- `delete-product.use-case.ts`, lines 15–30. -/
def DeleteProduct.prepare (env : ProductEnv) (call : ProductCall) (store : ProductStore)
    (params : DeleteProductParams) : Except ProductException Product :=
  if !call.tenantExists params.tenantId then .error (.tenantNotFound params.tenantId)
  else do
    let product ← loadProduct env store params.id params.tenantId
    product.delete params.deletedBy call.now

/-- A call of one of the three. -/
inductive Operation where
  | createProduct (params : CreateProductParams)
  | updateProduct (params : UpdateProductParams)
  | deleteProduct (params : DeleteProductParams)
  deriving DecidableEq

/-- Why a call ends without writing. -/
inductive Failure where
  | domain (exception : ProductException)
  | database
  deriving DecidableEq

namespace Operation

/-- Everything before the write: the product to write, and the store by then. -/
def prepare (env : ProductEnv) (call : ProductCall) (store : ProductStore) :
    Operation → Except ProductException Product × ProductStore
  | .createProduct params => CreateProduct.prepare env call store params
  | .updateProduct params =>
    ((UpdateProduct.load env call store params).bind (UpdateProduct.perform env call params), store)
  | .deleteProduct params => (DeleteProduct.prepare env call store params, store)

/-- The write: `save` for a new product, `update` for the others. -/
def write (store : ProductStore) (product : Product) (now : Instant) :
    Operation → Option ProductStore
  | .createProduct _ => ProductRepository.save store product now
  | _ => ProductRepository.update store product now

/-- A whole call, with the events it publishes. -/
def execute (env : ProductEnv) (call : ProductCall) (store : ProductStore)
    (operation : Operation) : Except Failure (List ProductEvent) × ProductStore :=
  match operation.prepare env call store with
  | (.error e, store) => (.error (.domain e), store)
  | (.ok product, store) =>
    match operation.write store product call.now with
    | none => (.error .database, store)
    | some store => (.ok product.domainEvents, store)

end Operation

/-! ## What is prepared -/

/-- Only the status and the time of the last change may differ. -/
def SameButStatus (product product' : Product) : Prop :=
  product' = { product with status := product'.status, updatedAt := product'.updatedAt }

/-- The product that an operation is going to write. -/
inductive Prepared (env : ProductEnv) (call : ProductCall) (store : ProductStore) :
    Operation → Product → Prop
  | created {params : CreateProductParams} {product : Product} :
      product.ensurePricingIsConsistent env.rounded env.decimal = .ok () →
      product.id = call.productId → product.tenantId = params.tenantId →
      product.status = .active → product.productName.value = trim params.productName →
      ProductRepository.existsByName env store product.productName params.tenantId = false →
      Prepared env call store (.createProduct params) product
  | updated {params : UpdateProductParams} {row : ProductRow} {loaded product : Product} :
      row ∈ store.products → row.id = params.id ∧ row.tenantId = params.tenantId →
      row.status ≠ .deleted → ReadFrom row loaded →
      product.ensurePricingIsConsistent env.rounded env.decimal = .ok () →
      product.id = loaded.id → product.tenantId = loaded.tenantId →
      product.productName.value = trim ((truthy params.productName).getD loaded.productName.value) →
      product.status ≠ .deleted →
      Prepared env call store (.updateProduct params) product
  | deleted {params : DeleteProductParams} {row : ProductRow} {loaded product : Product} :
      row ∈ store.products → row.id = params.id ∧ row.tenantId = params.tenantId →
      row.status ≠ .deleted → ReadFrom row loaded →
      product.status = .deleted →
      product = { loaded with
        status := product.status
        updatedAt := product.updatedAt
        domainEvents := product.domainEvents } →
      Prepared env call store (.deleteProduct params) product

variable {env : ProductEnv} {call : ProductCall} {store store' : ProductStore}
  {operation : Operation} {product product' loaded : Product} {now : Instant} {id tenantId : Uuid}

theorem activate_ok (h : product.activate now = .ok product') :
    SameButStatus product product' ∧ product'.status = .active := by
  obtain ⟨u, -, h⟩ := bind_eq_ok.mp h
  split_ifs at h
  obtain ⟨status, htransition, h⟩ := bind_eq_ok.mp h
  obtain rfl := Except.ok.inj h
  exact ⟨rfl, EntityStatus.eq_of_transitionTo htransition⟩

theorem deactivate_ok (h : product.deactivate now = .ok product') :
    SameButStatus product product' ∧ product'.status = .inactive := by
  obtain ⟨u, -, h⟩ := bind_eq_ok.mp h
  split_ifs at h
  obtain ⟨status, htransition, h⟩ := bind_eq_ok.mp h
  obtain rfl := Except.ok.inj h
  exact ⟨rfl, EntityStatus.eq_of_transitionTo htransition⟩

/-- `changeStatus` never deletes: asked for `DELETED`, it changes nothing. -/
theorem changeStatus_ok {next : EntityStatus} (hnot : product.status ≠ .deleted)
    (h : product.changeStatus next now = .ok product') :
    SameButStatus product product' ∧ product'.status ≠ .deleted := by
  cases next with
  | active =>
    obtain ⟨hsame, hstatus⟩ := activate_ok h
    exact ⟨hsame, by rw [hstatus]; decide⟩
  | inactive =>
    obtain ⟨hsame, hstatus⟩ := deactivate_ok h
    exact ⟨hsame, by rw [hstatus]; decide⟩
  | archived =>
    obtain ⟨status, -, rfl⟩ := map_eq_ok.mp h
    exact ⟨rfl, hnot⟩
  | deleted =>
    obtain ⟨status, -, rfl⟩ := map_eq_ok.mp h
    exact ⟨rfl, hnot⟩

theorem changeStatus_ok' {status : Option EntityStatus} {before : EntityStatus}
    (hnot : product.status ≠ .deleted)
    (h : UpdateProduct.changeStatus now status before product = .ok product') :
    SameButStatus product product' ∧ product'.status ≠ .deleted := by
  unfold UpdateProduct.changeStatus at h
  split at h
  · split_ifs at h
    · exact changeStatus_ok hnot h
    · obtain rfl := Except.ok.inj h
      exact ⟨rfl, hnot⟩
  · obtain rfl := Except.ok.inj h
    exact ⟨rfl, hnot⟩

theorem name_of_create {raw : JsString} {name : ProductName}
    (h : ProductName.create raw = .ok name) :
    name.value = trim raw := by
  simp only [ProductName.create] at h
  split_ifs at h
  rw [← Except.ok.inj h]

theorem perform_ok {params : UpdateProductParams}
    (h : UpdateProduct.perform env call params product = .ok product') :
    product.status ≠ .deleted ∧
      product'.ensurePricingIsConsistent env.rounded env.decimal = .ok () ∧
      product'.id = product.id ∧ product'.tenantId = product.tenantId ∧
      product'.productName.value =
        trim ((truthy params.productName).getD product.productName.value) ∧
      product'.status ≠ .deleted := by
  unfold UpdateProduct.perform at h
  split_ifs at h
  obtain ⟨changes, hmerge, h⟩ := bind_eq_ok.mp h
  obtain ⟨updated, hupdate, h⟩ := bind_eq_ok.mp h
  obtain ⟨hnot, hpricing, hupdated⟩ := Product.update_ok hupdate
  have hnot' : updated.status ≠ .deleted := by
    rw [hupdated]
    exact hnot
  obtain ⟨hsame, hstatus⟩ := changeStatus_ok' hnot' h
  obtain ⟨name, hname, hmerge⟩ := bind_eq_ok.mp hmerge
  have hchanges : changes.productName = name := by
    obtain ⟨price, -, hmerge⟩ := bind_eq_ok.mp hmerge
    obtain ⟨cost, -, hmerge⟩ := bind_eq_ok.mp hmerge
    obtain ⟨margin, -, hmerge⟩ := bind_eq_ok.mp hmerge
    rw [← Except.ok.inj hmerge]
  unfold SameButStatus at hsame
  refine ⟨hnot, ?_, ?_, ?_, ?_, hstatus⟩
  · rw [hsame]
    exact hpricing
  · rw [hsame, hupdated]
  · rw [hsame, hupdated]
  · rw [hsame, hupdated]
    show changes.productName.value = _
    rw [hchanges]
    exact name_of_create hname

theorem delete_ok {deletedBy : Uuid} (h : product.delete deletedBy now = .ok product') :
    product'.status = .deleted ∧
      product' = { product with
        status := product'.status
        updatedAt := product'.updatedAt
        domainEvents := product'.domainEvents } := by
  obtain ⟨u, -, h⟩ := bind_eq_ok.mp h
  obtain ⟨status, htransition, h⟩ := bind_eq_ok.mp h
  obtain rfl := Except.ok.inj h
  exact ⟨EntityStatus.eq_of_transitionTo htransition, rfl⟩

theorem loadProduct_ok (h : loadProduct env store id tenantId = .ok product) :
    ∃ row ∈ store.products, (row.id = id ∧ row.tenantId = tenantId) ∧ row.status ≠ .deleted ∧
      ReadFrom row product := by
  obtain ⟨found, hfind, h⟩ := bind_eq_ok.mp h
  cases found with
  | none => cases h
  | some found =>
    obtain rfl := Except.ok.inj h
    obtain ⟨row, hrow, hid, htenant, hstatus, hread⟩ := ProductRepository.findById_eq_some hfind
    exact ⟨row, hrow, ⟨hid, htenant⟩, hstatus, hread⟩

/-- What `UpdateProduct` loads. -/
theorem loadProduct_of_load {params : UpdateProductParams} {loaded : Product}
    (h : UpdateProduct.load env call store params = .ok loaded) :
    loadProduct env store params.id params.tenantId = .ok loaded := by
  unfold UpdateProduct.load at h
  split_ifs at h
  obtain ⟨found, hfound, h⟩ := bind_eq_ok.mp h
  split at h
  · rw [hfound, ← Except.ok.inj h]
  · split_ifs at h
    rw [hfound, ← Except.ok.inj h]

/-- What is prepared, and that reading changes no row. -/
theorem prepared_of_prepare {result : Except ProductException Product}
    (h : operation.prepare env call store = (result, store')) :
    store'.products = store.products ∧
      ∀ product, result = .ok product → Prepared env call store operation product := by
  cases operation with
  | createProduct params =>
    have h : CreateProduct.prepare env call store params = (result, store') := h
    unfold CreateProduct.prepare at h
    split_ifs at h
    · obtain ⟨rfl, rfl⟩ := Prod.mk.inj h
      exact ⟨rfl, fun product h => by cases h⟩
    · obtain ⟨rfl, rfl⟩ := Prod.mk.inj h
      exact ⟨rfl, fun product h => by cases h⟩
    · split at h
      · obtain ⟨rfl, rfl⟩ := Prod.mk.inj h
        exact ⟨rfl, fun product h => by cases h⟩
      · rename_i name hname
        split_ifs at h with hexists
        · obtain ⟨rfl, rfl⟩ := Prod.mk.inj h
          exact ⟨rfl, fun product h => by cases h⟩
        · obtain ⟨rfl, rfl⟩ := Prod.mk.inj h
          refine ⟨rfl, fun product hproduct => ?_⟩
          obtain ⟨price, -, hproduct⟩ := bind_eq_ok.mp hproduct
          obtain ⟨cost, -, hproduct⟩ := bind_eq_ok.mp hproduct
          obtain ⟨hpricing, hid, htenant, hname', -, -, -, hstatus⟩ := Product.create_ok hproduct
          refine .created hpricing hid htenant hstatus ?_ ?_
          · rw [hname']
            exact name_of_create hname
          · rw [hname']
            exact Bool.eq_false_of_not_eq_true hexists
  | updateProduct params =>
    obtain ⟨rfl, rfl⟩ := Prod.mk.inj h
    refine ⟨rfl, fun product hproduct => ?_⟩
    obtain ⟨loaded, hload, hperform⟩ := bind_eq_ok.mp hproduct
    obtain ⟨row, hrow, hid, hstatus, hread⟩ := loadProduct_ok (loadProduct_of_load hload)
    obtain ⟨-, hpricing, hid', htenant, hname, hnot⟩ := perform_ok hperform
    exact .updated hrow hid hstatus hread hpricing hid' htenant hname hnot
  | deleteProduct params =>
    obtain ⟨rfl, rfl⟩ := Prod.mk.inj h
    refine ⟨rfl, fun product hproduct => ?_⟩
    unfold DeleteProduct.prepare at hproduct
    split_ifs at hproduct
    obtain ⟨loaded, hload, hdelete⟩ := bind_eq_ok.mp hproduct
    obtain ⟨row, hrow, hid, hstatus, hread⟩ := loadProduct_ok hload
    obtain ⟨hdeleted, hproduct⟩ := delete_ok hdelete
    exact .deleted hrow hid hstatus hread hdeleted hproduct

end KomiSaas.Products
