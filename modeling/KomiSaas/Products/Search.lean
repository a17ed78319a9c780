import KomiSaas.Products.Identity
import KomiSaas.Categories.Category

/-!
# Searching the products

`ProductRepositoryImpl.search` (`product.repository.impl.ts`, lines 108–195) and
`SearchProductsUseCase` (`search-product.use-case.ts`).

The rows are ordered by their date and their id, so that a page does not depend on
the order in which the database reads the table (`product_pages_partition`). Read
one after the other while other requests run, the pages miss no product that keeps
matching (`product_pages_cover`). The text is escaped and looked for literally
(`product_text_literal`).
-/

namespace KomiSaas.Products

open KomiSaas.Lib KomiSaas.Shared
open KomiSaas.Categories (CategoryRow)

/-- `SearchProductsFilters`. -/
structure SearchProductsFilters where
  tenantId : Uuid
  productId : Option Uuid
  text : Option JsString
  productCategoryId : Option Uuid
  status : Option EntityStatus
  deriving DecidableEq

/-- `ProductResponse`; the name of the category comes from the use case. -/
structure ProductResponse where
  id : Uuid
  sku : JsString
  name : JsString
  categoryId : Uuid
  categoryName : Option JsString
  description : Option JsString
  imageUrl : Option JsString
  price : JsString
  cost : JsString
  currency : JsString
  targetMargin : JsString
  status : EntityStatus
  createdAt : Instant
  updatedAt : Instant
  deriving DecidableEq

/-- `ProductMapper.toResponse`. -/
def ProductMapper.toResponse (decimal : DecimalJs) (row : ProductRow) : ProductResponse where
  id := row.id
  sku := row.sku
  name := row.name
  categoryId := row.productCategoryId
  categoryName := none
  description := row.description
  imageUrl := row.imageUrl
  price := decimal.toFixed2 (row.basePrice / 10 ^ 2)
  cost := decimal.toFixed2 (row.cost / 10 ^ 2)
  currency := js "COP"
  targetMargin := decimal.toFixed2 (row.profitMargin / 10 ^ 2)
  status := row.status
  createdAt := row.createdAt
  updatedAt := row.updatedAt

/-- `VISIBLE_ENTITY_STATUSES`. -/
def visibleStatuses : List EntityStatus := [.active, .inactive]

namespace ProductRepository

/-- `escapeLike` (lines 285–287). -/
def escapeLike (text : JsString) : JsString := Shared.escapeLike text

/-- The text that is looked for, if there is one (line 131). -/
def searched (filters : SearchProductsFilters) : Option JsString :=
  truthy (filters.text.map trim)

/-- The condition on name and SKU (lines 135–141). -/
def textMatches (env : ProductEnv) (text : JsString) (row : ProductRow) : Bool :=
  likeLower env.lower row.name (between (escapeLike text)) ||
    likeLower env.lower row.sku (between (escapeLike text))

/-- The condition on the status (lines 171–177). -/
def statusMatches (status : Option EntityStatus) (row : ProductRow) : Bool :=
  match status with
  | some status => row.status = status
  | none => row.status ∈ visibleStatuses

/-- The `WHERE` of `search`. -/
def found (env : ProductEnv) (filters : SearchProductsFilters) (row : ProductRow) : Bool :=
  row.tenantId = filters.tenantId &&
    (truthy filters.productId).all (row.id = ·) &&
    (searched filters).all (textMatches env · row) &&
    (truthy filters.productCategoryId).all (row.productCategoryId = ·) &&
    statusMatches filters.status row

/-- `ORDER BY createdAt DESC, id DESC` (lines 183–185). -/
def newest (row : ProductRow) : Lex (ℤᵒᵈ × (List ℕ)ᵒᵈ) :=
  toLex (OrderDual.toDual row.createdAt, OrderDual.toDual (row.id.map UInt16.toNat))

/-- `search`, over the rows of the table as the database reads them. -/
def search (env : ProductEnv) (products : List ProductRow) (filters : SearchProductsFilters)
    (pagination : Pagination) : Paginated ProductResponse :=
  let page := pagination.of newest (products.filter (found env filters))
  { rows := page.rows.map (ProductMapper.toResponse env.decimal)
    pageNumber := page.pageNumber
    pageSize := page.pageSize
    total := page.total }

end ProductRepository

/-- `ProductCategoryProviderAdapter.get`. -/
def ProductCategoryProviderAdapter.get (categories : List CategoryRow)
    (tenantId productCategoryId : Uuid) : Option JsString :=
  (categories.find? fun row => row.id = productCategoryId && row.tenantId = tenantId).map (·.name)

/-- Why a search is refused. -/
inductive SearchException where
  | tenantIdRequiredForSearch
  | tenantNotFound (tenantId : Uuid)
  deriving DecidableEq

/-- The response with the name of its category (lines 57–68). -/
def SearchProducts.withCategory (categories : List CategoryRow) (tenantId : Uuid)
    (product : ProductResponse) : ProductResponse :=
  let categoryName :=
    (ProductCategoryProviderAdapter.get categories tenantId product.categoryId).getD []
  { product with categoryName := some categoryName }

/-- `search-product.use-case.ts`, lines 36–69. -/
def SearchProducts.execute (env : ProductEnv) (tenantExists : Uuid → Bool)
    (categories : List CategoryRow) (products : List ProductRow) (filters : SearchProductsFilters)
    (pagination : Pagination) : Except SearchException (Paginated ProductResponse) :=
  if filters.tenantId = [] then .error .tenantIdRequiredForSearch
  else if !tenantExists filters.tenantId then .error (.tenantNotFound filters.tenantId)
  else
    let page := ProductRepository.search env products filters pagination
    .ok
      { page with rows := page.rows.map (SearchProducts.withCategory categories filters.tenantId) }

/-! ## The order of the rows -/

namespace ProductRepository

variable {env : ProductEnv} {filters : SearchProductsFilters} {products products' : List ProductRow}
  {row : ProductRow} {pagination : Pagination} {n : ℕ} {f : ℕ → ℕ}

theorem toNat_map_injective : Function.Injective fun id : Uuid => id.map UInt16.toNat :=
  List.map_injective_iff.mpr fun _ _ h => UInt16.toNat_inj.mp h

theorem newest_eq_iff {other : ProductRow} :
    newest row = newest other ↔ row.createdAt = other.createdAt ∧ row.id = other.id := by
  rw [newest, newest, toLex_inj, Prod.mk.injEq, OrderDual.toDual_inj, OrderDual.toDual_inj]
  exact and_congr_right fun _ => toNat_map_injective.eq_iff

/-- Products with different ids have a place of their own in the order. -/
theorem nodup_newest (hids : (products.map (·.id)).Nodup) :
    ((products.filter (found env filters)).map newest).Nodup := by
  refine List.Nodup.map_on (fun row hrow other hother heq => ?_) (hids.of_map.filter _)
  exact List.inj_on_of_nodup_map hids (List.mem_filter.mp hrow).1 (List.mem_filter.mp hother).1
    (newest_eq_iff.mp heq).2

/-- A page does not depend on the order in which the table is read. -/
theorem search_perm (hids : (products.map (·.id)).Nodup) (h : products.Perm products') :
    search env products filters pagination = search env products' filters pagination := by
  rw [search, search, Pagination.of, Pagination.of,
    Paging.orderBy_perm (nodup_newest hids) (h.filter _), (h.filter _).length_eq]

/-- The pages of one table, one after the other. -/
theorem flatMap_search
    (h : (products.filter (found env filters)).length ≤ n * pagination.pageSize) :
    (List.range n).flatMap (fun i => (search env products filters (pagination.at i)).rows) =
      (Paging.orderBy newest (products.filter (found env filters))).map
        (ProductMapper.toResponse env.decimal) := by
  have hpages := @Paging.flatMap_page _
    (Paging.orderBy newest (products.filter (found env filters))) n pagination.pageSize (by
      rwa [Paging.orderBy_perm_self.length_eq])
  conv_rhs => rw [← hpages]
  rw [List.map_flatMap]
  rfl

/-- The text of a search is one condition among the others. -/
theorem found_iff : found env filters row = true ↔
    found env { filters with text := none } row = true ∧
      ∀ text ∈ searched filters, textMatches env text row = true := by
  have hall : (searched filters).all (textMatches env · row) = true ↔
      ∀ text ∈ searched filters, textMatches env text row = true := by
    cases searched filters with
    | none => simp
    | some text => simp
  have hnone : (searched { filters with text := none }).all (textMatches env · row) = true := rfl
  rw [← hall, found, found, hnone]
  simp only [Bool.and_eq_true]
  tauto

end ProductRepository

open ProductRepository

/-! ## Pages -/

variable {env : ProductEnv} {filters : SearchProductsFilters} {pagination : Pagination} {n : ℕ}
  {tenantExists : Uuid → Bool} {categories : List CategoryRow}

/-- What a search returns. -/
theorem SearchProducts.execute_ok {products : List ProductRow} {page : Paginated ProductResponse}
    (h : SearchProducts.execute env tenantExists categories products filters pagination =
      .ok page) :
    page.rows = (search env products filters pagination).rows.map
        (SearchProducts.withCategory categories filters.tenantId) ∧
      page.total = (products.filter (found env filters)).length := by
  unfold SearchProducts.execute at h
  split_ifs at h
  rw [← Except.ok.inj h]
  exact ⟨rfl, rfl⟩

namespace Interleaving

open Lib.Flights

variable {tr : List ProductTransition} {s s' : ProductState}

/-- For every table that requests can leave, and however the database reads it each
    time: the pages of a search, enough of them for its total, are the products that
    match, each of them once, the newest first. -/
theorem product_pages_partition
    (hrun : Run (next (products env)) (State.quiet emptyStore) tr s)
    {tables : ℕ → List ProductRow} (htables : ∀ i < n, (tables i).Perm s.store.products)
    {pages : ℕ → Paginated ProductResponse}
    (hpages : ∀ i < n, SearchProducts.execute env tenantExists categories (tables i) filters
      (pagination.at i) = .ok (pages i))
    (hall : ∀ i < n, (pages i).total ≤ n * pagination.pageSize) :
    (∀ i < n, (pages i).total = (s.store.products.filter (found env filters)).length) ∧
      (0 < n → ∃ rows : List ProductRow, rows.Perm (s.store.products.filter (found env filters)) ∧
        rows.Pairwise (fun row other => newest row < newest other) ∧
        (List.range n).flatMap (fun i => (pages i).rows) = rows.map fun row =>
          SearchProducts.withCategory categories filters.tenantId
            (ProductMapper.toResponse env.decimal row)) := by
  have hids : (s.store.products.map (·.id)).Nodup := (ownState_of_run hrun).1.store.ids
  have hsearch : ∀ i < n, (pages i).total = (s.store.products.filter (found env filters)).length ∧
      (pages i).rows = (search env s.store.products filters (pagination.at i)).rows.map
        (SearchProducts.withCategory categories filters.tenantId) := by
    intro i hi
    obtain ⟨hrows, htotal⟩ := SearchProducts.execute_ok (hpages i hi)
    have hids' : ((tables i).map (·.id)).Nodup := ((htables i hi).map _).nodup_iff.mpr hids
    rw [hrows, htotal, search_perm hids' (htables i hi), ((htables i hi).filter _).length_eq]
    exact ⟨rfl, rfl⟩
  refine ⟨fun i hi => (hsearch i hi).1, fun hn => ?_⟩
  have hcover : (s.store.products.filter (found env filters)).length ≤ n * pagination.pageSize := by
    rw [← (hsearch 0 hn).1]
    exact hall 0 hn
  refine ⟨Paging.orderBy newest (s.store.products.filter (found env filters)),
    Paging.orderBy_perm_self, ?_, ?_⟩
  · have hnodup : ((Paging.orderBy newest (s.store.products.filter (found env filters))).map
        newest).Nodup := (Paging.orderBy_perm_self.map _).nodup_iff.mpr (nodup_newest hids)
    rw [List.Nodup, List.pairwise_map] at hnodup
    exact Paging.pairwise_orderBy.imp₂ (fun _ _ hle hne => lt_of_le_of_ne hle hne) hnodup
  · calc (List.range n).flatMap (fun i => (pages i).rows)
        = (List.range n).flatMap fun i =>
            (search env s.store.products filters (pagination.at i)).rows.map
              (SearchProducts.withCategory categories filters.tenantId) :=
          List.flatMap_congr fun i hi => (hsearch i (List.mem_range.mp hi)).2
      _ = ((Paging.orderBy newest (s.store.products.filter (found env filters))).map
            (ProductMapper.toResponse env.decimal)).map
              (SearchProducts.withCategory categories filters.tenantId) := by
          rw [← flatMap_search hcover, List.map_flatMap]
      _ = _ := List.map_map

/-- Everything of a business. -/
def sampleFilters (text : Option JsString) : SearchProductsFilters where
  tenantId := sampleTenantId
  productId := none
  text := text
  productCategoryId := none
  status := none

/-- The first page, one product a page. -/
def onePerPage : Pagination where
  pageNumber := 1
  pageSize := 1
  pageNumber_pos := le_refl 1
  pageSize_pos := le_refl 1
  pageSize_le := Nat.le_add_left 1 99

/-- The second of two products. -/
def secondProduct : List ProductAction :=
  [.read 2 (sampleCreate otherProductId (js "Empanada")), .write 2 true 2000]

/-- The first of them. -/
def firstProduct : List ProductAction :=
  [.read 1 (sampleCreate Product.sampleProductId (js "Arepa")), .write 1 true 1000]

theorem exists_page_of_sample {text : Option JsString} (products : List ProductRow)
    (categories : List CategoryRow) (pagination : Pagination) :
    ∃ page, SearchProducts.execute sampleEnv (fun _ => true) categories products
      (sampleFilters text) pagination = .ok page := ⟨_, rfl⟩

/-- Two products on two pages, the second one read from the rows the other way
    round. -/
theorem product_pages_partition_two :
    ∃ tr s, ∃ pages : ℕ → Paginated ProductResponse,
      exec (next (products sampleEnv)) (State.quiet emptyStore) (firstProduct ++ secondProduct) =
          some (tr, s) ∧ s.store.products.length = 2 ∧
        (∀ i < 2, (pages i).total =
          (s.store.products.filter (found sampleEnv (sampleFilters none))).length) ∧
        (0 < 2 → ∃ rows : List ProductRow,
          rows.Perm (s.store.products.filter (found sampleEnv (sampleFilters none))) ∧
            rows.Pairwise (fun row other => newest row < newest other) ∧
            (List.range 2).flatMap (fun i => (pages i).rows) = rows.map fun row =>
              SearchProducts.withCategory [] sampleTenantId
                (ProductMapper.toResponse sampleEnv.decimal row)) := by
  obtain ⟨tr, s, hexec, hlength⟩ :
      ∃ tr s, exec (next (products sampleEnv)) (State.quiet emptyStore)
          (firstProduct ++ secondProduct) = some (tr, s) ∧ s.store.products.length = 2 :=
    exists_of_any_exec (by decide +kernel)
  let tables : ℕ → List ProductRow := fun i =>
    if i = 0 then s.store.products else s.store.products.reverse
  have htables : ∀ i < 2, (tables i).Perm s.store.products := by
    intro i _
    by_cases hi : i = 0
    · rw [show tables i = s.store.products from if_pos hi]
    · rw [show tables i = s.store.products.reverse from if_neg hi]
      exact List.reverse_perm _
  choose pages hpages using
    fun i => @exists_page_of_sample none (tables i) [] (onePerPage.at i)
  have hall : ∀ i < 2, (pages i).total ≤ 2 * onePerPage.pageSize := by
    intro i hi
    rw [(SearchProducts.execute_ok (hpages i)).2]
    exact (List.length_filter_le _ _).trans ((htables i hi).length_eq.trans hlength).le
  exact ⟨tr, s, pages, hexec, hlength,
    product_pages_partition (run_of_exec hexec) htables (fun i _ => hpages i) hall⟩

/-- For every run of the requests that goes on while the pages are read, each page from
    the table of its moment, until the total fits on the pages that were read: where no
    product that matches stops to match between two pages, every product that matched at
    the first page is on one of them. -/
theorem product_pages_cover
    {states : ℕ → ProductState} {transitions : ℕ → List ProductTransition}
    (hfirst : Run (next (products env)) (State.quiet emptyStore) tr (states 0))
    (hrest : ∀ i, i + 1 < n → Run (next (products env)) (states i) (transitions i) (states (i + 1)))
    {tables : ℕ → List ProductRow} (htables : ∀ i < n, (tables i).Perm (states i).store.products)
    {categories : ℕ → List CategoryRow} {pages : ℕ → Paginated ProductResponse}
    (hpages : ∀ i < n, SearchProducts.execute env tenantExists (categories i) (tables i) filters
      (pagination.at i) = .ok (pages i))
    (hn : 0 < n) (hlast : (pages (n - 1)).total ≤ n * pagination.pageSize)
    (hstays : ∀ i, i + 1 < n → ∀ row ∈ (states i).store.products, found env filters row = true →
      ∀ later ∈ (states (i + 1)).store.products, later.id = row.id →
        found env filters later = true)
    {row : ProductRow} (hrow : row ∈ (states 0).store.products)
    (hfound : found env filters row = true) :
    ∃ i < n, ∃ product ∈ (pages i).rows, product.id = row.id := by
  have hinv : ∀ i < n, OwnState (states i) := by
    intro i
    induction i with
    | zero => exact fun _ => (ownState_of_run hfirst).1
    | succ i ih => exact fun hi => (fixedColumns_of_run (hrest i hi) (ih (by omega))).1
  have hkeys : ∀ i < n, (((tables i).filter (found env filters)).map newest).Nodup :=
    fun i hi => nodup_newest (((htables i hi).map _).nodup_iff.mpr (hinv i hi).store.ids)
  have hgrow : ∀ i, i + 1 < n → ((tables i).filter (found env filters)).map newest ⊆
      ((tables (i + 1)).filter (found env filters)).map newest := by
    intro i hi key hkey
    obtain ⟨old, hold, rfl⟩ := List.mem_map.mp hkey
    obtain ⟨hold, hmatches⟩ := List.mem_filter.mp hold
    have hold := (htables i (by omega)).mem_iff.mp hold
    have hsub := (fixedColumns_of_run (hrest i hi) (hinv i (by omega))).2
    obtain ⟨later, hlater, heq⟩ := List.mem_map.mp (hsub (List.mem_map_of_mem hold))
    have hid : later.id = old.id := congrArg (·.1.1) heq
    refine List.mem_map.mpr ⟨later, List.mem_filter.mpr ⟨(htables (i + 1) hi).mem_iff.mpr hlater,
      hstays i hi old hold hmatches later hlater hid⟩, ?_⟩
    exact newest_eq_iff.mpr ⟨congrArg (·.2) heq, hid⟩
  obtain ⟨-, htotal⟩ := SearchProducts.execute_ok (hpages (n - 1) (by omega))
  obtain ⟨i, hi, r, hr, heq⟩ := Paging.exists_page_of_growing hkeys hgrow hn (htotal ▸ hlast)
    (List.mem_map_of_mem (List.mem_filter.mpr ⟨(htables 0 hn).mem_iff.mpr hrow, hfound⟩))
  obtain ⟨hrows, -⟩ := SearchProducts.execute_ok (hpages i hi)
  refine ⟨i, hi, SearchProducts.withCategory (categories i) filters.tenantId
    (ProductMapper.toResponse env.decimal r), ?_, (newest_eq_iff.mp heq).2⟩
  rw [hrows]
  exact List.mem_map_of_mem (List.mem_map_of_mem hr)

/-- The second product is written between the two pages, and stands on the first one
    by then: the first product is on both. -/
theorem product_pages_cover_between :
    ∃ tr s tr' s' row, ∃ pages : ℕ → Paginated ProductResponse,
      exec (next (products sampleEnv)) (State.quiet emptyStore) firstProduct = some (tr, s) ∧
        exec (next (products sampleEnv)) s secondProduct = some (tr', s') ∧
        row ∈ s.store.products ∧ s'.store.products.length = 2 ∧
        ∃ i < 2, ∃ product ∈ (pages i).rows, product.id = row.id := by
  obtain ⟨tr, s, hexec, hids, hrest⟩ :
      ∃ tr s, exec (next (products sampleEnv)) (State.quiet emptyStore) firstProduct =
          some (tr, s) ∧ s.store.products.map (·.id) = [Product.sampleProductId] ∧
        (exec (next (products sampleEnv)) s secondProduct).any (fun r =>
          decide (r.2.store.products.length = 2 ∧ (∀ row ∈ s.store.products ++ r.2.store.products,
            found sampleEnv (sampleFilters none) row = true))) = true :=
    exists_of_any_exec (by decide +kernel)
  obtain ⟨tr', s', hexec', hlength, hfound⟩ := @exists_of_any_exec _ _ _ _
    (fun _ (later : ProductState) => later.store.products.length = 2 ∧
      ∀ row ∈ s.store.products ++ later.store.products,
        found sampleEnv (sampleFilters none) row = true) _ _ hrest
  obtain ⟨row, hrow, -⟩ : ∃ row ∈ s.store.products, row.id = Product.sampleProductId :=
    List.mem_map.mp (hids ▸ List.mem_singleton_self _)
  let states : ℕ → ProductState := fun i => if i = 0 then s else s'
  have hstates : ∀ i, states (i + 1) = s' := fun i => if_neg (Nat.succ_ne_zero i)
  choose pages hpages using
    fun i => @exists_page_of_sample none (states i).store.products [] (onePerPage.at i)
  have hrest : ∀ i, i + 1 < 2 →
      Run (next (products sampleEnv)) (states i) tr' (states (i + 1)) := by
    intro i hi
    rw [hstates, show states i = s from if_pos (by omega)]
    exact run_of_exec hexec'
  have hlast : (pages (2 - 1)).total ≤ 2 * onePerPage.pageSize := by
    rw [(SearchProducts.execute_ok (hpages 1)).2, hstates 0]
    exact (List.length_filter_le _ _).trans hlength.le
  refine ⟨tr, s, tr', s', row, pages, hexec, hexec', hrow, hlength, ?_⟩
  refine product_pages_cover (run_of_exec hexec) hrest (fun _ _ => List.Perm.refl _)
    (fun i _ => hpages i) Nat.zero_lt_two hlast ?_ hrow (hfound row (List.mem_append_left _ hrow))
  intro i _ _ _ _ later hlater _
  rw [hstates] at hlater
  exact hfound later (List.mem_append_right _ hlater)

end Interleaving

/-! ## The text of a search -/

/-- For every text: a search of the products finds, among those that meet its other
    filters, the ones whose name or SKU contains the trimmed text up to case. -/
theorem product_text_literal {f : ℕ → ℕ} (hlower : ByCharacter env.lower f) (row : ProductRow) :
    found env filters row = true ↔
      found env { filters with text := none } row = true ∧ ∀ text ∈ filters.text,
        characters (env.lower (trim text)) <:+: characters (env.lower row.name) ∨
          characters (env.lower (trim text)) <:+: characters (env.lower row.sku) := by
  rw [found_iff]
  refine and_congr_right fun _ => ?_
  have hmatches : ∀ text, textMatches env text row = true ↔
      characters (env.lower text) <:+: characters (env.lower row.name) ∨
        characters (env.lower text) <:+: characters (env.lower row.sku) := by
    intro text
    rw [textMatches, Bool.or_eq_true]
    exact or_congr (likeLower_escaped hlower) (likeLower_escaped hlower)
  cases htext : filters.text with
  | none => simp [searched, htext, truthy]
  | some text =>
    by_cases hempty : trim text = []
    · refine iff_of_true (fun sent hsent => ?_) fun sent hsent => ?_
      · rw [searched, htext, Option.map_some, hempty] at hsent
        cases hsent
      · rw [← Option.some.inj hsent, hempty, hlower.map]
        exact .inl List.nil_infix
    · have hsearched : searched filters = some (trim text) := by
        rw [searched, htext]
        exact Option.filter_eq_some_iff.mpr ⟨rfl, decide_eq_true hempty⟩
      rw [hsearched]
      simp only [Option.mem_some_iff, forall_eq', hmatches]

/-- A product with "50%" in its name. -/
def sampleRow : ProductRow where
  id := Product.sampleProductId
  tenantId := Interleaving.sampleTenantId
  productCategoryId := js "20000000-0000-4000-8000-000000000001"
  name := js "Cacao 50%"
  description := none
  sku := js "PRO-000001"
  imageUrl := none
  profitMargin := 3000
  basePrice := 1000
  cost := 700
  status := .active
  createdAt := 1000
  updatedAt := 1000

/-- Looking for " 50% " finds it, and the text is in its name. -/
theorem product_text_literal_percent :
    found Interleaving.sampleEnv (Interleaving.sampleFilters (some (js " 50% "))) sampleRow = true ∧
      (found Interleaving.sampleEnv (Interleaving.sampleFilters none) sampleRow = true ∧
        ∀ text ∈ some (js " 50% "),
          characters (toLowerCase (trim text)) <:+: characters (toLowerCase sampleRow.name) ∨
            characters (toLowerCase (trim text)) <:+: characters (toLowerCase sampleRow.sku)) := by
  have hfound : found Interleaving.sampleEnv (Interleaving.sampleFilters (some (js " 50% ")))
      sampleRow = true := by
    decide +kernel
  exact ⟨hfound, (@product_text_literal Interleaving.sampleEnv
    (Interleaving.sampleFilters (some (js " 50% "))) _ byCharacter_toLowerCase sampleRow).mp hfound⟩

end KomiSaas.Products
