import KomiSaas.Categories.Category
import KomiSaas.Products.UseCases

/-!
# Searching the categories

`ProductCategoryRepositoryImpl.search` (`product-category.repository.impl.ts`,
lines 110–186) and `SearchCategoriesUseCase`.

The text of the search goes into the pattern as it is written. It is looked for
literally exactly where it has none of `%`, `_` and `\` (`category_text_literal_iff`);
the searches of products and branches escape it.
-/

namespace KomiSaas.Categories

open KomiSaas.Lib KomiSaas.Shared
open KomiSaas.Products (ProductRow)

/-- `SearchCategoriesFilters`. -/
structure SearchCategoriesFilters where
  tenantId : Uuid
  text : Option JsString
  id : Option Uuid
  isActive : Option Bool
  createdAt : Option JsString
  updatedAt : Option JsString
  deriving DecidableEq

/-- A category as the listing shows it. -/
structure CategoryListItem where
  category : ProductCategory
  productCount : ℕ
  deriving DecidableEq

namespace ProductCategoryRepository

/-- The condition on name and description (lines 133–137). -/
def textMatches (env : CategoryEnv) (text : JsString) (row : CategoryRow) : Bool :=
  likeLower env.lower row.name (between text) ||
    row.description.any fun description => likeLower env.lower description (between text)

/-- The `WHERE` of `search` (lines 123–158). -/
def found (env : CategoryEnv) (filters : SearchCategoriesFilters) (row : CategoryRow) : Bool :=
  row.tenantId = filters.tenantId &&
    (truthy filters.id).all (row.id = ·) &&
    (truthy filters.text).all (textMatches env · row) &&
    filters.isActive.all (row.isActive = ·) &&
    (truthy filters.createdAt).all (env.date row.createdAt = ·) &&
    (truthy filters.updatedAt).all (env.date row.updatedAt = ·)

/-- `product_count` (lines 118–121). -/
def productCount (products : List ProductRow) (tenantId : Uuid) (row : CategoryRow) : ℕ :=
  products.countP fun product =>
    product.productCategoryId = row.id && product.tenantId = tenantId

/-- `search`: the newest first. -/
def search (env : CategoryEnv) (categories : List CategoryRow) (products : List ProductRow)
    (filters : SearchCategoriesFilters) (pagination : Pagination) :
    Except CategoryException (Paginated CategoryListItem) := do
  let page := pagination.of (fun row => OrderDual.toDual row.createdAt)
    (categories.filter (found env filters))
  let rows ← page.rows.mapM fun row => do
    let category ← ProductCategoryMapper.toDomain row
    .ok ⟨category, productCount products filters.tenantId row⟩
  .ok
    { rows := rows
      pageNumber := page.pageNumber
      pageSize := page.pageSize
      total := page.total }

end ProductCategoryRepository

/-- `search-categories.use-case.ts`, lines 18–46. -/
def SearchCategories.execute (env : CategoryEnv) (tenantExists : Uuid → Bool)
    (categories : List CategoryRow) (products : List ProductRow)
    (filters : SearchCategoriesFilters) (pagination : Pagination) :
    Except CategoryException (Paginated CategoryListItem) :=
  if filters.tenantId = [] then .error .tenantIdRequiredForSearch
  else if !tenantExists filters.tenantId then .error (.tenantNotFound filters.tenantId)
  else ProductCategoryRepository.search env categories products filters pagination

/-! ## Looking for a text -/

variable {env : CategoryEnv} {f : ℕ → ℕ} {text : JsString}

/-- The name or the description contains the text, up to case. -/
def contains (env : CategoryEnv) (text : JsString) (row : CategoryRow) : Prop :=
  characters (env.lower text) <:+: characters (env.lower row.name) ∨
    ∃ description ∈ row.description,
      characters (env.lower text) <:+: characters (env.lower description)

/-- Every category whose text can be stored. -/
def Storable (row : CategoryRow) : Prop :=
  (∃ name : CategoryName, name.value = row.name) ∧ WellFormed row.name ∧
    ∀ description ∈ row.description, WellFormed description

/-- A category with a plain name and a description. -/
def sampleRow (description : Option JsString) : CategoryRow where
  id := js "20000000-0000-4000-8000-000000000001"
  tenantId := js "10000000-0000-4000-8000-000000000001"
  name := js "Bebidas"
  description := description
  isActive := true
  createdAt := 1000
  updatedAt := 1000

/-- Every category of a business with a text. -/
def sampleFilters (text : Option JsString) : SearchCategoriesFilters where
  tenantId := js "10000000-0000-4000-8000-000000000001"
  text := text
  id := none
  isActive := none
  createdAt := none
  updatedAt := none

theorem storable_sampleRow {description : Option JsString}
    (h : ∀ text ∈ description, WellFormed text) : Storable (sampleRow description) := by
  have hwell : WellFormed (js "Bebidas") := by decide
  exact ⟨⟨⟨js "Bebidas", by decide, by decide, by decide⟩, rfl⟩, hwell, h⟩

/-- A plain text finds what contains it. -/
theorem textMatches_iff (hlower : ByCharacter env.lower f)
    (hplain : Like.Plain sqlSpecials (characters text)) {row : CategoryRow} :
    ProductCategoryRepository.textMatches env text row = true ↔ contains env text row := by
  rw [ProductCategoryRepository.textMatches, Bool.or_eq_true, likeLower_of_plain hlower hplain,
    contains]
  refine or_congr_right ?_
  cases row.description with
  | none => simp
  | some description =>
    rw [Option.any_some, likeLower_of_plain hlower hplain]
    simp

/-- A text with one of the three characters is not in a plain name. -/
theorem not_contained_of_plain (hlower : ByCharacter env.lower f) {name : JsString}
    (hname : Like.Plain sqlSpecials (characters name))
    (hplain : ¬ Like.Plain sqlSpecials (characters text)) :
    ¬ characters (env.lower text) <:+: characters (env.lower name) := by
  intro hsub
  rw [hlower.map, hlower.map] at hsub
  exact hplain (hlower.plain_iff.mp fun c hc =>
    hlower.plain_iff.mpr hname c (hsub.subset hc))

/-- The text of a search is one condition among the others. -/
theorem found_iff {filters : SearchCategoriesFilters} {row : CategoryRow} :
    ProductCategoryRepository.found env filters row = true ↔
      ProductCategoryRepository.found env { filters with text := none } row = true ∧
        ∀ text ∈ truthy filters.text,
          ProductCategoryRepository.textMatches env text row = true := by
  have hall : (truthy filters.text).all
      (ProductCategoryRepository.textMatches env · row) = true ↔ ∀ text ∈ truthy filters.text,
        ProductCategoryRepository.textMatches env text row = true := by
    cases truthy filters.text with
    | none => simp
    | some text => simp
  rw [← hall]
  simp only [ProductCategoryRepository.found, Bool.and_eq_true]
  have hnone : (truthy none).all (ProductCategoryRepository.textMatches env · row) = true := rfl
  rw [hnone]
  tauto

/-- For every business and every table: a search of the categories finds, among those
    that meet its other filters, the ones whose name or description contains the
    text up to case, exactly where the text has none of `%`, `_` and `\`. -/
theorem category_text_literal_iff (hlower : ByCharacter env.lower f) (hwell : WellFormed text) :
    (∀ filters : SearchCategoriesFilters, filters.text = some text → ∀ row, Storable row →
      (ProductCategoryRepository.found env filters row = true ↔
        ProductCategoryRepository.found env { filters with text := none } row = true ∧
          contains env text row)) ↔
      Like.Plain sqlSpecials (characters text) := by
  constructor
  · intro hliteral
    by_contra hplain
    obtain ⟨description, hdescription, hmatch, hnot⟩ :=
      exists_likeLower_of_not_plain hlower hwell hplain
    have hstorable : Storable (sampleRow (some description)) :=
      storable_sampleRow fun _ h => Option.some.inj h ▸ hdescription
    have hfound : ProductCategoryRepository.found env (sampleFilters (some text))
        (sampleRow (some description)) = true := by
      refine found_iff.mpr ⟨by simp [ProductCategoryRepository.found, sampleFilters, sampleRow,
        truthy], fun sent hsent => ?_⟩
      obtain rfl := Option.some.inj (Option.filter_eq_some_iff.mp hsent).1
      exact Bool.or_eq_true_iff.mpr (.inr hmatch)
    obtain ⟨-, hname | ⟨sent, hsent, hcontains⟩⟩ :=
      (hliteral (sampleFilters (some text)) rfl _ hstorable).mp hfound
    · exact @not_contained_of_plain _ _ _ hlower (js "Bebidas") (by decide) hplain hname
    · obtain rfl := Option.some.inj hsent
      exact hnot hcontains
  · intro hplain filters htext row _
    rw [found_iff, htext]
    refine and_congr_right fun _ => ?_
    by_cases hempty : text = []
    · rw [hempty]
      refine iff_of_true (fun sent hsent => by cases hsent) (.inl ?_)
      rw [hlower.map]
      exact List.nil_infix
    · have htruthy : truthy (some text) = some text :=
        Option.filter_eq_some_iff.mpr ⟨rfl, decide_eq_true hempty⟩
      rw [htruthy, ← textMatches_iff hlower hplain]
      refine ⟨fun h => h text rfl, fun h sent hsent => ?_⟩
      rwa [← Option.some.inj hsent]

/-- Lower case of plain texts. -/
def searchEnv : CategoryEnv where
  lower := toLowerCase
  date _ := js "2026-01-01"

/-- Looking for "50%" also finds a category without that text. -/
theorem category_text_literal_iff_percent :
    ¬ ∀ filters : SearchCategoriesFilters, filters.text = some (js "50%") → ∀ row, Storable row →
      (ProductCategoryRepository.found searchEnv filters row = true ↔
        ProductCategoryRepository.found searchEnv { filters with text := none } row = true ∧
          contains searchEnv (js "50%") row) :=
  (@category_text_literal_iff searchEnv _ _ byCharacter_toLowerCase (by decide)).not.mpr (by decide)

end KomiSaas.Categories
