import KomiSaas.Lib.Mutator
import KomiSaas.Lib.Rows
import KomiSaas.Products.Product

/-!
# The recipe of a product

* `RecipeException`: `products/domain/recipe/exceptions/`.
* `RecipeIngredient`: `products/domain/recipe/recipe-ingredient.entity.ts`.
* `ProductAggregate`: `products/domain/product.aggregate.ts` with its ingredients,
  and the methods of lines 281–410.

`replaceRecipe` goes three times through lists: it looks for a repeated item,
changes or removes the ingredients of the recipe, and adds those that are new. The
second loop runs over a copy of the ingredients and removes from the list itself
by its first index with that item; the ingredient at hand is then the one after
those that were kept (`updateExisting_append`).

Result: `replaceRecipe_replaces`.
-/

namespace KomiSaas.Products

open KomiSaas.Lib KomiSaas.Shared

/-! ## Ingredients -/

inductive RecipeException where
  | duplicateIngredient (inventoryItemId : Uuid)
  | ingredientNotInRecipe (inventoryItemId : Uuid)
  | nonPositiveIngredientQuantity
  deriving DecidableEq

namespace RecipeException

/-- The `code` of each exception. -/
def code : RecipeException → JsString
  | .duplicateIngredient _ => js "1461"
  | .ingredientNotInRecipe _ => js "1462"
  | .nonPositiveIngredientQuantity => js "1464"

/-- The `detail` of each exception. -/
def detail : RecipeException → JsString
  | .duplicateIngredient inventoryItemId =>
    js "El ingrediente con inventoryItemId \"" ++ inventoryItemId ++
      js "\" ya se encuentra agregado a la receta."
  | .ingredientNotInRecipe inventoryItemId =>
    js "El ingrediente con inventoryItemId \"" ++ inventoryItemId ++
      js "\" no se encuentra en la receta."
  | .nonPositiveIngredientQuantity => js "La cantidad del ingrediente debe ser mayor que cero."

end RecipeException

/-- `RecipeIngredientPrimitives`. -/
structure RecipeIngredientPrimitives where
  id : Uuid
  inventoryItemId : Uuid
  quantity : JsString
  isOptional : Bool
  deriving DecidableEq

structure RecipeIngredient where
  id : Uuid
  inventoryItemId : Uuid
  quantity : Quantity
  isOptional : Bool
  deriving DecidableEq

/-- What `addIngredient` and each entry of `replaceRecipe` take. -/
structure RecipeEntry where
  inventoryItemId : Uuid
  quantity : Quantity
  isOptional : Bool
  deriving DecidableEq

namespace RecipeIngredient

/-- `create` (lines 25–40), with the id that `RecipeIngredientId.generate` returns. -/
def create (id : Uuid) (params : RecipeEntry) : Except RecipeException RecipeIngredient :=
  if params.quantity.isZero then .error .nonPositiveIngredientQuantity
  else .ok ⟨id, params.inventoryItemId, params.quantity, params.isOptional⟩

/-- `change` (lines 42–57): the ingredient that it leaves, also where it throws. -/
def change (ingredient : RecipeIngredient) (quantity : Option Quantity)
    (isOptional : Option Bool) : Except RecipeException Unit × RecipeIngredient :=
  match quantity with
  | none => (.ok (), { ingredient with isOptional := isOptional.getD ingredient.isOptional })
  | some quantity =>
    if quantity.isZero then (.error .nonPositiveIngredientQuantity, ingredient)
    else
      let ingredient := { ingredient with quantity := quantity }
      (.ok (), { ingredient with isOptional := isOptional.getD ingredient.isOptional })

theorem change_of_zero {ingredient : RecipeIngredient} {quantity : Quantity}
    {isOptional : Option Bool} (h : quantity.isZero = true) :
    ingredient.change (some quantity) isOptional =
      (.error .nonPositiveIngredientQuantity, ingredient) :=
  if_pos h

theorem change_of_pos {ingredient : RecipeIngredient} {quantity : Quantity}
    {isOptional : Option Bool} (h : quantity.isZero = false) :
    ingredient.change (some quantity) isOptional =
      (.ok (), { ingredient with
        quantity := quantity
        isOptional := isOptional.getD ingredient.isOptional }) :=
  if_neg fun hzero => by rw [h] at hzero; cases hzero

/-- `toPrimitives` (lines 71–78). -/
def toPrimitives (decimal : DecimalJs) (ingredient : RecipeIngredient) :
    RecipeIngredientPrimitives where
  id := ingredient.id
  inventoryItemId := ingredient.inventoryItemId
  quantity := ingredient.quantity.getValue decimal
  isOptional := ingredient.isOptional

end RecipeIngredient

/-! ## The aggregate -/

/-- A product with its recipe. -/
structure ProductAggregate where
  fields : Product
  ingredients : List RecipeIngredient
  deriving DecidableEq

/-- The exceptions of the methods of a product. -/
inductive AggregateException where
  | product (e : ProductException)
  | recipe (e : RecipeException)
  deriving DecidableEq

namespace ProductAggregate

/-- A method of a product. -/
abbrev Method := Mutator AggregateException ProductAggregate Unit

/-- `touch` (lines 119–121). -/
def touch (now : Instant) : Method :=
  modify fun product => { product with fields := product.fields.touch now }

/-- `addIngredient` (lines 281–299). -/
def addIngredient (newId : Uuid → Uuid) (params : RecipeEntry) (now : Instant) : Method := do
  let product ← get
  if product.ingredients.any fun ingredient =>
      ingredient.inventoryItemId = params.inventoryItemId then
    throw (.recipe (.duplicateIngredient params.inventoryItemId))
  else
    match RecipeIngredient.create (newId params.inventoryItemId) params with
    | .error e => throw (.recipe e)
    | .ok ingredient => do
      modify fun product => { product with ingredients := product.ingredients ++ [ingredient] }
      touch now

/-- `change` of the ingredient at a place of the list. -/
def changeAt (place : ℕ) (quantity : Option Quantity) (isOptional : Option Bool) : Method :=
  Mutator.of fun product =>
    match product.ingredients[place]? with
    | none => (.ok (), product)
    | some ingredient =>
      let (result, ingredient) := ingredient.change quantity isOptional
      (result.mapError .recipe,
        { product with ingredients := product.ingredients.set place ingredient })

/-- The place of the first ingredient of an item. -/
def placeOf (product : ProductAggregate) (inventoryItemId : Uuid) : Option ℕ :=
  product.ingredients.findIdx? fun ingredient => ingredient.inventoryItemId = inventoryItemId

/-- `changeIngredient` (lines 302–319). -/
def changeIngredient (inventoryItemId : Uuid) (quantity : Option Quantity)
    (isOptional : Option Bool) (now : Instant) : Method := do
  let product ← get
  match product.placeOf inventoryItemId with
  | none => throw (.recipe (.ingredientNotInRecipe inventoryItemId))
  | some place => do
    changeAt place quantity isOptional
    touch now

/-- `removeIngredient` (lines 322–336). -/
def removeIngredient (inventoryItemId : Uuid) (now : Instant) : Method := do
  let product ← get
  match product.placeOf inventoryItemId with
  | none => throw (.recipe (.ingredientNotInRecipe inventoryItemId))
  | some place => do
    modify fun product => { product with ingredients := product.ingredients.eraseIdx place }
    touch now

/-- The entry of the item of an ingredient (lines 366–371). -/
def incoming (entries : List RecipeEntry) (ingredient : RecipeIngredient) : Option RecipeEntry :=
  entries.find? fun entry => entry.inventoryItemId = ingredient.inventoryItemId

/-- The first loop of `replaceRecipe` (lines 353–362). -/
def ensureNoDuplicates (entries : List RecipeEntry) : Method :=
  match Rows.firstRepeated [] (entries.map (·.inventoryItemId)) with
  | some inventoryItemId => throw (.recipe (.duplicateIngredient inventoryItemId))
  | none => pure ()

/-- The second loop of `replaceRecipe` (lines 366–391) from one of its turns on:
    `kept` ingredients of the list come before the one at hand. -/
def updateExisting (entries : List RecipeEntry) (now : Instant) :
    List RecipeIngredient → ℕ → Method
  | [], _ => pure ()
  | current :: copy, kept =>
    match incoming entries current with
    | some entry => do
      changeAt kept (some entry.quantity) (some entry.isOptional)
      updateExisting entries now copy (kept + 1)
    | none => do
      removeIngredient current.inventoryItemId now
      updateExisting entries now copy kept

/-- The third loop of `replaceRecipe` (lines 395–408). -/
def addMissing (newId : Uuid → Uuid) (now : Instant) : List RecipeEntry → Method
  | [] => pure ()
  | entry :: entries => do
    let product ← get
    if product.ingredients.any fun ingredient =>
        ingredient.inventoryItemId = entry.inventoryItemId then
      addMissing newId now entries
    else do
      addIngredient newId entry now
      addMissing newId now entries

/-- `replaceRecipe` (lines 342–410). -/
def replaceRecipe (newId : Uuid → Uuid) (entries : List RecipeEntry) (now : Instant) : Method := do
  ensureNoDuplicates entries
  let product ← get
  updateExisting entries now product.ingredients 0
  addMissing newId now entries
  touch now

open Mutator

variable {newId : Uuid → Uuid} {now : Instant} {product : ProductAggregate}
  {entries rest : List RecipeEntry} {done copy left : List RecipeIngredient}

/-! ## One turn -/

/-- An ingredient with what an entry of its item says. -/
def changedTo (entry : RecipeEntry) (ingredient : RecipeIngredient) : RecipeIngredient :=
  { ingredient with quantity := entry.quantity, isOptional := entry.isOptional }

/-- What the second loop makes of an ingredient; `none` where it removes it. -/
def renewed (entries : List RecipeEntry) (ingredient : RecipeIngredient) :
    Option RecipeIngredient :=
  (incoming entries ingredient).map fun entry => changedTo entry ingredient

/-- The second loop throws at an ingredient: its entry has no quantity. -/
def Refused (entries : List RecipeEntry) (ingredient : RecipeIngredient) : Prop :=
  ∃ entry, incoming entries ingredient = some entry ∧ entry.quantity.isZero = true

/-- The ingredient that is added for an entry. -/
def added (newId : Uuid → Uuid) (entry : RecipeEntry) : RecipeIngredient :=
  ⟨newId entry.inventoryItemId, entry.inventoryItemId, entry.quantity, entry.isOptional⟩

/-- The recipe has no ingredient of the item of an entry. -/
def Missing (ingredients : List RecipeIngredient) (entry : RecipeEntry) : Prop :=
  entry.inventoryItemId ∉ ingredients.map (·.inventoryItemId)

instance (ingredients : List RecipeIngredient) : DecidablePred (Missing ingredients) :=
  fun _ => inferInstanceAs (Decidable (_ ∉ _))

/-- A product that was touched, or not, and now has these ingredients. -/
def withIngredients (product : ProductAggregate) (touched : Bool) (now : Instant)
    (ingredients : List RecipeIngredient) : ProductAggregate where
  fields := if touched then product.fields.touch now else product.fields
  ingredients := ingredients

theorem renewed_eq_some {ingredient : RecipeIngredient} {entry : RecipeEntry}
    (h : incoming entries ingredient = some entry) :
    renewed entries ingredient = some (changedTo entry ingredient) := by
  rw [renewed, h]
  rfl

theorem renewed_eq_none {ingredient : RecipeIngredient} (h : incoming entries ingredient = none) :
    renewed entries ingredient = none := by
  rw [renewed, h]
  rfl

theorem exec_changeAt {current : RecipeIngredient} {quantity : Option Quantity}
    {isOptional : Option Bool}
    (h : product.ingredients = done ++ current :: left) :
    exec (changeAt done.length quantity isOptional) product =
      ((current.change quantity isOptional).1.mapError .recipe,
        { product with
          ingredients := done ++ (current.change quantity isOptional).2 :: left }) := by
  have hget : product.ingredients[done.length]? = some current := by
    rw [h, List.getElem?_append_right le_rfl, Nat.sub_self]
    rfl
  unfold changeAt
  rw [exec_of]
  simp only [hget]
  rw [h, List.set_append_right _ _ le_rfl, Nat.sub_self, List.set_cons_zero]

theorem zero_of_not_refused {current : RecipeIngredient} {entry : RecipeEntry}
    (h : ¬ Refused entries current) (hincoming : incoming entries current = some entry) :
    entry.quantity.isZero = false := by
  rw [Bool.eq_false_iff]
  intro hzero
  exact h ⟨entry, hincoming, hzero⟩

theorem exec_changeAt_entry {current : RecipeIngredient} {entry : RecipeEntry}
    (h : product.ingredients = done ++ current :: left)
    (hquantity : entry.quantity.isZero = false) :
    exec (changeAt done.length (some entry.quantity) (some entry.isOptional)) product =
      (.ok (), { product with ingredients := done ++ changedTo entry current :: left }) := by
  rw [exec_changeAt h, RecipeIngredient.change_of_pos hquantity]
  rfl

theorem placeOf_eq {current : RecipeIngredient} {inventoryItemId : Uuid}
    (h : product.ingredients = done ++ current :: left)
    (hdone : ∀ ingredient ∈ done, ingredient.inventoryItemId ≠ inventoryItemId)
    (hcurrent : current.inventoryItemId = inventoryItemId) :
    product.placeOf inventoryItemId = some done.length := by
  have hnone : done.findIdx? (fun ingredient => ingredient.inventoryItemId = inventoryItemId) =
      none := by
    rw [List.findIdx?_eq_none_iff]
    intro ingredient hingredient
    exact decide_eq_false (hdone ingredient hingredient)
  unfold placeOf
  rw [h, List.findIdx?_append, hnone, List.findIdx?_cons, if_pos (decide_eq_true hcurrent)]
  show some (0 + done.length) = _
  rw [Nat.zero_add]

theorem exec_removeIngredient {current : RecipeIngredient}
    (h : product.ingredients = done ++ current :: left)
    (hdone : ∀ ingredient ∈ done, ingredient.inventoryItemId ≠ current.inventoryItemId) :
    exec (removeIngredient current.inventoryItemId now) product =
      (.ok (), product.withIngredients true now (done ++ left)) := by
  unfold removeIngredient
  rw [exec_bind_of_ok exec_get, placeOf_eq h hdone rfl]
  show exec (_ >>= fun _ => touch now) product = _
  rw [exec_bind_of_ok exec_modify]
  show (Except.ok (), _) = _
  rw [h, List.eraseIdx_append_of_length_le le_rfl, Nat.sub_self]
  rfl

theorem present_iff {ingredients : List RecipeIngredient} {inventoryItemId : Uuid} :
    (ingredients.any fun ingredient => ingredient.inventoryItemId = inventoryItemId) = true ↔
      inventoryItemId ∈ ingredients.map (·.inventoryItemId) := by
  rw [List.any_eq_true, List.mem_map]
  simp only [decide_eq_true_iff]

theorem exec_addIngredient {entry : RecipeEntry}
    (hnew : Missing product.ingredients entry) :
    exec (addIngredient newId entry now) product =
      if entry.quantity.isZero then (.error (.recipe .nonPositiveIngredientQuantity), product)
      else (.ok (), product.withIngredients true now
        (product.ingredients ++ [added newId entry])) := by
  unfold addIngredient
  rw [exec_bind_of_ok exec_get, if_neg (mt present_iff.mp hnew)]
  unfold RecipeIngredient.create
  split_ifs with hzero <;> rfl

theorem withIngredients_twice {ingredients ingredients' : List RecipeIngredient}
    {touched touched' : Bool} :
    (product.withIngredients touched now ingredients).withIngredients touched' now ingredients' =
      product.withIngredients (touched || touched') now ingredients' := by
  cases touched <;> cases touched' <;> rfl

/-- The second loop changes an ingredient that an entry is for. -/
theorem updateExisting_changed {current : RecipeIngredient} {entry : RecipeEntry}
    (hproduct : product.ingredients = done ++ current :: left)
    (hincoming : incoming entries current = some entry) (hzero : entry.quantity.isZero = false) :
    exec (updateExisting entries now (current :: copy) done.length) product =
      exec (updateExisting entries now copy (done.length + 1))
        { product with ingredients := done ++ changedTo entry current :: left } := by
  rw [updateExisting, hincoming]
  show exec (_ >>= fun _ => updateExisting entries now copy (done.length + 1)) _ = _
  rw [exec_bind_of_ok (exec_changeAt_entry hproduct hzero)]

/-- And it removes one that no entry is for. -/
theorem updateExisting_removed {current : RecipeIngredient}
    (hproduct : product.ingredients = done ++ current :: left)
    (hdone : ∀ ingredient ∈ done, ingredient.inventoryItemId ≠ current.inventoryItemId)
    (hincoming : incoming entries current = none) :
    exec (updateExisting entries now (current :: copy) done.length) product =
      exec (updateExisting entries now copy done.length)
        (product.withIngredients true now (done ++ left)) := by
  have hturn : exec (removeIngredient current.inventoryItemId now) product = _ :=
    exec_removeIngredient hproduct hdone
  rw [updateExisting, hincoming]
  show exec (_ >>= fun _ => updateExisting entries now copy done.length) _ = _
  rw [exec_bind_of_ok hturn]

theorem item_ne_of_incoming {ingredient current : RecipeIngredient}
    (h : incoming entries ingredient ≠ none) (hcurrent : incoming entries current = none) :
    ingredient.inventoryItemId ≠ current.inventoryItemId := by
  intro heq
  apply h
  unfold incoming at hcurrent ⊢
  rw [heq, hcurrent]

/-! ## The loops -/

/-- The second loop up to any of its turns, as long as it does not throw. -/
theorem updateExisting_append (hproduct : product.ingredients = done ++ (copy ++ left))
    (hdone : ∀ ingredient ∈ done, incoming entries ingredient ≠ none)
    (hcopy : ∀ ingredient ∈ copy, ¬ Refused entries ingredient) :
    exec (updateExisting entries now (copy ++ left) done.length) product =
      exec (updateExisting entries now left
          (done ++ copy.filterMap (renewed entries)).length)
        (product.withIngredients (copy.any fun ingredient => (incoming entries ingredient).isNone)
          now (done ++ copy.filterMap (renewed entries) ++ left)) := by
  induction copy generalizing done product with
  | nil =>
    rw [List.filterMap_nil, List.append_nil, ← List.nil_append left, ← hproduct]
    rfl
  | cons current copy ih =>
    rw [List.forall_mem_cons] at hcopy
    rw [List.cons_append] at hproduct ⊢
    cases hincoming : incoming entries current with
    | some entry =>
      have hdone' : ∀ ingredient ∈ done ++ [changedTo entry current],
          incoming entries ingredient ≠ none := by
        rw [List.forall_mem_append, List.forall_mem_singleton]
        refine ⟨hdone, ?_⟩
        show incoming entries current ≠ none
        rw [hincoming]
        exact Option.some_ne_none entry
      have hproduct' : done ++ changedTo entry current :: (copy ++ left) =
          done ++ [changedTo entry current] ++ (copy ++ left) := List.append_cons _ _ _
      have hrest := @ih
        { product with ingredients := done ++ changedTo entry current :: (copy ++ left) }
        (done ++ [changedTo entry current]) hproduct' hdone' hcopy.2
      have hplace : (done ++ [changedTo entry current]).length = done.length + 1 :=
        List.length_append
      rw [hplace, ← List.append_cons] at hrest
      rw [updateExisting_changed hproduct hincoming (zero_of_not_refused hcopy.1 hincoming), hrest,
        List.filterMap_cons_some (renewed_eq_some hincoming), List.any_cons, hincoming]
      rfl
    | none =>
      have hbefore : ∀ ingredient ∈ done,
          ingredient.inventoryItemId ≠ current.inventoryItemId := fun ingredient hingredient =>
        item_ne_of_incoming (hdone ingredient hingredient) hincoming
      have hrest := @ih (product.withIngredients true now (done ++ (copy ++ left))) done rfl hdone
        hcopy.2
      rw [updateExisting_removed hproduct hbefore hincoming, hrest,
        List.filterMap_cons_none (renewed_eq_none hincoming), List.any_cons, hincoming]
      exact congrArg _ withIngredients_twice

theorem updateExisting_refused {current : RecipeIngredient}
    (hproduct : product.ingredients = done ++ current :: left) (h : Refused entries current) :
    exec (updateExisting entries now (current :: left) done.length) product =
      (.error (.recipe .nonPositiveIngredientQuantity), product) := by
  obtain ⟨entry, hincoming, hzero⟩ := h
  have hturn : exec (changeAt done.length (some entry.quantity) (some entry.isOptional)) product =
      (.error (.recipe .nonPositiveIngredientQuantity), product) := by
    rw [exec_changeAt hproduct, RecipeIngredient.change_of_zero hzero, ← hproduct]
    rfl
  rw [updateExisting, hincoming]
  exact exec_bind_of_error hturn

/-- The third loop up to any of its turns, as long as it does not throw. -/
theorem addMissing_append (hnodup : (entries.map (·.inventoryItemId)).Nodup)
    (hentries : ∀ entry ∈ entries, Missing product.ingredients entry →
      entry.quantity.isZero = false) :
    exec (addMissing newId now (entries ++ rest)) product =
      exec (addMissing newId now rest)
        (product.withIngredients (entries.any (Missing product.ingredients)) now
          (product.ingredients ++
            (entries.filter (Missing product.ingredients)).map (added newId))) := by
  induction entries generalizing product with
  | nil =>
    show _ = Mutator.exec _ (product.withIngredients false now (product.ingredients ++ []))
    rw [List.append_nil]
    rfl
  | cons entry entries ih =>
    rw [List.map_cons, List.nodup_cons] at hnodup
    rw [List.forall_mem_cons] at hentries
    rw [List.cons_append, addMissing, exec_bind_of_ok exec_get]
    by_cases hmissing : Missing product.ingredients entry
    · have hzero : ¬ entry.quantity.isZero = true := by
        rw [hentries.1 hmissing]
        exact Bool.false_ne_true
      have hturn : exec (addIngredient newId entry now) product = _ := exec_addIngredient hmissing
      rw [if_neg hzero] at hturn
      -- the new ingredient is not that of a later entry
      have hsame : ∀ later ∈ entries,
          (Missing (product.ingredients ++ [added newId entry]) later ↔
            Missing product.ingredients later) := by
        intro later hlater
        have hne : later.inventoryItemId ≠ entry.inventoryItemId := by
          intro heq
          exact hnodup.1 (heq ▸ List.mem_map_of_mem hlater)
        unfold Missing
        rw [List.map_append, List.mem_append, List.map_singleton, List.mem_singleton, not_or]
        exact and_iff_left hne
      have hrest := @ih (product.withIngredients true now
        (product.ingredients ++ [added newId entry])) hnodup.2
        fun later hlater hlaterMissing => hentries.2 later hlater
          ((hsame later hlater).mp hlaterMissing)
      have hfilter : entries.filter (Missing (product.ingredients ++ [added newId entry])) =
          entries.filter (Missing product.ingredients) :=
        List.filter_congr fun later hlater => decide_eq_decide.mpr (hsame later hlater)
      have hadded : product.ingredients ++ ((entry :: entries).filter
          (Missing product.ingredients)).map (added newId) =
          product.ingredients ++ [added newId entry] ++ (entries.filter
            (Missing product.ingredients)).map (added newId) := by
        rw [List.filter_cons, if_pos (decide_eq_true hmissing), List.map_cons, ← List.append_cons]
      rw [if_neg (mt present_iff.mp hmissing), exec_bind_of_ok hturn, hrest,
        withIngredients_twice, List.any_cons, decide_eq_true hmissing, hadded, ← hfilter]
      rfl
    · rw [if_pos (present_iff.mpr (not_not.mp hmissing)), ih hnodup.2 hentries.2]
      rw [List.any_cons, List.filter_cons_of_neg, decide_eq_false hmissing]
      · rfl
      · rwa [decide_eq_true_iff]

/-! ## `replaceRecipe` -/

/-- Some ingredient is not among the entries. -/
def removesSome (entries : List RecipeEntry) (ingredients : List RecipeIngredient) : Bool :=
  ingredients.any fun ingredient => (incoming entries ingredient).isNone

/-- The recipe that `replaceRecipe` leaves where it does not throw. -/
def replaced (newId : Uuid → Uuid) (entries : List RecipeEntry)
    (ingredients : List RecipeIngredient) : List RecipeIngredient :=
  ingredients.filterMap (renewed entries) ++
    (entries.filter (Missing ingredients)).map (added newId)

theorem inventoryItemId_of_incoming {ingredient : RecipeIngredient} {entry : RecipeEntry}
    (h : incoming entries ingredient = some entry) :
    entry ∈ entries ∧ entry.inventoryItemId = ingredient.inventoryItemId :=
  Rows.mem_of_find h

theorem mem_renewed {ingredients : List RecipeIngredient} {ingredient : RecipeIngredient}
    (h : ingredient ∈ ingredients.filterMap (renewed entries)) :
    ∃ old ∈ ingredients, ∃ entry, incoming entries old = some entry ∧
      ingredient = changedTo entry old := by
  obtain ⟨old, hold, hrenewed⟩ := List.mem_filterMap.mp h
  obtain ⟨entry, hincoming, rfl⟩ := Option.map_eq_some_iff.mp hrenewed
  exact ⟨old, hold, entry, hincoming, rfl⟩

/-- The second loop keeps an ingredient of each item that is in the list. -/
theorem missing_renewed {ingredients : List RecipeIngredient} {entry : RecipeEntry}
    (hentry : entry ∈ entries) :
    Missing (ingredients.filterMap (renewed entries)) entry ↔ Missing ingredients entry := by
  unfold Missing
  rw [not_iff_not, List.mem_map, List.mem_map]
  constructor
  · rintro ⟨ingredient, hingredient, hitem⟩
    obtain ⟨old, hold, found, -, rfl⟩ := mem_renewed hingredient
    exact ⟨old, hold, hitem⟩
  · rintro ⟨old, hold, hitem⟩
    obtain ⟨found, hincoming⟩ : ∃ found, incoming entries old = some found :=
      Rows.exists_find_of_mem_keys (List.mem_map.mpr ⟨entry, hentry, hitem.symm⟩)
    exact ⟨changedTo found old,
      List.mem_filterMap.mpr ⟨old, hold, renewed_eq_some hincoming⟩, hitem⟩

theorem exec_ensureNoDuplicates (hnodup : (entries.map (·.inventoryItemId)).Nodup) :
    exec (ensureNoDuplicates entries) product = (.ok (), product) := by
  have hnone : Rows.firstRepeated [] (entries.map (·.inventoryItemId)) = none :=
    Rows.firstRepeated_nil_eq_none_iff.mpr hnodup
  unfold ensureNoDuplicates
  rw [hnone]
  rfl

theorem replaceRecipe_repeated (hrepeated : ¬ (entries.map (·.inventoryItemId)).Nodup) :
    ∃ e, exec (replaceRecipe newId entries now) product = (.error e, product) := by
  have hsome : Rows.firstRepeated [] (entries.map (·.inventoryItemId)) ≠ none := fun hnone =>
    hrepeated (Rows.firstRepeated_nil_eq_none_iff.mp hnone)
  obtain ⟨inventoryItemId, hfirst⟩ := Option.ne_none_iff_exists'.mp hsome
  refine ⟨_, exec_bind_of_error (e := .recipe (.duplicateIngredient inventoryItemId)) ?_⟩
  unfold ensureNoDuplicates
  rw [hfirst]
  rfl

/-- The first loop and the reading of the ingredients, before the second one. -/
theorem exec_replaceRecipe (hnodup : (entries.map (·.inventoryItemId)).Nodup) :
    exec (replaceRecipe newId entries now) product =
      exec (updateExisting entries now product.ingredients 0 >>= fun _ =>
        addMissing newId now entries >>= fun _ => touch now) product := by
  unfold replaceRecipe
  rw [exec_bind_of_ok (exec_ensureNoDuplicates hnodup), exec_bind_of_ok exec_get]

theorem exec_updateExisting (h : ∀ ingredient ∈ product.ingredients, ¬ Refused entries ingredient) :
    exec (updateExisting entries now product.ingredients 0) product =
      (.ok (), product.withIngredients (removesSome entries product.ingredients) now
        (product.ingredients.filterMap (renewed entries))) := by
  have hloop := @updateExisting_append now product entries [] product.ingredients [] (by simp)
    (fun _ hmem => absurd hmem List.not_mem_nil) h
  rw [List.append_nil, List.append_nil] at hloop
  exact hloop

/-- A quantity of zero for an ingredient of the recipe stops the second loop there. -/
theorem replaceRecipe_refused {current : RecipeIngredient}
    (hnodup : (entries.map (·.inventoryItemId)).Nodup)
    (hproduct : product.ingredients = copy ++ current :: left)
    (hcopy : ∀ ingredient ∈ copy, ¬ Refused entries ingredient)
    (hcurrent : Refused entries current) :
    exec (replaceRecipe newId entries now) product =
      (.error (.recipe .nonPositiveIngredientQuantity),
        product.withIngredients (removesSome entries copy) now
          (copy.filterMap (renewed entries) ++ current :: left)) := by
  have hloop := @updateExisting_append now product entries [] copy (current :: left) hproduct
    (fun _ hmem => absurd hmem List.not_mem_nil) hcopy
  rw [exec_replaceRecipe hnodup, hproduct]
  apply exec_bind_of_error
  rw [List.length_nil] at hloop
  rw [hloop]
  exact updateExisting_refused rfl hcurrent

theorem addMissing_refused {entry : RecipeEntry} (hmissing : Missing product.ingredients entry)
    (hzero : entry.quantity.isZero = true) :
    exec (addMissing newId now (entry :: rest)) product =
      (.error (.recipe .nonPositiveIngredientQuantity), product) := by
  rw [addMissing, exec_bind_of_ok exec_get, if_neg (mt present_iff.mp hmissing)]
  apply exec_bind_of_error
  rw [exec_addIngredient hmissing, if_pos hzero]

/-- The third loop after the second one, up to any of its turns. -/
theorem addMissing_renewed {before : List RecipeEntry} {touched : Bool}
    (hnodup : (entries.map (·.inventoryItemId)).Nodup) (hentries : entries = before ++ rest)
    (hbefore : ∀ entry ∈ before, Missing product.ingredients entry →
      entry.quantity.isZero = false) :
    exec (addMissing newId now entries) (product.withIngredients touched now
        (product.ingredients.filterMap (renewed entries))) =
      exec (addMissing newId now rest)
        (product.withIngredients (touched || before.any (Missing product.ingredients)) now
          (product.ingredients.filterMap (renewed entries) ++
            (before.filter (Missing product.ingredients)).map (added newId))) := by
  have hsame : ∀ entry ∈ before,
      (Missing (product.ingredients.filterMap (renewed entries)) entry ↔
        Missing product.ingredients entry) := by
    intro entry hentry
    apply missing_renewed
    rw [hentries]
    exact List.mem_append_left rest hentry
  have hfilter : before.filter (Missing (product.ingredients.filterMap (renewed entries))) =
      before.filter (Missing product.ingredients) :=
    List.filter_congr fun entry hentry => decide_eq_decide.mpr (hsame entry hentry)
  have hany : before.any (Missing (product.ingredients.filterMap (renewed entries))) =
      before.any (Missing product.ingredients) := by
    rw [Bool.eq_iff_iff, List.any_eq_true, List.any_eq_true]
    refine exists_congr fun entry => and_congr_right fun hentry => ?_
    rw [decide_eq_true_iff, decide_eq_true_iff, hsame entry hentry]
  have hdistinct : (before.map (·.inventoryItemId)).Nodup := by
    rw [hentries, List.map_append] at hnodup
    exact hnodup.of_append_left
  have hloop := @addMissing_append newId now (product.withIngredients touched now
    (product.ingredients.filterMap (renewed entries))) before rest hdistinct
    fun entry hentry hmissing => hbefore entry hentry ((hsame entry hentry).mp hmissing)
  rw [← hentries, withIngredients_twice] at hloop
  rw [hloop, ← hany, ← hfilter]
  rfl

/-- A quantity of zero for a new item stops the third loop there. -/
theorem replaceRecipe_refused_new {before after : List RecipeEntry} {entry : RecipeEntry}
    (hnodup : (entries.map (·.inventoryItemId)).Nodup)
    (hexisting : ∀ ingredient ∈ product.ingredients, ¬ Refused entries ingredient)
    (hentries : entries = before ++ entry :: after)
    (hbefore : ∀ other ∈ before, Missing product.ingredients other →
      other.quantity.isZero = false)
    (hmissing : Missing product.ingredients entry) (hzero : entry.quantity.isZero = true) :
    exec (replaceRecipe newId entries now) product =
      (.error (.recipe .nonPositiveIngredientQuantity),
        product.withIngredients
          (removesSome entries product.ingredients || before.any (Missing product.ingredients)) now
          (product.ingredients.filterMap (renewed entries) ++
            (before.filter (Missing product.ingredients)).map (added newId))) := by
  have hmem : entry ∈ entries := hentries ▸ List.mem_append_right before List.mem_cons_self
  -- neither the old ingredients nor those added before are of this item
  have hstill : Missing (product.ingredients.filterMap (renewed entries) ++
      (before.filter (Missing product.ingredients)).map (added newId)) entry := by
    have hrenewed := (missing_renewed hmem).mpr hmissing
    unfold Missing at hrenewed ⊢
    rw [List.map_append, List.mem_append, not_or]
    refine ⟨hrenewed, fun hadded => ?_⟩
    rw [List.map_map, List.mem_map] at hadded
    obtain ⟨other, hother, hitem⟩ := hadded
    rw [hentries, List.map_append, List.map_cons, List.nodup_append] at hnodup
    exact hnodup.2.2 _ (List.mem_map_of_mem (List.mem_of_mem_filter hother)) _
      List.mem_cons_self hitem
  rw [exec_replaceRecipe hnodup, exec_bind_of_ok (exec_updateExisting hexisting)]
  apply exec_bind_of_error
  rw [addMissing_renewed hnodup hentries hbefore]
  exact addMissing_refused hstill hzero

/-- Without a repeated item and a quantity of zero, nothing is thrown. -/
theorem replaceRecipe_ok (hnodup : (entries.map (·.inventoryItemId)).Nodup)
    (hexisting : ∀ ingredient ∈ product.ingredients, ¬ Refused entries ingredient)
    (hnew : ∀ entry ∈ entries, Missing product.ingredients entry →
      entry.quantity.isZero = false) :
    exec (replaceRecipe newId entries now) product =
      (.ok (), product.withIngredients true now (replaced newId entries product.ingredients)) := by
  have hentries : entries = entries ++ [] := (List.append_nil entries).symm
  rw [exec_replaceRecipe hnodup, exec_bind_of_ok (exec_updateExisting hexisting), exec_bind,
    addMissing_renewed hnodup hentries hnew]
  show (Except.ok (), withIngredients _ true now _) = _
  rw [withIngredients_twice, Bool.or_true]
  rfl

/-! ## The recipe as a map -/

/-- What a recipe says of each item: how much, and whether it is optional. -/
def recipeOf (ingredients : List RecipeIngredient) (inventoryItemId : Uuid) :
    Option (Quantity × Bool) :=
  (Rows.find (·.inventoryItemId) inventoryItemId ingredients).map fun ingredient =>
    (ingredient.quantity, ingredient.isOptional)

/-- What a list of entries says of each item. -/
def recipeOfEntries (entries : List RecipeEntry) (inventoryItemId : Uuid) :
    Option (Quantity × Bool) :=
  (Rows.find (·.inventoryItemId) inventoryItemId entries).map fun entry =>
    (entry.quantity, entry.isOptional)

variable {ingredients : List RecipeIngredient}

theorem sublist_renewed :
    ((ingredients.filterMap (renewed entries)).map (·.inventoryItemId)).Sublist
      (ingredients.map (·.inventoryItemId)) := by
  induction ingredients with
  | nil => exact List.Sublist.refl _
  | cons ingredient ingredients ih =>
    cases hincoming : incoming entries ingredient with
    | none =>
      rw [List.filterMap_cons_none (renewed_eq_none hincoming)]
      exact ih.cons _
    | some entry =>
      rw [List.filterMap_cons_some (renewed_eq_some hincoming)]
      exact ih.cons_cons _

theorem nodup_replaced (hitems : (ingredients.map (·.inventoryItemId)).Nodup)
    (hnodup : (entries.map (·.inventoryItemId)).Nodup) :
    ((replaced newId entries ingredients).map (·.inventoryItemId)).Nodup := by
  unfold replaced
  rw [List.map_append, List.map_map, List.nodup_append]
  refine ⟨hitems.sublist sublist_renewed, ?_, ?_⟩
  · exact hnodup.sublist (List.filter_sublist.map _)
  · rintro item hitem other hother rfl
    obtain ⟨entry, hentry, rfl⟩ := List.mem_map.mp hother
    have hmissing : Missing ingredients entry := of_decide_eq_true (List.mem_filter.mp hentry).2
    exact hmissing (sublist_renewed.subset hitem)

/-- The new recipe says of each item what the entries say of it. -/
theorem recipeOf_replaced (hitems : (ingredients.map (·.inventoryItemId)).Nodup)
    (hnodup : (entries.map (·.inventoryItemId)).Nodup) :
    recipeOf (replaced newId entries ingredients) = recipeOfEntries entries := by
  funext inventoryItemId
  apply Rows.find_map_eq (nodup_replaced hitems hnodup) hnodup
  intro values
  constructor
  · rintro ⟨ingredient, hingredient, rfl, rfl⟩
    rcases List.mem_append.mp hingredient with hold | hadded
    · obtain ⟨old, -, entry, hincoming, rfl⟩ := mem_renewed hold
      obtain ⟨hentry, hitem⟩ := inventoryItemId_of_incoming hincoming
      exact ⟨entry, hentry, hitem, rfl⟩
    · obtain ⟨entry, hentry, rfl⟩ := List.mem_map.mp hadded
      exact ⟨entry, List.mem_of_mem_filter hentry, rfl, rfl⟩
  · rintro ⟨entry, hentry, rfl, rfl⟩
    by_cases hmissing : Missing ingredients entry
    · have hmem : entry ∈ entries.filter (Missing ingredients) :=
        List.mem_filter.mpr ⟨hentry, decide_eq_true hmissing⟩
      exact ⟨added newId entry, List.mem_append_right _ (List.mem_map_of_mem hmem), rfl, rfl⟩
    · obtain ⟨old, hold, hitem⟩ := List.mem_map.mp (not_not.mp hmissing)
      have hincoming : incoming entries old = some entry := by
        unfold incoming
        rw [hitem]
        exact Rows.find_of_mem hnodup hentry
      have hmem : changedTo entry old ∈ ingredients.filterMap (renewed entries) :=
        List.mem_filterMap.mpr ⟨old, hold, renewed_eq_some hincoming⟩
      exact ⟨changedTo entry old, List.mem_append_left _ hmem, hitem, rfl⟩

/-- An ingredient of an item that was in the recipe is the old one. -/
theorem id_of_replaced (hitems : (ingredients.map (·.inventoryItemId)).Nodup)
    {old ingredient : RecipeIngredient} (hold : old ∈ ingredients)
    (hingredient : ingredient ∈ replaced newId entries ingredients)
    (hitem : ingredient.inventoryItemId = old.inventoryItemId) : ingredient.id = old.id := by
  rcases List.mem_append.mp hingredient with hrenewed | hadded
  · obtain ⟨other, hother, entry, -, rfl⟩ := mem_renewed hrenewed
    have hsame : other = old := List.inj_on_of_nodup_map hitems hother hold hitem
    rw [← hsame]
    rfl
  · obtain ⟨entry, hentry, rfl⟩ := List.mem_map.mp hadded
    have hmissing : Missing ingredients entry := of_decide_eq_true (List.mem_filter.mp hentry).2
    have hpresent : old.inventoryItemId ∈ ingredients.map (·.inventoryItemId) :=
      List.mem_map_of_mem hold
    rw [← hitem] at hpresent
    exact absurd hpresent hmissing

/-- How `replaceRecipe` ends: it refuses a repeated item at once, or a quantity of
    zero at the first ingredient, or else at the first new item, that has one; or it
    replaces the recipe. -/
inductive ReplaceEnds (newId : Uuid → Uuid) (entries : List RecipeEntry) (now : Instant)
    (product : ProductAggregate) : Prop
  | repeated (hrepeated : ¬ (entries.map (·.inventoryItemId)).Nodup)
  | refused {copy left : List RecipeIngredient} {current : RecipeIngredient}
      (hnodup : (entries.map (·.inventoryItemId)).Nodup)
      (hproduct : product.ingredients = copy ++ current :: left)
      (hcopy : ∀ ingredient ∈ copy, ¬ Refused entries ingredient)
      (hcurrent : Refused entries current)
  | refusedNew {before after : List RecipeEntry} {entry : RecipeEntry}
      (hnodup : (entries.map (·.inventoryItemId)).Nodup)
      (hexisting : ∀ ingredient ∈ product.ingredients, ¬ Refused entries ingredient)
      (hentries : entries = before ++ entry :: after)
      (hbefore : ∀ other ∈ before, Missing product.ingredients other →
        other.quantity.isZero = false)
      (hmissing : Missing product.ingredients entry) (hzero : entry.quantity.isZero = true)
  | replaced (hnodup : (entries.map (·.inventoryItemId)).Nodup)
      (hexisting : ∀ ingredient ∈ product.ingredients, ¬ Refused entries ingredient)
      (hnew : ∀ entry ∈ entries, Missing product.ingredients entry →
        entry.quantity.isZero = false)

theorem replaceEnds (newId : Uuid → Uuid) (entries : List RecipeEntry) (now : Instant)
    (product : ProductAggregate) : ReplaceEnds newId entries now product := by
  by_cases hnodup : (entries.map (·.inventoryItemId)).Nodup
  · by_cases hexisting : ∃ ingredient ∈ product.ingredients, Refused entries ingredient
    · obtain ⟨copy, current, left, hproduct, hcurrent, hcopy⟩ := exists_first hexisting
      exact .refused hnodup hproduct hcopy hcurrent
    · have hexisting : ∀ ingredient ∈ product.ingredients, ¬ Refused entries ingredient :=
        fun ingredient hmem hrefused => hexisting ⟨ingredient, hmem, hrefused⟩
      by_cases hnew : ∃ entry ∈ entries,
          Missing product.ingredients entry ∧ entry.quantity.isZero = true
      · obtain ⟨before, entry, after, hentries, ⟨hmissing, hzero⟩, hbefore⟩ := exists_first hnew
        refine .refusedNew hnodup hexisting hentries ?_ hmissing hzero
        intro other hother hmissing'
        exact Bool.eq_false_of_not_eq_true fun hzero' => hbefore other hother ⟨hmissing', hzero'⟩
      · refine .replaced hnodup hexisting fun entry hentry hmissing => ?_
        exact Bool.eq_false_of_not_eq_true fun hzero => hnew ⟨entry, hentry, hmissing, hzero⟩
  · exact .repeated hnodup

/-- A call that does not throw has replaced the recipe. -/
theorem replaced_of_ok {after : ProductAggregate}
    (h : exec (replaceRecipe newId entries now) product = (.ok (), after)) :
    (entries.map (·.inventoryItemId)).Nodup ∧
      after = product.withIngredients true now (replaced newId entries product.ingredients) := by
  cases replaceEnds newId entries now product with
  | repeated hrepeated =>
    obtain ⟨e, herror⟩ := @replaceRecipe_repeated newId now product entries hrepeated
    rw [herror] at h
    cases h
  | refused hnodup hproduct hcopy hcurrent =>
    rw [replaceRecipe_refused hnodup hproduct hcopy hcurrent] at h
    cases h
  | refusedNew hnodup hexisting hentries hbefore hmissing hzero =>
    rw [replaceRecipe_refused_new hnodup hexisting hentries hbefore hmissing hzero] at h
    cases h
  | replaced hnodup hexisting hnew =>
    rw [replaceRecipe_ok hnodup hexisting hnew] at h
    exact ⟨hnodup, (Prod.mk.inj h).2.symm⟩

/-- Where `Product.replaceRecipe` does not throw, on a recipe without a repeated
    item, the recipe says of each item what the list says of it, no item is in it
    twice, and the ingredients of the items that it had keep their ids; and it
    does not throw for a list without a repeated item and without a quantity of
    zero. -/
theorem replaceRecipe_replaces (newId : Uuid → Uuid) (entries : List RecipeEntry) (now : Instant)
    (product : ProductAggregate)
    (hitems : (product.ingredients.map (·.inventoryItemId)).Nodup) :
    let outcome := (replaceRecipe newId entries now).exec product
    (outcome.1 = .ok () →
      recipeOf outcome.2.ingredients = recipeOfEntries entries ∧
      (outcome.2.ingredients.map (·.inventoryItemId)).Nodup ∧
      ∀ old ∈ product.ingredients, ∀ ingredient ∈ outcome.2.ingredients,
        ingredient.inventoryItemId = old.inventoryItemId → ingredient.id = old.id) ∧
    ((entries.map (·.inventoryItemId)).Nodup →
      (∀ entry ∈ entries, entry.quantity.isZero = false) → outcome.1 = .ok ()) := by
  intro outcome
  constructor
  · intro hok
    have hexec : exec (replaceRecipe newId entries now) product = (.ok (), outcome.2) :=
      Prod.ext hok rfl
    obtain ⟨hnodup, hafter⟩ := replaced_of_ok hexec
    rw [hafter]
    exact ⟨recipeOf_replaced hitems hnodup, nodup_replaced hitems hnodup,
      fun old hold ingredient hingredient => id_of_replaced hitems hold hingredient⟩
  · intro hnodup hquantity
    have hexisting : ∀ ingredient ∈ product.ingredients, ¬ Refused entries ingredient := by
      rintro ingredient - ⟨entry, hincoming, hzero⟩
      rw [hquantity entry (inventoryItemId_of_incoming hincoming).1] at hzero
      cases hzero
    have houtcome : outcome = (.ok (), _) :=
      replaceRecipe_ok hnodup hexisting fun entry hentry _ => hquantity entry hentry
    rw [houtcome]

/-- A product at a price of 10 over a cost of 7, with two ingredients. -/
def sampleProduct : ProductAggregate :=
  let params := Product.sampleParams 10 7 Product.sampleMargin
  { fields :=
      { id := Product.sampleProductId
        tenantId := params.tenantId
        productCategoryId := params.productCategoryId
        productName := params.productName
        productDescription := params.productDescription
        productSku := params.productSku
        productImgUrl := params.productImgUrl
        productBasePrice := params.productBasePrice
        productCost := params.productCost
        profitMargin := params.profitMargin
        status := .active
        createdAt := 0
        updatedAt := 0
        domainEvents := [] }
    ingredients :=
      [⟨js "ingredient-1", js "item-1", ⟨1000⟩, false⟩,
        ⟨js "ingredient-2", js "item-2", ⟨2000⟩, false⟩] }

/-- One ingredient leaves, one changes, and one is new. -/
theorem replaceRecipe_replaces_two :
    let entries := [⟨js "item-3", ⟨500⟩, true⟩, ⟨js "item-2", ⟨3000⟩, false⟩]
    recipeOf ((replaceRecipe id entries 1000).exec sampleProduct).2.ingredients =
      recipeOfEntries entries := by
  intro entries
  have h := replaceRecipe_replaces id entries 1000 sampleProduct (by decide)
  exact (h.1 (h.2 (by decide) (by decide))).1

end ProductAggregate

end KomiSaas.Products
