import KomiSaas.Products.Recipe

/-!
# Failing methods of a product

`products/domain/product.aggregate.ts`, lines 167–410, as methods that change the
product in place: what each leaves behind where it throws. Those of lines 167–278
agree with the functions of `Product` (`deactivate_agrees` and the like).

Every method but two makes its checks first. `update` assigns before it checks the
pricing, and the loops of `replaceRecipe` check each quantity when they get there.

Result: `atomic_iff`.
-/

namespace KomiSaas.Products

open KomiSaas.Lib KomiSaas.Shared

namespace ProductAggregate

open Mutator

/-! ## The methods -/

/-- A check of the fields, which changes nothing. -/
def check {α : Type} (c : Product → Except ProductException α) :
    Mutator AggregateException ProductAggregate α :=
  Mutator.of fun product => ((c product.fields).mapError .product, product)

/-- `this.status = status`. -/
def setStatus (status : EntityStatus) : Method :=
  modify fun product => { product with fields := { product.fields with status := status } }

/-- `deactivate` (lines 167–176). -/
def deactivate (now : Instant) : Method := do
  check Product.ensureNotDelete
  check fun fields =>
    if fields.status = .inactive then .error .productAlreadyDeactivated else .ok ()
  let status ← check fun fields => fields.status.transitionTo .inactive
  setStatus status
  touch now

/-- `activate` (lines 179–188). -/
def activate (now : Instant) : Method := do
  check Product.ensureNotDelete
  check fun fields =>
    if fields.status = .active then .error .productAlreadyActivated else .ok ()
  let status ← check fun fields => fields.status.transitionTo .active
  setStatus status
  touch now

/-- `changeStatus` (lines 195–207). -/
def changeStatus (next : EntityStatus) (now : Instant) : Method :=
  match next with
  | .active => activate now
  | .inactive => deactivate now
  | next => check fun fields => (fields.status.transitionTo next).map fun _ => ()

/-- `delete` (lines 210–223). -/
def delete (deletedBy : Uuid) (now : Instant) : Method := do
  check Product.ensureNotDelete
  let status ← check fun fields => fields.status.transitionTo .deleted
  setStatus status
  touch now
  modify fun product =>
    { product with
      fields := { product.fields with
        domainEvents := product.fields.domainEvents ++
          [.deleted product.fields.tenantId product.fields.id deletedBy] } }

/-- The seven assignments of `update` (lines 268–274). -/
def assign (changes : ProductChanges) (fields : Product) : Product :=
  { fields with
    productCategoryId := changes.productCategoryId
    productName := changes.productName
    productDescription := changes.productDescription
    productImgUrl := changes.productImgUrl
    productBasePrice := changes.productBasePrice
    productCost := changes.productCost
    profitMargin := changes.profitMargin }

/-- `update` (lines 257–278). -/
def update (rounded : ℚ → ℚ) (decimal : DecimalJs) (changes : ProductChanges) (now : Instant) :
    Method := do
  check Product.ensureNotDelete
  modify fun product => { product with fields := assign changes product.fields }
  check (Product.ensurePricingIsConsistent rounded decimal)
  touch now

/-- The calls of the methods that change a product. -/
inductive Call where
  | update (changes : ProductChanges)
  | replaceRecipe (entries : List RecipeEntry)
  | addIngredient (params : RecipeEntry)
  | changeIngredient (inventoryItemId : Uuid) (quantity : Option Quantity)
      (isOptional : Option Bool)
  | removeIngredient (inventoryItemId : Uuid)
  | changeStatus (next : EntityStatus)
  | delete (deletedBy : Uuid)
  deriving DecidableEq

/-- The method of a call, with what generates ids and the time. -/
def Call.method (rounded : ℚ → ℚ) (decimal : DecimalJs) (newId : Uuid → Uuid) (now : Instant) :
    Call → Method
  | .update changes => ProductAggregate.update rounded decimal changes now
  | .replaceRecipe entries => ProductAggregate.replaceRecipe newId entries now
  | .addIngredient params => ProductAggregate.addIngredient newId params now
  | .changeIngredient inventoryItemId quantity isOptional =>
    ProductAggregate.changeIngredient inventoryItemId quantity isOptional now
  | .removeIngredient inventoryItemId => ProductAggregate.removeIngredient inventoryItemId now
  | .changeStatus next => ProductAggregate.changeStatus next now
  | .delete deletedBy => ProductAggregate.delete deletedBy now

/-- `ProductPrimitives`, with the ingredients. -/
structure Primitives where
  fields : ProductPrimitives
  ingredients : List RecipeIngredientPrimitives
  deriving DecidableEq

/-- `toPrimitives` (lines 124–142). -/
def toPrimitives (decimal : DecimalJs) (product : ProductAggregate) : Primitives where
  fields := product.fields.toPrimitives decimal
  ingredients := product.ingredients.map (·.toPrimitives decimal)

/-- What is seen of a product: its primitives and its pending events. -/
def observed (decimal : DecimalJs) (product : ProductAggregate) :
    Primitives × List ProductEvent :=
  (product.toPrimitives decimal, product.fields.domainEvents)

variable {rounded : ℚ → ℚ} {decimal : DecimalJs} {newId : Uuid → Uuid} {now : Instant}
  {product : ProductAggregate} {entries : List RecipeEntry} {α : Type}
  {c : Product → Except ProductException α}

theorem exec_check_ok {a : α} (h : c product.fields = .ok a) :
    exec (check c) product = (.ok a, product) := by
  show ((c product.fields).mapError _, product) = _
  rw [h]
  rfl

theorem exec_check_error {e : ProductException} (h : c product.fields = .error e) :
    exec (check c) product = (.error (.product e), product) := by
  show ((c product.fields).mapError _, product) = _
  rw [h]
  rfl

/-! ## The methods that agree with functions -/

/-- What a method ends with that agrees with a function of `Product`. -/
def ofFunction (product : ProductAggregate) (result : Except ProductException Product) :
    Except AggregateException Unit × ProductAggregate :=
  match result with
  | .ok fields => (.ok (), { product with fields := fields })
  | .error e => (.error (.product e), product)

/-- A check before both. -/
theorem exec_check_bind {f : α → Method} {g : α → Except ProductException Product}
    (h : ∀ a, c product.fields = .ok a → exec (f a) product = product.ofFunction (g a)) :
    exec (check c >>= f) product = product.ofFunction ((c product.fields).bind g) := by
  cases hc : c product.fields with
  | error e =>
    rw [exec_bind_of_error (exec_check_error hc)]
    rfl
  | ok a =>
    rw [exec_bind_of_ok (exec_check_ok hc)]
    exact h a hc

/-- A check that refuses some products, before both. -/
theorem exec_guard_bind {e : ProductException} {p : Product → Prop} [DecidablePred p]
    {f : Unit → Method} {result : Except ProductException Product}
    (h : exec (f ()) product = product.ofFunction result) :
    exec (check (fun fields => if p fields then .error e else .ok ()) >>= f) product =
      product.ofFunction (if p product.fields then .error e else result) := by
  by_cases hp : p product.fields
  · rw [if_pos hp]
    exact exec_bind_of_error (exec_check_error (if_pos hp))
  · rw [if_neg hp, exec_bind_of_ok (exec_check_ok (if_neg hp))]
    exact h

theorem deactivate_agrees :
    exec (deactivate now) product = product.ofFunction (product.fields.deactivate now) := by
  apply exec_check_bind
  intro _ _
  apply exec_guard_bind
  apply exec_check_bind
  intro _ _
  rfl

theorem activate_agrees :
    exec (activate now) product = product.ofFunction (product.fields.activate now) := by
  apply exec_check_bind
  intro _ _
  apply exec_guard_bind
  apply exec_check_bind
  intro _ _
  rfl

theorem changeStatus_agrees (next : EntityStatus) :
    exec (changeStatus next now) product =
      product.ofFunction (product.fields.changeStatus next now) := by
  have hother : ∀ other, exec (check fun fields => (fields.status.transitionTo other).map
      fun _ => ()) product = product.ofFunction
        ((product.fields.status.transitionTo other).map fun _ => product.fields) := by
    intro other
    show (((product.fields.status.transitionTo other).map fun _ => ()).mapError _, product) = _
    cases product.fields.status.transitionTo other <;> rfl
  cases next with
  | active => exact activate_agrees
  | inactive => exact deactivate_agrees
  | archived => exact hother .archived
  | deleted => exact hother .deleted

theorem delete_agrees (deletedBy : Uuid) :
    exec (delete deletedBy now) product =
      product.ofFunction (product.fields.delete deletedBy now) := by
  apply exec_check_bind
  intro _ _
  apply exec_check_bind
  intro _ _
  rfl

/-- A method that agrees with a function has thrown before it changed anything. -/
theorem atomicAt_of_function {m : Method} {result : Except ProductException Product} {τ : Type}
    {view : ProductAggregate → τ} (h : exec m product = product.ofFunction result) :
    AtomicAt view (exec m) product := by
  cases result with
  | ok fields => exact atomicAt_of_ok h
  | error e => exact atomicAt_of_same (by rw [h]; rfl)

/-! ## The methods of one ingredient -/

theorem atomicAt_addIngredient {params : RecipeEntry} :
    AtomicAt (observed decimal) (exec (addIngredient newId params now)) product := by
  by_cases hmissing : Missing product.ingredients params
  · by_cases hzero : params.quantity.isZero = true
    · apply atomicAt_of_same
      rw [exec_addIngredient hmissing, if_pos hzero]
    · have hok : exec (addIngredient newId params now) product = _ :=
        exec_addIngredient hmissing
      rw [if_neg hzero] at hok
      exact atomicAt_of_ok hok
  · apply atomicAt_of_same
    unfold addIngredient
    rw [exec_bind_of_ok exec_get, if_pos (present_iff.mpr (not_not.mp hmissing))]
    rfl

/-- An ingredient that cannot be changed stays as it was. -/
theorem change_cases (ingredient : RecipeIngredient) (quantity : Option Quantity)
    (isOptional : Option Bool) :
    (ingredient.change quantity isOptional).1 = .ok () ∨
      (ingredient.change quantity isOptional).2 = ingredient := by
  cases quantity with
  | none => exact .inl rfl
  | some quantity =>
    by_cases hzero : quantity.isZero = true
    · right
      rw [RecipeIngredient.change_of_zero hzero]
    · left
      rw [RecipeIngredient.change_of_pos (Bool.eq_false_of_not_eq_true hzero)]

theorem atomicAt_changeIngredient {inventoryItemId : Uuid} {quantity : Option Quantity}
    {isOptional : Option Bool} : AtomicAt (observed decimal)
      (exec (changeIngredient inventoryItemId quantity isOptional now)) product := by
  unfold changeIngredient
  apply atomicAt_bind_of_same rfl
  rintro _ ⟨⟩
  cases hplace : product.placeOf inventoryItemId with
  | none => exact atomicAt_of_same rfl
  | some place =>
    obtain ⟨hlt, -⟩ := List.findIdx?_eq_some_iff_getElem.mp hplace
    obtain ⟨ingredient, hget⟩ : ∃ ingredient, product.ingredients[place]? = some ingredient :=
      ⟨_, List.getElem?_eq_getElem hlt⟩
    have hset : product.ingredients.set place ingredient = product.ingredients := by
      obtain ⟨_, rfl⟩ := List.getElem?_eq_some_iff.mp hget
      exact List.set_getElem_self _
    have hturn : exec (changeAt place quantity isOptional) product =
        ((ingredient.change quantity isOptional).1.mapError .recipe,
          { product with
            ingredients := product.ingredients.set place
              (ingredient.change quantity isOptional).2 }) := by
      unfold changeAt
      rw [exec_of]
      simp only [hget]
    rcases change_cases ingredient quantity isOptional with hok | hsame
    · rw [hok] at hturn
      have hboth : exec (changeAt place quantity isOptional >>= fun _ => touch now) product = _ :=
        exec_bind_of_ok hturn
      exact atomicAt_of_ok hboth
    · rw [hsame, hset] at hturn
      apply atomicAt_bind_of_same
      · rw [hturn]
      · intro _ _
        exact atomicAt_of_ok rfl

theorem atomicAt_removeIngredient {inventoryItemId : Uuid} :
    AtomicAt (observed decimal) (exec (removeIngredient inventoryItemId now)) product := by
  unfold removeIngredient
  apply atomicAt_bind_of_same rfl
  rintro _ ⟨⟩
  cases product.placeOf inventoryItemId with
  | none => exact atomicAt_of_same rfl
  | some place => exact atomicAt_of_ok rfl

/-! ## `update` -/

/-- The changes are what is seen of the product already. -/
def Unchanging (changes : ProductChanges) (fields : Product) : Prop :=
  changes.productCategoryId = fields.productCategoryId ∧
    changes.productName = fields.productName ∧
    changes.productDescription = fields.productDescription ∧
    changes.productImgUrl = fields.productImgUrl ∧
    changes.productBasePrice = fields.productBasePrice ∧
    changes.productCost.cents = fields.productCost.cents ∧
    changes.profitMargin = fields.profitMargin

theorem observed_assign {changes : ProductChanges} :
    observed decimal { product with fields := assign changes product.fields } =
        observed decimal product ↔ Unchanging changes product.fields := by
  constructor
  · intro h
    have hfields : (assign changes product.fields).toPrimitives decimal =
        product.fields.toPrimitives decimal := congrArg (fun seen => seen.1.fields) h
    unfold Product.toPrimitives assign at hfields
    obtain ⟨-, -, hcategory, hname, hdescription, -, himage, hprice, hcurrency, hcost, hmargin,
      -⟩ := ProductPrimitives.mk.inj hfields
    exact ⟨hcategory, ProductName.ext hname, hdescription, himage,
      Money.ext (DecimalJs.toFixed2_inj.mp hprice) hcurrency, DecimalJs.toFixed2_inj.mp hcost,
      ProfitMargin.ext (DecimalJs.toFixed2_inj.mp hmargin)⟩
  · rintro ⟨hcategory, hname, hdescription, himage, hprice, hcost, hmargin⟩
    have hamount : changes.productCost.getAmount decimal =
        product.fields.productCost.getAmount decimal := DecimalJs.toFixed2_inj.mpr hcost
    unfold observed toPrimitives Product.toPrimitives assign
    rw [hcategory, hname, hdescription, himage, hprice, hmargin, hamount]

theorem exec_update_of_deleted {changes : ProductChanges}
    (hdeleted : product.fields.status = .deleted) :
    exec (update rounded decimal changes now) product =
      (.error (.product (.productDeleted product.fields.id)), product) := by
  exact exec_bind_of_error (exec_check_error (if_pos hdeleted))

/-- The pricing is checked after the assignments. -/
theorem exec_update {changes : ProductChanges} (hdeleted : product.fields.status ≠ .deleted) :
    exec (update rounded decimal changes now) product =
      exec (check (Product.ensurePricingIsConsistent rounded decimal) >>= fun _ => touch now)
        { product with fields := assign changes product.fields } := by
  have hcheck : Product.ensureNotDelete product.fields = .ok () := if_neg hdeleted
  unfold update
  rw [exec_bind_of_ok (exec_check_ok hcheck), exec_bind_of_ok exec_modify]

theorem atomicAt_update_iff {changes : ProductChanges} :
    AtomicAt (observed decimal) (exec (update rounded decimal changes now)) product ↔
      product.fields.status = .deleted ∨
        (assign changes product.fields).ensurePricingIsConsistent rounded decimal = .ok () ∨
        Unchanging changes product.fields := by
  by_cases hdeleted : product.fields.status = .deleted
  · refine iff_of_true (atomicAt_of_same ?_) (.inl hdeleted)
    rw [exec_update_of_deleted hdeleted]
  · have hupdate := @exec_update rounded decimal now product changes hdeleted
    rw [or_iff_right hdeleted]
    cases hpricing : (assign changes product.fields).ensurePricingIsConsistent rounded decimal with
    | ok u =>
      have hok := hupdate.trans (exec_bind_of_ok (exec_check_ok hpricing))
      exact iff_of_true (atomicAt_of_ok hok) (.inl rfl)
    | error e =>
      rw [or_iff_right nofun, ← observed_assign]
      exact atomicAt_iff_of_error
        (hupdate.trans (exec_bind_of_error (exec_check_error hpricing)))

/-! ## `replaceRecipe` -/

/-- What a turn of the loops of `replaceRecipe` does. -/
inductive Turn where
  | keeps
  | changes
  | refuses
  deriving DecidableEq

/-- The turn of an ingredient of the recipe, in the second loop. -/
def turnOf (entries : List RecipeEntry) (ingredient : RecipeIngredient) : Turn :=
  match incoming entries ingredient with
  | none => .changes
  | some entry =>
    if entry.quantity.isZero then .refuses
    else if changedTo entry ingredient = ingredient then .keeps
    else .changes

/-- The turn of an entry, in the third loop. -/
def turnOfEntry (ingredients : List RecipeIngredient) (entry : RecipeEntry) : Turn :=
  if Missing ingredients entry then if entry.quantity.isZero then .refuses else .changes
  else .keeps

/-- All the turns, in their order. -/
def turns (entries : List RecipeEntry) (ingredients : List RecipeIngredient) : List Turn :=
  ingredients.map (turnOf entries) ++ entries.map (turnOfEntry ingredients)

/-- If some turn refuses, the first that does not keep what there is refuses. -/
def RefusesFirst (turns : List Turn) : Prop :=
  .refuses ∈ turns → turns.find? (· ≠ .keeps) = some .refuses

instance : DecidablePred RefusesFirst := fun _ => inferInstanceAs (Decidable (_ → _))

variable {ingredients : List RecipeIngredient} {ingredient : RecipeIngredient} {entry : RecipeEntry}

theorem turnOf_eq_refuses_iff :
    turnOf entries ingredient = .refuses ↔ Refused entries ingredient := by
  unfold turnOf Refused
  cases incoming entries ingredient with
  | none => simp
  | some entry =>
    simp only [Option.some.injEq, exists_eq_left']
    split_ifs <;> simp_all

/-- An ingredient is kept where the second loop makes of it what it is. -/
theorem turnOf_eq_keeps_iff (h : ¬ Refused entries ingredient) :
    turnOf entries ingredient = .keeps ↔ renewed entries ingredient = some ingredient := by
  unfold turnOf renewed
  cases hincoming : incoming entries ingredient with
  | none => exact iff_of_false nofun nofun
  | some entry =>
    have hzero := zero_of_not_refused h hincoming
    simp only [hzero, Bool.false_eq_true, if_false, Option.map_some, Option.some.injEq]
    split_ifs with hsame
    · exact iff_of_true rfl hsame
    · exact iff_of_false nofun hsame

theorem turnOfEntry_eq_keeps_iff :
    turnOfEntry ingredients entry = .keeps ↔ ¬ Missing ingredients entry := by
  unfold turnOfEntry
  by_cases hmissing : Missing ingredients entry
  · rw [if_pos hmissing]
    refine iff_of_false ?_ (not_not.mpr hmissing)
    split_ifs <;> exact nofun
  · rw [if_neg hmissing]
    exact iff_of_true rfl hmissing

theorem filter_missing_eq_nil (h : ∀ entry ∈ entries, ¬ Missing ingredients entry) :
    entries.filter (Missing ingredients) = [] := by
  rw [List.filter_eq_nil_iff]
  intro entry hentry hmissing
  exact h entry hentry (of_decide_eq_true hmissing)

theorem refusesFirst_append {before after : List Turn} (h : .refuses ∉ before) :
    RefusesFirst (before ++ .refuses :: after) ↔ ∀ turn ∈ before, turn = .keeps := by
  have hmem : Turn.refuses ∈ before ++ .refuses :: after :=
    List.mem_append_right before List.mem_cons_self
  unfold RefusesFirst
  rw [imp_iff_right hmem]
  induction before with
  | nil => exact iff_of_true rfl fun _ hturn => absurd hturn List.not_mem_nil
  | cons turn before ih =>
    rw [List.mem_cons, not_or] at h
    rw [List.forall_mem_cons, List.cons_append, List.find?_cons]
    cases turn with
    | keeps =>
      rw [and_iff_right rfl]
      exact ih h.2 (List.mem_append_right before List.mem_cons_self)
    | changes => exact iff_of_false nofun fun hall => nomatch hall.1
    | refuses => exact absurd rfl h.1

theorem toPrimitives_injective : Function.Injective (RecipeIngredient.toPrimitives decimal) := by
  rintro ⟨id, item, quantity, isOptional⟩ ⟨id', item', quantity', isOptional'⟩ h
  obtain ⟨rfl, rfl, hquantity, rfl⟩ := RecipeIngredientPrimitives.mk.inj h
  obtain ⟨milli⟩ := quantity
  obtain ⟨milli'⟩ := quantity'
  obtain rfl : milli = milli' := DecimalJs.toString_inj.mp hquantity
  rfl

/-- Where other ingredients are not seen, they are the same. -/
theorem ingredients_of_observed {touched : Bool}
    (h : observed decimal (product.withIngredients touched now ingredients) =
      observed decimal product) : ingredients = product.ingredients :=
  List.map_injective_iff.mpr toPrimitives_injective
    (congrArg (fun seen => seen.1.ingredients) h)

/-- A list that loses or changes something is another one. -/
theorem filterMap_renewed_eq_iff : ingredients.filterMap (renewed entries) = ingredients ↔
    ∀ ingredient ∈ ingredients, renewed entries ingredient = some ingredient := by
  induction ingredients with
  | nil => exact iff_of_true rfl fun _ h => absurd h List.not_mem_nil
  | cons ingredient ingredients ih =>
    rw [List.forall_mem_cons, ← ih]
    cases hrenewed : renewed entries ingredient with
    | none =>
      rw [List.filterMap_cons_none hrenewed]
      refine iff_of_false (fun heq => ?_) fun h => nomatch h.1
      have hlength := List.length_filterMap_le (renewed entries) ingredients
      rw [heq, List.length_cons] at hlength
      omega
    | some changed =>
      rw [List.filterMap_cons_some hrenewed, List.cons.injEq, Option.some.injEq]

theorem removesSome_eq_false
    (h : ∀ ingredient ∈ ingredients, renewed entries ingredient = some ingredient) :
    removesSome entries ingredients = false := by
  unfold removesSome
  rw [List.any_eq_false]
  intro ingredient hingredient hnone
  have hsome := h ingredient hingredient
  rw [renewed, Option.isNone_iff_eq_none.mp hnone] at hsome
  cases hsome

theorem turns_keep_iff (h : ∀ ingredient ∈ ingredients, ¬ Refused entries ingredient) :
    (∀ turn ∈ ingredients.map (turnOf entries), turn = .keeps) ↔
      ∀ ingredient ∈ ingredients, renewed entries ingredient = some ingredient := by
  rw [List.forall_mem_map]
  exact forall₂_congr fun ingredient hmem => turnOf_eq_keeps_iff (h ingredient hmem)

theorem refuses_notMem (h : ∀ ingredient ∈ ingredients, ¬ Refused entries ingredient) :
    .refuses ∉ ingredients.map (turnOf entries) := by
  intro hmem
  obtain ⟨ingredient, hingredient, hturn⟩ := List.mem_map.mp hmem
  exact h ingredient hingredient (turnOf_eq_refuses_iff.mp hturn)

theorem refuses_notMem_new (h : ∀ entry ∈ entries, Missing ingredients entry →
    entry.quantity.isZero = false) : .refuses ∉ entries.map (turnOfEntry ingredients) := by
  intro hmem
  obtain ⟨entry, hentry, hturn⟩ := List.mem_map.mp hmem
  unfold turnOfEntry at hturn
  by_cases hmissing : Missing ingredients entry
  · have hzero := h entry hentry hmissing
    rw [if_pos hmissing, hzero] at hturn
    cases hturn
  · rw [if_neg hmissing] at hturn
    cases hturn

theorem any_missing_eq_false (h : ∀ entry ∈ entries, ¬ Missing ingredients entry) :
    entries.any (Missing ingredients) = false := by
  rw [List.any_eq_false]
  intro entry hentry hmissing
  exact h entry hentry (of_decide_eq_true hmissing)

/-- After the second loop has stopped, nothing is seen where it kept all that it read. -/
theorem observed_refused_iff {copy left : List RecipeIngredient} {current : RecipeIngredient}
    (hproduct : product.ingredients = copy ++ current :: left) :
    observed decimal (product.withIngredients (removesSome entries copy) now
        (copy.filterMap (renewed entries) ++ current :: left)) = observed decimal product ↔
      ∀ ingredient ∈ copy, renewed entries ingredient = some ingredient := by
  constructor
  · intro hseen
    have hsame := ingredients_of_observed hseen
    rw [hproduct] at hsame
    exact filterMap_renewed_eq_iff.mp (List.append_cancel_right hsame)
  · intro hkeeps
    rw [removesSome_eq_false hkeeps, filterMap_renewed_eq_iff.mpr hkeeps, ← hproduct]
    rfl

/-- After the third loop has stopped, nothing is seen where the second one kept all
    and the third one had nothing to add. -/
theorem observed_refused_new_iff {before : List RecipeEntry} :
    observed decimal (product.withIngredients
        (removesSome entries product.ingredients || before.any (Missing product.ingredients)) now
        (product.ingredients.filterMap (renewed entries) ++
          (before.filter (Missing product.ingredients)).map (added newId))) =
      observed decimal product ↔
    (∀ ingredient ∈ product.ingredients, renewed entries ingredient = some ingredient) ∧
      ∀ entry ∈ before, ¬ Missing product.ingredients entry := by
  constructor
  · intro hseen
    have hsame := ingredients_of_observed hseen
    have hpresent : ∀ entry ∈ before, ¬ Missing product.ingredients entry := by
      intro entry hentry hmissing
      apply hmissing
      rw [← hsame, List.map_append, List.mem_append]
      have hfilter : entry ∈ before.filter (Missing product.ingredients) :=
        List.mem_filter.mpr ⟨hentry, decide_eq_true hmissing⟩
      exact .inr (List.mem_map_of_mem (List.mem_map_of_mem hfilter))
    rw [filter_missing_eq_nil hpresent, List.map_nil, List.append_nil] at hsame
    exact ⟨filterMap_renewed_eq_iff.mp hsame, hpresent⟩
  · rintro ⟨hkeeps, hpresent⟩
    rw [removesSome_eq_false hkeeps, filterMap_renewed_eq_iff.mpr hkeeps,
      any_missing_eq_false hpresent, filter_missing_eq_nil hpresent, List.map_nil,
      List.append_nil]
    rfl

theorem turns_refused {copy left : List RecipeIngredient} {current : RecipeIngredient}
    (hingredients : ingredients = copy ++ current :: left) (h : Refused entries current) :
    turns entries ingredients = copy.map (turnOf entries) ++
      .refuses :: (left.map (turnOf entries) ++ entries.map (turnOfEntry ingredients)) := by
  rw [← turnOf_eq_refuses_iff.mpr h, turns, hingredients, List.map_append, List.map_cons,
    List.append_assoc, List.cons_append]

theorem turns_refused_new {before after : List RecipeEntry}
    (hentries : entries = before ++ entry :: after) (hmissing : Missing ingredients entry)
    (hzero : entry.quantity.isZero = true) :
    turns entries ingredients =
      (ingredients.map (turnOf entries) ++ before.map (turnOfEntry ingredients)) ++
        .refuses :: after.map (turnOfEntry ingredients) := by
  have hrefuses : turnOfEntry ingredients entry = .refuses := by
    rw [turnOfEntry, if_pos hmissing, if_pos hzero]
  unfold turns
  rw [hentries, List.map_append, List.map_cons, hrefuses, List.append_assoc]

theorem atomicAt_replaceRecipe_iff :
    AtomicAt (observed decimal) (exec (replaceRecipe newId entries now)) product ↔
      ¬ (entries.map (·.inventoryItemId)).Nodup ∨
        RefusesFirst (turns entries product.ingredients) := by
  cases replaceEnds newId entries now product with
  | repeated hrepeated =>
    obtain ⟨e, herror⟩ := @replaceRecipe_repeated newId now product entries hrepeated
    refine iff_of_true (atomicAt_of_same ?_) (.inl hrepeated)
    rw [herror]
  | refused hnodup hproduct hcopy hcurrent =>
    rw [atomicAt_iff_of_error (replaceRecipe_refused hnodup hproduct hcopy hcurrent),
      or_iff_right (not_not.mpr hnodup), turns_refused hproduct hcurrent,
      refusesFirst_append (refuses_notMem hcopy), turns_keep_iff hcopy]
    exact observed_refused_iff hproduct
  | @refusedNew before after entry hnodup hexisting hentries hbefore hmissing hzero =>
    have hnone : Turn.refuses ∉ product.ingredients.map (turnOf entries) ++
        before.map (turnOfEntry product.ingredients) := by
      rw [List.mem_append, not_or]
      exact ⟨refuses_notMem hexisting, refuses_notMem_new hbefore⟩
    rw [atomicAt_iff_of_error (replaceRecipe_refused_new hnodup hexisting hentries hbefore hmissing
      hzero), or_iff_right (not_not.mpr hnodup), turns_refused_new hentries hmissing hzero,
      refusesFirst_append hnone, List.forall_mem_append, turns_keep_iff hexisting,
      List.forall_mem_map, observed_refused_new_iff]
    simp only [turnOfEntry_eq_keeps_iff]
  | replaced hnodup hexisting hnew =>
    refine iff_of_true (atomicAt_of_ok (replaceRecipe_ok hnodup hexisting hnew)) (.inr ?_)
    intro hmem
    rcases List.mem_append.mp hmem with hmem | hmem
    · exact absurd hmem (refuses_notMem hexisting)
    · exact absurd hmem (refuses_notMem_new hnew)

/-! ## All the methods -/

/-- The calls of which nothing is seen where they throw. -/
def Call.ChecksFirst (rounded : ℚ → ℚ) (decimal : DecimalJs) (product : ProductAggregate) :
    Call → Prop
  | .update changes =>
    product.fields.status = .deleted ∨
      (assign changes product.fields).ensurePricingIsConsistent rounded decimal = .ok () ∨
      Unchanging changes product.fields
  | .replaceRecipe entries =>
    ¬ (entries.map (·.inventoryItemId)).Nodup ∨ RefusesFirst (turns entries product.ingredients)
  | _ => True

/-- The methods that change a product show nothing of a call that throws, except in
    two cases: `update` with a pricing that is not consistent and something that
    changes, on a product that was not deleted; and `replaceRecipe` with no item
    twice and a quantity of zero that is met after an ingredient was removed,
    changed or added. -/
theorem atomic_iff (rounded : ℚ → ℚ) (decimal : DecimalJs) (newId : Uuid → Uuid)
    (product : ProductAggregate) (call : Call) (now : Instant) :
    (∀ e after, (call.method rounded decimal newId now).exec product = (.error e, after) →
      after.toPrimitives decimal = product.toPrimitives decimal ∧
        after.fields.domainEvents = product.fields.domainEvents) ↔
    call.ChecksFirst rounded decimal product := by
  have hobserved : (∀ e after,
      (call.method rounded decimal newId now).exec product = (.error e, after) →
        after.toPrimitives decimal = product.toPrimitives decimal ∧
          after.fields.domainEvents = product.fields.domainEvents) ↔
      AtomicAt (observed decimal) (exec (call.method rounded decimal newId now)) product := by
    unfold AtomicAt observed
    simp only [Prod.mk.injEq]
  rw [hobserved]
  cases call with
  | update changes => exact atomicAt_update_iff
  | replaceRecipe entries => exact atomicAt_replaceRecipe_iff
  | addIngredient params => exact iff_of_true atomicAt_addIngredient trivial
  | changeIngredient inventoryItemId quantity isOptional =>
    exact iff_of_true atomicAt_changeIngredient trivial
  | removeIngredient inventoryItemId => exact iff_of_true atomicAt_removeIngredient trivial
  | changeStatus next => exact iff_of_true (atomicAt_of_function (changeStatus_agrees next)) trivial
  | delete deletedBy => exact iff_of_true (atomicAt_of_function (delete_agrees deletedBy)) trivial

/-- A higher price for the same cost and margin. -/
def samplePrice : ProductChanges :=
  let params := Product.sampleParams 20 7 Product.sampleMargin
  { productCategoryId := params.productCategoryId
    productName := params.productName
    productDescription := params.productDescription
    productImgUrl := params.productImgUrl
    productBasePrice := params.productBasePrice
    productCost := params.productCost
    profitMargin := params.profitMargin }

/-- `update` throws, and the product has the price that it refused. -/
theorem not_atomic_update :
    ¬ ∀ e after, (Call.method toPrecision plainDecimal id 1000 (.update samplePrice)).exec
        sampleProduct = (.error e, after) →
      after.toPrimitives plainDecimal = sampleProduct.toPrimitives plainDecimal ∧
        after.fields.domainEvents = sampleProduct.fields.domainEvents := by
  intro h
  have hatomic : AtomicAt (observed plainDecimal)
      (exec (update toPrecision plainDecimal samplePrice 1000)) sampleProduct :=
    fun e after herror => Prod.ext (h e after herror).1 (h e after herror).2
  rcases atomicAt_update_iff.mp hatomic with hdeleted | hpricing | hsame
  · exact absurd hdeleted (by decide)
  · exact absurd hpricing (by decide +kernel)
  · exact absurd hsame.2.2.2.2.1 (by decide)

/-- In a list without a repeated item, a quantity of zero after one that changes
    is not refused first, and before it is. -/
example :
    RefusesFirst (turns [⟨js "item-1", ⟨0⟩, false⟩, ⟨js "item-2", ⟨3000⟩, false⟩]
      sampleProduct.ingredients) ∧
    ¬ RefusesFirst (turns [⟨js "item-1", ⟨3000⟩, false⟩, ⟨js "item-2", ⟨0⟩, false⟩]
      sampleProduct.ingredients) := by decide

end ProductAggregate

end KomiSaas.Products
