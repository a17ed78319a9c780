import KomiSaas.Shared.Js
import KomiSaas.Lib.ForeignKeys

/-!
# `TypeOrmSeedDataCleaner`

`seed/infrastructure/persistence/adapters/typeorm-seed-data-cleaner.adapter.ts`:
eleven `DELETE` statements in one transaction, over the foreign keys of
`public/db/01-init.sql`, `public/db/03-sessions.sql` and `public/db/tables/`.

The statements come in the order that the foreign keys ask for
(`ordered_statements`). So the transaction fails only where a row of another
business points at one of those to remove, and else removes all of them at once
and nothing else (`cleaner_removes_businesses`).
-/

namespace KomiSaas.Seed

open KomiSaas.Lib.ForeignKeys KomiSaas.Shared

/-- The tables with a foreign key to or from a business. -/
inductive Table where
  | tenants
  | branches
  | roles
  | users
  | sessions
  | productCategory
  | product
  | recipeIngredients
  | productBranchConfigs
  | inventoryItems
  | inventoryBatchs
  | inventoryBranchConfigs
  | inventoryMovements
  deriving DecidableEq

/-- A row: its id, and the columns that the statements or the foreign keys read. -/
inductive Row where
  | tenant (id : Uuid) (slug : JsString)
  | branch (id tenantId : Uuid)
  | rol (id : Uuid)
  | user (id tenantId : Uuid) (branchId : Option Uuid) (rolId : Uuid)
  | session (id userId tenantId : Uuid) (replacedBySessionId : Option Uuid)
  | productCategory (id tenantId : Uuid)
  | product (id tenantId productCategoryId : Uuid)
  | recipeIngredient (id productId inventoryItemId : Uuid)
  | productBranchConfig (id tenantId productId branchId : Uuid)
  | inventoryItem (id tenantId : Uuid)
  | inventoryBatch (id inventoryItemId branchId : Uuid)
  | inventoryBranchConfig (id inventoryItemId branchId : Uuid)
  | inventoryMovement (id tenantId inventoryItemId branchId : Uuid)
  deriving DecidableEq

/-- A row of a table is told by its id. -/
structure Key where
  table : Table
  id : Uuid
  deriving DecidableEq

namespace Row

def key : Row → Key
  | tenant id _ => ⟨.tenants, id⟩
  | branch id _ => ⟨.branches, id⟩
  | rol id => ⟨.roles, id⟩
  | user id _ _ _ => ⟨.users, id⟩
  | session id _ _ _ => ⟨.sessions, id⟩
  | productCategory id _ => ⟨.productCategory, id⟩
  | product id _ _ => ⟨.product, id⟩
  | recipeIngredient id _ _ => ⟨.recipeIngredients, id⟩
  | productBranchConfig id _ _ _ => ⟨.productBranchConfigs, id⟩
  | inventoryItem id _ => ⟨.inventoryItems, id⟩
  | inventoryBatch id _ _ => ⟨.inventoryBatchs, id⟩
  | inventoryBranchConfig id _ _ => ⟨.inventoryBranchConfigs, id⟩
  | inventoryMovement id _ _ _ => ⟨.inventoryMovements, id⟩

/-- The foreign keys with `ON DELETE RESTRICT`, and the one of
    `inventory_branch_configs` without an action, which refuses as well. -/
def restricts : Row → List Key
  | branch _ tenantId => [⟨.tenants, tenantId⟩]
  | user _ tenantId branchId rolId =>
    [⟨.tenants, tenantId⟩, ⟨.roles, rolId⟩] ++ branchId.toList.map fun id => ⟨.branches, id⟩
  | session _ _ tenantId _ => [⟨.tenants, tenantId⟩]
  | productCategory _ tenantId => [⟨.tenants, tenantId⟩]
  | product _ tenantId productCategoryId =>
    [⟨.tenants, tenantId⟩, ⟨.productCategory, productCategoryId⟩]
  | recipeIngredient _ _ inventoryItemId => [⟨.inventoryItems, inventoryItemId⟩]
  | productBranchConfig _ tenantId _ branchId => [⟨.tenants, tenantId⟩, ⟨.branches, branchId⟩]
  | inventoryItem _ tenantId => [⟨.tenants, tenantId⟩]
  | inventoryBatch _ inventoryItemId branchId =>
    [⟨.inventoryItems, inventoryItemId⟩, ⟨.branches, branchId⟩]
  | inventoryBranchConfig _ inventoryItemId _ => [⟨.inventoryItems, inventoryItemId⟩]
  | inventoryMovement _ _ inventoryItemId branchId =>
    [⟨.inventoryItems, inventoryItemId⟩, ⟨.branches, branchId⟩]
  | tenant .. | rol .. => []

/-- The foreign keys with `ON DELETE CASCADE`. -/
def cascades : Row → List Key
  | session _ userId _ _ => [⟨.users, userId⟩]
  | recipeIngredient _ productId _ => [⟨.product, productId⟩]
  | productBranchConfig _ _ productId _ => [⟨.product, productId⟩]
  | _ => []

/-- The one with `ON DELETE SET NULL`, `fk_sessions_replaced_by`. -/
def nulls : Row → List Key
  | session _ _ _ replacedBySessionId => replacedBySessionId.toList.map fun id => ⟨.sessions, id⟩
  | _ => []

def clear (q : Key → Bool) : Row → Row
  | session id userId tenantId replacedBySessionId =>
    session id userId tenantId (replacedBySessionId.filter fun id => !q ⟨.sessions, id⟩)
  | r => r

/-- The column `tenant_id`. -/
def tenantId : Row → Option Uuid
  | tenant id _ => some id
  | branch _ tenantId => some tenantId
  | user _ tenantId _ _ => some tenantId
  | session _ _ tenantId _ => some tenantId
  | productCategory _ tenantId => some tenantId
  | product _ tenantId _ => some tenantId
  | productBranchConfig _ tenantId _ _ => some tenantId
  | inventoryItem _ tenantId => some tenantId
  | inventoryMovement _ tenantId _ _ => some tenantId
  | rol .. | recipeIngredient .. | inventoryBatch .. | inventoryBranchConfig .. => none

/-- The column `product_id` of the tables that point at a product. -/
def productId : Row → Option Uuid
  | recipeIngredient _ productId _ => some productId
  | productBranchConfig _ _ productId _ => some productId
  | _ => none

/-- The column `inventory_item_id` of the tables that point at an item. -/
def inventoryItemId : Row → Option Uuid
  | recipeIngredient _ _ inventoryItemId => some inventoryItemId
  | inventoryBatch _ inventoryItemId _ => some inventoryItemId
  | inventoryBranchConfig _ inventoryItemId _ => some inventoryItemId
  | inventoryMovement _ _ inventoryItemId _ => some inventoryItemId
  | _ => none

end Row

/-- The foreign keys of the database. -/
def schema : Schema Row Key where
  key := Row.key
  restricts := Row.restricts
  cascades := Row.cascades
  nulls := Row.nulls
  clear := Row.clear
  key_clear q r := by cases r <;> rfl
  restricts_clear q r := by cases r <;> rfl
  cascades_clear q r := by cases r <;> rfl
  nulls_clear q r := by
    cases r with
    | session id userId tenantId replacedBySessionId =>
      cases replacedBySessionId with
      | none => rfl
      | some successor =>
        by_cases h : q ⟨.sessions, successor⟩ = true <;>
          simp [Row.nulls, Row.clear, Option.filter, h]
    | _ => rfl
  clear_clear q q' r := by
    cases r with
    | session id userId tenantId replacedBySessionId =>
      simp [Row.clear, Option.filter_filter]
    | _ => rfl
  clear_none q r h := by
    cases r with
    | session id userId tenantId replacedBySessionId =>
      cases replacedBySessionId with
      | none => rfl
      | some successor =>
        have hkept : q ⟨.sessions, successor⟩ = false := h _ (List.mem_singleton_self _)
        simp [Row.clear, Option.filter, hkept]
    | _ => rfl

/-! ## The statements -/

/-- The rows of a table that belong to a business. -/
def owned (table : Table) (ids : List Uuid) (r : Row) : Bool :=
  r.key.table = table && r.tenantId.any (· ∈ ids)

/-- `SELECT … FROM table WHERE tenant_id = ANY($1)`. -/
def selected (table : Table) (ids : List Uuid) (rows : List Row) : List Uuid :=
  (schema.keys rows (owned table ids)).map Key.id

/-- The column that a statement compares. -/
inductive Criterion where
  | tenantId
  | productId
  | inventoryItemId
  deriving DecidableEq

/-- `DELETE FROM table WHERE …`. -/
structure Statement where
  table : Table
  criterion : Criterion
  deriving DecidableEq

/-- The `WHERE` of a statement. -/
def Statement.matches (ids : List Uuid) (statement : Statement) (rows : List Row) (r : Row) :
    Bool :=
  r.key.table = statement.table &&
    match statement.criterion with
    | .tenantId => r.tenantId.any (· ∈ ids)
    | .productId => r.productId.any (· ∈ selected .product ids rows)
    | .inventoryItemId => r.inventoryItemId.any (· ∈ selected .inventoryItems ids rows)

/-- Lines 39–51. -/
def statements : List Statement :=
  [⟨.sessions, .tenantId⟩,
    ⟨.inventoryMovements, .tenantId⟩,
    ⟨.recipeIngredients, .productId⟩,
    ⟨.product, .tenantId⟩,
    ⟨.productCategory, .tenantId⟩,
    ⟨.inventoryBranchConfigs, .inventoryItemId⟩,
    ⟨.inventoryBatchs, .inventoryItemId⟩,
    ⟨.inventoryItems, .tenantId⟩,
    ⟨.users, .tenantId⟩,
    ⟨.branches, .tenantId⟩,
    ⟨.tenants, .tenantId⟩]

/-- `SELECT tenant_id FROM tenants WHERE tenant_slug = ANY($1)`. -/
def tenantIds (slugs : List JsString) (rows : List Row) : List Uuid :=
  rows.filterMap fun
    | .tenant id slug => if slug ∈ slugs then some id else none
    | _ => none

/-- `removeTenantsBySlug` (lines 22–57); `none` is a transaction that is rolled back. -/
def removeTenantsBySlug (slugs : List JsString) (rows : List Row) : Option (List Row) :=
  let ids := tenantIds slugs rows
  if ids = [] then some rows
  else schema.deleteAll (statements.map (Statement.matches ids)) rows

/-! ## The order of the statements -/

variable {slugs : List JsString} {ids : List Uuid} {rows rows' : List Row} {r : Row}
  {table : Table}

@[simp] theorem key_clear (q : Key → Bool) (r : Row) : (r.clear q).key = r.key :=
  schema.key_clear q r

@[simp] theorem tenantId_clear (q : Key → Bool) (r : Row) : (r.clear q).tenantId = r.tenantId := by
  cases r <;> rfl

@[simp] theorem productId_clear (q : Key → Bool) (r : Row) :
    (r.clear q).productId = r.productId := by
  cases r <;> rfl

@[simp] theorem inventoryItemId_clear (q : Key → Bool) (r : Row) :
    (r.clear q).inventoryItemId = r.inventoryItemId := by
  cases r <;> rfl

/-- The tables that a table points at with `RESTRICT`. -/
def restrictTables : Table → List Table
  | .tenants | .roles => []
  | .branches | .sessions | .productCategory | .inventoryItems => [.tenants]
  | .users => [.tenants, .roles, .branches]
  | .product => [.tenants, .productCategory]
  | .recipeIngredients | .inventoryBranchConfigs => [.inventoryItems]
  | .productBranchConfigs => [.tenants, .branches]
  | .inventoryBatchs | .inventoryMovements => [.inventoryItems, .branches]

/-- The tables whose rows go with those of a table. -/
def cascadeTables : Table → List Table
  | .users => [.sessions]
  | .product => [.recipeIngredients, .productBranchConfigs]
  | _ => []

/-- The tables that a statement removes rows of. -/
def Statement.tables (statement : Statement) : List Table :=
  statement.table :: cascadeTables statement.table

theorem table_of_restricts {k : Key} (h : k ∈ r.restricts) :
    k.table ∈ restrictTables r.key.table := by
  have hsubset : r.restricts.map Key.table ⊆ restrictTables r.key.table := by
    cases r with
    | user id tenantId branchId rolId =>
      cases branchId <;> simp [Row.restricts, Row.key, restrictTables]
    | _ => exact List.Subset.refl _
  exact hsubset (List.mem_map_of_mem h)

theorem table_of_cascades {k : Key} (h : k ∈ r.cascades) :
    r.key.table ∈ cascadeTables k.table := by
  cases r with
  | session | recipeIngredient | productBranchConfig =>
    obtain rfl := List.mem_singleton.mp h
    simp [Row.key, cascadeTables]
  | _ => cases h

/-- No row cascades to one that cascades itself. -/
theorem cascades_eq_nil {r' : Row} (h : r'.key ∈ r.cascades) : r'.cascades = [] := by
  have htable := table_of_cascades h
  cases r' with
  | session | recipeIngredient | productBranchConfig => cases htable
  | _ => rfl

/-- What a statement removes of the tables as they were. -/
def Statement.removes (ids : List Uuid) (rows : List Row) (statement : Statement) : Row → Bool :=
  schema.cascade (statement.matches ids rows) rows (statement.matches ids rows)

def Statement.stage (ids : List Uuid) (rows : List Row) (statement : Statement) :
    Schema.Stage Row where
  statement := statement.matches ids
  removes := statement.removes ids rows

theorem table_of_matches {statement : Statement} (h : statement.matches ids rows r = true) :
    r.key.table = statement.table := by
  rw [Statement.matches, Bool.and_eq_true] at h
  exact of_decide_eq_true h.1

theorem table_of_removes {statement : Statement} (h : statement.removes ids rows r = true) :
    r.key.table ∈ statement.tables := by
  rcases schema.cascade_iff.mp h with h | ⟨r', -, hmatches, hk⟩
  · rw [table_of_matches h]
    exact List.mem_cons_self
  · refine List.mem_cons_of_mem _ ?_
    rw [← table_of_matches hmatches]
    exact table_of_cascades hk

theorem matches_clear {statement : Statement} (q : Key → Bool) :
    statement.matches ids rows (r.clear q) = statement.matches ids rows r := by
  rw [Statement.matches, Statement.matches, key_clear, tenantId_clear, productId_clear,
    inventoryItemId_clear]

theorem unaffected_removes {statement : Statement} :
    schema.Unaffected (statement.removes ids rows) := by
  intro q r
  rw [Statement.removes, Bool.eq_iff_iff, schema.cascade_iff, schema.cascade_iff,
    schema.cascades_clear]
  exact or_congr_left (Bool.eq_iff_iff.mp (matches_clear q))

/-- A subselect of a table that no earlier statement touched finds what it found
    before. -/
theorem selected_without {done : Row → Bool} (h : ∀ r, done r = true → r.key.table ≠ table) :
    selected table ids (schema.without done rows) = selected table ids rows := by
  have hunaffected : schema.Unaffected (owned table ids) := by
    intro q r
    show owned table ids (r.clear q) = _
    rw [owned, owned, key_clear, tenantId_clear]
  rw [selected, Schema.keys_without hunaffected, selected]
  refine congrArg (List.map Key.id) (schema.keys_congr fun r _ => ?_)
  by_cases hdone : done r = true
  · rw [hdone, Bool.not_true, Bool.false_and, owned, decide_eq_false (h r hdone), Bool.false_and]
  · rw [(Bool.not_eq_true _).mp hdone, Bool.not_false, Bool.true_and]

/-- The tables that the `WHERE` and the cascades of a statement read. -/
def Statement.reads (statement : Statement) : List Table :=
  statement.table ::
    match statement.criterion with
    | .tenantId => []
    | .productId => [.product]
    | .inventoryItemId => [.inventoryItems]

/-- No statement reads a table of an earlier one, or removes rows that a later one's
    point at with `RESTRICT`. -/
def wellOrdered : List Statement → Bool
  | [] => true
  | statement :: later =>
    (later.all fun other => other.reads.all (· ∉ statement.tables) &&
      other.tables.all fun table => (restrictTables table).all (· ∉ statement.tables)) &&
      wellOrdered later

theorem wellOrdered_statements : wellOrdered statements = true := by decide

theorem matches_without {done : Row → Bool} {statement : Statement}
    (h : ∀ r, done r = true → r.key.table ∉ statement.reads) :
    statement.matches ids (schema.without done rows) = statement.matches ids rows := by
  funext r
  rw [Statement.matches, Statement.matches]
  cases hcriterion : statement.criterion with
  | tenantId => rfl
  | productId =>
    rw [@selected_without ids rows .product done fun r hr htable => h r hr (by
      rw [Statement.reads, hcriterion, htable]
      exact List.mem_cons_of_mem _ (List.mem_singleton_self _))]
  | inventoryItemId =>
    rw [@selected_without ids rows .inventoryItems done fun r hr htable => h r hr (by
      rw [Statement.reads, hcriterion, htable]
      exact List.mem_cons_of_mem _ (List.mem_singleton_self _))]

/-- A statement removes after the earlier ones what it would have removed at first. -/
theorem gone_without {done : Row → Bool} {statement : Statement}
    (h : ∀ r, done r = true → r.key.table ∉ statement.reads) (hr : r ∈ schema.without done rows) :
    schema.gone (statement.matches ids (schema.without done rows)) (schema.without done rows) r =
      statement.removes ids rows r := by
  have hflat : ∀ r ∈ schema.without done rows, ∀ r' ∈ schema.without done rows,
      schema.key r' ∈ schema.cascades r → schema.cascades r' = [] :=
    fun _ _ _ _ hk => cascades_eq_nil hk
  have hkeys : schema.keys (schema.without done rows) (statement.matches ids rows) =
      schema.keys rows (statement.matches ids rows) := by
    rw [Schema.keys_without fun q r => matches_clear q]
    refine schema.keys_congr fun r _ => ?_
    by_cases hmatches : statement.matches ids rows r = true
    · have hstays : done r = false := by
        by_contra hdone
        refine h r ((Bool.not_eq_false _).mp hdone) ?_
        rw [table_of_matches hmatches]
        exact List.mem_cons_self
      rw [hstays, Bool.not_false, Bool.true_and]
    · rw [(Bool.not_eq_true _).mp hmatches, Bool.and_false]
  rw [schema.gone_eq_cascade hflat hr, matches_without h, Statement.removes, Schema.cascade, hkeys,
    Schema.cascade]

theorem ordered_of_wellOrdered {done : Row → Bool} {stmts : List Statement}
    (hdone : ∀ r, done r = true → ∀ statement ∈ stmts, r.key.table ∉ statement.reads)
    (h : wellOrdered stmts = true) :
    schema.Ordered rows done (stmts.map (Statement.stage ids rows)) := by
  induction stmts generalizing done with
  | nil => trivial
  | cons statement later ih =>
    rw [wellOrdered, Bool.and_eq_true, List.all_eq_true] at h
    obtain ⟨hlater, hrest⟩ := h
    simp only [Bool.and_eq_true, List.all_eq_true, decide_eq_true_eq] at hlater
    refine ⟨unaffected_removes, fun r hr => ?_, ?_, ?_⟩
    · exact gone_without (fun r hr => hdone r hr statement List.mem_cons_self) hr
    · rintro r - ⟨stage, hstage, hremoves⟩ r' - hremoves' hkey
      obtain ⟨other, hother, rfl⟩ := List.mem_map.mp hstage
      exact (hlater other hother).2 _ (table_of_removes hremoves) _ (table_of_restricts hkey)
        (table_of_removes hremoves')
    · refine ih (fun r hr other hother hreads => ?_) hrest
      rcases Bool.or_eq_true_iff.mp hr with hr | hr
      · exact hdone r hr other (List.mem_cons_of_mem _ hother) hreads
      · exact (hlater other hother).1 _ hreads (table_of_removes hr)

/-- The eleven statements come in the order of the foreign keys. -/
theorem ordered_statements :
    schema.Ordered rows (fun _ => false) (statements.map (Statement.stage ids rows)) :=
  ordered_of_wellOrdered (fun _ h => absurd h Bool.false_ne_true) wellOrdered_statements

/-! ## What is removed -/

/-- The rows of some businesses: those with their `tenant_id`, and those that hang from
    such a user, product or item. -/
def ofBusinesses (ids : List Uuid) (rows : List Row) : Row → Bool
  | .tenant id _ => id ∈ ids
  | .branch _ tenantId => tenantId ∈ ids
  | .rol _ => false
  | .user _ tenantId _ _ => tenantId ∈ ids
  | .session _ userId tenantId _ => tenantId ∈ ids || userId ∈ selected .users ids rows
  | .productCategory _ tenantId => tenantId ∈ ids
  | .product _ tenantId _ => tenantId ∈ ids
  | .recipeIngredient _ productId _ => productId ∈ selected .product ids rows
  | .productBranchConfig _ _ productId _ => productId ∈ selected .product ids rows
  | .inventoryItem _ tenantId => tenantId ∈ ids
  | .inventoryBatch _ inventoryItemId _ => inventoryItemId ∈ selected .inventoryItems ids rows
  | .inventoryBranchConfig _ inventoryItemId _ =>
    inventoryItemId ∈ selected .inventoryItems ids rows
  | .inventoryMovement _ tenantId _ _ => tenantId ∈ ids

theorem mem_keys_matches_iff {id : Uuid} {statement : Statement}
    (hcriterion : statement.criterion = .tenantId) :
    ⟨table, id⟩ ∈ schema.keys rows (statement.matches ids rows) ↔
      table = statement.table ∧ id ∈ selected table ids rows := by
  have howned : statement.matches ids rows = owned statement.table ids := by
    funext r
    rw [Statement.matches, hcriterion, owned]
  rw [howned, selected, List.mem_map]
  constructor
  · intro h
    obtain ⟨r, -, hr, hkey⟩ := schema.mem_keys.mp h
    have htable : table = statement.table := by
      rw [owned, Bool.and_eq_true] at hr
      rw [← of_decide_eq_true hr.1]
      exact (congrArg Key.table hkey).symm
    rw [← htable] at h
    exact ⟨htable, _, h, rfl⟩
  · rintro ⟨rfl, ⟨table, id⟩, h, rfl⟩
    obtain ⟨r, -, hr, hkey⟩ := schema.mem_keys.mp h
    rw [owned, Bool.and_eq_true] at hr
    have htable : statement.table = table :=
      (of_decide_eq_true hr.1).symm.trans (congrArg Key.table hkey)
    rw [htable] at h ⊢
    exact h

/-- A statement removes the rows that its `WHERE` matches and, by the `tenant_id` of what
    they hang from, those that go with them. -/
theorem removes_iff {statement : Statement} (h : statement ∈ statements) :
    statement.removes ids rows r = true ↔ statement.matches ids rows r = true ∨
      ∃ k ∈ r.cascades, k.table = statement.table ∧ k.id ∈ selected statement.table ids rows := by
  rw [Statement.removes, schema.cascade_iff, ← schema.any_mem_keys, List.any_eq_true]
  refine or_congr_right (exists_congr fun k => and_congr_right fun hk => ?_)
  refine decide_eq_true_iff.trans ?_
  obtain ⟨table, id⟩ := k
  by_cases hcriterion : statement.criterion = .tenantId
  · rw [mem_keys_matches_iff hcriterion]
    exact and_congr_right fun htable => by rw [htable]
  · have hno : cascadeTables statement.table = [] := by
      revert hcriterion
      revert statement
      decide
    have hne : table ≠ statement.table := by
      rintro rfl
      have htable := table_of_cascades hk
      rw [hno] at htable
      cases htable
    refine iff_of_false (fun hmem => hne ?_) fun h => hne h.1
    obtain ⟨r', -, hmatches, hkey⟩ := schema.mem_keys.mp hmem
    rw [← table_of_matches hmatches]
    exact (congrArg Key.table hkey).symm

theorem any_removes (r : Row) :
    (statements.map (Statement.stage ids rows)).any (·.removes r) = ofBusinesses ids rows r := by
  have hiff : (statements.map (Statement.stage ids rows)).any (·.removes r) = true ↔
      ∃ statement ∈ statements, statement.matches ids rows r = true ∨
        ∃ k ∈ r.cascades, k.table = statement.table ∧ k.id ∈ selected statement.table ids rows := by
    rw [List.any_map, List.any_eq_true]
    exact exists_congr fun statement => and_congr_right fun h => removes_iff h
  rw [Bool.eq_iff_iff, hiff]
  cases r <;> simp [statements, Statement.matches, Row.key, Row.cascades, Row.tenantId,
    Row.productId, Row.inventoryItemId, ofBusinesses]

theorem ofBusinesses_nil : ofBusinesses [] rows = fun _ => false := by
  have hselected : ∀ table, selected table [] rows = [] := by
    intro table
    have hnone : owned table [] = fun _ => false := by
      funext r
      cases htenant : r.tenantId <;> simp [owned, htenant]
    simp [selected, Schema.keys, hnone]
  funext r
  cases r <;> simp [ofBusinesses, hselected]

/-- The eleven statements, as one deletion. -/
theorem removeTenantsBySlug_eq :
    removeTenantsBySlug slugs rows =
      if schema.refuses (ofBusinesses (tenantIds slugs rows) rows) rows then none
      else some (schema.without (ofBusinesses (tenantIds slugs rows) rows) rows) := by
  unfold removeTenantsBySlug
  by_cases hids : tenantIds slugs rows = []
  · have hkept : schema.refuses (fun _ => false) rows = false := by
      rw [Bool.eq_false_iff]
      intro h
      obtain ⟨_, -, -, _, -, hgoes, -⟩ := schema.refuses_iff.mp h
      cases hgoes
    rw [hids, if_pos rfl, ofBusinesses_nil, hkept, Schema.without_none,
      if_neg Bool.false_ne_true]
  · have heq := Schema.deleteAll_eq (@ordered_statements (tenantIds slugs rows) rows)
    rw [funext fun r => any_removes r, List.map_map] at heq
    rw [if_neg hids]
    exact heq

/-- The users and products of the businesses are those that the subselects find. -/
theorem mem_selected_of_ofBusinesses {r' : Row} (hr' : r' ∈ rows)
    (hgoes : ofBusinesses ids rows r' = true) (h : r'.cascades = [] ∧ r'.tenantId.isSome = true) :
    r'.key.id ∈ selected r'.key.table ids rows := by
  have howned : owned r'.key.table ids r' = true := by
    obtain ⟨hcascades, htenant⟩ := h
    cases r' with
    | session | recipeIngredient | productBranchConfig => cases hcascades
    | rol | inventoryBatch | inventoryBranchConfig => cases htenant
    | _ => exact Bool.and_eq_true_iff.mpr ⟨decide_eq_true rfl, hgoes⟩
  exact List.mem_map.mpr ⟨r'.key, schema.mem_keys.mpr ⟨r', hr', howned, rfl⟩, rfl⟩

/-- A row that hangs with `CASCADE` from one of the businesses is one of theirs. -/
theorem ofBusinesses_of_cascades {r' : Row} (hr' : r' ∈ rows)
    (hgoes : ofBusinesses ids rows r' = true) (hkey : r'.key ∈ r.cascades) :
    ofBusinesses ids rows r = true := by
  have htenant : r'.tenantId.isSome = true := by
    have htable := table_of_cascades hkey
    cases r' with
    | rol | recipeIngredient | inventoryBatch | inventoryBranchConfig => cases htable
    | _ => rfl
  have hmem := mem_selected_of_ofBusinesses hr' hgoes ⟨cascades_eq_nil hkey, htenant⟩
  cases r with
  | session id userId tenantId replacedBySessionId =>
    rw [List.mem_singleton.mp hkey] at hmem
    exact Bool.or_eq_true_iff.mpr (.inr (decide_eq_true hmem))
  | recipeIngredient | productBranchConfig =>
    rw [List.mem_singleton.mp hkey] at hmem
    exact decide_eq_true hmem
  | _ => cases hkey

/-- No business is left with one of the slugs. -/
theorem tenantIds_without :
    tenantIds slugs (schema.without (ofBusinesses (tenantIds slugs rows) rows) rows) = [] := by
  rw [tenantIds, List.filterMap_eq_nil_iff]
  intro r' hr'
  obtain ⟨r, hr, rfl⟩ := List.mem_map.mp hr'
  obtain ⟨hr, hstays⟩ := List.mem_filter.mp hr
  cases r with
  | tenant id slug =>
    refine if_neg fun hslug => ?_
    have hid : id ∈ tenantIds slugs rows :=
      List.mem_filterMap.mpr ⟨.tenant id slug, hr, if_pos hslug⟩
    rw [ofBusinesses, decide_eq_true hid] at hstays
    cases hstays
  | _ => rfl

/-- For all tables: the transaction is rolled back exactly where a row of another
    business points with `RESTRICT` at one of those to remove. Where it is not, what is
    left are the other rows as they were, but for pointers at sessions that are gone;
    the foreign keys hold again, and no slug is taken. -/
theorem cleaner_removes_businesses (slugs : List JsString) (rows : List Row) :
    (removeTenantsBySlug slugs rows = none ↔
      ∃ r ∈ rows, ofBusinesses (tenantIds slugs rows) rows r = false ∧
        ∃ r' ∈ rows, ofBusinesses (tenantIds slugs rows) rows r' = true ∧
          r'.key ∈ r.restricts) ∧
    ∀ rows', removeTenantsBySlug slugs rows = some rows' →
      rows' = schema.without (ofBusinesses (tenantIds slugs rows) rows) rows ∧
        (schema.Integrity rows → schema.Integrity rows') ∧ tenantIds slugs rows' = [] := by
  rw [removeTenantsBySlug_eq]
  by_cases hrefuses : schema.refuses (ofBusinesses (tenantIds slugs rows) rows) rows = true
  · rw [if_pos hrefuses]
    exact ⟨iff_of_true rfl (schema.refuses_iff.mp hrefuses), fun _ h => (by cases h)⟩
  · rw [if_neg hrefuses]
    refine ⟨iff_of_false (fun h => (by cases h)) fun h => hrefuses (schema.refuses_iff.mpr h), ?_⟩
    rintro rows' ⟨⟩
    refine ⟨rfl, fun hintegrity => ?_, tenantIds_without⟩
    refine Schema.integrity_without hintegrity ((Bool.not_eq_true _).mp hrefuses) ?_
    intro r _ k hk hmem
    obtain ⟨r', hr', hgoes, rfl⟩ := schema.mem_keys.mp hmem
    exact ofBusinesses_of_cascades hr' hgoes hk

/-- Two businesses. The first has a user with a renewed session, a product with its
    recipe and configuration, and an item with its batch, minimum and movement. -/
def sampleRows : List Row :=
  [.tenant (js "t1") (js "la-costena"), .tenant (js "t2") (js "el-rincon"),
    .branch (js "b1") (js "t1"), .branch (js "b2") (js "t2"), .rol (js "r1"),
    .user (js "u1") (js "t1") (some (js "b1")) (js "r1"), .user (js "u2") (js "t2") none (js "r1"),
    .session (js "s1") (js "u1") (js "t1") (some (js "s2")),
    .session (js "s2") (js "u1") (js "t1") none, .session (js "s3") (js "u2") (js "t2") none,
    .productCategory (js "c1") (js "t1"), .product (js "p1") (js "t1") (js "c1"),
    .inventoryItem (js "i1") (js "t1"), .inventoryItem (js "i2") (js "t2"),
    .recipeIngredient (js "g1") (js "p1") (js "i1"),
    .productBranchConfig (js "f1") (js "t1") (js "p1") (js "b1"),
    .inventoryBatch (js "l1") (js "i1") (js "b1"),
    .inventoryBranchConfig (js "m1") (js "i1") (js "b1"),
    .inventoryMovement (js "v1") (js "t1") (js "i1") (js "b1")]

/-- Only the rows of the second one are left. -/
example : removeTenantsBySlug [js "la-costena"] sampleRows =
    some [.tenant (js "t2") (js "el-rincon"), .branch (js "b2") (js "t2"), .rol (js "r1"),
      .user (js "u2") (js "t2") none (js "r1"), .session (js "s3") (js "u2") (js "t2") none,
      .inventoryItem (js "i2") (js "t2")] := by
  decide +kernel

/-- A batch of the second one that lies in a branch of the first keeps the first from
    being removed. -/
example : removeTenantsBySlug [js "la-costena"]
    (sampleRows ++ [.inventoryBatch (js "l2") (js "i2") (js "b1")]) = none := by
  decide +kernel

end KomiSaas.Seed
