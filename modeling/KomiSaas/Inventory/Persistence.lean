import KomiSaas.Inventory.Reachable

/-!
# `InventoryItemPersistenceMapper`

`inventory/infrastructure/persistence/mappers/inventory-item.persistence-mapper.ts`, with
every column as the text or the value that it is for TypeORM. `Store.lean` has the same
rows with their numbers read; `toAggregate_toRow` relates the two.

Of an item with valid ids, a trimmed name and valid dates, the mapper prints rows that it
reads back, whichever way the numbers are printed, as long as they are read as the same
numbers (`toAggregate_printed`).

Result: `survives_persistence`.
-/

namespace KomiSaas.Inventory

open KomiSaas.Lib KomiSaas.Lib.Decimal KomiSaas.Shared

/-- `InventoryItemEntity`. -/
structure InventoryItemEntity where
  id : JsString
  tenantId : Uuid
  sku : JsString
  name : JsString
  unitOfMeasure : JsString
  isPerishable : Bool
  isActive : Bool
  minGlobalStock : Option JsString
  createdAt : Instant
  updatedAt : Instant
  deriving DecidableEq

/-- `InventoryBatchEntity`. -/
structure InventoryBatchEntity where
  id : JsString
  inventoryItemId : JsString
  branchId : Uuid
  quantityReceived : JsString
  quantityRemaining : JsString
  unitCostAmount : JsString
  unitCostCurrency : JsString
  expirationDate : Option JsDate
  receivedAt : JsDate
  deriving DecidableEq

/-- `InventoryBranchConfigEntity`. -/
structure InventoryBranchConfigEntity where
  id : JsString
  inventoryItemId : JsString
  branchId : Uuid
  minStock : JsString
  deriving DecidableEq

/-- The rows of one item, as `toPersistence` returns them. -/
structure InventoryItemEntities where
  item : InventoryItemEntity
  batch : List InventoryBatchEntity
  branchConfig : List InventoryBranchConfigEntity
  deriving DecidableEq

namespace InventoryItemPersistenceMapper

/-! ## The mapper -/

/-- The row of a batch (lines 75–87). An empty expiration date is none. -/
def toBatchEntity (parseDate : JsString → JsDate) (id : JsString)
    (batch : InventoryBatchPrimitives) : InventoryBatchEntity where
  id := batch.id
  inventoryItemId := id
  branchId := batch.branchId
  quantityReceived := batch.quantityReceived
  quantityRemaining := batch.quantityRemaining
  unitCostAmount := batch.unitCostAmount
  unitCostCurrency := batch.unitCostCurrency
  expirationDate := (truthy batch.expirationDate).map parseDate
  receivedAt := batch.receivedAt

/-- The row of a configuration (lines 89–96). -/
def toBranchConfigEntity (id : JsString) (config : InventoryBranchConfigPrimitives) :
    InventoryBranchConfigEntity where
  id := config.id
  inventoryItemId := id
  branchId := config.branchId
  minStock := config.minStock

/-- The rows of the primitives of an item (lines 62–98). -/
def toEntities (parseDate : JsString → JsDate) (p : InventoryItemPrimitives) :
    InventoryItemEntities where
  item :=
    { id := p.id
      tenantId := p.tenantId
      sku := p.sku
      name := p.name
      unitOfMeasure := p.unitOfMeasure
      isPerishable := p.isPerishable
      isActive := p.isActive
      minGlobalStock := p.minGlobalStock
      createdAt := p.createdAt
      updatedAt := p.updatedAt }
  batch := p.batches.map (toBatchEntity parseDate p.id)
  branchConfig := p.branchConfigs.map (toBranchConfigEntity p.id)

/-- `toPersistence` (lines 59–99). -/
def toPersistence (parseDate : JsString → JsDate) (decimal : DecimalJs) (item : InventoryItem) :
    InventoryItemEntities :=
  toEntities parseDate (item.toPrimitives decimal)

/-- `toISOString()`, which throws on the Invalid Date. -/
def toISOString : JsDate → Except AggregateException JsString
  | none => .error .invalidTimeValue
  | some date => .ok (isoText date)

/-- The primitives of a batch (lines 29–40). -/
def ofBatchEntity (batch : InventoryBatchEntity) :
    Except AggregateException InventoryBatchPrimitives := do
  let expirationDate ← readOptional toISOString batch.expirationDate
  return {
    id := batch.id
    branchId := batch.branchId
    quantityReceived := batch.quantityReceived
    quantityRemaining := batch.quantityRemaining
    unitCostAmount := batch.unitCostAmount
    unitCostCurrency := batch.unitCostCurrency
    expirationDate := expirationDate
    receivedAt := batch.receivedAt }

/-- The primitives of a configuration (lines 41–47). -/
def ofBranchConfigEntity (config : InventoryBranchConfigEntity) :
    InventoryBranchConfigPrimitives where
  id := config.id
  branchId := config.branchId
  minStock := config.minStock

/-- `toAggregate` (lines 17–52). -/
def toAggregate (isUuid : JsString → Bool) (parseDate : JsString → JsDate) (decimal : DecimalJs)
    (rows : InventoryItemEntities) : Except AggregateException InventoryItem := do
  let batches ← rows.batch.mapM ofBatchEntity
  InventoryItem.fromPrimitives isUuid parseDate decimal
    { id := rows.item.id
      tenantId := rows.item.tenantId
      sku := rows.item.sku
      name := rows.item.name
      unitOfMeasure := rows.item.unitOfMeasure
      isPerishable := rows.item.isPerishable
      isActive := rows.item.isActive
      minGlobalStock := rows.item.minGlobalStock
      createdAt := rows.item.createdAt
      updatedAt := rows.item.updatedAt
      batches := batches
      branchConfigs := rows.branchConfig.map ofBranchConfigEntity }

/-! ## The numeric columns -/

/-- What a column `NUMERIC(precision, scale)` gives back of the number that a text
    denotes; `none` where the number does not fit. -/
def numericColumn (decimal : DecimalJs) (precision scale : ℕ) (text : JsString) :
    Option JsString :=
  match decimal.parse text with
  | some (.finite false x) =>
    if toScale scale x < 10 ^ precision then some (fixedText scale (toScale scale x)) else none
  | _ => none

/-- The row of a batch, with its numbers as PostgreSQL prints them. -/
def storedBatch (decimal : DecimalJs) (batch : InventoryBatchEntity) :
    Option InventoryBatchEntity := do
  let quantityReceived ← numericColumn decimal 14 3 batch.quantityReceived
  let quantityRemaining ← numericColumn decimal 14 3 batch.quantityRemaining
  let unitCostAmount ← numericColumn decimal 12 2 batch.unitCostAmount
  return { batch with
    quantityReceived := quantityReceived
    quantityRemaining := quantityRemaining
    unitCostAmount := unitCostAmount }

def storedBranchConfig (decimal : DecimalJs) (config : InventoryBranchConfigEntity) :
    Option InventoryBranchConfigEntity := do
  let minStock ← numericColumn decimal 14 3 config.minStock
  return { config with minStock := minStock }

def storedItem (decimal : DecimalJs) (item : InventoryItemEntity) : Option InventoryItemEntity :=
  match item.minGlobalStock with
  | none => some item
  | some text => (numericColumn decimal 14 3 text).map fun text =>
    { item with minGlobalStock := some text }

/-- The rows as they come back from the tables. -/
def stored (decimal : DecimalJs) (rows : InventoryItemEntities) :
    Option InventoryItemEntities := do
  let item ← storedItem decimal rows.item
  let batch ← rows.batch.mapM (storedBatch decimal)
  let branchConfig ← rows.branchConfig.mapM (storedBranchConfig decimal)
  return ⟨item, batch, branchConfig⟩

end InventoryItemPersistenceMapper

/-! ## Printing an item -/

/-- The texts of the numbers are read back. -/
structure ReadBack (decimal : DecimalJs) (quantityText : Quantity → JsString)
    (moneyText : Money → JsString) : Prop where
  quantity : ∀ q, Quantity.of decimal (quantityText q) = .ok q
  money : ∀ m, Money.of decimal (moneyText m) m.currency = .ok m

/-- `toPrimitives` of a batch, with the texts of the numbers as parameters. -/
def InventoryBatch.printed (quantityText : Quantity → JsString) (moneyText : Money → JsString)
    (batch : InventoryBatch) : InventoryBatchPrimitives where
  id := batch.id
  branchId := batch.branchId
  quantityReceived := quantityText batch.quantityReceived
  quantityRemaining := quantityText batch.quantityRemaining
  unitCostAmount := moneyText batch.unitCost
  unitCostCurrency := batch.unitCost.currency
  expirationDate := batch.expirationDate.map isoText
  receivedAt := batch.receivedAt

def InventoryBranchConfig.printed (quantityText : Quantity → JsString)
    (config : InventoryBranchConfig) : InventoryBranchConfigPrimitives where
  id := config.id
  branchId := config.branchId
  minStock := quantityText config.minStock

/-- `toPrimitives` of an item, in the same way. -/
def InventoryItem.printed (quantityText : Quantity → JsString) (moneyText : Money → JsString)
    (item : InventoryItem) : InventoryItemPrimitives where
  id := item.id
  tenantId := item.tenantId
  sku := item.sku
  name := item.name.value
  unitOfMeasure := item.unitOfMeasure.value
  isPerishable := item.isPerishable
  isActive := item.isActive
  minGlobalStock := item.minGlobalStock.map quantityText
  createdAt := item.createdAt
  updatedAt := item.updatedAt
  batches := item.batches.map (·.printed quantityText moneyText)
  branchConfigs := item.branchConfigs.map (·.printed quantityText)

variable {isUuid : JsString → Bool} {other : JsString → JsDate} {decimal : DecimalJs}
  {quantityText : Quantity → JsString} {moneyText : Money → JsString} {item : InventoryItem}
  {batch : InventoryBatch} {config : InventoryBranchConfig}

/-! ### What is printed is read -/

theorem createId_of_isUuid {value : JsString} (h : isUuid value = true) :
    createId isUuid value = .ok value :=
  if_pos h

theorem readQuantity_ok {text : JsString} {quantity : Quantity}
    (h : Quantity.of decimal text = .ok quantity) : readQuantity decimal text = .ok quantity := by
  unfold readQuantity
  rw [h]
  rfl

theorem readMoney_ok {text currency : JsString} {money : Money}
    (h : Money.of decimal text currency = .ok money) :
    readMoney decimal text currency = .ok money := by
  unfold readMoney
  rw [h]
  rfl

/-- An optional value is read where what is there is. -/
theorem readOptional_map {α β : Type} {read : α → Except AggregateException β} {print : β → α}
    {value : Option β} (h : ∀ b ∈ value, read (print b) = .ok b) :
    readOptional read (value.map print) = .ok value := by
  cases value with
  | none => rfl
  | some b =>
    show (read (print b)).map some = .ok (some b)
    rw [h b rfl]
    rfl

theorem InventoryItemName.create_value {name : InventoryItemName}
    (h : trim name.value = name.value) : InventoryItemName.create name.value = .ok name := by
  unfold InventoryItemName.create
  simp only [h]
  rw [dif_neg (not_lt.mpr name.minLength), dif_neg (not_lt.mpr name.maxLength)]

theorem InventoryItemUnit.create_value (unitOfMeasure : MeasurementUnit) :
    InventoryItemUnit.create unitOfMeasure.value = .ok unitOfMeasure := by
  cases unitOfMeasure <;> rfl

theorem truthy_isoText (expirationDate : Option Instant) :
    truthy (expirationDate.map isoText) = expirationDate.map isoText := by
  cases expirationDate with
  | none => rfl
  | some date => exact Option.filter_some_pos (decide_eq_true (isoText_ne_nil date))

theorem fromPrimitives_printed_batch (hread : ReadBack decimal quantityText moneyText)
    (h : batch.Storable isUuid) :
    InventoryBatch.fromPrimitives isUuid (newDate other) decimal
      (batch.printed quantityText moneyText) = .ok batch := by
  have hdate : readOptional (InventoryBatchExpirationDate.create (newDate other))
      (truthy (batch.expirationDate.map isoText)) = .ok batch.expirationDate := by
    rw [truthy_isoText]
    apply readOptional_map
    intro date hdate
    unfold InventoryBatchExpirationDate.create
    rw [newDate_isoText (h.expirationDate date hdate)]
  unfold InventoryBatch.fromPrimitives InventoryBatch.printed
  rw [createId_of_isUuid h.id, readQuantity_ok (hread.quantity _),
    readQuantity_ok (hread.quantity _), readMoney_ok (hread.money _), hdate]
  rfl

theorem fromPrimitives_printed_config (hread : ReadBack decimal quantityText moneyText)
    (hid : isUuid config.id = true) :
    InventoryBranchConfig.fromPrimitives isUuid decimal (config.printed quantityText) =
      .ok config := by
  unfold InventoryBranchConfig.fromPrimitives InventoryBranchConfig.printed
  rw [createId_of_isUuid hid, readQuantity_ok (hread.quantity _)]
  rfl

/-- The item without its pending events. -/
theorem fromPrimitives_printed (hread : ReadBack decimal quantityText moneyText)
    (h : item.Storable isUuid) :
    InventoryItem.fromPrimitives isUuid (newDate other) decimal
      (item.printed quantityText moneyText) = .ok { item with domainEvents := [] } := by
  have hbatches : (item.batches.map (·.printed quantityText moneyText)).mapM
      (InventoryBatch.fromPrimitives isUuid (newDate other) decimal) = .ok item.batches := by
    rw [mapM_eq_ok, List.forall₂_map_left_iff, List.forall₂_same]
    exact fun batch hbatch => fromPrimitives_printed_batch hread (h.batches batch hbatch)
  have hconfigs : (item.branchConfigs.map (·.printed quantityText)).mapM
      (InventoryBranchConfig.fromPrimitives isUuid decimal) = .ok item.branchConfigs := by
    rw [mapM_eq_ok, List.forall₂_map_left_iff, List.forall₂_same]
    exact fun config hconfig =>
      fromPrimitives_printed_config hread (h.branchConfigs config hconfig)
  have hminimum : readOptional (readQuantity decimal) (item.minGlobalStock.map quantityText) =
      .ok item.minGlobalStock :=
    readOptional_map fun quantity _ => readQuantity_ok (hread.quantity quantity)
  unfold InventoryItem.fromPrimitives InventoryItem.printed
  rw [createId_of_isUuid h.id, InventoryItemName.create_value h.name,
    InventoryItemUnit.create_value, hbatches, hconfigs, hminimum]
  rfl

namespace InventoryItemPersistenceMapper

/-- A row of a batch leads back to its primitives. -/
theorem ofBatchEntity_printed (h : batch.Storable isUuid) (id : JsString) :
    ofBatchEntity (toBatchEntity (newDate other) id (batch.printed quantityText moneyText)) =
      .ok (batch.printed quantityText moneyText) := by
  have hdate : readOptional toISOString
      ((truthy (batch.expirationDate.map isoText)).map (newDate other)) =
        .ok (batch.expirationDate.map isoText) := by
    rw [truthy_isoText]
    apply readOptional_map
    intro text htext
    obtain ⟨date, hdate, rfl⟩ := Option.map_eq_some_iff.mp htext
    rw [newDate_isoText (h.expirationDate date hdate)]
    rfl
  unfold ofBatchEntity toBatchEntity InventoryBatch.printed
  rw [hdate]
  rfl

/-- However the numbers are printed, the item is read back without its pending events. -/
theorem toAggregate_printed (hread : ReadBack decimal quantityText moneyText)
    (h : item.Storable isUuid) :
    toAggregate isUuid (newDate other) decimal
      (toEntities (newDate other) (item.printed quantityText moneyText)) =
        .ok { item with domainEvents := [] } := by
  have hbatches : ((item.batches.map (·.printed quantityText moneyText)).map
      (toBatchEntity (newDate other) item.id)).mapM ofBatchEntity =
        .ok (item.batches.map (·.printed quantityText moneyText)) := by
    rw [mapM_eq_ok, List.forall₂_map_left_iff, List.forall₂_same, List.forall_mem_map]
    exact fun batch hbatch => ofBatchEntity_printed (h.batches batch hbatch) item.id
  have hconfigs : ((item.branchConfigs.map (·.printed quantityText)).map
      (toBranchConfigEntity item.id)).map ofBranchConfigEntity =
        item.branchConfigs.map (·.printed quantityText) := by
    rw [List.map_map]
    exact List.map_id _
  have hitem : InventoryItem.fromPrimitives isUuid (newDate other) decimal
      (item.printed quantityText moneyText) = .ok { item with domainEvents := [] } :=
    fromPrimitives_printed hread h
  unfold InventoryItem.printed at hitem
  rw [← hconfigs] at hitem
  show ((item.batches.map (·.printed quantityText moneyText)).map
      (toBatchEntity (newDate other) item.id)).mapM ofBatchEntity >>= _ = _
  rw [hbatches]
  exact hitem

/-! ## The numeric columns -/

/-- What the numeric columns print of a number. -/
def quantityColumn (quantity : Quantity) : JsString := fixedText 3 quantity.milli

def moneyColumn (money : Money) : JsString := fixedText 2 money.cents

/-- The package reads a number with trailing zeros. -/
def ReadsFixed (decimal : DecimalJs) : Prop :=
  ∀ scale n : ℕ, decimal.parse (fixedText scale n) = some (.finite false (n / 10 ^ scale))

theorem readBack_values : ReadBack decimal (·.getValue decimal) (·.getAmount decimal) where
  quantity _ := Quantity.of_getValue
  money _ := Money.of_getAmount

theorem readBack_columns (hfixed : ReadsFixed decimal) :
    ReadBack decimal quantityColumn moneyColumn where
  quantity quantity := by
    unfold Quantity.of quantityColumn
    rw [hfixed]
    simp [Decimal.isFinite, Decimal.isNegative, Decimal.magnitude, Quantity.ofDecimal, toScale_div]
  money money := by
    have hcode := Money.normalized_of_isIsoCode money.iso
    have hparse : decimal.parse (fixedText 2 money.cents) =
        some (.finite false (money.cents / 10 ^ 2)) := hfixed 2 money.cents
    unfold Money.of moneyColumn
    simp only [hcode, money.iso, hparse, Decimal.isFinite, Decimal.isNegative, Decimal.magnitude,
      Money.ofDecimal, toScale_div]
    rfl

/-- The numbers of the item fit their columns. -/
structure FitsNumericColumns (item : InventoryItem) : Prop where
  minGlobalStock : ∀ quantity ∈ item.minGlobalStock, Quantity.fitsColumn quantity = true
  quantityReceived : ∀ batch ∈ item.batches, Quantity.fitsColumn batch.quantityReceived = true
  quantityRemaining : ∀ batch ∈ item.batches, Quantity.fitsColumn batch.quantityRemaining = true
  unitCost : ∀ batch ∈ item.batches, Money.fitsColumn batch.unitCost = true
  minStock : ∀ config ∈ item.branchConfigs, Quantity.fitsColumn config.minStock = true

theorem numericColumn_getValue {quantity : Quantity} (h : Quantity.fitsColumn quantity = true) :
    numericColumn decimal 14 3 (quantity.getValue decimal) = some (quantityColumn quantity) := by
  have hlt : quantity.milli < 10 ^ 14 := of_decide_eq_true h
  unfold numericColumn Quantity.getValue Quantity.value
  rw [decimal.parse_toString]
  simp only [toScale_div, if_pos hlt]
  rfl

theorem numericColumn_getAmount {money : Money} (h : Money.fitsColumn money = true) :
    numericColumn decimal 12 2 (money.getAmount decimal) = some (moneyColumn money) := by
  have hlt : money.cents < 10 ^ 12 := of_decide_eq_true h
  unfold numericColumn Money.getAmount Money.amount
  rw [decimal.parse_toFixed2]
  simp only [toScale_div, if_pos hlt]
  rfl

/-- What comes back from the tables are the rows of the item, with other texts. -/
theorem stored_toPersistence {parseDate : JsString → JsDate} (h : FitsNumericColumns item) :
    stored decimal (toPersistence parseDate decimal item) =
      some (toEntities parseDate (item.printed quantityColumn moneyColumn)) := by
  have hitem : storedItem decimal (toPersistence parseDate decimal item).item =
      some (toEntities parseDate (item.printed quantityColumn moneyColumn)).item := by
    unfold storedItem toPersistence toEntities InventoryItem.toPrimitives InventoryItem.printed
    cases hminimum : item.minGlobalStock with
    | none => rfl
    | some quantity =>
      simp only [Option.map_some]
      rw [numericColumn_getValue (h.minGlobalStock quantity hminimum)]
      rfl
  have hbatch : (toPersistence parseDate decimal item).batch.mapM (storedBatch decimal) =
      some (toEntities parseDate (item.printed quantityColumn moneyColumn)).batch := by
    show ((item.batches.map _).map _).mapM _ = some ((item.batches.map _).map _)
    rw [List.map_map, List.map_map, List.mapM_map]
    apply mapM_eq_some_map
    intro batch hbatch
    show storedBatch decimal (toBatchEntity parseDate item.id (batch.toPrimitives decimal)) = _
    unfold storedBatch toBatchEntity InventoryBatch.toPrimitives
    simp only [numericColumn_getValue (h.quantityReceived batch hbatch),
      numericColumn_getValue (h.quantityRemaining batch hbatch),
      numericColumn_getAmount (h.unitCost batch hbatch)]
    rfl
  have hconfig : (toPersistence parseDate decimal item).branchConfig.mapM
      (storedBranchConfig decimal) =
        some (toEntities parseDate (item.printed quantityColumn moneyColumn)).branchConfig := by
    show ((item.branchConfigs.map _).map _).mapM _ = some ((item.branchConfigs.map _).map _)
    rw [List.map_map, List.map_map, List.mapM_map]
    apply mapM_eq_some_map
    intro config hconfig
    show storedBranchConfig decimal
      (toBranchConfigEntity item.id (config.toPrimitives decimal)) = _
    unfold storedBranchConfig toBranchConfigEntity InventoryBranchConfig.toPrimitives
    simp only [numericColumn_getValue (h.minStock config hconfig)]
    rfl
  unfold stored
  rw [hitem, hbatch, hconfig]
  rfl

/-- The rows of `Store.lean`, whose numbers are read already, give the same item. -/
theorem toAggregate_toRow : KomiSaas.Inventory.toAggregate item.toRow
    (item.batches.map (·.toRow item.id)) (item.branchConfigs.map (·.toRow item.id)) =
      { item with domainEvents := [] } := by
  have hbatches : (item.batches.map (·.toRow item.id)).map (·.toBatch) = item.batches := by
    rw [List.map_map]
    exact List.map_id _
  have hconfigs : (item.branchConfigs.map (·.toRow item.id)).map (·.toConfig) =
      item.branchConfigs := by
    rw [List.map_map]
    exact List.map_id _
  unfold KomiSaas.Inventory.toAggregate
  rw [hbatches, hconfigs]
  rfl

/-- Of every item that the factories build and the methods change, the mapper reads its
    own rows back with the same primitives, and so it does after the numeric columns
    printed their numbers with all the decimals, where the numbers fit them. -/
theorem survives_persistence (isUuid : JsString → Bool) (other : JsString → JsDate)
    (decimal : DecimalJs) (item : InventoryItem)
    (h : InventoryItem.Reachable isUuid other decimal item) :
    let rows := toPersistence (newDate other) decimal item
    (∃ loaded, toAggregate isUuid (newDate other) decimal rows = .ok loaded ∧
      loaded.toPrimitives decimal = item.toPrimitives decimal) ∧
    (ReadsFixed decimal → FitsNumericColumns item →
      ∃ back loaded, stored decimal rows = some back ∧
        toAggregate isUuid (newDate other) decimal back = .ok loaded ∧
          loaded.toPrimitives decimal = item.toPrimitives decimal) := by
  intro rows
  refine ⟨⟨_, toAggregate_printed readBack_values h.storable, rfl⟩, fun hfixed hfits => ?_⟩
  exact ⟨_, _, stored_toPersistence hfits,
    toAggregate_printed (readBack_columns hfixed) h.storable, rfl⟩

/-- Digits and hyphens where a UUID has them. -/
def looksLikeUuid (text : JsString) : Bool :=
  text.length = 36 && text.zipIdx.all fun (c, place) =>
    if place ∈ [8, 13, 18, 23] then c = 45 else isDigit c || (97 ≤ c && c ≤ 102)

/-- A perishable item of the sample business. -/
def sampleCreated : InventoryItem :=
  InventoryItem.create sampleItemId sampleTenantId (js "INV-0001") sampleName .gram true 1000

/-- The item after a reception, with a minimum for one branch and one for the others. -/
def sampleKept : InventoryItem :=
  let calls : List InventoryItem.Mutation :=
    [.recivedBatch (sampleBatchId 1) (sampleBranchId 1) ⟨2500⟩ ⟨1250, js "COP", isIsoCode_cop⟩
        (some 1709210096789) none,
      .setMinimumForBranch (sampleBatchId 2) (sampleBranchId 1) (some ⟨1500⟩),
      .setGlobalMinimum (some ⟨500⟩)]
  calls.foldl (fun item call => (call.run plainDecimal 2000 item).2) sampleCreated

theorem reachable_sampleKept :
    InventoryItem.Reachable looksLikeUuid (fun _ => none) plainDecimal sampleKept := by
  have hname : InventoryItemName.create (js " Tomate ") = .ok sampleName := rfl
  have hcreated : InventoryItem.Reachable looksLikeUuid (fun _ => none) plainDecimal
      sampleCreated := .create (by decide +kernel) hname
  have hdate : ∀ date ∈ some (1709210096789 : Instant), isTimeValue date = true := by
    rintro _ ⟨⟩
    decide
  refine .run (.run (.run hcreated ⟨?_, hdate⟩) ?_) trivial
  · decide +kernel
  · show looksLikeUuid (sampleBatchId 2) = true
    decide +kernel

/-- A batch of 2.500 at 12.50 and the minimums 1.500 and 0.500 come back as they were. -/
theorem survives_persistence_sample : ∃ back loaded,
    stored plainDecimal (toPersistence (newDate fun _ => none) plainDecimal sampleKept) =
        some back ∧
      toAggregate looksLikeUuid (newDate fun _ => none) plainDecimal back = .ok loaded ∧
        loaded.toPrimitives plainDecimal = sampleKept.toPrimitives plainDecimal :=
  (survives_persistence looksLikeUuid (fun _ => none) plainDecimal sampleKept
    reachable_sampleKept).2 parse_fixedText
    ⟨by decide +kernel, by decide +kernel, by decide +kernel, by decide +kernel,
      by decide +kernel⟩

end InventoryItemPersistenceMapper

end KomiSaas.Inventory
