import KomiSaas.Movements.Handlers

/-!
# What the audit line keeps

The movements that could not be recorded are logged through `sanitize`, which
abridges long arrays and long texts and throws on an Invalid Date. Nothing is
lost exactly as long as it does neither (`nothing_lost_iff`).

* `sanitize_toJs`: what becomes of one movement.
* `sublist_failedMovements_iff`: when all of them are there, whole.
-/

namespace KomiSaas.Movements

open KomiSaas.Inventory KomiSaas.Logging KomiSaas.Shared

/-! ## One movement -/

/-- A date as its ISO text, where it has one. -/
def isoValue : JsDate → JsValue
  | some instant => .string (isoText instant)
  | none => .date none

/-- What `sanitize` makes of a text or a date. -/
def logged : JsValue → JsValue
  | .string value => .string (truncate value)
  | .date value => isoValue value
  | value => value

namespace RecordMovementParams

/-- The movement with all its fields, unaltered, and its date as ISO text. -/
def evidence (params : RecordMovementParams) : JsValue := .object (params.fields id isoValue)

/-- The movement as it is logged. -/
def abridged (params : RecordMovementParams) : JsValue := .object (params.fields truncate isoValue)

/-- The texts of a movement. -/
def texts (params : RecordMovementParams) : List JsString :=
  List.reduceOption
    [some params.tenantId, some params.inventoryItemId, some params.branchId, params.batchId,
      some params.movementType.value, some params.quantity, params.unitCostAmount,
      params.unitCostCurrency, params.reason]

variable {params : RecordMovementParams} {depth : ℕ}

theorem map_logged_fields :
    (params.fields id .date).map (fun field => (field.1, logged field.2)) =
      params.fields truncate isoValue := by
  unfold fields
  rw [← List.reduceOption_map]
  cases hbatch : params.batchId <;>
    simp only [List.map_cons, List.map_nil, Option.map_some, Option.map_none, Option.map_map,
      Function.comp_def, Option.getD_some, Option.getD_none, logged, id]

/-- The keys of a movement. -/
def keys : List JsString :=
  ["tenantId", "inventoryItemId", "branchId", "batchId", "movementType", "quantity",
    "unitCostAmount", "unitCostCurrency", "reason", "occurredAt"].map js

theorem not_isSensitive_of_mem_keys : ∀ key ∈ keys, isSensitive key = false := by decide +kernel

theorem key_mem {field : JsString × JsValue} (h : field ∈ params.fields id .date) :
    field.1 ∈ keys := by
  rw [fields, List.reduceOption_mem_iff] at h
  simp only [List.mem_cons, List.not_mem_nil, or_false, Option.some.injEq] at h
  rcases h with rfl | rfl | rfl | rfl | rfl | rfl | h | h | h | h
  all_goals first
    | (obtain ⟨_, -, rfl⟩ := Option.map_eq_some_iff.mp h.symm; simp [keys])
    | simp [keys]

/-- Every field is a text, a valid date or `null`. -/
theorem sanitize_field {field : JsString × JsValue} (hdate : params.occurredAt ≠ some none)
    (h : field ∈ params.fields id .date) : sanitize depth field.2 = .ok (logged field.2) := by
  have hstring : ∀ text, sanitize depth (.string text) = .ok (logged (.string text)) := by
    intro text
    rw [sanitize]
    rfl
  rw [fields, List.reduceOption_mem_iff] at h
  simp only [List.mem_cons, List.not_mem_nil, or_false, Option.some.injEq] at h
  rcases h with rfl | rfl | rfl | rfl | rfl | rfl | h | h | h | h
  · exact hstring params.tenantId
  · exact hstring params.inventoryItemId
  · exact hstring params.branchId
  · cases params.batchId with
    | none =>
      show sanitize depth .null = _
      rw [sanitize]
      rfl
    | some batchId => exact hstring batchId
  · exact hstring params.movementType.value
  · exact hstring params.quantity
  · obtain ⟨amount, -, rfl⟩ := Option.map_eq_some_iff.mp h.symm
    exact hstring amount
  · obtain ⟨currency, -, rfl⟩ := Option.map_eq_some_iff.mp h.symm
    exact hstring currency
  · obtain ⟨reason, -, rfl⟩ := Option.map_eq_some_iff.mp h.symm
    exact hstring reason
  · obtain ⟨date, hsome, rfl⟩ := Option.map_eq_some_iff.mp h.symm
    cases date with
    | none => exact absurd hsome hdate
    | some instant =>
      show sanitize depth (.date (some instant)) = _
      rw [sanitize]
      rfl

/-- A movement with a valid date is logged with its texts truncated. -/
theorem sanitize_toJs (hdepth : depth < maxDepth) (hdate : params.occurredAt ≠ some none) :
    sanitize depth params.toJs = .ok params.abridged := by
  unfold toJs abridged
  rw [← map_logged_fields]
  exact sanitize_object hdepth fun field h =>
    ⟨not_isSensitive_of_mem_keys _ (key_mem h), sanitize_field hdate h⟩

/-- A movement with an Invalid Date cannot be logged. -/
theorem sanitize_toJs_of_invalidDate (hdepth : depth < maxDepth)
    (hdate : params.occurredAt = some none) :
    sanitize depth params.toJs = .error .invalidTimeValue := by
  have hmem : (js "occurredAt", JsValue.date none) ∈ params.fields id .date := by
    rw [fields, List.reduceOption_mem_iff]
    simp [hdate]
  unfold toJs
  have hplain := not_isSensitive_of_mem_keys _ (key_mem hmem)
  rw [sanitize, if_neg (by omega), sanitizeFields_error hmem hplain (by rw [sanitize])]
  rfl

/-- A movement is logged whole exactly when none of its texts is truncated. -/
theorem abridged_eq_evidence_iff :
    params.abridged = params.evidence ↔ ∀ text ∈ params.texts, truncate text = text := by
  obtain ⟨tenantId, itemId, branchId, batchId, movementType, quantity, amount, currency, reason,
    occurredAt⟩ := params
  unfold abridged evidence fields texts
  rw [JsValue.object.injEq]
  cases batchId <;> cases amount <;> cases currency <;> cases reason <;> cases occurredAt <;>
    simp [List.reduceOption_cons_of_some, List.reduceOption_cons_of_none]

end RecordMovementParams

/-! ## The line -/

section Line

variable {σ ε : Type} {failed : List RecordMovementParams} {operation : JsString}
  {published : Published} {error : Option (Thrown ε)} {total : Option ℕ}

/-- The line holds every one of the movements, whole. -/
def AuditLine.Holds (line : AuditLine ε) (movements : List RecordMovementParams) : Prop :=
  ∃ items, line.failedMovements = .array items ∧
    (movements.map RecordMovementParams.evidence).Sublist items

/-- What `failedMovements` is: the first of the movements, and how many are left out. -/
def failedMovementsOf (failed : List RecordMovementParams) : List JsValue :=
  (failed.take maxArrayItems).map RecordMovementParams.abridged ++ omittedMark failed.length

/-- All the movements are in the line, whole, exactly when none is left out and
    none is truncated. -/
theorem sublist_failedMovements_iff :
    (failed.map RecordMovementParams.evidence).Sublist (failedMovementsOf failed) ↔
      failed.length ≤ maxArrayItems ∧
        ∀ movement ∈ failed, ∀ text ∈ movement.texts, truncate text = text := by
  unfold failedMovementsOf omittedMark
  by_cases hlimit : failed.length ≤ maxArrayItems
  · have hall : failed.take maxArrayItems = failed := List.take_of_length_le hlimit
    rw [if_neg (by omega), List.append_nil, hall]
    have hsame : (failed.map RecordMovementParams.evidence).Sublist
        (failed.map RecordMovementParams.abridged) ↔
          failed.map RecordMovementParams.abridged = failed.map RecordMovementParams.evidence := by
      constructor
      · intro h
        exact (h.eq_of_length (by rw [List.length_map, List.length_map])).symm
      · intro h
        rw [h]
    rw [hsame, List.map_inj_left]
    simp only [hlimit, true_and, RecordMovementParams.abridged_eq_evidence_iff]
  · refine iff_of_false ?_ fun h => hlimit h.1
    rw [if_pos (by omega)]
    intro h
    -- the mark takes the place of at least one movement
    have hlength := h.length_le
    have hmax : (failed.take maxArrayItems).length = maxArrayItems := by
      rw [List.length_take]
      omega
    rw [List.length_map, List.length_append, List.length_map, hmax, List.length_singleton]
      at hlength
    have heq := h.eq_of_length (by
      rw [List.length_map, List.length_append, List.length_map, hmax, List.length_singleton]
      omega)
    have hmark := List.mem_append_right
      ((failed.take maxArrayItems).map RecordMovementParams.abridged)
      (List.mem_singleton_self (JsValue.string
        (js "[+" ++ natText (failed.length - maxArrayItems) ++ js " elementos]")))
    rw [← heq] at hmark
    obtain ⟨movement, -, hnone⟩ := List.mem_map.mp hmark
    cases hnone

/-- With valid dates the line is written, and this is what it holds. -/
theorem logAuditFailure_ok (hdates : ∀ movement ∈ failed, movement.occurredAt ≠ some none)
    (hpayload : published.payload.datesValid = true) :
    ∃ line, logAuditFailure operation published failed error total = .ok line ∧
      line.failedMovements = .array (failedMovementsOf failed) := by
  obtain ⟨payload, hsanitized⟩ := exists_sanitize 0 _ hpayload
  have hmovements : sanitize 0 (.array (failed.map RecordMovementParams.toJs)) =
      .ok (.array (failedMovementsOf failed)) :=
    sanitize_array (by decide) fun movement h =>
      RecordMovementParams.sanitize_toJs (by decide) (hdates movement h)
  unfold logAuditFailure
  rw [hmovements, hsanitized]
  exact ⟨_, rfl, rfl⟩

/-- With an Invalid Date the line is not written. -/
theorem logAuditFailure_error (hne : failed ≠ [])
    (hdates : ∀ movement ∈ failed, movement.occurredAt = some none) :
    logAuditFailure operation published failed error total = .error .invalidTimeValue := by
  cases failed with
  | nil => exact absurd rfl hne
  | cons movement failed =>
    have hfirst : sanitize (0 + 1) movement.toJs = .error .invalidTimeValue :=
      RecordMovementParams.sanitize_toJs_of_invalidDate (by decide)
        (hdates movement List.mem_cons_self)
    unfold logAuditFailure
    rw [List.map_cons, sanitize_array_error (by decide) hfirst]
    rfl

end Line

/-! ## The payload -/

theorem datesValid_published {eventName : JsString} {occurredOn : JsDate}
    {fields : List (JsString × JsValue)} (h : fieldsValid fields = true) :
    (Published.of eventName occurredOn fields).payload.datesValid = occurredOn.isSome := by
  simp [Published.of, JsValue.datesValid, fieldsValid, h]

theorem datesValid_detail (detail : BatchDetail) :
    (BatchDetail.toJs detail).datesValid = true := by
  simp [BatchDetail.toJs, BatchDetail.fields, JsValue.datesValid, fieldsValid]

theorem datesValid_adjustedDetail (detail : AdjustedBatchDetail) :
    (AdjustedBatchDetail.toJs detail).datesValid = true := by
  simp [AdjustedBatchDetail.toJs, BatchDetail.fields, JsValue.datesValid, fieldsValid]

theorem datesValid_stockReceived (event : StockReceivedEvent) :
    (StockReceivedEvent.published event).payload.datesValid = event.occurredOn.isSome :=
  datesValid_published (by simp [JsValue.datesValid, fieldsValid])

theorem datesValid_stockConsumed (event : StockConsumedEvent) :
    (StockConsumedEvent.published event).payload.datesValid = event.occurredOn.isSome :=
  datesValid_published
    (by simp [JsValue.datesValid, fieldsValid, itemsValid_eq_all, datesValid_detail])

theorem datesValid_stockWasted (event : StockWastedEvent) :
    (StockWastedEvent.published event).payload.datesValid = event.occurredOn.isSome :=
  datesValid_published
    (by simp [JsValue.datesValid, fieldsValid, itemsValid_eq_all, datesValid_detail])

theorem datesValid_stockAdjusted (event : StockAdjustedEvent) :
    (StockAdjustedEvent.published event).payload.datesValid = event.occurredOn.isSome :=
  datesValid_published
    (by simp [JsValue.datesValid, fieldsValid, itemsValid_eq_all, datesValid_adjustedDetail])

/-! ## A handler that could not record everything -/

section Failure

variable {σ ε : Type} {execute : RecordMovementParams → σ → Except ε Unit × σ} {state : σ}
  {movements : List RecordMovementParams} {event : DomainEvent} {operation : JsString}
  {published : Published}

/-- Only movements of the batch fail. -/
theorem mem_of_mem_failed {movement : RecordMovementParams}
    (h : movement ∈ (attemptAll execute movements state).failed) : movement ∈ movements := by
  have hloop : ∀ (rest : List RecordMovementParams) (attempted : Attempted σ ε),
      movement ∈ (rest.foldl (attempt execute) attempted).failed →
        movement ∈ attempted.failed ∨ movement ∈ rest := by
    intro rest
    induction rest with
    | nil =>
      intro attempted h
      exact .inl h
    | cons first rest ih =>
      intro attempted h
      rcases ih _ h with h | h
      · unfold attempt at h
        split at h
        · exact .inl h
        · rcases List.mem_append.mp h with h | h
          · exact .inl h
          · exact .inr (List.mem_singleton.mp h ▸ List.mem_cons_self)
      · exact .inr (List.mem_cons_of_mem _ h)
  rcases hloop movements _ h with h | h
  · exact absurd h List.not_mem_nil
  · exact h

/-- The only movement of a batch fails where its call rejects. -/
theorem exists_rejected {movement : RecordMovementParams}
    (hfail : (attemptAll execute [movement] state).failed ≠ []) :
    ∃ e state', execute movement state = (.error e, state') ∧
      attemptAll execute [movement] state = ⟨[movement], some e, state'⟩ := by
  rw [attemptAll_singleton] at hfail ⊢
  cases hexecute : execute movement state with
  | mk result state' =>
    rw [hexecute] at hfail
    cases result with
    | ok u => exact absurd rfl hfail
    | error e => exact ⟨e, state', rfl, rfl⟩

theorem record_line (hfail : (attemptAll execute movements state).failed ≠ [])
    (hdates : ∀ movement ∈ movements, movement.occurredAt ≠ some none)
    (hpayload : published.payload.datesValid = true) :
    ∃ line, record execute operation published movements state =
        ⟨.ok (), [line], (attemptAll execute movements state).state⟩ ∧
      line.failedMovements =
        .array (failedMovementsOf (attemptAll execute movements state).failed) := by
  obtain ⟨line, hline, hmovements⟩ := logAuditFailure_ok
    (fun movement h => hdates movement (mem_of_mem_failed h)) hpayload
  exact ⟨line, record_of_failure hfail hline, hmovements⟩

theorem record_rejects (hfail : (attemptAll execute movements state).failed ≠ [])
    (hdates : ∀ movement ∈ movements, movement.occurredAt = some none) :
    record execute operation published movements state =
      ⟨.error .invalidTimeValue, [], (attemptAll execute movements state).state⟩ := by
  have hne : movements ≠ [] := by
    rintro rfl
    exact hfail rfl
  exact record_of_rangeError hfail
    (logAuditFailure_error hfail fun movement h => hdates movement (mem_of_mem_failed h))
    (logAuditFailure_error hne hdates)

/-- With a valid date a failure leaves one line. -/
theorem handle_of_failure (hdate : occurredOnOf event ≠ none)
    (hfail : (attemptAll execute (movementsOf event) state).failed ≠ []) :
    ∃ line, handle execute state event =
        ⟨.ok (), [line], (attemptAll execute (movementsOf event) state).state⟩ ∧
      line.failedMovements =
        .array (failedMovementsOf (attemptAll execute (movementsOf event) state).failed) := by
  have hdates : ∀ movement ∈ movementsOf event, movement.occurredAt ≠ some none := by
    intro movement h
    rw [occurredAt_of_mem h]
    exact fun hnone => hdate (Option.some.inj hnone)
  have hvalid : (occurredOnOf event).isSome = true := Option.isSome_iff_ne_none.mpr hdate
  cases event with
  | itemCreated event => exact absurd rfl hfail
  | stockReceived event =>
    simp only [movementsOf] at hfail hdates ⊢
    obtain ⟨e, state', hexecute, hattempt⟩ := exists_rejected hfail
    obtain ⟨line, hline, hmovements⟩ : ∃ line, logAuditFailure MovementType.entry.value
        (StockReceivedEvent.published event) [entryOf event] (some (.rejected e)) none =
          .ok line ∧ line.failedMovements = .array (failedMovementsOf [entryOf event]) :=
      logAuditFailure_ok hdates ((datesValid_stockReceived event).trans hvalid)
    rw [hattempt, handle, onStockReceived, hexecute]
    exact ⟨line, by simp only [hline], hmovements⟩
  | stockConsumed event =>
    exact record_line hfail hdates ((datesValid_stockConsumed event).trans hvalid)
  | stockWasted event =>
    exact record_line hfail hdates ((datesValid_stockWasted event).trans hvalid)
  | stockAdjusted event =>
    exact record_line hfail hdates ((datesValid_stockAdjusted event).trans hvalid)

/-- With an Invalid Date a failure makes the handler reject. -/
theorem handle_of_invalidDate (hdate : occurredOnOf event = none)
    (hfail : (attemptAll execute (movementsOf event) state).failed ≠ []) :
    handle execute state event =
      ⟨.error .invalidTimeValue, [], (attemptAll execute (movementsOf event) state).state⟩ := by
  have hdates : ∀ movement ∈ movementsOf event, movement.occurredAt = some none := by
    intro movement h
    rw [occurredAt_of_mem h, hdate]
  cases event with
  | itemCreated event => exact absurd rfl hfail
  | stockReceived event =>
    simp only [movementsOf] at hfail hdates ⊢
    obtain ⟨e, state', hexecute, hattempt⟩ := exists_rejected hfail
    rw [hattempt, handle, onStockReceived, hexecute]
    simp only [logAuditFailure_error (List.cons_ne_nil _ _) hdates]
  | stockConsumed event => exact record_rejects hfail hdates
  | stockWasted event => exact record_rejects hfail hdates
  | stockAdjusted event => exact record_rejects hfail hdates

end Failure

/-! ## Every pattern of rejections -/

section Rejections

variable {ε : Type}

/-- How many calls `execute` has had, and the movements it recorded. -/
structure Recorder where
  calls : ℕ
  recorded : List RecordMovementParams
  deriving DecidableEq

/-- An `execute` whose `n`-th call rejects with `rejects n`, if it does. -/
def recordUnless (rejects : ℕ → Option ε) (movement : RecordMovementParams)
    (recorder : Recorder) : Except ε Unit × Recorder :=
  match rejects recorder.calls with
  | some error => (.error error, { recorder with calls := recorder.calls + 1 })
  | none => (.ok (), ⟨recorder.calls + 1, recorder.recorded ++ [movement]⟩)

/-- The movements whose call rejects, from the `n`-th call on. -/
def rejectedOf (rejects : ℕ → Option ε) (movements : List RecordMovementParams) (n : ℕ) :
    List RecordMovementParams :=
  ((movements.zipIdx n).filter fun entry => (rejects entry.2).isSome).map Prod.fst

/-- The others. -/
def acceptedOf (rejects : ℕ → Option ε) (movements : List RecordMovementParams) (n : ℕ) :
    List RecordMovementParams :=
  ((movements.zipIdx n).filter fun entry => (rejects entry.2).isNone).map Prod.fst

/-- The handler resolves, what is not rejected is recorded in order, and what is
    rejected is in the only line it logs. -/
structure NothingLost (rejects : ℕ → Option ε) (event : DomainEvent) : Prop where
  resolves : (handle (recordUnless rejects) ⟨0, []⟩ event).outcome = .ok ()
  recorded : (handle (recordUnless rejects) ⟨0, []⟩ event).state.recorded =
    acceptedOf rejects (movementsOf event) 0
  silent : rejectedOf rejects (movementsOf event) 0 = [] →
    (handle (recordUnless rejects) ⟨0, []⟩ event).lines = []
  evidence : rejectedOf rejects (movementsOf event) 0 ≠ [] →
    ∃ line, (handle (recordUnless rejects) ⟨0, []⟩ event).lines = [line] ∧
      line.Holds (rejectedOf rejects (movementsOf event) 0)

/-- The log keeps the text: it is within the limit, or it ends in just the mark
    that would be written in its place. -/
def FitsLog (text : JsString) : Prop :=
  text.length ≤ maxStringLength ∨ (text.length = maxStringLength + 17 ∧ cutMark 17 <:+ text)

variable {rejects : ℕ → Option ε} {event : DomainEvent}

/-- The loop goes on after a rejection: by induction on the movements, with the
    number of calls so far. -/
theorem foldl_attempt (movements : List RecordMovementParams) (attempted : Attempted Recorder ε) :
    (movements.foldl (attempt (recordUnless rejects)) attempted).failed =
        attempted.failed ++ rejectedOf rejects movements attempted.state.calls ∧
      (movements.foldl (attempt (recordUnless rejects)) attempted).state.recorded =
        attempted.state.recorded ++ acceptedOf rejects movements attempted.state.calls := by
  induction movements generalizing attempted with
  | nil => simp [rejectedOf, acceptedOf]
  | cons movement movements ih =>
    obtain ⟨hfailed, hrecorded⟩ := ih (attempt (recordUnless rejects) attempted movement)
    rw [List.foldl_cons, hfailed, hrecorded]
    unfold attempt recordUnless rejectedOf acceptedOf
    cases hcall : rejects attempted.state.calls with
    | none => simp [hcall, List.zipIdx_cons]
    | some error => simp [hcall, List.zipIdx_cons]

theorem attemptAll_recordUnless (rejects : ℕ → Option ε) (movements : List RecordMovementParams) :
    (attemptAll (recordUnless rejects) movements ⟨0, []⟩).failed = rejectedOf rejects movements 0 ∧
      (attemptAll (recordUnless rejects) movements ⟨0, []⟩).state.recorded =
        acceptedOf rejects movements 0 :=
  foldl_attempt movements ⟨[], none, ⟨0, []⟩⟩

/-- With a valid date and something rejected, the rest is recorded, and all that
    was rejected is in the line exactly when it fits the log. -/
theorem handle_recordUnless (hdate : occurredOnOf event ≠ none)
    (hne : rejectedOf rejects (movementsOf event) 0 ≠ []) :
    ∃ line recorder, handle (recordUnless rejects) ⟨0, []⟩ event = ⟨.ok (), [line], recorder⟩ ∧
      recorder.recorded = acceptedOf rejects (movementsOf event) 0 ∧
      (line.Holds (rejectedOf rejects (movementsOf event) 0) ↔
        (rejectedOf rejects (movementsOf event) 0).length ≤ maxArrayItems ∧
          ∀ movement ∈ rejectedOf rejects (movementsOf event) 0, ∀ text ∈ movement.texts,
            FitsLog text) := by
  obtain ⟨hfailed, hrecorded⟩ := attemptAll_recordUnless rejects (movementsOf event)
  obtain ⟨line, hhandle, hline⟩ := handle_of_failure hdate (hfailed ▸ hne)
  refine ⟨line, _, hhandle, hrecorded, ?_⟩
  rw [hfailed] at hline
  have hfits : ∀ text, truncate text = text ↔ FitsLog text := fun _ => truncate_eq_self_iff
  simp only [← hfits]
  rw [← sublist_failedMovements_iff]
  constructor
  · rintro ⟨items, hitems, hsublist⟩
    rw [hline, JsValue.array.injEq] at hitems
    rw [hitems]
    exact hsublist
  · exact fun hsublist => ⟨_, hline, hsublist⟩

/-- For every event and every pattern of rejections: no movement is lost exactly
    as long as nothing is rejected, or what is rejected fits the log, with a
    valid date. -/
theorem nothing_lost_iff (event : DomainEvent) (rejects : ℕ → Option ε) :
    NothingLost rejects event ↔
      rejectedOf rejects (movementsOf event) 0 = [] ∨
        ((rejectedOf rejects (movementsOf event) 0).length ≤ maxArrayItems ∧
          (∀ movement ∈ rejectedOf rejects (movementsOf event) 0, ∀ text ∈ movement.texts,
            FitsLog text) ∧
          occurredOnOf event ≠ none) := by
  obtain ⟨hfailed, hrecorded⟩ := attemptAll_recordUnless rejects (movementsOf event)
  by_cases hnone : rejectedOf rejects (movementsOf event) 0 = []
  · refine iff_of_true ?_ (.inl hnone)
    have hhandle := handle_of_no_failure (hfailed.trans hnone)
    refine ⟨by rw [hhandle], by rw [hhandle]; exact hrecorded, fun _ => by rw [hhandle], ?_⟩
    exact fun hne => absurd hnone hne
  by_cases hdate : occurredOnOf event = none
  · have hhandle := handle_of_invalidDate hdate (hfailed ▸ hnone)
    refine iff_of_false (fun h => ?_) ?_
    · have hresolves := h.resolves
      rw [hhandle] at hresolves
      cases hresolves
    · rintro (h | ⟨-, -, h⟩)
      · exact hnone h
      · exact h hdate
  obtain ⟨line, recorder, hhandle, hrecords, hholds⟩ := handle_recordUnless hdate hnone
  constructor
  · intro h
    obtain ⟨line', hlines, hline⟩ := h.evidence hnone
    rw [hhandle, List.cons.injEq] at hlines
    rw [← hlines.1] at hline
    obtain ⟨hlength, htexts⟩ := hholds.mp hline
    exact .inr ⟨hlength, htexts, hdate⟩
  · rintro (h | ⟨hlength, htexts, -⟩)
    · exact absurd h hnone
    · refine ⟨by rw [hhandle], by rw [hhandle]; exact hrecords, fun h => absurd h hnone, ?_⟩
      exact fun _ => ⟨line, by rw [hhandle], hholds.mpr ⟨hlength, htexts⟩⟩

end Rejections

/-- A consumption that took one unit from each of `n` batches. -/
def sampleConsumption (n : ℕ) : StockConsumedEvent where
  itemId := js "40000000-0000-4000-8000-000000000001"
  tenantId := js "10000000-0000-4000-8000-000000000001"
  branchId := js "50000000-0000-4000-8000-000000000001"
  quantity := natText n
  consumedBatches := (List.range n).map fun i =>
    { batchId := js "60000000-0000-4000-8000-0000000000" ++ paddedText 2 i
      quantity := js "1"
      unitCostAmount := js "150.00"
      unitCostCurrency := js "COP" }
  occurredOn := some 1709210096789

/-- Twenty-one batches, and a ledger that takes no movement: the line has twenty
    of the movements and `[+1 elementos]`. -/
theorem movement_left_out :
    (sampleConsumption 21).consumedBatches.length = 21 ∧
      ¬ NothingLost (fun _ => some ()) (.stockConsumed (sampleConsumption 21)) := by
  have hall : (rejectedOf (fun _ => some ())
      (movementsOf (.stockConsumed (sampleConsumption 21))) 0).length = 21 := by decide +kernel
  refine ⟨by decide +kernel, fun h => ?_⟩
  have hne : rejectedOf (fun _ => some ())
      (movementsOf (.stockConsumed (sampleConsumption 21))) 0 ≠ [] := by
    intro hnil
    rw [hnil] at hall
    cases hall
  obtain ⟨line, recorder, hhandle, -, hholds⟩ :=
    handle_recordUnless (fun hnone => by cases hnone) hne
  obtain ⟨line', hlines, hline⟩ := h.evidence hne
  rw [hhandle, List.cons.injEq] at hlines
  rw [← hlines.1] at hline
  have hlength := (hholds.mp hline).1
  rw [hall] at hlength
  exact absurd hlength (by decide)

end KomiSaas.Movements
