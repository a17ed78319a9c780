import KomiSaas.Lib.Errors
import KomiSaas.Shared.Js

/-!
# `TenantScopeGuard`

`auth/infrastructure/guards/tenant-scope.guard.ts`: an authenticated request
goes on only if every `tenantId` found in it is the one of the token. The search
goes down objects and arrays as far as `MAX_DEPTH`.

Main results: `mem_collectTenantIds_iff` (what is found is what is stored at
most `MAX_DEPTH` levels down), `letsThrough_iff`, `letsThrough_nested`.
-/

namespace KomiSaas.Auth

open KomiSaas.Shared

/-- A parsed part of a request. An absent part is `undefined`; a number is its
    IEEE 754 bits. -/
inductive JsonValue where
  | undefined
  | null
  | boolean (value : Bool)
  | number (bits : UInt64)
  | string (value : JsString)
  | array (items : List JsonValue)
  | object (fields : List (JsString × JsonValue))

/-- `AuthenticatedUser` (`authenticated-user.ts`). -/
structure AuthenticatedUser where
  userId : Uuid
  tenantId : Uuid
  branchId : Option Uuid
  rolScope : JsString
  sessionId : Uuid
  deriving DecidableEq

/-- `RequestWithUser`, with the parts that the guard reads. -/
structure RequestWithUser where
  user : Option AuthenticatedUser
  params : JsonValue
  query : JsonValue
  body : JsonValue

/-- `[request.params, request.query, request.body]`. -/
def RequestWithUser.sources (request : RequestWithUser) : List JsonValue :=
  [request.params, request.query, request.body]

/-- `CrossTenantAccessException` (`auth-exceptions.ts`, lines 62–69). -/
structure CrossTenantAccessException where
  tokenTenantId : JsString
  requestedTenantId : JsString
  deriving DecidableEq, Repr

namespace CrossTenantAccessException

def code (_ : CrossTenantAccessException) : JsString := js "1107"

def detail (e : CrossTenantAccessException) : JsString :=
  js "Un usuario del negocio '" ++ e.tokenTenantId ++ js "' intentó operar sobre el negocio '" ++
    e.requestedTenantId ++ js "'"

end CrossTenantAccessException

namespace TenantScopeGuard

/-- `TENANT_KEY` (line 34). -/
def tenantKey : JsString := js "tenantId"

/-- `MAX_DEPTH` (line 41). -/
def maxDepth : ℕ := 6

mutual

/-- `collectTenantIds` (lines 80–101). -/
def collectTenantIds (depth : ℕ) : JsonValue → List JsString
  | .array items => if maxDepth < depth then [] else collectItems (depth + 1) items
  | .object fields => if maxDepth < depth then [] else collectFields (depth + 1) fields
  | _ => []

/-- The `flatMap` over an array. -/
def collectItems (depth : ℕ) : List JsonValue → List JsString
  | [] => []
  | item :: items => collectTenantIds depth item ++ collectItems depth items

/-- The loop over `Object.entries`; nothing is found in a text under another key. -/
def collectFields (depth : ℕ) : List (JsString × JsonValue) → List JsString
  | [] => []
  | (key, .string id) :: fields =>
    if key = tenantKey then id :: collectFields depth fields else collectFields depth fields
  | (_, nested) :: fields => collectTenantIds depth nested ++ collectFields depth fields

end

/-- `canActivate` (lines 47–69); `isPublic` is what the reflector says of the route. -/
def canActivate (isPublic : Bool) (request : RequestWithUser) :
    Except CrossTenantAccessException Bool :=
  if isPublic then .ok true
  else
    match request.user with
    | none => .ok true
    | some user =>
      match (request.sources.flatMap (collectTenantIds 0)).find? (· ≠ user.tenantId) with
      | some requested => .error ⟨user.tenantId, requested⟩
      | none => .ok true

/-! ## Where an id is stored -/

/-- The value stores `id` under a key `tenantId`, in an object nested `n` levels down. -/
inductive StoredAt : ℕ → JsonValue → JsString → Prop
  | here {fields : List (JsString × JsonValue)} {id : JsString}
      (hmem : (tenantKey, .string id) ∈ fields) : StoredAt 0 (.object fields) id
  | item {n : ℕ} {items : List JsonValue} {value : JsonValue} {id : JsString}
      (hmem : value ∈ items) (h : StoredAt n value id) : StoredAt (n + 1) (.array items) id
  | field {n : ℕ} {fields : List (JsString × JsonValue)} {key : JsString} {value : JsonValue}
      {id : JsString} (hmem : (key, value) ∈ fields) (h : StoredAt n value id) :
      StoredAt (n + 1) (.object fields) id

theorem storedAt_array_iff {n : ℕ} {items : List JsonValue} {id : JsString} :
    StoredAt n (.array items) id ↔ ∃ m, n = m + 1 ∧ ∃ value ∈ items, StoredAt m value id := by
  constructor
  · intro h
    cases h with
    | item hmem h => exact ⟨_, rfl, _, hmem, h⟩
  · rintro ⟨m, rfl, value, hmem, h⟩
    exact .item hmem h

theorem storedAt_object_iff {n : ℕ} {fields : List (JsString × JsonValue)} {id : JsString} :
    StoredAt n (.object fields) id ↔
      (n = 0 ∧ (tenantKey, .string id) ∈ fields) ∨
        ∃ m, n = m + 1 ∧ ∃ field ∈ fields, StoredAt m field.2 id := by
  constructor
  · intro h
    cases h with
    | here hmem => exact .inl ⟨rfl, hmem⟩
    | field hmem h => exact .inr ⟨_, rfl, _, hmem, h⟩
  · rintro (⟨rfl, hmem⟩ | ⟨m, rfl, ⟨key, value⟩, hmem, h⟩)
    · exact .here hmem
    · exact .field hmem h

/-! ## What the search finds -/

mutual

/-- The search finds an id exactly when it is stored within its reach. -/
theorem mem_collectTenantIds_iff {id : JsString} (depth : ℕ) : ∀ value : JsonValue,
    id ∈ collectTenantIds depth value ↔ ∃ n, depth + n ≤ maxDepth ∧ StoredAt n value id
  | .undefined | .null | .boolean _ | .number _ | .string _ => by
    rw [collectTenantIds]
    · constructor
      · intro h
        cases h
      · rintro ⟨n, _, h⟩
        cases h
    all_goals nofun
  | .array items => by
    rw [collectTenantIds]
    split_ifs with hdeep
    · constructor
      · intro h
        cases h
      · rintro ⟨n, hreach, _⟩
        omega
    rw [mem_collectItems_iff]
    constructor
    · rintro ⟨value, hvalue, n, hreach, h⟩
      exact ⟨n + 1, by omega, .item hvalue h⟩
    · rintro ⟨_, hreach, h⟩
      obtain ⟨n, rfl, value, hvalue, h⟩ := storedAt_array_iff.mp h
      exact ⟨value, hvalue, n, by omega, h⟩
  | .object fields => by
    rw [collectTenantIds]
    split_ifs with hdeep
    · constructor
      · intro h
        cases h
      · rintro ⟨n, hreach, _⟩
        omega
    rw [mem_collectFields_iff]
    constructor
    · rintro (hhere | ⟨field, hfield, n, hreach, h⟩)
      · exact ⟨0, by omega, .here hhere⟩
      · exact ⟨n + 1, by omega, .field hfield h⟩
    · rintro ⟨_, hreach, h⟩
      rcases storedAt_object_iff.mp h with ⟨_, hhere⟩ | ⟨n, rfl, field, hfield, h⟩
      · exact .inl hhere
      · exact .inr ⟨field, hfield, n, by omega, h⟩

theorem mem_collectItems_iff {id : JsString} (depth : ℕ) : ∀ items : List JsonValue,
    id ∈ collectItems depth items ↔
      ∃ value ∈ items, ∃ n, depth + n ≤ maxDepth ∧ StoredAt n value id
  | [] => by simp [collectItems]
  | item :: items => by
    rw [collectItems, List.mem_append, mem_collectTenantIds_iff depth item,
      mem_collectItems_iff depth items, List.exists_mem_cons_iff]

theorem mem_collectFields_iff {id : JsString} (depth : ℕ) :
    ∀ fields : List (JsString × JsonValue), id ∈ collectFields depth fields ↔
      (tenantKey, JsonValue.string id) ∈ fields ∨
        ∃ field ∈ fields, ∃ n, depth + n ≤ maxDepth ∧ StoredAt n field.2 id
  | [] => by simp [collectFields]
  | (key, .string text) :: fields => by
    have htext : ¬ ∃ n, depth + n ≤ maxDepth ∧ StoredAt n (.string text) id := by
      rintro ⟨n, _, h⟩
      cases h
    rw [collectFields, List.exists_mem_cons_iff, List.mem_cons, Prod.mk.injEq,
      JsonValue.string.injEq, or_iff_right htext, or_assoc]
    split_ifs with hkey
    · rw [List.mem_cons, mem_collectFields_iff depth fields]
      simp [hkey]
    · rw [mem_collectFields_iff depth fields]
      simp [Ne.symm hkey]
  | (key, .undefined) :: fields | (key, .null) :: fields | (key, .boolean _) :: fields
  | (key, .number _) :: fields | (key, .array _) :: fields | (key, .object _) :: fields => by
    rw [collectFields, List.mem_append, mem_collectTenantIds_iff depth _,
      mem_collectFields_iff depth fields, List.exists_mem_cons_iff, List.mem_cons,
      Prod.mk.injEq, or_left_comm]
    · simp
    all_goals nofun

end

/-! ## What the guard lets through -/

/-- On a public route, or without a user, there is nothing to compare. -/
theorem canActivate_unchecked {isPublic : Bool} {request : RequestWithUser}
    (h : isPublic = true ∨ request.user = none) : canActivate isPublic request = .ok true := by
  unfold canActivate
  rcases h with rfl | h
  · rfl
  · rw [h]
    split_ifs
    · rfl
    · rfl

/-- A rejection names the business of the token and another one that the request
    asks for. -/
theorem canActivate_error {isPublic : Bool} {request : RequestWithUser}
    {e : CrossTenantAccessException} (h : canActivate isPublic request = .error e) :
    ∃ user, request.user = some user ∧ e.tokenTenantId = user.tenantId ∧
      e.requestedTenantId ≠ user.tenantId ∧
      ∃ source ∈ request.sources, ∃ n, StoredAt n source e.requestedTenantId := by
  unfold canActivate at h
  split_ifs at h
  split at h
  · cases h
  · next user huser =>
    split at h
    · next requested hfind =>
      cases h
      obtain ⟨source, hsource, hmem⟩ := List.mem_flatMap.mp (List.mem_of_find?_eq_some hfind)
      obtain ⟨n, _, hstored⟩ := (mem_collectTenantIds_iff 0 source).mp hmem
      have hforeign : requested ≠ user.tenantId := by simpa using List.find?_some hfind
      exact ⟨user, huser, rfl, hforeign, source, hsource, n, hstored⟩
    · cases h

/-- With a user, on a route that is not public, the request goes on exactly when
    every `tenantId` within reach is the user's. -/
theorem letsThrough_iff (user : AuthenticatedUser) (params query body : JsonValue) :
    canActivate false ⟨some user, params, query, body⟩ = .ok true ↔
      ∀ source ∈ [params, query, body], ∀ n ≤ maxDepth, ∀ id,
        StoredAt n source id → id = user.tenantId := by
  have hfound : canActivate false ⟨some user, params, query, body⟩ = .ok true ↔
      ∀ id ∈ [params, query, body].flatMap (collectTenantIds 0), id = user.tenantId := by
    simp only [canActivate, RequestWithUser.sources, Bool.false_eq_true, if_false]
    split
    · next requested hfind =>
      have hforeign : requested ≠ user.tenantId := by simpa using List.find?_some hfind
      exact iff_of_false nofun fun h => hforeign (h requested (List.mem_of_find?_eq_some hfind))
    · next hfind =>
      refine iff_of_true rfl fun id hid => ?_
      simpa using List.find?_eq_none.mp hfind id hid
  rw [hfound]
  constructor
  · intro h source hsource n hn id hid
    exact h id (List.mem_flatMap.mpr
      ⟨source, hsource, (mem_collectTenantIds_iff 0 source).mpr ⟨n, by omega, hid⟩⟩)
  · intro h id hid
    obtain ⟨source, hsource, hmem⟩ := List.mem_flatMap.mp hid
    obtain ⟨n, hn, hstored⟩ := (mem_collectTenantIds_iff 0 source).mp hmem
    exact h source hsource n (by omega) id hstored

/-! ## Beyond the reach -/

/-- `value` in `n` arrays, one inside the other. -/
def nested (value : JsonValue) : ℕ → JsonValue
  | 0 => value
  | n + 1 => .array [nested value n]

theorem storedAt_nested {value : JsonValue} {k : ℕ} {id : JsString} (h : StoredAt k value id)
    (n : ℕ) : StoredAt (k + n) (nested value n) id := by
  induction n with
  | zero => exact h
  | succ n ih => exact .item List.mem_cons_self ih

def sampleUser : AuthenticatedUser :=
  ⟨js "u", js "mio", none, js "ADMINISTRATIVE", js "s"⟩

/-- The id of another business, seven arrays down. -/
def sampleForeign : JsonValue := nested (.object [(tenantKey, .string (js "otro"))]) 7

/-- A foreign id below the reach of the search is let through. -/
theorem letsThrough_nested :
    ¬ (canActivate false ⟨some sampleUser, .undefined, .undefined, sampleForeign⟩ = .ok true ↔
      ∀ source ∈ [JsonValue.undefined, .undefined, sampleForeign], ∀ n id,
        StoredAt n source id → id = sampleUser.tenantId) := by
  have hpasses : canActivate false ⟨some sampleUser, .undefined, .undefined, sampleForeign⟩ =
      .ok true := by decide +kernel
  have hstored : StoredAt (0 + 7) sampleForeign (js "otro") :=
    storedAt_nested (.here List.mem_cons_self) 7
  intro h
  have hsame := h.mp hpasses sampleForeign (by simp) 7 (js "otro") hstored
  exact absurd hsame (by decide +kernel)

end TenantScopeGuard

end KomiSaas.Auth
