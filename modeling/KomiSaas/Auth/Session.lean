import KomiSaas.Lib.Rows
import KomiSaas.Shared.Js

/-!
# The session aggregate and its repository

`Session` (`auth/domain/session.aggregate.ts`) and `TypeOrmSessionRepository`
(`auth/infrastructure/persistence/repositories/session.repository.ts`). The
persistence mapper copies the primitives field by field, so a row of the
`sessions` table is a `Session`.

* `Session.revoke` and `Session.rotateTo` keep the first revocation.
* `rotate_fst`, `rotate_eq_of_lost`, `rotate_eq_of_won`: the conditional `UPDATE` of
  `rotate` writes exactly when the stored row is still unrevoked.
-/

namespace KomiSaas.Auth

open KomiSaas.Lib KomiSaas.Shared

/-- `SessionRevocationReason` (`auth/domain/types/session.types.ts`). -/
inductive SessionRevocationReason where
  | logout
  | rotated
  | reuseDetected
  | revoked
  deriving DecidableEq, Repr

/-- The state of a session, which is also its row. The last field is the
    constraint `chk_sessions_revocation` of `public/db/03-sessions.sql`. -/
structure Session where
  id : Uuid
  userId : Uuid
  tenantId : Uuid
  refreshTokenHash : JsString
  expiresAt : Instant
  createdAt : Instant
  revokedAt : Option Instant
  revocationReason : Option SessionRevocationReason
  replacedBySessionId : Option Uuid
  ipAddress : Option JsString
  userAgent : Option JsString
  chkRevocation : revokedAt.isSome = revocationReason.isSome
  deriving DecidableEq

namespace Session

/-- The columns a session is born with and no method changes. -/
def identity (s : Session) : Uuid × Uuid × Uuid × JsString × Instant :=
  (s.id, s.userId, s.tenantId, s.refreshTokenHash, s.expiresAt)

/-- The revocation record: when, why, and the successor. -/
def record (s : Session) : Option Instant × Option SessionRevocationReason × Option Uuid :=
  (s.revokedAt, s.revocationReason, s.replacedBySessionId)

/-- `Session.create` (lines 37–53); `id` is the generated `SessionId`. -/
def create (id userId tenantId : Uuid) (refreshTokenHash : JsString) (expiresAt : Instant)
    (ipAddress userAgent : Option JsString) (now : Instant) : Session where
  id := id
  userId := userId
  tenantId := tenantId
  refreshTokenHash := refreshTokenHash
  expiresAt := expiresAt
  createdAt := now
  revokedAt := none
  revocationReason := none
  replacedBySessionId := none
  ipAddress := ipAddress
  userAgent := userAgent
  chkRevocation := rfl

/-- `isUsable` (line 56). -/
def isUsable (s : Session) (now : Instant) : Bool := s.revokedAt.isNone && now < s.expiresAt

/-- `isRevoked` (line 61). -/
def isRevoked (s : Session) : Bool := s.revokedAt.isSome

/-- `isExpired` (line 66). -/
def isExpired (s : Session) (now : Instant) : Bool := s.expiresAt ≤ now

/-- The three columns a revocation writes. -/
def setRevocation (s : Session) (revokedAt : Option Instant)
    (reason : Option SessionRevocationReason) (replacedBy : Option Uuid)
    (chk : revokedAt.isSome = reason.isSome) : Session :=
  { s with
    revokedAt := revokedAt
    revocationReason := reason
    replacedBySessionId := replacedBy
    chkRevocation := chk }

/-- `revoke` (lines 92–97). -/
def revoke (s : Session) (reason : SessionRevocationReason) (now : Instant) : Session :=
  if s.revokedAt.isSome then s
  else s.setRevocation (some now) (some reason) s.replacedBySessionId rfl

/-- `rotateTo` (lines 110–115). -/
def rotateTo (s : Session) (successor : Uuid) (now : Instant) : Session :=
  if s.revokedAt.isSome then s
  else
    let s := s.revoke .rotated now
    s.setRevocation s.revokedAt s.revocationReason (some successor) s.chkRevocation

@[simp] theorem identity_setRevocation (s : Session) (a r b h) :
    (s.setRevocation a r b h).identity = s.identity := rfl

@[simp] theorem revokedAt_setRevocation (s : Session) (a r b h) :
    (s.setRevocation a r b h).revokedAt = a := rfl

@[simp] theorem revocationReason_setRevocation (s : Session) (a r b h) :
    (s.setRevocation a r b h).revocationReason = r := rfl

theorem id_of_identity {s t : Session} (h : s.identity = t.identity) : s.id = t.id :=
  congrArg Prod.fst h

theorem userId_of_identity {s t : Session} (h : s.identity = t.identity) : s.userId = t.userId :=
  congrArg (fun i => i.2.1) h

theorem refreshTokenHash_of_identity {s t : Session} (h : s.identity = t.identity) :
    s.refreshTokenHash = t.refreshTokenHash :=
  congrArg (fun i => i.2.2.2.1) h

theorem revokedAt_of_record {s t : Session} (h : s.record = t.record) :
    s.revokedAt = t.revokedAt :=
  congrArg Prod.fst h

@[simp] theorem identity_revoke (s : Session) (reason now) :
    (s.revoke reason now).identity = s.identity := by
  unfold revoke; split_ifs <;> rfl

@[simp] theorem identity_rotateTo (s : Session) (successor now) :
    (s.rotateTo successor now).identity = s.identity := by
  unfold rotateTo
  split_ifs
  · rfl
  · rw [identity_setRevocation, identity_revoke]

@[simp] theorem id_revoke (s : Session) (reason now) : (s.revoke reason now).id = s.id :=
  id_of_identity (identity_revoke s reason now)

@[simp] theorem id_rotateTo (s : Session) (successor now) : (s.rotateTo successor now).id = s.id :=
  id_of_identity (identity_rotateTo s successor now)

/-- A revoked session keeps its first revocation. -/
theorem revoke_of_revoked {s : Session} (h : s.revokedAt.isSome) (reason now) :
    s.revoke reason now = s :=
  if_pos h

theorem revoke_of_unrevoked {s : Session} (h : s.revokedAt = none) (reason now) :
    s.revoke reason now =
      s.setRevocation (some now) (some reason) s.replacedBySessionId rfl :=
  if_neg (by simp [h])

theorem revokedAt_isSome_revoke (s : Session) (reason now) :
    (s.revoke reason now).revokedAt.isSome := by
  unfold revoke; split_ifs with h
  · exact h
  · rfl

theorem revocationReason_eq_none_iff (s : Session) :
    s.revocationReason = none ↔ s.revokedAt = none := by
  rw [← Option.not_isSome_iff_eq_none, ← Option.not_isSome_iff_eq_none, s.chkRevocation]

end Session

/-! ## The repository -/

/-- The rows of the `sessions` table. -/
abbrev SessionTable := List Session

namespace SessionRepository

/-- `create` (line 19): `INSERT`. -/
def create (table : SessionTable) (session : Session) : SessionTable := table ++ [session]

/-- `update` (line 24): every column of the row is overwritten. -/
def update (table : SessionTable) (session : Session) : SessionTable :=
  Rows.updateWhere (fun r => r.id = session.id) (fun _ => session) table

/-- `findByRefreshTokenHash` (line 31). -/
def findByRefreshTokenHash (table : SessionTable) (hash : JsString) : Option Session :=
  Rows.find Session.refreshTokenHash hash table

/-- `findById` (line 40). -/
def findById (table : SessionTable) (sessionId : Uuid) : Option Session :=
  Rows.find Session.id sessionId table

/-- `revokeAllByUser` (lines 49–58). -/
def revokeAllByUser (table : SessionTable) (userId : Uuid) (reason : SessionRevocationReason)
    (now : Instant) : SessionTable :=
  Rows.updateWhere (fun r => r.userId = userId && r.revokedAt.isNone)
    (fun r => r.setRevocation (some now) (some reason) r.replacedBySessionId rfl) table

/-- The row condition of the `UPDATE` in `rotate`. -/
def rotatable (previous : Session) (r : Session) : Bool := r.id = previous.id && r.revokedAt.isNone

/-- The `SET` of that `UPDATE`. -/
def copyRevocation (previous : Session) (r : Session) : Session :=
  r.setRevocation previous.revokedAt previous.revocationReason previous.replacedBySessionId
    previous.chkRevocation

/-- `rotate` (lines 73–96). The transaction commits in both cases: with
    `affected ≠ 1` it returns before the `INSERT`. -/
def rotate (table : SessionTable) (previous successor : Session) : Bool × SessionTable :=
  let affected := table.countP (rotatable previous)
  let updated := Rows.updateWhere (rotatable previous) (copyRevocation previous) table
  if affected ≠ 1 then (false, updated) else (true, updated ++ [successor])

/-- The ids of a table, in insertion order. -/
def ids (table : SessionTable) : List Uuid := table.map Session.id

/-- The refresh-token hashes of a table. -/
def hashes (table : SessionTable) : List JsString := table.map Session.refreshTokenHash

variable {table : SessionTable} {id : Uuid} {s : Session}

theorem mem_of_findById (h : findById table id = some s) : s ∈ table ∧ s.id = id :=
  Rows.mem_of_find h

theorem mem_ids_of_findById (h : findById table id = some s) : id ∈ ids table :=
  Rows.mem_keys_of_find h

theorem findById_of_mem (hids : (ids table).Nodup) (h : s ∈ table) :
    findById table s.id = some s :=
  Rows.find_of_mem hids h

theorem mem_of_findByRefreshTokenHash {hash : JsString}
    (h : findByRefreshTokenHash table hash = some s) : s ∈ table ∧ s.refreshTokenHash = hash :=
  Rows.mem_of_find h

/-! ### The columns no write changes -/

theorem map_identity_update (h : ∀ r ∈ table, r.id = s.id → s.identity = r.identity) :
    (update table s).map Session.identity = table.map Session.identity :=
  Rows.map_updateWhere fun r hr hid => h r hr (by simpa using hid)

theorem map_identity_revokeAllByUser (userId reason now) :
    (revokeAllByUser table userId reason now).map Session.identity =
      table.map Session.identity :=
  Rows.map_updateWhere fun _ _ _ => rfl

theorem ids_eq_of_identity {t t' : SessionTable} {news : List Session}
    (h : t'.map Session.identity = t.map Session.identity ++ news.map Session.identity) :
    ids t' = ids t ++ news.map Session.id := by
  have := congrArg (List.map Prod.fst) h
  simpa [List.map_map, Function.comp_def, Session.identity, ids] using this

theorem hashes_eq_of_identity {t t' : SessionTable} {news : List Session}
    (h : t'.map Session.identity = t.map Session.identity ++ news.map Session.identity) :
    hashes t' = hashes t ++ news.map Session.refreshTokenHash := by
  have := congrArg (List.map fun i => i.2.2.2.1) h
  simpa [List.map_map, Function.comp_def, Session.identity, hashes] using this

@[simp] theorem ids_revokeAllByUser (userId reason now) :
    ids (revokeAllByUser table userId reason now) = ids table :=
  Rows.map_updateWhere fun _ _ _ => rfl

/-! ### What each write does to the row of an id -/

theorem findById_create :
    findById (create table s) id =
      (findById table id).or (if s.id = id then some s else none) := by
  rw [findById, create, Rows.find_append, Rows.find_cons, Rows.find_nil, findById]

theorem findById_update :
    findById (update table s) id =
      (findById table id).map fun r => if r.id = s.id then s else r := by
  have hkey : ∀ r : Session, decide (r.id = s.id) = true → s.id = r.id := by
    intro r hr
    exact (of_decide_eq_true hr).symm
  rw [findById, update, Rows.find_updateWhere hkey, findById]
  simp only [decide_eq_true_eq]

theorem findById_revokeAllByUser (userId reason now) :
    findById (revokeAllByUser table userId reason now) id =
      (findById table id).map fun r =>
        if r.userId = userId ∧ r.revokedAt = none then
          r.setRevocation (some now) (some reason) r.replacedBySessionId rfl
        else r := by
  have hkey : ∀ r : Session, (decide (r.userId = userId) && r.revokedAt.isNone) = true →
      (r.setRevocation (some now) (some reason) r.replacedBySessionId rfl).id = r.id :=
    fun _ _ => rfl
  rw [findById, revokeAllByUser, Rows.find_updateWhere hkey, findById]
  simp only [Bool.and_eq_true, decide_eq_true_eq, Option.isNone_iff_eq_none]

/-! ### The conditional `UPDATE` of `rotate` -/

/-- With distinct ids it affects one row or none. -/
theorem countP_rotatable (hids : (ids table).Nodup) (previous : Session) :
    table.countP (rotatable previous) =
      if (findById table previous.id).any (·.revokedAt.isNone) then 1 else 0 := by
  induction table with
  | nil => rfl
  | cons r rs ih =>
    rw [ids, List.map_cons, List.nodup_cons] at hids
    rw [List.countP_cons, ih hids.2, findById, findById, Rows.find_cons]
    by_cases hid : r.id = previous.id
    · have hnone : Rows.find Session.id previous.id rs = none :=
        Rows.find_eq_none_iff.mpr (hid ▸ hids.1)
      simp [rotatable, hid, hnone]
    · simp [rotatable, hid]

/-- `rotate` returns true exactly when the stored row of `previous` is unrevoked. -/
theorem rotate_fst (hids : (ids table).Nodup) (previous successor : Session) :
    (rotate table previous successor).1 = true ↔
      ∃ r, findById table previous.id = some r ∧ r.revokedAt = none := by
  have hany : (findById table previous.id).any (·.revokedAt.isNone) = true ↔
      ∃ r, findById table previous.id = some r ∧ r.revokedAt = none := by
    simp [Option.any_eq_true]
  rw [← hany, rotate, countP_rotatable hids]
  by_cases h : (findById table previous.id).any (·.revokedAt.isNone)
  · simp [h]
  · simp [h]

theorem rotate_eq_of_won {previous successor : Session}
    (h : (rotate table previous successor).1 = true) :
    rotate table previous successor =
      (true, Rows.updateWhere (rotatable previous) (copyRevocation previous) table ++
        [successor]) := by
  by_cases hcount : table.countP (rotatable previous) ≠ 1
  · simp [rotate, hcount] at h
  · exact if_neg hcount

/-- A `rotate` that returns false writes nothing. -/
theorem rotate_eq_of_lost (hids : (ids table).Nodup) {previous successor : Session}
    (h : (rotate table previous successor).1 = false) :
    rotate table previous successor = (false, table) := by
  have hnot : ¬ ∃ r, findById table previous.id = some r ∧ r.revokedAt = none := by
    rw [← rotate_fst hids previous successor, h]
    decide
  have hself : Rows.updateWhere (rotatable previous) (copyRevocation previous) table = table := by
    refine Rows.updateWhere_eq_self fun r hr => ?_
    by_contra hrot
    simp only [rotatable, Bool.not_eq_false, Bool.and_eq_true, decide_eq_true_eq,
      Option.isNone_iff_eq_none] at hrot
    exact hnot ⟨r, hrot.1 ▸ findById_of_mem hids hr, hrot.2⟩
  by_cases hcount : table.countP (rotatable previous) ≠ 1
  · rw [rotate, if_pos hcount, hself]
  · simp [rotate, hcount] at h

theorem map_identity_rotate {previous successor : Session}
    (h : (rotate table previous successor).1 = true) :
    (rotate table previous successor).2.map Session.identity =
      table.map Session.identity ++ [successor.identity] := by
  have hkey : ∀ r ∈ table, rotatable previous r = true →
      (copyRevocation previous r).identity = r.identity :=
    fun _ _ _ => rfl
  rw [rotate_eq_of_won h, List.map_append, Rows.map_updateWhere hkey]
  rfl

theorem ids_rotate {previous successor : Session}
    (h : (rotate table previous successor).1 = true) :
    ids (rotate table previous successor).2 = ids table ++ [successor.id] := by
  have hident : (rotate table previous successor).2.map Session.identity =
      table.map Session.identity ++ [successor].map Session.identity := map_identity_rotate h
  exact ids_eq_of_identity hident

theorem findById_rotate {previous successor : Session}
    (h : (rotate table previous successor).1 = true) :
    findById (rotate table previous successor).2 id =
      ((findById table id).map fun r =>
        if r.id = previous.id ∧ r.revokedAt = none then copyRevocation previous r else r).or
      (if successor.id = id then some successor else none) := by
  have hkey : ∀ r : Session, rotatable previous r = true → (copyRevocation previous r).id = r.id :=
    fun _ _ => rfl
  rw [rotate_eq_of_won h, findById, Rows.find_append, Rows.find_updateWhere hkey, Rows.find_cons,
    Rows.find_nil, findById]
  simp only [rotatable, Bool.and_eq_true, decide_eq_true_eq, Option.isNone_iff_eq_none]

theorem findById_rotate_previous {previous successor r : Session}
    (h : (rotate table previous successor).1 = true) (hr : findById table previous.id = some r)
    (hnone : r.revokedAt = none) :
    findById (rotate table previous successor).2 previous.id =
      some (copyRevocation previous r) := by
  rw [findById_rotate h, hr, Option.map_some, if_pos ⟨(mem_of_findById hr).2, hnone⟩,
    Option.some_or]

theorem findById_rotate_successor {previous successor : Session}
    (h : (rotate table previous successor).1 = true) (hfresh : successor.id ∉ ids table) :
    findById (rotate table previous successor).2 successor.id = some successor := by
  have hnone : findById table successor.id = none := Rows.find_eq_none_iff.mpr hfresh
  rw [findById_rotate h, hnone, Option.map_none, if_pos rfl, Option.none_or]

end SessionRepository

end KomiSaas.Auth
