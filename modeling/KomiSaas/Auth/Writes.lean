import KomiSaas.Auth.UseCases

/-!
# What the writes of the use cases keep

The use cases write to `sessions` in four ways: a login inserts, a renewal
rotates, an alarm or a closed account revokes every session of a user, and a
logout overwrites the row of the session it loaded. `Write` lists them with
what holds at the moment of each.

* `Write.keyed`: ids and refresh-token hashes stay distinct.
* `Write.ids_grow`: rows are only appended.
* `Write.advances`: a row keeps its identity, and a revoked row stays revoked.
* `Final`: a revoked row keeps its revocation record. Insertion, rotation and
  `revokeAllByUser` have it always; a logout, when its copy is not stale
  (`final_logout`).
-/

namespace KomiSaas.Auth

open KomiSaas.Lib KomiSaas.Shared SessionRepository

/-! ## Tables -/

/-- Ids and hashes are distinct: the primary key and the unique index of `sessions`. -/
structure Keyed (table : SessionTable) : Prop where
  ids_nodup : (ids table).Nodup
  hashes_nodup : (hashes table).Nodup

/-- Neither the id nor the hash is in the table. -/
def Fresh (table : SessionTable) (id : Uuid) (hash : JsString) : Prop :=
  id ∉ ids table ∧ hash ∉ hashes table

instance (table : SessionTable) (id : Uuid) (hash : JsString) : Decidable (Fresh table id hash) :=
  inferInstanceAs (Decidable (_ ∧ _))

/-- The table has a row with the identity of `c`. -/
def Stored (table : SessionTable) (c : Session) : Prop :=
  ∃ r, findById table c.id = some r ∧ r.identity = c.identity

/-- Every row keeps its identity, and a revoked row stays revoked. -/
def Advances (t t' : SessionTable) : Prop :=
  ∀ id r, findById t id = some r →
    ∃ r', findById t' id = some r' ∧ r'.identity = r.identity ∧
      (r.revokedAt ≠ none → r'.revokedAt ≠ none)

/-- Every revoked row keeps its revocation record. -/
def Final (t t' : SessionTable) : Prop :=
  ∀ id r, findById t id = some r → r.revokedAt ≠ none →
    ∃ r', findById t' id = some r' ∧ r'.record = r.record

/-- One write of a use case. -/
inductive Write (table : SessionTable) : SessionTable → Prop
  | idle : Write table table
  | insert (session : Session) : Fresh table session.id session.refreshTokenHash →
      Write table (create table session)
  | revokeAll (userId : Uuid) (reason : SessionRevocationReason) (now : Instant) :
      Write table (revokeAllByUser table userId reason now)
  | rotate (session successor : Session) (now : Instant) : Stored table session →
      session.revokedAt = none → Fresh table successor.id successor.refreshTokenHash →
      (SessionRepository.rotate table (session.rotateTo successor.id now) successor).1 = true →
      Write table
        (SessionRepository.rotate table (session.rotateTo successor.id now) successor).2
  | logout (session : Session) (now : Instant) : Stored table session →
      Write table (Logout.finish table session now)

variable {t t' t'' : SessionTable} {c s : Session} {now : Instant}

/-- Two sessions with one refresh-token hash are one session. -/
theorem Keyed.eq_of_hash (h : Keyed t) {r r' : Session} (hr : r ∈ t) (hr' : r' ∈ t)
    (hhash : r.refreshTokenHash = r'.refreshTokenHash) : r = r' :=
  List.inj_on_of_nodup_map h.hashes_nodup hr hr' hhash

/-! ## Rows are appended and keep their identity -/

theorem Stored.row (hids : (ids t).Nodup) (h : Stored t c) {r : Session} (hr : r ∈ t)
    (hid : r.id = c.id) : r.identity = c.identity := by
  obtain ⟨r', hfind, hident⟩ := h
  have hfind' : findById t c.id = some r := hid ▸ findById_of_mem hids hr
  obtain rfl : r' = r := Option.some.inj (hfind.symm.trans hfind')
  exact hident

theorem map_identity_logout (hids : (ids t).Nodup) (h : Stored t c) :
    (Logout.finish t c now).map Session.identity = t.map Session.identity := by
  refine map_identity_update fun r hr hid => ?_
  rw [Session.identity_revoke]
  exact (h.row hids hr (by simpa using hid)).symm

/-- Each write appends at most one row, with a fresh id and a fresh hash. -/
theorem Write.map_identity (hids : (ids t).Nodup) (h : Write t t') :
    t'.map Session.identity = t.map Session.identity ∨
      ∃ s : Session, Fresh t s.id s.refreshTokenHash ∧
        t'.map Session.identity = t.map Session.identity ++ [s.identity] := by
  cases h with
  | idle => exact .inl rfl
  | insert session hfresh => exact .inr ⟨session, hfresh, by simp [create]⟩
  | revokeAll userId reason now => exact .inl (map_identity_revokeAllByUser userId reason now)
  | rotate session successor now _ _ hfresh hwon =>
    exact .inr ⟨successor, hfresh, map_identity_rotate hwon⟩
  | logout session now hstored => exact .inl (map_identity_logout hids hstored)

theorem Write.ids_eq (hids : (ids t).Nodup) (h : Write t t') :
    ∃ news : List Session, ids t' = ids t ++ news.map Session.id ∧
      hashes t' = hashes t ++ news.map Session.refreshTokenHash ∧
      news.length ≤ 1 ∧ ∀ s ∈ news, Fresh t s.id s.refreshTokenHash := by
  rcases h.map_identity hids with heq | ⟨s, hfresh, heq⟩
  · have heq' : t'.map Session.identity =
        t.map Session.identity ++ ([] : List Session).map Session.identity := by simp [heq]
    exact ⟨[], ids_eq_of_identity heq', hashes_eq_of_identity heq', by simp, by simp⟩
  · have heq' : t'.map Session.identity =
        t.map Session.identity ++ [s].map Session.identity := heq
    exact ⟨[s], ids_eq_of_identity heq', hashes_eq_of_identity heq', by simp, by simpa⟩

theorem Write.ids_grow (hids : (ids t).Nodup) (h : Write t t') : ids t <+: ids t' := by
  obtain ⟨news, heq, -⟩ := h.ids_eq hids
  exact ⟨_, heq.symm⟩

theorem Write.keyed (hkeyed : Keyed t) (h : Write t t') : Keyed t' := by
  obtain ⟨news, hids, hhashes, hlen, hfresh⟩ := h.ids_eq hkeyed.ids_nodup
  cases news with
  | nil =>
    constructor
    · simpa [hids] using hkeyed.ids_nodup
    · simpa [hhashes] using hkeyed.hashes_nodup
  | cons s rest =>
    have hrest : rest = [] := by
      rw [List.length_cons] at hlen
      exact List.eq_nil_of_length_eq_zero (by omega)
    subst hrest
    have hs : Fresh t s.id s.refreshTokenHash := hfresh s (List.mem_singleton_self s)
    constructor
    · rw [hids, List.map_singleton]
      exact hkeyed.ids_nodup.append (List.nodup_singleton _) (by simpa using hs.1)
    · rw [hhashes, List.map_singleton]
      exact hkeyed.hashes_nodup.append (List.nodup_singleton _) (by simpa using hs.2)

/-! ## A revoked row stays revoked -/

theorem Advances.refl (t : SessionTable) : Advances t t :=
  fun _ r hr => ⟨r, hr, rfl, id⟩

theorem Advances.trans (h : Advances t t') (h' : Advances t' t'') : Advances t t'' := by
  intro id r hr
  obtain ⟨r', hr', hident', hrev'⟩ := h id r hr
  obtain ⟨r'', hr'', hident'', hrev''⟩ := h' id r' hr'
  exact ⟨r'', hr'', hident''.trans hident', fun hr => hrev'' (hrev' hr)⟩

theorem Stored.advance (hadv : Advances t t') (h : Stored t c) : Stored t' c := by
  obtain ⟨r, hr, hident⟩ := h
  obtain ⟨r', hr', hident', -⟩ := hadv _ r hr
  exact ⟨r', hr', hident'.trans hident⟩

theorem advances_create (t : SessionTable) (s : Session) : Advances t (create t s) := by
  intro id r hr
  exact ⟨r, by rw [findById_create, hr]; rfl, rfl, fun h => h⟩

theorem advances_revokeAllByUser (t : SessionTable) (userId reason now) :
    Advances t (revokeAllByUser t userId reason now) := by
  intro id r hr
  have hrow : findById (revokeAllByUser t userId reason now) id = _ :=
    findById_revokeAllByUser userId reason now
  rw [hr, Option.map_some] at hrow
  refine ⟨_, hrow, ?_, fun hrev => ?_⟩
  · split_ifs
    · rfl
    · rfl
  · have hcond : ¬ (r.userId = userId ∧ r.revokedAt = none) := fun h => hrev h.2
    rw [if_neg hcond]
    exact hrev

theorem revokedAt_rotateTo_ne_none (s : Session) (successor now) :
    (s.rotateTo successor now).revokedAt ≠ none := by
  unfold Session.rotateTo
  split_ifs with h
  · exact Option.isSome_iff_ne_none.mp h
  · exact Option.isSome_iff_ne_none.mp (Session.revokedAt_isSome_revoke s .rotated now)

theorem advances_rotate {previous successor : Session} (hprev : previous.revokedAt ≠ none)
    (hwon : (SessionRepository.rotate t previous successor).1 = true) :
    Advances t (SessionRepository.rotate t previous successor).2 := by
  intro id r hr
  have hrow : findById (SessionRepository.rotate t previous successor).2 id = _ :=
    findById_rotate hwon
  rw [hr, Option.map_some, Option.some_or] at hrow
  refine ⟨_, hrow, ?_, fun hrev => ?_⟩
  · split_ifs
    · rfl
    · rfl
  · split_ifs
    · exact hprev
    · exact hrev

theorem findById_logout {id : Uuid} {r : Session} (hr : findById t id = some r) :
    findById (Logout.finish t c now) id = some (if id = c.id then c.revoke .logout now else r) := by
  rw [Logout.finish, findById_update, hr, Option.map_some, Session.id_revoke,
    (mem_of_findById hr).2]

theorem advances_logout (h : Stored t c) : Advances t (Logout.finish t c now) := by
  intro id r hr
  refine ⟨_, findById_logout hr, ?_, fun hrev => ?_⟩
  · split_ifs with hid
    · obtain ⟨r', hr', hident⟩ := h
      obtain rfl : r' = r := Option.some.inj (hr'.symm.trans (hid ▸ hr))
      rw [Session.identity_revoke, hident]
    · rfl
  · split_ifs
    · exact Option.isSome_iff_ne_none.mp (Session.revokedAt_isSome_revoke c .logout now)
    · exact hrev

/-- No write of a use case reopens a session. -/
theorem Write.advances (h : Write t t') : Advances t t' := by
  cases h with
  | idle => exact Advances.refl t
  | insert session _ => exact advances_create t session
  | revokeAll userId reason now => exact advances_revokeAllByUser t userId reason now
  | rotate session successor now _ _ _ hwon =>
    exact advances_rotate (revokedAt_rotateTo_ne_none session successor.id now) hwon
  | logout session now hstored => exact advances_logout hstored

/-! ## The revocation record -/

theorem Final.refl (t : SessionTable) : Final t t := fun _ r hr _ => ⟨r, hr, rfl⟩

theorem Final.trans (h : Final t t') (h' : Final t' t'') : Final t t'' := by
  intro id r hr hrev
  obtain ⟨r', hr', hrec'⟩ := h id r hr hrev
  have hrev' : r'.revokedAt ≠ none := by
    rw [Session.revokedAt_of_record hrec']; exact hrev
  obtain ⟨r'', hr'', hrec''⟩ := h' id r' hr' hrev'
  exact ⟨r'', hr'', hrec''.trans hrec'⟩

theorem final_create (t : SessionTable) (s : Session) : Final t (create t s) := by
  intro id r hr _
  exact ⟨r, by rw [findById_create, hr]; rfl, rfl⟩

theorem final_revokeAllByUser (t : SessionTable) (userId reason now) :
    Final t (revokeAllByUser t userId reason now) := by
  intro id r hr hrev
  have hcond : ¬ (r.userId = userId ∧ r.revokedAt = none) := fun h => hrev h.2
  exact ⟨r, by rw [findById_revokeAllByUser, hr, Option.map_some, if_neg hcond], rfl⟩

theorem final_rotate {previous successor : Session}
    (hwon : (SessionRepository.rotate t previous successor).1 = true) :
    Final t (SessionRepository.rotate t previous successor).2 := by
  intro id r hr hrev
  have hcond : ¬ (r.id = previous.id ∧ r.revokedAt = none) := fun h => hrev h.2
  exact ⟨r, by rw [findById_rotate hwon, hr, Option.map_some, if_neg hcond]; rfl, rfl⟩

/-- A logout is final when the row it overwrites is unrevoked, or its copy has the row's record. -/
theorem final_logout
    (hrow : ∀ r, findById t c.id = some r → r.revokedAt = none ∨ c.record = r.record) :
    Final t (Logout.finish t c now) := by
  intro id r hr hrev
  refine ⟨_, findById_logout hr, ?_⟩
  split_ifs with hid
  · have hrec : c.record = r.record := (hrow r (hid ▸ hr)).resolve_left hrev
    have hcopy : c.revokedAt.isSome := by
      rw [Session.revokedAt_of_record hrec]
      exact Option.isSome_iff_ne_none.mpr hrev
    rw [Session.revoke_of_revoked hcopy, hrec]
  · rfl

end KomiSaas.Auth
