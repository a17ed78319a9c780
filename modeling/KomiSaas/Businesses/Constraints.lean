import KomiSaas.Businesses.Creation
import KomiSaas.Lib.InTurn
import KomiSaas.Lib.Overtaken
import KomiSaas.Lib.Writes

/-!
# The businesses over interleaved requests

`CreateTenant` with the three use cases that change a business, as two atomic
steps: what is read, with what is then done in memory, and the write.

The slug and the NIT have unique indexes over the businesses that are not deleted;
the use cases look among all of them. The name has no index, and is looked for with
`ILIKE` and the new name as it is.

* `businesses_keep_constraints`: in every interleaving, the indexes hold, the
  columns that no `UPDATE` sets stay, and a write that fits the columns is refused
  only to a request that was overtaken.
* `business_name_shared_iff`: of requests one after another, no slug or NIT is at once
  that of two businesses, deleted ones included; and a name is the name of at most one
  business exactly where it matches itself as a pattern.
-/

namespace KomiSaas.Businesses.Constraints

open KomiSaas.Lib KomiSaas.Lib.Flights KomiSaas.Shared

/-- A call of one of the four. -/
inductive Operation where
  | createTenant (params : CreateTenantParams)
  | changeTenant (operation : TenantOperation)
  deriving DecidableEq

/-- A request with its time and a generated id. -/
structure Request where
  now : Instant
  tenantId : Uuid
  operation : Operation

/-- What a request is going to write. -/
inductive Flight where
  | save (tenant : TenantAggregate)
  | update (tenant : TenantAggregate)
  deriving DecidableEq

namespace Flight

def tenant : Flight → TenantAggregate
  | .save tenant => tenant
  | .update tenant => tenant

def creates : Flight → Bool
  | .save _ => true
  | .update _ => false

end Flight

/-- Everything before the write. -/
def Request.prepare (env : BusinessEnv) (tenants : List TenantRow) (request : Request) :
    Except TenantException Flight :=
  match request.operation with
  | .createTenant params =>
    (CreateTenant.prepare env request.tenantId request.now tenants params).map .save
  | .changeTenant operation => (operation.prepare env request.now tenants).map .update

/-- The requests. A generated id is in use nowhere. -/
def businesses (env : BusinessEnv) : System (List TenantRow) Request Flight Unit where
  enabled store flights request :=
    request.tenantId ∉ store.map (·.id) && request.tenantId ∉ flights.map (·.tenant.id)
  read store request := preparing store (request.prepare env store)
  write store flight _ :=
    match flight with
    | .save tenant => TenantRepository.save store tenant
    | .update tenant =>
      if TenantRepository.fits tenant then TenantRepository.update store tenant else none

abbrev BusinessState := State (List TenantRow) Flight

abbrev BusinessAction := Action Request Unit

abbrev BusinessTransition := Transition BusinessState BusinessAction

variable {env : BusinessEnv} {store store' : List TenantRow} {flight : Flight} {request : Request}
  {tenant : TenantAggregate} {input : Unit}

/-! ## Invariants -/

/-- Two businesses that are not deleted differ in slug and NIT. -/
def LiveApart (row other : TenantRow) : Prop :=
  row.isDeleted = false → other.isDeleted = false → row.slug ≠ other.slug ∧ row.nit ≠ other.nit

/-- What holds of the table. -/
structure TableInv (store : List TenantRow) : Prop where
  ids : (store.map (·.id)).Nodup
  apart : Rows.Apart (·.id) LiveApart store
  tidy : ∀ row ∈ store, TenantTidy row

/-- The columns that no `UPDATE` sets: the date of change is one of them. -/
def fixedColumns (row : TenantRow) : Uuid × Instant × Instant :=
  (row.id, row.createdAt, row.updatedAt)

/-- A new business has an id of its own; one that is changed is stored. -/
def Located (store : List TenantRow) (flight : Flight) : Prop :=
  flight.creates = true ↔ flight.tenant.id ∉ store.map (·.id)

/-- A business that is being created is in no other operation. -/
def Apart (flight other : Flight) : Prop :=
  flight.creates = true ∨ other.creates = true → flight.tenant.id ≠ other.tenant.id

/-- What a request makes of the table that it reads. -/
inductive Prepared (env : BusinessEnv) (store : List TenantRow) : Flight → Prop
  | created {tenant : TenantAggregate} : tenant.id ∉ store.map (·.id) →
      TenantFree env store tenant → Prepared env store (.save tenant)
  | changed {tenant : TenantAggregate} {old : TenantRow} : old ∈ store → old.isDeleted = false →
      TenantChanged env store old tenant → Prepared env store (.update tenant)

theorem liveApart_symm (row other : TenantRow) (h : LiveApart row other) : LiveApart other row :=
  fun hrow hother => (h hother hrow).imp Ne.symm Ne.symm

/-- What a request takes off with. -/
theorem prepared_of_read {result : Option Flight} (htidy : ∀ row ∈ store, TenantTidy row)
    (hfresh : request.tenantId ∉ store.map (·.id))
    (h : (businesses env).read store request = (store', result)) :
    store' = store ∧ ∀ flight, result = some flight → Prepared env store flight ∧
      (flight.creates = true → flight.tenant.id = request.tenantId) := by
  obtain ⟨hsame, hprepared⟩ := prepared_of_preparing h
  refine ⟨hsame, fun flight hflight => ?_⟩
  have hprepare := hprepared flight hflight
  obtain ⟨now, tenantId, operation⟩ := request
  cases operation with
  | createTenant params =>
    obtain ⟨tenant, htenant, rfl⟩ := map_eq_ok.mp hprepare
    obtain ⟨hid, hfree⟩ := CreateTenant.prepare_ok htenant
    refine ⟨.created ?_ hfree, fun _ => hid⟩
    rw [hid]
    exact hfresh
  | changeTenant operation =>
    obtain ⟨tenant, htenant, rfl⟩ := map_eq_ok.mp hprepare
    obtain ⟨old, hold, hlive, hchanged⟩ := operation.changed_of_prepare htidy htenant
    exact ⟨.changed hold hlive hchanged, fun hcreates => by cases hcreates⟩

theorem Prepared.located (h : Prepared env store flight) : Located store flight := by
  cases h with
  | created hid _ => exact iff_of_true rfl hid
  | changed hold _ hchanged =>
    refine iff_of_false Bool.false_ne_true (not_not.mpr ?_)
    exact List.mem_map.mpr ⟨_, hold, hchanged.id.symm⟩

/-- A read changes nothing, enabled or not. -/
theorem store_of_read {result : Option Flight}
    (h : (businesses env).read store request = (store', result)) : store' = store :=
  (prepared_of_preparing h).1

/-! ## Writing -/

theorem indexesAllow_iff : TenantRepository.indexesAllow store tenant = true ↔
    tenant.isDeleted = true ∨ ∀ row ∈ store, row.id ≠ tenant.id → row.isDeleted = false →
      row.slug ≠ tenant.slug.value ∧ row.nit ≠ tenant.nit.value := by
  rw [TenantRepository.indexesAllow, Bool.or_eq_true, List.all_eq_true]
  refine or_congr_right (forall₂_congr fun row _ => ?_)
  rw [Bool.or_eq_true, Bool.or_eq_true, Bool.and_eq_true, decide_eq_true_eq, decide_eq_true_eq,
    decide_eq_true_eq]
  constructor
  · rintro ((hid | hdeleted) | hfree) hid' hdeleted'
    · exact absurd hid hid'
    · cases hdeleted'.symm.trans hdeleted
    · exact hfree
  · intro h
    by_cases hid : row.id = tenant.id
    · exact .inl (.inl hid)
    · cases hdeleted : row.isDeleted with
      | true => exact .inl (.inr rfl)
      | false => exact .inr (h hid hdeleted)

theorem tidy_of_texts {row : TenantRow} (hname : row.name = tenant.name.value)
    (hslug : row.slug = tenant.slug.value) (hnit : row.nit = tenant.nit.value) :
    TenantTidy row where
  name := by rw [hname, tenant.name.trimmed]
  slug := by rw [hslug, tenant.slug.trimmed]
  nit := by rw [hnit, tenant.nit.trimmed]

/-- The texts of the row are those of the business. -/
structure Holds (row : TenantRow) (tenant : TenantAggregate) : Prop where
  id : row.id = tenant.id
  name : row.name = tenant.name.value
  slug : row.slug = tenant.slug.value
  nit : row.nit = tenant.nit.value

/-- A write puts one row that the indexes allow, or matches none. -/
theorem puts_of_write (hids : (store.map (·.id)).Nodup) (hlocated : Located store flight)
    (h : (businesses env).write store flight input = some store') :
    store' = store ∨ ∃ row, Holds row flight.tenant ∧ Rows.Puts (·.id) store store' row ∧
      (∀ other ∈ store, other.id ≠ row.id → LiveApart other row) ∧
      ∀ old ∈ store, old.id = row.id → fixedColumns old = fixedColumns row := by
  have happart : ∀ {row : TenantRow} {tenant : TenantAggregate}, Holds row tenant →
      row.isDeleted = tenant.isDeleted → TenantRepository.indexesAllow store tenant = true →
      ∀ other ∈ store, other.id ≠ row.id → LiveApart other row := by
    intro row tenant hrow hdeleted hallow other hother hne hlive hlive'
    rw [hdeleted] at hlive'
    rw [hrow.slug, hrow.nit]
    rcases indexesAllow_iff.mp hallow with hgone | hfree
    · cases hlive'.symm.trans hgone
    · exact hfree other hother (hrow.id ▸ hne) hlive
  cases flight with
  | save tenant =>
    have h : TenantRepository.save store tenant = some store' := h
    have hnew : tenant.id ∉ store.map (·.id) := hlocated.mp rfl
    unfold TenantRepository.save at h
    split_ifs at h with hguard
    rw [Bool.not_eq_true, Bool.or_eq_false_iff, Bool.not_eq_false'] at hguard
    obtain rfl := Option.some.inj h
    refine .inr ⟨TenantRepository.row tenant, ⟨rfl, rfl, rfl, rfl⟩, Rows.puts_insert hids hnew,
      happart ⟨rfl, rfl, rfl, rfl⟩ rfl hguard.2, fun old hold hid => ?_⟩
    exact absurd (List.mem_map.mpr ⟨old, hold, hid⟩) hnew
  | update tenant =>
    have h : (if TenantRepository.fits tenant then TenantRepository.update store tenant else none) =
        some store' := h
    have hstored : tenant.id ∈ store.map (·.id) := by
      by_contra hnew
      cases hlocated.mpr hnew
    obtain ⟨old, hold, hid⟩ := List.mem_map.mp hstored
    unfold TenantRepository.update at h
    split_ifs at h with hfits hguard
    obtain rfl := Option.some.inj h
    have hmatches : ∀ r ∈ store, TenantRepository.matched tenant r = true → r.id = old.id := by
      intro r _ hr
      rw [TenantRepository.matched, Bool.and_eq_true, decide_eq_true_eq] at hr
      exact hr.1.trans hid.symm
    have hholds : Holds (TenantRepository.updated tenant old) tenant := ⟨hid, rfl, rfl, rfl⟩
    have hsameId : (TenantRepository.updated tenant old).id = old.id := rfl
    rcases Rows.puts_or_eq_updateWhere hids hold hmatches hsameId with ⟨hmatched, hputs⟩ | hsame
    · have hany : store.any (TenantRepository.matched tenant) = true :=
        List.any_eq_true.mpr ⟨old, hold, hmatched⟩
      rw [hany, Bool.true_and, Bool.not_eq_true, Bool.not_eq_false'] at hguard
      refine .inr ⟨TenantRepository.updated tenant old, hholds, hputs, happart hholds rfl hguard,
        fun r hr heq => ?_⟩
      rw [List.inj_on_of_nodup_map hids hr hold heq]
      rfl
    · -- the row was deleted since it was loaded
      exact .inl hsame

theorem keeps (env : BusinessEnv) : Keeps (businesses env) TableInv Located Apart where
  symm h hcreates := (h hcreates.symm).symm
  read htable hread := by
    rw [store_of_read hread]
    exact ⟨htable, fun _ h => h⟩
  took htable henabled hread hflights := by
    simp only [businesses, Bool.and_eq_true, decide_eq_true_eq] at henabled
    obtain ⟨hfresh, hfresh'⟩ := henabled
    obtain ⟨rfl, hprepared⟩ := prepared_of_read htable.tidy hfresh hread
    obtain ⟨hflight, hid⟩ := hprepared _ rfl
    refine ⟨hflight.located, fun other hother hcreates heq => ?_⟩
    have hchanges : ¬ Flight.creates _ = true := fun hcreates =>
      hfresh' (List.mem_map.mpr ⟨other, hother, heq.trans (hid hcreates)⟩)
    rcases hcreates with hcreates | hcreates
    · exact hchanges (hflight.located.mpr (heq ▸ (hflights other hother).mp hcreates))
    · exact hchanges hcreates
  wrote htable hlocated hwrite := by
    rcases puts_of_write htable.ids hlocated hwrite with hsame | ⟨row, hholds, hputs, happart, -⟩
    · rw [hsame]
      exact ⟨htable, fun _ h _ => h⟩
    · refine ⟨⟨hputs.keys, hputs.apart liveApart_symm htable.apart happart,
        hputs.forall_mem htable.tidy (tidy_of_texts hholds.name hholds.slug hholds.nit)⟩,
        fun other hother hapart => ?_⟩
      cases hcreates : other.creates with
      | true =>
        rw [Located, hcreates]
        refine iff_of_true rfl (hputs.notMem (hother.mp hcreates) ?_)
        rw [hholds.id]
        exact hapart (.inr hcreates)
      | false =>
        rw [Located, hcreates]
        refine iff_of_false Bool.false_ne_true (not_not.mpr ?_)
        refine hputs.map_subset (fun _ _ heq => heq) ?_
        by_contra hnew
        cases hcreates.symm.trans (hother.mpr hnew)

/-! ## Refusals -/

/-- What the request checked is what the indexes check. -/
theorem indexesAllow_of_prepared (htable : TableInv store) (h : Prepared env store flight) :
    TenantRepository.indexesAllow store flight.tenant = true := by
  refine indexesAllow_iff.mpr ?_
  cases h with
  | created _ hfree => exact .inr fun row hrow _ _ => ⟨hfree.slug row hrow, hfree.nit row hrow⟩
  | @changed tenant old hold hlive hchanged =>
    refine .inr fun row hrow hne hrow' => ?_
    have hother : row.id ≠ old.id := fun heq => hne (heq.trans hchanged.id.symm)
    have happart := htable.apart row hrow old hold hother hrow' hlive
    constructor
    · rcases hchanged.slug with hsame | hfree
      · rw [show (Flight.update tenant).tenant.slug.value = old.slug from hsame]
        exact happart.1
      · exact hfree row hrow
    · rcases hchanged.nit with hsame | hfree
      · rw [show (Flight.update tenant).tenant.nit.value = old.nit from hsame]
        exact happart.2
      · exact hfree row hrow

/-- The writes whose texts fit their columns. -/
def fitting : Set Flight := {flight | TenantRepository.fits flight.tenant = true}

theorem completes (env : BusinessEnv) : Completes (businesses env) TableInv fitting where
  pure := store_of_read
  accepts {store _ request flight} htable henabled hread hfits input := by
    simp only [businesses, Bool.and_eq_true, decide_eq_true_eq] at henabled
    obtain ⟨-, hprepared⟩ := prepared_of_read htable.tidy henabled.1 hread
    obtain ⟨hprepared, -⟩ := hprepared _ rfl
    have hallow := indexesAllow_of_prepared htable hprepared
    cases hprepared with
    | @created tenant hnew _ =>
      have hfits : TenantRepository.fits tenant = true := hfits
      have hallow : TenantRepository.indexesAllow store tenant = true := hallow
      show (TenantRepository.save store tenant).isSome = true
      simp [TenantRepository.save, hnew, hfits, hallow]
    | @changed tenant old _ _ _ =>
      have hfits : TenantRepository.fits tenant = true := hfits
      have hallow : TenantRepository.indexesAllow store tenant = true := hallow
      show (if TenantRepository.fits tenant then TenantRepository.update store tenant
        else none).isSome = true
      simp [TenantRepository.update, hfits, hallow]

/-! ## Interleaved runs -/

/-- No step sets the fixed columns of a business. -/
theorem fixedColumns_of_next {s s' : BusinessState} {a : BusinessAction}
    (hinv : Inv TableInv Located Apart s) (hnext : next (businesses env) s a = some s') :
    s.store.map fixedColumns ⊆ s'.store.map fixedColumns := by
  cases effect_of_next hnext with
  | ended _ hread =>
    rw [store_of_read hread]
    exact List.Subset.refl _
  | took _ hread =>
    rw [store_of_read hread]
    exact List.Subset.refl _
  | failed _ _ => exact List.Subset.refl _
  | wrote hflight hwrite =>
    have hlocated := hinv.flights _ (mem_of_flight hflight)
    rcases puts_of_write hinv.store.ids hlocated hwrite with hsame | ⟨row, -, hputs, -, hfixed⟩
    · rw [hsame]
      exact List.Subset.refl _
    · exact hputs.map_subset hfixed

/-- No business yet. -/
theorem tableInv_nil : TableInv [] :=
  ⟨List.nodup_nil, fun _ h => absurd h List.not_mem_nil, fun _ h => absurd h List.not_mem_nil⟩

/-- For every interleaving of any number of requests, from an empty table: no two
    businesses that are not deleted have one slug or one NIT; no business disappears
    or changes its id, its date of creation or its date of change; and a write whose
    texts fit their columns is refused to no request but one that another write
    overtook. -/
theorem businesses_keep_constraints {tr : List BusinessTransition} {s : BusinessState}
    (hrun : Run (next (businesses env)) (State.quiet []) tr s) :
    Rows.Apart (·.id) LiveApart s.store ∧
      (∀ t ∈ tr, t.pre.store.map fixedColumns ⊆ t.post.store.map fixedColumns) ∧
      RefusedOnlyOvertaken (businesses env) fitting tr := by
  have hinit : Inv TableInv Located Apart (State.quiet []) := Inv.quiet tableInv_nil
  obtain ⟨hinv, hall⟩ :=
    hrun.invariant (fun _ _ _ h hnext => h.step (keeps env) hnext) hinit
  refine ⟨hinv.store.apart, fun t ht => ?_,
    overtaken_of_refused (keeps env) (completes env) hrun hinit⟩
  exact fixedColumns_of_next (hall t ht).1 (hrun.next_of_mem ht)

/-- A request for a new business with the slug "komi". -/
def sampleCreate (tenantId : Uuid) (nit : JsString) : Request where
  now := 1600000000000
  tenantId := tenantId
  operation :=
    .createTenant
      { name := js "Komi " ++ nit
        description := js "Comidas"
        slug := js "komi"
        nit := nit }

/-- The deletion of the first business. -/
def sampleDelete : Request where
  now := 1600000001000
  tenantId := js "10000000-0000-4000-8000-000000000009"
  operation := .changeTenant ⟨js "10000000-0000-4000-8000-000000000001", .deleteTenant⟩

/-- Three requests for one slug read before any writes, and the first business is
    deleted before the second one is written. -/
def race : List BusinessAction :=
  [.read 1 (sampleCreate (js "10000000-0000-4000-8000-000000000001") (js "900123456")),
    .read 2 (sampleCreate (js "10000000-0000-4000-8000-000000000002") (js "900123457")),
    .read 3 (sampleCreate (js "10000000-0000-4000-8000-000000000003") (js "900123458")),
    .write 1 true (), .read 4 sampleDelete, .write 4 true (), .write 2 true (), .write 3 true ()]

/-- The second business has the slug of the deleted one; the third one is refused. -/
theorem businesses_keep_constraints_race :
    ∃ tr s, exec (next (businesses sampleEnv)) (State.quiet []) race = some (tr, s) ∧
      s.store.map (fun row => (row.slug, row.isDeleted)) =
        [(js "komi", true), (js "komi", false)] ∧
      Rows.Apart (·.id) LiveApart s.store ∧
      (∀ t ∈ tr, t.pre.store.map fixedColumns ⊆ t.post.store.map fixedColumns) ∧
      RefusedOnlyOvertaken (businesses sampleEnv) fitting tr := by
  obtain ⟨tr, s, hexec, hrows⟩ :
      ∃ tr s, exec (next (businesses sampleEnv)) (State.quiet []) race = some (tr, s) ∧
        s.store.map (fun row => (row.slug, row.isDeleted)) =
          [(js "komi", true), (js "komi", false)] :=
    exists_of_any_exec (by decide +kernel)
  exact ⟨tr, s, hexec, hrows, businesses_keep_constraints (run_of_exec hexec)⟩

/-! ## Requests one after another -/

variable {f : ℕ → ℕ}

/-- Two businesses differ in slug and NIT, deleted or not, and have one name up to
    case only where it does not match itself. -/
structure Distinct (env : BusinessEnv) (row other : TenantRow) : Prop where
  slug : row.slug ≠ other.slug
  nit : row.nit ≠ other.nit
  name : env.lower row.name = env.lower other.name → env.ilike row.name row.name = false

/-- `ILIKE` does not see the case. -/
theorem ilike_congr (hdb : Database env f) {text text' pattern pattern' : JsString}
    (htext : env.lower text = env.lower text')
    (hpattern : env.lower pattern = env.lower pattern') :
    env.ilike text pattern = env.ilike text' pattern' := by
  rw [hdb.ilike, hdb.ilike, likeLower, likeLower, htext, hpattern]

theorem distinct_symm (hdb : Database env f) (row other : TenantRow) (h : Distinct env row other) :
    Distinct env other row where
  slug := h.slug.symm
  nit := h.nit.symm
  name heq := by
    rw [ilike_congr hdb heq heq]
    exact h.name heq.symm

/-- What a request that nobody overtook writes is distinct from the other rows. -/
theorem distinct_of_prepared (hdb : Database env f)
    (hdistinct : Rows.Apart (·.id) (Distinct env) store) (hprepared : Prepared env store flight)
    {row other : TenantRow} (hrow : Holds row flight.tenant) (hother : other ∈ store)
    (hne : other.id ≠ row.id) : Distinct env other row := by
  have hname : env.ilike other.name flight.tenant.name.value = false →
      env.lower other.name = env.lower row.name → env.ilike other.name other.name = false := by
    intro hfree heq
    rw [hrow.name] at heq
    rwa [ilike_congr hdb rfl heq]
  cases hprepared with
  | created _ hfree =>
    refine ⟨?_, ?_, hname (hfree.name other hother)⟩
    · rw [hrow.slug]
      exact hfree.slug other hother
    · rw [hrow.nit]
      exact hfree.nit other hother
  | @changed tenant old hold hlive hchanged =>
    have hid : other.id ≠ old.id := fun heq =>
      hne ((heq.trans hchanged.id.symm).trans hrow.id.symm)
    have happart := hdistinct other hother old hold hid
    refine ⟨?_, ?_, ?_⟩
    · rw [hrow.slug]
      rcases hchanged.slug with hsame | hfree
      · exact hsame ▸ happart.slug
      · exact hfree other hother
    · rw [hrow.nit]
      rcases hchanged.nit with hsame | hfree
      · exact hsame ▸ happart.nit
      · exact hfree other hother
    · rcases hchanged.name with hsame | hfree
      · rw [hrow.name]
        exact hsame ▸ happart.name
      · exact hname (hfree other hother)

/-- In a run of requests in turn all businesses are distinct. -/
theorem distinct_of_inTurn (hdb : Database env f) {tr : List BusinessTransition} {s : BusinessState}
    (hrun : Run (next (businesses env)) (State.quiet []) tr s) (hturn : InTurn tr) :
    Rows.Apart (·.id) (Distinct env) s.store := by
  have halone : Alone (fun store => TableInv store ∧ Rows.Apart (·.id) (Distinct env) store)
      (Prepared env) s := by
    refine alone_of_inTurn ?_ ?_ hrun
      ⟨⟨tableInv_nil, fun _ h => absurd h List.not_mem_nil⟩, .inl rfl⟩ hturn
    · intro store request store' result htable henabled hread
      simp only [businesses, Bool.and_eq_true, decide_eq_true_eq] at henabled
      obtain ⟨rfl, hprepared⟩ := prepared_of_read htable.1.tidy henabled.1 hread
      exact ⟨htable, fun flight hflight => (hprepared flight hflight).1⟩
    · rintro store flight input store' ⟨htable, hdistinct⟩ hprepared hwrite
      obtain ⟨hkept, -⟩ := (keeps env).wrote htable hprepared.located hwrite
      refine ⟨hkept, ?_⟩
      rcases puts_of_write htable.ids hprepared.located hwrite with hsame | ⟨row, hholds, hputs, -⟩
      · rwa [hsame]
      · refine hputs.apart (distinct_symm hdb) hdistinct fun other hother hne => ?_
        exact distinct_of_prepared hdb hdistinct hprepared hholds hother hne
  exact halone.store.2

/-- No run of requests in turn leaves two businesses with the name, up to case. -/
def NeverShared (env : BusinessEnv) (name : JsString) : Prop :=
  ∀ tr s, Run (next (businesses env)) (State.quiet []) tr s → InTurn tr →
    ∀ row ∈ s.store, ∀ other ∈ s.store, env.lower row.name = env.lower name →
      env.lower other.name = env.lower name → row.id = other.id

/-- One request that creates a business free of all rows. -/
theorem run_create {tenantId : Uuid} {now : Instant} {name : TenantName}
    {description : TenantDescription} {slug : TenantSlug} {nit : TenantNit}
    (hid : tenantId ∉ store.map (·.id))
    (htenant : tenant = TenantAggregate.create tenantId now name description slug nit)
    (hfree : TenantFree env store tenant) (hfits : TenantRepository.fits tenant = true) :
    ∃ tr, Run (next (businesses env)) (State.quiet store) tr
      (State.quiet (store ++ [TenantRepository.row tenant])) ∧ InTurn tr := by
  subst htenant
  have hprepare := CreateTenant.prepare_of_free hfree
  have hallow : TenantRepository.indexesAllow store
      (TenantAggregate.create tenantId now name description slug nit) = true :=
    indexesAllow_iff.mpr (.inr fun row hrow _ _ => ⟨hfree.slug row hrow, hfree.nit row hrow⟩)
  refine @run_request _ _ _ _ (businesses env) store store _
    ⟨now, tenantId, .createTenant ⟨name.value, description.value, slug.value, nit.value⟩⟩
    (.save (TenantAggregate.create tenantId now name description slug nit)) () ?_ ?_ ?_
  · show (decide (tenantId ∉ store.map (·.id)) && decide (tenantId ∉ [])) = true
    rw [decide_eq_true hid]
    rfl
  · simp [businesses, Request.prepare, hprepare, Except.map, preparing]
  · show TenantRepository.save store _ = _
    have hid : (TenantAggregate.create tenantId now name description slug nit).id ∉
        store.map (·.id) := hid
    simp [TenantRepository.save, hid, hfits, hallow]

def sampleDescription : TenantDescription := ⟨[], rfl, by decide, by decide⟩

/-- A business with a name, and its own slug and NIT. -/
def sampleTenant (name : TenantName) : TenantAggregate :=
  .create (js "10000000-0000-4000-8000-000000000001") 1600000000000 name sampleDescription
    ⟨⟨js "komi", by decide, by decide, by decide⟩, by decide⟩
    ⟨⟨js "900123456", by decide, by decide, by decide⟩, by decide⟩

/-- Another one with the same name. -/
def otherTenant (name : TenantName) : TenantAggregate :=
  .create (js "10000000-0000-4000-8000-000000000002") 1600000000000 name sampleDescription
    ⟨⟨js "otra", by decide, by decide, by decide⟩, by decide⟩
    ⟨⟨js "900123457", by decide, by decide, by decide⟩, by decide⟩

/-- A name without U+0000 fits its column, whatever else it holds. -/
theorem fits_name {name : TenantName} (h : fitsText name.value = true) :
    fitsVarchar 120 name.value = true := by
  rw [fitsVarchar_of_length_le (name.maxLength.trans (by decide)), h]

/-- A name that does not match itself can be given twice. -/
theorem not_neverShared {name : TenantName} (hfits : fitsText name.value = true)
    (h : env.ilike name.value name.value = false) : ¬ NeverShared env name.value := by
  intro hnever
  have hfirst : TenantRepository.fits (sampleTenant name) = true := by
    show (fitsVarchar 120 name.value && _ && _ && _) = true
    rw [fits_name hfits]
    rfl
  have hsecond : TenantRepository.fits (otherTenant name) = true := by
    show (fitsVarchar 120 name.value && _ && _ && _) = true
    rw [fits_name hfits]
    rfl
  have hfree : TenantFree env [] (sampleTenant name) :=
    ⟨fun _ h => absurd h List.not_mem_nil, fun _ h => absurd h List.not_mem_nil,
      fun _ h => absurd h List.not_mem_nil⟩
  have hfree' : TenantFree env [TenantRepository.row (sampleTenant name)] (otherTenant name) := by
    constructor
    all_goals
      intro row hrow
      obtain rfl := List.mem_singleton.mp hrow
    · show js "komi" ≠ js "otra"
      decide
    · show js "900123456" ≠ js "900123457"
      decide
    · exact h
  have hnew : js "10000000-0000-4000-8000-000000000002" ∉
      [js "10000000-0000-4000-8000-000000000001"] := by decide
  obtain ⟨first, hrun, hturn⟩ := run_create List.not_mem_nil rfl hfree hfirst
  obtain ⟨second, hrun', hturn'⟩ := run_create hnew rfl hfree' hsecond
  have hsame := hnever _ _ (hrun.append hrun') (hturn.append hturn')
    (TenantRepository.row (sampleTenant name)) List.mem_cons_self
    (TenantRepository.row (otherTenant name)) (List.mem_cons_of_mem _ List.mem_cons_self) rfl rfl
  exact absurd hsame (by
    show js "10000000-0000-4000-8000-000000000001" ≠ js "10000000-0000-4000-8000-000000000002"
    decide)

theorem neverShared_iff (hdb : Database env f) {name : TenantName}
    (hfits : fitsText name.value = true) :
    NeverShared env name.value ↔ env.ilike name.value name.value = true := by
  constructor
  · intro hnever
    by_contra hnot
    exact not_neverShared hfits (Bool.eq_false_of_not_eq_true hnot) hnever
  · intro hself tr s hrun hturn row hrow other hother hname hname'
    by_contra hne
    have hdistinct := distinct_of_inTurn hdb hrun hturn row hrow other hother hne
    have hfalse := hdistinct.name (hname.trans hname'.symm)
    rw [ilike_congr hdb hname hname, hself] at hfalse
    cases hfalse

/-- The database takes the name as a pattern: it has no U+0000, and does not end in an
    escape that escapes nothing. -/
def IsPattern (name : TenantName) : Prop :=
  fitsText name.value = true ∧ (Like.tokens sqlSpecials (characters name.value)).isSome = true

/-- Of requests one after another, from an empty table: no two businesses, deleted or
    not, have one slug or one NIT at once; and a name that is a pattern is the name of
    at most one business, up to case, exactly where it matches itself. Without wildcards
    that is where it has no backslash. -/
theorem business_name_shared_iff (hdb : Database env f) :
    (∀ tr s, Run (next (businesses env)) (State.quiet []) tr s → InTurn tr →
      Rows.Apart (·.id) (fun row other => row.slug ≠ other.slug ∧ row.nit ≠ other.nit) s.store) ∧
    ∀ name : TenantName, IsPattern name →
      (NeverShared env name.value ↔ env.ilike name.value name.value = true) ∧
      (37 ∉ name.value → 95 ∉ name.value → (NeverShared env name.value ↔ 92 ∉ name.value)) := by
  refine ⟨fun tr s hrun hturn row hrow other hother hne => ?_, fun name hname =>
    ⟨neverShared_iff hdb hname.1, fun hmany hone => ?_⟩⟩
  · have hdistinct := distinct_of_inTurn hdb hrun hturn row hrow other hother hne
    exact ⟨hdistinct.slug, hdistinct.nit⟩
  · rw [neverShared_iff hdb hname.1, hdb.ilike]
    exact likeLower_self_iff hdb.lower hmany hone

/-- Two businesses can be called "A\B", and only one "A_B". -/
theorem business_name_shared_iff_backslash :
    ¬ NeverShared sampleEnv (js "A\\B") ∧ NeverShared sampleEnv (js "A_B") := by
  obtain ⟨-, hnames⟩ := business_name_shared_iff database_sampleEnv
  constructor
  · have hname := (hnames ⟨js "A\\B", rfl, by decide, by decide⟩ ⟨rfl, rfl⟩).2 (by decide)
      (by decide)
    exact fun hnever => hname.mp hnever (by decide)
  · exact (hnames ⟨js "A_B", rfl, by decide, by decide⟩ ⟨rfl, rfl⟩).1.mpr (by decide +kernel)

end KomiSaas.Businesses.Constraints
