import Mathlib

/-!
# Deleting rows that others point at

Rows of any tables with foreign keys between them, and `DELETE` under the actions
that a key may have: `ON DELETE RESTRICT`, `CASCADE` and `SET NULL`.

* `Schema`: the keys that a row points at, by action.
* `Schema.delete`: one statement. It is refused where a row that stays points at
  one that goes with `RESTRICT` (`delete_eq`).
* `gone_iff`: the rows that go are those that a chain of cascades reaches.
* `deleteAll_eq`: a sequence of statements, as one deletion, where no row points with
  `RESTRICT` at one that an earlier statement removes.
* `integrity_without`: a deletion that is not refused leaves no dangling pointer.
-/

namespace KomiSaas.Lib.ForeignKeys

/-- The foreign keys of a database with rows of one type. `clear` sets to null the
    pointers at some keys, as far as their action is `SET NULL`. -/
structure Schema (ρ κ : Type*) where
  key : ρ → κ
  restricts : ρ → List κ
  cascades : ρ → List κ
  nulls : ρ → List κ
  clear : (κ → Bool) → ρ → ρ
  key_clear : ∀ q r, key (clear q r) = key r
  restricts_clear : ∀ q r, restricts (clear q r) = restricts r
  cascades_clear : ∀ q r, cascades (clear q r) = cascades r
  nulls_clear : ∀ q r, nulls (clear q r) = (nulls r).filter fun k => !q k
  clear_clear : ∀ q q' r, clear q' (clear q r) = clear (fun k => q k || q' k) r
  clear_none : ∀ q r, (∀ k ∈ nulls r, q k = false) → clear q r = r

/-! ## Fixed points of a monotone test on a list -/

section Iterate

variable {ρ : Type*} {rows : List ρ} {g : (ρ → Bool) → ρ → Bool} {q : ρ → Bool}

/-- A test that passes more rows when it is given a test that does. -/
def MonotoneOn (rows : List ρ) (g : (ρ → Bool) → ρ → Bool) : Prop :=
  ∀ q q' : ρ → Bool, (∀ r ∈ rows, q r = true → q' r = true) →
    ∀ r ∈ rows, g q r = true → g q' r = true

/-- The test after some rounds, from the one that passes nothing. -/
def rounds (g : (ρ → Bool) → ρ → Bool) (n : ℕ) : ρ → Bool := g^[n] fun _ => false

theorem rounds_succ (n : ℕ) : rounds g (n + 1) = g (rounds g n) :=
  Function.iterate_succ_apply' g n _

/-- A round keeps what the rounds before it passed. -/
theorem rounds_le_succ (hg : MonotoneOn rows g) (n : ℕ) :
    ∀ r ∈ rows, rounds g n r = true → rounds g (n + 1) r = true := by
  induction n with
  | zero =>
    intro r _ h
    cases h
  | succ n ih =>
    intro r hr h
    rw [rounds_succ] at h ⊢
    exact hg _ _ ih r hr h

theorem countP_lt {p : ρ → Bool} (hle : ∀ r ∈ rows, p r = true → q r = true) {r : ρ}
    (hr : r ∈ rows) (hp : p r = false) (hq : q r = true) : rows.countP p < rows.countP q := by
  induction rows with
  | nil => cases hr
  | cons a rows ih =>
    have hrest : rows.countP p ≤ rows.countP q :=
      List.countP_mono_left fun b hb => hle b (List.mem_cons_of_mem a hb)
    rw [List.countP_cons, List.countP_cons]
    rcases List.mem_cons.mp hr with rfl | hr
    · rw [hp, hq]
      simp only [Bool.false_eq_true, if_false, if_true]
      omega
    · have hlt := ih (fun b hb => hle b (List.mem_cons_of_mem a hb)) hr
      by_cases ha : p a = true
      · rw [if_pos ha, if_pos (hle a List.mem_cons_self ha)]
        omega
      · rw [if_neg ha]
        omega

/-- As many rounds as there are rows reach a fixed point: each one before it passes
    one more row. -/
theorem rounds_stable (hg : MonotoneOn rows g) :
    ∀ r ∈ rows, g (rounds g rows.length) r = true → rounds g rows.length r = true := by
  have hcount : ∀ n, (∀ r ∈ rows, g (rounds g n) r = true → rounds g n r = true) ∨
      n ≤ rows.countP (rounds g n) := by
    intro n
    induction n with
    | zero => exact .inr (Nat.zero_le _)
    | succ n ih =>
      by_cases hstable : ∀ r ∈ rows, g (rounds g n) r = true → rounds g n r = true
      · left
        rw [rounds_succ]
        exact hg _ _ hstable
      · push Not at hstable
        obtain ⟨r, hr, hnew, hold⟩ := hstable
        have hlt := countP_lt (rounds_le_succ hg n) hr ((Bool.not_eq_true _).mp hold)
          (rounds_succ n ▸ hnew)
        rcases ih with hstable | hle
        · exact absurd (hstable r hr hnew) hold
        · exact .inr (by omega)
  rcases hcount rows.length with hstable | hle
  · exact hstable
  · intro r hr _
    have hall := List.countP_eq_length.mp (le_antisymm List.countP_le_length hle)
    exact hall r hr

end Iterate

namespace Schema

variable {ρ κ : Type*} [DecidableEq κ] (S : Schema ρ κ) {p q : ρ → Bool} {rows : List ρ} {r : ρ}

/-! ## One statement -/

/-- The rows that a `DELETE` and its cascades take out. -/
inductive Gone (p : ρ → Bool) (rows : List ρ) : ρ → Prop
  | matched {r : ρ} : r ∈ rows → p r = true → Gone p rows r
  | cascaded {r r' : ρ} : r ∈ rows → S.key r' ∈ S.cascades r → Gone p rows r' → Gone p rows r

/-- The keys of the rows that pass a test. -/
def keys (rows : List ρ) (q : ρ → Bool) : List κ := (rows.filter q).map S.key

/-- One round of cascades. -/
def cascade (p : ρ → Bool) (rows : List ρ) (q : ρ → Bool) (r : ρ) : Bool :=
  p r || (S.cascades r).any (· ∈ S.keys rows q)

/-- The rows of `Gone`, by as many rounds as there are rows. -/
def gone (p : ρ → Bool) (rows : List ρ) : ρ → Bool := rounds (S.cascade p rows) rows.length

omit [DecidableEq κ] in
theorem mem_keys {k : κ} : k ∈ S.keys rows q ↔ ∃ r ∈ rows, q r = true ∧ S.key r = k := by
  simp only [keys, List.mem_map, List.mem_filter, and_assoc]

theorem any_mem_keys {ks : List κ} :
    ks.any (· ∈ S.keys rows q) = true ↔ ∃ r ∈ rows, q r = true ∧ S.key r ∈ ks := by
  simp only [List.any_eq_true, decide_eq_true_eq, mem_keys]
  constructor
  · rintro ⟨k, hk, r, hr, hq, rfl⟩
    exact ⟨r, hr, hq, hk⟩
  · rintro ⟨r, hr, hq, hk⟩
    exact ⟨_, hk, r, hr, hq, rfl⟩

theorem cascade_iff : S.cascade p rows q r = true ↔
    p r = true ∨ ∃ r' ∈ rows, q r' = true ∧ S.key r' ∈ S.cascades r := by
  rw [cascade, Bool.or_eq_true, any_mem_keys]

theorem monotone_cascade : MonotoneOn rows (S.cascade p rows) := by
  intro q q' hle r hr h
  rw [cascade_iff] at h ⊢
  exact h.imp_right fun ⟨r', hr', hq, hk⟩ => ⟨r', hr', hle r' hr' hq, hk⟩

theorem gone_iff (hr : r ∈ rows) : S.gone p rows r = true ↔ S.Gone p rows r := by
  have hmono : MonotoneOn rows (S.cascade p rows) := S.monotone_cascade
  have hstable := rounds_stable hmono
  constructor
  · have hsound : ∀ n, ∀ r ∈ rows, rounds (S.cascade p rows) n r = true → S.Gone p rows r := by
      intro n
      induction n with
      | zero =>
        intro r _ h
        cases h
      | succ n ih =>
        intro r hr h
        rw [rounds_succ, cascade_iff] at h
        rcases h with h | ⟨r', hr', hq, hk⟩
        · exact .matched hr h
        · exact .cascaded hr hk (ih r' hr' hq)
    exact hsound _ r hr
  · intro h
    induction h with
    | matched hr hp =>
      exact hstable _ hr (S.cascade_iff.mpr (.inl hp))
    | @cascaded r r' hr hk hgone ih =>
      have hr' : r' ∈ rows := by
        cases hgone with
        | matched hr' _ => exact hr'
        | cascaded hr' _ _ => exact hr'
      exact hstable r hr (S.cascade_iff.mpr (.inr ⟨r', hr', ih hr', hk⟩))

/-- Where nothing cascades to a row that cascades itself, one round is enough. -/
theorem gone_eq_cascade (hflat : ∀ r ∈ rows, ∀ r' ∈ rows, S.key r' ∈ S.cascades r →
      S.cascades r' = []) (hr : r ∈ rows) : S.gone p rows r = S.cascade p rows p r := by
  rw [Bool.eq_iff_iff, S.gone_iff hr, cascade_iff]
  constructor
  · intro h
    cases h with
    | matched _ hp => exact .inl hp
    | @cascaded _ r' _ hk hgone =>
      cases hgone with
      | matched hr' hp => exact .inr ⟨r', hr', hp, hk⟩
      | cascaded hr' hk' _ =>
        rw [hflat r hr r' hr' hk] at hk'
        cases hk'
  · rintro (hp | ⟨r', hr', hp, hk⟩)
    · exact .matched hr hp
    · exact .cascaded hr hk (.matched hr' hp)

/-- `DELETE` of the rows that pass a test: those that stay lose their pointers at
    the ones that go, as far as these may be null. -/
def without (q : ρ → Bool) (rows : List ρ) : List ρ :=
  (rows.filter fun r => !q r).map (S.clear fun k => k ∈ S.keys rows q)

/-- A row that stays points with `RESTRICT` at one that goes. -/
def refuses (q : ρ → Bool) (rows : List ρ) : Bool :=
  rows.any fun r => !q r && (S.restricts r).any (· ∈ S.keys rows q)

/-- `DELETE FROM … WHERE p`. -/
def delete (p : ρ → Bool) (rows : List ρ) : Option (List ρ) :=
  if S.refuses (S.gone p rows) rows then none else some (S.without (S.gone p rows) rows)

omit [DecidableEq κ] in
theorem keys_congr (h : ∀ r ∈ rows, p r = q r) : S.keys rows p = S.keys rows q := by
  rw [keys, keys, List.filter_congr h]

theorem refuses_iff : S.refuses q rows = true ↔ ∃ r ∈ rows, q r = false ∧
    ∃ r' ∈ rows, q r' = true ∧ S.key r' ∈ S.restricts r := by
  rw [refuses, List.any_eq_true]
  refine exists_congr fun r => and_congr_right fun _ => ?_
  rw [Bool.and_eq_true, Bool.not_eq_true', any_mem_keys]

theorem delete_eq (h : ∀ r ∈ rows, S.gone p rows r = q r) :
    S.delete p rows = if S.refuses q rows then none else some (S.without q rows) := by
  have hkeys : S.keys rows (S.gone p rows) = S.keys rows q := S.keys_congr h
  have hrefuses : S.refuses (S.gone p rows) rows = S.refuses q rows := by
    rw [refuses, refuses, hkeys, Bool.eq_iff_iff, List.any_eq_true, List.any_eq_true]
    refine exists_congr fun r => and_congr_right fun hr => ?_
    rw [h r hr]
  have hwithout : S.without (S.gone p rows) rows = S.without q rows := by
    rw [without, without, hkeys, List.filter_congr fun r hr => congrArg (!·) (h r hr)]
  rw [delete, hrefuses, hwithout]

/-! ## Several statements -/

/-- A test that does not look at pointers which may be null. -/
def Unaffected (q : ρ → Bool) : Prop := ∀ q' r, q (S.clear q' r) = q r

variable {S}

theorem keys_without (hq : S.Unaffected q) :
    S.keys (S.without p rows) q = S.keys rows fun r => !p r && q r := by
  have hcomp : (q ∘ S.clear fun k => decide (k ∈ S.keys rows p)) = q := funext fun r => hq _ r
  rw [keys, without, List.filter_map, hcomp, List.filter_filter, List.map_map, keys]
  refine congrArg₂ List.map (funext fun r => S.key_clear _ r) (List.filter_congr fun r _ => ?_)
  rw [Bool.and_comm]

/-- One deletion after another removes what either does. -/
theorem without_without (hq : S.Unaffected q) :
    S.without q (S.without p rows) = S.without (fun r => p r || q r) rows := by
  have hcomp : ((fun r => !q r) ∘ S.clear fun k => decide (k ∈ S.keys rows p)) = fun r => !q r :=
    funext fun r => congrArg (!·) (hq _ r)
  have hkeys : ∀ k, (decide (k ∈ S.keys rows p) || decide (k ∈ S.keys (S.without p rows) q)) =
      decide (k ∈ S.keys rows fun r => p r || q r) := by
    intro k
    rw [keys_without hq, ← Bool.decide_or, decide_eq_decide]
    simp only [mem_keys, Bool.and_eq_true, Bool.not_eq_true', Bool.or_eq_true]
    constructor
    · rintro (⟨r, hr, hp, rfl⟩ | ⟨r, hr, ⟨-, hq⟩, rfl⟩)
      · exact ⟨r, hr, .inl hp, rfl⟩
      · exact ⟨r, hr, .inr hq, rfl⟩
    · rintro ⟨r, hr, h, rfl⟩
      by_cases hp : p r = true
      · exact .inl ⟨r, hr, hp, rfl⟩
      · exact .inr ⟨r, hr, ⟨(Bool.not_eq_true _).mp hp, h.resolve_left hp⟩, rfl⟩
  have hclear : ∀ r, S.clear (fun k => decide (k ∈ S.keys (S.without p rows) q))
      (S.clear (fun k => decide (k ∈ S.keys rows p)) r) =
        S.clear (fun k => decide (k ∈ S.keys rows fun r => p r || q r)) r := by
    intro r
    rw [S.clear_clear]
    exact congrArg (S.clear · r) (funext hkeys)
  rw [without, without, List.filter_map, hcomp, List.filter_filter, List.map_map, without]
  refine congrArg₂ List.map (funext hclear) (List.filter_congr fun r _ => ?_)
  rw [Bool.not_or, Bool.and_comm]

/-- Nothing is removed. -/
theorem without_none : S.without (fun _ => false) rows = rows := by
  have hkeys : S.keys rows (fun _ => false) = [] := by simp [keys]
  have hall : rows.filter (fun _ => !false) = rows := List.filter_eq_self.mpr fun _ _ => rfl
  rw [without, hkeys, hall]
  refine (List.map_congr_left fun r _ => ?_).trans (List.map_id rows)
  exact S.clear_none _ r fun k _ => decide_eq_false List.not_mem_nil

/-- A statement, with a subselect of the tables, and the rows that it is to remove. -/
structure Stage (ρ : Type*) where
  statement : List ρ → ρ → Bool
  removes : ρ → Bool

variable (S)

/-- The statements one after another. -/
def deleteAll : List (List ρ → ρ → Bool) → List ρ → Option (List ρ)
  | [], rows => some rows
  | p :: statements, rows => (S.delete (p rows) rows).bind (deleteAll statements)

/-- After `done`, each statement removes what it is to remove, and no row that a later
    one removes points with `RESTRICT` at it. -/
def Ordered (rows : List ρ) : (ρ → Bool) → List (Stage ρ) → Prop
  | _, [] => True
  | done, stage :: stages =>
    S.Unaffected stage.removes ∧
    (∀ r ∈ S.without done rows, S.gone (stage.statement (S.without done rows))
      (S.without done rows) r = stage.removes r) ∧
    (∀ r ∈ rows, (∃ later ∈ stages, later.removes r = true) → ∀ r' ∈ rows,
      stage.removes r' = true → S.key r' ∉ S.restricts r) ∧
    Ordered rows (fun r => done r || stage.removes r) stages

/-- A row that is in none of the stages points with `RESTRICT` at one that is, of those
    that are not `done`. -/
def Blocked (rows : List ρ) (done : ρ → Bool) (stages : List (Stage ρ)) : Prop :=
  ∃ r ∈ rows, done r = false ∧ (∀ stage ∈ stages, stage.removes r = false) ∧
    ∃ r' ∈ rows, done r' = false ∧ (∃ stage ∈ stages, stage.removes r' = true) ∧
      S.key r' ∈ S.restricts r

variable {S}

theorem refuses_without {done : ρ → Bool} (hq : S.Unaffected q) :
    S.refuses q (S.without done rows) = true ↔
      ∃ r ∈ rows, done r = false ∧ q r = false ∧
        ∃ r' ∈ rows, done r' = false ∧ q r' = true ∧ S.key r' ∈ S.restricts r := by
  rw [refuses, keys_without hq, without, List.any_map, List.any_eq_true]
  refine exists_congr fun r => ?_
  rw [List.mem_filter, Function.comp_apply, hq, S.restricts_clear, Bool.and_eq_true,
    Bool.not_eq_true', Bool.not_eq_true', any_mem_keys, and_assoc]
  simp only [Bool.and_eq_true, Bool.not_eq_true', and_assoc]

/-- The first statement is refused, or a later one. -/
theorem blocked_cons {done : ρ → Bool} {stage : Stage ρ} {stages : List (Stage ρ)}
    (hstage : S.Unaffected stage.removes)
    (horder : ∀ r ∈ rows, (∃ later ∈ stages, later.removes r = true) → ∀ r' ∈ rows,
      stage.removes r' = true → S.key r' ∉ S.restricts r) :
    S.Blocked rows done (stage :: stages) ↔
      S.refuses stage.removes (S.without done rows) = true ∨
        S.Blocked rows (fun r => done r || stage.removes r) stages := by
  rw [refuses_without hstage, Blocked, Blocked]
  simp only [List.forall_mem_cons, Bool.or_eq_false_iff]
  constructor
  · rintro ⟨r, hr, hdone, ⟨hstays, hlater⟩, r', hr', hdone', ⟨s, hs, hremoves⟩, hkey⟩
    by_cases hfirst : stage.removes r' = true
    · exact .inl ⟨r, hr, hdone, hstays, r', hr', hdone', hfirst, hkey⟩
    · rcases List.mem_cons.mp hs with rfl | hs
      · exact absurd hremoves hfirst
      · exact .inr ⟨r, hr, ⟨hdone, hstays⟩, hlater, r', hr',
          ⟨hdone', (Bool.not_eq_true _).mp hfirst⟩, ⟨s, hs, hremoves⟩, hkey⟩
  · rintro (⟨r, hr, hdone, hstays, r', hr', hdone', hremoves, hkey⟩ |
      ⟨r, hr, ⟨hdone, hstays⟩, hlater, r', hr', ⟨hdone', -⟩, ⟨s, hs, hremoves⟩, hkey⟩)
    · refine ⟨r, hr, hdone, ⟨hstays, fun s hs => ?_⟩, r', hr', hdone',
        ⟨stage, List.mem_cons_self, hremoves⟩, hkey⟩
      by_contra h
      exact horder r hr ⟨s, hs, (Bool.not_eq_false _).mp h⟩ r' hr' hremoves hkey
    · exact ⟨r, hr, hdone, ⟨hstays, hlater⟩, r', hr', hdone',
        ⟨s, List.mem_cons_of_mem stage hs, hremoves⟩, hkey⟩

theorem deleteAll_without {done : ρ → Bool} {stages : List (Stage ρ)}
    (h : S.Ordered rows done stages) :
    (S.Blocked rows done stages →
      S.deleteAll (stages.map Stage.statement) (S.without done rows) = none) ∧
    (¬ S.Blocked rows done stages →
      S.deleteAll (stages.map Stage.statement) (S.without done rows) =
        some (S.without (fun r => done r || stages.any (·.removes r)) rows)) := by
  induction stages generalizing done with
  | nil =>
    refine ⟨fun ⟨_, _, _, _, _, _, _, ⟨_, hs, _⟩, _⟩ => absurd hs List.not_mem_nil, fun _ => ?_⟩
    have hdone : (fun r => done r || ([] : List (Stage ρ)).any (·.removes r)) = done :=
      funext fun r => Bool.or_false _
    rw [hdone]
    rfl
  | cons stage stages ih =>
    obtain ⟨hstage, hgone, horder, hrest⟩ := h
    obtain ⟨ihblocked, ihfree⟩ := ih hrest
    have hdone : (fun r => done r || (stage :: stages).any (·.removes r)) =
        fun r => (done r || stage.removes r) || stages.any (·.removes r) :=
      funext fun r => by rw [List.any_cons, Bool.or_assoc]
    rw [List.map_cons, deleteAll, S.delete_eq hgone, without_without hstage, hdone,
      blocked_cons hstage horder]
    by_cases hrefuses : S.refuses stage.removes (S.without done rows) = true
    · rw [if_pos hrefuses]
      exact ⟨fun _ => rfl, fun hfree => absurd (.inl hrefuses) hfree⟩
    · rw [if_neg hrefuses]
      exact ⟨fun hblocked => ihblocked (hblocked.resolve_left hrefuses),
        fun hfree => ihfree fun h => hfree (.inr h)⟩

/-- The statements succeed exactly where no row that is to stay points with `RESTRICT`
    at one that is to go, and remove the rows of all stages at once. -/
theorem deleteAll_eq {stages : List (Stage ρ)} (h : S.Ordered rows (fun _ => false) stages) :
    S.deleteAll (stages.map Stage.statement) rows =
      if S.refuses (fun r => stages.any (·.removes r)) rows then none
      else some (S.without (fun r => stages.any (·.removes r)) rows) := by
  obtain ⟨hblocked, hfree⟩ := deleteAll_without h
  simp only [without_none, Bool.false_or] at hblocked hfree
  have hiff : S.refuses (fun r => stages.any (·.removes r)) rows = true ↔
      S.Blocked rows (fun _ => false) stages := by
    rw [refuses_iff, Blocked]
    simp only [List.any_eq_false, List.any_eq_true, Bool.not_eq_true, true_and]
  by_cases h : S.refuses (fun r => stages.any (·.removes r)) rows = true
  · rw [if_pos h, hblocked (hiff.mp h)]
  · rw [if_neg h, hfree fun hb => h (hiff.mpr hb)]

/-! ## Integrity -/

variable (S)

/-- Every pointer leads to a stored row. -/
def Integrity (rows : List ρ) : Prop :=
  ∀ r ∈ rows, ∀ k ∈ S.restricts r ++ S.cascades r ++ S.nulls r, k ∈ rows.map S.key

variable {S}

/-- A deletion that follows the cascades and that no row refuses leaves no dangling
    pointer. -/
theorem integrity_without (h : S.Integrity rows) (hrefuses : S.refuses q rows = false)
    (hcascades : ∀ r ∈ rows, ∀ k ∈ S.cascades r, k ∈ S.keys rows q → q r = true) :
    S.Integrity (S.without q rows) := by
  intro r' hr' k hk
  obtain ⟨r, hr, rfl⟩ := List.mem_map.mp hr'
  obtain ⟨hr, hstays⟩ := List.mem_filter.mp hr
  rw [Bool.not_eq_true'] at hstays
  have hkept : k ∉ S.keys rows q ∧ k ∈ S.restricts r ++ S.cascades r ++ S.nulls r := by
    rw [S.restricts_clear, S.cascades_clear, S.nulls_clear, List.mem_append, List.mem_append,
      List.mem_filter, Bool.not_eq_true', decide_eq_false_iff_not] at hk
    rw [List.mem_append, List.mem_append]
    rcases hk with (hk | hk) | ⟨hk, hnot⟩
    · refine ⟨fun hmem => ?_, .inl (.inl hk)⟩
      obtain ⟨r', hr', hgoes, rfl⟩ := S.mem_keys.mp hmem
      exact Bool.eq_false_iff.mp hrefuses (S.refuses_iff.mpr ⟨r, hr, hstays, r', hr', hgoes, hk⟩)
    · refine ⟨fun hmem => ?_, .inl (.inr hk)⟩
      rw [hcascades r hr k hk hmem] at hstays
      cases hstays
    · exact ⟨hnot, .inr hk⟩
  obtain ⟨target, htarget, rfl⟩ := List.mem_map.mp (h r hr k hkept.2)
  have hgoes : q target = false := by
    by_contra hq
    exact hkept.1 (S.mem_keys.mpr ⟨target, htarget, (Bool.not_eq_false _).mp hq, rfl⟩)
  refine List.mem_map.mpr ⟨_, List.mem_map.mpr ⟨target, List.mem_filter.mpr ⟨htarget, ?_⟩, rfl⟩,
    S.key_clear _ target⟩
  rw [hgoes, Bool.not_false]

end Schema

end KomiSaas.Lib.ForeignKeys
