import Mathlib

/-!
# Tables of rows with a key

A database table is the list of its rows; `key` gives a row's primary key.

* `find key k`: the row with key `k`.
* `updateWhere p f`: `UPDATE … SET f WHERE p`.
* `upsert`, `upsertAll`: an ORM `save`, which overwrites the row with the same
  key or inserts it.
* `remove`: drop the row with a key.

`find` is the meaning of a table whose keys are distinct (`mem_iff_find`), and
each operation has one lemma that says what it does to `find`. Writing one row
keeps a relation between all rows where it keeps it for that row
(`apart_iff_of_mem`). `firstRepeated` is the check of a list of keys before they
are written, and `assign` writes one entry of a map: over a list with no key
twice, in any order (`foldl_assign_perm`).
-/

namespace KomiSaas.Lib.Rows

variable {ρ κ : Type*} [DecidableEq κ] (key : ρ → κ)

/-- The row with key `k`. -/
def find (k : κ) (rows : List ρ) : Option ρ := rows.find? fun r => key r = k

/-- `UPDATE … SET f WHERE p`. -/
def updateWhere (p : ρ → Bool) (f : ρ → ρ) (rows : List ρ) : List ρ :=
  rows.map fun r => if p r then f r else r

/-- Overwrite the row with the key of `row`, or insert `row`. -/
def upsert (row : ρ) : List ρ → List ρ
  | [] => [row]
  | r :: rs => if key r = key row then row :: rs else r :: upsert row rs

/-- Drop the first row with key `k`. -/
def remove (k : κ) (rows : List ρ) : List ρ := rows.eraseP fun r => key r = k

/-- `upsert` of several rows, in order. -/
def upsertAll (news rows : List ρ) : List ρ := news.foldl (fun rs r => upsert key r rs) rows

variable {key} {k : κ} {r row : ρ} {rows news : List ρ} {p : ρ → Bool} {f : ρ → ρ}

@[simp] theorem find_nil : find key k [] = none := rfl

theorem find_cons : find key k (r :: rows) = if key r = k then some r else find key k rows := by
  by_cases h : key r = k <;> simp [find, h]

theorem find_append {rows' : List ρ} :
    find key k (rows ++ rows') = (find key k rows).or (find key k rows') := by
  simp [find]

theorem mem_of_find (h : find key k rows = some r) : r ∈ rows ∧ key r = k :=
  ⟨List.mem_of_find?_eq_some h, by simpa using List.find?_some h⟩

theorem find_eq_none_iff : find key k rows = none ↔ k ∉ rows.map key := by
  simp [find]

theorem mem_keys_of_find (h : find key k rows = some r) : k ∈ rows.map key :=
  List.mem_map.mpr ⟨r, mem_of_find h⟩

theorem exists_find_of_mem_keys (h : k ∈ rows.map key) : ∃ r, find key k rows = some r := by
  rw [← Option.isSome_iff_exists, Option.isSome_iff_ne_none]
  exact fun hnone => find_eq_none_iff.mp hnone h

/-- In a table with distinct keys, `find` finds every row. -/
theorem find_of_mem (hkeys : (rows.map key).Nodup) (h : r ∈ rows) :
    find key (key r) rows = some r := by
  induction rows with
  | nil => simp at h
  | cons a rs ih =>
    rw [List.map_cons, List.nodup_cons] at hkeys
    rw [find_cons]
    rcases List.mem_cons.mp h with rfl | h
    · simp
    · have hne : key a ≠ key r := fun e => hkeys.1 (e ▸ List.mem_map_of_mem h)
      rw [if_neg hne, ih hkeys.2 h]

theorem mem_iff_find (hkeys : (rows.map key).Nodup) :
    r ∈ rows ↔ find key (key r) rows = some r :=
  ⟨find_of_mem hkeys, fun h => (mem_of_find h).1⟩

theorem find_eq_some_iff (hkeys : (rows.map key).Nodup) :
    find key k rows = some r ↔ r ∈ rows ∧ key r = k := by
  refine ⟨mem_of_find, fun h => ?_⟩
  rw [← h.2]
  exact find_of_mem hkeys h.1

/-! ## `updateWhere` -/

theorem map_updateWhere {β : Type*} {g : ρ → β} (hf : ∀ r ∈ rows, p r → g (f r) = g r) :
    (updateWhere p f rows).map g = rows.map g := by
  rw [updateWhere, List.map_map]
  refine List.map_congr_left fun r hr => ?_
  by_cases h : p r
  · simp [h, hf r hr h]
  · simp [h]

theorem find_updateWhere (hf : ∀ r, p r → key (f r) = key r) :
    find key k (updateWhere p f rows) =
      (find key k rows).map fun r => if p r then f r else r := by
  induction rows with
  | nil => rfl
  | cons a rs ih =>
    have hkey : key (if p a then f a else a) = key a := by
      by_cases h : p a
      · rw [if_pos h, hf a h]
      · rw [if_neg h]
    rw [updateWhere, List.map_cons, find_cons, find_cons, hkey]
    by_cases h : key a = k
    · simp [h]
    · rw [if_neg h, if_neg h]; exact ih

theorem updateWhere_eq_self (h : ∀ r ∈ rows, p r = false) : updateWhere p f rows = rows := by
  rw [updateWhere]
  conv_rhs => rw [← List.map_id rows]
  exact List.map_congr_left fun r hr => by simp [h r hr]

theorem mem_updateWhere (h : r ∈ updateWhere p f rows) :
    (r ∈ rows ∧ p r = false) ∨ ∃ a ∈ rows, p a = true ∧ r = f a := by
  obtain ⟨a, ha, rfl⟩ := List.mem_map.mp h
  by_cases hp : p a
  · exact .inr ⟨a, ha, hp, by simp [hp]⟩
  · rw [if_neg hp]; exact .inl ⟨ha, by simpa using hp⟩

theorem mem_updateWhere_of_pos (h : r ∈ rows) (hp : p r = true) : f r ∈ updateWhere p f rows :=
  List.mem_map.mpr ⟨r, h, if_pos hp⟩

theorem mem_updateWhere_of_neg (h : r ∈ rows) (hp : p r = false) : r ∈ updateWhere p f rows :=
  List.mem_map.mpr ⟨r, h, if_neg (by rw [hp]; exact Bool.false_ne_true)⟩

/-- Where keys are distinct, writing the row of one key leaves the others. -/
theorem mem_updateWhere_key_iff {old : ρ} (hkeys : (rows.map key).Nodup) (hold : old ∈ rows) :
    r ∈ updateWhere (fun r => key r = key old) f rows ↔
      r = f old ∨ (r ∈ rows ∧ key r ≠ key old) := by
  constructor
  · intro h
    rcases mem_updateWhere h with ⟨hr, hne⟩ | ⟨a, ha, hkey, rfl⟩
    · exact .inr ⟨hr, of_decide_eq_false hne⟩
    · have hfind : find key (key a) rows = some old := by
        rw [of_decide_eq_true hkey]
        exact find_of_mem hkeys hold
      obtain rfl := Option.some.inj ((find_of_mem hkeys ha).symm.trans hfind)
      exact .inl rfl
  · rintro (rfl | ⟨hr, hne⟩)
    · exact mem_updateWhere_of_pos hold (decide_eq_true rfl)
    · exact mem_updateWhere_of_neg hr (decide_eq_false hne)

/-! ## `upsert` -/

theorem find_upsert :
    find key k (upsert key row rows) = if key row = k then some row else find key k rows := by
  induction rows with
  | nil => simp [upsert, find_cons]
  | cons a rs ih =>
    by_cases h : key a = key row
    · rw [upsert, if_pos h, find_cons, find_cons, h]; split_ifs <;> rfl
    · rw [upsert, if_neg h, find_cons, find_cons, ih]
      by_cases ha : key a = k
      · have : key row ≠ k := fun e => h (ha.trans e.symm)
        simp [ha, this]
      · simp [ha]

theorem mem_keys_upsert : k ∈ (upsert key row rows).map key ↔ k = key row ∨ k ∈ rows.map key := by
  have h : find key k (upsert key row rows) = if key row = k then some row else find key k rows :=
    find_upsert
  rw [← not_iff_not, ← find_eq_none_iff, h]
  by_cases hk : key row = k
  · simp [hk]
  · rw [if_neg hk, find_eq_none_iff, not_or]
    exact ⟨fun h => ⟨fun e => hk e.symm, h⟩, fun h => h.2⟩

theorem nodup_keys_upsert (h : (rows.map key).Nodup) : ((upsert key row rows).map key).Nodup := by
  induction rows with
  | nil => simp [upsert]
  | cons a rs ih =>
    rw [List.map_cons, List.nodup_cons] at h
    by_cases ha : key a = key row
    · rw [upsert, if_pos ha, List.map_cons, List.nodup_cons]
      exact ⟨ha ▸ h.1, h.2⟩
    · rw [upsert, if_neg ha, List.map_cons, List.nodup_cons]
      refine ⟨fun hmem => ?_, ih h.2⟩
      rcases mem_keys_upsert.mp hmem with e | hmem
      · exact ha e
      · exact h.1 hmem

theorem mem_upsert (h : r ∈ upsert key row rows) : r = row ∨ r ∈ rows := by
  induction rows with
  | nil => exact .inl (List.mem_singleton.mp h)
  | cons a rs ih =>
    by_cases ha : key a = key row
    · rw [upsert, if_pos ha] at h
      rcases List.mem_cons.mp h with rfl | h
      · exact .inl rfl
      · exact .inr (List.mem_cons_of_mem _ h)
    · rw [upsert, if_neg ha] at h
      rcases List.mem_cons.mp h with rfl | h
      · exact .inr List.mem_cons_self
      · exact (ih h).imp id (List.mem_cons_of_mem _)

/-- A row with a new key is inserted. -/
theorem upsert_of_notMem (h : key row ∉ rows.map key) : upsert key row rows = rows ++ [row] := by
  induction rows with
  | nil => rfl
  | cons r rows ih =>
    rw [List.map_cons, List.mem_cons, not_or] at h
    rw [upsert, if_neg (Ne.symm h.1), ih h.2, List.cons_append]

/-- Where keys are distinct, the rows after `upsert` are the new one and those
    with another key. -/
theorem mem_upsert_iff (hkeys : (rows.map key).Nodup) :
    r ∈ upsert key row rows ↔ r = row ∨ (r ∈ rows ∧ key r ≠ key row) := by
  rw [mem_iff_find (nodup_keys_upsert hkeys), find_upsert]
  by_cases hkey : key row = key r
  · rw [if_pos hkey, Option.some.injEq]
    constructor
    · intro h
      exact .inl h.symm
    · rintro (rfl | ⟨-, hne⟩)
      · rfl
      · exact absurd hkey.symm hne
  · rw [if_neg hkey, ← mem_iff_find hkeys]
    constructor
    · intro h
      exact .inr ⟨h, fun e => hkey e.symm⟩
    · rintro (rfl | ⟨h, -⟩)
      · exact absurd rfl hkey
      · exact h

/-- Writing a row leaves a column of the table alone where the row it overwrites
    has the same value there. -/
theorem map_upsert {β : Type*} {g : ρ → β} {old : ρ} (hkeys : (rows.map key).Nodup)
    (hold : old ∈ rows) (hkey : key old = key row) (hg : g row = g old) :
    (upsert key row rows).map g = rows.map g := by
  induction rows with
  | nil => exact absurd hold List.not_mem_nil
  | cons a rs ih =>
    rw [List.map_cons, List.nodup_cons] at hkeys
    by_cases ha : key a = key row
    · have hhead : old = a := by
        rcases List.mem_cons.mp hold with h | h
        · exact h
        · exact absurd (List.mem_map.mpr ⟨old, h, hkey.trans ha.symm⟩) hkeys.1
      rw [upsert, if_pos ha, List.map_cons, List.map_cons, hg, hhead]
    · have htail : old ∈ rs := by
        rcases List.mem_cons.mp hold with rfl | h
        · exact absurd hkey ha
        · exact h
      rw [upsert, if_neg ha, List.map_cons, List.map_cons, ih hkeys.2 htail]

/-- Rows that are kept stay as they are where neither the row nor the one it
    overwrites is kept. -/
theorem filter_upsert_of_neg (hrow : p row = false)
    (hkey : ∀ r ∈ rows, key r = key row → p r = false) :
    (upsert key row rows).filter p = rows.filter p := by
  induction rows with
  | nil => simp [upsert, hrow]
  | cons a rs ih =>
    by_cases ha : key a = key row
    · have hold : p a = false := hkey a List.mem_cons_self ha
      rw [upsert, if_pos ha]
      simp [hrow, hold]
    · have hrest := ih fun r hr => hkey r (List.mem_cons_of_mem _ hr)
      rw [upsert, if_neg ha, List.filter_cons, List.filter_cons, hrest]

/-! ## `remove` -/

theorem find_remove {k' : κ} (hkeys : (rows.map key).Nodup) :
    find key k' (remove key k rows) = if k' = k then none else find key k' rows := by
  induction rows with
  | nil => simp [remove]
  | cons a rs ih =>
    rw [List.map_cons, List.nodup_cons] at hkeys
    by_cases ha : key a = k
    · rw [remove, List.eraseP_cons_of_pos (by simpa using ha), find_cons]
      by_cases hk : k' = k
      · rw [if_pos hk, find_eq_none_iff, hk, ← ha]
        exact hkeys.1
      · rw [if_neg hk, if_neg (by rw [ha]; exact fun e => hk e.symm)]
    · rw [remove, List.eraseP_cons_of_neg (by simpa using ha), find_cons, ← remove, ih hkeys.2,
        find_cons]
      by_cases hk : k' = k
      · rw [if_pos hk, if_pos hk, if_neg (by rw [hk]; exact ha)]
      · rw [if_neg hk, if_neg hk]

theorem nodup_keys_remove (h : (rows.map key).Nodup) : ((remove key k rows).map key).Nodup :=
  h.sublist (List.eraseP_sublist.map key)

/-! ## `upsertAll` -/

theorem find_upsertAll (hnews : (news.map key).Nodup) :
    find key k (upsertAll key news rows) = (find key k news).or (find key k rows) := by
  induction news generalizing rows with
  | nil => rfl
  | cons a ns ih =>
    rw [List.map_cons, List.nodup_cons] at hnews
    rw [upsertAll, List.foldl_cons, ← upsertAll, ih hnews.2, find_upsert, find_cons]
    by_cases ha : key a = k
    · have : find key k ns = none := find_eq_none_iff.mpr (ha ▸ hnews.1)
      simp [ha, this]
    · simp [ha]

theorem mem_keys_upsertAll :
    k ∈ (upsertAll key news rows).map key ↔ k ∈ news.map key ∨ k ∈ rows.map key := by
  induction news generalizing rows with
  | nil => simp [upsertAll]
  | cons a ns ih =>
    rw [upsertAll, List.foldl_cons, ← upsertAll, ih, mem_keys_upsert, List.map_cons, List.mem_cons]
    tauto

theorem nodup_keys_upsertAll (h : (rows.map key).Nodup) :
    ((upsertAll key news rows).map key).Nodup := by
  induction news generalizing rows with
  | nil => exact h
  | cons a ns ih => exact ih (nodup_keys_upsert h)

theorem mem_upsertAll (h : r ∈ upsertAll key news rows) : r ∈ news ∨ r ∈ rows := by
  induction news generalizing rows with
  | nil => exact .inr h
  | cons a ns ih =>
    rcases ih h with hnews | hrows
    · exact .inl (List.mem_cons_of_mem _ hnews)
    · rcases mem_upsert hrows with rfl | hrows
      · exact .inl List.mem_cons_self
      · exact .inr hrows

/-- Rows with new keys are added at the end, in their order. -/
theorem upsertAll_of_fresh (hnews : (news.map key).Nodup)
    (hfresh : ∀ k ∈ news.map key, k ∉ rows.map key) : upsertAll key news rows = rows ++ news := by
  induction news generalizing rows with
  | nil => exact (List.append_nil rows).symm
  | cons a ns ih =>
    rw [List.map_cons, List.nodup_cons] at hnews
    rw [List.map_cons, List.forall_mem_cons] at hfresh
    rw [upsertAll, List.foldl_cons, ← upsertAll, upsert_of_notMem hfresh.1, ih hnews.2,
      List.append_assoc, List.singleton_append]
    intro k hk hmem
    rw [List.map_append, List.mem_append] at hmem
    rcases hmem with hmem | hmem
    · exact hfresh.2 k hk hmem
    · rw [List.map_singleton, List.mem_singleton] at hmem
      exact hnews.1 (hmem ▸ hk)

theorem filter_upsertAll_of_neg (hnews : ∀ a ∈ news, p a = false)
    (hkeys : ∀ a ∈ news, ∀ r ∈ rows, key r = key a → p r = false) :
    (upsertAll key news rows).filter p = rows.filter p := by
  induction news generalizing rows with
  | nil => rfl
  | cons a ns ih =>
    have hrest : (upsertAll key ns (upsert key a rows)).filter p =
        (upsert key a rows).filter p := by
      refine ih (fun b hb => hnews b (List.mem_cons_of_mem _ hb)) fun b hb r hr hkey => ?_
      rcases mem_upsert hr with rfl | hr
      · exact hnews r List.mem_cons_self
      · exact hkeys b (List.mem_cons_of_mem _ hb) r hr hkey
    rw [upsertAll, List.foldl_cons, ← upsertAll, hrest]
    exact filter_upsert_of_neg (hnews a List.mem_cons_self) (hkeys a List.mem_cons_self)

/-- Where keys are distinct, the rows after `upsertAll` are the new ones and
    those whose key no new one has. -/
theorem mem_upsertAll_iff (hnews : (news.map key).Nodup) (hrows : (rows.map key).Nodup) :
    r ∈ upsertAll key news rows ↔ r ∈ news ∨ (r ∈ rows ∧ key r ∉ news.map key) := by
  rw [mem_iff_find (nodup_keys_upsertAll hrows), find_upsertAll hnews]
  by_cases hkey : key r ∈ news.map key
  · obtain ⟨a, ha, he⟩ := List.mem_map.mp hkey
    have hfind : find key (key r) news = some a := he ▸ find_of_mem hnews ha
    rw [mem_iff_find hnews, hfind, Option.some_or]
    tauto
  · have hfind : find key (key r) news = none := find_eq_none_iff.mpr hkey
    have hnot : r ∉ news := fun h => hkey (List.mem_map_of_mem h)
    rw [hfind, Option.none_or, ← mem_iff_find hrows]
    tauto

/-- Rows with different keys stand in `R`, such as having different names. -/
def Apart (key : ρ → κ) (R : ρ → ρ → Prop) (rows : List ρ) : Prop :=
  ∀ r ∈ rows, ∀ other ∈ rows, key r ≠ key other → R r other

omit [DecidableEq κ] in
/-- Writing a row keeps all rows apart exactly where it is apart from the others. -/
theorem apart_iff_of_mem {R : ρ → ρ → Prop} {rows' : List ρ} (hsymm : ∀ a b, R a b → R b a)
    (hmem : ∀ r, r ∈ rows' ↔ r = row ∨ (r ∈ rows ∧ key r ≠ key row)) (h : Apart key R rows) :
    Apart key R rows' ↔ ∀ other ∈ rows, key other ≠ key row → R other row := by
  constructor
  · intro hafter other hother hne
    exact hafter other ((hmem other).mpr (.inr ⟨hother, hne⟩)) row ((hmem row).mpr (.inl rfl)) hne
  · intro hrow r hr other hother hne
    rcases (hmem r).mp hr with rfl | ⟨hr, hne₁⟩
    · rcases (hmem other).mp hother with rfl | ⟨hother, hne₂⟩
      · exact absurd rfl hne
      · exact hsymm _ _ (hrow other hother hne₂)
    · rcases (hmem other).mp hother with rfl | ⟨hother, -⟩
      · exact hrow r hr hne₁
      · exact h r hr other hother hne

/-! ## Repeated keys -/

/-- The first key that was seen before: a loop with a set of those it has seen. -/
def firstRepeated (seen : List κ) : List κ → Option κ
  | [] => none
  | k :: keys => if k ∈ seen then some k else firstRepeated (k :: seen) keys

theorem firstRepeated_eq_none_iff {seen keys : List κ} :
    firstRepeated seen keys = none ↔ keys.Nodup ∧ ∀ k ∈ keys, k ∉ seen := by
  induction keys generalizing seen with
  | nil => simp [firstRepeated]
  | cons k keys ih =>
    rw [firstRepeated, List.nodup_cons, List.forall_mem_cons]
    split_ifs with h
    · simp [h]
    · rw [ih]
      simp only [List.mem_cons, not_or]
      constructor
      · rintro ⟨hnodup, hnew⟩
        exact ⟨⟨fun hmem => (hnew k hmem).1 rfl, hnodup⟩, h, fun k' hk' => (hnew k' hk').2⟩
      · rintro ⟨⟨hk, hnodup⟩, -, hnew⟩
        refine ⟨hnodup, fun k' hk' => ⟨?_, hnew k' hk'⟩⟩
        rintro rfl
        exact hk hk'

theorem firstRepeated_nil_eq_none_iff {keys : List κ} :
    firstRepeated [] keys = none ↔ keys.Nodup := by
  rw [firstRepeated_eq_none_iff]
  exact and_iff_left fun _ _ => List.not_mem_nil

/-! ## Tables as maps -/

/-- Two tables with the same keys and values are the same map. -/
theorem find_map_eq {σ ν : Type*} {key' : σ → κ} {rows' : List σ} {value : ρ → ν} {value' : σ → ν}
    (hkeys : (rows.map key).Nodup) (hkeys' : (rows'.map key').Nodup)
    (h : ∀ v, (∃ r ∈ rows, key r = k ∧ value r = v) ↔ ∃ r ∈ rows', key' r = k ∧ value' r = v) :
    (find key k rows).map value = (find key' k rows').map value' := by
  apply Option.ext
  intro v
  simp only [Option.map_eq_some_iff, find_eq_some_iff hkeys, find_eq_some_iff hkeys', and_assoc]
  exact h v

/-! ## A map written entry by entry -/

section Assign

variable {ν : Type*}

/-- A map after one entry. -/
def assign (map : κ → ν) (entry : κ × ν) : κ → ν := Function.update map entry.1 entry.2

variable {map : κ → ν} {entries entries' : List (κ × ν)} {v : ν}

theorem foldl_assign_of_notMem (h : k ∉ entries.map Prod.fst) :
    entries.foldl assign map k = map k := by
  induction entries generalizing map with
  | nil => rfl
  | cons entry entries ih =>
    rw [List.map_cons, List.mem_cons, not_or] at h
    rw [List.foldl_cons, ih h.2]
    exact Function.update_of_ne h.1 _ _

theorem foldl_assign_of_mem (hkeys : (entries.map Prod.fst).Nodup) (h : (k, v) ∈ entries) :
    entries.foldl assign map k = v := by
  induction entries generalizing map with
  | nil => exact absurd h List.not_mem_nil
  | cons entry entries ih =>
    rw [List.map_cons, List.nodup_cons] at hkeys
    rw [List.foldl_cons]
    rcases List.mem_cons.mp h with rfl | h
    · rw [foldl_assign_of_notMem hkeys.1]
      exact Function.update_self _ _ _
    · exact ih hkeys.2 h

/-- With no key twice, the order of the entries does not matter. -/
theorem foldl_assign_perm (hkeys : (entries.map Prod.fst).Nodup) (h : entries.Perm entries') :
    entries.foldl assign map = entries'.foldl assign map := by
  have hkeys' : (entries'.map Prod.fst).Nodup := (h.map _).nodup_iff.mp hkeys
  funext k
  by_cases hk : k ∈ entries.map Prod.fst
  · obtain ⟨entry, hentry, rfl⟩ := List.mem_map.mp hk
    rw [foldl_assign_of_mem hkeys hentry, foldl_assign_of_mem hkeys' (h.mem_iff.mp hentry)]
  · have hk' : k ∉ entries'.map Prod.fst := fun hmem => hk ((h.map _).mem_iff.mpr hmem)
    rw [foldl_assign_of_notMem hk, foldl_assign_of_notMem hk']

end Assign

end KomiSaas.Lib.Rows
