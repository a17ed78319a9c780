import KomiSaas.Lib.Rows

/-!
# Maps whose keys have several names

A key may be written in several ways, and `f` gives the one that a store keeps:
`f (f k) = f k`. A list of entries is assigned, one after another, to a copy of the
map that tells the names apart. It is written back under the kept names, and it has
been agreed (`stored`) that no two of the names that are left stand for one key.

Result: `eq_foldl_assign_iff`. What is stored is what assigning the entries under
the kept names gives, unless some key ends removed under one name and keeps a value
under another (`Strays`).
-/

namespace KomiSaas.Lib.Rows

variable {κ ν : Type*} [DecidableEq κ]

/-- The last entry for a key, under any of its names. -/
def lastOf (f : κ → κ) (entries : List (κ × ν)) (k : κ) : Option ν :=
  (entries.reverse.find? fun entry => f entry.1 = k).map Prod.snd

/-- A key that the entries end by removing has a value under another name: from an
    entry, or from before. -/
def Strays (f : κ → κ) (map : κ → Option ν) (entries : List (κ × Option ν)) : Prop :=
  ∃ entry ∈ entries, lastOf f entries (f entry.1) = some none ∧
    ((∃ other ∈ entries, f other.1 = f entry.1 ∧ other.2.isSome = true) ∨
      (f entry.1 ∉ entries.map Prod.fst ∧ (map (f entry.1)).isSome = true))

instance (f : κ → κ) (map : κ → Option ν) (entries : List (κ × Option ν)) [DecidableEq ν] :
    Decidable (Strays f map entries) := by
  unfold Strays
  infer_instance

variable {f : κ → κ} {k : κ}

theorem lastOf_eq_none_iff {entries : List (κ × ν)} :
    lastOf f entries k = none ↔ ∀ entry ∈ entries, f entry.1 ≠ k := by
  rw [lastOf, Option.map_eq_none_iff, List.find?_eq_none]
  simp

theorem exists_of_lastOf {entries : List (κ × ν)} {v : ν} (h : lastOf f entries k = some v) :
    ∃ name, (name, v) ∈ entries ∧ f name = k := by
  obtain ⟨entry, hfind, rfl⟩ := Option.map_eq_some_iff.mp h
  have hname : f entry.1 = k := by simpa using List.find?_some hfind
  exact ⟨entry.1, List.mem_reverse.mp (List.mem_of_find?_eq_some hfind), hname⟩

/-- Under the kept names, the last entry of a key counts. -/
theorem foldl_assign_map {map : κ → ν} {entries : List (κ × ν)} :
    (entries.map (Prod.map f id)).foldl assign map k = (lastOf f entries k).getD (map k) := by
  induction entries using List.reverseRecOn with
  | nil => rfl
  | append_singleton entries entry ih =>
    rw [List.map_append, List.foldl_append, lastOf, List.reverse_append]
    show assign _ (f entry.1, entry.2) k = _
    rw [assign, List.reverse_singleton, List.singleton_append, List.find?_cons]
    by_cases hk : f entry.1 = k
    · rw [hk, Function.update_self, decide_eq_true rfl]
      rfl
    · rw [Function.update_of_ne (fun e => hk e.symm), ih, decide_eq_false hk]
      rfl

/-- What is stored is what was asked for exactly where no name strays. -/
theorem eq_foldl_assign_iff (hf : ∀ k, f (f k) = f k) {map stored : κ → Option ν}
    {entries : List (κ × Option ν)} (hmap : ∀ k v, map k = some v → f k = k)
    (hkeys : (entries.map Prod.fst).Nodup)
    (hstored : ∀ k v, stored k = some v ↔
      ∃ name, f name = k ∧ entries.foldl assign map name = some v) :
    stored = (entries.map (Prod.map f id)).foldl assign map ↔ ¬ Strays f map entries := by
  have hkept : ∀ {name v}, name ∉ entries.map Prod.fst →
      entries.foldl assign map name = some v → f name = name ∧ map name = some v := by
    intro name v hnot hvalue
    rw [foldl_assign_of_notMem hnot] at hvalue
    exact ⟨hmap name v hvalue, hvalue⟩
  constructor
  · rintro heq ⟨entry, hentry, hlast, hstray⟩
    have hnone : stored (f entry.1) = none := by
      rw [heq, foldl_assign_map, hlast]
      rfl
    have hvalue : ∃ v, stored (f entry.1) = some v := by
      rcases hstray with ⟨⟨name, value⟩, hother, hname, hsome⟩ | ⟨hnot, hsome⟩
      · obtain ⟨v, rfl⟩ := Option.isSome_iff_exists.mp hsome
        exact ⟨v, (hstored _ v).mpr ⟨name, hname, foldl_assign_of_mem hkeys hother⟩⟩
      · obtain ⟨v, hv⟩ := Option.isSome_iff_exists.mp hsome
        refine ⟨v, (hstored _ v).mpr ⟨f entry.1, hf _, ?_⟩⟩
        rw [foldl_assign_of_notMem hnot, hv]
    obtain ⟨v, hv⟩ := hvalue
    cases hnone.symm.trans hv
  · intro hnot
    funext k
    apply Option.ext
    intro v
    rw [foldl_assign_map, hstored]
    cases hlast : lastOf f entries k with
    | none =>
      have hnone : ∀ name, f name = k → name ∉ entries.map Prod.fst := by
        rintro name hname hmem
        obtain ⟨entry, hentry, rfl⟩ := List.mem_map.mp hmem
        exact lastOf_eq_none_iff.mp hlast entry hentry hname
      constructor
      · rintro ⟨name, hname, hvalue⟩
        obtain ⟨hself, hv⟩ := hkept (hnone name hname) hvalue
        rw [← hname, hself]
        exact hv
      · intro hv
        have hself := hmap k v hv
        exact ⟨k, hself, (foldl_assign_of_notMem (hnone k hself)).trans hv⟩
    | some last =>
      obtain ⟨name, hentry, rfl⟩ := exists_of_lastOf hlast
      cases last with
      | some value =>
        -- every name of the key agrees with the last entry
        have hown := (hstored (f name) value).mpr ⟨name, rfl, foldl_assign_of_mem hkeys hentry⟩
        rw [← hstored, hown]
        rfl
      | none =>
        refine iff_of_false ?_ (by simp)
        rintro ⟨other, hother, hvalue⟩
        refine hnot ⟨(name, none), hentry, hlast, ?_⟩
        by_cases hmem : other ∈ entries.map Prod.fst
        · obtain ⟨⟨_, value⟩, hin, rfl⟩ := List.mem_map.mp hmem
          rw [foldl_assign_of_mem hkeys hin] at hvalue
          exact .inl ⟨_, hin, hother, by rw [hvalue]; rfl⟩
        · obtain ⟨hself, hv⟩ := hkept hmem hvalue
          rw [hself] at hother
          subst hother
          exact .inr ⟨hmem, by rw [hv]; rfl⟩

end KomiSaas.Lib.Rows
