import KomiSaas.Lib.Rows

/-!
# Writing one row

`Puts`: a row takes the place of the row with its key, or is new. An `INSERT`
(`puts_insert`), an `UPDATE` of one row (`puts_updateWhere`,
`puts_or_eq_updateWhere`) and an ORM `save` (`puts_upsert`) all do this, and what is
kept follows from it alone:

* `Puts.forall_mem`: what holds of each row.
* `Puts.apart`: what holds between rows with different keys, such as having
  different names, where a unique index checks it for the row that is written.
* `Puts.map_subset`: the columns that the writer leaves as they are.

`countP_updateWhere_le` and `countP_updateWhere_lt` count rows with a property over
an `UPDATE` that gives it to none.
-/

namespace KomiSaas.Lib.Rows

variable {ρ κ β : Type*} {key : ρ → κ} {rows rows' : List ρ} {row old : ρ}

/-- `row` takes the place of the row with its key, or is new; keys stay distinct. -/
structure Puts (key : ρ → κ) (rows rows' : List ρ) (row : ρ) : Prop where
  mem : ∀ r, r ∈ rows' ↔ r = row ∨ (r ∈ rows ∧ key r ≠ key row)
  keys : (rows'.map key).Nodup

theorem puts_insert (hkeys : (rows.map key).Nodup) (h : key row ∉ rows.map key) :
    Puts key rows (rows ++ [row]) row where
  mem r := by
    rw [List.mem_append, List.mem_singleton, or_comm]
    refine or_congr_right ⟨fun hr => ⟨hr, fun hkey => ?_⟩, And.left⟩
    exact h (List.mem_map.mpr ⟨r, hr, hkey⟩)
  keys := by
    rw [List.map_append, List.nodup_append]
    refine ⟨hkeys, List.nodup_singleton _, fun a ha b hb => ?_⟩
    obtain rfl := List.mem_singleton.mp hb
    rintro rfl
    exact h ha

theorem puts_updateWhere [DecidableEq κ] {p : ρ → Bool} {f : ρ → ρ} (hkeys : (rows.map key).Nodup)
    (hold : old ∈ rows) (hp : ∀ r ∈ rows, p r = true ↔ key r = key old)
    (hf : key (f old) = key old) : Puts key rows (updateWhere p f rows) (f old) := by
  have hwhere : updateWhere p f rows = updateWhere (fun r => key r = key old) f rows := by
    refine List.map_congr_left fun r hr => ?_
    rw [Bool.eq_iff_iff.mpr ((hp r hr).trans (decide_eq_true_iff (p := key r = key old)).symm)]
  have hmem := fun r => @mem_updateWhere_key_iff _ _ _ key r rows f old hkeys hold
  simp only [← hf] at hmem
  rw [hwhere]
  refine ⟨fun r => by rw [← hmem r, hf], ?_⟩
  have hsame : ∀ r ∈ rows, decide (key r = key old) = true → key (f r) = key r := by
    intro r hr hkey
    obtain rfl := List.inj_on_of_nodup_map hkeys hr hold (of_decide_eq_true hkey)
    exact hf
  rwa [map_updateWhere hsame]

/-- An `UPDATE` that matches one row at most, where it may match it or not. -/
theorem puts_or_eq_updateWhere [DecidableEq κ] {p : ρ → Bool} {f : ρ → ρ}
    (hkeys : (rows.map key).Nodup) (hold : old ∈ rows)
    (hp : ∀ r ∈ rows, p r = true → key r = key old) (hf : key (f old) = key old) :
    (p old = true ∧ Puts key rows (updateWhere p f rows) (f old)) ∨
      updateWhere p f rows = rows := by
  have hunique : ∀ r ∈ rows, key r = key old → r = old := fun r hr heq =>
    List.inj_on_of_nodup_map hkeys hr hold heq
  cases hpold : p old with
  | true =>
    refine .inl ⟨rfl, puts_updateWhere hkeys hold (fun r hr => ⟨hp r hr, fun heq => ?_⟩) hf⟩
    rw [hunique r hr heq, hpold]
  | false =>
    refine .inr (updateWhere_eq_self fun r hr => ?_)
    by_contra hpr
    rw [Bool.not_eq_false] at hpr
    rw [hunique r hr (hp r hr hpr), hpold] at hpr
    cases hpr

theorem puts_upsert [DecidableEq κ] (hkeys : (rows.map key).Nodup) :
    Puts key rows (upsert key row rows) row where
  mem _ := mem_upsert_iff hkeys
  keys := nodup_keys_upsert hkeys

/-- What holds of each row. -/
theorem Puts.forall_mem {P : ρ → Prop} (h : Puts key rows rows' row) (hrows : ∀ r ∈ rows, P r)
    (hrow : P row) : ∀ r ∈ rows', P r := by
  intro r hr
  rcases (h.mem r).mp hr with rfl | ⟨hr, -⟩
  · exact hrow
  · exact hrows r hr

/-- What holds between rows with different keys. -/
theorem Puts.apart {R : ρ → ρ → Prop} (h : Puts key rows rows' row) (hsymm : ∀ a b, R a b → R b a)
    (hrows : Apart key R rows) (hrow : ∀ other ∈ rows, key other ≠ key row → R other row) :
    Apart key R rows' :=
  (apart_iff_of_mem hsymm h.mem hrows).mpr hrow

/-- What the row has in common with the one that it replaces. -/
theorem Puts.map_subset {g : ρ → β} (h : Puts key rows rows' row)
    (hrow : ∀ old ∈ rows, key old = key row → g old = g row) : rows.map g ⊆ rows'.map g := by
  intro b hb
  obtain ⟨r, hr, rfl⟩ := List.mem_map.mp hb
  by_cases hkey : key r = key row
  · exact List.mem_map.mpr ⟨row, (h.mem row).mpr (.inl rfl), (hrow r hr hkey).symm⟩
  · exact List.mem_map.mpr ⟨r, (h.mem r).mpr (.inr ⟨hr, hkey⟩), rfl⟩

/-- No key but that of the row is new. -/
theorem Puts.notMem (h : Puts key rows rows' row) {k : κ} (hk : k ∉ rows.map key)
    (hne : key row ≠ k) : k ∉ rows'.map key := by
  intro hmem
  obtain ⟨r, hr, rfl⟩ := List.mem_map.mp hmem
  rcases (h.mem r).mp hr with rfl | ⟨hr, -⟩
  · exact hne rfl
  · exact hk (List.mem_map_of_mem hr)

/-- The same of several rows that are written at once. -/
theorem map_subset_upsertAll [DecidableEq κ] {news : List ρ} {g : ρ → β}
    (hnews : (news.map key).Nodup) (hrows : (rows.map key).Nodup)
    (hsame : ∀ new ∈ news, ∀ old ∈ rows, key old = key new → g old = g new) :
    rows.map g ⊆ (upsertAll key news rows).map g := by
  intro b hb
  obtain ⟨r, hr, rfl⟩ := List.mem_map.mp hb
  by_cases hkey : key r ∈ news.map key
  · obtain ⟨new, hnew, heq⟩ := List.mem_map.mp hkey
    exact List.mem_map.mpr ⟨new, (mem_upsertAll_iff hnews hrows).mpr (.inl hnew),
      (hsame new hnew r hr heq.symm).symm⟩
  · exact List.mem_map.mpr ⟨r, (mem_upsertAll_iff hnews hrows).mpr (.inr ⟨hr, hkey⟩), rfl⟩

/-! ## Counting -/

/-- An update that gives no row a property adds none with it. -/
theorem countP_updateWhere_le {p c : ρ → Bool} {f : ρ → ρ}
    (hf : ∀ r ∈ rows, c r = true → p (f r) = true → p r = true) :
    (updateWhere c f rows).countP p ≤ rows.countP p := by
  rw [updateWhere, List.countP_map]
  refine List.countP_mono_left fun r hr h => ?_
  rw [Function.comp_apply] at h
  split_ifs at h with hc
  · exact hf r hr hc h
  · exact h

/-- One that takes the property from a row leaves fewer. -/
theorem countP_updateWhere_lt {p c : ρ → Bool} {f : ρ → ρ}
    (hf : ∀ r ∈ rows, c r = true → p (f r) = true → p r = true) (hold : old ∈ rows)
    (hc : c old = true) (hp : p old = true) (hp' : p (f old) = false) :
    (updateWhere c f rows).countP p < rows.countP p := by
  induction rows with
  | nil => cases hold
  | cons r rows ih =>
    have hrest : (updateWhere c f rows).countP p ≤ rows.countP p :=
      countP_updateWhere_le fun a ha => hf a (List.mem_cons_of_mem r ha)
    rw [updateWhere, List.map_cons, ← updateWhere, List.countP_cons, List.countP_cons]
    rcases List.mem_cons.mp hold with rfl | hold
    · rw [if_pos hc, hp, hp']
      simp only [Bool.false_eq_true, if_false, if_true]
      omega
    · have hlt := ih (fun a ha => hf a (List.mem_cons_of_mem r ha)) hold
      have hfirst : (if p (if c r then f r else r) = true then 1 else 0) ≤
          if p r = true then 1 else 0 := by
        by_cases hcr : c r = true
        · rw [if_pos hcr]
          by_cases hfr : p (f r) = true
          · rw [if_pos hfr, if_pos (hf r List.mem_cons_self hcr hfr)]
          · rw [if_neg hfr]
            exact Nat.zero_le _
        · rw [if_neg hcr]
      omega

end KomiSaas.Lib.Rows
