import Mathlib

/-!
# Reading a table page by page

`SELECT … ORDER BY key OFFSET … LIMIT …` over the rows of a table, in the order in
which the database happens to read them.

* `orderBy_perm`: where the rows have different keys, that order does not matter.
* `flatMap_page`: the pages, one after the other, are the ordered rows.
* `mem_page_orderBy`: a row is on the page of its rank (`before`).
* `exists_page_of_growing`: reading on while rows are added misses none of the
  rows that were there at first.
-/

namespace KomiSaas.Lib.Paging

variable {ρ κ : Type*} [LinearOrder κ] (key : ρ → κ)

/-- `ORDER BY`: rows with one key stand as they were read. -/
def orderBy (rows : List ρ) : List ρ := rows.mergeSort fun a b => key a ≤ key b

/-- One page, counted from the first. -/
def page (pageSize pageNumber : ℕ) (rows : List ρ) : List ρ :=
  (rows.drop ((pageNumber - 1) * pageSize)).take pageSize

/-- The number of rows that stand before a key. -/
def before (k : κ) (rows : List ρ) : ℕ := rows.countP fun r => key r < k

variable {key} {rows rows' : List ρ} {r : ρ} {k : κ} {n pageSize pageNumber : ℕ}

theorem orderBy_perm_self : (orderBy key rows).Perm rows := List.mergeSort_perm _ _

theorem pairwise_orderBy : (orderBy key rows).Pairwise fun a b => key a ≤ key b := by
  have htrans : ∀ a b c : ρ, decide (key a ≤ key b) = true → decide (key b ≤ key c) = true →
      decide (key a ≤ key c) = true := by
    intro a b c hab hbc
    exact decide_eq_true ((of_decide_eq_true hab).trans (of_decide_eq_true hbc))
  have htotal : ∀ a b : ρ, (decide (key a ≤ key b) || decide (key b ≤ key a)) = true := by
    intro a b
    rw [Bool.or_eq_true, decide_eq_true_eq, decide_eq_true_eq]
    exact le_total _ _
  exact (List.pairwise_mergeSort htrans htotal rows).imp of_decide_eq_true

/-- Rows with different keys are put in one order, however they were read. -/
theorem orderBy_perm (hkeys : (rows.map key).Nodup) (h : rows.Perm rows') :
    orderBy key rows = orderBy key rows' := by
  have hperm : (orderBy key rows).Perm (orderBy key rows') :=
    orderBy_perm_self.trans (h.trans orderBy_perm_self.symm)
  refine hperm.eq_of_pairwise (fun a b ha hb hab hba => ?_) pairwise_orderBy pairwise_orderBy
  have ha : a ∈ rows := orderBy_perm_self.mem_iff.mp ha
  have hb : b ∈ rows := h.mem_iff.mpr (orderBy_perm_self.mem_iff.mp hb)
  exact List.inj_on_of_nodup_map hkeys ha hb (le_antisymm hab hba)

/-- The pages, one after the other. -/
theorem flatMap_page_take :
    (List.range n).flatMap (fun i => page pageSize (i + 1) rows) = rows.take (n * pageSize) := by
  induction n with
  | zero => simp
  | succ n ih =>
    rw [List.range_succ, List.flatMap_append, ih, Nat.succ_mul, List.take_add]
    simp [page]

/-- Enough pages hold all rows. -/
theorem flatMap_page (h : rows.length ≤ n * pageSize) :
    (List.range n).flatMap (fun i => page pageSize (i + 1) rows) = rows := by
  rw [flatMap_page_take, List.take_of_length_le h]

/-! ## The rank of a row -/

theorem before_perm (h : rows.Perm rows') : before key k rows = before key k rows' :=
  h.countP_eq _

theorem before_lt_length (h : r ∈ rows) : before key (key r) rows < rows.length := by
  rw [before, List.countP_lt_length_iff]
  exact ⟨r, h, by simp⟩

/-- A row stands in the ordered table at its rank. -/
theorem exists_orderBy_split (hkeys : (rows.map key).Nodup) (h : r ∈ rows) :
    ∃ first last, orderBy key rows = first ++ r :: last ∧
      first.length = before key (key r) rows := by
  obtain ⟨first, last, hsplit⟩ :=
    List.append_of_mem ((@orderBy_perm_self _ _ _ key rows).mem_iff.mpr h)
  refine ⟨first, last, hsplit, ?_⟩
  have hnodup : ((first ++ r :: last).map key).Nodup := by
    rw [← hsplit]
    exact (orderBy_perm_self.map key).nodup_iff.mpr hkeys
  have hpairwise := @pairwise_orderBy _ _ _ key rows
  rw [hsplit, List.pairwise_append, List.pairwise_cons] at hpairwise
  obtain ⟨-, ⟨hlast, -⟩, hfirst⟩ := hpairwise
  have hne : ∀ a ∈ first, key a ≠ key r := by
    intro a ha heq
    rw [List.map_append, List.map_cons, List.nodup_append] at hnodup
    exact hnodup.2.2 _ (List.mem_map_of_mem ha) _ List.mem_cons_self heq
  have hbefore : before key (key r) rows = before key (key r) (first ++ r :: last) := by
    rw [← hsplit]
    exact before_perm orderBy_perm_self.symm
  rw [hbefore, before, List.countP_append, List.countP_eq_length.mpr, List.countP_eq_zero.mpr,
    Nat.add_zero]
  · intro a ha
    rw [decide_eq_true_eq, not_lt]
    rcases List.mem_cons.mp ha with rfl | ha
    · exact le_refl _
    · exact hlast a ha
  · intro a ha
    exact decide_eq_true ((hfirst a ha r List.mem_cons_self).lt_of_ne (hne a ha))

/-- A row is on the page of its rank. -/
theorem mem_page_orderBy (hkeys : (rows.map key).Nodup) (h : r ∈ rows)
    (hlow : (pageNumber - 1) * pageSize ≤ before key (key r) rows)
    (hhigh : before key (key r) rows < (pageNumber - 1) * pageSize + pageSize) :
    r ∈ page pageSize pageNumber (orderBy key rows) := by
  obtain ⟨first, last, hsplit, hlength⟩ := exists_orderBy_split hkeys h
  have hget : (page pageSize pageNumber (orderBy key rows))[first.length -
      (pageNumber - 1) * pageSize]? = some r := by
    rw [page, hsplit, List.getElem?_take_of_lt (by omega), List.getElem?_drop,
      show (pageNumber - 1) * pageSize + (first.length - (pageNumber - 1) * pageSize) =
        first.length by omega, List.getElem?_append_right (le_refl _), Nat.sub_self]
    rfl
  exact List.mem_of_getElem? hget

/-- Adding rows puts no row on an earlier page. -/
theorem before_le_of_subset (hkeys : (rows.map key).Nodup)
    (hsub : rows.map key ⊆ rows'.map key) : before key k rows ≤ before key k rows' := by
  have hcount : ∀ rows : List ρ, before key k rows = ((rows.map key).filter (· < k)).length := by
    intro rows
    rw [before, List.countP_eq_length_filter, List.filter_map, List.length_map]
    rfl
  rw [hcount, hcount]
  refine (List.Nodup.subperm (hkeys.filter _) fun j hj => ?_).length_le
  rw [List.mem_filter] at hj ⊢
  exact ⟨hsub hj.1, hj.2⟩

/-- Page after page is read from tables to which rows are added, until one that
    holds no more rows than were read: every row of the first table is on one of
    the pages. -/
theorem exists_page_of_growing {tables : ℕ → List ρ}
    (hkeys : ∀ i < n, ((tables i).map key).Nodup)
    (hgrow : ∀ i, i + 1 < n → (tables i).map key ⊆ (tables (i + 1)).map key)
    (hn : 0 < n) (hend : (tables (n - 1)).length ≤ n * pageSize) (h : k ∈ (tables 0).map key) :
    ∃ i < n, ∃ r ∈ page pageSize (i + 1) (orderBy key (tables i)), key r = k := by
  have hstays : ∀ i < n, k ∈ (tables i).map key := by
    intro i
    induction i with
    | zero => exact fun _ => h
    | succ i ih => exact fun hi => hgrow i hi (ih (by omega))
  -- the first page whose end lies behind the row
  have hexists : ∃ i, i < n ∧ before key k (tables i) < (i + 1) * pageSize := by
    obtain ⟨r, hr, rfl⟩ := List.mem_map.mp (hstays (n - 1) (by omega))
    refine ⟨n - 1, by omega, (before_lt_length hr).trans_le ?_⟩
    rwa [show n - 1 + 1 = n by omega]
  obtain ⟨hi, hhigh⟩ := Nat.find_spec hexists
  have hleast := fun j => @Nat.find_min _ _ hexists j
  generalize Nat.find hexists = i at hi hhigh hleast
  obtain ⟨r, hr, rfl⟩ := List.mem_map.mp (hstays i hi)
  refine ⟨i, hi, r, mem_page_orderBy (hkeys i hi) hr ?_ ?_, rfl⟩
  · rw [Nat.add_sub_cancel]
    cases i with
    | zero => simp
    | succ i =>
      have hnot : ¬ before key (key r) (tables i) < (i + 1) * pageSize :=
        fun hlt => hleast i (Nat.lt_succ_self i) ⟨by omega, hlt⟩
      exact (not_lt.mp hnot).trans
        (before_le_of_subset (hkeys i (by omega)) (hgrow i (by omega)))
  · rw [Nat.add_sub_cancel, ← Nat.succ_mul]
    exact hhigh

end KomiSaas.Lib.Paging
