import Mathlib

/-!
# Forests from parent pointers

Rows with a key, each with the key of its parent or with none. The children of a
row are the rows that name it as their parent, in the order of the list, and the
roots are the rows without a parent. `forest` unfolds the rows from the roots down
to a given depth.

A `rank` that a child has below that of its parent excludes cycles. The depth is
enough once it exceeds all ranks: then every node has all its children
(`forest_complete`), the rows that are unfolded are those with a chain of parents
up to a root (`mem_below_roots_iff`), and each of them is unfolded once
(`nodup_below_roots`).
-/

namespace KomiSaas.Lib

/-- A tree with a value at each node. -/
inductive RoseTree (α : Type*) where
  | node (value : α) (children : List (RoseTree α))

namespace RoseTree

variable {α : Type*}

def value : RoseTree α → α
  | .node value _ => value

def children : RoseTree α → List (RoseTree α)
  | .node _ children => children

/-! The trees inside a tree, and inside a list of trees: each node before what is
below it. -/
mutual

def subtrees : RoseTree α → List (RoseTree α)
  | .node value children => .node value children :: subtreesOf children

def subtreesOf : List (RoseTree α) → List (RoseTree α)
  | [] => []
  | tree :: trees => tree.subtrees ++ subtreesOf trees

end

theorem subtreesOf_eq_flatMap (trees : List (RoseTree α)) :
    subtreesOf trees = trees.flatMap subtrees := by
  induction trees with
  | nil => rfl
  | cons tree trees ih => rw [subtreesOf, List.flatMap_cons, ih]

/-- The values of a list of trees, each before those below it. -/
def values (trees : List (RoseTree α)) : List α := (subtreesOf trees).map value

end RoseTree

namespace Forest

open Relation

variable {ρ κ β : Type*} [DecidableEq κ] (key : ρ → κ) (parent : ρ → Option κ) (rows : List ρ)

/-- The rows that name `row` as their parent. -/
def childrenOf (row : ρ) : List ρ := rows.filter fun child => parent child = some (key row)

/-- The rows without a parent. -/
def roots : List ρ := rows.filter fun row => parent row = none

/-- `row` names `above`, which is one of the rows, as its parent. -/
def Under (row above : ρ) : Prop := above ∈ rows ∧ parent row = some (key above)

/-- The chain of parents of a row, inside the rows, ends at a root. -/
def Rooted (row : ρ) : Prop :=
  row ∈ rows ∧ ∃ root ∈ rows, parent root = none ∧ ReflTransGen (Under key parent rows) row root

/-- The trees of some rows, `depth` levels of them. -/
def forest (label : ρ → β) : ℕ → List ρ → List (RoseTree β)
  | 0, _ => []
  | depth + 1, tops =>
    tops.map fun row => .node (label row) (forest label depth (childrenOf key parent rows row))

/-- The rows that `forest` goes through, each before those below it. -/
def below : ℕ → List ρ → List ρ
  | 0, _ => []
  | depth + 1, tops =>
    tops.flatMap fun row => row :: below depth (childrenOf key parent rows row)

variable {key parent rows} {label : ρ → β} {depth : ℕ} {tops : List ρ} {row child above : ρ}

theorem mem_childrenOf :
    child ∈ childrenOf key parent rows row ↔ child ∈ rows ∧ parent child = some (key row) := by
  rw [childrenOf, List.mem_filter, decide_eq_true_iff]

omit [DecidableEq κ] in
theorem mem_roots : row ∈ roots parent rows ↔ row ∈ rows ∧ parent row = none := by
  rw [roots, List.mem_filter, decide_eq_true_iff]

theorem values_forest :
    RoseTree.values (forest key parent rows label depth tops) =
      (below key parent rows depth tops).map label := by
  induction depth generalizing tops with
  | zero => rfl
  | succ depth ih =>
    unfold RoseTree.values at ih ⊢
    rw [RoseTree.subtreesOf_eq_flatMap, forest, below, List.flatMap_map, List.map_flatMap,
      List.map_flatMap]
    apply List.flatMap_congr
    intro row _
    rw [RoseTree.subtrees, List.map_cons, List.map_cons, ih]
    rfl

omit [DecidableEq κ] in
theorem mem_of_above (hrow : row ∈ rows) (h : ReflTransGen (Under key parent rows) row above) :
    above ∈ rows := by
  rcases ReflTransGen.cases_tail_iff _ row above |>.mp h with rfl | ⟨middle, -, h⟩
  · exact hrow
  · exact h.1

omit [DecidableEq κ] in
theorem rightUnique_under (hkeys : (rows.map key).Nodup) :
    Relator.RightUnique (Under key parent rows) := by
  intro row above above' h h'
  have hkey : key above = key above' := Option.some.inj (h.2.symm.trans h'.2)
  exact List.inj_on_of_nodup_map hkeys h.1 h'.1 hkey

/-! ## Enough levels -/

section Ranked

variable {rank : ρ → ℕ}
  (hrank : ∀ child ∈ rows, ∀ row ∈ rows, parent child = some (key row) → rank child < rank row)

include hrank

omit [DecidableEq κ] in
/-- No row is above itself. -/
theorem not_transGen_self (hrow : row ∈ rows) : ¬ TransGen (Under key parent rows) row row := by
  have hlt : ∀ {above}, TransGen (Under key parent rows) row above →
      above ∈ rows ∧ rank row < rank above := by
    intro above h
    induction h with
    | single h => exact ⟨h.1, hrank row hrow _ h.1 h.2⟩
    | @tail middle top _ h ih =>
      have hstep := hrank middle ih.1 top h.1 h.2
      exact ⟨h.1, by omega⟩
  intro h
  have := (hlt h).2
  omega

theorem ranked_childrenOf (hrow : row ∈ rows) (hdepth : rank row < depth + 1) :
    ∀ child ∈ childrenOf key parent rows row, child ∈ rows ∧ rank child < depth := by
  intro child hchild
  obtain ⟨hchild, hparent⟩ := mem_childrenOf.mp hchild
  have hlt := hrank child hchild row hrow hparent
  exact ⟨hchild, by omega⟩

/-- Each node of the forest has all the children of its row, in the order of the
    rows. -/
theorem forest_complete (htops : ∀ row ∈ tops, row ∈ rows ∧ rank row < depth) {tree : RoseTree β}
    (h : tree ∈ RoseTree.subtreesOf (forest key parent rows label depth tops)) :
    ∃ row ∈ rows, tree.value = label row ∧
      tree.children.map RoseTree.value = (childrenOf key parent rows row).map label := by
  induction depth generalizing tops with
  | zero => exact absurd h List.not_mem_nil
  | succ depth ih =>
    rw [RoseTree.subtreesOf_eq_flatMap, forest, List.flatMap_map, List.mem_flatMap] at h
    obtain ⟨row, hrow, h⟩ := h
    obtain ⟨hmem, hdepth⟩ := htops row hrow
    have hchildren := ranked_childrenOf hrank hmem hdepth
    rw [RoseTree.subtrees, List.mem_cons] at h
    rcases h with rfl | h
    · refine ⟨row, hmem, rfl, ?_⟩
      show (forest key parent rows label depth _).map RoseTree.value = _
      cases depth with
      | zero =>
        have hnone : childrenOf key parent rows row = [] := by
          rw [List.eq_nil_iff_forall_not_mem]
          intro child hchild
          have := (hchildren child hchild).2
          omega
        rw [hnone]
        rfl
      | succ depth =>
        rw [forest, List.map_map]
        rfl
    · exact ih hchildren h

/-- More levels add nothing. -/
theorem forest_of_le {depth' : ℕ} (htops : ∀ row ∈ tops, row ∈ rows ∧ rank row < depth)
    (hle : depth ≤ depth') :
    forest key parent rows label depth' tops = forest key parent rows label depth tops := by
  induction depth generalizing tops depth' with
  | zero =>
    have hnone : tops = [] := by
      rw [List.eq_nil_iff_forall_not_mem]
      intro row hrow
      have hlt := (htops row hrow).2
      omega
    subst hnone
    cases depth' <;> rfl
  | succ depth ih =>
    obtain ⟨more, rfl⟩ : ∃ more, depth' = more + 1 := ⟨depth' - 1, by omega⟩
    unfold forest
    apply List.map_congr_left
    intro row hrow
    obtain ⟨hmem, hdepth⟩ := htops row hrow
    rw [ih (ranked_childrenOf hrank hmem hdepth) (by omega)]

/-- The rows of the forest are those with one of `tops` above them. -/
theorem mem_below_iff (htops : ∀ row ∈ tops, row ∈ rows ∧ rank row < depth) :
    row ∈ below key parent rows depth tops ↔
      row ∈ rows ∧ ∃ top ∈ tops, ReflTransGen (Under key parent rows) row top := by
  induction depth generalizing tops with
  | zero =>
    constructor
    · intro h
      exact absurd h List.not_mem_nil
    · rintro ⟨-, top, htop, -⟩
      have := (htops top htop).2
      omega
  | succ depth ih =>
    have hchildren := fun top htop =>
      ranked_childrenOf hrank (htops top htop).1 (htops top htop).2
    rw [below, List.mem_flatMap]
    constructor
    · rintro ⟨top, htop, h⟩
      rcases List.mem_cons.mp h with rfl | h
      · exact ⟨(htops row htop).1, row, htop, .refl⟩
      · obtain ⟨hrow, child, hchild, habove⟩ := (ih (hchildren top htop)).mp h
        refine ⟨hrow, top, htop, habove.tail ⟨(htops top htop).1, ?_⟩⟩
        exact (mem_childrenOf.mp hchild).2
    · rintro ⟨hrow, top, htop, habove⟩
      refine ⟨top, htop, ?_⟩
      rw [List.mem_cons]
      rcases ReflTransGen.cases_tail_iff _ row top |>.mp habove with rfl | ⟨child, habove, hunder⟩
      · exact .inl rfl
      · right
        rw [ih (hchildren top htop)]
        have hchild := mem_of_above hrow habove
        exact ⟨hrow, child, mem_childrenOf.mpr ⟨hchild, hunder.2⟩, habove⟩

theorem mem_below_roots_iff (hdepth : ∀ row ∈ rows, rank row < depth) :
    row ∈ below key parent rows depth (roots parent rows) ↔ Rooted key parent rows row := by
  have htops : ∀ row ∈ roots parent rows, row ∈ rows ∧ rank row < depth := fun row hrow =>
    ⟨(mem_roots.mp hrow).1, hdepth row (mem_roots.mp hrow).1⟩
  rw [mem_below_iff hrank htops]
  unfold Rooted
  constructor
  · rintro ⟨hrow, root, hroot, habove⟩
    obtain ⟨hmem, hnone⟩ := mem_roots.mp hroot
    exact ⟨hrow, root, hmem, hnone, habove⟩
  · rintro ⟨hrow, root, hmem, hnone, habove⟩
    exact ⟨hrow, root, mem_roots.mpr ⟨hmem, hnone⟩, habove⟩

/-! ## Each row once -/

omit [DecidableEq κ] in
/-- Of two different rows with the same parent, or both without one, neither is
    above the other. -/
theorem not_above_of_sibling (hne : row ≠ above) (hparent : parent row = parent above) :
    ¬ ReflTransGen (Under key parent rows) row above := by
  intro h
  rcases ReflTransGen.cases_head_iff.mp h with heq | ⟨middle, hunder, hmiddle⟩
  · exact hne heq
  · -- the parent of `row` is that of `above` too, and so above itself
    have habove : Under key parent rows above middle := ⟨hunder.1, hparent ▸ hunder.2⟩
    exact not_transGen_self hrank hunder.1 (.tail' hmiddle habove)

theorem nodup_below (hkeys : (rows.map key).Nodup)
    (htops : ∀ row ∈ tops, row ∈ rows ∧ rank row < depth) (hnodup : tops.Nodup)
    (hsiblings : ∀ row ∈ tops, ∀ other ∈ tops, parent row = parent other) :
    (below key parent rows depth tops).Nodup := by
  induction depth generalizing tops with
  | zero => exact List.nodup_nil
  | succ depth ih =>
    have hchildren := fun top htop =>
      ranked_childrenOf hrank (htops top htop).1 (htops top htop).2
    have habove : ∀ top ∈ tops, ∀ row,
        row ∈ top :: below key parent rows depth (childrenOf key parent rows top) →
          ReflTransGen (Under key parent rows) row top := by
      intro top htop row hrow
      rcases List.mem_cons.mp hrow with rfl | hrow
      · exact .refl
      · obtain ⟨-, child, hchild, h⟩ := (mem_below_iff hrank (hchildren top htop)).mp hrow
        exact h.tail ⟨(htops top htop).1, (mem_childrenOf.mp hchild).2⟩
    rw [below, List.nodup_flatMap]
    constructor
    · intro top htop
      rw [List.nodup_cons]
      constructor
      · intro hmem
        obtain ⟨-, child, hchild, h⟩ := (mem_below_iff hrank (hchildren top htop)).mp hmem
        exact not_transGen_self hrank (htops top htop).1
          (.tail' h ⟨(htops top htop).1, (mem_childrenOf.mp hchild).2⟩)
      · refine ih (hchildren top htop) ((List.Nodup.of_map _ hkeys).filter _) ?_
        intro row hrow other hother
        rw [(mem_childrenOf.mp hrow).2, (mem_childrenOf.mp hother).2]
    · refine hnodup.pairwise_of_forall_ne fun top htop other hother hne => ?_
      intro row hrow hrow'
      -- both are above the row, so one of them is above the other
      have hparent := hsiblings top htop other hother
      rcases ReflTransGen.total_of_right_unique (rightUnique_under hkeys)
        (habove top htop row hrow) (habove other hother row hrow') with h | h
      · exact not_above_of_sibling hrank hne hparent h
      · exact not_above_of_sibling hrank hne.symm hparent.symm h

theorem nodup_below_roots (hkeys : (rows.map key).Nodup) (hdepth : ∀ row ∈ rows, rank row < depth) :
    (below key parent rows depth (roots parent rows)).Nodup := by
  refine nodup_below hrank hkeys ?_ ((List.Nodup.of_map _ hkeys).filter _) ?_
  · intro row hrow
    exact ⟨(mem_roots.mp hrow).1, hdepth row (mem_roots.mp hrow).1⟩
  · intro row hrow other hother
    rw [(mem_roots.mp hrow).2, (mem_roots.mp hother).2]

end Ranked

end Forest

end KomiSaas.Lib
