import KomiSaas.Lib.Rows
import KomiSaas.Menus.Menu

/-!
# `MenuTreeBuilder`

`menus/application/services/menu-tree.builder.ts`. The responses are shared: the
one of a menu is in the index and in the `items` of its parent, and grows there
while the loop goes on. The model keeps each response in the index, with the ids
of its `items`, and `read` follows these references once the loop has ended.

After some of the menus, each response has as its items those of them that hang
from it (`build_prefix`), whatever the order. The check of the types leaves at
most three levels, so reading ends and gives the forest of the parent pointers
(`read_eq_forest`).

Result: `build_keeps_reachable`.
-/

namespace KomiSaas.Menus

open KomiSaas.Lib KomiSaas.Shared

/-! ## The builder -/

/-- A node of the index: a menu and its response, whose `items` are references. -/
structure MenuNode where
  menu : Menu
  response : MenuFields
  items : List Uuid
  deriving DecidableEq

/-- The index by id and the references to the roots. -/
@[ext] structure MenuTree where
  nodes : List MenuNode
  roots : List Uuid
  deriving DecidableEq

namespace MenuTreeBuilder

/-- The key of a node in the index. -/
def nodeId (node : MenuNode) : Uuid := node.menu.id

/-- `ensureParentIsOfExpectedType` (lines 59–67). -/
def ensureParentIsOfExpectedType (menu parent : Menu) : Except MenuException Unit :=
  match menu.expectedParentType with
  | none => .ok ()
  | some expected =>
    if parent.type ≠ expected then
      .error (.invalidMenuHierarchy (js "Un menú " ++ toLowerCase menu.type.value ++
        js " debe colgar de uno " ++ toLowerCase expected.value ++ js ", no de uno " ++
        toLowerCase parent.type.value ++ js "."))
    else .ok ()

/-- The body of the loop (lines 28–51). -/
def attach (tree : MenuTree) (menu : Menu) : Except MenuException MenuTree :=
  match menu.parentId with
  | none => .ok { tree with roots := tree.roots ++ [menu.id] }
  | some parentId =>
    match Rows.find nodeId parentId tree.nodes with
    -- an orphan
    | none => .ok tree
    | some parent => do
      ensureParentIsOfExpectedType menu parent.menu
      .ok { tree with
        nodes := Rows.updateWhere (fun node => nodeId node = parentId)
          (fun node => { node with items := node.items ++ [menu.id] }) tree.nodes }

/-- The index before the loop (lines 16–20). -/
def index (menus : List Menu) : List MenuNode :=
  Rows.upsertAll nodeId (menus.map fun menu => ⟨menu, menu.toResponse, []⟩) []

/-- `build` (lines 15–54): the references that it returns, and what they refer to. -/
def build (menus : List Menu) : Except MenuException MenuTree :=
  ((index menus).map (·.menu)).foldlM attach ⟨index menus, []⟩

end MenuTreeBuilder

/-- The responses behind some references, down to a depth; `none` where a
    reference refers to nothing, or something is left below that depth. -/
def MenuTree.read (tree : MenuTree) : ℕ → List Uuid → Option (List MenuResponse)
  | 0, ids => if ids = [] then some [] else none
  | depth + 1, ids => ids.mapM fun id => do
    let node ← Rows.find MenuTreeBuilder.nodeId id tree.nodes
    let items ← tree.read depth node.items
    some (.node node.response items)

namespace MenuTreeBuilder

variable {menus done rest : List Menu} {menu : Menu} {depth : ℕ}

/-! ## The loop -/

/-- What the loop rejects: a parent in the list, of another type. -/
def Misplaced (menus : List Menu) (menu : Menu) : Prop :=
  ∃ parent ∈ menus, menu.parentId = some parent.id ∧ some parent.type ≠ menu.expectedParentType

/-- The index and the roots once the loop has gone through `done`. -/
def built (menus done : List Menu) : MenuTree where
  nodes := menus.map fun row =>
    ⟨row, row.toResponse, (Forest.childrenOf Menu.id Menu.parentId done row).map (·.id)⟩
  roots := (Forest.roots Menu.parentId done).map (·.id)

theorem find_built (id : Uuid) : Rows.find nodeId id (built menus done).nodes =
    (Rows.find Menu.id id menus).map fun row =>
      ⟨row, row.toResponse, (Forest.childrenOf Menu.id Menu.parentId done row).map (·.id)⟩ := by
  unfold Rows.find built
  rw [List.find?_map]
  rfl

theorem index_eq (hids : (menus.map (·.id)).Nodup) : index menus = (built menus []).nodes := by
  unfold index built
  rw [Rows.upsertAll_of_fresh]
  · rfl
  · rw [List.map_map]
    exact hids
  · exact fun _ _ => List.not_mem_nil

/-- The check, for a menu that has a parent. -/
theorem ensureParentIsOfExpectedType_cases {parent : Menu} (hparent : menu.parentId ≠ none) :
    (some parent.type = menu.expectedParentType ∧
      ensureParentIsOfExpectedType menu parent = .ok ()) ∨
    (some parent.type ≠ menu.expectedParentType ∧
      ∃ detail,
        ensureParentIsOfExpectedType menu parent = .error (.invalidMenuHierarchy detail)) := by
  have hsome := mt Menu.expectedParentType_eq_none_iff.mp hparent
  obtain ⟨expected, hexpected⟩ := Option.ne_none_iff_exists'.mp hsome
  unfold ensureParentIsOfExpectedType
  rw [hexpected]
  by_cases htype : parent.type = expected
  · left
    subst htype
    exact ⟨rfl, if_neg fun h => h rfl⟩
  · right
    exact ⟨fun h => htype (Option.some.inj h), _, if_pos htype⟩

/-- One more menu is one more item of its parent. -/
theorem childrenOf_concat (row : Menu) :
    (Forest.childrenOf Menu.id Menu.parentId (done ++ [menu]) row).map (·.id) =
      (Forest.childrenOf Menu.id Menu.parentId done row).map (·.id) ++
        if menu.parentId = some row.id then [menu.id] else [] := by
  unfold Forest.childrenOf
  rw [List.filter_append, List.map_append, List.filter_singleton]
  by_cases h : menu.parentId = some row.id
  · rw [decide_eq_true h, if_pos h]
    rfl
  · rw [decide_eq_false h, if_neg h]
    rfl

theorem built_root (hparent : menu.parentId = none) : built menus (done ++ [menu]) =
    { built menus done with roots := (built menus done).roots ++ [menu.id] } := by
  have hnodes : (built menus (done ++ [menu])).nodes = (built menus done).nodes := by
    apply List.map_congr_left
    intro row _
    have hne : ¬ menu.parentId = some row.id := by
      rw [hparent]
      exact nofun
    rw [childrenOf_concat, if_neg hne, List.append_nil]
  have hroots : (built menus (done ++ [menu])).roots = (built menus done).roots ++ [menu.id] := by
    show (Forest.roots _ (done ++ [menu])).map _ = _
    unfold Forest.roots
    rw [List.filter_append, List.map_append, List.filter_singleton, decide_eq_true hparent]
    rfl
  exact MenuTree.ext hnodes hroots

theorem built_child {parentId : Uuid} (hparent : menu.parentId = some parentId) :
    built menus (done ++ [menu]) = { built menus done with
      nodes := Rows.updateWhere (fun node => nodeId node = parentId)
        (fun node => { node with items := node.items ++ [menu.id] })
        (built menus done).nodes } := by
  have hroots : (built menus (done ++ [menu])).roots = (built menus done).roots := by
    show (Forest.roots _ (done ++ [menu])).map _ = _
    have hne : ¬ menu.parentId = none := by
      rw [hparent]
      exact nofun
    unfold Forest.roots
    rw [List.filter_append, List.filter_singleton, decide_eq_false hne]
    exact congrArg (List.map _) (List.append_nil _)
  have hnodes : (built menus (done ++ [menu])).nodes =
      Rows.updateWhere (fun node => nodeId node = parentId)
        (fun node => { node with items := node.items ++ [menu.id] }) (built menus done).nodes := by
    show List.map _ menus = List.map _ (List.map _ menus)
    rw [List.map_map]
    apply List.map_congr_left
    intro row _
    rw [childrenOf_concat, hparent]
    by_cases hrow : row.id = parentId
    · rw [if_pos (by rw [hrow])]
      exact (if_pos (decide_eq_true hrow)).symm
    · rw [if_neg fun h => hrow (Option.some.inj h).symm, List.append_nil]
      exact (if_neg fun h => hrow (of_decide_eq_true h)).symm
  exact MenuTree.ext hnodes hroots

/-- Ids are distinct, so only the parent that is found counts. -/
theorem misplaced_iff {parent : Menu} {parentId : Uuid} (hids : (menus.map (·.id)).Nodup)
    (hparent : menu.parentId = some parentId) (hmem : parent ∈ menus) (hid : parent.id = parentId) :
    Misplaced menus menu ↔ some parent.type ≠ menu.expectedParentType := by
  constructor
  · rintro ⟨other, hother, h, htype⟩
    have hsame : other = parent := by
      rw [hparent] at h
      exact List.inj_on_of_nodup_map hids hother hmem ((Option.some.inj h).symm.trans hid.symm)
    rwa [← hsame]
  · intro htype
    exact ⟨parent, hmem, by rw [hparent, hid], htype⟩

/-- One turn hangs the menu from its parent, if that is in the list, or refuses it. -/
theorem attach_built (hids : (menus.map (·.id)).Nodup) :
    (¬ Misplaced menus menu ∧ attach (built menus done) menu = .ok (built menus (done ++ [menu]))) ∨
    (Misplaced menus menu ∧
      ∃ detail, attach (built menus done) menu = .error (.invalidMenuHierarchy detail)) := by
  unfold attach
  cases hparent : menu.parentId with
  | none =>
    left
    constructor
    · rintro ⟨parent, -, h, -⟩
      rw [hparent] at h
      cases h
    · rw [built_root hparent]
  | some parentId =>
    simp only [find_built]
    cases hfind : Rows.find Menu.id parentId menus with
    | none =>
      have habsent := Rows.find_eq_none_iff.mp hfind
      left
      constructor
      · rintro ⟨parent, hmem, h, _⟩
        rw [hparent] at h
        exact habsent (Option.some.inj h ▸ List.mem_map_of_mem hmem)
      · rw [built_child hparent, Rows.updateWhere_eq_self]
        · rfl
        · intro node hnode
          obtain ⟨row, hrow, rfl⟩ := List.mem_map.mp hnode
          exact decide_eq_false fun h => habsent (h ▸ List.mem_map_of_mem hrow)
    | some parent =>
      obtain ⟨hmem, hid⟩ := Rows.mem_of_find hfind
      have hne : menu.parentId ≠ none := by
        rw [hparent]
        exact Option.some_ne_none parentId
      have hunique := misplaced_iff hids hparent hmem hid
      rcases ensureParentIsOfExpectedType_cases hne with ⟨htype, hok⟩ | ⟨htype, detail, herror⟩
      · left
        refine ⟨fun h => hunique.mp h htype, ?_⟩
        rw [built_child hparent]
        show (ensureParentIsOfExpectedType menu parent).bind _ = _
        rw [hok]
        rfl
      · right
        refine ⟨hunique.mpr htype, detail, ?_⟩
        show (ensureParentIsOfExpectedType menu parent).bind _ = _
        rw [herror]
        rfl

/-- The loop from any of its turns on. -/
theorem foldlM_attach (hids : (menus.map (·.id)).Nodup) :
    ((∀ menu ∈ rest, ¬ Misplaced menus menu) ∧
      rest.foldlM attach (built menus done) = .ok (built menus (done ++ rest))) ∨
    ((∃ menu ∈ rest, Misplaced menus menu) ∧
      ∃ detail, rest.foldlM attach (built menus done) = .error (.invalidMenuHierarchy detail)) := by
  induction rest generalizing done with
  | nil =>
    left
    refine ⟨fun _ h => absurd h List.not_mem_nil, ?_⟩
    rw [List.append_nil]
    rfl
  | cons menu rest ih =>
    have hdone : done ++ menu :: rest = done ++ [menu] ++ rest := List.append_cons done menu rest
    rw [List.foldlM_cons, hdone]
    rcases attach_built hids with ⟨hplaced, hok⟩ | ⟨hmisplaced, detail, herror⟩
    · rw [hok]
      rcases ih with ⟨hall, hrest⟩ | ⟨⟨other, hother, hmisplaced⟩, hrest⟩
      · exact .inl ⟨List.forall_mem_cons.mpr ⟨hplaced, hall⟩, hrest⟩
      · exact .inr ⟨⟨other, List.mem_cons_of_mem _ hother, hmisplaced⟩, hrest⟩
    · right
      refine ⟨⟨menu, List.mem_cons_self, hmisplaced⟩, detail, ?_⟩
      rw [herror]
      rfl

theorem build_cases (hids : (menus.map (·.id)).Nodup) :
    ((∀ menu ∈ menus, ¬ Misplaced menus menu) ∧ build menus = .ok (built menus menus)) ∨
    ((∃ menu ∈ menus, Misplaced menus menu) ∧
      ∃ detail, build menus = .error (.invalidMenuHierarchy detail)) := by
  have hmenus : (built menus []).nodes.map (·.menu) = menus := by
    show List.map _ (List.map _ menus) = menus
    rw [List.map_map]
    exact List.map_id menus
  unfold build
  rw [index_eq hids, hmenus]
  exact foldlM_attach hids

/-! ## Reading the result -/

/-- How many levels may lie below a menu. -/
def rank (menu : Menu) : ℕ :=
  match menu.type with
  | .primary => 2
  | .secondary => 1
  | .tertiary => 0

theorem rank_lt (menu : Menu) : rank menu < 3 := by
  unfold rank
  cases menu.type <;> decide

/-- A menu under a parent of the type that it expects has a lower rank. -/
theorem rank_lt_of_placed (hplaced : ∀ menu ∈ menus, ¬ Misplaced menus menu) :
    ∀ child ∈ menus, ∀ row ∈ menus, child.parentId = some row.id → rank child < rank row := by
  intro child hchild row hrow hparent
  have hexpected : some row.type = child.expectedParentType := by
    by_contra hne
    exact hplaced child hchild ⟨row, hrow, hparent, hne⟩
  unfold rank
  unfold Menu.expectedParentType at hexpected
  cases htype : child.type with
  | primary =>
    rw [htype] at hexpected
    cases hexpected
  | secondary =>
    rw [htype] at hexpected
    rw [Option.some.inj hexpected]
    decide
  | tertiary =>
    rw [htype] at hexpected
    rw [Option.some.inj hexpected]
    decide

/-- Following the references gives the forest of the parent pointers. -/
theorem read_built (hids : (menus.map (·.id)).Nodup)
    (hplaced : ∀ menu ∈ menus, ¬ Misplaced menus menu) {tops : List Menu}
    (htops : ∀ menu ∈ tops, menu ∈ menus ∧ rank menu < depth) :
    (built menus menus).read depth (tops.map (·.id)) =
      some (Forest.forest Menu.id Menu.parentId menus Menu.toResponse depth tops) := by
  induction depth generalizing tops with
  | zero =>
    have hnone : tops = [] := by
      rw [List.eq_nil_iff_forall_not_mem]
      intro menu hmenu
      have := (htops menu hmenu).2
      omega
    subst hnone
    rfl
  | succ depth ih =>
    unfold MenuTree.read Forest.forest
    rw [List.mapM_map]
    apply mapM_eq_some_map
    intro menu hmenu
    obtain ⟨hmem, hdepth⟩ := htops menu hmenu
    have hchildren := Forest.ranked_childrenOf (rank_lt_of_placed hplaced) hmem hdepth
    have hfind : Rows.find Menu.id menu.id menus = some menu := Rows.find_of_mem hids hmem
    show (Rows.find nodeId menu.id _).bind _ = _
    rw [find_built, hfind]
    show ((built menus menus).read depth _).bind _ = _
    rw [ih hchildren]
    rfl

/-- `MenuTreeBuilder.build` refuses a list exactly where a menu hangs from one of
    another type than it expects. Otherwise the forest that it returns holds the
    menus with a chain of parents in the list up to a menu without a parent, each
    once; its roots are the menus without a parent, and below each node are the
    menus whose parent it is, in the order of the list. -/
theorem build_keeps_reachable (menus : List Menu) (hids : (menus.map (·.id)).Nodup) :
    ((∃ detail, build menus = .error (.invalidMenuHierarchy detail)) ↔
      ∃ menu ∈ menus, ∃ parent ∈ menus, menu.parentId = some parent.id ∧
        some parent.type ≠ menu.expectedParentType) ∧
    (∀ e, build menus = .error e → ∃ detail, e = .invalidMenuHierarchy detail) ∧
    ∀ tree, build menus = .ok tree →
      ∃ forest : List MenuResponse,
        (∀ depth, 3 ≤ depth → tree.read depth tree.roots = some forest) ∧
        (∀ response, response ∈ RoseTree.values forest ↔
          ∃ menu, Forest.Rooted Menu.id Menu.parentId menus menu ∧ menu.toResponse = response) ∧
        ((RoseTree.values forest).map (·.id)).Nodup ∧
        forest.map RoseTree.value =
          (menus.filter fun menu => menu.parentId = none).map Menu.toResponse ∧
        ∀ node ∈ RoseTree.subtreesOf forest, node.children.map RoseTree.value =
          (menus.filter fun menu => menu.parentId = some node.value.id).map Menu.toResponse := by
  rcases build_cases hids with ⟨hplaced, hok⟩ | ⟨hmisplaced, detail, herror⟩
  · have hrank := rank_lt_of_placed hplaced
    have hroots : ∀ depth, 3 ≤ depth → ∀ menu ∈ Forest.roots Menu.parentId menus,
        menu ∈ menus ∧ rank menu < depth := by
      intro depth hdepth menu hmenu
      have := rank_lt menu
      exact ⟨(Forest.mem_roots.mp hmenu).1, by omega⟩
    refine ⟨?_, ?_, ?_⟩
    · rw [hok]
      apply iff_of_false
      · rintro ⟨detail, h⟩
        cases h
      · rintro ⟨menu, hmenu, hbad⟩
        exact hplaced menu hmenu hbad
    · rw [hok]
      intro e h
      cases h
    · rw [hok]
      rintro tree ⟨⟩
      refine ⟨Forest.forest Menu.id Menu.parentId menus Menu.toResponse 3
        (Forest.roots Menu.parentId menus), ?_, ?_, ?_, ?_, ?_⟩
      · intro depth hdepth
        rw [← Forest.forest_of_le hrank (hroots 3 le_rfl) hdepth]
        exact read_built hids hplaced (hroots depth hdepth)
      · intro response
        rw [Forest.values_forest, List.mem_map]
        simp only [Forest.mem_below_roots_iff hrank fun menu _ => rank_lt menu]
      · rw [Forest.values_forest, List.map_map]
        refine (Forest.nodup_below_roots hrank hids fun menu _ => rank_lt menu).map_on ?_
        intro menu hmenu other hother heq
        rw [Forest.mem_below_roots_iff hrank fun menu _ => rank_lt menu] at hmenu hother
        exact List.inj_on_of_nodup_map hids hmenu.1 hother.1 heq
      · rw [Forest.forest, List.map_map]
        rfl
      · intro node hnode
        obtain ⟨row, -, hvalue, hchildren⟩ :=
          Forest.forest_complete hrank (hroots 3 le_rfl) hnode
        rw [hchildren, hvalue]
        rfl
  · refine ⟨iff_of_true ⟨detail, herror⟩ hmisplaced, ?_, ?_⟩
    · rw [herror]
      rintro e ⟨⟩
      exact ⟨detail, rfl⟩
    · rw [herror]
      intro tree h
      cases h

/-- A menu of the sidebar. -/
def sampleMenu (id : ℕ) (parentId : Option ℕ) (type : MenuTypeEnum)
    (h : type = .primary ↔ parentId = none) : Menu where
  id := natText id
  parentId := parentId.map natText
  code := ⟨js "MENU", by decide, by decide⟩
  type := type
  title := ⟨js "Menu", by decide, by decide, by decide⟩
  subtitle := none
  icon := none
  url := none
  order := 1
  isActive := true
  isNew := false
  rootIsPrimary := by rw [h, Option.map_eq_none_iff]

/-- Each menu before its parent, and one whose parent is missing. -/
def sampleMenus : List Menu :=
  [sampleMenu 3 (some 2) .tertiary (by decide), sampleMenu 2 (some 1) .secondary (by decide),
    sampleMenu 4 (some 9) .secondary (by decide), sampleMenu 1 none .primary (by decide)]

theorem build_keeps_reachable_out_of_order :
    ∃ tree forest, build sampleMenus = .ok tree ∧ tree.read 3 tree.roots = some forest ∧
      forest.map RoseTree.value = [(sampleMenu 1 none .primary (by decide)).toResponse] := by
  obtain ⟨tree, htree⟩ : ∃ tree, build sampleMenus = .ok tree := exists_eq_ok (by decide +kernel)
  obtain ⟨forest, hread, -, -, hroots, -⟩ :=
    (build_keeps_reachable sampleMenus (by decide)).2.2 tree htree
  exact ⟨tree, forest, htree, hread 3 le_rfl, hroots⟩

end MenuTreeBuilder

end KomiSaas.Menus
