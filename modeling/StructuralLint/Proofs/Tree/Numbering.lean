import StructuralLint.Proofs.Tree.Placed

/-!
# The table of a branch

What the tree of a branch says about a number is what the branch in that place says: its form
(`Placed.Lies.form?_toTree`), its children (`Placed.Lies.children_toTree`) and its parent
(`Placed.Lies.parent?_toTree`). Every number of the table is that of a branch in its place
(`Branch.exists_lies`), so that questions on the tree become questions on placed branches.
-/

namespace StructuralLint

namespace Placed

variable (tokenId : Nat → NodeId)

/-- The record that stands for the node in the table. -/
def record (placed : Placed) : Node :=
  match placed.branch with
  | .leaf token => ⟨.token token, [], []⟩
  | .node form fields _ =>
    let ids := placed.children.map fun child => (child.1, child.2.id)
    ⟨form, fields.tokens.map (fun (role, token) => (role, tokenId token.index)) ++
      Branch.named placed.id fields.roles (Branch.playersOf ids), placed.children.map (·.2.id)⟩

/-- The records of the branch, children before their parents. -/
def table (placed : Placed) : List Node := placed.branch.nodes tokenId placed.first

theorem childIds_eq (first : Nat) (children : List (Option Slot × Branch)) :
    Branch.childIds first children = (row first children).map fun child =>
      (child.1, child.2.id) := by
  induction children generalizing first with
  | nil => rfl
  | cons head rest ih => simp only [Branch.childIds, row, List.map_cons, ih, id]

theorem childNodes_eq (first : Nat) (children : List (Option Slot × Branch)) :
    Branch.childNodes tokenId first children =
      (row first children).flatMap (·.2.table tokenId) := by
  induction children generalizing first with
  | nil => rfl
  | cons head rest ih => simp only [Branch.childNodes, row, List.flatMap_cons, ih, table]

theorem table_eq (placed : Placed) :
    placed.table tokenId =
      placed.children.flatMap (·.2.table tokenId) ++ [placed.record tokenId] := by
  obtain ⟨first, branch⟩ := placed
  cases branch with
  | leaf token => rfl
  | node form fields children =>
      simp only [table, Branch.nodes, childNodes_eq, childIds_eq, children_node, id_node, record,
        List.map_map, Function.comp_def]

@[simp]
theorem length_table (placed : Placed) : (placed.table tokenId).length = placed.branch.size := by
  induction placed using Placed.induction with
  | step placed ih =>
      have numbers := congrArg List.length placed.range'_node
      rw [List.length_range', List.length_append, List.length_flatMap] at numbers
      rw [table_eq, List.length_append, List.length_flatMap, numbers]
      refine congrArg (· + 1) (congrArg List.sum (List.map_congr_left fun child member => ?_))
      rw [ih child member, List.length_range']

@[simp]
theorem form_record (placed : Placed) : (placed.record tokenId).form = placed.form := by
  obtain ⟨first, branch⟩ := placed
  cases branch <;> rfl

@[simp]
theorem children_record (placed : Placed) :
    (placed.record tokenId).children = placed.children.map (·.2.id) := by
  obtain ⟨first, branch⟩ := placed
  cases branch <;> rfl

variable {root placed : Placed} {above : List Placed}

theorem Lies.table_infix (lies : Lies root placed above) :
    ∃ before after, root.table tokenId = before ++ placed.table tokenId ++ after ∧
      placed.first = root.first + before.length := by
  induction lies with
  | root => exact ⟨[], [], by simp, by simp⟩
  | @child parent above slot child _ member ih =>
      obtain ⟨before, after, split, start⟩ := ih
      obtain ⟨first, branch⟩ := parent
      cases branch with
      | leaf token => simp at member
      | node form fields children =>
          obtain ⟨left, right, among, place⟩ := mem_row member
          have sized : ((row first left).flatMap (·.2.table tokenId)).length =
            Branch.sizes left := by
            have numbers := congrArg List.length (range'_sizes first left)
            simpa [List.length_flatMap] using numbers
          have inner : (Placed.mk first (.node form fields children)).table tokenId =
              (row first left).flatMap (·.2.table tokenId) ++ child.table tokenId ++
                ((row (first + Branch.sizes left + child.branch.size) right).flatMap
                  (·.2.table tokenId) ++
                  [(Placed.mk first (.node form fields children)).record tokenId]) := by
            rw [table_eq, children_node]
            simp only [among, row_append, row, List.flatMap_append, List.flatMap_cons,
              List.append_assoc]
            rw [show (Placed.mk (first + Branch.sizes left) child.branch) = child by
              rw [← show child.first = first + Branch.sizes left from place]]
          refine ⟨before ++ (row first left).flatMap (·.2.table tokenId),
            (row (first + Branch.sizes left + child.branch.size) right).flatMap
              (·.2.table tokenId) ++
                [(Placed.mk first (.node form fields children)).record tokenId] ++ after, ?_, ?_⟩
          · simp only [split, inner, List.append_assoc]
          · rw [List.length_append, sized, place, start, Nat.add_assoc]

theorem Lies.getElem?_table (lies : Lies root placed above) :
    (root.table tokenId)[placed.id - root.first]? = some (placed.record tokenId) := by
  obtain ⟨before, after, split, start⟩ := lies.table_infix tokenId
  have sized := congrArg List.length (placed.table_eq tokenId)
  rw [length_table, List.length_append, List.length_singleton] at sized
  rw [split, table_eq]
  have place : placed.id - root.first =
      before.length + (placed.children.flatMap (·.2.table tokenId)).length := by
    simp only [id]
    omega
  rw [place, List.append_assoc, List.getElem?_append_right (Nat.le_add_right _ _),
    Nat.add_sub_cancel_left, List.append_assoc, List.getElem?_append_right (Nat.le_refl _)]
  simp

/-- Every number but that of the branch itself is listed once as a child. -/
theorem listed_perm (placed : Placed) :
    ((placed.table tokenId).flatMap (·.children) ++ [placed.id]).Perm
      (List.range' placed.first placed.branch.size) := by
  induction placed using Placed.induction with
  | step placed ih =>
      rw [range'_node, table_eq, List.flatMap_append, List.flatMap_singleton, children_record]
      refine List.Perm.append_right _ ?_
      have own := List.Perm.flatMap_left _ ih
      refine List.Perm.trans ?_ own
      generalize placed.children = children
      induction children with
      | nil => exact .refl _
      | cons head rest ih =>
          simp only [List.flatMap_cons, List.map_cons, List.flatMap_append, List.append_assoc]
          refine List.Perm.append_left _ ?_
          exact List.perm_middle.trans (ih.cons _)

end Placed

/-! ### Parents -/

namespace Tree

private theorem getElem?_setChildren (parent : NodeId) (children : List NodeId)
    (table : Array (Option NodeId)) (id : Nat) :
    (children.foldl (fun table child => table.setIfInBounds child (some parent)) table)[id]? =
      if id ∈ children ∧ id < table.size then some (some parent) else table[id]? := by
  induction children generalizing table with
  | nil => simp
  | cons head rest ih =>
      rw [List.foldl_cons, ih, Array.getElem?_setIfInBounds, Array.size_setIfInBounds]
      by_cases same : head = id
      · subst same
        by_cases inside : head < table.size
        · simp [inside]
        · simp [inside]
      · simp [same, Ne.symm same]

private theorem size_setChildren (parent : NodeId) (children : List NodeId)
    (table : Array (Option NodeId)) :
    (children.foldl (fun table child => table.setIfInBounds child (some parent)) table).size =
      table.size := by
  induction children generalizing table with
  | nil => rfl
  | cons head rest ih => rw [List.foldl_cons, ih, Array.size_setIfInBounds]

/-- One step of `parentTable`: a node enters its number for its children. -/
def enterChildren (table : Array (Option NodeId)) (entry : Node × Nat) : Array (Option NodeId) :=
  entry.1.children.foldl (fun table child => table.setIfInBounds child (some entry.2)) table

private theorem size_enterChildren (entries : List (Node × Nat)) (table : Array (Option NodeId)) :
    (entries.foldl enterChildren table).size = table.size := by
  induction entries generalizing table with
  | nil => rfl
  | cons head rest ih => rw [List.foldl_cons, ih, enterChildren, size_setChildren]

private theorem getElem?_enterChildren_of_forall_not_mem {entries : List (Node × Nat)} {id : Nat}
    (absent : ∀ entry ∈ entries, id ∉ entry.1.children) (table : Array (Option NodeId)) :
    (entries.foldl enterChildren table)[id]? = table[id]? := by
  induction entries generalizing table with
  | nil => rfl
  | cons head rest ih =>
      rw [List.foldl_cons, ih fun entry member => absent entry (List.mem_cons_of_mem _ member),
        enterChildren, getElem?_setChildren]
      simp [absent head List.mem_cons_self]

theorem parentTable_eq (nodes : Array Node) :
    parentTable nodes =
      nodes.toList.zipIdx.foldl enterChildren (Array.replicate nodes.size none) := rfl

/-- In a table that lists a number once, the parent of the number is the node that lists it. -/
theorem parentTable_of_mem {nodes : List Node} {parent id : Nat} {node : Node}
    (once : (nodes.flatMap (·.children)).Nodup) (found : nodes[parent]? = some node)
    (member : id ∈ node.children) (inside : id < nodes.length) :
    (parentTable nodes.toArray)[id]? = some (some parent) := by
  obtain ⟨bound, rfl⟩ := List.getElem?_eq_some_iff.mp found
  have split : nodes = nodes.take parent ++ nodes[parent] :: nodes.drop (parent + 1) := by
    rw [List.getElem_cons_drop, List.take_append_drop]
  have later : ∀ entry ∈ (nodes.drop (parent + 1)).zipIdx (parent + 1), id ∉ entry.1.children := by
    rintro ⟨other, place⟩ among listed
    have below : other ∈ nodes.drop (parent + 1) := List.fst_mem_of_mem_zipIdx among
    rw [split, List.flatMap_append, List.flatMap_cons] at once
    have apart := (List.nodup_append.mp (List.nodup_append.mp once).2.1).2.2
    exact apart id member id (List.mem_flatMap.mpr ⟨other, below, listed⟩) rfl
  have numbered : nodes.zipIdx = (nodes.take parent).zipIdx ++
      (nodes[parent], parent) :: (nodes.drop (parent + 1)).zipIdx (parent + 1) := by
    conv_lhs => rw [split]
    rw [List.zipIdx_append, List.zipIdx_cons]
    simp [Nat.min_eq_left (Nat.le_of_lt bound)]
  rw [parentTable_eq, List.toList_toArray, numbered, List.foldl_append, List.foldl_cons,
    getElem?_enterChildren_of_forall_not_mem later, enterChildren, getElem?_setChildren]
  simp [size_enterChildren, member, inside]

/-- A number that no node lists has no parent. -/
theorem parentTable_of_not_mem {nodes : List Node} {id : Nat}
    (absent : id ∉ nodes.flatMap (·.children)) :
    (parentTable nodes.toArray)[id]?.join = none := by
  rw [parentTable_eq, getElem?_enterChildren_of_forall_not_mem]
  · simp only [Array.getElem?_replicate]
    split <;> rfl
  · rintro ⟨other, place⟩ among listed
    exact absent (List.mem_flatMap.mpr ⟨other, List.fst_mem_of_mem_zipIdx among, listed⟩)

end Tree

/-! ### The tree of a branch -/

namespace Branch

variable (branch : Branch)

/-- The branch in the place that it has in its tree. -/
def whole : Placed := ⟨0, branch⟩

/-- The number of the token with a given index. -/
def tokenNumber (index : Nat) : NodeId := (branch.tokenIds 0).toArray.getD index 0

theorem nodes_toTree : branch.toTree.nodes = (branch.whole.table branch.tokenNumber).toArray := rfl

theorem lies_whole : Placed.Lies branch.whole branch.whole [] := .root

theorem size_toTree : branch.toTree.nodes.size = branch.size := by
  rw [nodes_toTree, List.size_toArray, Placed.length_table]
  rfl

theorem root_toTree : branch.toTree.root = branch.whole.id := by
  rw [Tree.root, size_toTree]
  simp [Placed.id, whole]

/-- Every number of the tree is that of a branch in its place. -/
theorem exists_lies {id : NodeId} (inside : id < branch.size) :
    ∃ placed above, Placed.Lies branch.whole placed above ∧ placed.id = id := by
  have given : id ∈ List.range' branch.whole.first branch.whole.branch.size := by
    rw [List.mem_range'_1]
    exact ⟨Nat.zero_le _, by simpa [whole] using inside⟩
  rw [← branch.whole.preorder_ids_perm.mem_iff, List.mem_map] at given
  obtain ⟨placed, member, same⟩ := given
  obtain ⟨above, lies⟩ := Placed.mem_preorder_iff.mp member
  exact ⟨placed, above, lies, same⟩

end Branch

namespace Placed.Lies

variable {branch : Branch} {placed : Placed} {above : List Placed}
  (lies : Lies branch.whole placed above)
include lies

theorem id_lt_size : placed.id < branch.size := by
  simpa [Branch.whole] using lies.id_lt

theorem getElem?_toTree :
    branch.toTree.nodes[placed.id]? = some (placed.record branch.tokenNumber) := by
  rw [Branch.nodes_toTree, List.getElem?_toArray]
  exact lies.getElem?_table _

theorem form?_toTree : branch.toTree.form? placed.id = some placed.form := by
  simp [Tree.form?, lies.getElem?_toTree]

theorem children_toTree : branch.toTree.children placed.id = placed.children.map (·.2.id) := by
  simp [Tree.children, lies.getElem?_toTree]

theorem parent?_toTree : branch.toTree.parent? placed.id = above.head?.map (·.id) := by
  have once : ((branch.whole.table branch.tokenNumber).flatMap (·.children)).Nodup :=
    (List.nodup_append.mp ((branch.whole.listed_perm branch.tokenNumber).nodup_iff.mpr
      List.nodup_range')).1
  cases lies with
  | root =>
      refine Tree.parentTable_of_not_mem fun listed => ?_
      have apart := (List.nodup_append.mp ((branch.whole.listed_perm
        branch.tokenNumber).nodup_iff.mpr List.nodup_range')).2.2
      exact apart _ listed _ (List.mem_singleton_self _) rfl
  | @child parent above slot child upper member =>
      have entry : branch.toTree.parents[placed.id]? = some (some parent.id) := by
        refine Tree.parentTable_of_mem once (upper.getElem?_table _) ?_ ?_
        · rw [children_record]
          exact List.mem_map.mpr ⟨_, member, rfl⟩
        · exact Nat.lt_of_lt_of_eq (Lies.child upper member).id_lt_size
            (length_table branch.tokenNumber branch.whole).symm
      simp [Tree.parent?, entry]

end Placed.Lies

/-- A node of the tree is a branch in its place. -/
theorem Tree.exists_lies_of_form? {branch : Branch} {node : NodeId} {form : Form}
    (found : branch.toTree.form? node = some form) :
    ∃ placed above, Placed.Lies branch.whole placed above ∧ placed.id = node ∧
      placed.form = form := by
  have inside : node < branch.size := by
    by_contra outside
    rw [Tree.form?,
      Array.getElem?_eq_none (by rw [Branch.size_toTree]; exact Nat.le_of_not_lt outside)]
      at found
    cases found
  obtain ⟨placed, above, lies, rfl⟩ := Branch.exists_lies branch inside
  rw [lies.form?_toTree, Option.some.injEq] at found
  exact ⟨placed, above, lies, rfl, found⟩

end StructuralLint
