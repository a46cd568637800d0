import Mathlib.Data.List.Nodup
import Mathlib.Data.List.Perm.Basic
import StructuralLint.Tree.Branch

/-!
# Branches in their places

The nodes of a branch are numbered from some number on, children before their parents. A
`Placed` branch remembers that number, so that its own number, its children in their places and
the record that stands for it in the table can be told from it alone. `Placed.Lies` says that a
placed branch lies below another one and which branches stand above it.

The numbers of a placed branch are an interval, and every number of the interval is given out
once (`Placed.preorder_ids_perm`).
-/

namespace StructuralLint

namespace Branch

/-- A property of branches that passes from the children to their node holds of all branches. -/
@[induction_eliminator]
theorem induction {motive : Branch → Prop} (leaf : ∀ token, motive (.leaf token))
    (node : ∀ form fields children, (∀ child ∈ children, motive child.2) →
      motive (.node form fields children)) : ∀ branch, motive branch
  | .leaf token => leaf token
  | .node form fields children =>
    node form fields children fun child _ => induction leaf node child.2
termination_by branch => sizeOf branch
decreasing_by
  obtain ⟨slot, child⟩ := child
  have smaller := List.sizeOf_lt_of_mem ‹(slot, child) ∈ children›
  simp only [Prod.mk.sizeOf_spec, Branch.node.sizeOf_spec] at *
  omega

theorem size_pos (branch : Branch) : 0 < branch.size := by
  cases branch <;> simp [size]

theorem sizes_append (left right : List (Option Slot × Branch)) :
    sizes (left ++ right) = sizes left + sizes right := by
  induction left with
  | nil => simp [sizes]
  | cons head left ih =>
      simp only [List.cons_append, sizes, ih]
      omega

end Branch

/-- A branch whose nodes are numbered from `first` on. -/
structure Placed where
  first : Nat
  branch : Branch

namespace Placed

/-- The number of the node itself, the last of the branch. -/
def id (placed : Placed) : Nat := placed.first + placed.branch.size - 1

/-- What the node is. -/
def form (placed : Placed) : Form :=
  match placed.branch with
  | .leaf token => .token token
  | .node form _ _ => form

/-- Branches in their places, side by side from `first` on. -/
def row (first : Nat) : List (Option Slot × Branch) → List (Option Slot × Placed)
  | [] => []
  | (slot, child) :: rest => (slot, ⟨first, child⟩) :: row (first + child.size) rest

/-- The children with their slots. -/
def children (placed : Placed) : List (Option Slot × Placed) :=
  match placed.branch with
  | .leaf _ => []
  | .node _ _ children => row placed.first children

@[simp]
theorem form_leaf (first : Nat) (token : Token) :
    (Placed.mk first (.leaf token)).form = .token token := rfl

@[simp]
theorem form_node (first : Nat) (form : Form) (fields : Fields)
    (children : List (Option Slot × Branch)) :
    (Placed.mk first (.node form fields children)).form = form := rfl

@[simp]
theorem id_node (first : Nat) (form : Form) (fields : Fields)
    (children : List (Option Slot × Branch)) :
    (Placed.mk first (.node form fields children)).id = first + Branch.sizes children := rfl

@[simp]
theorem children_leaf (first : Nat) (token : Token) :
    (Placed.mk first (.leaf token)).children = [] := rfl

@[simp]
theorem children_node (first : Nat) (form : Form) (fields : Fields)
    (children : List (Option Slot × Branch)) :
    (Placed.mk first (.node form fields children)).children = row first children := rfl

theorem row_append (first : Nat) (left right : List (Option Slot × Branch)) :
    row first (left ++ right) = row first left ++ row (first + Branch.sizes left) right := by
  induction left generalizing first with
  | nil => simp [row, Branch.sizes]
  | cons head left ih =>
      simp only [List.cons_append, row, ih, Branch.sizes, Nat.add_assoc]

/-- A child stands after everything in the children to its left. -/
theorem mem_row {first : Nat} {branches : List (Option Slot × Branch)} {slot : Option Slot}
    {child : Placed} (member : (slot, child) ∈ row first branches) :
    ∃ left right, branches = left ++ (slot, child.branch) :: right ∧
      child.first = first + Branch.sizes left := by
  induction branches generalizing first with
  | nil => simp [row] at member
  | cons head rest ih =>
      rcases List.mem_cons.mp member with same | later
      · cases same
        exact ⟨[], rest, rfl, by simp [Branch.sizes]⟩
      · obtain ⟨left, right, split, place⟩ := ih later
        refine ⟨head :: left, right, by rw [split, List.cons_append], ?_⟩
        rw [place, Branch.sizes, Nat.add_assoc]

theorem map_branch_row (first : Nat) (branches : List (Option Slot × Branch)) :
    (row first branches).map (fun child => (child.1, child.2.branch)) = branches := by
  induction branches generalizing first with
  | nil => rfl
  | cons head rest ih => simp only [row, List.map_cons, ih]

/-- A property of placed branches that passes from the children to their node holds of all. -/
@[elab_as_elim]
theorem induction {motive : Placed → Prop}
    (step : ∀ placed : Placed, (∀ child ∈ placed.children, motive child.2) → motive placed)
    (placed : Placed) : motive placed := by
  obtain ⟨first, branch⟩ := placed
  induction branch generalizing first with
  | leaf token =>
      apply step
      intro child member
      simp at member
  | node form fields children ih =>
      apply step
      rintro ⟨slot, ⟨place, child⟩⟩ member
      obtain ⟨left, right, split, -⟩ := mem_row member
      exact ih (slot, child) (by simp [split]) place

/-! ### Below a placed branch -/

/-- `Lies root placed above`: the placed branch is `root` or lies below it, and `above` are the
branches above it, the nearest first. -/
inductive Lies (root : Placed) : Placed → List Placed → Prop
  | root : Lies root root []
  | child {parent : Placed} {above : List Placed} {slot : Option Slot} {child : Placed} :
      Lies root parent above → (slot, child) ∈ parent.children →
        Lies root child (parent :: above)

namespace Lies

variable {root placed below : Placed} {above between : List Placed}

theorem trans (lower : Lies placed below between) (upper : Lies root placed above) :
    Lies root below (between ++ above) := by
  induction lower with
  | root => exact upper
  | child _ member ih => exact .child ih member

end Lies

/-! ### In order -/

/-- A branch and everything below it, every node before its children. -/
def preorder (placed : Placed) : List Placed :=
  go placed.first placed.branch
where
  go (first : Nat) : Branch → List Placed
    | .leaf token => [⟨first, .leaf token⟩]
    | .node form fields children => ⟨first, .node form fields children⟩ :: goAll first children
  goAll (first : Nat) : List (Option Slot × Branch) → List Placed
    | [] => []
    | (_, child) :: rest => go first child ++ goAll (first + child.size) rest

theorem preorder_eq (placed : Placed) :
    placed.preorder = placed :: placed.children.flatMap (·.2.preorder) := by
  obtain ⟨first, branch⟩ := placed
  cases branch with
  | leaf token => simp [preorder, preorder.go]
  | node form fields children =>
      simp only [preorder, preorder.go, children_node, List.cons.injEq, true_and]
      induction children generalizing first with
      | nil => simp [preorder.goAll, row]
      | cons head rest ih => simp [preorder.goAll, row, ih]

theorem mem_preorder_self (placed : Placed) : placed ∈ placed.preorder := by
  rw [preorder_eq]
  exact List.mem_cons_self

theorem mem_preorder_iff {placed below : Placed} :
    below ∈ placed.preorder ↔ ∃ above, Lies placed below above := by
  constructor
  · intro member
    induction placed using Placed.induction with
    | step placed ih =>
        rw [preorder_eq, List.mem_cons, List.mem_flatMap] at member
        rcases member with rfl | ⟨⟨slot, child⟩, among, member⟩
        · exact ⟨[], .root⟩
        · obtain ⟨above, lies⟩ := ih _ among member
          exact ⟨above ++ [placed], lies.trans (.child .root among)⟩
  · rintro ⟨above, lies⟩
    -- the step from a parent to its child extends the list at the bottom, so the induction
    -- carries that whatever is below a listed branch is listed too
    suffices contained : ∀ lower ∈ below.preorder, lower ∈ placed.preorder from
      contained _ below.mem_preorder_self
    induction lies with
    | root => exact fun _ member => member
    | @child parent above slot child lies member ih =>
        intro lower low
        apply ih
        rw [preorder_eq parent]
        exact List.mem_cons_of_mem _ (List.mem_flatMap.mpr ⟨_, member, low⟩)

/-- What is below a branch that lies in another one is listed there in one piece. -/
theorem Lies.preorder_infix {root placed : Placed} {above : List Placed}
    (lies : Lies root placed above) : placed.preorder <:+: root.preorder := by
  induction lies with
  | root => exact List.infix_rfl
  | @child parent above slot child _ member ih =>
      refine List.IsInfix.trans ?_ ih
      rw [preorder_eq parent]
      obtain ⟨before, after, split⟩ := List.append_of_mem member
      refine ⟨parent :: before.flatMap (·.2.preorder), after.flatMap (·.2.preorder), ?_⟩
      simp [split]

/-! ### The numbers of a branch -/

theorem range'_sizes (first : Nat) (branches : List (Option Slot × Branch)) :
    (row first branches).flatMap (fun child => List.range' child.2.first child.2.branch.size) =
      List.range' first (Branch.sizes branches) := by
  induction branches generalizing first with
  | nil => rfl
  | cons head rest ih =>
      simp only [row, List.flatMap_cons, ih, Branch.sizes]
      exact List.range'_append_1

theorem range'_node (placed : Placed) :
    List.range' placed.first placed.branch.size =
      placed.children.flatMap (fun child => List.range' child.2.first child.2.branch.size) ++
        [placed.id] := by
  obtain ⟨first, branch⟩ := placed
  cases branch with
  | leaf token => simp [id, Branch.size]
  | node form fields children =>
      simp only [children_node, range'_sizes, id, Branch.size, List.range'_1_concat]
      congr 2

/-- **Every number is given out once.** The numbers of a branch and of what is below it are those
of an interval. -/
theorem preorder_ids_perm (placed : Placed) :
    (placed.preorder.map (·.id)).Perm (List.range' placed.first placed.branch.size) := by
  induction placed using Placed.induction with
  | step placed ih =>
      rw [preorder_eq, range'_node, List.map_cons, List.map_flatMap]
      exact ((List.Perm.flatMap_left _ ih).cons _).trans (List.perm_append_singleton _ _).symm

theorem preorder_ids_nodup (placed : Placed) : (placed.preorder.map (·.id)).Nodup :=
  placed.preorder_ids_perm.nodup_iff.mpr List.nodup_range'

/-- A number belongs to one branch only. -/
theorem Lies.eq_of_id {root left right : Placed} {aboveLeft aboveRight : List Placed}
    (lies : Lies root left aboveLeft) (lies' : Lies root right aboveRight)
    (same : left.id = right.id) : left = right :=
  List.inj_on_of_nodup_map root.preorder_ids_nodup (mem_preorder_iff.mpr ⟨_, lies⟩)
    (mem_preorder_iff.mpr ⟨_, lies'⟩) same

theorem Lies.id_lt {root placed : Placed} {above : List Placed} (lies : Lies root placed above) :
    placed.id < root.first + root.branch.size := by
  have listed : placed.id ∈ root.preorder.map (·.id) :=
    List.mem_map_of_mem (mem_preorder_iff.mpr ⟨_, lies⟩)
  exact (List.mem_range'_1.mp (root.preorder_ids_perm.mem_iff.mp listed)).2

/-- Children have smaller numbers than their parents. -/
theorem id_child_lt {parent child : Placed} {slot : Option Slot}
    (member : (slot, child) ∈ parent.children) : child.id < parent.id := by
  obtain ⟨first, branch⟩ := parent
  cases branch with
  | leaf token => simp at member
  | node form fields children =>
      obtain ⟨left, right, split, place⟩ := mem_row member
      have positive := child.branch.size_pos
      simp only [id, Branch.size, split, Branch.sizes_append, Branch.sizes, place]
      omega

theorem size_child_lt {parent child : Placed} {slot : Option Slot}
    (member : (slot, child) ∈ parent.children) : child.branch.size < parent.branch.size := by
  obtain ⟨first, branch⟩ := parent
  cases branch with
  | leaf token => simp at member
  | node form fields children =>
      obtain ⟨left, right, split, -⟩ := mem_row member
      simp only [Branch.size, split, Branch.sizes_append, Branch.sizes]
      omega

/-- The children of a branch have different numbers. -/
theorem children_ids_nodup (placed : Placed) : (placed.children.map (·.2.id)).Nodup := by
  have listed := placed.preorder_ids_nodup
  rw [preorder_eq, List.map_cons, List.nodup_cons, List.map_flatMap] at listed
  refine listed.2.sublist ?_
  generalize placed.children = children
  induction children with
  | nil => exact .refl _
  | cons head rest ih =>
      rw [List.map_cons, List.flatMap_cons, preorder_eq, List.map_cons, List.cons_append]
      exact (ih.trans (List.sublist_append_right _ _)).cons_cons _

end Placed

end StructuralLint
