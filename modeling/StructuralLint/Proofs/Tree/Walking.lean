import StructuralLint.Proofs.Tree.Numbering
import StructuralLint.Tree.Walk

/-!
# Walks over the tree of a branch

The walks of a tree keep a stack and a bound for their run. Over the tree of a branch the bound
is never reached: `walk` gives the branches below a placed branch in order
(`Placed.Lies.walk_toTree`), `tokens` the leaves among them (`Placed.Lies.tokens_toTree`), and the
search upwards is a search in the list of branches above (`Placed.Lies.firstAncestor_toTree`).
-/

namespace StructuralLint

/-- A walk that keeps some of the nodes visits them all. -/
theorem Tree.collect_eq_filter_visit (tree : Tree) (satisfies : NodeId → Bool) (fuel : Nat)
    (stack : List NodeId) :
    tree.collect satisfies fuel stack = (tree.visit fuel stack).filter satisfies := by
  induction fuel generalizing stack with
  | zero => rfl
  | succ fuel ih =>
      cases stack with
      | nil => rfl
      | cons id stack =>
          rw [collect, visit, List.filter_cons, ih]

namespace Branch

/-- No node but the leaves is a token. -/
inductive TokensAreLeaves : Branch → Prop
  | leaf (token : Token) : TokensAreLeaves (.leaf token)
  | node {form : Form} {fields : Fields} {children : List (Option Slot × Branch)} :
      (∀ token, form ≠ .token token) → (∀ child ∈ children, TokensAreLeaves child.2) →
        TokensAreLeaves (.node form fields children)

end Branch

namespace Placed

/-- Whether the branch is a token that was handed out. -/
def isLeaf (placed : Placed) : Bool :=
  match placed.branch with
  | .leaf _ => true
  | .node .. => false

/-- The tokens of a branch in order. -/
def leaves (placed : Placed) : List Placed := placed.preorder.filter (·.isLeaf)

theorem children_of_isLeaf {placed : Placed} (leaf : placed.isLeaf = true) :
    placed.children = [] := by
  obtain ⟨first, branch⟩ := placed
  cases branch with
  | leaf token => rfl
  | node form fields children => simp [isLeaf] at leaf

theorem leaves_of_isLeaf {placed : Placed} (leaf : placed.isLeaf = true) :
    placed.leaves = [placed] := by
  rw [leaves, preorder_eq, children_of_isLeaf leaf]
  simp [leaf]

theorem leaves_of_not_isLeaf {placed : Placed} (inner : placed.isLeaf = false) :
    placed.leaves = placed.children.flatMap (·.2.leaves) := by
  simp only [leaves]
  rw [preorder_eq, List.filter_cons_of_neg (by simp [inner]), List.filter_flatMap]

@[simp]
theorem length_preorder (placed : Placed) : placed.preorder.length = placed.branch.size := by
  have numbers := placed.preorder_ids_perm.length_eq
  simpa using numbers

theorem tokensAreLeaves_child {placed child : Placed} {slot : Option Slot}
    (sound : placed.branch.TokensAreLeaves) (member : (slot, child) ∈ placed.children) :
    child.branch.TokensAreLeaves := by
  obtain ⟨first, branch⟩ := placed
  cases sound with
  | leaf token => simp at member
  | node _ below =>
      obtain ⟨left, right, split, -⟩ := mem_row member
      exact below (slot, child.branch) (by simp [split])

namespace Lies

variable {root placed : Placed} {above : List Placed}

theorem tokensAreLeaves (lies : Lies root placed above) (sound : root.branch.TokensAreLeaves) :
    placed.branch.TokensAreLeaves := by
  induction lies with
  | root => exact sound
  | child _ member ih => exact tokensAreLeaves_child ih member

/-- With every branch further up the numbers grow, so that the way up is shorter than the last
number. -/
theorem length_above_le (lies : Lies root placed above) : placed.id + above.length ≤ root.id := by
  induction lies with
  | root => simp
  | child _ member ih =>
      have smaller := id_child_lt member
      rw [List.length_cons]
      omega

variable {branch : Branch}

theorem isToken_toTree (lies : Lies branch.whole placed above)
    (sound : branch.TokensAreLeaves) : branch.toTree.isToken placed.id = placed.isLeaf := by
  have own : placed.branch.TokensAreLeaves := lies.tokensAreLeaves sound
  rw [Tree.isToken, Tree.token?, lies.form?_toTree]
  obtain ⟨first, branch⟩ := placed
  cases own with
  | leaf token => rfl
  | @node form _ _ other _ =>
      cases form with
      | token token => exact absurd rfl (other token)
      | _ => rfl

/-- The number of visits of a walk is the number of nodes. -/
theorem weightTo_toTree (lies : Lies branch.whole placed above) {depth : Nat}
    (deep : placed.branch.size ≤ depth) :
    branch.toTree.weightTo depth placed.id = placed.branch.size := by
  induction placed using Placed.induction generalizing depth above with
  | step placed ih =>
      have positive := placed.branch.size_pos
      obtain ⟨depth, rfl⟩ : ∃ less, depth = less + 1 := ⟨depth - 1, by omega⟩
      have total := congrArg List.length placed.preorder_eq
      rw [length_preorder, List.length_cons, List.length_flatMap] at total
      have each : ∀ child ∈ placed.children,
          branch.toTree.weightTo depth child.2.id = child.2.preorder.length := by
        intro child member
        have smaller := size_child_lt member
        rw [ih child member (.child lies member) (by omega), length_preorder]
      rw [Tree.weightTo, lies.children_toTree, List.map_map]
      have weights := List.map_congr_left each
      simp only [Function.comp_def, weights, total, List.sum]

theorem weight_toTree (lies : Lies branch.whole placed above) :
    branch.toTree.weight placed.id = placed.branch.size := by
  refine lies.weightTo_toTree ?_
  have positive := placed.branch.size_pos
  simp only [id]
  omega

end Lies

/-- Numbers of branches that lie in the tree of a branch, as a walk has them on its stack. -/
def Stacked (branch : Branch) (stack : List Placed) : Prop :=
  ∀ placed ∈ stack, ∃ above, Lies branch.whole placed above

namespace Stacked

variable {branch : Branch} {placed : Placed} {stack : List Placed}

theorem tail (stacked : Stacked branch (placed :: stack)) : Stacked branch stack :=
  fun _ member => stacked _ (List.mem_cons_of_mem _ member)

theorem push (stacked : Stacked branch (placed :: stack)) :
    Stacked branch (placed.children.map (·.2) ++ stack) := by
  intro below member
  rcases List.mem_append.mp member with child | later
  · obtain ⟨above, lies⟩ := stacked _ List.mem_cons_self
    obtain ⟨⟨slot, child⟩, among, rfl⟩ := List.mem_map.mp child
    exact ⟨placed :: above, .child lies among⟩
  · exact stacked.tail _ later

/-- A visit takes one node off what is left to visit. -/
theorem flatMap_push (placed : Placed) (stack : List Placed) :
    (placed :: stack).flatMap preorder =
      placed :: (placed.children.map (·.2) ++ stack).flatMap preorder := by
  rw [List.flatMap_cons, preorder_eq, List.flatMap_append, List.flatMap_map, List.cons_append]

theorem visit_toTree (stacked : Stacked branch stack) (fuel : Nat)
    (enough : (stack.flatMap preorder).length ≤ fuel) :
    branch.toTree.visit fuel (stack.map (·.id)) = (stack.flatMap preorder).map (·.id) := by
  induction fuel generalizing stack with
  | zero =>
      have finished : stack.flatMap preorder = [] := List.length_eq_zero_iff.mp (by omega)
      simp [Tree.visit, finished]
  | succ fuel ih =>
      cases stack with
      | nil => simp [Tree.visit]
      | cons placed stack =>
          obtain ⟨above, lies⟩ := stacked placed List.mem_cons_self
          rw [flatMap_push, List.length_cons] at enough
          rw [flatMap_push, List.map_cons, List.map_cons, Tree.visit, lies.children_toTree,
            ← ih stacked.push (by omega), List.map_append, List.map_map]
          rfl

theorem gather_toTree (stacked : Stacked branch stack) (sound : branch.TokensAreLeaves)
    (fuel : Nat) (enough : (stack.flatMap preorder).length ≤ fuel) :
    branch.toTree.gather fuel (stack.map (·.id)) = (stack.flatMap leaves).map (·.id) := by
  induction fuel generalizing stack with
  | zero =>
      cases stack with
      | nil => rfl
      | cons placed stack =>
          rw [flatMap_push, List.length_cons] at enough
          omega
  | succ fuel ih =>
      cases stack with
      | nil => simp [Tree.gather]
      | cons placed stack =>
          obtain ⟨above, lies⟩ := stacked placed List.mem_cons_self
          rw [flatMap_push, List.length_cons] at enough
          rw [List.map_cons, Tree.gather, lies.isToken_toTree sound]
          cases leaf : placed.isLeaf with
          | true =>
              rw [children_of_isLeaf leaf, List.map_nil, List.nil_append] at enough
              rw [if_pos rfl, ih stacked.tail (by omega), List.flatMap_cons, leaves_of_isLeaf leaf]
              rfl
          | false =>
              have rest := ih stacked.push (by omega)
              rw [List.map_append, List.map_map, List.flatMap_append, List.flatMap_map] at rest
              rw [if_neg (by simp), lies.children_toTree, List.flatMap_cons,
                leaves_of_not_isLeaf leaf]
              exact rest

end Stacked

namespace Lies

variable {branch : Branch} {placed : Placed} {above : List Placed}
  (lies : Lies branch.whole placed above)
include lies

theorem stacked : Stacked branch [placed] := by
  intro other member
  rw [List.mem_singleton.mp member]
  exact ⟨above, lies⟩

/-- **The walk is the order of the branches.** -/
theorem walk_toTree : branch.toTree.walk placed.id = placed.preorder.map (·.id) := by
  have visited := lies.stacked.visit_toTree placed.branch.size (by simp)
  rw [Tree.walk, lies.weight_toTree]
  simpa using visited

/-- The nodes below a node that satisfy a predicate, in the order of the branches. -/
theorem descendants_toTree (satisfies : NodeId → Bool) :
    branch.toTree.descendants placed.id satisfies =
      ((placed.children.flatMap (·.2.preorder)).map (·.id)).filter satisfies := by
  have stacked := Stacked.push lies.stacked
  rw [List.append_nil] at stacked
  have counted := congrArg List.length placed.preorder_eq
  rw [length_preorder, List.length_cons] at counted
  have visited := stacked.visit_toTree placed.branch.size (by rw [List.flatMap_map]; omega)
  rw [List.flatMap_map, List.map_map] at visited
  rw [Tree.descendants, Tree.collect_eq_filter_visit, lies.weight_toTree, lies.children_toTree,
    ← visited]
  rfl

/-- The tokens of a node are the leaves of its branch. -/
theorem tokens_toTree (sound : branch.TokensAreLeaves) :
    branch.toTree.tokens placed.id = placed.leaves.map (·.id) := by
  rw [Tree.tokens, lies.isToken_toTree sound]
  cases leaf : placed.isLeaf with
  | true => simp [leaves_of_isLeaf leaf]
  | false =>
      have stacked := Stacked.push lies.stacked
      rw [List.append_nil] at stacked
      have counted := congrArg List.length placed.preorder_eq
      rw [length_preorder, List.length_cons] at counted
      have gathered := stacked.gather_toTree sound placed.branch.size
        (by rw [List.flatMap_map]; omega)
      rw [List.flatMap_map, List.map_map] at gathered
      rw [if_neg (by simp), lies.weight_toTree, lies.children_toTree, leaves_of_not_isLeaf leaf]
      exact gathered

theorem climb_toTree (satisfies : NodeId → Bool) (fuel : Nat) (enough : above.length ≤ fuel) :
    branch.toTree.climb satisfies fuel (branch.toTree.parent? placed.id) =
      (above.map (·.id)).find? satisfies := by
  rw [lies.parent?_toTree]
  induction lies generalizing fuel with
  | root => cases fuel <;> rfl
  | @child parent above slot child upper member ih =>
      obtain ⟨fuel, rfl⟩ : ∃ less, fuel = less + 1 := ⟨fuel - 1, by
        rw [List.length_cons] at enough
        omega⟩
      have next := ih fuel (by simpa using enough)
      rw [← upper.parent?_toTree] at next
      simp only [List.head?_cons, Option.map_some, Tree.climb, List.map_cons, List.find?_cons, next]
      cases satisfies parent.id <;> rfl

/-- A search upwards goes through the branches above, the nearest first. -/
theorem firstAncestor_toTree (satisfies : NodeId → Bool) :
    branch.toTree.firstAncestor placed.id satisfies = (above.map (·.id)).find? satisfies := by
  refine lies.climb_toTree satisfies _ ?_
  have short := lies.length_above_le
  have positive := branch.size_pos
  rw [Branch.size_toTree]
  simp only [id, Branch.whole] at short
  omega

end Lies

end Placed

end StructuralLint
