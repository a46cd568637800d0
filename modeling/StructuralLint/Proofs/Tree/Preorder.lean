import Mathlib.Algebra.GroupWithZero.Nat
import Mathlib.Order.Nat
import StructuralLint.Tree.Walk

/-!
# Walks in pre-order

A walk keeps a stack, and it stops after as many visits as `Tree.weight` counts. Where children have
smaller numbers than their parents this bound is exact (`Tree.Descending.weight_eq`), and a walk is
a node followed by the walks of its children in order (`Tree.Descending.walk_eq`).
-/

namespace StructuralLint.Tree

/-- Children stand before their parents in the table of nodes. -/
def Descending (tree : Tree) : Prop := ∀ id, ∀ child ∈ tree.children id, child < id

/-- Only the nodes of the table have children. -/
theorem descending_of_forall {tree : Tree}
    (inside : ∀ id < tree.nodes.size, ∀ child ∈ tree.children id, child < id) :
    tree.Descending := by
  intro id child member
  by_cases listed : id < tree.nodes.size
  · exact inside id listed child member
  · unfold children at member
    rw [Array.getElem?_eq_none (Nat.not_lt.mp listed)] at member
    cases member

namespace Descending

variable {tree : Tree} (descending : tree.Descending)
include descending

/-- Levels that no path down reaches do not count. -/
theorem weightTo_eq {depth : Nat} {id : NodeId} (deep : id < depth) :
    tree.weightTo depth id = tree.weight id := by
  induction id using Nat.strong_induction_on generalizing depth with
  | h id ih =>
      obtain ⟨depth, rfl⟩ := Nat.exists_eq_add_one.mpr (Nat.zero_lt_of_lt deep)
      have each : ∀ child ∈ tree.children id,
          tree.weightTo depth child = tree.weightTo id child := by
        intro child member
        have smaller := descending id child member
        have deeper : child < depth := Nat.lt_of_lt_of_le smaller (Nat.le_of_lt_succ deep)
        rw [ih child smaller deeper, ih child smaller smaller]
      unfold weight
      rw [weightTo, weightTo, List.map_congr_left each]

/-- A walk visits the node and what the walks of its children visit. -/
theorem weight_eq (id : NodeId) :
    tree.weight id = ((tree.children id).map tree.weight).sum + 1 := by
  have each : ∀ child ∈ tree.children id, tree.weightTo id child = tree.weight child :=
    fun child member => descending.weightTo_eq (descending id child member)
  unfold weight
  rw [weightTo, List.map_congr_left each]
  rfl

/-- A stack with enough visits left gives the walks of its nodes. -/
theorem visit_eq (fuel : Nat) (stack : List NodeId) (enough : (stack.map tree.weight).sum ≤ fuel) :
    tree.visit fuel stack = stack.flatMap tree.walk := by
  induction fuel using Nat.strong_induction_on generalizing stack with
  | h fuel ih =>
      cases stack with
      | nil => cases fuel <;> rfl
      | cons id stack =>
          rw [List.map_cons, List.sum_cons, descending.weight_eq] at enough
          obtain ⟨fuel, rfl⟩ : ∃ less, fuel = less + 1 := ⟨fuel - 1, by omega⟩
          -- the walk of the node itself has just enough visits for its children
          have own : tree.walk id = id :: (tree.children id).flatMap tree.walk := by
            unfold walk
            rw [descending.weight_eq, visit, List.append_nil]
            exact congrArg (id :: ·) (ih _ (by omega) _ le_rfl)
          have rest := ih fuel (by omega) (tree.children id ++ stack) (by
            rw [List.map_append, List.sum_append]
            omega)
          rw [visit, rest, List.flatMap_append, List.flatMap_cons, own, List.cons_append]

/-- **A walk is in pre-order.** -/
theorem walk_eq (id : NodeId) : tree.walk id = id :: (tree.children id).flatMap tree.walk := by
  have visited := descending.visit_eq _ (tree.children id) le_rfl
  rw [← visited, walk, descending.weight_eq, visit, List.append_nil]

end Descending

end StructuralLint.Tree
