import StructuralLint.Check.BareRaise
import StructuralLint.Proofs.Tree.Statements

/-!
# What encloses a statement

The rule on bare raises looks upwards: it asks for the nearest clause, function or class above a
node. A descent from the file carries an `Enclosure` instead and changes it at every node on the
way down. In the tree of a program both say the same (`BareRaise.isWithin_eq_enclosure`).
-/

namespace StructuralLint

/-- Every function of the tree has kept its name. -/
def Tree.FunctionsNamed (tree : Tree) : Prop :=
  ∀ id, tree.isFunction id = true → (tree.attribute? id .name).isSome = true

theorem Tree.functionsNamed_iff (tree : Tree) :
    tree.FunctionsNamed ↔ ∀ id ∈ List.range tree.nodes.size,
      tree.isFunction id = true → (tree.attribute? id .name).isSome = true := by
  refine ⟨fun named id _ => named id, fun named id function => ?_⟩
  refine named id (List.mem_range.mpr ?_) function
  by_contra outside
  rw [Tree.isFunction, Tree.form?, Array.getElem?_eq_none (Nat.le_of_not_lt outside)] at function
  cases function

instance (tree : Tree) : Decidable tree.FunctionsNamed :=
  decidable_of_iff _ tree.functionsNamed_iff.symm

namespace BareRaise

/-- What a descent from the file knows about the blocks around it. -/
structure Enclosure where
  inExcept : Bool
  inFinally : Bool
  inExit : Bool
deriving DecidableEq, Repr

namespace Enclosure

/-- Nothing encloses the statements of the file. -/
def file : Enclosure := ⟨false, false, false⟩

/-- Into an `except` clause. -/
def enterHandler (around : Enclosure) : Enclosure := { around with inExcept := true }

/-- Into a `finally` block. -/
def enterFinally (around : Enclosure) : Enclosure := { around with inFinally := true }

/-- A function is a context of its own, but what leaves a context is never left. -/
def enterFunction (name : String) (around : Enclosure) : Enclosure :=
  ⟨false, false, around.inExit || name = exitName⟩

/-- Into a class, which leaves blocks but not the function around it. -/
def enterClass (around : Enclosure) : Enclosure :=
  { around with inExcept := false, inFinally := false }

/-- Whether a bare `raise` is reported here. -/
def reports (around : Enclosure) : Bool := around.inFinally && !around.inExcept && !around.inExit

end Enclosure

/-- The enclosure below a node. -/
def enter (placed : Placed) (around : Enclosure) : Enclosure :=
  match placed.form with
  | .exceptClause _ => around.enterHandler
  | .finallyClause => around.enterFinally
  | .function _ => around.enterFunction placed.definedName
  | .classDef => around.enterClass
  | _ => around

/-- The enclosure below branches that stand above each other, the nearest first. -/
def enclosure (above : List Placed) (around : Enclosure) : Enclosure := above.foldr enter around

end BareRaise

namespace Placed.Lies

variable {branch : Branch} {parent child : Placed} {above : List Placed} {slot : Option Slot}

/-- A search upwards looks at the parent first. -/
theorem firstAncestor_child (lies : Lies branch.whole parent above)
    (member : (slot, child) ∈ parent.children) (satisfies : NodeId → Bool) :
    branch.toTree.firstAncestor child.id satisfies =
      if satisfies parent.id then some parent.id
      else branch.toTree.firstAncestor parent.id satisfies := by
  rw [(Lies.child lies member).firstAncestor_toTree, lies.firstAncestor_toTree, List.map_cons,
    List.find?_cons]
  cases satisfies parent.id <;> rfl

theorem isKind_toTree (lies : Lies branch.whole parent above) (kinds : List Kind) :
    branch.toTree.isKind kinds parent.id = kinds.contains parent.form.kind := by
  simp [Tree.isKind, Tree.kind?, lies.form?_toTree]

/-- A function that has kept its name has it as an attribute. -/
theorem attributeName?_toTree (lies : Lies branch.whole parent above) (shaped : parent.Shaped)
    (named : (branch.toTree.attribute? parent.id .name).isSome = true) :
    branch.toTree.attributeName? parent.id = some parent.definedName := by
  have attributes := lies.attributes_of_shaped shaped (show Role.name.isMark = false from rfl)
  rw [Tree.attribute?, attributes] at named
  rw [Tree.attributeName?, Tree.attribute?, attributes, definedName]
  cases names : parent.playing .name with
  | nil => simp [names] at named
  | cons name rest =>
      obtain ⟨slot, role, member⟩ := mem_playing_iff.mp (names ▸ List.mem_cons_self :
        name ∈ parent.playing .name)
      have binds : name.form.isBinding = true := by
        have fits := (shaped.admitted slot name member).2
        rw [role] at fits
        revert fits
        cases parent.form <;> simp [Form.admits]
      simp only [List.map_cons, List.head?_cons, Option.bind_some, Tree.nameText?,
        (Lies.child lies member).form?_toTree]
      cases form : name.form <;> simp_all [Form.isBinding]

end Placed.Lies

namespace BareRaise

variable {branch : Branch} {parent child placed : Placed} {above : List Placed}
  {slot : Option Slot} {draft : Draft}

/-! ### One step down -/

theorem isWithin_child (lies : Placed.Lies branch.whole parent above)
    (member : (slot, child) ∈ parent.children) (clause : Kind) :
    isWithin branch.toTree clause child.id =
      if parent.form.kind = clause then true
      else if parent.form.kind = .classDef ∨ parent.form.kind = .function then false
      else isWithin branch.toTree clause parent.id := by
  simp only [isWithin, Tree.firstAncestorOfKind, lies.firstAncestor_child member]
  by_cases same : parent.form.kind = clause
  · simp [lies.isKind_toTree, same]
  · by_cases scope : parent.form.kind = .classDef ∨ parent.form.kind = .function
    · simp [lies.isKind_toTree, same, scope]
    · have neither := not_or.mp scope
      simp [lies.isKind_toTree, same, neither]

theorem isWithinClauses_child (lies : Placed.Lies branch.whole parent above)
    (member : (slot, child) ∈ parent.children) (shaped : parent.Shaped) {around : Enclosure}
    (except : isWithinExcept branch.toTree parent.id = around.inExcept)
    (final : isWithinFinally branch.toTree parent.id = around.inFinally) :
    isWithinExcept branch.toTree child.id = (enter parent around).inExcept ∧
      isWithinFinally branch.toTree child.id = (enter parent around).inFinally := by
  have proper := shaped.proper
  unfold isWithinExcept at except ⊢
  unfold isWithinFinally at final ⊢
  rw [isWithin_child lies member, isWithin_child lies member, except, final, enter]
  cases form : parent.form with
  | plain kind =>
      rw [form] at proper
      cases kind <;> first | exact ⟨rfl, rfl⟩ | cases proper
  | scopeDeclaration isGlobal => cases isGlobal <;> exact ⟨rfl, rfl⟩
  | _ => exact ⟨rfl, rfl⟩

theorem isWithinExit_child (lies : Placed.Lies branch.whole parent above)
    (member : (slot, child) ∈ parent.children) (shaped : parent.Shaped)
    (named : branch.toTree.FunctionsNamed) {around : Enclosure}
    (same : isWithinExit branch.toTree parent.id = .ok around.inExit) :
    isWithinExit branch.toTree child.id = .ok (enter parent around).inExit := by
  simp only [isWithinExit, lies.firstAncestor_child member]
  by_cases function : branch.toTree.isFunction parent.id = true
  · have name := lies.attributeName?_toTree shaped (named _ function)
    have form : ∃ isAsync, parent.form = .function isAsync := by
      rw [Tree.isFunction, lies.form?_toTree] at function
      cases form : parent.form <;> simp_all
    obtain ⟨isAsync, form⟩ := form
    by_cases leaves : parent.definedName = exitName
    · simp [function, name, leaves, enter, form, Enclosure.enterFunction]
    · simp only [isWithinExit] at same
      simp [function, name, leaves, enter, form, Enclosure.enterFunction, same]
  · have form : ∀ isAsync, parent.form ≠ .function isAsync := by
      intro isAsync form
      exact function (by rw [Tree.isFunction, lies.form?_toTree, form])
    have unchanged : (enter parent around).inExit = around.inExit := by
      unfold enter
      cases kind : parent.form <;> first | rfl | exact absurd kind (form _)
    simp only [isWithinExit] at same
    simp [function, unchanged, same]

/-! ### All the way down -/

/-- **Looking upwards is descending.** In the tree of a program the searches upwards from a node
say what a descent to it has collected. -/
theorem isWithin_eq_enclosure (lies : Placed.Lies branch.whole placed above)
    (completes : Branch.Completes draft branch) (shaped : draft.Shaped)
    (named : branch.toTree.FunctionsNamed) :
    isWithinExcept branch.toTree placed.id = (enclosure above .file).inExcept ∧
      isWithinFinally branch.toTree placed.id = (enclosure above .file).inFinally ∧
      isWithinExit branch.toTree placed.id = .ok (enclosure above .file).inExit := by
  induction lies with
  | root =>
      have nothing (satisfies : NodeId → Bool) :
          branch.toTree.firstAncestor branch.whole.id satisfies = none :=
        Placed.Lies.root.firstAncestor_toTree satisfies
      simp [isWithinExcept, isWithinFinally, isWithin, isWithinExit, Tree.firstAncestorOfKind,
        nothing, enclosure, Enclosure.file]
  | @child parent above slot child lies member ih =>
      obtain ⟨except, final, exit⟩ := ih
      have inner : parent.Shaped := Placed.shaped_of_child (lies.shaped completes shaped) member
      have clauses := isWithinClauses_child lies member inner except final
      exact ⟨clauses.1, clauses.2, isWithinExit_child lies member inner named exit⟩

end BareRaise

end StructuralLint
