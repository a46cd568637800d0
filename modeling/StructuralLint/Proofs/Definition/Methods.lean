import StructuralLint.Proofs.Check.Enclosure
import StructuralLint.Proofs.Clause.Words
import StructuralLint.Proofs.Signature.Reading
import StructuralLint.Proofs.Tree.SourceOrder
import StructuralLint.Tree.Query

/-!
# The methods of a class

A class finds its methods from above, on a walk through its body that turns back at functions and
classes. Seen from below they are the functions that no other function or class lies around before
the class does. Both are the same functions (`Placed.Lies.topLevelFunctions_toTree`,
`Placed.Lies.enclosedFunctions_toTree`). They are also in the same order if the statements of the
body stand in the tree as they are listed; the walk from above takes them as they are listed.
-/

namespace StructuralLint

open Program Draft

/-- Whether a node of this form is a function or a class. -/
def Form.encloses (form : Form) : Bool := form.kind = .classDef || form.kind = .function

/-- Whether a node is a function, and the nearest function or class around it is `outer`. -/
def Tree.isEnclosed (tree : Tree) (outer id : NodeId) : Bool :=
  tree.isFunction id && tree.firstAncestorOfKind id [.classDef, .function] = some outer

/-- The functions below a node that have it for the nearest function or class around them. -/
def Tree.enclosedFunctions (tree : Tree) (outer : NodeId) : List NodeId :=
  (tree.descendants outer tree.isFunction).filter fun id =>
    tree.firstAncestorOfKind id [.classDef, .function] = some outer

theorem Tree.enclosedFunctions_eq (tree : Tree) (outer : NodeId) :
    tree.enclosedFunctions outer = tree.descendants outer (tree.isEnclosed outer) := by
  rw [enclosedFunctions, descendants, descendants, collect_eq_filter_visit,
    collect_eq_filter_visit, List.filter_filter]
  congr 1
  funext id
  exact Bool.and_comm _ _

/-! ### The nearest function or class -/

namespace Placed

/-- A branch below `outer` with no function and no class in between. -/
inductive Directly (outer : Placed) : Placed → Prop
  | child {slot : Option Slot} {child : Placed} :
      (slot, child) ∈ outer.children → Directly outer child
  | inside {slot : Option Slot} {parent child : Placed} : Directly outer parent →
      parent.form.encloses = false → (slot, child) ∈ parent.children → Directly outer child

/-- The functions of a branch that have the node `outer` for the nearest function or class around
them. -/
def enclosed (placed : Placed) (tree : Tree) (outer : NodeId) : List Placed :=
  placed.preorder.filter (tree.isEnclosed outer ·.id)

theorem enclosed_eq (placed : Placed) (tree : Tree) (outer : NodeId) :
    placed.enclosed tree outer = (if tree.isEnclosed outer placed.id then [placed] else []) ++
      placed.children.flatMap (·.2.enclosed tree outer) := by
  rw [enclosed, preorder_eq, List.filter_cons, List.filter_flatMap]
  split <;> rfl

variable {branch : Branch} {outer placed child below : Placed} {above inner : List Placed}
  {slot : Option Slot} {stack : List Placed}

theorem Lies.isEnclosing_toTree (lies : Lies branch.whole placed above) :
    branch.toTree.isKind [.classDef, .function] placed.id = placed.form.encloses := by
  rw [lies.isKind_toTree, Form.encloses]
  simp

theorem Lies.encloses_of_isFunction (lies : Lies branch.whole placed above)
    (function : branch.toTree.isFunction placed.id = true) : placed.form.encloses = true := by
  rw [Tree.isFunction, lies.form?_toTree] at function
  split at function
  · rename_i found
    rw [Option.some.inj found]
    rfl
  · cases function

theorem Lies.isFunction_of_clear (lies : Lies branch.whole placed above)
    (clear : placed.form.encloses = false) : branch.toTree.isFunction placed.id = false := by
  by_contra function
  have closed := lies.encloses_of_isFunction (by simpa using function)
  rw [clear] at closed
  cases closed

/-- What lies directly below a function or a class has it for the nearest one. -/
theorem Directly.exists_nearest (direct : Directly outer placed)
    (upper : Lies branch.whole outer above) (encloses : outer.form.encloses = true) :
    ∃ around, Lies branch.whole placed around ∧
      branch.toTree.firstAncestorOfKind placed.id [.classDef, .function] = some outer.id := by
  induction direct with
  | child member =>
      refine ⟨_, .child upper member, ?_⟩
      rw [Tree.firstAncestorOfKind, upper.firstAncestor_child member,
        if_pos (upper.isEnclosing_toTree.trans encloses)]
  | inside _ clear member ih =>
      obtain ⟨around, lies, nearest⟩ := ih
      refine ⟨_, .child lies member, ?_⟩
      have open' := lies.isEnclosing_toTree.trans clear
      rw [Tree.firstAncestorOfKind, lies.firstAncestor_child member, if_neg (by simp [open'])]
      exact nearest

/-- What lies below a function or a class has none for the nearest one that is further up. -/
theorem Lies.exists_nearest (upper : Lies branch.whole placed above)
    (encloses : placed.form.encloses = true) (member : (slot, child) ∈ placed.children)
    (lower : Lies child below inner) :
    ∃ nearest ≤ placed.id,
      branch.toTree.firstAncestorOfKind below.id [.classDef, .function] = some nearest := by
  induction lower with
  | root =>
      refine ⟨placed.id, Nat.le_refl _, ?_⟩
      rw [Tree.firstAncestorOfKind, upper.firstAncestor_child member,
        if_pos (upper.isEnclosing_toTree.trans encloses)]
  | @child parent between slot' below' lower member' ih =>
      have lies := lower.trans (.child upper member)
      rw [Tree.firstAncestorOfKind, lies.firstAncestor_child member', lies.isEnclosing_toTree]
      by_cases nearer : parent.form.encloses = true
      · have smaller := id_child_lt member
        have further := lower.length_above_le
        refine ⟨parent.id, by omega, ?_⟩
        rw [if_pos nearer]
      · rw [if_neg nearer]
        exact ih

/-- Nothing below a function or a class belongs to what lies further up. -/
theorem Lies.enclosed_eq_nil (upper : Lies branch.whole placed above)
    (encloses : placed.form.encloses = true) (member : (slot, child) ∈ placed.children)
    {further : NodeId} (larger : placed.id < further) :
    child.enclosed branch.toTree further = [] := by
  rw [enclosed, List.filter_eq_nil_iff]
  intro below listed isEnclosed
  obtain ⟨inner, lower⟩ := mem_preorder_iff.mp listed
  obtain ⟨nearest, near, found⟩ := upper.exists_nearest encloses member lower
  rw [Tree.isEnclosed, found, Bool.and_eq_true, decide_eq_true_eq, Option.some.injEq] at isEnclosed
  omega

theorem Directly.id_lt (direct : Directly outer placed) : placed.id < outer.id := by
  induction direct with
  | child member => exact id_child_lt member
  | inside _ _ member ih => exact (id_child_lt member).trans ih

section

variable (direct : Directly outer placed) (upper : Lies branch.whole outer above)
  (encloses : outer.form.encloses = true)
include direct upper encloses

/-- Of a function or a class nothing but a function itself is seen from below. -/
theorem Directly.enclosed_of_encloses (closed : placed.form.encloses = true) :
    placed.enclosed branch.toTree outer.id =
      if branch.toTree.isFunction placed.id then [placed] else [] := by
  obtain ⟨around, lies, nearest⟩ := direct.exists_nearest upper encloses
  have none : placed.children.flatMap (·.2.enclosed branch.toTree outer.id) = [] :=
    List.flatMap_eq_nil_iff.mpr fun child member =>
      lies.enclosed_eq_nil closed member direct.id_lt
  rw [enclosed_eq, none, List.append_nil, Tree.isEnclosed, nearest]
  simp

/-- Other nodes show what their children show. -/
theorem Directly.enclosed_of_clear (clear : placed.form.encloses = false) :
    placed.enclosed branch.toTree outer.id =
      placed.children.flatMap (·.2.enclosed branch.toTree outer.id) := by
  obtain ⟨around, lies, -⟩ := direct.exists_nearest upper encloses
  rw [enclosed_eq, Tree.isEnclosed, lies.isFunction_of_clear clear]
  rfl

end

/-! ### From above -/

/-- One step of the walk: it turns back at functions and classes and goes on below other nodes. -/
theorem Lies.gatherFunctions_cons (lies : Lies branch.whole placed above)
    (leaves : branch.TokensAreLeaves) (fuel : Nat) (ids : List NodeId) :
    branch.toTree.gatherFunctions (fuel + 1) (placed.id :: ids) =
      if placed.form.encloses then
        (if branch.toTree.isFunction placed.id then [placed.id] else []) ++
          branch.toTree.gatherFunctions fuel ids
      else branch.toTree.gatherFunctions fuel (placed.children.map (·.2.id) ++ ids) := by
  have kinds : branch.toTree.isKind [.function, .classDef] placed.id = placed.form.encloses := by
    rw [lies.isKind_toTree, Form.encloses, Bool.or_comm]
    simp
  rw [Tree.gatherFunctions, kinds, lies.isToken_toTree leaves]
  cases closed : placed.form.encloses with
  | true => cases branch.toTree.isFunction placed.id <;> simp
  | false =>
      rw [lies.isFunction_of_clear closed]
      cases leaf : placed.isLeaf with
      | true => simp [children_of_isLeaf leaf]
      | false => simp [lies.children_toTree]

/-- **Nothing is missed from above.** The walk that turns back at functions and classes finds the
functions that are seen from below. -/
theorem gatherFunctions_toTree (upper : Lies branch.whole outer above)
    (encloses : outer.form.encloses = true) (leaves : branch.TokensAreLeaves)
    (direct : ∀ placed ∈ stack, Directly outer placed) (fuel : Nat)
    (enough : (stack.flatMap preorder).length ≤ fuel) :
    branch.toTree.gatherFunctions fuel (stack.map (·.id)) =
      (stack.flatMap (·.enclosed branch.toTree outer.id)).map (·.id) := by
  induction fuel generalizing stack with
  | zero =>
      cases stack with
      | nil => rfl
      | cons placed stack =>
          rw [Stacked.flatMap_push, List.length_cons] at enough
          omega
  | succ fuel ih =>
      cases stack with
      | nil => rfl
      | cons placed stack =>
          have own := direct placed List.mem_cons_self
          have others : ∀ placed ∈ stack, Directly outer placed :=
            fun other member => direct other (List.mem_cons_of_mem _ member)
          obtain ⟨around, lies, -⟩ := own.exists_nearest upper encloses
          rw [Stacked.flatMap_push, List.length_cons, List.flatMap_append, List.length_append]
            at enough
          rw [List.map_cons, lies.gatherFunctions_cons leaves, List.flatMap_cons, List.map_append]
          cases closed : placed.form.encloses with
          | true =>
              rw [own.enclosed_of_encloses upper encloses closed, ih others (by omega)]
              cases branch.toTree.isFunction placed.id <;> rfl
          | false =>
              have pushed : ∀ below ∈ placed.children.map (·.2) ++ stack,
                  Directly outer below := by
                intro below member
                rcases List.mem_append.mp member with child | later
                · obtain ⟨⟨slot, child⟩, among, rfl⟩ := List.mem_map.mp child
                  exact .inside own closed among
                · exact others below later
              have rest := ih pushed (by rw [List.flatMap_append, List.length_append]; omega)
              rw [List.map_append, List.map_map, List.flatMap_append, List.map_append,
                List.flatMap_map] at rest
              rw [own.enclosed_of_clear upper encloses closed]
              exact rest

section

variable (upper : Lies branch.whole outer above)
include upper

theorem Lies.topLevelFunctions_toTree (sound : branch.Sound) (leaves : branch.TokensAreLeaves)
    (encloses : outer.form.encloses = true) :
    branch.toTree.topLevelFunctions outer.id =
      ((outer.playing .body).flatMap (·.enclosed branch.toTree outer.id)).map (·.id) := by
  have direct : ∀ placed ∈ outer.playing .body, Directly outer placed := by
    intro placed plays
    obtain ⟨slot, -, member⟩ := mem_playing_iff.mp plays
    exact .child member
  have weights : ∀ placed ∈ outer.playing .body,
      branch.toTree.weight placed.id = placed.preorder.length := by
    intro placed plays
    obtain ⟨slot, -, member⟩ := mem_playing_iff.mp plays
    rw [(Lies.child upper member).weight_toTree, length_preorder]
  rw [Tree.topLevelFunctions, upper.attributes_of_sound sound rfl, List.map_map]
  apply gatherFunctions_toTree upper encloses leaves direct
  rw [List.length_flatMap, List.sum, ← List.map_congr_left weights]
  rfl

theorem Lies.enclosedFunctions_toTree :
    branch.toTree.enclosedFunctions outer.id =
      (outer.children.flatMap (·.2.enclosed branch.toTree outer.id)).map (·.id) := by
  rw [Tree.enclosedFunctions_eq, upper.descendants_toTree, List.filter_map, List.filter_flatMap]
  rfl

end

/-- An expression shows no functions. -/
theorem Lies.enclosed_of_isCalm (lies : Lies branch.whole placed above) {draft : Draft}
    (completes : Branch.Completes draft placed.branch) (shaped : draft.Shaped)
    (calm : placed.form.isCalm = true) (outer : NodeId) :
    placed.enclosed branch.toTree outer = [] := by
  have none : placed.having (·.kind = .function) = [] := by
    apply having_of_isCalm _ completes shaped calm
    intro form function
    cases form with
    | plain kind =>
        obtain rfl : kind = .function := of_decide_eq_true function
        rfl
    | _ => first | rfl | simp [Form.kind] at function
  rw [enclosed, List.filter_eq_nil_iff]
  intro below member isEnclosed
  obtain ⟨inner, lower⟩ := mem_preorder_iff.mp member
  obtain ⟨function, -⟩ := (Bool.and_eq_true _ _).mp isEnclosed
  obtain ⟨isAsync, found⟩ := Tree.exists_form_of_isFunction function
  rw [(lower.trans lies).form?_toTree, Option.some.injEq] at found
  refine List.filter_eq_nil_iff.mp none below member ?_
  rw [found]
  rfl

/-- Below a class functions stand in its body only. -/
theorem Lies.flatMap_enclosed (upper : Lies branch.whole outer above) {draft : Draft}
    (completes : Branch.Completes draft outer.branch) (shaped : draft.Shaped)
    (form : outer.form = .classDef) :
    (outer.children.flatMap (·.2.enclosed branch.toTree outer.id)) =
      (outer.standing .body).flatMap (·.enclosed branch.toTree outer.id) := by
  apply flatMap_children_of_forall fun child => child.enclosed branch.toTree outer.id
  intro slot child member others
  have lies := Lies.child upper member
  rcases isLeaf_or_completes_child completes shaped member with
    ⟨leaf, -⟩ | ⟨part, sound, inner, own, same, fits⟩
  · have function : branch.toTree.isFunction child.id = false := by
      obtain ⟨token, form⟩ := form_of_isLeaf leaf
      rw [Tree.isFunction, lies.form?_toTree, form]
    rw [enclosed_eq, children_of_isLeaf leaf, Tree.isEnclosed, function]
    rfl
  · apply lies.enclosed_of_isCalm inner sound
    rw [form_of_completes inner]
    apply Form.isCalm_of_admits fits
    rw [← form_of_completes completes, form]
    simpa [Form.blockRoles] using others own same

end Placed

/-! ### Classes in the tree -/

/-- What the methods of a class are. From above and from below they are the same functions, and
none of them is found twice. From above they come statement by statement as the body lists them,
from below as they stand in the tree; both is the same if the statements stand as they are
listed. -/
structure Tree.FindsMethods (tree : Tree) (classDef : NodeId) : Prop where
  nodup : (tree.topLevelFunctions classDef).Nodup
  perm : (tree.topLevelFunctions classDef).Perm (tree.enclosedFunctions classDef)
  listed : tree.topLevelFunctions classDef =
    (tree.attributes classDef .body).flatMap fun stmt =>
      (tree.walk stmt).filter (tree.isEnclosed classDef)
  inOrder : (tree.attributes classDef .body).Pairwise (· < ·) →
    tree.topLevelFunctions classDef = tree.enclosedFunctions classDef

theorem Tree.FindsMethods.nearest {tree : Tree} {classDef function : NodeId}
    (finds : tree.FindsMethods classDef) (member : function ∈ tree.topLevelFunctions classDef) :
    tree.firstAncestorOfKind function [.classDef, .function] = some classDef := by
  have seen := (List.mem_filter.mp (finds.perm.mem_iff.mp member)).2
  exact of_decide_eq_true seen

namespace Placed.Lies

variable {branch : Branch} {outer : Placed} {above : List Placed} {draft : Draft}

theorem findsMethods (upper : Lies branch.whole outer above) (sound : branch.Sound)
    (leaves : branch.TokensAreLeaves) (completes : Branch.Completes draft outer.branch)
    (shaped : draft.Shaped) (form : outer.form = .classDef) :
    branch.toTree.FindsMethods outer.id := by
  have encloses : outer.form.encloses = true := by rw [form]; rfl
  have fromAbove := upper.topLevelFunctions_toTree sound leaves encloses
  have fromBelow := upper.enclosedFunctions_toTree
  rw [upper.flatMap_enclosed completes shaped form] at fromBelow
  have perm : (branch.toTree.topLevelFunctions outer.id).Perm
      (branch.toTree.enclosedFunctions outer.id) := by
    rw [fromAbove, fromBelow]
    exact ((outer.playing_perm_standing .body).flatMap_right _).map _
  refine ⟨?_, perm, ?_, ?_⟩
  · rw [perm.nodup_iff, Tree.enclosedFunctions_eq, upper.descendants_toTree]
    have listed := outer.preorder_ids_nodup
    rw [preorder_eq, List.map_cons, List.nodup_cons] at listed
    exact listed.2.filter _
  · rw [fromAbove, upper.attributes_of_sound sound rfl, List.map_flatMap, List.flatMap_map]
    apply List.flatMap_congr
    intro stmt plays
    obtain ⟨slot, -, member⟩ := mem_playing_iff.mp plays
    rw [(Lies.child upper member).walk_toTree, List.filter_map]
    rfl
  · intro ordered
    rw [upper.attributes_of_sound sound rfl, List.pairwise_map] at ordered
    have standing := outer.pairwise_standing_ids .body
    rw [List.pairwise_map] at standing
    have same : outer.playing .body = outer.standing .body :=
      (outer.playing_perm_standing .body).eq_of_pairwise
        (fun _ _ _ _ before after => absurd before (Nat.lt_asymm after)) ordered standing
    rw [fromAbove, fromBelow, same]

end Placed.Lies

/-- A statement whose node is a class is a class. -/
theorem Program.Stmt.exists_classDef {text : SourceText} {stmt : Stmt}
    (form : (ofStmt text stmt).form = .classDef) :
    ∃ span name bases keywords decorators body,
      stmt = .classDef span name bases keywords decorators body := by
  cases stmt with
  | classDef => exact ⟨_, _, _, _, _, _, rfl⟩
  | _ =>
      rw [ofStmt] at form
      cases form

/-- Every class of the tree of a program is one of the program. Its statements stand in the tree as
they are listed if they start in this order. -/
theorem Placed.Lies.exists_classDef {program : Program} {text : SourceText} {placed : Placed}
    {above : List Placed} (lexed : Token.IsLexed text.tokens)
    (lies : Placed.Lies (Branch.ofProgram program text).whole placed above)
    (form : placed.form = .classDef) :
    ∃ span name bases keywords decorators body,
      program.Contains (.classDef span name bases keywords decorators body) ∧
      Branch.Completes (ofStmt text (.classDef span name bases keywords decorators body))
        placed.branch ∧
      (StartInOrder (ofStmts text body) →
        ((Branch.ofProgram program text).toTree.attributes placed.id .body).Pairwise (· < ·)) := by
  obtain ⟨stmt, contains, other, around, lies', same, hosts⟩ :=
    Program.exists_stands lexed lies (by rw [form]; rfl) (by rw [form]; rfl)
  obtain rfl := Lies.eq_of_id lies' lies same
  have completes := hosts.completes
  obtain ⟨span, name, bases, keywords, decorators, body, rfl⟩ :=
    Stmt.exists_classDef ((form_of_completes completes).symm.trans form)
  refine ⟨span, name, bases, keywords, decorators, body, contains, completes, fun ordered => ?_⟩
  apply lies.pairwise_attributes (Branch.sound_ofProgram program text) rfl
  rw [ofStmt, ofClassDef] at completes
  apply playing_eq_standing_of_completes completes
  simpa using ordered

/-- **Methods from above and from below.** In the tree of a source text a class finds the same
methods from above as it has from below, each of them once. Every class of the tree is one of the
program, and if the statements of its body start in the order in which the program has them, the
methods come in the same order, too. No function is a method of two classes. -/
theorem Tree.methods {source : List Char} {withSymbols : Bool} {parsed : ParsedSource}
    (read : parse source withSymbols = .ok parsed) :
    ∃ program tokens, Program.read source = .ok program ∧ lex source = .ok tokens ∧
      let text := SourceText.ofTokens source tokens
      (∀ node, parsed.tree.form? node = some .classDef → parsed.tree.FindsMethods node ∧
        ∃ span name bases keywords decorators body,
          program.Contains (.classDef span name bases keywords decorators body) ∧
          parsed.tree.Keeps
            (ofStmt text (.classDef span name bases keywords decorators body)) node ∧
          (StartInOrder (ofStmts text body) →
            (parsed.tree.attributes node .body).Pairwise (· < ·))) ∧
      ∀ node other function, parsed.tree.form? node = some .classDef →
        parsed.tree.form? other = some .classDef →
        function ∈ parsed.tree.topLevelFunctions node →
        function ∈ parsed.tree.topLevelFunctions other → node = other := by
  obtain ⟨program, tokens, known, lexed, same, -⟩ := exists_read_of_parse read
  have lexed' : Token.IsLexed (SourceText.ofTokens source tokens).tokens :=
    Token.isLexed_of_lex lexed
  have leaves := Branch.tokensAreLeaves_ofProgram program (.ofTokens source tokens)
  rw [same]
  have finds :
      let tree := (Branch.ofProgram program (.ofTokens source tokens)).toTree
      ∀ node, tree.form? node = some .classDef → tree.FindsMethods node := by
    intro tree node found
    obtain ⟨placed, above, lies, rfl, form⟩ := Tree.exists_lies_of_form? found
    obtain ⟨_, _, _, _, _, _, -, completes, -⟩ := lies.exists_classDef lexed' form
    exact lies.findsMethods (Branch.sound_ofProgram program _) leaves completes
      (free_ofStmt _ _).shaped form
  refine ⟨program, tokens, known, lexed, fun node found => ⟨finds node found, ?_⟩, ?_⟩
  · obtain ⟨placed, above, lies, rfl, form⟩ := Tree.exists_lies_of_form? found
    obtain ⟨span, name, bases, keywords, decorators, body, contains, completes, ordered⟩ :=
      lies.exists_classDef lexed' form
    exact ⟨span, name, bases, keywords, decorators, body, contains,
      lies.keeps_toTree leaves completes, ordered⟩
  · intro node other function found found' member member'
    have nearest := (finds node found).nearest member
    rw [(finds other found').nearest member'] at nearest
    exact (Option.some.inj nearest).symm

/-- A class with a method behind a decorator and one in a condition, beside functions that stand in
the method and in a class inside. -/
def nestedSource : List Char :=
  "class A:
    @d
    def f(self):
        def g(): pass
    if x:
        class B:
            def h(): pass
        def k(): pass
".toList

/-- Of the four functions below the class two are its methods. -/
theorem Tree.methods_nestedSource :
    ∃ parsed, parse nestedSource false = .ok parsed ∧
      parsed.tree.form? 68 = some .classDef ∧
      parsed.tree.descendants 68 parsed.tree.isFunction = [31, 30, 54, 66] ∧
      (parsed.tree.attributes 68 .body).Pairwise (· < ·) ∧
      parsed.tree.topLevelFunctions 68 = parsed.tree.enclosedFunctions 68 ∧
      parsed.tree.topLevelFunctions 68 = [31, 66] := by
  obtain ⟨parsed, read, facts⟩ := Lists.exists_of_toOption_map
    (show (parse nestedSource false).toOption.map (fun parsed =>
        (parsed.tree.form? 68, parsed.tree.descendants 68 parsed.tree.isFunction,
          decide ((parsed.tree.attributes 68 .body).Pairwise (· < ·)),
          parsed.tree.topLevelFunctions 68)) =
      some (some .classDef, [31, 30, 54, 66], true, [31, 66]) by decide +kernel)
  simp only [Prod.mk.injEq, decide_eq_true_eq] at facts
  obtain ⟨found, functions, ordered, methods⟩ := facts
  obtain ⟨_, _, _, _, classes, -⟩ := Tree.methods read
  obtain ⟨finds, -⟩ := classes 68 found
  exact ⟨parsed, read, found, functions, ordered, finds.inOrder ordered, methods⟩

end StructuralLint
