import StructuralLint.Proofs.Check.Descent
import StructuralLint.Proofs.Reading

/-!
# What the rule on bare raises reports

The rule looks upwards from a node: it sees parents and what they are. What it reports can be told
from the program alone, by a descent that carries three flags: the nodes it decides to report are
those that the descent finds in a `finally` block, outside of handlers and of functions that are
called on leaving a context (`BareRaise.reported_perm_descent`).
-/

namespace StructuralLint

open Program

namespace BareRaise

/-- Whether the rule decides to report a node. A node without a token can be decided on as well,
but there is no place to report it at. -/
def decides (tree : Tree) (node : NodeId) : Bool :=
  tree.kind? node = some .raiseStatement &&
    match consume tree node with
    | .ok [] => false
    | _ => true

/-- The nodes of a tree that the rule decides to report. -/
def reported (tree : Tree) : List NodeId := (tree.walk tree.root).filter (decides tree)

/-- The raises of a program as a descent finds them. -/
def found (program : Program) : List FoundRaise := foundInAll .file program.body

/-- Their nodes in the tree of the program, in the same order. -/
def images (program : Program) (text : SourceText) : List NodeId :=
  (imagesInAll program.body ((Branch.ofProgram program text).whole.playing .statement)).map (·.id)

variable {program : Program} {text : SourceText} {placed : Placed} {above : List Placed}

theorem completes_whole (program : Program) (text : SourceText) :
    Branch.Completes (Draft.ofProgram program text) (Branch.ofProgram program text).whole.branch :=
  Draft.completes_ofProgram program text

theorem complete_statements (program : Program) (text : SourceText) :
    Placed.Complete (Draft.ofStmts text program.body)
      ((Branch.ofProgram program text).whole.playing .statement) := by
  have parts := Placed.inRole_of_slotted
    (R := fun draft placed => Branch.Completes draft placed.branch)
    (Placed.slotted_of_completes (completes_whole program text)) (.refl _) (some .statement)
  simpa using parts

theorem form_whole : (Branch.ofProgram program text).whole.form = .file program.docstring := rfl

theorem named_whole (named : (Branch.ofProgram program text).toTree.FunctionsNamed) :
    Named (Branch.ofProgram program text).whole := by
  rintro below above lies ⟨isAsync, form⟩ none
  have shaped := Placed.shaped_of_form (Branch.sound_ofProgram program text _ _ lies)
    (by simp [form])
  have kept := named below.id (by rw [Tree.isFunction, lies.form?_toTree, form])
  rw [Tree.attribute?, lies.attributes_of_shaped shaped rfl, none] at kept
  simp at kept

/-- The rule on the node of a `raise` that a descent has found. -/
theorem consume_of_described {raise : FoundRaise}
    (lies : Placed.Lies (Branch.ofProgram program text).whole placed above)
    (named : (Branch.ofProgram program text).toTree.FunctionsNamed)
    (form : placed.form = .raise) (bare : raise.isBare = (placed.playing .expression).isEmpty)
    (around : raise.around = enclosure above .file) :
    consume (Branch.ofProgram program text).toTree placed.id =
      if raise.reports then
        match (Branch.ofProgram program text).toTree.firstToken placed.id with
        | some word => .ok [⟨word, message⟩]
        | none => .error .missingPart
      else .ok [] := by
  obtain ⟨except, final, exit⟩ := isWithin_eq_enclosure lies
    (Draft.completes_ofProgram program text) (Draft.shaped_ofProgram program text) named
  have shaped := Placed.shaped_of_form (Branch.sound_ofProgram program text _ _ lies)
    (by simp [form])
  have raised := lies.attributes_of_shaped shaped (show Role.expression.isMark = false from rfl)
  have known := lies.form?_toTree
  rw [form] at known
  rw [← around] at except final exit
  rw [FoundRaise.reports, Enclosure.reports, bare]
  simp only [consume, known, raised, except, final, exit]
  cases placed.playing .expression <;> cases raise.around.inExcept <;>
    cases raise.around.inFinally <;> cases raise.around.inExit <;>
    rfl

/-- Every raise of the tree is the node of one raise of the program. -/
theorem imagesInAll_perm_whole (program : Program) (text : SourceText) :
    (imagesInAll program.body ((Branch.ofProgram program text).whole.playing .statement)).Perm
      (Branch.ofProgram program text).whole.raises := by
  have below := Placed.raises_perm (completes_whole program text)
    (Draft.shaped_ofProgram program text)
  have statements := imagesInAll_perm program.body _ (complete_statements program text)
  simp only [form_whole, Form.blockRoles, reduceCtorEq, if_false, List.nil_append,
    List.flatMap_singleton, Placed.inRole_some] at below
  exact statements.trans below.symm

/-- A walk meets the raises of the tree in their order. -/
theorem filter_walk_eq (program : Program) (text : SourceText) :
    let tree := (Branch.ofProgram program text).toTree
    ((tree.walk tree.root).filter fun id => tree.kind? id = some .raiseStatement) =
      (Branch.ofProgram program text).whole.raises.map (·.id) := by
  intro tree
  rw [Branch.root_toTree, Placed.Lies.walk_toTree .root, List.filter_map, Placed.raises]
  refine congrArg _ (List.filter_congr fun placed member => ?_)
  obtain ⟨above, lies⟩ := Placed.mem_preorder_iff.mp member
  have same : placed.form.kind = .raiseStatement ↔ placed.form = .raise := by
    rcases Branch.sound_ofProgram program text _ _ lies with leaf | shaped
    · obtain ⟨token, form⟩ := Placed.form_of_isLeaf leaf
      simp [form, Form.kind]
    · exact Form.kind_eq_raiseStatement shaped.proper
  simp [Tree.kind?, tree, lies.form?_toTree, same]

theorem images_perm (program : Program) (text : SourceText) :
    let tree := (Branch.ofProgram program text).toTree
    (images program text).Perm
      ((tree.walk tree.root).filter fun id => tree.kind? id = some .raiseStatement) := by
  intro tree
  rw [filter_walk_eq]
  exact (imagesInAll_perm_whole program text).map _

/-- The rule decides to report a node that a descent has found if the descent reports it. -/
theorem consume_images (program : Program) (text : SourceText)
    (named : (Branch.ofProgram program text).toTree.FunctionsNamed) :
    let tree := (Branch.ofProgram program text).toTree
    List.Forall₂
      (fun raise image => tree.kind? image = some .raiseStatement ∧
        consume tree image =
          if raise.reports then
            match tree.firstToken image with
            | some word => .ok [⟨word, message⟩]
            | none => .error .missingPart
          else .ok [])
      (found program) (images program text) := by
  intro tree
  have below : Below (Branch.ofProgram program text).whole
    ((Branch.ofProgram program text).whole.playing .statement) := below_playing _ _
  have described : List.Forall₂ (Described .file (Branch.ofProgram program text).whole)
      (foundInAll .file program.body) _ :=
    (described_foundInAll program.body _ .file (complete_statements program text)
      (below.named (named_whole named))).imp fun _ _ => below.described rfl
  rw [images, List.forall₂_map_right_iff]
  apply described.imp
  intro raise image described
  obtain ⟨above, lies, around⟩ := described.around
  refine ⟨?_, consume_of_described lies named described.form described.isBare around⟩
  simp [Tree.kind?, tree, lies.form?_toTree, described.form, Form.kind]

/-- **The rule reports what a descent finds.** In the tree of any program with any token stream
that leaves the functions their names, the nodes of the raises of the program are the `raise` nodes
of the tree, once each; the rule decides to report the nodes of those raises that a descent finds
without an exception, in a `finally` block, outside of handlers and of functions that are called on
leaving a context, and no others. -/
theorem reported_perm_descent (program : Program) (text : SourceText)
    (named : (Branch.ofProgram program text).toTree.FunctionsNamed) :
    let tree := (Branch.ofProgram program text).toTree
    (images program text).Nodup ∧
      (∀ id, id ∈ images program text ↔
        id ∈ tree.walk tree.root ∧ tree.kind? id = some .raiseStatement) ∧
      List.Forall₂
        (fun raise image => consume tree image =
          if raise.reports then
            match tree.firstToken image with
            | some word => .ok [⟨word, message⟩]
            | none => .error .missingPart
          else .ok [])
        (found program) (images program text) ∧
      (reported tree).Perm
        ((((found program).zip (images program text)).filter (·.1.reports)).map (·.2)) := by
  intro tree
  have perm : (images program text).Perm
    ((tree.walk tree.root).filter fun id => tree.kind? id = some .raiseStatement) :=
    images_perm program text
  have consumed : List.Forall₂ _ (found program) (images program text) :=
    consume_images program text named
  refine ⟨?_, fun id => ?_, consumed.imp fun _ _ known => known.2, ?_⟩
  · rw [perm.nodup_iff]
    apply List.Nodup.filter _
    rw [Branch.root_toTree, Placed.Lies.walk_toTree .root]
    exact Placed.preorder_ids_nodup _
  · rw [perm.mem_iff, List.mem_filter, decide_eq_true_eq]
  · have decided : List.Forall₂ (fun raise image => decides tree image = FoundRaise.reports raise)
        (found program) (images program text) := by
      apply consumed.imp
      intro raise image known
      rw [decides, known.1, known.2]
      cases raise.reports with
      | false => rfl
      | true =>
          rw [if_pos rfl]
          cases tree.firstToken image <;> rfl
    rw [Lists.map_filter_zip decided]
    refine List.Perm.trans (.of_eq ?_) (perm.filter (decides tree)).symm
    rw [List.filter_filter, reported]
    apply List.filter_congr
    intro id _
    unfold decides
    cases decide (tree.kind? id = some .raiseStatement) <;> simp

/-- Three bare raises in `finally` blocks: in a function that is called on leaving a context, in a
function that is defined in such a block, and in the block itself. -/
def finallySource : List Char :=
  "def __exit__():
    try: pass
    finally: raise
try: pass
finally:
    def f(): raise
    raise
".toList

/-- Of the three raises only the last one is reported. -/
theorem reported_finallySource :
    let program := Program.readOrEmpty finallySource
    let text := SourceText.lexOrEmpty finallySource
    let tree := (Branch.ofProgram program text).toTree
    tree.FunctionsNamed ∧ (found program).map (·.reports) = [false, false, true] ∧
      (reported tree).Perm
        ((((found program).zip (images program text)).filter (·.1.reports)).map (·.2)) ∧
      (reported tree).length = 1 := by
  intro program text tree
  have named : tree.FunctionsNamed := by decide +kernel
  exact ⟨named, by decide +kernel, (reported_perm_descent program text named).2.2.2,
    by decide +kernel⟩

end BareRaise

end StructuralLint
