import StructuralLint.Proofs.Reading
import StructuralLint.Proofs.Tree.Completion
import StructuralLint.Proofs.Tree.Walking

/-!
# Attributes and children

A node lists its children in order, and some of them once more by the part that they play. The two
are given apart when the node is made (`Fields`), and in the tree of a program both say the same
(`Tree.attribution`): what plays a part for a node is one of its children, and each of its children
that is no token plays one part for it, unless the node is no more than its kind and its children.
Each function that makes a node has to give it both alike (`Draft.Fitting.agrees`).
-/

namespace StructuralLint

open Program

namespace Form

/-- The parts that children of a node play for it. -/
def roles (form : Form) : List Role := form.partRoles.filterMap id

/-- Whether a node of this form is no more than its kind and its children. -/
def isPlain : Form → Bool
  | plain _ => true
  | _ => false

theorem mem_roles_iff {form : Form} {role : Role} :
    role ∈ form.roles ↔ some role ∈ form.partRoles := by
  rw [roles, List.mem_filterMap]
  constructor
  · rintro ⟨role', member, rfl⟩
    exact member
  · exact fun member => ⟨some role, member, rfl⟩

/-- No node plays the part of a token. -/
theorem isMark_of_admits {form part : Form} {role : Role}
    (fits : form.admits (some role) part = true) : role.isMark = false := by
  cases role <;> first
    | rfl
    | simp [admits] at fits

/-- A part without a role is a part of a plain node. -/
theorem isPlain_of_admits {form part : Form} (fits : form.admits none part = true) :
    form.isPlain = true := by
  cases form <;> first
    | rfl
    | simp [admits] at fits

end Form

/-- The attributes of a node tell the same of it as its children. -/
structure Tree.Attributed (tree : Tree) (id : NodeId) (form : Form) : Prop where
  /-- What is plain is of no kind that has a form of its own. -/
  plain : ∀ kind, form = .plain kind → kind.hasForm = false
  /-- What plays a part is a child, which is listed once and knows its parent. -/
  held : ∀ role child, role.isMark = false → child ∈ tree.attributes id role →
    role ∈ form.roles ∧ tree.isToken child = false ∧ tree.parent? child = some id ∧
      (tree.children id).count child = 1
  /-- A child that is no token plays one part, and plays it once. -/
  once : form.isPlain = false → ∀ child ∈ tree.children id, tree.isToken child = false →
    ∃ role ∈ form.roles, (tree.attributes id role).count child = 1 ∧
      ∀ other, other.isMark = false → child ∈ tree.attributes id other → other = role
  /-- There are parts that at most one child plays. -/
  single : ∀ role, role.isMark = false → role.isSingle = true →
    (tree.attributes id role).length ≤ 1

/-! ### The parts of a node -/

namespace Placed

variable {placed child : Placed} {role role' : Role}

/-- Parts are told apart by their numbers. -/
theorem nodup_playing_ids (placed : Placed) (role : Role) :
    ((placed.playing role).map (·.id)).Nodup := by
  have slotted : (placed.slotted.map (·.2.id)).Nodup := by
    refine placed.children_ids_nodup.sublist ?_
    rw [Placed.slotted, List.map_filterMap]
    induction placed.children with
    | nil => exact .refl _
    | cons item rest ih =>
        obtain ⟨slot, child⟩ := item
        cases slot with
        | none => exact ih.cons _
        | some slot => exact ih.cons_cons _
  have parts : (placed.parts.map (·.2.id)).Nodup := by
    rw [Placed.parts, List.map_map]
    exact (placed.bySlot_perm.map (·.2.id)).nodup_iff.mpr slotted
  rw [playing, List.map_map]
  exact parts.sublist (List.filter_sublist.map _)

/-- A child plays one part only. -/
theorem role_unique {other : Placed} (plays : child ∈ placed.playing role)
    (plays' : other ∈ placed.playing role') (same : child.id = other.id) : role = role' := by
  obtain ⟨slot, known, member⟩ := mem_playing_iff.mp plays
  obtain ⟨slot', known', member'⟩ := mem_playing_iff.mp plays'
  obtain ⟨slots, -⟩ := eq_of_children member member' same
  rw [Option.some.inj slots, known'] at known
  exact (Option.some.inj known).symm

end Placed

/-! ### Trees -/

namespace Branch

variable {branch : Branch}

theorem nodup_children_toTree (id : NodeId) : (branch.toTree.children id).Nodup := by
  by_cases inside : id < branch.size
  · obtain ⟨placed, above, lies, rfl⟩ := exists_lies branch inside
    rw [lies.children_toTree]
    exact placed.children_ids_nodup
  · rw [Tree.children, Array.getElem?_eq_none (by rw [size_toTree]; exact Nat.le_of_not_lt inside)]
    exact List.nodup_nil

end Branch

/-- A token has no attributes. -/
theorem Placed.Lies.attributed_of_isLeaf {branch : Branch} {placed : Placed} {above : List Placed}
    (lies : Lies branch.whole placed above) (sound : branch.Sound) (leaf : placed.isLeaf = true) :
    branch.toTree.Attributed placed.id placed.form := by
  have none (role : Role) (other : role.isMark = false) :
      branch.toTree.attributes placed.id role = [] := by
    rw [lies.attributes_of_sound sound other, List.map_eq_nil_iff, List.eq_nil_iff_forall_not_mem]
    intro child plays
    obtain ⟨slot, -, member⟩ := mem_playing_iff.mp plays
    rw [children_of_isLeaf leaf] at member
    exact absurd member List.not_mem_nil
  obtain ⟨token, form⟩ := form_of_isLeaf leaf
  constructor
  · intro kind plain
    rw [form] at plain
    cases plain
  · intro role child other member
    rw [none role other] at member
    cases member
  · intro _ child member
    rw [lies.children_toTree, children_of_isLeaf leaf] at member
    cases member
  · intro role other _
    rw [none role other]
    exact Nat.zero_le 1

theorem Placed.Lies.attributed_of_shaped {branch : Branch} {placed : Placed} {above : List Placed}
    (lies : Lies branch.whole placed above) (sound : branch.Sound)
    (leaves : branch.TokensAreLeaves) (shaped : placed.Shaped) :
    branch.toTree.Attributed placed.id placed.form := by
  have plays (role : Role) (other : role.isMark = false) :
      branch.toTree.attributes placed.id role = (placed.playing role).map (·.id) :=
    lies.attributes_of_sound sound other
  constructor
  · intro kind plain
    simpa [plain, Form.isProper] using shaped.proper
  · intro role child other member
    have listed := Branch.mem_children_of_mem_attributes sound other member
    rw [plays role other, List.mem_map] at member
    obtain ⟨lower, member, rfl⟩ := member
    obtain ⟨slot, known, among⟩ := mem_playing_iff.mp member
    obtain ⟨inner, admits⟩ := shaped.admitted slot lower among
    rw [known] at admits
    refine ⟨Form.mem_roles_iff.mpr (Form.mem_partRoles admits), ?_,
      Branch.parent?_of_mem_children listed,
      List.count_eq_one_of_mem (Branch.nodup_children_toTree _) listed⟩
    rw [(Lies.child lies among).isToken_toTree leaves, inner]
  · intro own child member inner
    rw [lies.children_toTree, List.mem_map] at member
    obtain ⟨⟨slot, lower⟩, among, rfl⟩ := member
    rw [(Lies.child lies among).isToken_toTree leaves] at inner
    cases slot with
    | none => exact absurd (shaped.slotless lower among) (by simp [inner])
    | some slot =>
        obtain ⟨-, admits⟩ := shaped.admitted slot lower among
        obtain ⟨role, place⟩ := slot
        cases role with
        | none => exact absurd (Form.isPlain_of_admits admits) (by simp [own])
        | some role =>
            have part : lower ∈ placed.playing role := mem_playing_iff.mpr ⟨_, rfl, among⟩
            have other : role.isMark = false := Form.isMark_of_admits admits
            refine ⟨role, Form.mem_roles_iff.mpr (Form.mem_partRoles admits), ?_, ?_⟩
            · rw [plays role other]
              exact List.count_eq_one_of_mem (placed.nodup_playing_ids role)
                (List.mem_map_of_mem part)
            · intro role' other' member
              rw [plays role' other', List.mem_map] at member
              obtain ⟨lower', part', same⟩ := member
              exact role_unique part' part same
  · intro role other alone
    rw [plays role other, List.length_map]
    exact shaped.single role alone

/-- **Attributes and children describe one tree.** In the tree of a program, with whatever tokens,
the attributes of every node are children that know their parent, and every child of a node with
attributes is held by one of them once, or it is a token. -/
theorem Tree.attribution (program : Program) (text : SourceText) :
    let tree := (Branch.ofProgram program text).toTree
    ∀ id form, tree.form? id = some form → tree.Attributed id form := by
  intro tree id form found
  have sound := Branch.sound_ofProgram program text
  have leaves := (Draft.completes_ofProgram program text).tokensAreLeaves
    (Draft.shaped_ofProgram program text).tokensAreLeaves
  obtain ⟨placed, above, lies, rfl, rfl⟩ := Tree.exists_lies_of_form? found
  rcases sound placed above lies with leaf | shaped
  · exact lies.attributed_of_isLeaf sound leaf
  · exact lies.attributed_of_shaped sound leaves shaped

/-- A loop with a clause after it. -/
def loopSource : List Char :=
  "for x in y: pass
else: raise z
".toList

/-- The loop holds its target, what it runs over, its body and the clause. -/
theorem Tree.attribution_loopSource :
    let tree := (Branch.ofProgram (.readOrEmpty loopSource) (.lexOrEmpty loopSource)).toTree
    tree.form? 17 = some (.forLoop false) ∧ tree.Attributed 17 (.forLoop false) ∧
      Form.roles (.forLoop false) = [.target, .iterable, .body, .elseClause] ∧
      (Form.roles (.forLoop false)).map (tree.attributes 17) = [[2], [5], [8], [16]] ∧
      tree.children 17 = [0, 2, 3, 5, 6, 8, 9, 16] := by
  intro tree
  have found : tree.form? 17 = some (.forLoop false) := by decide +kernel
  exact ⟨found, Tree.attribution _ _ 17 _ found, rfl, by decide +kernel, by decide +kernel⟩

end StructuralLint
