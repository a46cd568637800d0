import StructuralLint.Proofs.Tree.Drafting

/-!
# Branches that complete drafts

What holds of a draft all the way down holds of every branch that completes it, for every node
below it is a token that was handed out or completes a part of the draft
(`Placed.Lies.isLeaf_or_completes`). So each node of the tree of a program has the parts that its
form asks for (`Placed.Lies.shaped`).
-/

namespace StructuralLint

namespace Branch

theorem Completes.tokensAreLeaves {draft : Draft} {branch : Branch}
    (completes : Completes draft branch) (sound : draft.TokensAreLeaves) :
    branch.TokensAreLeaves := by
  induction branch generalizing draft with
  | leaf token => exact .leaf token
  | node form fields children ih =>
      cases completes with
      | node _ span _ parts tokens =>
          cases sound with
          | node other below =>
              refine .node other ?_
              rintro ⟨slot, child⟩ member
              cases slot with
              | none =>
                  obtain ⟨token, rfl⟩ := leaf_of_slotless member
                  exact .leaf token
              | some slot =>
                  obtain ⟨part, among, completes⟩ := completes_of_slot member
                  exact ih _ member completes (below _ among)

theorem Completes.isNode {draft : Draft} {branch : Branch} (completes : Completes draft branch) :
    draft.isNode = true := by
  cases completes
  rfl

/-- What is completed is a node, and its parts are such as its form has. -/
theorem Completes.exists_fitting {draft : Draft} {branch : Branch}
    (completes : Completes draft branch) (shaped : draft.Shaped) :
    ∃ form span fields parts, draft = .node form span fields parts ∧
      Draft.Fitting form fields parts := by
  cases shaped with
  | leaf token => exact absurd completes.isNode (by simp [Draft.isNode])
  | node fitting _ => exact ⟨_, _, _, _, rfl, fitting⟩

end Branch

namespace Placed

/-- The parts of a node are such as its form has, and it holds those that play a role. -/
structure Shaped (placed : Placed) : Prop where
  isNode : placed.isLeaf = false
  proper : placed.form.isProper = true
  slotless : ∀ child, (none, child) ∈ placed.children → child.isLeaf = true
  admitted : ∀ slot child, (some slot, child) ∈ placed.children →
    child.isLeaf = false ∧ placed.form.admits slot.role child.form = true
  single : ∀ role : Role, role.isSingle = true → (placed.playing role).length ≤ 1
  marked : ∀ mark ∈ placed.fields.tokens, mark.1.isMark = true
  holds : ∀ role, placed.Holds role
  places : (placed.slotted.map (·.1.place)).Nodup

theorem Shaped.unmarked {placed : Placed} (shaped : placed.Shaped) {role : Role}
    (other : role.isMark = false) : ∀ mark ∈ placed.fields.tokens, mark.1 ≠ role := by
  rintro mark member rfl
  exact absurd (shaped.marked mark member) (by simp [other])

theorem form_of_completes {placed : Placed} {draft : Draft}
    (completes : Branch.Completes draft placed.branch) : placed.form = draft.form := by
  obtain ⟨first, branch⟩ := placed
  cases completes
  rfl

theorem isLeaf_of_completes {placed : Placed} {draft : Draft}
    (completes : Branch.Completes draft placed.branch) : placed.isLeaf = false := by
  obtain ⟨first, branch⟩ := placed
  cases completes
  rfl

/-- The children without a slot are the tokens that were handed out. -/
theorem isLeaf_eq_isNone {placed child : Placed} {slot : Option Slot} {draft : Draft}
    (completes : Branch.Completes draft placed.branch)
    (member : (slot, child) ∈ placed.children) : child.isLeaf = slot.isNone := by
  obtain ⟨first, branch⟩ := placed
  cases completes with
  | node form span fields parts tokens =>
      obtain ⟨left, right, split, -⟩ := mem_row member
      have among : (slot, child.branch) ∈ Branch.ofParts parts tokens := by simp [split]
      cases slot with
      | none =>
          obtain ⟨token, leaf⟩ := Branch.leaf_of_slotless among
          rw [isLeaf, leaf]
          rfl
      | some slot =>
          obtain ⟨part, -, inner⟩ := Branch.completes_of_slot among
          exact isLeaf_of_completes inner

/-- A child is a token that was handed out or completes a part. -/
theorem isLeaf_or_completes_child {placed child : Placed} {slot : Option Slot} {draft : Draft}
    (completes : Branch.Completes draft placed.branch) (shaped : draft.Shaped)
    (member : (slot, child) ∈ placed.children) :
    child.isLeaf = true ∧ slot = none ∨
      ∃ part, part.Shaped ∧ Branch.Completes part child.branch ∧
        ∃ slot', slot = some slot' ∧ draft.form.admits slot'.role part.form = true := by
  cases slot with
  | none => exact .inl ⟨isLeaf_eq_isNone completes member, rfl⟩
  | some slot =>
      obtain ⟨first, branch⟩ := placed
      cases completes with
      | node form span fields parts tokens =>
          cases shaped with
          | node fitting below =>
              obtain ⟨left, right, split, -⟩ := mem_row member
              have among : (some slot, child.branch) ∈ Branch.ofParts parts tokens := by
                simp [split]
              obtain ⟨part, given, completes⟩ := Branch.completes_of_slot among
              exact .inr ⟨part, below _ given, completes, slot, rfl,
                fitting.admitted _ given (.inl completes.isNode)⟩

namespace Lies

variable {root placed : Placed} {above : List Placed} {draft : Draft}

/-- Whatever is below a branch that completes a draft is a token that was handed out, or completes
a part of the draft. -/
theorem isLeaf_or_completes (lies : Lies root placed above)
    (completes : Branch.Completes draft root.branch) (shaped : draft.Shaped) :
    placed.isLeaf = true ∨ ∃ part, part.Shaped ∧ Branch.Completes part placed.branch := by
  induction lies with
  | root => exact .inr ⟨draft, shaped, completes⟩
  | child _ member ih =>
      rcases ih with leaf | ⟨part, shaped, completes⟩
      · rw [children_of_isLeaf leaf] at member
        simp at member
      · rcases isLeaf_or_completes_child completes shaped member with
          ⟨leaf, -⟩ | ⟨part, shaped, completes, -⟩
        · exact .inl leaf
        · exact .inr ⟨part, shaped, completes⟩

end Lies

theorem length_playing {placed : Placed} (role : Role) :
    (placed.playing role).length = (placed.slotted.map (·.1.role)).count (some role) := by
  rw [← (placed.bySlot_perm.map (·.1.role)).count_eq, playing, List.length_map, parts,
    List.filter_map, List.length_map, List.count, List.countP_map, List.countP_eq_length_filter]
  congr 2
  funext part
  exact Bool.beq_eq_decide_eq _ _ |>.symm

theorem fields_of_completes {placed : Placed} {form : Form} {span : Span} {fields : Fields}
    {parts : List (Slot × Draft)}
    (completes : Branch.Completes (.node form span fields parts) placed.branch) :
    placed.fields = fields := by
  obtain ⟨first, branch⟩ := placed
  cases completes
  rfl

/-- A node has as many parts in a role as its draft, for all of these are nodes. -/
theorem length_playing_of_fitting {placed : Placed} {form : Form} {fields : Fields}
    {parts : List (Slot × Draft)} (fitting : Draft.Fitting form fields parts)
    (roles : (parts.filter (·.2.isNode)).map (·.1.role) = placed.slotted.map (·.1.role))
    (role : Role) :
    (placed.playing role).length = (parts.map (·.1.role)).count (some role) := by
  rw [length_playing, ← roles]
  simp only [List.count, List.countP_map, List.countP_filter]
  refine List.countP_congr fun part member => ?_
  have inner (own : part.1.role = some role) : part.2.isNode = true := by
    have fits := fitting.admitted part member (.inr (by rw [own]; rfl))
    rw [own] at fits
    exact Draft.isNode_of_admits fits
  simpa using inner

/-- A node that completes a draft of the right shape has the right shape. -/
theorem shaped_of_completes {placed : Placed} {draft : Draft}
    (completes : Branch.Completes draft placed.branch) (shaped : draft.Shaped) :
    placed.Shaped := by
  obtain ⟨form, span, fields, parts, rfl, fitting⟩ := completes.exists_fitting shaped
  have slots := slotted_of_completes completes
  have counts := length_playing_of_fitting fitting
    (Lists.map_eq slots fun _ _ related => congrArg (·.role) related.1)
  have held := fields_of_completes completes
  refine
    { isNode := isLeaf_of_completes completes
      proper := form_of_completes completes ▸ fitting.proper
      slotless := ?_
      admitted := ?_
      single := ?_
      marked := ?_
      holds := ?_
      places := ?_ }
  · intro child member
    rcases isLeaf_or_completes_child completes shaped member with ⟨leaf, -⟩ | ⟨_, _, _, _, none, _⟩
    · exact leaf
    · cases none
  · intro slot child member
    rcases isLeaf_or_completes_child completes shaped member with
      ⟨-, none⟩ | ⟨part, -, inner, slot', same, admits⟩
    · cases none
    · cases same
      rw [form_of_completes completes, form_of_completes inner]
      exact ⟨isLeaf_of_completes inner, admits⟩
  · exact fun role alone => (counts role).trans_le (fitting.single role alone)
  · exact held ▸ fitting.agrees.marked
  · intro role
    rw [Holds, held, counts]
    exact fitting.agrees.held role
  · have places := Lists.map_eq slots (f := (·.1.place)) (g := (·.1.place))
      fun _ _ related => congrArg (·.place) related.1
    rw [← places]
    exact fitting.places.sublist (List.filter_sublist.map _)

/-- **Every node has its shape.** Below a branch that completes a draft of the right shape there
are only tokens that were handed out and nodes of the right shape. -/
theorem Lies.shaped {root placed : Placed} {above : List Placed} {draft : Draft}
    (lies : Lies root placed above) (completes : Branch.Completes draft root.branch)
    (sound : draft.Shaped) : placed.isLeaf = true ∨ placed.Shaped := by
  rcases lies.isLeaf_or_completes completes sound with leaf | ⟨part, shaped, completes⟩
  · exact .inl leaf
  · exact .inr (shaped_of_completes completes shaped)

theorem isLeaf_of_form {placed : Placed} (other : ∀ token, placed.form ≠ .token token) :
    placed.isLeaf = false := by
  obtain ⟨first, branch⟩ := placed
  cases branch with
  | leaf token => exact absurd rfl (other token)
  | node form fields children => rfl

theorem form_of_isLeaf {placed : Placed} (leaf : placed.isLeaf = true) :
    ∃ token, placed.form = .token token := by
  obtain ⟨first, branch⟩ := placed
  cases branch with
  | leaf token => exact ⟨token, rfl⟩
  | node form fields children => cases leaf

/-- A node that is no token has the right shape. -/
theorem shaped_of_form {placed : Placed} (either : placed.isLeaf = true ∨ placed.Shaped)
    (other : ∀ token, placed.form ≠ .token token) : placed.Shaped := by
  rcases either with leaf | shaped
  · obtain ⟨token, form⟩ := form_of_isLeaf leaf
    exact absurd form (other token)
  · exact shaped

/-- A node with children has the right shape. -/
theorem shaped_of_child {placed child : Placed} {slot : Option Slot}
    (either : placed.isLeaf = true ∨ placed.Shaped) (member : (slot, child) ∈ placed.children) :
    placed.Shaped := by
  rcases either with leaf | shaped
  · rw [children_of_isLeaf leaf] at member
    simp at member
  · exact shaped

/-- A number and a slot belong to one child only. -/
theorem eq_of_children {parent child child' : Placed} {slot slot' : Option Slot}
    (member : (slot, child) ∈ parent.children) (member' : (slot', child') ∈ parent.children)
    (same : child.id = child'.id) : slot = slot' ∧ child = child' := by
  have pair := List.inj_on_of_nodup_map parent.children_ids_nodup member member' same
  exact ⟨congrArg Prod.fst pair, congrArg Prod.snd pair⟩

end Placed

/-! ### Trees of sound branches -/

namespace Branch

/-- All nodes of the branch have the shape that their forms ask for. -/
def Sound (branch : Branch) : Prop :=
  ∀ placed above, Placed.Lies branch.whole placed above → placed.isLeaf = true ∨ placed.Shaped

theorem sound_ofProgram (program : Program) (text : SourceText) :
    (ofProgram program text).Sound :=
  fun _ _ lies => lies.shaped (Draft.completes_ofProgram program text)
    (Draft.shaped_ofProgram program text)

theorem tokensAreLeaves_ofProgram (program : Program) (text : SourceText) :
    (ofProgram program text).TokensAreLeaves :=
  (Draft.completes_ofProgram program text).tokensAreLeaves
    (Draft.shaped_ofProgram program text).tokensAreLeaves

variable {branch : Branch}

theorem mem_children_toTree {id child : NodeId} :
    child ∈ branch.toTree.children id ↔
      ∃ parent above slot lower, Placed.Lies branch.whole parent above ∧ parent.id = id ∧
        (slot, lower) ∈ parent.children ∧ lower.id = child := by
  constructor
  · intro member
    have inside : id < branch.size := by
      by_contra outside
      rw [Tree.children,
        Array.getElem?_eq_none (by rw [size_toTree]; exact Nat.le_of_not_lt outside)]
        at member
      cases member
    obtain ⟨parent, above, lies, rfl⟩ := exists_lies branch inside
    rw [lies.children_toTree, List.mem_map] at member
    obtain ⟨⟨slot, lower⟩, among, same⟩ := member
    exact ⟨parent, above, slot, lower, lies, rfl, among, same⟩
  · rintro ⟨parent, above, slot, lower, lies, rfl, among, rfl⟩
    rw [lies.children_toTree]
    exact List.mem_map.mpr ⟨_, among, rfl⟩

theorem parent?_of_mem_children {id child : NodeId} (member : child ∈ branch.toTree.children id) :
    branch.toTree.parent? child = some id := by
  obtain ⟨parent, above, slot, lower, lies, rfl, among, rfl⟩ := mem_children_toTree.mp member
  exact (Placed.Lies.child lies among).parent?_toTree

/-- A node is a child of one node only. -/
theorem eq_of_mem_children {id id' child : NodeId} (member : child ∈ branch.toTree.children id)
    (member' : child ∈ branch.toTree.children id') : id = id' := by
  have found := parent?_of_mem_children member
  rw [parent?_of_mem_children member'] at found
  exact (Option.some.inj found).symm

end Branch

namespace Placed.Lies

variable {branch : Branch} {placed : Placed} {above : List Placed}

/-- The attributes of a node in a role that no token plays. -/
theorem attributes_of_shaped (lies : Lies branch.whole placed above) (shaped : placed.Shaped)
    {role : Role} (other : role.isMark = false) :
    branch.toTree.attributes placed.id role = (placed.playing role).map (·.id) := by
  have unmarked : placed.fields.tokens.filter (·.1 = role) = [] :=
    List.filter_eq_nil_iff.mpr fun mark member => by simpa using shaped.unmarked other mark member
  rw [lies.attributes_toTree shaped.places (shaped.holds role), unmarked]
  rfl

/-- The same for every node, also for a token, which has no attributes. -/
theorem attributes_of_sound (lies : Lies branch.whole placed above) (sound : branch.Sound)
    {role : Role} (other : role.isMark = false) :
    branch.toTree.attributes placed.id role = (placed.playing role).map (·.id) := by
  rcases sound placed above lies with leaf | shaped
  · obtain ⟨first, inner⟩ := placed
    cases inner with
    | leaf token =>
        rw [Tree.attributes, lies.getElem?_toTree]
        rfl
    | node form fields children => cases leaf
  · exact lies.attributes_of_shaped shaped other

end Placed.Lies

namespace Branch

variable {branch : Branch}

theorem mem_attributes_toTree (sound : branch.Sound) {role : Role} (other : role.isMark = false)
    {id child : NodeId} :
    child ∈ branch.toTree.attributes id role ↔
      ∃ parent above lower, Placed.Lies branch.whole parent above ∧ parent.id = id ∧
        lower ∈ parent.playing role ∧ lower.id = child := by
  constructor
  · intro member
    have inside : id < branch.size := by
      by_contra outside
      rw [Tree.attributes,
        Array.getElem?_eq_none (by rw [size_toTree]; exact Nat.le_of_not_lt outside)] at member
      cases member
    obtain ⟨parent, above, lies, rfl⟩ := exists_lies branch inside
    rw [lies.attributes_of_sound sound other, List.mem_map] at member
    obtain ⟨lower, among, same⟩ := member
    exact ⟨parent, above, lower, lies, rfl, among, same⟩
  · rintro ⟨parent, above, lower, lies, rfl, among, rfl⟩
    rw [lies.attributes_of_sound sound other]
    exact List.mem_map_of_mem among

/-- Attributes are children. -/
theorem mem_children_of_mem_attributes (sound : branch.Sound) {role : Role}
    (other : role.isMark = false) {id child : NodeId}
    (member : child ∈ branch.toTree.attributes id role) : child ∈ branch.toTree.children id := by
  obtain ⟨parent, above, lower, lies, rfl, among, rfl⟩ :=
    (mem_attributes_toTree sound other).mp member
  obtain ⟨slot, -, among⟩ := Placed.mem_playing_iff.mp among
  exact mem_children_toTree.mpr ⟨parent, above, some slot, lower, lies, rfl, among, rfl⟩

/-- A child is a token, or such a part as the form of its parent has. -/
theorem form?_of_mem_children (sound : branch.Sound) {id child : NodeId} {form : Form}
    (found : branch.toTree.form? id = some form) (member : child ∈ branch.toTree.children id) :
    ∃ inner, branch.toTree.form? child = some inner ∧
      ((∃ token, inner = .token token) ∨ ∃ role, form.admits role inner = true) := by
  obtain ⟨parent, above, slot, lower, lies, rfl, among, rfl⟩ := mem_children_toTree.mp member
  rw [lies.form?_toTree, Option.some.injEq] at found
  subst found
  have shaped := Placed.shaped_of_child (sound parent above lies) among
  refine ⟨lower.form, (Placed.Lies.child lies among).form?_toTree, ?_⟩
  cases slot with
  | none => exact .inl (Placed.form_of_isLeaf (shaped.slotless lower among))
  | some slot => exact .inr ⟨slot.role, (shaped.admitted slot lower among).2⟩

end Branch

end StructuralLint
