import StructuralLint.Proofs.Tree.Roles

/-!
# Parts in source order

A node has its children in the order in which they stand in the text, and its attributes in the
order in which they were given. Arranging the parts moves none of them past another one that starts
later, so the two orders agree on a role if the drafts that were given in it are in the order of
their starts (`Placed.playing_eq_standing_of_completes`). In the tree the numbers of such attributes
increase (`Placed.Lies.pairwise_attributes`).

Numbers are also the order of the tokens: of two nodes that do not lie in each other, the one with
the smaller number has the earlier first token (`Placed.Lies.index_lt`).
-/

namespace StructuralLint

namespace Draft

variable {role : Option Role} {part : Slot × Draft} {parts : List (Slot × Draft)}
  {given : List (Option Role × Draft)}

/-- No draft starts before one that is listed earlier. -/
def StartInOrder (drafts : List Draft) : Prop :=
  drafts.Pairwise fun left right => right.span.start.before left.span.start = false

instance (drafts : List Draft) : Decidable (StartInOrder drafts) :=
  inferInstanceAs (Decidable (drafts.Pairwise _))

theorem filter_insertPart_of_ne (other : part.1.role ≠ role) (parts : List (Slot × Draft)) :
    (insertPart part parts).filter (·.1.role = role) = parts.filter (·.1.role = role) := by
  induction parts with
  | nil => simp [insertPart, other]
  | cons head rest ih =>
      rw [insertPart]
      split
      · rw [List.filter_cons, List.filter_cons, ih]
      · rw [List.filter_cons_of_neg (by simpa using other)]

/-- A part is put before all parts in its role that do not start before it. -/
theorem filter_insertPart_of_eq (own : part.1.role = role)
    (behind : ∀ other ∈ parts.filter (·.1.role = role),
      other.2.span.start.before part.2.span.start = false) :
    (insertPart part parts).filter (·.1.role = role) = part :: parts.filter (·.1.role = role) := by
  induction parts with
  | nil => simp [insertPart, own]
  | cons head rest ih =>
      rw [insertPart]
      split
      · rename_i earlier
        have other : ¬head.1.role = role := by
          intro same
          have late := behind head (List.mem_filter.mpr ⟨List.mem_cons_self, by simpa using same⟩)
          rw [earlier] at late
          cases late
        rw [List.filter_cons_of_neg (by simpa using other)] at behind
        rw [List.filter_cons_of_neg (by simpa using other), ih behind,
          List.filter_cons_of_neg (by simpa using other)]
      · rw [List.filter_cons_of_pos (by simpa using own)]

theorem inRole_eq_slots (role : Option Role) (given : List (Option Role × Draft)) :
    inRole role given = ((slots given).filter (·.1.role = role)).map (·.2) := by
  conv_lhs => rw [← map_role_slots given]
  rw [inRole, List.filter_map, List.map_map]
  rfl

/-- Parts that start in the order in which they were given in a role stay in this order. -/
theorem filter_arrange (ordered : StartInOrder (inRole role given)) :
    (arrange given).filter (·.1.role = role) = (slots given).filter (·.1.role = role) := by
  rw [StartInOrder, inRole_eq_slots, List.pairwise_map] at ordered
  rw [arrange, ← slots]
  generalize slots given = parts at ordered
  induction parts with
  | nil => rfl
  | cons part rest ih =>
      rw [List.foldr_cons]
      by_cases own : part.1.role = role
      · rw [List.filter_cons_of_pos (by simpa using own)] at ordered ⊢
        obtain ⟨behind, ordered⟩ := List.pairwise_cons.mp ordered
        have same := ih ordered
        rw [filter_insertPart_of_eq own (by rwa [same]), same]
      · rw [List.filter_cons_of_neg (by simpa using own)] at ordered ⊢
        rw [filter_insertPart_of_ne own, ih ordered]

theorem pairwise_place_slots (given : List (Option Role × Draft)) :
    (slots given).Pairwise (·.1.place < ·.1.place) := by
  have places := places_slots given
  rw [← List.pairwise_map (f := fun part : Slot × Draft => part.1.place) (R := (· < ·)), places]
  exact List.pairwise_lt_range

end Draft

namespace Placed

variable {placed : Placed} {role : Role}

/-- The parts that play a role for the node, as they stand in the text. -/
def standing (placed : Placed) (role : Role) : List Placed :=
  (placed.slotted.filter (·.1.role = some role)).map (·.2)

theorem playing_eq (placed : Placed) (role : Role) :
    placed.playing role = (placed.bySlot.filter (·.1.role = some role)).map (·.2) := by
  rw [playing, parts, List.filter_map, List.map_map]
  rfl

theorem playing_perm_standing (placed : Placed) (role : Role) :
    (placed.playing role).Perm (placed.standing role) := by
  rw [playing_eq]
  exact (placed.bySlot_perm.filter _).map _

/-- Sorting by place leaves parts alone whose places increase. -/
theorem playing_eq_standing
    (ordered : (placed.slotted.filter (·.1.role = some role)).Pairwise (·.1.place ≤ ·.1.place)) :
    placed.playing role = placed.standing role := by
  have kept : (placed.slotted.filter (·.1.role = some role)).Sublist
      (placed.bySlot.filter (·.1.role = some role)) := by
    have stable := List.sublist_insertionSort ordered List.filter_sublist
    rw [← bySlot] at stable
    simpa only [List.filter_filter, Bool.and_self] using stable.filter (·.1.role = some role)
  rw [playing_eq, standing,
    kept.eq_of_length ((placed.bySlot_perm.filter _).length_eq.symm)]

/-- Parts that start in the order in which they were given play their role in source order. -/
theorem playing_eq_standing_of_completes {form : Form} {span : Span} {fields : Fields}
    {given : List (Option Role × Draft)}
    (completes : Branch.Completes (.ofSpan form span fields given) placed.branch)
    (ordered : Draft.StartInOrder (Draft.inRole (some role) given)) :
    placed.playing role = placed.standing role := by
  have chosen : List.Forall₂ (fun (item : Slot × Draft) (part : Slot × Placed) => item.1 = part.1)
      (((Draft.arrange given).filter (·.2.isNode)).filter (·.1.role = some role))
      (placed.slotted.filter (·.1.role = some role)) := by
    apply List.rel_filter _ ((slotted_of_completes completes).imp fun _ _ related => related.1)
    intro item part same
    simp [same]
  have places := Lists.map_eq (f := fun item : Slot × Draft => item.1.place)
    (g := fun part : Slot × Placed => part.1.place) chosen fun _ _ same => congrArg (·.place) same
  rw [List.filter_comm, Draft.filter_arrange ordered] at places
  apply playing_eq_standing
  rw [← List.pairwise_map (f := fun part : Slot × Placed => part.1.place) (R := (· ≤ ·)), ← places,
    List.pairwise_map]
  exact ((Draft.pairwise_place_slots given).sublist
    (List.filter_sublist.trans List.filter_sublist)).imp Nat.le_of_lt

/-- What only parts in one role contribute to is found in the order of these parts. -/
theorem flatMap_children_of_forall {β : Type} (f : Placed → List β)
    (others : ∀ slot child, (slot, child) ∈ placed.children →
      (∀ own : Slot, slot = some own → own.role ≠ some role) → f child = []) :
    (placed.children.flatMap fun child => f child.2) = (placed.standing role).flatMap f := by
  rw [standing, slotted]
  generalize placed.children = children at others
  induction children with
  | nil => rfl
  | cons head rest ih =>
      obtain ⟨slot, child⟩ := head
      have later := ih fun slot child member => others slot child (List.mem_cons_of_mem _ member)
      have none := others slot child List.mem_cons_self
      rw [List.flatMap_cons, later, List.filterMap_cons]
      cases slot with
      | none => rw [none (by simp)]; rfl
      | some slot =>
          by_cases own : slot.role = some role
          · simp [own]
          · rw [none (by simpa using own)]
            simp [own]

/-! ### Numbers of children -/

theorem first_le_id (placed : Placed) : placed.first ≤ placed.id := by
  have positive := placed.branch.size_pos
  rw [id]
  omega

/-- Everything in one part has a smaller number than what is in the other. -/
def Apart (left right : Placed) : Prop := left.id < right.first

theorem Apart.id_lt {left right : Placed} (apart : left.Apart right) : left.id < right.id :=
  Nat.lt_of_lt_of_le apart right.first_le_id

/-- Everything in a child has a smaller number than what is in the children to its right. -/
theorem pairwise_children (placed : Placed) :
    placed.children.Pairwise fun left right => left.2.Apart right.2 := by
  obtain ⟨first, branch⟩ := placed
  cases branch with
  | leaf token => exact .nil
  | node form fields children =>
      rw [children_node]
      induction children generalizing first with
      | nil => exact .nil
      | cons head rest ih =>
          refine List.pairwise_cons.mpr ⟨fun later member => ?_, ih _⟩
          obtain ⟨left, right, -, place⟩ := mem_row member
          have positive := head.2.size_pos
          simp only [Apart, place, id]
          omega

theorem pairwise_standing (placed : Placed) (role : Role) :
    (placed.standing role).Pairwise Apart := by
  rw [standing, List.pairwise_map, slotted]
  apply List.Pairwise.filter
  refine List.pairwise_filterMap.mpr (placed.pairwise_children.imp ?_)
  intro left right before part own part' own'
  obtain ⟨slot, -, rfl⟩ := Option.map_eq_some_iff.mp own
  obtain ⟨slot', -, rfl⟩ := Option.map_eq_some_iff.mp own'
  exact before

theorem pairwise_standing_ids (placed : Placed) (role : Role) :
    ((placed.standing role).map (·.id)).Pairwise (· < ·) :=
  List.pairwise_map.mpr ((placed.pairwise_standing role).imp Apart.id_lt)

/-- Attributes that start in the order in which they were given stand in the tree in this order. -/
theorem Lies.pairwise_attributes {branch : Branch} {above : List Placed}
    (lies : Lies branch.whole placed above) (sound : branch.Sound) (other : role.isMark = false)
    (same : placed.playing role = placed.standing role) :
    (branch.toTree.attributes placed.id role).Pairwise (· < ·) := by
  rw [lies.attributes_of_sound sound other, same]
  exact placed.pairwise_standing_ids role

/-! ### Numbers and tokens -/

/-- The numbers of a branch lie between those of the branch around it. -/
structure Within (inner outer : Placed) : Prop where
  first : outer.first ≤ inner.first
  last : inner.id ≤ outer.id

theorem Within.refl (placed : Placed) : placed.Within placed := ⟨Nat.le_refl _, Nat.le_refl _⟩

theorem Within.trans {inner middle outer : Placed} (lower : inner.Within middle)
    (upper : middle.Within outer) : inner.Within outer :=
  ⟨upper.first.trans lower.first, lower.last.trans upper.last⟩

theorem Apart.within {left right inner inner' : Placed} (apart : left.Apart right)
    (below : inner.Within left) (below' : inner'.Within right) : inner.Apart inner' :=
  Nat.lt_of_le_of_lt below.last (Nat.lt_of_lt_of_le apart below'.first)

theorem within_child {child : Placed} {slot : Option Slot}
    (member : (slot, child) ∈ placed.children) : child.Within placed := by
  refine ⟨?_, Nat.le_of_lt (id_child_lt member)⟩
  obtain ⟨first, branch⟩ := placed
  cases branch with
  | leaf token => cases member
  | node form fields children =>
      obtain ⟨left, right, -, place⟩ := mem_row member
      rw [place]
      exact Nat.le_add_right _ _

theorem Lies.within {root : Placed} {above : List Placed} (lies : Lies root placed above) :
    placed.Within root := by
  induction lies with
  | root => exact .refl _
  | child _ member ih => exact (within_child member).trans ih

/-- Of two children the one with the smaller number stands to the left. -/
theorem apart_of_children {left right : Placed} {slot slot' : Option Slot}
    (member : (slot, left) ∈ placed.children) (member' : (slot', right) ∈ placed.children)
    (smaller : left.id < right.id) : left.Apart right := by
  obtain ⟨i, inside, found⟩ := List.getElem_of_mem member
  obtain ⟨j, inside', found'⟩ := List.getElem_of_mem member'
  have ordered := List.pairwise_iff_getElem.mp placed.pairwise_children
  rcases Nat.lt_trichotomy i j with before | same | after
  · simpa only [found, found'] using ordered i j inside inside' before
  · subst same
    rw [found] at found'
    cases found'
    exact absurd smaller (Nat.lt_irrefl _)
  · have apart : right.Apart left := by
      simpa only [found, found'] using ordered j i inside' inside after
    exact absurd smaller (Nat.lt_asymm apart.id_lt)

/-- Of two nodes that do not lie in each other, the one with the smaller number stands to the
left. -/
theorem Lies.apart {root left right : Placed} {above above' : List Placed}
    (lies : Lies root left above) (lies' : Lies root right above') (smaller : left.id < right.id)
    (outside : ∀ between, ¬Lies right left between) : left.Apart right := by
  by_contra overlap
  have bound : right.first ≤ left.id := Nat.le_of_not_lt overlap
  have positive := right.branch.size_pos
  have listed : left.id ∈ right.preorder.map (·.id) := by
    rw [right.preorder_ids_perm.mem_iff, List.mem_range'_1]
    simp only [id] at smaller bound ⊢
    omega
  obtain ⟨below, member, same⟩ := List.mem_map.mp listed
  obtain ⟨between, lower⟩ := mem_preorder_iff.mp member
  obtain rfl := Lies.eq_of_id (lower.trans lies') lies same
  exact outside between lower

/-- The tokens below a node are numbered from left to right. -/
theorem pairwise_leaves (placed : Placed) : placed.leaves.Pairwise (·.id < ·.id) := by
  induction placed using Placed.induction with
  | step placed ih =>
      cases leaf : placed.isLeaf with
      | true =>
          rw [leaves_of_isLeaf leaf]
          exact List.pairwise_singleton _ _
      | false =>
          rw [leaves_of_not_isLeaf leaf, List.pairwise_flatMap]
          refine ⟨ih, placed.pairwise_children.imp ?_⟩
          intro left right apart leaf member leaf' member'
          obtain ⟨_, lower⟩ := mem_preorder_iff.mp (List.mem_of_mem_filter member)
          obtain ⟨_, lower'⟩ := mem_preorder_iff.mp (List.mem_of_mem_filter member')
          exact (Apart.within apart lower.within lower'.within).id_lt

/-- The way through first children ends at a token below the node. -/
theorem Lies.exists_leaf_of_firstToken {branch : Branch} {above : List Placed} {word : NodeId}
    (lies : Lies branch.whole placed above) (sound : branch.TokensAreLeaves)
    (found : branch.toTree.firstToken placed.id = some word) :
    ∃ leaf between, Lies placed leaf between ∧ leaf.isLeaf = true ∧ leaf.id = word := by
  rw [Tree.firstToken] at found
  generalize placed.id + 1 = depth at found
  induction depth generalizing placed above with
  | zero => cases found
  | succ depth ih =>
      rw [Tree.firstTokenTo, lies.isToken_toTree sound, lies.children_toTree] at found
      cases leaf : placed.isLeaf with
      | true =>
          rw [if_pos leaf, Option.some.injEq] at found
          exact ⟨placed, [], .root, leaf, found⟩
      | false =>
          rw [if_neg (by simp [leaf])] at found
          cases children : placed.children with
          | nil =>
              rw [children] at found
              cases found
          | cons child rest =>
              rw [children] at found
              have member : child ∈ placed.children := children ▸ List.mem_cons_self
              obtain ⟨below, between, lower, own⟩ := ih (.child lies member) found
              exact ⟨below, _, lower.trans (.child .root member), own⟩

/-- The place of a token among the tokens of the tree is its index. -/
theorem Lies.getElem?_leaves {branch : Branch} {above : List Placed} {token : Token}
    (lies : Lies branch.whole placed above) (numbered : Token.Numbered branch.tokens)
    (form : placed.form = .token token) (leaf : placed.isLeaf = true) :
    branch.whole.leaves[token.index]? = some placed := by
  have member : placed ∈ branch.whole.leaves :=
    List.mem_filter.mpr ⟨mem_preorder_iff.mpr ⟨above, lies⟩, leaf⟩
  obtain ⟨place, listed⟩ := List.mem_iff_getElem?.mp member
  have forms := congrArg (·[place]?) branch.whole.map_form_leaves
  simp only [List.getElem?_map, listed, Option.map_some, form] at forms
  obtain ⟨own, found, same⟩ := Option.map_eq_some_iff.mp forms.symm
  rw [numbered place token (Form.token.inj same ▸ found)]
  exact listed

/-- Of two tokens the one with the smaller number stands earlier in the stream. -/
theorem index_lt_of_leaves {branch : Branch} {above above' : List Placed} {left right : Placed}
    {token token' : Token} (numbered : Token.Numbered branch.tokens)
    (lies : Lies branch.whole left above) (lies' : Lies branch.whole right above')
    (form : left.form = .token token) (form' : right.form = .token token')
    (leaf : left.isLeaf = true) (leaf' : right.isLeaf = true) (smaller : left.id < right.id) :
    token.index < token'.index := by
  obtain ⟨inside, found⟩ := List.getElem?_eq_some_iff.mp (lies.getElem?_leaves numbered form leaf)
  obtain ⟨inside', found'⟩ :=
    List.getElem?_eq_some_iff.mp (lies'.getElem?_leaves numbered form' leaf')
  have ordered := List.pairwise_iff_getElem.mp branch.whole.pairwise_leaves
  rcases Nat.lt_trichotomy token.index token'.index with before | same | after
  · exact before
  · simp only [same, found'] at found
    rw [found] at smaller
    exact absurd smaller (Nat.lt_irrefl _)
  · have larger := ordered _ _ inside' inside after
    rw [found, found'] at larger
    exact absurd smaller (Nat.lt_asymm larger)

/-- **Numbers are the order of the tokens.** Of two nodes that do not lie in each other, the one
with the smaller number has the earlier first token. -/
theorem Lies.index_lt {branch : Branch} {above above' : List Placed} {left right : Placed}
    {word word' : NodeId} {token token' : Token} (lies : Lies branch.whole left above)
    (lies' : Lies branch.whole right above') (sound : branch.TokensAreLeaves)
    (numbered : Token.Numbered branch.tokens) (apart : left.Apart right)
    (starts : branch.toTree.firstToken left.id = some word)
    (starts' : branch.toTree.firstToken right.id = some word')
    (held : branch.toTree.token? word = some token)
    (held' : branch.toTree.token? word' = some token') : token.index < token'.index := by
  obtain ⟨leaf, between, lower, own, rfl⟩ := lies.exists_leaf_of_firstToken sound starts
  obtain ⟨leaf', between', lower', own', rfl⟩ := lies'.exists_leaf_of_firstToken sound starts'
  have below := lower.trans lies
  have below' := lower'.trans lies'
  have form {leaf : Placed} {above : List Placed} {token : Token}
      (lies : Lies branch.whole leaf above) (own : leaf.isLeaf = true)
      (held : branch.toTree.token? leaf.id = some token) : leaf.form = .token token := by
    obtain ⟨other, form⟩ := form_of_isLeaf own
    rw [Tree.token?, lies.form?_toTree, form, Option.some.injEq] at held
    rw [form, held]
  exact index_lt_of_leaves numbered below below' (form below own held) (form below' own' held') own
    own' (apart.within lower.within lower'.within).id_lt

end Placed

end StructuralLint
