import StructuralLint.Proofs.Symbol.Parameters

/-!
# Scopes of drafts

What stands in one scope can be said of drafts, before any tokens are handed out: a part shares the
scope of its node (`Draft.Shares`) or stands inside of the scope that the node opens
(`Draft.Inside`). The nodes that complete the drafts then belong to the scopes just so: what stands
inside of a draft is completed by a node in its scope (`Placed.Lies.exists_of_inside`), and whatever
belongs to a scope completes a draft inside (`Placed.Lies.inside_of_belongs`).
-/

namespace StructuralLint

/-- Whether a part in a role stands in the scope that the node itself stands in. -/
def Form.passes (form : Form) (role : Option Role) : Bool :=
  match form, role with
  | .parameter, some .name => false
  | form, role => !form.holds role

theorem Form.passes_iff {form : Form} {role : Option Role} :
    form.passes role = true ↔
      form.holds role = false ∧ ¬(form = .parameter ∧ role = some .name) := by
  unfold passes
  split
  · simp
  · rename_i other
    rw [Bool.not_eq_true']
    exact ⟨fun outside => ⟨outside, fun ⟨form, role⟩ => other form role⟩, And.left⟩

namespace Draft

/-- `Shares kind found own draft`: `found` is the draft or stands below it, in the scope that the
draft stands in. What a name in its place is there for is `own` for the draft and `kind` for what is
found. -/
inductive Shares (kind : UsageKind) (found : Draft) : UsageKind → Draft → Prop
  | here : Shares kind found kind found
  | part {own : UsageKind} {draft part : Draft} {slot : Slot} : (slot, part) ∈ draft.parts →
      draft.form.passes slot.role = true →
        Shares kind found (draft.form.introduces slot.role) part → Shares kind found own draft

/-- `Inside kind found draft`: `found` stands in the scope that the draft opens. The names of
parameters stand in the scope of the function. -/
inductive Inside (kind : UsageKind) (found : Draft) (draft : Draft) : Prop
  | part {part : Draft} {slot : Slot} : (slot, part) ∈ draft.parts →
      draft.form.holds slot.role = true →
        Shares kind found (draft.form.introduces slot.role) part → Inside kind found draft
  | parameter {list entry name : Draft} {slot slot' slot'' : Slot} :
      (slot, list) ∈ draft.parts → slot.role = some .parameters →
        (slot', entry) ∈ list.parts → slot'.role = some .entry →
          (slot'', name) ∈ entry.parts → slot''.role = some .name → entry.form = .parameter →
            Shares kind found .parameter name → Inside kind found draft

variable {kind own : UsageKind} {found lower draft part : Draft} {slot : Slot}

/-- What stands below what is found is found as well. -/
theorem Shares.snoc (shares : Shares kind found own draft) (member : (slot, lower) ∈ found.parts)
    (passes : found.form.passes slot.role = true) :
    Shares (found.form.introduces slot.role) lower own draft := by
  induction shares with
  | here => exact .part member passes .here
  | part member' passes' _ ih => exact .part member' passes' ih

theorem Inside.snoc (inside : Inside kind found draft) (member : (slot, lower) ∈ found.parts)
    (passes : found.form.passes slot.role = true) :
    Inside (found.form.introduces slot.role) lower draft := by
  cases inside with
  | part given holds shares => exact .part given holds (shares.snoc member passes)
  | parameter list role entry role' name role'' form shares =>
      exact .parameter list role entry role' name role'' form (shares.snoc member passes)

/-- Only nodes have nodes below them. -/
theorem Shares.isNode (shares : Shares kind found own draft) (node : found.isNode = true) :
    draft.isNode = true := by
  cases shares with
  | here => exact node
  | part member _ _ =>
      cases draft with
      | leaf token => cases member
      | node => rfl

end Draft

/-! ### Scopes of what completes a draft -/

namespace Placed

variable {branch : Branch} {placed child : Placed} {draft part found : Draft} {slot : Slot}
  {above : List Placed} {kind own : UsageKind}

theorem exists_child_of_completes (completes : Branch.Completes draft placed.branch)
    (member : (slot, part) ∈ draft.parts) (node : part.isNode = true) :
    ∃ child, (some slot, child) ∈ placed.children ∧ Branch.Completes part child.branch := by
  cases draft with
  | leaf token => cases member
  | node form span fields parts =>
      have paired := slotted_of_completes completes
      obtain ⟨⟨slot', child⟩, among, same, inner⟩ := Lists.exists_left paired.flip
        (List.mem_filter.mpr ⟨member, node⟩)
      cases same
      exact ⟨child, mem_slotted_iff.mp among, inner⟩

theorem exists_part_of_completes (completes : Branch.Completes draft placed.branch)
    (member : (some slot, child) ∈ placed.children) :
    ∃ part, (slot, part) ∈ draft.parts ∧ Branch.Completes part child.branch := by
  obtain ⟨first, branch⟩ := placed
  cases completes with
  | node form span fields parts tokens =>
      obtain ⟨left, right, split, -⟩ := mem_row member
      have among : (some slot, child.branch) ∈ Branch.ofParts parts tokens := by simp [split]
      exact Branch.completes_of_slot among

theorem not_isLeaf_of_children (member : (some slot, child) ∈ placed.children) :
    placed.isLeaf = false := by
  cases leaf : placed.isLeaf with
  | false => rfl
  | true =>
      rw [children_of_isLeaf leaf] at member
      cases member

namespace Lies

/-- What shares the scope of a draft is completed by a node in the same scope. -/
theorem exists_of_shares (shares : Draft.Shares kind found own draft) (sound : branch.Sound)
    (node : found.isNode = true) (lies : Lies branch.whole placed above)
    (completes : Branch.Completes draft placed.branch)
    (same : branch.toTree.bindingKind placed.id = own) :
    ∃ lower between, Lies branch.whole lower between ∧ Branch.Completes found lower.branch ∧
      branch.toTree.bindingKind lower.id = kind ∧
        ∀ scope, branch.toTree.Belongs placed.id scope → branch.toTree.Belongs lower.id scope := by
  induction shares generalizing placed above with
  | here => exact ⟨placed, above, lies, completes, same, fun _ belongs => belongs⟩
  | part member passes shares ih =>
      obtain ⟨child, among, inner⟩ :=
        exists_child_of_completes completes member (shares.isNode node)
      rw [← form_of_completes completes] at passes
      obtain ⟨outside, other⟩ := Form.passes_iff.mp passes
      obtain ⟨lower, between, below, completes', same', belongs⟩ :=
        ih (.child lies among) inner (by
          rw [lies.bindingKind_child sound among, form_of_completes completes]
          rfl)
      exact ⟨lower, between, below, completes', same', fun scope stands =>
        belongs scope (lies.belongs_outside sound among outside other stands)⟩

/-- What stands inside of a draft is completed by a node in its scope. -/
theorem exists_of_inside (inside : Draft.Inside kind found draft) (sound : branch.Sound)
    (node : found.isNode = true) (lies : Lies branch.whole placed above)
    (completes : Branch.Completes draft placed.branch) :
    ∃ lower between, Lies branch.whole lower between ∧ Branch.Completes found lower.branch ∧
      branch.toTree.bindingKind lower.id = kind ∧ branch.toTree.Belongs lower.id placed.id := by
  cases inside with
  | part member holds shares =>
      obtain ⟨child, among, inner⟩ :=
        exists_child_of_completes completes member (shares.isNode node)
      rw [← form_of_completes completes] at holds
      obtain ⟨lower, between, below, completes', same, belongs⟩ :=
        exists_of_shares shares sound node (.child lies among) inner (by
          rw [lies.bindingKind_child sound among, form_of_completes completes]
          rfl)
      exact ⟨lower, between, below, completes', same,
        belongs _ (lies.belongs_inside sound among holds)⟩
  | @parameter list entry name _ _ _ member role member' role' member'' role'' form shares =>
      have inner (draft : Draft) (slot : Slot) (part : Draft) (among : (slot, part) ∈ draft.parts) :
          draft.isNode = true := by
        cases draft with
        | leaf token => cases among
        | node => rfl
      obtain ⟨lists, amongLists, completesList⟩ :=
        exists_child_of_completes completes member (inner _ _ _ member')
      obtain ⟨entries, amongEntries, completesEntry⟩ :=
        exists_child_of_completes completesList member' (inner _ _ _ member'')
      obtain ⟨names, amongNames, completesName⟩ :=
        exists_child_of_completes completesEntry member'' (shares.isNode node)
      have liesEntry : Lies branch.whole entries _ := .child (.child lies amongLists) amongEntries
      have formEntry := (form_of_completes completesEntry).trans form
      obtain ⟨lower, between, below, completes', same, belongs⟩ :=
        exists_of_shares shares sound node (.child liesEntry amongNames) completesName (by
          rw [liesEntry.bindingKind_child sound amongNames, formEntry, Option.bind_some, role'']
          rfl)
      exact ⟨lower, between, below, completes', same, belongs _ (lies.belongs_parameter sound
        (mem_playing_iff.mpr ⟨_, role, amongLists⟩) (.child lies amongLists)
        (mem_playing_iff.mpr ⟨_, role', amongEntries⟩) liesEntry formEntry
        (mem_playing_iff.mpr ⟨_, role'', amongNames⟩))⟩

/-- Whatever belongs to a scope completes a draft inside of the one that opens the scope. -/
theorem inside_of_belongs (sound : branch.Sound) {node scope : NodeId}
    (belongs : branch.toTree.Belongs node scope) {lower : Placed} {between : List Placed}
    (below : Lies branch.whole lower between) (same : lower.id = node)
    (inner : lower.isLeaf = false) (lies : Lies branch.whole placed above)
    (opens : placed.id = scope) (completes : Branch.Completes draft placed.branch) :
    ∃ found, Draft.Inside (branch.toTree.bindingKind node) found draft ∧
      Branch.Completes found lower.branch := by
  -- a child that is no token is a part of the draft
  have exists_slot {parent : Placed} {above : List Placed} {slot : Option Slot} {child : Placed}
      (lies : Lies branch.whole parent above) (member : (slot, child) ∈ parent.children)
      (inner : child.isLeaf = false) : ∃ slot', slot = some slot' := by
    cases slot with
    | none =>
        have leaf := (shaped_of_child (sound parent above lies) member).slotless child member
        rw [inner] at leaf
        cases leaf
    | some slot' => exact ⟨slot', rfl⟩
  induction belongs generalizing lower between with
  | inside member inside =>
      obtain ⟨parent, above', slot, child, lies', rfl, among, rfl⟩ :=
        Branch.mem_children_toTree.mp member
      cases lies.eq_of_id lies' opens
      cases (Lies.child lies' among).eq_of_id below same.symm
      obtain ⟨slot, rfl⟩ := exists_slot lies' among inner
      obtain ⟨part, given, completes'⟩ := exists_part_of_completes completes among
      rw [lies'.standsInside_iff sound among, form_of_completes completes] at inside
      refine ⟨part, .part given inside ?_, completes'⟩
      rw [lies'.bindingKind_child sound among, form_of_completes completes]
      exact .here
  | parameter list entry names =>
      obtain ⟨function, aboveFunction, lists, liesFunction, rfl, amongLists, rfl⟩ :=
        (Branch.mem_attributes_toTree sound rfl).mp list
      cases lies.eq_of_id liesFunction opens
      obtain ⟨lists', aboveLists, entries, liesLists, sameLists, amongEntries, rfl⟩ :=
        (Branch.mem_attributes_toTree sound rfl).mp entry
      cases liesLists.eq_of_id (lies.child_playing amongLists) sameLists
      obtain ⟨entries', aboveEntries, name, liesEntries, sameEntries, amongNames, rfl⟩ :=
        (Branch.mem_attributes_toTree sound rfl).mp names.2
      cases liesEntries.eq_of_id (liesLists.child_playing amongEntries) sameEntries
      cases (liesEntries.child_playing amongNames).eq_of_id below same.symm
      have form := names.1
      rw [liesEntries.form?_toTree, Option.some.injEq] at form
      rw [liesEntries.bindingKind_playing sound amongNames, form]
      obtain ⟨slot, role, among⟩ := mem_playing_iff.mp amongLists
      obtain ⟨part, given, completesList⟩ := exists_part_of_completes completes among
      obtain ⟨slot', role', among'⟩ := mem_playing_iff.mp amongEntries
      obtain ⟨part', given', completesEntry⟩ := exists_part_of_completes completesList among'
      obtain ⟨slot'', role'', among''⟩ := mem_playing_iff.mp amongNames
      obtain ⟨part'', given'', completesName⟩ := exists_part_of_completes completesEntry among''
      exact ⟨part'', .parameter given role given' role' given'' role''
        ((form_of_completes completesEntry).symm.trans form) .here, completesName⟩
  | outside member outside other _ ih =>
      obtain ⟨parent, above', slot, child, lies', rfl, among, rfl⟩ :=
        Branch.mem_children_toTree.mp member
      cases (Lies.child lies' among).eq_of_id below same.symm
      obtain ⟨slot, rfl⟩ := exists_slot lies' among inner
      obtain ⟨found, inside, completes'⟩ :=
        ih lies' rfl (not_isLeaf_of_children among) opens
      obtain ⟨part, given, completes''⟩ := exists_part_of_completes completes' among
      refine ⟨part, ?_, completes''⟩
      rw [lies'.bindingKind_child sound among, form_of_completes completes']
      refine inside.snoc given (Form.passes_iff.mpr ⟨?_, ?_⟩)
      · rw [lies'.standsInside_iff sound among, form_of_completes completes'] at outside
        exact Bool.eq_false_iff.mpr outside
      · rwa [lies'.namesParameter_iff sound among, form_of_completes completes'] at other

end Lies

end Placed

end StructuralLint
