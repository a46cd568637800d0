import StructuralLint.Proofs.Tree.Completion

/-!
# Blocks

Statements stand in statements: in a body, in a clause, in a further branch. The parts that a node
has in a role go together with the drafts that were given in that role (`Placed.inRole_of_slotted`),
so the statements of a block can be followed from the draft to the tree. Nothing but the roles of
`Form.blockRoles` leads from a node to statements below it: the raises below a node are those below
the parts in these roles (`Placed.raises_perm`).
-/

namespace StructuralLint

namespace Draft

/-- The given parts that play a role, or none. -/
def inRole (role : Option Role) (given : List (Option Role × Draft)) : List Draft :=
  (given.filter (·.1 = role)).map (·.2)

@[simp]
theorem inRole_append (role : Option Role) (left right : List (Option Role × Draft)) :
    inRole role (left ++ right) = inRole role left ++ inRole role right := by
  simp [inRole]

@[simp]
theorem inRole_playing (role : Option Role) (other : Role) (drafts : List Draft) :
    inRole role (playing other drafts) = if some other = role then drafts else [] := by
  split <;> simp_all [inRole, playing, List.filter_map, Function.comp_def]

@[simp]
theorem inRole_plain (role : Option Role) (drafts : List Draft) :
    inRole role (plain drafts) = if none = role then drafts else [] := by
  split <;> simp_all [inRole, plain, List.filter_map, Function.comp_def]

theorem filter_isNode_of_free {drafts : List Draft} (free : ∀ draft ∈ drafts, draft.Free) :
    drafts.filter isNode = drafts :=
  List.filter_eq_self.mpr fun draft member => (free draft member).isNode

@[simp]
theorem filter_isNode_leaves (tokens : List Token) : (tokens.map leaf).filter isNode = [] := by
  simp [isNode]

end Draft

namespace Placed

/-- The drafts are completed by the branches, one by one. -/
abbrev Complete (drafts : List Draft) (branches : List Placed) : Prop :=
  List.Forall₂ (fun draft part => Branch.Completes draft part.branch) drafts branches

/-- The parts that play a role, or none. -/
def inRole (placed : Placed) (role : Option Role) : List Placed :=
  (placed.parts.filter (·.1 = role)).map (·.2)

@[simp]
theorem inRole_some (placed : Placed) (role : Role) :
    placed.inRole (some role) = placed.playing role := rfl

@[simp]
theorem inRole_none (placed : Placed) : placed.inRole none = placed.plain := rfl

variable {placed : Placed} {form : Form} {span : Span} {fields : Fields}
  {items : List (Slot × Draft)} {given : List (Option Role × Draft)}

section

variable {R : Draft → Placed → Prop}

/-- The parts that a node has in a role go together with those that were given in it. -/
theorem inRole_of_slotted
    (slots : List.Forall₂ (fun item part => item.1 = part.1 ∧ R item.2 part.2)
      (items.filter (·.2.isNode)) placed.slotted)
    (arranged : items.Perm (Draft.slots given)) (role : Option Role) :
    List.Forall₂ R ((Draft.inRole role given).filter Draft.isNode) (placed.inRole role) := by
  have chosen : List.Forall₂ (fun item part => item.1 = part.1 ∧ R item.2 part.2)
      ((given.filter (·.2.isNode)).filter (·.1 = role)) (placed.parts.filter (·.1 = role)) := by
    refine List.rel_filter ?_ (parts_of_slotted slots arranged)
    rintro item part ⟨same, -⟩
    simp [same]
  rw [List.filter_comm] at chosen
  rw [Draft.inRole, List.filter_map]
  exact List.forall₂_map_left_iff.mpr
    (List.forall₂_map_right_iff.mpr (chosen.imp fun _ _ related => related.2))

variable (passes : PassesDown R)
include passes

theorem inRole_ofSpan (related : R (.ofSpan form span fields given) placed) (role : Option Role) :
    List.Forall₂ R ((Draft.inRole role given).filter Draft.isNode) (placed.inRole role) :=
  inRole_of_slotted (passes _ _ _ _ _ related) (Draft.arrange_perm given) role

theorem inRole_ofParts {first : Option Role × Draft}
    (related : R (.ofParts form fields first given) placed) (role : Option Role) :
    List.Forall₂ R ((Draft.inRole role (first :: given)).filter Draft.isNode)
      (placed.inRole role) :=
  inRole_of_slotted (passes _ _ _ _ _ related) (Draft.arrange_perm (first :: given)) role

/-- The statements in a clause go together with those that were given for it, and without any there
is no clause. -/
theorem clause_body_of_passesDown {text : SourceText} {word : String} {start : Position}
    {body : List Draft} {clauses : List Placed} (free : ∀ draft ∈ body, draft.Free)
    (related : List.Forall₂ R (Draft.ofClause text form word start body).toList clauses) :
    List.Forall₂ R body (clauses.flatMap (·.playing .body)) := by
  cases body with
  | nil =>
      rw [show Draft.ofClause text form word start [] = none from rfl] at related
      cases related
      exact .nil
  | cons first rest =>
      obtain ⟨draft, made⟩ : ∃ draft, Draft.ofClause text form word start (first :: rest) =
          some draft := by
        rw [Draft.ofClause]
        split <;> exact ⟨_, rfl⟩
      rw [made, Option.toList_some] at related
      obtain ⟨clause, own, rfl⟩ : ∃ clause, R draft clause ∧ clauses = [clause] := by
        cases related with
        | cons related others => cases others; exact ⟨_, related, rfl⟩
      rw [List.flatMap_singleton]
      simp only [Draft.ofClause] at made
      split at made
      · cases made
        have block := inRole_ofParts passes own (some .body)
        rw [show (none, Draft.leaf _) :: Draft.playing .body (first :: rest) =
          Draft.plain [.leaf _] ++ Draft.playing .body (first :: rest) from rfl] at block
        simpa [Draft.filter_isNode_of_free free] using block
      · cases made
        have block := inRole_ofParts passes own (some .body)
        rw [show (some .body, first) :: Draft.playing .body rest =
          Draft.playing .body (first :: rest) from rfl] at block
        simpa [Draft.filter_isNode_of_free free] using block

end

/-- A part completes a draft that its node's form has in the role. -/
theorem exists_completes_playing {draft : Draft} {child : Placed} {role : Role}
    (completes : Branch.Completes draft placed.branch) (shaped : draft.Shaped)
    (member : child ∈ placed.playing role) :
    ∃ part, part.Shaped ∧ Branch.Completes part child.branch ∧
      draft.form.admits (some role) part.form = true := by
  obtain ⟨slot, own, among⟩ := mem_playing_iff.mp member
  rcases isLeaf_or_completes_child completes shaped among with
    ⟨-, none⟩ | ⟨part, sound, inner, slot', same, fits⟩
  · cases none
  · cases same
    exact ⟨part, sound, inner, own ▸ fits⟩

/-! ### Nodes below a node -/

/-- The branches from a branch on down whose form passes a test, in source order. -/
def having (test : Form → Bool) (placed : Placed) : List Placed :=
  placed.preorder.filter fun below => test below.form

theorem having_eq (test : Form → Bool) (placed : Placed) :
    placed.having test = (if test placed.form then [placed] else []) ++
      placed.children.flatMap (·.2.having test) := by
  rw [having, preorder_eq, List.filter_cons, List.filter_flatMap]
  split <;> rfl

theorem having_of_isLeaf {test : Form → Bool} (inner : ∀ token, test (.token token) = false)
    (leaf : placed.isLeaf = true) : placed.having test = [] := by
  obtain ⟨first, branch⟩ := placed
  cases branch with
  | leaf token =>
      rw [having_eq]
      simp [inner]
  | node form fields children => simp [isLeaf] at leaf

/-- What has no place below an expression is not found there. -/
theorem having_of_isCalm {test : Form → Bool}
    (restless : ∀ form, test form = true → form.isCalm = false)
    {draft : Draft} (completes : Branch.Completes draft placed.branch) (shaped : draft.Shaped)
    (calm : placed.form.isCalm = true) : placed.having test = [] := by
  induction placed using Placed.induction generalizing draft with
  | step placed ih =>
      rw [having_eq, List.append_eq_nil_iff]
      constructor
      · apply if_neg
        intro found
        rw [restless _ found] at calm
        cases calm
      rw [List.flatMap_eq_nil_iff]
      rintro ⟨slot, child⟩ member
      rcases isLeaf_or_completes_child completes shaped member with
        ⟨leaf, -⟩ | ⟨part, sound, inner, slot', -, fits⟩
      · refine having_of_isLeaf (fun token => ?_) leaf
        by_contra found
        cases restless _ (by simpa using found)
      · apply ih _ member inner sound
        rw [form_of_completes inner]
        apply Form.isCalm_of_admits fits
        rw [← form_of_completes completes, Form.blockRoles_of_isCalm calm]
        exact List.not_mem_nil

private theorem flatMap_children_perm {β : Type} {f : Placed → List β}
    (leaf : ∀ child, (none, child) ∈ placed.children → f child = []) :
    (placed.children.flatMap fun child => f child.2).Perm
      (placed.parts.flatMap fun part => f part.2) := by
  have slots : (placed.children.flatMap fun child => f child.2) =
      placed.slotted.flatMap fun part => f part.2 := by
    unfold slotted
    generalize placed.children = children at leaf
    induction children with
    | nil => rfl
    | cons head rest ih =>
        have later := ih fun child member => leaf child (List.mem_cons_of_mem _ member)
        obtain ⟨slot, child⟩ := head
        cases slot with
        | none => simp [later, leaf child List.mem_cons_self]
        | some slot => simp [later]
  rw [slots, parts, List.flatMap_map]
  exact placed.bySlot_perm.symm.flatMap_right _

/-- What is below a node can be looked for role by role. -/
theorem having_perm (test : Form → Bool) (inner : ∀ token, test (.token token) = false)
    (shaped : placed.Shaped) {roles : List (Option Role)} (apart : roles.Nodup)
    (other : ∀ slot child, (some slot, child) ∈ placed.children → slot.role ∉ roles →
      child.having test = []) :
    (placed.having test).Perm ((if test placed.form then [placed] else []) ++
      roles.flatMap fun role => (placed.inRole role).flatMap (having test)) := by
  rw [having_eq]
  apply List.Perm.append_left _
  refine (flatMap_children_perm fun child member =>
    having_of_isLeaf inner (shaped.slotless child member)).trans ?_
  refine (Lists.flatMap_perm_of_keys Prod.fst
    (fun part : Option Role × Placed => part.2.having test) apart ?_).trans (.of_eq ?_)
  · rintro ⟨role, part⟩ member unlisted
    obtain ⟨slot, rfl, among⟩ := mem_parts_iff.mp member
    exact other slot part among unlisted
  · apply List.flatMap_congr
    intro role _
    rw [inRole, List.flatMap_map]

/-- The numbers of the nodes from a branch on down whose form passes a test. -/
def gathered (test : Form → Bool) (placed : Placed) : List NodeId :=
  (placed.having test).map (·.id)

theorem gathered_eq (test : Form → Bool) (placed : Placed) :
    placed.gathered test = (if test placed.form then [placed.id] else []) ++
      placed.children.flatMap (·.2.gathered test) := by
  rw [gathered, having_eq, List.map_append, List.map_flatMap]
  split <;> rfl

theorem gathered_perm (test : Form → Bool) (inner : ∀ token, test (.token token) = false)
    (shaped : placed.Shaped) :
    (placed.gathered test).Perm ((if test placed.form then [placed.id] else []) ++
      placed.form.partRoles.flatMap fun role => (placed.inRole role).flatMap (gathered test)) := by
  have below := having_perm test inner shaped placed.form.nodup_partRoles fun slot child member
    other => absurd (Form.mem_partRoles (shaped.admitted slot child member).2) other
  refine (below.map (·.id)).trans (.of_eq ?_)
  rw [List.map_append, List.map_flatMap]
  refine congrArg₂ _ (by split <;> rfl) (List.flatMap_congr fun role _ => ?_)
  rw [List.map_flatMap]
  rfl

/-! ### Raises -/

/-- The `raise` statements of a branch in source order. -/
def raises : Placed → List Placed := having (· = .raise)

/-- No statement stands below an expression. -/
theorem raises_of_isCalm {draft : Draft} (completes : Branch.Completes draft placed.branch)
    (shaped : draft.Shaped) (calm : placed.form.isCalm = true) : placed.raises = [] := by
  apply having_of_isCalm _ completes shaped calm
  intro form raise
  rw [of_decide_eq_true raise]
  rfl

/-- **Raises stand in blocks.** The `raise` statements below a node are those below the parts that
statements may stand in. -/
theorem raises_perm {draft : Draft} (completes : Branch.Completes draft placed.branch)
    (shaped : draft.Shaped) :
    placed.raises.Perm ((if placed.form = .raise then [placed] else []) ++
      placed.form.blockRoles.flatMap fun role => (placed.inRole role).flatMap raises) := by
  have own := shaped_of_completes completes shaped
  have below :=
    having_perm (fun form => form = .raise) (by simp) own placed.form.nodup_blockRoles ?_
  · simpa [raises] using below
  · intro slot child member other
    rcases isLeaf_or_completes_child completes shaped member with
      ⟨leaf, -⟩ | ⟨draft, sound, inner, -⟩
    · exact having_of_isLeaf (by simp) leaf
    · exact raises_of_isCalm inner sound
        (Form.isCalm_of_admits (own.admitted slot child member).2 other)

end Placed

end StructuralLint
