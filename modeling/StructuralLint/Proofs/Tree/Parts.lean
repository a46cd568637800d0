import Mathlib.Data.List.Sort
import StructuralLint.Proofs.Tree.Distribution

/-!
# Parts in the order in which they were given

A draft keeps its parts in source order, and each part remembers its place among the parts as they
were given. A branch that completes the draft has its parts for children; sorted by place they go
together with the given ones, one by one (`Placed.parts_of_slotted`). The attributes that the
tree records for a node are its parts by their roles (`Placed.Lies.attributes_toTree`).
-/

namespace StructuralLint

/-- Lists with the same items are equal if both are sorted by a key that tells the items apart. -/
private theorem eq_of_perm_of_key {α : Type} {left right : List α} (key : α → Nat)
    (perm : left.Perm right) (sortedLeft : left.Pairwise (key · ≤ key ·))
    (sortedRight : right.Pairwise (key · ≤ key ·)) (apart : (left.map key).Nodup) :
    left = right := by
  refine perm.eq_of_pairwise ?_ sortedLeft sortedRight
  intro a b inLeft inRight below above
  exact List.inj_on_of_nodup_map apart inLeft (perm.mem_iff.mpr inRight)
    (Nat.le_antisymm below above)

namespace Draft

/-- The parts of a node. -/
def parts : Draft → List (Slot × Draft)
  | leaf _ => []
  | node _ _ _ parts => parts

/-- The given parts with their places. -/
def slots (given : List (Option Role × Draft)) : List (Slot × Draft) :=
  given.zipIdx.map fun ((role, part), place) => (⟨role, place⟩, part)

theorem insertPart_perm (part : Slot × Draft) (parts : List (Slot × Draft)) :
    (insertPart part parts).Perm (part :: parts) := by
  induction parts with
  | nil => exact .refl _
  | cons other rest ih =>
      rw [insertPart]
      split
      · exact (ih.cons _).trans (.swap ..)
      · exact .refl _

/-- Arranging parts changes nothing but their order. -/
theorem arrange_perm (given : List (Option Role × Draft)) : (arrange given).Perm (slots given) := by
  rw [arrange, slots]
  generalize given.zipIdx.map _ = parts
  induction parts with
  | nil => exact .refl _
  | cons part rest ih => exact (insertPart_perm _ _).trans (ih.cons _)

theorem places_slots (given : List (Option Role × Draft)) :
    (slots given).map (·.1.place) = List.range given.length := by
  rw [slots, List.map_map, List.range_eq_range', ← List.zipIdx_map_snd 0 given]
  rfl

theorem map_role_slots (given : List (Option Role × Draft)) :
    (slots given).map (fun part => (part.1.role, part.2)) = given := by
  rw [slots, List.map_map]
  exact List.zipIdx_map_fst 0 given

theorem places_nodup_of_perm {given : List (Option Role × Draft)} {parts : List (Slot × Draft)}
    (perm : parts.Perm (slots given)) : (parts.map (·.1.place)).Nodup := by
  rw [(perm.map _).nodup_iff, places_slots]
  exact List.nodup_range

end Draft

namespace Placed

/-- The children that are parts of the draft, with their slots. -/
def slotted (placed : Placed) : List (Slot × Placed) :=
  placed.children.filterMap fun child => child.1.map (·, child.2)

/-- The parts of a node with their slots in the order in which they were given. -/
def bySlot (placed : Placed) : List (Slot × Placed) :=
  placed.slotted.insertionSort (·.1.place ≤ ·.1.place)

/-- The parts of a node with their roles in the order in which they were given. -/
def parts (placed : Placed) : List (Option Role × Placed) :=
  placed.bySlot.map fun part => (part.1.role, part.2)

/-- The parts that play a role for the node. -/
def playing (placed : Placed) (role : Role) : List Placed :=
  (placed.parts.filter (·.1 = some role)).map (·.2)

/-- The parts that play no role. -/
def plain (placed : Placed) : List Placed :=
  (placed.parts.filter (·.1 = none)).map (·.2)

variable {placed child : Placed} {slot : Slot}

theorem mem_slotted_iff : (slot, child) ∈ placed.slotted ↔
    (some slot, child) ∈ placed.children := by
  rw [slotted, List.mem_filterMap]
  constructor
  · rintro ⟨⟨given, other⟩, member, same⟩
    obtain ⟨slot', present, pair⟩ := Option.map_eq_some_iff.mp same
    cases pair
    rwa [← show given = some slot from present]
  · intro member
    exact ⟨(some slot, child), member, rfl⟩

theorem bySlot_perm (placed : Placed) : placed.bySlot.Perm placed.slotted :=
  List.perm_insertionSort _ _

theorem pairwise_bySlot (placed : Placed) :
    placed.bySlot.Pairwise (·.1.place ≤ ·.1.place) := by
  have total : Std.Total (fun left right : Slot × Placed => left.1.place ≤ right.1.place) :=
    ⟨fun left right => Nat.le_total _ _⟩
  have transitive : IsTrans _ (fun left right : Slot × Placed => left.1.place ≤ right.1.place) :=
    ⟨fun left middle right => Nat.le_trans⟩
  exact List.pairwise_insertionSort _ _

theorem mem_parts_iff {role : Option Role} :
    (role, child) ∈ placed.parts ↔
      ∃ slot : Slot, slot.role = role ∧ (some slot, child) ∈ placed.children := by
  rw [parts, List.mem_map]
  constructor
  · rintro ⟨⟨slot, other⟩, member, same⟩
    cases same
    exact ⟨slot, rfl, mem_slotted_iff.mp (placed.bySlot_perm.mem_iff.mp member)⟩
  · rintro ⟨slot, rfl, member⟩
    exact ⟨(slot, child), placed.bySlot_perm.mem_iff.mpr (mem_slotted_iff.mpr member), rfl⟩

theorem mem_playing_iff {role : Role} :
    child ∈ placed.playing role ↔
      ∃ slot : Slot, slot.role = some role ∧ (some slot, child) ∈ placed.children := by
  rw [playing, List.mem_map]
  constructor
  · rintro ⟨⟨other, part⟩, member, rfl⟩
    rw [List.mem_filter, decide_eq_true_eq] at member
    exact mem_parts_iff.mp (member.2 ▸ member.1)
  · intro given
    exact ⟨(some role, child), by simp [mem_parts_iff.mpr given], rfl⟩

theorem mem_plain_iff :
    child ∈ placed.plain ↔
      ∃ slot : Slot, slot.role = none ∧ (some slot, child) ∈ placed.children := by
  rw [plain, List.mem_map]
  constructor
  · rintro ⟨⟨other, part⟩, member, rfl⟩
    rw [List.mem_filter, decide_eq_true_eq] at member
    exact mem_parts_iff.mp (member.2 ▸ member.1)
  · intro given
    exact ⟨(none, child), by simp [mem_parts_iff.mpr given], rfl⟩

theorem slotted_eq (first : Nat) (form : Form) (fields : Fields)
    (children : List (Option Slot × Branch)) :
    (Placed.mk first (.node form fields children)).slotted.map
      (fun part => (part.1, part.2.branch)) = Branch.slotted children := by
  conv_rhs => rw [← map_branch_row first children]
  rw [slotted, Branch.slotted, children_node, List.filterMap_map, List.map_filterMap]
  congr 1
  funext item
  obtain ⟨slot, child⟩ := item
  cases slot <;> rfl

/-- The slots of a node's parts are those that the draft gave. -/
theorem slotted_of_completes {form : Form} {span : Span} {fields : Fields}
    {items : List (Slot × Draft)}
    (completes : Branch.Completes (.node form span fields items) placed.branch) :
    List.Forall₂ (fun item part => item.1 = part.1 ∧ Branch.Completes item.2 part.2.branch)
      (items.filter (·.2.isNode)) placed.slotted := by
  obtain ⟨first, branch⟩ := placed
  cases completes with
  | node _ _ _ _ tokens =>
      have paired := Branch.parts_ofParts items tokens
      rw [← slotted_eq first form fields] at paired
      exact List.forall₂_map_right_iff.mp paired

/-- A relation of drafts and branches that passes from a node to its parts. -/
def PassesDown (R : Draft → Placed → Prop) : Prop :=
  ∀ form span fields items placed, R (.node form span fields items) placed →
    List.Forall₂ (fun item part => item.1 = part.1 ∧ R item.2 part.2)
      (items.filter (·.2.isNode)) placed.slotted

theorem passesDown_completes :
    PassesDown fun draft placed => Branch.Completes draft placed.branch :=
  fun _ _ _ _ _ => slotted_of_completes

/-- **Parts as they were given.** Sorted by place, the parts of a node go together with the given
parts that are nodes, one by one and in the same roles. -/
theorem parts_of_slotted {R : Draft → Placed → Prop} {items : List (Slot × Draft)}
    {given : List (Option Role × Draft)}
    (slots : List.Forall₂ (fun item part => item.1 = part.1 ∧ R item.2 part.2)
      (items.filter (·.2.isNode)) placed.slotted)
    (arranged : items.Perm (Draft.slots given)) :
    List.Forall₂ (fun item part => item.1 = part.1 ∧ R item.2 part.2)
      (given.filter (·.2.isNode)) placed.parts := by
  obtain ⟨sorted, paired, same⟩ := List.perm_comp_forall₂
    (arranged.symm.filter (·.2.isNode)) slots
  have places : sorted.map (·.1.place) =
      ((Draft.slots given).filter (·.2.isNode)).map (·.1.place) :=
    (Lists.map_eq paired fun _ _ related => congrArg (·.place) related.1).symm
  have increasing : (sorted.map (·.1.place)).Pairwise (· < ·) := by
    rw [places]
    refine List.Pairwise.sublist (List.filter_sublist.map _) ?_
    rw [Draft.places_slots]
    exact List.pairwise_lt_range
  -- the places tell the parts apart, so there is only one way to sort them
  have order : placed.bySlot = sorted := by
    refine (eq_of_perm_of_key (·.1.place) (same.trans placed.bySlot_perm.symm) ?_
      placed.pairwise_bySlot ?_).symm
    · exact (List.pairwise_map.mp increasing).imp Nat.le_of_lt
    · exact increasing.imp Nat.ne_of_lt
  rw [parts, order]
  conv in given.filter _ => rw [← Draft.map_role_slots given]
  rw [List.filter_map]
  refine List.forall₂_map_left_iff.mpr (List.forall₂_map_right_iff.mpr (paired.imp ?_))
  rintro ⟨slot, item⟩ ⟨slot', part⟩ ⟨rfl, related⟩
  exact ⟨rfl, related⟩

end Placed

/-! ### Attributes -/

namespace Branch

variable {role other : Role} {players : List (Role × NodeId)}

/-- Without the first part in one role, those in the other roles are the same. -/
theorem filter_eraseP_of_ne (apart : other ≠ role) :
    (players.eraseP (·.1 = other)).filter (·.1 = role) = players.filter (·.1 = role) := by
  induction players with
  | nil => rfl
  | cons player rest ih =>
      by_cases first : player.1 = other
      · have passed : player.1 ≠ role := first.trans_ne apart
        rw [List.eraseP_cons_of_pos (by simpa using first),
          List.filter_cons_of_neg (by simpa using passed)]
      · rw [List.eraseP_cons_of_neg (by simpa using first), List.filter_cons, List.filter_cons, ih]

/-- Of the parts in a role, the first one and the others. -/
theorem find?_eraseP_of_filter {player : Role × NodeId} {rest : List (Role × NodeId)}
    (split : players.filter (·.1 = role) = player :: rest) :
    player.1 = role ∧ players.find? (·.1 = role) = some player ∧
      (players.eraseP (·.1 = role)).filter (·.1 = role) = rest := by
  have found : players.find? (·.1 = role) = some player := by
    rw [← List.head?_filter, split]
    rfl
  have own : player.1 = role := by simpa using List.find?_some found
  have erased := @List.eraseP_filter _ (·.1 = role) (·.1 = role) players
  simp only [Bool.and_self] at erased
  refine ⟨own, found, ?_⟩
  rw [← erased, split, List.eraseP_cons_of_pos (by simpa using own)]

/-- If a role is named as often as there are parts in it, all of them are named, in order. -/
theorem filter_named (missing : NodeId) {roles : List Role}
    (agree : roles.count role = (players.filter (·.1 = role)).length) :
    (named missing roles players).filter (·.1 = role) = players.filter (·.1 = role) := by
  -- a role that is named takes the first part in it away, and leaves those in other roles
  induction roles generalizing players with
  | nil => exact (List.length_eq_zero_iff.mp agree.symm).symm
  | cons other roles ih =>
      by_cases same : other = role
      · subst same
        rw [List.count_cons_self] at agree
        obtain ⟨player, rest, split⟩ := List.exists_cons_of_length_eq_add_one agree.symm
        obtain ⟨own, found, others⟩ := find?_eraseP_of_filter split
        rw [split, List.length_cons, Nat.add_right_cancel_iff, ← others] at agree
        rw [named, found, List.filter_cons_of_pos (by simp), ih agree, others, split]
        exact congrArg (· :: rest) (Prod.ext own.symm rfl)
      · rw [List.count_cons_of_ne same, ← filter_eraseP_of_ne same] at agree
        rw [named, List.filter_cons_of_neg (by simpa using same), ih agree,
          filter_eraseP_of_ne same]

end Branch

namespace Placed

variable {placed child : Placed} {slot : Slot}

private theorem insertByPlace_perm (item : Nat × Role × NodeId)
    (rest : List (Nat × Role × NodeId)) :
    (Branch.insertByPlace item rest).Perm (item :: rest) := by
  induction rest with
  | nil => exact .refl _
  | cons other rest ih =>
      rw [Branch.insertByPlace]
      split
      · exact (ih.cons _).trans (.swap ..)
      · exact .refl _

private theorem pairwise_insertByPlace (item : Nat × Role × NodeId)
    {rest : List (Nat × Role × NodeId)} (sorted : rest.Pairwise (·.1 ≤ ·.1)) :
    (Branch.insertByPlace item rest).Pairwise (·.1 ≤ ·.1) := by
  induction rest with
  | nil => exact List.pairwise_singleton _ _
  | cons other rest ih =>
      obtain ⟨least, sorted⟩ := List.pairwise_cons.mp sorted
      rw [Branch.insertByPlace]
      split
      · rename_i smaller
        refine List.pairwise_cons.mpr ⟨?_, ih sorted⟩
        intro later member
        rcases List.mem_cons.mp ((insertByPlace_perm item rest).mem_iff.mp member) with rfl | member
        · exact Nat.le_of_lt smaller
        · exact least later member
      · rename_i larger
        refine List.pairwise_cons.mpr ⟨?_, List.pairwise_cons.mpr ⟨least, sorted⟩⟩
        intro later member
        rcases List.mem_cons.mp member with rfl | member
        · exact Nat.le_of_not_lt larger
        · exact Nat.le_trans (Nat.le_of_not_lt larger) (least later member)

/-- A part with its place, if it plays a role, as the record of its node keeps it. -/
def entry (part : Slot × Placed) : Option (Nat × Role × NodeId) :=
  part.1.role.map fun role => (part.1.place, role, part.2.id)

private theorem pairwise_entries {parts : List (Slot × Placed)}
    (sorted : parts.Pairwise (·.1.place ≤ ·.1.place)) :
    (parts.filterMap entry).Pairwise (·.1 ≤ ·.1) := by
  refine List.pairwise_filterMap.mpr (sorted.imp ?_)
  intro left right below first found second found'
  obtain ⟨role, -, rfl⟩ := Option.map_eq_some_iff.mp found
  obtain ⟨role', -, rfl⟩ := Option.map_eq_some_iff.mp found'
  exact below

private theorem places_entries {parts : List (Slot × Placed)}
    (apart : (parts.map (·.1.place)).Nodup) : ((parts.filterMap entry).map (·.1)).Nodup := by
  refine apart.sublist ?_
  clear apart
  induction parts with
  | nil => exact .refl _
  | cons part rest ih =>
      rw [List.filterMap_cons, List.map_cons]
      cases role : part.1.role with
      | none =>
          rw [show entry part = none by rw [entry, role]; rfl]
          exact ih.cons _
      | some role' =>
          rw [show entry part = some (part.1.place, role', part.2.id) by rw [entry, role]; rfl]
          exact ih.cons_cons _

theorem playersOf_children (placed : Placed) (apart : (placed.slotted.map (·.1.place)).Nodup) :
    Branch.playersOf (placed.children.map fun child => (child.1, child.2.id)) =
      placed.bySlot.filterMap fun part => part.1.role.map (·, part.2.id) := by
  have given : (placed.children.map fun child => (child.1, child.2.id)).filterMap
      (fun (slot, id) => do
        let slot ← slot
        let role ← slot.role
        return (slot.place, role, id)) = placed.slotted.filterMap entry := by
    rw [slotted, List.filterMap_map, List.filterMap_filterMap]
    congr 1
    funext ⟨slot, child⟩
    cases slot with
    | none => rfl
    | some slot => obtain ⟨role, place⟩ := slot; cases role <;> rfl
  rw [Branch.playersOf, given]
  have sorted : ∀ items : List (Nat × Role × NodeId),
      (items.foldr Branch.insertByPlace []).Perm items ∧
        (items.foldr Branch.insertByPlace []).Pairwise (·.1 ≤ ·.1) := by
    intro items
    induction items with
    | nil => exact ⟨.refl _, .nil⟩
    | cons item rest ih =>
        exact ⟨(insertByPlace_perm _ _).trans (ih.1.cons _), pairwise_insertByPlace _ ih.2⟩
  have same : (placed.slotted.filterMap entry).foldr Branch.insertByPlace [] =
      placed.bySlot.filterMap entry := by
    obtain ⟨perm, increasing⟩ := sorted (placed.slotted.filterMap entry)
    refine eq_of_perm_of_key (·.1) (perm.trans (placed.bySlot_perm.symm.filterMap _)) increasing
      (pairwise_entries placed.pairwise_bySlot) ?_
    rw [(perm.map _).nodup_iff]
    exact places_entries apart
  rw [same, List.map_filterMap]
  congr 1
  funext ⟨⟨role, place⟩, part⟩
  cases role <;> rfl

/-- The parts of a node that play one role. -/
theorem players_playing (placed : Placed) (apart : (placed.slotted.map (·.1.place)).Nodup)
    (role : Role) :
    (Branch.playersOf (placed.children.map fun child => (child.1, child.2.id))).filter
        (·.1 = role) = (placed.playing role).map fun part => (role, part.id) := by
  rw [placed.playersOf_children apart, playing, parts, List.filter_filterMap, List.filter_map,
    List.map_map, List.map_map, ← List.filterMap_eq_map, List.filterMap_filter]
  congr 1
  funext ⟨⟨other, place⟩, part⟩
  cases other with
  | none => rfl
  | some other =>
      by_cases same : other = role
      · simp [same]
      · simp [same]

/-- What the node holds by its attributes. -/
def fields (placed : Placed) : Fields :=
  match placed.branch with
  | .leaf _ => .empty
  | .node _ fields _ => fields

/-- The node holds as many parts in a role as it has. -/
def Holds (placed : Placed) (role : Role) : Prop :=
  placed.fields.roles.count role = (placed.playing role).length

namespace Lies

variable {branch : Branch} {above : List Placed}

/-- **The attributes of a node are its parts**, if it holds as many as it has. The parts that play
a role come in the order in which they were given, after the tokens that play it. -/
theorem attributes_toTree (lies : Lies branch.whole placed above)
    (apart : (placed.slotted.map (·.1.place)).Nodup) {role : Role} (holds : placed.Holds role) :
    branch.toTree.attributes placed.id role =
      ((placed.fields.tokens.filter (·.1 = role)).map fun mark =>
        branch.tokenNumber mark.2.index) ++ (placed.playing role).map (·.id) := by
  have players := placed.players_playing apart role
  have own : (placed.record branch.tokenNumber).attributes =
      placed.fields.tokens.map (fun mark => (mark.1, branch.tokenNumber mark.2.index)) ++
        Branch.named placed.id placed.fields.roles
          (Branch.playersOf (placed.children.map fun child => (child.1, child.2.id))) := by
    obtain ⟨first, inner⟩ := placed
    cases inner <;> rfl
  have named := Branch.filter_named placed.id (holds.trans (by rw [players, List.length_map]))
  rw [Tree.attributes, lies.getElem?_toTree]
  simp only [own, List.filter_append, named, players, List.map_append, List.filter_map,
    List.map_map]
  rfl

end Lies

end Placed

end StructuralLint
