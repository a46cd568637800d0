import Mathlib.Data.List.TakeDrop
import StructuralLint.Proofs.Lists
import StructuralLint.Proofs.Tree.Walking

/-!
# What handing out tokens keeps

A branch completes a draft when tokens have been handed out below the draft's node. Whatever the
spans say, the tokens of the branch are the ones that were handed out, once each and in order
(`Branch.allTokens_ofParts`), and its children that were not handed out complete the parts of the
draft that are nodes, in the same slots (`Branch.parts_ofParts`).
-/

namespace StructuralLint

namespace Draft

/-- Whether a part is a node and no token. -/
def isNode : Draft → Bool
  | leaf _ => false
  | node .. => true

/-- No node of the draft but its leaves is a token. -/
inductive TokensAreLeaves : Draft → Prop
  | leaf (token : Token) : TokensAreLeaves (.leaf token)
  | node {form : Form} {span : Span} {fields : Fields} {parts : List (Slot × Draft)} :
      (∀ token, form ≠ .token token) → (∀ part ∈ parts, TokensAreLeaves part.2) →
        TokensAreLeaves (.node form span fields parts)

/-- What holds of no parts, and of parts if it holds of all but the first and of the parts of the
first, holds of all parts. -/
@[elab_as_elim]
theorem parts_induction {motive : List (Slot × Draft) → Prop} (nil : motive [])
    (leaf : ∀ slot token parts, motive parts → motive ((slot, .leaf token) :: parts))
    (node : ∀ slot form span fields children parts, motive children → motive parts →
      motive ((slot, .node form span fields children) :: parts)) : ∀ parts, motive parts
  | [] => nil
  | (slot, .leaf token) :: parts => leaf slot token parts (parts_induction nil leaf node parts)
  | (slot, .node form span fields children) :: parts =>
    node slot form span fields children parts (parts_induction nil leaf node children)
      (parts_induction nil leaf node parts)

end Draft

namespace Branch

/-- The branch is the node of the draft with some tokens handed out to it. -/
inductive Completes : Draft → Branch → Prop
  | node (form : Form) (span : Span) (fields : Fields) (parts : List (Slot × Draft))
      (tokens : List Token) :
      Completes (.node form span fields parts) (.node form fields (ofParts parts tokens))

mutual

/-- The tokens of a branch in order. -/
def tokens : Branch → List Token
  | leaf token => [token]
  | node _ _ children => allTokens children

/-- The tokens of branches that stand side by side. -/
def allTokens : List (Option Slot × Branch) → List Token
  | [] => []
  | (_, child) :: rest => child.tokens ++ allTokens rest

end

theorem allTokens_append (left right : List (Option Slot × Branch)) :
    allTokens (left ++ right) = allTokens left ++ allTokens right := by
  induction left with
  | nil => rfl
  | cons head left ih => simp only [List.cons_append, allTokens, ih, List.append_assoc]

theorem allTokens_leaves (tokens : List Token) : allTokens (leaves tokens) = tokens := by
  induction tokens with
  | nil => rfl
  | cons token rest ih =>
      rw [leaves, List.map_cons, allTokens, Branch.tokens, List.singleton_append]
      exact congrArg (token :: ·) ih

theorem append_of_span {tokens before after : List Token} {test : Token → Bool}
    (split : tokens.span test = (before, after)) : before ++ after = tokens := by
  rw [List.span_eq_takeWhile_dropWhile, Prod.mk.injEq] at split
  rw [← split.1, ← split.2, List.takeWhile_append_dropWhile]

theorem append_of_splitBefore {start : Position} {tokens before after : List Token}
    (split : splitBefore start tokens = (before, after)) : before ++ after = tokens := by
  simp only [splitBefore, List.span_eq_takeWhile_dropWhile, Prod.mk.injEq] at split
  rw [← split.1, ← split.2, List.append_assoc, List.takeWhile_append_dropWhile,
    List.takeWhile_append_dropWhile]

/-- The token that a node claims, with what stands before and after it, or no such token. -/
theorem ofParts_leaf (slot : Slot) (token : Token) (parts : List (Slot × Draft))
    (tokens : List Token) :
    (∃ before own after, before ++ own :: after = tokens ∧
      ofParts ((slot, .leaf token) :: parts) tokens =
        leaves before ++ (none, leaf own) :: ofParts parts after) ∨
    ofParts ((slot, .leaf token) :: parts) tokens = ofParts parts tokens := by
  rw [ofParts]
  split
  · rename_i before own after split
    exact .inl ⟨before, own, after, append_of_span split, rfl⟩
  · exact .inr rfl

/-- The tokens of a part, with what stands before and after them. -/
theorem ofParts_node (slot : Slot) (form : Form) (span : Span) (fields : Fields)
    (children parts : List (Slot × Draft)) (tokens : List Token) :
    ∃ before own after, before ++ (own ++ after) = tokens ∧
      ofParts ((slot, .node form span fields children) :: parts) tokens =
        leaves before ++ (some slot, node form fields (ofParts children own)) ::
          ofParts parts after := by
  rw [ofParts]
  split
  rename_i before others split
  split
  rename_i own after divide
  refine ⟨before, own, after, ?_, by rw [ofDraft]⟩
  rw [append_of_span divide]
  exact append_of_splitBefore split

/-- **Every token is handed out once and in order,** whatever the parts claim. -/
theorem allTokens_ofParts (parts : List (Slot × Draft)) (tokens : List Token) :
    allTokens (ofParts parts tokens) = tokens := by
  induction parts using Draft.parts_induction generalizing tokens with
  | nil => exact allTokens_leaves tokens
  | leaf slot token parts ih =>
      rcases ofParts_leaf slot token parts tokens with ⟨before, own, after, rfl, same⟩ | same
      · rw [same, allTokens_append, allTokens_leaves, allTokens, Branch.tokens, ih,
          List.singleton_append]
      · rw [same, ih]
  | node slot form span fields children parts ihChildren ihParts =>
      obtain ⟨before, own, after, rfl, same⟩ :=
        ofParts_node slot form span fields children parts tokens
      rw [same, allTokens_append, allTokens_leaves, allTokens, Branch.tokens, ihChildren, ihParts]

theorem tokens_ofDraft {draft : Draft} (node : draft.isNode = true) (tokens : List Token) :
    (ofDraft draft tokens).tokens = tokens := by
  cases draft with
  | leaf token => cases node
  | node form span fields parts => rw [ofDraft, Branch.tokens, allTokens_ofParts]

/-- The children that are parts of the draft, with their slots. -/
def slotted (children : List (Option Slot × Branch)) : List (Slot × Branch) :=
  children.filterMap fun child => child.1.map (·, child.2)

theorem slotted_append (left right : List (Option Slot × Branch)) :
    slotted (left ++ right) = slotted left ++ slotted right :=
  List.filterMap_append

@[simp]
theorem slotted_leaves (tokens : List Token) : slotted (leaves tokens) = [] := by
  simp [slotted, leaves]

/-- **Every part keeps its place.** The children with slots complete the parts that are nodes, in
the same order and in the same slots. -/
theorem parts_ofParts (parts : List (Slot × Draft)) (tokens : List Token) :
    List.Forall₂ (fun part child => part.1 = child.1 ∧ Completes part.2 child.2)
      (parts.filter (·.2.isNode)) (slotted (ofParts parts tokens)) := by
  induction parts using Draft.parts_induction generalizing tokens with
  | nil =>
      rw [ofParts, slotted_leaves]
      exact .nil
  | leaf slot token parts ih =>
      rcases ofParts_leaf slot token parts tokens with ⟨before, own, after, -, same⟩ | same
      · rw [same, slotted_append, slotted_leaves]
        exact ih after
      · rw [same]
        exact ih tokens
  | node slot form span fields children parts _ ihParts =>
      obtain ⟨before, own, after, -, same⟩ :=
        ofParts_node slot form span fields children parts tokens
      rw [same, slotted_append, slotted_leaves]
      exact .cons ⟨rfl, .node form span fields children own⟩ (ihParts after)

/-- A child without a slot is a token that was handed out. -/
theorem leaf_of_slotless {parts : List (Slot × Draft)} {tokens : List Token} {child : Branch}
    (member : (none, child) ∈ ofParts parts tokens) : ∃ token, child = .leaf token := by
  have given : ∀ {handed : List Token}, (none, child) ∈ leaves handed →
      ∃ token, child = .leaf token := by
    intro handed among
    obtain ⟨token, -, same⟩ := List.mem_map.mp among
    exact ⟨token, (Prod.mk.inj same).2.symm⟩
  induction parts using Draft.parts_induction generalizing tokens with
  | nil => exact given member
  | leaf slot token parts ih =>
      rcases ofParts_leaf slot token parts tokens with ⟨before, own, after, -, same⟩ | same
      · rw [same] at member
        rcases List.mem_append.mp member with among | among
        · exact given among
        · rcases List.mem_cons.mp among with same | among
          · exact ⟨own, (Prod.mk.inj same).2⟩
          · exact ih among
      · exact ih (same ▸ member)
  | node slot form span fields children parts _ ihParts =>
      obtain ⟨before, own, after, -, same⟩ :=
        ofParts_node slot form span fields children parts tokens
      rw [same] at member
      rcases List.mem_append.mp member with among | among
      · exact given among
      · rcases List.mem_cons.mp among with same | among
        · simp at same
        · exact ihParts among

/-- A child with a slot is a node that completes one of the parts. -/
theorem completes_of_slot {parts : List (Slot × Draft)} {tokens : List Token} {slot : Slot}
    {child : Branch} (member : (some slot, child) ∈ ofParts parts tokens) :
    ∃ part, (slot, part) ∈ parts ∧ Completes part child := by
  have listed : (slot, child) ∈ slotted (ofParts parts tokens) :=
    List.mem_filterMap.mpr ⟨_, member, rfl⟩
  obtain ⟨⟨other, part⟩, among, same, completes⟩ :=
    Lists.exists_left (parts_ofParts parts tokens) listed
  cases same
  exact ⟨part, List.mem_of_mem_filter among, completes⟩

end Branch

end StructuralLint
