import StructuralLint.Proofs.Tree.Lossless
import StructuralLint.Proofs.Tree.Attributes
import StructuralLint.Proofs.Tree.Blocks

/-!
# What plays a part

A node names the parts that play a role for it by their numbers, and the tokens that do so by their
index in the stream. The parts of a node that completes a draft are those that were given in the
role (`Placed.Lies.keeps_attributes`). The leaves of a branch are numbered in the order of the
stream, so that the number of a token is that of the leaf that holds it
(`Branch.token?_tokenNumber`), and the tokens that play a role are those that the draft claims for
it (`Placed.Lies.map_token?_attributes`).
-/

namespace StructuralLint

namespace Placed

theorem map_id_leaves_row (first : Nat) (branches : List (Option Slot × Branch))
    (own : ∀ child ∈ row first branches,
      child.2.leaves.map (·.id) = child.2.branch.tokenIds child.2.first) :
    ((row first branches).flatMap (·.2.leaves)).map (·.id) =
      Branch.childTokenIds first branches := by
  induction branches generalizing first with
  | nil => rfl
  | cons head rest ih =>
      rw [row, List.flatMap_cons, List.map_append, Branch.childTokenIds,
        own _ List.mem_cons_self, ih _ fun child member =>
          own child (List.mem_cons_of_mem _ member)]

/-- The numbers of the leaves below a branch. -/
theorem map_id_leaves (placed : Placed) :
    placed.leaves.map (·.id) = placed.branch.tokenIds placed.first := by
  induction placed using Placed.induction with
  | step placed ih =>
      obtain ⟨first, branch⟩ := placed
      cases branch with
      | leaf token =>
          rw [leaves_of_isLeaf rfl]
          rfl
      | node form fields children =>
          rw [leaves_of_not_isLeaf rfl, Branch.tokenIds]
          exact map_id_leaves_row first children ih

end Placed

/-- The tokens of a stream are numbered by their places. -/
def Token.Numbered (tokens : List Token) : Prop :=
  ∀ (place : Nat) (token : Token), tokens[place]? = some token → token.index = place

theorem Token.numbered_of_lex {source : List Char} {tokens : List Token}
    (read : lex source = .ok tokens) : Token.Numbered tokens :=
  fun _ _ => index_of_lex read

namespace Branch

variable {branch : Branch} {token : Token} {place : Nat}

/-- The leaf that holds a token of the stream. -/
theorem exists_leaf (found : branch.tokens[place]? = some token) :
    ∃ leaf above, Placed.Lies branch.whole leaf above ∧ leaf.branch = .leaf token ∧
      branch.tokenNumber place = leaf.id := by
  have forms := congrArg (·[place]?) branch.whole.map_form_leaves
  have ids := congrArg (·[place]?) branch.whole.map_id_leaves
  simp only [List.getElem?_map] at forms ids
  rw [show branch.whole.branch.tokens[place]? = some token from found, Option.map_some,
    Option.map_eq_some_iff] at forms
  obtain ⟨leaf, listed, form⟩ := forms
  have member := List.mem_of_getElem? listed
  obtain ⟨above, lies⟩ :=
    Placed.mem_preorder_iff.mp (branch.whole.leaves_sublist_preorder.subset member)
  refine ⟨leaf, above, lies, ?_, ?_⟩
  · obtain ⟨first, inner⟩ := leaf
    cases inner with
    | leaf own => exact congrArg _ (Form.token.inj form)
    | node => exact absurd (List.of_mem_filter member) Bool.false_ne_true
  · rw [listed, Option.map_some] at ids
    rw [tokenNumber, Array.getD_eq_getD_getElem?, List.getElem?_toArray,
      show (branch.tokenIds 0)[place]? = some leaf.id from ids.symm, Option.getD_some]

/-- A leaf has the number of the token that it holds. -/
theorem tokenNumber_of_lies {leaf : Placed} {above : List Placed}
    (lies : Placed.Lies branch.whole leaf above) (held : leaf.branch = .leaf token)
    (numbered : Token.Numbered branch.tokens) : branch.tokenNumber token.index = leaf.id := by
  have inner : leaf.isLeaf = true := by rw [Placed.isLeaf, held]
  have form : leaf.form = .token token := by rw [Placed.form, held]
  have member : leaf ∈ branch.whole.leaves :=
    List.mem_filter.mpr ⟨Placed.mem_preorder_iff.mpr ⟨above, lies⟩, inner⟩
  obtain ⟨place, listed⟩ := List.mem_iff_getElem?.mp member
  have forms := congrArg (·[place]?) branch.whole.map_form_leaves
  have ids := congrArg (·[place]?) branch.whole.map_id_leaves
  simp only [List.getElem?_map, listed, Option.map_some, form] at forms ids
  obtain ⟨own, found, same⟩ := Option.map_eq_some_iff.mp forms.symm
  rw [numbered place token (Form.token.inj same ▸ found), tokenNumber,
    Array.getD_eq_getD_getElem?, List.getElem?_toArray,
    show (branch.tokenIds 0)[place]? = some leaf.id from ids.symm, Option.getD_some]

/-- A token has one node only. -/
theorem eq_tokenNumber {id : NodeId} (sound : branch.TokensAreLeaves)
    (numbered : Token.Numbered branch.tokens) (held : branch.toTree.token? id = some token) :
    id = branch.tokenNumber token.index := by
  rw [Tree.token?] at held
  split at held
  · rename_i own found
    cases held
    obtain ⟨⟨first, inner⟩, above, lies, rfl, form⟩ := Tree.exists_lies_of_form? found
    cases inner with
    | leaf own =>
        cases form
        exact (tokenNumber_of_lies lies rfl numbered).symm
    | node own fields children =>
        cases lies.tokensAreLeaves sound with
        | node other _ => exact absurd form (other token)
  · cases held

/-- **A token is found by its index.** -/
theorem token?_tokenNumber (found : branch.tokens[place]? = some token) :
    branch.toTree.token? (branch.tokenNumber place) = some token := by
  obtain ⟨leaf, above, lies, same, number⟩ := exists_leaf found
  rw [number, Tree.token?, lies.form?_toTree, Placed.form, same]

theorem tokens_ofProgram (program : Program) (text : SourceText) :
    (ofProgram program text).tokens = text.tokens :=
  allTokens_ofParts _ _

/-- In the tree of a program every token of the text is found by its index. -/
theorem token?_tokenNumber_ofProgram (program : Program) {text : SourceText}
    (numbered : Token.Numbered text.tokens) (member : token ∈ text.tokens) :
    (ofProgram program text).toTree.token?
      ((ofProgram program text).tokenNumber token.index) = some token := by
  obtain ⟨place, found⟩ := List.mem_iff_getElem?.mp member
  rw [numbered place token found]
  exact token?_tokenNumber ((tokens_ofProgram program text).symm ▸ found)

end Branch

/-! ### Look-ups -/

namespace SourceText

variable {text : SourceText} {token other : Token} {place : Position} {type : TokenType}
  {value : String} {span : Span}

theorem mem_of_mem_tokensFrom (member : token ∈ text.tokensFrom place) : token ∈ text.tokens :=
  (List.dropWhile_sublist _).subset member

theorem of_tokenAfter (found : text.tokenAfter type place value = some token) :
    token ∈ text.tokensFrom place ∧ token.type = type ∧ token.value = value := by
  have passes := List.find?_some found
  rw [Bool.and_eq_true, decide_eq_true_eq, decide_eq_true_eq] at passes
  exact ⟨List.mem_of_find?_eq_some found, passes⟩

theorem mem_of_previous (found : text.previous token = some other) : other ∈ text.tokens := by
  rw [previous] at found
  split at found
  · cases found
  · exact List.mem_of_getElem? found

end SourceText

/-! ### Roles -/

namespace Placed

variable {placed : Placed} {above : List Placed} {role : Role}

/-- No part plays the role of a token. -/
theorem Shaped.playing_eq_nil (shaped : placed.Shaped) (mark : role.isMark = true) :
    placed.playing role = [] := by
  refine List.eq_nil_iff_forall_not_mem.mpr fun child plays => ?_
  obtain ⟨slot, own, member⟩ := mem_playing_iff.mp plays
  have fits := (shaped.admitted slot child member).2
  rw [own] at fits
  rw [Form.isMark_of_admits fits] at mark
  cases mark

namespace Lies

section

variable {branch : Branch} {drafts : List Draft}

/-- The attributes of a node in a role keep what was given in it. -/
theorem keeps_attributes (lies : Lies branch.whole placed above) (sound : branch.Sound)
    (leaves : branch.TokensAreLeaves) (other : role.isMark = false)
    (complete : Complete drafts (placed.playing role)) :
    List.Forall₂ branch.toTree.Keeps drafts (branch.toTree.attributes placed.id role) := by
  rw [lies.attributes_of_sound sound other, List.forall₂_map_right_iff]
  refine Lists.imp_of_mem complete fun draft _ part plays completes => ?_
  obtain ⟨slot, -, member⟩ := mem_playing_iff.mp plays
  exact (Lies.child lies member).keeps_toTree leaves completes

theorem map_form?_attributes (lies : Lies branch.whole placed above) (sound : branch.Sound)
    (other : role.isMark = false) (complete : Complete drafts (placed.playing role)) :
    (branch.toTree.attributes placed.id role).map branch.toTree.form? =
      drafts.map (some ·.form) := by
  rw [lies.attributes_of_sound sound other, List.map_map]
  refine (Lists.map_eq (R := fun draft part => branch.toTree.form? part.id = some draft.form)
    (Lists.imp_of_mem complete fun draft _ part plays completes => ?_) fun _ _ same =>
      same.symm).symm
  obtain ⟨slot, -, member⟩ := mem_playing_iff.mp plays
  rw [(Lies.child lies member).form?_toTree, form_of_completes completes]

end

/-- The tokens that play a role for a node are those that its draft claims. -/
theorem map_token?_attributes {program : Program} {text : SourceText}
    (lies : Lies (Branch.ofProgram program text).whole placed above) (shaped : placed.Shaped)
    (numbered : Token.Numbered text.tokens) (mark : role.isMark = true)
    (present : ∀ mark ∈ placed.fields.tokens, mark.2 ∈ text.tokens) :
    let tree := (Branch.ofProgram program text).toTree
    (tree.attributes placed.id role).map tree.token? =
      (placed.fields.tokens.filter (·.1 = role)).map (some ·.2) := by
  intro tree
  rw [lies.attributes_toTree shaped.places (shaped.holds role), shaped.playing_eq_nil mark,
    List.map_nil, List.append_nil, List.map_map]
  refine List.map_congr_left fun mark member => ?_
  exact Branch.token?_tokenNumber_ofProgram program numbered
    (present mark (List.mem_of_mem_filter member))

end Lies

end Placed

end StructuralLint
