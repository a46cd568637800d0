import StructuralLint.Proofs.Tree.Ownership

/-!
# Spans that enclose their parts

Spans can lie properly in each other although not every node starts at a token (`Draft.Enclosed`).
A part is then handed all that its span owns and nothing that starts outside
(`Branch.handed_ofParts`), but the layout where it starts may end up on either side. This is enough
to tell where a node starts at whose start a token of some width stands: its first token is the
first such token (`Placed.Spans.exists_first`).
-/

namespace StructuralLint

namespace Draft

variable {stream : List Token} {draft : Draft}

/-- A draft whose spans lie in each other: every part lies within its parent, and no two parts of a
node overlap. Tokens that a node claims count with their own start and stop. -/
inductive Enclosed (stream : List Token) : Draft → Prop
  | leaf {token : Token} : token ∈ stream → token.start.before token.stop = true →
      Enclosed stream (.leaf token)
  | node {form : Form} {span : Span} {fields : Fields} {parts : List (Slot × Draft)} :
      span.start.before span.stop = true → SideBySide parts →
        (∀ part ∈ parts, part.2.span.Within span) → (∀ part ∈ parts, Enclosed stream part.2) →
          Enclosed stream (.node form span fields parts)

theorem Enclosed.proper (enclosed : draft.Enclosed stream) :
    draft.span.start.before draft.span.stop = true := by
  cases enclosed with
  | leaf _ proper => exact proper
  | node proper => exact proper

/-- A token that is claimed is owned by its own span. -/
theorem Enclosed.owns_leaf {token : Token} (enclosed : (Draft.leaf token).Enclosed stream) :
    token ∈ stream ∧ (Draft.leaf token).span.owns token = true := by
  cases enclosed with
  | leaf member proper => exact ⟨member, Span.owns_own proper⟩

/-- Nested spans lie in each other. -/
theorem Nested.enclosed (nested : draft.Nested stream) : draft.Enclosed stream := by
  induction nested with
  | leaf member proper => exact .leaf member proper
  | node proper _ sideBySide within _ ih => exact .node proper sideBySide within ih

mutual

/-- Checks that the spans of a draft lie in each other. -/
def encloses (stream : List Token) : Draft → Bool
  | leaf token => decide (token ∈ stream) && token.start.before token.stop
  | node _ span _ parts =>
    span.start.before span.stop && decide (SideBySide parts) &&
      decide (∀ part ∈ parts, part.2.span.Within span) && enclosesAll stream parts

/-- Checks that the spans of parts lie in each other. -/
def enclosesAll (stream : List Token) : List (Slot × Draft) → Bool
  | [] => true
  | (_, part) :: rest => encloses stream part && enclosesAll stream rest

end

mutual

theorem enclosed_of_encloses :
    (draft : Draft) → encloses stream draft = true → draft.Enclosed stream
  | leaf token, passes => by
    rw [encloses, Bool.and_eq_true, decide_eq_true_eq] at passes
    exact .leaf passes.1 passes.2
  | node form span fields parts, passes => by
    simp only [encloses, Bool.and_eq_true, decide_eq_true_eq] at passes
    obtain ⟨⟨⟨proper, sideBySide⟩, within⟩, below⟩ := passes
    exact .node proper sideBySide within (enclosed_of_enclosesAll parts below)

theorem enclosed_of_enclosesAll : (parts : List (Slot × Draft)) →
    enclosesAll stream parts = true → ∀ part ∈ parts, part.2.Enclosed stream
  | [], _ => by simp
  | (slot, part) :: rest, passes => by
    rw [enclosesAll, Bool.and_eq_true] at passes
    intro other member
    rcases List.mem_cons.mp member with rfl | member
    · exact enclosed_of_encloses part passes.1
    · exact enclosed_of_enclosesAll rest passes.2 other member

end

end Draft

/-! ### What is handed to a part -/

/-- Of these tokens a window was handed to a part with this span: it holds what the span owns,
nothing that starts outside, and no layout in front. -/
structure Span.Handed (tokens : List Token) (span : Span) (window : List Token) : Prop where
  piece : window.Sublist tokens
  inside : ∀ token ∈ window,
    token.start.before span.start = false ∧ token.start.before span.stop = true
  owned : ∀ token ∈ tokens, span.owns token = true → token ∈ window
  wide : ∀ token ∈ window.head?, token.start = span.start → token.isEmpty = false

namespace Branch

variable {stream tokens before others own after : List Token} {span : Span}

/-- The scans of a part take what is handed to it. -/
theorem handed_of_splits (inOrder : Token.InOrder tokens)
    (split : splitBefore span.start tokens = (before, others))
    (divide : others.span (·.start.before span.stop) = (own, after)) :
    span.Handed tokens own := by
  have whole := append_of_splitBefore split
  have rest := append_of_span divide
  have suffix : others.Sublist tokens := by
    rw [← whole]
    exact List.sublist_append_right _ _
  have reached : ∀ token ∈ others, token.start.before span.start = false :=
    fun _ => reached_of_splitBefore inOrder split
  have head : ∀ token ∈ others.head?, token.start = span.start → token.isEmpty = false := by
    intro token member starts
    simp only [splitBefore, List.span_eq_takeWhile_dropWhile, Prod.mk.injEq] at split
    rw [← split.2] at member
    have stopped := List.head?_dropWhile_not
      (fun token => decide (token.start = span.start) && token.isEmpty)
      (tokens.dropWhile (·.start.before span.start))
    rw [Option.mem_def.mp member] at stopped
    simpa [starts] using stopped
  rw [List.span_eq_takeWhile_dropWhile, Prod.mk.injEq] at divide
  obtain ⟨rfl, rfl⟩ := divide
  constructor
  · exact (List.takeWhile_sublist _).trans suffix
  · intro token member
    have short := List.mem_takeWhile_imp member
    exact ⟨reached token ((List.takeWhile_sublist _).subset member), short⟩
  · intro token member owned
    obtain ⟨late, early, broad⟩ := Span.owns_iff.mp owned
    rw [← whole, List.mem_append] at member
    rcases member with behind | ahead
    · rcases early_of_splitBefore split behind with short | ⟨same, empty⟩
      · rw [late] at short
        cases short
      · rw [broad same] at empty
        cases empty
    · rw [← rest, List.mem_append] at ahead
      refine ahead.resolve_right fun beyond => ?_
      have stopped := eq_false_of_mem_dropWhile
        ((inOrder.sublist suffix).imp Position.before_of_not_before_of_before) beyond
      rw [early] at stopped
      cases stopped
  · intro token member
    refine head token (Option.mem_def.mpr ?_)
    cases others with
    | nil => cases member
    | cons first rest =>
        rw [List.takeWhile_cons] at member
        split at member
        · exact member
        · cases member

/-- What is passed by starts before the part stops. -/
theorem before_stop_of_splits (proper : span.start.before span.stop = true)
    (split : splitBefore span.start tokens = (before, others))
    (divide : others.span (·.start.before span.stop) = (own, after)) {token : Token}
    (member : token ∈ before ++ own) : token.start.before span.stop = true := by
  rcases List.mem_append.mp member with behind | inside
  · rcases early_of_splitBefore split behind with early | ⟨same, -⟩
    · exact Position.before_trans early proper
    · exact same ▸ proper
  · rw [List.span_eq_takeWhile_dropWhile, Prod.mk.injEq] at divide
    rw [← divide.1] at inside
    have short := List.mem_takeWhile_imp inside
    exact short

/-- What stands before a part and is not its own makes no difference to what is handed to it. -/
theorem handed_append {passed window : List Token}
    (handed : span.Handed after window) (early : ∀ token ∈ passed, span.owns token = false) :
    span.Handed (passed ++ after) window where
  piece := handed.piece.trans (List.sublist_append_right _ _)
  inside := handed.inside
  owned token member owned := by
    rcases List.mem_append.mp member with behind | ahead
    · rw [early token behind] at owned
      cases owned
    · exact handed.owned token ahead owned
  wide := handed.wide

/-- A token that is claimed but not there is skipped. -/
theorem ofParts_leaf_of_not_mem (slot : Slot) {token : Token} (parts : List (Slot × Draft))
    (absent : ∀ other ∈ tokens, other.index ≠ token.index) :
    ofParts ((slot, .leaf token) :: parts) tokens = ofParts parts tokens := by
  rw [ofParts]
  split
  · rename_i before own after split
    have among : own ∈ tokens := by simp [← append_of_span split]
    rw [List.span_eq_takeWhile_dropWhile, Prod.mk.injEq] at split
    have stopped :=
      List.head?_dropWhile_not (fun other => decide (other.index ≠ token.index)) tokens
    rw [split.2] at stopped
    exact absurd (by simpa using stopped) (absent own among)
  · rfl

/-- **What one part is handed.** What is passed by for a part starts before the part stops. A node
is handed what its span owns, and what is left over goes to the later parts. -/
theorem handed_ofParts_cons (ordered : Token.IsStream stream) (piece : tokens.Sublist stream)
    (slot : Slot) {draft : Draft} (enclosed : draft.Enclosed stream) :
    ∃ passed after children, passed ++ after = tokens ∧
      (∀ token ∈ passed, token.start.before draft.span.stop = true) ∧
      (∀ parts, ofParts ((slot, draft) :: parts) tokens = children ++ ofParts parts after) ∧
      List.Forall₂ (fun part child => part.1 = child.1 ∧
          ∃ window, child.2 = ofDraft part.2 window ∧ part.2.span.Handed tokens window)
        ([(slot, draft)].filter (·.2.isNode)) (slotted children) := by
  have inOrder := ordered.inOrder.sublist piece
  cases draft with
  | leaf token =>
      obtain ⟨present, -⟩ := enclosed.owns_leaf
      by_cases inside : token ∈ tokens
      · obtain ⟨before, after, split, built⟩ :=
          ofParts_leaf_of_mem slot (ordered.distinct.sublist (piece.map _)) inside
        refine ⟨before ++ [token], after, leaves before ++ [(none, leaf token)], by simp [← split],
          before_stop_of_append (split ▸ inOrder) enclosed.proper, fun parts => ?_, ?_⟩
        · rw [built, List.append_assoc, List.singleton_append]
        · rw [slotted_append, slotted_leaves]
          exact .nil
      · refine ⟨[], tokens, [], rfl, fun _ member => absurd member List.not_mem_nil, ?_, .nil⟩
        intro parts
        exact ofParts_leaf_of_not_mem slot parts fun other among same => inside <|
          List.inj_on_of_nodup_map ordered.distinct (piece.subset among) present same ▸ among
  | node form span fields parts =>
      obtain ⟨before, others, split⟩ :
        ∃ before others, splitBefore span.start tokens = (before, others) := ⟨_, _, rfl⟩
      obtain ⟨own, after, divide⟩ :
        ∃ own after, others.span (·.start.before span.stop) = (own, after) := ⟨_, _, rfl⟩
      refine ⟨before ++ own, after,
        leaves before ++ [(some slot, ofDraft (.node form span fields parts) own)], ?_,
        fun token member => before_stop_of_splits enclosed.proper split divide member,
        fun later => ?_, ?_⟩
      · rw [List.append_assoc, append_of_span divide, append_of_splitBefore split]
      · rw [ofParts, split]
        simp only [divide, List.append_assoc, List.singleton_append]
      · rw [slotted_append, slotted_leaves]
        exact .cons ⟨rfl, own, rfl, handed_of_splits inOrder split divide⟩ .nil

/-- **What parts are handed.** Where spans lie in each other, each part is handed what its span
owns. -/
theorem handed_ofParts (ordered : Token.IsStream stream) {parts : List (Slot × Draft)}
    (sideBySide : Draft.SideBySide parts) (enclosed : ∀ part ∈ parts, part.2.Enclosed stream)
    (piece : tokens.Sublist stream) :
    List.Forall₂ (fun part child => part.1 = child.1 ∧
        ∃ window, child.2 = ofDraft part.2 window ∧ part.2.span.Handed tokens window)
      (parts.filter (·.2.isNode)) (slotted (ofParts parts tokens)) := by
  induction parts generalizing tokens with
  | nil =>
      rw [ofParts, slotted_leaves]
      exact .nil
  | cons part parts ih =>
      obtain ⟨slot, draft⟩ := part
      have below : ∀ part ∈ parts, part.2.Enclosed stream :=
        fun part member => enclosed part (List.mem_cons_of_mem _ member)
      obtain ⟨passed, after, children, rfl, early, built, own⟩ :=
        handed_ofParts_cons ordered piece slot (enclosed _ List.mem_cons_self)
      rw [built, slotted_append, ← List.singleton_append, List.filter_append]
      refine List.rel_append own (Lists.imp_of_mem (ih ⟨sideBySide.inOrder.of_cons,
        sideBySide.apart.of_cons⟩ below ((List.sublist_append_right _ _).trans piece)) ?_)
      rintro later member child _ ⟨same, window, built, handed⟩
      have among := List.mem_of_mem_filter member
      -- what was passed by starts before the later parts, so that what they own is still there
      refine ⟨same, window, built, handed_append handed fun token behind => ?_⟩
      exact Span.not_owns_of_before (Position.before_of_before_of_not_before (early token behind)
        (sideBySide.not_before_stop (below later among).proper among))

/-- **Claimed tokens are children.** Where spans lie in each other, a node that is handed a token
which it claims by itself has the token for a child. -/
theorem leaf_mem_ofParts (ordered : Token.IsStream stream) {parts : List (Slot × Draft)}
    (sideBySide : Draft.SideBySide parts) (enclosed : ∀ part ∈ parts, part.2.Enclosed stream)
    (piece : tokens.Sublist stream) {slot : Slot} {token : Token}
    (claimed : (slot, .leaf token) ∈ parts) (present : token ∈ tokens) :
    (none, leaf token) ∈ ofParts parts tokens := by
  induction parts generalizing tokens with
  | nil => cases claimed
  | cons part parts ih =>
      obtain ⟨slot', draft⟩ := part
      have below : ∀ part ∈ parts, part.2.Enclosed stream :=
        fun part member => enclosed part (List.mem_cons_of_mem _ member)
      rcases List.mem_cons.mp claimed with same | later
      · cases same
        obtain ⟨before, after, -, built⟩ :=
          ofParts_leaf_of_mem slot (ordered.distinct.sublist (piece.map _)) present
        rw [built]
        exact List.mem_append_right _ List.mem_cons_self
      · obtain ⟨passed, after, children, rfl, early, built, -⟩ :=
          handed_ofParts_cons ordered piece slot' (enclosed _ List.mem_cons_self)
        rw [built]
        -- what is handed out to the first part starts before it stops, and so before the token
        have reached : token.start.before draft.span.stop = false :=
          sideBySide.not_before_stop (below _ later).proper later
        have left : token ∈ after := by
          apply (List.mem_append.mp present).resolve_left
          intro behind
          rw [early token behind] at reached
          cases reached
        exact List.mem_append_right _ (ih ⟨sideBySide.inOrder.of_cons, sideBySide.apart.of_cons⟩
          below ((List.sublist_append_right _ _).trans piece) later left)

end Branch

/-! ### Nodes with what they own -/

namespace Placed

variable {stream tokens window : List Token} {draft : Draft} {placed : Placed}

/-- A node of a draft whose spans lie in each other, with what it was handed. -/
structure Spans (stream : List Token) (draft : Draft) (placed : Placed) : Prop where
  enclosed : draft.Enclosed stream
  isNode : draft.isNode = true
  handed : ∃ window, placed.branch = Branch.ofDraft draft window ∧
    draft.span.Handed stream window

theorem Spans.completes (spans : Spans stream draft placed) :
    Branch.Completes draft placed.branch := by
  obtain ⟨window, branch, -⟩ := spans.handed
  have node := spans.isNode
  cases draft with
  | leaf token => cases node
  | node form span fields parts =>
      rw [branch, Branch.ofDraft]
      exact .node ..

/-- What the parts of a node are handed. -/
theorem spans_slotted {form : Form} {fields : Fields} {parts : List (Slot × Draft)}
    (ordered : Token.IsStream stream) (sideBySide : Draft.SideBySide parts)
    (enclosed : ∀ part ∈ parts, part.2.Enclosed stream) (piece : tokens.Sublist stream)
    (owned : ∀ part ∈ parts, ∀ token ∈ stream, part.2.span.owns token = true → token ∈ tokens)
    (branch : placed.branch = .node form fields (Branch.ofParts parts tokens)) :
    List.Forall₂ (fun part child => part.1 = child.1 ∧ Spans stream part.2 child.2)
      (parts.filter (·.2.isNode)) placed.slotted := by
  have paired := Branch.handed_ofParts ordered sideBySide enclosed piece
  obtain ⟨first, branch'⟩ := placed
  obtain rfl : branch' = .node form fields (Branch.ofParts parts tokens) := branch
  rw [← slotted_eq first form fields] at paired
  refine Lists.imp_of_mem (List.forall₂_map_right_iff.mp paired) ?_
  rintro part member child - ⟨same, window, built, handed⟩
  obtain ⟨among, node⟩ := List.mem_filter.mp member
  refine ⟨same, enclosed part among, node, window, built, ?_⟩
  exact
    { piece := handed.piece.trans piece
      inside := handed.inside
      owned := fun token present own =>
        handed.owned token (owned part among token present own) own
      wide := handed.wide }

/-- **From a node to its parts.** -/
theorem passesDown_spans (ordered : Token.IsStream stream) : PassesDown (Spans stream) := by
  intro form span fields parts placed spans
  obtain ⟨window, branch, handed⟩ := spans.handed
  rw [Branch.ofDraft] at branch
  cases spans.enclosed with
  | node proper sideBySide within enclosed =>
      refine spans_slotted ordered sideBySide enclosed handed.piece ?_ branch
      intro part member token present own
      exact handed.owned token present (Span.owns_of_within (within part member) own)

end Placed

/-! ### First tokens -/

namespace Branch

variable {first : Token} {rest : List Token} {parts : List (Slot × Draft)}

theorem splitBefore_cons_of_before {start : Position}
    (early : first.start.before start = true) : splitBefore start (first :: rest) =
      (first :: (splitBefore start rest).1, (splitBefore start rest).2) := by
  simp [splitBefore, List.span_eq_takeWhile_dropWhile, early]

theorem splitBefore_cons_of_wide {start : Position} (starts : first.start = start)
    (wide : first.isEmpty = false) : splitBefore start (first :: rest) = ([], first :: rest) := by
  simp [splitBefore, List.span_eq_takeWhile_dropWhile, starts, wide, Position.before_irrefl]

/-- The first child of a node that has a token is this token, or a part that starts there and has
it. -/
theorem ofParts_cons (wide : first.isEmpty = false)
    (reached : ∀ part ∈ parts, part.2.span.start.before first.start = false)
    (proper : ∀ part ∈ parts, part.2.span.start.before part.2.span.stop = true) :
    ∃ slot child others, ofParts parts (first :: rest) = (slot, child) :: others ∧
      (child = leaf first ∨ ∃ part ∈ parts, part.2.isNode = true ∧
        part.2.span.start = first.start ∧
          ∃ own, child = ofDraft part.2 (first :: own)) := by
  induction parts with
  | nil => exact ⟨none, leaf first, leaves rest, by rw [ofParts]; rfl, .inl rfl⟩
  | cons part parts ih =>
      obtain ⟨slot, draft⟩ := part
      obtain ⟨slot', child, others, same, known⟩ := ih
        (fun part member => reached part (List.mem_cons_of_mem _ member))
        (fun part member => proper part (List.mem_cons_of_mem _ member))
      have further : (child = leaf first ∨ ∃ part ∈ parts, part.2.isNode = true ∧
          part.2.span.start = first.start ∧ ∃ own, child = ofDraft part.2 (first :: own)) →
          child = leaf first ∨ ∃ part ∈ (slot, draft) :: parts, part.2.isNode = true ∧
            part.2.span.start = first.start ∧ ∃ own, child = ofDraft part.2 (first :: own) := by
        refine Or.imp_right ?_
        rintro ⟨part, member, starts⟩
        exact ⟨part, List.mem_cons_of_mem _ member, starts⟩
      cases draft with
      | leaf token =>
          rcases ofParts_leaf slot token parts (first :: rest) with
            ⟨before, own, after, split, built⟩ | built
          · rw [built]
            cases before with
            | nil =>
                obtain ⟨rfl, rfl⟩ := List.cons.inj split
                exact ⟨none, leaf own, _, rfl, .inl rfl⟩
            | cons head before =>
                obtain ⟨rfl, -⟩ := List.cons.inj split
                exact ⟨none, leaf head, _, rfl, .inl rfl⟩
          · exact ⟨slot', child, others, built.trans same, further known⟩
      | node form span fields children =>
          have late := reached _ List.mem_cons_self
          by_cases early : first.start.before span.start = true
          · rw [ofParts, splitBefore_cons_of_before early]
            exact ⟨none, leaf first, _, rfl, .inl rfl⟩
          · have starts : span.start = first.start :=
              Position.eq_of_not_before late (by simpa using early)
            have inside : first.start.before span.stop = true :=
              starts ▸ proper _ List.mem_cons_self
            rw [ofParts, splitBefore_cons_of_wide starts.symm wide]
            simp only [List.span_eq_takeWhile_dropWhile, List.takeWhile_cons, inside, if_true]
            exact ⟨some slot, _, _, rfl, .inr ⟨_, List.mem_cons_self, rfl, starts, _, rfl⟩⟩

end Branch

namespace Placed

variable {stream rest : List Token} {first : Token} {draft : Draft} {placed : Placed}
  {above : List Placed} {branch : Branch}

/-- The way through first children of a node ends at the token that it starts with. -/
theorem Lies.firstToken_of_cons (lies : Lies branch.whole placed above)
    (sound : branch.TokensAreLeaves) (enclosed : draft.Enclosed stream)
    (node : draft.isNode = true) (built : placed.branch = Branch.ofDraft draft (first :: rest))
    (starts : first.start = draft.span.start) (wide : first.isEmpty = false) :
    ∃ word, branch.toTree.firstToken placed.id = some word ∧
      branch.toTree.token? word = some first := by
  suffices deep : ∀ depth, placed.id < depth → ∃ word,
      branch.toTree.firstTokenTo depth placed.id = some word ∧
        branch.toTree.token? word = some first from deep _ (Nat.lt_succ_self _)
  induction placed using Placed.induction generalizing above draft rest with
  | step placed ih =>
      intro depth enough
      obtain ⟨depth, rfl⟩ : ∃ less, depth = less + 1 := ⟨depth - 1, by omega⟩
      cases enclosed with
      | leaf => cases node
      | @node form span fields parts proper sideBySide within enclosed =>
          have reached : ∀ part ∈ parts, part.2.span.start.before first.start = false := by
            intro part member
            rw [starts]
            exact (within part member).start
          obtain ⟨slot, child, others, same, known⟩ := Branch.ofParts_cons wide reached
            fun part member => (enclosed part member).proper
          have children : placed.children =
              (slot, ⟨placed.first, child⟩) :: row (placed.first + child.size) others := by
            obtain ⟨place, inner⟩ := placed
            obtain rfl : inner = _ := built
            rw [Branch.ofDraft, children_node, same, row]
          have inner : placed.isLeaf = false := by
            refine Bool.eq_false_iff.mpr fun leaf => ?_
            rw [children_of_isLeaf leaf] at children
            cases children
          have member : (slot, (⟨placed.first, child⟩ : Placed)) ∈ placed.children :=
            children ▸ List.mem_cons_self
          have smaller := id_child_lt member
          have lower := Lies.child lies member
          rw [Tree.firstTokenTo, lies.isToken_toTree sound, inner, if_neg Bool.false_ne_true,
            lies.children_toTree, children, List.map_cons]
          rcases known with rfl | ⟨part, among, node, starts, own, rfl⟩
          · obtain ⟨depth, rfl⟩ : ∃ less, depth = less + 1 := ⟨depth - 1, by omega⟩
            refine ⟨(⟨placed.first, .leaf first⟩ : Placed).id, ?_, ?_⟩
            · dsimp only
              rw [Tree.firstTokenTo, lower.isToken_toTree sound]
              rfl
            · rw [Tree.token?, lower.form?_toTree]
              rfl
          · exact ih _ member lower (enclosed part among) node rfl starts.symm depth
              (Nat.lt_of_lt_of_le smaller (Nat.le_of_lt_succ enough))

/-- **Where a node starts.** At whose start a token of some width stands, the node starts with the
first such token, and has all of them. -/
theorem Spans.exists_first (spans : Spans stream draft placed) (ordered : Token.IsStream stream)
    (lies : Lies branch.whole placed above) (sound : branch.TokensAreLeaves)
    (opens : ∃ token ∈ stream, draft.span.opens token = true) :
    ∃ word token, branch.toTree.firstToken placed.id = some word ∧
      branch.toTree.token? word = some token ∧ stream.find? draft.span.opens = some token ∧
        token ∈ placed.branch.tokens ∧
        ∀ other ∈ stream, draft.span.opens other = true → other ∈ placed.branch.tokens := by
  obtain ⟨window, built, handed⟩ := spans.handed
  have tokens : placed.branch.tokens = window := by
    rw [built, Branch.tokens_ofDraft spans.isNode]
  have all : ∀ other ∈ stream, draft.span.opens other = true → other ∈ window :=
    fun other present opened =>
      handed.owned other present (Span.owns_of_opens spans.enclosed.proper opened)
  obtain ⟨wide, present, opened⟩ := opens
  have inside := all wide present opened
  cases window with
  | nil => cases inside
  | cons token rest =>
      have increasing := ordered.increasing.sublist handed.piece
      have first : ∀ other ∈ token :: rest, other = token ∨ token.index < other.index := by
        intro other member
        rcases List.mem_cons.mp member with same | later
        · exact .inl same
        · exact .inr ((List.pairwise_cons.mp increasing).1 other later)
      -- nothing in the window starts before its first token
      have starts : token.start = draft.span.start := by
        refine Position.eq_of_not_before (handed.inside token List.mem_cons_self).1 ?_
        rw [← (Span.opens_iff.mp opened).1]
        rcases List.mem_cons.mp inside with rfl | later
        · exact Position.before_irrefl _
        · exact (List.pairwise_cons.mp (ordered.inOrder.sublist handed.piece)).1 wide later
      have broad : token.isEmpty = false := handed.wide token rfl starts
      obtain ⟨word, found, leaf⟩ :=
        lies.firstToken_of_cons sound spans.enclosed spans.isNode built starts broad
      refine ⟨word, token, found, leaf, ?_, tokens ▸ List.mem_cons_self, tokens ▸ all⟩
      have own : draft.span.opens token = true := Span.opens_iff.mpr ⟨starts, broad⟩
      cases sought : stream.find? draft.span.opens with
      | none =>
          exact absurd own (List.find?_eq_none.mp sought token
            (handed.piece.subset List.mem_cons_self))
      | some other =>
          obtain ⟨opened', before, after, split, passed⟩ := List.find?_eq_some_iff_append.mp sought
          have among : other ∈ stream := by simp [split]
          rcases first other (all other among opened') with rfl | later
          · rfl
          · have ordered' := ordered.increasing
            have member := handed.piece.subset (List.mem_cons_self (a := token) (l := rest))
            rw [split] at member ordered'
            rcases List.mem_append.mp member with behind | ahead
            · simpa [own] using passed token behind
            · rcases List.mem_cons.mp ahead with rfl | beyond
              · rfl
              · have earlier := (List.pairwise_cons.mp (List.pairwise_append.mp ordered').2.1).1
                  token beyond
                omega

end Placed

end StructuralLint
