import StructuralLint.Proofs.Clause.Drafts
import StructuralLint.Proofs.Clause.Statements
import StructuralLint.Proofs.Token.Order
import StructuralLint.Proofs.Tree.Opening

/-!
# Clauses and their words

A clause is drafted from its word and its block. In the tree it names the leaf of the word as its
keyword, and its block is made of the nodes of the statements that were given for it
(`Placed.Hosts.opened`). That the clause also starts with the word takes that the tokens before the
word have been handed out to what stands before, so it is said of programs whose spans lie in each
other (`Program.Enclosing`, `Placed.Spans.firstToken_of_leaf`).
-/

namespace StructuralLint

open Program Draft

namespace Placed

variable {stream : List Token} {token : Token} {form : Form} {span : Span}
  {fields : Fields} {parts : List (Slot × Draft)} {slot : Slot} {placed : Placed}
  {above : List Placed} {branch : Branch}

/-- A token that a node claims is a child of the node. -/
theorem Spans.mem_children_of_leaf (spans : Spans stream (.node form span fields parts) placed)
    (ordered : Token.IsStream stream) (claimed : (slot, .leaf token) ∈ parts)
    (lies : Lies branch.whole placed above) (numbered : Token.Numbered branch.tokens) :
    branch.tokenNumber token.index ∈ branch.toTree.children placed.id := by
  obtain ⟨window, built, handed⟩ := spans.handed
  cases spans.enclosed with
  | node proper sideBySide within enclosed =>
      obtain ⟨present, owned⟩ := (enclosed _ claimed).owns_leaf
      have inside : token ∈ window :=
        handed.owned token present (Span.owns_of_within (within _ claimed) owned)
      have child := Branch.leaf_mem_ofParts ordered sideBySide enclosed handed.piece claimed inside
      obtain ⟨leaf, member, held⟩ : ∃ leaf, (none, leaf) ∈ placed.children ∧
          leaf.branch = .leaf token := by
        obtain ⟨first, inner⟩ := placed
        obtain rfl : inner = _ := built
        rw [← map_branch_row first (Branch.ofParts parts window)] at child
        obtain ⟨⟨slot, leaf⟩, member, same⟩ := List.mem_map.mp child
        obtain ⟨rfl, held⟩ := Prod.mk.inj same
        exact ⟨leaf, member, held⟩
      rw [Branch.tokenNumber_of_lies (.child lies member) held numbered, lies.children_toTree]
      exact List.mem_map.mpr ⟨_, member, rfl⟩

/-- **A node starts with its word.** A node that claims a token and starts where the token does has
the token for a child and for its first token. -/
theorem Spans.firstToken_of_leaf (spans : Spans stream (.node form span fields parts) placed)
    (lexed : Token.IsLexed stream) (claimed : (slot, .leaf token) ∈ parts)
    (start : span.start = token.start) (lies : Lies branch.whole placed above)
    (sound : branch.TokensAreLeaves) (numbered : Token.Numbered branch.tokens) :
    branch.toTree.firstToken placed.id = some (branch.tokenNumber token.index) ∧
      branch.tokenNumber token.index ∈ branch.toTree.children placed.id := by
  refine ⟨?_, spans.mem_children_of_leaf lexed.isStream claimed lies numbered⟩
  cases spans.enclosed with
  | node proper sideBySide within enclosed =>
      obtain ⟨present, owned⟩ := (enclosed _ claimed).owns_leaf
      have wide : token.isEmpty = false := (Span.owns_iff.mp owned).2.2 rfl
      obtain ⟨word, first, found, held, opening, -⟩ := spans.exists_first lexed.isStream lies sound
        ⟨token, present, Span.opens_iff.mpr ⟨start.symm, wide⟩⟩
      obtain ⟨starts, broad⟩ := Span.opens_iff.mp (List.find?_some opening)
      obtain rfl : first = token :=
        lexed.apart.eq (List.mem_of_find?_eq_some opening) present (starts.trans start) broad wide
      rw [found, Branch.eq_tokenNumber sound numbered held]

end Placed

/-! ### What a node is handed -/

/-- The spans of a program lie in each other. -/
structure Program.Enclosing (program : Program) (text : SourceText) : Prop where
  sideBySide : SideBySide (Draft.ofProgram program text).parts
  enclosed : ∀ part ∈ (Draft.ofProgram program text).parts, part.2.Enclosed text.tokens

variable {program : Program} {text : SourceText}

/-- A node of the tree of a program, with what its span owns where spans lie in each other. -/
structure Placed.Hosts (program : Program) (text : SourceText) (draft : Draft) (placed : Placed) :
    Prop where
  completes : Branch.Completes draft placed.branch
  spans : program.Enclosing text → placed.Spans text.tokens draft

namespace Placed

private theorem hosts_of_paired {items : List (Slot × Draft)} {parts : List (Slot × Placed)}
    (complete : List.Forall₂ (fun item part => item.1 = part.1 ∧
      Branch.Completes item.2 part.2.branch) items parts)
    (spans : program.Enclosing text → List.Forall₂ (fun item part => item.1 = part.1 ∧
      Spans text.tokens item.2 part.2) items parts) :
    List.Forall₂ (fun item part => item.1 = part.1 ∧ Hosts program text item.2 part.2)
      items parts := by
  by_cases enclosing : program.Enclosing text
  · refine (spans enclosing).imp ?_
    exact fun item part ⟨same, spans⟩ => ⟨same, spans.completes, fun _ => spans⟩
  · refine complete.imp ?_
    exact fun item part ⟨same, completes⟩ =>
      ⟨same, completes, fun enclosing' => absurd enclosing' enclosing⟩

theorem passesDown_hosts (program : Program) (lexed : Token.IsLexed text.tokens) :
    PassesDown (Hosts program text) :=
  fun _ _ _ _ _ hosts => hosts_of_paired (slotted_of_completes hosts.completes) fun enclosing =>
    passesDown_spans lexed.isStream _ _ _ _ _ (hosts.spans enclosing)

/-- The outermost statements of a program have their nodes. -/
theorem hosts_statements (program : Program) (lexed : Token.IsLexed text.tokens) :
    List.Forall₂ (Hosts program text) (ofStmts text program.body)
      ((Branch.ofProgram program text).whole.playing .statement) := by
  have complete : List.Forall₂ _ (_ : List (Slot × Draft))
      (Branch.ofProgram program text).whole.slotted :=
    slotted_of_completes (Draft.completes_ofProgram program text)
  have slots := hosts_of_paired complete fun enclosing =>
    spans_slotted lexed.isStream enclosing.sideBySide enclosing.enclosed (.refl _)
      (fun _ _ _ present _ => present) rfl
  simpa using inRole_of_slotted slots (.refl _) (some .statement)

end Placed

/-! ### Statements and their nodes -/

/-- A statement of a program and its node in the tree. -/
def Program.Stands (program : Program) (text : SourceText) (stmt : Stmt) (node : NodeId) : Prop :=
  program.Contains stmt ∧ ∃ placed above,
    Placed.Lies (Branch.ofProgram program text).whole placed above ∧ placed.id = node ∧
      placed.Hosts program text (ofStmt text stmt)

variable {placed : Placed} {above : List Placed} {stmt : Stmt} {stmts : List Stmt} {tail : Tail}

/-- The node of a statement keeps the statement with everything in it. -/
theorem Program.Stands.keeps {node : NodeId} (stands : program.Stands text stmt node) :
    (Branch.ofProgram program text).toTree.Keeps (ofStmt text stmt) node := by
  obtain ⟨-, placed, above, lies, rfl, hosts⟩ := stands
  exact lies.keeps_toTree (Branch.tokensAreLeaves_ofProgram program text) hosts.completes

/-- Every statement of a program has its node. -/
theorem Program.Contains.exists_stands (lexed : Token.IsLexed text.tokens)
    (contains : program.Contains stmt) : ∃ node, program.Stands text stmt node := by
  obtain ⟨placed, above, lies, hosts⟩ :=
    contains.bears (Placed.passesDown_hosts program lexed) (Placed.hosts_statements program lexed)
  exact ⟨placed.id, contains, placed, above, lies, rfl, hosts⟩

/-- A node that may have statements below it and is no piece of a statement is that of a
statement. -/
theorem Program.exists_stands (lexed : Token.IsLexed text.tokens)
    (lies : Placed.Lies (Branch.ofProgram program text).whole placed above)
    (calm : placed.form.isCalm = false) (piece : placed.form.isPiece = false) :
    ∃ stmt, program.Stands text stmt placed.id := by
  have known := accounts_of_lies (Placed.passesDown_hosts program lexed)
    (fun _ _ hosts => hosts.completes) rfl (Placed.hosts_statements program lexed)
    (Branch.sound_ofProgram program text) lies
  rcases known with (own | ⟨stmt, contains, hosts⟩) | ⟨own, -⟩
  · rw [calm] at own
    cases own
  · exact ⟨stmt, contains, placed, above, lies, rfl, hosts⟩
  · rw [piece] at own
    cases own

/-- The statements of a block and the nodes that play its role. -/
theorem Placed.Lies.stands_attributes {role : Role}
    (lies : Lies (Branch.ofProgram program text).whole placed above)
    (other : role.isMark = false) (contains : ∀ inner ∈ stmts, program.Contains inner)
    (parts : List.Forall₂ (Hosts program text) (ofStmts text stmts) (placed.playing role)) :
    List.Forall₂ (program.Stands text) stmts
      ((Branch.ofProgram program text).toTree.attributes placed.id role) := by
  rw [ofStmts_eq_map, List.forall₂_map_left_iff] at parts
  rw [lies.attributes_of_sound (Branch.sound_ofProgram program text) other,
    List.forall₂_map_right_iff]
  refine Lists.imp_of_mem parts fun inner among part plays hosts => ?_
  obtain ⟨slot, -, child⟩ := mem_playing_iff.mp plays
  exact ⟨contains inner among, part, _, .child lies child, rfl, hosts⟩

/-- The outermost statements of a program and the nodes of the file. -/
theorem Program.stands_statements (program : Program) (lexed : Token.IsLexed text.tokens) :
    List.Forall₂ (program.Stands text) program.body
      ((Branch.ofProgram program text).toTree.attributes
        (Branch.ofProgram program text).toTree.root .statement) := by
  rw [Branch.root_toTree]
  exact Placed.Lies.root.stands_attributes rfl (fun _ => .outermost)
    (Placed.hosts_statements program lexed)

namespace Program.Stmt

theorem mem_parts_of_tails (member : tail ∈ stmt.tails text) : tail.body ⊆ stmt.parts := by
  cases stmt with
  | conditional =>
      rw [tails] at member
      split at member
      · cases member
      · obtain rfl := List.mem_singleton.mp member
        exact List.subset_append_right _ _
  | whileLoop | forLoop =>
      obtain rfl := List.mem_singleton.mp member
      exact List.subset_append_right _ _
  | tryBlock span isStar body handlers orelse final =>
      intro inner among
      simp only [tails, List.mem_cons, List.not_mem_nil, or_false] at member
      rcases member with rfl | rfl
      · exact List.mem_append_left _ (List.mem_append_right _ among)
      · exact List.mem_append_right _ among
  | _ => cases member

theorem mem_parts_of_further {next : Further} (found : next ∈ stmt.further? text) :
    next.branch ∈ stmt.parts := by
  cases stmt with
  | conditional span test body orelse =>
      obtain ⟨branch, elif, rfl⟩ := Option.map_eq_some_iff.mp found
      obtain ⟨_, _, _, _, -, same⟩ := elif?_eq_some elif
      rw [parts, same]
      exact List.mem_append_right _ (List.mem_singleton_self _)
  | _ => cases found

end Program.Stmt

/-! ### Clauses in the tree -/

/-- The clause that a block has become. Its word is the only keyword between the block and what
stands before it, and it has the nodes of the statements of the block; where spans lie in each
other, it starts with its word, which is a child of it. -/
structure Tree.Opened (tree : Tree) (program : Program) (text : SourceText)
    (stands : Stmt → NodeId → Prop) (tail : Tail) (clause : NodeId) : Prop where
  form : tree.form? clause = some tail.form
  word : ∃ id token, tree.attributes clause .keyword = [id] ∧ tree.token? id = some token ∧
    text.keywordsIn (tail.gap text) = [token] ∧ token.value = tail.word ∧
      (program.Enclosing text → tree.firstToken clause = some id ∧ id ∈ tree.children clause)
  block : List.Forall₂ stands tail.body (tree.attributes clause .body)

/-- The node of a statement has its further branch, and a clause for each of its blocks that is not
empty. -/
structure Tree.HasTails (tree : Tree) (program : Program) (text : SourceText)
    (stands : Stmt → NodeId → Prop) (stmt : Stmt) (node : NodeId) : Prop where
  further : List.Forall₂ stands ((stmt.further? text).toList.map (·.branch))
    (tree.attributes node .elifBranch)
  clauses : ∀ role ∈ clauseRoles, List.Forall₂ (tree.Opened program text stands)
    ((stmt.tails text).filter fun tail => !tail.body.isEmpty && tail.role = role)
    (tree.attributes node role)

namespace Placed.Hosts

theorem opened (lies : Lies (Branch.ofProgram program text).whole placed above)
    (lexed : Token.IsLexed text.tokens) (contains : program.Contains stmt)
    (laidOut : stmt.LaidOut text) (member : tail ∈ stmt.tails text) (block : tail.body ≠ [])
    {draft : Draft} (made : tail.clause? text = some draft)
    (hosts : placed.Hosts program text draft) :
    (Branch.ofProgram program text).toTree.Opened program text (program.Stands text) tail
      placed.id := by
  obtain ⟨token, only, value, same⟩ := Tail.clause?_eq block (laidOut.words tail member block)
  obtain rfl := Option.some.inj (made.symm.trans same)
  have sound := Branch.sound_ofProgram program text
  have shaped : placed.Shaped := (sound _ _ lies).resolve_left (by
    rw [isLeaf_of_completes hosts.completes]
    exact Bool.false_ne_true)
  have among : token ∈ text.keywordsIn (tail.gap text) := only ▸ List.mem_singleton_self token
  obtain ⟨present, early⟩ := SourceText.mem_tokensIn (List.mem_of_mem_filter among)
  have keyword : (Branch.ofProgram program text).toTree.attributes placed.id .keyword =
      [(Branch.ofProgram program text).tokenNumber token.index] := by
    rw [lies.attributes_toTree shaped.places (shaped.holds _), fields_of_completes hosts.completes,
      shaped.playing_eq_nil rfl]
    rfl
  refine ⟨?_, ⟨_, token, keyword, ?_, only, value, fun enclosing => ?_⟩, ?_⟩
  · rw [lies.form?_toTree, form_of_completes hosts.completes]
    rfl
  · exact Branch.token?_tokenNumber_ofProgram program lexed.numbered present
  · obtain ⟨slot, -, claimed⟩ := exists_mem_arrange
      (@List.mem_cons_self _ (none, .leaf token) (Draft.playing .body (ofStmts text tail.body)))
    refine (hosts.spans enclosing).firstToken_of_leaf lexed claimed ?_ lies
      (Branch.tokensAreLeaves_ofProgram program text)
      ((Branch.tokens_ofProgram program text).symm ▸ lexed.numbered)
    apply start_coverParts_eq
    intro part member'
    obtain ⟨inner, among, rfl⟩ : ∃ inner ∈ tail.body,
        (some Role.body, ofStmt text inner) = part := by
      simpa [Draft.playing, ofStmts_eq_map] using member'
    exact Position.not_before_of_before
      (Position.before_of_before_of_not_before early (laidOut.starts tail member inner among))
  · refine lies.stands_attributes rfl (fun inner among => .inside contains
      (List.mem_append_left _ (Stmt.mem_parts_of_tails member among))) ?_
    have parts := inRole_ofParts (passesDown_hosts program lexed) hosts (some .body)
    rw [show (none, Draft.leaf token) :: Draft.playing .body (ofStmts text tail.body) =
      Draft.plain [.leaf token] ++ Draft.playing .body (ofStmts text tail.body) from rfl] at parts
    simpa using parts

theorem hasTails (lies : Lies (Branch.ofProgram program text).whole placed above)
    (lexed : Token.IsLexed text.tokens) (contains : program.Contains stmt)
    (laidOut : stmt.LaidOut text) (hosts : placed.Hosts program text (ofStmt text stmt)) :
    (Branch.ofProgram program text).toTree.HasTails program text (program.Stands text) stmt
      placed.id := by
  obtain ⟨form, span, fields, given, drafted, further, clauses⟩ := laidOut.exists_given
  rw [drafted] at hosts
  constructor
  · refine lies.stands_attributes rfl ?_ ?_
    · refine List.forall_mem_map.mpr fun next found => .inside contains (List.mem_append_left _ ?_)
      exact Stmt.mem_parts_of_further (Option.mem_toList.mp found)
    · have parts := inRole_ofSpan (passesDown_hosts program lexed) hosts (some .elifBranch)
      rw [further, inRole_some, filter_isNode_of_free
        (List.forall_mem_map.mpr fun next _ => free_ofStmt text next.branch)] at parts
      rwa [ofStmts_eq_map, List.map_map]
  · intro role member
    have parts := inRole_ofSpan (passesDown_hosts program lexed) hosts (some role)
    simp only [clauses role member, inRole_some, List.filter_flatMap, Tail.clause?,
      filter_isNode_ofClause] at parts
    have made := @Tail.forall₂_clauses text ((stmt.tails text).filter (·.role = role))
    have paired : List.Forall₂ (fun tail part => ∃ draft, tail.clause? text = some draft ∧
        Hosts program text draft part)
        (((stmt.tails text).filter (·.role = role)).filter fun tail => !tail.body.isEmpty)
        (placed.playing role) :=
      Lists.compose made parts fun draft tail part made hosts => ⟨draft, made, hosts⟩
    rw [lies.attributes_of_sound (Branch.sound_ofProgram program text)
        (isMark_clauseRoles role member),
      List.forall₂_map_right_iff, ← List.filter_filter]
    refine Lists.imp_of_mem paired fun tail among part plays given => ?_
    obtain ⟨draft, made, hosts⟩ := given
    obtain ⟨⟨listed, -⟩, block⟩ := by simpa only [List.mem_filter] using among
    obtain ⟨slot, -, child⟩ := mem_playing_iff.mp plays
    exact opened (.child lies child) lexed contains laidOut listed (by simpa using block) made
      hosts

end Placed.Hosts

end StructuralLint
