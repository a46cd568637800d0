import StructuralLint.Proofs.Clause.Words

/-!
# Chains of branches

An `if` statement with its further branches is a chain of nodes, each with its own block, and with
the `else` block at the last one. In the tree of a source text every statement has its node, the
clauses of this node are those of its blocks, and the chain of a tree has the blocks that the chain
has in the program, in order (`Tree.branching`).
-/

namespace StructuralLint

open Program Draft

/-- The blocks of an `if` statement and of its further branches, with the `else` block of the last
one. -/
def Program.Stmt.chain (text : SourceText) : Stmt → List (List Stmt)
  | .conditional _ _ body [.conditional span test inner orelse] =>
    if (elif? text [.conditional span test inner orelse]).isSome then
      body :: chain text (.conditional span test inner orelse)
    else [body, [.conditional span test inner orelse]]
  | .conditional _ _ body [] => [body]
  | .conditional _ _ body orelse => [body, orelse]
  | _ => []

/-- The blocks of a node and of the further branches from it on, with those of the clauses of the
last one. -/
inductive Tree.Chain (tree : Tree) : NodeId → List (List NodeId) → Prop
  | last {node : NodeId} : tree.attributes node .elifBranch = [] →
      Chain tree node (tree.attributes node .body ::
        (tree.attributes node .elseClause).map (tree.attributes · .body))
  | next {node branch : NodeId} {blocks : List (List NodeId)} :
      tree.attributes node .elifBranch = [branch] → tree.attributes node .elseClause = [] →
        Chain tree branch blocks → Chain tree node (tree.attributes node .body :: blocks)

/-- What the node of a statement promises. It keeps the statement with everything in it. Where the
statement is laid out, the node has its clauses; where all statements of the program are, the chain
that starts here has the blocks that the chain of the statement has. -/
structure Tree.Clauses (tree : Tree) (program : Program) (text : SourceText)
    (stands : Stmt → NodeId → Prop) (stmt : Stmt) (node : NodeId) : Prop where
  keeps : tree.Keeps (ofStmt text stmt) node
  tails : stmt.LaidOut text → tree.HasTails program text stands stmt node
  chain : (∀ inner, program.Contains inner → inner.LaidOut text) → stmt.chain text ≠ [] →
    ∃ blocks, tree.Chain node blocks ∧ List.Forall₂ (List.Forall₂ stands) (stmt.chain text) blocks

variable {program : Program} {text : SourceText} {stmt : Stmt} {node : NodeId}

namespace Program.Stmt

variable {span : Span} {test : Expr} {body orelse : List Stmt}

theorem chain_of_elif {next : Stmt} (found : elif? text orelse = some next) :
    (conditional span test body orelse).chain text = body :: next.chain text := by
  obtain ⟨_, _, _, _, rfl, rfl⟩ := elif?_eq_some found
  rw [chain, found]
  rfl

theorem chain_of_last (none : elif? text orelse = none) :
    (conditional span test body orelse).chain text =
      body :: [orelse].filter fun block => !block.isEmpty := by
  unfold chain
  split
  · simp_all
  · simp_all
  · simp_all
  · rename_i other
    exact (other _ _ _ _ rfl).elim

theorem chain_ne_nil : (conditional span test body orelse).chain text ≠ [] := by
  cases found : elif? text orelse with
  | none =>
      rw [chain_of_last found]
      exact List.cons_ne_nil _ _
  | some next =>
      rw [chain_of_elif found]
      exact List.cons_ne_nil _ _

end Program.Stmt

namespace Program.Stands

variable {span : Span} {test : Expr} {body orelse : List Stmt}

theorem hasTails (lexed : Token.IsLexed text.tokens) (stands : program.Stands text stmt node)
    (laidOut : stmt.LaidOut text) :
    (Branch.ofProgram program text).toTree.HasTails program text
      (program.Stands text) stmt node := by
  obtain ⟨contains, placed, above, lies, rfl, hosts⟩ := stands
  exact hosts.hasTails lies lexed contains laidOut

theorem block (lexed : Token.IsLexed text.tokens)
    (stands : program.Stands text (.conditional span test body orelse) node) :
    List.Forall₂ (program.Stands text) body
      ((Branch.ofProgram program text).toTree.attributes node .body) := by
  obtain ⟨contains, placed, above, lies, rfl, hosts⟩ := stands
  refine lies.stands_attributes rfl (fun inner member => .inside contains ?_)
    (Placed.paired_conditional (Placed.passesDown_hosts program lexed) hosts).1
  exact List.mem_append_left _ (List.mem_append_left _ member)

/-- The last branch of a chain has the `else` block. -/
theorem chain_of_last (lexed : Token.IsLexed text.tokens)
    (stands : program.Stands text (.conditional span test body orelse) node)
    (laidOut : (Stmt.conditional span test body orelse).LaidOut text)
    (last : elif? text orelse = none) :
    ∃ blocks, (Branch.ofProgram program text).toTree.Chain node blocks ∧
      List.Forall₂ (List.Forall₂ (program.Stands text))
        ((Stmt.conditional span test body orelse).chain text) blocks := by
  have tails := stands.hasTails lexed laidOut
  have further := tails.further
  rw [Stmt.further?, last] at further
  have clauses := tails.clauses .elseClause List.mem_cons_self
  have blocks : ((Stmt.conditional span test body orelse).tails text).filter
        (fun tail => !tail.body.isEmpty && tail.role = .elseClause) =
      ([orelse].filter fun block => !block.isEmpty).map
        (Tail.otherwise (Stmt.blockEnd text test body)) := by
    rw [Stmt.tails, last]
    cases orelse <;> rfl
  rw [blocks, List.forall₂_map_left_iff] at clauses
  rw [Stmt.chain_of_last last]
  refine ⟨_, .last (List.forall₂_nil_left_iff.mp further), .cons (stands.block lexed) ?_⟩
  exact List.forall₂_map_right_iff.mpr (clauses.imp fun _ _ opened => opened.block)

/-- **No branch is lost.** The chain that starts at the node of an `if` statement has the blocks of
the statement's chain. -/
theorem exists_chain (lexed : Token.IsLexed text.tokens)
    (laidOut : ∀ inner, program.Contains inner → inner.LaidOut text)
    (stands : program.Stands text stmt node) (conditional : stmt.chain text ≠ []) :
    ∃ blocks, (Branch.ofProgram program text).toTree.Chain node blocks ∧
      List.Forall₂ (List.Forall₂ (program.Stands text)) (stmt.chain text) blocks := by
  -- the induction goes along the chain: a further branch stands in the node of the one before
  induction stmt using Stmt.chain.induct text generalizing node with
  | case1 span test body span' test' inner orelse found ih =>
      obtain ⟨next, found⟩ := Option.isSome_iff_exists.mp found
      obtain ⟨-, -, -, -, -, same⟩ := elif?_eq_some found
      obtain rfl := (List.cons.inj same).1
      have tails := stands.hasTails lexed (laidOut _ stands.1)
      have further := tails.further
      rw [Stmt.further?, found] at further
      have clauses := tails.clauses .elseClause List.mem_cons_self
      rw [Stmt.tails, found] at clauses
      obtain ⟨branch, single, lower⟩ := Lists.exists_singleton further
      obtain ⟨blocks, chain, kept⟩ := ih lower Stmt.chain_ne_nil
      rw [Stmt.chain_of_elif found]
      exact ⟨_, .next single (List.forall₂_nil_left_iff.mp clauses) chain,
        .cons (stands.block lexed) kept⟩
  | case2 span test body span' test' inner orelse other =>
      exact stands.chain_of_last lexed (laidOut _ stands.1) (by simpa using other)
  | case3 span test body =>
      exact stands.chain_of_last lexed (laidOut _ stands.1) rfl
  | case4 span test body orelse several =>
      refine stands.chain_of_last lexed (laidOut _ stands.1) ?_
      unfold elif?
      split
      · exact (several _ _ _ _ rfl).elim
      · rfl
  | case5 stmt _ _ other =>
      cases stmt <;> first | exact absurd rfl conditional | exact (other _ _ _ _ rfl).elim

theorem clauses (lexed : Token.IsLexed text.tokens) (stands : program.Stands text stmt node) :
    (Branch.ofProgram program text).toTree.Clauses program text
      (program.Stands text) stmt node where
  keeps := stands.keeps
  tails := stands.hasTails lexed
  chain laidOut := stands.exists_chain lexed laidOut

end Program.Stands

/-- Whether nodes of this form have clauses. -/
def Form.hasClauses : Form → Bool
  | ifStatement | whileLoop | forLoop _ | tryStatement => true
  | _ => false

/-- Whether nodes of this form are clauses. -/
def Form.isClause : Form → Bool
  | elseClause | finallyClause => true
  | _ => false

/-- A clause is a clause of a node that has clauses. -/
theorem Form.hasClauses_of_admits {form part : Form} {role : Option Role}
    (fits : form.admits role part = true) (clause : part.isClause = true) :
    form.hasClauses = true ∧ ∃ own ∈ clauseRoles, role = some own := by
  obtain rfl | rfl : part = .elseClause ∨ part = .finallyClause := by
    cases part <;> simp_all [isClause]
  all_goals
    rw [admits.eq_def] at fits
    split at fits <;>
      simp_all [hasClauses, clauseRoles, isFree, isBinding, isReading, Form.kind]

/-- A node that has clauses is that of a statement. -/
theorem Program.exists_stands_of_hasClauses (lexed : Token.IsLexed text.tokens) {placed : Placed}
    {above : List Placed}
    (lies : Placed.Lies (Branch.ofProgram program text).whole placed above)
    (form : placed.form.hasClauses = true) : ∃ stmt, program.Stands text stmt placed.id := by
  apply exists_stands lexed lies
  all_goals
    revert form
    cases placed.form <;> simp [Form.hasClauses, Form.isCalm, Form.isPiece]

/-- A clause is a clause of the node of a statement. -/
theorem Program.exists_stands_of_isClause (lexed : Token.IsLexed text.tokens) {clause : Placed}
    {above : List Placed}
    (lies : Placed.Lies (Branch.ofProgram program text).whole clause above)
    (form : clause.form.isClause = true) :
    ∃ stmt node, program.Stands text stmt node ∧ ∃ role ∈ clauseRoles,
      clause.id ∈ (Branch.ofProgram program text).toTree.attributes node role := by
  have sound := Branch.sound_ofProgram program text
  cases lies with
  | root => cases form
  | @child parent above slot _ upper member =>
      have shaped := Placed.shaped_of_child (sound parent above upper) member
      cases slot with
      | none =>
          obtain ⟨token, leaf⟩ := Placed.form_of_isLeaf (shaped.slotless _ member)
          rw [leaf] at form
          cases form
      | some slot =>
          obtain ⟨holds, role, listed, own⟩ :=
            Form.hasClauses_of_admits (shaped.admitted slot _ member).2 form
          obtain ⟨stmt, stands⟩ := exists_stands_of_hasClauses lexed upper holds
          refine ⟨stmt, parent.id, stands, role, listed, ?_⟩
          rw [upper.attributes_of_sound sound (isMark_clauseRoles role listed)]
          exact List.mem_map_of_mem (Placed.mem_playing_iff.mpr ⟨slot, own, member⟩)

/-- **Clauses are opened by their words.** In the tree of a source text every statement of its
program, at any depth, has a node that keeps it, and every node that can have clauses is such a
node. Where the statement is laid out, the node has one clause for each of its `else` and `finally`
blocks that is not empty, and no other: a clause with the nodes of the statements of the block,
whose word is the only keyword between the block and what stands before it, and where spans lie in
each other, is the first token of the clause and a child of it. An `if` statement has a further
branch where the statement in its `else` block starts with the word `elif`, and the clause
otherwise, so that the blocks along a chain of branches in the tree are those of the chain in the
program. -/
theorem Tree.branching {source : List Char} {withSymbols : Bool} {parsed : ParsedSource}
    (read : parse source withSymbols = .ok parsed) :
    ∃ program tokens, Program.read source = .ok program ∧ lex source = .ok tokens ∧
      let text := SourceText.ofTokens source tokens
      ∃ stands : Stmt → NodeId → Prop,
        List.Forall₂ stands program.body
          (parsed.tree.attributes parsed.tree.root .statement) ∧
        (∀ stmt, program.Contains stmt → ∃ node, stands stmt node) ∧
        (∀ stmt node, stands stmt node →
          program.Contains stmt ∧ parsed.tree.Clauses program text stands stmt node) ∧
        (∀ node form, parsed.tree.form? node = some form → form.hasClauses = true →
          ∃ stmt, stands stmt node) ∧
        ∀ clause form, parsed.tree.form? clause = some form → form.isClause = true →
          ∃ stmt node, stands stmt node ∧
            ∃ role ∈ clauseRoles, clause ∈ parsed.tree.attributes node role := by
  obtain ⟨program, tokens, known, lexed, same, -⟩ := exists_read_of_parse read
  have lexed' : Token.IsLexed (SourceText.ofTokens source tokens).tokens :=
    Token.isLexed_of_lex lexed
  have statements := Placed.hosts_statements program lexed'
  rw [same]
  refine ⟨program, tokens, known, lexed, program.Stands (.ofTokens source tokens), ?_,
    fun stmt contains => ?_, fun stmt node stands => ⟨stands.1, stands.clauses lexed'⟩,
    fun node form found holds => ?_, fun clause form found isClause => ?_⟩
  · rw [Branch.root_toTree]
    exact Placed.Lies.root.stands_attributes rfl (fun _ => .outermost) statements
  · obtain ⟨placed, above, lies, hosts⟩ :=
      contains.bears (Placed.passesDown_hosts _ lexed') statements
    exact ⟨placed.id, contains, placed, above, lies, rfl, hosts⟩
  · obtain ⟨placed, above, lies, rfl, rfl⟩ := Tree.exists_lies_of_form? found
    exact exists_stands_of_hasClauses lexed' lies holds
  · obtain ⟨placed, above, lies, rfl, rfl⟩ := Tree.exists_lies_of_form? found
    exact exists_stands_of_isClause lexed' lies isClause

/-- Two branches and an `else` block that holds a statement with a clause of its own. -/
def elifSource : List Char :=
  "if a: pass
elif b: pass
else:
    try: pass
    finally: pass
".toList

theorem enclosing_elifSource :
    (Program.readOrEmpty elifSource).Enclosing (.lexOrEmpty elifSource) where
  sideBySide := by decide +kernel
  enclosed := Draft.enclosed_of_enclosesAll _ (by decide +kernel)

theorem laidOut_elifSource (stmt : Stmt)
    (contains : (Program.readOrEmpty elifSource).Contains stmt) :
    stmt.LaidOut (.lexOrEmpty elifSource) :=
  have passes : holdsTo (fun stmt => decide (stmt.LaidOut (.lexOrEmpty elifSource))) 5
      (Program.readOrEmpty elifSource).body = true := by decide +kernel
  of_decide_eq_true (contains.of_holdsTo passes)

/-- The words of the `else` blocks of a statement, those of its further branch, and the number of
blocks in its chain. -/
def Program.Stmt.outline (text : SourceText) (stmt : Stmt) :
    List String × List (List String) × Nat :=
  let words (stmt : Stmt) :=
    ((stmt.tails text).filter fun tail => !tail.body.isEmpty && tail.role = .elseClause).map
      (·.word)
  (words stmt, (stmt.further? text).toList.map fun next => words next.branch,
    (stmt.chain text).length)

/-- The second branch is a further branch of the first one, and has the `else` block with its
word. -/
theorem Tree.branching_elifSource :
    ∃ parsed node branch clause word blocks, parse elifSource false = .ok parsed ∧
      parsed.tree.attributes parsed.tree.root .statement = [node] ∧
      parsed.tree.attributes node .elifBranch = [branch] ∧
      parsed.tree.attributes node .elseClause = [] ∧
      parsed.tree.attributes branch .elseClause = [clause] ∧
      parsed.tree.firstToken clause = some word ∧ word ∈ parsed.tree.children clause ∧
      (parsed.tree.token? word).map (·.value) = some "else" ∧
      parsed.tree.Chain node blocks ∧ blocks.length = 3 := by
  have outline : (Program.readOrEmpty elifSource).body.map
      (Stmt.outline (.lexOrEmpty elifSource)) = [([], [["else"]], 3)] := by
    decide +kernel
  obtain ⟨parsed, read⟩ := exists_parsed_of_isOk
    (show (parse elifSource false).isOk = true by decide +kernel)
  obtain ⟨program, tokens, known, lexed, stands, outermost, -, promises, -⟩ := Tree.branching read
  obtain rfl := Program.readOrEmpty_of_read known
  rw [← SourceText.lexOrEmpty_of_lex lexed] at promises
  obtain ⟨stmt, body, outline⟩ := List.map_eq_singleton_iff.mp outline
  simp only [Stmt.outline, Prod.mk.injEq, List.map_eq_nil_iff] at outline
  obtain ⟨empty, further, length⟩ := outline
  obtain ⟨next, found, last⟩ := List.map_eq_singleton_iff.mp further
  rw [body] at outermost
  obtain ⟨node, single, stand⟩ := Lists.exists_singleton outermost
  obtain ⟨contains, promise⟩ := promises _ node stand
  have tails := promise.tails (laidOut_elifSource _ contains)
  have branches := tails.further
  rw [found] at branches
  obtain ⟨branch, only, lower⟩ := Lists.exists_singleton branches
  have none := tails.clauses .elseClause List.mem_cons_self
  rw [empty] at none
  obtain ⟨contains', promise'⟩ := promises _ branch lower
  have clauses := (promise'.tails (laidOut_elifSource _ contains')).clauses .elseClause
    List.mem_cons_self
  obtain ⟨tail, one, spelled⟩ := List.map_eq_singleton_iff.mp last
  rw [one] at clauses
  obtain ⟨clause, own, opened⟩ := Lists.exists_singleton clauses
  obtain ⟨word, token, -, held, -, value, starts⟩ := opened.word
  obtain ⟨first, child⟩ := starts enclosing_elifSource
  obtain ⟨blocks, chain, kept⟩ := promise.chain laidOut_elifSource fun none => by
    rw [none] at length
    cases length
  refine ⟨parsed, node, branch, clause, word, blocks, read, single, only,
    List.forall₂_nil_left_iff.mp none, own, first, child, ?_, chain, kept.length_eq ▸ length⟩
  rw [held]
  exact congrArg some (value.trans spelled)

end StructuralLint
