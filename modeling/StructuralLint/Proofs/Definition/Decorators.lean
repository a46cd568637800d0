import StructuralLint.Proofs.Clause.Words
import StructuralLint.Proofs.Symbol.Naming

/-!
# Decorated definitions

A program says where the word of a definition and the expressions of its decorators stand, but not
where the signs in front of the decorators do. The sign of a decorator is the token before the
expression, if it is one (`Program.Expr.sign?`), so that a decorator whose expression stands in
parentheses has none. The definition claims the signs that are found: where spans lie in each other,
each of them is a child of its node, and the node starts with the one of the first decorator, if
nothing of the definition stands before this decorator (`Program.Stmt.Leads.start_eq`).
-/

namespace StructuralLint

open Program Draft

/-! ### The token before a place -/

namespace SourceText

variable {text : SourceText} {token later : Token} {place further : Position}

theorem start_of_tokenBefore (found : text.tokenBefore place = some token) :
    token ∈ text.tokens ∧ token.start.before place = true := by
  have member := List.mem_of_getLast? found
  have early := List.mem_takeWhile_imp member
  exact ⟨(List.takeWhile_sublist _).subset member, early⟩

/-- What stands before a later place does not start earlier. -/
theorem tokenBefore_mono (inOrder : Token.InOrder text.tokens)
    (longer : further.before place = false) (found : text.tokenBefore place = some token)
    (found' : text.tokenBefore further = some later) : later.start.before token.start = false := by
  have early := (start_of_tokenBefore found).2
  obtain ⟨front, split⟩ := List.getLast?_eq_some_iff.mp found'
  have among : token ∈ text.tokens.takeWhile (·.start.before further) := by
    rw [← List.takeWhile_append_dropWhile (p := (·.start.before place)) (l := text.tokens),
      List.takeWhile_append_of_pos]
    · exact List.mem_append_left _ (List.mem_of_getLast? found)
    · intro other member
      have short := List.mem_takeWhile_imp member
      exact Position.before_of_before_of_not_before short longer
  have ordered := inOrder.sublist (List.takeWhile_sublist (·.start.before further))
  rw [split] at among ordered
  rcases List.mem_append.mp among with behind | same
  · exact (List.pairwise_append.mp ordered).2.2 token behind later (List.mem_singleton_self _)
  · rw [List.mem_singleton.mp same]
    exact Position.before_irrefl _

end SourceText

/-! ### Decorators and their signs -/

namespace Program

/-- The sign in front of a decorator: the token before the expression, if it is one. -/
def Expr.sign? (text : SourceText) (decorator : Expr) : Option Token :=
  (text.tokenBefore (ofExpr text decorator).span.start).filter (·.value = "@")

namespace Stmt

/-- The decorators of a definition. -/
def decorators : Stmt → List Expr
  | .function _ _ _ _ _ given _ | .classDef _ _ _ _ given _ => given
  | _ => []

/-- Neither the word of a definition nor any part of it stands before its first decorator. -/
structure Leads (text : SourceText) (stmt : Stmt) (first : Expr) : Prop where
  word : (text.span stmt.span).start.before (ofExpr text first).span.start = false
  parts : ∀ part ∈ (ofStmt text stmt).parts, part.2.isNode = true →
    part.2.span.start.before (ofExpr text first).span.start = false

instance (text : SourceText) (stmt : Stmt) (first : Expr) : Decidable (stmt.Leads text first) :=
  decidable_of_iff ((text.span stmt.span).start.before (ofExpr text first).span.start = false ∧
      ∀ part ∈ (ofStmt text stmt).parts, part.2.isNode = true →
        part.2.span.start.before (ofExpr text first).span.start = false)
    ⟨fun ⟨word, parts⟩ => ⟨word, parts⟩, fun ⟨word, parts⟩ => ⟨word, parts⟩⟩

variable {text : SourceText} {stmt : Stmt} {first decorator : Expr} {token : Token}

private theorem isNode_of_mem_playing {role : Role} {drafts : List Draft}
    (each : ∀ draft ∈ drafts, draft.isNode = true) :
    ∀ part ∈ playing role drafts, part.2.isNode = true :=
  List.forall_mem_map.mpr each

/-- A definition is drafted from the signs of its decorators and from parts that are no tokens,
among them the decorators. -/
theorem exists_given (decorated : stmt.decorators ≠ []) :
    ∃ form fields given, ofStmt text stmt = ofSpan form (text.span stmt.span) fields
        (plain ((stmt.decorators.filterMap (Expr.sign? text)).map .leaf) ++ given) ∧
      (∀ part ∈ given, part.2.isNode = true) ∧
      ∀ decorator ∈ stmt.decorators, (some .decorator, ofExpr text decorator) ∈ given := by
  have signs (decorators : List Expr) : decoratorSigns text (ofExprs text decorators) =
      decorators.filterMap (Expr.sign? text) := by
    rw [decoratorSigns, ofExprs_eq_map, List.filterMap_map]
    rfl
  have exprs (exprs : List Expr) : ∀ draft ∈ ofExprs text exprs, draft.isNode = true := by
    rw [ofExprs_eq_map]
    exact List.forall_mem_map.mpr fun expr _ => (calm_ofExpr text expr).isNode
  have listed (decorators : List Expr) : ∀ decorator ∈ decorators,
      (some .decorator, ofExpr text decorator) ∈ playing .decorator (ofExprs text decorators) := by
    rw [ofExprs_eq_map]
    exact fun decorator member => List.mem_map_of_mem (List.mem_map_of_mem member)
  have block (body : List Stmt) : ∀ draft ∈ ofStmts text body, draft.isNode = true :=
    fun draft member => (free_ofStmts text body draft member).isNode
  have names (name : String) (token : Option Token) :
      ∀ draft ∈ (token.map (ofName name true)).toList, draft.isNode = true := by
    cases token <;> simp [ofName, Draft.ofParts, Draft.isNode]
  cases stmt with
  | function span isAsync name parameters returns decorators body =>
      rw [ofStmt, ofFunction, signs]
      simp only [List.append_assoc]
      refine ⟨_, _, _, rfl, ?_, fun decorator member =>
        List.mem_append_left _ (listed decorators decorator member)⟩
      simp only [List.forall_mem_append]
      refine ⟨isNode_of_mem_playing (exprs decorators), isNode_of_mem_playing (names _ _),
        isNode_of_mem_playing ?_, isNode_of_mem_playing ?_, isNode_of_mem_playing (block body)⟩
      · intro draft member
        rw [Option.mem_toList, ofSignature] at member
        split at member <;> cases member
        rfl
      · intro draft member
        exact (calm_of_mem_toList (calm_ofExpr? text returns) draft member).isNode
  | classDef span name bases keywords decorators body =>
      rw [ofStmt, ofClassDef, signs]
      simp only [List.append_assoc]
      refine ⟨_, _, _, rfl, ?_, fun decorator member =>
        List.mem_append_left _ (listed decorators decorator member)⟩
      simp only [List.forall_mem_append]
      refine ⟨isNode_of_mem_playing (exprs decorators), isNode_of_mem_playing (names _ _),
        isNode_of_mem_playing ?_, isNode_of_mem_playing (block body)⟩
      exact List.forall_mem_append.mpr ⟨exprs bases, exprs keywords⟩
  | _ => exact absurd rfl decorated

/-- A definition claims the signs of its decorators. -/
theorem exists_claimed (member : decorator ∈ stmt.decorators)
    (sign : decorator.sign? text = some token) :
    ∃ slot, (slot, .leaf token) ∈ (ofStmt text stmt).parts := by
  obtain ⟨form, fields, given, drafted, -, -⟩ := @exists_given text stmt (List.ne_nil_of_mem member)
  have listed : (none, Draft.leaf token) ∈
      plain ((stmt.decorators.filterMap (Expr.sign? text)).map .leaf) ++ given := by
    apply List.mem_append_left
    apply List.mem_map_of_mem
    apply List.mem_map_of_mem
    exact List.mem_filterMap.mpr ⟨decorator, member, sign⟩
  obtain ⟨slot, -, among⟩ := exists_mem_arrange listed
  rw [drafted]
  exact ⟨slot, among⟩

/-- **A definition starts with the sign of its first decorator.** -/
theorem Leads.start_eq (leads : stmt.Leads text first) (member : first ∈ stmt.decorators)
    (inOrder : Token.InOrder text.tokens) (sign : first.sign? text = some token) :
    (ofStmt text stmt).span.start = token.start := by
  obtain ⟨form, fields, given, drafted, nodes, decorators⟩ := @exists_given text stmt
    (List.ne_nil_of_mem member)
  obtain ⟨found, -⟩ := Option.filter_eq_some_iff.mp sign
  have early := (SourceText.start_of_tokenBefore found).2
  -- what does not stand before the decorator does not stand before its sign either
  have behind {place : Position}
      (reached : place.before (ofExpr text first).span.start = false) :
      place.before token.start = false :=
    Position.not_before_of_before (Position.before_of_before_of_not_before early reached)
  have parts : ∀ part ∈ given, part.2.span.start.before (ofExpr text first).span.start = false := by
    intro part among
    obtain ⟨slot, -, arranged⟩ := exists_mem_arrange (List.mem_append_right _ among)
    apply leads.parts (slot, part.2) _ (nodes part among)
    rw [drafted]
    exact arranged
  have claimed : ((none : Option Role), Draft.leaf token) ∈
      plain ((stmt.decorators.filterMap (Expr.sign? text)).map .leaf) :=
    List.mem_map_of_mem (List.mem_map_of_mem (List.mem_filterMap.mpr ⟨first, member, sign⟩))
  rw [drafted]
  refine start_coverParts_of_least (List.mem_append_left _ claimed) (behind leads.word) ?_
  intro part among
  rcases List.mem_append.mp among with leaf | node
  · -- the signs of further decorators come later, as their decorators do
    obtain ⟨draft, drafts, rfl⟩ := List.mem_map.mp leaf
    obtain ⟨later, signs, rfl⟩ := List.mem_map.mp drafts
    obtain ⟨decorator, listed, sign'⟩ := List.mem_filterMap.mp signs
    obtain ⟨found', -⟩ := Option.filter_eq_some_iff.mp sign'
    exact SourceText.tokenBefore_mono inOrder (parts _ (decorators decorator listed)) found found'
  · exact behind (parts part node)

end Stmt

end Program

/-! ### Definitions in the tree -/

/-- The decorators of a definition go together with the parts that are decorators of its node. -/
theorem Placed.paired_decorators {R : Draft → Placed → Prop} (passes : PassesDown R)
    {text : SourceText} {stmt : Stmt} {placed : Placed} (related : R (ofStmt text stmt) placed) :
    List.Forall₂ R (ofExprs text stmt.decorators) (placed.playing .decorator) := by
  have nodes : (ofExprs text stmt.decorators).filter isNode = ofExprs text stmt.decorators := by
    apply filter_isNode_of_free
    rw [ofExprs_eq_map]
    exact List.forall_mem_map.mpr fun expr _ => (calm_ofExpr text expr).toFree
  rw [← nodes]
  cases stmt
  all_goals
    rw [ofStmt] at related
    simpa [Stmt.decorators, ofExprs] using inRole_ofSpan passes related (some .decorator)

/-- What the node of a definition has of its decorators. Its attributes are the nodes of their
expressions. Where spans lie in each other, each sign that stands in front of a decorator is a child
of the node, and the node starts with the sign of the first decorator, if nothing of the definition
stands before this decorator. -/
structure Tree.Decorated (tree : Tree) (program : Program) (text : SourceText) (stmt : Stmt)
    (node : NodeId) : Prop where
  decorators : List.Forall₂ (fun decorator id => tree.Keeps (ofExpr text decorator) id)
    stmt.decorators (tree.attributes node .decorator)
  signs : program.Enclosing text → ∀ decorator ∈ stmt.decorators, ∀ token,
    decorator.sign? text = some token → ∃ id ∈ tree.children node, tree.token? id = some token
  first : program.Enclosing text → ∀ decorator, stmt.decorators.head? = some decorator →
    stmt.Leads text decorator → ∀ token, decorator.sign? text = some token →
      ∃ id, tree.firstToken node = some id ∧ tree.token? id = some token

variable {program : Program} {text : SourceText} {stmt : Stmt} {node : NodeId} {decorator : Expr}
  {token : Token}

namespace Program.Stands

theorem keeps_decorators (stands : program.Stands text stmt node) :
    List.Forall₂ (fun decorator id =>
        (Branch.ofProgram program text).toTree.Keeps (ofExpr text decorator) id)
      stmt.decorators ((Branch.ofProgram program text).toTree.attributes node .decorator) := by
  obtain ⟨-, placed, above, lies, rfl, hosts⟩ := stands
  have paired := Placed.paired_decorators Placed.passesDown_completes hosts.completes
  rw [ofExprs_eq_map, List.forall₂_map_left_iff] at paired
  rw [lies.attributes_of_sound (Branch.sound_ofProgram program text) rfl,
    List.forall₂_map_right_iff]
  apply Lists.imp_of_mem paired
  intro decorator _ part plays completes
  obtain ⟨slot, -, child⟩ := Placed.mem_playing_iff.mp plays
  exact (Placed.Lies.child lies child).keeps_toTree (Branch.tokensAreLeaves_ofProgram program text)
    completes

/-- A sign that a definition claims is a child of its node, and its first token if the definition
starts where the sign does. -/
theorem exists_sign (lexed : Token.IsLexed text.tokens) (stands : program.Stands text stmt node)
    (enclosing : program.Enclosing text) (member : decorator ∈ stmt.decorators)
    (sign : decorator.sign? text = some token) :
    ∃ id ∈ (Branch.ofProgram program text).toTree.children node,
      (Branch.ofProgram program text).toTree.token? id = some token ∧
      ((ofStmt text stmt).span.start = token.start →
        (Branch.ofProgram program text).toTree.firstToken node = some id) := by
  obtain ⟨-, placed, above, lies, rfl, hosts⟩ := stands
  have spans := hosts.spans enclosing
  obtain ⟨slot, claimed⟩ := Stmt.exists_claimed member sign
  obtain ⟨found, -⟩ := Option.filter_eq_some_iff.mp sign
  have held := Branch.token?_tokenNumber_ofProgram program lexed.numbered
    (SourceText.start_of_tokenBefore found).1
  have numbered := lexed.numbered
  rw [← Branch.tokens_ofProgram program text] at numbered
  cases draft : ofStmt text stmt with
  | leaf token => exact absurd (free_ofStmt text stmt).isNode (by simp [draft, Draft.isNode])
  | node form span fields parts =>
      rw [draft] at spans claimed
      refine ⟨_, spans.mem_children_of_leaf lexed.isStream claimed lies numbered, held, ?_⟩
      intro start
      exact (spans.firstToken_of_leaf lexed claimed start lies
        (Branch.tokensAreLeaves_ofProgram program text) numbered).1

theorem promises_decorators (lexed : Token.IsLexed text.tokens)
    (stands : program.Stands text stmt node) :
    (Branch.ofProgram program text).toTree.Decorated program text stmt node where
  decorators := stands.keeps_decorators
  signs enclosing decorator member token sign := by
    obtain ⟨id, child, held, -⟩ := stands.exists_sign lexed enclosing member sign
    exact ⟨id, child, held⟩
  first enclosing decorator head leads token sign := by
    have member := List.mem_of_mem_head? head
    obtain ⟨id, -, held, starts⟩ := stands.exists_sign lexed enclosing member sign
    exact ⟨id, starts (leads.start_eq member lexed.isStream.inOrder sign), held⟩

end Program.Stands

/-- **Decorated definitions start at the sign of their first decorator.** In the tree of a source
text every statement of its program, at any depth, has a node that keeps it, and every function and
class of the tree is such a node. The node of a statement has the nodes of its decorators for
attributes. Where spans lie in each other, the sign in front of each decorator is a child of the
node, and the node starts with the sign in front of the first decorator, if this decorator stands
before all else of the definition. A decorator whose expression does not follow its sign, but a
parenthesis, has no sign in front of it. -/
theorem Tree.decorated {source : List Char} {withSymbols : Bool} {parsed : ParsedSource}
    (read : parse source withSymbols = .ok parsed) :
    ∃ program tokens, Program.read source = .ok program ∧ lex source = .ok tokens ∧
      let text := SourceText.ofTokens source tokens
      ∃ stands : Stmt → NodeId → Prop,
        List.Forall₂ stands program.body
          (parsed.tree.attributes parsed.tree.root .statement) ∧
        (∀ stmt, program.Contains stmt → ∃ node, stands stmt node) ∧
        (∀ stmt node, stands stmt node → program.Contains stmt ∧
          parsed.tree.Keeps (ofStmt text stmt) node ∧
          parsed.tree.Decorated program text stmt node) ∧
        ∀ node form, parsed.tree.form? node = some form → form.isDefinition = true →
          ∃ stmt, stands stmt node := by
  obtain ⟨program, tokens, known, lexed, same, -⟩ := exists_read_of_parse read
  have lexed' : Token.IsLexed (SourceText.ofTokens source tokens).tokens :=
    Token.isLexed_of_lex lexed
  rw [same]
  refine ⟨program, tokens, known, lexed, program.Stands (.ofTokens source tokens),
    stands_statements program lexed', fun stmt contains => contains.exists_stands lexed', ?_, ?_⟩
  · intro stmt node stands
    exact ⟨stands.1, stands.keeps, stands.promises_decorators lexed'⟩
  · intro node form found defines
    obtain ⟨placed, above, lies, rfl, rfl⟩ := Tree.exists_lies_of_form? found
    apply exists_stands lexed' lies
    all_goals
      revert defines
      cases placed.form <;> simp [Form.isDefinition, Form.isCalm, Form.isPiece]

/-- A definition with two decorators. -/
def signedSource : List Char :=
  "@a
@b.c(1)
def f(): pass
".toList

theorem enclosing_signedSource :
    (Program.readOrEmpty signedSource).Enclosing (.lexOrEmpty signedSource) where
  sideBySide := by decide +kernel
  enclosed := Draft.enclosed_of_enclosesAll _ (by decide +kernel)

theorem leads_signedSource : ∀ stmt ∈ (Program.readOrEmpty signedSource).body,
    ∀ first ∈ stmt.decorators.head?, stmt.Leads (.lexOrEmpty signedSource) first := by
  decide +kernel

/-- The definition starts with the first sign, and has the second one, too. -/
theorem Tree.decorated_signedSource :
    ∃ parsed node first second, parse signedSource false = .ok parsed ∧
      parsed.tree.attributes parsed.tree.root .statement = [node] ∧
      parsed.tree.firstToken node = some first ∧ second ∈ parsed.tree.children node ∧
      parsed.tree.token? first = some ⟨.op, "@", ⟨1, 0⟩, ⟨1, 1⟩, 0, []⟩ ∧
      parsed.tree.token? second = some ⟨.op, "@", ⟨2, 0⟩, ⟨2, 1⟩, 3, []⟩ := by
  have signs : (Program.readOrEmpty signedSource).body.map (fun stmt =>
        stmt.decorators.map (Expr.sign? (.lexOrEmpty signedSource))) =
      [[some ⟨.op, "@", ⟨1, 0⟩, ⟨1, 1⟩, 0, []⟩, some ⟨.op, "@", ⟨2, 0⟩, ⟨2, 1⟩, 3, []⟩]] := by
    decide +kernel
  obtain ⟨parsed, read⟩ := exists_parsed_of_isOk
    (show (parse signedSource false).isOk = true by decide +kernel)
  obtain ⟨program, tokens, known, lexed, stands, outermost, -, promises, -⟩ := Tree.decorated read
  obtain rfl := Program.readOrEmpty_of_read known
  rw [← SourceText.lexOrEmpty_of_lex lexed] at promises
  obtain ⟨stmt, body, signs⟩ := List.map_eq_singleton_iff.mp signs
  rw [body] at outermost
  obtain ⟨node, single, stand⟩ := Lists.exists_singleton outermost
  obtain ⟨-, -, promise⟩ := promises _ node stand
  obtain ⟨decorator, rest, listed, sign, others⟩ := List.map_eq_cons_iff.mp signs
  obtain ⟨other, last, sign'⟩ := List.map_eq_singleton_iff.mp others
  have head : stmt.decorators.head? = some decorator := by rw [listed]; rfl
  obtain ⟨first, starts, held⟩ := promise.first enclosing_signedSource decorator head
    (leads_signedSource stmt (body ▸ List.mem_singleton_self _) decorator head) _ sign
  obtain ⟨second, child, held'⟩ := promise.signs enclosing_signedSource other
    (by simp [listed, last]) _ sign'
  exact ⟨parsed, node, first, second, read, single, starts, child, held, held'⟩

end StructuralLint
