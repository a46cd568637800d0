import StructuralLint.Proofs.Symbol.Signatures

/-!
# Programs in drafts

What the draft of a program shows of its regions. An item of a region is drawn at most once
(`Program.Item.Draws`); what shares the scope of the draft of an expression, a pattern or a
statement is drawn for an item that the region has by it, and the other way round.
-/

namespace StructuralLint

open Program

namespace Program

/-- What the name is there for. -/
def Construct.kind : Construct → UsageKind
  | .target _ _ | .captured _ => .binding
  | .function _ _ => .functionDeclaration
  | .classDef _ _ => .classDeclaration
  | .parameter _ _ => .parameter
  | .imported _ => .imported
  | .caught _ _ => .exceptionInstance

/-- The draft of the name, unless it meets no token. What a pattern captures has none. -/
def Construct.draft? (text : SourceText) : Construct → Option Draft
  | .target span name => some (.ofExpr text (.name span name .store))
  | .function span name | .classDef span name =>
    (text.tokenAfter .name (text.span span).start name).map (.ofName name true)
  | .parameter span name => (text.tokenAt (text.span span).start).map (.ofName name true)
  | .imported clause => Draft.aliasName text clause (text.span clause.span)
  | .caught exception name =>
    (text.tokenAfter .name (Draft.ofExpr text exception).span.stop name).map (.ofName name true)
  | .captured _ => none

/-- The draft of what opens a region. -/
def Region.draft (text : SourceText) : Region → Draft
  | .file program => .ofProgram program text
  | .stmt opening => .ofStmt text opening
  | .expr opening => .ofExpr text opening

/-- What is drawn for an item, and what a name in its place is there for. -/
def Item.Draws (text : SourceText) (kind : UsageKind) (found : Draft) : Item → Prop
  | .binds construct => construct.draft? text = some found ∧ kind = construct.kind
  | .declares span isGlobal names =>
    found = .ofStmt text (.scopeDeclaration span isGlobal names) ∧ kind = .binding
  | .opens region => found = region.draft text ∧ kind = .binding

end Program

namespace Draft

variable {text : SourceText} {kind own : UsageKind} {found : Draft} (node : found.isNode = true)
  (counts : found.form.counts = true)
include node counts

omit node in
/-- A compound node leads on to its parts. -/
theorem shares_plain {other : Kind} {span : Span} {drafts : List Draft}
    (leads : (Form.plain other).counts = false)
    (introduces : (Form.plain other).introduces none = .binding) :
    Shares kind found own (ofSpan (.plain other) span .empty (plain drafts)) ↔
      ∃ draft ∈ drafts, Shares kind found .binding draft := by
  have passes : (Form.plain other).passes none = true := by
    rw [Form.passes_iff]
    exact ⟨leads, nofun⟩
  rw [shares_ofSpan_of_not_counts counts leads, among_plain, passes, introduces]
  exact and_iff_right rfl

/-- What shares the scope of an expression is the expression or shares the scope of a part. -/
theorem shares_ofExpr_iff (expr : Expr) :
    Shares kind found .binding (ofExpr text expr) ↔
      (∃ item ∈ expr.items, item.Draws text kind found) ∨
        ∃ part ∈ expr.parts, Shares kind found .binding (ofExpr text part) := by
  cases expr with
  | name span id use =>
      have leaves : ¬∃ draft ∈ (text.tokenAt (text.span span).start).toList.map leaf,
          Shares kind found .binding draft := exists_shares_leaves node _
      simp only [Expr.parts, List.not_mem_nil, false_and, exists_false, or_false]
      rw [ofExpr]
      refine shares_ofSpan.trans ?_
      rw [among_plain, or_iff_left (fun among => leaves among.2)]
      cases use with
      | store => simp [Expr.items, Item.Draws, Construct.draft?, Construct.kind, ofExpr, eq_comm]
      | load | delete =>
          simp only [Expr.items, List.not_mem_nil, false_and, exists_false, iff_false]
          rintro ⟨rfl, -⟩
          cases counts
  | literal span | text span value | interpolated span =>
      rw [ofExpr]
      have leads (other : Kind) (span : Span) (silent : (Form.plain other).counts = false)
          (introduces : (Form.plain other).introduces none = .binding) :
          Shares kind found .binding (ofSpan (.plain other) span .empty (plain [])) ↔ False :=
        (shares_plain counts silent introduces).trans (by simp)
      refine (leads _ _ rfl rfl).trans ?_
      simp [Expr.items, Expr.parts]
  | member span object name =>
      rw [ofExpr]
      refine (shares_plain counts rfl rfl).trans ?_
      simp [Expr.items, Expr.parts]
  | lambda span parameters body =>
      rw [ofExpr]
      refine shares_ofSpan.trans (or_congr ?_ ?_)
      · simp [Expr.items, Item.Draws, Region.draft, ofExpr]
      · rw [among_append, among_playing, among_playing,
          or_iff_left (fun body => Bool.false_ne_true body.1)]
        refine (and_iff_right rfl).trans ((exists_shares_ofSignature node counts).trans ?_)
        simp [details_ofParametersOf, Expr.parts]
  | comprehension span collection elements clauses =>
      rw [ofExpr]
      refine shares_ofSpan.trans (or_congr ?_ ?_)
      · simp [Expr.items, Item.Draws, Region.draft, ofExpr]
      · rw [among_plain, show (Form.plain collection.kind).passes none = false by
          cases collection <;> rfl]
        simp [Expr.parts]
  | compound span form parts =>
      rw [ofExpr, shares_plain counts (by cases form <;> rfl) (by cases form <;> rfl)]
      simp [Expr.items, Expr.parts, ofExprs_eq_map]

/-- What shares the scope of an expression is drawn for what the region has by it. -/
theorem shares_ofExpr (expr : Expr) :
    Shares kind found .binding (ofExpr text expr) ↔
      ∃ item, expr.Has item ∧ item.Draws text kind found := by
  revert expr
  apply Expr.induction_parts
  intro expr ih
  rw [shares_ofExpr_iff node counts, Expr.exists_has_iff]
  exact or_congr_right (exists_congr fun part => and_congr_right (ih part))

/-! ### Patterns -/

omit node counts in
theorem ofPatterns_eq_map (patterns : List Pattern) :
    ofPatterns text patterns = patterns.map (ofPattern text) := by
  induction patterns with
  | nil => rfl
  | cons pattern rest ih => rw [ofPatterns, ih, List.map_cons]

omit node in
theorem shares_ofPattern_iff (pattern : Pattern) :
    Shares kind found .binding (ofPattern text pattern) ↔
      (∃ expr ∈ pattern.exprs, Shares kind found .binding (ofExpr text expr)) ∨
        ∃ part ∈ pattern.parts, Shares kind found .binding (ofPattern text part) := by
  have leads (span : Span) (drafts : List Draft) :
      Shares kind found .binding (ofSpan (.plain .expression) span .empty (plain drafts)) ↔
        ∃ draft ∈ drafts, Shares kind found .binding draft :=
    shares_plain counts rfl rfl
  cases pattern with
  | singleton span | star span name | capture span name =>
      exact (leads _ []).trans (by simp [Pattern.exprs, Pattern.parts])
  | value | sequence | mapping | instances | named | alternatives =>
      rw [ofPattern, leads]
      simp [Pattern.exprs, Pattern.parts, ofExprs_eq_map, ofPatterns_eq_map, or_and_right,
        exists_or]

/-- What shares the scope of a pattern is drawn for what the region has by it. -/
theorem shares_ofPattern (pattern : Pattern) :
    Shares kind found .binding (ofPattern text pattern) ↔
      ∃ item, pattern.Has item ∧ item.Draws text kind found := by
  revert pattern
  apply Pattern.induction_parts
  intro pattern ih
  have lost : ¬∃ name, pattern.name? = some name ∧
      Item.Draws text kind found (.binds (.captured name)) := by
    rintro ⟨name, -, drawn, -⟩
    cases drawn
  rw [shares_ofPattern_iff counts, Pattern.exists_has_iff, or_iff_right lost]
  refine or_congr ?_ (exists_congr fun part => and_congr_right (ih part))
  exact exists_congr fun expr => and_congr_right fun _ => shares_ofExpr node counts expr

/-! ### Pieces of statements -/

omit counts in
/-- A name that meets its token is found. -/
theorem exists_shares_name {name : String} {token : Option Token} :
    (∃ draft ∈ (token.map (ofName name true)).toList, Shares kind found own draft) ↔
      token.map (ofName name true) = some found ∧ kind = own := by
  constructor
  · rintro ⟨draft, member, shares⟩
    have made := Option.mem_toList.mp member
    obtain ⟨token, -, rfl⟩ := Option.map_eq_some_iff.mp made
    obtain ⟨rfl, rfl⟩ := (shares_ofName node).mp shares
    exact ⟨made, rfl⟩
  · rintro ⟨made, rfl⟩
    exact ⟨found, Option.mem_toList.mpr made, .here⟩

omit node counts in
theorem ofStmts_eq_map (stmts : List Stmt) : ofStmts text stmts = stmts.map (ofStmt text) := by
  induction stmts with
  | nil => rfl
  | cons stmt rest ih => rw [ofStmts, ih, List.map_cons]

/-- A clause leads on to its block. -/
theorem exists_shares_ofClause {form : Form} {word : String} {start : Position}
    {body : List Draft} (clause : form = .elseClause ∨ form = .finallyClause) :
    (∃ draft ∈ (ofClause text form word start body).toList, Shares kind found own draft) ↔
      ∃ draft ∈ body, Shares kind found .binding draft := by
  have leads (stands : List Draft) :
      Among kind found form.passes form (playing .body stands) ↔
        ∃ draft ∈ stands, Shares kind found .binding draft := by
    rcases clause with rfl | rfl <;> exact (among_playing _ _).trans (and_iff_right rfl)
  have other : form.counts = false := by rcases clause with rfl | rfl <;> rfl
  cases body with
  | nil => simp [ofClause]
  | cons first rest =>
      rw [← leads, ofClause]
      split
      · rename_i token _
        simp only [Option.toList_some, List.mem_singleton, exists_eq_left]
        rw [shares_ofParts_of_not_counts counts other,
          show (none, leaf token) :: playing .body (first :: rest) =
            plain [leaf token] ++ playing .body (first :: rest) from rfl, among_append,
          or_iff_right]
        rw [among_plain]
        exact fun among => exists_shares_leaves node [token] among.2
      · simp only [Option.toList_some, List.mem_singleton, exists_eq_left]
        exact shares_ofParts_of_not_counts counts other

/-- A further branch or a clause leads on to the statements after an `if` statement. -/
theorem exists_shares_orelse {bodyEnd : Position} {orelse : List Stmt} {otherwise : List Draft} :
    (∃ draft ∈ (elifBranch text bodyEnd orelse otherwise).toList,
        Shares kind found .binding draft) ∨
      (∃ draft ∈ (if (elifBranch text bodyEnd orelse otherwise).isSome then none
          else ofClause text .elseClause "else" bodyEnd otherwise).toList,
        Shares kind found .binding draft) ↔
      ∃ draft ∈ otherwise, Shares kind found .binding draft := by
  cases found' : elifBranch text bodyEnd orelse otherwise with
  | some branch =>
      obtain ⟨-, -, -, -, -, rfl⟩ := elifBranch_eq_some text found'
      simp
  | none =>
      rw [Option.isSome_none, if_neg Bool.false_ne_true,
        exists_shares_ofClause node counts (.inl rfl)]
      simp

omit node in
theorem shares_ofWithItem (item : WithItem) :
    Shares kind found .binding (ofWithItem text item) ↔
      ∃ expr ∈ item.exprs, Shares kind found .binding (ofExpr text expr) := by
  have given : (none, ofExpr text item.context) :: plain (ofExpr? text item.target).toList =
      plain (item.exprs.map (ofExpr text)) := by
    rw [WithItem.exprs, ofExpr?_eq_map, Option.toList_map]
    rfl
  rw [ofWithItem, shares_ofParts_of_not_counts counts rfl, given, among_plain]
  refine (and_iff_right rfl).trans ?_
  simp [Form.introduces]

omit node counts in
/-- What names an import spells the name that it binds. -/
theorem aliasName_eq_some {imported : Alias} {span : Span}
    (made : aliasName text imported span = some found) :
    imported.name ≠ "*" ∧ ∃ token, found = ofName imported.boundName true token := by
  unfold aliasName at made
  split at made
  · cases made
  · rename_i other
    split at made
    · rename_i renamed given
      obtain ⟨token, -, rfl⟩ := Option.map_eq_some_iff.mp made
      exact ⟨other, token, by rw [Alias.boundName, given, Option.getD_some]⟩
    · rename_i given
      obtain ⟨token, -, rfl⟩ := Option.map_eq_some_iff.mp made
      exact ⟨other, token, by rw [Alias.boundName, given, Option.getD_none]⟩

/-- What is drawn for an import is its name. -/
theorem shares_ofAlias (imported : Alias) :
    Shares kind found .binding (ofAlias text imported) ↔
      imported.name ≠ "*" ∧ (Item.binds (.imported imported)).Draws text kind found := by
  rw [ofAlias]
  refine (shares_ofSpan_of_not_counts counts rfl).trans ?_
  rw [among_plain]
  refine (and_iff_right rfl).trans ?_
  constructor
  · rintro ⟨name, member, shares⟩
    have made := Option.mem_toList.mp member
    obtain ⟨other, token, rfl⟩ := aliasName_eq_some made
    obtain ⟨rfl, rfl⟩ := (shares_ofName node).mp shares
    exact ⟨other, made, rfl⟩
  · rintro ⟨-, made, rfl⟩
    exact ⟨found, Option.mem_toList.mpr made, .here⟩

/-- What shares the scope of an `except` clause is its name or shares the scope of a part. -/
theorem shares_ofHandler {place : Span} {isStar : Bool} (span : Span) (exception : Option Expr)
    (name : Option String) (body : List Stmt) :
    Shares kind found .binding (ofHandler text place isStar (ofExpr? text exception) name
        (ofStmts text body)) ↔
      (∃ item ∈ (Handler.mk span exception name body).items, item.Draws text kind found) ∨
        (∃ expr ∈ exception.toList, Shares kind found .binding (ofExpr text expr)) ∨
          ∃ stmt ∈ body, Shares kind found .binding (ofStmt text stmt) := by
  have named : (∃ draft ∈ (do
        let exception ← ofExpr? text exception
        let name ← name
        let token ← text.tokenAfter .name exception.span.stop name
        return ofName name true token : Option Draft).toList,
      Shares kind found .exceptionInstance draft) ↔
        ∃ item ∈ (Handler.mk span exception name body).items, item.Draws text kind found := by
    cases exception with
    | none => simp [ofExpr?, Handler.items]
    | some exception =>
        cases name with
        | none => simp [ofExpr?, Handler.items]
        | some name =>
            have drawn (token : Option Token) :
                (∃ draft ∈ (token.map (ofName name true)).toList,
                  Shares kind found .exceptionInstance draft) ↔
                  token.map (ofName name true) = some found ∧ kind = .exceptionInstance :=
              exists_shares_name node
            replace drawn := drawn (text.tokenAfter .name (ofExpr text exception).span.stop name)
            rw [Option.map_eq_bind] at drawn
            refine drawn.trans ?_
            simp [Handler.items, Item.Draws, Construct.draft?, Construct.kind, Option.map_eq_bind]
  rw [← named, ofHandler]
  refine (shares_ofSpan_of_not_counts counts rfl).trans ?_
  rw [among_append, among_append, among_playing, among_playing, among_playing, or_assoc,
    or_left_comm]
  refine or_congr (and_iff_right rfl) (or_congr ?_ ?_)
  · refine (and_iff_right rfl).trans ?_
    cases exception <;> simp [ofExpr?, Form.introduces]
  · refine (and_iff_right rfl).trans ?_
    simp [ofStmts_eq_map, Form.introduces]

theorem exists_shares_ofHandlers {isStar : Bool} (handlers : List Handler) :
    (∃ draft ∈ ofHandlers text isStar handlers, Shares kind found .binding draft) ↔
      (∃ item ∈ handlers.flatMap Handler.items, item.Draws text kind found) ∨
        (∃ expr ∈ handlers.flatMap Handler.exprs, Shares kind found .binding (ofExpr text expr)) ∨
          ∃ stmt ∈ handlers.flatMap Handler.body,
            Shares kind found .binding (ofStmt text stmt) := by
  induction handlers with
  | nil => simp [ofHandlers]
  | cons handler rest ih =>
      obtain ⟨span, exception, name, body⟩ := handler
      rw [ofHandlers, List.exists_mem_cons_iff, ih, shares_ofHandler node counts span]
      simp only [List.flatMap_cons, List.mem_append, or_and_right, exists_or, Handler.exprs,
        Handler.body]
      exact or_or_or_comm.trans (or_congr_right or_or_or_comm)

omit node in
theorem exists_shares_ofCases (cases : List Case) :
    (∃ draft ∈ ofCases text cases, Shares kind found .binding draft) ↔
      (∃ expr ∈ cases.flatMap Case.exprs, Shares kind found .binding (ofExpr text expr)) ∨
        (∃ pattern ∈ cases.map Case.pattern, Shares kind found .binding (ofPattern text pattern)) ∨
          ∃ stmt ∈ cases.flatMap Case.body, Shares kind found .binding (ofStmt text stmt) := by
  induction cases with
  | nil => simp [ofCases]
  | cons first rest ih =>
      obtain ⟨pattern, guard, body⟩ := first
      have given : (none, ofPattern text pattern) ::
          plain ((ofExpr? text guard).toList ++ ofStmts text body) =
        plain (ofPattern text pattern :: ((ofExpr? text guard).toList ++ ofStmts text body)) := rfl
      have leads : Shares kind found .binding (ofParts (.plain .caseBlock) .empty
          (none, ofPattern text pattern)
          (plain ((ofExpr? text guard).toList ++ ofStmts text body))) ↔
        (∃ expr ∈ guard.toList, Shares kind found .binding (ofExpr text expr)) ∨
          Shares kind found .binding (ofPattern text pattern) ∨
            ∃ stmt ∈ body, Shares kind found .binding (ofStmt text stmt) := by
        rw [shares_ofParts_of_not_counts counts rfl, given, among_plain, or_left_comm]
        refine (and_iff_right rfl).trans ?_
        simp [ofExpr?_eq_map, ofStmts_eq_map, Form.introduces, or_and_right, exists_or]
      rw [ofCases, List.exists_mem_cons_iff, ih, leads]
      simp only [List.flatMap_cons, List.map_cons, List.mem_append, List.exists_mem_cons_iff,
        or_and_right, exists_or, Case.exprs, Case.pattern, Case.body]
      exact or_or_or_comm.trans (or_congr_right or_or_or_comm)

theorem shares_ofFunction {span : Span} {isAsync : Bool} {name : String}
    {parameters : Parameters Draft} {returns : Option Draft} {decorators body : List Draft} :
    Shares kind found own
        (ofFunction text span isAsync name parameters returns decorators body) ↔
      (found = ofFunction text span isAsync name parameters returns decorators body ∧ kind = own) ∨
        (∃ draft ∈ decorators, Shares kind found .binding draft) ∨
          ((text.tokenAfter .name span.start name).map (ofName name true) = some found ∧
            kind = .functionDeclaration) ∨
          (∃ detail ∈ parameters.details, Shares kind found .binding detail) ∨
            ∃ draft ∈ returns.toList, Shares kind found .binding draft := by
  refine shares_ofSpan.trans (or_congr_right ?_)
  rw [among_append, among_append, among_append, among_append, among_append, among_plain,
    among_playing, among_playing, among_playing, among_playing, among_playing,
    exists_shares_name node, exists_shares_ofSignature node counts, or_assoc, or_assoc, or_assoc,
    or_assoc, or_iff_right fun signs => exists_shares_leaves node _ signs.2]
  exact or_congr (and_iff_right rfl) (or_congr (and_iff_right rfl) (or_congr (and_iff_right rfl)
    ((or_iff_left fun block => Bool.false_ne_true block.1).trans (and_iff_right rfl))))

omit counts in
theorem shares_ofClassDef {span : Span} {name : String} {arguments decorators body : List Draft} :
    Shares kind found own (ofClassDef text span name arguments decorators body) ↔
      (found = ofClassDef text span name arguments decorators body ∧ kind = own) ∨
        (∃ draft ∈ decorators, Shares kind found .binding draft) ∨
          ((text.tokenAfter .name span.start name).map (ofName name true) = some found ∧
            kind = .classDeclaration) ∨
          ∃ draft ∈ arguments, Shares kind found .binding draft := by
  refine shares_ofSpan.trans (or_congr_right ?_)
  rw [among_append, among_append, among_append, among_append, among_plain, among_playing,
    among_playing, among_playing, among_playing, exists_shares_name node, or_assoc, or_assoc,
    or_assoc, or_iff_right fun signs => exists_shares_leaves node _ signs.2]
  exact or_congr (and_iff_right rfl) (or_congr (and_iff_right rfl)
    ((or_iff_left fun block => Bool.false_ne_true block.1).trans (and_iff_right rfl)))

/-! ### Statements -/

/-- What shares the scope of a statement is the statement, a name in it, or shares the scope of a
part. -/
theorem shares_ofStmt_iff (stmt : Stmt) :
    Shares kind found .binding (ofStmt text stmt) ↔
      (∃ item ∈ stmt.items, item.Draws text kind found) ∨
        (∃ expr ∈ stmt.exprs, Shares kind found .binding (ofExpr text expr)) ∨
          (∃ pattern ∈ stmt.patterns, Shares kind found .binding (ofPattern text pattern)) ∨
            ∃ part ∈ stmt.parts, Shares kind found .binding (ofStmt text part) := by
  cases stmt with
  | simple span form parts =>
      rw [ofStmt, shares_plain counts (by cases form <;> rfl) (by cases form <;> rfl)]
      simp [Stmt.items, Stmt.exprs, Stmt.patterns, Stmt.parts, ofExprs_eq_map]
  | imports span fromModule aliases =>
      rw [ofStmt, shares_plain counts (by cases fromModule <;> rfl) (by cases fromModule <;> rfl)]
      simp [Stmt.items, Stmt.exprs, Stmt.patterns, Stmt.parts, shares_ofAlias node counts,
        and_assoc]
  | scopeDeclaration span isGlobal names =>
      have silent (tokens : List Token) : ¬Among kind found (Form.scopeDeclaration isGlobal).passes
          (.scopeDeclaration isGlobal)
          (playing .declared (tokens.map fun token => ofName token.value false token)) := by
        rw [among_playing]
        rintro ⟨-, draft, member, shares⟩
        obtain ⟨token, -, rfl⟩ := List.mem_map.mp member
        obtain ⟨rfl, -⟩ := (shares_ofName node).mp shares
        cases counts
      rw [ofStmt]
      refine shares_ofSpan.trans ((or_iff_left (silent _)).trans ?_)
      simp [Stmt.items, Stmt.exprs, Stmt.patterns, Stmt.parts, Item.Draws, ofStmt]
  | raise span exception cause =>
      rw [ofStmt]
      refine (shares_ofSpan_of_not_counts counts rfl).trans ?_
      rw [among_append, among_playing, among_playing]
      simp [Stmt.items, Stmt.exprs, Stmt.patterns, Stmt.parts, ofExpr?_eq_map, Form.passes,
        Form.holds, Form.introduces, or_and_right, exists_or]
  | conditional span test body orelse =>
      rw [ofStmt, ofConditional_eq]
      refine (shares_ofSpan_of_not_counts counts rfl).trans ?_
      rw [among_append, among_append, among_append, among_playing, among_playing, among_playing,
        among_playing, or_assoc]
      refine (or_congr_right ((or_congr (and_iff_right rfl) (and_iff_right rfl)).trans
        (exists_shares_orelse node counts))).trans ?_
      simp [Stmt.items, Stmt.exprs, Stmt.patterns, Stmt.parts, ofStmts_eq_map, Form.passes,
        Form.holds, Form.introduces, or_and_right, exists_or, or_assoc]
  | whileLoop span test body orelse =>
      rw [ofStmt]
      refine (shares_ofSpan_of_not_counts counts rfl).trans ?_
      rw [among_append, among_append, among_playing, among_playing, among_playing,
        exists_shares_ofClause node counts (.inl rfl)]
      simp [Stmt.items, Stmt.exprs, Stmt.patterns, Stmt.parts, ofStmts_eq_map, Form.passes,
        Form.holds, Form.introduces, or_and_right, exists_or, or_assoc]
  | forLoop span isAsync target iterable body orelse =>
      rw [ofStmt]
      refine (shares_ofSpan_of_not_counts counts rfl).trans ?_
      rw [among_append, among_append, among_append, among_playing, among_playing, among_playing,
        among_playing, exists_shares_ofClause node counts (.inl rfl)]
      simp [Stmt.items, Stmt.exprs, Stmt.patterns, Stmt.parts, ofStmts_eq_map, Form.passes,
        Form.holds, Form.introduces, or_and_right, exists_or, or_assoc]
  | tryBlock span isStar body handlers orelse final =>
      rw [ofStmt, ofTry]
      refine (shares_ofSpan_of_not_counts counts rfl).trans ?_
      rw [among_append, among_append, among_append, among_playing, among_playing, among_playing,
        among_playing, exists_shares_ofClause node counts (.inl rfl),
        exists_shares_ofClause node counts (.inr rfl)]
      have caught : (∃ draft ∈ ofHandlers text isStar handlers,
          Shares kind found (Form.tryStatement.introduces (some .handler)) draft) ↔ _ :=
        exists_shares_ofHandlers node counts handlers
      rw [caught]
      simp [Stmt.items, Stmt.exprs, Stmt.patterns, Stmt.parts, ofStmts_eq_map, Form.passes,
        Form.holds, Form.introduces, or_and_right, exists_or, -List.mem_flatMap]
      simp only [or_assoc, or_left_comm]
  | withBlock span items body =>
      rw [ofStmt, shares_plain counts rfl rfl]
      have flat : (∃ expr ∈ items.flatMap WithItem.exprs,
            Shares kind found .binding (ofExpr text expr)) ↔
          ∃ item ∈ items, ∃ expr ∈ item.exprs, Shares kind found .binding (ofExpr text expr) := by
        simp only [List.mem_flatMap]
        constructor
        · rintro ⟨expr, ⟨item, among, member⟩, shares⟩
          exact ⟨item, among, expr, member, shares⟩
        · rintro ⟨item, among, expr, member, shares⟩
          exact ⟨expr, ⟨item, among, member⟩, shares⟩
      rw [Stmt.exprs, flat]
      simp [Stmt.items, Stmt.patterns, Stmt.parts, ofStmts_eq_map, or_and_right, exists_or,
        shares_ofWithItem counts]
  | matchBlock span subject cases =>
      rw [ofStmt]
      refine (shares_plain counts rfl rfl).trans ?_
      rw [List.exists_mem_cons_iff, exists_shares_ofCases counts]
      simp [Stmt.items, Stmt.exprs, Stmt.patterns, Stmt.parts, or_assoc]
  | function span isAsync name parameters returns decorators body =>
      rw [ofStmt, shares_ofFunction node counts]
      simp only [Stmt.items, Stmt.exprs, Stmt.patterns, Stmt.parts, Item.Draws, Construct.draft?,
        Construct.kind, Region.draft, ofStmt, details_ofParametersOf, ofExprs_eq_map,
        ofExpr?_eq_map, Option.toList_map, List.mem_map, exists_exists_and_eq_and,
        List.exists_mem_cons_iff, List.mem_append, List.not_mem_nil, false_and, exists_false,
        or_false, or_and_right, exists_or]
      simp only [or_assoc, or_left_comm, or_comm]
  | classDef span name bases keywords decorators body =>
      rw [ofStmt, shares_ofClassDef node]
      simp only [Stmt.items, Stmt.exprs, Stmt.patterns, Stmt.parts, Item.Draws, Construct.draft?,
        Construct.kind, Region.draft, ofStmt, ofExprs_eq_map, List.mem_map,
        exists_exists_and_eq_and, List.exists_mem_cons_iff, List.mem_append, List.not_mem_nil,
        false_and, exists_false, or_false, or_and_right, exists_or]
      simp only [or_assoc, or_comm]

/-- What shares the scope of a statement is drawn for what the region has by it. -/
theorem shares_ofStmt (stmt : Stmt) :
    Shares kind found .binding (ofStmt text stmt) ↔
      ∃ item, stmt.Has item ∧ item.Draws text kind found := by
  revert stmt
  apply Stmt.induction_parts
  intro stmt ih
  rw [shares_ofStmt_iff node counts, Stmt.exists_has_iff]
  refine or_congr_right (or_congr ?_ (or_congr ?_
    (exists_congr fun part => and_congr_right (ih part))))
  · exact exists_congr fun expr => and_congr_right fun _ => shares_ofExpr node counts expr
  · exact exists_congr fun pattern => and_congr_right fun _ => shares_ofPattern node counts pattern

/-! ### Regions -/

theorem exists_shares_ofStmts (stmts : List Stmt) :
    (∃ draft ∈ ofStmts text stmts, Shares kind found .binding draft) ↔
      ∃ stmt ∈ stmts, ∃ item, stmt.Has item ∧ item.Draws text kind found := by
  simp only [ofStmts_eq_map, List.mem_map, exists_exists_and_eq_and, shares_ofStmt node counts]

omit counts in
/-- The names of the parameters are drawn for what the signature binds. -/
theorem exists_named_items {start : Position} (parameters : Parameters Expr) :
    (∃ list ∈ (ofSignature text (ofParametersOf text parameters) start).toList,
        NamedIn kind found list) ↔
      ∃ item ∈ parameters.items, item.Draws text kind found := by
  rw [exists_namedIn_ofSignature node, entries_ofParametersOf, Parameters.items]
  simp only [List.mem_map, exists_exists_and_eq_and, Item.Draws, Construct.draft?, Construct.kind]
  refine exists_congr fun entry => and_congr_right fun _ => ?_
  obtain ⟨⟨span, name, hint⟩, default⟩ := entry
  exact and_comm

omit counts in
/-- Inside of a function stand the names of its parameters and its body. -/
theorem inside_ofFunction {span : Span} {isAsync : Bool} {name : String}
    {parameters : Parameters Expr} {returns : Option Draft} {decorators body : List Draft} :
    Inside kind found (ofFunction text span isAsync name (ofParametersOf text parameters) returns
        decorators body) ↔
      (∃ item ∈ parameters.items, item.Draws text kind found) ∨
        ∃ draft ∈ body, Shares kind found .binding draft := by
  rw [ofFunction]
  refine inside_ofSpan.trans (or_comm.trans (or_congr ?_ ?_))
  · rw [← exists_named_items node]
    simp only [plain, playing, List.mem_append, List.mem_map, Prod.mk.injEq, reduceCtorEq,
      Option.some.injEq, false_and, and_false, exists_false, false_or, or_false, true_and,
      exists_eq_right]
    exact .rfl
  · simp [Form.holds, Form.introduces]

omit counts in
theorem inside_lambda {span : Span} {fields : Fields} {start : Position}
    {parameters : Parameters Expr} {body : Expr} :
    Inside kind found (ofSpan .lambda span fields
        (playing .parameters (ofSignature text (ofParametersOf text parameters) start).toList
          ++ playing .expression [ofExpr text body])) ↔
      (∃ item ∈ parameters.items, item.Draws text kind found) ∨
        Shares kind found .binding (ofExpr text body) := by
  refine inside_ofSpan.trans (or_comm.trans (or_congr ?_ ?_))
  · rw [← exists_named_items node]
    simp only [playing, List.mem_append, List.mem_map, Prod.mk.injEq, reduceCtorEq,
      Option.some.injEq, false_and, and_false, exists_false, or_false, true_and, exists_eq_right]
    exact .rfl
  · simp [Form.holds, Form.introduces]

omit node counts in
theorem inside_ofClassDef {span : Span} {name : String} {arguments decorators body : List Draft} :
    Inside kind found (ofClassDef text span name arguments decorators body) ↔
      ∃ draft ∈ body, Shares kind found .binding draft := by
  rw [ofClassDef]
  refine inside_ofSpan.trans ((or_iff_left ?_).trans ?_)
  · simp [plain, playing]
  · simp [Form.holds, Form.introduces]

omit node in
/-- A clause of a comprehension leads on to its parts. -/
theorem exists_shares_ofClauses (clauses : List Clause) :
    (∃ draft ∈ ofClauses text clauses, Shares kind found .binding draft) ↔
      ∃ expr ∈ clauses.flatMap Clause.exprs, Shares kind found .binding (ofExpr text expr) := by
  induction clauses with
  | nil => simp [ofClauses]
  | cons clause rest ih =>
      obtain ⟨target, iterable, conditions⟩ := clause
      have given : (none, ofExpr text target) ::
          plain (ofExpr text iterable :: ofExprs text conditions) =
        plain ((target :: iterable :: conditions).map (ofExpr text)) := by
        rw [ofExprs_eq_map]
        rfl
      rw [ofClauses, List.exists_mem_cons_iff, ih, shares_ofParts_of_not_counts counts rfl, given,
        among_plain, List.flatMap_cons]
      simp only [List.mem_append, or_and_right, exists_or, Clause.exprs]
      refine or_congr_left ((and_iff_right rfl).trans ?_)
      simp [Form.introduces]

omit node counts in
/-- Inside of a file stand its statements. -/
theorem inside_ofProgram {program : Program} :
    Inside kind found (ofProgram program text) ↔
      ∃ draft ∈ ofStmts text program.body, Shares kind found .binding draft := by
  rw [ofProgram]
  refine (inside_node (.refl _)).trans ((or_iff_left (by simp [playing])).trans ?_)
  exact (among_playing _ _).trans (and_iff_right rfl)

/-- What stands inside of a file is drawn for an item of the file. -/
theorem inside_draft_file (program : Program) :
    Inside kind found ((Region.file program).draft text) ↔
      ∃ item, (Region.file program).Has item ∧ item.Draws text kind found := by
  rw [Region.exists_has_iff, Region.draft, inside_ofProgram, exists_shares_ofStmts node counts]
  simp [Region.items, Region.exprs, Region.stmts]

/-- What stands inside of a region is drawn for an item of the region. -/
theorem inside_draft (region : Region) (isOpen : region.isOpen = true) :
    Inside kind found (region.draft text) ↔
      ∃ item, region.Has item ∧ item.Draws text kind found := by
  rw [Region.exists_has_iff]
  match region, isOpen with
  | .stmt (.function span isAsync name parameters returns decorators body), _ =>
      rw [Region.draft, ofStmt, inside_ofFunction node, exists_shares_ofStmts node counts]
      simp [Region.items, Region.exprs, Region.stmts, Stmt.inner]
  | .stmt (.classDef span name bases keywords decorators body), _ =>
      rw [Region.draft, ofStmt, inside_ofClassDef, exists_shares_ofStmts node counts]
      simp [Region.items, Region.exprs, Region.stmts, Stmt.inner]
  | .expr (.lambda span parameters body), _ =>
      rw [Region.draft, ofExpr, inside_lambda node, shares_ofExpr node counts]
      simp [Region.items, Region.exprs, Region.stmts, Expr.inner]
  | .expr (.comprehension span collection elements clauses), _ =>
      have isComprehension : collection.kind.isComprehension = true := by cases collection <;> rfl
      have binding : (Form.plain collection.kind).introduces none = .binding := by
        cases collection <;> rfl
      rw [Region.draft, ofExpr]
      refine inside_ofSpan.trans ((or_iff_left (by simp [plain])).trans ?_)
      rw [among_plain, binding]
      refine (and_iff_right isComprehension).trans ?_
      have parts : (∃ draft ∈ ofExprs text elements ++ ofClauses text clauses,
          Shares kind found .binding draft) ↔
            ∃ expr ∈ elements ++ clauses.flatMap Clause.exprs,
              Shares kind found .binding (ofExpr text expr) := by
        simp only [List.mem_append, or_and_right, exists_or, exists_shares_ofClauses counts,
          ofExprs_eq_map, List.mem_map, exists_exists_and_eq_and]
      rw [parts]
      simp [Region.items, Region.exprs, Region.stmts, Expr.inner, shares_ofExpr node counts]

end Draft

end StructuralLint
