import StructuralLint.Proofs.Tree.Blocks

/-!
# The nodes of statements

Which parts of the node of a statement its blocks have become, one lemma for each form of statement
that has blocks. The statements of a block go together with the drafts that were made from it, in
order, in any relation that passes from a node to its parts.
-/

namespace StructuralLint

open Program

namespace Draft

variable (text : SourceText)

@[simp]
theorem filter_isNode_ofStmts (stmts : List Stmt) :
    (ofStmts text stmts).filter isNode = ofStmts text stmts :=
  filter_isNode_of_free (free_ofStmts text stmts)

@[simp]
theorem filter_isNode_ofExpr? (expr : Option Expr) :
    (ofExpr? text expr).toList.filter isNode = (ofExpr? text expr).toList :=
  filter_isNode_of_free fun draft member =>
    (calm_of_mem_toList (calm_ofExpr? text expr) draft member).toFree

@[simp]
theorem filter_isNode_ofClause (form : Form) (word : String) (start : Position)
    (body : List Draft) :
    (ofClause text form word start body).toList.filter isNode =
      (ofClause text form word start body).toList := by
  cases body with
  | nil => rfl
  | cons first rest =>
      simp only [ofClause]
      split <;> rfl

@[simp]
theorem filter_isNode_ofHandlers (isStar : Bool) (handlers : List Handler) :
    (ofHandlers text isStar handlers).filter isNode = ofHandlers text isStar handlers := by
  induction handlers with
  | nil => rfl
  | cons handler rest ih =>
      obtain ⟨span, exception, name, body⟩ := handler
      rw [ofHandlers, List.filter_cons_of_pos rfl, ih]

@[simp]
theorem filter_isNode_ofCases (cases : List Case) :
    (ofCases text cases).filter isNode = ofCases text cases :=
  filter_isNode_of_free (free_ofCases text cases)

end Draft

namespace Placed

open Draft

/-- The name of the definition that a node is. -/
def definedName (placed : Placed) : String :=
  match (placed.playing .name).map Placed.form with
  | .name text _ :: _ => text
  | _ => ""

variable {text : SourceText} {placed : Placed} {span : Span}

/-- A function that has kept its name is called by it. -/
theorem definedName_function {isAsync : Bool} {name : String} {parameters : Parameters Expr}
    {returns : Option Expr} {decorators : List Expr} {body : List Stmt}
    (completes : Branch.Completes (ofStmt text
      (.function span isAsync name parameters returns decorators body)) placed.branch)
    (named : placed.playing .name ≠ []) : placed.definedName = name := by
  rw [ofStmt] at completes
  have names := inRole_ofSpan passesDown_completes completes (some .name)
  simp only [inRole_append, inRole_playing, inRole_plain, reduceCtorEq, Option.some.injEq,
    if_true, if_false, List.nil_append, List.append_nil, inRole_some] at names
  cases found : text.tokenAfter .name (text.span span).start name with
  | none =>
      rw [found] at names
      cases same : placed.playing .name with
      | nil => exact absurd same named
      | cons first rest => simp [same] at names
  | some token =>
      rw [found] at names
      cases names' : placed.playing .name with
      | nil => exact absurd names' named
      | cons first rest =>
          rw [names', Option.map_some, Option.toList_some, List.filter_cons_of_pos rfl] at names
          cases names with
          | cons completes _ =>
              rw [definedName, names', List.map_cons, form_of_completes completes]
              rfl

theorem isEmpty_raised {exception cause : Option Expr}
    (completes : Branch.Completes (ofStmt text (.raise span exception cause)) placed.branch) :
    (placed.playing .expression).isEmpty = exception.isNone := by
  rw [ofStmt] at completes
  have given := inRole_ofSpan passesDown_completes completes (some .expression)
  simp only [inRole_append, inRole_playing, reduceCtorEq, Option.some.injEq, if_true, if_false,
    List.append_nil, inRole_some, filter_isNode_ofExpr?] at given
  cases exception with
  | none =>
      rw [List.forall₂_nil_left_iff.mp given]
      rfl
  | some expr =>
      cases raised : placed.playing .expression with
      | nil => simp [raised, ofExpr?] at given
      | cons first rest => rfl

/-! ### Blocks of statements -/

variable {R : Draft → Placed → Prop} (passes : PassesDown R)
include passes

theorem paired_function {isAsync : Bool} {name : String} {parameters : Parameters Expr}
    {returns : Option Expr} {decorators : List Expr} {body : List Stmt}
    (related : R (ofStmt text
      (.function span isAsync name parameters returns decorators body)) placed) :
    List.Forall₂ R (ofStmts text body) (placed.playing .body) := by
  rw [ofStmt] at related
  simpa using inRole_ofSpan passes related (some .body)

theorem paired_classDef {name : String} {bases keywords decorators : List Expr}
    {body : List Stmt}
    (related : R (ofStmt text
      (.classDef span name bases keywords decorators body)) placed) :
    List.Forall₂ R (ofStmts text body) (placed.playing .body) := by
  rw [ofStmt] at related
  simpa using inRole_ofSpan passes related (some .body)

theorem paired_conditional {test : Expr} {body orelse : List Stmt}
    (related : R (ofStmt text (.conditional span test body orelse))
      placed) :
    List.Forall₂ R (ofStmts text body) (placed.playing .body) ∧
      List.Forall₂ R (ofStmts text orelse)
        (placed.playing .elifBranch ++ (placed.playing .elseClause).flatMap (·.playing .body)) := by
  rw [ofStmt, ofConditional_eq] at related
  have block := inRole_ofSpan passes related (some .body)
  have further := inRole_ofSpan passes related (some .elifBranch)
  have clause := inRole_ofSpan passes related (some .elseClause)
  simp only [inRole_append, inRole_playing, reduceCtorEq, Option.some.injEq, if_true, if_false,
    List.append_nil, List.nil_append, inRole_some, filter_isNode_ofStmts] at block further clause
  refine ⟨block, ?_⟩
  generalize endAfter _ _ = bodyEnd at further clause
  cases found : elifBranch text bodyEnd orelse (ofStmts text orelse) with
  | some branch =>
      obtain ⟨_, _, _, _, -, same⟩ := elifBranch_eq_some text found
      have free : branch.isNode = true :=
        (free_ofStmts text orelse branch (same ▸ List.mem_singleton_self _)).isNode
      rw [found] at further clause
      rw [Option.toList_some, List.filter_cons_of_pos free] at further
      rw [List.forall₂_nil_left_iff.mp clause, same]
      simpa using further
  | none =>
      rw [found] at further clause
      rw [List.forall₂_nil_left_iff.mp further, List.nil_append]
      simp only [Option.isSome_none, Bool.false_eq_true, if_false, filter_isNode_ofClause] at clause
      exact clause_body_of_passesDown passes (free_ofStmts text orelse) clause

theorem paired_whileLoop {test : Expr} {body orelse : List Stmt}
    (related : R (ofStmt text (.whileLoop span test body orelse))
      placed) :
    List.Forall₂ R (ofStmts text body) (placed.playing .body) ∧
      List.Forall₂ R (ofStmts text orelse)
        ((placed.playing .elseClause).flatMap (·.playing .body)) := by
  rw [ofStmt] at related
  refine ⟨by simpa using inRole_ofSpan passes related (some .body), ?_⟩
  have clause := inRole_ofSpan passes related (some .elseClause)
  simp only [inRole_append, inRole_playing, reduceCtorEq, Option.some.injEq, if_true, if_false,
    List.append_nil, List.nil_append, inRole_some, filter_isNode_ofClause] at clause
  exact clause_body_of_passesDown passes (free_ofStmts text orelse) clause

theorem paired_forLoop {isAsync : Bool} {target iterable : Expr} {body orelse : List Stmt}
    (related : R (ofStmt text
      (.forLoop span isAsync target iterable body orelse)) placed) :
    List.Forall₂ R (ofStmts text body) (placed.playing .body) ∧
      List.Forall₂ R (ofStmts text orelse)
        ((placed.playing .elseClause).flatMap (·.playing .body)) := by
  rw [ofStmt] at related
  refine ⟨by simpa using inRole_ofSpan passes related (some .body), ?_⟩
  have clause := inRole_ofSpan passes related (some .elseClause)
  simp only [inRole_append, inRole_playing, reduceCtorEq, Option.some.injEq, if_true, if_false,
    List.append_nil, List.nil_append, inRole_some, filter_isNode_ofClause] at clause
  exact clause_body_of_passesDown passes (free_ofStmts text orelse) clause

/-- The four blocks of a `try` statement. -/
structure PairedTry (R : Draft → Placed → Prop) (text : SourceText) (isStar : Bool)
    (body : List Stmt) (handlers : List Handler) (orelse final : List Stmt) (placed : Placed) :
    Prop where
  body : List.Forall₂ R (ofStmts text body) (placed.playing .body)
  handlers : List.Forall₂ R (ofHandlers text isStar handlers) (placed.playing .handler)
  orelse : List.Forall₂ R (ofStmts text orelse)
    ((placed.playing .elseClause).flatMap (·.playing .body))
  final : List.Forall₂ R (ofStmts text final)
    ((placed.playing .finallyClause).flatMap (·.playing .body))

theorem paired_tryBlock {isStar : Bool} {body : List Stmt} {handlers : List Handler}
    {orelse final : List Stmt}
    (related : R (ofStmt text
      (.tryBlock span isStar body handlers orelse final)) placed) :
    PairedTry R text isStar body handlers orelse final placed := by
  rw [ofStmt] at related
  refine ⟨by simpa using inRole_ofSpan passes related (some .body),
    by simpa using inRole_ofSpan passes related (some .handler), ?_, ?_⟩
  · have clause := inRole_ofSpan passes related (some .elseClause)
    simp only [inRole_append, inRole_playing, reduceCtorEq, Option.some.injEq, if_true, if_false,
      List.append_nil, List.nil_append, inRole_some, filter_isNode_ofClause] at clause
    exact clause_body_of_passesDown passes (free_ofStmts text orelse) clause
  · have clause := inRole_ofSpan passes related (some .finallyClause)
    simp only [inRole_append, inRole_playing, reduceCtorEq, Option.some.injEq, if_true, if_false,
      List.append_nil, List.nil_append, inRole_some, filter_isNode_ofClause] at clause
    exact clause_body_of_passesDown passes (free_ofStmts text final) clause

theorem paired_handler {isStar : Bool} {exception : Option Draft} {name : Option String}
    {body : List Stmt}
    (related : R (ofHandler text span isStar exception name (ofStmts text body))
      placed) : List.Forall₂ R (ofStmts text body) (placed.playing .body) := by
  simpa using inRole_ofSpan passes related (some .body)

theorem paired_withBlock {items : List WithItem} {body : List Stmt}
    (related : R (ofStmt text (.withBlock span items body)) placed) :
    List.Forall₂ R (items.map (ofWithItem text)) (placed.plain.take items.length) ∧
      List.Forall₂ R (ofStmts text body) (placed.plain.drop items.length) := by
  rw [ofStmt] at related
  have managers : (items.map (ofWithItem text)).filter isNode = items.map (ofWithItem text) := by
    refine filter_isNode_of_free fun draft member => ?_
    obtain ⟨item, -, rfl⟩ := List.mem_map.mp member
    exact (calm_ofWithItem text item).toFree
  have parts := inRole_ofSpan passes related none
  rw [inRole_plain, if_pos rfl, List.filter_append, managers, filter_isNode_ofStmts] at parts
  have front := List.forall₂_take items.length parts
  have back := List.forall₂_drop items.length parts
  rw [List.take_left' (List.length_map _)] at front
  rw [List.drop_left' (List.length_map _)] at back
  exact ⟨front, back⟩

theorem paired_matchBlock {subject : Expr} {cases : List Case}
    (related : R (ofStmt text (.matchBlock span subject cases)) placed) :
    List.Forall₂ R [ofExpr text subject] (placed.plain.take 1) ∧
      List.Forall₂ R (ofCases text cases) (placed.plain.drop 1) := by
  rw [ofStmt] at related
  have parts := inRole_ofSpan passes related none
  rw [inRole_plain, if_pos rfl, List.filter_cons_of_pos (calm_ofExpr text subject).isNode,
    filter_isNode_ofCases] at parts
  exact ⟨List.forall₂_take 1 parts, List.forall₂_drop 1 parts⟩

theorem paired_case {pattern : Pattern} {guard : Option Expr} {body : List Stmt}
    (related : R (ofParts (.plain .caseBlock) .empty (none, ofPattern text pattern)
      (Draft.plain ((ofExpr? text guard).toList ++ ofStmts text body))) placed) :
    List.Forall₂ R (ofPattern text pattern :: (ofExpr? text guard).toList)
        (placed.plain.take (1 + guard.toList.length)) ∧
      List.Forall₂ R (ofStmts text body) (placed.plain.drop (1 + guard.toList.length)) := by
  have parts := inRole_ofParts passes related none
  rw [show (none, ofPattern text pattern) ::
      Draft.plain ((ofExpr? text guard).toList ++ ofStmts text body) =
      Draft.plain (ofPattern text pattern :: (ofExpr? text guard).toList ++ ofStmts text body)
    from rfl, inRole_plain, if_pos rfl, List.filter_append,
    List.filter_cons_of_pos (calm_ofPattern text pattern).isNode, filter_isNode_ofExpr?,
    filter_isNode_ofStmts] at parts
  have length : (ofPattern text pattern :: (ofExpr? text guard).toList).length =
      1 + guard.toList.length := by
    cases guard <;> rfl
  have front := List.forall₂_take (1 + guard.toList.length) parts
  have back := List.forall₂_drop (1 + guard.toList.length) parts
  rw [List.take_left' length] at front
  rw [List.drop_left' length] at back
  exact ⟨front, back⟩

end Placed

end StructuralLint
