import StructuralLint.Program.Expr

/-!
# Statements

The abstract syntax of statements and of whole programs. As with expressions, a constructor of its
own is given to what a later stage treats in its own way.
-/

namespace StructuralLint.Program

/-- The forms of statements that are no more than their parts. -/
inductive SimpleForm where
  | assignment
  | annotatedAssignment
  | compoundAssignment
  | expression
  | returnStmt
  | passStmt
  | breakStmt
  | continueStmt
  | deleteStmt
  | assertStmt
deriving DecidableEq, Repr

/-- An imported name. The star of `from m import *` has the name `*`. -/
structure Alias where
  span : Span
  name : String
  asName : Option String

/-- One context manager of a `with` statement and the target that it is bound to. -/
structure WithItem where
  context : Expr
  target : Option Expr

mutual

/-- A statement. -/
inductive Stmt where
  | simple (span : Span) (form : SimpleForm) (parts : List Expr)
  | imports (span : Span) (fromModule : Bool) (aliases : List Alias)
  | scopeDeclaration (span : Span) (isGlobal : Bool) (names : List String)
  | raise (span : Span) (exception cause : Option Expr)
  /-- Further branches of the statement stand in `orelse` as one more `conditional`. -/
  | conditional (span : Span) (test : Expr) (body orelse : List Stmt)
  | whileLoop (span : Span) (test : Expr) (body orelse : List Stmt)
  | forLoop (span : Span) (isAsync : Bool) (target iterable : Expr) (body orelse : List Stmt)
  | tryBlock (span : Span) (isStar : Bool) (body : List Stmt) (handlers : List Handler)
      (orelse final : List Stmt)
  | withBlock (span : Span) (items : List WithItem) (body : List Stmt)
  | matchBlock (span : Span) (subject : Expr) (cases : List Case)
  | function (span : Span) (isAsync : Bool) (name : String) (parameters : Parameters Expr)
      (returns : Option Expr) (decorators : List Expr) (body : List Stmt)
  | classDef (span : Span) (name : String) (bases keywords decorators : List Expr)
      (body : List Stmt)

/-- An `except` clause. -/
inductive Handler where
  | mk (span : Span) (exception : Option Expr) (name : Option String) (body : List Stmt)

/-- A `case` block. -/
inductive Case where
  | mk (pattern : Pattern) (guard : Option Expr) (body : List Stmt)

end

namespace Stmt

/-- The source text of the statement. The decorators of a definition are outside of it. -/
def span : Stmt → Span
  | simple span .. | imports span .. | scopeDeclaration span .. | raise span ..
  | conditional span .. | whileLoop span .. | forLoop span .. | tryBlock span ..
  | withBlock span .. | matchBlock span .. | function span .. | classDef span .. => span

end Stmt

end Program

/-- A program: its statements. -/
structure Program where
  body : List Program.Stmt

/-- The string that a program opens with, as it is, if its first statement is nothing else. -/
def Program.docstring (program : Program) : Option String :=
  match program.body with
  | .simple _ .expression [.text _ value] :: _ => value
  | _ => none

end StructuralLint
