import StructuralLint.Position

/-!
# Expressions

The abstract syntax of expressions. Every expression has its span, with columns in bytes. The form
of an expression is told apart only where a later stage treats it in its own way: names, strings,
member accesses, functions and comprehensions have constructors of their own, and all other
expressions are compounds of their parts.
-/

namespace StructuralLint.Program

/-- What a name is used for. -/
inductive NameUse where
  | load
  | store
  | delete
deriving DecidableEq, Repr

/-- The forms of expressions that are no more than their parts. -/
inductive Compound where
  | call
  /-- An argument that is passed by keyword or by unpacking a mapping. -/
  | argument
  | subscription
  | slice
  | starred
  | conditional
  /-- A name bound inside an expression; the parts are the name and the value. -/
  | binding
  | await
  | yield
  | binary
  | unary
  | comparison
  | tuple
  | list
  | set
  | dictionary
deriving DecidableEq, Repr

/-- What a comprehension builds. -/
inductive Collection where
  | list
  | set
  | dictionary
  | generator
deriving DecidableEq, Repr

/-- One parameter of a function. The span takes in the type hint, but no star and no default. -/
structure Parameter (ε : Type) where
  span : Span
  name : String
  hint : Option ε

/-- The parameters of a function. -/
structure Parameters (ε : Type) where
  positionalOnly : List (Parameter ε)
  regular : List (Parameter ε)
  /-- The defaults of the last ones of the positional-only and regular parameters together. -/
  defaults : List ε
  /-- The parameter that takes the remaining positional arguments. -/
  rest : Option (Parameter ε)
  keywordOnly : List (Parameter ε)
  /-- For every keyword-only parameter its default, if it has one. -/
  keywordDefaults : List (Option ε)
  /-- The parameter that takes the remaining keyword arguments. -/
  keywordRest : Option (Parameter ε)

/-- A signature without parameters. -/
def Parameters.empty {ε : Type} : Parameters ε := ⟨[], [], [], none, [], [], none⟩

mutual

/-- An expression. -/
inductive Expr where
  | name (span : Span) (id : String) (use : NameUse)
  /-- A number, a truth value, the null value or an ellipsis. -/
  | literal (span : Span)
  /-- A string, with its value unless it is a string of bytes. -/
  | text (span : Span) (value : Option String)
  /-- A string with expressions in it. The expressions carry no tokens of their own. -/
  | interpolated (span : Span)
  | member (span : Span) (object : Expr) (name : String)
  | lambda (span : Span) (parameters : Parameters Expr) (body : Expr)
  /-- The elements of a dictionary comprehension are the key and the value. -/
  | comprehension (span : Span) (collection : Collection) (elements : List Expr)
      (clauses : List Clause)
  | compound (span : Span) (form : Compound) (parts : List Expr)

/-- A `for` clause of a comprehension with the conditions after it. -/
inductive Clause where
  | mk (target iterable : Expr) (conditions : List Expr)

end

/-- A pattern of a `match` statement. The names that patterns capture are strings, not
expressions. -/
inductive Pattern where
  | value (span : Span) (value : Expr)
  /-- A truth value or the null value. -/
  | singleton (span : Span)
  | sequence (span : Span) (patterns : List Pattern)
  | mapping (span : Span) (keys : List Expr) (patterns : List Pattern) (rest : Option String)
  /-- Instances of a class: patterns by position, then attributes with their patterns. -/
  | instances (span : Span) (type : Expr) (patterns : List Pattern) (attributes : List String)
      (attributePatterns : List Pattern)
  /-- The rest of a sequence, captured under a name or ignored. -/
  | star (span : Span) (name : Option String)
  /-- Anything, captured under a name or ignored. -/
  | capture (span : Span) (name : Option String)
  /-- What another pattern matches, captured under a name. -/
  | named (span : Span) (pattern : Pattern) (name : String)
  | alternatives (span : Span) (patterns : List Pattern)

end StructuralLint.Program
