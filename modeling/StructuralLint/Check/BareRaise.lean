import StructuralLint.Check.Dispatch
import StructuralLint.Tree.Query

/-!
# Bare raises in finally blocks

A `raise` without an exception re-raises the exception that is being handled. In a `finally` block
there may be none, and if there is one it goes on by itself once the block ends. The rule looks only
at what encloses the statement: a handler, a `finally` block, a function or a class, whichever is
nearest, and any method that is called on leaving a context, which may re-raise what is active.
-/

namespace StructuralLint.BareRaise

/-- The key of the rule. -/
def key : String := "bare-raise-in-finally"

/-- The message of the rule. -/
def message : String := "Refactor this code so that any active exception raises naturally."

variable (tree : Tree)

/-- Whether the nearest clause of this kind, function or class around a node is the clause. -/
def isWithin (clause : Kind) (node : NodeId) : Bool :=
  (tree.firstAncestorOfKind node [clause, .classDef, .function]).any (tree.isKind [clause])

/-- Whether a node is in an `except` clause of its function or class. -/
def isWithinExcept (node : NodeId) : Bool := isWithin tree .exceptClause node

/-- Whether a node is in a `finally` clause of its function or class. -/
def isWithinFinally (node : NodeId) : Bool := isWithin tree .finallyClause node

/-- The name of the method that is called on leaving a context. -/
def exitName : String := "__exit__"

/-- Whether a node is in a function that is called on leaving a context, at any distance. A function
without a name on the way there leaves the question open. -/
def isWithinExit (node : NodeId) : Except CheckError Bool :=
  let stops (id : NodeId) : Bool :=
    tree.isFunction id && (tree.attributeName? id).all (· = exitName)
  match tree.firstAncestor node stops with
  | none => .ok false
  | some function =>
    if (tree.attributeName? function).isSome then .ok true else .error .missingPart

/-- Reports a `raise` that the rule is about. -/
def consume : Tree → NodeId → Except CheckError (List Finding) := fun tree node => do
  unless tree.form? node = some .raise do throw .missingPart
  if !(tree.attributes node .expression).isEmpty then return []
  else if isWithinExcept tree node then return []
  else if ← isWithinExit tree node then return []
  else if isWithinFinally tree node then
    match tree.firstToken node with
    | some word => return [⟨word, message⟩]
    | none => throw .missingPart
  else return []

/-- The rule as a check. -/
def check : Check := ⟨key, [(.raiseStatement, fun tree node _ => consume tree node)]⟩

end BareRaise

/-- The checks that every analysis runs. -/
def defaultChecks : List Check := [BareRaise.check]

end StructuralLint
