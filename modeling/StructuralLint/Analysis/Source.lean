import StructuralLint.Check.BareRaise
import StructuralLint.Parse

/-!
# Analyzing source text

A source text is read into a tree, and the checks are run over the tree.
-/

namespace StructuralLint

/-- Why a source text has no issues to tell. -/
inductive AnalysisError where
  | tree (error : TreeError)
  | check (error : CheckError)
deriving DecidableEq, Repr

/-- The issues that the checks of a dispatcher find in a source text. -/
def analyzeSourceWith (dispatcher : Dispatcher) (source : List Char) (filePath : String) :
    Except AnalysisError (List Issue) :=
  match parse source true with
  | .error error => .error (.tree error)
  | .ok parsed =>
    match dispatcher.scan parsed.tree filePath with
    | .error error => .error (.check error)
    | .ok issues => .ok issues

/-- The issues that the default checks find in a source text. -/
def analyzeSource (source : List Char) (filePath : String) : Except AnalysisError (List Issue) :=
  analyzeSourceWith (Dispatcher.ofChecks defaultChecks) source filePath

end StructuralLint
