import StructuralLint.Analysis.Project
import StructuralLint.CommandLine.Request

/-!
# Executing a command line

A command line is read and run, and the result is put into words: the issues on the standard
output, or a message on the error output. The exit code tells the two apart, and mistakes of the
caller from failures inside.
-/

namespace StructuralLint.CommandLine

/-- What the caller sees of a run. -/
structure Outcome where
  code : Nat
  output : String
  errors : String
deriving DecidableEq, Repr

namespace Outcome

/-- Each text on a line of its own. -/
def lines (texts : List String) : String := String.join (texts.map (· ++ "\n"))

/-- The outcome of a command line that is not run. -/
def ofRefusal (refusal : Refusal) : Outcome :=
  match refusal with
  | .help _ => ⟨refusal.code, refusal.text, ""⟩
  | .usage _ _ => ⟨refusal.code, "", refusal.text⟩

/-- The outcome of a run that found these issues. -/
def ofIssues (place : Path) (issues : List Issue) : Outcome :=
  let head := ["Analyzed: " ++ place.text, "Total issues: " ++ toString issues.length]
  let gap := if issues.isEmpty then [] else [""]
  ⟨0, lines (head ++ gap ++ issues.map Issue.format), ""⟩

/-- The outcome of a run on a path that leads nowhere. -/
def ofMissing (place : Path) : Outcome :=
  ⟨1, "", lines ["Error: Path does not exist: " ++ place.text]⟩

/-- The outcome of a run that failed inside. -/
def internal (debug : Bool) : Outcome :=
  let hint := if debug then [] else ["Run with --debug for details."]
  ⟨2, "", lines ("Internal error while analyzing." :: hint)⟩

/-- The outcome of a run that ended early. What the caller can mend is told. -/
def ofError (debug : Bool) : RunError → Outcome
  | .cap error => ⟨1, "", lines ["Error: " ++ error.message]⟩
  | .history (.path _) => internal debug
  | .history error => ⟨1, "", lines ["Error: " ++ error.message]⟩
  | .path _ | .analysis _ => internal debug

end Outcome

/-- Runs a command line in the directory `here`. `setting` is the cap in the environment. There is
no outcome when links lead in a circle on the way to the path. -/
def execute (history : History) (tree : FileTree) (here : Path) (setting : Option (List Char))
    (arguments : List String) : Except PathError (Outcome × RunLog) :=
  match Request.read arguments with
  | .error refusal => .ok (.ofRefusal refusal, .empty)
  | .ok request =>
    match tree.resolve (here.join request.path) with
    | .error error => .error error
    | .ok place =>
      if !tree.leadsSomewhere place then .ok (.ofMissing place, .empty)
      else
        let limit := request.maxIssues.map Int.ofNat
        match (analyzeProject history tree here setting place request.since limit).run.run .empty
        with
        | (.ok issues, log) => .ok (.ofIssues place issues, log)
        | (.error error, log) => .ok (.ofError request.debug error, log)

end StructuralLint.CommandLine
