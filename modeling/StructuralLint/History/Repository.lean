import StructuralLint.History.Change
import StructuralLint.Text.Blank
import StructuralLint.Worktree.FileTree

/-!
# Repositories

Version control is asked three questions: where the working tree has its top, which files changed
since a revision, and which files are not tracked. Every question is put in some directory. What
was asked is kept, also when an answer ends the search.
-/

namespace StructuralLint

/-- A question to version control. -/
inductive Question where
  | topLevel
  | changedSince (revision : String)
  | notTracked
deriving DecidableEq, Repr

/-- The words of the question. -/
def Question.arguments : Question → List String
  | topLevel => ["rev-parse", "--show-toplevel"]
  | changedSince revision => ["diff", "--name-status", "-M", revision]
  | notTracked => ["ls-files", "--others", "--exclude-standard"]

/-- What version control answers; a code other than zero is a refusal. -/
structure Answer where
  code : Int
  output : List Char
  errors : String
deriving DecidableEq, Repr

/-- A question in a directory. -/
structure Asked where
  directory : Path
  question : Question
deriving DecidableEq, Repr

/-- How version control answers. -/
abbrev History := Asked → Answer

/-- Why the changed files are not known. -/
inductive HistoryError where
  /-- The place is in no working tree. -/
  | noRepository (place : String)
  /-- A question was refused. -/
  | refused (question : Question) (errors : String)
  /-- A path could not be followed. -/
  | path (error : PathError)
deriving DecidableEq, Repr

/-- The text of the error. -/
def HistoryError.message : HistoryError → String
  | noRepository place => "Not a Git repository: " ++ place
  | refused question errors =>
    "Git command failed: " ++ " ".intercalate question.arguments ++ "\n" ++ errors
  | path error => error.message

/-- A working tree under version control. -/
structure Repository where
  topLevel : Path
deriving DecidableEq, Repr

/-- A result with the questions that were asked for it. -/
abbrev Inquiry (α : Type) := ExceptT HistoryError (StateM (List Asked)) α

namespace Repository

/-- Asks a question; a refusal is an error. -/
def ask (history : History) (asked : Asked) (refusal : Answer → HistoryError) :
    Inquiry (List Char) := do
  modify (· ++ [asked])
  let answer := history asked
  if answer.code = 0 then return answer.output else throw (refusal answer)

/-- Follows a path. -/
def follow (tree : FileTree) (path : Path) : Inquiry Path :=
  match tree.resolve path with
  | .ok place => return place
  | .error error => throw (.path error)

/-- The working tree around a place that is seen from the directory `here`. -/
def around (history : History) (tree : FileTree) (here : Path) (place : String) :
    Inquiry Repository := do
  let directory ← follow tree (here.join place)
  let output ← ask history ⟨directory, .topLevel⟩ fun _ => .noRepository place
  return ⟨← follow tree (here.join (String.ofList (Text.trim output)))⟩

/-- The files that changed since a revision and are still there, committed or not, and then those
that are not tracked. -/
def changesSince (history : History) (repository : Repository) (revision : String) :
    Inquiry (List Change) := do
  let put (question : Question) : Inquiry (List Char) :=
    ask history ⟨repository.topLevel, question⟩ fun answer => .refused question answer.errors
  let changed ← put (.changedSince revision)
  let notTracked ← put .notTracked
  return Change.present changed notTracked

/-- The paths of source files among changes. -/
def sourcePaths (repository : Repository) (changes : List Change) : List Path :=
  (changes.filter (·.isSource)).map fun change => repository.topLevel.join change.filePath

/-- The paths of the source files that changed since a revision, in the working tree around a
place. -/
def changedSources (history : History) (tree : FileTree) (here : Path) (place revision : String) :
    Inquiry (List Path) := do
  let repository ← around history tree here place
  return repository.sourcePaths (← repository.changesSince history revision)

end Repository

end StructuralLint
