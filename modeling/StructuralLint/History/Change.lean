import StructuralLint.Text.Fields
import StructuralLint.Text.Line

/-!
# Changes

What version control tells of changed files comes in two listings. One has a line for every file
that changed since a revision: a status and the path, or the old and the new path, with tabs
between them. The other has a line for every file that is not tracked.
-/

namespace StructuralLint

/-- A file that changed since some revision. -/
structure Change where
  /-- The path below the top of the working tree. -/
  filePath : String
  /-- A letter for what happened to the file, `?` for a file that is not tracked. -/
  status : String
deriving DecidableEq, Repr

namespace Change

/-- The ending of the names of source files. -/
def sourceEnding : String := ".py"

/-- Whether a name is that of a source file. -/
def namesSource (name : String) : Bool := sourceEnding.toList.isSuffixOf name.toList

/-- Whether the file is a source file. -/
def isSource (change : Change) : Bool := namesSource change.filePath

/-- Whether the file is gone. -/
def isDeleted (change : Change) : Bool := change.status = "D"

/-- The change that a line tells: the status is its first letter and the path is what stands after
the last tab, the new path if there are two. A line without a tab tells nothing. -/
def ofLine? (line : List Char) : Option Change :=
  match Text.fields (· = '\t') line with
  | status :: path :: more =>
    some ⟨String.ofList ((path :: more).getLast (by simp)), String.ofList (status.take 1)⟩
  | _ => none

/-- A file that is not tracked. -/
def untracked (path : List Char) : Change := ⟨String.ofList path, "?"⟩

/-- The changes that the two listings tell, in their order. -/
def listed (changed notTracked : List Char) : List Change :=
  (Text.splitLines changed).filterMap ofLine?
    ++ ((Text.splitLines notTracked).filter (· ≠ [])).map untracked

/-- The changes whose files are still there. -/
def present (changed notTracked : List Char) : List Change :=
  (listed changed notTracked).filter fun change => !change.isDeleted

end Change

end StructuralLint
