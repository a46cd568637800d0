import StructuralLint.Analysis.File
import StructuralLint.Report.Gate

/-!
# Analyzing projects

A run analyzes the source files below a path, all of them or those that changed since a revision.
Directories that hold no sources of the project are left out: hidden ones and those named in
`skippedDirectories`. What is found passes the gate.
-/

namespace StructuralLint

/-- The names of directories that are never searched. -/
def skippedDirectories : List String :=
  ["venv", ".venv", "__pycache__", "node_modules", "site-packages", ".git", ".tox", ".nox",
    ".mypy_cache", ".pytest_cache", "build", "dist"]

/-- Whether a directory is left out by its name. -/
def isSkippedName (name : String) : Bool :=
  name.toList.head? = some '.' || skippedDirectories.contains name

/-- Whether the way down to a file leads through a directory that is left out. -/
def isSkippedWay (names : List String) : Bool := names.dropLast.any isSkippedName

/-- Whether a file is analyzed as a part of what is at `place`. The file counts where it really is,
not where a link to it is. -/
def isCollected (tree : FileTree) (place file : Path) : Except PathError Bool := do
  match (← tree.resolve file).relativeTo? place with
  | some names => return !isSkippedWay names
  | none => return false

/-- The source files at a place: the place itself if it is a file. -/
def sourcesAt (tree : FileTree) (place : Path) : List Path :=
  if tree.isFile place then [place] else tree.below place Change.namesSource

/-- The directory in which a place is worked on. -/
def workingDirectory (tree : FileTree) (place : Path) : Path :=
  if tree.isDirectory place then place else place.parent

/-- The source files at a place that are candidates: all, or those that changed since a revision
and are still there. -/
def candidates (history : History) (tree : FileTree) (here place : Path) :
    (since : Option String) → Run (List Path)
  | none => return sourcesAt tree place
  | some revision => do
    let directory := workingDirectory tree place
    let changed ←
      Run.ofInquiry (Repository.changedSources history tree here directory.text revision)
    return changed.filter tree.isFile

/-- The files to analyze at a place, which is a path with all links followed. -/
def collectFiles (history : History) (tree : FileTree) (here place : Path)
    (since : Option String) : Run (List Path) := do
  let files ← candidates history tree here place since
  Run.ofPath (files.filterM (isCollected tree place))

/-- The issues of several files, file by file. -/
def analyzeFiles (tree : FileTree) (base : Path) (files : List Path) : Run (List Issue) := do
  let found ← files.mapM (analyzeFile (Dispatcher.ofChecks defaultChecks) tree base)
  return found.flatten

/-- The cap of a run: the one that is asked for, or else the one in the environment. -/
def effectiveCap (setting : Option (List Char)) : Option Int → Run (Option Int)
  | some limit => return some limit
  | none =>
    match environmentCap setting with
    | .ok limit => return limit.map Int.ofNat
    | .error error => throw (.cap error)

/-- The issues of the source files at a path. `setting` is the cap in the environment. -/
def analyzeProject (history : History) (tree : FileTree) (here : Path)
    (setting : Option (List Char)) (path : Path) (since : Option String) (limit : Option Int) :
    Run (List Issue) := do
  let limit ← effectiveCap setting limit
  let place ← Run.ofPath (tree.resolve path)
  let base := if tree.isFile place then place.parent else place
  let files ← collectFiles history tree here place since
  let issues ← analyzeFiles tree base files
  return gate issues limit

end StructuralLint
