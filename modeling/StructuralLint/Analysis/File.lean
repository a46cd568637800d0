import StructuralLint.Analysis.Source
import StructuralLint.History.Repository
import StructuralLint.Settings
import StructuralLint.Text.Utf8

/-!
# Analyzing files

A file is read, decoded and analyzed. A file that holds no text, or text that is no program, is
skipped, and the run goes on. All other errors end the run. Whether it ends well or not, a run
leaves behind what it asked version control and which files it skipped.
-/

namespace StructuralLint

/-- What a run leaves behind besides its result. -/
structure RunLog where
  asked : List Asked
  /-- The skipped files, as they are shown. -/
  skipped : List String

namespace RunLog

/-- Nothing has happened. -/
def empty : RunLog := ⟨[], []⟩

end RunLog

/-- Why a run ends early. -/
inductive RunError where
  | cap (error : CapError)
  | history (error : HistoryError)
  /-- A path cannot be followed or read. -/
  | path (error : PathError)
  | analysis (error : AnalysisError)
deriving DecidableEq, Repr

/-- A result with what the run leaves behind. -/
abbrev Run (α : Type) := ExceptT RunError (StateM RunLog) α

namespace Run

/-- Notes a skipped file. -/
def skip (shown : String) : Run Unit := modify fun log =>
    { log with skipped := log.skipped ++ [shown] }

/-- An inquiry as a part of a run. -/
def ofInquiry {α : Type} (inquiry : Inquiry α) : Run α := do
  let (result, asked) := inquiry.run.run []
  modify fun log => { log with asked := log.asked ++ asked }
  match result with
  | .ok value => return value
  | .error error => throw (.history error)

/-- A path operation as a part of a run. -/
def ofPath {α : Type} : Except PathError α → Run α
  | .ok value => return value
  | .error error => throw (.path error)

end Run

/-- Whether a file is skipped over the error: its text is no program. A scan that does not reach
the end of the text, a part that is missing and a name that differs from its token end the run. -/
def AnalysisError.skips : AnalysisError → Bool
  | .tree (.source _) => true
  | .tree (.scan (.unmatchedIndent _)) => true
  | _ => false

/-- The source text in the bytes of a file. -/
def sourceText? (bytes : ByteArray) : Option (List Char) :=
  (Text.decodeUtf8? bytes).map Text.unifyLineBreaks

/-- The issues of the bytes of a file, or none if the file is to be skipped. -/
def analyzeBytes (dispatcher : Dispatcher) (bytes : ByteArray) (shown : String) :
    Except AnalysisError (Option (List Issue)) :=
  match sourceText? bytes with
  | none => .ok none
  | some source =>
    match analyzeSourceWith dispatcher source shown with
    | .ok issues => .ok (some issues)
    | .error error => if error.skips then .ok none else .error error

/-- The issues of a file. It is shown as seen from the directory `base`. -/
def analyzeFile (dispatcher : Dispatcher) (tree : FileTree) (base path : Path) :
    Run (List Issue) := do
  let shown := path.shownFrom base
  let bytes ← Run.ofPath (tree.read path)
  match analyzeBytes dispatcher bytes shown with
  | .ok (some issues) => return issues
  | .ok none => do
    Run.skip shown
    return []
  | .error error => throw (.analysis error)

end StructuralLint
