import StructuralLint.Grammar.Statement
import StructuralLint.Token.Stream
import StructuralLint.Tree.Branch
import StructuralLint.Tree.Drafting

/-!
# The tree of a source text

A source text is read twice: strictly, as a program, which gives the structure, and tolerantly, as
a token stream, which gives the leaves. The two readings differ in what they refuse, so a text can
fail in either one.
-/

namespace StructuralLint

namespace Branch

/-- The root of a program: its statements, with every token of the text handed out. -/
def ofProgram (program : Program) (text : SourceText) : Branch :=
  let statements := Draft.ofStmts text program.body
  let parts := (Draft.playing .statement statements).zipIdx.map fun ((role, part), place) =>
    ((⟨role, place⟩ : Slot), part)
  .node (.file program.docstring) (.of [] [(.statement, statements)]) (ofParts parts text.tokens)

end Branch

/-- Why a source text has no tree. -/
inductive TreeError where
  /-- It is no program. -/
  | source (error : SourceError)
  /-- It has no token stream. -/
  | scan (error : ScanError)
  /-- A function or a class has no name among the tokens, so that no symbol can be given to it. -/
  | namelessDefinition
deriving DecidableEq, Repr

/-- The tree of a source text, before any symbol is looked for. -/
def Tree.ofSource (source : List Char) : Except TreeError Tree :=
  match Program.read source with
  | .error error => .error (.source error)
  | .ok program =>
    match lex source with
    | .error error => .error (.scan error)
    | .ok tokens => .ok (Branch.ofProgram program (.ofTokens source tokens)).toTree

end StructuralLint
