import StructuralLint.Parse
import StructuralLint.Proofs.Lists

/-!
# What a source text is read as

A parsed source text is read twice, as a program and as a token stream, and its tree is the one of
the two together (`exists_read_of_parse`). For a source text that is known to be read, the two
readings can be named without the proof that they exist: `Program.readOrEmpty` and
`SourceText.lexOrEmpty`.
-/

namespace StructuralLint

variable {source : List Char} {withSymbols : Bool}

/-- The program that a source text is read as, and one without statements if it cannot be read. -/
def Program.readOrEmpty (source : List Char) : Program :=
  (Program.read source).toOption.getD ⟨[]⟩

/-- A source text with its tokens, and without any if it cannot be scanned. -/
def SourceText.lexOrEmpty (source : List Char) : SourceText :=
  .ofTokens source ((lex source).toOption.getD [])

theorem Program.readOrEmpty_of_read {program : Program}
    (known : Program.read source = .ok program) : Program.readOrEmpty source = program := by
  rw [readOrEmpty, known]
  rfl

theorem SourceText.lexOrEmpty_of_lex {tokens : List Token} (lexed : lex source = .ok tokens) :
    SourceText.lexOrEmpty source = .ofTokens source tokens := by
  rw [lexOrEmpty, lexed]
  rfl

/-- The tokens of a source text are the stream of a scan. -/
theorem exists_scan_of_lex {tokens : List Token} (read : lex source = .ok tokens) :
    ∃ raws, scan source = .ok raws ∧ tokens = Token.stream raws := by
  rw [lex] at read
  cases scanned : scan source with
  | error error =>
      rw [scanned] at read
      cases read
  | ok raws =>
      rw [scanned] at read
      cases read
      exact ⟨raws, rfl, rfl⟩

/-- What is parsed from a source text is read from it as a program and as a token stream. -/
theorem exists_read_of_parse {parsed : ParsedSource}
    (read : parse source withSymbols = .ok parsed) :
    ∃ program tokens, Program.read source = .ok program ∧ lex source = .ok tokens ∧
      parsed.tree = (Branch.ofProgram program (.ofTokens source tokens)).toTree ∧
      (withSymbols = true → SymbolTable.ofTree parsed.tree = some parsed.symbols) := by
  obtain ⟨tree, built, made⟩ := Lists.exists_of_bind read
  have same : parsed.tree = tree ∧
      (withSymbols = true → SymbolTable.ofTree parsed.tree = some parsed.symbols) := by
    rw [ParsedSource.ofTree] at made
    split at made
    · split at made
      · rename_i table found
        cases made
        exact ⟨rfl, fun _ => found⟩
      · cases made
    · rename_i without
      cases made
      exact ⟨rfl, fun asked => absurd asked without⟩
  rw [Tree.ofSource] at built
  split at built
  · cases built
  · rename_i program known
    split at built
    · cases built
    · rename_i tokens lexed
      cases built
      exact ⟨program, tokens, known, lexed, same⟩

/-- A tree that is parsed from a source text is the one of its program and its token stream. -/
theorem exists_program_of_parse {parsed : ParsedSource}
    (read : parse source withSymbols = .ok parsed) :
    ∃ program tokens, lex source = .ok tokens ∧
      parsed.tree = (Branch.ofProgram program (.ofTokens source tokens)).toTree ∧
      (withSymbols = true → SymbolTable.ofTree parsed.tree = some parsed.symbols) := by
  obtain ⟨program, tokens, -, found⟩ := exists_read_of_parse read
  exact ⟨program, tokens, found⟩

theorem exists_parsed_of_isOk (accepted : (parse source withSymbols).isOk = true) :
    ∃ parsed, parse source withSymbols = .ok parsed := by
  cases read : parse source withSymbols with
  | error error =>
      rw [read] at accepted
      cases accepted
  | ok parsed => exact ⟨parsed, rfl⟩

end StructuralLint
