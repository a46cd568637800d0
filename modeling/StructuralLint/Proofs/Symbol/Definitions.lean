import StructuralLint.Proofs.Symbol.Shown

/-!
# What definitions tell

In a parsed tree every definition tells what its name means, as far as the tree has names for what
binds it (`SymbolTable.definitions`). Without symbols no definition tells anything.
-/

namespace StructuralLint

namespace SymbolTable

variable {source : List Char} {parsed : ParsedSource} {expected : SymbolKind} {definition : NodeId}

/-- What a definition answers that there are no symbols for. -/
def Refuses (table : SymbolTable) (tree : Tree) (expected : SymbolKind) (definition : NodeId) :
    Prop :=
  match tree.attribute? definition .name with
  | none => table.ofDefinition tree expected definition = .error .nameless
  | some name => ∃ text, tree.form? name = some (.name text true) ∧
      table.ofDefinition tree expected definition = .error (.unresolved expected text)

theorem symbols_of_parse_without (read : parse source false = .ok parsed) :
    parsed.symbols = .empty := by
  cases built : Tree.ofSource source with
  | error error =>
      rw [parse, built] at read
      cases read
  | ok tree =>
      rw [parse, built] at read
      cases read
      rfl

/-- A parsed tree shows its program, and every definition in it tells what its name means. -/
theorem tells_of_parse (read : parse source true = .ok parsed) :
    ∃ program tokens shows, Program.read source = .ok program ∧ lex source = .ok tokens ∧
      program.Shown (.ofTokens source tokens) parsed.tree shows ∧
        ∀ expected definition, parsed.tree.IsDefinition expected definition →
          ∃ text target, parsed.symbols.Tells parsed.tree expected definition text target := by
  obtain ⟨program, tokens, known, lexed, same, symbols⟩ := exists_read_of_parse read
  have found := symbols rfl
  rw [ofTree, same, Option.map_eq_some_iff] at found
  obtain ⟨table, collected, resolved⟩ := found
  have sound := Branch.sound_ofProgram program (.ofTokens source tokens)
  have file : (Branch.ofProgram program (.ofTokens source tokens)).whole.form =
    .file program.docstring := rfl
  obtain ⟨owners, exact⟩ := ScopeTable.exact_of_collect sound file collected
  have named := ScopeTable.definitionsNamed_of_collect sound file collected
  rw [same, ← resolved]
  refine ⟨program, tokens, _, known, lexed, Program.shown exact ?_ named,
    fun expected definition isDefinition => ?_⟩
  · exact ⟨.inr ⟨program, rfl⟩, _, _, Branch.lies_whole _, (Branch.root_toTree _).symm,
      Draft.completes_ofProgram program _⟩
  · obtain ⟨placed, above, lies, rfl, -, defines⟩ := isDefinition.exists_lies
    obtain ⟨name, names⟩ :=
      Option.isSome_iff_exists.mp (named _ _ lies.form?_toTree defines)
    exact Resolution.tells exact ⟨isDefinition, names⟩

/-- Without symbols every definition says which one it misses, if it has kept its name. -/
theorem refuses_of_parse (read : parse source false = .ok parsed)
    (isDefinition : parsed.tree.IsDefinition expected definition) :
    parsed.symbols.Refuses parsed.tree expected definition := by
  obtain ⟨program, tokens, -, same, -⟩ := exists_program_of_parse read
  rw [symbols_of_parse_without read, same, Refuses]
  rw [same] at isDefinition
  split
  · rename_i absent
    rw [ofDefinition, absent]
  · rename_i names
    obtain ⟨placed, above, part, text, lies, -, -, among, rfl, form⟩ :=
      Tree.Defines.exists_part (Branch.sound_ofProgram program (.ofTokens source tokens))
        ⟨isDefinition, names⟩
    refine ⟨text, form, ?_⟩
    have unknown : SymbolTable.empty.symbolOf? part.id = none := rfl
    simp only [ofDefinition, names, unknown, Tree.nameText?, form, Option.getD_some]

/-- **Definitions tell what they mean.** A tree that is parsed with symbols shows its program, but
for the names that patterns capture and those that meet no token. Each definition in it answers,
with the symbol that all definitions of its kind share unless a name that is bound for anything else
leads to the same scope. Without symbols a definition says which symbol it misses. -/
theorem definitions (source : List Char) :
    (∀ parsed, parse source true = .ok parsed →
      ∃ program tokens shows, Program.read source = .ok program ∧ lex source = .ok tokens ∧
        program.Shown (.ofTokens source tokens) parsed.tree shows ∧
          ∀ expected definition, parsed.tree.IsDefinition expected definition →
            ∃ text target, parsed.symbols.Tells parsed.tree expected definition text target) ∧
    (∀ parsed, parse source false = .ok parsed → ∀ expected definition,
      parsed.tree.IsDefinition expected definition →
        parsed.symbols.Refuses parsed.tree expected definition) :=
  ⟨fun _ read => tells_of_parse read, fun _ read _ _ => refuses_of_parse read⟩

/-- A function, and a pattern that captures under its name. -/
def capturedSource : List Char :=
  "def f(): pass
match x:
    case f: pass
".toList

/-- Whether the second of two statements captures under a name with its first pattern. -/
def capturesAs (name : String) : Program → Bool
  | ⟨[_, .matchBlock _ _ [.mk (.capture _ (some captured)) _ _]]⟩ => captured == name
  | _ => false

/-- The file has a capture of the name, yet the function, which is node 8, answers with a symbol. -/
theorem definitions_capturedSource :
    ∃ parsed program, parse capturedSource true = .ok parsed ∧
      Program.read capturedSource = .ok program ∧
        (Program.Region.file program).Has (.binds (.captured "f")) ∧
          (∃ text target, parsed.symbols.Tells parsed.tree .function 8 text target) ∧
            parsed.symbols.ofDefinition parsed.tree .function 8 = .ok (some 0) := by
  obtain ⟨parsed, read, facts⟩ := Lists.exists_of_toOption_map
    (show (parse capturedSource true).toOption.map (fun parsed =>
        (parsed.tree.form? 8, parsed.symbols.ofDefinition parsed.tree .function 8)) =
      some (some (.function false), .ok (some 0)) by decide +kernel)
  obtain ⟨program, known, captures⟩ := Lists.exists_of_toOption_map
    (show (Program.read capturedSource).toOption.map (capturesAs "f") = some true by
      decide +kernel)
  simp only [Prod.mk.injEq] at facts
  obtain ⟨form, answer⟩ := facts
  obtain ⟨-, -, -, -, -, -, tells⟩ := (definitions capturedSource).1 parsed read
  refine ⟨parsed, program, read, known, ?_, tells .function 8 ⟨false, form⟩, answer⟩
  rw [capturesAs.eq_def] at captures
  split at captures
  · rw [← eq_of_beq captures]
    exact .inr (.inr ⟨_, List.mem_cons_of_mem _ List.mem_cons_self,
      .pattern List.mem_cons_self (.own rfl rfl)⟩)
  · cases captures

end SymbolTable

end StructuralLint
