import StructuralLint.Proofs.Symbol.Carrying
import StructuralLint.Proofs.Tree.Lossless

/-!
# Resolution as a relation

The symbols of a parsed tree are those that the scopes of the tree ask for (`Tree.resolution`).
Every scope leads to one target for a name (`Tree.Scoped`), every pair of a target and a name that
some binding leads to has a symbol of its own (`Tree.Distinguishes`), and a name carries the symbol
of the pair that it leads to, or none (`Tree.Resolves`).
-/

namespace StructuralLint

namespace Tree

variable (tree : Tree) (table : SymbolTable)

/-- Some binding of a name leads to the scope. -/
def BoundAt (target : NodeId) (name : String) : Prop :=
  ∃ scope, tree.Binds scope name ∧ tree.Target name scope target

/-- Names belong to one scope each, and scopes lead to one target each. -/
structure Scoped : Prop where
  belongs : ∀ node name, tree.nameText? node = some name →
    ∃ scope, tree.IsScope scope ∧ tree.Belongs node scope
  belongs_unique : ∀ node scope scope', tree.Belongs node scope → tree.Belongs node scope' →
    scope = scope'
  target : ∀ scope name, tree.IsScope scope → ∃ target, tree.IsScope target ∧
    tree.Target name scope target
  target_unique : ∀ scope name target target', tree.Target name scope target →
    tree.Target name scope target' → target = target'
  says_unique : ∀ scope name saying saying', tree.Says name scope saying →
    tree.Says name scope saying' → saying = saying'

/-- Every scope and name that some binding leads to have a symbol of their own, and there are no
other symbols. -/
structure Distinguishes (symbolFor : NodeId → String → Option SymbolId) : Prop where
  bound : ∀ target name, (symbolFor target name).isSome = true ↔ tree.BoundAt target name
  apart : ∀ target name target' name' id, symbolFor target name = some id →
    symbolFor target' name' = some id → target = target' ∧ name = name'
  named : ∀ target name id, symbolFor target name = some id →
    ∃ symbol, table.symbols[id]? = some symbol ∧ symbol.name = name
  onto : ∀ id, id < table.symbols.length → ∃ target name, symbolFor target name = some id

/-- Every name carries the symbol of the scope that it leads to. -/
structure Resolves (symbolFor : NodeId → String → Option SymbolId) : Prop where
  binding : ∀ node name scope, tree.form? node = some (.name name true) →
    tree.Belongs node scope → ∃ target id, tree.Target name scope target ∧
      symbolFor target name = some id ∧ table.symbolOf? node = some id
  declared : ∀ isGlobal node name scope, tree.DeclaredBy isGlobal node →
    tree.nameText? node = some name → tree.Belongs node scope →
      ∃ target, tree.Target name scope target ∧ table.symbolOf? node = symbolFor target name
  reading : ∀ node name scope saying, tree.form? node = some (.name name false) →
    (∀ isGlobal, ¬tree.DeclaredBy isGlobal node) → tree.Belongs node scope →
      tree.Says name scope saying →
        ∃ target, tree.Target name saying target ∧ table.symbolOf? node = symbolFor target name
  silent : ∀ node name scope, tree.form? node = some (.name name false) →
    (∀ isGlobal, ¬tree.DeclaredBy isGlobal node) → tree.Belongs node scope →
      (∀ saying, ¬tree.Says name scope saying) → table.symbolOf? node = none

end Tree

namespace ScopeTable.Exact

variable {branch : Branch} {table : ScopeTable} {owners : List NodeId} {scope : NodeId}
  (exact : Exact branch table owners)
include exact

theorem exists_place (isScope : branch.toTree.IsScope scope) :
    ∃ place : ScopeId, owners[place]? = some scope :=
  List.mem_iff_getElem?.mp ((exact.opened scope).mpr isScope)

theorem isScope_of_found {place : ScopeId} (found : owners[place]? = some scope) :
    branch.toTree.IsScope scope :=
  (exact.opened scope).mp (List.mem_of_getElem? found)

theorem scoped_toTree : branch.toTree.Scoped where
  belongs node name spelled := by
    obtain ⟨mention, member, rfl⟩ := exact.complete node name spelled
    obtain ⟨scope, found, belongs⟩ := (exact.mentions mention member).scope
    exact ⟨scope, exact.isScope_of_found found, belongs⟩
  belongs_unique _ _ _ left right := left.unique exact.sound right
  target scope name isScope := by
    obtain ⟨place, found⟩ := exact.exists_place isScope
    obtain ⟨target, found', leads⟩ := exact.exists_target name found
    exact ⟨target, exact.isScope_of_found found', leads⟩
  target_unique _ _ _ _ left right := left.unique exact.sound right
  says_unique _ _ _ _ left right := left.unique exact.sound right

end ScopeTable.Exact

namespace Resolution

variable {branch : Branch} {table : ScopeTable} {owners : List NodeId}
  (exact : ScopeTable.Exact branch table owners)
include exact

/-- The meanings that have symbols are those that bindings lead to. -/
theorem boundAt_iff {target : NodeId} {name : String} :
    (symbolFor table owners target name).isSome = true ↔ branch.toTree.BoundAt target name := by
  constructor
  · intro numbered
    obtain ⟨id, numbered⟩ := Option.isSome_iff_exists.mp numbered
    obtain ⟨place, found, numbered⟩ := exists_place_of_symbolFor exact numbered
    obtain ⟨mention, member, ⟨kind, act⟩, same⟩ :=
      (isSome_number_iff (scope_lt_size exact)).mp (Option.isSome_iff_exists.mpr ⟨id, numbered⟩)
    cases same
    have faithful := exact.mentions mention member
    obtain ⟨scope, found', belongs⟩ := faithful.scope
    have does := faithful.act
    rw [act] at does
    obtain ⟨-, text, form⟩ := does
    have spelled := faithful.name
    rw [Tree.nameText?, form, Option.some.injEq] at spelled
    obtain ⟨target', found'', leads⟩ := exact.exists_target mention.name found'
    rw [found, Option.some.injEq] at found''
    exact ⟨scope, ⟨mention.node, belongs, spelled ▸ form⟩, found'' ▸ leads⟩
  · rintro ⟨scope, ⟨node, belongs, form⟩, leads⟩
    have bound : branch.toTree.nameText? node = some name := by rw [Tree.nameText?, form]
    obtain ⟨mention, member, -, found, rfl, does⟩ := exact.exists_mention_of_belongs belongs bound
    obtain ⟨kind, -, act⟩ := does.of_binds exact.sound form
    rw [← number_eq_symbolFor exact found leads]
    exact (isSome_number_iff (scope_lt_size exact)).mpr ⟨mention, member, ⟨kind, act⟩, rfl⟩

theorem distinguishes :
    branch.toTree.Distinguishes (resolve branch.toTree table) (symbolFor table owners) where
  bound _ _ := boundAt_iff exact
  apart target name target' name' id numbered numbered' := by
    obtain ⟨place, found, numbered⟩ := exists_place_of_symbolFor exact numbered
    obtain ⟨place', found', numbered'⟩ := exists_place_of_symbolFor exact numbered'
    have same := (number_eq_some.mp numbered).symm.trans (number_eq_some.mp numbered')
    rw [Option.some.injEq, Meaning.mk.injEq] at same
    obtain ⟨rfl, rfl⟩ := same
    exact ⟨Option.some.inj (found.symm.trans found'), rfl⟩
  named target name id numbered := by
    obtain ⟨place, -, numbered⟩ := exists_place_of_symbolFor exact numbered
    obtain ⟨usages, -, found⟩ := exists_symbol_of_number numbered
    exact ⟨_, found, rfl⟩
  onto id inside := by
    obtain ⟨meaning, usages, -, numbered, -⟩ :=
      exists_meaning_of_symbol (List.getElem?_eq_getElem inside)
    obtain ⟨mention, member, -, rfl⟩ :=
      (isSome_number_iff (scope_lt_size exact)).mp (Option.isSome_iff_exists.mpr ⟨id, numbered⟩)
    obtain ⟨scope, found, -⟩ := (exact.mentions mention member).scope
    obtain ⟨target, found', -⟩ := exact.exists_target mention.name found
    exact ⟨target, mention.name, (symbolFor_eq exact found').trans numbered⟩

theorem resolves :
    branch.toTree.Resolves (resolve branch.toTree table) (symbolFor table owners) where
  binding node name scope form belongs := by
    have spelled : branch.toTree.nameText? node = some name := by rw [Tree.nameText?, form]
    obtain ⟨mention, member, rfl, found, rfl, does⟩ :=
      exact.exists_mention_of_belongs belongs spelled
    obtain ⟨kind, -, act⟩ := does.of_binds exact.sound form
    obtain ⟨target, -, leads⟩ := exact.exists_target mention.name found
    obtain ⟨id, numbered⟩ := Option.isSome_iff_exists.mp
      ((boundAt_iff exact).mpr ⟨scope, ⟨mention.node, belongs, form⟩, leads⟩)
    refine ⟨target, id, leads, numbered, ?_⟩
    rw [symbolOf?_of_mention exact member, useOf?, act, ← numbered,
      ← number_eq_symbolFor exact found leads]
    rfl
  declared isGlobal node name scope declared spelled belongs := by
    obtain ⟨mention, member, rfl, found, rfl, does⟩ :=
      exact.exists_mention_of_belongs belongs spelled
    have act := does.of_declaredBy exact.sound declared
    obtain ⟨target, -, leads⟩ := exact.exists_target mention.name found
    refine ⟨target, leads, ?_⟩
    rw [symbolOf?_of_mention exact member, ← number_eq_symbolFor exact found leads, useOf?, act]
    cases isGlobal <;> rfl
  reading node name scope saying form undeclared belongs informs := by
    have spelled : branch.toTree.nameText? node = some name := by rw [Tree.nameText?, form]
    obtain ⟨mention, member, rfl, found, rfl, does⟩ :=
      exact.exists_mention_of_belongs belongs spelled
    have act := does.of_reads form undeclared
    cases result : table.declaring? mention.scope mention.name with
    | none => exact absurd informs (exact.not_says_of_declaring? found result saying)
    | some place =>
        obtain ⟨saying', found', informs'⟩ := exact.says_of_declaring? found result
        cases informs'.unique exact.sound informs
        obtain ⟨target, -, leads⟩ := exact.exists_target mention.name found'
        refine ⟨target, leads, ?_⟩
        rw [symbolOf?_of_mention exact member, ← number_eq_symbolFor exact found' leads, useOf?,
          act]
        simp [result]
  silent node name scope form undeclared belongs nowhere := by
    have spelled : branch.toTree.nameText? node = some name := by rw [Tree.nameText?, form]
    obtain ⟨mention, member, rfl, found, rfl, does⟩ :=
      exact.exists_mention_of_belongs belongs spelled
    have act := does.of_reads form undeclared
    rw [symbolOf?_of_mention exact member, useOf?, act]
    cases result : table.declaring? mention.scope mention.name with
    | none => simp
    | some place =>
        obtain ⟨saying, -, informs⟩ := exact.says_of_declaring? found result
        exact absurd informs (nowhere saying)

end Resolution

/-! ### Parsed trees -/

/-- The symbols of a parsed tree come from an exact table of its scopes. -/
theorem exists_exact_of_parse {source : List Char} {parsed : ParsedSource}
    (read : parse source true = .ok parsed) :
    ∃ branch table owners, parsed.tree = branch.toTree ∧
      parsed.symbols = Resolution.resolve branch.toTree table ∧
        ScopeTable.Exact branch table owners := by
  obtain ⟨program, tokens, -, same, symbols⟩ := exists_program_of_parse read
  have found := symbols rfl
  rw [SymbolTable.ofTree, same, Option.map_eq_some_iff] at found
  obtain ⟨table, collected, resolved⟩ := found
  obtain ⟨owners, exact⟩ := ScopeTable.exact_of_collect (Branch.sound_ofProgram program _)
    (show (Branch.ofProgram program _).whole.form = .file program.docstring from rfl) collected
  exact ⟨_, table, owners, same, resolved.symm, exact⟩

/-- **Names mean what their scopes say.** In a parsed tree every name belongs to one scope, and
every scope leads to one target for a name. There is one symbol for each target and name that
bindings lead to, and every name carries the symbol that it leads to. -/
theorem Tree.resolution {source : List Char} {parsed : ParsedSource}
    (read : parse source true = .ok parsed) :
    parsed.tree.Scoped ∧ ∃ symbolFor, parsed.tree.Distinguishes parsed.symbols symbolFor ∧
      parsed.tree.Resolves parsed.symbols symbolFor := by
  obtain ⟨branch, table, owners, same, resolved, exact⟩ := exists_exact_of_parse read
  rw [same, resolved]
  exact ⟨exact.scoped_toTree, _, Resolution.distinguishes exact, Resolution.resolves exact⟩

/-- A parameter that an inner function binds once more, and a name that nothing binds. -/
def nonlocalSource : List Char :=
  "def f(a):
    def g():
        nonlocal a
        a = b
".toList

/-- The inner function binds the parameter of the function around it: its names at nodes 22 and 26
carry the symbol of the parameter at node 5. The name at node 29, which nothing binds, carries
none. -/
theorem Tree.resolution_nonlocalSource :
    ∃ parsed, parse nonlocalSource true = .ok parsed ∧
      (parsed.tree.Scoped ∧ ∃ symbolFor, parsed.tree.Distinguishes parsed.symbols symbolFor ∧
        parsed.tree.Resolves parsed.symbols symbolFor) ∧
      parsed.symbols.symbols.map (·.name) = ["f", "a", "g"] ∧
        [2, 5, 14, 22, 26, 29].map parsed.tree.form? =
          [some (.name "f" true), some (.name "a" true), some (.name "g" true),
            some (.name "a" false), some (.name "a" true), some (.name "b" false)] ∧
        [2, 5, 14, 22, 26, 29].map parsed.symbols.symbolOf? =
          [some 0, some 1, some 2, some 1, some 1, none] := by
  obtain ⟨parsed, read, facts⟩ := Lists.exists_of_toOption_map
    (show (parse nonlocalSource true).toOption.map (fun parsed =>
        (parsed.symbols.symbols.map (·.name), [2, 5, 14, 22, 26, 29].map parsed.tree.form?,
          [2, 5, 14, 22, 26, 29].map parsed.symbols.symbolOf?)) =
      some (["f", "a", "g"],
        [some (.name "f" true), some (.name "a" true), some (.name "g" true),
          some (.name "a" false), some (.name "a" true), some (.name "b" false)],
        [some 0, some 1, some 2, some 1, some 1, none]) by decide +kernel)
  simp only [Prod.mk.injEq] at facts
  exact ⟨parsed, read, Tree.resolution read, facts⟩

end StructuralLint
