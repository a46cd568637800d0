import StructuralLint.Proofs.Symbol.Resolution

/-!
# Symbols and names agree

A name carries a symbol exactly if the symbol lists the name among its usages, and then it does so
once (`SymbolTable.Agrees`). The symbol lists the bindings first, so declarations and reads that are
added later do not change what its bindings say about its kind.
-/

namespace StructuralLint

/-- The names of a tree carry the symbols that list them. -/
structure SymbolTable.Agrees (table : SymbolTable) (tree : Tree) : Prop where
  carried : ∀ node id, table.symbolOf? node = some id ↔
    ∃ symbol, table.symbols[id]? = some symbol ∧ ∃ usage ∈ symbol.usages, usage.node = node
  once : ∀ (id : SymbolId) (symbol : Symbol), table.symbols[id]? = some symbol →
    (symbol.usages.map (·.node)).Nodup
  apart : ∀ (id id' : SymbolId) (symbol symbol' : Symbol), table.symbols[id]? = some symbol →
    table.symbols[id']? = some symbol' → ∀ usage ∈ symbol.usages, ∀ usage' ∈ symbol'.usages,
      usage.node = usage'.node → id = id'
  spelled : ∀ symbol ∈ table.symbols, ∀ usage ∈ symbol.usages,
    tree.nameText? usage.node = some symbol.name
  binds : ∀ symbol ∈ table.symbols, ∀ usage ∈ symbol.usages,
    (usage.kind.binds = true ↔ tree.form? usage.node = some (.name symbol.name true))
  bound : ∀ node name, tree.form? node = some (.name name true) →
    ∃ id, table.symbolOf? node = some id
  bindings : ∀ symbol ∈ table.symbols, symbol.bindings ≠ []
  function : ∀ symbol ∈ table.symbols, (symbol.kind = .function ↔
    ∀ usage ∈ symbol.bindings, usage.kind = .functionDeclaration)
  classDef : ∀ symbol ∈ table.symbols, (symbol.kind = .classDef ↔
    ∀ usage ∈ symbol.bindings, usage.kind = .classDeclaration)

/-! ### Kinds of symbols -/

namespace SymbolKind

variable {usages usages' : List Usage}

theorem ofUsages_eq_function (nonempty : usages.filter (·.kind.binds) ≠ []) :
    ofUsages usages = .function ↔
      ∀ usage ∈ usages.filter (·.kind.binds), usage.kind = .functionDeclaration := by
  unfold ofUsages
  generalize usages.filter (·.kind.binds) = bindings at nonempty ⊢
  rw [if_neg (by simpa using nonempty)]
  by_cases functions : ∀ usage ∈ bindings, usage.kind = .functionDeclaration
  · rw [if_pos (by simpa using functions)]
    simpa using functions
  · rw [if_neg (by simpa using functions)]
    refine ⟨fun same => ?_, fun all => absurd all functions⟩
    split at same <;> cases same

theorem ofUsages_eq_classDef (nonempty : usages.filter (·.kind.binds) ≠ []) :
    ofUsages usages = .classDef ↔
      ∀ usage ∈ usages.filter (·.kind.binds), usage.kind = .classDeclaration := by
  unfold ofUsages
  generalize usages.filter (·.kind.binds) = bindings at nonempty ⊢
  rw [if_neg (by simpa using nonempty)]
  by_cases functions : ∀ usage ∈ bindings, usage.kind = .functionDeclaration
  · rw [if_pos (by simpa using functions)]
    refine ⟨fun same => (by cases same), fun classes => ?_⟩
    -- some usage binds, and it is no declaration of two kinds
    obtain ⟨usage, member⟩ := List.exists_mem_of_ne_nil _ nonempty
    have both := (functions usage member).symm.trans (classes usage member)
    cases both
  · rw [if_neg (by simpa using functions)]
    by_cases classes : ∀ usage ∈ bindings, usage.kind = .classDeclaration
    · rw [if_pos (by simpa using classes)]
      simpa using classes
    · rw [if_neg (by simpa using classes)]
      exact ⟨fun same => (by cases same), fun all => absurd all classes⟩

end SymbolKind

namespace Resolution

variable {branch : Branch} {table : ScopeTable} {owners : List NodeId} {meaning : Meaning}
  {usages : List Usage} {usage : Usage} {symbol : Symbol}

/-- Uses that refer to a meaning do not bind. -/
theorem not_binds_of_referring (member : (meaning, usage) ∈ referring table) :
    usage.kind.binds = false := by
  rcases List.mem_append.mp member with declares | reads
  · obtain ⟨mention, -, refers⟩ := List.mem_filterMap.mp declares
    obtain ⟨meaning', -, same⟩ := Option.map_eq_some_iff.mp refers
    cases same
    rfl
  · obtain ⟨mention, -, refers⟩ := List.mem_filterMap.mp reads
    obtain ⟨meaning', -, same⟩ := Option.map_eq_some_iff.mp refers
    cases same
    rfl

/-- The bindings of a symbol are those that are put together under its meaning. -/
theorem bindings_symbolWith :
    (symbolWith table (meaning, usages)).usages.filter (·.kind.binds) =
      usages.filter (·.kind.binds) := by
  have none :
      (((referring table).filter (·.1 = meaning)).map (·.2)).filter (·.kind.binds) = [] := by
    apply List.filter_eq_nil_iff.mpr
    intro usage member
    obtain ⟨⟨meaning', usage'⟩, among, rfl⟩ := List.mem_map.mp member
    rw [not_binds_of_referring (List.mem_filter.mp among).1]
    exact Bool.false_ne_true
  rw [symbolWith, List.filter_append, none, List.append_nil]

theorem mem_usages_symbolWith (member : (meaning, usages) ∈ arranged branch.toTree table) :
    usage ∈ (symbolWith table (meaning, usages)).usages ↔
      (meaning, usage) ∈ uses branch.toTree table := by
  rw [usages_symbolWith member, List.mem_map]
  constructor
  · rintro ⟨⟨meaning', usage'⟩, among, rfl⟩
    obtain ⟨among, same⟩ := List.mem_filter.mp among
    exact of_decide_eq_true same ▸ among
  · intro among
    exact ⟨_, List.mem_filter.mpr ⟨among, decide_eq_true rfl⟩, rfl⟩

section

variable (exact : ScopeTable.Exact branch table owners)
include exact

/-- A use is of a name that is spelled like the meaning, and it binds if the name does. -/
theorem faithful_of_mem_uses (member : (meaning, usage) ∈ uses branch.toTree table) :
    branch.toTree.nameText? usage.node = some meaning.name ∧
      (usage.kind.binds = true ↔
        branch.toTree.form? usage.node = some (.name meaning.name true)) := by
  obtain ⟨mention, among, makes⟩ := (mem_uses_iff exact).mp member
  have faithful := exact.mentions mention among
  obtain ⟨same, named⟩ := node_of_useOf? makes
  have spelled := faithful.name
  rw [← same, ← named] at spelled
  refine ⟨spelled, ?_⟩
  constructor
  · intro binds
    have does := faithful.act
    unfold useOf? at makes
    split at makes
    · rename_i kind act
      rw [act] at does
      obtain ⟨-, text, form⟩ := does
      rw [← same] at form
      rw [Tree.nameText?, form, Option.some.injEq] at spelled
      exact spelled ▸ form
    · cases makes
      cases binds
    · cases makes
      cases binds
    · obtain ⟨scope, -, made⟩ := Option.map_eq_some_iff.mp makes
      cases made
      cases binds
  · intro form
    rw [same] at form
    obtain ⟨kind, binds, act⟩ := faithful.act.of_binds exact.sound form
    rw [useOf?, act] at makes
    cases makes
    exact binds

/-- What is put together under a meaning binds. -/
theorem binds_of_mem_arranged (member : (meaning, usages) ∈ arranged branch.toTree table)
    (among : usage ∈ usages) : usage.kind.binds = true := by
  have listed : (meaning, usage) ∈ Lists.spread (arranged branch.toTree table) :=
    Lists.mem_spread.mpr ⟨usages, member, among⟩
  have bindings := (Lists.spread_perm_of_values (sortUsages branch.toTree) sortUsages_perm).trans
    (spread_meanings_perm (scope_lt_size exact))
  obtain ⟨mention, present, acts⟩ := List.mem_filterMap.mp (bindings.mem_iff.mp listed)
  obtain ⟨usage', binds, same⟩ := Option.map_eq_some_iff.mp acts
  cases same
  have does := (exact.mentions mention present).act
  unfold boundUsage? at binds
  split at binds
  · rename_i kind act
    cases binds
    rw [act] at does
    exact does.1 ▸ branch.toTree.binds_bindingKind mention.node
  · cases binds

theorem bindings_ne_nil (member : (meaning, usages) ∈ arranged branch.toTree table) :
    usages.filter (·.kind.binds) ≠ [] := by
  rw [List.filter_eq_self.mpr fun usage => binds_of_mem_arranged exact member]
  exact grouped_arranged.inhabited _ member

theorem agrees : (resolve branch.toTree table).Agrees branch.toTree := by
  have known {symbol : Symbol} (member : symbol ∈ (resolve branch.toTree table).symbols) :
      ∃ meaning usages, (meaning, usages) ∈ arranged branch.toTree table ∧
        symbol = symbolWith table (meaning, usages) := by
    rw [symbols_resolve] at member
    obtain ⟨⟨meaning, usages⟩, among, rfl⟩ := List.mem_map.mp member
    exact ⟨meaning, usages, among, rfl⟩
  have carried : ∀ node id, (resolve branch.toTree table).symbolOf? node = some id ↔
      ∃ symbol, (resolve branch.toTree table).symbols[id]? = some symbol ∧
        ∃ usage ∈ symbol.usages, usage.node = node := by
    intro node id
    rw [symbolOf?_eq_some_iff exact]
    constructor
    · rintro ⟨⟨meaning, usage⟩, member, same, numbered⟩
      obtain ⟨usages, among, found⟩ := exists_symbol_of_number numbered
      exact ⟨_, found, usage, (mem_usages_symbolWith among).mpr member, same⟩
    · rintro ⟨symbol, found, usage, member, same⟩
      obtain ⟨meaning, usages, among, numbered, rfl⟩ := exists_meaning_of_symbol found
      exact ⟨(meaning, usage), (mem_usages_symbolWith among).mp member, same, numbered⟩
  refine
    { carried := carried
      once := ?_
      apart := ?_
      spelled := ?_
      binds := ?_
      bound := ?_
      bindings := ?_
      function := ?_
      classDef := ?_ }
  · intro id symbol found
    obtain ⟨meaning, usages, among, -, rfl⟩ := exists_meaning_of_symbol found
    rw [usages_symbolWith among, List.map_map]
    exact (nodup_uses exact).sublist (List.filter_sublist.map _)
  · intro id id' symbol symbol' found found' usage member usage' member' same
    have left := (carried usage.node id).mpr ⟨symbol, found, usage, member, rfl⟩
    have right := (carried usage.node id').mpr ⟨symbol', found', usage', member', same.symm⟩
    exact Option.some.inj (left.symm.trans right)
  · intro symbol listed usage member
    obtain ⟨meaning, usages, among, rfl⟩ := known listed
    exact (faithful_of_mem_uses exact ((mem_usages_symbolWith among).mp member)).1
  · intro symbol listed usage member
    obtain ⟨meaning, usages, among, rfl⟩ := known listed
    exact (faithful_of_mem_uses exact ((mem_usages_symbolWith among).mp member)).2
  · intro node name form
    have spelled : branch.toTree.nameText? node = some name := by rw [Tree.nameText?, form]
    obtain ⟨scope, -, belongs⟩ := exact.scoped_toTree.belongs node name spelled
    obtain ⟨target, id, -, -, carries⟩ := (resolves exact).binding node name scope form belongs
    exact ⟨id, carries⟩
  · intro symbol listed
    obtain ⟨meaning, usages, among, rfl⟩ := known listed
    rw [Symbol.bindings, bindings_symbolWith]
    exact bindings_ne_nil exact among
  · intro symbol listed
    obtain ⟨meaning, usages, among, rfl⟩ := known listed
    rw [Symbol.bindings, bindings_symbolWith]
    exact SymbolKind.ofUsages_eq_function (bindings_ne_nil exact among)
  · intro symbol listed
    obtain ⟨meaning, usages, among, rfl⟩ := known listed
    rw [Symbol.bindings, bindings_symbolWith]
    exact SymbolKind.ofUsages_eq_classDef (bindings_ne_nil exact among)

end

end Resolution

/-- **Symbols and names agree.** In a parsed tree a name carries a symbol exactly if the symbol
lists it, which it does once and no other symbol does. Usages are spelled like their symbol, every
name that binds carries a symbol, every symbol has a binding, and its kind is what all its bindings
say. -/
theorem SymbolTable.agreement {source : List Char} {parsed : ParsedSource}
    (read : parse source true = .ok parsed) : parsed.symbols.Agrees parsed.tree := by
  obtain ⟨branch, table, owners, same, resolved, exact⟩ := exists_exact_of_parse read
  rw [same, resolved]
  exact Resolution.agrees exact

/-- A function, a class and a name that is bound to both. -/
def redefinedSource : List Char :=
  "def f(): pass
class C: pass
def g(): return f
class g: pass
".toList

/-- The function is read at node 26. The name that is a function at node 20 and a class at node 32
has a symbol of neither kind. -/
theorem SymbolTable.agreement_redefinedSource :
    ∃ parsed, parse redefinedSource true = .ok parsed ∧ parsed.symbols.Agrees parsed.tree ∧
      parsed.symbols.symbols =
        [⟨"f", .function, [⟨2, .functionDeclaration⟩, ⟨26, .other⟩]⟩,
          ⟨"C", .classDef, [⟨12, .classDeclaration⟩]⟩,
          ⟨"g", .other, [⟨20, .functionDeclaration⟩, ⟨32, .classDeclaration⟩]⟩] ∧
      [2, 12, 20, 26, 32].map parsed.symbols.symbolOf? =
        [some 0, some 1, some 2, some 0, some 2] := by
  obtain ⟨parsed, read, facts⟩ := Lists.exists_of_toOption_map
    (show (parse redefinedSource true).toOption.map (fun parsed =>
        (parsed.symbols.symbols, [2, 12, 20, 26, 32].map parsed.symbols.symbolOf?)) =
      some ([⟨"f", .function, [⟨2, .functionDeclaration⟩, ⟨26, .other⟩]⟩,
          ⟨"C", .classDef, [⟨12, .classDeclaration⟩]⟩,
          ⟨"g", .other, [⟨20, .functionDeclaration⟩, ⟨32, .classDeclaration⟩]⟩],
        [some 0, some 1, some 2, some 0, some 2]) by decide +kernel)
  simp only [Prod.mk.injEq] at facts
  exact ⟨parsed, read, SymbolTable.agreement read, facts⟩

end StructuralLint
