import StructuralLint.Proofs.Symbol.Agreement
import StructuralLint.Proofs.Symbol.Naming
import StructuralLint.Symbol.Definition

/-!
# Definitions and the symbols they share

A definition tells what its name means if the name is bound by definitions of its kind alone, in
whatever scope they stand (`SymbolTable.Tells`). The bindings of a symbol are the names that lead to
its scope, and each of them is there for what the node that it stands in makes of it. So the symbol
of a definition is of the expected kind exactly if no other construct binds the name
(`Resolution.kind_eq_iff`).
-/

namespace StructuralLint

namespace Tree

variable (tree : Tree)

/-- A name binds what it spells, and its scope leads to `target`. -/
def BindsAt (target : NodeId) (text : String) (node : NodeId) : Prop :=
  tree.form? node = some (.name text true) ∧
    ∃ scope, tree.Belongs node scope ∧ tree.Target text scope target

/-- Whether a node is a definition, of a function or of a class. -/
def IsDefinition (expected : SymbolKind) (node : NodeId) : Prop :=
  match expected with
  | .function => ∃ isAsync, tree.form? node = some (.function isAsync)
  | .classDef => tree.form? node = some .classDef
  | .other => False

/-- A definition and the name that it defines. -/
structure Defines (expected : SymbolKind) (definition name : NodeId) : Prop where
  isDefinition : tree.IsDefinition expected definition
  names : tree.attribute? definition .name = some name

end Tree

/-- What the name of a definition is there for. -/
def SymbolKind.declaration : SymbolKind → UsageKind
  | function => .functionDeclaration
  | classDef => .classDeclaration
  | other => .other

/-- What a definition tells about its name: the symbol that definitions of its kind share, unless
the name is bound in another way as well. -/
structure SymbolTable.Tells (table : SymbolTable) (tree : Tree) (expected : SymbolKind)
    (definition : NodeId) (text : String) (target : NodeId) : Prop where
  defined : ∃ name scope, tree.Defines expected definition name ∧
    tree.form? name = some (.name text true) ∧ tree.Belongs definition scope ∧
      tree.Belongs name scope ∧ tree.Target text scope target
  answers : ∃ result, table.ofDefinition tree expected definition = .ok result
  /-- A name that is bound for a definition is the name of one. -/
  declared : ∀ other, tree.bindingKind other = expected.declaration ↔
    ∃ definition', tree.Defines expected definition' other
  /-- A name that is bound for anything else makes the definition ambiguous. -/
  ambiguous : ∀ other, tree.BindsAt target text other →
    tree.bindingKind other ≠ expected.declaration →
      table.ofDefinition tree expected definition = .ok none
  /-- Definitions of one kind share their symbol with each other, and with nothing else. -/
  shared : (∀ other, tree.BindsAt target text other →
      tree.bindingKind other = expected.declaration) →
    ∃ id symbol, table.symbols[id]? = some symbol ∧ symbol.name = text ∧ symbol.kind = expected ∧
      table.ofDefinition tree expected definition = .ok (some id) ∧
      ∀ definition', table.ofDefinition tree expected definition' = .ok (some id) ∧
          tree.IsDefinition expected definition' ↔
        ∃ name, tree.Defines expected definition' name ∧ tree.BindsAt target text name

/-! ### Definitions and their names -/

namespace Tree

variable {branch : Branch} {expected : SymbolKind} {definition name node : NodeId} {text : String}

theorem IsDefinition.exists_lies (isDefinition : branch.toTree.IsDefinition expected definition) :
    ∃ placed above, Placed.Lies branch.whole placed above ∧ placed.id = definition ∧
      placed.form.introduces (some .name) = expected.declaration ∧
        placed.form.isDefinition = true := by
  cases expected with
  | function =>
      obtain ⟨isAsync, found⟩ := isDefinition
      obtain ⟨placed, above, lies, same, form⟩ := exists_lies_of_form? found
      exact ⟨placed, above, lies, same, by rw [form]; rfl, by rw [form]; rfl⟩
  | classDef =>
      obtain ⟨placed, above, lies, same, form⟩ := exists_lies_of_form? isDefinition
      exact ⟨placed, above, lies, same, by rw [form]; rfl, by rw [form]; rfl⟩
  | other => exact isDefinition.elim

/-- A node that plays a role of which there is one is the attribute. -/
theorem attribute?_of_mem (sound : branch.Sound) {role : Role} (alone : role.isSingle = true)
    (other : role.isMark = false) (member : name ∈ branch.toTree.attributes node role) :
    branch.toTree.attribute? node role = some name := by
  obtain ⟨parent, above, part, lies, rfl, among, rfl⟩ :=
    (Branch.mem_attributes_toTree sound other).mp member
  obtain ⟨slot, -, child⟩ := Placed.mem_playing_iff.mp among
  have shaped := Placed.shaped_of_child (sound parent above lies) child
  rcases lies.attribute?_of_single sound shaped alone other with
    ⟨-, absent⟩ | ⟨single, present, only⟩
  · rw [absent] at among
    cases among
  · rw [only, List.mem_singleton] at among
    rw [present, among]

/-- The name of a definition is there for defining, and no other name is. -/
theorem exists_defines_iff (sound : branch.Sound) (either : expected ≠ .other) :
    (∃ definition, branch.toTree.Defines expected definition name) ↔
      branch.toTree.bindingKind name = expected.declaration := by
  constructor
  · rintro ⟨definition, isDefinition, names⟩
    obtain ⟨placed, above, lies, rfl, introduces, -⟩ := isDefinition.exists_lies
    have member : name ∈ branch.toTree.attributes placed.id .name := List.mem_of_head? names
    rw [lies.attributes_of_sound sound rfl, List.mem_map] at member
    obtain ⟨part, among, rfl⟩ := member
    rw [lies.bindingKind_playing sound among, introduces]
  · intro same
    rw [bindingKind] at same
    cases expected with
    | other => exact absurd rfl either
    | function =>
        repeat' split at same
        all_goals first
          | cases same; done
          | rename_i found member
            exact ⟨_, ⟨_, found⟩, attribute?_of_mem sound rfl rfl member⟩
    | classDef =>
        repeat' split at same
        all_goals first
          | cases same; done
          | rename_i found member
            exact ⟨_, found, attribute?_of_mem sound rfl rfl member⟩

/-- The name of a definition is a part of it that binds what it spells. -/
theorem Defines.exists_part (sound : branch.Sound)
    (defines : branch.toTree.Defines expected definition name) :
    ∃ placed above part text, Placed.Lies branch.whole placed above ∧ placed.id = definition ∧
      placed.form.isDefinition = true ∧ part ∈ placed.playing .name ∧ part.id = name ∧
        branch.toTree.form? name = some (.name text true) := by
  obtain ⟨placed, above, lies, rfl, -, isDefinition⟩ := defines.isDefinition.exists_lies
  have member : name ∈ branch.toTree.attributes placed.id .name := List.mem_of_head? defines.names
  rw [lies.attributes_of_sound sound rfl, List.mem_map] at member
  obtain ⟨part, among, rfl⟩ := member
  obtain ⟨slot, -, child⟩ := Placed.mem_playing_iff.mp among
  have shaped := Placed.shaped_of_child (sound placed above lies) child
  obtain ⟨text, form⟩ := Form.binds_of_admits (.inl rfl) (shaped.admits_playing among).2
  exact ⟨placed, above, part, text, lies, rfl, isDefinition, among, rfl,
    by rw [(lies.child_playing among).form?_toTree, form]⟩

/-- The name of a definition belongs where the definition stands. -/
theorem Defines.exists_scope (sound : branch.Sound) (apart : branch.toTree.Scoped)
    (defines : branch.toTree.Defines expected definition name) :
    ∃ text scope, branch.toTree.form? name = some (.name text true) ∧
      branch.toTree.Belongs definition scope ∧ branch.toTree.Belongs name scope := by
  obtain ⟨placed, above, part, text, lies, rfl, isDefinition, among, rfl, form⟩ :=
    defines.exists_part sound
  obtain ⟨scope, -, belongs⟩ := apart.belongs part.id text (by rw [nameText?, form])
  obtain ⟨slot, own, among⟩ := Placed.mem_playing_iff.mp among
  have child := Branch.mem_children_toTree.mpr
    ⟨placed, above, some slot, part, lies, rfl, among, rfl⟩
  refine ⟨text, scope, form, ?_, belongs⟩
  -- the name stands neither inside of what it names nor in a parameter
  cases belongs with
  | inside member inside =>
      cases Branch.eq_of_mem_children member child
      rw [lies.standsInside_iff sound among, Option.bind_some, own] at inside
      revert isDefinition inside
      cases placed.form <;> simp [Form.isDefinition, Form.holds]
  | parameter _ _ names =>
      have parameter := names.1
      cases Branch.eq_of_mem_children
        (Branch.mem_children_of_mem_attributes sound rfl names.2) child
      rw [lies.form?_toTree, Option.some.injEq] at parameter
      rw [parameter] at isDefinition
      cases isDefinition
  | outside member _ _ belongs =>
      cases Branch.eq_of_mem_children member child
      exact belongs

end Tree

/-! ### What definitions answer -/

namespace SymbolTable

variable {table : SymbolTable} {tree : Tree} {expected : SymbolKind} {definition name : NodeId}
  {id : SymbolId} {symbol : Symbol}

theorem ofDefinition_of_carries (names : tree.attribute? definition .name = some name)
    (carries : table.symbolOf? name = some id) (found : table.symbols[id]? = some symbol) :
    table.ofDefinition tree expected definition =
      .ok (if symbol.kind = expected then some id else none) := by
  simp only [ofDefinition, names, carries, found]

/-- A definition answers with the symbol that its name carries. -/
theorem carries_of_ofDefinition
    (told : table.ofDefinition tree expected definition = .ok (some id)) :
    ∃ name, tree.attribute? definition .name = some name ∧ table.symbolOf? name = some id := by
  unfold ofDefinition at told
  split at told
  · cases told
  · rename_i name names
    split at told
    · cases told
    · rename_i id' carries
      repeat' split at told
      all_goals cases told
      exact ⟨name, names, carries⟩

end SymbolTable

/-! ### Bindings of a symbol -/

namespace Resolution

variable {branch : Branch} {table : ScopeTable} {owners : List NodeId} {meaning : Meaning}
  {usage : Usage} {symbol : Symbol} {id : SymbolId} {target node definition name : NodeId}
  {text spelled : String} {expected : SymbolKind} (exact : ScopeTable.Exact branch table owners)
include exact

/-- A use that binds is there for what its name is there for. -/
theorem kind_of_mem_uses (member : (meaning, usage) ∈ uses branch.toTree table)
    (binds : usage.kind.binds = true) : usage.kind = branch.toTree.bindingKind usage.node := by
  obtain ⟨mention, among, makes⟩ := (mem_uses_iff exact).mp member
  have does := (exact.mentions mention among).act
  unfold useOf? at makes
  split at makes
  · rename_i kind act
    cases makes
    rw [act] at does
    exact does.1.symm
  · cases makes
    cases binds
  · cases makes
    cases binds
  · obtain ⟨scope, -, made⟩ := Option.map_eq_some_iff.mp makes
    cases made
    cases binds

/-- A name that binds carries the symbol of a scope exactly if it leads there. -/
theorem carries_iff_bindsAt (numbered : symbolFor table owners target text = some id)
    (form : branch.toTree.form? node = some (.name spelled true)) :
    (resolve branch.toTree table).symbolOf? node = some id ↔
      branch.toTree.BindsAt target text node := by
  obtain ⟨scope, -, belongs⟩ := exact.scoped_toTree.belongs node spelled
    (by rw [Tree.nameText?, form])
  obtain ⟨target', id', leads, numbered', carries⟩ :=
    (resolves exact).binding _ _ scope form belongs
  rw [carries, Option.some.injEq]
  constructor
  · rintro rfl
    obtain ⟨rfl, rfl⟩ := (distinguishes exact).apart _ _ _ _ _ numbered numbered'
    exact ⟨form, scope, belongs, leads⟩
  · rintro ⟨form', scope', belongs', leads'⟩
    cases form.symm.trans form'
    cases belongs.unique exact.sound belongs'
    cases leads.unique exact.sound leads'
    exact Option.some.inj (numbered'.symm.trans numbered)

/-- The bindings of a symbol are the names that lead to its scope. -/
theorem exists_binding_iff (numbered : symbolFor table owners target text = some id)
    (found : (resolve branch.toTree table).symbols[id]? = some symbol) :
    (∃ usage ∈ symbol.bindings, usage.node = node) ↔ branch.toTree.BindsAt target text node := by
  have listed := List.mem_of_getElem? found
  constructor
  · rintro ⟨usage, member, rfl⟩
    obtain ⟨member, binds⟩ := List.mem_filter.mp member
    have form := ((agrees exact).binds symbol listed usage member).mp binds
    rw [← carries_iff_bindsAt exact numbered form, (agrees exact).carried]
    exact ⟨symbol, found, usage, member, rfl⟩
  · intro bindsAt
    have carries := (carries_iff_bindsAt exact numbered bindsAt.1).mpr bindsAt
    obtain ⟨symbol', found', usage, member, rfl⟩ := ((agrees exact).carried node id).mp carries
    cases found.symm.trans found'
    have named := (agrees exact).spelled symbol listed usage member
    rw [Tree.nameText?, bindsAt.1, Option.some.injEq] at named
    exact ⟨usage, List.mem_filter.mpr ⟨member,
      ((agrees exact).binds symbol listed usage member).mpr (named ▸ bindsAt.1)⟩, rfl⟩

/-- **A symbol is what all its bindings define.** It is of the kind of definitions exactly if every
name that leads to it is there for such a definition. -/
theorem kind_eq_iff (either : expected ≠ .other)
    (numbered : symbolFor table owners target text = some id)
    (found : (resolve branch.toTree table).symbols[id]? = some symbol) :
    symbol.kind = expected ↔ ∀ node, branch.toTree.BindsAt target text node →
      branch.toTree.bindingKind node = expected.declaration := by
  have listed := List.mem_of_getElem? found
  have declared : symbol.kind = expected ↔
      ∀ usage ∈ symbol.bindings, usage.kind = expected.declaration := by
    cases expected with
    | function => exact (agrees exact).function symbol listed
    | classDef => exact (agrees exact).classDef symbol listed
    | other => exact absurd rfl either
  have kind : ∀ usage ∈ symbol.bindings, usage.kind = branch.toTree.bindingKind usage.node := by
    intro usage member
    obtain ⟨member, binds⟩ := List.mem_filter.mp member
    obtain ⟨meaning, usages, among, -, rfl⟩ := exists_meaning_of_symbol found
    exact kind_of_mem_uses exact ((mem_usages_symbolWith among).mp member) binds
  rw [declared]
  constructor
  · intro all node bindsAt
    obtain ⟨usage, member, rfl⟩ := (exists_binding_iff exact numbered found).mpr bindsAt
    rw [← kind usage member]
    exact all usage member
  · intro all usage member
    rw [kind usage member]
    exact all usage.node ((exists_binding_iff exact numbered found).mp ⟨usage, member, rfl⟩)

/-- **A definition tells what its name means**, unless something else binds the name. -/
theorem tells (defines : branch.toTree.Defines expected definition name) :
    ∃ text target, (resolve branch.toTree table).Tells branch.toTree expected definition text
      target := by
  have either : expected ≠ .other := by
    rintro rfl
    exact defines.isDefinition
  obtain ⟨text, scope, form, stands, belongs⟩ :=
    defines.exists_scope exact.sound exact.scoped_toTree
  obtain ⟨target, id, leads, numbered, carries⟩ := (resolves exact).binding _ _ scope form belongs
  obtain ⟨symbol, found, named⟩ := (distinguishes exact).named _ _ _ numbered
  have kind := kind_eq_iff exact either numbered found
  have answer : (resolve branch.toTree table).ofDefinition branch.toTree expected definition = _ :=
    SymbolTable.ofDefinition_of_carries defines.names carries found
  refine ⟨text, target, ⟨name, scope, defines, form, stands, belongs, leads⟩, ⟨_, answer⟩,
    fun other => (Tree.exists_defines_iff exact.sound either).symm, ?_, ?_⟩
  · intro other bindsAt otherwise
    rw [answer, if_neg]
    exact fun same => otherwise (kind.mp same other bindsAt)
  · intro all
    refine ⟨id, symbol, found, named, kind.mpr all, ?_, fun definition' => ?_⟩
    · rw [answer, if_pos (kind.mpr all)]
    · constructor
      · rintro ⟨told, isDefinition⟩
        obtain ⟨name', names', carries'⟩ := SymbolTable.carries_of_ofDefinition told
        have defines' : branch.toTree.Defines expected definition' name' := ⟨isDefinition, names'⟩
        obtain ⟨text', scope', form', -⟩ := defines'.exists_scope exact.sound exact.scoped_toTree
        exact ⟨name', defines', (carries_iff_bindsAt exact numbered form').mp carries'⟩
      · rintro ⟨name', defines', bindsAt⟩
        refine ⟨?_, defines'.isDefinition⟩
        rw [SymbolTable.ofDefinition_of_carries defines'.names
          ((carries_iff_bindsAt exact numbered bindsAt.1).mpr bindsAt) found, if_pos (kind.mpr all)]

end Resolution

end StructuralLint
