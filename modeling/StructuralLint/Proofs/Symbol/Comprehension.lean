import StructuralLint.Proofs.Symbol.Resolution

/-!
# Comprehensions

All of a comprehension belongs to its own scope, the iterable of its first clause and the targets
of its assignments included (`Tree.comprehension_scoping`). So whatever a comprehension binds, it
binds for itself, and a name that it only reads is looked for in the scopes around it. A class
around it is passed over, unlike for a name that is read in the class itself.
-/

namespace StructuralLint

namespace Tree

variable (tree : Tree)

/-- Whether a node is a comprehension. -/
def IsComprehension (node : NodeId) : Prop :=
  ∃ kind : Kind, tree.form? node = some (.plain kind) ∧ kind.isComprehension = true

/-- `Under tree top node`: the node is `top` or stands below it, and not inside a scope that a node
on the way opens. -/
inductive Under (top : NodeId) : NodeId → Prop
  | self : Under top top
  | step {parent child : NodeId} :
      Under top parent → child ∈ tree.children parent → ¬tree.StandsInside parent child →
        ¬tree.NamesParameter parent child → Under top child

/-- A node stands in a comprehension, and in no scope inside it. -/
def StandsIn (comprehension node : NodeId) : Prop :=
  ∃ part ∈ tree.children comprehension, tree.Under part node

/-- What the first clause of a comprehension goes over. -/
def firstIterable? (comprehension : NodeId) : Option NodeId := do
  let clause ← (tree.children comprehension).find? (tree.isKind [.compFor])
  ((tree.children clause).filter (!tree.isToken ·))[1]?

/-- `Carries tree symbolFor name speaks carried`: `carried` is the symbol that a scope leads to that
says what the name is, and without such a scope there is none. -/
def Carries (symbolFor : NodeId → String → Option SymbolId) (name : String)
    (speaks : NodeId → Prop) (carried : Option SymbolId) : Prop :=
  (∃ saying target, speaks saying ∧ tree.Target name saying target ∧
    carried = symbolFor target name) ∨ (∀ saying, ¬speaks saying) ∧ carried = none

/-- What the names in a comprehension mean, for the scope around it. -/
structure Comprehends (table : SymbolTable) (symbolFor : NodeId → String → Option SymbolId)
    (comprehension scope : NodeId) : Prop where
  around : tree.Belongs comprehension scope
  /-- The first iterable stands in the comprehension like its other parts. -/
  iterable : ∀ iterable node, tree.firstIterable? comprehension = some iterable →
    tree.Under iterable node → tree.StandsIn comprehension node
  belongs : ∀ node, tree.StandsIn comprehension node → tree.Belongs node comprehension
  /-- Variables of clauses and targets of assignments are bound in the comprehension. -/
  binding : ∀ node name, tree.StandsIn comprehension node →
    tree.form? node = some (.name name true) →
      ∃ id, symbolFor comprehension name = some id ∧ table.symbolOf? node = some id
  own : ∀ node name, tree.StandsIn comprehension node →
    tree.form? node = some (.name name false) → tree.Binds comprehension name →
      table.symbolOf? node = symbolFor comprehension name
  /-- A read of the name in the scope around does not mean what the comprehension binds. -/
  apart : ∀ name carried, tree.Binds comprehension name →
    tree.Carries symbolFor name (tree.Says name scope) carried →
      carried ≠ symbolFor comprehension name
  /-- What the comprehension does not bind is read as in the scope around. -/
  outer : ∀ node name, tree.StandsIn comprehension node →
    tree.form? node = some (.name name false) → ¬tree.Binds comprehension name →
      ¬(tree.IsClass scope ∧ tree.Declares scope name) →
        tree.Carries symbolFor name (tree.Says name scope) (table.symbolOf? node)
  /-- What a class around says is not heard in the comprehension. -/
  skipped : ∀ node name, tree.StandsIn comprehension node →
    tree.form? node = some (.name name false) → ¬tree.Binds comprehension name →
      tree.IsClass scope →
        tree.Carries symbolFor name (tree.Nearest (tree.Informs name) scope)
          (table.symbolOf? node)

/-! ### All parts belong to the comprehension -/

variable {tree} {top part clause node comprehension : NodeId}

theorem Under.trans (upper : tree.Under top part) (lower : tree.Under part node) :
    tree.Under top node := by
  induction lower with
  | self => exact upper
  | step _ member outside other ih => exact .step ih member outside other

theorem IsComprehension.standsInside (isComprehension : tree.IsComprehension comprehension) :
    tree.StandsInside comprehension node := by
  obtain ⟨kind, form, yes⟩ := isComprehension
  rw [StandsInside, form]
  exact yes

theorem Under.belongs (isComprehension : tree.IsComprehension comprehension)
    (member : part ∈ tree.children comprehension) (under : tree.Under part node) :
    tree.Belongs node comprehension := by
  induction under with
  | self => exact .inside member isComprehension.standsInside
  | step _ member outside other ih => exact .outside member outside other ih

theorem StandsIn.belongs (isComprehension : tree.IsComprehension comprehension)
    (stands : tree.StandsIn comprehension node) : tree.Belongs node comprehension := by
  obtain ⟨part, member, under⟩ := stands
  exact under.belongs isComprehension member

/-- A clause opens no scope, so that what it goes over stands where the clause does. -/
theorem Under.of_clause (isClause : tree.isKind [.compFor] clause = true)
    (member : part ∈ tree.children clause) : tree.Under clause part := by
  rw [isKind, Option.any_eq_true] at isClause
  obtain ⟨kind, found, isClause⟩ := isClause
  obtain rfl : kind = .compFor := by simpa using isClause
  obtain ⟨form, present, same⟩ := Option.map_eq_some_iff.mp found
  obtain rfl : form = .plain .compFor := by
    cases form with
    | plain kind => exact congrArg Form.plain same
    | scopeDeclaration isGlobal => cases isGlobal <;> cases same
    | _ => cases same
  refine .step .self member ?_ ?_
  · rw [StandsInside, present]
    exact Bool.false_ne_true
  · rintro ⟨parameter, -⟩
    rw [present] at parameter
    cases parameter

theorem standsIn_of_firstIterable? {iterable : NodeId}
    (first : tree.firstIterable? comprehension = some iterable)
    (under : tree.Under iterable node) : tree.StandsIn comprehension node := by
  obtain ⟨clause, found, place⟩ := Option.bind_eq_some_iff.mp first
  have member := (List.mem_filter.mp (List.mem_of_getElem? place)).1
  exact ⟨clause, List.mem_of_find?_eq_some found,
    (Under.of_clause (List.find?_some found) member).trans under⟩

/-! ### No declarations in a comprehension -/

variable {branch : Branch} {name : String} {scope parent : NodeId}

/-- Whether a node is one that no statement stands below. -/
def IsCalm (tree : Tree) (node : NodeId) : Prop :=
  ∃ form, tree.form? node = some form ∧ form.isCalm = true

theorem IsComprehension.isCalm (isComprehension : tree.IsComprehension comprehension) :
    tree.IsCalm comprehension := by
  obtain ⟨kind, form, yes⟩ := isComprehension
  refine ⟨_, form, ?_⟩
  cases kind <;> first
    | rfl
    | cases yes

theorem IsCalm.of_mem_children (sound : branch.Sound) (calm : branch.toTree.IsCalm parent)
    (member : node ∈ branch.toTree.children parent) : branch.toTree.IsCalm node := by
  obtain ⟨form, found, calm⟩ := calm
  obtain ⟨inner, found', ⟨token, rfl⟩ | ⟨role, admitted⟩⟩ :=
    Branch.form?_of_mem_children sound found member
  · exact ⟨_, found', rfl⟩
  · refine ⟨inner, found', Form.isCalm_of_admits admitted ?_⟩
    rw [Form.blockRoles_of_isCalm calm]
    exact List.not_mem_nil

/-- What belongs to a scope that no statement stands below is such a node too. -/
theorem Belongs.isCalm (sound : branch.Sound) (belongs : branch.toTree.Belongs node scope)
    (calm : branch.toTree.IsCalm scope) : branch.toTree.IsCalm node := by
  induction belongs with
  | inside member _ => exact calm.of_mem_children sound member
  | parameter list entry names =>
      have lists := Branch.mem_children_of_mem_attributes sound rfl list
      have entries := Branch.mem_children_of_mem_attributes sound rfl entry
      have named := Branch.mem_children_of_mem_attributes sound rfl names.2
      exact ((calm.of_mem_children sound lists).of_mem_children sound entries).of_mem_children
        sound named
  | outside member _ _ _ ih => exact (ih calm).of_mem_children sound member

/-- Names in a comprehension stand in no declaration. -/
theorem IsComprehension.not_declaredBy (sound : branch.Sound)
    (isComprehension : branch.toTree.IsComprehension comprehension)
    (belongs : branch.toTree.Belongs node comprehension) (isGlobal : Bool) :
    ¬branch.toTree.DeclaredBy isGlobal node := by
  rintro ⟨declaration, form, declared⟩
  -- the declaration belongs to the comprehension as well, and is a statement
  have around := belongs.of_declared sound form declared
  obtain ⟨form', found, calm⟩ := around.isCalm sound isComprehension.isCalm
  rw [form, Option.some.injEq] at found
  subst found
  cases calm

theorem IsComprehension.not_declaresAs (sound : branch.Sound)
    (isComprehension : branch.toTree.IsComprehension comprehension) (isGlobal : Bool) :
    ¬branch.toTree.DeclaresAs isGlobal comprehension name := by
  rintro ⟨node, belongs, declared, -⟩
  exact isComprehension.not_declaredBy sound belongs isGlobal declared

/-- All that a comprehension says of a name is that it binds it. -/
theorem IsComprehension.declares_iff (sound : branch.Sound)
    (isComprehension : branch.toTree.IsComprehension comprehension) :
    branch.toTree.Declares comprehension name ↔ branch.toTree.Binds comprehension name := by
  refine ⟨?_, .inl⟩
  rintro (binds | declares | declares)
  · exact binds
  · exact absurd declares (isComprehension.not_declaresAs sound true)
  · exact absurd declares (isComprehension.not_declaresAs sound false)

/-- What a comprehension binds belongs to it. -/
theorem IsComprehension.target (sound : branch.Sound)
    (isComprehension : branch.toTree.IsComprehension comprehension) :
    branch.toTree.Target name comprehension comprehension :=
  .own (isComprehension.not_declaresAs sound true) (isComprehension.not_declaresAs sound false)

/-! ### Outwards -/

/-- Scopes come after the nodes that belong to them. -/
theorem Belongs.lt (sound : branch.Sound) (belongs : branch.toTree.Belongs node scope) :
    node < scope ∧ scope < branch.size := by
  have less {parent child : NodeId} (member : child ∈ branch.toTree.children parent) :
      child < parent ∧ parent < branch.size := by
    obtain ⟨upper, above, slot, lower, lies, rfl, among, rfl⟩ :=
      Branch.mem_children_toTree.mp member
    exact ⟨Placed.id_child_lt among, lies.id_lt_size⟩
  induction belongs with
  | inside member _ => exact less member
  | parameter list entry names =>
      have lists := less (Branch.mem_children_of_mem_attributes sound rfl list)
      have entries := less (Branch.mem_children_of_mem_attributes sound rfl entry)
      have named := less (Branch.mem_children_of_mem_attributes sound rfl names.2)
      exact ⟨named.1.trans (entries.1.trans lists.1), lists.2⟩
  | outside member _ _ _ ih => exact ⟨(less member).1.trans ih.1, ih.2⟩

theorem Nearest.lt (sound : branch.Sound) {wanted : NodeId → Prop} {found : NodeId}
    (nearest : branch.toTree.Nearest wanted scope found) :
    scope < found ∧ found < branch.size := by
  induction nearest with
  | here belongs _ => exact belongs.lt sound
  | further belongs _ _ ih => exact ⟨(belongs.lt sound).1.trans ih.1, ih.2⟩

/-- A name leads to the scope that says what it is, or further outwards. -/
theorem Target.le (sound : branch.Sound) {target : NodeId}
    (leads : branch.toTree.Target name scope target) (inside : scope < branch.size) :
    scope ≤ target := by
  induction leads with
  | file _ =>
      rw [root, Branch.size_toTree]
      exact Nat.le_sub_one_of_lt inside
  | around _ _ nearest _ ih =>
      have outer := nearest.lt sound
      exact outer.1.le.trans (ih outer.2)
  | nowhere _ _ _ => exact Nat.le_refl _
  | own _ _ => exact Nat.le_refl _

/-- What is read in the scope around a comprehension does not lead to the comprehension. -/
theorem Says.lt_target (sound : branch.Sound) {saying target : NodeId}
    (around : branch.toTree.Belongs comprehension scope)
    (speaks : branch.toTree.Says name scope saying)
    (leads : branch.toTree.Target name saying target) : comprehension < target := by
  obtain ⟨below, inside⟩ := around.lt sound
  rcases speaks with ⟨-, rfl⟩ | ⟨-, nearest⟩
  · exact Nat.lt_of_lt_of_le below (leads.le sound inside)
  · have outer := nearest.lt sound
    exact Nat.lt_of_lt_of_le (below.trans outer.1) (leads.le sound outer.2)

/-- What a comprehension does not bind is looked for from the scope around it on. -/
theorem IsComprehension.says_iff (sound : branch.Sound)
    (isComprehension : branch.toTree.IsComprehension comprehension)
    (around : branch.toTree.Belongs comprehension scope)
    (free : ¬branch.toTree.Binds comprehension name) {saying : NodeId} :
    branch.toTree.Says name comprehension saying ↔
      branch.toTree.Informs name scope ∧ saying = scope ∨
        ¬branch.toTree.Informs name scope ∧
          branch.toTree.Nearest (branch.toTree.Informs name) scope saying := by
  rw [Says, isComprehension.declares_iff sound]
  constructor
  · rintro (⟨binds, -⟩ | ⟨-, nearest⟩)
    · exact absurd binds free
    · cases nearest with
      | here belongs informs =>
          cases belongs.unique sound around
          exact .inl ⟨informs, rfl⟩
      | further belongs no later =>
          cases belongs.unique sound around
          exact .inr ⟨no, later⟩
  · rintro (⟨informs, rfl⟩ | ⟨no, later⟩)
    · exact .inr ⟨free, .here around informs⟩
    · exact .inr ⟨free, .further around no later⟩

/-- Where no class is in the way, that is who says it in the scope around. -/
theorem IsComprehension.says_iff_around (sound : branch.Sound)
    (isComprehension : branch.toTree.IsComprehension comprehension)
    (around : branch.toTree.Belongs comprehension scope)
    (free : ¬branch.toTree.Binds comprehension name)
    (heard : ¬(branch.toTree.IsClass scope ∧ branch.toTree.Declares scope name))
    {saying : NodeId} :
    branch.toTree.Says name comprehension saying ↔ branch.toTree.Says name scope saying := by
  have same : branch.toTree.Informs name scope ↔ branch.toTree.Declares scope name :=
    ⟨And.right, fun declares => ⟨fun isClass => heard ⟨isClass, declares⟩, declares⟩⟩
  rw [isComprehension.says_iff sound around free, same, Says]

/-- A class around a comprehension is passed over. -/
theorem IsComprehension.says_iff_of_isClass (sound : branch.Sound)
    (isComprehension : branch.toTree.IsComprehension comprehension)
    (around : branch.toTree.Belongs comprehension scope)
    (free : ¬branch.toTree.Binds comprehension name) (isClass : branch.toTree.IsClass scope)
    {saying : NodeId} :
    branch.toTree.Says name comprehension saying ↔
      branch.toTree.Nearest (branch.toTree.Informs name) scope saying := by
  have deaf : ¬branch.toTree.Informs name scope := fun informs => informs.1 isClass
  simp [isComprehension.says_iff sound around free, deaf]

/-! ### Symbols -/

theorem Carries.congr {symbolFor : NodeId → String → Option SymbolId}
    {speaks speaks' : NodeId → Prop} {carried : Option SymbolId}
    (same : ∀ saying, speaks saying ↔ speaks' saying)
    (carries : tree.Carries symbolFor name speaks carried) :
    tree.Carries symbolFor name speaks' carried := by
  rwa [← show speaks = speaks' from funext fun saying => propext (same saying)]

/-- A name that is only read carries the symbol that it leads to. -/
theorem Resolves.carries {table : SymbolTable} {symbolFor : NodeId → String → Option SymbolId}
    (resolves : tree.Resolves table symbolFor)
    (form : tree.form? node = some (.name name false))
    (undeclared : ∀ isGlobal, ¬tree.DeclaredBy isGlobal node)
    (belongs : tree.Belongs node scope) :
    tree.Carries symbolFor name (tree.Says name scope) (table.symbolOf? node) := by
  by_cases speaks : ∃ saying, tree.Says name scope saying
  · obtain ⟨saying, speaks⟩ := speaks
    obtain ⟨target, leads, carries⟩ :=
      resolves.reading node name scope saying form undeclared belongs speaks
    exact .inl ⟨saying, target, speaks, leads, carries⟩
  · have silent (saying : NodeId) : ¬tree.Says name scope saying := fun spoken =>
      speaks ⟨saying, spoken⟩
    exact .inr ⟨silent, resolves.silent node name scope form undeclared belongs silent⟩

/-- **A comprehension keeps to itself.** -/
theorem IsComprehension.comprehends (sound : branch.Sound) {table : SymbolTable}
    {symbolFor : NodeId → String → Option SymbolId}
    (distinguishes : branch.toTree.Distinguishes table symbolFor)
    (resolves : branch.toTree.Resolves table symbolFor)
    (isComprehension : branch.toTree.IsComprehension comprehension)
    (around : branch.toTree.Belongs comprehension scope) :
    branch.toTree.Comprehends table symbolFor comprehension scope := by
  have leads (name : String) : branch.toTree.Target name comprehension comprehension :=
    isComprehension.target sound
  have carries {node : NodeId} {name : String} (stands : branch.toTree.StandsIn comprehension node)
      (form : branch.toTree.form? node = some (.name name false)) :
      branch.toTree.Carries symbolFor name (branch.toTree.Says name comprehension)
        (table.symbolOf? node) :=
    resolves.carries form (isComprehension.not_declaredBy sound (stands.belongs isComprehension))
      (stands.belongs isComprehension)
  refine
    { around := around
      iterable := fun iterable node first => standsIn_of_firstIterable? first
      belongs := fun node stands => stands.belongs isComprehension
      binding := ?_
      own := ?_
      apart := ?_
      outer := ?_
      skipped := ?_ }
  · intro node name stands form
    obtain ⟨target, id, leads', numbered, carried⟩ :=
      resolves.binding node name comprehension form (stands.belongs isComprehension)
    cases leads'.unique sound (leads name)
    exact ⟨id, numbered, carried⟩
  · intro node name stands form binds
    rcases carries stands form with ⟨saying, target, speaks, leads', carried⟩ | ⟨silent, -⟩
    · cases speaks.unique sound (.inl ⟨.inl binds, rfl⟩)
      cases leads'.unique sound (leads name)
      exact carried
    · exact absurd (.inl ⟨.inl binds, rfl⟩) (silent comprehension)
  · rintro name carried binds carries rfl
    obtain ⟨id, numbered⟩ := Option.isSome_iff_exists.mp
      ((distinguishes.bound comprehension name).mpr ⟨comprehension, binds, leads name⟩)
    rw [numbered] at carries
    rcases carries with ⟨saying, target, speaks, leads', same⟩ | ⟨-, none⟩
    · have apart := (distinguishes.apart _ _ _ _ id numbered same.symm).1
      exact Nat.ne_of_lt (speaks.lt_target sound around leads') apart
    · cases none
  · intro node name stands form free heard
    exact (carries stands form).congr fun saying =>
      isComprehension.says_iff_around sound around free heard
  · intro node name stands form free isClass
    exact (carries stands form).congr fun saying =>
      isComprehension.says_iff_of_isClass sound around free isClass

end Tree

/-! ### Parsed trees -/

/-- Every comprehension stands in a scope. -/
theorem ScopeTable.Exact.exists_around {branch : Branch} {table : ScopeTable}
    {owners : List NodeId} {comprehension : NodeId} (exact : ScopeTable.Exact branch table owners)
    (isComprehension : branch.toTree.IsComprehension comprehension) :
    ∃ scope, branch.toTree.IsScope scope ∧ branch.toTree.Belongs comprehension scope := by
  obtain ⟨kind, form, yes⟩ := isComprehension
  have isScope : branch.toTree.IsScope comprehension := by
    rw [Tree.IsScope, form]
    exact yes
  obtain ⟨place, found⟩ := exact.exists_place isScope
  -- the first scope is the file, which is no comprehension
  have inner : 0 < place := by
    rcases Nat.eq_zero_or_pos place with rfl | inner
    · have root : comprehension = branch.toTree.root :=
        Option.some.inj (found.symm.trans exact.file)
      obtain ⟨docstring, file⟩ := exact.isFile
      rw [root, Branch.root_toTree, branch.lies_whole.form?_toTree, file] at form
      cases form
    · exact inner
  obtain ⟨outer, around, -, -, found', belongs⟩ := exact.exists_parent found inner
  exact ⟨around, exact.isScope_of_found found', belongs⟩

/-- **What a comprehension does with its names.** In a parsed tree a comprehension stands in a
scope, and all its names that stand in no further scope belong to the comprehension, those of its
first iterable and those that are assigned to included. What it binds is its own; anything else it
reads is what the scope around makes of it, except that a class around says nothing. -/
theorem Tree.comprehension_scoping {source : List Char} {parsed : ParsedSource}
    (read : parse source true = .ok parsed) :
    ∃ symbolFor, parsed.tree.Distinguishes parsed.symbols symbolFor ∧
      parsed.tree.Resolves parsed.symbols symbolFor ∧
        ∀ comprehension, parsed.tree.IsComprehension comprehension →
          ∃ scope, parsed.tree.IsScope scope ∧
            parsed.tree.Comprehends parsed.symbols symbolFor comprehension scope := by
  obtain ⟨branch, table, owners, same, resolved, exact⟩ := exists_exact_of_parse read
  rw [same, resolved]
  have distinguishes := Resolution.distinguishes exact
  have resolves := Resolution.resolves exact
  refine ⟨_, distinguishes, resolves, fun comprehension isComprehension => ?_⟩
  obtain ⟨scope, isScope, around⟩ := exact.exists_around isComprehension
  exact ⟨scope, isScope,
    isComprehension.comprehends exact.sound distinguishes resolves around⟩

/-- A class with a comprehension over a name that the class binds. -/
def overheardSource : List Char :=
  "class A:
  a = 0
  [b for b in a]
".toList

/-- The name that the class binds at node 7 does not reach the first iterable, which is node 21. -/
theorem Tree.comprehension_scoping_overheardSource :
    ∃ parsed, parse overheardSource true = .ok parsed ∧
      (∃ symbolFor scope, parsed.tree.Comprehends parsed.symbols symbolFor 24 scope) ∧
        parsed.tree.firstIterable? 24 = some 21 ∧
          parsed.tree.form? 21 = some (.name "a" false) ∧
            parsed.symbols.symbolOf? 21 = none ∧ parsed.symbols.symbolOf? 7 = some 1 := by
  obtain ⟨parsed, read, facts⟩ := Lists.exists_of_toOption_map
    (show (parse overheardSource true).toOption.map (fun parsed =>
        (parsed.tree.form? 24, parsed.tree.firstIterable? 24, parsed.tree.form? 21,
          parsed.symbols.carried)) =
      some (some (.plain .listComprehension), some 21, some (.name "a" false),
        [(2, 0), (7, 1), (18, 2), (15, 2)]) by decide +kernel)
  simp only [Prod.mk.injEq] at facts
  obtain ⟨form, iterable, spelled, carried⟩ := facts
  obtain ⟨symbolFor, -, -, each⟩ := Tree.comprehension_scoping read
  obtain ⟨scope, -, comprehends⟩ := each 24 ⟨.listComprehension, form, rfl⟩
  refine ⟨parsed, read, ⟨symbolFor, scope, comprehends⟩, iterable, spelled, ?_, ?_⟩ <;>
    rw [SymbolTable.symbolOf?, carried] <;> rfl

end StructuralLint
