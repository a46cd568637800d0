import StructuralLint.Proofs.Symbol.Defining
import StructuralLint.Proofs.Symbol.Drawing

/-!
# Scopes show regions

The scopes of a tree and the regions of its program go together step by step: a scope that shows a
region has a name for each construct that the region binds by, except for what a pattern captures
and for names that meet no token, and it has a scope for each region that the region opens, and
nothing else (`Program.Region.ShownAt`). The file shows the program, so every scope shows some
region (`Program.Region.Stands.of_isScope`), and what binds a name is told by the constructs of the
regions (`Program.shown`).
-/

namespace StructuralLint

namespace Program

variable (text : SourceText) (tree : Tree)

/-- Whether there is a node for a name. What a pattern captures has none. Most other names are
looked for among the tokens, and a name that is spelled otherwise there is not found. -/
def Construct.isKept : Construct → Bool
  | .target _ _ | .function _ _ | .classDef _ _ => true
  | .parameter span _ => (text.tokenAt (text.span span).start).isSome
  | .imported clause =>
    match clause.asName with
    | some renamed => (text.tokensIn (text.span clause.span)).any fun token =>
        token.type = .name && token.value = renamed
    | none => (text.tokenAt (text.span clause.span).start).isSome
  | .caught exception name =>
    (text.tokenAfter .name (Draft.ofExpr text exception).span.stop name).isSome
  | .captured _ => false

/-- A scope shows a region of the program: names for constructs, scopes for regions. -/
structure Region.ShownAt (shows : Region → NodeId → Prop) (region : Region) (scope : NodeId) :
    Prop where
  isScope : tree.IsScope scope
  defines : ∀ expected, tree.IsDefinition expected scope ↔
    ∃ construct, region.definition? = some construct ∧ construct.kind = expected.declaration
  named : ∀ construct, region.definition? = some construct →
    ∃ node, tree.attribute? scope .name = some node ∧
      tree.form? node = some (.name construct.name true)
  names : ∀ name kind, (∃ node, tree.form? node = some (.name name true) ∧
      tree.Belongs node scope ∧ tree.bindingKind node = kind) ↔
    ∃ construct, region.Has (.binds construct) ∧ construct.isKept text = true ∧
      construct.name = name ∧ construct.kind = kind
  declares : ∀ isGlobal name, tree.DeclaresAs isGlobal scope name ↔
    ∃ span names, region.Has (.declares span isGlobal names) ∧ name ∈ names ∧
      ∃ token ∈ text.tokensIn (text.span span), token.type = .name ∧ token.value = name
  opens : ∀ inner, region.Has (.opens inner) → ∃ scope', tree.Belongs scope' scope ∧
    shows inner scope'
  opened : ∀ scope', tree.IsScope scope' → tree.Belongs scope' scope →
    ∃ inner, region.Has (.opens inner) ∧ shows inner scope'

/-- A program and a tree of it. -/
structure Shown (program : Program) (shows : Region → NodeId → Prop) : Prop where
  file : shows (.file program) tree.root
  regions : ∀ region scope, shows region scope → region.ShownAt text tree shows scope
  /-- Every scope shows a region. -/
  onto : ∀ scope, tree.IsScope scope → ∃ region, shows region scope
  /-- What binds a name, and how, is what the constructs of the program say. -/
  bound : ∀ target name kind,
    (∃ node, tree.BindsAt target name node ∧ tree.bindingKind node = kind) ↔
      ∃ region scope construct, shows region scope ∧ tree.Target name scope target ∧
        region.Has (.binds construct) ∧ construct.isKept text = true ∧ construct.name = name ∧
          construct.kind = kind

/-! ### Drafts of names and regions -/

variable {text} {tree} {construct : Construct} {region inner : Region} {found : Draft}
  {kind : UsageKind} {item : Item}

theorem Construct.form_draft? (drawn : construct.draft? text = some found) :
    found.form = .name construct.name true ∧ found.isNode = true := by
  cases construct with
  | target span name =>
      cases drawn
      exact ⟨rfl, rfl⟩
  | function | classDef | parameter | caught =>
      obtain ⟨token, -, rfl⟩ := Option.map_eq_some_iff.mp drawn
      exact ⟨rfl, rfl⟩
  | imported =>
      obtain ⟨-, token, rfl⟩ := Draft.aliasName_eq_some drawn
      exact ⟨rfl, rfl⟩
  | captured => cases drawn

theorem Construct.isKept_of_draft? (drawn : construct.draft? text = some found) :
    construct.isKept text = true := by
  cases construct with
  | target | function | classDef => rfl
  | parameter span name | caught exception name =>
      obtain ⟨token, met, -⟩ := Option.map_eq_some_iff.mp drawn
      simp only [isKept, met, Option.isSome_some]
  | imported clause =>
      have named := (Draft.aliasName_eq_some drawn).1
      rw [draft?, Draft.aliasName, if_neg named] at drawn
      cases given : clause.asName with
      | some renamed =>
          simp only [given] at drawn
          obtain ⟨token, last, -⟩ := Option.map_eq_some_iff.mp drawn
          obtain ⟨member, spelled⟩ := List.mem_filter.mp (List.mem_of_getLast? last)
          simp only [isKept, given]
          exact List.any_eq_true.mpr ⟨token, member, spelled⟩
      | none =>
          simp only [given] at drawn
          obtain ⟨token, met, -⟩ := Option.map_eq_some_iff.mp drawn
          simp only [isKept, given, met, Option.isSome_some]
  | captured => cases drawn

/-- A name that is kept is drawn, if the tokens have the names of definitions. -/
theorem Construct.exists_draft? (kept : construct.isKept text = true)
    (other : construct.isDefinition = false)
    (named : ∀ imported, construct = .imported imported → imported.name ≠ "*") :
    ∃ found, construct.draft? text = some found := by
  rw [← Option.isSome_iff_exists]
  cases construct with
  | target => rfl
  | function | classDef => cases other
  | parameter | caught => rwa [draft?, Option.isSome_map]
  | imported clause =>
      rw [draft?, Draft.aliasName, if_neg (named clause rfl)]
      cases given : clause.asName with
      | some renamed =>
          simp only [isKept, given] at kept
          obtain ⟨token, member, spelled⟩ := List.any_eq_true.mp kept
          simp only [Option.isSome_map, Option.isSome_iff_ne_none, Ne, List.getLast?_eq_none_iff]
          exact List.ne_nil_of_mem (List.mem_filter.mpr ⟨member, spelled⟩)
      | none =>
          simp only [isKept, given] at kept
          simpa only [Option.isSome_map] using kept
  | captured => cases kept

variable (text) in
/-- A region is drawn as a node that opens a scope. -/
theorem Region.opensScope_draft (isOpen : region.isOpen = true) :
    (region.draft text).isNode = true ∧ (region.draft text).form.opensScope = true := by
  match region, isOpen with
  | .stmt (.function ..), _ | .stmt (.classDef ..), _ | .expr (.lambda ..), _ => exact ⟨rfl, rfl⟩
  | .expr (.comprehension _ collection _ _), _ => cases collection <;> exact ⟨rfl, rfl⟩

/-- The name of a definition is the part that names its draft. -/
theorem Region.draft?_of_mem_parts {slot : Slot} {part : Draft}
    (defines : region.definition? = some construct)
    (member : (slot, part) ∈ (region.draft text).parts) (names : slot.role = some .name) :
    construct.draft? text = some part := by
  have given {form : Form} {span : Span} {fields : Fields}
      {parts : List (Option Role × Draft)}
      (member : (slot, part) ∈ (Draft.ofSpan form span fields parts).parts) :
      (some .name, part) ∈ parts := by
    obtain ⟨role, other, among, rfl, rfl⟩ := (Draft.exists_arranged_iff (Draft.arrange_perm parts)
      fun role other => role = some .name ∧ other = part).mp ⟨slot, part, member, names, rfl⟩
    exact among
  match region, defines with
  | .stmt (.function ..), rfl | .stmt (.classDef ..), rfl =>
      simpa [Draft.plain, Draft.playing, Construct.draft?] using given member

/-- The names that a declaration is drawn with. -/
theorem exists_declared_iff {span : Span} {isGlobal : Bool} {names : List String}
    (holds : Draft → Prop) :
    (∃ slot part, (slot, part) ∈
          (Draft.ofStmt text (.scopeDeclaration span isGlobal names)).parts ∧
        slot.role = some .declared ∧ holds part) ↔
      ∃ token ∈ text.tokensIn (text.span span), token.type = .name ∧ token.value ∈ names ∧
        holds (.ofName token.value false token) := by
  rw [Draft.ofStmt]
  refine (Draft.exists_arranged_iff (Draft.arrange_perm _) fun role part =>
    role = some .declared ∧ holds part).trans ?_
  simp [Draft.playing, and_assoc]

/-! ### Regions and their nodes -/

/-- A scope is that of the node that a region is drawn for. -/
structure Region.Stands (text : SourceText) (branch : Branch) (region : Region) (scope : NodeId) :
    Prop where
  isRegion : region.isOpen = true ∨ ∃ program, region = .file program
  completed : ∃ placed above, Placed.Lies branch.whole placed above ∧ placed.id = scope ∧
    Branch.Completes (region.draft text) placed.branch

namespace Region.Stands

variable {branch : Branch} {scope node : NodeId} (stands : region.Stands text branch scope)
include stands

theorem form? : branch.toTree.form? scope = some (region.draft text).form := by
  obtain ⟨placed, above, lies, rfl, completes⟩ := stands.completed
  rw [lies.form?_toTree, Placed.form_of_completes completes]

theorem isScope : branch.toTree.IsScope scope := by
  rw [Tree.IsScope, stands.form?]
  rcases stands.isRegion with isOpen | ⟨program, rfl⟩
  · have opens := (opensScope_draft text isOpen).2
    cases form : (region.draft text).form <;> rw [form] at opens <;> trivial
  · trivial

theorem isDefinition_iff (expected : SymbolKind) :
    branch.toTree.IsDefinition expected scope ↔
      ∃ construct, region.definition? = some construct ∧
        construct.kind = expected.declaration := by
  have form := stands.form?
  match region, stands.isRegion with
  | .file program, _ =>
      have form : branch.toTree.form? scope = some (.file program.docstring) := form
      cases expected <;> simp [Tree.IsDefinition, form, definition?]
  | .stmt (.function _ isAsync ..), _ =>
      have form : branch.toTree.form? scope = some (.function isAsync) := form
      cases expected <;>
        simp [Tree.IsDefinition, form, definition?, Construct.kind, SymbolKind.declaration]
  | .stmt (.classDef ..), _ =>
      have form : branch.toTree.form? scope = some .classDef := form
      cases expected <;>
        simp [Tree.IsDefinition, form, definition?, Construct.kind, SymbolKind.declaration]
  | .expr (.lambda ..), _ =>
      have form : branch.toTree.form? scope = some .lambda := form
      cases expected <;> simp [Tree.IsDefinition, form, definition?]
  | .expr (.comprehension _ collection _ _), _ =>
      have form : branch.toTree.form? scope = some (.plain collection.kind) := form
      cases expected <;> simp [Tree.IsDefinition, form, definition?]

/-- The node has what stands inside of the draft. -/
theorem inside_iff (node : found.isNode = true) (counts : found.form.counts = true) :
    Draft.Inside kind found (region.draft text) ↔
      ∃ item, region.Has item ∧ item.Draws text kind found := by
  rcases stands.isRegion with isOpen | ⟨program, rfl⟩
  · exact Draft.inside_draft node counts region isOpen
  · exact Draft.inside_draft_file node counts program

/-- For what is drawn there is a node in the scope. -/
theorem exists_node (sound : branch.Sound) (has : region.Has item)
    (draws : item.Draws text kind found) (node : found.isNode = true)
    (counts : found.form.counts = true) :
    ∃ lower between, Placed.Lies branch.whole lower between ∧
      Branch.Completes found lower.branch ∧ branch.toTree.bindingKind lower.id = kind ∧
        branch.toTree.Belongs lower.id scope := by
  obtain ⟨placed, above, lies, rfl, completes⟩ := stands.completed
  exact lies.exists_of_inside ((stands.inside_iff node counts).mpr ⟨item, has, draws⟩) sound node
    completes

/-- For each node in the scope something is drawn. -/
theorem exists_item (sound : branch.Sound) {form : Form} (counts : form.counts = true)
    (belongs : branch.toTree.Belongs node scope) (found : branch.toTree.form? node = some form) :
    ∃ item draft lower between, region.Has item ∧
      item.Draws text (branch.toTree.bindingKind node) draft ∧ draft.form = form ∧
        Placed.Lies branch.whole lower between ∧ lower.id = node ∧
          Branch.Completes draft lower.branch := by
  obtain ⟨placed, above, lies, rfl, completes⟩ := stands.completed
  obtain ⟨lower, between, below, rfl, rfl⟩ := Tree.exists_lies_of_form? found
  have inner : lower.isLeaf = false := by
    refine Placed.isLeaf_of_form fun token form => ?_
    rw [form] at counts
    cases counts
  obtain ⟨draft, inside, completes'⟩ :=
    Placed.Lies.inside_of_belongs sound belongs below rfl inner lies rfl completes
  have form := Placed.form_of_completes completes'
  rw [form] at counts
  obtain ⟨item, has, draws⟩ := (stands.inside_iff completes'.isNode counts).mp inside
  exact ⟨item, draft, lower, between, has, draws, form.symm, below, rfl, completes'⟩

/-! ### Step by step -/

omit stands in
theorem counts_of_opensScope {form : Form} (opens : form.opensScope = true) :
    form.counts = true := by
  cases form <;> first | exact opens | cases opens

/-- What a region opens is a scope in its scope. -/
theorem exists_opened (sound : branch.Sound) (has : region.Has (.opens inner)) :
    ∃ scope', branch.toTree.Belongs scope' scope ∧ inner.Stands text branch scope' := by
  have isOpen := has.isOpen
  obtain ⟨node, opens⟩ := opensScope_draft text isOpen
  obtain ⟨lower, between, lies, completes, -, belongs⟩ :=
    stands.exists_node sound has (show Item.Draws text .binding _ _ from ⟨rfl, rfl⟩) node
      (counts_of_opensScope opens)
  exact ⟨lower.id, belongs, .inl isOpen, lower, between, lies, rfl, completes⟩

/-- A node in the scope of a region that opens a scope is one of a region that the region opens. -/
theorem exists_opens_of_form (sound : branch.Sound) {form : Form}
    (found : branch.toTree.form? node = some form) (opens : form.opensScope = true)
    (belongs : branch.toTree.Belongs node scope) :
    ∃ inner, region.Has (.opens inner) ∧ inner.Stands text branch node := by
  obtain ⟨item, draft, lower, between, has, draws, same, lies, place, completes⟩ :=
    stands.exists_item sound (counts_of_opensScope opens) belongs found
  cases item with
  | binds construct =>
      rw [← same, (Construct.form_draft? draws.1).1] at opens
      cases opens
  | declares span isGlobal names =>
      rw [← same, draws.1] at opens
      cases opens
  | opens inner =>
      obtain ⟨rfl, -⟩ := draws
      exact ⟨inner, has, .inl has.isOpen, lower, between, lies, place, completes⟩

/-- A scope in the scope of a region is one that the region opens. -/
theorem exists_opens {table : ScopeTable} {owners : List NodeId}
    (exact : ScopeTable.Exact branch table owners) (isScope : branch.toTree.IsScope node)
    (belongs : branch.toTree.Belongs node scope) :
    ∃ inner, region.Has (.opens inner) ∧ inner.Stands text branch node := by
  obtain ⟨docstring, file⟩ := exact.isFile
  rcases (Tree.isScope_iff exact.sound file).mp isScope with rfl | member
  · rw [← Branch.root_toTree] at belongs
    exact absurd belongs exact.not_belongs_root
  · obtain ⟨below, between, lies, opens, rfl⟩ := Placed.mem_gathered.mp member
    exact stands.exists_opens_of_form exact.sound lies.form?_toTree opens belongs

/-- The name of a definition is the one that the region is defined by. -/
theorem drawn_of_names (sound : branch.Sound) (defines : region.definition? = some construct)
    (names : branch.toTree.attribute? scope .name = some node) :
    (∃ found, construct.draft? text = some found) ∧
      branch.toTree.form? node = some (.name construct.name true) := by
  obtain ⟨placed, above, lies, rfl, completes⟩ := stands.completed
  have member : node ∈ branch.toTree.attributes placed.id .name := List.mem_of_head? names
  rw [lies.attributes_of_sound sound rfl, List.mem_map] at member
  obtain ⟨child, among, rfl⟩ := member
  obtain ⟨slot, own, among'⟩ := Placed.mem_playing_iff.mp among
  obtain ⟨part, given, completes'⟩ := Placed.exists_part_of_completes completes among'
  have drawn := draft?_of_mem_parts defines given own
  refine ⟨⟨part, drawn⟩, ?_⟩
  rw [(lies.child_playing among).form?_toTree, Placed.form_of_completes completes',
    (Construct.form_draft? drawn).1]

section Named

variable (sound : branch.Sound) (named : branch.toTree.DefinitionsNamed)
include named

/-- The node that a definition opens has its name. -/
theorem exists_name (defines : region.definition? = some construct) :
    ∃ node, branch.toTree.attribute? scope .name = some node := by
  rw [← Option.isSome_iff_exists]
  refine named scope _ stands.form? ?_
  match region, defines with
  | .stmt (.function ..), _ | .stmt (.classDef ..), _ => rfl

include sound

/-- Whatever is kept is drawn. -/
theorem exists_draft? (has : region.Has (.binds construct)) (kept : construct.isKept text = true) :
    ∃ found, construct.draft? text = some found := by
  cases defines : construct.isDefinition with
  | false =>
      refine Construct.exists_draft? kept defines ?_
      rintro imported rfl
      exact has.name_ne_star
  | true =>
      -- what defines opens a region as well, and the node of that region has its name
      obtain ⟨opened, opens, same⟩ := has.exists_opens defines
      obtain ⟨scope', -, stands'⟩ := stands.exists_opened sound opens
      obtain ⟨node, names⟩ := stands'.exists_name named same
      exact (stands'.drawn_of_names sound same names).1

/-- The names in a scope are those of the constructs that are kept. -/
theorem exists_name_iff (name : String) (kind : UsageKind) :
    (∃ node, branch.toTree.form? node = some (.name name true) ∧
        branch.toTree.Belongs node scope ∧ branch.toTree.bindingKind node = kind) ↔
      ∃ construct, region.Has (.binds construct) ∧ construct.isKept text = true ∧
        construct.name = name ∧ construct.kind = kind := by
  constructor
  · rintro ⟨node, form, belongs, rfl⟩
    obtain ⟨item, draft, lower, between, has, draws, form, -⟩ :=
      stands.exists_item sound rfl belongs form
    cases item with
    | binds construct =>
        obtain ⟨drawn, kind⟩ := draws
        have same := (Construct.form_draft? drawn).1.symm.trans form
        simp only [Form.name.injEq, and_true] at same
        exact ⟨construct, has, Construct.isKept_of_draft? drawn, same, kind.symm⟩
    | declares span isGlobal names =>
        rw [draws.1] at form
        cases form
    | opens inner =>
        have opens := (opensScope_draft text has.isOpen).2
        rw [← draws.1, form] at opens
        cases opens
  · rintro ⟨construct, has, kept, rfl, rfl⟩
    obtain ⟨found, drawn⟩ := stands.exists_draft? sound named has kept
    obtain ⟨form, node⟩ := Construct.form_draft? drawn
    obtain ⟨lower, between, lies, completes, kind, belongs⟩ :=
      stands.exists_node sound has ⟨drawn, rfl⟩ node (by rw [form]; rfl)
    refine ⟨lower.id, ?_, belongs, kind⟩
    rw [lies.form?_toTree, Placed.form_of_completes completes, form]

end Named

/-- What a scope declares is what the declarations of the region name. -/
theorem declaresAs_iff (sound : branch.Sound) (isGlobal : Bool) (name : String) :
    branch.toTree.DeclaresAs isGlobal scope name ↔
      ∃ span names, region.Has (.declares span isGlobal names) ∧ name ∈ names ∧
        ∃ token ∈ text.tokensIn (text.span span), token.type = .name ∧ token.value = name := by
  constructor
  · rintro ⟨node, belongs, ⟨declaration, form, declared⟩, spelled⟩
    obtain ⟨item, draft, lower, between, has, draws, form', lies, rfl, completes⟩ :=
      stands.exists_item sound rfl (belongs.of_declared sound form declared) form
    cases item with
    | binds construct =>
        rw [(Construct.form_draft? draws.1).1] at form'
        cases form'
    | opens inner =>
        have opens := (opensScope_draft text has.isOpen).2
        rw [← draws.1, form'] at opens
        cases opens
    | declares span isGlobal' names =>
        obtain ⟨rfl, -⟩ := draws
        cases form'
        rw [lies.attributes_of_sound sound rfl, List.mem_map] at declared
        obtain ⟨child, among, rfl⟩ := declared
        obtain ⟨slot, own, among'⟩ := Placed.mem_playing_iff.mp among
        obtain ⟨part, given, completes'⟩ := Placed.exists_part_of_completes completes among'
        obtain ⟨token, member, type, listed, same⟩ :=
          (exists_declared_iff (part = ·)).mp ⟨slot, part, given, own, rfl⟩
        have formChild := (lies.child_playing among).form?_toTree
        rw [Placed.form_of_completes completes', same] at formChild
        rw [Tree.nameText?, formChild] at spelled
        cases spelled
        exact ⟨span, names, has, listed, token, member, type, rfl⟩
  · rintro ⟨span, names, has, listed, token, member, type, rfl⟩
    obtain ⟨lower, between, lies, completes, -, belongs⟩ :=
      stands.exists_node sound has (show Item.Draws text .binding _ _ from ⟨rfl, rfl⟩) rfl rfl
    obtain ⟨slot, part, given, own, rfl⟩ :=
      (exists_declared_iff (· = .ofName token.value false token)).mpr
        ⟨token, member, type, listed, rfl⟩
    obtain ⟨child, among, completes'⟩ :=
      Placed.exists_child_of_completes completes given rfl
    have form := Placed.form_of_completes completes
    have lies' : Placed.Lies branch.whole child _ := .child lies among
    have outside : ¬(lower.form = .parameter ∧ slot.role = some .name) := by
      rw [form]
      rintro ⟨parameter, -⟩
      cases parameter
    refine ⟨child.id, lies.belongs_outside sound among (by rw [form]; rfl) outside
      belongs, ⟨lower.id, by rw [lies.form?_toTree, form]; rfl, ?_⟩, ?_⟩
    · exact (lies.mem_attributes_iff sound among rfl).mpr own
    · rw [Tree.nameText?, lies'.form?_toTree, Placed.form_of_completes completes']
      rfl

end Region.Stands

/-! ### Programs and their trees -/

section Exact

variable {branch : Branch} {table : ScopeTable} {owners : List NodeId} {scope : NodeId}
  (exact : ScopeTable.Exact branch table owners)
include exact

/-- **Scopes show regions.** The scope of a region has what the region has. -/
theorem Region.Stands.shownAt (stands : region.Stands text branch scope)
    (named : branch.toTree.DefinitionsNamed) :
    region.ShownAt text branch.toTree (Region.Stands text branch) scope where
  isScope := stands.isScope
  defines := stands.isDefinition_iff
  named construct defines := by
    obtain ⟨node, names⟩ := stands.exists_name named defines
    exact ⟨node, names, (stands.drawn_of_names exact.sound defines names).2⟩
  names := stands.exists_name_iff exact.sound named
  declares := stands.declaresAs_iff exact.sound
  opens _ := stands.exists_opened exact.sound
  opened _ := stands.exists_opens exact

/-- Every scope is that of a region, since the file is and every other scope stands in one. -/
theorem Region.Stands.of_isScope {program : Program}
    (file : (Region.file program).Stands text branch branch.toTree.root)
    (isScope : branch.toTree.IsScope scope) :
    ∃ region : Region, region.Stands text branch scope := by
  obtain ⟨place, found⟩ := exact.exists_place isScope
  induction place using Nat.strong_induction_on generalizing scope with
  | _ place ih =>
      rcases Nat.eq_zero_or_pos place with rfl | inner
      · cases found.symm.trans exact.file
        exact ⟨_, file⟩
      · obtain ⟨outer, around, -, before, found', belongs⟩ := exact.exists_parent found inner
        obtain ⟨region, stands⟩ := ih outer before (exact.isScope_of_found found') found'
        obtain ⟨opened, -, stands'⟩ := stands.exists_opens exact isScope belongs
        exact ⟨opened, stands'⟩

/-- **A tree shows its program.** -/
theorem shown {program : Program}
    (file : (Region.file program).Stands text branch branch.toTree.root)
    (named : branch.toTree.DefinitionsNamed) :
    program.Shown text branch.toTree (Region.Stands text branch) where
  file := file
  regions _ _ stands := stands.shownAt exact named
  onto _ := Region.Stands.of_isScope exact file
  bound target name kind := by
    constructor
    · rintro ⟨node, ⟨form, scope, belongs, leads⟩, same⟩
      obtain ⟨scope', isScope, belongs'⟩ := exact.scoped_toTree.belongs node name (by
        rw [Tree.nameText?, form])
      cases belongs.unique exact.sound belongs'
      obtain ⟨region, stands⟩ := Region.Stands.of_isScope exact file isScope
      obtain ⟨construct, has, told⟩ :=
        (stands.exists_name_iff exact.sound named name kind).mp ⟨node, form, belongs, same⟩
      exact ⟨region, scope, construct, stands, leads, has, told⟩
    · rintro ⟨region, scope, construct, stands, leads, has, told⟩
      obtain ⟨node, form, belongs, same⟩ :=
        (stands.exists_name_iff exact.sound named name kind).mpr ⟨construct, has, told⟩
      exact ⟨node, ⟨form, scope, belongs, leads⟩, same⟩

end Exact

end Program

end StructuralLint
