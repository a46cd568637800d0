import StructuralLint.Proofs.Symbol.Collection

/-!
# Exact tables of scopes

A table is `Exact` if it is coherent, has the scopes of the tree and mentions every name once. What
is collected from a file is exact (`ScopeTable.exact_of_collect`). Scopes by their numbers then
declare the same names as the scopes of the tree (`ScopeTable.Exact.declares_iff`).
-/

namespace StructuralLint

namespace Tree

variable {branch : Branch} {node : NodeId} {isGlobal : Bool} {act : Act}

/-! ### What a name does is one thing -/

/-- A declared name reads. -/
theorem DeclaredBy.form?_eq (sound : branch.Sound)
    (declared : branch.toTree.DeclaredBy isGlobal node) :
    ∃ text, branch.toTree.form? node = some (.name text false) := by
  obtain ⟨declaration, form, member⟩ := declared
  obtain ⟨parent, above, name, lies, rfl, among, rfl⟩ :=
    (Branch.mem_attributes_toTree sound rfl).mp member
  rw [lies.form?_toTree, Option.some.injEq] at form
  have shaped := Placed.shaped_of_form (sound parent above lies) (by rw [form]; simp)
  obtain ⟨text, spelled⟩ :=
    Form.reads_of_admits form (shaped.admits_playing among).2
  exact ⟨text, by rw [(lies.child_playing among).form?_toTree, spelled]⟩

/-- A name stands in one declaration only. -/
theorem DeclaredBy.unique (sound : branch.Sound) {isGlobal' : Bool}
    (left : branch.toTree.DeclaredBy isGlobal node)
    (right : branch.toTree.DeclaredBy isGlobal' node) : isGlobal = isGlobal' := by
  obtain ⟨declaration, form, member⟩ := left
  obtain ⟨declaration', form', member'⟩ := right
  have same := Branch.eq_of_mem_children
    (Branch.mem_children_of_mem_attributes sound rfl member)
    (Branch.mem_children_of_mem_attributes sound rfl member')
  subst same
  rw [form, Option.some.injEq, Form.scopeDeclaration.injEq] at form'
  exact form'

theorem Does.of_declaredBy (sound : branch.Sound) (does : branch.toTree.Does node act)
    (declared : branch.toTree.DeclaredBy isGlobal node) :
    act = if isGlobal then .declareGlobal else .declareNonlocal := by
  cases act with
  | bind kind =>
      obtain ⟨-, text, form⟩ := does
      obtain ⟨text', form'⟩ := declared.form?_eq sound
      rw [form] at form'
      cases form'
  | declareGlobal =>
      cases declared.unique sound does
      rfl
  | declareNonlocal =>
      cases declared.unique sound does
      rfl
  | read => exact absurd declared (does.2 isGlobal)

/-- A name that binds does what it is there for. -/
theorem Does.eq_bind (sound : branch.Sound) (does : branch.toTree.Does node act) {text : String}
    (form : branch.toTree.form? node = some (.name text true)) :
    act = .bind (branch.toTree.bindingKind node) := by
  have apart (isGlobal : Bool) : ¬branch.toTree.DeclaredBy isGlobal node := by
    intro declared
    obtain ⟨text', form'⟩ := declared.form?_eq sound
    rw [form] at form'
    cases form'
  cases act with
  | bind kind => exact congrArg Act.bind does.1.symm
  | declareGlobal => exact absurd does (apart true)
  | declareNonlocal => exact absurd does (apart false)
  | read =>
      obtain ⟨⟨text', form'⟩, -⟩ := does
      rw [form] at form'
      cases form'

theorem Does.of_binds (sound : branch.Sound) (does : branch.toTree.Does node act) {text : String}
    (form : branch.toTree.form? node = some (.name text true)) :
    ∃ kind, kind.binds = true ∧ act = .bind kind :=
  ⟨_, branch.toTree.binds_bindingKind node, does.eq_bind sound form⟩

theorem Does.of_reads (does : branch.toTree.Does node act) {text : String}
    (form : branch.toTree.form? node = some (.name text false))
    (undeclared : ∀ isGlobal, ¬branch.toTree.DeclaredBy isGlobal node) : act = .read := by
  cases act with
  | bind kind =>
      obtain ⟨-, text', form'⟩ := does
      rw [form] at form'
      cases form'
  | declareGlobal => exact absurd does (undeclared true)
  | declareNonlocal => exact absurd does (undeclared false)
  | read => rfl

end Tree

namespace ScopeTable

/-- The table is coherent, no node opens two of its scopes, and every name of the tree is
mentioned once. -/
structure Exact (branch : Branch) (table : ScopeTable) (owners : List NodeId) : Prop extends
    Coherent branch.toTree table owners where
  sound : branch.Sound
  isFile : ∃ docstring, branch.whole.form = .file docstring
  distinct : owners.Nodup
  opened : ∀ scope, scope ∈ owners ↔ branch.toTree.IsScope scope
  once : (table.mentions.toList.map (·.node)).Nodup
  complete : ∀ node text, branch.toTree.nameText? node = some text →
    ∃ mention ∈ table.mentions.toList, mention.node = node

end ScopeTable

/-! ### Exact tables -/

namespace Placed

variable {branch : Branch} {placed : Placed} {above : List Placed} {test : Form → Bool}

theorem mem_gathered {node : NodeId} :
    node ∈ placed.gathered test ↔
      ∃ below between, Lies placed below between ∧ test below.form = true ∧ below.id = node := by
  simp only [gathered, having, List.mem_map, List.mem_filter, mem_preorder_iff]
  constructor
  · rintro ⟨below, ⟨⟨between, lies⟩, passes⟩, same⟩
    exact ⟨below, between, lies, passes, same⟩
  · rintro ⟨below, between, lies, passes, same⟩
    exact ⟨below, ⟨⟨between, lies⟩, passes⟩, same⟩

theorem nodup_gathered : (placed.gathered test).Nodup :=
  placed.preorder_ids_nodup.sublist (List.filter_sublist.map _)

/-- No file stands below another node. -/
theorem Lies.eq_whole_of_file (lies : Lies branch.whole placed above) (sound : branch.Sound)
    {docstring : Option String} (file : placed.form = .file docstring) : placed = branch.whole := by
  cases lies with
  | root => rfl
  | @child parent above slot child upper member =>
      have inner : placed.isLeaf = false := isLeaf_of_form (by rw [file]; simp)
      have shaped := shaped_of_child (sound parent above upper) member
      cases slot with
      | none =>
          rw [shaped.slotless _ member] at inner
          cases inner
      | some slot =>
          have fits := (shaped.admitted slot _ member).2
          rw [file, Form.admits_file] at fits
          cases fits

end Placed

namespace Tree

variable {branch : Branch} {node : NodeId}

/-- The scopes are the file and the nodes inside that open one. -/
theorem isScope_iff (sound : branch.Sound) {docstring : Option String}
    (file : branch.whole.form = .file docstring) :
    branch.toTree.IsScope node ↔
      node = branch.whole.id ∨ node ∈ branch.whole.gathered Form.opensScope := by
  have root := branch.lies_whole.form?_toTree
  constructor
  · intro scope
    obtain ⟨form, found⟩ : ∃ form, branch.toTree.form? node = some form := by
      cases found : branch.toTree.form? node with
      | none =>
          rw [IsScope, found] at scope
          exact scope.elim
      | some form => exact ⟨form, rfl⟩
    obtain ⟨placed, above, lies, rfl, rfl⟩ := exists_lies_of_form? found
    rw [IsScope, found] at scope
    by_cases file : ∃ docstring, placed.form = .file docstring
    · obtain ⟨docstring, file⟩ := file
      exact .inl (by rw [lies.eq_whole_of_file sound file])
    · refine .inr (Placed.mem_gathered.mpr ⟨placed, above, lies, ?_, rfl⟩)
      cases form : placed.form with
      | file docstring => exact absurd ⟨docstring, form⟩ file
      | scopeDeclaration isGlobal =>
          rw [form] at scope
          cases isGlobal <;> exact absurd scope Bool.false_ne_true
      | _ => first
          | rfl
          | (rw [form] at scope; exact scope)
  · rintro (rfl | member)
    · rw [IsScope, root, file]
      trivial
    · obtain ⟨below, between, lies, opens, rfl⟩ := Placed.mem_gathered.mp member
      rw [IsScope, lies.form?_toTree]
      cases form : below.form <;> rw [form] at opens <;> trivial

end Tree

namespace ScopeTable

variable {branch : Branch} {table : ScopeTable}

/-- What is collected from the root of a file is exact. -/
theorem exact_of_collect (sound : branch.Sound) {docstring : Option String}
    (file : branch.whole.form = .file docstring)
    (result : collect branch.toTree branch.toTree.root = some table) :
    ∃ owners, Exact branch table owners := by
  obtain ⟨owners, coherent, opens, notes⟩ := coherent_of_collect sound file result
  refine ⟨owners, { coherent with
    sound := sound, isFile := ⟨docstring, file⟩, distinct := ?_, opened := ?_, once := ?_,
    complete := ?_ }⟩
  · rw [opens.nodup_iff, List.nodup_cons]
    refine ⟨fun member => ?_, Placed.nodup_gathered⟩
    obtain ⟨below, between, lies, passes, same⟩ := Placed.mem_gathered.mp member
    rw [lies.eq_of_id .root same, file] at passes
    cases passes
  · intro scope
    rw [opens.mem_iff, List.mem_cons, Tree.isScope_iff sound file]
  · exact notes.nodup_iff.mpr Placed.nodup_gathered
  · intro node text spelled
    suffices listed : node ∈ table.mentions.toList.map (·.node) from List.mem_map.mp listed
    rw [notes.mem_iff, Placed.mem_gathered]
    unfold Tree.nameText? at spelled
    split at spelled
    · rename_i found
      obtain ⟨placed, above, lies, same, form⟩ := Tree.exists_lies_of_form? found
      exact ⟨placed, above, lies, by rw [form]; rfl, same⟩
    · cases spelled

/-! ### What an exact table says about a scope -/

variable {owners : List NodeId} {place place' : ScopeId} {scope scope' node : NodeId}
  {name : String}

namespace Exact

variable (exact : Exact branch table owners)
include exact

theorem place_unique (found : owners[place]? = some scope)
    (found' : owners[place']? = some scope) : place = place' :=
  (List.getElem?_inj (List.getElem?_eq_some_iff.mp found).1 exact.distinct).mp
    (found.trans found'.symm)

/-- Whatever a name in a scope does, a mention in the scope says so. -/
theorem exists_mention_of_belongs (belongs : branch.toTree.Belongs node scope)
    (spelled : branch.toTree.nameText? node = some name) :
    ∃ mention ∈ table.mentions.toList, mention.node = node ∧
      owners[mention.scope]? = some scope ∧ mention.name = name ∧
        branch.toTree.Does node mention.act := by
  obtain ⟨mention, member, rfl⟩ := exact.complete node name spelled
  have faithful := exact.mentions mention member
  obtain ⟨scope', found, belongs'⟩ := faithful.scope
  have same : scope' = scope := belongs'.unique exact.sound belongs
  exact ⟨mention, member, rfl, same ▸ found, Option.some.inj (faithful.name.symm.trans spelled),
    faithful.act⟩

theorem exists_mention (found : owners[place]? = some scope)
    (belongs : branch.toTree.Belongs node scope)
    (spelled : branch.toTree.nameText? node = some name) :
    ∃ mention ∈ table.mentions.toList, mention.scope = place ∧ mention.name = name ∧
      branch.toTree.Does node mention.act := by
  obtain ⟨mention, member, -, found', named, does⟩ :=
    exact.exists_mention_of_belongs belongs spelled
  exact ⟨mention, member, exact.place_unique found' found, named, does⟩

/-- A mention in a scope is of a name that belongs to it. -/
theorem mention_faithful (found : owners[place]? = some scope) {mention : Mention}
    (member : mention ∈ table.mentions.toList) (inside : mention.scope = place) :
    branch.toTree.Belongs mention.node scope ∧
      branch.toTree.nameText? mention.node = some mention.name ∧
        branch.toTree.Does mention.node mention.act := by
  have faithful := exact.mentions mention member
  obtain ⟨scope', found', belongs⟩ := faithful.scope
  rw [inside, found, Option.some.injEq] at found'
  exact ⟨found' ▸ belongs, faithful.name, faithful.act⟩

theorem declares_iff (found : owners[place]? = some scope) :
    table.declares place name = true ↔ branch.toTree.Declares scope name := by
  rw [declares, ← Array.any_toList, List.any_eq_true]
  constructor
  · rintro ⟨mention, member, passes⟩
    simp only [Bool.and_eq_true, decide_eq_true_eq] at passes
    obtain ⟨⟨inside, acts⟩, rfl⟩ := passes
    obtain ⟨belongs, spelled, does⟩ := exact.mention_faithful found member inside
    cases act : mention.act with
    | bind kind =>
        rw [act] at does
        obtain ⟨-, text, form⟩ := does
        rw [Tree.nameText?, form, Option.some.injEq] at spelled
        exact .inl ⟨mention.node, belongs, spelled ▸ form⟩
    | declareGlobal =>
        rw [act] at does
        exact .inr (.inl ⟨mention.node, belongs, does, spelled⟩)
    | declareNonlocal =>
        rw [act] at does
        exact .inr (.inr ⟨mention.node, belongs, does, spelled⟩)
    | read => exact absurd act acts
  · intro declares
    suffices noted : ∃ mention ∈ table.mentions.toList, mention.scope = place ∧
        mention.name = name ∧ mention.act ≠ .read by
      obtain ⟨mention, member, inside, spelled, acts⟩ := noted
      exact ⟨mention, member, by simp [inside, spelled, acts]⟩
    rcases declares with ⟨node, belongs, form⟩ | ⟨node, belongs, declared, spelled⟩ |
      ⟨node, belongs, declared, spelled⟩
    · have bound : branch.toTree.nameText? node = some name := by rw [Tree.nameText?, form]
      obtain ⟨mention, member, inside, spelled, does⟩ := exact.exists_mention found belongs bound
      obtain ⟨kind, -, act⟩ := does.of_binds exact.sound form
      exact ⟨mention, member, inside, spelled, by simp [act]⟩
    · obtain ⟨mention, member, inside, spelled, does⟩ :=
        exact.exists_mention found belongs spelled
      exact ⟨mention, member, inside, spelled, by simp [does.of_declaredBy exact.sound declared]⟩
    · obtain ⟨mention, member, inside, spelled, does⟩ :=
        exact.exists_mention found belongs spelled
      exact ⟨mention, member, inside, spelled, by simp [does.of_declaredBy exact.sound declared]⟩

/-- A scope has a mention of a declared name where the tree has the declaration. -/
theorem exists_declaring_iff (found : owners[place]? = some scope) (isGlobal : Bool) :
    (∃ mention ∈ table.mentions.toList, (mention.scope = place ∧
      mention.act = if isGlobal then .declareGlobal else .declareNonlocal) ∧ mention.name = name) ↔
      branch.toTree.DeclaresAs isGlobal scope name := by
  constructor
  · rintro ⟨mention, member, ⟨inside, act⟩, rfl⟩
    obtain ⟨belongs, spelled, does⟩ := exact.mention_faithful found member inside
    rw [act] at does
    exact ⟨mention.node, belongs, by cases isGlobal <;> exact does, spelled⟩
  · rintro ⟨node, belongs, declared, spelled⟩
    obtain ⟨mention, member, inside, spelled, does⟩ := exact.exists_mention found belongs spelled
    exact ⟨mention, member, ⟨inside, does.of_declaredBy exact.sound declared⟩, spelled⟩

theorem declaresGlobal_iff (found : owners[place]? = some scope) :
    table.declaresGlobal place name = true ↔ branch.toTree.DeclaresAs true scope name := by
  rw [declaresGlobal, ← Array.any_toList, List.any_eq_true, ← exact.exists_declaring_iff found]
  simp only [Bool.and_eq_true, decide_eq_true_eq, if_true]

theorem declaresNonlocal_iff (found : owners[place]? = some scope) :
    table.declaresNonlocal place name = true ↔ branch.toTree.DeclaresAs false scope name := by
  rw [declaresNonlocal, ← Array.any_toList, List.any_eq_true, ← exact.exists_declaring_iff found]
  simp only [Bool.and_eq_true, decide_eq_true_eq, Bool.false_eq_true, if_false]

end Exact

end ScopeTable

end StructuralLint
