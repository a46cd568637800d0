import StructuralLint.Proofs.Tree.Completion
import StructuralLint.Symbol.Resolution

/-!
# Scopes as a relation

What the scopes of a tree are and what a name in them refers to, said without a walk: a node
belongs to the nearest scope around it that it stands inside of (`Tree.Belongs`), a scope declares
the names that are bound or declared in it (`Tree.Declares`), and where a scope declares a name,
the name belongs to the scope `Tree.Target` leads to. Each of these leads to one scope at most.
-/

namespace StructuralLint

namespace Tree

variable (tree : Tree)

/-- Whether a child of a node stands inside the scope that the node opens. The rest of a function
or a class, its decorators, type hints, defaults and arguments, stands outside. -/
def StandsInside (scope child : NodeId) : Prop :=
  match tree.form? scope with
  | some (.file _) => True
  | some (.function _) | some .classDef => child ∈ tree.attributes scope .body
  | some .lambda => child ∈ tree.attributes scope .expression
  | some form => form.kind.isComprehension = true
  | none => False

/-- Whether a child of a node is the name of the parameter that the node is. -/
def NamesParameter (parameter child : NodeId) : Prop :=
  tree.form? parameter = some .parameter ∧ child ∈ tree.attributes parameter .name

/-- `Belongs tree node scope`: the node belongs to the scope that another node opens. -/
inductive Belongs : NodeId → NodeId → Prop
  | inside {child scope : NodeId} :
      child ∈ tree.children scope → tree.StandsInside scope child → Belongs child scope
  /-- The name of a parameter belongs to the function that has the parameter. -/
  | parameter {function list parameter name : NodeId} :
      list ∈ tree.attributes function .parameters → parameter ∈ tree.attributes list .entry →
        tree.NamesParameter parameter name → Belongs name function
  | outside {child parent scope : NodeId} :
      child ∈ tree.children parent → ¬tree.StandsInside parent child →
        ¬tree.NamesParameter parent child → Belongs parent scope → Belongs child scope

/-- What a name that binds is there for, by the node that it stands in. -/
def bindingKind (node : NodeId) : UsageKind :=
  match tree.parent? node with
  | none => .binding
  | some parent =>
    match tree.form? parent with
    | some (.function _) =>
      if node ∈ tree.attributes parent .name then .functionDeclaration else .binding
    | some .classDef =>
      if node ∈ tree.attributes parent .name then .classDeclaration else .binding
    | some .parameter => if node ∈ tree.attributes parent .name then .parameter else .binding
    | some (.exceptClause _) =>
      if node ∈ tree.attributes parent .caught then .exceptionInstance else .binding
    | some (.plain .aliasedName) => .imported
    | _ => .binding

theorem binds_bindingKind (node : NodeId) : (tree.bindingKind node).binds = true := by
  rw [bindingKind]
  repeat' split
  all_goals rfl

/-- Whether a node opens a scope: the file does, and so do functions, classes and comprehensions. -/
def IsScope (scope : NodeId) : Prop :=
  match tree.form? scope with
  | some (.file _) | some (.function _) | some .classDef | some .lambda => True
  | some form => form.kind.isComprehension = true
  | none => False

/-- Whether a scope is that of a class. -/
def IsClass (scope : NodeId) : Prop := tree.form? scope = some .classDef

/-- A name is bound in a scope. -/
def Binds (scope : NodeId) (name : String) : Prop :=
  ∃ node, tree.Belongs node scope ∧ tree.form? node = some (.name name true)

/-- The name node stands in a declaration, a global one or another. -/
def DeclaredBy (isGlobal : Bool) (node : NodeId) : Prop :=
  ∃ declaration, tree.form? declaration = some (.scopeDeclaration isGlobal) ∧
    node ∈ tree.attributes declaration .declared

/-- A name is declared in a scope. -/
def DeclaresAs (isGlobal : Bool) (scope : NodeId) (name : String) : Prop :=
  ∃ node, tree.Belongs node scope ∧ tree.DeclaredBy isGlobal node ∧ tree.nameText? node = some name

/-- A scope says what a name is. -/
def Declares (scope : NodeId) (name : String) : Prop :=
  tree.Binds scope name ∨ tree.DeclaresAs true scope name ∨ tree.DeclaresAs false scope name

/-- `Nearest tree wanted scope found`: of the scopes around a scope, `found` is the nearest wanted
one. -/
inductive Nearest (wanted : NodeId → Prop) : NodeId → NodeId → Prop
  | here {scope around : NodeId} :
      tree.Belongs scope around → wanted around → Nearest wanted scope around
  | further {scope around found : NodeId} :
      tree.Belongs scope around → ¬wanted around → Nearest wanted around found →
        Nearest wanted scope found

/-- A scope that tells the scopes inside what a name is. -/
def Informs (name : String) (scope : NodeId) : Prop :=
  ¬tree.IsClass scope ∧ tree.Declares scope name

/-- A scope that a nonlocal declaration may refer to. -/
def Offers (name : String) (scope : NodeId) : Prop :=
  scope ≠ tree.root ∧ tree.Informs name scope

/-- `Target tree name scope target`: if `scope` says what the name is, the name belongs to
`target`. -/
inductive Target (name : String) : NodeId → NodeId → Prop
  | file {scope : NodeId} : tree.DeclaresAs true scope name → Target name scope tree.root
  | around {scope enclosing target : NodeId} :
      ¬tree.DeclaresAs true scope name → tree.DeclaresAs false scope name →
        tree.Nearest (tree.Offers name) scope enclosing → Target name enclosing target →
          Target name scope target
  | nowhere {scope : NodeId} :
      ¬tree.DeclaresAs true scope name → tree.DeclaresAs false scope name →
        (∀ enclosing, ¬tree.Nearest (tree.Offers name) scope enclosing) → Target name scope scope
  | own {scope : NodeId} :
      ¬tree.DeclaresAs true scope name → ¬tree.DeclaresAs false scope name →
        Target name scope scope

/-- The scope that says what a name is that is read in a scope: the scope itself, or the nearest
one around it that says so and is no class. -/
def Says (name : String) (scope saying : NodeId) : Prop :=
  tree.Declares scope name ∧ saying = scope ∨
    ¬tree.Declares scope name ∧ tree.Nearest (tree.Informs name) scope saying

/-! ### At most one -/

variable {tree} {branch : Branch}

/-- **A node belongs to one scope.** -/
theorem Belongs.unique (sound : branch.Sound) {node scope scope' : NodeId}
    (left : branch.toTree.Belongs node scope) (right : branch.toTree.Belongs node scope') :
    scope = scope' := by
  -- the child of a parameter that names it has its own case, so the three cases exclude each other
  have apart {parameter child : NodeId} (names : branch.toTree.NamesParameter parameter child) :
      ¬branch.toTree.StandsInside parameter child := by
    rw [StandsInside, names.1]
    exact Bool.false_ne_true
  have below {parameter child : NodeId} (names : branch.toTree.NamesParameter parameter child) :
      child ∈ branch.toTree.children parameter :=
    Branch.mem_children_of_mem_attributes sound rfl names.2
  induction left generalizing scope' with
  | inside member inside =>
      cases right with
      | inside member' _ => exact Branch.eq_of_mem_children member member'
      | parameter _ _ names =>
          cases Branch.eq_of_mem_children member (below names)
          exact absurd inside (apart names)
      | outside member' outside _ _ =>
          cases Branch.eq_of_mem_children member member'
          exact absurd inside outside
  | parameter list entry names =>
      cases right with
      | inside member' inside =>
          cases Branch.eq_of_mem_children member' (below names)
          exact absurd inside (apart names)
      | parameter list' entry' names' =>
          cases Branch.eq_of_mem_children (below names) (below names')
          cases Branch.eq_of_mem_children
            (Branch.mem_children_of_mem_attributes sound rfl entry)
            (Branch.mem_children_of_mem_attributes sound rfl entry')
          exact Branch.eq_of_mem_children
            (Branch.mem_children_of_mem_attributes sound rfl list)
            (Branch.mem_children_of_mem_attributes sound rfl list')
      | outside member' _ other _ =>
          cases Branch.eq_of_mem_children member' (below names)
          exact absurd names other
  | outside member outside other _ ih =>
      cases right with
      | inside member' inside =>
          cases Branch.eq_of_mem_children member member'
          exact absurd inside outside
      | parameter _ _ names =>
          cases Branch.eq_of_mem_children member (below names)
          exact absurd names other
      | outside member' _ _ belongs =>
          cases Branch.eq_of_mem_children member member'
          exact ih belongs

/-- A declaration belongs where the names belong that it declares. -/
theorem Belongs.of_declared (sound : branch.Sound) {node scope declaration : NodeId}
    {isGlobal : Bool} (belongs : branch.toTree.Belongs node scope)
    (form : branch.toTree.form? declaration = some (.scopeDeclaration isGlobal))
    (declared : node ∈ branch.toTree.attributes declaration .declared) :
    branch.toTree.Belongs declaration scope := by
  have member := Branch.mem_children_of_mem_attributes sound rfl declared
  cases belongs with
  | inside member' inside =>
      cases Branch.eq_of_mem_children member member'
      rw [StandsInside, form] at inside
      cases isGlobal <;> cases inside
  | parameter _ _ names =>
      cases Branch.eq_of_mem_children member
        (Branch.mem_children_of_mem_attributes sound rfl names.2)
      have parameter := names.1
      rw [form] at parameter
      cases parameter
  | outside member' _ _ belongs =>
      cases Branch.eq_of_mem_children member member'
      exact belongs

theorem Nearest.unique (sound : branch.Sound) {wanted : NodeId → Prop}
    {scope found found' : NodeId} (left : branch.toTree.Nearest wanted scope found)
    (right : branch.toTree.Nearest wanted scope found') : found = found' := by
  induction left with
  | here belongs yes =>
      cases right with
      | here belongs' _ => exact belongs.unique sound belongs'
      | further belongs' no _ =>
          cases belongs.unique sound belongs'
          exact absurd yes no
  | further belongs no _ ih =>
      cases right with
      | here belongs' yes =>
          cases belongs.unique sound belongs'
          exact absurd yes no
      | further belongs' _ later =>
          cases belongs.unique sound belongs'
          exact ih later

theorem Target.unique (sound : branch.Sound) {name : String} {scope target target' : NodeId}
    (left : branch.toTree.Target name scope target)
    (right : branch.toTree.Target name scope target') : target = target' := by
  induction left with
  | file declares => cases right <;> first | rfl | contradiction
  | around no declares nearest _ ih =>
      cases right with
      | around _ _ nearest' later =>
          cases nearest.unique sound nearest'
          exact ih later
      | nowhere _ _ none => exact absurd nearest (none _)
      | file declares' => exact absurd declares' no
      | own _ other => exact absurd declares other
  | nowhere no declares none =>
      cases right with
      | around _ _ nearest' _ => exact absurd nearest' (none _)
      | nowhere => rfl
      | file declares' => exact absurd declares' no
      | own => rfl
  | own no other =>
      cases right with
      | around _ declares' _ _ => exact absurd declares' other
      | nowhere => rfl
      | file declares' => exact absurd declares' no
      | own => rfl

theorem Says.unique (sound : branch.Sound) {name : String} {scope saying saying' : NodeId}
    (left : branch.toTree.Says name scope saying) (right : branch.toTree.Says name scope saying') :
    saying = saying' := by
  rcases left with ⟨declares, rfl⟩ | ⟨no, nearest⟩
  · rcases right with ⟨-, rfl⟩ | ⟨no, -⟩
    · rfl
    · exact absurd declares no
  · rcases right with ⟨declares, -⟩ | ⟨-, nearest'⟩
    · exact absurd declares no
    · exact nearest.unique sound nearest'

end Tree

/-! ### Children and scopes -/

/-- Whether a part in a role, or a child without one, stands inside the scope that a node of this
form opens. -/
def Form.holds (form : Form) (role : Option Role) : Bool :=
  match form with
  | .file _ => true
  | .function _ | .classDef => role = some .body
  | .lambda => role = some .expression
  | .plain kind => kind.isComprehension
  | _ => false

/-- What a name in a role is there for. -/
def Form.introduces (form : Form) (role : Option Role) : UsageKind :=
  match form, role with
  | .function _, some .name => .functionDeclaration
  | .classDef, some .name => .classDeclaration
  | .parameter, some .name => .parameter
  | .exceptClause _, some .caught => .exceptionInstance
  | .plain .aliasedName, _ => .imported
  | _, _ => .binding

namespace Placed.Lies

variable {branch : Branch} {parent child : Placed} {above : List Placed} {slot : Option Slot}
  {scope : NodeId}

theorem mem_attributes_iff (lies : Lies branch.whole parent above) (sound : branch.Sound)
    (member : (slot, child) ∈ parent.children) {role : Role} (other : role.isMark = false) :
    child.id ∈ branch.toTree.attributes parent.id role ↔ slot.bind (·.role) = some role := by
  rw [lies.attributes_of_sound sound other, List.mem_map]
  constructor
  · rintro ⟨lower, among, same⟩
    obtain ⟨slot', own, among⟩ := mem_playing_iff.mp among
    obtain ⟨rfl, -⟩ := eq_of_children among member same
    exact own
  · intro own
    obtain ⟨slot', rfl, own⟩ := Option.bind_eq_some_iff.mp own
    exact ⟨child, mem_playing_iff.mpr ⟨slot', own, member⟩, rfl⟩

theorem standsInside_iff (lies : Lies branch.whole parent above) (sound : branch.Sound)
    (member : (slot, child) ∈ parent.children) :
    branch.toTree.StandsInside parent.id child.id ↔
      parent.form.holds (slot.bind (·.role)) = true := by
  have body := lies.mem_attributes_iff sound member (show Role.body.isMark = false from rfl)
  have value := lies.mem_attributes_iff sound member (show Role.expression.isMark = false from rfl)
  rw [Tree.StandsInside, lies.form?_toTree]
  cases form : parent.form with
  | scopeDeclaration isGlobal =>
      cases isGlobal <;> simp [Form.holds, Form.kind, Kind.isComprehension]
  | _ => simp [Form.holds, Form.kind, Kind.isComprehension, body, value]

theorem namesParameter_iff (lies : Lies branch.whole parent above) (sound : branch.Sound)
    (member : (slot, child) ∈ parent.children) :
    branch.toTree.NamesParameter parent.id child.id ↔
      parent.form = .parameter ∧ slot.bind (·.role) = some .name := by
  rw [Tree.NamesParameter, lies.form?_toTree, Option.some.injEq,
    lies.mem_attributes_iff sound member rfl]

theorem bindingKind_child (lies : Lies branch.whole parent above) (sound : branch.Sound)
    (member : (slot, child) ∈ parent.children) :
    branch.toTree.bindingKind child.id = parent.form.introduces (slot.bind (·.role)) := by
  have names := lies.mem_attributes_iff sound member (show Role.name.isMark = false from rfl)
  have caught := lies.mem_attributes_iff sound member (show Role.caught.isMark = false from rfl)
  have around := (Lies.child lies member).parent?_toTree
  rw [List.head?_cons, Option.map_some] at around
  rw [Tree.bindingKind, around]
  simp only [lies.form?_toTree, names, caught]
  generalize slot.bind (·.role) = role
  cases parent.form with
  | function | classDef | parameter =>
      by_cases same : role = some .name
      · simp [same, Form.introduces]
      · simp [same, Form.introduces]
  | exceptClause =>
      by_cases same : role = some .caught
      · simp [same, Form.introduces]
      · simp [same, Form.introduces]
  | plain kind => cases kind <;> simp [Form.introduces]
  | _ => rfl

/-- A child that stands inside belongs to the node. -/
theorem belongs_inside (lies : Lies branch.whole parent above) (sound : branch.Sound)
    (member : (slot, child) ∈ parent.children)
    (inside : parent.form.holds (slot.bind (·.role)) = true) :
    branch.toTree.Belongs child.id parent.id :=
  .inside (Branch.mem_children_toTree.mpr ⟨parent, above, slot, child, lies, rfl, member, rfl⟩)
    ((lies.standsInside_iff sound member).mpr inside)

/-- A child that stands outside belongs where the node belongs. -/
theorem belongs_outside (lies : Lies branch.whole parent above) (sound : branch.Sound)
    (member : (slot, child) ∈ parent.children)
    (outside : parent.form.holds (slot.bind (·.role)) = false)
    (other : ¬(parent.form = .parameter ∧ slot.bind (·.role) = some .name))
    (belongs : branch.toTree.Belongs parent.id scope) : branch.toTree.Belongs child.id scope := by
  refine .outside
    (Branch.mem_children_toTree.mpr ⟨parent, above, slot, child, lies, rfl, member, rfl⟩) ?_ ?_
    belongs
  · rw [lies.standsInside_iff sound member, outside]
    exact Bool.false_ne_true
  · rwa [lies.namesParameter_iff sound member]

/-- The name of a parameter belongs to the function that has the parameter. -/
theorem belongs_parameter {list entry name : Placed} {aboveList aboveEntry : List Placed}
    (lies : Lies branch.whole parent above) (sound : branch.Sound)
    (lists : list ∈ parent.playing .parameters)
    (liesList : Lies branch.whole list aboveList) (entries : entry ∈ list.playing .entry)
    (liesEntry : Lies branch.whole entry aboveEntry) (form : entry.form = .parameter)
    (names : name ∈ entry.playing .name) : branch.toTree.Belongs name.id parent.id := by
  refine .parameter ((Branch.mem_attributes_toTree sound rfl).mpr
    ⟨parent, above, list, lies, rfl, lists, rfl⟩)
    ((Branch.mem_attributes_toTree sound rfl).mpr
      ⟨list, aboveList, entry, liesList, rfl, entries, rfl⟩) ⟨?_, ?_⟩
  · rw [liesEntry.form?_toTree, form]
  · exact (Branch.mem_attributes_toTree sound rfl).mpr
      ⟨entry, aboveEntry, name, liesEntry, rfl, names, rfl⟩

/-- Only a part that plays that role is a declared name. -/
theorem not_declaredBy (lies : Lies branch.whole parent above) (sound : branch.Sound)
    (member : (slot, child) ∈ parent.children)
    (other : slot.bind (·.role) ≠ some .declared) (isGlobal : Bool) :
    ¬branch.toTree.DeclaredBy isGlobal child.id := by
  rintro ⟨declaration, -, declared⟩
  have same := Branch.eq_of_mem_children
    (Branch.mem_children_of_mem_attributes sound rfl declared)
    (Branch.mem_children_toTree.mpr ⟨parent, above, slot, child, lies, rfl, member, rfl⟩)
  subst same
  exact other ((lies.mem_attributes_iff sound member rfl).mp declared)

end Placed.Lies

end StructuralLint
