import StructuralLint.Proofs.Symbol.Parameters

/-!
# One step of a collection

What the walk that collects scopes does at one node is said by `ScopeTable.Entered`: the table grows
by the names and the scope of the node itself, and these, together with what is below the nodes that
are left to visit, are all the names and scopes below the node. So nothing is missed and nothing is
met twice (`ScopeTable.entered_of_enter`).
-/

namespace StructuralLint

/-- Whether the walk visits nodes of this form inside a file. -/
def Form.isVisited : Form → Bool
  | .file _ | .parameter | .tupleParameter | .parameterList => false
  | _ => true

/-- Whether parts in a role are nodes that the walk visits. Of others it takes note right away. -/
def Role.leadsOn : Role → Bool
  | .name | .caught | .parameters | .entry | .declared => false
  | _ => true

/-- Whether the walk visits all children of a node of this form alike. -/
def Form.isEven : Form → Bool
  | .plain _ | .file _ | .raise | .elseClause | .finallyClause | .tryStatement | .ifStatement
  | .whileLoop | .forLoop _ => true
  | _ => false

/-- A part is a node to visit, but for those of a parameter list. -/
theorem Form.isVisited_of_admits {form part : Form} {role : Option Role}
    (fits : form.admits role part = true) (onward : ∀ own, role = some own → own.leadsOn = true) :
    part.isVisited = true := by
  have visits : (part.isFree || part.isBinding || decide (part.kind = .exceptClause) ||
      decide (part = elseClause) || decide (part = finallyClause)) = true := by
    rw [admits.eq_def] at fits
    split at fits <;> simp_all [Role.leadsOn]
    all_goals simp [isFree]
  revert visits
  cases part <;> simp [isFree, isBinding, Form.kind, isVisited]

/-- Where the walk visits a name, it binds what it says itself. -/
theorem Form.introduces_of_leadsOn {form : Form} {role : Option Role}
    (onward : ∀ own, role = some own → own.leadsOn = true) :
    form.introduces role = if form.kind = .aliasedName then .imported else .binding := by
  have apart : role ≠ some .name ∧ role ≠ some .caught := by
    constructor
    · intro same
      cases onward _ same
    · intro same
      cases onward _ same
  cases form with
  | plain kind => cases kind <;> rfl
  | scopeDeclaration isGlobal => cases isGlobal <;> rfl
  | function | classDef | parameter | exceptClause => simp [introduces, kind, apart]
  | _ => rfl

theorem Form.leadsOn_of_isEven {form : Form} {role : Role} (even : form.isEven = true)
    (known : some role ∈ form.partRoles) : role.leadsOn = true := by
  cases role with
  | name | caught | parameters | entry | declared =>
      revert even known
      cases form <;> simp [isEven, partRoles]
  | _ => rfl

namespace ScopeTable

/-- A node that is left to visit in a scope. -/
structure Ready (branch : Branch) (owners : List NodeId) (placed : Placed) (scope : ScopeId) :
    Prop where
  lies : ∃ above, Placed.Lies branch.whole placed above
  isVisited : placed.form.isVisited = true
  belongs : ∃ owner, owners[scope]? = some owner ∧ branch.toTree.Belongs placed.id owner
  undeclared : ∀ isGlobal, ¬branch.toTree.DeclaredBy isGlobal placed.id
  bindingKind : branch.toTree.bindingKind placed.id =
    if (branch.toTree.parent? placed.id).any (branch.toTree.isKind [.aliasedName]) then .imported
    else .binding

/-- All of them are ready, and stand below the node. -/
def AllReady (branch : Branch) (owners : List NodeId) (placed : Placed)
    (todo : List (Placed × ScopeId)) : Prop :=
  ∀ item ∈ todo, Ready branch owners item.1 item.2 ∧ item.1.id < placed.id

/-- All of them are names. -/
def AllNames (noted : List Placed) : Prop :=
  ∀ name ∈ noted, name.Shaped ∧ ∃ text binds, name.form = .name text binds

/-- `Entered branch placed table owners table' owners' noted todo`: the walk has taken note of a
node. It noted these names below the node and has these nodes left to visit. -/
structure Entered (branch : Branch) (placed : Placed) (table : ScopeTable) (owners : List NodeId)
    (table' : ScopeTable) (owners' : List NodeId) (noted : List Placed)
    (todo : List (Placed × ScopeId)) : Prop where
  grows : Grows branch.toTree table owners table' owners'
    ((if placed.form.isName then [placed.id] else []) ++ noted.map (·.id))
    (if placed.form.opensScope then [placed.id] else [])
  names : AllNames noted
  ready : AllReady branch owners' placed todo
  covers : ∀ test, Form.Counted test → (placed.gathered test).Perm
    ((if test placed.form then [placed.id] else []) ++
      (noted.flatMap (Placed.gathered test) ++ todo.flatMap fun item => item.1.gathered test))

/-- The numbers of nodes that are left to visit. -/
def pendingOf (todo : List (Placed × ScopeId)) : List (NodeId × ScopeId) :=
  todo.map fun item => (item.1.id, item.2)

variable {branch : Branch} {placed child : Placed} {above : List Placed} {owners : List NodeId}
  {table table' : ScopeTable} {scope : ScopeId} {owner : NodeId} {pending : List (NodeId × ScopeId)}

theorem Ready.mono (ready : Ready branch owners placed scope) (opened : List NodeId) :
    Ready branch (owners ++ opened) placed scope := by
  obtain ⟨owner, found, belongs⟩ := ready.belongs
  refine { ready with belongs := ⟨owner, ?_, belongs⟩ }
  rw [List.getElem?_append_left (List.getElem?_eq_some_iff.mp found).1]
  exact found

theorem Ready.shaped (ready : Ready branch owners placed scope) (sound : branch.Sound)
    (other : ∀ token, placed.form ≠ .token token) : placed.Shaped := by
  obtain ⟨above, lies⟩ := ready.lies
  exact Placed.shaped_of_form (sound placed above lies) other

/-- A child is left to visit where it belongs. -/
theorem ready_child (lies : Placed.Lies branch.whole placed above) (sound : branch.Sound)
    {slot : Option Slot} (member : (slot, child) ∈ placed.children) (shaped : placed.Shaped)
    (onward : ∀ role, slot.bind (·.role) = some role → role.leadsOn = true)
    (found : owners[scope]? = some owner) (belongs : branch.toTree.Belongs child.id owner) :
    Ready branch owners child scope := by
  refine ⟨⟨_, .child lies member⟩, ?_, ⟨owner, found, belongs⟩,
    lies.not_declaredBy sound member fun own => ?_, ?_⟩
  · cases slot with
    | none =>
        obtain ⟨token, form⟩ := Placed.form_of_isLeaf (shaped.slotless child member)
        rw [form]
        rfl
    | some slot =>
        exact Form.isVisited_of_admits (shaped.admitted slot child member).2 onward
  · exact absurd (onward _ own) Bool.false_ne_true
  · rw [lies.bindingKind_child sound member, Form.introduces_of_leadsOn onward,
      (Placed.Lies.child lies member).parent?_toTree]
    simp [Tree.isKind, Tree.kind?, lies.form?_toTree]

/-- The parts in a role are left to visit where they belong. -/
theorem ready_playing (lies : Placed.Lies branch.whole placed above) (sound : branch.Sound)
    (shaped : placed.Shaped) {role : Role} (onward : role.leadsOn = true)
    (found : owners[scope]? = some owner)
    (belongs : ∀ part ∈ placed.playing role, branch.toTree.Belongs part.id owner) :
    ∀ part ∈ placed.playing role, Ready branch owners part scope ∧ part.id < placed.id := by
  intro part member
  obtain ⟨slot, own, among⟩ := Placed.mem_playing_iff.mp member
  refine ⟨ready_child lies sound among shaped ?_ found (belongs part member),
    Placed.id_child_lt among⟩
  rintro role' same
  rw [Option.bind_some, own, Option.some.injEq] at same
  exact same ▸ onward

end ScopeTable

namespace Placed.Lies

variable {branch : Branch} {placed child : Placed} {above : List Placed} {role : Role}
  {owner : NodeId}

/-- A part in a role that stands inside belongs to the node. -/
theorem belongs_playing_inside (lies : Lies branch.whole placed above) (sound : branch.Sound)
    (inside : placed.form.holds (some role) = true) :
    ∀ part ∈ placed.playing role, branch.toTree.Belongs part.id placed.id := by
  intro part member
  obtain ⟨slot, own, among⟩ := mem_playing_iff.mp member
  apply lies.belongs_inside sound among
  rw [Option.bind_some, own]
  exact inside

/-- A part in a role that stands outside belongs where the node belongs. -/
theorem belongs_playing_outside (lies : Lies branch.whole placed above) (sound : branch.Sound)
    (outside : placed.form.holds (some role) = false)
    (other : ¬(placed.form = .parameter ∧ role = .name))
    (belongs : branch.toTree.Belongs placed.id owner) :
    ∀ part ∈ placed.playing role, branch.toTree.Belongs part.id owner := by
  intro part member
  obtain ⟨slot, own, among⟩ := mem_playing_iff.mp member
  refine lies.belongs_outside sound among ?_ ?_ belongs
  · rw [Option.bind_some, own]
    exact outside
  · rintro ⟨form, names⟩
    rw [Option.bind_some, own, Option.some.injEq] at names
    exact other ⟨form, names⟩

end Placed.Lies

namespace ScopeTable

variable {branch : Branch} {placed : Placed} {above : List Placed} {owners : List NodeId}
  {table table' : ScopeTable} {scope : ScopeId} {owner : NodeId} {pending : List (NodeId × ScopeId)}

/-- Nodes that are left to visit in one scope. -/
def inScope (scope : ScopeId) (parts : List Placed) : List (Placed × ScopeId) :=
  parts.map (·, scope)

theorem pendingOf_inScope (scope : ScopeId) (parts : List Placed) :
    pendingOf (inScope scope parts) = (parts.map (·.id)).map (·, scope) := by
  simp [pendingOf, inScope, Function.comp_def]

theorem pendingOf_append (left right : List (Placed × ScopeId)) :
    pendingOf (left ++ right) = pendingOf left ++ pendingOf right := List.map_append

@[simp]
theorem flatMap_inScope {β : Type} (f : Placed → List β) (scope : ScopeId) (parts : List Placed) :
    ((inScope scope parts).flatMap fun item => f item.1) = parts.flatMap f := by
  rw [inScope, List.flatMap_map]

theorem mem_inScope {item : Placed × ScopeId} {parts : List Placed} :
    item ∈ inScope scope parts ↔ item.1 ∈ parts ∧ item.2 = scope := by
  obtain ⟨part, place⟩ := item
  simp [inScope, eq_comm]

theorem AllReady.append {left right : List (Placed × ScopeId)}
    (first : AllReady branch owners placed left) (second : AllReady branch owners placed right) :
    AllReady branch owners placed (left ++ right) := by
  intro item member
  rcases List.mem_append.mp member with member | member
  · exact first item member
  · exact second item member

theorem AllReady.inScope {parts : List Placed}
    (each : ∀ part ∈ parts, Ready branch owners part scope ∧ part.id < placed.id) :
    AllReady branch owners placed (inScope scope parts) := by
  intro item member
  obtain ⟨among, rfl⟩ := mem_inScope.mp member
  exact each item.1 among

theorem AllNames.append {left right : List Placed} (first : AllNames left)
    (second : AllNames right) : AllNames (left ++ right) := by
  intro name member
  rcases List.mem_append.mp member with member | member
  · exact first name member
  · exact second name member

theorem allNames_playing (lies : Placed.Lies branch.whole placed above) (sound : branch.Sound)
    (shaped : placed.Shaped) {role : Role} (names : role = .name ∨ role = .caught) :
    AllNames (placed.playing role) := by
  intro name member
  obtain ⟨text, form⟩ := Form.binds_of_admits names (shaped.admits_playing member).2
  exact ⟨lies.shaped_playing sound shaped member, text, true, form⟩

theorem allNames_entries (lies : Placed.Lies branch.whole placed above) (sound : branch.Sound)
    (shaped : placed.Shaped) : AllNames (placed.entries.flatMap (·.playing .name)) := by
  intro name member
  obtain ⟨entry, among, named⟩ := List.mem_flatMap.mp member
  obtain ⟨-, own, list, lists, entries, lower⟩ := Placed.mem_entries lies sound shaped among
  exact allNames_playing lower sound own (.inl rfl) name named

/-- The details of the parameters are left to visit around the function. -/
theorem ready_details (lies : Placed.Lies branch.whole placed above) (sound : branch.Sound)
    (shaped : placed.Shaped) (callable : placed.form.holds (some .parameters) = false)
    (other : placed.form ≠ .parameter) (found : owners[scope]? = some owner)
    (belongs : branch.toTree.Belongs placed.id owner) :
    ∀ part ∈ placed.entries.flatMap Placed.details,
      Ready branch owners part scope ∧ part.id < placed.id := by
  intro part member
  obtain ⟨entry, among, detail⟩ := List.mem_flatMap.mp member
  obtain ⟨form, own, list, lists, entries, lower⟩ := Placed.mem_entries lies sound shaped among
  have around : branch.toTree.Belongs list.id owner :=
    lies.belongs_playing_outside sound callable (fun both => other both.1) belongs list lists
  have listForm := shaped.form_parameters lists
  have entryBelongs : branch.toTree.Belongs entry.id owner := by
    refine (lies.child_playing lists).belongs_playing_outside sound ?_ ?_ around entry entries
    · rw [listForm]
      rfl
    · rw [listForm]
      rintro ⟨⟨⟩, -⟩
  have below : entry.id < placed.id := by
    obtain ⟨_, -, first⟩ := Placed.mem_playing_iff.mp lists
    obtain ⟨_, -, second⟩ := Placed.mem_playing_iff.mp entries
    exact Nat.lt_trans (Placed.id_child_lt second) (Placed.id_child_lt first)
  -- the name of an entry belongs to the function, but its type hint and its default do not
  have each : ∀ role : Role, role.leadsOn = true → role ≠ .name → ∀ part ∈ entry.playing role,
      Ready branch owners part scope ∧ part.id < placed.id := by
    intro role onward unnamed part member
    have ready := ready_playing lower sound own onward found
      (lower.belongs_playing_outside sound (by rw [form]; rfl) (fun both => unnamed both.2)
        entryBelongs) part member
    exact ⟨ready.1, Nat.lt_trans ready.2 below⟩
  rcases List.mem_append.mp detail with hint | default
  · exact each .hint rfl (by decide) part hint
  · exact each .defaultValue rfl (by decide) part default

/-- What is below a node is what is below its parts, role by role. -/
theorem gathered_perm_of_roles {test : Form → Bool} (counted : Form.Counted test)
    (shaped : placed.Shaped) (roles : List Role)
    (parts : placed.form.partRoles = roles.map some) :
    (placed.gathered test).Perm ((if test placed.form then [placed.id] else []) ++
      roles.flatMap fun role => (placed.playing role).flatMap (Placed.gathered test)) := by
  have below := Placed.gathered_perm test counted.token shaped
  rw [parts, List.flatMap_map] at below
  exact below

/-- A definition is noted by its name, and its scope is opened with the next number. -/
theorem define_grows (coherent : Coherent branch.toTree table owners)
    (lies : Placed.Lies branch.whole placed above) (sound : branch.Sound) (shaped : placed.Shaped)
    {kind : UsageKind} (introduces : placed.form.introduces (some .name) = kind) {isClass : Bool}
    (same : isClass = true ↔ branch.toTree.IsClass placed.id) (found : owners[scope]? = some owner)
    (belongs : branch.toTree.Belongs placed.id owner)
    (around : ∀ part ∈ placed.playing .name, branch.toTree.Belongs part.id owner) {name : NodeId}
    (present : branch.toTree.attribute? placed.id .name = some name) :
    (table.mention branch.toTree scope name (.bind kind)).scopes.size = owners.length ∧
      Grows branch.toTree table owners
        ((table.mention branch.toTree scope name (.bind kind)).openScope scope isClass).1
        (owners ++ [placed.id]) ((placed.playing .name).map (·.id)) [placed.id] := by
  have named := bindPart_grows coherent lies sound shaped (.inl rfl) introduces found around
  rw [present] at named
  have opened := openScope_grows named.coherent isClass found belongs same
  exact ⟨named.coherent.size.symm, (named.trans opened).of_perm (by simp) (by simp)⟩

/-- The names in a declaration are noted one after the other. -/
theorem declare_grows (coherent : Coherent branch.toTree table owners)
    (lies : Placed.Lies branch.whole placed above) (sound : branch.Sound) (shaped : placed.Shaped)
    {isGlobal : Bool} (form : placed.form = .scopeDeclaration isGlobal) {act : Act}
    (acts : act = if isGlobal then .declareGlobal else .declareNonlocal)
    (found : owners[scope]? = some owner) (belongs : branch.toTree.Belongs placed.id owner) :
    Grows branch.toTree table owners
      ((branch.toTree.attributes placed.id .declared).foldl
        (fun table name => table.mention branch.toTree scope name act) table)
      owners ((placed.playing .declared).map (·.id)) [] := by
  have each : ∀ name ∈ placed.playing .declared, branch.toTree.Belongs name.id owner ∧
      (∃ text, branch.toTree.nameText? name.id = some text) ∧ branch.toTree.Does name.id act := by
    intro name member
    have declared : branch.toTree.DeclaredBy isGlobal name.id :=
      ⟨placed.id, by rw [lies.form?_toTree, form],
        (Branch.mem_attributes_toTree sound rfl).mpr ⟨placed, above, name, lies, rfl, member, rfl⟩⟩
    have known := (lies.child_playing member).form?_toTree
    obtain ⟨text, spelled⟩ := Form.reads_of_admits form (shaped.admits_playing member).2
    rw [spelled] at known
    refine ⟨?_, ⟨text, by rw [Tree.nameText?, known]⟩, ?_⟩
    · refine lies.belongs_playing_outside sound ?_ ?_ belongs name member
      · rw [form]
        rfl
      · rw [form]
        rintro ⟨⟨⟩, -⟩
    · cases isGlobal <;> exact acts ▸ declared
  rw [lies.attributes_of_sound sound rfl, List.foldl_map]
  generalize placed.playing .declared = names at each
  clear acts
  induction names generalizing table with
  | nil => exact .refl coherent
  | cons name rest ih =>
      obtain ⟨around, ⟨text, spelled⟩, does⟩ := each name List.mem_cons_self
      have first := mention_grows coherent found around spelled does
      have later := ih first.coherent fun other member => each other (List.mem_cons_of_mem _ member)
      exact first.trans later

/-- The children of a node are left to visit in the scope that they belong to. -/
theorem entered_children {owners' : List NodeId} (inner : ScopeId)
    (grows : Grows branch.toTree table owners table' owners' []
      (if placed.form.opensScope then [placed.id] else []))
    (lies : Placed.Lies branch.whole placed above) (sound : branch.Sound) (shaped : placed.Shaped)
    (even : placed.form.isEven = true) (found : owners'[inner]? = some owner)
    (belongs : ∀ slot child, (slot, child) ∈ placed.children →
      branch.toTree.Belongs child.id owner) :
    ∃ todo, (branch.toTree.children placed.id).map (·, inner) = pendingOf todo ∧
      Entered branch placed table owners table' owners' [] todo := by
  refine ⟨inScope inner (placed.children.map (·.2)), ?_, ?_, ?_, .inScope ?_, ?_⟩
  · rw [lies.children_toTree, pendingOf_inScope]
    simp
  · have unnamed : placed.form.isName = false := by
      revert even
      cases placed.form <;> simp [Form.isEven, Form.isName]
    simpa [unnamed] using grows
  · simp [AllNames]
  · intro part member
    obtain ⟨⟨slot, child⟩, among, rfl⟩ := List.mem_map.mp member
    refine ⟨ready_child lies sound among shaped ?_ found (belongs slot child among),
      Placed.id_child_lt among⟩
    intro role own
    obtain ⟨slot, rfl, plays⟩ := Option.bind_eq_some_iff.mp own
    have known := Form.mem_partRoles (shaped.admitted slot child among).2
    rw [plays] at known
    exact Form.leadsOn_of_isEven even known
  · intro test counted
    rw [Placed.gathered_eq, flatMap_inScope, List.flatMap_map]
    simp

theorem enter_even (lies : Placed.Lies branch.whole placed above)
    (even : placed.form.isEven = true) :
    table.enter branch.toTree placed.id scope =
      if placed.form.kind.isComprehension then
        some ((table.openScope scope false).1,
          (branch.toTree.children placed.id).map (·, table.scopes.size))
      else some (table, (branch.toTree.children placed.id).map (·, scope)) := by
  rw [enter, lies.form?_toTree]
  cases form : placed.form <;> rw [form] at even <;> first | rfl | cases even

/-! ### The forms of a node -/

section

variable (coherent : Coherent branch.toTree table owners) (sound : branch.Sound)
  (ready : Ready branch owners placed scope)
  (result : table.enter branch.toTree placed.id scope = some (table', pending))
include coherent sound ready result

theorem entered_function {isAsync : Bool} (form : placed.form = .function isAsync) :
    ∃ owners' noted todo, pending = pendingOf todo ∧
      Entered branch placed table owners table' owners' noted todo := by
  have shaped := ready.shaped sound (by rw [form]; simp)
  obtain ⟨above, lies⟩ := ready.lies
  obtain ⟨owner, found, belongs⟩ := ready.belongs
  have outside {role : Role} (other : role ≠ .body) :
      ∀ part ∈ placed.playing role, branch.toTree.Belongs part.id owner :=
    lies.belongs_playing_outside sound (by rw [form]; simpa [Form.holds] using other)
      (by rw [form]; simp) belongs
  rw [enter, lies.form?_toTree, form] at result
  obtain ⟨name, present, result⟩ := Option.bind_eq_some_iff.mp result
  obtain ⟨number, opened⟩ := define_grows coherent lies sound shaped
    (show _ = UsageKind.functionDeclaration by rw [form]; rfl)
    (show false = true ↔ _ by rw [Tree.IsClass, lies.form?_toTree, form]; simp) found belongs
    (outside (by decide)) present
  have inner : (owners ++ [placed.id])[owners.length]? = some placed.id :=
    List.getElem?_concat_length
  have outer := opened.getElem?_owners found
  obtain ⟨last, bound, grows⟩ :=
    bindParameters_grows opened.coherent lies sound shaped scope inner
  simp only [openScope, number, Option.pure_def, Option.some.injEq, Prod.mk.injEq] at result bound
  rw [bound] at result
  obtain ⟨rfl, rfl⟩ := result
  have within : ∀ part ∈ placed.playing .body, branch.toTree.Belongs part.id placed.id :=
    lies.belongs_playing_inside sound (by rw [form]; rfl)
  refine ⟨owners ++ [placed.id],
    placed.playing .name ++ placed.entries.flatMap (·.playing .name),
    inScope scope (placed.playing .decorator) ++
      (inScope scope (placed.entries.flatMap Placed.details) ++
        (inScope scope (placed.playing .returnHint) ++
          inScope owners.length (placed.playing .body))), ?_, ?_, ?_, ?_, ?_⟩
  · simp only [lies.attributes_of_sound sound (show Role.decorator.isMark = false from rfl),
      lies.attributes_of_sound sound (show Role.returnHint.isMark = false from rfl),
      lies.attributes_of_sound sound (show Role.body.isMark = false from rfl)]
    simp only [pendingOf_append, pendingOf_inScope, List.append_assoc, List.map_map]
    rfl
  · refine (opened.trans grows).of_perm ?_ ?_
    · simp [form, Form.isName]
    · simp [form, Form.opensScope]
  · exact .append (allNames_playing lies sound shaped (.inl rfl))
      (allNames_entries lies sound shaped)
  · refine .append (.inScope ?_) (.append (.inScope ?_) (.append (.inScope ?_) (.inScope ?_)))
    · exact ready_playing lies sound shaped rfl outer (outside (by decide))
    · exact ready_details lies sound shaped (by rw [form]; rfl) (by rw [form]; simp) outer belongs
    · exact ready_playing lies sound shaped rfl outer (outside (by decide))
    · exact ready_playing lies sound shaped rfl inner within
  · intro test counted
    have below := gathered_perm_of_roles counted shaped
      [.decorator, .name, .parameters, .returnHint, .body] (by rw [form]; rfl)
    have parameters := Placed.gathered_parameters_perm counted lies sound shaped
    refine below.trans (List.perm_iff_count.mpr fun id => ?_)
    have split := parameters.count_eq id
    simp only [List.flatMap_cons, List.flatMap_nil, List.flatMap_append, List.count_append,
      flatMap_inScope, List.append_nil] at split ⊢
    omega

theorem entered_classDef (form : placed.form = .classDef) :
    ∃ owners' noted todo, pending = pendingOf todo ∧
      Entered branch placed table owners table' owners' noted todo := by
  have shaped := ready.shaped sound (by rw [form]; simp)
  obtain ⟨above, lies⟩ := ready.lies
  obtain ⟨owner, found, belongs⟩ := ready.belongs
  have outside {role : Role} (other : role ≠ .body) :
      ∀ part ∈ placed.playing role, branch.toTree.Belongs part.id owner :=
    lies.belongs_playing_outside sound (by rw [form]; simpa [Form.holds] using other)
      (by rw [form]; simp) belongs
  rw [enter, lies.form?_toTree, form] at result
  obtain ⟨name, present, result⟩ := Option.bind_eq_some_iff.mp result
  obtain ⟨number, opened⟩ := define_grows coherent lies sound shaped
    (show _ = UsageKind.classDeclaration by rw [form]; rfl)
    (show true = true ↔ _ by rw [Tree.IsClass, lies.form?_toTree, form]; simp) found belongs
    (outside (by decide)) present
  have inner : (owners ++ [placed.id])[owners.length]? = some placed.id :=
    List.getElem?_concat_length
  have outer := opened.getElem?_owners found
  simp only [openScope, number, Option.pure_def, Option.some.injEq, Prod.mk.injEq] at result
  obtain ⟨rfl, rfl⟩ := result
  have within : ∀ part ∈ placed.playing .body, branch.toTree.Belongs part.id placed.id :=
    lies.belongs_playing_inside sound (by rw [form]; rfl)
  refine ⟨owners ++ [placed.id], placed.playing .name,
    inScope scope (placed.playing .decorator) ++
      (inScope scope (placed.playing .argument) ++
        inScope owners.length (placed.playing .body)), ?_, ?_, ?_, ?_, ?_⟩
  · simp only [lies.attributes_of_sound sound (show Role.decorator.isMark = false from rfl),
      lies.attributes_of_sound sound (show Role.argument.isMark = false from rfl),
      lies.attributes_of_sound sound (show Role.body.isMark = false from rfl)]
    simp only [pendingOf_append, pendingOf_inScope, List.append_assoc]
  · refine opened.of_perm ?_ ?_
    · simp [form, Form.isName]
    · simp [form, Form.opensScope]
  · exact allNames_playing lies sound shaped (.inl rfl)
  · refine .append (.inScope ?_) (.append (.inScope ?_) (.inScope ?_))
    · exact ready_playing lies sound shaped rfl outer (outside (by decide))
    · exact ready_playing lies sound shaped rfl outer (outside (by decide))
    · exact ready_playing lies sound shaped rfl inner within
  · intro test counted
    have below := gathered_perm_of_roles counted shaped
      [.decorator, .name, .argument, .body] (by rw [form]; rfl)
    refine below.trans (List.perm_iff_count.mpr fun id => ?_)
    simp only [List.flatMap_cons, List.flatMap_nil, List.flatMap_append, List.count_append,
      flatMap_inScope, List.append_nil]
    omega

theorem entered_lambda (form : placed.form = .lambda) :
    ∃ owners' noted todo, pending = pendingOf todo ∧
      Entered branch placed table owners table' owners' noted todo := by
  have shaped := ready.shaped sound (by rw [form]; simp)
  obtain ⟨above, lies⟩ := ready.lies
  obtain ⟨owner, found, belongs⟩ := ready.belongs
  rw [enter, lies.form?_toTree, form] at result
  have opened := openScope_grows coherent false found belongs
    (by rw [Tree.IsClass, lies.form?_toTree, form]; simp)
  have inner : (owners ++ [placed.id])[owners.length]? = some placed.id :=
    List.getElem?_concat_length
  have outer := opened.getElem?_owners found
  obtain ⟨last, bound, grows⟩ :=
    bindParameters_grows opened.coherent lies sound shaped scope inner
  simp only [openScope, ← coherent.size, Option.some.injEq, Prod.mk.injEq] at result bound
  rw [bound] at result
  obtain ⟨rfl, rfl⟩ := result
  have within : ∀ part ∈ placed.playing .expression, branch.toTree.Belongs part.id placed.id :=
    lies.belongs_playing_inside sound (by rw [form]; rfl)
  refine ⟨owners ++ [placed.id], placed.entries.flatMap (·.playing .name),
    inScope scope (placed.entries.flatMap Placed.details) ++
      inScope owners.length (placed.playing .expression), ?_, ?_, ?_, ?_, ?_⟩
  · simp only [lies.attributes_of_sound sound (show Role.expression.isMark = false from rfl),
      pendingOf_append, pendingOf_inScope, List.map_map]
    rfl
  · refine (opened.trans grows).of_perm ?_ ?_
    · simp [form, Form.isName]
    · simp [form, Form.opensScope]
  · exact allNames_entries lies sound shaped
  · refine .append (.inScope ?_) (.inScope ?_)
    · exact ready_details lies sound shaped (by rw [form]; rfl) (by rw [form]; simp) outer belongs
    · exact ready_playing lies sound shaped rfl inner within
  · intro test counted
    have below := gathered_perm_of_roles counted shaped
      [.parameters, .expression] (by rw [form]; rfl)
    have parameters := Placed.gathered_parameters_perm counted lies sound shaped
    refine below.trans (List.perm_iff_count.mpr fun id => ?_)
    have split := parameters.count_eq id
    simp only [List.flatMap_cons, List.flatMap_nil, List.flatMap_append, List.count_append,
      flatMap_inScope, List.append_nil] at split ⊢
    omega

theorem entered_declaration {isGlobal : Bool} (form : placed.form = .scopeDeclaration isGlobal) :
    ∃ owners' noted todo, pending = pendingOf todo ∧
      Entered branch placed table owners table' owners' noted todo := by
  have shaped := ready.shaped sound (by rw [form]; simp)
  obtain ⟨above, lies⟩ := ready.lies
  obtain ⟨owner, found, belongs⟩ := ready.belongs
  have grows := declare_grows coherent lies sound shaped form rfl found belongs
  rw [enter, lies.form?_toTree, form] at result
  simp only [Option.some.injEq, Prod.mk.injEq] at result
  obtain ⟨rfl, rfl⟩ := result
  refine ⟨owners, placed.playing .declared, [], rfl, ?_, ?_, ?_, ?_⟩
  · refine grows.of_perm ?_ ?_
    · simp [form, Form.isName]
    · simp [form, Form.opensScope]
  · intro name member
    obtain ⟨text, spelled⟩ := Form.reads_of_admits form (shaped.admits_playing member).2
    exact ⟨lies.shaped_playing sound shaped member, text, false, spelled⟩
  · simp [AllReady]
  · intro test counted
    have below := gathered_perm_of_roles counted shaped [.declared] (by rw [form]; rfl)
    simpa using below

theorem entered_handler {isStar : Bool} (form : placed.form = .exceptClause isStar) :
    ∃ owners' noted todo, pending = pendingOf todo ∧
      Entered branch placed table owners table' owners' noted todo := by
  have shaped := ready.shaped sound (by rw [form]; simp)
  obtain ⟨above, lies⟩ := ready.lies
  obtain ⟨owner, found, belongs⟩ := ready.belongs
  have outside {role : Role} :
      ∀ part ∈ placed.playing role, branch.toTree.Belongs part.id owner :=
    lies.belongs_playing_outside sound (by rw [form]; rfl) (by rw [form]; simp) belongs
  have named := bindPart_grows coherent lies sound shaped (.inr rfl)
    (show _ = UsageKind.exceptionInstance by rw [form]; rfl) found outside
  rw [enter, lies.form?_toTree, form] at result
  simp only [Option.some.injEq, Prod.mk.injEq] at result
  obtain ⟨rfl, rfl⟩ := result
  refine ⟨owners, placed.playing .caught,
    inScope scope (placed.playing .exception) ++ inScope scope (placed.playing .body),
    ?_, ?_, ?_, ?_, ?_⟩
  · simp only [lies.attributes_of_sound sound (show Role.exception.isMark = false from rfl),
      lies.attributes_of_sound sound (show Role.body.isMark = false from rfl), pendingOf_append,
      pendingOf_inScope]
  · refine named.of_perm ?_ ?_
    · simp [form, Form.isName]
    · simp [form, Form.opensScope]
  · exact allNames_playing lies sound shaped (.inr rfl)
  · refine .append (.inScope ?_) (.inScope ?_)
    · exact ready_playing lies sound shaped rfl found outside
    · exact ready_playing lies sound shaped rfl found outside
  · intro test counted
    have below := gathered_perm_of_roles counted shaped
      [.exception, .caught, .body] (by rw [form]; rfl)
    refine below.trans (List.perm_iff_count.mpr fun id => ?_)
    simp only [List.flatMap_cons, List.flatMap_nil, List.flatMap_append, List.count_append,
      flatMap_inScope, List.append_nil]
    omega

theorem entered_name {text : String} {binds : Bool}
    (form : placed.form = .name text binds) :
    ∃ owners' noted todo, pending = pendingOf todo ∧
      Entered branch placed table owners table' owners' noted todo := by
  have shaped := ready.shaped sound (by rw [form]; simp)
  obtain ⟨above, lies⟩ := ready.lies
  obtain ⟨owner, found, belongs⟩ := ready.belongs
  have known := lies.form?_toTree
  rw [form] at known
  have spelled : branch.toTree.nameText? placed.id = some text := by rw [Tree.nameText?, known]
  rw [enter, known] at result
  simp only [Option.some.injEq, Prod.mk.injEq] at result
  obtain ⟨rfl, rfl⟩ := result
  refine ⟨owners, [], [], rfl, ?_, ?_, ?_, ?_⟩
  · refine (mention_grows coherent found belongs spelled ?_).of_perm ?_ ?_
    · cases binds
      · exact ⟨⟨text, known⟩, ready.undeclared⟩
      · have kind := ready.bindingKind
        simp only [Bool.not_true, Bool.false_eq_true, if_false]
        split
        · rename_i imported
          exact ⟨kind.trans (if_pos imported), text, known⟩
        · rename_i assigned
          exact ⟨kind.trans (if_neg assigned), text, known⟩
    · simp [form, Form.isName]
    · simp [form, Form.opensScope]
  · simp [AllNames]
  · simp [AllReady]
  · intro test counted
    rw [Placed.gathered_name test counted.token shaped form]
    simp

theorem entered_token {token : Token} (form : placed.form = .token token) :
    ∃ owners' noted todo, pending = pendingOf todo ∧
      Entered branch placed table owners table' owners' noted todo := by
  obtain ⟨above, lies⟩ := ready.lies
  rw [enter, lies.form?_toTree, form] at result
  simp only [Option.some.injEq, Prod.mk.injEq] at result
  obtain ⟨rfl, rfl⟩ := result
  refine ⟨owners, [], [], rfl, ?_, ?_, ?_, ?_⟩
  · simpa [form, Form.isName, Form.opensScope] using Grows.refl coherent
  · simp [AllNames]
  · simp [AllReady]
  · intro test counted
    have none : placed.children = [] := by
      rcases sound placed above lies with leaf | shaped
      · exact Placed.children_of_isLeaf leaf
      · have proper := shaped.proper
        rw [form] at proper
        cases proper
    rw [Placed.gathered_eq, none]
    simp

theorem entered_even (even : placed.form.isEven = true) :
    ∃ owners' noted todo, pending = pendingOf todo ∧
      Entered branch placed table owners table' owners' noted todo := by
  have shaped := ready.shaped sound fun token same => by
    rw [same] at even
    cases even
  obtain ⟨owner, found, belongs⟩ := ready.belongs
  have visited := ready.isVisited
  obtain ⟨above, lies⟩ := ready.lies
  rw [enter_even lies even] at result
  split at result
  · rename_i comprehension
    obtain ⟨kind, form⟩ : ∃ kind, placed.form = .plain kind := by
      cases form : placed.form with
      | plain kind => exact ⟨kind, rfl⟩
      | scopeDeclaration isGlobal =>
          rw [form] at even
          cases even
      | _ =>
          rw [form] at comprehension
          cases comprehension
    rw [form] at comprehension
    have opened := openScope_grows coherent false found belongs
      (by rw [Tree.IsClass, lies.form?_toTree, form]; simp)
    have inner : (owners ++ [placed.id])[table.scopes.size]? = some placed.id := by
      rw [← coherent.size]
      exact List.getElem?_concat_length
    obtain ⟨todo, same, entered⟩ := entered_children _ (by
      rw [form]
      exact opened.of_perm (.refl _) (.of_eq (if_pos comprehension).symm)) lies sound shaped even
      inner fun slot child member =>
        lies.belongs_inside sound member (by rw [form]; exact comprehension)
    simp only [Option.some.injEq, Prod.mk.injEq] at result
    obtain ⟨rfl, rfl⟩ := result
    exact ⟨_, [], todo, same, entered⟩
  · rename_i ordinary
    have closed : placed.form.opensScope = false ∧
        (∀ role, placed.form.holds role = false) ∧ placed.form ≠ .parameter := by
      revert even ordinary visited
      cases placed.form <;> simp [Form.isEven, Form.opensScope, Form.holds, Form.kind,
        Form.isVisited]
    obtain ⟨todo, same, entered⟩ := entered_children _ (by
      rw [closed.1]
      exact Grows.refl coherent) lies sound shaped even found fun slot child member =>
        lies.belongs_outside sound member (closed.2.1 _) (fun both => closed.2.2 both.1) belongs
    simp only [Option.some.injEq, Prod.mk.injEq] at result
    obtain ⟨rfl, rfl⟩ := result
    exact ⟨owners, [], todo, same, entered⟩

/-- **What the walk does at one node.** -/
theorem entered_of_enter :
    ∃ owners' noted todo, pending = pendingOf todo ∧
      Entered branch placed table owners table' owners' noted todo := by
  have visited := ready.isVisited
  cases form : placed.form with
  | token token => exact entered_token coherent sound ready result form
  | name text binds => exact entered_name coherent sound ready result form
  | function isAsync => exact entered_function coherent sound ready result form
  | classDef => exact entered_classDef coherent sound ready result form
  | lambda => exact entered_lambda coherent sound ready result form
  | exceptClause isStar => exact entered_handler coherent sound ready result form
  | scopeDeclaration isGlobal => exact entered_declaration coherent sound ready result form
  | file docstring =>
      rw [form] at visited
      cases visited
  | parameter =>
      rw [form] at visited
      cases visited
  | tupleParameter =>
      rw [form] at visited
      cases visited
  | parameterList =>
      rw [form] at visited
      cases visited
  | _ => exact entered_even coherent sound ready result (by rw [form]; rfl)

end

end ScopeTable

end StructuralLint
