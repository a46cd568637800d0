import StructuralLint.Proofs.Symbol.Coherence
import StructuralLint.Proofs.Tree.Blocks

/-!
# Parameters and scopes

The walk that collects scopes does not visit parameters. At a function it takes note of their names
in the scope of the function, and leaves their type hints and defaults for the scope around it
(`ScopeTable.bindParameters_grows`). That is all there is below a list of parameters
(`Placed.gathered_parameters_perm`).
-/

namespace StructuralLint

/-- Whether a node of this form is a name. -/
def Form.isName : Form → Bool
  | .name _ _ => true
  | _ => false

/-- Whether a node of this form opens a scope inside the file. -/
def Form.opensScope : Form → Bool
  | .function _ | .classDef | .lambda => true
  | .plain kind => kind.isComprehension
  | _ => false

/-- Parameters and their lists, which the walk passes over, do not count, nor do tokens. -/
structure Form.Counted (test : Form → Bool) : Prop where
  token : ∀ token, test (.token token) = false
  list : test .parameterList = false
  parameter : test .parameter = false

theorem Form.counted_isName : Counted isName := ⟨fun _ => rfl, rfl, rfl⟩

theorem Form.counted_opensScope : Counted opensScope := ⟨fun _ => rfl, rfl, rfl⟩

/-- What names a node binds. -/
theorem Form.binds_of_admits {form part : Form} {role : Role}
    (names : role = .name ∨ role = .caught) (fits : form.admits (some role) part = true) :
    ∃ text, part = .name text true := by
  have binding : part.isBinding = true := by
    rcases names with rfl | rfl <;> cases form <;> first | exact fits | cases fits
  cases part with
  | name text binds =>
      cases binding
      exact ⟨text, rfl⟩
  | _ => cases binding

/-- A file is no part of another node. -/
theorem Form.admits_file (form : Form) (role : Option Role) (docstring : Option String) :
    form.admits role (.file docstring) = false := by
  rw [admits.eq_def]
  split <;> rfl

/-- What names a declaration holds. -/
theorem Form.reads_of_admits {form part : Form} {isGlobal : Bool} {role : Role}
    (declares : form = .scopeDeclaration isGlobal) (fits : form.admits (some role) part = true) :
    ∃ text, part = .name text false := by
  subst declares
  cases role with
  | declared =>
      cases part with
      | name text binds =>
          cases binds with
          | false => exact ⟨text, rfl⟩
          | true => cases fits
      | _ => cases fits
  | _ => cases fits

namespace Placed

/-- The entries of the parameter list of a function. -/
def entries (placed : Placed) : List Placed :=
  (placed.playing .parameters).flatMap (·.playing .entry)

/-- What a parameter says about its type and its default. -/
def details (entry : Placed) : List Placed := entry.playing .hint ++ entry.playing .defaultValue

variable {branch : Branch} {placed child : Placed} {above : List Placed} {role : Role}

theorem Lies.child_playing (lies : Lies branch.whole placed above)
    (member : child ∈ placed.playing role) : Lies branch.whole child (placed :: above) := by
  obtain ⟨slot, -, among⟩ := mem_playing_iff.mp member
  exact .child lies among

theorem Lies.bindingKind_playing (lies : Lies branch.whole placed above) (sound : branch.Sound)
    (member : child ∈ placed.playing role) :
    branch.toTree.bindingKind child.id = placed.form.introduces (some role) := by
  obtain ⟨slot, own, among⟩ := mem_playing_iff.mp member
  rw [lies.bindingKind_child sound among, Option.bind_some, own]

theorem Shaped.admits_playing (shaped : placed.Shaped) (member : child ∈ placed.playing role) :
    child.isLeaf = false ∧ placed.form.admits (some role) child.form = true := by
  obtain ⟨slot, own, among⟩ := mem_playing_iff.mp member
  exact own ▸ shaped.admitted slot child among

theorem Lies.shaped_playing (lies : Lies branch.whole placed above) (sound : branch.Sound)
    (shaped : placed.Shaped) (member : child ∈ placed.playing role) : child.Shaped := by
  rcases sound child _ (lies.child_playing member) with leaf | sound
  · rw [(shaped.admits_playing member).1] at leaf
    cases leaf
  · exact sound

/-- A part that plays a role of which there is one is the only one. -/
theorem Shaped.playing_eq (shaped : placed.Shaped) (alone : role.isSingle = true) :
    placed.playing role = [] ∨ ∃ part, placed.playing role = [part] := by
  have short := shaped.single role alone
  cases parts : placed.playing role with
  | nil => exact .inl rfl
  | cons part rest =>
      cases rest with
      | nil => exact .inr ⟨part, rfl⟩
      | cons other rest => simp [parts] at short

/-- A part that plays a role of which there is one is the attribute. -/
theorem Lies.attribute?_of_single (lies : Lies branch.whole placed above) (sound : branch.Sound)
    (shaped : placed.Shaped) (alone : role.isSingle = true) (other : role.isMark = false) :
    (branch.toTree.attribute? placed.id role = none ∧ placed.playing role = []) ∨
      ∃ part, branch.toTree.attribute? placed.id role = some part.id ∧
        placed.playing role = [part] := by
  rw [Tree.attribute?, lies.attributes_of_sound sound other]
  rcases shaped.playing_eq alone with none | ⟨part, only⟩
  · exact .inl ⟨by rw [none]; rfl, none⟩
  · exact .inr ⟨part, by rw [only]; rfl, only⟩

/-- A name has no parts. -/
theorem gathered_name (test : Form → Bool) (inner : ∀ token, test (.token token) = false)
    (shaped : placed.Shaped) {text : String} {binds : Bool}
    (form : placed.form = .name text binds) :
    placed.gathered test = if test placed.form then [placed.id] else [] := by
  have below := gathered_perm test inner shaped
  rw [form, show (Form.name text binds).partRoles = [] from rfl, List.flatMap_nil,
    List.append_nil] at below
  rw [form]
  split
  · rename_i yes
    rw [if_pos yes] at below
    exact List.perm_singleton.mp below
  · rename_i no
    rw [if_neg no] at below
    exact below.eq_nil

theorem Shaped.form_parameters {list : Placed} (shaped : placed.Shaped)
    (member : list ∈ placed.playing .parameters) : list.form = .parameterList := by
  have fits := (shaped.admits_playing member).2
  revert fits
  cases placed.form <;> simp [Form.admits]

/-- The entries of a parameter list with what they are. -/
theorem mem_entries {entry : Placed} (lies : Lies branch.whole placed above)
    (sound : branch.Sound) (shaped : placed.Shaped) (member : entry ∈ placed.entries) :
    entry.form = .parameter ∧ entry.Shaped ∧ ∃ list, list ∈ placed.playing .parameters ∧
      entry ∈ list.playing .entry ∧ Lies branch.whole entry (list :: placed :: above) := by
  obtain ⟨list, lists, among⟩ := List.mem_flatMap.mp member
  have inner := lies.child_playing lists
  have listShaped := lies.shaped_playing sound shaped lists
  have fits := (listShaped.admits_playing among).2
  rw [shaped.form_parameters lists, Form.admits.eq_def] at fits
  exact ⟨of_decide_eq_true fits, inner.shaped_playing sound listShaped among, list, lists, among,
    inner.child_playing among⟩

/-- What is below the parameters of a function is below their names, type hints and defaults. -/
theorem gathered_parameters_perm {test : Form → Bool} (counted : Form.Counted test)
    (lies : Lies branch.whole placed above) (sound : branch.Sound) (shaped : placed.Shaped) :
    ((placed.playing .parameters).flatMap (gathered test)).Perm
      ((placed.entries.flatMap (·.playing .name)).flatMap (gathered test) ++
        (placed.entries.flatMap details).flatMap (gathered test)) := by
  have lists : ((placed.playing .parameters).flatMap (gathered test)).Perm
      (placed.entries.flatMap (gathered test)) := by
    rw [entries, List.flatMap_assoc]
    apply List.Perm.flatMap_left _
    intro list member
    have own := gathered_perm test counted.token (lies.shaped_playing sound shaped member)
    have form : list.form = .parameterList := shaped.form_parameters member
    rw [form, counted.list] at own
    simpa [Form.partRoles] using own
  have each : ∀ entry ∈ placed.entries, (entry.gathered test).Perm
      ((entry.playing .name).flatMap (gathered test) ++
        (details entry).flatMap (gathered test)) := by
    intro entry member
    obtain ⟨form, own, -⟩ := mem_entries lies sound shaped member
    have below := gathered_perm test counted.token own
    rw [form, counted.parameter] at below
    simpa [Form.partRoles, details] using below
  apply (lists.trans (List.Perm.flatMap_left _ each)).trans
  rw [List.flatMap_assoc, List.flatMap_assoc]
  exact (List.flatMap_append_perm _ _ _).symm

end Placed

namespace ScopeTable

variable {branch : Branch} {placed : Placed} {above : List Placed}

theorem flatParameters_eq {tree : Tree} (depth : Nat) {entries : List NodeId}
    (forms : ∀ entry ∈ entries, tree.form? entry = some .parameter) :
    flatParameters tree (depth + 1) entries = entries := by
  unfold flatParameters
  induction entries with
  | nil => rfl
  | cons entry rest ih =>
      rw [List.flatMap_cons, forms entry List.mem_cons_self,
        ih fun other member => forms other (List.mem_cons_of_mem _ member)]
      rfl

theorem parametersOf_toTree (lies : Placed.Lies branch.whole placed above) (sound : branch.Sound)
    (shaped : placed.Shaped) :
    parametersOf branch.toTree placed.id = placed.entries.map (·.id) := by
  rw [parametersOf, Tree.attribute?, lies.attributes_of_sound sound rfl, Placed.entries]
  have entries := fun entry (member : entry ∈ placed.entries) =>
    Placed.mem_entries lies sound shaped member
  rcases shaped.playing_eq (show Role.parameters.isSingle = true from rfl) with
    none | ⟨list, only⟩
  · rw [none]
    rfl
  · have inner := lies.child_playing (only ▸ List.mem_singleton_self list :
      list ∈ placed.playing .parameters)
    rw [only]
    simp only [List.map_cons, List.head?_cons, List.flatMap_singleton]
    rw [inner.attributes_of_sound sound rfl]
    apply flatParameters_eq list.id
    intro id member
    obtain ⟨entry, among, rfl⟩ := List.mem_map.mp member
    obtain ⟨form, -, _, -, -, lower⟩ := entries entry (by
      rw [Placed.entries, only, List.flatMap_singleton]
      exact among)
    rw [lower.form?_toTree, form]

variable {table : ScopeTable} {owners : List NodeId} {owner : NodeId} {scope : ScopeId}

/-- The name that a node binds, if it has one, is noted. -/
theorem bindPart_grows (coherent : Coherent branch.toTree table owners)
    (lies : Placed.Lies branch.whole placed above) (sound : branch.Sound) (shaped : placed.Shaped)
    {role : Role} (names : role = .name ∨ role = .caught) {kind : UsageKind}
    (introduces : placed.form.introduces (some role) = kind) (found : owners[scope]? = some owner)
    (belongs : ∀ part ∈ placed.playing role, branch.toTree.Belongs part.id owner) :
    Grows branch.toTree table owners
      (match branch.toTree.attribute? placed.id role with
      | some name => table.mention branch.toTree scope name (.bind kind)
      | none => table) owners ((placed.playing role).map (·.id)) [] := by
  have single : role.isSingle = true ∧ role.isMark = false := by
    rcases names with rfl | rfl <;> exact ⟨rfl, rfl⟩
  rcases lies.attribute?_of_single sound shaped single.1 single.2 with
    ⟨absent, none⟩ | ⟨part, present, only⟩
  · rw [absent, none]
    exact .refl coherent
  · have member : part ∈ placed.playing role := only ▸ List.mem_singleton_self part
    have known := (lies.child_playing member).form?_toTree
    obtain ⟨text, form⟩ := Form.binds_of_admits names (shaped.admits_playing member).2
    rw [form] at known
    rw [present, only]
    exact mention_grows coherent found (belongs part member) (by rw [Tree.nameText?, known])
      ⟨(lies.bindingKind_playing sound member).trans introduces, text, known⟩

/-- The names of the parameters are noted in the function, and what they say about themselves is
left for the scope around it. -/
theorem bindParameters_grows (coherent : Coherent branch.toTree table owners)
    (lies : Placed.Lies branch.whole placed above) (sound : branch.Sound) (shaped : placed.Shaped)
    {inner : ScopeId} (outer : ScopeId) (found : owners[inner]? = some placed.id) :
    ∃ table', table.bindParameters branch.toTree placed.id inner outer =
        (table', (placed.entries.flatMap Placed.details).map fun part => (part.id, outer)) ∧
      Grows branch.toTree table owners table' owners
        ((placed.entries.flatMap (·.playing .name)).map (·.id)) [] := by
  have known := fun entry (member : entry ∈ placed.entries) =>
    Placed.mem_entries lies sound shaped member
  rw [bindParameters, parametersOf_toTree lies sound shaped, List.foldl_map]
  -- the pairs that are left from earlier entries stay in front
  suffices general : ∀ (entries : List Placed) (pending : List (NodeId × ScopeId))
      (table : ScopeTable), (∀ entry ∈ entries, entry ∈ placed.entries) →
      Coherent branch.toTree table owners →
      ∃ table', entries.foldl (fun (known : ScopeTable × List (NodeId × ScopeId)) entry =>
          ((match branch.toTree.attribute? entry.id .name with
            | some name => known.1.mention branch.toTree inner name (.bind .parameter)
            | none => known.1),
            known.2 ++ (branch.toTree.attributes entry.id .hint ++
              branch.toTree.attributes entry.id .defaultValue).map (·, outer))) (table, pending) =
          (table', pending ++ (entries.flatMap Placed.details).map fun part => (part.id, outer)) ∧
        Grows branch.toTree table owners table' owners
          ((entries.flatMap (·.playing .name)).map (·.id)) [] by
    obtain ⟨table', same, grows⟩ :=
      general placed.entries [] table (fun _ member => member) coherent
    exact ⟨table', same, grows⟩
  intro entries
  induction entries with
  | nil =>
      intro pending table _ coherent
      exact ⟨table, by simp, .refl coherent⟩
  | cons entry rest ih =>
      intro pending table listed coherent
      obtain ⟨form, own, list, lists, among, lower⟩ := known entry (listed entry List.mem_cons_self)
      have named := bindPart_grows coherent lower sound own (.inl rfl)
        (show _ = UsageKind.parameter by rw [form]; rfl) found fun part member =>
          lies.belongs_parameter sound lists (lies.child_playing lists) among lower form member
      obtain ⟨table', same, grows⟩ := ih (pending ++ (branch.toTree.attributes entry.id .hint ++
          branch.toTree.attributes entry.id .defaultValue).map (·, outer)) _
        (fun other member => listed other (List.mem_cons_of_mem _ member)) named.coherent
      refine ⟨table', ?_, (named.trans grows).of_perm (by simp) (.refl _)⟩
      rw [List.foldl_cons]
      apply same.trans
      rw [lower.attributes_of_sound sound rfl, lower.attributes_of_sound sound rfl]
      simp [Placed.details, Function.comp_def]

end ScopeTable

end StructuralLint
