import StructuralLint.Proofs.Check.Enclosure
import StructuralLint.Proofs.Symbol.Exact

/-!
# Definitions keep their names

A walk that collects scopes stops at a function or a class without a name. So where a collection
comes to an end, every definition has kept its name (`ScopeTable.isSome_name_of_collect`).
-/

namespace StructuralLint

/-- Whether a node of this form is a function or a class. -/
def Form.isDefinition : Form → Bool
  | .function _ | .classDef => true
  | _ => false

/-- Every function and every class has a name. -/
def Tree.DefinitionsNamed (tree : Tree) : Prop :=
  ∀ definition form, tree.form? definition = some form → form.isDefinition = true →
    (tree.attribute? definition .name).isSome = true

theorem Form.counted_isDefinition : Counted isDefinition := ⟨fun _ => rfl, rfl, rfl⟩

namespace ScopeTable

variable {branch : Branch} {placed : Placed} {above : List Placed} {owners : List NodeId}
  {table table' : ScopeTable} {scope : ScopeId} {pending : List (NodeId × ScopeId)}

/-- The walk takes note of a definition only if it has a name. -/
theorem isSome_name_of_enter (lies : Placed.Lies branch.whole placed above)
    (defines : placed.form.isDefinition = true)
    (result : table.enter branch.toTree placed.id scope = some (table', pending)) :
    (branch.toTree.attribute? placed.id .name).isSome = true := by
  cases form : placed.form with
  | function | classDef =>
      rw [enter, lies.form?_toTree, form] at result
      obtain ⟨name, present, -⟩ := Option.bind_eq_some_iff.mp result
      rw [present]
      rfl
  | _ =>
      rw [form] at defines
      cases defines

/-- A walk over nodes that are left to visit comes to each of them. -/
theorem exists_visit_of_foldlM {depth : Nat} (sound : branch.Sound)
    {todo : List (Placed × ScopeId)} (below : ∀ item ∈ todo, item.1.id < depth)
    (coherent : Coherent branch.toTree table owners)
    (ready : ∀ item ∈ todo, Ready branch owners item.1 item.2)
    (result : (pendingOf todo).foldlM (collectTo branch.toTree depth) table = some table') :
    ∀ item ∈ todo, ∃ owners before after, Coherent branch.toTree before owners ∧
      Ready branch owners item.1 item.2 ∧
        collectTo branch.toTree depth before (item.1.id, item.2) = some after := by
  induction todo generalizing owners table with
  | nil => simp
  | cons head rest ih =>
      rw [pendingOf, List.map_cons, List.foldlM_cons, Option.bind_eq_bind,
        Option.bind_eq_some_iff] at result
      obtain ⟨between, first, later⟩ := result
      have now := ready head List.mem_cons_self
      obtain ⟨owners', grows⟩ :=
        grows_of_collectTo sound (below head List.mem_cons_self) coherent now first
      obtain ⟨opened, rfl, -⟩ := grows.owners
      intro item member
      rcases List.mem_cons.mp member with rfl | member
      · exact ⟨owners, table, between, coherent, now, first⟩
      · exact ih (fun other among => below other (List.mem_cons_of_mem _ among)) grows.coherent
          (fun other among => (ready other (List.mem_cons_of_mem _ among)).mono opened) later item
          member

/-- The definitions below a node that the walk comes to have names. -/
theorem named_of_collectTo (sound : branch.Sound) {depth : Nat} (enough : placed.id < depth)
    (coherent : Coherent branch.toTree table owners) (ready : Ready branch owners placed scope)
    (result : collectTo branch.toTree depth table (placed.id, scope) = some table') :
    ∀ id ∈ placed.gathered Form.isDefinition,
      (branch.toTree.attribute? id .name).isSome = true := by
  induction depth generalizing placed scope table owners table' with
  | zero => exact absurd enough (Nat.not_lt_zero _)
  | succ depth ih =>
      rw [collectTo, Option.bind_eq_bind, Option.bind_eq_some_iff] at result
      obtain ⟨⟨between, pending⟩, entering, later⟩ := result
      obtain ⟨owners', noted, todo, rfl, entered⟩ := entered_of_enter coherent sound ready entering
      have visits := exists_visit_of_foldlM sound
        (fun item member =>
          Nat.lt_of_lt_of_le (entered.ready item member).2 (Nat.le_of_lt_succ enough))
        entered.grows.coherent (fun item member => (entered.ready item member).1) later
      intro id member
      rw [(entered.covers _ Form.counted_isDefinition).mem_iff] at member
      rcases List.mem_append.mp member with own | below
      · obtain ⟨above, lies⟩ := ready.lies
        split at own
        · rename_i defines
          rw [List.mem_singleton.mp own]
          exact isSome_name_of_enter lies defines entering
        · cases own
      · rcases List.mem_append.mp below with among | among
        · -- a name that was noted has nothing below it
          obtain ⟨name, member, inside⟩ := List.mem_flatMap.mp among
          obtain ⟨shaped, text, binds, form⟩ := entered.names name member
          rw [Placed.gathered_name _ Form.counted_isDefinition.token shaped form, form] at inside
          cases inside
        · obtain ⟨item, member, inside⟩ := List.mem_flatMap.mp among
          obtain ⟨owners, before, after, coherent, ready, visited⟩ := visits item member
          exact ih (Nat.lt_of_lt_of_le (entered.ready item member).2 (Nat.le_of_lt_succ enough))
            coherent ready visited id inside

/-- **Definitions keep their names.** Where the scopes of a file can be collected, no function and
no class has lost its name. -/
theorem isSome_name_of_collect (sound : branch.Sound) {docstring : Option String}
    (file : branch.whole.form = .file docstring)
    (result : collect branch.toTree branch.toTree.root = some table) {definition : NodeId}
    {form : Form} (found : branch.toTree.form? definition = some form)
    (defines : form.isDefinition = true) :
    (branch.toTree.attribute? definition .name).isSome = true := by
  obtain ⟨todo, coherent, entered, result⟩ := exists_entered_of_collect sound file result
  have visits := exists_visit_of_foldlM sound (fun item member => (entered.ready item member).2)
    coherent (fun item member => (entered.ready item member).1) result
  obtain ⟨placed, above, lies, rfl, rfl⟩ := Tree.exists_lies_of_form? found
  have listed : placed.id ∈ branch.whole.gathered Form.isDefinition :=
    Placed.mem_gathered.mpr ⟨placed, above, lies, defines, rfl⟩
  rw [(entered.covers _ Form.counted_isDefinition).mem_iff, file,
    if_neg (by simp [Form.isDefinition]), List.nil_append, List.flatMap_nil,
    List.nil_append] at listed
  obtain ⟨item, member, inside⟩ := List.mem_flatMap.mp listed
  obtain ⟨owners, before, after, coherent, ready, visited⟩ := visits item member
  exact named_of_collectTo sound (entered.ready item member).2 coherent ready visited _ inside

theorem definitionsNamed_of_collect (sound : branch.Sound) {docstring : Option String}
    (file : branch.whole.form = .file docstring)
    (result : collect branch.toTree branch.toTree.root = some table) :
    branch.toTree.DefinitionsNamed :=
  fun _ _ found defines => isSome_name_of_collect sound file result found defines

theorem functionsNamed_of_collect (sound : branch.Sound) {docstring : Option String}
    (file : branch.whole.form = .file docstring)
    (result : collect branch.toTree branch.toTree.root = some table) :
    branch.toTree.FunctionsNamed := by
  intro id function
  rw [Tree.isFunction] at function
  split at function
  · rename_i found
    exact definitionsNamed_of_collect sound file result _ _ found rfl
  · cases function

end ScopeTable

end StructuralLint
