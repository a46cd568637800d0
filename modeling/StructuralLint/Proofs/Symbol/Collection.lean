import StructuralLint.Proofs.Symbol.Entering

/-!
# What a collection of scopes holds

From what one step of the walk does it follows, by induction on the depth, that the walk below a
node takes note of all names and scopes below it. The table of a file is coherent and complete
(`ScopeTable.coherent_of_collect`).
-/

namespace StructuralLint.ScopeTable

variable {branch : Branch} {placed : Placed} {owners : List NodeId} {table table' : ScopeTable}
  {scope : ScopeId}

/-- The names below a node are noted, and so are the scopes, if this holds of the nodes that are
left to visit. -/
theorem Entered.grows_of_todo {owners' owners'' : List NodeId} {noted : List Placed}
    {todo : List (Placed × ScopeId)} {table'' : ScopeTable}
    (entered : Entered branch placed table owners table' owners' noted todo)
    (rest : Grows branch.toTree table' owners' table'' owners''
      (todo.flatMap fun item => item.1.gathered Form.isName)
      (todo.flatMap fun item => item.1.gathered Form.opensScope)) :
    Grows branch.toTree table owners table'' owners'' (placed.gathered Form.isName)
      (placed.gathered Form.opensScope) := by
  have names : noted.flatMap (Placed.gathered Form.isName) = noted.map (·.id) := by
    rw [← List.flatMap_singleton' (noted.map _), List.flatMap_map]
    apply List.flatMap_congr
    intro name member
    obtain ⟨shaped, text, binds, form⟩ := entered.names name member
    rw [Placed.gathered_name _ Form.counted_isName.token shaped form, form]
    rfl
  have scopes : noted.flatMap (Placed.gathered Form.opensScope) = [] := by
    apply List.flatMap_eq_nil_iff.mpr
    intro name member
    obtain ⟨shaped, text, binds, form⟩ := entered.names name member
    rw [Placed.gathered_name _ Form.counted_opensScope.token shaped form, form]
    rfl
  refine (entered.grows.trans rest).of_perm ?_ ?_
  · have covers := entered.covers _ Form.counted_isName
    rw [names, ← List.append_assoc] at covers
    exact covers.symm
  · have covers := entered.covers _ Form.counted_opensScope
    rw [scopes, List.nil_append] at covers
    exact covers.symm

/-- A walk over nodes that are left to visit notes all names and scopes below them, if the walk
below each of them does. -/
theorem grows_of_foldlM {visit : ScopeTable → NodeId × ScopeId → Option ScopeTable}
    {todo : List (Placed × ScopeId)}
    (each : ∀ item ∈ todo, ∀ owners table table', Coherent branch.toTree table owners →
      Ready branch owners item.1 item.2 → visit table (item.1.id, item.2) = some table' →
      ∃ owners', Grows branch.toTree table owners table' owners' (item.1.gathered Form.isName)
        (item.1.gathered Form.opensScope))
    (coherent : Coherent branch.toTree table owners)
    (ready : ∀ item ∈ todo, Ready branch owners item.1 item.2)
    (result : (pendingOf todo).foldlM visit table = some table') :
    ∃ owners', Grows branch.toTree table owners table' owners'
      (todo.flatMap fun item => item.1.gathered Form.isName)
      (todo.flatMap fun item => item.1.gathered Form.opensScope) := by
  induction todo generalizing owners table with
  | nil =>
      cases result
      exact ⟨owners, .refl coherent⟩
  | cons item rest ih =>
      rw [pendingOf, List.map_cons, List.foldlM_cons, Option.bind_eq_bind,
        Option.bind_eq_some_iff] at result
      obtain ⟨between, first, later⟩ := result
      obtain ⟨owners', grows⟩ := each item List.mem_cons_self owners table between coherent
        (ready item List.mem_cons_self) first
      obtain ⟨opened, same, -⟩ := grows.owners
      obtain ⟨owners'', grows'⟩ :=
        ih (fun other member => each other (List.mem_cons_of_mem _ member))
        grows.coherent
        (fun other member => same ▸ (ready other (List.mem_cons_of_mem _ member)).mono opened) later
      exact ⟨owners'', grows.trans grows'⟩

/-- The walk below a node notes all names and scopes below it. The numbers of the nodes get smaller
on the way down, so that `depth` suffices. -/
theorem grows_of_collectTo (sound : branch.Sound) {depth : Nat} (enough : placed.id < depth)
    (coherent : Coherent branch.toTree table owners) (ready : Ready branch owners placed scope)
    (result : collectTo branch.toTree depth table (placed.id, scope) = some table') :
    ∃ owners', Grows branch.toTree table owners table' owners' (placed.gathered Form.isName)
      (placed.gathered Form.opensScope) := by
  induction depth generalizing placed scope table owners table' with
  | zero => exact absurd enough (Nat.not_lt_zero _)
  | succ depth ih =>
      rw [collectTo, Option.bind_eq_bind, Option.bind_eq_some_iff] at result
      obtain ⟨⟨between, pending⟩, entering, later⟩ := result
      obtain ⟨owners', noted, todo, rfl, entered⟩ := entered_of_enter coherent sound ready entering
      obtain ⟨owners'', rest⟩ := grows_of_foldlM
        (fun item member owners table table' coherent ready visited =>
          ih (Nat.lt_of_lt_of_le (entered.ready item member).2 (Nat.le_of_lt_succ enough)) coherent
            ready visited)
        entered.grows.coherent (fun item member => (entered.ready item member).1) later
      exact ⟨owners'', entered.grows_of_todo rest⟩

/-- A collection begins with the children of the file. -/
theorem exists_entered_of_collect (sound : branch.Sound) {docstring : Option String}
    (file : branch.whole.form = .file docstring)
    (result : collect branch.toTree branch.toTree.root = some table) :
    ∃ todo, Coherent branch.toTree initial [branch.whole.id] ∧
      Entered branch branch.whole initial [branch.whole.id] initial [branch.whole.id] [] todo ∧
      (pendingOf todo).foldlM (collectTo branch.toTree branch.whole.id) initial = some table := by
  have lies : Placed.Lies branch.whole branch.whole [] := .root
  have shaped := Placed.shaped_of_form (sound _ _ lies) (by rw [file]; simp)
  have coherent := Coherent.initial branch.toTree
  rw [Branch.root_toTree] at coherent result
  have even : branch.whole.form.isEven = true := by rw [file]; rfl
  have ordinary : ¬(Form.file docstring).kind.isComprehension = true := Bool.false_ne_true
  rw [collect, collectTo, enter_even lies even, file, if_neg ordinary, Option.bind_eq_bind,
    Option.bind_some] at result
  obtain ⟨todo, same, entered⟩ := entered_children fileScope (by
    rw [file]
    exact Grows.refl coherent) lies sound shaped even rfl fun slot child member =>
      lies.belongs_inside sound member (by rw [file]; rfl)
  rw [same] at result
  exact ⟨todo, coherent, entered, result⟩

/-- **A collection is faithful and complete.** The table that is collected from the root of a file
is coherent; besides the file, its scopes are the nodes that open one, and its mentions are those of
all names, each once. -/
theorem coherent_of_collect (sound : branch.Sound) {docstring : Option String}
    (file : branch.whole.form = .file docstring)
    (result : collect branch.toTree branch.toTree.root = some table) :
    ∃ owners, Coherent branch.toTree table owners ∧
      owners.Perm (branch.whole.id :: branch.whole.gathered Form.opensScope) ∧
      (table.mentions.toList.map (·.node)).Perm (branch.whole.gathered Form.isName) := by
  obtain ⟨todo, coherent, entered, result⟩ := exists_entered_of_collect sound file result
  obtain ⟨owners, rest⟩ := grows_of_foldlM
    (fun item member owners table table' coherent ready visited =>
      grows_of_collectTo sound (entered.ready item member).2 coherent ready visited)
    coherent (fun item member => (entered.ready item member).1) result
  have grows := entered.grows_of_todo rest
  obtain ⟨opened, rfl, opens⟩ := grows.owners
  obtain ⟨noted, equal, notes⟩ := grows.mentions
  refine ⟨_, grows.coherent, opens.cons _, ?_⟩
  rw [equal]
  exact notes

end StructuralLint.ScopeTable
