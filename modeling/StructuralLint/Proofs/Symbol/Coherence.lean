import StructuralLint.Proofs.Symbol.Scoping

/-!
# Coherent tables of scopes

A walk over a tree numbers the scopes as it meets them and takes note of every name. `owners` are
the nodes of the scopes by their numbers. A table is `Coherent` if each of its scopes stands in the
scope around its node and each of its mentions says what the name node does in the scope that it
belongs to; a step of the walk `Grows` a coherent table by the names and scopes that it meets.
-/

namespace StructuralLint

/-- What a name node does. -/
def Tree.Does (tree : Tree) (node : NodeId) : Act → Prop
  | .bind kind => tree.bindingKind node = kind ∧ ∃ text, tree.form? node = some (.name text true)
  | .declareGlobal => tree.DeclaredBy true node
  | .declareNonlocal => tree.DeclaredBy false node
  | .read => (∃ text, tree.form? node = some (.name text false)) ∧
      ∀ isGlobal, ¬tree.DeclaredBy isGlobal node

/-- A mention says what its name node does, and in which scope. -/
structure Mention.Faithful (tree : Tree) (owners : List NodeId) (mention : Mention) : Prop where
  scope : ∃ scope, owners[mention.scope]? = some scope ∧ tree.Belongs mention.node scope
  name : tree.nameText? mention.node = some mention.name
  act : tree.Does mention.node mention.act

theorem Mention.Faithful.mono {tree : Tree} {owners : List NodeId} {mention : Mention}
    (faithful : mention.Faithful tree owners) (opened : List NodeId) :
    mention.Faithful tree (owners ++ opened) := by
  obtain ⟨scope, found, belongs⟩ := faithful.scope
  refine ⟨⟨scope, ?_, belongs⟩, faithful.name, faithful.act⟩
  rw [List.getElem?_append_left (List.getElem?_eq_some_iff.mp found).1]
  exact found

namespace ScopeTable

/-- The scopes of the table are those of the owners, and its mentions are faithful. -/
structure Coherent (tree : Tree) (table : ScopeTable) (owners : List NodeId) : Prop where
  size : owners.length = table.scopes.size
  file : owners[0]? = some tree.root
  outermost : table.scopes[0]? = some ⟨none, false⟩
  scopes : ∀ (place : Nat) (owner : NodeId), 0 < place → owners[place]? = some owner →
    ∃ parent outer isClass, table.scopes[place]? = some ⟨some parent, isClass⟩ ∧ parent < place ∧
      owners[parent]? = some outer ∧ tree.Belongs owner outer ∧
        (isClass = true ↔ tree.IsClass owner)
  mentions : ∀ mention ∈ table.mentions.toList, mention.Faithful tree owners

/-- `Grows tree table owners table' owners' names openers`: the second table is coherent and holds,
besides what the first one holds, mentions of these names and the scopes that these nodes open. -/
structure Grows (tree : Tree) (table : ScopeTable) (owners : List NodeId) (table' : ScopeTable)
    (owners' names openers : List NodeId) : Prop where
  coherent : Coherent tree table' owners'
  owners : ∃ new, owners' = owners ++ new ∧ new.Perm openers
  mentions : ∃ new, table'.mentions.toList = table.mentions.toList ++ new ∧
    (new.map (·.node)).Perm names

variable {tree : Tree} {table table' table'' : ScopeTable}
  {owners owners' owners'' names names' openers openers' : List NodeId}

theorem Grows.refl (coherent : Coherent tree table owners) :
    Grows tree table owners table owners [] [] where
  coherent := coherent
  owners := ⟨[], by simp⟩
  mentions := ⟨[], by simp⟩

theorem Grows.trans (first : Grows tree table owners table' owners' names openers)
    (second : Grows tree table' owners' table'' owners'' names' openers') :
    Grows tree table owners table'' owners'' (names ++ names') (openers ++ openers') := by
  obtain ⟨opened, same, perm⟩ := first.owners
  obtain ⟨opened', same', perm'⟩ := second.owners
  obtain ⟨noted, equal, counted⟩ := first.mentions
  obtain ⟨noted', equal', counted'⟩ := second.mentions
  refine ⟨second.coherent, ⟨opened ++ opened', ?_, perm.append perm'⟩, noted ++ noted', ?_, ?_⟩
  · rw [same', same, List.append_assoc]
  · rw [equal', equal, List.append_assoc]
  · rw [List.map_append]
    exact counted.append counted'

theorem Grows.of_perm (grows : Grows tree table owners table' owners' names openers)
    (same : names.Perm names') (same' : openers.Perm openers') :
    Grows tree table owners table' owners' names' openers' := by
  obtain ⟨opened, equal, perm⟩ := grows.owners
  obtain ⟨noted, equal', counted⟩ := grows.mentions
  exact ⟨grows.coherent, ⟨opened, equal, perm.trans same'⟩, noted, equal', counted.trans same⟩

theorem Grows.getElem?_owners (grows : Grows tree table owners table' owners' names openers)
    {place : Nat} {owner : NodeId} (found : owners[place]? = some owner) :
    owners'[place]? = some owner := by
  obtain ⟨opened, same, -⟩ := grows.owners
  have inside := (List.getElem?_eq_some_iff.mp found).1
  rw [same, List.getElem?_append_left inside]
  exact found

/-! ### Steps -/

theorem Coherent.initial (tree : Tree) : Coherent tree initial [tree.root] where
  size := rfl
  file := rfl
  outermost := rfl
  scopes := by
    intro place owner positive found
    obtain ⟨less, rfl⟩ := Nat.exists_eq_add_one.mpr positive
    simp at found
  mentions := by simp [ScopeTable.initial]

theorem mention_grows (coherent : Coherent tree table owners) {scope : ScopeId}
    {owner node : NodeId} {text : String} {act : Act} (found : owners[scope]? = some owner)
    (belongs : tree.Belongs node owner) (name : tree.nameText? node = some text)
    (does : tree.Does node act) :
    Grows tree table owners (table.mention tree scope node act) owners [node] [] := by
  have noted : table.mention tree scope node act =
      { table with mentions := table.mentions.push ⟨scope, text, node, act⟩ } := by
    rw [mention, name]
  rw [noted]
  refine ⟨{ coherent with mentions := ?_ }, ⟨[], by simp⟩, [⟨scope, text, node, act⟩], by simp,
    by simp⟩
  intro mention member
  simp only [Array.toList_push, List.mem_append, List.mem_singleton] at member
  rcases member with member | rfl
  · exact coherent.mentions mention member
  · exact ⟨⟨owner, found, belongs⟩, name, does⟩

theorem openScope_grows (coherent : Coherent tree table owners) {scope : ScopeId}
    {outer opener : NodeId} (isClass : Bool) (found : owners[scope]? = some outer)
    (belongs : tree.Belongs opener outer) (kind : isClass = true ↔ tree.IsClass opener) :
    Grows tree table owners (table.openScope scope isClass).1 (owners ++ [opener]) [] [opener] := by
  have inside := (List.getElem?_eq_some_iff.mp found).1
  refine ⟨⟨?_, ?_, ?_, ?_, ?_⟩, ⟨[opener], rfl, .refl _⟩, [], by simp [openScope], by simp⟩
  · simp [openScope, coherent.size]
  · rw [List.getElem?_append_left (Nat.lt_of_le_of_lt (Nat.zero_le _) inside)]
    exact coherent.file
  · have positive : 0 < table.scopes.size := by
      rw [← coherent.size]
      exact Nat.lt_of_le_of_lt (Nat.zero_le _) inside
    rw [openScope, Array.getElem?_push_lt positive]
    exact (Array.getElem?_eq_getElem positive).symm.trans coherent.outermost
  · intro place owner positive known
    by_cases old : place < owners.length
    · rw [List.getElem?_append_left old] at known
      obtain ⟨parent, around, isClass', stands, before, outside, around', kind'⟩ :=
        coherent.scopes place owner positive known
      refine ⟨parent, around, isClass', ?_, before, ?_, around', kind'⟩
      · rw [openScope, Array.getElem?_push, if_neg (by rw [← coherent.size]; omega)]
        exact stands
      · rw [List.getElem?_append_left (Nat.lt_trans before old)]
        exact outside
    · have new : place = owners.length := by
        have bound := (List.getElem?_eq_some_iff.mp known).1
        rw [List.length_append, List.length_singleton] at bound
        omega
      subst new
      rw [List.getElem?_append_right (Nat.le_refl _), Nat.sub_self, List.getElem?_cons_zero,
        Option.some.injEq] at known
      subst known
      refine ⟨scope, outer, isClass, ?_, inside, ?_, belongs, kind⟩
      · rw [openScope, coherent.size, Array.getElem?_push_size]
      · rw [List.getElem?_append_left inside]
        exact found
  · intro mention member
    exact (coherent.mentions mention member).mono [opener]

end ScopeTable

end StructuralLint
