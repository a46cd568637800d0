import StructuralLint.Proofs.Symbol.Meanings
import StructuralLint.Proofs.Symbol.Targets

/-!
# Which symbol a name carries

In an exact table every name is mentioned once, so it makes one use at most. The symbol that the
name carries is the one of the meaning that it uses (`Resolution.symbolOf?_of_mention`). The
meanings by the numbers of their scopes are those by the scopes themselves, which is what
`Resolution.symbolFor` goes by.
-/

namespace StructuralLint.Resolution

variable {branch : Branch} {table : ScopeTable} {owners : List NodeId} {mention : Mention}
  {use : Meaning × Usage} {meaning : Meaning} {id : SymbolId} {node : NodeId}

/-- A use is one of the mention's name. -/
theorem node_of_useOf? (makes : useOf? table mention = some use) :
    use.2.node = mention.node ∧ use.1.name = mention.name := by
  unfold useOf? at makes
  split at makes
  · cases makes
    exact ⟨rfl, rfl⟩
  · cases makes
    exact ⟨rfl, rfl⟩
  · cases makes
    exact ⟨rfl, rfl⟩
  · obtain ⟨scope, -, rfl⟩ := Option.map_eq_some_iff.mp makes
    exact ⟨rfl, rfl⟩

section

variable (exact : ScopeTable.Exact branch table owners)
include exact

theorem scope_lt_size : ∀ mention ∈ table.mentions.toList, mention.scope < table.scopes.size := by
  intro mention member
  obtain ⟨scope, found, -⟩ := (exact.mentions mention member).scope
  rw [← exact.size]
  exact (List.getElem?_eq_some_iff.mp found).1

theorem mem_uses_iff :
    use ∈ uses branch.toTree table ↔
      ∃ mention ∈ table.mentions.toList, useOf? table mention = some use := by
  rw [(uses_perm (scope_lt_size exact)).mem_iff, List.mem_filterMap]

/-- **No name is used twice.** -/
theorem nodup_uses : ((uses branch.toTree table).map (·.2.node)).Nodup := by
  refine ((uses_perm (scope_lt_size exact)).map _).nodup_iff.mpr (exact.once.sublist ?_)
  generalize table.mentions.toList = mentions
  induction mentions with
  | nil => exact .refl _
  | cons mention rest ih =>
      cases makes : useOf? table mention with
      | none =>
          rw [List.filterMap_cons_none makes]
          exact ih.cons _
      | some use =>
          rw [List.filterMap_cons_some makes, List.map_cons, List.map_cons,
            (node_of_useOf? makes).1]
          exact ih.cons_cons _

theorem symbolOf?_eq_some_iff :
    (resolve branch.toTree table).symbolOf? node = some id ↔
      ∃ use ∈ uses branch.toTree table, use.2.node = node ∧ number table use.1 = some id := by
  have apart : ((resolve branch.toTree table).carried.map (·.1)).Nodup := by
    rw [carried_resolve]
    refine (nodup_uses exact).sublist ?_
    generalize uses branch.toTree table = all
    induction all with
    | nil => exact .refl _
    | cons use rest ih =>
        cases numbered : number table use.1 with
        | none =>
            rw [List.filterMap_cons_none (by rw [numbered]; rfl)]
            exact ih.cons _
        | some id =>
            rw [List.filterMap_cons_some (by rw [numbered]; rfl)]
            exact ih.cons_cons _
  rw [SymbolTable.symbolOf?, Lists.find?_reverse_eq_some apart, carried_resolve, List.mem_filterMap]
  constructor
  · rintro ⟨use, member, carries⟩
    obtain ⟨id', numbered, same⟩ := Option.map_eq_some_iff.mp carries
    cases same
    exact ⟨use, member, rfl, numbered⟩
  · rintro ⟨use, member, rfl, numbered⟩
    exact ⟨use, member, by rw [numbered]; rfl⟩

/-- A name carries the symbol of the meaning that it uses. -/
theorem symbolOf?_of_mention (member : mention ∈ table.mentions.toList) :
    (resolve branch.toTree table).symbolOf? mention.node =
      (useOf? table mention).bind fun use => number table use.1 := by
  apply Option.ext
  intro id
  rw [symbolOf?_eq_some_iff exact, Option.bind_eq_some_iff]
  constructor
  · rintro ⟨use, among, same, numbered⟩
    obtain ⟨mention', member', makes⟩ := (mem_uses_iff exact).mp among
    have equal : mention' = mention :=
      List.inj_on_of_nodup_map exact.once member' member ((node_of_useOf? makes).1.symm.trans same)
    exact ⟨use, equal ▸ makes, numbered⟩
  · rintro ⟨use, makes, numbered⟩
    exact ⟨use, (mem_uses_iff exact).mpr ⟨mention, member, makes⟩, (node_of_useOf? makes).1,
      numbered⟩

end

/-! ### Symbols by scopes -/

/-- The symbol of a name that belongs to a scope. -/
def symbolFor (table : ScopeTable) (owners : List NodeId) (target : NodeId) (name : String) :
    Option SymbolId :=
  (owners.findIdx? (· = target)).bind fun place => number table ⟨place, name⟩

section

variable (exact : ScopeTable.Exact branch table owners) {place : ScopeId} {scope target : NodeId}
  {name : String}
include exact

theorem symbolFor_eq (found : owners[place]? = some target) :
    symbolFor table owners target name = number table ⟨place, name⟩ := by
  rw [symbolFor, (Lists.findIdx?_eq_some exact.distinct).mpr found]
  rfl

theorem exists_place_of_symbolFor (numbered : symbolFor table owners target name = some id) :
    ∃ place, owners[place]? = some target ∧ number table ⟨place, name⟩ = some id := by
  obtain ⟨place, found, numbered⟩ := Option.bind_eq_some_iff.mp numbered
  exact ⟨place, (Lists.findIdx?_eq_some exact.distinct).mp found, numbered⟩

/-- The meaning of a name in a scope has the symbol of the target. -/
theorem number_eq_symbolFor (found : owners[place]? = some scope)
    (leads : branch.toTree.Target name scope target) :
    number table ⟨table.target place name, name⟩ = symbolFor table owners target name :=
  (symbolFor_eq exact (exact.getElem?_target found leads)).symm

end

end StructuralLint.Resolution
