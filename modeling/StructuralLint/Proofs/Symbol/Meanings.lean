import StructuralLint.Proofs.Keyed
import StructuralLint.Symbol.Resolution

/-!
# Meanings and uses

Every mention of a name makes at most one use of a meaning (`Resolution.useOf?`). The bindings that
are put together by meaning are those of the mentions that bind (`Resolution.spread_meanings_perm`),
and with declarations and reads they are all uses (`Resolution.uses_perm`). The symbols and the
names that carry them can be told from the uses alone: a meaning that some name is bound to has a
number, and its symbol has the uses of the meaning (`Resolution.usages_symbolWith`,
`Resolution.carried_resolve`).
-/

namespace StructuralLint.Resolution

open StructuralLint.Lists (spread)

variable {tree : Tree} {table : ScopeTable} {meaning : Meaning} {usages : List Usage}

/-! ### Order of usages -/

theorem insertUsage_perm (usage : Usage) (usages : List Usage) :
    (insertUsage tree usage usages).Perm (usage :: usages) := by
  induction usages with
  | nil => exact .refl _
  | cons other rest ih =>
      unfold insertUsage
      split
      · exact (ih.cons other).trans (.swap usage other rest)
      · exact .refl _

theorem sortUsages_perm (usages : List Usage) : (sortUsages tree usages).Perm usages := by
  induction usages with
  | nil => exact .refl _
  | cons usage rest ih => exact (insertUsage_perm usage _).trans (ih.cons usage)

/-! ### Uses -/

/-- The meaning that a mention has if its scope says what the name is. -/
def meaningOf (table : ScopeTable) (mention : Mention) : Meaning :=
  ⟨table.target mention.scope mention.name, mention.name⟩

/-- The binding that a mention is. -/
def boundUsage? (mention : Mention) : Option Usage :=
  match mention.act with
  | .bind kind => some ⟨mention.node, kind⟩
  | _ => none

/-- The use that a mention makes of a meaning, unless nothing says what the name is. -/
def useOf? (table : ScopeTable) (mention : Mention) : Option (Meaning × Usage) :=
  match mention.act with
  | .bind kind => some (meaningOf table mention, ⟨mention.node, kind⟩)
  | .declareGlobal | .declareNonlocal =>
    some (meaningOf table mention, ⟨mention.node, .globalDeclaration⟩)
  | .read =>
    (table.declaring? mention.scope mention.name).map fun scope =>
      (⟨table.target scope mention.name, mention.name⟩, ⟨mention.node, .other⟩)

/-! ### Bindings by meaning -/

theorem bindingsOf_perm (table : ScopeTable) (scope : ScopeId) :
    (spread (bindingsOf table scope)).Perm
      ((table.mentions.toList.filter (·.scope = scope)).filterMap fun mention =>
        (boundUsage? mention).map (mention.name, ·)) := by
  refine (Lists.spread_grouped_perm _).trans (.of_eq ?_)
  rw [List.filterMap_filter]
  apply List.filterMap_congr
  intro mention _
  unfold boundUsage?
  cases mention.act <;> simp

theorem spread_addBindings_perm (meaning : Meaning) (usages : List Usage)
    (known : List (Meaning × List Usage)) :
    (spread (addBindings meaning usages known)).Perm
      (spread known ++ usages.map (meaning, ·)) := by
  induction known with
  | nil => simp [addBindings]
  | cons head rest ih =>
      obtain ⟨other, own⟩ := head
      unfold addBindings
      split
      · rename_i same
        subst same
        rw [Lists.spread_cons, Lists.spread_cons, List.map_append, List.append_assoc,
          List.append_assoc]
        exact List.Perm.append_left _ List.perm_append_comm
      · rw [Lists.spread_cons, Lists.spread_cons, List.append_assoc]
        exact List.Perm.append_left _ ih

theorem keys_addBindings (meaning : Meaning) (usages : List Usage)
    (known : List (Meaning × List Usage)) :
    (addBindings meaning usages known).map (·.1) =
      if meaning ∈ known.map (·.1) then known.map (·.1) else known.map (·.1) ++ [meaning] := by
  induction known with
  | nil => simp [addBindings]
  | cons head rest ih =>
      obtain ⟨other, own⟩ := head
      unfold addBindings
      by_cases same : other = meaning
      · simp [same]
      · rw [if_neg same, List.map_cons, ih]
        by_cases later : meaning ∈ rest.map (·.1)
        · simp [later]
        · have new : meaning ≠ other := fun equal => same equal.symm
          rw [if_neg later, if_neg (by simpa [new] using later)]
          rfl

/-- What is put together so far: every meaning once, and each with usages. -/
structure Grouped (known : List (Meaning × List Usage)) : Prop where
  apart : (known.map (·.1)).Nodup
  inhabited : ∀ item ∈ known, item.2 ≠ []

theorem Grouped.addBindings {known : List (Meaning × List Usage)} (grouped : Grouped known)
    (meaning : Meaning) (nonempty : usages ≠ []) : Grouped (addBindings meaning usages known) := by
  constructor
  · rw [keys_addBindings]
    split
    · exact grouped.apart
    · rename_i new
      refine List.nodup_append.mpr ⟨grouped.apart, List.pairwise_singleton _ meaning, ?_⟩
      rintro other member _ single rfl
      exact new (List.mem_singleton.mp single ▸ member)
  · have inhabited := grouped.inhabited
    clear grouped
    induction known with
    | nil => simpa [Resolution.addBindings] using nonempty
    | cons head rest ih =>
        obtain ⟨other, own⟩ := head
        have later := fun item member => inhabited item (List.mem_cons_of_mem _ member)
        have first : own ≠ [] := inhabited (other, own) List.mem_cons_self
        intro item member
        unfold Resolution.addBindings at member
        split at member
        · rcases List.mem_cons.mp member with rfl | member
          · exact fun none => first (List.append_eq_nil_iff.mp none).1
          · exact later item member
        · rcases List.mem_cons.mp member with rfl | member
          · exact first
          · exact ih later item member

/-- One binding after the other is put with those of its meaning. -/
theorem foldl_addBindings {α : Type} (key : α → Meaning) (own : α → List Usage) {items : List α}
    (nonempty : ∀ item ∈ items, own item ≠ []) {known : List (Meaning × List Usage)}
    (grouped : Grouped known) :
    Grouped (items.foldl (fun known item => addBindings (key item) (own item) known) known) ∧
      (spread (items.foldl (fun known item => addBindings (key item) (own item) known) known)).Perm
        (spread known ++ items.flatMap fun item => (own item).map (key item, ·)) := by
  induction items generalizing known with
  | nil => exact ⟨grouped, by simp⟩
  | cons item rest ih =>
      have next := grouped.addBindings (key item) (nonempty item List.mem_cons_self)
      obtain ⟨last, perm⟩ :=
        ih (fun other member => nonempty other (List.mem_cons_of_mem _ member)) next
      refine ⟨last, perm.trans ?_⟩
      rw [List.flatMap_cons, ← List.append_assoc]
      exact (spread_addBindings_perm _ _ _).append_right _

/-- The bindings that are put together, scope by scope. -/
def entriesOf (table : ScopeTable) : List (ScopeId × String × List Usage) :=
  (List.range table.scopes.size).flatMap fun scope =>
    (bindingsOf table scope).map fun (name, usages) => (scope, name, usages)

theorem inhabited_entriesOf : ∀ item ∈ entriesOf table, item.2.2 ≠ [] := by
  rintro ⟨scope, name, usages⟩ member
  obtain ⟨scope', -, among⟩ := List.mem_flatMap.mp member
  obtain ⟨⟨name', usages'⟩, listed, same⟩ := List.mem_map.mp among
  cases same
  obtain ⟨key, known, same⟩ := List.mem_map.mp listed
  cases same
  obtain ⟨binding, present, rfl⟩ := List.mem_map.mp (List.mem_eraseDups.mp known)
  intro none
  rw [List.map_eq_nil_iff, List.filter_eq_nil_iff] at none
  exact none binding present (decide_eq_true rfl)

theorem meanings_spec :
    Grouped (meanings table) ∧
      (spread (meanings table)).Perm ((entriesOf table).flatMap fun item =>
        item.2.2.map (⟨table.target item.1 item.2.1, item.2.1⟩, ·)) :=
  foldl_addBindings (fun item : ScopeId × String × List Usage =>
    (⟨table.target item.1 item.2.1, item.2.1⟩ : Meaning)) (·.2.2) inhabited_entriesOf
    (show Grouped [] from ⟨List.nodup_nil, by simp⟩)

theorem grouped_meanings : Grouped (meanings table) := meanings_spec.1

/-- **No binding gets lost.** The bindings by their meanings are those of the mentions. -/
theorem spread_meanings_perm
    (inside : ∀ mention ∈ table.mentions.toList, mention.scope < table.scopes.size) :
    (spread (meanings table)).Perm (table.mentions.toList.filterMap fun mention =>
      (boundUsage? mention).map (meaningOf table mention, ·)) := by
  apply meanings_spec.2.trans
  have label (scope : ScopeId) : ((bindingsOf table scope).flatMap fun item =>
      item.2.map (⟨table.target scope item.1, item.1⟩, ·)) =
      ((spread (bindingsOf table scope)).map fun item =>
        ((⟨table.target scope item.1, item.1⟩ : Meaning), item.2)) := by
    rw [spread, List.map_flatMap]
    simp [Function.comp_def]
  rw [entriesOf, List.flatMap_assoc, List.filterMap_eq_flatMap_toList]
  simp only [List.flatMap_map, label]
  refine List.Perm.trans (List.Perm.flatMap_left _ fun scope _ =>
    (bindingsOf_perm table scope).map _) ?_
  refine List.Perm.trans (.of_eq ?_) (Lists.flatMap_perm_of_keys (·.scope) _
    List.nodup_range fun mention member unlisted =>
      absurd (List.mem_range.mpr (inside mention member)) unlisted).symm
  apply List.flatMap_congr
  intro scope _
  rw [List.map_filterMap, List.filterMap_eq_flatMap_toList]
  apply List.flatMap_congr
  intro mention member
  have own : mention.scope = scope := of_decide_eq_true (List.mem_filter.mp member).2
  rw [Option.map_map, ← own]
  rfl

/-! ### Symbols -/

/-- The number of the symbol of a meaning that some name is bound to. -/
def number (table : ScopeTable) (meaning : Meaning) : Option SymbolId :=
  ((meanings table).map (·.1)).findIdx? (· = meaning)

/-- The meanings with their bindings in source order. -/
def arranged (tree : Tree) (table : ScopeTable) : List (Meaning × List Usage) :=
  (meanings table).map fun item => (item.1, sortUsages tree item.2)

/-- The uses that do not bind. -/
def referring (table : ScopeTable) : List (Meaning × Usage) :=
  references table (declared table) .globalDeclaration ++
    references table (readMeaning table) .other

/-- The symbol of a meaning with these bindings. -/
def symbolWith (table : ScopeTable) (item : Meaning × List Usage) : Symbol where
  name := item.1.name
  kind := .ofUsages item.2
  usages := item.2 ++ ((referring table).filter (·.1 = item.1)).map (·.2)

theorem symbols_resolve :
    (resolve tree table).symbols = (arranged tree table).map (symbolWith table) := rfl

/-- The bindings in the order of the symbols, and then the declarations and the reads. -/
def uses (tree : Tree) (table : ScopeTable) : List (Meaning × Usage) :=
  spread (arranged tree table) ++ referring table

theorem keys_arranged (tree : Tree) (table : ScopeTable) :
    (arranged tree table).map (·.1) = (meanings table).map (·.1) := by
  rw [arranged, List.map_map]
  rfl

theorem grouped_arranged : Grouped (arranged tree table) := by
  refine ⟨keys_arranged tree table ▸ grouped_meanings.apart, fun item member none => ?_⟩
  obtain ⟨given, listed, rfl⟩ := List.mem_map.mp member
  have same : (sortUsages tree given.2).Perm given.2 := sortUsages_perm given.2
  rw [show sortUsages tree given.2 = [] from none] at same
  exact grouped_meanings.inhabited given listed same.symm.eq_nil

theorem number_eq_some {id : SymbolId} :
    number table meaning = some id ↔ ((meanings table).map (·.1))[id]? = some meaning :=
  Lists.findIdx?_eq_some grouped_meanings.apart

/-- A meaning has a number if some name is bound to it. -/
theorem isSome_number_iff
    (inside : ∀ mention ∈ table.mentions.toList, mention.scope < table.scopes.size) :
    (number table meaning).isSome = true ↔ ∃ mention ∈ table.mentions.toList,
      (∃ kind, mention.act = .bind kind) ∧ meaningOf table mention = meaning := by
  rw [number, List.findIdx?_isSome, List.any_eq_true]
  constructor
  · rintro ⟨meaning', member, same⟩
    rw [decide_eq_true_eq] at same
    subst same
    obtain ⟨⟨key, usages⟩, listed, rfl⟩ := List.mem_map.mp member
    obtain ⟨usage, inhabits⟩ := List.exists_mem_of_ne_nil _ (grouped_meanings.inhabited _ listed)
    have bound := (spread_meanings_perm inside).mem_iff.mp
      (Lists.mem_spread.mpr ⟨usages, listed, inhabits⟩)
    obtain ⟨mention, among, acts⟩ := List.mem_filterMap.mp bound
    obtain ⟨usage', binds, same⟩ := Option.map_eq_some_iff.mp acts
    cases same
    refine ⟨mention, among, ?_, rfl⟩
    unfold boundUsage? at binds
    split at binds
    · rename_i kind act
      exact ⟨kind, act⟩
    · cases binds
  · rintro ⟨mention, among, ⟨kind, act⟩, rfl⟩
    have bound : (meaningOf table mention, (⟨mention.node, kind⟩ : Usage)) ∈
        spread (meanings table) := by
      rw [(spread_meanings_perm inside).mem_iff, List.mem_filterMap]
      exact ⟨mention, among, by rw [boundUsage?, act]; rfl⟩
    obtain ⟨usages, listed, -⟩ := Lists.mem_spread.mp bound
    exact ⟨_, List.mem_map_of_mem listed, decide_eq_true rfl⟩

/-- **All uses.** The uses are those that the mentions make. -/
theorem uses_perm
    (inside : ∀ mention ∈ table.mentions.toList, mention.scope < table.scopes.size) :
    (uses tree table).Perm (table.mentions.toList.filterMap (useOf? table)) := by
  have bindings := (Lists.spread_perm_of_values (sortUsages tree) sortUsages_perm).trans
    (spread_meanings_perm inside)
  refine ((bindings.append_right _).trans ?_)
  have later : (table.mentions.toList.filterMap fun mention =>
      if mention.act = .read then useOf? table mention
      else (declared table mention).map fun meaning =>
        (meaning, (⟨mention.node, .globalDeclaration⟩ : Usage))).Perm
      (references table (declared table) .globalDeclaration ++
        references table (readMeaning table) .other) := by
    refine Lists.filterMap_perm_append (fun mention => ?_) _
    cases act : mention.act <;> simp [act, declared, readMeaning, useOf?, Function.comp_def]
  refine (List.Perm.append_left _ later.symm).trans
    (Lists.filterMap_perm_append (fun mention => ?_) _).symm
  cases act : mention.act <;> simp [act, boundUsage?, useOf?, declared, meaningOf]

/-- The symbol with a number has the uses of its meaning. -/
theorem exists_meaning_of_symbol {id : SymbolId} {symbol : Symbol}
    (found : (resolve tree table).symbols[id]? = some symbol) :
    ∃ meaning usages, (meaning, usages) ∈ arranged tree table ∧
      number table meaning = some id ∧ symbol = symbolWith table (meaning, usages) := by
  rw [symbols_resolve, List.getElem?_map, Option.map_eq_some_iff] at found
  obtain ⟨⟨meaning, usages⟩, listed, rfl⟩ := found
  refine ⟨meaning, usages, List.mem_of_getElem? listed, ?_, rfl⟩
  rw [number_eq_some, ← keys_arranged tree table, List.getElem?_map, listed]
  rfl

theorem exists_symbol_of_number {id : SymbolId} (numbered : number table meaning = some id) :
    ∃ usages, (meaning, usages) ∈ arranged tree table ∧
      (resolve tree table).symbols[id]? = some (symbolWith table (meaning, usages)) := by
  have known := number_eq_some.mp numbered
  rw [← keys_arranged tree table, List.getElem?_map, Option.map_eq_some_iff] at known
  obtain ⟨⟨key, usages⟩, listed, rfl⟩ := known
  refine ⟨usages, List.mem_of_getElem? listed, ?_⟩
  rw [symbols_resolve, List.getElem?_map, listed]
  rfl

/-- The usages of a symbol are the uses of its meaning. -/
theorem usages_symbolWith (member : (meaning, usages) ∈ arranged tree table) :
    (symbolWith table (meaning, usages)).usages =
      ((uses tree table).filter (·.1 = meaning)).map (·.2) := by
  rw [uses, List.filter_append, List.map_append, Lists.filter_spread grouped_arranged.apart member]
  rfl

/-- The names carry the symbols of the meanings that they use. -/
theorem carried_resolve :
    (resolve tree table).carried = (uses tree table).filterMap fun use =>
      (number table use.1).map (use.2.node, ·) := by
  have find (meaning : Meaning) : (((arranged tree table).zipIdx.find? fun item =>
      item.1.1 = meaning).map (·.2)) = number table meaning := by
    rw [Lists.find?_zipIdx, keys_arranged, number]
  have own : ((arranged tree table).zipIdx.flatMap fun item =>
      item.1.2.map fun usage => (usage.node, item.2)) =
      (spread (arranged tree table)).filterMap fun use =>
        (number table use.1).map (use.2.node, ·) := by
    have unnumbered : spread (arranged tree table) =
        (arranged tree table).zipIdx.flatMap fun item => item.1.2.map (item.1.1, ·) := by
      rw [← List.zipIdx_map_fst 0 (arranged tree table), spread, List.flatMap_map]
      simp
    rw [unnumbered, List.filterMap_flatMap]
    apply List.flatMap_congr
    intro item member
    have numbered : number table item.1.1 = some item.2 := by
      rw [number_eq_some, ← keys_arranged tree table, List.getElem?_map,
        List.mem_zipIdx_iff_getElem?.mp member]
      rfl
    rw [List.filterMap_map]
    simp [numbered]
  rw [uses, List.filterMap_append, ← own]
  refine congrArg₂ _ rfl (List.filterMap_congr fun use _ => ?_)
  rw [← find, Option.map_map]
  rfl

end StructuralLint.Resolution
