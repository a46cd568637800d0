import StructuralLint.Proofs.Clause.Words
import StructuralLint.Proofs.Symbol.Agreement
import StructuralLint.Proofs.Symbol.Visiting

/-!
# Usages in source order

The usages of a symbol come in three blocks: bindings, declarations, reads. Bindings are sorted by
their tokens. Declarations and reads come as they were collected, which is their order in the source
text unless a definition lists parts around two of them the other way round, as a class does whose
keywords stand before its bases (`Tree.UsagesOrdered`, `Tree.usagesOrdered`). In a tree without such
lists every block is in source order (`Tree.UsagesOrdered.inSourceOrder`).
-/

namespace StructuralLint

/-! ### Places of names -/

namespace Tree

/-- The place of the first token of a node among the tokens of the file. -/
def tokenIndex? (tree : Tree) (node : NodeId) : Option Nat :=
  ((tree.firstToken node).bind tree.token?).map (·.index)

/-- One node starts before another one, as far as they have tokens. -/
def Before (tree : Tree) (left right : NodeId) : Prop :=
  ∀ place ∈ tree.tokenIndex? left, ∀ place' ∈ tree.tokenIndex? right, place < place'

/-- Some definition lists a part around `left` before a part around `right` that stands further left
in the tree. -/
def Crossed (tree : Tree) (left right : NodeId) : Prop :=
  ∃ node form part other, tree.form? node = some form ∧
    [part, other].Sublist (form.partOrder.flatMap (tree.attributes node)) ∧ other < part ∧
    left ∈ tree.walk part ∧ right ∈ tree.walk other

/-- One node starts before another one, or after it where parts around them are crossed. -/
def Follows (tree : Tree) (left right : NodeId) : Prop :=
  tree.Before left right ∨ tree.Crossed left right ∧ tree.Before right left

/-- Definitions, parameters and `except` clauses list their parts as these stand in the tree. -/
def Straight (tree : Tree) : Prop :=
  ∀ node form, tree.form? node = some form →
    (form.partOrder.flatMap (tree.attributes node)).Pairwise (· < ·)

theorem straight_iff (tree : Tree) :
    tree.Straight ↔ ∀ node ∈ List.range tree.nodes.size, ∀ form ∈ tree.form? node,
      (form.partOrder.flatMap (tree.attributes node)).Pairwise (· < ·) := by
  refine ⟨fun straight node _ => straight node, fun straight node form found => ?_⟩
  refine straight node (List.mem_range.mpr ?_) form found
  by_contra outside
  rw [form?, Array.getElem?_eq_none (Nat.le_of_not_lt outside)] at found
  cases found

instance (tree : Tree) : Decidable tree.Straight := decidable_of_iff _ tree.straight_iff.symm

theorem Straight.not_crossed {tree : Tree} (straight : tree.Straight) (left right : NodeId) :
    ¬tree.Crossed left right := by
  rintro ⟨node, form, part, other, found, listed, smaller, -⟩
  have larger := List.pairwise_iff_forall_sublist.mp (straight node form found) listed
  exact Nat.lt_asymm larger smaller

theorem Straight.before {tree : Tree} (straight : tree.Straight) {left right : NodeId}
    (follows : tree.Follows left right) : tree.Before left right :=
  follows.resolve_right fun crossed => straight.not_crossed left right crossed.1

end Tree

theorem SourceText.tokensIn_sublist (text : SourceText) (span : Span) :
    (text.tokensIn span).Sublist text.tokens :=
  (List.takeWhile_sublist _).trans (List.dropWhile_sublist _)

namespace Placed

variable {branch : Branch} {left right : Placed} {above above' : List Placed}

section

variable (lies : Lies branch.whole left above) (lies' : Lies branch.whole right above')
include lies lies'

/-- A node to the left starts earlier. -/
theorem Lies.before (leaves : branch.TokensAreLeaves) (numbered : Token.Numbered branch.tokens)
    (apart : left.Apart right) : branch.toTree.Before left.id right.id := by
  intro place among place' among'
  obtain ⟨token, held, rfl⟩ := Option.map_eq_some_iff.mp among
  obtain ⟨token', held', rfl⟩ := Option.map_eq_some_iff.mp among'
  obtain ⟨word, starts, held⟩ := Option.bind_eq_some_iff.mp held
  obtain ⟨word', starts', held'⟩ := Option.bind_eq_some_iff.mp held'
  exact lies.index_lt lies' leaves numbered apart starts starts' held held'

theorem Lies.follows (sound : branch.Sound) (leaves : branch.TokensAreLeaves)
    (numbered : Token.Numbered branch.tokens) (precedes : Precedes branch left right) :
    branch.toTree.Follows left.id right.id := by
  rcases precedes with apart | ⟨outer, around, part, other, upper, listed, apart, below, below'⟩
  · exact .inl (lies.before lies' leaves numbered apart)
  · have marks : ∀ role ∈ outer.form.partOrder, role.isMark = false := by
      cases outer.form <;> simp [Form.partOrder, Role.isMark]
    have walked : ∀ inner ∈ [part, other], branch.toTree.walk inner.id =
        inner.preorder.map (·.id) := by
      intro inner member
      obtain ⟨role, -, plays⟩ := List.mem_flatMap.mp (listed.subset member)
      exact (upper.child_playing plays).walk_toTree
    refine .inr ⟨⟨outer.id, outer.form, part.id, other.id, upper.form?_toTree, ?_, apart.id_lt,
      ?_, ?_⟩, ?_⟩
    · rw [List.flatMap_congr fun role member => upper.attributes_of_sound sound (marks role member),
        ← List.map_flatMap]
      exact listed.map (·.id)
    · rw [walked part (by simp)]
      exact List.mem_map_of_mem below
    · rw [walked other (by simp)]
      exact List.mem_map_of_mem below'
    · obtain ⟨_, lower⟩ := mem_preorder_iff.mp below
      obtain ⟨_, lower'⟩ := mem_preorder_iff.mp below'
      exact lies'.before lies leaves numbered (apart.within lower'.within lower.within)

/-- Of two names one stands to the left of the other. -/
theorem Lies.apart_of_names (sound : branch.Sound) (name : left.form.isName = true)
    (name' : right.form.isName = true) (other : left.id ≠ right.id) :
    left.Apart right ∨ right.Apart left := by
  have alone {outer inner : Placed} {around between : List Placed}
      (lies : Lies branch.whole outer around) (named : outer.form.isName = true)
      (lower : Lies outer inner between) (named' : inner.form.isName = true) :
      inner.id = outer.id := by
    have listed : inner.id ∈ outer.gathered Form.isName :=
      mem_gathered.mpr ⟨inner, between, lower, named', rfl⟩
    cases form : outer.form with
    | name text binds =>
        have shaped := shaped_of_form (sound _ _ lies) (by simp [form])
        rw [gathered_name _ Form.counted_isName.token shaped form, form] at listed
        exact List.mem_singleton.mp listed
    | _ =>
        rw [form] at named
        cases named
  rcases Nat.lt_or_gt_of_ne other with smaller | larger
  · exact .inl (lies.apart lies' smaller fun _ lower => other (alone lies' name' lower name))
  · exact .inr (lies'.apart lies larger fun _ lower => other (alone lies name lower name').symm)

end

/-! ### Declared names -/

/-- Names are declared in source order. -/
theorem Lies.pairwise_pointing {program : Program} {text : SourceText} {placed : Placed}
    {above : List Placed} (lexed : Token.IsLexed text.tokens)
    (lies : Lies (Branch.ofProgram program text).whole placed above) :
    placed.pointing.Pairwise Apart := by
  rw [pointing]
  split
  · exact List.pairwise_singleton _ _
  · rename_i isGlobal form
    obtain ⟨stmt, -, other, _, lies', same, hosts⟩ :=
      Program.exists_stands lexed lies (by rw [form]; rfl) (by rw [form]; rfl)
    obtain rfl := lies.eq_of_id lies' same.symm
    have completes := hosts.completes
    have drafted := (form_of_completes completes).symm.trans form
    cases stmt with
    | scopeDeclaration span declares names =>
        rw [Draft.ofStmt] at completes
        rw [playing_eq_standing_of_completes completes]
        · exact placed.pairwise_standing .declared
        · rw [Draft.inRole_playing, if_pos rfl, Draft.StartInOrder, List.pairwise_map]
          exact lexed.isStream.inOrder.sublist
            (List.filter_sublist.trans (text.tokensIn_sublist _))
    | _ =>
        rw [Draft.ofStmt] at drafted
        cases drafted
  · exact .nil

end Placed

/-! ### The blocks of a symbol -/

namespace Symbol

/-- The usages that declare the name to be one of another scope. -/
def declarations (symbol : Symbol) : List Usage :=
  symbol.usages.filter (·.kind = .globalDeclaration)

/-- The usages that neither bind nor declare. -/
def reads (symbol : Symbol) : List Usage := symbol.usages.filter (·.kind = .other)

end Symbol

/-- In which order a symbol lists its usages. Bindings without a token come first. -/
structure Tree.UsagesOrdered (tree : Tree) (symbol : Symbol) : Prop where
  blocks : symbol.usages = symbol.bindings ++ (symbol.declarations ++ symbol.reads)
  bindings : symbol.bindings.Pairwise fun earlier later => tree.Before earlier.node later.node
  tokenless : symbol.bindings.Pairwise fun earlier later =>
    tree.tokenIndex? later.node = none → tree.tokenIndex? earlier.node = none
  declarations : symbol.declarations.Pairwise fun earlier later =>
    tree.Follows earlier.node later.node
  reads : symbol.reads.Pairwise fun earlier later => tree.Follows earlier.node later.node

/-- The tokens of the usages come in source order. -/
def Tree.InSourceOrder (tree : Tree) (usages : List Usage) : Prop :=
  (usages.filterMap (tree.tokenIndex? ·.node)).Pairwise (· < ·)

theorem Tree.inSourceOrder_of_before {tree : Tree} {usages : List Usage}
    (ordered : usages.Pairwise fun earlier later => tree.Before earlier.node later.node) :
    tree.InSourceOrder usages :=
  List.pairwise_filterMap.mpr (ordered.imp fun before place among place' among' =>
    before place among place' among')

/-- Where no parts are crossed every block is in source order. -/
theorem Tree.UsagesOrdered.inSourceOrder {tree : Tree} {symbol : Symbol}
    (ordered : tree.UsagesOrdered symbol) (straight : tree.Straight) :
    tree.InSourceOrder symbol.bindings ∧ tree.InSourceOrder symbol.declarations ∧
      tree.InSourceOrder symbol.reads :=
  ⟨inSourceOrder_of_before ordered.bindings,
    inSourceOrder_of_before (ordered.declarations.imp straight.before),
    inSourceOrder_of_before (ordered.reads.imp straight.before)⟩

namespace Resolution

variable {tree : Tree} {table : ScopeTable} {meaning : Meaning} {usages : List Usage}

theorem insertUsage_eq_orderedInsert (usage : Usage) (usages : List Usage) :
    insertUsage tree usage usages =
      usages.orderedInsert (fun left right => sourceOrder tree left ≤ sourceOrder tree right)
        usage := by
  induction usages with
  | nil => rfl
  | cons other rest ih =>
      rw [insertUsage, List.orderedInsert_cons, ih]
      split <;> split <;> first | rfl | omega

/-- Sorted usages are in the order of their tokens. -/
theorem pairwise_sortUsages (usages : List Usage) :
    (sortUsages tree usages).Pairwise fun left right =>
      sourceOrder tree left ≤ sourceOrder tree right := by
  have total : Std.Total fun left right : Usage =>
      sourceOrder tree left ≤ sourceOrder tree right := ⟨fun left right => Int.le_total _ _⟩
  have transitive : IsTrans _ fun left right : Usage =>
      sourceOrder tree left ≤ sourceOrder tree right := ⟨fun left middle right => Int.le_trans⟩
  have same : sortUsages tree usages = usages.insertionSort fun left right =>
      sourceOrder tree left ≤ sourceOrder tree right := by
    rw [sortUsages, List.insertionSort, funext₂ insertUsage_eq_orderedInsert]
  rw [same]
  exact List.pairwise_insertionSort _ _

theorem sourceOrder_eq (tree : Tree) (usage : Usage) :
    sourceOrder tree usage = ((tree.tokenIndex? usage.node).map Int.ofNat).getD (-1) := by
  rw [sourceOrder, Tree.tokenIndex?]
  cases (tree.firstToken usage.node).bind tree.token? <;> rfl

/-! ### What refers without binding -/

/-- The usages of one kind that refer to a meaning. -/
def referencesTo (table : ScopeTable) (act : Mention → Option Meaning) (kind : UsageKind)
    (meaning : Meaning) : List Usage :=
  ((references table act kind).filter (·.1 = meaning)).map (·.2)

theorem kind_of_mem_referencesTo {act : Mention → Option Meaning} {kind : UsageKind} {usage : Usage}
    (member : usage ∈ referencesTo table act kind meaning) : usage.kind = kind := by
  obtain ⟨⟨meaning', usage'⟩, among, rfl⟩ := List.mem_map.mp member
  obtain ⟨mention, -, refers⟩ := List.mem_filterMap.mp (List.mem_of_mem_filter among)
  obtain ⟨meaning', -, same⟩ := Option.map_eq_some_iff.mp refers
  cases same
  rfl

/-- Usages that refer are listed as their names were noted. -/
theorem sublist_referencesTo {act : Mention → Option Meaning} (kind : UsageKind) (meaning : Meaning)
    (silent : ∀ mention, mention.act.binds = true → act mention = none) :
    ((referencesTo table act kind meaning).map (·.node)).Sublist table.nonbinding := by
  have all : ((references table act kind).map (·.2.node)).Sublist table.nonbinding := by
    rw [references, ScopeTable.nonbinding]
    generalize table.mentions.toList = mentions
    induction mentions with
    | nil => exact .refl _
    | cons mention rest ih =>
        cases binds : mention.act.binds with
        | true =>
            rw [List.filterMap_cons_none (by rw [silent mention binds]; rfl),
              List.filter_cons_of_neg (by simp [binds])]
            exact ih
        | false =>
            rw [List.filter_cons_of_pos (by simp [binds]), List.map_cons]
            cases refers : act mention with
            | none =>
                rw [List.filterMap_cons_none (by rw [refers]; rfl)]
                exact ih.cons _
            | some meaning =>
                rw [List.filterMap_cons_some (by rw [refers]; rfl), List.map_cons]
                exact ih.cons_cons _
  rw [referencesTo, List.map_map]
  exact (List.filter_sublist.map _).trans all

theorem silent_declared {mention : Mention} (binds : mention.act.binds = true) :
    declared table mention = none := by
  rw [declared, if_neg]
  rintro (same | same) <;>
  · rw [same] at binds
    cases binds

theorem silent_readMeaning {mention : Mention} (binds : mention.act.binds = true) :
    readMeaning table mention = none := by
  rw [readMeaning, if_neg]
  intro same
  rw [same] at binds
  cases binds

theorem usages_symbolWith_eq (table : ScopeTable) (meaning : Meaning) (usages : List Usage) :
    (symbolWith table (meaning, usages)).usages =
      usages ++ (referencesTo table (declared table) .globalDeclaration meaning ++
        referencesTo table (readMeaning table) .other meaning) := by
  rw [symbolWith, referring, List.filter_append, List.map_append]
  rfl

/-- The blocks of a symbol are its bindings, the declarations and the reads. -/
theorem blocks_symbolWith (table : ScopeTable) (meaning : Meaning)
    (binding : ∀ usage ∈ usages, usage.kind.binds = true) :
    let symbol := symbolWith table (meaning, usages)
    symbol.bindings = usages ∧
      symbol.declarations = referencesTo table (declared table) .globalDeclaration meaning ∧
      symbol.reads = referencesTo table (readMeaning table) .other meaning := by
  intro symbol
  have own (act : Mention → Option Meaning) (kind : UsageKind) :
      (referencesTo table act kind meaning).filter (·.kind = kind) =
        referencesTo table act kind meaning :=
    List.filter_eq_self.mpr fun usage member => decide_eq_true (kind_of_mem_referencesTo member)
  have none (act : Mention → Option Meaning) {kind kind' : UsageKind} (apart : kind ≠ kind') :
      (referencesTo table act kind meaning).filter (·.kind = kind') = [] := by
    refine List.filter_eq_nil_iff.mpr fun usage member same => apart ?_
    rw [← kind_of_mem_referencesTo member, of_decide_eq_true same]
  have unbound {kind : UsageKind} (apart : kind.binds = false) :
      usages.filter (·.kind = kind) = [] := by
    refine List.filter_eq_nil_iff.mpr fun usage member same => ?_
    have binds := binding usage member
    rw [of_decide_eq_true same, apart] at binds
    cases binds
  refine ⟨?_, ?_, ?_⟩
  · rw [Symbol.bindings, bindings_symbolWith, List.filter_eq_self.mpr binding]
  · rw [Symbol.declarations, usages_symbolWith_eq, List.filter_append, List.filter_append,
      unbound rfl, own, none _ (by decide), List.nil_append, List.append_nil]
  · rw [Symbol.reads, usages_symbolWith_eq, List.filter_append, List.filter_append, unbound rfl,
      own, none _ (by decide), List.nil_append, List.nil_append]

section

variable {branch : Branch} {owners : List NodeId} (exact : ScopeTable.Exact branch table owners)
include exact

/-- The bindings of a symbol are in source order. -/
theorem pairwise_bindings (leaves : branch.TokensAreLeaves)
    (numbered : Token.Numbered branch.tokens)
    (member : (meaning, usages) ∈ arranged branch.toTree table) :
    (usages.Pairwise fun earlier later => branch.toTree.Before earlier.node later.node) ∧
      usages.Pairwise fun earlier later => branch.toTree.tokenIndex? later.node = none →
        branch.toTree.tokenIndex? earlier.node = none := by
  have sorted : usages.Pairwise fun left right =>
      sourceOrder branch.toTree left ≤ sourceOrder branch.toTree right := by
    obtain ⟨given, -, same⟩ := List.mem_map.mp member
    cases same
    exact pairwise_sortUsages _
  simp only [sourceOrder_eq] at sorted
  have listed {usage : Usage} (among : usage ∈ usages) :
      (meaning, usage) ∈ uses branch.toTree table :=
    List.mem_append_left _ (Lists.mem_spread.mpr ⟨usages, member, among⟩)
  have names : ∀ usage ∈ usages, ∃ placed above, Placed.Lies branch.whole placed above ∧
      placed.form.isName = true ∧ placed.id = usage.node := by
    intro usage among
    have binds := binds_of_mem_arranged exact member among
    have form := (faithful_of_mem_uses exact (listed among)).2.mp binds
    obtain ⟨placed, above, lies, same, form⟩ := Tree.exists_lies_of_form? form
    exact ⟨placed, above, lies, by rw [form]; rfl, same⟩
  have distinct : usages.Pairwise fun left right => left.node ≠ right.node := by
    have once : ((symbolWith table (meaning, usages)).usages.map (·.node)).Nodup := by
      rw [usages_symbolWith member, List.map_map]
      exact (nodup_uses exact).sublist (List.filter_sublist.map _)
    rw [usages_symbolWith_eq, List.map_append] at once
    exact List.pairwise_map.mp (List.nodup_append.mp once).1
  constructor
  · refine (sorted.and distinct).imp_of_mem ?_
    rintro left right among among' ⟨below, other⟩
    obtain ⟨placed, above, lies, name, same⟩ := names left among
    obtain ⟨placed', above', lies', name', same'⟩ := names right among'
    rw [← same, ← same'] at other below ⊢
    rcases lies.apart_of_names lies' exact.sound name name' other with apart | apart
    · exact lies.before lies' leaves numbered apart
    · intro place found place' found'
      have smaller := lies'.before lies leaves numbered apart place' found' place found
      rw [Option.mem_def.mp found, Option.mem_def.mp found'] at below
      simp at below
      omega
  · refine sorted.imp fun {earlier later} below none => ?_
    rw [none] at below
    cases found : branch.toTree.tokenIndex? earlier.node with
    | none => rfl
    | some place =>
        rw [found] at below
        simp at below
        omega

/-- **The usages of a symbol are ordered.** -/
theorem usagesOrdered_of_mem_symbols (leaves : branch.TokensAreLeaves)
    (numbered : Token.Numbered branch.tokens) {names : List Placed}
    (noted : table.nonbinding = names.map (·.id))
    (ordered : names.Pairwise (Placed.Precedes branch))
    (inside : ∀ name ∈ names, ∃ above, Placed.Lies branch.whole name above) :
    ∀ symbol ∈ (resolve branch.toTree table).symbols, branch.toTree.UsagesOrdered symbol := by
  intro symbol listed
  rw [symbols_resolve] at listed
  obtain ⟨⟨meaning, usages⟩, member, rfl⟩ := List.mem_map.mp listed
  obtain ⟨bindings, declarations, reads⟩ := blocks_symbolWith table meaning
    fun usage => binds_of_mem_arranged exact member
  obtain ⟨inOrder, tokenless⟩ := pairwise_bindings exact leaves numbered member
  have follows : table.nonbinding.Pairwise branch.toTree.Follows := by
    rw [noted, List.pairwise_map]
    refine ordered.imp_of_mem fun {left right} among among' precedes => ?_
    obtain ⟨_, lies⟩ := inside left among
    obtain ⟨_, lies'⟩ := inside right among'
    exact lies.follows lies' exact.sound leaves numbered precedes
  refine ⟨?_, ?_, ?_, ?_, ?_⟩
  · rw [bindings, declarations, reads]
    exact usages_symbolWith_eq table meaning usages
  · rwa [bindings]
  · rwa [bindings]
  · rw [declarations, ← List.pairwise_map (f := Usage.node) (R := branch.toTree.Follows)]
    exact follows.sublist (sublist_referencesTo _ meaning fun _ => silent_declared)
  · rw [reads, ← List.pairwise_map (f := Usage.node) (R := branch.toTree.Follows)]
    exact follows.sublist (sublist_referencesTo _ meaning fun _ => silent_readMeaning)

end

end Resolution

/-- **Usages come in source order.** In a parsed tree every symbol lists its bindings, then the
declarations of its name, then the reads. The tokens of the bindings increase. So do those of the
declarations and of the reads, but for names in parts that a definition lists the other way round;
in a tree without such lists the tokens of every block increase. -/
theorem Tree.usagesOrdered {source : List Char} {parsed : ParsedSource}
    (read : parse source true = .ok parsed) :
    ∀ symbol ∈ parsed.symbols.symbols, parsed.tree.UsagesOrdered symbol ∧
      (parsed.tree.Straight → parsed.tree.InSourceOrder symbol.bindings ∧
        parsed.tree.InSourceOrder symbol.declarations ∧
          parsed.tree.InSourceOrder symbol.reads) := by
  obtain ⟨program, tokens, lexed, same, symbols⟩ := exists_program_of_parse read
  have found := symbols rfl
  rw [SymbolTable.ofTree, same, Option.map_eq_some_iff] at found
  obtain ⟨table, collected, resolved⟩ := found
  have sound := Branch.sound_ofProgram program (.ofTokens source tokens)
  have lexed' : Token.IsLexed (SourceText.ofTokens source tokens).tokens :=
    Token.isLexed_of_lex lexed
  obtain ⟨owners, exact⟩ := ScopeTable.exact_of_collect sound
    (show (Branch.ofProgram program _).whole.form = .file program.docstring from rfl) collected
  obtain ⟨names, noted, ordered, inside⟩ := ScopeTable.exists_nonbinding_of_collect sound
    (fun placed above lies => lies.pairwise_pointing lexed') collected
  have numbered : Token.Numbered (Branch.ofProgram program (.ofTokens source tokens)).tokens :=
    (Branch.tokens_ofProgram program _).symm ▸ lexed'.numbered
  rw [same, ← resolved]
  intro symbol listed
  have leaves := Branch.tokensAreLeaves_ofProgram program (.ofTokens source tokens)
  have usages := Resolution.usagesOrdered_of_mem_symbols exact leaves numbered noted ordered inside
    symbol listed
  exact ⟨usages, usages.inSourceOrder⟩

/-- A name that is declared twice, bound twice, and read in the arguments of a class. The class
binds it once more in its own scope. -/
def declaringSource : List Char :=
  "global M
global M
M = 1
class M(M, k=M): M = M
".toList

/-- The tokens of the name increase in each of the three blocks. -/
theorem Tree.usagesOrdered_declaringSource :
    ∃ parsed, parse declaringSource true = .ok parsed ∧ parsed.tree.Straight ∧
      ∃ symbol ∈ parsed.symbols.symbols,
        symbol.usages.map (parsed.tree.tokenIndex? ·.node) =
          [some 6, some 11, some 1, some 4, some 13, some 17] ∧
        parsed.tree.UsagesOrdered symbol ∧ parsed.tree.InSourceOrder symbol.bindings ∧
        parsed.tree.InSourceOrder symbol.declarations ∧
        parsed.tree.InSourceOrder symbol.reads := by
  obtain ⟨parsed, read, facts⟩ := Lists.exists_of_toOption_map
    (show (parse declaringSource true).toOption.map (fun parsed =>
        (decide parsed.tree.Straight, parsed.symbols.symbols.head?.map fun symbol =>
          symbol.usages.map (parsed.tree.tokenIndex? ·.node))) =
      some (true, some [some 6, some 11, some 1, some 4, some 13, some 17]) by decide +kernel)
  simp only [Prod.mk.injEq, decide_eq_true_eq] at facts
  obtain ⟨straight, places⟩ := facts
  obtain ⟨symbol, first, places⟩ := Option.map_eq_some_iff.mp places
  have listed := List.mem_of_head? first
  obtain ⟨ordered, blocks⟩ := Tree.usagesOrdered read symbol listed
  exact ⟨parsed, read, straight, symbol, listed, places, ordered, blocks straight⟩

end StructuralLint
