import StructuralLint.Proofs.Symbol.Parameters
import StructuralLint.Proofs.Tree.SourceOrder

/-!
# The order of a collection

The walk that collects scopes takes note of the names that bind nothing when it comes to them, so
that their order is that of the visits. From a node it goes on to its children, or, where these
belong to different scopes, to the parts that the node lists (`Placed.following`). Two names are
noted in the order in which they stand in the tree, unless they stand in parts that a node lists the
other way round (`Placed.Crossed`, `ScopeTable.exists_nonbinding_of_collect`).
-/

namespace StructuralLint

/-- The parts that a walk follows as the node lists them, in the order of the grammar. -/
def Form.partOrder : Form → List Role
  | .function _ => [.decorator, .parameters, .returnHint, .body]
  | .classDef => [.decorator, .argument, .body]
  | .lambda => [.parameters, .expression]
  | .exceptClause _ => [.exception, .body]
  | .parameterList => [.entry]
  | .parameter => [.hint, .defaultValue]
  | _ => []

/-! ### Names that bind nothing -/

/-- Whether a mention gives the name a meaning. -/
def Act.binds : Act → Bool
  | .bind _ => true
  | _ => false

namespace ScopeTable

variable {tree : Tree} {table : ScopeTable} {scope inner outer : ScopeId} {node : NodeId}

/-- The names that bind nothing, in the order in which they were noted. -/
def nonbinding (table : ScopeTable) : List NodeId :=
  (table.mentions.toList.filter fun mention => !mention.act.binds).map (·.node)

@[simp]
theorem nonbinding_initial : initial.nonbinding = [] := rfl

@[simp]
theorem nonbinding_openScope (isClass : Bool) :
    (table.openScope scope isClass).1.nonbinding = table.nonbinding := rfl

@[simp]
theorem nonbinding_mention_bind (kind : UsageKind) :
    (table.mention tree scope node (.bind kind)).nonbinding = table.nonbinding := by
  rw [mention]
  split
  · simp [nonbinding, Act.binds]
  · rfl

theorem nonbinding_mention {act : Act} (acts : act.binds = false) {name : String}
    (spelled : tree.nameText? node = some name) :
    (table.mention tree scope node act).nonbinding = table.nonbinding ++ [node] := by
  rw [mention, spelled]
  simp [nonbinding, acts]

theorem nonbinding_foldl_mention {act : Act} (acts : act.binds = false) {nodes : List NodeId}
    (names : ∀ node ∈ nodes, (tree.nameText? node).isSome = true) :
    (nodes.foldl (fun table node => table.mention tree scope node act) table).nonbinding =
      table.nonbinding ++ nodes := by
  induction nodes generalizing table with
  | nil => simp
  | cons node rest ih =>
      obtain ⟨name, spelled⟩ := Option.isSome_iff_exists.mp (names node List.mem_cons_self)
      rw [List.foldl_cons, ih fun other member => names other (List.mem_cons_of_mem _ member),
        nonbinding_mention acts spelled, List.append_assoc]
      rfl

/-- What a fold notes and what it leaves, if a step notes nothing and leaves more with each item. -/
theorem foldl_noting {step : ScopeTable × List (NodeId × ScopeId) → NodeId →
      ScopeTable × List (NodeId × ScopeId)} {more : NodeId → List NodeId}
    (silent : ∀ known item, (step known item).1.nonbinding = known.1.nonbinding)
    (leaves : ∀ known item, (step known item).2.map (·.1) = known.2.map (·.1) ++ more item)
    (items : List NodeId) (known : ScopeTable × List (NodeId × ScopeId)) :
    (items.foldl step known).1.nonbinding = known.1.nonbinding ∧
      (items.foldl step known).2.map (·.1) = known.2.map (·.1) ++ items.flatMap more := by
  induction items generalizing known with
  | nil => simp
  | cons item rest ih =>
      obtain ⟨noted, left⟩ := ih (step known item)
      rw [List.foldl_cons, noted, left, silent, leaves, List.flatMap_cons, List.append_assoc]
      exact ⟨rfl, rfl⟩

/-- Parameters are no names that bind nothing. Their type hints and defaults are left. -/
theorem bindParameters_spec (table : ScopeTable) (tree : Tree) (function : NodeId)
    (inner outer : ScopeId) :
    (table.bindParameters tree function inner outer).1.nonbinding = table.nonbinding ∧
      (table.bindParameters tree function inner outer).2.map (·.1) =
        (parametersOf tree function).flatMap fun parameter =>
          tree.attributes parameter .hint ++ tree.attributes parameter .defaultValue := by
  refine foldl_noting (fun known parameter => ?_) (fun known parameter => ?_)
    (parametersOf tree function) (table, [])
  · dsimp only
    split <;> simp
  · simp [Function.comp_def]

end ScopeTable

/-! ### What a visit goes on to -/

namespace Placed

/-- The nodes that the walk goes on to from a node. -/
def following (placed : Placed) : List Placed :=
  match placed.form with
  | .token _ | .name _ _ | .scopeDeclaration _ => []
  | .function _ => placed.playing .decorator ++ (placed.entries.flatMap details ++
      (placed.playing .returnHint ++ placed.playing .body))
  | .classDef => placed.playing .decorator ++ (placed.playing .argument ++ placed.playing .body)
  | .lambda => placed.entries.flatMap details ++ placed.playing .expression
  | .exceptClause _ => placed.playing .exception ++ placed.playing .body
  | _ => placed.children.map (·.2)

/-- The names that the walk takes note of at a node and that bind nothing. -/
def pointing (placed : Placed) : List Placed :=
  match placed.form with
  | .name _ false => [placed]
  | .scopeDeclaration _ => placed.playing .declared
  | _ => []

variable {branch : Branch} {placed : Placed} {above : List Placed} {table table' : ScopeTable}
  {scope : ScopeId} {pending : List (NodeId × ScopeId)}

/-- The type hints and defaults of the parameters of a node. -/
theorem Lies.attributes_details (lies : Lies branch.whole placed above) (sound : branch.Sound)
    (shaped : placed.Shaped) :
    ((ScopeTable.parametersOf branch.toTree placed.id).flatMap fun parameter =>
      branch.toTree.attributes parameter .hint ++
        branch.toTree.attributes parameter .defaultValue) =
      (placed.entries.flatMap details).map (·.id) := by
  rw [ScopeTable.parametersOf_toTree lies sound shaped, List.flatMap_map, List.map_flatMap]
  apply List.flatMap_congr
  intro entry member
  obtain ⟨-, -, _, -, -, lower⟩ := mem_entries lies sound shaped member
  rw [lower.attributes_of_sound sound rfl, lower.attributes_of_sound sound rfl, details,
    List.map_append]

/-- The parameters of a node are noted as no names that bind nothing, and their details are left. -/
theorem Lies.bindParameters_spec (lies : Lies branch.whole placed above) (sound : branch.Sound)
    (shaped : placed.Shaped) (table : ScopeTable) (inner outer : ScopeId) :
    (table.bindParameters branch.toTree placed.id inner outer).1.nonbinding = table.nonbinding ∧
      (table.bindParameters branch.toTree placed.id inner outer).2.map (·.1) =
        (placed.entries.flatMap details).map (·.id) := by
  rw [← lies.attributes_details sound shaped]
  exact ScopeTable.bindParameters_spec table branch.toTree placed.id inner outer

/-- Whatever a scope declaration lists is the name of something. -/
theorem Lies.nonbinding_declared (lies : Lies branch.whole placed above) (shaped : placed.Shaped)
    {isGlobal : Bool} (form : placed.form = .scopeDeclaration isGlobal) {act : Act}
    (acts : act.binds = false) :
    (((placed.playing .declared).map (·.id)).foldl
        (fun table name => table.mention branch.toTree scope name act) table).nonbinding =
      table.nonbinding ++ (placed.playing .declared).map (·.id) := by
  refine ScopeTable.nonbinding_foldl_mention acts (List.forall_mem_map.mpr fun name member => ?_)
  obtain ⟨text, spelled⟩ := Form.reads_of_admits form (shaped.admits_playing member).2
  rw [Tree.nameText?, (lies.child_playing member).form?_toTree, spelled]
  rfl

/-- **What the walk does at one node, in order.** -/
theorem Lies.enter_spec (lies : Lies branch.whole placed above) (sound : branch.Sound)
    (result : table.enter branch.toTree placed.id scope = some (table', pending)) :
    pending.map (·.1) = placed.following.map (·.id) ∧
      table'.nonbinding = table.nonbinding ++ placed.pointing.map (·.id) := by
  have plays (role : Role) (other : role.isMark = false) :
      branch.toTree.attributes placed.id role = (placed.playing role).map (·.id) :=
    lies.attributes_of_sound sound other
  have known := lies.form?_toTree
  cases form : placed.form with
  | token token =>
      rw [ScopeTable.enter, known, form] at result
      cases result
      simp [following, pointing, form]
  | function isAsync =>
      have shaped := shaped_of_form (sound _ _ lies) (by simp [form])
      rw [ScopeTable.enter, known, form] at result
      obtain ⟨name, -, result⟩ := Option.bind_eq_some_iff.mp result
      let opened :=
        (table.mention branch.toTree scope name (.bind .functionDeclaration)).openScope scope false
      obtain ⟨noted, left⟩ := lies.bindParameters_spec sound shaped opened.1 opened.2 scope
      rw [ScopeTable.nonbinding_openScope, ScopeTable.nonbinding_mention_bind] at noted
      simp only [opened, ScopeTable.openScope, Option.pure_def] at result noted left
      generalize ScopeTable.bindParameters _ _ _ _ _ = bound at result noted left
      simp only [Option.some.injEq, Prod.mk.injEq] at result
      obtain ⟨rfl, rfl⟩ := result
      constructor
      · simp [following, form, plays .decorator rfl, plays .returnHint rfl, plays .body rfl,
          Function.comp_def, left]
      · simpa [pointing, form] using noted
  | classDef =>
      rw [ScopeTable.enter, known, form] at result
      obtain ⟨name, -, result⟩ := Option.bind_eq_some_iff.mp result
      simp only [ScopeTable.openScope, Option.pure_def, Option.some.injEq, Prod.mk.injEq] at result
      obtain ⟨rfl, rfl⟩ := result
      constructor
      · simp [following, form, plays .decorator rfl, plays .argument rfl, plays .body rfl,
          Function.comp_def]
      · simp only [pointing, form, List.map_nil, List.append_nil]
        exact ScopeTable.nonbinding_mention_bind .classDeclaration
  | lambda =>
      have shaped := shaped_of_form (sound _ _ lies) (by simp [form])
      rw [ScopeTable.enter, known, form] at result
      let opened := table.openScope scope false
      obtain ⟨noted, left⟩ := lies.bindParameters_spec sound shaped opened.1 opened.2 scope
      rw [ScopeTable.nonbinding_openScope] at noted
      simp only [opened, ScopeTable.openScope] at result noted left
      generalize ScopeTable.bindParameters _ _ _ _ _ = bound at result noted left
      simp only [Option.some.injEq, Prod.mk.injEq] at result
      obtain ⟨rfl, rfl⟩ := result
      constructor
      · simp [following, form, plays .expression rfl, Function.comp_def, left]
      · simpa [pointing, form] using noted
  | scopeDeclaration isGlobal =>
      have shaped := shaped_of_form (sound _ _ lies) (by simp [form])
      rw [ScopeTable.enter, known, form] at result
      cases result
      refine ⟨by simp [following, form], ?_⟩
      rw [plays .declared rfl, lies.nonbinding_declared shaped form (by cases isGlobal <;> rfl)]
      simp [pointing, form]
  | exceptClause isStar =>
      rw [ScopeTable.enter, known, form] at result
      cases result
      constructor
      · simp [following, form, plays .exception rfl, plays .body rfl, Function.comp_def]
      · simp only [pointing, form]
        split <;> simp
  | name text binds =>
      rw [ScopeTable.enter, known, form] at result
      cases result
      refine ⟨by simp [following, form], ?_⟩
      cases binds with
      | false =>
          rw [form] at known
          simp only [pointing, form]
          exact ScopeTable.nonbinding_mention rfl (by rw [Tree.nameText?, known])
      | true =>
          simp only [pointing, form, Bool.not_true, Bool.false_eq_true, if_false]
          split <;> simp
  | _ =>
      rw [ScopeTable.enter, known, form] at result
      simp only at result
      split at result <;>
      · cases result
        simp [following, pointing, form, lies.children_toTree, Function.comp_def]

/-! ### The order of the visits -/

theorem mem_preorder_trans {outer middle inner : Placed} (lower : inner ∈ middle.preorder)
    (upper : middle ∈ outer.preorder) : inner ∈ outer.preorder := by
  obtain ⟨_, lies⟩ := mem_preorder_iff.mp lower
  obtain ⟨_, lies'⟩ := mem_preorder_iff.mp upper
  exact mem_preorder_iff.mpr ⟨_, lies.trans lies'⟩

theorem mem_preorder_playing {part : Placed} {role : Role} (plays : part ∈ placed.playing role) :
    part ∈ placed.preorder := by
  obtain ⟨slot, -, child⟩ := mem_playing_iff.mp plays
  exact mem_preorder_iff.mpr ⟨_, .child .root child⟩

/-- Some node lists a part around `left` before a part around `right` that stands further left. -/
def Crossed (branch : Branch) (left right : Placed) : Prop :=
  ∃ outer above part other, Lies branch.whole outer above ∧
    [part, other].Sublist (outer.form.partOrder.flatMap outer.playing) ∧ other.Apart part ∧
    left ∈ part.preorder ∧ right ∈ other.preorder

/-- `left` stands to the left of `right` unless parts around them are crossed. -/
def Precedes (branch : Branch) (left right : Placed) : Prop :=
  left.Apart right ∨ Crossed branch left right

theorem Precedes.below {left right inner inner' : Placed} (precedes : Precedes branch left right)
    (lower : inner ∈ left.preorder) (lower' : inner' ∈ right.preorder) :
    Precedes branch inner inner' := by
  rcases precedes with apart | ⟨outer, above, part, other, lies, listed, apart, below, below'⟩
  · obtain ⟨_, lies⟩ := mem_preorder_iff.mp lower
    obtain ⟨_, lies'⟩ := mem_preorder_iff.mp lower'
    exact .inl (apart.within lies.within lies'.within)
  · exact .inr ⟨outer, above, part, other, lies, listed, apart, mem_preorder_trans lower below,
      mem_preorder_trans lower' below'⟩

/-- Parts may be replaced by what lies in them. -/
theorem pairwise_precedes_flatMap (before after : List Placed) {middle : List Placed}
    {f : Placed → List Placed}
    (ordered : (before ++ (middle ++ after)).Pairwise (Precedes branch))
    (inside : ∀ part ∈ middle, ∀ inner ∈ f part, inner ∈ part.preorder)
    (each : ∀ part ∈ middle, (f part).Pairwise (Precedes branch)) :
    (before ++ (middle.flatMap f ++ after)).Pairwise (Precedes branch) := by
  obtain ⟨first, rest, cross⟩ := List.pairwise_append.mp ordered
  obtain ⟨second, third, cross'⟩ := List.pairwise_append.mp rest
  refine List.pairwise_append.mpr ⟨first, List.pairwise_append.mpr ⟨?_, third, ?_⟩, ?_⟩
  · refine List.pairwise_flatMap.mpr ⟨each, second.imp_of_mem ?_⟩
    intro left right among among' precedes inner member inner' member'
    exact precedes.below (inside left among inner member) (inside right among' inner' member')
  · intro inner member later member'
    obtain ⟨part, among, member⟩ := List.mem_flatMap.mp member
    exact (cross' part among later member').below (inside part among inner member)
      later.mem_preorder_self
  · intro earlier member inner member'
    rcases List.mem_append.mp member' with member' | member'
    · obtain ⟨part, among, member'⟩ := List.mem_flatMap.mp member'
      exact (cross earlier member part (List.mem_append_left _ among)).below
        earlier.mem_preorder_self (inside part among inner member')
    · exact cross earlier member inner (List.mem_append_right _ member')

/-- A child stands in one place only. -/
theorem slot_eq_of_children {slot slot' : Option Slot} {child : Placed}
    (member : (slot, child) ∈ placed.children) (member' : (slot', child) ∈ placed.children) :
    slot = slot' :=
  congrArg (·.1) (List.inj_on_of_nodup_map placed.children_ids_nodup member member' rfl)

theorem nodup_playing (placed : Placed) (role : Role) : (placed.playing role).Nodup := by
  rw [(placed.playing_perm_standing role).nodup_iff]
  exact (placed.pairwise_standing role).imp fun apart same =>
    absurd (same ▸ apart.id_lt) (Nat.lt_irrefl _)

/-- No part is listed twice. -/
theorem nodup_partOrder (placed : Placed) :
    (placed.form.partOrder.flatMap placed.playing).Nodup := by
  have roles : placed.form.partOrder.Nodup := by cases placed.form <;> simp [Form.partOrder]
  refine List.nodup_flatMap.mpr ⟨fun role _ => placed.nodup_playing role, roles.imp ?_⟩
  intro role role' other part plays plays'
  obtain ⟨slot, own, member⟩ := mem_playing_iff.mp plays
  obtain ⟨slot', own', member'⟩ := mem_playing_iff.mp plays'
  obtain rfl := Option.some.inj (slot_eq_of_children member member')
  exact other (Option.some.inj (own.symm.trans own'))

/-- The parts that a node lists are in order but where they are crossed. -/
theorem Lies.pairwise_playing (lies : Lies branch.whole placed above) :
    (placed.form.partOrder.flatMap placed.playing).Pairwise (Precedes branch) := by
  rw [List.pairwise_iff_forall_sublist]
  intro left right listed
  have different : left ≠ right := by
    have nodup := placed.nodup_partOrder.sublist listed
    simpa using nodup
  have children : ∀ part ∈ [left, right], ∃ slot, (slot, part) ∈ placed.children := by
    intro part member
    obtain ⟨role, -, plays⟩ := List.mem_flatMap.mp (listed.subset member)
    obtain ⟨slot, -, child⟩ := mem_playing_iff.mp plays
    exact ⟨_, child⟩
  obtain ⟨slot, child⟩ := children left (by simp)
  obtain ⟨slot', child'⟩ := children right (by simp)
  rcases Nat.lt_trichotomy left.id right.id with smaller | same | larger
  · exact .inl (apart_of_children child child' smaller)
  · exact absurd (Lies.eq_of_id (.child lies child) (.child lies child') same) different
  · exact .inr ⟨placed, above, left, right, lies, listed, apart_of_children child' child larger,
      left.mem_preorder_self, right.mem_preorder_self⟩

/-- What a parameter list says about types and defaults lies in the list, and is in order. -/
theorem Lies.pairwise_details {list : Placed} (lies : Lies branch.whole placed above)
    (sound : branch.Sound) (shaped : placed.Shaped) (lists : list ∈ placed.playing .parameters) :
    (∀ inner ∈ (list.playing .entry).flatMap details, inner ∈ list.preorder) ∧
      ((list.playing .entry).flatMap details).Pairwise (Precedes branch) := by
  have lower := lies.child_playing lists
  have entries := lower.pairwise_playing
  rw [shaped.form_parameters lists, Form.partOrder, List.flatMap_singleton] at entries
  have inside : ∀ entry ∈ list.playing .entry, ∀ inner ∈ details entry,
      inner ∈ entry.preorder := by
    intro entry _ inner member
    rcases List.mem_append.mp member with hint | default
    · exact mem_preorder_playing hint
    · exact mem_preorder_playing default
  constructor
  · intro inner member
    obtain ⟨entry, among, detail⟩ := List.mem_flatMap.mp member
    exact mem_preorder_trans (inside entry among inner detail) (mem_preorder_playing among)
  · have flat := pairwise_precedes_flatMap [] [] (by simpa using entries)
      inside fun entry among => by
        have member : entry ∈ placed.entries := List.mem_flatMap.mpr ⟨list, lists, among⟩
        obtain ⟨form, -, _, -, -, lies'⟩ := mem_entries lies sound shaped member
        have own := lies'.pairwise_playing
        rw [form] at own
        simpa [Form.partOrder, Placed.details] using own
    simpa using flat

/-- The walk goes on from left to right but where parts are crossed. -/
theorem Lies.pairwise_following (lies : Lies branch.whole placed above) (sound : branch.Sound) :
    placed.following.Pairwise (Precedes branch) := by
  have parts := lies.pairwise_playing
  have entries : placed.entries.flatMap details =
      (placed.playing .parameters).flatMap fun list => (list.playing .entry).flatMap details := by
    rw [Placed.entries, List.flatMap_assoc]
  cases form : placed.form with
  | token | name | scopeDeclaration =>
      rw [following, form]
      exact .nil
  | function isAsync =>
      have shaped := shaped_of_form (sound _ _ lies) (by simp [form])
      rw [form, Form.partOrder] at parts
      simp only [following, form, entries]
      exact pairwise_precedes_flatMap _ _ (by simpa using parts)
        (fun list lists => (lies.pairwise_details sound shaped lists).1)
        fun list lists => (lies.pairwise_details sound shaped lists).2
  | lambda =>
      have shaped := shaped_of_form (sound _ _ lies) (by simp [form])
      rw [form, Form.partOrder] at parts
      simp only [following, form, entries]
      exact pairwise_precedes_flatMap [] _ (by simpa using parts)
        (fun list lists => (lies.pairwise_details sound shaped lists).1)
        fun list lists => (lies.pairwise_details sound shaped lists).2
  | classDef | exceptClause =>
      rw [form, Form.partOrder] at parts
      simpa [following, form] using parts
  | _ =>
      simp only [following, form, List.pairwise_map]
      exact placed.pairwise_children.imp .inl

/-- What the walk goes on to lies below the node. -/
theorem mem_preorder_following (placed : Placed) :
    ∀ part ∈ placed.following, part ∈ placed.preorder := by
  have inRole (role : Role) : ∀ part ∈ placed.playing role, part ∈ placed.preorder :=
    fun part plays => mem_preorder_playing plays
  have inDetails : ∀ part ∈ placed.entries.flatMap details, part ∈ placed.preorder := by
    intro part member
    obtain ⟨entry, among, detail⟩ := List.mem_flatMap.mp member
    obtain ⟨list, lists, entries⟩ := List.mem_flatMap.mp among
    have lower : entry ∈ placed.preorder :=
      mem_preorder_trans (mem_preorder_playing entries) (mem_preorder_playing lists)
    rcases List.mem_append.mp detail with hint | default
    · exact mem_preorder_trans (mem_preorder_playing hint) lower
    · exact mem_preorder_trans (mem_preorder_playing default) lower
  cases form : placed.form with
  | token | name | scopeDeclaration => simp [following, form]
  | function =>
      simp only [following, form, List.forall_mem_append]
      exact ⟨inRole _, inDetails, inRole _, inRole _⟩
  | classDef =>
      simp only [following, form, List.forall_mem_append]
      exact ⟨inRole _, inRole _, inRole _⟩
  | lambda =>
      simp only [following, form, List.forall_mem_append]
      exact ⟨inDetails, inRole _⟩
  | exceptClause =>
      simp only [following, form, List.forall_mem_append]
      exact ⟨inRole _, inRole _⟩
  | _ =>
      simp only [following, form]
      exact List.forall_mem_map.mpr fun child member =>
        mem_preorder_iff.mpr ⟨_, .child .root member⟩

theorem mem_preorder_pointing (placed : Placed) :
    ∀ name ∈ placed.pointing, name ∈ placed.preorder := by
  intro name member
  rw [pointing] at member
  split at member
  · rw [List.mem_singleton.mp member]
    exact placed.mem_preorder_self
  · exact mem_preorder_playing member
  · cases member

/-- Where names are noted the walk does not go on. -/
theorem following_of_pointing (placed : Placed) :
    placed.pointing = [] ∨ placed.following = [] := by
  rw [pointing, following]
  cases placed.form with
  | name _ binds => exact .inr rfl
  | scopeDeclaration => exact .inr rfl
  | _ => exact .inl rfl

end Placed

/-! ### The whole walk -/

namespace ScopeTable

variable {branch : Branch} {placed : Placed} {above : List Placed} {table table' : ScopeTable}
  {scope : ScopeId}

/-- `Notes branch parts table table'`: from the first table to the second one names that bind
nothing were noted below the parts, in order. -/
def Notes (branch : Branch) (parts : List Placed) (table table' : ScopeTable) : Prop :=
  ∃ names : List Placed, table'.nonbinding = table.nonbinding ++ names.map (·.id) ∧
    names.Pairwise (Placed.Precedes branch) ∧ ∀ name ∈ names, ∃ part ∈ parts, name ∈ part.preorder

/-- Notes are in order if those of each part are, and the parts are in order themselves. -/
theorem notes_of_foldlM {visit : ScopeTable → NodeId × ScopeId → Option ScopeTable}
    {parts : List Placed} {pending : List (NodeId × ScopeId)}
    (same : pending.map (·.1) = parts.map (·.id))
    (ordered : parts.Pairwise (Placed.Precedes branch))
    (each : ∀ part ∈ parts, ∀ scope table table', visit table (part.id, scope) = some table' →
      Notes branch [part] table table')
    (result : pending.foldlM visit table = some table') : Notes branch parts table table' := by
  induction parts generalizing pending table with
  | nil =>
      rw [List.map_nil, List.map_eq_nil_iff] at same
      rw [same] at result
      cases result
      exact ⟨[], by simp, .nil, by simp⟩
  | cons part rest ih =>
      obtain ⟨⟨node, scope⟩, others, rfl, rfl, same'⟩ := List.map_eq_cons_iff.mp same
      obtain ⟨before, ordered⟩ := List.pairwise_cons.mp ordered
      rw [List.foldlM_cons, Option.bind_eq_bind, Option.bind_eq_some_iff] at result
      obtain ⟨between, first, later⟩ := result
      obtain ⟨names, noted, apart, below⟩ := each part List.mem_cons_self scope table between first
      obtain ⟨names', noted', apart', below'⟩ :=
        ih same' ordered (fun other member => each other (List.mem_cons_of_mem _ member)) later
      refine ⟨names ++ names', ?_, List.pairwise_append.mpr ⟨apart, apart', ?_⟩, ?_⟩
      · rw [noted', noted, List.map_append, List.append_assoc]
      · intro name member name' member'
        obtain ⟨own, among, lower⟩ := below name member
        obtain ⟨other, among', lower'⟩ := below' name' member'
        rw [List.mem_singleton.mp among] at lower
        exact (before other among').below lower lower'
      · rw [List.forall_mem_append]
        refine ⟨fun name member => ?_, fun name member => ?_⟩
        · obtain ⟨own, among, lower⟩ := below name member
          exact ⟨own, List.mem_cons.mpr (.inl (List.mem_singleton.mp among)), lower⟩
        · obtain ⟨other, among, lower⟩ := below' name member
          exact ⟨other, List.mem_cons_of_mem _ among, lower⟩

/-- **A collection takes its notes in order.** -/
theorem notes_of_collectTo (sound : branch.Sound)
    (pointing : ∀ placed above, Placed.Lies branch.whole placed above →
      placed.pointing.Pairwise Placed.Apart)
    {depth : Nat} (lies : Placed.Lies branch.whole placed above)
    (result : collectTo branch.toTree depth table (placed.id, scope) = some table') :
    Notes branch [placed] table table' := by
  induction depth generalizing placed above scope table table' with
  | zero =>
      cases result
      exact ⟨[], by simp, .nil, by simp⟩
  | succ depth ih =>
      rw [collectTo, Option.bind_eq_bind, Option.bind_eq_some_iff] at result
      obtain ⟨⟨between, pending⟩, entering, later⟩ := result
      obtain ⟨same, noted⟩ := lies.enter_spec sound entering
      obtain ⟨names, noted', ordered, below⟩ := notes_of_foldlM same (lies.pairwise_following sound)
        (fun part member scope table table' visited => by
          obtain ⟨_, lower⟩ :=
            Placed.mem_preorder_iff.mp (placed.mem_preorder_following part member)
          exact ih (lower.trans lies) visited) later
      have lower : ∀ name ∈ names, name ∈ placed.preorder := by
        intro name member
        obtain ⟨part, among, inner⟩ := below name member
        exact Placed.mem_preorder_trans inner (placed.mem_preorder_following part among)
      refine ⟨placed.pointing ++ names, by rw [noted', noted, List.map_append, List.append_assoc],
        List.pairwise_append.mpr ⟨(pointing placed above lies).imp .inl, ordered, ?_⟩, ?_⟩
      · intro name member name' member'
        rcases placed.following_of_pointing with none | none
        · rw [none] at member
          cases member
        · obtain ⟨part, among, -⟩ := below name' member'
          rw [none] at among
          cases among
      · intro name member
        exact ⟨placed, List.mem_singleton_self _, (List.mem_append.mp member).elim
          (placed.mem_preorder_pointing name) (lower name)⟩

/-- The names that bind nothing are collected in order. -/
theorem exists_nonbinding_of_collect (sound : branch.Sound)
    (pointing : ∀ placed above, Placed.Lies branch.whole placed above →
      placed.pointing.Pairwise Placed.Apart)
    (collected : collect branch.toTree branch.toTree.root = some table) :
    ∃ names : List Placed, table.nonbinding = names.map (·.id) ∧
      names.Pairwise (Placed.Precedes branch) ∧
        ∀ name ∈ names, ∃ above, Placed.Lies branch.whole name above := by
  rw [collect, Branch.root_toTree] at collected
  obtain ⟨names, noted, ordered, below⟩ := notes_of_collectTo sound pointing .root collected
  rw [nonbinding_initial, List.nil_append] at noted
  refine ⟨names, noted, ordered, fun name member => ?_⟩
  obtain ⟨part, among, lower⟩ := below name member
  rw [List.mem_singleton.mp among] at lower
  exact Placed.mem_preorder_iff.mp lower

end ScopeTable

end StructuralLint
