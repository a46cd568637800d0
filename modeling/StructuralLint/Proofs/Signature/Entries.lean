import StructuralLint.Proofs.Signature.Listing
import StructuralLint.Proofs.Symbol.Openings
import StructuralLint.Proofs.Tree.Roles

/-!
# The entries of a parameter list

The node of a function or a lambda has one entry for everything that its signature lists, as far as
it is found among the tokens, in order (`Program.Region.Stands.entries`). What an entry is, its
name, its type hint, its default and its star, is told by its attributes (`Tree.ShowsEntry`).
-/

namespace StructuralLint

open Program

namespace Program

/-- The signature of a region, and where it starts: behind the name that is found for a function, or
with the lambda. -/
def Region.signature? (text : SourceText) : Region → Option (Parameters Expr × Position)
  | .stmt (.function span _ name parameters _ _ _) =>
    some (parameters,
      match text.tokenAfter .name (text.span span).start name with
      | some token => token.stop
      | none => (text.span span).start)
  | .expr (.lambda span parameters _) => some (parameters, (text.span span).start)
  | _ => none

namespace Entry

/-- The name node of an entry. A parameter whose name meets no token has none. -/
def name? (text : SourceText) : Entry → Option Form
  | parameter _ own _ =>
    (text.tokenAt (text.span own.span).start).map fun _ => .name own.name true
  | marker _ => none

/-- The type hint of an entry. -/
def hint? : Entry → Option Expr
  | parameter _ own _ => own.hint
  | marker _ => none

/-- The default of an entry. -/
def default? : Entry → Option Expr
  | parameter _ _ default => default
  | marker _ => none

end Entry

end Program

/-- The token that is the star of an entry. -/
def Draft.star? : Draft → Option Token
  | leaf _ => none
  | node _ _ fields _ => fields.tokens.head?.map (·.2)

/-- A node shows an entry: it has its name, its type hint and its default, and this star. -/
structure Tree.ShowsEntry (tree : Tree) (text : SourceText) (entry : Entry) (star : Option Token)
    (node : NodeId) : Prop where
  form : tree.form? node = some .parameter
  name : (tree.attributes node .name).map tree.form? = ((entry.name? text).map some).toList
  hint : List.Forall₂ (fun expr child => tree.Keeps (.ofExpr text expr) child)
    entry.hint?.toList (tree.attributes node .hint)
  defaultValue : List.Forall₂ (fun expr child => tree.Keeps (.ofExpr text expr) child)
    entry.default?.toList (tree.attributes node .defaultValue)
  star : (tree.attributes node .star).map tree.token? = (star.map some).toList

namespace Draft

variable {text : SourceText} {start : Position} {entry : Entry} {draft : Draft}

theorem isNode_of_ofEntryFrom? (drafted : ofEntryFrom? text start entry = some draft) :
    draft.isNode = true := by
  cases entry with
  | parameter => cases drafted; rfl
  | marker sign =>
      obtain ⟨token, -, rfl⟩ := Option.map_eq_some_iff.mp drafted
      rfl

/-- What is drafted from entry to entry is the draft of an entry somewhere. -/
theorem exists_ofEntryFrom? {entries : List Entry}
    (member : (entry, draft) ∈ ofEntries text start entries) :
    ∃ start, ofEntryFrom? text start entry = some draft := by
  induction entries generalizing start with
  | nil => cases member
  | cons head rest ih =>
      rw [ofEntries] at member
      split at member
      · rename_i drafted
        rcases List.mem_cons.mp member with same | later
        · cases same
          exact ⟨start, drafted⟩
        · exact ih later
      · exact ih member

/-- What the draft of a parameter is made from. -/
theorem ofParameter_eq (starred : Bool) (parameter : Parameter Expr) (default : Option Expr) :
    ofParameter text starred (ofParameterOf text parameter) (ofExpr? text default) =
      let star := (starBefore? text starred parameter).toList
      let name := ((text.tokenAt (text.span parameter.span).start).map
        (ofName parameter.name true)).toList
      let hint := (parameter.hint.map (ofExpr text)).toList
      let default := (default.map (ofExpr text)).toList
      ofSpan .parameter (text.span parameter.span)
        (.of (star.map (Role.star, ·)) [(.name, name), (.hint, hint), (.defaultValue, default)])
        (plain (star.map leaf) ++ playing .name name ++ playing .hint hint
          ++ playing .defaultValue default) := by
  obtain ⟨span, name, hint⟩ := parameter
  rw [← ofExpr?_eq_map, ← ofExpr?_eq_map]
  rfl

/-- The star of a parameter is the one that is found before it. -/
theorem star?_ofParameter (starred : Bool) (parameter : Parameter Expr) (default : Option Expr) :
    (ofParameter text starred (ofParameterOf text parameter) (ofExpr? text default)).star? =
      starBefore? text starred parameter := by
  rw [ofParameter_eq, ofSpan, star?]
  cases starBefore? text starred parameter <;> rfl

theorem starBefore?_mem {starred : Bool} {parameter : Parameter Expr} {token : Token}
    (found : starBefore? text starred parameter = some token) : token ∈ text.tokens := by
  rw [starBefore?] at found
  split at found
  · obtain ⟨name, -, before⟩ := Option.bind_eq_some_iff.mp (Option.eq_some_of_filter_eq_some found)
    exact SourceText.mem_of_previous before
  · cases found

end Draft

/-! ### Nodes of entries -/

namespace Placed.Lies

open Draft

variable {program : Program} {text : SourceText} {placed : Placed} {above : List Placed}
  {start : Position} {entry : Entry} {draft : Draft}
  (lies : Lies (Branch.ofProgram program text).whole placed above)
  (numbered : Token.Numbered text.tokens)
include lies numbered

/-- The node of a parameter shows it. -/
theorem showsEntry_parameter {star : Option String} {parameter : Parameter Expr}
    {default : Option Expr}
    (completes : Branch.Completes (ofParameter text star.isSome (ofParameterOf text parameter)
      (ofExpr? text default)) placed.branch) :
    (Branch.ofProgram program text).toTree.ShowsEntry text (.parameter star parameter default)
      (starBefore? text star.isSome parameter) placed.id := by
  have sound := Branch.sound_ofProgram program text
  have leaves := Branch.tokensAreLeaves_ofProgram program text
  have form : placed.form = .parameter := form_of_completes completes
  have shaped := shaped_of_form (sound placed above lies) (by rw [form]; simp)
  rw [ofParameter_eq] at completes
  have fields := fields_of_completes completes
  have name := inRole_ofSpan passesDown_completes completes (some .name)
  have hint := inRole_ofSpan passesDown_completes completes (some .hint)
  have value := inRole_ofSpan passesDown_completes completes (some .defaultValue)
  have nodes (expr : Option Expr) : (expr.map (ofExpr text)).toList.filter isNode =
      expr.toList.map (ofExpr text) := by
    cases expr with
    | none => rfl
    | some expr => exact List.filter_cons_of_pos (calm_ofExpr text expr).isNode
  have named : ((text.tokenAt (text.span parameter.span).start).map
      (ofName parameter.name true)).toList.filter isNode =
        ((text.tokenAt (text.span parameter.span).start).map
          (ofName parameter.name true)).toList := by
    cases text.tokenAt (text.span parameter.span).start <;> rfl
  simp only [inRole_append, inRole_playing, inRole_plain, reduceCtorEq, Option.some.injEq,
    if_true, if_false, List.nil_append, List.append_nil, inRole_some, nodes, named]
    at name hint value
  constructor
  · rw [lies.form?_toTree, form]
  · rw [lies.map_form?_attributes sound rfl name, Entry.name?]
    cases text.tokenAt (text.span parameter.span).start <;> rfl
  · exact List.forall₂_map_left_iff.mp (lies.keeps_attributes sound leaves rfl hint)
  · exact List.forall₂_map_left_iff.mp (lies.keeps_attributes sound leaves rfl value)
  · rw [lies.map_token?_attributes shaped numbered rfl, fields]
    · cases starBefore? text star.isSome parameter <;> rfl
    · intro mark member
      rw [fields] at member
      obtain ⟨token, found, rfl⟩ := List.mem_map.mp member
      exact starBefore?_mem (Option.mem_toList.mp found)

/-- The node of a marker shows it. -/
theorem showsEntry_marker {sign : String} {token : Token} (present : token ∈ text.tokens)
    (completes : Branch.Completes (ofMarker token) placed.branch) :
    (Branch.ofProgram program text).toTree.ShowsEntry text (.marker sign) (some token)
      placed.id := by
  have sound := Branch.sound_ofProgram program text
  have form : placed.form = .parameter := form_of_completes completes
  have shaped := shaped_of_form (sound placed above lies) (by rw [form]; simp)
  have fields := fields_of_completes completes
  have none (role : Role) (other : role.isMark = false) :
      (Branch.ofProgram program text).toTree.attributes placed.id role = [] := by
    have given := inRole_ofParts passesDown_completes completes (some role)
    rw [lies.attributes_of_sound sound other, List.map_eq_nil_iff]
    exact List.forall₂_nil_left_iff.mp given
  constructor
  · rw [lies.form?_toTree, form]
  · rw [none .name rfl]
    rfl
  · rw [none .hint rfl]
    exact .nil
  · rw [none .defaultValue rfl]
    exact .nil
  · rw [lies.map_token?_attributes shaped numbered rfl, fields]
    · rfl
    · intro mark member
      rw [fields, List.mem_singleton] at member
      exact member ▸ present

/-- The node of an entry shows it. -/
theorem showsEntry (drafted : ofEntryFrom? text start entry = some draft)
    (completes : Branch.Completes draft placed.branch) :
    (Branch.ofProgram program text).toTree.ShowsEntry text entry draft.star? placed.id := by
  cases entry with
  | parameter star parameter default =>
      cases drafted
      rw [star?_ofParameter]
      exact lies.showsEntry_parameter numbered completes
  | marker sign =>
      obtain ⟨token, found, rfl⟩ := Option.map_eq_some_iff.mp drafted
      exact lies.showsEntry_marker numbered
        (SourceText.mem_of_mem_tokensFrom (SourceText.of_tokenAfter found).1) completes

end Placed.Lies

/-! ### Lists of entries -/

namespace Draft

variable {text : SourceText} {placed list : Placed} {parameters : Parameters Expr}
  {start : Position}

/-- The parameter list of a region is drafted from its signature. -/
theorem complete_parameters {region : Region}
    (completes : Branch.Completes (region.draft text) placed.branch)
    (signature : region.signature? text = some (parameters, start)) :
    Placed.Complete (ofSignature text (ofParametersOf text parameters) start).toList
      (placed.playing .parameters) := by
  have nodes (start : Position) :
      (ofSignature text (ofParametersOf text parameters) start).toList.filter isNode =
        (ofSignature text (ofParametersOf text parameters) start).toList := by
    rw [ofSignature]
    split <;> rfl
  unfold Region.signature? at signature
  split at signature
  · cases signature
    rw [Region.draft, ofStmt, ofFunction] at completes
    have given := Placed.inRole_ofSpan Placed.passesDown_completes completes (some .parameters)
    simp only [inRole_append, inRole_playing, inRole_plain, reduceCtorEq, if_true, if_false,
      Option.some.injEq, List.nil_append, List.append_nil] at given
    rw [nodes] at given
    exact given
  · cases signature
    rw [Region.draft, ofExpr] at completes
    have given := Placed.inRole_ofSpan Placed.passesDown_completes completes (some .parameters)
    simp only [inRole_append, inRole_playing, reduceCtorEq, if_true, if_false, Option.some.injEq,
      List.append_nil] at given
    rw [nodes] at given
    exact given
  · cases signature

/-- A signature that lists nothing has no list. -/
theorem ofSignature_eq_none :
    ofSignature text (ofParametersOf text parameters) start = none ↔
      ofEntries text start parameters.listing = [] := by
  rw [ofSignature, signatureEntries_ofParametersOf]
  cases ofEntries text start parameters.listing with
  | nil => simp [playing]
  | cons first rest => simp [playing]

/-- A list of parameters has what the signature lists. -/
theorem complete_entries {draft : Draft}
    (drafted : ofSignature text (ofParametersOf text parameters) start = some draft)
    (completes : Branch.Completes draft list.branch) :
    List.Forall₂ (fun drafted part => Branch.Completes drafted.2 part.branch)
      (ofEntries text start parameters.listing) (list.playing .entry) := by
  have nodes : ((ofEntries text start parameters.listing).map (·.2)).filter isNode =
      (ofEntries text start parameters.listing).map (·.2) := by
    refine List.filter_eq_self.mpr fun draft member => ?_
    obtain ⟨⟨entry, draft⟩, among, rfl⟩ := List.mem_map.mp member
    obtain ⟨start, made⟩ := exists_ofEntryFrom? among
    exact isNode_of_ofEntryFrom? made
  rw [ofSignature, signatureEntries_ofParametersOf] at drafted
  split at drafted
  · cases drafted
  · rename_i first rest listed
    cases drafted
    have given := Placed.inRole_ofParts Placed.passesDown_completes completes (some .entry)
    rw [← listed, inRole_playing, if_pos rfl, nodes] at given
    exact List.forall₂_map_left_iff.mp given

end Draft

namespace Program.Region.Stands

variable {program : Program} {text : SourceText} {region : Region} {scope : NodeId}
  {parameters : Parameters Expr} {start : Position}

/-- **Entries as listed.** The entries of a parameter list show what the signature lists, as far as
it is found, in order. -/
theorem entries (stands : region.Stands text (Branch.ofProgram program text) scope)
    (numbered : Token.Numbered text.tokens)
    (signature : region.signature? text = some (parameters, start)) :
    let tree := (Branch.ofProgram program text).toTree
    List.Forall₂ (fun drafted node => tree.ShowsEntry text drafted.1 drafted.2.star? node)
      (Draft.ofEntries text start parameters.listing) (tree.parameterEntries scope) := by
  intro tree
  have sound := Branch.sound_ofProgram program text
  obtain ⟨placed, above, lies, rfl, completes⟩ := stands.completed
  have lists := Draft.complete_parameters completes signature
  have same : tree.attributes placed.id .parameters = (placed.playing .parameters).map (·.id) :=
    lies.attributes_of_sound sound rfl
  rw [Tree.parameterEntries, Tree.attribute?, same]
  cases drafted : Draft.ofSignature text (Draft.ofParametersOf text parameters) start with
  | none =>
      rw [drafted] at lists
      rw [List.forall₂_nil_left_iff.mp lists, Draft.ofSignature_eq_none.mp drafted]
      exact .nil
  | some draft =>
      rw [drafted] at lists
      obtain ⟨list, others, completes', -, plays⟩ := List.forall₂_cons_left_iff.mp lists
      have member : list ∈ placed.playing .parameters := plays ▸ List.mem_cons_self
      have lies' := lies.child_playing member
      have entries := Draft.complete_entries drafted completes'
      rw [plays, List.map_cons, List.head?_cons]
      dsimp only
      rw [lies'.attributes_of_sound sound rfl, List.forall₂_map_right_iff]
      refine Lists.imp_of_mem entries fun drafted listed entry among completes'' => ?_
      obtain ⟨start, made⟩ := Draft.exists_ofEntryFrom? listed
      exact (lies'.child_playing among).showsEntry numbered made completes''

/-- Where nothing is listed there is no parameter list. -/
theorem attribute?_parameters_eq_none
    (stands : region.Stands text (Branch.ofProgram program text) scope)
    (signature : region.signature? text = some (parameters, start))
    (bare : Draft.ofEntries text start parameters.listing = []) :
    (Branch.ofProgram program text).toTree.attribute? scope .parameters = none := by
  obtain ⟨placed, above, lies, rfl, completes⟩ := stands.completed
  have lists := Draft.complete_parameters completes signature
  rw [Draft.ofSignature_eq_none.mpr bare] at lists
  rw [Tree.attribute?, lies.attributes_of_sound (Branch.sound_ofProgram program text) rfl,
    List.forall₂_nil_left_iff.mp lists]
  rfl

end Program.Region.Stands

end StructuralLint
