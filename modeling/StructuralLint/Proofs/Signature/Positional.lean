import Mathlib.Data.List.TakeWhile
import StructuralLint.Proofs.Signature.Reading

/-!
# What is passed by position

The parameters of a function up to the marker `*` count as passed by position. Where there is such a
marker, these are the parameters that can be passed by position. Where there is none, because the
signature has a parameter for the remaining positional arguments or because nothing but a parameter
for the remaining keyword arguments follows, the parameters that are passed by keyword only count as
well (`Tree.positional`).
-/

namespace StructuralLint

open Program

namespace Program.Parameters

variable (parameters : Parameters Expr)

/-- The parameters that can be passed by position, with their defaults. -/
def byPosition : List (Parameter Expr × Option Expr) :=
  parameters.positionalOnly.zip
      (parameters.positionalDefaults.take parameters.positionalOnly.length)
    ++ parameters.regular.zip (parameters.positionalDefaults.drop parameters.positionalOnly.length)
    ++ parameters.rest.toList.map (·, none)

/-- The parameters that can be passed by keyword only, with their defaults. -/
def byKeyword : List (Parameter Expr × Option Expr) :=
  parameters.keywordOnly.zip parameters.keywordDefaults
    ++ parameters.keywordRest.toList.map (·, none)

/-- Whether the signature has a marker before what is passed by keyword only, and it is found behind
what is passed by position. -/
def isParted (text : SourceText) (start : Position) : Bool :=
  parameters.rest.isNone && !parameters.keywordOnly.isEmpty &&
    (text.tokenAfter .op
      (Draft.endAfter start ((Draft.ofEntries text start parameters.leading).map (·.2)))
      "*").isSome

end Program.Parameters

/-- A node shows a parameter with its default. -/
def Tree.ShowsParameter (tree : Tree) (text : SourceText)
    (parameter : Parameter Expr × Option Expr) (node : NodeId) : Prop :=
  ∃ star, tree.ShowsEntry text (.parameter none parameter.1 parameter.2) star node

/-- What counts as passed by position: what can be passed so and, unless a marker is found before
it, what can be passed by keyword only. Where the signature is laid out the marker is found. -/
structure Tree.PassesByPosition (tree : Tree) (text : SourceText) (parameters : Parameters Expr)
    (start : Position) (function : NodeId) : Prop where
  passed : List.Forall₂ (tree.ShowsParameter text)
    (parameters.byPosition ++
      if parameters.isParted text start then [] else parameters.byKeyword)
    (tree.positionalParameters function)
  parted : (Entry.openings text start parameters.listing).isSome = true →
    parameters.isParted text start = (parameters.rest.isNone && !parameters.keywordOnly.isEmpty)

/-! ### Parameters among entries -/

namespace Program

variable {parameters : Parameters Expr}

theorem Entry.filterMap_group (parameters : List (Parameter Expr)) (defaults : List (Option Expr)) :
    (group parameters defaults).filterMap parameter? = parameters.zip defaults := by
  induction parameters generalizing defaults with
  | nil => rfl
  | cons own rest ih =>
      cases defaults with
      | nil => rfl
      | cons default others => exact congrArg _ (ih others)

namespace Parameters

theorem filterMap_leading : parameters.leading.filterMap Entry.parameter? =
    parameters.positionalOnly.zip
        (parameters.positionalDefaults.take parameters.positionalOnly.length)
      ++ parameters.regular.zip
        (parameters.positionalDefaults.drop parameters.positionalOnly.length) := by
  rw [leading, List.filterMap_append, List.filterMap_append, Entry.filterMap_group,
    Entry.filterMap_group]
  split <;> simp [Entry.parameter?]

theorem filterMap_parting :
    parameters.parting.filterMap Entry.parameter? = parameters.rest.toList.map (·, none) := by
  rw [parting]
  split
  · rename_i rest same
    rw [same]
    rfl
  · rename_i same
    rw [same]
    split <;> rfl

theorem filterMap_trailing : parameters.trailing.filterMap Entry.parameter? =
    parameters.byKeyword := by
  rw [trailing, List.filterMap_append, Entry.filterMap_group, byKeyword, List.filterMap_map]
  cases parameters.keywordRest <;> rfl

theorem marker_not_mem_group {sign : String} (listed : List (Parameter Expr))
    (defaults : List (Option Expr)) : .marker sign ∉ Entry.group listed defaults := by
  rw [Entry.group, ← List.map_uncurry_zip_eq_zipWith, List.mem_map]
  rintro ⟨entry, -, same⟩
  cases same

theorem marker_of_mem_leading {sign : String} (member : .marker sign ∈ parameters.leading) :
    sign = "/" := by
  simp only [leading, List.mem_append, marker_not_mem_group, false_or, or_false] at member
  split at member
  · cases member
  · cases List.mem_singleton.mp member
    rfl

theorem marker_of_mem_parting {sign : String} (member : .marker sign ∈ parameters.parting) :
    sign = "*" := by
  unfold parting at member
  split at member
  · cases List.mem_singleton.mp member
  · split at member
    · cases member
    · cases List.mem_singleton.mp member
      rfl

theorem marker_not_mem_trailing {sign : String} : .marker sign ∉ parameters.trailing := by
  simp [trailing, marker_not_mem_group]

end Parameters

end Program

namespace Draft

variable {text : SourceText} {start : Position} {entries : List Entry}
  {parameters : Parameters Expr} {drafted : Entry × Draft}

theorem fst_mem_of_mem_ofEntries (member : drafted ∈ ofEntries text start entries) :
    drafted.1 ∈ entries := by
  induction entries generalizing start with
  | nil => cases member
  | cons entry rest ih =>
      rw [ofEntries] at member
      split at member
      · rcases List.mem_cons.mp member with rfl | later
        · exact List.mem_cons_self
        · exact List.mem_cons_of_mem _ (ih later)
      · exact List.mem_cons_of_mem _ (ih member)

/-- No parameter goes without a draft. -/
theorem filterMap_ofEntries : (ofEntries text start entries).filterMap (·.1.parameter?) =
    entries.filterMap Entry.parameter? := by
  induction entries generalizing start with
  | nil => rfl
  | cons entry rest ih =>
      rw [ofEntries]
      cases entry with
      | parameter star own default => exact congrArg _ ih
      | marker sign =>
          rw [ofEntryFrom?]
          cases text.tokenAfter .op start sign with
          | none => exact ih
          | some token => exact ih

/-- Whether what is drafted is no keyword-only marker. -/
def passes (drafted : Entry × Draft) : Bool := !drafted.1.isMarker "*"

theorem passes_of_mem (free : .marker "*" ∉ entries)
    (member : drafted ∈ ofEntries text start entries) : passes drafted = true := by
  have among := fst_mem_of_mem_ofEntries member
  obtain ⟨entry, draft⟩ := drafted
  cases entry with
  | parameter star own default => rfl
  | marker sign =>
      have other : sign ≠ "*" := fun same => free (same ▸ among)
      simp [passes, Entry.isMarker, other]

theorem takeWhile_passes (free : .marker "*" ∉ entries) :
    (ofEntries text start entries).takeWhile passes = ofEntries text start entries :=
  List.takeWhile_eq_self_iff.mpr fun _ => passes_of_mem free

/-- The parameters from where the parting entry stands, up to the marker if it is found. -/
theorem filterMap_takeWhile_parting :
    let place := endAfter start ((ofEntries text start parameters.leading).map (·.2))
    ((ofEntries text place (parameters.parting ++ parameters.trailing)).takeWhile passes).filterMap
        (·.1.parameter?) =
      parameters.rest.toList.map (·, none) ++
        if parameters.isParted text start then [] else parameters.byKeyword := by
  intro place
  have all (free : .marker "*" ∉ parameters.parting) :
      ((ofEntries text place (parameters.parting ++ parameters.trailing)).takeWhile
          passes).filterMap (·.1.parameter?) =
        parameters.rest.toList.map (·, none) ++ parameters.byKeyword := by
    rw [takeWhile_passes, filterMap_ofEntries, List.filterMap_append,
      Parameters.filterMap_parting, Parameters.filterMap_trailing]
    exact fun member => (List.mem_append.mp member).elim free Parameters.marker_not_mem_trailing
  cases rest : parameters.rest with
  | some own =>
      rw [all (by simp [Parameters.parting, rest]), Parameters.isParted, rest]
      rfl
  | none =>
      cases only : parameters.keywordOnly with
      | nil =>
          rw [all (by simp [Parameters.parting, rest, only]), Parameters.isParted, rest, only]
          rfl
      | cons own others =>
          have parting : parameters.parting = [.marker "*"] := by
            simp [Parameters.parting, rest, only]
          have parted : parameters.isParted text start =
            (text.tokenAfter .op place "*").isSome := by
            rw [Parameters.isParted, rest, only]
            rfl
          rw [parting, List.singleton_append, ofEntries, ofEntryFrom?, parted]
          cases text.tokenAfter .op place "*" with
          | some token => rfl
          | none =>
              dsimp only [Option.map_none]
              rw [takeWhile_passes Parameters.marker_not_mem_trailing, filterMap_ofEntries,
                Parameters.filterMap_trailing]
              rfl

/-- The parameters up to the marker. -/
theorem filterMap_takeWhile_listing :
    ((ofEntries text start parameters.listing).takeWhile passes).filterMap (·.1.parameter?) =
      parameters.byPosition ++
        if parameters.isParted text start then [] else parameters.byKeyword := by
  have free : .marker "*" ∉ parameters.leading := fun member =>
    absurd (Parameters.marker_of_mem_leading member) (by decide)
  rw [Parameters.listing, List.append_assoc, ofEntries_append,
    List.takeWhile_append_of_pos fun _ => passes_of_mem free, List.filterMap_append,
    filterMap_takeWhile_parting, filterMap_ofEntries, Parameters.filterMap_leading,
    Parameters.byPosition, List.append_assoc, List.append_assoc, List.append_assoc]

end Draft

/-! ### Nodes of parameters -/

namespace Tree

variable {tree : Tree} {text : SourceText} {start : Position} {entries : List Entry}
  {entry : Entry} {draft : Draft} {node : NodeId}

/-- Markers are told by their signs, and parameters are no markers. -/
theorem isMarker_eq (drafted : Draft.ofEntryFrom? text start entry = some draft)
    (shows : tree.ShowsEntry text entry draft.star? node) (sign : String) :
    tree.isMarker sign node = entry.isMarker sign := by
  have name := shows.name
  have star := shows.star
  rw [isMarker, shows.form, attribute?, attribute?]
  dsimp only
  cases entry with
  | marker own =>
      obtain ⟨token, found, rfl⟩ := Option.map_eq_some_iff.mp drafted
      obtain ⟨-, -, value⟩ := SourceText.of_tokenAfter found
      rw [Entry.name?, Option.map_none, Option.toList_none, List.map_eq_nil_iff] at name
      obtain ⟨mark, marks, known⟩ : ∃ mark, tree.attributes node .star = [mark] ∧
          tree.token? mark = some token := by
        obtain ⟨mark, marks, known⟩ := List.map_eq_singleton_iff.mp star
        exact ⟨mark, marks, known⟩
      simp [name, marks, known, value, Entry.isMarker]
  | parameter own parameter default =>
      cases drafted
      rw [Draft.star?_ofParameter] at star
      rw [Entry.name?] at name
      cases met : text.tokenAt (text.span parameter.span).start with
      | some token =>
          rw [met, Option.map_some, Option.map_some, Option.toList_some] at name
          obtain ⟨child, names, -⟩ := List.map_eq_singleton_iff.mp name
          simp [names, Entry.isMarker]
      | none =>
          -- where no token is met there is no star either
          have bare : Draft.starBefore? text own.isSome parameter = none := by
            rw [Draft.starBefore?, met]
            split <;> rfl
          rw [bare, Option.map_none, Option.toList_none, List.map_eq_nil_iff] at star
          simp [star, Entry.isMarker]

/-- An entry of a signature among the nodes of its parameter list. -/
structure Tells (tree : Tree) (text : SourceText) (parameters : Parameters Expr)
    (drafted : Entry × Draft) (node : NodeId) : Prop where
  listed : drafted.1 ∈ parameters.listing
  shows : tree.ShowsEntry text drafted.1 drafted.2.star? node
  marks : ∀ sign, tree.isMarker sign node = drafted.1.isMarker sign

variable {parameters : Parameters Expr} {function : NodeId}

/-- An entry that is no keyword-only marker is a parameter or the positional-only marker. -/
theorem Tells.isPositionalOnlyMarker_eq {drafted : Entry × Draft}
    (tells : tree.Tells text parameters drafted node) (passes : Draft.passes drafted = true) :
    tree.isPositionalOnlyMarker node = drafted.1.parameter?.isNone := by
  have listed := tells.listed
  rw [isPositionalOnlyMarker, tells.marks]
  obtain ⟨entry, draft⟩ := drafted
  cases entry with
  | parameter star own default => rfl
  | marker sign =>
      have other : sign ≠ "*" := by simpa [Draft.passes, Entry.isMarker] using passes
      rw [Parameters.listing, List.mem_append, List.mem_append] at listed
      rcases listed with (leading | parting) | trailing
      · rw [Parameters.marker_of_mem_leading leading]
        rfl
      · exact absurd (Parameters.marker_of_mem_parting parting) other
      · exact absurd trailing Parameters.marker_not_mem_trailing

/-- From the entries of a signature the positional parameters are taken up to the marker. -/
theorem showsParameter_of_showsEntry
    (entries : List.Forall₂
      (fun drafted node => tree.ShowsEntry text drafted.1 drafted.2.star? node)
      (Draft.ofEntries text start parameters.listing) (tree.parameterEntries function)) :
    List.Forall₂ (tree.ShowsParameter text)
      (parameters.byPosition ++
        if parameters.isParted text start then [] else parameters.byKeyword)
      (tree.positionalParameters function) := by
  have told : List.Forall₂ (tree.Tells text parameters)
      (Draft.ofEntries text start parameters.listing) (tree.parameterEntries function) := by
    refine Lists.imp_of_mem entries fun drafted member node _ shows => ?_
    obtain ⟨place, made⟩ := Draft.exists_ofEntryFrom? member
    exact ⟨Draft.fst_mem_of_mem_ofEntries member, shows, isMarker_eq made shows⟩
  have plain : ((tree.parameterEntries function).any
      fun entry => tree.form? entry = some .tupleParameter) = false := by
    refine List.any_eq_false.mpr fun node member => ?_
    obtain ⟨drafted, -, shows⟩ := Lists.exists_left entries member
    simp [shows.form]
  have front := @Lists.takeWhile _ _ _ _ _ Draft.passes
    (fun node => !tree.isKeywordOnlyMarker node) told
    fun drafted node tells => by rw [isKeywordOnlyMarker, tells.marks, Draft.passes]
  have known := Lists.imp_of_mem (S := fun drafted node => Draft.passes drafted = true ∧
      tree.Tells text parameters drafted node) front
    fun drafted member node _ tells => ⟨List.mem_takeWhile_imp member, tells⟩
  rw [positionalParameters, plain, if_neg Bool.false_ne_true, ← Draft.filterMap_takeWhile_listing]
  refine Lists.filterMap_filter known ?_ ?_
  · rintro drafted node ⟨passes, tells⟩ none
    rw [tells.isPositionalOnlyMarker_eq passes, none]
    rfl
  · rintro ⟨entry, draft⟩ node parameter ⟨passes, tells⟩ some
    rw [tells.isPositionalOnlyMarker_eq passes, some]
    cases entry with
    | marker sign => cases some
    | parameter star own default =>
        cases some
        obtain ⟨form, name, hint, defaultValue, star⟩ := tells.shows
        exact ⟨rfl, _, form, name, hint, defaultValue, star⟩

end Tree

namespace Draft

variable {text : SourceText} {start : Position} {entries : List Entry}
  {parameters : Parameters Expr}

theorem length_ofEntries_le : (ofEntries text start entries).length ≤ entries.length := by
  induction entries generalizing start with
  | nil => exact Nat.le_refl _
  | cons entry rest ih =>
      rw [ofEntries]
      split
      · exact Nat.succ_le_succ ih
      · exact Nat.le_succ_of_le ih

/-- Where a signature is laid out, the marker is found. -/
theorem isParted_of_openings {opened : List (Entry × Token)}
    (laid : Entry.openings text start parameters.listing = some opened)
    (rest : parameters.rest = none) (only : parameters.keywordOnly ≠ []) :
    parameters.isParted text start = true := by
  obtain ⟨listed, paired⟩ := forall₂_openings laid
  have all : (ofEntries text start parameters.listing).length = parameters.listing.length := by
    rw [paired.length_eq, ← listed, List.length_map]
  have parting : parameters.parting = [.marker "*"] := by simp [Parameters.parting, rest, only]
  have some : parameters.keywordOnly.isEmpty = false := by simpa using only
  rw [Parameters.isParted, rest, some, Option.isNone_none, Bool.not_false, Bool.true_and,
    Bool.true_and]
  by_contra missing
  rw [Bool.not_eq_true, Option.isSome_eq_false_iff, Option.isNone_iff_eq_none] at missing
  -- a marker that is not found leaves fewer drafts than entries
  have front := @length_ofEntries_le text start parameters.leading
  have back := @length_ofEntries_le text
    (endAfter start ((ofEntries text start parameters.leading).map (·.2))) parameters.trailing
  rw [Parameters.listing, List.append_assoc, ofEntries_append, parting, List.singleton_append,
    ofEntries, ofEntryFrom?, missing] at all
  simp only [Option.map_none, List.length_append, List.length_cons] at all
  omega

end Draft

namespace Program.Region.Stands

variable {program : Program} {text : SourceText} {region : Region} {function : NodeId}
  {parameters : Parameters Expr} {start : Position}

/-- The node of a function passes by position what its signature says. -/
theorem passesByPosition (stands : region.Stands text (Branch.ofProgram program text) function)
    (numbered : Token.Numbered text.tokens)
    (signature : region.signature? text = some (parameters, start)) :
    (Branch.ofProgram program text).toTree.PassesByPosition text parameters start function where
  passed := Tree.showsParameter_of_showsEntry (stands.entries numbered signature)
  parted laid := by
    obtain ⟨opened, laid⟩ := Option.isSome_iff_exists.mp laid
    cases rest : parameters.rest with
    | some own =>
        rw [Parameters.isParted, rest]
        rfl
    | none =>
        cases only : parameters.keywordOnly with
        | nil =>
            rw [Parameters.isParted, rest, only]
            rfl
        | cons own others => exact Draft.isParted_of_openings laid rest (by simp [only])

end Program.Region.Stands

/-- **What is passed by position.** In the tree of a source text every function is that of a
signature of the program. What counts as passed by position are, in order, the parameters that can
be passed so, the one for the remaining arguments among them, and no others if a marker parts them
from what is passed by keyword only, or if nothing is. Without a marker the parameters that are
passed by keyword only follow. A signature that is laid out has the marker where it should have
one. -/
theorem Tree.positional {source : List Char} {withSymbols : Bool} {parsed : ParsedSource}
    (read : parse source withSymbols = .ok parsed) :
    ∃ program tokens, Program.read source = .ok program ∧ lex source = .ok tokens ∧
      let text := SourceText.ofTokens source tokens
      ∀ function, parsed.tree.isFunction function = true →
        ∃ region parameters start, program.Opens region ∧
          region.signature? text = some (parameters, start) ∧
            parsed.tree.Keeps (region.draft text) function ∧
              parsed.tree.PassesByPosition text parameters start function := by
  obtain ⟨program, tokens, known, lexed, same, -⟩ := exists_read_of_parse read
  have numbered : Token.Numbered (SourceText.ofTokens source tokens).tokens :=
    Token.numbered_of_lex lexed
  rw [same]
  refine ⟨program, tokens, known, lexed, fun function isFunction => ?_⟩
  obtain ⟨isAsync, found⟩ := Tree.exists_form_of_isFunction isFunction
  obtain ⟨region, opens, stands⟩ := Program.exists_opens_of_form found rfl
  obtain ⟨parameters, start, signature⟩ := stands.exists_signature (.inl isFunction)
  exact ⟨region, parameters, start, opens, signature, stands.keeps,
    stands.passesByPosition numbered signature⟩

/-- A signature with a marker before what is passed by keyword only, and one with a starred
parameter there. -/
def partedSource : List Char :=
  "def f(a, /, b, *, k): pass
def g(a, *args, k, **kw): pass
".toList

/-- The first function stops at the marker, the second one does not stop. -/
theorem Tree.positional_partedSource :
    ∃ parsed tokens, parse partedSource false = .ok parsed ∧
      (∀ function ∈ [26, 54], ∃ region parameters start,
        parsed.tree.Keeps (Region.draft (.ofTokens partedSource tokens) region) function ∧
          parsed.tree.PassesByPosition (.ofTokens partedSource tokens) parameters start function) ∧
      parsed.tree.positionalParameters 26 = [6, 13] ∧
      parsed.tree.positionalParameters 54 = [34, 39, 43, 48] := by
  obtain ⟨parsed, read, facts⟩ := Lists.exists_of_toOption_map
    (show (parse partedSource false).toOption.map (fun parsed =>
        ([26, 54].all parsed.tree.isFunction, parsed.tree.positionalParameters 26,
          parsed.tree.positionalParameters 54)) =
      some (true, [6, 13], [34, 39, 43, 48]) by decide +kernel)
  simp only [Prod.mk.injEq, List.all_eq_true] at facts
  obtain ⟨functions, first, second⟩ := facts
  obtain ⟨program, tokens, -, -, passes⟩ := Tree.positional read
  refine ⟨parsed, tokens, read, fun function member => ?_, first, second⟩
  obtain ⟨region, parameters, start, -, -, keeps, passes⟩ :=
    passes function (functions function member)
  exact ⟨region, parameters, start, keeps, passes⟩

end StructuralLint
