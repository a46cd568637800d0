import StructuralLint.Proofs.Symbol.Signatures

/-!
# What a signature lists

A signature lists its parameters group by group, with a marker where the way changes in which
arguments are passed: `/` behind the parameters that are passed by position only, and `*` before
those that are passed by keyword only, unless a starred parameter stands there anyway
(`Program.Parameters.listing`). A program does not say where the markers stand. They are looked for
from entry to entry, each from the end of the entry before it on, and one that is not found is left
out (`Draft.ofEntries`). This is how the draft of a signature comes to its entries
(`Draft.signatureEntries_ofParametersOf`).
-/

namespace StructuralLint

namespace Program

/-- What a signature lists: a parameter with its star and its default, or a marker. -/
inductive Entry where
  | parameter (star : Option String) (parameter : Parameter Expr) (default : Option Expr)
  | marker (sign : String)

namespace Entry

/-- Parameters without a star, with their defaults. -/
def group (parameters : List (Parameter Expr)) (defaults : List (Option Expr)) : List Entry :=
  List.zipWith (parameter none) parameters defaults

/-- Whether an entry is a marker with a sign. -/
def isMarker (sign : String) : Entry → Bool
  | parameter .. => false
  | marker own => own = sign

/-- The parameter that an entry is, with its default. -/
def parameter? : Entry → Option (Parameter Expr × Option Expr)
  | parameter _ own default => some (own, default)
  | marker _ => none

end Entry

namespace Parameters

variable (parameters : Parameters Expr)

/-- The entries that are passed by position, before any star. -/
def leading : List Entry :=
  Entry.group parameters.positionalOnly
      (parameters.positionalDefaults.take parameters.positionalOnly.length)
    ++ (if parameters.positionalOnly = [] then [] else [.marker "/"])
    ++ Entry.group parameters.regular
      (parameters.positionalDefaults.drop parameters.positionalOnly.length)

/-- The entry with a star that parts what is passed by position from what is passed by keyword. -/
def parting : List Entry :=
  match parameters.rest with
  | some rest => [.parameter (some "*") rest none]
  | none => if parameters.keywordOnly = [] then [] else [.marker "*"]

/-- The entries that are passed by keyword only. -/
def trailing : List Entry :=
  Entry.group parameters.keywordOnly parameters.keywordDefaults
    ++ parameters.keywordRest.toList.map (.parameter (some "**") · none)

/-- What the signature lists, in order. -/
def listing : List Entry := parameters.leading ++ parameters.parting ++ parameters.trailing

variable {parameters}

/-- There is a default, or none, for every positional parameter. -/
theorem length_positionalDefaults_le {ε : Type} (parameters : Parameters ε) :
    parameters.positionalOnly.length + parameters.regular.length ≤
      parameters.positionalDefaults.length := by
  rw [positionalDefaults, List.length_append, List.length_replicate, List.length_map]
  omega

end Parameters

end Program

open Program

namespace Draft

variable (text : SourceText)

/-- The star before a parameter. -/
def starBefore? (starred : Bool) (parameter : Parameter Expr) : Option Token :=
  if starred then
    ((text.tokenAt (text.span parameter.span).start).bind text.previous).filter
      fun star => star.value = "*" || star.value = "**"
  else none

/-- The draft of an entry that stands after `start`, if it is a parameter or the marker is found. -/
def ofEntryFrom? (start : Position) : Entry → Option Draft
  | .parameter star parameter default =>
    some (ofParameter text star.isSome (ofParameterOf text parameter) (ofExpr? text default))
  | .marker sign => (text.tokenAfter .op start sign).map ofMarker

/-- The entries after `start` that have a draft, with their drafts. -/
def ofEntries : (start : Position) → List Entry → List (Entry × Draft)
  | _, [] => []
  | start, entry :: rest =>
    match ofEntryFrom? text start entry with
    | some draft => (entry, draft) :: ofEntries draft.span.stop rest
    | none => ofEntries start rest

variable {text} {start : Position} {entries others : List Entry}

/-! ### From entry to entry -/

theorem endAfter_cons (draft : Draft) (drafts : List Draft) :
    endAfter start (draft :: drafts) = endAfter draft.span.stop drafts := by
  cases drafts with
  | nil => rfl
  | cons next rest => rw [endAfter, endAfter, List.getLast?_cons_cons, List.getLast?_cons]

/-- Entries are drafted where those before them end. -/
theorem ofEntries_append :
    ofEntries text start (entries ++ others) = ofEntries text start entries ++
      ofEntries text (endAfter start ((ofEntries text start entries).map (·.2))) others := by
  induction entries generalizing start with
  | nil => rfl
  | cons entry rest ih =>
      rw [List.cons_append, ofEntries, ofEntries]
      cases ofEntryFrom? text start entry with
      | none => exact ih
      | some draft =>
          dsimp only
          rw [ih, List.map_cons, endAfter_cons, List.cons_append]

/-- After other entries a marker is looked for. -/
theorem drafts_append_marker (sign : String) :
    (ofEntries text start (entries ++ [.marker sign])).map (·.2) =
      withMarker text start sign ((ofEntries text start entries).map (·.2)) := by
  rw [ofEntries_append, List.map_append, withMarker, ofEntries, ofEntryFrom?]
  cases text.tokenAfter .op _ sign <;> rfl

/-- After other entries a parameter has its draft. -/
theorem drafts_append_parameter (star : Option String) (parameter : Parameter Expr)
    (default : Option Expr) :
    (ofEntries text start (entries ++ [.parameter star parameter default])).map (·.2) =
      (ofEntries text start entries).map (·.2) ++
        [ofParameter text star.isSome (ofParameterOf text parameter) (ofExpr? text default)] := by
  rw [ofEntries_append, List.map_append]
  rfl

/-- After other entries parameters without a star have their drafts. -/
theorem drafts_append_group (parameters : List (Parameter Expr)) (defaults : List (Option Expr)) :
    (ofEntries text start (entries ++ Entry.group parameters defaults)).map (·.2) =
      (ofEntries text start entries).map (·.2) ++
        ofParameters text (ofParameterListOf text parameters) (ofExprs? text defaults) := by
  induction parameters generalizing entries defaults with
  | nil => simp [Entry.group, ofParameterListOf, ofParameters]
  | cons parameter rest ih =>
      cases defaults with
      | nil => simp [Entry.group, ofParameterListOf, ofExprs?, ofParameters]
      | cons default others =>
          rw [Entry.group, List.zipWith_cons_cons, List.append_cons, ← Entry.group, ih,
            drafts_append_parameter, List.append_assoc]
          rfl

theorem positionalDefaults_ofParametersOf (parameters : Parameters Expr) :
    (ofParametersOf text parameters).positionalDefaults =
      ofExprs? text parameters.positionalDefaults := by
  obtain ⟨positionalOnly, regular, defaults, rest, keywordOnly, keywordDefaults, keywordRest⟩ :=
    parameters
  simp only [ofParametersOf, Parameters.positionalDefaults, ofParameterListOf_eq_map,
    ofExprs_eq_map, ofExprs?_eq_map, List.map_append, List.length_map, List.map_replicate,
    List.map_map]
  rfl

theorem ofExprs?_take (exprs : List (Option Expr)) (count : Nat) :
    ofExprs? text (exprs.take count) = (ofExprs? text exprs).take count := by
  rw [ofExprs?_eq_map, ofExprs?_eq_map, List.map_take]

theorem ofExprs?_drop (exprs : List (Option Expr)) (count : Nat) :
    ofExprs? text (exprs.drop count) = (ofExprs? text exprs).drop count := by
  rw [ofExprs?_eq_map, ofExprs?_eq_map, List.map_drop]

/-- No parameter that is passed by position only goes without a draft. -/
theorem isEmpty_ofParameters {parameters : List (Parameter Draft)} {defaults : List (Option Draft)}
    (enough : parameters.length ≤ defaults.length) :
    (ofParameters text parameters defaults).isEmpty = parameters.isEmpty := by
  cases parameters with
  | nil => rfl
  | cons parameter rest =>
      cases defaults with
      | nil => exact absurd enough (Nat.not_succ_le_zero _)
      | cons default others => rfl

/-- The drafts of the entries that are passed by position. -/
theorem drafts_leading (parameters : Parameters Expr) :
    (ofEntries text start parameters.leading).map (·.2) =
      (let given := ofParametersOf text parameters
        let leading := ofParameters text given.positionalOnly
          (given.positionalDefaults.take given.positionalOnly.length)
        (if leading.isEmpty then leading else withMarker text start "/" leading) ++
          ofParameters text given.regular
            (given.positionalDefaults.drop given.positionalOnly.length)) := by
  have enough := parameters.length_positionalDefaults_le
  have front := @drafts_append_group text start [] parameters.positionalOnly
    (parameters.positionalDefaults.take parameters.positionalOnly.length)
  rw [List.nil_append, ofEntries, List.map_nil, List.nil_append, ofExprs?_take] at front
  have given : (ofParametersOf text parameters).positionalOnly =
      ofParameterListOf text parameters.positionalOnly := by cases parameters; rfl
  have given' : (ofParametersOf text parameters).regular =
      ofParameterListOf text parameters.regular := by cases parameters; rfl
  have count : (ofParameterListOf text parameters.positionalOnly).length =
      parameters.positionalOnly.length := by rw [ofParameterListOf_eq_map, List.length_map]
  dsimp only
  rw [positionalDefaults_ofParametersOf, given, given', count, isEmpty_ofParameters, ← front,
    Parameters.leading, drafts_append_group, ofExprs?_drop]
  · refine congrArg (· ++ _) ?_
    cases parameters.positionalOnly with
    | nil => simp [Entry.group, ofParameterListOf, ofEntries]
    | cons parameter rest =>
        rw [if_neg (List.cons_ne_nil _ _), drafts_append_marker]
        rfl
  · rw [ofExprs?_eq_map, List.length_take, List.length_map, count]
    omega

/-- What parts the parameters that are passed by position from the others has its draft. -/
theorem drafts_parting (parameters : Parameters Expr) :
    (ofEntries text start (parameters.leading ++ parameters.parting)).map (·.2) =
      match (ofParametersOf text parameters).rest with
      | some rest => (ofEntries text start parameters.leading).map (·.2) ++
          [ofParameter text true rest none]
      | none => if (ofParametersOf text parameters).keywordOnly.isEmpty then
          (ofEntries text start parameters.leading).map (·.2)
        else withMarker text start "*" ((ofEntries text start parameters.leading).map (·.2)) := by
  obtain ⟨positionalOnly, regular, defaults, rest, keywordOnly, keywordDefaults, keywordRest⟩ :=
    parameters
  cases rest with
  | some rest => exact drafts_append_parameter _ _ _
  | none =>
      cases keywordOnly with
      | nil => simp [Parameters.parting, ofParametersOf, ofParameterOf?, ofParameterListOf]
      | cons parameter others => exact drafts_append_marker _

/-- The draft of a signature has the entries that the signature lists. -/
theorem signatureEntries_ofParametersOf (parameters : Parameters Expr) :
    signatureEntries text (ofParametersOf text parameters) start =
      (ofEntries text start parameters.listing).map (·.2) := by
  have trailing : (ofEntries text start parameters.listing).map (·.2) =
      (ofEntries text start (parameters.leading ++ parameters.parting)).map (·.2) ++
        ofParameters text (ofParametersOf text parameters).keywordOnly
          (ofParametersOf text parameters).keywordDefaults ++
        (ofParametersOf text parameters).keywordRest.toList.map
          fun rest => ofParameter text true rest none := by
    obtain ⟨positionalOnly, regular, defaults, rest, keywordOnly, keywordDefaults, keywordRest⟩ :=
      parameters
    rw [Parameters.listing, Parameters.trailing, ← List.append_assoc]
    cases keywordRest with
    | none =>
        rw [Option.toList_none, List.map_nil, List.append_nil, drafts_append_group]
        exact (List.append_nil _).symm
    | some rest =>
        rw [Option.toList_some, List.map_singleton, drafts_append_parameter, drafts_append_group]
        rfl
  rw [trailing, drafts_parting, drafts_leading]
  rfl

end Draft

end StructuralLint
