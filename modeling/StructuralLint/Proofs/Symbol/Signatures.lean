import StructuralLint.Proofs.Symbol.Given
import StructuralLint.Proofs.Symbol.Regions

/-!
# Signatures in drafts

The draft of a signature has the parameters for entries, with markers between them
(`Draft.of_mem_signatureEntries`). Below it stand the type hints and the defaults in the scope
around the function (`Draft.exists_shares_ofSignature`) and the names of the parameters in the
scope of the function (`Draft.exists_namedIn_ofSignature`).
-/

namespace StructuralLint

open Program

namespace Draft

variable (text : SourceText)

/-! ### Expressions that are drafted one by one -/

theorem ofExprs_eq_map (exprs : List Expr) : ofExprs text exprs = exprs.map (ofExpr text) := by
  induction exprs with
  | nil => rfl
  | cons expr rest ih => rw [ofExprs, ih, List.map_cons]

theorem ofExpr?_eq_map (expr : Option Expr) : ofExpr? text expr = expr.map (ofExpr text) := by
  cases expr <;> rfl

theorem ofExprs?_eq_map (exprs : List (Option Expr)) :
    ofExprs? text exprs = exprs.map (Option.map (ofExpr text)) := by
  induction exprs with
  | nil => rfl
  | cons expr rest ih => rw [ofExprs?, ih, List.map_cons, ofExpr?_eq_map]

theorem ofParameterListOf_eq_map (parameters : List (Parameter Expr)) :
    ofParameterListOf text parameters = parameters.map (ofParameterOf text) := by
  induction parameters with
  | nil => rfl
  | cons parameter rest ih => rw [ofParameterListOf, ih, List.map_cons]

theorem ofParameterOf?_eq_map (parameter : Option (Parameter Expr)) :
    ofParameterOf? text parameter = parameter.map (ofParameterOf text) := by
  cases parameter <;> rfl

theorem entries_ofParametersOf (parameters : Parameters Expr) :
    (ofParametersOf text parameters).entries =
      parameters.entries.map (Prod.map (ofParameterOf text) (Option.map (ofExpr text))) := by
  obtain ⟨positionalOnly, regular, defaults, rest, keywordOnly, keywordDefaults, keywordRest⟩ :=
    parameters
  simp only [ofParametersOf, Parameters.entries, Parameters.positionalDefaults,
    ofParameterListOf_eq_map, ofExprs_eq_map, ofExprs?_eq_map, ofParameterOf?_eq_map,
    List.map_append, List.length_map, ← List.zip_map, List.map_replicate, List.map_map,
    Option.toList_map]
  rfl

theorem details_ofParametersOf (parameters : Parameters Expr) :
    (ofParametersOf text parameters).details = parameters.details.map (ofExpr text) := by
  rw [Parameters.details, entries_ofParametersOf, List.flatMap_map, Parameters.details,
    List.map_flatMap]
  congr 1
  funext entry
  obtain ⟨⟨span, name, hint⟩, default⟩ := entry
  simp only [Prod.map_apply, ofParameterOf, ofExpr?_eq_map, Option.toList_map, List.map_append]

/-! ### Entries -/

variable {text} {parameters : Parameters Draft} {start : Position} {entry : Draft}
  {parameter : Parameter Draft} {default : Option Draft}

theorem mem_ofParameters {listed : List (Parameter Draft)} {defaults : List (Option Draft)} :
    entry ∈ ofParameters text listed defaults ↔
      ∃ parameter default, (parameter, default) ∈ listed.zip defaults ∧
        ofParameter text false parameter default = entry := by
  rw [ofParameters, ← List.map_uncurry_zip_eq_zipWith, List.mem_map, Prod.exists]
  rfl

theorem mem_withMarker {sign : String} {entries : List Draft} :
    entry ∈ withMarker text start sign entries ↔ entry ∈ entries ∨
      ∃ token, text.tokenAfter .op (endAfter start entries) sign = some token ∧
        ofMarker token = entry := by
  rw [withMarker, List.mem_append, Option.mem_toList, Option.map_eq_some_iff]

/-- Parameters that may have a marker after them. -/
theorem mem_ite_withMarker {sign : String} {entries : List Draft} {bare : Prop} [Decidable bare] :
    entry ∈ (if bare then entries else withMarker text start sign entries) ↔ entry ∈ entries ∨
      ¬bare ∧ ∃ token, text.tokenAfter .op (endAfter start entries) sign = some token ∧
        ofMarker token = entry := by
  split
  · simp [*]
  · simp [*, mem_withMarker]

/-- The entries of a signature are markers and parameters. -/
theorem of_mem_signatureEntries (member : entry ∈ signatureEntries text parameters start) :
    (∃ sign, ofMarker sign = entry) ∨ ∃ starred parameter default,
      (parameter, default) ∈ parameters.entries ∧
        ofParameter text starred parameter default = entry := by
  unfold signatureEntries at member
  simp only [List.mem_append, mem_ofParameters, List.mem_map, Option.mem_toList] at member
  rcases member with (front | ⟨parameter, default, listed, same⟩) | ⟨parameter, present, same⟩
  · split at front
    · rename_i extra rest
      simp only [List.mem_append, mem_ite_withMarker, mem_ofParameters, List.mem_singleton] at front
      rcases front with ((⟨parameter, default, listed, same⟩ | ⟨-, sign, -, same⟩) |
        ⟨parameter, default, listed, same⟩) | same
      · exact .inr ⟨_, _, _, Parameters.mem_entries.mpr (.inl listed), same⟩
      · exact .inl ⟨sign, same⟩
      · exact .inr ⟨_, _, _, Parameters.mem_entries.mpr (.inr (.inl listed)), same⟩
      · exact .inr ⟨_, _, _, Parameters.mem_entries.mpr (.inr (.inr (.inl ⟨rest, rfl⟩))), same.symm⟩
    · simp only [List.mem_append, mem_ite_withMarker, mem_ofParameters] at front
      rcases front with ((⟨parameter, default, listed, same⟩ | ⟨-, sign, -, same⟩) |
        ⟨parameter, default, listed, same⟩) | ⟨-, sign, -, same⟩
      · exact .inr ⟨_, _, _, Parameters.mem_entries.mpr (.inl listed), same⟩
      · exact .inl ⟨sign, same⟩
      · exact .inr ⟨_, _, _, Parameters.mem_entries.mpr (.inr (.inl listed)), same⟩
      · exact .inl ⟨sign, same⟩
  · exact .inr ⟨_, _, _, Parameters.mem_entries.mpr (.inr (.inr (.inr (.inl listed)))), same⟩
  · exact .inr ⟨_, _, _,
      Parameters.mem_entries.mpr (.inr (.inr (.inr (.inr ⟨present, rfl⟩)))), same⟩

/-- Every parameter of a signature is an entry. -/
theorem exists_mem_signatureEntries (member : (parameter, default) ∈ parameters.entries) :
    ∃ starred, ofParameter text starred parameter default ∈
      signatureEntries text parameters start := by
  -- the positional parameters stand in front, whatever comes after them
  have front (entry : Draft)
      (stands : entry ∈ ofParameters text parameters.positionalOnly
          (parameters.positionalDefaults.take parameters.positionalOnly.length) ∨
        entry ∈ ofParameters text parameters.regular
          (parameters.positionalDefaults.drop parameters.positionalOnly.length)) :
      entry ∈ signatureEntries text parameters start := by
    unfold signatureEntries
    refine List.mem_append_left _ (List.mem_append_left _ ?_)
    have among : entry ∈ (if (ofParameters text parameters.positionalOnly
          (parameters.positionalDefaults.take parameters.positionalOnly.length)).isEmpty then
        ofParameters text parameters.positionalOnly
          (parameters.positionalDefaults.take parameters.positionalOnly.length)
        else withMarker text start "/" (ofParameters text parameters.positionalOnly
          (parameters.positionalDefaults.take parameters.positionalOnly.length))) ++
        ofParameters text parameters.regular
          (parameters.positionalDefaults.drop parameters.positionalOnly.length) := by
      rw [List.mem_append, mem_ite_withMarker]
      exact stands.imp_left .inl
    split
    · exact List.mem_append_left _ among
    · exact mem_ite_withMarker.mpr (.inl among)
  rcases Parameters.mem_entries.mp member with listed | listed | ⟨rest, rfl⟩ | listed | ⟨rest, rfl⟩
  · exact ⟨false, front _ (.inl (mem_ofParameters.mpr ⟨_, _, listed, rfl⟩))⟩
  · exact ⟨false, front _ (.inr (mem_ofParameters.mpr ⟨_, _, listed, rfl⟩))⟩
  · refine ⟨true, ?_⟩
    unfold signatureEntries
    rw [rest]
    exact List.mem_append_left _ (List.mem_append_left _ (List.mem_append_right _ (by simp)))
  · refine ⟨false, ?_⟩
    unfold signatureEntries
    exact List.mem_append_left _ (List.mem_append_right _
      (mem_ofParameters.mpr ⟨_, _, listed, rfl⟩))
  · refine ⟨true, ?_⟩
    unfold signatureEntries
    rw [rest]
    exact List.mem_append_right _ (by simp)

/-! ### What a signature holds -/

variable {kind own : UsageKind} {found : Draft}

/-- What is found at the names in the list of the parameters is found at an entry. -/
theorem exists_namedIn_list :
    (∃ list ∈ (ofSignature text parameters start).toList, NamedIn kind found list) ↔
      ∃ entry ∈ signatureEntries text parameters start, NamedBy kind found entry := by
  have entries : (∃ role entry, (role, entry) ∈
      playing .entry (signatureEntries text parameters start) ∧ role = some .entry ∧
        NamedBy kind found entry) ↔
          ∃ entry ∈ signatureEntries text parameters start, NamedBy kind found entry := by
    simp [playing]
  rw [← entries, ofSignature]
  split
  · rename_i none
    rw [none]
    simp
  · rename_i first rest some
    rw [some, Option.toList_some]
    simp only [List.mem_singleton, exists_eq_left]
    exact exists_arranged_iff (arrange_perm _) fun role entry =>
      role = .some .entry ∧ NamedBy kind found entry

theorem not_namedBy_ofMarker (sign : Token) : ¬NamedBy kind found (ofMarker sign) := by
  rintro ⟨-, slot, name, member, role, -⟩
  cases List.mem_singleton.mp member
  cases role

section

variable (node : found.isNode = true)
  (counts : found.form.counts = true)
include node

theorem namedBy_ofParameter (starred : Bool) :
    NamedBy kind found (ofParameter text starred parameter default) ↔ kind = .parameter ∧
      (text.tokenAt (text.span parameter.span).start).map (ofName parameter.name true) =
        some found := by
  have given : NamedBy kind found (ofParameter text starred parameter default) ↔
      ∃ name, (text.tokenAt (text.span parameter.span).start).map (ofName parameter.name true) =
        some name ∧ Shares kind found .parameter name := by
    refine (and_iff_right rfl).trans ((exists_arranged_iff (arrange_perm _) fun role name =>
      role = some .name ∧ Shares kind found .parameter name).trans ?_)
    simp [plain, playing]
  rw [given]
  constructor
  · rintro ⟨name, made, shares⟩
    obtain ⟨token, at_, rfl⟩ := Option.map_eq_some_iff.mp made
    obtain ⟨rfl, rfl⟩ := (shares_ofName node).mp shares
    exact ⟨rfl, made⟩
  · rintro ⟨rfl, made⟩
    exact ⟨found, made, .here⟩

/-- The list of the parameters holds their names. -/
theorem exists_namedIn_ofSignature :
    (∃ list ∈ (ofSignature text parameters start).toList, NamedIn kind found list) ↔
      ∃ entry ∈ parameters.entries, kind = .parameter ∧
        (text.tokenAt (text.span entry.1.span).start).map (ofName entry.1.name true) =
          some found := by
  rw [exists_namedIn_list]
  constructor
  · rintro ⟨entry, member, named⟩
    rcases of_mem_signatureEntries member with
      ⟨sign, rfl⟩ | ⟨starred, parameter, default, listed, rfl⟩
    · exact absurd named (not_namedBy_ofMarker sign)
    · exact ⟨_, listed, (namedBy_ofParameter node starred).mp named⟩
  · rintro ⟨⟨parameter, default⟩, listed, named⟩
    obtain ⟨starred, member⟩ : ∃ starred, ofParameter text starred parameter default ∈
      signatureEntries text parameters start := exists_mem_signatureEntries listed
    exact ⟨_, member, (namedBy_ofParameter node starred).mpr named⟩

include counts

theorem not_shares_ofMarker (sign : Token) : ¬Shares kind found own (ofMarker sign) := by
  rw [ofMarker, shares_ofParts_of_not_counts counts rfl]
  rintro ⟨role, part, member, -, shares⟩
  cases List.mem_singleton.mp member
  exact not_shares_leaf node sign shares

/-- Outside of its name a parameter says something about itself. -/
theorem shares_ofParameter (starred : Bool) :
    Shares kind found own (ofParameter text starred parameter default) ↔
      ∃ detail ∈ parameter.hint.toList ++ default.toList, Shares kind found .binding detail := by
  rw [ofParameter]
  refine (shares_ofSpan_of_not_counts counts rfl).trans ?_
  simp only [among_append, among_playing, among_plain, exists_shares_leaves node, List.mem_append,
    or_and_right, exists_or]
  simp [Form.passes, Form.holds, Form.introduces]

omit node in
/-- What the list of the parameters holds is what its entries hold. -/
theorem exists_shares_list :
    (∃ list ∈ (ofSignature text parameters start).toList, Shares kind found own list) ↔
      ∃ entry ∈ signatureEntries text parameters start, Shares kind found .binding entry := by
  have entries : Among kind found Form.parameterList.passes .parameterList
      (playing .entry (signatureEntries text parameters start)) ↔
        ∃ entry ∈ signatureEntries text parameters start, Shares kind found .binding entry :=
    (among_playing _ _).trans (and_iff_right rfl)
  rw [← entries, ofSignature]
  split
  · rename_i none
    rw [none]
    simp [Among]
  · rename_i first rest some
    rw [some, Option.toList_some]
    simp only [List.mem_singleton, exists_eq_left]
    exact shares_ofParts_of_not_counts counts rfl

/-- The list of the parameters holds what they say about themselves. -/
theorem exists_shares_ofSignature :
    (∃ list ∈ (ofSignature text parameters start).toList, Shares kind found own list) ↔
      ∃ detail ∈ parameters.details, Shares kind found .binding detail := by
  rw [exists_shares_list counts]
  simp only [Parameters.details, List.mem_flatMap]
  constructor
  · rintro ⟨entry, member, shares⟩
    rcases of_mem_signatureEntries member with
      ⟨sign, rfl⟩ | ⟨starred, parameter, default, listed, rfl⟩
    · exact absurd shares (not_shares_ofMarker node counts sign)
    · obtain ⟨detail, among, shares⟩ := (shares_ofParameter node counts starred).mp shares
      exact ⟨detail, ⟨_, listed, among⟩, shares⟩
  · rintro ⟨detail, ⟨⟨parameter, default⟩, listed, among⟩, shares⟩
    obtain ⟨starred, member⟩ : ∃ starred, ofParameter text starred parameter default ∈
      signatureEntries text parameters start := exists_mem_signatureEntries listed
    exact ⟨_, member, (shares_ofParameter node counts starred).mpr ⟨detail, among, shares⟩⟩

end

end Draft

end StructuralLint
