import StructuralLint.Proofs.Signature.Entries

/-!
# Reading a signature back

The source of a signature consists of the sources of its entries, with punctuation before and
between them. Where this is so behind the place that the markers are looked for from
(`Program.Entry.openings`), every marker is found where it stands, and not in a default or a type
hint, since the search goes on behind the source of the entry before it. Then the entries of the
parameter list are those that the signature lists, with their own stars, type hints and defaults
(`Tree.signatures`).

The place is the end of the name of a function. A name that is spelled otherwise in the source is
looked for further on, and then the signature does not stand behind it.
-/

namespace StructuralLint

open Program

/-- Whether a token may stand before an entry of a signature and belong to none: the word that opens
a lambda, brackets, commas and colons. -/
def Token.isPunctuation (token : Token) : Bool :=
  ["lambda", "(", ")", ",", ":"].contains token.value

/-- The first token from a position on that is no punctuation. -/
def SourceText.next? (text : SourceText) (place : Position) : Option Token :=
  (text.tokensFrom place).find? (!·.isPunctuation)

namespace Program.Entry

/-- The sign that an entry opens with. -/
def sign? : Entry → Option String
  | parameter star _ _ => star
  | marker sign => some sign

/-- Whether an entry opens with a token: a marker with its sign, a parameter with its name or with
the star before it. -/
def opensWith (text : SourceText) (token : Token) : Entry → Bool
  | parameter none own _ => text.tokenAt (text.span own.span).start = some token
  | parameter (some sign) own _ =>
    token.value = sign && Draft.starBefore? text true own = some token
  | marker sign => token.type = .op && token.value = sign

/-- The entries with the tokens that they open with, if nothing but punctuation stands before the
first of them and between two of them, from `start` on. -/
def openings (text : SourceText) : (start : Position) → List Entry → Option (List (Entry × Token))
  | _, [] => some []
  | start, entry :: rest => do
    let token ← (text.next? start).filter (entry.opensWith text)
    let draft ← Draft.ofEntryFrom? text start entry
    let later ← openings text draft.span.stop rest
    return (entry, token) :: later

end Program.Entry

/-- A node shows an entry that opens with a token: the token is its star or its sign if it has one,
and a parameter has its name. -/
structure Tree.ReadsEntry (tree : Tree) (text : SourceText) (entry : Entry) (token : Token)
    (node : NodeId) : Prop where
  shows : tree.ShowsEntry text entry (entry.sign?.map fun _ => token) node
  sign : ∀ sign ∈ entry.sign?, token.value = sign
  named : ∀ star own default, entry = .parameter star own default →
    (tree.attributes node .name).map tree.form? = [some (.name own.name true)]

/-- A signature is read back from a node: where it is laid out behind `start`, the entries of the
node are those that it lists. -/
structure Tree.ReadsBack (tree : Tree) (text : SourceText) (parameters : Parameters Expr)
    (start : Position) (node : NodeId) : Prop where
  list : ∀ opened, Entry.openings text start parameters.listing = some opened →
    (tree.attribute? node .parameters).isSome = !parameters.listing.isEmpty
  entries : ∀ opened, Entry.openings text start parameters.listing = some opened →
    opened.map (·.1) = parameters.listing ∧
      List.Forall₂ (fun opening entry => tree.ReadsEntry text opening.1 opening.2 entry) opened
        (tree.parameterEntries node)

/-! ### Markers in their places -/

namespace Draft

variable {text : SourceText} {start : Position} {token : Token} {entry : Entry} {draft : Draft}
  {entries : List Entry} {opened : List (Entry × Token)}

/-- A sign that comes next is the one that is found. -/
theorem tokenAfter_of_next? {type : TokenType} {sign : String}
    (next : text.next? start = some token) (same : token.type = type) (value : token.value = sign) :
    text.tokenAfter type start sign = some token := by
  obtain ⟨other, before, after, split, passed⟩ := List.find?_eq_some_iff_append.mp next
  refine List.find?_eq_some_iff_append.mpr ⟨by simp [same, value], before, after, split, ?_⟩
  intro earlier member
  have punctuation : earlier.isPunctuation = true := by simpa using passed earlier member
  -- what is passed by is punctuation, and the sign is none
  have differs : earlier.value ≠ sign := by
    intro spelled
    rw [Token.isPunctuation, spelled, ← value, ← Token.isPunctuation] at punctuation
    simp [punctuation] at other
  simp [differs]

/-- An entry that opens with a token has it for its star. -/
theorem star?_of_opensWith (next : text.next? start = some token)
    (opens : entry.opensWith text token = true)
    (drafted : ofEntryFrom? text start entry = some draft) :
    draft.star? = entry.sign?.map fun _ => token := by
  cases entry with
  | parameter star own default =>
      cases drafted
      rw [star?_ofParameter]
      cases star with
      | none => rfl
      | some sign => exact of_decide_eq_true (Bool.and_eq_true_iff.mp opens).2
  | marker sign =>
      obtain ⟨type, value⟩ := Bool.and_eq_true_iff.mp opens
      rw [ofEntryFrom?, tokenAfter_of_next? next (of_decide_eq_true type) (of_decide_eq_true value)]
        at drafted
      cases drafted
      rfl

/-- Where a signature is laid out every entry is found, with the token that it opens with. -/
theorem forall₂_openings (laid : Entry.openings text start entries = some opened) :
    opened.map (·.1) = entries ∧
      List.Forall₂ (fun drafted opening => drafted.1 = opening.1 ∧
        opening.1.opensWith text opening.2 = true ∧
          drafted.2.star? = opening.1.sign?.map fun _ => opening.2)
        (ofEntries text start entries) opened := by
  induction entries generalizing start opened with
  | nil =>
      cases laid
      exact ⟨rfl, .nil⟩
  | cons entry rest ih =>
      simp only [Entry.openings, Option.bind_eq_bind, Option.bind_eq_some_iff] at laid
      obtain ⟨token, found, draft, drafted, later, others, same⟩ := laid
      cases same
      obtain ⟨next, opens⟩ := Option.filter_eq_some_iff.mp found
      obtain ⟨listed, paired⟩ := ih others
      rw [ofEntries, drafted]
      exact ⟨by rw [List.map_cons, listed],
        .cons ⟨rfl, opens, star?_of_opensWith next opens drafted⟩ paired⟩

end Draft

/-! ### Trees -/

namespace Tree

variable {tree : Tree} {text : SourceText} {entry : Entry} {token : Token} {node : NodeId}
  {star : Option Token}

theorem readsEntry_of_opensWith (shows : tree.ShowsEntry text entry star node)
    (opens : entry.opensWith text token = true) (same : star = entry.sign?.map fun _ => token) :
    tree.ReadsEntry text entry token node where
  shows := same ▸ shows
  sign sign given := by
    cases entry with
    | marker own =>
        cases given
        exact of_decide_eq_true (Bool.and_eq_true_iff.mp opens).2
    | parameter star own default =>
        cases given
        exact of_decide_eq_true (Bool.and_eq_true_iff.mp opens).1
  named := by
    rintro star own default rfl
    have met : ∃ met, text.tokenAt (text.span own.span).start = some met := by
      cases star with
      | none => exact ⟨token, of_decide_eq_true opens⟩
      | some sign =>
          have found := of_decide_eq_true (Bool.and_eq_true_iff.mp opens).2
          rw [Draft.starBefore?, if_pos rfl] at found
          obtain ⟨met, found, -⟩ :=
            Option.bind_eq_some_iff.mp (Option.eq_some_of_filter_eq_some found)
          exact ⟨met, found⟩
    obtain ⟨met, found⟩ := met
    rw [shows.name, Entry.name?, found]
    rfl

end Tree

namespace Program.Region.Stands

variable {program : Program} {text : SourceText} {region : Region} {scope : NodeId}
  {parameters : Parameters Expr} {start : Position}

theorem keeps (stands : region.Stands text (Branch.ofProgram program text) scope) :
    (Branch.ofProgram program text).toTree.Keeps (region.draft text) scope := by
  obtain ⟨placed, above, lies, rfl, completes⟩ := stands.completed
  exact lies.keeps_toTree (Branch.tokensAreLeaves_ofProgram program text) completes

/-- The node of a region reads its signature back. -/
theorem readsBack (stands : region.Stands text (Branch.ofProgram program text) scope)
    (numbered : Token.Numbered text.tokens)
    (signature : region.signature? text = some (parameters, start)) :
    (Branch.ofProgram program text).toTree.ReadsBack text parameters start scope where
  list opened laid := by
    obtain ⟨listed, paired⟩ := Draft.forall₂_openings laid
    have entries := stands.entries numbered signature
    cases listing : parameters.listing with
    | nil =>
        rw [stands.attribute?_parameters_eq_none signature (by rw [listing]; rfl)]
        rfl
    | cons entry rest =>
        cases present : (Branch.ofProgram program text).toTree.attribute? scope .parameters with
        | some list => rfl
        | none =>
            -- without a list there are no entries, but the first one is there
            simp only [Tree.parameterEntries, present, List.forall₂_nil_right_iff] at entries
            rw [entries] at paired
            rw [List.forall₂_nil_left_iff.mp paired, listing] at listed
            cases listed
  entries opened laid := by
    obtain ⟨listed, paired⟩ := Draft.forall₂_openings laid
    refine ⟨listed, Lists.compose paired (stands.entries numbered signature) ?_⟩
    rintro ⟨entry, draft⟩ ⟨entry', token⟩ node ⟨same, opens, star⟩ shows
    cases same
    exact Tree.readsEntry_of_opensWith shows opens star

theorem exists_signature (stands : region.Stands text (Branch.ofProgram program text) scope)
    (signs : (Branch.ofProgram program text).toTree.isFunction scope = true ∨
      (Branch.ofProgram program text).toTree.form? scope = some .lambda) :
    ∃ parameters start, region.signature? text = some (parameters, start) := by
  have form := stands.form?
  match region, stands.isRegion with
  | .stmt (.function ..), _ | .expr (.lambda ..), _ => exact ⟨_, _, rfl⟩
  | .stmt (.classDef ..), _ =>
      have form : (Branch.ofProgram program text).toTree.form? scope = some .classDef := form
      simp [Tree.isFunction, form] at signs
  | .expr (.comprehension _ collection _ _), _ =>
      have form : (Branch.ofProgram program text).toTree.form? scope =
        some (.plain collection.kind) := form
      simp [Tree.isFunction, form] at signs
  | .file program', _ =>
      have form : (Branch.ofProgram program text).toTree.form? scope =
        some (.file program'.docstring) := form
      simp [Tree.isFunction, form] at signs

end Program.Region.Stands

theorem Tree.exists_form_of_isFunction {tree : Tree} {node : NodeId}
    (function : tree.isFunction node = true) :
    ∃ isAsync, tree.form? node = some (.function isAsync) := by
  unfold Tree.isFunction at function
  split at function
  · rename_i found
    exact ⟨_, found⟩
  · cases function

/-- **Signatures can be read back.** In the tree of a source text the nodes of functions and lambdas
are those of the signatures of its program. Where a signature is laid out behind its start, the node
has a parameter list unless the signature lists nothing. The entries are then, in order, what the
signature lists: each parameter with its name, and with the type hint and the default that it has in
the program, a star with its sign just where there is one, and each marker with the token that
stands in its place. -/
theorem Tree.signatures {source : List Char} {withSymbols : Bool} {parsed : ParsedSource}
    (read : parse source withSymbols = .ok parsed) :
    ∃ program tokens, Program.read source = .ok program ∧ lex source = .ok tokens ∧
      let text := SourceText.ofTokens source tokens
      (∀ node, parsed.tree.isFunction node = true ∨ parsed.tree.form? node = some .lambda →
        ∃ region parameters start, program.Opens region ∧
          region.signature? text = some (parameters, start) ∧
            parsed.tree.Keeps (region.draft text) node ∧
              parsed.tree.ReadsBack text parameters start node) ∧
      ∀ region parameters start, program.Opens region →
        region.signature? text = some (parameters, start) →
          ∃ node, parsed.tree.Keeps (region.draft text) node ∧
            parsed.tree.ReadsBack text parameters start node := by
  obtain ⟨program, tokens, known, lexed, same, -⟩ := exists_read_of_parse read
  have numbered : Token.Numbered (SourceText.ofTokens source tokens).tokens :=
    Token.numbered_of_lex lexed
  rw [same]
  refine ⟨program, tokens, known, lexed, fun node signs => ?_,
    fun region parameters start opens signature => ?_⟩
  · obtain ⟨form, found, opensScope⟩ : ∃ form,
        (Branch.ofProgram program (.ofTokens source tokens)).toTree.form? node = some form ∧
          form.opensScope = true := by
      rcases signs with function | lambda
      · obtain ⟨isAsync, found⟩ := Tree.exists_form_of_isFunction function
        exact ⟨_, found, rfl⟩
      · exact ⟨_, lambda, rfl⟩
    obtain ⟨region, opens, stands⟩ := Program.exists_opens_of_form found opensScope
    obtain ⟨parameters, start, signature⟩ := stands.exists_signature signs
    exact ⟨region, parameters, start, opens, signature, stands.keeps,
      stands.readsBack numbered signature⟩
  · obtain ⟨node, stands⟩ := opens.exists_stands
    exact ⟨node, stands.keeps, stands.readsBack numbered signature⟩

/-- A statement with a signature opens a region. -/
theorem Program.opens_of_signature {program : Program} {text : SourceText} {stmt : Stmt}
    {parameters : Parameters Expr} {start : Position} (member : stmt ∈ program.body)
    (signature : Region.signature? text (.stmt stmt) = some (parameters, start)) :
    program.Opens (.stmt stmt) := by
  cases stmt with
  | function =>
      exact .inner .file (.inr (.inr ⟨_, member, .own (List.mem_cons_of_mem _ List.mem_cons_self)⟩))
  | _ => cases signature

/-- A signature with both markers, and with the signs of markers in a default and in a type hint. -/
def crowdedSource : List Char :=
  "def f(a, b=lambda *, z: z * 2, /, c: x / y = 3, *, k=(2 * 3), **kw): pass\n".toList

/-- The function of the program, as a region. -/
def crowdedRegion : Program.Region :=
  match (Program.readOrEmpty crowdedSource).body with
  | [stmt] => .stmt stmt
  | _ => .file (.readOrEmpty crowdedSource)

/-- The signature is laid out, so that there are seven entries, each with its own token: the markers
stand in their places, and the last parameter has its star. -/
theorem Tree.signatures_crowdedSource :
    let text := SourceText.lexOrEmpty crowdedSource
    ∃ parsed node parameters start opened, parse crowdedSource false = .ok parsed ∧
      crowdedRegion.signature? text = some (parameters, start) ∧
      Entry.openings text start parameters.listing = some opened ∧
      parsed.tree.ReadsBack text parameters start node ∧
      opened.map (fun opening => (opening.1.sign?, opening.2.value)) =
        [(none, "a"), (none, "b"), (some "/", "/"), (none, "c"), (some "*", "*"), (none, "k"),
          (some "**", "**")] := by
  intro text
  have facts : ((crowdedRegion.signature? text).bind fun signature =>
      (Entry.openings text signature.2 signature.1.listing).map
        (List.map fun opening => (opening.1.sign?, opening.2.value))) =
      some [(none, "a"), (none, "b"), (some "/", "/"), (none, "c"), (some "*", "*"), (none, "k"),
        (some "**", "**")] := by
    decide +kernel
  obtain ⟨parsed, read⟩ := exists_parsed_of_isOk
    (show (parse crowdedSource false).isOk = true by decide +kernel)
  obtain ⟨program, tokens, known, lexed, -, nodes⟩ := Tree.signatures read
  have sameText : text = .ofTokens crowdedSource tokens := SourceText.lexOrEmpty_of_lex lexed
  obtain ⟨⟨parameters, start⟩, signature, laid⟩ := Option.bind_eq_some_iff.mp facts
  obtain ⟨openings, laid, values⟩ := Option.map_eq_some_iff.mp laid
  have opens : program.Opens crowdedRegion := by
    rw [← Program.readOrEmpty_of_read known]
    delta crowdedRegion at signature ⊢
    split at signature <;> rename_i body
    · exact opens_of_signature (body ▸ List.mem_singleton_self _) signature
    · cases signature
  obtain ⟨node, -, reads⟩ := nodes crowdedRegion parameters start opens (sameText ▸ signature)
  exact ⟨parsed, node, parameters, start, openings, read, signature, laid, sameText ▸ reads, values⟩

end StructuralLint
