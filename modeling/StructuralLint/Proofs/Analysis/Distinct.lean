import StructuralLint.Proofs.Analysis.Source
import StructuralLint.Proofs.Check.Raises
import StructuralLint.Proofs.Report.Gate

/-!
# No finding is lost at the gate

The gate takes issues of one rule at one place for one finding. Where the spans of a program lie in
each other and every `raise` statement starts with its word (`BareRaise.Aligned`), the nodes of
`raise` statements stand at different places, one after the other (`BareRaise.increasing_raises`).
So every statement that is to be reported has an issue of its own at its word, and all of them pass
the gate (`BareRaise.scan_of_aligned`).
-/

namespace StructuralLint

namespace BareRaise

variable {program : Program} {text : SourceText} {filePath : String} {raise : RaiseStatement}
  {image : Placed} {above : List Placed}

/-! ### Issues at positions -/

/-- The issue that is reported at a position. -/
def issueOn (filePath : String) (start : Position) : Issue :=
  ⟨key, filePath, start.line, start.column, message⟩

/-- The issue of a node is reported where its first token starts. -/
theorem issueAt_eq {tree : Tree} {node word : NodeId} {token : Token}
    (first : tree.firstToken node = some word) (leaf : tree.token? word = some token) :
    issueAt tree filePath node = issueOn filePath token.start := by
  rw [issueAt, Dispatcher.issueOf, first, Option.bind_some, leaf]
  rfl

theorem issueOn_before {left right : Position} (earlier : left.before right = true) :
    (issueOn filePath left).line < (issueOn filePath right).line ∨
      (issueOn filePath left).line = (issueOn filePath right).line ∧
        (issueOn filePath left).column < (issueOn filePath right).column := by
  rw [Position.before_iff] at earlier
  simp only [issueOn]
  omega

/-- Issues at later positions have later places in a report. -/
theorem place_issueOn_lt {left right : Position} (earlier : left.before right = true) :
    Gate.place (issueOn filePath left) < Gate.place (issueOn filePath right) := by
  rw [Position.before_iff] at earlier
  simp only [Gate.place, Gate.key, Gate.Key.place, issueOn, Prod.Lex.toLex_lt_toLex,
    lt_self_iff_false, true_and, false_or, and_false, or_false]
  omega

/-! ### Statements that start with their word -/

/-- The spans of a program lie in each other, and its `raise` statements start with their words. -/
structure Aligned (program : Program) (text : SourceText) : Prop where
  ordered : Token.IsStream text.tokens
  sideBySide : Draft.SideBySide (Draft.ofProgram program text).parts
  enclosed : ∀ part ∈ (Draft.ofProgram program text).parts, part.2.Enclosed text.tokens
  within : ∀ raise ∈ raises program, ∀ part ∈ raise.parts text,
    part.span.Within (text.span raise.span)
  keyword : ∀ raise ∈ raises program, ∃ token ∈ text.tokens, token.type = .keyword ∧
    token.value = "raise" ∧ (text.span raise.span).opens token = true

/-- A node starts where the word of its `raise` statement stands, and has this word. -/
structure StartsAt (tree : Tree) (text : SourceText) (raise : RaiseStatement) (node : NodeId) :
    Prop where
  keyword : ∃ word ∈ tree.tokens node, ∃ token, tree.token? word = some token ∧
    token.type = .keyword ∧ token.value = "raise" ∧ token.start = (text.span raise.span).start
  first : ∃ word token, tree.firstToken node = some word ∧ tree.token? word = some token ∧
    text.tokens.find? (text.span raise.span).opens = some token

/-- The node of a `raise` statement of the program, as it lies in the tree. -/
structure IsImage (program : Program) (text : SourceText) (raise : RaiseStatement)
    (image : Placed) : Prop where
  raises : raise ∈ raises program
  lies : ∃ above, Placed.Lies (Branch.ofProgram program text).whole image above
  spans : image.Spans text.tokens (Draft.ofStmt text raise.stmt)

namespace IsImage

variable (aligned : Aligned program text) (made : IsImage program text raise image)
include aligned made

/-- The node of a statement has the tokens of some width that start where the statement starts, and
the first of them is its own first token. -/
theorem exists_first :
    ∃ word token, (Branch.ofProgram program text).toTree.firstToken image.id = some word ∧
      (Branch.ofProgram program text).toTree.token? word = some token ∧
      text.tokens.find? (text.span raise.span).opens = some token ∧
      token ∈ image.branch.tokens ∧ ∀ other ∈ text.tokens,
        (text.span raise.span).opens other = true → other ∈ image.branch.tokens := by
  obtain ⟨above, lies⟩ := made.lies
  have drafted := RaiseStatement.span_ofStmt (aligned.within raise made.raises)
  obtain ⟨token, present, -, -, opens⟩ := aligned.keyword raise made.raises
  have first := made.spans.exists_first aligned.ordered lies
    (Branch.tokensAreLeaves_ofProgram program text) ⟨token, present, drafted ▸ opens⟩
  rwa [drafted] at first

theorem startsAt : StartsAt (Branch.ofProgram program text).toTree text raise image.id := by
  obtain ⟨word, first, found, leaf, opening, -, all⟩ := made.exists_first aligned
  refine ⟨?_, word, first, found, leaf, opening⟩
  obtain ⟨above, lies⟩ := made.lies
  obtain ⟨token, present, type, value, opens⟩ := aligned.keyword raise made.raises
  have listed := List.mem_map_of_mem (f := some) (all token present opens)
  rw [← Branch.map_token?_toTree lies (Branch.tokensAreLeaves_ofProgram program text),
    List.mem_map] at listed
  obtain ⟨own, among, known⟩ := listed
  exact ⟨own, among, token, known, type, value, (Span.opens_iff.mp opens).1⟩

theorem issueAt_eq : issueAt (Branch.ofProgram program text).toTree filePath image.id =
    issueOn filePath (text.span raise.span).start := by
  obtain ⟨word, token, found, leaf, opening, -⟩ := made.exists_first aligned
  rw [BareRaise.issueAt_eq found leaf, (Span.opens_iff.mp (List.find?_some opening)).1]

end IsImage

namespace Aligned

variable (aligned : Aligned program text)
include aligned

/-- The nodes of the statements come in their order. -/
theorem isImage : List.Forall₂ (IsImage program text) (raises program)
    (imagesInAll program.body ((Branch.ofProgram program text).whole.playing .statement)) := by
  have slots : List.Forall₂ _ _ (Branch.ofProgram program text).whole.slotted :=
    Placed.spans_slotted aligned.ordered aligned.sideBySide aligned.enclosed (.refl _)
      (fun _ _ _ present _ => present) rfl
  have parts := Placed.inRole_of_slotted slots (.refl _) (some .statement)
  have paired : Paired _ text _ _ :=
    related_imagesInAll (Placed.passesDown_spans aligned.ordered) program.body _
      (by simpa using parts)
  refine Lists.imp_of_mem paired fun raise raised image among spans => ⟨raised, ?_, spans⟩
  exact Placed.exists_lies_of_mem_raises ((imagesInAll_perm_whole program text).mem_iff.mp among)

/-- Every `raise` node of the tree is the node of a statement. -/
theorem exists_isImage (member : image ∈ (Branch.ofProgram program text).whole.raises) :
    ∃ raise, IsImage program text raise image := by
  obtain ⟨raise, -, made⟩ := Lists.exists_left aligned.isImage
    ((imagesInAll_perm_whole program text).mem_iff.mpr member)
  exact ⟨raise, made⟩

/-- What a `raise` node has comes in the stream before what a later one has. -/
theorem pairwise_tokens : (Branch.ofProgram program text).whole.raises.Pairwise fun left right =>
    ∀ token ∈ left.branch.tokens, ∀ other ∈ right.branch.tokens,
      token.index < other.index ∧ other.start.before token.start = false := by
  have whole : (Branch.ofProgram program text).whole.branch.tokens = text.tokens :=
    Branch.allTokens_ofParts _ _
  have follow := Placed.sublist_tokens_raises (completes_whole program text)
    (Draft.shaped_ofProgram program text)
  rw [whole] at follow
  have both := (aligned.ordered.increasing.and aligned.ordered.inOrder).sublist follow
  exact (List.pairwise_flatMap.mp both).2

/-- **One after the other.** Two `raise` nodes of the tree start at different places, the one that
the walk meets first at the earlier one. -/
theorem increasing_raises : (Branch.ofProgram program text).whole.raises.Pairwise fun left right =>
    ∃ start next, start.before next = true ∧
      issueAt (Branch.ofProgram program text).toTree filePath left.id = issueOn filePath start ∧
      issueAt (Branch.ofProgram program text).toTree filePath right.id = issueOn filePath next := by
  refine aligned.pairwise_tokens.imp_of_mem fun {left right} inLeft inRight follow => ?_
  obtain ⟨earlier, made⟩ := aligned.exists_isImage inLeft
  obtain ⟨later, made'⟩ := aligned.exists_isImage inRight
  refine ⟨_, _, ?_, made.issueAt_eq aligned, made'.issueAt_eq aligned⟩
  obtain ⟨-, token, -, -, opening, own, all⟩ := made.exists_first aligned
  obtain ⟨-, other, -, -, opening', own', -⟩ := made'.exists_first aligned
  obtain ⟨starts, -⟩ := Span.opens_iff.mp (List.find?_some opening)
  obtain ⟨starts', wide⟩ := Span.opens_iff.mp (List.find?_some opening')
  by_contra late
  -- both start at one place, so that the earlier one has the first token of the later one as well
  have same : other.start = token.start := by
    apply Position.eq_of_not_before (follow token own other own').2
    rw [starts, starts']
    exact Bool.eq_false_iff.mpr late
  have opens : (text.span earlier.span).opens other = true :=
    Span.opens_iff.mpr ⟨same.trans starts, wide⟩
  have taken := all other (List.mem_of_find?_eq_some opening') opens
  exact Nat.lt_irrefl _ (follow other taken other own').1

/-- A node is reported at the start of its statement. -/
theorem issueAt_images : List.Forall₂ (fun raise node =>
    issueAt (Branch.ofProgram program text).toTree filePath node =
      issueOn filePath (text.span raise.span).start) (raises program) (images program text) :=
  List.forall₂_map_right_iff.mpr (aligned.isImage.imp fun _ _ made => made.issueAt_eq aligned)

theorem map_issueAt_raised :
    (raised program text).map (issueAt (Branch.ofProgram program text).toTree filePath) =
      (offending program).map fun raise => issueOn filePath (text.span raise.span).start :=
  (Lists.map_eq (Lists.filter_zip FoundRaise.reports (found program) aligned.issueAt_images)
    fun _ _ same => same.symm).symm

end Aligned

/-- The walk meets what is reported among the `raise` nodes, in their order. -/
theorem filter_walk_raised (named : (Branch.ofProgram program text).toTree.FunctionsNamed) :
    let tree := (Branch.ofProgram program text).toTree
    (tree.walk tree.root).filter (· ∈ raised program text) =
      ((Branch.ofProgram program text).whole.raises.map (·.id)).filter
        (· ∈ raised program text) := by
  intro tree
  rw [← filter_walk_eq, List.filter_filter]
  refine List.filter_congr fun node _ => ?_
  by_cases member : node ∈ raised program text
  · have raises := List.of_mem_filter
      ((images_perm program text).mem_iff.mp ((raised_sublist named).subset member))
    simp [member, of_decide_eq_true raises]
  · simp [member]

/-- **No finding is lost.** Where the spans of a program lie in each other, functions have their
names and every `raise` statement starts with its word, the node of each `raise` statement starts
where this word stands. A scan finds one issue for every statement that a descent reports, at its
word, and finds them in the order of their places, no two at one place; so their keys are distinct,
and the gate lets all of them through. -/
theorem scan_of_aligned (aligned : Aligned program text)
    (named : (Branch.ofProgram program text).toTree.FunctionsNamed) (filePath : String) :
    let tree := (Branch.ofProgram program text).toTree
    List.Forall₂ (StartsAt tree text) (raises program) (images program text) ∧
      ∃ issues, (Dispatcher.ofChecks defaultChecks).scan tree filePath = .ok issues ∧
        issues.Perm
          ((offending program).map fun raise => issueOn filePath (text.span raise.span).start) ∧
        (issues.Pairwise fun left right =>
          left.line < right.line ∨ left.line = right.line ∧ left.column < right.column) ∧
        (issues.map Gate.key).Nodup ∧ gate issues none = issues ∧
        issues.length = (offending program).length := by
  intro tree
  have met : ∀ node ∈ raised program text, tree.firstToken node ≠ none := by
    intro node member
    obtain ⟨image, among, rfl⟩ := List.mem_map.mp ((raised_sublist named).subset member)
    obtain ⟨raise, -, made⟩ := Lists.exists_left aligned.isImage among
    obtain ⟨word, -, found, -⟩ := made.exists_first aligned
    rw [found]
    exact Option.some_ne_none word
  obtain ⟨issues, same⟩ : ∃ issues, issues = ((tree.walk tree.root).filter
      (· ∈ raised program text)).map (issueAt tree filePath) := ⟨_, rfl⟩
  have scanned : (Dispatcher.ofChecks defaultChecks).scan tree filePath = .ok issues := by
    rw [same]
    exact scan_eq_of_tokens named met
  have perm : issues.Perm
      ((offending program).map fun raise => issueOn filePath (text.span raise.span).start) := by
    rw [same, ← aligned.map_issueAt_raised]
    exact (filter_walk_perm_raised named).map _
  have ordered : issues.Pairwise fun left right => ∃ start next : Position,
      start.before next = true ∧ left = issueOn filePath start ∧ right = issueOn filePath next := by
    rw [same, filter_walk_raised named]
    exact List.pairwise_map.mpr
      ((List.pairwise_map.mpr aligned.increasing_raises).sublist List.filter_sublist)
  have increasing : Gate.Increasing issues := by
    refine ordered.imp ?_
    rintro _ _ ⟨start, next, earlier, rfl, rfl⟩
    exact place_issueOn_lt earlier
  refine ⟨?_, issues, scanned, perm, ?_, increasing.nodup_keys, increasing.gate_none_eq, ?_⟩
  · exact List.forall₂_map_right_iff.mpr (aligned.isImage.imp fun _ _ made => made.startsAt aligned)
  · refine ordered.imp ?_
    rintro _ _ ⟨start, next, earlier, rfl, rfl⟩
    exact issueOn_before earlier
  · rw [perm.length_eq, List.length_map]

/-- Three bare `raise` statements, the last two of them in one line of a `finally` block. -/
def raisingSource : List Char := "try: raise\nfinally: raise; raise\n".toList

theorem aligned_raisingSource :
    Aligned (.readOrEmpty raisingSource) (.lexOrEmpty raisingSource) where
  ordered := ⟨by decide +kernel, by decide +kernel⟩
  sideBySide := by decide +kernel
  enclosed := fun part member =>
    (Draft.nested_of_nestsAll _ (by decide +kernel) part member).enclosed
  within := by decide +kernel
  keyword := by decide +kernel

/-- Those in the `finally` block are reported, each in its place. -/
theorem scan_raisingSource :
    let program := Program.readOrEmpty raisingSource
    let text := SourceText.lexOrEmpty raisingSource
    let tree := (Branch.ofProgram program text).toTree
    Aligned program text ∧ tree.FunctionsNamed ∧
      ∃ issues, (Dispatcher.ofChecks defaultChecks).scan tree "a.py" = .ok issues ∧
        gate issues none = issues ∧ issues = [issueOn "a.py" ⟨2, 9⟩, issueOn "a.py" ⟨2, 16⟩] := by
  intro program text tree
  have named : tree.FunctionsNamed := by decide +kernel
  obtain ⟨-, issues, scanned, -, -, -, passed, -⟩ :=
    scan_of_aligned aligned_raisingSource named "a.py"
  have found : (Dispatcher.ofChecks defaultChecks).scan tree "a.py" =
      .ok [issueOn "a.py" ⟨2, 9⟩, issueOn "a.py" ⟨2, 16⟩] := by decide +kernel
  exact ⟨aligned_raisingSource, named, issues, scanned, passed,
    Except.ok.inj (scanned.symm.trans found)⟩

end BareRaise

end StructuralLint
