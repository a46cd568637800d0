import StructuralLint.Analysis.Source
import StructuralLint.Proofs.Check.BareRaise
import StructuralLint.Proofs.Symbol.Naming
import StructuralLint.Proofs.Tree.Ownership

/-!
# When an analysis fails

A tree may hold nodes without tokens: spans come from one reading of the source text and tokens from
another, and where the two count lines differently a span may own nothing. The analysis of a text
that can be parsed fails if a `raise` that is to be reported has no token, and for no other reason
(`analyzeSource_of_parse`).
-/

namespace StructuralLint

/-! ### First tokens -/

namespace Tree

variable {tree : Tree}

theorem isToken_of_firstTokenTo {depth : Nat} {node word : NodeId}
    (found : tree.firstTokenTo depth node = some word) : tree.isToken word = true := by
  induction depth generalizing node with
  | zero => simp [firstTokenTo] at found
  | succ depth ih =>
      rw [firstTokenTo] at found
      split at found
      · rename_i token
        rwa [← Option.some.inj found]
      · split at found
        · cases found
        · exact ih found

/-- A token is its own first token. -/
theorem firstToken_of_isToken {word : NodeId} (token : tree.isToken word = true) :
    tree.firstToken word = some word := by
  rw [firstToken, firstTokenTo, if_pos token]

/-- What is found at the first token of a node is found at the node. -/
theorem firstToken_firstToken {node word : NodeId} (found : tree.firstToken node = some word) :
    tree.firstToken word = some word :=
  firstToken_of_isToken (isToken_of_firstTokenTo found)

end Tree

namespace BareRaise

/-- The nodes of the raises that a descent reports. -/
def raised (program : Program) (text : SourceText) : List NodeId :=
  (((found program).zip (images program text)).filter (·.1.reports)).map (·.2)

variable {program : Program} {text : SourceText} {filePath : String} {node : NodeId}

/-- The issue that is reported for a node. -/
def issueAt (tree : Tree) (filePath : String) (node : NodeId) : Issue :=
  Dispatcher.issueOf tree filePath key ⟨node, message⟩

theorem issueAt_firstToken {tree : Tree} {word : NodeId}
    (first : tree.firstToken node = some word) :
    issueAt tree filePath word = issueAt tree filePath node := by
  rw [issueAt, issueAt, Dispatcher.issueOf, Dispatcher.issueOf]
  simp only [first, tree.firstToken_firstToken first]

/-- The default checks have one consumer, for `raise` nodes. -/
theorem issuesAt_default (tree : Tree) (filePath : String) (node : NodeId) :
    (Dispatcher.ofChecks defaultChecks).issuesAt tree filePath node =
      if tree.kind? node = some .raiseStatement then
        (consume tree node).map (·.map (Dispatcher.issueOf tree filePath key))
      else .ok [] := by
  have registered : (Dispatcher.ofChecks defaultChecks).registrations =
    [⟨.raiseStatement, key, fun tree node _ => consume tree node⟩] := rfl
  rw [Dispatcher.issuesAt, registered]
  split
  · rename_i raises
    rw [List.filter_cons_of_pos (by simpa using raises), List.filter_nil]
    simp only [List.mapM_cons, List.mapM_nil]
    cases consume tree node with
    | error error => rfl
    | ok findings => simp [Except.map, bind, Except.bind, pure, Except.pure]
  · rename_i other
    rw [List.filter_cons_of_neg (by simpa using other), List.filter_nil]
    rfl

theorem nodup_walk (program : Program) (text : SourceText) :
    ((Branch.ofProgram program text).toTree.walk
      (Branch.ofProgram program text).toTree.root).Nodup := by
  rw [Branch.root_toTree, Placed.Lies.walk_toTree .root]
  exact Placed.preorder_ids_nodup _

section Scan

variable (named : (Branch.ofProgram program text).toTree.FunctionsNamed)
include named

/-- What a descent reports are nodes of raises, in the order of the descent. -/
theorem raised_sublist : (raised program text).Sublist (images program text) := by
  have zipped := List.map_snd_zip (consume_images program text named).length_eq.ge
  rw [raised]
  conv_rhs => rw [← zipped]
  exact List.filter_sublist.map _

theorem mem_walk_of_mem_raised (member : node ∈ raised program text) :
    node ∈ (Branch.ofProgram program text).toTree.walk
      (Branch.ofProgram program text).toTree.root :=
  List.mem_of_mem_filter
    ((images_perm program text).mem_iff.mp ((raised_sublist named).subset member))

theorem nodup_raised : (raised program text).Nodup :=
  ((images_perm program text).nodup_iff.mpr ((nodup_walk program text).filter _)).sublist
    (raised_sublist named)

/-- A node that a descent reports gives one issue, if it has a token. -/
theorem issuesAt_of_raised (member : node ∈ raised program text) :
    let tree := (Branch.ofProgram program text).toTree
    (Dispatcher.ofChecks defaultChecks).issuesAt tree filePath node =
      match tree.firstToken node with
      | some _ => .ok [issueAt tree filePath node]
      | none => .error .missingPart := by
  intro tree
  obtain ⟨⟨raise, image⟩, among, rfl⟩ := List.mem_map.mp member
  obtain ⟨paired, reports⟩ := List.mem_filter.mp among
  obtain ⟨raises, consumed⟩ :=
    (List.forall₂_iff_zip.mp (consume_images program text named)).2 paired
  rw [issuesAt_default, if_pos raises, consumed, if_pos reports]
  cases first : tree.firstToken image with
  | none => rfl
  | some word => exact congrArg (fun issue => Except.ok [issue]) (issueAt_firstToken first)

/-- The other nodes give no issue. -/
theorem issuesAt_of_not_raised
    (member : node ∈ (Branch.ofProgram program text).toTree.walk
      (Branch.ofProgram program text).toTree.root) (other : node ∉ raised program text) :
    (Dispatcher.ofChecks defaultChecks).issuesAt (Branch.ofProgram program text).toTree filePath
      node = .ok [] := by
  rw [issuesAt_default]
  split
  · rename_i raises
    have consumed := List.forall₂_iff_zip.mp (consume_images program text named)
    have listed : node ∈ images program text :=
      (images_perm program text).mem_iff.mpr (List.mem_filter.mpr ⟨member, by simpa using raises⟩)
    rw [← List.map_snd_zip consumed.1.ge] at listed
    obtain ⟨⟨raise, image⟩, paired, rfl⟩ := List.mem_map.mp listed
    have silent : raise.reports = false := by
      refine Bool.eq_false_iff.mpr fun reports => other ?_
      exact List.mem_map.mpr ⟨_, List.mem_filter.mpr ⟨paired, reports⟩, rfl⟩
    rw [(consumed.2 paired).2, silent]
    rfl
  · rfl

/-- A scan in which every node that a descent reports has a token gives their issues in the order of
the walk. -/
theorem scan_eq_of_tokens
    (met : ∀ node ∈ raised program text,
      (Branch.ofProgram program text).toTree.firstToken node ≠ none) :
    let tree := (Branch.ofProgram program text).toTree
    (Dispatcher.ofChecks defaultChecks).scan tree filePath =
      .ok (((tree.walk tree.root).filter (· ∈ raised program text)).map
        (issueAt tree filePath)) := by
  intro tree
  have each : ∀ node ∈ tree.walk tree.root,
      (Dispatcher.ofChecks defaultChecks).issuesAt tree filePath node =
        .ok (if node ∈ raised program text then [issueAt tree filePath node] else []) := by
    intro node member
    split
    · rename_i raises
      rw [issuesAt_of_raised named raises]
      cases first : tree.firstToken node with
      | none => exact absurd first (met node raises)
      | some word => rfl
    · rename_i other
      exact issuesAt_of_not_raised named member other
  rw [Dispatcher.scan, Lists.mapM_eq_ok each]
  refine congrArg Except.ok ?_
  induction tree.walk tree.root with
  | nil => rfl
  | cons node rest ih =>
      rw [List.map_cons, List.flatten_cons, ih, List.filter_cons]
      split <;> simp_all

/-- What a descent reports is met by the walk, in whatever order. -/
theorem filter_walk_perm_raised :
    let tree := (Branch.ofProgram program text).toTree
    ((tree.walk tree.root).filter (· ∈ raised program text)).Perm (raised program text) := by
  intro tree
  refine (List.perm_ext_iff_of_nodup ?_ (nodup_raised named)).mpr fun node => ?_
  · exact (nodup_walk program text).filter _
  · rw [List.mem_filter, decide_eq_true_eq, and_iff_right_iff_imp]
    exact mem_walk_of_mem_raised named

/-- The issues of a scan in which every node that a descent reports has a token. -/
theorem scan_of_tokens
    (met : ∀ node ∈ raised program text,
      (Branch.ofProgram program text).toTree.firstToken node ≠ none) :
    let tree := (Branch.ofProgram program text).toTree
    ∃ issues, (Dispatcher.ofChecks defaultChecks).scan tree filePath = .ok issues ∧
      issues.Perm ((raised program text).map (issueAt tree filePath)) :=
  ⟨_, scan_eq_of_tokens named met, (filter_walk_perm_raised named).map _⟩

/-- A scan fails where a node that a descent reports has no token. -/
theorem scan_of_missing (member : node ∈ raised program text)
    (none : (Branch.ofProgram program text).toTree.firstToken node = none) :
    (Dispatcher.ofChecks defaultChecks).scan (Branch.ofProgram program text).toTree filePath =
      .error .missingPart := by
  rw [Dispatcher.scan, Lists.mapM_eq_error ⟨node, mem_walk_of_mem_raised named member, ?_⟩
    fun _ _ other _ => by cases other; rfl]
  · rfl
  · rw [issuesAt_of_raised named member, none]

end Scan

/-! ### Where positions meet -/

/-- The two readings of a source text meet: the spans of the program are nested in the tokens. -/
structure Meets (program : Program) (text : SourceText) : Prop where
  ordered : Token.IsStream text.tokens
  sideBySide : Draft.SideBySide (Draft.ofProgram program text).parts
  nested : ∀ part ∈ (Draft.ofProgram program text).parts, part.2.Nested text.tokens

/-- Where the readings meet, every node below the root has a first token. -/
theorem Meets.firstToken_ne_none (meets : Meets program text) {id : NodeId}
    (inside : id < (Branch.ofProgram program text).toTree.nodes.size)
    (inner : (Branch.ofProgram program text).toTree.isToken id = false)
    (other : id ≠ (Branch.ofProgram program text).toTree.root) :
    (Branch.ofProgram program text).toTree.firstToken id ≠ none := by
  have leaves := Branch.tokensAreLeaves_ofProgram program text
  have top : Placed.Filled text.tokens text.tokens (Draft.ofProgram program text)
      (Branch.ofProgram program text).whole :=
    .of_sideBySide meets.ordered meets.sideBySide meets.nested rfl _
  rw [Branch.size_toTree] at inside
  obtain ⟨placed, outer, lies, rfl⟩ := Branch.exists_lies _ inside
  rw [lies.isToken_toTree leaves] at inner
  obtain ⟨part, places⟩ := Tree.Places.exists_of_lies meets.ordered leaves top lies inner
  obtain ⟨first, token, found, -⟩ := (places.owns meets.ordered leaves top (by
    rintro none
    rw [List.map_eq_nil_iff.mp none] at lies
    cases lies
    exact other (Branch.root_toTree _).symm)).opening
  rw [found]
  exact Option.some_ne_none first

/-- What is reported is a node below the root and no token. -/
theorem inner_of_mem_raised (named : (Branch.ofProgram program text).toTree.FunctionsNamed)
    (member : node ∈ raised program text) :
    let tree := (Branch.ofProgram program text).toTree
    node < tree.nodes.size ∧ tree.isToken node = false ∧ node ≠ tree.root := by
  intro tree
  obtain ⟨placed, above, lies, rfl⟩ :=
    Branch.mem_walk_toTree.mp (mem_walk_of_mem_raised named member)
  have raises := List.of_mem_filter
    ((images_perm program text).mem_iff.mp ((raised_sublist named).subset member))
  rw [decide_eq_true_eq, Tree.kind?, lies.form?_toTree, Option.map_some, Option.some.injEq]
    at raises
  refine ⟨?_, ?_, fun same => ?_⟩
  · rw [Branch.size_toTree]
    exact lies.id_lt_size
  · rw [Tree.isToken, Tree.token?, lies.form?_toTree]
    cases form : placed.form with
    | token token =>
        rw [form] at raises
        cases raises
    | _ => rfl
  · rw [lies.eq_of_id .root (same.trans (Branch.root_toTree _)), form_whole] at raises
    cases raises

end BareRaise

/-- The children of a name are tokens. -/
theorem isToken_of_mem_children_name {branch : Branch} (sound : branch.Sound) {id child : NodeId}
    {text : String} {binds : Bool} (form : branch.toTree.form? id = some (.name text binds))
    (member : child ∈ branch.toTree.children id) : branch.toTree.isToken child = true := by
  obtain ⟨inner, found, ⟨token, rfl⟩ | ⟨role, admitted⟩⟩ :=
    Branch.form?_of_mem_children sound form member
  · rw [Tree.isToken, Tree.token?, found]
    rfl
  · -- a name has no parts
    cases Form.mem_partRoles admitted

/-- In a text that can be parsed with symbols every function has a name. -/
theorem functionsNamed_of_parse {source : List Char} {parsed : ParsedSource}
    (read : parse source true = .ok parsed) : parsed.tree.FunctionsNamed := by
  obtain ⟨program, tokens, -, same, symbols⟩ := exists_program_of_parse read
  have found := symbols rfl
  rw [SymbolTable.ofTree, same, Option.map_eq_some_iff] at found
  obtain ⟨table, collected, -⟩ := found
  rw [same]
  exact ScopeTable.functionsNamed_of_collect (Branch.sound_ofProgram program _)
    BareRaise.form_whole collected

/-- **When an analysis fails.** A name may have any number of tokens, also none, but nothing else
below it. The analysis of a text that can be parsed with symbols fails if and only if a `raise` that
a descent reports has no token; otherwise it gives one issue for each of them. Where the spans of
the program are nested in the token stream, every node below the root has a first token, and the
analysis succeeds. -/
theorem analyzeSource_of_parse {source : List Char} {parsed : ParsedSource}
    (read : parse source true = .ok parsed) (filePath : String) :
    ∃ program tokens, Program.read source = .ok program ∧ lex source = .ok tokens ∧
      let tree := parsed.tree
      let raised := BareRaise.raised program (.ofTokens source tokens)
      (∀ id text binds, tree.form? id = some (.name text binds) →
        ∀ child ∈ tree.children id, tree.isToken child = true) ∧
      (∀ error, analyzeSource source filePath = .error error ↔
        error = .check .missingPart ∧ ∃ node ∈ raised, tree.firstToken node = none) ∧
      (∀ issues, analyzeSource source filePath = .ok issues →
        issues.Perm (raised.map (BareRaise.issueAt tree filePath))) ∧
      (BareRaise.Meets program (.ofTokens source tokens) →
        (∀ id < tree.nodes.size, tree.isToken id = false → id ≠ tree.root →
          tree.firstToken id ≠ none) ∧
        ∃ issues, analyzeSource source filePath = .ok issues) := by
  obtain ⟨program, tokens, known, lexed, same, symbols⟩ := exists_read_of_parse read
  have named := functionsNamed_of_parse read
  refine ⟨program, tokens, known, lexed, ?_⟩
  rw [same] at named ⊢
  intro tree raised
  -- a scan has two outcomes, and which one it is depends on the tokens of what is reported
  have failure (missing : ∃ node ∈ raised, tree.firstToken node = none) :
      analyzeSource source filePath = .error (.check .missingPart) := by
    obtain ⟨node, member, none⟩ := missing
    rw [analyzeSource, analyzeSourceWith, read]
    simp only [same, BareRaise.scan_of_missing named member none]
  have success (met : ¬∃ node ∈ raised, tree.firstToken node = none) :
      ∃ issues, analyzeSource source filePath = .ok issues ∧
        issues.Perm (raised.map (BareRaise.issueAt tree filePath)) := by
    obtain ⟨issues, scanned, perm⟩ := BareRaise.scan_of_tokens named
      (fun node member none => met ⟨node, member, none⟩)
    refine ⟨issues, ?_, perm⟩
    rw [analyzeSource, analyzeSourceWith, read]
    simp only [same, scanned]
  refine ⟨fun id text binds form child => ?_, fun error => ?_, fun issues found => ?_,
    fun meets => ?_⟩
  · exact isToken_of_mem_children_name (Branch.sound_ofProgram program _) form
  · constructor
    · intro failed
      by_cases missing : ∃ node ∈ raised, tree.firstToken node = none
      · rw [failure missing] at failed
        cases failed
        exact ⟨rfl, missing⟩
      · obtain ⟨issues, found, -⟩ := success missing
        rw [found] at failed
        cases failed
    · rintro ⟨rfl, missing⟩
      exact failure missing
  · by_cases missing : ∃ node ∈ raised, tree.firstToken node = none
    · rw [failure missing] at found
      cases found
    · obtain ⟨others, found', perm⟩ := success missing
      rw [found'] at found
      cases found
      exact perm
  · have met : ∀ id < tree.nodes.size, tree.isToken id = false → id ≠ tree.root →
        tree.firstToken id ≠ none := fun id inside inner other =>
      meets.firstToken_ne_none inside inner other
    refine ⟨met, ?_⟩
    obtain ⟨issues, found, -⟩ := success <| by
      rintro ⟨node, member, none⟩
      obtain ⟨inside, inner, other⟩ := BareRaise.inner_of_mem_raised named member
      exact met node inside inner other none
    exact ⟨issues, found⟩

/-- A bare `raise` in a `finally` block, with lines that end in carriage returns. A token stream has
all of it in one line. -/
def carriageSource : List Char := "try:\r  y\rfinally: raise\r".toList

/-- Whether the tree of a source text has a name without tokens. -/
def hasBareName (source : List Char) (text : String) : Bool :=
  match parse source true with
  | .ok parsed => (parsed.tree.walk parsed.tree.root).any fun id =>
      parsed.tree.form? id = some (.name text false) && (parsed.tree.children id).isEmpty
  | .error _ => false

/-- The name has no token, and the analysis fails for want of a place to report. -/
theorem analyzeSource_carriageSource :
    hasBareName carriageSource "y" = true ∧
      ∃ parsed, parse carriageSource true = .ok parsed ∧
        ∃ program tokens, Program.read carriageSource = .ok program ∧
          lex carriageSource = .ok tokens ∧
          analyzeSource carriageSource "<string>" = .error (.check .missingPart) ∧
          ∃ node ∈ BareRaise.raised program (.ofTokens carriageSource tokens),
            parsed.tree.firstToken node = none := by
  obtain ⟨parsed, read⟩ := exists_parsed_of_isOk
    (show (parse carriageSource true).isOk = true by decide +kernel)
  have failed : analyzeSource carriageSource "<string>" = .error (.check .missingPart) := by
    decide +kernel
  obtain ⟨program, tokens, known, lexed, -, fails, -⟩ := analyzeSource_of_parse read "<string>"
  exact ⟨by decide +kernel, parsed, read, program, tokens, known, lexed, failed,
    ((fails _).mp failed).2⟩

/-- The statement in two lines that end in line feeds. -/
def lineFeedSource : List Char := "try: pass\nfinally: raise\n".toList

/-- With line feeds the two readings meet. -/
example : BareRaise.Meets (.readOrEmpty lineFeedSource) (.lexOrEmpty lineFeedSource) where
  ordered := ⟨by decide +kernel, by decide +kernel⟩
  sideBySide := by decide +kernel
  nested := Draft.nested_of_nestsAll _ (by decide +kernel)

end StructuralLint
