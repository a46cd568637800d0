import StructuralLint.Proofs.Tree.Shape

/-!
# What drafts of programs look like

Every expression, pattern and statement becomes a draft that stands by itself and has its shape
all the way down (`Draft.calm_ofExpr`, `Draft.calm_ofPattern`, `Draft.free_ofStmt`). The proofs
follow the functions that make the drafts, one case for each form of the program.
-/

namespace StructuralLint

open Program

namespace Draft

/-! ### One node -/

section node

variable {form : Form} {span : Span} {fields : Fields}
  {given : List (Option Role × Draft)}

theorem shaped_ofSpan (proper : form.isProper = true) (admitted : Admitted form given)
    (agrees : fields.Agrees (roles given)) : (ofSpan form span fields given).Shaped :=
  .of_given (arrange_perm given) proper admitted agrees

theorem shaped_ofParts {first : Option Role × Draft} (proper : form.isProper = true)
    (admitted : Admitted form (first :: given))
    (agrees : fields.Agrees (roles (first :: given))) :
    (ofParts form fields first given).Shaped :=
  .of_given (arrange_perm (first :: given)) proper admitted agrees

@[simp]
theorem form_ofSpan : (ofSpan form span fields given).form = form := rfl

@[simp]
theorem form_ofParts {first : Option Role × Draft} :
    (ofParts form fields first given).form = form := rfl

@[simp]
theorem isNode_ofSpan : (ofSpan form span fields given).isNode = true := rfl

@[simp]
theorem isNode_ofParts {first : Option Role × Draft} :
    (ofParts form fields first given).isNode = true := rfl

end node

section plain

variable {kind : Kind} {span : Span} {first : Draft} {drafts : List Draft}

theorem shaped_plain (other : kind.hasForm = false)
    (admitted : Admitted (.plain kind) (plain drafts)) :
    (ofSpan (.plain kind) span .empty (plain drafts)).Shaped := by
  refine shaped_ofSpan ?_ admitted (.empty (by simp))
  simp [Form.isProper, other]

theorem shaped_plain_ofParts (other : kind.hasForm = false)
    (admitted : Admitted (.plain kind) (plain (first :: drafts))) :
    (ofParts (.plain kind) .empty (none, first) (plain drafts)).Shaped := by
  refine shaped_ofParts ?_ admitted (.empty (by simp))
  simp [Form.isProper, other]

/-- A node that is no more than its kind and its parts stands by itself. -/
theorem calm_plain (other : kind.hasForm = false) (single : kind.isBlock = false)
    (calm : ∀ draft ∈ drafts, draft.Calm) :
    (ofSpan (.plain kind) span .empty (plain drafts)).Calm where
  shaped := shaped_plain other (admitted_plain_calm calm)
  isNode := rfl
  isFree := by simp [Form.isFree, other]
  isCalm := by simp [Form.isCalm, other, single]

/-- The same for a node that covers its parts and nothing else. -/
theorem calm_plain_ofParts (other : kind.hasForm = false) (single : kind.isBlock = false)
    (calm : ∀ draft ∈ first :: drafts, draft.Calm) :
    (ofParts (.plain kind) .empty (none, first) (plain drafts)).Calm where
  shaped := shaped_plain_ofParts other (admitted_plain_calm calm)
  isNode := rfl
  isFree := by simp [Form.isFree, other]
  isCalm := by simp [Form.isCalm, other, single]

theorem free_block (other : kind.hasForm = false) (block : kind.isBlock = true)
    (free : ∀ draft ∈ drafts, draft.Free) :
    (ofSpan (.plain kind) span .empty (plain drafts)).Free where
  shaped := shaped_plain other (admitted_plain_free block free)
  isNode := rfl
  isFree := by simp [Form.isFree, other]

theorem free_block_ofParts (other : kind.hasForm = false) (block : kind.isBlock = true)
    (free : ∀ draft ∈ first :: drafts, draft.Free) :
    (ofParts (.plain kind) .empty (none, first) (plain drafts)).Free where
  shaped := shaped_plain_ofParts other (admitted_plain_free block free)
  isNode := rfl
  isFree := by simp [Form.isFree, other]

end plain

theorem shaped_ofName (text : String) (binds : Bool) (token : Token) :
    (ofName text binds token).Shaped := by
  exact shaped_ofParts rfl (admitted_leaves _ [token]) (.empty (by simp [roles]))

theorem calm_ofName (text : String) (binds : Bool) (token : Token) :
    (ofName text binds token).Calm :=
  ⟨⟨shaped_ofName text binds token, rfl, rfl⟩, rfl⟩

theorem calm_of_mem_toList {item : Option Draft} (calm : ∀ draft, item = some draft → draft.Calm) :
    ∀ draft ∈ item.toList, draft.Calm := by
  intro draft member
  exact calm draft (by simpa using member)

/-! ### Parameters -/

variable (text : SourceText)

/-- What a parameter says about its type is an expression. -/
def HintCalm (parameter : Parameter Draft) : Prop :=
  ∀ hint, parameter.hint = some hint → hint.Calm

/-- The drafts in a signature stand by themselves. -/
structure SignatureCalm (parameters : Parameters Draft) : Prop where
  positionalOnly : ∀ parameter ∈ parameters.positionalOnly, HintCalm parameter
  regular : ∀ parameter ∈ parameters.regular, HintCalm parameter
  defaults : ∀ draft ∈ parameters.defaults, draft.Calm
  rest : ∀ parameter, parameters.rest = some parameter → HintCalm parameter
  keywordOnly : ∀ parameter ∈ parameters.keywordOnly, HintCalm parameter
  keywordDefaults : ∀ draft, some draft ∈ parameters.keywordDefaults → draft.Calm
  keywordRest : ∀ parameter, parameters.keywordRest = some parameter → HintCalm parameter

/-- The draft is an entry of a parameter list. -/
structure IsEntry (draft : Draft) : Prop where
  shaped : draft.Shaped
  isNode : draft.isNode = true
  form : draft.form = .parameter

theorem isEntry_ofParameter (starred : Bool) {parameter : Parameter Draft}
    {default : Option Draft} (hint : HintCalm parameter)
    (calm : ∀ draft, default = some draft → draft.Calm) :
    (ofParameter text starred parameter default).IsEntry where
  shaped := by
    refine shaped_ofSpan rfl ?_ (.of (fun role => ?_) ?_)
    · refine (((admitted_leaves _ _).append (admitted_playing ?_)).append
        (admitted_playing_calm (calm_of_mem_toList hint))).append
          (admitted_playing_calm (calm_of_mem_toList calm))
      intro draft member
      rw [Option.mem_toList, Option.map_eq_some_iff] at member
      obtain ⟨token, -, rfl⟩ := member
      exact ⟨shaped_ofName _ _ token, rfl⟩
    · simp [Fields.of, List.count_replicate]
    · intro mark member
      obtain ⟨star, -, rfl⟩ := List.mem_map.mp member
      rfl
  isNode := rfl
  form := rfl

theorem isEntry_ofMarker (sign : Token) : (ofMarker sign).IsEntry where
  shaped := by
    refine shaped_ofParts rfl (admitted_leaves _ [sign]) ⟨fun mark member => ?_, fun role => ?_,
      fun role _ => Nat.zero_le 1⟩
    · rw [List.mem_singleton.mp member]
      rfl
    · simp [roles]
  isNode := rfl
  form := rfl

theorem isEntry_ofParameters {parameters : List (Parameter Draft)} {defaults : List (Option Draft)}
    (hints : ∀ parameter ∈ parameters, HintCalm parameter)
    (calm : ∀ draft, some draft ∈ defaults → draft.Calm) :
    ∀ draft ∈ ofParameters text parameters defaults, draft.IsEntry := by
  intro draft member
  obtain ⟨place, bound, rfl⟩ := List.mem_iff_getElem.mp member
  simp only [ofParameters, List.getElem_zipWith]
  apply isEntry_ofParameter text false (hints _ (List.getElem_mem _))
  intro draft given
  exact calm draft (given ▸ List.getElem_mem _)

theorem isEntry_withMarker {start : Position} {sign : String} {entries : List Draft}
    (each : ∀ draft ∈ entries, draft.IsEntry) :
    ∀ draft ∈ withMarker text start sign entries, draft.IsEntry := by
  intro draft member
  rcases List.mem_append.mp member with member | member
  · exact each draft member
  · rw [Option.mem_toList, Option.map_eq_some_iff] at member
    obtain ⟨token, -, rfl⟩ := member
    exact isEntry_ofMarker token

theorem isEntry_signatureEntries {parameters : Parameters Draft} (calm : SignatureCalm parameters)
    (start : Position) : ∀ draft ∈ signatureEntries text parameters start, draft.IsEntry := by
  have defaults : ∀ draft, some draft ∈
      List.replicate (parameters.positionalOnly.length + parameters.regular.length -
        parameters.defaults.length) none ++ parameters.defaults.map some → draft.Calm := by
    intro draft member
    rcases List.mem_append.mp member with member | member
    · exact absurd (List.eq_of_mem_replicate member) (by simp)
    · exact calm.defaults draft (by simpa using member)
  intro draft member
  simp only [signatureEntries] at member
  generalize List.replicate _ none ++ _ = given at defaults member
  -- the leading part, with its marker or without
  have leading : ∀ entry ∈ ofParameters text parameters.positionalOnly
      (given.take parameters.positionalOnly.length), entry.IsEntry :=
    isEntry_ofParameters text calm.positionalOnly fun draft member =>
      defaults draft (List.mem_of_mem_take member)
  have marked : ∀ entry ∈ (if (ofParameters text parameters.positionalOnly
        (given.take parameters.positionalOnly.length)).isEmpty then
      ofParameters text parameters.positionalOnly (given.take parameters.positionalOnly.length)
      else withMarker text start "/" (ofParameters text parameters.positionalOnly
        (given.take parameters.positionalOnly.length))), entry.IsEntry := by
    split
    · exact leading
    · exact isEntry_withMarker text leading
  generalize (if (ofParameters text parameters.positionalOnly
    (given.take parameters.positionalOnly.length)).isEmpty then _ else _) = front at marked member
  have regular : ∀ entry ∈ front ++ ofParameters text parameters.regular
      (given.drop parameters.positionalOnly.length), entry.IsEntry := by
    intro entry member
    rcases List.mem_append.mp member with member | member
    · exact marked entry member
    · exact isEntry_ofParameters text calm.regular
        (fun draft member => defaults draft (List.mem_of_mem_drop member)) entry member
  rcases List.mem_append.mp member with member | member
  · rcases List.mem_append.mp member with member | member
    · split at member
      · rename_i rest present
        rcases List.mem_append.mp member with member | member
        · exact regular draft member
        · rw [List.mem_singleton.mp member]
          exact isEntry_ofParameter text true (calm.rest rest present) (by simp)
      · split at member
        · exact regular draft member
        · exact isEntry_withMarker text regular draft member
    · exact isEntry_ofParameters text calm.keywordOnly calm.keywordDefaults draft member
  · rw [List.mem_map] at member
    obtain ⟨rest, present, rfl⟩ := member
    exact isEntry_ofParameter text true (calm.keywordRest rest (by simpa using present)) (by simp)

/-- The parameter list of a signature. -/
theorem shaped_ofSignature {parameters : Parameters Draft} (calm : SignatureCalm parameters)
    (start : Position) : ∀ draft, ofSignature text parameters start = some draft →
      draft.Shaped ∧ draft.isNode = true ∧ draft.form = .parameterList := by
  intro draft made
  have entries := isEntry_signatureEntries text calm start
  have admitted : Admitted .parameterList
    (playing .entry (signatureEntries text parameters start)) :=
    admitted_playing fun draft member =>
      ⟨(entries draft member).shaped, by simp [Form.admits, (entries draft member).form]⟩
  have kinds := roles_playing .entry (signatureEntries text parameters start)
  unfold ofSignature at made
  dsimp only at made
  split at made
  · simp at made
  · rename_i first rest given
    cases made
    rw [given] at admitted kinds
    refine ⟨shaped_ofParts rfl admitted (.of fun role => ?_), rfl, rfl⟩
    rw [kinds]
    simp [Fields.of, List.count_replicate]

/-! ### Expressions -/

mutual

theorem calm_ofExpr : ∀ expr : Expr, (ofExpr text expr).Calm
  | .name span id use => by
    rw [ofExpr]
    exact ⟨⟨shaped_ofSpan rfl (admitted_leaves _ _) (.empty (by simp)), rfl, rfl⟩, rfl⟩
  | .literal _ | .text _ _ | .interpolated _ => by
    rw [ofExpr]
    exact @calm_plain _ _ [] rfl rfl (by simp)
  | .member _ object _ => by
    rw [ofExpr]
    apply calm_plain rfl rfl
    intro draft member
    rw [List.mem_singleton.mp member]
    exact calm_ofExpr object
  | .lambda span parameters body => by
    rw [ofExpr]
    refine ⟨⟨shaped_ofSpan rfl (Admitted.append ?_ (admitted_playing_calm ?_))
      (.of fun role => ?_), rfl, rfl⟩, rfl⟩
    · apply admitted_playing
      intro draft member
      obtain ⟨shaped, -, form⟩ := shaped_ofSignature text (calm_ofParametersOf parameters) _ draft
        (by simpa using member)
      exact ⟨shaped, by simp [Form.admits, form]⟩
    · intro draft member
      rw [List.mem_singleton.mp member]
      exact calm_ofExpr body
    · simp [Fields.of, List.count_cons, List.count_replicate]
  | .comprehension _ collection elements clauses => by
    rw [ofExpr]
    apply calm_plain (by cases collection <;> rfl) (by cases collection <;> rfl)
    intro draft member
    rcases List.mem_append.mp member with member | member
    · exact calm_ofExprs elements draft member
    · exact calm_ofClauses clauses draft member
  | .compound _ form parts => by
    rw [ofExpr]
    exact calm_plain (by cases form <;> rfl) (by cases form <;> rfl) (calm_ofExprs parts)

theorem calm_ofExprs : ∀ exprs : List Expr, ∀ draft ∈ ofExprs text exprs, draft.Calm
  | [] => by simp [ofExprs]
  | expr :: rest => by
    intro draft member
    rcases List.mem_cons.mp member with rfl | member
    · exact calm_ofExpr expr
    · exact calm_ofExprs rest draft member

theorem calm_ofExpr? : ∀ expr : Option Expr, ∀ draft, ofExpr? text expr = some draft → draft.Calm
  | none => by simp [ofExpr?]
  | some expr => by
    intro draft made
    cases made
    exact calm_ofExpr expr

theorem calm_ofExprs? : ∀ exprs : List (Option Expr),
    ∀ draft, some draft ∈ ofExprs? text exprs → draft.Calm
  | [] => by simp [ofExprs?]
  | expr :: rest => by
    intro draft member
    rcases List.mem_cons.mp member with same | member
    · exact calm_ofExpr? expr draft same.symm
    · exact calm_ofExprs? rest draft member

theorem hintCalm_ofParameterOf : ∀ parameter : Parameter Expr,
    HintCalm (ofParameterOf text parameter)
  | ⟨_, _, hint⟩ => calm_ofExpr? hint

theorem hintCalm_ofParameterListOf : ∀ parameters : List (Parameter Expr),
    ∀ parameter ∈ ofParameterListOf text parameters, HintCalm parameter
  | [] => by simp [ofParameterListOf]
  | parameter :: rest => by
    intro other member
    rcases List.mem_cons.mp member with rfl | member
    · exact hintCalm_ofParameterOf parameter
    · exact hintCalm_ofParameterListOf rest other member

theorem hintCalm_ofParameterOf? : ∀ parameter : Option (Parameter Expr),
    ∀ draft, ofParameterOf? text parameter = some draft → HintCalm draft
  | none => by simp [ofParameterOf?]
  | some parameter => by
    intro draft made
    cases made
    exact hintCalm_ofParameterOf parameter

theorem calm_ofParametersOf : ∀ parameters : Parameters Expr,
    SignatureCalm (ofParametersOf text parameters)
  | ⟨positionalOnly, regular, defaults, rest, keywordOnly, keywordDefaults, keywordRest⟩ =>
    { positionalOnly := hintCalm_ofParameterListOf positionalOnly
      regular := hintCalm_ofParameterListOf regular
      defaults := calm_ofExprs defaults
      rest := hintCalm_ofParameterOf? rest
      keywordOnly := hintCalm_ofParameterListOf keywordOnly
      keywordDefaults := calm_ofExprs? keywordDefaults
      keywordRest := hintCalm_ofParameterOf? keywordRest }

theorem calm_ofClauses : ∀ clauses : List Clause, ∀ draft ∈ ofClauses text clauses, draft.Calm
  | [] => by simp [ofClauses]
  | .mk target iterable conditions :: rest => by
    intro draft member
    rcases List.mem_cons.mp member with rfl | member
    · apply calm_plain_ofParts rfl rfl
      intro draft member
      rcases List.mem_cons.mp member with rfl | member
      · exact calm_ofExpr target
      · rcases List.mem_cons.mp member with rfl | member
        · exact calm_ofExpr iterable
        · exact calm_ofExprs conditions draft member
    · exact calm_ofClauses rest draft member

end

/-! ### Patterns -/

mutual

theorem calm_ofPattern : ∀ pattern : Pattern, (ofPattern text pattern).Calm
  | .value _ value => by
    rw [ofPattern]
    apply calm_plain rfl rfl
    intro draft member
    rw [List.mem_singleton.mp member]
    exact calm_ofExpr text value
  | .singleton _ | .star _ _ | .capture _ _ => by
    rw [ofPattern]
    exact @calm_plain _ _ [] rfl rfl (by simp)
  | .sequence _ patterns | .alternatives _ patterns => by
    rw [ofPattern]
    exact calm_plain rfl rfl (calm_ofPatterns patterns)
  | .mapping _ keys patterns _ => by
    rw [ofPattern]
    apply calm_plain rfl rfl
    intro draft member
    rcases List.mem_append.mp member with member | member
    · exact calm_ofExprs text keys draft member
    · exact calm_ofPatterns patterns draft member
  | .instances _ type patterns _ attributePatterns => by
    rw [ofPattern]
    apply calm_plain rfl rfl
    intro draft member
    rcases List.mem_cons.mp member with rfl | member
    · exact calm_ofExpr text type
    · rcases List.mem_append.mp member with member | member
      · exact calm_ofPatterns patterns draft member
      · exact calm_ofPatterns attributePatterns draft member
  | .named _ pattern _ => by
    rw [ofPattern]
    apply calm_plain rfl rfl
    intro draft member
    rw [List.mem_singleton.mp member]
    exact calm_ofPattern pattern

theorem calm_ofPatterns : ∀ patterns : List Pattern, ∀ draft ∈ ofPatterns text patterns, draft.Calm
  | [] => by simp [ofPatterns]
  | pattern :: rest => by
    intro draft member
    rcases List.mem_cons.mp member with rfl | member
    · exact calm_ofPattern pattern
    · exact calm_ofPatterns rest draft member

end

/-! ### Pieces of statements -/

theorem calm_ofAlias (imported : Alias) : (ofAlias text imported).Calm := by
  refine calm_plain rfl rfl (calm_of_mem_toList ?_)
  intro draft made
  simp only [aliasName] at made
  split at made
  · simp at made
  · split at made <;>
    · obtain ⟨token, -, rfl⟩ := Option.map_eq_some_iff.mp made
      exact calm_ofName _ _ token

theorem calm_ofWithItem (item : WithItem) : (ofWithItem text item).Calm := by
  apply calm_plain_ofParts rfl rfl
  intro draft member
  rcases List.mem_cons.mp member with rfl | member
  · exact calm_ofExpr text item.context
  · exact calm_of_mem_toList (calm_ofExpr? text item.target) draft member

/-- A clause that is put together from its word and its block. -/
theorem shaped_ofClause {form : Form} {word : String} {start : Position} {body : List Draft}
    (clause : form = .elseClause ∨ form = .finallyClause) (free : ∀ draft ∈ body, draft.Free) :
    ∀ draft, ofClause text form word start body = some draft →
      draft.Shaped ∧ draft.form = form := by
  have block : Admitted form (playing .body body) := by
    rcases clause with rfl | rfl <;> exact admitted_playing_free free
  have proper : form.isProper = true := by rcases clause with rfl | rfl <;> rfl
  intro draft made
  cases body with
  | nil => simp [ofClause] at made
  | cons first rest =>
      simp only [ofClause] at made
      have held (tokens : List (Role × Token)) (role : Role) :
          (Fields.of tokens [(.body, first :: rest)]).roles.count role =
            (roles (playing .body (first :: rest))).count (some role) := by
        simp [Fields.of, List.count_replicate]
      split at made
      · rename_i token _
        cases made
        refine ⟨shaped_ofParts proper ((admitted_leaves form [token]).append block)
          (.of (fun role => (held _ role).trans ?_) ?_), rfl⟩
        · simp [roles]
        · intro mark member
          rw [List.mem_singleton.mp member]
          rfl
      · cases made
        exact ⟨shaped_ofParts proper block (.of (held [])), rfl⟩

theorem admitted_names (form : Form) {role : Role} (name : String) (token : Option Token)
    (admits : ∀ part : Form, part.isBinding = true → form.admits (some role) part = true := by
      intro _ binds; exact binds) :
    Admitted form (playing role (token.map (ofName name true)).toList) := by
  apply admitted_playing
  intro draft member
  rw [Option.mem_toList, Option.map_eq_some_iff] at member
  obtain ⟨token, -, rfl⟩ := member
  exact ⟨shaped_ofName _ _ token, admits _ rfl⟩

theorem admitted_clause {form : Form} {role : Role} {clause : Option Draft} (part : Form)
    (shaped : ∀ draft, clause = some draft → draft.Shaped ∧ draft.form = part)
    (admits : form.admits (some role) part = true) :
    Admitted form (playing role clause.toList) := by
  refine admitted_playing fun draft member => ?_
  obtain ⟨sound, same⟩ := shaped draft (by simpa using member)
  exact ⟨sound, same ▸ admits⟩

theorem free_ofFunction (span : Span) (isAsync : Bool) (name : String)
    {parameters : Parameters Draft} {returns : Option Draft} {decorators body : List Draft}
    (signature : SignatureCalm parameters) (hint : ∀ draft, returns = some draft → draft.Calm)
    (decoration : ∀ draft ∈ decorators, draft.Calm) (block : ∀ draft ∈ body, draft.Free) :
    (ofFunction text span isAsync name parameters returns decorators body).Free where
  shaped := by
    refine shaped_ofSpan rfl ?_ (.of fun role => ?_)
    · refine (((((admitted_leaves _ _).append (admitted_playing_calm decoration)).append
        (admitted_names _ name _)).append (admitted_playing ?_)).append
          (admitted_playing_calm (calm_of_mem_toList hint))).append (admitted_playing_free block)
      intro draft member
      obtain ⟨shaped, -, same⟩ := shaped_ofSignature text signature _ draft (by simpa using member)
      exact ⟨shaped, by simp [Form.admits, same]⟩
    · simp [Fields.of, List.count_replicate]
      omega
  isNode := rfl
  isFree := rfl

theorem free_ofClassDef (span : Span) (name : String) {arguments decorators body : List Draft}
    (bases : ∀ draft ∈ arguments, draft.Calm) (decoration : ∀ draft ∈ decorators, draft.Calm)
    (block : ∀ draft ∈ body, draft.Free) :
    (ofClassDef text span name arguments decorators body).Free where
  shaped := by
    refine shaped_ofSpan rfl ?_ (.of fun role => ?_)
    · exact ((((admitted_leaves _ _).append (admitted_playing_calm decoration)).append
        (admitted_names _ name _)).append (admitted_playing_calm bases)).append
          (admitted_playing_free block)
    · simp [Fields.of, List.count_replicate]
      omega
  isNode := rfl
  isFree := rfl

/-- The further branch of an `if` statement, if there is one. -/
def elifBranch (bodyEnd : Position) (orelse : List Stmt) (otherwise : List Draft) : Option Draft :=
  match orelse, otherwise with
  | [.conditional span ..], [branch] =>
    if (text.keywordIn ⟨bodyEnd, (text.span span).start⟩ "else").isNone then some branch else none
  | _, _ => none

theorem ofConditional_eq (span : Span) (condition : Draft) (body : List Draft)
    (orelse : List Stmt) (otherwise : List Draft) :
    ofConditional text span condition body orelse otherwise =
      let bodyEnd := endAfter condition.span.stop body
      let branch := elifBranch text bodyEnd orelse otherwise
      let clause :=
        if branch.isSome then none else ofClause text .elseClause "else" bodyEnd otherwise
      ofSpan .ifStatement span
        (.of [] [(.condition, [condition]), (.body, body), (.elifBranch, branch.toList),
          (.elseClause, clause.toList)])
        (playing .condition [condition] ++ playing .body body ++ playing .elifBranch branch.toList
          ++ playing .elseClause clause.toList) := rfl

/-- The `if` statement that a further branch consists of. -/
theorem elifBranch_eq_some {bodyEnd : Position} {orelse : List Stmt} {otherwise : List Draft}
    {branch : Draft} (found : elifBranch text bodyEnd orelse otherwise = some branch) :
    ∃ span test body rest, orelse = [.conditional span test body rest] ∧ otherwise = [branch] := by
  unfold elifBranch at found
  split at found
  · rename_i span test body rest other
    rw [Option.ite_none_right_eq_some] at found
    cases found.2
    exact ⟨span, test, body, rest, rfl, rfl⟩
  · cases found

theorem free_ofConditional (span : Span) {condition : Draft} {body otherwise : List Draft}
    (orelse : List Stmt) (test : condition.Calm) (block : ∀ draft ∈ body, draft.Free)
    (others : ∀ draft ∈ otherwise, draft.Free)
    (further : ∀ span test body rest, orelse = [.conditional span test body rest] →
      ∀ draft ∈ otherwise, draft.form = .ifStatement) :
    (ofConditional text span condition body orelse otherwise).Free where
  shaped := by
    rw [ofConditional_eq]
    refine shaped_ofSpan rfl ?_ (.of fun role => ?_)
    · refine (((admitted_playing_calm ?_).append (admitted_playing_free block)).append
        (admitted_clause .ifStatement ?_ rfl)).append
          (admitted_clause .elseClause ?_ rfl)
      · intro draft member
        rwa [List.mem_singleton.mp member]
      · intro draft found
        obtain ⟨inner, test, block, rest, one, same⟩ := elifBranch_eq_some text found
        have among : draft ∈ otherwise := by simp [same]
        exact ⟨(others draft among).shaped, further inner test block rest one draft among⟩
      · intro draft made
        split at made
        · simp at made
        · exact shaped_ofClause text (.inl rfl) others draft made
    · simp [Fields.of, List.count_cons, List.count_replicate]
  isNode := rfl
  isFree := rfl

theorem shaped_ofHandler (span : Span) (isStar : Bool) {exception : Option Draft}
    (name : Option String) {body : List Draft}
    (type : ∀ draft, exception = some draft → draft.Calm) (block : ∀ draft ∈ body, draft.Free) :
    (ofHandler text span isStar exception name body).Shaped := by
  refine shaped_ofSpan rfl ?_ (.of fun role => ?_)
  · refine ((admitted_playing_calm (calm_of_mem_toList type)).append (admitted_playing ?_)).append
      (admitted_playing_free block)
    intro draft member
    have made := Option.mem_toList.mp member
    simp only [Option.bind_eq_bind, Option.bind_eq_some_iff] at made
    obtain ⟨_, -, _, -, token, -, same⟩ := made
    cases same
    exact ⟨shaped_ofName _ _ token, rfl⟩
  · simp [Fields.of, List.count_replicate]

theorem free_ofTry (span : Span) {body handlers orelse final : List Draft}
    (block : ∀ draft ∈ body, draft.Free)
    (caught : ∀ draft ∈ handlers, draft.Shaped ∧ draft.form.kind = .exceptClause)
    (others : ∀ draft ∈ orelse, draft.Free) (last : ∀ draft ∈ final, draft.Free) :
    (ofTry text span body handlers orelse final).Free where
  shaped := by
    refine shaped_ofSpan rfl ?_ (.of fun role => ?_)
    · refine (((admitted_playing_free block).append (admitted_playing ?_)).append
        (admitted_clause _ (shaped_ofClause text (.inl rfl) others) rfl)).append
          (admitted_clause _ (shaped_ofClause text (.inr rfl) last) rfl)
      intro draft member
      exact ⟨(caught draft member).1, by simp [Form.admits, (caught draft member).2]⟩
    · simp [Fields.of, List.count_replicate]
  isNode := rfl
  isFree := rfl

/-! ### Statements -/

/-- The further branch of an `if` statement is made from an `if` statement. -/
theorem form_ofStmts_conditional {span : Span} {test : Expr} {body rest : List Stmt} :
    ∀ draft ∈ ofStmts text [.conditional span test body rest], draft.form = .ifStatement := by
  intro draft member
  rw [List.mem_singleton.mp member, ofStmt]
  rfl

mutual

theorem free_ofStmt : ∀ stmt : Stmt, (ofStmt text stmt).Free
  | .simple _ form parts => by
    rw [ofStmt]
    exact (calm_plain (by cases form <;> rfl) (by cases form <;> rfl)
      (calm_ofExprs text parts)).toFree
  | .imports _ fromModule aliases => by
    rw [ofStmt]
    refine (calm_plain (by cases fromModule <;> rfl) (by cases fromModule <;> rfl) ?_).toFree
    intro draft member
    obtain ⟨imported, -, rfl⟩ := List.mem_map.mp member
    exact calm_ofAlias text imported
  | .scopeDeclaration _ isGlobal _ => by
    rw [ofStmt]
    refine ⟨shaped_ofSpan rfl (admitted_playing ?_) (.of fun role => ?_), rfl, rfl⟩
    · intro draft member
      obtain ⟨token, -, rfl⟩ := List.mem_map.mp member
      exact ⟨shaped_ofName _ _ token, rfl⟩
    · simp [Fields.of, List.count_replicate]
  | .raise _ exception cause => by
    rw [ofStmt]
    refine ⟨shaped_ofSpan rfl ?_ (.of fun role => ?_), rfl, rfl⟩
    · exact (admitted_playing_calm (calm_of_mem_toList (calm_ofExpr? text exception))).append
        (admitted_playing_calm (calm_of_mem_toList (calm_ofExpr? text cause)))
    · simp [Fields.of, List.count_replicate]
  | .conditional _ test body orelse => by
    rw [ofStmt]
    refine free_ofConditional text _ orelse (calm_ofExpr text test) (free_ofStmts body)
      (free_ofStmts orelse) ?_
    rintro span test body rest rfl
    exact form_ofStmts_conditional text
  | .whileLoop _ test body orelse => by
    rw [ofStmt]
    refine ⟨shaped_ofSpan rfl ?_ (.of fun role => ?_), rfl, rfl⟩
    · refine ((admitted_playing_calm (by simpa using calm_ofExpr text test)).append
        (admitted_playing_free (free_ofStmts body))).append
          (admitted_clause _ (shaped_ofClause text (.inl rfl) (free_ofStmts orelse)) rfl)
    · simp [Fields.of, List.count_cons, List.count_replicate]
      omega
  | .forLoop _ _ target iterable body orelse => by
    rw [ofStmt]
    refine ⟨shaped_ofSpan rfl ?_ (.of fun role => ?_), rfl, rfl⟩
    · refine (((admitted_playing_calm (by simpa using calm_ofExpr text target)).append
        (admitted_playing_calm (by simpa using calm_ofExpr text iterable))).append
          (admitted_playing_free (free_ofStmts body))).append
            (admitted_clause _ (shaped_ofClause text (.inl rfl) (free_ofStmts orelse)) rfl)
    · simp [Fields.of, List.count_cons, List.count_replicate]
      omega
  | .tryBlock _ isStar body handlers orelse final => by
    rw [ofStmt]
    exact free_ofTry text _ (free_ofStmts body) (shaped_ofHandlers isStar handlers)
      (free_ofStmts orelse) (free_ofStmts final)
  | .withBlock _ items body => by
    rw [ofStmt]
    refine free_block rfl rfl ?_
    intro draft member
    rcases List.mem_append.mp member with member | member
    · obtain ⟨item, -, rfl⟩ := List.mem_map.mp member
      exact (calm_ofWithItem text item).toFree
    · exact free_ofStmts body draft member
  | .matchBlock _ subject cases => by
    rw [ofStmt]
    refine free_block rfl rfl ?_
    intro draft member
    rcases List.mem_cons.mp member with rfl | member
    · exact (calm_ofExpr text subject).toFree
    · exact free_ofCases cases draft member
  | .function _ isAsync name parameters returns decorators body => by
    rw [ofStmt]
    exact free_ofFunction text _ isAsync name (calm_ofParametersOf text parameters)
      (calm_ofExpr? text returns) (calm_ofExprs text decorators) (free_ofStmts body)
  | .classDef _ name bases keywords decorators body => by
    rw [ofStmt]
    refine free_ofClassDef text _ name ?_ (calm_ofExprs text decorators) (free_ofStmts body)
    intro draft member
    rcases List.mem_append.mp member with member | member
    · exact calm_ofExprs text bases draft member
    · exact calm_ofExprs text keywords draft member

theorem free_ofStmts : ∀ stmts : List Stmt, ∀ draft ∈ ofStmts text stmts, draft.Free
  | [] => by simp [ofStmts]
  | stmt :: rest => by
    intro draft member
    rcases List.mem_cons.mp member with rfl | member
    · exact free_ofStmt stmt
    · exact free_ofStmts rest draft member

theorem shaped_ofHandlers (isStar : Bool) : ∀ handlers : List Handler,
    ∀ draft ∈ ofHandlers text isStar handlers, draft.Shaped ∧ draft.form.kind = .exceptClause
  | [] => by simp [ofHandlers]
  | .mk _ exception name body :: rest => by
    intro draft member
    rcases List.mem_cons.mp member with rfl | member
    · exact ⟨shaped_ofHandler text _ isStar name (calm_ofExpr? text exception)
        (free_ofStmts body), rfl⟩
    · exact shaped_ofHandlers isStar rest draft member

theorem free_ofCases : ∀ cases : List Case, ∀ draft ∈ ofCases text cases, draft.Free
  | [] => by simp [ofCases]
  | .mk pattern guard body :: rest => by
    intro draft member
    rcases List.mem_cons.mp member with rfl | member
    · refine free_block_ofParts rfl rfl ?_
      intro draft member
      rcases List.mem_cons.mp member with rfl | member
      · exact (calm_ofPattern text pattern).toFree
      · rcases List.mem_append.mp member with member | member
        · exact (calm_of_mem_toList (calm_ofExpr? text guard) draft member).toFree
        · exact free_ofStmts body draft member
    · exact free_ofCases rest draft member

end

/-! ### Programs -/

/-- The draft of a program: its statements in source order. -/
def ofProgram (program : Program) (text : SourceText) : Draft :=
  .node (.file program.docstring) default (.of [] [(.statement, ofStmts text program.body)])
    (slots (playing .statement (ofStmts text program.body)))

theorem completes_ofProgram (program : Program) (text : SourceText) :
    Branch.Completes (ofProgram program text) (Branch.ofProgram program text) :=
  .node ..

/-- **Programs have their shape.** Whatever the source text, the draft of a program has the shape
that forms ask for, all the way down. -/
theorem shaped_ofProgram (program : Program) (text : SourceText) :
    (ofProgram program text).Shaped := by
  refine .of_given (.refl _) rfl (admitted_playing_free (free_ofStmts text program.body))
    (.of fun role => ?_)
  simp [Fields.of, List.count_replicate]

end Draft

end StructuralLint
