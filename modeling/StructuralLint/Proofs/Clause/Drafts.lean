import Mathlib.Data.List.TakeWhile
import StructuralLint.Proofs.Tree.Statements

/-!
# What follows a block

An `else` or a `finally` block stands behind other blocks of its statement (`Program.Tail`), and the
one `if` statement that an `else` block holds may be a further branch, which shows by the word it
starts with (`Program.elif?`). A program does not say where the words before these blocks stand:
they are looked for between the end of one block and the start of the next. Where the only keyword
there is the one that the grammar asks for (`Program.Stmt.LaidOut`), the clauses of a statement are
drafted from its blocks one by one (`Program.Stmt.LaidOut.exists_given`), each with its word
(`Program.Tail.clause?_eq`).
-/

namespace StructuralLint

open Program Draft

namespace SourceText

variable {text : SourceText} {token : Token} {start stop later : Position} {span : Span}
  {value : String}

/-- The keywords that start in a span. -/
def keywordsIn (text : SourceText) (span : Span) : List Token :=
  (text.tokensIn span).filter (·.type = .keyword)

theorem keywordIn_eq (text : SourceText) (span : Span) (value : String) :
    text.keywordIn span value = (text.keywordsIn span).find? (·.value = value) := by
  rw [keywordsIn, List.find?_filter, keywordIn]
  simp

/-- What starts in a span starts in a longer one. -/
theorem mem_tokensIn_of_not_before (member : token ∈ text.tokensIn ⟨start, stop⟩)
    (longer : later.before stop = false) : token ∈ text.tokensIn ⟨start, later⟩ := by
  have both : (fun other : Token => decide
      (other.start.before stop = true ∧ other.start.before later = true)) =
      (·.start.before stop) := by
    funext other
    cases short : other.start.before stop with
    | false => rfl
    | true => simp [Position.before_of_before_of_not_before short longer]
  have within := List.takeWhile_takeWhile (·.start.before stop) (·.start.before later)
    (text.tokensFrom start)
  rw [both] at within
  exact (List.takeWhile_sublist (·.start.before stop)).subset (within ▸ member)

theorem mem_tokensIn (member : token ∈ text.tokensIn span) :
    token ∈ text.tokens ∧ token.start.before span.stop = true := by
  have stops := List.mem_takeWhile_imp member
  exact ⟨(List.dropWhile_sublist _).subset ((List.takeWhile_sublist _).subset member), stops⟩

end SourceText

/-! ### The start of a draft -/

namespace Draft

variable {span : Span} {given : List (Option Role × Draft)}

/-- Parts can only make a node start earlier. -/
theorem start_coverParts_not_after (span : Span) (given : List (Option Role × Draft)) :
    span.start.before (coverParts span given).start = false := by
  induction given generalizing span with
  | nil => exact Position.before_irrefl _
  | cons part rest ih =>
      refine Position.not_before_trans (ih (span.cover part.2.span)) ?_
      rw [Span.cover, Position.earlier]
      split
      · rename_i earlier
        exact Position.not_before_of_before earlier
      · exact Position.before_irrefl _

/-- A node does not start after any of its parts. -/
theorem start_coverParts_not_after_part {part : Option Role × Draft} (member : part ∈ given) :
    part.2.span.start.before (coverParts span given).start = false := by
  induction given generalizing span with
  | nil => cases member
  | cons first rest ih =>
      rcases List.mem_cons.mp member with rfl | later
      · refine Position.not_before_trans
          (start_coverParts_not_after (span.cover part.2.span) rest) ?_
        rw [Span.cover, Position.earlier]
        split
        · exact Position.before_irrefl _
        · rename_i reached
          exact Bool.eq_false_iff.mpr reached
      · exact ih later

/-- A node starts where the first one of its parts does, if the node itself does not start
earlier. -/
theorem start_coverParts_of_least {part : Option Role × Draft} (member : part ∈ given)
    (own : span.start.before part.2.span.start = false)
    (least : ∀ other ∈ given, other.2.span.start.before part.2.span.start = false) :
    (coverParts span given).start = part.2.span.start := by
  apply Position.eq_of_not_before _ (start_coverParts_not_after_part member)
  clear member
  induction given generalizing span with
  | nil => exact own
  | cons first rest ih =>
      apply @ih (span.cover first.2.span)
      · rw [Span.cover, Position.earlier]
        split
        · exact least first List.mem_cons_self
        · exact own
      · exact fun other later => least other (List.mem_cons_of_mem _ later)

/-- Parts that do not start before a node leave its start as it is. -/
theorem start_coverParts_eq
    (reached : ∀ part ∈ given, part.2.span.start.before span.start = false) :
    (coverParts span given).start = span.start := by
  induction given generalizing span with
  | nil => rfl
  | cons part rest ih =>
      have same : (span.cover part.2.span).start = span.start := by
        rw [Span.cover, Position.earlier, reached part List.mem_cons_self]
        rfl
      rw [← same] at reached ⊢
      exact ih fun part member => reached part (List.mem_cons_of_mem _ member)

end Draft

/-! ### Blocks behind other blocks -/

namespace Program

/-- A block that stands behind other blocks of its statement, after a word of its own. -/
structure Tail where
  role : Role
  form : Form
  word : String
  /-- Where what stands before it ends. -/
  behind : Position
  body : List Stmt

namespace Tail

/-- An `else` block. -/
def otherwise (behind : Position) (body : List Stmt) : Tail :=
  ⟨.elseClause, .elseClause, "else", behind, body⟩

/-- A `finally` block. -/
def last (behind : Position) (body : List Stmt) : Tail :=
  ⟨.finallyClause, .finallyClause, "finally", behind, body⟩

variable (text : SourceText) (tail : Tail)

/-- The source text between what stands before the block and its first statement. -/
def gap : Span :=
  ⟨tail.behind,
    match tail.body with
    | [] => tail.behind
    | first :: _ => (ofStmt text first).span.start⟩

/-- The clause that the block is drafted to, unless it is empty. -/
def clause? : Option Draft := ofClause text tail.form tail.word tail.behind (ofStmts text tail.body)

end Tail

/-- A further branch of an `if` statement. -/
structure Further where
  /-- Where the branch before it ends. -/
  behind : Position
  branch : Stmt

/-- The source text between a branch and the next one. -/
def Further.gap (text : SourceText) (further : Further) : Span :=
  ⟨further.behind, (text.span further.branch.span).start⟩

/-- The `if` statement that a block consists of, if it starts with the word `elif`. -/
def elif? (text : SourceText) : List Stmt → Option Stmt
  | [.conditional span test body orelse] =>
    if (text.tokenAt (text.span span).start).any
        fun token => token.type = .keyword && token.value = "elif" then
      some (.conditional span test body orelse)
    else none
  | _ => none

namespace Stmt

variable (text : SourceText)

/-- Where a block with an expression before it ends. -/
def blockEnd (head : Expr) (body : List Stmt) : Position :=
  endAfter (ofExpr text head).span.stop (ofStmts text body)

/-- The further branch of a statement, if it has one. -/
def further? : Stmt → Option Further
  | .conditional _ test body orelse =>
    (elif? text orelse).map fun branch => ⟨blockEnd text test body, branch⟩
  | _ => none

/-- Where the blocks of a `try` statement end before its `else` block. -/
def handled (span : Span) (isStar : Bool) (body : List Stmt) (handlers : List Handler) : Position :=
  endAfter (text.span span).start
    (if (ofHandlers text isStar handlers).isEmpty then ofStmts text body
      else ofHandlers text isStar handlers)

/-- The blocks of a statement that stand behind others. What a further branch consists of is none of
them. -/
def tails : Stmt → List Tail
  | .conditional _ test body orelse =>
    if (elif? text orelse).isSome then [] else [.otherwise (blockEnd text test body) orelse]
  | .whileLoop _ test body orelse => [.otherwise (blockEnd text test body) orelse]
  | .forLoop _ _ _ iterable body orelse => [.otherwise (blockEnd text iterable body) orelse]
  | .tryBlock span isStar body handlers orelse final =>
    [.otherwise (handled text span isStar body handlers) orelse,
      .last (endAfter (handled text span isStar body handlers)
        (Tail.clause? text (.otherwise (handled text span isStar body handlers) orelse)).toList)
          final]
  | _ => []

/-- Before each block, which starts with its first statement, stands its word and no other keyword.
Before a further branch, which starts with its word, there is none. -/
structure LaidOut (stmt : Stmt) : Prop where
  words : ∀ tail ∈ stmt.tails text, tail.body ≠ [] →
    (text.keywordsIn (tail.gap text)).map (·.value) = [tail.word]
  starts : ∀ tail ∈ stmt.tails text, ∀ inner ∈ tail.body,
    (ofStmt text inner).span.start.before (tail.gap text).stop = false
  further : ∀ next ∈ stmt.further? text, text.keywordsIn (next.gap text) = []

instance (stmt : Stmt) : Decidable (stmt.LaidOut text) :=
  decidable_of_iff
    ((∀ tail ∈ stmt.tails text, tail.body ≠ [] →
        (text.keywordsIn (tail.gap text)).map (·.value) = [tail.word]) ∧
      (∀ tail ∈ stmt.tails text, ∀ inner ∈ tail.body,
        (ofStmt text inner).span.start.before (tail.gap text).stop = false) ∧
      ∀ next ∈ stmt.further? text, text.keywordsIn (next.gap text) = [])
    ⟨fun ⟨words, starts, further⟩ => ⟨words, starts, further⟩,
      fun ⟨words, starts, further⟩ => ⟨words, starts, further⟩⟩

end Stmt

/-! ### The drafts of clauses -/

variable {text : SourceText}

/-- A further branch is an `if` statement, and all that its block holds. -/
theorem elif?_eq_some {orelse : List Stmt} {next : Stmt}
    (found : elif? text orelse = some next) :
    ∃ span test body rest, next = .conditional span test body rest ∧ orelse = [next] := by
  unfold elif? at found
  split at found
  · rw [Option.ite_none_right_eq_some] at found
    cases found.2
    exact ⟨_, _, _, _, rfl, rfl⟩
  · cases found

/-- Each block that is not empty has its clause. -/
theorem Tail.forall₂_clauses (tails : List Tail) :
    List.Forall₂ (fun draft tail => tail.clause? text = some draft)
      (tails.flatMap fun tail => (tail.clause? text).toList)
      (tails.filter fun tail => !tail.body.isEmpty) := by
  induction tails with
  | nil => exact .nil
  | cons tail rest ih =>
      obtain ⟨role, form, word, behind, body⟩ := tail
      cases body with
      | nil => exact ih
      | cons first others =>
          obtain ⟨draft, made⟩ : ∃ draft,
              Tail.clause? text ⟨role, form, word, behind, first :: others⟩ = some draft := by
            rw [Tail.clause?, ofStmts, ofClause]
            split <;> exact ⟨_, rfl⟩
          rw [List.flatMap_cons, made]
          exact .cons made ih

/-- **A clause has its word.** It is the only keyword between the block and what stands before
it. -/
theorem Tail.clause?_eq {tail : Tail} (block : tail.body ≠ [])
    (word : (text.keywordsIn (tail.gap text)).map (·.value) = [tail.word]) :
    ∃ token, text.keywordsIn (tail.gap text) = [token] ∧ token.value = tail.word ∧
      tail.clause? text = some (ofParts tail.form
        (.of [(.keyword, token)] [(.body, ofStmts text tail.body)]) (none, leaf token)
        (playing .body (ofStmts text tail.body))) := by
  obtain ⟨token, only, value⟩ := List.map_eq_singleton_iff.mp word
  refine ⟨token, only, value, ?_⟩
  obtain ⟨role, form, spelling, behind, body⟩ := tail
  cases body with
  | nil => exact absurd rfl block
  | cons first rest =>
      have found :
          text.keywordIn ⟨behind, (ofStmt text first).span.start⟩ spelling = some token := by
        rw [show Tail.gap text _ = ⟨behind, (ofStmt text first).span.start⟩ from rfl] at only
        simpa [SourceText.keywordIn_eq, only] using value
      rw [Tail.clause?, ofStmts, ofClause, found]

/-- The further branch is the one that is drafted as such. -/
theorem elifBranch_eq {behind : Position} {orelse : List Stmt}
    (words : elif? text orelse = none → orelse ≠ [] →
      (text.keywordsIn (Tail.gap text (.otherwise behind orelse))).map (·.value) = ["else"])
    (further : ∀ branch, elif? text orelse = some branch →
      text.keywordsIn ⟨behind, (text.span branch.span).start⟩ = []) :
    elifBranch text behind orelse (ofStmts text orelse) =
      (elif? text orelse).map (ofStmt text) := by
  by_cases single : ∃ span test body rest, orelse = [.conditional span test body rest]
  · obtain ⟨span, test, body, rest, rfl⟩ := single
    rw [show ofStmts text [.conditional span test body rest] =
      [ofStmt text (.conditional span test body rest)] by simp only [ofStmts], elifBranch]
    cases found : elif? text [.conditional span test body rest] with
    | some branch =>
        obtain rfl : branch = .conditional span test body rest := by
          rw [elif?, Option.ite_none_right_eq_some] at found
          exact (Option.some.inj found.2).symm
        have none : text.keywordsIn ⟨behind, (text.span span).start⟩ = [] := further _ found
        rw [SourceText.keywordIn_eq, none]
        rfl
    | none =>
        have word := words found (List.cons_ne_nil _ _)
        obtain ⟨token, only, value⟩ := List.map_eq_singleton_iff.mp word
        have listed : token ∈ text.keywordsIn _ := only ▸ List.mem_singleton_self token
        obtain ⟨member, type⟩ := List.mem_filter.mp listed
        -- the word is looked for up to the start of the statement, which its draft may precede
        have reached : (text.span span).start.before
            (ofStmt text (.conditional span test body rest)).span.start = false := by
          simp only [ofStmt, ofConditional_eq]
          exact start_coverParts_not_after _ _
        have found : (text.keywordIn ⟨behind, (text.span span).start⟩ "else").isSome = true :=
          List.find?_isSome.mpr ⟨token, SourceText.mem_tokensIn_of_not_before member reached, by
            simpa [value] using type⟩
        rw [if_neg (by simpa using Option.isSome_iff_ne_none.mp found)]
        rfl
  · have first : elif? text orelse = none := by
      unfold elif?
      split
      · rename_i span test body rest
        exact absurd ⟨span, test, body, rest, rfl⟩ single
      · rfl
    have second : elifBranch text behind orelse (ofStmts text orelse) = none := by
      unfold elifBranch
      split
      · rename_i span test body rest branch same
        exact absurd ⟨span, test, body, rest, rfl⟩ single
      · rfl
    rw [first, second]
    rfl

/-- The role of a clause. -/
def clauseRoles : List Role := [.elseClause, .finallyClause]

theorem isMark_clauseRoles : ∀ role ∈ clauseRoles, role.isMark = false := by decide

/-- **Clauses are drafted from blocks.** A statement has a clause for each of its blocks that is not
empty, and its further branch. -/
theorem Stmt.LaidOut.exists_given {stmt : Stmt} (laidOut : stmt.LaidOut text) :
    ∃ form span fields given, ofStmt text stmt = ofSpan form span fields given ∧
      inRole (some .elifBranch) given =
        (stmt.further? text).toList.map (fun next => ofStmt text next.branch) ∧
      ∀ role ∈ clauseRoles, inRole (some role) given =
        ((stmt.tails text).filter (·.role = role)).flatMap fun tail =>
          (tail.clause? text).toList := by
  cases stmt with
  | conditional span test body orelse =>
      have branch : elifBranch text (blockEnd text test body) orelse (ofStmts text orelse) =
          (elif? text orelse).map (ofStmt text) :=
        elifBranch_eq (fun none block => laidOut.words _ (by simp [tails, none]) block)
          fun next found => laidOut.further ⟨blockEnd text test body, next⟩ (by
            rw [further?, found]
            rfl)
      rw [ofStmt, ofConditional_eq, ← blockEnd]
      dsimp only
      rw [branch]
      refine ⟨_, _, _, _, rfl, ?_⟩
      cases found : elif? text orelse with
      | some next => simp [clauseRoles, further?, tails, found]
      | none => simp [clauseRoles, further?, tails, found, Tail.otherwise, Tail.clause?]
  | whileLoop | forLoop =>
      rw [ofStmt]
      refine ⟨_, _, _, _, rfl, by simp [further?], ?_⟩
      simp [clauseRoles, tails, Tail.otherwise, Tail.clause?, blockEnd]
  | tryBlock =>
      rw [ofStmt, ofTry]
      refine ⟨_, _, _, _, rfl, by simp [further?], ?_⟩
      simp [clauseRoles, tails, Tail.otherwise, Tail.last, Tail.clause?, handled]
  | _ =>
      rw [ofStmt]
      exact ⟨_, _, _, _, rfl, by simp [further?], by simp [clauseRoles, tails]⟩

end Program

end StructuralLint
