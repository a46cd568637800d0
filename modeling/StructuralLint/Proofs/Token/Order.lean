import StructuralLint.Proofs.Lists
import StructuralLint.Proofs.Tree.Lossless
import StructuralLint.Proofs.Tree.Nesting
import StructuralLint.Proofs.Tree.Roles

/-!
# The order of tokens

The scan goes through the lines of a text and through each line from left to right, so what it cuts
off later starts further on, unless one of the two has no width (`Span.Precedes`). Runs of raw
tokens that stand between two places are put together where one run ends and the next one starts
(`Span.Between.append`). A literal that goes on over lines starts where it was opened, so a run ends
there as long as the literal is open (`Scan.State.reached`). What is left out of a token stream
leaves the order of the others as it is (`Token.isLexed_of_lex`).
-/

namespace StructuralLint

namespace Span

/-- Of two stretches of text the left one comes first. They start at one place only if one of them
has no width. -/
def Precedes (left right : Span) : Prop :=
  left.start.before right.start = true ∨
    left.start = right.start ∧ (left.start = left.stop ∨ right.start = right.stop)

/-- Stretches of text that follow each other from a place on. -/
structure Follow (place : Position) (spans : List Span) : Prop where
  inOrder : spans.Pairwise Precedes
  reached : ∀ span ∈ spans, span.start.before place = false

/-- Stretches of text that follow each other between two places. At the second place only those
start that have no width. -/
structure Between (place stop : Position) (spans : List Span) : Prop
    extends Follow place spans where
  early : ∀ span ∈ spans, span.start.before stop = true ∨ span = ⟨stop, stop⟩

variable {place middle stop : Position} {spans later : List Span} {span : Span}

theorem Follow.of_reached (follow : Follow middle spans) (reached : middle.before place = false) :
    Follow place spans where
  inOrder := follow.inOrder
  reached span member := Position.not_before_trans reached (follow.reached span member)

namespace Between

theorem nil : Between place stop [] := ⟨⟨.nil, by simp⟩, by simp⟩

theorem of_early (reached : span.start.before place = false)
    (early : span.start.before stop = true ∨ span = ⟨stop, stop⟩) : Between place stop [span] where
  inOrder := List.pairwise_singleton _ _
  reached := List.forall_mem_singleton.mpr reached
  early := List.forall_mem_singleton.mpr early

/-- Stretches without width may stand at one place. -/
theorem of_flat (flat : ∀ span ∈ spans, span = ⟨stop, stop⟩) : Between stop stop spans where
  inOrder := by
    refine List.pairwise_of_forall_mem_list fun left inLeft right inRight => ?_
    rw [flat left inLeft, flat right inRight]
    exact .inr ⟨rfl, .inl rfl⟩
  reached span member := by
    rw [flat span member]
    exact Position.before_irrefl _
  early span member := .inr (flat span member)

theorem append_follow (front : Between place middle spans) (back : Follow middle later)
    (reached : middle.before place = false) : Follow place (spans ++ later) where
  inOrder := by
    refine List.pairwise_append.mpr ⟨front.inOrder, back.inOrder,
      fun left inLeft right inRight => ?_⟩
    have behind := back.reached right inRight
    rcases front.early left inLeft with early | rfl
    · exact .inl (Position.before_of_before_of_not_before early behind)
    · cases further : middle.before right.start with
      | true => exact .inl further
      | false => exact .inr ⟨Position.eq_of_not_before further behind, .inl rfl⟩
  reached := List.forall_mem_append.mpr ⟨front.reached, (back.of_reached reached).reached⟩

theorem append (front : Between place middle spans) (back : Between middle stop later)
    (reached : middle.before place = false) (further : stop.before middle = false) :
    Between place stop (spans ++ later) where
  toFollow := front.append_follow back.toFollow reached
  early := by
    refine List.forall_mem_append.mpr ⟨fun span member => ?_, back.early⟩
    rcases front.early span member with early | rfl
    · exact .inl (Position.before_of_before_of_not_before early further)
    · by_cases beyond : middle.before stop = true
      · exact .inl beyond
      · rw [Position.eq_of_not_before (Bool.eq_false_iff.mpr beyond) further]
        exact .inr rfl

end Between

end Span

/-- The stretch of text that a raw token takes. -/
def RawToken.span (raw : RawToken) : Span := ⟨raw.start, raw.stop⟩

/-! ### Lines -/

namespace Scan

/-- Where the next raw token may start: where the open literal does, if there is one. -/
def State.reached (state : State) (place : Position) : Position :=
  match state.literal with
  | some literal => literal.start
  | none => place

theorem State.reached_of_none {state : State} (none : state.literal = none) (place : Position) :
    state.reached place = place := by
  rw [reached, none]

theorem length_of_findLiteral {text : List Char} {type : RawType} {length : Nat}
    (found : findLiteral text = some (.token type length)) : 0 < length := by
  obtain ⟨⟨letters, quote, body⟩, -, found⟩ := Option.bind_eq_some_iff.mp found
  dsimp only at found
  split at found
  · split at found
    · split at found
      · cases found
        omega
      · cases found
    · obtain ⟨⟨n, ending⟩, -, found⟩ := Option.bind_eq_some_iff.mp found
      cases ending <;> cases found
      omega
  · obtain ⟨⟨n, ending⟩, -, found⟩ := Option.bind_eq_some_iff.mp found
    cases ending <;> cases found
    omega

/-- What the scan finds has some width. -/
theorem length_of_find {depth : Int} {text : List Char} {type : RawType} {length : Nat}
    (found : find depth text = .token type length) : 0 < length := by
  rw [find] at found
  split at found
  · cases found
  · split at found
    · rename_i comment
      cases found
      cases text with
      | nil => cases comment
      | cons c rest =>
          obtain rfl : c = '#' := Option.some.inj comment
          exact Nat.succ_pos _
    · split at found
      · rename_i literal
        exact length_of_findLiteral (literal.trans (congrArg some found))
      · dsimp only at found
        repeat' split at found
        all_goals
          cases found
          omega

variable {line column width : Nat} {text : List Char} {state after : State} {raws : List RawToken}

theorem not_before_iff {place other : Nat} :
    (⟨line, place⟩ : Position).before ⟨line, other⟩ = false ↔ other ≤ place := by
  simp [← Bool.not_eq_true, Position.before_iff]

theorem before_iff {place other : Nat} :
    (⟨line, place⟩ : Position).before ⟨line, other⟩ = true ↔ place < other := by
  simp [Position.before_iff]

theorem scanRest_nil (fuel : Nat) : scanRest line fuel column [] state = ([], state) := by
  cases fuel <;> rfl

/-- A run of raw tokens of one line, from a column on, with the state after it. -/
structure Runs (line column width : Nat) (raws : List RawToken) (after : State) : Prop where
  between : Span.Between ⟨line, column⟩ (after.reached ⟨line, column + width⟩) (raws.map (·.span))
  further : (after.reached ⟨line, column + width⟩).before ⟨line, column⟩ = false
  literal : ∀ literal ∈ after.literal, literal.start.line = line

theorem Runs.nil (none : after.literal = none) : Runs line column width [] after where
  between := .nil
  further := by
    rw [State.reached_of_none none, not_before_iff]
    omega
  literal literal member := by
    rw [none] at member
    cases member

/-- A raw token that takes all that is left. -/
theorem Runs.single {blanks : Nat} {raw : RawToken} (start : raw.start = ⟨line, column + blanks⟩)
    (within : blanks < width) (none : after.literal = none) :
    Runs line column width [raw] after where
  between := by
    refine .of_early ?_ (.inl ?_)
    · show raw.start.before _ = false
      rw [start, not_before_iff]
      omega
    · show raw.start.before _ = true
      rw [start, State.reached_of_none none, before_iff]
      omega
  further := (Runs.nil none).further
  literal := (Runs.nil none : Runs line column width [] after).literal

/-- One more raw token in front. -/
theorem Runs.cons {blanks length rest : Nat} {raw : RawToken}
    (start : raw.start = ⟨line, column + blanks⟩) (wide : 0 < length)
    (within : blanks + length + rest = width)
    (runs : Runs line (column + blanks + length) rest raws after) :
    Runs line column width (raw :: raws) after := by
  obtain rfl := within
  obtain ⟨between, further, literal⟩ := runs
  rw [show column + blanks + length + rest = column + (blanks + length + rest) by omega]
    at between further
  have mid : (⟨line, column + blanks + length⟩ : Position).before ⟨line, column⟩ = false := by
    rw [not_before_iff]
    omega
  refine ⟨?_, Position.not_before_trans mid further, literal⟩
  have first : Span.Between ⟨line, column⟩ ⟨line, column + blanks + length⟩ [raw.span] := by
    refine .of_early ?_ (.inl ?_)
    · show raw.start.before _ = false
      rw [start, not_before_iff]
      omega
    · show raw.start.before _ = true
      rw [start, before_iff]
      omega
  exact first.append between mid further

/-- The rest of a line. -/
theorem runs_scanRest {fuel : Nat} (none : state.literal = none) :
    Runs line column text.length (scanRest line fuel column text state).1
      (scanRest line fuel column text state).2 := by
  induction fuel generalizing column text state with
  | zero => exact .nil none
  | succ fuel ih =>
      have widths : (text.takeWhile isInlineBlank).length + (text.dropWhile isInlineBlank).length =
          text.length := by
        rw [← List.length_append, List.takeWhile_append_dropWhile]
      rw [scanRest]
      generalize (text.takeWhile isInlineBlank).length = blanks at widths
      generalize text.dropWhile isInlineBlank = rest at widths
      dsimp only
      split
      · exact .nil none
      · rename_i filled
        replace filled : rest ≠ [] := by simpa using filled
        split
        · exact .nil none
        · rename_i quotes needsJoin found
          refine ⟨.nil, ?_, fun literal member => ?_⟩
          · rw [State.reached, not_before_iff]
            omega
          · cases member
            rfl
        · rename_i type length found
          have wide := length_of_find found
          dsimp only
          generalize state' : (if type = .op then _ else state) = next
          have none' : next.literal = Option.none := by
            rw [← state']
            split <;> exact none
          by_cases short : length ≤ rest.length
          · refine .cons rfl wide ?_ (ih none')
            rw [List.length_drop]
            omega
          · rw [List.drop_eq_nil_of_le (by omega), scanRest_nil]
            exact .single rfl (by have := List.length_pos_iff.mpr filled; omega) none'

/-- What stands in an earlier line comes first. -/
theorem before_of_line_lt {place other : Position} (earlier : place.line < other.line) :
    place.before other = true :=
  Position.before_iff.mpr (.inl earlier)

/-- A stretch of one line. -/
theorem between_line {place other : Nat} (le : place ≤ other) :
    Span.Between ⟨line, place⟩ ⟨line, other⟩ [⟨⟨line, place⟩, ⟨line, other⟩⟩] := by
  refine .of_early (Position.before_irrefl _) ?_
  rcases Nat.lt_or_eq_of_le le with lt | rfl
  · exact .inl (before_iff.mpr lt)
  · exact .inr rfl

theorem closing_le {quotes text : List Char} {n : Nat}
    (closed : Spelling.closing quotes text = some n) : n ≤ text.length := by
  fun_induction Spelling.closing quotes text generalizing n with
  | case1 | case2 | case3 => cases closed
  | case4 c rest _ ih =>
      obtain ⟨count, found, rfl⟩ := Option.map_eq_some_iff.mp closed
      exact Nat.add_le_add_right (ih found) 2
  | case5 c rest _ starts =>
      cases closed
      exact (List.isPrefixOf_iff_prefix.mp starts).length_le
  | case6 c rest _ _ ih =>
      obtain ⟨count, found, rfl⟩ := Option.map_eq_some_iff.mp closed
      exact Nat.succ_le_succ (ih found)

theorem between_idleLine {rest : List Char} :
    Span.Between ⟨line, column⟩ ⟨line, column + rest.length⟩
      ((idleLine line column rest).map (·.span)) := by
  have short : (if rest.head? = some '#' then
      (rest.reverse.dropWhile fun c => c = '\r' || c = '\n').reverse else []).length ≤
        rest.length := by
    split
    · rw [List.length_reverse]
      exact (List.dropWhile_sublist _).length_le.trans_eq List.length_reverse
    · exact Nat.zero_le _
  rw [idleLine]
  generalize (if rest.head? = some '#' then _ else []) = comment at short
  split
  · rename_i empty
    rw [List.isEmpty_iff.mp empty]
    exact between_line (Nat.le_add_right _ _)
  · exact (between_line (Nat.le_add_right _ comment.length)).append
      (between_line (by omega)) (not_before_iff.mpr (by omega)) (not_before_iff.mpr (by omega))

theorem flat_closeBlocks {indents outer : List Nat}
    (closed : closeBlocks line column width indents = .ok (raws, outer)) :
    ∀ span ∈ raws.map (·.span), span = ⟨⟨line, width⟩, ⟨line, width⟩⟩ := by
  induction indents generalizing raws outer with
  | nil =>
      rw [closeBlocks] at closed
      split at closed <;> cases closed
      simp
  | cons indent rest ih =>
      rw [closeBlocks] at closed
      split at closed
      · obtain ⟨result, inner, same⟩ := Lists.exists_of_bind closed
        cases same
        exact List.forall_mem_cons.mpr ⟨rfl, ih inner⟩
      · split at closed <;> cases closed
        simp

theorem between_openStatement {blanks : List Char}
    (opened : openStatement line blanks state = .ok (raws, after)) :
    Span.Between ⟨line, 0⟩ ⟨line, blanks.length⟩ (raws.map (·.span)) ∧
      after.literal = state.literal := by
  rw [openStatement] at opened
  dsimp only at opened
  split at opened
  · cases opened
    exact ⟨between_line (Nat.zero_le _), rfl⟩
  · obtain ⟨result, closed, same⟩ := Lists.exists_of_bind opened
    cases same
    exact ⟨Span.Between.nil.append (.of_flat (flat_closeBlocks closed))
      (not_before_iff.mpr (Nat.zero_le _)) (Position.before_irrefl _), rfl⟩

theorem follow_finish {lastLine : List Char} (positive : 0 < line) :
    Span.Follow ⟨line - 1, lastLine.length⟩ ((finish line lastLine state).map (·.span)) := by
  have flat : Span.Between ⟨line, 0⟩ ⟨line, 0⟩
      ((state.indents.map (fun _ => RawToken.mk .dedent [] ⟨line, 0⟩ ⟨line, 0⟩) ++
        [RawToken.mk .endMarker [] ⟨line, 0⟩ ⟨line, 0⟩]).map (·.span)) := by
    refine .of_flat fun span member => ?_
    simp only [List.map_append, List.map_map, List.mem_append, List.mem_map] at member
    rcases member with ⟨_, -, rfl⟩ | ⟨_, listed, rfl⟩
    · rfl
    · rw [List.mem_singleton.mp listed]
      rfl
  have early : (⟨line - 1, lastLine.length⟩ : Position).before ⟨line, 0⟩ = true :=
    before_of_line_lt (Nat.sub_lt positive Nat.one_pos)
  rw [finish, List.append_assoc, List.map_append]
  refine Span.Between.append_follow ?_ flat.toFollow (Position.not_before_of_before early)
  generalize (_ || _ : Bool) = complete
  cases complete with
  | true => exact .nil
  | false =>
      refine .of_early ?_ (.inl ?_)
      · exact Position.before_irrefl _
      · exact early

/-- The raw tokens of the lines from number `line` on follow each other, whatever the state is
before them. -/
def Follows (line : Nat) (lastLine : List Char) (lines : List (List Char)) : Prop :=
  ∀ state raws, scanLines line lastLine state lines = .ok raws →
    (∀ literal ∈ state.literal, literal.start.line < line) →
      Span.Follow (state.reached ⟨line - 1, lastLine.length⟩) (raws.map (·.span))

variable {lastLine rest : List Char} {lines : List (List Char)} {later : List RawToken}

/-- The rest of a line, and the lines after it. -/
theorem Follows.of_rest {fuel : Nat} (follows : Follows (line + 1) text lines)
    (none : state.literal = none) (total : column + rest.length = text.length)
    (scanned : scanLines (line + 1) text (scanRest line fuel column rest state).2 lines =
      .ok later) :
    Span.Follow ⟨line, column⟩
      (((scanRest line fuel column rest state).1 ++ later).map (·.span)) := by
  obtain ⟨between, further, inside⟩ := @runs_scanRest line column rest state fuel none
  rw [total] at between further
  rw [List.map_append]
  exact between.append_follow (follows _ _ scanned fun literal member =>
    (inside literal member).trans_lt (Nat.lt_succ_self _)) further

/-- A line that a literal goes on in. -/
theorem Follows.of_literal {literal : OpenLiteral} (follows : Follows (line + 1) text lines)
    (unclosed : state.literal = some literal) (earlier : literal.start.line < line)
    (scanned : scanLines line lastLine state (text :: lines) = .ok raws) :
    Span.Follow literal.start (raws.map (·.span)) := by
  have first (place : Nat) :
      Span.Between literal.start ⟨line, place⟩ [⟨literal.start, ⟨line, place⟩⟩] :=
    .of_early (Position.before_irrefl _) (.inl (before_of_line_lt earlier))
  have reached (place : Nat) : (⟨line, place⟩ : Position).before literal.start = false :=
    Position.not_before_of_before (before_of_line_lt earlier)
  rw [scanLines, unclosed] at scanned
  dsimp only at scanned
  split at scanned
  · rename_i n closed
    obtain ⟨later, behind, same⟩ := Lists.exists_of_bind scanned
    cases same
    refine (first n).append_follow (follows.of_rest rfl ?_ behind) (reached n)
    rw [List.length_drop]
    exact Nat.add_sub_cancel' (closing_le closed)
  · split at scanned
    · obtain ⟨later, behind, same⟩ := Lists.exists_of_bind scanned
      cases same
      exact (first text.length).append_follow (follows _ _ behind (by simp)) (reached text.length)
    · exact follows _ _ scanned fun _ same => by
        cases same
        exact earlier.trans (Nat.lt_succ_self _)

/-- A line that starts outside literals. -/
theorem Follows.of_none (follows : Follows (line + 1) text lines) (none : state.literal = none)
    (positive : 0 < line) (scanned : scanLines line lastLine state (text :: lines) = .ok raws) :
    Span.Follow ⟨line - 1, lastLine.length⟩ (raws.map (·.span)) := by
  have back (place : Nat) : (⟨line, place⟩ : Position).before ⟨line - 1, lastLine.length⟩ = false :=
    Position.not_before_of_before (before_of_line_lt (Nat.sub_lt positive Nat.one_pos))
  rw [scanLines, none] at scanned
  dsimp only at scanned
  split at scanned
  · have total : (text.takeWhile isInlineBlank).length +
        (text.drop (text.takeWhile isInlineBlank).length).length = text.length := by
      rw [List.length_drop]
      exact Nat.add_sub_cancel' (List.takeWhile_sublist isInlineBlank).length_le
    generalize text.drop (text.takeWhile isInlineBlank).length = rest at scanned total
    split at scanned
    · cases scanned
      exact follow_finish positive
    · split at scanned
      · obtain ⟨later, behind, same⟩ := Lists.exists_of_bind scanned
        cases same
        have idle := @between_idleLine line (text.takeWhile isInlineBlank).length rest
        rw [total] at idle
        have next := follows _ _ behind (by simp [none])
        rw [State.reached_of_none none] at next
        rw [List.map_append]
        exact (idle.append_follow next (not_before_iff.mpr (by omega))).of_reached (back _)
      · obtain ⟨⟨changes, entered⟩, begun, scanned⟩ := Lists.exists_of_bind scanned
        obtain ⟨later, behind, same⟩ := Lists.exists_of_bind scanned
        cases same
        obtain ⟨before, literal⟩ := between_openStatement begun
        rw [List.append_assoc, List.map_append]
        exact (before.append_follow (follows.of_rest (literal.trans none) total behind)
          (not_before_iff.mpr (Nat.zero_le _))).of_reached (back _)
  · obtain ⟨later, behind, same⟩ := Lists.exists_of_bind scanned
    cases same
    exact (follows.of_rest rfl (Nat.zero_add _) behind).of_reached (back _)

/-- The raw tokens of the lines from number `line` on follow each other. -/
theorem follows_lines (positive : 0 < line) : Follows line lastLine lines := by
  induction lines generalizing line lastLine with
  | nil =>
      intro state raws scanned opened
      rw [scanLines] at scanned
      split at scanned
      · cases scanned
      · rename_i none
        split at scanned <;> cases scanned
        rw [State.reached_of_none none]
        exact follow_finish positive
  | cons text lines ih =>
      intro state raws scanned opened
      have follows : Follows (line + 1) text lines := ih (Nat.succ_pos _)
      cases found : state.literal with
      | some literal =>
          rw [State.reached, found]
          exact follows.of_literal found (opened literal found) scanned
      | none =>
          rw [State.reached_of_none found]
          exact follows.of_none found positive scanned

end Scan

/-! ### Streams -/

namespace Token

variable {source : List Char} {tokens : List Token}

/-- The stretch of text that a token takes. -/
def span (token : Token) : Span := ⟨token.start, token.stop⟩

/-- A stream keeps the order of raw tokens. -/
theorem sublist_streamFrom (index : Nat) (trivia : List String) (raws : List RawToken) :
    ((streamFrom index trivia raws).map (·.span)).Sublist (raws.map (·.span)) := by
  induction raws generalizing index trivia with
  | nil => exact .slnil
  | cons raw later ih =>
      rw [streamFrom]
      split
      · exact (ih _ _).cons _
      · split
        · exact (ih _ _).cons _
        · exact (ih _ _).cons_cons _

/-- The tokens of a source text follow each other. -/
theorem precedes_of_lex (read : lex source = .ok tokens) :
    tokens.Pairwise fun left right => left.span.Precedes right.span := by
  obtain ⟨raws, scanned, rfl⟩ := exists_scan_of_lex read
  have follow := Scan.follows_lines Nat.one_pos _ _ scanned (by simp [Scan.State.initial])
  exact List.pairwise_map.mp (follow.inOrder.sublist (sublist_streamFrom _ _ _))

/-- No two tokens of some width start at one place. -/
def Apart (tokens : List Token) : Prop :=
  tokens.Pairwise fun left right =>
    left.start = right.start → left.isEmpty = true ∨ right.isEmpty = true

theorem Apart.eq {left right : Token} (apart : Apart tokens) (inLeft : left ∈ tokens)
    (inRight : right ∈ tokens) (same : left.start = right.start) (wide : left.isEmpty = false)
    (wide' : right.isEmpty = false) : left = right := by
  have symmetric : Std.Symm fun left right : Token =>
      left.start = right.start → left.isEmpty = true ∨ right.isEmpty = true :=
    ⟨fun _ _ apart same => (apart same.symm).symm⟩
  by_contra other
  rcases apart.forall inLeft inRight other same with empty | empty
  · rw [wide] at empty
    cases empty
  · rw [wide'] at empty
    cases empty

/-- Tokens as a scan gives them: a stream without two tokens of some width at one place. -/
structure IsLexed (tokens : List Token) : Prop where
  isStream : IsStream tokens
  apart : Apart tokens

theorem IsLexed.numbered (lexed : IsLexed tokens) : Numbered tokens := by
  intro place token found
  have listed := congrArg (·[place]?) lexed.isStream.numbered
  simp only [List.getElem?_map, found, Option.map_some] at listed
  obtain ⟨inside, same⟩ := List.getElem?_eq_some_iff.mp listed.symm
  rw [← same, List.getElem_range]

/-- **The tokens of a source text follow each other.** They are numbered one by one, they stand in
the order of their starts, and no two of some width start at one place. -/
theorem isLexed_of_lex (read : lex source = .ok tokens) : IsLexed tokens where
  isStream := by
    refine ⟨?_, (precedes_of_lex read).imp @fun left right precedes => ?_⟩
    · refine List.ext_getElem (by rw [List.length_map, List.length_range]) fun place inside _ => ?_
      rw [List.getElem_map, List.getElem_range]
      exact index_of_lex read (List.getElem?_eq_getElem _)
    · rcases precedes with earlier | ⟨same, -⟩
      · exact Position.not_before_of_before earlier
      · replace same : left.start = right.start := same
        rw [same]
        exact Position.before_irrefl _
  apart := (precedes_of_lex read).imp fun precedes same => by
    rcases precedes with earlier | ⟨-, empty⟩
    · rw [span, span, same, Position.before_irrefl] at earlier
      cases earlier
    · exact empty.imp beq_iff_eq.mpr beq_iff_eq.mpr

end Token

end StructuralLint
