import StructuralLint.Proofs.Lists
import StructuralLint.Proofs.Tree.Lossless

/-!
# What a token stream keeps

A token stream takes up every raw token that is worth keeping, and nothing is changed about it but
that it gets a number and the comments before it. What is left out between two tokens, whether it is
a comment or not, never parts a comment from the token after it (`Token.streamFrom_append_unkept`).
As a scan always ends with the mark of the end of the text (`Scan.endsMarked_scanLines`), there is a
token after every comment, so that none is lost (`Token.stream_lossless`).
-/

namespace StructuralLint

namespace RawToken

/-- A raw token that a stream keeps. It leaves out comments, line ends inside statements, encoding
marks and stray blanks. -/
def isKept (raw : RawToken) : Bool :=
  match raw.type with
  | .comment | .lineBreak | .encoding => false
  | .stray => raw.text.isEmpty || raw.text.any (!Text.isBlank ·)
  | _ => true

/-- The token that a raw token becomes. -/
def token (raw : RawToken) (index : Nat) (trivia : List String) : Token :=
  ⟨raw.tokenType, String.ofList raw.text, raw.start, raw.stop, index, trivia⟩

/-- The texts of the comments, in order. -/
def comments (raws : List RawToken) : List String :=
  (raws.filter (·.type = .comment)).map fun raw => String.ofList raw.text

/-- The last raw token is the mark of the end of the text. -/
def EndsMarked (raws : List RawToken) : Prop := raws.getLast?.map (·.type) = some .endMarker

variable {raw : RawToken} {front raws : List RawToken}

theorem isKept_eq (raw : RawToken) :
    raw.isKept = (!decide (raw.type = .comment) && !raw.isDropped) := by
  unfold isKept isDropped
  cases raw.type <;> simp [List.any_eq_not_all_not]

theorem comments_append (left right : List RawToken) :
    comments (left ++ right) = comments left ++ comments right := by
  rw [comments, List.filter_append, List.map_append]
  rfl

theorem comments_of_isKept (kept : raw.isKept = true) : comments [raw] = [] := by
  rw [isKept_eq, Bool.and_eq_true, Bool.not_eq_true', decide_eq_false_iff_not] at kept
  rw [comments, List.filter_cons_of_neg (by simp [kept.1]), List.filter_nil, List.map_nil]

theorem comments_of_comment (comment : raw.type = .comment) :
    comments [raw] = [String.ofList raw.text] := by
  rw [comments, List.filter_cons_of_pos (by simp [comment]), List.filter_nil, List.map_singleton]

namespace EndsMarked

theorem append (ends : EndsMarked raws) (front : List RawToken) : EndsMarked (front ++ raws) := by
  unfold EndsMarked at *
  obtain ⟨last, found, marked⟩ := Option.map_eq_some_iff.mp ends
  rw [List.getLast?_append, found, Option.some_or, Option.map_some, marked]

theorem isKept_last {last : RawToken} (ends : EndsMarked (front ++ [last])) :
    last.isKept = true := by
  have marked : last.type = .endMarker := by
    rw [EndsMarked, List.getLast?_concat, Option.map_some] at ends
    exact Option.some.inj ends
  rw [isKept, marked]

/-- What is kept at the end comes after every comment. -/
theorem exists_first_isKept {before after : List RawToken} {comment : RawToken}
    (ends : EndsMarked (before ++ comment :: after)) (type : comment.type = .comment) :
    ∃ between raw later, after = between ++ raw :: later ∧
      (∀ other ∈ between, other.isKept = false) ∧ raw.isKept = true := by
  have some : ∃ last ∈ after, last.isKept = true := by
    rcases List.eq_nil_or_concat' after with rfl | ⟨front, last, rfl⟩
    · have kept := ends.isKept_last
      rw [isKept, type] at kept
      cases kept
    · rw [← List.cons_append, ← List.append_assoc] at ends
      exact ⟨last, List.mem_concat_self, ends.isKept_last⟩
  obtain ⟨raw, first⟩ := Option.isSome_iff_exists.mp (List.find?_isSome.mpr some)
  obtain ⟨kept, between, later, rfl, unkept⟩ := List.find?_eq_some_iff_append.mp first
  refine ⟨between, raw, later, rfl, fun other member => ?_, kept⟩
  exact (Bool.not_eq_true' _).mp (unkept other member)

end EndsMarked

end RawToken

open RawToken

/-! ### Streams -/

namespace Token

/-- The tokens are a stream of the raw ones. -/
structure StreamOf (raws : List RawToken) (tokens : List Token) : Prop where
  /-- They are the raw tokens that are kept, in order. -/
  kept : tokens.map (fun token => (token.type, token.value, token.start, token.stop)) =
    (raws.filter (·.isKept)).map fun raw =>
      (raw.tokenType, String.ofList raw.text, raw.start, raw.stop)
  numbered : ∀ (place : Nat) (token : Token), tokens[place]? = some token → token.index = place
  /-- No comment is lost, and none stands in two places. -/
  comments : tokens.flatMap (·.trivia) = comments raws
  /-- A comment is with the first token that is kept after it, before the comments that stand
  between the two. -/
  attached : ∀ before comment after, raws = before ++ comment :: after → comment.type = .comment →
    ∃ between raw later, after = between ++ raw :: later ∧
      (∀ other ∈ between, other.isKept = false) ∧ raw.isKept = true ∧
      ∃ earlier, tokens[(before.filter (·.isKept)).length]? = some
        (raw.token (before.filter (·.isKept)).length
          (earlier ++ String.ofList comment.text :: RawToken.comments between))

variable {raw : RawToken} {raws gap later : List RawToken} {index : Nat} {trivia : List String}

theorem streamFrom_of_isKept (kept : raw.isKept = true) :
    streamFrom index trivia (raw :: later) =
      raw.token index trivia :: streamFrom (index + 1) [] later := by
  rw [isKept_eq, Bool.and_eq_true, Bool.not_eq_true', Bool.not_eq_true', decide_eq_false_iff_not]
    at kept
  rw [streamFrom, if_neg kept.1, if_neg (by simp [kept.2])]
  rfl

/-- What is not kept leaves its comments. -/
theorem streamFrom_of_not_isKept (unkept : raw.isKept = false) :
    streamFrom index trivia (raw :: later) =
      streamFrom index (trivia ++ RawToken.comments [raw]) later := by
  rw [streamFrom]
  by_cases comment : raw.type = .comment
  · rw [if_pos comment]
    simp [RawToken.comments, comment]
  · have dropped : raw.isDropped = true := by
      rw [isKept_eq] at unkept
      simpa [comment] using unkept
    rw [if_neg comment, if_pos dropped]
    simp [RawToken.comments, comment]

/-- So does any number of raw tokens none of which is kept. -/
theorem streamFrom_append_unkept (unkept : ∀ raw ∈ gap, raw.isKept = false) :
    streamFrom index trivia (gap ++ later) =
      streamFrom index (trivia ++ RawToken.comments gap) later := by
  induction gap generalizing trivia with
  | nil => rw [List.nil_append, RawToken.comments, List.filter_nil, List.map_nil, List.append_nil]
  | cons raw rest ih =>
      rw [List.cons_append, streamFrom_of_not_isKept (unkept raw List.mem_cons_self),
        ih fun other member => unkept other (List.mem_cons_of_mem _ member), List.append_assoc,
        ← comments_append, List.singleton_append]

/-- A stream goes on from where another one ends, with the comments that are left over there. -/
theorem streamFrom_append (before : List RawToken) (index : Nat) (trivia : List String) :
    ∃ pending, ∀ later, streamFrom index trivia (before ++ later) =
      streamFrom index trivia before ++
        streamFrom (index + (before.filter (·.isKept)).length) pending later := by
  induction before generalizing index trivia with
  | nil => exact ⟨trivia, fun later => rfl⟩
  | cons raw rest ih =>
      by_cases kept : raw.isKept = true
      · obtain ⟨pending, split⟩ := ih (index + 1) []
        refine ⟨pending, fun later => ?_⟩
        rw [List.cons_append, streamFrom_of_isKept kept, streamFrom_of_isKept kept, split,
          List.filter_cons_of_pos kept, List.length_cons, Nat.add_assoc, Nat.add_comm 1,
          List.cons_append]
      · obtain ⟨pending, split⟩ := ih index (trivia ++ RawToken.comments [raw])
        have unkept := Bool.eq_false_of_not_eq_true kept
        refine ⟨pending, fun later => ?_⟩
        rw [List.cons_append, streamFrom_of_not_isKept unkept, streamFrom_of_not_isKept unkept,
          split, List.filter_cons_of_neg kept]

theorem map_streamFrom (raws : List RawToken) (index : Nat) (trivia : List String) :
    (streamFrom index trivia raws).map
        (fun token => (token.type, token.value, token.start, token.stop)) =
      (raws.filter (·.isKept)).map fun raw =>
        (raw.tokenType, String.ofList raw.text, raw.start, raw.stop) := by
  induction raws generalizing index trivia with
  | nil => rfl
  | cons raw rest ih =>
      by_cases kept : raw.isKept = true
      · rw [streamFrom_of_isKept kept, List.filter_cons_of_pos kept, List.map_cons, List.map_cons,
          ih]
        rfl
      · rw [streamFrom_of_not_isKept (Bool.eq_false_of_not_eq_true kept),
          List.filter_cons_of_neg kept, ih]

theorem length_streamFrom (raws : List RawToken) (index : Nat) (trivia : List String) :
    (streamFrom index trivia raws).length = (raws.filter (·.isKept)).length := by
  have lengths := congrArg List.length (map_streamFrom raws index trivia)
  rwa [List.length_map, List.length_map] at lengths

/-- Before a last token that is kept, no comment is left over. -/
theorem flatMap_trivia_streamFrom {last : RawToken} (kept : last.isKept = true)
    (front : List RawToken) (index : Nat) (trivia : List String) :
    (streamFrom index trivia (front ++ [last])).flatMap (·.trivia) =
      trivia ++ RawToken.comments front := by
  induction front generalizing index trivia with
  | nil =>
      rw [List.nil_append, streamFrom_of_isKept kept]
      rfl
  | cons raw rest ih =>
      have comments : RawToken.comments (raw :: rest) =
          RawToken.comments [raw] ++ RawToken.comments rest := comments_append [raw] rest
      rw [comments, List.cons_append]
      by_cases kept' : raw.isKept = true
      · rw [streamFrom_of_isKept kept', List.flatMap_cons, ih, comments_of_isKept kept']
        rfl
      · rw [streamFrom_of_not_isKept (Bool.eq_false_of_not_eq_true kept'), ih, List.append_assoc]

/-- A comment stands in the trivia of the first raw token that is kept after it. -/
theorem getElem?_stream {before between : List RawToken} {comment : RawToken}
    (type : comment.type = .comment) (unkept : ∀ other ∈ between, other.isKept = false)
    (kept : raw.isKept = true) :
    ∃ earlier, (stream (before ++ comment :: (between ++ raw :: later)))[
        (before.filter (·.isKept)).length]? =
      some (raw.token (before.filter (·.isKept)).length
        (earlier ++ String.ofList comment.text :: RawToken.comments between)) := by
  have left : comment.isKept = false := by rw [isKept, type]
  obtain ⟨pending, split⟩ := streamFrom_append before 0 []
  refine ⟨pending, ?_⟩
  rw [stream, split, List.getElem?_append_right (length_streamFrom ..).le, length_streamFrom,
    Nat.sub_self, Nat.zero_add, streamFrom_of_not_isKept left, streamFrom_append_unkept unkept,
    streamFrom_of_isKept kept, List.getElem?_cons_zero, comments_of_comment type,
    List.append_assoc, List.singleton_append]

/-- A stream of raw tokens that are complete. -/
theorem streamOf_stream (ends : EndsMarked raws) : StreamOf raws (stream raws) where
  kept := map_streamFrom raws 0 []
  numbered place token found := by rw [index_of_streamFrom found, Nat.zero_add]
  comments := by
    rcases List.eq_nil_or_concat' raws with rfl | ⟨front, last, rfl⟩
    · cases ends
    · have kept := ends.isKept_last
      rw [stream, flatMap_trivia_streamFrom kept, List.nil_append, comments_append,
        comments_of_isKept kept, List.append_nil]
  attached before comment after same type := by
    subst same
    obtain ⟨between, raw, later, rfl, unkept, kept⟩ := ends.exists_first_isKept type
    exact ⟨between, raw, later, rfl, unkept, kept, getElem?_stream type unkept kept⟩

end Token

/-! ### Scans -/

namespace Scan

variable {line : Nat} {lastLine : List Char} {state : State} {lines : List (List Char)}
  {raws : List RawToken}

theorem endsMarked_finish : EndsMarked (finish line lastLine state) := by
  have alone : EndsMarked [⟨.endMarker, [], ⟨line, 0⟩, ⟨line, 0⟩⟩] := rfl
  exact alone.append _

/-- A scan that does not fail goes on to the end of the text. -/
theorem endsMarked_scanLines (scanned : scanLines line lastLine state lines = .ok raws) :
    EndsMarked raws := by
  induction lines generalizing line lastLine state raws with
  | nil =>
      rw [scanLines] at scanned
      split at scanned
      · cases scanned
      · split at scanned <;> cases scanned
        exact endsMarked_finish
  | cons text lines ih =>
      -- Each line leaves its raw tokens in front of those of the lines after it.
      have front (tokens : List RawToken) {number : Nat} {next : State}
          (scanned : (scanLines number text next lines >>= fun later =>
            pure (tokens ++ later)) = .ok raws) : EndsMarked raws := by
        obtain ⟨later, behind, same⟩ := Lists.exists_of_bind scanned
        cases same
        exact (ih behind).append tokens
      rw [scanLines] at scanned
      split at scanned
      · split at scanned
        · exact front _ scanned
        · split at scanned
          · exact front [_] scanned
          · exact ih scanned
      · split at scanned
        · dsimp only at scanned
          split at scanned
          · cases scanned
            exact endsMarked_finish
          · split at scanned
            · exact front _ scanned
            · obtain ⟨opened, -, scanned⟩ := Lists.exists_of_bind scanned
              exact front _ scanned
        · exact front _ scanned

end Scan

/-- **A token stream loses neither a comment nor a token.** If the raw tokens go on to the end of
the text, the tokens are those that are kept, as they are and numbered by their places, and each
comment is with the first of them after it. So it is with the tokens of every source text that can
be scanned. -/
theorem Token.stream_lossless :
    (∀ raws, EndsMarked raws → StreamOf raws (stream raws)) ∧
    ∀ source tokens, lex source = .ok tokens →
      ∃ raws, scan source = .ok raws ∧ StreamOf raws tokens := by
  refine ⟨fun raws => streamOf_stream, fun source tokens read => ?_⟩
  obtain ⟨raws, scanned, rfl⟩ := exists_scan_of_lex read
  exact ⟨raws, scanned, streamOf_stream (Scan.endsMarked_scanLines scanned)⟩

/-- Two comments with a line end and a stray blank between them, then a stray sign. -/
def remarkedSign : List RawToken :=
  [⟨.comment, "# a".toList, ⟨1, 0⟩, ⟨1, 3⟩⟩, ⟨.lineBreak, ['\n'], ⟨1, 3⟩, ⟨1, 4⟩⟩,
    ⟨.stray, [' '], ⟨2, 0⟩, ⟨2, 1⟩⟩, ⟨.comment, "# b".toList, ⟨2, 1⟩, ⟨2, 4⟩⟩,
    ⟨.lineBreak, ['\n'], ⟨2, 4⟩, ⟨2, 5⟩⟩, ⟨.stray, ['?'], ⟨3, 0⟩, ⟨3, 1⟩⟩,
    ⟨.endMarker, [], ⟨4, 0⟩, ⟨4, 0⟩⟩]

/-- Both comments go to the stray sign. In a call over three lines the comment after the bracket
goes to the number below it, and the last one to the end of the line. -/
theorem Token.stream_lossless_remarkedSign :
    (EndsMarked remarkedSign ∧ StreamOf remarkedSign (stream remarkedSign) ∧
      stream remarkedSign =
        [⟨.other, "?", ⟨3, 0⟩, ⟨3, 1⟩, 0, ["# a", "# b"]⟩,
          ⟨.endMarker, "", ⟨4, 0⟩, ⟨4, 0⟩, 1, []⟩]) ∧
    ∃ tokens, lex "f( # a\n\n1) # b".toList = .ok tokens ∧
      (∃ raws, scan "f( # a\n\n1) # b".toList = .ok raws ∧ StreamOf raws tokens) ∧
        tokens.map (fun token => (token.value, token.trivia)) =
          [("f", []), ("(", []), ("1", ["# a"]), (")", []), ("", ["# b"]), ("", [])] := by
  obtain ⟨tokens, read, values⟩ := Lists.exists_of_toOption_map
    (show (lex "f( # a\n\n1) # b".toList).toOption.map
        (List.map fun token => (token.value, token.trivia)) =
      some [("f", []), ("(", []), ("1", ["# a"]), (")", []), ("", ["# b"]), ("", [])] by
        decide +kernel)
  exact ⟨⟨rfl, stream_lossless.1 remarkedSign rfl, by decide +kernel⟩, tokens, read,
    stream_lossless.2 _ tokens read, values⟩

end StructuralLint
