import Mathlib.Data.List.Pairwise
import StructuralLint.Proofs.Tree.Parts
import StructuralLint.Proofs.Tree.Window

/-!
# Nested spans

The spans of a draft are nested when every part lies within its parent, no two parts of a node
overlap, and every node starts with a token that has some width (`Draft.Nested`). Parts with nested
spans find what they own in every window that holds it (`Draft.fits_of_nested`). Whether drafts
are nested can be computed (`Draft.nested_of_nestsAll`).
-/

namespace StructuralLint

namespace Span

/-- Whether a token has some width and starts where the span starts. -/
def opens (span : Span) (token : Token) : Bool :=
  token.start == span.start && !token.isEmpty

theorem opens_iff {span : Span} {token : Token} :
    span.opens token = true ↔ token.start = span.start ∧ token.isEmpty = false := by
  simp [opens]

/-- A span owns the token that opens it. -/
theorem owns_of_opens {span : Span} {token : Token} (proper : span.start.before span.stop = true)
    (opened : span.opens token = true) : span.owns token = true := by
  obtain ⟨same, wide⟩ := opens_iff.mp opened
  exact owns_iff.mpr ⟨same ▸ Position.before_irrefl _, same ▸ proper, fun _ => wide⟩

/-- A token of some width is owned by the span that it takes. -/
theorem owns_own {token : Token} (proper : token.start.before token.stop = true) :
    Span.owns ⟨token.start, token.stop⟩ token = true := by
  apply owns_of_opens proper
  rw [opens_iff, Token.isEmpty, beq_eq_false_iff_ne]
  refine ⟨rfl, fun same => ?_⟩
  rw [same, Position.before_irrefl] at proper
  cases proper

/-- What a span within another one owns is among what the other one owns. -/
theorem Within.filter_owns {inner outer : Span} (within : inner.Within outer)
    (stream : List Token) :
    (stream.filter outer.owns).filter inner.owns = stream.filter inner.owns := by
  rw [List.filter_filter]
  refine List.filter_congr fun token _ => ?_
  cases own : inner.owns token with
  | false => rfl
  | true => rw [owns_of_within within own]; rfl

/-- What stands where an inner span starts and is not owned by the outer one stands where the outer
one starts. -/
theorem Within.start_eq_of_not_owns {inner outer : Span} {token : Token}
    (within : inner.Within outer) (proper : inner.start.before inner.stop = true)
    (starts : token.start = inner.start) (other : outer.owns token = false) :
    token.start = outer.start := by
  by_contra apart
  refine Bool.eq_false_iff.mp other (owns_iff.mpr ⟨starts ▸ within.start, ?_, fun same => ?_⟩)
  · exact starts ▸ Position.before_of_before_of_not_before proper within.stop
  · exact absurd same apart

end Span

/-- A token stream: the tokens are numbered one by one and stand in the order of their starts. -/
structure Token.IsStream (tokens : List Token) : Prop where
  numbered : tokens.map (·.index) = List.range tokens.length
  inOrder : Token.InOrder tokens

namespace Draft

/-- Some token that starts at `start` has a width, and those that have none come before it. -/
structure Opens (stream : List Token) (start : Position) : Prop where
  wide : ∃ token ∈ stream, token.start = start ∧ token.isEmpty = false
  layoutFirst : Token.LayoutFirst start stream

instance (stream : List Token) (start : Position) : Decidable (Opens stream start) :=
  decidable_of_iff ((∃ token ∈ stream, token.start = start ∧ token.isEmpty = false) ∧
      Token.LayoutFirst start stream)
    ⟨fun ⟨wide, first⟩ => ⟨wide, first⟩, fun ⟨wide, first⟩ => ⟨wide, first⟩⟩

/-- A draft whose spans are nested. Tokens that a node claims count with their own start and
stop. -/
inductive Nested (stream : List Token) : Draft → Prop
  | leaf {token : Token} : token ∈ stream → token.start.before token.stop = true →
      Nested stream (.leaf token)
  | node {form : Form} {span : Span} {fields : Fields} {parts : List (Slot × Draft)} :
      span.start.before span.stop = true → Opens stream span.start → SideBySide parts →
        (∀ part ∈ parts, part.2.span.Within span) → (∀ part ∈ parts, Nested stream part.2) →
          Nested stream (.node form span fields parts)

end Draft

namespace Token.IsStream

variable {tokens : List Token}

theorem distinct (stream : IsStream tokens) : (tokens.map (·.index)).Nodup := by
  rw [stream.numbered]
  exact List.nodup_range

theorem increasing (stream : IsStream tokens) :
    tokens.Pairwise fun left right => left.index < right.index := by
  rw [← List.pairwise_map (R := (· < ·)), stream.numbered]
  exact List.pairwise_lt_range

end Token.IsStream

namespace Draft

variable {stream window : List Token}

/-- The first token that a span owns is the first one of some width where the span starts. -/
theorem Opens.find?_owns {span : Span} (opens : Opens stream span.start)
    (inOrder : Token.InOrder stream) (proper : span.start.before span.stop = true) :
    ∃ token, stream.find? span.owns = some token ∧ stream.find? span.opens = some token := by
  obtain ⟨wide, member, same, broad⟩ := opens.wide
  have opened : span.opens wide = true := Span.opens_iff.mpr ⟨same, broad⟩
  cases found : stream.find? span.owns with
  | none =>
      exact absurd (Span.owns_of_opens proper opened) (List.find?_eq_none.mp found wide member)
  | some token =>
      obtain ⟨own, before, after, split, passed⟩ := List.find?_eq_some_iff_append.mp found
      obtain ⟨reached, -, broad⟩ := Span.owns_iff.mp own
      have passed : ∀ other ∈ before, span.opens other = false := by
        refine fun other behind => Bool.eq_false_iff.mpr fun opened => ?_
        simpa [Span.owns_of_opens proper opened] using passed other behind
      -- the wide token is not passed by, so it does not start before the one that is found
      have starts : token.start = span.start := by
        have inOrder := inOrder
        rw [split] at member inOrder
        rcases List.mem_append.mp member with behind | ahead
        · rw [passed wide behind] at opened
          cases opened
        · rcases List.mem_cons.mp ahead with rfl | later
          · exact same
          · have ordered := (List.pairwise_append.mp inOrder).2.1
            have earlier := (List.pairwise_cons.mp ordered).1 wide later
            exact Position.eq_of_not_before reached (same ▸ earlier)
      refine ⟨token, rfl, List.find?_eq_some_iff_append.mpr
        ⟨Span.opens_iff.mpr ⟨starts, broad starts⟩, before, after, split, fun other behind => ?_⟩⟩
      rw [passed other behind]
      rfl

namespace Nested

theorem proper {draft : Draft} (nested : Nested stream draft) :
    draft.span.start.before draft.span.stop = true := by
  cases nested with
  | leaf _ proper => exact proper
  | node proper => exact proper

theorem layoutFirst {draft : Draft} (nested : Nested stream draft) (node : draft.isNode = true) :
    Token.LayoutFirst draft.span.start stream := by
  cases nested with
  | leaf => simp [isNode] at node
  | node _ opens => exact opens.layoutFirst

/-- A token that is claimed is owned by its own span. -/
theorem owns_leaf {token : Token} (nested : Nested stream (.leaf token)) :
    token ∈ stream ∧ (Draft.leaf token).span.owns token = true := by
  cases nested with
  | leaf member proper => exact ⟨member, Span.owns_own proper⟩

/-- What a node owns begins with the token that opens it. -/
theorem exists_opening {draft : Draft} (nested : Nested stream draft)
    (node : draft.isNode = true) (inOrder : Token.InOrder stream) :
    ∃ token rest, stream.filter draft.span.owns = token :: rest ∧
      stream.find? draft.span.opens = some token := by
  cases nested with
  | leaf => simp [isNode] at node
  | @node form span fields parts proper opens =>
      obtain ⟨token, owned, opened⟩ := opens.find?_owns inOrder proper
      rw [← List.head?_filter, List.head?_eq_some_iff] at owned
      obtain ⟨rest, split⟩ := owned
      exact ⟨token, rest, split, opened⟩

end Nested

/-- A part is the only one that owns something where it starts. -/
theorem Fits.eq_of_owns {parts : List (Slot × Draft)} {left right : Slot × Draft} {token : Token}
    (fits : Fits window parts) (inLeft : left ∈ parts) (inRight : right ∈ parts)
    (owned : right.2.span.owns token = true) (starts : token.start = left.2.span.start) :
    left = right := by
  have symmetric : Std.Symm fun left right : Slot × Draft => left.2.span.Apart right.2.span :=
    ⟨fun _ _ => Or.symm⟩
  by_contra other
  obtain ⟨reached, stop, -⟩ := Span.owns_iff.mp owned
  rw [starts] at reached stop
  rcases fits.sideBySide.apart.forall inLeft inRight other with behind | ahead
  · have proper := Position.before_of_before_of_not_before (fits.proper left inLeft) behind
    rw [proper] at reached
    cases reached
  · rw [stop] at ahead
    cases ahead

/-- Nested parts side by side fit a window that holds what they own. -/
theorem fits_of_nested {parts : List (Slot × Draft)} (ordered : Token.IsStream stream)
    (sideBySide : SideBySide parts) (nested : ∀ part ∈ parts, Nested stream part.2)
    (piece : window.Sublist stream)
    (owned : ∀ part ∈ parts, window.filter part.2.span.owns = stream.filter part.2.span.owns) :
    Fits window parts where
  inOrder := ordered.inOrder.sublist piece
  distinct := ordered.distinct.sublist (piece.map _)
  sideBySide := sideBySide
  proper := fun part member => (nested part member).proper
  layout := fun part member node => ((nested part member).layoutFirst node).sublist piece
  claimed := by
    intro slot token member
    obtain ⟨present, own⟩ := (nested _ member).owns_leaf
    have taken := List.mem_filter.mpr ⟨present, own⟩
    rw [← owned _ member] at taken
    exact List.mem_of_mem_filter taken

end Draft

/-! ### Drafts that are nested -/

namespace Draft

instance (parts : List (Slot × Draft)) : Decidable (SideBySide parts) :=
  decidable_of_iff ((parts.Pairwise fun left right =>
      right.2.span.start.before left.2.span.start = false) ∧
        parts.Pairwise fun left right => left.2.span.Apart right.2.span)
    ⟨fun ⟨inOrder, apart⟩ => ⟨inOrder, apart⟩, fun ⟨inOrder, apart⟩ => ⟨inOrder, apart⟩⟩

mutual

/-- Checks that the spans of a draft are nested. -/
def nests (stream : List Token) : Draft → Bool
  | leaf token => decide (token ∈ stream) && token.start.before token.stop
  | node _ span _ parts =>
    span.start.before span.stop && decide (Opens stream span.start) &&
      decide (SideBySide parts) && decide (∀ part ∈ parts, part.2.span.Within span) &&
      nestsAll stream parts

/-- Checks that the spans of parts are nested. -/
def nestsAll (stream : List Token) : List (Slot × Draft) → Bool
  | [] => true
  | (_, part) :: rest => nests stream part && nestsAll stream rest

end

mutual

theorem nested_of_nests {stream : List Token} :
    (draft : Draft) → nests stream draft = true → Nested stream draft
  | leaf token, passes => by
    rw [nests, Bool.and_eq_true, decide_eq_true_eq] at passes
    exact .leaf passes.1 passes.2
  | node form span fields parts, passes => by
    simp only [nests, Bool.and_eq_true, decide_eq_true_eq] at passes
    obtain ⟨⟨⟨⟨proper, opens⟩, sideBySide⟩, within⟩, below⟩ := passes
    exact .node proper opens sideBySide within (nested_of_nestsAll parts below)

theorem nested_of_nestsAll {stream : List Token} :
    (parts : List (Slot × Draft)) → nestsAll stream parts = true →
      ∀ part ∈ parts, Nested stream part.2
  | [], _ => by simp
  | (slot, part) :: rest, passes => by
    rw [nestsAll, Bool.and_eq_true] at passes
    intro other member
    rcases List.mem_cons.mp member with rfl | member
    · exact nested_of_nests part passes.1
    · exact nested_of_nestsAll rest passes.2 other member

end

theorem mem_of_mem_arrange {given : List (Option Role × Draft)} {part : Slot × Draft}
    (member : part ∈ arrange given) : (part.1.role, part.2) ∈ given := by
  rw [← map_role_slots given]
  exact List.mem_map.mpr ⟨part, (arrange_perm given).mem_iff.mp member, rfl⟩

theorem exists_mem_arrange {given : List (Option Role × Draft)} {part : Option Role × Draft}
    (member : part ∈ given) :
    ∃ slot : Slot, slot.role = part.1 ∧ (slot, part.2) ∈ arrange given := by
  rw [← map_role_slots given] at member
  obtain ⟨⟨slot, draft⟩, among, rfl⟩ := List.mem_map.mp member
  exact ⟨slot, rfl, (arrange_perm given).mem_iff.mpr among⟩

theorem tokensAreLeaves_ofSpan {form : Form} {span : Span} {fields : Fields}
    {given : List (Option Role × Draft)} (other : ∀ token, form ≠ .token token)
    (below : ∀ part ∈ given, TokensAreLeaves part.2) :
    TokensAreLeaves (ofSpan form span fields given) :=
  .node other fun _ member => below _ (mem_of_mem_arrange member)

/-- A span that holds its parts is not widened by them. -/
theorem coverParts_eq {span : Span} {given : List (Option Role × Draft)}
    (within : ∀ part ∈ given, part.2.span.Within span) : coverParts span given = span := by
  induction given with
  | nil => rfl
  | cons part rest ih =>
      have first := within part List.mem_cons_self
      have same : span.cover part.2.span = span := by
        rw [Span.cover, Position.earlier, Position.later, first.start, first.stop]
        rfl
      rw [coverParts, List.foldl_cons, same]
      exact ih fun part member => within part (List.mem_cons_of_mem _ member)

end Draft

end StructuralLint
