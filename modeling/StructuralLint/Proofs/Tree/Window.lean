import Mathlib.Data.List.TakeWhile
import StructuralLint.Proofs.Tree.Distribution

/-!
# Windows of the token stream

The tokens that are handed out to the parts of a node are found by scanning from left to right, each
scan starting where the last one stopped. When the tokens stand in order and the parts stand side by
side, the scans come to what the spans say: a part gets the tokens that its span owns
(`Draft.Fits.slotted_ofParts`), and what no span of a part owns stays with the node.
-/

namespace StructuralLint

namespace Span

/-- Whether a token belongs to a span: it starts in the span and is no layout where the span
starts. -/
def owns (span : Span) (token : Token) : Bool :=
  !token.start.before span.start && token.start.before span.stop &&
    !(token.start == span.start && token.isEmpty)

theorem owns_iff {span : Span} {token : Token} :
    span.owns token = true ↔ token.start.before span.start = false ∧
      token.start.before span.stop = true ∧
        (token.start = span.start → token.isEmpty = false) := by
  simp [owns, and_assoc, imp_iff_not_or]

/-- A span owns nothing that starts before it. -/
theorem not_owns_of_before {span : Span} {token : Token}
    (early : token.start.before span.start = true) : span.owns token = false := by
  simp [owns, early]

/-- The inner span lies within the outer one. -/
structure Within (inner outer : Span) : Prop where
  start : inner.start.before outer.start = false
  stop : outer.stop.before inner.stop = false

instance (inner outer : Span) : Decidable (inner.Within outer) :=
  decidable_of_iff (inner.start.before outer.start = false ∧ outer.stop.before inner.stop = false)
    ⟨fun ⟨start, stop⟩ => ⟨start, stop⟩, fun ⟨start, stop⟩ => ⟨start, stop⟩⟩

/-- A span owns what a span within it owns. -/
theorem owns_of_within {inner outer : Span} {token : Token} (within : inner.Within outer)
    (own : inner.owns token = true) : outer.owns token = true := by
  obtain ⟨start, stop, wide⟩ := owns_iff.mp own
  refine owns_iff.mpr ⟨Position.not_before_trans within.start start,
    Position.before_of_before_of_not_before stop within.stop, fun same => wide ?_⟩
  rw [same] at start ⊢
  exact Position.eq_of_not_before start within.start

/-- Neither of two spans starts in the other one. -/
def Apart (left right : Span) : Prop :=
  right.start.before left.stop = false ∨ left.start.before right.stop = false

instance (left right : Span) : Decidable (left.Apart right) := inferInstanceAs (Decidable (_ ∨ _))

end Span

namespace Token

/-- Tokens in the order of their starts. -/
def InOrder (tokens : List Token) : Prop :=
  tokens.Pairwise fun left right => right.start.before left.start = false

instance (tokens : List Token) : Decidable (InOrder tokens) :=
  inferInstanceAs (Decidable (List.Pairwise _ _))

/-- Where `start` is, tokens of no width come before the others. -/
def LayoutFirst (start : Position) (tokens : List Token) : Prop :=
  tokens.Pairwise fun left right =>
    left.start = start → right.start = start → right.isEmpty = true → left.isEmpty = true

instance (start : Position) (tokens : List Token) : Decidable (LayoutFirst start tokens) :=
  inferInstanceAs (Decidable (List.Pairwise _ _))

end Token

/-- Where a test only fails after it has failed, what is left after the first failure fails it. -/
theorem eq_false_of_mem_dropWhile {α : Type} {test : α → Bool} {items : List α}
    (falling : items.Pairwise fun left right => test right = true → test left = true) {item : α}
    (member : item ∈ items.dropWhile test) : test item = false := by
  induction items with
  | nil => simp at member
  | cons head rest ih =>
      obtain ⟨first, falling⟩ := List.pairwise_cons.mp falling
      rw [List.dropWhile_cons] at member
      split at member
      · exact ih falling member
      · rename_i failed
        rcases List.mem_cons.mp member with rfl | later
        · simpa using failed
        · exact Bool.eq_false_iff.mpr fun passed => failed (first item later passed)

namespace Draft

/-- Parts that do not overlap, in the order of their starts. -/
structure SideBySide (parts : List (Slot × Draft)) : Prop where
  inOrder : parts.Pairwise fun left right =>
    right.2.span.start.before left.2.span.start = false
  apart : parts.Pairwise fun left right => left.2.span.Apart right.2.span

/-- A later part starts where the first one stops, or after that. -/
theorem SideBySide.not_before_stop {part later : Slot × Draft} {parts : List (Slot × Draft)}
    (sideBySide : SideBySide (part :: parts))
    (proper : later.2.span.start.before later.2.span.stop = true) (member : later ∈ parts) :
    later.2.span.start.before part.2.span.stop = false := by
  rcases (List.pairwise_cons.mp sideBySide.apart).1 later member with apart | behind
  · exact apart
  · -- the first part would start behind the later one
    have ordered := (List.pairwise_cons.mp sideBySide.inOrder).1 later member
    rw [Position.before_of_before_of_not_before proper behind] at ordered
    cases ordered

/-- Parts to which tokens can be handed out as their spans say. -/
structure Fits (tokens : List Token) (parts : List (Slot × Draft)) : Prop where
  inOrder : Token.InOrder tokens
  distinct : (tokens.map (·.index)).Nodup
  sideBySide : SideBySide parts
  proper : ∀ part ∈ parts, part.2.span.start.before part.2.span.stop = true
  layout : ∀ part ∈ parts, part.2.isNode = true → Token.LayoutFirst part.2.span.start tokens
  claimed : ∀ slot token, (slot, leaf token) ∈ parts → token ∈ tokens

end Draft

namespace Branch

variable {span : Span} {tokens before others own after : List Token}

/-- Before a part stand the tokens that start before it, and the layout where it starts. -/
theorem early_of_splitBefore {start : Position}
    (split : splitBefore start tokens = (before, others)) {token : Token}
    (member : token ∈ before) :
    token.start.before start = true ∨ (token.start = start ∧ token.isEmpty = true) := by
  simp only [splitBefore, List.span_eq_takeWhile_dropWhile, Prod.mk.injEq] at split
  rw [← split.1] at member
  rcases List.mem_append.mp member with early | layout
  · have starts := List.mem_takeWhile_imp early
    exact .inl starts
  · exact .inr (by simpa using List.mem_takeWhile_imp layout)

private theorem reached_of_mem_dropWhile {start : Position} (inOrder : Token.InOrder tokens)
    {token : Token} (member : token ∈ tokens.dropWhile (·.start.before start)) :
    token.start.before start = false := by
  refine eq_false_of_mem_dropWhile (inOrder.imp ?_) member
  exact fun ordered early => Position.before_of_not_before_of_before ordered early

/-- From a part on stand the tokens that start there or later. -/
theorem reached_of_splitBefore {start : Position} (inOrder : Token.InOrder tokens)
    (split : splitBefore start tokens = (before, others)) {token : Token}
    (member : token ∈ others) : token.start.before start = false := by
  simp only [splitBefore, List.span_eq_takeWhile_dropWhile, Prod.mk.injEq] at split
  rw [← split.2] at member
  exact reached_of_mem_dropWhile inOrder ((List.dropWhile_sublist _).subset member)

/-- From a part on stand the tokens that start there or later, but no layout where it starts. -/
theorem late_of_splitBefore {start : Position} (inOrder : Token.InOrder tokens)
    (layout : Token.LayoutFirst start tokens)
    (split : splitBefore start tokens = (before, others)) {token : Token}
    (member : token ∈ others) :
    token.start.before start = false ∧ (token.start = start → token.isEmpty = false) := by
  refine ⟨reached_of_splitBefore inOrder split member, fun same => ?_⟩
  simp only [splitBefore, List.span_eq_takeWhile_dropWhile, Prod.mk.injEq] at split
  rw [← split.2] at member
  have both := (inOrder.and layout).sublist (List.dropWhile_sublist (·.start.before start))
  have passed := eq_false_of_mem_dropWhile (both.imp_of_mem ?_) member
  · simpa [same] using passed
  · rintro left right inLeft _ ⟨ordered, first⟩ empty
    simp only [Bool.and_eq_true, decide_eq_true_eq] at empty ⊢
    have opened : left.start = start :=
      Position.eq_of_not_before (reached_of_mem_dropWhile inOrder inLeft) (empty.1 ▸ ordered)
    exact ⟨opened, first opened empty.1 empty.2⟩

/-- **A scan takes what the span owns.** -/
theorem filter_owns_eq (inOrder : Token.InOrder tokens)
    (layout : Token.LayoutFirst span.start tokens)
    (split : splitBefore span.start tokens = (before, others))
    (divide : others.span (·.start.before span.stop) = (own, after)) :
    tokens.filter span.owns = own := by
  have late := @late_of_splitBefore _ _ _ _ inOrder layout split
  rw [← append_of_splitBefore split, ← append_of_span divide]
  rw [List.span_eq_takeWhile_dropWhile, Prod.mk.injEq] at divide
  obtain ⟨rfl, rfl⟩ := divide
  have falling : others.Pairwise fun left right =>
      right.start.before span.stop = true → left.start.before span.stop = true := by
    have part : others.Sublist tokens := by
      rw [← append_of_splitBefore split]
      exact List.sublist_append_right _ _
    exact (inOrder.sublist part).imp Position.before_of_not_before_of_before
  rw [List.filter_append, List.filter_append, List.filter_eq_nil_iff.mpr,
    List.filter_eq_self.mpr, List.filter_eq_nil_iff.mpr, List.nil_append, List.append_nil]
  · intro token member
    have stopped := eq_false_of_mem_dropWhile falling member
    simp [Span.owns, stopped]
  · intro token member
    obtain ⟨reached, wide⟩ := late ((List.takeWhile_sublist _).subset member)
    have inside := List.mem_takeWhile_imp member
    exact Span.owns_iff.mpr ⟨reached, inside, wide⟩
  · intro token member
    rcases early_of_splitBefore split member with early | ⟨same, empty⟩
    · simp [Span.not_owns_of_before early]
    · simp [Span.owns, same, empty]

end Branch

namespace Draft.Fits

variable {tokens passed after : List Token} {part later : Slot × Draft}
  {parts : List (Slot × Draft)}

theorem not_before_stop (fits : Fits tokens (part :: parts)) (member : later ∈ parts) :
    later.2.span.start.before part.2.span.stop = false :=
  fits.sideBySide.not_before_stop (fits.proper later (List.mem_cons_of_mem _ member)) member

/-- What starts before the stop of the first part concerns no later part. -/
theorem tail (fits : Fits (passed ++ after) (part :: parts))
    (early : ∀ token ∈ passed, token.start.before part.2.span.stop = true) : Fits after parts where
  inOrder := fits.inOrder.sublist (List.sublist_append_right _ _)
  distinct := fits.distinct.sublist ((List.sublist_append_right _ _).map _)
  sideBySide :=
    ⟨fits.sideBySide.inOrder.of_cons, fits.sideBySide.apart.of_cons⟩
  proper := fun part member => fits.proper part (List.mem_cons_of_mem _ member)
  layout := fun part member node =>
    (fits.layout part (List.mem_cons_of_mem _ member) node).sublist (List.sublist_append_right _ _)
  claimed := by
    intro slot token member
    rcases List.mem_append.mp (fits.claimed slot token (List.mem_cons_of_mem _ member)) with
      behind | ahead
    · have reached := fits.not_before_stop member
      rw [show (leaf token).span.start = token.start from rfl, early token behind] at reached
      cases reached
    · exact ahead

theorem filter_owns_tail (fits : Fits (passed ++ after) (part :: parts))
    (early : ∀ token ∈ passed, token.start.before part.2.span.stop = true)
    (member : later ∈ parts) :
    (passed ++ after).filter later.2.span.owns = after.filter later.2.span.owns := by
  rw [List.filter_append, List.filter_eq_nil_iff.mpr, List.nil_append]
  intro token behind
  rw [Span.not_owns_of_before (Position.before_of_before_of_not_before (early token behind)
    (fits.not_before_stop member))]
  simp

end Draft.Fits

namespace Branch

/-- A token that is claimed is found where it stands. -/
theorem ofParts_leaf_of_mem (slot : Slot) {token : Token} {tokens : List Token}
    (distinct : (tokens.map (·.index)).Nodup) (member : token ∈ tokens) :
    ∃ before after, before ++ token :: after = tokens ∧
      ∀ parts, ofParts ((slot, .leaf token) :: parts) tokens =
        leaves before ++ (none, leaf token) :: ofParts parts after := by
  obtain ⟨before, others, split⟩ : ∃ before others,
    tokens.span (·.index ≠ token.index) = (before, others) := ⟨_, _, rfl⟩
  have whole := append_of_span split
  have divided := split
  rw [List.span_eq_takeWhile_dropWhile, Prod.mk.injEq] at divided
  cases others with
  | nil =>
      have passed := List.dropWhile_eq_nil_iff.mp divided.2 token member
      simp at passed
  | cons own after =>
      have stopped : own.index = token.index := by
        have failed :=
          List.head?_dropWhile_not (fun other => decide (other.index ≠ token.index)) tokens
        rw [divided.2] at failed
        simpa using failed
      obtain rfl : own = token :=
        List.inj_on_of_nodup_map distinct (by simp [← whole]) member stopped
      exact ⟨before, after, whole, fun parts => by rw [ofParts, split]⟩

/-- What stands up to a token starts before the token stops. -/
theorem before_stop_of_append {before after : List Token} {token : Token}
    (inOrder : Token.InOrder (before ++ token :: after))
    (proper : token.start.before token.stop = true) :
    ∀ other ∈ before ++ [token], other.start.before token.stop = true := by
  intro other member
  rcases List.mem_append.mp member with behind | own
  · have earlier := (List.pairwise_append.mp inOrder).2.2 other behind token List.mem_cons_self
    exact Position.before_of_not_before_of_before earlier proper
  · rw [List.mem_singleton.mp own]
    exact proper

/-- The tokens that a span owns are found where they stand. -/
theorem ofParts_node_of_proper (slot : Slot) (form : Form) {span : Span}
    (fields : Fields) (children parts : List (Slot × Draft)) {tokens : List Token}
    (inOrder : Token.InOrder tokens) (layout : Token.LayoutFirst span.start tokens)
    (proper : span.start.before span.stop = true) :
    ∃ before after, before ++ (tokens.filter span.owns ++ after) = tokens ∧
      (∀ token ∈ before ++ tokens.filter span.owns, token.start.before span.stop = true) ∧
      ofParts ((slot, .node form span fields children) :: parts) tokens =
        leaves before ++ (some slot, ofDraft (.node form span fields children)
          (tokens.filter span.owns)) :: ofParts parts after := by
  rw [ofParts]
  split
  rename_i before others split
  split
  rename_i own after divide
  have taken := filter_owns_eq inOrder layout split divide
  refine ⟨before, after, ?_, fun token member => ?_, by rw [taken]⟩
  · rw [taken, append_of_span divide, append_of_splitBefore split]
  · rcases List.mem_append.mp member with behind | inside
    · rcases early_of_splitBefore split behind with early | ⟨same, -⟩
      · exact Position.before_trans early proper
      · exact same ▸ proper
    · exact (Span.owns_iff.mp (List.of_mem_filter inside)).2.1

/-- **Every part gets the tokens that its span owns.** -/
theorem slotted_ofParts {parts : List (Slot × Draft)} {tokens : List Token}
    (fits : Draft.Fits tokens parts) :
    slotted (ofParts parts tokens) = (parts.filter (·.2.isNode)).map fun part =>
      (part.1, ofDraft part.2 (tokens.filter part.2.span.owns)) := by
  induction parts generalizing tokens with
  | nil => rw [ofParts, slotted_leaves]; rfl
  | cons part parts ih =>
      obtain ⟨slot, draft⟩ := part
      -- what was passed by starts before the later parts, so that what they own is still there
      have rest : ∀ {passed after : List Token}, passed ++ after = tokens →
          (∀ token ∈ passed, token.start.before draft.span.stop = true) →
          slotted (ofParts parts after) = (parts.filter (·.2.isNode)).map fun part =>
            (part.1, ofDraft part.2 (tokens.filter part.2.span.owns)) := by
        rintro passed after rfl early
        rw [ih (fits.tail early)]
        refine List.map_congr_left fun later member => ?_
        rw [fits.filter_owns_tail early (List.mem_of_mem_filter member)]
      cases draft with
      | leaf token =>
          obtain ⟨before, after, split, same⟩ :=
            ofParts_leaf_of_mem slot fits.distinct (fits.claimed slot token List.mem_cons_self)
          rw [same, slotted_append, slotted_leaves, List.nil_append]
          exact @rest (before ++ [token]) after (by simp [← split])
            (before_stop_of_append (split ▸ fits.inOrder) (fits.proper _ List.mem_cons_self))
      | node form span fields children =>
          have layout : Token.LayoutFirst span.start tokens :=
            fits.layout _ List.mem_cons_self rfl
          obtain ⟨before, after, split, early, same⟩ := ofParts_node_of_proper slot form fields
            children parts fits.inOrder layout (fits.proper _ List.mem_cons_self)
          rw [same, slotted_append, slotted_leaves, List.nil_append,
            List.filter_cons_of_pos (by rfl), List.map_cons]
          exact congrArg (_ :: ·) (rest (by rw [List.append_assoc, split]) early)

end Branch

end StructuralLint
