import Mathlib.Data.List.Flatten
import StructuralLint.Proofs.Check.BareRaise
import StructuralLint.Proofs.Tree.Opening

/-!
# The raise statements of a program

`BareRaise.raises` lists the `raise` statements of a program in the order in which a descent finds
them and in which `BareRaise.images` gives their nodes. Every relation of drafts and branches that
passes from a node to its parts holds of the draft of a statement and its node
(`BareRaise.related_imagesIn`). No `raise` stands in another one, so the tokens of the nodes of
`raise` statements follow each other in the stream (`Placed.sublist_tokens_raises`).
-/

namespace StructuralLint

open Program

/-- A `raise` statement. -/
structure RaiseStatement where
  span : Span
  exception : Option Expr
  cause : Option Expr

namespace RaiseStatement

/-- The statement as one of a program. -/
def stmt (raise : RaiseStatement) : Stmt := .raise raise.span raise.exception raise.cause

/-- The parts of the statement. -/
def parts (raise : RaiseStatement) (text : SourceText) : List Draft :=
  (Draft.ofExpr? text raise.exception).toList ++ (Draft.ofExpr? text raise.cause).toList

/-- A statement that holds its parts is drafted where it stands. -/
theorem span_ofStmt {raise : RaiseStatement} {text : SourceText}
    (within : ∀ part ∈ raise.parts text, part.span.Within (text.span raise.span)) :
    (Draft.ofStmt text raise.stmt).span = text.span raise.span := by
  rw [stmt, Draft.ofStmt, Draft.ofSpan, Draft.span]
  apply Draft.coverParts_eq
  intro part member
  refine within part.2 ?_
  rw [parts, List.mem_append]
  rcases List.mem_append.mp member with exception | cause
  · obtain ⟨draft, among, rfl⟩ := List.mem_map.mp exception
    exact .inl among
  · obtain ⟨draft, among, rfl⟩ := List.mem_map.mp cause
    exact .inr among

end RaiseStatement

namespace BareRaise

mutual

/-- The `raise` statements in a statement, in the order of the program. -/
def raisesIn : Stmt → List RaiseStatement
  | .simple .. | .imports .. | .scopeDeclaration .. => []
  | .raise span exception cause => [⟨span, exception, cause⟩]
  | .conditional _ _ body orelse | .whileLoop _ _ body orelse | .forLoop _ _ _ _ body orelse =>
    raisesInAll body ++ raisesInAll orelse
  | .tryBlock _ _ body handlers orelse final =>
    raisesInAll body ++ raisesInHandlers handlers ++ raisesInAll orelse ++ raisesInAll final
  | .withBlock _ _ body | .function _ _ _ _ _ _ body | .classDef _ _ _ _ _ body => raisesInAll body
  | .matchBlock _ _ cases => raisesInCases cases

/-- The `raise` statements in statements. -/
def raisesInAll : List Stmt → List RaiseStatement
  | [] => []
  | stmt :: rest => raisesIn stmt ++ raisesInAll rest

/-- The `raise` statements in `except` clauses. -/
def raisesInHandlers : List Handler → List RaiseStatement
  | [] => []
  | .mk _ _ _ body :: rest => raisesInAll body ++ raisesInHandlers rest

/-- The `raise` statements in `case` blocks. -/
def raisesInCases : List Case → List RaiseStatement
  | [] => []
  | .mk _ _ body :: rest => raisesInAll body ++ raisesInCases rest

end

/-- The `raise` statements of a program. -/
def raises (program : Program) : List RaiseStatement := raisesInAll program.body

/-- The `raise` statements that a descent reports. -/
def offending (program : Program) : List RaiseStatement :=
  (((found program).zip (raises program)).filter (·.1.reports)).map (·.2)

/-! ### Nodes of statements -/

section

open Draft (ofStmt ofStmts ofHandlers ofCases)

variable {text : SourceText} {R : Draft → Placed → Prop}

/-- The `raise` statements go together with these nodes, one by one. -/
abbrev Paired (R : Draft → Placed → Prop) (text : SourceText) (raises : List RaiseStatement)
    (images : List Placed) : Prop :=
  List.Forall₂ (fun raise image => R (ofStmt text raise.stmt) image) raises images

mutual

theorem related_imagesIn (passes : Placed.PassesDown R) : ∀ (stmt : Stmt) (placed : Placed),
    R (ofStmt text stmt) placed → Paired R text (raisesIn stmt) (imagesIn stmt placed)
  | .simple .., _, _ | .imports .., _, _ | .scopeDeclaration .., _, _ => by
    simp [raisesIn, imagesIn]
  | .raise .., placed, related => by
    rw [raisesIn, imagesIn]
    exact .cons related .nil
  | .conditional .., placed, related => by
    obtain ⟨block, others⟩ := Placed.paired_conditional passes related
    rw [raisesIn, imagesIn]
    exact List.rel_append (related_imagesInAll passes _ _ block)
      (related_imagesInAll passes _ _ others)
  | .whileLoop .., placed, related => by
    obtain ⟨block, others⟩ := Placed.paired_whileLoop passes related
    rw [raisesIn, imagesIn]
    exact List.rel_append (related_imagesInAll passes _ _ block)
      (related_imagesInAll passes _ _ others)
  | .forLoop .., placed, related => by
    obtain ⟨block, others⟩ := Placed.paired_forLoop passes related
    rw [raisesIn, imagesIn]
    exact List.rel_append (related_imagesInAll passes _ _ block)
      (related_imagesInAll passes _ _ others)
  | .tryBlock _ isStar _ _ _ _, placed, related => by
    obtain ⟨block, caught, others, last⟩ := Placed.paired_tryBlock passes related
    rw [raisesIn, imagesIn]
    exact List.rel_append (List.rel_append (List.rel_append (related_imagesInAll passes _ _ block)
      (related_imagesInHandlers passes isStar _ _ caught)) (related_imagesInAll passes _ _ others))
        (related_imagesInAll passes _ _ last)
  | .withBlock .., placed, related => by
    obtain ⟨-, block⟩ := Placed.paired_withBlock passes related
    rw [raisesIn, imagesIn]
    exact related_imagesInAll passes _ _ block
  | .matchBlock .., placed, related => by
    obtain ⟨-, blocks⟩ := Placed.paired_matchBlock passes related
    rw [raisesIn, imagesIn]
    exact related_imagesInCases passes _ _ blocks
  | .function .., placed, related => by
    rw [raisesIn, imagesIn]
    exact related_imagesInAll passes _ _ (Placed.paired_function passes related)
  | .classDef .., placed, related => by
    rw [raisesIn, imagesIn]
    exact related_imagesInAll passes _ _ (Placed.paired_classDef passes related)

theorem related_imagesInAll (passes : Placed.PassesDown R) : ∀ (stmts : List Stmt)
    (branches : List Placed), List.Forall₂ R (ofStmts text stmts) branches →
      Paired R text (raisesInAll stmts) (imagesInAll stmts branches)
  | [], [], _ => by simp [raisesInAll, imagesInAll]
  | stmt :: rest, placed :: others, .cons related paired => by
    rw [raisesInAll, imagesInAll]
    exact List.rel_append (related_imagesIn passes stmt placed related)
      (related_imagesInAll passes rest others paired)

theorem related_imagesInHandlers (passes : Placed.PassesDown R) (isStar : Bool) :
    ∀ (handlers : List Handler) (branches : List Placed),
      List.Forall₂ R (ofHandlers text isStar handlers) branches →
        Paired R text (raisesInHandlers handlers) (imagesInHandlers handlers branches)
  | [], [], _ => by simp [raisesInHandlers, imagesInHandlers]
  | .mk _ _ _ body :: rest, placed :: others, .cons related paired => by
    rw [raisesInHandlers, imagesInHandlers]
    exact List.rel_append (related_imagesInAll passes _ _ (Placed.paired_handler passes related))
      (related_imagesInHandlers passes isStar rest others paired)

theorem related_imagesInCases (passes : Placed.PassesDown R) : ∀ (cases : List Case)
    (branches : List Placed), List.Forall₂ R (ofCases text cases) branches →
      Paired R text (raisesInCases cases) (imagesInCases cases branches)
  | [], [], _ => by simp [raisesInCases, imagesInCases]
  | .mk _ _ body :: rest, placed :: others, .cons related paired => by
    rw [raisesInCases, imagesInCases]
    exact List.rel_append (related_imagesInAll passes _ _ (Placed.paired_case passes related).2)
      (related_imagesInCases passes rest others paired)

end

end

end BareRaise

/-! ### Tokens of raises -/

namespace Placed

variable {placed : Placed} {draft : Draft}

theorem exists_lies_of_mem_raises {raise : Placed} (member : raise ∈ placed.raises) :
    ∃ above, Lies placed raise above := by
  rw [raises, having] at member
  exact mem_preorder_iff.mp (List.mem_of_mem_filter member)

/-- No `raise` stands in another one. -/
theorem raises_of_form (completes : Branch.Completes draft placed.branch) (shaped : draft.Shaped)
    (form : placed.form = .raise) : placed.raises = [placed] := by
  have below := raises_perm completes shaped
  rw [if_pos form, form] at below
  exact List.perm_singleton.mp below

/-- The tokens of the `raise` statements below a node follow each other in its tokens. -/
theorem sublist_tokens_raises (completes : Branch.Completes draft placed.branch)
    (shaped : draft.Shaped) :
    (placed.raises.flatMap (·.branch.tokens)).Sublist placed.branch.tokens := by
  induction placed using Placed.induction generalizing draft with
  | step placed ih =>
      by_cases form : placed.form = .raise
      · rw [raises_of_form completes shaped form, List.flatMap_singleton]
      · have below : placed.raises = placed.children.flatMap (·.2.raises) := by
          rw [raises, having_eq, if_neg (by simpa using form), List.nil_append]
        rw [below, List.flatMap_assoc, tokens_eq_flatMap (isLeaf_of_completes completes)]
        refine List.Sublist.flatMap_right _ ?_
        rintro ⟨slot, child⟩ member
        rcases isLeaf_or_completes_child completes shaped member with
          ⟨leaf, -⟩ | ⟨part, sound, inner, -⟩
        · rw [show child.raises = [] from having_of_isLeaf (by simp) leaf]
          exact List.nil_sublist _
        · exact ih _ member inner sound

end Placed

end StructuralLint
