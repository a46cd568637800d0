/-!
# Positions and spans

A position is a line, counted from one, and a column, counted from zero. Positions are ordered as
they follow each other in a text: by line, then by column.
-/

namespace StructuralLint

/-- A place between two characters of a text. -/
@[ext]
structure Position where
  line : Nat
  column : Nat
deriving Repr, Inhabited

-- Field by field: a derived instance would carry proofs of equality, which slow down evaluation.
instance : DecidableEq Position := fun p q =>
  decidable_of_iff (p.line = q.line ∧ p.column = q.column) Position.ext_iff.symm

namespace Position

/-- Whether a position stands before another one. -/
def before (p q : Position) : Bool :=
  p.line < q.line || (p.line == q.line && p.column < q.column)

/-- The earlier of two positions. -/
def earlier (p q : Position) : Position := if q.before p then q else p

/-- The later of two positions. -/
def later (p q : Position) : Position := if p.before q then q else p

theorem before_iff {p q : Position} :
    p.before q = true ↔ p.line < q.line ∨ (p.line = q.line ∧ p.column < q.column) := by
  simp [before]

theorem before_irrefl (p : Position) : p.before p = false := by
  simp [before]

theorem before_trans {p q r : Position} (left : p.before q = true) (right : q.before r = true) :
    p.before r = true := by
  rw [before_iff] at *
  omega

theorem not_before_of_before {p q : Position} (earlier : p.before q = true) :
    q.before p = false := by
  rw [← Bool.not_eq_true]
  rw [before_iff] at *
  omega

theorem not_before_trans {p q r : Position} (left : q.before p = false)
    (right : r.before q = false) : r.before p = false := by
  rw [← Bool.not_eq_true, before_iff] at *
  omega

theorem before_of_before_of_not_before {p q r : Position} (left : p.before q = true)
    (right : r.before q = false) : p.before r = true := by
  rw [← Bool.not_eq_true] at right
  rw [before_iff] at *
  omega

theorem before_of_not_before_of_before {p q r : Position} (left : q.before p = false)
    (right : q.before r = true) : p.before r = true := by
  rw [← Bool.not_eq_true] at left
  rw [before_iff] at *
  omega

/-- Of two positions neither of which stands before the other, both are the same. -/
theorem eq_of_not_before {p q : Position} (left : p.before q = false)
    (right : q.before p = false) : p = q := by
  cases p
  cases q
  simp only [← Bool.not_eq_true, before_iff] at left right
  simp only [mk.injEq] at *
  omega

end Position

/-- A stretch of text, from `start` up to but not including `stop`. -/
structure Span where
  start : Position
  stop : Position
deriving DecidableEq, Repr, Inhabited

/-- The smallest span that holds both. -/
def Span.cover (left right : Span) : Span :=
  ⟨left.start.earlier right.start, left.stop.later right.stop⟩

end StructuralLint
