import StructuralLint.Position
import StructuralLint.Tree.Basic

/-!
# Drafts

A draft is a tree before its tokens are handed out: nodes with spans, and of the tokens only those
that a node claims by itself. The parts of a draft stand in source order; each one remembers in
which place it was given, which is the order that attributes have. What a node holds by its
attributes is told apart from its parts (`Fields`): nothing in a draft says that the two agree.
-/

namespace StructuralLint

/-- The role of a part, if it plays one, and its place among the parts as they were given. -/
structure Slot where
  role : Option Role
  place : Nat
deriving DecidableEq, Repr

/-- What a node holds by its attributes, which may be more or less than its parts. -/
structure Fields where
  /-- The tokens that play a part for the node. -/
  tokens : List (Role × Token)
  /-- A role for each node that plays a part. It names the first part in that role that no earlier
  one names. -/
  roles : List Role
deriving DecidableEq, Repr

namespace Fields

/-- The fields of a node without attributes. -/
def empty : Fields := ⟨[], []⟩

/-- Fields that hold tokens, and nodes in their roles. -/
def of {α : Type} (tokens : List (Role × Token)) (held : List (Role × List α)) : Fields :=
  ⟨tokens, held.flatMap fun (role, nodes) => List.replicate nodes.length role⟩

end Fields

/-- A node before its tokens are handed out. -/
inductive Draft where
  | leaf (token : Token)
  | node (form : Form) (span : Span) (fields : Fields) (parts : List (Slot × Draft))

namespace Draft

/-- The source text that the draft covers. -/
def span : Draft → Span
  | leaf token => ⟨token.start, token.stop⟩
  | node _ span _ _ => span

/-- Puts a part before the first one that starts after it or where it starts. -/
def insertPart (part : Slot × Draft) : List (Slot × Draft) → List (Slot × Draft)
  | [] => [part]
  | other :: rest =>
    if other.2.span.start.before part.2.span.start then other :: insertPart part rest
    else part :: other :: rest

/-- Parts in the order of their starts, with their places. Parts that start together stay as they
stand. -/
def arrange (parts : List (Option Role × Draft)) : List (Slot × Draft) :=
  (parts.zipIdx.map fun ((role, part), place) => (⟨role, place⟩, part)).foldr insertPart []

/-- The smallest span that holds `span` and all parts. -/
def coverParts (span : Span) (parts : List (Option Role × Draft)) : Span :=
  parts.foldl (fun span part => span.cover part.2.span) span

/-- A node with source text of its own. Parts may reach out of it. -/
def ofSpan (form : Form) (span : Span) (fields : Fields)
    (parts : List (Option Role × Draft)) : Draft :=
  node form (coverParts span parts) fields (arrange parts)

/-- A node that covers its parts and nothing else. -/
def ofParts (form : Form) (fields : Fields) (first : Option Role × Draft)
    (rest : List (Option Role × Draft)) : Draft :=
  node form (coverParts first.2.span rest) fields (arrange (first :: rest))

/-- Drafts that play one part. -/
def playing (role : Role) (drafts : List Draft) : List (Option Role × Draft) :=
  drafts.map fun draft => (some role, draft)

/-- Drafts that play no part. -/
def plain (drafts : List Draft) : List (Option Role × Draft) :=
  drafts.map fun draft => (none, draft)

end Draft

end StructuralLint
