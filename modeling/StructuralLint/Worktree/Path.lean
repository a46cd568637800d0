import StructuralLint.Text.Fields

/-!
# Paths

A path is the list of names on the way down from the root directory. `..` counts as a name: where
it leads depends on the links on the way (`FileTree.resolve`), and a path that has not been
followed keeps it. Paths are compared name by name.
-/

namespace StructuralLint

/-- The names on the way down from the root directory. -/
structure Path where
  names : List String
deriving DecidableEq, Repr

namespace Path

/-- The root directory. -/
def root : Path := ⟨[]⟩

/-- The path as it is written. -/
def text (path : Path) : String := "/" ++ "/".intercalate path.names

/-- The name that leads up. -/
def up : String := ".."

/-- The path one name further down. -/
def child (path : Path) (name : String) : Path := ⟨path.names ++ [name]⟩

/-- The path with its last name left out. The root directory is above itself. -/
def parent (path : Path) : Path := ⟨path.names.dropLast⟩

/-- The path with further names after it. -/
def append (path : Path) (names : List String) : Path := ⟨path.names ++ names⟩

/-- The names in a text. Empty names and the name of the directory itself lead nowhere and are
left out. -/
def namesIn (text : String) : List String :=
  ((Text.fields (· = '/') text.toList).map String.ofList).filter fun name => name ≠ "" && name ≠ "."

/-- Whether a text starts at the root directory. -/
def isAbsolute (text : String) : Bool := text.toList.head? = some '/'

/-- The path that a text writes, as seen from a directory. -/
def join (directory : Path) (text : String) : Path :=
  if isAbsolute text then ⟨namesIn text⟩ else directory.append (namesIn text)

/-- The names that lead from a path to another one at or below it. -/
def relativeTo? (path base : Path) : Option (List String) :=
  if base.names.isPrefixOf path.names then some (path.names.drop base.names.length) else none

/-- How a path is shown to someone in the directory `base`: by the names that lead there, or in
full if it is not below. -/
def shownFrom (path base : Path) : String :=
  match path.relativeTo? base with
  | some [] => "."
  | some names => "/".intercalate names
  | none => path.text

/-- The order of paths: name by name. -/
def precedes (a b : Path) : Bool := !(b.names < a.names)

@[simp] theorem child_names (path : Path) (name : String) :
    (path.child name).names = path.names ++ [name] := rfl

/-- Going down and up again leads back. -/
@[simp] theorem parent_child (path : Path) (name : String) : (path.child name).parent = path := by
  simp [parent, child]

/-- The names to a path below lead there. -/
theorem append_of_relativeTo? {path base : Path} {names : List String}
    (below : path.relativeTo? base = some names) : base.append names = path := by
  obtain ⟨all⟩ := path
  unfold relativeTo? at below
  split at below
  · next starts =>
    obtain ⟨rest, rfl⟩ := List.isPrefixOf_iff_prefix.mp starts
    obtain rfl := Option.some.inj below
    simp [append]
  · simp at below

end Path

end StructuralLint
