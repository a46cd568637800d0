import StructuralLint.Text.Quoted
import StructuralLint.Worktree.Path

/-!
# File trees

A file tree tells what stands at each path: a file, a directory or a symbolic link. Directories
are entries of their own, and no path has an entry below a link, so that the entries below a
directory are all that a search through it meets.

There are two ways to follow a path. `resolve` asks where a path would lead: links and `..` are
followed where they exist, and names that do not exist are kept. `find` asks what is there: every
directory on the way must exist.
-/

namespace StructuralLint

/-- What stands at a path. -/
inductive Entry where
  | file (bytes : ByteArray)
  | directory
  /-- A symbolic link; the text is a path seen from the directory that holds the link. -/
  | link (target : String)

/-- The entries of a file system. -/
structure FileTree where
  entries : List (Path × Entry)

/-- Why a path does not lead to a file. -/
inductive PathError where
  /-- Nothing is there. -/
  | missing
  /-- A name on the way is not a directory. -/
  | notDirectory
  /-- A directory is there. -/
  | directory
  /-- Links lead in a circle; the path is where the circle was noticed. -/
  | loop (path : Path)
deriving DecidableEq, Repr

/-- The text of the error. -/
def PathError.message : PathError → String
  | missing => "No such file or directory"
  | notDirectory => "Not a directory"
  | directory => "Is a directory"
  | loop path => "Symlink loop from " ++ Text.quoted path.text

namespace FileTree

/-- The tree with the root directory alone. -/
def empty : FileTree := ⟨[(.root, .directory)]⟩

variable (tree : FileTree)

/-- What stands at a path, no link followed. -/
def entry? (path : Path) : Option Entry :=
  (tree.entries.find? fun (place, _) => place = path).map (·.2)

/-- Puts an entry at a path, in place of the one that was there. -/
def put (path : Path) (entry : Entry) : FileTree :=
  ⟨tree.entries.filter (fun (place, _) => place ≠ path) ++ [(path, entry)]⟩

/-! ### Following paths -/

/-- Follows names from the directory `here`. `enter` decides whether the way may go on from a
place. `depth` bounds how deep links stand in the targets of links, and `active` are the links
whose targets are being followed: to meet one of them again is a circle. -/
def follow (enter : Path → Except PathError Unit) (depth : Nat) (active : List Path)
    (here : Path) : List String → Except PathError Path
  | [] => .ok here
  | name :: rest => do
    enter here
    if name = Path.up then follow enter depth active here.parent rest
    else
      let next := here.child name
      match tree.entry? next with
      | some (.link target) =>
        if active.contains next then throw (.loop (next.append rest))
        match depth with
        | 0 => throw (.loop (next.append rest))
        | inside + 1 =>
          let start := if Path.isAbsolute target then Path.root else here
          match follow enter inside (next :: active) start (Path.namesIn target) with
          | .ok place => follow enter (inside + 1) active place rest
          | .error (.loop path) => throw (.loop (path.append rest))
          | .error error => throw error
      | _ => follow enter depth active next rest
termination_by names => (depth, names.length)

/-- Where a path leads once all links are followed. Names that do not exist are kept. -/
def resolve (path : Path) : Except PathError Path :=
  tree.follow (fun _ => .ok ()) tree.entries.length [] .root path.names

/-- A place that one can go on from. -/
def enterDirectory (place : Path) : Except PathError Unit :=
  match tree.entry? place with
  | some .directory => .ok ()
  | some _ => .error .notDirectory
  | none => .error .missing

/-- The file or directory that a path leads to, and its place. -/
def find (path : Path) : Except PathError (Path × Entry) := do
  let place ← tree.follow tree.enterDirectory tree.entries.length [] .root path.names
  match tree.entry? place with
  | some entry => return (place, entry)
  | none => throw .missing

/-- Whether a path leads to a file. -/
def isFile (path : Path) : Bool :=
  match tree.find path with
  | .ok (_, .file _) => true
  | _ => false

/-- Whether a path leads to a directory. -/
def isDirectory (path : Path) : Bool :=
  match tree.find path with
  | .ok (_, .directory) => true
  | _ => false

/-- Whether a path leads anywhere. -/
def leadsSomewhere (path : Path) : Bool := (tree.find path).isOk

/-- The bytes of the file that a path leads to. -/
def read (path : Path) : Except PathError ByteArray := do
  match ← tree.find path with
  | (_, .file bytes) => return bytes
  | _ => throw .directory

/-! ### Building trees -/

/-- The paths above a path, from the root directory down. -/
def pathsAbove (path : Path) : List Path :=
  (List.range path.names.length).map fun depth => ⟨path.names.take depth⟩

/-- Adds an entry. Its directory is where the path leads once links are followed; directories that
are missing on the way are made. -/
def add (path : Path) (entry : Entry) : FileTree :=
  let place :=
    match tree.resolve path.parent, path.names.getLast? with
    | .ok directory, some name => directory.child name
    | _, _ => path
  let withParents := (pathsAbove place).foldl
    (fun tree above => if (tree.entry? above).isSome then tree else tree.put above .directory) tree
  withParents.put place entry

/-! ### Searching -/

/-- The paths below a directory whose last name passes a test, in order. Linked directories are
not searched. -/
def below (directory : Path) (test : String → Bool) : List Path :=
  let places := tree.entries.map (·.1)
  let found := places.filter fun place =>
    place ≠ directory && (place.relativeTo? directory).isSome && place.names.getLast?.any test
  found.mergeSort Path.precedes

end FileTree

end StructuralLint
