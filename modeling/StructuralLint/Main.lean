import StructuralLint.CommandLine.Execution

/-!
# The program

Loads the files that a command line is about, runs the command line and prints the outcome. Nothing
is decided here. The program cannot put questions to version control, so all of them are refused.
-/

namespace StructuralLint.Loading

/-- What stands at a path on disk, no link followed. Of files that are not wanted the bytes are left
out. -/
def loadEntry (wanted : Bool) (place : Path) : IO (Option Entry) := do
  let onDisk := (← IO.currentDir) / place.text
  try
    match (← onDisk.symlinkMetadata).type with
    | .dir => return some .directory
    | .symlink => return some (.link (← IO.FS.realPath onDisk).toString)
    | _ => return some (.file (← if wanted then IO.FS.readBinFile onDisk else pure .empty))
  catch _ => return none

/-- Adds everything below a directory. -/
partial def loadBelow (tree : FileTree) (directory : Path) : IO FileTree := do
  let mut tree := tree
  for found in ← ((← IO.currentDir) / directory.text).readDir do
    let place := directory.child found.fileName
    match ← loadEntry (Change.namesSource found.fileName) place with
    | some .directory => tree ← loadBelow (tree.add place .directory) place
    | some entry => tree := tree.add place entry
    | none => pure ()
  return tree

/-- Adds what stands on the way from a directory by the given names, and tells where they lead. -/
def loadWay (tree : FileTree) (here : Path) : List String → IO (FileTree × Path)
  | [] => return (tree, here)
  | name :: rest => do
    if name = Path.up then loadWay tree here.parent rest
    else
      let next := here.child name
      match ← loadEntry rest.isEmpty next with
      | some (.link target) =>
        let place := Path.root.join target
        let tree := tree.add next (.link target)
        match ← loadEntry rest.isEmpty place with
        | some entry => loadWay (tree.add place entry) place rest
        | none => loadWay tree place rest
      | some entry => loadWay (tree.add next entry) next rest
      | none => loadWay tree next rest

/-- The files that a request is about. -/
def loadTree (here : Path) (request : CommandLine.Request) : IO FileTree := do
  let (tree, place) ← loadWay .empty .root (here.join request.path).names
  if tree.isDirectory place then loadBelow tree place else return tree

/-- Version control that refuses every question. -/
def refusing : History := fun _ => ⟨128, [], ""⟩

end StructuralLint.Loading

open StructuralLint StructuralLint.Loading in
/-- Runs the command line and gives its exit code. -/
def main (arguments : List String) : IO UInt32 := do
  let here := Path.root.join (← IO.currentDir).toString
  let setting := (← IO.getEnv capVariable).map String.toList
  let tree ← match CommandLine.Request.read arguments with
    | .ok request => loadTree here request
    | .error _ => pure FileTree.empty
  match CommandLine.execute refusing tree here setting arguments with
  | .ok (outcome, log) =>
    for shown in log.skipped do IO.eprintln ("Skipping " ++ shown)
    IO.print outcome.output
    IO.eprint outcome.errors
    return outcome.code.toUInt32
  | .error error =>
    IO.eprintln error.message
    return 1
