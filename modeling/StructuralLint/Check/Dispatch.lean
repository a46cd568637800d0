import StructuralLint.Report.Issue
import StructuralLint.Tree.Walk

/-!
# Dispatch

A check registers consumers for the kinds of nodes that it cares about. A scan then walks a tree
once and gives every node to the consumers of its kind, in the order in which they were registered.
Consumers can be registered only while a check is being set up, never between scans.
-/

namespace StructuralLint

/-- Why a scan cannot go on: a check relies on a part that a node does not have. -/
inductive CheckError where
  | missingPart
deriving DecidableEq, Repr

/-- A node to report, with a message. -/
structure Finding where
  node : NodeId
  message : String
deriving DecidableEq, Repr

/-- Where issues come from: the file that is scanned and the key of the check. -/
structure Origin where
  filePath : String
  ruleKey : String
deriving DecidableEq, Repr

/-- A result that may depend on the origin. -/
abbrev Reporting (α : Type) := ReaderT Origin (Except CheckError) α

/-- The result that does not depend on the origin. -/
def Reporting.ok {α : Type} (value : α) : Reporting α := fun _ => Except.ok value

/-- What a check does with a node of a kind that it cares about. -/
abbrev Consumer := Tree → NodeId → Reporting (List Finding)

/-- A check: the key that its issues carry, and its consumers in the order of registration. -/
structure Check where
  key : String
  consumers : List (Kind × Consumer)

/-- Why a consumer is not registered. -/
inductive RegistrationError where
  /-- No check is being set up. -/
  | closed
deriving DecidableEq, Repr

/-- The text of the error. -/
def RegistrationError.message : RegistrationError → String
  | closed => "Consumers can only be registered while initializing a check"

/-- A consumer with the kind it is for and the key of its check. -/
structure Registration where
  kind : Kind
  key : String
  consumer : Consumer

/-- The consumers of all checks. -/
structure Dispatcher where
  registrations : List Registration
  /-- The key of the check that is being set up. -/
  current : Option String

namespace Dispatcher

/-- The dispatcher with one more consumer. -/
def add (dispatcher : Dispatcher) (key : String) (kind : Kind) (consumer : Consumer) :
    Dispatcher :=
  { dispatcher with registrations := dispatcher.registrations ++ [⟨kind, key, consumer⟩] }

/-- Registers a consumer for the check that is being set up. -/
def register (dispatcher : Dispatcher) (kind : Kind) (consumer : Consumer) :
    Except RegistrationError Dispatcher :=
  match dispatcher.current with
  | none => .error .closed
  | some key => .ok (dispatcher.add key kind consumer)

/-- Sets up a check: its consumers are registered one after the other. -/
def setUp (dispatcher : Dispatcher) (check : Check) : Dispatcher :=
  check.consumers.foldl (fun dispatcher (kind, consumer) => dispatcher.add check.key kind consumer)
    { dispatcher with current := some check.key }

/-- Sets up checks one after the other. -/
def ofChecks (checks : List Check) : Dispatcher :=
  { checks.foldl setUp ⟨[], none⟩ with current := none }

/-- The issue of a finding: it stands at the first token of the node. -/
def issueOf (tree : Tree) (filePath key : String) (finding : Finding) : Issue :=
  match (tree.firstToken finding.node).bind tree.token? with
  | some token => ⟨key, filePath, token.start.line, token.start.column, finding.message⟩
  | none => ⟨key, filePath, 0, 0, finding.message⟩

/-- The issues of one node. -/
def issuesAt (dispatcher : Dispatcher) (tree : Tree) (filePath : String) (node : NodeId) :
    Except CheckError (List Issue) := do
  let interested := dispatcher.registrations.filter fun registration =>
    tree.kind? node = some registration.kind
  let found ← interested.mapM fun registration => do
    let findings ← registration.consumer tree node ⟨filePath, registration.key⟩
    return findings.map (issueOf tree filePath registration.key)
  return found.flatten

/-- The issues of a tree, in the order in which they are found. -/
def scan (dispatcher : Dispatcher) (tree : Tree) (filePath : String) :
    Except CheckError (List Issue) := do
  let found ← (tree.walk tree.root).mapM (dispatcher.issuesAt tree filePath)
  return found.flatten

end Dispatcher

end StructuralLint
