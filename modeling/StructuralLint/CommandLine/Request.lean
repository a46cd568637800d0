import StructuralLint.CommandLine.Usage
import StructuralLint.Settings

/-!
# Requests

A command line asks to analyze a path. Flags may stand before and after the path, and the last of
several flags of one kind counts. Words that belong nowhere are collected, and are refused when the
rest of the line is in order.
-/

namespace StructuralLint.CommandLine

/-- What a command line asks for. -/
structure Request where
  path : String
  since : Option String
  maxIssues : Option Nat
  debug : Bool
deriving DecidableEq, Repr

namespace Request

/-- The path that is analyzed when none is given. -/
def defaultPath : String := "."

/-- What the words up to some point ask for. -/
structure Draft where
  path : Option String
  since : Option String
  maxIssues : Option Nat
  debug : Bool
  /-- Words that belong nowhere. -/
  extra : List String

namespace Draft

/-- Nothing has been read. -/
def empty : Draft := ⟨none, none, none, false, []⟩

/-- The request, without the words that belong nowhere. -/
def request (draft : Draft) : Request :=
  ⟨draft.path.getD defaultPath, draft.since, draft.maxIssues, draft.debug⟩

/-- A word that belongs nowhere. -/
def addExtra (draft : Draft) (word : String) : Draft :=
  { draft with extra := draft.extra ++ [word] }

end Draft

/-- A mistake in the words of the command. -/
def refuse {α : Type} (error : UsageError) : Except Refusal α := .error (.usage .command error)

/-- A flag with its value. -/
def withValue (draft : Draft) (flag : Flag) (value : String) : Except Refusal Draft :=
  match flag with
  | .since => .ok { draft with since := some value }
  | .maxIssues =>
    match readCount value.toList with
    | .ok count => .ok { draft with maxIssues := some count }
    | .error _ => refuse (.noCount flag value)
  | .help | .debug => refuse (.unexpectedValue flag value)

/-- A flag without a value. -/
def withoutValue (draft : Draft) (flag : Flag) : Except Refusal Draft :=
  match flag with
  | .help => .error (.help .command)
  | .debug => .ok { draft with debug := true }
  | .since | .maxIssues => refuse (.missingValue flag)

/-- Reads words. The first value is the path; a separator directly before or after it belongs to
it. -/
def readWords (draft : Draft) : List Word → Except Refusal Draft
  | [] => .ok draft
  | .separator :: rest =>
    if draft.path.isNone then readWords draft rest
    else readWords (draft.addExtra separatorText) rest
  | .unknown text :: rest => readWords (draft.addExtra text) rest
  | .flag flag (some value) :: rest => do readWords (← withValue draft flag value) rest
  | .flag flag none :: .value value :: rest => do
    if flag.takesValue then readWords (← withValue draft flag value) rest
    else readWords (← withoutValue draft flag) (.value value :: rest)
  | .flag flag none :: rest => do readWords (← withoutValue draft flag) rest
  | .value text :: .separator :: rest =>
    if draft.path.isNone then readWords { draft with path := some text } rest
    else readWords (draft.addExtra text) (.separator :: rest)
  | .value text :: rest =>
    if draft.path.isNone then readWords { draft with path := some text } rest
    else readWords (draft.addExtra text) rest

/-- Reads the words after the name of the command. -/
def readCommand (words : List String) : Except Refusal Draft :=
  match classifyAll Level.command.flags words with
  | .error (word, spellings) => refuse (.ambiguous word spellings)
  | .ok words => readWords .empty words

/-- The name of the command, the words after it and the words before it that belong nowhere. A
separator takes the place of the name if a word follows it. -/
def findCommand (extra : List String) :
    List String → Except Refusal (String × List String × List String)
  | [] => .error (.usage .program .noCommand)
  | word :: rest =>
    if word = separatorText then
      if rest.isEmpty then .error (.usage .program .noCommand) else .ok (word, rest, extra)
    else
      match classify Level.program.flags word with
      | .error spellings => .error (.usage .program (.ambiguous word spellings))
      | .ok (.flag _ none) => .error (.help .program)
      | .ok (.flag flag (some value)) =>
        .error (.usage .program (.unexpectedValue flag value))
      | .ok (.unknown text) => findCommand (extra ++ [text]) rest
      | .ok _ => .ok (word, rest, extra)

/-- What a command line asks for, or why it is not run. -/
def read (arguments : List String) : Except Refusal Request := do
  let (name, words, extra) ← findCommand [] arguments
  if name ≠ Level.commandName then throw (.usage .program (.unknownCommand name))
  let draft ← readCommand words
  match extra ++ draft.extra with
  | [] => return draft.request
  | unrecognized => throw (.usage .program (.unrecognized unrecognized))

end Request

end StructuralLint.CommandLine
