import StructuralLint.Text.Digit

/-!
# Flags

A word of a command line is a value or a flag. Flags are recognized by their spelling, by an
unambiguous front of a long spelling, or by the short spelling with further letters. A long flag can
carry its value after an equals sign. A word that looks like a flag but is none is kept apart,
unless it is a negative number or holds a space: then it is a value. After the word `--` all words
are values.
-/

namespace StructuralLint.CommandLine

/-- What a flag asks for. -/
inductive Flag where
  | help
  | since
  | maxIssues
  | debug
deriving DecidableEq, Repr

namespace Flag

/-- The ways to write a flag. -/
def spellings : Flag → List String
  | help => ["-h", "--help"]
  | since => ["--since"]
  | maxIssues => ["--max-issues"]
  | debug => ["--debug"]

/-- Whether a flag comes with a value. -/
def takesValue : Flag → Bool
  | since | maxIssues => true
  | help | debug => false

/-- A flag as messages name it. -/
def shown (flag : Flag) : String := "/".intercalate flag.spellings

end Flag

/-- A word of a command line. -/
inductive Word where
  | value (text : String)
  /-- A flag, with the text that is attached to it. -/
  | flag (flag : Flag) (attached : Option String)
  /-- A word that looks like a flag, but is none. -/
  | unknown (text : String)
  /-- The word after which all words are values. -/
  | separator
deriving DecidableEq, Repr

/-- The word after which all words are values. -/
def separatorText : String := "--"

/-- A text up to its first equals sign, and what follows the sign. -/
def splitAtEquals (text : List Char) : List Char × Option String :=
  match text.dropWhile (· ≠ '=') with
  | [] => (text, none)
  | _ :: after => (text.takeWhile (· ≠ '='), some (String.ofList after))

/-- What is attached to the short spelling of a flag that takes no value, when `text` follows the
spelling in the same word. The letter may be repeated, and further letters are ignored, but not a
value. -/
def attachedToShort (letter : Char) : (text : List Char) → Option String
  | [] => none
  | '=' :: value => some (String.ofList value)
  | c :: rest =>
    if c = letter then attachedToShort letter rest
    else if c = '-' then some (String.ofList (c :: rest))
    else none

/-- Whether a text is a negative decimal number. A line feed at the end is no part of it. -/
def isNegativeNumber (text : List Char) : Bool :=
  match text with
  | '-' :: number =>
    let number := if number.getLast? = some '\n' then number.dropLast else number
    let isDigit (c : Char) : Bool := (Text.digitValue? c).isSome
    match number.dropWhile isDigit with
    | [] => !number.isEmpty
    | '.' :: places => !places.isEmpty && places.all isDigit
    | _ => false
  | _ => false

/-- The flag of this spelling, among those that are allowed. -/
def flagSpelled? (allowed : List Flag) (spelling : String) : Option Flag :=
  allowed.find? fun flag => flag.spellings.contains spelling

/-- The allowed flags that have a spelling with this front, each with the spelling. -/
def flagsFrom (allowed : List Flag) (front : List Char) : List (Flag × String) :=
  allowed.flatMap fun flag =>
    (flag.spellings.filter fun spelling => front.isPrefixOf spelling.toList).map (flag, ·)

/-- A word that looks like a flag, but is none of those that are allowed. -/
def unknownWord (text : String) : Word :=
  if isNegativeNumber text.toList || text.toList.contains ' ' then .value text else .unknown text

/-- What a word is, if it is not the separator and no separator is before it. If it could be one of
several flags, these are the error. -/
def classify (allowed : List Flag) (text : String) : Except (List String) Word :=
  match text.toList with
  | '-' :: tail =>
    let (front, attached) := splitAtEquals text.toList
    match flagSpelled? allowed text, tail with
    | some flag, _ => .ok (.flag flag none)
    | none, [] => .ok (.value text)
    | none, second :: more =>
      match attached, flagSpelled? allowed (String.ofList front) with
      | some value, some flag =>
        .ok (.flag flag (some value))
      | _, _ =>
        if second = '-' then
          match flagsFrom allowed front with
          | [] => .ok (unknownWord text)
          | [(flag, _)] => .ok (.flag flag attached)
          | several => .error (several.map (·.2))
        else
          match flagSpelled? allowed (String.ofList ['-', second]) with
          | some flag => .ok (.flag flag (attachedToShort second more))
          | none => .ok (unknownWord text)
  | _ => .ok (.value text)

/-- What the words of a command line are. The error is a word that could be one of several flags,
with these. -/
def classifyAll (allowed : List Flag) : List String → Except (String × List String) (List Word)
  | [] => .ok []
  | text :: rest =>
    if text = separatorText then .ok (.separator :: rest.map .value)
    else
      match classify allowed text, classifyAll allowed rest with
      | .error several, _ => .error (text, several)
      | .ok _, .error error => .error error
      | .ok word, .ok words => .ok (word :: words)

end StructuralLint.CommandLine
