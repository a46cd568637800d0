import StructuralLint.CommandLine.Flag
import StructuralLint.Text.Quoted

/-!
# Usage

The texts that a command line is answered with when it is not run: help that was asked for, or a
message on the line that says what is wrong with it.
-/

namespace StructuralLint.CommandLine

/-- The program, or the one command that it has. -/
inductive Level where
  | program
  | command
deriving DecidableEq, Repr

namespace Level

/-- The word that names the command. -/
def commandName : String := "analyze"

/-- The command in the place where it is to be chosen. -/
def choice : String := "\x7banalyze\x7d"

/-- The words that call the program or the command. -/
def name : Level → String
  | program => "psce"
  | command => "psce analyze"

/-- The flags that are allowed. -/
def flags : Level → List Flag
  | program => [.help]
  | command => [.help, .since, .maxIssues, .debug]

/-- The lines of the help. -/
def helpLines : Level → List String
  | program =>
    ["usage: psce [-h] \x7banalyze\x7d ...",
      "",
      "Structural checks for Python code.",
      "",
      "positional arguments:",
      "  \x7banalyze\x7d",
      "    analyze   Analyze a directory or a single Python file",
      "",
      "options:",
      "  -h, --help  show this help message and exit",
      "",
      "Examples:",
      "  psce analyze .",
      "  psce analyze src/module.py",
      "  psce analyze . --since origin/main",
      "        "]
  | command =>
    ["usage: psce analyze [-h] [--since REV] [--max-issues N] [--debug] [path]",
      "",
      "positional arguments:",
      "  path            Directory or file to analyze (default: current directory)",
      "",
      "options:",
      "  -h, --help      show this help message and exit",
      "  --since REV     Only analyze Python files changed since this Git revision",
      "  --max-issues N  Report at most N issues",
      "  --debug         Verbose logging and tracebacks for internal errors"]

/-- The help. -/
def help (level : Level) : String := String.join (level.helpLines.map (· ++ "\n"))

end Level

/-- What is wrong with a command line. -/
inductive UsageError where
  | noCommand
  | unknownCommand (word : String)
  /-- The front of a spelling that several flags share. -/
  | ambiguous (word : String) (spellings : List String)
  /-- A value is attached to a flag that takes none. -/
  | unexpectedValue (flag : Flag) (value : String)
  | missingValue (flag : Flag)
  /-- The value of the flag is no count. -/
  | noCount (flag : Flag) (value : String)
  | unrecognized (words : List String)
deriving DecidableEq, Repr

/-- The text of the error. -/
def UsageError.message : UsageError → String
  | noCommand => "the following arguments are required: " ++ Level.choice
  | unknownCommand word =>
    "argument " ++ Level.choice ++ ": invalid choice: " ++ Text.quoted word ++ " (choose from "
      ++ Text.quoted Level.commandName ++ ")"
  | ambiguous word spellings =>
    "ambiguous option: " ++ word ++ " could match " ++ ", ".intercalate spellings
  | unexpectedValue flag value =>
    "argument " ++ flag.shown ++ ": ignored explicit argument " ++ Text.quoted value
  | missingValue flag => "argument " ++ flag.shown ++ ": expected one argument"
  | noCount flag value =>
    "argument " ++ flag.shown ++ ": invalid non_negative_int value: " ++ Text.quoted value
  | unrecognized words => "unrecognized arguments: " ++ " ".intercalate words

/-- Why a command line is not run. -/
inductive Refusal where
  | help (level : Level)
  | usage (level : Level) (error : UsageError)
deriving DecidableEq, Repr

namespace Refusal

/-- The exit code. -/
def code : Refusal → Nat
  | help _ => 0
  | usage _ _ => 2

/-- What is printed. -/
def text : Refusal → String
  | help level => level.help
  | usage level error => level.name ++ ": error: " ++ error.message ++ "\n"

end Refusal

end StructuralLint.CommandLine
