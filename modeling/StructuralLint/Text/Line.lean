/-!
# Lines

Three conventions on where a line ends are in use. A tolerant scan ends lines at the line feed
alone (`lines`); a source file ends them at a line feed, a carriage return or the two together
(`unifyLineBreaks` turns all of these into line feeds); the output of a command is cut at every
line boundary of Unicode (`splitLines`).
-/

namespace StructuralLint.Text

/-- The lines of a text, each with its line feed; the last line may lack one and is then not
empty. -/
def lines (text : List Char) : List (List Char) :=
  text.foldr
    (fun c rest =>
      if c = '\n' then ['\n'] :: rest
      else match rest with
        | [] => [[c]]
        | line :: later => (c :: line) :: later)
    []

/-- Carriage returns, alone or before a line feed, become line feeds. -/
def unifyLineBreaks : List Char → List Char
  | [] => []
  | '\r' :: '\n' :: rest => '\n' :: unifyLineBreaks rest
  | '\r' :: rest => '\n' :: unifyLineBreaks rest
  | c :: rest => c :: unifyLineBreaks rest

/-- A character at which a command's output is cut into lines. -/
def isLineBoundary (c : Char) : Bool :=
  let n := c.toNat
  (0x0A ≤ n && n ≤ 0x0D) || (0x1C ≤ n && n ≤ 0x1E) || n == 0x85 || n == 0x2028 || n == 0x2029

/-- The lines of a text without their boundaries. A boundary at the end opens no further line. -/
def splitLines (text : List Char) : List (List Char) :=
  go [] text
where
  /-- `line` holds, last first, what has been read of the current line. -/
  go (line : List Char) : List Char → List (List Char)
    | [] => if line.isEmpty then [] else [line.reverse]
    | '\r' :: '\n' :: rest => line.reverse :: go [] rest
    | c :: rest =>
      if isLineBoundary c then line.reverse :: go [] rest else go (c :: line) rest

end StructuralLint.Text
