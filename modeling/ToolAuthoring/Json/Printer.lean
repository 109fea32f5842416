import ToolAuthoring.Json.Basic

/-!
# Writing JSON

The same value has a compact text, without any blank, and an indented text with one item or member
on each line.
-/

namespace ToolAuthoring

namespace Json

/-- Numbers are written with the fewest digits that read back: plainly from `10 ^ -5` up to below
`10 ^ 16`, and with a signed exponent beyond. -/
def numberStyle : DecimalStyle := ⟨-5, 16⟩

/-- How one character of a text is written: quotes, backslashes and control characters are
escaped, and nothing else is. -/
def escapeChar (c : Char) : List Char :=
  if c = '"' then ['\\', '"']
  else if c = '\\' then ['\\', '\\']
  else if c = '\n' then ['\\', 'n']
  else if c = '\r' then ['\\', 'r']
  else if c = '\t' then ['\\', 't']
  else if c.toNat = 8 then ['\\', 'b']
  else if c.toNat = 12 then ['\\', 'f']
  else if c.toNat < 32 then
    ['\\', 'u', '0', '0', Nat.digitChar (c.toNat / 16), Nat.digitChar (c.toNat % 16)]
  else [c]

/-- The text in quotes. -/
def quote (s : String) : String :=
  String.ofList ('"' :: s.toList.flatMap escapeChar ++ ['"'])

/-- The text of a number. -/
def writeNumber : Number → String
  | .integer n _ => toString n
  | .float d => numberStyle.writeDouble d

mutual

/-- The text without blanks. -/
def compact : Json → String
  | .null => "null"
  | .bool true => "true"
  | .bool false => "false"
  | .number n => writeNumber n
  | .text s => quote s
  | .list items => "[" ++ String.intercalate "," (compactItems items) ++ "]"
  | .record members => "\x7b" ++ String.intercalate "," (compactMembers members) ++ "\x7d"

/-- The texts of the items. -/
def compactItems : List Json → List String
  | [] => []
  | j :: js => j.compact :: compactItems js

/-- The texts of the members. -/
def compactMembers : List (String × Json) → List String
  | [] => []
  | (k, j) :: ms => (quote k ++ ":" ++ j.compact) :: compactMembers ms

end

/-- A line break and the indentation of a nesting depth, two blanks a level. -/
def newline (depth : Nat) : String :=
  "\n" ++ String.ofList (List.replicate (2 * depth) ' ')

/-- The lines of a list or record between its brackets; without lines these stand together. -/
def bracket (opening closing : String) (depth : Nat) (lines : List String) : String :=
  if lines.isEmpty then opening ++ closing
  else
    opening ++ newline (depth + 1) ++ String.intercalate ("," ++ newline (depth + 1)) lines
      ++ newline depth ++ closing

mutual

/-- The indented text of a value at a nesting depth. -/
def prettyAt (depth : Nat) : Json → String
  | .null => "null"
  | .bool true => "true"
  | .bool false => "false"
  | .number n => writeNumber n
  | .text s => quote s
  | .list items => bracket "[" "]" depth (prettyItems (depth + 1) items)
  | .record members => bracket "\x7b" "\x7d" depth (prettyMembers (depth + 1) members)

/-- The indented texts of the items. -/
def prettyItems (depth : Nat) : List Json → List String
  | [] => []
  | j :: js => j.prettyAt depth :: prettyItems depth js

/-- The indented texts of the members. -/
def prettyMembers (depth : Nat) : List (String × Json) → List String
  | [] => []
  | (k, j) :: ms => (quote k ++ ": " ++ j.prettyAt depth) :: prettyMembers depth ms

end

/-- The indented text. -/
def pretty (j : Json) : String :=
  j.prettyAt 0

end Json

end ToolAuthoring
