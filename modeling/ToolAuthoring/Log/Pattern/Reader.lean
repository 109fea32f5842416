import ToolAuthoring.Log.Pattern.Basic
import ToolAuthoring.Text.Alphanumeric
import ToolAuthoring.Text.Blank

/-!
# Reading patterns

The reader turns a text into a pattern, or into nothing if it is not well formed. A pattern with its
third switch on is `spaced`: blanks may stand between its parts, and comments from a hash to the end
of the line. Properties of characters, such as `\pL`, and counted repetitions are not read.
-/

namespace ToolAuthoring

namespace Pattern

/-! ## Blanks and comments -/

/-- Drop blanks and comments; `comment` says whether the text begins inside one. -/
def dropSpace (comment : Bool) : List Char → List Char
  | [] => []
  | c :: cs =>
    if comment then dropSpace (c != '\n') cs
    else if c = '#' then dropSpace true cs
    else if isBlankChar c then dropSpace false cs
    else c :: cs

/-- Drop what does not count at the begin of a text. -/
def skip (spaced : Bool) (cs : List Char) : List Char :=
  if spaced then dropSpace false cs else cs

/-- The next character but for blanks and one hash among them. If there is none, the first one. -/
def peek (spaced : Bool) (cs : List Char) : Option Char :=
  if spaced then
    match cs.dropWhile isBlankChar with
    | '#' :: rest => (rest.find? fun c => !isBlankChar c) <|> cs.head?
    | [] => cs.head?
    | c :: _ => some c
  else cs.head?

/-! ## Escapes -/

/-- The value of a hexadecimal digit. -/
def digit16? (c : Char) : Option Nat :=
  if c.isDigit then some (c.toNat - '0'.toNat)
  else if 'a' ≤ c.toLower ∧ c.toLower ≤ 'f' then some (c.toLower.toNat - 'a'.toNat + 10)
  else none

/-- The code of `length` hexadecimal digits, and what follows. `code` is that of digits before. -/
def readCode (spaced : Bool) : Nat → Nat → List Char → Option (Nat × List Char)
  | 0, code, cs => some (code, cs)
  | length + 1, code, cs =>
    match skip spaced cs with
    | [] => none
    | c :: rest => do
      let n ← digit16? c
      readCode spaced length (code * 16 + n) rest

/-- The character with a code of `length` hexadecimal digits. -/
def codedChar (spaced : Bool) (length : Nat) (cs : List Char) : Option (Pattern × List Char) := do
  let (code, rest) ← readCode spaced length 0 cs
  if code.isValidChar then return (.char (Char.ofNat code) (length == 2), skip spaced rest)
  none

/-- Whether a backslash takes its meaning from a character, or leaves it without one. -/
def isEscapable (c : Char) : Bool :=
  c.toNat < 0x80 && !c.isAlphanum && c != '<' && c != '>'

/-- What a backslash and one letter or angle bracket stand for. -/
def lettered (c : Char) : Option Pattern :=
  match c with
  | 'a' => some (.char '\x07' false)
  | 'f' => some (.char '\x0c' false)
  | 't' => some (.char '\t' false)
  | 'n' => some (.char '\n' false)
  | 'r' => some (.char '\r' false)
  | 'v' => some (.char '\x0b' false)
  | 'd' | 's' | 'w' => some (.kind false)
  | 'D' | 'S' | 'W' => some (.kind true)
  | 'A' | 'z' => some .edge
  | 'b' | 'B' | '<' | '>' => some .wordEdge
  | _ => none

/-- What stands behind a backslash. -/
def escape (spaced : Bool) (cs : List Char) : Option (Pattern × List Char) :=
  match cs with
  | [] => none
  | 'x' :: rest => codedChar spaced 2 rest
  | 'u' :: rest => codedChar spaced 4 rest
  | 'U' :: rest => codedChar spaced 8 rest
  | c :: rest =>
    if isEscapable c then some (.char c false, rest) else (lettered c).map fun p => (p, rest)

/-! ## Classes -/

/-- The names of classes. -/
def classNames : List String :=
  ["alnum", "alpha", "ascii", "blank", "cntrl", "digit", "graph", "lower", "print", "punct",
    "space", "upper", "word", "xdigit"]

/-- A named class between colons, behind its opening bracket. -/
def namedClass (cs : List Char) : Option (PatternItem × List Char) :=
  match cs with
  | ':' :: cs =>
    let negated := cs.head? = some '^'
    let (name, rest) := (if negated then cs.tail else cs).span (· ≠ ':')
    match rest with
    | ':' :: ']' :: rest =>
      if classNames.contains (String.ofList name) then some (.named negated, rest) else none
    | _ => none
  | _ => none

/-- Hyphens that are taken literally at the begin of a class. -/
def hyphens (spaced : Bool) : Nat → List Char → List PatternItem × List Char
  | 0, cs => ([], cs)
  | fuel + 1, cs =>
    match cs with
    | '-' :: rest =>
      let (items, rest) := hyphens spaced fuel (skip spaced rest)
      (.char '-' :: items, rest)
    | _ => ([], cs)

/-- The begin of a class, behind its opening bracket: whether it is negated, and hyphens or else a
closing bracket that are taken literally. -/
def openClass (spaced : Bool) (cs : List Char) : Bool × List PatternItem × List Char :=
  let cs := skip spaced cs
  let negated := cs.head? = some '^'
  let cs := if negated then skip spaced cs.tail else cs
  match hyphens spaced cs.length cs with
  | ([], ']' :: rest) => (negated, [.char ']'], rest)
  | (items, rest) => (negated, items, rest)

/-- A character of a class, or a kind of characters. -/
def classItem (spaced : Bool) (cs : List Char) : Option (PatternItem × List Char) :=
  match cs with
  | [] => none
  | '\\' :: rest =>
    match escape spaced rest with
    | some (.char c _, rest) => some (.char c, rest)
    | some (.kind negated, rest) => some (.kind negated, rest)
    | _ => none
  | c :: rest => some (.char c, rest)

/-- The range between two characters, the first of which must not come after the last. -/
def range? (first last : PatternItem) : Option PatternItem :=
  match first, last with
  | .char a, .char b => if a ≤ b then some (.range a b) else none
  | _, _ => none

/-- A set whose last items have been read, behind an operator if `left` is there. -/
def closeSet (left : Option PatternSet) (items : List PatternItem) : PatternSet :=
  match left with
  | none => .union items
  | some left => .operation left (.union items)

/-- The rest of a class up to its closing bracket. `items` are those since the last operator, and
`left` is what stands before that. -/
def classRest (spaced : Bool) : Nat → Option PatternSet → List PatternItem → List Char →
    Option (PatternSet × List Char)
  | 0, _, _, _ => none
  | fuel + 1, left, items, cs =>
    match skip spaced cs with
    | [] => none
    | ']' :: rest => some (closeSet left items, rest)
    | '[' :: rest =>
      match namedClass rest with
      | some (item, rest) => classRest spaced fuel left (items ++ [item]) rest
      | none =>
        let (negated, first, rest) := openClass spaced rest
        match classRest spaced fuel none first rest with
        | some (s, rest) => classRest spaced fuel left (items ++ [.nested negated s]) rest
        | none => none
    | '&' :: '&' :: rest | '-' :: '-' :: rest | '~' :: '~' :: rest =>
      classRest spaced fuel (some (closeSet left items)) [] rest
    | cs => do
      let (first, rest) ← classItem spaced cs
      match skip spaced rest with
      | '-' :: after =>
        if peek spaced after = some ']' ∨ peek spaced after = some '-' then
          classRest spaced fuel left (items ++ [first]) ('-' :: after)
        else
          let (last, rest) ← classItem spaced (skip spaced after)
          classRest spaced fuel left (items ++ [← range? first last]) rest
      | rest => classRest spaced fuel left (items ++ [first]) rest

/-- A class behind its opening bracket. -/
def readClass (spaced : Bool) (cs : List Char) : Option (Pattern × List Char) := do
  let (negated, first, rest) := openClass spaced cs
  let (s, rest) ← classRest spaced (cs.length + 1) none first rest
  return (.set negated s, rest)

/-! ## Groups -/

/-- Whether a name can begin with a character. -/
def isNameStart (c : Char) : Bool :=
  c == '_' || isAlphabetic c

/-- Whether a name can go on with a character. -/
def isNamePart (c : Char) : Bool :=
  c == '_' || c == '.' || c == '[' || c == ']' || isAlphanumeric c

/-- A name, and what follows the angle bracket behind it. -/
def groupName (cs : List Char) : Option (List Char × List Char) :=
  match cs.span (· ≠ '>') with
  | (c :: more, _ :: rest) =>
    if isNameStart c && more.all isNamePart then some (c :: more, rest) else none
  | _ => none

/-- The letters of switches, each once, and among them the hyphen that stands before those that are
switched off. They end at a colon or a closing parenthesis. -/
def switchLetters (seen : List Char) (cs : List Char) : Option (List Char × List Char) :=
  match cs with
  | [] => none
  | c :: rest =>
    if c = ':' ∨ c = ')' then
      if seen.getLast? = some '-' then none else some (seen, cs)
    else if "imsUuRx-".toList.contains c && !seen.contains c then
      switchLetters (seen ++ [c]) rest
    else none

/-- The position of the switch with a letter. -/
def position (letters : List Char) (letter : Char) : Option Bool :=
  if letters.contains letter then some (!(letters.takeWhile (· ≠ letter)).contains '-') else none

/-- The switches that letters stand for. -/
def switchesOf (letters : List Char) : PatternSwitches :=
  ⟨position letters 'i', position letters 'u', position letters 'x'⟩

/-- What an opening parenthesis begins: switches that stand alone, or a group with switches and
perhaps a name. -/
inductive Opening where
  | alone (s : PatternSwitches)
  | group (s : PatternSwitches) (name : Option (List Char))

/-- What stands behind an opening parenthesis, up to the pattern in the group. -/
def readOpening (spaced : Bool) (cs : List Char) : Option (Opening × List Char) :=
  match skip spaced cs with
  | '?' :: 'P' :: '<' :: rest | '?' :: '<' :: rest =>
    (groupName rest).map fun r => (.group .none (some r.1), r.2)
  | '?' :: rest => do
    match ← switchLetters [] rest with
    | (letters, ':' :: rest) => return (.group (switchesOf letters) none, rest)
    | ([], _) => none
    | (letters, _ :: rest) => return (.alone (switchesOf letters), rest)
    | (_, []) => none
  | rest => some (.group .none none, rest)

/-! ## Patterns -/

/-- What is left to read: whether it is spaced, the names of the groups before, and the text. -/
structure Input where
  spaced : Bool
  names : List (List Char)
  rest : List Char

/-- The input with another text. -/
def Input.withRest (i : Input) (rest : List Char) : Input := { i with rest := rest }

/-- The input inside a group; a name must be new. -/
def Input.enter (i : Input) (s : PatternSwitches) (name : Option (List Char)) (rest : List Char) :
    Option Input :=
  let inside := s.spaced.getD i.spaced
  match name with
  | none => some ⟨inside, i.names, rest⟩
  | some n => if i.names.contains n then none else some ⟨inside, n :: i.names, rest⟩

/-- What stands in front of a repetition, repeated. Switches cannot be. -/
def repeatLast : List Pattern → Option (List Pattern)
  | [] => none
  | .switches _ :: _ => none
  | p :: ps => some (.repetition p :: ps)

/-- The pattern of the alternatives before the last one, and of the parts of the last one, both last
first. -/
def closeLevel (before : List Pattern) (parts : List Pattern) : Pattern :=
  ofChoice (ofSequence parts.reverse :: before).reverse

/-- Read up to the end of the text or a closing parenthesis that belongs to no group in it. -/
def readLevel : Nat → List Pattern → List Pattern → Input → Option (Pattern × Input)
  | 0, _, _, _ => none
  | fuel + 1, before, parts, i =>
    let next (parts : List Pattern) (rest : List Char) :=
      readLevel fuel before parts (i.withRest rest)
    match skip i.spaced i.rest with
    | [] => some (closeLevel before parts, i.withRest [])
    | ')' :: rest => some (closeLevel before parts, i.withRest (')' :: rest))
    | '|' :: rest => readLevel fuel (ofSequence parts.reverse :: before) [] (i.withRest rest)
    | '(' :: rest => do
      match ← readOpening i.spaced rest with
      | (.alone s, rest) =>
        readLevel fuel before (.switches s :: parts) ⟨s.spaced.getD i.spaced, i.names, rest⟩
      | (.group s name, rest) =>
        let (p, inner) ← readLevel fuel [] [] (← i.enter s name rest)
        match inner.rest with
        | _ :: rest => readLevel fuel before (.group s p :: parts) ⟨i.spaced, inner.names, rest⟩
        | [] => none
    | '*' :: rest | '+' :: rest | '?' :: rest => do
      next (← repeatLast parts) (if rest.head? = some '?' then rest.tail else rest)
    | '{' :: _ => none
    | '[' :: rest => do
      let (p, rest) ← readClass i.spaced rest
      next (p :: parts) rest
    | '\\' :: rest => do
      let (p, rest) ← escape i.spaced rest
      next (p :: parts) rest
    | '.' :: rest => next (.anyChar :: parts) rest
    | '^' :: rest | '$' :: rest => next (.edge :: parts) rest
    | c :: rest => next (.char c false :: parts) rest

/-- The pattern that a text describes. -/
def ofText? (cs : List Char) : Option Pattern := do
  let (p, i) ← readLevel (cs.length + 1) [] [] ⟨false, [], cs⟩
  if i.rest.isEmpty then return p
  none

end Pattern

/-- Why a text cannot be used as a pattern. -/
inductive PatternFault where
  | malformed
  | wordEdge
deriving DecidableEq, Repr

/-- The text of a fault of a pattern. -/
def PatternFault.message : PatternFault → String
  | .malformed => "error building NFA"
  | .wordEdge =>
    "unsupported regex feature for DFAs: cannot build DFAs for regexes with Unicode word "
      ++ "boundaries; switch to ASCII word boundaries, or heuristically enable Unicode word "
      ++ "boundaries or use a different regex engine"

/-- What is wrong with a pattern, if anything is. -/
def patternFault? (cs : List Char) : Option PatternFault :=
  match Pattern.ofText? cs with
  | none => some .malformed
  | some p =>
    if Pattern.heightLimit < p.height then some .malformed
    else
      match p.survey .standard with
      | none => some .malformed
      | some (_, edges) => if edges then some .wordEdge else none

end ToolAuthoring
