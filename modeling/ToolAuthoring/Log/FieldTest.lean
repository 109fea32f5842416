import ToolAuthoring.Log.Pattern.Reader

/-!
# Tests of fields

A rule of a log filter may ask for a field of the records it is about, and for its value. The value
is a number, or else a pattern.
-/

namespace ToolAuthoring

/-- A field that a rule asks for, and the value that it must have, if one is given. -/
structure FieldTest where
  name : String
  value : Option String
deriving DecidableEq, Repr

/-- Whether a text is an exponent: digits, which may have a sign. -/
def isExponent (cs : List Char) : Bool :=
  let digits := if cs.head? = some '+' ∨ cs.head? = some '-' then cs.tail else cs
  !digits.isEmpty && digits.all Char.isDigit

/-- Whether a text is a number without a sign. -/
def isNumeral (cs : List Char) : Bool :=
  let (whole, rest) := cs.span Char.isDigit
  let (places, rest) :=
    match rest with
    | '.' :: rest => rest.span Char.isDigit
    | rest => ([], rest)
  ["inf", "infinity", "nan"].contains (String.ofList (cs.map Char.toLower))
    || ((!whole.isEmpty || !places.isEmpty) &&
      match rest with
      | [] => true
      | c :: power => c.toLower == 'e' && isExponent power)

/-- What is wrong with the value of a field. A number may begin with a plus sign; without one it is
a pattern as well. -/
def fieldValueFault? (cs : List Char) : Option PatternFault :=
  if cs.head? = some '+' && isNumeral cs.tail then none else patternFault? cs

/-- A field, and behind an equals sign its value. What follows a second equals sign is dropped. -/
def FieldTest.ofText (cs : List Char) : Except PatternFault FieldTest :=
  match cs.splitOn '=' with
  | name :: value :: _ =>
    match fieldValueFault? value with
    | none => .ok ⟨String.ofList name, some (String.ofList value)⟩
    | some e => .error e
  | _ => .ok ⟨String.ofList cs, none⟩

end ToolAuthoring
