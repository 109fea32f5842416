import ToolAuthoring.Log.Record

/-!
# Lines of the log

How a record is shown. Control characters with which a message could steer a terminal are written by
their codes; line breaks and tabs stay.
-/

namespace ToolAuthoring

/-- The control characters of one byte that are written by their codes, under which. -/
def steeringCodes : List (Char × String) :=
  [('\x1b', "\\x1b"), ('\x07', "\\x07"), ('\x08', "\\x08"), ('\x0c', "\\x0c"), ('\x7f', "\\x7f")]

/-- How the log shows one character of a message. -/
def loggedChar (c : Char) : List Char :=
  match steeringCodes.lookup c with
  | some code => code.toList
  | none =>
    if 0x80 ≤ c.toNat ∧ c.toNat ≤ 0x9f then
      '\\' :: 'u' :: '{' :: Nat.toDigits 16 c.toNat ++ ['}']
    else [c]

/-- The line under which a record is shown. -/
def LogRecord.line (r : LogRecord) : String :=
  r.level.name ++ " " ++ r.source.target ++ ": "
    ++ String.ofList (r.message.toList.flatMap loggedChar)

end ToolAuthoring
