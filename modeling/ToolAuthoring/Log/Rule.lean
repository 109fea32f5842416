import ToolAuthoring.Log.FieldTest
import ToolAuthoring.Log.Record
import ToolAuthoring.Text.Alphanumeric
import ToolAuthoring.Text.Blank

/-!
# Rules of log filters

A rule is written as a bound, as a target, or as a target and a bound with an equals sign between
them. Behind the target, or in place of it, a name in square brackets restricts the rule to spans
with that name, and a field in braces to records that have it: `app[span{field=value}]=debug`.

Records here stand outside all spans, and the one field that each of them has is its message.
-/

namespace ToolAuthoring

/-- How much of a log is shown: nothing, records that are at least as grave as a level, or all. -/
inductive LogBound where
  | off
  | upTo (level : LogLevel)
  | all
deriving DecidableEq, Repr

namespace LogBound

/-- The bounds that numbers stand for. -/
def numbered : List LogBound :=
  [.off, .upTo .error, .upTo .warn, .upTo .info, .upTo .debug, .all]

/-- The bounds under their names, in small letters. -/
def named : List (String × LogBound) :=
  [("off", .off), ("error", .upTo .error), ("warn", .upTo .warn), ("info", .upTo .info),
    ("debug", .upTo .debug), ("trace", .all)]

/-- The number that digits stand for, with or without a plus sign in front. -/
def number? (cs : List Char) : Option Nat :=
  let digits := if cs.head? = some '+' then cs.tail else cs
  if digits.isEmpty || !digits.all Char.isDigit then none
  else some (digits.foldl (fun n c => n * 10 + (c.toNat - 48)) 0)

/-- The bound with a number or a name, in small or capital letters. -/
def ofName? (s : String) : Option LogBound :=
  match number? s.toList with
  | some n => numbered[n]?
  | none => named.lookup s.toLower

/-- Whether records of a level are shown. -/
def admits : LogBound → LogLevel → Bool
  | .off, _ => false
  | .upTo bound, level => level.rank ≤ bound.rank
  | .all, _ => true

end LogBound

/-- Why a text is no rule. -/
inductive LogRuleError where
  | malformed
  | unknownBound
  | badValue (fault : PatternFault)
deriving DecidableEq, Repr

/-- The text of an error in a rule. -/
def LogRuleError.message : LogRuleError → String
  | .malformed => "invalid filter directive"
  | .unknownBound =>
    "error parsing level filter: expected one of \"off\", \"error\", \"warn\", \"info\", "
      ++ "\"debug\", \"trace\", or a number 0-5"
  | .badValue fault => "invalid field filter: " ++ fault.message

/-- A bound for what a rule is about: all targets or those that begin with a text, everywhere or
inside spans of a name, with or without a certain field. -/
structure LogRule where
  target : Option String
  span : Option String
  field : Option FieldTest
  bound : LogBound
deriving DecidableEq, Repr

namespace LogRule

/-- A rule about everything. -/
def everything (bound : LogBound) : LogRule := ⟨none, none, none, bound⟩

/-- The length of a text in bytes. -/
def size (cs : List Char) : Nat :=
  cs.foldl (fun n c => n + c.utf8Size) 0

/-- A text without its first bytes. -/
def dropBytes : Nat → List Char → List Char
  | 0, cs => cs
  | _, [] => []
  | n + 1, c :: cs => dropBytes (n + 1 - c.utf8Size) cs

/-- The first bytes of a text. -/
def takeBytes : Nat → List Char → List Char
  | 0, _ => []
  | _, [] => []
  | n + 1, c :: cs => c :: takeBytes (n + 1 - c.utf8Size) cs

/-- The bytes of a text from one place up to another. -/
def cut (cs : List Char) (first last : Nat) : List Char :=
  takeBytes (last - first) (dropBytes first cs)

/-- A piece, unless it is empty. -/
def cut? (cs : List Char) (first last : Nat) : Option String :=
  match cut cs first last with
  | [] => none
  | piece => some (String.ofList piece)

/-- The bound behind an equals sign; without one everything is shown. -/
def readBound (cs : List Char) (first : Nat) : Except LogRuleError LogBound :=
  match cut? cs first (size cs) with
  | none => .ok .all
  | some s =>
    match LogBound.ofName? s with
    | some bound => .ok bound
    | none => .error .unknownBound

/-- What stands behind the closing bracket: nothing, or an equals sign and a bound. -/
def readEnd (cs : List Char) (rule : LogRule) (place : Nat) (rest : List Char) :
    Except LogRuleError LogRule :=
  match rest with
  | [] => .ok rule
  | '=' :: _ => (readBound cs (place + 1)).map fun bound => { rule with bound := bound }
  | _ => .error .malformed

/-- The field between braces. -/
def readField (cs : List Char) (first last : Nat) : Except LogRuleError FieldTest :=
  match cut cs first last with
  | [] => .error .malformed
  | piece =>
    match FieldTest.ofText piece with
    | .ok test => .ok test
    | .error fault => .error (.badValue fault)

/-- What stands between the brackets, behind the opening one: a span, a field in braces, or both.
-/
def readSpan (cs : List Char) (rule : LogRule) (place : Nat) (rest : List Char) :
    Except LogRuleError LogRule :=
  let (name, rest) := rest.span fun c => c ≠ ']' ∧ c ≠ '{'
  let stop := place + size name
  match rest with
  | [] => .error .malformed
  | '{' :: rest =>
    let (field, rest) := rest.span (· ≠ '}')
    let close := stop + 1 + size field
    match rest with
    | [] => .error .malformed
    | _ :: rest => do
      let field ← readField cs (stop + 1) close
      match rest with
      | ']' :: rest =>
        readEnd cs { rule with span := cut? cs place stop, field := some field } (close + 2) rest
      | _ => throw .malformed
  | _ :: rest =>
    readEnd cs { rule with span := some (String.ofList (cut cs place stop)) } (stop + 1) rest

/-- Whether a rule can begin with a character, apart from a bracket. -/
def isOpening (c : Char) : Bool :=
  c == '-' || c == ':' || c == '_' || isAlphanumeric c

/-- A rule whose text is `cs`, read without the blanks around it. The places of its parts are
counted in what is read, in bytes, and the parts are cut out of the whole text, so a rule with
blanks in front means something else. -/
def read (cs trimmed : List Char) : Except LogRuleError LogRule :=
  match trimmed with
  | [] => .error .malformed
  | '[' :: rest => readSpan cs (everything .all) 1 rest
  | c :: _ =>
    if !isOpening c then .error .malformed
    else
      let (target, rest) := trimmed.span fun c => c ≠ '=' ∧ c ≠ '['
      let rule : LogRule := ⟨some (String.ofList (cut cs 0 (size target))), none, none, .all⟩
      match rest with
      | [] =>
        let whole := String.ofList cs
        match LogBound.ofName? whole with
        | some bound => .ok (everything bound)
        | none => .ok { rule with target := some whole }
      | '=' :: _ =>
        (readBound cs (size target + 1)).map fun bound => { rule with bound := bound }
      | _ :: rest => readSpan cs rule (size target + 1) rest

/-- The rule that a text describes. -/
def ofText (s : String) : Except LogRuleError LogRule :=
  let cs := s.toList
  read cs ((cs.dropWhile isBlankChar).reverse.dropWhile isBlankChar).reverse

/-- The field of every record. -/
def messageField : String := "message"

/-- Whether a rule is about the records under a target. -/
def covers (r : LogRule) (target : String) : Bool :=
  (match r.target with
    | none => true
    | some s => s.toList.isPrefixOf target.toList)
  && r.span.isNone
  && (match r.field with
    | none => true
    | some test => test == ⟨messageField, none⟩)

/-- How specific a rule is: the length of its target comes first, then whether it names a field. -/
def weight (r : LogRule) : Nat × Nat :=
  ((r.target.map fun s => s.utf8ByteSize + 1).getD 0, if r.field.isSome then 1 else 0)

/-- The rule that counts of two: the more specific one, or else the later. -/
def prefer (r : Option LogRule) (later : LogRule) : Option LogRule :=
  match r with
  | none => some later
  | some r =>
    let (n, fields) := r.weight
    let (n', fields') := later.weight
    if n < n' ∨ (n = n' ∧ fields ≤ fields') then some later else some r

end LogRule

end ToolAuthoring
