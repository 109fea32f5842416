import ToolAuthoring.Json.Reader
import ToolAuthoring.Json.Printer
import ToolAuthoring.Text.Quoted

/-!
# Decoding documents

A decoder takes a document apart in the order in which it was read and reports the first error it
meets. Records are described by a `Layout`: their members in order, which of them must be there, and
what happens to other members.
-/

namespace ToolAuthoring

/-- Where a document comes from: a text, or a value that was already at hand. -/
inductive Origin where
  | text
  | value
deriving DecidableEq, Repr

/-- What a decoder met in place of what it expected. -/
inductive Found where
  | null
  | bool (b : Bool)
  | number (n : Number)
  | text (s : String)
  | list
  | record

/-- A text in the single quotes of messages that name keys and literals. -/
def ticked (s : String) : String :=
  "\x60" ++ s ++ "\x60"

/-- How a message names what was met. -/
def Found.describe : Found → String
  | .null => "null"
  | .bool b => "boolean " ++ ticked (if b then "true" else "false")
  | .number n =>
    (match n with
      | .integer _ _ => "integer "
      | .float _ => "floating point ") ++ ticked (Json.writeNumber n)
  | .text s => "string " ++ quoted s
  | .list => "sequence"
  | .record => "map"

/-- Why a document does not decode. -/
inductive DecodeError where
  /-- the text is not JSON -/
  | malformed (e : SyntaxError)
  /-- a value of another kind was expected -/
  | wrongKind (found : Found) (expected : String)
  /-- the kind is right, the value is not -/
  | wrongValue (found : Found) (expected : String)
  /-- a list has too few or too many items for a record -/
  | wrongLength (length : Nat) (expected : String)
  /-- a required member is missing -/
  | missing (key : String)
  /-- a member of a record occurs twice -/
  | repeated (key : String)
  /-- a name is none of the known ones -/
  | unknownName (name : String) (known : List String)
  /-- a value fits no alternative of the type with this title -/
  | noAlternative (title : String)
  /-- a text is not accepted by the domain, for the reason given -/
  | refused (reason : String)

/-- The text of a decoding error. -/
def DecodeError.message : DecodeError → String
  | .malformed e => e.message
  | .wrongKind found expected => "invalid type: " ++ found.describe ++ ", expected " ++ expected
  | .wrongValue found expected => "invalid value: " ++ found.describe ++ ", expected " ++ expected
  | .wrongLength n expected => "invalid length " ++ toString n ++ ", expected " ++ expected
  | .missing key => "missing field " ++ ticked key
  | .repeated key => "duplicate field " ++ ticked key
  | .unknownName name known =>
    "unknown variant " ++ ticked name ++ ", expected one of "
      ++ String.intercalate ", " (known.map ticked)
  | .noAlternative title => "data did not match any variant of untagged enum " ++ title
  | .refused reason => reason

/-- A way to take a document apart. -/
abbrev Decoder (α : Type) := Origin → Document → Except DecodeError α

/-- An error of the text is an error of decoding. -/
def ofSyntax {α : Type} : Except SyntaxError α → Except DecodeError α
  | .ok a => .ok a
  | .error e => .error (.malformed e)

namespace Document

/-- What stands at the place of a document. -/
def found : Document → Except SyntaxError Found
  | .null => .ok .null
  | .bool b => .ok (.bool b)
  | .number n => .ok (.number n)
  | .text s => .ok (.text s)
  | .list _ _ => .ok .list
  | .record _ _ => .ok .record
  | .fault f => .error f.onRead

/-- A document of another kind than expected. -/
def mismatch {α : Type} (d : Document) (expected : String) : Except DecodeError α := do
  let found ← ofSyntax d.found
  throw (.wrongKind found expected)

end Document

namespace Decoder

variable {α β κ : Type}

/-- A text. -/
def text : Decoder String
  | _, .text s => .ok s
  | _, d => d.mismatch "a string"

/-- A truth value. -/
def flag : Decoder Bool
  | _, .bool b => .ok b
  | _, d => d.mismatch "a boolean"

/-- A count of at most 64 bits. -/
def count : Decoder UInt64
  | _, .number (.integer n h) =>
    if n < 0 then .error (.wrongValue (.number (.integer n h)) "usize") else .ok n.toNat.toUInt64
  | _, d => d.mismatch "usize"

/-- A double; an integer is converted. -/
def double : Decoder Double
  | _, .number (.float d) => .ok d
  | _, .number (.integer n _) => .ok (Double.ofInt n)
  | _, d => d.mismatch "f64"

/-- Any value. -/
def value : Decoder JsonValue :=
  fun _ d => ofSyntax d.value

/-- A list of any values. -/
def values : Decoder (List JsonValue)
  | _, .list items ending => ofSyntax do
    let vs ← Document.values items
    Document.readEnding ending
    return vs
  | _, d => d.mismatch "a sequence"

/-- The value, or null for none. -/
def optional (decode : Decoder α) : Decoder (Option α)
  | _, .null => .ok none
  | origin, d => some <$> decode origin d

/-- A text that the domain reads, or refuses with a reason. -/
def parsed (parse : String → Except String α) : Decoder α := fun origin d => do
  let s ← text origin d
  match parse s with
  | .ok a => return a
  | .error reason => throw (.refused reason)

/-- The members of a map, with their keys read by `key`. -/
def entries (key : String → Except DecodeError κ) (decode : Decoder α) (origin : Origin) :
    List (Except SyntaxError String × Document) → Except DecodeError (List (κ × α))
  | [] => .ok []
  | (k, d) :: ms => do
    let k ← ofSyntax k
    let k ← key k
    let v ← decode origin d
    let vs ← entries key decode origin ms
    return (k, v) :: vs

/-- A map; the last of several values of a key stays. -/
def map [Ord κ] [Std.TransOrd κ] [Std.LawfulEqOrd κ] (key : String → Except DecodeError κ)
    (decode : Decoder α) : Decoder (KeyMap κ α)
  | origin, .record members ending => do
    let es ← entries key decode origin members
    ofSyntax (Document.readEnding ending)
    return .ofList es
  | _, d => d.mismatch "a map"

/-- The value with a name, among the names that are known. -/
def ofName (known : List String) (ofName? : String → Option α) (name : String) :
    Except DecodeError α :=
  match ofName? name with
  | some a => .ok a
  | none => .error (.unknownName name known)

/-- A name, or a record whose only member has that name and the value null. In a text, any other
value is not even looked at. -/
def named (known : List String) (ofName? : String → Option α) : Decoder α
  | _, .text s => ofName known ofName? s
  | .value, .record [(k, d)] _ => do
    let a ← ofName known ofName? (← ofSyntax k)
    match d with
    | .null => return a
    | d => d.mismatch "unit"
  | .value, .record _ _ => .error (.wrongValue .record "map with a single key")
  | .value, d => d.mismatch "string or map"
  | .text, .record [] none => .error (.malformed .expectedValue)
  | .text, .record [] (some f) => .error (.malformed f.onRead)
  | .text, .record ((k, d) :: more) ending => do
    let a ← ofName known ofName? (← ofSyntax k)
    match d with
    | .null =>
      match more, ending with
      | [], none => return a
      | [], some ⟨.endInRecord, _, _⟩ => throw (.malformed .endInRecord)
      | _, _ => throw (.malformed .expectedValue)
    | d => d.mismatch "unit"
  | .text, .fault f => .error (.malformed f.onName)
  | .text, _ => .error (.malformed .expectedValue)

end Decoder

/-- A member of a record: its key, whether it must be there, and how its value is decoded to a
part of the record. -/
structure Slot (μ : Type) where
  key : String
  required : Bool
  decode : Decoder μ

/-- How a record is decoded to its parts: its title in messages, its members in order, and, if other
members are kept, how. -/
structure Layout (μ : Type) where
  title : String
  slots : List (Slot μ)
  others : Option (String → Decoder μ)

namespace Layout

variable {μ α : Type}

/-- The slot with a key. -/
def slot? (layout : Layout μ) (key : String) : Option (Slot μ) :=
  layout.slots.find? fun s => s.key == key

/-- The parts of the members in read order, with their keys. A slot may be filled once. -/
def readMembers (layout : Layout μ) (origin : Origin) (seen : List String) :
    List (Except SyntaxError String × Document) → Except DecodeError (List (String × μ))
  | [] => .ok []
  | (k, d) :: ms => do
    let key ← ofSyntax k
    match layout.slot? key with
    | some slot =>
      if seen.contains key then throw (.repeated key)
      let part ← slot.decode origin d
      let parts ← readMembers layout origin (key :: seen) ms
      return (key, part) :: parts
    | none =>
      match layout.others with
      | some keep =>
        let part ← keep key origin d
        let parts ← readMembers layout origin seen ms
        return (key, part) :: parts
      | none =>
        ofSyntax d.skip
        readMembers layout origin seen ms

/-- The first required member that no part stands for. -/
def missing? (layout : Layout μ) (parts : List (String × μ)) : Option String :=
  (layout.slots.find? fun s => s.required && !parts.any fun p => p.1 == s.key).map (·.key)

/-- The end of a list whose items have filled all slots. -/
def endItems (origin : Origin) (length : Nat) (rest : List Document) (ending : Option Fault) :
    Except DecodeError Unit :=
  match origin with
  | .value =>
    if rest.isEmpty then .ok () else .error (.wrongLength length "fewer elements in array")
  | .text =>
    if rest.isEmpty then
      match ending with
      | none => .ok ()
      | some ⟨.trailingComma, _, _⟩ => .error (.malformed .trailingComma)
      | some ⟨.endInList, _, _⟩ => .error (.malformed .endInList)
      | some _ => .error (.malformed .trailingCharacters)
    else .error (.malformed .trailingCharacters)

/-- The parts of a record that is written as the list of its members. -/
def readItems (layout : Layout μ) (origin : Origin) (length : Nat) (ending : Option Fault) :
    List (Slot μ) → List Document → Except DecodeError (List μ)
  | [], rest => do
    endItems origin length rest ending
    return []
  | slot :: slots, d :: ds => do
    let part ← slot.decode origin d
    let parts ← readItems layout origin length ending slots ds
    return part :: parts
  | slot :: slots, [] => do
    ofSyntax (Document.readEnding ending)
    if slot.required then
      throw (.wrongLength (layout.slots.length - (slots.length + 1))
        ("struct " ++ layout.title ++ " with " ++ toString layout.slots.length ++ " elements"))
    readItems layout origin length ending slots []

/-- The parts of a record. A record that keeps other members is never written as a list. -/
def read (layout : Layout μ) : Decoder (List μ)
  | origin, .record members ending => do
    let parts ← layout.readMembers origin [] members
    ofSyntax (Document.readEnding ending)
    match layout.missing? parts with
    | some key => throw (.missing key)
    | none => return parts.map (·.2)
  | origin, .list items ending =>
    if layout.others.isSome then .error (.wrongKind .list ("struct " ++ layout.title))
    else layout.readItems origin items.length ending layout.slots items
  | _, d => d.mismatch ("struct " ++ layout.title)

/-- The record that results when the parts are put into `initial` one after the other. -/
def decode (layout : Layout μ) (initial : α) (put : α → μ → α) : Decoder α := fun origin d => do
  let parts ← layout.read origin d
  return parts.foldl put initial

end Layout

namespace Decoder

/-- Decode a text; what follows the value is an error. -/
def ofText {α : Type} (decode : Decoder α) (s : String) : Except DecodeError α := do
  let (d, after) := Document.read s
  let a ← decode .text d
  ofSyntax after
  return a

/-- Decode a value at hand. -/
def ofValue {α : Type} (decode : Decoder α) (v : JsonValue) : Except DecodeError α :=
  decode .value v.json.document

end Decoder

end ToolAuthoring
