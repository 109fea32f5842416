import ToolAuthoring.Json.Basic

/-!
# Documents

A `Document` is a JSON text as it has been read: members stand in written order, with repetitions,
and the first fault of the text stays at the place where reading met it. Whoever takes a document
apart therefore reports whichever comes first, a fault of the text or a value of the wrong kind.

A part that nobody asks for is skipped and not read. Skipping is more tolerant: it decodes no
text, computes no number and has no nesting limit.
-/

namespace ToolAuthoring

/-- Why a text is not JSON. -/
inductive SyntaxError where
  | endInValue
  | endInList
  | endInRecord
  | endInText
  | expectedValue
  | expectedWord
  | expectedColon
  | expectedCommaOrBracket
  | expectedCommaOrBrace
  | trailingComma
  | trailingCharacters
  | keyNotText
  | invalidNumber
  | numberOutOfRange
  | invalidEscape
  | unfinishedPair
  | loneSurrogate
  | controlCharacter
  | tooDeep
deriving DecidableEq, Repr

/-- The text of a syntax error. -/
def SyntaxError.message : SyntaxError → String
  | .endInValue => "EOF while parsing a value"
  | .endInList => "EOF while parsing a list"
  | .endInRecord => "EOF while parsing an object"
  | .endInText => "EOF while parsing a string"
  | .expectedValue => "expected value"
  | .expectedWord => "expected ident"
  | .expectedColon => "expected \x60:\x60"
  | .expectedCommaOrBracket => "expected \x60,\x60 or \x60]\x60"
  | .expectedCommaOrBrace => "expected \x60,\x60 or \x60\x7d\x60"
  | .trailingComma => "trailing comma"
  | .trailingCharacters => "trailing characters"
  | .keyNotText => "key must be a string"
  | .invalidNumber => "invalid number"
  | .numberOutOfRange => "number out of range"
  | .invalidEscape => "invalid escape"
  | .unfinishedPair => "unexpected end of hex escape"
  | .loneSurrogate => "lone leading surrogate in hex escape"
  | .controlCharacter => "control character (\\u0000-\\u001F) found while parsing a string"
  | .tooDeep => "recursion limit exceeded"

/-- A fault of the text: what reading it reports, what skipping it reports, if anything, and what is
reported where a name should stand. -/
structure Fault where
  onRead : SyntaxError
  onSkip : Option SyntaxError
  onName : SyntaxError
deriving DecidableEq, Repr

namespace Fault

/-- A fault of a text, or of what stands around a value. -/
def ofText (onRead : SyntaxError) (onSkip : Option SyntaxError) : Fault :=
  ⟨onRead, onSkip, onRead⟩

/-- A fault that is always reported alike. -/
def plain (e : SyntaxError) : Fault := ofText e (some e)

/-- A fault behind the first character of a number or word, which already shows that it is no
name. -/
def unnamed (onRead : SyntaxError) (onSkip : Option SyntaxError) : Fault :=
  ⟨onRead, onSkip, .expectedValue⟩

end Fault

/-- A JSON text as it has been read. A key is an error if its text cannot be decoded. The ending
of a list or record is none if its closing bracket was met. -/
inductive Document where
  | null
  | bool (b : Bool)
  | number (n : Number)
  | text (s : String)
  | list (items : List Document) (ending : Option Fault)
  | record (members : List (Except SyntaxError String × Document)) (ending : Option Fault)
  | fault (f : Fault)
deriving Inhabited

namespace Document

/-- The end of a list or record that is read. -/
def readEnding : Option Fault → Except SyntaxError Unit
  | none => .ok ()
  | some f => .error f.onRead

/-- The end of a list or record that is skipped. -/
def skipEnding : Option Fault → Except SyntaxError Unit
  | some ⟨_, some e, _⟩ => .error e
  | _ => .ok ()

mutual

/-- Pass over a part that nobody asks for. -/
def skip : Document → Except SyntaxError Unit
  | .list items ending => do
    skipItems items
    skipEnding ending
  | .record members ending => do
    skipMembers members
    skipEnding ending
  | .fault f => skipEnding (some f)
  | _ => .ok ()

/-- Pass over the items of a list. -/
def skipItems : List Document → Except SyntaxError Unit
  | [] => .ok ()
  | d :: ds => do
    d.skip
    skipItems ds

/-- Pass over the members of a record. -/
def skipMembers : List (Except SyntaxError String × Document) → Except SyntaxError Unit
  | [] => .ok ()
  | (_, d) :: ms => do
    d.skip
    skipMembers ms

end

mutual

/-- Read a part as a value; of the members with one key the last counts. -/
def value : Document → Except SyntaxError JsonValue
  | .null => .ok .null
  | .bool b => .ok ⟨.bool b, .bool b⟩
  | .number n => .ok ⟨.number n, .number n⟩
  | .text s => .ok ⟨.text s, .text s⟩
  | .list items ending => do
    let vs ← values items
    readEnding ending
    return .list vs
  | .record members ending => do
    let ms ← memberValues members
    readEnding ending
    return .record (.ofList ms)
  | .fault f => .error f.onRead

/-- The values of the items. -/
def values : List Document → Except SyntaxError (List JsonValue)
  | [] => .ok []
  | d :: ds => do
    let v ← d.value
    let vs ← values ds
    return v :: vs

/-- The values of the members, under their keys. -/
def memberValues : List (Except SyntaxError String × Document) →
    Except SyntaxError (List (String × JsonValue))
  | [] => .ok []
  | (k, d) :: ms => do
    let k ← k
    let v ← d.value
    let vs ← memberValues ms
    return (k, v) :: vs

end

end Document

namespace Json

mutual

/-- A value at hand as a document without faults. -/
def document : Json → Document
  | .null => .null
  | .bool b => .bool b
  | .number n => .number n
  | .text s => .text s
  | .list items => .list (documents items) none
  | .record members => .record (memberDocuments members) none

/-- The documents of the items. -/
def documents : List Json → List Document
  | [] => []
  | j :: js => j.document :: documents js

/-- The documents of the members, under their keys. -/
def memberDocuments : List (String × Json) → List (Except SyntaxError String × Document)
  | [] => []
  | (k, j) :: ms => (.ok k, j.document) :: memberDocuments ms

end

end Json

end ToolAuthoring
