import ToolAuthoring.Json.Document
import ToolAuthoring.Decimal.Scaled

/-!
# Reading JSON text

The reader turns a text into a document and never fails: a fault becomes a part of the document.
It goes on behind a fault that skipping would not report, such as a number out of range, and stops
at any other.
-/

namespace ToolAuthoring

namespace Reader

/-- Where reading goes on, or the fault at which it stopped. -/
abbrev Rest := Except Fault (List Char)

/-- Containers may be nested to one less than this depth. -/
def depthLimit : Nat := 128

/-- The four blanks of JSON. -/
def isBlank (c : Char) : Bool :=
  c == ' ' || c == '\n' || c == '\t' || c == '\r'

/-- Drop leading blanks. -/
def skipBlanks (cs : List Char) : List Char :=
  cs.dropWhile isBlank

/-- The value of a hexadecimal digit. -/
def hexDigit? (c : Char) : Option Nat :=
  if '0' ≤ c ∧ c ≤ '9' then some (c.toNat - 48)
  else if 'a' ≤ c ∧ c ≤ 'f' then some (c.toNat - 87)
  else if 'A' ≤ c ∧ c ≤ 'F' then some (c.toNat - 55)
  else none

/-- The length of a text in bytes. -/
def byteLength (cs : List Char) : Nat :=
  cs.foldl (fun n c => n + c.utf8Size) 0

/-- The code unit of four hexadecimal digits. A text of less than four bytes has ended too early. -/
def codeUnit (cs : List Char) : Except SyntaxError (Nat × List Char) :=
  match cs with
  | a :: b :: c :: d :: rest =>
    match hexDigit? a, hexDigit? b, hexDigit? c, hexDigit? d with
    | some a, some b, some c, some d => .ok (((a * 16 + b) * 16 + c) * 16 + d, rest)
    | _, _, _, _ => .error .invalidEscape
  | _ => .error (if byteLength cs < 4 then .endInText else .invalidEscape)

/-- The character behind a backslash. -/
def simpleEscape? (c : Char) : Option Char :=
  match c with
  | '"' => some '"'
  | '\\' => some '\\'
  | '/' => some '/'
  | 'b' => some '\x08'
  | 'f' => some '\x0c'
  | 'n' => some '\n'
  | 'r' => some '\r'
  | 't' => some '\t'
  | _ => none

/-- Whether a code unit is the first half of a pair. -/
def isHighSurrogate (n : Nat) : Bool := 0xD800 ≤ n && n ≤ 0xDBFF

/-- Whether a code unit is the second half of a pair. -/
def isLowSurrogate (n : Nat) : Bool := 0xDC00 ≤ n && n ≤ 0xDFFF

/-- What an escaped code unit stands for: a character, or an error that only reading reports. -/
inductive Unit16 where
  | char (c : Char) (rest : List Char)
  | undecodable (e : SyntaxError) (rest : List Char)
  | broken (e : SyntaxError)

/-- Decode the code unit `n`, which a second one must complete if it is the first half of a pair. -/
def decodeUnit (n : Nat) (rest : List Char) : Unit16 :=
  if isLowSurrogate n then .undecodable .loneSurrogate rest
  else if isHighSurrogate n then
    match rest with
    | [] | ['\\'] => .broken .endInText
    | '\\' :: 'u' :: more =>
      match codeUnit more with
      | .error e => .broken e
      | .ok (low, rest') =>
        if isLowSurrogate low then
          .char (Char.ofNat (0x10000 + (n - 0xD800) * 0x400 + (low - 0xDC00))) rest'
        else .undecodable .loneSurrogate rest
    | _ => .undecodable .unfinishedPair rest
  else .char (Char.ofNat n) rest

/-- The characters up to the closing quote. `seen` holds the decoded characters, last first, or the
first error that only reading reports; behind such an error escapes are no longer decoded. -/
def textLoop : Nat → List Char → Except SyntaxError (List Char) →
    Except Fault (Except SyntaxError String × List Char)
  | 0, _, _ => .error (.plain .endInText)
  | fuel + 1, cs, seen =>
    let stop (e : SyntaxError) : Except Fault (Except SyntaxError String × List Char) :=
      match seen with
      | .ok _ => .error (.plain e)
      | .error first => .error (.ofText first (some e))
    let push (c : Char) : Except SyntaxError (List Char) := seen.map (c :: ·)
    match cs with
    | [] => stop .endInText
    | '"' :: rest => .ok (seen.map fun cs => String.ofList cs.reverse, rest)
    | '\\' :: 'u' :: rest =>
      match codeUnit rest with
      | .error e => stop e
      | .ok (n, rest') =>
        match seen with
        | .error _ => textLoop fuel rest' seen
        | .ok _ =>
          match decodeUnit n rest' with
          | .char c rest'' => textLoop fuel rest'' (push c)
          | .undecodable e rest'' => textLoop fuel rest'' (.error e)
          | .broken e => stop e
    | '\\' :: c :: rest =>
      match simpleEscape? c with
      | some c => textLoop fuel rest (push c)
      | none => stop .invalidEscape
    | ['\\'] => stop .endInText
    | c :: rest => if c.toNat < 32 then stop .controlCharacter else textLoop fuel rest (push c)

/-- A text behind its opening quote, and what follows the closing one. -/
def quoted (fuel : Nat) (cs : List Char) : Except Fault (Except SyntaxError String × List Char) :=
  textLoop fuel cs (.ok [])

/-- The values of leading digits, and what follows them. -/
def digits (cs : List Char) : List Nat × List Char :=
  ((cs.takeWhile Char.isDigit).map fun c => c.toNat - 48, cs.dropWhile Char.isDigit)

/-- The natural number with these decimal digits. -/
def ofDigits (ds : List Nat) : Nat :=
  ds.foldl (fun n d => n * 10 + d) 0

/-- The document of a number with these digits. -/
def numberDocument (negative : Bool) (whole places : List Nat) (exponent : Int) : Document :=
  match (Scaled.ofDigits whole places exponent).toDouble? negative with
  | some d => .number (.float d)
  | none => .fault (.unnamed .numberOutOfRange none)

/-- The document of a number without point and exponent: exact if it fits, else a double. There is
no negative integer zero. -/
def integerDocument (negative : Bool) (whole : List Nat) : Document :=
  let n : Int := ofDigits whole
  let signed := if negative then -n else n
  if h : -0x8000000000000000 ≤ signed ∧ signed < 0x10000000000000000
      ∧ ¬(negative = true ∧ n = 0) then
    .number (.integer signed ⟨h.1, h.2.1⟩)
  else numberDocument negative whole [] 0

/-- A number that ends too early or goes on with a character that no number has. -/
def badNumber (rest : List Char) : Fault :=
  .unnamed (if rest.isEmpty then .endInValue else .invalidNumber) (some .invalidNumber)

/-- A number behind its sign. -/
def number (negative : Bool) (cs : List Char) : Except Fault (Document × List Char) :=
  let (whole, rest) := digits cs
  match whole with
  | [] => .error (badNumber cs)
  | 0 :: _ :: _ => .error (.unnamed .invalidNumber (some .invalidNumber))
  | _ =>
    let scientific (places : List Nat) (rest : List Char) : Except Fault (Document × List Char) :=
      let (minus, rest) :=
        match rest with
        | '+' :: r => (false, r)
        | '-' :: r => (true, r)
        | r => (false, r)
      let (power, rest') := digits rest
      if power.isEmpty then .error (badNumber rest)
      else
        let e : Int := ofDigits power
        .ok (numberDocument negative whole places (if minus then -e else e), rest')
    match rest with
    | '.' :: r =>
      let (places, rest') := digits r
      if places.isEmpty then .error (badNumber r)
      else
        match rest' with
        | 'e' :: r | 'E' :: r => scientific places r
        | _ => .ok (numberDocument negative whole places 0, rest')
    | 'e' :: r | 'E' :: r => scientific [] r
    | _ => .ok (integerDocument negative whole, rest)

/-- The rest of a word such as `null`. -/
def word (expected : List Char) (d : Document) (cs : List Char) : Document × Rest :=
  let rec go : List Char → List Char → Rest
    | [], rest => .ok rest
    | _ :: _, [] => .error (.unnamed .endInValue (some .endInValue))
    | e :: es, c :: cs =>
      if c = e then go es cs else .error (.unnamed .expectedWord (some .expectedWord))
  match go expected cs with
  | .ok rest => (d, .ok rest)
  | .error f => (.fault f, .error f)

/-- A container at the depth limit cannot be read, only skipped. A list there is no name either. -/
def limitDepth (depth : Nat) (d : Document) : Document :=
  if depth < depthLimit then d
  else
    let onSkip :=
      match d.skip with
      | .ok _ => none
      | .error e => some e
    match d with
    | .list _ _ => .fault (.unnamed .tooDeep onSkip)
    | _ => .fault (.ofText .tooDeep onSkip)

mutual

/-- Read one value, which stands inside `depth` containers. -/
def value : Nat → Nat → List Char → Document × Rest
  | 0, _, _ => (.fault (.plain .endInValue), .error (.plain .endInValue))
  | fuel + 1, depth, cs =>
    match skipBlanks cs with
    | [] => (.fault (.plain .endInValue), .error (.plain .endInValue))
    | 'n' :: rest => word ['u', 'l', 'l'] .null rest
    | 't' :: rest => word ['r', 'u', 'e'] (.bool true) rest
    | 'f' :: rest => word ['a', 'l', 's', 'e'] (.bool false) rest
    | '"' :: rest =>
      match quoted fuel rest with
      | .ok (.ok s, rest) => (.text s, .ok rest)
      | .ok (.error e, rest) => (.fault (.ofText e none), .ok rest)
      | .error f => (.fault f, .error f)
    | '[' :: rest =>
      let (ds, ending, rest) := firstItem fuel (depth + 1) rest
      (limitDepth (depth + 1) (.list ds ending), rest)
    | '{' :: rest =>
      let (ms, ending, rest) := members fuel (depth + 1) true rest
      (limitDepth (depth + 1) (.record ms ending), rest)
    | c :: rest =>
      if c = '-' ∨ c.isDigit then
        match if c = '-' then number true rest else number false (c :: rest) with
        | .ok (d, rest) => (d, .ok rest)
        | .error f => (.fault f, .error f)
      else (.fault (.plain .expectedValue), .error (.plain .expectedValue))

/-- The items behind an opening bracket. -/
def firstItem : Nat → Nat → List Char → List Document × Option Fault × Rest
  | 0, _, _ => ([], some (.plain .endInList), .error (.plain .endInList))
  | fuel + 1, depth, cs =>
    match skipBlanks cs with
    | [] => ([], some (.plain .endInList), .error (.plain .endInList))
    | ']' :: rest => ([], none, .ok rest)
    | cs => item fuel depth cs

/-- One item and the items behind it. -/
def item : Nat → Nat → List Char → List Document × Option Fault × Rest
  | 0, _, _ => ([], some (.plain .endInList), .error (.plain .endInList))
  | fuel + 1, depth, cs =>
    match value fuel depth cs with
    | (d, .error f) => ([d], some f, .error f)
    | (d, .ok rest) =>
      let (ds, ending, rest) := nextItem fuel depth rest
      (d :: ds, ending, rest)

/-- The items behind an item: a comma and another one, or the closing bracket. -/
def nextItem : Nat → Nat → List Char → List Document × Option Fault × Rest
  | 0, _, _ => ([], some (.plain .endInList), .error (.plain .endInList))
  | fuel + 1, depth, cs =>
    let stop (f : Fault) : List Document × Option Fault × Rest := ([], some f, .error f)
    match skipBlanks cs with
    | [] => stop (.plain .endInList)
    | ']' :: rest => ([], none, .ok rest)
    | ',' :: rest =>
      match skipBlanks rest with
      | ']' :: _ => stop (.ofText .trailingComma (some .expectedValue))
      | rest => item fuel depth rest
    | _ => stop (.plain .expectedCommaOrBracket)

/-- The members behind an opening brace (`first`) or behind a member. -/
def members : Nat → Nat → Bool → List Char →
    List (Except SyntaxError String × Document) × Option Fault × Rest
  | 0, _, _, _ => ([], some (.plain .endInRecord), .error (.plain .endInRecord))
  | fuel + 1, depth, first, cs =>
    let stop (f : Fault) : List (Except SyntaxError String × Document) × Option Fault × Rest :=
      ([], some f, .error f)
    match skipBlanks cs with
    | [] => stop (.plain .endInRecord)
    | '}' :: rest => ([], none, .ok rest)
    | c :: rest =>
      if first then
        if c = '"' then member fuel depth rest else stop (.plain .keyNotText)
      else if c = ',' then
        match skipBlanks rest with
        | '"' :: rest => member fuel depth rest
        | '}' :: _ => stop (.ofText .trailingComma (some .keyNotText))
        | [] => stop (.ofText .endInValue (some .endInRecord))
        | _ => stop (.plain .keyNotText)
      else stop (.plain .expectedCommaOrBrace)

/-- A member behind the opening quote of its key, and the members behind it. -/
def member : Nat → Nat → List Char →
    List (Except SyntaxError String × Document) × Option Fault × Rest
  | 0, _, _ => ([], some (.plain .endInRecord), .error (.plain .endInRecord))
  | fuel + 1, depth, cs =>
    match quoted fuel cs with
    | .error f => ([], some f, .error f)
    | .ok (key, rest) =>
      let broken (e : SyntaxError) :
          List (Except SyntaxError String × Document) × Option Fault × Rest :=
        ([(key, .fault (.plain e))], some (.plain e), .error (.plain e))
      match skipBlanks rest with
      | [] => broken .endInRecord
      | ':' :: rest =>
        match value fuel depth rest with
        | (d, .error f) => ([(key, d)], some f, .error f)
        | (d, .ok rest) =>
          let (ms, ending, rest) := members fuel depth false rest
          ((key, d) :: ms, ending, rest)
      | _ => broken .expectedColon

end

end Reader

/-- Read a text as one document; the error is what follows the document, if anything does. Each
character needs at most three steps of the reader. -/
def Document.read (s : String) : Document × Except SyntaxError Unit :=
  let cs := s.toList
  let (d, rest) := Reader.value (3 * cs.length + 3) 0 cs
  match rest with
  | .ok rest =>
    (d, if (Reader.skipBlanks rest).isEmpty then .ok () else .error .trailingCharacters)
  | .error f => (d, .error f.onRead)

/-- Read a text as a value. -/
def Json.parse (s : String) : Except SyntaxError JsonValue := do
  let (d, after) := Document.read s
  let v ← d.value
  after
  return v

end ToolAuthoring
