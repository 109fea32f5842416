import ToolAuthoring.KeyMap
import ToolAuthoring.Decimal.Shortest

/-!
# JSON values

A `Json` keeps the members of a record in the order in which they are written. A `JsonValue` is a
value for which that order means nothing: in every record inside it the keys increase, so equal
values have one representation.
-/

namespace ToolAuthoring

/-- A number: an integer of at most 64 bits, kept exactly, or a double. -/
inductive Number where
  | integer (n : Int) (fits : -0x8000000000000000 ≤ n ∧ n < 0x10000000000000000)
  | float (d : Double)
deriving DecidableEq

instance : Inhabited Number := ⟨.float .zero⟩

/-- A JSON value with the members of records in written order. -/
inductive Json where
  | null
  | bool (b : Bool)
  | number (n : Number)
  | text (s : String)
  | list (items : List Json)
  | record (members : List (String × Json))
deriving Inhabited

namespace Json

/-- An integer of 64 bits without sign. -/
def natural (n : UInt64) : Json :=
  .number (.integer n.toNat (by have := n.toNat_lt; omega))

/-- The text, or null. -/
def optionalText : Option String → Json
  | some s => .text s
  | none => .null

/-- In every record the keys increase. -/
inductive Canonical : Json → Prop where
  | null : Canonical .null
  | bool (b : Bool) : Canonical (.bool b)
  | number (n : Number) : Canonical (.number n)
  | text (s : String) : Canonical (.text s)
  | list {items : List Json} : (∀ j ∈ items, Canonical j) → Canonical (.list items)
  | record {members : List (String × Json)} : Ascending members → (∀ m ∈ members, Canonical m.2) →
      Canonical (.record members)

end Json

/-- A JSON value in which the order of members is fixed by their keys. -/
structure JsonValue where
  json : Json
  canonical : json.Canonical

namespace JsonValue

theorem ext {a b : JsonValue} (h : a.json = b.json) : a = b := by
  cases a; cases b; cases h; rfl

/-- The value null. -/
def null : JsonValue := ⟨.null, .null⟩

instance : Inhabited JsonValue := ⟨null⟩

/-- The list of these values. -/
def list (items : List JsonValue) : JsonValue where
  json := .list (items.map json)
  canonical := .list fun _ h => by
    obtain ⟨v, -, rfl⟩ := List.mem_map.1 h
    exact v.canonical

/-- The record with these members. -/
def record (members : KeyMap String JsonValue) : JsonValue where
  json := .record (members.mapValues json).entries
  canonical := .record (members.mapValues json).ascending fun _ h => by
    obtain ⟨m, -, rfl⟩ := List.mem_map.1 h
    exact m.2.canonical

end JsonValue

namespace Json

mutual

/-- The value that a written JSON text stands for: of the members with one key the last counts. -/
def value : Json → JsonValue
  | .null => .null
  | .bool b => ⟨.bool b, .bool b⟩
  | .number n => ⟨.number n, .number n⟩
  | .text s => ⟨.text s, .text s⟩
  | .list items => .list (values items)
  | .record members => .record (.ofList (memberValues members))

/-- The values of the items. -/
def values : List Json → List JsonValue
  | [] => []
  | j :: js => j.value :: values js

/-- The values of the members, under their keys. -/
def memberValues : List (String × Json) → List (String × JsonValue)
  | [] => []
  | (k, j) :: ms => (k, j.value) :: memberValues ms

end

end Json

end ToolAuthoring
