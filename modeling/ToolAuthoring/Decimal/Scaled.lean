import ToolAuthoring.Decimal.Double

/-!
# Reading a decimal

The digits of a number are gathered in a 64-bit word, converted to the nearest double, and then
scaled by one power of ten. Digits that no longer fit into the word are dropped; before the point
each of them still counts one power of ten. A number too large for a double has no value.
-/

namespace ToolAuthoring

/-- The leading digits that fit into a 64-bit word, and the power of ten that goes with them. -/
structure Scaled where
  word : Nat
  power : Int
deriving DecidableEq, Repr

namespace Scaled

/-- The digits before the point: once a digit does not fit, it and all later ones only count. -/
def takeWhole (s : Scaled) : List Nat → Scaled
  | [] => s
  | d :: ds =>
    if s.word * 10 + d < 0x10000000000000000 then takeWhole { s with word := s.word * 10 + d } ds
    else { s with power := s.power + (ds.length + 1) }

/-- The digits after the point: once a digit does not fit, it and all later ones are dropped. -/
def takePlaces (s : Scaled) : List Nat → Scaled
  | [] => s
  | d :: ds =>
    if s.word * 10 + d < 0x10000000000000000 then takePlaces ⟨s.word * 10 + d, s.power - 1⟩ ds
    else s

/-- The number with these digits before and after the point, times `10 ^ exponent`. -/
def ofDigits (whole places : List Nat) (exponent : Int) : Scaled :=
  let s := ((⟨0, 0⟩ : Scaled).takeWhole whole).takePlaces places
  { s with power := s.power + exponent }

/-- A power of ten that a double can hold. -/
def powerOfTen (n : Nat) : Float :=
  Float.ofScientific 1 false n

/-- The word times its power of ten, each step rounded to the nearest double. The powers of ten
go up to `10 ^ 308`; a smaller number is divided twice, and past `10 ^ -616` nothing remains. -/
def toFloat? (s : Scaled) : Option Float :=
  let f := s.word.toUInt64.toFloat
  if s.word = 0 then some 0
  else if 308 < s.power then none
  else if 0 ≤ s.power then
    let g := f * powerOfTen s.power.toNat
    if g.isFinite then some g else none
  else if -308 ≤ s.power then some (f / powerOfTen (-s.power).toNat)
  else if -616 ≤ s.power then some (f / powerOfTen 308 / powerOfTen (-s.power - 308).toNat)
  else some 0

/-- The double that is read, with its sign; none if it is out of range. -/
def toDouble? (s : Scaled) (negative : Bool) : Option Double := do
  let f ← s.toFloat?
  Double.ofFloat? (if negative then -f else f)

end Scaled

end ToolAuthoring
