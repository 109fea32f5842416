/-!
# Finite doubles

A `Double` is a finite 64-bit floating point number, known by its bits, so that equality of two of
them is decidable and tells the two zeros apart.
-/

namespace ToolAuthoring

/-- The exponent field is not the one of the infinities and of the values that are no number. -/
def isFiniteBits (b : UInt64) : Bool :=
  (b >>> 52) &&& 0x7FF != 0x7FF

/-- A finite 64-bit floating point number. -/
structure Double where
  bits : UInt64
  finite : isFiniteBits bits = true
deriving DecidableEq

namespace Double

/-- Positive zero. -/
def zero : Double := ⟨0, by decide⟩

instance : Inhabited Double := ⟨zero⟩

/-- The number as the machine computes with it. -/
def toFloat (d : Double) : Float :=
  Float.ofBits d.bits

/-- A machine number, if it is finite. -/
def ofFloat? (f : Float) : Option Double :=
  if h : isFiniteBits f.toBits = true then some ⟨f.toBits, h⟩ else none

/-- Whether the sign bit is set. -/
def isNegative (d : Double) : Bool :=
  d.bits >>> 63 == 1

/-- The double nearest to an integer of at most 64 bits, a tie going to the even neighbour. -/
def ofInt (n : Int) : Double :=
  let f := n.natAbs.toUInt64.toFloat
  (ofFloat? (if n < 0 then -f else f)).getD zero

end Double

end ToolAuthoring
