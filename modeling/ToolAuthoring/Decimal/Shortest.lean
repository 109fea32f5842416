import ToolAuthoring.Decimal.Double

/-!
# The shortest decimal of a double

Every double stands for the interval of reals that round to it. `Double.shortest` finds the
decimal with the fewest digits in that interval, and of several the one nearest to the double.
All arithmetic is on naturals: a fraction is a pair of a numerator and a denominator.
-/

namespace ToolAuthoring

/-- The decimal `digits * 10 ^ exponent`. -/
structure Decimal where
  digits : Nat
  exponent : Int
deriving DecidableEq, Repr

namespace Decimal

/-- The number of digits of `n`, at least one. -/
def digitCount (n : Nat) : Nat :=
  (Nat.toDigits 10 n).length

/-- `n` without its last `k` zeros, and how many were dropped. -/
def dropZeros : Nat → Nat → Nat × Nat
  | 0, n => (n, 0)
  | fuel + 1, n =>
    if n % 10 = 0 ∧ n ≠ 0 then
      let (m, k) := dropZeros fuel (n / 10)
      (m, k + 1)
    else (n, 0)

/-- The same decimal with no zero at the end of its digits. -/
def stripZeros (d : Decimal) : Decimal :=
  let (m, k) := dropZeros (digitCount d.digits) d.digits
  ⟨m, d.exponent + k⟩

end Decimal

/-- The reals `quarters * num / den` around a double, with `quarters` the double itself counted in
quarters of its last place and `low`, `high` the ends of the interval that rounds to it. -/
structure RoundingInterval where
  quarters : Nat
  low : Nat
  high : Nat
  closed : Bool
  num : Nat
  den : Nat

namespace RoundingInterval

/-- The interval of the double `mantissa * 2 ^ exponent`. Below a power of two the neighbour is
only half as far away (`tight`); the ends belong to the interval when the mantissa is even. -/
def ofParts (mantissa : Nat) (exponent : Int) (tight : Bool) : RoundingInterval :=
  let e := exponent - 2
  { quarters := 4 * mantissa
    low := 4 * mantissa - (if tight then 1 else 2)
    high := 4 * mantissa + 2
    closed := mantissa % 2 == 0
    num := Nat.pow 2 e.toNat
    den := Nat.pow 2 (-e).toNat }

/-- The interval of a double, its sign aside. -/
def ofDouble (d : Double) : RoundingInterval :=
  let e := ((d.bits >>> 52) &&& 0x7FF).toNat
  let f := (d.bits &&& 0xFFFFFFFFFFFFF).toNat
  if e = 0 then ofParts f (-1074) false
  else ofParts (0x10000000000000 + f) ((e : Int) - 1075) (f == 0 && e > 1)

/-- Whether a decimal lies in the interval. -/
def admits (r : RoundingInterval) (d : Decimal) : Bool :=
  let lhs := d.digits * Nat.pow 10 d.exponent.toNat * r.den
  let unit := r.num * Nat.pow 10 (-d.exponent).toNat
  if r.closed then r.low * unit ≤ lhs && lhs ≤ r.high * unit
  else r.low * unit < lhs && lhs < r.high * unit

/-- The least `k` with the double below `10 ^ k`. -/
def scale (r : RoundingInterval) : Int :=
  let whole := r.quarters * r.num / r.den
  if whole = 0 then
    let ceiling := (r.den + r.quarters * r.num - 1) / (r.quarters * r.num)
    1 - (Decimal.digitCount (ceiling - 1) : Int)
  else Decimal.digitCount whole

/-- The better of the double's two neighbours among the multiples of `10 ^ e`, if one of them is in
the interval. An exact tie goes to the even neighbour. -/
def onGrid? (r : RoundingInterval) (e : Int) : Option Decimal :=
  let value := r.quarters * r.num * Nat.pow 10 (-e).toNat
  let unit := r.den * Nat.pow 10 e.toNat
  let below := value / unit
  let lower : Decimal := ⟨below, e⟩
  let upper : Decimal := ⟨below + 1, e⟩
  match r.admits lower, r.admits upper with
  | true, true =>
    let twice := 2 * (value % unit)
    some (if twice < unit ∨ (twice = unit ∧ below % 2 = 0) then lower else upper)
  | true, false => some lower
  | false, true => some upper
  | false, false => none

/-- The first grid with a hit, from one digit on; seventeen digits are enough for every double. -/
def shortest (r : RoundingInterval) : Decimal :=
  let k := r.scale
  let found := (List.range 17).findSome? fun (n : Nat) => r.onGrid? (k - 1 - n)
  (found.getD ⟨r.quarters * r.num * Nat.pow 10 1100 / r.den, -1100⟩).stripZeros

end RoundingInterval

/-- The decimal with the fewest digits that reads back to the double, its sign aside. -/
def Double.shortest (d : Double) : Decimal :=
  if d.bits <<< 1 = 0 then ⟨0, 0⟩ else (RoundingInterval.ofDouble d).shortest

/-- Which leading exponents are written without an exponent part. -/
structure DecimalStyle where
  plainFrom : Int
  plainBelow : Int

namespace DecimalStyle

/-- The text of a decimal: plain digits with at least one place after the point, or one digit, the
rest after a point, and a signed exponent. -/
def write (style : DecimalStyle) (d : Decimal) : String :=
  let ds := Nat.toDigits 10 d.digits
  let lead := d.exponent + ds.length - 1
  let text (cs : List Char) := String.ofList cs
  if style.plainFrom ≤ lead ∧ lead < style.plainBelow then
    if 0 ≤ d.exponent then
      text (ds ++ List.replicate d.exponent.toNat '0' ++ ['.', '0'])
    else if 0 ≤ lead then
      let whole := (lead + 1).toNat
      text (ds.take whole ++ '.' :: ds.drop whole)
    else
      text ('0' :: '.' :: List.replicate (-lead - 1).toNat '0' ++ ds)
  else
    let rest := ds.drop 1
    let point := if rest.isEmpty then [] else '.' :: rest
    let sign := if lead < 0 then '-' else '+'
    text (ds.take 1 ++ point ++ 'e' :: sign :: Nat.toDigits 10 lead.natAbs)

/-- The text of a double: the sign, also that of a zero, and its shortest decimal. -/
def writeDouble (style : DecimalStyle) (d : Double) : String :=
  let body := style.write d.shortest
  if d.isNegative then "-" ++ body else body

end DecimalStyle

end ToolAuthoring
