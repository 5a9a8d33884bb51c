import RecordQuery.Number.Decimal
import RecordQuery.Number.Rounding

namespace RecordQuery

inductive Precision where
  | single
  | double
  deriving DecidableEq, Repr

namespace Precision

def fraction : Precision → Nat
  | single => 23
  | double => 52

def exponent : Precision → Nat
  | single => 8
  | double => 11

def below (p : Precision) : Nat :=
  p.exponent + p.fraction

def width (p : Precision) : Nat :=
  p.below + 1

def fractions (p : Precision) : Nat :=
  Nat.pow 2 p.fraction

def magnitudes (p : Precision) : Nat :=
  Nat.pow 2 p.below

def leastExponent : Precision → Int
  | single => -149
  | double => -1074

def infinity (p : Precision) : Nat :=
  p.magnitudes - p.fractions

def name : Precision → String
  | single => "f32"
  | double => "f64"

/-- The bits below the sign of the number nearest to `num / den`, ties going to the even one. What
is too large becomes infinite. -/
def nearest (p : Precision) (num den : Nat) : Nat :=
  if num = 0 then 0
  else
    let q := max (Rounding.floorLog2 num den - p.fraction) p.leastExponent
    let m := Rounding.nearestEven (Rounding.scaleUp 2 num (-q)) (Rounding.scaleUp 2 den q)
    min (m + (q - p.leastExponent).toNat * p.fractions) p.infinity

/-- The bits below the sign of the number nearest to a decimal one. No number of either precision
reaches `10 ^ 400`, nor does any but zero lie below `10 ^ -400`. -/
def nearestDecimal (p : Precision) (d : Decimal) : Nat :=
  let place := ((Nat.toDigits 10 d.digits).length : Int) + d.exponent
  if d.digits = 0 ∨ place < -400 then 0
  else if 400 < place then p.infinity
  else p.nearest (Rounding.scaleUp 10 d.digits d.exponent) (Rounding.scaleUp 10 1 (-d.exponent))

end Precision

/-- A floating-point number is its bits: the sign, then the exponent, then the fraction. -/
structure Floating where
  precision : Precision
  bits : BitVec precision.width
  deriving DecidableEq, Repr

namespace Floating

def ofParts (p : Precision) (negative : Bool) (magnitude : Nat) : Floating :=
  ⟨p, BitVec.ofNat _ (if negative then p.magnitudes + magnitude else magnitude)⟩

def isNegative (x : Floating) : Bool :=
  x.precision.magnitudes ≤ x.bits.toNat

def magnitude (x : Floating) : Nat :=
  x.bits.toNat % x.precision.magnitudes

def isNaN (x : Floating) : Bool :=
  x.precision.infinity < x.magnitude

def isInfinite (x : Floating) : Bool :=
  x.magnitude = x.precision.infinity

/-- The significand and the exponent of two of a finite number, its sign apart. -/
def parts (x : Floating) : Nat × Int :=
  let exponent := x.magnitude / x.precision.fractions
  let fraction := x.magnitude % x.precision.fractions
  if exponent = 0 then (fraction, x.precision.leastExponent)
  else (x.precision.fractions + fraction, x.precision.leastExponent + (exponent - 1))

/-- The same number in double precision, where every number of single precision has a place. Not a
number stays so, with its fraction moved to the front and made quiet. -/
def toDouble (x : Floating) : Floating :=
  match x.precision with
  | .double => x
  | .single =>
    let magnitude :=
      if x.isNaN then
        Precision.double.infinity + Nat.pow 2 51 + x.magnitude % Nat.pow 2 22 * Nat.pow 2 29
      else if x.isInfinite then Precision.double.infinity
      else
        let (m, q) := x.parts
        Precision.double.nearest (Rounding.scaleUp 2 m q) (Rounding.scaleUp 2 1 (-q))
    ofParts .double x.isNegative magnitude

/-- The number's place among the numbers of its precision; the two zeros share theirs. -/
def place (x : Floating) : Int :=
  if x.isNegative then -(x.magnitude : Int) else x.magnitude

def compare? (x y : Floating) : Option Ordering :=
  let (x, y) := if x.precision = y.precision then (x, y) else (x.toDouble, y.toDouble)
  if x.isNaN || y.isNaN then none else some (compare x.place y.place)

/-- The number's place among all bit patterns of its precision: the negative ones first, from the
largest magnitude down, then the positive ones. -/
def rank (x : Floating) : Int :=
  if x.isNegative then -(x.magnitude : Int) - 1 else x.magnitude

def totalCompare (x y : Floating) : Ordering :=
  compare x.toDouble.rank y.toDouble.rank

/-- Equality of numbers of one precision: nothing equals what is not a number, and the two zeros
are equal. -/
def equals (x y : Floating) : Bool :=
  x.precision = y.precision && x.compare? y = some .eq

def read? (p : Precision) (literal : String) : Option Floating :=
  (Decimal.read? literal).map fun (negative, magnitude) =>
    ofParts p negative <| match magnitude with
      | .finite d => p.nearestDecimal d
      | .infinite => p.infinity
      | .undefined => p.infinity + Nat.pow 2 (p.fraction - 1)

end Floating

end RecordQuery
