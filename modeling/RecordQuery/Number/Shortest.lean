import RecordQuery.Number.Floating

namespace RecordQuery

/-- The real numbers that round to one floating-point number: `low / den` up to `high / den`, around
`exact / den`, with or without the two ends. -/
structure RoundingInterval where
  low : Nat
  exact : Nat
  high : Nat
  den : Nat
  closed : Bool

namespace RoundingInterval

/-- The interval of the number `m * 2 ^ q`, not zero. Its ends lie halfway to the neighbouring
numbers, and belong to it if `m` is even; below a power of two the neighbour is twice as near. -/
def around (p : Precision) (m : Nat) (q : Int) : RoundingInterval :=
  let unit := Rounding.scaleUp 2 1 (q - 2)
  let lower := if m = p.fractions ∧ p.leastExponent < q then 4 * m - 1 else 4 * m - 2
  { low := lower * unit, exact := 4 * m * unit, high := (4 * m + 2) * unit
    den := Rounding.scaleUp 2 1 (2 - q), closed := m % 2 = 0 }

def onGrid (i : RoundingInterval) (k : Int) : Option Decimal :=
  let scale := Rounding.scaleUp 10 1 (-k)
  let unit := Rounding.scaleUp 10 i.den k
  let exact := i.exact * scale
  let c := exact / unit
  let below := if i.closed then i.low * scale ≤ c * unit else i.low * scale < c * unit
  let above :=
    if i.closed then (c + 1) * unit ≤ i.high * scale else (c + 1) * unit < i.high * scale
  if below ∧ (¬ above ∨ exact - c * unit < (c + 1) * unit - exact) then some ⟨c, k⟩
  else if above then some ⟨c + 1, k⟩
  else none

/-- The first multiple in the interval, from the coarsest grid down. The finest one, on which
every number of either precision lies exactly, ends the search. -/
def shortest (i : RoundingInterval) : Decimal :=
  ((List.range 1400).findSome? fun (n : Nat) => i.onGrid (310 - n)).getD ⟨0, 0⟩

end RoundingInterval

def Floating.text (x : Floating) : String :=
  if x.isNaN then "NaN"
  else
    let sign := if x.isNegative then "-" else ""
    if x.isInfinite then sign ++ "inf"
    else
      let (m, q) := x.parts
      if m = 0 then sign ++ "0"
      else sign ++ (RoundingInterval.around x.precision m q).shortest.positional

end RecordQuery
