namespace RecordQuery.Rounding

/-- The integer nearest to `num / den`; halfway between two it is the even one. -/
def nearestEven (num den : Nat) : Nat :=
  let quotient := num / den
  let twice := 2 * (num % den)
  if twice < den then quotient
  else if den < twice then quotient + 1
  else quotient + quotient % 2

/-- `n` times `base ^ exponent` when the exponent is positive, and `n` itself otherwise. -/
def scaleUp (base n : Nat) (exponent : Int) : Nat :=
  n * Nat.pow base exponent.toNat

/-- The exponent of the largest power of two that is not above `num / den`, for `num` and `den`
that are not zero. -/
def floorLog2 (num den : Nat) : Int :=
  let guess := (num.log2 : Int) - den.log2
  if scaleUp 2 num (-guess) < scaleUp 2 den guess then guess - 1 else guess

end RecordQuery.Rounding
