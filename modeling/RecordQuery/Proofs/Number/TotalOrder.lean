import RecordQuery.Number.Floating

namespace RecordQuery

namespace Precision

theorem infinity_lt_magnitudes (p : Precision) : p.infinity < p.magnitudes := by
  cases p <;> decide

theorem two_pow_width (p : Precision) : Nat.pow 2 p.width = 2 * p.magnitudes := by
  cases p <;> decide

theorem nearest_le_infinity (p : Precision) (num den : Nat) : p.nearest num den ≤ p.infinity := by
  rw [nearest]
  split
  · exact Nat.zero_le _
  · exact Nat.min_le_right _ _

end Precision

namespace Floating

variable {x y : Floating} {p : Precision} {negative : Bool} {m : Nat}

section Parts

theorem toNat_ofParts (h : m < p.magnitudes) :
    (ofParts p negative m).bits.toNat = if negative then p.magnitudes + m else m := by
  have hwidth := p.two_pow_width
  have hbits : (if negative then p.magnitudes + m else m) < Nat.pow 2 p.width := by
    split <;> omega
  exact (BitVec.toNat_ofNat _ _).trans (Nat.mod_eq_of_lt hbits)

theorem isNegative_ofParts (h : m < p.magnitudes) : (ofParts p negative m).isNegative = negative := by
  rw [isNegative, toNat_ofParts h]
  cases negative with
  | false => exact decide_eq_false (Nat.not_le.2 h)
  | true => exact decide_eq_true (Nat.le_add_right _ _)

theorem magnitude_ofParts (h : m < p.magnitudes) : (ofParts p negative m).magnitude = m := by
  rw [magnitude, toNat_ofParts h]
  cases negative with
  | false => exact Nat.mod_eq_of_lt h
  | true => exact (Nat.add_mod_left _ _).trans (Nat.mod_eq_of_lt h)

end Parts

section Widening

/-- The bits below the sign of a number of single precision, once it has double precision. -/
def widened (x : Floating) : Nat :=
  if x.isNaN then
    Precision.double.infinity + Nat.pow 2 51 + x.magnitude % Nat.pow 2 22 * Nat.pow 2 29
  else if x.isInfinite then Precision.double.infinity
  else Precision.double.nearest (Rounding.scaleUp 2 x.parts.1 x.parts.2)
    (Rounding.scaleUp 2 1 (-x.parts.2))

theorem toDouble_single (bits : BitVec Precision.single.width) :
    toDouble ⟨.single, bits⟩ =
      ofParts .double (isNegative ⟨.single, bits⟩) (widened ⟨.single, bits⟩) :=
  rfl

theorem widened_lt (x : Floating) : x.widened < Precision.double.magnitudes := by
  have hbound := Precision.double.infinity_lt_magnitudes
  rw [widened]
  split
  · have hlow : x.magnitude % Nat.pow 2 22 < Nat.pow 2 22 := Nat.mod_lt _ (Nat.two_pow_pos 22)
    have hroom : Precision.double.infinity + Nat.pow 2 51 + Nat.pow 2 22 * Nat.pow 2 29 =
        Precision.double.magnitudes := by decide
    have hscaled : x.magnitude % Nat.pow 2 22 * Nat.pow 2 29 < Nat.pow 2 22 * Nat.pow 2 29 :=
      Nat.mul_lt_mul_of_pos_right hlow (Nat.two_pow_pos 29)
    omega
  · split
    · exact hbound
    · exact Nat.lt_of_le_of_lt (Precision.nearest_le_infinity _ _ _) hbound

theorem isNaN_iff_lt_widened : x.isNaN = true ↔ Precision.double.infinity < x.widened := by
  rw [widened]
  split
  · next h =>
    have hquiet := Nat.two_pow_pos 51
    refine iff_of_true h ?_
    rw [Nat.add_assoc]
    exact Nat.lt_add_of_pos_right (Nat.add_pos_left hquiet _)
  · next h =>
    refine iff_of_false h (Nat.not_lt.2 ?_)
    split
    · exact Nat.le_refl _
    · exact Precision.nearest_le_infinity _ _ _

theorem isNegative_toDouble (x : Floating) : x.toDouble.isNegative = x.isNegative := by
  obtain ⟨p, bits⟩ := x
  cases p with
  | double => rfl
  | single => exact isNegative_ofParts (widened_lt _)

/-- In double precision just what is not a number lies above the infinity. -/
theorem isNaN_iff_lt_magnitude_toDouble :
    x.isNaN = true ↔ Precision.double.infinity < x.toDouble.magnitude := by
  obtain ⟨p, bits⟩ := x
  cases p with
  | double => exact decide_eq_true_iff
  | single => rw [isNaN_iff_lt_widened, toDouble_single, magnitude_ofParts (widened_lt _)]

end Widening

section TotalOrder

theorem rank_toDouble (x : Floating) :
    x.toDouble.rank =
      if x.isNegative then -(x.toDouble.magnitude : Int) - 1 else x.toDouble.magnitude := by
  rw [rank, isNegative_toDouble]

theorem totalCompare_swap (x y : Floating) : y.totalCompare x = (x.totalCompare y).swap :=
  Std.OrientedOrd.eq_swap

theorem totalCompare_of_isNaN (hx : x.isNaN = true) (hy : y.isNaN = false) :
    x.totalCompare y = if x.isNegative then .lt else .gt := by
  have hbeyond := isNaN_iff_lt_magnitude_toDouble.1 hx
  have hwithin := mt isNaN_iff_lt_magnitude_toDouble.2 (Bool.eq_false_iff.1 hy)
  rw [totalCompare, rank_toDouble, rank_toDouble]
  cases x.isNegative with
  | true =>
    rw [if_pos rfl, if_pos rfl, Std.compare_eq_lt]
    split <;> omega
  | false =>
    rw [if_neg Bool.false_ne_true, if_neg Bool.false_ne_true, Std.compare_eq_gt]
    split <;> omega

/-- What is not a number stands behind every number of either precision, the infinities among them,
if and only if its sign is clear. With its sign set it stands in front of every number. -/
theorem totalCompare_isNaN_iff (x y : Floating) (hx : x.isNaN = true) (hy : y.isNaN = false) :
    (x.totalCompare y = .gt ∧ y.totalCompare x = .lt ↔ x.isNegative = false) ∧
      (x.totalCompare y = .lt ∧ y.totalCompare x = .gt ↔ x.isNegative = true) := by
  rw [totalCompare_swap x y, totalCompare_of_isNaN hx hy]
  cases x.isNegative with
  | true => simp
  | false => simp

def nan (p : Precision) (negative : Bool) : Floating :=
  ofParts p negative (p.infinity + Nat.pow 2 (p.fraction - 1))

def infinite (p : Precision) (negative : Bool) : Floating :=
  ofParts p negative p.infinity

theorem totalCompare_isNaN_iff_infinite :
    (nan .single false).isNaN = true ∧ (infinite .double false).isNaN = false ∧
      (nan .single false).totalCompare (infinite .double false) = .gt ∧
      (infinite .double false).totalCompare (nan .single false) = .lt := by
  have hx : (nan .single false).isNaN = true := by decide
  have hy : (infinite .double false).isNaN = false := by decide
  exact ⟨hx, hy, (totalCompare_isNaN_iff _ _ hx hy).1.2 (by decide)⟩

/-- With its sign set it stands in front even of the negative infinity. -/
theorem totalCompare_nan_negative :
    (nan .double true).isNaN = true ∧ (infinite .single true).isNaN = false ∧
      ¬((nan .double true).totalCompare (infinite .single true) = .gt ∧
        (infinite .single true).totalCompare (nan .double true) = .lt) := by
  decide

end TotalOrder

end Floating

end RecordQuery
