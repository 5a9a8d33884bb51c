import RecordQuery.Proofs.Condition.Failures
import RecordQuery.Proofs.Number.Form

namespace RecordQuery

namespace Operator

/-- What the operators of order say of two integers. -/
def Relates : Operator → Int → Int → Prop
  | less, m, n => m < n
  | lessOrEqual, m, n => m ≤ n
  | greater, m, n => m > n
  | greaterOrEqual, m, n => m ≥ n
  | equal, m, n => m = n
  | contains, _, _ | lacks, _, _ => False

instance (op : Operator) (m n : Int) : Decidable (op.Relates m n) :=
  match op with
  | less => inferInstanceAs (Decidable (m < n))
  | lessOrEqual => inferInstanceAs (Decidable (m ≤ n))
  | greater => inferInstanceAs (Decidable (m > n))
  | greaterOrEqual => inferInstanceAs (Decidable (m ≥ n))
  | equal => inferInstanceAs (Decidable (m = n))
  | contains | lacks => inferInstanceAs (Decidable False)

theorem accepts_compare (op : Operator) (m n : Int) :
    op.accepts (compare m n) = decide (op.Relates m n) := by
  rw [Bool.eq_iff_iff, decide_eq_true_iff]
  cases op with
  | less => exact beq_iff_eq.trans Int.compare_eq_lt
  | lessOrEqual => exact bne_iff_ne.trans Int.compare_ne_gt
  | greater => exact beq_iff_eq.trans Int.compare_eq_gt
  | greaterOrEqual => exact bne_iff_ne.trans Int.compare_ne_lt
  | equal => exact beq_iff_eq.trans Int.compare_eq_eq
  | contains | lacks => exact ⟨nofun, nofun⟩

end Operator

namespace Comparison

open Numeral

/-- A literal that denotes an integer of the width is compared with the value as an integer, and any
other literal is told together with the attribute and the type. Whatever the literal, it is decoded
without a cut inside a character and without an overflow. -/
theorem test_integer_literal (c : Comparison) (n : Integer) (target : String)
    (hop : c.operator.isOrdering = true) :
    (∀ m, IntegerForm c.literal.content.toList m → n.width.Fits m →
      c.test target (.integer n) = .ok (decide (c.operator.Relates n.value m))) ∧
    ((¬∃ m, IntegerForm c.literal.content.toList m ∧ n.width.Fits m) →
      c.test target (.integer n) =
        .error (.invalidLiteral c.attr.name c.literal.content (.integer n.width))) ∧
    ∃ value, decoding c.literal.content.toList = .ok value := by
  have htest : c.test target (.integer n) = c.testInteger n := if_pos hop
  rw [htest]
  refine ⟨?denoted, ?refused, ⟨_, decoding_eq c.literal.content⟩⟩
  case denoted =>
    intro m hm hfits
    have hread : (integer? c.literal.content).filter (fun m => n.width.Fits m) = some m := by
      rw [integerForm_iff.1 hm]
      exact if_pos (decide_eq_true hfits)
    rw [testInteger_of_some hread, Operator.accepts_compare]
  case refused =>
    intro hnone
    apply testInteger_of_none
    rw [Option.filter_eq_none_iff]
    intro m hm hfits
    exact hnone ⟨m, integerForm_iff.2 hm, of_decide_eq_true hfits⟩

theorem test_integer_literal_size :
    Operator.greaterOrEqual.isOrdering = true ∧
    IntegerForm "-0x80".toList (-128) ∧ Width.i8.Fits (-128) ∧
    (⟨⟨"size", .field⟩, .greaterOrEqual, .text "-0x80"⟩ : Comparison).test "Box"
      (.integer ⟨.i8, 7, by decide⟩) = .ok true ∧
    (¬∃ m, IntegerForm "0200".toList m ∧ Width.i8.Fits m) ∧
    (⟨⟨"size", .field⟩, .greaterOrEqual, .text "0200"⟩ : Comparison).test "Box"
      (.integer ⟨.i8, 7, by decide⟩) = .error (.invalidLiteral "size" "0200" (.integer .i8)) := by
  have hform : IntegerForm "-0x80".toList (-128) := integerForm_iff.2 (by decide +kernel)
  have hfits : Width.i8.Fits (-128) := by decide
  have hnone : ¬∃ m, IntegerForm "0200".toList m ∧ Width.i8.Fits m := by
    rintro ⟨m, hm, hm'⟩
    have hread : integer? "0200" = some 128 := by decide +kernel
    cases hread.symm.trans (integerForm_iff.1 hm)
    exact absurd hm' (by decide)
  have hdenoted := (test_integer_literal ⟨⟨"size", .field⟩, .greaterOrEqual, .text "-0x80"⟩
    ⟨.i8, 7, by decide⟩ "Box" rfl).1
  have hrefused := (test_integer_literal ⟨⟨"size", .field⟩, .greaterOrEqual, .text "0200"⟩
    ⟨.i8, 7, by decide⟩ "Box" rfl).2.1
  exact ⟨rfl, hform, hfits, hdenoted (-128) hform hfits, hnone, hrefused hnone⟩

end Comparison

end RecordQuery
