import RecordQuery.Condition.Matching
import RecordQuery.Proofs.Formula.Evaluation

namespace RecordQuery

variable {c : Comparison} {t : Record} {v : Value} {e : Error} {target : String}

/-- Texts take every operator, numbers those of order and truth values equality alone. -/
def ValueType.takes : ValueType → Operator → Bool
  | text, _ => true
  | integer _, op | float _, op => op.isOrdering
  | bool, op => op = .equal
  | timestamp, _ | foreign _, _ => false

namespace ValueType

variable {type : ValueType} {op : Operator}

theorem takes_eq_false (h : type.supportsConditions = false) (op : Operator) :
    type.takes op = false := by
  cases type with
  | timestamp | foreign => rfl
  | _ => cases h

theorem refused_of_supportsConditions (hs : type.supportsConditions = true)
    (h : type.takes op = false) :
    (op = .contains ∨ op = .lacks) ∧ type ≠ .text ∨ type = .bool ∧ op ≠ .equal := by
  cases type with
  | text => cases h
  | bool => exact .inr ⟨rfl, of_decide_eq_false h⟩
  | integer | float =>
    refine .inl ⟨?_, nofun⟩
    cases op with
    | contains => exact .inl rfl
    | lacks => exact .inr rfl
    | _ => cases h
  | timestamp | foreign => cases hs

end ValueType

namespace Comparison

section Tests

theorem testInteger_of_some {n : Integer} {m : Int}
    (h : (Numeral.integer? c.literal.content).filter (fun m => n.width.Fits m) = some m) :
    c.testInteger n = .ok (c.operator.accepts (compare n.value m)) := by
  rw [testInteger, Numeral.filter_decode, h]
  rfl

theorem testInteger_of_none {n : Integer}
    (h : (Numeral.integer? c.literal.content).filter (fun m => n.width.Fits m) = none) :
    c.testInteger n = .error (.invalidLiteral c.attr.name c.literal.content (.integer n.width)) := by
  rw [testInteger, Numeral.filter_decode, h]
  rfl

theorem testFloat_of_some {x y : Floating}
    (h : Floating.read? x.precision c.literal.content = some y) :
    c.testFloat x = .ok (c.operator.acceptsPartial (x.compare? y)) := by
  rw [testFloat, h]
  rfl

theorem testFloat_of_none {x : Floating}
    (h : Floating.read? x.precision c.literal.content = none) :
    c.testFloat x =
      .error (.invalidLiteral c.attr.name c.literal.content (.float x.precision)) := by
  rw [testFloat, h]
  rfl

theorem testInteger_eq_error {n : Integer} (h : c.testInteger n = .error e) :
    e = .invalidLiteral c.attr.name c.literal.content (.integer n.width) := by
  cases hm : (Numeral.integer? c.literal.content).filter fun m => n.width.Fits m with
  | some m => exact nomatch (testInteger_of_some hm).symm.trans h
  | none =>
    rw [testInteger_of_none hm] at h
    cases h
    rfl

theorem testFloat_eq_error {x : Floating} (h : c.testFloat x = .error e) :
    e = .invalidLiteral c.attr.name c.literal.content (.float x.precision) := by
  cases hy : Floating.read? x.precision c.literal.content with
  | some y => exact nomatch (testFloat_of_some hy).symm.trans h
  | none =>
    rw [testFloat_of_none hy] at h
    cases h
    rfl

/-- An operator that the type does not take is told, whatever the literal. -/
theorem test_of_not_takes (h : v.type.takes c.operator = false) :
    c.test target v = .error (.unsupportedType c.attr.name ⟨v.type, target⟩ (some c.operator)) := by
  cases v with
  | text s => cases h
  | integer n => exact if_neg (Bool.eq_false_iff.1 h)
  | float x => exact if_neg (Bool.eq_false_iff.1 h)
  | bool b => exact if_neg (of_decide_eq_false h)
  | timestamp | foreign => rfl

theorem test_of_takes (h : v.type.takes c.operator = true) (he : c.test target v = .error e) :
    e = .invalidLiteral c.attr.name c.literal.content v.type := by
  cases v with
  | text s => cases he
  | integer n =>
    have ho : c.operator.isOrdering = true := h
    rw [test, if_pos ho] at he
    exact testInteger_eq_error he
  | float x =>
    have ho : c.operator.isOrdering = true := h
    rw [test, if_pos ho] at he
    exact testFloat_eq_error he
  | bool b =>
    rw [test, if_pos (of_decide_eq_true h)] at he
    cases he
  | timestamp | foreign => cases h

theorem test_eq_error (h : c.test target v = .error e) :
    e = .invalidLiteral c.attr.name c.literal.content v.type ∨
      v.type.takes c.operator = false ∧
        e = .unsupportedType c.attr.name ⟨v.type, target⟩ (some c.operator) := by
  cases ht : v.type.takes c.operator with
  | true => exact .inl (test_of_takes ht h)
  | false =>
    rw [test_of_not_takes ht] at h
    cases h
    exact .inr ⟨rfl, rfl⟩

theorem exists_test_eq_ok (a : Attribute) (target : String)
    (h : v.type.supportsConditions = true) :
    ∃ b, (⟨a, .equal, .text "0"⟩ : Comparison).test target v = .ok b := by
  cases v with
  | text | bool => exact ⟨_, rfl⟩
  | integer n =>
    have hfits : n.width.Fits 0 := by cases n.width <;> decide
    have hread : Numeral.integer? "0" = some 0 := rfl
    have hzero : (Numeral.integer? "0").filter (fun m => n.width.Fits m) = some 0 := by
      rw [hread]
      exact if_pos (decide_eq_true hfits)
    exact ⟨_, testInteger_of_some hzero⟩
  | float x =>
    have hread : Decimal.read? "0" = some (false, .finite ⟨0, 0⟩) := rfl
    have hzero : ∃ y, Floating.read? x.precision "0" = some y := by
      rw [Floating.read?, hread]
      exact ⟨_, rfl⟩
    obtain ⟨y, hy⟩ := hzero
    exact ⟨_, testFloat_of_some hy⟩
  | timestamp | foreign => cases h

end Tests

/-- A comparison fails if the record lacks its attribute, and otherwise as the test of the value
does. -/
theorem holdsOn_eq_error :
    (c.holdsOn t).outcome = .error e ↔
      t.get? c.attr = none ∧ e = .unknownIdentifier c.attr t.name ∨
        ∃ v, t.get? c.attr = some v ∧ c.test t.name v = .error e := by
  rw [holdsOn, Inquiry.andThen_eq_error, Record.resolve_eq_error]
  simp only [Record.resolve_eq_ok]
  rfl

theorem failure_cases (h : (c.holdsOn t).outcome = .error e) :
    t.get? c.attr = none ∧ e = .unknownIdentifier c.attr t.name ∨
      ∃ v, t.get? c.attr = some v ∧
        (e = .invalidLiteral c.attr.name c.literal.content v.type ∨
          v.type.takes c.operator = false ∧
            e = .unsupportedType c.attr.name ⟨v.type, t.name⟩ (some c.operator)) := by
  rcases holdsOn_eq_error.1 h with hn | ⟨v, hv, htest⟩
  · exact .inl hn
  · exact .inr ⟨v, hv, test_eq_error htest⟩

end Comparison

namespace Condition

variable {f : Condition}

theorem holdsOn_eq_error (h : (f.holdsOn t).outcome = .error e) :
    ∃ c ∈ f.leaves, (c.holdsOn t).outcome = .error e :=
  Formula.evaluate_eq_error h

theorem holdsOn_ne_exhausted (f : Condition) (t : Record) :
    (f.holdsOn t).outcome ≠ .error .exhausted := by
  intro h
  obtain ⟨c, -, hc⟩ := holdsOn_eq_error h
  rcases Comparison.failure_cases hc with ⟨-, he⟩ | ⟨v, -, he | ⟨-, he⟩⟩
  · cases he
  · cases he
  · cases he

end Condition

end RecordQuery
