import RecordQuery.Proofs.Condition.Failures
import RecordQuery.Proofs.Condition.Rendering
import RecordQuery.Proofs.Number.Integer
import RecordQuery.Proofs.Order.Comparison
import RecordQuery.Proofs.Order.Rendering

namespace RecordQuery

open Lexeme

variable {calls : Bool} {name content : String} {v w : Value} {x y : Record} {a : Attribute}
  {op : Operator} {o : Ordering}

/-- Two integers of one width, or two texts, with the second one written as the content of a literal:
an integer in decimal digits, with a sign if it is negative, and a text as it stands. -/
inductive Value.Commensurable : Value → Value → String → Prop where
  | integers {m n : Integer} (h : m.width = n.width) :
      Commensurable (.integer m) (.integer n) (toString n.value)
  | texts (s t : String) : Commensurable (.text s) (.text t) t

namespace Comparison

theorem test_integer {m n : Integer} (h : m.width = n.width) (hop : op.isOrdering = true)
    (target : String) :
    (⟨a, op, .text (toString n.value)⟩ : Comparison).test target (.integer m) =
      .ok (op.accepts (compare m.value n.value)) := by
  have hfits : m.width.Fits n.value := h ▸ n.fits
  have hread : (Numeral.integer? (toString n.value)).filter (fun k => m.width.Fits k) =
      some n.value := by
    rw [Numeral.integer?_toString]
    exact if_pos (decide_eq_true hfits)
  rw [test, if_pos hop]
  exact testInteger_of_some hread

theorem test_text (hop : op.isOrdering = true) (s t target : String) :
    (⟨a, op, .text t⟩ : Comparison).test target (.text s) = .ok (op.accepts (compare s t)) := by
  cases op with
  | contains | lacks => cases hop
  | _ => rfl

/-- Testing a value against the literal of another agrees with the order of the two. -/
theorem test_commensurable (h : v.Commensurable w content) (hop : op.isOrdering = true)
    (target : String) :
    ∃ o, v.order? w = some o ∧
      (⟨a, op, .text content⟩ : Comparison).test target v = .ok (op.accepts o) := by
  cases h with
  | @integers m n h => exact ⟨compare m.value n.value, rfl, test_integer h hop target⟩
  | texts s => exact ⟨compare s content, rfl, test_text hop s content target⟩

end Comparison

theorem Condition.parse_leaf {c : Comparison} (h : Writable calls c.attr) :
    parse c.text calls = .ok (.leaf c.asQuoted) :=
  parse_eq_ok.2 (.of_comparison (comparisonForm_text h))

namespace OrderBy

theorem parse_single (h : Writable calls a) :
    parse ("order by " ++ a.text) calls = .ok ⟨[⟨a, .asc⟩]⟩ := by
  have hread : parse (OrderBy.text ⟨[⟨a, .asc⟩]⟩) calls = .ok ⟨[⟨a, .asc⟩]⟩ :=
    parse_text_iff.2 ⟨List.cons_ne_nil _ _, List.forall_mem_singleton.2 h⟩
  rwa [OrderBy.text, List.map_singleton, String.intercalate_singleton] at hread

theorem compare_single (hx : x.get? a = some v) (hy : y.get? a = some w)
    (ho : v.order? w = some o) :
    (compare ⟨[⟨a, .asc⟩]⟩ x y).outcome = .ok o := by
  have hkey : ((⟨a, .asc⟩ : SortKey).compare x y).outcome = .ok o :=
    SortKey.compare_eq_ok.2 ⟨v, w, hx, hy, ho⟩
  apply compareBy_cons_eq_ok.2
  by_cases he : o = .eq
  · subst he
    exact .inr ⟨hkey, rfl⟩
  · exact .inl ⟨hkey, he⟩

/-- The field `name` of two records holds integers of one width, or texts. Then the condition that
compares it with the value of the second record is read, and comes out on the first record as the
operator takes their order by that field. -/
theorem holdsOn_agrees_with_compare (name : String) (hn : IsIdentifier name) (x y : Record)
    (v w : Value) (content : String) (hx : x.field name = some v) (hy : y.field name = some w)
    (hvw : v.Commensurable w content) (op : Operator) (hop : op.isOrdering = true)
    (calls calls' : Bool) :
    ∃ f order o,
      Condition.parse (name ++ op.symbol ++ (Literal.text content).quoted) calls = .ok f ∧
        OrderBy.parse ("order by " ++ name) calls' = .ok order ∧
        (order.compare x y).outcome = .ok o ∧
        (f.holdsOn x).outcome = .ok (op.accepts o) := by
  obtain ⟨o, ho, htest⟩ := Comparison.test_commensurable (a := ⟨name, .field⟩) hvw hop x.name
  have hread : Condition.parse (name ++ op.symbol ++ (Literal.text content).quoted) calls =
      .ok (.leaf ⟨⟨name, .field⟩, op, .text content⟩) :=
    Condition.parse_leaf (c := ⟨⟨name, .field⟩, op, .text content⟩) ⟨hn, nofun⟩
  have horder : OrderBy.parse ("order by " ++ name) calls' = .ok ⟨[⟨⟨name, .field⟩, .asc⟩]⟩ :=
    parse_single (a := ⟨name, .field⟩) ⟨hn, nofun⟩
  refine ⟨_, _, o, hread, horder, compare_single hx hy ho, ?_⟩
  exact Inquiry.andThen_eq_ok.2 ⟨v, Record.resolve_eq_ok.2 hx, htest⟩

def balanced (n : Integer) : Record :=
  ⟨"row", fun name => if name = "balance" then some (.integer n) else none, fun _ => none⟩

theorem holdsOn_agrees_with_compare_balanced :
    ∃ f order o, Condition.parse "balance>='-9223372036854775808'" false = .ok f ∧
      OrderBy.parse "order by balance" true = .ok order ∧
      (order.compare (balanced ⟨.i64, -7, by decide⟩)
        (balanced ⟨.i64, -9223372036854775808, by decide⟩)).outcome = .ok o ∧
      (f.holdsOn (balanced ⟨.i64, -7, by decide⟩)).outcome =
        .ok (Operator.greaterOrEqual.accepts o) := by
  have hname : IsIdentifier "balance" := ⟨'b', ['a', 'l', 'a', 'n', 'c', 'e'], rfl, rfl, rfl⟩
  have htext : "balance>='-9223372036854775808'" = "balance" ++ Operator.greaterOrEqual.symbol ++
      (Literal.text (toString (-9223372036854775808 : Int))).quoted := by decide +kernel
  rw [htext]
  exact holdsOn_agrees_with_compare "balance" hname (balanced ⟨.i64, -7, by decide⟩)
    (balanced ⟨.i64, -9223372036854775808, by decide⟩) _ _ _ rfl rfl (.integers rfl)
    .greaterOrEqual rfl false true

end OrderBy

end RecordQuery
