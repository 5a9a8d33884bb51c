import RecordQuery.Condition
import RecordQuery.Number.Decoding
import RecordQuery.Record
import RecordQuery.Text.LowerCase

namespace RecordQuery

namespace Comparison

def testText (c : Comparison) (s : String) : Bool :=
  match c.operator with
  | .contains => Text.containsIgnoringCase s c.literal.content
  | .lacks => !Text.containsIgnoringCase s c.literal.content
  | op => op.accepts (compare s c.literal.content)

def readLiteral {α : Type} (c : Comparison) (type : ValueType) (value : Option α) :
    Except Error α :=
  match value with
  | some a => .ok a
  | none => .error (.invalidLiteral c.attr.name c.literal.content type)

def testInteger (c : Comparison) (n : Integer) : Except Error Bool := do
  let m ← c.readLiteral (.integer n.width)
    ((Numeral.decode c.literal.content).filter fun m => n.width.Fits m)
  return c.operator.accepts (compare n.value m)

def testFloat (c : Comparison) (x : Floating) : Except Error Bool := do
  let y ← c.readLiteral (.float x.precision) (Floating.read? x.precision c.literal.content)
  return c.operator.acceptsPartial (x.compare? y)

/-- Whether a value satisfies the comparison. Containment is for texts alone, and a truth value can
only be equal or not. -/
def test (c : Comparison) (target : String) (v : Value) : Except Error Bool :=
  let unsupported :=
    .error (.unsupportedType c.attr.name ⟨v.type, target⟩ (some c.operator))
  match v with
  | .text s => .ok (c.testText s)
  | .integer n => if c.operator.isOrdering then c.testInteger n else unsupported
  | .float x => if c.operator.isOrdering then c.testFloat x else unsupported
  | .bool b =>
    if c.operator = .equal then .ok (Value.boolText b == c.literal.content) else unsupported
  | .timestamp _ | .foreign _ => unsupported

def holdsOn (c : Comparison) (t : Record) : Inquiry Attribute Error Bool :=
  (t.resolve c.attr).andThen fun v => .ofExcept (c.test t.name v)

end Comparison

namespace Condition

def holdsOn (f : Condition) (t : Record) : Inquiry Attribute Error Bool :=
  f.evaluate (·.holdsOn t)

/-- What is wrong with one reference whatever the record holds. -/
def problem? (d : Description) (a : Attribute) : Option Error :=
  match d.get? a with
  | none => some (.unknownIdentifier a d.name)
  | some type =>
    if type.supportsConditions then none else some (.unsupportedType a.name ⟨type, d.name⟩ none)

def validate (f : Condition) (d : Description) : List Error :=
  f.references.filterMap (problem? d)

end Condition

end RecordQuery
