import RecordQuery.Attribute
import RecordQuery.Reader
import RecordQuery.Text.Ranges

namespace RecordQuery.Lexeme

/-- The letters beyond ASCII that an identifier may hold. -/
def letterRanges : Text.Ranges := [
  (0xC0, 0xD6), (0xD8, 0xF6), (0xF8, 0x2FF), (0x370, 0x37D), (0x37F, 0x1FFF), (0x200C, 0x200D),
  (0x2070, 0x218F), (0x2C00, 0x2FEF), (0x3001, 0xD7FF), (0xF900, 0xFDCF), (0xFDF0, 0xFFFD)]

def startsIdentifier (c : Char) : Bool :=
  c == '_' || c.isAlpha || letterRanges.contains c

def continuesIdentifier (c : Char) : Bool :=
  startsIdentifier c || c.isDigit

def IsIdentifier (name : String) : Prop :=
  ∃ c cs, name.toList = c :: cs ∧ startsIdentifier c ∧ cs.all continuesIdentifier

def identifier : Reader String := do
  let c ← Reader.satisfying startsIdentifier
  let cs ← Reader.taking fun cs => (cs.takeWhile continuesIdentifier, cs.dropWhile continuesIdentifier)
  return String.ofList (c :: cs)

def field : Reader Attribute := do
  let name ← identifier
  return ⟨name, .field⟩

def accessorCall : Reader Attribute := do
  let name ← identifier
  Reader.spaces
  Reader.exactly "("
  Reader.spaces
  Reader.exactly ")"
  return ⟨name, .accessor⟩

def attr (calls : Bool) : Reader Attribute :=
  if calls then accessorCall.orElse field else field

end RecordQuery.Lexeme
