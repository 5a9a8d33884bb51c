import RecordQuery.Condition
import RecordQuery.Error
import RecordQuery.Lexeme

namespace RecordQuery.Condition

open Reader

def operator : Reader Operator := fun cs =>
  match Operator.all.find? (·.symbol.toList.isPrefixOf cs) with
  | some op => .ok (op, cs.drop op.symbol.toList.length)
  | none => .error cs

def digits : Reader (List Char) := do
  let c ← satisfying Char.isDigit
  let cs ← taking fun cs => (cs.takeWhile Char.isDigit, cs.dropWhile Char.isDigit)
  return c :: cs

def fraction : Reader (List Char) := do
  exactly "."
  let cs ← digits
  return '.' :: cs

def number : Reader Literal := do
  let whole ← digits
  let part ← optional fraction
  return .number (String.ofList (whole ++ part.getD []))

def quoted : Reader Literal := do
  let s ← Text.Quoted.reader
  return .text s

def comparison (calls : Bool) : Reader Condition := do
  let attr ← Lexeme.attr calls
  spaces
  let op ← operator
  spaces
  let literal ← quoted.orElse number
  return .leaf ⟨attr, op, literal⟩

def joined (word : String) (part : Reader Condition) : Reader Condition := do
  someSpaces
  keyword word
  someSpaces
  part

def conjunction (calls : Bool) : Reader Condition := do
  let first ← comparison calls
  let rest ← many (joined "and" (comparison calls))
  return Formula.group .all first rest

def operand (calls : Bool) : Reader Condition :=
  (parenthesized (conjunction calls)).orElse (conjunction calls)

def disjunction (calls : Bool) : Reader Condition := do
  let first ← operand calls
  let rest ← many (joined "or" (operand calls))
  return Formula.group .any first rest

/-- The failure that is told is that of the form without parentheses around the whole. -/
def reader (calls : Bool) : Reader Condition :=
  Reader.orElse (do let f ← parenthesized (disjunction calls); atEnd; return f)
    (do let f ← disjunction calls; atEnd; return f)

/-- The condition that a text denotes. Accessor calls are read only where they are allowed. -/
def parse (text : String) (calls : Bool) : Except ParseError Condition :=
  ((reader calls).run text).mapError fun offset => ⟨.condition, text, offset⟩

end RecordQuery.Condition
