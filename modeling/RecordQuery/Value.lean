import RecordQuery.Number.Integer
import RecordQuery.Number.Shortest
import RecordQuery.Text.Escaped

namespace RecordQuery

structure Timestamp where
  millis : Int
  deriving DecidableEq, Repr

namespace Timestamp

/-- None where the milliseconds leave the range of 64 bits: what becomes of the product there is not
settled. -/
def ofSeconds? (n : Int) : Option Timestamp :=
  if Width.i64.Fits (n * 1000) then some ⟨n * 1000⟩ else none

/-- Whole seconds, rounded towards zero. -/
def seconds (t : Timestamp) : Int :=
  t.millis.tdiv 1000

end Timestamp

/-- Of a value of a foreign type only the type's name is known. -/
inductive Value where
  | integer (n : Integer)
  | float (x : Floating)
  | bool (b : Bool)
  | text (s : String)
  | timestamp (t : Timestamp)
  | foreign (typeName : String)
  deriving DecidableEq, Repr

inductive ValueType where
  | integer (width : Width)
  | float (precision : Precision)
  | bool
  | text
  | timestamp
  | foreign (typeName : String)
  deriving DecidableEq, Repr

namespace ValueType

def name : ValueType → String
  | integer width => width.name
  | float precision => precision.name
  | bool => "bool"
  | text => "string"
  | timestamp => "timestamp"
  | foreign typeName => typeName

def supportsConditions : ValueType → Bool
  | timestamp | foreign _ => false
  | _ => true

def isOrderable : ValueType → Bool
  | foreign _ => false
  | _ => true

end ValueType

namespace Value

def type : Value → ValueType
  | integer n => .integer n.width
  | float x => .float x.precision
  | bool _ => .bool
  | text _ => .text
  | timestamp _ => .timestamp
  | foreign typeName => .foreign typeName

def integer? : Value → Option Integer
  | integer n => some n
  | _ => none

def float? : Value → Option Floating
  | float x => some x
  | _ => none

def bool? : Value → Option Bool
  | bool b => some b
  | _ => none

def text? : Value → Option String
  | text s => some s
  | _ => none

def timestamp? : Value → Option Timestamp
  | timestamp t => some t
  | _ => none

def boolText (b : Bool) : String :=
  if b then "true" else "false"

def display : Value → String
  | integer n => toString n.value
  | float x => x.text
  | bool b => boolText b
  | text s => Text.escaped s
  | timestamp t => toString t.millis ++ "ms"
  | foreign typeName => "<" ++ typeName ++ ">"

/-- Equality of values of one type: that of the numbers for floating-point numbers, and otherwise
that of the contents. -/
def equals : Value → Value → Bool
  | float x, float y => x.equals y
  | a, b => a = b

end Value

end RecordQuery
