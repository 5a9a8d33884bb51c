namespace RecordQuery

inductive Operator where
  | less
  | lessOrEqual
  | greater
  | greaterOrEqual
  | equal
  | contains
  | lacks
  deriving DecidableEq, Repr

namespace Operator

/-- In the order in which a reader tries them: an operator comes before those it begins with. -/
def all : List Operator :=
  [lessOrEqual, greaterOrEqual, contains, lacks, less, greater, equal]

def symbol : Operator → String
  | less => "<"
  | lessOrEqual => "<="
  | greater => ">"
  | greaterOrEqual => ">="
  | equal => "="
  | contains => "=~"
  | lacks => "!~"

def isContainment : Operator → Bool
  | contains | lacks => true
  | _ => false

def isOrdering (op : Operator) : Bool :=
  !op.isContainment

def accepts : Operator → Ordering → Bool
  | less, o => o == .lt
  | lessOrEqual, o => o != .gt
  | greater, o => o == .gt
  | greaterOrEqual, o => o != .lt
  | equal, o => o == .eq
  | contains, _ | lacks, _ => false

def acceptsPartial (op : Operator) : Option Ordering → Bool
  | some o => op.accepts o
  | none => false

end Operator

end RecordQuery
