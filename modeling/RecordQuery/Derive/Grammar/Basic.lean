import RecordQuery.Derive.Scan

namespace RecordQuery.Derive

/-- What the surroundings of a type depend on: whether it is a path, a path of a single segment, or a
single bound, perhaps in parentheses. -/
inductive TypeShape where
  | segment
  | path
  | bound (parenthesized : Bool)
  | other
  deriving DecidableEq, Repr

inductive BoundShape where
  | lifetime
  | capture
  | trait
  deriving DecidableEq, Repr

/-- What the surroundings of an expression depend on. A block ends a statement, and so does an
invocation with braces; a range is no operand, and a comparison none of another one. Attributes of a
phrase that is kept as it stands belong to it. -/
inductive ExpressionShape where
  | block
  | bracedCall
  | range
  | comparison
  | kept
  | other
  deriving DecidableEq, Repr

inductive PatternShape where
  | openRange
  | kept
  | other
  deriving DecidableEq, Repr

inductive Precedence where
  | lowest
  | assignment
  | range
  | disjunction
  | conjunction
  | binding
  | comparison
  | bitOr
  | bitXor
  | bitAnd
  | shift
  | sum
  | product
  | cast
  deriving DecidableEq, Repr

def Precedence.rank (p : Precedence) : Nat :=
  p.ctorIdx

-- The rules of the modules beside this one take the scans of smaller phrases from such a record.
-- They follow the full grammar of the same library, not the narrower one of legal declarations:
-- assumed of it is which tokens it accepts as a phrase of each kind, which optional parts it prints in
-- another order or not at all, and which forms, known to the grammar alone, it keeps as they stand.

/-- The scans of phrases. `plus` allows a type to be a sum of bounds, `structs` an expression to be a
structure with its fields in braces. -/
structure Grammar where
  type : (plus : Bool) → Scan TypeShape
  /-- A bound of a type; perhaps one that captures parameters, or one that is constant. -/
  bound : (capture constant : Bool) → Scan BoundShape
  expression : (structs : Bool) → Scan ExpressionShape
  operand : (structs : Bool) → Scan ExpressionShape
  /-- The operators, from `base` on, that follow an operand. -/
  operation : (structs : Bool) → (base : Precedence) → (left : ExpressionShape) → Scan ExpressionShape
  /-- An expression in the place of a statement, which a block at its beginning ends; and whether its
  first operand is kept as it stands, so that attributes before it are lost. -/
  standalone : Scan (ExpressionShape × Bool)
  pattern : Scan PatternShape
  statements : Scan Unit
  item : Scan Unit
  fields : Scan Unit
  /-- What an item brings into scope. With `root`, a path may begin with `::`; whether one does. -/
  imports : (root : Bool) → Scan Bool

def Grammar.empty : Grammar where
  type _ := failure
  bound _ _ := failure
  expression _ := failure
  operand _ := failure
  operation _ _ _ := failure
  standalone := failure
  pattern := failure
  statements := failure
  item := failure
  fields := failure
  imports _ := failure

end RecordQuery.Derive
