import RecordQuery.Attribute
import RecordQuery.Operator
import RecordQuery.Value

namespace RecordQuery

inductive Clause where
  | condition
  | order
  deriving DecidableEq, Repr

def Clause.name : Clause → String
  | condition => "condition"
  | order => "order-by clause"

/-- A text that does not follow its grammar, with the number of bytes before the place where
reading stopped. -/
structure ParseError where
  clause : Clause
  input : String
  offset : Nat
  deriving DecidableEq, Repr

def ParseError.message (e : ParseError) : String :=
  "failed to parse " ++ e.clause.name ++ " " ++ Text.escaped e.input ++
    " (stopped at byte " ++ toString e.offset ++ ")"

structure Origin where
  type : ValueType
  target : String
  deriving DecidableEq, Repr

def Origin.text (o : Origin) : String :=
  o.type.name ++ " on " ++ o.target

inductive Error where
  | unknownIdentifier (sought : Attribute) (target : String)
  | unsupportedType (identifier : String) (origin : Origin) (operator : Option Operator)
  | incompatibleTypes (identifier : String) (first second : Origin)
  | invalidLiteral (identifier literal : String) (type : ValueType)
  | exhausted
  deriving DecidableEq, Repr

def Error.message : Error → String
  | unknownIdentifier sought target =>
    "identifier '" ++ sought.name ++ "' has no matching " ++ sought.lookup.name ++ " on " ++ target
  | unsupportedType identifier origin (some op) =>
    "operator '" ++ op.symbol ++ "' is not supported for identifier '" ++ identifier ++
      "' of type " ++ origin.text
  | unsupportedType identifier origin none =>
    "identifier '" ++ identifier ++ "' has unsupported type " ++ origin.text
  | incompatibleTypes identifier first second =>
    "identifier '" ++ identifier ++ "' resolves to incompatible types: " ++ first.text ++ ", " ++
      second.text
  | invalidLiteral identifier literal type =>
    "literal '" ++ literal ++ "' for identifier '" ++ identifier ++ "' is not a valid " ++ type.name
  | exhausted => "no more elements"

end RecordQuery
