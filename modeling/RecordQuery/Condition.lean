import RecordQuery.Attribute
import RecordQuery.Formula
import RecordQuery.Operator
import RecordQuery.Text.Quoted

namespace RecordQuery

/-- A literal is a text in quotes or a bare number; a number keeps the digits it was written with. -/
inductive Literal where
  | text (s : String)
  | number (s : String)
  deriving DecidableEq, Repr

namespace Literal

def content : Literal → String
  | text s => s
  | number s => s

def quoted (l : Literal) : String :=
  String.ofList (Text.Quoted.encode l.content.toList)

end Literal

structure Comparison where
  attr : Attribute
  operator : Operator
  literal : Literal
  deriving DecidableEq, Repr

def Comparison.text (c : Comparison) : String :=
  c.attr.text ++ c.operator.symbol ++ c.literal.quoted

abbrev Condition := Formula Comparison

namespace Condition

mutual

def render : Condition → String
  | .leaf c => c.text
  | .all fs => "(" ++ renderParts " AND " fs ++ ")"
  | .any fs => "(" ++ renderParts " OR " fs ++ ")"

def renderParts (joiner : String) : List Condition → String
  | [] => ""
  | [f] => render f
  | f :: fs => render f ++ joiner ++ renderParts joiner fs

end

def comparisons (f : Condition) : List Comparison :=
  Formula.walk [f]

def identifiers (f : Condition) : List String :=
  (f.comparisons.map (·.attr.name)).eraseDups

def references (f : Condition) : List Attribute :=
  (f.comparisons.map (·.attr)).eraseDups

end Condition

end RecordQuery
