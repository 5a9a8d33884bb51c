namespace RecordQuery

/-- Fields and accessors are separate namespaces. -/
inductive Lookup where
  | field
  | accessor
  deriving DecidableEq, Repr

def Lookup.name : Lookup → String
  | field => "field"
  | accessor => "accessor"

structure Attribute where
  name : String
  lookup : Lookup
  deriving DecidableEq, Repr

def Attribute.text (a : Attribute) : String :=
  match a.lookup with
  | .field => a.name
  | .accessor => a.name ++ "()"

end RecordQuery
