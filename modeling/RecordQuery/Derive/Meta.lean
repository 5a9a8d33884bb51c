import RecordQuery.Derive.Token

namespace RecordQuery.Derive

/-- Of the expressions only a text literal on its own has a value. -/
inductive MetaValue where
  | text (s : String)
  | expression
  deriving DecidableEq, Repr

def MetaValue.ofTokens : List Token → MetaValue
  | [.literal _ (some s)] => .text s
  | _ => .expression

/-- The name is that of a path of a single word; other paths have none. -/
inductive Meta where
  | path (name : Option String)
  | value (name : Option String) (value : MetaValue)
  | list (name : Option String) (tokens : List Token)

structure AccessorDecl where
  method : String
  type : String
  deriving DecidableEq, Repr

end RecordQuery.Derive
