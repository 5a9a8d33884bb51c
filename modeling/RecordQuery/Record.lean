import RecordQuery.Error
import RecordQuery.Inquiry

namespace RecordQuery

/-- A record answers by name, for fields and accessors apart. -/
structure Record where
  name : String
  field : String → Option Value
  accessor : String → Option Value

structure Description where
  name : String
  field : String → Option ValueType
  accessor : String → Option ValueType

namespace Record

def get? (t : Record) (a : Attribute) : Option Value :=
  match a.lookup with
  | .field => t.field a.name
  | .accessor => t.accessor a.name

def resolve (t : Record) (a : Attribute) : Inquiry Attribute Error Value :=
  .ask a <| match t.get? a with
    | some v => .ok v
    | none => .error (.unknownIdentifier a t.name)

end Record

namespace Description

def get? (d : Description) (a : Attribute) : Option ValueType :=
  match a.lookup with
  | .field => d.field a.name
  | .accessor => d.accessor a.name

/-- A record of the described kind has exactly the attributes described, with their types. -/
def Describes (d : Description) (t : Record) : Prop :=
  d.name = t.name ∧ ∀ a, d.get? a = (t.get? a).map Value.type

end Description

end RecordQuery
