import RecordQuery.Derive.Implementation
import RecordQuery.Record

namespace RecordQuery.Derive

/-- What is known of a type by its text: the type of the values that its members turn into, if they
turn into any, and its full name. -/
structure Typing where
  valueType : String → Option ValueType
  fullName : String → String

/-- The values of the members of one structure, and of the results of its methods. -/
structure Instance where
  member : String → Option Value
  result : String → Option Value

namespace Exposed

variable (types : Typing)

def value (s : Instance) (e : Exposed) : Option Value :=
  if e.masked then some (.foreign (types.fullName e.type)) else s.member e.member

def valueType (e : Exposed) : Option ValueType :=
  if e.masked then some (.foreign (types.fullName e.type)) else types.valueType e.type

end Exposed

namespace Derivation

variable (d : Derivation) (types : Typing)

def record (s : Instance) : Record where
  name := d.targetName
  field name := (d.fields.find? (·.name == name)).bind (·.value types s)
  accessor name := (d.accessors.find? (·.method == name)).bind fun a => s.result a.method

def description : Description where
  name := d.targetName
  field name := (d.fields.find? (·.name == name)).bind (·.valueType types)
  accessor name := (d.accessors.find? (·.method == name)).bind fun a => types.valueType a.type

end Derivation

/-- The members that are looked into and the results of the accessors have their declared types. -/
structure Instance.Fits (s : Instance) (types : Typing) (d : Derivation) : Prop where
  members : ∀ e ∈ d.fields, e.masked = false →
    (s.member e.member).map Value.type = types.valueType e.type
  results : ∀ a ∈ d.accessors, (s.result a.method).map Value.type = types.valueType a.type

end RecordQuery.Derive
