import RecordQuery.Error

namespace RecordQuery

namespace Value

def isForeign : Value → Bool
  | foreign _ => true
  | _ => false

def order? : Value → Value → Option Ordering
  | integer m, integer n => some (Ord.compare m.value n.value)
  | float x, float y => some (x.totalCompare y)
  | bool a, bool b => some (Ord.compare a b)
  | text s, text t => some (Ord.compare s t)
  | timestamp s, timestamp t => some (Ord.compare s.millis t.millis)
  | _, _ => none

/-- Compares the values that an identifier has on two targets. Of two values of foreign types the
first one is told. -/
def compare (identifier : String) (a : Value) (aTarget : String) (b : Value) (bTarget : String) :
    Except Error Ordering :=
  if a.isForeign then .error (.unsupportedType identifier ⟨a.type, aTarget⟩ none)
  else if b.isForeign then .error (.unsupportedType identifier ⟨b.type, bTarget⟩ none)
  else match a.order? b with
    | some o => .ok o
    | none => .error (.incompatibleTypes identifier ⟨a.type, aTarget⟩ ⟨b.type, bTarget⟩)

end Value

end RecordQuery
