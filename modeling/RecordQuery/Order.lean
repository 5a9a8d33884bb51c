import RecordQuery.Record
import RecordQuery.Value.Compare

namespace RecordQuery

inductive Direction where
  | asc
  | desc
  deriving DecidableEq, Repr, Inhabited

namespace Direction

def name : Direction → String
  | asc => "asc"
  | desc => "desc"

def isAsc : Direction → Bool
  | asc => true
  | desc => false

def isDesc (d : Direction) : Bool :=
  !d.isAsc

def apply : Direction → Ordering → Ordering
  | asc, o => o
  | desc, o => o.swap

end Direction

inductive Side where
  | left
  | right
  deriving DecidableEq, Repr

structure SortKey where
  attr : Attribute
  direction : Direction
  deriving DecidableEq, Repr

namespace SortKey

def text (k : SortKey) : String :=
  match k.direction with
  | .asc => k.attr.text
  | .desc => k.attr.text ++ " " ++ Direction.desc.name

def compare (k : SortKey) (a b : Record) : Inquiry (Side × Attribute) Error Ordering :=
  ((a.resolve k.attr).relabel (Side.left, ·)).andThen fun x =>
  ((b.resolve k.attr).relabel (Side.right, ·)).andThen fun y =>
  .ofExcept ((x.compare k.attr.name a.name y b.name).map k.direction.apply)

end SortKey

structure OrderBy where
  keys : List SortKey
  deriving DecidableEq, Repr

namespace OrderBy

/-- The first key that tells the records apart decides, and later keys are not asked for. -/
def compareBy : List SortKey → Record → Record → Inquiry (Side × Attribute) Error Ordering
  | [], _, _ => pure .eq
  | k :: ks, a, b =>
    (k.compare a b).andThen fun o => if o = .eq then compareBy ks a b else pure o

def compare (order : OrderBy) (a b : Record) : Inquiry (Side × Attribute) Error Ordering :=
  compareBy order.keys a b

def text (order : OrderBy) : String :=
  "order by " ++ String.intercalate ", " (order.keys.map SortKey.text)

end OrderBy

end RecordQuery
