import RecordQuery.Order
import RecordQuery.Order.Routine

namespace RecordQuery

inductive SortResult where
  | sorted
  | failed (e : Error)
  | gaveUp
  deriving DecidableEq, Repr

namespace OrderBy

/-- One comparison of a sort, with the cell that keeps the first failure. All pairs are called equal
after it. -/
def probe (order : OrderBy) (a b : Record) : StateM (Option Error) Ordering := fun failure =>
  match failure with
  | some e => (.eq, some e)
  | none =>
    match (order.compare a b).outcome with
    | .ok o => (o, none)
    | .error e => (.eq, some e)

def isLess {α : Type} (order : OrderBy) (record : α → Record) (items : List α)
    (i j : Fin items.length) : StateM (Option Error) Bool :=
  return (← order.probe (record (items.get i)) (record (items.get j))) = .lt

/-- Takes the elements at the given positions out of their slots, where each is found only once. -/
def takeOut {α : Type} (slots : List (Option α)) : List Nat → List α
  | [] => []
  | i :: is =>
    match slots[i]?.join with
    | some a => a :: takeOut (slots.set i none) is
    | none => takeOut slots is

/-- Sorts elements by the records they stand for. Only positions are moved, and the elements follow
once it is known that no comparison failed. If one did the list is as it was, and so it is if the
routine gives up, with or without a failure in the cell. -/
def sortOn {α : Type} (order : OrderBy) (record : α → Record) (items : List α) :
    SortResult × List α :=
  match ((Routine.sort (List.finRange items.length)).run (order.isLess record items)).run none with
  | (some positions, none) => (.sorted, takeOut (items.map some) (positions.map Fin.val))
  | (some _, some e) => (.failed e, items)
  | (none, _) => (.gaveUp, items)

def sort (order : OrderBy) (items : List Record) : SortResult × List Record :=
  order.sortOn id items

def givesUp {α : Type} (order : OrderBy) (record : α → Record) (items : List α) : Bool :=
  (order.sortOn record items).1 = .gaveUp

end OrderBy

end RecordQuery
