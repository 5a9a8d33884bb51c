import RecordQuery.Condition.Matching
import RecordQuery.Filter
import RecordQuery.Order.Sort

namespace RecordQuery

inductive Stage where
  | sort (order : OrderBy)
  | keep (condition : Condition) (matching : Bool)

inductive StageResult where
  | sort (result : SortResult)
  | kept (errors : List Error)

namespace Stage

variable {α : Type}

def keptOf : List (Entry α) → List α
  | [] => []
  | .ok a :: entries => a :: keptOf entries
  | .error _ :: entries => keptOf entries

def errorsOf : List (Entry α) → List Error
  | [] => []
  | .ok _ :: entries => errorsOf entries
  | .error e :: entries => e :: errorsOf entries

def apply (record : α → Record) (items : List α) : Stage → StageResult × List α
  | .sort order =>
    let (result, left) := order.sortOn record items
    (.sort result, left)
  | .keep condition matching =>
    let s : Criterion Attribute α := ⟨fun a => condition.holdsOn (record a), matching⟩
    let entries := ((Cursor.start items).drain s).answer
    (.kept (errorsOf entries), keptOf entries)

end Stage

/-- Runs the stages in turn, each on the list that the one before it left. A stage whose text could
not be read leaves the list alone. If a sort gives up nothing is left of the whole run. -/
def runPipeline {α : Type} (record : α → Record) :
    List α → List (Except ParseError Stage) →
      Option (List (Except ParseError StageResult × List α))
  | _, [] => some []
  | items, .error e :: stages => do
    let results ← runPipeline record items stages
    return (.error e, items) :: results
  | items, .ok stage :: stages => do
    match stage.apply record items with
    | (.sort .gaveUp, _) => none
    | (result, left) =>
      let results ← runPipeline record left stages
      return (.ok result, left) :: results

end RecordQuery
