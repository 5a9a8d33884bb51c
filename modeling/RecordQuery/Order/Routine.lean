import RecordQuery.Order.Questions

namespace RecordQuery.Routine

-- The stable sort of the standard library is not part of this development. Assumed of it is that it
-- asks what `sort` asks, in the same order, that it arranges the list as `sort` does, and that it
-- fails where `sort` gives up: there the two ends of a merge have taken an element twice.

open Asking (less)

variable {α : Type}

section Insertion

-- Sorted lists that grow stand with their last element first.
def insertLast (x : α) : List α → Asking α (List α)
  | [] => return [x]
  | y :: ys => do
    if ← less x y then return y :: (← insertLast x ys) else return x :: y :: ys

def insertAll : (sorted : List α) → List α → Asking α (List α)
  | sorted, [] => return sorted
  | sorted, x :: xs => do insertAll (← insertLast x sorted) xs

def extendSorted (sorted xs : List α) : Asking α (List α) :=
  return (← insertAll sorted.reverse xs).reverse

end Insertion

section Halves

/-- Two lists that are merged from both ends: what the front has taken, the last one first, and what
it has left of each list; then the same for the back, which has the lists the last one first. -/
structure Ends (α : Type) where
  front : List α
  left : List α
  right : List α
  back : List α
  leftBack : List α
  rightBack : List α

namespace Ends

def start (left right : List α) : Ends α :=
  ⟨[], left, right, [], left.reverse, right.reverse⟩

def takeFront (e : Ends α) : Asking α (Ends α) := do
  match e.left, e.right with
  | x :: xs, y :: ys =>
    if ← less y x then return { e with front := y :: e.front, right := ys }
    else return { e with front := x :: e.front, left := xs }
  | _, _ => return e

def takeBack (e : Ends α) : Asking α (Ends α) := do
  match e.leftBack, e.rightBack with
  | x :: xs, y :: ys =>
    if ← less y x then return { e with back := x :: e.back, leftBack := xs }
    else return { e with back := y :: e.back, rightBack := ys }
  | _, _ => return e

def advance : (steps : Nat) → Ends α → Asking α (Ends α)
  | 0, e => return e
  | steps + 1, e => do advance steps (← (← e.takeFront).takeBack)

def close? (left right : Nat) (e : Ends α) : Option (List α) :=
  if left ≤ e.left.length + e.leftBack.length ∧ right ≤ e.right.length + e.rightBack.length then
    some (e.front.reverse ++ e.left.take (e.left.length + e.leftBack.length - left) ++
      e.right.take (e.right.length + e.rightBack.length - right) ++ e.back)
  else none

end Ends

def mergeEnds (left right : List α) : Asking α (List α) := do
  let e ← (Ends.start left right).advance left.length
  match e.close? left.length right.length with
  | some merged => return merged
  | none => .giveUp

def sortTwo (a b : α) : Asking α (α × α) := do
  if ← less b a then return (b, a) else return (a, b)

/-- Merges two pairs that are sorted. The least and the greatest element are found first, each by one
comparison; what is left of the pairs is a pair again. -/
def mergeTwos (a b c d : α) : Asking α (List α) := do
  let swapLeast ← less c a
  let swapGreatest ← less d b
  let least := if swapLeast then c else a
  let greatest := if swapGreatest then b else d
  let left := if swapLeast then a else if swapGreatest then c else b
  let right := if swapGreatest then d else if swapLeast then b else c
  if ← less right left then return [least, right, left, greatest]
  else return [least, left, right, greatest]

def sortFour (a b c d : α) : Asking α (List α) := do
  let (a, b) ← sortTwo a b
  let (c, d) ← sortTwo c d
  mergeTwos a b c d

def presort (large : Bool) (xs : List α) : Asking α (List α × List α) := do
  match xs with
  | a :: b :: c :: d :: rest =>
    let first ← sortFour a b c d
    match large, rest with
    | true, a :: b :: c :: d :: rest =>
      let second ← sortFour a b c d
      return (← mergeEnds first second, rest)
    | _, rest => return (first, rest)
  | xs => return ([], xs)

def sortHalves (xs : List α) : Asking α (List α) := do
  let left := xs.take (xs.length / 2)
  let right := xs.drop (xs.length / 2)
  if xs.length < 8 then
    mergeEnds (← extendSorted [] left) (← extendSorted [] right)
  else
    let (sortedLeft, moreLeft) ← presort (16 ≤ xs.length) left
    let (sortedRight, moreRight) ← presort (16 ≤ xs.length) right
    mergeEnds (← extendSorted sortedLeft moreLeft) (← extendSorted sortedRight moreRight)

def fewElements : Nat := 32

end Halves

section Merging

def mergeFront : List α → List α → Asking α (List α)
  | [], ys => return ys
  | xs, [] => return xs
  | x :: xs, y :: ys => do
    if ← less y x then return y :: (← mergeFront (x :: xs) ys)
    else return x :: (← mergeFront xs (y :: ys))
termination_by xs ys => xs.length + ys.length

def mergeBack : List α → List α → Asking α (List α)
  | [], ys => return ys
  | xs, [] => return xs
  | x :: xs, y :: ys => do
    if ← less y x then return x :: (← mergeBack xs (y :: ys))
    else return y :: (← mergeBack (x :: xs) ys)
termination_by xs ys => xs.length + ys.length

def mergeSorted (left right : List α) : Asking α (List α) := do
  if left.length ≤ right.length then mergeFront left right
  else return (← mergeBack left.reverse right.reverse).reverse

end Merging

section Runs

structure Run (α : Type) where
  elements : List α
  sorted : Bool

def runLength (descending : Bool) : α → List α → Asking α Nat
  | _, [] => return 0
  | x, y :: ys => do
    if (← less y x) = descending then
      let more ← runLength descending y ys
      return more + 1
    else return 0

def findRun : List α → Asking α (Nat × Bool)
  | x :: y :: ys => do
    let descending ← less y x
    let more ← runLength descending y ys
    return (more + 2, descending)
  | xs => return (xs.length, false)

def findRunOf (enough : Nat) (xs : List α) : Asking α (Nat × Bool) :=
  if enough ≤ xs.length then findRun xs else return (0, false)

/-- The next run of a list, at least as long as asked for if the list is found to be in order there,
and what comes after it. -/
def nextRun (eager : Bool) (enough : Nat) (xs : List α) : Asking α (Run α × List α) := do
  let (length, descending) ← findRunOf enough xs
  if enough ≤ xs.length ∧ enough ≤ length then
    let run := xs.take length
    return (⟨if descending then run.reverse else run, true⟩, xs.drop length)
  else if eager then
    return (⟨← sortHalves (xs.take fewElements), true⟩, xs.drop fewElements)
  else return (⟨xs.take enough, false⟩, xs.drop enough)

def Run.inOrder (sortRun : List α → Asking α (List α)) (run : Run α) : Asking α (List α) :=
  if run.sorted then return run.elements else sortRun run.elements

def Run.join (sortRun : List α → Asking α (List α)) (scratch : Nat) (left right : Run α) :
    Asking α (Run α) := do
  let length := left.elements.length + right.elements.length
  if scratch < length ∨ left.sorted ∨ right.sorted then
    let first ← left.inOrder sortRun
    let second ← right.inOrder sortRun
    return ⟨← mergeSorted first second, true⟩
  else return ⟨left.elements ++ right.elements, false⟩

/-- The depth, in a balanced tree over a list, of the node between two of its runs. -/
def depthBetween (total start middle stop : Nat) : Nat :=
  let scale := (Nat.pow 2 62 + total - 1) / total
  let differing := Nat.xor (scale * (start + middle)) (scale * (middle + stop))
  if differing = 0 then 64 else 63 - differing.log2

/-- Joins a run with those in front of it that lie as deep or deeper. -/
def collapse (sortRun : List α → Asking α (List α)) (scratch depth : Nat) :
    List (Run α × Nat) → Run α → Asking α (List (Run α × Nat) × Run α)
  | [], run => return ([], run)
  | (top, topDepth) :: stack, run => do
    if depth ≤ topDepth then
      collapse sortRun scratch depth stack (← top.join sortRun scratch run)
    else return ((top, topDepth) :: stack, run)

def joinRuns (sortRun : List α → Asking α (List α)) (scratch : Nat) (eager : Bool)
    (total enough : Nat) :
    (bound : Nat) → List (Run α × Nat) → Run α → List α → Asking α (Run α)
  | 0, _, run, _ => return run
  | bound + 1, stack, run, rest => do
    if rest.isEmpty then return (← collapse sortRun scratch 0 stack run).2
    else
      let (next, more) ← nextRun eager enough rest
      let middle := total - rest.length
      let depth := depthBetween total (middle - run.elements.length) middle (total - more.length)
      let (stack, run) ← collapse sortRun scratch depth stack run
      joinRuns sortRun scratch eager total enough bound ((run, depth) :: stack) next more

def longEnough (total : Nat) : Nat :=
  if total ≤ 64 * 64 then min (total - total / 2) 64
  else
    let shift := (total.log2 + 1) / 2
    (Nat.pow 2 shift + total / Nat.pow 2 shift) / 2

def sortByRuns (sortRun : List α → Asking α (List α)) (scratch : Nat) (eager : Bool)
    (xs : List α) : Asking α (List α) := do
  let enough := longEnough xs.length
  let (first, rest) ← nextRun eager enough xs
  let run ← joinRuns sortRun scratch eager xs.length enough (xs.length + 1) [] first rest
  run.inOrder sortRun

end Runs

section Parting

def medianOf (asks : Nat → Nat → Asking α Bool) (a b c : Nat) : Asking α Nat := do
  let x ← asks a b
  let y ← asks a c
  if x = y then return if (← asks b c) = x then b else c
  else return a

/-- Which place holds about the middle of the elements after three places, by medians of medians. -/
def medianAfter (asks : Nat → Nat → Asking α Bool) :
    (bound : Nat) → (a b c count : Nat) → Asking α Nat
  | 0, a, b, c, _ => medianOf asks a b c
  | bound + 1, a, b, c, count => do
    if 64 ≤ count * 8 then
      let count := count / 8
      let a ← medianAfter asks bound a (a + count * 4) (a + count * 7) count
      let b ← medianAfter asks bound b (b + count * 4) (b + count * 7) count
      let c ← medianAfter asks bound c (c + count * 4) (c + count * 7) count
      medianOf asks a b c
    else medianOf asks a b c

def lessAt (xs : List α) (i j : Nat) : Asking α Bool :=
  match xs[i]?, xs[j]? with
  | some x, some y => less x y
  | _, _ => return false

def pivotPlace (xs : List α) : Asking α Nat :=
  let count := xs.length / 8
  if xs.length < 64 then medianOf (lessAt xs) 0 (count * 4) (count * 7)
  else medianAfter (lessAt xs) xs.length 0 (count * 4) (count * 7) count

def part (goesLeft : α → Asking α Bool) (known : Bool) :
    (place : Nat) → List α → Asking α (List α × List α)
  | _, [] => return ([], [])
  -- After the place nothing is known any more; a place past the end is never reached.
  | 0, x :: xs => do
    let (lefts, rights) ← part goesLeft known (xs.length + 1) xs
    return if known then (x :: lefts, rights) else (lefts, x :: rights)
  | place + 1, x :: xs => do
    let left ← goesLeft x
    let (lefts, rights) ← part goesLeft known place xs
    return if left then (x :: lefts, rights) else (lefts, x :: rights)

def isLeast (least : Option α) (pivot : α) : Asking α Bool :=
  match least with
  | some x => return !(← less x pivot)
  | none => return false

def partSmaller (least : Option α) (pivot : α) (place : Nat) (xs : List α) :
    Asking α (List α × List α) := do
  if ← isLeast least pivot then return ([], xs)
  else part (less · pivot) false place xs

/-- Parts a list around a pivot, and goes on with the two parts. No element is less than `least`. -/
def sortByParting (scratch : Nat) :
    (limit : Nat) → (least : Option α) → List α → Asking α (List α)
  | limit, least, xs => do
    if xs.length ≤ fewElements then sortHalves xs
    else match limit with
      | 0 => sortByRuns (fun xs => return xs) scratch true xs
      | limit + 1 =>
        let place ← pivotPlace xs
        match xs[place]? with
        | none => return xs
        | some pivot =>
          let (smaller, others) ← partSmaller least pivot place xs
          if smaller.isEmpty then
            let (equal, greater) ← part (fun x => do pure !(← less pivot x)) true place xs
            let sorted ← sortByParting scratch limit none greater
            return equal ++ sorted
          else
            let sortedOthers ← sortByParting scratch limit (some pivot) others
            let sorted ← sortByParting scratch limit least smaller
            return sorted ++ sortedOthers

def sortLong (scratch : Nat) (xs : List α) : Asking α (List α) :=
  sortByParting scratch (2 * (Nat.lor xs.length 1).log2) none xs

end Parting

def shortLength : Nat := 20

/-- The room that there is beside a list of positions: for all of it up to eight million bytes, at
eight bytes a position, and for half of it in any case. -/
def scratchLength (total : Nat) : Nat :=
  max (total - total / 2) (min total 1000000)

/-- The sorted list, unless the answers are found to contradict one another. -/
def sort (xs : List α) : Asking α (List α) :=
  if xs.length ≤ shortLength then extendSorted [] xs
  else
    let scratch := scratchLength xs.length
    sortByRuns (sortLong scratch) scratch (xs.length ≤ fewElements * 2) xs

end RecordQuery.Routine
