import RecordQuery.Inquiry

namespace RecordQuery

inductive Formula (α : Type) where
  | leaf (a : α)
  | all (parts : List (Formula α))
  | any (parts : List (Formula α))
  deriving Repr

namespace Formula

variable {α q ε : Type}

mutual

def beq [BEq α] : Formula α → Formula α → Bool
  | leaf a, leaf b => a == b
  | all fs, all gs => beqParts fs gs
  | any fs, any gs => beqParts fs gs
  | _, _ => false

def beqParts [BEq α] : List (Formula α) → List (Formula α) → Bool
  | [], [] => true
  | f :: fs, g :: gs => beq f g && beqParts fs gs
  | _, _ => false

end

instance [BEq α] : BEq (Formula α) := ⟨beq⟩

mutual

/-- Asks for the leaves from left to right until the value is settled or an answer fails. -/
def evaluate (ask : α → Inquiry q ε Bool) : Formula α → Inquiry q ε Bool
  | leaf a => ask a
  | all fs => evaluateAll ask fs
  | any fs => evaluateAny ask fs

def evaluateAll (ask : α → Inquiry q ε Bool) : List (Formula α) → Inquiry q ε Bool
  | [] => pure true
  | f :: fs => (evaluate ask f).andThen fun b => if b then evaluateAll ask fs else pure false

def evaluateAny (ask : α → Inquiry q ε Bool) : List (Formula α) → Inquiry q ε Bool
  | [] => pure false
  | f :: fs => (evaluate ask f).andThen fun b => if b then pure true else evaluateAny ask fs

end

def consult (answer : α → Except ε Bool) (f : Formula α) : Inquiry α ε Bool :=
  f.evaluate fun a => .ask a (answer a)

mutual

def leaves : Formula α → List α
  | leaf a => [a]
  | all fs => leavesOfParts fs
  | any fs => leavesOfParts fs

def leavesOfParts : List (Formula α) → List α
  | [] => []
  | f :: fs => leaves f ++ leavesOfParts fs

end

mutual

def size : Formula α → Nat
  | leaf _ => 1
  | all fs => sizeOfParts fs + 1
  | any fs => sizeOfParts fs + 1

def sizeOfParts : List (Formula α) → Nat
  | [] => 0
  | f :: fs => size f + sizeOfParts fs

end

theorem sizeOfParts_append (fs gs : List (Formula α)) :
    sizeOfParts (fs ++ gs) = sizeOfParts fs + sizeOfParts gs := by
  induction fs with
  | nil => simp [sizeOfParts]
  | cons f fs ih => simp [sizeOfParts, ih, Nat.add_assoc]

/-- Takes a node from a stack of nodes that are still to be visited: a leaf is met, and the parts of
a group are the next ones to be visited. -/
def visit : Formula α → (stack : List (Formula α)) → Option α × List (Formula α)
  | leaf a, stack => (some a, stack)
  | all fs, stack => (none, fs ++ stack)
  | any fs, stack => (none, fs ++ stack)

theorem sizeOfParts_visit (f : Formula α) (stack : List (Formula α)) :
    sizeOfParts (visit f stack).2 + 1 = sizeOfParts (f :: stack) := by
  cases f <;> simp only [visit, sizeOfParts, sizeOfParts_append, size] <;> omega

def nextLeaf : (stack : List (Formula α)) → Option α × List (Formula α)
  | [] => (none, [])
  | f :: stack =>
    match (visit f stack).1 with
    | some a => (some a, (visit f stack).2)
    | none => nextLeaf (visit f stack).2
termination_by stack => sizeOfParts stack
decreasing_by exact Nat.lt_of_succ_le (Nat.le_of_eq (sizeOfParts_visit f stack))

theorem sizeOfParts_nextLeaf {stack : List (Formula α)} {a : α}
    (h : (nextLeaf stack).1 = some a) : sizeOfParts (nextLeaf stack).2 < sizeOfParts stack := by
  fun_induction nextLeaf stack with
  | case1 => cases h
  | case2 f stack b hb => exact Nat.lt_of_succ_le (Nat.le_of_eq (sizeOfParts_visit f stack))
  | case3 f stack hb ih =>
    have hvisit := sizeOfParts_visit f stack
    have hrest := ih h
    omega

def walk (stack : List (Formula α)) : List α :=
  match _ : (nextLeaf stack).1 with
  | some a => a :: walk (nextLeaf stack).2
  | none => []
termination_by sizeOfParts stack
decreasing_by exact sizeOfParts_nextLeaf ‹_›

def group (build : List (Formula α) → Formula α) (first : Formula α) :
    List (Formula α) → Formula α
  | [] => first
  | rest => build (first :: rest)

def gather (build : List (Formula α) → Formula α) : List (Formula α) → Option (Formula α)
  | [] => none
  | [f] => some f
  | fs => some (build fs)

def conjunction : List (Formula α) → Option (Formula α) :=
  gather all

def disjunction : List (Formula α) → Option (Formula α) :=
  gather any

/-- A plan for a formula, in which a group is either taken as it stands or put together by
`conjunction` and `disjunction`. -/
inductive Draft (α : Type) where
  | leaf (a : α)
  | all (parts : List (Draft α))
  | any (parts : List (Draft α))
  | conjunction (parts : List (Draft α))
  | disjunction (parts : List (Draft α))

mutual

def Draft.build : Draft α → Option (Formula α)
  | .leaf a => some (.leaf a)
  | .all parts => some (.all (Draft.buildParts parts))
  | .any parts => some (.any (Draft.buildParts parts))
  | .conjunction parts => Formula.conjunction (Draft.buildParts parts)
  | .disjunction parts => Formula.disjunction (Draft.buildParts parts)

def Draft.buildParts : List (Draft α) → List (Formula α)
  | [] => []
  | d :: ds => (Draft.build d).toList ++ Draft.buildParts ds

end

end Formula

end RecordQuery
