import Mathlib.Logic.Function.Iterate
import RecordQuery.Proofs.Condition.Consultation
import RecordQuery.Proofs.Condition.Validation

namespace RecordQuery.Formula

variable {α : Type} {stack : List (Formula α)}

/-- One turn of a walk: the node on top of the stack is visited, if there is one. -/
def turn : List (Formula α) → List (Formula α)
  | [] => []
  | f :: stack => (visit f stack).2

/-- What is on the stack when a walk has been asked so often for its next leaf. -/
def afterCalls (k : Nat) (stack : List (Formula α)) : List (Formula α) :=
  (fun s => (nextLeaf s).2)^[k] stack

section Turns

theorem sizeOfParts_eq_zero : sizeOfParts stack = 0 ↔ stack = [] := by
  constructor
  · intro h
    cases stack with
    | nil => rfl
    | cons f stack => cases f <;> simp [sizeOfParts, size] at h
  · rintro rfl
    rfl

/-- A turn takes one node away, though it may put many others on the stack. -/
theorem sizeOfParts_turn (stack : List (Formula α)) :
    sizeOfParts (turn stack) = sizeOfParts stack - 1 := by
  cases stack with
  | nil => rfl
  | cons f stack =>
    have h := sizeOfParts_visit f stack
    rw [turn]
    omega

theorem sizeOfParts_iterate_turn (n : Nat) (stack : List (Formula α)) :
    sizeOfParts (turn^[n] stack) = sizeOfParts stack - n := by
  induction n with
  | zero => rfl
  | succ n ih => rw [Function.iterate_succ_apply', sizeOfParts_turn, ih, Nat.sub_sub]

theorem iterate_turn_eq_nil {n : Nat} : turn^[n] stack = [] ↔ sizeOfParts stack ≤ n := by
  rw [← sizeOfParts_eq_zero, sizeOfParts_iterate_turn, Nat.sub_eq_zero_iff_le]

theorem nextLeaf_eq_turns (stack : List (Formula α)) :
    ∃ n, (nextLeaf stack).2 = turn^[n] stack := by
  fun_induction nextLeaf stack with
  | case1 => exact ⟨0, rfl⟩
  | case2 f stack a h => exact ⟨1, rfl⟩
  | case3 f stack h ih =>
    obtain ⟨n, hn⟩ := ih
    exact ⟨n + 1, hn⟩

theorem afterCalls_eq_turns (k : Nat) (stack : List (Formula α)) :
    ∃ n, afterCalls k stack = turn^[n] stack := by
  induction k with
  | zero => exact ⟨0, rfl⟩
  | succ k ih =>
    obtain ⟨n, hn⟩ := ih
    obtain ⟨m, hm⟩ := nextLeaf_eq_turns (afterCalls k stack)
    refine ⟨m + n, ?_⟩
    rw [Function.iterate_add_apply, ← hn, ← hm]
    exact Function.iterate_succ_apply' _ k stack

end Turns

section Calls

theorem nextLeaf_eq_head?_tail (stack : List (Formula α)) :
    (nextLeaf stack).1 = (leavesOfParts stack).head? ∧
      leavesOfParts (nextLeaf stack).2 = (leavesOfParts stack).tail := by
  rw [leavesOfParts_nextLeaf stack]
  cases h : (nextLeaf stack).1 with
  | none =>
    rw [nextLeaf_eq_none h]
    exact ⟨rfl, rfl⟩
  | some a => exact ⟨rfl, rfl⟩

theorem leavesOfParts_afterCalls (k : Nat) (stack : List (Formula α)) :
    leavesOfParts (afterCalls k stack) = (leavesOfParts stack).drop k := by
  induction k with
  | zero => rfl
  | succ k ih =>
    rw [afterCalls, Function.iterate_succ_apply', (nextLeaf_eq_head?_tail _).2, ← afterCalls, ih,
      List.tail_drop]

theorem nextLeaf_afterCalls (k : Nat) (stack : List (Formula α)) :
    (nextLeaf (afterCalls k stack)).1 = (leavesOfParts stack)[k]? := by
  rw [(nextLeaf_eq_head?_tail _).1, leavesOfParts_afterCalls, List.head?_drop]

end Calls

end RecordQuery.Formula

namespace RecordQuery.Condition

open Formula FirstOccurrence

theorem identifiers_eq (f : Condition) :
    f.identifiers = (f.leaves.map (·.attr.name)).eraseDups := by
  rw [identifiers, comparisons_eq_leaves]

/-- A name may belong to two references, a field and an accessor, and is still listed once, where
the first of them stands. -/
theorem identifiers_eq_of_references (f : Condition) :
    f.identifiers = (f.references.map (·.name)).eraseDups := by
  rw [references_eq, eraseDups_map_eraseDups, identifiers_eq, List.map_map]
  rfl

/-- A walk over a condition ends: its stack is empty after one turn for each node, and not before.
Each request for a comparison goes on with that walk. The answer after `k` others is the comparison
at place `k`, counted from left to right, and there is none once the last one has been given. So the
comparisons are the leaves, and each place is met once. The references are the attributes of these,
and the identifiers their names, each where it first occurs. The identifiers are also the names of
the references, each where it first occurs. -/
theorem mentions_in_order (f : Condition) :
    (∀ n, turn^[n] [f] = [] ↔ f.size ≤ n) ∧
    (∀ k, (∃ n, afterCalls k [f] = turn^[n] [f]) ∧
      (nextLeaf (afterCalls k [f])).1 = f.leaves[k]?) ∧
    f.comparisons = f.leaves ∧
    walk [f.numbered] = f.leaves.zipIdx ∧
    f.references = firsts (f.leaves.map (·.attr)) ∧
    f.identifiers = firsts (f.leaves.map (·.attr.name)) ∧
    f.identifiers = firsts (f.references.map (·.name)) := by
  have hleaves : leavesOfParts [f] = f.leaves := List.append_nil _
  refine ⟨?ends, fun k => ⟨afterCalls_eq_turns k [f], ?answer⟩, comparisons_eq_leaves f, ?places,
    ?references, ?identifiers, ?names⟩
  case ends => exact fun n => iterate_turn_eq_nil
  case answer => rw [nextLeaf_afterCalls, hleaves]
  case places => rw [walk_singleton, Formula.leaves_numbered]
  case references => rw [references_eq, eraseDups_eq_firsts]
  case identifiers => rw [identifiers_eq, eraseDups_eq_firsts]
  case names => rw [identifiers_eq_of_references, eraseDups_eq_firsts]

end RecordQuery.Condition
