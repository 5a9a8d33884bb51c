import RecordQuery.Formula

namespace RecordQuery.Formula

variable {α β : Type} {settling : Bool} {f : Formula α} {fs gs : List (Formula α)}

@[induction_eliminator]
theorem inductionOnParts {motive : Formula α → Prop} (leaf : ∀ a, motive (.leaf a))
    (all : ∀ fs, (∀ f ∈ fs, motive f) → motive (.all fs))
    (any : ∀ fs, (∀ f ∈ fs, motive f) → motive (.any fs)) : ∀ f, motive f
  | .leaf a => leaf a
  | .all fs => all fs fun f _ => inductionOnParts leaf all any f
  | .any fs => any fs fun f _ => inductionOnParts leaf all any f

/-- The group that a part of the value `settling` settles: false parts settle a conjunction and
true ones a disjunction. -/
def ofParts : (settling : Bool) → List (Formula α) → Formula α
  | false => all
  | true => any

/-- Induction that takes groups apart from the left, as evaluation does. -/
theorem inductionOnFirstPart {motive : Formula α → Prop} (leaf : ∀ a, motive (.leaf a))
    (empty : ∀ settling, motive (ofParts settling []))
    (more : ∀ settling f fs, motive f → motive (ofParts settling fs) →
      motive (ofParts settling (f :: fs)))
    (f : Formula α) : motive f := by
  have hgroup (settling : Bool) (fs : List (Formula α)) (h : ∀ f ∈ fs, motive f) :
      motive (ofParts settling fs) := by
    induction fs with
    | nil => exact empty settling
    | cons f fs ih =>
      have hfs := ih fun g hg => h g (List.mem_cons_of_mem f hg)
      exact more settling f fs (h f List.mem_cons_self) hfs
  induction f with
  | leaf a => exact leaf a
  | all fs ih => exact hgroup false fs ih
  | any fs ih => exact hgroup true fs ih

theorem ofParts_inj : ofParts settling fs = ofParts settling gs ↔ fs = gs := by
  cases settling with
  | false => exact ⟨all.inj, congrArg all⟩
  | true => exact ⟨any.inj, congrArg any⟩

mutual

def map (change : α → β) : Formula α → Formula β
  | leaf a => leaf (change a)
  | all fs => all (mapParts change fs)
  | any fs => any (mapParts change fs)

def mapParts (change : α → β) : List (Formula α) → List (Formula β)
  | [] => []
  | f :: fs => map change f :: mapParts change fs

end

mutual

def Grouped : Formula α → Prop
  | leaf _ => True
  | all fs => 2 ≤ fs.length ∧ GroupedParts fs
  | any fs => 2 ≤ fs.length ∧ GroupedParts fs

def GroupedParts : List (Formula α) → Prop
  | [] => True
  | f :: fs => Grouped f ∧ GroupedParts fs

end

mutual

def Populated : Formula α → Prop
  | leaf _ => True
  | all fs => fs ≠ [] ∧ PopulatedParts fs
  | any fs => fs ≠ [] ∧ PopulatedParts fs

def PopulatedParts : List (Formula α) → Prop
  | [] => True
  | f :: fs => Populated f ∧ PopulatedParts fs

end

def isLeaf : Formula α → Bool
  | leaf _ => true
  | _ => false

def isOperand : Formula α → Bool
  | leaf _ => true
  | all fs => fs.all isLeaf
  | any _ => false

/-- A leaf, a conjunction of leaves, or a disjunction of leaves and such conjunctions. -/
def isTwoLevel : Formula α → Bool
  | leaf _ => true
  | all fs => fs.all isLeaf
  | any fs => fs.all isOperand

theorem mapParts_eq_map (change : α → β) (fs : List (Formula α)) :
    mapParts change fs = fs.map (map change) := by
  induction fs with
  | nil => rfl
  | cons f fs ih => rw [mapParts, ih, List.map_cons]

theorem map_ofParts (change : α → β) :
    (ofParts settling fs).map change = ofParts settling (fs.map (map change)) := by
  cases settling with
  | false => exact congrArg all (mapParts_eq_map change fs)
  | true => exact congrArg any (mapParts_eq_map change fs)

theorem groupedParts_iff : GroupedParts fs ↔ ∀ f ∈ fs, f.Grouped := by
  induction fs with
  | nil => simp [GroupedParts]
  | cons f fs ih => rw [GroupedParts, ih, List.forall_mem_cons]

theorem populated_empty : ¬(ofParts settling ([] : List (Formula α))).Populated := by
  intro h
  cases settling <;> exact h.1 rfl

theorem Populated.first (h : (ofParts settling (f :: fs)).Populated) : f.Populated := by
  cases settling <;> exact h.2.1

theorem Populated.rest (h : (ofParts settling (f :: fs)).Populated) (hfs : fs ≠ []) :
    (ofParts settling fs).Populated := by
  cases settling <;> exact ⟨hfs, h.2.2⟩

theorem Populated.more (hf : f.Populated) (hfs : fs = [] ∨ (ofParts settling fs).Populated) :
    (ofParts settling (f :: fs)).Populated := by
  have hparts : PopulatedParts fs := by
    rcases hfs with rfl | hfs
    · trivial
    · cases settling <;> exact hfs.2
  cases settling <;> exact ⟨List.cons_ne_nil f fs, hf, hparts⟩

@[simp]
theorem leaves_empty : (ofParts settling ([] : List (Formula α))).leaves = [] := by
  cases settling <;> rfl

@[simp]
theorem leaves_more :
    (ofParts settling (f :: fs)).leaves = f.leaves ++ (ofParts settling fs).leaves := by
  cases settling <;> rfl

theorem leavesOfParts_eq_flatMap (fs : List (Formula α)) :
    leavesOfParts fs = fs.flatMap leaves := by
  induction fs with
  | nil => rfl
  | cons f fs ih => rw [leavesOfParts, ih, List.flatMap_cons]

theorem mem_leavesOfParts {a : α} : a ∈ leavesOfParts fs ↔ ∃ f ∈ fs, a ∈ f.leaves := by
  rw [leavesOfParts_eq_flatMap, List.mem_flatMap]

theorem leavesOfParts_append (fs gs : List (Formula α)) :
    leavesOfParts (fs ++ gs) = leavesOfParts fs ++ leavesOfParts gs := by
  simp only [leavesOfParts_eq_flatMap, List.flatMap_append]

section Walk

variable {stack : List (Formula α)}

theorem leavesOfParts_visit (f : Formula α) (stack : List (Formula α)) :
    leavesOfParts (f :: stack) = (visit f stack).1.toList ++ leavesOfParts (visit f stack).2 := by
  cases f with
  | leaf a => rfl
  | all fs => exact (leavesOfParts_append fs stack).symm
  | any fs => exact (leavesOfParts_append fs stack).symm

/-- The leaves below the stack are the one that is met next and those below what is left. -/
theorem leavesOfParts_nextLeaf (stack : List (Formula α)) :
    leavesOfParts stack = (nextLeaf stack).1.toList ++ leavesOfParts (nextLeaf stack).2 := by
  fun_induction nextLeaf stack with
  | case1 => rfl
  | case2 f stack a h => rw [leavesOfParts_visit, h]
  | case3 f stack h ih =>
    rw [leavesOfParts_visit, h, ih]
    rfl

theorem nextLeaf_eq_none (h : (nextLeaf stack).1 = none) : (nextLeaf stack).2 = [] := by
  fun_induction nextLeaf stack with
  | case1 => rfl
  | case2 f stack a ha => cases h
  | case3 f stack _ ih => exact ih h

theorem walk_eq_leavesOfParts (stack : List (Formula α)) : walk stack = leavesOfParts stack := by
  fun_induction walk stack with
  | case1 stack a h ih =>
    rw [ih, leavesOfParts_nextLeaf stack, h]
    rfl
  | case2 stack h =>
    rw [leavesOfParts_nextLeaf stack, h, nextLeaf_eq_none h]
    rfl

theorem walk_singleton (f : Formula α) : walk [f] = f.leaves := by
  rw [walk_eq_leavesOfParts, leavesOfParts, leavesOfParts, List.append_nil]

end Walk

theorem exists_of_isLeaf (h : f.isLeaf = true) : ∃ a, f = leaf a := by
  cases f with
  | leaf a => exact ⟨a, rfl⟩
  | all fs => cases h
  | any fs => cases h

theorem exists_two_parts (h : 2 ≤ fs.length) : ∃ f g rest, fs = f :: g :: rest := by
  match fs, h with
  | f :: g :: rest, _ => exact ⟨f, g, rest, rfl⟩

end RecordQuery.Formula
