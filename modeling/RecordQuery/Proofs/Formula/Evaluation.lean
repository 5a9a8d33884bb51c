import RecordQuery.Proofs.Formula
import RecordQuery.Proofs.Inquiry

namespace RecordQuery.Formula

open Inquiry

variable {α β q r ε : Type} {ask : α → Inquiry q ε Bool} {e : ε} {settling : Bool} {f : Formula α}
  {fs gs : List (Formula α)}

section Groups

theorem evaluate_empty :
    (ofParts settling ([] : List (Formula α))).evaluate ask = pure !settling := by
  cases settling <;> rfl

theorem evaluate_more :
    (ofParts settling (f :: fs)).evaluate ask = (f.evaluate ask).andThen fun b =>
      if b = settling then pure settling else (ofParts settling fs).evaluate ask := by
  cases settling with
  | false =>
    refine congrArg (andThen _) (funext fun b => ?_)
    cases b <;> rfl
  | true =>
    refine congrArg (andThen _) (funext fun b => ?_)
    cases b <;> rfl

theorem evaluate_one (settling : Bool) : (ofParts settling [f]).evaluate ask = f.evaluate ask := by
  rw [evaluate_more]
  refine (congrArg (andThen _) (funext fun b => ?_)).trans andThen_pure
  by_cases hb : b = settling
  · rw [if_pos hb, hb]
  · rw [if_neg hb, evaluate_empty, Bool.eq_not_of_ne hb]

/-- The parts in front settle a group or leave the value to those behind them. -/
theorem evaluate_append (settling : Bool) :
    (ofParts settling (fs ++ gs)).evaluate ask = ((ofParts settling fs).evaluate ask).andThen fun b =>
      if b = settling then pure settling else (ofParts settling gs).evaluate ask := by
  induction fs with
  | nil => rw [List.nil_append, evaluate_empty, pure_andThen, if_neg (Bool.not_not_eq.2 rfl)]
  | cons f fs ih =>
    rw [List.cons_append, evaluate_more, evaluate_more, andThen_assoc]
    refine congrArg (andThen _) (funext fun b => ?_)
    by_cases hb : b = settling
    · rw [if_pos hb, if_pos hb, pure_andThen, if_pos rfl]
    · rw [if_neg hb, if_neg hb, ih]

mutual

/-- The plain reading: a conjunction holds if all parts do, a disjunction if one does. -/
def holds (value : α → Bool) : Formula α → Bool
  | leaf a => value a
  | all fs => holdsAll value fs
  | any fs => holdsAny value fs

def holdsAll (value : α → Bool) : List (Formula α) → Bool
  | [] => true
  | f :: fs => holds value f && holdsAll value fs

def holdsAny (value : α → Bool) : List (Formula α) → Bool
  | [] => false
  | f :: fs => holds value f || holdsAny value fs

end

variable {value : α → Bool}

theorem holds_empty : (ofParts settling ([] : List (Formula α))).holds value = !settling := by
  cases settling <;> rfl

theorem holds_more : (ofParts settling (f :: fs)).holds value =
    if f.holds value = settling then settling else (ofParts settling fs).holds value := by
  cases settling with
  | false =>
    change (f.holds value && holdsAll value fs) = _
    cases f.holds value <;> rfl
  | true =>
    change (f.holds value || holdsAny value fs) = _
    cases f.holds value <;> rfl

end Groups

/-- Evaluation adds no failure of its own to those of the leaves. -/
theorem evaluate_eq_error (h : (f.evaluate ask).outcome = .error e) :
    ∃ a ∈ f.leaves, (ask a).outcome = .error e := by
  induction f using inductionOnFirstPart with
  | leaf a => exact ⟨a, List.mem_singleton_self a, h⟩
  | empty settling =>
    rw [evaluate_empty] at h
    cases h
  | more settling f fs ihf ihfs =>
    rw [leaves_more]
    rw [evaluate_more] at h
    rcases andThen_eq_error.1 h with hf | ⟨b, -, h⟩
    · obtain ⟨a, ha, he⟩ := ihf hf
      exact ⟨a, List.mem_append_left _ ha, he⟩
    · by_cases hb : b = settling
      · rw [if_pos hb] at h
        cases h
      · rw [if_neg hb] at h
        obtain ⟨a, ha, he⟩ := ihfs h
        exact ⟨a, List.mem_append_right _ ha, he⟩

theorem evaluate_map {ask' : β → Inquiry q ε Bool} (change : α → β)
    (h : ∀ a ∈ f.leaves, ask' (change a) = ask a) :
    (f.map change).evaluate ask' = f.evaluate ask := by
  induction f using inductionOnFirstPart with
  | leaf a => exact h a (List.mem_singleton_self a)
  | empty settling => rw [map_ofParts, List.map_nil, evaluate_empty, evaluate_empty]
  | more settling f fs ihf ihfs =>
    rw [leaves_more, List.forall_mem_append] at h
    rw [map_ofParts, List.map_cons, evaluate_more, evaluate_more, ihf h.1, ← map_ofParts,
      ihfs h.2]

theorem evaluate_relabel (g : q → r) :
    f.evaluate (fun a => (ask a).relabel g) = (f.evaluate ask).relabel g := by
  induction f using inductionOnFirstPart with
  | leaf a => rfl
  | empty settling =>
    rw [evaluate_empty, evaluate_empty]
    rfl
  | more settling f fs ihf ihfs =>
    rw [evaluate_more, evaluate_more, relabel_andThen, ihf, ihfs]
    refine congrArg (andThen _) (funext fun b => ?_)
    split <;> rfl

end RecordQuery.Formula
