import RecordQuery.Condition
import RecordQuery.Error
import RecordQuery.Proofs.Formula.Consultation
import RecordQuery.Proofs.Formula.Numbering

namespace RecordQuery.Condition

open Formula

variable {ε : Type}

theorem leaves_numbered (f : Condition) : f.numbered.leaves = f.comparisons.zipIdx := by
  rw [Formula.leaves_numbered, comparisons, walk_singleton]

/-- Where no comparison fails, evaluation gives the plain reading. It asks for comparisons from left
to right, for each at most once; a failure is the answer to the last one and there is none before;
and the answers to those that were asked for determine the whole run. Answers that disregard the
places are those to the condition itself. -/
theorem consult_in_order (f : Condition) (answer : Comparison × Nat → Except ε Bool) :
    (∀ value : Comparison × Nat → Bool,
      (∀ p ∈ f.comparisons.zipIdx, answer p = .ok (value p)) →
        (f.numbered.consult answer).outcome = .ok (f.numbered.holds value)) ∧
    (f.numbered.consult answer).asked.Sublist f.comparisons.zipIdx ∧
    (∀ e, (f.numbered.consult answer).outcome = .error e ↔
      ∃ p, (f.numbered.consult answer).asked.getLast? = some p ∧ answer p = .error e) ∧
    (∀ p ∈ (f.numbered.consult answer).asked.dropLast, ∃ b, answer p = .ok b) ∧
    (∀ answer' : Comparison × Nat → Except ε Bool,
      (∀ p ∈ (f.numbered.consult answer).asked, answer' p = answer p) →
        f.numbered.consult answer' = f.numbered.consult answer) ∧
    ∀ resolve : Comparison → Except ε Bool,
      f.consult resolve = (f.numbered.consult fun p => resolve p.1).relabel Prod.fst := by
  have hfollows : Inquiry.Follows answer (f.numbered.consult answer) := consult_follows f.numbered
  rw [← leaves_numbered]
  refine ⟨?plain, ?asked, ?failure, ?earlier, ?determined, ?placeless⟩
  case plain => exact fun value h => consult_eq_holds h
  case asked => exact consult_asked_sublist f.numbered
  case failure => exact fun e => hfollows.outcome_eq_error_iff
  case earlier => exact hfollows.of_mem_dropLast
  case determined => exact fun answer' h => consult_congr h
  case placeless => exact fun resolve => consult_numbered resolve f

/-- In a condition without empty groups, whenever a comparison is asked for, the answers received so
far can be completed to make the condition true and to make it false. After the last answer every
completion gives the value returned. -/
theorem consult_only_open (f : Condition) (hf : f.Populated)
    (answer : Comparison × Nat → Except ε Bool) :
    (∀ k < (f.numbered.consult answer).asked.length, ∀ b : Bool,
      ∃ value : Comparison × Nat → Bool,
        (∀ p ∈ (f.numbered.consult answer).asked.take k, answer p = .ok (value p)) ∧
          f.numbered.holds value = b) ∧
    ((∀ p ∈ (f.numbered.consult answer).asked, ∃ b, answer p = .ok b) →
      ∃ b, (f.numbered.consult answer).outcome = .ok b ∧
        ∀ value : Comparison × Nat → Bool,
          (∀ p ∈ (f.numbered.consult answer).asked, answer p = .ok (value p)) →
            f.numbered.holds value = b) := by
  constructor
  · intro k hk b
    exact exists_holds_eq (hf.numberFrom 0) (nodup_leaves_numbered f) hk b
  · intro hanswered
    obtain ⟨b, hb⟩ := (consult_follows f.numbered).exists_outcome_eq_ok hanswered
    exact ⟨b, hb, fun value h => holds_eq_of_consult hb h⟩

def echo : Condition :=
  let again : Condition := .leaf ⟨⟨"a", .field⟩, .equal, .text "1"⟩
  .any [again, .all [.leaf ⟨⟨"b", .field⟩, .equal, .text "2"⟩, again]]

def lateYes : Comparison × Nat → Except Error Bool :=
  fun p => .ok (p.2 != 0)

/-- The first two answers leave the value open; with the third the condition holds. -/
theorem consult_only_open_echo :
    let a : Comparison := ⟨⟨"a", .field⟩, .equal, .text "1"⟩
    let b : Comparison := ⟨⟨"b", .field⟩, .equal, .text "2"⟩
    echo.Populated ∧ (echo.numbered.consult lateYes).asked = [(a, 0), (b, 1), (a, 2)] ∧
    (∀ truth : Bool, ∃ value : Comparison × Nat → Bool,
      value (a, 0) = false ∧ value (b, 1) = true ∧ echo.numbered.holds value = truth) ∧
    (echo.numbered.consult lateYes).outcome = .ok true ∧
    ∀ value : Comparison × Nat → Bool,
      value (a, 0) = false → value (b, 1) = true → value (a, 2) = true →
        echo.numbered.holds value = true := by
  intro a b
  have hf : echo.Populated := ⟨nofun, trivial, ⟨nofun, trivial, trivial, trivial⟩, trivial⟩
  have hasked : (echo.numbered.consult lateYes).asked = [(a, 0), (b, 1), (a, 2)] := rfl
  obtain ⟨hopen, hsettled⟩ := consult_only_open echo hf lateYes
  rw [hasked] at hopen hsettled
  refine ⟨hf, hasked, ?_, rfl, ?_⟩
  · intro truth
    obtain ⟨value, hvalue, htruth⟩ := hopen 2 (by decide) truth
    have hfirst := hvalue (a, 0) (.head _)
    have hsecond := hvalue (b, 1) (.tail _ (.head _))
    exact ⟨value, (Except.ok.inj hfirst).symm, (Except.ok.inj hsecond).symm, htruth⟩
  · intro value h₀ h₁ h₂
    obtain ⟨truth, houtcome, hall⟩ := hsettled fun p _ => ⟨_, rfl⟩
    cases houtcome
    apply hall value
    simp [lateYes, h₀, h₁, h₂]

end RecordQuery.Condition
