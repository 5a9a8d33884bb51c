import Mathlib.Data.List.Nodup
import RecordQuery.Proofs.Formula.Evaluation

namespace RecordQuery.Formula

variable {α q ε : Type} {settling : Bool} {f : Formula α} {fs : List (Formula α)}

mutual

def numberFrom (start : Nat) : Formula α → Formula (α × Nat)
  | leaf a => leaf (a, start)
  | all fs => all (numberPartsFrom start fs)
  | any fs => any (numberPartsFrom start fs)

def numberPartsFrom (start : Nat) : List (Formula α) → List (Formula (α × Nat))
  | [] => []
  | f :: fs => numberFrom start f :: numberPartsFrom (start + f.leaves.length) fs

end

def numbered (f : Formula α) : Formula (α × Nat) :=
  f.numberFrom 0

theorem numberFrom_ofParts (start : Nat) :
    (ofParts settling fs).numberFrom start = ofParts settling (numberPartsFrom start fs) := by
  cases settling <;> rfl

theorem leaves_numberFrom (f : Formula α) (start : Nat) :
    (f.numberFrom start).leaves = f.leaves.zipIdx start := by
  induction f using inductionOnFirstPart generalizing start with
  | leaf a => rfl
  | empty settling =>
    rw [numberFrom_ofParts, numberPartsFrom, leaves_empty, leaves_empty]
    rfl
  | more settling f fs ihf ihfs =>
    rw [numberFrom_ofParts, numberPartsFrom, leaves_more, leaves_more, List.zipIdx_append,
      ← numberFrom_ofParts, ihf, ihfs]

theorem leaves_numbered (f : Formula α) : f.numbered.leaves = f.leaves.zipIdx :=
  leaves_numberFrom f 0

theorem nodup_leaves_numbered (f : Formula α) : f.numbered.leaves.Nodup := by
  rw [leaves_numbered]
  apply List.Nodup.of_map Prod.snd
  rw [List.zipIdx_map_snd]
  exact List.nodup_range'

theorem map_numberFrom (f : Formula α) (start : Nat) : (f.numberFrom start).map Prod.fst = f := by
  induction f using inductionOnFirstPart generalizing start with
  | leaf a => rfl
  | empty settling =>
    rw [numberFrom_ofParts, map_ofParts]
    rfl
  | more settling f fs ihf ihfs =>
    have hfs := ihfs (start + f.leaves.length)
    rw [numberFrom_ofParts, map_ofParts, ofParts_inj] at hfs
    rw [numberFrom_ofParts, map_ofParts, numberPartsFrom, List.map_cons, ihf, hfs]

/-- A resolver that disregards the places asks for the formula without them. -/
theorem evaluate_numberFrom (f : Formula α) (start : Nat) (ask : α → Inquiry q ε Bool) :
    (f.numberFrom start).evaluate (fun p => ask p.1) = f.evaluate ask := by
  have hplain : ((f.numberFrom start).map Prod.fst).evaluate ask =
      (f.numberFrom start).evaluate fun p => ask p.1 :=
    evaluate_map Prod.fst fun _ _ => rfl
  rw [← hplain, map_numberFrom]

theorem consult_numbered (answer : α → Except ε Bool) (f : Formula α) :
    f.consult answer = (f.numbered.consult fun p => answer p.1).relabel Prod.fst := by
  have hrelabel : f.numbered.evaluate (fun p => (Inquiry.ask p (answer p.1)).relabel Prod.fst) =
      (f.numbered.consult fun p => answer p.1).relabel Prod.fst :=
    evaluate_relabel Prod.fst
  rw [consult, ← evaluate_numberFrom f 0]
  exact hrelabel

theorem Populated.numberFrom (h : f.Populated) (start : Nat) : (f.numberFrom start).Populated := by
  induction f using inductionOnFirstPart generalizing start with
  | leaf a => trivial
  | empty settling => exact (populated_empty h).elim
  | more settling f fs ihf ihfs =>
    rw [numberFrom_ofParts, numberPartsFrom]
    apply Populated.more (ihf h.first start)
    cases fs with
    | nil => exact .inl rfl
    | cons g gs =>
      have hrest := ihfs (h.rest (List.cons_ne_nil g gs)) (start + f.leaves.length)
      rw [numberFrom_ofParts] at hrest
      exact .inr hrest

end RecordQuery.Formula
