import RecordQuery.Proofs.Condition.Recompilation
import RecordQuery.Proofs.Formula.Consultation
import RecordQuery.Proofs.Formula.Numbering

namespace RecordQuery

open Lexeme

namespace Formula

variable {α q ε : Type} {ask : α → Inquiry q ε Bool} {f g : Formula α}

/-- The alternatives of which a formula is the disjunction. -/
def disjuncts : Formula α → List (Formula α)
  | any fs => fs
  | f => [f]

theorem evaluate_disjuncts (f : Formula α) : (any f.disjuncts).evaluate ask = f.evaluate ask := by
  cases f with
  | any fs => rfl
  | leaf a => exact evaluate_one true
  | all fs => exact evaluate_one true

theorem evaluate_any_append (f g : Formula α) :
    (any (f.disjuncts ++ g.disjuncts)).evaluate ask = (f.evaluate ask).andThen fun b =>
      if b then pure true else g.evaluate ask := by
  rw [← evaluate_disjuncts f, ← evaluate_disjuncts g]
  exact evaluate_append true

theorem leavesOfParts_disjuncts (f : Formula α) : leavesOfParts f.disjuncts = f.leaves := by
  cases f with
  | any fs => rfl
  | leaf a => rfl
  | all fs => exact List.append_nil _

theorem numberPartsFrom_append (fs gs : List (Formula α)) (start : Nat) :
    numberPartsFrom start (fs ++ gs) =
      numberPartsFrom start fs ++ numberPartsFrom (start + (leavesOfParts fs).length) gs := by
  induction fs generalizing start with
  | nil => rfl
  | cons f fs ih =>
    rw [List.cons_append, numberPartsFrom, numberPartsFrom, ih, leavesOfParts, List.length_append,
      Nat.add_assoc, List.cons_append]

theorem numberPartsFrom_disjuncts (f : Formula α) (start : Nat) :
    numberPartsFrom start f.disjuncts = (f.numberFrom start).disjuncts := by
  cases f with
  | _ => rfl

/-- The places of the second formula come after those of the first. -/
theorem consult_any_append (f g : Formula α) (answer : α × Nat → Except ε Bool) :
    (any (f.disjuncts ++ g.disjuncts)).numbered.consult answer =
      (f.numbered.consult answer).andThen fun b =>
        if b then pure true else (g.numberFrom f.leaves.length).consult answer := by
  rw [numbered, numberFrom, numberPartsFrom_append, numberPartsFrom_disjuncts,
    numberPartsFrom_disjuncts, leavesOfParts_disjuncts, Nat.zero_add]
  exact evaluate_any_append _ _

end Formula

namespace Condition

open Formula

variable {α : Type} {calls : Bool} {cs ds before w after : List Char} {word : String}
  {form : List Char → α → Prop} {as bs : List α} {f g : Condition} {fs : List Condition}

theorem JoinedForm.append (h : JoinedForm word form cs as) (hb : IsBreak before)
    (hw : Spells word w) (ha : IsBreak after) (h' : JoinedForm word form ds bs) :
    JoinedForm word form (cs ++ (before ++ w ++ after) ++ ds) (as ++ bs) := by
  induction h with
  | one hf =>
    have hmore := JoinedForm.more hf hb hw ha h'
    simpa only [List.append_assoc, List.cons_append, List.nil_append] using hmore
  | more hf hb' hw' ha' _ ih =>
    have hmore := JoinedForm.more hf hb' hw' ha' ih
    simpa only [List.append_assoc, List.cons_append] using hmore

theorem disjuncts_of_isOperand (h : f.isOperand = true) : f.disjuncts = [f] := by
  cases f with
  | leaf c => rfl
  | all fs => rfl
  | any fs => cases h

theorem DisjunctionForm.disjuncts (h : DisjunctionForm calls cs f) :
    JoinedForm "or" (OperandForm calls) cs f.disjuncts := by
  cases h with
  | one h =>
    obtain ⟨-, -, ho⟩ := h.shape
    rw [disjuncts_of_isOperand ho]
    exact .one h
  | more h => exact h

theorem JoinedForm.disjunction (h : JoinedForm "or" (OperandForm calls) cs fs)
    (hfs : 2 ≤ fs.length) : DisjunctionForm calls cs (.any fs) := by
  obtain ⟨f, g, rest, rfl⟩ := exists_two_parts hfs
  exact .more h

theorem JoinedForm.length_pos (h : JoinedForm word form cs as) : 0 < as.length := by
  cases h with
  | one => exact Nat.one_pos
  | more => exact Nat.succ_pos _

theorem Form.bare_of_head (h : Form calls cs f) (hp : cs.head? ≠ some '(') :
    DisjunctionForm calls cs f := by
  cases h with
  | bare h => exact h
  | parenthesized h =>
    cases h with
    | intro => exact (hp rfl).elim

/-- Texts joined by "or" are read as the disjunction of the alternatives of the first and those of
the second, in this order and none of them a disjunction itself. It asks for what the first asks for
and, if that is false, for what the second asks for, and gives the same answer or failure. -/
theorem parse_joined_by_or {s t : String} (hs : parse s calls = .ok f) (ht : parse t calls = .ok g)
    (hsp : s.toList.head? ≠ some '(') (htp : t.toList.head? ≠ some '(') (hb : IsBreak before)
    (hw : Spells "or" w) (ha : IsBreak after) :
    parse (s ++ String.ofList (before ++ w ++ after) ++ t) calls =
        .ok (.any (f.disjuncts ++ g.disjuncts)) ∧
      (∀ h ∈ f.disjuncts ++ g.disjuncts, h.isOperand = true) ∧
      (∀ (q ε : Type) (ask : Comparison → Inquiry q ε Bool),
        (Formula.any (f.disjuncts ++ g.disjuncts)).evaluate ask =
          (f.evaluate ask).andThen fun b => if b then pure true else g.evaluate ask) ∧
      ∀ (ε : Type) (answer : Comparison × Nat → Except ε Bool),
        (Formula.any (f.disjuncts ++ g.disjuncts)).numbered.consult answer =
          (f.numbered.consult answer).andThen fun b =>
            if b then pure true else (g.numberFrom f.leaves.length).consult answer := by
  have hf := ((parse_eq_ok.1 hs).bare_of_head hsp).disjuncts
  have hg := ((parse_eq_ok.1 ht).bare_of_head htp).disjuncts
  have hjoined := hf.append hb hw ha hg
  refine ⟨?_, ?_, fun q ε ask => evaluate_any_append f g, fun ε => consult_any_append f g⟩
  · have hlength : 2 ≤ (f.disjuncts ++ g.disjuncts).length := by
      have hpos := hf.length_pos
      have hpos' := hg.length_pos
      rw [List.length_append]
      omega
    refine parse_eq_ok.2 (.bare ?_)
    rw [String.toList_append, String.toList_append, String.toList_ofList]
    exact hjoined.disjunction hlength
  · exact fun h hh => (hjoined.forall_mem OperandForm.shape h hh).2.2

/-- The first text ends in a number and holds a joining word in quotes. -/
theorem parse_joined_by_or_sizes :
    ∃ f g, parse "note='this or that' or size()>3" true = .ok f ∧
      parse "width<1.5" true = .ok g ∧
      parse "note='this or that' or size()>3  oR width<1.5" true =
        .ok (.any (f.disjuncts ++ g.disjuncts)) ∧
      (f.disjuncts ++ g.disjuncts).length = 3 := by
  have hnamed : AttributeForm true "note".toList ⟨"note", .field⟩ :=
    .field ⟨'n', ['o', 't', 'e'], rfl, rfl, rfl⟩
  have hnote : ComparisonForm true "note='this or that'".toList
      ⟨⟨"note", .field⟩, .equal, .text "this or that"⟩ :=
    .intro .equal hnamed .nil .nil (.text "this or that")
  have hwide : AttributeForm true "width".toList ⟨"width", .field⟩ :=
    .field ⟨'w', ['i', 'd', 't', 'h'], rfl, rfl, rfl⟩
  have hone : IsDigits ['1'] := ⟨List.cons_ne_nil _ _, List.all_eq_true.1 rfl⟩
  have hfive : IsDigits ['5'] := ⟨List.cons_ne_nil _ _, List.all_eq_true.1 rfl⟩
  have hwidth : ComparisonForm true "width<1.5".toList ⟨⟨"width", .field⟩, .less, .number "1.5"⟩ :=
    .intro .less hwide .nil .nil (.fraction hone hfive)
  have hor : Spells "or" "or".toList := rfl
  have hword : Spells "or" "oR".toList := rfl
  have hbefore : IsBreak [' ', ' '] := ⟨List.cons_ne_nil _ _, by simp [IsGap]⟩
  have hform : Form true "note='this or that' or size()>3".toList _ :=
    .bare (.more (.more (OperandForm.of_comparison hnote) isBreak_space hor isBreak_space
      (.one (OperandForm.of_comparison comparisonForm_size))))
  have hs := parse_eq_ok.2 hform
  have ht := parse_eq_ok.2 (.of_comparison hwidth)
  obtain ⟨hread, -⟩ := parse_joined_by_or hs ht (by decide) (by decide) hbefore hword isBreak_space
  exact ⟨_, _, hs, ht, hread, rfl⟩

end Condition

end RecordQuery
