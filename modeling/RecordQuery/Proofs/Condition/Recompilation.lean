import RecordQuery.Condition.Matching
import RecordQuery.Proofs.Condition.RoundTrip
import RecordQuery.Proofs.Formula.Evaluation

namespace RecordQuery

open Lexeme

namespace Condition

open Formula

variable {calls : Bool} {cs : List Char} {f : Condition} {fs : List Condition}

section Groups

theorem named_leaf {c : Comparison} (h : IsIdentifier c.attr.name) : Named (.leaf c) := by
  intro d hd
  rw [List.mem_singleton.1 hd]
  exact h

theorem named_all (h : ∀ f ∈ fs, f.Named) : Named (.all fs) := by
  intro c hc
  obtain ⟨f, hf, hc⟩ := mem_leavesOfParts.1 hc
  exact h f hf c hc

theorem named_any (h : ∀ f ∈ fs, f.Named) : Named (.any fs) := by
  intro c hc
  obtain ⟨f, hf, hc⟩ := mem_leavesOfParts.1 hc
  exact h f hf c hc

end Groups

section Denotations

theorem ComparisonForm.isIdentifier {c : Comparison} (h : ComparisonForm calls cs c) :
    IsIdentifier c.attr.name := by
  cases h with
  | intro _ ha _ _ _ => exact ha.writable.named

theorem JoinedForm.forall_mem {α : Type} {word : String} {form : List Char → α → Prop}
    {p : α → Prop} {as : List α} (h : JoinedForm word form cs as)
    (hp : ∀ {cs a}, form cs a → p a) : ∀ a ∈ as, p a := by
  induction h with
  | one ha => exact List.forall_mem_singleton.2 (hp ha)
  | more ha _ _ _ _ ih => exact List.forall_mem_cons.2 ⟨hp ha, ih⟩

theorem ConjunctionForm.shape (h : ConjunctionForm calls cs f) :
    f.Grouped ∧ f.Named ∧ f.isOperand = true := by
  cases h with
  | one h => exact ⟨trivial, named_leaf h.isIdentifier, rfl⟩
  | @more c d rest hj =>
    have hleaf : ∀ g ∈ (c :: d :: rest).map Formula.leaf, ∃ c : Comparison,
        IsIdentifier c.attr.name ∧ g = .leaf c := by
      intro g hg
      obtain ⟨c, hc, rfl⟩ := List.mem_map.1 hg
      exact ⟨c, hj.forall_mem ComparisonForm.isIdentifier c hc, rfl⟩
    refine ⟨⟨by simp, groupedParts_iff.2 ?_⟩, named_all ?_, List.all_eq_true.2 ?_⟩
    · intro g hg
      obtain ⟨c, -, rfl⟩ := hleaf g hg
      trivial
    · intro g hg
      obtain ⟨c, hc, rfl⟩ := hleaf g hg
      exact named_leaf hc
    · intro g hg
      obtain ⟨c, -, rfl⟩ := hleaf g hg
      rfl

theorem OperandForm.shape (h : OperandForm calls cs f) :
    f.Grouped ∧ f.Named ∧ f.isOperand = true := by
  cases h with
  | bare h => exact h.shape
  | parenthesized h =>
    obtain ⟨-, h, -⟩ := h
    exact h.shape

theorem isTwoLevel_of_isOperand (h : f.isOperand = true) : f.isTwoLevel = true := by
  cases f with
  | leaf c => rfl
  | all fs => exact h
  | any fs => cases h

theorem DisjunctionForm.shape (h : DisjunctionForm calls cs f) :
    f.Grouped ∧ f.Named ∧ f.isTwoLevel = true := by
  cases h with
  | one h =>
    obtain ⟨hg, hn, ho⟩ := h.shape
    exact ⟨hg, hn, isTwoLevel_of_isOperand ho⟩
  | more hj =>
    have hparts := hj.forall_mem OperandForm.shape
    refine ⟨⟨by simp, groupedParts_iff.2 ?_⟩, named_any ?_, List.all_eq_true.2 ?_⟩
    · exact fun k hk => (hparts k hk).1
    · exact fun k hk => (hparts k hk).2.1
    · exact fun k hk => (hparts k hk).2.2

/-- What a text denotes can be rendered and read back. -/
theorem Form.shape (h : Form calls cs f) : f.Grouped ∧ f.Named ∧ f.isTwoLevel = true := by
  cases h with
  | bare h => exact h.shape
  | parenthesized h =>
    obtain ⟨-, h, -⟩ := h
    exact h.shape

end Denotations

section Meanings

/-- No test tells a bare number from the quoted text of its digits, nor does a failure. -/
theorem holdsOn_asQuoted (f : Condition) (t : Record) : f.asQuoted.holdsOn t = f.holdsOn t := by
  apply evaluate_map Comparison.asQuoted
  intro c _
  rfl

/-- The rendering of what was read is read in turn, and the condition so found asks every record for
the same attributes in the same order and gives the same answer or failure. -/
theorem parse_render_holdsOn (text : String) (calls : Bool) (f : Condition)
    (h : parse text calls = .ok f) :
    ∃ g, parse f.render true = .ok g ∧ ∀ t : Record, g.holdsOn t = f.holdsOn t := by
  obtain ⟨hg, hn, htwo⟩ := (parse_eq_ok.1 h).shape
  exact ⟨f.asQuoted, (parse_render hg hn).2 ⟨htwo, rfl⟩, holdsOn_asQuoted f⟩

/-- A condition with a bare number, which its rendering shows as a quoted text. -/
theorem parse_render_holdsOn_price :
    ∃ f g : Condition, parse "price<10 and size()='3'" true = .ok f ∧
      parse f.render true = .ok g ∧ ∀ t : Record, g.holdsOn t = f.holdsOn t := by
  have hfield : AttributeForm true "price".toList ⟨"price", .field⟩ :=
    .field ⟨'p', ['r', 'i', 'c', 'e'], rfl, rfl, rfl⟩
  have hten : LiteralForm ['1', '0'] (.number "10") :=
    .whole ⟨List.cons_ne_nil _ _, List.all_eq_true.1 rfl⟩
  have hprice : ComparisonForm true "price<10".toList ⟨⟨"price", .field⟩, .less, .number "10"⟩ :=
    .intro .less hfield .nil .nil hten
  have hsize : ComparisonForm true "size()='3'".toList ⟨⟨"size", .accessor⟩, .equal, .text "3"⟩ :=
    .intro .equal attributeForm_size .nil .nil (.text "3")
  have hand : Spells "and" "and".toList := rfl
  have hform : Form true "price<10 and size()='3'".toList _ :=
    .bare (.one (.bare (.more
      (.more hprice isBreak_space hand isBreak_space (.one hsize)))))
  have hread := parse_eq_ok.2 hform
  obtain ⟨g, hg, ht⟩ := parse_render_holdsOn _ true _ hread
  exact ⟨_, g, hread, hg, ht⟩

end Meanings

end Condition

end RecordQuery
