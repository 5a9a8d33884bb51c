import RecordQuery.Proofs.Condition.Reading
import RecordQuery.Proofs.Formula
import RecordQuery.Proofs.Order.Reading

namespace RecordQuery

open Lexeme

variable {α : Type} {calls : Bool} {cs : List Char} {word : String}

def Attribute.Admitted (calls : Bool) (a : Attribute) : Prop :=
  a.lookup = .accessor → calls = true

theorem Attribute.admitted_false {a : Attribute} : a.Admitted false ↔ a.lookup ≠ .accessor := by
  simp [Admitted]

theorem Lexeme.attributeForm_iff {a : Attribute} :
    AttributeForm calls cs a ↔ AttributeForm true cs a ∧ a.Admitted calls := by
  constructor
  · intro h
    cases h with
    | field hn => exact ⟨.field hn, nofun⟩
    | accessor on hn ho hi => exact ⟨.accessor rfl hn ho hi, fun _ => on⟩
  · rintro ⟨h, ha⟩
    cases h with
    | field hn => exact .field hn
    | accessor _ hn ho hi => exact .accessor (ha rfl) hn ho hi

namespace Condition

open Formula

variable {f : Condition} {form form' : List Char → α → Prop} {p : α → Prop}

def Admitted (calls : Bool) (f : Condition) : Prop :=
  ∀ c ∈ f.leaves, c.attr.Admitted calls

theorem comparisonForm_iff (cs : List Char) (c : Comparison) :
    ComparisonForm calls cs c ↔ ComparisonForm true cs c ∧ c.attr.Admitted calls := by
  constructor
  · rintro ⟨op, ha, hg, hg', hl⟩
    obtain ⟨ha, hadm⟩ := attributeForm_iff.1 ha
    exact ⟨.intro op ha hg hg' hl, hadm⟩
  · rintro ⟨⟨op, ha, hg, hg', hl⟩, hadm⟩
    exact .intro op (attributeForm_iff.2 ⟨ha, hadm⟩) hg hg' hl

theorem joinedForm_iff {as : List α} (h : ∀ cs a, form cs a ↔ form' cs a ∧ p a) :
    JoinedForm word form cs as ↔ JoinedForm word form' cs as ∧ ∀ a ∈ as, p a := by
  constructor
  · intro hj
    induction hj with
    | one ha =>
      obtain ⟨ha, hp⟩ := (h _ _).1 ha
      exact ⟨.one ha, List.forall_mem_singleton.2 hp⟩
    | more ha hb hw hb' _ ih =>
      obtain ⟨ha, hp⟩ := (h _ _).1 ha
      exact ⟨.more ha hb hw hb' ih.1, List.forall_mem_cons.2 ⟨hp, ih.2⟩⟩
  · rintro ⟨hj, hp⟩
    induction hj with
    | one ha => exact .one ((h _ _).2 ⟨ha, List.forall_mem_singleton.1 hp⟩)
    | more ha hb hw hb' _ ih =>
      obtain ⟨hpa, hp⟩ := List.forall_mem_cons.1 hp
      exact .more ((h _ _).2 ⟨ha, hpa⟩) hb hw hb' (ih hp)

theorem parenthesizedForm_iff {a : α} (h : ∀ cs a, form cs a ↔ form' cs a ∧ p a) :
    ParenthesizedForm form cs a ↔ ParenthesizedForm form' cs a ∧ p a := by
  constructor
  · rintro ⟨hg, ha, hg'⟩
    obtain ⟨ha, hp⟩ := (h _ _).1 ha
    exact ⟨.intro hg ha hg', hp⟩
  · rintro ⟨⟨hg, ha, hg'⟩, hp⟩
    exact .intro hg ((h _ _).2 ⟨ha, hp⟩) hg'

theorem admitted_leaf {c : Comparison} : Admitted calls (.leaf c) ↔ c.attr.Admitted calls :=
  List.forall_mem_singleton

theorem admitted_group {build : List Condition → Condition} {fs : List Condition}
    (hb : ∀ fs, (build fs).leaves = leavesOfParts fs) :
    Admitted calls (group build f fs) ↔ ∀ g ∈ f :: fs, g.Admitted calls := by
  have hleaves : (group build f fs).leaves = leavesOfParts (f :: fs) := by
    cases fs with
    | nil => exact (List.append_nil _).symm
    | cons g fs => exact hb _
  rw [Admitted, hleaves, leavesOfParts_eq_flatMap, List.forall_mem_flatMap]
  rfl

theorem conjunctionForm_iff (cs : List Char) (f : Condition) :
    ConjunctionForm calls cs f ↔ ConjunctionForm true cs f ∧ f.Admitted calls := by
  have hadm (c : Comparison) (rest : List Comparison) :
      Admitted calls (group .all (.leaf c) (rest.map .leaf)) ↔
        ∀ d ∈ c :: rest, d.attr.Admitted calls := by
    rw [admitted_group fun _ => rfl, ← List.map_cons, List.forall_mem_map]
    exact forall₂_congr fun _ _ => admitted_leaf
  constructor
  · intro h
    obtain ⟨c, rest, hj, rfl⟩ := h.exists_joined
    obtain ⟨hj, hp⟩ := (joinedForm_iff comparisonForm_iff).1 hj
    exact ⟨hj.conjunctionForm, (hadm c rest).2 hp⟩
  · rintro ⟨h, hp⟩
    obtain ⟨c, rest, hj, rfl⟩ := h.exists_joined
    apply JoinedForm.conjunctionForm
    exact (joinedForm_iff comparisonForm_iff).2 ⟨hj, (hadm c rest).1 hp⟩

theorem operandForm_iff (cs : List Char) (f : Condition) :
    OperandForm calls cs f ↔ OperandForm true cs f ∧ f.Admitted calls := by
  constructor
  · rintro (h | h)
    · obtain ⟨h, hp⟩ := (conjunctionForm_iff _ _).1 h
      exact ⟨.bare h, hp⟩
    · obtain ⟨h, hp⟩ := (parenthesizedForm_iff conjunctionForm_iff).1 h
      exact ⟨.parenthesized h, hp⟩
  · rintro ⟨h | h, hp⟩
    · exact .bare ((conjunctionForm_iff _ _).2 ⟨h, hp⟩)
    · exact .parenthesized ((parenthesizedForm_iff conjunctionForm_iff).2 ⟨h, hp⟩)

theorem disjunctionForm_iff (cs : List Char) (f : Condition) :
    DisjunctionForm calls cs f ↔ DisjunctionForm true cs f ∧ f.Admitted calls := by
  constructor
  · intro h
    obtain ⟨g, more, hj, rfl⟩ := h.exists_joined
    obtain ⟨hj, hp⟩ := (joinedForm_iff operandForm_iff).1 hj
    exact ⟨hj.disjunctionForm, (admitted_group fun _ => rfl).2 hp⟩
  · rintro ⟨h, hp⟩
    obtain ⟨g, more, hj, rfl⟩ := h.exists_joined
    have hparts := (admitted_group fun _ => rfl).1 hp
    apply JoinedForm.disjunctionForm
    exact (joinedForm_iff operandForm_iff).2 ⟨hj, hparts⟩

theorem form_iff : Form calls cs f ↔ Form true cs f ∧ f.Admitted calls := by
  constructor
  · rintro (h | h)
    · obtain ⟨h, hp⟩ := (disjunctionForm_iff _ _).1 h
      exact ⟨.bare h, hp⟩
    · obtain ⟨h, hp⟩ := (parenthesizedForm_iff disjunctionForm_iff).1 h
      exact ⟨.parenthesized h, hp⟩
  · rintro ⟨h | h, hp⟩
    · exact .bare ((disjunctionForm_iff _ _).2 ⟨h, hp⟩)
    · exact .parenthesized ((parenthesizedForm_iff disjunctionForm_iff).2 ⟨h, hp⟩)

theorem parse_iff {text : String} :
    parse text calls = .ok f ↔ parse text true = .ok f ∧ f.Admitted calls := by
  rw [parse_eq_ok, parse_eq_ok, form_iff]

end Condition

namespace OrderBy

variable {k : SortKey} {ks : List SortKey} {order : OrderBy}

def Admitted (calls : Bool) (order : OrderBy) : Prop :=
  ∀ k ∈ order.keys, k.attr.Admitted calls

theorem sortKeyForm_iff :
    SortKeyForm calls cs k ↔ SortKeyForm true cs k ∧ k.attr.Admitted calls := by
  constructor
  · rintro (ha | ⟨d, ha, hs, hw⟩)
    · obtain ⟨ha, hadm⟩ := attributeForm_iff.1 ha
      exact ⟨.bare ha, hadm⟩
    · obtain ⟨ha, hadm⟩ := attributeForm_iff.1 ha
      exact ⟨.directed d ha hs hw, hadm⟩
  · rintro ⟨ha | ⟨d, ha, hs, hw⟩, hadm⟩
    · exact .bare (attributeForm_iff.2 ⟨ha, hadm⟩)
    · exact .directed d (attributeForm_iff.2 ⟨ha, hadm⟩) hs hw

theorem keysForm_iff :
    KeysForm calls cs ks ↔ KeysForm true cs ks ∧ ∀ k ∈ ks, k.attr.Admitted calls := by
  constructor
  · intro h
    induction h with
    | one hk =>
      obtain ⟨hk, hadm⟩ := sortKeyForm_iff.1 hk
      exact ⟨.one hk, List.forall_mem_singleton.2 hadm⟩
    | more hk hb ha _ ih =>
      obtain ⟨hk, hadm⟩ := sortKeyForm_iff.1 hk
      exact ⟨.more hk hb ha ih.1, List.forall_mem_cons.2 ⟨hadm, ih.2⟩⟩
  · rintro ⟨h, hadm⟩
    induction h with
    | one hk => exact .one (sortKeyForm_iff.2 ⟨hk, hadm _ List.mem_cons_self⟩)
    | more hk hb ha _ ih =>
      obtain ⟨hfirst, hadm⟩ := List.forall_mem_cons.1 hadm
      exact .more (sortKeyForm_iff.2 ⟨hk, hfirst⟩) hb ha (ih hadm)

theorem form_iff : Form calls cs order ↔ Form true cs order ∧ order.Admitted calls := by
  constructor
  · rintro ⟨ho, hs, hb, hs', hks⟩
    obtain ⟨hks, hadm⟩ := keysForm_iff.1 hks
    exact ⟨.intro ho hs hb hs' hks, hadm⟩
  · rintro ⟨⟨ho, hs, hb, hs', hks⟩, hadm⟩
    exact .intro ho hs hb hs' (keysForm_iff.2 ⟨hks, hadm⟩)

theorem parse_iff {text : String} :
    parse text calls = .ok order ↔ parse text true = .ok order ∧ order.Admitted calls := by
  rw [parse_eq_ok, parse_eq_ok, form_iff]

end OrderBy

/-- What is read without calls is read alike with them. What is read with calls is read without them
if and only if it mentions no accessor. Both hold of conditions and of orderings. -/
theorem parse_accessor_calls (text : String) :
    (∀ f, Condition.parse text false = .ok f → Condition.parse text true = .ok f) ∧
      (∀ f, Condition.parse text true = .ok f →
        ((∃ g, Condition.parse text false = .ok g) ↔
          ∀ c ∈ f.leaves, c.attr.lookup ≠ .accessor)) ∧
      (∀ order, OrderBy.parse text false = .ok order → OrderBy.parse text true = .ok order) ∧
      ∀ order, OrderBy.parse text true = .ok order →
        ((∃ order', OrderBy.parse text false = .ok order') ↔
          ∀ k ∈ order.keys, k.attr.lookup ≠ .accessor) := by
  refine ⟨fun f h => (Condition.parse_iff.1 h).1, ?_, fun order h => (OrderBy.parse_iff.1 h).1, ?_⟩
  · intro f hf
    have hadm : f.Admitted false ↔ ∀ c ∈ f.leaves, c.attr.lookup ≠ .accessor :=
      forall₂_congr fun _ _ => Attribute.admitted_false
    rw [← hadm]
    constructor
    · rintro ⟨g, hg⟩
      obtain ⟨hg, hadm⟩ := Condition.parse_iff.1 hg
      cases hf.symm.trans hg
      exact hadm
    · exact fun h => ⟨f, Condition.parse_iff.2 ⟨hf, h⟩⟩
  · intro order ho
    have hadm : order.Admitted false ↔ ∀ k ∈ order.keys, k.attr.lookup ≠ .accessor :=
      forall₂_congr fun _ _ => Attribute.admitted_false
    rw [← hadm]
    constructor
    · rintro ⟨order', ho'⟩
      obtain ⟨ho', hadm⟩ := OrderBy.parse_iff.1 ho'
      cases ho.symm.trans ho'
      exact hadm
    · exact fun h => ⟨order, OrderBy.parse_iff.2 ⟨ho, h⟩⟩

end RecordQuery
