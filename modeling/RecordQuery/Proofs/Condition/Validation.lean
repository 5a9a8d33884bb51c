import RecordQuery.Proofs.Condition.Failures
import RecordQuery.Proofs.FirstOccurrence
import RecordQuery.Proofs.Sample

namespace RecordQuery

variable {d : Description} {t : Record} {a : Attribute}

/-- How an attribute is reported by a description: it has none of that name and lookup, or the
declared type is none that conditions compare. -/
inductive Description.Reports (d : Description) (a : Attribute) : Error → Prop where
  | missing (h : d.get? a = none) : Reports d a (.unknownIdentifier a d.name)
  | unsupported {type : ValueType} (h : d.get? a = some type)
      (hs : type = .timestamp ∨ ∃ name, type = .foreign name) :
      Reports d a (.unsupportedType a.name ⟨type, d.name⟩ none)

/-- No comparison of the attribute succeeds on the record, whatever its operator and literal. -/
def Record.Incomparable (t : Record) (a : Attribute) : Prop :=
  ∀ op l, ∃ e, ((⟨a, op, l⟩ : Comparison).holdsOn t).outcome = .error e

/-- The failures of a comparison whose attribute has a value: the literal denotes nothing of the
value's type, containment is asked of what is no text, or an order of a truth value. -/
inductive Comparison.Unsuited (c : Comparison) (t : Record) : Error → Prop where
  | literal {v : Value} (hv : t.get? c.attr = some v) :
      Unsuited c t (.invalidLiteral c.attr.name c.literal.content v.type)
  | containment {v : Value} (hv : t.get? c.attr = some v)
      (ho : c.operator = .contains ∨ c.operator = .lacks) (hne : v.type ≠ .text) :
      Unsuited c t (.unsupportedType c.attr.name ⟨v.type, t.name⟩ (some c.operator))
  | truth {v : Value} (hv : t.get? c.attr = some v) (hb : v.type = .bool)
      (ho : c.operator ≠ .equal) :
      Unsuited c t (.unsupportedType c.attr.name ⟨v.type, t.name⟩ (some c.operator))

namespace Record

theorem incomparable_of_lacking (h : t.get? a = none) : t.Incomparable a :=
  fun _ _ => ⟨.unknownIdentifier a t.name, Comparison.holdsOn_eq_error.2 (.inl ⟨h, rfl⟩)⟩

theorem incomparable_iff {v : Value} (hv : t.get? a = some v) :
    t.Incomparable a ↔ v.type.supportsConditions = false := by
  constructor
  · intro h
    rw [← Bool.not_eq_true]
    intro hs
    -- Every type that conditions compare takes equality and has a value written `0`.
    obtain ⟨b, hb⟩ := Comparison.exists_test_eq_ok a t.name hs
    obtain ⟨e, he⟩ := h .equal (.text "0")
    rcases Comparison.holdsOn_eq_error.1 he with ⟨hn, -⟩ | ⟨w, hw, hew⟩
    · exact nomatch hn.symm.trans hv
    · cases hw.symm.trans hv
      exact nomatch hb.symm.trans hew
  · intro hs op l
    have ht : Comparison.test ⟨a, op, l⟩ t.name v =
        .error (.unsupportedType a.name ⟨v.type, t.name⟩ (some op)) :=
      Comparison.test_of_not_takes (ValueType.takes_eq_false hs op)
    exact ⟨_, Comparison.holdsOn_eq_error.2 (.inr ⟨v, hv, ht⟩)⟩

end Record

namespace Description.Describes

theorem get?_eq_none (h : d.Describes t) : d.get? a = none ↔ t.get? a = none := by
  rw [h.2, Option.map_eq_none_iff]

theorem get?_eq_some {v : Value} (h : d.Describes t) (hv : t.get? a = some v) :
    d.get? a = some v.type := by
  rw [h.2, hv]
  rfl

end Description.Describes

theorem ValueType.supportsConditions_eq_false {type : ValueType} :
    type.supportsConditions = false ↔ type = .timestamp ∨ ∃ name, type = .foreign name := by
  cases type <;> simp [supportsConditions]

/-- A description reports what no record of its kind lets be compared. -/
theorem Description.reports_iff (h : d.Describes t) :
    (∃ e, d.Reports a e) ↔ t.Incomparable a := by
  cases hv : t.get? a with
  | none =>
    exact ⟨fun _ => Record.incomparable_of_lacking hv,
      fun _ => ⟨_, .missing (h.get?_eq_none.2 hv)⟩⟩
  | some v =>
    have hd := h.get?_eq_some hv
    rw [Record.incomparable_iff hv, ValueType.supportsConditions_eq_false]
    constructor
    · rintro ⟨e, hnone | ⟨hsome, hs⟩⟩
      · cases hnone.symm.trans hd
      · cases hsome.symm.trans hd
        exact hs
    · exact fun hs => ⟨_, .unsupported hd hs⟩

namespace Condition

variable {f : Condition} {e : Error}

section References

theorem comparisons_eq_leaves (f : Condition) : f.comparisons = f.leaves :=
  Formula.walk_singleton f

theorem references_eq (f : Condition) : f.references = (f.leaves.map (·.attr)).eraseDups := by
  rw [references, comparisons_eq_leaves]

theorem mem_references : a ∈ f.references ↔ ∃ c ∈ f.leaves, c.attr = a := by
  rw [references_eq, List.mem_eraseDups, List.mem_map]

theorem problem?_eq_some : problem? d a = some e ↔ d.Reports a e := by
  constructor
  · intro h
    rw [problem?] at h
    split at h
    · next hd =>
      cases h
      exact .missing hd
    · next type hd =>
      obtain ⟨hs, h⟩ := Option.ite_none_left_eq_some.1 h
      cases h
      exact .unsupported hd (ValueType.supportsConditions_eq_false.1 (eq_false_of_ne_true hs))
  · intro h
    cases h with
    | missing hd => rw [problem?, hd]
    | unsupported hd hs =>
      rw [problem?, hd]
      exact if_neg (ne_true_of_eq_false (ValueType.supportsConditions_eq_false.2 hs))

theorem mem_validate : e ∈ f.validate d ↔ ∃ c ∈ f.leaves, d.Reports c.attr e := by
  rw [validate, List.mem_filterMap]
  constructor
  · rintro ⟨a, ha, he⟩
    obtain ⟨c, hc, rfl⟩ := mem_references.1 ha
    exact ⟨c, hc, problem?_eq_some.1 he⟩
  · rintro ⟨c, hc, he⟩
    exact ⟨c.attr, mem_references.2 ⟨c, hc, rfl⟩, problem?_eq_some.2 he⟩

end References

section Agreement

theorem unknownIdentifier_mem_validate {name : String} (h : d.Describes t)
    (he : (f.holdsOn t).outcome = .error (.unknownIdentifier a name)) :
    .unknownIdentifier a name ∈ f.validate d := by
  obtain ⟨c, hc, hce⟩ := holdsOn_eq_error he
  rcases Comparison.failure_cases hce with ⟨hn, heq⟩ | ⟨v, -, heq | ⟨-, heq⟩⟩
  · cases heq
    rw [← h.1]
    exact mem_validate.2 ⟨c, hc, .missing (h.get?_eq_none.2 hn)⟩
  · cases heq
  · cases heq

/-- Of a condition that was found valid only a literal or an operator can be wrong. -/
theorem unsuited_of_validate_eq_nil (h : d.Describes t) (hvalid : f.validate d = [])
    (he : (f.holdsOn t).outcome = .error e) : ∃ c ∈ f.leaves, c.Unsuited t e := by
  obtain ⟨c, hc, hce⟩ := holdsOn_eq_error he
  have hfine : ¬t.Incomparable c.attr := by
    rw [← Description.reports_iff h]
    rintro ⟨e', he'⟩
    have hmem := mem_validate.2 ⟨c, hc, he'⟩
    rw [hvalid] at hmem
    cases hmem
  refine ⟨c, hc, ?_⟩
  rcases Comparison.failure_cases hce with ⟨hn, -⟩ | ⟨v, hv, rfl | ⟨ht, rfl⟩⟩
  · exact (hfine (Record.incomparable_of_lacking hn)).elim
  · exact .literal hv
  · have hs : v.type.supportsConditions = true :=
      eq_true_of_ne_false (mt (Record.incomparable_iff hv).2 hfine)
    rcases ValueType.refused_of_supportsConditions hs ht with ⟨ho, hne⟩ | ⟨hb, ho⟩
    · exact .containment hv ho hne
    · exact .truth hv hb ho

theorem reported_iff (h : d.Describes t) {c : Comparison} (hc : c ∈ f.leaves) :
    (∃ e ∈ f.validate d, d.Reports c.attr e) ↔ t.Incomparable c.attr := by
  rw [← Description.reports_iff h]
  constructor
  · rintro ⟨e, -, he⟩
    exact ⟨e, he⟩
  · rintro ⟨e, he⟩
    exact ⟨e, mem_validate.2 ⟨c, hc, he⟩, he⟩

/-- The errors of a validation belong to the references at fault, in the order of these. -/
theorem validate_eq_failing (h : d.Describes t) (f : Condition) :
    ∃ failing : List Attribute,
      List.Forall₂ (fun a e => d.Reports a e) failing (f.validate d) ∧
      (∀ a, a ∈ failing ↔ (∃ c ∈ f.leaves, c.attr = a) ∧ t.Incomparable a) ∧
      failing.Pairwise fun a b =>
        (f.leaves.map (·.attr)).idxOf a < (f.leaves.map (·.attr)).idxOf b := by
  have hfound := FirstOccurrence.forall₂_filterMap (problem? d) f.references
  refine ⟨_, hfound.imp fun _ _ => problem?_eq_some.1, ?_, ?_⟩
  · intro a
    rw [List.mem_filter, mem_references, ← Description.reports_iff h, Option.isSome_iff_exists]
    simp only [problem?_eq_some]
  · rw [references_eq]
    exact (FirstOccurrence.eraseDups_pairwise _).filter _

/-- A description that agrees with a record foresees how conditions are matched on it. If validation
finds nothing, only a literal or an operator can be wrong. It reports a leaf just when no comparison
of its attribute can succeed. Every unknown identifier that matching meets is among its errors, of
which there is one for each distinct reference at fault, in the order of their first occurrences.
The descriptions that are derived do agree with the records. -/
theorem validate_agrees :
    (∀ (f : Condition) (d : Description) (t : Record), d.Describes t →
        (f.validate d = [] → ∀ e, (f.holdsOn t).outcome = .error e →
          (∃ c ∈ f.leaves, c.Unsuited t e) ∧ ∀ a name, e ≠ .unknownIdentifier a name) ∧
        (∀ c ∈ f.leaves, (∃ e ∈ f.validate d, d.Reports c.attr e) ↔ t.Incomparable c.attr) ∧
        (∀ a name, (f.holdsOn t).outcome = .error (.unknownIdentifier a name) →
          .unknownIdentifier a name ∈ f.validate d) ∧
        ∃ failing : List Attribute,
          List.Forall₂ (fun a e => d.Reports a e) failing (f.validate d) ∧
          (∀ a, a ∈ failing ↔ (∃ c ∈ f.leaves, c.attr = a) ∧ t.Incomparable a) ∧
          failing.Pairwise fun a b =>
            (f.leaves.map (·.attr)).idxOf a < (f.leaves.map (·.attr)).idxOf b) ∧
      (∀ (d : Derive.Derivation) (types : Derive.Typing) (s : Derive.Instance), s.Fits types d →
        (d.description types).Describes (d.record types s)) ∧
      (Pet.declaration.DerivesTo Pet.derivation ∧ ∀ p : Pet, Pet.description.Describes p.record) ∧
      Label.declaration.DerivesTo Label.derivation ∧
        ∀ l : Label, Label.description.Describes l.record := by
  refine ⟨fun f d t h => ⟨?_, ?_, ?_, ?_⟩, fun d types s h => h.describes,
    ⟨Pet.derivesTo, fun p => p.held_fits.describes⟩,
    Label.derivesTo, fun l => l.held_fits.describes⟩
  · intro hvalid e he
    obtain ⟨c, hc, hu⟩ := unsuited_of_validate_eq_nil h hvalid he
    refine ⟨⟨c, hc, hu⟩, ?_⟩
    rintro a name rfl
    cases hu
  · exact fun c hc => reported_iff h hc
  · exact fun a name he => unknownIdentifier_mem_validate h he
  · exact validate_eq_failing h f

def dog : Pet :=
  ⟨"Dog", "Brown", 4, 0x41480000, true, ⟨1700000000000⟩, 42, 4, "DOG", "D"⟩

/-- A point in time and a photo cannot be compared, and legs are left out of the structure. -/
def partlyKnown : Condition :=
  .any [.all [.leaf ⟨⟨"age", .field⟩, .greater, .number "3"⟩,
      .leaf ⟨⟨"leg_count", .accessor⟩, .equal, .number "4"⟩,
      .leaf ⟨⟨"adopted", .field⟩, .greater, .number "1"⟩],
    .leaf ⟨⟨"photo", .field⟩, .equal, .text "x"⟩,
    .leaf ⟨⟨"legs", .field⟩, .equal, .number "2"⟩]

theorem validate_partlyKnown :
    partlyKnown.validate Pet.description =
        [.unsupportedType "adopted" ⟨.timestamp, "Pet"⟩ none,
          .unsupportedType "photo" ⟨.foreign "alloc::vec::Vec<u8>", "Pet"⟩ none,
          .unknownIdentifier ⟨"legs", .field⟩ "Pet"] ∧
      dog.record.Incomparable ⟨"adopted", .field⟩ ∧ dog.record.Incomparable ⟨"photo", .field⟩ ∧
      dog.record.Incomparable ⟨"legs", .field⟩ ∧
      ¬dog.record.Incomparable ⟨"leg_count", .accessor⟩ := by
  have hlist : partlyKnown.validate Pet.description =
      [.unsupportedType "adopted" ⟨.timestamp, "Pet"⟩ none,
        .unsupportedType "photo" ⟨.foreign "alloc::vec::Vec<u8>", "Pet"⟩ none,
        .unknownIdentifier ⟨"legs", .field⟩ "Pet"] := by
    rw [validate, references_eq]
    rfl
  obtain ⟨-, hreport, -, -⟩ :=
    validate_agrees.1 partlyKnown Pet.description dog.record (validate_agrees.2.2.1.2 dog)
  rw [hlist] at hreport
  refine ⟨hlist, ?_, ?_, ?_, ?_⟩
  · apply (hreport ⟨⟨"adopted", .field⟩, .greater, .number "1"⟩ (by decide)).1
    exact ⟨_, .head _, .unsupported rfl (.inl rfl)⟩
  · apply (hreport ⟨⟨"photo", .field⟩, .equal, .text "x"⟩ (by decide)).1
    exact ⟨_, .tail _ (.head _), .unsupported rfl (.inr ⟨_, rfl⟩)⟩
  · apply (hreport ⟨⟨"legs", .field⟩, .equal, .number "2"⟩ (by decide)).1
    exact ⟨_, .tail _ (.tail _ (.head _)), .missing rfl⟩
  · intro h
    have hleg := (hreport ⟨⟨"leg_count", .accessor⟩, .equal, .number "4"⟩ (by decide)).2 h
    obtain ⟨e, -, hnone | ⟨hsome, hs⟩⟩ := hleg
    · cases hnone
    · cases hsome
      rcases hs with hs | ⟨name, hs⟩ <;> cases hs

end Agreement

end Condition

end RecordQuery
