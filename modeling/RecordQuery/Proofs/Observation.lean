import RecordQuery.Order
import RecordQuery.Proofs.Condition.Validation
import RecordQuery.Proofs.Formula.Consultation

namespace RecordQuery

open Inquiry

variable {t t' a a' b b' : Record}

theorem Record.resolve_congr {attr : Attribute} (hname : t'.name = t.name)
    (h : t'.get? attr = t.get? attr) : t'.resolve attr = t.resolve attr := by
  rw [resolve, resolve, h, hname]

namespace Comparison

variable {c : Comparison}

theorem holdsOn_congr (hname : t'.name = t.name) (h : t'.get? c.attr = t.get? c.attr) :
    c.holdsOn t' = c.holdsOn t := by
  rw [holdsOn, holdsOn, Record.resolve_congr hname h, hname]

theorem holdsOn_eq_ask (c : Comparison) (t : Record) :
    c.holdsOn t = (Inquiry.ask c (c.holdsOn t).outcome).relabel (·.attr) := by
  have hasked : (c.holdsOn t).asked = [c.attr] := by
    rw [holdsOn, andThen]
    split <;> rfl
  change _ = Inquiry.mk [c.attr] (c.holdsOn t).outcome
  rw [← hasked]

end Comparison

namespace Condition

variable {f : Condition}

/-- The look-ups are those of the comparisons that evaluation asks for. -/
theorem holdsOn_eq_consult (f : Condition) (t : Record) :
    f.holdsOn t = (f.consult fun c => (c.holdsOn t).outcome).relabel (·.attr) := by
  have hleaves : f.holdsOn t =
      f.evaluate fun c => (Inquiry.ask c (c.holdsOn t).outcome).relabel (·.attr) :=
    congrArg f.evaluate (funext fun c => c.holdsOn_eq_ask t)
  exact hleaves.trans (Formula.evaluate_relabel _)

theorem asked_sublist (f : Condition) (t : Record) :
    (f.holdsOn t).asked.Sublist (f.leaves.map (·.attr)) := by
  rw [holdsOn_eq_consult]
  exact (Formula.consult_asked_sublist f).map _

theorem mem_references_of_asked {attr : Attribute} (h : attr ∈ (f.holdsOn t).asked) :
    attr ∈ f.references := by
  rw [mem_references]
  exact List.mem_map.1 ((asked_sublist f t).subset h)

/-- Records that agree on what was looked up on one of them are not told apart. -/
theorem holdsOn_congr (hname : t'.name = t.name)
    (h : ∀ attr ∈ (f.holdsOn t).asked, t'.get? attr = t.get? attr) :
    f.holdsOn t' = f.holdsOn t := by
  rw [holdsOn_eq_consult] at h
  rw [holdsOn_eq_consult f t', holdsOn_eq_consult f t]
  refine congrArg (relabel Comparison.attr) (Formula.consult_congr fun c hc => ?_)
  rw [Comparison.holdsOn_congr hname (h c.attr (List.mem_map_of_mem hc))]

end Condition

def Side.of (a b : Record) : Side → Record
  | left => a
  | right => b

def SameNames (a b a' b' : Record) : Prop :=
  ∀ side : Side, (side.of a' b').name = (side.of a b).name

def SameValue (a b a' b' : Record) (x : Side × Attribute) : Prop :=
  (x.1.of a' b').get? x.2 = (x.1.of a b).get? x.2

theorem SortKey.compare_congr {k : SortKey} (hnames : SameNames a b a' b')
    (h : ∀ x ∈ (k.compare a b).asked, SameValue a b a' b' x) :
    k.compare a' b' = k.compare a b := by
  have hleft : a'.resolve k.attr = a.resolve k.attr :=
    Record.resolve_congr (hnames .left)
      (h (.left, k.attr) (mem_asked_andThen.2 (.inl List.mem_cons_self)))
  refine andThen_congr (congrArg (relabel _) hleft) fun x hx => ?_
  -- The right record is looked up only now that the left one has given a value.
  have hright : b'.resolve k.attr = b.resolve k.attr := by
    refine Record.resolve_congr (hnames .right) (h (.right, k.attr) ?_)
    exact mem_asked_andThen.2 (.inr ⟨x, hx, mem_asked_andThen.2 (.inl List.mem_cons_self)⟩)
  refine andThen_congr (congrArg (relabel _) hright) fun y _ => ?_
  rw [show a'.name = a.name from hnames .left, show b'.name = b.name from hnames .right]

theorem SortKey.eq_of_asked {k : SortKey} {x : Side × Attribute} (h : x ∈ (k.compare a b).asked) :
    x.2 = k.attr := by
  rcases mem_asked_andThen.1 h with hleft | ⟨v, -, hrest⟩
  · rw [List.mem_singleton.1 hleft]
  · rcases mem_asked_andThen.1 hrest with hright | ⟨w, -, hnone⟩
    · rw [List.mem_singleton.1 hright]
    · cases hnone

namespace OrderBy

variable {ks : List SortKey} {x : Side × Attribute}

theorem exists_key_of_asked (h : x ∈ (compareBy ks a b).asked) : ∃ k ∈ ks, x.2 = k.attr := by
  induction ks with
  | nil => cases h
  | cons k ks ih =>
    rcases mem_asked_andThen.1 h with hfirst | ⟨o, -, hmore⟩
    · exact ⟨k, List.mem_cons_self, SortKey.eq_of_asked hfirst⟩
    · split at hmore
      · obtain ⟨l, hl, hx⟩ := ih hmore
        exact ⟨l, List.mem_cons_of_mem k hl, hx⟩
      · cases hmore

theorem compareBy_congr (hnames : SameNames a b a' b')
    (h : ∀ x ∈ (compareBy ks a b).asked, SameValue a b a' b' x) :
    compareBy ks a' b' = compareBy ks a b := by
  induction ks with
  | nil => rfl
  | cons k ks ih =>
    have hfirst := SortKey.compare_congr hnames fun x hx => h x (mem_asked_andThen.2 (.inl hx))
    refine andThen_congr hfirst fun o ho => ?_
    by_cases heq : o = .eq
    · rw [if_pos heq, if_pos heq]
      refine ih fun x hx => h x (mem_asked_andThen.2 (.inr ⟨o, ho, ?_⟩))
      rwa [if_pos heq]
    · rw [if_neg heq, if_neg heq]

end OrderBy

section References

variable {f : Condition} {other : String → Option Value}

theorem Condition.holdsOn_congr_references (hname : t'.name = t.name)
    (h : ∀ attr ∈ f.references, t'.get? attr = t.get? attr) : f.holdsOn t' = f.holdsOn t :=
  holdsOn_congr hname fun attr ha => h attr (mem_references_of_asked ha)

/-- What the accessors of a record return matters where they are called, and not for a field that has
the same name. -/
theorem Condition.holdsOn_with_accessor
    (h : ∀ name, ⟨name, .accessor⟩ ∈ f.references → other name = t.accessor name) :
    f.holdsOn { t with accessor := other } = f.holdsOn t := by
  refine holdsOn_congr_references rfl ?_
  rintro ⟨name, lookup⟩ hmem
  cases lookup with
  | field => rfl
  | accessor => exact h name hmem

theorem Condition.holdsOn_with_field
    (h : ∀ name, ⟨name, .field⟩ ∈ f.references → other name = t.field name) :
    f.holdsOn { t with field := other } = f.holdsOn t := by
  refine holdsOn_congr_references rfl ?_
  rintro ⟨name, lookup⟩ hmem
  cases lookup with
  | field => exact h name hmem
  | accessor => rfl

theorem OrderBy.compare_congr_keys {order : OrderBy} (ha : a'.name = a.name) (hb : b'.name = b.name)
    (h : ∀ k ∈ order.keys, a'.get? k.attr = a.get? k.attr ∧ b'.get? k.attr = b.get? k.attr) :
    order.compare a' b' = order.compare a b := by
  refine compareBy_congr ?_ ?_
  · rintro (_ | _)
    · exact ha
    · exact hb
  · rintro ⟨side, attr⟩ hx
    obtain ⟨k, hk, rfl⟩ := exists_key_of_asked hx
    cases side with
    | left => exact (h k hk).1
    | right => exact (h k hk).2

/-- The look-ups of a condition are those of its comparisons, from left to right, so all of them are
references. Records of one name that have the same values for the references give the same result
after the same look-ups. In particular the fields count for no more than the names that are looked
up as fields, and the accessors for no more than those that are called. Likewise an ordering looks
up its keys alone, and pairs of records with the same values for the keys compare the same. -/
theorem observes_references :
    (∀ (f : Condition) (t : Record),
      (f.holdsOn t).asked.Sublist (f.leaves.map (·.attr)) ∧
      (∀ attr ∈ (f.holdsOn t).asked, attr ∈ f.references) ∧
      (∀ t' : Record, t'.name = t.name → (∀ attr ∈ f.references, t'.get? attr = t.get? attr) →
        f.holdsOn t' = f.holdsOn t) ∧
      (∀ other : String → Option Value,
        (∀ name, ⟨name, .accessor⟩ ∈ f.references → other name = t.accessor name) →
          f.holdsOn { t with accessor := other } = f.holdsOn t) ∧
      ∀ other : String → Option Value,
        (∀ name, ⟨name, .field⟩ ∈ f.references → other name = t.field name) →
          f.holdsOn { t with field := other } = f.holdsOn t) ∧
    ∀ (order : OrderBy) (a b : Record),
      (∀ x ∈ (order.compare a b).asked, ∃ k ∈ order.keys, x.2 = k.attr) ∧
      ∀ a' b' : Record, a'.name = a.name → b'.name = b.name →
        (∀ k ∈ order.keys, a'.get? k.attr = a.get? k.attr ∧ b'.get? k.attr = b.get? k.attr) →
          order.compare a' b' = order.compare a b := by
  refine ⟨fun f t => ⟨?asked, ?referenced, ?same, ?accessors, ?fields⟩,
    fun order a b => ⟨?keys, ?sameKeys⟩⟩
  case asked => exact Condition.asked_sublist f t
  case referenced => exact fun attr => Condition.mem_references_of_asked
  case same => exact fun t' => Condition.holdsOn_congr_references
  case accessors => exact fun other => Condition.holdsOn_with_accessor
  case fields => exact fun other => Condition.holdsOn_with_field
  case keys => exact fun x => OrderBy.exists_key_of_asked
  case sameKeys => exact fun a' b' => OrderBy.compare_congr_keys

def shelf : Record :=
  ⟨"Shelf", fun name => if name = "width" then some (.text "wide") else none,
    fun name => if name = "boards" then some (.text "two") else none⟩

def relabelledShelf : Record :=
  ⟨"Shelf", fun name => some (.text (if name = "width" then "wide" else "none")),
    fun name => some (.text (if name = "boards" then "two" else "narrow"))⟩

def wideWithTwoBoards : Condition :=
  .all [.leaf ⟨⟨"width", .field⟩, .equal, .text "wide"⟩,
    .leaf ⟨⟨"boards", .accessor⟩, .equal, .text "two"⟩]

theorem observes_references_shelf :
    shelf.get? ⟨"width", .accessor⟩ ≠ relabelledShelf.get? ⟨"width", .accessor⟩ ∧
      (∀ attr ∈ wideWithTwoBoards.references, relabelledShelf.get? attr = shelf.get? attr) ∧
      wideWithTwoBoards.holdsOn relabelledShelf = wideWithTwoBoards.holdsOn shelf ∧
      (OrderBy.mk [⟨⟨"width", .field⟩, .desc⟩]).compare relabelledShelf relabelledShelf =
        (OrderBy.mk [⟨⟨"width", .field⟩, .desc⟩]).compare shelf shelf := by
  have hsame : ∀ attr ∈ wideWithTwoBoards.references,
      relabelledShelf.get? attr = shelf.get? attr := by
    rw [Condition.references_eq]
    decide
  obtain ⟨-, -, hcondition, -⟩ := observes_references.1 wideWithTwoBoards shelf
  obtain ⟨-, horder⟩ := observes_references.2 ⟨[⟨⟨"width", .field⟩, .desc⟩]⟩ shelf shelf
  refine ⟨by decide, hsame, hcondition relabelledShelf rfl hsame, horder _ _ rfl rfl ?_⟩
  decide

end References

end RecordQuery
