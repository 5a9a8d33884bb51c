import RecordQuery.Proofs.Order.Reading

namespace RecordQuery.OrderBy

open Lexeme

variable {calls : Bool} {cs : List Char} {k : SortKey} {ks : List SortKey} {order : OrderBy}

section Writing

theorem sortKeyForm_text (h : Writable calls k.attr) : SortKeyForm calls k.text.toList k := by
  obtain ⟨a, d⟩ := k
  cases d with
  | asc => exact .bare h.attributeForm
  | desc =>
    have he : (SortKey.text ⟨a, .desc⟩).toList = a.text.toList ++ [' '] ++ "desc".toList := by
      simp [SortKey.text, Direction.name]
    rw [he]
    exact .directed .desc h.attributeForm isBreak_space rfl

theorem keysForm_text (h : ∀ j ∈ k :: ks, Writable calls j.attr) :
    KeysForm calls (String.intercalate ", " ((k :: ks).map SortKey.text)).toList (k :: ks) := by
  induction ks generalizing k with
  | nil =>
    rw [List.map_singleton, String.intercalate_singleton]
    exact .one (sortKeyForm_text (h k List.mem_cons_self))
  | cons j ks ih =>
    have hmore := ih fun i hi => h i (List.mem_cons_of_mem k hi)
    have hkeys := KeysForm.more (sortKeyForm_text (h k List.mem_cons_self)) .nil isBreak_space.2
      hmore
    simpa [String.intercalate_cons_cons] using hkeys

theorem form_text (hne : order.keys ≠ []) (hw : ∀ k ∈ order.keys, Writable calls k.attr) :
    Form calls order.text.toList order := by
  obtain ⟨keys⟩ := order
  obtain ⟨k, ks, rfl⟩ := List.exists_cons_of_ne_nil hne
  have he : (OrderBy.text ⟨k :: ks⟩).toList = "order".toList ++ [' '] ++ "by".toList ++ [' '] ++
      (String.intercalate ", " ((k :: ks).map SortKey.text)).toList := by
    simp [OrderBy.text]
  rw [he]
  exact .intro rfl isBreak_space rfl isBreak_space (keysForm_text hw)

end Writing

section Reading

theorem SortKeyForm.writable (h : SortKeyForm calls cs k) : Writable calls k.attr := by
  cases h with
  | bare ha => exact ha.writable
  | directed _ ha _ _ => exact ha.writable

theorem KeysForm.writable (h : KeysForm calls cs ks) : ∀ k ∈ ks, Writable calls k.attr := by
  induction h with
  | one hk => exact List.forall_mem_singleton.2 hk.writable
  | more hk _ _ _ ih => exact List.forall_mem_cons.2 ⟨hk.writable, ih⟩

theorem Form.writable (h : Form calls cs order) : ∀ k ∈ order.keys, Writable calls k.attr := by
  obtain ⟨-, -, -, -, hks⟩ := h
  exact hks.writable

/-- Exactly the orderings that some text denotes are read back from their own text. -/
theorem parse_text_iff :
    parse order.text calls = .ok order ↔
      order.keys ≠ [] ∧ ∀ k ∈ order.keys, Writable calls k.attr := by
  constructor
  · intro h
    have hform := parse_eq_ok.1 h
    exact ⟨hform.keys_ne_nil, hform.writable⟩
  · rintro ⟨hne, hw⟩
    exact parse_eq_ok.2 (form_text hne hw)

/-- An ordering with at least one key, all of them named by identifiers, is read back from its text.
So is what was read from any text, and it is then written as before. -/
theorem parse_text_round_trip :
    (∀ order : OrderBy, order.keys ≠ [] → (∀ k ∈ order.keys, IsIdentifier k.attr.name) →
        parse order.text true = .ok order) ∧
      ∀ text calls order, parse text calls = .ok order →
        ∃ again, parse order.text true = .ok again ∧ again = order ∧ again.text = order.text := by
  refine ⟨?_, ?_⟩
  · intro order hne hn
    exact parse_text_iff.2 ⟨hne, fun k hk => writable_true.2 (hn k hk)⟩
  · intro text calls order h
    have hform := parse_eq_ok.1 h
    have hw : ∀ k ∈ order.keys, Writable true k.attr := fun k hk =>
      writable_true.2 (hform.writable k hk).named
    exact ⟨order, parse_text_iff.2 ⟨hform.keys_ne_nil, hw⟩, rfl, rfl⟩

def byItsWords : OrderBy :=
  ⟨[⟨⟨"desc", .field⟩, .desc⟩, ⟨⟨"order", .accessor⟩, .asc⟩, ⟨⟨"asc", .field⟩, .asc⟩]⟩

theorem parse_text_byItsWords :
    parse "order by desc desc, order(), asc" true = .ok byItsWords ∧
      ∃ again, parse byItsWords.text true = .ok again ∧ again = byItsWords ∧
        again.text = byItsWords.text := by
  have hdesc : IsIdentifier "desc" := ⟨'d', ['e', 's', 'c'], rfl, rfl, rfl⟩
  have horder : IsIdentifier "order" := ⟨'o', ['r', 'd', 'e', 'r'], rfl, rfl, rfl⟩
  have hasc : IsIdentifier "asc" := ⟨'a', ['s', 'c'], rfl, rfl, rfl⟩
  have hread : parse byItsWords.text true = .ok byItsWords :=
    parse_text_round_trip.1 byItsWords (List.cons_ne_nil _ _)
      (List.forall_mem_cons.2 ⟨hdesc, List.forall_mem_cons.2 ⟨horder,
        List.forall_mem_singleton.2 hasc⟩⟩)
  exact ⟨hread, parse_text_round_trip.2 _ _ _ hread⟩

end Reading

end RecordQuery.OrderBy
