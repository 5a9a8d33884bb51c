import RecordQuery.Order
import RecordQuery.Proofs.Inquiry
import RecordQuery.Proofs.Value.Order

namespace RecordQuery

variable {a b c : Record} {o o' : Ordering} {ks : List SortKey} {k : SortKey}

namespace Direction

theorem apply_apply (d : Direction) (o : Ordering) : d.apply (d.apply o) = o := by
  cases d with
  | asc => rfl
  | desc => exact Ordering.swap_swap

theorem apply_eq_iff {d : Direction} : d.apply o = o' ↔ o = d.apply o' := by
  constructor
  · rintro rfl
    exact (d.apply_apply o).symm
  · rintro rfl
    exact d.apply_apply o'

end Direction

theorem Coherent.directed {α : Type} {r : α → α → Ordering → Prop} (h : Coherent r)
    (d : Direction) : Coherent fun a b o => r a b (d.apply o) := by
  cases d with
  | asc => exact h
  | desc => exact h.reverse

namespace SortKey

theorem map_eq_ok {f : Ordering → Ordering} {outcome : Except Error Ordering} :
    outcome.map f = .ok o ↔ ∃ p, outcome = .ok p ∧ f p = o := by
  cases outcome with
  | error e => simp [Except.map]
  | ok p => simp [Except.map]

theorem compare_eq_ok :
    (k.compare a b).outcome = .ok o ↔
      ∃ x y, a.get? k.attr = some x ∧ b.get? k.attr = some y ∧
        x.order? y = some (k.direction.apply o) := by
  constructor
  · intro h
    obtain ⟨x, hx, h⟩ := Inquiry.andThen_eq_ok.1 h
    obtain ⟨y, hy, h⟩ := Inquiry.andThen_eq_ok.1 h
    obtain ⟨p, hp, he⟩ := map_eq_ok.1 h
    refine ⟨x, y, Record.resolve_eq_ok.1 hx, Record.resolve_eq_ok.1 hy, ?_⟩
    rw [Value.compare_eq_ok.1 hp, Direction.apply_eq_iff.1 he]
  · rintro ⟨x, y, hx, hy, h⟩
    refine Inquiry.andThen_eq_ok.2 ⟨x, Record.resolve_eq_ok.2 hx, ?_⟩
    refine Inquiry.andThen_eq_ok.2 ⟨y, Record.resolve_eq_ok.2 hy, ?_⟩
    exact map_eq_ok.2 ⟨_, Value.compare_eq_ok.2 h, k.direction.apply_apply o⟩

theorem compare_coherent (k : SortKey) :
    Coherent fun a b o => (k.compare a b).outcome = .ok o := by
  have h := (Value.order_coherent.directed k.direction).comap fun a : Record => a.get? k.attr
  simpa only [compare_eq_ok] using h

end SortKey

namespace OrderBy

theorem compareBy_cons_eq_ok :
    (compareBy (k :: ks) a b).outcome = .ok o ↔
      (k.compare a b).outcome = .ok o ∧ o ≠ .eq ∨
        (k.compare a b).outcome = .ok .eq ∧ (compareBy ks a b).outcome = .ok o := by
  rw [compareBy, Inquiry.andThen_eq_ok]
  constructor
  · rintro ⟨p, hp, h⟩
    split at h
    · next he =>
      subst he
      exact .inr ⟨hp, h⟩
    · next hne =>
      cases h
      exact .inl ⟨hp, hne⟩
  · rintro (⟨h, ho⟩ | ⟨h, h'⟩)
    · refine ⟨o, h, ?_⟩
      rw [if_neg ho]
      rfl
    · refine ⟨.eq, h, ?_⟩
      rwa [if_pos rfl]

/-- The keys are compared one after the other, and so only as far as they find two records equal. -/
theorem compareBy_coherent (ks : List SortKey) :
    Coherent fun a b o => (compareBy ks a b).outcome = .ok o := by
  induction ks with
  | nil =>
    refine ⟨?_, ?_⟩
    · rintro a b o ⟨⟩
      rfl
    · rintro a b c o o' ⟨⟩ ⟨⟩ - -
      rfl
  | cons k ks ih =>
    simpa only [compareBy_cons_eq_ok] using (k.compare_coherent).lex ih

theorem compare_coherent (order : OrderBy) :
    Coherent fun a b o => (order.compare a b).outcome = .ok o :=
  compareBy_coherent order.keys

/-- The two orders of a pair compare oppositely. Where two comparisons in a row do not turn around,
the ends compare as well and do not turn around either. -/
theorem compare_swap_and_trans (order : OrderBy) :
    (∀ a b o, (order.compare a b).outcome = .ok o ↔ (order.compare b a).outcome = .ok o.swap) ∧
      ∀ a b c o o', (order.compare a b).outcome = .ok o → (order.compare b c).outcome = .ok o' →
        o ≠ .gt → o' ≠ .gt → ∃ o'', (order.compare a c).outcome = .ok o'' ∧ o'' ≠ .gt ∧
          (o = .lt ∨ o' = .lt → o'' = .lt) := by
  have h := order.compare_coherent
  refine ⟨fun a b o => h.swap_iff, ?_⟩
  intro a b c o o' hab hbc ho ho'
  refine ⟨o.then o', h.trans hab hbc ho ho', ?_, ?_⟩
  · cases o <;> cases o' <;> trivial
  · rintro (rfl | rfl)
    · rfl
    · cases o <;> trivial

def ranked (n : Int) : Record :=
  ⟨"row", fun name => if name = "rank" then some (.timestamp ⟨n⟩) else none, fun _ => none⟩

def byRankAndNote : OrderBy :=
  ⟨[⟨⟨"rank", .field⟩, .desc⟩, ⟨⟨"note", .accessor⟩, .asc⟩]⟩

theorem compare_ranked_trans :
    ∃ o, (byRankAndNote.compare (ranked 3) (ranked 1)).outcome = .ok o ∧ o ≠ .gt ∧
      (Ordering.lt = .lt ∨ Ordering.lt = .lt → o = .lt) := by
  have h : (byRankAndNote.compare (ranked 3) (ranked 2)).outcome = .ok .lt := rfl
  have h' : (byRankAndNote.compare (ranked 2) (ranked 1)).outcome = .ok .lt := rfl
  exact (compare_swap_and_trans byRankAndNote).2 _ _ _ _ _ h h' nofun nofun

end OrderBy

end RecordQuery
