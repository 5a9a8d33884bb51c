import RecordQuery.Pipeline
import RecordQuery.Proofs.Filter.Cursor
import RecordQuery.Proofs.Order.Sorting

namespace RecordQuery

variable {q α β : Type} {order : OrderBy} {record : α → Record} {items sorted : List α}

namespace OrderBy

open StableSort

section Standing

variable {g : β → α} {before : β → β → Prop} {qs zs : List β}

/-- Elements that stand in a list of their own, each before those behind it, and have been sorted
there, are how the sort arranges what they stand for. -/
theorem sortOn_of_isSorted (hb : ∀ p q, before p q → ¬ before q p) (hqs : qs.Pairwise before)
    (h : IsSorted (fun p q => (order.compare (record (g p)) (record (g q))).outcome) before qs zs) :
    order.sortOn record (qs.map g) = (.sorted, zs.map g) := by
  have hsorted : (order.sortOn record (qs.map g)).1 = .sorted :=
    sortOn_succeeds_iff.2 (pairwise_compares_of_isSorted h)
  obtain ⟨ps, hps, -⟩ := sortOn_eq_iff.1 (Prod.ext hsorted rfl)
  -- The sort moves positions of the second list; the elements at the same positions of the first
  -- one come into an order that sorts them too, and there is only one.
  have hperm : (ps.map (origin g qs)).Perm qs := by
    have hmap := hps.1.map (origin g qs)
    rwa [map_origin_finRange] at hmap
  have hpairwise : (ps.map (origin g qs)).Pairwise (Precedes
      (fun p q => (order.compare (record (g p)) (record (g q))).outcome) before) := by
    refine List.pairwise_map.2 (hps.2.imp ?_)
    rintro i j ⟨o, ho, hgt, heq⟩
    rw [compareAt, get_map_eq_origin, get_map_eq_origin] at ho
    exact ⟨o, ho, hgt, fun he => origin_rel hqs (heq he)⟩
  have hcoherent : Coherent fun p q o =>
      (order.compare (record (g p)) (record (g q))).outcome = .ok o :=
    ⟨order.compare_coherent.swap, order.compare_coherent.trans⟩
  have hzs : ps.map (origin g qs) = zs := IsSorted.unique hcoherent hb ⟨hperm, hpairwise⟩ h
  rw [hps.sortOn_eq, ← hzs, List.map_map]
  exact congrArg (Prod.mk SortResult.sorted) (List.map_congr_left fun i _ => get_map_eq_origin g qs i)

end Standing

theorem sortOn_filter (h : order.sortOn record items = (.sorted, sorted)) (keep : α → Bool) :
    order.sortOn record (items.filter keep) = (.sorted, sorted.filter keep) := by
  obtain ⟨ps, hps, rfl⟩ := sortOn_eq_iff.1 h
  have hs := IsSorted.filter hps (keep ∘ items.get)
  have hlt := (List.pairwise_lt_finRange items.length).filter (keep ∘ items.get)
  have hkept := sortOn_of_isSorted (fun _ _ => Nat.lt_asymm) hlt hs
  rwa [← List.filter_map, ← List.filter_map, List.map_get_finRange] at hkept

end OrderBy

namespace Stage

theorem keptOf_entries (s : Criterion q α) (source : List α) :
    keptOf (s.entries source) =
      source.filter fun a => decide ((s.judge a).outcome = .ok s.matching) := by
  induction source with
  | nil => rfl
  | cons a rest ih =>
    rw [Criterion.entries, List.filterMap_cons, List.filter_cons, Criterion.entry?, ← ih]
    cases (s.judge a).outcome with
    | error e => rfl
    | ok b =>
      by_cases hb : b = s.matching
      · simp [hb, keptOf, Criterion.entries]
      · simp [hb, Criterion.entries]

theorem apply_keep (f : Condition) (matching : Bool) (record : α → Record) (items : List α) :
    ((Stage.keep f matching).apply record items).2 =
      items.filter fun a => decide ((f.holdsOn (record a)).outcome = .ok matching) := by
  have hdrain := (Cursor.drain_spec ⟨fun a => f.holdsOn (record a), matching⟩
    (Cursor.start items)).1
  rw [apply, hdrain, Cursor.remaining_start, keptOf_entries]

/-- A list that can be sorted can be filtered before or after, which makes no difference: the
elements that are left are those on which the condition comes out as wanted, and they can be sorted
as well. -/
theorem sort_keep_comm (order : OrderBy) (f : Condition) (matching : Bool) (record : α → Record)
    (items sorted : List α) (h : order.sortOn record items = (.sorted, sorted)) :
    (∀ l : List α, ((Stage.keep f matching).apply record l).2 =
        l.filter fun a => decide ((f.holdsOn (record a)).outcome = .ok matching)) ∧
      order.sortOn record ((Stage.keep f matching).apply record items).2 =
        (.sorted, ((Stage.keep f matching).apply record sorted).2) := by
  refine ⟨apply_keep f matching record, ?_⟩
  rw [apply_keep, apply_keep]
  exact order.sortOn_filter h _

def parcel (p : String × Value) : Record :=
  ⟨"parcel", fun name =>
    if name = "city" then some (.text p.1) else if name = "note" then some p.2 else none,
    fun _ => none⟩

def byCityDown : OrderBy :=
  ⟨[⟨⟨"city", .field⟩, .desc⟩]⟩

/-- Several parcels to each city, and among them one whose note the condition cannot judge. -/
theorem sort_keep_comm_parcels :
    byCityDown.sortOn parcel ((Stage.keep (.leaf ⟨⟨"note", .field⟩, .equal, .text "x"⟩) true).apply
        parcel [("Bern", .text "x"), ("Rome", .timestamp ⟨0⟩), ("Bern", .text "y"),
          ("Rome", .text "x"), ("Bern", .text "x")]).2 =
      (.sorted, ((Stage.keep (.leaf ⟨⟨"note", .field⟩, .equal, .text "x"⟩) true).apply
        parcel [("Rome", .timestamp ⟨0⟩), ("Rome", .text "x"), ("Bern", .text "x"),
          ("Bern", .text "y"), ("Bern", .text "x")]).2) := by
  have hsort : byCityDown.sortOn parcel [("Bern", .text "x"), ("Rome", .timestamp ⟨0⟩),
      ("Bern", .text "y"), ("Rome", .text "x"), ("Bern", .text "x")] =
      (.sorted, [("Rome", .timestamp ⟨0⟩), ("Rome", .text "x"), ("Bern", .text "x"),
        ("Bern", .text "y"), ("Bern", .text "x")]) := by decide +kernel
  exact (sort_keep_comm byCityDown _ true parcel _ _ hsort).2

end Stage

end RecordQuery
