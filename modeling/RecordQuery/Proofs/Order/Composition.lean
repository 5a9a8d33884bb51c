import RecordQuery.Proofs.Order.Sorting
import RecordQuery.Sample

namespace RecordQuery.OrderBy

open StableSort

variable {α : Type} {record : α → Record} {items between sorted : List α} {a b : Record}
  {ks ls : List SortKey} {o : Ordering}

theorem compareBy_append_eq_ok :
    (compareBy (ks ++ ls) a b).outcome = .ok o ↔
      (compareBy ks a b).outcome = .ok o ∧ o ≠ .eq ∨
        (compareBy ks a b).outcome = .ok .eq ∧ (compareBy ls a b).outcome = .ok o := by
  induction ks with
  | nil =>
    constructor
    · exact fun h => .inr ⟨rfl, h⟩
    · rintro (⟨h, ho⟩ | ⟨-, h⟩)
      · cases h
        exact (ho rfl).elim
      · exact h
  | cons k ks ih =>
    rw [List.cons_append, compareBy_cons_eq_ok, ih, compareBy_cons_eq_ok, compareBy_cons_eq_ok]
    constructor
    · rintro (⟨h, ho⟩ | ⟨h, ⟨hk, ho⟩ | ⟨hk, hl⟩⟩)
      · exact .inl ⟨.inl ⟨h, ho⟩, ho⟩
      · exact .inl ⟨.inr ⟨h, hk⟩, ho⟩
      · exact .inr ⟨.inr ⟨h, hk⟩, hl⟩
    · rintro (⟨⟨h, -⟩ | ⟨h, hk⟩, ho⟩ | ⟨⟨-, ho⟩ | ⟨h, hk⟩, hl⟩)
      · exact .inl ⟨h, ho⟩
      · exact .inr ⟨h, .inl ⟨hk, ho⟩⟩
      · exact (ho rfl).elim
      · exact .inr ⟨h, .inr ⟨hk, hl⟩⟩

/-- The positions of a sorted list, told as positions of the list before. Where the second sort finds
two elements equal it keeps them in the order of the first one, and where the first one did so as
well they are in their old order. -/
theorem Arranges.append {ps : List (Fin items.length)} {qs : List (Fin (ps.map items.get).length)}
    (hp : Arranges ⟨ls⟩ record items ps) (hq : Arranges ⟨ks⟩ record (ps.map items.get) qs) :
    Arranges ⟨ks ++ ls⟩ record items (qs.map (origin items.get ps)) := by
  refine ⟨?_, List.pairwise_map.2 (hq.2.imp ?_)⟩
  · have hperm := hq.1.map (origin items.get ps)
    rw [map_origin_finRange] at hperm
    exact hperm.trans hp.1
  · rintro q r ⟨o, ho, hgt, heq⟩
    rw [compareAt, get_map_eq_origin, get_map_eq_origin] at ho
    cases o with
    | lt => exact ⟨.lt, compareBy_append_eq_ok.2 (.inl ⟨ho, nofun⟩), nofun, nofun⟩
    | gt => exact (hgt rfl).elim
    | eq =>
      obtain ⟨o', ho', hgt', heq'⟩ := origin_rel hp.2 (heq rfl)
      exact ⟨o', compareBy_append_eq_ok.2 (.inr ⟨ho, ho'⟩), hgt', heq'⟩

/-- A list that can be sorted by some keys, and then again by others, can be sorted once by the
latter keys followed by the former ones, and comes into the same order. -/
theorem sortOn_append (ks ls : List SortKey) (record : α → Record) (items between sorted : List α)
    (hl : sortOn ⟨ls⟩ record items = (.sorted, between))
    (hk : sortOn ⟨ks⟩ record between = (.sorted, sorted)) :
    sortOn ⟨ks ++ ls⟩ record items = (.sorted, sorted) := by
  obtain ⟨ps, hp, rfl⟩ := sortOn_eq_iff.1 hl
  obtain ⟨qs, hq, rfl⟩ := sortOn_eq_iff.1 hk
  rw [(hp.append hq).sortOn_eq, List.map_map]
  refine congrArg (Prod.mk SortResult.sorted) (List.map_congr_left fun q _ => ?_)
  exact (get_map_eq_origin items.get ps q).symm

def walker (p : String × UInt64) : Record :=
  (Pet.mk p.1 "grey" 3 0 true ⟨0⟩ 7 p.2 "" "").record

/-- By kind, and then by legs downwards, which are no field: pets with equal legs stay by kind. -/
theorem sortOn_append_walkers :
    sortOn ⟨[⟨⟨"leg_count", .accessor⟩, .desc⟩] ++ [⟨⟨"animal", .field⟩, .asc⟩]⟩ walker
        [("hen", 2), ("dog", 4), ("crow", 2), ("cat", 4)] =
      (.sorted, [("cat", 4), ("dog", 4), ("crow", 2), ("hen", 2)]) := by
  have hanimal : sortOn ⟨[⟨⟨"animal", .field⟩, .asc⟩]⟩ walker
      [("hen", 2), ("dog", 4), ("crow", 2), ("cat", 4)] =
      (.sorted, [("cat", 4), ("crow", 2), ("dog", 4), ("hen", 2)]) := by decide +kernel
  have hlegs : sortOn ⟨[⟨⟨"leg_count", .accessor⟩, .desc⟩]⟩ walker
      [("cat", 4), ("crow", 2), ("dog", 4), ("hen", 2)] =
      (.sorted, [("cat", 4), ("dog", 4), ("crow", 2), ("hen", 2)]) := by decide +kernel
  exact sortOn_append _ _ walker _ _ _ hanimal hlegs

end RecordQuery.OrderBy
