import Mathlib.Data.List.FinRange
import RecordQuery.Order.Sort
import RecordQuery.Proofs.Order.Comparison
import RecordQuery.Proofs.Order.Consistency
import RecordQuery.Proofs.Order.Routine

namespace RecordQuery

namespace StableSort

variable {α ε : Type} {cmp : α → α → Except ε Ordering} {before : α → α → Prop}
  {xs ys zs : List α}

/-- The elements compare, not in the wrong direction, and where they are equal they stay in the
order in which they came. -/
def Precedes (cmp : α → α → Except ε Ordering) (before : α → α → Prop) (x y : α) : Prop :=
  ∃ o, cmp x y = .ok o ∧ o ≠ .gt ∧ (o = .eq → before x y)

/-- The elements of a list, each preceding those after it. -/
def IsSorted (cmp : α → α → Except ε Ordering) (before : α → α → Prop) (xs zs : List α) : Prop :=
  zs.Perm xs ∧ zs.Pairwise (Precedes cmp before)

theorem IsSorted.filter (h : IsSorted cmp before xs zs) (keep : α → Bool) :
    IsSorted cmp before (xs.filter keep) (zs.filter keep) :=
  ⟨h.1.filter keep, h.2.filter keep⟩

theorem IsSorted.unique (hc : Coherent fun x y o => cmp x y = .ok o)
    (hb : ∀ x y, before x y → ¬ before y x) (hy : IsSorted cmp before xs ys)
    (hz : IsSorted cmp before xs zs) : ys = zs := by
  refine List.Perm.eq_of_pairwise ?_ hy.2 hz.2 (hy.1.trans hz.1.symm)
  rintro x y - - ⟨o, h, ho, he⟩ ⟨o', h', ho', he'⟩
  cases (hc.swap h).symm.trans h'
  cases o with
  | lt => exact (ho' rfl).elim
  | gt => exact (ho rfl).elim
  | eq => exact (hb x y (he rfl) (he' rfl)).elim

end StableSort

namespace Routine

open Asking

variable {ε : Type} {n : Nat} {cmp : Fin n → Fin n → Except ε Ordering}
  {ps : List (Fin n)}

theorem consistent_ok (hc : Coherent fun i j o => cmp i j = .ok o) :
    Consistent fun i j o => cmp i j = .ok o := by
  refine hc.consistent ?_
  intro i j o o' h h'
  cases h.symm.trans h'
  rfl

theorem exists_ranks_of_error (hc : Coherent fun i j o => cmp i j = .ok o) {i j : Fin n} {e : ε}
    (hij : i ≠ j) (he : cmp i j = .error e) : ∃ key, Ranks cmp key ∧ key i < key j := by
  have hvalued : ∀ i j o o', cmp i j = .ok o → cmp i j = .ok o' → o = o' := by
    intro i j o o' h h'
    cases h.symm.trans h'
    rfl
  have hno : ∀ o, cmp i j ≠ .ok o := fun o ho => nomatch ho.symm.trans he
  obtain ⟨key, hkey⟩ := (hc.consistent_insert hvalued hij hno).exists_key
  exact ⟨key, fun x y o ho => hkey x y o (.inl ho),
    Nat.compare_eq_lt.1 (hkey i j .lt (.inr ⟨rfl, rfl, rfl⟩))⟩

/-- The routine comes to a result only if all pairs of different positions compare: it cannot have
seen in which order two others stand. -/
theorem compares_of_run (hc : Coherent fun i j o => cmp i j = .ok o)
    (hrun : (sort (List.finRange n)).run (told cmp) = .ok (some ps)) {i j : Fin n} (hij : i ≠ j) :
    ∃ o, cmp i j = .ok o := by
  cases he : cmp i j with
  | ok o => exact ⟨o, rfl⟩
  | error e =>
    have he' : ∃ e, cmp j i = .error e := by
      cases he' : cmp j i with
      | ok o => exact nomatch (hc.swap he').symm.trans he
      | error e => exact ⟨e, rfl⟩
    obtain ⟨e', he'⟩ := he'
    obtain ⟨key, hkey, hlt⟩ := exists_ranks_of_error hc hij he
    obtain ⟨key', hkey', hgt⟩ := exists_ranks_of_error hc hij.symm he'
    have hsorts := (sort_yields hc hkey (List.nodup_finRange n)).good_of_run hrun
    have hsorts' := (sort_yields hc hkey' (List.nodup_finRange n)).good_of_run hrun
    rcases hsorts.le_or_le hsorts' (List.mem_finRange i) (List.mem_finRange j) hij with h | h
    · exact (Nat.not_lt.2 h.2 hgt).elim
    · exact (Nat.not_lt.2 h.1 hlt).elim

theorem isSorted_of_run (hc : Coherent fun i j o => cmp i j = .ok o)
    (hrun : (sort (List.finRange n)).run (told cmp) = .ok (some ps)) :
    StableSort.IsSorted cmp (· < ·) (List.finRange n) ps := by
  obtain ⟨key, hkey⟩ := (consistent_ok hc).exists_key
  have hsorts := (sort_yields hc hkey (List.nodup_finRange n)).good_of_run hrun
  have hnodup : ps.Nodup := hsorts.1.nodup_iff.2 (List.nodup_finRange n)
  have hbefore := hsorts.pairwise_before (List.pairwise_lt_finRange n)
  refine ⟨hsorts.1.perm, (hbefore.and hnodup).imp ?_⟩
  rintro i j ⟨⟨hle, hlevel⟩, hij⟩
  obtain ⟨o, ho⟩ := compares_of_run hc hrun hij
  have hkeys := hkey i j o ho
  refine ⟨o, ho, ?_, ?_⟩
  · rintro rfl
    exact Nat.not_lt.2 hle (Nat.compare_eq_gt.1 hkeys)
  · rintro rfl
    exact hlevel (Nat.compare_eq_eq.1 hkeys)

end Routine

namespace OrderBy

open StableSort

variable {α : Type} {order : OrderBy} {record : α → Record} {items : List α}

section Slots

theorem takeOut_eq_map {slots : List (Option α)} {ps : List (Fin items.length)} (hp : ps.Nodup)
    (h : ∀ p ∈ ps, slots[p.val]? = some (some (items.get p))) :
    takeOut slots (ps.map Fin.val) = ps.map items.get := by
  induction ps generalizing slots with
  | nil => rfl
  | cons p ps ih =>
    obtain ⟨hnot, hnodup⟩ := List.nodup_cons.1 hp
    have hslot : slots[p.val]?.join = some (items.get p) := by
      rw [h p List.mem_cons_self]
      rfl
    have hrest : ∀ q ∈ ps, (slots.set p.val none)[q.val]? = some (some (items.get q)) := by
      intro q hq
      have hne : p.val ≠ q.val := by
        intro he
        exact hnot (Fin.ext he ▸ hq)
      rw [List.getElem?_set_ne hne]
      exact h q (List.mem_cons_of_mem _ hq)
    rw [List.map_cons, takeOut, hslot]
    exact congrArg (items.get p :: ·) (ih hnodup hrest)

theorem takeOut_slots {ps : List (Fin items.length)} (hp : ps.Nodup) :
    takeOut (items.map some) (ps.map Fin.val) = ps.map items.get := by
  apply takeOut_eq_map hp
  intro p _
  simp

end Slots

section Origins

variable {β : Type}

/-- What the element at a position of a list was made from. -/
def origin (g : β → α) (qs : List β) (i : Fin (qs.map g).length) : β :=
  qs.get (i.cast (List.length_map g))

theorem get_map_eq_origin (g : β → α) (qs : List β) (i : Fin (qs.map g).length) :
    (qs.map g).get i = g (origin g qs i) := by
  simp [origin]

theorem map_origin_finRange (g : β → α) (qs : List β) :
    (List.finRange (qs.map g).length).map (origin g qs) = qs := by
  apply List.ext_getElem
  · simp
  · simp [origin]

theorem origin_rel {before : β → β → Prop} {g : β → α} {qs : List β} (h : qs.Pairwise before)
    {i j : Fin (qs.map g).length} (hij : i < j) : before (origin g qs i) (origin g qs j) := by
  have hlt : i.cast (List.length_map g) < j.cast (List.length_map g) := hij
  exact List.pairwise_iff_get.1 h _ _ hlt

end Origins

section Positions

def compareAt (order : OrderBy) (record : α → Record) (items : List α)
    (i j : Fin items.length) : Except Error Ordering :=
  (order.compare (record (items.get i)) (record (items.get j))).outcome

/-- All positions of the list, so that the element at an earlier one is never the greater one and
equal elements stay as they stood. -/
def Arranges (order : OrderBy) (record : α → Record) (items : List α)
    (ps : List (Fin items.length)) : Prop :=
  IsSorted (order.compareAt record items) (· < ·) (List.finRange items.length) ps

theorem compareAt_coherent (order : OrderBy) (record : α → Record) (items : List α) :
    Coherent fun i j o => order.compareAt record items i j = .ok o where
  swap h := order.compare_coherent.swap h
  trans h h' := order.compare_coherent.trans h h'

theorem Arranges.nodup {ps : List (Fin items.length)} (h : order.Arranges record items ps) :
    ps.Nodup :=
  h.1.nodup_iff.2 (List.nodup_finRange _)

theorem Arranges.unique {ps qs : List (Fin items.length)} (hp : order.Arranges record items ps)
    (hq : order.Arranges record items qs) : ps = qs :=
  IsSorted.unique (order.compareAt_coherent record items) (fun _ _ => Nat.lt_asymm) hp hq

theorem probe_tracks (order : OrderBy) (a b : Record) :
    Tracks (order.probe a b) (order.compare a b).outcome where
  keeps _ := rfl
  ok o h := by
    simp only [StateT.run, probe, h]
  error e h := by
    simp only [StateT.run, probe, h]

theorem sort_tracks (order : OrderBy) (record : α → Record) (items : List α) :
    Tracks ((Routine.sort (List.finRange items.length)).run (order.isLess record items))
      ((Routine.sort (List.finRange items.length)).run
        (Asking.told (order.compareAt record items))) :=
  Asking.run_tracks (fun _ _ => (order.probe_tracks _ _).bind fun _ => .pure _) _

/-- A sort arranges the list, or it leaves it alone because some two of its elements do not compare:
it tells how the comparison fails, or it gives up. -/
theorem sortOn_spec (order : OrderBy) (record : α → Record) (items : List α) :
    (∃ ps, order.Arranges record items ps ∧
        order.sortOn record items = (.sorted, ps.map items.get)) ∨
      ∃ e i j, i ≠ j ∧ order.compareAt record items i j = .error e ∧
        (order.sortOn record items = (.failed e, items) ∨
          order.sortOn record items = (.gaveUp, items)) := by
  have hc := order.compareAt_coherent record items
  obtain ⟨key, hkey⟩ := (Routine.consistent_ok hc).exists_key
  have hyields := Routine.sort_yields hc hkey (List.nodup_finRange items.length)
  have ht := order.sort_tracks record items
  rcases hyields.ok_or_error with ⟨ps, hrun, -⟩ | ⟨e, i, j, hij, he, hrun⟩
  · have hps : order.Arranges record items ps := Routine.isSorted_of_run hc hrun
    refine .inl ⟨ps, hps, ?_⟩
    rw [← takeOut_slots hps.nodup]
    simp only [sortOn]
    rw [ht.ok _ hrun]
  · refine .inr ⟨e, i, j, hij, he, ?_⟩
    have hcell := ht.error e hrun
    simp only [sortOn]
    split
    · next h => rw [h] at hcell; cases hcell
    · next h => rw [h] at hcell; cases hcell; exact .inl rfl
    · exact .inr rfl

end Positions

section Correctness

def Compares (order : OrderBy) (record : α → Record) (x y : α) : Prop :=
  ∃ o, (order.compare (record x) (record y)).outcome = .ok o

theorem Compares.symm {x y : α} (h : order.Compares record x y) : order.Compares record y x := by
  obtain ⟨o, h⟩ := h
  exact ⟨o.swap, order.compare_coherent.swap h⟩

theorem pairwise_compares_iff :
    items.Pairwise (order.Compares record) ↔
      ∀ i j : Fin items.length, i ≠ j → order.Compares record (items.get i) (items.get j) := by
  rw [List.pairwise_iff_get]
  constructor
  · intro h i j hij
    rcases Nat.lt_or_gt_of_ne (Fin.val_ne_of_ne hij) with hlt | hgt
    · exact h i j hlt
    · exact (h j i hgt).symm
  · intro h i j hij
    exact h i j (Fin.ne_of_lt hij)

theorem pairwise_compares_of_isSorted {β : Type} {g : β → α} {before : β → β → Prop}
    {qs zs : List β}
    (h : IsSorted (fun p q => (order.compare (record (g p)) (record (g q))).outcome) before qs zs) :
    (qs.map g).Pairwise (order.Compares record) := by
  have hzs : (zs.map g).Pairwise (order.Compares record) :=
    List.pairwise_map.2 (h.2.imp fun ⟨o, ho, _⟩ => ⟨o, ho⟩)
  exact ((h.1.map g).pairwise_iff Compares.symm).1 hzs

theorem Arranges.pairwise_compares {ps : List (Fin items.length)}
    (h : order.Arranges record items ps) : items.Pairwise (order.Compares record) := by
  have hall := pairwise_compares_of_isSorted h
  rwa [List.map_get_finRange] at hall

theorem sortOn_succeeds_iff :
    (order.sortOn record items).1 = .sorted ↔ items.Pairwise (order.Compares record) := by
  rcases order.sortOn_spec record items with ⟨ps, hps, h⟩ | ⟨e, i, j, hij, he, h⟩
  · rw [h]
    exact iff_of_true rfl hps.pairwise_compares
  · have hfails : ¬items.Pairwise (order.Compares record) := by
      intro hall
      obtain ⟨o, ho⟩ := pairwise_compares_iff.1 hall i j hij
      exact nomatch ho.symm.trans he
    rcases h with h | h
    · rw [h]
      exact iff_of_false nofun hfails
    · rw [h]
      exact iff_of_false nofun hfails

theorem sortOn_eq_iff {sorted : List α} :
    order.sortOn record items = (.sorted, sorted) ↔
      ∃ ps, order.Arranges record items ps ∧ sorted = ps.map items.get := by
  rcases order.sortOn_spec record items with ⟨ps, hps, h⟩ | ⟨e, i, j, hij, he, h⟩
  · rw [h]
    constructor
    · rintro ⟨⟩
      exact ⟨ps, hps, rfl⟩
    · rintro ⟨qs, hqs, rfl⟩
      rw [hqs.unique hps]
  · have hsorted : (order.sortOn record items).1 ≠ .sorted := by
      rcases h with h | h <;> rw [h] <;> nofun
    constructor
    · intro hs
      exact (hsorted (congrArg Prod.fst hs)).elim
    · rintro ⟨qs, hqs, -⟩
      exact (hsorted (sortOn_succeeds_iff.2 hqs.pairwise_compares)).elim

theorem Arranges.sortOn_eq {ps : List (Fin items.length)} (h : order.Arranges record items ps) :
    order.sortOn record items = (.sorted, ps.map items.get) :=
  sortOn_eq_iff.2 ⟨ps, h, rfl⟩

/-- The elements of an arranged list stay where they are. -/
theorem Arranges.again {ps : List (Fin items.length)} (h : order.Arranges record items ps) :
    order.Arranges record (ps.map items.get) (List.finRange (ps.map items.get).length) := by
  have hsorted : (ps.map items.get).Pairwise fun x y =>
      ∃ o, (order.compare (record x) (record y)).outcome = .ok o ∧ o ≠ .gt :=
    List.pairwise_map.2 (h.2.imp fun ⟨o, ho, hgt, _⟩ => ⟨o, ho, hgt⟩)
  refine ⟨.refl _, (List.pairwise_lt_finRange _).imp ?_⟩
  intro i j hij
  obtain ⟨o, ho, hgt⟩ := List.pairwise_iff_get.1 hsorted i j hij
  exact ⟨o, ho, hgt, fun _ => hij⟩

theorem sortOn_short (hshort : items.length ≤ Routine.shortLength) :
    (order.sortOn record items).1 ≠ .gaveUp := by
  have hfinishes : (Routine.sort (List.finRange items.length)).Finishes :=
    Routine.sort_finishes (by rwa [List.length_finRange])
  have hrun := hfinishes.run_ne_none (order.isLess record items) none
  simp only [sortOn]
  split
  · nofun
  · nofun
  · next h => rw [h] at hrun; exact (hrun rfl).elim

/-- A sort succeeds if and only if every two elements at distinct positions compare, which does not
depend on the order of the list. It then gives the stable sort, which sorting leaves as it is. Else
the list is left alone and some two of its elements do not compare. Either this is what the sort
tells, or it gives up, which it never does on a list of up to twenty elements. -/
theorem sortOn_correct (order : OrderBy) (record : α → Record) (items : List α) :
    ((order.sortOn record items).1 = .sorted ↔ ∀ i j : Fin items.length, i ≠ j →
        ∃ o, (order.compare (record (items.get i)) (record (items.get j))).outcome = .ok o) ∧
      (∀ items', items.Perm items' →
        ((order.sortOn record items).1 = .sorted ↔ (order.sortOn record items').1 = .sorted)) ∧
      (∀ sorted, order.sortOn record items = (.sorted, sorted) →
        (∃ ps : List (Fin items.length), ps.Perm (List.finRange items.length) ∧
          sorted = ps.map items.get ∧ ps.Pairwise fun i j =>
            ∃ o, (order.compare (record (items.get i)) (record (items.get j))).outcome = .ok o ∧
              o ≠ .gt ∧ (o = .eq → i < j)) ∧
        order.sortOn record sorted = (.sorted, sorted)) ∧
      (∀ e left, order.sortOn record items = (.failed e, left) → left = items ∧
        ∃ i j : Fin items.length, i ≠ j ∧
          (order.compare (record (items.get i)) (record (items.get j))).outcome = .error e) ∧
      (∀ left, order.sortOn record items = (.gaveUp, left) → left = items ∧
        ∃ e, ∃ i j : Fin items.length, i ≠ j ∧
          (order.compare (record (items.get i)) (record (items.get j))).outcome = .error e) ∧
      (items.length ≤ 20 → (order.sortOn record items).1 ≠ .gaveUp) := by
  refine ⟨?_, ?_, ?_, ?_, ?_, sortOn_short⟩
  · exact sortOn_succeeds_iff.trans pairwise_compares_iff
  · intro items' hp
    rw [sortOn_succeeds_iff, sortOn_succeeds_iff]
    exact hp.pairwise_iff Compares.symm
  · intro sorted hs
    obtain ⟨ps, hps, rfl⟩ := sortOn_eq_iff.1 hs
    refine ⟨⟨ps, hps.1, rfl, hps.2⟩, ?_⟩
    have hagain := hps.again.sortOn_eq
    rwa [List.map_get_finRange] at hagain
  · intro e left hs
    rcases order.sortOn_spec record items with ⟨ps, -, h⟩ | ⟨e', i, j, hij, he, h | h⟩
    all_goals rw [h] at hs; cases hs
    exact ⟨rfl, i, j, hij, he⟩
  · intro left hs
    rcases order.sortOn_spec record items with ⟨ps, -, h⟩ | ⟨e, i, j, hij, he, h | h⟩
    all_goals rw [h] at hs; cases hs
    exact ⟨rfl, e, i, j, hij, he⟩

def noNote : Error :=
  .unknownIdentifier ⟨"note", .accessor⟩ "row"

/-- No two of the first records are equal by rank, so that their notes are not asked for. Of the
others two are, and they have no notes. -/
theorem sortOn_ranked :
    byRankAndNote.sortOn ranked [2, 3, 1] = (.sorted, [3, 2, 1]) ∧
      byRankAndNote.sortOn ranked [3, 2, 1] = (.sorted, [3, 2, 1]) ∧
      byRankAndNote.sortOn ranked [2, 3, 2] = (.failed noNote, [2, 3, 2]) ∧
      ∃ i j : Fin 3, i ≠ j ∧ (byRankAndNote.compare (ranked ([2, 3, 2].get i))
        (ranked ([2, 3, 2].get j))).outcome = .error noNote := by
  have hsorted : byRankAndNote.sortOn ranked [2, 3, 1] = (.sorted, [3, 2, 1]) := by decide +kernel
  have hfailed : byRankAndNote.sortOn ranked [2, 3, 2] = (.failed noNote, [2, 3, 2]) := by
    decide +kernel
  refine ⟨hsorted, ?_, hfailed, ?_⟩
  · exact ((sortOn_correct byRankAndNote ranked [2, 3, 1]).2.2.1 _ hsorted).2
  · exact ((sortOn_correct byRankAndNote ranked [2, 3, 2]).2.2.2.1 _ _ hfailed).2

def mixedRanks : List Int :=
  [40, 38, 36, 34, 41, 40, 22, 21, 12, 11, 10, 9, 8, 7, 6, 5, 4, 3, 2, 1, 0]

namespace mixedRanks

def first : Fin mixedRanks.length :=
  ⟨0, by decide⟩

def second : Fin mixedRanks.length :=
  ⟨1, by decide⟩

def sixth : Fin mixedRanks.length :=
  ⟨5, by decide⟩

/-- The sixth record fails to compare with the first one. The sort does not tell that, nor does it
succeed. -/
theorem sortOn_tells_no_failure :
    byRankAndNote.compareAt ranked mixedRanks sixth first = .error noNote ∧
      ¬((byRankAndNote.sortOn ranked mixedRanks).1 = .sorted ∨
        ∃ e, byRankAndNote.sortOn ranked mixedRanks = (.failed e, mixedRanks)) := by
  have hgaveUp : byRankAndNote.sortOn ranked mixedRanks = (.gaveUp, mixedRanks) := by
    decide +kernel
  refine ⟨rfl, ?_⟩
  rw [hgaveUp]
  rintro (h | ⟨e, h⟩)
  · cases h
  · cases h

end mixedRanks

end Correctness

end OrderBy

end RecordQuery
