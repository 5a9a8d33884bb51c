import RecordQuery.Proofs.Order.Sorting

namespace RecordQuery

open Relation

namespace OrderBy

variable {α : Type} {order : OrderBy} {record : α → Record} {items : List α}

section Runs

/-- The answers to questions that are asked one after the other. -/
def answers (order : OrderBy) (record : α → Record) (items : List α)
    (questions : List (Fin items.length × Fin items.length)) :
    StateM (Option Error) (List Ordering) :=
  questions.mapM fun (i, j) => order.probe (record (items.get i)) (record (items.get j))

/-- A run that starts without a failure asks about two positions, and this is what it is told. -/
def Answered (order : OrderBy) (record : α → Record) (items : List α)
    (questions : List (Fin items.length × Fin items.length))
    (i j : Fin items.length) (o : Ordering) : Prop :=
  ((i, j), o) ∈ questions.zip ((order.answers record items questions).run none).1

instance (order : OrderBy) (record : α → Record) (items : List α)
    (questions : List (Fin items.length × Fin items.length)) (i j : Fin items.length)
    (o : Ordering) : Decidable (order.Answered record items questions i j o) :=
  inferInstanceAs (Decidable (((i, j), o) ∈ questions.zip _))

variable {questions : List (Fin items.length × Fin items.length)} {i j : Fin items.length}
  {o : Ordering} {e : Error}

theorem answers_cons (failure : Option Error) :
    (order.answers record items ((i, j) :: questions)).run failure =
      let (o, failure) := (order.probe (record (items.get i)) (record (items.get j))).run failure
      let (os, failure) := (order.answers record items questions).run failure
      (o :: os, failure) := by
  rw [answers, List.mapM_cons]
  rfl

theorem answers_failed (questions : List (Fin items.length × Fin items.length)) (e : Error) :
    (order.answers record items questions).run (some e) = (questions.map fun _ => .eq, some e) := by
  induction questions with
  | nil => rfl
  | cons q questions ih =>
    rw [answers_cons]
    simp only [StateT.run, probe] at ih ⊢
    rw [ih]
    rfl

theorem answers_cons_ok (h : order.compareAt record items i j = .ok o) :
    ((order.answers record items ((i, j) :: questions)).run none).1 =
      o :: ((order.answers record items questions).run none).1 := by
  rw [answers_cons, (order.probe_tracks _ _).ok o h]
  rfl

theorem answers_cons_error (h : order.compareAt record items i j = .error e) :
    ((order.answers record items ((i, j) :: questions)).run none).1 =
      ((i, j) :: questions).map fun _ => .eq := by
  have hprobe : (order.probe (record (items.get i)) (record (items.get j))).run none =
      (.eq, some e) := by
    simp only [compareAt] at h
    simp only [StateT.run, probe, h]
  rw [answers_cons, hprobe]
  simp only [answers_failed, List.map_cons]

/-- A run is told how positions compare, until two of them do not. -/
theorem answers_eq {cmp : Fin items.length → Fin items.length → Ordering}
    (hcmp : ∀ i j o, order.compareAt record items i j = .ok o → cmp i j = o)
    (questions : List (Fin items.length × Fin items.length)) :
    ∃ before late, questions = before ++ late ∧
      (∀ q ∈ before, ∃ o, order.compareAt record items q.1 q.2 = .ok o) ∧
      (∀ q ∈ late.head?, ∃ e, order.compareAt record items q.1 q.2 = .error e) ∧
      ((order.answers record items questions).run none).1 =
        before.map (fun q => cmp q.1 q.2) ++ late.map fun _ => .eq := by
  induction questions with
  | nil => exact ⟨[], [], rfl, nofun, nofun, rfl⟩
  | cons q questions ih =>
    obtain ⟨i, j⟩ := q
    cases h : order.compareAt record items i j with
    | ok o =>
      obtain ⟨before, late, rfl, hok, herror, hanswers⟩ := ih
      refine ⟨(i, j) :: before, late, rfl, List.forall_mem_cons.2 ⟨⟨o, h⟩, hok⟩, herror, ?_⟩
      rw [answers_cons_ok h, hanswers, ← hcmp i j o h]
      rfl
    | error e =>
      refine ⟨[], (i, j) :: questions, rfl, nofun, ?_, answers_cons_error h⟩
      rintro q ⟨⟩
      exact ⟨e, h⟩

theorem compareAt_consistent (order : OrderBy) (record : α → Record) (items : List α) :
    Consistent fun i j o => order.compareAt record items i j = .ok o :=
  Routine.consistent_ok (order.compareAt_coherent record items)

end Runs

section Questions

variable {n : Nat} {β σ : Type}

def asked (answer : Fin n → Fin n → StateM σ Bool) :
    Asking (Fin n) β → StateM σ (List (Fin n × Fin n))
  | .done _ => return []
  | .giveUp => return []
  | .ask i j next => do
    let b ← answer i j
    return (i, j) :: (← asked answer (next b))

def questions (order : OrderBy) (record : α → Record) (items : List α) :
    List (Fin items.length × Fin items.length) :=
  ((asked (order.isLess record items) (Routine.sort (List.finRange items.length))).run none).1

/-- A total preorder that has all answers of a run leads to where the run has led. -/
theorem run_told_of_answers {cmp : Fin items.length → Fin items.length → Ordering}
    (t : Asking (Fin items.length) β) (failure : Option Error)
    {pairs : List (Fin items.length × Fin items.length)}
    (hpairs : ((asked (order.isLess record items) t).run failure).1 = pairs)
    (h : ∀ i j o, ((i, j), o) ∈ pairs.zip ((order.answers record items pairs).run failure).1 →
      cmp i j = o) :
    t.run (Asking.told fun i j => (.ok (cmp i j) : Except Error Ordering)) =
      .ok ((t.run (order.isLess record items)).run failure).1 := by
  subst hpairs
  induction t generalizing failure with
  | done b => rfl
  | giveUp => rfl
  | ask i j next ih =>
    generalize hp : (order.probe (record (items.get i)) (record (items.get j))).run failure = p
    obtain ⟨o, failure'⟩ := p
    have hless : (order.isLess record items i j).run failure = (decide (o = .lt), failure') := by
      simp only [isLess, StateT.run_bind, hp]
      rfl
    have hpairs : ((asked (order.isLess record items) (.ask i j next)).run failure).1 =
        (i, j) :: ((asked (order.isLess record items) (next (o = .lt))).run failure').1 := by
      simp only [asked, StateT.run_bind, hless]
      rfl
    rw [hpairs, answers_cons, hp] at h
    have hij : cmp i j = o := h i j o List.mem_cons_self
    have hrest := ih _ failure' fun x y o' hmem => h x y o' (List.mem_cons_of_mem _ hmem)
    have hrun : ((Asking.ask i j next).run (order.isLess record items)).run failure =
        ((next (o = .lt)).run (order.isLess record items)).run failure' := by
      rw [Asking.run, StateT.run_bind, hless]
      rfl
    rw [hrun, ← hrest, Asking.run, Asking.told, hij]
    rfl

/-- The routine gives up only if what it has been told is no total preorder. -/
theorem not_consistent_of_givesUp (h : order.givesUp record items = true) :
    ¬Consistent (order.Answered record items (order.questions record items)) := by
  rintro ⟨cmp, _, hcmp⟩
  have hrun := run_told_of_answers (Routine.sort (List.finRange items.length)) none rfl hcmp
  obtain ⟨key, hkey⟩ := exists_key_of_transCmp cmp
  have hc : Coherent fun i j o => (.ok (cmp i j) : Except Error Ordering) = .ok o := by
    simpa only [Except.ok.injEq] using Coherent.of_transCmp cmp
  have hranks : Asking.Ranks (fun i j => (.ok (cmp i j) : Except Error Ordering)) key := by
    rintro i j o ⟨⟩
    exact hkey i j
  have hyields := Routine.sort_yields hc hranks (List.nodup_finRange items.length)
  have hgaveUp : (order.sortOn record items).1 = .gaveUp := of_decide_eq_true h
  rcases hyields.ok_or_error with ⟨ps, hps, -⟩ | ⟨e, i, j, -, ⟨⟩, -⟩
  have hfound := Except.ok.inj (hrun.symm.trans hps)
  simp only [sortOn] at hgaveUp
  split at hgaveUp
  · cases hgaveUp
  · cases hgaveUp
  · next hnone =>
    rw [hnone] at hfound
    cases hfound

theorem fails_of_givesUp (h : order.givesUp record items = true) :
    ∃ i j e, i ≠ j ∧ order.compareAt record items i j = .error e := by
  have hgaveUp : (order.sortOn record items).1 = .gaveUp := of_decide_eq_true h
  rcases order.sortOn_spec record items with ⟨ps, -, hs⟩ | ⟨e, i, j, hij, he, -⟩
  · rw [hs] at hgaveUp
    cases hgaveUp
  · exact ⟨i, j, e, hij, he⟩

end Questions

section Consistency

/-- One total preorder of the positions has the answers of every run up to its first failure; from
then on the run is told that all pairs are equal. All answers of a run together are those of a total
preorder if and only if they do not lead from a position back to a lesser one. The routine gives up
only where two different elements fail to compare and the answers that it is told are not those of
a total preorder. -/
theorem answered_consistent_iff (order : OrderBy) (record : α → Record) (items : List α) :
    (∃ cmp : Fin items.length → Fin items.length → Ordering, Std.TransCmp cmp ∧
        ∀ questions, ∃ before late, questions = before ++ late ∧
          (∀ q ∈ before, ∃ o, order.compareAt record items q.1 q.2 = .ok o) ∧
          (∀ q ∈ late.head?, ∃ e, order.compareAt record items q.1 q.2 = .error e) ∧
          ((order.answers record items questions).run none).1 =
            before.map (fun q => cmp q.1 q.2) ++ late.map fun _ => .eq) ∧
      (∀ questions, Consistent (order.Answered record items questions) ↔
        ∀ i j, Less (order.Answered record items questions) i j →
          ¬ReflTransGen (NotGreater (order.Answered record items questions)) j i) ∧
      (order.givesUp record items = true →
        (∃ i j e, i ≠ j ∧ order.compareAt record items i j = .error e) ∧
          ¬Consistent (order.Answered record items (order.questions record items))) := by
  obtain ⟨cmp, htrans, hcmp⟩ := order.compareAt_consistent record items
  refine ⟨⟨cmp, htrans, answers_eq hcmp⟩, fun questions => consistent_iff, fun h => ?_⟩
  exact ⟨fails_of_givesUp h, not_consistent_of_givesUp h⟩

namespace mixedRanks

/-- The second record stands behind the first one. The sixth one fails to compare with the first one,
and so it is called equal to both. The routine asks about these pairs, and gives up. -/
theorem answered_not_consistent :
    ¬Consistent (byRankAndNote.Answered ranked mixedRanks
        [(second, first), (sixth, first), (sixth, second)]) ∧
      byRankAndNote.givesUp ranked mixedRanks = true := by
  constructor
  · rintro ⟨cmp, _, hcmp⟩
    have hgt : cmp second first = .gt := hcmp _ _ .gt (by decide)
    have hfailed : cmp sixth first = .eq := hcmp _ _ .eq (by decide)
    have hlate : cmp sixth second = .eq := hcmp _ _ .eq (by decide)
    have hsame : cmp second first = cmp sixth first := (Std.TransCmp.congr_left hlate).symm
    cases hgt.symm.trans (hsame.trans hfailed)
  · rfl

end mixedRanks

end Consistency

end OrderBy

end RecordQuery
