import RecordQuery.Filter.Session

namespace RecordQuery

variable {q α : Type} {s : Criterion q α} {source rest : List α} {a : α} {entry : Entry α}

namespace Criterion

theorem advance_of_some (h : s.entry? a = some entry) :
    s.advance (a :: rest) = ((s.judge a).asked, some entry, rest) := by
  rw [advance, h]

theorem advance_of_none (h : s.entry? a = none) :
    s.advance (a :: rest) = ((s.judge a).asked ++ (s.advance rest).1, (s.advance rest).2) := by
  rw [advance, h]

theorem entries_append (s : Criterion q α) (xs ys : List α) :
    s.entries (xs ++ ys) = s.entries xs ++ s.entries ys :=
  List.filterMap_append

theorem advance_found (s : Criterion q α) (source : List α) :
    (s.advance source).2.1 = (s.entries source).head? := by
  induction source with
  | nil => rfl
  | cons a rest ih =>
    cases h : s.entry? a with
    | none => rw [advance_of_none h, entries, List.filterMap_cons_none h, ih, entries]
    | some entry => rw [advance_of_some h, entries, List.filterMap_cons_some h, List.head?_cons]

theorem entries_advance (s : Criterion q α) (source : List α) :
    s.entries (s.advance source).2.2 = (s.entries source).tail := by
  induction source with
  | nil => rfl
  | cons a rest ih =>
    cases h : s.entry? a with
    | none => rw [advance_of_none h, ih, entries, entries, List.filterMap_cons_none h]
    | some entry =>
      rw [advance_of_some h, entries, entries, List.filterMap_cons_some h, List.tail_cons]

theorem judge_eq_error {e : Error} (h : s.entry? a = some (.error e)) :
    (s.judge a).outcome = .error e := by
  unfold entry? at h
  split at h
  · split at h <;> cases h
  · next he =>
    cases h
    exact he

theorem error_not_mem_entries {e : Error} (h : ∀ a, (s.judge a).outcome ≠ .error e) :
    .error e ∉ s.entries source := by
  intro hmem
  obtain ⟨a, -, ha⟩ := List.mem_filterMap.1 hmem
  exact h a (judge_eq_error ha)

end Criterion

namespace Cursor

variable {c : Cursor α}

/-- The entries that are still to come. -/
def remaining (s : Criterion q α) (c : Cursor α) : List (Entry α) :=
  c.held.toList ++ s.entries c.source

theorem remaining_start (s : Criterion q α) (source : List α) :
    (start source).remaining s = s.entries source := rfl

theorem peek_answer (s : Criterion q α) (c : Cursor α) :
    (c.peek s).answer = (c.remaining s).head? := by
  obtain ⟨source, held⟩ := c
  cases held with
  | some entry => rfl
  | none => exact s.advance_found source

theorem peek_held (s : Criterion q α) (c : Cursor α) :
    (c.peek s).cursor.held = (c.peek s).answer := by
  obtain ⟨source, held⟩ := c
  cases held with
  | some entry => rfl
  | none => rfl

theorem peek_remaining (s : Criterion q α) (c : Cursor α) :
    (c.peek s).cursor.remaining s = c.remaining s := by
  obtain ⟨source, held⟩ := c
  cases held with
  | some entry => rfl
  | none =>
    -- What is found ahead goes from the source into the empty slot.
    have hfound := s.advance_found source
    have hrest := s.entries_advance source
    change (s.advance source).2.1.toList ++ s.entries (s.advance source).2.2 = s.entries source
    rw [hfound, hrest]
    cases s.entries source with
    | nil => rfl
    | cons entry es => rfl

theorem hasNext_answer (s : Criterion q α) (c : Cursor α) :
    (c.hasNext s).answer = (c.remaining s).head?.isSome := by
  rw [hasNext, peek_answer]

theorem hasNext_remaining (s : Criterion q α) (c : Cursor α) :
    (c.hasNext s).cursor.remaining s = c.remaining s :=
  peek_remaining s c

theorem next_answer (s : Criterion q α) (c : Cursor α) :
    (c.next s).answer = (c.remaining s).head? :=
  peek_answer s c

theorem next_remaining (s : Criterion q α) (c : Cursor α) :
    (c.next s).cursor.remaining s = (c.remaining s).tail := by
  have hr := peek_remaining s c
  rw [remaining, peek_held, peek_answer] at hr
  change s.entries (c.peek s).cursor.source = (c.remaining s).tail
  cases he : c.remaining s with
  | nil =>
    rw [he] at hr
    exact hr
  | cons entry es =>
    rw [he] at hr
    exact (List.cons.inj hr).2

theorem tryNext_answer (s : Criterion q α) (c : Cursor α) :
    (c.tryNext s).answer = (c.remaining s).head?.getD (.error .exhausted) := by
  rw [tryNext, next_answer]

theorem tryNext_remaining (s : Criterion q α) (c : Cursor α) :
    (c.tryNext s).cursor.remaining s = (c.remaining s).tail :=
  next_remaining s c

theorem drainWithin_of_none {bound : Nat} (h : (c.next s).answer = none) :
    c.drainWithin s (bound + 1) = ⟨(c.next s).asked, [], (c.next s).cursor⟩ := by
  rw [drainWithin, h]

theorem drainWithin_of_some {bound : Nat} {entry : Entry α} (h : (c.next s).answer = some entry) :
    c.drainWithin s (bound + 1) =
      ⟨(c.next s).asked ++ ((c.next s).cursor.drainWithin s bound).asked,
        entry :: ((c.next s).cursor.drainWithin s bound).answer,
        ((c.next s).cursor.drainWithin s bound).cursor⟩ := by
  rw [drainWithin, h]

theorem drainWithin_spec {bound : Nat} (h : (c.remaining s).length ≤ bound) :
    (c.drainWithin s bound).answer = c.remaining s ∧
      (c.drainWithin s bound).cursor.remaining s = [] := by
  induction bound generalizing c with
  | zero =>
    have hnil : c.remaining s = [] := List.eq_nil_of_length_eq_zero (Nat.le_zero.1 h)
    exact ⟨hnil.symm, hnil⟩
  | succ bound ih =>
    have hanswer := next_answer s c
    have htail := next_remaining s c
    cases he : c.remaining s with
    | nil =>
      rw [he] at hanswer htail
      rw [drainWithin_of_none hanswer]
      exact ⟨rfl, htail⟩
    | cons entry es =>
      rw [he] at hanswer htail h
      have hshort : ((c.next s).cursor.remaining s).length ≤ bound := by
        rw [htail]
        exact Nat.le_of_succ_le_succ h
      obtain ⟨hmore, hend⟩ := ih hshort
      rw [drainWithin_of_some hanswer]
      exact ⟨congrArg (entry :: ·) (hmore.trans htail), hend⟩

theorem length_remaining_le (s : Criterion q α) (c : Cursor α) :
    (c.remaining s).length ≤ c.source.length + 1 := by
  have hentries : (s.entries c.source).length ≤ c.source.length := List.length_filterMap_le _ _
  have hheld : c.held.toList.length ≤ 1 := Option.length_toList_le
  rw [remaining, List.length_append]
  omega

theorem drain_spec (s : Criterion q α) (c : Cursor α) :
    (c.drain s).answer = c.remaining s ∧ (c.drain s).cursor.remaining s = [] :=
  drainWithin_spec (Nat.le_succ_of_le (length_remaining_le s c))

end Cursor

namespace Step

/-- What a cursor answers at a place of a fixed list of entries. -/
def answerAt (es : List (Entry α)) (place : Nat) : Step → Answer α
  | .hasNext => .flag (place < es.length)
  | .peek => .entry es[place]?
  | .next => .entry es[place]?
  | .tryNext => .tried (es[place]?.getD (.error .exhausted))
  | .rest => .entries (es.drop place)

/-- How many places a step goes forward in a list of so many entries. -/
def stride (total : Nat) : Step → Nat
  | .hasNext | .peek => 0
  | .next | .tryNext => 1
  | .rest => total

def place (total : Nat) : List Step → Nat
  | [] => 0
  | step :: steps => step.stride total + place total steps

theorem tryNext_exhausted {es : List (Entry α)} (h : .error .exhausted ∉ es) (place : Nat) :
    tryNext.answerAt es place = .tried (.error .exhausted) ↔ es.length ≤ place := by
  rw [answerAt, Answer.tried.injEq, ← List.getElem?_eq_none_iff]
  cases he : es[place]? with
  | none => simp
  | some entry =>
    have hmem := List.mem_of_getElem? he
    have hne : entry ≠ .error .exhausted := fun heq => h (heq ▸ hmem)
    simpa using hne

end Step

/-- Each step answers as its place in the list of entries tells, and goes forward in it. -/
theorem Cursor.step_spec {c : Cursor α} {es : List (Entry α)} {place : Nat}
    (h : c.remaining s = es.drop place) (step : Step) :
    (c.step s step).answer = step.answerAt es place ∧
      (c.step s step).cursor.remaining s = es.drop (place + step.stride es.length) := by
  cases step with
  | hasNext =>
    refine ⟨?_, (hasNext_remaining s c).trans h⟩
    have hsome : (c.hasNext s).answer = decide (place < es.length) := by
      rw [hasNext_answer, h, List.head?_drop, Bool.eq_iff_iff, decide_eq_true_iff,
        Option.isSome_iff_ne_none, ne_eq, List.getElem?_eq_none_iff, Nat.not_le]
    exact congrArg Answer.flag hsome
  | peek =>
    refine ⟨?_, (peek_remaining s c).trans h⟩
    rw [Step.answerAt, ← List.head?_drop, ← h, ← peek_answer]
    rfl
  | next =>
    refine ⟨?_, ?_⟩
    · rw [Step.answerAt, ← List.head?_drop, ← h, ← next_answer]
      rfl
    · rw [Step.stride, ← List.tail_drop, ← h]
      exact next_remaining s c
  | tryNext =>
    refine ⟨?_, ?_⟩
    · rw [Step.answerAt, ← List.head?_drop, ← h, ← tryNext_answer]
      rfl
    · rw [Step.stride, ← List.tail_drop, ← h]
      exact tryNext_remaining s c
  | rest =>
    obtain ⟨hanswer, hend⟩ := drain_spec s c
    refine ⟨?_, ?_⟩
    · rw [Step.answerAt, ← h, ← hanswer]
      rfl
    · rw [Step.stride, List.drop_eq_nil_of_le (Nat.le_add_left _ _)]
      exact hend

end RecordQuery
