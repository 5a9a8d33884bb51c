import RecordQuery.Proofs.Condition.Failures
import RecordQuery.Proofs.Filter.Cursor

namespace RecordQuery

variable {q α β : Type} {s : Criterion q α} {source judged : List α} {es : List (Entry α)}
  {ended : Bool} {c : Cursor α}

namespace Criterion

def noted (s : Criterion q α) : Criterion (α × List q) α :=
  ⟨fun a => ⟨[(a, (s.judge a).asked)], (s.judge a).outcome⟩, s.matching⟩

def askedOf (s : Criterion q α) (judged : List α) : List q :=
  judged.flatMap fun a => (s.judge a).asked

/-- The elements up to and with the one that contributes the entry of this number. -/
def UpToEntry (s : Criterion q α) (number : Nat) (judged : List α) : Prop :=
  (s.entries judged).length = number ∧ ∀ a ∈ judged.getLast?, s.entry? a ≠ none

theorem askedOf_append (s : Criterion q α) (xs ys : List α) :
    s.askedOf (xs ++ ys) = s.askedOf xs ++ s.askedOf ys :=
  List.flatMap_append

theorem askedOf_noted (s : Criterion q α) (judged : List α) :
    s.noted.askedOf judged = judged.map fun a => (a, (s.judge a).asked) :=
  List.map_eq_flatMap.symm

theorem advance_noted (s : Criterion q α) (source : List α) :
    s.advance source =
      ((s.noted.advance source).1.flatMap Prod.snd, (s.noted.advance source).2) := by
  induction source with
  | nil => rfl
  | cons a rest ih =>
    cases h : s.entry? a with
    | none =>
      have hn : s.noted.entry? a = none := h
      rw [advance_of_none h, advance_of_none hn, ih]
      simp [noted]
    | some entry =>
      have hn : s.noted.entry? a = some entry := h
      rw [advance_of_some h, advance_of_some hn]
      simp [noted]

/-- What is judged ends with the element whose entry is found, or else is all there was. -/
theorem advance_judged (s : Criterion q α) (source : List α) :
    ∃ judged, source = judged ++ (s.advance source).2.2 ∧
      (s.advance source).1 = s.askedOf judged ∧
      s.entries judged = (s.advance source).2.1.toList ∧
      ((s.advance source).2.1 = none → (s.advance source).2.2 = []) ∧
      ((s.advance source).2.1 ≠ none → ∀ a ∈ judged.getLast?, s.entry? a ≠ none) := by
  induction source with
  | nil => exact ⟨[], rfl, rfl, rfl, fun _ => rfl, nofun⟩
  | cons a rest ih =>
    cases h : s.entry? a with
    | some entry =>
      rw [advance_of_some h]
      refine ⟨[a], rfl, (List.append_nil _).symm, ?_, nofun, ?_⟩
      · simp [entries, h]
      · simp [h]
    | none =>
      obtain ⟨judged, hsplit, hasked, hentries, hend, hlast⟩ := ih
      rw [advance_of_none h]
      refine ⟨a :: judged, congrArg (a :: ·) hsplit, ?_, ?_, hend, ?_⟩
      · exact congrArg ((s.judge a).asked ++ ·) hasked
      · rw [← hentries, entries, List.filterMap_cons_none h]
        rfl
      · intro hfound
        cases judged with
        | nil => exact (hfound (Option.toList_eq_nil_iff.1 hentries.symm)).elim
        | cons b judged => simpa using hlast hfound

end Criterion

def Entry.isPast : Entry α → Bool
  | .error .exhausted => true
  | _ => false

theorem Entry.isPast_iff {entry : Entry α} : entry.isPast = true ↔ entry = .error .exhausted := by
  unfold isPast
  split <;> simp_all

namespace Step

def given : Step → Answer α → List (Entry α)
  | .next, .entry entry => entry.toList
  | .tryNext, .tried entry => if entry.isPast then [] else [entry]
  | .rest, .entries es => es
  | _, _ => []

def ends : Step → Answer α → Bool
  | .hasNext, .flag more => !more
  | .peek, .entry entry => entry.isNone
  | .next, .entry entry => entry.isNone
  | .tryNext, .tried entry => entry.isPast
  | .rest, .entries _ => true
  | _, _ => false

end Step

/-- The reply without the notes, but with all that they say was asked. -/
def Reply.plain (r : Reply (α × List q) α β) : Reply q α β :=
  ⟨r.asked.flatMap Prod.snd, r.answer, r.cursor⟩

namespace Cursor

def run (s : Criterion q α) : Cursor α → List Step → List (Step × Reply q α (Answer α))
  | _, [] => []
  | c, step :: steps => (step, c.step s step) :: run s (c.step s step).cursor steps

def after (s : Criterion q α) (c : Cursor α) (steps : List Step) : Cursor α :=
  steps.foldl (fun c step => (c.step s step).cursor) c

theorem session_run_filter (s : Criterion q α) (session : Session α) (steps : List Step) :
    session.run s (steps.map .filter) =
      (session.filter.run s steps).map fun r => (r.2.asked, some r.2.answer) := by
  induction steps generalizing session with
  | nil => rfl
  | cons step steps ih => exact congrArg (_ :: ·) (ih _)

section Notes

theorem peek_noted (s : Criterion q α) (c : Cursor α) : c.peek s = (c.peek s.noted).plain := by
  obtain ⟨source, held⟩ := c
  cases held with
  | some entry => rfl
  | none =>
    rw [peek, s.advance_noted]
    rfl

theorem next_noted (s : Criterion q α) (c : Cursor α) : c.next s = (c.next s.noted).plain := by
  rw [next, peek_noted]
  rfl

theorem drainWithin_noted (s : Criterion q α) (c : Cursor α) (bound : Nat) :
    c.drainWithin s bound = (c.drainWithin s.noted bound).plain := by
  induction bound generalizing c with
  | zero => rfl
  | succ bound ih =>
    have hanswer : (c.next s).answer = (c.next s.noted).answer :=
      congrArg Reply.answer (next_noted s c)
    cases h : (c.next s.noted).answer with
    | none =>
      rw [drainWithin_of_none (hanswer.trans h), drainWithin_of_none h, next_noted]
      rfl
    | some entry =>
      rw [drainWithin_of_some (hanswer.trans h), drainWithin_of_some h, next_noted, ih]
      simp only [Reply.plain, List.flatMap_append]

theorem step_noted (s : Criterion q α) (c : Cursor α) (step : Step) :
    c.step s step = (c.step s.noted step).plain := by
  cases step with
  | hasNext =>
    rw [step, hasNext, peek_noted]
    rfl
  | peek =>
    rw [step, peek_noted]
    rfl
  | next =>
    rw [step, next_noted]
    rfl
  | tryNext =>
    rw [step, tryNext, next_noted]
    rfl
  | rest =>
    rw [step, drain, drainWithin_noted]
    rfl

theorem run_noted (s : Criterion q α) (c : Cursor α) (steps : List Step) :
    c.run s steps = (c.run s.noted steps).map fun r => (r.1, r.2.plain) := by
  induction steps generalizing c with
  | nil => rfl
  | cons step steps ih =>
    rw [run, step_noted, ih]
    rfl

theorem after_noted (s : Criterion q α) (c : Cursor α) (steps : List Step) :
    c.after s steps = c.after s.noted steps := by
  induction steps generalizing c with
  | nil => rfl
  | cons step steps ih =>
    rw [after, List.foldl_cons, step_noted]
    exact ih _

end Notes

section Progress

/-- A cursor that has judged a beginning of its source, has handed out some of the entries that it
found there and holds the others; it has met the end or not. -/
structure Reaches (s : Criterion q α) (source judged : List α) (handed : List (Entry α))
    (ended : Bool) (c : Cursor α) : Prop where
  split : source = judged ++ c.source
  entries : s.entries judged = handed ++ c.held.toList
  last : ended = false → ∀ a ∈ judged.getLast?, s.entry? a ≠ none
  done : ended = true → c = ⟨[], none⟩

theorem reaches_start (s : Criterion q α) (source : List α) :
    Reaches s source [] [] false (start source) where
  split := rfl
  entries := rfl
  last := by simp
  done := nofun

theorem Reaches.peek (h : Reaches s source judged es ended c) :
    ∃ more, (c.peek s).asked = s.askedOf more ∧
      Reaches s source (judged ++ more) es (ended || (c.peek s).answer.isNone)
        (c.peek s).cursor := by
  obtain ⟨ahead, held⟩ := c
  cases held with
  | some entry =>
    refine ⟨[], rfl, ?_⟩
    rw [List.append_nil]
    exact (Bool.or_false ended).symm ▸ h
  | none =>
    obtain ⟨more, hsplit, hasked, hentries, hend, hlast⟩ := s.advance_judged ahead
    refine ⟨more, hasked, ?_, ?_, ?_, ?_⟩
    · rw [List.append_assoc, h.split]
      exact congrArg (judged ++ ·) hsplit
    · rw [s.entries_append, h.entries, hentries]
      exact congrArg (· ++ _) (List.append_nil es)
    · intro hgoes a ha
      obtain ⟨hended, hfound⟩ := Bool.or_eq_false_iff.1 hgoes
      rw [List.getLast?_append] at ha
      cases hm : more.getLast? with
      | none =>
        rw [hm] at ha
        exact h.last hended a ha
      | some b =>
        rw [hm] at ha
        have hsome := Option.isNone_eq_false_iff.1 hfound
        exact hlast (Option.isSome_iff_ne_none.1 hsome) a (hm ▸ ha)
    · intro hends
      rcases Bool.or_eq_true_iff.1 hends with hended | hnone
      · cases h.done hended
        rfl
      · have hnone : (s.advance ahead).2.1 = none := Option.isNone_iff_eq_none.1 hnone
        change (⟨(s.advance ahead).2.2, (s.advance ahead).2.1⟩ : Cursor α) = _
        rw [hend hnone, hnone]

theorem Reaches.next (h : Reaches s source judged es ended c) :
    ∃ more, (c.next s).asked = s.askedOf more ∧
      Reaches s source (judged ++ more) (es ++ (c.next s).answer.toList)
        (ended || (c.next s).answer.isNone) (c.next s).cursor := by
  obtain ⟨more, hasked, hpeek⟩ := h.peek
  refine ⟨more, hasked, hpeek.split, ?_, hpeek.last, ?_⟩
  · have hentries := hpeek.entries
    rw [peek_held] at hentries
    rw [hentries]
    exact (List.append_nil _).symm
  · intro hends
    have hdone := hpeek.done hends
    change (⟨(c.peek s).cursor.source, none⟩ : Cursor α) = _
    rw [hdone]

theorem Reaches.drainWithin {bound : Nat} (h : Reaches s source judged es ended c)
    (hb : (c.remaining s).length < bound) :
    ∃ more, (c.drainWithin s bound).asked = s.askedOf more ∧
      Reaches s source (judged ++ more) (es ++ (c.drainWithin s bound).answer) true
        (c.drainWithin s bound).cursor := by
  induction bound generalizing c judged es ended with
  | zero => exact absurd hb (Nat.not_lt_zero _)
  | succ bound ih =>
    obtain ⟨more, hasked, hnext⟩ := h.next
    cases ha : (c.next s).answer with
    | none =>
      rw [drainWithin_of_none ha]
      refine ⟨more, hasked, ?_⟩
      simpa [ha] using hnext
    | some entry =>
      have htail := next_remaining s c
      have hhead := next_answer s c
      have hshort : ((c.next s).cursor.remaining s).length < bound := by
        rw [htail, List.length_tail]
        cases hr : c.remaining s with
        | nil => simp [hr, ha] at hhead
        | cons e rest =>
          rw [hr] at hb
          exact Nat.lt_of_succ_lt_succ hb
      obtain ⟨later, hlater, hdrain⟩ := ih hnext hshort
      rw [drainWithin_of_some ha]
      refine ⟨more ++ later, ?_, ?_⟩
      · rw [s.askedOf_append, hasked, hlater]
      · simpa [ha] using hdrain

theorem Reaches.mem_entries {entry : Entry α} (h : Reaches s source judged es ended c)
    (he : entry ∈ es) : entry ∈ s.entries source := by
  rw [h.split, s.entries_append, h.entries]
  exact List.mem_append_left _ (List.mem_append_left _ he)

theorem Reaches.tryNext (hjudge : ∀ a, (s.judge a).outcome ≠ .error .exhausted)
    (h : Reaches s source judged es ended c) :
    ∃ more, (c.tryNext s).asked = s.askedOf more ∧
      Reaches s source (judged ++ more)
        (es ++ Step.tryNext.given (.tried (c.tryNext s).answer))
        (ended || Step.tryNext.ends (.tried (c.tryNext s).answer)) (c.tryNext s).cursor := by
  obtain ⟨more, hasked, hnext⟩ := h.next
  refine ⟨more, hasked, ?_⟩
  rw [Cursor.tryNext]
  cases ha : (c.next s).answer with
  | none => simpa [ha, Step.given, Step.ends, Entry.isPast] using hnext
  | some entry =>
    -- An entry is never the error that tells of the end.
    have hpast : entry.isPast = false := by
      refine Bool.eq_false_iff.2 fun hp => ?_
      have hmem : entry ∈ s.entries source :=
        hnext.mem_entries (List.mem_append_right _ (by simp [ha]))
      rw [Entry.isPast_iff.1 hp] at hmem
      exact Criterion.error_not_mem_entries hjudge hmem
    simpa [ha, Step.given, Step.ends, hpast] using hnext

/-- What a step judges is the next part of the source. -/
theorem Reaches.step (hjudge : ∀ a, (s.judge a).outcome ≠ .error .exhausted)
    (h : Reaches s source judged es ended c) (step : Step) :
    ∃ more, (c.step s step).asked = s.askedOf more ∧
      Reaches s source (judged ++ more) (es ++ step.given (c.step s step).answer)
        (ended || step.ends (c.step s step).answer) (c.step s step).cursor := by
  cases step with
  | hasNext =>
    obtain ⟨more, hasked, hpeek⟩ := h.peek
    refine ⟨more, hasked, ?_⟩
    simpa [Cursor.step, Cursor.hasNext, Step.given, Step.ends] using hpeek
  | peek =>
    obtain ⟨more, hasked, hpeek⟩ := h.peek
    refine ⟨more, hasked, ?_⟩
    simpa [Cursor.step, Step.given, Step.ends] using hpeek
  | next => exact h.next
  | tryNext => exact h.tryNext hjudge
  | rest =>
    have hb : (c.remaining s).length < c.source.length + 2 :=
      Nat.lt_succ_of_le (length_remaining_le s c)
    obtain ⟨more, hasked, hdrain⟩ := h.drainWithin hb
    refine ⟨more, hasked, ?_⟩
    simpa [Cursor.step, Cursor.drain, Step.given, Step.ends] using hdrain

theorem Reaches.run (hjudge : ∀ a, (s.judge a).outcome ≠ .error .exhausted)
    (h : Reaches s source judged es ended c) (steps : List Step) :
    ∃ more, (c.run s steps).flatMap (·.2.asked) = s.askedOf more ∧
      Reaches s source (judged ++ more)
        (es ++ (c.run s steps).flatMap fun r => r.1.given r.2.answer)
        (ended || (c.run s steps).any fun r => r.1.ends r.2.answer) (c.after s steps) := by
  induction steps generalizing c judged es ended with
  | nil =>
    refine ⟨[], rfl, ?_⟩
    simpa [Cursor.run, after] using h
  | cons step steps ih =>
    obtain ⟨more, hasked, hstep⟩ := h.step hjudge step
    obtain ⟨later, hlater, hrun⟩ := ih hstep
    refine ⟨more ++ later, ?_, ?_⟩
    · rw [s.askedOf_append, ← hasked, ← hlater]
      rfl
    · simpa [Cursor.run, after, Bool.or_assoc] using hrun

theorem Reaches.upToEntry (h : Reaches s source judged es ended c) (hgoes : ended = false) :
    s.UpToEntry (es.length + c.held.toList.length) judged := by
  refine ⟨?_, h.last hgoes⟩
  rw [h.entries, List.length_append]

theorem Reaches.eq_source (h : Reaches s source judged es ended c) (hends : ended = true) :
    judged = source := by
  rw [h.split, h.done hends, List.append_nil]

end Progress

section Asking

theorem step_asked_of_held {entry : Entry α} {step : Step} (h : c.held = some entry)
    (hstep : step ≠ .rest) : (c.step s step).asked = [] := by
  have hpeek : (c.peek s).asked = [] := by rw [Cursor.peek, h]
  cases step with
  | rest => exact (hstep rfl).elim
  | _ => exact hpeek

theorem step_asked_of_done (h : c = ⟨[], none⟩) (step : Step) : (c.step s step).asked = [] := by
  subst h
  cases step <;> rfl

end Asking

/-- The steps of a cursor judge the elements of the source up to and with the one whose entry is the
last that was handed out or is held, each once and in their order, or all of them if a step has met
the end; with notes of the judgements the steps reply as without. A single step looks nothing up
while an entry is held, and no step does after the end was met. -/
theorem run_judges_up_to_entry (f : Condition) (record : α → Record) (matching : Bool)
    (source : List α) (steps : List Step) :
    let s : Criterion Attribute α := ⟨fun a => f.holdsOn (record a), matching⟩
    let replies := (start source).run s.noted steps
    let c := (start source).after s steps
    let handed := replies.flatMap fun r => r.1.given r.2.answer
    let ended := replies.any fun r => r.1.ends r.2.answer
    Session.run s (.start source) (steps.map .filter) =
        replies.map (fun r => (r.2.plain.asked, some r.2.plain.answer)) ∧
      (∃ judged,
        replies.flatMap (·.2.asked) =
            judged.map (fun a => (a, (f.holdsOn (record a)).asked)) ∧
          judged <+: source ∧
          (ended = true → judged = source) ∧
          (ended = false → s.UpToEntry (handed.length + c.held.toList.length) judged)) ∧
      (c.held ≠ none → ∀ step, step ≠ .rest → (c.step s step).asked = []) ∧
      (ended = true → ∀ step, (c.step s step).asked = []) := by
  intro s replies c handed ended
  have hjudge : ∀ a, (s.noted.judge a).outcome ≠ .error .exhausted :=
    fun a => f.holdsOn_ne_exhausted (record a)
  obtain ⟨judged, hasked, hrun⟩ := (reaches_start s.noted source).run hjudge steps
  rw [← after_noted] at hrun
  refine ⟨?_, ⟨judged, ?_, ?_, hrun.eq_source, hrun.upToEntry⟩, ?_, ?_⟩
  · have hplain : (start source).run s steps = replies.map fun r => (r.1, r.2.plain) :=
      run_noted s _ steps
    have hsession := session_run_filter s (.start source) steps
    rw [hsession, Session.start, hplain, List.map_map]
    rfl
  · exact hasked.trans (s.askedOf_noted judged)
  · exact ⟨_, hrun.split.symm⟩
  · intro hheld step hstep
    obtain ⟨entry, he⟩ := Option.ne_none_iff_exists'.1 hheld
    exact step_asked_of_held he hstep
  · exact fun hends => step_asked_of_done (hrun.done hends)

def word (text : String) : Record :=
  ⟨"word", fun name => if name = "text" then some (.text text) else none, fun _ => none⟩

/-- One entry is looked at ahead, and neither the word behind it nor, a second time, those before
it. -/
theorem run_judges_up_to_entry_words :
    let f : Condition := .leaf ⟨⟨"text", .field⟩, .equal, .text "to"⟩
    let s : Criterion Attribute String := ⟨fun a => f.holdsOn (word a), true⟩
    let replies := (start ["be", "to", "or", "to"]).run s.noted [.hasNext, .peek]
    let c := (start ["be", "to", "or", "to"]).after s [.hasNext, .peek]
    replies.flatMap (·.2.asked) = [("be", [⟨"text", .field⟩]), ("to", [⟨"text", .field⟩])] ∧
      c.held ≠ none ∧ ∀ step, step ≠ .rest → (c.step s step).asked = [] := by
  intro f s replies c
  have hheld : c.held ≠ none := nofun
  exact ⟨rfl, hheld, (run_judges_up_to_entry f word true ["be", "to", "or", "to"]
    [.hasNext, .peek]).2.2.1 hheld⟩

end Cursor

end RecordQuery
