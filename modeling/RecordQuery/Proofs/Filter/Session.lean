import RecordQuery.Proofs.Condition.Failures
import RecordQuery.Proofs.Filter.Cursor

namespace RecordQuery

variable {q α : Type} {s : Criterion q α} {session : Session α} {command : Command} {c : Cursor α}
  {step : Step}

inductive Handle where
  | filter
  | pass (number : Nat)
  deriving DecidableEq, Repr

/-- The step that a command has a cursor take, if it is meant for that one. -/
def Command.stepOf? : Handle → Command → Option Step
  | .filter, .filter step => some step
  | .pass number, .pass number' step => if number' = number then some step else none
  | _, _ => none

namespace Session

variable {handle : Handle}

def cursor? (session : Session α) : Handle → Option (Cursor α)
  | .filter => some session.filter
  | .pass number => session.passes[number]?

def after (s : Criterion q α) (session : Session α) (commands : List Command) : Session α :=
  commands.foldl (fun session command => (session.perform s command).2.2) session

section Runs

theorem run_cons (s : Criterion q α) (session : Session α) (command : Command)
    (commands : List Command) :
    run s session (command :: commands) =
      ((session.perform s command).1, (session.perform s command).2.1) ::
        run s (session.perform s command).2.2 commands := rfl

theorem run_append (s : Criterion q α) (session : Session α) (before more : List Command) :
    run s session (before ++ more) =
      run s session before ++ run s (session.after s before) more := by
  induction before generalizing session with
  | nil => rfl
  | cons command before ih =>
    rw [List.cons_append, run_cons, ih, run_cons]
    rfl

theorem length_run (s : Criterion q α) (session : Session α) (commands : List Command) :
    (run s session commands).length = commands.length := by
  induction commands generalizing session with
  | nil => rfl
  | cons command commands ih => rw [run_cons, List.length_cons, List.length_cons, ih]

theorem run_getElem? (s : Criterion q α) (session : Session α) (before later : List Command)
    (command : Command) :
    ((run s session (before ++ command :: later))[before.length]?).map Prod.snd =
      some ((session.after s before).perform s command).2.1 := by
  rw [run_append, List.getElem?_append_right (Nat.le_of_eq (length_run s session before)),
    length_run, Nat.sub_self, run_cons]
  rfl

theorem after_append (s : Criterion q α) (session : Session α) (before more : List Command) :
    session.after s (before ++ more) = (session.after s before).after s more :=
  List.foldl_append

end Runs

section Frames

theorem perform_pass {number : Nat} (hc : session.passes[number]? = some c) :
    session.perform s (.pass number step) = ((c.step s step).asked, some (c.step s step).answer,
      { session with passes := session.passes.set number (c.step s step).cursor }) := by
  rw [perform, hc]

theorem perform_own (hc : session.cursor? handle = some c)
    (hs : command.stepOf? handle = some step) :
    (session.perform s command).2.1 = some (c.step s step).answer ∧
      (session.perform s command).2.2.cursor? handle = some (c.step s step).cursor := by
  cases handle with
  | filter =>
    cases command with
    | filter step' =>
      cases hs
      cases hc
      exact ⟨rfl, rfl⟩
    | _ => cases hs
  | pass number =>
    cases command with
    | pass number' step' =>
      obtain ⟨rfl, hstep⟩ := Option.ite_none_right_eq_some.1 hs
      cases hstep
      rw [perform_pass hc]
      refine ⟨rfl, List.getElem?_set_self ?_⟩
      exact (List.getElem?_eq_some_iff.1 hc).1
    | _ => cases hs

theorem perform_filter (s : Criterion q α) (session : Session α)
    (hs : command.stepOf? .filter = none) :
    (session.perform s command).2.2.filter = session.filter := by
  cases command with
  | filter step => cases hs
  | pass number step =>
    rw [perform]
    split <;> rfl
  | _ => rfl

theorem perform_other (hc : session.cursor? handle = some c)
    (hs : command.stepOf? handle = none) :
    (session.perform s command).2.2.cursor? handle = some c := by
  cases handle with
  | filter => exact (congrArg some (perform_filter s session hs)).trans hc
  | pass number =>
    have hlt : number < session.passes.length := (List.getElem?_eq_some_iff.1 hc).1
    cases command with
    | start => exact (List.getElem?_append_left hlt).trans hc
    | pass number' step =>
      have hne : number' ≠ number := fun he => by simp [Command.stepOf?, he] at hs
      cases hc' : session.passes[number']? with
      | none =>
        rw [perform, hc']
        exact hc
      | some c' =>
        rw [perform_pass hc']
        exact (List.getElem?_set_ne hne).trans hc
    | _ => exact hc

theorem perform_view (s : Criterion q α) (session : Session α) (command : Command) :
    (session.perform s command).2.2.view = session.view := by
  cases command with
  | pass number step =>
    rw [perform]
    split <;> rfl
  | _ => rfl

theorem perform_length_passes (s : Criterion q α) (session : Session α) (command : Command) :
    (session.perform s command).2.2.passes.length =
      session.passes.length + [command].count .start := by
  cases command with
  | start => exact List.length_append
  | pass number step =>
    rw [perform]
    split
    · rfl
    · exact List.length_set
  | _ => rfl

end Frames

section Invariants

theorem after_view (s : Criterion q α) (session : Session α) (commands : List Command) :
    (session.after s commands).view = session.view := by
  induction commands generalizing session with
  | nil => rfl
  | cons command commands ih => exact (ih _).trans (perform_view s session command)

theorem after_length_passes (s : Criterion q α) (session : Session α) (commands : List Command) :
    (session.after s commands).passes.length = session.passes.length + commands.count .start := by
  induction commands generalizing session with
  | nil => rfl
  | cons command commands ih =>
    have hcount : (command :: commands).count .start =
        [command].count .start + commands.count .start := by
      rw [← List.count_append, List.singleton_append]
    have hfirst := perform_length_passes s session command
    have hmore := ih (session.perform s command).2.2
    change ((session.perform s command).2.2.after s commands).passes.length = _
    omega

/-- Wherever a cursor stands in a list of entries, commands move it forward by the steps that they
have it take itself. -/
theorem after_cursor? {es : List (Entry α)} {place : Nat} (hc : session.cursor? handle = some c)
    (hr : c.remaining s = es.drop place) (commands : List Command) :
    ∃ c', (session.after s commands).cursor? handle = some c' ∧ c'.remaining s =
      es.drop (place + Step.place es.length (commands.filterMap (·.stepOf? handle))) := by
  -- The cursor and its place are free: a step of its own changes both, the others neither.
  induction commands generalizing session c place with
  | nil => exact ⟨c, hc, hr⟩
  | cons command commands ih =>
    cases hs : command.stepOf? handle with
    | none =>
      rw [List.filterMap_cons_none hs]
      exact ih (perform_other hc hs) hr
    | some step =>
      obtain ⟨-, hnext⟩ := perform_own (s := s) hc hs
      obtain ⟨-, hplace⟩ := Cursor.step_spec hr step
      rw [List.filterMap_cons_some hs, Step.place, ← Nat.add_assoc]
      exact ih hnext hplace

end Invariants

section Answers

theorem after_filter (s : Criterion q α) (source : List α) (before : List Command) :
    ∃ c, ((start source).after s before).cursor? .filter = some c ∧ c.remaining s =
      (s.entries source).drop
        (Step.place (s.entries source).length (before.filterMap (·.stepOf? .filter))) := by
  have hfresh : (start source).cursor? .filter = some (.start source) := rfl
  have hfront : (Cursor.start source).remaining s = (s.entries source).drop 0 :=
    Cursor.remaining_start s source
  have h := after_cursor? hfresh hfront before
  rwa [Nat.zero_add] at h

theorem after_pass (s : Criterion q α) (source : List α) (before during : List Command) :
    ∃ c, ((start source).after s (before ++ .start :: during)).cursor?
        (.pass (before.count .start)) = some c ∧ c.remaining s =
      (s.entries source).drop (Step.place (s.entries source).length
        (during.filterMap (·.stepOf? (.pass (before.count .start))))) := by
  have hview := after_view s (start source) before
  have hnumber := after_length_passes s (start source) before
  have hfresh : (((start source).after s before).perform s .start).2.2.cursor?
      (.pass (before.count .start)) = some (.start source) := by
    have hnumber : before.count .start = ((start source).after s before).passes.length := by
      rw [hnumber]
      exact (Nat.zero_add _).symm
    rw [hnumber]
    change (((start source).after s before).passes ++ [.start ((start source).after s before).view])[
      ((start source).after s before).passes.length]? = _
    rw [List.getElem?_concat_length, hview]
    rfl
  have hfront : (Cursor.start source).remaining s = (s.entries source).drop 0 :=
    Cursor.remaining_start s source
  have h := after_cursor? hfresh hfront during
  rw [Nat.zero_add] at h
  rwa [after_append]

theorem perform_answer {es : List (Entry α)} {place : Nat}
    (h : ∃ c, session.cursor? handle = some c ∧ c.remaining s = es.drop place)
    (hs : command.stepOf? handle = some step) :
    (session.perform s command).2.1 = some (step.answerAt es place) := by
  obtain ⟨c, hc, hr⟩ := h
  rw [(perform_own hc hs).1, (Cursor.step_spec hr step).1]

/-- In every run of a session the filter, and each pass from its start, answer as a place in the one
list of entries does that goes forward by their own steps alone. A pass is numbered by those started
before it, and a whole pass lists all entries. The error past the end has no other cause. -/
theorem run_walks_entries (f : Condition) (record : α → Record) (matching : Bool)
    (source : List α) :
    let s : Criterion Attribute α := ⟨fun a => f.holdsOn (record a), matching⟩
    let es : List (Entry α) := source.filterMap fun a =>
      match (f.holdsOn (record a)).outcome with
      | .ok b => if b = matching then some (.ok a) else none
      | .error e => some (.error e)
    let answer (before : List Command) (command : Command) (later : List Command) :=
      ((run s (start source) (before ++ command :: later))[before.length]?).map Prod.snd
    (∀ before step later, answer before (.filter step) later = some (some (step.answerAt es
        (Step.place es.length (before.filterMap (·.stepOf? .filter)))))) ∧
      (∀ before during step later, let number := before.count .start
        answer (before ++ .start :: during) (.pass number step) later = some (some
          (step.answerAt es
            (Step.place es.length (during.filterMap (·.stepOf? (.pass number))))))) ∧
      (∀ before later, answer before .start later = some (some (.pass (before.count .start)))) ∧
      (∀ before later, answer before .wholePass later = some (some (.entries es))) ∧
      ∀ place, Step.tryNext.answerAt es place = .tried (.error .exhausted) ↔
        es.length ≤ place := by
  intro s es answer
  have hes : es = s.entries source := rfl
  clear_value es
  subst hes
  refine ⟨?_, ?_, ?_, ?_, ?_⟩
  · intro before step later
    exact (run_getElem? s _ before later _).trans
      (congrArg some (perform_answer (after_filter s source before) rfl))
  · intro before during step later number
    exact (run_getElem? s _ (before ++ .start :: during) later _).trans
      (congrArg some (perform_answer (after_pass s source before during) (if_pos rfl)))
  · intro before later
    have hnumber := after_length_passes s (start source) before
    refine (run_getElem? s _ before later _).trans ?_
    rw [perform, hnumber]
    exact congrArg (fun number => some (some (Answer.pass number))) (Nat.zero_add _)
  · intro before later
    have hview := after_view s (start source) before
    refine (run_getElem? s _ before later _).trans ?_
    rw [perform, (Cursor.drain_spec s _).1, hview]
    rfl
  · intro place
    apply Step.tryNext_exhausted
    exact Criterion.error_not_mem_entries fun a => f.holdsOn_ne_exhausted (record a)

/-- Of three values the first is passed over, the second is kept and the third cannot be judged. A
pass that was started in between is behind the filter. -/
theorem run_walks_entries_values :
    let f : Condition := .leaf ⟨⟨"note", .field⟩, .equal, .text "x"⟩
    let record (v : Value) : Record := ⟨"scrap", fun _ => some v, fun _ => none⟩
    let s : Criterion Attribute Value := ⟨fun v => f.holdsOn (record v), true⟩
    let commands : List Command := [.filter .peek, .start, .filter .next, .filter .tryNext,
      .pass 0 .next, .filter .tryNext, .filter .hasNext, .pass 0 .rest]
    let answer (number : Nat) :=
      ((run s (start [.text "y", .text "x", .timestamp ⟨0⟩]) commands)[number]?).map Prod.snd
    let failure : Error := .unsupportedType "note" ⟨.timestamp, "scrap"⟩ (some .equal)
    answer 2 = some (some (.entry (some (.ok (.text "x"))))) ∧
      answer 3 = some (some (.tried (.error failure))) ∧
      answer 4 = some (some (.entry (some (.ok (.text "x"))))) ∧
      answer 5 = some (some (.tried (.error .exhausted))) ∧
      answer 6 = some (some (.flag false)) ∧
      answer 7 = some (some (.entries [.error failure])) := by
  intro f record s commands answer failure
  obtain ⟨hfilter, hpass, -, -, -⟩ :=
    run_walks_entries f record true [.text "y", .text "x", .timestamp ⟨0⟩]
  refine ⟨?_, ?_, ?_, ?_, ?_, ?_⟩
  · exact hfilter (commands.take 2) .next (commands.drop 3)
  · exact hfilter (commands.take 3) .tryNext (commands.drop 4)
  · exact hpass [.filter .peek] ((commands.take 4).drop 2) .next (commands.drop 5)
  · exact hfilter (commands.take 5) .tryNext (commands.drop 6)
  · exact hfilter (commands.take 6) .hasNext (commands.drop 7)
  · exact hpass [.filter .peek] ((commands.take 7).drop 2) .rest []

end Answers

end Session

end RecordQuery
