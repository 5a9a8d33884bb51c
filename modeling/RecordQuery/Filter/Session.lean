import RecordQuery.Filter

namespace RecordQuery

inductive Step where
  | hasNext
  | peek
  | next
  | tryNext
  | rest
  deriving DecidableEq, Repr

inductive Answer (α : Type) where
  | flag (b : Bool)
  | entry (entry : Option (Entry α))
  | tried (entry : Entry α)
  | entries (entries : List (Entry α))
  | pass (number : Nat)

def Cursor.step {q α : Type} (s : Criterion q α) (c : Cursor α) : Step → Reply q α (Answer α)
  | .hasNext => let r := c.hasNext s; ⟨r.asked, .flag r.answer, r.cursor⟩
  | .peek => let r := c.peek s; ⟨r.asked, .entry r.answer, r.cursor⟩
  | .next => let r := c.next s; ⟨r.asked, .entry r.answer, r.cursor⟩
  | .tryNext => let r := c.tryNext s; ⟨r.asked, .tried r.answer, r.cursor⟩
  | .rest => let r := c.drain s; ⟨r.asked, .entries r.answer, r.cursor⟩

/-- A step of the filter, the start of a pass over the view, a step of a pass, or a whole pass. -/
inductive Command where
  | filter (step : Step)
  | start
  | pass (number : Nat) (step : Step)
  | wholePass
  deriving DecidableEq, Repr

structure Session (α : Type) where
  view : List α
  filter : Cursor α
  passes : List (Cursor α)

namespace Session

variable {q α : Type}

def start (source : List α) : Session α :=
  ⟨source, .start source, []⟩

/-- What a command asked for, its answer and the session after it; a step of a pass that was never
started has no answer. -/
def perform (s : Criterion q α) (session : Session α) :
    Command → List q × Option (Answer α) × Session α
  | .filter step =>
    let r := session.filter.step s step
    (r.asked, some r.answer, { session with filter := r.cursor })
  | .start =>
    ([], some (.pass session.passes.length),
      { session with passes := session.passes ++ [.start session.view] })
  | .pass number step =>
    match session.passes[number]? with
    | none => ([], none, session)
    | some c =>
      let r := c.step s step
      (r.asked, some r.answer, { session with passes := session.passes.set number r.cursor })
  | .wholePass =>
    let r := (Cursor.start session.view).drain s
    (r.asked, some (.entries r.answer), session)

def run (s : Criterion q α) : Session α → List Command → List (List q × Option (Answer α))
  | _, [] => []
  | session, command :: commands =>
    let (asked, answer, next) := session.perform s command
    (asked, answer) :: run s next commands

end Session

end RecordQuery
