import RecordQuery.Error
import RecordQuery.Inquiry

namespace RecordQuery

/-- A judgement on elements, and the outcome for which they are kept. -/
structure Criterion (q α : Type) where
  judge : α → Inquiry q Error Bool
  matching : Bool

abbrev Entry (α : Type) := Except Error α

namespace Criterion

variable {q α : Type}

def entry? (s : Criterion q α) (a : α) : Option (Entry α) :=
  match (s.judge a).outcome with
  | .ok b => if b = s.matching then some (.ok a) else none
  | .error e => some (.error e)

/-- Judges elements up to the first one that contributes an entry. -/
def advance (s : Criterion q α) : List α → List q × Option (Entry α) × List α
  | [] => ([], none, [])
  | a :: rest =>
    match s.entry? a with
    | some entry => ((s.judge a).asked, some entry, rest)
    | none =>
      let (asked, found, last) := s.advance rest
      ((s.judge a).asked ++ asked, found, last)

def entries (s : Criterion q α) (source : List α) : List (Entry α) :=
  source.filterMap s.entry?

end Criterion

/-- A position in a source: what has not been judged, and the entry that was looked at ahead. -/
structure Cursor (α : Type) where
  source : List α
  held : Option (Entry α)

structure Reply (q α β : Type) where
  asked : List q
  answer : β
  cursor : Cursor α

namespace Cursor

variable {q α : Type}

def start (source : List α) : Cursor α :=
  ⟨source, none⟩

def peek (s : Criterion q α) (c : Cursor α) : Reply q α (Option (Entry α)) :=
  match c.held with
  | some entry => ⟨[], some entry, c⟩
  | none =>
    let (asked, found, rest) := s.advance c.source
    ⟨asked, found, ⟨rest, found⟩⟩

def hasNext (s : Criterion q α) (c : Cursor α) : Reply q α Bool :=
  let r := c.peek s
  ⟨r.asked, r.answer.isSome, r.cursor⟩

def next (s : Criterion q α) (c : Cursor α) : Reply q α (Option (Entry α)) :=
  let r := c.peek s
  ⟨r.asked, r.answer, ⟨r.cursor.source, none⟩⟩

def tryNext (s : Criterion q α) (c : Cursor α) : Reply q α (Entry α) :=
  let r := c.next s
  ⟨r.asked, r.answer.getD (.error .exhausted), r.cursor⟩

def drainWithin (s : Criterion q α) : (bound : Nat) → Cursor α → Reply q α (List (Entry α))
  | 0, c => ⟨[], [], c⟩
  | bound + 1, c =>
    let r := c.next s
    match r.answer with
    | none => ⟨r.asked, [], r.cursor⟩
    | some entry =>
      let more := drainWithin s bound r.cursor
      ⟨r.asked ++ more.asked, entry :: more.answer, more.cursor⟩

/-- All remaining entries: at most the one held and one for each element not yet judged, and then
one more step to meet the end. -/
def drain (s : Criterion q α) (c : Cursor α) : Reply q α (List (Entry α)) :=
  c.drainWithin s (c.source.length + 2)

end Cursor

end RecordQuery
