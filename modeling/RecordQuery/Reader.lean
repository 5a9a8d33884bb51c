namespace RecordQuery

-- The library of parser combinators that conditions and orderings are read with is not part of
-- this development. Assumed of it is what the definitions below do:
-- * A sequence goes on where the member before ended; it stops where its first failing member does.
-- * A choice tries its members in order, each from where the choice began. The first success
--   counts; without one, the choice stops where its last member does.
-- * An optional part that fails gives back what it has taken. So does the last try of a repetition,
--   which takes as many values as there are; no value that is repeated here takes nothing.
-- * One character, a fixed word and a run of spaces or digits take nothing where they fail. A word of
--   free case disregards the case of the letters A to Z and of no others.
-- * A failure tells the number of bytes in front of the place where reading has stopped.

/-- The value and the rest of the text after it, or the rest at the place of the failure. -/
def Reader (α : Type) : Type :=
  List Char → Except (List Char) (α × List Char)

namespace Reader

variable {α : Type}

/-- A sequence of readers fails where its first failing member does. -/
instance : Monad Reader where
  pure a := fun cs => .ok (a, cs)
  bind p f := fun cs =>
    match p cs with
    | .ok (a, rest) => f a rest
    | .error rest => .error rest

/-- The second reader starts over where the first one started, and its failure is the one told. -/
def orElse (p q : Reader α) : Reader α := fun cs =>
  match p cs with
  | .ok result => .ok result
  | .error _ => q cs

def taking (split : List Char → List Char × List Char) : Reader (List Char) := fun cs =>
  .ok (split cs)

def satisfying (accept : Char → Bool) : Reader Char
  | [] => .error []
  | c :: cs => if accept c then .ok (c, cs) else .error (c :: cs)

def exactly (word : String) : Reader Unit := fun cs =>
  if word.toList.isPrefixOf cs then .ok ((), cs.drop word.toList.length) else .error cs

def keyword (word : String) : Reader Unit := fun cs =>
  if (cs.take word.toList.length).map Char.toLower = word.toList then
    .ok ((), cs.drop word.toList.length)
  else .error cs

def spaces : Reader Unit := fun cs =>
  .ok ((), cs.dropWhile (· = ' '))

def someSpaces : Reader Unit := do
  let _ ← satisfying (· = ' ')
  spaces

def atEnd : Reader Unit
  | [] => .ok ((), [])
  | cs => .error cs

def repeated (p : Reader α) (cs : List Char) : List α × List Char :=
  match p cs with
  | .ok (a, rest) =>
    if rest.length < cs.length then
      let (as, last) := repeated p rest
      (a :: as, last)
    else ([], cs)
  | .error _ => ([], cs)
termination_by cs.length

def many (p : Reader α) : Reader (List α) := fun cs =>
  .ok (repeated p cs)

def optional (p : Reader α) : Reader (Option α) := fun cs =>
  match p cs with
  | .ok (a, rest) => .ok (some a, rest)
  | .error _ => .ok (none, cs)

def parenthesized (p : Reader α) : Reader α := do
  exactly "("
  spaces
  let a ← p
  spaces
  exactly ")"
  return a

def utf8Length : List Char → Nat
  | [] => 0
  | c :: cs => c.utf8Size + utf8Length cs

/-- Reads a text from its start. A failure gives the number of bytes before its place. -/
def run (p : Reader α) (text : String) : Except Nat α :=
  match p text.toList with
  | .ok (a, _) => .ok a
  | .error rest => .error (utf8Length text.toList - utf8Length rest)

end Reader

end RecordQuery
