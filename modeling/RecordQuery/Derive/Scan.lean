import RecordQuery.Derive.Ahead

namespace RecordQuery.Derive

-- The library that reads phrases from tokens is not part of this development. Assumed of the means
-- that it offers is what the definitions below do:
-- * A test looks at tokens ahead and reads none. It is what decides between rules, so that nothing
--   that was read is given back, and a part that fails is the failure of the whole.
-- * A sign of several marks is there only if all marks but the last one are joint.
-- * The content of a group, like that of an attribute, has to be used up.
-- * A list ends where its tokens do, before which one more separator may stand. Where anything else
--   follows a part, it has to be a separator.
-- * A phrase is printed from what was read of it: word for word, and in the order of its tokens,
--   except where a rule says so.

/-- The tokens still to be read, and those written so far, the last one first. -/
structure Scan.State where
  rest : List Token
  written : List Token

abbrev Scan := StateT Scan.State Option

namespace Scan

variable {α : Type}

def rest : Scan (List Token) :=
  return (← get).rest

def ahead (test : List Token → Bool) : Scan Bool :=
  return test (← rest)

def atEnd : Scan Bool :=
  ahead List.isEmpty

def write (ts : List Token) : Scan Unit :=
  modify fun s => { s with written := ts.reverse ++ s.written }

def skip (count : Nat) : Scan Unit :=
  modify fun s => { s with rest := s.rest.drop count }

def token (test : List Token → Bool) : Scan Unit := do
  match ← rest with
  | t :: ts =>
    if test (t :: ts) then
      skip 1
      write [t]
    else failure
  | [] => failure

def word (name : String) : Scan Unit :=
  token (Ahead.word name)

def anyWord : Scan Unit :=
  token Ahead.anyWord

def name : Scan Unit :=
  token Ahead.name

def lifetime : Scan Unit :=
  token Ahead.lifetime

def anyGroup : Scan Unit :=
  token Ahead.anyGroup

def signTokens (s : String) : List Token :=
  go s.toList
where
  go : List Char → List Token
    | [] => []
    | [c] => [.mark c false]
    | c :: cs => .mark c true :: go cs

def sign (s : String) : Scan Unit := do
  guard (← ahead (Ahead.sign s))
  skip s.length
  write (signTokens s)

def literal : Scan Unit := do
  guard (← ahead Ahead.literal)
  match ← rest with
  | .mark _ _ :: .literal text _ :: _ =>
    skip 2
    write [.literal ("-" ++ text) none]
  | ts =>
    skip 1
    write (ts.take 1)

/-- An optional part, and whether it is there. -/
def optional (test : List Token → Bool) (part : Scan Unit) : Scan Bool := do
  let found ← ahead test
  if found then part
  return found

def optionalWord (name : String) : Scan Bool :=
  optional (Ahead.word name) (word name)

def optionalSign (s : String) : Scan Bool :=
  optional (Ahead.sign s) (sign s)

def someSign : List String → Scan Bool
  | [] => return false
  | s :: more => do
    if ← optionalSign s then return true else someSign more

def inside (d : Delimiter) (content : Scan α) : Scan α := fun s =>
  match s.rest with
  | .group e inner :: rest =>
    if d = e then
      match content ⟨inner, []⟩ with
      | some (a, ⟨[], written⟩) => some (a, ⟨rest, .group d written.reverse :: s.written⟩)
      | _ => none
    else none
  | _ => none

/-- What the scan writes is given and not written. -/
def capture (scan : Scan α) : Scan (α × List Token) := fun s =>
  (scan { s with written := [] }).map fun (a, t) =>
    ((a, t.written.reverse), { t with written := s.written })

def silently (scan : Scan α) : Scan α :=
  return (← capture scan).1

def captured (scan : Scan Unit) : Scan (List Token) :=
  return (← capture scan).2

def reading (scan : Scan α) : Scan (α × List Token) := do
  let before ← rest
  let a ← scan
  return (a, before.take (before.length - (← rest).length))

/-- The tokens that the scan reads are written as they stand, if its answer says so. -/
def keepingIf (kept : α → Bool) (scan : Scan α) : Scan α := do
  let ((a, read), written) ← capture (reading scan)
  write (if kept a then read else written)
  return a

def keeping (scan : Scan Unit) : Scan Unit :=
  keepingIf (fun _ => true) scan

def wouldBe (scan : Scan Bool) : Scan Bool := fun s =>
  some ((scan s).any (·.1), s)

/-- Repeats a step until it gives nothing new. Each step that does reads a token. -/
def iterate (step : α → Scan (Option α)) (a : α) : Scan α := do
  go ((← rest).length + 1) a
where
  go : Nat → α → Scan α
    | 0, _ => failure
    | bound + 1, a => do
      match ← step a with
      | some b => go bound b
      | none => return a

def repeating (step : Scan Bool) : Scan Unit :=
  iterate (fun _ => return if ← step then some () else none) ()

def answers (step : Scan (α × Bool)) : Scan (List α) := do
  let (found, _) ← iterate (fun (found, more) => do
    if more then
      let (a, more) ← step
      return some (found ++ [a], more)
    else return none) ([], true)
  return found

/-- Parts with commas between them, up to what `stop` accepts; each with whether a comma follows. The
commas are not written. -/
def listed (stop : List Token → Bool) (part : Scan α) : Scan (List (α × Bool)) := do
  if ← ahead stop then return []
  else
    answers do
      let a ← part
      if ← ahead stop then return ((a, false), false)
      else
        silently (sign ",")
        return ((a, true), !(← ahead stop))

def collected (separator : String) (part : Scan α) : Scan (List α) := do
  if ← atEnd then return []
  else
    answers do
      let a ← part
      if ← atEnd then return (a, false)
      else
        sign separator
        return (a, !(← atEnd))

def separated (separator : String) (stop : List Token → Bool) (part : Scan Unit) : Scan Unit :=
  repeating do
    if ← ahead stop then return false
    else
      part
      if ← ahead stop then return false
      else
        sign separator
        return true

def commas (part : Scan Unit) : Scan Unit :=
  separated "," List.isEmpty part

def joined (separator : String) (stop : List Token → Bool) (part : Scan Unit) : Scan Unit :=
  repeating do
    if ← ahead stop then return false
    else
      part
      optionalSign separator

def run (scan : Scan α) (ts : List Token) : Option (α × List Token) :=
  match scan ⟨ts, []⟩ with
  | some (a, ⟨[], written⟩) => some (a, written.reverse)
  | _ => none

end Scan

end RecordQuery.Derive
