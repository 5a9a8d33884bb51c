import RecordQuery.Derive.Grammar.Bound
import RecordQuery.Number.Integer

namespace RecordQuery.Derive

def positionOf (text : String) : Option Nat :=
  let digits (radix : Nat) (cs : List Char) : Option Nat :=
    (Numeral.digits radix (cs.filter (· ≠ '_'))).filter (· < 4294967296)
  match text.toList with
  | '0' :: 'x' :: cs => digits 16 cs
  | '0' :: 'o' :: cs => digits 8 cs
  | '0' :: 'b' :: cs => digits 2 cs
  | c :: cs => if c.isDigit then digits 10 (c :: cs) else none
  | [] => none

namespace Grammar

def position : Scan Unit := do
  match ← Scan.rest with
  | .literal text _ :: _ =>
    match positionOf text with
    | some n =>
      Scan.skip 1
      Scan.write [.literal n.repr none]
    | none => failure
  | _ => failure

/-- A field by its name or its position; whether it is named. -/
def member : Scan Bool := do
  if ← Scan.optional Ahead.name Scan.name then return true
  else
    position
    return false

variable (g : Grammar)

def alternatives : Scan PatternShape := do
  let leading ← Scan.optionalSign "|"
  let first ← g.pattern
  let isBar := Ahead.signBut "|" ["||", "|="]
  if leading || (← Scan.ahead isBar) then
    Scan.repeating do
      if ← Scan.optional isBar (Scan.sign "|") then
        discard g.pattern
        return true
      else return false
    return .other
  else return first

def alternativesList : Scan Unit :=
  Scan.commas (discard g.alternatives)

def constantBlock : Scan Unit := do
  Scan.word "const"
  g.attributedBlock

/-- The end of a range of values: a literal, a path or a constant; whether there is one. -/
def patternEnd : Scan Bool := do
  let ts ← Scan.rest
  if ts.isEmpty || Ahead.signs ["|", "=", ",", ";"] ts || Ahead.signBut ":" ["::"] ts ||
      Ahead.word "if" ts then return false
  else
    if Ahead.literal ts then Scan.literal
    else if Ahead.pathWord ts || Ahead.signs ["::", "<"] ts then discard (g.path .expression)
    else g.constantBlock
    return true

def patternRange : Scan PatternShape := do
  let closed ← Scan.ahead (Ahead.signs ["..=", "..."])
  if ← Scan.ahead (Ahead.sign "...") then
    Scan.skip 3
    Scan.write (Scan.signTokens "..=")
  else if closed then Scan.sign "..="
  else Scan.sign ".."
  if ← g.patternEnd then return .other
  else
    guard !closed
    return .openRange

def openPattern : Scan PatternShape := do
  let closed ← Scan.ahead (Ahead.sign "..=")
  Scan.sign (if closed then "..=" else "..")
  if ← g.patternEnd then return .openRange
  else
    guard !closed
    return .other

def fieldPattern : Scan Unit := do
  let boxed ← Scan.optionalWord "box"
  let shared ← Scan.optionalWord "ref"
  let mutable ← Scan.optionalWord "mut"
  if boxed || shared || mutable then Scan.name
  else
    let named ← member
    if !named || (← Scan.ahead (Ahead.sign ":")) then
      Scan.sign ":"
      discard g.alternatives

def fieldPatterns : Scan Unit :=
  Scan.repeating do
    if ← Scan.atEnd then return false
    else
      g.attributes
      if ← Scan.optionalSign ".." then return false
      else
        g.fieldPattern
        if ← Scan.atEnd then return false
        else
          Scan.sign ","
          return true

def pathPattern : Scan PatternShape := do
  let p ← g.path .expression
  let ts ← Scan.rest
  if !p.qualified && p.plain && Ahead.signBut "!" ["!="] ts then
    invocation
    return .other
  else if Ahead.group .brace ts then
    Scan.inside .brace g.fieldPatterns
    return .other
  else if Ahead.group .parenthesis ts then
    Scan.inside .parenthesis g.alternativesList
    return .other
  else if Ahead.sign ".." ts then g.patternRange
  else return .other

def valuePattern : Scan PatternShape := do
  guard (← g.patternEnd)
  if ← Scan.ahead (Ahead.sign "..") then g.patternRange else return .other

def namePattern : Scan Unit := do
  discard (Scan.optionalWord "ref")
  discard (Scan.optionalWord "mut")
  Scan.token (fun ts => Ahead.name ts || Ahead.word "self" ts)
  if ← Scan.optionalSign "@" then discard g.pattern

def slicePattern : Scan Unit :=
  Scan.inside .bracket (Scan.commas do
    let shape ← g.alternatives
    guard (shape ≠ .openRange))

def beginsPath (ts : List Token) : Bool :=
  let second := ts.drop 1
  Ahead.name ts &&
      (Ahead.signs ["::", "!", ".."] second || Ahead.group .brace second ||
        Ahead.group .parenthesis second) ||
    Ahead.word "self" ts && Ahead.sign "::" second || Ahead.signs ["::", "<"] ts ||
    Ahead.words ["Self", "super", "crate"] ts

def patternRule : Scan PatternShape := do
  let ts ← Scan.rest
  if beginsPath ts then g.pathPattern
  else if Ahead.word "_" ts then
    Scan.anyWord
    return .other
  else if Ahead.word "box" ts then
    Scan.keeping do
      Scan.word "box"
      discard g.pattern
    return .kept
  else if Ahead.sign "-" ts || Ahead.literal ts || Ahead.word "const" ts then g.valuePattern
  else if Ahead.words ["ref", "mut", "self"] ts || Ahead.name ts then
    g.namePattern
    return .other
  else if Ahead.sign "&" ts then
    Scan.sign "&"
    discard (Scan.optionalWord "mut")
    discard g.pattern
    return .other
  else if Ahead.group .parenthesis ts then
    Scan.inside .parenthesis g.alternativesList
    return .other
  else if Ahead.group .bracket ts then
    g.slicePattern
    return .other
  else
    guard (Ahead.signBut ".." ["..."] ts)
    g.openPattern

end Grammar

end RecordQuery.Derive
