import RecordQuery.Derive.Grammar.Attribute

namespace RecordQuery.Derive

structure Angled where
  lifetime : Bool
  tokens : List Token
  comma : Bool

namespace Angled

def all (e : Angled) : List Token :=
  e.tokens ++ if e.comma then [.mark ',' false] else []

def arranged (entries : List Angled) : List Token :=
  let lifetimes := entries.filter (·.lifetime)
  let others := entries.filter (!·.lifetime)
  let closed := others.isEmpty || lifetimes.getLast?.all (·.comma)
  lifetimes.flatMap all ++ (if closed then [] else [.mark ',' false]) ++ others.flatMap all

end Angled

/-- In an expression, arguments come after `::`; in a type the sign may be missing. -/
inductive PathStyle where
  | type
  | expression
  deriving DecidableEq, Repr

/-- A path that belongs to a type is qualified. The arguments of the last segment are told apart:
their tokens, and whether there are any between the brackets. -/
structure PathShape where
  qualified : Bool
  single : Bool
  plain : Bool
  empty : Bool
  arguments : List Token

def PathShape.typeShape (p : PathShape) : TypeShape :=
  if p.qualified then .other else if p.single then .segment else .path

namespace Grammar

variable (g : Grammar)

def constant : Scan Unit := do
  if ← Scan.ahead Ahead.literal then Scan.literal
  else if ← Scan.ahead Ahead.name then Scan.name
  else
    Scan.inside .brace do
      g.innerAttributes
      g.statements

def boundsUpTo (stop : List Token → Bool) : Scan Unit :=
  Scan.joined "+" stop (discard (g.bound false true))

/-- A single generic argument; whether it is a lifetime. A type of a single segment may be given a
value, or bounds. -/
def argument : Scan Bool := do
  let ts ← Scan.rest
  if Ahead.lifetime ts && !Ahead.sign "+" (ts.drop 1) then
    Scan.lifetime
    return true
  else if Ahead.literal ts || Ahead.group .brace ts then
    g.constant
    return false
  else
    let shape ← g.type true
    if shape = .segment then
      if ← Scan.optionalSign "=" then
        if ← Scan.ahead (fun ts => Ahead.literal ts || Ahead.group .brace ts) then g.constant
        else discard (g.type true)
      else if ← Scan.optionalSign ":" then
        g.boundsUpTo (Ahead.signs [",", ">"])
    return false

def angled (part : Scan Bool) : Scan Bool := do
  Scan.sign "<"
  let entries ← Scan.listed (Ahead.sign ">") (Scan.capture part)
  Scan.write (Angled.arranged (entries.map fun ((lifetime, tokens), comma) => ⟨lifetime, tokens, comma⟩))
  Scan.sign ">"
  return entries.isEmpty

/-- Generic arguments; whether there are none between the brackets. -/
def arguments : Scan Bool :=
  angled g.argument

def turbofish : Scan Unit := do
  Scan.sign "::"
  discard g.arguments

/-- A segment of a path; the tokens of its arguments, if it may have some, are not written. -/
def segment (style : PathStyle) : Scan (Option (Bool × List Token)) := do
  if ← Scan.ahead (Ahead.words ["super", "self", "crate", "try"]) then
    Scan.anyWord
    return none
  else
    Scan.token (fun ts => Ahead.name ts || Ahead.word "Self" ts)
    let ts ← Scan.rest
    if style = .type && Ahead.signBut "<" ["<=", "<<="] ts ||
        Ahead.sign "::" ts && Ahead.sign "<" (ts.drop 2) then
      return some (← Scan.capture do
        discard (Scan.optionalSign "::")
        g.arguments)
    else return none

def segments (style : PathStyle) (more : List Token → Bool) (start : PathShape) : Scan PathShape :=
  Scan.iterate (fun p => do
    if ← Scan.ahead more then
      Scan.write p.arguments
      Scan.sign "::"
      match ← g.segment style with
      | some (empty, tokens) => return some ⟨p.qualified, false, false, empty, tokens⟩
      | none => return some ⟨p.qualified, false, p.plain, true, []⟩
    else return none) start

/-- A path on its own. The arguments of its last segment are not written yet. -/
def unqualifiedPath (style : PathStyle) : Scan PathShape := do
  let leading ← Scan.optionalSign "::"
  let start ← match ← g.segment style with
    | some (empty, tokens) => pure ⟨false, !leading, false, empty, tokens⟩
    | none => pure ⟨false, !leading, true, true, []⟩
  g.segments style (fun ts => Ahead.sign "::" ts && !Ahead.group .parenthesis (ts.drop 2)) start

def path (style : PathStyle) : Scan PathShape := do
  let p ← if ← Scan.ahead (Ahead.sign "<") then
      Scan.sign "<"
      discard (g.type true)
      if ← Scan.optionalWord "as" then
        let trait ← g.unqualifiedPath .type
        Scan.write trait.arguments
      Scan.sign ">"
      guard (← Scan.ahead (Ahead.sign "::"))
      g.segments style (Ahead.sign "::") ⟨true, false, false, true, []⟩
    else g.unqualifiedPath style
  Scan.write p.arguments
  return p

end Grammar

end RecordQuery.Derive
