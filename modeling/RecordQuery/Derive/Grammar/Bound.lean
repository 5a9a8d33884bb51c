import RecordQuery.Derive.Grammar.Parameter

namespace RecordQuery.Derive.Grammar

variable (g : Grammar)

def result (plus : Bool) : Scan Unit := do
  if ← Scan.optionalSign "->" then discard (g.type plus)

def functionArguments : Scan Unit := do
  Scan.inside .parenthesis (Scan.commas (discard (g.type true)))
  g.result false

/-- A trait, perhaps marked by `?` or binding parameters of its own, or else constant. A constant one
is written as it stands, so whether it is constant is told. -/
def trait (constant : Bool) : Scan Bool := do
  let bound ← g.optionalBinder
  let limited ← if ← Scan.ahead (Ahead.group .bracket) then
      Scan.inside .bracket (Scan.word "const")
      pure true
    else Scan.optionalWord "const"
  guard (!limited || constant)
  let relaxed ← Scan.optionalSign "?"
  let bound ← if relaxed && !bound then g.optionalBinder else pure bound
  let p ← g.unqualifiedPath .type
  let ts ← Scan.rest
  let spaced := Ahead.sign "::" ts && Ahead.group .parenthesis (ts.drop 2)
  if p.empty && (spaced || Ahead.group .parenthesis ts) then
    if spaced then Scan.skip 2
    g.functionArguments
  else Scan.write p.arguments
  guard (!(bound && relaxed))
  return limited

def captures : Scan Unit := do
  Scan.word "use"
  discard (angled do
    if ← Scan.optional Ahead.lifetime Scan.lifetime then return true
    else
      Scan.token (fun ts => Ahead.name ts || Ahead.word "Self" ts)
      return false)

def boundRule (capture constant : Bool) : Scan BoundShape := do
  let ts ← Scan.rest
  if Ahead.lifetime ts then
    Scan.lifetime
    return .lifetime
  else if Ahead.word "use" ts then
    captures
    guard capture
    return .capture
  else
    discard (Scan.keepingIf id do
      if Ahead.group .parenthesis ts then Scan.inside .parenthesis (g.trait constant)
      else g.trait constant)
    return .trait

/-- Bounds with plus signs between them and perhaps after the last one, if `plus` allows them. One of
the bounds has to be a trait. -/
def boundSum (plus capture constant : Bool) : Scan Unit := do
  let shapes ← Scan.answers do
    let shape ← g.bound capture constant
    if plus && (← Scan.optionalSign "+") then
      let ts ← Scan.rest
      return (shape, Ahead.bound ts || constant && Ahead.group .bracket ts)
    else return (shape, false)
  guard (shapes.contains .trait)

end RecordQuery.Derive.Grammar
