import RecordQuery.Derive.Grammar.Basic
import RecordQuery.Derive.Meta

namespace RecordQuery.Derive.Grammar

def plainPath : Scan (Option String) := do
  let leading ← Scan.optionalSign "::"
  let first ← Scan.rest
  Scan.token Ahead.pathWord
  let single := !leading && !(← Scan.ahead (Ahead.sign "::"))
  Scan.repeating do
    if ← Scan.optionalSign "::" then
      Scan.token Ahead.pathWord
      return true
    else return false
  match first with
  | .word n :: _ => return if single then some n else none
  | _ => return none

def invocation : Scan Unit := do
  Scan.sign "!"
  Scan.anyGroup

variable (g : Grammar)

def entryValue : Scan MetaValue := do
  let ts ← Scan.rest
  if Ahead.sign "#" ts && Ahead.group .bracket (ts.drop 1) then failure
  else
    let alone ← Scan.wouldBe do
      Scan.literal
      Scan.atEnd
    let (_, read) ← Scan.reading (if alone then Scan.literal else discard (g.expression true))
    return MetaValue.ofTokens read

def entry : Scan Meta := do
  let name ← if ← Scan.ahead (Ahead.word "unsafe") then
      Scan.word "unsafe"
      pure (some "unsafe")
    else plainPath
  match ← Scan.rest with
  | .group _ inner :: _ =>
    Scan.anyGroup
    return .list name inner
  | ts =>
    if Ahead.signBut "=" ["==", "=>"] ts then
      Scan.sign "="
      return .value name (← g.entryValue)
    else return .path name

def attributes : Scan Unit :=
  Scan.repeating do
    if ← Scan.optionalSign "#" then
      discard (Scan.inside .bracket g.entry)
      return true
    else return false

def innerAttributes : Scan Unit :=
  Scan.repeating do
    if ← Scan.ahead (fun ts => Ahead.sign "#" ts && Ahead.sign "!" (ts.drop 1)) then
      Scan.sign "#"
      Scan.sign "!"
      discard (Scan.inside .bracket g.entry)
      return true
    else return false

def block : Scan Unit :=
  Scan.inside .brace g.statements

def attributedBlock : Scan Unit :=
  Scan.inside .brace do
    g.innerAttributes
    g.statements

end RecordQuery.Derive.Grammar
