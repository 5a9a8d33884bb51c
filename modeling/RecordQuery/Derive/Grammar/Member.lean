import RecordQuery.Derive.Grammar.Signature

namespace RecordQuery.Derive.Grammar

variable (g : Grammar)

def traitItem : Scan Unit :=
  discard (Scan.keepingIf id do
    g.attributes
    let visible ← visibility
    let preset ← Scan.optionalWord "default"
    let ts ← Scan.rest
    let second := ts.drop 1
    if Ahead.word "fn" ts || Ahead.signature false ts then
      g.method
      return visible || preset
    else if Ahead.word "const" ts && (Ahead.name second || Ahead.word "_" second) then
      let (_, generic) ← g.constantDeclaration
      return visible || preset || generic
    else if Ahead.word "type" ts then
      discard (g.typeDeclaration .after)
      return visible || preset
    else
      guard (!visible && !preset && beginsCall ts)
      calledItem
      return false)

/-- A function of an implementation; whether its body is missing. -/
def implementedMethod : Scan Bool := do
  discard (g.signature false)
  if ← Scan.optionalSign ";" then return true
  else
    g.attributedBlock
    return false

def implementedItem : Scan Unit :=
  discard (Scan.keepingIf id do
    g.attributes
    let visible ← visibility
    let preset ← if ← Scan.ahead (fun ts => Ahead.word "default" ts && !Ahead.sign "!" (ts.drop 1)) then
        Scan.optionalWord "default"
      else pure false
    let ts ← Scan.rest
    if Ahead.word "fn" ts || Ahead.signature false ts then g.implementedMethod
    else if Ahead.word "const" ts then
      let (valued, generic) ← g.constantDeclaration
      return !valued || generic
    else if Ahead.word "type" ts then
      let (bounded, defined) ← g.typeDeclaration .after
      return bounded || !defined
    else
      guard (!visible && !preset && beginsCall ts)
      calledItem
      return false)

/-- A static variable without a value; whether there is a value none the less. -/
def foreignStatic : Scan Bool := do
  Scan.word "static"
  discard (Scan.optionalWord "mut")
  Scan.name
  Scan.sign ":"
  discard (g.type true)
  let valued ← Scan.optionalSign "="
  if valued then discard (g.expression true)
  Scan.sign ";"
  return valued

/-- A function without a body; whether there is a body none the less, or a word that it is safe. -/
def foreignFunction : Scan Bool := do
  let harmless ← g.signature true
  if ← Scan.ahead (Ahead.group .brace) then
    g.attributedBlock
    return true
  else
    Scan.sign ";"
    return harmless

def foreignItem : Scan Unit :=
  discard (Scan.keepingIf id do
    g.attributes
    let visible ← visibility
    let ts ← Scan.rest
    if Ahead.word "fn" ts || Ahead.signature true ts then g.foreignFunction
    else if Ahead.word "static" ts then g.foreignStatic
    else if Ahead.words ["unsafe", "safe"] ts && Ahead.word "static" (ts.drop 1) then
      Scan.anyWord
      discard g.foreignStatic
      return true
    else if Ahead.word "type" ts then
      let (bounded, defined) ← g.typeDeclaration .either
      return bounded || defined
    else
      guard (!visible && beginsCall ts)
      calledItem
      return false)

end RecordQuery.Derive.Grammar
