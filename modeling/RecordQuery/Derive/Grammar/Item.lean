import RecordQuery.Derive.Grammar.Member
import RecordQuery.Derive.Grammar.Statement

namespace RecordQuery.Derive.Grammar

variable (g : Grammar)

def namedField : Scan Unit := do
  g.attributes
  discard visibility
  let unnamed ← Scan.ahead (Ahead.word "_")
  Scan.token (fun ts => Ahead.name ts || Ahead.word "_" ts)
  Scan.sign ":"
  let ts ← Scan.rest
  if unnamed && (Ahead.word "struct" ts || Ahead.word "union" ts && Ahead.group .brace (ts.drop 1)) then
    Scan.keeping do
      Scan.anyWord
      g.fields
  else discard (g.type true)

def fieldsRule : Scan Unit :=
  Scan.inside .brace (Scan.commas g.namedField)

def positionalFields : Scan Unit :=
  Scan.inside .parenthesis (Scan.commas do
    g.attributes
    discard visibility
    discard (g.type true))

def variant : Scan Unit := do
  g.attributes
  discard (Scan.silently visibility)
  Scan.name
  if ← Scan.ahead (Ahead.group .brace) then g.fields
  else discard (Scan.optional (Ahead.group .parenthesis) g.positionalFields)
  if ← Scan.optionalSign "=" then discard (g.expression true)

def record : Scan Unit := do
  Scan.word "struct"
  Scan.name
  discard g.generics
  let conditioned ← g.conditions
  let ts ← Scan.rest
  if Ahead.group .brace ts then g.fields
  else
    if Ahead.group .parenthesis ts && !conditioned then
      g.positionalFields
      discard g.conditions
    Scan.sign ";"

def enumeration : Scan Unit := do
  Scan.word "enum"
  Scan.name
  discard g.generics
  discard g.conditions
  Scan.inside .brace (Scan.commas g.variant)

def union : Scan Unit := do
  Scan.word "union"
  Scan.name
  discard g.generics
  discard g.conditions
  g.fields

def moduleItem : Scan Unit := do
  discard (Scan.optionalWord "unsafe")
  Scan.word "mod"
  Scan.token (fun ts => Ahead.name ts || Ahead.word "try" ts)
  if ← Scan.ahead (Ahead.group .brace) then g.itemGroup g.item else Scan.sign ";"

def newName : Scan Unit := do
  if ← Scan.optionalWord "as" then Scan.token (fun ts => Ahead.name ts || Ahead.word "_" ts)

def importsRule (root : Bool) : Scan Bool := do
  let ts ← Scan.rest
  if Ahead.name ts || Ahead.words ["self", "super", "crate", "try"] ts then
    Scan.anyWord
    if ← Scan.optionalSign "::" then g.imports false
    else
      newName
      return false
  else if ← Scan.optionalSign "*" then return false
  else
    let found ← Scan.inside .brace (Scan.collected "," do
      let here ← if root then Scan.optionalSign "::" else pure false
      return (← g.imports (root && !here)) || here)
    return found.contains true

def importing : Scan Bool := do
  Scan.word "use"
  let leading ← Scan.optionalSign "::"
  let rooted ← g.imports !leading
  Scan.sign ";"
  return rooted

def externalCrate : Scan Unit := do
  Scan.word "extern"
  Scan.word "crate"
  Scan.token (fun ts => Ahead.name ts || Ahead.word "self" ts)
  newName
  Scan.sign ";"

def foreignModule : Scan Unit := do
  discard (Scan.optionalWord "unsafe")
  Scan.word "extern"
  discard (Scan.optional Ahead.textLiteral Scan.literal)
  g.itemGroup g.foreignItem

/-- A function; whether its body is missing. -/
def function : Scan Bool := do
  discard (g.signature false)
  if ← Scan.optionalSign ";" then return true
  else
    g.attributedBlock
    return false

/-- A static variable; whether its type or its value is missing. -/
def static : Scan Bool := do
  Scan.word "static"
  discard (Scan.optionalWord "mut")
  Scan.name
  let typed ← Scan.optionalSign ":"
  if typed then discard (g.type true)
  let valued ← if typed && (← Scan.ahead (Ahead.sign ";")) then pure false
    else
      Scan.sign "="
      discard (g.expression true)
      pure true
  Scan.sign ";"
  return !(typed && valued)

def traitBody : Scan Unit := do
  let stop (ts : List Token) : Bool := Ahead.word "where" ts || Ahead.group .brace ts
  afterColon (Scan.separated "+" stop (discard (g.bound false true)))
  discard g.conditions
  g.itemGroup g.traitItem

def traitDeclaration : Scan Unit := do
  let special ← Scan.ahead (Ahead.words ["unsafe", "auto"])
  discard (Scan.optionalWord "unsafe")
  discard (Scan.optionalWord "auto")
  Scan.word "trait"
  Scan.name
  discard g.generics
  if !special && (← Scan.ahead (Ahead.sign "=")) then
    Scan.sign "="
    let stop (ts : List Token) : Bool := Ahead.word "where" ts || Ahead.sign ";" ts
    Scan.separated "+" stop (discard (g.bound false false))
    discard g.conditions
    Scan.sign ";"
  else g.traitBody

/-- An implementation; whether it is constant, or of something that is no trait. -/
def implementation : Scan Bool := do
  discard (Scan.optionalWord "default")
  discard (Scan.optionalWord "unsafe")
  Scan.word "impl"
  if ← Scan.ahead Ahead.parameters then discard g.generics
  let ts ← Scan.rest
  let constant := Ahead.word "const" ts || Ahead.sign "?" ts && Ahead.word "const" (ts.drop 1)
  if constant then
    discard (Scan.optionalSign "?")
    Scan.word "const"
  let negative ← Scan.optional (fun ts => Ahead.sign "!" ts && !Ahead.group .brace (ts.drop 1)) (Scan.sign "!")
  let shape ← g.type true
  let ofTrait ← Scan.optionalWord "for"
  if ofTrait then discard (g.type true) else guard !negative
  discard g.conditions
  g.itemGroup g.implementedItem
  return constant || ofTrait && !(shape matches .segment | .path)

def calledDefinition : Scan Unit := do
  discard plainPath
  Scan.sign "!"
  discard (Scan.optional (fun ts => Ahead.name ts || Ahead.word "try" ts) Scan.anyWord)
  let braced ← Scan.ahead (Ahead.group .brace)
  Scan.anyGroup
  if !braced then Scan.sign ";"

def closedDeclaration : Scan Unit := do
  Scan.anyWord
  Scan.name
  discard (Scan.optional (Ahead.group .parenthesis) Scan.anyGroup)
  Scan.token (Ahead.group .brace)

/-- What an item is that begins with `unsafe`; whether it is written as it stands. -/
def unsafeItem (visible : Bool) : Scan Bool := do
  let second := (← Scan.rest).drop 1
  if Ahead.word "trait" second || Ahead.word "auto" second && Ahead.word "trait" (second.drop 1) then
    g.traitDeclaration
    return false
  else if Ahead.word "impl" second then return (← g.implementation) || visible
  else if Ahead.word "mod" second then
    g.moduleItem
    return false
  else
    guard !visible
    g.foreignModule
    return false

/-- An item after its visibility; whether it is written as it stands. -/
def itemBody (visible : Bool) : Scan Bool := do
  let ts ← Scan.rest
  let second := ts.drop 1
  if Ahead.word "fn" ts || Ahead.signature false ts then g.function
  else if Ahead.word "extern" ts then
    if Ahead.word "crate" second then externalCrate
    else
      guard !visible
      g.foreignModule
    return false
  else if Ahead.word "use" ts then g.importing
  else if Ahead.word "static" ts then g.static
  else if Ahead.word "const" ts then
    let (valued, generic) ← g.constantDeclaration
    return !valued || generic
  else if Ahead.word "unsafe" ts then g.unsafeItem visible
  else if Ahead.word "type" ts then
    let (bounded, defined) ← g.typeDeclaration .before
    return bounded || !defined
  else if Ahead.word "impl" ts || Ahead.word "default" ts && !Ahead.sign "!" second then
    return (← g.implementation) || visible
  else if Ahead.word "macro" ts then
    closedDeclaration
    return true
  else
    if Ahead.word "mod" ts then g.moduleItem
    else if Ahead.word "struct" ts then g.record
    else if Ahead.word "enum" ts then g.enumeration
    else if Ahead.word "union" ts && Ahead.name second then g.union
    else if Ahead.word "trait" ts || Ahead.word "auto" ts && Ahead.word "trait" second then
      g.traitDeclaration
    else
      guard (!visible && beginsCall ts)
      calledDefinition
    return false

def itemRule : Scan Unit :=
  discard (Scan.keepingIf id do
    g.attributes
    let visible ← visibility
    g.itemBody visible)

end RecordQuery.Derive.Grammar
