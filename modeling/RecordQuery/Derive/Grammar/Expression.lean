import RecordQuery.Derive.Grammar.Operation

namespace RecordQuery.Derive.Grammar

variable (g : Grammar)

def conditional : Scan Unit :=
  Scan.repeating do
    Scan.word "if"
    discard (g.expression false)
    g.block
    if ← Scan.optionalWord "else" then
      if ← Scan.ahead (Ahead.word "if") then return true
      else
        g.block
        return false
    else return false

def loop : Scan Unit := do
  if ← Scan.optionalWord "while" then discard (g.expression false)
  else if ← Scan.optionalWord "for" then
    discard g.alternatives
    Scan.word "in"
    discard (g.expression false)
  else Scan.word "loop"
  g.attributedBlock

def labelled : Scan Unit := do
  Scan.lifetime
  Scan.sign ":"
  if ← Scan.ahead (Ahead.group .brace) then g.attributedBlock else g.loop

def arm : Scan Unit := do
  g.attributes
  discard g.alternatives
  if ← Scan.optionalWord "if" then discard (g.expression true)
  Scan.sign "=>"
  let (shape, _) ← g.standalone
  if shape = .block || (← Scan.atEnd) then discard (Scan.optionalSign ",")
  else Scan.sign ","

def selection : Scan Unit := do
  Scan.word "match"
  discard (g.expression false)
  Scan.inside .brace do
    g.innerAttributes
    Scan.repeating do
      if ← Scan.atEnd then return false
      else
        g.arm
        return true

/-- An expression that ends in a block and ends a statement with it; whether there is one. -/
def blockLike : Scan Bool := do
  let ts ← Scan.rest
  let second := ts.drop 1
  if Ahead.word "if" ts then
    g.conditional
    return true
  else if Ahead.words ["while", "loop"] ts || Ahead.word "for" ts && !Ahead.parameters second then
    g.loop
    return true
  else if Ahead.word "match" ts then
    g.selection
    return true
  else if Ahead.word "try" ts && Ahead.group .brace second then
    Scan.anyWord
    g.block
    return true
  else if Ahead.word "unsafe" ts || Ahead.word "const" ts && Ahead.group .brace second then
    Scan.anyWord
    g.attributedBlock
    return true
  else if Ahead.group .brace ts then
    g.attributedBlock
    return true
  else if Ahead.lifetime ts then
    g.labelled
    return true
  else return false

def closureParameter : Scan Unit := do
  let attributes ← Scan.captured g.attributes
  let (shape, pattern) ← Scan.capture g.pattern
  let typed ← Scan.ahead (Ahead.sign ":")
  if typed || shape ≠ .kept then Scan.write attributes
  Scan.write pattern
  if typed then
    Scan.sign ":"
    discard (g.type true)

def closure (structs : Bool) : Scan Unit := do
  discard g.optionalBinder
  discard (Scan.optionalWord "const")
  discard (Scan.optionalWord "static")
  discard (Scan.optionalWord "async")
  discard (Scan.optionalWord "move")
  Scan.sign "|"
  Scan.separated "," (Ahead.sign "|") g.closureParameter
  Scan.sign "|"
  if ← Scan.optionalSign "->" then
    discard (g.type true)
    g.block
  else discard (g.expression structs)

def beginsClosure (ts : List Token) : Bool :=
  let second := ts.drop 1
  Ahead.sign "|" ts || Ahead.words ["move", "static"] ts ||
    Ahead.word "for" ts && Ahead.parameters second ||
    Ahead.word "const" ts && !Ahead.group .brace second ||
    Ahead.word "async" ts && (Ahead.sign "|" second || Ahead.word "move" second)

def fieldValue : Scan Unit := do
  g.attributes
  let named ← member
  if !named || (← Scan.ahead (Ahead.sign ":")) then
    Scan.sign ":"
    discard (g.expression true)

def fieldValues : Scan Unit :=
  Scan.repeating do
    if ← Scan.atEnd then return false
    else if ← Scan.optionalSign ".." then
      if !(← Scan.atEnd) then discard (g.expression true)
      return false
    else
      g.fieldValue
      if ← Scan.atEnd then return false
      else
        Scan.sign ","
        return true

def pathExpression (structs : Bool) : Scan ExpressionShape := do
  let p ← g.path .expression
  let ts ← Scan.rest
  if !p.qualified && p.plain && Ahead.signBut "!" ["!="] ts then
    invocation
    return if Ahead.group .brace (ts.drop 1) then .bracedCall else .other
  else
    if structs && Ahead.group .brace ts then Scan.inside .brace g.fieldValues
    return .other

def elements : Scan Unit := do
  if !(← Scan.atEnd) then
    discard (g.expression true)
    if ← Scan.optionalSign ";" then discard (g.expression true)
    else if !(← Scan.atEnd) then
      Scan.sign ","
      Scan.commas (discard (g.expression true))

def breaking (structs : Bool) : Scan Unit := do
  Scan.word "break"
  if ← Scan.optional Ahead.lifetime Scan.lifetime then guard !(← Scan.ahead (Ahead.sign ":"))
  if ← Scan.ahead (fun ts => Ahead.expression ts && (structs || !Ahead.group .brace ts)) then
    discard (g.expression true)

def returning : Scan Unit := do
  Scan.anyWord
  if ← Scan.ahead Ahead.expression then discard (g.expression true)

def binding (structs : Bool) : Scan Unit := do
  Scan.word "let"
  discard g.alternatives
  Scan.sign "="
  discard (g.operation structs .comparison (← g.operand structs))

def beginsPathExpression (ts : List Token) : Bool :=
  Ahead.pathWord ts || Ahead.signs ["::", "<"] ts ||
    Ahead.word "try" ts && Ahead.signs ["!", "::"] (ts.drop 1)

/-- An expression that begins with a word of its own; whether there is one. -/
def wordExpression (structs : Bool) : Scan Bool := do
  let ts ← Scan.rest
  let second := ts.drop 1
  let third := ts.drop 2
  if Ahead.word "async" ts &&
      (Ahead.group .brace second || Ahead.word "move" second && Ahead.group .brace third) then
    Scan.word "async"
    discard (Scan.optionalWord "move")
    g.block
    return true
  else if beginsClosure ts then
    g.closure structs
    return true
  else if Ahead.word "break" ts then
    g.breaking structs
    return true
  else if Ahead.word "continue" ts then
    Scan.word "continue"
    discard (Scan.optional Ahead.lifetime Scan.lifetime)
    return true
  else if Ahead.words ["return", "yield"] ts then
    g.returning
    return true
  else if Ahead.word "let" ts then
    g.binding structs
    return true
  else if Ahead.word "_" ts then
    Scan.anyWord
    return true
  else return false

def keptExpression : Scan Unit :=
  Scan.keeping do
    if ← Scan.optionalWord "become" then discard (g.expression true)
    else
      Scan.word "builtin"
      Scan.sign "#"
      Scan.name
      Scan.token (Ahead.group .parenthesis)

def atom (structs : Bool) : Scan ExpressionShape := do
  let ts ← Scan.rest
  if Ahead.literal ts then
    Scan.literal
    return .other
  else if ← g.wordExpression structs then return .other
  else if Ahead.word "become" ts || Ahead.word "builtin" ts && Ahead.sign "#" (ts.drop 1) then
    g.keptExpression
    return .kept
  else if beginsPathExpression ts then g.pathExpression structs
  else if Ahead.group .parenthesis ts then
    g.callArguments
    return .other
  else if Ahead.group .bracket ts then
    Scan.inside .bracket g.elements
    return .other
  else if Ahead.sign ".." ts then
    g.range structs
    return .range
  else
    guard (← g.blockLike)
    return .block

def reference (structs : Bool) : Scan Unit := do
  Scan.sign "&"
  let raw ← Scan.ahead fun ts => Ahead.word "raw" ts && Ahead.words ["mut", "const"] (ts.drop 1)
  if raw then
    Scan.anyWord
    Scan.anyWord
  else discard (Scan.optionalWord "mut")
  discard (g.operand structs)

def operandRule (structs : Bool) : Scan ExpressionShape :=
  Scan.keepingIf (· = .kept) do
    let attributed ← Scan.ahead (Ahead.sign "#")
    g.attributes
    let ts ← Scan.rest
    if Ahead.sign "&" ts then
      g.reference structs
      return .other
    else if ← Scan.someSign ["*", "!", "-"] then
      discard (g.operand structs)
      return .other
    else
      let shape ← g.trailers (← g.atom structs)
      guard !(attributed && shape = .range)
      return shape

def expressionRule (structs : Bool) : Scan ExpressionShape := do
  g.operation structs .lowest (← g.operand structs)

/-- A block ends the expression unless a dot or a question mark follows it. -/
def standaloneRule : Scan (ExpressionShape × Bool) := do
  let attributes ← Scan.captured g.attributes
  let ((isBlock, first), tokens) ← Scan.capture do
    if ← g.blockLike then return (true, ExpressionShape.block)
    else return (false, ← g.operand true)
  if first ≠ .kept then Scan.write attributes
  Scan.write tokens
  if !isBlock then
    let shape ← g.operation true .lowest first
    return (shape, first = .kept && shape ≠ .range)
  else if ← Scan.ahead (fun ts => Ahead.field ts || Ahead.sign "?" ts) then
    let first ← g.trailers .block
    return (← g.operation true .lowest first, false)
  else return (.block, false)

end RecordQuery.Derive.Grammar
