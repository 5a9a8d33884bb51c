import RecordQuery.Derive.Grammar.Expression

namespace RecordQuery.Derive.Grammar

variable (g : Grammar)

def localBinding : Scan Unit := do
  Scan.word "let"
  discard g.pattern
  if ← Scan.optionalSign ":" then discard (g.type true)
  if ← Scan.optionalSign "=" then
    let (_, value) ← Scan.reading (g.expression true)
    if !Ahead.group .brace (value.drop (value.length - 1)) then
      if ← Scan.optionalWord "else" then g.block
  Scan.sign ";"

def definesByCall (ts : List Token) : Bool :=
  Ahead.sign "!" ts && (Ahead.name (ts.drop 1) || Ahead.word "try" (ts.drop 1))

def callsWithBraces (ts : List Token) : Bool :=
  Ahead.sign "!" ts && Ahead.group .brace (ts.drop 1) &&
    !(Ahead.field (ts.drop 2) || Ahead.sign "?" (ts.drop 2))

def afterPath (test : List Token → Bool) : Scan Bool :=
  Scan.wouldBe do
    discard plainPath
    Scan.ahead test

def beginsItem (ts : List Token) : Bool :=
  let second := ts.drop 1
  let third := ts.drop 2
  Ahead.words ["pub", "extern", "use", "fn", "mod", "type", "struct", "enum", "trait", "impl", "macro"]
      ts ||
    Ahead.word "crate" ts && !Ahead.sign "::" second ||
    Ahead.word "static" ts && (Ahead.word "mut" second || Ahead.name second) ||
    Ahead.word "const" ts &&
      !(Ahead.group .brace second || Ahead.words ["static", "move"] second || Ahead.sign "|" second ||
        Ahead.word "async" second && !Ahead.words ["unsafe", "extern", "fn"] third) ||
    Ahead.word "unsafe" ts && !Ahead.group .brace second ||
    Ahead.word "async" ts && Ahead.words ["unsafe", "extern", "fn"] second ||
    Ahead.word "union" ts && Ahead.name second ||
    Ahead.word "auto" ts && Ahead.word "trait" second ||
    Ahead.word "default" ts && Ahead.words ["unsafe", "impl"] second

/-- An expression as a statement; whether it needs a semicolon after it but has none. -/
def expressionStatement (attributes : List Token) : Scan Bool := do
  let ((shape, kept), tokens) ← Scan.capture g.standalone
  if !kept then Scan.write attributes
  Scan.write tokens
  if ← Scan.optionalSign ";" then return false
  else return shape ≠ .block && shape ≠ .bracedCall

def isItem : Scan Bool := do
  if ← afterPath callsWithBraces then return false
  else if ← Scan.ahead beginsItem then return true
  else afterPath definesByCall

def statement : Scan Bool := do
  if ← Scan.wouldBe (do g.attributes; isItem) then
    g.item
    return false
  else
    let attributes ← Scan.captured g.attributes
    if ← afterPath callsWithBraces then
      Scan.write attributes
      discard plainPath
      invocation
      discard (Scan.optionalSign ";")
      return false
    else if ← Scan.ahead (Ahead.word "let") then
      Scan.write attributes
      g.localBinding
      return false
    else g.expressionStatement attributes

def statementsRule : Scan Unit :=
  Scan.repeating do
    Scan.repeating (Scan.optionalSign ";")
    if ← Scan.atEnd then return false
    else
      let unfinished ← g.statement
      if ← Scan.atEnd then return false
      else
        guard !unfinished
        return true

end RecordQuery.Derive.Grammar
