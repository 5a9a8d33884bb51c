import RecordQuery.Derive.Grammar.Bound

namespace RecordQuery.Derive.Grammar

variable (g : Grammar)

def convention : Scan Unit := do
  if ← Scan.optionalWord "extern" then
    discard (Scan.optional Ahead.textLiteral Scan.literal)

/-- The type of a parameter of a function type, perhaps after a name. Forms of the first parameter that
only methods have are written as they stand. -/
def parameterType (first : Bool) : Scan Bool := do
  let ts ← Scan.rest
  let changing := first && Ahead.word "mut" ts && Ahead.word "self" (ts.drop 1)
  if changing then Scan.word "mut"
  let ts ← Scan.rest
  let receiver := first && Ahead.word "self" ts
  let named := (Ahead.name ts || Ahead.word "_" ts || receiver) && Ahead.signBut ":" ["::"] (ts.drop 1)
  if named then
    Scan.anyWord
    Scan.sign ":"
  let ts ← Scan.rest
  if first && !(named && receiver) && Ahead.word "mut" ts && Ahead.word "self" (ts.drop 1) then
    Scan.word "mut"
    Scan.word "self"
    return true
  else if changing && !named then
    Scan.word "self"
    return true
  else
    discard (g.type true)
    return changing

def isVariadic (ts : List Token) : Bool :=
  Ahead.sign "..." ts ||
    (Ahead.name ts || Ahead.word "_" ts) && Ahead.sign ":" (ts.drop 1) && Ahead.sign "..." (ts.drop 2)

/-- A parameter of a function type; whether another one may follow. -/
def functionParameter (first : Bool) : Scan Bool := do
  g.attributes
  if ← Scan.ahead isVariadic then
    if ← Scan.optional Ahead.anyWord Scan.anyWord then Scan.sign ":"
    Scan.sign "..."
    discard (Scan.optionalSign ",")
    return false
  else
    discard (Scan.keepingIf id (g.parameterType first))
    if ← Scan.atEnd then return false
    else
      Scan.sign ","
      return true

def functionParameters : Scan Unit := do
  if !(← Scan.atEnd) then
    if ← g.functionParameter true then
      Scan.repeating do
        if ← Scan.atEnd then return false else g.functionParameter false

def functionType : Scan Unit := do
  discard (Scan.optionalWord "unsafe")
  convention
  Scan.word "fn"
  Scan.inside .parenthesis g.functionParameters
  g.result false

def furtherBounds : Scan Unit :=
  Scan.repeating do
    if ← Scan.optionalSign "+" then
      discard (g.bound false false)
      return true
    else return false

/-- The content of a type in parentheses: a tuple or the like, a single bound that is marked by `?`, or
another type. -/
inductive Parenthesized where
  | closed
  | relaxed
  | type (shape : TypeShape)

def parenthesized : Scan Parenthesized := do
  let ts ← Scan.rest
  if ts.isEmpty then return .closed
  else if Ahead.lifetime ts then
    g.boundSum true false false
    return .closed
  else if Ahead.sign "?" ts then
    discard (g.trait false)
    return .relaxed
  else
    let shape ← g.type true
    if ← Scan.optionalSign "," then
      Scan.commas (discard (g.type true))
      return .closed
    else return .type shape

def parenthesizedType (plus : Bool) : Scan TypeShape := do
  let (content, tokens) ← Scan.capture (Scan.inside .parenthesis g.parenthesized)
  let sum := plus && (← Scan.ahead (Ahead.sign "+"))
  match content with
  | .closed =>
    Scan.write tokens
    return .other
  | .relaxed =>
    Scan.write tokens
    let single := !(← Scan.ahead (Ahead.sign "+"))
    g.furtherBounds
    return if single then .bound true else .other
  | .type .other =>
    Scan.write tokens
    return .other
  | .type shape =>
    if sum then
      match shape, tokens with
      | .bound true, [.group _ inner] => Scan.write inner
      | _, _ => Scan.write tokens
      g.furtherBounds
    else Scan.write tokens
    return .other

/-- A type that begins with a path: the path itself, an invocation, or several bounds. With a binder it
is a bound in any case; an invocation goes without the binder. -/
def pathType (plus : Bool) (binder : List Token) : Scan TypeShape := do
  let (p, tokens) ← Scan.capture (g.path .type)
  if p.qualified then
    Scan.write tokens
    return .other
  else if p.plain && (← Scan.ahead (Ahead.signBut "!" ["!="])) then
    Scan.write tokens
    invocation
    return .other
  else
    Scan.write (binder ++ tokens)
    if plus && (← Scan.ahead (Ahead.sign "+")) then
      Scan.repeating do
        if ← Scan.optionalSign "+" then
          if ← Scan.ahead Ahead.bound then
            discard (g.bound false false)
            return true
          else return false
        else return false
      return .other
    else return if binder.isEmpty then p.typeShape else .bound false

def boundType (plus : Bool) : Scan TypeShape := do
  let binder ← Scan.captured g.binder
  if ← Scan.ahead (Ahead.words ["fn", "unsafe", "extern"]) then
    Scan.write binder
    g.functionType
    return .other
  else
    guard (← Scan.ahead Ahead.pathWord)
    g.pathType plus binder

def listType : Scan Unit :=
  Scan.inside .bracket do
    discard (g.type true)
    if ← Scan.optionalSign ";" then discard (g.expression true)

def typeRule (plus : Bool) : Scan TypeShape := do
  let ts ← Scan.rest
  match ts with
  | .group .parenthesis _ :: _ => g.parenthesizedType plus
  | .group .bracket _ :: _ =>
    g.listType
    return .other
  | .lifetime _ :: _ =>
    g.boundSum true false false
    return .other
  | .word "for" :: _ => g.boundType plus
  | .word "fn" :: _ | .word "unsafe" :: _ | .word "extern" :: _ =>
    g.functionType
    return .other
  | .word "dyn" :: _ =>
    discard (Scan.keepingIf id do
      Scan.word "dyn"
      let starred ← Scan.optionalSign "*"
      g.boundSum plus false false
      return starred)
    return .other
  | .word "impl" :: _ =>
    Scan.word "impl"
    g.boundSum plus true true
    return .other
  | .word "_" :: _ =>
    Scan.anyWord
    return .other
  | .mark '*' _ :: _ =>
    Scan.sign "*"
    Scan.token (Ahead.words ["const", "mut"])
    discard (g.type false)
    return .other
  | .mark '&' _ :: _ =>
    Scan.sign "&"
    discard (Scan.optional Ahead.lifetime Scan.lifetime)
    discard (Scan.optionalWord "mut")
    discard (g.type false)
    return .other
  | .mark '!' _ :: _ =>
    Scan.sign "!"
    return .other
  | _ =>
    guard (Ahead.pathWord ts || Ahead.signs ["::", "<"] ts)
    g.pathType plus []

end RecordQuery.Derive.Grammar
