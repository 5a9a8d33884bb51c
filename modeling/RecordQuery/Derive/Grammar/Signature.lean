import RecordQuery.Derive.Grammar.Type

namespace RecordQuery.Derive

namespace Ahead

def skipping (test : List Token → Bool) (ts : List Token) : List Token :=
  if test ts then ts.drop 1 else ts

def signature (safe : Bool) (ts : List Token) : Bool :=
  let ts := skipping (word "async") (skipping (word "const") ts)
  let ts := if safe && word "safe" ts then ts.drop 1 else skipping (word "unsafe") ts
  word "fn" (if word "extern" ts then skipping textLiteral (ts.drop 1) else ts)

end Ahead

namespace Grammar

def visibility : Scan Bool := do
  if ← Scan.optionalWord "pub" then
    match ← Scan.rest with
    | .group .parenthesis [.word n] :: _ =>
      if ["crate", "self", "super"].contains n then Scan.anyGroup
    | .group .parenthesis (.word "in" :: _) :: _ =>
      Scan.inside .parenthesis do
        Scan.word "in"
        discard plainPath
    | _ => pure ()
    return true
  else return false

variable (g : Grammar)

/-- The generic parameters of an item; whether there are brackets for them. -/
def generics : Scan Bool := do
  let found ← Scan.ahead (Ahead.sign "<")
  Scan.write (Parameter.bracketed Parameter.whole (← g.parameters))
  return found

def receiver : Scan Unit := do
  let shared ← Scan.optionalSign "&"
  if shared then discard (Scan.optional Ahead.lifetime Scan.lifetime)
  discard (Scan.optionalWord "mut")
  Scan.word "self"
  if !shared then
    if ← Scan.optionalSign ":" then discard (g.type true)

def dots : Scan Unit := do
  Scan.sign "..."
  if !(← Scan.atEnd) then Scan.sign ","

/-- A parameter of a function; whether another one may follow. A type with arguments may stand alone. -/
def signatureParameter (first : Bool) : Scan Bool := do
  g.attributes
  let ts ← Scan.rest
  if Ahead.sign "..." ts then
    dots
    return false
  else if ← Scan.wouldBe (do g.receiver; return true) then
    guard first
    g.receiver
  else if Ahead.name ts && Ahead.sign "<" (ts.drop 1) then
    Scan.write [.word "_", .mark ':' false]
    discard (g.type true)
  else
    discard g.pattern
    Scan.sign ":"
    if ← Scan.ahead (Ahead.sign "...") then
      dots
      return false
    else discard (g.type true)
  if ← Scan.atEnd then return false
  else
    Scan.sign ","
    return true

def signatureParameters : Scan Unit := do
  if !(← Scan.atEnd) then
    if ← g.signatureParameter true then
      Scan.repeating do
        if ← Scan.atEnd then return false else g.signatureParameter false

/-- The signature of a function; whether it is declared safe, where `safe` allows that. -/
def signature (safe : Bool) : Scan Bool := do
  discard (Scan.optionalWord "const")
  discard (Scan.optionalWord "async")
  let harmful ← Scan.optionalWord "unsafe"
  let harmless ← if safe && !harmful then Scan.optionalWord "safe" else pure false
  convention
  Scan.word "fn"
  Scan.name
  discard g.generics
  Scan.inside .parenthesis g.signatureParameters
  g.result true
  discard g.conditions
  return harmless

def method : Scan Unit := do
  discard (g.signature false)
  if ← Scan.ahead (Ahead.group .brace) then g.attributedBlock else Scan.sign ";"

def calledItem : Scan Unit := do
  discard plainPath
  let braced ← Scan.ahead fun ts => Ahead.group .brace (ts.drop 1)
  invocation
  if !braced then Scan.sign ";"

def beginsCall (ts : List Token) : Bool :=
  Ahead.name ts || Ahead.words ["self", "super", "crate"] ts || Ahead.sign "::" ts

/-- Whether conditions stand before or after the definition of a type. -/
inductive ConditionPlace where
  | before
  | after
  | either
  deriving DecidableEq, Repr

/-- The declaration of a type by a name; whether it has bounds, and whether a definition. -/
def typeDeclaration (place : ConditionPlace) : Scan (Bool × Bool) := do
  Scan.word "type"
  Scan.name
  discard g.generics
  let bounded ← Scan.ahead (Ahead.sign ":")
  let stop (ts : List Token) : Bool := Ahead.word "where" ts || Ahead.signs ["=", ";"] ts
  afterColon (Scan.separated "+" stop (discard (g.bound false true)))
  let conditioned ← if place = .after then pure false else g.conditions
  let defined ← Scan.optionalSign "="
  if defined then discard (g.type true)
  if place ≠ .before && !conditioned then discard g.conditions
  Scan.sign ";"
  return (bounded, defined)

/-- What a constant item says; whether it has a value, and whether parameters or conditions. -/
def constantDeclaration : Scan (Bool × Bool) := do
  Scan.word "const"
  Scan.token (fun ts => Ahead.name ts || Ahead.word "_" ts)
  let generic ← g.generics
  Scan.sign ":"
  discard (g.type true)
  let valued ← Scan.optionalSign "="
  if valued then discard (g.expression true)
  let conditioned ← g.conditions
  Scan.sign ";"
  return (valued, generic || conditioned)

def itemsOf (item : Scan Unit) : Scan Unit :=
  Scan.repeating do
    if ← Scan.atEnd then return false
    else
      item
      return true

def itemGroup (item : Scan Unit) : Scan Unit :=
  Scan.inside .brace do
    g.innerAttributes
    itemsOf item

end Grammar

end RecordQuery.Derive
