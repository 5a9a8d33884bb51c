import RecordQuery.Derive.Grammar.Path

namespace RecordQuery.Derive

structure Parameter where
  lifetime : Bool
  declaration : List Token
  name : List Token
  default : List Token

namespace Parameter

def arranged (shown : Parameter → List Token) (ps : List (Parameter × Bool)) : List Token :=
  Angled.arranged (ps.map fun (p, comma) => ⟨p.lifetime, shown p, comma⟩)

def whole (p : Parameter) : List Token :=
  p.declaration ++ p.default

def bracketed (shown : Parameter → List Token) (ps : List (Parameter × Bool)) : List Token :=
  if ps.isEmpty then []
  else .mark '<' false :: (arranged shown ps ++ [.mark '>' false])

end Parameter

namespace Grammar

variable (g : Grammar)

def afterColon (bounds : Scan Unit) : Scan Unit := do
  if ← Scan.ahead (Ahead.sign ":") then
    Scan.silently (Scan.sign ":")
    let tokens ← Scan.captured bounds
    if !tokens.isEmpty then Scan.write (.mark ':' false :: tokens)

def lifetimeBounds : Scan Unit :=
  Scan.joined "+" (fun ts => ts.isEmpty || Ahead.signs [",", ">"] ts) Scan.lifetime

def parameterBounds : Scan Unit :=
  g.boundsUpTo fun ts => ts.isEmpty || Ahead.signs [",", ">", "="] ts

def defaultValue (value : Scan Unit) : Scan (List Token) :=
  Scan.captured do
    if ← Scan.optionalSign "=" then value

def parameter : Scan Parameter := do
  let attributes ← Scan.captured g.attributes
  if ← Scan.ahead Ahead.lifetime then
    let name ← Scan.captured Scan.lifetime
    let bounds ← Scan.captured (afterColon lifetimeBounds)
    return ⟨true, attributes ++ name ++ bounds, name, []⟩
  else if ← Scan.ahead (Ahead.word "const") then
    let constant ← Scan.captured (Scan.word "const")
    let name ← Scan.captured Scan.name
    let type ← Scan.captured do
      Scan.sign ":"
      discard (g.type true)
    return ⟨false, attributes ++ constant ++ name ++ type, name, ← defaultValue g.constant⟩
  else
    let name ← Scan.captured Scan.name
    let bounds ← Scan.captured (afterColon g.parameterBounds)
    return ⟨false, attributes ++ name ++ bounds, name, ← defaultValue (discard (g.type true))⟩

def blankParameter : Scan Parameter := do
  let attributes ← Scan.captured g.attributes
  let name ← Scan.captured (Scan.word "_")
  return ⟨false, attributes ++ name, name, []⟩

/-- The parameters of a declaration, if it has any, each with whether a comma follows. -/
def parameters : Scan (List (Parameter × Bool)) := do
  if ← Scan.ahead (Ahead.sign "<") then
    Scan.silently do
      Scan.sign "<"
      let ps ← Scan.listed (Ahead.sign ">") do
        if ← Scan.wouldBe (do g.attributes; Scan.ahead (Ahead.word "_")) then g.blankParameter
        else g.parameter
      Scan.sign ">"
      return ps
  else return []

def binder : Scan Unit := do
  Scan.word "for"
  Scan.sign "<"
  Scan.separated "," (Ahead.sign ">") do
    Scan.write (← g.parameter).whole
  Scan.sign ">"

def optionalBinder : Scan Bool :=
  Scan.optional (Ahead.word "for") g.binder

def endsConditions (ts : List Token) : Bool :=
  ts.isEmpty || Ahead.group .brace ts || Ahead.signs [",", ";", "="] ts || Ahead.signBut ":" ["::"] ts

def condition : Scan Unit := do
  if ← Scan.ahead (fun ts => Ahead.lifetime ts && Ahead.sign ":" (ts.drop 1)) then
    Scan.lifetime
    Scan.sign ":"
    Scan.joined "+" (fun ts => endsConditions ts || Ahead.sign ":" ts) Scan.lifetime
  else
    discard g.optionalBinder
    discard (g.type true)
    Scan.sign ":"
    g.boundsUpTo endsConditions

/-- The conditions after `where`, if the word is there. Without conditions it is left out. -/
def conditions : Scan Bool := do
  if ← Scan.ahead (Ahead.word "where") then
    Scan.silently (Scan.word "where")
    guard !(← Scan.ahead Ahead.parameters)
    let tokens ← Scan.captured (Scan.joined "," endsConditions g.condition)
    if !tokens.isEmpty then Scan.write (.word "where" :: tokens)
    return true
  else return false

end Grammar

end RecordQuery.Derive
