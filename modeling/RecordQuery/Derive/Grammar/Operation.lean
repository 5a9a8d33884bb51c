import RecordQuery.Derive.Grammar.Pattern

namespace RecordQuery.Derive

/-- The operators between two operands with how tightly they bind; those that begin with another one
come first. -/
def operators : List (String × Precedence) := [
  ("+=", .assignment), ("-=", .assignment), ("*=", .assignment), ("/=", .assignment),
  ("%=", .assignment), ("^=", .assignment), ("&=", .assignment), ("|=", .assignment),
  ("<<=", .assignment), (">>=", .assignment), ("&&", .conjunction), ("||", .disjunction),
  ("<<", .shift), (">>", .shift), ("==", .comparison), ("<=", .comparison), ("!=", .comparison),
  (">=", .comparison), ("+", .sum), ("-", .sum), ("*", .product), ("/", .product), ("%", .product),
  ("^", .bitXor), ("&", .bitAnd), ("|", .bitOr), ("<", .comparison), (">", .comparison)]

namespace Ahead

def operator (ts : List Token) : Option (String × Precedence) :=
  operators.find? fun (s, _) => sign s ts

def assignment (ts : List Token) : Bool :=
  signBut "=" ["=>"] ts

def precedence (ts : List Token) : Precedence :=
  match operator ts with
  | some (_, p) => p
  | none =>
    if assignment ts then .assignment
    else if sign ".." ts then .range
    else if word "as" ts then .cast
    else .lowest

def field (ts : List Token) : Bool :=
  signBut "." [".."] ts

def rangeEnd (structs : Bool) (ts : List Token) : Bool :=
  ts.isEmpty || field ts || word "as" ts || !structs && group .brace ts ||
    signs [",", ";", "?", "=", "+", "/", "%", "^", ">", "<=", "!=", "-=", "*=", "&=", "|=", "<<="] ts

end Ahead

namespace Grammar

variable (g : Grammar)

def rightOperand (structs : Bool) (p : Precedence) : Scan Unit := do
  let right ← g.operand structs
  discard (Scan.iterate (fun right => do
    let ts ← Scan.rest
    let next := Ahead.precedence ts
    if next.rank > p.rank || next = .assignment && p = .assignment then
      let right ← g.operation structs next right
      return if (← Scan.rest).length < ts.length then some right else none
    else return none) right)

def range (structs : Bool) : Scan Unit := do
  guard !(← Scan.ahead (Ahead.sign "..."))
  if ← Scan.optionalSign "..=" then g.rightOperand structs .range
  else
    Scan.sign ".."
    if !(← Scan.ahead (Ahead.rangeEnd structs)) then g.rightOperand structs .range

def conversion : Scan Unit := do
  Scan.word "as"
  discard (g.type false)
  guard !(← Scan.ahead fun ts =>
    Ahead.field ts || Ahead.sign "?" ts || Ahead.group .bracket ts || Ahead.group .parenthesis ts)

def operationRule (structs : Bool) (base : Precedence) (left : ExpressionShape) :
    Scan ExpressionShape := do
  let ts ← Scan.rest
  let atLeast (p : Precedence) : Bool := base.rank ≤ p.rank
  match left, Ahead.operator ts with
  | .range, _ => return left
  | _, some (s, p) =>
    if !atLeast p then return left
    else
      guard !(p = .comparison && left = .comparison)
      Scan.sign s
      g.rightOperand structs p
      g.operation structs base (if p = .comparison then .comparison else .other)
  | _, none =>
    if atLeast .assignment && Ahead.assignment ts then
      Scan.sign "="
      g.rightOperand structs .assignment
      g.operation structs base .other
    else if atLeast .range && Ahead.sign ".." ts then
      g.range structs
      return .range
    else if atLeast .cast && Ahead.word "as" ts then
      g.conversion
      g.operation structs base .other
    else return left

def callArguments : Scan Unit :=
  Scan.inside .parenthesis (Scan.commas (discard (g.expression true)))

def afterDot : Scan Unit := do
  if !(← Scan.optionalWord "await") then
    if ← member then
      if ← Scan.ahead (Ahead.sign "::") then
        g.turbofish
        g.callArguments
      else discard (Scan.optional (Ahead.group .parenthesis) g.callArguments)

/-- The positions of fields in a number with points. What follows a point at its end is not in it. -/
def positions : List String → Scan Unit
  | [] => return ()
  | part :: parts =>
    if part.isEmpty then g.afterDot
    else
      match positionOf part with
      | some n => do
        Scan.write [.literal n.repr none]
        if !parts.isEmpty then Scan.write [.mark '.' false]
        positions parts
      | none => failure

def field : Scan Unit := do
  Scan.sign "."
  match ← Scan.rest with
  | .literal text _ :: _ =>
    Scan.skip 1
    g.positions (text.splitOn ".")
  | _ => g.afterDot

/-- What may follow an operand: a call, a field, an index or a question mark. After a range only the
first and the third. -/
def trailer (shape : ExpressionShape) : Scan (Option ExpressionShape) := do
  let ts ← Scan.rest
  if Ahead.group .parenthesis ts then
    g.callArguments
    return some .other
  else if Ahead.group .bracket ts then
    Scan.inside .bracket (discard (g.expression true))
    return some .other
  else if Ahead.field ts && shape ≠ .range then
    g.field
    return some .other
  else if Ahead.sign "?" ts && shape ≠ .range then
    Scan.sign "?"
    return some .other
  else return none

def trailers (shape : ExpressionShape) : Scan ExpressionShape :=
  Scan.iterate g.trailer shape

end Grammar

end RecordQuery.Derive
