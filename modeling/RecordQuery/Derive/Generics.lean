import RecordQuery.Derive.Grammar
import RecordQuery.Derive.Lexer

namespace RecordQuery.Derive

/-- Parameters, each with whether a comma follows it, and the conditions on them. -/
structure Generics where
  parameters : List (Parameter × Bool)
  conditions : List Token

namespace Generics

def scan (g : Grammar) : Scan Generics := do
  let parameters ← g.parameters
  let conditions ← Scan.captured (discard g.conditions)
  return ⟨parameters, conditions⟩

/-- Reads what stands after the name of a declaration: parameters between angle brackets, then
conditions after `where`; either may be missing. -/
def read (text : String) : Option Generics := do
  let (generics, _) ← Scan.whole scan (← Lexer.tokens text)
  return generics

def declaration (g : Generics) : String :=
  Token.textOf (Parameter.bracketed (·.declaration) g.parameters)

def arguments (g : Generics) : String :=
  Token.textOf (Parameter.bracketed (·.name) g.parameters)

def condition (g : Generics) : String :=
  Token.textOf g.conditions

end Generics

end RecordQuery.Derive
