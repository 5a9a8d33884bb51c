import RecordQuery.Derive.Grammar

namespace RecordQuery.Derive

def commaList {α : Type} (entry : Grammar → Scan α) (ts : List Token) : Option (List α) := do
  let (entries, _) ← Scan.whole (fun g => Scan.listed List.isEmpty (entry g)) ts
  return entries.map (·.1)

def Meta.ofTokens (ts : List Token) : Option (List Meta) :=
  commaList Grammar.entry ts

def AccessorDecl.scan (g : Grammar) : Scan AccessorDecl := do
  let method ← Scan.captured Scan.name
  Scan.sign ":"
  let type ← Scan.captured (discard (g.type true))
  return ⟨Token.textOf method, Token.textOf type⟩

def AccessorDecl.ofTokens (ts : List Token) : Option (List AccessorDecl) :=
  commaList AccessorDecl.scan ts

end RecordQuery.Derive
