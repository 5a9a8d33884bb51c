import RecordQuery.Derive.Grammar.Item

namespace RecordQuery.Derive

namespace Grammar

/-- The phrases inside which others nest less deep than the bound. -/
def ofDepth : Nat → Grammar
  | 0 => empty
  | depth + 1 => {
    type plus := (ofDepth depth).typeRule plus
    bound capture constant := (ofDepth depth).boundRule capture constant
    expression structs := (ofDepth depth).expressionRule structs
    operand structs := (ofDepth depth).operandRule structs
    operation structs base left := (ofDepth depth).operationRule structs base left
    standalone := fun s => (ofDepth depth).standaloneRule s
    pattern := fun s => (ofDepth depth).patternRule s
    statements := fun s => (ofDepth depth).statementsRule s
    item := fun s => (ofDepth depth).itemRule s
    fields := fun s => (ofDepth depth).fieldsRule s
    imports root := (ofDepth depth).importsRule root }

end Grammar

/-- The rules that apply inside one another between two tokens are fewer than this. -/
def Scan.rulesPerToken : Nat := 8

def Grammar.ofTokens (ts : List Token) : Grammar :=
  ofDepth (Scan.rulesPerToken * (Token.sizeOf ts + 1))

/-- What a phrase that is made of all the tokens gives, and the tokens as they are printed. -/
def Scan.whole {α : Type} (phrase : Grammar → Scan α) (ts : List Token) : Option (α × List Token) :=
  (phrase (Grammar.ofTokens ts)).run ts

end RecordQuery.Derive
