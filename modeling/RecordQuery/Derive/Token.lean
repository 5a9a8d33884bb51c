import RecordQuery.Text.Escaped

namespace RecordQuery.Derive

inductive Delimiter where
  | parenthesis
  | bracket
  | brace
  deriving DecidableEq, Repr

/-- A mark is joint if another mark follows it at once. A literal keeps its text, and a text literal
also the text that it denotes. -/
inductive Token where
  | word (name : String)
  | lifetime (name : String)
  | mark (c : Char) (joint : Bool)
  | literal (text : String) (value : Option String)
  | group (delimiter : Delimiter) (tokens : List Token)
  deriving Repr

/-- A text as a literal of the generated code. A null character before a digit is written so that
the digit does not join its escape. -/
def textLiteral (s : String) : String :=
  String.ofList ('"' :: (go s.toList ++ ['"']))
where
  go : List Char → List Char
    | [] => []
    | '\x00' :: c :: cs =>
      (if '0' ≤ c ∧ c ≤ '7' then ['\\', 'x', '0', '0'] else ['\\', '0']) ++ go (c :: cs)
    | '\'' :: cs => '\'' :: go cs
    | c :: cs => Text.escapeChar c ++ go cs

namespace Token

mutual

def text : Token → String
  | word name => name
  | lifetime name => "'" ++ name
  | mark c _ => c.toString
  | literal text _ => text
  | group .parenthesis ts => "(" ++ textOf ts ++ ")"
  | group .bracket ts => "[" ++ textOf ts ++ "]"
  | group .brace [] => "\x7b \x7d"
  | group .brace ts => "\x7b " ++ textOf ts ++ " \x7d"

def textOf : List Token → String
  | [] => ""
  | [t] => text t
  | mark c true :: ts => c.toString ++ textOf ts
  | t :: ts => text t ++ " " ++ textOf ts

end

mutual

def size : Token → Nat
  | group _ ts => sizeOf ts + 1
  | _ => 1

def sizeOf : List Token → Nat
  | [] => 0
  | t :: ts => size t + sizeOf ts

end

def reservedWords : List String := [
  "_", "abstract", "as", "async", "await", "become", "box", "break", "const", "continue", "crate",
  "do", "dyn", "else", "enum", "extern", "false", "final", "fn", "for", "if", "impl", "in", "let",
  "loop", "macro", "match", "mod", "move", "mut", "override", "priv", "pub", "ref", "return",
  "Self", "self", "static", "struct", "super", "trait", "true", "try", "type", "typeof", "unsafe",
  "unsized", "use", "virtual", "where", "while", "yield"]

def pathWords : List String := ["super", "self", "Self", "crate"]

def isName (word : String) : Bool :=
  !reservedWords.contains word

end Token

end RecordQuery.Derive
