import RecordQuery.Text.PrintTable

namespace RecordQuery.Text

def isShown (c : Char) : Bool :=
  !unprintableRanges.contains c && !extendingMarkRanges.contains c && !fillerRanges.contains c

def escapeCode (c : Char) : List Char :=
  '\\' :: 'u' :: '{' :: (Nat.toDigits 16 c.toNat ++ ['}'])

def escapeChar (c : Char) : List Char :=
  match c with
  | '"' => ['\\', '"']
  | '\\' => ['\\', '\\']
  | '\t' => ['\\', 't']
  | '\n' => ['\\', 'n']
  | '\r' => ['\\', 'r']
  | '\x00' => ['\\', '0']
  | c => if isShown c then [c] else escapeCode c

/-- A text between double quotes, with escapes for what has no visible form. -/
def escaped (s : String) : String :=
  String.ofList ('"' :: (s.toList.flatMap escapeChar ++ ['"']))

end RecordQuery.Text
