import RecordQuery.Reader

namespace RecordQuery.Text.Quoted

def double : List Char → List Char
  | [] => []
  | c :: cs => if c = '\'' then '\'' :: '\'' :: double cs else c :: double cs

def encode (cs : List Char) : List Char :=
  '\'' :: (double cs ++ ['\''])

/-- Each two quotes in a row as one. They are paired off from the left. -/
def undouble : List Char → List Char
  | [] => []
  | '\'' :: '\'' :: cs => '\'' :: undouble cs
  | c :: cs => c :: undouble cs

/-- The longest beginning that consists of pairs of quotes and of other characters, and what follows
it. -/
def body : List Char → List Char × List Char
  | [] => ([], [])
  | '\'' :: '\'' :: cs => ('\'' :: '\'' :: (body cs).1, (body cs).2)
  | c :: cs => if c = '\'' then ([], c :: cs) else (c :: (body cs).1, (body cs).2)

def reader : Reader String := do
  Reader.exactly "'"
  let s ← Reader.taking body
  Reader.exactly "'"
  return String.ofList (undouble s)

end RecordQuery.Text.Quoted
