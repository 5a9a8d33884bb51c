import RecordQuery.Derive.Token

namespace RecordQuery.Derive.Ahead

def anyWord : List Token → Bool
  | .word _ :: _ => true
  | _ => false

def word (name : String) : List Token → Bool
  | .word n :: _ => n == name
  | _ => false

def words (names : List String) : List Token → Bool
  | .word n :: _ => names.contains n
  | _ => false

def name : List Token → Bool
  | .word n :: _ => Token.isName n
  | _ => false

def pathWord (ts : List Token) : Bool :=
  name ts || words Token.pathWords ts

def lifetime : List Token → Bool
  | .lifetime _ :: _ => true
  | _ => false

/-- The marks of a sign stand next to each other; what follows the last one is of no account. -/
def sign (s : String) (ts : List Token) : Bool :=
  go s.toList ts
where
  go : List Char → List Token → Bool
    | [], _ => true
    | [c], .mark d _ :: _ => c == d
    | c :: cs, .mark d true :: ts => c == d && go cs ts
    | _, _ => false

def signs (choices : List String) (ts : List Token) : Bool :=
  choices.any (sign · ts)

def signBut (s : String) (others : List String) (ts : List Token) : Bool :=
  sign s ts && !signs others ts

def group (d : Delimiter) : List Token → Bool
  | .group e _ :: _ => d == e
  | _ => false

def anyGroup : List Token → Bool
  | .group _ _ :: _ => true
  | _ => false

def isNumber (text : String) : Bool :=
  text.toList.head?.any Char.isDigit

def literal : List Token → Bool
  | .literal _ _ :: _ => true
  | .word n :: _ => n == "true" || n == "false"
  | .mark '-' _ :: .literal text _ :: _ => isNumber text
  | _ => false

def textLiteral : List Token → Bool
  | .literal _ (some _) :: _ => true
  | _ => false

/-- The beginning of a list of generic parameters rather than of a path in angle brackets. -/
def parameters (ts : List Token) : Bool :=
  let second := ts.drop 1
  let third := ts.drop 2
  sign "<" ts &&
    (signs [">", "#"] second || word "const" second ||
      (lifetime second || name second) &&
        (signs [">", ",", "="] third || signBut ":" ["::"] third))

def bound (ts : List Token) : Bool :=
  anyWord ts || lifetime ts || group .parenthesis ts || signs ["::", "?"] ts

def expression (ts : List Token) : Bool :=
  anyWord ts && !word "as" ts || literal ts || lifetime ts || anyGroup ts ||
    signs ["..", "::", "#"] ts || signBut "!" ["!="] ts || signBut "-" ["-=", "->"] ts ||
    signBut "*" ["*="] ts || signBut "|" ["|="] ts || signBut "&" ["&="] ts ||
    signBut "<" ["<=", "<<="] ts

end RecordQuery.Derive.Ahead
