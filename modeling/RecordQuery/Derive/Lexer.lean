import RecordQuery.Derive.Token
import RecordQuery.Number.Integer
import RecordQuery.Text.WordTable

namespace RecordQuery.Derive.Lexer

-- The library that splits a text into tokens is not part of this development. Assumed of it is what
-- the definitions below do:
-- * White space and comments stand between tokens and are dropped, but for a comment that documents
--   something, which stands for an attribute. Block comments nest.
-- * At each place a literal is tried before a lifetime, this before a mark, this before a word.
-- * The radices, the suffixes and the escapes of literals are those that `literal` takes; the
--   letters of words are those of Unicode 17.0.
-- * A mark is joint with a mark that follows it at once.
-- * A text has no tokens at all if one of its places gives none, or if its brackets do not match.

def startsWord (c : Char) : Bool :=
  c == '_' || Text.wordStartRanges.contains c

def continuesWord (c : Char) : Bool :=
  Text.wordContinueRanges.contains c

def blankRanges : Text.Ranges := [
  (0x9, 0xD), (0x20, 0x20), (0x85, 0x85), (0xA0, 0xA0), (0x1680, 0x1680), (0x2000, 0x200A),
  (0x200E, 0x200F), (0x2028, 0x2029), (0x202F, 0x202F), (0x205F, 0x205F), (0x3000, 0x3000)]

/-- What follows a comment in which others may nest, `depth` of them being open. -/
def afterComment : (depth : Nat) → List Char → Option (List Char)
  | _, [] => none
  | depth, '/' :: '*' :: cs => afterComment (depth + 1) cs
  | 0, '*' :: '/' :: cs => some cs
  | depth + 1, '*' :: '/' :: cs => afterComment depth cs
  | depth, _ :: cs => afterComment depth cs

/-- The text of a comment that documents what follows it or, with `true`, what encloses it; and what
follows the comment. -/
def documentation : List Char → Option (Bool × List Char × List Char)
  | '/' :: '/' :: '!' :: cs => some (true, line cs)
  | '/' :: '*' :: '!' :: cs => (block cs).map (true, ·)
  | '/' :: '/' :: '/' :: cs => if cs.head? = some '/' then none else some (false, line cs)
  | '/' :: '*' :: '*' :: cs =>
    if cs.head? = some '*' || cs.head? = some '/' then none else (block cs).map (false, ·)
  | _ => none
where
  line : List Char → List Char × List Char
    | [] => ([], [])
    | '\n' :: cs => ([], '\n' :: cs)
    | '\r' :: '\n' :: cs => ([], '\n' :: cs)
    | c :: cs => (c :: (line cs).1, (line cs).2)
  block (cs : List Char) : Option (List Char × List Char) :=
    (afterComment 0 cs).map fun rest => (cs.take (cs.length - rest.length - 2), rest)

def skipBlank : (bound : Nat) → List Char → List Char
  | 0, cs => cs
  | bound + 1, cs =>
    if (documentation cs).isSome then cs
    else
      match cs with
      | '/' :: '/' :: rest => skipBlank bound (rest.dropWhile (· != '\n'))
      | '/' :: '*' :: rest =>
        match afterComment 0 rest with
        | some more => skipBlank bound more
        | none => cs
      | c :: rest => if blankRanges.contains c then skipBlank bound rest else cs
      | [] => []

inductive Content where
  | text
  | bytes
  | foreign

def Content.admits (content : Content) (c : Char) : Bool :=
  match content with
  | text => true
  | bytes => c.toNat < 128
  | foreign => c ≠ '\x00'

def codePoint : (digits value : Nat) → List Char → Option (Char × List Char)
  | _, _, [] => none
  | digits, value, '_' :: cs => if digits = 0 then none else codePoint digits value cs
  | digits, value, '}' :: cs =>
    if h : digits ≠ 0 ∧ value.isValidChar then some (Char.ofNatAux value h.2, cs) else none
  | digits, value, c :: cs =>
    match Numeral.digit? c with
    | some d => if digits = 6 then none else codePoint (digits + 1) (value * 16 + d) cs
    | none => none

def escape (content : Content) : List Char → Option (Char × List Char)
  | 'n' :: cs => some ('\n', cs)
  | 'r' :: cs => some ('\r', cs)
  | 't' :: cs => some ('\t', cs)
  | '\\' :: cs => some ('\\', cs)
  | '\'' :: cs => some ('\'', cs)
  | '"' :: cs => some ('"', cs)
  | '0' :: cs => if content.admits '\x00' then some ('\x00', cs) else none
  | 'x' :: high :: low :: cs =>
    match Numeral.digit? high, Numeral.digit? low with
    | some h, some l =>
      let c := Char.ofNat (h * 16 + l)
      match content with
      | .text => if h < 8 then some (c, cs) else none
      | .bytes => some (c, cs)
      | .foreign => if c = '\x00' then none else some (c, cs)
    | _, _ => none
  | 'u' :: '{' :: cs =>
    match content, codePoint 0 0 cs with
    | .bytes, _ => none
    | .text, found => found
    | .foreign, some (c, rest) => if c = '\x00' then none else some (c, rest)
    | .foreign, none => none
  | _ => none

def cons (c : Char) (rest : Option (List Char × List Char)) : Option (List Char × List Char) :=
  rest.map fun (content, cs) => (c :: content, cs)

def afterIndent : List Char → Option (List Char)
  | [] => none
  | '\r' :: '\n' :: cs => afterIndent cs
  | '\r' :: _ => none
  | c :: cs => if c.isWhitespace then afterIndent cs else some (c :: cs)

/-- The content of a text with escapes up to its closing quote. A backslash at the end of a line
leaves out the line break and the white space after it. -/
def cooked (content : Content) : (bound : Nat) → List Char → Option (List Char × List Char)
  | _, [] => none
  | 0, _ => none
  | _, '"' :: cs => some ([], cs)
  | bound + 1, '\r' :: '\n' :: cs => cons '\n' (cooked content bound cs)
  | _, '\r' :: _ => none
  | bound + 1, '\\' :: '\n' :: cs => (afterIndent cs).bind (cooked content bound)
  | bound + 1, '\\' :: '\r' :: '\n' :: cs => (afterIndent cs).bind (cooked content bound)
  | bound + 1, '\\' :: cs =>
    (escape content cs).bind fun (c, rest) => cons c (cooked content bound rest)
  | bound + 1, c :: cs => if content.admits c then cons c (cooked content bound cs) else none

def raw (content : Content) (hashes : Nat) : List Char → Option (List Char × List Char)
  | [] => none
  | '"' :: cs =>
    if cs.take hashes = List.replicate hashes '#' then some ([], cs.drop hashes)
    else cons '"' (raw content hashes cs)
  | '\r' :: '\n' :: cs => cons '\r' (cons '\n' (raw content hashes cs))
  | '\r' :: _ => none
  | c :: cs => if content.admits c then cons c (raw content hashes cs) else none

def rawText (content : Content) (cs : List Char) : Option (List Char × List Char) :=
  let hashes := (cs.takeWhile (· == '#')).length
  match cs.drop hashes with
  | '"' :: rest => if hashes ≤ 255 then raw content hashes rest else none
  | _ => none

def cookedText (content : Content) : List Char → Option (List Char × List Char)
  | '"' :: cs => cooked content (cs.length + 1) cs
  | _ => none

def afterCharacter (content : Content) : List Char → Option (List Char)
  | '\'' :: '\\' :: cs => (escape content cs).bind fun (_, rest) => closing rest
  | '\'' :: c :: cs => if content.admits c then closing cs else none
  | _ => none
where
  closing : List Char → Option (List Char)
    | '\'' :: cs => some cs
    | _ => none

def afterSuffix (cs : List Char) : List Char :=
  if cs.head?.any startsWord then cs.dropWhile continuesWord else cs

/-- Digits with at most one point among them; whether there was one; and what follows. The point is
none of a number if another point or a word comes after it. -/
def mantissa : (point : Bool) → List Char → Option (Bool × List Char)
  | point, [] => some (point, [])
  | true, '.' :: cs => some (true, '.' :: cs)
  | false, '.' :: cs =>
    if cs.head?.any (fun c => c == '.' || startsWord c) then none else mantissa true cs
  | point, c :: cs =>
    if c.isDigit || c == '_' then mantissa point cs else some (point, c :: cs)

def exponent : (signed digit : Bool) → List Char → Option (List Char)
  | _, digit, [] => if digit then some [] else none
  | signed, digit, c :: cs =>
    if c == '_' then exponent signed digit cs
    else if c.isDigit then exponent signed true cs
    else if digit then some (c :: cs)
    else if (c == '+' || c == '-') && !signed then exponent true digit cs
    else none

def floatDigits (cs : List Char) : Option (List Char) := do
  let (point, rest) ← mantissa false cs
  let whole := if point then some rest else none
  match rest with
  | 'e' :: more => (exponent false false more).or whole
  | 'E' :: more => (exponent false false more).or whole
  | _ => whole

/-- What follows the digits of an integer; `empty` until there is one. -/
def integerDigits (radix : Nat) : (empty : Bool) → List Char → Option (List Char)
  | empty, [] => if empty then none else some []
  | empty, '_' :: cs => if empty && radix = 10 then none else integerDigits radix empty cs
  | empty, c :: cs =>
    match Numeral.digit? c with
    | some d =>
      if d < radix then integerDigits radix false cs
      else if empty || c.isDigit then none
      else some (c :: cs)
    | none => if empty then none else some (c :: cs)

def integer : List Char → Option (List Char)
  | '0' :: 'x' :: cs => integerDigits 16 true cs
  | '0' :: 'o' :: cs => integerDigits 8 true cs
  | '0' :: 'b' :: cs => integerDigits 2 true cs
  | cs => integerDigits 10 true cs

def afterNumber (cs : List Char) : Option (List Char) :=
  if cs.head?.any Char.isDigit then
    ((floatDigits cs).bind ended).or ((integer cs).bind ended)
  else none
where
  ended (rest : List Char) : Option (List Char) :=
    let rest := afterSuffix rest
    if rest.head?.any continuesWord then none else some rest

/-- The text that a literal denotes, if it denotes one, and what follows the literal. -/
def literal (cs : List Char) : Option (Option String × List Char) :=
  let hidden (found : Option (List Char × List Char)) : Option (Option String × List Char) :=
    found.map fun (_, rest) => (none, afterSuffix rest)
  let character (found : Option (List Char)) : Option (Option String × List Char) :=
    found.map fun rest => (none, afterSuffix rest)
  let shown (found : Option (List Char × List Char)) : Option (Option String × List Char) :=
    found.map fun (content, rest) => (some (String.ofList content), afterSuffix rest)
  match cs with
  | '"' :: _ => shown (cookedText .text cs)
  | 'r' :: more => shown (rawText .text more)
  | 'b' :: 'r' :: more => hidden (rawText .bytes more)
  | 'b' :: '\'' :: more => character (afterCharacter .bytes ('\'' :: more))
  | 'b' :: more => hidden (cookedText .bytes more)
  | 'c' :: 'r' :: more => hidden (rawText .foreign more)
  | 'c' :: more => hidden (cookedText .foreign more)
  | '\'' :: _ => character (afterCharacter .text cs)
  | _ => (afterNumber cs).map (none, ·)

def plainWord : List Char → Option (String × List Char)
  | [] => none
  | c :: cs =>
    if startsWord c then
      some (String.ofList (c :: cs.takeWhile continuesWord), cs.dropWhile continuesWord)
    else none

def alwaysReserved : List String := ["_", "super", "self", "Self", "crate"]

def word : List Char → Option (String × List Char)
  | 'r' :: '#' :: cs =>
    (plainWord cs).bind fun (name, rest) =>
      if alwaysReserved.contains name then none else some ("r#" ++ name, rest)
  | cs => plainWord cs

/-- The beginnings of quoted literals, which are no words where the literal does not end. -/
def announcesLiteral : List Char → Bool
  | 'b' :: '\'' :: _ => true
  | 'b' :: 'r' :: '#' :: _ => true
  | 'c' :: 'r' :: '#' :: _ => true
  | _ => false

def isMark (c : Char) : Bool :=
  "~!@#$%^&*-=+|;:,<.>/?'".toList.contains c

def startsMark : List Char → Bool
  | '/' :: '/' :: _ => false
  | '/' :: '*' :: _ => false
  | c :: _ => isMark c
  | [] => false

inductive Piece where
  | token (t : Token)
  | opening (d : Delimiter)
  | closing (d : Delimiter)

def bracket : Char → Option Piece
  | '(' => some (.opening .parenthesis)
  | ')' => some (.closing .parenthesis)
  | '[' => some (.opening .bracket)
  | ']' => some (.closing .bracket)
  | '{' => some (.opening .brace)
  | '}' => some (.closing .brace)
  | _ => none

def lifetime : List Char → Option (String × List Char)
  | '\'' :: cs =>
    (word cs).bind fun (name, rest) =>
      if rest.head? = some '\'' || rest.head? = some '#' && cs.take 2 ≠ ['r', '#'] then none
      else some (name, rest)
  | _ => none

def documentationPieces (inner : Bool) (content : List Char) : List Piece :=
  let bang := if inner then [Piece.token (.mark '!' false)] else []
  .token (.mark '#' false) :: bang ++
    [.token (.group .bracket
      [.word "doc", .mark '=' false, .literal (textLiteral (String.ofList content)) none])]

def hasBareReturn : List Char → Bool
  | [] => false
  | '\r' :: '\n' :: cs => hasBareReturn cs
  | c :: cs => c == '\r' || hasBareReturn cs

def piece (cs : List Char) : Option (List Piece × List Char) :=
  match cs with
  | [] => none
  | c :: rest =>
    match documentation cs, bracket c with
    | some (inner, content, after), _ =>
      if hasBareReturn content then none else some (documentationPieces inner content, after)
    | none, some b => some ([b], rest)
    | none, none =>
      match literal cs, lifetime cs with
      | some (value, after), _ =>
        some ([.token (.literal (String.ofList (cs.take (cs.length - after.length))) value)], after)
      | none, some (name, after) => some ([.token (.lifetime name)], after)
      | none, none =>
        if c ≠ '\'' && startsMark cs then some ([.token (.mark c (startsMark rest))], rest)
        else if announcesLiteral cs then none
        else (word cs).map fun (name, after) => ([.token (.word name)], after)

def pieces : (bound : Nat) → List Char → Option (List Piece)
  | 0, _ => none
  | bound + 1, cs =>
    match skipBlank cs.length cs with
    | [] => some []
    | rest => do
      let (ps, after) ← piece rest
      let more ← pieces bound after
      return ps ++ more

/-- Groups tokens by their brackets. `done` holds the tokens of the innermost open group, the last one
first, and `outer` the groups around it. -/
def nest (done : List Token) (outer : List (Delimiter × List Token)) :
    List Piece → Option (List Token)
  | [] => if outer.isEmpty then some done.reverse else none
  | .token t :: ps => nest (t :: done) outer ps
  | .opening d :: ps => nest [] ((d, done) :: outer) ps
  | .closing d :: ps =>
    match outer with
    | (e, before) :: further =>
      if d = e then nest (.group d done.reverse :: before) further ps else none
    | [] => none

def tokens (text : String) : Option (List Token) :=
  (pieces (text.toList.length + 1) text.toList).bind (nest [] [])

end RecordQuery.Derive.Lexer
