import RecordQuery.Lexeme

namespace RecordQuery.Lexeme

def IsGap (cs : List Char) : Prop :=
  ∀ c ∈ cs, c = ' '

def IsBreak (cs : List Char) : Prop :=
  cs ≠ [] ∧ IsGap cs

/-- A word of lower-case letters in any case of the letters A to Z. -/
def Spells (word : String) (cs : List Char) : Prop :=
  cs.map Char.toLower = word.toList

inductive AttributeForm (calls : Bool) : List Char → Attribute → Prop where
  | field {name : String} (hn : IsIdentifier name) :
      AttributeForm calls name.toList ⟨name, .field⟩
  | accessor {name : String} {outer inner : List Char} (on : calls = true)
      (hn : IsIdentifier name) (ho : IsGap outer) (hi : IsGap inner) :
      AttributeForm calls (name.toList ++ outer ++ '(' :: (inner ++ [')'])) ⟨name, .accessor⟩

end RecordQuery.Lexeme
