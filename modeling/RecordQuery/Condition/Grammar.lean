import RecordQuery.Condition
import RecordQuery.Lexeme.Form

namespace RecordQuery.Condition

open Lexeme

variable {α : Type}

def IsDigits (cs : List Char) : Prop :=
  cs ≠ [] ∧ ∀ c ∈ cs, c.isDigit

inductive LiteralForm : List Char → Literal → Prop where
  | text (s : String) : LiteralForm (Text.Quoted.encode s.toList) (.text s)
  | whole {ds : List Char} (hd : IsDigits ds) : LiteralForm ds (.number (String.ofList ds))
  | fraction {ds es : List Char} (hd : IsDigits ds) (he : IsDigits es) :
      LiteralForm (ds ++ '.' :: es) (.number (String.ofList (ds ++ '.' :: es)))

inductive ComparisonForm (calls : Bool) : List Char → Comparison → Prop where
  | intro {cs gap gap' ds : List Char} {a : Attribute} {l : Literal} (op : Operator)
      (ha : AttributeForm calls cs a) (hg : IsGap gap) (hg' : IsGap gap') (hl : LiteralForm ds l) :
      ComparisonForm calls (cs ++ gap ++ op.symbol.toList ++ gap' ++ ds) ⟨a, op, l⟩

/-- One or more parts with a joining word between each two of them. -/
inductive JoinedForm (word : String) (form : List Char → α → Prop) : List Char → List α → Prop where
  | one {cs : List Char} {a : α} (ha : form cs a) : JoinedForm word form cs [a]
  | more {cs before w after ds : List Char} {a : α} {as : List α} (ha : form cs a)
      (hb : IsBreak before) (hw : Spells word w) (hb' : IsBreak after)
      (has : JoinedForm word form ds as) :
      JoinedForm word form (cs ++ before ++ w ++ after ++ ds) (a :: as)

inductive ParenthesizedForm (form : List Char → α → Prop) : List Char → α → Prop where
  | intro {gap cs gap' : List Char} {a : α} (hg : IsGap gap) (ha : form cs a) (hg' : IsGap gap') :
      ParenthesizedForm form ('(' :: (gap ++ cs ++ gap' ++ [')'])) a

/-- The comparisons of a conjunction; a single one stands for itself. -/
inductive ConjunctionForm (calls : Bool) : List Char → Condition → Prop where
  | one {cs : List Char} {c : Comparison} (h : ComparisonForm calls cs c) :
      ConjunctionForm calls cs (.leaf c)
  | more {cs : List Char} {c d : Comparison} {rest : List Comparison}
      (h : JoinedForm "and" (ComparisonForm calls) cs (c :: d :: rest)) :
      ConjunctionForm calls cs (.all ((c :: d :: rest).map .leaf))

inductive OperandForm (calls : Bool) : List Char → Condition → Prop where
  | bare {cs : List Char} {f : Condition} (h : ConjunctionForm calls cs f) : OperandForm calls cs f
  | parenthesized {cs : List Char} {f : Condition}
      (h : ParenthesizedForm (ConjunctionForm calls) cs f) : OperandForm calls cs f

/-- The operands of a disjunction; a single one stands for itself. -/
inductive DisjunctionForm (calls : Bool) : List Char → Condition → Prop where
  | one {cs : List Char} {f : Condition} (h : OperandForm calls cs f) : DisjunctionForm calls cs f
  | more {cs : List Char} {f g : Condition} {rest : List Condition}
      (h : JoinedForm "or" (OperandForm calls) cs (f :: g :: rest)) :
      DisjunctionForm calls cs (.any (f :: g :: rest))

inductive Form (calls : Bool) : List Char → Condition → Prop where
  | bare {cs : List Char} {f : Condition} (h : DisjunctionForm calls cs f) : Form calls cs f
  | parenthesized {cs : List Char} {f : Condition}
      (h : ParenthesizedForm (DisjunctionForm calls) cs f) : Form calls cs f

end RecordQuery.Condition
