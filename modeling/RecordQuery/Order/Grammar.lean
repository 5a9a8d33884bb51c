import RecordQuery.Lexeme.Form
import RecordQuery.Order

namespace RecordQuery.OrderBy

open Lexeme

/-- The direction goes without saying where it is the ascending one. -/
inductive SortKeyForm (calls : Bool) : List Char → SortKey → Prop where
  | bare {cs : List Char} {a : Attribute} (ha : AttributeForm calls cs a) :
      SortKeyForm calls cs ⟨a, .asc⟩
  | directed {cs space w : List Char} {a : Attribute} (d : Direction)
      (ha : AttributeForm calls cs a) (hs : IsBreak space) (hw : Spells d.name w) :
      SortKeyForm calls (cs ++ space ++ w) ⟨a, d⟩

inductive KeysForm (calls : Bool) : List Char → List SortKey → Prop where
  | one {cs : List Char} {k : SortKey} (hk : SortKeyForm calls cs k) : KeysForm calls cs [k]
  | more {cs before after ds : List Char} {k : SortKey} {ks : List SortKey}
      (hk : SortKeyForm calls cs k) (hb : IsGap before) (ha : IsGap after)
      (hks : KeysForm calls ds ks) :
      KeysForm calls (cs ++ before ++ ',' :: (after ++ ds)) (k :: ks)

inductive Form (calls : Bool) : List Char → OrderBy → Prop where
  | intro {order space by' space' cs : List Char} {ks : List SortKey} (ho : Spells "order" order)
      (hs : IsBreak space) (hb : Spells "by" by') (hs' : IsBreak space')
      (hks : KeysForm calls cs ks) :
      Form calls (order ++ space ++ by' ++ space' ++ cs) ⟨ks⟩

end RecordQuery.OrderBy
