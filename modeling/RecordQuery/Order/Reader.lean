import RecordQuery.Lexeme
import RecordQuery.Order

namespace RecordQuery.OrderBy

open Reader

def direction : Reader Direction :=
  Reader.orElse (do keyword "asc"; return .asc) (do keyword "desc"; return .desc)

def sortKey (calls : Bool) : Reader SortKey := do
  let attr ← Lexeme.attr calls
  let dir ← optional (do someSpaces; direction)
  return ⟨attr, dir.getD .asc⟩

def furtherKey (calls : Bool) : Reader SortKey := do
  spaces
  exactly ","
  spaces
  sortKey calls

def header : Reader Unit := do
  keyword "order"
  someSpaces
  keyword "by"
  someSpaces

def reader (calls : Bool) : Reader OrderBy := do
  header
  let first ← sortKey calls
  let rest ← many (furtherKey calls)
  atEnd
  return ⟨first :: rest⟩

def parse (text : String) (calls : Bool) : Except ParseError OrderBy :=
  ((reader calls).run text).mapError fun offset => ⟨.order, text, offset⟩

end RecordQuery.OrderBy
