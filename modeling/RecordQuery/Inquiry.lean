namespace RecordQuery

/-- What a computation asked, in order, and how it came out. -/
structure Inquiry (q ε α : Type) where
  asked : List q
  outcome : Except ε α

namespace Inquiry

variable {q r ε α β : Type}

def ask (question : q) (answer : Except ε α) : Inquiry q ε α :=
  ⟨[question], answer⟩

def ofExcept (outcome : Except ε α) : Inquiry q ε α :=
  ⟨[], outcome⟩

/-- Nothing is asked after a failure. -/
def andThen (i : Inquiry q ε α) (next : α → Inquiry q ε β) : Inquiry q ε β :=
  match i.outcome with
  | .ok a => ⟨i.asked ++ (next a).asked, (next a).outcome⟩
  | .error e => ⟨i.asked, .error e⟩

instance : Monad (Inquiry q ε) where
  pure a := ofExcept (.ok a)
  bind := andThen

def relabel (f : q → r) (i : Inquiry q ε α) : Inquiry r ε α :=
  ⟨i.asked.map f, i.outcome⟩

end Inquiry

end RecordQuery
