namespace RecordQuery

/-- A computation that asks whether one element is less than another and goes on with the answer. It
may give up without a result. -/
inductive Asking (α β : Type) where
  | done (b : β)
  | giveUp
  | ask (x y : α) (next : Bool → Asking α β)

namespace Asking

variable {α β γ : Type}

def bind : Asking α β → (β → Asking α γ) → Asking α γ
  | done b, f => f b
  | giveUp, _ => giveUp
  | ask x y next, f => ask x y fun answer => (next answer).bind f

instance : Monad (Asking α) where
  pure := done
  bind := bind

def less (x y : α) : Asking α Bool :=
  ask x y done

def run {m : Type → Type} [Monad m] (answer : α → α → m Bool) : Asking α β → m (Option β)
  | done b => return some b
  | giveUp => return none
  | ask x y next => do (next (← answer x y)).run answer

end Asking

end RecordQuery
