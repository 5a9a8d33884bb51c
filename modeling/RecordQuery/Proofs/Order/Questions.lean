import RecordQuery.Order.Questions

namespace RecordQuery

variable {α β γ ε : Type}

section Cells

/-- A computation with a cell for the first failure comes to the same as one that stops there. -/
structure Tracks (c : StateM (Option ε) β) (outcome : Except ε β) : Prop where
  keeps : ∀ e, (c.run (some e)).2 = some e
  ok : ∀ b, outcome = .ok b → c.run none = (b, none)
  error : ∀ e, outcome = .error e → (c.run none).2 = some e

variable {c : StateM (Option ε) β} {outcome : Except ε β} {d : β → StateM (Option ε) γ}
  {next : β → Except ε γ}

theorem Tracks.pure (b : β) : Tracks (pure b : StateM (Option ε) β) (pure b) where
  keeps _ := rfl
  ok := by
    rintro b ⟨⟩
    rfl
  error := nofun

theorem Tracks.bind (h : Tracks c outcome) (hd : ∀ b, Tracks (d b) (next b)) :
    Tracks (c >>= d) (outcome >>= next) := by
  have hrun (failure : Option ε) :
      (c >>= d).run failure = (d (c.run failure).1).run (c.run failure).2 := rfl
  refine ⟨?_, ?_, ?_⟩
  · intro e
    rw [hrun, h.keeps]
    exact (hd _).keeps e
  · intro b hb
    cases outcome with
    | error e => cases hb
    | ok a =>
      rw [hrun, h.ok a rfl]
      exact (hd a).ok b hb
  · intro e he
    cases outcome with
    | error e' =>
      rw [hrun, h.error e' rfl, (hd _).keeps]
      cases he
      rfl
    | ok a =>
      rw [hrun, h.ok a rfl]
      exact (hd a).error e he

end Cells

namespace Asking

variable {cmp : α → α → Except ε Ordering} {key : α → Nat} {t : Asking α β}
  {next : β → Asking α γ} {good good' : β → Prop} {fine : γ → Prop} {x y : α}

theorem run_tracks {probe : α → α → StateM (Option ε) Bool} {answer : α → α → Except ε Bool}
    (h : ∀ x y, Tracks (probe x y) (answer x y)) (t : Asking α β) :
    Tracks (t.run probe) (t.run answer) := by
  induction t with
  | done b => exact .pure (some b)
  | giveUp => exact .pure none
  | ask x y next ih => exact (h x y).bind ih

/-- With the answers of a comparison the result is good, if there is one, and else two different
elements fail to compare. -/
def Yields (cmp : α → α → Except ε Ordering) : Asking α β → (β → Prop) → Prop
  | done b, good => good b
  | giveUp, _ => False
  | ask x y next, good =>
    match cmp x y with
    | .ok o => Yields cmp (next (o = .lt)) good
    | .error _ => x ≠ y

theorem Yields.pure {b : β} (h : good b) : (pure b : Asking α β).Yields cmp good :=
  h

theorem Yields.bind (h : t.Yields cmp good) (hnext : ∀ b, good b → (next b).Yields cmp fine) :
    (t >>= next).Yields cmp fine := by
  induction t with
  | done b => exact hnext b h
  | giveUp => exact h
  | ask x y more ih =>
    change Yields cmp (.ask x y fun answer => more answer >>= next) fine
    rw [Yields] at h ⊢
    cases hxy : cmp x y with
    | ok o =>
      rw [hxy] at h
      exact ih _ h
    | error e =>
      rw [hxy] at h
      exact h

theorem Yields.imp (h : t.Yields cmp good) (hg : ∀ b, good b → good' b) : t.Yields cmp good' := by
  induction t with
  | done b => exact hg b h
  | giveUp => exact h
  | ask x y more ih =>
    rw [Yields] at h ⊢
    cases hxy : cmp x y with
    | ok o =>
      rw [hxy] at h
      exact ih _ h
    | error e =>
      rw [hxy] at h
      exact h

theorem less_yields (h : ∀ e, cmp x y = .error e → x ≠ y) :
    (less x y).Yields cmp fun b => ∃ o, cmp x y = .ok o ∧ b = decide (o = .lt) := by
  rw [less, Yields]
  cases hxy : cmp x y with
  | ok o => exact ⟨o, rfl, rfl⟩
  | error e => exact h e hxy

def told (cmp : α → α → Except ε Ordering) (x y : α) : Except ε Bool :=
  return (← cmp x y) = .lt

theorem Yields.ok_or_error (h : t.Yields cmp good) :
    (∃ b, t.run (told cmp) = .ok (some b) ∧ good b) ∨
      ∃ e x y, x ≠ y ∧ cmp x y = .error e ∧ t.run (told cmp) = .error e := by
  induction t with
  | done b => exact .inl ⟨b, rfl, h⟩
  | giveUp => exact h.elim
  | ask x y next ih =>
    rw [Yields] at h
    rw [run, told]
    cases hxy : cmp x y with
    | ok o =>
      rw [hxy] at h
      exact ih _ h
    | error e =>
      rw [hxy] at h
      exact .inr ⟨e, x, y, h, hxy, rfl⟩

theorem Yields.good_of_run {b : β} (h : t.Yields cmp good) (hrun : t.run (told cmp) = .ok (some b)) :
    good b := by
  rcases h.ok_or_error with ⟨b', hrun', hb⟩ | ⟨e, x, y, -, -, hrun'⟩
  · cases hrun.symm.trans hrun'
    exact hb
  · cases hrun.symm.trans hrun'

/-- The keys are in the order that a comparison tells, as far as it tells one. -/
def Ranks (cmp : α → α → Except ε Ordering) (key : α → Nat) : Prop :=
  ∀ x y o, cmp x y = .ok o → compare (key x) (key y) = o

namespace Ranks

theorem less (h : Ranks cmp key) (hxy : ∀ e, cmp x y = .error e → x ≠ y) :
    (less x y).Yields cmp fun b => b = true ↔ key x < key y := by
  refine (less_yields hxy).imp ?_
  rintro b ⟨o, ho, rfl⟩
  rw [decide_eq_true_iff, ← h x y o ho, Nat.compare_eq_lt]

theorem branch (h : Ranks cmp key) (hxy : x ≠ y) {c d : Asking α β}
    (hlt : key x < key y → c.Yields cmp good) (hle : key y ≤ key x → d.Yields cmp good) :
    Yields cmp (do if ← Asking.less x y then c else d) good := by
  refine (h.less fun _ _ => hxy).bind fun b hb => ?_
  cases b with
  | true => exact hlt (hb.1 rfl)
  | false => exact hle (Nat.not_lt.1 fun hlt => Bool.noConfusion (hb.2 hlt))

end Ranks

section Finishing

/-- No answers whatever lead to the end without a result. -/
def Finishes : Asking α β → Prop
  | done _ => True
  | giveUp => False
  | ask _ _ next => ∀ answer, (next answer).Finishes

theorem Finishes.bind (h : t.Finishes) (hnext : ∀ b, (next b).Finishes) :
    (t >>= next).Finishes := by
  induction t with
  | done b => exact hnext b
  | giveUp => exact h.elim
  | ask x y more ih => exact fun answer => ih answer (h answer)

theorem Finishes.run_ne_none {σ : Type} (h : t.Finishes) (answer : α → α → StateM σ Bool)
    (s : σ) : ((t.run answer).run s).1 ≠ none := by
  induction t generalizing s with
  | done b => nofun
  | giveUp => exact h.elim
  | ask x y next ih => exact ih _ (h _) _

end Finishing

end Asking

end RecordQuery
