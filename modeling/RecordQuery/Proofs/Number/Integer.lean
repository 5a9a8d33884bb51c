import RecordQuery.Number.Integer

namespace RecordQuery.Numeral

variable {cs : List Char} {c : Char} {n : Nat}

theorem push_of_isDigit (hc : c.isDigit = true) (n : Nat) :
    push 10 n c = some (10 * n + (c.toNat - '0'.toNat)) := by
  have hrange : '0' ≤ c ∧ c ≤ '9' := by simpa [Char.isDigit, Char.le_def] using hc
  have hle : c.toNat ≤ 57 := hrange.2
  have hlt : c.toNat - '0'.toNat < 10 := by
    change c.toNat - 48 < 10
    omega
  rw [push, digit?, if_pos hrange, Option.bind_some, if_pos hlt, Nat.mul_comm]

theorem foldlM_push (h : ∀ c ∈ cs, c.isDigit = true) (n : Nat) :
    cs.foldlM (push 10) n = some (Nat.ofDigitChars 10 cs n) := by
  induction cs generalizing n with
  | nil => rfl
  | cons c cs ih =>
    rw [List.foldlM_cons, push_of_isDigit (h c List.mem_cons_self), Nat.ofDigitChars_cons]
    exact ih (fun d hd => h d (List.mem_cons_of_mem c hd)) _

theorem isDigit_of_mem_toDigits (h : c ∈ Nat.toDigits 10 n) : c.isDigit = true :=
  Nat.isDigit_of_mem_toDigits (by decide) (by decide) h

theorem digits_toDigits (n : Nat) : digits 10 (Nat.toDigits 10 n) = some n := by
  have hread : (Nat.toDigits 10 n).foldlM (push 10) 0 = some n := by
    rw [foldlM_push fun c => isDigit_of_mem_toDigits, Nat.ofDigitChars_ten_toDigits]
  cases hcs : Nat.toDigits 10 n with
  | nil => exact (Nat.toDigits_ne_nil hcs).elim
  | cons c cs => rwa [hcs] at hread

theorem toDigits_ne_zero_cons (h : n ≠ 0) : Nat.toDigits 10 n ≠ '0' :: cs := by
  induction n using Nat.strongRecOn generalizing cs with
  | _ n ih =>
    intro he
    by_cases hlt : n < 10
    · rw [Nat.toDigits_of_lt_base hlt] at he
      have hvalue := Nat.toNat_digitChar_of_lt_ten hlt
      rw [(List.cons.inj he).1] at hvalue
      change 48 = 48 + n at hvalue
      omega
    · -- All digits but the last one are those of the tenth, which is not zero either.
      have hle : 10 ≤ n := Nat.le_of_not_lt hlt
      rw [Nat.toDigits_of_base_le (by decide) hle] at he
      obtain ⟨c, ds, hds⟩ := List.exists_cons_of_ne_nil (Nat.toDigits_ne_nil (b := 10) (n := n / 10))
      rw [hds, List.cons_append] at he
      exact ih (n / 10) (by omega) (by omega) ((List.cons.inj he).1 ▸ hds)

theorem magnitude_eq_digits (hz : c ≠ '0') (hm : c ≠ '#') :
    magnitude (c :: cs) = digits 10 (c :: cs) := by
  rw [magnitude]
  case x_3 => exact fun _ he => hm (List.cons.inj he).1
  case x_4 => exact fun _ _ he => hz (List.cons.inj he).1
  all_goals exact fun _ he => hz (List.cons.inj he).1

theorem magnitude_toDigits (n : Nat) : magnitude (Nat.toDigits 10 n) = some n := by
  by_cases h : n = 0
  · subst h
    rfl
  · have hread := digits_toDigits n
    have hdigit {c : Char} (hc : c ∈ Nat.toDigits 10 n) := isDigit_of_mem_toDigits hc
    cases hcs : Nat.toDigits 10 n with
    | nil => exact (Nat.toDigits_ne_nil hcs).elim
    | cons c cs =>
      rw [hcs] at hread hdigit
      have hz : c ≠ '0' := by
        rintro rfl
        exact toDigits_ne_zero_cons h hcs
      have hm : c ≠ '#' := by
        rintro rfl
        exact absurd (hdigit List.mem_cons_self) (by decide)
      rw [magnitude_eq_digits hz hm, hread]

theorem integer?_repr (n : Nat) : integer? n.repr = some (n : Int) := by
  have hread := magnitude_toDigits n
  have hdigit {c : Char} (hc : c ∈ Nat.toDigits 10 n) := isDigit_of_mem_toDigits hc
  rw [integer?, Nat.toList_repr]
  split
  · next cs hcs =>
    rw [hcs] at hdigit
    exact absurd (hdigit List.mem_cons_self) (by decide)
  · next cs hcs =>
    rw [hcs] at hdigit
    exact absurd (hdigit List.mem_cons_self) (by decide)
  · rw [hread]
    rfl

theorem integer?_neg_repr (n : Nat) : integer? ("-" ++ n.repr) = some (-(n : Int)) := by
  have he : ("-" ++ n.repr).toList = '-' :: Nat.toDigits 10 n := by
    rw [String.toList_append, Nat.toList_repr]
    rfl
  simp only [integer?, he, magnitude_toDigits]
  rfl

/-- Every integer is denoted by its decimal digits, with a sign before those of a negative one. -/
theorem integer?_toString (n : Int) : integer? (toString n) = some n := by
  cases n with
  | ofNat m => exact integer?_repr m
  | negSucc m => exact integer?_neg_repr (m + 1)

end RecordQuery.Numeral
