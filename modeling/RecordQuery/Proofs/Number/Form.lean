import Mathlib.Data.List.Induction
import RecordQuery.Number.Decoding
import RecordQuery.Number.Form
import RecordQuery.Proofs.Number.Integer

namespace RecordQuery.Numeral

variable {cs : List Char} {c : Char} {radix n m d : Nat}

section Digits

theorem toNat_digitChar_letter (h : 10 ≤ d) (h' : d < 16) :
    d.digitChar.toNat = d + 87 ∧ d.digitChar.toUpper.toNat = d + 55 := by
  have hall : ∀ d < 16, 10 ≤ d →
      d.digitChar.toNat = d + 87 ∧ d.digitChar.toUpper.toNat = d + 55 := by decide
  exact hall d h' h

theorem digit?_digitChar (h : d < 16) :
    digit? d.digitChar = some d ∧ digit? d.digitChar.toUpper = some d := by
  have hall : ∀ d < 16, digit? d.digitChar = some d ∧ digit? d.digitChar.toUpper = some d := by
    decide
  exact hall d h

theorem exists_digitChar (h : digit? c = some d) : c = d.digitChar ∨ c = d.digitChar.toUpper := by
  rw [digit?] at h
  split at h
  · next hc =>
    have hlow : 48 ≤ c.toNat := hc.1
    have hhigh : c.toNat ≤ 57 := hc.2
    have hd : c.toNat - 48 = d := Option.some_inj.1 h
    refine .inl (Char.toNat_inj.1 ?_)
    rw [Nat.toNat_digitChar_of_lt_ten (by omega)]
    omega
  · split at h
    · next hc =>
      have hlow : 97 ≤ c.toNat := hc.1
      have hhigh : c.toNat ≤ 102 := hc.2
      have hd : c.toNat - 97 + 10 = d := Option.some_inj.1 h
      refine .inl (Char.toNat_inj.1 ?_)
      rw [(toNat_digitChar_letter (by omega) (by omega)).1]
      omega
    · obtain ⟨hc, hd⟩ := Option.ite_none_right_eq_some.1 h
      have hlow : 65 ≤ c.toNat := hc.1
      have hhigh : c.toNat ≤ 70 := hc.2
      have hd : c.toNat - 65 + 10 = d := Option.some_inj.1 hd
      refine .inr (Char.toNat_inj.1 ?_)
      rw [(toNat_digitChar_letter (by omega) (by omega)).2]
      omega

theorem digitForm_iff (hr : radix ≤ 16) :
    DigitForm radix c d ↔ digit? c = some d ∧ d < radix := by
  constructor
  · intro h
    cases h with
    | small h => exact ⟨(digit?_digitChar (Nat.lt_of_lt_of_le h hr)).1, h⟩
    | capital h => exact ⟨(digit?_digitChar (Nat.lt_of_lt_of_le h hr)).2, h⟩
  · rintro ⟨hd, hlt⟩
    rcases exists_digitChar hd with rfl | rfl
    · exact .small hlt
    · exact .capital hlt

theorem push_eq_some (hr : radix ≤ 16) :
    push radix n c = some m ↔ ∃ d, DigitForm radix c d ∧ n * radix + d = m := by
  simp only [push, Option.bind_eq_some_iff, Option.ite_none_right_eq_some, Option.some_inj,
    digitForm_iff hr, and_assoc]

theorem digits_eq_some :
    digits radix cs = some n ↔ cs ≠ [] ∧ cs.foldlM (push radix) 0 = some n := by
  cases cs with
  | nil => exact ⟨nofun, fun h => absurd rfl h.1⟩
  | cons c cs => exact ⟨fun h => ⟨List.cons_ne_nil c cs, h⟩, fun h => h.2⟩

theorem foldlM_push_concat :
    (cs ++ [c]).foldlM (push radix) 0 = some m ↔
      ∃ n, cs.foldlM (push radix) 0 = some n ∧ push radix n c = some m := by
  rw [List.foldlM_append, Option.bind_eq_bind, Option.bind_eq_some_iff]
  simp only [List.foldlM_cons, List.foldlM_nil, bind_pure]

theorem digitsForm_iff (hr : radix ≤ 16) : DigitsForm radix cs n ↔ digits radix cs = some n := by
  rw [digits_eq_some]
  constructor
  · intro h
    induction h with
    | @one c d h =>
      have hpush : push radix 0 c = some d := (push_eq_some hr).2 ⟨d, h, by omega⟩
      refine ⟨List.cons_ne_nil c [], ?_⟩
      rw [List.foldlM_cons, hpush]
      rfl
    | @more cs c n d hs h ih =>
      have hpush : push radix n c = some (n * radix + d) := (push_eq_some hr).2 ⟨d, h, rfl⟩
      exact ⟨by simp, foldlM_push_concat.2 ⟨n, ih.2, hpush⟩⟩
  · rintro ⟨hne, hfold⟩
    -- The form grows at its end, so the digits are taken apart from there.
    induction cs using List.reverseRecOn generalizing n with
    | nil => exact absurd rfl hne
    | append_singleton cs c ih =>
      obtain ⟨k, hk, hpush⟩ := foldlM_push_concat.1 hfold
      obtain ⟨d, hd, rfl⟩ := (push_eq_some hr).1 hpush
      by_cases hcs : cs = []
      · subst hcs
        cases hk
        rw [Nat.zero_mul, Nat.zero_add]
        exact .one hd
      · exact .more (ih hcs hk) hd

theorem ne_of_digits {a : Char} (ha : digit? a = none) (h : digits radix (c :: cs) = some n) :
    c ≠ a := by
  rintro rfl
  rw [digits_eq_none ha] at h
  cases h

end Digits

section Magnitudes

theorem magnitude_octal (h : digits 8 cs = some n) : magnitude ('0' :: cs) = some n := by
  cases cs with
  | nil => cases h
  | cons c cs =>
    rw [magnitude, h]
    · exact ne_of_digits rfl h
    · exact ne_of_digits rfl h

theorem magnitudeForm_iff : MagnitudeForm cs n ↔ magnitude cs = some n := by
  constructor
  · intro h
    cases h with
    | hexadecimal mark hm h =>
      have hread := (digitsForm_iff (by decide)).1 h
      simp only [List.mem_cons, List.not_mem_nil, or_false] at hm
      rcases hm with rfl | rfl | rfl
      · exact hread
      · exact hread
      · exact hread
    | octal h => exact magnitude_octal ((digitsForm_iff (by decide)).1 h)
    | zero => rfl
    | decimal hc h =>
      have hread := (digitsForm_iff (by decide)).1 h
      rw [magnitude_eq_digits hc (ne_of_digits rfl hread), hread]
  · intro h
    rw [magnitude.eq_def] at h
    split at h
    · next ds => exact .hexadecimal "0x" (by decide) ((digitsForm_iff (by decide)).2 h)
    · next ds => exact .hexadecimal "0X" (by decide) ((digitsForm_iff (by decide)).2 h)
    · next ds => exact .hexadecimal "#" (by decide) ((digitsForm_iff (by decide)).2 h)
    · next c ds _ _ => exact .octal ((digitsForm_iff (by decide)).2 h)
    · next notOctal =>
      cases cs with
      | nil => cases h
      | cons c ds =>
        by_cases hc : c = '0'
        · subst hc
          cases ds with
          | nil =>
            cases h
            exact .zero
          | cons d ds => exact absurd rfl (notOctal d ds)
        · exact .decimal hc ((digitsForm_iff (by decide)).2 h)

end Magnitudes

section Integers

theorem magnitude_of_isSign (h : isSign c = true) : magnitude (c :: cs) = none := by
  have hz : c ≠ '0' := by
    rintro rfl
    cases h
  have hm : c ≠ '#' := by
    rintro rfl
    cases h
  rw [magnitude_eq_digits hz hm, digits_eq_none (digit?_of_isSign h)]

theorem integerForm_iff {s : String} {m : Int} :
    IntegerForm s.toList m ↔ integer? s = some m := by
  rw [integer?]
  constructor
  · generalize s.toList = cs
    intro h
    cases h with
    | bare h =>
      have hread := magnitudeForm_iff.1 h
      split
      · rw [magnitude_of_isSign rfl] at hread
        cases hread
      · rw [magnitude_of_isSign rfl] at hread
        cases hread
      · rw [hread]
        rfl
    | plus h =>
      have hread := magnitudeForm_iff.1 h
      simp only [hread]
      rfl
    | minus h =>
      have hread := magnitudeForm_iff.1 h
      simp only [hread]
      rfl
  · intro h
    split at h
    · next cs hcs =>
      obtain ⟨n, hn, rfl⟩ := Option.map_eq_some_iff.1 h
      rw [hcs]
      exact .minus (magnitudeForm_iff.2 hn)
    · next cs hcs =>
      obtain ⟨n, hn, rfl⟩ := Option.map_eq_some_iff.1 h
      rw [hcs]
      exact .plus (magnitudeForm_iff.2 hn)
    · next =>
      obtain ⟨n, hn, rfl⟩ := Option.map_eq_some_iff.1 h
      exact .bare (magnitudeForm_iff.2 hn)

end Integers

end RecordQuery.Numeral
