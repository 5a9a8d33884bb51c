namespace RecordQuery.Numeral

inductive DigitForm (radix : Nat) : Char → Nat → Prop where
  | small {d : Nat} (h : d < radix) : DigitForm radix d.digitChar d
  | capital {d : Nat} (h : d < radix) : DigitForm radix d.digitChar.toUpper d

/-- One or more digits, the lowest one last. -/
inductive DigitsForm (radix : Nat) : List Char → Nat → Prop where
  | one {c : Char} {d : Nat} (h : DigitForm radix c d) : DigitsForm radix [c] d
  | more {cs : List Char} {c : Char} {n d : Nat} (hs : DigitsForm radix cs n)
      (h : DigitForm radix c d) : DigitsForm radix (cs ++ [c]) (n * radix + d)

inductive MagnitudeForm : List Char → Nat → Prop where
  | hexadecimal (mark : String) {cs : List Char} {n : Nat} (hm : mark ∈ ["0x", "0X", "#"])
      (h : DigitsForm 16 cs n) : MagnitudeForm (mark.toList ++ cs) n
  | octal {cs : List Char} {n : Nat} (h : DigitsForm 8 cs n) : MagnitudeForm ('0' :: cs) n
  | zero : MagnitudeForm ['0'] 0
  | decimal {c : Char} {cs : List Char} {n : Nat} (hc : c ≠ '0') (h : DigitsForm 10 (c :: cs) n) :
      MagnitudeForm (c :: cs) n

inductive IntegerForm : List Char → Int → Prop where
  | bare {cs : List Char} {n : Nat} (h : MagnitudeForm cs n) : IntegerForm cs n
  | plus {cs : List Char} {n : Nat} (h : MagnitudeForm cs n) : IntegerForm ('+' :: cs) n
  | minus {cs : List Char} {n : Nat} (h : MagnitudeForm cs n) : IntegerForm ('-' :: cs) (-n)

end RecordQuery.Numeral
