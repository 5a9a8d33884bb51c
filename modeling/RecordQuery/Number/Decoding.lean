import RecordQuery.Number.Integer

namespace RecordQuery.Numeral

inductive Fault where
  | boundary
  | overflow
  deriving DecidableEq, Repr

def bytes (cs : List Char) : List UInt8 :=
  cs.flatMap String.utf8EncodeChar

/-- The text from a byte position on, where a character has to begin or the text to end. -/
def dropBytes : Nat → List Char → Except Fault (List Char)
  | 0, cs => .ok cs
  | _ + 1, [] => .error .boundary
  | n + 1, c :: cs =>
    if c.utf8Size ≤ n + 1 then dropBytes (n + 1 - c.utf8Size) cs else .error .boundary

/-- The words are the integers from `-wordLimit` up to but not including `wordLimit`. -/
def wordLimit : Nat :=
  Nat.pow 2 127

def word? (n : Int) : Option Int :=
  if -wordLimit ≤ n ∧ n < wordLimit then some n else none

def negate (n : Int) : Except Fault Int :=
  -- The least word has no negative among the words, and negation does not check.
  match word? (-n) with
  | some m => .ok m
  | none => .error .overflow

/-- Adds one digit below those already read, or takes it away, with each operation checked. -/
def pushWord (radix : Nat) (negative : Bool) (n : Int) (c : Char) : Option Int :=
  (digit? c).bind fun d =>
    if d < radix then
      (word? (n * radix)).bind fun shifted => word? (if negative then shifted - d else shifted + d)
    else none

def readWord (radix : Nat) : List Char → Option Int
  | '-' :: cs => body true cs
  | '+' :: cs => body false cs
  | cs => body false cs
where
  body (negative : Bool) : List Char → Option Int
    | [] => none
    | c :: cs => (c :: cs).foldlM (pushWord radix negative) 0

def isSign (c : Char) : Bool :=
  c = '-' || c = '+'

def readDigits (radix : Nat) : List Char → Option Int
  | [] => none
  | c :: cs => if isSign c then none else readWord radix (c :: cs)

def unmark (cs : List Char) : Except Fault (Nat × List Char) :=
  match cs with
  | '0' :: 'x' :: ds => .ok (16, ds)
  | '0' :: 'X' :: ds => .ok (16, ds)
  | '#' :: ds => .ok (16, ds)
  | _ =>
    if 1 < (bytes cs).length ∧ cs.head? = some '0' then
      (dropBytes 1 cs).map fun ds => (8, ds)
    else .ok (10, cs)

def decodeMagnitude (negative : Bool) (cs : List Char) : Except Fault (Option Int) := do
  let (radix, ds) ← unmark cs
  (readDigits radix ds).mapM fun n => if negative then negate n else .ok n

-- The text is taken apart at byte positions and the number is built up in a word of 128 bits, so a
-- step can fall off a character boundary or leave the range of a word.
-- The text is taken apart at byte positions and the number is built up in a word of 128 bits, so a
-- step can fall off a character boundary or leave the range of a word.
def decoding (cs : List Char) : Except Fault (Option Int) :=
  match (bytes cs).head? with
  | none => .ok none
  | some b =>
    if b = '-'.toUInt8 then dropBytes 1 cs >>= decodeMagnitude true
    else if b = '+'.toUInt8 then dropBytes 1 cs >>= decodeMagnitude false
    else decodeMagnitude false cs

variable {cs : List Char} {c : Char} {radix n m : Nat}

section Bytes

/-- A character of one byte is that byte, and the others begin with a byte above all of these. -/
theorem exists_head?_bytes (c : Char) (cs : List Char) :
    ∃ b, (bytes (c :: cs)).head? = some b ∧
      (c.toNat ≤ 127 ∧ b.toNat = c.toNat ∨ 127 < c.toNat ∧ 192 ≤ b.toNat) := by
  rw [bytes, List.flatMap_cons]
  fun_cases String.utf8EncodeChar c with
  | case1 v h =>
    have hlt : v < 256 := Nat.lt_of_le_of_lt h (by decide)
    exact ⟨_, rfl, .inl ⟨h, UInt8.toNat_ofNat_of_lt' hlt⟩⟩
  | _ =>
    refine ⟨_, rfl, .inr ⟨Nat.lt_of_not_le ‹_›, ?_⟩⟩
    rw [UInt8.toNat_ofNat']
    omega

theorem head?_bytes_eq_iff {a : Char} (ha : a.toNat ≤ 127) (cs : List Char) :
    (bytes (c :: cs)).head? = some a.toUInt8 ↔ c = a := by
  obtain ⟨b, hb, hcases⟩ := exists_head?_bytes c cs
  have hbyte : a.toUInt8.toNat = a.toNat :=
    UInt8.toNat_ofNat_of_lt' (Nat.lt_of_le_of_lt ha (by decide))
  rw [hb, Option.some_inj, ← UInt8.toNat_inj, hbyte, ← Char.toNat_inj]
  omega

theorem one_lt_length_bytes_iff (hc : c.toNat ≤ 127) : 1 < (bytes (c :: cs)).length ↔ cs ≠ [] := by
  have hsize : c.utf8Size = 1 := Char.utf8Size_eq_one_iff.2 (UInt32.le_iff_toNat_le.2 hc)
  rw [bytes, List.flatMap_cons, List.length_append, String.length_utf8EncodeChar, hsize]
  cases cs with
  | nil => exact ⟨fun h => absurd h (by decide), fun h => absurd rfl h⟩
  | cons d ds =>
    have hd : 0 < d.utf8Size := d.utf8Size_pos
    rw [List.flatMap_cons, List.length_append, String.length_utf8EncodeChar]
    exact ⟨fun _ => List.cons_ne_nil d ds, fun _ => by omega⟩

theorem dropBytes_one (hc : c.toNat ≤ 127) (cs : List Char) : dropBytes 1 (c :: cs) = .ok cs := by
  have hsize : c.utf8Size = 1 := Char.utf8Size_eq_one_iff.2 (UInt32.le_iff_toNat_le.2 hc)
  rw [dropBytes, hsize, if_pos (Nat.le_refl 1), Nat.sub_self, dropBytes]

end Bytes

section Words

theorem word?_natCast (n : Nat) : word? n = if n < wordLimit then some (n : Int) else none := by
  have hrange : (-(wordLimit : Int) ≤ n ∧ (n : Int) < wordLimit) ↔ n < wordLimit := by omega
  simp only [word?, hrange]

theorem word?_natCast_bind (n d : Nat) :
    ((word? n).bind fun m => word? (m + d)) = word? (n + d : Nat) := by
  rw [word?_natCast n]
  by_cases h : n < wordLimit
  · rw [if_pos h, Option.bind_some, Int.natCast_add]
  · rw [if_neg h, Option.bind_none, word?_natCast, if_neg (by omega)]

theorem pushWord_natCast (radix n : Nat) (c : Char) :
    pushWord radix false n c = (push radix n c).bind fun m => word? m := by
  rw [pushWord, push]
  cases digit? c with
  | none => rw [Option.bind_none, Option.bind_none, Option.bind_none]
  | some d =>
    rw [Option.bind_some, Option.bind_some]
    by_cases hlt : d < radix
    · rw [if_pos hlt, if_pos hlt, Option.bind_some, ← Int.natCast_mul]
      exact word?_natCast_bind (n * radix) d
    · rw [if_neg hlt, if_neg hlt, Option.bind_none]

theorem le_of_push (hr : 0 < radix) (h : push radix n c = some m) : n ≤ m := by
  obtain ⟨d, -, hd⟩ := Option.bind_eq_some_iff.1 h
  obtain ⟨-, hm⟩ := Option.ite_none_right_eq_some.1 hd
  have hle : n ≤ n * radix := Nat.le_mul_of_pos_right n hr
  have hm := Option.some_inj.1 hm
  omega

theorem le_of_foldlM_push (hr : 0 < radix) (h : cs.foldlM (push radix) n = some m) : n ≤ m := by
  induction cs generalizing n with
  | nil =>
    cases h
    exact Nat.le_refl _
  | cons c cs ih =>
    rw [List.foldlM_cons] at h
    obtain ⟨k, hk, hm⟩ := Option.bind_eq_some_iff.1 h
    exact Nat.le_trans (le_of_push hr hk) (ih hm)

/-- Digits are read as if words had no limit, unless the result is above it. -/
theorem foldlM_pushWord (hr : 0 < radix) (hn : n < wordLimit) :
    cs.foldlM (pushWord radix false) (n : Int) =
      (cs.foldlM (push radix) n).bind fun m => word? m := by
  induction cs generalizing n with
  | nil =>
    rw [List.foldlM_nil, List.foldlM_nil, Option.pure_def, Option.pure_def, Option.bind_some,
      word?_natCast, if_pos hn]
  | cons c cs ih =>
    rw [List.foldlM_cons, List.foldlM_cons, pushWord_natCast, Option.bind_eq_bind,
      Option.bind_eq_bind, Option.bind_assoc, Option.bind_assoc]
    refine Option.bind_congr fun k _ => ?_
    by_cases hlt : k < wordLimit
    · rw [word?_natCast, if_pos hlt, Option.bind_some, ih hlt]
    · -- Further digits do not bring the number back below the limit.
      rw [word?_natCast, if_neg hlt, Option.bind_none, eq_comm, Option.bind_eq_none_iff]
      intro m hm
      have hle : k ≤ m := le_of_foldlM_push hr hm
      rw [word?_natCast, if_neg (by omega)]

theorem negate_natCast (hn : n < wordLimit) : negate n = .ok (-n) := by
  rw [negate, word?, if_pos (by omega)]

theorem digits_eq_none (h : digit? c = none) : digits radix (c :: cs) = none := by
  have hpush : push radix 0 c = none := by rw [push, h, Option.bind_none]
  rw [digits, List.foldlM_cons, hpush, Option.bind_eq_bind, Option.bind_none]

theorem digit?_of_isSign (h : isSign c = true) : digit? c = none := by
  rcases Bool.or_eq_true_iff.1 h with h | h
  · rw [of_decide_eq_true h]
    rfl
  · rw [of_decide_eq_true h]
    rfl

theorem readDigits_eq (hr : 0 < radix) (cs : List Char) :
    readDigits radix cs = (digits radix cs).bind fun m => word? m := by
  cases cs with
  | nil => rw [readDigits, digits, Option.bind_none]
  | cons c cs =>
    rw [readDigits]
    by_cases hs : isSign c = true
    · rw [if_pos hs, digits_eq_none (digit?_of_isSign hs), Option.bind_none]
    · have hbare : readWord radix (c :: cs) = readWord.body radix false (c :: cs) := by
        rw [readWord]
        case x_1 => exact fun _ he => hs ((List.cons.inj he).1 ▸ rfl)
        case x_2 => exact fun _ he => hs ((List.cons.inj he).1 ▸ rfl)
      rw [if_neg hs, hbare, readWord.body, digits]
      exact foldlM_pushWord hr (n := 0) (by decide)

end Words

section Marks

theorem exists_unmark_eq_ok (cs : List Char) :
    ∃ radix ds, unmark cs = .ok (radix, ds) ∧ 0 < radix ∧ magnitude cs = digits radix ds := by
  fun_cases magnitude cs with
  | case1 ds => exact ⟨16, ds, rfl, by decide, rfl⟩
  | case2 ds => exact ⟨16, ds, rfl, by decide, rfl⟩
  | case3 ds => exact ⟨16, ds, rfl, by decide, rfl⟩
  | case4 c ds notSmall notCapital =>
    have hoctal : 1 < (bytes ('0' :: c :: ds)).length ∧ ('0' :: c :: ds).head? = some '0' :=
      ⟨(one_lt_length_bytes_iff (by decide)).2 (List.cons_ne_nil c ds), rfl⟩
    refine ⟨8, c :: ds, ?_, by decide, rfl⟩
    rw [unmark, if_pos hoctal, dropBytes_one (by decide)]
    · rfl
    · exact fun _ he => notSmall (List.cons.inj (List.cons.inj he).2).1
    · exact fun _ he => notCapital (List.cons.inj (List.cons.inj he).2).1
    · exact nofun
  | case5 cs notSmall notCapital notHash notOctal =>
    have hdecimal : ¬(1 < (bytes cs).length ∧ cs.head? = some '0') := by
      rintro ⟨hlength, hzero⟩
      obtain ⟨ds, rfl⟩ := List.head?_eq_some_iff.1 hzero
      cases ds with
      | nil => exact (one_lt_length_bytes_iff (by decide)).1 hlength rfl
      | cons d ds => exact notOctal d ds rfl
    refine ⟨10, cs, ?_, by decide, rfl⟩
    rw [unmark, if_neg hdecimal]
    · exact notSmall
    · exact notCapital
    · exact notHash

theorem decodeMagnitude_eq (negative : Bool) (cs : List Char) :
    decodeMagnitude negative cs =
      .ok (((magnitude cs).filter (· < wordLimit)).map (signed negative)) := by
  obtain ⟨radix, ds, hunmark, hr, hmag⟩ := exists_unmark_eq_ok cs
  rw [decodeMagnitude, hunmark, hmag]
  change (readDigits radix ds).mapM (fun n => if negative then negate n else .ok n) = _
  rw [readDigits_eq hr]
  cases digits radix ds with
  | none => rfl
  | some n =>
    rw [Option.bind_some, word?_natCast, Option.filter_some]
    by_cases hn : n < wordLimit
    · rw [if_pos hn, if_pos (decide_eq_true hn), Option.map_some, Option.mapM_some]
      cases negative with
      | true => rw [if_pos rfl, negate_natCast hn]; rfl
      | false => rfl
    · rw [if_neg hn, if_neg (by simpa using hn), Option.map_none, Option.mapM_none]
      rfl

theorem filter_map_signed (negative : Bool) (o : Option Nat) :
    (o.map (signed negative)).filter (fun m => m.natAbs < wordLimit) =
      (o.filter (· < wordLimit)).map (signed negative) := by
  cases o with
  | none => rfl
  | some n =>
    have hn : (signed negative n).natAbs = n := by cases negative <;> simp [signed]
    rw [Option.map_some, Option.filter_some, Option.filter_some, hn]
    split <;> rfl

end Marks

theorem decoding_cons (c : Char) (cs : List Char) :
    decoding (c :: cs) =
      if c = '-' then decodeMagnitude true cs
      else if c = '+' then decodeMagnitude false cs
      else decodeMagnitude false (c :: cs) := by
  obtain ⟨b, hb, -⟩ := exists_head?_bytes c cs
  have hsign {a : Char} (ha : a.toNat ≤ 127) : b = a.toUInt8 ↔ c = a := by
    rw [← head?_bytes_eq_iff ha cs, hb, Option.some_inj]
  rw [decoding, hb]
  by_cases hm : c = '-'
  · have hdrop : dropBytes 1 (c :: cs) = .ok cs := dropBytes_one (hm ▸ by decide) cs
    rw [if_pos hm, hdrop]
    exact if_pos ((hsign (by decide)).2 hm)
  · rw [if_neg hm]
    refine (if_neg (mt (hsign (by decide)).1 hm)).trans ?_
    by_cases hp : c = '+'
    · have hdrop : dropBytes 1 (c :: cs) = .ok cs := dropBytes_one (hp ▸ by decide) cs
      rw [if_pos hp, hdrop]
      exact if_pos ((hsign (by decide)).2 hp)
    · rw [if_neg hp]
      exact if_neg (mt (hsign (by decide)).1 hp)

/-- Decoding gives the integer that the literal denotes if its magnitude is that of a word, and no
step is without a result. -/
theorem decoding_eq (literal : String) :
    decoding literal.toList = .ok ((integer? literal).filter fun m => m.natAbs < wordLimit) := by
  rw [integer?]
  split
  · next cs hcs =>
    rw [hcs, decoding_cons, if_pos rfl, decodeMagnitude_eq, filter_map_signed]
  · next cs hcs =>
    rw [hcs, decoding_cons, if_neg (by decide), if_pos rfl, decodeMagnitude_eq, filter_map_signed]
  · next hm hp =>
    cases hcs : literal.toList with
    | nil => rfl
    | cons c cs =>
      have hminus : c ≠ '-' := fun he => hm cs (he ▸ hcs)
      have hplus : c ≠ '+' := fun he => hp cs (he ▸ hcs)
      rw [decoding_cons, if_neg hminus, if_neg hplus, decodeMagnitude_eq, filter_map_signed]

def decode (literal : String) : Option Int :=
  match h : decoding literal.toList with
  | .ok value => value
  | .error _ => nomatch h.symm.trans (decoding_eq literal)

theorem decode_eq (literal : String) :
    decode literal = (integer? literal).filter fun m => m.natAbs < wordLimit := by
  rw [decode]
  split
  · next value h => exact Except.ok.inj (h.symm.trans (decoding_eq literal))
  · next h => exact nomatch h.symm.trans (decoding_eq literal)

theorem natAbs_lt_wordLimit {width : Width} {m : Int} (h : width.Fits m) :
    m.natAbs < wordLimit := by
  have hlimit : 18446744073709551615 < wordLimit := by decide
  obtain ⟨hleast, hgreatest⟩ := h
  cases width <;> simp only [Width.least, Width.greatest] at hleast hgreatest <;> omega

/-- Every integer of a width is a word, so the limit of words is not felt. -/
theorem filter_decode (width : Width) (literal : String) :
    (decode literal).filter (fun m => width.Fits m) =
      (integer? literal).filter fun m => width.Fits m := by
  rw [decode_eq]
  cases integer? literal with
  | none => rfl
  | some m =>
    by_cases h : width.Fits m
    · have hword : m.natAbs < wordLimit := natAbs_lt_wordLimit h
      rw [Option.filter_some, if_pos (decide_eq_true hword)]
    · rw [Option.filter_some, Option.filter_some, if_neg (mt of_decide_eq_true h)]
      split
      · exact if_neg (mt of_decide_eq_true h)
      · rfl

end RecordQuery.Numeral
