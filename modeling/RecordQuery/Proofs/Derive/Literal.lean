import RecordQuery.Derive.Lexer

namespace RecordQuery.Derive

namespace Lexer

variable {c : Char} {cs rest : List Char}

theorem codePoint_digitChar {d digits : Nat} (h : d < 16) (hdigits : digits ≠ 6) (value : Nat) :
    codePoint digits value (d.digitChar :: cs) = codePoint (digits + 1) (value * 16 + d) cs := by
  have hread : codePoint digits value (d.digitChar :: cs) =
      if digits = 6 then none else codePoint (digits + 1) (value * 16 + d) cs :=
    match d, h with
    | 0, _ | 1, _ | 2, _ | 3, _ | 4, _ | 5, _ | 6, _ | 7, _ | 8, _ | 9, _ | 10, _ | 11, _ | 12, _
    | 13, _ | 14, _ | 15, _ => rfl
    | _ + 16, h => absurd h (by omega)
  rw [hread, if_neg hdigits]

theorem codePoint_toDigits (n : Nat) (h : (Nat.toDigits 16 n).length ≤ 6) :
    codePoint 0 0 (Nat.toDigits 16 n ++ cs) = codePoint (Nat.toDigits 16 n).length n cs := by
  induction n using Nat.strongRecOn generalizing cs with
  | ind n ih =>
    by_cases hn : n < 16
    · rw [Nat.toDigits_of_lt_base hn, List.singleton_append, codePoint_digitChar hn (by decide)]
      simp
    · rw [Nat.toDigits_of_base_le (by decide) (Nat.le_of_not_lt hn), List.length_append,
        List.length_singleton] at h ⊢
      rw [List.append_assoc, ih (n / 16) (by omega) (by omega), List.singleton_append,
        codePoint_digitChar (Nat.mod_lt n (by decide)) (by omega), Nat.div_add_mod']

theorem escape_code (c : Char) :
    escape .text ('u' :: '{' :: (Nat.toDigits 16 c.toNat ++ '}' :: rest)) = some (c, rest) := by
  have hvalid : c.toNat.isValidChar := c.valid
  have hlt : c.toNat < 16 ^ 6 := by
    rcases hvalid with hlow | ⟨_, hhigh⟩ <;> omega
  have hlength : (Nat.toDigits 16 c.toNat).length ≤ 6 :=
    (Nat.length_toDigits_le_iff (by decide) (by decide)).2 hlt
  change codePoint 0 0 _ = _
  rw [codePoint_toDigits c.toNat hlength]
  exact dif_pos ⟨Nat.ne_of_gt Nat.length_toDigits_pos, hvalid⟩

def Denotes (shown : List Char) (c : Char) : Prop :=
  ∀ bound rest, cooked .text (bound + 1) (shown ++ rest) = cons c (cooked .text bound rest)

theorem Denotes.length_pos {shown : List Char} (h : Denotes shown c) : 0 < shown.length := by
  cases shown with
  | nil => cases h 0 ['"']
  | cons => exact Nat.zero_lt_succ _

theorem denotes_escape {shown : List Char}
    (h : ∀ rest, escape .text (shown ++ rest) = some (c, rest)) :
    Denotes ('\\' :: shown) c := by
  intro bound rest
  rw [List.cons_append, cooked, h]
  · rfl
  -- What follows the backslash is no line break, which would be left out.
  · intro tail heq
    simpa [heq, escape] using h rest
  · intro tail heq
    simpa [heq, escape] using h rest

theorem denotes_plain (hquote : c ≠ '"') (hslash : c ≠ '\\') (hreturn : c ≠ '\r') :
    Denotes [c] c := by
  intro bound rest
  rw [List.singleton_append, cooked]
  · rfl
  all_goals grind

theorem denotes_escapeChar (c : Char) : Denotes (Text.escapeChar c) c := by
  fun_cases Text.escapeChar c with
  | case7 c hquote hslash _ _ hreturn => exact denotes_plain hquote hslash hreturn
  | case8 c =>
    apply denotes_escape
    intro rest
    simpa using escape_code c
  | _ => exact denotes_escape fun _ => rfl

end Lexer

namespace textLiteral

theorem go_cons (c : Char) (cs : List Char) :
    ∃ shown, Lexer.Denotes shown c ∧ go (c :: cs) = shown ++ go cs := by
  rw [go.eq_def]
  split
  · next heq => cases heq
  · next heq =>
    obtain ⟨rfl, rfl⟩ := List.cons.inj heq
    refine ⟨_, ?_, rfl⟩
    split
    · exact Lexer.denotes_escape fun _ => rfl
    · exact Lexer.denotes_escape fun _ => rfl
  · next heq =>
    obtain ⟨rfl, rfl⟩ := List.cons.inj heq
    exact ⟨['\''], Lexer.denotes_plain (by decide) (by decide) (by decide), rfl⟩
  · next heq =>
    obtain ⟨rfl, rfl⟩ := List.cons.inj heq
    exact ⟨_, Lexer.denotes_escapeChar _, rfl⟩

theorem length_le_go (cs : List Char) : cs.length ≤ (go cs).length := by
  induction cs with
  | nil => exact Nat.le_refl _
  | cons c cs ih =>
    obtain ⟨shown, hshown, hgo⟩ := go_cons c cs
    have hpos := hshown.length_pos
    rw [hgo, List.length_append, List.length_cons]
    omega

theorem cooked_go {cs rest : List Char} {bound : Nat} (h : cs.length < bound) :
    Lexer.cooked .text bound (go cs ++ '"' :: rest) = some (cs, rest) := by
  induction cs generalizing bound with
  | nil =>
    rw [go, List.nil_append, Lexer.cooked]
    exact Nat.ne_zero_of_lt h
  | cons c cs ih =>
    obtain ⟨bound, rfl⟩ := Nat.exists_eq_add_one_of_ne_zero (Nat.ne_zero_of_lt h)
    obtain ⟨shown, hshown, hgo⟩ := go_cons c cs
    rw [hgo, List.append_assoc, hshown, ih (Nat.lt_of_succ_lt_succ h)]
    rfl

theorem literal_go (cs : List Char) :
    Lexer.literal ('"' :: (go cs ++ ['"'])) = some (some (String.ofList cs), []) := by
  have hlength := length_le_go cs
  have hcooked : Lexer.cookedText .text ('"' :: (go cs ++ ['"'])) = some (cs, []) := by
    apply cooked_go
    rw [List.length_append]
    omega
  change (Lexer.cookedText .text ('"' :: (go cs ++ ['"']))).map _ = _
  rw [hcooked]
  rfl

theorem piece_go (cs : List Char) :
    Lexer.piece ('"' :: (go cs ++ ['"'])) =
      some ([.token (.literal (String.ofList ('"' :: (go cs ++ ['"']))) (some (String.ofList cs)))],
        []) := by
  have hall (cs : List Char) : cs.take (cs.length - ([] : List Char).length) = cs :=
    List.take_length
  rw [Lexer.piece, literal_go]
  simp only [hall]
  rfl

end textLiteral

theorem Lexer.skipBlank_quote (bound : Nat) (cs : List Char) :
    skipBlank bound ('"' :: cs) = '"' :: cs := by
  cases bound with
  | zero => rfl
  | succ bound => rfl

/-- A literal of the generated code is a single token, which denotes the text it was made from. -/
theorem tokens_textLiteral (s : String) :
    Lexer.tokens (textLiteral s) = some [.literal (textLiteral s) (some s)] := by
  have hpieces (bound : Nat) : Lexer.pieces (bound + 2) (textLiteral s).toList =
      some [.token (.literal (textLiteral s) (some s))] := by
    rw [textLiteral, String.toList_ofList, Lexer.pieces, Lexer.skipBlank_quote]
    simp only [textLiteral.piece_go, String.ofList_toList]
    rfl
  obtain ⟨bound, hbound⟩ : ∃ bound, (textLiteral s).toList.length = bound + 1 := by
    rw [textLiteral, String.toList_ofList]
    exact ⟨_, rfl⟩
  rw [Lexer.tokens, hbound, hpieces]
  rfl

theorem textLiteral_injective : Function.Injective textLiteral := by
  intro s t h
  have htokens := tokens_textLiteral s
  rw [h, tokens_textLiteral] at htokens
  cases htokens
  rfl

end RecordQuery.Derive
