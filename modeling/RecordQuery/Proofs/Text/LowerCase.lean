import RecordQuery.Text.LowerCase

namespace RecordQuery.Text

variable {before after part whole : List Char}

theorem occursIn_iff : occursIn part whole = true ↔ part <:+: whole := by
  induction whole with
  | nil => rw [occursIn, List.isEmpty_iff, List.infix_nil]
  | cons c rest ih =>
    rw [occursIn, Bool.or_eq_true, List.isPrefixOf_iff_prefix, ih, List.infix_cons_iff]

/-- The lower-case form of `part` after the text that `passed` holds backwards and before `after`. -/
def lowerBetween (passed after : List Char) : (part : List Char) → List Char
  | [] => []
  | c :: cs =>
    (if c = 'Σ' then [lowerSigma passed (cs ++ after)] else lowerChar c) ++
      lowerBetween (c :: passed) after cs

theorem lowerFrom_append (passed part after : List Char) :
    lowerFrom passed (part ++ after) =
      lowerBetween passed after part ++ lowerFrom (part.reverse ++ passed) after := by
  induction part generalizing passed with
  | nil => rfl
  | cons c cs ih =>
    rw [List.cons_append, lowerFrom, lowerBetween, ih, List.append_assoc, List.reverse_cons,
      List.append_assoc, List.singleton_append]

theorem lower_eq_lowerBetween (part : List Char) : lower part = lowerBetween [] [] part := by
  have h := lowerFrom_append [] part []
  rwa [List.append_nil, lowerFrom, List.append_nil] at h

theorem lowerBetween_infix_lower (before part after : List Char) :
    lowerBetween before.reverse after part <:+: lower (before ++ part ++ after) := by
  rw [lower, List.append_assoc, lowerFrom_append, lowerFrom_append, List.append_nil,
    ← List.append_assoc]
  exact ⟨_, _, rfl⟩

/-- Every capital sigma of `part` has the same lower-case form between the two other texts as in
`part` alone. -/
def SigmasKept (before part after : List Char) : Prop :=
  ∀ left right, part = left ++ 'Σ' :: right →
    lowerSigma (left.reverse ++ before.reverse) (right ++ after) = lowerSigma left.reverse right

theorem lowerBetween_of_sigmasKept (left right : List Char)
    (h : SigmasKept before (left ++ right) after) :
    lowerBetween (left.reverse ++ before.reverse) after right =
      lowerBetween left.reverse [] right := by
  induction right generalizing left with
  | nil => rfl
  | cons c cs ih =>
    have hrest := ih (left ++ [c]) (by rwa [List.append_assoc, List.singleton_append])
    rw [List.reverse_append, List.reverse_singleton, List.singleton_append, List.cons_append] at hrest
    rw [lowerBetween, lowerBetween, hrest, List.append_nil]
    by_cases hc : c = 'Σ'
    · subst hc
      rw [if_pos rfl, if_pos rfl, h left cs rfl]
    · rw [if_neg hc, if_neg hc]

theorem containsIgnoringCase_of_sigmasKept {s t : String}
    (hs : s.toList = before ++ t.toList ++ after) (h : SigmasKept before t.toList after) :
    containsIgnoringCase s t = true := by
  have hsame : lowerBetween before.reverse after t.toList = lower t.toList := by
    rw [lower_eq_lowerBetween]
    exact lowerBetween_of_sigmasKept [] t.toList h
  rw [containsIgnoringCase, occursIn_iff, hs, ← hsame]
  exact lowerBetween_infix_lower before t.toList after

end RecordQuery.Text
