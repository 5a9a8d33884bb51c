import RecordQuery.Condition.Matching
import RecordQuery.Proofs.Text.LowerCase

namespace RecordQuery.Comparison

open Text

/-- A text that occurs in another one with each of its capital sigmas in the same lower-case form is
found there. -/
theorem test_containment {s : String} {l : Literal} {before after : List Char}
    (hs : s.toList = before ++ l.content.toList ++ after)
    (hkept : SigmasKept before l.content.toList after) (a : Attribute) (target : String) :
    (⟨a, .contains, l⟩ : Comparison).test target (.text s) = .ok true ∧
      (⟨a, .lacks, l⟩ : Comparison).test target (.text s) = .ok false := by
  have hfound := containsIgnoringCase_of_sigmasKept hs hkept
  constructor
  · rw [test, testText, hfound]
  · rw [test, testText, hfound]
    rfl

theorem test_containment_street :
    "ΟΔΟΣ ΕΡΜΟΥ".toList = ['Ο'] ++ (Literal.text "ΔΟΣ").content.toList ++ " ΕΡΜΟΥ".toList ∧
    SigmasKept ['Ο'] (Literal.text "ΔΟΣ").content.toList " ΕΡΜΟΥ".toList ∧
    (⟨⟨"name", .field⟩, .contains, .text "ΔΟΣ"⟩ : Comparison).test "Street" (.text "ΟΔΟΣ ΕΡΜΟΥ") =
      .ok true ∧
    (⟨⟨"name", .field⟩, .lacks, .text "ΔΟΣ"⟩ : Comparison).test "Street" (.text "ΟΔΟΣ ΕΡΜΟΥ") =
      .ok false := by
  have hs : "ΟΔΟΣ ΕΡΜΟΥ".toList =
      ['Ο'] ++ (Literal.text "ΔΟΣ").content.toList ++ " ΕΡΜΟΥ".toList := by decide +kernel
  have hkept : SigmasKept ['Ο'] (Literal.text "ΔΟΣ").content.toList " ΕΡΜΟΥ".toList := by
    intro left right h
    have hsplit : left = ['Δ', 'Ο'] ∧ right = [] := by
      rcases left with _ | ⟨c, _ | ⟨d, _ | ⟨e, left⟩⟩⟩
      · cases h
      · cases h
      · cases h
        exact ⟨rfl, rfl⟩
      · simp [Literal.content] at h
    rw [hsplit.1, hsplit.2]
    decide +kernel
  exact ⟨hs, hkept, test_containment hs hkept ⟨"name", .field⟩ "Street"⟩

/-- The last letter of a word is a part of it, but by itself it has another lower-case form. -/
theorem test_containment_final_sigma :
    "Σ".toList <:+: "ΟΔΟΣ".toList ∧
    (⟨⟨"name", .field⟩, .contains, .text "Σ"⟩ : Comparison).test "Street" (.text "ΟΔΟΣ") =
      .ok false ∧
    (⟨⟨"name", .field⟩, .lacks, .text "Σ"⟩ : Comparison).test "Street" (.text "ΟΔΟΣ") =
      .ok true := by
  have hmissed : containsIgnoringCase "ΟΔΟΣ" "Σ" = false := by decide +kernel
  refine ⟨⟨['Ο', 'Δ', 'Ο'], [], by decide +kernel⟩, ?_, ?_⟩
  · change Except.ok (containsIgnoringCase "ΟΔΟΣ" "Σ") = _
    rw [hmissed]
  · change Except.ok (!containsIgnoringCase "ΟΔΟΣ" "Σ") = _
    rw [hmissed]
    rfl

end RecordQuery.Comparison
