import RecordQuery.Proofs.Reader

namespace RecordQuery.Reader

variable {α : Type} {p : Reader α} {form : List Char → α → Prop} {follow : List Char → Prop}
  {cs rest : List Char} {a : α} {as : List α}

inductive Repetition (form : List Char → α → Prop) : List Char → List α → Prop where
  | nil : Repetition form [] []
  | cons {cs ds : List Char} {a : α} {as : List α} (ha : form cs a) (has : Repetition form ds as) :
      Repetition form (cs ++ ds) (a :: as)

theorem Repetition.followed (h : Repetition form cs as)
    (hnext : ∀ {cs a rest}, form cs a → follow (cs ++ rest)) (hr : follow rest) :
    follow (cs ++ rest) := by
  cases h with
  | nil => exact hr
  | cons ha _ =>
    rw [List.append_assoc]
    exact hnext ha

theorem many_sound (hs : Sound p form) : Sound (many p) (Repetition form) := by
  intro cs as rest h
  replace h : repeated p cs = (as, rest) := Except.ok.inj h
  induction cs using repeated.induct p generalizing as rest with
  | case1 cs a mid hp hl _ _ _ ih =>
    rw [repeated_of_ok hp hl] at h
    cases h
    obtain ⟨taken, rfl, ha⟩ := hs hp
    obtain ⟨tail, htail, has⟩ := ih rfl
    refine ⟨taken ++ tail, ?_, .cons ha has⟩
    rw [List.append_assoc, ← htail]
  | case2 cs a mid hp hl =>
    -- A value that takes nothing is not kept.
    rw [repeated, hp] at h
    cases (if_neg hl).symm.trans h
    exact ⟨[], rfl, .nil⟩
  | case3 cs last hp =>
    cases (repeated_of_fails ⟨last, hp⟩).symm.trans h
    exact ⟨[], rfl, .nil⟩

/-- A repetition is read whole where a value cannot be read behind it, because each value may stand
in front of the next. -/
theorem many_complete (hp : Complete p form follow) (hne : ∀ {cs a}, form cs a → cs ≠ [])
    (hnext : ∀ {cs a rest}, form cs a → follow (cs ++ rest)) :
    Complete (many p) (Repetition form) fun rest => follow rest ∧ Fails p rest := by
  intro cs as rest h hr
  induction h with
  | nil => exact congrArg Except.ok (repeated_of_fails hr.2)
  | @cons cs ds a as ha has ih =>
    have hread := hp ha (has.followed hnext hr.1)
    have hl : (ds ++ rest).length < (cs ++ (ds ++ rest)).length := by
      have hpos := List.length_pos_iff.2 (hne ha)
      simp only [List.length_append]
      omega
    have hmore : repeated p (ds ++ rest) = (as, rest) := Except.ok.inj ih
    rw [List.append_assoc, many, repeated_of_ok hread hl, hmore]

end RecordQuery.Reader
