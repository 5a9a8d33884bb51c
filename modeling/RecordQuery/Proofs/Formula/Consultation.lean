import RecordQuery.Proofs.Formula.Evaluation

namespace RecordQuery.Formula

open Inquiry

variable {α ε : Type} {settling : Bool} {f : Formula α} {fs : List (Formula α)}
  {answer answer' : α → Except ε Bool} {value : α → Bool}

theorem consult_empty :
    (ofParts settling ([] : List (Formula α))).consult answer = pure !settling :=
  evaluate_empty

theorem consult_more :
    (ofParts settling (f :: fs)).consult answer = (f.consult answer).andThen fun b =>
      if b = settling then pure settling else (ofParts settling fs).consult answer :=
  evaluate_more

theorem consult_follows (f : Formula α) : Follows answer (f.consult answer) := by
  induction f using inductionOnFirstPart with
  | leaf a => exact .ask a
  | empty settling =>
    rw [consult_empty]
    exact .pure _
  | more settling f fs ihf ihfs =>
    rw [consult_more]
    apply ihf.andThen
    intro b
    split
    · exact .pure settling
    · exact ihfs

theorem consult_asked_sublist (f : Formula α) : (f.consult answer).asked.Sublist f.leaves := by
  induction f using inductionOnFirstPart with
  | leaf a => exact List.Sublist.refl _
  | empty settling =>
    rw [consult_empty]
    exact List.nil_sublist _
  | more settling f fs ihf ihfs =>
    rw [consult_more, leaves_more]
    apply asked_andThen_sublist ihf
    intro b
    split
    · exact List.nil_sublist _
    · exact ihfs

/-- Where all leaves have a value, evaluation gives that of the plain reading. -/
theorem consult_eq_holds (h : ∀ a ∈ f.leaves, answer a = .ok (value a)) :
    (f.consult answer).outcome = .ok (f.holds value) := by
  induction f using inductionOnFirstPart with
  | leaf a => exact h a (List.mem_singleton_self a)
  | empty settling =>
    rw [consult_empty, holds_empty]
    rfl
  | more settling f fs ihf ihfs =>
    rw [leaves_more, List.forall_mem_append] at h
    rw [consult_more, holds_more, andThen_of_ok (ihf h.1)]
    split
    · rfl
    · exact ihfs h.2

section Determination

theorem consult_congr (h : ∀ a ∈ (f.consult answer).asked, answer' a = answer a) :
    f.consult answer' = f.consult answer := by
  induction f using inductionOnFirstPart with
  | leaf a =>
    have ha : answer' a = answer a := h a (List.mem_singleton_self a)
    change Inquiry.ask a (answer' a) = Inquiry.ask a (answer a)
    rw [ha]
  | empty settling => rw [consult_empty, consult_empty]
  | more settling f fs ihf ihfs =>
    rw [consult_more] at h
    have hf := ihf fun a ha => h a ((asked_prefix_andThen _ _).subset ha)
    rw [consult_more, consult_more, hf]
    cases hb : (f.consult answer).outcome with
    | error e => rw [andThen_of_error hb, andThen_of_error hb]
    | ok b =>
      rw [andThen_of_ok hb] at h
      rw [andThen_of_ok hb, andThen_of_ok hb]
      by_cases hs : b = settling
      · rw [if_pos hs, if_pos hs]
      · rw [if_neg hs] at h
        rw [if_neg hs, if_neg hs, ihfs fun a ha => h a (List.mem_append_right _ ha)]

/-- The answers received so far determine what is asked next. -/
theorem take_consult_prefix {k : Nat}
    (h : ∀ a ∈ (f.consult answer).asked.take k, answer' a = answer a) :
    (f.consult answer).asked.take (k + 1) <+: (f.consult answer').asked := by
  induction f using inductionOnFirstPart generalizing k with
  | leaf a => exact List.take_prefix _ [a]
  | empty settling =>
    rw [consult_empty, consult_empty]
    exact List.take_prefix _ []
  | more settling f fs ihf ihfs =>
    rw [consult_more] at h ⊢
    rw [consult_more]
    apply take_andThen_prefix
    · intro hk
      apply ihf
      rwa [take_asked_andThen (Nat.le_of_lt hk)] at h
    · intro hk
      apply consult_congr
      intro a ha
      apply h
      exact (List.prefix_take_iff.2 ⟨asked_prefix_andThen _ _, hk⟩).subset ha
    · intro b hb hk
      rw [andThen_of_ok hb, List.take_append] at h
      by_cases hs : b = settling
      · rw [if_pos hs, if_pos hs]
        exact List.take_prefix _ []
      · rw [if_neg hs] at h
        rw [if_neg hs, if_neg hs]
        exact ihfs fun a ha => h a (List.mem_append_right _ ha)

end Determination

section Necessity

def answering (value : α → Bool) : α → Except ε Bool :=
  fun a => .ok (value a)

theorem consult_answering (value : α → Bool) (f : Formula α) :
    (f.consult (answering value : α → Except ε Bool)).outcome = .ok (f.holds value) :=
  consult_eq_holds fun _ _ => rfl

theorem holds_eq_of_consult {b : Bool} (hrun : (f.consult answer).outcome = .ok b)
    (h : ∀ a ∈ (f.consult answer).asked, answer a = .ok (value a)) : f.holds value = b := by
  have hsame : f.consult (answering value) = f.consult answer :=
    consult_congr fun a ha => (h a ha).symm
  have hplain := consult_answering (ε := ε) value f
  rw [hsame, hrun] at hplain
  exact (Except.ok.inj hplain).symm

/-- A formula without empty groups comes out as the last leaf that was asked for. -/
theorem consult_isLastAnswer (answer : α → Except ε Bool) (h : f.Populated) :
    IsLastAnswer answer (f.consult answer) := by
  induction f using inductionOnFirstPart with
  | leaf a => exact ⟨[], a, rfl⟩
  | empty settling => exact (populated_empty h).elim
  | more settling f fs ihf ihfs =>
    rw [consult_more]
    apply (ihf h.first).andThen
    intro b hb
    by_cases hs : b = settling
    · rw [if_pos hs, hs]
      exact .inl rfl
    · -- A part that settles nothing stands for its group if it is the only one.
      rw [if_neg hs]
      by_cases hfs : fs = []
      · rw [hfs, consult_empty, Bool.eq_not_of_ne hs]
        exact .inl rfl
      · exact .inr (ihfs (h.rest hfs))

theorem exists_completion {k : Nat} (hk : k < (f.consult answer).asked.length) (b : Bool) :
    ∃ value : α → Bool, (∀ a ∈ (f.consult answer).asked.take k, answer a = .ok (value a)) ∧
      ∀ a ∉ (f.consult answer).asked.take k, value a = b := by
  have hanswered : ∀ a ∈ (f.consult answer).asked.take k, ∃ c, answer a = .ok c := by
    intro a ha
    apply (consult_follows f).of_mem_dropLast
    rw [List.dropLast_eq_take]
    exact List.take_subset_take_left _ (Nat.le_sub_one_of_lt hk) ha
  have hvalue (a : α) : ∃ c, (a ∈ (f.consult answer).asked.take k → answer a = .ok c) ∧
      (a ∉ (f.consult answer).asked.take k → c = b) := by
    by_cases ha : a ∈ (f.consult answer).asked.take k
    · obtain ⟨c, hc⟩ := hanswered a ha
      exact ⟨c, fun _ => hc, fun hn => (hn ha).elim⟩
    · exact ⟨b, fun hp => (ha hp).elim, fun _ => rfl⟩
  obtain ⟨value, h⟩ := Classical.axiomOfChoice hvalue
  exact ⟨value, fun a => (h a).1, fun a => (h a).2⟩

/-- Whenever a leaf is asked for, the answers received so far leave the value open. -/
theorem exists_holds_eq (hf : f.Populated) (hn : f.leaves.Nodup) {k : Nat}
    (hk : k < (f.consult answer).asked.length) (b : Bool) :
    ∃ value : α → Bool, (∀ a ∈ (f.consult answer).asked.take k, answer a = .ok (value a)) ∧
      f.holds value = b := by
  obtain ⟨value, hvalue, hopen⟩ := exists_completion hk b
  refine ⟨value, hvalue, ?_⟩
  -- The run on the completed answers goes on after the first `k` leaves. So its last leaf is not
  -- among them, and the answer to that one, which is `b`, is the outcome.
  have hprefix : (f.consult answer).asked.take (k + 1) <+: (f.consult (answering value)).asked :=
    take_consult_prefix fun a ha => (hvalue a ha).symm
  have hdistinct : (f.consult (answering value : α → Except ε Bool)).asked.Nodup :=
    hn.sublist (consult_asked_sublist f)
  have hplain := consult_answering (ε := ε) value f
  obtain ⟨earlier, a, hrun⟩ := consult_isLastAnswer (ε := ε) (answering value) hf
  rw [hrun] at hprefix hdistinct hplain
  rw [← Except.ok.inj hplain]
  apply hopen
  intro ha
  have hearlier : (f.consult answer).asked.take k <+: earlier := by
    have hwhole := (List.take_prefix_take_left k.le_succ).trans hprefix
    apply List.prefix_of_prefix_length_le hwhole (List.prefix_append earlier [a])
    have hlength := hprefix.length_le
    simp only [List.length_take, List.length_append, List.length_singleton] at hlength ⊢
    omega
  exact (List.nodup_append.1 hdistinct).2.2 a (hearlier.subset ha) a (List.mem_singleton_self a)
    rfl

end Necessity

end RecordQuery.Formula
