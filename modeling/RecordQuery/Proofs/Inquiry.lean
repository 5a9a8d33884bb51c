import RecordQuery.Record

namespace RecordQuery

namespace Inquiry

variable {q r ε α β : Type} {i i' : Inquiry q ε α} {next next' : α → Inquiry q ε β} {x : α} {y : β}
  {e : ε}

theorem andThen_of_ok (h : i.outcome = .ok x) :
    i.andThen next = ⟨i.asked ++ (next x).asked, (next x).outcome⟩ := by
  rw [andThen, h]

theorem andThen_of_error (h : i.outcome = .error e) : i.andThen next = ⟨i.asked, .error e⟩ := by
  rw [andThen, h]

theorem andThen_eq_ok :
    (i.andThen next).outcome = .ok y ↔ ∃ x, i.outcome = .ok x ∧ (next x).outcome = .ok y := by
  cases h : i.outcome with
  | error e => simp [andThen_of_error h]
  | ok x => simp [andThen_of_ok h]

theorem andThen_eq_error :
    (i.andThen next).outcome = .error e ↔
      i.outcome = .error e ∨ ∃ x, i.outcome = .ok x ∧ (next x).outcome = .error e := by
  cases h : i.outcome with
  | error e' => simp [andThen_of_error h]
  | ok x => simp [andThen_of_ok h]

theorem andThen_congr (hi : i' = i) (hnext : ∀ x, i.outcome = .ok x → next' x = next x) :
    i'.andThen next' = i.andThen next := by
  subst hi
  cases h : i'.outcome with
  | error e => rw [andThen_of_error h, andThen_of_error h]
  | ok x => rw [andThen_of_ok h, andThen_of_ok h, hnext x h]

theorem pure_andThen : (pure x : Inquiry q ε α).andThen next = next x := rfl

theorem andThen_pure : i.andThen pure = i := by
  cases h : i.outcome with
  | error e => rw [andThen_of_error h, ← h]
  | ok x =>
    rw [andThen_of_ok h]
    change Inquiry.mk (i.asked ++ []) (.ok x) = i
    rw [List.append_nil, ← h]

theorem andThen_assoc {γ : Type} {more : β → Inquiry q ε γ} :
    (i.andThen next).andThen more = i.andThen fun x => (next x).andThen more := by
  cases h : i.outcome with
  | error e => rw [andThen_of_error h, andThen_of_error h, andThen_of_error rfl]
  | ok x =>
    rw [andThen_of_ok h, andThen_of_ok h]
    cases hx : (next x).outcome with
    | error e => rw [andThen_of_error rfl, andThen_of_error hx]
    | ok y => rw [andThen_of_ok rfl, andThen_of_ok hx, List.append_assoc]

theorem relabel_andThen (g : q → r) :
    (i.andThen next).relabel g = (i.relabel g).andThen fun x => (next x).relabel g := by
  cases hi : i.outcome with
  | error e =>
    rw [andThen_of_error hi, andThen_of_error (i := i.relabel g) hi]
    rfl
  | ok x =>
    rw [andThen_of_ok hi, andThen_of_ok (i := i.relabel g) hi]
    simp only [relabel, List.map_append]

section Asked

theorem mem_asked_andThen {a : q} :
    a ∈ (i.andThen next).asked ↔ a ∈ i.asked ∨ ∃ x, i.outcome = .ok x ∧ a ∈ (next x).asked := by
  cases h : i.outcome with
  | error e => simp [andThen_of_error h]
  | ok x => simp [andThen_of_ok h]

theorem asked_prefix_andThen (i : Inquiry q ε α) (next : α → Inquiry q ε β) :
    i.asked <+: (i.andThen next).asked := by
  rw [andThen]
  split
  · exact List.prefix_append _ _
  · exact List.prefix_refl _

theorem asked_andThen_sublist {xs ys : List q} (hi : i.asked.Sublist xs)
    (hnext : ∀ x, (next x).asked.Sublist ys) : (i.andThen next).asked.Sublist (xs ++ ys) := by
  rw [andThen]
  split
  · exact hi.append (hnext _)
  · exact hi.trans (List.sublist_append_left _ _)

theorem take_asked_andThen {k : Nat} (hk : k ≤ i.asked.length) :
    (i.andThen next).asked.take k = i.asked.take k := by
  obtain ⟨later, hlater⟩ := asked_prefix_andThen i next
  rw [← hlater, List.take_append_of_le_length hk]

/-- Two inquiries ask alike up to the question after the first `k` ones if their first parts do
and, once these are over, their second parts. -/
theorem take_andThen_prefix {k : Nat}
    (hfirst : k < i.asked.length → i.asked.take (k + 1) <+: i'.asked)
    (hsame : i.asked.length ≤ k → i' = i)
    (hsecond : ∀ x, i.outcome = .ok x → i.asked.length ≤ k →
      (next x).asked.take (k - i.asked.length + 1) <+: (next' x).asked) :
    (i.andThen next).asked.take (k + 1) <+: (i'.andThen next').asked := by
  rcases Nat.lt_or_ge k i.asked.length with hk | hk
  · rw [take_asked_andThen hk]
    exact (hfirst hk).trans (asked_prefix_andThen i' next')
  · rw [hsame hk]
    cases hx : i.outcome with
    | error e =>
      rw [andThen_of_error hx, andThen_of_error hx]
      exact List.take_prefix _ _
    | ok x =>
      rw [andThen_of_ok hx, andThen_of_ok hx, List.take_append, Nat.sub_add_comm hk,
        List.take_of_length_le (Nat.le_succ_of_le hk)]
      exact (List.prefix_append_right_inj _).2 (hsecond x hx hk)

end Asked

section Answers

variable {answer : q → Except ε Bool}

/-- All answers to what is asked are values, but for a last one whose failure is the outcome. -/
inductive Follows (answer : q → Except ε Bool) : Inquiry q ε α → Prop where
  | success {asked : List q} {x : α} (h : ∀ a ∈ asked, ∃ b, answer a = .ok b) :
      Follows answer ⟨asked, .ok x⟩
  | failure {asked : List q} {a : q} {e : ε} (h : ∀ a ∈ asked, ∃ b, answer a = .ok b)
      (ha : answer a = .error e) : Follows answer ⟨asked ++ [a], .error e⟩

namespace Follows

theorem ask (a : q) : Follows answer (Inquiry.ask a (answer a)) := by
  cases ha : answer a with
  | ok b => exact .success (List.forall_mem_singleton.2 ⟨b, ha⟩)
  | error e => exact .failure (List.forall_mem_nil _) ha

theorem pure (x : α) : Follows answer (Pure.pure x : Inquiry q ε α) :=
  .success (List.forall_mem_nil _)

theorem andThen (hi : Follows answer i) (hnext : ∀ x, Follows answer (next x)) :
    Follows answer (i.andThen next) := by
  cases hi with
  | failure h ha => exact .failure h ha
  | @success asked x h =>
    rw [andThen_of_ok rfl]
    cases hn : next x with
    | mk asked' outcome =>
      have hx := hn ▸ hnext x
      cases hx with
      | success h' => exact .success (List.forall_mem_append.2 ⟨h, h'⟩)
      | failure h' ha =>
        rw [← List.append_assoc]
        exact .failure (List.forall_mem_append.2 ⟨h, h'⟩) ha

theorem outcome_eq_error_iff (hi : Follows answer i) :
    i.outcome = .error e ↔ ∃ a, i.asked.getLast? = some a ∧ answer a = .error e := by
  cases hi with
  | success h =>
    refine ⟨nofun, ?_⟩
    intro ⟨a, hlast, ha⟩
    obtain ⟨b, hb⟩ := h a (List.mem_of_getLast? hlast)
    cases hb.symm.trans ha
  | failure h ha => simp [ha]

theorem of_mem_dropLast (hi : Follows answer i) : ∀ a ∈ i.asked.dropLast, ∃ b, answer a = .ok b := by
  cases hi with
  | success h => exact fun a ha => h a ((List.dropLast_sublist _).subset ha)
  | failure h ha => rwa [List.dropLast_concat]

theorem exists_outcome_eq_ok (hi : Follows answer i) (h : ∀ a ∈ i.asked, ∃ b, answer a = .ok b) :
    ∃ x, i.outcome = .ok x := by
  cases hi with
  | success => exact ⟨_, rfl⟩
  | failure _ ha =>
    obtain ⟨b, hb⟩ := h _ List.mem_concat_self
    cases hb.symm.trans ha

end Follows

def IsLastAnswer (answer : q → Except ε Bool) (i : Inquiry q ε Bool) : Prop :=
  ∃ earlier a, i = ⟨earlier ++ [a], answer a⟩

theorem IsLastAnswer.andThen {i : Inquiry q ε Bool} {next : Bool → Inquiry q ε Bool}
    (hi : IsLastAnswer answer i)
    (hnext : ∀ b, i.outcome = .ok b → next b = pure b ∨ IsLastAnswer answer (next b)) :
    IsLastAnswer answer (i.andThen next) := by
  obtain ⟨earlier, a, rfl⟩ := hi
  cases ha : answer a with
  | error e =>
    refine ⟨earlier, a, ?_⟩
    rw [ha]
    rfl
  | ok b =>
    rw [andThen_of_ok rfl]
    rcases hnext b ha with hb | ⟨earlier', a', hb⟩
    · refine ⟨earlier, a, ?_⟩
      rw [hb, ha]
      exact congrArg (Inquiry.mk · (.ok b)) (List.append_nil _)
    · refine ⟨earlier ++ [a] ++ earlier', a', ?_⟩
      rw [hb, List.append_assoc _ earlier' [a']]

end Answers

end Inquiry

namespace Record

variable {t : Record} {a : Attribute} {v : Value} {e : Error}

theorem resolve_eq_ok : (t.resolve a).outcome = .ok v ↔ t.get? a = some v := by
  rw [resolve, Inquiry.ask]
  cases t.get? a with
  | none => simp
  | some w => simp

theorem resolve_eq_error :
    (t.resolve a).outcome = .error e ↔ t.get? a = none ∧ e = .unknownIdentifier a t.name := by
  rw [resolve, Inquiry.ask]
  cases t.get? a with
  | none => simp [eq_comm]
  | some v => simp

end Record

end RecordQuery
