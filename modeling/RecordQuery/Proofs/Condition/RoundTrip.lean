import RecordQuery.Proofs.Condition.Rendering

namespace RecordQuery.Condition

open Reader Lexeme Formula

variable {f g : Condition} {fs gs : List Condition} {cs rest : List Char}
  {joiner word : String} {c : Char} {part : Reader Condition}

section Texts

theorem text_of_group (h : f.isLeaf = false) : ∃ cs, f.text = '(' :: cs := by
  cases f with
  | leaf c => cases h
  | all fs => exact ⟨_, by rw [text, render, String.toList_append, String.toList_append]; rfl⟩
  | any fs => exact ⟨_, by rw [text, render, String.toList_append, String.toList_append]; rfl⟩

theorem text_starts (hn : f.Named) : ∃ c ds, f.text = c :: ds ∧ c ≠ ' ' := by
  cases hl : f.isLeaf with
  | true =>
    obtain ⟨c, rfl⟩ := exists_of_isLeaf hl
    exact (leafForm_text (hn c List.mem_cons_self)).starts
  | false =>
    obtain ⟨cs, he⟩ := text_of_group hl
    exact ⟨'(', cs, he, by decide⟩

theorem text_avoids (hn : f.Named) (cs : List Char) : Avoids (· = ' ') (f.text ++ cs) := by
  obtain ⟨c, ds, he, hc⟩ := text_starts hn
  rw [he]
  exact .cons (decide_eq_false hc)

theorem furtherText_split {w : List Char} (he : joiner.toList = [' '] ++ (w ++ [' ']))
    (g : Condition) (gs : List Condition) (rest : List Char) :
    furtherText joiner (g :: gs) ++ rest =
      [' '] ++ (w ++ ([' '] ++ (g.text ++ (furtherText joiner gs ++ rest)))) := by
  simp [furtherText, he]

theorem furtherText_word (hj : Joins joiner word c) (g : Condition) (gs : List Condition)
    (rest : List Char) :
    ∃ d es, (furtherText joiner (g :: gs) ++ rest).dropWhile (· = ' ') = d :: es ∧
      d.toLower = c := by
  obtain ⟨w, he, hw⟩ := hj.spells
  obtain ⟨ds, hword⟩ := hj.starts
  rw [furtherText_split he, dropWhile_append (by simp) (hw.avoids_space hword hj.ne_space _)]
  rw [Spells, hword] at hw
  cases w with
  | nil => cases hw
  | cons d w => exact ⟨d, _, rfl, (List.cons.inj hw).1⟩

theorem furtherText_avoids {accept : Char → Bool} (fs : List Condition) (rest : List Char)
    (hj : Joins joiner word c) (hspace : accept ' ' = false) (hparen : accept ')' = false) :
    Avoids accept (furtherText joiner fs ++ ')' :: rest) := by
  cases fs with
  | nil => exact .cons hparen
  | cons g gs =>
    obtain ⟨w, he, -⟩ := hj.spells
    rw [furtherText, List.flatMap_cons, he]
    exact .cons hspace

theorem endsConjunction_further : EndsConjunction (furtherText " OR " fs ++ ')' :: rest) := by
  refine ⟨furtherText_avoids fs rest joins_or (by decide) (by decide), ?_⟩
  cases fs with
  | nil => exact .cons (by decide)
  | cons g gs =>
    obtain ⟨d, es, he, hd⟩ := furtherText_word joins_or g gs (')' :: rest)
    rw [he]
    exact .cons (by rw [hd]; decide)

end Texts

section Stalling

/-- Where the reader succeeds on the text, it leaves further parts with the joining word. -/
def Stalls (p : Reader Condition) (joiner : String) (cs rest : List Char) : Prop :=
  ∀ f mid, p cs = .ok (f, mid) → ∃ g gs, mid = furtherText joiner (g :: gs) ++ ')' :: rest

theorem stalls_of_fails (h : Fails part cs) : Stalls part joiner cs rest := by
  intro f mid he
  exact (h.ne_ok _ _ he).elim

theorem Stalls.parenthesized (hj : Joins joiner word c) (hcs : Avoids (· = ' ') cs)
    (h : Stalls part joiner cs rest) :
    Fails (parenthesized part) ('(' :: cs) := by
  have hspaces : spaces cs = .ok ((), cs) := spaces_append .nil hcs
  refine .bind_right (exactly_cons "(" '(' rfl _) (.bind_right hspaces ?_)
  cases hp : part cs with
  | error last => exact Fails.bind ⟨last, hp⟩
  | ok result =>
    obtain ⟨f, mid⟩ := result
    obtain ⟨g, gs, rfl⟩ := h f mid hp
    obtain ⟨d, es, he, hd⟩ := furtherText_word hj g gs (')' :: rest)
    have hclose : Fails (exactly ")") ((furtherText joiner (g :: gs) ++ ')' :: rest).dropWhile
        (· = ' ')) := by
      apply exactly_fails rfl
      rw [he]
      refine .cons (beq_eq_false_iff_ne.2 ?_)
      rintro rfl
      exact hj.ne_paren hd.symm
    exact .bind_right hp (.bind_right rfl hclose.bind)

theorem joined_further {value : Condition} (hj : Joins joiner word c) (hn : f.Named)
    (h : part (f.text ++ (furtherText joiner fs ++ rest)) =
      .ok (value, furtherText joiner fs ++ rest)) :
    joined word part (furtherText joiner (f :: fs) ++ rest) =
      .ok (value, furtherText joiner fs ++ rest) := by
  obtain ⟨w, he, hw⟩ := hj.spells
  obtain ⟨ds, hword⟩ := hj.starts
  rw [furtherText_split he]
  exact joined_append hword hj.ne_space isBreak_space hw isBreak_space (text_avoids hn _) h

theorem joined_further_fails (hj : Joins joiner word c) (hn : f.Named)
    (h : Fails part (f.text ++ (furtherText joiner fs ++ rest))) :
    Fails (joined word part) (furtherText joiner (f :: fs) ++ rest) := by
  obtain ⟨w, he, hw⟩ := hj.spells
  obtain ⟨ds, hword⟩ := hj.starts
  have hspaces := someSpaces_append isBreak_space (hw.avoids_space hword hj.ne_space
    ([' '] ++ (f.text ++ (furtherText joiner fs ++ rest))))
  rw [furtherText_split he]
  exact .bind_right hspaces (.bind_right (keyword_append hw _)
    (.bind_right (someSpaces_append isBreak_space (text_avoids hn _)) h))

/-- The repetition of a part stalls in front of the first part that is not accepted. -/
theorem repeated_stalls {accepts : Condition → Bool} (hj : Joins joiner word c)
    (hn : ∀ f ∈ fs, f.Named)
    (hread : ∀ f ∈ fs, accepts f = true → ∀ gs, ∃ value,
      part (f.text ++ (furtherText joiner gs ++ ')' :: rest)) =
        .ok (value, furtherText joiner gs ++ ')' :: rest))
    (hfail : ∀ f ∈ fs, accepts f = false → ∀ cs, Fails part (f.text ++ cs))
    (h : fs.all accepts = false) :
    ∃ g gs, (repeated (joined word part) (furtherText joiner fs ++ ')' :: rest)).2 =
      furtherText joiner (g :: gs) ++ ')' :: rest := by
  induction fs with
  | nil => cases h
  | cons f fs ih =>
    have hnf : f.Named := hn f List.mem_cons_self
    cases ha : accepts f with
    | true =>
      rw [List.all_cons, ha, Bool.true_and] at h
      obtain ⟨value, hvalue⟩ := hread f List.mem_cons_self ha fs
      have hshort : (furtherText joiner fs ++ ')' :: rest).length <
          (furtherText joiner (f :: fs) ++ ')' :: rest).length := by
        obtain ⟨w, he, -⟩ := hj.spells
        rw [furtherText_split he]
        simp
        omega
      rw [repeated_of_ok (joined_further hj hnf hvalue) hshort]
      exact ih (fun g hg => hn g (List.mem_cons_of_mem _ hg))
        (fun g hg => hread g (List.mem_cons_of_mem _ hg))
        (fun g hg => hfail g (List.mem_cons_of_mem _ hg)) h
    | false =>
      have hpart := hfail f List.mem_cons_self ha (furtherText joiner fs ++ ')' :: rest)
      rw [repeated_of_fails (joined_further_fails hj hnf hpart)]
      exact ⟨f, fs, rfl⟩

theorem repeated_further_fails {other : String} {d : Char} {ds : List Char}
    (hj : Joins joiner other d) (hword : word.toList = c :: ds) (hne : d ≠ c) :
    repeated (joined word part) (furtherText joiner (g :: gs) ++ rest) =
      ([], furtherText joiner (g :: gs) ++ rest) := by
  apply repeated_of_fails
  apply joined_fails hword
  obtain ⟨e, fs, he, hlower⟩ := furtherText_word hj g gs rest
  rw [he]
  exact .cons (beq_eq_false_iff_ne.2 (hlower ▸ hne))

end Stalling

section Conjunctions

theorem comparison_text {c : Comparison} (hn : Named (.leaf c))
    (hr : Avoids continuesLiteral rest) :
    comparison true (text (.leaf c) ++ rest) = .ok (asQuoted (.leaf c), rest) :=
  comparison_complete (leafForm_text (hn c List.mem_cons_self)) hr

theorem group_avoids (h : f.isLeaf = false) (cs : List Char) :
    Avoids startsIdentifier (f.text ++ cs) := by
  obtain ⟨ds, he⟩ := text_of_group h
  rw [he]
  exact .cons (by decide)

theorem conjunction_stalls (hn : ∀ g ∈ f :: fs, g.Named) (h : (f :: fs).all isLeaf = false) :
    Stalls (conjunction true) " AND " (f.text ++ (furtherText " AND " fs ++ ')' :: rest)) rest := by
  cases hl : f.isLeaf with
  | false => exact stalls_of_fails (conjunction_fails (group_avoids hl _))
  | true =>
    obtain ⟨c, rfl⟩ := exists_of_isLeaf hl
    rw [List.all_cons, hl, Bool.true_and] at h
    have hfirst := comparison_text (hn _ List.mem_cons_self)
      (furtherText_avoids fs rest joins_and (by decide) (by decide))
    have hmore := repeated_stalls joins_and
      (fun g hg => hn g (List.mem_cons_of_mem _ hg))
      (fun g hg hl gs => by
        obtain ⟨d, rfl⟩ := exists_of_isLeaf hl
        exact ⟨_, comparison_text (hn _ (List.mem_cons_of_mem _ hg))
          (furtherText_avoids gs rest joins_and (by decide) (by decide))⟩)
      (fun g _ hl cs => comparison_fails (group_avoids hl cs)) h
    intro value mid hread
    rw [conjunction, bind_of_ok hfirst] at hread
    obtain ⟨more, mid', hmany, hread⟩ := bind_eq_ok.1 hread
    obtain ⟨-, rfl⟩ := pure_eq_ok.1 hread
    rwa [Except.ok.inj hmany] at hmore

theorem conjunction_stalls_or (hn : f.Named) :
    Stalls (conjunction true) " OR " (f.text ++ (furtherText " OR " (g :: gs) ++ ')' :: rest))
      rest := by
  cases hl : f.isLeaf with
  | false => exact stalls_of_fails (conjunction_fails (group_avoids hl _))
  | true =>
    obtain ⟨c, rfl⟩ := exists_of_isLeaf hl
    have hfirst := comparison_text hn
      (furtherText_avoids (g :: gs) rest joins_or (by decide) (by decide))
    intro value mid hread
    rw [conjunction, bind_of_ok hfirst] at hread
    obtain ⟨more, mid', hmany, hread⟩ := bind_eq_ok.1 hread
    obtain ⟨-, rfl⟩ := pure_eq_ok.1 hread
    rw [many, repeated_further_fails joins_or rfl (by decide)] at hmany
    cases hmany
    exact ⟨g, gs, rfl⟩

end Conjunctions

section Operands

theorem text_all_append (f : Condition) (fs : List Condition) (rest : List Char) :
    text (.all (f :: fs)) ++ rest = '(' :: (f.text ++ (furtherText " AND " fs ++ ')' :: rest)) := by
  rw [text_all]
  simp

theorem text_any_append (f : Condition) (fs : List Condition) (rest : List Char) :
    text (.any (f :: fs)) ++ rest = '(' :: (f.text ++ (furtherText " OR " fs ++ ')' :: rest)) := by
  rw [text_any]
  simp

theorem all_fails (hn : f.Named)
    (h : Stalls part " AND " (f.text ++ (furtherText " AND " fs ++ ')' :: rest)) rest) :
    Fails (parenthesized part) (text (.all (f :: fs)) ++ rest) := by
  rw [text_all_append]
  exact h.parenthesized joins_and (text_avoids hn _)

theorem any_fails (hn : f.Named)
    (h : Stalls part " OR " (f.text ++ (furtherText " OR " fs ++ ')' :: rest)) rest) :
    Fails (parenthesized part) (text (.any (f :: fs)) ++ rest) := by
  rw [text_any_append]
  exact h.parenthesized joins_or (text_avoids hn _)

theorem parenthesizedForm_text (hg : Grouped (.all fs)) (hn : Named (.all fs))
    (h : fs.all isLeaf = true) :
    ParenthesizedForm (ConjunctionForm true) (text (.all fs)) (asQuoted (.all fs)) := by
  obtain ⟨f, g, fs, rfl⟩ := exists_two_parts hg.1
  have hc := conjunctionForm_text (fun k hk => List.all_eq_true.1 h k hk)
    (fun k hk => hn.of_mem_all hk)
  have hp := ParenthesizedForm.intro .nil hc .nil
  rw [List.nil_append, List.append_nil] at hp
  rw [text_all, asQuoted_all]
  exact hp

theorem operand_all (hg : Grouped (.all fs)) (hn : Named (.all fs)) (h : fs.all isLeaf = true)
    (rest : List Char) :
    operand true (text (.all fs) ++ rest) = .ok (asQuoted (.all fs), rest) :=
  orElse_of_ok (parenthesized_conjunction_complete (parenthesizedForm_text hg hn h) trivial)

theorem operandForm_text (hg : f.Grouped) (hn : f.Named) (h : f.isOperand = true) :
    OperandForm true f.text f.asQuoted := by
  cases f with
  | leaf c =>
    obtain ⟨hc⟩ := leafForm_text (hn c List.mem_cons_self)
    exact .bare (.one hc)
  | any fs => cases h
  | all fs => exact .parenthesized (parenthesizedForm_text hg hn h)

/-- A group of groups is not an operand: its first or a later part is missing its parenthesis. -/
theorem operand_fails (hg : f.Grouped) (hn : f.Named) (h : f.isOperand = false)
    (cs : List Char) : Fails (operand true) (f.text ++ cs) := by
  cases f with
  | leaf c => cases h
  | all fs =>
    obtain ⟨f, g, fs, rfl⟩ := exists_two_parts hg.1
    refine .orElse ?_ (conjunction_fails (group_avoids rfl cs))
    exact all_fails (hn.of_mem_all List.mem_cons_self)
      (conjunction_stalls (fun k hk => hn.of_mem_all hk) h)
  | any fs =>
    obtain ⟨f, g, fs, rfl⟩ := exists_two_parts hg.1
    refine .orElse ?_ (conjunction_fails (group_avoids rfl cs))
    have hf : Named f := hn.of_mem_any List.mem_cons_self
    exact any_fails hf (conjunction_stalls_or hf)

theorem operand_stalls (hg : f.Grouped) (hn : ∀ k ∈ f :: g :: fs, k.Named)
    (h : (f :: g :: fs).all isLeaf = false) :
    Stalls (operand true) " AND " (f.text ++ (furtherText " AND " (g :: fs) ++ ')' :: rest))
      rest := by
  have hf : f.Named := hn f List.mem_cons_self
  cases ho : f.isOperand with
  | false => exact stalls_of_fails (operand_fails hg hf ho _)
  | true =>
    intro value mid hread
    cases f with
    | leaf c =>
      have hstart := (leafForm_text (hf c List.mem_cons_self)).exists_cons
      have hbare := (orElse_of_fails (parenthesized_fails_of_starts hstart)).symm.trans hread
      exact conjunction_stalls hn h value mid hbare
    | any ks => cases ho
    | all ks =>
      cases (operand_all hg hf ho _).symm.trans hread
      exact ⟨g, fs, rfl⟩

end Operands

section Disjunctions

theorem disjunction_stalls_and (hg : f.Grouped) (hn : ∀ k ∈ f :: g :: fs, k.Named)
    (h : (f :: g :: fs).all isLeaf = false) :
    Stalls (disjunction true) " AND " (f.text ++ (furtherText " AND " (g :: fs) ++ ')' :: rest))
      rest := by
  intro value mid hread
  obtain ⟨first, mid', hfirst, hread⟩ := bind_eq_ok.1 hread
  obtain ⟨more, mid, hmany, hread⟩ := bind_eq_ok.1 hread
  obtain ⟨-, rfl⟩ := pure_eq_ok.1 hread
  obtain ⟨k, ks, rfl⟩ := operand_stalls hg hn h first mid' hfirst
  rw [many, repeated_further_fails joins_and rfl (by decide)] at hmany
  cases hmany
  exact ⟨k, ks, rfl⟩

theorem operand_text (hg : f.Grouped) (hn : f.Named) (h : f.isOperand = true)
    (gs : List Condition) (rest : List Char) :
    operand true (f.text ++ (furtherText " OR " gs ++ ')' :: rest)) =
      .ok (f.asQuoted, furtherText " OR " gs ++ ')' :: rest) :=
  operand_complete (operandForm_text hg hn h) endsConjunction_further

/-- A disjunction is read out of further parts only if all of them are operands. -/
theorem disjunction_stalls (hg : ∀ k ∈ f :: fs, k.Grouped) (hn : ∀ k ∈ f :: fs, k.Named)
    (h : (f :: fs).all isOperand = false) :
    Stalls (disjunction true) " OR " (f.text ++ (furtherText " OR " fs ++ ')' :: rest)) rest := by
  have hgf : f.Grouped := hg f List.mem_cons_self
  have hnf : f.Named := hn f List.mem_cons_self
  cases ho : f.isOperand with
  | false => exact stalls_of_fails (operand_fails hgf hnf ho _).bind
  | true =>
    rw [List.all_cons, ho, Bool.true_and] at h
    have hmore := repeated_stalls joins_or
      (fun k hk => hn k (List.mem_cons_of_mem _ hk))
      (fun k hk hl gs => ⟨_, operand_text (hg k (List.mem_cons_of_mem _ hk))
        (hn k (List.mem_cons_of_mem _ hk)) hl gs rest⟩)
      (fun k hk hl cs => operand_fails (hg k (List.mem_cons_of_mem _ hk))
        (hn k (List.mem_cons_of_mem _ hk)) hl cs) h
    intro value mid hread
    rw [disjunction, bind_of_ok (operand_text hgf hnf ho fs rest)] at hread
    obtain ⟨more, mid', hmany, hread⟩ := bind_eq_ok.1 hread
    obtain ⟨-, rfl⟩ := pure_eq_ok.1 hread
    rwa [Except.ok.inj hmany] at hmore

end Disjunctions

section Wholes

theorem form_text (hg : f.Grouped) (hn : f.Named) (h : f.isTwoLevel = true) :
    Form true f.text f.asQuoted := by
  cases f with
  | leaf c => exact .bare (.one (operandForm_text hg hn rfl))
  | all fs => exact .bare (.one (operandForm_text hg hn h))
  | any fs =>
    have hparts := groupedParts_iff.1 hg.2
    obtain ⟨f, g, fs, rfl⟩ := exists_two_parts hg.1
    have hj := joinedForm_parts asQuoted joins_or fun k hk =>
      operandForm_text (hparts k hk) (hn.of_mem_any hk) (List.all_eq_true.1 h k hk)
    have hp := ParenthesizedForm.intro .nil (DisjunctionForm.more hj) .nil
    rw [List.nil_append, List.append_nil] at hp
    rw [text_any, asQuoted_any]
    exact .parenthesized hp

theorem reader_fails (hg : f.Grouped) (hn : f.Named) (h : f.isTwoLevel = false) :
    Fails (reader true) f.text := by
  rw [← List.append_nil f.text]
  cases f with
  | leaf c => cases h
  | all fs =>
    have hfirst := operand_fails hg hn h []
    have hparts := groupedParts_iff.1 hg.2
    obtain ⟨f, g, fs, rfl⟩ := exists_two_parts hg.1
    have hwhole : Fails (parenthesized (disjunction true)) (text (.all (f :: g :: fs)) ++ []) :=
      all_fails (hn.of_mem_all List.mem_cons_self) (disjunction_stalls_and
        (hparts f List.mem_cons_self) (fun k hk => hn.of_mem_all hk) h)
    exact .orElse hwhole.bind hfirst.bind.bind
  | any fs =>
    have hfirst := operand_fails hg hn rfl []
    have hparts := groupedParts_iff.1 hg.2
    obtain ⟨f, g, fs, rfl⟩ := exists_two_parts hg.1
    have hwhole : Fails (parenthesized (disjunction true)) (text (.any (f :: g :: fs)) ++ []) :=
      any_fails (hn.of_mem_any List.mem_cons_self)
        (disjunction_stalls hparts (fun k hk => hn.of_mem_any hk) h)
    exact .orElse hwhole.bind hfirst.bind.bind

theorem parse_render (hg : f.Grouped) (hn : f.Named) :
    parse f.render true = .ok g ↔ f.isTwoLevel = true ∧ g = f.asQuoted := by
  constructor
  · intro h
    have hform := parse_eq_ok.1 h
    cases htwo : f.isTwoLevel with
    | false => exact ((reader_fails hg hn htwo).ne_ok _ _ (reader_complete hform)).elim
    | true =>
      have he := (reader_complete hform).symm.trans (reader_complete (form_text hg hn htwo))
      cases he
      exact ⟨rfl, rfl⟩
  · rintro ⟨h, rfl⟩
    exact parse_eq_ok.2 (form_text hg hn h)

end Wholes

end RecordQuery.Condition
