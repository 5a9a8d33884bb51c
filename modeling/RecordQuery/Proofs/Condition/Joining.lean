import RecordQuery.Condition.Grammar
import RecordQuery.Condition.Reader
import RecordQuery.Proofs.Reader.Repetition

namespace RecordQuery.Condition

open Reader Lexeme

variable {cs w rest mid before after : List Char} {word : String} {f : Condition}
  {fs : List Condition} {part : Reader Condition}
  {form : List Char → Condition → Prop} {follow : List Char → Prop}

section Groups

variable {calls : Bool}

theorem JoinedForm.of_singleton {α : Type} {form : List Char → α → Prop} {a : α}
    (h : JoinedForm word form cs [a]) : form cs a := by
  cases h with
  | one ha => exact ha
  | more _ _ _ _ has => cases has

theorem JoinedForm.conjunctionForm {c : Comparison} {more : List Comparison}
    (h : JoinedForm "and" (ComparisonForm calls) cs (c :: more)) :
    ConjunctionForm calls cs (Formula.group .all (.leaf c) (more.map .leaf)) := by
  cases more with
  | nil => exact .one h.of_singleton
  | cons d more => exact .more h

theorem ConjunctionForm.exists_joined (h : ConjunctionForm calls cs f) :
    ∃ c more, JoinedForm "and" (ComparisonForm calls) cs (c :: more) ∧
      f = Formula.group .all (.leaf c) (more.map .leaf) := by
  cases h with
  | one h => exact ⟨_, [], .one h, rfl⟩
  | more h => exact ⟨_, _ :: _, h, rfl⟩

theorem JoinedForm.disjunctionForm
    (h : JoinedForm "or" (OperandForm calls) cs (f :: fs)) :
    DisjunctionForm calls cs (Formula.group .any f fs) := by
  cases fs with
  | nil => exact .one h.of_singleton
  | cons g fs => exact .more h

theorem DisjunctionForm.exists_joined (h : DisjunctionForm calls cs f) :
    ∃ g more, JoinedForm "or" (OperandForm calls) cs (g :: more) ∧
      f = Formula.group .any g more := by
  cases h with
  | one h => exact ⟨f, [], .one h, rfl⟩
  | more h => exact ⟨_, _ :: _, h, rfl⟩

end Groups

section Joining

theorem joined_append {c : Char} {ds : List Char} (hword : word.toList = c :: ds) (hc : c ≠ ' ')
    (hb : IsBreak before) (hw : Spells word w) (ha : IsBreak after) (hm : Avoids (· = ' ') mid)
    (h : part mid = .ok (f, rest)) :
    joined word part (before ++ (w ++ (after ++ mid))) = .ok (f, rest) := by
  rw [joined, bind_of_ok (someSpaces_append hb (hw.avoids_space hword hc _)),
    bind_of_ok (keyword_append hw _), bind_of_ok (someSpaces_append ha hm), h]

/-- A further part with the joining word before it. -/
inductive FurtherForm (word : String) (form : List Char → Condition → Prop) :
    List Char → Condition → Prop where
  | intro {before w after cs : List Char} {f : Condition} (hb : IsBreak before) (hw : Spells word w)
      (ha : IsBreak after) (hf : form cs f) :
      FurtherForm word form (before ++ (w ++ (after ++ cs))) f

theorem FurtherForm.ne_nil (h : FurtherForm word form cs f) : cs ≠ [] := by
  cases h with
  | intro hb _ _ _ => exact List.append_ne_nil_of_left_ne_nil hb.1 _

theorem FurtherForm.followed (h : FurtherForm word form cs f)
    (hnext : ∀ {before w rest}, IsBreak before → Spells word w → follow (before ++ (w ++ rest))) :
    follow (cs ++ rest) := by
  cases h with
  | intro hb hw _ _ =>
    rw [List.append_assoc, List.append_assoc]
    exact hnext hb hw

theorem joined_sound (hs : Sound part form) : Sound (joined word part) (FurtherForm word form) := by
  intro cs f rest h
  obtain ⟨_, mid₁, hbefore, h⟩ := bind_eq_ok.1 h
  obtain ⟨_, mid₂, hword, h⟩ := bind_eq_ok.1 h
  obtain ⟨_, mid₃, hafter, hpart⟩ := bind_eq_ok.1 h
  obtain ⟨before, rfl, hb⟩ := someSpaces_eq_ok hbefore
  obtain ⟨w, rfl, hw⟩ := keyword_eq_ok hword
  obtain ⟨after, rfl, ha⟩ := someSpaces_eq_ok hafter
  obtain ⟨taken, rfl, hf⟩ := hs hpart
  exact ⟨_, by simp only [List.append_assoc], .intro hb hw ha hf⟩

theorem joined_complete {c : Char} {ds : List Char} (hword : word.toList = c :: ds) (hc : c ≠ ' ')
    (hp : Complete part form follow)
    (hstart : ∀ {cs f}, form cs f → ∃ c ds, cs = c :: ds ∧ c ≠ ' ') :
    Complete (joined word part) (FurtherForm word form) follow := by
  intro cs f rest h hr
  cases h with
  | intro hb hw ha hf =>
    obtain ⟨d, es, rfl, hd⟩ := hstart hf
    simp only [List.append_assoc]
    exact joined_append hword hc hb hw ha (.cons (decide_eq_false hd)) (hp hf hr)

theorem joined_fails {c : Char} {ds : List Char} (hword : word.toList = c :: ds)
    (h : Avoids (·.toLower == c) (cs.dropWhile (· = ' '))) : Fails (joined word part) cs :=
  .after_someSpaces (keyword_fails hword h).bind

theorem many_joined_complete {c : Char} {ds : List Char} (hword : word.toList = c :: ds)
    (hc : c ≠ ' ') (hp : Complete part form follow)
    (hstart : ∀ {cs f}, form cs f → ∃ c ds, cs = c :: ds ∧ c ≠ ' ')
    (hnext : ∀ {before w rest}, IsBreak before → Spells word w → follow (before ++ (w ++ rest))) :
    Complete (many (joined word part)) (Repetition (FurtherForm word form))
      fun rest => follow rest ∧ Fails (joined word part) rest :=
  many_complete (joined_complete hword hc hp hstart) FurtherForm.ne_nil fun h => h.followed hnext

theorem JoinedForm.of_repetition {front : List Char} (hf : form front f)
    (h : Repetition (FurtherForm word form) cs fs) :
    JoinedForm word form (front ++ cs) (f :: fs) := by
  induction h generalizing front f with
  | nil =>
    rw [List.append_nil]
    exact .one hf
  | cons hg _ ih =>
    obtain ⟨hb, hw, ha, hg⟩ := hg
    have hmore := JoinedForm.more hf hb hw ha (ih hg)
    simpa only [List.append_assoc] using hmore

theorem JoinedForm.exists_repetition (h : JoinedForm word form cs fs) :
    ∃ f more front tail, fs = f :: more ∧ cs = front ++ tail ∧ form front f ∧
      Repetition (FurtherForm word form) tail more := by
  induction h with
  | @one cs f hf => exact ⟨f, [], cs, [], rfl, (List.append_nil cs).symm, hf, .nil⟩
  | @more cs before w after ds f fs hf hb hw ha _ ih =>
    obtain ⟨g, more, front, tail, rfl, rfl, hg, hmore⟩ := ih
    refine ⟨f, g :: more, cs, _, rfl, ?_, hf, .cons (.intro hb hw ha hg) hmore⟩
    simp only [List.append_assoc]

end Joining

section Parentheses

theorem parenthesized_complete (hp : Complete part form follow)
    (hstart : ∀ {cs f}, form cs f → ∃ c ds, cs = c :: ds ∧ c ≠ ' ')
    (hclose : ∀ {gap rest}, IsGap gap → follow (gap ++ ')' :: rest)) :
    Complete (parenthesized part) (ParenthesizedForm form) fun _ => True := by
  intro cs f rest h _
  cases h with
  | @intro gap cs gap' f hg hf hg' =>
    obtain ⟨c, ds, rfl, hc⟩ := hstart hf
    have he : '(' :: (gap ++ (c :: ds) ++ gap' ++ [')']) ++ rest =
        '(' :: (gap ++ (c :: ds ++ (gap' ++ ')' :: rest))) := by simp
    have hopen : spaces (gap ++ (c :: ds ++ (gap' ++ ')' :: rest))) = .ok ((), _) :=
      spaces_append hg (.cons (decide_eq_false hc))
    have hend : spaces (gap' ++ ')' :: rest) = .ok ((), _) := spaces_append hg' (.cons rfl)
    rw [he, parenthesized, bind_of_ok (exactly_cons "(" '(' rfl _), bind_of_ok hopen,
      bind_of_ok (hp hf (hclose hg')), bind_of_ok hend,
      bind_of_ok (exactly_cons ")" ')' rfl _)]
    exact pure_eq_ok.2 ⟨rfl, rfl⟩

theorem parenthesized_sound (hs : Sound part form) :
    Sound (parenthesized part) (ParenthesizedForm form) := by
  intro cs f rest h
  obtain ⟨_, mid₁, hopen, h⟩ := bind_eq_ok.1 h
  obtain ⟨_, mid₂, hgap, h⟩ := bind_eq_ok.1 h
  obtain ⟨g, mid₃, hpart, h⟩ := bind_eq_ok.1 h
  obtain ⟨_, mid₄, hgap', h⟩ := bind_eq_ok.1 h
  obtain ⟨_, mid₅, hclose, h⟩ := bind_eq_ok.1 h
  obtain ⟨rfl, rfl⟩ := pure_eq_ok.1 h
  obtain ⟨gap, rfl, hg⟩ := spaces_eq_ok hgap
  obtain ⟨taken, rfl, hf⟩ := hs hpart
  obtain ⟨gap', rfl, hg'⟩ := spaces_eq_ok hgap'
  refine ⟨_, ?_, .intro hg hf hg'⟩
  rw [exactly_eq_ok hopen, exactly_eq_ok hclose]
  simp

theorem parenthesized_fails (h : Avoids (· == '(') cs) : Fails (parenthesized part) cs :=
  (exactly_fails rfl h).bind

end Parentheses

end RecordQuery.Condition
