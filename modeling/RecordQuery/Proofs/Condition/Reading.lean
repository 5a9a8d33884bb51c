import RecordQuery.Proofs.Condition.Comparison
import RecordQuery.Proofs.Condition.Joining

namespace RecordQuery.Condition

open Reader Lexeme

variable {calls : Bool} {cs rest before gap w : List Char} {word : String} {f g : Condition}
  {fs : List Condition}

section Comparisons

variable {c : Comparison}

theorem OperandForm.of_comparison (h : ComparisonForm calls cs c) : OperandForm calls cs (.leaf c) :=
  .bare (.one h)

theorem Form.of_comparison (h : ComparisonForm calls cs c) : Form calls cs (.leaf c) :=
  .bare (.one (.of_comparison h))

end Comparisons

section Conjunctions

/-- The text neither goes on with the literal nor with a further comparison. -/
def EndsConjunction (rest : List Char) : Prop :=
  Avoids continuesLiteral rest ∧ Avoids (·.toLower == 'a') (rest.dropWhile (· = ' '))

theorem parenthesized_fails_of_starts {part : Reader Condition}
    (h : ∃ c ds, cs = c :: ds ∧ startsIdentifier c = true) :
    Fails (parenthesized part) (cs ++ rest) := by
  obtain ⟨c, ds, rfl, hc⟩ := h
  have hne : c ≠ '(' := startsIdentifier_ne hc (by decide)
  exact parenthesized_fails (.cons (beq_eq_false_iff_ne.2 hne))

theorem LeafForm.starts (h : LeafForm calls cs f) : ∃ c ds, cs = c :: ds ∧ c ≠ ' ' := by
  obtain ⟨c, ds, rfl, hc⟩ := h.exists_cons
  exact ⟨c, ds, rfl, startsIdentifier_ne hc (by decide)⟩

theorem JoinedForm.leaves (h : JoinedForm word (LeafForm calls) cs fs) :
    ∃ as, fs = as.map .leaf ∧ JoinedForm word (ComparisonForm calls) cs as := by
  induction h with
  | one hf =>
    obtain ⟨hf⟩ := hf
    exact ⟨[_], rfl, .one hf⟩
  | more hf hb hw ha _ ih =>
    obtain ⟨hf⟩ := hf
    obtain ⟨as, rfl, has⟩ := ih
    exact ⟨_ :: as, rfl, .more hf hb hw ha has⟩

theorem JoinedForm.map_leaf {as : List Comparison}
    (h : JoinedForm word (ComparisonForm calls) cs as) :
    JoinedForm word (LeafForm calls) cs (as.map .leaf) := by
  induction h with
  | one hf => exact .one (.intro hf)
  | more hf hb hw ha _ ih => exact .more (.intro hf) hb hw ha ih

theorem conjunction_complete :
    Complete (conjunction calls) (ConjunctionForm calls) EndsConjunction := by
  intro cs f rest h hr
  obtain ⟨c, more, hj, rfl⟩ := h.exists_joined
  obtain ⟨f, fs, front, tail, he, rfl, hf, hmore⟩ := hj.map_leaf.exists_repetition
  cases he
  have hnext {before w rest} (hb : IsBreak before) (_ : Spells "and" w) :
      Avoids continuesLiteral (before ++ (w ++ rest)) := hb.avoids (by decide)
  have htail := many_joined_complete rfl (by decide) comparison_complete LeafForm.starts hnext
    hmore ⟨hr.1, joined_fails rfl hr.2⟩
  have hfront := hmore.followed (fun h => h.followed hnext) hr.1
  rw [List.append_assoc, conjunction, bind_of_ok (comparison_complete hf hfront),
    bind_of_ok htail]
  exact pure_eq_ok.2 ⟨rfl, rfl⟩

theorem conjunction_sound : Sound (conjunction calls) (ConjunctionForm calls) := by
  intro cs f rest h
  obtain ⟨first, mid, hfirst, h⟩ := bind_eq_ok.1 h
  obtain ⟨more, mid', hmore, h⟩ := bind_eq_ok.1 h
  obtain ⟨rfl, rfl⟩ := pure_eq_ok.1 h
  obtain ⟨taken, rfl, ⟨hc⟩⟩ := comparison_sound hfirst
  obtain ⟨tail, rfl, htail⟩ := many_sound (joined_sound comparison_sound) hmore
  obtain ⟨as, has, hj⟩ := (JoinedForm.of_repetition (.intro hc) htail).leaves
  cases as with
  | nil => cases has
  | cons a as =>
    cases has
    exact ⟨_, (List.append_assoc _ _ _).symm, hj.conjunctionForm⟩

theorem conjunction_fails (h : Avoids startsIdentifier cs) : Fails (conjunction calls) cs :=
  (comparison_fails h).bind

theorem ConjunctionForm.exists_cons (h : ConjunctionForm calls cs f) :
    ∃ c ds, cs = c :: ds ∧ startsIdentifier c = true := by
  cases h with
  | one hf => exact (LeafForm.intro hf).exists_cons
  | more h =>
    cases h with
    | more hf _ _ _ _ =>
      obtain ⟨c, ds, rfl, hc⟩ := (LeafForm.intro hf).exists_cons
      exact ⟨c, _, rfl, hc⟩

theorem ConjunctionForm.starts (h : ConjunctionForm calls cs f) :
    ∃ c ds, cs = c :: ds ∧ c ≠ ' ' := by
  obtain ⟨c, ds, rfl, hc⟩ := h.exists_cons
  exact ⟨c, ds, rfl, startsIdentifier_ne hc (by decide)⟩

end Conjunctions

section Disjunctions

def EndsDisjunction (rest : List Char) : Prop :=
  EndsConjunction rest ∧ Avoids (·.toLower == 'o') (rest.dropWhile (· = ' '))

theorem endsDisjunction_nil : EndsDisjunction [] :=
  ⟨⟨.nil, .nil⟩, .nil⟩

theorem endsDisjunction_paren (hg : IsGap gap) : EndsDisjunction (gap ++ ')' :: rest) := by
  rw [EndsDisjunction, EndsConjunction, hg.dropWhile_append]
  exact ⟨⟨.gap hg (by decide) (.cons (by decide)), .cons (by decide)⟩, .cons (by decide)⟩

theorem endsConjunction_or (hb : IsBreak before) (hw : Spells "or" w) :
    EndsConjunction (before ++ (w ++ rest)) := by
  refine ⟨hb.avoids (by decide), ?_⟩
  rw [hb.2.dropWhile_word hw rfl (by decide)]
  exact hw.avoids rfl (fun c hc => by rw [hc]; decide) rest

theorem parenthesized_conjunction_complete :
    Complete (parenthesized (conjunction calls)) (ParenthesizedForm (ConjunctionForm calls))
      fun _ => True :=
  parenthesized_complete conjunction_complete ConjunctionForm.starts fun hg =>
    (endsDisjunction_paren hg).1

theorem operand_complete : Complete (operand calls) (OperandForm calls) EndsConjunction := by
  intro cs f rest h hr
  cases h with
  | bare h =>
    exact (orElse_of_fails (parenthesized_fails_of_starts h.exists_cons)).trans
      (conjunction_complete h hr)
  | parenthesized h =>
    exact orElse_of_ok (parenthesized_conjunction_complete h trivial)

theorem operand_sound : Sound (operand calls) (OperandForm calls) := by
  intro cs f rest h
  rcases orElse_eq_ok h with h | ⟨-, h⟩
  · obtain ⟨taken, rfl, hf⟩ := parenthesized_sound conjunction_sound h
    exact ⟨taken, rfl, .parenthesized hf⟩
  · obtain ⟨taken, rfl, hf⟩ := conjunction_sound h
    exact ⟨taken, rfl, .bare hf⟩

theorem OperandForm.starts (h : OperandForm calls cs f) : ∃ c ds, cs = c :: ds ∧ c ≠ ' ' := by
  cases h with
  | bare h => exact h.starts
  | parenthesized h =>
    cases h with
    | intro => exact ⟨'(', _, rfl, by decide⟩

theorem disjunction_complete :
    Complete (disjunction calls) (DisjunctionForm calls) EndsDisjunction := by
  intro cs f rest h hr
  obtain ⟨g, more, hj, rfl⟩ := h.exists_joined
  obtain ⟨_, _, front, tail, he, rfl, hf, hmore⟩ := hj.exists_repetition
  cases he
  have htail := many_joined_complete rfl (by decide) operand_complete OperandForm.starts
    endsConjunction_or hmore ⟨hr.1, joined_fails rfl hr.2⟩
  have hfront := hmore.followed (fun h => h.followed endsConjunction_or) hr.1
  rw [List.append_assoc, disjunction, bind_of_ok (operand_complete hf hfront), bind_of_ok htail]
  exact pure_eq_ok.2 ⟨rfl, rfl⟩

theorem disjunction_sound : Sound (disjunction calls) (DisjunctionForm calls) := by
  intro cs f rest h
  obtain ⟨first, mid, hfirst, h⟩ := bind_eq_ok.1 h
  obtain ⟨more, mid', hmore, h⟩ := bind_eq_ok.1 h
  obtain ⟨rfl, rfl⟩ := pure_eq_ok.1 h
  obtain ⟨taken, rfl, hf⟩ := operand_sound hfirst
  obtain ⟨tail, rfl, htail⟩ := many_sound (joined_sound operand_sound) hmore
  have hj := JoinedForm.of_repetition hf htail
  exact ⟨_, (List.append_assoc _ _ _).symm, hj.disjunctionForm⟩

theorem DisjunctionForm.starts (h : DisjunctionForm calls cs f) :
    ∃ c ds, cs = c :: ds ∧ c ≠ ' ' := by
  cases h with
  | one hf => exact hf.starts
  | more h =>
    cases h with
    | more hf _ _ _ _ =>
      obtain ⟨c, ds, rfl, hc⟩ := hf.starts
      exact ⟨c, _, rfl, hc⟩

end Disjunctions

section Wholes

theorem parenthesized_disjunction_complete :
    Complete (parenthesized (disjunction calls)) (ParenthesizedForm (DisjunctionForm calls))
      fun _ => True :=
  parenthesized_complete disjunction_complete DisjunctionForm.starts endsDisjunction_paren

theorem parenthesized_disjunction_of_conjunction
    (h : parenthesized (conjunction calls) cs = .ok (f, rest)) :
    parenthesized (disjunction calls) cs = .ok (f, rest) := by
  obtain ⟨taken, rfl, hf⟩ := parenthesized_sound conjunction_sound h
  cases hf with
  | intro hg hf hg' =>
    have hd : DisjunctionForm calls _ f := .one (.bare hf)
    exact parenthesized_disjunction_complete (.intro hg hd hg') trivial

/-- Where a text can be read with the whole in parentheses and without, both give the same. -/
theorem disjunction_eq_parenthesized (h : disjunction calls cs = .ok (f, []))
    (hp : parenthesized (disjunction calls) cs = .ok (g, [])) : f = g := by
  obtain ⟨first, mid, hfirst, h⟩ := bind_eq_ok.1 h
  obtain ⟨more, mid', hmore, h⟩ := bind_eq_ok.1 h
  obtain ⟨rfl, rfl⟩ := pure_eq_ok.1 h
  rcases orElse_eq_ok hfirst with hfirst | ⟨-, hfirst⟩
  · have he := (parenthesized_disjunction_of_conjunction hfirst).symm.trans hp
    cases he
    have hstop : Fails (joined "or" (operand calls)) [] := joined_fails rfl .nil
    have hnone := (repeated_of_fails hstop).symm.trans (Except.ok.inj hmore)
    cases hnone
    rfl
  · obtain ⟨taken, rfl, hf⟩ := conjunction_sound hfirst
    exact ((parenthesized_fails_of_starts hf.exists_cons).ne_ok _ _ hp).elim

theorem ending_eq_ok {p : Reader Condition} :
    (do let f ← p; atEnd; return f : Reader Condition) cs = .ok (f, rest) ↔
      p cs = .ok (f, []) ∧ rest = [] := by
  constructor
  · intro h
    obtain ⟨g, mid, hp, h⟩ := bind_eq_ok.1 h
    obtain ⟨_, mid', hend, h⟩ := bind_eq_ok.1 h
    obtain ⟨rfl, rfl⟩ := pure_eq_ok.1 h
    obtain ⟨rfl, rfl⟩ := atEnd_eq_ok hend
    exact ⟨hp, rfl⟩
  · rintro ⟨hp, rfl⟩
    have hend : atEnd [] = .ok ((), []) := rfl
    rw [bind_of_ok hp, bind_of_ok hend]
    exact pure_eq_ok.2 ⟨rfl, rfl⟩

theorem reader_sound (h : reader calls cs = .ok (f, rest)) : Form calls cs f := by
  rcases orElse_eq_ok h with h | ⟨-, h⟩
  · obtain ⟨taken, he, hf⟩ := parenthesized_sound disjunction_sound (ending_eq_ok.1 h).1
    rw [List.append_nil] at he
    exact .parenthesized (he ▸ hf)
  · obtain ⟨taken, he, hf⟩ := disjunction_sound (ending_eq_ok.1 h).1
    rw [List.append_nil] at he
    exact .bare (he ▸ hf)

theorem reader_complete (h : Form calls cs f) : reader calls cs = .ok (f, []) := by
  cases h with
  | parenthesized h =>
    have hread : parenthesized (disjunction calls) (cs ++ []) = .ok (f, []) :=
      parenthesized_disjunction_complete h trivial
    rw [List.append_nil] at hread
    exact orElse_of_ok (ending_eq_ok.2 ⟨hread, rfl⟩)
  | bare h =>
    have hread := disjunction_complete h endsDisjunction_nil
    rw [List.append_nil] at hread
    cases hp : (do let f ← parenthesized (disjunction calls); atEnd; return f :
        Reader Condition) cs with
    | error last =>
      exact (orElse_of_fails ⟨last, hp⟩).trans (ending_eq_ok.2 ⟨hread, rfl⟩)
    | ok result =>
      obtain ⟨g, rest⟩ := result
      obtain ⟨hg, rfl⟩ := ending_eq_ok.1 hp
      rw [disjunction_eq_parenthesized hread hg]
      exact orElse_of_ok hp

theorem parse_eq_ok {text : String} : parse text calls = .ok f ↔ Form calls text.toList f :=
  run_eq_ok.trans ⟨fun ⟨_, h⟩ => reader_sound h, fun h => ⟨[], reader_complete h⟩⟩

/-- A text is read if and only if the grammar derives it, and then as the one condition that all its
derivations denote. -/
theorem parse_decides_grammar (text : String) (calls : Bool) :
    (∀ f, parse text calls = .ok f ↔ Form calls text.toList f) ∧
      ∀ f g, Form calls text.toList f → Form calls text.toList g → f = g := by
  refine ⟨fun f => parse_eq_ok, ?_⟩
  intro f g hf hg
  have he := (parse_eq_ok.2 hf).symm.trans (parse_eq_ok.2 hg)
  exact Except.ok.inj he

theorem attributeForm_size : AttributeForm true "size()".toList ⟨"size", .accessor⟩ := by
  have hname : IsIdentifier "size" := ⟨'s', ['i', 'z', 'e'], rfl, rfl, rfl⟩
  exact .accessor rfl hname .nil .nil

theorem comparisonForm_size :
    ComparisonForm true "size()>3".toList ⟨⟨"size", .accessor⟩, .greater, .number "3"⟩ := by
  have hthree : LiteralForm ['3'] (.number "3") :=
    .whole ⟨List.cons_ne_nil _ _, List.all_eq_true.1 rfl⟩
  exact .intro .greater attributeForm_size .nil .nil hthree

def notedOrCheap : Condition :=
  .any [.all [.leaf ⟨⟨"note", .field⟩, .lacks, .text "it's"⟩,
      .leaf ⟨⟨"size", .accessor⟩, .greater, .number "3"⟩],
    .leaf ⟨⟨"price", .field⟩, .less, .number "2.5"⟩]

theorem parse_notedOrCheap :
    parse "(note!~'it''s' AND size()>3) or price<2.5" true = .ok notedOrCheap ∧
      ∀ f, Form true "(note!~'it''s' AND size()>3) or price<2.5".toList f → f = notedOrCheap := by
  have hfield : AttributeForm true "note".toList ⟨"note", .field⟩ :=
    .field ⟨'n', ['o', 't', 'e'], rfl, rfl, rfl⟩
  have hnote : ComparisonForm true "note!~'it''s'".toList
      ⟨⟨"note", .field⟩, .lacks, .text "it's"⟩ :=
    .intro .lacks hfield .nil .nil (.text "it's")
  have hfield' : AttributeForm true "price".toList ⟨"price", .field⟩ :=
    .field ⟨'p', ['r', 'i', 'c', 'e'], rfl, rfl, rfl⟩
  have htwo : IsDigits ['2'] := ⟨List.cons_ne_nil _ _, List.all_eq_true.1 rfl⟩
  have hfive : IsDigits ['5'] := ⟨List.cons_ne_nil _ _, List.all_eq_true.1 rfl⟩
  have hprice : ComparisonForm true "price<2.5".toList
      ⟨⟨"price", .field⟩, .less, .number "2.5"⟩ :=
    .intro .less hfield' .nil .nil (.fraction htwo hfive)
  have hand : Spells "and" "AND".toList := rfl
  have hor : Spells "or" "or".toList := rfl
  have hboth : ConjunctionForm true "note!~'it''s' AND size()>3".toList _ :=
    .more (.more hnote isBreak_space hand isBreak_space (.one comparisonForm_size))
  have hfirst : OperandForm true "(note!~'it''s' AND size()>3)".toList _ :=
    .parenthesized (.intro .nil hboth .nil)
  have hsecond : OperandForm true "price<2.5".toList _ := .of_comparison hprice
  have hform : Form true "(note!~'it''s' AND size()>3) or price<2.5".toList notedOrCheap :=
    .bare (.more (.more hfirst isBreak_space hor isBreak_space (.one hsecond)))
  constructor
  · exact ((parse_decides_grammar _ true).1 notedOrCheap).2 hform
  · intro f hf
    exact (parse_decides_grammar _ true).2 f notedOrCheap hf hform

end Wholes

end RecordQuery.Condition
