import RecordQuery.Condition.Grammar
import RecordQuery.Condition.Reader
import RecordQuery.Proofs.Lexeme
import RecordQuery.Proofs.Text.Quoted

namespace RecordQuery.Condition

open Reader Lexeme

variable {calls : Bool} {cs ds es rest : List Char} {op : Operator} {l : Literal} {f : Condition}

def continuesOperator (c : Char) : Bool :=
  c == '=' || c == '~'

def continuesLiteral (c : Char) : Bool :=
  c.isDigit || c == '.' || c == '\''

theorem operator_append (op : Operator) (hr : Avoids continuesOperator rest) :
    operator (op.symbol.toList ++ rest) = .ok (op, rest) := by
  cases rest with
  | nil => cases op <;> rfl
  | cons c rest =>
    have hc : continuesOperator c = false := hr c rfl
    simp only [continuesOperator, Bool.or_eq_false_iff, beq_eq_false_iff_ne, ne_eq] at hc
    cases op <;>
      simp [operator, Operator.all, Operator.symbol, List.isPrefixOf, hc, Ne.symm]

theorem operator_eq_ok (h : operator cs = .ok (op, rest)) : cs = op.symbol.toList ++ rest := by
  rw [operator] at h
  split at h
  · next found hf =>
    have hp := List.find?_some hf
    obtain ⟨tail, rfl⟩ := List.isPrefixOf_iff_prefix.1 hp
    cases h
    rw [List.drop_left]
  · cases h

theorem symbol_eq_cons (op : Operator) : ∃ c ds, op.symbol.toList = c :: ds ∧
    continuesIdentifier c = false ∧ c ≠ ' ' ∧ c ≠ '(' := by
  cases op <;> exact ⟨_, _, rfl, by decide, by decide, by decide⟩

section Literals

theorem digits_append (hd : IsDigits ds) (hr : Avoids Char.isDigit rest) :
    digits (ds ++ rest) = .ok (ds, rest) := by
  obtain ⟨c, ds, rfl⟩ := List.exists_cons_of_ne_nil hd.1
  have htail : ∀ d ∈ ds, d.isDigit = true := fun d hm => hd.2 d (List.mem_cons_of_mem _ hm)
  have htake : taking (fun cs => (cs.takeWhile Char.isDigit, cs.dropWhile Char.isDigit))
      (ds ++ rest) = .ok (ds, rest) := by
    rw [taking, takeWhile_append htail hr, dropWhile_append htail hr]
  rw [List.cons_append, digits, bind_of_ok (satisfying_cons (hd.2 c List.mem_cons_self)),
    bind_of_ok htake]
  exact pure_eq_ok.2 ⟨rfl, rfl⟩

theorem digits_eq_ok (h : digits cs = .ok (ds, rest)) : cs = ds ++ rest ∧ IsDigits ds := by
  obtain ⟨c, mid, hc, h⟩ := bind_eq_ok.1 h
  obtain ⟨es, mid', hes, h⟩ := bind_eq_ok.1 h
  obtain ⟨rfl, rfl⟩ := pure_eq_ok.1 h
  obtain ⟨rfl, hdigit⟩ := satisfying_eq_ok hc
  cases hes
  refine ⟨?_, List.cons_ne_nil _ _, ?_⟩
  · rw [List.cons_append, List.takeWhile_append_dropWhile]
  · intro d hd
    rcases List.mem_cons.1 hd with rfl | hd
    · exact hdigit
    · exact List.mem_takeWhile_imp hd

theorem fraction_append (he : IsDigits es) (hr : Avoids Char.isDigit rest) :
    fraction ('.' :: es ++ rest) = .ok ('.' :: es, rest) := by
  rw [List.cons_append, fraction, bind_of_ok (exactly_cons "." '.' rfl _),
    bind_of_ok (digits_append he hr)]
  exact pure_eq_ok.2 ⟨rfl, rfl⟩

theorem fraction_eq_ok (h : fraction cs = .ok (ds, rest)) :
    ∃ es, ds = '.' :: es ∧ cs = '.' :: (es ++ rest) ∧ IsDigits es := by
  obtain ⟨_, mid, hpoint, h⟩ := bind_eq_ok.1 h
  obtain ⟨es, mid', hes, h⟩ := bind_eq_ok.1 h
  obtain ⟨rfl, rfl⟩ := pure_eq_ok.1 h
  obtain ⟨rfl, he⟩ := digits_eq_ok hes
  exact ⟨es, rfl, exactly_eq_ok hpoint, he⟩

theorem number_sound : Sound number LiteralForm := by
  intro cs l rest h
  obtain ⟨ds, mid, hds, h⟩ := bind_eq_ok.1 h
  obtain ⟨part, mid', hpart, h⟩ := bind_eq_ok.1 h
  obtain ⟨rfl, rfl⟩ := pure_eq_ok.1 h
  obtain ⟨rfl, hd⟩ := digits_eq_ok hds
  rcases optional_eq_ok hpart with ⟨es, rfl, hf⟩ | ⟨rfl, rfl⟩
  · obtain ⟨es, rfl, rfl, he⟩ := fraction_eq_ok hf
    exact ⟨ds ++ '.' :: es, by simp, .fraction hd he⟩
  · exact ⟨ds, rfl, by simpa using LiteralForm.whole hd⟩

theorem number_whole (hd : IsDigits ds) (hr : Avoids continuesLiteral rest) :
    number (ds ++ rest) = .ok (.number (String.ofList ds), rest) := by
  have hdigit : Avoids Char.isDigit rest := hr.mono fun c hc => by simp [continuesLiteral, hc]
  have hpoint : Avoids (· == '.') rest :=
    hr.mono fun c hc => by simp_all [continuesLiteral]
  have hnone : Fails fraction rest := (exactly_fails rfl hpoint).bind
  rw [number, bind_of_ok (digits_append hd hdigit), bind_of_ok (optional_of_fails hnone)]
  exact pure_eq_ok.2 ⟨by simp, rfl⟩

theorem number_fraction (hd : IsDigits ds) (he : IsDigits es) (hr : Avoids Char.isDigit rest) :
    number (ds ++ '.' :: es ++ rest) =
      .ok (.number (String.ofList (ds ++ '.' :: es)), rest) := by
  have hpoint : Avoids Char.isDigit ('.' :: es ++ rest) := .cons rfl
  rw [List.append_assoc, number, bind_of_ok (digits_append hd hpoint),
    bind_of_ok (optional_of_ok (fraction_append he hr))]
  exact pure_eq_ok.2 ⟨rfl, rfl⟩

theorem quoted_fails (h : Avoids (· == '\'') cs) : Fails quoted cs :=
  ((exactly_fails rfl h).bind : Fails Text.Quoted.reader cs).bind

/-- Quoting and reading undo each other in all surroundings. Where no quote follows, the quoted form
of a text is taken whole and gives that text. Conversely, a text is read from nothing but its quoted
form, and only where no quote follows. -/
theorem quoted_eq_ok_iff (cs rest : List Char) (l : Literal) :
    quoted cs = .ok (l, rest) ↔
      ∃ s, l = .text s ∧ cs = (Literal.text s).quoted.toList ++ rest ∧ rest.head? ≠ some '\'' := by
  have hwritten (s : String) : (Literal.text s).quoted.toList = Text.Quoted.encode s.toList :=
    String.toList_ofList
  constructor
  · intro h
    obtain ⟨s, mid, hs, h⟩ := bind_eq_ok.1 h
    obtain ⟨rfl, rfl⟩ := pure_eq_ok.1 h
    refine ⟨s, rfl, ?_, Text.Quoted.avoids_quote_iff.1 (Text.Quoted.avoids_of_reader hs)⟩
    rw [hwritten]
    exact Text.Quoted.reader_eq_ok hs
  · rintro ⟨s, rfl, rfl, hr⟩
    have hs := Text.Quoted.reader_encode s (Text.Quoted.avoids_quote_iff.2 hr)
    rw [hwritten, quoted, bind_of_ok hs]
    exact pure_eq_ok.2 ⟨rfl, rfl⟩

/-- Two pairs stand between the outer quotes. -/
example : quoted "'''''' or".toList = .ok (.text "''", " or".toList) := by rfl

theorem IsDigits.avoids_quote (hd : IsDigits ds) (rest : List Char) :
    Avoids (· == '\'') (ds ++ rest) := by
  obtain ⟨c, ds, rfl⟩ := List.exists_cons_of_ne_nil hd.1
  have hc : c.isDigit = true := hd.2 c List.mem_cons_self
  refine .cons (beq_eq_false_iff_ne.2 ?_)
  rintro rfl
  exact absurd hc (by decide)

theorem literal_complete :
    Complete (quoted.orElse number) LiteralForm (Avoids continuesLiteral) := by
  intro cs l rest h hr
  cases h with
  | text s =>
    have hquote : Avoids (· = '\'') rest :=
      hr.mono fun c hc => by simp_all [continuesLiteral]
    apply orElse_of_ok
    rw [quoted, bind_of_ok (Text.Quoted.reader_encode s hquote)]
    exact pure_eq_ok.2 ⟨rfl, rfl⟩
  | whole hd =>
    have hquote := quoted_fails (hd.avoids_quote rest)
    exact (orElse_of_fails hquote).trans (number_whole hd hr)
  | @fraction ds es hd he =>
    have hdigit : Avoids Char.isDigit rest :=
      hr.mono fun c hc => by simp [continuesLiteral, hc]
    have hquote : Avoids (· == '\'') (ds ++ '.' :: es ++ rest) := by
      rw [List.append_assoc]
      exact hd.avoids_quote _
    exact (orElse_of_fails (quoted_fails hquote)).trans (number_fraction hd he hdigit)

theorem literal_sound : Sound (quoted.orElse number) LiteralForm := by
  intro cs l rest h
  rcases orElse_eq_ok h with h | ⟨-, h⟩
  · obtain ⟨s, mid, hs, h⟩ := bind_eq_ok.1 h
    obtain ⟨rfl, rfl⟩ := pure_eq_ok.1 h
    exact ⟨_, Text.Quoted.reader_eq_ok hs, .text s⟩
  · exact number_sound h

theorem IsDigits.exists_cons (hd : IsDigits ds) :
    ∃ c es, ds = c :: es ∧ continuesOperator c = false ∧ c ≠ ' ' := by
  obtain ⟨c, es, rfl⟩ := List.exists_cons_of_ne_nil hd.1
  have hne {d : Char} (h : d.isDigit = false) : c ≠ d := by
    rintro rfl
    exact absurd (hd.2 c List.mem_cons_self) (by simp [h])
  refine ⟨c, es, rfl, ?_, hne rfl⟩
  rw [continuesOperator, Bool.or_eq_false_iff, beq_eq_false_iff_ne, beq_eq_false_iff_ne]
  exact ⟨hne rfl, hne rfl⟩

theorem LiteralForm.exists_cons (h : LiteralForm ds l) :
    ∃ c es, ds = c :: es ∧ continuesOperator c = false ∧ c ≠ ' ' := by
  cases h with
  | text s => exact ⟨'\'', _, rfl, rfl, by decide⟩
  | whole hd => exact hd.exists_cons
  | fraction hd he =>
    obtain ⟨c, es, rfl, hc⟩ := hd.exists_cons
    exact ⟨c, _, rfl, hc⟩

end Literals

/-- A comparison read as a condition. -/
inductive LeafForm (calls : Bool) : List Char → Condition → Prop where
  | intro {cs : List Char} {c : Comparison} (h : ComparisonForm calls cs c) :
      LeafForm calls cs (.leaf c)

theorem comparison_complete :
    Complete (comparison calls) (LeafForm calls) (Avoids continuesLiteral) := by
  intro cs f rest h hr
  obtain ⟨h⟩ := h
  cases h with
  | @intro name gap gap' ds a l op ha hg hg' hl =>
    obtain ⟨c, es, hop, hident, hspace, hparen⟩ := symbol_eq_cons op
    obtain ⟨d, fs, rfl, hd⟩ := hl.exists_cons
    have hafter : Avoids continuesOperator (gap' ++ (d :: fs ++ rest)) :=
      .gap hg' (by decide) (.cons hd.1)
    have hattr : EndsAttribute (gap ++ (op.symbol.toList ++ (gap' ++ (d :: fs ++ rest)))) := by
      rw [EndsAttribute, hg.dropWhile_append, hop]
      refine ⟨.gap hg (by decide) (.cons hident), ?_⟩
      rw [List.cons_append, List.dropWhile_cons_of_neg (by simpa using hspace)]
      exact .cons (beq_eq_false_iff_ne.2 hparen)
    have hbefore : spaces (gap ++ (op.symbol.toList ++ (gap' ++ (d :: fs ++ rest)))) =
        .ok ((), _) :=
      spaces_append hg (by rw [hop]; exact .cons (decide_eq_false hspace))
    have hbehind : spaces (gap' ++ (d :: fs ++ rest)) = .ok ((), _) :=
      spaces_append hg' (.cons (decide_eq_false hd.2))
    rw [comparison]
    simp only [List.append_assoc]
    rw [bind_of_ok (attr_complete ha hattr), bind_of_ok hbefore,
      bind_of_ok (operator_append op hafter), bind_of_ok hbehind,
      bind_of_ok (literal_complete hl hr)]
    exact pure_eq_ok.2 ⟨rfl, rfl⟩

theorem comparison_sound : Sound (comparison calls) (LeafForm calls) := by
  intro cs f rest h
  obtain ⟨a, mid, hattr, h⟩ := bind_eq_ok.1 h
  obtain ⟨_, mid₁, hbefore, h⟩ := bind_eq_ok.1 h
  obtain ⟨op, mid₂, hop, h⟩ := bind_eq_ok.1 h
  obtain ⟨_, mid₃, hbehind, h⟩ := bind_eq_ok.1 h
  obtain ⟨l, mid₄, hliteral, h⟩ := bind_eq_ok.1 h
  obtain ⟨rfl, rfl⟩ := pure_eq_ok.1 h
  obtain ⟨name, rfl, ha⟩ := attr_sound hattr
  obtain ⟨gap, rfl, hg⟩ := spaces_eq_ok hbefore
  obtain rfl := operator_eq_ok hop
  obtain ⟨gap', rfl, hg'⟩ := spaces_eq_ok hbehind
  obtain ⟨ds, rfl, hl⟩ := literal_sound hliteral
  exact ⟨_, by simp only [List.append_assoc], .intro (.intro op ha hg hg' hl)⟩

theorem comparison_fails (h : Avoids startsIdentifier cs) : Fails (comparison calls) cs :=
  (attr_fails h).bind

theorem LeafForm.exists_cons (h : LeafForm calls cs f) :
    ∃ c ds, cs = c :: ds ∧ startsIdentifier c = true := by
  obtain ⟨h⟩ := h
  obtain ⟨op, ha, hg, hg', hl⟩ := h
  obtain ⟨c, ds, rfl, hc⟩ := ha.exists_cons
  exact ⟨c, _, rfl, hc⟩

end RecordQuery.Condition
