import RecordQuery.Proofs.Condition.Reading
import RecordQuery.Proofs.Order.Reading
import RecordQuery.Proofs.Reader.Stopping

namespace RecordQuery

open Reader Lexeme

variable {calls : Bool} {cs : List Char}

namespace Lexeme

theorem field_stops : Stops field (· = []) := by
  have hidentifier : Stops identifier (· = []) :=
    (satisfying_stops _).bind_total fun _ => (total_taking _).bind fun _ => total_pure _
  exact hidentifier.bind_total fun _ => total_pure _

theorem attr_stops : Stops (attr calls) (· = []) := by
  cases calls with
  | false => exact field_stops
  | true => exact field_stops.orElse

end Lexeme

namespace Condition

theorem operator_stops : Stops operator (· = []) := by
  apply stops_at_once
  intro cs rest h
  rw [operator] at h
  split at h
  · cases h
  · cases h
    rfl

theorem operator_sound : Sound operator fun cs op => cs = op.symbol.toList := by
  intro cs op rest h
  exact ⟨_, operator_eq_ok h, rfl⟩

theorem number_stops : Stops number (· = []) := by
  have hdigits : Stops digits (· = []) :=
    (satisfying_stops _).bind_total fun _ => (total_taking _).bind fun _ => total_pure _
  exact hdigits.bind_total fun _ => (total_optional _).bind fun _ => total_pure _

/-- A first comparison that breaks off before its literal: there is nothing yet, or a target and
perhaps spaces, or a target with an operator and perhaps spaces. -/
inductive UnfinishedForm (calls : Bool) : List Char → Prop where
  | nothing : UnfinishedForm calls []
  | target {cs gap : List Char} {a : Attribute} (ha : AttributeForm calls cs a) (hg : IsGap gap) :
      UnfinishedForm calls (cs ++ gap)
  | operator {cs gap gap' : List Char} {a : Attribute} (op : Operator)
      (ha : AttributeForm calls cs a) (hg : IsGap gap) (hg' : IsGap gap') :
      UnfinishedForm calls (cs ++ gap ++ op.symbol.toList ++ gap')

theorem comparison_stops : Stops (comparison calls) (UnfinishedForm calls) := by
  refine Stops.bind (attr_stops.of_at_once .nothing) attr_sound fun ha => ?_
  refine Stops.bind total_spaces.stops spaces_sound fun hg => ?_
  refine Stops.bind (operator_stops.of_at_once ?_) operator_sound fun {_ op} hop => ?_
  · rw [List.append_nil]
    exact .target ha hg
  refine Stops.bind total_spaces.stops spaces_sound fun hg' => ?_
  refine Stops.bind_total (number_stops.orElse.of_at_once ?_) fun _ => total_pure _
  subst hop
  have hform := UnfinishedForm.operator op ha hg hg'
  simpa only [List.append_assoc, List.append_nil] using hform

theorem disjunction_stops : Stops (disjunction calls) (UnfinishedForm calls) := by
  have hconjunction : Stops (conjunction calls) (UnfinishedForm calls) :=
    comparison_stops.bind_total fun _ => (total_many _).bind fun _ => total_pure _
  exact hconjunction.orElse.bind_total fun _ => (total_many _).bind fun _ => total_pure _

theorem reader_stops :
    Stops (reader calls) fun cs => (∃ f, Form calls cs f) ∨ UnfinishedForm calls cs := by
  apply Stops.orElse
  refine Stops.bind (disjunction_stops.mono .inr) disjunction_sound fun hf => ?_
  refine Stops.bind_total (atEnd_stops.of_at_once ?_) fun _ => total_pure _
  rw [List.append_nil]
  exact .inl ⟨_, .bare hf⟩

theorem UnfinishedForm.exists_form (h : UnfinishedForm calls cs) :
    ∃ more f, Form calls (cs ++ more) f := by
  have hname : IsIdentifier "a" := ⟨'a', [], rfl, by decide, rfl⟩
  have hdigit : IsDigits ['1'] := ⟨List.cons_ne_nil _ _, List.forall_mem_singleton.2 rfl⟩
  have hone : LiteralForm ['1'] (.number (String.ofList ['1'])) := .whole hdigit
  cases h with
  | nothing =>
    have htarget : AttributeForm calls "a".toList ⟨"a", .field⟩ := .field hname
    exact ⟨_, _, .of_comparison (.intro .equal htarget .nil .nil hone)⟩
  | @target cs gap a ha hg =>
    have hform := Form.of_comparison (.intro .equal ha hg .nil hone)
    exact ⟨_, _, by simpa only [List.append_assoc] using hform⟩
  | operator op ha hg hg' => exact ⟨['1'], _, .of_comparison (.intro op ha hg hg' hone)⟩

end Condition

namespace OrderBy

theorem sortKey_stops : Stops (sortKey calls) (· = []) :=
  attr_stops.bind_total fun _ => (total_optional _).bind fun _ => total_pure _

/-- The four pieces before the keys of an ordering, of which some of the last may be missing. -/
inductive UnfinishedHeader : List Char → Prop where
  | nothing : UnfinishedHeader []
  | order {o : List Char} (ho : Spells "order" o) : UnfinishedHeader o
  | space {o space : List Char} (ho : Spells "order" o) (hs : IsBreak space) :
      UnfinishedHeader (o ++ space)
  | word {o space b : List Char} (ho : Spells "order" o) (hs : IsBreak space) (hb : Spells "by" b) :
      UnfinishedHeader (o ++ space ++ b)
  | whole {o space b space' : List Char} (ho : Spells "order" o) (hs : IsBreak space)
      (hb : Spells "by" b) (hs' : IsBreak space') : UnfinishedHeader (o ++ space ++ b ++ space')

theorem header_stops : Stops header UnfinishedHeader := by
  refine Stops.bind ((keyword_stops "order").of_at_once .nothing) (keyword_sound "order")
    fun ho => ?_
  refine Stops.bind (someSpaces_stops.of_at_once ?_) someSpaces_sound fun hs => ?_
  · rw [List.append_nil]
    exact .order ho
  refine Stops.bind ((keyword_stops "by").of_at_once ?_) (keyword_sound "by") fun hb => ?_
  · rw [List.append_nil]
    exact .space ho hs
  refine someSpaces_stops.of_at_once ?_
  rw [List.append_nil, ← List.append_assoc]
  exact .word ho hs hb

inductive HeaderForm : List Char → Prop where
  | intro {o space b space' : List Char} (ho : Spells "order" o) (hs : IsBreak space)
      (hb : Spells "by" b) (hs' : IsBreak space') : HeaderForm (o ++ space ++ b ++ space')

theorem header_sound : Sound header fun cs _ => HeaderForm cs := by
  intro cs _ rest h
  obtain ⟨o, space, b, space', rfl, ho, hs, hb, hs'⟩ := header_eq_ok h
  exact ⟨_, by simp only [List.append_assoc], .intro ho hs hb hs'⟩

theorem reader_stops :
    Stops (reader calls) fun cs => (∃ order, Form calls cs order) ∨ UnfinishedHeader cs := by
  refine Stops.bind (header_stops.mono .inr) header_sound fun hh => ?_
  obtain ⟨ho, hs, hb, hs'⟩ := hh
  refine Stops.bind (sortKey_stops.of_at_once ?_) sortKey_sound fun hk => ?_
  · rw [List.append_nil]
    exact .inr (.whole ho hs hb hs')
  refine Stops.bind (total_many _).stops (many_sound furtherKey_sound) fun hks => ?_
  refine Stops.bind_total (atEnd_stops.of_at_once ?_) fun _ => total_pure _
  rw [List.append_nil]
  exact .inl ⟨_, .intro ho hs hb hs' (.of_repetition hk hks)⟩

theorem UnfinishedHeader.exists_form (h : UnfinishedHeader cs) :
    ∃ more order, Form calls (cs ++ more) order := by
  have hname : IsIdentifier "a" := ⟨'a', [], rfl, by decide, rfl⟩
  have hkey : KeysForm calls ['a'] [⟨⟨"a", .field⟩, .asc⟩] := .one (.bare (.field hname))
  have horder : Spells "order" "order".toList := rfl
  have hby : Spells "by" "by".toList := rfl
  cases h with
  | nothing => exact ⟨_, _, .intro horder isBreak_space hby isBreak_space hkey⟩
  | order ho =>
    have hform := Form.intro ho isBreak_space hby isBreak_space hkey
    exact ⟨_, _, by simpa only [List.append_assoc] using hform⟩
  | space ho hs =>
    have hform := Form.intro ho hs hby isBreak_space hkey
    exact ⟨_, _, by simpa only [List.append_assoc] using hform⟩
  | word ho hs hb =>
    have hform := Form.intro ho hs hb isBreak_space hkey
    exact ⟨_, _, by simpa only [List.append_assoc] using hform⟩
  | whole ho hs hb hs' => exact ⟨['a'], _, .intro ho hs hb hs' hkey⟩

end OrderBy

/-- So many bytes of the text are whole characters, and what they spell is the beginning of
something readable: it can be read itself, or it is unfinished. -/
def BreaksOff (readable unfinished : String → Prop) (text : String) (offset : Nat) : Prop :=
  offset ≤ text.utf8ByteSize ∧ String.Pos.Raw.IsValid text ⟨offset⟩ ∧
    ∃ head tail, text = head ++ tail ∧ head.utf8ByteSize = offset ∧
      (readable head ∨ unfinished head) ∧ ∃ more, readable (head ++ more)

theorem breaksOff_append {readable unfinished : String → Prop} {head : String} (tail : String)
    (h : readable head ∨ unfinished head)
    (hmore : unfinished head → ∃ more, readable (head ++ more)) :
    BreaksOff readable unfinished (head ++ tail) head.utf8ByteSize := by
  refine ⟨?_, ?_, head, tail, rfl, rfl, h, ?_⟩
  · rw [String.utf8ByteSize_append]
    exact Nat.le_add_right _ _
  · exact String.Pos.Raw.isValid_iff_exists_append.2 ⟨head, tail, rfl, rfl⟩
  · rcases h with hr | hu
    · exact ⟨"", by rwa [String.append_empty]⟩
    · exact hmore hu

/-- A text that cannot be read as a condition breaks off behind a condition or within a first
comparison, and one that cannot be read as an ordering behind an ordering or within the words that
an ordering begins with. What stands before the place that is told can always be completed. -/
theorem parse_breaks_off (text : String) (calls : Bool) :
    (∀ e, Condition.parse text calls = .error e →
        BreaksOff (fun t => ∃ f, Condition.parse t calls = .ok f)
          (fun t => Condition.UnfinishedForm calls t.toList) text e.offset) ∧
      ∀ e, OrderBy.parse text calls = .error e →
        BreaksOff (fun t => ∃ order, OrderBy.parse t calls = .ok order)
          (fun t => OrderBy.UnfinishedHeader t.toList) text e.offset := by
  constructor
  · intro e he
    obtain ⟨head, tail, rfl, rfl, hstop⟩ := Condition.reader_stops.run he
    apply breaksOff_append
    · exact hstop.imp_left fun ⟨f, hf⟩ => ⟨f, Condition.parse_eq_ok.2 hf⟩
    · intro hu
      obtain ⟨more, f, hf⟩ := hu.exists_form
      refine ⟨String.ofList more, f, Condition.parse_eq_ok.2 ?_⟩
      rwa [String.toList_append, String.toList_ofList]
  · intro e he
    obtain ⟨head, tail, rfl, rfl, hstop⟩ := OrderBy.reader_stops.run he
    apply breaksOff_append
    · exact hstop.imp_left fun ⟨order, ho⟩ => ⟨order, OrderBy.parse_eq_ok.2 ho⟩
    · intro hu
      obtain ⟨more, order, ho⟩ := hu.exists_form
      refine ⟨String.ofList more, order, OrderBy.parse_eq_ok.2 ?_⟩
      rwa [String.toList_append, String.toList_ofList]

/-- A literal that is not closed, and an ordering without keys. -/
theorem parse_breaks_off_unclosed :
    Condition.parse "größe >= 'low" true = .error ⟨.condition, "größe >= 'low", 11⟩ ∧
      OrderBy.parse "Order  by" true = .error ⟨.order, "Order  by", 9⟩ ∧
      BreaksOff (fun t => ∃ f, Condition.parse t true = .ok f)
        (fun t => Condition.UnfinishedForm true t.toList) "größe >= 'low" 11 ∧
      BreaksOff (fun t => ∃ order, OrderBy.parse t true = .ok order)
        (fun t => OrderBy.UnfinishedHeader t.toList) "Order  by" 9 := by
  have hcondition : Condition.parse "größe >= 'low" true =
      .error ⟨.condition, "größe >= 'low", 11⟩ := rfl
  have horder : OrderBy.parse "Order  by" true = .error ⟨.order, "Order  by", 9⟩ := rfl
  exact ⟨hcondition, horder, (parse_breaks_off _ true).1 _ hcondition,
    (parse_breaks_off _ true).2 _ horder⟩

end RecordQuery
