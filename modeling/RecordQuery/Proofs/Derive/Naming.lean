import RecordQuery.Proofs.Condition.Recompilation
import RecordQuery.Proofs.Derive.Implementation
import RecordQuery.Proofs.Order.Agreement

namespace RecordQuery.Derive

open Lexeme

variable {calls : Bool} {lookup : Lookup} {name : String}

/-- A word of ASCII letters, digits and underscores that does not start with a digit. -/
def IsPlain (name : String) : Prop :=
  ∃ c cs, name.toList = c :: cs ∧ (c == '_' || c.isAlpha) ∧
    cs.all fun d => d == '_' || d.isAlphanum

/-- Such a word with the mark that lets a reserved word be a name. -/
def IsRaw (name : String) : Prop :=
  ∃ word, IsPlain word ∧ name = "r#" ++ word

/-- Some condition has a leaf whose name is the one that the pattern matches. -/
def Nameable (calls : Bool) (lookup : Lookup) (pattern : String) : Prop :=
  ∃ text f, Condition.parse text calls = .ok f ∧
    ∃ c ∈ f.leaves, c.attr.lookup = lookup ∧ textLiteral c.attr.name = pattern

theorem IsPlain.isIdentifier (h : IsPlain name) : IsIdentifier name := by
  obtain ⟨c, cs, he, hc, hcs⟩ := h
  refine ⟨c, cs, he, ?_, List.all_eq_true.2 fun d hd => ?_⟩
  · rw [startsIdentifier, hc, Bool.true_or]
  · have hword : (d == '_' || d.isAlpha || d.isDigit) = true := by
      rw [Bool.or_assoc]
      exact List.all_eq_true.1 hcs d hd
    rw [continuesIdentifier, startsIdentifier]
    grind

theorem IsRaw.not_isIdentifier (h : IsRaw name) : ¬IsIdentifier name := by
  obtain ⟨word, -, rfl⟩ := h
  rintro ⟨c, cs, he, -, hcs⟩
  have hmark : '#' ∈ cs := by
    rw [String.toList_append] at he
    obtain ⟨-, rfl⟩ := List.cons.inj he
    exact List.mem_cons_self
  exact absurd (List.all_eq_true.1 hcs '#' hmark) (by decide)

theorem IsPlain.not_isRaw (h : IsPlain name) : ¬IsRaw name :=
  fun hraw => hraw.not_isIdentifier h.isIdentifier

theorem Nameable.isIdentifier (h : Nameable calls lookup (textLiteral name)) :
    IsIdentifier name := by
  obtain ⟨text, f, hread, c, hc, -, he⟩ := h
  have hnamed : f.Named := (Condition.parse_eq_ok.1 hread).shape.2.1
  rw [← textLiteral_injective he]
  exact hnamed c hc

theorem nameable_of_isIdentifier (hn : IsIdentifier name)
    (hcalls : lookup = .accessor → calls = true) :
    Nameable calls lookup (textLiteral name) := by
  have hread := Condition.parse_leaf (c := ⟨⟨name, lookup⟩, .equal, .text ""⟩) ⟨hn, hcalls⟩
  exact ⟨_, _, hread, _, List.mem_singleton_self _, rfl, rfl⟩

/-- An identifier of ASCII letters, digits and underscores can be named unless it is raw. -/
theorem nameable_iff_not_isRaw (hname : IsPlain name ∨ IsRaw name)
    (hcalls : lookup = .accessor → calls = true) :
    Nameable calls lookup (textLiteral name) ↔ ¬IsRaw name := by
  constructor
  · exact fun h hraw => hraw.not_isIdentifier h.isIdentifier
  · exact fun hraw => nameable_of_isIdentifier (hname.resolve_right hraw).isIdentifier hcalls

theorem forall₂_of_map_fst_eq {α : Type} {as : List α} {arms : List (String × String)}
    {pattern : α → String} (h : arms.map (·.1) = as.map pattern) :
    List.Forall₂ (fun a arm => arm.1 = pattern a) as arms := by
  have hall : List.Forall₂ (· = ·) (arms.map (·.1)) (as.map pattern) := by
    rw [h]
    exact List.forall₂_refl _
  exact (List.forall₂_map_right_iff.1 (List.forall₂_map_left_iff.1 hall)).flip

namespace Item

/-- The arm of a field that keeps its own name, and that of an accessor, can be reached by a
condition if and only if the identifier is not raw. -/
theorem implementations_nameable {item : Item} {impls : List Implementation}
    (h : item.implementations = .ok impls) :
    ∃ p values types, item.Has p ∧ impls = [values, types] ∧
      (∃ arms, values.Knows "field" arms ∧
        List.Forall₂ (fun f arm => f.options.rename = none → IsPlain f.name ∨ IsRaw f.name →
          ∀ calls, Nameable calls .field arm.1 ↔ ¬IsRaw f.name) p.exposed arms) ∧
      (p.accessors ≠ [] → ∃ arms, values.Knows "accessor" arms ∧
        List.Forall₂ (fun a arm => IsPlain a.method ∨ IsRaw a.method →
          (Nameable true .accessor arm.1 ↔ ¬IsRaw a.method)) p.accessors arms) := by
  obtain ⟨p, generics, condition, target, hp, hnodup, rfl⟩ := implementations_eq_ok h
  have hagree := agreement hnodup generics condition target
  refine ⟨p, _, _, hp, rfl, ?_, fun hsome => ?_⟩
  · obtain ⟨arms, typeArms, hknows, -, harms⟩ := hagree.fields
    refine ⟨arms, hknows, (forall₂_of_map_fst_eq harms.patterns).imp ?_⟩
    intro f arm harm hrename hname calls
    rw [harm, LexedField.exposedName, hrename]
    exact nameable_iff_not_isRaw hname nofun
  · obtain ⟨arms, typeArms, hknows, -, harms⟩ := hagree.accessors hsome
    refine ⟨arms, hknows, (forall₂_of_map_fst_eq harms.patterns).imp ?_⟩
    intro a arm harm hname
    rw [harm]
    exact nameable_iff_not_isRaw hname fun _ => rfl

def row : Item :=
  ⟨.struct, "Row", "", ["accessors(size: usize)"], [⟨"id", "u64", []⟩, ⟨"r#type", "u8", []⟩]⟩

theorem derive_row : row.derive = .ok ⟨"Row", [⟨"id", "id", "u64", false⟩,
    ⟨"r#type", "r#type", "u8", false⟩], [⟨"size", "usize"⟩]⟩ := by decide +kernel

theorem row_derivesTo : row.DerivesTo ⟨"Row", [⟨"id", "id", "u64", false⟩,
    ⟨"r#type", "r#type", "u8", false⟩], [⟨"size", "usize"⟩]⟩ := by
  have hname : nameOf row.name = some "Row" := by decide +kernel
  have hgenerics : Generics.read row.generics = some ⟨[], []⟩ := by rfl
  exact .intro hname hgenerics derive_row

theorem row_implementations_nameable :
    ∃ values types, row.implementations = .ok [values, types] ∧
      values.Knows "field" [(textLiteral "id", memberValue "id" false),
        (textLiteral "r#type", memberValue "r#type" false)] ∧
      values.Knows "accessor" [(textLiteral "size", methodValue "size")] ∧
      (∀ calls, Nameable calls .field (textLiteral "id")) ∧
      (∀ calls, ¬Nameable calls .field (textLiteral "r#type")) ∧
      Nameable true .accessor (textLiteral "size") := by
  obtain ⟨generics, condition, target, h⟩ := row_derivesTo
  obtain ⟨p, values, types, hp, himpls, ⟨arms, hknows, hfields⟩, haccessors⟩ :=
    implementations_nameable h
  cases himpls
  have hlex : row.fields.mapM Field.lex = .ok [⟨"id", "u64", []⟩, ⟨"r#type", "u8", []⟩] := by rfl
  have hexposed : p.exposed = [⟨"id", "u64", []⟩, ⟨"r#type", "u8", []⟩] := by
    rw [Parts.exposed, Except.ok.inj (hp.fields.symm.trans hlex)]
    rfl
  have hregistered : p.accessors = [⟨"size", "usize"⟩] :=
    congrArg Derivation.accessors (hp.derivation_eq derive_row)
  have harms : arms = [(textLiteral "id", memberValue "id" false),
      (textLiteral "r#type", memberValue "r#type" false)] := hknows.unique rfl
  obtain ⟨arms', hknows', hmethods⟩ := haccessors (hregistered ▸ List.cons_ne_nil _ _)
  have harms' : arms' = [(textLiteral "size", methodValue "size")] := hknows'.unique rfl
  rw [hexposed, harms, List.forall₂_cons, List.forall₂_cons] at hfields
  rw [hregistered, harms', List.forall₂_cons] at hmethods
  have hid : IsPlain "id" := ⟨'i', ['d'], rfl, rfl, rfl⟩
  have htype : IsRaw "r#type" := ⟨"type", ⟨'t', ['y', 'p', 'e'], rfl, rfl, rfl⟩, rfl⟩
  have hsize : IsPlain "size" := ⟨'s', ['i', 'z', 'e'], rfl, rfl, rfl⟩
  refine ⟨_, _, h, rfl, rfl, ?_, ?_, ?_⟩
  · exact fun calls => (hfields.1 rfl (.inl hid) calls).2 hid.not_isRaw
  · exact fun calls hbad => (hfields.2.1 rfl (.inr htype) calls).1 hbad htype
  · exact (hmethods.1 (.inl hsize)).2 hsize.not_isRaw

/-- The field `type` is known by a name that no condition can write. -/
theorem row_raw_field_not_nameable :
    ∃ values types, row.implementations = .ok [values, types] ∧
      (∃ arms, values.Knows "field" arms ∧
        (textLiteral "r#type", memberValue "r#type" false) ∈ arms) ∧
      ∀ calls, ¬Nameable calls .field (textLiteral "r#type") := by
  obtain ⟨generics, condition, target, h⟩ := row_derivesTo
  have hraw : IsRaw "r#type" :=
    ⟨"type", ⟨'t', ['y', 'p', 'e'], rfl, rfl, rfl⟩, rfl⟩
  refine ⟨_, _, h, ⟨_, rfl, List.mem_cons_of_mem _ List.mem_cons_self⟩, ?_⟩
  exact fun calls h => hraw.not_isIdentifier h.isIdentifier

end Item

end RecordQuery.Derive
