import RecordQuery.Proofs.Condition.Reading
import RecordQuery.Proofs.Formula

namespace RecordQuery

def Comparison.asQuoted (c : Comparison) : Comparison :=
  { c with literal := .text c.literal.content }

namespace Condition

open Lexeme Formula

variable {f : Condition} {fs : List Condition} {joiner word : String}

/-- The condition with all its literals as quoted texts, which is what its rendering shows. -/
def asQuoted (f : Condition) : Condition :=
  f.map Comparison.asQuoted

def Named (f : Condition) : Prop :=
  ∀ c ∈ f.leaves, IsIdentifier c.attr.name

def text (f : Condition) : List Char :=
  f.render.toList

/-- The parts of a group behind its first one, each with the joining word before it. -/
def furtherText (joiner : String) (fs : List Condition) : List Char :=
  fs.flatMap fun f => joiner.toList ++ f.text

theorem renderParts_cons_cons (joiner : String) (f g : Condition) (fs : List Condition) :
    renderParts joiner (f :: g :: fs) = f.render ++ joiner ++ renderParts joiner (g :: fs) := by
  rw [renderParts]
  exact List.cons_ne_nil _ _

theorem renderParts_cons (joiner : String) (f : Condition) (fs : List Condition) :
    (renderParts joiner (f :: fs)).toList = f.text ++ furtherText joiner fs := by
  induction fs generalizing f with
  | nil => simp [renderParts, furtherText, text]
  | cons g fs ih =>
    rw [renderParts_cons_cons, String.toList_append, String.toList_append, ih]
    simp [text, furtherText]

theorem text_all (f : Condition) (fs : List Condition) :
    text (.all (f :: fs)) = '(' :: (f.text ++ furtherText " AND " fs ++ [')']) := by
  rw [text, render, String.toList_append, String.toList_append, renderParts_cons]
  rfl

theorem text_any (f : Condition) (fs : List Condition) :
    text (.any (f :: fs)) = '(' :: (f.text ++ furtherText " OR " fs ++ [')']) := by
  rw [text, render, String.toList_append, String.toList_append, renderParts_cons]
  rfl

theorem asQuoted_all (fs : List Condition) : asQuoted (.all fs) = .all (fs.map asQuoted) := by
  rw [asQuoted, Formula.map, mapParts_eq_map]
  rfl

theorem asQuoted_any (fs : List Condition) : asQuoted (.any fs) = .any (fs.map asQuoted) := by
  rw [asQuoted, Formula.map, mapParts_eq_map]
  rfl

mutual

theorem render_asQuoted (f : Condition) : f.asQuoted.render = f.render := by
  cases f with
  | leaf c => rfl
  | all fs => rw [asQuoted_all, render, renderParts_asQuoted, render]
  | any fs => rw [asQuoted_any, render, renderParts_asQuoted, render]

theorem renderParts_asQuoted (joiner : String) (fs : List Condition) :
    renderParts joiner (fs.map asQuoted) = renderParts joiner fs := by
  match fs with
  | [] => rfl
  | [f] => exact render_asQuoted f
  | f :: g :: fs =>
    have hg := renderParts_asQuoted joiner (g :: fs)
    rw [List.map_cons] at hg
    rw [List.map_cons, List.map_cons, renderParts_cons_cons, renderParts_cons_cons,
      render_asQuoted f, hg]

end

theorem Named.of_mem_all (h : Named (.all fs)) (hf : f ∈ fs) : f.Named := by
  intro c hc
  apply h c
  rw [leaves, leavesOfParts_eq_flatMap]
  exact List.mem_flatMap.2 ⟨f, hf, hc⟩

theorem Named.of_mem_any (h : Named (.any fs)) (hf : f ∈ fs) : f.Named := by
  intro c hc
  apply h c
  rw [leaves, leavesOfParts_eq_flatMap]
  exact List.mem_flatMap.2 ⟨f, hf, hc⟩

theorem comparisonForm_text {calls : Bool} {c : Comparison} (h : Writable calls c.attr) :
    ComparisonForm calls c.text.toList c.asQuoted := by
  have he : c.text.toList = c.attr.text.toList ++ [] ++ c.operator.symbol.toList ++ [] ++
      Text.Quoted.encode c.literal.content.toList := by
    simp [Comparison.text, Literal.quoted]
  rw [he]
  exact .intro c.operator h.attributeForm .nil .nil (.text _)

theorem leafForm_text {c : Comparison} (h : IsIdentifier c.attr.name) :
    LeafForm true (text (.leaf c)) (asQuoted (.leaf c)) :=
  .intro (comparisonForm_text (writable_true.2 h))

structure Joins (joiner word : String) (c : Char) : Prop where
  spells : ∃ w, joiner.toList = [' '] ++ (w ++ [' ']) ∧ Spells word w
  starts : ∃ ds, word.toList = c :: ds
  ne_space : c ≠ ' '
  ne_paren : c ≠ ')'

theorem joins_and : Joins " AND " "and" 'a' :=
  ⟨⟨['A', 'N', 'D'], rfl, rfl⟩, ⟨_, rfl⟩, by decide, by decide⟩

theorem joins_or : Joins " OR " "or" 'o' :=
  ⟨⟨['O', 'R'], rfl, rfl⟩, ⟨_, rfl⟩, by decide, by decide⟩

theorem joinedForm_parts {α : Type} {form : List Char → α → Prop} (value : Condition → α)
    {c : Char} (hj : Joins joiner word c) (h : ∀ g ∈ f :: fs, form g.text (value g)) :
    JoinedForm word form (f.text ++ furtherText joiner fs) (value f :: fs.map value) := by
  induction fs generalizing f with
  | nil =>
    rw [furtherText, List.flatMap_nil, List.append_nil]
    exact .one (h f List.mem_cons_self)
  | cons g fs ih =>
    obtain ⟨w, he, hw⟩ := hj.spells
    have hmore := ih fun g hg => h g (List.mem_cons_of_mem _ hg)
    have hjoined := JoinedForm.more (h f List.mem_cons_self) isBreak_space hw isBreak_space hmore
    simpa [furtherText, he] using hjoined

theorem conjunctionForm_text (hl : ∀ g ∈ f :: fs, g.isLeaf = true)
    (hn : ∀ g ∈ f :: fs, g.Named) :
    ConjunctionForm true (f.text ++ furtherText " AND " fs)
      (Formula.group .all f.asQuoted (fs.map asQuoted)) := by
  have hj := joinedForm_parts asQuoted joins_and fun g hg => by
    obtain ⟨c, rfl⟩ := exists_of_isLeaf (hl g hg)
    exact leafForm_text (hn _ hg c List.mem_cons_self)
  obtain ⟨as, has, hj⟩ := hj.leaves
  cases as with
  | nil => cases has
  | cons a as =>
    obtain ⟨hf, hfs⟩ := List.cons.inj has
    rw [hf, hfs]
    exact hj.conjunctionForm

end Condition

end RecordQuery
