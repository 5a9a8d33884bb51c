import RecordQuery.Proofs.Condition.Recompilation
import RecordQuery.Proofs.Formula.Draft

namespace RecordQuery.Condition

open Formula Lexeme

variable {d : Draft Comparison}

/-- Comparisons, conditions that were read from texts, and conjunctions and disjunctions of these in
turn. -/
inductive IsAssembled : Draft Comparison → Prop where
  | leaf (c : Comparison) : IsAssembled (.leaf c)
  | read {text : String} {calls : Bool} {f : Condition} (h : parse text calls = .ok f) :
      IsAssembled (.ofFormula f)
  | conjunction {ds : List (Draft Comparison)} (h : ∀ d ∈ ds, IsAssembled d) :
      IsAssembled (.conjunction ds)
  | disjunction {ds : List (Draft Comparison)} (h : ∀ d ∈ ds, IsAssembled d) :
      IsAssembled (.disjunction ds)

theorem IsAssembled.grouped {f : Condition} (h : IsAssembled d) (hf : d.build = some f) :
    f.Grouped := by
  have hparts {ds : List (Draft Comparison)}
      (h : ∀ d ∈ ds, ∀ {f : Condition}, d.build = some f → f.Grouped) :
      ∀ f ∈ Draft.buildParts ds, f.Grouped := by
    intro f hf
    obtain ⟨d, hd, hbuild⟩ := Draft.mem_buildParts.1 hf
    exact h d hd hbuild
  induction h generalizing f with
  | leaf c =>
    cases hf
    trivial
  | read hread =>
    rw [Draft.build_ofFormula] at hf
    cases hf
    exact (parse_eq_ok.1 hread).shape.1
  | conjunction _ ih => exact grouped_of_gather false (hparts ih) hf
  | disjunction _ ih => exact grouped_of_gather true (hparts ih) hf

/-- What is put together has two parts or more in every group. If no conjunction and no disjunction
is put together from nothing there is a result, and it cannot be told from the formula that has a
group for each of them: it has the same comparisons, and asks for the same of them in the same order
with the same answer or failure, also if answers depend on the places. A condition taken as it stands
is supplied and the same in both. -/
theorem build_assembled (h : IsAssembled d) :
    (∀ f, d.build = some f → f.Grouped) ∧
      (d.Supplied → ∃ f : Condition, d.build = some f ∧
        f.comparisons = Condition.comparisons d.plain ∧
        (∀ (q ε : Type) (ask : Comparison → Inquiry q ε Bool),
          f.evaluate ask = d.plain.evaluate ask) ∧
        ∀ (ε : Type) (answer : Comparison × Nat → Except ε Bool),
          f.numbered.consult answer = d.plain.numbered.consult answer) ∧
      ∀ f : Condition, (Draft.ofFormula f).Supplied ∧ (Draft.ofFormula f).build = some f ∧
        (Draft.ofFormula f).plain = f := by
  refine ⟨fun f => h.grouped, fun hd => ?_, fun f => ⟨Draft.supplied_ofFormula f,
    Draft.build_ofFormula f, Draft.plain_ofFormula f⟩⟩
  obtain ⟨f, hf, halike⟩ := Draft.exists_build hd
  refine ⟨f, hf, ?_, fun q ε => halike.evaluate_eq, fun ε => halike.consult_numbered⟩
  rw [comparisons, comparisons, walk_singleton, walk_singleton, halike.leaves]

def narrowed : Draft Comparison :=
  .conjunction [
    .ofFormula (.any [.leaf ⟨⟨"width", .field⟩, .less, .number "2"⟩,
      .leaf ⟨⟨"width", .field⟩, .greater, .number "5"⟩]),
    .disjunction [.conjunction [.leaf ⟨⟨"size", .accessor⟩, .equal, .text "3"⟩]]]

theorem build_assembled_narrowed :
    IsAssembled narrowed ∧ narrowed.Supplied ∧ ∃ f : Condition,
      narrowed.build = some f ∧ f.Grouped ∧ f.comparisons = Condition.comparisons narrowed.plain ∧
      f.isTwoLevel = false ∧ ∀ answer : Comparison × Nat → Except Error Bool,
        f.numbered.consult answer = narrowed.plain.numbered.consult answer := by
  have hwide : AttributeForm false "width".toList ⟨"width", .field⟩ :=
    .field ⟨'w', ['i', 'd', 't', 'h'], rfl, rfl, rfl⟩
  have htwo : LiteralForm ['2'] (.number "2") :=
    .whole ⟨List.cons_ne_nil _ _, List.all_eq_true.1 rfl⟩
  have hfive : LiteralForm ['5'] (.number "5") :=
    .whole ⟨List.cons_ne_nil _ _, List.all_eq_true.1 rfl⟩
  have hless : ComparisonForm false "width<2".toList ⟨⟨"width", .field⟩, .less, .number "2"⟩ :=
    .intro .less hwide .nil .nil htwo
  have hgreater : ComparisonForm false "width>5".toList
      ⟨⟨"width", .field⟩, .greater, .number "5"⟩ :=
    .intro .greater hwide .nil .nil hfive
  have hor : Spells "or" "or".toList := rfl
  have hform : Form false "width<2 or width>5".toList _ :=
    .bare (.more (.more (OperandForm.of_comparison hless) isBreak_space hor isBreak_space
      (.one (OperandForm.of_comparison hgreater))))
  have hread := parse_eq_ok.2 hform
  have hassembled : IsAssembled narrowed := by
    refine .conjunction (List.forall_mem_cons.2 ⟨.read hread, List.forall_mem_singleton.2 ?_⟩)
    exact .disjunction (List.forall_mem_singleton.2
      (.conjunction (List.forall_mem_singleton.2 (.leaf _))))
  have hsupplied : narrowed.Supplied :=
    ⟨nofun, ⟨trivial, trivial, trivial⟩, ⟨nofun, ⟨nofun, trivial, trivial⟩, trivial⟩, trivial⟩
  obtain ⟨hgrouped, hresult, -⟩ := build_assembled hassembled
  obtain ⟨f, hf, hsame, -, hconsult⟩ := hresult hsupplied
  refine ⟨hassembled, hsupplied, f, hf, hgrouped f hf, hsame, ?_, hconsult Error⟩
  cases hf
  rfl

end RecordQuery.Condition
