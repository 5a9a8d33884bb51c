import Mathlib.Data.List.Forall2
import RecordQuery.Proofs.Formula.Numbering

namespace RecordQuery.Formula

variable {α q ε : Type} {settling : Bool} {f g : Formula α} {fs gs : List (Formula α)}
  {d : Draft α} {ds : List (Draft α)}

section Alike

/-- The formulas have the same leaves in the same places, and ask for them in the same order until
their common value is settled, whatever the answers. -/
structure Alike (f g : Formula α) : Prop where
  leaves : f.leaves = g.leaves
  -- From every place on, since a part is numbered from where the parts in front of it end.
  evaluate : ∀ {q ε : Type} (start : Nat) (ask : α × Nat → Inquiry q ε Bool),
    (f.numberFrom start).evaluate ask = (g.numberFrom start).evaluate ask

namespace Alike

theorem refl (f : Formula α) : Alike f f :=
  ⟨rfl, fun _ _ => rfl⟩

theorem group (settling : Bool) (h : List.Forall₂ Alike fs gs) :
    Alike (ofParts settling fs) (ofParts settling gs) := by
  induction h with
  | nil => exact refl _
  | @cons f g fs gs hf _ ih =>
    refine ⟨?_, fun start ask => ?_⟩
    · rw [leaves_more, leaves_more, hf.leaves, ih.leaves]
    · have hrest := ih.evaluate (start + g.leaves.length) ask
      rw [numberFrom_ofParts, numberFrom_ofParts] at hrest
      rw [numberFrom_ofParts, numberFrom_ofParts, numberPartsFrom, numberPartsFrom, evaluate_more,
        evaluate_more, hf.evaluate, hf.leaves, hrest]

theorem one (settling : Bool) (h : Alike f g) : Alike f (ofParts settling [g]) := by
  refine ⟨?_, fun start ask => ?_⟩
  · rw [leaves_more, leaves_empty, List.append_nil, h.leaves]
  · rw [numberFrom_ofParts, numberPartsFrom, numberPartsFrom, evaluate_one, h.evaluate]

theorem consult_numbered (h : Alike f g) (answer : α × Nat → Except ε Bool) :
    f.numbered.consult answer = g.numbered.consult answer :=
  h.evaluate 0 _

theorem evaluate_eq (h : Alike f g) (ask : α → Inquiry q ε Bool) :
    f.evaluate ask = g.evaluate ask := by
  rw [← evaluate_numberFrom f 0, ← evaluate_numberFrom g 0]
  exact h.evaluate 0 _

end Alike

end Alike

section Gathering

theorem gather_eq_some {build : List (Formula α) → Formula α} (h : gather build fs = some f) :
    fs = [f] ∨ 2 ≤ fs.length ∧ build fs = f := by
  match fs, h with
  | [g], h => exact .inl (congrArg (fun k => [k]) (Option.some.inj h))
  | _ :: _ :: _, h => exact .inr ⟨Nat.le_add_left _ _, Option.some.inj h⟩

theorem exists_gather (build : List (Formula α) → Formula α) (h : fs ≠ []) :
    ∃ f, gather build fs = some f := by
  match fs, h with
  | [f], _ => exact ⟨f, rfl⟩
  | _ :: _ :: _, _ => exact ⟨_, rfl⟩

theorem grouped_ofParts (h : 2 ≤ fs.length) (hfs : ∀ f ∈ fs, f.Grouped) :
    (ofParts settling fs).Grouped := by
  cases settling <;> exact ⟨h, groupedParts_iff.2 hfs⟩

theorem grouped_of_gather (settling : Bool) (hfs : ∀ f ∈ fs, f.Grouped)
    (h : gather (ofParts settling) fs = some f) : f.Grouped := by
  rcases gather_eq_some h with rfl | ⟨htwo, rfl⟩
  · exact hfs f (List.mem_singleton_self f)
  · exact grouped_ofParts htwo hfs

theorem alike_of_gather (hfs : List.Forall₂ Alike fs gs) (h : gather (ofParts settling) fs = some f) :
    Alike f (ofParts settling gs) := by
  rcases gather_eq_some h with rfl | ⟨-, rfl⟩
  · cases hfs with
    | cons hf hnil =>
      cases hnil
      exact hf.one settling
  · exact .group settling hfs

end Gathering

namespace Draft

@[induction_eliminator]
theorem inductionOnParts {motive : Draft α → Prop} (leaf : ∀ a, motive (.leaf a))
    (all : ∀ ds, (∀ d ∈ ds, motive d) → motive (.all ds))
    (any : ∀ ds, (∀ d ∈ ds, motive d) → motive (.any ds))
    (conjunction : ∀ ds, (∀ d ∈ ds, motive d) → motive (.conjunction ds))
    (disjunction : ∀ ds, (∀ d ∈ ds, motive d) → motive (.disjunction ds)) : ∀ d, motive d
  | .leaf a => leaf a
  | .all ds => all ds fun d _ => inductionOnParts leaf all any conjunction disjunction d
  | .any ds => any ds fun d _ => inductionOnParts leaf all any conjunction disjunction d
  | .conjunction ds =>
    conjunction ds fun d _ => inductionOnParts leaf all any conjunction disjunction d
  | .disjunction ds =>
    disjunction ds fun d _ => inductionOnParts leaf all any conjunction disjunction d

mutual

def plain : Draft α → Formula α
  | .leaf a => .leaf a
  | .all ds | .conjunction ds => .all (plainParts ds)
  | .any ds | .disjunction ds => .any (plainParts ds)

def plainParts : List (Draft α) → List (Formula α)
  | [] => []
  | d :: ds => plain d :: plainParts ds

end

mutual

/-- No conjunction and no disjunction is put together from nothing. -/
def Supplied : Draft α → Prop
  | .leaf _ => True
  | .all ds | .any ds => SuppliedParts ds
  | .conjunction ds | .disjunction ds => ds ≠ [] ∧ SuppliedParts ds

def SuppliedParts : List (Draft α) → Prop
  | [] => True
  | d :: ds => Supplied d ∧ SuppliedParts ds

end

mutual

def ofFormula : Formula α → Draft α
  | .leaf a => .leaf a
  | .all fs => .all (ofFormulas fs)
  | .any fs => .any (ofFormulas fs)

def ofFormulas : List (Formula α) → List (Draft α)
  | [] => []
  | f :: fs => ofFormula f :: ofFormulas fs

end

theorem buildParts_ofFormulas (h : ∀ f ∈ fs, (ofFormula f).build = some f) :
    buildParts (ofFormulas fs) = fs := by
  induction fs with
  | nil => rfl
  | cons f fs ih =>
    obtain ⟨hf, hfs⟩ := List.forall_mem_cons.1 h
    rw [ofFormulas, buildParts, hf, ih hfs]
    rfl

theorem build_ofFormula (f : Formula α) : (ofFormula f).build = some f := by
  induction f with
  | leaf a => rfl
  | all fs ih => rw [ofFormula, build, buildParts_ofFormulas ih]
  | any fs ih => rw [ofFormula, build, buildParts_ofFormulas ih]

theorem plainParts_ofFormulas (h : ∀ f ∈ fs, (ofFormula f).plain = f) :
    plainParts (ofFormulas fs) = fs := by
  induction fs with
  | nil => rfl
  | cons f fs ih =>
    obtain ⟨hf, hfs⟩ := List.forall_mem_cons.1 h
    rw [ofFormulas, plainParts, hf, ih hfs]

theorem plain_ofFormula (f : Formula α) : (ofFormula f).plain = f := by
  induction f with
  | leaf a => rfl
  | all fs ih => rw [ofFormula, plain, plainParts_ofFormulas ih]
  | any fs ih => rw [ofFormula, plain, plainParts_ofFormulas ih]

theorem suppliedParts_iff : SuppliedParts ds ↔ ∀ d ∈ ds, d.Supplied := by
  induction ds with
  | nil => simp [SuppliedParts]
  | cons d ds ih => rw [SuppliedParts, ih, List.forall_mem_cons]

theorem suppliedParts_ofFormulas (h : ∀ f ∈ fs, (ofFormula f).Supplied) :
    SuppliedParts (ofFormulas fs) := by
  induction fs with
  | nil => trivial
  | cons f fs ih =>
    obtain ⟨hf, hfs⟩ := List.forall_mem_cons.1 h
    exact ⟨hf, ih hfs⟩

theorem supplied_ofFormula (f : Formula α) : (ofFormula f).Supplied := by
  induction f with
  | leaf a => trivial
  | all fs ih => exact suppliedParts_ofFormulas ih
  | any fs ih => exact suppliedParts_ofFormulas ih

theorem mem_buildParts : f ∈ buildParts ds ↔ ∃ d ∈ ds, d.build = some f := by
  induction ds with
  | nil => simp [buildParts]
  | cons d ds ih => simp [buildParts, ih]

theorem forall₂_buildParts (h : ∀ d ∈ ds, ∃ f, d.build = some f ∧ Alike f d.plain) :
    List.Forall₂ Alike (buildParts ds) (plainParts ds) := by
  induction ds with
  | nil => exact .nil
  | cons d ds ih =>
    obtain ⟨⟨f, hf, hfd⟩, hds⟩ := List.forall_mem_cons.1 h
    rw [buildParts, hf]
    exact .cons hfd (ih hds)

theorem buildParts_ne_nil (h : ∀ d ∈ ds, ∃ f, d.build = some f ∧ Alike f d.plain) (hds : ds ≠ []) :
    buildParts ds ≠ [] := by
  obtain ⟨d, ds, rfl⟩ := List.exists_cons_of_ne_nil hds
  obtain ⟨f, hf, -⟩ := h d List.mem_cons_self
  exact List.ne_nil_of_mem (mem_buildParts.2 ⟨d, List.mem_cons_self, hf⟩)

/-- Nothing of a supplied draft is lost. -/
theorem exists_build (h : d.Supplied) : ∃ f, d.build = some f ∧ Alike f d.plain := by
  -- The induction takes the two kinds apart, but they differ in what settles the group alone.
  have hgroup (settling : Bool) {ds : List (Draft α)} (hds : ds ≠ [])
      (h : ∀ d ∈ ds, ∃ f, d.build = some f ∧ Alike f d.plain) :
      ∃ f, gather (ofParts settling) (buildParts ds) = some f ∧
        Alike f (ofParts settling (plainParts ds)) := by
    obtain ⟨f, hf⟩ := exists_gather (ofParts settling) (buildParts_ne_nil h hds)
    exact ⟨f, hf, alike_of_gather (forall₂_buildParts h) hf⟩
  induction d with
  | leaf a => exact ⟨_, rfl, .refl _⟩
  | all ds ih =>
    have hparts := suppliedParts_iff.1 h
    exact ⟨_, rfl, .group false (forall₂_buildParts fun d hd => ih d hd (hparts d hd))⟩
  | any ds ih =>
    have hparts := suppliedParts_iff.1 h
    exact ⟨_, rfl, .group true (forall₂_buildParts fun d hd => ih d hd (hparts d hd))⟩
  | conjunction ds ih =>
    have hparts := suppliedParts_iff.1 h.2
    exact hgroup false h.1 fun d hd => ih d hd (hparts d hd)
  | disjunction ds ih =>
    have hparts := suppliedParts_iff.1 h.2
    exact hgroup true h.1 fun d hd => ih d hd (hparts d hd)

end Draft

end RecordQuery.Formula
