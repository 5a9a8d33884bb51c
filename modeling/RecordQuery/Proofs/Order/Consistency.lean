import Mathlib.Data.Fintype.Card
import Mathlib.Logic.Relation
import Mathlib.Order.Antisymmetrization
import Mathlib.Order.Extension.Linear
import RecordQuery.Proofs.Value.Order

namespace RecordQuery

open Relation

section Extension

variable {α : Type} {r : α → α → Ordering → Prop} {a b : α}

/-- A relation is kept by a total preorder that calls two elements equal only if the relation leads
from each to the other. -/
theorem exists_cmp_extending (R : α → α → Prop) :
    ∃ cmp : α → α → Ordering, Std.TransCmp cmp ∧
      (∀ a b, R a b → R b a → cmp a b = .eq) ∧
      ∀ a b, R a b → ¬ReflTransGen R b a → cmp a b = .lt := by
  classical
  let _ : Preorder α :=
    { le := ReflTransGen R
      le_refl := fun _ => .refl
      le_trans := fun _ _ _ => .trans }
  let place (a : α) : LinearExtension (Antisymmetrization α (· ≤ ·)) :=
    toLinearExtension (toAntisymmetrization (· ≤ ·) a)
  have hmono {a b : α} (h : R a b) : place a ≤ place b :=
    toLinearExtension.monotone (toAntisymmetrization_mono (.single h))
  refine ⟨compareOn place, inferInstance, ?_, ?_⟩
  · intro a b hab hba
    exact compare_eq_iff_eq.2 (le_antisymm (hmono hab) (hmono hba))
  · intro a b hab hno
    refine compare_lt_iff_lt.2 (lt_of_le_of_ne (hmono hab) ?_)
    intro he
    exact hno (Quotient.exact he).2

/-- An answer, to the one order of the pair or the other, has the first element before the second. -/
def Less (r : α → α → Ordering → Prop) (a b : α) : Prop :=
  r a b .lt ∨ r b a .gt

/-- An answer has the first element before the second or level with it. -/
def NotGreater (r : α → α → Ordering → Prop) (a b : α) : Prop :=
  Less r a b ∨ r a b .eq ∨ r b a .eq

/-- The answers are all those of one total preorder. -/
def Consistent (r : α → α → Ordering → Prop) : Prop :=
  ∃ cmp : α → α → Ordering, Std.TransCmp cmp ∧ ∀ a b o, r a b o → cmp a b = o

theorem lt_of_less {cmp : α → α → Ordering} [Std.OrientedCmp cmp]
    (hcmp : ∀ a b o, r a b o → cmp a b = o) (h : Less r a b) : cmp a b = .lt := by
  rcases h with h | h
  · exact hcmp _ _ _ h
  · exact Std.OrientedCmp.lt_of_gt (hcmp _ _ _ h)

theorem isLE_of_reachable {cmp : α → α → Ordering} [Std.TransCmp cmp]
    (hcmp : ∀ a b o, r a b o → cmp a b = o) (h : ReflTransGen (NotGreater r) a b) :
    (cmp a b).isLE = true := by
  induction h with
  | refl => exact Std.ReflCmp.isLE_rfl
  | @tail b c _ hbc ih =>
    refine Std.TransCmp.isLE_trans ih ?_
    rcases hbc with h | h | h
    · rw [lt_of_less hcmp h]
      rfl
    · rw [hcmp _ _ _ h]
      rfl
    · rw [Std.OrientedCmp.eq_symm (hcmp _ _ _ h)]
      rfl

/-- Answers are those of a total preorder unless they lead from an element back to a lesser one. -/
theorem consistent_iff :
    Consistent r ↔ ∀ a b, Less r a b → ¬ReflTransGen (NotGreater r) b a := by
  constructor
  · rintro ⟨cmp, _, hcmp⟩ a b hless hback
    have hgt : cmp b a = .gt := Std.OrientedCmp.gt_of_lt (lt_of_less hcmp hless)
    have hle := isLE_of_reachable hcmp hback
    rw [hgt] at hle
    cases hle
  · intro hno
    obtain ⟨cmp, hcmp, heq, hlt⟩ := exists_cmp_extending (NotGreater r)
    have hless {a b : α} (h : Less r a b) : cmp a b = .lt := hlt a b (.inl h) (hno a b h)
    refine ⟨cmp, hcmp, ?_⟩
    intro a b o h
    cases o with
    | lt => exact hless (.inl h)
    | eq => exact heq a b (.inr (.inl h)) (.inr (.inr h))
    | gt => exact Std.OrientedCmp.gt_of_lt (hless (.inr h))

namespace Coherent

theorem notGreater_iff (h : Coherent r) : NotGreater r a b ↔ ∃ o, r a b o ∧ o ≠ .gt := by
  constructor
  · rintro ((hr | hr) | hr | hr)
    · exact ⟨.lt, hr, nofun⟩
    · exact ⟨.lt, h.swap hr, nofun⟩
    · exact ⟨.eq, hr, nofun⟩
    · exact ⟨.eq, h.swap hr, nofun⟩
  · rintro ⟨o, hr, ho⟩
    cases o with
    | lt => exact .inl (.inl hr)
    | eq => exact .inr (.inl hr)
    | gt => exact (ho rfl).elim

/-- A coherent comparison that is never of two minds leads nowhere in two steps that it does not lead
in one. -/
theorem eq_or_of_reachable (h : Coherent r) (hab : ReflTransGen (NotGreater r) a b) :
    b = a ∨ ∃ o, r a b o ∧ o ≠ .gt := by
  induction hab with
  | refl => exact .inl rfl
  | tail _ hbc ih =>
    obtain ⟨o', hbc, ho'⟩ := h.notGreater_iff.1 hbc
    rcases ih with rfl | ⟨o, hab, ho⟩
    · exact .inr ⟨o', hbc, ho'⟩
    · refine .inr ⟨o.then o', h.trans hab hbc ho ho', ?_⟩
      cases o with
      | lt => nofun
      | eq => exact ho'
      | gt => exact (ho rfl).elim

theorem consistent (h : Coherent r) (hr : ∀ a b o o', r a b o → r a b o' → o = o') :
    Consistent r := by
  refine consistent_iff.2 ?_
  rintro a b hless hback
  have hlt : r a b .lt := by
    rcases hless with hlt | hgt
    · exact hlt
    · exact h.swap hgt
  have hgt : r b a .gt := h.swap hlt
  rcases h.eq_or_of_reachable hback with rfl | ⟨o, hba, ho⟩
  · cases hr _ _ _ _ hlt hgt
  · exact ho (hr _ _ _ _ hba hgt)

end Coherent

/-- Two elements that are not compared may as well be in the one order as in the other. -/
theorem Coherent.consistent_insert (h : Coherent r)
    (hr : ∀ a b o o', r a b o → r a b o' → o = o') {i j : α} (hij : i ≠ j) (hno : ∀ o, ¬r i j o) :
    Consistent fun a b o => r a b o ∨ a = i ∧ b = j ∧ o = .lt := by
  generalize hr' : (fun a b o => r a b o ∨ a = i ∧ b = j ∧ o = .lt) = r'
  have hless {a b : α} (hab : Less r' a b) : Less r a b ∨ a = i ∧ b = j := by
    subst hr'
    rcases hab with (hab | ⟨rfl, rfl, -⟩) | hab | ⟨-, -, ⟨⟩⟩
    · exact .inl (.inl hab)
    · exact .inr ⟨rfl, rfl⟩
    · exact .inl (.inr hab)
  have hstep {a b : α} (hab : NotGreater r' a b) : NotGreater r a b ∨ a = i ∧ b = j := by
    rcases hab with hab | hab
    · exact (hless hab).imp .inl id
    · subst hr'
      rcases hab with (hab | ⟨-, -, ⟨⟩⟩) | hab | ⟨-, -, ⟨⟩⟩
      · exact .inl (.inr (.inl hab))
      · exact .inl (.inr (.inr hab))
  have hpath {a b : α} (hab : ReflTransGen (NotGreater r') a b) :
      ReflTransGen (NotGreater r) a b ∨
        ReflTransGen (NotGreater r) a i ∧ ReflTransGen (NotGreater r) j b := by
    induction hab with
    | refl => exact .inl .refl
    | tail _ hbc ih =>
      rcases hstep hbc with hbc | ⟨rfl, rfl⟩ <;> rcases ih with hab | ⟨hai, hjb⟩
      · exact .inl (hab.tail hbc)
      · exact .inr ⟨hai, hjb.tail hbc⟩
      · exact .inr ⟨hab, .refl⟩
      · exact .inr ⟨hai, .refl⟩
  have hapart : ¬ReflTransGen (NotGreater r) j i := by
    intro hji
    rcases h.eq_or_of_reachable hji with he | ⟨o, ho, -⟩
    · exact hij he
    · exact hno o.swap (h.swap ho)
  refine consistent_iff.2 fun a b hab hback => ?_
  rcases hless hab with hab | ⟨rfl, rfl⟩ <;> rcases hpath hback with hba | ⟨hbi, hja⟩
  · exact consistent_iff.1 (h.consistent hr) a b hab hba
  · exact hapart ((hja.tail (.inl hab)).trans hbi)
  · exact hapart hba
  · exact hapart hbi

end Extension

section Keys

variable {n : Nat} {ε : Type}

theorem exists_key_of_transCmp (cmp : Fin n → Fin n → Ordering) [Std.TransCmp cmp] :
    ∃ key : Fin n → Nat, ∀ i j, compare (key i) (key j) = cmp i j := by
  classical
  let key (i : Fin n) : Nat := (Finset.univ.filter fun k => cmp k i = .lt).card
  have hlt {i j : Fin n} (hij : cmp i j = .lt) : key i < key j := by
    refine Finset.card_lt_card ((Finset.ssubset_iff_of_subset ?_).2 ⟨i, ?_, ?_⟩)
    · intro k hk
      have hk' := (Finset.mem_filter.1 hk).2
      exact Finset.mem_filter.2 ⟨Finset.mem_univ k, Std.TransCmp.lt_trans hk' hij⟩
    · exact Finset.mem_filter.2 ⟨Finset.mem_univ i, hij⟩
    · intro hi
      have hself : cmp i i = .eq := Std.ReflCmp.compare_self
      cases hself.symm.trans (Finset.mem_filter.1 hi).2
  refine ⟨key, fun i j => ?_⟩
  cases hij : cmp i j with
  | lt => exact Nat.compare_eq_lt.2 (hlt hij)
  | eq =>
    refine Nat.compare_eq_eq.2 (congrArg Finset.card (Finset.filter_congr fun k _ => ?_))
    rw [Std.TransCmp.congr_right hij]
  | gt => exact Nat.compare_eq_gt.2 (hlt (Std.OrientedCmp.lt_of_gt hij))

theorem Consistent.exists_key {r : Fin n → Fin n → Ordering → Prop} (h : Consistent r) :
    ∃ key : Fin n → Nat, ∀ i j o, r i j o → compare (key i) (key j) = o := by
  obtain ⟨cmp, _, hcmp⟩ := h
  obtain ⟨key, hkey⟩ := exists_key_of_transCmp cmp
  exact ⟨key, fun i j o ho => (hkey i j).trans (hcmp i j o ho)⟩

end Keys

end RecordQuery
