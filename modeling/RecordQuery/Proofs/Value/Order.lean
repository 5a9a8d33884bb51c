import RecordQuery.Value.Compare

namespace RecordQuery

variable {α β : Type} {r s : α → α → Ordering → Prop}

/-- The relation holds of two elements and the answer that their comparison gives, if any. -/
structure Coherent (r : α → α → Ordering → Prop) : Prop where
  swap : ∀ {a b o}, r a b o → r b a o.swap
  trans : ∀ {a b c o o'}, r a b o → r b c o' → o ≠ .gt → o' ≠ .gt → r a c (o.then o')

namespace Coherent

theorem swap_iff (h : Coherent r) {a b : α} {o : Ordering} : r a b o ↔ r b a o.swap := by
  constructor
  · exact h.swap
  · intro hr
    have hs := h.swap hr
    rwa [Ordering.swap_swap] at hs

theorem congr_left (h : Coherent r) {a b c : α} {o : Ordering} (he : r a b .eq) :
    r a c o ↔ r b c o := by
  have hforward {a b : α} (he : r a b .eq) (hr : r b c o) : r a c o := by
    cases o with
    | gt =>
      have hcb : r c b .lt := h.swap hr
      have hba : r b a .eq := h.swap he
      exact h.swap (h.trans hcb hba nofun nofun)
    | _ => exact h.trans he hr nofun nofun
  constructor
  · exact hforward (h.swap he)
  · exact hforward he

theorem congr_right (h : Coherent r) {a b c : α} {o : Ordering} (he : r a b .eq) :
    r c a o ↔ r c b o := by
  rw [h.swap_iff, h.congr_left he, ← h.swap_iff]

theorem of_transCmp (cmp : α → α → Ordering) [Std.TransCmp cmp] :
    Coherent fun a b o => cmp a b = o where
  swap := by
    rintro a b o rfl
    exact Std.OrientedCmp.eq_swap
  trans := by
    rintro a b c o o' rfl rfl ho ho'
    have hab : (cmp a b).isLE = true := Ordering.isLE_iff_ne_gt.2 ho
    have hbc : (cmp b c).isLE = true := Ordering.isLE_iff_ne_gt.2 ho'
    cases h : cmp a b with
    | lt => exact Std.TransCmp.lt_of_lt_of_isLE h hbc
    | gt => exact (ho h).elim
    | eq =>
      cases h' : cmp b c with
      | lt => exact Std.TransCmp.lt_of_isLE_of_lt hab h'
      | gt => exact (ho' h').elim
      | eq => exact Std.TransCmp.eq_trans h h'

theorem comap {r : β → β → Ordering → Prop} (h : Coherent r) (f : α → Option β) :
    Coherent fun a b o => ∃ x y, f a = some x ∧ f b = some y ∧ r x y o where
  swap := by
    rintro a b o ⟨x, y, hx, hy, hr⟩
    exact ⟨y, x, hy, hx, h.swap hr⟩
  trans := by
    rintro a b c o o' ⟨x, y, hx, hy, hr⟩ ⟨y', z, hy', hz, hr'⟩ ho ho'
    cases hy.symm.trans hy'
    exact ⟨x, z, hx, hz, h.trans hr hr' ho ho'⟩

theorem reverse (h : Coherent r) : Coherent fun a b o => r a b o.swap where
  swap hr := h.swap hr
  trans := by
    intro a b c o o' hr hr' ho ho'
    have hba : r b a o := h.swap_iff.2 hr
    have hcb : r c b o' := h.swap_iff.2 hr'
    have hac := h.swap (h.trans hcb hba ho' ho)
    have hcomm : o'.then o = o.then o' := by
      cases o <;> cases o' <;> first | rfl | contradiction
    rwa [hcomm] at hac

theorem lex (hr : Coherent r) (hs : Coherent s) :
    Coherent fun a b o => r a b o ∧ o ≠ .eq ∨ r a b .eq ∧ s a b o where
  swap := by
    rintro a b o (⟨h, ho⟩ | ⟨h, h'⟩)
    · refine .inl ⟨hr.swap h, ?_⟩
      cases o <;> first | contradiction | nofun
    · exact .inr ⟨hr.swap h, hs.swap h'⟩
  trans := by
    intro a b c o o' h h' hgt hgt'
    rcases h with ⟨hab, ho⟩ | ⟨hab, hab'⟩
    · have hlt : o = .lt := by cases o <;> trivial
      subst hlt
      rcases h' with ⟨hbc, -⟩ | ⟨hbc, -⟩
      · exact .inl ⟨hr.trans hab hbc hgt hgt', nofun⟩
      · have hac : r a c (Ordering.lt.then .eq) := hr.trans hab hbc hgt nofun
        exact .inl ⟨hac, nofun⟩
    · rcases h' with ⟨hbc, ho'⟩ | ⟨hbc, hbc'⟩
      · have hlt : o' = .lt := by cases o' <;> trivial
        subst hlt
        have hthen : o.then .lt = .lt := by cases o <;> trivial
        rw [hthen]
        exact .inl ⟨hr.trans hab hbc nofun hgt', nofun⟩
      · exact .inr ⟨hr.trans hab hbc nofun nofun, hs.trans hab' hbc' hgt hgt'⟩

end Coherent

namespace Value

/-- Values of one kind compare like the numbers, truth values or texts they stand for. -/
theorem order_coherent : Coherent fun x y o => order? x y = some o where
  swap := by
    intro x y o h
    cases x <;> cases y <;> cases h
    all_goals exact congrArg some ((Coherent.of_transCmp Ord.compare).swap rfl)
  trans := by
    intro x y z o o' h h' ho ho'
    cases x <;> cases y <;> cases h <;> cases z <;> cases h'
    all_goals exact congrArg some ((Coherent.of_transCmp Ord.compare).trans rfl rfl ho ho')

theorem compare_eq_ok {identifier n m : String} {x y : Value} {o : Ordering} :
    compare identifier x n y m = .ok o ↔ order? x y = some o := by
  constructor
  · intro h
    rw [compare] at h
    split at h
    · cases h
    · split at h
      · cases h
      · split at h
        · next ho =>
          cases h
          exact ho
        · cases h
  · intro h
    have hx : x.isForeign = false := by cases x <;> first | rfl | cases h
    have hy : y.isForeign = false := by cases x <;> cases y <;> first | rfl | cases h
    simp [compare, hx, hy, h]

end Value

end RecordQuery
