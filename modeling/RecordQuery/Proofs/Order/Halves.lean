import RecordQuery.Order.Routine
import RecordQuery.Proofs.Order.Questions
import RecordQuery.Proofs.Order.Stability

namespace RecordQuery.Routine

open Asking

variable {α ε : Type} {cmp : α → α → Except ε Ordering} {key : α → Nat} {x : α}
  {xs ys zs sorted : List α}

section Insertion

theorem insertLast_yields (h : Ranks cmp key) (hx : x ∉ ys) (hys : Descends key ys) :
    (insertLast x ys).Yields cmp fun zs => StablePerm key zs (x :: ys) ∧ Descends key zs := by
  induction ys with
  | nil => exact .pure ⟨.refl _, List.pairwise_singleton _ x⟩
  | cons y ys ih =>
    obtain ⟨hy, hys⟩ := List.pairwise_cons.1 hys
    obtain ⟨hxy, hx⟩ := List.ne_and_not_mem_of_not_mem_cons hx
    refine h.branch hxy ?_ ?_
    · intro hlt
      refine (ih hx hys).bind fun zs hzs => .pure ⟨?_, ?_⟩
      · exact (hzs.1.cons y).trans (.swap (Nat.ne_of_gt hlt) ys)
      · refine List.pairwise_cons.2 ⟨?_, hzs.2⟩
        intro z hz
        rcases List.mem_cons.1 (hzs.1.mem_iff.1 hz) with rfl | hz
        · exact Nat.le_of_lt hlt
        · exact hy z hz
    · intro hle
      refine .pure ⟨.refl _, List.pairwise_cons.2 ⟨?_, List.pairwise_cons.2 ⟨hy, hys⟩⟩⟩
      intro z hz
      rcases List.mem_cons.1 hz with rfl | hz
      · exact hle
      · exact Nat.le_trans (hy z hz) hle

theorem insertAll_yields (h : Ranks cmp key) (hd : (sorted ++ xs).Nodup)
    (hsorted : Descends key sorted) :
    (insertAll sorted xs).Yields cmp fun zs =>
      StablePerm key zs (xs.reverse ++ sorted) ∧ Descends key zs := by
  induction xs generalizing sorted with
  | nil => exact .pure ⟨.refl _, hsorted⟩
  | cons x xs ih =>
    have hmiddle : (x :: (sorted ++ xs)).Nodup := List.perm_middle.nodup_iff.1 hd
    have hx : x ∉ sorted := fun hmem =>
      (List.nodup_cons.1 hmiddle).1 (List.mem_append_left xs hmem)
    refine (insertLast_yields h hx hsorted).bind fun more hmore => ?_
    have hd' : (more ++ xs).Nodup := (hmore.1.append_right xs).nodup_iff.2 hmiddle
    refine (ih hd' hmore.2).imp fun zs hzs => ⟨hzs.1.trans ?_, hzs.2⟩
    rw [List.reverse_cons, List.append_assoc]
    exact hmore.1.append_left xs.reverse

theorem extendSorted_yields (h : Ranks cmp key) (hd : (sorted ++ xs).Nodup)
    (hsorted : Ascends key sorted) :
    (extendSorted sorted xs).Yields cmp (Sorts key (sorted ++ xs)) := by
  have hback : Descends key sorted.reverse := List.pairwise_reverse.2 hsorted
  have hd' : (sorted.reverse ++ xs).Nodup :=
    ((List.reverse_perm sorted).append_right xs).nodup_iff.2 hd
  refine (insertAll_yields h hd' hback).bind fun zs hzs => .pure ⟨?_, List.pairwise_reverse.2 hzs.2⟩
  have hzs' := hzs.1.reverse
  rwa [List.reverse_append, List.reverse_reverse, List.reverse_reverse] at hzs'

end Insertion

section Pairs

variable {a b c d w y z : α}

theorem ascends_four (hwx : key w ≤ key x) (hxy : key x ≤ key y) (hyz : key y ≤ key z) :
    Ascends key [w, x, y, z] := by
  have hwy := Nat.le_trans hwx hxy
  have hxz := Nat.le_trans hxy hyz
  have hwz := Nat.le_trans hwy hyz
  simp [Ascends, hwx, hxy, hyz, hwy, hxz, hwz]

theorem sortTwo_yields (h : Ranks cmp key) (hd : [a, b].Nodup) :
    (sortTwo a b).Yields cmp fun p => StablePerm key [p.1, p.2] [a, b] ∧ key p.1 ≤ key p.2 := by
  have hba : b ≠ a := fun he => (List.nodup_cons.1 hd).1 (he ▸ List.mem_cons_self)
  refine h.branch hba ?_ ?_
  · intro hlt
    exact .pure ⟨.swap (Nat.ne_of_lt hlt) [], Nat.le_of_lt hlt⟩
  · intro hle
    exact .pure ⟨.refl _, hle⟩

theorem mergeTwos_yields (h : Ranks cmp key) (hd : [a, b, c, d].Nodup) (hab : key a ≤ key b)
    (hcd : key c ≤ key d) : (mergeTwos a b c d).Yields cmp (Sorts key [a, b, c, d]) := by
  simp only [List.nodup_cons, List.mem_cons, List.not_mem_nil, or_false, not_or] at hd
  obtain ⟨⟨hab', hac, had⟩, ⟨hbc, hbd⟩, hcd', -⟩ := hd
  refine (h.less fun _ _ => Ne.symm hac).bind fun swapLeast hleast => ?_
  refine (h.less fun _ _ => Ne.symm hbd).bind fun swapGreatest hgreatest => ?_
  cases swapLeast <;> cases swapGreatest
  all_goals
    simp only [Bool.false_eq_true, false_iff, true_iff, Nat.not_lt, if_true, if_false]
      at hleast hgreatest ⊢
    refine h.branch ?_ (fun hlt => .pure ⟨fun k => ?_, ascends_four ?_ ?_ ?_⟩)
      (fun hle => .pure ⟨fun k => ?_, ascends_four ?_ ?_ ?_⟩)
    all_goals first | omega | grind

theorem sortFour_yields (h : Ranks cmp key) (hd : [a, b, c, d].Nodup) :
    (sortFour a b c d).Yields cmp (Sorts key [a, b, c, d]) := by
  have happend : ([a, b] ++ [c, d]).Nodup := hd
  obtain ⟨hab, hcd, -⟩ := List.nodup_append.1 happend
  refine (sortTwo_yields h hab).bind fun first hfirst => ?_
  refine (sortTwo_yields h hcd).bind fun second hsecond => ?_
  have hboth : StablePerm key [first.1, first.2, second.1, second.2] [a, b, c, d] :=
    hfirst.1.append hsecond.1
  refine (mergeTwos_yields h (hboth.nodup_iff.2 hd) hfirst.2 hsecond.2).imp fun zs hzs => ?_
  exact ⟨hzs.1.trans hboth, hzs.2⟩

end Pairs

section Ends

variable {left right front back l₁ l₂ r₁ r₂ l₁' l₂' r₁' r₂' : List α} {y : α} {e : Ends α}

/-- Two lists are each cut in two so that their merge has the first parts before the second ones. -/
structure Cut (key : α → Nat) (l₁ l₂ r₁ r₂ : List α) : Prop where
  left : ∀ x ∈ l₁, ∀ y ∈ r₂, key x ≤ key y
  right : ∀ y ∈ r₁, ∀ x ∈ l₂, key y < key x

namespace Cut

theorem concat_left_iff :
    Cut key (l₁ ++ [x]) l₂ r₁ r₂ ↔ Cut key l₁ l₂ r₁ r₂ ∧ ∀ y ∈ r₂, key x ≤ key y := by
  constructor
  · intro h
    exact ⟨⟨fun z hz => h.left z (List.mem_append_left _ hz), h.right⟩,
      h.left x List.mem_concat_self⟩
  · rintro ⟨h, hx⟩
    refine ⟨fun z hz => ?_, h.right⟩
    rcases List.mem_append.1 hz with hz | hz
    · exact h.left z hz
    · cases List.mem_singleton.1 hz
      exact hx

theorem cons_left_iff :
    Cut key l₁ (x :: l₂) r₁ r₂ ↔ Cut key l₁ l₂ r₁ r₂ ∧ ∀ y ∈ r₁, key y < key x := by
  constructor
  · intro h
    exact ⟨⟨h.left, fun y hy => (List.forall_mem_cons.1 (h.right y hy)).2⟩,
      fun y hy => (List.forall_mem_cons.1 (h.right y hy)).1⟩
  · rintro ⟨h, hx⟩
    exact ⟨h.left, fun y hy => List.forall_mem_cons.2 ⟨hx y hy, h.right y hy⟩⟩

theorem concat_right_iff :
    Cut key l₁ l₂ (r₁ ++ [y]) r₂ ↔ Cut key l₁ l₂ r₁ r₂ ∧ ∀ x ∈ l₂, key y < key x := by
  constructor
  · intro h
    exact ⟨⟨h.left, fun z hz => h.right z (List.mem_append_left _ hz)⟩,
      h.right y List.mem_concat_self⟩
  · rintro ⟨h, hy⟩
    refine ⟨h.left, fun z hz => ?_⟩
    rcases List.mem_append.1 hz with hz | hz
    · exact h.right z hz
    · cases List.mem_singleton.1 hz
      exact hy

theorem cons_right_iff :
    Cut key l₁ l₂ r₁ (y :: r₂) ↔ Cut key l₁ l₂ r₁ r₂ ∧ ∀ x ∈ l₁, key x ≤ key y := by
  constructor
  · intro h
    exact ⟨⟨fun x hx => (List.forall_mem_cons.1 (h.left x hx)).2, h.right⟩,
      fun x hx => (List.forall_mem_cons.1 (h.left x hx)).1⟩
  · rintro ⟨h, hy⟩
    exact ⟨fun x hx => List.forall_mem_cons.2 ⟨hy x hx, h.left x hx⟩, h.right⟩

theorem nested (h : Cut key l₁ l₂ r₁ r₂) (h' : Cut key l₁' l₂' r₁' r₂')
    (hl : l₁' ++ l₂' = l₁ ++ l₂) (hr : r₁' ++ r₂' = r₁ ++ r₂)
    (hcount : l₁.length + r₁.length ≤ l₁'.length + r₁'.length) :
    (∃ m, l₁' = l₁ ++ m ∧ l₂ = m ++ l₂') ∧ ∃ m, r₁' = r₁ ++ m ∧ r₂ = m ++ r₂' := by
  -- If the cuts lie the other way round in one list, two elements between them, one of each list,
  -- are merged in both orders.
  rcases List.append_eq_append_iff.1 hl with ⟨m, rfl, rfl⟩ | ⟨m, rfl, rfl⟩ <;>
    rcases List.append_eq_append_iff.1 hr with ⟨n, rfl, rfl⟩ | ⟨n, rfl, rfl⟩ <;>
      simp only [List.length_append] at hcount
  · obtain rfl : m = [] := List.length_eq_zero_iff.1 (by omega)
    obtain rfl : n = [] := List.length_eq_zero_iff.1 (by omega)
    exact ⟨⟨[], by simp⟩, [], by simp⟩
  · cases m with
    | nil => exact ⟨⟨[], by simp⟩, n, rfl, rfl⟩
    | cons x m =>
      cases n with
      | nil =>
        simp only [List.length_cons, List.length_nil] at hcount
        omega
      | cons y n =>
        have hle : key x ≤ key y := h.left x (by simp) y (by simp)
        have hlt : key y < key x := h'.right y (by simp) x (by simp)
        omega
  · cases n with
    | nil => exact ⟨⟨m, rfl, rfl⟩, [], by simp⟩
    | cons y n =>
      cases m with
      | nil =>
        simp only [List.length_cons, List.length_nil] at hcount
        omega
      | cons x m =>
        have hlt : key y < key x := h.right y (by simp) x (by simp)
        have hle : key x ≤ key y := h'.left x (by simp) y (by simp)
        omega
  · exact ⟨⟨m, rfl, rfl⟩, n, rfl, rfl⟩

theorem le (h : Cut key l₁ l₂ r₁ r₂) (hl : Ascends key (l₁ ++ l₂)) (hr : Ascends key (r₁ ++ r₂)) :
    ∀ x ∈ l₁ ++ r₁, ∀ y ∈ l₂ ++ r₂, key x ≤ key y := by
  obtain ⟨-, -, hl⟩ := List.pairwise_append.1 hl
  obtain ⟨-, -, hr⟩ := List.pairwise_append.1 hr
  intro x hx y hy
  rcases List.mem_append.1 hx with hx | hx <;> rcases List.mem_append.1 hy with hy | hy
  · exact hl x hx y hy
  · exact h.left x hx y hy
  · exact Nat.le_of_lt (h.right x hx y hy)
  · exact hr x hx y hy

section Between

variable {m n : List α}

/-- What one cut takes in front, another one at the back and neither of them in between is all there
is, and elements of one key stay as they stood. -/
theorem stablePerm_between (h : Cut key l₁ (m ++ l₂) r₁ (n ++ r₂))
    (h' : Cut key (l₁ ++ m) l₂ (r₁ ++ n) r₂) (hf : StablePerm key front (l₁ ++ r₁))
    (hb : StablePerm key back (l₂ ++ r₂)) :
    StablePerm key (front ++ (m ++ n) ++ back) (l₁ ++ (m ++ l₂) ++ (r₁ ++ (n ++ r₂))) := by
  have hlast : StablePerm key (n ++ l₂) (l₂ ++ n) := .append_comm fun y hy x hx =>
    Nat.ne_of_lt (h'.right y (List.mem_append_right r₁ hy) x hx)
  have hfirst : StablePerm key (r₁ ++ (m ++ l₂)) (m ++ l₂ ++ r₁) := .append_comm fun y hy x hx =>
    Nat.ne_of_lt (h.right y hy x hx)
  have htaken := (hf.append_right (m ++ n)).append hb
  have hlastAll := (hlast.append_left (l₁ ++ r₁ ++ m)).append_right r₂
  have hfirstAll := (hfirst.append_left l₁).append_right (n ++ r₂)
  simp only [List.append_assoc] at htaken hlastAll hfirstAll ⊢
  exact htaken.trans (hlastAll.trans hfirstAll)

theorem ascends_between (h : Cut key l₁ (m ++ l₂) r₁ (n ++ r₂))
    (h' : Cut key (l₁ ++ m) l₂ (r₁ ++ n) r₂) (hl : Ascends key (l₁ ++ (m ++ l₂)))
    (hr : Ascends key (r₁ ++ (n ++ r₂)))
    (hf : StablePerm key front (l₁ ++ r₁)) (hb : StablePerm key back (l₂ ++ r₂))
    (hfront : Ascends key front) (hbetween : Ascends key (m ++ n)) (hback : Ascends key back) :
    Ascends key (front ++ (m ++ n) ++ back) := by
  have hafter : ∀ x ∈ front, ∀ y ∈ m ++ n ++ back, key x ≤ key y := by
    intro x hx y hy
    apply h.le hl hr x (hf.mem_iff.1 hx) y
    simp only [List.mem_append, hb.mem_iff] at hy ⊢
    grind
  have hbefore : ∀ x ∈ m ++ n, ∀ y ∈ back, key x ≤ key y := by
    intro x hx y hy
    rw [← List.append_assoc] at hl hr
    refine h'.le hl hr x ?_ y (hb.mem_iff.1 hy)
    simp only [List.mem_append] at hx ⊢
    grind
  rw [List.append_assoc]
  apply List.pairwise_append.2
  exact ⟨hfront, List.pairwise_append.2 ⟨hbetween, hback, hbefore⟩, hafter⟩

end Between

end Cut

/-- What the front has taken, and what it has left of the two lists. -/
structure Front (key : α → Nat) (left right front l₂ r₂ : List α) : Prop where
  cut : ∃ l₁ r₁, l₁ ++ l₂ = left ∧ r₁ ++ r₂ = right ∧ Cut key l₁ l₂ r₁ r₂ ∧
    StablePerm key front.reverse (l₁ ++ r₁)
  sorted : Descends key front

structure Back (key : α → Nat) (left right back l₁ r₁ : List α) : Prop where
  cut : ∃ l₂ r₂, l₁.reverse ++ l₂ = left ∧ r₁.reverse ++ r₂ = right ∧
    Cut key l₁.reverse l₂ r₁.reverse r₂ ∧ StablePerm key back (l₂ ++ r₂)
  sorted : Ascends key back

theorem Front.takeLeft {xs : List α} (hl : Ascends key left) (hr : Ascends key right)
    (h : Front key left right front (x :: xs) (y :: ys)) (hle : key x ≤ key y) :
    Front key left right (x :: front) xs (y :: ys) := by
  obtain ⟨⟨l₁, r₁, rfl, rfl, hcut, hperm⟩, hsorted⟩ := h
  have hbefore : ∀ z ∈ front, key z ≤ key x := fun z hz =>
    hcut.le hl hr z (hperm.mem_iff.1 (List.mem_reverse.2 hz)) x (by simp)
  have hafter : ∀ z ∈ y :: ys, key x ≤ key z := by
    obtain ⟨-, hr, -⟩ := List.pairwise_append.1 hr
    exact List.forall_mem_cons.2 ⟨hle, fun z hz => Nat.le_trans hle (List.rel_of_pairwise_cons hr hz)⟩
  obtain ⟨hcut, hbelow⟩ := Cut.cons_left_iff.1 hcut
  refine ⟨⟨l₁ ++ [x], r₁, by simp, rfl, Cut.concat_left_iff.2 ⟨hcut, hafter⟩, ?_⟩, ?_⟩
  · rw [List.reverse_cons, List.append_assoc]
    refine (hperm.append_right [x]).trans ?_
    rw [List.append_assoc]
    refine .append_left l₁ (.append_comm fun z hz w hw => ?_)
    cases List.mem_singleton.1 hw
    exact Nat.ne_of_lt (hbelow z hz)
  · exact List.pairwise_cons.2 ⟨hbefore, hsorted⟩

theorem Front.takeRight (hl : Ascends key left) (hr : Ascends key right)
    (h : Front key left right front (x :: xs) (y :: ys)) (hlt : key y < key x) :
    Front key left right (y :: front) (x :: xs) ys := by
  obtain ⟨⟨l₁, r₁, rfl, rfl, hcut, hperm⟩, hsorted⟩ := h
  have hbefore : ∀ z ∈ front, key z ≤ key y := fun z hz =>
    hcut.le hl hr z (hperm.mem_iff.1 (List.mem_reverse.2 hz)) y (by simp)
  have hafter : ∀ z ∈ x :: xs, key y < key z := by
    obtain ⟨-, hl, -⟩ := List.pairwise_append.1 hl
    refine List.forall_mem_cons.2 ⟨hlt, fun z hz => ?_⟩
    exact Nat.lt_of_lt_of_le hlt (List.rel_of_pairwise_cons hl hz)
  obtain ⟨hcut, -⟩ := Cut.cons_right_iff.1 hcut
  refine ⟨⟨l₁, r₁ ++ [y], rfl, by simp, Cut.concat_right_iff.2 ⟨hcut, hafter⟩, ?_⟩, ?_⟩
  · rw [List.reverse_cons, ← List.append_assoc]
    exact hperm.append_right [y]
  · exact List.pairwise_cons.2 ⟨hbefore, hsorted⟩

theorem Back.takeLeft (hl : Ascends key left) (hr : Ascends key right)
    (h : Back key left right back (x :: xs) (y :: ys)) (hlt : key y < key x) :
    Back key left right (x :: back) xs (y :: ys) := by
  obtain ⟨⟨l₂, r₂, rfl, rfl, hcut, hperm⟩, hsorted⟩ := h
  have hafter : ∀ z ∈ back, key x ≤ key z := fun z hz =>
    hcut.le hl hr x (by simp) z (hperm.mem_iff.1 hz)
  have hbefore : ∀ z ∈ (y :: ys).reverse, key z < key x := by
    obtain ⟨hr, -⟩ := List.pairwise_append.1 hr
    intro z hz
    rcases List.mem_cons.1 (List.mem_reverse.1 hz) with rfl | hz
    · exact hlt
    · exact Nat.lt_of_le_of_lt (List.rel_of_pairwise_cons (List.pairwise_reverse.1 hr) hz) hlt
  rw [List.reverse_cons] at hcut
  obtain ⟨hcut, -⟩ := Cut.concat_left_iff.1 hcut
  refine ⟨⟨x :: l₂, r₂, by simp, rfl, Cut.cons_left_iff.2 ⟨hcut, hbefore⟩, hperm.cons x⟩, ?_⟩
  exact List.pairwise_cons.2 ⟨hafter, hsorted⟩

theorem Back.takeRight (hl : Ascends key left) (hr : Ascends key right)
    (h : Back key left right back (x :: xs) (y :: ys)) (hle : key x ≤ key y) :
    Back key left right (y :: back) (x :: xs) ys := by
  obtain ⟨⟨l₂, r₂, rfl, rfl, hcut, hperm⟩, hsorted⟩ := h
  have hafter : ∀ z ∈ back, key y ≤ key z := fun z hz =>
    hcut.le hl hr y (by simp) z (hperm.mem_iff.1 hz)
  have hbefore : ∀ z ∈ (x :: xs).reverse, key z ≤ key y := by
    obtain ⟨hl, -⟩ := List.pairwise_append.1 hl
    intro z hz
    rcases List.mem_cons.1 (List.mem_reverse.1 hz) with rfl | hz
    · exact hle
    · exact Nat.le_trans (List.rel_of_pairwise_cons (List.pairwise_reverse.1 hl) hz) hle
  rw [List.reverse_cons (a := y)] at hcut
  obtain ⟨hcut, habove⟩ := Cut.concat_right_iff.1 hcut
  refine ⟨⟨l₂, y :: r₂, rfl, by simp, Cut.cons_right_iff.2 ⟨hcut, hbefore⟩, ?_⟩, ?_⟩
  · exact (hperm.cons y).trans (.middle fun z hz => Nat.ne_of_lt (habove z hz))
  · exact List.pairwise_cons.2 ⟨hafter, hsorted⟩

theorem Front.length (h : Front key left right front l₂ r₂) :
    l₂.length ≤ left.length ∧ r₂.length ≤ right.length ∧
      front.length + l₂.length + r₂.length = left.length + right.length := by
  obtain ⟨⟨l₁, r₁, rfl, rfl, -, hperm⟩, -⟩ := h
  have hfront := hperm.length_eq
  simp only [List.length_append, List.length_reverse] at hfront ⊢
  omega

theorem Back.length (h : Back key left right back l₁ r₁) :
    l₁.length ≤ left.length ∧ r₁.length ≤ right.length ∧
      back.length + l₁.length + r₁.length = left.length + right.length := by
  obtain ⟨⟨l₂, r₂, rfl, rfl, -, hperm⟩, -⟩ := h
  have hback := hperm.length_eq
  simp only [List.length_append, List.length_reverse] at hback ⊢
  omega

theorem Front.ne (hd : (left ++ right).Nodup)
    (h : Front key left right front (x :: xs) (y :: ys)) : y ≠ x := by
  obtain ⟨⟨l₁, r₁, rfl, rfl, -, -⟩, -⟩ := h
  exact ((List.nodup_append.1 hd).2.2 x (by simp) y (by simp)).symm

theorem Back.ne (hd : (left ++ right).Nodup)
    (h : Back key left right back (x :: xs) (y :: ys)) : y ≠ x := by
  obtain ⟨⟨l₂, r₂, rfl, rfl, -, -⟩, -⟩ := h
  exact ((List.nodup_append.1 hd).2.2 x (by simp) y (by simp)).symm

structure Meeting (key : α → Nat) (left right : List α) (steps : Nat) (e : Ends α) : Prop where
  front : Front key left right e.front e.left e.right
  back : Back key left right e.back e.leftBack e.rightBack
  frontSteps : e.front.length = steps
  backSteps : e.back.length = steps

theorem Meeting.start (left right : List α) : Meeting key left right 0 (Ends.start left right) where
  front := ⟨⟨[], [], rfl, rfl, ⟨nofun, nofun⟩, .refl _⟩, .nil⟩
  back := by
    refine ⟨⟨[], [], ?_, ?_, ⟨?_, ?_⟩, .refl _⟩, .nil⟩
    · simp [Ends.start]
    · simp [Ends.start]
    · nofun
    · nofun
  frontSteps := rfl
  backSteps := rfl

theorem takeFront_yields (h : Ranks cmp key) (hd : (left ++ right).Nodup)
    (hl : Ascends key left) (hr : Ascends key right) (hlr : left.length ≤ right.length)
    (hf : Front key left right e.front e.left e.right) (hsteps : e.front.length < left.length) :
    e.takeFront.Yields cmp fun e' => Front key left right e'.front e'.left e'.right ∧
      e'.front.length = e.front.length + 1 ∧
      e'.back = e.back ∧ e'.leftBack = e.leftBack ∧ e'.rightBack = e.rightBack := by
  obtain ⟨front, l₂, r₂, back, leftBack, rightBack⟩ := e
  have hlength := hf.length
  cases l₂ with
  | nil =>
    simp only [List.length_nil] at hlength hsteps
    omega
  | cons x xs =>
    cases r₂ with
    | nil =>
    simp only [List.length_nil] at hlength hsteps
    omega
    | cons y ys =>
      refine h.branch (hf.ne hd) ?_ ?_
      · intro hlt
        exact .pure ⟨hf.takeRight hl hr hlt, rfl, rfl, rfl, rfl⟩
      · intro hle
        exact .pure ⟨hf.takeLeft hl hr hle, rfl, rfl, rfl, rfl⟩

theorem takeBack_yields (h : Ranks cmp key) (hd : (left ++ right).Nodup)
    (hl : Ascends key left) (hr : Ascends key right) (hlr : left.length ≤ right.length)
    (hb : Back key left right e.back e.leftBack e.rightBack) (hsteps : e.back.length < left.length) :
    e.takeBack.Yields cmp fun e' => Back key left right e'.back e'.leftBack e'.rightBack ∧
      e'.back.length = e.back.length + 1 ∧
      e'.front = e.front ∧ e'.left = e.left ∧ e'.right = e.right := by
  obtain ⟨front, l₂, r₂, back, leftBack, rightBack⟩ := e
  have hlength := hb.length
  cases leftBack with
  | nil =>
    simp only [List.length_nil] at hlength hsteps
    omega
  | cons x xs =>
    cases rightBack with
    | nil =>
    simp only [List.length_nil] at hlength hsteps
    omega
    | cons y ys =>
      refine h.branch (hb.ne hd) ?_ ?_
      · intro hlt
        exact .pure ⟨hb.takeLeft hl hr hlt, rfl, rfl, rfl, rfl⟩
      · intro hle
        exact .pure ⟨hb.takeRight hl hr hle, rfl, rfl, rfl, rfl⟩

theorem advance_yields (h : Ranks cmp key) (hd : (left ++ right).Nodup)
    (hl : Ascends key left) (hr : Ascends key right) (hlr : left.length ≤ right.length)
    {taken : Nat} (steps : Nat) (he : Meeting key left right taken e) (hsteps : taken + steps ≤ left.length) :
    (e.advance steps).Yields cmp (Meeting key left right (taken + steps)) := by
  induction steps generalizing e taken with
  | zero => exact .pure he
  | succ steps ih =>
    have hfront : e.front.length < left.length := by
      rw [he.frontSteps]
      omega
    refine (takeFront_yields h hd hl hr hlr he.front hfront).bind fun e' he' => ?_
    obtain ⟨hf, hfsteps, hback, hleftBack, hrightBack⟩ := he'
    have hb : Back key left right e'.back e'.leftBack e'.rightBack := by
      rw [hback, hleftBack, hrightBack]
      exact he.back
    have hbsteps : e'.back.length < left.length := by
      rw [hback, he.backSteps]
      omega
    refine (takeBack_yields h hd hl hr hlr hb hbsteps).bind fun e'' he'' => ?_
    obtain ⟨hb', hbsteps', hfront', hleft, hright⟩ := he''
    have hmeeting : Meeting key left right (taken + 1) e'' := by
      refine ⟨?_, hb', ?_, ?_⟩
      · rw [hfront', hleft, hright]
        exact hf
      · rw [hfront', hfsteps, he.frontSteps]
      · rw [hbsteps', hback, he.backSteps]
    have hrest := ih hmeeting (by omega)
    rwa [Nat.add_right_comm, Nat.add_assoc] at hrest

theorem ascends_short (h : xs.length ≤ 1) : Ascends key xs := by
  match xs, h with
  | [], _ => exact .nil
  | [x], _ => exact List.pairwise_singleton _ x

/-- Ends that have taken all but at most one of the elements have not taken one twice. -/
theorem Meeting.close (hl : Ascends key left) (hr : Ascends key right)
    (hlr : left.length ≤ right.length) (hrl : right.length ≤ left.length + 1)
    (he : Meeting key left right left.length e) :
    ∃ zs, e.close? left.length right.length = some zs ∧ Sorts key (left ++ right) zs := by
  obtain ⟨front, left', right', back, leftBack, rightBack⟩ := e
  obtain ⟨hf, hb, hfsteps, hbsteps⟩ := he
  obtain ⟨⟨l₁, r₁, hleft, hright, hcut, htaken⟩, hfront⟩ := hf
  obtain ⟨⟨l₂, r₂, hleft', hright', hcut', htaken'⟩, hback⟩ := hb
  simp only at *
  have htotal := congrArg List.length hleft'
  have htotal' := congrArg List.length hright'
  have hlengths := htaken.length_eq
  have hlengths' := htaken'.length_eq
  simp only [List.length_append, List.length_reverse] at htotal htotal' hlengths hlengths'
  have hcount : l₁.length + r₁.length ≤ leftBack.reverse.length + rightBack.reverse.length := by
    rw [List.length_reverse, List.length_reverse]
    omega
  obtain ⟨⟨m, hm, rfl⟩, n, hn, rfl⟩ :=
    hcut.nested hcut' (hleft'.trans hleft.symm) (hright'.trans hright.symm) hcount
  have hmiddle := congrArg List.length hm
  have hmiddle' := congrArg List.length hn
  simp only [List.length_append, List.length_reverse] at *
  rw [hm, hn] at hcut'
  refine ⟨front.reverse ++ m ++ n ++ back, ?_, ?_⟩
  · have hleftover : m.length + l₂.length + leftBack.length - left.length = m.length := by omega
    have hrightover : n.length + r₂.length + rightBack.length - right.length = n.length := by omega
    simp only [Ends.close?, List.length_append, hleftover, hrightover, List.take_left]
    exact if_pos (by omega)
  · subst hleft hright
    rw [List.append_assoc front.reverse]
    have hbetween : Ascends key (m ++ n) := ascends_short (by rw [List.length_append]; omega)
    constructor
    · exact hcut.stablePerm_between hcut' htaken htaken'
    · exact hcut.ascends_between hcut' hl hr htaken htaken' (List.pairwise_reverse.2 hfront)
        hbetween hback

theorem mergeEnds_yields (h : Ranks cmp key) (hd : (left ++ right).Nodup)
    (hl : Ascends key left) (hr : Ascends key right) (hlr : left.length ≤ right.length)
    (hrl : right.length ≤ left.length + 1) :
    (mergeEnds left right).Yields cmp (Sorts key (left ++ right)) := by
  have hadvance := advance_yields h hd hl hr hlr left.length (.start left right)
    (Nat.le_of_eq (Nat.zero_add _))
  refine hadvance.bind fun e he => ?_
  rw [Nat.zero_add] at he
  obtain ⟨zs, hzs, hgood⟩ := he.close hl hr hlr hrl
  rw [hzs]
  exact .pure hgood

theorem presort_yields (h : Ranks cmp key) (large : Bool) (hall : xs.Nodup) :
    (presort large xs).Yields cmp fun p =>
      StablePerm key (p.1 ++ p.2) xs ∧ Ascends key p.1 := by
  unfold presort
  split
  · next a b c d rest =>
    have happend : ([a, b, c, d] ++ rest).Nodup := hall
    obtain ⟨hd, hdrest, -⟩ := List.nodup_append.1 happend
    refine (sortFour_yields h hd).bind fun first hfirst => ?_
    split
    · next a' b' c' d' rest =>
      have happend' : ([a', b', c', d'] ++ rest).Nodup := hdrest
      obtain ⟨hd', -, -⟩ := List.nodup_append.1 happend'
      refine (sortFour_yields h hd').bind fun second hsecond => ?_
      have hlength := hfirst.1.length_eq
      have hlength' := hsecond.1.length_eq
      simp only [List.length_cons, List.length_nil] at hlength hlength'
      have hboth := hfirst.1.append hsecond.1
      have hdboth : (first ++ second).Nodup := by
        apply hboth.nodup_iff.2
        exact hall.sublist (List.sublist_append_left ([a, b, c, d] ++ [a', b', c', d']) rest)
      refine (mergeEnds_yields h hdboth hfirst.2 hsecond.2 (by omega) (by omega)).bind ?_
      intro zs hzs
      exact .pure ⟨(hzs.1.trans hboth).append_right rest, hzs.2⟩
    · exact .pure ⟨hfirst.1.append_right _, hfirst.2⟩
  · exact .pure ⟨.refl _, .nil⟩

/-- The halves of a list, each sorted, are merged. -/
theorem mergeHalves_yields (h : Ranks cmp key) (hd : xs.Nodup) {half : Nat}
    (hhalf : half = xs.length / 2) (hl : Sorts key (xs.take half) l₁)
    (hr : Sorts key (xs.drop half) r₁) : (mergeEnds l₁ r₁).Yields cmp (Sorts key xs) := by
  have hlength := hl.1.length_eq
  have hlength' := hr.1.length_eq
  rw [List.length_take] at hlength
  rw [List.length_drop] at hlength'
  have hboth := hl.1.append hr.1
  rw [List.take_append_drop] at hboth
  have hmerge := mergeEnds_yields h (hboth.nodup_iff.2 hd) hl.2 hr.2 (by omega) (by omega)
  exact hmerge.imp fun zs hzs => ⟨hzs.1.trans hboth, hzs.2⟩

theorem sortHalves_yields (h : Ranks cmp key) (hd : xs.Nodup) :
    (sortHalves xs).Yields cmp (Sorts key xs) := by
  have hdl (half : Nat) : (xs.take half).Nodup := hd.sublist (List.take_sublist half xs)
  have hdr (half : Nat) : (xs.drop half).Nodup := hd.sublist (List.drop_sublist half xs)
  rw [sortHalves]
  split
  · refine (extendSorted_yields h (hdl _) .nil).bind fun l hl => ?_
    refine (extendSorted_yields h (hdr _) .nil).bind fun r hr => ?_
    exact mergeHalves_yields h hd rfl hl hr
  · refine (presort_yields h _ (hdl _)).bind fun left hleft => ?_
    refine (presort_yields h _ (hdr _)).bind fun right hright => ?_
    have hdleft := hleft.1.nodup_iff.2 (hdl _)
    have hdright := hright.1.nodup_iff.2 (hdr _)
    refine (extendSorted_yields h hdleft hleft.2).bind fun l hl => ?_
    refine (extendSorted_yields h hdright hright.2).bind fun r hr => ?_
    exact mergeHalves_yields h hd rfl ⟨hl.1.trans hleft.1, hl.2⟩ ⟨hr.1.trans hright.1, hr.2⟩

end Ends

end RecordQuery.Routine
