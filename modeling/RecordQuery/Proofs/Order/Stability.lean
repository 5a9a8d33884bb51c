import Mathlib.Data.List.Pairwise

namespace RecordQuery

variable {α : Type} {key : α → Nat} {x y : α} {xs ys zs xs' ys' : List α}

def Ascends (key : α → Nat) (xs : List α) : Prop :=
  xs.Pairwise fun x y => key x ≤ key y

def Descends (key : α → Nat) (xs : List α) : Prop :=
  xs.Pairwise fun x y => key y ≤ key x

/-- The same elements, and those of each key in the same order. -/
def StablePerm (key : α → Nat) (zs xs : List α) : Prop :=
  ∀ k, zs.filter (key · = k) = xs.filter (key · = k)

namespace StablePerm

theorem refl (xs : List α) : StablePerm key xs xs :=
  fun _ => rfl

theorem symm (h : StablePerm key zs xs) : StablePerm key xs zs :=
  fun k => (h k).symm

theorem trans (h : StablePerm key zs ys) (h' : StablePerm key ys xs) : StablePerm key zs xs :=
  fun k => (h k).trans (h' k)

theorem append (h : StablePerm key xs xs') (h' : StablePerm key ys ys') :
    StablePerm key (xs ++ ys) (xs' ++ ys') := by
  intro k
  rw [List.filter_append, List.filter_append, h k, h' k]

theorem append_left (xs : List α) (h : StablePerm key ys ys') :
    StablePerm key (xs ++ ys) (xs ++ ys') :=
  append (.refl xs) h

theorem append_right (h : StablePerm key xs xs') (ys : List α) :
    StablePerm key (xs ++ ys) (xs' ++ ys) :=
  append h (.refl ys)

theorem cons (x : α) (h : StablePerm key zs xs) : StablePerm key (x :: zs) (x :: xs) :=
  append_left [x] h

theorem reverse (h : StablePerm key zs xs) : StablePerm key zs.reverse xs.reverse := by
  intro k
  rw [List.filter_reverse, List.filter_reverse, h k]

theorem append_comm (h : ∀ x ∈ xs, ∀ y ∈ ys, key x ≠ key y) :
    StablePerm key (xs ++ ys) (ys ++ xs) := by
  intro k
  rw [List.filter_append, List.filter_append]
  by_cases hk : ∃ x ∈ xs, key x = k
  · obtain ⟨x, hx, rfl⟩ := hk
    have hys : ys.filter (key · = key x) = [] := by
      refine List.filter_eq_nil_iff.2 fun y hy => ?_
      simpa using (h x hx y hy).symm
    rw [hys, List.append_nil, List.nil_append]
  · have hxs : xs.filter (key · = k) = [] := by
      refine List.filter_eq_nil_iff.2 fun x hx => ?_
      simpa using fun he => hk ⟨x, hx, he⟩
    rw [hxs, List.append_nil, List.nil_append]

theorem middle (h : ∀ y ∈ ys, key x ≠ key y) :
    StablePerm key (x :: (ys ++ zs)) (ys ++ x :: zs) := by
  have hcomm : StablePerm key ([x] ++ ys) (ys ++ [x]) := by
    refine append_comm fun z hz y hy => ?_
    cases List.mem_singleton.1 hz
    exact h y hy
  have happend := hcomm.append_right zs
  rwa [List.append_assoc ys] at happend

theorem swap (h : key x ≠ key y) (xs : List α) :
    StablePerm key (x :: y :: xs) (y :: x :: xs) := by
  have hmiddle : StablePerm key (x :: ([y] ++ xs)) ([y] ++ x :: xs) := by
    apply middle
    intro z hz
    cases List.mem_singleton.1 hz
    exact h
  exact hmiddle

theorem reverse_self (h : xs.Pairwise fun x y => key y < key x) :
    StablePerm key xs.reverse xs := by
  induction xs with
  | nil => exact .refl _
  | cons x xs ih =>
    obtain ⟨hx, hxs⟩ := List.pairwise_cons.1 h
    rw [List.reverse_cons]
    refine ((ih hxs).append_right [x]).trans (append_comm fun y hy z hz => ?_)
    cases List.mem_singleton.1 hz
    exact Nat.ne_of_lt (hx y hy)

theorem filter_append_filter {keep : α → Bool}
    (h : ∀ x ∈ xs, ∀ y ∈ xs, key x = key y → keep x = keep y) :
    StablePerm key (xs.filter keep ++ xs.filter fun x => !keep x) xs := by
  induction xs with
  | nil => exact .refl _
  | cons x xs ih =>
    have hrest := ih fun y hy z hz =>
      h y (List.mem_cons_of_mem _ hy) z (List.mem_cons_of_mem _ hz)
    cases hx : keep x with
    | true =>
      rw [List.filter_cons_of_pos hx, List.filter_cons_of_neg (by simp [hx])]
      exact hrest.cons x
    | false =>
      rw [List.filter_cons_of_neg (by simp [hx]), List.filter_cons_of_pos (by simp [hx])]
      refine .trans (.symm (.middle fun y hy he => ?_)) (hrest.cons x)
      obtain ⟨hmem, hkeep⟩ := List.mem_filter.1 hy
      have hsame := h x List.mem_cons_self y (List.mem_cons_of_mem _ hmem) he
      cases hx.symm.trans (hsame.trans hkeep)

theorem perm (h : StablePerm key zs xs) : zs.Perm xs := by
  classical
  refine List.perm_iff_count.2 fun x => ?_
  have hx := congrArg (List.count x) (h (key x))
  rwa [List.count_filter (by simp), List.count_filter (by simp)] at hx

theorem mem_iff (h : StablePerm key zs xs) : x ∈ zs ↔ x ∈ xs :=
  h.perm.mem_iff

theorem length_eq (h : StablePerm key zs xs) : zs.length = xs.length :=
  h.perm.length_eq

theorem nodup_iff (h : StablePerm key zs xs) : zs.Nodup ↔ xs.Nodup :=
  h.perm.nodup_iff

end StablePerm

/-- A list has come into the order of the keys, and elements of one key stay as they stood. -/
def Sorts (key : α → Nat) (xs zs : List α) : Prop :=
  StablePerm key zs xs ∧ Ascends key zs

namespace Sorts

variable {before : α → α → Prop}

theorem of_level {k : Nat} (h : ∀ x ∈ xs, key x = k) : Sorts key xs xs := by
  constructor
  · exact .refl xs
  · apply List.pairwise_of_forall_mem_list
    intro x hx y hy
    exact Nat.le_of_eq ((h x hx).trans (h y hy).symm)

/-- Elements that stood in a list of their own, each before those behind it, are told apart by that
where their keys do not tell them apart. -/
theorem pairwise_before (h : Sorts key xs zs) (hb : xs.Pairwise before) :
    zs.Pairwise fun x y => key x ≤ key y ∧ (key x = key y → before x y) := by
  have hkeys (k : Nat) : (zs.filter (key · = k)).Pairwise before := by
    rw [h.1 k]
    exact hb.filter _
  refine h.2.and (List.pairwise_iff_get.2 fun i j hij he => ?_)
  have hpair := List.pairwise_iff_get.1 (List.pairwise_filter.1 (hkeys (key (zs.get j)))) i j hij
  exact hpair (decide_eq_true he) (decide_eq_true rfl)

theorem le_or_le {key' : α → Nat} (h : Sorts key xs zs) (h' : Sorts key' xs zs) (hx : x ∈ xs)
    (hy : y ∈ xs) (hxy : x ≠ y) :
    key x ≤ key y ∧ key' x ≤ key' y ∨ key y ≤ key x ∧ key' y ≤ key' x := by
  have hboth : zs.Pairwise fun x y => key x ≤ key y ∧ key' x ≤ key' y := h.2.and h'.2
  have heither : zs.Pairwise fun x y =>
      key x ≤ key y ∧ key' x ≤ key' y ∨ key y ≤ key x ∧ key' y ≤ key' x := hboth.imp .inl
  have _ : Std.Symm fun x y =>
      key x ≤ key y ∧ key' x ≤ key' y ∨ key y ≤ key x ∧ key' y ≤ key' x := ⟨fun _ _ => Or.symm⟩
  exact heither.forall (h.1.mem_iff.2 hx) (h.1.mem_iff.2 hy) hxy

end Sorts

end RecordQuery
