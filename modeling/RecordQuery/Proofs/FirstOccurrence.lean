import Mathlib.Data.List.Basic
import Mathlib.Data.List.Induction

namespace RecordQuery.FirstOccurrence

variable {α β : Type}

section Order

variable [DecidableEq α] {a b : α} {l : List α}

theorem idxOf_lt_of_filter {p : α → Bool} (ha : p a = true) (hb : p b = true)
    (h : (l.filter p).idxOf a < (l.filter p).idxOf b) : l.idxOf a < l.idxOf b := by
  induction l with
  | nil => exact h
  | cons c l ih =>
    cases hc : p c with
    | false =>
      have hca : c ≠ a := by
        rintro rfl
        exact absurd ha (Bool.eq_false_iff.1 hc)
      have hcb : c ≠ b := by
        rintro rfl
        exact absurd hb (Bool.eq_false_iff.1 hc)
      rw [List.filter_cons_of_neg (Bool.eq_false_iff.1 hc)] at h
      rw [List.idxOf_cons_ne _ hca, List.idxOf_cons_ne _ hcb]
      exact Nat.succ_lt_succ (ih h)
    | true =>
      rw [List.filter_cons_of_pos hc] at h
      by_cases hcb : c = b
      · rw [List.idxOf_cons_eq _ hcb] at h
        exact absurd h (Nat.not_lt_zero _)
      · rw [List.idxOf_cons_ne _ hcb] at h ⊢
        by_cases hca : c = a
        · rw [List.idxOf_cons_eq _ hca]
          exact Nat.succ_pos _
        · rw [List.idxOf_cons_ne _ hca] at h ⊢
          exact Nat.succ_lt_succ (ih (Nat.lt_of_succ_lt_succ h))

theorem eraseDups_pairwise (l : List α) :
    l.eraseDups.Pairwise fun a b => l.idxOf a < l.idxOf b := by
  -- Not on the list: the repetitions of the head are taken out of the tail first.
  induction hn : l.length using Nat.strongRecOn generalizing l with
  | ind n ih =>
    subst hn
    cases l with
    | nil => exact .nil
    | cons c l =>
      have hlength : (l.filter fun b => !b == c).length < (c :: l).length :=
        Nat.lt_succ_of_le (List.length_filter_le _ _)
      have hkept : ∀ b ∈ (l.filter fun b => !b == c).eraseDups, (!b == c) = true :=
        fun b hb => (List.mem_filter.1 (List.mem_eraseDups.1 hb)).2
      have hlater : ∀ b ∈ (l.filter fun b => !b == c).eraseDups,
          (c :: l).idxOf b = l.idxOf b + 1 := by
        intro b hb
        apply List.idxOf_cons_ne
        rintro rfl
        simpa using hkept _ hb
      rw [List.eraseDups_cons]
      refine List.pairwise_cons.2 ⟨?_, ?_⟩
      · intro b hb
        rw [List.idxOf_cons_self, hlater b hb]
        exact Nat.succ_pos _
      · refine (ih _ hlength _ rfl).imp_of_mem ?_
        intro a b ha hb h
        rw [hlater a ha, hlater b hb]
        exact Nat.succ_lt_succ (idxOf_lt_of_filter (hkept a ha) (hkept b hb) h)

end Order

section Firsts

variable [DecidableEq α] [DecidableEq β]

/-- The entries of a list whose value does not stand in front of them as well. -/
def firsts (l : List α) : List α :=
  l.zipIdx.filterMap fun p => if p.1 ∈ l.take p.2 then none else some p.1

theorem firsts_concat (l : List α) (a : α) :
    firsts (l ++ [a]) = if a ∈ l then firsts l else firsts l ++ [a] := by
  -- No entry of `l` has more in front of it than it has in `l`.
  have hfront : l.zipIdx.filterMap
      (fun p => if p.1 ∈ (l ++ [a]).take p.2 then none else some p.1) = firsts l := by
    refine List.filterMap_congr fun p hp => ?_
    have hlt : p.2 < l.length := List.snd_lt_of_mem_zipIdx hp
    rw [List.take_append_of_le_length (Nat.le_of_lt hlt)]
  have hlast : ([a].zipIdx (0 + l.length)).filterMap
      (fun p => if p.1 ∈ (l ++ [a]).take p.2 then none else some p.1) =
        if a ∈ l then [] else [a] := by
    by_cases h : a ∈ l <;> simp [h]
  rw [firsts, List.zipIdx_append, List.filterMap_append, hfront, hlast]
  split
  · exact List.append_nil _
  · rfl

theorem eraseDups_concat (l : List α) (a : α) :
    (l ++ [a]).eraseDups = if a ∈ l then l.eraseDups else l.eraseDups ++ [a] := by
  rw [List.eraseDups_append]
  by_cases h : a ∈ l <;> simp [List.removeAll, List.eraseDups_cons, h]

theorem eraseDups_eq_firsts (l : List α) : l.eraseDups = firsts l := by
  induction l using List.reverseRecOn with
  | nil => rfl
  | append_singleton l a ih => rw [eraseDups_concat, firsts_concat, ih]

theorem eraseDups_map_eraseDups (g : α → β) (l : List α) :
    (l.eraseDups.map g).eraseDups = (l.map g).eraseDups := by
  induction l using List.reverseRecOn with
  | nil => rfl
  | append_singleton l a ih =>
    rw [eraseDups_concat, List.map_append, List.map_singleton, eraseDups_concat]
    by_cases ha : a ∈ l
    · rw [if_pos ha, if_pos (List.mem_map_of_mem ha), ih]
    · rw [if_neg ha, List.map_append, List.map_singleton, eraseDups_concat, ih]
      simp only [List.mem_map, List.mem_eraseDups]

end Firsts

section Partial

variable {g : α → Option β}

theorem forall₂_filterMap (g : α → Option β) (l : List α) :
    List.Forall₂ (fun a b => g a = some b) (l.filter fun a => (g a).isSome) (l.filterMap g) := by
  induction l with
  | nil => exact .nil
  | cons a l ih =>
    cases h : g a with
    | none =>
      rw [List.filterMap_cons_none h, List.filter_cons_of_neg (by simp [h])]
      exact ih
    | some b =>
      rw [List.filterMap_cons_some h, List.filter_cons_of_pos (by simp [h])]
      exact .cons h ih

end Partial

end RecordQuery.FirstOccurrence
