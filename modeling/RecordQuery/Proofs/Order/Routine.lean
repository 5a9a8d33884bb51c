import Mathlib.Data.List.Nodup
import RecordQuery.Proofs.Order.Halves
import RecordQuery.Proofs.Value.Order

namespace RecordQuery.Routine

open Asking

variable {α ε : Type} {cmp : α → α → Except ε Ordering} {key : α → Nat} {x : α}
  {xs ys zs : List α}

section Merging

variable {y : α} {left right : List α}

theorem pairwise_cons_of_perm {r : α → α → Prop} (hz : zs.Perm (xs ++ ys)) (hzs : zs.Pairwise r)
    (hxs : ∀ z ∈ xs, r x z) (hys : ∀ z ∈ ys, r x z) : (x :: zs).Pairwise r := by
  refine List.pairwise_cons.2 ⟨fun z h => ?_, hzs⟩
  rcases List.mem_append.1 (hz.mem_iff.1 h) with h | h
  · exact hxs z h
  · exact hys z h

theorem nodup_rest (hd : (x :: xs ++ y :: ys).Nodup) :
    y ≠ x ∧ (xs ++ y :: ys).Nodup ∧ (x :: xs ++ ys).Nodup := by
  refine ⟨?_, hd.sublist (List.sublist_cons_self x _), hd.sublist ?_⟩
  · exact ((List.nodup_append.1 hd).2.2 x List.mem_cons_self y List.mem_cons_self).symm
  · exact (List.sublist_cons_self y ys).append_left (x :: xs)

theorem mergeFront_nil_right (xs : List α) : mergeFront xs [] = pure xs := by
  cases xs with
  | nil => rw [mergeFront]
  | cons x xs =>
    rw [mergeFront]
    exact List.cons_ne_nil x xs

theorem mergeFront_yields (h : Ranks cmp key) (hd : (xs ++ ys).Nodup) (hx : Ascends key xs)
    (hy : Ascends key ys) : (mergeFront xs ys).Yields cmp (Sorts key (xs ++ ys)) := by
  induction xs, ys using mergeFront.induct with
  | case1 ys =>
    rw [mergeFront]
    exact .pure ⟨.refl _, hy⟩
  | case2 xs _ =>
    rw [mergeFront_nil_right, List.append_nil]
    exact .pure ⟨.refl _, hx⟩
  | case3 x xs y ys ihy ihx =>
    obtain ⟨hyx, hdx, hdy⟩ := nodup_rest hd
    obtain ⟨hxs, hx'⟩ := List.pairwise_cons.1 hx
    obtain ⟨hys, hy'⟩ := List.pairwise_cons.1 hy
    rw [mergeFront]
    refine h.branch hyx ?_ ?_
    · intro hlt
      have hbelow : ∀ z ∈ x :: xs, key y < key z := List.forall_mem_cons.2
        ⟨hlt, fun z hz => Nat.lt_of_lt_of_le hlt (hxs z hz)⟩
      refine (ihy hdy hx hy').bind fun zs hzs => .pure ⟨?_, ?_⟩
      · exact (hzs.1.cons y).trans (.middle fun z hz => Nat.ne_of_lt (hbelow z hz))
      · exact pairwise_cons_of_perm hzs.1.perm hzs.2 (fun z hz => Nat.le_of_lt (hbelow z hz)) hys
    · intro hle
      refine (ihx hdx hx' hy).bind fun zs hzs => .pure ⟨hzs.1.cons x, ?_⟩
      refine pairwise_cons_of_perm hzs.1.perm hzs.2 hxs ?_
      exact List.forall_mem_cons.2 ⟨hle, fun z hz => Nat.le_trans hle (hys z hz)⟩

theorem mergeBack_nil_right (xs : List α) : mergeBack xs [] = pure xs := by
  cases xs with
  | nil => rw [mergeBack]
  | cons x xs =>
    rw [mergeBack]
    exact List.cons_ne_nil x xs

theorem mergeBack_yields (h : Ranks cmp key) (hd : (xs ++ ys).Nodup) (hx : Descends key xs)
    (hy : Descends key ys) :
    (mergeBack xs ys).Yields cmp fun zs => StablePerm key zs (ys ++ xs) ∧ Descends key zs := by
  induction xs, ys using mergeBack.induct with
  | case1 ys =>
    rw [mergeBack, List.append_nil]
    exact .pure ⟨.refl _, hy⟩
  | case2 xs _ =>
    rw [mergeBack_nil_right]
    exact .pure ⟨.refl _, hx⟩
  | case3 x xs y ys ihx ihy =>
    obtain ⟨hyx, hdx, hdy⟩ := nodup_rest hd
    obtain ⟨hxs, hx'⟩ := List.pairwise_cons.1 hx
    obtain ⟨hys, hy'⟩ := List.pairwise_cons.1 hy
    rw [mergeBack]
    refine h.branch hyx ?_ ?_
    · intro hlt
      have habove : ∀ z ∈ y :: ys, key z < key x := List.forall_mem_cons.2
        ⟨hlt, fun z hz => Nat.lt_of_le_of_lt (hys z hz) hlt⟩
      refine (ihx hdx hx' hy).bind fun zs hzs => .pure ⟨?_, ?_⟩
      · exact (hzs.1.cons x).trans (.middle fun z hz => Nat.ne_of_gt (habove z hz))
      · exact pairwise_cons_of_perm hzs.1.perm hzs.2 (fun z hz => Nat.le_of_lt (habove z hz)) hxs
    · intro hle
      refine (ihy hdy hx hy').bind fun zs hzs => .pure ⟨hzs.1.cons y, ?_⟩
      refine pairwise_cons_of_perm hzs.1.perm hzs.2 hys (List.forall_mem_cons.2 ⟨hle, ?_⟩)
      exact fun z hz => Nat.le_trans (hxs z hz) hle

theorem mergeSorted_yields (h : Ranks cmp key) (hd : (left ++ right).Nodup)
    (hl : Ascends key left) (hr : Ascends key right) :
    (mergeSorted left right).Yields cmp (Sorts key (left ++ right)) := by
  rw [mergeSorted]
  split
  · exact mergeFront_yields h hd hl hr
  · have hd' : (left.reverse ++ right.reverse).Nodup :=
      ((List.reverse_perm left).append (List.reverse_perm right)).nodup_iff.2 hd
    have hback := mergeBack_yields h hd' (List.pairwise_reverse.2 hl) (List.pairwise_reverse.2 hr)
    refine hback.bind fun zs hzs => .pure ⟨?_, List.pairwise_reverse.2 hzs.2⟩
    have hzs' := hzs.1.reverse
    rwa [← List.reverse_append, List.reverse_reverse] at hzs'

end Merging

section Runs

variable {y : α} {descending eager : Bool}

/-- A run goes one way, and where it descends no two elements are level. -/
def Proceeds (key : α → Nat) (descending : Bool) (xs : List α) : Prop :=
  if descending then xs.Pairwise fun x y => key y < key x else Ascends key xs

theorem Proceeds.cons (h : Proceeds key descending (y :: ys))
    (hd : descending = true ↔ key y < key x) : Proceeds key descending (x :: y :: ys) := by
  cases descending with
  | true =>
    have hlt := hd.1 rfl
    refine List.pairwise_cons.2 ⟨List.forall_mem_cons.2 ⟨hlt, ?_⟩, h⟩
    exact fun z hz => Nat.lt_trans (List.rel_of_pairwise_cons h hz) hlt
  | false =>
    have hle := Nat.not_lt.1 (mt hd.2 Bool.false_ne_true)
    refine List.pairwise_cons.2 ⟨List.forall_mem_cons.2 ⟨hle, ?_⟩, h⟩
    exact fun z hz => Nat.le_trans hle (List.rel_of_pairwise_cons h hz)

theorem proceeds_singleton (x : α) : Proceeds key descending [x] := by
  cases descending with
  | true => exact List.pairwise_singleton _ x
  | false => exact List.pairwise_singleton _ x

theorem Proceeds.sorts (h : Proceeds key descending xs) :
    Sorts key xs (if descending then xs.reverse else xs) := by
  cases descending with
  | true => exact ⟨.reverse_self h, List.pairwise_reverse.2 (h.imp Nat.le_of_lt)⟩
  | false => exact ⟨.refl xs, h⟩

theorem runLength_yields (h : Ranks cmp key) (hd : (x :: ys).Nodup) :
    (runLength descending x ys).Yields cmp fun count =>
      Proceeds key descending (x :: ys.take count) := by
  induction ys generalizing x with
  | nil => exact .pure (proceeds_singleton x)
  | cons y ys ih =>
    obtain ⟨hx, hd⟩ := List.nodup_cons.1 hd
    have hyx : y ≠ x := fun he => hx (he ▸ List.mem_cons_self)
    refine (h.less fun _ _ => hyx).bind fun b hb => ?_
    split
    · next he =>
      subst he
      exact (ih hd).bind fun more hmore => .pure (hmore.cons hb)
    · exact .pure (proceeds_singleton x)

theorem findRun_yields (h : Ranks cmp key) (hd : xs.Nodup) :
    (findRun xs).Yields cmp fun p => Proceeds key p.2 (xs.take p.1) := by
  match xs with
  | [] => exact .pure .nil
  | [x] => exact .pure (proceeds_singleton x)
  | x :: y :: ys =>
    obtain ⟨hx, hd⟩ := List.nodup_cons.1 hd
    have hyx : y ≠ x := fun he => hx (he ▸ List.mem_cons_self)
    refine (h.less fun _ _ => hyx).bind fun descending hb => ?_
    exact (runLength_yields h hd).bind fun more hmore => .pure (hmore.cons hb)

theorem findRunOf_yields (h : Ranks cmp key) (enough : Nat) (hd : xs.Nodup) :
    (findRunOf enough xs).Yields cmp fun p => Proceeds key p.2 (xs.take p.1) := by
  rw [findRunOf]
  split
  · exact findRun_yields h hd
  · exact .pure .nil

/-- A run that counts as sorted is, and all runs do if they are to be sorted at once. -/
structure Run.Valid (key : α → Nat) (eager : Bool) (run : Run α) : Prop where
  ascends : run.sorted = true → Ascends key run.elements
  eager : eager = true → run.sorted = true

theorem nextRun_yields (h : Ranks cmp key) (eager : Bool) {enough : Nat} (hd : xs.Nodup) :
    (nextRun eager enough xs).Yields cmp fun p => p.1.Valid key eager ∧
      StablePerm key (p.1.elements ++ p.2) xs ∧
      (xs ≠ [] → 0 < enough → p.2.length < xs.length) := by
  have hshorter (n : Nat) (hn : 0 < enough → 0 < n) :
      xs ≠ [] → 0 < enough → (xs.drop n).length < xs.length := by
    intro hne hpos
    have hlength := List.length_pos_iff.2 hne
    have hn := hn hpos
    rw [List.length_drop]
    omega
  have hsplit {n : Nat} {zs : List α} (hzs : StablePerm key zs (xs.take n)) :
      StablePerm key (zs ++ xs.drop n) xs := by
    have happend := hzs.append_right (xs.drop n)
    rwa [List.take_append_drop] at happend
  refine (findRunOf_yields h enough hd).bind fun p hp => ?_
  obtain ⟨length, descending⟩ := p
  simp only at hp ⊢
  split
  · next hlong =>
    have hsorts := hp.sorts
    exact .pure ⟨⟨fun _ => hsorts.2, fun _ => rfl⟩, hsplit hsorts.1, hshorter length (by omega)⟩
  · split
    · have hdfew := hd.sublist (List.take_sublist fewElements xs)
      refine (sortHalves_yields h hdfew).bind fun zs hzs => ?_
      have hfew : 0 < enough → 0 < fewElements := fun _ => by decide
      exact .pure ⟨⟨fun _ => hzs.2, fun _ => rfl⟩, hsplit hzs.1, hshorter fewElements hfew⟩
    · next heager =>
      exact .pure ⟨⟨nofun, fun he => (heager he).elim⟩, hsplit (.refl _), hshorter enough id⟩

variable {sortRun : List α → Asking α (List α)} {scratch : Nat}

def SortsRuns (cmp : α → α → Except ε Ordering) (key : α → Nat) (eager : Bool)
    (sortRun : List α → Asking α (List α)) : Prop :=
  eager = true ∨ ∀ xs : List α, xs.Nodup → (sortRun xs).Yields cmp (Sorts key xs)

theorem inOrder_yields {run : Run α} (hs : SortsRuns cmp key eager sortRun)
    (hd : run.elements.Nodup) (hrun : run.Valid key eager) :
    (run.inOrder sortRun).Yields cmp (Sorts key run.elements) := by
  rw [Run.inOrder]
  split
  · next hsorted => exact .pure ⟨.refl _, hrun.ascends hsorted⟩
  · next hsorted =>
    rcases hs with heager | hs
    · exact (hsorted (hrun.eager heager)).elim
    · exact hs run.elements hd

theorem join_yields (h : Ranks cmp key) (hs : SortsRuns cmp key eager sortRun)
    {left right : Run α} (hd : (left.elements ++ right.elements).Nodup)
    (hl : left.Valid key eager) (hr : right.Valid key eager) :
    (left.join sortRun scratch right).Yields cmp fun run => run.Valid key eager ∧
      StablePerm key run.elements (left.elements ++ right.elements) := by
  obtain ⟨hdl, hdr, -⟩ := List.nodup_append.1 hd
  rw [Run.join]
  split
  · refine (inOrder_yields hs hdl hl).bind fun first hfirst => ?_
    refine (inOrder_yields hs hdr hr).bind fun second hsecond => ?_
    have hboth := hfirst.1.append hsecond.1
    have hmerge := mergeSorted_yields h (hboth.nodup_iff.2 hd) hfirst.2 hsecond.2
    exact hmerge.bind fun zs hzs => .pure ⟨⟨fun _ => hzs.2, fun _ => rfl⟩, hzs.1.trans hboth⟩
  · next hsorted =>
    exact .pure ⟨⟨nofun, fun he => (hsorted (.inr (.inl (hl.eager he)))).elim⟩, .refl _⟩

def stacked (stack : List (Run α × Nat)) : List α :=
  stack.reverse.flatMap fun p => p.1.elements

theorem stacked_cons (top : Run α) (depth : Nat) (stack : List (Run α × Nat)) :
    stacked ((top, depth) :: stack) = stacked stack ++ top.elements := by
  simp [stacked]

theorem collapse_yields (h : Ranks cmp key) (hs : SortsRuns cmp key eager sortRun) (depth : Nat)
    {stack : List (Run α × Nat)} {run : Run α} (hd : (stacked stack ++ run.elements).Nodup)
    (hstack : ∀ p ∈ stack, p.1.Valid key eager) (hrun : run.Valid key eager) :
    (collapse sortRun scratch depth stack run).Yields cmp fun p =>
      (∀ q ∈ p.1, q.1.Valid key eager) ∧ p.2.Valid key eager ∧
      StablePerm key (stacked p.1 ++ p.2.elements) (stacked stack ++ run.elements) ∧
      (depth = 0 → p.1 = []) := by
  induction stack generalizing run with
  | nil => exact .pure ⟨nofun, hrun, .refl _, fun _ => rfl⟩
  | cons top stack ih =>
    obtain ⟨top, topDepth⟩ := top
    obtain ⟨htop, hstack'⟩ := List.forall_mem_cons.1 hstack
    rw [collapse]
    split
    · rw [stacked_cons, List.append_assoc] at hd ⊢
      have hdtop := (List.nodup_append.1 hd).2.1
      refine (join_yields h hs hdtop htop hrun).bind fun joined hjoined => ?_
      have hall := hjoined.2.append_left (stacked stack)
      refine (ih (hall.nodup_iff.2 hd) hstack' hjoined.1).imp fun p hp => ?_
      exact ⟨hp.1, hp.2.1, hp.2.2.1.trans hall, hp.2.2.2⟩
    · next hdepth =>
      refine .pure ⟨hstack, hrun, .refl _, ?_⟩
      rintro rfl
      exact (hdepth (Nat.zero_le _)).elim

theorem joinRuns_yields (h : Ranks cmp key) (hs : SortsRuns cmp key eager sortRun) (total : Nat)
    {enough bound : Nat} {stack : List (Run α × Nat)} {run : Run α} {rest : List α}
    (hd : (stacked stack ++ run.elements ++ rest).Nodup)
    (hstack : ∀ p ∈ stack, p.1.Valid key eager) (hrun : run.Valid key eager)
    (henough : rest ≠ [] → 0 < enough) (hbound : rest.length < bound) :
    (joinRuns sortRun scratch eager total enough bound stack run rest).Yields cmp fun run' =>
      run'.Valid key eager ∧
      StablePerm key run'.elements (stacked stack ++ run.elements ++ rest) := by
  induction bound generalizing stack run rest with
  | zero => exact (Nat.not_lt_zero _ hbound).elim
  | succ bound ih =>
    obtain ⟨hdfront, hdrest, -⟩ := List.nodup_append.1 hd
    rw [joinRuns]
    split
    · next hrest =>
      rw [List.isEmpty_iff.1 hrest, List.append_nil]
      refine (collapse_yields h hs 0 hdfront hstack hrun).bind fun p hp => ?_
      obtain ⟨-, hvalid, hperm, hempty⟩ := hp
      rw [hempty rfl] at hperm
      exact .pure ⟨hvalid, hperm⟩
    · next hnonempty =>
      have hne : rest ≠ [] := mt List.isEmpty_iff.2 hnonempty
      refine (nextRun_yields h eager hdrest).bind fun p hp => ?_
      obtain ⟨next, more⟩ := p
      obtain ⟨hnext, hsplit, hshorter⟩ := hp
      have hless := hshorter hne (henough hne)
      refine (collapse_yields h hs _ hdfront hstack hrun).bind fun q hq => ?_
      obtain ⟨stack', run'⟩ := q
      obtain ⟨hstack', hrun', hperm, -⟩ := hq
      have hbound' : more.length < bound := Nat.lt_of_lt_of_le hless (Nat.le_of_lt_succ hbound)
      have hpushed (depth : Nat) : ∀ p ∈ (run', depth) :: stack', p.1.Valid key eager :=
        List.forall_mem_cons.2 ⟨hrun', hstack'⟩
      have hall (depth : Nat) : StablePerm key
          (stacked ((run', depth) :: stack') ++ next.elements ++ more)
          (stacked stack ++ run.elements ++ rest) := by
        rw [stacked_cons, List.append_assoc]
        exact hperm.append hsplit
      have hrest (depth : Nat) := ih ((hall depth).nodup_iff.2 hd) (hpushed depth) hnext
        (fun _ => henough hne) hbound'
      exact (hrest _).imp fun joined hjoined => ⟨hjoined.1, hjoined.2.trans (hall _)⟩

theorem longEnough_pos {total : Nat} (h : 0 < total) : 0 < longEnough total := by
  rw [longEnough]
  split
  · omega
  · next hlong =>
    have hlog : 2 ≤ (total.log2 + 1) / 2 := by
      have h12 : 12 ≤ total.log2 := (Nat.le_log2 (by omega)).2 (by omega)
      omega
    have hpow : Nat.pow 2 2 ≤ Nat.pow 2 ((total.log2 + 1) / 2) :=
      Nat.pow_le_pow_right (by decide) hlog
    have htwo : 2 ≤ Nat.pow 2 ((total.log2 + 1) / 2) := Nat.le_trans (by decide) hpow
    exact Nat.div_pos (Nat.le_trans htwo (Nat.le_add_right _ _)) (by decide)

theorem sortByRuns_yields (h : Ranks cmp key) (hs : SortsRuns cmp key eager sortRun)
    (hd : xs.Nodup) : (sortByRuns sortRun scratch eager xs).Yields cmp (Sorts key xs) := by
  refine (nextRun_yields h eager hd).bind fun p hp => ?_
  obtain ⟨first, rest⟩ := p
  obtain ⟨hfirst, hsplit, -⟩ := hp
  have hlength := hsplit.length_eq
  simp only [List.length_append] at hlength
  have henough : rest ≠ [] → 0 < longEnough xs.length := by
    intro hne
    have hpos := List.length_pos_iff.2 hne
    exact longEnough_pos (by omega)
  have hempty : ∀ p ∈ ([] : List (Run α × Nat)), p.1.Valid key eager := nofun
  have hbound : rest.length < xs.length + 1 := by omega
  have hd' : (stacked [] ++ first.elements ++ rest).Nodup := hsplit.nodup_iff.2 hd
  refine (joinRuns_yields h hs xs.length hd' hempty hfirst henough hbound).bind fun run hrun => ?_
  have hall := hrun.2.trans hsplit
  exact (inOrder_yields hs (hall.nodup_iff.2 hd) hrun.1).imp fun zs hzs =>
    ⟨hzs.1.trans hall, hzs.2⟩

end Runs

section Parting

variable {a b c count place : Nat}

theorem lessAt_yields (hd : xs.Nodup) (hab : a ≠ b) (ha : a < xs.length) (hb : b < xs.length) :
    (lessAt xs a b).Yields cmp fun answer =>
      ∃ o, cmp xs[a] xs[b] = .ok o ∧ answer = decide (o = .lt) := by
  rw [lessAt, List.getElem?_eq_getElem ha, List.getElem?_eq_getElem hb]
  exact less_yields fun _ _ he => hab ((List.Nodup.getElem_inj_iff hd).1 he)

/-- The element at a place has been found not to be the less of it and another one. -/
def Tried (cmp : α → α → Except ε Ordering) (xs : List α) (place : Nat) : Prop :=
  ∃ x, xs[place]? = some x ∧ ∃ y ∈ xs, ∃ o, cmp x y = .ok o ∧ o ≠ .lt

theorem Tried.of_not_lt {o : Ordering} (ha : a < xs.length) (hb : b < xs.length)
    (h : cmp xs[a] xs[b] = .ok o) (ho : o ≠ .lt) : Tried cmp xs a :=
  ⟨xs[a], List.getElem?_eq_getElem ha, xs[b], List.getElem_mem hb, o, h, ho⟩

theorem Tried.of_lt (hc : Coherent fun x y o => cmp x y = .ok o) (ha : a < xs.length)
    (hb : b < xs.length) (h : cmp xs[a] xs[b] = .ok .lt) : Tried cmp xs b :=
  .of_not_lt hb ha (hc.swap h) nofun

theorem medianOf_yields (hc : Coherent fun x y o => cmp x y = .ok o) (hd : xs.Nodup)
    (hab : a < b) (hbc : b < c) (hlength : c < xs.length) :
    (medianOf (lessAt xs) a b c).Yields cmp fun place =>
      a ≤ place ∧ place ≤ c ∧ Tried cmp xs place := by
  have hac : a < c := Nat.lt_trans hab hbc
  have hb : b < xs.length := Nat.lt_trans hbc hlength
  have ha : a < xs.length := Nat.lt_trans hab hb
  refine (lessAt_yields hd (Nat.ne_of_lt hab) ha hb).bind ?_
  rintro _ ⟨o, ho, rfl⟩
  refine (lessAt_yields hd (Nat.ne_of_lt hac) ha hlength).bind ?_
  rintro _ ⟨o', ho', rfl⟩
  split
  · next hsame =>
    refine (lessAt_yields hd (Nat.ne_of_lt hbc) hb hlength).bind ?_
    rintro _ ⟨o'', ho'', rfl⟩
    have hsame' : o = .lt ↔ o' = .lt := decide_eq_decide.1 hsame
    refine .pure ?_
    by_cases hlt : o = .lt
    · have htried : Tried cmp xs b := .of_lt hc ha hb (hlt ▸ ho)
      have htried' : Tried cmp xs c := .of_lt hc ha hlength (hsame'.1 hlt ▸ ho')
      split
      · exact ⟨Nat.le_of_lt hab, Nat.le_of_lt hbc, htried⟩
      · exact ⟨Nat.le_of_lt hac, Nat.le_refl c, htried'⟩
    · split
      · next hz =>
        have hge : o'' ≠ .lt := fun h => hlt ((decide_eq_decide.1 hz).1 h)
        exact ⟨Nat.le_of_lt hab, Nat.le_of_lt hbc, .of_not_lt hb hlength ho'' hge⟩
      · next hz =>
        have hlt'' : o'' = .lt := by
          by_contra hge
          exact hz (decide_eq_decide.2 ⟨fun h => (hge h).elim, fun h => (hlt h).elim⟩)
        exact ⟨Nat.le_of_lt hac, Nat.le_refl c, .of_lt hc hb hlength (hlt'' ▸ ho'')⟩
  · next hdiffer =>
    refine .pure ⟨Nat.le_refl a, Nat.le_of_lt hac, ?_⟩
    by_cases hlt : o = .lt
    · refine .of_not_lt ha hlength ho' fun hlt' => hdiffer ?_
      rw [hlt, hlt']
    · exact .of_not_lt ha hb ho hlt

theorem medianAfter_yields (hc : Coherent fun x y o => cmp x y = .ok o) (hd : xs.Nodup)
    (bound : Nat) (hcount : 0 < count) (hab : a + count ≤ b) (hbc : b + count ≤ c)
    (hlength : c + count ≤ xs.length) :
    (medianAfter (lessAt xs) bound a b c count).Yields cmp fun place =>
      a ≤ place ∧ place < c + count ∧ Tried cmp xs place := by
  induction bound generalizing a b c count with
  | zero =>
    refine (medianOf_yields hc hd (by omega) (by omega) (by omega)).imp fun place hplace => ?_
    exact ⟨hplace.1, by omega, hplace.2.2⟩
  | succ bound ih =>
    rw [medianAfter]
    split
    · refine (ih (by omega) (by omega) (by omega) (by omega)).bind fun a' ha => ?_
      refine (ih (by omega) (by omega) (by omega) (by omega)).bind fun b' hb => ?_
      refine (ih (by omega) (by omega) (by omega) (by omega)).bind fun c' hc' => ?_
      refine (medianOf_yields hc hd (by omega) (by omega) (by omega)).imp fun place hplace => ?_
      exact ⟨by omega, by omega, hplace.2.2⟩
    · refine (medianOf_yields hc hd (by omega) (by omega) (by omega)).imp fun place hplace => ?_
      exact ⟨hplace.1, by omega, hplace.2.2⟩

theorem pivotPlace_yields (hc : Coherent fun x y o => cmp x y = .ok o) (hd : xs.Nodup)
    (hlong : 8 ≤ xs.length) : (pivotPlace xs).Yields cmp (Tried cmp xs) := by
  rw [pivotPlace]
  split
  · refine (medianOf_yields hc hd ?_ ?_ ?_).imp fun place hplace => hplace.2.2
    all_goals omega
  · refine (medianAfter_yields hc hd _ ?_ ?_ ?_ ?_).imp fun place hplace => hplace.2.2
    all_goals omega

def Parts (keep : α → Bool) (xs : List α) (p : List α × List α) : Prop :=
  p.1 = xs.filter keep ∧ p.2 = xs.filter fun x => !keep x

namespace Parts

variable {keep : α → Bool} {p : List α × List α}

theorem cons (h : Parts keep xs p) (x : α) :
    Parts keep (x :: xs) (if keep x then (x :: p.1, p.2) else (p.1, x :: p.2)) := by
  obtain ⟨hlefts, hrights⟩ := h
  cases hx : keep x with
  | true => simp [Parts, hx, hlefts, hrights]
  | false => simp [Parts, hx, hlefts, hrights]

theorem stablePerm (h : Parts keep xs p) (hkeep : ∀ x y, key x = key y → keep x = keep y) :
    StablePerm key (p.1 ++ p.2) xs := by
  rw [h.1, h.2]
  exact .filter_append_filter fun x _ y _ => hkeep x y

theorem mem_lefts (h : Parts keep xs p) : x ∈ p.1 ↔ x ∈ xs ∧ keep x = true := by
  rw [h.1, List.mem_filter]

theorem mem_rights (h : Parts keep xs p) : x ∈ p.2 ↔ x ∈ xs ∧ keep x = false := by
  rw [h.2, List.mem_filter, Bool.not_eq_true']

theorem keep_eq_false (h : Parts keep xs p) (he : p.1.isEmpty) (hx : x ∈ xs) : keep x = false := by
  rw [← Bool.not_eq_true]
  intro hkeep
  have hmem : x ∈ p.1 := h.mem_lefts.2 ⟨hx, hkeep⟩
  rw [List.isEmpty_iff.1 he] at hmem
  cases hmem

theorem nodup_lefts (h : Parts keep xs p) (hd : xs.Nodup) : p.1.Nodup := by
  rw [h.1]
  exact hd.filter keep

theorem nodup_rights (h : Parts keep xs p) (hd : xs.Nodup) : p.2.Nodup := by
  rw [h.2]
  exact hd.filter fun x => !keep x

/-- The parts of a list, each sorted, are the sorted list if no key lies on both sides. -/
theorem sorts {ys zs : List α} (h : Parts keep xs p)
    (hkeep : ∀ x y, key x = key y → keep x = keep y)
    (hle : ∀ x ∈ p.1, ∀ y ∈ p.2, key x ≤ key y) (hy : Sorts key p.1 ys)
    (hz : Sorts key p.2 zs) : Sorts key xs (ys ++ zs) := by
  constructor
  · exact (hy.1.append hz.1).trans (h.stablePerm hkeep)
  · apply List.pairwise_append.2
    exact ⟨hy.2, hz.2, fun x hx z hz' => hle x (hy.1.mem_iff.1 hx) z (hz.1.mem_iff.1 hz')⟩

end Parts

variable {keep : α → Bool} {least : Option α} {pivot : α} {scratch : Nat}

theorem part_yields {goesLeft : α → Asking α Bool} {known : Bool}
    (h : ∀ i x, xs[i]? = some x → i ≠ place → (goesLeft x).Yields cmp (· = keep x))
    (hknown : ∀ x, xs[place]? = some x → keep x = known) :
    (part goesLeft known place xs).Yields cmp (Parts keep xs) := by
  induction xs generalizing place with
  | nil =>
    rw [part]
    exact .pure ⟨rfl, rfl⟩
  | cons x xs ih =>
    cases place with
    | zero =>
      have hx : keep x = known := hknown x rfl
      have hpast : ∀ y, xs[xs.length + 1]? = some y → keep y = known := by simp
      refine (ih (fun i y hy _ => h (i + 1) y hy (Nat.succ_ne_zero i)) hpast).bind fun p hp => ?_
      rw [← hx]
      exact .pure (hp.cons x)
    | succ place =>
      refine (h 0 x rfl (Nat.succ_ne_zero place).symm).bind fun left hleft => ?_
      have hrest : ∀ i y, xs[i]? = some y → i ≠ place → (goesLeft y).Yields cmp (· = keep y) :=
        fun i y hy hi => h (i + 1) y hy fun he => hi (Nat.succ.inj he)
      refine (ih hrest hknown).bind fun p hp => .pure ?_
      rw [hleft]
      exact hp.cons x

theorem ne_of_place_ne {i : Nat} (hd : xs.Nodup) (hpivot : xs[place]? = some pivot)
    (hx : xs[i]? = some x) (hi : i ≠ place) : x ≠ pivot := by
  rintro rfl
  obtain ⟨hlength, -⟩ := List.getElem?_eq_some_iff.1 hx
  exact hi ((List.getElem?_inj hlength hd).1 (hx.trans hpivot.symm))

/-- An element is asked about itself only if it has been found level with another one, so that it
compares with itself. -/
theorem compares_self (hc : Coherent fun x y o => cmp x y = .ok o) (h : Ranks cmp key)
    (hleast : ∀ p ∈ least, ∀ x ∈ xs, key p ≤ key x) (htried : Tried cmp xs place)
    (hpivot : xs[place]? = some pivot) :
    ∀ p ∈ least, ∀ e, cmp p pivot = .error e → p ≠ pivot := by
  rintro p hp e he rfl
  obtain ⟨x, hx, y, hy, o, ho, hge⟩ := htried
  cases hpivot.symm.trans hx
  have hkeys := hleast p hp y hy
  have hlevel : o = .eq := by
    have hcompare := h p y o ho
    cases o with
    | lt => exact (hge rfl).elim
    | eq => rfl
    | gt =>
      have hgt := Nat.compare_eq_gt.1 hcompare
      omega
  subst hlevel
  have hself : cmp p p = .ok .eq := hc.trans ho (hc.swap ho) nofun nofun
  cases hself.symm.trans he

theorem isLeast_yields (h : Ranks cmp key)
    (hself : ∀ p ∈ least, ∀ e, cmp p pivot = .error e → p ≠ pivot) :
    (isLeast least pivot).Yields cmp fun b => b = true → ∃ x ∈ least, key pivot ≤ key x := by
  cases least with
  | none => exact .pure nofun
  | some x =>
    refine (h.less (hself x rfl)).bind fun b hb => .pure fun hnot => ⟨x, rfl, ?_⟩
    refine Nat.not_lt.1 fun hlt => ?_
    rw [hb.2 hlt] at hnot
    cases hnot

theorem partSmaller_yields (h : Ranks cmp key) (hd : xs.Nodup)
    (hself : ∀ p ∈ least, ∀ e, cmp p pivot = .error e → p ≠ pivot)
    (hleast : ∀ p ∈ least, ∀ x ∈ xs, key p ≤ key x) (hpivot : xs[place]? = some pivot) :
    (partSmaller least pivot place xs).Yields cmp
      (Parts (fun x => decide (key x < key pivot)) xs) := by
  refine (isLeast_yields h hself).bind fun b hb => ?_
  split
  · next htrue =>
    obtain ⟨x, hx, hle⟩ := hb htrue
    have hall : ∀ y ∈ xs, ¬key y < key pivot := fun y hy =>
      Nat.not_lt.2 (Nat.le_trans hle (hleast x hx y hy))
    refine .pure ⟨?_, ?_⟩
    · exact (List.filter_eq_nil_iff.2 fun y hy => by simpa using hall y hy).symm
    · exact (List.filter_eq_self.2 fun y hy => by simpa using hall y hy).symm
  · refine part_yields (fun i x hx hi => ?_) ?_
    · refine (h.less fun _ _ => ne_of_place_ne hd hpivot hx hi).imp fun b hb => ?_
      rw [Bool.eq_iff_iff, hb, decide_eq_true_iff]
    · intro x hx
      cases hx.symm.trans hpivot
      exact decide_eq_false (Nat.lt_irrefl _)

theorem partEqual_yields (h : Ranks cmp key) (hd : xs.Nodup) (hpivot : xs[place]? = some pivot) :
    (part (fun x => do pure !(← less pivot x)) true place xs).Yields cmp
      (Parts (fun x => decide (key x ≤ key pivot)) xs) := by
  refine part_yields (fun i x hx hi => ?_) ?_
  · have hne := (ne_of_place_ne hd hpivot hx hi).symm
    refine (h.less fun _ _ => hne).bind fun b hb => .pure ?_
    rw [Bool.eq_iff_iff, Bool.not_eq_true', Bool.eq_false_iff, ne_eq, hb, decide_eq_true_iff,
      Nat.not_lt]
  · intro x hx
    cases hx.symm.trans hpivot
    exact decide_eq_true (Nat.le_refl _)

theorem sortByParting_yields (hc : Coherent fun x y o => cmp x y = .ok o) (h : Ranks cmp key)
    (limit : Nat) (hd : xs.Nodup) (hleast : ∀ p ∈ least, ∀ x ∈ xs, key p ≤ key x) :
    (sortByParting scratch limit least xs).Yields cmp (Sorts key xs) := by
  induction limit generalizing least xs with
  | zero =>
    rw [sortByParting]
    split
    · exact sortHalves_yields h hd
    · exact sortByRuns_yields h (.inl rfl) hd
  | succ limit ih =>
    rw [sortByParting]
    split
    · exact sortHalves_yields h hd
    · next hlong =>
      have hmany : 8 ≤ xs.length := by
        have hfew : fewElements = 32 := rfl
        omega
      refine (pivotPlace_yields hc hd hmany).bind fun place htried => ?_
      have ⟨pivot, hpivot, _⟩ := htried
      rw [hpivot]
      have hself := compares_self hc h hleast htried hpivot
      refine (partSmaller_yields h hd hself hleast hpivot).bind fun p hp => ?_
      obtain ⟨smaller, others⟩ := p
      simp only
      split
      · next hempty =>
        have hall : ∀ x ∈ xs, key pivot ≤ key x := fun x hx =>
          Nat.not_lt.1 (of_decide_eq_false (hp.keep_eq_false hempty hx))
        refine (partEqual_yields h hd hpivot).bind fun q hq => ?_
        obtain ⟨equal, greater⟩ := q
        have hequal : ∀ x ∈ equal, key x = key pivot := fun x hx =>
          Nat.le_antisymm (of_decide_eq_true (hq.mem_lefts.1 hx).2) (hall x (hq.mem_lefts.1 hx).1)
        have hle : ∀ x ∈ equal, ∀ y ∈ greater, key x ≤ key y := fun x hx y hy =>
          Nat.le_trans (Nat.le_of_eq (hequal x hx)) (hall y (hq.mem_rights.1 hy).1)
        have hnone : ∀ p ∈ (none : Option α), ∀ x ∈ greater, key p ≤ key x := nofun
        refine (ih (hq.nodup_rights hd) hnone).bind fun sorted hs => .pure ?_
        exact hq.sorts (fun x y he => by rw [he]) hle (.of_level hequal) hs
      · have hsmaller : ∀ x ∈ smaller, key x < key pivot := fun x hx =>
          of_decide_eq_true (hp.mem_lefts.1 hx).2
        have hothers : ∀ x ∈ others, key pivot ≤ key x := fun x hx =>
          Nat.not_lt.1 (of_decide_eq_false (hp.mem_rights.1 hx).2)
        have hpivotLeast : ∀ p ∈ some pivot, ∀ x ∈ others, key p ≤ key x := by
          rintro p ⟨⟩
          exact hothers
        have hleast' : ∀ p ∈ least, ∀ x ∈ smaller, key p ≤ key x := fun p hmem x hx =>
          hleast p hmem x (hp.mem_lefts.1 hx).1
        have hle : ∀ x ∈ smaller, ∀ y ∈ others, key x ≤ key y := fun x hx y hy =>
          Nat.le_of_lt (Nat.lt_of_lt_of_le (hsmaller x hx) (hothers y hy))
        refine (ih (hp.nodup_rights hd) hpivotLeast).bind fun sortedOthers ho => ?_
        refine (ih (hp.nodup_lefts hd) hleast').bind fun sorted hs => .pure ?_
        exact hp.sorts (fun x y he => by rw [he]) hle hs ho

/-- With answers that are in some order of the elements the routine gives the one stable sort by it;
it is stopped by two different elements alone that do not compare. -/
theorem sort_yields (hc : Coherent fun x y o => cmp x y = .ok o) (h : Ranks cmp key)
    (hd : xs.Nodup) : (sort xs).Yields cmp (Sorts key xs) := by
  rw [sort]
  split
  · exact extendSorted_yields h hd .nil
  · refine sortByRuns_yields h (.inr fun ys hys => ?_) hd
    exact sortByParting_yields hc h _ hys nofun

end Parting

section Insertion

theorem insertLast_finishes (x : α) (ys : List α) : (insertLast x ys).Finishes := by
  induction ys with
  | nil => trivial
  | cons y ys ih =>
    intro answer
    cases answer with
    | true => exact ih.bind fun _ => trivial
    | false => trivial

theorem insertAll_finishes (sorted xs : List α) : (insertAll sorted xs).Finishes := by
  induction xs generalizing sorted with
  | nil => trivial
  | cons x xs ih => exact (insertLast_finishes x sorted).bind ih

theorem sort_finishes (hshort : xs.length ≤ shortLength) : (sort xs).Finishes := by
  rw [sort, if_pos hshort]
  exact (insertAll_finishes [] xs).bind fun _ => trivial

end Insertion

end RecordQuery.Routine
