import RecordQuery.Condition.Matching
import RecordQuery.Proofs.Filter.Cursor

namespace RecordQuery

variable {q α β : Type}

namespace Criterion

variable {s : Criterion q α} {judge : α → Inquiry q Error Bool} {source rest : List α} {a : α}
  {b : Bool} {e : Error}

def pass (s : Criterion q α) (source : List α) : List (Entry α) :=
  ((Cursor.start source).drain s).answer

theorem pass_eq_entries (s : Criterion q α) (source : List α) : s.pass source = s.entries source :=
  (Cursor.drain_spec s _).1

theorem entries_cons_of_ok (h : (s.judge a).outcome = .ok b) :
    s.entries (a :: rest) =
      if b = s.matching then .ok a :: s.entries rest else s.entries rest := by
  by_cases hb : b = s.matching
  · simp [entries, entry?, h, hb]
  · simp [entries, entry?, h, hb]

theorem entries_cons_of_error (h : (s.judge a).outcome = .error e) :
    s.entries (a :: rest) = .error e :: s.entries rest := by
  simp [entries, entry?, h]

theorem mem_of_ok_mem_entries (h : .ok a ∈ s.entries source) : a ∈ source := by
  obtain ⟨c, hc, he⟩ := List.mem_filterMap.1 h
  unfold entry? at he
  split at he
  · split at he
    · cases he
      exact hc
    · cases he
  · cases he

/-- Marks on the elements that the judgement does not see change no entry. -/
theorem map_entries (g : β → α) (judge : α → Inquiry q Error Bool) (b : Bool) (xs : List β) :
    (entries ⟨fun p => judge (g p), b⟩ xs).map (Except.map g) = entries ⟨judge, b⟩ (xs.map g) := by
  rw [entries, entries, List.map_filterMap, List.filterMap_map]
  congr 1
  funext p
  cases h : (judge (g p)).outcome with
  | error e => simp [h, Except.map, entry?]
  | ok c =>
    by_cases hc : c = b
    · simp [h, hc, Except.map, entry?]
    · simp [h, hc, entry?]

theorem length_entries (judge : α → Inquiry q Error Bool) (source : List α) :
    (entries ⟨judge, true⟩ source).length + (entries ⟨judge, false⟩ source).length =
      source.length + source.countP fun a => !(judge a).outcome.isOk := by
  induction source with
  | nil => rfl
  | cons a rest ih =>
    cases h : (judge a).outcome with
    | error e =>
      have hcount : (a :: rest).countP (fun a => !(judge a).outcome.isOk) = _ :=
        List.countP_cons_of_pos (by rw [h]; rfl)
      rw [entries_cons_of_error h, entries_cons_of_error h, hcount]
      simp only [List.length_cons]
      omega
    | ok b =>
      have hcount : (a :: rest).countP (fun a => !(judge a).outcome.isOk) = _ :=
        List.countP_cons_of_neg (by rw [h]; nofun)
      rw [entries_cons_of_ok h, entries_cons_of_ok h, hcount, List.length_cons]
      cases b with
      | true =>
        rw [if_pos rfl, if_neg nofun, List.length_cons]
        omega
      | false =>
        rw [if_neg nofun, if_pos rfl, List.length_cons]
        omega

end Criterion

section Joining

open Criterion

variable {place : α → Nat} {judge : α → Inquiry q Error Bool} {source : List α}
  {es fs : List (Entry α)} {a : α}

/-- Puts two passes together: of two elements the one with the smaller place goes first, and an
error waits until both passes have come to it. -/
def joinByPlace (place : α → Nat) : List (Entry α) → List (Entry α) → List (Entry α)
  | [], fs => fs
  | es, [] => es
  | .ok a :: es, .ok b :: fs =>
    if place a < place b then .ok a :: joinByPlace place es (.ok b :: fs)
    else .ok b :: joinByPlace place (.ok a :: es) fs
  | .ok a :: es, .error e :: fs => .ok a :: joinByPlace place es (.error e :: fs)
  | .error e :: es, .ok b :: fs => .ok b :: joinByPlace place (.error e :: es) fs
  | .error e :: es, .error _ :: fs => .error e :: joinByPlace place es fs
termination_by es fs => es.length + fs.length

theorem joinByPlace_nil (place : α → Nat) (es : List (Entry α)) : joinByPlace place es [] = es := by
  cases es with
  | nil => rw [joinByPlace]
  | cons entry es => rw [joinByPlace]; simp

theorem joinByPlace_ok_left (h : ∀ b, .ok b ∈ fs → place a < place b) :
    joinByPlace place (.ok a :: es) fs = .ok a :: joinByPlace place es fs := by
  cases fs with
  | nil => rw [joinByPlace_nil, joinByPlace_nil]
  | cons entry fs =>
    cases entry with
    | ok b => rw [joinByPlace, if_pos (h b List.mem_cons_self)]
    | error e => rw [joinByPlace]

theorem joinByPlace_ok_right (h : ∀ b, .ok b ∈ es → place a < place b) :
    joinByPlace place es (.ok a :: fs) = .ok a :: joinByPlace place es fs := by
  cases es with
  | nil => rw [joinByPlace, joinByPlace]
  | cons entry es =>
    cases entry with
    | ok b => rw [joinByPlace, if_neg (Nat.lt_asymm (h b List.mem_cons_self))]
    | error e => rw [joinByPlace]

/-- What stands for each element of the source: itself, or the error of one that cannot be
judged. -/
def verdict (judge : α → Inquiry q Error Bool) (a : α) : Entry α :=
  (judge a).outcome.map fun _ => a

theorem joinByPlace_entries (h : source.Pairwise fun a b => place a < place b) :
    joinByPlace place (entries ⟨judge, true⟩ source) (entries ⟨judge, false⟩ source) =
      source.map (verdict judge) := by
  induction source with
  | nil => exact joinByPlace_nil place []
  | cons a rest ih =>
    obtain ⟨hfirst, hrest⟩ := List.pairwise_cons.1 h
    have hlater (b : Bool) : ∀ c, .ok c ∈ entries ⟨judge, b⟩ rest → place a < place c :=
      fun c hc => hfirst c (mem_of_ok_mem_entries hc)
    rw [List.map_cons, ← ih hrest, verdict]
    cases hj : (judge a).outcome with
    | error e =>
      rw [entries_cons_of_error hj, entries_cons_of_error hj, joinByPlace]
      rfl
    | ok b =>
      rw [entries_cons_of_ok hj, entries_cons_of_ok hj]
      cases b with
      | true => exact joinByPlace_ok_left (hlater false)
      | false => exact joinByPlace_ok_right (hlater true)

end Joining

/-- Every element of a source comes up in exactly one of the two passes, or its error in both, at the
place that it has among the others. Put together by the places of the elements, the passes give the
source back, and they are longer than it by the number of errors. -/
theorem passes_partition (f : Condition) (record : α → Record) (source : List α) :
    let judge (a : α) := f.holdsOn (record a)
    let pass (matching : Bool) := Criterion.pass ⟨judge, matching⟩
    let judgePlaced (p : α × Nat) := judge p.1
    let placed (matching : Bool) := Criterion.pass ⟨judgePlaced, matching⟩ source.zipIdx
    (∀ before a after, source = before ++ a :: after →
        (∃ b, (judge a).outcome = .ok b ∧
            pass b source = pass b before ++ .ok a :: pass b after ∧
            pass (!b) source = pass (!b) before ++ pass (!b) after) ∨
          ∃ e, (judge a).outcome = .error e ∧
            ∀ b, pass b source = pass b before ++ .error e :: pass b after) ∧
      (∀ b, (placed b).map (Except.map Prod.fst) = pass b source) ∧
      joinByPlace Prod.snd (placed true) (placed false) = source.zipIdx.map (verdict judgePlaced) ∧
      (pass true source).length + (pass false source).length =
        source.length + source.countP fun a => !(judge a).outcome.isOk := by
  intro judge pass judgePlaced placed
  have hpass (b : Bool) : pass b = Criterion.entries ⟨judge, b⟩ :=
    funext (Criterion.pass_eq_entries _)
  have hplaced (b : Bool) : placed b = Criterion.entries ⟨judgePlaced, b⟩ source.zipIdx :=
    Criterion.pass_eq_entries _ _
  refine ⟨?_, ?_, ?_, ?_⟩
  · rintro before a after rfl
    simp only [hpass, Criterion.entries_append]
    cases hj : (judge a).outcome with
    | ok b =>
      refine .inl ⟨b, rfl, ?_, ?_⟩
      · rw [Criterion.entries_cons_of_ok hj, if_pos rfl]
      · rw [Criterion.entries_cons_of_ok hj, if_neg b.eq_not_self.1]
    | error e => exact .inr ⟨e, rfl, fun b => by rw [Criterion.entries_cons_of_error hj]⟩
  · intro b
    rw [hplaced, hpass, Criterion.map_entries Prod.fst, List.zipIdx_map_fst]
  · rw [hplaced, hplaced]
    apply joinByPlace_entries
    exact List.pairwise_iff_getElem.2 fun i j _ _ hij => by simpa using hij
  · rw [hpass, hpass]
    exact Criterion.length_entries judge source

def scrap (v : Value) : Record :=
  ⟨"scrap", fun name => if name = "note" then some v else none, fun _ => none⟩

/-- A scrap that cannot be judged stands in both passes, between the others. -/
theorem passes_partition_scraps :
    let f : Condition := .leaf ⟨⟨"note", .field⟩, .equal, .text "x"⟩
    let pass (matching : Bool) := Criterion.pass ⟨fun v => f.holdsOn (scrap v), matching⟩
    ∃ e, ∀ b, pass b [.text "y", .timestamp ⟨0⟩, .text "x"] =
      pass b [.text "y"] ++ .error e :: pass b [.text "x"] := by
  intro f pass
  obtain ⟨hplaces, -⟩ := passes_partition f scrap [.text "y", .timestamp ⟨0⟩, .text "x"]
  rcases hplaces [.text "y"] (.timestamp ⟨0⟩) [.text "x"] rfl with ⟨b, hb, -⟩ | ⟨e, -, he⟩
  · cases hb
  · exact ⟨e, he⟩

end RecordQuery
