import Mathlib.Data.List.TakeWhile
import RecordQuery.Lexeme.Form

namespace RecordQuery.Lexeme

variable {gap cs : List Char}

theorem IsBreak.exists_cons (h : IsBreak cs) : ∃ gap, cs = ' ' :: gap ∧ IsGap gap := by
  cases cs with
  | nil => exact (h.1 rfl).elim
  | cons c gap =>
    have hc : c = ' ' := h.2 c List.mem_cons_self
    subst hc
    exact ⟨gap, rfl, fun d hd => h.2 d (List.mem_cons_of_mem _ hd)⟩

theorem IsGap.nil : IsGap [] := by
  intro c hc
  cases hc

theorem isBreak_space : IsBreak [' '] := by
  refine ⟨List.cons_ne_nil _ _, ?_⟩
  intro c hc
  exact List.mem_singleton.1 hc

theorem IsGap.dropWhile_append (h : IsGap gap) (rest : List Char) :
    (gap ++ rest).dropWhile (· = ' ') = rest.dropWhile (· = ' ') :=
  List.dropWhile_append_of_pos fun c hc => decide_eq_true (h c hc)

end RecordQuery.Lexeme

namespace RecordQuery.Reader

open Lexeme

variable {α β : Type} {p q : Reader α} {f : α → Reader β} {a : α} {b : β}
  {cs mid rest : List Char} {word : String} {accept : Char → Bool}

def Fails (p : Reader α) (cs : List Char) : Prop :=
  ∃ rest, p cs = .error rest

/-- What the reader takes from the front of a text is a written form of its value. -/
def Sound (p : Reader α) (form : List Char → α → Prop) : Prop :=
  ∀ {cs a rest}, p cs = .ok (a, rest) → ∃ taken, cs = taken ++ rest ∧ form taken a

/-- Every written form is taken whole where the text after it is as it has to be. -/
def Complete (p : Reader α) (form : List Char → α → Prop) (follow : List Char → Prop) : Prop :=
  ∀ {cs a rest}, form cs a → follow rest → p (cs ++ rest) = .ok (a, rest)

def Avoids (accept : Char → Bool) (cs : List Char) : Prop :=
  ∀ c ∈ cs.head?, accept c = false

theorem fails_of_ne_ok (h : ∀ a rest, p cs ≠ .ok (a, rest)) : Fails p cs := by
  cases hp : p cs with
  | error rest => exact ⟨rest, hp⟩
  | ok result => exact (h _ _ hp).elim

theorem Fails.ne_ok (h : Fails p cs) (a : α) (rest : List Char) : p cs ≠ .ok (a, rest) := by
  obtain ⟨last, he⟩ := h
  rw [he]
  exact fun h => nomatch h

theorem pure_eq_ok {c : α} : (pure c : Reader α) cs = .ok (a, rest) ↔ c = a ∧ cs = rest := by
  change Except.ok (c, cs) = .ok (a, rest) ↔ _
  rw [Except.ok.injEq, Prod.mk.injEq]

theorem bind_of_ok (h : p cs = .ok (a, mid)) : (p >>= f) cs = f a mid := by
  simp only [bind, h]

theorem bind_of_error (h : p cs = .error rest) : (p >>= f) cs = .error rest := by
  simp only [bind, h]

theorem bind_eq_ok :
    (p >>= f) cs = .ok (b, rest) ↔ ∃ a mid, p cs = .ok (a, mid) ∧ f a mid = .ok (b, rest) := by
  constructor
  · intro h
    cases hp : p cs with
    | ok result => exact ⟨result.1, result.2, rfl, (bind_of_ok hp).symm.trans h⟩
    | error last => exact nomatch (bind_of_error hp).symm.trans h
  · rintro ⟨a, mid, hp, hf⟩
    exact (bind_of_ok hp).trans hf

theorem Fails.bind (h : Fails p cs) : Fails (p >>= f) cs := by
  obtain ⟨rest, he⟩ := h
  exact ⟨rest, bind_of_error he⟩

theorem Fails.bind_right (h : p cs = .ok (a, mid)) (hf : Fails (f a) mid) :
    Fails (p >>= f) cs := by
  obtain ⟨rest, he⟩ := hf
  exact ⟨rest, (bind_of_ok h).trans he⟩

theorem orElse_of_ok (h : p cs = .ok (a, rest)) : (p.orElse q) cs = .ok (a, rest) := by
  simp only [orElse, h]

theorem orElse_of_fails (h : Fails p cs) : (p.orElse q) cs = q cs := by
  obtain ⟨rest, he⟩ := h
  simp only [orElse, he]

theorem orElse_eq_ok (h : (p.orElse q) cs = .ok (a, rest)) :
    p cs = .ok (a, rest) ∨ Fails p cs ∧ q cs = .ok (a, rest) := by
  cases hp : p cs with
  | ok result => exact .inl ((orElse_of_ok hp).symm.trans h)
  | error last => exact .inr ⟨⟨last, hp⟩, (orElse_of_fails ⟨last, hp⟩).symm.trans h⟩

theorem Fails.orElse (hp : Fails p cs) (hq : Fails q cs) : Fails (p.orElse q) cs := by
  obtain ⟨rest, he⟩ := hq
  exact ⟨rest, (orElse_of_fails hp).trans he⟩

theorem optional_of_ok (h : p cs = .ok (a, rest)) : optional p cs = .ok (some a, rest) := by
  rw [optional, h]

theorem optional_of_fails (h : Fails p cs) : optional p cs = .ok (none, cs) := by
  obtain ⟨rest, he⟩ := h
  rw [optional, he]

theorem optional_eq_ok {o : Option α} (h : optional p cs = .ok (o, rest)) :
    (∃ a, o = some a ∧ p cs = .ok (a, rest)) ∨ o = none ∧ cs = rest := by
  cases hp : p cs with
  | ok result =>
    have he := (optional_of_ok hp).symm.trans h
    cases he
    exact .inl ⟨_, rfl, rfl⟩
  | error last =>
    have he := (optional_of_fails ⟨last, hp⟩).symm.trans h
    cases he
    exact .inr ⟨rfl, rfl⟩

section Characters

theorem Avoids.nil : Avoids accept [] := by
  intro c hc
  cases hc

theorem Avoids.cons {c : Char} (h : accept c = false) : Avoids accept (c :: cs) := by
  intro d hd
  cases hd
  exact h

theorem Avoids.mono {accept' : Char → Bool} (h : Avoids accept cs)
    (hi : ∀ c, accept' c = true → accept c = true) : Avoids accept' cs := by
  intro c hc
  have hn := h c hc
  refine Bool.eq_false_iff.2 fun ha => ?_
  rw [hi c ha] at hn
  cases hn

theorem Avoids.gap (hg : IsGap cs) (h : accept ' ' = false) (hr : Avoids accept rest) :
    Avoids accept (cs ++ rest) := by
  cases cs with
  | nil => exact hr
  | cons c cs =>
    rw [hg c List.mem_cons_self]
    exact .cons h

theorem takeWhile_append (hcs : ∀ c ∈ cs, accept c = true) (hr : Avoids accept rest) :
    (cs ++ rest).takeWhile accept = cs := by
  rw [List.takeWhile_append_of_pos hcs]
  cases rest with
  | nil => simp
  | cons c rest => simp [hr c rfl]

theorem dropWhile_append (hcs : ∀ c ∈ cs, accept c = true) (hr : Avoids accept rest) :
    (cs ++ rest).dropWhile accept = rest := by
  rw [List.dropWhile_append_of_pos hcs]
  cases rest with
  | nil => rfl
  | cons c rest => simp [hr c rfl]

theorem satisfying_eq_ok {c : Char} (h : satisfying accept cs = .ok (c, rest)) :
    cs = c :: rest ∧ accept c = true := by
  cases cs with
  | nil => cases h
  | cons d cs =>
    rw [satisfying] at h
    split at h
    · next hd =>
      cases h
      exact ⟨rfl, hd⟩
    · cases h

theorem satisfying_cons {c : Char} (h : accept c = true) :
    satisfying accept (c :: cs) = .ok (c, cs) := by
  rw [satisfying, if_pos h]

theorem satisfying_fails (h : Avoids accept cs) : Fails (satisfying accept) cs := by
  cases cs with
  | nil => exact ⟨_, rfl⟩
  | cons c cs =>
    refine ⟨c :: cs, ?_⟩
    rw [satisfying, if_neg (Bool.eq_false_iff.1 (h c rfl))]

end Characters

section Words

theorem exactly_append (word : String) (rest : List Char) :
    exactly word (word.toList ++ rest) = .ok ((), rest) := by
  rw [exactly, if_pos (by simp), List.drop_left]

theorem exactly_cons (word : String) (c : Char) (hw : word.toList = [c]) (rest : List Char) :
    exactly word (c :: rest) = .ok ((), rest) := by
  have h := exactly_append word rest
  rwa [hw] at h

theorem exactly_eq_ok {u : Unit} (h : exactly word cs = .ok (u, rest)) :
    cs = word.toList ++ rest := by
  rw [exactly] at h
  split at h
  · next hp =>
    obtain ⟨tail, rfl⟩ := List.isPrefixOf_iff_prefix.1 hp
    cases h
    rw [List.drop_left]
  · cases h

theorem exactly_fails {c : Char} {ds : List Char} (hw : word.toList = c :: ds)
    (h : Avoids (· == c) cs) : Fails (exactly word) cs := by
  apply fails_of_ne_ok
  intro u rest he
  have hcs := exactly_eq_ok he
  rw [hw] at hcs
  have hc := h c (by simp [hcs])
  simp at hc

theorem keyword_append {w : List Char} (hw : Spells word w) (rest : List Char) :
    keyword word (w ++ rest) = .ok ((), rest) := by
  have hl : word.toList.length = w.length := by rw [← hw, List.length_map]
  rw [keyword, hl, List.take_left, List.drop_left]
  exact if_pos hw

theorem keyword_eq_ok {u : Unit} (h : keyword word cs = .ok (u, rest)) :
    ∃ w, cs = w ++ rest ∧ Spells word w := by
  rw [keyword] at h
  split at h
  · next hw =>
    cases h
    exact ⟨_, (List.take_append_drop _ _).symm, hw⟩
  · cases h

theorem keyword_fails {c : Char} {ds : List Char} (hw : word.toList = c :: ds)
    (h : Avoids (·.toLower == c) cs) : Fails (keyword word) cs := by
  apply fails_of_ne_ok
  intro u rest he
  obtain ⟨w, rfl, hs⟩ := keyword_eq_ok he
  rw [Spells, hw] at hs
  cases w with
  | nil => cases hs
  | cons d w =>
    have hd : d.toLower = c := (List.cons.inj hs).1
    have hc := h d rfl
    simp [hd] at hc

end Words

section Spaces

theorem spaces_append (hg : IsGap cs) (hr : Avoids (· = ' ') rest) :
    spaces (cs ++ rest) = .ok ((), rest) := by
  rw [spaces, dropWhile_append _ hr]
  intro c hc
  exact decide_eq_true (hg c hc)

theorem spaces_eq_ok {u : Unit} (h : spaces cs = .ok (u, rest)) :
    ∃ gap, cs = gap ++ rest ∧ IsGap gap := by
  cases h
  refine ⟨_, List.takeWhile_append_dropWhile.symm, ?_⟩
  intro c hc
  have hspace := List.mem_takeWhile_imp hc
  exact of_decide_eq_true hspace

theorem someSpaces_append (hb : IsBreak cs) (hr : Avoids (· = ' ') rest) :
    someSpaces (cs ++ rest) = .ok ((), rest) := by
  obtain ⟨gap, rfl, hg⟩ := hb.exists_cons
  exact (bind_of_ok (satisfying_cons rfl)).trans (spaces_append hg hr)

theorem someSpaces_eq_ok {u : Unit} (h : someSpaces cs = .ok (u, rest)) :
    ∃ space, cs = space ++ rest ∧ IsBreak space := by
  obtain ⟨c, mid, hc, hs⟩ := bind_eq_ok.1 h
  obtain ⟨rfl, hspace⟩ := satisfying_eq_ok hc
  obtain ⟨gap, rfl, hg⟩ := spaces_eq_ok hs
  refine ⟨c :: gap, rfl, List.cons_ne_nil _ _, ?_⟩
  intro d hd
  rcases List.mem_cons.1 hd with rfl | hd
  · exact of_decide_eq_true hspace
  · exact hg d hd

theorem someSpaces_fails (h : Avoids (· = ' ') cs) : Fails someSpaces cs :=
  (satisfying_fails h).bind

/-- What has to stand behind spaces fails where it fails behind all spaces there are. -/
theorem Fails.after_someSpaces {f : Unit → Reader α} (h : Fails (f ()) (cs.dropWhile (· = ' '))) :
    Fails (someSpaces >>= f) cs := by
  cases cs with
  | nil => exact (someSpaces_fails .nil).bind
  | cons d cs =>
    by_cases hd : d = ' '
    · subst hd
      have hspaces : someSpaces (' ' :: cs) = .ok ((), cs.dropWhile (· = ' ')) :=
        bind_of_ok (satisfying_cons rfl)
      rw [List.dropWhile_cons_of_pos (by decide)] at h
      exact .bind_right hspaces h
    · exact (someSpaces_fails (.cons (decide_eq_false hd))).bind

end Spaces

theorem atEnd_eq_ok {u : Unit} (h : atEnd cs = .ok (u, rest)) : cs = [] ∧ rest = [] := by
  cases cs with
  | nil =>
    cases h
    exact ⟨rfl, rfl⟩
  | cons c cs => cases h

theorem run_eq_ok {ε : Type} {text : String} {error : Nat → ε} :
    (run p text).mapError error = .ok a ↔ ∃ rest, p text.toList = .ok (a, rest) := by
  rw [run]
  cases h : p text.toList with
  | ok result => simp [Except.mapError, Prod.ext_iff]
  | error rest => simp [Except.mapError]

section Repetition

theorem repeated_of_ok (h : p cs = .ok (a, rest)) (hl : rest.length < cs.length) :
    repeated p cs = (a :: (repeated p rest).1, (repeated p rest).2) := by
  rw [repeated, h]
  exact if_pos hl

theorem repeated_of_fails (h : Fails p cs) : repeated p cs = ([], cs) := by
  obtain ⟨rest, he⟩ := h
  rw [repeated, he]

end Repetition

end RecordQuery.Reader

namespace RecordQuery.Lexeme

open Reader

variable {before w : List Char} {word : String}

theorem IsBreak.avoids {accept : Char → Bool} {rest : List Char} (h : IsBreak before)
    (hspace : accept ' ' = false) : Avoids accept (before ++ rest) := by
  obtain ⟨gap, rfl, -⟩ := h.exists_cons
  exact .cons hspace

theorem Spells.avoids {accept : Char → Bool} (h : Spells word w) {c : Char} {ds : List Char}
    (hword : word.toList = c :: ds) (hc : ∀ d : Char, d.toLower = c → accept d = false)
    (rest : List Char) : Avoids accept (w ++ rest) := by
  rw [Spells, hword] at h
  cases w with
  | nil => cases h
  | cons d w => exact .cons (hc d (List.cons.inj h).1)

theorem Spells.avoids_space (h : Spells word w) {c : Char} {ds : List Char}
    (hword : word.toList = c :: ds) (hc : c ≠ ' ') (rest : List Char) :
    Avoids (· = ' ') (w ++ rest) := by
  refine h.avoids hword (fun d hd => decide_eq_false ?_) rest
  rintro rfl
  exact hc hd.symm

theorem IsGap.dropWhile_word {gap : List Char} (hg : IsGap gap) (h : Spells word w) {c : Char}
    {ds : List Char} (hword : word.toList = c :: ds) (hc : c ≠ ' ') (rest : List Char) :
    (gap ++ (w ++ rest)).dropWhile (· = ' ') = w ++ rest :=
  Reader.dropWhile_append (fun c hc => decide_eq_true (hg c hc)) (h.avoids_space hword hc rest)

end RecordQuery.Lexeme
