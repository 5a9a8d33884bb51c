import RecordQuery.Proofs.Reader

namespace RecordQuery.Reader

open Lexeme

variable {α β : Type} {p q : Reader α} {f : α → Reader β} {cs rest : List Char}
  {form : List Char → α → Prop} {stop stop' : List Char → Prop}

/-- What the reader has taken when it fails is of the given form. -/
def Stops (p : Reader α) (stop : List Char → Prop) : Prop :=
  ∀ cs rest, p cs = .error rest → ∃ taken, cs = taken ++ rest ∧ stop taken

def Total (p : Reader α) : Prop :=
  ∀ cs rest, p cs ≠ .error rest

theorem bind_eq_error :
    (p >>= f) cs = .error rest ↔
      p cs = .error rest ∨ ∃ a mid, p cs = .ok (a, mid) ∧ f a mid = .error rest := by
  constructor
  · intro h
    cases hp : p cs with
    | ok result => exact .inr ⟨result.1, result.2, rfl, (bind_of_ok hp).symm.trans h⟩
    | error last =>
      cases (bind_of_error hp).symm.trans h
      exact .inl rfl
  · rintro (hp | ⟨a, mid, hp, hf⟩)
    · exact bind_of_error hp
    · exact (bind_of_ok hp).trans hf

section Total

theorem total_pure (a : α) : Total (pure a : Reader α) := nofun

theorem total_taking (split : List Char → List Char × List Char) : Total (taking split) := nofun

theorem total_spaces : Total spaces := nofun

theorem total_many (p : Reader α) : Total (many p) := nofun

theorem total_optional (p : Reader α) : Total (optional p) := by
  intro cs rest h
  rw [optional] at h
  split at h <;> cases h

theorem Total.bind (hp : Total p) (hf : ∀ a, Total (f a)) : Total (p >>= f) := by
  intro cs rest h
  rcases bind_eq_error.1 h with h | ⟨a, mid, -, h⟩
  · exact hp cs rest h
  · exact hf a mid rest h

theorem Total.stops (hp : Total p) : Stops p stop := by
  intro cs rest h
  exact (hp cs rest h).elim

end Total

section Stops

theorem Stops.mono (hp : Stops p stop) (h : ∀ {taken}, stop taken → stop' taken) :
    Stops p stop' := by
  intro cs rest hr
  obtain ⟨taken, he, hstop⟩ := hp cs rest hr
  exact ⟨taken, he, h hstop⟩

theorem stops_at_once (h : ∀ cs rest, p cs = .error rest → rest = cs) : Stops p (· = []) := by
  intro cs rest hr
  obtain rfl := h cs rest hr
  exact ⟨[], rfl, rfl⟩

theorem Stops.of_at_once (hp : Stops p (· = [])) (h : stop []) : Stops p stop := by
  apply hp.mono
  rintro _ rfl
  exact h

theorem Stops.bind (hp : Stops p stop) (hs : Sound p form)
    (hf : ∀ {taken a}, form taken a → Stops (f a) fun more => stop (taken ++ more)) :
    Stops (p >>= f) stop := by
  intro cs rest h
  rcases bind_eq_error.1 h with hfirst | ⟨a, mid, ha, hsecond⟩
  · exact hp cs rest hfirst
  · obtain ⟨taken, rfl, hform⟩ := hs ha
    obtain ⟨more, rfl, hstop⟩ := hf hform mid rest hsecond
    exact ⟨taken ++ more, (List.append_assoc _ _ _).symm, hstop⟩

theorem Stops.bind_total (hp : Stops p stop) (hf : ∀ a, Total (f a)) : Stops (p >>= f) stop := by
  intro cs rest h
  rcases bind_eq_error.1 h with h | ⟨a, mid, -, h⟩
  · exact hp cs rest h
  · exact (hf a mid rest h).elim

theorem Stops.orElse (hq : Stops q stop) : Stops (p.orElse q) stop := by
  intro cs rest h
  rw [Reader.orElse] at h
  split at h
  · cases h
  · exact hq cs rest h

end Stops

section Words

theorem satisfying_stops (accept : Char → Bool) : Stops (satisfying accept) (· = []) := by
  apply stops_at_once
  intro cs rest h
  cases cs with
  | nil =>
    cases h
    rfl
  | cons c cs =>
    rw [satisfying] at h
    split at h
    · cases h
    · cases h
      rfl

theorem keyword_stops (word : String) : Stops (keyword word) (· = []) := by
  apply stops_at_once
  intro cs rest h
  rw [keyword] at h
  split at h
  · cases h
  · cases h
    rfl

theorem someSpaces_stops : Stops someSpaces (· = []) :=
  (satisfying_stops _).bind_total fun _ => total_spaces

theorem atEnd_stops : Stops atEnd (· = []) := by
  apply stops_at_once
  intro cs rest h
  cases cs with
  | nil => cases h
  | cons c cs =>
    cases h
    rfl

theorem spaces_sound : Sound spaces fun gap _ => IsGap gap :=
  fun h => spaces_eq_ok h

theorem someSpaces_sound : Sound someSpaces fun space _ => IsBreak space :=
  fun h => someSpaces_eq_ok h

theorem keyword_sound (word : String) : Sound (keyword word) fun w _ => Spells word w :=
  fun h => keyword_eq_ok h

end Words

section Offsets

theorem utf8Length_append (cs ds : List Char) :
    utf8Length (cs ++ ds) = utf8Length cs + utf8Length ds := by
  induction cs with
  | nil => exact (Nat.zero_add _).symm
  | cons c cs ih => rw [List.cons_append, utf8Length, ih, utf8Length, Nat.add_assoc]

theorem utf8ByteSize_ofList (cs : List Char) : (String.ofList cs).utf8ByteSize = utf8Length cs := by
  induction cs with
  | nil => rfl
  | cons c cs ih =>
    rw [String.ofList_cons, String.utf8ByteSize_append, String.utf8ByteSize_singleton, ih,
      utf8Length]

/-- The number of bytes that a failure tells are those of the text before its place. -/
theorem Stops.run {ε : Type} {text : String} {error : Nat → ε} {e : ε} (hp : Stops p stop)
    (h : (p.run text).mapError error = .error e) :
    ∃ head tail, text = head ++ tail ∧ e = error head.utf8ByteSize ∧ stop head.toList := by
  rw [Reader.run] at h
  cases hr : p text.toList with
  | ok result =>
    rw [hr] at h
    cases h
  | error rest =>
    rw [hr] at h
    obtain ⟨taken, he, hstop⟩ := hp _ rest hr
    refine ⟨String.ofList taken, String.ofList rest, ?_, ?_, ?_⟩
    · rw [← String.ofList_append, ← he, String.ofList_toList]
    · have hlength : utf8Length text.toList - utf8Length rest = utf8Length taken := by
        rw [he, utf8Length_append, Nat.add_sub_cancel]
      have hoffset : error (utf8Length text.toList - utf8Length rest) = e := Except.error.inj h
      rw [← hoffset, hlength, utf8ByteSize_ofList]
    · rwa [String.toList_ofList]

end Offsets

end RecordQuery.Reader
