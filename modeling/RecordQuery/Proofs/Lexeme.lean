import RecordQuery.Proofs.Reader

namespace RecordQuery.Lexeme

open Reader

variable {calls : Bool} {cs rest : List Char} {name : String} {a : Attribute}

theorem identifier_append (hn : IsIdentifier name) (hr : Avoids continuesIdentifier rest) :
    identifier (name.toList ++ rest) = .ok (name, rest) := by
  obtain ⟨c, ds, he, hc, hds⟩ := hn
  have hd : ∀ d ∈ ds, continuesIdentifier d = true := List.all_eq_true.1 hds
  rw [he, List.cons_append, identifier, bind_of_ok (satisfying_cons hc)]
  have htake : taking (fun cs => (cs.takeWhile continuesIdentifier,
      cs.dropWhile continuesIdentifier)) (ds ++ rest) = .ok (ds, rest) := by
    rw [taking, takeWhile_append hd hr, dropWhile_append hd hr]
  rw [bind_of_ok htake]
  refine pure_eq_ok.2 ⟨?_, rfl⟩
  rw [← he, String.ofList_toList]

theorem identifier_eq_ok (h : identifier cs = .ok (name, rest)) :
    cs = name.toList ++ rest ∧ IsIdentifier name := by
  obtain ⟨c, mid, hc, h⟩ := bind_eq_ok.1 h
  obtain ⟨ds, mid', hds, h⟩ := bind_eq_ok.1 h
  obtain ⟨rfl, rfl⟩ := pure_eq_ok.1 h
  obtain ⟨rfl, hstart⟩ := satisfying_eq_ok hc
  cases hds
  refine ⟨?_, c, _, String.toList_ofList, hstart, ?_⟩
  · rw [String.toList_ofList, List.cons_append, List.takeWhile_append_dropWhile]
  · exact List.all_takeWhile

theorem identifier_fails (h : Avoids startsIdentifier cs) : Fails identifier cs :=
  (satisfying_fails h).bind

/-- The text neither goes on with an identifier nor turns it into an accessor call. -/
def EndsAttribute (rest : List Char) : Prop :=
  Avoids continuesIdentifier rest ∧ Avoids (· == '(') (rest.dropWhile (· = ' '))

theorem field_append (hn : IsIdentifier name) (hr : Avoids continuesIdentifier rest) :
    field (name.toList ++ rest) = .ok (⟨name, .field⟩, rest) := by
  rw [field, bind_of_ok (identifier_append hn hr)]
  exact pure_eq_ok.2 ⟨rfl, rfl⟩

theorem accessorCall_append {outer inner : List Char} (hn : IsIdentifier name)
    (ho : IsGap outer) (hi : IsGap inner) :
    accessorCall (name.toList ++ outer ++ '(' :: (inner ++ [')']) ++ rest) =
      .ok (⟨name, .accessor⟩, rest) := by
  have hname : Avoids continuesIdentifier (outer ++ '(' :: (inner ++ ')' :: rest)) :=
    .gap ho (by decide) (.cons (by decide))
  have houter : spaces (outer ++ '(' :: (inner ++ ')' :: rest)) = .ok ((), _) :=
    spaces_append ho (.cons rfl)
  have hinner : spaces (inner ++ ')' :: rest) = .ok ((), _) := spaces_append hi (.cons rfl)
  have he : name.toList ++ outer ++ '(' :: (inner ++ [')']) ++ rest =
      name.toList ++ (outer ++ '(' :: (inner ++ ')' :: rest)) := by simp
  rw [he, accessorCall, bind_of_ok (identifier_append hn hname), bind_of_ok houter,
    bind_of_ok (exactly_cons "(" '(' rfl _), bind_of_ok hinner,
    bind_of_ok (exactly_cons ")" ')' rfl _)]
  exact pure_eq_ok.2 ⟨rfl, rfl⟩

theorem accessorCall_fails (hn : IsIdentifier name) (hr : EndsAttribute rest) :
    Fails accessorCall (name.toList ++ rest) := by
  have hparen : Fails (exactly "(") (rest.dropWhile (· = ' ')) := exactly_fails rfl hr.2
  exact .bind_right (identifier_append hn hr.1) (.bind_right rfl hparen.bind)

theorem attr_complete : Complete (attr calls) (AttributeForm calls) EndsAttribute := by
  intro cs a rest h hr
  cases h with
  | field hn =>
    cases calls with
    | false => exact field_append hn hr.1
    | true => exact (orElse_of_fails (accessorCall_fails hn hr)).trans (field_append hn hr.1)
  | accessor on hn ho hi =>
    subst on
    exact orElse_of_ok (accessorCall_append hn ho hi)

theorem field_eq_ok (h : field cs = .ok (a, rest)) :
    ∃ taken, cs = taken ++ rest ∧ AttributeForm calls taken a := by
  obtain ⟨name, mid, hname, h⟩ := bind_eq_ok.1 h
  obtain ⟨rfl, rfl⟩ := pure_eq_ok.1 h
  obtain ⟨rfl, hn⟩ := identifier_eq_ok hname
  exact ⟨_, rfl, .field hn⟩

theorem accessorCall_eq_ok (h : accessorCall cs = .ok (a, rest)) :
    ∃ taken, cs = taken ++ rest ∧ AttributeForm true taken a := by
  obtain ⟨name, mid, hname, h⟩ := bind_eq_ok.1 h
  obtain ⟨_, mid₁, houter, h⟩ := bind_eq_ok.1 h
  obtain ⟨_, mid₂, hopen, h⟩ := bind_eq_ok.1 h
  obtain ⟨_, mid₃, hinner, h⟩ := bind_eq_ok.1 h
  obtain ⟨_, mid₄, hclose, h⟩ := bind_eq_ok.1 h
  obtain ⟨rfl, rfl⟩ := pure_eq_ok.1 h
  obtain ⟨rfl, hn⟩ := identifier_eq_ok hname
  obtain ⟨outer, rfl, ho⟩ := spaces_eq_ok houter
  obtain ⟨inner, rfl, hi⟩ := spaces_eq_ok hinner
  refine ⟨_, ?_, .accessor rfl hn ho hi⟩
  rw [exactly_eq_ok hopen, exactly_eq_ok hclose]
  simp

theorem attr_sound : Sound (attr calls) (AttributeForm calls) := by
  intro cs a rest h
  cases calls with
  | false => exact field_eq_ok h
  | true =>
    rcases orElse_eq_ok h with h | ⟨-, h⟩
    · exact accessorCall_eq_ok h
    · exact field_eq_ok h

theorem attr_fails (h : Avoids startsIdentifier cs) : Fails (attr calls) cs := by
  cases calls with
  | false => exact (identifier_fails h).bind
  | true => exact (identifier_fails h).bind.orElse (identifier_fails h).bind

theorem startsIdentifier_ne {c d : Char} (hc : startsIdentifier c = true)
    (hd : startsIdentifier d = false) : c ≠ d := by
  rintro rfl
  rw [hc] at hd
  cases hd

theorem AttributeForm.exists_cons (h : AttributeForm calls cs a) :
    ∃ c ds, cs = c :: ds ∧ startsIdentifier c = true := by
  cases h with
  | field hn =>
    obtain ⟨c, ds, he, hc, -⟩ := hn
    exact ⟨c, ds, he, hc⟩
  | accessor on hn ho hi =>
    obtain ⟨c, ds, he, hc, -⟩ := hn
    exact ⟨c, _, by rw [he]; rfl, hc⟩

/-- The attribute is named by an identifier, and calls are allowed if it is an accessor. -/
structure Writable (calls : Bool) (a : Attribute) : Prop where
  named : IsIdentifier a.name
  allowed : a.lookup = .accessor → calls = true

theorem writable_true : Writable true a ↔ IsIdentifier a.name :=
  ⟨Writable.named, fun h => ⟨h, fun _ => rfl⟩⟩

theorem AttributeForm.writable (h : AttributeForm calls cs a) : Writable calls a := by
  cases h with
  | field hn => exact ⟨hn, nofun⟩
  | accessor on hn _ _ => exact ⟨hn, fun _ => on⟩

theorem Writable.attributeForm (h : Writable calls a) : AttributeForm calls a.text.toList a := by
  obtain ⟨name, lookup⟩ := a
  cases lookup with
  | field => exact .field h.named
  | accessor =>
    have he : (name ++ "()").toList = name.toList ++ [] ++ '(' :: ([] ++ [')']) := by simp
    rw [Attribute.text, he]
    exact .accessor (h.allowed rfl) h.named .nil .nil

end RecordQuery.Lexeme
