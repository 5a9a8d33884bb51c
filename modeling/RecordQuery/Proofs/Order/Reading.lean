import RecordQuery.Order.Grammar
import RecordQuery.Order.Reader
import RecordQuery.Proofs.Lexeme
import RecordQuery.Proofs.Reader.Repetition

namespace RecordQuery.OrderBy

open Reader Lexeme

variable {calls : Bool} {cs rest gap space w : List Char} {d : Direction} {k : SortKey}
  {ks : List SortKey} {order order' : OrderBy}

section Directions

def startsDirection (c : Char) : Bool :=
  c.toLower == 'a' || c.toLower == 'd'

theorem direction_append (hw : Spells d.name w) (rest : List Char) :
    direction (w ++ rest) = .ok (d, rest) := by
  cases d with
  | asc =>
    have hword : keyword "asc" (w ++ rest) = .ok ((), rest) := keyword_append hw rest
    exact orElse_of_ok (bind_of_ok hword)
  | desc =>
    -- "asc" is tried first and has to fail.
    have hword : keyword "desc" (w ++ rest) = .ok ((), rest) := keyword_append hw rest
    have hd : Avoids (·.toLower == 'a') (w ++ rest) :=
      hw.avoids rfl (fun c hc => by rw [hc]; rfl) rest
    have hasc : Fails (keyword "asc") (w ++ rest) := keyword_fails rfl hd
    exact (orElse_of_fails hasc.bind).trans (bind_of_ok hword)

theorem direction_sound : Sound direction fun w d => Spells d.name w := by
  intro cs d rest h
  rcases orElse_eq_ok h with h | ⟨-, h⟩
  all_goals
    obtain ⟨_, mid, hword, h⟩ := bind_eq_ok.1 h
    obtain ⟨rfl, rfl⟩ := pure_eq_ok.1 h
    exact keyword_eq_ok hword

theorem direction_fails (h : Avoids startsDirection cs) : Fails direction cs := by
  have ha : Avoids (·.toLower == 'a') cs := h.mono fun c hc => by simp_all [startsDirection]
  have hd : Avoids (·.toLower == 'd') cs := h.mono fun c hc => by simp_all [startsDirection]
  exact (keyword_fails rfl ha).bind.orElse (keyword_fails rfl hd).bind

theorem name_eq_cons (d : Direction) :
    ∃ c ds, d.name.toList = c :: ds ∧ c ≠ ' ' ∧ c ≠ '(' := by
  cases d <;> exact ⟨_, _, rfl, by decide, by decide⟩

end Directions

section Keys

def EndsKey (rest : List Char) : Prop :=
  EndsAttribute rest ∧ Avoids startsDirection (rest.dropWhile (· = ' '))

theorem endsKey_nil : EndsKey [] :=
  ⟨⟨.nil, .nil⟩, .nil⟩

theorem endsKey_comma (hg : IsGap gap) : EndsKey (gap ++ ',' :: rest) := by
  rw [EndsKey, EndsAttribute, hg.dropWhile_append]
  exact ⟨⟨.gap hg (by decide) (.cons (by decide)), .cons (by decide)⟩, .cons (by decide)⟩

theorem endsAttribute_direction (hs : IsBreak space) (hw : Spells d.name w) :
    EndsAttribute (space ++ (w ++ rest)) := by
  obtain ⟨c, ds, hd, hspace, hparen⟩ := name_eq_cons d
  rw [EndsAttribute, hs.2.dropWhile_word hw hd hspace]
  refine ⟨hs.avoids (by decide), hw.avoids hd (fun c' hc => beq_eq_false_iff_ne.2 ?_) rest⟩
  rintro rfl
  exact hparen hc.symm

theorem sortKey_complete : Complete (sortKey calls) (SortKeyForm calls) EndsKey := by
  intro cs k rest h hr
  cases h with
  | bare ha =>
    -- Spaces behind the key are taken and given back, because no direction follows them.
    have hnone : Fails (do someSpaces; direction) rest :=
      .after_someSpaces (direction_fails hr.2)
    rw [sortKey, bind_of_ok (attr_complete ha hr.1), bind_of_ok (optional_of_fails hnone)]
    exact pure_eq_ok.2 ⟨rfl, rfl⟩
  | @directed cs space w a d ha hs hw =>
    obtain ⟨c, ds, hd, hspace, -⟩ := name_eq_cons d
    have hdir : (do someSpaces; direction : Reader Direction) (space ++ (w ++ rest)) =
        .ok (d, rest) := by
      rw [bind_of_ok (someSpaces_append hs (hw.avoids_space hd hspace rest))]
      exact direction_append hw rest
    simp only [List.append_assoc]
    rw [sortKey, bind_of_ok (attr_complete ha (endsAttribute_direction hs hw)),
      bind_of_ok (optional_of_ok hdir)]
    exact pure_eq_ok.2 ⟨rfl, rfl⟩

theorem sortKey_sound : Sound (sortKey calls) (SortKeyForm calls) := by
  intro cs k rest h
  obtain ⟨a, mid, hattr, h⟩ := bind_eq_ok.1 h
  obtain ⟨dir, mid', hdir, h⟩ := bind_eq_ok.1 h
  obtain ⟨rfl, rfl⟩ := pure_eq_ok.1 h
  obtain ⟨taken, rfl, ha⟩ := attr_sound hattr
  rcases optional_eq_ok hdir with ⟨d, rfl, hd⟩ | ⟨rfl, rfl⟩
  · obtain ⟨_, mid, hspaces, hword⟩ := bind_eq_ok.1 hd
    obtain ⟨space, rfl, hs⟩ := someSpaces_eq_ok hspaces
    obtain ⟨w, rfl, hw⟩ := direction_sound hword
    exact ⟨_, by simp only [List.append_assoc], .directed d ha hs hw⟩
  · exact ⟨taken, rfl, .bare ha⟩

theorem SortKeyForm.exists_cons (h : SortKeyForm calls cs k) :
    ∃ c ds, cs = c :: ds ∧ startsIdentifier c = true := by
  cases h with
  | bare ha => exact ha.exists_cons
  | directed d ha _ _ =>
    obtain ⟨c, ds, rfl, hc⟩ := ha.exists_cons
    exact ⟨c, _, rfl, hc⟩

theorem SortKeyForm.avoids_space (h : SortKeyForm calls cs k) (rest : List Char) :
    Avoids (· = ' ') (cs ++ rest) := by
  obtain ⟨c, ds, rfl, hc⟩ := h.exists_cons
  exact .cons (decide_eq_false (startsIdentifier_ne hc (by decide)))

end Keys

section Sequences

/-- A key with the comma before it. -/
inductive FurtherKeyForm (calls : Bool) : List Char → SortKey → Prop where
  | intro {before after cs : List Char} {k : SortKey} (hb : IsGap before) (ha : IsGap after)
      (hk : SortKeyForm calls cs k) : FurtherKeyForm calls (before ++ ',' :: (after ++ cs)) k

theorem furtherKey_complete : Complete (furtherKey calls) (FurtherKeyForm calls) EndsKey := by
  intro cs k rest h hr
  cases h with
  | @intro before after cs k hb ha hk =>
    have hbefore : spaces (before ++ ',' :: (after ++ (cs ++ rest))) = .ok ((), _) :=
      spaces_append hb (.cons rfl)
    have hafter : spaces (after ++ (cs ++ rest)) = .ok ((), _) :=
      spaces_append ha (hk.avoids_space rest)
    simp only [List.append_assoc, List.cons_append]
    rw [furtherKey, bind_of_ok hbefore, bind_of_ok (exactly_cons "," ',' rfl _),
      bind_of_ok hafter]
    exact sortKey_complete hk hr

theorem furtherKey_sound : Sound (furtherKey calls) (FurtherKeyForm calls) := by
  intro cs k rest h
  obtain ⟨_, mid₁, hbefore, h⟩ := bind_eq_ok.1 h
  obtain ⟨_, mid₂, hcomma, h⟩ := bind_eq_ok.1 h
  obtain ⟨_, mid₃, hafter, hkey⟩ := bind_eq_ok.1 h
  obtain ⟨before, rfl, hb⟩ := spaces_eq_ok hbefore
  obtain rfl := exactly_eq_ok hcomma
  obtain ⟨after, rfl, ha⟩ := spaces_eq_ok hafter
  obtain ⟨taken, rfl, hk⟩ := sortKey_sound hkey
  exact ⟨_, by simp, .intro hb ha hk⟩

theorem FurtherKeyForm.ne_nil (h : FurtherKeyForm calls cs k) : cs ≠ [] := by
  cases h with
  | intro => simp

theorem FurtherKeyForm.endsKey (h : FurtherKeyForm calls cs k) : EndsKey (cs ++ rest) := by
  cases h with
  | intro hb ha hk =>
    rw [List.append_assoc]
    exact endsKey_comma hb

theorem furtherKeys_complete :
    Complete (many (furtherKey calls)) (Repetition (FurtherKeyForm calls))
      fun rest => EndsKey rest ∧ Fails (furtherKey calls) rest :=
  many_complete furtherKey_complete FurtherKeyForm.ne_nil FurtherKeyForm.endsKey

theorem KeysForm.of_repetition {front : List Char} (hk : SortKeyForm calls front k)
    (h : Repetition (FurtherKeyForm calls) cs ks) : KeysForm calls (front ++ cs) (k :: ks) := by
  induction h generalizing front k with
  | nil =>
    rw [List.append_nil]
    exact .one hk
  | cons hf _ ih =>
    obtain ⟨hb, ha, hk'⟩ := hf
    have hmore := KeysForm.more hk hb ha (ih hk')
    simpa only [List.append_assoc, List.cons_append] using hmore

theorem KeysForm.exists_repetition (h : KeysForm calls cs ks) :
    ∃ k more front tail, ks = k :: more ∧ cs = front ++ tail ∧ SortKeyForm calls front k ∧
      Repetition (FurtherKeyForm calls) tail more := by
  induction h with
  | @one cs k hk => exact ⟨k, [], cs, [], rfl, (List.append_nil cs).symm, hk, .nil⟩
  | @more cs before after ds k ks hk hb ha _ ih =>
    obtain ⟨k', more, front, tail, rfl, rfl, hk', hmore⟩ := ih
    refine ⟨k, k' :: more, cs, _, rfl, ?_, hk, .cons (.intro hb ha hk') hmore⟩
    simp

theorem KeysForm.avoids_space (h : KeysForm calls cs ks) : Avoids (· = ' ') cs := by
  obtain ⟨k, more, front, tail, -, rfl, hk, -⟩ := h.exists_repetition
  exact hk.avoids_space tail

theorem furtherKey_fails_nil : Fails (furtherKey calls) [] :=
  .bind_right rfl (exactly_fails rfl .nil).bind

end Sequences

section Wholes

variable {o b : List Char} {space' : List Char}

theorem header_append (ho : Spells "order" o) (hs : IsBreak space) (hb : Spells "by" b)
    (hs' : IsBreak space') (hr : Avoids (· = ' ') rest) :
    header (o ++ (space ++ (b ++ (space' ++ rest)))) = .ok ((), rest) := by
  rw [header, bind_of_ok (keyword_append ho _),
    bind_of_ok (someSpaces_append hs (hb.avoids_space rfl (by decide) _)),
    bind_of_ok (keyword_append hb _)]
  exact someSpaces_append hs' hr

theorem header_eq_ok {u : Unit} (h : header cs = .ok (u, rest)) :
    ∃ o space b space', cs = o ++ (space ++ (b ++ (space' ++ rest))) ∧ Spells "order" o ∧
      IsBreak space ∧ Spells "by" b ∧ IsBreak space' := by
  obtain ⟨_, mid₁, horder, h⟩ := bind_eq_ok.1 h
  obtain ⟨_, mid₂, hspace, h⟩ := bind_eq_ok.1 h
  obtain ⟨_, mid₃, hby, hspace'⟩ := bind_eq_ok.1 h
  obtain ⟨o, rfl, ho⟩ := keyword_eq_ok horder
  obtain ⟨space, rfl, hs⟩ := someSpaces_eq_ok hspace
  obtain ⟨b, rfl, hb⟩ := keyword_eq_ok hby
  obtain ⟨space', rfl, hs'⟩ := someSpaces_eq_ok hspace'
  exact ⟨o, space, b, space', rfl, ho, hs, hb, hs'⟩

theorem reader_sound (h : reader calls cs = .ok (order, rest)) : Form calls cs order := by
  obtain ⟨_, mid₁, hheader, h⟩ := bind_eq_ok.1 h
  obtain ⟨k, mid₂, hkey, h⟩ := bind_eq_ok.1 h
  obtain ⟨ks, mid₃, hmore, h⟩ := bind_eq_ok.1 h
  obtain ⟨_, mid₄, hend, h⟩ := bind_eq_ok.1 h
  obtain ⟨rfl, rfl⟩ := pure_eq_ok.1 h
  obtain ⟨rfl, rfl⟩ := atEnd_eq_ok hend
  obtain ⟨o, space, b, space', rfl, ho, hs, hb, hs'⟩ := header_eq_ok hheader
  obtain ⟨front, rfl, hk⟩ := sortKey_sound hkey
  obtain ⟨tail, rfl, hks⟩ := many_sound furtherKey_sound hmore
  have hform := Form.intro ho hs hb hs' (.of_repetition hk hks)
  simpa only [List.append_assoc, List.append_nil] using hform

theorem reader_complete (h : Form calls cs order) : reader calls cs = .ok (order, []) := by
  cases h with
  | intro ho hs hb hs' hks =>
    have hheader := header_append ho hs hb hs' hks.avoids_space
    obtain ⟨k, more, front, tail, rfl, rfl, hk, hmore⟩ := hks.exists_repetition
    have htail : many (furtherKey calls) (tail ++ []) = .ok (more, []) :=
      furtherKeys_complete hmore ⟨endsKey_nil, furtherKey_fails_nil⟩
    have hfront : EndsKey (tail ++ []) := hmore.followed FurtherKeyForm.endsKey endsKey_nil
    rw [List.append_nil] at htail hfront
    simp only [List.append_assoc]
    rw [reader, bind_of_ok hheader, bind_of_ok (sortKey_complete hk hfront), bind_of_ok htail]
    rfl

theorem parse_eq_ok {text : String} : parse text calls = .ok order ↔ Form calls text.toList order :=
  run_eq_ok.trans ⟨fun ⟨_, h⟩ => reader_sound h, fun h => ⟨[], reader_complete h⟩⟩

theorem Form.keys_ne_nil (h : Form calls cs order) : order.keys ≠ [] := by
  obtain ⟨-, -, -, -, hks⟩ := h
  obtain ⟨k, more, -, -, rfl, -⟩ := hks.exists_repetition
  exact List.cons_ne_nil k more

/-- A text is read if and only if the grammar derives it, and then as the one ordering that all its
derivations denote: the keys in the order of the text, at least one, each in the direction that is
written or else the ascending one. -/
theorem parse_decides_clause (text : String) (calls : Bool) :
    (∀ order, parse text calls = .ok order ↔ Form calls text.toList order) ∧
      (∀ order order', Form calls text.toList order → Form calls text.toList order' →
        order = order') ∧
      ∀ order, parse text calls = .ok order → order.keys ≠ [] := by
  refine ⟨fun order => parse_eq_ok, ?_, ?_⟩
  · intro order order' h h'
    have he := (parse_eq_ok.2 h).symm.trans (parse_eq_ok.2 h')
    exact Except.ok.inj he
  · intro order h
    exact (parse_eq_ok.1 h).keys_ne_nil

end Wholes

end RecordQuery.OrderBy
