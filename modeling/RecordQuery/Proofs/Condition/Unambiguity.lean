import RecordQuery.Proofs.Condition.RoundTrip

namespace RecordQuery.Condition

open Reader Lexeme Formula

variable {f f' g g' : Condition} {fs gs : List Condition} {rest rest' : List Char}
  {joiner joiner' word word' : String} {c c' : Char}

/-- Where a text begins with that of this condition, no other condition's text ends elsewhere or
denotes something else. What follows must not continue a literal. -/
def SelfDelimiting (f : Condition) : Prop :=
  ∀ {g : Condition} {rest rest' : List Char}, g.Grouped → g.Named →
    Avoids continuesLiteral rest → Avoids continuesLiteral rest' →
    f.text ++ rest = g.text ++ rest' → f.asQuoted = g.asQuoted ∧ rest = rest'

section Leaves

theorem leaf_text_ne {a : Comparison} (hn : Named (.leaf a)) (hg : g.isLeaf = false) :
    text (.leaf a) ++ rest ≠ g.text ++ rest' := by
  obtain ⟨d, ds, hd, hstart⟩ := (leafForm_text (hn a List.mem_cons_self)).exists_cons
  obtain ⟨es, he⟩ := text_of_group hg
  rw [hd, he]
  intro h
  rw [(List.cons.inj h).1] at hstart
  exact absurd hstart (by decide)

theorem selfDelimiting_leaf {a : Comparison} (hn : Named (.leaf a)) :
    SelfDelimiting (.leaf a) := by
  intro g rest rest' _ hgn hr hr' h
  cases hl : g.isLeaf with
  | false => exact (leaf_text_ne hn hl h).elim
  | true =>
    obtain ⟨b, rfl⟩ := exists_of_isLeaf hl
    -- Both texts are read by the one reader of comparisons.
    have hread := comparison_text hn hr
    rw [h, comparison_text hgn hr'] at hread
    obtain ⟨he, hrest⟩ := Prod.mk.inj (Except.ok.inj hread)
    exact ⟨he.symm, hrest.symm⟩

end Leaves

section Groups

theorem paren_ne_furtherText (hj : Joins joiner word c) :
    ')' :: rest ≠ furtherText joiner (g :: gs) ++ rest' := by
  intro h
  obtain ⟨d, es, he, hd⟩ := furtherText_word hj g gs rest'
  rw [← h] at he
  cases he
  exact hj.ne_paren hd.symm

theorem furtherText_joiner (hj : Joins joiner word c) (hj' : Joins joiner' word' c')
    (h : furtherText joiner (f :: fs) ++ rest = furtherText joiner' (g :: gs) ++ rest') :
    c = c' := by
  obtain ⟨d, es, he, hd⟩ := furtherText_word hj f fs rest
  obtain ⟨d', es', he', hd'⟩ := furtherText_word hj' g gs rest'
  rw [h, he'] at he
  cases he
  exact hd.symm.trans hd'

theorem furtherText_inj (hj : Joins joiner word c) (hfs : ∀ f ∈ fs, f.SelfDelimiting)
    (hg : ∀ g ∈ gs, g.Grouped) (hn : ∀ g ∈ gs, g.Named)
    (h : furtherText joiner fs ++ ')' :: rest = furtherText joiner gs ++ ')' :: rest') :
    fs.map asQuoted = gs.map asQuoted ∧ rest = rest' := by
  induction fs generalizing gs with
  | nil =>
    cases gs with
    | nil => exact ⟨rfl, (List.cons.inj h).2⟩
    | cons g gs => exact (paren_ne_furtherText hj h).elim
  | cons f fs ih =>
    cases gs with
    | nil => exact (paren_ne_furtherText hj h.symm).elim
    | cons g gs =>
      obtain ⟨w, he, -⟩ := hj.spells
      rw [furtherText_split he, furtherText_split he] at h
      have hparts := List.append_cancel_left (List.append_cancel_left (List.append_cancel_left h))
      have hr : Avoids continuesLiteral (furtherText joiner fs ++ ')' :: rest) :=
        furtherText_avoids fs rest hj (by decide) (by decide)
      have hr' : Avoids continuesLiteral (furtherText joiner gs ++ ')' :: rest') :=
        furtherText_avoids gs rest' hj (by decide) (by decide)
      obtain ⟨hfirst, hmore⟩ := hfs f List.mem_cons_self (hg g List.mem_cons_self)
        (hn g List.mem_cons_self) hr hr' hparts
      obtain ⟨hothers, hrest⟩ := ih (fun k hk => hfs k (List.mem_cons_of_mem _ hk))
        (fun k hk => hg k (List.mem_cons_of_mem _ hk))
        (fun k hk => hn k (List.mem_cons_of_mem _ hk)) hmore
      exact ⟨by rw [List.map_cons, List.map_cons, hfirst, hothers], hrest⟩

theorem firstPart_inj (hj : Joins joiner word c) (hj' : Joins joiner' word' c')
    (hf : f.SelfDelimiting) (hg : g.Grouped) (hn : g.Named)
    (h : '(' :: (f.text ++ (furtherText joiner fs ++ ')' :: rest)) =
      '(' :: (g.text ++ (furtherText joiner' gs ++ ')' :: rest'))) :
    f.asQuoted = g.asQuoted ∧
      furtherText joiner fs ++ ')' :: rest = furtherText joiner' gs ++ ')' :: rest' :=
  hf hg hn (furtherText_avoids fs rest hj (by decide) (by decide))
    (furtherText_avoids gs rest' hj' (by decide) (by decide)) (List.cons.inj h).2

theorem parts_inj (hj : Joins joiner word c) (hfs : ∀ k ∈ f :: fs, k.SelfDelimiting)
    (hg : ∀ k ∈ g :: gs, k.Grouped) (hn : ∀ k ∈ g :: gs, k.Named)
    (h : '(' :: (f.text ++ (furtherText joiner fs ++ ')' :: rest)) =
      '(' :: (g.text ++ (furtherText joiner gs ++ ')' :: rest'))) :
    (f :: fs).map asQuoted = (g :: gs).map asQuoted ∧ rest = rest' := by
  obtain ⟨hfirst, hmore⟩ := firstPart_inj hj hj (hfs f List.mem_cons_self)
    (hg g List.mem_cons_self) (hn g List.mem_cons_self) h
  obtain ⟨hothers, hrest⟩ := furtherText_inj hj (fun k hk => hfs k (List.mem_cons_of_mem _ hk))
    (fun k hk => hg k (List.mem_cons_of_mem _ hk)) (fun k hk => hn k (List.mem_cons_of_mem _ hk))
    hmore
  exact ⟨by rw [List.map_cons, List.map_cons, hfirst, hothers], hrest⟩

theorem joiner_inj (hj : Joins joiner word c) (hj' : Joins joiner' word' c')
    (hf : f.SelfDelimiting) (hg : g.Grouped) (hn : g.Named)
    (h : '(' :: (f.text ++ (furtherText joiner (f' :: fs) ++ ')' :: rest)) =
      '(' :: (g.text ++ (furtherText joiner' (g' :: gs) ++ ')' :: rest'))) : c = c' :=
  furtherText_joiner hj hj' (firstPart_inj hj hj' hf hg hn h).2

theorem selfDelimiting_all (hg : Grouped (.all fs)) (hfs : ∀ f ∈ fs, f.SelfDelimiting) :
    SelfDelimiting (.all fs) := by
  obtain ⟨f, f', fs, rfl⟩ := exists_two_parts hg.1
  intro g rest rest' hg hn _ _ h
  cases g with
  | leaf a => exact (leaf_text_ne hn rfl h.symm).elim
  | all gs =>
    have hparts := groupedParts_iff.1 hg.2
    obtain ⟨g, g', gs, rfl⟩ := exists_two_parts hg.1
    rw [text_all_append, text_all_append] at h
    obtain ⟨he, hrest⟩ := parts_inj joins_and hfs hparts (fun k hk => hn.of_mem_all hk) h
    rw [asQuoted_all, asQuoted_all, he]
    exact ⟨rfl, hrest⟩
  | any gs =>
    have hparts := groupedParts_iff.1 hg.2
    obtain ⟨g, g', gs, rfl⟩ := exists_two_parts hg.1
    rw [text_all_append, text_any_append] at h
    -- Past the first parts, which are the same, the joining words tell the groups apart.
    have hword := joiner_inj joins_and joins_or (hfs f List.mem_cons_self)
      (hparts g List.mem_cons_self) (hn.of_mem_any List.mem_cons_self) h
    exact absurd hword (by decide)

theorem selfDelimiting_any (hg : Grouped (.any fs)) (hfs : ∀ f ∈ fs, f.SelfDelimiting) :
    SelfDelimiting (.any fs) := by
  obtain ⟨f, f', fs, rfl⟩ := exists_two_parts hg.1
  intro g rest rest' hg hn _ _ h
  cases g with
  | leaf a => exact (leaf_text_ne hn rfl h.symm).elim
  | all gs =>
    have hparts := groupedParts_iff.1 hg.2
    obtain ⟨g, g', gs, rfl⟩ := exists_two_parts hg.1
    rw [text_any_append, text_all_append] at h
    have hword := joiner_inj joins_or joins_and (hfs f List.mem_cons_self)
      (hparts g List.mem_cons_self) (hn.of_mem_all List.mem_cons_self) h
    exact absurd hword (by decide)
  | any gs =>
    have hparts := groupedParts_iff.1 hg.2
    obtain ⟨g, g', gs, rfl⟩ := exists_two_parts hg.1
    rw [text_any_append, text_any_append] at h
    obtain ⟨he, hrest⟩ := parts_inj joins_or hfs hparts (fun k hk => hn.of_mem_any hk) h
    rw [asQuoted_any, asQuoted_any, he]
    exact ⟨rfl, hrest⟩

end Groups

section Wholes

theorem selfDelimiting (hg : f.Grouped) (hn : f.Named) : f.SelfDelimiting := by
  induction f using inductionOnParts with
  | leaf a => exact selfDelimiting_leaf hn
  | all fs ih =>
    refine selfDelimiting_all hg fun f hf => ?_
    exact ih f hf (groupedParts_iff.1 hg.2 f hf) (hn.of_mem_all hf)
  | any fs ih =>
    refine selfDelimiting_any hg fun f hf => ?_
    exact ih f hf (groupedParts_iff.1 hg.2 f hf) (hn.of_mem_any hf)

/-- Two conditions of any depth are rendered alike if and only if they are the same up to numbers
that stand for quoted texts. -/
theorem render_eq_iff (f g : Condition) (hf : f.Grouped) (hfn : f.Named) (hg : g.Grouped)
    (hgn : g.Named) : f.render = g.render ↔ f.asQuoted = g.asQuoted := by
  constructor
  · intro h
    have he : f.text ++ [] = g.text ++ [] := by rw [text, text, h]
    exact (selfDelimiting hf hfn hg hgn .nil .nil he).1
  · intro h
    rw [← render_asQuoted f, h, render_asQuoted]

def nestedNote (size : Literal) : Condition :=
  .all [.any [.leaf ⟨⟨"size", .field⟩, .less, size⟩,
      .all [.leaf ⟨⟨"size", .accessor⟩, .lessOrEqual, .text "5"⟩,
        .leaf ⟨⟨"note", .field⟩, .lacks, .text "'"⟩]],
    .leaf ⟨⟨"note", .field⟩, .contains, .text "') AND (size='5"⟩]

theorem render_nestedNote :
    (nestedNote (.number "5")).render = (nestedNote (.text "5")).render ∧
      (nestedNote (.text "5")).render ≠ (nestedNote (.text "6")).render := by
  have hsize : IsIdentifier "size" := ⟨'s', ['i', 'z', 'e'], rfl, rfl, rfl⟩
  have hnote : IsIdentifier "note" := ⟨'n', ['o', 't', 'e'], rfl, rfl, rfl⟩
  have hg (size : Literal) : (nestedNote size).Grouped := by
    simp [nestedNote, Grouped, GroupedParts]
  have hn (size : Literal) : (nestedNote size).Named := by
    simp [nestedNote, Named, leaves, leavesOfParts, hsize, hnote]
  refine ⟨(render_eq_iff _ _ (hg _) (hn _) (hg _) (hn _)).2 rfl, ?_⟩
  rw [ne_eq, render_eq_iff _ _ (hg _) (hn _) (hg _) (hn _)]
  simp [nestedNote, asQuoted, Formula.map, mapParts, Comparison.asQuoted, Literal.content]

end Wholes

end RecordQuery.Condition
