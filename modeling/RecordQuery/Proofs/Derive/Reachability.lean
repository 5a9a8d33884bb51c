import RecordQuery.Proofs.Derive.Implementation

namespace RecordQuery.Derive

variable {arms : List (String × String)} {names : List String}

/-- A literal fits the name that it denotes, and the last arm of a match fits every name. -/
def fits (name pattern : String) : Bool :=
  match Lexer.tokens pattern with
  | some [.word w] => w == "_"
  | some [.literal _ (some s)] => s == name
  | _ => false

def armTaken (arms : List (String × String)) (name : String) : Option Nat :=
  ((arms ++ [absentArm]).map (·.1)).findIdx? (fits name)

/-- Each of the names leads to the arm at its own place. -/
def EachReached (names : List String) (arms : List (String × String)) : Prop :=
  ∀ i (h : i < names.length), armTaken arms names[i] = some i

theorem fits_textLiteral (name s : String) : fits name (textLiteral s) = (s == name) := by
  rw [fits, tokens_textLiteral]

theorem fits_absentArm (name : String) : fits name absentArm.1 = true := by
  have htokens : Lexer.tokens absentArm.1 = some [.word "_"] := by rfl
  rw [fits, htokens]
  rfl

theorem findIdx?_fits (names : List String) (name : String) :
    (names.map textLiteral ++ [absentArm.1]).findIdx? (fits name) = some (names.idxOf name) := by
  induction names with
  | nil =>
    rw [List.map_nil, List.nil_append, List.findIdx?_cons, fits_absentArm]
    rfl
  | cons s names ih =>
    rw [List.map_cons, List.cons_append, List.findIdx?_cons, fits_textLiteral, ih, List.idxOf_cons]
    cases s == name <;> rfl

/-- A name is taken to the first of the names that equals it, and to the last arm if none does. -/
theorem armTaken_eq (h : arms.map (·.1) = names.map textLiteral) (name : String) :
    armTaken arms name = some (names.idxOf name) := by
  rw [armTaken, List.map_append, h]
  exact findIdx?_fits names name

theorem eachReached_iff (h : arms.map (·.1) = names.map textLiteral) :
    EachReached names arms ↔ names.Nodup := by
  simp only [EachReached, armTaken_eq h, Option.some.injEq]
  constructor
  · intro hplace
    rw [List.nodup_iff_injective_getElem]
    intro i j hij
    have hi := hplace i i.isLt
    have hj := hplace j j.isLt
    simp only at hij
    rw [hij, hj] at hi
    exact Fin.ext hi.symm
  · exact fun hnodup i hi => hnodup.idxOf_getElem i hi

theorem nodup_patterns_iff (h : arms.map (·.1) = names.map textLiteral) :
    (arms.map (·.1)).Nodup ↔ names.Nodup := by
  rw [h]
  exact List.nodup_map_iff textLiteral_injective

theorem patterns_eq {α : Type} {as : List α} {nameOf : α → String}
    {valueArms typeArms : List (String × String)}
    (h : valueArms.map (·.1) = as.map fun a => textLiteral (nameOf a))
    (hsame : typeArms.map (·.1) = valueArms.map (·.1)) :
    ∀ arms ∈ [valueArms, typeArms], arms.map (·.1) = (as.map nameOf).map textLiteral := by
  have hvalues : valueArms.map (·.1) = (as.map nameOf).map textLiteral := by
    rw [h, List.map_map]
    rfl
  simpa [hvalues] using hsame.trans hvalues

namespace Item

/-- In the matches on fields no pattern occurs twice, and every field is reached by its own name. In
those on accessors every name leads to the first accessor that has it; so the patterns are distinct,
and every accessor is reached by its own name, if and only if none is registered twice. -/
theorem implementations_arms_reached {item : Item} {impls : List Implementation}
    (h : item.implementations = .ok impls) :
    ∃ p values types, item.Has p ∧ impls = [values, types] ∧
      (∃ valueArms typeArms,
        values.Knows "field" valueArms ∧ types.Knows "field_type" typeArms ∧
        FieldArms p.exposed valueArms typeArms ∧
        ∀ arms ∈ [valueArms, typeArms], (arms.map (·.1)).Nodup ∧
          EachReached (p.exposed.map (·.exposedName)) arms) ∧
      (p.accessors ≠ [] → ∃ valueArms typeArms,
        values.Knows "accessor" valueArms ∧ types.Knows "accessor_type" typeArms ∧
        AccessorArms p.accessors valueArms typeArms ∧
        ∀ arms ∈ [valueArms, typeArms],
          (∀ name, armTaken arms name = some ((p.accessors.map (·.method)).idxOf name)) ∧
          ((arms.map (·.1)).Nodup ↔ (p.accessors.map (·.method)).Nodup) ∧
          (EachReached (p.accessors.map (·.method)) arms ↔
            (p.accessors.map (·.method)).Nodup)) := by
  obtain ⟨p, generics, condition, target, hp, hnodup, rfl⟩ := implementations_eq_ok h
  have hagree := agreement hnodup generics condition target
  refine ⟨p, _, _, hp, rfl, ?_, fun hsome => ?_⟩
  · obtain ⟨valueArms, typeArms, hvalues, htypes, harms⟩ := hagree.fields
    refine ⟨valueArms, typeArms, hvalues, htypes, harms, fun arms hmem => ?_⟩
    have hpatterns := patterns_eq harms.patterns harms.same_patterns arms hmem
    exact ⟨(nodup_patterns_iff hpatterns).2 hnodup, (eachReached_iff hpatterns).2 hnodup⟩
  · obtain ⟨valueArms, typeArms, hvalues, htypes, harms⟩ := hagree.accessors hsome
    refine ⟨valueArms, typeArms, hvalues, htypes, harms, fun arms hmem => ?_⟩
    have hpatterns := patterns_eq harms.patterns harms.same_patterns arms hmem
    exact ⟨armTaken_eq hpatterns, nodup_patterns_iff hpatterns, eachReached_iff hpatterns⟩

def chest : Item :=
  ⟨.struct, "Chest", "", ["accessors(size: usize)", "accessors(size: u64, weight: f64)"],
    [⟨"id", "u64", []⟩, ⟨"label", "String", ["rename = \"name\""]⟩]⟩

theorem derive_chest : chest.derive = .ok ⟨"Chest", [⟨"id", "id", "u64", false⟩,
    ⟨"name", "label", "String", false⟩],
    [⟨"size", "usize"⟩, ⟨"size", "u64"⟩, ⟨"weight", "f64"⟩]⟩ := by decide +kernel

theorem chest_derivesTo : chest.DerivesTo ⟨"Chest", [⟨"id", "id", "u64", false⟩,
    ⟨"name", "label", "String", false⟩],
    [⟨"size", "usize"⟩, ⟨"size", "u64"⟩, ⟨"weight", "f64"⟩]⟩ := by
  have hname : nameOf chest.name = some "Chest" := by decide +kernel
  have hgenerics : Generics.read chest.generics = some ⟨[], []⟩ := by rfl
  exact .intro hname hgenerics derive_chest

theorem chest_arms_reached :
    ∃ values types fieldArms accessorArms, chest.implementations = .ok [values, types] ∧
      values.Knows "field" fieldArms ∧ types.Knows "accessor_type" accessorArms ∧
      fieldArms = [(textLiteral "id", memberValue "id" false),
        (textLiteral "name", memberValue "label" false)] ∧
      accessorArms = [(textLiteral "size", valueType "usize" false),
        (textLiteral "size", valueType "u64" false),
        (textLiteral "weight", valueType "f64" false)] ∧
      EachReached ["id", "name"] fieldArms ∧ armTaken accessorArms "size" = some 0 ∧
      armTaken accessorArms "weight" = some 2 ∧ ¬(accessorArms.map (·.1)).Nodup := by
  obtain ⟨generics, condition, target, h⟩ := chest_derivesTo
  obtain ⟨p, values, types, hp, himpls, ⟨fieldArms, _, hfield, -, -, hfields⟩, haccessors⟩ :=
    implementations_arms_reached h
  cases himpls
  have hderivation := hp.derivation_eq derive_chest
  have hnames : p.exposed.map (·.exposedName) = ["id", "name"] := by
    have hnamed := congrArg (fun d => d.fields.map (·.name)) hderivation
    rwa [Parts.derivation, List.map_map] at hnamed
  have hregistered : p.accessors = [⟨"size", "usize"⟩, ⟨"size", "u64"⟩, ⟨"weight", "f64"⟩] :=
    congrArg Derivation.accessors hderivation
  obtain ⟨_, accessorArms, -, haccessor, -, htaken⟩ :=
    haccessors (hregistered ▸ List.cons_ne_nil _ _)
  obtain ⟨-, hreached⟩ := hfields fieldArms List.mem_cons_self
  obtain ⟨hplace, hnodup, -⟩ := htaken accessorArms (by simp)
  rw [hnames] at hreached
  rw [hregistered] at hplace hnodup
  refine ⟨_, _, fieldArms, accessorArms, h, hfield, haccessor, hfield.unique rfl,
    haccessor.unique rfl, hreached, hplace "size", hplace "weight", ?_⟩
  rw [hnodup]
  decide

/-- No name leads to the second of the two arms for `size`, neither for its value nor for its type. -/
theorem chest_second_size_dead :
    ∃ values types valueArms typeArms, chest.implementations = .ok [values, types] ∧
      values.Knows "accessor" valueArms ∧ types.Knows "accessor_type" typeArms ∧
      typeArms[1]? = some (textLiteral "size", valueType "u64" false) ∧
      ∀ arms ∈ [valueArms, typeArms], ¬(arms.map (·.1)).Nodup ∧
        ∀ name, armTaken arms name ≠ some 1 := by
  obtain ⟨generics, condition, target, h⟩ := chest_derivesTo
  refine ⟨_, _, _, _, h, rfl, rfl, rfl, fun arms hmem => ?_⟩
  have harms := accessorArms [⟨"size", "usize"⟩, ⟨"size", "u64"⟩, ⟨"weight", "f64"⟩]
  have hpatterns := patterns_eq harms.patterns harms.same_patterns arms hmem
  refine ⟨?_, fun name => ?_⟩
  · rw [nodup_patterns_iff hpatterns]
    decide
  · rw [armTaken_eq hpatterns, ne_eq, Option.some.injEq]
    change List.idxOf name ["size", "size", "weight"] ≠ 1
    rw [List.idxOf_cons, List.idxOf_cons]
    cases "size" == name with
    | true => exact Nat.zero_ne_one
    | false => exact fun h => nomatch Nat.succ.inj h

end Item

end RecordQuery.Derive
