import Mathlib.Data.List.Nodup
import RecordQuery.Derive.Implementation
import RecordQuery.Proofs.Derive.Literal
import RecordQuery.Proofs.Derive.Options

namespace RecordQuery.Derive

theorem wellFormed_eq_ok {α : Type} {o : Option α} {a : α} (h : wellFormed o = .ok a) :
    o = some a := by
  cases o with
  | none => cases h
  | some b =>
    cases h
    rfl

theorem exists_eq_ok_of_isOk {ε α : Type} {x : Except ε α} (h : x.isOk) : ∃ a, x = .ok a := by
  cases x with
  | error e => cases h
  | ok a => exact ⟨a, rfl⟩

namespace LexedField

def options (f : LexedField) : FieldOptions :=
  .ofEntries (f.attributes.flatMap Meta.entries)

def isExposed (f : LexedField) : Bool :=
  !f.options.skip

/-- The last new name that the field is given, or else its own one. -/
def exposedName (f : LexedField) : String :=
  f.options.rename.getD f.name

def exposed (f : LexedField) : Exposed :=
  ⟨f.exposedName, f.name, f.type, f.options.masked⟩

end LexedField

namespace Item

variable {item : Item}

/-- The exposed fields keep their order, and no name is taken twice. -/
theorem expose_eq_ok {seen : List String} {fields : List LexedField} {es : List Exposed}
    (h : expose seen fields = .ok es) :
    es = (fields.filter (·.isExposed)).map (·.exposed) ∧
      (es.map (·.name)).Nodup ∧ ∀ name ∈ es.map (·.name), name ∉ seen := by
  -- The names that were seen grow from field to field, and what is still to come avoids them all.
  induction fields generalizing seen es with
  | nil =>
    cases h
    exact ⟨rfl, List.nodup_nil, nofun⟩
  | cons f fs ih =>
    obtain ⟨o, ho, h⟩ := bind_eq_ok.1 h
    obtain rfl : o = f.options := FieldOptions.ofAttributes_eq_ok ho
    split at h
    · next hskip =>
      rw [List.filter_cons_of_neg (by simp [LexedField.isExposed, hskip])]
      exact ih h
    · next hskip =>
      simp only at h
      split at h
      · cases h
      · next hseen =>
        obtain ⟨more, hmore, h⟩ := bind_eq_ok.1 h
        cases h
        obtain ⟨rfl, hnodup, hfresh⟩ := ih hmore
        rw [List.filter_cons_of_pos (by simp [LexedField.isExposed, hskip])]
        refine ⟨rfl, List.nodup_cons.2 ⟨?_, hnodup⟩, List.forall_mem_cons.2 ⟨?_, ?_⟩⟩
        · intro hmem
          exact hfresh _ hmem (List.mem_append_right _ (List.mem_singleton_self _))
        · simpa using hseen
        · intro name hmem hin
          exact hfresh name hmem (List.mem_append_left _ hin)

theorem checkKind_eq_ok (h : item.checkKind = .ok ()) : item.kind = .struct := by
  rw [checkKind] at h
  split at h
  · next hkind => exact hkind
  all_goals cases h

structure Parts where
  name : String
  attributes : List (List Token)
  fields : List LexedField

namespace Parts

variable (p : Parts)

def entries : List Meta :=
  p.attributes.flatMap Meta.entries

def targetName : String :=
  (Meta.lastText "name" p.entries).getD p.name

def exposed : List LexedField :=
  p.fields.filter (·.isExposed)

def accessors : List AccessorDecl :=
  p.entries.flatMap Meta.accessors

def derivation : Derivation :=
  ⟨p.targetName, p.exposed.map (·.exposed), p.accessors⟩

end Parts

/-- The declaration is a structure that consists of these parts. -/
structure Has (item : Item) (p : Parts) : Prop where
  kind : item.kind = .struct
  name : nameOf item.name = some p.name
  attributes : lexAll item.attributes = .ok p.attributes
  fields : item.fields.mapM Field.lex = .ok p.fields

theorem derive_eq_ok {d : Derivation} (h : item.derive = .ok d) :
    ∃ p : Parts, item.Has p ∧ d = p.derivation ∧ (p.exposed.map (·.exposedName)).Nodup := by
  obtain ⟨name, hname, h⟩ := bind_eq_ok.1 h
  obtain ⟨attributes, hattributes, h⟩ := bind_eq_ok.1 h
  obtain ⟨fields, hfields, h⟩ := bind_eq_ok.1 h
  obtain ⟨o, ho, h⟩ := bind_eq_ok.1 h
  obtain ⟨u, hkind, h⟩ := bind_eq_ok.1 h
  obtain ⟨es, hes, h⟩ := bind_eq_ok.1 h
  cases h
  have hstruct := checkKind_eq_ok hkind
  rw [lexFields, hstruct] at hfields
  obtain ⟨rfl, hnodup, -⟩ := expose_eq_ok hes
  rw [List.map_map] at hnodup
  rw [ItemOptions.ofAttributes_eq_ok ho]
  refine ⟨⟨name, attributes, fields⟩, ?_, rfl, hnodup⟩
  exact ⟨hstruct, wellFormed_eq_ok hname, hattributes, hfields⟩

end Item

/-- The expression for what a member holds; an opaque one does not look into it. -/
def memberValue (member : String) : (masked : Bool) → String
  | false => present (":: quarry :: IntoValue :: into_value" ++ " (& self . " ++ member ++ ")")
  | true => present (":: quarry :: Value :: opaque" ++ " (& self . " ++ member ++ ")")

def methodValue (method : String) : String :=
  present (":: quarry :: IntoValue :: into_value (self . " ++ method ++ " ())")

/-- The expression for the kind of the values of a type; an opaque one is the name of the type. -/
def valueType (type : String) : (masked : Bool) → String
  | false => present ("< " ++ type ++ " as :: quarry :: Typed > :: value_type ()")
  | true =>
    present (":: quarry :: ValueType :: Other (:: core :: any :: type_name :: < " ++ type ++
      " > ())")

theorem Exposed.valueArm_eq (e : Exposed) :
    e.valueArm = (textLiteral e.name, memberValue e.member e.masked) := by
  obtain ⟨name, member, type, masked⟩ := e
  cases masked <;> rfl

theorem Exposed.typeArm_eq (e : Exposed) :
    e.typeArm = (textLiteral e.name, valueType e.type e.masked) := by
  obtain ⟨name, member, type, masked⟩ := e
  cases masked <;> rfl

namespace Implementation

def body? (i : Implementation) (method : String) : Option Body :=
  (i.methods.find? (·.name = method)).map (·.body)

/-- The method is a match that has these arms for the names it knows. -/
def Knows (i : Implementation) (method : String) (arms : List (String × String)) : Prop :=
  i.body? method = some (.arms (arms ++ [absentArm]))

end Implementation

theorem Implementation.Knows.unique {i : Implementation} {method : String}
    {arms arms' : List (String × String)} (h : i.Knows method arms) (h' : i.Knows method arms') :
    arms = arms' := by
  have hbody := Option.some.inj (h.symm.trans h')
  exact List.append_cancel_right (Body.arms.inj hbody)

/-- Arms for the same names in the same order. Under each name one takes the value of a field, and
the other tells the declared type of this field, both of them looking into it or neither. -/
structure FieldArms (exposed : List LexedField) (valueArms typeArms : List (String × String)) :
    Prop where
  patterns : valueArms.map (·.1) = exposed.map (textLiteral ·.exposedName)
  same_patterns : typeArms.map (·.1) = valueArms.map (·.1)
  distinct : (valueArms.map (·.1)).Nodup
  values :
    List.Forall₂ (fun f arm => arm.2 = memberValue f.name f.options.masked) exposed valueArms
  types : List.Forall₂ (fun f arm => arm.2 = valueType f.type f.options.masked) exposed typeArms

/-- Arms for the same accessors in the order of their registration. -/
structure AccessorArms (accessors : List AccessorDecl)
    (valueArms typeArms : List (String × String)) : Prop where
  patterns : valueArms.map (·.1) = accessors.map (textLiteral ·.method)
  same_patterns : typeArms.map (·.1) = valueArms.map (·.1)
  values : List.Forall₂ (fun a arm => arm.2 = methodValue a.method) accessors valueArms
  types : List.Forall₂ (fun a arm => arm.2 = valueType a.type false) accessors typeArms

/-- The implementations of a declaration agree on what it exposes. -/
structure Agreement (p : Item.Parts) (values types : Implementation) : Prop where
  interfaces : values.interface = "Attributes" ∧ types.interface = "Describe"
  target : values.body? "target_name" = some (.literal (textLiteral p.targetName))
  same_target : types.body? "type_name" = values.body? "target_name"
  fields : ∃ valueArms typeArms, values.Knows "field" valueArms ∧
    types.Knows "field_type" typeArms ∧ FieldArms p.exposed valueArms typeArms
  accessors : p.accessors ≠ [] → ∃ valueArms typeArms, values.Knows "accessor" valueArms ∧
    types.Knows "accessor_type" typeArms ∧ AccessorArms p.accessors valueArms typeArms
  no_accessors : p.accessors = [] →
    values.body? "accessor" = none ∧ types.body? "accessor_type" = none

section Agreement

variable {p : Item.Parts}

theorem fieldArms (h : (p.exposed.map (·.exposedName)).Nodup) :
    FieldArms p.exposed (p.derivation.fields.map (·.valueArm))
      (p.derivation.fields.map (·.typeArm)) := by
  have hpatterns : (p.derivation.fields.map (·.valueArm)).map (·.1) =
      p.exposed.map (textLiteral ·.exposedName) := by
    rw [Item.Parts.derivation, List.map_map, List.map_map]
    rfl
  constructor
  · exact hpatterns
  · rw [List.map_map, List.map_map]
    rfl
  · rw [hpatterns, ← Function.comp_def textLiteral, ← List.map_map]
    exact List.Nodup.map textLiteral_injective h
  · rw [Item.Parts.derivation, List.map_map, List.forall₂_map_right_iff, List.forall₂_same]
    intro f _
    exact congrArg Prod.snd f.exposed.valueArm_eq
  · rw [Item.Parts.derivation, List.map_map, List.forall₂_map_right_iff, List.forall₂_same]
    intro f _
    exact congrArg Prod.snd f.exposed.typeArm_eq

theorem accessorArms (accessors : List AccessorDecl) :
    AccessorArms accessors (accessors.map (·.valueArm)) (accessors.map (·.typeArm)) := by
  constructor
  · rw [List.map_map]
    rfl
  · rw [List.map_map, List.map_map]
    rfl
  · rw [List.forall₂_map_right_iff, List.forall₂_same]
    intro a _
    rfl
  · rw [List.forall₂_map_right_iff, List.forall₂_same]
    intro a _
    rfl

theorem accessorBody_eq {i : Implementation} {d : Derivation}
    {nameMethod fieldMethod accessorMethod : String} {fieldArm : Exposed → String × String}
    {accessorArm : AccessorDecl → String × String}
    (h : i.methods = d.methodsOf nameMethod fieldMethod accessorMethod fieldArm accessorArm)
    (hname : nameMethod ≠ accessorMethod) (hfield : fieldMethod ≠ accessorMethod) :
    i.body? accessorMethod =
      if d.accessors.isEmpty then none
      else some (.arms (d.accessors.map accessorArm ++ [absentArm])) := by
  rw [Implementation.body?, h, Derivation.methodsOf]
  split <;> simp [hname, hfield]

theorem agreement (h : (p.exposed.map (·.exposedName)).Nodup) (generics condition target : String) :
    Agreement p ⟨"Attributes", generics, condition, target, p.derivation.lookupMethods⟩
      ⟨"Describe", generics, condition, target, p.derivation.typeMethods⟩ := by
  constructor
  · exact ⟨rfl, rfl⟩
  · rfl
  · rfl
  · exact ⟨_, _, rfl, rfl, fieldArms h⟩
  · intro hsome
    have hmore : ¬p.derivation.accessors.isEmpty := mt List.isEmpty_iff.1 hsome
    refine ⟨_, _, ?_, ?_, accessorArms p.accessors⟩
    · exact (accessorBody_eq rfl (by decide) (by decide)).trans (if_neg hmore)
    · exact (accessorBody_eq rfl (by decide) (by decide)).trans (if_neg hmore)
  · intro hnone
    have hempty : p.derivation.accessors.isEmpty := List.isEmpty_iff.2 hnone
    constructor
    · exact (accessorBody_eq rfl (by decide) (by decide)).trans (if_pos hempty)
    · exact (accessorBody_eq rfl (by decide) (by decide)).trans (if_pos hempty)

end Agreement

namespace Item

theorem implementations_eq_ok {item : Item} {impls : List Implementation}
    (h : item.implementations = .ok impls) :
    ∃ p generics condition target, item.Has p ∧ (p.exposed.map (·.exposedName)).Nodup ∧
      impls = [⟨"Attributes", generics, condition, target, p.derivation.lookupMethods⟩,
        ⟨"Describe", generics, condition, target, p.derivation.typeMethods⟩] := by
  obtain ⟨name, hname, h⟩ := bind_eq_ok.1 h
  obtain ⟨g, hg, h⟩ := bind_eq_ok.1 h
  obtain ⟨d, hd, h⟩ := bind_eq_ok.1 h
  cases h
  obtain ⟨p, hp, rfl, hnodup⟩ := derive_eq_ok hd
  exact ⟨p, _, _, _, hp, hnodup, rfl⟩

theorem Has.unique {item : Item} {p p' : Parts} (h : item.Has p) (h' : item.Has p') : p = p' := by
  obtain ⟨name, attributes, fields⟩ := p
  obtain ⟨name', attributes', fields'⟩ := p'
  cases h.name.symm.trans h'.name
  cases h.attributes.symm.trans h'.attributes
  cases h.fields.symm.trans h'.fields
  rfl

theorem Has.derivation_eq {item : Item} {p : Parts} {d : Derivation} (h : item.Has p)
    (hd : item.derive = .ok d) : p.derivation = d := by
  obtain ⟨p', hp, rfl, -⟩ := derive_eq_ok hd
  rw [h.unique hp]

def DerivesTo (item : Item) (d : Derivation) : Prop :=
  ∃ generics condition target, item.implementations =
    .ok [⟨"Attributes", generics, condition, target, d.lookupMethods⟩,
      ⟨"Describe", generics, condition, target, d.typeMethods⟩]

theorem DerivesTo.intro {item : Item} {name : String} {g : Generics} {d : Derivation}
    (hname : nameOf item.name = some name) (hg : Generics.read item.generics = some g)
    (hd : item.derive = .ok d) : item.DerivesTo d := by
  rw [DerivesTo, implementations, hname, hg, hd]
  exact ⟨_, _, _, rfl⟩

/-- What a declaration exposes depends on its parts alone, and its implementations agree on it. -/
theorem implementations_agree {item : Item} {impls : List Implementation}
    (h : item.implementations = .ok impls) :
    ∃ p values types, item.Has p ∧ impls = [values, types] ∧ Agreement p values types := by
  obtain ⟨p, generics, condition, target, hp, hnodup, rfl⟩ := implementations_eq_ok h
  exact ⟨p, _, _, hp, rfl, agreement hnodup generics condition target⟩

def pet : Item :=
  ⟨.struct, "Pet", "<'a>",
    ["accessors(leg_count: usize)", "name = \"Animal\", accessors(age: u32)"],
    [⟨"animal", "&'a str", ["rename = \"sort\"", "rename = \"kind\""]⟩,
      ⟨"photo", "Vec<u8>", ["opaque"]⟩,
      ⟨"legs", "Vec<Leg>", ["skip"]⟩,
      ⟨"color", "String", []⟩]⟩

theorem pet_implementations_agree :
    ∃ values types, pet.implementations = .ok [values, types] ∧
      (∃ p, pet.Has p ∧ Agreement p values types) ∧
      values.body? "target_name" = some (.literal (textLiteral "Animal")) ∧
      values.Knows "field" [(textLiteral "kind", memberValue "animal" false),
        (textLiteral "photo", memberValue "photo" true),
        (textLiteral "color", memberValue "color" false)] ∧
      types.Knows "field_type" [(textLiteral "kind", valueType "& 'a str" false),
        (textLiteral "photo", valueType "Vec < u8 >" true),
        (textLiteral "color", valueType "String" false)] ∧
      values.Knows "accessor" [(textLiteral "leg_count", methodValue "leg_count"),
        (textLiteral "age", methodValue "age")] ∧
      types.Knows "accessor_type" [(textLiteral "leg_count", valueType "usize" false),
        (textLiteral "age", valueType "u32" false)] := by
  have hname : nameOf pet.name = some "Pet" := by decide +kernel
  have hgenerics : (Generics.read pet.generics).isSome := by decide +kernel
  obtain ⟨g, hg⟩ := Option.isSome_iff_exists.1 hgenerics
  have hderive : pet.derive = .ok ⟨"Animal", [⟨"kind", "animal", "& 'a str", false⟩,
      ⟨"photo", "photo", "Vec < u8 >", true⟩, ⟨"color", "color", "String", false⟩],
      [⟨"leg_count", "usize"⟩, ⟨"age", "u32"⟩]⟩ := by decide +kernel
  obtain ⟨generics, condition, target, h⟩ := DerivesTo.intro hname hg hderive
  obtain ⟨p, values, types, hp, himpls, hagree⟩ := implementations_agree h
  cases himpls
  exact ⟨_, _, h, ⟨p, hp, hagree⟩, rfl, rfl, rfl, rfl, rfl⟩

end Item

end RecordQuery.Derive
