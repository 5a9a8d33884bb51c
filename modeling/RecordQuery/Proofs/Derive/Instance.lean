import RecordQuery.Derive.Instance
import RecordQuery.Proofs.Derive.Reachability

namespace RecordQuery.Derive

variable {types : Typing} {s : Instance} {d : Derivation}

section Arms

variable {α : Type} (nameOf : α → String) (as : List α) (name : String)

theorem find?_eq_getElem?_idxOf :
    as.find? (nameOf · == name) = as[(as.map nameOf).idxOf name]? := by
  rw [List.find?_eq_getElem?_findIdx, List.idxOf, List.findIdx_map]
  rfl

theorem armTaken_map {arm : α → String × String}
    (h : ∀ a, (arm a).1 = textLiteral (nameOf a)) :
    armTaken (as.map arm) name = some ((as.map nameOf).idxOf name) := by
  apply armTaken_eq
  rw [List.map_map, List.map_map]
  exact List.map_congr_left fun a _ => h a

theorem Exposed.valueArm_pattern (e : Exposed) : e.valueArm.1 = textLiteral e.name := rfl

theorem Exposed.typeArm_pattern (e : Exposed) : e.typeArm.1 = textLiteral e.name := rfl

theorem AccessorDecl.valueArm_pattern (a : AccessorDecl) :
    a.valueArm.1 = textLiteral a.method := rfl

theorem AccessorDecl.typeArm_pattern (a : AccessorDecl) :
    a.typeArm.1 = textLiteral a.method := rfl

end Arms

namespace Derivation

/-- A record and its description answer by the arms that the generated matches take for a name. -/
theorem lookups_take_arms (d : Derivation) (types : Typing) (s : Instance) (name : String) :
    (∃ i, armTaken (d.fields.map (·.valueArm)) name = some i ∧
      armTaken (d.fields.map (·.typeArm)) name = some i ∧
      (d.record types s).field name = d.fields[i]?.bind (·.value types s) ∧
      (d.description types).field name = d.fields[i]?.bind (·.valueType types)) ∧
    ∃ i, armTaken (d.accessors.map (·.valueArm)) name = some i ∧
      armTaken (d.accessors.map (·.typeArm)) name = some i ∧
      (d.record types s).accessor name = d.accessors[i]?.bind (s.result ·.method) ∧
      (d.description types).accessor name = d.accessors[i]?.bind (types.valueType ·.type) := by
  have hfield := find?_eq_getElem?_idxOf Exposed.name d.fields name
  have haccessor := find?_eq_getElem?_idxOf AccessorDecl.method d.accessors name
  constructor
  · refine ⟨(d.fields.map Exposed.name).idxOf name, ?_, ?_, ?_, ?_⟩
    · exact armTaken_map Exposed.name d.fields name Exposed.valueArm_pattern
    · exact armTaken_map Exposed.name d.fields name Exposed.typeArm_pattern
    · exact congrArg (Option.bind · _) hfield
    · exact congrArg (Option.bind · _) hfield
  · refine ⟨(d.accessors.map AccessorDecl.method).idxOf name, ?_, ?_, ?_, ?_⟩
    · exact armTaken_map AccessorDecl.method d.accessors name AccessorDecl.valueArm_pattern
    · exact armTaken_map AccessorDecl.method d.accessors name AccessorDecl.typeArm_pattern
    · exact congrArg (Option.bind · _) haccessor
    · exact congrArg (Option.bind · _) haccessor

end Derivation

theorem Instance.Fits.type_value (h : s.Fits types d) {e : Exposed} (he : e ∈ d.fields) :
    (e.value types s).map Value.type = e.valueType types := by
  rw [Exposed.value, Exposed.valueType]
  cases hm : e.masked with
  | true => rfl
  | false => exact h.members e he hm

/-- The records of a structure that holds values of its declared types are of the kind that its
description tells. -/
theorem Instance.Fits.describes (h : s.Fits types d) : (d.description types).Describes (d.record types s) := by
  refine ⟨rfl, ?_⟩
  rintro ⟨name, lookup⟩
  cases lookup with
  | field =>
    change (d.fields.find? _).bind _ = ((d.fields.find? _).bind _).map Value.type
    cases he : d.fields.find? (·.name == name) with
    | none => rfl
    | some e => exact (h.type_value (List.mem_of_find?_eq_some he)).symm
  | accessor =>
    change (d.accessors.find? _).bind _ = ((d.accessors.find? _).bind _).map Value.type
    cases ha : d.accessors.find? (·.method == name) with
    | none => rfl
    | some a => exact (h.results a (List.mem_of_find?_eq_some ha)).symm

end RecordQuery.Derive
