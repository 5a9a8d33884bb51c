import RecordQuery.Proofs.Derive.Instance
import RecordQuery.Sample

namespace RecordQuery

theorem Pet.derivesTo : Pet.declaration.DerivesTo Pet.derivation := by
  have hname : Derive.nameOf "Pet" = some "Pet" := by decide +kernel
  have hgenerics : Derive.Generics.read "" = some ⟨[], []⟩ := rfl
  have hderive : Pet.declaration.derive = .ok Pet.derivation := by decide +kernel
  exact .intro hname hgenerics hderive

theorem Pet.held_fits (p : Pet) : p.held.Fits Sample.types Pet.derivation := by
  constructor
  · simp only [Pet.derivation, List.forall_mem_cons]
    exact ⟨fun _ => rfl, fun _ => rfl, fun _ => rfl, fun _ => rfl, fun _ => rfl, fun _ => rfl,
      fun _ => rfl, nofun, nofun⟩
  · simp only [Pet.derivation, List.forall_mem_cons]
    exact ⟨rfl, rfl, rfl, nofun⟩

theorem Label.derivesTo : Label.declaration.DerivesTo Label.derivation := by
  have hname : Derive.nameOf "Tagged" = some "Tagged" := by decide +kernel
  have hgenerics : (Derive.Generics.read "<'a>").isSome := by decide +kernel
  have hderive : Label.declaration.derive = .ok Label.derivation := by decide +kernel
  obtain ⟨g, hg⟩ := Option.isSome_iff_exists.1 hgenerics
  exact .intro hname hg hderive

theorem Label.held_fits (l : Label) : l.held.Fits Sample.types Label.derivation := by
  constructor
  · simp only [Label.derivation, List.forall_mem_cons]
    exact ⟨fun _ => rfl, fun _ => rfl, nofun⟩
  · exact nofun

end RecordQuery
