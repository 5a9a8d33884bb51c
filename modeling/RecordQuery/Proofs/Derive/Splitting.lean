import RecordQuery.Proofs.Derive.Faults

namespace RecordQuery.Derive

variable {attributes : List (List Token)} {parts : List (List Meta)} {whole : List Token}
  {metas more : List Meta}

/-- Each attribute is made of the entries in its part. -/
def HaveEntries (attributes : List (List Token)) (parts : List (List Meta)) : Prop :=
  List.Forall₂ (fun tokens metas => Meta.ofTokens tokens = some metas) attributes parts

theorem HaveEntries.single (h : Meta.ofTokens whole = some metas) : HaveEntries [whole] [metas] :=
  .cons h .nil

theorem HaveEntries.flatMap_eq {α : Type} {f : List Token → List α} {g : List Meta → List α}
    (h : HaveEntries attributes parts)
    (hfg : ∀ tokens metas, Meta.ofTokens tokens = some metas → f tokens = g metas) :
    attributes.flatMap f = parts.flatMap g := by
  induction h with
  | nil => rfl
  | cons hread _ ih => rw [List.flatMap_cons, List.flatMap_cons, hfg _ _ hread, ih]

theorem HaveEntries.entries_eq (h : HaveEntries attributes parts) :
    attributes.flatMap Meta.entries = parts.flatten := by
  rw [← List.flatMap_id']
  refine h.flatMap_eq fun tokens metas hread => ?_
  rw [Meta.entries, hread]
  rfl

theorem HaveEntries.faults_eq (h : HaveEntries attributes parts) (faults : List Meta → List Refusal) :
    attributes.flatMap (Meta.attributeFaults faults) = parts.flatMap faults := by
  refine h.flatMap_eq fun tokens metas hread => ?_
  rw [Meta.attributeFaults, hread]

namespace FieldOptions

theorem faults_eq_nil :
    faults metas = [] ↔ (∀ m ∈ metas, IsFieldEntry m) ∧ (ofEntries metas).isContradictory = false := by
  rw [faults, List.append_eq_nil_iff, List.flatMap_eq_nil_iff, ite_eq_right_iff]
  simp [fieldFaults_eq_nil]

theorem isContradictory_mono (h : metas ⊆ more)
    (hmore : (ofEntries more).isContradictory = false) :
    (ofEntries metas).isContradictory = false := by
  rw [Bool.eq_false_iff, Ne, isContradictory_iff] at hmore ⊢
  rintro ⟨hskip, hshown⟩
  exact hmore ⟨h hskip, hshown.imp (h ·) fun ⟨s, hs⟩ => ⟨s, h hs⟩⟩

/-- The entries of several attributes are free of faults together if they are in each attribute and
do not contradict one another. -/
theorem faults_flatten_eq_nil :
    faults parts.flatten = [] ↔
      parts.flatMap faults = [] ∧ (ofEntries parts.flatten).isContradictory = false := by
  rw [faults_eq_nil, List.flatMap_eq_nil_iff]
  refine and_congr_left fun hwhole => ?_
  simp only [faults_eq_nil]
  constructor
  · intro h metas hmetas
    have hsub : metas ⊆ parts.flatten := fun m hm => List.mem_flatten_of_mem hmetas hm
    exact ⟨fun m hm => h m (hsub hm), isContradictory_mono hsub hwhole⟩
  · intro h m hm
    obtain ⟨metas, hmetas, hm⟩ := List.mem_flatten.1 hm
    exact (h metas hmetas).1 m hm

theorem ofAttributes_of_entries (h : HaveEntries attributes parts) :
    ofAttributes attributes = unlessFaulty (parts.flatMap faults) (ofEntries parts.flatten) := by
  rw [ofAttributes_eq, h.faults_eq, h.entries_eq]

end FieldOptions

theorem ItemOptions.ofAttributes_of_entries (h : HaveEntries attributes parts) :
    ofAttributes attributes =
      unlessFaulty (parts.flatten.flatMap Meta.itemFaults) (ofEntries parts.flatten) := by
  rw [ofAttributes_eq, h.faults_eq, h.entries_eq, ← List.flatMap_id', List.flatMap_assoc]
  rfl

/-- The entries of several attributes in one attribute: a field is then asked for the same, unless
its entries, which may be spread over the attributes, both leave it out and show it. A declaration
is asked for the same, or refused for the same fault. -/
theorem ofAttributes_joined (hparts : HaveEntries attributes parts)
    (hwhole : Meta.ofTokens whole = some parts.flatten) :
    (∀ o, FieldOptions.ofAttributes [whole] = .ok o ↔
        FieldOptions.ofAttributes attributes = .ok o ∧
          ¬(o.skip = true ∧ (o.masked = true ∨ o.rename.isSome = true))) ∧
      ItemOptions.ofAttributes [whole] = ItemOptions.ofAttributes attributes := by
  have hsingle : HaveEntries [whole] [parts.flatten] := .single hwhole
  have hflat : [parts.flatten].flatten = parts.flatten := List.append_nil _
  constructor
  · intro o
    rw [FieldOptions.ofAttributes_of_entries hsingle, FieldOptions.ofAttributes_of_entries hparts, hflat,
      unlessFaulty_eq_ok, unlessFaulty_eq_ok, List.flatMap_singleton,
      FieldOptions.faults_flatten_eq_nil, and_assoc, and_assoc]
    refine and_congr_right fun _ => and_comm.trans (and_congr_right ?_)
    rintro rfl
    rw [← Bool.or_eq_true, ← Bool.and_eq_true, Bool.not_eq_true, FieldOptions.isContradictory]
  · rw [ItemOptions.ofAttributes_of_entries hsingle, ItemOptions.ofAttributes_of_entries hparts, hflat]

section Spread

def skipTokens : List Token := [.word "skip"]

def maskTokens : List Token := [.word "opaque"]

def renameTokens : List Token :=
  [.word "rename", .mark '=' false, .literal "\"kind\"" (some "kind")]

theorem ofAttributes_joined_rename_mask :
    ∃ parts, HaveEntries [renameTokens, maskTokens] parts ∧
      Meta.ofTokens (renameTokens ++ .mark ',' false :: maskTokens) = some parts.flatten ∧
      FieldOptions.ofAttributes [renameTokens ++ .mark ',' false :: maskTokens] =
        .ok ⟨false, true, some "kind"⟩ := by
  have hparts : HaveEntries [renameTokens, maskTokens]
      [[.value (some "rename") (.text "kind")], [.path (some "opaque")]] :=
    .cons rfl (.cons rfl .nil)
  have hwhole : Meta.ofTokens (renameTokens ++ .mark ',' false :: maskTokens) =
      some [.value (some "rename") (.text "kind"), .path (some "opaque")] := rfl
  exact ⟨_, hparts, hwhole, ((ofAttributes_joined hparts hwhole).1 _).2 ⟨rfl, by decide⟩⟩

/-- One attribute that leaves a field out and shows it by its type alone is refused, but two that do
so are accepted. -/
theorem skip_beside_mask_accepted :
    ∃ parts, HaveEntries [skipTokens, maskTokens] parts ∧
      Meta.ofTokens (skipTokens ++ .mark ',' false :: maskTokens) = some parts.flatten ∧
      FieldOptions.ofAttributes [skipTokens, maskTokens] = .ok ⟨true, true, none⟩ ∧
      FieldOptions.ofAttributes [skipTokens ++ .mark ',' false :: maskTokens] =
        .error .skipConflict := by
  have hparts : HaveEntries [skipTokens, maskTokens]
      [[.path (some "skip")], [.path (some "opaque")]] :=
    .cons rfl (.cons rfl .nil)
  exact ⟨_, hparts, rfl, rfl, rfl⟩

end Spread

end RecordQuery.Derive
