import RecordQuery.Proofs.Derive.Accessors
import RecordQuery.Proofs.Derive.Implementation

namespace RecordQuery.Derive

section Entries

variable {m : Meta} {metas : List Meta} {tokens : List Token}

/-- The entries that a field may have. -/
inductive IsFieldEntry : Meta → Prop
  | skip : IsFieldEntry (.path (some "skip"))
  | masked : IsFieldEntry (.path (some "opaque"))
  | rename (s : String) : IsFieldEntry (.value (some "rename") (.text s))

/-- The entries that a declaration may have. -/
inductive IsItemEntry : Meta → Prop
  | name (s : String) : IsItemEntry (.value (some "name") (.text s))
  | accessors {tokens : List Token} {as : List AccessorDecl}
      (h : AccessorsForm (Grammar.ofTokens tokens) tokens as) (hlength : as.length ≤ tokens.length) :
      IsItemEntry (.list (some "accessors") tokens)

theorem fieldFaults_eq_nil : m.fieldFaults = [] ↔ IsFieldEntry m := by
  constructor
  · intro h
    rw [Meta.fieldFaults.eq_def] at h
    split at h
    · exact .skip
    · exact .masked
    · next v =>
      cases v with
      | text s => exact .rename s
      | expression => cases h
    · cases h
  · rintro (_ | _ | _)
    all_goals rfl

theorem itemFaults_eq_nil : m.itemFaults = [] ↔ IsItemEntry m := by
  constructor
  · intro h
    rw [Meta.itemFaults.eq_def] at h
    split at h
    · next v =>
      cases v with
      | text s => exact .name s
      | expression => cases h
    · split at h
      · next hread =>
        obtain ⟨as, has⟩ := Option.isSome_iff_exists.1 hread
        obtain ⟨hform, hlength⟩ := AccessorDecl.ofTokens_eq_some.1 has
        exact .accessors hform hlength
      · cases h
    · cases h
  · rintro (s | ⟨hform, hlength⟩)
    · rfl
    · exact if_pos (Option.isSome_of_eq_some (AccessorDecl.ofTokens_eq_some.2 ⟨hform, hlength⟩))

def Conflicting (metas : List Meta) : Prop :=
  .path (some "skip") ∈ metas ∧
    (.path (some "opaque") ∈ metas ∨ ∃ s, .value (some "rename") (.text s) ∈ metas)

theorem isMark_iff {key : String} : m.isMark key = true ↔ m = .path (some key) := by
  rw [Meta.isMark.eq_def]
  split
  · simp
  · next h =>
    refine iff_of_false Bool.false_ne_true ?_
    rintro rfl
    exact h _ rfl

theorem any_isMark_iff {key : String} :
    metas.any (Meta.isMark key) = true ↔ .path (some key) ∈ metas := by
  simp [List.any_eq_true, isMark_iff]

theorem textFor?_eq_some {key s : String} :
    m.textFor? key = some s ↔ m = .value (some key) (.text s) := by
  rw [Meta.textFor?.eq_def]
  split
  · next k t =>
    by_cases hk : k = key
    · simp [hk]
    · simp [hk]
  · next h =>
    refine iff_of_false nofun ?_
    rintro rfl
    exact h _ _ rfl

theorem isSome_lastText_iff {key : String} :
    (Meta.lastText key metas).isSome = true ↔ ∃ s, .value (some key) (.text s) ∈ metas := by
  rw [Meta.lastText, List.getLast?_isSome]
  constructor
  · intro h
    obtain ⟨s, hs⟩ := List.exists_mem_of_ne_nil _ h
    obtain ⟨m, hm, hs⟩ := List.mem_filterMap.1 hs
    exact ⟨s, textFor?_eq_some.1 hs ▸ hm⟩
  · rintro ⟨s, hs⟩
    exact List.ne_nil_of_mem (List.mem_filterMap.2 ⟨_, hs, textFor?_eq_some.2 rfl⟩)

theorem isContradictory_iff :
    (FieldOptions.ofEntries metas).isContradictory = true ↔ Conflicting metas := by
  rw [FieldOptions.isContradictory, Bool.and_eq_true, Bool.or_eq_true]
  exact and_congr any_isMark_iff (or_congr any_isMark_iff isSome_lastText_iff)

def IsFieldAttribute (tokens : List Token) : Prop :=
  ∃ metas, Meta.ofTokens tokens = some metas ∧ (∀ m ∈ metas, IsFieldEntry m) ∧ ¬Conflicting metas

def IsItemAttribute (tokens : List Token) : Prop :=
  ∃ metas, Meta.ofTokens tokens = some metas ∧ ∀ m ∈ metas, IsItemEntry m

theorem attributeFaults_eq_nil {faults : List Meta → List Refusal} :
    Meta.attributeFaults faults tokens = [] ↔
      ∃ metas, Meta.ofTokens tokens = some metas ∧ faults metas = [] := by
  rw [Meta.attributeFaults]
  cases Meta.ofTokens tokens with
  | none => simp
  | some metas => simp

theorem fieldAttribute_faults_eq_nil :
    Meta.attributeFaults FieldOptions.faults tokens = [] ↔ IsFieldAttribute tokens := by
  refine attributeFaults_eq_nil.trans (exists_congr fun metas => and_congr_right fun _ => ?_)
  rw [FieldOptions.faults, List.append_eq_nil_iff, List.flatMap_eq_nil_iff, ite_eq_right_iff,
    isContradictory_iff]
  simp [fieldFaults_eq_nil]

theorem itemAttribute_faults_eq_nil :
    Meta.attributeFaults ItemOptions.faults tokens = [] ↔ IsItemAttribute tokens := by
  refine attributeFaults_eq_nil.trans (exists_congr fun metas => and_congr_right fun _ => ?_)
  rw [ItemOptions.faults, List.flatMap_eq_nil_iff]
  simp [itemFaults_eq_nil]

end Entries

namespace LexedField

def faults (f : LexedField) : List Refusal :=
  f.attributes.flatMap (Meta.attributeFaults FieldOptions.faults)

def Clashes (f g : LexedField) : Prop :=
  f.isExposed = true ∧ g.isExposed = true ∧ f.exposedName = g.exposedName

instance (f g : LexedField) : Decidable (Clashes f g) :=
  inferInstanceAs (Decidable (_ ∧ _ ∧ _))

/-- An exposed field does not take the name of an exposed one in front of it. -/
def nameFaults (earlier : List LexedField) (f : LexedField) : List Refusal :=
  if ∃ g ∈ earlier, g.Clashes f then [.duplicateName f.exposedName] else []

theorem faults_eq_nil {f : LexedField} :
    f.faults = [] ↔ ∀ tokens ∈ f.attributes, IsFieldAttribute tokens := by
  rw [faults, List.flatMap_eq_nil_iff]
  exact forall₂_congr fun _ _ => fieldAttribute_faults_eq_nil

end LexedField

namespace Item

/-- What is wrong with fields, each after those in front of it. -/
def fieldFaults (fields : List LexedField) : List Refusal :=
  fields.zipIdx.flatMap fun (f, place) => f.faults ++ f.nameFaults (fields.take place)

def kindFaults : ItemKind → List Refusal
  | .struct => []
  | .tuple | .unit => [.unnamedFields]
  | .enum | .union => [.notStructure]

def faults (item : Item) (p : Parts) : List Refusal :=
  p.attributes.flatMap (Meta.attributeFaults ItemOptions.faults) ++ kindFaults item.kind ++
    fieldFaults p.fields

def names (fields : List LexedField) : List String :=
  (fields.filter (·.isExposed)).map (·.exposedName)

theorem names_concat (fields : List LexedField) (f : LexedField) :
    names (fields ++ [f]) = if f.isExposed then names fields ++ [f.exposedName] else names fields := by
  rw [names, List.filter_append, List.map_append]
  cases h : f.isExposed with
  | true => simp [names, h]
  | false => simp [names, h]

theorem exists_clashes_iff {earlier : List LexedField} {f : LexedField} (h : f.isExposed = true) :
    (∃ g ∈ earlier, g.Clashes f) ↔ f.exposedName ∈ names earlier := by
  simp only [names, List.mem_map, List.mem_filter, LexedField.Clashes, h, true_and, and_assoc]

theorem expose_eq (earlier fields : List LexedField) :
    expose (names earlier) fields =
      unlessFaulty ((fields.zipIdx earlier.length).flatMap fun (f, place) =>
          f.faults ++ f.nameFaults ((earlier ++ fields).take place))
        ((fields.filter (·.isExposed)).map (·.exposed)) := by
  induction fields generalizing earlier with
  | nil => rfl
  | cons f fs ih =>
    have hlater := ih (earlier ++ [f])
    rw [List.append_assoc, List.length_append, List.length_singleton, names_concat] at hlater
    rw [expose, FieldOptions.ofAttributes_eq, List.zipIdx_cons, List.flatMap_cons,
      List.append_assoc, List.take_left]
    refine unlessFaulty_bind ?_
    change (if f.options.skip then _ else _) = _
    cases hskip : f.options.skip with
    | true =>
      have hexposed : f.isExposed = false := by rw [LexedField.isExposed, hskip]; rfl
      have hnames : f.nameFaults earlier = [] := by
        refine if_neg ?_
        rintro ⟨g, -, -, h, -⟩
        exact Bool.false_ne_true (hexposed.symm.trans h)
      rw [hnames, List.filter_cons_of_neg (by simp [hexposed])]
      rw [hexposed] at hlater
      exact hlater
    | false =>
      have hexposed : f.isExposed = true := by rw [LexedField.isExposed, hskip]; rfl
      rw [List.filter_cons_of_pos hexposed, LexedField.nameFaults]
      rw [hexposed, if_pos rfl] at hlater
      by_cases hclash : f.exposedName ∈ names earlier
      · rw [if_pos ((exists_clashes_iff hexposed).2 hclash)]
        exact if_pos (List.contains_iff_mem.2 hclash)
      · rw [if_neg (mt (exists_clashes_iff hexposed).1 hclash)]
        refine (if_neg (mt List.contains_iff_mem.1 hclash)).trans ?_
        refine (congrArg (· >>= fun es => pure (_ :: es)) hlater).trans ?_
        exact unlessFaulty_map _

section Names

variable {fields earlier : List LexedField} {f : LexedField} {r : Refusal}

theorem nodup_names_iff : (names fields).Nodup ↔ fields.Pairwise fun g f => ¬g.Clashes f := by
  rw [names, List.Nodup, List.pairwise_map, List.pairwise_filter]
  simp only [LexedField.Clashes, not_and]

theorem nameFaults_eq_nil : f.nameFaults earlier = [] ↔ ∀ g ∈ earlier, ¬g.Clashes f := by
  rw [LexedField.nameFaults, ite_eq_right_iff]
  simp

/-- No name fault at any place means that no two fields clash. -/
theorem forall_nameFaults_iff :
    (∀ x ∈ fields.zipIdx, x.1.nameFaults (fields.take x.2) = []) ↔
      fields.Pairwise fun g f => ¬g.Clashes f := by
  rw [List.pairwise_iff_getElem]
  constructor
  · intro h i j hi hj hij
    have hmem : (fields[j], j) ∈ fields.zipIdx := List.mk_mem_zipIdx_iff_getElem?.2 (by simp)
    have hearlier : fields[i] ∈ fields.take j :=
      List.mem_take_iff_getElem.2 ⟨i, by omega, rfl⟩
    exact nameFaults_eq_nil.1 (h _ hmem) _ hearlier
  · rintro h ⟨f, j⟩ hmem
    obtain ⟨hj, rfl⟩ := List.getElem?_eq_some_iff.1 (List.mk_mem_zipIdx_iff_getElem?.1 hmem)
    refine nameFaults_eq_nil.2 fun g hg => ?_
    obtain ⟨i, hi, rfl⟩ := List.mem_take_iff_getElem.1 hg
    exact h i j _ _ (by omega)

theorem fieldFaults_eq_nil :
    fieldFaults fields = [] ↔
      (∀ f ∈ fields, ∀ tokens ∈ f.attributes, IsFieldAttribute tokens) ∧ (names fields).Nodup := by
  rw [fieldFaults, List.flatMap_eq_nil_iff, nodup_names_iff, ← forall_nameFaults_iff]
  simp only [List.append_eq_nil_iff, LexedField.faults_eq_nil, forall_and]
  refine and_congr_left fun _ => ⟨fun h f hf => ?_, fun h x hx => h x.1 (List.fst_mem_of_mem_zipIdx hx)⟩
  obtain ⟨i, hi⟩ := List.getElem?_of_mem hf
  exact h (f, i) (List.mk_mem_zipIdx_iff_getElem?.2 hi)

theorem duplicateName_not_mem_attributes {name : String} {faultsOf : List Meta → List Refusal}
    (h : ∀ metas, .duplicateName name ∉ faultsOf metas) (attributes : List (List Token)) :
    .duplicateName name ∉ attributes.flatMap (Meta.attributeFaults faultsOf) := by
  intro hmem
  obtain ⟨tokens, -, htokens⟩ := List.mem_flatMap.1 hmem
  rw [Meta.attributeFaults] at htokens
  split at htokens
  · exact h _ htokens
  · simp at htokens

theorem duplicateName_not_mem_fieldFaults {name : String} (metas : List Meta) :
    .duplicateName name ∉ FieldOptions.faults metas := by
  rw [FieldOptions.faults, List.mem_append, not_or]
  refine ⟨?_, by split <;> simp⟩
  intro h
  obtain ⟨m, -, hm⟩ := List.mem_flatMap.1 h
  rw [Meta.fieldFaults.eq_def] at hm
  split at hm
  · cases hm
  · cases hm
  · next v => cases v <;> simp [MetaValue.faults] at hm
  · simp at hm

theorem duplicateName_not_mem_itemFaults {name : String} (metas : List Meta) :
    .duplicateName name ∉ ItemOptions.faults metas := by
  intro h
  obtain ⟨m, -, hm⟩ := List.mem_flatMap.1 h
  rw [Meta.itemFaults.eq_def] at hm
  split at hm
  · next v => cases v <;> simp [MetaValue.faults] at hm
  · split at hm <;> simp at hm
  · simp at hm

theorem exists_clash {name : String} (h : .duplicateName name ∈ fieldFaults fields) :
    ∃ g f, [g, f].Sublist fields ∧ g.Clashes f ∧ f.exposedName = name := by
  obtain ⟨⟨f, i⟩, hplace, hfault⟩ := List.mem_flatMap.1 h
  have hf := List.mk_mem_zipIdx_iff_getElem?.1 hplace
  have hname := (List.mem_append.1 hfault).resolve_left
    (duplicateName_not_mem_attributes duplicateName_not_mem_fieldFaults _)
  rw [LexedField.nameFaults] at hname
  split at hname
  · next hclash =>
    obtain ⟨g, hg, hgf⟩ := hclash
    have hlater : f ∈ fields.drop i := List.mem_of_getElem? (i := 0) (by simpa using hf)
    have hpair := (List.singleton_sublist.2 hg).append (List.singleton_sublist.2 hlater)
    rw [List.take_append_drop] at hpair
    refine ⟨g, f, hpair, hgf, ?_⟩
    simpa [eq_comm] using hname
  · cases hname

end Names

theorem kindFaults_eq_nil {kind : ItemKind} : kindFaults kind = [] ↔ kind = .struct := by
  cases kind <;> simp [kindFaults]

theorem checkKind_eq (item : Item) : item.checkKind = unlessFaulty (kindFaults item.kind) () := by
  rw [checkKind]
  cases item.kind with
  | _ => rfl

/-- The declaration consists of these parts, whatever they ask for. -/
structure IsWritten (item : Item) (p : Parts) : Prop where
  name : nameOf item.name = some p.name
  attributes : lexAll item.attributes = .ok p.attributes
  fields : item.lexFields = .ok p.fields

variable {item : Item} {p : Parts} {generics : Generics}

theorem derive_eq (h : item.IsWritten p) :
    item.derive = unlessFaulty (item.faults p) p.derivation := by
  rw [derive, h.name, h.attributes, h.fields, faults, List.append_assoc]
  change (ItemOptions.ofAttributes p.attributes >>= _) = _
  rw [ItemOptions.ofAttributes_eq, checkKind_eq]
  refine unlessFaulty_bind (unlessFaulty_bind ?_)
  have hexpose : expose [] p.fields = unlessFaulty (fieldFaults p.fields) _ := expose_eq [] p.fields
  rw [hexpose]
  exact unlessFaulty_map _

theorem faults_eq_nil :
    item.faults p = [] ↔
      (∀ tokens ∈ p.attributes, IsItemAttribute tokens) ∧ item.kind = .struct ∧
        (∀ f ∈ p.fields, ∀ tokens ∈ f.attributes, IsFieldAttribute tokens) ∧
        (names p.fields).Nodup := by
  rw [faults, List.append_assoc, List.append_eq_nil_iff, List.append_eq_nil_iff,
    List.flatMap_eq_nil_iff, kindFaults_eq_nil, fieldFaults_eq_nil]
  exact and_congr_left fun _ => forall₂_congr fun _ _ => itemAttribute_faults_eq_nil

theorem exists_clash_of_mem_faults {name : String} (h : .duplicateName name ∈ item.faults p) :
    ∃ g f, [g, f].Sublist p.fields ∧ g.Clashes f ∧ f.exposedName = name := by
  rw [faults, List.append_assoc, List.mem_append, List.mem_append] at h
  rcases h with h | h | h
  · exact (duplicateName_not_mem_attributes duplicateName_not_mem_itemFaults _ h).elim
  · rw [kindFaults.eq_def] at h
    split at h <;> simp at h
  · exact exists_clash h

theorem implementations_eq (h : item.IsWritten p) (hg : Generics.read item.generics = some generics) :
    ∃ impls, item.implementations = unlessFaulty (item.faults p) impls := by
  rw [implementations, h.name, hg, derive_eq h]
  exact ⟨_, unlessFaulty_map _⟩

/-- A declaration has its implementations if and only if its attributes ask for what there is, it is
a structure with named fields, the attributes of every field, left out or not, ask for what there
is and each agrees with itself, and no two exposed fields have one name. It is refused otherwise,
for the first of its faults. A refusal for a name tells of two fields that are both exposed. -/
theorem implementations_or_first_fault (h : item.IsWritten p)
    (hg : Generics.read item.generics = some generics) :
    (item.implementations.isOk = true ↔
        (∀ tokens ∈ p.attributes, IsItemAttribute tokens) ∧ item.kind = .struct ∧
          (∀ f ∈ p.fields, ∀ tokens ∈ f.attributes, IsFieldAttribute tokens) ∧
          (names p.fields).Nodup) ∧
      (∀ r, item.implementations = .error r ↔ (item.faults p).head? = some r) ∧
      ∀ name, item.implementations = .error (.duplicateName name) →
        ∃ g f, [g, f].Sublist p.fields ∧ g.isExposed = true ∧ f.isExposed = true ∧
          g.exposedName = name ∧ f.exposedName = name := by
  obtain ⟨impls, he⟩ := implementations_eq h hg
  rw [he, ← faults_eq_nil]
  refine ⟨?_, fun r => unlessFaulty_eq_error, fun name hname => ?_⟩
  · cases item.faults p <;> simp [unlessFaulty, Except.isOk, Except.toBool]
  · have hmem := List.mem_of_head? (unlessFaulty_eq_error.1 hname)
    obtain ⟨g, f, hpair, ⟨hg, hf, hsame⟩, hnamed⟩ := exists_clash_of_mem_faults hmem
    exact ⟨g, f, hpair, hg, hf, hsame.trans hnamed, hnamed⟩

/-- The name of the first field is free, because the field is left out, and the last field is not
looked at. -/
def twins : Item :=
  ⟨.struct, "Twins", "", ["name = \"Pair\""],
    [⟨"id", "u64", ["skip"]⟩, ⟨"left", "u8", ["rename = \"id\""]⟩,
      ⟨"right", "u8", ["opaque, rename = \"id\""]⟩, ⟨"odd", "u8", ["hidden"]⟩]⟩

theorem twins_first_fault :
    ∃ p generics, twins.IsWritten p ∧ Generics.read twins.generics = some generics ∧
      twins.implementations = .error (.duplicateName "id") ∧
      (twins.faults p).head? = some (.duplicateName "id") ∧
      ∃ g f, [g, f].Sublist p.fields ∧ g.isExposed = true ∧ f.isExposed = true ∧
        g.exposedName = "id" ∧ f.exposedName = "id" := by
  have hname : nameOf twins.name = some "Twins" := by decide +kernel
  have hattributes : (lexAll twins.attributes).isOk := by decide +kernel
  have hfields : twins.lexFields.isOk := by decide +kernel
  have hgenerics : (Generics.read twins.generics).isSome := by rfl
  have hrefused : twins.implementations = .error (.duplicateName "id") := by decide +kernel
  obtain ⟨attributes, hattributes⟩ := exists_eq_ok_of_isOk hattributes
  obtain ⟨fields, hfields⟩ := exists_eq_ok_of_isOk hfields
  obtain ⟨generics, hgenerics⟩ := Option.isSome_iff_exists.1 hgenerics
  have hwritten : twins.IsWritten ⟨"Twins", attributes, fields⟩ := ⟨hname, hattributes, hfields⟩
  obtain ⟨-, hfirst, hclash⟩ := implementations_or_first_fault hwritten hgenerics
  exact ⟨_, _, hwritten, hgenerics, hrefused, (hfirst _).1 hrefused, hclash _ hrefused⟩

end Item

end RecordQuery.Derive
