import RecordQuery.Derive.Options

namespace RecordQuery.Derive

theorem bind_eq_ok {ε α β : Type} {x : Except ε α} {f : α → Except ε β} {b : β} :
    (x >>= f) = .ok b ↔ ∃ a, x = .ok a ∧ f a = .ok b := by
  cases x with
  | error e => simp [bind, Except.bind]
  | ok a => simp [bind, Except.bind]

/-- The value, unless there are faults; then the first one is told. -/
def unlessFaulty {α : Type} (faults : List Refusal) (a : α) : Except Refusal α :=
  match faults with
  | [] => .ok a
  | r :: _ => .error r

section Faults

variable {α β : Type} {faults : List Refusal} {a b : α} {r : Refusal}

theorem unlessFaulty_eq_ok : unlessFaulty faults a = .ok b ↔ faults = [] ∧ a = b := by
  cases faults <;> simp [unlessFaulty]

theorem unlessFaulty_eq_error : unlessFaulty faults a = .error r ↔ faults.head? = some r := by
  cases faults <;> simp [unlessFaulty]

theorem unlessFaulty_bind {next : α → Except Refusal β} {more : List Refusal} {c : β}
    (h : next a = unlessFaulty more c) :
    (unlessFaulty faults a >>= next) = unlessFaulty (faults ++ more) c := by
  cases faults with
  | nil => exact h
  | cons r faults => rfl

theorem unlessFaulty_map (f : α → β) :
    (do return f (← unlessFaulty faults a)) = unlessFaulty faults (f a) := by
  cases faults with
  | nil => rfl
  | cons r faults => rfl

end Faults

def MetaValue.faults (key : String) : MetaValue → List Refusal
  | text _ => []
  | expression => [.notText key]

namespace Meta

def isMark (key : String) : Meta → Bool
  | path (some k) => k = key
  | _ => false

def textFor? (key : String) : Meta → Option String
  | value (some k) (.text s) => if k = key then some s else none
  | _ => none

def accessors : Meta → List AccessorDecl
  | list (some "accessors") tokens => (AccessorDecl.ofTokens tokens).getD []
  | _ => []

/-- Of several texts for one key the last one counts. -/
def lastText (key : String) (metas : List Meta) : Option String :=
  (metas.filterMap (textFor? key)).getLast?

def entries (tokens : List Token) : List Meta :=
  (ofTokens tokens).getD []

def fieldFaults : Meta → List Refusal
  | path (some "skip") => []
  | path (some "opaque") => []
  | value (some "rename") v => v.faults "rename"
  | _ => [.unknownFieldMeta]

def itemFaults : Meta → List Refusal
  | value (some "name") v => v.faults "name"
  | list (some "accessors") tokens =>
    if (AccessorDecl.ofTokens tokens).isSome then [] else [.malformed]
  | _ => [.unknownItemMeta]

/-- What is wrong with an attribute, given what is wrong with its entries together. -/
def attributeFaults (faults : List Meta → List Refusal) (tokens : List Token) : List Refusal :=
  match ofTokens tokens with
  | some metas => faults metas
  | none => [.malformed]

theorem lastText_append (key : String) (metas more : List Meta) :
    lastText key (metas ++ more) = (lastText key more).or (lastText key metas) := by
  simp [lastText]

end Meta

section Totals

variable {X O : Type} {merge : O → O → O} {total : List Meta → O} {step : O → X → Except Refusal O}

/-- Steps that each merge in what some entries ask for merge in what all of them ask for, unless one
of them is faulty. -/
theorem foldlM_eq_unlessFaulty (entries : X → List Meta) (faults : X → List Refusal)
    (hnil : ∀ o, merge o (total []) = o)
    (happend : ∀ o metas more,
      merge (merge o (total metas)) (total more) = merge o (total (metas ++ more)))
    (hstep : ∀ o x, step o x = unlessFaulty (faults x) (merge o (total (entries x)))) (xs : List X)
    (o : O) :
    xs.foldlM step o = unlessFaulty (xs.flatMap faults) (merge o (total (xs.flatMap entries))) := by
  induction xs generalizing o with
  | nil => exact congrArg Except.ok (hnil o).symm
  | cons x xs ih =>
    rw [List.foldlM_cons, hstep, List.flatMap_cons, List.flatMap_cons, ← happend]
    exact unlessFaulty_bind (ih _)

theorem merge_attribute {ofMetas : List Meta → Except Refusal O} {faults : List Meta → List Refusal}
    (hof : ∀ metas, ofMetas metas = unlessFaulty (faults metas) (total metas)) (o : O)
    (tokens : List Token) :
    (do return merge o (← ofMetas (← metasOf tokens))) =
      unlessFaulty (Meta.attributeFaults faults tokens) (merge o (total (Meta.entries tokens))) := by
  rw [metasOf, Meta.attributeFaults, Meta.entries]
  cases Meta.ofTokens tokens with
  | none => rfl
  | some metas =>
    exact (congrArg (· >>= fun p => pure (merge o p)) (hof metas)).trans (unlessFaulty_map _)

end Totals

namespace FieldOptions

variable {o : FieldOptions}

def ofEntries (metas : List Meta) : FieldOptions :=
  ⟨metas.any (Meta.isMark "skip"), metas.any (Meta.isMark "opaque"), Meta.lastText "rename" metas⟩

def isContradictory (o : FieldOptions) : Bool :=
  o.skip && (o.masked || o.rename.isSome)

def faults (metas : List Meta) : List Refusal :=
  metas.flatMap Meta.fieldFaults ++ if (ofEntries metas).isContradictory then [.skipConflict] else []

theorem merge_ofEntries_nil (o : FieldOptions) : o.merge (ofEntries []) = o := by
  simp [merge, ofEntries, Meta.lastText]

theorem merge_ofEntries_append (o : FieldOptions) (metas more : List Meta) :
    (o.merge (ofEntries metas)).merge (ofEntries more) = o.merge (ofEntries (metas ++ more)) := by
  simp [merge, ofEntries, Meta.lastText_append, Bool.or_assoc, Option.or_assoc]

theorem none_merge (o : FieldOptions) : none.merge o = o := by
  simp [merge, none]

theorem add_eq (o : FieldOptions) (m : Meta) :
    add o m = unlessFaulty m.fieldFaults (o.merge (ofEntries [m])) := by
  rw [add.eq_def]
  split
  · simp [unlessFaulty, Meta.fieldFaults, merge, ofEntries, Meta.isMark, Meta.lastText,
      Meta.textFor?]
  · simp [unlessFaulty, Meta.fieldFaults, merge, ofEntries, Meta.isMark, Meta.lastText,
      Meta.textFor?]
  · next v =>
    cases v with
    | text s =>
      have he : o.merge (ofEntries [.value (some "rename") (.text s)]) =
          { o with rename := some s } := by
        simp [merge, ofEntries, Meta.isMark, Meta.lastText, Meta.textFor?]
      exact congrArg Except.ok he.symm
    | expression => rfl
  · next hskip hmasked hrename =>
    have hfaults : m.fieldFaults = [.unknownFieldMeta] := by
      rw [Meta.fieldFaults.eq_def]
      split
      · exact (hskip rfl).elim
      · exact (hmasked rfl).elim
      · exact (hrename _ rfl).elim
      · rfl
    rw [hfaults]
    rfl

theorem ofMetas_eq (metas : List Meta) :
    ofMetas metas = unlessFaulty (faults metas) (ofEntries metas) := by
  have hall := foldlM_eq_unlessFaulty (fun m => [m]) _ merge_ofEntries_nil merge_ofEntries_append
    add_eq metas none
  rw [List.flatMap_singleton', none_merge] at hall
  rw [ofMetas, hall, faults]
  refine unlessFaulty_bind ?_
  rw [← isContradictory]
  split <;> rfl

/-- All attributes of a field ask together for what their entries ask for. -/
theorem ofAttributes_eq (attributes : List (List Token)) :
    ofAttributes attributes = unlessFaulty (attributes.flatMap (Meta.attributeFaults faults))
      (ofEntries (attributes.flatMap Meta.entries)) := by
  have hall := foldlM_eq_unlessFaulty Meta.entries _ merge_ofEntries_nil merge_ofEntries_append
    (merge_attribute ofMetas_eq) attributes none
  rwa [none_merge] at hall

theorem ofAttributes_eq_ok {attributes : List (List Token)} (h : ofAttributes attributes = .ok o) :
    o = ofEntries (attributes.flatMap Meta.entries) := by
  rw [ofAttributes_eq] at h
  exact (unlessFaulty_eq_ok.1 h).2.symm

end FieldOptions

namespace ItemOptions

variable {o : ItemOptions}

def ofEntries (metas : List Meta) : ItemOptions :=
  ⟨Meta.lastText "name" metas, metas.flatMap Meta.accessors⟩

def faults (metas : List Meta) : List Refusal :=
  metas.flatMap Meta.itemFaults

theorem merge_ofEntries_nil (o : ItemOptions) : o.merge (ofEntries []) = o := by
  simp [merge, ofEntries, Meta.lastText]

theorem merge_ofEntries_append (o : ItemOptions) (metas more : List Meta) :
    (o.merge (ofEntries metas)).merge (ofEntries more) = o.merge (ofEntries (metas ++ more)) := by
  simp [merge, ofEntries, Meta.lastText_append, Option.or_assoc]

theorem none_merge (o : ItemOptions) : none.merge o = o := by
  simp [merge, none]

theorem add_eq (o : ItemOptions) (m : Meta) :
    add o m = unlessFaulty m.itemFaults (o.merge (ofEntries [m])) := by
  rw [add.eq_def]
  split
  · next v =>
    cases v with
    | text s =>
      have he : o.merge (ofEntries [.value (some "name") (.text s)]) =
          { o with name := some s } := by
        simp [merge, ofEntries, Meta.accessors, Meta.lastText, Meta.textFor?]
      exact congrArg Except.ok he.symm
    | expression => rfl
  · next tokens =>
    rw [Meta.itemFaults]
    split
    · next more hmore =>
      have he : o.merge (ofEntries [.list (some "accessors") tokens]) =
          { o with accessors := o.accessors ++ more } := by
        simp [merge, ofEntries, Meta.accessors, Meta.lastText, Meta.textFor?, hmore]
      rw [hmore, he]
      rfl
    · next hnone =>
      rw [hnone]
      rfl
  · next hname haccessors =>
    have hfaults : m.itemFaults = [.unknownItemMeta] := by
      rw [Meta.itemFaults.eq_def]
      split
      · exact (hname _ rfl).elim
      · exact (haccessors _ rfl).elim
      · rfl
    rw [hfaults]
    rfl

theorem ofMetas_eq (metas : List Meta) :
    ofMetas metas = unlessFaulty (faults metas) (ofEntries metas) := by
  have hall := foldlM_eq_unlessFaulty (fun m => [m]) _ merge_ofEntries_nil merge_ofEntries_append
    add_eq metas none
  rwa [List.flatMap_singleton', none_merge] at hall

theorem ofAttributes_eq (attributes : List (List Token)) :
    ofAttributes attributes = unlessFaulty (attributes.flatMap (Meta.attributeFaults faults))
      (ofEntries (attributes.flatMap Meta.entries)) := by
  have hall := foldlM_eq_unlessFaulty Meta.entries _ merge_ofEntries_nil merge_ofEntries_append
    (merge_attribute ofMetas_eq) attributes none
  rwa [none_merge] at hall

theorem ofAttributes_eq_ok {attributes : List (List Token)} (h : ofAttributes attributes = .ok o) :
    o = ofEntries (attributes.flatMap Meta.entries) := by
  rw [ofAttributes_eq] at h
  exact (unlessFaulty_eq_ok.1 h).2.symm

end ItemOptions

end RecordQuery.Derive
