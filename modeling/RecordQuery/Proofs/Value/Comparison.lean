import RecordQuery.Proofs.Value.Order

namespace RecordQuery.Value

/-- What values have in common that compare. -/
inductive Kind where
  | integer
  | float
  | bool
  | text
  | timestamp
  deriving DecidableEq, Repr

def kind? : Value → Option Kind
  | integer _ => some .integer
  | float _ => some .float
  | bool _ => some .bool
  | text _ => some .text
  | timestamp _ => some .timestamp
  | foreign _ => none

variable {identifier n m : String} {x y : Value} {e : Error}

theorem isForeign_eq (x : Value) : x.isForeign = x.kind?.isNone := by
  cases x <;> rfl

theorem exists_order?_iff :
    (∃ o, x.order? y = some o) ↔ ∃ k, x.kind? = some k ∧ y.kind? = some k := by
  cases x <;> cases y <;> simp [order?, kind?]

theorem order?_self (h : x.kind? ≠ none) : x.order? x = some .eq := by
  have hself {α : Type} [Ord α] [Std.ReflOrd α] (a : α) : Ord.compare a a = .eq :=
    Std.ReflOrd.compare_self
  cases x with
  | foreign => exact (h rfl).elim
  | _ => exact congrArg some (hself _)

theorem compare_coherent (identifier : String) :
    Coherent fun (a b : Value × String) o => compare identifier a.1 a.2 b.1 b.2 = .ok o where
  swap h := compare_eq_ok.2 (order_coherent.swap (compare_eq_ok.1 h))
  trans h h' ho ho' :=
    compare_eq_ok.2 (order_coherent.trans (compare_eq_ok.1 h) (compare_eq_ok.1 h') ho ho')

theorem exists_compare_eq_ok :
    (∃ o, compare identifier x n y m = .ok o) ↔ ∃ k, x.kind? = some k ∧ y.kind? = some k := by
  rw [← exists_order?_iff]
  exact exists_congr fun _ => compare_eq_ok

/-- The error for two values, each with the name of its record, that do not compare: it tells the
first one that has no kind, or else both. -/
def refusal (identifier : String) (a b : Value × String) : Error :=
  match [a, b].find? (·.1.kind?.isNone) with
  | some (v, target) => .unsupportedType identifier ⟨v.type, target⟩ none
  | none => .incompatibleTypes identifier ⟨a.1.type, a.2⟩ ⟨b.1.type, b.2⟩

theorem compare_of_order?_eq_none (h : x.order? y = none) :
    compare identifier x n y m = .error (refusal identifier (x, n) (y, m)) := by
  rw [compare, refusal, isForeign_eq, isForeign_eq]
  cases hx : x.kind? with
  | none => simp [hx]
  | some k =>
    cases hy : y.kind? with
    | none => simp [hx, hy]
    | some k' => simp [hx, hy, h]

theorem compare_eq_error :
    compare identifier x n y m = .error e ↔
      (¬ ∃ k, x.kind? = some k ∧ y.kind? = some k) ∧ e = refusal identifier (x, n) (y, m) := by
  rw [← exists_order?_iff]
  cases h : x.order? y with
  | none => simp [compare_of_order?_eq_none h, eq_comm]
  | some o => simp [compare_eq_ok.2 h]

theorem incompatibleTypes_eq_refusal {a b : Value × String} {s t : Origin} :
    .incompatibleTypes identifier s t = refusal identifier a b ↔
      a.1.kind? ≠ none ∧ b.1.kind? ≠ none ∧ s = ⟨a.1.type, a.2⟩ ∧ t = ⟨b.1.type, b.2⟩ := by
  rw [refusal]
  cases ha : a.1.kind? with
  | none => simp [ha]
  | some k =>
    cases hb : b.1.kind? with
    | none => simp [ha, hb]
    | some k' => simp [ha, hb]

theorem compare_swap_incompatibleTypes {s t : Origin} :
    compare identifier x n y m = .error (.incompatibleTypes identifier s t) ↔
      compare identifier y m x n = .error (.incompatibleTypes identifier t s) := by
  have hforward {x y : Value} {n m : String} {s t : Origin}
      (h : compare identifier x n y m = .error (.incompatibleTypes identifier s t)) :
      compare identifier y m x n = .error (.incompatibleTypes identifier t s) := by
    obtain ⟨hkinds, he⟩ := compare_eq_error.1 h
    obtain ⟨hx, hy, hs, ht⟩ := incompatibleTypes_eq_refusal.1 he
    refine compare_eq_error.2 ⟨?_, incompatibleTypes_eq_refusal.2 ⟨hy, hx, ht, hs⟩⟩
    rintro ⟨k, hk⟩
    exact hkinds ⟨k, hk.symm⟩
  exact ⟨hforward, hforward⟩

/-- Two values compare if and only if they are of one kind. On the values of a kind the comparison
is a total preorder, in which equal values are interchangeable and integers stand as numbers. Other
values are refused with an error for the first one of a foreign type, and otherwise with one that
tells the types of both; this one tells them in the other order if the values change places. -/
theorem compare_within_kinds (identifier : String) (x y z : Value) (n m l : String) :
    let xy := compare identifier x n y m
    let yx := compare identifier y m x n
    let yz := compare identifier y m z l
    let zy := compare identifier z l y m
    let xz := compare identifier x n z l
    let zx := compare identifier z l x n
    ((∃ o, xy = .ok o) ↔ ∃ k, x.kind? = some k ∧ y.kind? = some k) ∧
      ((∃ o, xy = .ok o) → ∃ o, yx = .ok o) ∧
      ((∃ o, xy = .ok o) → (∃ o, yz = .ok o) → ∃ o, xz = .ok o) ∧
      (x.kind? ≠ none → compare identifier x n x m = .ok .eq) ∧
      (∀ o, xy = .ok o ↔ yx = .ok o.swap) ∧
      (∀ o o', xy = .ok o → yz = .ok o' → o ≠ .gt → o' ≠ .gt → xz = .ok (o.then o')) ∧
      (xy = .ok .eq → ∀ o, (xz = .ok o ↔ yz = .ok o) ∧ (zx = .ok o ↔ zy = .ok o)) ∧
      (∀ i j, x = .integer i → y = .integer j → xy = .ok (Ord.compare i.value j.value)) ∧
      (∀ e, xy = .error e ↔
        (¬ ∃ k, x.kind? = some k ∧ y.kind? = some k) ∧ e = refusal identifier (x, n) (y, m)) ∧
      ∀ s t, xy = .error (.incompatibleTypes identifier s t) ↔
        yx = .error (.incompatibleTypes identifier t s) := by
  have hc := compare_coherent identifier
  intro xy yx yz zy xz zx
  refine ⟨exists_compare_eq_ok, ?_, ?_, ?_, ?_, ?_, ?_, ?_, ?_, ?_⟩
  · rintro ⟨o, ho⟩
    exact ⟨o.swap, hc.swap (a := (x, n)) (b := (y, m)) ho⟩
  · intro hxy hyz
    obtain ⟨k, hx, hy⟩ := exists_compare_eq_ok.1 hxy
    obtain ⟨k', hy', hz⟩ := exists_compare_eq_ok.1 hyz
    cases hy.symm.trans hy'
    exact exists_compare_eq_ok.2 ⟨k, hx, hz⟩
  · exact fun hx => compare_eq_ok.2 (order?_self hx)
  · exact fun o => hc.swap_iff (a := (x, n)) (b := (y, m))
  · exact fun o o' => hc.trans (a := (x, n)) (b := (y, m)) (c := (z, l))
  · intro he o
    have he : compare identifier (x, n).1 (x, n).2 (y, m).1 (y, m).2 = .ok .eq := he
    exact ⟨hc.congr_left (c := (z, l)) he, hc.congr_right (c := (z, l)) he⟩
  · rintro i j rfl rfl
    exact compare_eq_ok.2 rfl
  · exact fun e => compare_eq_error
  · exact fun s t => compare_swap_incompatibleTypes

/-- The same number at two widths, and a larger one at a third. -/
theorem compare_within_kinds_widths :
    compare "age" (.integer ⟨.i8, -1, by decide⟩) "Pet" (.integer ⟨.i64, -1, by decide⟩) "Label" =
        .ok .eq ∧
      compare "age" (.integer ⟨.i64, -1, by decide⟩) "Label"
        (.integer ⟨.u64, 18446744073709551615, by decide⟩) "Tag" = .ok .lt ∧
      compare "age" (.integer ⟨.i8, -1, by decide⟩) "Pet"
        (.integer ⟨.u64, 18446744073709551615, by decide⟩) "Tag" = .ok .lt := by
  have hxy : compare "age" (.integer ⟨.i8, -1, by decide⟩) "Pet"
      (.integer ⟨.i64, -1, by decide⟩) "Label" = .ok .eq := rfl
  have hyz : compare "age" (.integer ⟨.i64, -1, by decide⟩) "Label"
      (.integer ⟨.u64, 18446744073709551615, by decide⟩) "Tag" = .ok .lt := rfl
  obtain ⟨-, -, -, -, -, htrans, -⟩ := compare_within_kinds "age" (.integer ⟨.i8, -1, by decide⟩)
    (.integer ⟨.i64, -1, by decide⟩) (.integer ⟨.u64, 18446744073709551615, by decide⟩)
    "Pet" "Label" "Tag"
  exact ⟨hxy, hyz, htrans .eq .lt hxy hyz nofun nofun⟩

end RecordQuery.Value
