import RecordQuery.Derive.Meta.Reader

namespace RecordQuery.Derive

namespace Scan

variable {α β : Type} {s t : State}

theorem bind_eq_some {x : Scan α} {f : α → Scan β} {r : β × State} :
    (x >>= f) s = some r ↔ ∃ a u, x s = some (a, u) ∧ f a u = some r := by
  change (x s).bind (fun p => f p.1 p.2) = some r ↔ _
  rw [Option.bind_eq_some_iff]
  exact Prod.exists

theorem pure_eq_some {a b : α} : (pure a : Scan α) s = some (b, t) ↔ b = a ∧ t = s := by
  change some (a, s) = some (b, t) ↔ _
  rw [Option.some.injEq, Prod.mk.injEq, eq_comm, @eq_comm _ s]

theorem ahead_bind (test : List Token → Bool) (f : Bool → Scan α) :
    (ahead test >>= f) s = f (test s.rest) s := rfl

theorem captured_eq_some {scan : Scan Unit} {read : List Token} :
    captured scan s = some (read, t) ↔
      ∃ u, scan ⟨s.rest, []⟩ = some ((), u) ∧ read = u.written.reverse ∧ t = ⟨u.rest, s.written⟩ := by
  have he : captured scan s =
      (scan ⟨s.rest, []⟩).map fun r => (r.2.written.reverse, ⟨r.2.rest, s.written⟩) := by
    change (Option.map _ (scan ⟨s.rest, []⟩)).bind _ = _
    cases scan ⟨s.rest, []⟩ <;> rfl
  rw [he, Option.map_eq_some_iff]
  constructor
  · rintro ⟨⟨a, u⟩, hscan, h⟩
    cases h
    exact ⟨u, hscan, rfl, rfl⟩
  · rintro ⟨u, hscan, rfl, rfl⟩
    exact ⟨_, hscan, rfl⟩

theorem silently_eq_some {scan : Scan α} {a : α} :
    silently scan s = some (a, t) ↔
      ∃ u, scan ⟨s.rest, []⟩ = some (a, u) ∧ t = ⟨u.rest, s.written⟩ := by
  have he : silently scan s = (scan ⟨s.rest, []⟩).map fun r => (r.1, ⟨r.2.rest, s.written⟩) := by
    change (Option.map _ (scan ⟨s.rest, []⟩)).bind _ = _
    cases scan ⟨s.rest, []⟩ <;> rfl
  rw [he, Option.map_eq_some_iff]
  constructor
  · rintro ⟨⟨b, u⟩, hscan, h⟩
    cases h
    exact ⟨u, hscan, rfl⟩
  · rintro ⟨u, hscan, rfl⟩
    exact ⟨_, hscan, rfl⟩

theorem token_eq_some {test : List Token → Bool} :
    token test s = some ((), t) ↔
      ∃ tok rest, s.rest = tok :: rest ∧ test s.rest = true ∧ t = ⟨rest, tok :: s.written⟩ := by
  obtain ⟨rest, written⟩ := s
  cases rest with
  | nil => exact iff_of_false nofun (by rintro ⟨tok, rest, h, -⟩; cases h)
  | cons tok rest =>
    change (if test (tok :: rest) = true then _ else failure : Scan Unit) _ = _ ↔ _
    split
    · next htest =>
      constructor
      · intro h
        cases h
        exact ⟨tok, rest, rfl, htest, rfl⟩
      · rintro ⟨tok', rest', h, -, rfl⟩
        cases h
        rfl
    · next htest => exact iff_of_false nofun (by rintro ⟨-, -, -, h, -⟩; exact htest h)

theorem sign_eq_some {text : String} {c : Char} (hc : text.toList = [c]) :
    sign text s = some ((), t) ↔
      ∃ joint rest, s.rest = .mark c joint :: rest ∧ t = ⟨rest, .mark c false :: s.written⟩ := by
  obtain ⟨rest, written⟩ := s
  have hlength : text.length = 1 := by rw [← String.length_toList, hc]; rfl
  have hwrite : signTokens text = [.mark c false] := by rw [signTokens, hc]; rfl
  rw [sign, ahead_bind, Ahead.sign, hc, hlength, hwrite]
  cases rest with
  | nil => exact iff_of_false nofun (by rintro ⟨joint, rest, h, -⟩; cases h)
  | cons tok rest =>
    cases tok with
    | mark d joint =>
      by_cases hd : c = d
      · subst hd
        have hahead : Ahead.sign.go [c] (.mark c joint :: rest) = true := beq_self_eq_true c
        rw [hahead]
        constructor
        · intro h
          cases h
          exact ⟨joint, rest, rfl, rfl⟩
        · rintro ⟨joint', rest', h, rfl⟩
          cases h
          rfl
      · have hahead : Ahead.sign.go [c] (.mark d joint :: rest) = false := beq_eq_false_iff_ne.2 hd
        rw [hahead]
        exact iff_of_false nofun (by rintro ⟨joint', rest', h, -⟩; cases h; exact hd rfl)
    | _ => exact iff_of_false nofun (by rintro ⟨joint, rest', h, -⟩; cases h)

inductive Steps (step : Scan (α × Bool)) : State → List α → State → Prop where
  | last {a : α} {s t : State} (h : step s = some ((a, false), t)) : Steps step s [a] t
  | more {a : α} {as : List α} {s t u : State} (h : step s = some ((a, true), t))
      (hmore : Steps step t as u) : Steps step s (a :: as) u

def answersStep (step : Scan (α × Bool)) : List α × Bool → Scan (Option (List α × Bool))
  | (found, more) =>
    if more then do
      let (a, more) ← step
      return some (found ++ [a], more)
    else return none

theorem go_answersStep_true {step : Scan (α × Bool)} {bound : Nat} {found : List α}
    {r : (List α × Bool) × State} :
    iterate.go (answersStep step) (bound + 1) (found, true) s = some r ↔
      ∃ a more u, step s = some ((a, more), u) ∧
        iterate.go (answersStep step) bound (found ++ [a], more) u = some r := by
  constructor
  · intro h
    obtain ⟨o, u, ho, h⟩ := bind_eq_some.1 h
    obtain ⟨⟨a, more⟩, u', hstep, hpure⟩ := bind_eq_some.1 ho
    cases hpure
    exact ⟨a, more, u, hstep, h⟩
  · rintro ⟨a, more, u, hstep, h⟩
    have hround : answersStep step (found, true) s = some (some (found ++ [a], more), u) :=
      bind_eq_some.2 ⟨(a, more), u, hstep, rfl⟩
    exact bind_eq_some.2 ⟨_, u, hround, h⟩

theorem go_answersStep_false {step : Scan (α × Bool)} {bound : Nat} {found : List α}
    {r : (List α × Bool) × State} :
    iterate.go (answersStep step) bound (found, false) s = some r ↔
      0 < bound ∧ r = ((found, false), s) := by
  cases bound with
  | zero => exact iff_of_false nofun (fun h => Nat.lt_irrefl 0 h.1)
  | succ bound =>
    change some ((found, false), s) = some r ↔ _
    rw [Option.some.injEq, eq_comm, and_iff_right bound.succ_pos]

theorem go_answersStep {step : Scan (α × Bool)} {bound : Nat} {found all : List α} {more : Bool} :
    iterate.go (answersStep step) bound (found, true) s = some ((all, more), t) ↔
      ∃ as, all = found ++ as ∧ more = false ∧ Steps step s as t ∧ as.length < bound := by
  induction bound generalizing s found with
  | zero => exact iff_of_false nofun (by rintro ⟨as, -, -, -, h⟩; exact Nat.not_lt_zero _ h)
  | succ bound ih =>
    rw [go_answersStep_true]
    constructor
    · rintro ⟨a, more', u, hstep, h⟩
      cases more' with
      | false =>
        obtain ⟨hpos, he⟩ := go_answersStep_false.1 h
        cases he
        exact ⟨[a], rfl, rfl, .last hstep, Nat.succ_lt_succ hpos⟩
      | true =>
        obtain ⟨as, rfl, rfl, hmore, hlt⟩ := ih.1 h
        exact ⟨a :: as, List.append_cons .. ▸ rfl, rfl, .more hstep hmore, Nat.succ_lt_succ hlt⟩
    · rintro ⟨as, rfl, rfl, hsteps, hlt⟩
      cases hsteps with
      | last hstep =>
        exact ⟨_, false, t, hstep, go_answersStep_false.2 ⟨Nat.lt_of_succ_lt_succ hlt, rfl⟩⟩
      | @more a as _ u _ hstep hmore =>
        refine ⟨a, true, u, hstep, ih.2 ⟨as, ?_, rfl, hmore, Nat.lt_of_succ_lt_succ hlt⟩⟩
        rw [List.append_assoc, List.singleton_append]

theorem answers_eq_some {step : Scan (α × Bool)} {as : List α} :
    answers step s = some (as, t) ↔ Steps step s as t ∧ as.length ≤ s.rest.length := by
  constructor
  · intro h
    obtain ⟨⟨all, more⟩, u, hgo, h⟩ := bind_eq_some.1 h
    obtain ⟨as', rfl, rfl, hsteps, hlt⟩ := go_answersStep.1 hgo
    cases h
    exact ⟨hsteps, Nat.le_of_lt_succ hlt⟩
  · rintro ⟨hsteps, hle⟩
    have hgo := go_answersStep.2
      ⟨as, (List.nil_append as).symm, rfl, hsteps, Nat.lt_succ_of_le hle⟩
    exact bind_eq_some.2 ⟨(as, false), t, hgo, rfl⟩

theorem discard_eq_some {scan : Scan α} :
    (discard scan : Scan Unit) s = some ((), t) ↔ ∃ a, scan s = some (a, t) := by
  change (scan s).bind (fun p => some ((), p.2)) = some ((), t) ↔ _
  rw [Option.bind_eq_some_iff]
  constructor
  · rintro ⟨⟨a, u⟩, hscan, h⟩
    cases h
    exact ⟨a, hscan⟩
  · rintro ⟨a, hscan⟩
    exact ⟨_, hscan, rfl⟩

def listedStep (part : Scan α) : Scan ((α × Bool) × Bool) := do
  let a ← part
  if ← ahead List.isEmpty then return ((a, false), false)
  else
    silently (sign ",")
    return ((a, true), !(← ahead List.isEmpty))

theorem listedStep_eq_some {part : Scan α} {p : α × Bool} {more : Bool} :
    listedStep part s = some ((p, more), t) ↔
      ∃ a u, part s = some (a, u) ∧
        (u.rest = [] ∧ p = (a, false) ∧ more = false ∧ t = u ∨
          ∃ joint rest, u.rest = .mark ',' joint :: rest ∧ p = (a, true) ∧ more = !rest.isEmpty ∧
            t = ⟨rest, u.written⟩) := by
  constructor
  · intro h
    obtain ⟨a, u, hpart, h⟩ := bind_eq_some.1 h
    rw [ahead_bind] at h
    refine ⟨a, u, hpart, ?_⟩
    cases hu : u.rest.isEmpty with
    | true =>
      rw [hu] at h
      obtain ⟨he, rfl⟩ := pure_eq_some.1 h
      cases he
      exact .inl ⟨List.isEmpty_iff.1 hu, rfl, rfl, rfl⟩
    | false =>
      rw [hu] at h
      obtain ⟨_, v, hcomma, h⟩ := bind_eq_some.1 h
      obtain ⟨w, hw, rfl⟩ := silently_eq_some.1 hcomma
      obtain ⟨joint, rest, hrest, rfl⟩ := (sign_eq_some rfl).1 hw
      obtain ⟨he, rfl⟩ := pure_eq_some.1 h
      cases he
      exact .inr ⟨joint, rest, hrest, rfl, rfl, rfl⟩
  · rintro ⟨a, u, hpart, h⟩
    apply bind_eq_some.2
    refine ⟨a, u, hpart, ?_⟩
    rw [ahead_bind]
    rcases h with ⟨hu, rfl, rfl, rfl⟩ | ⟨joint, rest, hu, rfl, rfl, rfl⟩
    · rw [hu]
      rfl
    · have hcomma : silently (sign ",") u = some ((), ⟨rest, u.written⟩) :=
        silently_eq_some.2 ⟨_, (sign_eq_some rfl).2 ⟨joint, rest, hu, rfl⟩, rfl⟩
      rw [hu]
      exact bind_eq_some.2 ⟨(), _, hcomma, rfl⟩

theorem listed_eq_some {part : Scan α} {parts : List (α × Bool)} (h : s.rest ≠ []) :
    listed List.isEmpty part s = some (parts, t) ↔
      Steps (listedStep part) s parts t ∧ parts.length ≤ s.rest.length := by
  rw [listed, ahead_bind, List.isEmpty_eq_false_iff.2 h]
  exact answers_eq_some

theorem run_eq_some {scan : Scan α} {ts : List Token} {r : α × List Token} :
    scan.run ts = some r ↔
      ∃ u, scan ⟨ts, []⟩ = some (r.1, u) ∧ u.rest = [] ∧ r.2 = u.written.reverse := by
  rw [run.eq_def]
  split
  · next a written h =>
    rw [h, Option.some.injEq]
    constructor
    · rintro rfl
      exact ⟨_, rfl, rfl, rfl⟩
    · rintro ⟨u, hu, -, hr⟩
      cases hu
      exact Prod.ext rfl hr.symm
  · next h =>
    refine iff_of_false nofun ?_
    rintro ⟨⟨rest, written⟩, hu, rfl, -⟩
    exact h _ _ hu

end Scan

/-- A type stands at the front of the tokens. It is printed as the first of the other lists, and the
second one is left. -/
def TypeAt (g : Grammar) (ts printed rest : List Token) : Prop :=
  ∃ shape, g.type true ⟨ts, []⟩ = some (shape, ⟨rest, printed.reverse⟩)

/-- The name of a method, a colon and a type at the front of the tokens. -/
inductive AccessorAt (g : Grammar) : List Token → AccessorDecl → List Token → Prop where
  | intro {method : String} {joint : Bool} {ts printed rest : List Token}
      (hm : Token.isName method) (ht : TypeAt g ts printed rest) :
      AccessorAt g (.word method :: .mark ':' joint :: ts) ⟨method, Token.textOf printed⟩ rest

/-- Declarations of accessors with commas between them, and perhaps after the last one. -/
inductive AccessorsForm (g : Grammar) : List Token → List AccessorDecl → Prop where
  | nil : AccessorsForm g [] []
  | last {ts : List Token} {a : AccessorDecl} (ha : AccessorAt g ts a []) : AccessorsForm g ts [a]
  | more {ts rest : List Token} {a : AccessorDecl} {as : List AccessorDecl} {joint : Bool}
      (ha : AccessorAt g ts a (.mark ',' joint :: rest)) (has : AccessorsForm g rest as) :
      AccessorsForm g ts (a :: as)

namespace AccessorDecl

variable {g : Grammar} {s t : Scan.State} {a : AccessorDecl} {as : List AccessorDecl}
  {ts : List Token}

theorem exists_of_name (h : Ahead.name ts = true) :
    ∃ n rest, ts = .word n :: rest ∧ Token.isName n = true := by
  rw [Ahead.name.eq_def] at h
  split at h
  · exact ⟨_, _, rfl, h⟩
  · cases h

theorem scan_eq_some :
    AccessorDecl.scan g s = some (a, t) ↔
      ∃ rest, AccessorAt g s.rest a rest ∧ t = ⟨rest, .mark ':' false :: s.written⟩ := by
  constructor
  · intro h
    obtain ⟨method, u, hmethod, h⟩ := Scan.bind_eq_some.1 h
    obtain ⟨_, v, hcolon, h⟩ := Scan.bind_eq_some.1 h
    obtain ⟨type, w, htype, h⟩ := Scan.bind_eq_some.1 h
    obtain ⟨rfl, rfl⟩ := Scan.pure_eq_some.1 h
    obtain ⟨x, hname, rfl, rfl⟩ := Scan.captured_eq_some.1 hmethod
    obtain ⟨tok, ts, hrest, hm, rfl⟩ := Scan.token_eq_some.1 hname
    obtain ⟨joint, ts', hmark, rfl⟩ := (Scan.sign_eq_some (c := ':') rfl).1 hcolon
    obtain ⟨y, hread, rfl, rfl⟩ := Scan.captured_eq_some.1 htype
    obtain ⟨shape, hread⟩ := Scan.discard_eq_some.1 hread
    obtain ⟨n, rest, hword, hn⟩ := exists_of_name hm
    cases hrest.symm.trans hword
    have hs : s.rest = .word n :: .mark ':' joint :: ts' := hrest.trans (congrArg _ hmark)
    have ht : TypeAt g ts' y.written.reverse y.rest := by
      refine ⟨shape, ?_⟩
      rw [List.reverse_reverse]
      exact hread
    rw [hs]
    exact ⟨y.rest, .intro hn ht, rfl⟩
  · rintro ⟨rest, ha, rfl⟩
    obtain ⟨ts, written⟩ := s
    cases ha with
    | @intro n joint ts printed _ hn ht =>
      obtain ⟨shape, ht⟩ := ht
      have hname : Scan.name ⟨.word n :: .mark ':' joint :: ts, []⟩ =
          some ((), ⟨.mark ':' joint :: ts, [.word n]⟩) :=
        Scan.token_eq_some.2 ⟨_, _, rfl, hn, rfl⟩
      have hcolon : Scan.sign ":" ⟨.mark ':' joint :: ts, written⟩ =
          some ((), ⟨ts, .mark ':' false :: written⟩) :=
        (Scan.sign_eq_some (c := ':') rfl).2 ⟨joint, ts, rfl, rfl⟩
      apply Scan.bind_eq_some.2
      refine ⟨[.word n], _, Scan.captured_eq_some.2 ⟨_, hname, rfl, rfl⟩, ?_⟩
      apply Scan.bind_eq_some.2
      refine ⟨(), _, hcolon, ?_⟩
      apply Scan.bind_eq_some.2
      have htype := Scan.discard_eq_some.2 ⟨shape, ht⟩
      refine ⟨printed, _, Scan.captured_eq_some.2 ⟨_, htype, ?_, rfl⟩, rfl⟩
      exact (List.reverse_reverse printed).symm

theorem accessorAt_ne_nil {rest : List Token} (h : AccessorAt g ts a rest) : ts ≠ [] := by
  cases h with
  | intro => exact List.cons_ne_nil _ _

theorem accessorsForm_nil_iff (h : AccessorsForm g ts as) : ts = [] ↔ as = [] := by
  cases h with
  | nil => exact iff_of_true rfl rfl
  | last ha => exact iff_of_false (accessorAt_ne_nil ha) (List.cons_ne_nil _ _)
  | more ha _ => exact iff_of_false (accessorAt_ne_nil ha) (List.cons_ne_nil _ _)

theorem accessorsForm_of_steps {parts : List (AccessorDecl × Bool)}
    (h : Scan.Steps (Scan.listedStep (scan g)) s parts t) (ht : t.rest = []) :
    AccessorsForm g s.rest (parts.map Prod.fst) := by
  induction h with
  | @last p s t h =>
    obtain ⟨a, u, hread, hcomma⟩ := Scan.listedStep_eq_some.1 h
    obtain ⟨rest, ha, rfl⟩ := scan_eq_some.1 hread
    rcases hcomma with ⟨hu, rfl, -, rfl⟩ | ⟨joint, more, hu, rfl, -, rfl⟩
    · cases hu
      exact .last ha
    · cases hu
      cases ht
      exact .more ha .nil
  | @more p parts s t u h _ ih =>
    obtain ⟨a, v, hread, hcomma⟩ := Scan.listedStep_eq_some.1 h
    obtain ⟨rest, ha, rfl⟩ := scan_eq_some.1 hread
    rcases hcomma with ⟨-, -, he, -⟩ | ⟨joint, more, hv, rfl, -, rfl⟩
    · cases he
    · cases hv
      exact .more ha (ih ht)

theorem exists_steps (h : AccessorsForm g ts as) (has : as ≠ []) (written : List Token) :
    ∃ parts u, Scan.Steps (Scan.listedStep (scan g)) ⟨ts, written⟩ parts u ∧ u.rest = [] ∧
      parts.map Prod.fst = as := by
  induction h generalizing written with
  | nil => exact (has rfl).elim
  | @last ts a ha =>
    have hread := scan_eq_some (s := ⟨ts, written⟩).2 ⟨_, ha, rfl⟩
    have hstep := Scan.listedStep_eq_some.2 ⟨a, _, hread, .inl ⟨rfl, rfl, rfl, rfl⟩⟩
    exact ⟨_, _, .last hstep, rfl, rfl⟩
  | @more ts rest a as joint ha hmore ih =>
    have hread := scan_eq_some (s := ⟨ts, written⟩).2 ⟨_, ha, rfl⟩
    have hstep := Scan.listedStep_eq_some.2
      ⟨a, _, hread, .inr ⟨joint, rest, rfl, rfl, rfl, rfl⟩⟩
    by_cases hempty : rest = []
    · obtain rfl := (accessorsForm_nil_iff hmore).1 hempty
      subst hempty
      exact ⟨_, _, .last hstep, rfl, rfl⟩
    · have hsome := mt (accessorsForm_nil_iff hmore).2 hempty
      rw [List.isEmpty_eq_false_iff.2 hempty] at hstep
      obtain ⟨parts, u, hsteps, hu, rfl⟩ := ih hsome _
      exact ⟨_, u, .more hstep hsteps, hu, rfl⟩

/-- A list of accessors can be read if it consists of declarations, of which there are not more than
there are tokens. -/
theorem ofTokens_eq_some :
    AccessorDecl.ofTokens ts = some as ↔
      AccessorsForm (Grammar.ofTokens ts) ts as ∧ as.length ≤ ts.length := by
  have hread : AccessorDecl.ofTokens ts = some as ↔ ∃ parts u,
      Scan.listed List.isEmpty (scan (Grammar.ofTokens ts)) ⟨ts, []⟩ = some (parts, u) ∧
        u.rest = [] ∧ parts.map Prod.fst = as := by
    change (Scan.run (Scan.listed _ _) ts).bind (fun r => some (List.map Prod.fst r.1)) = _ ↔ _
    rw [Option.bind_eq_some_iff]
    simp only [Scan.run_eq_some, Option.some.injEq]
    constructor
    · rintro ⟨r, ⟨u, hu, hrest, -⟩, has⟩
      exact ⟨r.1, u, hu, hrest, has⟩
    · rintro ⟨parts, u, hu, hrest, has⟩
      exact ⟨(parts, _), ⟨u, hu, hrest, rfl⟩, has⟩
  rw [hread]
  by_cases hts : ts = []
  · subst hts
    constructor
    · rintro ⟨parts, u, hu, -, rfl⟩
      cases hu
      exact ⟨.nil, Nat.le_refl 0⟩
    · rintro ⟨hform, -⟩
      obtain rfl := (accessorsForm_nil_iff hform).1 rfl
      exact ⟨[], _, rfl, rfl, rfl⟩
  · simp only [Scan.listed_eq_some (s := ⟨ts, []⟩) hts]
    constructor
    · rintro ⟨parts, u, ⟨hsteps, hle⟩, hrest, rfl⟩
      rw [List.length_map]
      exact ⟨accessorsForm_of_steps hsteps hrest, hle⟩
    · rintro ⟨hform, hle⟩
      have hsome := mt (accessorsForm_nil_iff hform).2 hts
      obtain ⟨parts, u, hsteps, hrest, rfl⟩ := exists_steps hform hsome []
      rw [List.length_map] at hle
      exact ⟨parts, u, ⟨hsteps, hle⟩, hrest, rfl⟩

end AccessorDecl

end RecordQuery.Derive
