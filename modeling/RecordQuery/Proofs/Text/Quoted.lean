import RecordQuery.Proofs.Reader
import RecordQuery.Text.Quoted

namespace RecordQuery.Text.Quoted

open Reader

variable {rest : List Char}

theorem double_cons {c : Char} (hc : c ≠ '\'') (cs : List Char) :
    double (c :: cs) = c :: double cs :=
  if_neg hc

theorem double_cons_quote (cs : List Char) : double ('\'' :: cs) = '\'' :: '\'' :: double cs := rfl

theorem undouble_cons {c : Char} (hc : c ≠ '\'') (cs : List Char) :
    undouble (c :: cs) = c :: undouble cs := by
  rw [undouble]
  intro tail he
  exact (hc he).elim

theorem body_cons {c : Char} (hc : c ≠ '\'') (cs : List Char) :
    body (c :: cs) = (c :: (body cs).1, (body cs).2) := by
  rw [body, if_neg hc]
  intro tail he
  exact (hc he).elim

theorem avoids_quote_iff : Avoids (· = '\'') rest ↔ rest.head? ≠ some '\'' := by
  cases rest <;> simp [Avoids]

theorem body_closing (hr : Avoids (· = '\'') rest) : body ('\'' :: rest) = ([], '\'' :: rest) := by
  rw [body, if_pos rfl]
  rintro tail - rfl
  exact avoids_quote_iff.1 hr rfl

theorem undouble_double (s : List Char) : undouble (double s) = s := by
  induction s with
  | nil => rfl
  | cons c s ih =>
    by_cases hc : c = '\''
    · subst hc
      rw [double_cons_quote, undouble, ih]
    · rw [double_cons hc, undouble_cons hc, ih]

theorem body_double (s : List Char) (hr : Avoids (· = '\'') rest) :
    body (double s ++ '\'' :: rest) = (double s, '\'' :: rest) := by
  induction s with
  | nil => exact body_closing hr
  | cons c s ih =>
    by_cases hc : c = '\''
    · subst hc
      rw [double_cons_quote, List.cons_append, List.cons_append, body, ih]
    · rw [double_cons hc, List.cons_append, body_cons hc, ih]

theorem double_undouble_body (cs : List Char) : double (undouble (body cs).1) = (body cs).1 := by
  fun_induction body cs with
  | case1 => rfl
  | case2 cs ih => rw [undouble, double_cons_quote, ih]
  | case3 cs hne => rfl
  | case4 c cs hne hc ih => rw [undouble_cons hc, double_cons hc, ih]

theorem body_append (cs : List Char) : (body cs).1 ++ (body cs).2 = cs := by
  fun_induction body cs with
  | case1 => rfl
  | case2 cs ih => rw [List.cons_append, List.cons_append, ih]
  | case3 cs hne => rfl
  | case4 c cs hne hc ih => rw [List.cons_append, ih]

/-- The body is the longest possible: a quote that ends it is not the first of two. -/
theorem avoids_of_body {cs : List Char} (h : (body cs).2 = '\'' :: rest) :
    Avoids (· = '\'') rest := by
  fun_induction body cs with
  | case1 => cases h
  | case2 cs ih => exact ih h
  | case3 cs hne =>
    cases h
    refine avoids_quote_iff.2 fun hq => ?_
    obtain ⟨tail, rfl⟩ := List.head?_eq_some_iff.1 hq
    exact hne tail rfl rfl
  | case4 c cs hne hc ih => exact ih h

theorem reader_encode (s : String) (hr : Avoids (· = '\'') rest) :
    reader (encode s.toList ++ rest) = .ok (s, rest) := by
  have hopen : exactly "'" (encode s.toList ++ rest) =
      .ok ((), double s.toList ++ '\'' :: rest) := by
    rw [encode, List.cons_append, List.append_assoc]
    exact exactly_cons "'" '\'' rfl _
  have hbody : taking body (double s.toList ++ '\'' :: rest) =
      .ok (double s.toList, '\'' :: rest) := by
    rw [taking, body_double _ hr]
  have hclose : exactly "'" ('\'' :: rest) = .ok ((), rest) := exactly_cons "'" '\'' rfl rest
  rw [reader, bind_of_ok hopen, bind_of_ok hbody, bind_of_ok hclose, undouble_double]
  exact pure_eq_ok.2 ⟨String.ofList_toList, rfl⟩

theorem exists_body_of_reader {cs : List Char} {s : String} (h : reader cs = .ok (s, rest)) :
    ∃ mid, cs = '\'' :: mid ∧ (body mid).2 = '\'' :: rest ∧
      String.ofList (undouble (body mid).1) = s := by
  obtain ⟨_, mid, hopen, h⟩ := bind_eq_ok.1 h
  obtain ⟨written, last, hbody, h⟩ := bind_eq_ok.1 h
  obtain ⟨_, tail, hclose, h⟩ := bind_eq_ok.1 h
  obtain ⟨rfl, rfl⟩ := pure_eq_ok.1 h
  have hsplit : body mid = (written, last) := Except.ok.inj hbody
  refine ⟨mid, exactly_eq_ok hopen, ?_, ?_⟩
  · rw [hsplit]
    exact exactly_eq_ok hclose
  · rw [hsplit]

theorem reader_eq_ok {cs : List Char} {s : String} (h : reader cs = .ok (s, rest)) :
    cs = encode s.toList ++ rest := by
  obtain ⟨mid, rfl, hlast, rfl⟩ := exists_body_of_reader h
  rw [String.toList_ofList, encode, double_undouble_body]
  calc
    '\'' :: mid = '\'' :: ((body mid).1 ++ (body mid).2) := by rw [body_append]
    _ = '\'' :: ((body mid).1 ++ ['\'']) ++ rest := by rw [hlast]; simp

theorem avoids_of_reader {cs : List Char} {s : String} (h : reader cs = .ok (s, rest)) :
    Avoids (· = '\'') rest := by
  obtain ⟨mid, -, hlast, -⟩ := exists_body_of_reader h
  exact avoids_of_body hlast

end RecordQuery.Text.Quoted
