/-
  MaterialSearch.Text.Pieces
  ────────────────────────────────
  **LISTS WRITTEN WITH A SEPARATOR.**

  A list stands in one text with a separator between its pieces, and
  nothing is quoted: a text with `n` separators has `n + 1` pieces, and
  the empty text is the one empty piece.

  Main definitions:
    * `pieces` — the pieces between the separators
    * `splitAt` — the same on strings

  Main results:
    * `intercalate_pieces` — the pieces give the text back
    * `pieces_intercalate` — pieces without the separator are given back
    * `pieces_append_left`, `pieces_append_right` — texts at the two ends
-/

namespace MaterialSearch.Text

/-! ## §1. Splitting. -/

/-- The pieces of a text between the separators `sep`. -/
def pieces (sep : Char) : List Char → List (List Char)
  | [] => [[]]
  | c :: cs =>
      if c = sep then [] :: pieces sep cs
      else
        match pieces sep cs with
        | [] => [[c]]
        | p :: ps => (c :: p) :: ps

/-- The pieces of a string between the separators `sep`. -/
def splitAt (sep : Char) (s : String) : List String :=
  (pieces sep s.toList).map String.ofList

/-! ## §2. Laws. -/

theorem pieces_ne_nil (sep : Char) (cs : List Char) : pieces sep cs ≠ [] := by
  cases cs with
  | nil => simp [pieces]
  | cons c cs =>
    simp only [pieces]
    split
    · simp
    · split <;> simp

/-- The pieces, with the separator put back between them, are the text. -/
theorem intercalate_pieces (sep : Char) (cs : List Char) :
    List.intercalate [sep] (pieces sep cs) = cs := by
  induction cs with
  | nil => rfl
  | cons c cs ih =>
    simp only [pieces]
    cases hp : pieces sep cs with
    | nil => exact absurd hp (pieces_ne_nil sep cs)
    | cons p ps =>
      rw [hp] at ih
      split
      · next h =>
        subst h
        rw [List.intercalate_cons_cons, ih]
        rfl
      · cases ps with
        | nil =>
          rw [List.intercalate_singleton] at ih ⊢
          rw [ih]
        | cons q qs =>
          rw [List.intercalate_cons_cons] at ih ⊢
          rw [← ih]
          rfl

/-- A text without the separator is one piece. -/
theorem pieces_of_notMem {sep : Char} {cs : List Char} (h : sep ∉ cs) :
    pieces sep cs = [cs] := by
  induction cs with
  | nil => rfl
  | cons c cs ih =>
    simp only [List.mem_cons, not_or] at h
    simp [pieces, ih h.2, Ne.symm h.1]

/-- A first piece without the separator is cut off at the separator. -/
theorem pieces_append {sep : Char} {p : List Char} (h : sep ∉ p)
    (cs : List Char) : pieces sep (p ++ sep :: cs) = p :: pieces sep cs := by
  induction p with
  | nil => simp [pieces]
  | cons c p ih =>
    simp only [List.mem_cons, not_or] at h
    simp [pieces, ih h.2, Ne.symm h.1]

/-- A list of pieces, none of which holds the separator, is given back by
splitting its text. -/
theorem pieces_intercalate {sep : Char} {ps : List (List Char)}
    (hne : ps ≠ []) (h : ∀ p ∈ ps, sep ∉ p) :
    pieces sep (List.intercalate [sep] ps) = ps := by
  induction ps with
  | nil => exact absurd rfl hne
  | cons p ps ih =>
    cases ps with
    | nil =>
      rw [List.intercalate_singleton]
      exact pieces_of_notMem (h p (by simp))
    | cons q qs =>
      rw [List.intercalate_cons_cons, List.append_assoc]
      rw [List.singleton_append, pieces_append (h p (by simp))]
      rw [ih (by simp) fun r hr => h r (by simp [hr])]

/-- What stands before a text and has no separator joins its first piece. -/
theorem pieces_append_left {sep : Char} {before : List Char} (h : sep ∉ before)
    (cs : List Char) : ∃ p ps, pieces sep cs = p :: ps
      ∧ pieces sep (before ++ cs) = (before ++ p) :: ps := by
  induction before with
  | nil =>
    cases hp : pieces sep cs with
    | nil => exact absurd hp (pieces_ne_nil sep cs)
    | cons p ps => exact ⟨p, ps, rfl, hp⟩
  | cons c before ih =>
    simp only [List.mem_cons, not_or] at h
    obtain ⟨p, ps, hcs, hjoined⟩ := ih h.2
    refine ⟨p, ps, hcs, ?_⟩
    simp [pieces, hjoined, Ne.symm h.1]

/-- What stands behind a text and has no separator joins its last piece. -/
theorem pieces_append_right {sep : Char} {after : List Char} (h : sep ∉ after)
    (cs : List Char) : ∃ ps p, pieces sep cs = ps ++ [p]
      ∧ pieces sep (cs ++ after) = ps ++ [p ++ after] := by
  induction cs with
  | nil => exact ⟨[], [], rfl, pieces_of_notMem h⟩
  | cons c cs ih =>
    obtain ⟨ps, p, hcs, hjoined⟩ := ih
    simp only [List.cons_append, pieces]
    split
    · exact ⟨[] :: ps, p, by rw [hcs]; rfl, by rw [hjoined]; rfl⟩
    · cases ps with
      | nil => exact ⟨[], c :: p, by rw [hcs]; rfl, by rw [hjoined]; rfl⟩
      | cons q qs => exact ⟨(c :: q) :: qs, p, by rw [hcs]; rfl, by rw [hjoined]; rfl⟩

/-! ## §3. Examples. -/

example : splitAt ',' "a,,b" = ["a", "", "b"] := by decide
example : splitAt ',' "" = [""] := by decide

end MaterialSearch.Text
