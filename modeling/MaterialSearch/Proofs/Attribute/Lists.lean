/-
  MaterialSearch.Proofs.Attribute.Lists
  ────────────────────────────────
  **LISTS AND MATRICES ARE READ WHOLE OR NOT AT ALL.**

  A list of numbers is cut at its commas, and the first piece settles of
  which kind all of them must be: signed whole numbers if it is digits
  alone, floats otherwise.  A matrix is cut at its semicolons first, and is
  of floats throughout.  Every piece gives one number, in its own place; one
  piece that is no number of its kind makes the whole value missing.

  Main definitions:
    * `NumberKind`, `NumberKind.read?` — the two kinds, and a piece read in one
    * `listKind`                       — the kind that the first piece settles

  Main results:
    * `readAll?_congr`       — only what is read of the items matters
    * `readNumbers?_eq`      — a list as its pieces, all read in one kind
    * `readMatrix?_trimChars` — the blanks around a matrix do not matter
    * `map_read?_eq_iff`     — one kind for all numbers of a list
    * `shape_of_numbers`, `shape_of_matrix` — how many numbers there are
    * `lists_all_or_nothing` — **lists and matrices by their pieces**
-/
import MaterialSearch.Proofs.Attribute.Scalars

namespace MaterialSearch.Attribute

open Keyword Numeric Text

/-! ## §1. The kind of a list. -/

/-- The kinds of number that lists are of. -/
inductive NumberKind where
  /-- Signed whole numbers. -/
  | whole
  /-- Floats. -/
  | float
  deriving Repr, DecidableEq

/-- A piece, read as a number of the kind. -/
def NumberKind.read? : NumberKind → List Char → Option Number
  | .whole, cs => (readInt64? cs).map .int
  | .float, cs => (readFloat? cs).map .float

/-- The kind that a first piece settles: digits alone are a whole number. -/
def NumberKind.ofPiece (cs : List Char) : NumberKind :=
  if isDigits cs then .whole else .float

/-- **The kind of a list**, which its first piece settles. -/
def listKind (cs : List Char) : NumberKind :=
  .ofPiece ((trimmedPieces ',' cs).headD [])

section Kinds

variable {cs piece : List Char} {rest : List (List Char)} {n : Number}

theorem listKind_of_cons (h : trimmedPieces ',' cs = piece :: rest) :
    listKind cs = .ofPiece piece := by
  unfold listKind
  rw [h]
  rfl

/-- A list has a first piece, be it empty. -/
theorem exists_trimmedPieces (sep : Char) (cs : List Char) :
    ∃ piece rest, trimmedPieces sep cs = piece :: rest := by
  cases hpieces : pieces sep cs with
  | nil => exact absurd hpieces (pieces_ne_nil sep cs)
  | cons piece rest =>
      refine ⟨trimChars piece, rest.map trimChars, ?_⟩
      unfold trimmedPieces
      rw [hpieces, List.map_cons]

/-- The kind of a piece that is a number alone is that of this number. -/
theorem ofPiece_of_number (h : readNumber? piece = some n) :
    NumberKind.ofPiece piece = if n.isInteger then .whole else .float := by
  unfold readNumber? at h
  unfold NumberKind.ofPiece
  by_cases hdigits : isDigits piece = true
  · rw [if_pos hdigits] at h ⊢
    split at h
    · rw [← Option.some.inj h]
      rfl
    · obtain ⟨m, -, rfl⟩ := Option.map_eq_some_iff.mp h
      rfl
  · rw [if_neg hdigits] at h ⊢
    obtain ⟨x, -, rfl⟩ := Option.map_eq_some_iff.mp h
    rfl

/-- **In the kind that it settles, a piece is read as it is alone**, or as
nothing. -/
theorem readNumber?_of_ofPiece (h : (NumberKind.ofPiece piece).read? piece = some n) :
    readNumber? piece = some n := by
  unfold NumberKind.ofPiece at h
  unfold readNumber?
  by_cases hdigits : isDigits piece = true
  · rw [if_pos hdigits] at h ⊢
    obtain ⟨i, hi, rfl⟩ := Option.map_eq_some_iff.mp h
    rw [hi]
  · rw [if_neg hdigits] at h ⊢
    exact h

end Kinds

/-! ## §2. Lists and matrices by their pieces. -/

section Pieces

variable {α β γ : Type}

/-- **Only what is read of the items matters.** -/
theorem readAll?_congr {f : α → Option γ} {g : β → Option γ} {as : List α} {bs : List β}
    (h : as.map f = bs.map g) : readAll? f as = readAll? g bs := by
  apply Option.ext
  intro cs
  rw [readAll?_eq_some_iff, readAll?_eq_some_iff, h]

/-- **A list of numbers is its pieces, all read in the kind of the first.** -/
theorem readNumbers?_eq (cs : List Char) :
    readNumbers? cs = readAll? (listKind cs).read? (trimmedPieces ',' cs) := by
  obtain ⟨piece, rest, hpieces⟩ := exists_trimmedPieces ',' cs
  unfold readNumbers?
  rw [listKind_of_cons hpieces, hpieces]
  simp only [List.head?_cons, Option.bind_some]
  cases hfirst : readNumber? piece with
  | none =>
      -- What is no number alone is none in its own kind either.
      symm
      apply readAll?_eq_none_iff.mpr
      refine ⟨piece, List.mem_cons_self, Option.eq_none_iff_forall_ne_some.mpr ?_⟩
      intro n hn
      rw [readNumber?_of_ofPiece hn] at hfirst
      exact absurd hfirst (by simp)
  | some n =>
      rw [ofPiece_of_number hfirst]
      by_cases hn : n.isInteger = true
      · simp only [hn, if_true]
        rfl
      · simp only [hn, Bool.false_eq_true, if_false]
        rfl

/-- What trimming a piece does not change is the same for the pieces of a
trimmed text. -/
theorem map_pieces_trimChars {sep : Char} (hsep : isBlank sep = false) {f : List Char → α}
    (hf : ∀ p, f (trimChars p) = f p) (cs : List Char) :
    (pieces sep (trimChars cs)).map f = (pieces sep cs).map f := by
  have hpieces : ∀ ds, (pieces sep ds).map f = (trimmedPieces sep ds).map f := by
    intro ds
    unfold trimmedPieces
    rw [List.map_map]
    apply List.map_congr_left
    intro p _
    exact (hf p).symm
  rw [hpieces, hpieces, trimmedPieces_trimChars hsep]

/-- **The blanks around a matrix do not matter.** -/
theorem readMatrix?_trimChars (cs : List Char) : readMatrix? (trimChars cs) = readMatrix? cs := by
  apply readAll?_congr
  apply map_pieces_trimChars (by decide)
  intro row
  rw [trimmedPieces_trimChars (by decide)]

/-- **A matrix has a row for each piece** and in it a float for each piece
of that row. -/
theorem readMatrix?_eq_some_iff {cs : List Char} {rows : List (List Float)} :
    readMatrix? cs = some rows
      ↔ ((pieces ';' cs).map fun row => (trimmedPieces ',' row).map readFloat?)
        = rows.map fun xs => xs.map some := by
  unfold readMatrix?
  rw [readAll?_eq_some_iff]
  generalize pieces ';' cs = texts
  induction texts generalizing rows with
  | nil => cases rows <;> simp
  | cons row texts ih =>
      cases rows with
      | nil => simp
      | cons xs rows =>
          simp only [List.map_cons, List.cons.injEq, readAll?_eq_some_iff]
          rw [ih]

theorem readMatrix?_eq_none_iff {cs : List Char} :
    readMatrix? cs = none
      ↔ ∃ row ∈ pieces ';' cs, ∃ piece ∈ trimmedPieces ',' row, readFloat? piece = none := by
  unfold readMatrix?
  rw [readAll?_eq_none_iff]
  simp only [readAll?_eq_none_iff]

/-- A list of results with a constructor put on each of them. -/
theorem map_map_eq_iff {read : α → Option β} {wrap : β → γ} {as : List α} {cs : List γ} :
    (as.map fun a => (read a).map wrap) = cs.map some
      ↔ ∃ bs : List β, cs = bs.map wrap ∧ as.map read = bs.map some := by
  induction as generalizing cs with
  | nil => cases cs <;> simp
  | cons a as ih =>
      cases cs with
      | nil => simp
      | cons c cs =>
          rw [List.map_cons, List.map_cons, List.cons.injEq, ih]
          constructor
          · intro h
            obtain ⟨hc, bs, hbs, has⟩ := h
            obtain ⟨b, hb, rfl⟩ := Option.map_eq_some_iff.mp hc
            refine ⟨b :: bs, by rw [hbs, List.map_cons], ?_⟩
            rw [List.map_cons, hb, has, List.map_cons]
          · intro h
            obtain ⟨bs, hbs, has⟩ := h
            cases bs with
            | nil => exact absurd hbs (by simp)
            | cons b bs =>
                rw [List.map_cons, List.cons.injEq] at hbs
                rw [List.map_cons, List.map_cons, List.cons.injEq] at has
                exact ⟨by rw [has.1, hbs.1]; rfl, bs, hbs.2, has.2⟩

end Pieces

/-- **Reading in one kind gives numbers of this kind only.** -/
theorem map_read?_eq_iff {kind : NumberKind} {items : List (List Char)} {ns : List Number} :
    items.map kind.read? = ns.map some
      ↔ (kind = .whole ∧ ∃ is : List Int64, ns = is.map .int
          ∧ items.map readInt64? = is.map some)
        ∨ (kind = .float ∧ ∃ xs : List Float, ns = xs.map .float
          ∧ items.map readFloat? = xs.map some) := by
  cases kind with
  | whole =>
      show (items.map fun cs => (readInt64? cs).map Number.int) = ns.map some ↔ _
      rw [map_map_eq_iff]
      simp
  | float =>
      show (items.map fun cs => (readFloat? cs).map Number.float) = ns.map some ↔ _
      rw [map_map_eq_iff]
      simp

/-! ## §3. The values. -/

section Values

variable {α : Type} {found : Option α} {wrap : α → Attribute}

/-- A value that is not missing is what was found. -/
theorem getD_eq_wrap_iff (hinj : ∀ a b, wrap a = wrap b → a = b) (hne : ∀ a, wrap a ≠ .missing)
    (a : α) : (found.map wrap).getD .missing = wrap a ↔ found = some a := by
  cases found with
  | none =>
      constructor
      · intro h
        exact absurd h.symm (hne a)
      · intro h
        exact absurd h (by simp)
  | some b =>
      constructor
      · intro h
        rw [hinj b a h]
      · intro h
        rw [Option.some.inj h]
        rfl

theorem getD_eq_missing_iff (hne : ∀ a, wrap a ≠ .missing) :
    (found.map wrap).getD .missing = .missing ↔ found = none := by
  cases found with
  | none => simp
  | some b => simpa using hne b

theorem getD_cases (found : Option α) (wrap : α → Attribute) :
    (found.map wrap).getD .missing = .missing ∨ ∃ a, (found.map wrap).getD .missing = wrap a := by
  cases found with
  | none => exact .inl rfl
  | some a => exact .inr ⟨a, rfl⟩

end Values

theorem decode_matrix (s : String) :
    decode .matrix (.str s) = ((readMatrix? s.toList).map .matrix).getD .missing := by
  show ((readMatrix? (trimChars s.toList)).map Attribute.matrix).getD .missing = _
  rw [readMatrix?_trimChars]

theorem decode_numbers_eq_iff (s : String) (ns : List Number) :
    decode .numbers (.str s) = .numbers ns
      ↔ (trimmedPieces ',' s.toList).map (listKind s.toList).read? = ns.map some := by
  rw [decode_list (.inl rfl), getD_eq_wrap_iff (fun _ _ h => Attribute.numbers.inj h)
    (fun _ => by simp), readNumbers?_eq, readAll?_eq_some_iff]

theorem decode_matrix_eq_iff (s : String) (rows : List (List Float)) :
    decode .matrix (.str s) = .matrix rows
      ↔ ((pieces ';' s.toList).map fun row => (trimmedPieces ',' row).map readFloat?)
        = rows.map fun xs => xs.map some := by
  rw [decode_matrix, getD_eq_wrap_iff (fun _ _ h => Attribute.matrix.inj h) (fun _ => by simp),
    readMatrix?_eq_some_iff]

/-- A list has as many numbers as pieces, and the first is what the first
piece is alone. -/
theorem shape_of_numbers {s : String} {ns : List Number}
    (h : decode .numbers (.str s) = .numbers ns) :
    ns.length = (pieces ',' s.toList).length
      ∧ ns.head? = (trimmedPieces ',' s.toList).head?.bind readNumber? := by
  have hread := (decode_numbers_eq_iff s ns).mp h
  constructor
  · have hlength := congrArg List.length hread
    rw [List.length_map, List.length_map] at hlength
    rw [← hlength]
    unfold trimmedPieces
    rw [List.length_map]
  · obtain ⟨piece, rest, hpieces⟩ := exists_trimmedPieces ',' s.toList
    rw [listKind_of_cons hpieces, hpieces] at hread
    cases ns with
    | nil => exact absurd hread (by simp)
    | cons n ns =>
        rw [List.map_cons, List.map_cons, List.cons.injEq] at hread
        rw [hpieces]
        exact (readNumber?_of_ofPiece hread.1).symm

/-- A matrix has as many rows as pieces, and each row as many columns. -/
theorem shape_of_matrix {s : String} {rows : List (List Float)}
    (h : decode .matrix (.str s) = .matrix rows) :
    rows.map List.length = (pieces ';' s.toList).map fun row => (pieces ',' row).length := by
  have hread := congrArg (List.map List.length) ((decode_matrix_eq_iff s rows).mp h)
  rw [List.map_map, List.map_map] at hread
  calc rows.map List.length
      = rows.map (List.length ∘ fun xs => xs.map some) := by simp [Function.comp_def]
    _ = (pieces ';' s.toList).map
          (List.length ∘ fun row => (trimmedPieces ',' row).map readFloat?) := hread.symm
    _ = (pieces ';' s.toList).map fun row => (pieces ',' row).length := by
          simp [Function.comp_def, trimmedPieces]

/-- **LISTS AND MATRICES BY THEIR PIECES.**  For every text:

  * The two forms of list read it alike, as a list or as missing.  It is a
    list exactly when every piece between commas, without the blanks around
    it, is a number of the kind that the first piece settles.  These are its
    numbers then, in order: signed whole numbers all, or floats all.  There
    are as many as pieces, and the first is what the first piece is alone.
  * It is missing as a list exactly when some piece is no number of that kind.
  * It is a matrix exactly when every piece between semicolons has floats
    between commas only, and then it has these rows with these floats, as many
    as there are pieces.  It is missing exactly when one of all these pieces
    is no float. -/
theorem lists_all_or_nothing (s : String) :
    (decode .vector (.str s) = decode .numbers (.str s)
      ∧ (decode .numbers (.str s) = .missing ∨ ∃ ns, decode .numbers (.str s) = .numbers ns)
      ∧ (∀ ns, decode .numbers (.str s) = .numbers ns
        ↔ (listKind s.toList = .whole ∧ ∃ is : List Int64, ns = is.map .int
            ∧ (trimmedPieces ',' s.toList).map readInt64? = is.map some)
          ∨ (listKind s.toList = .float ∧ ∃ xs : List Float, ns = xs.map .float
            ∧ (trimmedPieces ',' s.toList).map readFloat? = xs.map some))
      ∧ (decode .numbers (.str s) = .missing
        ↔ ∃ piece ∈ trimmedPieces ',' s.toList, (listKind s.toList).read? piece = none)
      ∧ ∀ ns, decode .numbers (.str s) = .numbers ns →
        ns.length = (pieces ',' s.toList).length
          ∧ ns.head? = (trimmedPieces ',' s.toList).head?.bind readNumber?)
    ∧ (decode .matrix (.str s) = .missing ∨ ∃ rows, decode .matrix (.str s) = .matrix rows)
      ∧ (∀ rows, decode .matrix (.str s) = .matrix rows
        ↔ ((pieces ';' s.toList).map fun row => (trimmedPieces ',' row).map readFloat?)
          = rows.map fun xs => xs.map some)
      ∧ (decode .matrix (.str s) = .missing
        ↔ ∃ row ∈ pieces ';' s.toList, ∃ piece ∈ trimmedPieces ',' row,
          readFloat? piece = none)
      ∧ ∀ rows, decode .matrix (.str s) = .matrix rows →
        rows.map List.length = (pieces ';' s.toList).map fun row => (pieces ',' row).length := by
  constructor
  · refine ⟨rfl, ?_, ?_, ?_, fun ns => shape_of_numbers⟩
    · rw [decode_list (.inl rfl)]
      exact getD_cases _ _
    · intro ns
      rw [decode_numbers_eq_iff, map_read?_eq_iff]
    · rw [decode_list (.inl rfl), getD_eq_missing_iff (fun _ => by simp), readNumbers?_eq,
        readAll?_eq_none_iff]
  · refine ⟨?_, decode_matrix_eq_iff s, ?_, fun rows => shape_of_matrix⟩
    · rw [decode_matrix]
      exact getD_cases _ _
    · rw [decode_matrix, getD_eq_missing_iff (fun _ => by simp), readMatrix?_eq_none_iff]

/-- Signs and blanks in a list of whole numbers, an empty piece in one, and
the rows of a matrix that differ in length. -/
theorem lists_all_or_nothing_mixed :
    (decode .numbers (.str " 7, -3 ,+5\n") = .numbers [.int 7, .int (-3), .int 5]
      ∧ ([.int 7, .int (-3), .int 5] : List Number).length
        = (pieces ',' " 7, -3 ,+5\n".toList).length)
    ∧ decode .vector (.str "7,,5") = .missing
    ∧ ∃ rows, decode .matrix (.str "1, -2.5;3e4") = .matrix rows
      ∧ rows.map List.length = [2, 1] := by
  have hlist : decode .numbers (.str " 7, -3 ,+5\n") = .numbers [.int 7, .int (-3), .int 5] := rfl
  obtain ⟨⟨-, -, -, -, hshape⟩, -⟩ := lists_all_or_nothing " 7, -3 ,+5\n"
  obtain ⟨⟨hvector, -, -, hmissing, -⟩, -⟩ := lists_all_or_nothing "7,,5"
  obtain ⟨-, hmatrix, -, -, hrows⟩ := lists_all_or_nothing "1, -2.5;3e4"
  refine ⟨⟨hlist, (hshape _ hlist).1⟩, ?_, ?_⟩
  · rw [hvector, hmissing]
    exact ⟨[], by decide, by rfl⟩
  · obtain hnone | ⟨rows, hmade⟩ := hmatrix
    · have hsome : decode .matrix (.str "1, -2.5;3e4") ≠ .missing := by
        rw [decode_matrix, Ne, getD_eq_missing_iff (fun _ => by simp)]
        exact Option.ne_none_iff_isSome.mpr (by rfl)
      exact absurd hnone hsome
    · exact ⟨rows, hmade, (hrows rows hmade).trans (by decide)⟩

end MaterialSearch.Attribute
