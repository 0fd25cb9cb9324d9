/-
  MaterialSearch.Proofs.Attribute.Sampling
  ────────────────────────────────
  **WHICH TEXTS ARE SAMPLINGS.**

  A sampling is written in three parts, or in four with the number of
  samples at the end.  The reader takes the two grids from the front of the
  text, the points and the number from its back.  Up to four parts this
  reads the format and nothing else; of more parts, those between the grids
  and the points are dropped unread.

  Main definitions:
    * `Attribute.IsGrid`     — a text of numbers with commas between them
    * `Attribute.WritesPath` — the parts that write a sampling

  Main results:
    * `readKpoints?_eq_some_iff` — what is read, by the outer parts
    * `kpoints_iff_written`      — **the texts that are samplings**
    * `kpoints_part_dropped`     — a part that is dropped
-/
import MaterialSearch.Attribute.Decode

namespace MaterialSearch

open Keyword Numeric Text

namespace Attribute

/-! ## §1. The format. -/

/-- A grid: numbers with commas between them, each with any blanks around
it. -/
def IsGrid (cs : List Char) (items : List Number) : Prop :=
  (trimmedPieces ',' cs).map readNumber? = items.map some

/-- The names of the points along a path. -/
def pointNames (cs : List Char) : List String :=
  (pieces '-' cs).map String.ofList

/-- **The parts that write a sampling**: two grids, the points, and the
number of samples if there is one. -/
inductive WritesPath : List (List Char) → BandPath → Prop
  | uncounted {relaxation static points : List Char} {grid grid' : List Number}
      (hrelaxation : IsGrid relaxation grid) (hstatic : IsGrid static grid') :
      WritesPath [relaxation, static, points] ⟨grid, grid', pointNames points, none⟩
  | counted {relaxation static points count : List Char} {grid grid' : List Number} {n : UInt32}
      (hrelaxation : IsGrid relaxation grid) (hstatic : IsGrid static grid')
      (hcount : readUInt32? (trimChars count) = some n) :
      WritesPath [relaxation, static, points, count] ⟨grid, grid', pointNames points, some n⟩

theorem readGrid?_eq_some_iff {cs : List Char} {items : List Number} :
    readGrid? cs = some items ↔ IsGrid cs items :=
  readAll?_eq_some_iff

/-! ## §2. The reader. -/

/-- What is left of a list of parts once all but two on either side are
dropped. -/
def outerParts : List (List Char) → List (List Char)
  | relaxation :: static :: rest =>
      match rest.reverse with
      | count :: points :: _ => [relaxation, static, points, count]
      | _ => relaxation :: static :: rest
  | parts => parts

theorem outerParts_of_length_le {parts : List (List Char)} (h : parts.length ≤ 4) :
    outerParts parts = parts := by
  match parts with
  | [] | [_] | [_, _] | [_, _, _] | [_, _, _, _] => rfl
  | _ :: _ :: _ :: _ :: _ :: _ => exact absurd h (by simp)

theorem outerParts_ends (relaxation static points count : List Char)
    (dropped : List (List Char)) :
    outerParts (relaxation :: static :: (dropped ++ [points, count]))
      = [relaxation, static, points, count] := by
  simp [outerParts]

/-- The grids are read from the first two parts, the points and the number
of samples from the others. -/
theorem readKpoints?_of_parts {cs relaxation static : List Char} {rest : List (List Char)}
    (h : pieces ';' cs = relaxation :: static :: rest) (path : BandPath) :
    readKpoints? cs = some path
      ↔ ∃ points, pathParts? rest = some (points, path.samples)
          ∧ IsGrid relaxation path.relaxation ∧ IsGrid static path.static
          ∧ path.points = pointNames points := by
  unfold readKpoints?
  simp only [h, ← readGrid?_eq_some_iff]
  constructor
  · intro hread
    split at hread
    · next points samples grid grid' hparts hgrid hgrid' =>
      obtain rfl := Option.some.inj hread
      exact ⟨points, hparts, hgrid, hgrid', rfl⟩
    · exact absurd hread (by simp)
  · rintro ⟨points, hparts, hgrid, hgrid', hpoints⟩
    rw [hparts, hgrid, hgrid']
    show some (BandPath.mk _ _ (pointNames points) _) = some path
    rw [← hpoints]

/-- Every list of parts is empty, a single part, or ends in two of them. -/
theorem ends_cases (rest : List (List Char)) :
    rest = [] ∨ (∃ points, rest = [points])
      ∨ ∃ dropped points count, rest = dropped ++ [points, count] := by
  cases hends : rest.reverse with
  | nil => exact .inl (List.reverse_eq_nil_iff.mp hends)
  | cons count others =>
      have hrest := List.reverse_eq_iff.mp hends
      cases others with
      | nil => exact .inr (.inl ⟨count, hrest⟩)
      | cons points dropped => exact .inr (.inr ⟨dropped.reverse, points, count, by simp [hrest]⟩)

theorem pathParts?_ends (dropped : List (List Char)) (points count : List Char) :
    pathParts? (dropped ++ [points, count])
      = (readUInt32? (trimChars count)).map fun n => (points, some n) := by
  unfold pathParts?
  split
  · next h =>
    have hlength := congrArg List.length h
    simp at hlength
  · simp

theorem writesPath_three_iff {relaxation static points : List Char} {path : BandPath} :
    WritesPath [relaxation, static, points] path
      ↔ path.samples = none ∧ IsGrid relaxation path.relaxation ∧ IsGrid static path.static
        ∧ path.points = pointNames points := by
  obtain ⟨grid, grid', names, samples⟩ := path
  constructor
  · intro h
    cases h with
    | uncounted hgrid hgrid' => exact ⟨rfl, hgrid, hgrid', rfl⟩
  · rintro ⟨rfl, hgrid, hgrid', rfl⟩
    exact .uncounted hgrid hgrid'

theorem writesPath_four_iff {relaxation static points count : List Char} {path : BandPath} :
    WritesPath [relaxation, static, points, count] path
      ↔ (∃ n, readUInt32? (trimChars count) = some n ∧ path.samples = some n)
        ∧ IsGrid relaxation path.relaxation ∧ IsGrid static path.static
        ∧ path.points = pointNames points := by
  obtain ⟨grid, grid', names, samples⟩ := path
  constructor
  · intro h
    cases h with
    | counted hgrid hgrid' hcount => exact ⟨⟨_, hcount, rfl⟩, hgrid, hgrid', rfl⟩
  · rintro ⟨⟨n, hcount, rfl⟩, hgrid, hgrid', rfl⟩
    exact .counted hgrid hgrid' hcount

/-- **What is read of a text**, by its outer parts. -/
theorem readKpoints?_eq_some_iff {cs : List Char} {path : BandPath} :
    readKpoints? cs = some path ↔ WritesPath (outerParts (pieces ';' cs)) path := by
  match hparts : pieces ';' cs with
  | [] => exact absurd hparts (pieces_ne_nil ';' cs)
  | [_] =>
      have hread : readKpoints? cs = none := by simp only [readKpoints?, hparts]
      rw [hread]
      exact ⟨fun h => absurd h (by simp), fun h => nomatch h⟩
  | relaxation :: static :: rest =>
      rw [readKpoints?_of_parts hparts]
      -- Behind the grids: nothing, the points alone, or something and two parts.
      rcases ends_cases rest with rfl | ⟨points, rfl⟩ | ⟨dropped, points, count, rfl⟩
      · exact ⟨fun ⟨_, h, _⟩ => absurd h (by simp [pathParts?]), fun h => nomatch h⟩
      · rw [outerParts_of_length_le (by simp), writesPath_three_iff]
        simp only [pathParts?, Option.some.injEq, Prod.mk.injEq, and_assoc, exists_eq_left',
          eq_comm (a := none)]
      · rw [outerParts_ends, writesPath_four_iff, pathParts?_ends]
        simp only [Option.map_eq_some_iff, Prod.mk.injEq]
        constructor
        · rintro ⟨points', ⟨n, hcount, rfl, hsamples⟩, hrest⟩
          exact ⟨⟨n, hcount, hsamples.symm⟩, hrest⟩
        · rintro ⟨⟨n, hcount, hsamples⟩, hrest⟩
          exact ⟨points, ⟨n, hcount, rfl, hsamples.symm⟩, hrest⟩

/-! ## §3. Texts. -/

theorem decode_kpoints (s : String) : decode .kpoints (.str s)
    = ((readKpoints? (trimChars s.toList)).map .kpoints).getD .missing := rfl

/-- **THE TEXTS THAT ARE SAMPLINGS.**  A text of up to four parts is read as
a sampling exactly when it is written as one.  In a text of more parts,
whatever stands between the two grids and the last two parts is dropped,
and the others are read as if they were all.  No other text is read as
anything. -/
theorem kpoints_iff_written (s : String) :
    let parts := pieces ';' (trimChars s.toList)
    (parts.length ≤ 4 →
      ∀ path, decode .kpoints (.str s) = .kpoints path ↔ WritesPath parts path)
    ∧ (∀ relaxation static dropped points count,
        parts = relaxation :: static :: (dropped ++ [points, count]) →
      ∀ path, decode .kpoints (.str s) = .kpoints path
        ↔ WritesPath [relaxation, static, points, count] path)
    ∧ ((∀ path, decode .kpoints (.str s) ≠ .kpoints path) →
      decode .kpoints (.str s) = .missing) := by
  intro parts
  have hread : ∀ path, decode .kpoints (.str s) = .kpoints path
      ↔ WritesPath (outerParts parts) path := by
    intro path
    rw [decode_kpoints, ← readKpoints?_eq_some_iff]
    cases readKpoints? (trimChars s.toList) <;> simp
  refine ⟨?_, ?_, ?_⟩
  · intro hlength path
    rw [hread, outerParts_of_length_le hlength]
  · intro relaxation static dropped points count hparts path
    rw [hread, hparts, outerParts_ends]
  · intro hnone
    rw [decode_kpoints] at hnone ⊢
    cases hpath : readKpoints? (trimChars s.toList) with
    | none => rfl
    | some path => exact absurd (by rw [hpath]; rfl) (hnone path)

/-- Three parts with blanks and a number of samples that is left out. -/
theorem kpoints_iff_written_uncounted :
    decode .kpoints (.str " 8, 8;12;G-L ") = .kpoints ⟨[.int 8, .int 8], [.int 12], ["G", "L"], none⟩
      ∧ decode .kpoints (.str "8;12;x;G-L;20")
        = .kpoints ⟨[.int 8], [.int 12], ["G", "L"], some 20⟩
      ∧ decode .kpoints (.str "8;12") = .missing := by
  obtain ⟨hformat, -, -⟩ := kpoints_iff_written " 8, 8;12;G-L "
  obtain ⟨-, hmore, -⟩ := kpoints_iff_written "8;12;x;G-L;20"
  obtain ⟨hfew, -, hnothing⟩ := kpoints_iff_written "8;12"
  refine ⟨?_, ?_, ?_⟩
  · rw [hformat (by decide)]
    show WritesPath ["8, 8".toList, "12".toList, "G-L".toList] ⟨_, _, pointNames "G-L".toList, _⟩
    exact .uncounted rfl rfl
  · rw [hmore "8".toList "12".toList ["x".toList] "G-L".toList "20".toList (by decide)]
    exact .counted (by rfl) (by rfl) (by rfl)
  · apply hnothing
    intro path hpath
    rw [hfew (by decide)] at hpath
    nomatch hpath

/-- **A part that is dropped**: the text is no sampling, and is read as one. -/
theorem kpoints_part_dropped :
    (∀ path, ¬ WritesPath (pieces ';' (trimChars "8;12;x;G-L;20".toList)) path)
      ∧ decode .kpoints (.str "8;12;x;G-L;20")
        = .kpoints ⟨[.int 8], [.int 12], ["G", "L"], some 20⟩ := by
  constructor
  · intro path h
    nomatch h
  · rfl

end Attribute

end MaterialSearch
