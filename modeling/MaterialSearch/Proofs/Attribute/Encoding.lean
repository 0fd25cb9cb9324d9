/-
  MaterialSearch.Proofs.Attribute.Encoding
  ────────────────────────────────
  **WHAT IS WRITTEN IS DECODED.**

  Lists of texts, lists of whole numbers and samplings have one plain way
  to be written.  Writers stand here beside the readers, and each reader
  gives back what its writer wrote.  The writers say what the readers rely
  on: texts without the separators, a first number that is not negative,
  and nothing blank at an end where blanks belong to the value.

  Main definitions:
    * `Padding`                   — the blanks around a piece
    * `numbersText`               — numbers with commas and blanks
    * `gridText`, `samplingText`  — a sampling

  Main results:
    * `readNumber?_toString`, `isGrid_gridText` — numbers and grids
    * `trimmedPieces_numbersText`               — pieces without their blanks
    * `decode_written`                          — **all three encodings**
-/
import MaterialSearch.Proofs.Attribute.Sampling
import MaterialSearch.Proofs.Page.Numbering
import MaterialSearch.Proofs.Page.RecordKey

namespace MaterialSearch

open Keyword Numeric Text

namespace Attribute

/-! ## §1. Whole numbers. -/

/-- A count as a number: signed as long as it fits. -/
def numberOfCount (n : UInt64) : Number :=
  if n.toNat < 2 ^ 63 then .int n.toInt64 else .nat n

theorem isDigits_toDigits (n : Nat) : isDigits (Nat.toDigits 10 n) = true := by
  have hall : (Nat.toDigits 10 n).all isDecimalDigit = true := by
    rw [List.all_eq_true]
    exact fun _ hc => isDecimalDigit_of_mem_toDigits hc
  have hne : (Nat.toDigits 10 n).isEmpty = false := by
    simp [Nat.toDigits_ne_nil]
  unfold isDigits
  rw [hall, hne]
  rfl

/-- **A count is read as it was written**, whatever its size. -/
theorem readNumber?_toString (n : UInt64) :
    readNumber? (toString n).toList = some (numberOfCount n) := by
  show readNumber? (Nat.repr n.toNat).toList = _
  rw [Nat.toList_repr]
  unfold readNumber? numberOfCount
  rw [if_pos (isDigits_toDigits _)]
  by_cases hsigned : n.toNat < 2 ^ 63
  · rw [readInt64?_toDigits hsigned, if_pos hsigned, toInt64_eq_ofNat]
  · rw [readInt64?_toDigits_of_le (Nat.le_of_not_lt hsigned), if_neg hsigned,
      readUInt64?_toDigits]
    rfl

/-- A signed number that is not negative is written with digits alone. -/
theorem readNumber?_of_nonneg {n : Int64} (h : 0 ≤ n.toInt) :
    readNumber? (toString n).toList = some (.int n) := by
  have hread : readInt64? (toString n.toInt).toList = some n := readInt64?_toString n
  obtain ⟨m, hm⟩ := Int.eq_ofNat_of_zero_le h
  have hdigits : (toString n.toInt).toList = Nat.toDigits 10 m := by
    rw [hm]
    exact Nat.toList_repr
  show readNumber? (toString n.toInt).toList = _
  unfold readNumber?
  rw [hread, hdigits, if_pos (isDigits_toDigits m)]

/-- The characters of a number are digits, but for a sign. -/
theorem mem_toString_int64 {n : Int64} {c : Char} (h : c ∈ (toString n).toList) :
    c = '-' ∨ c.isDigit = true := by
  have hdigit : ∀ {m : Nat}, c ∈ (Nat.repr m).toList → c.isDigit = true := by
    intro m hc
    rw [Nat.toList_repr] at hc
    exact Nat.isDigit_of_mem_toDigits (by omega) (by omega) hc
  have htext : c ∈ (toString n.toInt).toList := h
  cases hn : n.toInt with
  | ofNat m =>
    rw [hn] at htext
    exact .inr (hdigit htext)
  | negSucc m =>
    rw [hn] at htext
    have hsigned : c ∈ ("-" ++ Nat.repr (m + 1)).toList := htext
    rw [String.toList_append, List.mem_append] at hsigned
    rcases hsigned with hsign | hc
    · exact .inl (List.mem_singleton.mp hsign)
    · exact .inr (hdigit hc)

/-! ## §2. Pieces and the blanks around them. -/

/-- **The blanks around a piece.** -/
structure Padding where
  before : List Char
  after : List Char
  before_blank : ∀ c ∈ before, isBlank c = true
  after_blank : ∀ c ∈ after, isBlank c = true

/-- No blanks. -/
def Padding.none : Padding := ⟨[], [], by simp, by simp⟩

/-- A piece with its blanks. -/
def Padding.around (p : Padding) (cs : List Char) : List Char := p.before ++ cs ++ p.after

theorem trimChars_around (p : Padding) (cs : List Char) :
    trimChars (p.around cs) = trimChars cs := by
  unfold Padding.around
  rw [trimChars_append_blank_right p.after_blank, trimChars_append_blank_left p.before_blank]

theorem notMem_of_blank {sep : Char} {cs : List Char} (hsep : isBlank sep = false)
    (h : ∀ c ∈ cs, isBlank c = true) : sep ∉ cs := by
  intro hmem
  rw [h sep hmem] at hsep
  exact absurd hsep (by decide)

/-- Blanks at the two ends of a list are blanks of its first and of its
last piece. -/
theorem trimmedPieces_trimChars {sep : Char} (hsep : isBlank sep = false) (cs : List Char) :
    trimmedPieces sep (trimChars cs) = trimmedPieces sep cs := by
  obtain ⟨before, after, hcs, hbefore, hafter⟩ := exists_trimChars cs
  obtain ⟨ps, last, hinner, hright⟩ :=
    pieces_append_right (notMem_of_blank hsep hafter) (trimChars cs)
  obtain ⟨first, qs, houter, hleft⟩ :=
    pieces_append_left (notMem_of_blank hsep hbefore) (trimChars cs ++ after)
  -- The blanks behind join the last piece, those in front the first; both are trimmed.
  have hinside : trimmedPieces sep (trimChars cs ++ after) = trimmedPieces sep (trimChars cs) := by
    unfold trimmedPieces
    rw [hinner, hright, List.map_append, List.map_append, List.map_singleton, List.map_singleton,
      trimChars_append_blank_right hafter]
  have houtside : trimmedPieces sep (before ++ (trimChars cs ++ after))
      = trimmedPieces sep (trimChars cs ++ after) := by
    unfold trimmedPieces
    rw [houter, hleft, List.map_cons, List.map_cons, trimChars_append_blank_left hbefore]
  rw [← hinside, ← houtside, ← List.append_assoc, ← hcs]

/-- **Pieces that were joined are found without their blanks.** -/
theorem trimmedPieces_intercalate {sep : Char} {ps : List (List Char)} (hne : ps ≠ [])
    (h : ∀ p ∈ ps, sep ∉ p) :
    trimmedPieces sep (List.intercalate [sep] ps) = ps.map trimChars := by
  unfold trimmedPieces
  rw [pieces_intercalate hne h]

/-- Digits, possibly with a sign, are not trimmed. -/
theorem unpadded_of_forall {cs : List Char} (h : ∀ c ∈ cs, isBlank c = false) : Unpadded cs :=
  ⟨fun c hc => h c (List.mem_of_mem_head? hc), fun c hc => h c (List.mem_of_mem_getLast? hc)⟩

section Joined

variable {sep : Char} {ps : List (List Char)}

theorem notMem_intercalate {c : Char} (hc : c ≠ sep) (h : ∀ p ∈ ps, c ∉ p) :
    c ∉ List.intercalate [sep] ps := by
  induction ps with
  | nil => exact List.not_mem_nil
  | cons p ps ih =>
    have hp := h p List.mem_cons_self
    cases ps with
    | nil => rwa [List.intercalate_singleton]
    | cons q qs =>
      have hrest := ih fun r hr => h r (List.mem_cons_of_mem _ hr)
      rw [List.intercalate_cons_cons]
      simp [hp, hc, hrest]

/-- A joined text begins as its first piece, or with a separator. -/
theorem head?_intercalate (hsep : isBlank sep = false)
    (h : ∀ p ∈ ps.head?, ∀ c ∈ p.head?, isBlank c = false) :
    ∀ c ∈ (List.intercalate [sep] ps).head?, isBlank c = false := by
  cases ps with
  | nil => exact fun c hc => absurd hc (by simp [List.intercalate])
  | cons p ps =>
    have hp := h p rfl
    cases ps with
    | nil => rwa [List.intercalate_singleton]
    | cons q qs =>
      rw [List.intercalate_cons_cons]
      cases p with
      | nil =>
        intro c hc
        rwa [← Option.some.inj hc]
      | cons d ds => exact hp

/-- A joined text ends as its last piece, or with a separator. -/
theorem getLast?_intercalate (hsep : isBlank sep = false)
    (h : ∀ p ∈ ps.getLast?, ∀ c ∈ p.getLast?, isBlank c = false) :
    ∀ c ∈ (List.intercalate [sep] ps).getLast?, isBlank c = false := by
  induction ps with
  | nil => exact fun c hc => absurd hc (by simp [List.intercalate])
  | cons p ps ih =>
    cases ps with
    | nil =>
      rw [List.intercalate_singleton]
      exact h p rfl
    | cons q qs =>
      have hrest := ih (by simpa using h)
      rw [List.intercalate_cons_cons]
      intro c hc
      rw [List.getLast?_append, List.getLast?_append, Option.mem_def, Option.or_eq_some_iff] at hc
      rcases hc with hc | ⟨-, hc⟩
      · exact hrest c hc
      · rw [List.getLast?_singleton, Option.some_or, Option.some.injEq] at hc
        rwa [← hc]

theorem Unpadded.intercalate (hsep : isBlank sep = false)
    (hfirst : ∀ p ∈ ps.head?, ∀ c ∈ p.head?, isBlank c = false)
    (hlast : ∀ p ∈ ps.getLast?, ∀ c ∈ p.getLast?, isBlank c = false) :
    Unpadded (List.intercalate [sep] ps) :=
  ⟨head?_intercalate hsep hfirst, getLast?_intercalate hsep hlast⟩

end Joined

theorem unpadded_toString_int64 (n : Int64) : Unpadded (toString n).toList := by
  apply unpadded_of_forall
  intro c hc
  rcases mem_toString_int64 hc with rfl | hdigit
  · decide
  · exact isBlank_eq_false_of_isDigit hdigit

theorem unpadded_toDigits (n : Nat) : Unpadded (Nat.toDigits 10 n) :=
  unpadded_of_forall fun _ hc =>
    isBlank_eq_false_of_isDigit (Nat.isDigit_of_mem_toDigits (by omega) (by omega) hc)

theorem notMem_toDigits {sep : Char} (hsep : sep.isDigit = false) (n : Nat) :
    sep ∉ Nat.toDigits 10 n := by
  intro hmem
  rw [Nat.isDigit_of_mem_toDigits (by omega) (by omega) hmem] at hsep
  exact absurd hsep (by decide)

/-! ## §3. Lists of texts. -/

/-- **A list of texts** without commas, in a text without blanks at its ends. -/
theorem decode_strings_joined {items : List String} (hne : items ≠ [])
    (hitems : ∀ item ∈ items, ',' ∉ item.toList) (hends : Unpadded (",".intercalate items).toList) :
    decode .strings (.str (",".intercalate items)) = .texts items := by
  have hpieces : pieces ',' (",".intercalate items).toList = items.map String.toList := by
    rw [String.toList_intercalate]
    apply pieces_intercalate (by simpa using hne)
    intro p hp
    obtain ⟨item, hitem, rfl⟩ := List.mem_map.mp hp
    exact hitems item hitem
  show Attribute.texts ((pieces ',' (trimChars _)).map String.ofList) = _
  rw [hends.trimChars_eq, hpieces, List.map_map]
  simp

/-! ## §4. Lists of numbers. -/

/-- Numbers with commas between them and blanks around each. -/
def numbersText (cells : List (Padding × Int64)) : List Char :=
  List.intercalate [','] (cells.map fun cell => cell.1.around (toString cell.2).toList)

theorem trimmedPieces_numbersText {cells : List (Padding × Int64)} (hne : cells ≠ []) :
    trimmedPieces ',' (trimChars (numbersText cells))
      = cells.map fun cell => (toString cell.2).toList := by
  have hcells : ∀ p ∈ cells.map fun cell => cell.1.around (toString cell.2).toList, ',' ∉ p := by
    intro p hp
    obtain ⟨⟨padding, n⟩, -, rfl⟩ := List.mem_map.mp hp
    have hnumber : ',' ∉ (toString n).toList := by
      intro hmem
      rcases mem_toString_int64 hmem with h | h <;> exact absurd h (by decide)
    have hbefore : ',' ∉ padding.before := notMem_of_blank (by decide) padding.before_blank
    have hafter : ',' ∉ padding.after := notMem_of_blank (by decide) padding.after_blank
    simp [Padding.around, hbefore, hafter, hnumber]
  rw [trimmedPieces_trimChars (by decide)]
  unfold numbersText
  rw [trimmedPieces_intercalate (by simpa using hne) hcells, List.map_map]
  apply List.map_congr_left
  intro cell _
  show trimChars (cell.1.around _) = _
  rw [trimChars_around, (unpadded_toString_int64 cell.2).trimChars_eq]

/-- **A list of signed numbers** is read as such if the first is not
negative; it is the first that decides. -/
theorem readNumbers?_numbersText {cells : List (Padding × Int64)} (hne : cells ≠ [])
    (hfirst : ∀ cell ∈ cells.head?, 0 ≤ cell.2.toInt) :
    readNumbers? (trimChars (numbersText cells))
      = some (cells.map fun cell => .int cell.2) := by
  have hitems : readAll? (fun item => (readInt64? item).map Number.int)
      (cells.map fun cell => (toString cell.2).toList)
      = some (cells.map fun cell => .int cell.2) := by
    rw [readAll?_eq_some_iff, List.map_map, List.map_map]
    apply List.map_congr_left
    intro cell _
    show (readInt64? (toString cell.2.toInt).toList).map Number.int = _
    rw [readInt64?_toString]
    rfl
  cases cells with
  | nil => exact absurd rfl hne
  | cons cell cells =>
    -- Read as a number of any kind, the first is whole; so all are read as signed.
    unfold readNumbers?
    rw [trimmedPieces_numbersText hne]
    simp only [List.map_cons, List.head?_cons, Option.bind_some,
      readNumber?_of_nonneg (hfirst cell rfl), Number.isInteger, if_true]
    exact hitems

/-! ## §5. Samplings. -/

/-- A grid as it is written. -/
def gridText (grid : List UInt64) : List Char :=
  List.intercalate [','] (grid.map fun n => Nat.toDigits 10 n.toNat)

/-- **A sampling as it is written**: the grids, the points and the number
of samples, if there is one. -/
def samplingText (relaxation static : List UInt64) (points : List String)
    (samples : Option UInt32) : List Char :=
  List.intercalate [';']
    ([gridText relaxation, gridText static, List.intercalate ['-'] (points.map String.toList)]
      ++ (samples.map fun n => Nat.toDigits 10 n.toNat).toList)

/-- The sampling that is written. -/
def samplingOf (relaxation static : List UInt64) (points : List String)
    (samples : Option UInt32) : BandPath :=
  ⟨relaxation.map numberOfCount, static.map numberOfCount, points, samples⟩

theorem isGrid_gridText {grid : List UInt64} (hne : grid ≠ []) :
    IsGrid (gridText grid) (grid.map numberOfCount) := by
  unfold IsGrid gridText
  rw [trimmedPieces_intercalate (by simpa using hne), List.map_map, List.map_map, List.map_map]
  · apply List.map_congr_left
    intro n _
    show readNumber? (trimChars (Nat.toDigits 10 n.toNat)) = _
    rw [(unpadded_toDigits _).trimChars_eq, ← Nat.toList_repr]
    exact readNumber?_toString n
  · intro p hp
    obtain ⟨n, -, rfl⟩ := List.mem_map.mp hp
    exact notMem_toDigits (by decide) n.toNat

theorem unpadded_gridText (grid : List UInt64) : Unpadded (gridText grid) := by
  have hnumber : ∀ p ∈ grid.map fun n => Nat.toDigits 10 n.toNat, Unpadded p := by
    intro p hp
    obtain ⟨n, -, rfl⟩ := List.mem_map.mp hp
    exact unpadded_toDigits n.toNat
  exact Unpadded.intercalate (by decide) (fun p hp => (hnumber p (List.mem_of_mem_head? hp)).1)
    (fun p hp => (hnumber p (List.mem_of_mem_getLast? hp)).2)

/-- Numbers and commas hold no separator of parts. -/
theorem notMem_gridText (grid : List UInt64) : ';' ∉ gridText grid := by
  apply notMem_intercalate (by decide)
  intro p hp
  obtain ⟨n, -, rfl⟩ := List.mem_map.mp hp
  exact notMem_toDigits (by decide) n.toNat

section Sampling

variable {relaxation static : List UInt64} {points : List String} {samples : Option UInt32}

theorem pointNames_joined (hne : points ≠ []) (hpoints : ∀ p ∈ points, '-' ∉ p.toList) :
    pointNames (List.intercalate ['-'] (points.map String.toList)) = points := by
  unfold pointNames
  rw [pieces_intercalate (by simpa using hne), List.map_map]
  · simp
  · intro p hp
    obtain ⟨point, hpoint, rfl⟩ := List.mem_map.mp hp
    exact hpoints point hpoint

/-- The parts of a sampling, as they were written. -/
theorem pieces_samplingText (hpoints : ∀ p ∈ points, ';' ∉ p.toList) :
    pieces ';' (samplingText relaxation static points samples)
      = [gridText relaxation, gridText static, List.intercalate ['-'] (points.map String.toList)]
        ++ (samples.map fun n => Nat.toDigits 10 n.toNat).toList := by
  apply pieces_intercalate (by simp)
  have hnames : ';' ∉ List.intercalate ['-'] (points.map String.toList) := by
    apply notMem_intercalate (by decide)
    intro p hp
    obtain ⟨point, hpoint, rfl⟩ := List.mem_map.mp hp
    exact hpoints point hpoint
  have hsamples : ∀ p ∈ (samples.map fun n => Nat.toDigits 10 n.toNat).toList, ';' ∉ p := by
    intro p hp
    obtain ⟨n, -, rfl⟩ := Option.map_eq_some_iff.mp (Option.mem_toList.mp hp)
    exact notMem_toDigits (by decide) n.toNat
  simpa [or_imp, forall_and, notMem_gridText, hnames] using hsamples

/-- No blank stands at either end of a sampling, unless its last point ends
in one. -/
theorem unpadded_samplingText
    (hends : samples = none → ∀ p ∈ points.getLast?, ∀ c ∈ p.toList.getLast?, isBlank c = false) :
    Unpadded (samplingText relaxation static points samples) := by
  apply Unpadded.intercalate (by decide)
  · intro p hp
    obtain rfl := Option.some.inj hp
    exact (unpadded_gridText relaxation).1
  · cases samples with
    | none =>
      intro p hp
      obtain rfl : List.intercalate ['-'] (points.map String.toList) = p := Option.some.inj hp
      apply getLast?_intercalate (by decide)
      intro q hq
      rw [List.getLast?_map, Option.mem_def, Option.map_eq_some_iff] at hq
      obtain ⟨point, hpoint, rfl⟩ := hq
      exact hends rfl point hpoint
    | some n =>
      intro p hp
      obtain rfl : Nat.toDigits 10 n.toNat = p := Option.some.inj hp
      exact (unpadded_toDigits n.toNat).2

/-- **A sampling is read as it was written.** -/
theorem readKpoints?_samplingText (hrelaxation : relaxation ≠ []) (hstatic : static ≠ [])
    (hne : points ≠ []) (hpoints : ∀ p ∈ points, '-' ∉ p.toList ∧ ';' ∉ p.toList) :
    readKpoints? (samplingText relaxation static points samples)
      = some (samplingOf relaxation static points samples) := by
  let joined := List.intercalate ['-'] (points.map String.toList)
  have hnames : pointNames joined = points := pointNames_joined hne fun p hp => (hpoints p hp).1
  rw [readKpoints?_eq_some_iff, pieces_samplingText fun p hp => (hpoints p hp).2]
  unfold samplingOf
  cases samples with
  | none =>
    have hwritten : WritesPath _ ⟨_, _, pointNames joined, none⟩ :=
      .uncounted (isGrid_gridText hrelaxation) (isGrid_gridText hstatic)
    rw [hnames] at hwritten
    rw [outerParts_of_length_le (by simp)]
    exact hwritten
  | some n =>
    have hcount : readUInt32? (trimChars (Nat.toDigits 10 n.toNat)) = some n := by
      rw [(unpadded_toDigits _).trimChars_eq, readUInt32?_toDigits]
    have hwritten : WritesPath _ ⟨_, _, pointNames joined, some n⟩ :=
      .counted (isGrid_gridText hrelaxation) (isGrid_gridText hstatic) hcount
    rw [hnames] at hwritten
    rw [outerParts_of_length_le (by simp)]
    exact hwritten

end Sampling

/-! ## §6. The encodings. -/

/-- **WHAT IS WRITTEN IS DECODED**: lists of texts, lists of signed numbers
with any blanks around them, and samplings with or without a number of
samples, of any length and with numbers of any size. -/
theorem decode_written :
    (∀ items : List String, items ≠ [] → (∀ item ∈ items, ',' ∉ item.toList) →
      Unpadded (",".intercalate items).toList →
      decode .strings (.str (",".intercalate items)) = .texts items)
    ∧ (∀ cells : List (Padding × Int64), cells ≠ [] → (∀ cell ∈ cells.head?, 0 ≤ cell.2.toInt) →
      decode .numbers (.str (String.ofList (numbersText cells)))
          = .numbers (cells.map fun cell => .int cell.2)
        ∧ decode .vector (.str (String.ofList (numbersText cells)))
          = .numbers (cells.map fun cell => .int cell.2))
    ∧ (∀ relaxation static points samples, relaxation ≠ [] → static ≠ [] → points ≠ [] →
      (∀ p ∈ points, '-' ∉ p.toList ∧ ';' ∉ p.toList) →
      (samples = none → ∀ p ∈ points.getLast?, ∀ c ∈ p.toList.getLast?, isBlank c = false) →
      decode .kpoints (.str (String.ofList (samplingText relaxation static points samples)))
        = .kpoints (samplingOf relaxation static points samples)) := by
  refine ⟨?_, ?_, ?_⟩
  · intro items hne hitems hends
    exact decode_strings_joined hne hitems hends
  · intro cells hne hfirst
    have hread := readNumbers?_numbersText hne hfirst
    rw [← String.toList_ofList (l := numbersText cells)] at hread
    have hnumbers : ((readNumbers? (trimChars (String.ofList (numbersText cells)).toList)).map
        Attribute.numbers).getD .missing = .numbers (cells.map fun cell => .int cell.2) := by
      rw [hread]
      rfl
    exact ⟨hnumbers, hnumbers⟩
  · intro relaxation static points samples hrelaxation hstatic hne hpoints hends
    rw [decode_kpoints, String.toList_ofList, (unpadded_samplingText hends).trimChars_eq,
      readKpoints?_samplingText hrelaxation hstatic hne hpoints]
    rfl

/-- A tabulator before one of two numbers, and a sampling whose numbers are
the least that is not signed and the greatest. -/
theorem decode_written_extremes :
    decode .strings (.str "Al,,Ni 3") = .texts ["Al", "", "Ni 3"]
      ∧ decode .numbers (.str "0,\t-9223372036854775808")
        = .numbers [.int 0, .int (-9223372036854775808)]
      ∧ decode .kpoints (.str "9223372036854775808,1;18446744073709551615;G-\\Gamma;4294967295")
        = .kpoints ⟨[.nat 9223372036854775808, .int 1], [.nat 18446744073709551615],
            ["G", "\\Gamma"], some 4294967295⟩ := by
  obtain ⟨htexts, hnumbers, hsampling⟩ := decode_written
  let tabulator : Padding := ⟨['\t'], [], List.all_eq_true.mp (by decide), by simp⟩
  have hlist : String.ofList (numbersText [(.none, 0), (tabulator, -9223372036854775808)])
      = "0,\t-9223372036854775808" := by decide +kernel
  have hpath : String.ofList (samplingText [9223372036854775808, 1] [18446744073709551615]
      ["G", "\\Gamma"] (some 4294967295))
      = "9223372036854775808,1;18446744073709551615;G-\\Gamma;4294967295" := by decide +kernel
  have hends : Unpadded (",".intercalate ["Al", "", "Ni 3"]).toList := by
    constructor
    · intro c hc
      obtain rfl : 'A' = c := Option.some.inj hc
      decide
    · intro c hc
      obtain rfl : '3' = c := Option.some.inj hc
      decide
  refine ⟨?_, ?_, ?_⟩
  · exact htexts ["Al", "", "Ni 3"] (by decide) (by decide) hends
  · rw [← hlist]
    exact (hnumbers _ (by simp) (by decide)).1
  · rw [← hpath]
    exact hsampling _ _ _ _ (by decide) (by decide) (by decide) (by decide) (by decide)

end Attribute

end MaterialSearch
