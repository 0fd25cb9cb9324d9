/-
  MaterialSearch.Proofs.Attribute.Scalars
  ────────────────────────────────
  **ONE NUMBER, ALONE AND IN A LIST.**

  A list looks at its first number as a number alone would be read, and then
  reads every number again in the kind that it found.  Signed whole numbers
  and floats are read alike both times.  A whole number beyond the signed
  range is found as an unsigned one and then refused as a signed one, so a
  text of it alone is a number, and no list of one.

  Main definitions:
    * `listed?`   — a number as a member of a list
    * `Oversized` — the texts of whole numbers beyond the signed range

  Main results:
    * `readNumber?_of_readNat?`  — a whole number by its value
    * `readNumber?_eq_nat_iff`   — which numbers are unsigned
    * `readNumbers?_of_notMem`   — a list without commas
    * `scalar_iff_singleton`     — **a number and the list of it**
    * `oversized_not_listed`     — the first number that is no list
-/
import MaterialSearch.Proofs.Attribute.Encoding

namespace MaterialSearch.Attribute

open Keyword Numeric Text

/-! ## §1. Whole numbers by their value. -/

section Counts

variable {cs : List Char} {n : Nat}

theorem isDigits_of_readNat? (h : readNat? cs = some n) : isDigits cs = true := by
  obtain ⟨⟨hne, hall⟩, -⟩ := readNat?_eq_some_iff.mp h
  have hdecimal : cs.all isDecimalDigit = true :=
    List.all_eq_true.mpr fun c hc => isDecimalDigit_of_isDigit (List.all_eq_true.mp hall c hc)
  rw [isDigits, hne, hdecimal]
  rfl

theorem readBelow?_of_readNat? (h : readNat? cs = some n) (bound : Nat) :
    readBelow? bound cs = if n < bound then some n else none := by
  rw [readBelow?_eq (readNat?_eq_some_iff.mp h).1.2, h, Option.filter_some]
  by_cases hn : n < bound <;> simp [hn]

/-- A signed number is read as long as there is room for it. -/
theorem readInt64?_of_readNat? (h : readNat? cs = some n) :
    readInt64? cs = if n < 2 ^ 63 then some (Int64.ofNat n) else none := by
  rw [readInt64?_eq (readNat?_eq_some_iff.mp h).1.2, readBelow?_of_readNat? h]
  exact apply_ite (Option.map Int64.ofNat) (n < 2 ^ 63) (some n) none

theorem readUInt64?_of_readNat? (h : readNat? cs = some n) :
    readUInt64? cs = if n < 2 ^ 64 then some (UInt64.ofNat n) else none := by
  rw [readUInt64?, readBelow?_of_readNat? h]
  exact apply_ite (Option.map UInt64.ofNat) (n < 2 ^ 64) (some n) none

/-- **A whole number is read by its value**: signed, unsigned, or not at all. -/
theorem readNumber?_of_readNat? (h : readNat? cs = some n) :
    readNumber? cs = if n < 2 ^ 63 then some (.int (Int64.ofNat n))
      else if n < 2 ^ 64 then some (.nat (UInt64.ofNat n)) else none := by
  unfold readNumber?
  rw [if_pos (isDigits_of_readNat? h), readInt64?_of_readNat? h, readUInt64?_of_readNat? h]
  by_cases hsigned : n < 2 ^ 63
  · rw [if_pos hsigned, if_pos hsigned]
  · rw [if_neg hsigned, if_neg hsigned]
    exact apply_ite (Option.map Number.nat) (n < 2 ^ 64) (some (UInt64.ofNat n)) none

/-- Digits have no sign in front. -/
theorem head?_ne_of_isDigits (h : isDigits cs = true) : cs.head? ≠ some '+' := by
  intro hplus
  have hall : cs.all isDecimalDigit = true := (Bool.and_eq_true _ _ ▸ h).2
  exact absurd (List.all_eq_true.mp hall '+' (List.mem_of_mem_head? hplus)) (by decide)

end Counts

/-! ## §2. How a number was read. -/

/-- **What a number was read as**, and by which reader. -/
theorem readNumber?_cases {cs : List Char} {n : Number} (h : readNumber? cs = some n) :
    (∃ i, n = .int i ∧ readInt64? cs = some i)
      ∨ (∃ m, n = .nat m ∧ readInt64? cs = none ∧ isDigits cs = true ∧ readUInt64? cs = some m)
      ∨ ∃ x, n = .float x ∧ readFloat? cs = some x := by
  unfold readNumber? at h
  split at h
  · next hdigits =>
    split at h
    · next i hi => exact .inl ⟨i, (Option.some.inj h).symm, hi⟩
    · next hnone =>
      obtain ⟨m, hm, rfl⟩ := Option.map_eq_some_iff.mp h
      exact .inr (.inl ⟨m, rfl, hnone, hdigits, hm⟩)
  · obtain ⟨x, hx, rfl⟩ := Option.map_eq_some_iff.mp h
    exact .inr (.inr ⟨x, rfl, hx⟩)

/-- **The unsigned numbers** are the whole numbers beyond the signed range. -/
theorem readNumber?_eq_nat_iff {cs : List Char} {m : UInt64} :
    readNumber? cs = some (.nat m) ↔ readNat? cs = some m.toNat ∧ 2 ^ 63 ≤ m.toNat := by
  constructor
  · intro h
    obtain ⟨i, hi, -⟩ | ⟨m', hm, hsigned, hdigits, hread⟩ | ⟨x, hx, -⟩ := readNumber?_cases h
    · exact absurd hi (by simp)
    · obtain rfl := Number.nat.inj hm
      have hvalue := readNat?_of_readUInt64? (head?_ne_of_isDigits hdigits) hread
      refine ⟨hvalue, Nat.le_of_not_lt fun hlt => ?_⟩
      -- A smaller number would have been read as a signed one.
      rw [readInt64?_of_readNat? hvalue, if_pos hlt] at hsigned
      exact absurd hsigned (by simp)
    · exact absurd hx (by simp)
  · rintro ⟨hvalue, hbeyond⟩
    rw [readNumber?_of_readNat? hvalue, if_neg (Nat.not_lt.mpr hbeyond), if_pos m.toNat_lt,
      UInt64.ofNat_toNat]

/-! ## §3. Lists of one number. -/

/-- **A number as a member of a list**: unsigned numbers have no place there. -/
def listed? : Number → Option Number
  | .nat _ => none
  | n => some n

/-- **A list without commas** is its one number, read twice. -/
theorem readNumbers?_of_notMem {cs : List Char} (h : ',' ∉ cs) :
    readNumbers? cs = ((readNumber? (trimChars cs)).bind listed?).map fun n => [n] := by
  have hitems : trimmedPieces ',' cs = [trimChars cs] := by
    rw [trimmedPieces, pieces_of_notMem h, List.map_singleton]
  simp only [readNumbers?, hitems, List.head?_cons, Option.bind_some]
  cases hfirst : readNumber? (trimChars cs) with
  | none => rfl
  | some n =>
      obtain ⟨i, rfl, hread⟩ | ⟨m, rfl, hread, -, -⟩ | ⟨x, rfl, hread⟩ :=
        readNumber?_cases hfirst
      all_goals simp [Number.isInteger, readAll?, listed?, hread]

/-- The blanks at the ends of a list do not matter. -/
theorem readNumbers?_trimChars (cs : List Char) :
    readNumbers? (trimChars cs) = readNumbers? cs := by
  unfold readNumbers?
  rw [trimmedPieces_trimChars (by decide)]

theorem decode_list {w : Wire} (hw : w = .numbers ∨ w = .vector) (s : String) :
    decode w (.str s) = ((readNumbers? s.toList).map .numbers).getD .missing := by
  have hlist : decode w (.str s)
      = ((readNumbers? (trimChars s.toList)).map .numbers).getD .missing := by
    rcases hw with rfl | rfl <;> rfl
  rw [hlist, readNumbers?_trimChars]

/-- A text is read as a list of one number if it has no comma. -/
theorem decode_of_notMem {s : String} {w : Wire} (hs : ',' ∉ s.toList)
    (hw : w = .numbers ∨ w = .vector) :
    decode w (.str s)
      = (((readNumber? (trimChars s.toList)).bind listed?).map fun n => .numbers [n]).getD .missing := by
  rw [decode_list hw, readNumbers?_of_notMem hs, Option.map_map]
  rfl

theorem decode_number (s : String) : decode .number (.str s)
    = ((readNumber? (trimChars s.toList)).map .number).getD .missing := rfl

/-- **The text of a whole number beyond the signed range**, blanks at its
ends aside. -/
def Oversized (s : String) : Prop :=
  ∃ n, readNat? (trimChars s.toList) = some n ∧ 2 ^ 63 ≤ n ∧ n < 2 ^ 64

/-- **A NUMBER AND THE LIST OF IT.**  A text without a comma is read as a
number exactly when it is read as the list of this number, and as nothing in
both forms alike, unless it is a whole number from `2^63` to `2^64 - 1`.
Such a number is read as one, and no list of it is.  Every smaller whole
number is read both ways. -/
theorem scalar_iff_singleton (s : String) (w : Wire) (hs : ',' ∉ s.toList)
    (hw : w = .numbers ∨ w = .vector) :
    (¬ Oversized s →
      (∀ n, decode .number (.str s) = .number n ↔ decode w (.str s) = .numbers [n])
      ∧ (decode .number (.str s) = .missing ↔ decode w (.str s) = .missing))
    ∧ ∀ n, readNat? (trimChars s.toList) = some n →
      (n < 2 ^ 63 → decode .number (.str s) = .number (.int (Int64.ofNat n))
        ∧ decode w (.str s) = .numbers [.int (Int64.ofNat n)])
      ∧ (2 ^ 63 ≤ n → n < 2 ^ 64 →
        decode .number (.str s) = .number (.nat (UInt64.ofNat n))
        ∧ decode w (.str s) = .missing) := by
  rw [decode_of_notMem hs hw, decode_number]
  constructor
  · intro hfits
    cases hread : readNumber? (trimChars s.toList) with
    | none => simp
    | some n =>
        cases n with
        | nat m =>
            obtain ⟨hvalue, hbeyond⟩ := readNumber?_eq_nat_iff.mp hread
            exact absurd ⟨m.toNat, hvalue, hbeyond, m.toNat_lt⟩ hfits
        | int | float => simp [listed?]
  · intro n hvalue
    rw [readNumber?_of_readNat? hvalue]
    constructor
    · intro hsigned
      rw [if_pos hsigned]
      exact ⟨rfl, rfl⟩
    · intro hbeyond hunsigned
      rw [if_neg (Nat.not_lt.mpr hbeyond), if_pos hunsigned]
      exact ⟨rfl, rfl⟩

/-- The last number that is a list, with blanks and a zero too many, and a
text that is nothing in either form. -/
theorem scalar_iff_singleton_lastSigned :
    (',' ∉ " 09223372036854775807\n".toList
      ∧ decode .number (.str " 09223372036854775807\n") = .number (.int 9223372036854775807)
      ∧ decode .vector (.str " 09223372036854775807\n") = .numbers [.int 9223372036854775807])
    ∧ ',' ∉ "18446744073709551616".toList ∧ ¬ Oversized "18446744073709551616"
      ∧ decode .numbers (.str "18446744073709551616") = .missing := by
  obtain ⟨-, hwhole⟩ := scalar_iff_singleton " 09223372036854775807\n" .vector (by decide) (.inr rfl)
  obtain ⟨hsigned, -⟩ := hwhole 9223372036854775807 (by decide)
  have hbeyond : ¬ Oversized "18446744073709551616" := by
    rintro ⟨n, hvalue, -, hlt⟩
    rw [show readNat? (trimChars "18446744073709551616".toList) = some (2 ^ 64) by decide] at hvalue
    obtain rfl := Option.some.inj hvalue
    exact Nat.lt_irrefl _ hlt
  obtain ⟨halike, -⟩ := scalar_iff_singleton "18446744073709551616" .numbers (by decide) (.inl rfl)
  refine ⟨⟨by decide, hsigned (by decide)⟩, by decide, hbeyond, ?_⟩
  exact (halike hbeyond).2.mp (by rfl)

/-- **The first whole number beyond the signed range** is a number, also as
a member of an array and as a list when it is given as JSON, but its text is
no list. -/
theorem oversized_not_listed :
    ',' ∉ "9223372036854775808".toList
      ∧ decode .number (.str "9223372036854775808") = .number (.nat 9223372036854775808)
      ∧ decode .numbers (.str "9223372036854775808") ≠ .numbers [.nat 9223372036854775808]
      ∧ decode .numbers (.str "9223372036854775808") = .missing
      ∧ decode .numbers (.num (.nat 9223372036854775808)) = .numbers [.nat 9223372036854775808]
      ∧ decode .numbers (.arr [.str "9223372036854775808"])
        = .numbers [.nat 9223372036854775808] := by
  have hlist : decode .numbers (.str "9223372036854775808") = .missing := rfl
  refine ⟨by decide, rfl, ?_, hlist, rfl, rfl⟩
  rw [hlist]
  exact fun h => nomatch h

end MaterialSearch.Attribute
