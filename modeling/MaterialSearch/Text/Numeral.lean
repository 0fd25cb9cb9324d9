/-
  MaterialSearch.Text.Numeral
  ────────────────────────────────
  **WHOLE NUMBERS IN DECIMAL.**

  Whole numbers are written with the ASCII digits.  A reader takes a run
  of digits and nothing else; readers of a fixed width take one sign in
  front and refuse a value that does not fit.

  Main definitions:
    * `readNat?`     — digits alone
    * `readBelow?`   — an optional plus sign, and a value below a bound
    * `readUInt64?`, `readUInt32?`, `readInt64?` — the widths in use

  Main results:
    * `toList_toString_int` — the sign and the digits of a whole number
    * `readNat?_toDigits`, `readBelow?_toDigits`, `readUInt64?_toDigits`,
      `readUInt32?_toDigits`, `readInt64?_toString` — what is written is read back
-/

namespace MaterialSearch.Text

/-! ## §1. Reading. -/

/-- The number that a non-empty run of ASCII digits writes. -/
def readNat? (cs : List Char) : Option Nat :=
  if !cs.isEmpty && cs.all Char.isDigit then
    some (Nat.ofDigitChars 10 cs 0)
  else none

/-- Digits after an optional plus sign, for a value below `bound`. -/
def readBelow? (bound : Nat) : List Char → Option Nat
  | '+' :: cs => (readNat? cs).filter fun n => decide (n < bound)
  | cs => (readNat? cs).filter fun n => decide (n < bound)

/-- An unsigned number of 64 bits. -/
def readUInt64? (cs : List Char) : Option UInt64 :=
  (readBelow? 0x10000000000000000 cs).map UInt64.ofNat

/-- An unsigned number of 32 bits. -/
def readUInt32? (cs : List Char) : Option UInt32 :=
  (readBelow? 0x100000000 cs).map UInt32.ofNat

/-- A signed number of 64 bits. -/
def readInt64? : List Char → Option Int64
  | '-' :: cs =>
      ((readNat? cs).filter fun n => decide (n ≤ 0x8000000000000000)).map fun n =>
        Int64.ofInt (-n)
  | cs => (readBelow? 0x8000000000000000 cs).map fun n => Int64.ofInt n

/-! ## §2. What is written is read back. -/

theorem all_isDigit_toDigits (n : Nat) :
    (Nat.toDigits 10 n).all Char.isDigit = true := by
  rw [List.all_eq_true]
  intro c hc
  exact Nat.isDigit_of_mem_toDigits (by omega) (by omega) hc

theorem readNat?_toDigits (n : Nat) : readNat? (Nat.toDigits 10 n) = some n := by
  have hne : (Nat.toDigits 10 n).isEmpty = false := by
    simp [Nat.toDigits_ne_nil]
  simp [readNat?, all_isDigit_toDigits n, hne, Nat.ofDigitChars_ten_toDigits]

/-- **A whole number** is one digit or more, and nothing else. -/
theorem readNat?_eq_some_iff {cs : List Char} {n : Nat} : readNat? cs = some n
    ↔ (cs.isEmpty = false ∧ cs.all Char.isDigit = true) ∧ Nat.ofDigitChars 10 cs 0 = n := by
  unfold readNat?
  rw [Option.ite_none_right_eq_some, Bool.and_eq_true, Bool.not_eq_true', Option.some_inj]

/-- Without a sign in front, an unsigned number is digits alone. -/
theorem readNat?_of_readUInt64? {cs : List Char} {n : UInt64} (hsign : cs.head? ≠ some '+')
    (h : readUInt64? cs = some n) : readNat? cs = some n.toNat := by
  have hbelow : readBelow? 0x10000000000000000 cs
      = (readNat? cs).filter fun n => decide (n < 0x10000000000000000) := by
    unfold readBelow?
    split
    · exact absurd rfl hsign
    · rfl
  unfold readUInt64? at h
  rw [hbelow, Option.map_eq_some_iff] at h
  obtain ⟨m, hm, rfl⟩ := h
  rw [Option.filter_eq_some_iff, decide_eq_true_eq] at hm
  rw [hm.1, UInt64.toNat_ofNat_of_lt' hm.2]

/-- Digits begin with no sign. -/
theorem readBelow?_eq {bound : Nat} {cs : List Char}
    (h : cs.all Char.isDigit = true) :
    readBelow? bound cs = (readNat? cs).filter fun n => decide (n < bound) := by
  unfold readBelow?
  split
  · simp at h
  · rfl

theorem readBelow?_toDigits {bound n : Nat} (h : n < bound) :
    readBelow? bound (Nat.toDigits 10 n) = some n := by
  rw [readBelow?_eq (all_isDigit_toDigits n), readNat?_toDigits]
  simp [h]

theorem readUInt64?_toDigits (n : UInt64) :
    readUInt64? (Nat.toDigits 10 n.toNat) = some n := by
  rw [readUInt64?, readBelow?_toDigits n.toNat_lt]
  simp

theorem readUInt32?_toDigits (n : UInt32) :
    readUInt32? (Nat.toDigits 10 n.toNat) = some n := by
  rw [readUInt32?, readBelow?_toDigits n.toNat_lt]
  simp

/-- Digits begin with no sign. -/
theorem readInt64?_eq {cs : List Char} (h : cs.all Char.isDigit = true) :
    readInt64? cs = (readBelow? 0x8000000000000000 cs).map Int64.ofNat := by
  unfold readInt64?
  split
  · simp at h
  · show Option.map (fun n : Int => Int64.ofInt n) (_ >>= fun n : Nat => pure (n : Int)) = _
    cases readBelow? 0x8000000000000000 _ with
    | none => rfl
    | some n => exact congrArg some Int64.ofInt_eq_ofNat

theorem readInt64?_minus (cs : List Char) :
    readInt64? ('-' :: cs)
      = ((readNat? cs).filter fun n => decide (n ≤ 0x8000000000000000)).map fun n : Nat =>
          Int64.ofInt (-(n : Int)) := by
  show Option.map (fun n : Int => Int64.ofInt (-n)) (_ >>= fun n : Nat => pure (n : Int)) = _
  cases (readNat? cs).filter fun n => decide (n ≤ 0x8000000000000000) <;> rfl

theorem readInt64?_toDigits {n : Nat} (h : n < 0x8000000000000000) :
    readInt64? (Nat.toDigits 10 n) = some (Int64.ofNat n) := by
  rw [readInt64?_eq (all_isDigit_toDigits n), readBelow?_toDigits h]
  rfl

/-- A number that is too great for the signed width. -/
theorem readInt64?_toDigits_of_le {n : Nat} (h : 0x8000000000000000 ≤ n) :
    readInt64? (Nat.toDigits 10 n) = none := by
  rw [readInt64?_eq (all_isDigit_toDigits n), readBelow?_eq (all_isDigit_toDigits n),
    readNat?_toDigits, Option.filter_some, if_neg (by simpa using h)]
  rfl

/-- **A whole number is written as its sign and its digits.** -/
theorem toList_toString_int (n : Int) :
    (toString n).toList = (if n < 0 then ['-'] else []) ++ Nat.toDigits 10 n.natAbs := by
  cases n with
  | ofNat m =>
    rw [if_neg (by simp), List.nil_append]
    exact Nat.toList_repr
  | negSucc m =>
    show ("-" ++ Nat.repr (m + 1)).toList = _
    rw [if_pos (Int.negSucc_lt_zero m), String.toList_append, Nat.toList_repr]
    rfl

theorem readInt64?_toString (n : Int64) : readInt64? (toString n.toInt).toList = some n := by
  have hlo := n.le_toInt
  have hhi := n.toInt_lt
  rw [toList_toString_int]
  by_cases hneg : n.toInt < 0
  · have hvalue : -(n.toInt.natAbs : Int) = n.toInt := by omega
    rw [if_pos hneg, List.singleton_append, readInt64?_minus, readNat?_toDigits,
      Option.filter_some, if_pos (by simp; omega), Option.map_some, hvalue, Int64.ofInt_toInt]
  · have hvalue : (n.toInt.natAbs : Int) = n.toInt := by omega
    rw [if_neg hneg, List.nil_append, readInt64?_toDigits (by omega), ← Int64.ofInt_eq_ofNat,
      hvalue, Int64.ofInt_toInt]

/-! ## §3. Examples. -/

example : readUInt64? "+18446744073709551615".toList = some 18446744073709551615 := by
  decide
example : readUInt64? "18446744073709551616".toList = none := by decide
example : readInt64? "-9223372036854775808".toList = some (-9223372036854775808) := by
  decide
example : readInt64? "+".toList = none ∧ readInt64? "".toList = none := by decide

end MaterialSearch.Text
