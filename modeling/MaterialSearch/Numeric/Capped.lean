/-
  MaterialSearch.Numeric.Capped
  ────────────────────────────────
  **COUNTS OF 64 BITS.**

  Positions in a result are counts of 64 bits.  Where a position is moved
  on, a sum or product that does not fit stays at the greatest count, so
  that a position past the end stays past the end.  Where a page is worked
  out, such a sum or product is an overflow, at which the program breaks
  off.

  Main definitions:
    * `addCapped`, `mulCapped` — sum and product that stop at the greatest count
    * `divUp`                  — quotient rounded up
    * `addChecked?`, `mulChecked?`, `mulSigned?` — sum and products, if they fit

  Main results:
    * `toNat_addCapped`, `toNat_mulCapped`, `toNat_divUp` — their values
    * `addChecked?_eq_some_iff`, `mulChecked?_eq_some_iff`,
      `mulSigned?_eq_some_iff` — what fits
-/

namespace MaterialSearch.Numeric

/-! ## §1. Counts that stop at their greatest value. -/

/-- The greatest count. -/
def maxCount : UInt64 := 18446744073709551615

/-- The sum, or the greatest count. -/
def addCapped (a b : UInt64) : UInt64 :=
  if a.toNat + b.toNat < 0x10000000000000000 then a + b else maxCount

/-- The product, or the greatest count. -/
def mulCapped (a b : UInt64) : UInt64 :=
  if a.toNat * b.toNat < 0x10000000000000000 then a * b else maxCount

/-- The quotient rounded up. -/
def divUp (a b : UInt64) : UInt64 :=
  if a % b = 0 then a / b else a / b + 1

theorem toNat_maxCount : maxCount.toNat = 0xFFFFFFFFFFFFFFFF := rfl

theorem toNat_addCapped (a b : UInt64) :
    (addCapped a b).toNat = min (a.toNat + b.toNat) 0xFFFFFFFFFFFFFFFF := by
  unfold addCapped
  split
  · next h =>
    rw [UInt64.toNat_add, Nat.mod_eq_of_lt h]
    omega
  · rw [toNat_maxCount]
    omega

theorem toNat_mulCapped (a b : UInt64) :
    (mulCapped a b).toNat = min (a.toNat * b.toNat) 0xFFFFFFFFFFFFFFFF := by
  unfold mulCapped
  split
  · next h =>
    rw [UInt64.toNat_mul, Nat.mod_eq_of_lt h]
    omega
  · rw [toNat_maxCount]
    omega

theorem toNat_divUp (a : UInt64) {b : UInt64} (hb : 0 < b.toNat) :
    (divUp a b).toNat = (a.toNat + b.toNat - 1) / b.toNat := by
  have ha := a.toNat_lt
  have hdiv : b.toNat * (a.toNat / b.toNat) + a.toNat % b.toNat = a.toNat :=
    Nat.div_add_mod a.toNat b.toNat
  have hmod : a.toNat % b.toNat < b.toNat := Nat.mod_lt _ hb
  unfold divUp
  split
  · next h =>
    have h0 : a.toNat % b.toNat = 0 := by
      have := congrArg UInt64.toNat h
      simpa [UInt64.toNat_mod] using this
    rw [UInt64.toNat_div]
    symm
    rw [Nat.div_eq_iff hb]
    rw [Nat.mul_comm]
    omega
  · next h =>
    have h0 : a.toNat % b.toNat ≠ 0 := by
      intro h'
      apply h
      apply UInt64.toNat_inj.mp
      simpa [UInt64.toNat_mod] using h'
    have hle : a.toNat / b.toNat + 1 < 0x10000000000000000 := by
      have hb1 : b.toNat ≠ 1 := fun h1 => by rw [h1] at h0; omega
      have : a.toNat / b.toNat ≤ a.toNat / 2 := Nat.div_le_div_left (by omega) (by omega)
      omega
    rw [UInt64.toNat_add, UInt64.toNat_div]
    show (a.toNat / b.toNat + 1) % 0x10000000000000000 = _
    rw [Nat.mod_eq_of_lt hle]
    symm
    rw [Nat.div_eq_iff hb]
    rw [Nat.add_mul, Nat.mul_comm]
    omega

/-! ## §2. Numbers that have to fit. -/

/-- The sum, if it fits. -/
def addChecked? (a b : UInt64) : Option UInt64 :=
  if a.toNat + b.toNat < 0x10000000000000000 then some (a + b) else none

/-- The product, if it fits. -/
def mulChecked? (a b : UInt64) : Option UInt64 :=
  if a.toNat * b.toNat < 0x10000000000000000 then some (a * b) else none

/-- The product of signed numbers, if it fits. -/
def mulSigned? (a b : Int64) : Option Int64 :=
  if (a * b).toInt = a.toInt * b.toInt then some (a * b) else none

/-- A sum that fits is that of the words. -/
theorem eq_of_addChecked? {a b c : UInt64} (h : addChecked? a b = some c) : c = a + b := by
  unfold addChecked? at h
  split at h
  · exact (Option.some.inj h).symm
  · exact absurd h (by simp)

/-- A product that fits is that of the words. -/
theorem eq_of_mulSigned? {a b c : Int64} (h : mulSigned? a b = some c) : c = a * b := by
  unfold mulSigned? at h
  split at h
  · exact (Option.some.inj h).symm
  · exact absurd h (by simp)

theorem addChecked?_eq_some_iff {a b c : UInt64} :
    addChecked? a b = some c ↔ a.toNat + b.toNat = c.toNat := by
  have hc := c.toNat_lt
  unfold addChecked?
  split
  · next h =>
    rw [Option.some.injEq, ← UInt64.toNat_inj, UInt64.toNat_add, Nat.mod_eq_of_lt h]
  · next h =>
    constructor
    · intro hnone
      exact absurd hnone (by simp)
    · intro hsum
      omega

theorem mulChecked?_eq_some_iff {a b c : UInt64} :
    mulChecked? a b = some c ↔ a.toNat * b.toNat = c.toNat := by
  have hc := c.toNat_lt
  unfold mulChecked?
  split
  · next h =>
    rw [Option.some.injEq, ← UInt64.toNat_inj, UInt64.toNat_mul, Nat.mod_eq_of_lt h]
  · next h =>
    constructor
    · intro hnone
      exact absurd hnone (by simp)
    · intro hproduct
      omega

theorem mulSigned?_eq_some_iff {a b c : Int64} :
    mulSigned? a b = some c ↔ a.toInt * b.toInt = c.toInt := by
  unfold mulSigned?
  split
  · next h => rw [Option.some.injEq, ← Int64.toInt_inj, h]
  · next h =>
    constructor
    · intro hnone
      exact absurd hnone (by simp)
    · intro hproduct
      -- A product that is a number of 64 bits is the one that is worked out.
      apply absurd _ h
      rw [Int64.toInt_mul, hproduct]
      exact Int64.toInt_bmod_size c

end MaterialSearch.Numeric
