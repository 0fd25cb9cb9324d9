/-
  MaterialSearch.Numeric.Parts
  ────────────────────────────────
  **A FLOAT AS A WHOLE NUMBER TIMES A POWER OF TWO.**

  Text of a float is exact arithmetic on what the float stands for: a
  finite one is `± mantissa · 2^exponent`, read off its 64 bits.

  Main definitions:
    * `Parts`    — the kinds of float, with sign, mantissa and exponent
    * `partsOf`  — the parts of a float
    * `infinity` — the value that no finite float reaches
-/

namespace MaterialSearch.Numeric

/-- What a float stands for. -/
inductive Parts where
  /-- Not a number. -/
  | undefined
  /-- An infinity and its sign. -/
  | infinite (negative : Bool)
  /-- The number `± mantissa · 2^exponent`; zero has a sign too. -/
  | finite (negative : Bool) (mantissa : Nat) (exponent : Int)
  deriving Repr, DecidableEq

/-- The parts of 64 bits: one bit of sign, 11 of exponent, 52 of fraction.
The exponent of all ones is kept for what is not finite, the exponent zero
for numbers below the normal range. -/
def partsOfBits (bits : Nat) : Parts :=
  let negative : Bool := bits / 0x8000000000000000 % 2 == 1
  let scale : Nat := bits / 0x10000000000000 % 0x800
  let fraction : Nat := bits % 0x10000000000000
  if scale = 2047 then
    if fraction = 0 then .infinite negative else .undefined
  else if scale = 0 then .finite negative fraction (-1074)
  else .finite negative (0x10000000000000 + fraction) ((scale : Int) - 1075)

/-- The parts of a float. -/
def partsOf (x : Float) : Parts := partsOfBits x.toBits.toNat

/-- Positive infinity. -/
def infinity : Float := Float.ofBits 0x7FF0000000000000

/-- The float that is not a number. -/
def notANumber : Float := Float.ofBits 0x7FF8000000000000

/-! ## Examples. -/

example : partsOfBits 0x3FF0000000000000 = .finite false 0x10000000000000 (-52) := by decide
example : partsOfBits 0x8000000000000000 = .finite true 0 (-1074) := by decide
example : partsOfBits 0x7FF0000000000000 = .infinite false := by decide

end MaterialSearch.Numeric
