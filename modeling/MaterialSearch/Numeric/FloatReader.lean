/-
  MaterialSearch.Numeric.FloatReader
  ────────────────────────────────
  **FLOATS READ FROM TEXT.**

  A float is written with an optional sign, digits with at most one point
  and at least one digit on either side of it, and an optional power of
  ten; or as `inf`, `infinity` or `nan` in any case.  Its value is the
  float nearest to the number written, ties to the even mantissa.

  Main definitions:
    * `DecimalParts` — the digits and powers of an unsigned number
    * `readDecimalParts?` — the grammar
    * `readFloat?`   — the value
-/
import MaterialSearch.Text.Numeral
import MaterialSearch.Numeric.Parts

namespace MaterialSearch.Numeric

/-! ## §1. The grammar. -/

/-- An unsigned decimal number: `whole . fraction · 10^power`. -/
structure DecimalParts where
  whole : List Char
  fraction : List Char
  power : Int
  deriving Repr, DecidableEq

/-- The power of ten after the mark, with an optional sign. -/
def readPower? : List Char → Option Int
  | '-' :: cs => (Text.readNat? cs).map fun n => -(n : Int)
  | '+' :: cs => (Text.readNat? cs).map fun n => (n : Int)
  | cs => (Text.readNat? cs).map fun n => (n : Int)

/-- What may follow the digits: nothing, or a mark and a power of ten. -/
def readPowerPart? : List Char → Option Int
  | [] => some 0
  | c :: cs => if c = 'e' ∨ c = 'E' then readPower? cs else none

/-- An unsigned decimal number that fills the text. -/
def readDecimalParts? (cs : List Char) : Option DecimalParts :=
  let whole := cs.takeWhile Char.isDigit
  match cs.dropWhile Char.isDigit with
  | '.' :: rest =>
      let fraction := rest.takeWhile Char.isDigit
      if whole.isEmpty && fraction.isEmpty then none
      else
        (readPowerPart? (rest.dropWhile Char.isDigit)).map fun p =>
          ⟨whole, fraction, p⟩
  | rest =>
      if whole.isEmpty then none
      else (readPowerPart? rest).map fun p => ⟨whole, [], p⟩

/-! ## §2. The value. -/

/-- The float nearest to `digits · 10^power`.  A number beyond `10^310` is
past every finite float and one below `10^-330` is nearer to zero than to
any other, so that no huge power is ever computed. -/
def nearestFloat (digits : Nat) (power : Int) : Float :=
  let order := ((Nat.toDigits 10 digits).length : Int) + power
  if digits = 0 ∨ order < -330 then 0
  else if 310 < order then infinity
  else Float.ofScientific digits (decide (power < 0)) power.natAbs

/-- The float nearest to an unsigned decimal number. -/
def DecimalParts.value (d : DecimalParts) : Float :=
  nearestFloat (Nat.ofDigitChars 10 (d.whole ++ d.fraction) 0)
    (d.power - d.fraction.length)

/-- An unsigned float: a name or a number. -/
def readUnsignedFloat? (cs : List Char) : Option Float :=
  let name := String.ofList (cs.map Char.toLower)
  if name = "inf" ∨ name = "infinity" then some infinity
  else if name = "nan" then some notANumber
  else (readDecimalParts? cs).map DecimalParts.value

/-- **A float with an optional sign.** -/
def readFloat? : List Char → Option Float
  | '-' :: cs => (readUnsignedFloat? cs).map fun x => -x
  | '+' :: cs => readUnsignedFloat? cs
  | cs => readUnsignedFloat? cs

/-! ## §3. Examples. -/

example : readDecimalParts? ".5e-3".toList = some ⟨[], ['5'], -3⟩ := by decide
example : readDecimalParts? "5.".toList = some ⟨['5'], [], 0⟩ := by decide
example : readDecimalParts? ".".toList = none := by decide
example : readDecimalParts? "1e".toList = none := by decide

end MaterialSearch.Numeric
