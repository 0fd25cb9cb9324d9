/-
  MaterialSearch.Json.Reader
  ────────────────────────────────
  **FROM DOCUMENTS TO VALUES.**

  A document has a value when its numbers are in range, its surrogates
  stand in pairs and its arrays and objects are not nested too deeply.

  A number without point and power stays whole if it fits 64 bits.  Any
  other number becomes a float in three steps, each of which may round:
  the leading digits that fit 64 bits, the float nearest to them, and one
  product or quotient with a power of ten.

  Main definitions:
    * `NumberText.value?`   — numbers
    * `textOfUnits?`        — strings
    * `Document.value?`     — all documents
    * `Json.read?`          — a text that is one value
-/
import MaterialSearch.Json.Basic
import MaterialSearch.Json.Document
import MaterialSearch.Text.Numeral

namespace MaterialSearch.Json

open MaterialSearch.Numeric

/-! ## §1. Numbers. -/

/-- The value of a digit. -/
def digitValue (c : Char) : Nat := c.toNat - '0'.toNat

/-- Digits appended to a number as long as it fits 64 bits, and the digits
that were left over. -/
def takeDigits (n : Nat) : List Char → Nat × List Char
  | [] => (n, [])
  | c :: cs =>
      if 10 * n + digitValue c < 0x10000000000000000 then takeDigits (10 * n + digitValue c) cs
      else (n, c :: cs)

/-- The float nearest to `10^power`. -/
def powerOfTen (power : Nat) : Float := Float.ofScientific 1 false power

/-- `x / 10^power`, in steps of `10^308` until it vanishes. -/
def divideByPower (x : Float) (power : Nat) : Nat → Float
  | 0 => x / powerOfTen power
  | steps + 1 =>
      if power ≤ 308 then x / powerOfTen power
      else if x == 0 then x
      else divideByPower (x / powerOfTen 308) (power - 308) steps

/-- `x · 10^power`, unless that is beyond every float. -/
def scaleFloat? (x : Float) (power : Int) : Option Float :=
  if power < 0 then some (divideByPower x power.natAbs (power.natAbs / 308 + 1))
  else if power ≤ 308 then
    let y := x * powerOfTen power.natAbs
    if y == infinity then none else some y
  else if x == 0 then some x
  else none

/-- The magnitude of a number with a point, a power or too many digits.
The digits of the whole part that do not fit raise the power; those of the
fraction are dropped. -/
def NumberText.magnitude? (t : NumberText) : Option Float :=
  let whole := takeDigits 0 t.whole
  let all := takeDigits whole.1 t.fraction
  let start := (whole.2.length : Int) - ((t.fraction.length : Int) - all.2.length)
  let power := Nat.ofDigitChars 10 t.power 0
  -- Such a power exceeds every float, or drops below every one.
  if 0x80000000 ≤ power then
    if all.1 ≠ 0 ∧ t.powerNegative = false then none else some 0
  else
    scaleFloat? all.1.toUInt64.toFloat
      (if t.powerNegative then start - power else start + power)

/-- The float that a number text stands for. -/
def NumberText.float? (t : NumberText) : Option Number :=
  t.magnitude?.map fun x => .float (if t.negative then -x else x)

/-- **The number that a number text stands for**: whole if it has no point
and no power and fits 64 bits, except that minus zero is a float. -/
def NumberText.value? (t : NumberText) : Option Number :=
  let n := Nat.ofDigitChars 10 t.whole 0
  if t.isWhole = false then t.float?
  else if t.negative then
    if 0 < n ∧ n ≤ 0x8000000000000000 then some (.int (Int64.ofInt (-n))) else t.float?
  else if n < 0x8000000000000000 then some (.int (Int64.ofInt n))
  else if n < 0x10000000000000000 then some (.nat (UInt64.ofNat n))
  else t.float?

/-! ## §2. Strings. -/

/-- The characters of a string; a code unit of the upper surrogate range
takes the lower one after it. -/
def textOfUnits? : List TextUnit → Option (List Char)
  | [] => some []
  | .char c :: us => (textOfUnits? us).map (c :: ·)
  | .unit code :: us =>
      if code < 0xD800 ∨ 0xDFFF < code then
        (textOfUnits? us).map (Char.ofNat code :: ·)
      else
        -- One half of a pair: the other half must follow at once.
        match us with
        | .unit low :: us =>
            if code < 0xDC00 ∧ 0xDC00 ≤ low ∧ low ≤ 0xDFFF then
              (textOfUnits? us).map
                (Char.ofNat (0x10000 + (code - 0xD800) * 0x400 + (low - 0xDC00)) :: ·)
            else none
        | _ => none

/-- The string that its units write. -/
def stringOfUnits? (us : List TextUnit) : Option String :=
  (textOfUnits? us).map String.ofList

/-! ## §3. Values. -/

mutual

/-- The value of a document with room for `room` levels of nesting. -/
def Document.valueWithin? (room : Nat) : Document → Option Json
  | .null => some .null
  | .bool b => some (.bool b)
  | .number t => t.value?.map .num
  | .string us => (stringOfUnits? us).map .str
  | .array items =>
      if room = 0 then none else (Document.items? (room - 1) items).map .arr
  | .object members =>
      if room = 0 then none
      else (Document.members? (room - 1) members).map fun ms => .obj (Assoc.ofList ms)

/-- The values of the items of an array. -/
def Document.items? (room : Nat) : List Document → Option (List Json)
  | [] => some []
  | d :: ds =>
      match Document.valueWithin? room d, Document.items? room ds with
      | some v, some vs => some (v :: vs)
      | _, _ => none

/-- The members of an object as written, repeated keys included. -/
def Document.members? (room : Nat) :
    List (List TextUnit × Document) → Option (List (String × Json))
  | [] => some []
  | (key, d) :: ds =>
      match stringOfUnits? key, Document.valueWithin? room d,
          Document.members? room ds with
      | some k, some v, some vs => some ((k, v) :: vs)
      | _, _, _ => none

end

/-- The number of levels to which arrays and objects may nest. -/
def maxNesting : Nat := 127

/-- The value of a document. -/
def Document.value? (d : Document) : Option Json :=
  d.valueWithin? maxNesting

/-- **A text that is one value.** -/
def read? (s : String) : Option Json :=
  (Document.read? s).bind Document.value?

end MaterialSearch.Json
