/-
  MaterialSearch.Numeric.Number
  ────────────────────────────────
  **NUMBERS OF THE DATABASE AND THEIR TEXT.**

  A whole number that fits stays whole: signed with 64 bits if possible,
  unsigned above that.  Everything with a fraction or a power of ten is a
  float.

  Two texts of floats are in use.  A search term and an answer show a float
  without an exponent, however long that is, and a whole float without a
  fraction.  A JSON document keeps the fraction of a whole float and goes
  over to an exponent outside `10^-5 ≤ |x| < 10^16`.  A table column shows a
  float with a fixed number of places.

  Main definitions:
    * `Style`            — the decisions in which the two texts differ
    * `Style.plain`, `Style.json`
    * `floatText`        — a float in a style
    * `fixedText`        — a float with fixed places
    * `Number`           — the three kinds of numbers
    * `Number.toFloat`   — the float nearest to the number
    * `Number.isInteger` — whether it is kept whole
    * `Number.text`      — how search terms and answers write it
-/
import MaterialSearch.Numeric.Parts
import MaterialSearch.Numeric.Shortest

namespace MaterialSearch.Numeric

/-! ## §1. Laying digits out. -/

/-- The decimals `digits · 10^exponent` without an exponent. -/
def positional (digits : List Char) (exponent : Int) : List Char :=
  if 0 ≤ exponent then digits ++ List.replicate exponent.toNat '0'
  else
    let places := (-exponent).toNat
    let whole := digits.length - places
    if 0 < whole then digits.take whole ++ '.' :: digits.drop whole
    else '0' :: '.' :: (List.replicate (places - digits.length) '0' ++ digits)

/-- The decimals `digits · 10^exponent` with one digit before the point and
a signed exponent. -/
def exponential (digits : List Char) (exponent : Int) : List Char :=
  let power := (digits.length : Int) - 1 + exponent
  let sign := if power < 0 then '-' else '+'
  let body := if digits.length ≤ 1 then digits
    else digits.take 1 ++ '.' :: digits.drop 1
  body ++ 'e' :: sign :: Nat.toDigits 10 power.natAbs

/-! ## §2. Styles. -/

/-- The decisions of a text form. -/
structure Style where
  /-- Which of two equally near shortest decimals is shown. -/
  tie : Tie
  /-- Whether the point may stand after this many digits; before the first
  digit the count is zero or negative. -/
  showsPoint : Int → Bool
  /-- What a whole number ends in. -/
  wholeEnd : String

/-- The text of search terms and answers: never an exponent, no fraction
when whole. -/
def Style.plain : Style where
  tie := .up
  showsPoint := fun _ => true
  wholeEnd := ""

/-- The text of JSON documents: an exponent outside `10^-5 ≤ |x| < 10^16`,
and always a fraction or an exponent. -/
def Style.json : Style where
  tie := .even
  showsPoint := fun p => decide (-5 < p) && decide (p ≤ 16)
  wholeEnd := ".0"

/-- The text of a decimal in a style. -/
def Style.decimal (style : Style) (d : Decimal) : String :=
  let digits := Nat.toDigits 10 d.digits
  if style.showsPoint ((digits.length : Int) + d.exponent) then
    String.ofList (positional digits d.exponent)
      ++ (if 0 ≤ d.exponent then style.wholeEnd else "")
  else String.ofList (exponential digits d.exponent)

/-- A minus sign for negative numbers. -/
def signText (negative : Bool) : String := if negative then "-" else ""

/-- **A float in a style**: its shortest digits, laid out. -/
def floatText (style : Style) (x : Float) : String :=
  match partsOf x with
  | .undefined => "NaN"
  | .infinite negative => signText negative ++ "inf"
  | .finite negative 0 _ => signText negative ++ "0" ++ style.wholeEnd
  | .finite negative mantissa exponent =>
      signText negative ++ style.decimal (shortest style.tie mantissa exponent)

/-! ## §3. Fixed places. -/

/-- A whole number of units `10^-places`, with its point. -/
def fixedDigits (places n : Nat) : List Char :=
  let digits := Nat.toDigits 10 n
  let padded := List.replicate (places + 1 - digits.length) '0' ++ digits
  padded.take (padded.length - places)
    ++ (if places = 0 then [] else '.' :: padded.drop (padded.length - places))

/-- **A float with a fixed number of places**: its exact value rounded to
the nearest, a half to the even neighbour. -/
def fixedText (places : Nat) (x : Float) : String :=
  match partsOf x with
  | .undefined => "NaN"
  | .infinite negative => signText negative ++ "inf"
  | .finite negative mantissa exponent =>
      let num := mantissa * Nat.pow 2 exponent.toNat * Nat.pow 10 places
      let den := Nat.pow 2 (-exponent).toNat
      signText negative ++ String.ofList (fixedDigits places (roundDiv .even num den))

/-! ## §4. Numbers. -/

/-- A number as a search term compares with it or a record holds it. -/
inductive Number where
  /-- A signed whole number. -/
  | int (n : Int64)
  /-- An unsigned whole number, used where the signed kind is too small. -/
  | nat (n : UInt64)
  /-- Any other number. -/
  | float (x : Float)
  deriving Repr, DecidableEq

/-- The nearest float; whole numbers beyond `2^53` lose digits. -/
def Number.toFloat : Number → Float
  | .int n => n.toFloat
  | .nat n => n.toFloat
  | .float x => x

/-- Whether the number is kept whole. -/
def Number.isInteger : Number → Bool
  | .float _ => false
  | _ => true

/-- The number in decimal, a float without an exponent. -/
def Number.text : Number → String
  | .int n => toString n.toInt
  | .nat n => toString n.toNat
  | .float x => floatText .plain x

/-! ## §5. Examples. -/

example : positional ['1', '2', '5'] (-2) = "1.25".toList := by decide
example : positional ['1', '2', '5'] (-5) = "0.00125".toList := by decide
example : positional ['6'] 2 = "600".toList := by decide
example : exponential ['1', '5'] 299 = "1.5e+300".toList := by decide
example : exponential ['1'] (-10) = "1e-10".toList := by decide
example : fixedDigits 3 5 = "0.005".toList := by decide

end MaterialSearch.Numeric
