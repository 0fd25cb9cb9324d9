/-
  MaterialSearch.Numeric.Shortest
  ────────────────────────────────
  **THE FEWEST DIGITS THAT READ BACK AS THE SAME FLOAT.**

  The reals that round to a float form an interval around it.  Among the
  grids `10^g` the coarsest one with a point in that interval gives the
  fewest digits, and the point of that grid nearest to the float gives the
  digits.  Only the two neighbours of the float on a grid can matter.

  Everything is exact: both sides of a comparison are scaled to whole
  numbers.

  Main definitions:
    * `Decimal`  — the number `digits · 10^exponent`
    * `Tie`      — which of two equally near points is taken
    * `shortest` — the decimal chosen for `mantissa · 2^exponent`
    * `roundDiv` — a quotient rounded to the nearest whole number
-/

namespace MaterialSearch.Numeric

/-! ## §1. Decimals and ties. -/

/-- The number `digits · 10^exponent`. -/
structure Decimal where
  digits : Nat
  exponent : Int
  deriving Repr, DecidableEq

/-- The choice between two points at the same distance. -/
inductive Tie where
  /-- The greater of the two. -/
  | up
  /-- The even one of the two. -/
  | even
  deriving Repr, DecidableEq

/-- The quotient `num / den` rounded to the nearest whole number. -/
def roundDiv (tie : Tie) (num den : Nat) : Nat :=
  let low := num / den
  let twice := 2 * (num % den)
  if twice < den then low
  else if den < twice then low + 1
  else
    match tie with
    | .up => low + 1
    | .even => if low % 2 = 0 then low else low + 1

/-! ## §2. The interval of a float on a grid. -/

/-- The float, the ends of the interval of reals that round to it, and one
step of a grid, all on one whole scale. -/
structure Window where
  low : Nat
  value : Nat
  high : Nat
  step : Nat
  closed : Bool

/-- The window of `mantissa · 2^exponent` on the grid `10^g`.  The ends lie
half-way to the neighbouring floats; the lower neighbour of a power of two
is only half as far away.  The ends round to the float when its mantissa
is even. -/
def Window.make (mantissa : Nat) (exponent g : Int) : Window :=
  -- The factor 4 makes the half-way points whole, the powers all the rest.
  let scale := Nat.pow 2 exponent.toNat * Nat.pow 10 (-g).toNat
  let below := if mantissa = 0x10000000000000 ∧ exponent ≠ -1074 then 1 else 2
  { low := (4 * mantissa - below) * scale
    value := 4 * mantissa * scale
    high := (4 * mantissa + 2) * scale
    step := 4 * (Nat.pow 2 (-exponent).toNat * Nat.pow 10 g.toNat)
    closed := mantissa % 2 == 0 }

/-- The `n`-th point of the grid rounds to the float. -/
def Window.holds (w : Window) (n : Nat) : Bool :=
  if w.closed then
    decide (w.low ≤ n * w.step) && decide (n * w.step ≤ w.high)
  else
    decide (w.low < n * w.step) && decide (n * w.step < w.high)

/-- The point of the grid to take, when one of the float's two neighbours
on it rounds to the float: the nearer one of those that do. -/
def Window.pick? (tie : Tie) (w : Window) : Option Nat :=
  let n := w.value / w.step
  match w.holds n, w.holds (n + 1) with
  | true, true => some (roundDiv tie w.value w.step)
  | true, false => some n
  | false, true => some (n + 1)
  | false, false => none

/-! ## §3. The coarsest grid. -/

/-- The decimal on the coarsest of the grids `10^(g + k)`, …, `10^g`. -/
def coarsest (tie : Tie) (mantissa : Nat) (exponent g : Int) : Nat → Decimal
  | 0 => ⟨(Window.make mantissa exponent g).value
            / (Window.make mantissa exponent g).step, g⟩
  | k + 1 =>
      match (Window.make mantissa exponent (g + (k + 1))).pick? tie with
      | some n => ⟨n, g + (k + 1)⟩
      | none => coarsest tie mantissa exponent g k

/-- **The fewest digits** for the positive float `mantissa · 2^exponent`.
No float needs a grid finer than `10^-324`, the order of the least one, and
none is as great as `10^309`. -/
def shortest (tie : Tie) (mantissa : Nat) (exponent : Int) : Decimal :=
  coarsest tie mantissa exponent (-325) (325 + 309)

end MaterialSearch.Numeric
