/-
  MaterialSearch.Query.Cursor
  ────────────────────────────────
  **WALKING OVER POSITIONS.**

  A cursor visits the positions `start`, `start + step`, `start + 2·step`,
  … below a bound.  The bound is the number of records, or less if the
  cursor was given one of its own.  Positions that would pass the greatest
  count stay there.

  Main definitions:
    * `Cursor`, `Cursor.between`, `Cursor.startingAt`
    * `Cursor.bound`, `Cursor.isExhausted`, `Cursor.remaining`
    * `Cursor.advance`, `Cursor.skipTo`, `Cursor.halt`, `Cursor.rewind`
-/
import MaterialSearch.Numeric.Capped

namespace MaterialSearch

open Numeric

/-- The state of a walk over positions. -/
structure Cursor where
  /-- The next position to visit. -/
  position : UInt64
  /-- The first position. -/
  start : UInt64
  /-- The first position not to visit; the number of records if none. -/
  stop : Option UInt64
  /-- The distance between visited positions. -/
  step : UInt64
  /-- Whether the walk was broken off. -/
  halted : Bool
  deriving Repr, DecidableEq

namespace Cursor

/-- A walk from `start` up to `stop`; a step of zero counts as one. -/
def between (start : UInt64) (stop : Option UInt64) (step : UInt64) : Cursor :=
  ⟨start, start, stop, max step 1, false⟩

/-- A walk over all positions from `position` on. -/
def startingAt (position : UInt64) : Cursor := between position none 1

/-- The first position not to visit in a result of `total` records. -/
def bound (c : Cursor) (total : UInt64) : UInt64 :=
  match c.stop with
  | some stop => min stop total
  | none => total

/-- Whether no position is left. -/
def isExhausted (c : Cursor) (total : UInt64) : Bool :=
  c.halted || decide (c.bound total ≤ c.position)

/-- The number of positions left. -/
def remaining (c : Cursor) (total : UInt64) : UInt64 :=
  if c.isExhausted total then 0 else divUp (c.bound total - c.position) c.step

/-- One step on. -/
def advance (c : Cursor) : Cursor :=
  { c with position := addCapped c.position c.step }

/-- On by whole steps to the first position that is `boundary` or past it. -/
def skipTo (c : Cursor) (boundary : UInt64) : Cursor :=
  if c.position < boundary then
    -- The same positions are visited as by single steps.
    let steps := divUp (boundary - c.position) c.step
    { c with position := addCapped c.position (mulCapped steps c.step) }
  else c

/-- The walk broken off until the next rewind. -/
def halt (c : Cursor) : Cursor := { c with halted := true }

/-- Back at the start. -/
def rewind (c : Cursor) : Cursor := { c with position := c.start, halted := false }

/-! ## Examples. -/

example : (between 5 (some 40) 1).remaining 912 = 35 := by decide
example : (between 0 (some 10) 3).remaining 912 = 4 := by decide
example : ((between 0 none 3).skipTo 10).position = 12 := by decide

end Cursor

/-! ## Ranges. -/

/-- One end of a range of positions. -/
inductive RangeEnd where
  | unbounded
  | included (n : UInt64)
  | excluded (n : UInt64)
  deriving Repr, DecidableEq

/-- The first position of a range with this lower end. -/
def RangeEnd.first : RangeEnd → UInt64
  | .unbounded => 0
  | .included n => n
  | .excluded n => addCapped n 1

/-- The first position past a range with this upper end. -/
def RangeEnd.limit : RangeEnd → Option UInt64
  | .unbounded => none
  | .included n => some (addCapped n 1)
  | .excluded n => some n

end MaterialSearch
