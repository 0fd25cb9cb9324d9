/-
  MaterialSearch.Page.Slot
  ────────────────────────────────
  **WHERE A RECORD LIVES.**

  Records are counted from zero in the whole result and come in pages of
  `k`.  Page numbers start at one; their sign tells the direction.

  Main definitions:
    * `Slot`          — a page and a place on it
    * `Slot.locate`   — the slot of a position
    * `Slot.locate?`  — the same, unless there is an overflow on the way
    * `Slot.rank`     — the rank of a slot, counted from one
    * `Slot.key`      — the key of its record
-/
import MaterialSearch.Keyword.Sorting
import MaterialSearch.Numeric.Capped
import MaterialSearch.Page.Basic

namespace MaterialSearch

open Keyword Numeric

/-- A page and a place on it. -/
structure Slot where
  /-- The page, negative in descending order. -/
  page : Int64
  /-- The place, counted from zero. -/
  offset : UInt64
  deriving Repr, DecidableEq

namespace Slot

/-- The slot of a position in pages of `k` records; pages of no records
count as pages of one.  Its numbers are words: this is the slot that the
program works out as long as `locate?` finds one, which it does whenever
the number of the page is below `2^63`. -/
def locate (position k : UInt64) (d : Direction) : Slot :=
  let k := max k 1
  -- Positions count from zero and pages from one.
  { page := (position / k + 1).toInt64 * d.sign
    offset := position % k }

/-- **The slot as the program works it out**, or none where it breaks off:
the number of the page has to fit in 64 bits, and so has its product with
the sign.  Taken as a signed number in between it may change its sign. -/
def locate? (position k : UInt64) (d : Direction) : Option Slot :=
  let k := max k 1
  (addChecked? (position / k) 1).bind fun n =>
    (mulSigned? n.toInt64 d.sign).map fun page => ⟨page, position % k⟩

/-- The rank of the record in the whole result, counted from one.  In the
slot of a position it is always worked out without an overflow
(`toNat_rank_locate`). -/
def rank (s : Slot) (k : UInt64) : UInt64 :=
  max k 1 * (UInt64.ofNat s.page.toInt.natAbs - 1) + s.offset + 1

/-- The key of the record in a result of `total` records. -/
def key (s : Slot) (k total : UInt64) : String :=
  recordKey (s.rank k) total

example : locate 45 20 .descending = ⟨-3, 5⟩ := by decide
example : (locate 45 20 .descending).key 20 912 = "46 of 912" := by decide
example : locate? 45 20 .descending = some (locate 45 20 .descending) := by decide
-- The page of this number has no opposite.
example : locate? 9223372036854775807 1 .descending = none := by decide

end Slot

end MaterialSearch
