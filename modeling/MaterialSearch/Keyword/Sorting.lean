/-
  MaterialSearch.Keyword.Sorting
  ────────────────────────────────
  **THE ORDER OF RESULTS.**

  Results are sorted by one keyword.  The direction is not part of the
  search terms: the server reads it off the sign of the page number.

  Main definitions:
    * `Direction` — ascending or descending, with its sign
    * `Sorting`   — a keyword and a direction
-/
import MaterialSearch.Keyword.Field

namespace MaterialSearch.Keyword

/-- The direction of sorting. -/
inductive Direction where
  /-- Least first; pages have positive numbers. -/
  | ascending
  /-- Greatest first; pages have negative numbers. -/
  | descending
  deriving Repr, DecidableEq

/-- The direction for a flag that asks for the reverse order. -/
def Direction.ofReverse (reverse : Bool) : Direction :=
  if reverse then .descending else .ascending

/-- The sign of page numbers. -/
def Direction.sign : Direction → Int64
  | .ascending => 1
  | .descending => -1

/-- The short name of a direction. -/
def Direction.name : Direction → String
  | .ascending => "asc"
  | .descending => "desc"

/-- The keyword to sort by and the direction. -/
structure Sorting where
  field : Field
  direction : Direction
  deriving Repr, DecidableEq

/-- Sorting by a keyword, least first. -/
def Sorting.ascending (f : Field) : Sorting := ⟨f, .ascending⟩

/-- Sorting by a keyword, greatest first. -/
def Sorting.descending (f : Field) : Sorting := ⟨f, .descending⟩

end MaterialSearch.Keyword
