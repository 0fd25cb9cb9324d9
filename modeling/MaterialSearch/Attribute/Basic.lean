/-
  MaterialSearch.Attribute.Basic
  ────────────────────────────────
  **THE VALUES OF KEYWORDS.**

  Main definitions:
    * `BandPath`  — the sampling of a calculation in reciprocal space
    * `Attribute` — the value of a keyword in a record
    * `Attribute.text?`, `Attribute.number?` — views of one kind
    * `Attribute.HasKind` — a value is of the kind that a keyword declares
-/
import MaterialSearch.Json.Basic
import MaterialSearch.Keyword.Field

namespace MaterialSearch

open Numeric Keyword

/-- The sampling of a calculation in reciprocal space. -/
structure BandPath where
  /-- The grid of the relaxation. -/
  relaxation : List Number
  /-- The grid of the static run. -/
  static : List Number
  /-- The symmetry points along the path of the band structure. -/
  points : List String
  /-- The number of samples along the path, if the record tells it. -/
  samples : Option UInt32
  deriving Repr, DecidableEq

/-- The value of a keyword in a record. -/
inductive Attribute where
  /-- Missing, or written in a way that its form does not allow. -/
  | missing
  | text (s : String)
  | texts (items : List String)
  | number (n : Number)
  | numbers (items : List Number)
  | matrix (rows : List (List Float))
  | kpoints (path : BandPath)
  /-- The value of an unknown keyword, as it was received. -/
  | raw (value : Json)
  deriving Repr, DecidableEq

namespace Attribute

/-- The text, if the value is one. -/
def text? : Attribute → Option String
  | .text s => some s
  | .raw (.str s) => some s
  | _ => none

/-- The number, if the value is one. -/
def number? : Attribute → Option Number
  | .number n => some n
  | _ => none

/-- The texts, if the value is a list of them. -/
def texts? : Attribute → Option (List String)
  | .texts items => some items
  | _ => none

/-- The value is of a kind.  The components of a vector are a list of
numbers. -/
def HasKind : Attribute → Kind → Prop
  | .text _, .text => True
  | .texts _, .textList => True
  | .number _, .number => True
  | .numbers _, .numberList => True
  | .numbers _, .vector => True
  | .matrix _, .matrix => True
  | .kpoints _, .kpoints => True
  | _, _ => False

end Attribute

end MaterialSearch
