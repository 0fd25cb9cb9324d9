/-
  MaterialSearch.Keyword.Field
  ────────────────────────────────
  **KEYWORDS.**

  A keyword is one searchable property of a material: its name in search
  terms and records, the form in which records write its values, and what
  the schema says about it.

  Main definitions:
    * `Wire`   — the forms in which values are written
    * `Kind`   — the kinds of value that the forms stand for
    * `Status` — how many entries have the keyword
    * `Field`  — a keyword
-/

namespace MaterialSearch.Keyword

/-! ## §1. Forms and kinds of values. -/

/-- The form in which records write the values of a keyword. -/
inductive Wire where
  /-- One text. -/
  | string
  /-- Texts with commas between them. -/
  | strings
  /-- One number. -/
  | number
  /-- Numbers with commas between them, all of the kind of the first. -/
  | numbers
  /-- The same for the components of a vector. -/
  | vector
  /-- Rows with semicolons between them, of floats with commas between
  them. -/
  | matrix
  /-- Two grids, a path of points and a number of samples, with semicolons
  between them. -/
  | kpoints
  deriving Repr, DecidableEq

/-- The kind of value that a form stands for. -/
inductive Kind where
  | text
  | textList
  | number
  | numberList
  | vector
  | matrix
  | kpoints
  deriving Repr, DecidableEq

/-- The kind that a form stands for. -/
def Wire.kind : Wire → Kind
  | .string => .text
  | .strings => .textList
  | .number => .number
  | .numbers => .numberList
  | .vector => .vector
  | .matrix => .matrix
  | .kpoints => .kpoints

/-- The name of a form in the schema. -/
def Wire.name : Wire → String
  | .string => "string"
  | .strings => "strings"
  | .number => "number"
  | .numbers => "numbers"
  | .vector => "vector"
  | .matrix => "matrix"
  | .kpoints => "kpoints"

/-! ## §2. Keywords. -/

/-- Which entries have a keyword. -/
inductive Status where
  /-- All. -/
  | mandatory
  /-- Those whose calculation produced it. -/
  | optional
  /-- Those of some kinds, such as whole projects. -/
  | conditional
  deriving Repr, DecidableEq

/-- A keyword: one searchable property of a material. -/
structure Field where
  /-- The name in search terms and records. -/
  name : String
  /-- The form of its values in records. -/
  wire : Wire
  status : Status
  /-- The physical unit; empty for a pure number. -/
  units : String
  /-- What the keyword means, in a few words. -/
  title : String
  deriving Repr, DecidableEq

/-- The kind of value that a keyword has. -/
def Field.kind (f : Field) : Kind := f.wire.kind

end MaterialSearch.Keyword
