/-
  MaterialSearch.Predicate.Operand
  ────────────────────────────────
  **WHAT A KEYWORD IS COMPARED WITH, AND HOW.**

  A comparison is written without the keyword it is about: `*v` means up
  to `v`, `v*` means from `v`, and an exclamation mark in front turns the
  meaning round.  There are no strict ranges, so "below `v`" is "not from
  `v`".  A text stands between apostrophes and is not changed otherwise.

  Main definitions:
    * `Operand`             — a text, a number or a truth value
    * `Operand.text`        — how it is written
    * `Comparison`          — the seven comparisons
    * `Comparison.fragment` — a comparison with its operand
-/
import MaterialSearch.Numeric.Number

namespace MaterialSearch.Predicate

open MaterialSearch.Numeric

/-! ## §1. Operands. -/

/-- What a keyword is compared with. -/
inductive Operand where
  | text (s : String)
  | number (n : Number)
  | bool (b : Bool)
  deriving Repr, DecidableEq

/-- Whether the operand is a text. -/
def Operand.isText : Operand → Bool
  | .text _ => true
  | _ => false

/-- The number, if the operand is one. -/
def Operand.number? : Operand → Option Number
  | .number n => some n
  | _ => none

/-- The operand as search terms write it: a text between apostrophes. -/
def Operand.written : Operand → String
  | .text s => "'" ++ s ++ "'"
  | .number n => n.text
  | .bool b => if b then "true" else "false"

/-! ## §2. Comparisons. -/

/-- How a keyword is compared with an operand. -/
inductive Comparison where
  /-- Exactly the operand. -/
  | eq
  /-- Anything else. -/
  | ne
  /-- Below the operand. -/
  | lt
  /-- Above the operand. -/
  | gt
  /-- Up to the operand. -/
  | le
  /-- From the operand on. -/
  | ge
  /-- A text with the operand in it. -/
  | contains
  deriving Repr, DecidableEq

/-- The short name of a comparison. -/
def Comparison.name : Comparison → String
  | .eq => "eq"
  | .ne => "ne"
  | .lt => "lt"
  | .gt => "gt"
  | .le => "le"
  | .ge => "ge"
  | .contains => "contains"

/-- What stands before the operand. -/
def Comparison.before : Comparison → String
  | .eq | .ge => ""
  | .ne | .lt => "!"
  | .gt => "!*"
  | .le | .contains => "*"

/-- What stands after the operand. -/
def Comparison.after : Comparison → String
  | .eq | .ne | .gt | .le => ""
  | .lt | .ge | .contains => "*"

/-- **A comparison with its operand**, not yet bound to a keyword. -/
def Comparison.fragment (c : Comparison) (v : Operand) : String :=
  c.before ++ v.written ++ c.after

/-! ## §3. Examples. -/

example : Comparison.gt.fragment (.number (.int 6)) = "!*6" := by decide
example : Comparison.lt.fragment (.text "Si") = "!'Si'*" := by decide
example : Comparison.contains.fragment (.text "Si") = "*'Si'*" := by decide

end MaterialSearch.Predicate
