/-
  MaterialSearch.Entry.Glob
  ────────────────────────────────
  **FILE NAME PATTERNS.**

  In a pattern `*` stands for any characters, `?` for one, and brackets for
  one character of a set, or after an exclamation mark for one that is not in
  it; everything else stands for itself.  A closing bracket is a member when
  it comes first.  A bracket that is never closed stands for itself.

  A pattern is carried out as a regular expression.  What has a meaning in
  the expression but none in the pattern gets a backslash; between brackets
  the operators and ranges of the expression are left as they are.

  Main definitions:
    * `Glob.closing?`    — where brackets are closed
    * `Glob.write`       — a pattern as a regular expression
    * `Glob.matcher?`    — the expression, read
-/
import MaterialSearch.Entry.Matcher

namespace MaterialSearch

namespace Glob

/-- A character that stands for itself. -/
def escape (c : Char) : List Char := if isMeta c then ['\\', c] else [c]

/-- A character between brackets. -/
def escapeMember (c : Char) : List Char :=
  if c = '\\' ∨ c = '[' ∨ c = ']' ∨ c = '^' then ['\\', c] else [c]

/-- Where the first closing bracket stands in a text.  One at the start is
not looked at. -/
def firstClosing? : List Char → Option Nat
  | ']' :: cs => (cs.findIdx? (· = ']')).map (1 + ·)
  | cs => cs.findIdx? (· = ']')

/-- **Where the brackets are closed** in the text after the opening one. -/
def closing? : List Char → Option Nat
  | '!' :: cs => (firstClosing? cs).map (1 + ·)
  | cs => firstClosing? cs

/-- The set of a pattern, from what stands between the brackets. -/
def writeSet : List Char → List Char
  | '!' :: body => '[' :: '^' :: body.flatMap escapeMember ++ [']']
  | body => '[' :: body.flatMap escapeMember ++ [']']

/-- **A pattern as a regular expression**, without the marks of its start
and its end. -/
def write : List Char → List Char
  | [] => []
  | '*' :: cs => '.' :: '*' :: write cs
  | '?' :: cs => '.' :: write cs
  | '[' :: cs =>
      match closing? cs with
      | some closing => writeSet (cs.take closing) ++ write (cs.drop (closing + 1))
      | none => '\\' :: '[' :: write cs
  | c :: cs => escape c ++ write cs
termination_by cs => cs.length

/-- The regular expression of a pattern. -/
def expression (pattern : List Char) : List Char := '^' :: write pattern ++ ['$']

/-- **The pattern, ready for matching.** -/
def matcher? (pattern : List Char) : Option Matcher := Matcher.read? (expression pattern)

example : expression "a.[!]^]?".toList = "^a\\.[^\\]\\^].$".toList := by decide +kernel
example : (matcher? "*.relax?".toList).map (·.accepts "CONTCAR.relax2".toList) = some true := by
  decide +kernel
example : (matcher? "a[!0-9]".toList).map (·.accepts "a7".toList) = some false := by
  decide +kernel
example : (matcher? "a[".toList).map (·.accepts "a[".toList) = some true := by
  decide +kernel
example : (matcher? "[z-a]".toList).map (·.accepts "b".toList) = none := by
  decide +kernel

end Glob

end MaterialSearch
