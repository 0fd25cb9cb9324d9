/-
  MaterialSearch.Predicate.Negation
  ────────────────────────────────
  **NEGATION BY A MARK.**

  Negation works on the text of an expression.  A fragment that has
  exclamation marks loses them all; one that has none gets one, after its
  first opening parenthesis or, without any, in front.  Apostrophes switch
  quoting on and off, and what is quoted is not looked at.

  An expression over several keywords is a row of terms `name(fragment)`
  with `,` or `:` between them, and each of its fragments is toggled.

  Main definitions:
    * `toggle`            — one fragment
    * `terms`, `rejoin`   — a row of terms and its text
    * `negateTerms`       — a row of terms
    * `Expression.negate` — an expression
-/
import MaterialSearch.Predicate.Expression

namespace MaterialSearch.Predicate

/-! ## §1. One fragment. -/

/-- Whether the text after `c` is quoted, if `c` itself was reached in the
state `quoted`. -/
def quotedAfter (quoted : Bool) (c : Char) : Bool :=
  if c = '\'' then !quoted else quoted

/-- Whether a mark stands outside quotes. -/
def hasMark (quoted : Bool) : List Char → Bool
  | [] => false
  | c :: cs => (!quoted && c == '!') || hasMark (quotedAfter quoted c) cs

/-- The text without the marks outside quotes. -/
def dropMarks (quoted : Bool) : List Char → List Char
  | [] => []
  | c :: cs =>
      if !quoted && c == '!' then dropMarks (quotedAfter quoted c) cs
      else c :: dropMarks (quotedAfter quoted c) cs

/-- The text with a mark after the first parenthesis that opens outside
quotes, if there is one. -/
def markOpening? (quoted : Bool) : List Char → Option (List Char)
  | [] => none
  | c :: cs =>
      if !quoted && c == '(' then some ('(' :: '!' :: cs)
      else (markOpening? (quotedAfter quoted c) cs).map (c :: ·)

/-- **A fragment with its mark toggled.** -/
def toggle (cs : List Char) : List Char :=
  if hasMark false cs then dropMarks false cs
  else (markOpening? false cs).getD ('!' :: cs)

/-! ## §2. A row of terms. -/

/-- A separator between terms. -/
def isSeparator (c : Char) : Bool := c == ',' || c == ':'

/-- The first term of a row and, for each further one, the separator
before it.  Only a separator outside quotes and parentheses counts; a
closing parenthesis too many is passed over. -/
def terms (quoted : Bool) (depth : Nat) :
    List Char → List Char × List (Char × List Char)
  | [] => ([], [])
  | c :: cs =>
      if !quoted && depth == 0 && isSeparator c then
        -- The term before the separator is complete, and a new one begins.
        let row := terms quoted depth cs
        ([], (c, row.1) :: row.2)
      else
        let deeper :=
          if !quoted && c == '(' then depth + 1
          else if !quoted && c == ')' then depth - 1
          else depth
        let row := terms (quotedAfter quoted c) deeper cs
        (c :: row.1, row.2)

/-- The text of a row of terms. -/
def rejoin (row : List Char × List (Char × List Char)) : List Char :=
  row.1 ++ row.2.flatMap fun t => t.1 :: t.2

/-- A term with its fragment toggled.  The fragment stands between the
first opening parenthesis and a closing one at the end; a text without
them is a fragment as a whole. -/
def negateTerm (cs : List Char) : List Char :=
  match cs.dropWhile (· ≠ '('), cs.getLast? with
  | _ :: rest, some ')' =>
      cs.takeWhile (· ≠ '(') ++ '(' :: (toggle rest.dropLast ++ [')'])
  | _, _ => toggle cs

/-- **A row of terms, each negated.** -/
def negateTerms (cs : List Char) : List Char :=
  let row := terms false 0 cs
  rejoin (negateTerm row.1, row.2.map fun t => (t.1, negateTerm t.2))

/-! ## §3. Expressions. -/

/-- **The negated expression.**  Only one text can be negated. -/
def Expression.negate (e : Expression) : Except PredicateError Expression :=
  match e.pending, e.resolved with
  | [p], [] => .ok { e with pending := [String.ofList (toggle p.toList)] }
  | [], [r] =>
      -- With one keyword the text is a bare fragment and its separators
      -- stand between comparisons, which are negated together.
      let negated :=
        if 1 < e.keywords.length then negateTerms r.toList else toggle r.toList
      .ok { e with resolved := [String.ofList negated] }
  | _, _ => .error (e.malformed .negate)

/-! ## §4. Laws. -/

/-- Cutting a text into terms loses nothing. -/
theorem rejoin_terms (quoted : Bool) (depth : Nat) (cs : List Char) :
    rejoin (terms quoted depth cs) = cs := by
  induction cs generalizing quoted depth with
  | nil => rfl
  | cons c cs ih =>
    simp only [terms]
    split
    · have := ih quoted depth
      simp only [rejoin] at this ⊢
      simp [this]
    · next h =>
      have := ih (quotedAfter quoted c)
        (if (!quoted && c == '(') = true then depth + 1
          else if (!quoted && c == ')') = true then depth - 1 else depth)
      simp only [rejoin, List.cons_append] at this ⊢
      exact congrArg (c :: ·) this

/-! ## §5. Examples. -/

example : toggle "!*6".toList = "*6".toList := by decide
example : toggle "5:(0*,*2)".toList = "5:(!0*,*2)".toList := by decide
example : toggle "'Si!'".toList = "!'Si!'".toList := by decide
example : negateTerms "Egap(!*6),PV_cell(13*)".toList
    = "Egap(*6),PV_cell(!13*)".toList := by decide
example : negateTerms "species('a,b'):Egap(1)".toList
    = "species(!'a,b'):Egap(!1)".toList := by decide

end MaterialSearch.Predicate
