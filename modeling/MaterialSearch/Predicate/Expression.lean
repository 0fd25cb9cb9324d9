/-
  MaterialSearch.Predicate.Expression
  ────────────────────────────────
  **EXPRESSIONS OVER KEYWORDS.**

  An expression collects comparisons and combines them with and (`,`) and
  or (`:`).  It holds two kinds of text: pending fragments, which are
  comparisons not combined with anything yet, and resolved texts, which
  are complete.

  Two expressions on the same one keyword fold into one fragment:

      two pending            p₀ ∘ p₁
      pending and resolved   p ∘ (r)
      two resolved           (r₀) ∘ (r₁)

  Any other two are joined, each bound to its keyword first:
  `name(fragment)`.  Whatever holds more or fewer texts than that is
  refused, because the server answers a malformed term with wrong results
  and without an error.

  Main definitions:
    * `Connective`, `PredicateError`
    * `Expression` with `ofField`, `compare`, `combine`, `reset`
    * `Expression.render`  — the search term, or why there is none
    * `Expression.display` — a text for every expression
-/
import MaterialSearch.Keyword.Catalog
import MaterialSearch.Predicate.Operand

namespace MaterialSearch.Predicate

open MaterialSearch.Keyword

/-! ## §1. Connectives and errors. -/

/-- How two predicates are combined. -/
inductive Connective where
  | and
  | or
  deriving Repr, DecidableEq

/-- The character between two predicates. -/
def Connective.token : Connective → Char
  | .and => ','
  | .or => ':'

/-- What was attempted when an expression turned out malformed. -/
inductive Attempt where
  | combine (c : Connective)
  | negate
  | render
  deriving Repr, DecidableEq

/-- The name of an attempt in messages. -/
def Attempt.name : Attempt → String
  | .combine .and => "and"
  | .combine .or => "or"
  | .negate => "negate"
  | .render => "render"

/-- Why there is no search term. -/
inductive PredicateError where
  /-- The numbers of pending and resolved texts fit no rule. -/
  | malformed (attempt : Attempt) (pending resolved : Nat)
  /-- No keyword has this name. -/
  | unknownKeyword (name : String)
  deriving Repr, DecidableEq

/-- The message of an error. -/
def PredicateError.message : PredicateError → String
  | .malformed attempt pending resolved =>
      "inconsistent operators in " ++ attempt.name ++ ": " ++ toString pending
        ++ " pending and " ++ toString resolved
        ++ " resolved fragments; check your parenthesis"
  | .unknownKeyword name => "unknown keyword: " ++ name

/-- The keyword of exactly this name, or the error that there is none. -/
def findKeyword (name : String) : Except PredicateError Field :=
  match find? name with
  | some f => .ok f
  | none => .error (.unknownKeyword name)

/-! ## §2. Expressions. -/

/-- A predicate over one keyword or more, as far as it has been built. -/
structure Expression where
  /-- The names of the keywords, in ascending order and without
  repetition. -/
  keywords : List String
  /-- Comparisons not combined with anything yet, in order. -/
  pending : List String
  /-- Complete texts, in order. -/
  resolved : List String
  deriving Repr, DecidableEq

/-- A name put into an ascending list of names that holds each once. -/
def insertName (name : String) : List String → List String
  | [] => [name]
  | n :: ns =>
      if name < n then name :: n :: ns
      else if name = n then n :: ns
      else n :: insertName name ns

/-- The names of two such lists, as one. -/
def mergeNames (ms ns : List String) : List String :=
  ns.foldl (fun acc n => insertName n acc) ms

namespace Expression

/-- The empty expression on a keyword. -/
def ofField (f : Field) : Expression := ⟨[f.name], [], []⟩

/-- The keyword, if there is exactly one. -/
def single? (e : Expression) : Option String :=
  match e.keywords with
  | [name] => some name
  | _ => none

/-- Whether there is no text at all. -/
def isEmpty (e : Expression) : Bool :=
  e.pending.isEmpty && e.resolved.isEmpty

/-- The expression without its texts. -/
def reset (e : Expression) : Expression := { e with pending := [], resolved := [] }

/-- One more pending comparison. -/
def compare (e : Expression) (c : Comparison) (v : Operand) : Expression :=
  { e with pending := e.pending ++ [c.fragment v] }

/-! ## §3. Combining. -/

/-- The error that an attempt on these texts ends in. -/
def malformed (e : Expression) (attempt : Attempt) : PredicateError :=
  .malformed attempt e.pending.length e.resolved.length

/-- The only text that the expression holds. -/
def onlyText (e : Expression) (attempt : Attempt) : Except PredicateError String :=
  match e.pending, e.resolved with
  | [], [r] => .ok r
  | [p], [] => .ok p
  | _, _ => .error (e.malformed attempt)

/-- A text bound to the keyword of the expression; with several keywords
it is bound already. -/
def bound (e : Expression) (body : String) : String :=
  match e.single? with
  | some name => name ++ "(" ++ body ++ ")"
  | none => body

/-- The only text, bound to its keyword. -/
def wrapped (e : Expression) (attempt : Attempt) : Except PredicateError String :=
  (e.onlyText attempt).map e.bound

/-- Two expressions on the same keyword as one. -/
def fold (a b : Expression) (c : Connective) : Except PredicateError Expression :=
  let both : Expression := ⟨a.keywords, a.pending ++ b.pending, a.resolved ++ b.resolved⟩
  let token := String.singleton c.token
  match both.pending, both.resolved with
  | [p, q], [] => .ok ⟨a.keywords, [], [p ++ token ++ q]⟩
  -- A complete text may hold separators, so it goes into parentheses.
  | [p], [r] => .ok ⟨a.keywords, [], [p ++ token ++ "(" ++ r ++ ")"]⟩
  | [], [r, s] => .ok ⟨a.keywords, [], ["(" ++ r ++ ")" ++ token ++ "(" ++ s ++ ")"]⟩
  | _, _ => .error (both.malformed (.combine c))

/-- Two expressions, each bound to its keyword, side by side. -/
def join (a b : Expression) (c : Connective) : Except PredicateError Expression :=
  match a.wrapped (.combine c), b.wrapped (.combine c) with
  | .ok left, .ok right =>
      .ok ⟨mergeNames a.keywords b.keywords, [],
        [left ++ String.singleton c.token ++ right]⟩
  -- Of two offending sides the left one is reported.
  | .error e, _ => .error e
  | _, .error e => .error e

/-- **Two predicates as one**: folded when both are on the same single
keyword, joined otherwise. -/
def combine (a b : Expression) (c : Connective) : Except PredicateError Expression :=
  if a.keywords.length = 1 ∧ a.keywords = b.keywords then fold a b c else join a b c

/-! ## §4. Text. -/

/-- **The search term**; without any comparison it is the bare keyword. -/
def render (e : Expression) : Except PredicateError String :=
  if e.isEmpty then
    match e.single? with
    | some name => .ok name
    | none => .error (e.malformed .render)
  else e.wrapped .render

/-- A text for every expression: the search term where there is one body
to show, the names of the keywords otherwise. -/
def display (e : Expression) : String :=
  match e.pending, e.resolved with
  -- Pending texts beside a complete one are not shown.
  | _, [r] => e.bound r
  | [p], [] => e.bound p
  | _, _ => ",".intercalate e.keywords

end Expression

end MaterialSearch.Predicate
