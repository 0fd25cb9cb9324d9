/-
  MaterialSearch.Query.Matchbook
  ────────────────────────────────
  **THE SEARCH TERMS OF A QUERY.**

  The terms are collected while the query is open and then written down
  once, as the matchbook:

      matchbook := [order ','] select* ',' filter* ',' ('$' exclude)*

  The server sorts by the first keyword of the matchbook, so the keyword
  to sort by always comes first and is not selected a second time.

  Main definitions:
    * `Terms`, `Edit`, `Terms.apply` — terms and how they are added
    * `Matchbook`, `Matchbook.text`  — the terms written down
    * `Terms.matchbook`              — the matchbook, if every filter has one
-/
import MaterialSearch.Keyword.Sorting
import MaterialSearch.Predicate.Expression

namespace MaterialSearch

open Keyword Predicate

/-! ## §1. Collecting terms. -/

/-- The terms of a query that is still open. -/
structure Terms where
  /-- Predicates that every record must satisfy, in order. -/
  filters : List Expression
  /-- Keywords that records must show, in order. -/
  selects : List Field
  /-- Keywords that records must not show, in order. -/
  excludes : List Field
  /-- What the results are sorted by. -/
  sorting : Option Sorting
  deriving Repr, DecidableEq

/-- No terms. -/
def Terms.empty : Terms := ⟨[], [], [], none⟩

/-- The direction of the results; ascending without a keyword to sort by. -/
def Terms.direction (t : Terms) : Direction :=
  match t.sorting with
  | some s => s.direction
  | none => .ascending

/-- A change of the terms. -/
inductive Edit where
  /-- One more predicate. -/
  | filter (e : Expression)
  /-- More keywords to show. -/
  | select (fs : List Field)
  /-- More keywords not to show. -/
  | exclude (fs : List Field)
  /-- Another keyword to sort by. -/
  | orderBy (s : Sorting)
  deriving Repr, DecidableEq

/-- The kinds of change. -/
inductive EditKind where
  | filter
  | select
  | exclude
  | orderBy
  deriving Repr, DecidableEq

/-- The kind of a change. -/
def Edit.kind : Edit → EditKind
  | .filter _ => .filter
  | .select _ => .select
  | .exclude _ => .exclude
  | .orderBy _ => .orderBy

/-- The name of a kind in messages. -/
def EditKind.name : EditKind → String
  | .filter => "filter"
  | .select => "select"
  | .exclude => "exclude"
  | .orderBy => "orderby"

/-- **The terms after a change.**  The keyword to sort by is never among
the selected ones. -/
def Terms.apply (t : Terms) : Edit → Terms
  | .filter e => { t with filters := t.filters ++ [e] }
  | .select fs =>
      { t with
        selects := t.selects ++ fs.filter fun f => some f ≠ t.sorting.map Sorting.field }
  | .exclude fs => { t with excludes := t.excludes ++ fs }
  | .orderBy s =>
      { t with
        sorting := some s
        selects := t.selects.filter fun f => f ≠ s.field }

/-! ## §2. The matchbook. -/

/-- The terms of a query written down. -/
structure Matchbook where
  /-- The keyword to sort by. -/
  order : Option String
  direction : Direction
  selects : List String
  filters : List String
  excludes : List String
  deriving Repr, DecidableEq

/-- The parts of a matchbook in the order in which they are written. -/
def Matchbook.parts (m : Matchbook) : List String :=
  m.order.toList ++ m.selects ++ m.filters ++ m.excludes.map fun name => "$" ++ name

/-- **The text of a matchbook.** -/
def Matchbook.text (m : Matchbook) : String := ",".intercalate m.parts

/-- The search terms of expressions, or the error of the first that has
none. -/
def renderAll : List Expression → Except PredicateError (List String)
  | [] => .ok []
  | e :: es =>
      match e.render with
      | .error cause => .error cause
      | .ok term =>
          match renderAll es with
          | .error cause => .error cause
          | .ok terms => .ok (term :: terms)

/-- **The matchbook of the terms**, if every filter has a search term. -/
def Terms.matchbook (t : Terms) : Except PredicateError Matchbook :=
  match renderAll t.filters with
  | .error cause => .error cause
  | .ok filters =>
      .ok
        { order := t.sorting.map fun s => s.field.name
          direction := t.direction
          selects := t.selects.map Field.name
          filters := filters
          excludes := t.excludes.map Field.name }

end MaterialSearch
