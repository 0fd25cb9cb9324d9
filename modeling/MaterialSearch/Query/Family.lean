/-
  MaterialSearch.Query.Family
  ────────────────────────────────
  **A QUERY AND ITS COPIES.**

  A query and all copies made of it share one store of pages and one log
  of requests.  A family is all of them together; each is known by its
  place, the first query by zero.

  Main definitions:
    * `Action`, `Outcome` — what can be done with a query, and the answer
    * `Search.perform`    — an action on one query
    * `Family`, `Family.perform` — an action on one query of a family
    * `Family.run`        — one action after the other
-/
import MaterialSearch.Query.Walk

namespace MaterialSearch

open Predicate

/-! ## §1. Actions. -/

/-- What can be done with a query. -/
inductive Action where
  | edit (change : Edit)
  | finalize
  | pageUrl (page : Int64)
  | fetchPage (page : Int64)
  | insertPage (page : Int64) (body : Page)
  | length
  | isEmpty
  | next
  | get (index : UInt64)
  | slice (lower upper : RangeEnd) (step : UInt64)
  | rewind
  deriving Repr, DecidableEq

/-- What a query answers. -/
inductive Outcome where
  | done
  | failed (cause : QueryError)
  | book (m : Matchbook)
  | url (address : String)
  | count (n : UInt64)
  | flag (b : Bool)
  /-- A record, or none at the end. -/
  | record (entry : Option Entry)
  /-- A copy, which has been given a place. -/
  | copied (place : Nat)
  deriving Repr, DecidableEq

/-- The answer to an action that may fail. -/
def Outcome.ofResult {α : Type} (answer : α → Outcome) : Except QueryError α → Outcome
  | .ok a => answer a
  | .error e => .failed e

/-- The answer of a walk. -/
def Outcome.ofNext : Option (Except QueryError Entry) → Outcome
  | none => .record none
  | some (.ok entry) => .record (some entry)
  | some (.error e) => .failed e

/-- An action on one query: the answer, the search after it, and the copy
that was made, if any.  A copy is answered with the place it will have. -/
def Search.perform (t : Transport) (place : Nat) (s : Search) :
    Action → Outcome × Search × Option Query
  | .edit change =>
      let r := s.edit change
      (.ofResult (fun _ => .done) r.1, r.2, none)
  | .finalize =>
      let r := s.finalize
      (.ofResult .book r.1, r.2, none)
  | .pageUrl page =>
      let r := s.pageUrl page
      (.ofResult .url r.1, r.2, none)
  | .fetchPage page =>
      let r := s.fetchPage t page
      (.ofResult (fun _ => .done) r.1, r.2, none)
  | .insertPage page body =>
      let r := s.insertPage page body
      (.ofResult (fun _ => .done) r.1, r.2, none)
  | .length =>
      let r := s.length t
      (.ofResult .count r.1, r.2, none)
  | .isEmpty =>
      let r := s.isEmpty t
      (.ofResult .flag r.1, r.2, none)
  | .next =>
      let r := s.next t
      (.ofNext r.1, r.2, none)
  | .get index =>
      let r := s.get t index
      (.ofResult .record r.1, r.2, none)
  | .slice lower upper step =>
      let r := s.slice lower upper step
      (.ofResult (fun _ => .copied place) r.1, r.2, r.1.toOption)
  | .rewind => (.done, s.rewind, none)

/-! ## §2. Families. -/

/-- A query and all its copies. -/
structure Family where
  /-- The queries by their places. -/
  queries : List Query
  /-- The pages that they share. -/
  cache : PageCache
  /-- The requests that any of them made. -/
  log : RequestLog
  deriving Repr, DecidableEq

namespace Family

/-- A new query, alone. -/
def start (config : Config) : Family := ⟨[Query.ofConfig config], .empty, []⟩

/-- One query of the family at the shared store. -/
def search? (f : Family) (place : Nat) : Option Search :=
  f.queries[place]?.map fun q => ⟨q, f.cache, f.log⟩

/-- **An action on the query at a place**; nothing if there is none. -/
def perform (t : Transport) (place : Nat) (a : Action) (f : Family) :
    Option (Outcome × Family) :=
  (f.search? place).map fun s =>
    match s.perform t f.queries.length a with
    | (outcome, after, copy) =>
        (outcome,
          { queries := f.queries.set place after.query ++ copy.toList
            cache := after.cache
            log := after.log })

/-- Actions one after the other, with their answers; an action on a place
without a query is passed over. -/
def run (t : Transport) : List (Nat × Action) → Family → List Outcome × Family
  | [], f => ([], f)
  | (place, a) :: rest, f =>
      match f.perform t place a with
      | none => run t rest f
      | some (outcome, f) =>
          match run t rest f with
          | (outcomes, f) => (outcome :: outcomes, f)

end Family

end MaterialSearch
