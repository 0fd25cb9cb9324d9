/-
  MaterialSearch.Query.Basic
  ────────────────────────────────
  **QUERIES AND THEIR PAGES.**

  A query is open while its terms are collected.  The first reading of
  results writes the terms down; from then on they cannot be changed.  The
  pages received and the log of requests are not part of the query,
  because copies of a query share them.

  Main definitions:
    * `Query`, `Query.ofConfig`
    * `QueryError`  — why a query refuses or fails
    * `Search`      — a query at its store of pages and log of requests
    * `Search.edit`, `Search.finalize`, `Search.pageUrl`
    * `Search.fetchPage`, `Search.insertPage`, `Search.length`
-/
import MaterialSearch.Entry.Basic
import MaterialSearch.Page.Cache
import MaterialSearch.Page.Slot
import MaterialSearch.Query.Config
import MaterialSearch.Query.Cursor
import MaterialSearch.Query.Matchbook
import MaterialSearch.Transport.Basic
import MaterialSearch.Transport.Paging

namespace MaterialSearch

open Keyword Predicate

/-! ## §1. Queries. -/

/-- How far a query has come. -/
inductive Stage where
  /-- Its terms are being collected. -/
  | collecting (terms : Terms)
  /-- Its terms are written down. -/
  | final (book : Matchbook)
  deriving Repr, DecidableEq

/-- One search and one walk over its results. -/
structure Query where
  config : Config
  stage : Stage
  cursor : Cursor
  deriving Repr, DecidableEq

namespace Query

/-- An open query without terms. -/
def ofConfig (config : Config) : Query :=
  ⟨config, .collecting .empty, Cursor.startingAt 0⟩

/-- Whether the terms are written down. -/
def isFinal (q : Query) : Bool :=
  match q.stage with
  | .final _ => true
  | .collecting _ => false

/-- The direction of the results. -/
def direction (q : Query) : Direction :=
  match q.stage with
  | .final book => book.direction
  | .collecting terms => terms.direction

/-- The size of pages. -/
def pageSize (q : Query) : UInt64 := q.config.pageSize

/-- The terms written down: those that are, or those collected so far. -/
def matchbook (q : Query) : Except PredicateError Matchbook :=
  match q.stage with
  | .final book => .ok book
  | .collecting terms => terms.matchbook

/-- The query with its terms written down. -/
def fix (q : Query) (book : Matchbook) : Query := { q with stage := .final book }

/-- The address of a page, for the terms of a matchbook. -/
def urlFor (q : Query) (book : Matchbook) (page : Int64) : String :=
  q.config.server ++ book.text ++ ","
    ++ directives q.config.catalogs ⟨page, q.pageSize⟩

end Query

/-! ## §2. Errors. -/

/-- Why a query refuses or fails. -/
inductive QueryError where
  /-- A filter has no search term. -/
  | predicate (cause : PredicateError)
  /-- The terms are written down and cannot be changed. -/
  | finalized (kind : EditKind)
  /-- A page cannot be had. -/
  | fetch (cause : FetchError)
  /-- A page lacks the record that should be on it. -/
  | missingRecord (key : String) (page : Int64)
  /-- A number does not fit in 64 bits.  This is no error that is handed
  back: the program breaks off, with the query as it was. -/
  | overflow
  deriving Repr, DecidableEq

/-- The message of an error. -/
def QueryError.message : QueryError → String
  | .predicate cause => cause.message
  | .finalized kind => "query is finalized; \x60" ++ kind.name ++ "\x60 is no longer allowed"
  | .fetch cause => cause.message
  | .missingRecord key page =>
      "page " ++ toString page.toInt ++ " has no record " ++ Text.quoted key
  | .overflow => "attempt to multiply with overflow"

/-! ## §3. A query at its store. -/

/-- A query, the pages it shares with its copies, and the requests made. -/
structure Search where
  query : Query
  cache : PageCache
  log : RequestLog
  deriving Repr, DecidableEq

namespace Search

/-- A new query, nothing received and nothing requested. -/
def start (config : Config) : Search := ⟨Query.ofConfig config, .empty, []⟩

/-- **A change of the terms**, refused once they are written down. -/
def edit (change : Edit) (s : Search) : Except QueryError Unit × Search :=
  match s.query.stage with
  | .final _ => (.error (.finalized change.kind), s)
  | .collecting terms =>
      -- Another search may have another number of results.
      (.ok (),
        { s with
          query := { s.query with stage := .collecting (terms.apply change) }
          cache := s.cache.forgetTotal })

/-- **The terms written down**, from now on for good. -/
def finalize (s : Search) : Except QueryError Matchbook × Search :=
  match s.query.matchbook with
  | .error cause => (.error (.predicate cause), s)
  | .ok book => (.ok book, { s with query := s.query.fix book })

/-- The address of a page. -/
def pageUrl (page : Int64) (s : Search) : Except QueryError String × Search :=
  match s.finalize with
  | (.error e, s) => (.error e, s)
  | (.ok book, s) => (.ok (s.query.urlFor book page), s)

/-- A page put into the store as the response to an address. -/
def storePage (page : Int64) (body : Page) (url : String) (s : Search) :
    Except QueryError Unit × Search :=
  match s.cache.store page body url with
  | .error cause => (.error (.fetch cause), s)
  | .ok cache => (.ok (), { s with cache := cache })

/-- **A page requested** and put into the store. -/
def fetchPage (t : Transport) (page : Int64) (s : Search) :
    Except QueryError Unit × Search :=
  match s.pageUrl page with
  | (.error e, s) => (.error e, s)
  | (.ok url, s) =>
      match t.askPage url s.log with
      | (.error cause, log) => (.error (.fetch cause), { s with log := log })
      | (.ok body, log) => storePage page body url { s with log := log }

/-- **A page put into the store** as if it had been requested. -/
def insertPage (page : Int64) (body : Page) (s : Search) :
    Except QueryError Unit × Search :=
  match s.pageUrl page with
  | (.error e, s) => (.error e, s)
  | (.ok url, s) => storePage page body url s

/-- **The number of records**; the first page is requested if no page has
told it yet. -/
def length (t : Transport) (s : Search) : Except QueryError UInt64 × Search :=
  match s.finalize with
  | (.error e, s) => (.error e, s)
  | (.ok _, s) =>
      match s.cache.total with
      | some total => (.ok total, s)
      | none =>
          match s.fetchPage t s.query.direction.sign with
          | (.error e, s) => (.error e, s)
          | (.ok _, s) => (.ok (s.cache.total.getD 0), s)

/-- Whether there is no record. -/
def isEmpty (t : Transport) (s : Search) : Except QueryError Bool × Search :=
  match s.length t with
  | (.error e, s) => (.error e, s)
  | (.ok total, s) => (.ok (total == 0), s)

end Search

end MaterialSearch
