/-
  MaterialSearch.Query.Walk
  ────────────────────────────────
  **READING RESULTS.**

  Records are read one at a time at the position of the cursor; the page
  that holds the record is requested unless it is in the store.  A page
  that cannot be had is reported once, and the cursor goes on behind it.
  Without the number of records nothing can be read, and the walk is
  broken off.  Where the number of a page or the place where it ends does
  not fit in 64 bits, the program itself breaks off.

  Main definitions:
    * `Search.recordAt` — the record at a position
    * `Search.pageEnd?` — where the page of a position ends
    * `Search.next`     — the record at the cursor, which moves on
    * `Search.get`, `Search.slice` — by a copy of the query
    * `Search.sizeHint` — how many records are still to come
-/
import MaterialSearch.Query.Basic

namespace MaterialSearch.Search

open Numeric

/-! ## §1. Single records. -/

/-- The record under a key of a page, as an entry. -/
def entryAt? (page : Page) (key : String) : Option Entry :=
  match page.lookup key with
  | some (.obj record) => some (Entry.ofRecord record)
  | _ => none

/-- The record at a slot of the store. -/
def stored (slot : Slot) (s : Search) : Except QueryError Entry :=
  let key := slot.key s.query.pageSize (s.cache.total.getD 0)
  match (s.cache.page? slot.page).bind fun page => entryAt? page key with
  | some entry => .ok entry
  | none => .error (.missingRecord key slot.page)

/-- **The record at a position**; its page is requested if need be. -/
def recordAt (t : Transport) (position : UInt64) (s : Search) :
    Except QueryError Entry × Search :=
  match Slot.locate? position s.query.pageSize s.query.direction with
  | none => (.error .overflow, s)
  | some slot =>
      if s.cache.contains slot.page then (stored slot s, s)
      else
        match s.fetchPage t slot.page with
        | (.error e, s) => (.error e, s)
        | (.ok _, s) => (stored slot s, s)

/-! ## §2. The walk. -/

/-- The search with its cursor changed. -/
def moveCursor (move : Cursor → Cursor) (s : Search) : Search :=
  { s with query := { s.query with cursor := move s.query.cursor } }

/-- The first position behind the page that holds a position, if it fits
in 64 bits. -/
def pageEnd? (position k : UInt64) : Option UInt64 :=
  (addChecked? (position / k) 1).bind fun n => mulChecked? n k

/-- How the cursor moves on after a record was read, or was not: behind
the page if that cannot be had, one step otherwise; none where the program
breaks off. -/
def stepOver? (k : UInt64) (outcome : Except QueryError Entry) (c : Cursor) : Option Cursor :=
  match outcome with
  | .error (.fetch _) => (pageEnd? c.position k).map c.skipTo
  | .error .overflow => none
  | _ => some c.advance

/-- What is answered for a record, with the cursor moved on. -/
def goOn (outcome : Except QueryError Entry) (s : Search) : Except QueryError Entry × Search :=
  match stepOver? s.query.pageSize outcome s.query.cursor with
  | some c => (outcome, s.moveCursor fun _ => c)
  | none => (.error .overflow, s)

/-- **The record at the cursor**, or `none` at the end. -/
def next (t : Transport) (s : Search) : Option (Except QueryError Entry) × Search :=
  -- A walk that is over in every result asks for nothing.
  if s.query.cursor.isExhausted maxCount then (none, s)
  else
    match s.length t with
    -- Without a total there is no telling where the walk ends.
    | (.error e, s) => (some (.error e), s.moveCursor Cursor.halt)
    | (.ok total, s) =>
        if s.query.cursor.isExhausted total then (none, s)
        else
          match s.recordAt t s.query.cursor.position with
          | (outcome, s) =>
              let r := s.goOn outcome
              (some r.1, r.2)

/-- The cursor back at its start. -/
def rewind (s : Search) : Search := s.moveCursor Cursor.rewind

/-- How many records are still to come, at least and at most. -/
def sizeHint (s : Search) : UInt64 × Option UInt64 :=
  match s.cache.total with
  | some total =>
      if s.query.isFinal then
        (s.query.cursor.remaining total, some (s.query.cursor.remaining total))
      else (0, none)
  | none => (0, none)

/-! ## §3. Copies. -/

/-- A copy of the query with a cursor of its own; it has the same terms,
written down, and shares the store. -/
def fork (c : Cursor) (s : Search) : Except QueryError Query × Search :=
  match s.finalize with
  | (.error e, s) => (.error e, s)
  | (.ok _, s) => (.ok { s.query with cursor := c }, s)

/-- **The record at an index**, or `none` past the end.  A copy reads it,
so that the cursor stays where it is. -/
def get (t : Transport) (index : UInt64) (s : Search) :
    Except QueryError (Option Entry) × Search :=
  match s.fork (Cursor.startingAt index) with
  | (.error e, s) => (.error e, s)
  | (.ok copy, s) =>
      match Search.next t { s with query := copy } with
      | (outcome, after) =>
          -- The copy is given up; the pages it received are kept.
          let s := { after with query := s.query }
          match outcome with
          | none => (.ok none, s)
          | some (.ok entry) => (.ok (some entry), s)
          | some (.error e) => (.error e, s)

/-- **A copy that walks over a range** by steps. -/
def slice (lower upper : RangeEnd) (step : UInt64) (s : Search) :
    Except QueryError Query × Search :=
  s.fork (Cursor.between lower.first upper.limit step)

end MaterialSearch.Search
