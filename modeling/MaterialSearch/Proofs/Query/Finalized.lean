/-
  MaterialSearch.Proofs.Query.Finalized
  ────────────────────────────────
  **WHAT THE OPERATIONS DO ONCE THE TERMS ARE WRITTEN DOWN.**

  Every reading operation first writes the terms down.  So an operation on
  a query whose terms have a matchbook is the operation on the same query
  with that matchbook, and on the latter each operation has one equation:
  which request it makes, what it stores, and what it answers.

  Main definitions:
    * `Search.fixed`  — the search with its terms written down
    * `Search.asked`  — the search after one more request
    * `Search.answer` — what the transport has for a page at this moment

  Main results:
    * `finalize_ok`, `finalize_final`, `direction_eq`
    * `fetchPage_fixed`, `insertPage_fixed`, `length_fixed`, `next_fixed`,
      `get_fixed`, `fork_fixed` — writing the terms down beforehand changes nothing
    * `fork_ok`, `get_ok`, `fork_moveCursor`, `get_moveCursor` — what copies are
    * `pageUrl_error`, `fetchPage_error`, `insertPage_error`, `length_error`,
      `isEmpty_error` — the operations without a matchbook
    * `fetchPage_missed`, `fetchPage_answered`, `length_known`, `length_fetched`,
      `next_known`, `next_unknown` — the operations on a query with a matchbook
-/
import MaterialSearch.Proofs.Query.Positions
import MaterialSearch.Query.Family

namespace MaterialSearch

open Keyword Numeric

/-! ## §1. Queries with a matchbook. -/

namespace Query

/-- A copy of a query, its terms written down, with a cursor of its own. -/
def copyAt (q : Query) (book : Matchbook) (c : Cursor) : Query := { q.fix book with cursor := c }

theorem fix_eq_self {q : Query} {book : Matchbook} (h : q.stage = .final book) :
    q.fix book = q := by
  obtain ⟨config, stage, cursor⟩ := q
  subst h
  rfl

theorem matchbook_of_final {q : Query} {book : Matchbook} (h : q.stage = .final book) :
    q.matchbook = .ok book := by
  unfold matchbook
  rw [h]

/-- The direction is written down with the terms. -/
theorem direction_eq {q : Query} {book : Matchbook} (h : q.matchbook = .ok book) :
    q.direction = book.direction := by
  unfold matchbook at h
  unfold direction
  cases hs : q.stage with
  | final b =>
      rw [hs] at h
      injection h with h
      rw [h]
  | collecting terms =>
      rw [hs] at h
      simp only [Terms.matchbook] at h
      split at h
      · exact absurd h (by simp)
      · injection h with h
        rw [← h]

theorem pageSize_pos (q : Query) : 0 < q.pageSize.toNat := by
  have h1 : (1 : UInt64).toNat = 1 := rfl
  show 0 < (max q.config.batchSize 1).toNat
  rw [toNat_max]
  omega

end Query

namespace Search

/-- The search with its terms written down. -/
def fixed (book : Matchbook) (s : Search) : Search := { s with query := s.query.fix book }

/-- A copy at the store of the query. -/
def copied (book : Matchbook) (c : Cursor) (s : Search) : Search :=
  { s with query := s.query.copyAt book c }

/-- What the answer of a step says about the record at an index. -/
def indexed : Option (Except QueryError Entry) → Except QueryError (Option Entry)
  | none => .ok none
  | some (.ok entry) => .ok (some entry)
  | some (.error e) => .error e

/-- The search after one more request. -/
def asked (book : Matchbook) (p : Int64) (s : Search) : Search :=
  { s with log := s.log ++ [s.query.urlFor book p] }

/-- What the transport has for a page at this moment. -/
def answer (t : Transport) (book : Matchbook) (p : Int64) (s : Search) : Except FetchError Page :=
  Transport.pageOf (s.query.urlFor book p) (t.answer s.log (s.query.urlFor book p))

variable {t : Transport} {s : Search} {book : Matchbook}

@[simp] theorem stage_fixed : (s.fixed book).query.stage = .final book := rfl

@[simp] theorem cache_asked (p : Int64) : (s.asked book p).cache = s.cache := rfl

theorem fixed_eq_self (h : s.query.stage = .final book) : s.fixed book = s := by
  unfold fixed
  rw [Query.fix_eq_self h]

theorem finalize_ok (h : s.query.matchbook = .ok book) :
    s.finalize = (.ok book, s.fixed book) := by
  unfold finalize
  rw [h]
  rfl

theorem finalize_error {cause : Predicate.PredicateError} (h : s.query.matchbook = .error cause) :
    s.finalize = (.error (.predicate cause), s) := by
  unfold finalize
  rw [h]

theorem finalize_final (h : s.query.stage = .final book) : s.finalize = (.ok book, s) := by
  rw [finalize_ok (Query.matchbook_of_final h), fixed_eq_self h]

/-! ## §2. Writing the terms down beforehand. -/

theorem finalize_fixed (h : s.query.matchbook = .ok book) :
    s.finalize = (s.fixed book).finalize := by
  rw [finalize_ok h, finalize_final stage_fixed]

theorem pageUrl_fixed (h : s.query.matchbook = .ok book) (p : Int64) :
    s.pageUrl p = (s.fixed book).pageUrl p := by
  unfold pageUrl
  rw [finalize_fixed h]

theorem fetchPage_fixed (h : s.query.matchbook = .ok book) (p : Int64) :
    s.fetchPage t p = (s.fixed book).fetchPage t p := by
  unfold fetchPage
  rw [pageUrl_fixed h]

theorem insertPage_fixed (h : s.query.matchbook = .ok book) (p : Int64) (body : Page) :
    s.insertPage p body = (s.fixed book).insertPage p body := by
  unfold insertPage
  rw [pageUrl_fixed h]

theorem length_fixed (h : s.query.matchbook = .ok book) :
    s.length t = (s.fixed book).length t := by
  unfold length
  rw [finalize_fixed h]

theorem isEmpty_fixed (h : s.query.matchbook = .ok book) :
    s.isEmpty t = (s.fixed book).isEmpty t := by
  unfold isEmpty
  rw [length_fixed h]

theorem fork_fixed (h : s.query.matchbook = .ok book) (c : Cursor) :
    s.fork c = (s.fixed book).fork c := by
  unfold fork
  rw [finalize_fixed h]

theorem get_fixed (h : s.query.matchbook = .ok book) (index : UInt64) :
    s.get t index = (s.fixed book).get t index := by
  unfold get
  rw [fork_fixed h]

/-- **A copy** is made without a request and leaves the cursor alone. -/
theorem fork_ok (h : s.query.matchbook = .ok book) (c : Cursor) :
    s.fork c = (.ok (s.query.copyAt book c), s.fixed book) := by
  unfold fork
  rw [finalize_ok h]
  rfl

theorem fork_error {cause : Predicate.PredicateError} (h : s.query.matchbook = .error cause)
    (c : Cursor) : s.fork c = (.error (.predicate cause), s) := by
  unfold fork
  rw [finalize_error h]

theorem get_error {cause : Predicate.PredicateError} (h : s.query.matchbook = .error cause)
    (index : UInt64) : s.get t index = (.error (.predicate cause), s) := by
  unfold get
  rw [fork_error h]

/-! Without a search term for every filter no operation gets any further. -/

section Unwritten

variable {cause : Predicate.PredicateError}

theorem pageUrl_error (h : s.query.matchbook = .error cause) (p : Int64) :
    s.pageUrl p = (.error (.predicate cause), s) := by
  unfold pageUrl
  rw [finalize_error h]

theorem fetchPage_error (h : s.query.matchbook = .error cause) (p : Int64) :
    s.fetchPage t p = (.error (.predicate cause), s) := by
  unfold fetchPage
  rw [pageUrl_error h]

theorem insertPage_error (h : s.query.matchbook = .error cause) (p : Int64) (body : Page) :
    s.insertPage p body = (.error (.predicate cause), s) := by
  unfold insertPage
  rw [pageUrl_error h]

theorem length_error (h : s.query.matchbook = .error cause) :
    s.length t = (.error (.predicate cause), s) := by
  unfold length
  rw [finalize_error h]

theorem isEmpty_error (h : s.query.matchbook = .error cause) :
    s.isEmpty t = (.error (.predicate cause), s) := by
  unfold isEmpty
  rw [length_error h]

end Unwritten

/-- **The record at an index** is what a copy that starts there finds first. -/
theorem get_ok (h : s.query.matchbook = .ok book) (index : UInt64) :
    s.get t index = (indexed ((s.copied book (Cursor.startingAt index)).next t).1,
      { ((s.copied book (Cursor.startingAt index)).next t).2 with query := s.query.fix book }) := by
  unfold get
  rw [fork_ok h]
  have hcopy : ({ s.fixed book with query := s.query.copyAt book (Cursor.startingAt index) }
      : Search) = s.copied book (Cursor.startingAt index) := rfl
  dsimp only
  rw [hcopy]
  generalize (s.copied book (Cursor.startingAt index)).next t = found
  obtain ⟨outcome, after⟩ := found
  cases outcome with
  | none => rfl
  | some answer => cases answer <;> rfl

/-- **Copies are made alike wherever the cursor is**, which stays there. -/
theorem fork_moveCursor (move : Cursor → Cursor) (c : Cursor) :
    (s.moveCursor move).fork c = ((s.fork c).1, (s.fork c).2.moveCursor move) := by
  cases hbook : s.query.matchbook with
  | error cause =>
      rw [fork_error hbook, fork_error (show (s.moveCursor move).query.matchbook = _ from hbook)]
  | ok book =>
      rw [fork_ok hbook, fork_ok (show (s.moveCursor move).query.matchbook = _ from hbook)]
      rfl

/-- **An index is read alike wherever the cursor is**, which stays there. -/
theorem get_moveCursor (t : Transport) (move : Cursor → Cursor) (index : UInt64) :
    (s.moveCursor move).get t index = ((s.get t index).1, (s.get t index).2.moveCursor move) := by
  cases hbook : s.query.matchbook with
  | error cause =>
      rw [get_error hbook, get_error (show (s.moveCursor move).query.matchbook = _ from hbook)]
  | ok book =>
      rw [get_ok hbook, get_ok (show (s.moveCursor move).query.matchbook = _ from hbook)]
      rfl

/-- The walk that is over at once is the one operation that leaves the
terms as they are. -/
theorem next_fixed (h : s.query.matchbook = .ok book) :
    s.next t = if s.query.cursor.isExhausted maxCount then (none, s)
      else (s.fixed book).next t := by
  unfold next
  rw [length_fixed h]
  split
  · rfl
  · next hc =>
    rw [if_neg (show ¬(s.fixed book).query.cursor.isExhausted maxCount = true from hc)]

/-! ## §3. The operations on a query with a matchbook. -/

theorem pageUrl_final (h : s.query.stage = .final book) (p : Int64) :
    s.pageUrl p = (.ok (s.query.urlFor book p), s) := by
  unfold pageUrl
  rw [finalize_final h]

theorem askPage_eq (p : Int64) :
    t.askPage (s.query.urlFor book p) s.log
      = (s.answer t book p, s.log ++ [s.query.urlFor book p]) := rfl

/-- **One page requested** in vain: the request is logged, and that is all. -/
theorem fetchPage_missed {p : Int64} {e : FetchError} (h : s.query.stage = .final book)
    (hanswer : s.answer t book p = .error e) :
    s.fetchPage t p = (.error (.fetch e), s.asked book p) := by
  unfold fetchPage
  rw [pageUrl_final h]
  simp only [askPage_eq, hanswer]
  rfl

/-- **One page requested** that arrives: it is stored if it can be. -/
theorem fetchPage_answered {p : Int64} {body : Page} (h : s.query.stage = .final book)
    (hanswer : s.answer t book p = .ok body) :
    s.fetchPage t p = storePage p body (s.query.urlFor book p) (s.asked book p) := by
  unfold fetchPage
  rw [pageUrl_final h]
  simp only [askPage_eq, hanswer]
  rfl

theorem storePage_ok {p : Int64} {body : Page} {url : String} {c : PageCache}
    (hstore : s.cache.store p body url = .ok c) :
    s.storePage p body url = (.ok (), { s with cache := c }) := by
  unfold storePage
  rw [hstore]

theorem storePage_error {p : Int64} {body : Page} {url : String} {e : FetchError}
    (hstore : s.cache.store p body url = .error e) :
    s.storePage p body url = (.error (.fetch e), s) := by
  unfold storePage
  rw [hstore]

theorem insertPage_final (h : s.query.stage = .final book) (p : Int64) (body : Page) :
    s.insertPage p body = storePage p body (s.query.urlFor book p) s := by
  unfold insertPage
  rw [pageUrl_final h]

theorem length_known (h : s.query.stage = .final book) {N : UInt64}
    (hN : s.cache.total = some N) : s.length t = (.ok N, s) := by
  unfold length
  rw [finalize_final h]
  simp only [hN]

theorem length_failed {e : QueryError} {s' : Search} (h : s.query.stage = .final book)
    (hN : s.cache.total = none)
    (hfetch : s.fetchPage t book.direction.sign = (.error e, s')) :
    s.length t = (.error e, s') := by
  unfold length
  rw [finalize_final h]
  simp only [hN, Query.direction_eq (Query.matchbook_of_final h), hfetch]

theorem length_fetched {N : UInt64} {s' : Search} (h : s.query.stage = .final book)
    (hN : s.cache.total = none)
    (hfetch : s.fetchPage t book.direction.sign = (.ok (), s')) (hN' : s'.cache.total = some N) :
    s.length t = (.ok N, s') := by
  unfold length
  rw [finalize_final h]
  simp only [hN, Query.direction_eq (Query.matchbook_of_final h), hfetch, hN', Option.getD_some]

/-- A walk that is over in every result asks for nothing. -/
theorem next_over (hmax : s.query.cursor.isExhausted maxCount = true) :
    s.next t = (none, s) := by
  unfold next
  rw [hmax]
  rfl

/-- A step is broken off when the number of records cannot be had. -/
theorem next_of_length_error {s' : Search} {e : QueryError} (hlen : s.length t = (.error e, s'))
    (hmax : s.query.cursor.isExhausted maxCount = false) :
    s.next t = (some (.error e), s'.moveCursor Cursor.halt) := by
  unfold next
  rw [hlen, hmax]
  rfl

/-- A record is answered as it is where the cursor can go on. -/
theorem goOn_of_some {outcome : Except QueryError Entry} {c : Cursor}
    (h : stepOver? s.query.pageSize outcome s.query.cursor = some c) :
    s.goOn outcome = (outcome, s.moveCursor fun _ => c) := by
  unfold goOn
  rw [h]

/-- Where the cursor cannot go on the program breaks off. -/
theorem goOn_of_none {outcome : Except QueryError Entry}
    (h : stepOver? s.query.pageSize outcome s.query.cursor = none) :
    s.goOn outcome = (.error .overflow, s) := by
  unfold goOn
  rw [h]

/-- A record is answered and the cursor goes on, or the program breaks off. -/
theorem goOn_cases (outcome : Except QueryError Entry) (s : Search) :
    (∃ c, stepOver? s.query.pageSize outcome s.query.cursor = some c
        ∧ s.goOn outcome = (outcome, s.moveCursor fun _ => c))
      ∨ (stepOver? s.query.pageSize outcome s.query.cursor = none
        ∧ s.goOn outcome = (.error .overflow, s)) := by
  cases hstep : stepOver? s.query.pageSize outcome s.query.cursor with
  | none => exact .inr ⟨rfl, goOn_of_none hstep⟩
  | some c => exact .inl ⟨c, rfl, goOn_of_some hstep⟩

/-- Nothing but the cursor is changed. -/
theorem snd_goOn (outcome : Except QueryError Entry) (s : Search) :
    ∃ c, (s.goOn outcome).2 = s.moveCursor fun _ => c := by
  rcases goOn_cases outcome s with ⟨c, -, h⟩ | ⟨-, h⟩
  · exact ⟨c, by rw [h]⟩
  · exact ⟨s.query.cursor, by rw [h]; rfl⟩

/-- **A step of a walk** whose number of records is known. -/
theorem next_known (h : s.query.stage = .final book) {N : UInt64}
    (hN : s.cache.total = some N) :
    s.next t = if s.query.cursor.isExhausted N then (none, s)
      else match s.recordAt t s.query.cursor.position with
        | (outcome, s) => (some (s.goOn outcome).1, (s.goOn outcome).2) := by
  unfold next
  rw [length_known h hN]
  split
  · next hmax => rw [if_pos (Cursor.isExhausted_mono (Cursor.le_maxCount N) hmax)]
  · rfl

/-- **A step of a walk** whose number of records is not known yet: once the
first page has told it, the step goes on as any other. -/
theorem next_unknown {s' : Search} {N : UInt64} (hlen : s.length t = (.ok N, s'))
    (h' : s'.query.stage = .final book) (hN : s'.cache.total = some N)
    (hc : s.query.cursor.isExhausted maxCount = false) : s.next t = s'.next t := by
  rw [next_known h' hN]
  unfold next
  rw [hlen, hc]
  rfl

end Search

end MaterialSearch
