/-
  MaterialSearch.Proofs.Query.Steady
  ────────────────────────────────
  **WHAT A CURSOR SEES.**

  Over a steady transport the answer of a reading action is a function of
  the cursor alone: it makes no difference which pages are in the store,
  whether the number of records is known already, and what was requested
  before.  The store has only to agree with the transport, and every
  reading action leaves it so.

  Main definitions:
    * `Transport.viewAt`, `Transport.totalOf` — what a steady transport shows
    * `Search.Lined`     — a query whose store agrees with the transport
    * `Transport.nextAt` — the answer of a step as a function of the cursor
    * `Transport.reply`  — the answer of any reading action

  Main results:
    * `length_lined`, `next_lined`, `get_lined` — the reading operations
    * `perform_lined`    — a reading action answers as its cursor sees
-/
import MaterialSearch.Proofs.Query.Served

namespace MaterialSearch

open Keyword Numeric

/-! ## §1. What a steady transport shows. -/

namespace Transport

/-- The page that a steady transport has under a number. -/
def pageFor (t : Transport) (q : Query) (book : Matchbook) (p : Int64) : Except FetchError Page :=
  pageOf (q.urlFor book p) (t.answer [] (q.urlFor book p))

/-- What there is to see of a page. -/
def viewAt (t : Transport) (q : Query) (book : Matchbook) (p : Int64) : PageView :=
  Search.viewOf (t.pageFor q book p)

/-- The number of records, as the first page tells it. -/
def totalOf (t : Transport) (q : Query) (book : Matchbook) : Except FetchError UInt64 :=
  match t.pageFor q book book.direction.sign with
  | .error e => .error e
  | .ok body => body.total (q.urlFor book book.direction.sign)

theorem totalOf_of_missing {t : Transport} {q : Query} {book : Matchbook} {e : FetchError}
    (h : t.pageFor q book book.direction.sign = .error e) : t.totalOf q book = .error e := by
  unfold totalOf
  rw [h]

theorem totalOf_of_page {t : Transport} {q : Query} {book : Matchbook} {body : Page}
    (h : t.pageFor q book book.direction.sign = .ok body) :
    t.totalOf q book = body.total (q.urlFor book book.direction.sign) := by
  unfold totalOf
  rw [h]

theorem viewAt_of_page {t : Transport} {q : Query} {book : Matchbook} {p : Int64} {body : Page}
    (h : t.pageFor q book p = .ok body) : t.viewAt q book p = .ok (Search.entryAt? body) := by
  unfold viewAt
  rw [h]
  rfl

/-- What a steady transport has at a position. -/
def recordFor (t : Transport) (q : Query) (book : Matchbook) (N position : UInt64) :
    Except QueryError Entry :=
  match Slot.locate? position q.pageSize book.direction with
  | some slot => Search.recordIn (t.viewAt q book) q.pageSize N slot
  | none => .error .overflow

/-- **The answer of a step**, and the cursor after it. -/
def nextAt (t : Transport) (q : Query) (book : Matchbook) (c : Cursor) :
    Option (Except QueryError Entry) × Cursor :=
  if c.isExhausted maxCount then (none, c)
  else
    match t.totalOf q book with
    | .error e => (some (.error (.fetch e)), c.halt)
    | .ok N =>
        if c.isExhausted N then (none, c)
        else
          match Search.stepOver? q.pageSize (t.recordFor q book N c.position) c with
          | some c' => (some (t.recordFor q book N c.position), c')
          | none => (some (.error .overflow), c)

section NextAt

variable {t : Transport} {q : Query} {book : Matchbook} {c : Cursor} {N : UInt64}

theorem nextAt_over (hmax : c.isExhausted maxCount = true) : t.nextAt q book c = (none, c) := by
  unfold nextAt
  rw [if_pos hmax]

theorem nextAt_untold {e : FetchError} (hmax : c.isExhausted maxCount = false)
    (hN : t.totalOf q book = .error e) :
    t.nextAt q book c = (some (.error (.fetch e)), c.halt) := by
  unfold nextAt
  rw [hmax, hN]
  rfl

theorem nextAt_end (hmax : c.isExhausted maxCount = false) (hN : t.totalOf q book = .ok N)
    (hend : c.isExhausted N = true) : t.nextAt q book c = (none, c) := by
  unfold nextAt
  rw [hmax, hN]
  simp only [hend, Bool.false_eq_true, if_false, if_true]

theorem nextAt_item {c' : Cursor} (hmax : c.isExhausted maxCount = false)
    (hN : t.totalOf q book = .ok N) (hend : c.isExhausted N = false)
    (hstep : Search.stepOver? q.pageSize (t.recordFor q book N c.position) c = some c') :
    t.nextAt q book c = (some (t.recordFor q book N c.position), c') := by
  unfold nextAt
  rw [hmax, hN]
  simp only [hend, Bool.false_eq_true, if_false, hstep]

theorem nextAt_overflow (hmax : c.isExhausted maxCount = false) (hN : t.totalOf q book = .ok N)
    (hend : c.isExhausted N = false)
    (hstep : Search.stepOver? q.pageSize (t.recordFor q book N c.position) c = none) :
    t.nextAt q book c = (some (.error .overflow), c) := by
  unfold nextAt
  rw [hmax, hN]
  simp only [hend, Bool.false_eq_true, if_false, hstep]

end NextAt

end Transport

/-! ## §2. Queries whose store agrees with the transport. -/

/-- A query that differs from another in its cursor at most. -/
structure Query.Alike (q : Query) (book : Matchbook) (q' : Query) : Prop where
  config_eq : q'.config = q.config
  matchbook_eq : q'.matchbook = .ok book

/-- A store that agrees with a transport. -/
structure PageCache.Agrees (t : Transport) (q : Query) (book : Matchbook) (c : PageCache) :
    Prop where
  stored : ∀ p body, c.page? p = some body → t.viewAt q book p = .ok (Search.entryAt? body)
  total : ∀ N, c.total = some N → t.totalOf q book = .ok N

/-- **A query in line with the transport.** -/
structure Search.Lined (t : Transport) (q : Query) (book : Matchbook) (s : Search) : Prop where
  alike : q.Alike book s.query
  agrees : s.cache.Agrees t q book

section Lined

variable {t : Transport} {q q' : Query} {book : Matchbook} {s s' : Search}

theorem Query.Alike.urlFor_eq (h : q.Alike book q') : q'.urlFor = q.urlFor := by
  funext b p
  unfold Query.urlFor Query.pageSize
  rw [h.config_eq]

theorem Query.Alike.pageSize_eq (h : q.Alike book q') : q'.pageSize = q.pageSize :=
  congrArg Config.pageSize h.config_eq

theorem Query.Alike.fix (h : q.Alike book q') : q.Alike book (q'.fix book) :=
  ⟨h.config_eq, rfl⟩

theorem Query.Alike.copyAt (h : q.Alike book q') (c : Cursor) : q.Alike book (q'.copyAt book c) :=
  ⟨h.config_eq, rfl⟩

theorem PageCache.agrees_empty : PageCache.empty.Agrees t q book where
  stored := by
    intro p body h
    exact absurd h (by simp [PageCache.empty, PageCache.page?])
  total := by
    intro N h
    exact absurd h (by simp [PageCache.empty])

/-- Whenever it is asked, a steady transport answers as it did at first. -/
theorem answer_steady (ht : t.Steady) (h : q.Alike book s.query) (p : Int64) :
    s.answer t book p = t.pageFor q book p := by
  unfold Search.answer Transport.pageFor
  rw [h.urlFor_eq, ht s.log []]

/-- Store and transport show what the transport showed at first. -/
theorem Search.Lined.shows (ht : t.Steady) (h : s.Lined t q book) :
    s.Shows t book (fun _ => True) (t.viewAt q book) where
  stored := fun p _ => h.agrees.stored p
  served := by
    intro p _ _ log
    unfold Transport.viewAt Transport.pageFor
    rw [h.alike.urlFor_eq, ht log []]

theorem Search.Lined.of_shows (halike : q.Alike book s.query)
    (hshows : s.Shows t book (fun _ => True) (t.viewAt q book))
    (htotal : ∀ N, s.cache.total = some N → t.totalOf q book = .ok N) : s.Lined t q book where
  alike := halike
  agrees := ⟨fun p => hshows.stored p trivial, htotal⟩

theorem Search.Lined.fixed (h : s.Lined t q book) : (s.fixed book).Lined t q book :=
  ⟨h.alike.fix, h.agrees⟩

theorem Search.Lined.copied (h : s.Lined t q book) (c : Cursor) :
    (s.copied book c).Lined t q book :=
  ⟨h.alike.copyAt c, h.agrees⟩

theorem Search.Lined.moveCursor (h : s.Lined t q book) (move : Cursor → Cursor) :
    (s.moveCursor move).Lined t q book :=
  ⟨⟨h.alike.config_eq, h.alike.matchbook_eq⟩, h.agrees⟩

/-! ## §3. The reading operations. -/

/-- **The number of records** is what the first page tells, whoever asked
for it before. -/
theorem length_lined (ht : t.Steady) (h : s.Lined t q book) :
    ∃ s', s.length t = ((t.totalOf q book).mapError .fetch, s') ∧ s'.Lined t q book
      ∧ s'.query = s.query.fix book
      ∧ ∀ N, t.totalOf q book = .ok N → s'.cache.total = some N := by
  have hw : (s.fixed book).Lined t q book := h.fixed
  rw [Search.length_fixed h.alike.matchbook_eq]
  cases hN : s.cache.total with
  | some N =>
      -- Whoever learned the total learned it from the first page.
      have htotal : t.totalOf q book = .ok N := h.agrees.total N hN
      refine ⟨s.fixed book, ?_, hw, rfl, ?_⟩
      · rw [Search.length_known Search.stage_fixed hN, htotal]
        rfl
      · intro N' hN'
        rw [htotal] at hN'
        injection hN' with hN'
        rw [← hN']
        exact hN
  | none =>
      -- This query is the one that learns the total, or fails to.
      have hanswer := answer_steady ht hw.alike book.direction.sign
      cases hpage : t.pageFor q book book.direction.sign with
      | error e =>
          rw [hpage] at hanswer
          rw [Transport.totalOf_of_missing hpage]
          refine ⟨_, Search.length_unanswered Search.stage_fixed hN hanswer,
            ⟨hw.alike, hw.agrees⟩, rfl, ?_⟩
          intro N hno
          exact absurd hno (by simp)
      | ok body =>
          have htotal := Transport.totalOf_of_page hpage
          rw [hpage] at hanswer
          rw [← hw.alike.urlFor_eq] at htotal
          rw [htotal]
          cases hcount : body.total ((s.fixed book).query.urlFor book book.direction.sign) with
          | error e =>
              refine ⟨_, Search.length_untold Search.stage_fixed hN hanswer hcount,
                ⟨hw.alike, hw.agrees⟩, rfl, ?_⟩
              intro N hno
              exact absurd hno (by simp)
          | ok N =>
              refine ⟨_, Search.length_told Search.stage_fixed hN hanswer hcount, ?_, rfl, ?_⟩
              · have hshows := (hw.shows ht).received (N := N) (Transport.viewAt_of_page hpage)
                apply Search.Lined.of_shows _ hshows
                · intro N' hN'
                  injection hN' with hN'
                  rw [← hN', htotal, hcount]
                · exact hw.alike
              · intro N' hN'
                injection hN' with hN'
                rw [← hN']
                rfl

/-- A step that comes upon a position answers and moves on as its cursor sees. -/
theorem next_lined_item (ht : t.Steady) (h : s.Lined t q book) {c : Cursor} {N : UInt64}
    (hfinal : s.query.stage = .final book) (hsN : s.cache.total = some N)
    (hcursor : s.query.cursor = c) (hmax : c.isExhausted maxCount = false)
    (hN : t.totalOf q book = .ok N) (hend : c.isExhausted N = false) :
    ∃ s', s.next t = ((t.nextAt q book c).1, s') ∧ s'.Lined t q book
      ∧ s'.query.cursor = (t.nextAt q book c).2 := by
  subst hcursor
  have hsize := h.alike.pageSize_eq
  cases hslot : Slot.locate? s.query.cursor.position q.pageSize book.direction with
  | none =>
      -- The program breaks off before the page is looked at.
      have hrecord : t.recordFor q book N s.query.cursor.position = .error .overflow := by
        unfold Transport.recordFor
        rw [hslot]
      rw [Transport.nextAt_overflow hmax hN hend (by rw [hrecord]; rfl)]
      rw [← hsize] at hslot
      exact ⟨s, Search.next_unlocated hfinal hsN hend hslot, h, rfl⟩
  | some slot =>
      have hrecord : t.recordFor q book N s.query.cursor.position
          = Search.recordIn (t.viewAt q book) q.pageSize N slot := by
        unfold Transport.recordFor
        rw [hslot]
      rw [← hsize] at hslot
      obtain ⟨w, hnext, htook, hshows⟩ :=
        Search.next_shown hfinal hsN (h.shows ht) hend hslot trivial
      rw [hsize, ← hrecord] at hnext
      have hw : w.Lined t q book := by
        apply Search.Lined.of_shows _ hshows
        · rw [htook.total_eq]
          exact h.agrees.total
        · rw [htook.query_eq]
          exact h.alike
      have hquery : w.query.pageSize = q.pageSize ∧ w.query.cursor = s.query.cursor := by
        rw [htook.query_eq]
        exact ⟨hsize, rfl⟩
      cases hstep : Search.stepOver? q.pageSize
          (t.recordFor q book N s.query.cursor.position) s.query.cursor with
      | none =>
          rw [Transport.nextAt_overflow hmax hN hend hstep]
          rw [Search.goOn_of_none (by rw [hquery.1, hquery.2]; exact hstep)] at hnext
          exact ⟨w, hnext, hw, hquery.2⟩
      | some c' =>
          rw [Transport.nextAt_item hmax hN hend hstep]
          rw [Search.goOn_of_some (by rw [hquery.1, hquery.2]; exact hstep)] at hnext
          exact ⟨_, hnext, hw.moveCursor fun _ => c', rfl⟩

/-- **A step of a walk** answers and moves on as its cursor sees. -/
theorem next_lined (ht : t.Steady) (h : s.Lined t q book) :
    ∃ s', s.next t = ((t.nextAt q book s.query.cursor).1, s') ∧ s'.Lined t q book
      ∧ s'.query.cursor = (t.nextAt q book s.query.cursor).2 := by
  cases hmax : s.query.cursor.isExhausted maxCount with
  | true =>
      rw [Transport.nextAt_over hmax]
      exact ⟨s, Search.next_over hmax, h, rfl⟩
  | false =>
      obtain ⟨w, hlen, hw, hquery, htotal⟩ := length_lined ht h
      have hfinal : w.query.stage = .final book := by
        rw [hquery]
        rfl
      have hcursor : w.query.cursor = s.query.cursor := by
        rw [hquery]
        rfl
      cases hN : t.totalOf q book with
      | error e =>
          rw [Transport.nextAt_untold hmax hN]
          rw [hN] at hlen
          refine ⟨_, Search.next_of_length_error hlen hmax, hw.moveCursor _, ?_⟩
          show w.query.cursor.halt = s.query.cursor.halt
          rw [hcursor]
      | ok N =>
          rw [hN] at hlen
          -- With the total learned the step is one with the total known.
          have hwN := htotal N hN
          rw [Search.next_unknown hlen hfinal hwN hmax]
          cases hend : s.query.cursor.isExhausted N with
          | true =>
              rw [Transport.nextAt_end hmax hN hend]
              refine ⟨w, ?_, hw, hcursor⟩
              rw [Search.next_known hfinal hwN, hcursor, hend]
              rfl
          | false => exact next_lined_item ht hw hfinal hwN hcursor hmax hN hend

/-- **The record at an index** does not depend on the cursor. -/
theorem get_lined (ht : t.Steady) (h : s.Lined t q book) (index : UInt64) :
    ∃ s', s.get t index
        = (Search.indexed (t.nextAt q book (Cursor.startingAt index)).1, s') ∧ s'.Lined t q book
      ∧ s'.query.cursor = s.query.cursor := by
  obtain ⟨w, hnext, hw, -⟩ := next_lined ht (h.copied (Cursor.startingAt index))
  rw [Search.get_ok h.alike.matchbook_eq, hnext]
  exact ⟨_, rfl, ⟨h.alike.fix, hw.agrees⟩, rfl⟩

theorem isEmpty_lined (ht : t.Steady) (h : s.Lined t q book) :
    ∃ s', s.isEmpty t
        = (((t.totalOf q book).mapError .fetch).map fun N => N == 0, s') ∧ s'.Lined t q book
      ∧ s'.query.cursor = s.query.cursor := by
  obtain ⟨w, hlen, hw, hquery, -⟩ := length_lined ht h
  refine ⟨w, ?_, hw, by rw [hquery]; rfl⟩
  unfold Search.isEmpty
  rw [hlen]
  cases t.totalOf q book <;> rfl

/-! ## §4. Reading actions. -/

/-- Whether an action reads results; the others change the terms, or ask
for or hand in a page of a given number. -/
def Action.isReading : Action → Bool
  | .edit _ => false
  | .fetchPage _ => false
  | .insertPage _ _ => false
  | _ => true

/-- **The answer of a reading action** as its cursor sees, and the cursor
after it.  Which place a copy is given depends on what other copies there
are, and is left out. -/
def Transport.reply (t : Transport) (q : Query) (book : Matchbook) (c : Cursor) :
    Action → Outcome × Cursor
  | .finalize => (.book book, c)
  | .pageUrl page => (.url (q.urlFor book page), c)
  | .length => (.ofResult .count ((t.totalOf q book).mapError .fetch), c)
  | .isEmpty =>
      (.ofResult .flag (((t.totalOf q book).mapError .fetch).map fun N => N == 0), c)
  | .next => (.ofNext (t.nextAt q book c).1, (t.nextAt q book c).2)
  | .get index =>
      (.ofResult .record (Search.indexed (t.nextAt q book (Cursor.startingAt index)).1), c)
  | .slice _ _ _ => (.copied 0, c)
  | .rewind => (.done, c.rewind)
  | _ => (.done, c)

/-- A copy starts at its range and leaves the cursor alone. -/
theorem perform_slice (h : s.Lined t q book) (place : Nat) (lower upper : RangeEnd)
    (step : UInt64) :
    s.perform t place (.slice lower upper step)
      = (.copied place, s.fixed book,
          some (s.query.copyAt book (Cursor.between lower.first upper.limit step))) := by
  have hcopy : s.slice lower upper step = _ := Search.fork_ok h.alike.matchbook_eq _
  unfold Search.perform
  simp only [hcopy]
  rfl

/-- **A reading action answers as its cursor sees** and leaves the store in
line with the transport. -/
theorem perform_lined (ht : t.Steady) (h : s.Lined t q book) (place : Nat) {a : Action}
    (ha : a.isReading = true) (hslice : ∀ lower upper step, a ≠ .slice lower upper step) :
    ∃ s', s.perform t place a = ((t.reply q book s.query.cursor a).1, s', none)
      ∧ s'.Lined t q book ∧ s'.query.cursor = (t.reply q book s.query.cursor a).2 := by
  unfold Search.perform
  cases a with
  | edit change => exact absurd ha (by simp [Action.isReading])
  | fetchPage page => exact absurd ha (by simp [Action.isReading])
  | insertPage page body => exact absurd ha (by simp [Action.isReading])
  | slice lower upper step => exact absurd rfl (hslice lower upper step)
  | finalize =>
      refine ⟨s.fixed book, ?_, h.fixed, rfl⟩
      simp only [Search.finalize_ok h.alike.matchbook_eq]
      rfl
  | pageUrl page =>
      refine ⟨s.fixed book, ?_, h.fixed, rfl⟩
      simp only [Search.pageUrl_fixed h.alike.matchbook_eq,
        Search.pageUrl_final Search.stage_fixed]
      rw [h.fixed.alike.urlFor_eq]
      rfl
  | length =>
      obtain ⟨w, hlen, hw, hquery, -⟩ := length_lined ht h
      refine ⟨w, ?_, hw, by rw [hquery]; rfl⟩
      simp only [hlen]
      rfl
  | isEmpty =>
      obtain ⟨w, hempty, hw, hcursor⟩ := isEmpty_lined ht h
      refine ⟨w, ?_, hw, hcursor⟩
      simp only [hempty]
      rfl
  | next =>
      obtain ⟨w, hnext, hw, hcursor⟩ := next_lined ht h
      refine ⟨w, ?_, hw, hcursor⟩
      simp only [hnext]
      rfl
  | get index =>
      obtain ⟨w, hget, hw, hcursor⟩ := get_lined ht h index
      refine ⟨w, ?_, hw, hcursor⟩
      simp only [hget]
      rfl
  | rewind => exact ⟨s.rewind, rfl, h.moveCursor _, rfl⟩

end Lined

end MaterialSearch
