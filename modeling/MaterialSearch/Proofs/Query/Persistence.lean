/-
  MaterialSearch.Proofs.Query.Persistence
  ────────────────────────────────
  **WHAT LASTS THROUGH EVERY READING OPERATION.**

  The operations that read results are put together from three parts: the
  terms are written down, a request is logged, a page is put into the
  store.  A relation between a search before and after that holds across
  each part, and from one to the next, therefore holds across every such
  operation, however it ends.  A step of a walk moves the cursor as well.

  Main definitions:
    * `Search.Persistent` — a relation that holds across each part

  Main results:
    * `Persistent.fetchPage`, `Persistent.insertPage`, `Persistent.length`,
      `Persistent.recordAt` — and so across the operations
    * `Persistent.next` — and across a step, if the cursor does not matter
-/
import MaterialSearch.Query.Family

namespace MaterialSearch.Search

/-- **A relation that lasts**: it holds across each part of an operation,
and from one part to the next. -/
structure Persistent (R : Search → Search → Prop) : Prop where
  refl : ∀ s, R s s
  trans : ∀ {s s' s''}, R s s' → R s' s'' → R s s''
  finalize : ∀ s, R s s.finalize.2
  logged : ∀ s log, R s { s with log := log }
  storePage : ∀ p body url s, R s (s.storePage p body url).2

namespace Persistent

variable {R : Search → Search → Prop} (hR : Persistent R)

include hR

theorem pageUrl (p : Int64) (s : Search) : R s (s.pageUrl p).2 := by
  have hfix := hR.finalize s
  unfold Search.pageUrl
  rcases hf : s.finalize with ⟨book, s'⟩
  rw [hf] at hfix
  cases book <;> exact hfix

/-- **A page requested**, whether it arrives and can be stored or not. -/
theorem fetchPage (t : Transport) (p : Int64) (s : Search) : R s (s.fetchPage t p).2 := by
  have hurl := hR.pageUrl p s
  unfold Search.fetchPage
  rcases hf : s.pageUrl p with ⟨url, s'⟩
  rw [hf] at hurl
  cases url with
  | error e => exact hurl
  | ok url =>
      rcases ha : t.askPage url s'.log with ⟨answer, log⟩
      have hlogged := hR.trans hurl (hR.logged s' log)
      simp only [ha]
      cases answer with
      | error e => exact hlogged
      | ok body => exact hR.trans hlogged (hR.storePage p body url _)

theorem insertPage (p : Int64) (body : Page) (s : Search) : R s (s.insertPage p body).2 := by
  have hurl := hR.pageUrl p s
  unfold Search.insertPage
  rcases hf : s.pageUrl p with ⟨url, s'⟩
  rw [hf] at hurl
  cases url with
  | error e => exact hurl
  | ok url => exact hR.trans hurl (hR.storePage p body url s')

/-- **The number of records**, known or asked for. -/
theorem length (t : Transport) (s : Search) : R s (s.length t).2 := by
  have hfix := hR.finalize s
  unfold Search.length
  rcases hf : s.finalize with ⟨book, s'⟩
  rw [hf] at hfix
  cases book with
  | error e => exact hfix
  | ok book =>
      cases htotal : s'.cache.total with
      | some total =>
          simp only [htotal]
          exact hfix
      | none =>
          have hfetch := hR.fetchPage t s'.query.direction.sign s'
          simp only [htotal]
          rcases hp : s'.fetchPage t s'.query.direction.sign with ⟨done, s''⟩
          rw [hp] at hfetch
          cases done <;> exact hR.trans hfix hfetch

theorem isEmpty (t : Transport) (s : Search) : R s (s.isEmpty t).2 := by
  have hlen := hR.length t s
  unfold Search.isEmpty
  rcases hl : s.length t with ⟨total, s'⟩
  rw [hl] at hlen
  cases total <;> exact hlen

/-- **A record**, whether its page is stored or requested. -/
theorem recordAt (t : Transport) (position : UInt64) (s : Search) :
    R s (s.recordAt t position).2 := by
  unfold Search.recordAt
  cases Slot.locate? position s.query.pageSize s.query.direction with
  | none => exact hR.refl s
  | some slot =>
      dsimp only
      split
      · exact hR.refl s
      · have hfetch := hR.fetchPage t slot.page s
        rcases hp : s.fetchPage t slot.page with ⟨done, s'⟩
        rw [hp] at hfetch
        cases done <;> exact hfetch

theorem fork (c : Cursor) (s : Search) : R s (s.fork c).2 := by
  have hfix := hR.finalize s
  unfold Search.fork
  rcases hf : s.finalize with ⟨book, s'⟩
  rw [hf] at hfix
  cases book <;> exact hfix

/-- A record answered, when it does not matter where the cursor is. -/
theorem goOn (hmove : ∀ s move, R s (s.moveCursor move)) (outcome : Except QueryError Entry)
    (s : Search) : R s (s.goOn outcome).2 := by
  unfold Search.goOn
  split
  · next c _ => exact hmove s fun _ => c
  · exact hR.refl s

/-- **A step of a walk**, when it does not matter where the cursor is. -/
theorem next (hmove : ∀ s move, R s (s.moveCursor move)) (t : Transport) (s : Search) :
    R s (s.next t).2 := by
  unfold Search.next
  split
  · exact hR.refl s
  · have hlen := hR.length t s
    rcases hl : s.length t with ⟨total, s'⟩
    rw [hl] at hlen
    cases total with
    | error e => exact hR.trans hlen (hmove s' Cursor.halt)
    | ok total =>
        dsimp only
        split
        · exact hlen
        · have hrecord := hR.recordAt t s'.query.cursor.position s'
          rcases hr : s'.recordAt t s'.query.cursor.position with ⟨outcome, s''⟩
          rw [hr] at hrecord
          exact hR.trans (hR.trans hlen hrecord) (hR.goOn hmove outcome s'')

end Persistent

end MaterialSearch.Search
